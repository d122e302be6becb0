/-
DuckDB's bound filter expressions over a table scan and their value on a row, under SQL's
three-valued logic: a row gives every table column a value, possibly NULL, and an expression is
TRUE on the row when its truth value is known and true.

What the filters do not fix is a parameter: the comparison of two non-NULL values, the scalar
functions, and the expressions of the other classes (casts, cases, parameters).
-/
import DuckPaimon.Lib.Ternary
import DuckPaimon.Types

namespace DuckPaimon.Scan

/-- `ExpressionType` of comparison, operator and conjunction nodes. -/
inductive ExpressionType
  | compareEqual | compareNotEqual | compareLessThan | compareGreaterThan | compareLessThanOrEqualTo
  | compareGreaterThanOrEqualTo | compareDistinctFrom | compareNotDistinctFrom | compareIn | compareNotIn
  | operatorIsNull | operatorIsNotNull | operatorNot | operatorCoalesce | operatorTry | operatorUnpack
  | conjunctionAnd | conjunctionOr
  deriving DecidableEq, Repr

/-- A bound expression, by its `ExpressionClass`. -/
inductive Expression
  /-- `BOUND_COLUMN_REF`: the column at a position of the scan's column ids. -/
  | columnRef (columnIndex : Nat)
  /-- `BOUND_CONSTANT`. -/
  | constant (value : Value)
  /-- `BOUND_COMPARISON`. -/
  | comparison (type : ExpressionType) (left right : Expression)
  /-- `BOUND_BETWEEN`. -/
  | between (input lower upper : Expression) (lowerInclusive upperInclusive : Bool)
  /-- `BOUND_OPERATOR`. -/
  | operator (type : ExpressionType) (children : List Expression)
  /-- `BOUND_CONJUNCTION`. -/
  | conjunction (type : ExpressionType) (children : List Expression)
  /-- `BOUND_FUNCTION`, by the name of its function. -/
  | function (name : String) (children : List Expression)
  /-- Every other class, by a description of the node. -/
  | other (node : String) (children : List Expression)

/-- The part of `LogicalGet` the filters read: the scanned columns, as positions in the table, and
the table's column names and types. -/
structure LogicalGet where
  columnIds : List Nat
  names : List String
  returnedTypes : List LogicalType

/-- A row of the table: the value of each column by its position in the table. -/
abbrev Row := Nat → Value

/-- DuckDB's evaluation where the filters leave it open. -/
structure Engine where
  /-- `Equals` on two non-NULL values. -/
  equals : Value → Value → Bool
  /-- `GreaterThan` on two non-NULL values. -/
  greaterThan : Value → Value → Bool
  /-- A scalar function on the values of its arguments. -/
  scalarFunction : String → List Value → Value
  /-- An operator other than those below. -/
  operator : ExpressionType → List Value → Value
  /-- An expression of another class. -/
  other : String → List Value → Value
  equals_comm : ∀ a b, equals a b = equals b a

namespace Engine

variable (eng : Engine)

/-- A comparison of two non-NULL values: DuckDB derives every operator from `Equals` and
`GreaterThan`. -/
def compare (type : ExpressionType) (l r : Value) : Bool :=
  match type with
  | .compareEqual | .compareNotDistinctFrom => eng.equals l r
  | .compareNotEqual | .compareDistinctFrom => !eng.equals l r
  | .compareGreaterThan => eng.greaterThan l r
  | .compareLessThan => eng.greaterThan r l
  | .compareLessThanOrEqualTo => !eng.greaterThan l r
  | .compareGreaterThanOrEqualTo => !eng.greaterThan r l
  | _ => false

/-- A comparison of two values: unknown when an operand is NULL, except that `IS [NOT] DISTINCT
FROM` treats NULL as a value. -/
def compareNullable (type : ExpressionType) (l r : Value) : Option Bool :=
  match type with
  | .compareDistinctFrom =>
    some (if l.isNull || r.isNull then l.isNull != r.isNull else eng.compare type l r)
  | .compareNotDistinctFrom =>
    some (if l.isNull || r.isNull then l.isNull == r.isNull else eng.compare type l r)
  | _ => if l.isNull || r.isNull then none else some (eng.compare type l r)

/-- `x [NOT] BETWEEN`-style range test with each bound inclusive or not. -/
def betweenNullable (input lower upper : Value) (lowerInclusive upperInclusive : Bool) : Option Bool :=
  Ternary.all
    [eng.compareNullable (if lowerInclusive then .compareGreaterThanOrEqualTo else .compareGreaterThan) input lower,
      eng.compareNullable (if upperInclusive then .compareLessThanOrEqualTo else .compareLessThan) input upper]

/-- `x IN (items)`: the disjunction of the equalities. -/
def inNullable (x : Value) (items : List Value) : Option Bool :=
  Ternary.any (items.map (eng.compareNullable .compareEqual x))

/-- A `BOUND_OPERATOR` on the values of its children: NOT, IS NULL and IS NOT NULL have one. -/
def operatorValue (type : ExpressionType) (values : List Value) : Value :=
  match type, values with
  | .operatorNot, v :: _ => .ofTruth (Ternary.not v.truth)
  | .operatorIsNull, v :: _ => .ofTruth (some v.isNull)
  | .operatorIsNotNull, v :: _ => .ofTruth (some (!v.isNull))
  | .compareIn, x :: items => .ofTruth (eng.inNullable x items)
  | .compareNotIn, x :: items => .ofTruth (Ternary.not (eng.inNullable x items))
  | type, values => eng.operator type values

/-- A `BOUND_CONJUNCTION` on the values of its children. -/
def conjunctionValue (type : ExpressionType) (values : List Value) : Value :=
  match type with
  | .conjunctionAnd => .ofTruth (Ternary.all (values.map Value.truth))
  | .conjunctionOr => .ofTruth (Ternary.any (values.map Value.truth))
  | _ => eng.operator type values

end Engine

section Eval

variable (eng : Engine) (get : LogicalGet)

mutual

/-- The value of an expression on a row. -/
def eval (row : Row) : Expression → Value
  | .columnRef i =>
    match get.columnIds[i]? with
    | some c => row c
    | none => .null { id := .invalid }
  | .constant v => v
  | .comparison type l r => .ofTruth (eng.compareNullable type (eval row l) (eval row r))
  | .between x lo hi loInc hiInc =>
    .ofTruth (eng.betweenNullable (eval row x) (eval row lo) (eval row hi) loInc hiInc)
  | .operator type cs => eng.operatorValue type (evalList row cs)
  | .conjunction type cs => eng.conjunctionValue type (evalList row cs)
  | .function name cs => eng.scalarFunction name (evalList row cs)
  | .other node cs => eng.other node (evalList row cs)

/-- The values of a list of expressions on a row. -/
def evalList (row : Row) : List Expression → List Value
  | [] => []
  | c :: cs => eval row c :: evalList row cs

end

/-- The truth value of an expression on a row. -/
def truth (row : Row) (e : Expression) : Option Bool := (eval eng get row e).truth

attribute [local simp] truth eval evalList Engine.operatorValue Engine.conjunctionValue

theorem evalList_eq_map (row : Row) (cs : List Expression) :
    evalList eng get row cs = cs.map (eval eng get row) := by
  induction cs with
  | nil => rfl
  | cons c cs ih => rw [evalList, ih, List.map_cons]

theorem truth_comparison (row : Row) (type : ExpressionType) (l r : Expression) :
    truth eng get row (.comparison type l r) =
      eng.compareNullable type (eval eng get row l) (eval eng get row r) := by
  simp

theorem truth_between (row : Row) (x lo hi : Expression) (loInc hiInc : Bool) :
    truth eng get row (.between x lo hi loInc hiInc) =
      eng.betweenNullable (eval eng get row x) (eval eng get row lo) (eval eng get row hi) loInc hiInc := by
  simp

theorem truth_not (row : Row) (c : Expression) (cs : List Expression) :
    truth eng get row (.operator .operatorNot (c :: cs)) = Ternary.not (truth eng get row c) := by
  simp

theorem truth_isNull (row : Row) (c : Expression) (cs : List Expression) :
    truth eng get row (.operator .operatorIsNull (c :: cs)) = some (eval eng get row c).isNull := by
  simp

theorem truth_isNotNull (row : Row) (c : Expression) (cs : List Expression) :
    truth eng get row (.operator .operatorIsNotNull (c :: cs)) = some (!(eval eng get row c).isNull) := by
  simp

theorem truth_in (row : Row) (c : Expression) (cs : List Expression) :
    truth eng get row (.operator .compareIn (c :: cs)) =
      eng.inNullable (eval eng get row c) (cs.map (eval eng get row)) := by
  simp [evalList_eq_map]

theorem truth_notIn (row : Row) (c : Expression) (cs : List Expression) :
    truth eng get row (.operator .compareNotIn (c :: cs)) =
      Ternary.not (eng.inNullable (eval eng get row c) (cs.map (eval eng get row))) := by
  simp [evalList_eq_map]

theorem truth_and (row : Row) (cs : List Expression) :
    truth eng get row (.conjunction .conjunctionAnd cs) = Ternary.all (cs.map (truth eng get row)) := by
  simp only [truth, eval, evalList_eq_map, Engine.conjunctionValue, Value.truth_ofTruth, List.map_map]
  rfl

theorem truth_or (row : Row) (cs : List Expression) :
    truth eng get row (.conjunction .conjunctionOr cs) = Ternary.any (cs.map (truth eng get row)) := by
  simp only [truth, eval, evalList_eq_map, Engine.conjunctionValue, Value.truth_ofTruth, List.map_map]
  rfl

end Eval

end DuckPaimon.Scan
