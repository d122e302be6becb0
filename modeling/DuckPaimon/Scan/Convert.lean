/-
Predicate pushdown (paimon_scan.cpp): `TryConvertExpression` and its parts turn a bound filter
into a Paimon predicate, `none` where the C++ returns `nullptr`; `PaimonPushdownFilter` conjoins
what it gets for a list of filters.
-/
import DuckPaimon.Scan.Predicate
import DuckPaimon.TypeUtils

namespace DuckPaimon.Scan

/-- An element of a DuckDB `vector`, whose `operator[]` checks the index. -/
def vectorAt {α : Type} (l : List α) (i : Nat) : Except Exception α :=
  match l[i]? with
  | some a => .ok a
  | none => .error (.internal
      ("Attempted to access index " ++ toString i ++ " within vector of size " ++ toString l.length))

theorem vectorAt_eq_ok {α : Type} {l : List α} {i : Nat} {a : α} : vectorAt l i = .ok a ↔ l[i]? = some a := by
  unfold vectorAt
  split
  · rename_i h; rw [h, Except.ok.injEq, Option.some.injEq]
  · rename_i h; rw [h]; exact ⟨nofun, nofun⟩

/-- `get.GetColumnType(col_idx)`. -/
def LogicalGet.columnType (get : LogicalGet) (column : Nat) : Except Exception LogicalType :=
  vectorAt get.returnedTypes column

/-- `get.GetColumnName(col_idx)`. -/
def LogicalGet.columnName (get : LogicalGet) (column : Nat) : Except Exception String :=
  vectorAt get.names column

/-- The comparison with its operands swapped (`FlipComparisonExpression`). -/
def flipComparisonExpression : ExpressionType → ExpressionType
  | .compareLessThan => .compareGreaterThan
  | .compareGreaterThan => .compareLessThan
  | .compareLessThanOrEqualTo => .compareGreaterThanOrEqualTo
  | .compareGreaterThanOrEqualTo => .compareLessThanOrEqualTo
  | type => type

/-- The leaf a comparison type becomes: `none` for the types `TryConvertComparison` does not handle. -/
def comparisonLeaf : ExpressionType → Option LeafFunction
  | .compareEqual => some .equal
  | .compareNotEqual => some .notEqual
  | .compareLessThan => some .lessThan
  | .compareLessThanOrEqualTo => some .lessOrEqual
  | .compareGreaterThan => some .greaterThan
  | .compareGreaterThanOrEqualTo => some .greaterOrEqual
  | _ => none

/-- `PushdownFunction` and `ClassifyFunction`: the leaf of a supported function. -/
def classifyFunction (name : String) : Option LeafFunction :=
  if name = "prefix" then some .startsWith
  else if name = "suffix" then some .endsWith
  else if name = "contains" then some .contains
  else if name = "~~" then some .like
  else none

section Convert

variable (reader : ValueReader) (builder : PredicateBuilder) (get : LogicalGet)

/-- The part of `TryConvertComparison` after the operands are known to be a column and a constant,
the comparison turned so that the column stands on the left. -/
def convertColumnComparison (type : ExpressionType) (columnIndex : Nat) (value : Value) :
    Except Exception (Option Predicate) := do
  let column ← vectorAt get.columnIds columnIndex
  let paimonType := convertFieldType (← get.columnType column)
  match ← convertLiteral reader value paimonType with
  | none => return none
  | some literal =>
    let name ← get.columnName column
    match comparisonLeaf type with
    | some f => return some (.leaf f column name paimonType [literal])
    | none => return none

/-- `TryConvertComparison`. -/
def tryConvertComparison (type : ExpressionType) (left right : Expression) :
    Except Exception (Option Predicate) :=
  if comparisonLeaf type = none then
    return none
  else
    match left, right with
    | .columnRef i, .constant v => convertColumnComparison reader get type i v
    | .constant v, .columnRef i => convertColumnComparison reader get (flipComparisonExpression type) i v
    | _, _ => return none

/-- `TryConvertBetween`. -/
def tryConvertBetween (input lower upper : Expression) (lowerInclusive upperInclusive : Bool) :
    Except Exception (Option Predicate) :=
  match input, lower, upper with
  | .columnRef i, .constant lo, .constant hi => do
    let column ← vectorAt get.columnIds i
    let paimonType := convertFieldType (← get.columnType column)
    let lowerLiteral ← convertLiteral reader lo paimonType
    let upperLiteral ← convertLiteral reader hi paimonType
    match lowerLiteral, upperLiteral with
    | some lowerLiteral, some upperLiteral =>
      let name ← get.columnName column
      let lowerPred := .leaf (if lowerInclusive then .greaterOrEqual else .greaterThan) column name paimonType
        [lowerLiteral]
      let upperPred := .leaf (if upperInclusive then .lessOrEqual else .lessThan) column name paimonType
        [upperLiteral]
      return builder.and [lowerPred, upperPred]
    | _, _ => return none
  | _, _, _ => return none

/-- The literals of the items of an `IN` or `NOT IN`: an item that is no constant, or a constant
without a literal, is left out of a `NOT IN` (best effort) and gives up an `IN`. -/
def collectLiterals (type : ExpressionType) (paimonType : FieldType) :
    List Expression → Except Exception (Option (List Literal))
  | [] => return some []
  | .constant v :: items => do
    match ← convertLiteral reader v paimonType with
    | some literal => return (← collectLiterals type paimonType items).map (literal :: ·)
    | none => if type = .compareNotIn then collectLiterals type paimonType items else return none
  | _ :: items => if type = .compareNotIn then collectLiterals type paimonType items else return none

/-- The part of `TryConvertOperator` behind the column-reference gate. -/
def convertColumnOperator (type : ExpressionType) (columnIndex : Nat) (items : List Expression) :
    Except Exception (Option Predicate) := do
  let column ← vectorAt get.columnIds columnIndex
  let paimonType := convertFieldType (← get.columnType column)
  let name ← get.columnName column
  match type with
  | .operatorIsNull => return some (.leaf .isNull column name paimonType [])
  | .operatorIsNotNull => return some (.leaf .isNotNull column name paimonType [])
  | .compareIn | .compareNotIn =>
    match ← collectLiterals reader type paimonType items with
    | none | some [] => return none
    | some literals =>
      return some (.leaf (if type = .compareIn then .in else .notIn) column name paimonType literals)
  | _ => return none

/-- The part of `TryConvertFunction` behind its column-reference gate: the pattern is the second
child. -/
def convertColumnPattern (f : LeafFunction) (columnIndex : Nat) (children : List Expression) :
    Except Exception (Option Predicate) := do
  let column ← vectorAt get.columnIds columnIndex
  let name ← get.columnName column
  let paimonType := convertFieldType (← get.columnType column)
  if paimonType ≠ .string then
    return none
  else
    match ← vectorAt children 1 with
    | .constant pattern =>
      match ← convertLiteral reader pattern paimonType with
      | none => return none
      | some literal => return builder.pattern f column name paimonType literal
    | _ => return none

/-- `TryConvertFunction`. -/
def tryConvertFunction (functionName : String) (children : List Expression) :
    Except Exception (Option Predicate) :=
  match classifyFunction functionName with
  | none => return none
  | some f => do
    match ← vectorAt children 0 with
    | .columnRef i => convertColumnPattern reader builder get f i children
    | _ => return none

mutual

/-- `TryConvertExpression`. -/
def tryConvertExpression : Expression → Except Exception (Option Predicate)
  | .comparison type l r => tryConvertComparison reader get type l r
  | .conjunction type cs => do
    match ← convertChildren type cs with
    | none | some [] => return none
    | some ps =>
      match type with
      | .conjunctionAnd => return builder.and ps
      | .conjunctionOr => return builder.or ps
      | _ => return none
  | .between x lo hi loInc hiInc => tryConvertBetween reader builder get x lo hi loInc hiInc
  | .operator type cs => tryConvertOperator type cs
  | .function name cs => tryConvertFunction reader builder get name cs
  | .columnRef _ | .constant _ | .other _ _ => return none

/-- `TryConvertOperator`. -/
def tryConvertOperator (type : ExpressionType) : List Expression → Except Exception (Option Predicate)
  | [] =>
    match type with
    | .compareIn | .compareNotIn | .operatorIsNull | .operatorIsNotNull | .operatorNot => do
      let _ ← vectorAt ([] : List Expression) 0
      return none
    | _ => return none
  | c :: cs =>
    match type with
    | .operatorNot => do
      -- NOT wraps an arbitrary sub-expression; it is handled before the column-ref gate
      match ← tryConvertExpression c with
      | none => return none
      | some p => return builder.not p
    | .compareIn | .compareNotIn | .operatorIsNull | .operatorIsNotNull =>
      match c with
      | .columnRef i => convertColumnOperator reader get type i cs
      | _ => return none
    | _ => return none

/-- The loop of `TryConvertConjunction`: `none` when a child of a disjunction is not convertible,
otherwise the predicates of the convertible children. -/
def convertChildren (type : ExpressionType) : List Expression → Except Exception (Option (List Predicate))
  | [] => return some []
  | c :: cs => do
    match ← tryConvertExpression c with
    | some p => return (← convertChildren type cs).map (p :: ·)
    | none => if type = .conjunctionOr then return none else convertChildren type cs

end

/-- The predicates of the convertible filters of a list, in order. -/
def convertFilters : List Expression → Except Exception (List Predicate)
  | [] => return []
  | f :: fs => do
    match ← tryConvertExpression reader builder get f with
    | some p => return p :: (← convertFilters fs)
    | none => convertFilters fs

/-- The predicate `PaimonPushdownFilter` stores in the bind data: the conjunction of the converted
filters, or none when there is none. -/
def pushdownPredicates (filters : List Expression) : Except Exception (Option Predicate) := do
  let predicates ← convertFilters reader builder get filters
  if predicates ≠ [] then
    match builder.andError predicates with
    | none => return some (.and predicates)
    | some text => throw (.io text)
  else
    return none

end Convert

end DuckPaimon.Scan
