/-
Paimon predicates as the extension uses them: the tree a `PredicateBuilder` makes, the negation
that `PredicateBuilder::Not` pushes to its leaves, and when a predicate holds on a row.

The builder's conjunction, disjunction, negation and pattern leaves return a status, so whether
they succeed is a parameter; so is the test a leaf performs on a non-NULL column value.
-/
import DuckPaimon.Scan.Expression

namespace DuckPaimon.Scan

/-- The function of a leaf predicate. -/
inductive LeafFunction
  | equal | notEqual | lessThan | greaterOrEqual | greaterThan | lessOrEqual | isNull | isNotNull
  | in | notIn | startsWith | notStartsWith | endsWith | notEndsWith | contains | notContains
  | like | notLike
  deriving DecidableEq, Repr

/-- The function that a negated leaf gets. -/
def LeafFunction.negate : LeafFunction → LeafFunction
  | .equal => .notEqual
  | .notEqual => .equal
  | .lessThan => .greaterOrEqual
  | .greaterOrEqual => .lessThan
  | .greaterThan => .lessOrEqual
  | .lessOrEqual => .greaterThan
  | .isNull => .isNotNull
  | .isNotNull => .isNull
  | .in => .notIn
  | .notIn => .in
  | .startsWith => .notStartsWith
  | .notStartsWith => .startsWith
  | .endsWith => .notEndsWith
  | .notEndsWith => .endsWith
  | .contains => .notContains
  | .notContains => .contains
  | .like => .notLike
  | .notLike => .like

/-- `paimon::Predicate`. -/
inductive Predicate
  | leaf (function : LeafFunction) (fieldIndex : Nat) (fieldName : String) (fieldType : FieldType)
      (literals : List Literal)
  | and (children : List Predicate)
  | or (children : List Predicate)

namespace Predicate

mutual

/-- The negation of a predicate, pushed to the leaves by De Morgan's laws. -/
def negate : Predicate → Predicate
  | .leaf f index name type literals => .leaf f.negate index name type literals
  | .and ps => .or (negateList ps)
  | .or ps => .and (negateList ps)

/-- The negations of a list of predicates. -/
def negateList : List Predicate → List Predicate
  | [] => []
  | p :: ps => negate p :: negateList ps

end

/-- The test a leaf performs on a non-NULL column value, given its literals. -/
abbrev LeafTest := LeafFunction → FieldType → Value → List Literal → Bool

/-- A leaf on a column value: on NULL every leaf but `IsNull` is false. -/
def leafHolds (test : LeafTest) (f : LeafFunction) (type : FieldType) (v : Value)
    (literals : List Literal) : Bool :=
  match f with
  | .isNull => v.isNull
  | .isNotNull => !v.isNull
  | f => !v.isNull && test f type v literals

theorem leafHolds_test {f : LeafFunction} (h : f ≠ .isNull ∧ f ≠ .isNotNull) (test : LeafTest) (type : FieldType)
    (v : Value) (literals : List Literal) :
    leafHolds test f type v literals = (!v.isNull && test f type v literals) := by
  obtain ⟨h1, h2⟩ := h
  cases f <;> first | rfl | contradiction

mutual

/-- Whether a predicate holds on a row. -/
def holds (test : LeafTest) (row : Row) : Predicate → Bool
  | .leaf f index _ type literals => leafHolds test f type (row index) literals
  | .and ps => allHold test row ps
  | .or ps => anyHolds test row ps

/-- Whether every predicate of a list holds on a row. -/
def allHold (test : LeafTest) (row : Row) : List Predicate → Bool
  | [] => true
  | p :: ps => holds test row p && allHold test row ps

/-- Whether some predicate of a list holds on a row. -/
def anyHolds (test : LeafTest) (row : Row) : List Predicate → Bool
  | [] => false
  | p :: ps => holds test row p || anyHolds test row ps

end

attribute [local simp] holds negate

theorem allHold_eq_all (test : LeafTest) (row : Row) (ps : List Predicate) :
    allHold test row ps = ps.all (holds test row) := by
  induction ps with
  | nil => rfl
  | cons p ps ih => rw [allHold, ih, List.all_cons]

theorem anyHolds_eq_any (test : LeafTest) (row : Row) (ps : List Predicate) :
    anyHolds test row ps = ps.any (holds test row) := by
  induction ps with
  | nil => rfl
  | cons p ps ih => rw [anyHolds, ih, List.any_cons]

theorem negateList_eq_map (ps : List Predicate) : negateList ps = ps.map negate := by
  induction ps with
  | nil => rfl
  | cons p ps ih => rw [negateList, ih, List.map_cons]

@[simp] theorem holds_and (test : LeafTest) (row : Row) (ps : List Predicate) :
    holds test row (.and ps) = ps.all (holds test row) := by simp [allHold_eq_all]

@[simp] theorem holds_or (test : LeafTest) (row : Row) (ps : List Predicate) :
    holds test row (.or ps) = ps.any (holds test row) := by simp [anyHolds_eq_any]

@[simp] theorem negate_and (ps : List Predicate) : negate (.and ps) = .or (ps.map negate) := by
  simp [negateList_eq_map]

@[simp] theorem negate_or (ps : List Predicate) : negate (.or ps) = .and (ps.map negate) := by
  simp [negateList_eq_map]

@[simp] theorem negate_negate_function (f : LeafFunction) : f.negate.negate = f := by cases f <;> rfl

mutual

theorem negate_negate : ∀ p : Predicate, p.negate.negate = p
  | .leaf f index name type literals => by rw [negate, negate, negate_negate_function]
  | .and ps => by rw [negate, negate, negateList_negateList ps]
  | .or ps => by rw [negate, negate, negateList_negateList ps]

theorem negateList_negateList : ∀ ps : List Predicate, negateList (negateList ps) = ps
  | [] => rfl
  | p :: ps => by rw [negateList, negateList, negate_negate p, negateList_negateList ps]

end

end Predicate

/-- Which calls of `paimon::PredicateBuilder` succeed. -/
structure PredicateBuilder where
  /-- The status text of a failing `And`. -/
  andError : List Predicate → Option String
  orOk : List Predicate → Bool
  notOk : Predicate → Bool
  /-- `StartsWith`, `EndsWith`, `Contains` and `Like`. -/
  patternOk : LeafFunction → FieldType → Literal → Bool

namespace PredicateBuilder

variable (builder : PredicateBuilder)

/-- `result.ok() ? result.value() : nullptr` of `PredicateBuilder::And`. -/
def and (ps : List Predicate) : Option Predicate :=
  match builder.andError ps with
  | none => some (.and ps)
  | some _ => none

/-- `result.ok() ? result.value() : nullptr` of `PredicateBuilder::Or`. -/
def or (ps : List Predicate) : Option Predicate := if builder.orOk ps then some (.or ps) else none

/-- `result.ok() ? result.value() : nullptr` of `PredicateBuilder::Not`. -/
def not (p : Predicate) : Option Predicate := if builder.notOk p then some p.negate else none

/-- `result.ok() ? result.value() : nullptr` of a string-pattern leaf. -/
def pattern (f : LeafFunction) (index : Nat) (name : String) (type : FieldType) (literal : Literal) :
    Option Predicate :=
  if builder.patternOk f type literal then some (.leaf f index name type [literal]) else none

/-- Every call succeeds, as Paimon's do on non-empty lists and on the leaves it knows. -/
structure Succeeds : Prop where
  and_ok : ∀ ps, ps ≠ [] → builder.andError ps = none
  or_ok : ∀ ps, ps ≠ [] → builder.orOk ps = true
  not_ok : ∀ p, builder.notOk p = true
  pattern_ok : ∀ f type literal, builder.patternOk f type literal = true

variable {builder}

theorem Succeeds.and_eq (h : builder.Succeeds) {ps : List Predicate} (hps : ps ≠ []) :
    builder.and ps = some (.and ps) := by
  rw [PredicateBuilder.and, h.and_ok ps hps]

theorem Succeeds.or_eq (h : builder.Succeeds) {ps : List Predicate} (hps : ps ≠ []) :
    builder.or ps = some (.or ps) := by
  rw [PredicateBuilder.or, h.or_ok ps hps]
  rfl

theorem Succeeds.not_eq (h : builder.Succeeds) (p : Predicate) : builder.not p = some p.negate := by
  rw [PredicateBuilder.not, h.not_ok p]
  rfl

theorem Succeeds.pattern_eq (h : builder.Succeeds) (f : LeafFunction) (index : Nat) (name : String)
    (type : FieldType) (literal : Literal) :
    builder.pattern f index name type literal = some (.leaf f index name type [literal]) := by
  rw [PredicateBuilder.pattern, h.pattern_ok]
  rfl

end PredicateBuilder

end DuckPaimon.Scan
