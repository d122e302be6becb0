/-
What predicate pushdown is meant to do with a filter it cannot convert: leave it to DuckDB.
`pushed` is that conversion, total and without exceptions; `tryConvertExpression` follows it, except
that it throws where it reads a NULL constant (`readsNull`).
-/
import DuckPaimon.Scan.Partition

namespace DuckPaimon.Scan

open Outcome

/-! ## Columns -/

/-- A column of a scan: its position in the table, its name and its type. -/
structure ScanColumn where
  position : Nat
  name : String
  type : LogicalType

namespace ScanColumn

def fieldType (column : ScanColumn) : FieldType := convertFieldType column.type

/-- The leaf a `PredicateBuilder` makes for the column. -/
def leaf (column : ScanColumn) (f : LeafFunction) (literals : List Literal) : Predicate :=
  .leaf f column.position column.name column.fieldType literals

end ScanColumn

/-- The column at a position of the scan's column ids. -/
def LogicalGet.column? (get : LogicalGet) (columnIndex : Nat) : Option ScanColumn := do
  let position ← get.columnIds[columnIndex]?
  let type ← get.returnedTypes[position]?
  let name ← get.names[position]?
  return ⟨position, name, type⟩

section BestEffort

variable (reader : ValueReader) (builder : PredicateBuilder) (get : LogicalGet)

/-! ## Best effort -/

/-- The literal of a constant for a column, if it has one. -/
def pushedLiteral (column : ScanColumn) (v : Value) : Option Literal :=
  match convertLiteral reader v column.fieldType with
  | .ok literal => literal
  | .error _ => none

/-- The comparison of a column with a constant. -/
def pushedComparison (type : ExpressionType) (column : ScanColumn) (v : Value) : Option Predicate :=
  match comparisonLeaf type, pushedLiteral reader column v with
  | some f, some literal => some (column.leaf f [literal])
  | _, _ => none

/-- The range test of a column. -/
def pushedBetween (column : ScanColumn) (lo hi : Value) (lowerInclusive upperInclusive : Bool) : Option Predicate :=
  match pushedLiteral reader column lo, pushedLiteral reader column hi with
  | some lower, some upper =>
    builder.and [column.leaf (if lowerInclusive then .greaterOrEqual else .greaterThan) [lower],
      column.leaf (if upperInclusive then .lessOrEqual else .lessThan) [upper]]
  | _, _ => none

/-- The pattern test of a text column. -/
def pushedPattern (name : String) (column : ScanColumn) (pattern : Value) : Option Predicate :=
  match classifyFunction name, pushedLiteral reader column pattern with
  | some f, some literal =>
    if column.fieldType = .string then builder.pattern f column.position column.name column.fieldType literal else none
  | _, _ => none

/-- The literal of an item. -/
def itemLiteral (column : ScanColumn) : Expression → Option Literal
  | .constant v => pushedLiteral reader column v
  | _ => none

/-- A membership test of a column, unless it has no literal. -/
def membershipLeaf (column : ScanColumn) (f : LeafFunction) : List Literal → Option Predicate
  | [] => none
  | literals => some (column.leaf f literals)

/-- The operators of a column. -/
def pushedOperator (type : ExpressionType) (column : ScanColumn) (items : List Expression) : Option Predicate :=
  match type with
  | .operatorIsNull => some (column.leaf .isNull [])
  | .operatorIsNotNull => some (column.leaf .isNotNull [])
  | .compareIn => (items.mapM (itemLiteral reader column)).bind (membershipLeaf column .in)
  | .compareNotIn => membershipLeaf column .notIn (items.filterMap (itemLiteral reader column))
  | _ => none

/-- A predicate of a list, unless the list is empty. -/
def ofNonempty (make : List Predicate → Option Predicate) : List Predicate → Option Predicate
  | [] => none
  | ps => make ps

mutual

/-- The predicate of an expression as far as it is convertible, `none` where it is not pushed. -/
def pushed : Expression → Option Predicate
  | .comparison type (.columnRef i) (.constant v) => (get.column? i).bind fun column => pushedComparison reader type column v
  | .comparison type (.constant v) (.columnRef i) =>
    (get.column? i).bind fun column => pushedComparison reader (flipComparisonExpression type) column v
  | .between (.columnRef i) (.constant lo) (.constant hi) loInc hiInc =>
    (get.column? i).bind fun column => pushedBetween reader builder column lo hi loInc hiInc
  | .function name (.columnRef i :: .constant pattern :: _) =>
    (get.column? i).bind fun column => pushedPattern reader builder name column pattern
  | .conjunction .conjunctionAnd cs => ofNonempty builder.and (pushedSome cs)
  | .conjunction .conjunctionOr cs => (pushedAll cs).bind (ofNonempty builder.or)
  | .operator .operatorNot (c :: _) => (pushed c).bind builder.not
  | .operator type (.columnRef i :: items) => (get.column? i).bind fun column => pushedOperator reader type column items
  | _ => none

/-- The predicates of the expressions of a list that are pushed. -/
def pushedSome : List Expression → List Predicate
  | [] => []
  | c :: cs => (pushed c).toList ++ pushedSome cs

/-- The predicates of a list of expressions that are all pushed. -/
def pushedAll : List Expression → Option (List Predicate)
  | [] => some []
  | c :: cs => (pushed c).bind fun p => (pushedAll cs).map (p :: ·)

end

/-- What is stored for a list of filters. -/
def pushedFilters (filters : List Expression) : Option Predicate :=
  match filters.filterMap (pushed reader builder get) with
  | [] => none
  | predicates => some (.and predicates)

/-! ## NULL constants -/

/-- A NULL constant. -/
def nullConstant : Expression → Bool
  | .constant v => v.isNull
  | _ => false

/-- A NULL item of an IN that no item without a literal stands before. -/
def itemsReadNull (column : ScanColumn) : List Expression → Bool
  | [] => false
  | item :: items => nullConstant item || ((itemLiteral reader column item).isSome && itemsReadNull column items)

mutual

/-- The conversion reads a NULL constant: the operand of a comparison with a column, a bound of a range test,
an item of an IN or NOT IN, the pattern of a text column; in a disjunction up to the first disjunct that is
not pushed. -/
def readsNull : Expression → Bool
  | .comparison type (.columnRef _) (.constant v) => (comparisonLeaf type).isSome && v.isNull
  | .comparison type (.constant v) (.columnRef _) => (comparisonLeaf type).isSome && v.isNull
  | .between (.columnRef _) (.constant lo) (.constant hi) _ _ => lo.isNull || hi.isNull
  | .function name (.columnRef i :: .constant pattern :: _) =>
    (classifyFunction name).isSome && (columnFieldType get i == some .string) && pattern.isNull
  | .conjunction .conjunctionOr cs => disjunctsReadNull cs
  | .conjunction _ cs => someReadsNull cs
  | .operator .operatorNot (c :: _) => readsNull c
  | .operator .compareIn (.columnRef i :: items) =>
    match get.column? i with
    | some column => itemsReadNull reader column items
    | none => false
  | .operator .compareNotIn (.columnRef _ :: items) => items.any nullConstant
  | _ => false

/-- `readsNull` of an expression of a list. -/
def someReadsNull : List Expression → Bool
  | [] => false
  | c :: cs => readsNull c || someReadsNull cs

/-- `readsNull` of a disjunct behind disjuncts that are pushed. -/
def disjunctsReadNull : List Expression → Bool
  | [] => false
  | c :: cs => readsNull c || ((pushed reader builder get c).isSome && disjunctsReadNull cs)

end

/-! ## Bound filters -/

/-- The type of a column reference or a constant. -/
def valueType : Expression → Option LogicalType
  | .columnRef i => (get.column? i).map (·.type)
  | .constant v => some v.type
  | _ => none

/-- Two operands have one type, as far as it shows. -/
def SameType (a b : Expression) : Prop := ∀ s t, valueType get a = some s → valueType get b = some t → s = t

/-- What the binder has checked of an operator's children. -/
def BoundOperator (type : ExpressionType) (children : List Expression) : Prop :=
  match type with
  | .compareIn | .compareNotIn =>
    ∃ input item items, children = input :: item :: items ∧ ∀ e ∈ item :: items, SameType get input e
  | .operatorIsNull | .operatorIsNotNull | .operatorNot => ∃ child, children = [child]
  | _ => True

/-- What it has checked of a pattern function's: a text and, for a VARCHAR one, a VARCHAR pattern. -/
def BoundFunction (name : String) (children : List Expression) : Prop :=
  (classifyFunction name).isSome → ∃ text pattern, children = [text, pattern] ∧
    ∀ s t, valueType get text = some s → s.id = .varchar → valueType get pattern = some t → t.id = .varchar

mutual

/-- A bound filter: column references are in range, and operands are cast to one type. -/
def WellBound : Expression → Prop
  | .columnRef i => (get.column? i).isSome
  | .constant _ => True
  | .comparison _ l r => WellBound l ∧ WellBound r ∧ SameType get l r
  | .between x lo hi _ _ => WellBound x ∧ WellBound lo ∧ WellBound hi ∧ SameType get x lo ∧ SameType get x hi
  | .operator type cs => BoundOperator get type cs ∧ AllBound cs
  | .conjunction _ cs => AllBound cs
  | .function name cs => BoundFunction get name cs ∧ AllBound cs
  | .other _ cs => AllBound cs

def AllBound : List Expression → Prop
  | [] => True
  | c :: cs => WellBound c ∧ AllBound cs

end

end BestEffort

/-- What a NULL constant makes `ConvertLiteral` throw. -/
def nullLiteral : Exception := .io "literal cannot be NULL"

/-- `GetValue` reads the constants of the types it is asked for. -/
structure ReadsOwnTypes (reader : ValueReader) : Prop where
  boolean : ∀ v : Value, v.isNull = false → convertFieldType v.type = .boolean → ∃ b, reader.getBool v = .ok b
  tinyint : ∀ v : Value, v.isNull = false → convertFieldType v.type = .tinyint → ∃ i, reader.getInt8 v = .ok i
  smallint : ∀ v : Value, v.isNull = false → convertFieldType v.type = .smallint → ∃ i, reader.getInt16 v = .ok i
  int : ∀ v : Value, v.isNull = false → convertFieldType v.type = .int → ∃ i, reader.getInt32 v = .ok i
  bigint : ∀ v : Value, v.isNull = false → convertFieldType v.type = .bigint → ∃ i, reader.getInt64 v = .ok i
  float : ∀ v : Value, v.isNull = false → convertFieldType v.type = .float → ∃ x, reader.getFloat v = .ok x
  double : ∀ v : Value, v.isNull = false → convertFieldType v.type = .double → ∃ x, reader.getDouble v = .ok x
  string : ∀ v : Value, v.isNull = false → convertFieldType v.type = .string → ∃ s, reader.getString v = .ok s
  date : ∀ v : Value, v.isNull = false → convertFieldType v.type = .date → ∃ i, reader.getInt32 v = .ok i
  timestamp : ∀ v : Value, v.isNull = false → convertFieldType v.type = .timestamp → ∃ i, reader.getTimestamp v = .ok i

theorem convertFieldType_eq_decimal {type : LogicalType} (h : convertFieldType type = .decimal) : type.id = .decimal := by
  unfold convertFieldType at h
  split at h <;> first | assumption | cases h

theorem convertFieldType_eq_string {type : LogicalType} (h : convertFieldType type = .string) : type.id = .varchar := by
  unfold convertFieldType at h
  split at h <;> first | assumption | cases h

/-- A constant that is not NULL has a literal of its own type, or none. -/
theorem ReadsOwnTypes.convertLiteral {reader : ValueReader} (h : ReadsOwnTypes reader) {v : Value}
    (hv : v.isNull = false) : ∃ literal, convertLiteral reader v (convertFieldType v.type) = .ok literal := by
  unfold DuckPaimon.convertLiteral
  rw [hv, if_neg Bool.false_ne_true]
  split
  case h_1 ht => exact ⟨_, bind_eq_ok.2 ⟨_, (h.boolean v hv ht).choose_spec, rfl⟩⟩
  case h_2 ht => exact ⟨_, bind_eq_ok.2 ⟨_, (h.tinyint v hv ht).choose_spec, rfl⟩⟩
  case h_3 ht => exact ⟨_, bind_eq_ok.2 ⟨_, (h.smallint v hv ht).choose_spec, rfl⟩⟩
  case h_4 ht => exact ⟨_, bind_eq_ok.2 ⟨_, (h.int v hv ht).choose_spec, rfl⟩⟩
  case h_5 ht => exact ⟨_, bind_eq_ok.2 ⟨_, (h.bigint v hv ht).choose_spec, rfl⟩⟩
  case h_6 ht => exact ⟨_, bind_eq_ok.2 ⟨_, (h.float v hv ht).choose_spec, rfl⟩⟩
  case h_7 ht => exact ⟨_, bind_eq_ok.2 ⟨_, (h.double v hv ht).choose_spec, rfl⟩⟩
  case h_8 ht => exact ⟨_, bind_eq_ok.2 ⟨_, (h.string v hv ht).choose_spec, rfl⟩⟩
  case h_9 ht => exact ⟨_, bind_eq_ok.2 ⟨_, (h.date v hv ht).choose_spec, rfl⟩⟩
  case h_10 ht => exact ⟨_, bind_eq_ok.2 ⟨_, (h.timestamp v hv ht).choose_spec, rfl⟩⟩
  case h_11 ht =>
    rw [if_neg (not_not.2 (convertFieldType_eq_decimal ht))]
    split <;> exact ⟨_, rfl⟩
  case h_12 => exact ⟨_, rfl⟩
  case h_13 => exact ⟨_, rfl⟩

/-! ## The conversion follows -/

section Follows

variable {reader : ValueReader} {builder : PredicateBuilder} {get : LogicalGet}

attribute [local simp] pushed readsNull WellBound

theorem column?_eq_some {i : Nat} {column : ScanColumn} (h : get.column? i = some column) :
    vectorAt get.columnIds i = .ok column.position ∧ get.columnType column.position = .ok column.type ∧
      get.columnName column.position = .ok column.name := by
  unfold LogicalGet.column? at h
  obtain ⟨position, hposition, h⟩ := Option.bind_eq_some_iff.1 h
  obtain ⟨type, htype, h⟩ := Option.bind_eq_some_iff.1 h
  obtain ⟨name, hname, h⟩ := Option.bind_eq_some_iff.1 h
  cases h
  exact ⟨vectorAt_eq_ok.2 hposition, vectorAt_eq_ok.2 htype, vectorAt_eq_ok.2 hname⟩

/-- A constant of a column's type: its conversion throws if it is NULL. -/
theorem convertLiteral_eq (reads : ReadsOwnTypes reader) {column : ScanColumn} {v : Value}
    (htype : convertFieldType v.type = column.fieldType) :
    convertLiteral reader v column.fieldType =
      if v.isNull then .error nullLiteral else .ok (pushedLiteral reader column v) := by
  cases hv : v.isNull with
  | true =>
    unfold DuckPaimon.convertLiteral
    rw [hv]
    rfl
  | false =>
    obtain ⟨literal, hliteral⟩ := reads.convertLiteral hv
    rw [htype] at hliteral
    rw [if_neg Bool.false_ne_true, pushedLiteral, hliteral]

theorem ok_bind {α β : Type} (a : α) (f : α → Except Exception β) : (Except.ok a >>= f) = f a := rfl

theorem column?_of_bound {i : Nat} (h : WellBound get (.columnRef i)) : ∃ column, get.column? i = some column := by
  rw [WellBound] at h
  exact Option.isSome_iff_exists.1 h

theorem SameType.symm {a b : Expression} (h : SameType get a b) : SameType get b a :=
  fun s t hs ht => (h t s ht hs).symm

/-- A constant next to a column has a literal of the column's type, or none. -/
theorem fieldType_of_sameType {i : Nat} {column : ScanColumn} {v : Value} (hcolumn : get.column? i = some column)
    (h : SameType get (.columnRef i) (.constant v)) : convertFieldType v.type = column.fieldType :=
  congrArg convertFieldType (h _ _ (by rw [valueType, hcolumn]; rfl) rfl).symm

theorem convertColumnComparison_eq (reads : ReadsOwnTypes reader) {type : ExpressionType} {i : Nat} {column : ScanColumn}
    {v : Value} (hcolumn : get.column? i = some column) (htype : convertFieldType v.type = column.fieldType) :
    convertColumnComparison reader get type i v =
      if v.isNull then .error nullLiteral else .ok (pushedComparison reader type column v) := by
  obtain ⟨hposition, htypeOf, hname⟩ := column?_eq_some hcolumn
  unfold convertColumnComparison pushedComparison
  rw [hposition, ok_bind, htypeOf, ok_bind]
  change (convertLiteral reader v column.fieldType >>= _) = _
  rw [convertLiteral_eq reads htype]
  split
  · rfl
  · rw [ok_bind]
    cases pushedLiteral reader column v with
    | none => cases comparisonLeaf type <;> rfl
    | some literal =>
      dsimp only
      rw [hname, ok_bind]
      cases comparisonLeaf type <;> rfl

theorem tryConvertComparison_eq (reads : ReadsOwnTypes reader) {type : ExpressionType} {l r : Expression}
    (bound : WellBound get (.comparison type l r)) :
    tryConvertComparison reader get type l r =
      if readsNull reader builder get (.comparison type l r) then .error nullLiteral else
        .ok (pushed reader builder get (.comparison type l r)) := by
  rw [WellBound] at bound
  obtain ⟨hl, hr, hsame⟩ := bound
  unfold tryConvertComparison
  split
  · rename_i hleaf
    have hflip : comparisonLeaf (flipComparisonExpression type) = none := by
      rw [← Option.not_isSome_iff_eq_none, comparisonLeaf_flip, hleaf]
      exact nofun
    cases l <;> cases r <;> simp [pushedComparison, hleaf, hflip] <;> rfl
  · rename_i hleaf
    have hsome : (comparisonLeaf type).isSome = true := Option.isSome_iff_ne_none.2 hleaf
    split
    · rename_i i v
      obtain ⟨column, hcolumn⟩ := column?_of_bound hl
      rw [convertColumnComparison_eq reads hcolumn (fieldType_of_sameType hcolumn hsame), readsNull, hsome, pushed, hcolumn]
      rfl
    · rename_i v i
      obtain ⟨column, hcolumn⟩ := column?_of_bound hr
      rw [convertColumnComparison_eq reads hcolumn (fieldType_of_sameType hcolumn hsame.symm), readsNull, hsome, pushed,
        hcolumn]
      rfl
    · rename_i hright hleft
      cases l <;> cases r <;> first | rfl | exact absurd rfl (hright _ _ rfl) | exact absurd rfl (hleft _ _ rfl)

theorem tryConvertBetween_eq (reads : ReadsOwnTypes reader) {x lo hi : Expression} {loInc hiInc : Bool}
    (bound : WellBound get (.between x lo hi loInc hiInc)) :
    tryConvertBetween reader builder get x lo hi loInc hiInc =
      if readsNull reader builder get (.between x lo hi loInc hiInc) then .error nullLiteral else
        .ok (pushed reader builder get (.between x lo hi loInc hiInc)) := by
  rw [WellBound] at bound
  obtain ⟨hx, -, -, hlower, hupper⟩ := bound
  unfold tryConvertBetween
  split
  · rename_i i lo hi
    obtain ⟨column, hcolumn⟩ := column?_of_bound hx
    obtain ⟨hposition, htypeOf, hname⟩ := column?_eq_some hcolumn
    rw [readsNull, pushed, hcolumn, hposition, ok_bind, htypeOf, ok_bind]
    change (convertLiteral reader lo column.fieldType >>= _) = _
    rw [convertLiteral_eq reads (fieldType_of_sameType hcolumn hlower)]
    cases hlo : lo.isNull with
    | true => rfl
    | false =>
      rw [if_neg Bool.false_ne_true, ok_bind]
      change (convertLiteral reader hi column.fieldType >>= _) = _
      rw [convertLiteral_eq reads (fieldType_of_sameType hcolumn hupper), Bool.false_or]
      split
      · rfl
      · rw [ok_bind, Option.bind_some, pushedBetween]
        cases pushedLiteral reader column lo with
        | none => rfl
        | some lower =>
          cases pushedLiteral reader column hi with
          | none => rfl
          | some upper =>
            dsimp only
            rw [hname]
            rfl
  · rename_i hshape
    cases x with
    | columnRef i =>
      cases lo <;> first | rfl | skip
      cases hi <;> first | rfl | skip
      exact absurd rfl (hshape _ _ _ rfl rfl)
    | _ => rfl

/-- The items of an IN are given up at the first one without a literal. -/
theorem collectLiterals_in (reads : ReadsOwnTypes reader) {column : ScanColumn} :
    ∀ {items : List Expression}, (∀ v, .constant v ∈ items → convertFieldType v.type = column.fieldType) →
      collectLiterals reader .compareIn column.fieldType items =
        if itemsReadNull reader column items then .error nullLiteral else .ok (items.mapM (itemLiteral reader column))
  | [], _ => rfl
  | item :: items, htypes => by
    have ih := collectLiterals_in reads fun v hv => htypes v (.tail _ hv)
    rw [itemsReadNull, List.mapM_cons]
    cases item with
    | constant v =>
      rw [collectLiterals, convertLiteral_eq reads (htypes v (.head _)), nullConstant, itemLiteral]
      cases hv : v.isNull with
      | true => rfl
      | false =>
        rw [if_neg Bool.false_ne_true, ok_bind, Bool.false_or]
        cases pushedLiteral reader column v with
        | none => rfl
        | some literal =>
          dsimp only
          rw [ih, Option.isSome_some, Bool.true_and]
          split
          · rfl
          · rw [ok_bind]
            cases items.mapM (itemLiteral reader column) <;> rfl
    | _ => rfl

/-- The items of a NOT IN without a literal are left out. -/
theorem collectLiterals_notIn (reads : ReadsOwnTypes reader) {column : ScanColumn} :
    ∀ {items : List Expression}, (∀ v, .constant v ∈ items → convertFieldType v.type = column.fieldType) →
      collectLiterals reader .compareNotIn column.fieldType items =
        if items.any nullConstant then .error nullLiteral else .ok (some (items.filterMap (itemLiteral reader column)))
  | [], _ => rfl
  | item :: items, htypes => by
    have ih := collectLiterals_notIn reads fun v hv => htypes v (.tail _ hv)
    rw [List.any_cons, List.filterMap_cons]
    cases item with
    | constant v =>
      rw [collectLiterals, convertLiteral_eq reads (htypes v (.head _)), nullConstant, itemLiteral]
      cases hv : v.isNull with
      | true => rfl
      | false =>
        rw [if_neg Bool.false_ne_true, ok_bind, Bool.false_or]
        cases pushedLiteral reader column v with
        | none => exact ih
        | some literal =>
          dsimp only
          rw [ih]
          split <;> rfl
    | _ => exact ih

theorem fieldType_of_items {i : Nat} {column : ScanColumn} {items : List Expression} (hcolumn : get.column? i = some column)
    (h : ∀ item ∈ items, SameType get (.columnRef i) item) :
    ∀ v, .constant v ∈ items → convertFieldType v.type = column.fieldType :=
  fun _ hv => fieldType_of_sameType hcolumn (h _ hv)

theorem convertColumnOperator_eq (reads : ReadsOwnTypes reader) {type : ExpressionType} {i : Nat} {column : ScanColumn}
    {items : List Expression} (hcolumn : get.column? i = some column)
    (htypes : type = .compareIn ∨ type = .compareNotIn → ∀ item ∈ items, SameType get (.columnRef i) item)
    (hnot : type ≠ .operatorNot) :
    convertColumnOperator reader get type i items =
      if readsNull reader builder get (.operator type (.columnRef i :: items)) then .error nullLiteral else
        .ok (pushed reader builder get (.operator type (.columnRef i :: items))) := by
  obtain ⟨hposition, htypeOf, hname⟩ := column?_eq_some hcolumn
  have hpushed : pushed reader builder get (.operator type (.columnRef i :: items)) =
      pushedOperator reader type column items := by
    rw [pushed, hcolumn]
    · rfl
    · exact hnot
  unfold convertColumnOperator
  rw [hpushed, hposition, ok_bind, htypeOf, ok_bind, hname, ok_bind]
  change (match type with
    | .operatorIsNull => _
    | .operatorIsNotNull => _
    | .compareIn | .compareNotIn => collectLiterals reader type column.fieldType items >>= _
    | _ => _) = _
  cases type with
  | compareIn =>
    dsimp only
    rw [collectLiterals_in reads (fieldType_of_items hcolumn (htypes (.inl rfl))), readsNull, hcolumn]
    dsimp only
    split
    · rfl
    · rw [ok_bind, pushedOperator]
      rcases items.mapM (itemLiteral reader column) with _ | _ | ⟨literal, literals⟩ <;> rfl
  | compareNotIn =>
    dsimp only
    rw [collectLiterals_notIn reads (fieldType_of_items hcolumn (htypes (.inr rfl))), readsNull]
    split
    · rfl
    · rw [ok_bind, pushedOperator]
      rcases items.filterMap (itemLiteral reader column) with _ | ⟨literal, literals⟩ <;> rfl
  | operatorNot => exact absurd rfl hnot
  | _ => rfl

theorem columnFieldType_of_column {i : Nat} {column : ScanColumn} (h : get.column? i = some column) :
    columnFieldType get i = some column.fieldType := by
  obtain ⟨hposition, htypeOf, -⟩ := column?_eq_some h
  exact columnFieldType_of (vectorAt_eq_ok.1 hposition) (vectorAt_eq_ok.1 htypeOf)

/-- A function of other arguments is not pushed. -/
theorem function_not_pushed {name : String} {cs : List Expression}
    (h : ∀ i v rest, cs ≠ .columnRef i :: .constant v :: rest) :
    pushed reader builder get (.function name cs) = none ∧ readsNull reader builder get (.function name cs) = false := by
  cases cs with
  | nil => exact ⟨rfl, rfl⟩
  | cons text rest =>
    cases text with
    | columnRef i =>
      cases rest with
      | nil => exact ⟨rfl, rfl⟩
      | cons pattern rest =>
        cases pattern with
        | constant v => exact absurd rfl (h i v rest)
        | _ => exact ⟨rfl, rfl⟩
    | _ => exact ⟨rfl, rfl⟩

/-- Neither is one that is not classified. -/
theorem function_not_classified {name : String} (cs : List Expression) (hf : classifyFunction name = none) :
    pushed reader builder get (.function name cs) = none ∧ readsNull reader builder get (.function name cs) = false := by
  by_cases h : ∀ i v rest, cs ≠ .columnRef i :: .constant v :: rest
  · exact function_not_pushed h
  · push Not at h
    obtain ⟨i, v, rest, rfl⟩ := h
    rw [pushed, readsNull, hf]
    refine ⟨?_, rfl⟩
    cases get.column? i with
    | none => rfl
    | some column =>
      rw [Option.bind_some, pushedPattern, hf]

theorem convertColumnPattern_eq (reads : ReadsOwnTypes reader) {name : String} {f : LeafFunction} {i : Nat}
    {column : ScanColumn} {pattern : Expression} (hf : classifyFunction name = some f)
    (hcolumn : get.column? i = some column)
    (htype : column.fieldType = .string → ∀ v, pattern = .constant v → convertFieldType v.type = column.fieldType) :
    convertColumnPattern reader builder get f i [.columnRef i, pattern] =
      if readsNull reader builder get (.function name [.columnRef i, pattern]) then .error nullLiteral else
        .ok (pushed reader builder get (.function name [.columnRef i, pattern])) := by
  obtain ⟨hposition, htypeOf, hname⟩ := column?_eq_some hcolumn
  have hfield := columnFieldType_of_column hcolumn
  unfold convertColumnPattern
  rw [hposition, ok_bind, hname, ok_bind, htypeOf, ok_bind]
  change (if column.fieldType ≠ .string then _ else _) = _
  split
  · rename_i hstring
    cases pattern with
    | constant v =>
      rw [readsNull, pushed, hcolumn, hfield, Option.bind_some, pushedPattern, hf, beq_false_of_ne (by simpa using hstring)]
      cases pushedLiteral reader column v with
      | none => rfl
      | some literal => simp [hstring]; rfl
    | _ => rfl
  · rename_i hstring
    rw [ne_eq, not_not] at hstring
    rw [show vectorAt [.columnRef i, pattern] 1 = .ok pattern from rfl, ok_bind]
    cases pattern with
    | constant v =>
      change (convertLiteral reader v column.fieldType >>= _) = _
      rw [convertLiteral_eq reads (htype hstring v rfl), readsNull, pushed, hcolumn, hfield, Option.bind_some, pushedPattern,
        hf, hstring]
      cases hv : v.isNull with
      | true => rfl
      | false =>
        have hconvert : convertFieldType column.type = .string := hstring
        rw [if_neg Bool.false_ne_true, ok_bind, hconvert]
        cases pushedLiteral reader column v <;> rfl
    | _ => rfl

theorem tryConvertFunction_eq (reads : ReadsOwnTypes reader) {name : String} {cs : List Expression}
    (bound : WellBound get (.function name cs)) :
    tryConvertFunction reader builder get name cs =
      if readsNull reader builder get (.function name cs) then .error nullLiteral else
        .ok (pushed reader builder get (.function name cs)) := by
  rw [WellBound] at bound
  obtain ⟨hfunction, hall⟩ := bound
  unfold tryConvertFunction
  cases hf : classifyFunction name with
  | none =>
    have hnone : pushed reader builder get (.function name cs) = none ∧
        readsNull reader builder get (.function name cs) = false := function_not_classified cs hf
    rw [hnone.1, hnone.2]
    rfl
  | some f =>
    obtain ⟨text, pattern, rfl, htypes⟩ := hfunction (by rw [hf]; rfl)
    dsimp only
    rw [show vectorAt [text, pattern] 0 = .ok text from rfl, ok_bind]
    cases text with
    | columnRef i =>
      rw [AllBound] at hall
      obtain ⟨column, hcolumn⟩ := column?_of_bound hall.1
      refine convertColumnPattern_eq reads hf hcolumn fun hstring v hv => ?_
      subst hv
      have hid := htypes column.type v.type (by rw [valueType, hcolumn]; rfl) (convertFieldType_eq_string hstring) rfl
      rw [hstring, convertFieldType, hid]
    | _ => rfl

/-- What the children of a conjunction convert to. -/
def childrenPushed (reader : ValueReader) (builder : PredicateBuilder) (get : LogicalGet) (type : ExpressionType)
    (cs : List Expression) : Option (List Predicate) :=
  if type = .conjunctionOr then pushedAll reader builder get cs else some (pushedSome reader builder get cs)

/-- What they read. -/
def childrenReadNull (reader : ValueReader) (builder : PredicateBuilder) (get : LogicalGet) (type : ExpressionType)
    (cs : List Expression) : Bool :=
  if type = .conjunctionOr then disjunctsReadNull reader builder get cs else someReadsNull reader builder get cs

theorem readsNull_conjunction (type : ExpressionType) (cs : List Expression) :
    readsNull reader builder get (.conjunction type cs) = childrenReadNull reader builder get type cs := by
  cases type <;> rfl

theorem pushed_conjunction (type : ExpressionType) (cs : List Expression) :
    pushed reader builder get (.conjunction type cs) =
      match childrenPushed reader builder get type cs with
      | none | some [] => none
      | some ps =>
        match type with
        | .conjunctionAnd => builder.and ps
        | .conjunctionOr => builder.or ps
        | _ => none := by
  cases type with
  | conjunctionAnd =>
    rw [pushed, childrenPushed, if_neg nofun]
    cases pushedSome reader builder get cs <;> rfl
  | conjunctionOr =>
    rw [pushed, childrenPushed, if_pos rfl]
    rcases pushedAll reader builder get cs with _ | _ | ⟨p, ps⟩ <;> rfl
  | _ =>
    rw [childrenPushed, if_neg nofun]
    cases pushedSome reader builder get cs <;> rfl

mutual

/-- The conversion of a bound filter throws where it reads a NULL constant, and is the best-effort one
otherwise. -/
theorem tryConvertExpression_eq (reads : ReadsOwnTypes reader) :
    ∀ (e : Expression), WellBound get e → tryConvertExpression reader builder get e =
      if readsNull reader builder get e then .error nullLiteral else .ok (pushed reader builder get e)
  | .comparison _ _ _, bound => by
    rw [tryConvertExpression]
    exact tryConvertComparison_eq reads bound
  | .between _ _ _ _ _, bound => by
    rw [tryConvertExpression]
    exact tryConvertBetween_eq reads bound
  | .function _ _, bound => by
    rw [tryConvertExpression]
    exact tryConvertFunction_eq reads bound
  | .operator type cs, bound => by
    rw [WellBound] at bound
    rw [tryConvertExpression]
    exact tryConvertOperator_eq reads type cs bound.1 bound.2
  | .conjunction type cs, bound => by
    rw [WellBound] at bound
    rw [tryConvertExpression, convertChildren_eq reads type cs bound, readsNull_conjunction, pushed_conjunction]
    split
    · rfl
    · rw [ok_bind]
      rcases childrenPushed reader builder get type cs with _ | _ | ⟨p, ps⟩
      · rfl
      · rfl
      · cases type <;> rfl
  | .columnRef _, _ => rfl
  | .constant _, _ => rfl
  | .other _ _, _ => rfl

theorem tryConvertOperator_eq (reads : ReadsOwnTypes reader) :
    ∀ (type : ExpressionType) (cs : List Expression), BoundOperator get type cs → AllBound get cs →
      tryConvertOperator reader builder get type cs =
        if readsNull reader builder get (.operator type cs) then .error nullLiteral else
          .ok (pushed reader builder get (.operator type cs))
  | type, [], bound, _ => by
    cases type with
    | compareIn | compareNotIn =>
      obtain ⟨_, _, _, hcs, -⟩ := bound
      cases hcs
    | operatorIsNull | operatorIsNotNull | operatorNot =>
      obtain ⟨_, hcs⟩ := bound
      cases hcs
    | _ => rfl
  | .operatorNot, c :: cs, _, hall => by
    rw [AllBound] at hall
    rw [tryConvertOperator, tryConvertExpression_eq reads c hall.1, readsNull, pushed]
    split
    · rfl
    · rw [ok_bind]
      cases pushed reader builder get c <;> rfl
  | .compareIn, c :: cs, bound, hall => by
    obtain ⟨_, _, _, hcs, htypes⟩ := bound
    cases hcs
    rw [AllBound] at hall
    cases c with
    | columnRef i =>
      obtain ⟨column, hcolumn⟩ := column?_of_bound hall.1
      rw [tryConvertOperator]
      exact convertColumnOperator_eq reads hcolumn (fun _ => htypes) (by decide)
    | _ => rfl
  | .compareNotIn, c :: cs, bound, hall => by
    obtain ⟨_, _, _, hcs, htypes⟩ := bound
    cases hcs
    rw [AllBound] at hall
    cases c with
    | columnRef i =>
      obtain ⟨column, hcolumn⟩ := column?_of_bound hall.1
      rw [tryConvertOperator]
      exact convertColumnOperator_eq reads hcolumn (fun _ => htypes) (by decide)
    | _ => rfl
  | .operatorIsNull, c :: cs, _, hall => by
    rw [AllBound] at hall
    cases c with
    | columnRef i =>
      obtain ⟨column, hcolumn⟩ := column?_of_bound hall.1
      rw [tryConvertOperator]
      exact convertColumnOperator_eq reads hcolumn (by simp) (by decide)
    | _ => rfl
  | .operatorIsNotNull, c :: cs, _, hall => by
    rw [AllBound] at hall
    cases c with
    | columnRef i =>
      obtain ⟨column, hcolumn⟩ := column?_of_bound hall.1
      rw [tryConvertOperator]
      exact convertColumnOperator_eq reads hcolumn (by simp) (by decide)
    | _ => rfl
  | .compareEqual, c :: cs, _, hall | .compareNotEqual, c :: cs, _, hall | .compareLessThan, c :: cs, _, hall
  | .compareGreaterThan, c :: cs, _, hall | .compareLessThanOrEqualTo, c :: cs, _, hall
  | .compareGreaterThanOrEqualTo, c :: cs, _, hall | .compareDistinctFrom, c :: cs, _, hall
  | .compareNotDistinctFrom, c :: cs, _, hall | .operatorCoalesce, c :: cs, _, hall | .operatorTry, c :: cs, _, hall
  | .operatorUnpack, c :: cs, _, hall | .conjunctionAnd, c :: cs, _, hall | .conjunctionOr, c :: cs, _, hall => by
    rw [AllBound] at hall
    cases c with
    | columnRef i =>
      obtain ⟨column, hcolumn⟩ := column?_of_bound hall.1
      rw [pushed, hcolumn]
      · rfl
      · exact nofun
    | _ => rfl

theorem convertChildren_eq (reads : ReadsOwnTypes reader) :
    ∀ (type : ExpressionType) (cs : List Expression), AllBound get cs → convertChildren reader builder get type cs =
      if childrenReadNull reader builder get type cs then .error nullLiteral else
        .ok (childrenPushed reader builder get type cs)
  | type, [], _ => by
    unfold childrenReadNull childrenPushed
    split <;> rfl
  | type, c :: cs, bound => by
    rw [AllBound] at bound
    have hcs := convertChildren_eq reads type cs bound.2
    rw [convertChildren, tryConvertExpression_eq reads c bound.1]
    unfold childrenReadNull childrenPushed at *
    -- an OR stops at the first child that is not pushed, anything else goes on
    by_cases htype : type = .conjunctionOr
    · simp only [if_pos htype] at *
      rw [disjunctsReadNull, pushedAll]
      cases hnull : readsNull reader builder get c with
      | true => rfl
      | false =>
        rw [if_neg Bool.false_ne_true, ok_bind, Bool.false_or]
        cases pushed reader builder get c with
        | none => rfl
        | some p =>
          dsimp only
          rw [hcs, Option.isSome_some, Bool.true_and]
          split <;> rfl
    · simp only [if_neg htype] at *
      rw [someReadsNull, pushedSome]
      cases hnull : readsNull reader builder get c with
      | true => rfl
      | false =>
        rw [if_neg Bool.false_ne_true, ok_bind, Bool.false_or]
        cases pushed reader builder get c with
        | none => exact hcs
        | some p =>
          dsimp only
          rw [hcs]
          split <;> rfl

end

theorem convertFilters_eq (reads : ReadsOwnTypes reader) {filters : List Expression}
    (bound : ∀ f ∈ filters, WellBound get f) :
    convertFilters reader builder get filters =
      if filters.any (readsNull reader builder get) then .error nullLiteral else
        .ok (filters.filterMap (pushed reader builder get)) := by
  induction filters with
  | nil => rfl
  | cons f fs ih =>
    rw [List.forall_mem_cons] at bound
    rw [convertFilters, tryConvertExpression_eq reads f bound.1, ih bound.2, List.any_cons, List.filterMap_cons]
    cases readsNull reader builder get f with
    | true => rfl
    | false =>
      rw [if_neg Bool.false_ne_true, ok_bind, Bool.false_or]
      cases pushed reader builder get f with
      | none => rfl
      | some p =>
        dsimp only
        split <;> rfl

theorem pushdownPredicates_eq (reads : ReadsOwnTypes reader) (hand : ∀ ps, ps ≠ [] → builder.andError ps = none)
    {filters : List Expression} (bound : ∀ f ∈ filters, WellBound get f) :
    pushdownPredicates reader builder get filters =
      if filters.any (readsNull reader builder get) then .error nullLiteral else
        .ok (pushedFilters reader builder get filters) := by
  rw [pushdownPredicates, convertFilters_eq reads bound, pushedFilters]
  split
  · rfl
  · rw [ok_bind]
    cases filters.filterMap (pushed reader builder get) with
    | nil => rfl
    | cons p ps =>
      rw [if_pos (List.cons_ne_nil p ps), hand _ (List.cons_ne_nil p ps)]
      rfl

/-! ## The extraction of partition filters throws nothing -/

variable {render : Value → String} {partKeys : List String}

theorem extractEquality_returns {i : Nat} (bound : WellBound get (.columnRef i)) (partFilter : StringMap) (v : Value) :
    ∃ r, extractEquality render get partKeys partFilter i v = .ok r := by
  obtain ⟨column, hcolumn⟩ := column?_of_bound bound
  obtain ⟨hposition, -, hname⟩ := column?_eq_some hcolumn
  rw [extractEquality, hposition, ok_bind, hname, ok_bind]
  split
  · exact ⟨_, rfl⟩
  · split <;> exact ⟨_, rfl⟩

theorem extractComparison_returns {type : ExpressionType} {l r : Expression} (bound : WellBound get (.comparison type l r))
    (partFilter : StringMap) : ∃ o, extractComparison render get partKeys partFilter type l r = .ok o := by
  rw [WellBound] at bound
  unfold extractComparison
  split
  · exact ⟨_, rfl⟩
  · split
    · exact extractEquality_returns bound.1 partFilter _
    · exact extractEquality_returns bound.2.1 partFilter _
    · exact ⟨_, rfl⟩

mutual

theorem tryExtractPartitionFilter_returns : ∀ (e : Expression), WellBound get e → ∀ partFilter,
    ∃ o, tryExtractPartitionFilter render get partKeys partFilter e = .ok o
  | .comparison _ _ _, bound, partFilter => extractComparison_returns bound partFilter
  | .conjunction type cs, bound, partFilter => by
    rw [WellBound] at bound
    rw [tryExtractPartitionFilter]
    split
    · exact ⟨_, rfl⟩
    · exact extractChildren_returns cs bound false partFilter
  | .between _ _ _ _ _, _, _ | .operator _ _, _, _ | .function _ _, _, _ | .columnRef _, _, _ | .constant _, _, _
  | .other _ _, _, _ => ⟨_, rfl⟩

theorem extractChildren_returns : ∀ (cs : List Expression), AllBound get cs → ∀ matched partFilter,
    ∃ o, extractChildren render get partKeys matched partFilter cs = .ok o
  | [], _, _, _ => ⟨_, rfl⟩
  | c :: cs, bound, matched, partFilter => by
    rw [AllBound] at bound
    obtain ⟨⟨childMatched, partFilter'⟩, hchild⟩ := tryExtractPartitionFilter_returns c bound.1 partFilter
    rw [extractChildren, hchild]
    exact extractChildren_returns cs bound.2 _ partFilter'

end

theorem extractDisjuncts_returns : ∀ (cs : List Expression), AllBound get cs →
    ∃ o, extractDisjuncts render get partKeys cs = .ok o
  | [], _ => ⟨_, rfl⟩
  | c :: cs, bound => by
    rw [AllBound] at bound
    have hreturns : ∃ o, tryExtractPartitionFilter render get partKeys .empty c = .ok o :=
      tryExtractPartitionFilter_returns c bound.1 .empty
    obtain ⟨⟨matched, partFilter⟩, hchild⟩ := hreturns
    obtain ⟨rest, hrest⟩ := extractDisjuncts_returns cs bound.2
    rw [extractDisjuncts, hchild, ok_bind]
    dsimp only
    split
    · exact ⟨_, rfl⟩
    · rw [hrest]
      exact ⟨_, rfl⟩

theorem tryExtractPartitionFilters_returns {e : Expression} (bound : WellBound get e) :
    ∃ o, tryExtractPartitionFilters render get partKeys e = .ok o := by
  have hone : ∃ o, extractOne render get partKeys e = .ok o := by
    obtain ⟨⟨matched, partFilter⟩, hextract⟩ := tryExtractPartitionFilter_returns e bound .empty
    rw [extractOne, hextract]
    exact ⟨_, rfl⟩
  unfold tryExtractPartitionFilters
  split
  · exact hone
  · split
    · exact hone
    · split
      · rw [WellBound] at bound
        obtain ⟨o, hdisjuncts⟩ := extractDisjuncts_returns _ bound
        rw [hdisjuncts]
        exact ⟨_, rfl⟩
      · exact ⟨_, rfl⟩
  · exact ⟨_, rfl⟩

theorem extractAll_returns {filters : List Expression} (bound : ∀ f ∈ filters, WellBound get f) :
    ∃ o, extractAll render get partKeys filters = .ok o := by
  induction filters with
  | nil => exact ⟨_, rfl⟩
  | cons f fs ih =>
    rw [List.forall_mem_cons] at bound
    obtain ⟨o, hf⟩ := tryExtractPartitionFilters_returns bound.1
    obtain ⟨rest, hrest⟩ := ih bound.2
    rw [extractAll, hf, ok_bind, hrest]
    exact ⟨_, rfl⟩

end Follows

/-- Pushdown returns, and stores the best-effort predicate, exactly if no filter has a NULL constant where
its conversion reads one. -/
theorem pushdown_returns_iff {Split : Type} {reader : ValueReader} {builder : PredicateBuilder} {get : LogicalGet}
    {filters : List Expression} (render : Value → String) (bind : PaimonScanBindData Split) (reads : ReadsOwnTypes reader)
    (hand : ∀ ps, ps ≠ [] → builder.andError ps = none) (bound : ∀ f ∈ filters, WellBound get f) :
    (∃ bind', paimonPushdownFilter reader builder render get bind filters = .ok bind' ∧
        bind'.predicates = pushedFilters reader builder get filters) ↔
      ∀ f ∈ filters, readsNull reader builder get f = false := by
  have hpredicates := pushdownPredicates_eq reads hand bound
  have hany : (∀ f ∈ filters, readsNull reader builder get f = false) ↔
      filters.any (readsNull reader builder get) = false := by simp
  rw [hany]
  unfold paimonPushdownFilter
  rw [hpredicates]
  cases filters.any (readsNull reader builder get) with
  | true => exact iff_of_false (fun ⟨_, h, _⟩ => by cases h) nofun
  | false =>
    refine iff_of_true ?_ rfl
    rw [if_neg Bool.false_ne_true, ok_bind]
    split
    · exact ⟨_, rfl, rfl⟩
    · have hreturns : ∃ perExpr, extractAll render get bind.partKeys filters = .ok perExpr := extractAll_returns bound
      obtain ⟨perExpr, hextract⟩ := hreturns
      rw [hextract]
      exact ⟨_, rfl, rfl⟩

/-! ## NULL items -/

namespace Sample

/-- Reads the constants of every type. -/
def ownReader : ValueReader where
  getBool v := .ok (v.stored = some (.boolean true))
  getInt8 v := .ok (Int8.ofInt v.unsafeInt)
  getInt16 v := .ok (Int16.ofInt v.unsafeInt)
  getInt32 v := .ok (Int32.ofInt v.unsafeInt)
  getInt64 v := .ok (Int64.ofInt v.unsafeInt)
  getFloat v := .ok (match v.stored with | some (.float bits) => bits.toUInt32 | _ => 0)
  getDouble v := .ok (match v.stored with | some (.float bits) => bits | _ => 0)
  getString v := .ok (match v.stored with | some (.string text) => text | _ => "")
  getTimestamp v := .ok (Int64.ofInt v.unsafeInt)

theorem ownReader_reads : ReadsOwnTypes ownReader := by
  constructor <;> exact fun _ _ _ => ⟨_, rfl⟩

def nullInteger : Value := .null { id := .integer }

/-- `f1 IN (1, NULL)`. -/
def inNull : Expression := .operator .compareIn [.columnRef 0, .constant (integer 1), .constant nullInteger]

theorem inNull_bound : WellBound scan inNull := by
  refine ⟨⟨_, _, _, rfl, ?_⟩, rfl, trivial, trivial, trivial⟩
  simp [SameType, valueType, integer, nullInteger, Value.null, LogicalGet.column?, scan]

/-- `f1 = f2 OR f1 IN (1, NULL)`. -/
def guarded : Expression :=
  .conjunction .conjunctionOr [.comparison .compareEqual (.columnRef 0) (.columnRef 1), inNull]

theorem guarded_bound : WellBound scan guarded := by
  refine ⟨⟨rfl, rfl, ?_⟩, inNull_bound, trivial⟩
  simp [SameType, valueType, LogicalGet.column?, scan]

def integerBind : PaimonScanBindData Unit := { textBind with partKeys := [] }

end Sample

/-- `f1 IN (1, NULL)` fails the query. -/
theorem pushdown_throws_on_null_item :
    ¬ ∀ (reader : ValueReader) (builder : PredicateBuilder) (render : Value → String) (get : LogicalGet)
      (bind : PaimonScanBindData Unit) (filters : List Expression), ReadsOwnTypes reader →
        (∀ ps, ps ≠ [] → builder.andError ps = none) → (∀ f ∈ filters, WellBound get f) →
          ∃ bind', paimonPushdownFilter reader builder render get bind filters = .ok bind' := by
  intro h
  obtain ⟨bind', hreturns⟩ := h Sample.ownReader Sample.builder (fun _ => "") Sample.scan Sample.integerBind
    [Sample.inNull] Sample.ownReader_reads (fun _ _ => rfl) (by simpa using Sample.inNull_bound)
  have hthrows : paimonPushdownFilter Sample.ownReader Sample.builder (fun _ => "") Sample.scan Sample.integerBind
      [Sample.inNull] = .error nullLiteral := rfl
  rw [hthrows] at hreturns
  cases hreturns

/-- Behind a disjunct that is not pushed the NULL is not read. -/
theorem pushdown_returns_iff_guarded :
    (∃ bind', paimonPushdownFilter Sample.ownReader Sample.builder (fun _ => "") Sample.scan Sample.integerBind
        [Sample.guarded] = .ok bind' ∧
        bind'.predicates = pushedFilters Sample.ownReader Sample.builder Sample.scan [Sample.guarded]) ↔
      ∀ f ∈ [Sample.guarded], readsNull Sample.ownReader Sample.builder Sample.scan f = false :=
  pushdown_returns_iff (fun _ => "") Sample.integerBind Sample.ownReader_reads (fun _ _ => rfl)
    (by simpa using Sample.guarded_bound)

end DuckPaimon.Scan
