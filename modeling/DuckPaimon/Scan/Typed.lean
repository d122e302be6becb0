/-
What reaches Paimon's planner: the leaves of a pushed predicate name scanned columns, with literals of
the columns' types. The conversion of a literal refuses a column without a Paimon type; a NULL test has
no literal, so it alone can be pushed on such a column.
-/
import DuckPaimon.Scan.BestEffort

namespace DuckPaimon.Scan

open Outcome

/-! ## Leaves -/

/-- `Literal::GetType`. -/
def literalType : Literal → FieldType
  | .boolean _ => .boolean
  | .tinyint _ => .tinyint
  | .smallint _ => .smallint
  | .int _ => .int
  | .bigint _ => .bigint
  | .float _ => .float
  | .double _ => .double
  | .string _ => .string
  | .date _ => .date
  | .timestamp _ _ => .timestamp
  | .decimal _ _ _ => .decimal

/-- A leaf of a predicate. -/
structure Leaf where
  function : LeafFunction
  fieldIndex : Nat
  fieldName : String
  fieldType : FieldType
  literals : List Literal

namespace LeafFunction

def isNullTest : LeafFunction → Bool
  | .isNull | .isNotNull => true
  | _ => false

def isMembership : LeafFunction → Bool
  | .in | .notIn => true
  | _ => false

def isPattern : LeafFunction → Bool
  | .startsWith | .notStartsWith | .endsWith | .notEndsWith | .contains | .notContains | .like | .notLike => true
  | _ => false

@[simp] theorem isNullTest_negate (f : LeafFunction) : f.negate.isNullTest = f.isNullTest := by cases f <;> rfl

@[simp] theorem isMembership_negate (f : LeafFunction) : f.negate.isMembership = f.isMembership := by cases f <;> rfl

@[simp] theorem isPattern_negate (f : LeafFunction) : f.negate.isPattern = f.isPattern := by cases f <;> rfl

end LeafFunction

namespace Predicate

mutual

/-- The leaves of a predicate. -/
def leaves : Predicate → List Leaf
  | .leaf f index name type literals => [⟨f, index, name, type, literals⟩]
  | .and ps => leavesList ps
  | .or ps => leavesList ps

def leavesList : List Predicate → List Leaf
  | [] => []
  | p :: ps => leaves p ++ leavesList ps

end

mutual

/-- No conjunction and no disjunction of a predicate is empty. -/
def nonempty : Predicate → Bool
  | .leaf .. => true
  | .and ps => !ps.isEmpty && allNonempty ps
  | .or ps => !ps.isEmpty && allNonempty ps

def allNonempty : List Predicate → Bool
  | [] => true
  | p :: ps => nonempty p && allNonempty ps

end

theorem leavesList_eq (ps : List Predicate) : leavesList ps = ps.flatMap leaves := by
  induction ps with
  | nil => rfl
  | cons p ps ih => rw [leavesList, ih, List.flatMap_cons]

theorem allNonempty_eq (ps : List Predicate) : allNonempty ps = ps.all nonempty := by
  induction ps with
  | nil => rfl
  | cons p ps ih => rw [allNonempty, ih, List.all_cons]

mutual

theorem leaves_negate : ∀ p : Predicate,
    p.negate.leaves = p.leaves.map fun leaf => { leaf with function := leaf.function.negate }
  | .leaf .. => rfl
  | .and ps => by rw [negate, leaves, leaves, leavesList_negateList ps]
  | .or ps => by rw [negate, leaves, leaves, leavesList_negateList ps]

theorem leavesList_negateList : ∀ ps : List Predicate,
    leavesList (negateList ps) = (leavesList ps).map fun leaf => { leaf with function := leaf.function.negate }
  | [] => rfl
  | p :: ps => by rw [negateList, leavesList, leaves_negate p, leavesList_negateList ps, leavesList, List.map_append]

end

mutual

theorem nonempty_negate : ∀ p : Predicate, p.negate.nonempty = p.nonempty
  | .leaf .. => rfl
  | .and ps => by rw [negate, nonempty, nonempty, allNonempty_negateList ps]; cases ps <;> rfl
  | .or ps => by rw [negate, nonempty, nonempty, allNonempty_negateList ps]; cases ps <;> rfl

theorem allNonempty_negateList : ∀ ps : List Predicate, allNonempty (negateList ps) = allNonempty ps
  | [] => rfl
  | p :: ps => by rw [negateList, allNonempty, nonempty_negate p, allNonempty_negateList ps, allNonempty]

end

end Predicate

/-! ## Typed predicates -/

section Typed

variable (get : LogicalGet)

/-- A leaf on a scanned column, of the column's Paimon type, whose literals are of this type; one without
a Paimon type is a NULL test. -/
structure Leaf.Typed (leaf : Leaf) : Prop where
  scanned : leaf.fieldIndex ∈ get.columnIds
  name : get.names[leaf.fieldIndex]? = some leaf.fieldName
  type : ∃ type, get.returnedTypes[leaf.fieldIndex]? = some type ∧ leaf.fieldType = convertFieldType type
  literals : ∀ literal ∈ leaf.literals, literalType literal = leaf.fieldType
  membership : leaf.function.isMembership = true → leaf.literals ≠ []
  pattern : leaf.function.isPattern = true → leaf.fieldType = .string
  unknown : leaf.fieldType = .unknown → leaf.function.isNullTest = true

/-- A predicate of typed leaves without an empty conjunction or disjunction. -/
structure Predicate.Typed (p : Predicate) : Prop where
  leaves : ∀ leaf ∈ p.leaves, leaf.Typed get
  nonempty : p.nonempty = true

/-- Some leaf of the predicate has no Paimon type. -/
def Predicate.TestsUnknown (p : Predicate) : Prop := ∃ leaf ∈ p.leaves, leaf.fieldType = .unknown

end Typed

section Returned

variable {reader : ValueReader} {builder : PredicateBuilder} {get : LogicalGet}

/-! ## What is returned is what is pushed -/

theorem column?_of {i position : Nat} {name : String} {type : LogicalType} (hposition : get.columnIds[i]? = some position)
    (htype : get.returnedTypes[position]? = some type) (hname : get.names[position]? = some name) :
    get.column? i = some ⟨position, name, type⟩ := by
  rw [LogicalGet.column?, hposition]
  show (get.returnedTypes[position]? >>= _) = _
  rw [htype]
  show (get.names[position]? >>= _) = _
  rw [hname]
  rfl

/-- Without a name there is no column. -/
theorem column?_of_no_name {i position : Nat} (hposition : get.columnIds[i]? = some position)
    (hname : get.names[position]? = none) : get.column? i = none := by
  rw [LogicalGet.column?, hposition]
  show (get.returnedTypes[position]? >>= _) = _
  cases get.returnedTypes[position]? with
  | none => rfl
  | some type =>
    show (get.names[position]? >>= _) = _
    rw [hname]
    rfl

theorem pushedLiteral_of {column : ScanColumn} {v : Value} {literal : Option Literal}
    (h : convertLiteral reader v (convertFieldType column.type) = .ok literal) : pushedLiteral reader column v = literal := by
  have h : convertLiteral reader v column.fieldType = .ok literal := h
  rw [pushedLiteral, h]

theorem convertColumnComparison_returned {type : ExpressionType} {i : Nat} {v : Value} {o : Option Predicate}
    (h : convertColumnComparison reader get type i v = .ok o) :
    o = (get.column? i).bind fun column => pushedComparison reader type column v := by
  unfold convertColumnComparison at h
  obtain ⟨position, hposition, h⟩ := bind_eq_ok.1 h
  obtain ⟨type', htype, h⟩ := bind_eq_ok.1 h
  obtain ⟨literal, hliteral, h⟩ := bind_eq_ok.1 h
  rw [vectorAt_eq_ok] at hposition
  rw [LogicalGet.columnType, vectorAt_eq_ok] at htype
  cases hname : get.names[position]? with
  | none =>
    rw [column?_of_no_name hposition hname]
    cases literal with
    | none => exact (pure_eq_ok.1 h).symm
    | some literal =>
      obtain ⟨name, hname', -⟩ := bind_eq_ok.1 h
      rw [LogicalGet.columnName, vectorAt_eq_ok, hname] at hname'
      cases hname'
  | some name =>
    rw [column?_of hposition htype hname, Option.bind_some, pushedComparison, pushedLiteral_of hliteral]
    cases literal with
    | none =>
      cases comparisonLeaf type <;> exact (pure_eq_ok.1 h).symm
    | some literal =>
      obtain ⟨name', hname', h⟩ := bind_eq_ok.1 h
      rw [LogicalGet.columnName, vectorAt_eq_ok, hname] at hname'
      cases hname'
      cases hf : comparisonLeaf type with
      | none =>
        rw [hf] at h
        exact (pure_eq_ok.1 h).symm
      | some f =>
        rw [hf] at h
        exact (pure_eq_ok.1 h).symm

theorem tryConvertComparison_returned {type : ExpressionType} {l r : Expression} {o : Option Predicate}
    (h : tryConvertComparison reader get type l r = .ok o) : o = pushed reader builder get (.comparison type l r) := by
  unfold tryConvertComparison at h
  split at h
  · rename_i hleaf
    have hflip : comparisonLeaf (flipComparisonExpression type) = none := by
      rw [← Option.not_isSome_iff_eq_none, comparisonLeaf_flip, hleaf]
      exact nofun
    rw [← pure_eq_ok.1 h]
    cases l <;> cases r <;> simp [pushed, pushedComparison, hleaf, hflip]
  · split at h
    · exact convertColumnComparison_returned h
    · exact convertColumnComparison_returned h
    · rename_i hright hleft
      rw [← pure_eq_ok.1 h]
      cases l <;> cases r <;> first | rfl | exact absurd rfl (hright _ _ rfl) | exact absurd rfl (hleft _ _ rfl)

theorem tryConvertBetween_returned {x lo hi : Expression} {loInc hiInc : Bool} {o : Option Predicate}
    (h : tryConvertBetween reader builder get x lo hi loInc hiInc = .ok o) :
    o = pushed reader builder get (.between x lo hi loInc hiInc) := by
  unfold tryConvertBetween at h
  split at h
  · rename_i i lo hi
    obtain ⟨position, hposition, h⟩ := bind_eq_ok.1 h
    obtain ⟨type, htype, h⟩ := bind_eq_ok.1 h
    obtain ⟨lower, hlower, h⟩ := bind_eq_ok.1 h
    obtain ⟨upper, hupper, h⟩ := bind_eq_ok.1 h
    rw [vectorAt_eq_ok] at hposition
    rw [LogicalGet.columnType, vectorAt_eq_ok] at htype
    rw [pushed]
    cases hname : get.names[position]? with
    | none =>
      rw [column?_of_no_name hposition hname]
      cases lower with
      | none => exact (pure_eq_ok.1 h).symm
      | some lower =>
        cases upper with
        | none => exact (pure_eq_ok.1 h).symm
        | some upper =>
          obtain ⟨name, hname', -⟩ := bind_eq_ok.1 h
          rw [LogicalGet.columnName, vectorAt_eq_ok, hname] at hname'
          cases hname'
    | some name =>
      rw [column?_of hposition htype hname, Option.bind_some, pushedBetween, pushedLiteral_of hlower, pushedLiteral_of hupper]
      cases lower with
      | none => exact (pure_eq_ok.1 h).symm
      | some lower =>
        cases upper with
        | none => exact (pure_eq_ok.1 h).symm
        | some upper =>
          obtain ⟨name', hname', h⟩ := bind_eq_ok.1 h
          rw [LogicalGet.columnName, vectorAt_eq_ok, hname] at hname'
          cases hname'
          exact (pure_eq_ok.1 h).symm
  · rename_i hshape
    rw [← pure_eq_ok.1 h]
    cases x with
    | columnRef i =>
      cases lo <;> first | rfl | skip
      cases hi <;> first | rfl | skip
      exact absurd rfl (hshape _ _ _ rfl rfl)
    | _ => rfl

theorem collectLiterals_in_returned {column : ScanColumn} :
    ∀ {items : List Expression} {o : Option (List Literal)},
      collectLiterals reader .compareIn column.fieldType items = .ok o → o = items.mapM (itemLiteral reader column)
  | [], o, h => (pure_eq_ok.1 h).symm
  | item :: items, o, h => by
    rw [List.mapM_cons]
    cases item with
    | constant v =>
      rw [collectLiterals] at h
      obtain ⟨literal, hliteral, h⟩ := bind_eq_ok.1 h
      rw [itemLiteral, pushedLiteral_of hliteral]
      cases literal with
      | none => exact (pure_eq_ok.1 h).symm
      | some literal =>
        obtain ⟨rest, hrest, h⟩ := bind_eq_ok.1 h
        rw [← collectLiterals_in_returned hrest, ← pure_eq_ok.1 h]
        cases rest <;> rfl
    | _ => exact (pure_eq_ok.1 h).symm

theorem collectLiterals_notIn_returned {column : ScanColumn} :
    ∀ {items : List Expression} {o : Option (List Literal)},
      collectLiterals reader .compareNotIn column.fieldType items = .ok o →
        o = some (items.filterMap (itemLiteral reader column))
  | [], o, h => (pure_eq_ok.1 h).symm
  | item :: items, o, h => by
    rw [List.filterMap_cons]
    cases item with
    | constant v =>
      rw [collectLiterals] at h
      obtain ⟨literal, hliteral, h⟩ := bind_eq_ok.1 h
      rw [itemLiteral, pushedLiteral_of hliteral]
      cases literal with
      | none => exact collectLiterals_notIn_returned h
      | some literal =>
        obtain ⟨rest, hrest, h⟩ := bind_eq_ok.1 h
        rw [← pure_eq_ok.1 h, collectLiterals_notIn_returned hrest]
        rfl
    | _ => exact collectLiterals_notIn_returned h

theorem convertColumnOperator_returned {type : ExpressionType} {i : Nat} {items : List Expression} {o : Option Predicate}
    (h : convertColumnOperator reader get type i items = .ok o) :
    o = (get.column? i).bind fun column => pushedOperator reader type column items := by
  unfold convertColumnOperator at h
  obtain ⟨position, hposition, h⟩ := bind_eq_ok.1 h
  obtain ⟨type', htype, h⟩ := bind_eq_ok.1 h
  obtain ⟨name, hname, h⟩ := bind_eq_ok.1 h
  rw [vectorAt_eq_ok] at hposition
  rw [LogicalGet.columnType, vectorAt_eq_ok] at htype
  rw [LogicalGet.columnName, vectorAt_eq_ok] at hname
  rw [column?_of hposition htype hname, Option.bind_some]
  have hfield : convertFieldType type' = (ScanColumn.mk position name type').fieldType := rfl
  cases type with
  | compareIn =>
    obtain ⟨literals, hliterals, h⟩ := bind_eq_ok.1 h
    rw [hfield] at hliterals
    rw [pushedOperator, ← collectLiterals_in_returned hliterals]
    rcases literals with _ | _ | ⟨literal, literals⟩ <;> exact (pure_eq_ok.1 h).symm
  | compareNotIn =>
    obtain ⟨literals, hliterals, h⟩ := bind_eq_ok.1 h
    rw [hfield] at hliterals
    cases collectLiterals_notIn_returned hliterals
    rw [pushedOperator]
    rcases hnotIn : items.filterMap (itemLiteral reader ⟨position, name, type'⟩) with _ | ⟨literal, literals⟩
    · rw [hnotIn] at h
      exact (pure_eq_ok.1 h).symm
    · rw [hnotIn] at h
      exact (pure_eq_ok.1 h).symm
  | _ => exact (pure_eq_ok.1 h).symm

theorem tryConvertFunction_returned {name : String} {cs : List Expression} {o : Option Predicate}
    (h : tryConvertFunction reader builder get name cs = .ok o) : o = pushed reader builder get (.function name cs) := by
  unfold tryConvertFunction at h
  cases hf : classifyFunction name with
  | none =>
    rw [hf] at h
    rw [(function_not_classified cs hf).1]
    exact (pure_eq_ok.1 h).symm
  | some f =>
    rw [hf] at h
    obtain ⟨text, htext, h⟩ := bind_eq_ok.1 h
    rw [vectorAt_eq_ok] at htext
    cases cs with
    | nil => cases htext
    | cons c rest =>
      cases htext
      cases text with
      | columnRef i =>
        change convertColumnPattern reader builder get f i _ = _ at h
        unfold convertColumnPattern at h
        obtain ⟨position, hposition, h⟩ := bind_eq_ok.1 h
        obtain ⟨columnName, hname, h⟩ := bind_eq_ok.1 h
        obtain ⟨type, htype, h⟩ := bind_eq_ok.1 h
        rw [vectorAt_eq_ok] at hposition
        rw [LogicalGet.columnType, vectorAt_eq_ok] at htype
        rw [LogicalGet.columnName, vectorAt_eq_ok] at hname
        have hcolumn := column?_of hposition htype hname
        have hpushed (v : Value) (rest : List Expression) :
            pushed reader builder get (.function name (.columnRef i :: .constant v :: rest)) =
              pushedPattern reader builder name ⟨position, columnName, type⟩ v := by
          rw [pushed, hcolumn, Option.bind_some]
        dsimp only at h
        split at h
        · rename_i hstring
          rw [← pure_eq_ok.1 h]
          cases rest with
          | nil => rfl
          | cons pattern rest =>
            cases pattern with
            | constant v =>
              rw [hpushed, pushedPattern, hf]
              cases pushedLiteral reader ⟨position, columnName, type⟩ v with
              | none => rfl
              | some literal => exact (if_neg hstring).symm
            | _ => rfl
        · rename_i hstring
          rw [ne_eq, not_not] at hstring
          obtain ⟨pattern, hpattern, hread⟩ := bind_eq_ok.1 h
          rw [vectorAt_eq_ok] at hpattern
          cases rest with
          | nil => cases hpattern
          | cons pattern' rest =>
            cases hpattern
            cases pattern with
            | constant v =>
              obtain ⟨literal, hliteral, hbuild⟩ := bind_eq_ok.1 hread
              rw [hpushed, pushedPattern, hf, pushedLiteral_of hliteral]
              cases literal with
              | none => exact (pure_eq_ok.1 hbuild).symm
              | some literal => exact (pure_eq_ok.1 hbuild).symm.trans (if_pos hstring).symm
            | _ => exact (pure_eq_ok.1 hread).symm
      | _ => exact (pure_eq_ok.1 h).symm

mutual

/-- Whatever the filter, a conversion that returns is the best-effort one. -/
theorem tryConvertExpression_returned : ∀ (e : Expression) {o : Option Predicate},
    tryConvertExpression reader builder get e = .ok o → o = pushed reader builder get e
  | .comparison _ _ _, o, h => by
    rw [tryConvertExpression] at h
    exact tryConvertComparison_returned h
  | .between _ _ _ _ _, o, h => by
    rw [tryConvertExpression] at h
    exact tryConvertBetween_returned h
  | .function _ _, o, h => by
    rw [tryConvertExpression] at h
    exact tryConvertFunction_returned h
  | .operator type cs, o, h => by
    rw [tryConvertExpression] at h
    exact tryConvertOperator_returned type cs h
  | .conjunction type cs, o, h => by
    rw [tryConvertExpression] at h
    obtain ⟨ps, hps, h⟩ := bind_eq_ok.1 h
    rw [pushed_conjunction, ← convertChildren_returned type cs hps]
    rcases ps with _ | _ | ⟨p, ps⟩
    · exact (pure_eq_ok.1 h).symm
    · exact (pure_eq_ok.1 h).symm
    · cases type <;> exact (pure_eq_ok.1 h).symm
  | .columnRef _, o, h => (pure_eq_ok.1 h).symm
  | .constant _, o, h => (pure_eq_ok.1 h).symm
  | .other _ _, o, h => (pure_eq_ok.1 h).symm

theorem tryConvertOperator_returned : ∀ (type : ExpressionType) (cs : List Expression) {o : Option Predicate},
    tryConvertOperator reader builder get type cs = .ok o → o = pushed reader builder get (.operator type cs)
  | type, [], o, h => by
    cases type <;> first | exact (pure_eq_ok.1 h).symm | cases h
  | .operatorNot, c :: cs, o, h => by
    rw [tryConvertOperator] at h
    obtain ⟨p, hp, h⟩ := bind_eq_ok.1 h
    rw [pushed, ← tryConvertExpression_returned c hp]
    cases p <;> exact (pure_eq_ok.1 h).symm
  | .compareIn, c :: cs, o, h | .compareNotIn, c :: cs, o, h | .operatorIsNull, c :: cs, o, h
  | .operatorIsNotNull, c :: cs, o, h => by
    cases c with
    | columnRef i =>
      rw [tryConvertOperator] at h
      exact convertColumnOperator_returned h
    | _ => exact (pure_eq_ok.1 h).symm
  | .compareEqual, c :: cs, o, h | .compareNotEqual, c :: cs, o, h | .compareLessThan, c :: cs, o, h
  | .compareGreaterThan, c :: cs, o, h | .compareLessThanOrEqualTo, c :: cs, o, h
  | .compareGreaterThanOrEqualTo, c :: cs, o, h | .compareDistinctFrom, c :: cs, o, h
  | .compareNotDistinctFrom, c :: cs, o, h | .operatorCoalesce, c :: cs, o, h | .operatorTry, c :: cs, o, h
  | .operatorUnpack, c :: cs, o, h | .conjunctionAnd, c :: cs, o, h | .conjunctionOr, c :: cs, o, h => by
    rw [← pure_eq_ok.1 h]
    cases c with
    | columnRef i =>
      rw [pushed]
      · cases get.column? i <;> rfl
      · exact nofun
    | _ => rfl

theorem convertChildren_returned : ∀ (type : ExpressionType) (cs : List Expression) {o : Option (List Predicate)},
    convertChildren reader builder get type cs = .ok o → o = childrenPushed reader builder get type cs
  | type, [], o, h => by
    rw [childrenPushed, ← pure_eq_ok.1 h]
    split <;> rfl
  | type, c :: cs, o, h => by
    rw [convertChildren] at h
    obtain ⟨p, hp, h⟩ := bind_eq_ok.1 h
    have hc := tryConvertExpression_returned c hp
    rw [childrenPushed, pushedAll, pushedSome, ← hc]
    cases p with
    | none =>
      dsimp only at h
      split at h
      · rename_i htype
        rw [if_pos htype]
        exact (pure_eq_ok.1 h).symm
      · rename_i htype
        rw [convertChildren_returned type cs h, childrenPushed, if_neg htype, if_neg htype]
        rfl
    | some p =>
      obtain ⟨ps, hps, h⟩ := bind_eq_ok.1 h
      rw [← pure_eq_ok.1 h, convertChildren_returned type cs hps, childrenPushed]
      split <;> rfl

end

/-! ## What is pushed is typed -/

theorem literalType_of_convertLiteral {v : Value} {t : FieldType} {literal : Literal}
    (h : convertLiteral reader v t = .ok (some literal)) : literalType literal = t := by
  unfold convertLiteral at h
  split at h
  · cases h
  cases t with
  | decimal =>
    dsimp only at h
    split at h
    · cases h
    · split at h
      · cases pure_eq_ok.1 h
      · cases pure_eq_ok.1 h
        rfl
  | timestamp =>
    obtain ⟨stored, -, h⟩ := bind_eq_ok.1 h
    cases pure_eq_ok.1 h
    rfl
  | binary => cases pure_eq_ok.1 h
  | unknown => cases pure_eq_ok.1 h
  | _ =>
    obtain ⟨value, -, h⟩ := bind_eq_ok.1 h
    cases pure_eq_ok.1 h
    rfl

theorem literalType_of_pushedLiteral {column : ScanColumn} {v : Value} {literal : Literal}
    (h : pushedLiteral reader column v = some literal) : literalType literal = column.fieldType := by
  unfold pushedLiteral at h
  split at h
  · rename_i hliteral
    subst h
    exact literalType_of_convertLiteral hliteral
  · cases h

theorem literalType_ne_unknown (literal : Literal) : literalType literal ≠ .unknown := by
  cases literal <;> exact nofun

theorem literalType_of_itemLiteral {column : ScanColumn} {item : Expression} {literal : Literal}
    (h : itemLiteral reader column item = some literal) : literalType literal = column.fieldType := by
  cases item with
  | constant v => exact literalType_of_pushedLiteral h
  | _ => cases h

/-- A leaf of a scanned column. -/
theorem typed_leaf {i : Nat} {column : ScanColumn} (hcolumn : get.column? i = some column) {f : LeafFunction}
    {literals : List Literal} (hliterals : ∀ literal ∈ literals, literalType literal = column.fieldType)
    (hsome : f.isNullTest = false → literals ≠ []) (hpattern : f.isPattern = true → column.fieldType = .string) :
    (column.leaf f literals).Typed get := by
  obtain ⟨hposition, htype, hname⟩ := column?_eq_some hcolumn
  rw [vectorAt_eq_ok] at hposition
  rw [LogicalGet.columnType, vectorAt_eq_ok] at htype
  rw [LogicalGet.columnName, vectorAt_eq_ok] at hname
  refine ⟨fun leaf hleaf => ?_, rfl⟩
  obtain rfl := List.mem_singleton.1 hleaf
  refine ⟨List.mem_of_getElem? hposition, hname, ⟨_, htype, rfl⟩, hliterals, fun hmember => hsome ?_, hpattern,
    fun hunknown => ?_⟩
  · cases f <;> first | rfl | cases hmember
  · -- a literal would have the unknown type
    by_contra hnull
    rw [Bool.not_eq_true] at hnull
    obtain ⟨literal, hmem⟩ := List.exists_mem_of_ne_nil _ (hsome hnull)
    exact literalType_ne_unknown literal ((hliterals literal hmem).trans hunknown)

section Tests

variable (reader : ValueReader) (builder : PredicateBuilder) (get : LogicalGet)

mutual

/-- A NULL test of a column without a Paimon type is pushed, when the expression is. -/
def testsUnknown : Expression → Bool
  | .operator .operatorNot (c :: _) => testsUnknown c
  | .operator .operatorIsNull (.columnRef i :: _) => columnFieldType get i == some .unknown
  | .operator .operatorIsNotNull (.columnRef i :: _) => columnFieldType get i == some .unknown
  | .conjunction _ cs => someTestsUnknown cs
  | _ => false

/-- `testsUnknown` of an expression of a list that is pushed. -/
def someTestsUnknown : List Expression → Bool
  | [] => false
  | c :: cs => ((pushed reader builder get c).isSome && testsUnknown c) || someTestsUnknown cs

end

end Tests

/-- A pushed expression: its predicate is typed, up to the NULL tests it pushes on columns without a type. -/
structure Pushes (reader : ValueReader) (builder : PredicateBuilder) (get : LogicalGet) (e : Expression) (p : Predicate) :
    Prop where
  typed : p.Typed get
  unknown : p.TestsUnknown ↔ testsUnknown reader builder get e = true

/-- The pushed expressions of a list. -/
structure PushesAll (reader : ValueReader) (builder : PredicateBuilder) (get : LogicalGet) (cs : List Expression)
    (ps : List Predicate) : Prop where
  typed : ∀ p ∈ ps, p.Typed get
  unknown : (∃ p ∈ ps, p.TestsUnknown) ↔ someTestsUnknown reader builder get cs = true

/-- A leaf with literals. -/
theorem pushes_leaf {e : Expression} {i : Nat} {column : ScanColumn} (hcolumn : get.column? i = some column)
    {f : LeafFunction} {literals : List Literal} (hf : f.isNullTest = false)
    (hliterals : ∀ literal ∈ literals, literalType literal = column.fieldType) (hsome : literals ≠ [])
    (hpattern : f.isPattern = true → column.fieldType = .string) (htests : testsUnknown reader builder get e = false) :
    Pushes reader builder get e (column.leaf f literals) := by
  have htyped := typed_leaf hcolumn hliterals (fun _ => hsome) hpattern
  refine ⟨htyped, iff_of_false ?_ (by rw [htests]; exact nofun)⟩
  rintro ⟨leaf, hleaf, hunknown⟩
  have hnull := (htyped.leaves leaf hleaf).unknown hunknown
  obtain rfl := List.mem_singleton.1 hleaf
  exact absurd (hf.symm.trans hnull) Bool.false_ne_true

/-- A NULL test. -/
theorem pushes_nullTest {e : Expression} {i : Nat} {column : ScanColumn} (hcolumn : get.column? i = some column)
    {f : LeafFunction} (hf : f = .isNull ∨ f = .isNotNull)
    (htests : testsUnknown reader builder get e = (columnFieldType get i == some .unknown)) :
    Pushes reader builder get e (column.leaf f []) := by
  have hnull : f.isNullTest = true := by rcases hf with rfl | rfl <;> rfl
  have hpattern : f.isPattern = false := by rcases hf with rfl | rfl <;> rfl
  refine ⟨typed_leaf hcolumn nofun (fun h => absurd (h.symm.trans hnull) Bool.false_ne_true)
    (fun h => absurd (hpattern.symm.trans h) Bool.false_ne_true), ?_⟩
  rw [htests, columnFieldType_of_column hcolumn, beq_iff_eq, Option.some.injEq]
  constructor
  · rintro ⟨leaf, hleaf, hunknown⟩
    obtain rfl := List.mem_singleton.1 hleaf
    exact hunknown
  · exact fun hunknown => ⟨_, List.mem_singleton.2 rfl, hunknown⟩

theorem comparisonLeaf_not_nullTest {type : ExpressionType} {f : LeafFunction} (h : comparisonLeaf type = some f) :
    f.isNullTest = false ∧ f.isPattern = false := by
  cases type <;> cases h <;> exact ⟨rfl, rfl⟩

theorem pushes_comparison {e : Expression} {type : ExpressionType} {i : Nat} {v : Value} {p : Predicate}
    (h : ((get.column? i).bind fun column => pushedComparison reader type column v) = some p)
    (htests : testsUnknown reader builder get e = false) : Pushes reader builder get e p := by
  obtain ⟨column, hcolumn, h⟩ := Option.bind_eq_some_iff.1 h
  unfold pushedComparison at h
  split at h
  · rename_i f literal hf hliteral
    cases h
    obtain ⟨hnull, hpattern⟩ := comparisonLeaf_not_nullTest hf
    refine pushes_leaf hcolumn hnull ?_ (List.cons_ne_nil _ _) (fun h => absurd (hpattern.symm.trans h) Bool.false_ne_true)
      htests
    intro literal' hmem
    obtain rfl := List.mem_singleton.1 hmem
    exact literalType_of_pushedLiteral hliteral
  · cases h

theorem typed_conjunction {ps : List Predicate} (hps : ps ≠ []) (h : ∀ p ∈ ps, p.Typed get) :
    (Predicate.and ps).Typed get ∧ (Predicate.or ps).Typed get := by
  have hleaves : ∀ leaf ∈ ps.flatMap Predicate.leaves, leaf.Typed get := by
    intro leaf hleaf
    obtain ⟨p, hp, hleaf⟩ := List.mem_flatMap.1 hleaf
    exact (h p hp).leaves leaf hleaf
  have hnonempty : (!ps.isEmpty && ps.all Predicate.nonempty) = true := by
    rw [Bool.and_eq_true, List.all_eq_true]
    exact ⟨by simpa using hps, fun p hp => (h p hp).nonempty⟩
  constructor
  · refine ⟨?_, ?_⟩
    · rw [Predicate.leaves, Predicate.leavesList_eq]
      exact hleaves
    · rw [Predicate.nonempty, Predicate.allNonempty_eq]
      exact hnonempty
  · refine ⟨?_, ?_⟩
    · rw [Predicate.leaves, Predicate.leavesList_eq]
      exact hleaves
    · rw [Predicate.nonempty, Predicate.allNonempty_eq]
      exact hnonempty

theorem testsUnknown_conjunction {ps : List Predicate} :
    ((Predicate.and ps).TestsUnknown ↔ ∃ p ∈ ps, p.TestsUnknown) ∧
      ((Predicate.or ps).TestsUnknown ↔ ∃ p ∈ ps, p.TestsUnknown) := by
  have hmem : (∃ leaf ∈ ps.flatMap Predicate.leaves, leaf.fieldType = .unknown) ↔ ∃ p ∈ ps, p.TestsUnknown := by
    constructor
    · rintro ⟨leaf, hleaf, hunknown⟩
      obtain ⟨p, hp, hleaf⟩ := List.mem_flatMap.1 hleaf
      exact ⟨p, hp, leaf, hleaf, hunknown⟩
    · rintro ⟨p, hp, leaf, hleaf, hunknown⟩
      exact ⟨leaf, List.mem_flatMap.2 ⟨p, hp, hleaf⟩, hunknown⟩
  constructor
  · unfold Predicate.TestsUnknown
    rw [Predicate.leaves, Predicate.leavesList_eq]
    exact hmem
  · unfold Predicate.TestsUnknown
    rw [Predicate.leaves, Predicate.leavesList_eq]
    exact hmem

theorem typed_negate {p : Predicate} (h : p.Typed get) : p.negate.Typed get := by
  refine ⟨?_, (Predicate.nonempty_negate p).trans h.nonempty⟩
  rw [Predicate.leaves_negate, List.forall_mem_map]
  intro leaf hleaf
  obtain ⟨hscanned, hname, htype, hliterals, hmember, hpattern, hunknown⟩ := h.leaves leaf hleaf
  refine ⟨hscanned, hname, htype, hliterals, ?_, ?_, ?_⟩
  · rw [LeafFunction.isMembership_negate]
    exact hmember
  · rw [LeafFunction.isPattern_negate]
    exact hpattern
  · rw [LeafFunction.isNullTest_negate]
    exact hunknown

theorem testsUnknown_negate {p : Predicate} : p.negate.TestsUnknown ↔ p.TestsUnknown := by
  unfold Predicate.TestsUnknown
  rw [Predicate.leaves_negate]
  simp

theorem and_eq_some {ps : List Predicate} {p : Predicate} (h : builder.and ps = some p) : p = .and ps := by
  unfold PredicateBuilder.and at h
  split at h <;> cases h
  rfl

theorem or_eq_some {ps : List Predicate} {p : Predicate} (h : builder.or ps = some p) : p = .or ps := by
  unfold PredicateBuilder.or at h
  split at h <;> cases h
  rfl

theorem not_eq_some {q p : Predicate} (h : builder.not q = some p) : p = q.negate := by
  unfold PredicateBuilder.not at h
  split at h <;> cases h
  rfl

theorem pushes_between {i : Nat} {lo hi : Value} {loInc hiInc : Bool} {p : Predicate}
    (h : pushed reader builder get (.between (.columnRef i) (.constant lo) (.constant hi) loInc hiInc) = some p) :
    Pushes reader builder get (.between (.columnRef i) (.constant lo) (.constant hi) loInc hiInc) p := by
  rw [pushed] at h
  obtain ⟨column, hcolumn, h⟩ := Option.bind_eq_some_iff.1 h
  unfold pushedBetween at h
  split at h
  · rename_i lower upper hlower hupper
    obtain rfl := and_eq_some h
    have hbound {f : LeafFunction} {literal : Literal} (hf : f.isNullTest = false) (hpattern : f.isPattern = false)
        (hliteral : literalType literal = column.fieldType) :
        Pushes reader builder get (.between (.columnRef i) (.constant lo) (.constant hi) loInc hiInc)
          (column.leaf f [literal]) := by
      refine pushes_leaf hcolumn hf ?_ (List.cons_ne_nil _ _)
        (fun h => absurd (hpattern.symm.trans h) Bool.false_ne_true) rfl
      intro literal' hmem
      obtain rfl := List.mem_singleton.1 hmem
      exact hliteral
    have hleft := @hbound (if loInc then .greaterOrEqual else .greaterThan) lower (by cases loInc <;> rfl)
      (by cases loInc <;> rfl) (literalType_of_pushedLiteral hlower)
    have hright := @hbound (if hiInc then .lessOrEqual else .lessThan) upper (by cases hiInc <;> rfl)
      (by cases hiInc <;> rfl) (literalType_of_pushedLiteral hupper)
    refine ⟨(typed_conjunction (List.cons_ne_nil _ _) ?_).1, ?_⟩
    · rw [List.forall_mem_cons, List.forall_mem_singleton]
      exact ⟨hleft.typed, hright.typed⟩
    · rw [testsUnknown_conjunction.1]
      refine iff_of_false ?_ Bool.false_ne_true
      rintro ⟨q, hq, hunknown⟩
      rcases List.mem_cons.1 hq with rfl | hq
      · exact Bool.false_ne_true (hleft.unknown.1 hunknown)
      · obtain rfl := List.mem_singleton.1 hq
        exact Bool.false_ne_true (hright.unknown.1 hunknown)
  · cases h

theorem classifyFunction_pattern {name : String} {f : LeafFunction} (h : classifyFunction name = some f) :
    f.isNullTest = false := by
  unfold classifyFunction at h
  split_ifs at h <;> cases h <;> rfl

theorem pushes_pattern {e : Expression} {name : String} {i : Nat} {pattern : Value} {p : Predicate}
    (h : ((get.column? i).bind fun column => pushedPattern reader builder name column pattern) = some p)
    (htests : testsUnknown reader builder get e = false) : Pushes reader builder get e p := by
  obtain ⟨column, hcolumn, h⟩ := Option.bind_eq_some_iff.1 h
  unfold pushedPattern at h
  split at h
  · rename_i f literal hf hliteral
    split at h
    · rename_i hstring
      unfold PredicateBuilder.pattern at h
      split at h
      · cases h
        refine pushes_leaf hcolumn (classifyFunction_pattern hf) ?_ (List.cons_ne_nil _ _) (fun _ => hstring) htests
        intro literal' hmem
        obtain rfl := List.mem_singleton.1 hmem
        exact literalType_of_pushedLiteral hliteral
      · cases h
    · cases h
  · cases h

theorem exists_of_mem_mapM {α β : Type} {f : α → Option β} :
    ∀ {l : List α} {bs : List β} {b : β}, l.mapM f = some bs → b ∈ bs → ∃ a ∈ l, f a = some b
  | [], bs, b, h, hb => by
    cases h
    cases hb
  | a :: l, bs, b, h, hb => by
    rw [List.mapM_cons] at h
    obtain ⟨c, hc, h⟩ := Option.bind_eq_some_iff.1 h
    obtain ⟨cs, hcs, h⟩ := Option.bind_eq_some_iff.1 h
    cases h
    rcases List.mem_cons.1 hb with rfl | hb
    · exact ⟨a, .head _, hc⟩
    · obtain ⟨a', ha', hb'⟩ := exists_of_mem_mapM hcs hb
      exact ⟨a', .tail _ ha', hb'⟩

/-- A membership test with the literals of its items. -/
theorem pushes_membership {e : Expression} {i : Nat} {column : ScanColumn} (hcolumn : get.column? i = some column)
    {f : LeafFunction} (hf : f.isNullTest = false ∧ f.isPattern = false) {literals : List Literal} {p : Predicate}
    (hliterals : ∀ literal ∈ literals, literalType literal = column.fieldType)
    (h : membershipLeaf column f literals = some p) (htests : testsUnknown reader builder get e = false) :
    Pushes reader builder get e p := by
  cases literals with
  | nil => cases h
  | cons literal literals =>
    cases h
    exact pushes_leaf hcolumn hf.1 hliterals (List.cons_ne_nil _ _)
      (fun h => absurd (hf.2.symm.trans h) Bool.false_ne_true) htests

theorem pushes_operator {type : ExpressionType} {i : Nat} {items : List Expression} {p : Predicate}
    (hnot : type ≠ .operatorNot) (h : pushed reader builder get (.operator type (.columnRef i :: items)) = some p) :
    Pushes reader builder get (.operator type (.columnRef i :: items)) p := by
  rw [pushed] at h
  · obtain ⟨column, hcolumn, h⟩ := Option.bind_eq_some_iff.1 h
    cases type with
    | operatorIsNull =>
      cases h
      exact pushes_nullTest hcolumn (.inl rfl) rfl
    | operatorIsNotNull =>
      cases h
      exact pushes_nullTest hcolumn (.inr rfl) rfl
    | compareIn =>
      obtain ⟨literals, hliterals, h⟩ := Option.bind_eq_some_iff.1 h
      refine pushes_membership hcolumn ⟨rfl, rfl⟩ (fun literal hmem => ?_) h rfl
      obtain ⟨item, -, hitem⟩ := exists_of_mem_mapM hliterals hmem
      exact literalType_of_itemLiteral hitem
    | compareNotIn =>
      refine pushes_membership hcolumn ⟨rfl, rfl⟩ (fun literal hmem => ?_) h rfl
      obtain ⟨item, -, hitem⟩ := List.mem_filterMap.1 hmem
      exact literalType_of_itemLiteral hitem
    | operatorNot => exact absurd rfl hnot
    | _ => cases h
  · exact hnot

theorem pushes_conjunction {type : ExpressionType} {cs : List Expression} {ps : List Predicate} {p : Predicate}
    (hchildren : PushesAll reader builder get cs ps) (hps : ps ≠ [])
    (h : (match type with
      | .conjunctionAnd => builder.and ps
      | .conjunctionOr => builder.or ps
      | _ => none) = some p) : Pushes reader builder get (.conjunction type cs) p := by
  have htyped := typed_conjunction hps hchildren.typed
  obtain ⟨hand, hor⟩ := @testsUnknown_conjunction ps
  cases type with
  | conjunctionAnd =>
    obtain rfl := and_eq_some h
    exact ⟨htyped.1, hand.trans hchildren.unknown⟩
  | conjunctionOr =>
    obtain rfl := or_eq_some h
    exact ⟨htyped.2, hor.trans hchildren.unknown⟩
  | _ => cases h

theorem pushesAll_cons_some {c : Expression} {cs : List Expression} {p : Predicate} {ps : List Predicate}
    (hpushed : pushed reader builder get c = some p) (hc : Pushes reader builder get c p)
    (hcs : PushesAll reader builder get cs ps) : PushesAll reader builder get (c :: cs) (p :: ps) := by
  refine ⟨List.forall_mem_cons.2 ⟨hc.typed, hcs.typed⟩, ?_⟩
  rw [someTestsUnknown, hpushed, Option.isSome_some, Bool.true_and, Bool.or_eq_true, ← hc.unknown, ← hcs.unknown]
  simp only [List.mem_cons, exists_eq_or_imp]

theorem pushesAll_cons_none {c : Expression} {cs : List Expression} {ps : List Predicate}
    (hpushed : pushed reader builder get c = none) (hcs : PushesAll reader builder get cs ps) :
    PushesAll reader builder get (c :: cs) ps := by
  refine ⟨hcs.typed, ?_⟩
  rw [someTestsUnknown, hpushed, Option.isSome_none, Bool.false_and, Bool.false_or]
  exact hcs.unknown

mutual

/-- Whatever is pushed is typed, up to NULL tests. -/
theorem pushes : ∀ (e : Expression) {p : Predicate}, pushed reader builder get e = some p → Pushes reader builder get e p
  | .comparison type l r, p, h => by
    cases l <;> cases r <;> first | cases h | exact pushes_comparison h rfl
  | .between x lo hi loInc hiInc, p, h => by
    cases x <;> cases lo <;> cases hi <;> first | cases h | exact pushes_between h
  | .function name cs, p, h => by
    by_cases hshape : ∀ i v rest, cs ≠ .columnRef i :: .constant v :: rest
    · rw [(function_not_pushed hshape).1] at h
      cases h
    · push Not at hshape
      obtain ⟨i, v, rest, rfl⟩ := hshape
      exact pushes_pattern h rfl
  | .operator type [], p, h => by
    cases type <;> cases h
  | .operator type (c :: cs), p, h => by
    by_cases htype : type = .operatorNot
    · subst htype
      rw [pushed] at h
      obtain ⟨q, hq, h⟩ := Option.bind_eq_some_iff.1 h
      obtain rfl := not_eq_some h
      have hc := pushes c hq
      exact ⟨typed_negate hc.typed, testsUnknown_negate.trans hc.unknown⟩
    · cases c with
      | columnRef i => exact pushes_operator htype h
      | _ => cases type <;> first | cases h | exact absurd rfl htype
  | .conjunction type cs, p, h => by
    rw [pushed_conjunction] at h
    rcases hchildren : childrenPushed reader builder get type cs with _ | _ | ⟨q, qs⟩
    · rw [hchildren] at h
      cases h
    · rw [hchildren] at h
      cases h
    · rw [hchildren] at h
      exact pushes_conjunction (pushesChildren type cs hchildren) (List.cons_ne_nil q qs) h
  | .columnRef _, p, h => by cases h
  | .constant _, p, h => by cases h
  | .other _ _, p, h => by cases h

theorem pushesChildren : ∀ (type : ExpressionType) (cs : List Expression) {ps : List Predicate},
    childrenPushed reader builder get type cs = some ps → PushesAll reader builder get cs ps
  | type, [], ps, h => by
    unfold childrenPushed at h
    have hnil : ps = [] := by split at h <;> cases h <;> rfl
    subst hnil
    exact ⟨nofun, iff_of_false (by simp) Bool.false_ne_true⟩
  | type, c :: cs, ps, h => by
    have ih {ps : List Predicate} (h : childrenPushed reader builder get type cs = some ps) :
        PushesAll reader builder get cs ps := pushesChildren type cs h
    unfold childrenPushed at h ih
    split at h
    · rename_i htype
      rw [pushedAll] at h
      obtain ⟨q, hq, h⟩ := Option.bind_eq_some_iff.1 h
      obtain ⟨qs, hqs, h⟩ := Option.map_eq_some_iff.1 h
      cases h
      exact pushesAll_cons_some hq (pushes c hq) (ih ((if_pos htype).trans hqs))
    · rename_i htype
      cases h
      have hcs := ih (if_neg htype)
      rw [pushedSome]
      cases hq : pushed reader builder get c with
      | none => exact pushesAll_cons_none hq hcs
      | some q => exact pushesAll_cons_some hq (pushes c hq) hcs

end

end Returned

/-! ## Well-typed predicates -/

/-- A typed predicate whose leaves all have a Paimon type. -/
def Predicate.WellTyped (get : LogicalGet) (p : Predicate) : Prop :=
  p.Typed get ∧ ∀ leaf ∈ p.leaves, leaf.fieldType ≠ .unknown

/-- A predicate the conversion returns is typed in any case, and well typed exactly if the expression pushes no
NULL test of a column without a Paimon type. -/
theorem tryConvertExpression_wellTyped_iff {reader : ValueReader} {builder : PredicateBuilder} {get : LogicalGet}
    {e : Expression} {p : Predicate} (h : tryConvertExpression reader builder get e = .ok (some p)) :
    p.Typed get ∧ (p.WellTyped get ↔ testsUnknown reader builder get e = false) := by
  have hpushes : Pushes reader builder get e p := pushes e (tryConvertExpression_returned e h).symm
  refine ⟨hpushes.typed, ?_⟩
  rw [Predicate.WellTyped, and_iff_right hpushes.typed, ← Bool.not_eq_true, ← hpushes.unknown]
  unfold Predicate.TestsUnknown
  push Not
  rfl

/-! ## A column without a type -/

namespace Sample

/-- A scan of a LIST column. -/
def listScan : LogicalGet where
  columnIds := [0]
  names := ["tags"]
  returnedTypes := [{ id := .list }]

/-- `tags IS NULL`. -/
def tagsIsNull : Expression := .operator .operatorIsNull [.columnRef 0]

end Sample

/-- `tags IS NULL` becomes a leaf of the unknown type. -/
theorem pushes_unknown_type :
    ¬ ∀ (reader : ValueReader) (builder : PredicateBuilder) (get : LogicalGet) (e : Expression) (p : Predicate),
      WellBound get e → tryConvertExpression reader builder get e = .ok (some p) → p.WellTyped get := by
  intro h
  have htyped := h Sample.ownReader Sample.builder Sample.listScan Sample.tagsIsNull
    (.leaf .isNull 0 "tags" .unknown []) ⟨⟨_, rfl⟩, rfl, trivial⟩ rfl
  exact htyped.2 _ (List.mem_singleton.2 rfl) rfl

/-- `f1 IN (1, 2)` becomes a well-typed leaf. -/
theorem tryConvertExpression_wellTyped_iff_in :
    (Predicate.leaf .in 0 "f1" .int [.int 1, .int 2]).Typed Sample.scan ∧
      ((Predicate.leaf .in 0 "f1" .int [.int 1, .int 2]).WellTyped Sample.scan ↔
        testsUnknown Sample.ownReader Sample.builder Sample.scan
          (.operator .compareIn [.columnRef 0, .constant (Sample.integer 1), .constant (Sample.integer 2)]) = false) :=
  tryConvertExpression_wellTyped_iff rfl

end DuckPaimon.Scan
