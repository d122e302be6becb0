/-
Soundness of predicate pushdown. `tryConvertExpression` returns a predicate exactly for the
convertible expressions, and that predicate is exact on the pruned expression; from there on only
the polarity of the dropped parts matters.
-/
import DuckPaimon.Scan.Pushdown

namespace DuckPaimon.Scan

/-! ## Columns and literals -/

section Spec

variable {eng : Engine} {test : Predicate.LeafTest} {reader : ValueReader} {builder : PredicateBuilder}
  {get : LogicalGet} {row : Row}

theorem columnFieldType_of {i column : Nat} {type : LogicalType} (hcolumn : get.columnIds[i]? = some column)
    (htype : get.returnedTypes[column]? = some type) :
    columnFieldType get i = some (convertFieldType type) := by
  rw [columnFieldType, hcolumn]
  simp only [htype, Option.map_some]

theorem hasLiteral_constant {i : Nat} {t : FieldType} {v : Value} (ht : columnFieldType get i = some t) :
    hasLiteral reader get i (.constant v) = true ↔ ∃ literal, convertLiteral reader v t = .ok (some literal) := by
  rw [hasLiteral, ht]
  simp only
  split
  · rename_i literal h
    exact ⟨fun _ => ⟨literal, h⟩, fun _ => rfl⟩
  · rename_i h
    exact ⟨nofun, fun ⟨literal, hl⟩ => absurd hl (h literal)⟩

theorem hasLiteral_false_of_none {i : Nat} {t : FieldType} {v : Value} (ht : columnFieldType get i = some t)
    (h : convertLiteral reader v t = .ok none) : hasLiteral reader get i (.constant v) = false := by
  rw [Bool.eq_false_iff, Ne, hasLiteral_constant ht]
  rintro ⟨literal, hl⟩
  rw [h] at hl
  cases hl

/-- What a conversion returned: nothing for an expression that is not convertible, otherwise a
predicate that is exact on the pruned expression. -/
def Converts (eng : Engine) (test : Predicate.LeafTest) (reader : ValueReader) (get : LogicalGet) (row : Row)
    (e : Expression) : Option Predicate → Prop
  | none => convertible reader get e = false
  | some p => convertible reader get e = true ∧ Exact eng test get row (prune reader get e) p

/-! ## The leaves -/

theorem convertColumnComparison_ok {type : ExpressionType} {i : Nat} {v : Value} {o : Option Predicate}
    (h : convertColumnComparison reader get type i v = .ok o) :
    ∃ column t, get.columnIds[i]? = some column ∧ columnFieldType get i = some t ∧
      ((o = none ∧ ((comparisonLeaf type).isSome && hasLiteral reader get i (.constant v)) = false) ∨
        ∃ f literal name, comparisonLeaf type = some f ∧ convertLiteral reader v t = .ok (some literal) ∧
          o = some (.leaf f column name t [literal])) := by
  unfold convertColumnComparison at h
  obtain ⟨column, hcolumn, h⟩ := Outcome.bind_eq_ok.1 h
  obtain ⟨type', htype, h⟩ := Outcome.bind_eq_ok.1 h
  obtain ⟨literal, hliteral, h⟩ := Outcome.bind_eq_ok.1 h
  have ht := columnFieldType_of (vectorAt_eq_ok.1 hcolumn) (vectorAt_eq_ok.1 htype)
  refine ⟨column, _, vectorAt_eq_ok.1 hcolumn, ht, ?_⟩
  cases literal with
  | none =>
    left
    exact ⟨(Outcome.pure_eq_ok.1 h).symm, by rw [hasLiteral_false_of_none ht hliteral, Bool.and_false]⟩
  | some literal =>
    obtain ⟨name, _, h⟩ := Outcome.bind_eq_ok.1 h
    cases hf : comparisonLeaf type with
    | none =>
      rw [hf] at h
      exact .inl ⟨(Outcome.pure_eq_ok.1 h).symm, rfl⟩
    | some f =>
      rw [hf] at h
      exact .inr ⟨f, literal, name, rfl, hliteral, (Outcome.pure_eq_ok.1 h).symm⟩

theorem tryConvertComparison_converts {type : ExpressionType} {l r : Expression} {o : Option Predicate}
    (agrees : Agrees eng test reader get row (.comparison type l r)) (h : tryConvertComparison reader get type l r = .ok o) :
    Converts eng test reader get row (.comparison type l r) o := by
  unfold tryConvertComparison at h
  split at h
  · rename_i hleaf
    cases Outcome.pure_eq_ok.1 h
    cases l <;> cases r <;> simp [Converts, convertible, hleaf]
  · rename_i hleaf
    split at h
    · obtain ⟨column, t, hcolumn, ht, ⟨rfl, hno⟩ | ⟨f, literal, name, hf, hl, rfl⟩⟩ :=
        convertColumnComparison_ok h
      · exact hno
      · refine ⟨?_, exact_comparison agrees name (.head _) hcolumn ht hf hl⟩
        rw [convertible, hf, (hasLiteral_constant ht).2 ⟨literal, hl⟩]
        rfl
    · obtain ⟨column, t, hcolumn, ht, ⟨rfl, hno⟩ | ⟨f, literal, name, hf, hl, rfl⟩⟩ :=
        convertColumnComparison_ok h
      · rw [comparisonLeaf_flip] at hno
        exact hno
      · refine ⟨?_, exact_comparison_flipped agrees name (.head _) hcolumn ht hf hl⟩
        rw [convertible, ← comparisonLeaf_flip, hf, (hasLiteral_constant ht).2 ⟨literal, hl⟩]
        rfl
    · rename_i hl hr
      cases Outcome.pure_eq_ok.1 h
      cases l <;> cases r <;> first | rfl | exact absurd rfl (hl _ _ rfl) | exact absurd rfl (hr _ _ rfl)

theorem tryConvertBetween_converts (builderOk : builder.Succeeds)
    {x lo hi : Expression} {loInc hiInc : Bool} {o : Option Predicate}
    (agrees : Agrees eng test reader get row (.between x lo hi loInc hiInc))
    (h : tryConvertBetween reader builder get x lo hi loInc hiInc = .ok o) :
    Converts eng test reader get row (.between x lo hi loInc hiInc) o := by
  unfold tryConvertBetween at h
  split at h
  · rename_i i lo hi
    obtain ⟨column, hcolumn, h⟩ := Outcome.bind_eq_ok.1 h
    obtain ⟨type, htype, h⟩ := Outcome.bind_eq_ok.1 h
    obtain ⟨lower, hlower, h⟩ := Outcome.bind_eq_ok.1 h
    obtain ⟨upper, hupper, h⟩ := Outcome.bind_eq_ok.1 h
    rw [vectorAt_eq_ok] at hcolumn
    have ht := columnFieldType_of hcolumn (vectorAt_eq_ok.1 htype)
    cases lower with
    | none =>
      cases Outcome.pure_eq_ok.1 h
      rw [Converts, convertible, hasLiteral_false_of_none ht hlower, Bool.false_and]
    | some lower =>
      cases upper with
      | none =>
        cases Outcome.pure_eq_ok.1 h
        rw [Converts, convertible, hasLiteral_false_of_none ht hupper, Bool.and_false]
      | some upper =>
        obtain ⟨name, _, h⟩ := Outcome.bind_eq_ok.1 h
        cases Outcome.pure_eq_ok.1 h
        rw [builderOk.and_eq (List.cons_ne_nil _ _)]
        refine ⟨?_, exact_between name loInc hiInc agrees hcolumn ht hlower hupper⟩
        rw [convertible, (hasLiteral_constant ht).2 ⟨_, hlower⟩, (hasLiteral_constant ht).2 ⟨_, hupper⟩]
        rfl
  · rename_i hshape
    cases Outcome.pure_eq_ok.1 h
    cases x with
    | columnRef i =>
      cases lo <;> first | rfl | skip
      cases hi <;> first | (rw [Converts, convertible]; exact Bool.and_false _) | skip
      exact absurd rfl (hshape _ _ _ rfl rfl)
    | _ => rfl

/-- The literals of a `NOT IN` are those of the items that have one; an `IN` has literals only when
every item has one. -/
theorem collectLiterals_ok {type : ExpressionType} {i : Nat} {t : FieldType}
    (ht : columnFieldType get i = some t) {items : List Expression} {o : Option (List Literal)}
    (h : collectLiterals reader type t items = .ok o) :
    (o = none → type ≠ .compareNotIn ∧ items.all (hasLiteral reader get i) = false) ∧
      ∀ literals, o = some literals →
        List.Forall₂ (LiteralOf reader t) (items.filter (hasLiteral reader get i)) literals ∧
          (type ≠ .compareNotIn → items.all (hasLiteral reader get i) = true) := by
  induction items generalizing o with
  | nil =>
    cases Outcome.pure_eq_ok.1 h
    refine ⟨nofun, ?_⟩
    rintro _ ⟨⟩
    exact ⟨.nil, fun _ => rfl⟩
  | cons item items ih =>
    -- an item without a literal is skipped by NOT IN and ends IN
    have skipped (hno : hasLiteral reader get i item = false)
        (h : (if type = .compareNotIn then collectLiterals reader type t items else return none) = .ok o) :
        (o = none → type ≠ .compareNotIn ∧ (item :: items).all (hasLiteral reader get i) = false) ∧
          ∀ literals, o = some literals →
            List.Forall₂ (LiteralOf reader t) ((item :: items).filter (hasLiteral reader get i)) literals ∧
              (type ≠ .compareNotIn → (item :: items).all (hasLiteral reader get i) = true) := by
      rw [List.filter_cons, hno, List.all_cons, hno, Bool.false_and]
      split at h
      · rename_i hnotIn
        exact ⟨fun ho => absurd hnotIn ((ih h).1 ho).1,
          fun literals ho => ⟨((ih h).2 literals ho).1, fun hne => absurd hnotIn hne⟩⟩
      · rename_i hin
        cases Outcome.pure_eq_ok.1 h
        exact ⟨fun _ => ⟨hin, rfl⟩, nofun⟩
    by_cases hconstant : ∃ v, item = .constant v
    · obtain ⟨v, rfl⟩ := hconstant
      rw [collectLiterals] at h
      obtain ⟨literal, hliteral, h⟩ := Outcome.bind_eq_ok.1 h
      cases literal with
      | none => exact skipped (hasLiteral_false_of_none ht hliteral) h
      | some literal =>
        obtain ⟨rest, hrest, h⟩ := Outcome.bind_eq_ok.1 h
        have hyes : hasLiteral reader get i (.constant v) = true := (hasLiteral_constant ht).2 ⟨_, hliteral⟩
        cases Outcome.pure_eq_ok.1 h
        rw [List.filter_cons, hyes, if_pos rfl, List.all_cons, hyes, Bool.true_and]
        cases rest with
        | none => exact ⟨fun _ => (ih hrest).1 rfl, nofun⟩
        | some rest =>
          refine ⟨nofun, ?_⟩
          rintro _ ⟨⟩
          obtain ⟨hall, hin⟩ := (ih hrest).2 rest rfl
          exact ⟨.cons ⟨v, rfl, hliteral⟩ hall, hin⟩
    · have hno : hasLiteral reader get i item = false := by
        cases item <;> first | rfl | exact absurd ⟨_, rfl⟩ hconstant
      refine skipped hno ?_
      cases item <;> first | exact h | exact absurd ⟨_, rfl⟩ hconstant

theorem mem_constants {items : List Expression} {i : Nat} {v : Value} (h : .constant v ∈ items) :
    (i, v) ∈ (items.filterMap Expression.constant?).map (i, ·) :=
  List.mem_map_of_mem (List.mem_filterMap.2 ⟨_, h, rfl⟩)

theorem convertColumnOperator_converts {type : ExpressionType} {i : Nat}
    {items : List Expression} {o : Option Predicate}
    (agrees : Agrees eng test reader get row (.operator type (.columnRef i :: items)))
    (htype : type = .operatorIsNull ∨ type = .operatorIsNotNull ∨ type = .compareIn ∨ type = .compareNotIn)
    (h : convertColumnOperator reader get type i items = .ok o) :
    Converts eng test reader get row (.operator type (.columnRef i :: items)) o := by
  unfold convertColumnOperator at h
  obtain ⟨column, hcolumn, h⟩ := Outcome.bind_eq_ok.1 h
  obtain ⟨columnType, hcolumnType, h⟩ := Outcome.bind_eq_ok.1 h
  obtain ⟨name, _, h⟩ := Outcome.bind_eq_ok.1 h
  rw [vectorAt_eq_ok] at hcolumn
  have ht := columnFieldType_of hcolumn (vectorAt_eq_ok.1 hcolumnType)
  rcases htype with rfl | rfl | rfl | rfl
  · cases Outcome.pure_eq_ok.1 h
    exact ⟨rfl, exact_isNull name _ items hcolumn⟩
  · cases Outcome.pure_eq_ok.1 h
    exact ⟨rfl, exact_isNotNull name _ items hcolumn⟩
  · obtain ⟨literals, hliterals, h⟩ := Outcome.bind_eq_ok.1 h
    obtain ⟨hnone, hsome⟩ := collectLiterals_ok ht hliterals
    match literals with
    | none =>
      cases Outcome.pure_eq_ok.1 h
      rw [Converts, convertible, (hnone rfl).2, Bool.and_false]
    | some literals =>
      obtain ⟨hall, hin⟩ := hsome literals rfl
      have hevery := hin nofun
      rw [List.filter_eq_self.2 (by simpa using hevery)] at hall
      match literals, hall with
      | [], .nil =>
        cases Outcome.pure_eq_ok.1 h
        rfl
      | literal :: literals, .cons hd htl =>
        cases Outcome.pure_eq_ok.1 h
        refine ⟨?_, exact_in agrees name (fun v => mem_constants) hcolumn ht (List.cons_ne_nil _ _) (.cons hd htl)⟩
        rw [convertible, hevery]
        rfl
  · obtain ⟨literals, hliterals, h⟩ := Outcome.bind_eq_ok.1 h
    obtain ⟨hnone, hsome⟩ := collectLiterals_ok ht hliterals
    match literals with
    | none => exact absurd rfl (hnone rfl).1
    | some literals =>
      obtain ⟨hall, -⟩ := hsome literals rfl
      have hempty : items.filter (hasLiteral reader get i) = [] ↔ items.any (hasLiteral reader get i) = false :=
        List.filter_eq_nil_iff.trans List.any_eq_false.symm
      generalize hfilter : items.filter (hasLiteral reader get i) = kept at hall hempty
      match literals, kept, hall with
      | [], _, .nil =>
        cases Outcome.pure_eq_ok.1 h
        rw [Converts, convertible]
        exact hempty.1 rfl
      | literal :: literals, item :: kept, .cons hd htl =>
        cases Outcome.pure_eq_ok.1 h
        rw [Converts, convertible, prune, hfilter]
        have hkept (v : Value) (hv : .constant v ∈ item :: kept) :
            (i, v) ∈ comparands (.operator .compareNotIn (.columnRef i :: items)) :=
          mem_constants (List.mem_of_mem_filter (hfilter ▸ hv))
        refine ⟨?_, exact_notIn agrees name hkept hcolumn ht (List.cons_ne_nil _ _) (.cons hd htl)⟩
        rw [← Bool.not_eq_false, ← hempty]
        exact List.cons_ne_nil _ _

theorem convertColumnPattern_converts (builderOk : builder.Succeeds)
    {function : String} {f : LeafFunction} {i : Nat} {rest : List Expression} {o : Option Predicate}
    (agrees : Agrees eng test reader get row (.function function (.columnRef i :: rest)))
    (hf : classifyFunction function = some f)
    (h : convertColumnPattern reader builder get f i (.columnRef i :: rest) = .ok o) :
    Converts eng test reader get row (.function function (.columnRef i :: rest)) o := by
  unfold convertColumnPattern at h
  obtain ⟨column, hcolumn, h⟩ := Outcome.bind_eq_ok.1 h
  obtain ⟨name, _, h⟩ := Outcome.bind_eq_ok.1 h
  obtain ⟨columnType, hcolumnType, h⟩ := Outcome.bind_eq_ok.1 h
  rw [vectorAt_eq_ok] at hcolumn
  have ht := columnFieldType_of hcolumn (vectorAt_eq_ok.1 hcolumnType)
  by_cases hstring : convertFieldType columnType = .string
  · rw [hstring] at ht
    rw [hstring, if_neg (not_not_intro rfl)] at h
    cases rest with
    | nil => cases h
    | cons pattern rest =>
      obtain ⟨pattern', hpattern, h⟩ := Outcome.bind_eq_ok.1 h
      cases vectorAt_eq_ok.1 hpattern
      by_cases hconstant : ∃ v, pattern = .constant v
      · obtain ⟨v, rfl⟩ := hconstant
        obtain ⟨literal, hliteral, h⟩ := Outcome.bind_eq_ok.1 h
        cases literal with
        | none =>
          cases Outcome.pure_eq_ok.1 h
          rw [Converts, convertible, hasLiteral_false_of_none ht hliteral, Bool.and_false]
        | some literal =>
          cases Outcome.pure_eq_ok.1 h
          rw [builderOk.pattern_eq]
          refine ⟨?_, exact_pattern name rest agrees hcolumn ht hf hliteral⟩
          rw [convertible, hf, ht, (hasLiteral_constant ht).2 ⟨literal, hliteral⟩]
          rfl
      · have ho : o = none := by
          cases pattern <;> first | exact (Outcome.pure_eq_ok.1 h).symm | exact absurd ⟨_, rfl⟩ hconstant
        subst ho
        rw [Converts, convertible]
        cases pattern <;> first | exact Bool.and_false _ | exact absurd ⟨_, rfl⟩ hconstant
  · rw [if_pos hstring] at h
    cases Outcome.pure_eq_ok.1 h
    cases rest with
    | nil => rfl
    | cons pattern rest =>
      have hne : (columnFieldType get i == some FieldType.string) = false := by
        rw [ht, beq_eq_false_iff_ne, Ne, Option.some.injEq]
        exact hstring
      rw [Converts, convertible, hne, Bool.and_false, Bool.false_and]

theorem tryConvertFunction_converts (builderOk : builder.Succeeds)
    {function : String} {cs : List Expression} {o : Option Predicate}
    (agrees : Agrees eng test reader get row (.function function cs))
    (h : tryConvertFunction reader builder get function cs = .ok o) :
    Converts eng test reader get row (.function function cs) o := by
  unfold tryConvertFunction at h
  split at h
  · rename_i hf
    cases Outcome.pure_eq_ok.1 h
    match cs with
    | [] | [_] => first | rfl | (rename_i c; cases c <;> rfl)
    | c :: pattern :: rest => cases c <;> first | rfl | rw [Converts, convertible, hf]; rfl
  · rename_i f hf
    cases cs with
    | nil => cases h
    | cons c rest =>
      obtain ⟨c', hc, h⟩ := Outcome.bind_eq_ok.1 h
      cases vectorAt_eq_ok.1 hc
      cases c with
      | columnRef i => exact convertColumnPattern_converts builderOk agrees hf h
      | _ => cases Outcome.pure_eq_ok.1 h; rfl

/-! ## The tree -/

/-- Which children of a conjunction are left over, from what its loop returned. -/
structure ChildrenConvert (eng : Engine) (test : Predicate.LeafTest) (reader : ValueReader) (get : LogicalGet)
    (row : Row) (type : ExpressionType) (cs : List Expression) (o : Option (List Predicate)) : Prop where
  gaveUp : o = none → type = .conjunctionOr ∧ allConvertible reader get cs = false
  exact : ∀ ps, o = some ps → List.Forall₂ (Exact eng test get row) (pruneList reader get cs) ps
  all : o.isSome = true → type = .conjunctionOr → allConvertible reader get cs = true

theorem pruneList_eq_nil {cs : List Expression} :
    pruneList reader get cs = [] ↔ someConvertible reader get cs = false := by
  rw [pruneList_eq, List.map_eq_nil_iff, List.filter_eq_nil_iff, someConvertible_eq_any, List.any_eq_false]

/-- The conjunction of the predicates of the convertible children. -/
theorem conjunction_converts (builderOk : builder.Succeeds) {type : ExpressionType} {cs : List Expression}
    {ps : List Predicate} (hps : ps ≠ []) (h : ChildrenConvert eng test reader get row type cs (some ps)) :
    Converts eng test reader get row (.conjunction type cs)
      (match type with
        | .conjunctionAnd => builder.and ps
        | .conjunctionOr => builder.or ps
        | _ => none) := by
  have hexact := h.exact ps rfl
  have hsome : someConvertible reader get cs = true := by
    rw [← Bool.not_eq_false, ← pruneList_eq_nil]
    intro hnil
    rw [hnil] at hexact
    cases hexact
    exact hps rfl
  cases type with
  | conjunctionAnd =>
    rw [builderOk.and_eq hps]
    exact ⟨hsome, exact_and hexact⟩
  | conjunctionOr =>
    rw [builderOk.or_eq hps]
    refine ⟨?_, exact_or hexact⟩
    rw [convertible, h.all rfl rfl, Bool.and_true]
    cases cs with
    | nil => cases hsome
    | cons c cs => rfl
  | _ => rfl

/-- A conjunction none of whose children gives a predicate, or a disjunction that gave up. -/
theorem conjunction_not_convertible {type : ExpressionType} {cs : List Expression} {o : Option (List Predicate)}
    (ho : o = none ∨ o = some []) (h : ChildrenConvert eng test reader get row type cs o) :
    convertible reader get (.conjunction type cs) = false := by
  rcases ho with rfl | rfl
  · obtain ⟨rfl, hall⟩ := h.gaveUp rfl
    rw [convertible, hall, Bool.and_false]
  · have hnone : someConvertible reader get cs = false := by
      have := h.exact [] rfl
      rw [← pruneList_eq_nil]
      cases hp : pruneList reader get cs with
      | nil => rfl
      | cons p ps => rw [hp] at this; cases this
    cases type with
    | conjunctionAnd => exact hnone
    | conjunctionOr =>
      have hall := h.all rfl rfl
      cases cs with
      | nil => rfl
      | cons c cs =>
        rw [someConvertible, Bool.or_eq_false_iff] at hnone
        rw [allConvertible, hnone.1] at hall
        cases hall
    | _ => rfl

mutual

theorem tryConvertExpression_converts (builderOk : builder.Succeeds) :
    ∀ (e : Expression) {o : Option Predicate}, Agrees eng test reader get row e →
      tryConvertExpression reader builder get e = .ok o → Converts eng test reader get row e o
  | .comparison type l r, o, agrees, h => by
    rw [tryConvertExpression] at h
    exact tryConvertComparison_converts agrees h
  | .between x lo hi loInc hiInc, o, agrees, h => by
    rw [tryConvertExpression] at h
    exact tryConvertBetween_converts builderOk agrees h
  | .function name cs, o, agrees, h => by
    rw [tryConvertExpression] at h
    exact tryConvertFunction_converts builderOk agrees h
  | .operator type cs, o, agrees, h => by
    rw [tryConvertExpression] at h
    exact tryConvertOperator_converts builderOk type cs agrees h
  | .conjunction type cs, o, agrees, h => by
    rw [tryConvertExpression] at h
    obtain ⟨ps, hps, h⟩ := Outcome.bind_eq_ok.1 h
    have hchildren := convertChildren_converts builderOk type cs agrees.child hps
    match ps with
    | none =>
      cases Outcome.pure_eq_ok.1 h
      exact conjunction_not_convertible (.inl rfl) hchildren
    | some [] =>
      cases Outcome.pure_eq_ok.1 h
      exact conjunction_not_convertible (.inr rfl) hchildren
    | some (p :: ps) =>
      have hconverts := conjunction_converts builderOk (List.cons_ne_nil p ps) hchildren
      cases type <;> cases Outcome.pure_eq_ok.1 h <;> exact hconverts
  | .columnRef _, o, _, h => by cases Outcome.pure_eq_ok.1 h; rfl
  | .constant _, o, _, h => by cases Outcome.pure_eq_ok.1 h; rfl
  | .other _ _, o, _, h => by cases Outcome.pure_eq_ok.1 h; rfl

theorem tryConvertOperator_converts (builderOk : builder.Succeeds) :
    ∀ (type : ExpressionType) (cs : List Expression) {o : Option Predicate},
      Agrees eng test reader get row (.operator type cs) → tryConvertOperator reader builder get type cs = .ok o →
        Converts eng test reader get row (.operator type cs) o
  | type, [], o, _, h => by
    cases type <;> first | (cases Outcome.pure_eq_ok.1 h; rfl) | cases h
  | .operatorNot, c :: cs, o, agrees, h => by
    rw [tryConvertOperator] at h
    obtain ⟨p, hp, h⟩ := Outcome.bind_eq_ok.1 h
    have hc := tryConvertExpression_converts builderOk c (agrees.mono fun _ hmem => hmem) hp
    cases p with
    | none =>
      cases Outcome.pure_eq_ok.1 h
      exact hc
    | some p =>
      cases Outcome.pure_eq_ok.1 h
      rw [builderOk.not_eq]
      exact ⟨hc.1, exact_not cs hc.2⟩
  | .operatorIsNull, c :: cs, o, agrees, h => by
    cases c with
    | columnRef i => exact convertColumnOperator_converts agrees (.inl rfl) h
    | _ => cases Outcome.pure_eq_ok.1 h; rfl
  | .operatorIsNotNull, c :: cs, o, agrees, h => by
    cases c with
    | columnRef i => exact convertColumnOperator_converts agrees (.inr (.inl rfl)) h
    | _ => cases Outcome.pure_eq_ok.1 h; rfl
  | .compareIn, c :: cs, o, agrees, h => by
    cases c with
    | columnRef i => exact convertColumnOperator_converts agrees (.inr (.inr (.inl rfl))) h
    | _ => cases Outcome.pure_eq_ok.1 h; rfl
  | .compareNotIn, c :: cs, o, agrees, h => by
    cases c with
    | columnRef i => exact convertColumnOperator_converts agrees (.inr (.inr (.inr rfl))) h
    | _ => cases Outcome.pure_eq_ok.1 h; rfl
  | .compareEqual, c :: cs, o, _, h | .compareNotEqual, c :: cs, o, _, h | .compareLessThan, c :: cs, o, _, h
  | .compareGreaterThan, c :: cs, o, _, h | .compareLessThanOrEqualTo, c :: cs, o, _, h
  | .compareGreaterThanOrEqualTo, c :: cs, o, _, h | .compareDistinctFrom, c :: cs, o, _, h
  | .compareNotDistinctFrom, c :: cs, o, _, h | .operatorCoalesce, c :: cs, o, _, h
  | .operatorTry, c :: cs, o, _, h | .operatorUnpack, c :: cs, o, _, h | .conjunctionAnd, c :: cs, o, _, h
  | .conjunctionOr, c :: cs, o, _, h => by
    cases Outcome.pure_eq_ok.1 h
    rfl

theorem convertChildren_converts (builderOk : builder.Succeeds) :
    ∀ (type : ExpressionType) (cs : List Expression) {o : Option (List Predicate)},
      (∀ c ∈ cs, Agrees eng test reader get row c) →
        convertChildren reader builder get type cs = .ok o → ChildrenConvert eng test reader get row type cs o
  | type, [], o, _, h => by
    cases Outcome.pure_eq_ok.1 h
    refine ⟨nofun, ?_, fun _ _ => rfl⟩
    rintro _ ⟨⟩
    exact .nil
  | type, c :: cs, o, agrees, h => by
    rw [convertChildren] at h
    rw [List.forall_mem_cons] at agrees
    obtain ⟨p, hp, h⟩ := Outcome.bind_eq_ok.1 h
    have hc := tryConvertExpression_converts builderOk c agrees.1 hp
    cases p with
    | some p =>
      obtain ⟨ps, hps, h⟩ := Outcome.bind_eq_ok.1 h
      have hcs := convertChildren_converts builderOk type cs agrees.2 hps
      cases Outcome.pure_eq_ok.1 h
      cases ps with
      | none =>
        refine ⟨fun _ => ⟨(hcs.gaveUp rfl).1, ?_⟩, nofun, nofun⟩
        rw [allConvertible, (hcs.gaveUp rfl).2, Bool.and_false]
      | some ps =>
        refine ⟨nofun, ?_, fun _ htype => ?_⟩
        · rintro _ ⟨⟩
          rw [pruneList, if_pos hc.1]
          exact .cons hc.2 (hcs.exact ps rfl)
        · rw [allConvertible, hc.1, hcs.all rfl htype]
          rfl
    | none =>
      dsimp only at h
      have hno : convertible reader get c = false := hc
      split at h
      · rename_i htype
        cases Outcome.pure_eq_ok.1 h
        refine ⟨fun _ => ⟨htype, ?_⟩, nofun, nofun⟩
        rw [allConvertible, hno, Bool.false_and]
      · rename_i htype
        have hcs := convertChildren_converts builderOk type cs agrees.2 h
        refine ⟨fun ho => absurd (hcs.gaveUp ho).1 htype, fun ps ho => ?_, fun _ hor => absurd hor htype⟩
        rw [pruneList, hno, if_neg Bool.false_ne_true]
        exact hcs.exact ps ho

end

/-! ## Polarity of the dropped parts -/

/-- Pruning keeps a truth value of the expression wherever nothing is dropped at the polarity that
could change it. -/
def Keeps (eng : Engine) (reader : ValueReader) (get : LogicalGet) (e : Expression) : Prop :=
  ∀ pos row, convertible reader get e = true → dropsUnderNot reader get pos e = false →
    truth eng get row e = some pos → truth eng get row (prune reader get e) = some pos

theorem keeps_and {cs : List Expression} (ih : ∀ c ∈ cs, Keeps eng reader get c) :
    Keeps eng reader get (.conjunction .conjunctionAnd cs) := by
  intro pos row _ hdrops htruth
  rw [dropsUnderNot, Bool.or_eq_false_iff] at hdrops
  have hkept := someDropsUnderNot_eq_false reader get hdrops.2
  rw [truth_and] at htruth
  rw [prune, truth_and, pruneList_eq]
  cases pos with
  | true =>
    rw [Ternary.all_eq_true, List.forall_mem_map] at htruth ⊢
    intro e he
    obtain ⟨c, hc, rfl⟩ := List.mem_map.1 he
    obtain ⟨hc, hconv⟩ := List.mem_filter.1 hc
    exact ih c hc true row hconv (hkept c hc hconv) (htruth c hc)
  | false =>
    have hall : allConvertible reader get cs = true := by simpa using hdrops.1
    rw [allConvertible_eq_all, List.all_eq_true] at hall
    rw [Ternary.all_eq_false, List.mem_map] at htruth ⊢
    obtain ⟨c, hc, hfalse⟩ := htruth
    exact ⟨_, List.mem_map_of_mem (List.mem_filter.2 ⟨hc, hall c hc⟩),
      ih c hc false row (hall c hc) (hkept c hc (hall c hc)) hfalse⟩

theorem keeps_or {cs : List Expression} (ih : ∀ c ∈ cs, Keeps eng reader get c) :
    Keeps eng reader get (.conjunction .conjunctionOr cs) := by
  intro pos row hconvertible hdrops htruth
  rw [convertible, Bool.and_eq_true, allConvertible_eq_all, List.all_eq_true] at hconvertible
  have hall := hconvertible.2
  have hkept := someDropsUnderNot_eq_false reader get hdrops
  rw [truth_or] at htruth
  rw [prune, truth_or, pruneList_eq]
  cases pos with
  | true =>
    rw [Ternary.any_eq_true, List.mem_map] at htruth ⊢
    obtain ⟨c, hc, htrue⟩ := htruth
    exact ⟨_, List.mem_map_of_mem (List.mem_filter.2 ⟨hc, hall c hc⟩),
      ih c hc true row (hall c hc) (hkept c hc (hall c hc)) htrue⟩
  | false =>
    rw [Ternary.any_eq_false, List.forall_mem_map] at htruth ⊢
    intro e he
    obtain ⟨c, hc, rfl⟩ := List.mem_map.1 he
    obtain ⟨hc, hconv⟩ := List.mem_filter.1 hc
    exact ih c hc false row hconv (hkept c hc hconv) (htruth c hc)

theorem keeps_not {c : Expression} (cs : List Expression) (ih : Keeps eng reader get c) :
    Keeps eng reader get (.operator .operatorNot (c :: cs)) := by
  intro pos row hconv hdrops htruth
  rw [truth_not, Ternary.not_eq_some] at htruth
  rw [prune, truth_not, Ternary.not_eq_some]
  exact ih (!pos) row hconv hdrops htruth

theorem keeps_notIn (i : Nat) (items : List Expression) :
    Keeps eng reader get (.operator .compareNotIn (.columnRef i :: items)) := by
  intro pos row _ hdrops htruth
  rw [prune]
  cases pos with
  | true =>
    rw [truth_notIn, Ternary.not_eq_some, Bool.not_true, Engine.inNullable, Ternary.any_eq_false, List.map_map,
      List.forall_mem_map] at htruth ⊢
    intro item hitem
    exact htruth item (List.mem_filter.1 hitem).1
  | false =>
    have hall : items.all (hasLiteral reader get i) = true := by
      simpa [dropsUnderNot] using hdrops
    rw [List.all_eq_true] at hall
    rw [List.filter_eq_self.2 hall]
    exact htruth

theorem keeps_of_prune_eq {e : Expression} (h : prune reader get e = e) : Keeps eng reader get e := by
  intro pos row _ _ htruth
  rw [h]
  exact htruth

theorem keeps_conjunction (type : ExpressionType) {cs : List Expression}
    (ih : ∀ c ∈ cs, Keeps eng reader get c) : Keeps eng reader get (.conjunction type cs) := by
  cases type with
  | conjunctionAnd => exact keeps_and ih
  | conjunctionOr => exact keeps_or ih
  | _ => exact fun _ _ hconv => by cases hconv

theorem keeps_operator (type : ExpressionType) {cs : List Expression}
    (ih : ∀ c ∈ cs, Keeps eng reader get c) : Keeps eng reader get (.operator type cs) := by
  cases type with
  | operatorNot =>
    cases cs with
    | nil => exact keeps_of_prune_eq rfl
    | cons c cs => exact keeps_not cs (ih c (List.mem_cons_self ..))
  | compareNotIn =>
    cases cs with
    | nil => exact keeps_of_prune_eq rfl
    | cons c cs =>
      cases c with
      | columnRef i => exact keeps_notIn i cs
      | _ => exact keeps_of_prune_eq rfl
  | _ => exact keeps_of_prune_eq rfl

mutual

theorem keeps (eng : Engine) (reader : ValueReader) (get : LogicalGet) :
    ∀ e : Expression, Keeps eng reader get e
  | .conjunction type cs => keeps_conjunction type (keepsList eng reader get cs)
  | .operator type cs => keeps_operator type (keepsList eng reader get cs)
  | .comparison _ _ _ => keeps_of_prune_eq rfl
  | .between _ _ _ _ _ => keeps_of_prune_eq rfl
  | .function _ _ => keeps_of_prune_eq rfl
  | .columnRef _ => keeps_of_prune_eq rfl
  | .constant _ => keeps_of_prune_eq rfl
  | .other _ _ => keeps_of_prune_eq rfl

theorem keepsList (eng : Engine) (reader : ValueReader) (get : LogicalGet) :
    ∀ cs : List Expression, ∀ c ∈ cs, Keeps eng reader get c
  | [] => nofun
  | c :: cs => List.forall_mem_cons.2 ⟨keeps eng reader get c, keepsList eng reader get cs⟩

end

/-! ## Filters -/

theorem convertFilters_ok (builderOk : builder.Succeeds) {filters : List Expression} {ps : List Predicate}
    (agrees : ∀ f ∈ filters, Agrees eng test reader get row f)
    (h : convertFilters reader builder get filters = .ok ps) :
    List.Forall₂ (Exact eng test get row) (pruneList reader get filters) ps := by
  induction filters generalizing ps with
  | nil => cases Outcome.pure_eq_ok.1 h; exact .nil
  | cons f fs ih =>
    rw [convertFilters] at h
    rw [List.forall_mem_cons] at agrees
    obtain ⟨p, hp, h⟩ := Outcome.bind_eq_ok.1 h
    have hf := tryConvertExpression_converts builderOk f agrees.1 hp
    cases p with
    | some p =>
      obtain ⟨ps', hps', h⟩ := Outcome.bind_eq_ok.1 h
      cases Outcome.pure_eq_ok.1 h
      rw [pruneList, if_pos hf.1]
      exact .cons hf.2 (ih agrees.2 hps')
    | none =>
      have hno : convertible reader get f = false := hf
      rw [pruneList, hno, if_neg Bool.false_ne_true]
      exact ih agrees.2 h

/-- The predicate pushed down for a filter list holds on a row exactly when the pruned filters are
TRUE on it. -/
theorem pushdownPredicates_exact (builderOk : builder.Succeeds) {filters : List Expression} {p : Predicate}
    (agrees : ∀ f ∈ filters, Agrees eng test reader get row f)
    (h : pushdownPredicates reader builder get filters = .ok (some p)) :
    Exact eng test get row (.conjunction .conjunctionAnd (pruneList reader get filters)) p := by
  unfold pushdownPredicates at h
  obtain ⟨ps, hps, h⟩ := Outcome.bind_eq_ok.1 h
  have hexact := convertFilters_ok builderOk agrees hps
  split at h
  · rename_i hne
    rw [builderOk.and_ok ps hne] at h
    cases Outcome.pure_eq_ok.1 h
    exact exact_and hexact
  · cases Outcome.pure_eq_ok.1 h

end Spec

/-- When pushdown keeps every row. For a filter, and for a list of filters, the predicate holds on
a row on which they are TRUE exactly if their convertible part is TRUE there too; and their
convertible part is TRUE on every such row if no dropped part stands under an odd number of NOTs. -/
theorem pushdown_keeps_rows_iff {eng : Engine} {test : Predicate.LeafTest} {reader : ValueReader}
    {builder : PredicateBuilder} (get : LogicalGet) (builderOk : builder.Succeeds) :
    (∀ e p, tryConvertExpression reader builder get e = .ok (some p) →
      ∀ row, Agrees eng test reader get row e →
        ((truth eng get row e = some true → p.holds test row = true) ↔
          (truth eng get row e = some true → truth eng get row (prune reader get e) = some true)) ∧
        (dropsUnderNot reader get true e = false → truth eng get row e = some true → p.holds test row = true)) ∧
    (∀ filters p, pushdownPredicates reader builder get filters = .ok (some p) →
      ∀ row, (∀ f ∈ filters, Agrees eng test reader get row f) →
        (((∀ f ∈ filters, truth eng get row f = some true) → p.holds test row = true) ↔
          ((∀ f ∈ filters, truth eng get row f = some true) → ∀ f ∈ filters,
            convertible reader get f = true → truth eng get row (prune reader get f) = some true)) ∧
        ((∀ f ∈ filters, dropsUnderNot reader get true f = false) →
          (∀ f ∈ filters, truth eng get row f = some true) → p.holds test row = true)) := by
  refine ⟨fun e p h row agrees => ?_, fun filters p h row agrees => ?_⟩
  · obtain ⟨hconv, hexact⟩ := tryConvertExpression_converts builderOk e agrees h
    refine ⟨by rw [hexact.1], fun hdrops htrue => ?_⟩
    exact hexact.1.2 (keeps eng reader get e true row hconv hdrops htrue)
  · have hexact := pushdownPredicates_exact builderOk agrees h
    have hholds : p.holds test row = true ↔ ∀ f ∈ filters, convertible reader get f = true →
        truth eng get row (prune reader get f) = some true := by
      rw [hexact.1, truth_and, Ternary.all_eq_true, pruneList_eq, List.forall_mem_map, List.forall_mem_map]
      simp only [List.mem_filter, and_imp]
    refine ⟨by rw [hholds], fun hdrops htrue => ?_⟩
    exact hholds.2 fun f hf hconv => keeps eng reader get f true row hconv (hdrops f hf) (htrue f hf)

/-! ## A filter that loses rows -/

namespace Sample

/-- Reads INTEGER constants only. -/
def reader : ValueReader where
  getBool _ := .error (.conversion "not an INTEGER")
  getInt8 _ := .error (.conversion "not an INTEGER")
  getInt16 _ := .error (.conversion "not an INTEGER")
  getInt32 v := match v.type.id, v.stored with
    | .integer, some (.int i) => .ok (Int32.ofInt i)
    | _, _ => .error (.conversion "not an INTEGER")
  getInt64 _ := .error (.conversion "not an INTEGER")
  getFloat _ := .error (.conversion "not an INTEGER")
  getDouble _ := .error (.conversion "not an INTEGER")
  getString _ := .error (.conversion "not an INTEGER")
  getTimestamp _ := .error (.conversion "not an INTEGER")

/-- A date literal as the number of its days. -/
def dayNumber : Literal → Literal
  | .date days => .int days
  | literal => literal

/-- The literal values are compared by. -/
def key (v : Value) : Option Literal :=
  match convertLiteral reader v (convertFieldType v.type) with
  | .ok literal => literal.map dayNumber
  | .error _ => none

/-- Integers by size. -/
def greater : Option Literal → Option Literal → Bool
  | some (.int a), some (.int b) => b < a
  | _, _ => false

/-- Compares by `key`; its functions are unknown on every argument. -/
def engine : Engine where
  equals a b := key a == key b
  greaterThan a b := greater (key a) (key b)
  scalarFunction _ _ := .null { id := .boolean }
  operator _ _ := .null { id := .boolean }
  other _ _ := .null { id := .boolean }
  equals_comm _ _ := BEq.comm

/-- The leaf tests that agree with `engine`. -/
def test : Predicate.LeafTest := fun f _ v literals =>
  let equals literal := key v == some (dayNumber literal)
  let first := literals.head?.map dayNumber
  match f with
  | .equal => key v == first
  | .notEqual => !(key v == first)
  | .greaterThan => greater (key v) first
  | .lessOrEqual => !greater (key v) first
  | .lessThan => greater first (key v)
  | .greaterOrEqual => !greater first (key v)
  | .in => literals.any equals
  | .notIn => !literals.any equals
  | .notStartsWith | .notEndsWith | .notContains | .notLike => true
  | _ => false

/-- A builder all of whose calls succeed. -/
def builder : PredicateBuilder where
  andError _ := none
  orOk _ := true
  notOk _ := true
  patternOk _ _ _ := true

/-- A scan of two INTEGER columns. -/
def scan : LogicalGet where
  columnIds := [0, 1]
  names := ["f1", "f2"]
  returnedTypes := [{ id := .integer }, { id := .integer }]

/-- The INTEGER constant `i`. -/
def integer (i : Int) : Value := ⟨{ id := .integer }, some (.int i)⟩

/-- `NOT (f1 = 1 AND f1 = f2)`: the second conjunct compares two columns. -/
def notAnd : Expression :=
  .operator .operatorNot [.conjunction .conjunctionAnd
    [.comparison .compareEqual (.columnRef 0) (.constant (integer 1)),
      .comparison .compareEqual (.columnRef 0) (.columnRef 1)]]

/-- The row `(1, 2)`. -/
def row : Row := fun column => integer (column + 1)

theorem getInt32_type {v : Value} {i : Int32} (h : reader.getInt32 v = .ok i) : v.type.id = .integer := by
  simp only [reader] at h
  split at h
  · rename_i hid _
    exact hid
  · cases h

theorem key_of_convertLiteral {c : Value} {t : FieldType} {literal : Literal}
    (h : convertLiteral reader c t = .ok (some literal)) : key c = some (dayNumber literal) := by
  have hnull : c.isNull = false := notNull_of_convertLiteral h
  cases t with
  | int | date =>
    rw [convertLiteral, hnull] at h
    obtain ⟨i, hi, h⟩ := Outcome.bind_eq_ok.1 h
    cases Outcome.pure_eq_ok.1 h
    rw [key, convertFieldType, getInt32_type hi, convertLiteral, hnull, hi]
    rfl
  | decimal =>
    have hid : c.type.id = .decimal := by
      by_contra hid
      rw [convertLiteral, hnull, if_neg Bool.false_ne_true, if_pos hid] at h
      cases h
    rw [key, convertFieldType, hid, h]
    rfl
  | _ =>
    rw [convertLiteral, hnull] at h
    cases h

theorem agrees (get : LogicalGet) (row : Row) (e : Expression) : Agrees engine test reader get row e where
  comparison h type f hf := by
    have hkey := key_of_convertLiteral h.literal
    cases type <;> simp [comparisonLeaf] at hf <;> subst hf <;>
      simp [test, Engine.compare, engine, hkey]
  isIn _ := by simp [test]
  notIn _ := by simp [test]
  pattern {v c literal} h name f rest hf := by
    have hnull : c.isNull = false := notNull_of_convertLiteral h.literal
    have hliteral := h.literal
    rw [convertLiteral, hnull] at hliteral
    cases hliteral
  patternNull name v rest _ _ := rfl
  notPattern _ name f hf := by
    unfold classifyFunction at hf
    split_ifs at hf <;> cases hf <;> rfl

theorem builder_succeeds : builder.Succeeds := ⟨fun _ _ => rfl, fun _ _ => rfl, fun _ => rfl, fun _ _ _ => rfl⟩

end Sample

/-- Pushdown turns `NOT (f1 = 1 AND f1 = f2)` into `f1 <> 1`, which drops the row `(1, 2)` on which
the filter is TRUE. -/
theorem pushdown_loses_row :
    ¬ ∀ (eng : Engine) (test : Predicate.LeafTest) (reader : ValueReader) (builder : PredicateBuilder)
      (get : LogicalGet), (∀ row e, Agrees eng test reader get row e) → builder.Succeeds → ∀ e p row,
        tryConvertExpression reader builder get e = .ok (some p) → truth eng get row e = some true →
          p.holds test row = true := by
  intro h
  have hlost := h Sample.engine Sample.test Sample.reader Sample.builder Sample.scan (Sample.agrees Sample.scan)
    Sample.builder_succeeds Sample.notAnd (.or [.leaf .notEqual 0 "f1" .int [.int 1]]) Sample.row rfl rfl
  exact absurd hlost (by decide)

/-- The same filter under `pushdown_keeps_rows_iff`: the row is lost because `NOT (f1 = 1)`, what
the conversion keeps of the filter, is not TRUE on it. -/
theorem pushdown_keeps_rows_iff_notAnd :
    ¬(truth Sample.engine Sample.scan Sample.row Sample.notAnd = some true →
      truth Sample.engine Sample.scan Sample.row (prune Sample.reader Sample.scan Sample.notAnd) = some true) ∧
    ¬(truth Sample.engine Sample.scan Sample.row Sample.notAnd = some true →
      (Predicate.or [.leaf .notEqual 0 "f1" .int [.int 1]]).holds Sample.test Sample.row = true) := by
  have hiff := ((pushdown_keeps_rows_iff Sample.scan Sample.builder_succeeds).1 Sample.notAnd
    (.or [.leaf .notEqual 0 "f1" .int [.int 1]]) rfl Sample.row (Sample.agrees _ _ _)).1
  refine ⟨by decide, fun hkeeps => absurd (hiff.1 hkeeps) (by decide)⟩

end DuckPaimon.Scan
