/-
What predicate pushdown keeps of a filter. The conversion drops the conjuncts of an AND and the
items of a NOT IN that it cannot convert (`prune`), and is exact on what is left: the predicate
holds on a row exactly when the pruned expression is TRUE on it, its negation exactly when the
pruned expression is FALSE.

Pruning weakens an expression where the dropped part stands under an even number of NOTs, so the
predicate then holds wherever the filter is TRUE; under an odd number of NOTs it strengthens the
expression, and rows on which the filter is TRUE only because of the dropped part are lost.
-/
import DuckPaimon.Lib.Outcome
import DuckPaimon.Scan.Convert

namespace DuckPaimon.Scan

/-! ## The convertible part of an expression -/

section Prune

variable (reader : ValueReader) (get : LogicalGet)

/-- The Paimon type of the column at a position of the scan's column ids. -/
def columnFieldType (columnIndex : Nat) : Option FieldType :=
  match get.columnIds[columnIndex]? with
  | none => none
  | some column => (get.returnedTypes[column]?).map convertFieldType

/-- A constant with a literal of the column's type. -/
def hasLiteral (columnIndex : Nat) : Expression → Bool
  | .constant v =>
    match columnFieldType get columnIndex with
    | none => false
    | some type =>
      match convertLiteral reader v type with
      | .ok (some _) => true
      | _ => false
  | _ => false

mutual

/-- The expressions `TryConvertExpression` converts, as far as no part throws: an AND needs one
convertible conjunct, an OR needs all its disjuncts. -/
def convertible : Expression → Bool
  | .comparison type (.columnRef i) (.constant v) =>
    (comparisonLeaf type).isSome && hasLiteral reader get i (.constant v)
  | .comparison type (.constant v) (.columnRef i) =>
    (comparisonLeaf type).isSome && hasLiteral reader get i (.constant v)
  | .between (.columnRef i) lo hi _ _ => hasLiteral reader get i lo && hasLiteral reader get i hi
  | .function name (.columnRef i :: pattern :: _) =>
    (classifyFunction name).isSome && columnFieldType get i == some .string && hasLiteral reader get i pattern
  | .conjunction .conjunctionAnd cs => someConvertible cs
  | .conjunction .conjunctionOr cs => !cs.isEmpty && allConvertible cs
  | .operator .operatorNot (c :: _) => convertible c
  | .operator .operatorIsNull (.columnRef _ :: _) => true
  | .operator .operatorIsNotNull (.columnRef _ :: _) => true
  | .operator .compareIn (.columnRef i :: items) => !items.isEmpty && items.all (hasLiteral reader get i)
  | .operator .compareNotIn (.columnRef i :: items) => items.any (hasLiteral reader get i)
  | _ => false

/-- Some expression of a list is convertible. -/
def someConvertible : List Expression → Bool
  | [] => false
  | c :: cs => convertible c || someConvertible cs

/-- Every expression of a list is convertible. -/
def allConvertible : List Expression → Bool
  | [] => true
  | c :: cs => convertible c && allConvertible cs

end

mutual

/-- The expression without the parts the conversion drops. -/
def prune : Expression → Expression
  | .conjunction type cs => .conjunction type (pruneList cs)
  | .operator .operatorNot (c :: cs) => .operator .operatorNot (prune c :: cs)
  | .operator .compareNotIn (.columnRef i :: items) =>
    .operator .compareNotIn (.columnRef i :: items.filter (hasLiteral reader get i))
  | e => e

/-- The convertible expressions of a list, pruned. -/
def pruneList : List Expression → List Expression
  | [] => []
  | c :: cs => if convertible reader get c then prune c :: pruneList cs else pruneList cs

end

mutual

/-- A part of the expression is dropped at a place of negative polarity, when the expression
itself stands at the polarity `pos`: a conjunct of an AND under an odd number of NOTs, or an item
of a NOT IN under an odd number of NOTs. -/
def dropsUnderNot (pos : Bool) : Expression → Bool
  | .conjunction .conjunctionAnd cs =>
    (!pos && !allConvertible reader get cs) || someDropsUnderNot pos cs
  | .conjunction _ cs => someDropsUnderNot pos cs
  | .operator .operatorNot (c :: _) => dropsUnderNot (!pos) c
  | .operator .compareNotIn (.columnRef i :: items) => !pos && !items.all (hasLiteral reader get i)
  | _ => false

/-- `dropsUnderNot` of a convertible expression of a list. -/
def someDropsUnderNot (pos : Bool) : List Expression → Bool
  | [] => false
  | c :: cs => (convertible reader get c && dropsUnderNot pos c) || someDropsUnderNot pos cs

end

theorem someConvertible_eq_any (cs : List Expression) :
    someConvertible reader get cs = cs.any (convertible reader get) := by
  induction cs with
  | nil => rfl
  | cons c cs ih => rw [someConvertible, ih, List.any_cons]

theorem allConvertible_eq_all (cs : List Expression) :
    allConvertible reader get cs = cs.all (convertible reader get) := by
  induction cs with
  | nil => rfl
  | cons c cs ih => rw [allConvertible, ih, List.all_cons]

theorem pruneList_eq (cs : List Expression) :
    pruneList reader get cs = (cs.filter (convertible reader get)).map (prune reader get) := by
  induction cs with
  | nil => rfl
  | cons c cs ih =>
    rw [pruneList, ih, List.filter_cons]
    split <;> rfl

theorem someDropsUnderNot_eq_false {pos : Bool} {cs : List Expression}
    (h : someDropsUnderNot reader get pos cs = false) :
    ∀ c ∈ cs, convertible reader get c = true → dropsUnderNot reader get pos c = false := by
  induction cs with
  | nil => simp
  | cons c cs ih =>
    rw [someDropsUnderNot, Bool.or_eq_false_iff] at h
    intro d hd hconv
    rcases List.mem_cons.1 hd with rfl | hd
    · simpa [hconv] using h.1
    · exact ih h.2 d hd hconv

end Prune

/-! ## Agreement of the leaves with DuckDB -/

/-- The constant an expression is. -/
def Expression.constant? : Expression → Option Value
  | .constant v => some v
  | _ => none

mutual

/-- The constants an expression holds against columns. -/
def comparands : Expression → List (Nat × Value)
  | .comparison _ (.columnRef i) (.constant v) => [(i, v)]
  | .comparison _ (.constant v) (.columnRef i) => [(i, v)]
  | .between (.columnRef i) (.constant lo) (.constant hi) _ _ => [(i, lo), (i, hi)]
  | .function _ (.columnRef i :: .constant v :: _) => [(i, v)]
  | .conjunction _ cs => comparandsList cs
  | .operator .operatorNot (c :: _) => comparands c
  | .operator .compareIn (.columnRef i :: items) => (items.filterMap Expression.constant?).map (i, ·)
  | .operator .compareNotIn (.columnRef i :: items) => (items.filterMap Expression.constant?).map (i, ·)
  | _ => []

/-- `comparands` of a list. -/
def comparandsList : List Expression → List (Nat × Value)
  | [] => []
  | c :: cs => comparands c ++ comparandsList cs

end

theorem comparandsList_eq (cs : List Expression) : comparandsList cs = cs.flatMap comparands := by
  induction cs with
  | nil => rfl
  | cons c cs ih => rw [comparandsList, ih, List.flatMap_cons]

/-- What a leaf made of an expression tests on a row: a value of a column, not NULL, of the column's type, against
a constant of the expression with a literal of that type. -/
structure Compares (reader : ValueReader) (get : LogicalGet) (row : Row) (e : Expression) (t : FieldType)
    (v c : Value) (literal : Literal) : Prop where
  found : ∃ i column, (i, c) ∈ comparands e ∧ get.columnIds[i]? = some column ∧ columnFieldType get i = some t ∧
    v = row column
  notNull : v.isNull = false
  literal : convertLiteral reader c t = .ok (some literal)

/-- On a row, each leaf made of an expression agrees with the DuckDB operator of the same name. DuckDB's binder has
given the constant and the column one type. -/
structure Agrees (eng : Engine) (test : Predicate.LeafTest) (reader : ValueReader) (get : LogicalGet) (row : Row)
    (e : Expression) : Prop where
  comparison : ∀ {t v c literal}, Compares reader get row e t v c literal → ∀ type f, comparisonLeaf type = some f →
    test f t v [literal] = eng.compare type v c
  isIn : ∀ {t v literals}, (∀ literal ∈ literals, ∃ c, Compares reader get row e t v c literal) →
    test .in t v literals = literals.any fun literal => test .equal t v [literal]
  notIn : ∀ {t v literals}, (∀ literal ∈ literals, ∃ c, Compares reader get row e t v c literal) →
    test .notIn t v literals = !test .in t v literals
  pattern : ∀ {v c literal}, Compares reader get row e .string v c literal → ∀ name f rest,
    classifyFunction name = some f →
      (eng.scalarFunction name (v :: c :: rest)).truth = some (test f .string v [literal])
  patternNull : ∀ name v rest, (classifyFunction name).isSome = true → v.isNull = true →
    (eng.scalarFunction name (v :: rest)).truth = none
  notPattern : ∀ {v c literal}, Compares reader get row e .string v c literal → ∀ name f,
    classifyFunction name = some f → test f.negate .string v [literal] = !test f .string v [literal]

/-- Its parts agree where an expression does. -/
theorem Agrees.mono {eng : Engine} {test : Predicate.LeafTest} {reader : ValueReader} {get : LogicalGet} {row : Row}
    {e part : Expression} (h : Agrees eng test reader get row e)
    (sub : ∀ comparand ∈ comparands part, comparand ∈ comparands e) : Agrees eng test reader get row part := by
  have hcompares {t : FieldType} {v c : Value} {literal : Literal}
      (hcompares : Compares reader get row part t v c literal) : Compares reader get row e t v c literal := by
    obtain ⟨⟨i, column, hmem, hfound⟩, hnull, hliteral⟩ := hcompares
    exact ⟨⟨i, column, sub _ hmem, hfound⟩, hnull, hliteral⟩
  have hall {t : FieldType} {v : Value} {literals : List Literal}
      (hliterals : ∀ literal ∈ literals, ∃ c, Compares reader get row part t v c literal) :
      ∀ literal ∈ literals, ∃ c, Compares reader get row e t v c literal := by
    intro literal hmem
    obtain ⟨c, hc⟩ := hliterals literal hmem
    exact ⟨c, hcompares hc⟩
  exact ⟨fun hc => h.comparison (hcompares hc), fun hc => h.isIn (hall hc), fun hc => h.notIn (hall hc),
    fun hc => h.pattern (hcompares hc), h.patternNull, fun hc => h.notPattern (hcompares hc)⟩

/-- So do the children of a conjunction. -/
theorem Agrees.child {eng : Engine} {test : Predicate.LeafTest} {reader : ValueReader} {get : LogicalGet} {row : Row}
    {type : ExpressionType} {cs : List Expression} (h : Agrees eng test reader get row (.conjunction type cs)) :
    ∀ c ∈ cs, Agrees eng test reader get row c := by
  intro c hc
  refine h.mono fun comparand hcomparand => ?_
  rw [comparands, comparandsList_eq]
  exact List.mem_flatMap.2 ⟨c, hc, hcomparand⟩

theorem notNull_of_convertLiteral {reader : ValueReader} {c : Value} {t : FieldType} {literal : Option Literal}
    (h : convertLiteral reader c t = .ok literal) : c.isNull = false := by
  unfold convertLiteral at h
  cases hc : c.isNull
  · rfl
  · rw [hc] at h; cases h

/-- A predicate that is exact on an expression on a row: it holds where the expression is TRUE, its negation
where the expression is FALSE. -/
def Exact (eng : Engine) (test : Predicate.LeafTest) (get : LogicalGet) (row : Row) (e : Expression)
    (p : Predicate) : Prop :=
  (p.holds test row = true ↔ truth eng get row e = some true) ∧
    (p.negate.holds test row = true ↔ truth eng get row e = some false)

section Exactness

variable {eng : Engine} {test : Predicate.LeafTest} {reader : ValueReader} {get : LogicalGet} {row : Row}

theorem exact_not {e : Expression} {p : Predicate} (cs : List Expression) (h : Exact eng test get row e p) :
    Exact eng test get row (.operator .operatorNot (e :: cs)) p.negate := by
  unfold Exact
  rw [truth_not, Ternary.not_eq_some, Ternary.not_eq_some, Predicate.negate_negate]
  exact ⟨h.2, h.1⟩

theorem forall₂_mem_left {α β : Type} {R : α → β → Prop} {es : List α} {ps : List β}
    (h : List.Forall₂ R es ps) : ∀ e ∈ es, ∃ p ∈ ps, R e p := by
  induction h with
  | nil => simp
  | cons hd _ ih =>
    intro e he
    rcases List.mem_cons.1 he with rfl | he
    · exact ⟨_, List.mem_cons_self .., hd⟩
    · obtain ⟨p, hp, hr⟩ := ih e he
      exact ⟨p, List.mem_cons_of_mem _ hp, hr⟩

theorem forall₂_mem_right {α β : Type} {R : α → β → Prop} {es : List α} {ps : List β}
    (h : List.Forall₂ R es ps) : ∀ p ∈ ps, ∃ e ∈ es, R e p := by
  induction h with
  | nil => simp
  | cons hd _ ih =>
    intro p hp
    rcases List.mem_cons.1 hp with rfl | hp
    · exact ⟨_, List.mem_cons_self .., hd⟩
    · obtain ⟨e, he, hr⟩ := ih p hp
      exact ⟨e, List.mem_cons_of_mem _ he, hr⟩

theorem exact_and {es : List Expression} {ps : List Predicate}
    (h : List.Forall₂ (Exact eng test get row) es ps) :
    Exact eng test get row (.conjunction .conjunctionAnd es) (.and ps) := by
  unfold Exact
  rw [truth_and, Ternary.all_eq_true, Ternary.all_eq_false, Predicate.negate_and, Predicate.holds_and,
    Predicate.holds_or, List.all_eq_true, List.any_map, List.any_eq_true, List.forall_mem_map, List.mem_map]
  refine ⟨⟨fun hp e he => ?_, fun he p hp => ?_⟩, ⟨?_, ?_⟩⟩
  · obtain ⟨p, hmem, hr⟩ := forall₂_mem_left h e he
    exact hr.1.1 (hp p hmem)
  · obtain ⟨e, hmem, hr⟩ := forall₂_mem_right h p hp
    exact hr.1.2 (he e hmem)
  · rintro ⟨p, hp, hneg⟩
    obtain ⟨e, he, hr⟩ := forall₂_mem_right h p hp
    exact ⟨e, he, hr.2.1 hneg⟩
  · rintro ⟨e, he, hfalse⟩
    obtain ⟨p, hp, hr⟩ := forall₂_mem_left h e he
    exact ⟨p, hp, hr.2.2 hfalse⟩

theorem exact_or {es : List Expression} {ps : List Predicate}
    (h : List.Forall₂ (Exact eng test get row) es ps) :
    Exact eng test get row (.conjunction .conjunctionOr es) (.or ps) := by
  unfold Exact
  rw [truth_or, Ternary.any_eq_true, Ternary.any_eq_false, Predicate.negate_or, Predicate.holds_and,
    Predicate.holds_or, List.all_map, List.all_eq_true, List.any_eq_true, List.forall_mem_map, List.mem_map]
  refine ⟨⟨?_, ?_⟩, ⟨fun hp e he => ?_, fun he p hp => ?_⟩⟩
  · rintro ⟨p, hp, hholds⟩
    obtain ⟨e, he, hr⟩ := forall₂_mem_right h p hp
    exact ⟨e, he, hr.1.1 hholds⟩
  · rintro ⟨e, he, htrue⟩
    obtain ⟨p, hp, hr⟩ := forall₂_mem_left h e he
    exact ⟨p, hp, hr.1.2 htrue⟩
  · obtain ⟨p, hmem, hr⟩ := forall₂_mem_left h e he
    exact hr.2.1 (hp p hmem)
  · obtain ⟨e, hmem, hr⟩ := forall₂_mem_right h p hp
    exact hr.2.2 (he e hmem)

/-- A leaf whose test decides an expression where the column is not NULL, the expression being
unknown on NULL, is exact on it. -/
theorem exact_leaf {e : Expression} {f : LeafFunction} {column : Nat} {name : String} {t : FieldType}
    {literals : List Literal} (hf : f ≠ .isNull ∧ f ≠ .isNotNull)
    (hnull : (row column).isNull = true → truth eng get row e = none)
    (hval : (row column).isNull = false → truth eng get row e = some (test f t (row column) literals))
    (hneg : (row column).isNull = false → test f.negate t (row column) literals = !test f t (row column) literals) :
    Exact eng test get row e (.leaf f column name t literals) := by
  have hf' : f.negate ≠ .isNull ∧ f.negate ≠ .isNotNull := by
    obtain ⟨h1, h2⟩ := hf
    cases f <;> simp [LeafFunction.negate] at h1 h2 ⊢
  unfold Exact
  rw [Predicate.negate, Predicate.holds, Predicate.holds, Predicate.leafHolds_test hf,
    Predicate.leafHolds_test hf']
  cases hx : (row column).isNull
  · rw [hval hx, hneg hx]
    simp
  · rw [hnull hx]
    simp

/-! ## Comparisons -/

/-- The comparison that is FALSE where this one is TRUE. -/
def negateComparison : ExpressionType → ExpressionType
  | .compareEqual => .compareNotEqual
  | .compareNotEqual => .compareEqual
  | .compareLessThan => .compareGreaterThanOrEqualTo
  | .compareGreaterThanOrEqualTo => .compareLessThan
  | .compareGreaterThan => .compareLessThanOrEqualTo
  | .compareLessThanOrEqualTo => .compareGreaterThan
  | type => type

theorem comparisonLeaf_negateComparison {type : ExpressionType} {f : LeafFunction}
    (h : comparisonLeaf type = some f) :
    comparisonLeaf (negateComparison type) = some f.negate ∧ f ≠ .isNull ∧ f ≠ .isNotNull := by
  cases type <;> simp [comparisonLeaf] at h <;> subst h <;> simp [negateComparison, comparisonLeaf, LeafFunction.negate]

theorem compare_negateComparison {type : ExpressionType} {f : LeafFunction}
    (h : comparisonLeaf type = some f) (l r : Value) :
    eng.compare (negateComparison type) l r = !eng.compare type l r := by
  cases type <;> simp [comparisonLeaf] at h <;> simp [negateComparison, Engine.compare]

theorem compareNullable_of_leaf {type : ExpressionType} {f : LeafFunction} (h : comparisonLeaf type = some f)
    (l r : Value) :
    eng.compareNullable type l r = if l.isNull || r.isNull then none else some (eng.compare type l r) := by
  cases type <;> simp [comparisonLeaf] at h <;> rfl

theorem comparisonLeaf_flip (type : ExpressionType) :
    (comparisonLeaf (flipComparisonExpression type)).isSome = (comparisonLeaf type).isSome := by
  cases type <;> rfl

/-- Swapping the operands and flipping the comparison changes nothing. -/
theorem compareNullable_flip {type : ExpressionType} {f : LeafFunction} (h : comparisonLeaf type = some f)
    (l r : Value) :
    eng.compareNullable (flipComparisonExpression type) r l = eng.compareNullable type l r := by
  have hflip : eng.compare (flipComparisonExpression type) r l = eng.compare type l r := by
    cases type <;> simp [comparisonLeaf] at h <;>
      simp [flipComparisonExpression, Engine.compare, eng.equals_comm r l]
  obtain ⟨f', hf'⟩ := Option.isSome_iff_exists.1 ((comparisonLeaf_flip type).trans (by rw [h]; rfl))
  rw [compareNullable_of_leaf hf', compareNullable_of_leaf h, hflip, Bool.or_comm]

theorem eval_columnRef {i column : Nat} (h : get.columnIds[i]? = some column) (row : Row) :
    eval eng get row (.columnRef i) = row column := by
  rw [eval, h]

/-- A constant that an expression holds against a column, on a row where that is not NULL. -/
theorem compares_of_mem {e : Expression} {i column : Nat} {v : Value} {t : FieldType} {literal : Literal}
    (hmem : (i, v) ∈ comparands e) (hcolumn : get.columnIds[i]? = some column) (ht : columnFieldType get i = some t)
    (hliteral : convertLiteral reader v t = .ok (some literal)) (hx : (row column).isNull = false) :
    Compares reader get row e t (row column) v literal :=
  ⟨⟨i, column, hmem, hcolumn, ht, rfl⟩, hx, hliteral⟩

theorem exact_comparison {e : Expression} (agrees : Agrees eng test reader get row e) {type : ExpressionType}
    {f : LeafFunction} {i column : Nat} {v : Value} {t : FieldType} {literal : Literal} (name : String)
    (hmem : (i, v) ∈ comparands e) (hcolumn : get.columnIds[i]? = some column) (ht : columnFieldType get i = some t)
    (hf : comparisonLeaf type = some f) (hliteral : convertLiteral reader v t = .ok (some literal)) :
    Exact eng test get row (.comparison type (.columnRef i) (.constant v)) (.leaf f column name t [literal]) := by
  have hv : v.isNull = false := notNull_of_convertLiteral hliteral
  obtain ⟨hneg, htest⟩ := comparisonLeaf_negateComparison hf
  refine exact_leaf htest (fun hx => ?_) (fun hx => ?_) (fun hx => ?_)
  · rw [truth_comparison, eval_columnRef hcolumn, compareNullable_of_leaf hf, hx]
    rfl
  · have hcompares := compares_of_mem hmem hcolumn ht hliteral hx
    rw [truth_comparison, eval_columnRef hcolumn, eval, compareNullable_of_leaf hf, hx, hv,
      agrees.comparison hcompares type f hf]
    rfl
  · have hcompares := compares_of_mem hmem hcolumn ht hliteral hx
    rw [agrees.comparison hcompares _ _ hneg, agrees.comparison hcompares _ _ hf, compare_negateComparison hf]

theorem exact_comparison_flipped {e : Expression} (agrees : Agrees eng test reader get row e) {type : ExpressionType}
    {f : LeafFunction} {i column : Nat} {v : Value} {t : FieldType} {literal : Literal} (name : String)
    (hmem : (i, v) ∈ comparands e) (hcolumn : get.columnIds[i]? = some column) (ht : columnFieldType get i = some t)
    (hf : comparisonLeaf (flipComparisonExpression type) = some f)
    (hliteral : convertLiteral reader v t = .ok (some literal)) :
    Exact eng test get row (.comparison type (.constant v) (.columnRef i)) (.leaf f column name t [literal]) := by
  obtain ⟨f', hf'⟩ := Option.isSome_iff_exists.1 ((comparisonLeaf_flip type).symm.trans (by rw [hf]; rfl))
  have h := exact_comparison agrees name hmem hcolumn ht hf hliteral
  unfold Exact at h ⊢
  rw [truth_comparison, compareNullable_flip hf', ← truth_comparison] at h
  exact h

/-! ## BETWEEN, IN, NULL tests and patterns -/

theorem exact_congr {e e' : Expression} {p : Predicate} (h : truth eng get row e' = truth eng get row e)
    (hp : Exact eng test get row e p) : Exact eng test get row e' p := by
  unfold Exact
  rw [h]
  exact hp

theorem exact_between {i column : Nat} {lo hi : Value} {t : FieldType} {lower upper : Literal} (name : String)
    (lowerInclusive upperInclusive : Bool) (agrees : Agrees eng test reader get row
      (.between (.columnRef i) (.constant lo) (.constant hi) lowerInclusive upperInclusive))
    (hcolumn : get.columnIds[i]? = some column) (ht : columnFieldType get i = some t)
    (hlower : convertLiteral reader lo t = .ok (some lower))
    (hupper : convertLiteral reader hi t = .ok (some upper)) :
    Exact eng test get row (.between (.columnRef i) (.constant lo) (.constant hi) lowerInclusive upperInclusive)
      (.and [.leaf (if lowerInclusive then .greaterOrEqual else .greaterThan) column name t [lower],
        .leaf (if upperInclusive then .lessOrEqual else .lessThan) column name t [upper]]) := by
  have hlo : comparisonLeaf (if lowerInclusive then .compareGreaterThanOrEqualTo else .compareGreaterThan) =
      some (if lowerInclusive then .greaterOrEqual else .greaterThan) := by cases lowerInclusive <;> rfl
  have hhi : comparisonLeaf (if upperInclusive then .compareLessThanOrEqualTo else .compareLessThan) =
      some (if upperInclusive then .lessOrEqual else .lessThan) := by cases upperInclusive <;> rfl
  refine exact_congr ?_ (exact_and (.cons (exact_comparison agrees name (.head _) hcolumn ht hlo hlower)
    (.cons (exact_comparison agrees name (.tail _ (.head _)) hcolumn ht hhi hupper) .nil)))
  rw [truth_between, truth_and, Engine.betweenNullable, List.map_cons, List.map_cons, List.map_nil,
    truth_comparison, truth_comparison]

/-- The literal of an item of an IN list. -/
def LiteralOf (reader : ValueReader) (t : FieldType) (item : Expression) (literal : Literal) : Prop :=
  ∃ v, item = .constant v ∧ convertLiteral reader v t = .ok (some literal)

section Items

variable {e : Expression} {i column : Nat} {t : FieldType} {items : List Expression} {literals : List Literal}

/-- The literals of the items of an IN list are of constants the expression holds against the column. -/
theorem compares_items (hmem : ∀ v, .constant v ∈ items → (i, v) ∈ comparands e)
    (hcolumn : get.columnIds[i]? = some column) (ht : columnFieldType get i = some t)
    (h : List.Forall₂ (LiteralOf reader t) items literals) (hx : (row column).isNull = false) :
    ∀ literal ∈ literals, ∃ c, Compares reader get row e t (row column) c literal := by
  intro literal hliteral
  obtain ⟨item, hitem, v, rfl, hv⟩ := forall₂_mem_right h literal hliteral
  exact ⟨v, compares_of_mem (hmem v hitem) hcolumn ht hv hx⟩

theorem compareNullable_equal_items (agrees : Agrees eng test reader get row e)
    (hmem : ∀ v, .constant v ∈ items → (i, v) ∈ comparands e) (hcolumn : get.columnIds[i]? = some column)
    (ht : columnFieldType get i = some t) (h : List.Forall₂ (LiteralOf reader t) items literals)
    (hx : (row column).isNull = false) :
    (items.map (eval eng get row)).map (eng.compareNullable .compareEqual (row column)) =
      (literals.map fun literal => test .equal t (row column) [literal]).map some := by
  induction h with
  | nil => rfl
  | cons hd _ ih =>
    obtain ⟨v, rfl, hv⟩ := hd
    have hcompares := compares_of_mem (hmem v (.head _)) hcolumn ht hv hx
    rw [List.map_cons, List.map_cons, ih fun v hv => hmem v (.tail _ hv), List.map_cons, List.map_cons, eval,
      compareNullable_of_leaf rfl, hx, notNull_of_convertLiteral hv,
      agrees.comparison hcompares .compareEqual .equal rfl]
    rfl

theorem exact_in (agrees : Agrees eng test reader get row e) (name : String)
    (hmem : ∀ v, .constant v ∈ items → (i, v) ∈ comparands e) (hcolumn : get.columnIds[i]? = some column)
    (ht : columnFieldType get i = some t) (hitems : items ≠ [])
    (h : List.Forall₂ (LiteralOf reader t) items literals) :
    Exact eng test get row (.operator .compareIn (.columnRef i :: items)) (.leaf .in column name t literals) := by
  refine exact_leaf ⟨nofun, nofun⟩ (fun hx => ?_) (fun hx => ?_)
    fun hx => agrees.notIn (compares_items hmem hcolumn ht h hx)
  · rw [truth_in, eval_columnRef hcolumn, Engine.inNullable]
    refine Ternary.any_eq_none (by simpa using hitems) (fun a ha => ?_)
    obtain ⟨y, _, rfl⟩ := List.mem_map.1 ha
    rw [compareNullable_of_leaf rfl, hx]
    rfl
  · rw [truth_in, eval_columnRef hcolumn, Engine.inNullable, compareNullable_equal_items agrees hmem hcolumn ht h hx,
      Ternary.any_map_some, agrees.isIn (compares_items hmem hcolumn ht h hx), List.any_map]
    rfl

theorem exact_notIn (agrees : Agrees eng test reader get row e) (name : String)
    (hmem : ∀ v, .constant v ∈ items → (i, v) ∈ comparands e) (hcolumn : get.columnIds[i]? = some column)
    (ht : columnFieldType get i = some t) (hitems : items ≠ [])
    (h : List.Forall₂ (LiteralOf reader t) items literals) :
    Exact eng test get row (.operator .compareNotIn (.columnRef i :: items))
      (.leaf .notIn column name t literals) := by
  have hin := exact_in agrees name hmem hcolumn ht hitems h
  unfold Exact
  rw [truth_notIn, ← truth_in, Ternary.not_eq_some, Ternary.not_eq_some]
  exact ⟨hin.2, hin.1⟩

end Items

theorem exact_isNull {i column : Nat} (name : String) (t : FieldType) (items : List Expression)
    (hcolumn : get.columnIds[i]? = some column) :
    Exact eng test get row (.operator .operatorIsNull (.columnRef i :: items)) (.leaf .isNull column name t []) := by
  unfold Exact
  rw [truth_isNull, eval_columnRef hcolumn, Predicate.negate, Predicate.holds, Predicate.holds]
  simp [Predicate.leafHolds, LeafFunction.negate]

theorem exact_isNotNull {i column : Nat} (name : String) (t : FieldType) (items : List Expression)
    (hcolumn : get.columnIds[i]? = some column) :
    Exact eng test get row (.operator .operatorIsNotNull (.columnRef i :: items))
      (.leaf .isNotNull column name t []) := by
  unfold Exact
  rw [truth_isNotNull, eval_columnRef hcolumn, Predicate.negate, Predicate.holds, Predicate.holds]
  simp [Predicate.leafHolds, LeafFunction.negate]

theorem classifyFunction_test {name : String} {f : LeafFunction} (h : classifyFunction name = some f) :
    f ≠ .isNull ∧ f ≠ .isNotNull := by
  unfold classifyFunction at h
  split_ifs at h <;> cases h <;> exact ⟨nofun, nofun⟩

theorem exact_pattern {function : String} {f : LeafFunction} {i column : Nat} {v : Value} {literal : Literal}
    (name : String) (rest : List Expression)
    (agrees : Agrees eng test reader get row (.function function (.columnRef i :: .constant v :: rest)))
    (hcolumn : get.columnIds[i]? = some column) (ht : columnFieldType get i = some .string)
    (hf : classifyFunction function = some f) (hliteral : convertLiteral reader v .string = .ok (some literal)) :
    Exact eng test get row (.function function (.columnRef i :: .constant v :: rest))
      (.leaf f column name .string [literal]) := by
  have hvalue : truth eng get row (.function function (.columnRef i :: .constant v :: rest)) =
      (eng.scalarFunction function (row column :: v :: rest.map (eval eng get row))).truth := by
    rw [truth, eval, evalList_eq_map, List.map_cons, List.map_cons, eval_columnRef hcolumn, eval]
  refine exact_leaf (classifyFunction_test hf) (fun hx => ?_) (fun hx => ?_) (fun hx => ?_)
  · rw [hvalue]
    exact agrees.patternNull function _ _ (by rw [hf]; rfl) hx
  · rw [hvalue]
    exact agrees.pattern (compares_of_mem (.head _) hcolumn ht hliteral hx) function f _ hf
  · exact agrees.notPattern (compares_of_mem (.head _) hcolumn ht hliteral hx) function f hf

end Exactness

end DuckPaimon.Scan
