/-
Pruning by pure partition-key filters (paimon_scan.cpp): equalities on partition keys, ANDs of them and
ORs of these. What is stored selects the partitions that hold, for some disjunct of every filter, the
last constant the disjunct gives each key; it selects every partition where no choice of disjuncts agrees.
-/
import DuckPaimon.Scan.Partition

namespace DuckPaimon.Scan

open Outcome

/-! ## Partition-key filters -/

section Filters

variable (get : LogicalGet) (partKeys : List String)

/-- What a non-NULL value of a type stores; values of the nested types and intervals store more. -/
def storesType : LogicalTypeId → Stored → Bool
  | .boolean, .boolean _ => true
  | .varchar, .string _ | .blob, .string _ | .bit, .string _ => true
  | .float, .float _ | .double, .float _ => true
  | .tinyint, .int _ | .smallint, .int _ | .integer, .int _ | .bigint, .int _ | .hugeint, .int _ => true
  | .utinyint, .int _ | .usmallint, .int _ | .uinteger, .int _ | .ubigint, .int _ | .uhugeint, .int _ => true
  | .date, .int _ | .time, .int _ | .timeTz, .int _ | .timestamp, .int _ | .timestampTz, .int _ => true
  | .timestampSec, .int _ | .timestampMs, .int _ | .timestampNs, .int _ => true
  | .decimal, .int _ | .enum, .int _ | .uuid, .int _ => true
  | _, _ => false

/-- A non-NULL value of the type of a column. -/
def KeyValue (key : String) (v : Value) : Prop :=
  (∃ stored, v.stored = some stored ∧ storesType v.type.id stored = true) ∧
    ∃ column : Nat, get.names[column]? = some key ∧ get.returnedTypes[column]? = some v.type

/-- The column and the constant of an equality. -/
def equalityOf : Expression → Option (String × Value)
  | .comparison .compareEqual (.columnRef i) (.constant v) => do
    let column ← get.columnIds[i]?
    let name ← get.names[column]?
    return (name, v)
  | .comparison .compareEqual (.constant v) (.columnRef i) => do
    let column ← get.columnIds[i]?
    let name ← get.names[column]?
    return (name, v)
  | _ => none

theorem KeyValue.isNull {key : String} {v : Value} (h : KeyValue get key v) : v.isNull = false := by
  obtain ⟨⟨stored, hstored, -⟩, -⟩ := h
  rw [Value.isNull, hstored, Option.isNone_some]

/-- An equality between a partition key and a non-NULL constant of its type. -/
def IsKeyEquality (e : Expression) : Prop :=
  ∃ key v, equalityOf get e = some (key, v) ∧ key ∈ partKeys ∧ KeyValue get key v

/-- Such an equality, or an AND of them. -/
def IsKeyConjunct (e : Expression) : Prop :=
  IsKeyEquality get partKeys e ∨
    ∃ cs, e = .conjunction .conjunctionAnd cs ∧ cs ≠ [] ∧ ∀ c ∈ cs, IsKeyEquality get partKeys c

/-- A pure partition-key filter. -/
def IsKeyFilter (f : Expression) : Prop :=
  IsKeyConjunct get partKeys f ∨
    ∃ cs, f = .conjunction .conjunctionOr cs ∧ cs ≠ [] ∧ ∀ c ∈ cs, IsKeyConjunct get partKeys c

/-- The equalities of a conjunct, in their order. -/
def equalitiesOf : Expression → List (String × Value)
  | .conjunction .conjunctionAnd cs => cs.filterMap (equalityOf get)
  | e => (equalityOf get e).toList

/-- The disjuncts of a filter. -/
def disjunctsOf : Expression → List Expression
  | .conjunction .conjunctionOr cs => cs
  | e => [e]

end Filters

/-! ## Partitions -/

/-- A partition: a non-NULL value under every partition key. -/
def IsPartition (get : LogicalGet) (partKeys : List String) (partition : String → Value) : Prop :=
  ∀ key ∈ partKeys, KeyValue get key (partition key)

/-- The row of a partition's values, by the columns of the table. -/
def partitionRow (get : LogicalGet) (partition : String → Value) : Row := fun column =>
  match get.names[column]? with
  | some name => partition name
  | none => .null { id := .invalid }

/-- The rendered values of a partition. -/
def partitionMap (render : Value → String) (partKeys : List String) (partition : String → Value) : StringMap :=
  partKeys.foldl (fun m key => m.insert key (render (partition key))) .empty

/-- The stored alternatives leave a partition in. -/
def Selects (partFilters : List StringMap) (s : StringMap) : Prop :=
  partFilters = [] ∨ ∃ filter ∈ partFilters, ∀ entry ∈ filter.entries, entry ∈ s.entries

/-- Rendering tells the values of a partition key apart. -/
def RendersInjectively (eng : Engine) (render : Value → String) (get : LogicalGet) (partKeys : List String) : Prop :=
  ∀ key ∈ partKeys, ∀ a b, KeyValue get key a → KeyValue get key b → (eng.equals a b = true ↔ render a = render b)

section Semantics

variable (eng : Engine) (get : LogicalGet) (partition : String → Value)

/-- Every filter is TRUE for the partition. -/
def AllTrue (filters : List Expression) : Prop :=
  ∀ f ∈ filters, truth eng get (partitionRow get partition) f = some true

/-- The partition holds the last constant of every key. -/
def LastHold (equalities : List (String × Value)) : Prop :=
  ∀ key v, equalities.reverse.lookup key = some v → eng.equals (partition key) v = true

/-- Every filter has a disjunct that is TRUE for the partition as far as the last equality on each key goes. -/
def AllLastHold (filters : List Expression) : Prop :=
  ∀ f ∈ filters, ∃ c ∈ disjunctsOf f, LastHold eng partition (equalitiesOf get c)

end Semantics

/-- The stored alternatives select exactly the partitions for which every filter is TRUE. -/
def PrunesExactly (eng : Engine) (render : Value → String) (get : LogicalGet) (partKeys : List String)
    (filters : List Expression) (partFilters : List StringMap) : Prop :=
  ∀ partition, IsPartition get partKeys partition →
    (Selects partFilters (partitionMap render partKeys partition) ↔ AllTrue eng get partition filters)

/-! ## What is stored -/

/-- The partition filter of a conjunct. -/
def conjunctMap (render : Value → String) (get : LogicalGet) (c : Expression) : StringMap :=
  (equalitiesOf get c).foldl (fun m e => m.insert e.1 (render e.2)) .empty

section Extract

variable {render : Value → String} {get : LogicalGet} {partKeys : List String}

theorem equalityOf_eq_some {e : Expression} {key : String} {v : Value} (h : equalityOf get e = some (key, v)) :
    ∃ i column, get.columnIds[i]? = some column ∧ get.names[column]? = some key ∧
      (e = .comparison .compareEqual (.columnRef i) (.constant v) ∨
        e = .comparison .compareEqual (.constant v) (.columnRef i)) := by
  unfold equalityOf at h
  split at h
  · obtain ⟨column, hcolumn, h⟩ := Option.bind_eq_some_iff.1 h
    obtain ⟨name, hname, h⟩ := Option.bind_eq_some_iff.1 h
    cases h
    exact ⟨_, column, hcolumn, hname, .inl rfl⟩
  · obtain ⟨column, hcolumn, h⟩ := Option.bind_eq_some_iff.1 h
    obtain ⟨name, hname, h⟩ := Option.bind_eq_some_iff.1 h
    cases h
    exact ⟨_, column, hcolumn, hname, .inr rfl⟩
  · cases h

theorem extractEquality_key {partFilter : StringMap} {i column : Nat} {key : String} {v : Value}
    (hcolumn : get.columnIds[i]? = some column) (hname : get.names[column]? = some key) (hkey : key ∈ partKeys)
    (hnull : v.isNull = false) :
    extractEquality render get partKeys partFilter i v = .ok (true, partFilter.insert key (render v)) := by
  unfold extractEquality
  refine bind_eq_ok.2 ⟨column, vectorAt_eq_ok.2 hcolumn, bind_eq_ok.2 ⟨key, vectorAt_eq_ok.2 hname, ?_⟩⟩
  rw [if_neg (not_not.2 hkey), hnull, if_neg Bool.false_ne_true]
  rfl

theorem tryExtractPartitionFilter_equality {e : Expression} {key : String} {v : Value}
    (h : equalityOf get e = some (key, v)) (hkey : key ∈ partKeys) (hnull : v.isNull = false) (partFilter : StringMap) :
    tryExtractPartitionFilter render get partKeys partFilter e = .ok (true, partFilter.insert key (render v)) := by
  obtain ⟨i, column, hcolumn, hname, he⟩ := equalityOf_eq_some h
  have hextract : extractEquality render get partKeys partFilter i v = .ok (true, partFilter.insert key (render v)) :=
    extractEquality_key hcolumn hname hkey hnull
  rcases he with rfl | rfl
  · rw [tryExtractPartitionFilter]
    exact hextract
  · rw [tryExtractPartitionFilter]
    exact hextract

/-- The equalities of an AND are put over the filter one after another. -/
theorem extractChildren_equalities {cs : List Expression} (hcs : ∀ c ∈ cs, IsKeyEquality get partKeys c)
    (matched : Bool) (partFilter : StringMap) :
    extractChildren render get partKeys matched partFilter cs =
      .ok (matched || !cs.isEmpty,
        (cs.filterMap (equalityOf get)).foldl (fun m e => m.insert e.1 (render e.2)) partFilter) := by
  induction cs generalizing matched partFilter with
  | nil =>
    rw [extractChildren, List.isEmpty_nil, Bool.not_true, Bool.or_false]
    rfl
  | cons c cs ih =>
    rw [List.forall_mem_cons] at hcs
    obtain ⟨⟨key, v, hc, hkey, hv⟩, hcs⟩ := hcs
    rw [extractChildren, tryExtractPartitionFilter_equality hc hkey hv.isNull, List.filterMap_cons_some hc]
    show extractChildren render get partKeys true (partFilter.insert key (render v)) cs = _
    rw [ih hcs]
    cases matched <;> rfl

theorem equalitiesOf_equality {e : Expression} {entry : String × Value} (h : equalityOf get e = some entry) :
    equalitiesOf get e = [entry] := by
  obtain ⟨key, v⟩ := entry
  obtain ⟨i, column, -, -, rfl | rfl⟩ := equalityOf_eq_some h
  · rw [equalitiesOf, h, Option.toList_some]
    exact nofun
  · rw [equalitiesOf, h, Option.toList_some]
    exact nofun

/-- A conjunct yields one partition filter. -/
theorem tryExtractPartitionFilter_conjunct {c : Expression} (hc : IsKeyConjunct get partKeys c) :
    tryExtractPartitionFilter render get partKeys .empty c = .ok (true, conjunctMap render get c) := by
  rcases hc with ⟨key, v, hc, hkey, hv⟩ | ⟨cs, rfl, hne, hcs⟩
  · rw [tryExtractPartitionFilter_equality hc hkey hv.isNull, conjunctMap, equalitiesOf_equality hc]
    rfl
  · rw [tryExtractPartitionFilter, if_neg (by simp), extractChildren_equalities hcs]
    cases cs with
    | nil => exact absurd rfl hne
    | cons => rfl

theorem extractDisjuncts_conjuncts {cs : List Expression} (hcs : ∀ c ∈ cs, IsKeyConjunct get partKeys c) :
    extractDisjuncts render get partKeys cs = .ok (some (cs.map (conjunctMap render get))) := by
  induction cs with
  | nil => rfl
  | cons c cs ih =>
    rw [List.forall_mem_cons] at hcs
    rw [extractDisjuncts, tryExtractPartitionFilter_conjunct hcs.1]
    show (extractDisjuncts render get partKeys cs >>= _) = _
    rw [ih hcs.2]
    rfl

theorem disjunctsOf_conjunct {c : Expression} (hc : IsKeyConjunct get partKeys c) : disjunctsOf c = [c] := by
  rcases hc with ⟨key, v, hc, -⟩ | ⟨cs, rfl, -⟩
  · obtain ⟨i, column, -, -, rfl | rfl⟩ := equalityOf_eq_some hc <;> rfl
  · rfl

/-- The disjuncts of a filter are conjuncts, and there are some. -/
theorem IsKeyFilter.disjuncts {f : Expression} (hf : IsKeyFilter get partKeys f) :
    disjunctsOf f ≠ [] ∧ ∀ c ∈ disjunctsOf f, IsKeyConjunct get partKeys c := by
  rcases hf with hf | ⟨cs, rfl, hne, hcs⟩
  · rw [disjunctsOf_conjunct hf, List.forall_mem_singleton]
    exact ⟨List.cons_ne_nil _ _, hf⟩
  · exact ⟨hne, hcs⟩

/-- A filter yields the partition filters of its disjuncts. -/
theorem tryExtractPartitionFilters_key {f : Expression} (hf : IsKeyFilter get partKeys f) :
    tryExtractPartitionFilters render get partKeys f = .ok ((disjunctsOf f).map (conjunctMap render get)) := by
  rcases hf with hf | ⟨cs, rfl, hne, hcs⟩
  · rw [disjunctsOf_conjunct hf]
    have hone : extractOne render get partKeys f = .ok [conjunctMap render get f] := by
      rw [extractOne, tryExtractPartitionFilter_conjunct hf]
      rfl
    rcases hf with ⟨key, v, hf, -⟩ | ⟨cs, rfl, -⟩
    · obtain ⟨i, column, -, -, rfl | rfl⟩ := equalityOf_eq_some hf <;> exact hone
    · exact hone
  · rw [tryExtractPartitionFilters, if_neg (by simp), if_pos rfl, extractDisjuncts_conjuncts hcs]
    rfl

theorem extractAll_key {filters : List Expression} (hfilters : ∀ f ∈ filters, IsKeyFilter get partKeys f) :
    extractAll render get partKeys filters =
      .ok (filters.map fun f => (disjunctsOf f).map (conjunctMap render get)) := by
  induction filters with
  | nil => rfl
  | cons f filters ih =>
    rw [List.forall_mem_cons] at hfilters
    have hne : (disjunctsOf f).map (conjunctMap render get) ≠ [] := by
      rw [ne_eq, List.map_eq_nil_iff]
      exact hfilters.1.disjuncts.1
    rw [extractAll, tryExtractPartitionFilters_key hfilters.1, ih hfilters.2]
    exact congrArg Except.ok (if_pos hne)

end Extract

/-! ## What is selected -/

theorem mem_of_lookup_reverse {l : List (String × Value)} {key : String} {v : Value}
    (h : l.reverse.lookup key = some v) : (key, v) ∈ l := by
  obtain ⟨before, after, hl, -⟩ := List.lookup_eq_some_iff.1 h
  rw [← List.mem_reverse, hl]
  exact List.mem_append_right _ (.head _)

/-- Of the values put under a key the last one stays. -/
theorem find?_foldl_insert_render (render : Value → String) (l : List (String × Value)) (m : StringMap) (key : String) :
    (l.foldl (fun m e => m.insert e.1 (render e.2)) m).find? key =
      ((l.reverse.lookup key).map render).or (m.find? key) := by
  induction l generalizing m with
  | nil => rfl
  | cons e l ih =>
    rw [List.foldl_cons, ih, SortedMap.find?_insert, List.reverse_cons, List.lookup_append, List.lookup_cons,
      List.lookup_nil]
    cases l.reverse.lookup key with
    | some v => rfl
    | none =>
      by_cases hkey : key = e.1
      · subst hkey
        simp
      · have hne : (key == e.1) = false := beq_eq_false_iff_ne.2 hkey
        rw [if_neg hkey, hne]
        rfl

section Select

variable {eng : Engine} {render : Value → String} {get : LogicalGet} {partKeys : List String}
  {partition : String → Value}

theorem find?_conjunctMap (c : Expression) (key : String) :
    (conjunctMap render get c).find? key = ((equalitiesOf get c).reverse.lookup key).map render := by
  rw [conjunctMap, find?_foldl_insert_render, SortedMap.find?_empty, Option.or_none]

theorem find?_partitionMap {key : String} (hkey : key ∈ partKeys) :
    (partitionMap render partKeys partition).find? key = some (render (partition key)) := by
  have hfold (keys : List String) (m : StringMap) (h : key ∈ keys ∨ m.find? key = some (render (partition key))) :
      (keys.foldl (fun m key => m.insert key (render (partition key))) m).find? key =
        some (render (partition key)) := by
    induction keys generalizing m with
    | nil => exact h.resolve_left List.not_mem_nil
    | cons k keys ih =>
      rw [List.foldl_cons]
      refine ih _ ?_
      rw [SortedMap.find?_insert]
      by_cases hk : key = k
      · rw [if_pos hk, hk]
        exact .inr rfl
      · rw [if_neg hk]
        rw [List.mem_cons] at h
        exact h.imp_left fun h => h.resolve_left hk
  exact hfold partKeys .empty (.inl hkey)

/-- The equalities of a conjunct name partition keys and constants of their types. -/
theorem IsKeyConjunct.equalities {c : Expression} (hc : IsKeyConjunct get partKeys c) :
    ∀ e ∈ equalitiesOf get c, e.1 ∈ partKeys ∧ KeyValue get e.1 e.2 := by
  rcases hc with ⟨key, v, hc, hkey, hv⟩ | ⟨cs, rfl, -, hcs⟩
  · rw [equalitiesOf_equality hc, List.forall_mem_singleton]
    exact ⟨hkey, hv⟩
  · intro e he
    obtain ⟨c, hc, he⟩ := List.mem_filterMap.1 he
    obtain ⟨key, v, hc, hkey, hv⟩ := hcs c hc
    rw [hc] at he
    cases he
    exact ⟨hkey, hv⟩

/-- A partition holds the partition filter of a conjunct if it holds the last constant of every key. -/
theorem sub_conjunctMap (hrender : RendersInjectively eng render get partKeys)
    (hpartition : IsPartition get partKeys partition) {c : Expression} (hc : IsKeyConjunct get partKeys c) :
    SortedMap.Sub (conjunctMap render get c) (partitionMap render partKeys partition) ↔
      LastHold eng partition (equalitiesOf get c) := by
  have hentry {key : String} {v : Value} (hlast : (equalitiesOf get c).reverse.lookup key = some v) :
      (partitionMap render partKeys partition).find? key = some (render v) ↔ eng.equals (partition key) v = true := by
    obtain ⟨hkey, hv⟩ := hc.equalities (key, v) (mem_of_lookup_reverse hlast)
    rw [find?_partitionMap hkey, Option.some_inj, hrender key hkey _ _ (hpartition key hkey) hv]
  constructor
  · intro hsub key v hlast
    refine (hentry hlast).1 (hsub key (render v) ?_)
    rw [find?_conjunctMap, hlast, Option.map_some]
  · intro hlasts key text hfind
    rw [find?_conjunctMap] at hfind
    obtain ⟨v, hlast, rfl⟩ := Option.map_eq_some_iff.1 hfind
    exact (hentry hlast).2 (hlasts key v hlast)

theorem anySub_disjuncts (hrender : RendersInjectively eng render get partKeys)
    (hpartition : IsPartition get partKeys partition) {f : Expression} (hf : IsKeyFilter get partKeys f) :
    SortedMap.AnySub ((disjunctsOf f).map (conjunctMap render get)) (partitionMap render partKeys partition) ↔
      ∃ c ∈ disjunctsOf f, LastHold eng partition (equalitiesOf get c) := by
  constructor
  · rintro ⟨m, hm, hsub⟩
    obtain ⟨c, hc, rfl⟩ := List.mem_map.1 hm
    exact ⟨c, hc, (sub_conjunctMap hrender hpartition (hf.disjuncts.2 c hc)).1 hsub⟩
  · rintro ⟨c, hc, hlast⟩
    refine ⟨conjunctMap render get c, List.mem_map_of_mem hc, ?_⟩
    exact (sub_conjunctMap hrender hpartition (hf.disjuncts.2 c hc)).2 hlast

/-- The partition filters of a list of filters. -/
def keyFilters (render : Value → String) (get : LogicalGet) (filters : List Expression) : List StringMap :=
  combineFilters (filters.map fun f => (disjunctsOf f).map (conjunctMap render get))

theorem anySub_keyFilters (hrender : RendersInjectively eng render get partKeys)
    (hpartition : IsPartition get partKeys partition) {filters : List Expression}
    (hfilters : ∀ f ∈ filters, IsKeyFilter get partKeys f) (hne : filters ≠ []) :
    SortedMap.AnySub (keyFilters render get filters) (partitionMap render partKeys partition) ↔
      AllLastHold eng get partition filters := by
  cases filters with
  | nil => exact absurd rfl hne
  | cons f filters =>
    rw [List.forall_mem_cons] at hfilters
    show SortedMap.AnySub (SortedMap.mergeAll _ _) _ ↔ _
    rw [SortedMap.mergeAll_anySub, AllLastHold, List.forall_mem_cons, List.forall_mem_map]
    refine and_congr (anySub_disjuncts hrender hpartition hfilters.1) (forall₂_congr fun f hf => ?_)
    exact anySub_disjuncts hrender hpartition (hfilters.2 f hf)

theorem selects_iff {partFilters : List StringMap} {s : StringMap} :
    Selects partFilters s ↔ partFilters = [] ∨ SortedMap.AnySub partFilters s := by
  refine or_congr_right (exists_congr fun filter => and_congr_right fun _ => ?_)
  rw [SortedMap.sub_iff_entries]
  exact forall₂_congr fun entry _ => (SortedMap.find?_eq_some _ _ _).symm

/-! ## Truth -/

theorem truth_equality {e : Expression} {key : String} {v : Value} (h : equalityOf get e = some (key, v))
    (hv : v.isNull = false) (hkey : (partition key).isNull = false) :
    truth eng get (partitionRow get partition) e = some (eng.equals (partition key) v) := by
  obtain ⟨i, column, hcolumn, hname, he⟩ := equalityOf_eq_some h
  have hcolumnRef : eval eng get (partitionRow get partition) (.columnRef i) = partition key := by
    rw [eval, hcolumn]
    show partitionRow get partition column = _
    rw [partitionRow, hname]
  have hcompare : eng.compareNullable .compareEqual (partition key) v = some (eng.equals (partition key) v) := by
    unfold Engine.compareNullable
    rw [hkey, hv]
    rfl
  rcases he with rfl | rfl
  · rw [truth_comparison, hcolumnRef]
    exact hcompare
  · rw [truth_comparison, hcolumnRef, compareNullable_equal_comm]
    exact hcompare

/-- A conjunct is TRUE for a partition that satisfies its equalities. -/
theorem truth_conjunct (hpartition : IsPartition get partKeys partition) {c : Expression}
    (hc : IsKeyConjunct get partKeys c) :
    truth eng get (partitionRow get partition) c = some true ↔
      ∀ e ∈ equalitiesOf get c, eng.equals (partition e.1) e.2 = true := by
  rcases hc with ⟨key, v, hc, hkey, hv⟩ | ⟨cs, rfl, -, hcs⟩
  · rw [truth_equality hc hv.isNull (hpartition key hkey).isNull, equalitiesOf_equality hc, List.forall_mem_singleton,
      Option.some_inj]
  · rw [truth_and, Ternary.all_eq_true, List.forall_mem_map]
    constructor
    · intro h e he
      obtain ⟨c, hmem, he⟩ := List.mem_filterMap.1 he
      obtain ⟨key, v, hc, hkey, hv⟩ := hcs c hmem
      rw [hc] at he
      cases he
      have htrue := h c hmem
      rw [truth_equality hc hv.isNull (hpartition key hkey).isNull] at htrue
      exact Option.some.inj htrue
    · intro h c hmem
      obtain ⟨key, v, hc, hkey, hv⟩ := hcs c hmem
      rw [truth_equality hc hv.isNull (hpartition key hkey).isNull, h (key, v) (List.mem_filterMap.2 ⟨c, hmem, hc⟩)]

theorem truth_filter {row : Row} {f : Expression} (hf : IsKeyFilter get partKeys f) :
    truth eng get row f = some true ↔ ∃ c ∈ disjunctsOf f, truth eng get row c = some true := by
  rcases hf with hf | ⟨cs, rfl, -, -⟩
  · rw [disjunctsOf_conjunct hf]
    simp only [List.mem_singleton, exists_eq_left]
  · rw [truth_or, Ternary.any_eq_true, List.mem_map]
    rfl

theorem AllTrue.lastHold {filters : List Expression} (hpartition : IsPartition get partKeys partition)
    (hfilters : ∀ f ∈ filters, IsKeyFilter get partKeys f) (h : AllTrue eng get partition filters) :
    AllLastHold eng get partition filters := by
  intro f hf
  obtain ⟨c, hc, htrue⟩ := (truth_filter (hfilters f hf)).1 (h f hf)
  rw [truth_conjunct hpartition ((hfilters f hf).disjuncts.2 c hc)] at htrue
  exact ⟨c, hc, fun key v hlast => htrue (key, v) (mem_of_lookup_reverse hlast)⟩

/-- Where no conjunct names a key twice, the last equality on a key is the only one. -/
theorem AllLastHold.allTrue {filters : List Expression} (hpartition : IsPartition get partKeys partition)
    (hfilters : ∀ f ∈ filters, IsKeyFilter get partKeys f)
    (honce : ∀ f ∈ filters, ∀ c ∈ disjunctsOf f, ((equalitiesOf get c).map Prod.fst).Nodup)
    (h : AllLastHold eng get partition filters) : AllTrue eng get partition filters := by
  intro f hf
  obtain ⟨c, hc, hlast⟩ := h f hf
  refine (truth_filter (hfilters f hf)).2 ⟨c, hc, ?_⟩
  rw [truth_conjunct hpartition ((hfilters f hf).disjuncts.2 c hc)]
  rintro ⟨key, v⟩ he
  refine hlast key v (List.lookup_eq_some_iff.2 ?_)
  obtain ⟨before, after, hl⟩ := List.mem_iff_append.1 he
  refine ⟨after.reverse, before.reverse, by rw [hl]; simp, fun e he => ?_⟩
  have hnodup := honce f hf c hc
  rw [hl, List.map_append, List.map_cons, List.nodup_append] at hnodup
  refine bne_iff_ne.2 fun heq => (List.nodup_cons.1 hnodup.2.1).1 ?_
  exact List.mem_map.2 ⟨e, List.mem_reverse.1 he, heq.symm⟩

/-! ## Some partition is selected -/

/-- What is stored names partition keys and renders values of theirs. -/
theorem keyFilters_entries {filters : List Expression} (hfilters : ∀ f ∈ filters, IsKeyFilter get partKeys f) :
    ∀ m ∈ keyFilters render get filters, ∀ e ∈ m.entries,
      e.1 ∈ partKeys ∧ ∃ v, KeyValue get e.1 v ∧ render v = e.2 := by
  have hfilter : ∀ f ∈ filters, ∀ m ∈ (disjunctsOf f).map (conjunctMap render get), ∀ e ∈ m.entries,
      e.1 ∈ partKeys ∧ ∃ v, KeyValue get e.1 v ∧ render v = e.2 := by
    intro f hf m hm e he
    obtain ⟨c, hc, rfl⟩ := List.mem_map.1 hm
    have hfind := (SortedMap.find?_eq_some _ _ _).2 he
    rw [find?_conjunctMap] at hfind
    obtain ⟨v, hlast, hrendered⟩ := Option.map_eq_some_iff.1 hfind
    obtain ⟨hkey, hv⟩ := ((hfilters f hf).disjuncts.2 c hc).equalities _ (mem_of_lookup_reverse hlast)
    exact ⟨hkey, v, hv, hrendered⟩
  cases filters with
  | nil => exact nofun
  | cons f filters =>
    rw [List.forall_mem_cons] at hfilter
    exact SortedMap.mergeAll_entries hfilter.1 (List.forall_mem_map.2 hfilter.2)

/-- Some partition contains a stored alternative. -/
theorem exists_partition_sub {m : StringMap} (hvalues : ∀ key ∈ partKeys, ∃ v, KeyValue get key v)
    (hentries : ∀ e ∈ m.entries, e.1 ∈ partKeys ∧ ∃ v, KeyValue get e.1 v ∧ render v = e.2) :
    ∃ partition, IsPartition get partKeys partition ∧ SortedMap.Sub m (partitionMap render partKeys partition) := by
  have hchoice : ∀ key, ∃ v, key ∈ partKeys →
      KeyValue get key v ∧ ∀ text, m.find? key = some text → render v = text := by
    intro key
    cases hfind : m.find? key with
    | none =>
      by_cases hkey : key ∈ partKeys
      · obtain ⟨v, hv⟩ := hvalues key hkey
        exact ⟨v, fun _ => ⟨hv, nofun⟩⟩
      · exact ⟨.null { id := .invalid }, fun h => absurd h hkey⟩
    | some text =>
      obtain ⟨-, v, hv, hrendered⟩ := hentries (key, text) ((SortedMap.find?_eq_some _ _ _).1 hfind)
      refine ⟨v, fun _ => ⟨hv, fun text' htext => ?_⟩⟩
      rw [hrendered, Option.some.inj htext]
  choose partition hchosen using hchoice
  refine ⟨partition, fun key hkey => (hchosen key hkey).1, fun key text hfind => ?_⟩
  have hkey := (hentries (key, text) ((SortedMap.find?_eq_some _ _ _).1 hfind)).1
  rw [find?_partitionMap hkey, (hchosen key hkey).2 text hfind]

/-- Whatever is stored, some partition is selected. -/
theorem exists_selected (hvalues : ∀ key ∈ partKeys, ∃ v, KeyValue get key v) {filters : List Expression}
    (hfilters : ∀ f ∈ filters, IsKeyFilter get partKeys f) :
    ∃ partition, IsPartition get partKeys partition ∧
      Selects (keyFilters render get filters) (partitionMap render partKeys partition) := by
  have hentries : ∀ m ∈ keyFilters render get filters, ∀ e ∈ m.entries,
      e.1 ∈ partKeys ∧ ∃ v, KeyValue get e.1 v ∧ render v = e.2 := keyFilters_entries hfilters
  cases hstored : keyFilters render get filters with
  | nil =>
    have hempty : ∀ e ∈ (.empty : StringMap).entries, e.1 ∈ partKeys ∧ ∃ v, KeyValue get e.1 v ∧ render v = e.2 := nofun
    obtain ⟨partition, hpartition, -⟩ := exists_partition_sub hvalues hempty
    exact ⟨partition, hpartition, .inl rfl⟩
  | cons m ms =>
    rw [hstored] at hentries
    obtain ⟨partition, hpartition, hsub⟩ := exists_partition_sub hvalues (hentries m (.head _))
    exact ⟨partition, hpartition, selects_iff.2 (.inr ⟨m, .head _, hsub⟩)⟩

/-- A pure partition-key filter has a partition key. -/
theorem IsKeyFilter.partKeys_ne_nil {f : Expression} (hf : IsKeyFilter get partKeys f) : partKeys ≠ [] := by
  have hconjunct {c : Expression} (hc : IsKeyConjunct get partKeys c) : partKeys ≠ [] := by
    rcases hc with ⟨key, v, -, hkey, -⟩ | ⟨cs, -, hne, hcs⟩
    · exact List.ne_nil_of_mem hkey
    · obtain ⟨c, hc⟩ := List.exists_mem_of_ne_nil cs hne
      obtain ⟨key, v, -, hkey, -⟩ := hcs c hc
      exact List.ne_nil_of_mem hkey
  obtain ⟨c, hc⟩ := List.exists_mem_of_ne_nil _ hf.disjuncts.1
  exact hconjunct (hf.disjuncts.2 c hc)

theorem paimonPushdownFilter_key {Split : Type} {reader : ValueReader} {builder : PredicateBuilder}
    {bind bind' : PaimonScanBindData Split} {filters : List Expression}
    (hfilters : ∀ f ∈ filters, IsKeyFilter get bind.partKeys f)
    (h : paimonPushdownFilter reader builder render get bind filters = .ok bind') :
    bind'.partFilters = keyFilters render get filters := by
  unfold paimonPushdownFilter at h
  obtain ⟨predicates, -, h⟩ := bind_eq_ok.1 h
  split at h
  · rename_i hkeys
    cases pure_eq_ok.1 h
    cases filters with
    | nil => rfl
    | cons f filters => exact absurd hkeys (hfilters f (.head _)).partKeys_ne_nil
  · rw [extractAll_key hfilters] at h
    cases h
    rfl

end Select

/-- Pure partition-key filters prune exactly if some partition satisfies them all, and if nothing but the last
equality a disjunct has on each key decides whether a partition does. -/
theorem key_filters_prune_exactly_iff {Split : Type} {eng : Engine} {reader : ValueReader} {builder : PredicateBuilder}
    {render : Value → String} {get : LogicalGet} {bind bind' : PaimonScanBindData Split} {filters : List Expression}
    (hrender : RendersInjectively eng render get bind.partKeys)
    (hvalues : ∀ key ∈ bind.partKeys, ∃ v, KeyValue get key v)
    (hfilters : ∀ f ∈ filters, IsKeyFilter get bind.partKeys f)
    (hstored : paimonPushdownFilter reader builder render get bind filters = .ok bind') :
    PrunesExactly eng render get bind.partKeys filters bind'.partFilters ↔
      (∃ partition, IsPartition get bind.partKeys partition ∧ AllTrue eng get partition filters) ∧
        ∀ partition, IsPartition get bind.partKeys partition →
          AllLastHold eng get partition filters → AllTrue eng get partition filters := by
  rw [paimonPushdownFilter_key hfilters hstored]
  have hsub {partition : String → Value} (hpartition : IsPartition get bind.partKeys partition) (hne : filters ≠ []) :
      SortedMap.AnySub (keyFilters render get filters) (partitionMap render bind.partKeys partition) ↔
        AllLastHold eng get partition filters := anySub_keyFilters hrender hpartition hfilters hne
  -- the last equalities decide on the selection, unless nothing is stored
  have hselects {partition : String → Value} (hpartition : IsPartition get bind.partKeys partition)
      (hlast : AllLastHold eng get partition filters) :
      Selects (keyFilters render get filters) (partitionMap render bind.partKeys partition) := by
    rw [selects_iff]
    by_cases hne : filters = []
    · exact .inl (by rw [hne]; rfl)
    · exact .inr ((hsub hpartition hne).2 hlast)
  constructor
  · intro hexact
    constructor
    · obtain ⟨partition, hpartition, hselected⟩ := exists_selected hvalues hfilters
      exact ⟨partition, hpartition, (hexact partition hpartition).1 hselected⟩
    · intro partition hpartition hlast
      exact (hexact partition hpartition).1 (hselects hpartition hlast)
  · rintro ⟨⟨witness, hwitness, htrue⟩, hlasts⟩ partition hpartition
    constructor
    · intro hselected
      refine hlasts partition hpartition ?_
      by_cases hne : filters = []
      · rw [hne]
        exact nofun
      · refine (hsub hpartition hne).1 ((selects_iff.1 hselected).resolve_left ?_)
        obtain ⟨m, hm, -⟩ := (hsub hwitness hne).2 (htrue.lastHold hwitness hfilters)
        exact List.ne_nil_of_mem hm
    · intro htrue
      exact hselects hpartition (htrue.lastHold hpartition hfilters)

/-! ## Disjunctions on one key -/

namespace Sample

/-- `p = first OR p = second`. -/
def eitherText (first second : String) : Expression :=
  .conjunction .conjunctionOr [equalsText first, equalsText second]

def textValue (text : String) : Value := ⟨{ id := .varchar }, some (.string text)⟩

theorem keyValue_text (text : String) : KeyValue textScan "p" (textValue text) :=
  ⟨⟨.string text, rfl, rfl⟩, 0, rfl, rfl⟩

theorem isKeyFilter_eitherText (first second : String) : IsKeyFilter textScan ["p"] (eitherText first second) := by
  have hequality (text : String) : IsKeyEquality textScan ["p"] (equalsText text) :=
    ⟨"p", textValue text, rfl, .head _, keyValue_text text⟩
  refine .inr ⟨_, rfl, List.cons_ne_nil _ _, ?_⟩
  rw [List.forall_mem_cons, List.forall_mem_singleton]
  exact ⟨.inl (hequality first), .inl (hequality second)⟩

/-- A value of the key is a text. -/
theorem keyValue_eq_text {v : Value} (h : KeyValue textScan "p" v) : ∃ text, v = textValue text := by
  obtain ⟨⟨stored, hstored, hfits⟩, column, hname, htype⟩ := h
  have hcolumn : column = 0 := by
    cases column with
    | zero => rfl
    | succ column => cases hname
  subst hcolumn
  obtain ⟨type, _⟩ := v
  cases htype
  cases hstored
  cases stored with
  | string text => exact ⟨text, rfl⟩
  | _ => cases hfits

theorem rendersInjectively_text : RendersInjectively textEngine Write.Sample.renderText textScan ["p"] := by
  intro key hkey a b ha hb
  obtain rfl := List.mem_singleton.1 hkey
  obtain ⟨first, rfl⟩ := keyValue_eq_text ha
  obtain ⟨second, rfl⟩ := keyValue_eq_text hb
  show decide (textValue first = textValue second) = true ↔ first = second
  rw [decide_eq_true_iff]
  constructor
  · intro h
    cases h
    rfl
  · rintro rfl
    rfl

theorem isPartition_text (text : String) : IsPartition textScan ["p"] fun _ => textValue text := by
  intro key hkey
  obtain rfl := List.mem_singleton.1 hkey
  exact keyValue_text text

end Sample

/-- `p = 'a' OR p = 'b'` and `p = 'c' OR p = 'd'` select every partition. -/
theorem contradicting_filters_select_all :
    ¬ ∀ (eng : Engine) (reader : ValueReader) (builder : PredicateBuilder) (render : Value → String) (get : LogicalGet)
      (bind bind' : PaimonScanBindData Unit) (filters : List Expression),
      RendersInjectively eng render get bind.partKeys → filters ≠ [] →
      (∀ f ∈ filters, IsKeyFilter get bind.partKeys f) →
      paimonPushdownFilter reader builder render get bind filters = .ok bind' →
      PrunesExactly eng render get bind.partKeys filters bind'.partFilters := by
  intro h
  have hexact := h Sample.textEngine Sample.textReader Sample.builder Write.Sample.renderText Sample.textScan
    Sample.textBind _ [Sample.eitherText "a" "b", Sample.eitherText "c" "d"] Sample.rendersInjectively_text
    (List.cons_ne_nil _ _)
    (List.forall_mem_cons.2 ⟨Sample.isKeyFilter_eitherText "a" "b",
      List.forall_mem_singleton.2 (Sample.isKeyFilter_eitherText "c" "d")⟩) rfl
  have htrue := (hexact _ (Sample.isPartition_text "a")).1 (.inl rfl)
  exact absurd (htrue _ (.tail _ (.head _))) (by decide)

/-- `p = 'a' OR p = 'b'` selects these partitions. -/
theorem key_filters_prune_exactly_iff_either :
    PrunesExactly Sample.textEngine Write.Sample.renderText Sample.textScan ["p"] [Sample.eitherText "a" "b"]
      [SortedMap.empty.insert "p" "a", SortedMap.empty.insert "p" "b"] := by
  have hfilters : ∀ f ∈ [Sample.eitherText "a" "b"], IsKeyFilter Sample.textScan Sample.textBind.partKeys f :=
    List.forall_mem_singleton.2 (Sample.isKeyFilter_eitherText "a" "b")
  have hvalues : ∀ key ∈ Sample.textBind.partKeys, ∃ v, KeyValue Sample.textScan key v :=
    List.forall_mem_singleton.2 ⟨_, Sample.keyValue_text "a"⟩
  have hstored : paimonPushdownFilter Sample.textReader Sample.builder Write.Sample.renderText Sample.textScan
      Sample.textBind [Sample.eitherText "a" "b"] =
        .ok { Sample.textBind with
          predicates := some (.and [.or [.leaf .equal 0 "p" .string [.string "a"], .leaf .equal 0 "p" .string [.string "b"]]])
          partFilters := [SortedMap.empty.insert "p" "a", SortedMap.empty.insert "p" "b"] } := rfl
  refine (key_filters_prune_exactly_iff Sample.rendersInjectively_text hvalues hfilters hstored).2 ⟨?_, ?_⟩
  · exact ⟨_, Sample.isPartition_text "a", List.forall_mem_singleton.2 (by decide)⟩
  · intro partition hpartition hlast
    refine hlast.allTrue hpartition hfilters ?_
    rw [List.forall_mem_singleton]
    show ∀ c ∈ [Sample.equalsText "a", Sample.equalsText "b"], _
    rw [List.forall_mem_cons, List.forall_mem_singleton]
    exact ⟨List.nodup_singleton _, List.nodup_singleton _⟩

end DuckPaimon.Scan
