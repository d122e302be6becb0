/-
A finite map as the list of its entries in strictly increasing key order, with the order carried
as a field: two maps are equal exactly when every key finds the same value.
-/
import Mathlib.Data.List.Basic
import Mathlib.Data.Set.Insert
import Mathlib.Order.Basic

/-- A map with its entries in strictly increasing key order. -/
structure SortedMap (κ ν : Type) [LinearOrder κ] where
  entries : List (κ × ν)
  sorted : entries.Pairwise fun a b => a.1 < b.1
  deriving DecidableEq

namespace SortedMap

variable {κ ν : Type} [LinearOrder κ]

/-- The entry list after the value at `k` became `f` of the value found there. -/
def upsertList (k : κ) (f : Option ν → ν) : List (κ × ν) → List (κ × ν)
  | [] => [(k, f none)]
  | (j, v) :: rest =>
    if k < j then (k, f none) :: (j, v) :: rest
    else if k = j then (j, f (some v)) :: rest
    else (j, v) :: upsertList k f rest

/-- The value of the first entry with key `k`. -/
def findList (k : κ) : List (κ × ν) → Option ν
  | [] => none
  | (j, v) :: rest => if k = j then some v else findList k rest

theorem mem_upsertList {k : κ} {f : Option ν → ν} {e : κ × ν} :
    ∀ {l : List (κ × ν)}, e ∈ upsertList k f l → e.1 = k ∨ e ∈ l
  | [], h => by
    simp only [upsertList, List.mem_singleton] at h
    exact .inl (by rw [h])
  | (j, v) :: rest, h => by
    unfold upsertList at h
    split at h
    · rcases List.mem_cons.1 h with rfl | h
      · exact .inl rfl
      · exact .inr h
    · split at h
      · rename_i hkj
        rcases List.mem_cons.1 h with rfl | h
        · exact .inl hkj.symm
        · exact .inr (List.mem_cons_of_mem _ h)
      · rcases List.mem_cons.1 h with rfl | h
        · exact .inr (List.mem_cons_self ..)
        · exact (mem_upsertList h).imp id (List.mem_cons_of_mem _)

theorem upsertList_sorted (k : κ) (f : Option ν → ν) :
    ∀ {l : List (κ × ν)}, (l.Pairwise fun a b => a.1 < b.1) →
      (upsertList k f l).Pairwise fun a b => a.1 < b.1
  | [], _ => List.pairwise_singleton _ _
  | (j, v) :: rest, h => by
    rw [List.pairwise_cons] at h
    unfold upsertList
    split
    · rename_i hlt
      refine List.pairwise_cons.2 ⟨fun e he => ?_, List.pairwise_cons.2 h⟩
      rcases List.mem_cons.1 he with rfl | he
      · exact hlt
      · exact hlt.trans (h.1 e he)
    · split
      · exact List.pairwise_cons.2 h
      · rename_i hlt hne
        refine List.pairwise_cons.2 ⟨fun e he => ?_, upsertList_sorted k f h.2⟩
        rcases mem_upsertList he with hk | he
        · rw [hk]; exact lt_of_le_of_ne (not_lt.1 hlt) (Ne.symm hne)
        · exact h.1 e he

theorem findList_upsertList (k j : κ) (f : Option ν → ν) :
    ∀ {l : List (κ × ν)}, (l.Pairwise fun a b => a.1 < b.1) →
      findList j (upsertList k f l) = if j = k then some (f (findList k l)) else findList j l
  | [], _ => by simp [upsertList, findList]
  | (i, v) :: rest, h => by
    rw [List.pairwise_cons] at h
    unfold upsertList
    split
    · rename_i hlt
      have hnot : findList k ((i, v) :: rest) = none := findList_none fun e he => by
        rcases List.mem_cons.1 he with rfl | he
        · exact hlt.ne'
        · exact (hlt.trans (h.1 e he)).ne'
      rw [hnot]; rfl
    · split
      · rename_i hki
        subst hki
        simp only [findList, if_true]
        split <;> rfl
      · rename_i hne
        simp only [findList, findList_upsertList k j f h.2, if_neg hne]
        split
        · rename_i hji
          rw [if_neg (by rintro rfl; exact hne hji)]
        · rfl
where
  findList_none {k : κ} : ∀ {l : List (κ × ν)}, (∀ e ∈ l, e.1 ≠ k) → findList k l = none
    | [], _ => rfl
    | (i, v) :: rest, h => by
      rw [findList, if_neg fun e => h _ (List.mem_cons_self ..) e.symm]
      exact findList_none fun e he => h e (List.mem_cons_of_mem _ he)

theorem findList_eq_some {k : κ} {v : ν} :
    ∀ {l : List (κ × ν)}, (l.Pairwise fun a b => a.1 < b.1) → (findList k l = some v ↔ (k, v) ∈ l)
  | [], _ => by simp [findList]
  | (j, w) :: rest, h => by
    rw [List.pairwise_cons] at h
    rw [findList, List.mem_cons]
    split
    · rename_i hkj
      subst hkj
      constructor
      · rintro ⟨⟩; exact .inl rfl
      · rintro (hv | hm)
        · rw [(Prod.mk.inj hv).2]
        · exact absurd (h.1 _ hm) (lt_irrefl _)
    · rename_i hne
      rw [findList_eq_some h.2]
      exact ⟨.inr, fun hm => hm.resolve_left fun e => hne (congrArg Prod.fst e)⟩

/-! ## Maps -/

/-- The map without entries. -/
def empty : SortedMap κ ν := ⟨[], List.Pairwise.nil⟩

/-- The value at `k`, if any. -/
def find? (m : SortedMap κ ν) (k : κ) : Option ν := findList k m.entries

/-- Replaces the value found at `k` by `f` of it. -/
def upsert (m : SortedMap κ ν) (k : κ) (f : Option ν → ν) : SortedMap κ ν :=
  ⟨upsertList k f m.entries, upsertList_sorted k f m.sorted⟩

/-- Sets the value at `k`, replacing one that is there. -/
def insert (m : SortedMap κ ν) (k : κ) (v : ν) : SortedMap κ ν := m.upsert k fun _ => v

/-- Sets the value at `k` unless one is there. -/
def emplace (m : SortedMap κ ν) (k : κ) (v : ν) : SortedMap κ ν := m.upsert k fun o => o.getD v

theorem eq_empty {m : SortedMap κ ν} (h : m.entries = []) : m = empty := by
  obtain ⟨entries, hsorted⟩ := m
  cases h
  rfl

@[simp] theorem find?_empty (k : κ) : (empty : SortedMap κ ν).find? k = none := rfl

theorem find?_upsert (m : SortedMap κ ν) (k j : κ) (f : Option ν → ν) :
    (m.upsert k f).find? j = if j = k then some (f (m.find? k)) else m.find? j :=
  findList_upsertList k j f m.sorted

theorem find?_insert (m : SortedMap κ ν) (k j : κ) (v : ν) :
    (m.insert k v).find? j = if j = k then some v else m.find? j := find?_upsert m k j _

theorem find?_eq_some (m : SortedMap κ ν) (k : κ) (v : ν) : m.find? k = some v ↔ (k, v) ∈ m.entries :=
  findList_eq_some m.sorted

/-- Entries with distinct keys are put over those that are there. -/
theorem find?_foldl_insert_iff {entries : List (κ × ν)} (hnodup : (entries.map Prod.fst).Nodup)
    (m : SortedMap κ ν) (k : κ) (v : ν) :
    (entries.foldl (fun m e => m.insert e.1 e.2) m).find? k = some v ↔
      (k, v) ∈ entries ∨ (∀ e ∈ entries, e.1 ≠ k) ∧ m.find? k = some v := by
  induction entries generalizing m with
  | nil => simp
  | cons e entries ih =>
    rw [List.map_cons, List.nodup_cons] at hnodup
    rw [List.foldl_cons, ih hnodup.2, find?_insert, List.mem_cons, List.forall_mem_cons]
    by_cases hk : k = e.1
    · subst hk
      have hne : ∀ e' ∈ entries, e'.1 ≠ e.1 := fun e' he' heq => hnodup.1 (heq ▸ List.mem_map_of_mem he')
      have hnot : (e.1, v) ∉ entries := fun hmem => hne _ hmem rfl
      rw [if_pos rfl, Option.some_inj]
      constructor
      · rintro (hmem | ⟨-, rfl⟩)
        · exact absurd hmem hnot
        · exact .inl (.inl rfl)
      · rintro ((heq | hmem) | ⟨⟨hself, -⟩, -⟩)
        · exact .inr ⟨hne, (congrArg Prod.snd heq).symm⟩
        · exact absurd hmem hnot
        · exact absurd rfl hself
    · have hself : (k, v) ≠ e := fun heq => hk (congrArg Prod.fst heq)
      rw [if_neg hk]
      simp only [hself, false_or, ne_eq, Ne.symm hk, not_false_eq_true, true_and]

/-- The keys of a map are distinct. -/
theorem nodup_keys (m : SortedMap κ ν) : (m.entries.map Prod.fst).Nodup :=
  List.pairwise_map.2 (m.sorted.imp fun h => h.ne)

/-- The entries of a map, put over those of another. -/
theorem find?_overlay (m incoming : SortedMap κ ν) (k : κ) :
    (incoming.entries.foldl (fun m e => m.insert e.1 e.2) m).find? k = (incoming.find? k).or (m.find? k) := by
  refine Option.ext fun v => ?_
  rw [find?_foldl_insert_iff incoming.nodup_keys, Option.or_eq_some_iff, find?_eq_some incoming]
  have hnone : incoming.find? k = none ↔ ∀ e ∈ incoming.entries, e.1 ≠ k := by
    rw [Option.eq_none_iff_forall_ne_some]
    constructor
    · rintro h e he rfl
      exact h e.2 ((find?_eq_some _ _ _).2 he)
    · intro h v hv
      exact h _ ((find?_eq_some _ _ _).1 hv) rfl
  rw [hnone]

/-- Removes the value at `k`. -/
def erase (m : SortedMap κ ν) (k : κ) : SortedMap κ ν :=
  ⟨m.entries.filter fun e => e.1 ≠ k, m.sorted.sublist List.filter_sublist⟩

theorem find?_erase (m : SortedMap κ ν) (k j : κ) : (m.erase k).find? j = if j = k then none else m.find? j := by
  refine Option.ext fun v => ?_
  rw [find?_eq_some]
  unfold erase
  rw [List.mem_filter, decide_eq_true_eq]
  split
  · rename_i h
    exact ⟨fun hm => absurd h hm.2, nofun⟩
  · rename_i h
    rw [find?_eq_some]
    exact ⟨fun hm => hm.1, fun hm => ⟨hm, h⟩⟩

/-- The keys that have a value. -/
def keySet (m : SortedMap κ ν) : Set κ := {k | m.find? k ≠ none}

theorem mem_keySet {m : SortedMap κ ν} {k : κ} : k ∈ m.keySet ↔ ∃ v, m.find? k = some v :=
  Option.ne_none_iff_exists'

theorem not_mem_keySet {m : SortedMap κ ν} {k : κ} : k ∉ m.keySet ↔ m.find? k = none := by
  rw [mem_keySet, Option.eq_none_iff_forall_ne_some]
  exact not_exists

theorem keySet_insert (m : SortedMap κ ν) (k : κ) (v : ν) : (m.insert k v).keySet = Insert.insert k m.keySet := by
  ext j
  show (m.insert k v).find? j ≠ none ↔ j = k ∨ m.find? j ≠ none
  rw [find?_insert]
  by_cases h : j = k <;> simp [h]

theorem keySet_erase (m : SortedMap κ ν) (k : κ) : (m.erase k).keySet = m.keySet \ {k} := by
  ext j
  show (m.erase k).find? j ≠ none ↔ m.find? j ≠ none ∧ j ≠ k
  rw [find?_erase]
  by_cases h : j = k <;> simp [h]

end SortedMap
