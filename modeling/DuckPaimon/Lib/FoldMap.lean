/-
A map that tells its keys apart only through a function on them, as a hash map with a
case-insensitive comparison does: an entry remembers the key it was put under, and two entries never
have keys the function identifies.

`keySet` is the set of remembered keys; its lemmas say what the map still knows of a set of keys that
the function may not tell apart.
-/
import Mathlib.Data.List.Nodup
import Mathlib.Data.Set.Insert

/-- A map from keys that `fold` tells apart. -/
structure FoldMap {κ φ : Type} (fold : κ → φ) (ν : Type) where
  entries : List (κ × ν)
  distinct : entries.Pairwise fun a b => fold a.1 ≠ fold b.1

namespace FoldMap

variable {κ φ ν : Type} {fold : κ → φ}

/-- The map without entries. -/
def empty : FoldMap fold ν := ⟨[], List.Pairwise.nil⟩

/-- The keys, as they were put. -/
def keys (m : FoldMap fold ν) : List κ := m.entries.map Prod.fst

@[inherit_doc keys] def keySet (m : FoldMap fold ν) : Set κ := {k | k ∈ m.keys}

theorem mem_keySet {m : FoldMap fold ν} {k : κ} : k ∈ m.keySet ↔ ∃ v, (k, v) ∈ m.entries := by
  show k ∈ m.entries.map Prod.fst ↔ _
  simp

theorem keys_nodup (m : FoldMap fold ν) : m.keys.Nodup := by
  unfold keys List.Nodup
  rw [List.pairwise_map]
  exact m.distinct.imp fun hne heq => hne (congrArg fold heq)

/-- Entries whose keys are identified are the same. -/
theorem entry_unique (m : FoldMap fold ν) {a b : κ × ν} (ha : a ∈ m.entries) (hb : b ∈ m.entries)
    (h : fold a.1 = fold b.1) : a = b := by
  have hnodup : (m.entries.map fun e => fold e.1).Nodup := List.pairwise_map.2 m.distinct
  exact List.inj_on_of_nodup_map hnodup ha hb h

variable [DecidableEq φ]

/-! ## Operations -/

/-- The value at a key. -/
def find? (m : FoldMap fold ν) (k : κ) : Option ν :=
  (m.entries.find? fun e => fold e.1 = fold k).map Prod.snd

theorem find?_eq_some {m : FoldMap fold ν} {k : κ} {v : ν} :
    m.find? k = some v ↔ ∃ j, fold j = fold k ∧ (j, v) ∈ m.entries := by
  unfold find?
  rw [Option.map_eq_some_iff]
  constructor
  · rintro ⟨⟨j, w⟩, hfind, rfl⟩
    exact ⟨j, by simpa using List.find?_some hfind, List.mem_of_find?_eq_some hfind⟩
  · rintro ⟨j, hj, hmem⟩
    rcases hfind : m.entries.find? fun e => fold e.1 = fold k with _ | e
    · rw [List.find?_eq_none] at hfind
      exact absurd hj (by simpa using hfind _ hmem)
    · have hfold : fold e.1 = fold k := by simpa using List.find?_some hfind
      have he := m.entry_unique (List.mem_of_find?_eq_some hfind) hmem (hfold.trans hj.symm)
      exact ⟨e, hfind, congrArg Prod.snd he⟩

theorem find?_eq_none {m : FoldMap fold ν} {k : κ} : m.find? k = none ↔ ∀ j ∈ m.keySet, fold j ≠ fold k := by
  unfold find?
  rw [Option.map_eq_none_iff, List.find?_eq_none]
  constructor
  · intro h j hj
    obtain ⟨v, hv⟩ := mem_keySet.1 hj
    simpa using h _ hv
  · intro h e he
    simpa using h e.1 (mem_keySet.2 ⟨e.2, he⟩)

/-- Puts a value under a key that finds none; otherwise nothing changes. -/
def emplace (m : FoldMap fold ν) (k : κ) (v : ν) : FoldMap fold ν :=
  if h : m.find? k = none then
    ⟨m.entries ++ [(k, v)], by
      refine List.pairwise_append.2 ⟨m.distinct, List.pairwise_singleton _ _, fun a ha b hb => ?_⟩
      rw [List.mem_singleton.1 hb]
      exact find?_eq_none.1 h a.1 (mem_keySet.2 ⟨a.2, ha⟩)⟩
  else m

/-- Removes what the key finds. -/
def erase (m : FoldMap fold ν) (k : κ) : FoldMap fold ν :=
  ⟨m.entries.filter fun e => fold e.1 ≠ fold k, m.distinct.sublist List.filter_sublist⟩

/-- Changes the value a key finds. -/
def update (m : FoldMap fold ν) (k : κ) (f : ν → ν) : FoldMap fold ν :=
  ⟨m.entries.map fun e => if fold e.1 = fold k then (e.1, f e.2) else e, by
    rw [List.pairwise_map]
    refine m.distinct.imp fun {a b} hne => ?_
    split <;> split <;> exact hne⟩

theorem mem_emplace {m : FoldMap fold ν} {k : κ} {v : ν} {e : κ × ν} :
    e ∈ (m.emplace k v).entries ↔ e ∈ m.entries ∨ m.find? k = none ∧ e = (k, v) := by
  unfold emplace
  split
  · rename_i h
    simp [h]
  · rename_i h
    simp [h]

theorem mem_erase {m : FoldMap fold ν} {k : κ} {e : κ × ν} :
    e ∈ (m.erase k).entries ↔ e ∈ m.entries ∧ fold e.1 ≠ fold k := by
  unfold erase
  simp

theorem mem_update {m : FoldMap fold ν} {k : κ} {f : ν → ν} {e : κ × ν} (he : e ∈ (m.update k f).entries) :
    e ∈ m.entries ∧ fold e.1 ≠ fold k ∨ ∃ v, (e.1, v) ∈ m.entries ∧ fold e.1 = fold k ∧ e.2 = f v := by
  unfold update at he
  obtain ⟨d, hd, rfl⟩ := List.mem_map.1 he
  split
  · rename_i h
    exact .inr ⟨d.2, hd, h, rfl⟩
  · rename_i h
    exact .inl ⟨hd, h⟩

/-! ## The keys of a set the map knows -/

@[simp] theorem keySet_update (m : FoldMap fold ν) (k : κ) (f : ν → ν) : (m.update k f).keySet = m.keySet := by
  have hkeys : (m.update k f).keys = m.keys := by
    unfold keys update
    rw [List.map_map]
    refine List.map_congr_left fun e _ => ?_
    show (if fold e.1 = fold k then (e.1, f e.2) else e).1 = e.1
    split <;> rfl
  unfold keySet
  rw [hkeys]

theorem keySet_erase (m : FoldMap fold ν) (k : κ) : (m.erase k).keySet = {j ∈ m.keySet | fold j ≠ fold k} := by
  ext j
  simp only [mem_keySet, mem_erase, Set.mem_ofPred_eq, exists_and_right]

theorem keySet_emplace_subset (m : FoldMap fold ν) (k : κ) (v : ν) : (m.emplace k v).keySet ⊆ insert k m.keySet := by
  intro j hj
  obtain ⟨w, hw⟩ := mem_keySet.1 hj
  rcases mem_emplace.1 hw with hold | ⟨-, hnew⟩
  · exact .inr (mem_keySet.2 ⟨w, hold⟩)
  · exact .inl (Prod.mk.inj hnew).1

theorem subset_keySet_emplace (m : FoldMap fold ν) (k : κ) (v : ν) : m.keySet ⊆ (m.emplace k v).keySet := by
  intro j hj
  obtain ⟨w, hw⟩ := mem_keySet.1 hj
  exact mem_keySet.2 ⟨w, mem_emplace.2 (.inl hw)⟩

/-- A key that `fold` tells apart from all others there is among the keys once it was put. -/
theorem mem_keySet_emplace {m : FoldMap fold ν} {k : κ} (v : ν) (h : ∀ j ∈ m.keySet, fold j = fold k → j = k) :
    k ∈ (m.emplace k v).keySet := by
  rcases hfind : m.find? k with _ | w
  · exact mem_keySet.2 ⟨v, mem_emplace.2 (.inr ⟨hfind, rfl⟩)⟩
  · obtain ⟨j, hj, hmem⟩ := find?_eq_some.1 hfind
    have hkey : j ∈ m.keySet := mem_keySet.2 ⟨w, hmem⟩
    exact subset_keySet_emplace m k v (h j hkey hj ▸ hkey)

/-- Erasing a key leaves no trace of it. -/
theorem keySet_erase_subset {m : FoldMap fold ν} {s : Set κ} (k : κ) (h : m.keySet ⊆ s) :
    (m.erase k).keySet ⊆ s \ {k} := by
  rw [keySet_erase]
  rintro j ⟨hj, hne⟩
  exact ⟨h hj, fun hjk => hne (congrArg fold (Set.mem_singleton_iff.1 hjk))⟩

/-- It costs no other key, where `fold` tells the key apart. -/
theorem keySet_erase_eq {m : FoldMap fold ν} {s : Set κ} {k : κ} (h : m.keySet = s)
    (hfold : ∀ j ∈ s, fold j = fold k → j = k) : (m.erase k).keySet = s \ {k} := by
  refine (keySet_erase_subset k h.subset).antisymm ?_
  rintro j ⟨hj, hne⟩
  rw [keySet_erase]
  exact ⟨h ▸ hj, fun heq => hne (hfold j hj heq)⟩

theorem keySet_emplace_eq {m : FoldMap fold ν} {s : Set κ} {k : κ} (v : ν) (h : m.keySet = s)
    (hfold : ∀ j ∈ s, fold j = fold k → j = k) : (m.emplace k v).keySet = insert k s := by
  refine (h ▸ keySet_emplace_subset m k v).antisymm (Set.insert_subset ?_ ?_)
  · exact mem_keySet_emplace v (h ▸ hfold)
  · exact h ▸ subset_keySet_emplace m k v

/-! ## Putting a list of keys -/

theorem mem_foldl_emplace (f : κ → ν) {ks : List κ} {m : FoldMap fold ν} {e : κ × ν}
    (he : e ∈ (ks.foldl (fun m k => m.emplace k (f k)) m).entries) : e ∈ m.entries ∨ ∃ k ∈ ks, e = (k, f k) := by
  induction ks generalizing m with
  | nil => exact .inl he
  | cons k ks ih =>
    rcases ih he with hold | ⟨j, hj, rfl⟩
    · rcases mem_emplace.1 hold with hm | ⟨-, rfl⟩
      · exact .inl hm
      · exact .inr ⟨k, List.mem_cons_self, rfl⟩
    · exact .inr ⟨j, List.mem_cons_of_mem _ hj, rfl⟩

/-- Putting all keys of a set in which nothing is identified gives the set. -/
theorem keySet_foldl_emplace (f : κ → ν) {s : Set κ} (hfold : Set.InjOn fold s) {ks : List κ} {m : FoldMap fold ν}
    (hks : ∀ k ∈ ks, k ∈ s) (hm : m.keySet ⊆ s) :
    (ks.foldl (fun m k => m.emplace k (f k)) m).keySet = m.keySet ∪ {k | k ∈ ks} := by
  induction ks generalizing m with
  | nil => simp
  | cons k ks ih =>
    obtain ⟨hk, hks⟩ := List.forall_mem_cons.1 hks
    have hput : (m.emplace k (f k)).keySet = insert k m.keySet :=
      keySet_emplace_eq _ rfl fun j hj hjk => hfold (hm hj) hk hjk
    have hstart : (m.emplace k (f k)).keySet ⊆ s := hput ▸ Set.insert_subset hk hm
    rw [List.foldl_cons, ih hks hstart, hput]
    ext j
    simp only [Set.mem_union, Set.mem_insert_iff, Set.mem_ofPred_eq, List.mem_cons]
    tauto

end FoldMap
