/-
Maps that hold a part of another map's entries, and the maps that merge one map of each of several
lists: a map contains some merged map exactly if it contains some map of every list.
-/
import DuckPaimon.Lib.SortedMap

namespace SortedMap

variable {κ ν : Type} [LinearOrder κ]

/-- Every entry of `m` is an entry of `s`. -/
def Sub (m s : SortedMap κ ν) : Prop := ∀ k v, m.find? k = some v → s.find? k = some v

theorem empty_sub (s : SortedMap κ ν) : Sub empty s := by
  intro k v h
  simp at h

theorem insert_sub {m s : SortedMap κ ν} {k : κ} {v : ν} (h : Sub m s) (hk : s.find? k = some v) :
    Sub (m.insert k v) s := by
  intro k' v' hfind
  rw [find?_insert] at hfind
  split at hfind
  · rename_i heq
    rw [heq, hk, hfind]
  · exact h k' v' hfind

/-- Inserting under a new key adds an entry. -/
theorem insert_sub_iff {m s : SortedMap κ ν} {k : κ} {v : ν} (hnew : m.find? k = none) :
    Sub (m.insert k v) s ↔ Sub m s ∧ s.find? k = some v := by
  constructor
  · intro h
    refine ⟨fun k' v' hfind => h k' v' ?_, h k v ?_⟩
    · rw [find?_insert, if_neg]
      · exact hfind
      · rintro rfl
        rw [hnew] at hfind
        cases hfind
    · rw [find?_insert, if_pos rfl]
  · rintro ⟨h, hk⟩
    exact insert_sub h hk

theorem sub_iff_entries {m s : SortedMap κ ν} : Sub m s ↔ ∀ e ∈ m.entries, s.find? e.1 = some e.2 := by
  constructor
  · intro h e he
    exact h e.1 e.2 ((find?_eq_some m e.1 e.2).2 he)
  · intro h k v hfind
    exact h (k, v) ((find?_eq_some m k v).1 hfind)

/-! ## Merging -/

variable [DecidableEq ν]

/-- Adds entries under new keys; `none` if an entry contradicts one that is there. -/
def mergeEntries (m : SortedMap κ ν) : List (κ × ν) → Option (SortedMap κ ν)
  | [] => some m
  | (k, v) :: entries =>
    match m.find? k with
    | some v' => if v' ≠ v then none else mergeEntries m entries
    | none => mergeEntries (m.insert k v) entries

/-- The entries of two maps, unless they contradict each other. -/
def merge (m incoming : SortedMap κ ν) : Option (SortedMap κ ν) := m.mergeEntries incoming.entries

theorem mergeEntries_entries {P : κ × ν → Prop} {entries : List (κ × ν)} {m merged : SortedMap κ ν}
    (hm : ∀ e ∈ m.entries, P e) (hentries : ∀ e ∈ entries, P e) (h : m.mergeEntries entries = some merged) :
    ∀ e ∈ merged.entries, P e := by
  induction entries generalizing m with
  | nil =>
    cases h
    exact hm
  | cons e entries ih =>
    rw [List.forall_mem_cons] at hentries
    unfold mergeEntries at h
    split at h
    · split at h
      · cases h
      · exact ih hm hentries.2 h
    · refine ih (fun e' he' => ?_) hentries.2 h
      have hfind := (find?_eq_some _ _ _).2 he'
      rw [find?_insert] at hfind
      split at hfind
      · rename_i hkey
        obtain rfl : e' = e := Prod.ext hkey (Option.some.inj hfind).symm
        exact hentries.1
      · exact hm e' ((find?_eq_some _ _ _).1 hfind)

/-- A map contains the merged map exactly if it contains both. -/
theorem mergeEntries_sub (s : SortedMap κ ν) (entries : List (κ × ν)) (m : SortedMap κ ν) :
    (∃ merged, m.mergeEntries entries = some merged ∧ Sub merged s) ↔
      Sub m s ∧ ∀ e ∈ entries, s.find? e.1 = some e.2 := by
  induction entries generalizing m with
  | nil => simp [mergeEntries]
  | cons e entries ih =>
    obtain ⟨k, v⟩ := e
    rw [mergeEntries, List.forall_mem_cons]
    cases hk : m.find? k with
    | none =>
      dsimp only
      rw [ih, insert_sub_iff hk, and_assoc]
    | some v' =>
      dsimp only
      by_cases hv : v' = v
      · subst hv
        rw [if_neg (by simp), ih]
        constructor
        · rintro ⟨hsub, hrest⟩
          exact ⟨hsub, hsub k v' hk, hrest⟩
        · rintro ⟨hsub, -, hrest⟩
          exact ⟨hsub, hrest⟩
      · rw [if_pos hv]
        constructor
        · rintro ⟨merged, hmerged, -⟩
          cases hmerged
        · rintro ⟨hsub, hs, -⟩
          -- the two entries under `k` would both be in `s`
          have hboth := (hsub k v' hk).symm.trans hs
          exact absurd (Option.some.inj hboth) hv

theorem merge_sub {m incoming s : SortedMap κ ν} :
    (∃ merged, m.merge incoming = some merged ∧ Sub merged s) ↔ Sub m s ∧ Sub incoming s := by
  rw [merge, mergeEntries_sub, ← sub_iff_entries]

/-! ## Alternatives -/

/-- Some map of the list is contained in `s`. -/
def AnySub (alternatives : List (SortedMap κ ν)) (s : SortedMap κ ν) : Prop := ∃ m ∈ alternatives, Sub m s

/-- Every map of one list merged with every map of another. -/
def mergePairs (existing incoming : List (SortedMap κ ν)) : List (SortedMap κ ν) :=
  existing.flatMap fun m => incoming.filterMap m.merge

theorem mergePairs_anySub {existing incoming : List (SortedMap κ ν)} {s : SortedMap κ ν} :
    AnySub (mergePairs existing incoming) s ↔ AnySub existing s ∧ AnySub incoming s := by
  constructor
  · rintro ⟨merged, hmem, hsub⟩
    obtain ⟨m, hm, hmem⟩ := List.mem_flatMap.1 hmem
    obtain ⟨i, hi, hmerge⟩ := List.mem_filterMap.1 hmem
    obtain ⟨hmsub, hisub⟩ := merge_sub.1 ⟨merged, hmerge, hsub⟩
    exact ⟨⟨m, hm, hmsub⟩, i, hi, hisub⟩
  · rintro ⟨⟨m, hm, hmsub⟩, i, hi, hisub⟩
    obtain ⟨merged, hmerge, hsub⟩ := merge_sub.2 ⟨hmsub, hisub⟩
    exact ⟨merged, List.mem_flatMap.2 ⟨m, hm, List.mem_filterMap.2 ⟨i, hi, hmerge⟩⟩, hsub⟩

/-- One map of each list merged, in every combination that is not contradictory. -/
def mergeAll (combined : List (SortedMap κ ν)) (lists : List (List (SortedMap κ ν))) : List (SortedMap κ ν) :=
  lists.foldl mergePairs combined

theorem mergeAll_anySub {lists : List (List (SortedMap κ ν))} {combined : List (SortedMap κ ν)} {s : SortedMap κ ν} :
    AnySub (mergeAll combined lists) s ↔ AnySub combined s ∧ ∀ l ∈ lists, AnySub l s := by
  induction lists generalizing combined with
  | nil => simp [mergeAll]
  | cons l lists ih =>
    show AnySub (mergeAll (mergePairs combined l) lists) s ↔ _
    rw [ih, mergePairs_anySub, List.forall_mem_cons, and_assoc]

/-- What holds of all entries holds of the merged ones. -/
theorem mergeAll_entries {P : κ × ν → Prop} {lists : List (List (SortedMap κ ν))} {combined : List (SortedMap κ ν)}
    (hcombined : ∀ m ∈ combined, ∀ e ∈ m.entries, P e) (hlists : ∀ l ∈ lists, ∀ m ∈ l, ∀ e ∈ m.entries, P e) :
    ∀ m ∈ mergeAll combined lists, ∀ e ∈ m.entries, P e := by
  induction lists generalizing combined with
  | nil => exact hcombined
  | cons l lists ih =>
    rw [List.forall_mem_cons] at hlists
    refine ih (fun merged hmem => ?_) hlists.2
    obtain ⟨m, hm, hmem⟩ := List.mem_flatMap.1 hmem
    obtain ⟨incoming, hincoming, hmerge⟩ := List.mem_filterMap.1 hmem
    exact mergeEntries_entries (hcombined m hm) (hlists.1 incoming hincoming) hmerge

end SortedMap
