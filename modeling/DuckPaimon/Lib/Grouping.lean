/-
Grouping a list by a key into a sorted map: a group holds the elements of its key in their order,
and the groups together hold every element once.
-/
import DuckPaimon.Lib.SortedMap
import Mathlib.Data.List.Induction
import Mathlib.Data.List.Perm.Basic

namespace SortedMap

variable {κ ν α : Type} [LinearOrder κ]

/-! ## Updating a key twice -/

theorem upsertList_upsertList (k : κ) (f g : Option ν → ν) :
    ∀ l : List (κ × ν), upsertList k g (upsertList k f l) = upsertList k (fun o => g (some (f o))) l
  | [] => by simp [upsertList]
  | (j, v) :: rest => by
    by_cases hlt : k < j
    · simp [upsertList, hlt]
    · by_cases hkj : k = j
      · subst hkj
        simp [upsertList]
      · simp [upsertList, hlt, hkj, upsertList_upsertList k f g rest]

theorem upsert_upsert (m : SortedMap κ ν) (k : κ) (f g : Option ν → ν) :
    (m.upsert k f).upsert k g = m.upsert k fun o => g (some (f o)) := by
  unfold upsert
  congr 1
  exact upsertList_upsertList k f g m.entries

/-! ## Groups -/

/-- Adds an element behind the group of a key. -/
def push (m : SortedMap κ (List α)) (k : κ) (a : α) : SortedMap κ (List α) :=
  m.upsert k fun group => group.getD [] ++ [a]

/-- The groups of a list. -/
def groups (key : α → κ) (l : List α) : SortedMap κ (List α) :=
  l.foldl (fun m a => m.push (key a) a) .empty

variable (key : α → κ)

theorem groups_append_singleton (l : List α) (a : α) : groups key (l ++ [a]) = (groups key l).push (key a) a := by
  rw [groups, List.foldl_append]
  rfl

/-- The group of a key holds the elements with that key, in their order. -/
theorem getD_find?_groups (l : List α) (k : κ) :
    ((groups key l).find? k).getD [] = l.filter fun a => key a = k := by
  induction l using List.reverseRecOn with
  | nil => rfl
  | append_singleton l a ih =>
    rw [groups_append_singleton, push, find?_upsert, List.filter_append]
    by_cases hk : k = key a
    · subst hk
      rw [if_pos rfl, Option.getD_some, ih]
      simp
    · rw [if_neg hk, ih]
      simp [Ne.symm hk]

/-- No group is empty. -/
theorem find?_groups_ne_nil (l : List α) {k : κ} {group : List α} (h : (groups key l).find? k = some group) :
    group ≠ [] := by
  induction l using List.reverseRecOn generalizing group with
  | nil => cases h
  | append_singleton l a ih =>
    rw [groups_append_singleton, push, find?_upsert] at h
    split at h
    · cases h
      exact List.append_ne_nil_of_right_ne_nil _ (List.cons_ne_nil _ _)
    · exact ih h

/-- A group is what the list holds of its key. -/
theorem mem_groups {l : List α} {k : κ} {group : List α} (h : (k, group) ∈ (groups key l).entries) :
    group ≠ [] ∧ group.Sublist l ∧ ∀ a, a ∈ group ↔ a ∈ l ∧ key a = k := by
  rw [← find?_eq_some] at h
  have hgroup := getD_find?_groups key l k
  rw [h, Option.getD_some] at hgroup
  refine ⟨find?_groups_ne_nil key l h, ?_, fun a => ?_⟩
  · rw [hgroup]
    exact List.filter_sublist
  · rw [hgroup, List.mem_filter, decide_eq_true_eq]

theorem flatMap_upsertList_perm (k : κ) (a : α) :
    ∀ l : List (κ × List α), ((upsertList k (fun group => group.getD [] ++ [a]) l).flatMap Prod.snd).Perm
      (a :: l.flatMap Prod.snd)
  | [] => by simp [upsertList]
  | (j, group) :: rest => by
    unfold upsertList
    split
    · simp
    · split
      · simp only [List.flatMap_cons, Option.getD_some, List.append_assoc]
        exact List.perm_middle
      · simp only [List.flatMap_cons]
        exact ((flatMap_upsertList_perm k a rest).append_left group).trans List.perm_middle

/-- The groups hold every element of the list as often as the list does. -/
theorem groups_perm (l : List α) : ((groups key l).entries.flatMap Prod.snd).Perm l := by
  induction l using List.reverseRecOn with
  | nil => exact .nil
  | append_singleton l a ih =>
    rw [groups_append_singleton]
    refine (flatMap_upsertList_perm (key a) a _).trans ?_
    exact (ih.cons a).trans (List.perm_append_singleton a l).symm

/-! ## Maps of lists of entries -/

/-- Inserting entries with distinct keys gives the map of these entries. -/
theorem find?_foldl_insert {k : κ} {v : ν} {l : List (κ × ν)} (h : (l.map Prod.fst).Nodup) :
    (l.foldl (fun m entry => m.insert entry.1 entry.2) empty).find? k = some v ↔ (k, v) ∈ l := by
  rw [find?_foldl_insert_iff h, find?_empty]
  simp

/-- A key whose entries all have one value is found with that value. -/
theorem find?_foldl_insert_of_eq {k : κ} {v : ν} (entries : List (κ × ν)) (m : SortedMap κ ν)
    (hall : ∀ e ∈ entries, e.1 = k → e.2 = v) (hsome : m.find? k = some v ∨ ∃ e ∈ entries, e.1 = k) :
    (entries.foldl (fun m e => m.insert e.1 e.2) m).find? k = some v := by
  induction entries generalizing m with
  | nil => simpa using hsome
  | cons e entries ih =>
    refine ih _ (fun e' he' => hall e' (.tail _ he')) ?_
    rw [find?_insert]
    by_cases hname : e.1 = k
    · rw [if_pos hname.symm, hall e (.head _) hname]
      exact .inl rfl
    · rw [if_neg (Ne.symm hname)]
      rcases hsome with hsome | ⟨e', he', heq⟩
      · exact .inl hsome
      · rcases List.mem_cons.1 he' with rfl | he'
        · exact absurd heq hname
        · exact .inr ⟨e', he', heq⟩

end SortedMap
