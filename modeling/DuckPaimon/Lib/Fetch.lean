/-
Best-effort fetching: what is fetched from a store is a part of what is stored that holds all that is
needed, and maybe more. Whoever filters it for what is needed gets what filtering the store gives,
however many such steps lie in between.
-/
import Mathlib.Data.List.Perm.Subperm

section

variable {α β : Type} {needed needed' : α → Bool} {stored fetched : List α}

/-- A fetched part of what is stored, each item as often as it is stored at most, and as often if it is
needed. -/
structure Fetches (needed : α → Bool) (stored fetched : List α) : Prop where
  sub : fetched.Subperm stored
  needed : (stored.filter needed).Subperm fetched

namespace Fetches

theorem refl (needed : α → Bool) (stored : List α) : Fetches needed stored stored :=
  ⟨List.Subperm.refl stored, List.filter_sublist.subperm⟩

theorem perm {fetched' : List α} (h : Fetches needed stored fetched) (hperm : fetched'.Perm fetched) :
    Fetches needed stored fetched' :=
  ⟨hperm.subperm.trans h.sub, h.needed.trans hperm.symm.subperm⟩

/-- Less may be needed than was fetched for. -/
theorem mono (h : Fetches needed' stored fetched) (himp : ∀ a ∈ stored, needed a = true → needed' a = true) :
    Fetches needed stored fetched := by
  refine ⟨h.sub, List.Subperm.trans (List.Sublist.subperm ?_) h.needed⟩
  have hboth : stored.filter needed = (stored.filter needed').filter needed := by
    rw [List.filter_filter]
    refine List.filter_congr fun a hmem => ?_
    rw [Bool.eq_iff_iff, Bool.and_eq_true]
    exact ⟨fun ha => ⟨ha, himp a hmem ha⟩, And.left⟩
  rw [hboth]
  exact List.filter_sublist

/-- Fetching from what was fetched. -/
theorem trans {between : List α} (h : Fetches needed stored between) (h' : Fetches needed between fetched) :
    Fetches needed stored fetched := by
  refine ⟨h'.sub.trans h.sub, List.Subperm.trans ?_ h'.needed⟩
  have hfiltered := h.needed.filter needed
  rwa [List.filter_filter, List.filter_congr fun a _ => Bool.and_self (needed a)] at hfiltered

theorem append {stored' fetched' : List α} (h : Fetches needed stored fetched) (h' : Fetches needed stored' fetched') :
    Fetches needed (stored ++ stored') (fetched ++ fetched') := by
  refine ⟨h.sub.append h'.sub, ?_⟩
  rw [List.filter_append]
  exact h.needed.append h'.needed

/-- Fetching part by part. -/
theorem flatMap {parts : List β} {storedIn fetchedIn : β → List α}
    (h : ∀ part ∈ parts, Fetches needed (storedIn part) (fetchedIn part)) :
    Fetches needed (parts.flatMap storedIn) (parts.flatMap fetchedIn) := by
  induction parts with
  | nil => exact refl needed []
  | cons part parts ih =>
    rw [List.forall_mem_cons] at h
    rw [List.flatMap_cons, List.flatMap_cons]
    exact h.1.append (ih h.2)

/-- Filtering what was fetched is filtering what is stored. -/
theorem filter_perm (h : Fetches needed stored fetched) : (fetched.filter needed).Perm (stored.filter needed) := by
  apply List.Subperm.antisymm
  · exact h.sub.filter needed
  · have hfiltered := h.needed.filter needed
    rwa [List.filter_filter, List.filter_congr fun a _ => Bool.and_self (needed a)] at hfiltered

end Fetches

end
