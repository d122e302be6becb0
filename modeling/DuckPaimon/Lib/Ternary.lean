/-
Three-valued logic on `Option Bool` (`none` is unknown): conjunction and disjunction of a list of
truth values, negation, and when each of them is true or false.
-/
import Mathlib.Data.List.Basic

namespace Ternary

/-- Conjunction: false when some member is false, true when all are true, unknown otherwise. -/
def all (l : List (Option Bool)) : Option Bool :=
  if some false ∈ l then some false else if none ∈ l then none else some true

/-- Disjunction: true when some member is true, false when all are false, unknown otherwise. -/
def any (l : List (Option Bool)) : Option Bool :=
  if some true ∈ l then some true else if none ∈ l then none else some false

/-- Negation; the negation of unknown is unknown. -/
def not (a : Option Bool) : Option Bool := a.map (!·)

@[simp] theorem not_eq_some (a : Option Bool) (b : Bool) : not a = some b ↔ a = some (!b) := by
  rcases a with _ | a <;> cases b <;> simp [not]

@[simp] theorem not_not (a : Option Bool) : not (not a) = a := by
  rcases a with _ | a <;> simp [not]

theorem all_eq_false (l : List (Option Bool)) : all l = some false ↔ some false ∈ l := by
  unfold all
  constructor
  · intro h
    by_contra hn
    rw [if_neg hn] at h
    split at h <;> cases h
  · intro h; rw [if_pos h]

theorem all_eq_true (l : List (Option Bool)) : all l = some true ↔ ∀ a ∈ l, a = some true := by
  unfold all
  constructor
  · intro h a ha
    split at h
    · cases h
    · rename_i hf
      split at h
      · cases h
      · rename_i hn
        match a, ha with
        | none, ha => exact absurd ha hn
        | some false, ha => exact absurd ha hf
        | some true, _ => rfl
  · intro h
    have hf : some false ∉ l := fun hf => by simpa using h _ hf
    have hn : none ∉ l := fun hn => by simpa using h _ hn
    rw [if_neg hf, if_neg hn]

theorem any_eq_not_all (l : List (Option Bool)) : any l = not (all (l.map not)) := by
  have mem (a : Option Bool) : not a ∈ l.map not ↔ a ∈ l := by
    rw [List.mem_map]
    constructor
    · rintro ⟨b, hb, hab⟩
      have := congrArg not hab
      simp only [not_not] at this
      exact this ▸ hb
    · intro h; exact ⟨a, h, rfl⟩
  have hf : some false ∈ l.map not ↔ some true ∈ l := mem (some true)
  have hn : none ∈ l.map not ↔ none ∈ l := mem none
  unfold any all
  simp only [hf, hn]
  split
  · rfl
  · split <;> rfl

theorem any_eq_true (l : List (Option Bool)) : any l = some true ↔ some true ∈ l := by
  rw [any_eq_not_all, not_eq_some, Bool.not_true, all_eq_false, List.mem_map]
  constructor
  · rintro ⟨a, ha, h⟩
    rw [not_eq_some] at h
    exact h ▸ ha
  · intro h; exact ⟨_, h, rfl⟩

theorem any_eq_false (l : List (Option Bool)) : any l = some false ↔ ∀ a ∈ l, a = some false := by
  rw [any_eq_not_all, not_eq_some, Bool.not_false, all_eq_true, List.forall_mem_map]
  simp only [not_eq_some, Bool.not_true]

/-- A disjunction of known values is known. -/
theorem any_map_some (l : List Bool) : any (l.map some) = some (l.any id) := by
  cases h : l.any id
  · rw [any_eq_false]
    intro a ha
    obtain ⟨b, hb, rfl⟩ := List.mem_map.1 ha
    rw [List.any_eq_false] at h
    simpa using h b hb
  · rw [any_eq_true]
    simpa using h

/-- A disjunction of unknown values is unknown. -/
theorem any_eq_none {l : List (Option Bool)} (hl : l ≠ []) (h : ∀ a ∈ l, a = none) : any l = none := by
  obtain ⟨a, l, rfl⟩ := List.exists_cons_of_ne_nil hl
  have hnone : none ∈ a :: l := (h a (List.mem_cons_self ..)) ▸ List.mem_cons_self ..
  unfold any
  rw [if_neg (fun htrue => by cases h _ htrue), if_pos hnone]

end Ternary
