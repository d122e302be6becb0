/-
Splitting a text at a delimiter the way a `getline` loop does: the pieces between the delimiters,
without an empty piece behind a trailing delimiter. A piece free of the delimiter that stands in
front of one is split off as it is.
-/
import Mathlib.Data.List.Basic

namespace Getline

variable {α : Type} [DecidableEq α]

/-- The pieces a `getline` loop reads. -/
def pieces (d : α) : List α → List (List α)
  | [] => []
  | c :: cs =>
    if c = d then [] :: pieces d cs
    else
      match pieces d cs with
      | [] => [[c]]
      | p :: ps => (c :: p) :: ps

theorem pieces_append {d : α} {p : List α} (hp : d ∉ p) (rest : List α) :
    pieces d (p ++ d :: rest) = p :: pieces d rest := by
  induction p with
  | nil => rw [List.nil_append, pieces, if_pos rfl]
  | cons c p ih =>
    rw [List.mem_cons, not_or] at hp
    rw [List.cons_append, pieces, if_neg (Ne.symm hp.1), ih hp.2]

/-- A piece that is not the last stands in front of a delimiter. -/
theorem pieces_eq_cons {d : α} {l p : List α} {ps : List (List α)} (h : pieces d l = p :: ps) (hps : ps ≠ []) :
    ∃ rest, l = p ++ d :: rest ∧ pieces d rest = ps := by
  induction l generalizing p with
  | nil => cases h
  | cons c cs ih =>
    rw [pieces] at h
    split at h
    · rename_i hc
      obtain ⟨rfl, rfl⟩ := List.cons.inj h
      exact ⟨cs, by rw [hc, List.nil_append], rfl⟩
    · split at h
      · exact absurd (List.cons.inj h).2.symm hps
      · rename_i q qs hq
        obtain ⟨rfl, rfl⟩ := List.cons.inj h
        obtain ⟨rest, rfl, hrest⟩ := ih hq
        exact ⟨rest, rfl, hrest⟩

/-- A piece is free of the delimiter. -/
theorem not_mem_of_mem_pieces {d : α} {l p : List α} (h : p ∈ pieces d l) : d ∉ p := by
  induction l generalizing p with
  | nil => cases h
  | cons c cs ih =>
    rw [pieces] at h
    split at h
    · rcases List.mem_cons.1 h with rfl | h
      · exact List.not_mem_nil
      · exact ih h
    · rename_i hc
      split at h
      · rw [List.mem_singleton.1 h, List.mem_singleton]
        exact Ne.symm hc
      · rename_i q qs hq
        rcases List.mem_cons.1 h with rfl | h
        · rw [List.mem_cons, not_or]
          exact ⟨Ne.symm hc, ih (hq ▸ List.mem_cons_self ..)⟩
        · exact ih (hq ▸ List.mem_cons_of_mem _ h)

theorem pieces_eq_nil {d : α} {l : List α} : pieces d l = [] ↔ l = [] := by
  cases l with
  | nil => exact ⟨fun _ => rfl, fun _ => rfl⟩
  | cons c cs =>
    rw [pieces]
    split
    · exact ⟨nofun, nofun⟩
    · split <;> exact ⟨nofun, nofun⟩

/-- A single piece is the whole text, or all of it but the delimiter at its end. -/
theorem pieces_eq_singleton {d : α} {l p : List α} :
    pieces d l = [p] ↔ d ∉ p ∧ (l = p ∧ p ≠ [] ∨ l = p ++ [d]) := by
  constructor
  · intro h
    refine ⟨not_mem_of_mem_pieces (h ▸ List.mem_singleton.2 rfl), ?_⟩
    induction l generalizing p with
    | nil => cases h
    | cons c cs ih =>
      rw [pieces] at h
      split at h
      · rename_i hc
        obtain ⟨rfl, hcs⟩ := List.cons.inj h
        rw [pieces_eq_nil.1 hcs, hc]
        exact .inr rfl
      · split at h
        · rename_i hcs
          rw [pieces_eq_nil.1 hcs]
          exact .inl (List.cons.inj h |>.1 ▸ ⟨rfl, List.cons_ne_nil _ _⟩)
        · rename_i q qs hq
          obtain ⟨rfl, rfl⟩ := List.cons.inj h
          rcases ih hq with ⟨rfl, -⟩ | rfl
          · exact .inl ⟨rfl, List.cons_ne_nil _ _⟩
          · exact .inr rfl
  · rintro ⟨hp, ⟨rfl, hne⟩ | rfl⟩
    · induction l with
      | nil => exact absurd rfl hne
      | cons c cs ih =>
        rw [List.mem_cons, not_or] at hp
        rw [pieces, if_neg (Ne.symm hp.1)]
        cases cs with
        | nil => rfl
        | cons c' cs => rw [ih hp.2 (List.cons_ne_nil _ _)]
    · rw [pieces_append hp, pieces]

omit [DecidableEq α] in
/-- What stands before and behind the last delimiter. -/
theorem append_cons_inj {d : α} {l l' p p' : List α} (hp : d ∉ p) (hp' : d ∉ p') (h : l ++ d :: p = l' ++ d :: p') :
    l = l' ∧ p = p' := by
  have hcancel {l l' p p' : List α} (hp : d ∉ p) {m : List α} (hl : l' = l ++ m) (htail : d :: p = m ++ d :: p') :
      m = [] := by
    cases m with
    | nil => rfl
    | cons c m =>
      rw [List.cons_append] at htail
      have hmem : d ∈ p := by
        rw [(List.cons.inj htail).2]
        exact List.mem_append_right _ (List.mem_cons_self ..)
      exact absurd hmem hp
  rcases List.append_eq_append_iff.1 h with ⟨m, hl, htail⟩ | ⟨m, hl, htail⟩
  · obtain rfl := hcancel hp hl htail
    rw [List.append_nil] at hl
    exact ⟨hl.symm, (List.cons.inj htail).2⟩
  · obtain rfl := hcancel hp' hl htail
    rw [List.append_nil] at hl
    exact ⟨hl, (List.cons.inj htail).2.symm⟩

end Getline
