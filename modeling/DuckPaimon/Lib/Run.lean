/-
Runs of a labelled transition relation: the labels of the steps taken so far, in order, and the
state they lead to; the induction rules for invariants of the state and of the history.
-/
import Mathlib.Data.List.Forall2

/-- `Run step s₀ h s`: the steps labelled `h` lead from `s₀` to `s`. -/
inductive Run {σ ι : Type} (step : σ → ι → σ → Prop) (s₀ : σ) : List ι → σ → Prop
  | nil : Run step s₀ [] s₀
  | snoc {h : List ι} {s s' : σ} {i : ι} : Run step s₀ h s → step s i s' → Run step s₀ (h ++ [i]) s'

namespace Run

variable {σ ι : Type} {step : σ → ι → σ → Prop} {s₀ s : σ} {h : List ι}

/-- What holds at the start and is kept by every step holds of the history and state of a run. -/
theorem invariant {I : List ι → σ → Prop} (run : Run step s₀ h s) (start : I [] s₀)
    (keep : ∀ {h s i s'}, I h s → step s i s' → I (h ++ [i]) s') : I h s := by
  induction run with
  | nil => exact start
  | snoc _ hs ih => exact keep ih hs

/-- Steps of one relation that are steps of another. -/
theorem mono {step' : σ → ι → σ → Prop} (run : Run step s₀ h s) (imp : ∀ s i s', step s i s' → step' s i s') :
    Run step' s₀ h s := by
  induction run with
  | nil => exact .nil
  | snoc _ hs ih => exact ih.snoc (imp _ _ _ hs)

theorem append {h' : List ι} {s' : σ} (run : Run step s₀ h s) (run' : Run step s h' s') :
    Run step s₀ (h ++ h') s' := by
  induction run' with
  | nil => rwa [List.append_nil]
  | snoc _ hs ih => rw [← List.append_assoc]; exact ih.snoc hs

/-- A run through a concatenation passes through a state between its parts. -/
theorem split : ∀ {h' : List ι}, Run step s₀ (h ++ h') s → ∃ m, Run step s₀ h m ∧ Run step m h' s := by
  intro h' run
  generalize hl : h ++ h' = l at run
  induction run generalizing h' with
  | nil =>
    obtain ⟨rfl, rfl⟩ := List.append_eq_nil_iff.1 hl
    exact ⟨s₀, .nil, .nil⟩
  | @snoc l' s s' i run hs ih =>
    rcases List.eq_nil_or_concat h' with rfl | ⟨h'', j, rfl⟩
    · rw [List.append_nil] at hl
      exact ⟨s', hl ▸ run.snoc hs, .nil⟩
    · rw [List.concat_eq_append, ← List.append_assoc] at hl
      obtain ⟨hl, hij⟩ := List.append_inj' hl rfl
      obtain ⟨m, h₁, h₂⟩ := ih hl
      cases hij
      exact ⟨m, h₁, by rw [List.concat_eq_append]; exact h₂.snoc hs⟩

theorem nil_inv (run : Run step s₀ h s) (hh : h = []) : s = s₀ := by
  cases run with
  | nil => rfl
  | snoc => simp at hh

theorem singleton_inv {i : ι} (run : Run step s₀ h s) (hh : h = [i]) : step s₀ i s := by
  cases run with
  | nil => simp at hh
  | @snoc l _ _ _ run hs =>
    obtain ⟨hl, hij⟩ := List.append_inj' (show l ++ [_] = [] ++ [i] from hh) rfl
    cases hij
    rwa [run.nil_inv hl] at hs

/-- The step a label in the history stands for. -/
theorem step_of_mem {i : ι} {l₁ l₂ : List ι} (run : Run step s₀ (l₁ ++ i :: l₂) s) :
    ∃ m m', Run step s₀ l₁ m ∧ step m i m' ∧ Run step m' l₂ s := by
  obtain ⟨m, h₁, h₂⟩ := run.split
  obtain ⟨m', hi, h₃⟩ := Run.split (h := [i]) h₂
  exact ⟨m, m', h₁, hi.singleton_inv rfl, h₃⟩

/-- A run whose steps are, under their labels, steps of another relation or leave its state. -/
theorem simulate {τ κ : Type} {step' : τ → κ → τ → Prop} {t₀ : τ} {R : τ → σ → Prop} (run : Run step s₀ h s)
    (label : ι → Option κ) (start : R t₀ s₀)
    (keep : ∀ {t s i s'}, R t s → step s i s' →
      ∃ t', (∀ j, label i = some j → step' t j t') ∧ (label i = none → t' = t) ∧ R t' s') :
    ∃ t, Run step' t₀ (h.filterMap label) t ∧ R t s := by
  induction run with
  | nil => exact ⟨t₀, .nil, start⟩
  | @snoc h s s' i _ hs ih =>
    obtain ⟨t, run', hrel⟩ := ih
    obtain ⟨t', hstep, hstay, hrel'⟩ := keep hrel hs
    refine ⟨t', ?_, hrel'⟩
    rw [List.filterMap_append]
    cases hlabel : label i with
    | none =>
      obtain rfl := hstay hlabel
      rw [List.filterMap_cons_none hlabel, List.filterMap_nil, List.append_nil]
      exact run'
    | some j =>
      rw [List.filterMap_cons_some hlabel, List.filterMap_nil]
      exact run'.snoc (hstep j hlabel)

/-- The same where the other states are a function of the states. -/
theorem image {τ κ : Type} {step' : τ → κ → τ → Prop} {label : ι → Option κ} {f : σ → τ} (run : Run step s₀ h s)
    (keep : ∀ {s i s'}, step s i s' →
      (∀ j, label i = some j → step' (f s) j (f s')) ∧ (label i = none → f s' = f s)) :
    Run step' (f s₀) (h.filterMap label) (f s) := by
  obtain ⟨t, run', rfl⟩ := run.simulate label (R := fun t s => t = f s) rfl fun {t s i s'} hrel hstep => by
    obtain ⟨hsome, hnone⟩ := keep hstep
    rw [hrel]
    exact ⟨f s', hsome, hnone, rfl⟩
  exact run'

/-- Two runs under related labels, where related steps keep the states related. -/
theorem pair {τ κ : Type} {step' : τ → κ → τ → Prop} {t₀ t : τ} {h' : List κ} {L : ι → κ → Prop} {R : σ → τ → Prop}
    (run : Run step s₀ h s) (run' : Run step' t₀ h' t) (labels : List.Forall₂ L h h') (start : R s₀ t₀)
    (keep : ∀ {s i s' t j t'}, R s t → L i j → step s i s' → step' t j t' → R s' t') : R s t := by
  induction run generalizing h' t with
  | nil =>
    cases labels
    cases run'.nil_inv rfl
    exact start
  | @snoc h s s' i run hs ih =>
    cases run' with
    | nil => simpa using labels.length_eq
    | @snoc h' t t' j run' hs' =>
      have hlength : h.length = h'.length := by simpa using labels.length_eq
      have hfront := List.forall₂_take_append _ _ _ labels
      have hback := List.forall₂_drop_append _ _ _ labels
      rw [← hlength, List.take_left] at hfront
      rw [← hlength, List.drop_left] at hback
      exact keep (ih run' hfront) (List.forall₂_cons.1 hback).1 hs hs'

end Run
