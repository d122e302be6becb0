/-
How a computation that may throw ends: inversion of a sequence of steps that returned.
-/

namespace Outcome

variable {ε α β : Type}

/-- A sequence returned: its first step did, and the rest on what that returned. -/
theorem bind_eq_ok {x : Except ε α} {f : α → Except ε β} {b : β} :
    (x >>= f) = .ok b ↔ ∃ a, x = .ok a ∧ f a = .ok b := by
  cases x with
  | error e => exact ⟨nofun, nofun⟩
  | ok a =>
    constructor
    · intro h; exact ⟨a, rfl, h⟩
    · rintro ⟨_, ⟨⟩, h⟩; exact h

/-- A mapped computation returned. -/
theorem map_eq_ok {x : Except ε α} {f : α → β} {b : β} :
    f <$> x = .ok b ↔ ∃ a, x = .ok a ∧ f a = b := by
  cases x with
  | error e => exact ⟨nofun, nofun⟩
  | ok a =>
    constructor
    · intro h; cases h; exact ⟨a, rfl, rfl⟩
    · rintro ⟨_, ⟨⟩, rfl⟩; rfl

theorem pure_eq_ok {a b : α} : (pure a : Except ε α) = .ok b ↔ a = b :=
  ⟨Except.ok.inj, congrArg _⟩

/-- A guard that throws was passed. -/
theorem guard_eq_ok {c : Prop} [Decidable c] {e : ε} {x : Except ε α} {b : α} :
    (if c then throw e else x) = .ok b ↔ ¬c ∧ x = .ok b := by
  split
  · rename_i hc
    exact ⟨nofun, fun h => absurd hc h.1⟩
  · rename_i hc
    exact ⟨fun h => ⟨hc, h⟩, fun h => h.2⟩

/-- `if (c) throw e;`. -/
def throwIf {m : Type → Type} [Monad m] [MonadExcept ε m] (c : Prop) [Decidable c] (e : ε) : m Unit :=
  if c then throw e else pure ()

theorem throwIf_eq_ok {c : Prop} [Decidable c] {e : ε} {u : Unit} :
    (throwIf c e : Except ε Unit) = .ok u ↔ ¬c := by
  unfold throwIf
  rw [guard_eq_ok]
  exact ⟨fun h => h.1, fun h => ⟨h, rfl⟩⟩

/-- A passed check continues with the rest. -/
theorem throwIf_bind_eq_ok {c : Prop} [Decidable c] {e : ε} {f : Unit → Except ε β} {b : β} :
    (throwIf c e >>= f) = .ok b ↔ ¬c ∧ f () = .ok b := by
  rw [bind_eq_ok]
  constructor
  · rintro ⟨_, hc, h⟩; exact ⟨throwIf_eq_ok.1 hc, h⟩
  · rintro ⟨hc, h⟩; exact ⟨(), throwIf_eq_ok.2 hc, h⟩

/-! ## What a computation throws -/

/-- Whatever `x` throws is in `P`. -/
def Throws (P : ε → Prop) (x : Except ε α) : Prop := ∀ e, x = .error e → P e

variable {P : ε → Prop}

theorem throws_pure (a : α) : Throws P (pure a : Except ε α) := nofun

theorem throws_throw {e : ε} (h : P e) : Throws P (throw e : Except ε α) := by
  rintro _ ⟨⟩
  exact h

theorem throws_throwIf {c : Prop} [Decidable c] {e : ε} (h : P e) : Throws P (throwIf c e : Except ε Unit) := by
  unfold throwIf
  split
  · exact throws_throw h
  · exact throws_pure ()

theorem Throws.bind {x : Except ε α} {f : α → Except ε β} (h : Throws P x) (hf : ∀ a, Throws P (f a)) :
    Throws P (x >>= f) := by
  cases x with
  | error e =>
    rintro _ ⟨⟩
    exact h e rfl
  | ok a => exact hf a

end Outcome
