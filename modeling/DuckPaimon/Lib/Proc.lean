/-
Procedures that may throw, update a state and report the calls they make: what they have done
before they throw stays done. `Proc.run` gives the result, the final state and the reported calls.

`Proc.wp m s Q` says that `Q` holds of what `m` run in `s` leaves; its rules evaluate a procedure
through `do` blocks, conditionals and `try`, whichever way it ends.
-/
import DuckPaimon.Lib.Outcome

/-- A procedure over the state `σ` that throws `ε` and reports calls `ω`. -/
structure Proc (ε ω σ α : Type) where
  run : σ → Except ε α × σ × List ω

namespace Proc

variable {ε ω σ α β : Type}

instance : Monad (Proc ε ω σ) where
  pure a := ⟨fun s => (.ok a, s, [])⟩
  bind m f := ⟨fun s => match m.run s with
    | (.ok a, s', l) => match (f a).run s' with
      | (r, s'', l') => (r, s'', l ++ l')
    | (.error e, s', l) => (.error e, s', l)⟩

instance : MonadExceptOf ε (Proc ε ω σ) where
  throw e := ⟨fun s => (.error e, s, [])⟩
  tryCatch m h := ⟨fun s => match m.run s with
    | (.ok a, s', l) => (.ok a, s', l)
    | (.error e, s', l) => match (h e).run s' with
      | (r, s'', l') => (r, s'', l ++ l')⟩

/-- The current state. -/
def get : Proc ε ω σ σ := ⟨fun s => (.ok s, s, [])⟩

/-- Updates the state. -/
def modify (f : σ → σ) : Proc ε ω σ Unit := ⟨fun s => (.ok (), f s, [])⟩

/-- Reports a call. -/
def call (w : ω) : Proc ε ω σ Unit := ⟨fun s => (.ok (), s, [w])⟩

/-- Takes over the outcome of a computation that neither updates nor reports. -/
def ofExcept (x : Except ε α) : Proc ε ω σ α := ⟨fun s => (x, s, [])⟩

/-- Runs a procedure on a part of the state. -/
def zoom {τ : Type} (view : σ → τ) (put : τ → σ → σ) (m : Proc ε ω τ α) : Proc ε ω σ α :=
  ⟨fun s => match m.run (view s) with
    | (r, t, l) => (r, put t s, l)⟩

/-- Runs a procedure with a variable of its own, and returns the value the variable has at the end. -/
def alloc {τ : Type} (t : τ) (m : Proc ε ω (σ × τ) α) : Proc ε ω σ τ :=
  ⟨fun s => match m.run (s, t) with
    | (r, (s', t'), l) => (r.map fun _ => t', s', l)⟩

/-! ## Sequences -/

theorem bind_assoc {γ : Type} (m : Proc ε ω σ α) (f : α → Proc ε ω σ β) (g : β → Proc ε ω σ γ) :
    m >>= f >>= g = m >>= fun a => f a >>= g := by
  refine congrArg Proc.mk (funext fun s => ?_)
  simp only [bind]
  rcases m.run s with ⟨e | a, s', l⟩
  · rfl
  · rcases hf : (f a).run s' with ⟨e | b, s'', l'⟩
    · simp only [hf]
    · simp only [hf, List.append_assoc]

/-- What follows a procedure is only run on what it returns. -/
theorem run_bind_congr {m : Proc ε ω σ α} {f g : α → Proc ε ω σ β} {s : σ}
    (h : ∀ a s' l, m.run s = (.ok a, s', l) → f a = g a) : (m >>= f).run s = (m >>= g).run s := by
  simp only [bind]
  rcases hrun : m.run s with ⟨e | a, s', l⟩
  · rfl
  · simp only [h a s' l hrun]

/-! ## Procedures that return -/

/-- A sequence returned: its first step did, and the rest on what that returned. -/
theorem run_bind_eq_ok {m : Proc ε ω σ α} {f : α → Proc ε ω σ β} {s s' : σ} {b : β} {l : List ω} :
    (m >>= f).run s = (.ok b, s', l) ↔
      ∃ a s₁ l₁ l₂, m.run s = (.ok a, s₁, l₁) ∧ (f a).run s₁ = (.ok b, s', l₂) ∧ l = l₁ ++ l₂ := by
  simp only [bind]
  constructor
  · intro h
    rcases hm : m.run s with ⟨e | a, s₁, l₁⟩
    · rw [hm] at h
      cases h
    · rcases hf : (f a).run s₁ with ⟨r, s₂, l₂⟩
      simp only [hm, hf] at h
      cases h
      exact ⟨a, s₁, l₁, l₂, rfl, hf, rfl⟩
  · rintro ⟨a, s₁, l₁, l₂, hm, hf, rfl⟩
    simp only [hm, hf]

theorem run_throw_ne_ok {e : ε} {s s' : σ} {b : β} {l : List ω} : (throw e : Proc ε ω σ β).run s ≠ (.ok b, s', l) := by
  rintro ⟨⟩

theorem run_modify_eq_ok {g : σ → σ} {s s' : σ} {l : List ω} :
    (modify g : Proc ε ω σ Unit).run s = (.ok (), s', l) ↔ s' = g s ∧ l = [] := by
  constructor
  · rintro ⟨⟩
    exact ⟨rfl, rfl⟩
  · rintro ⟨rfl, rfl⟩
    rfl

theorem get_bind_eq_ok {f : σ → Proc ε ω σ β} {s s' : σ} {b : β} {l : List ω} :
    (get >>= f).run s = (.ok b, s', l) ↔ (f s).run s = (.ok b, s', l) := Iff.rfl

theorem modify_bind_eq_ok {g : σ → σ} {f : Unit → Proc ε ω σ β} {s s' : σ} {b : β} {l : List ω} :
    (modify g >>= f).run s = (.ok b, s', l) ↔ (f ()).run (g s) = (.ok b, s', l) := Iff.rfl

theorem ofExcept_bind_eq_ok {x : Except ε α} {f : α → Proc ε ω σ β} {s s' : σ} {b : β} {l : List ω} :
    (ofExcept x >>= f).run s = (.ok b, s', l) ↔ ∃ a, x = .ok a ∧ (f a).run s = (.ok b, s', l) := by
  rw [run_bind_eq_ok]
  constructor
  · rintro ⟨a, s₁, l₁, l₂, hx, hf, rfl⟩
    cases hx
    exact ⟨a, rfl, hf⟩
  · rintro ⟨a, rfl, hf⟩
    exact ⟨a, s, [], l, rfl, hf, rfl⟩

theorem call_bind_eq_ok {w : ω} {f : Unit → Proc ε ω σ β} {s s' : σ} {b : β} {l : List ω} :
    (call w >>= f).run s = (.ok b, s', l) ↔ ∃ l', (f ()).run s = (.ok b, s', l') ∧ l = w :: l' := by
  rw [run_bind_eq_ok]
  constructor
  · rintro ⟨a, s₁, l₁, l₂, hcall, hf, rfl⟩
    cases hcall
    exact ⟨l₂, hf, rfl⟩
  · rintro ⟨l', hf, rfl⟩
    exact ⟨(), s, [w], l', rfl, hf, rfl⟩

theorem throwIf_bind_eq_ok {c : Prop} [Decidable c] {e : ε} {f : Unit → Proc ε ω σ β} {s s' : σ} {b : β} {l : List ω} :
    (Outcome.throwIf c e >>= f).run s = (.ok b, s', l) ↔ ¬c ∧ (f ()).run s = (.ok b, s', l) := by
  unfold Outcome.throwIf
  split
  · rename_i hc
    refine ⟨fun h => ?_, fun h => absurd hc h.1⟩
    obtain ⟨_, _, _, _, hthrow, -⟩ := run_bind_eq_ok.1 h
    cases hthrow
  · rename_i hc
    exact ⟨fun h => ⟨hc, h⟩, fun h => h.2⟩

/-- A handler is not run behind what returns. -/
theorem run_tryCatch_of_ok {m : Proc ε ω σ α} {f : ε → Proc ε ω σ α} {s s' : σ} {a : α} {l : List ω}
    (h : m.run s = (.ok a, s', l)) : (MonadExcept.tryCatch m f).run s = (.ok a, s', l) := by
  simp only [MonadExcept.tryCatch, tryCatchThe, MonadExceptOf.tryCatch, h]

/-! ## What a procedure leaves -/

/-- `Q` holds of the result, the final state and the calls of `m` run in `s`. -/
def wp (m : Proc ε ω σ α) (s : σ) (Q : Except ε α → σ → List ω → Prop) : Prop :=
  Q (m.run s).1 (m.run s).2.1 (m.run s).2.2

theorem wp_run {m : Proc ε ω σ α} {s s' : σ} {Q : Except ε α → σ → List ω → Prop} {r : Except ε α}
    {l : List ω} (h : m.wp s Q) (hr : m.run s = (r, s', l)) : Q r s' l := by
  unfold wp at h
  rw [hr] at h
  exact h

/-- What a procedure leaves, opened behind a function of its result. -/
theorem wp_run_map {m : Proc ε ω σ α} {f : α → β} {s s' : σ} {Q : Except ε α → σ → List ω → Prop} {r : Except ε β}
    {l : List ω} (h : m.wp s Q) (hr : (f <$> m).run s = (r, s', l)) : ∃ a, r = a.map f ∧ Q a s' l := by
  have hmap : (f <$> m).run s = ((m.run s).1.map f, (m.run s).2) := by
    show ((m >>= fun a => pure (f a)).run s) = _
    simp only [bind, pure]
    rcases m.run s with ⟨_ | a, s', l⟩
    · rfl
    · show (_, _, l ++ []) = _
      rw [List.append_nil]
      rfl
  rw [hmap] at hr
  obtain ⟨hresult, hrest⟩ := Prod.mk.inj hr
  unfold wp at h
  rw [hrest] at h
  exact ⟨_, hresult.symm, h⟩

/-- A run is what it leaves. -/
theorem run_eq {m : Proc ε ω σ α} {s s' : σ} {r : Except ε α} {l : List ω}
    (h : m.wp s fun result state calls => result = r ∧ state = s' ∧ calls = l) : m.run s = (r, s', l) := by
  obtain ⟨hresult, hstate, hcalls⟩ := wp_run h rfl
  exact Prod.ext hresult (Prod.ext hstate hcalls)

theorem wp_mono {m : Proc ε ω σ α} {s : σ} {Q Q' : Except ε α → σ → List ω → Prop} (h : m.wp s Q)
    (hQ : ∀ r s' l, Q r s' l → Q' r s' l) : m.wp s Q' := hQ _ _ _ h

/-- What is left, seen together. -/
theorem wp_and {m : Proc ε ω σ α} {s : σ} {Q Q' : Except ε α → σ → List ω → Prop} (h : m.wp s Q) (h' : m.wp s Q') :
    m.wp s fun r s' l => Q r s' l ∧ Q' r s' l := by
  exact ⟨h, h'⟩

@[simp] theorem wp_pure (a : α) (s : σ) (Q : Except ε α → σ → List ω → Prop) :
    (pure a : Proc ε ω σ α).wp s Q ↔ Q (.ok a) s [] := Iff.rfl

@[simp] theorem wp_throw (e : ε) (s : σ) (Q : Except ε α → σ → List ω → Prop) :
    (throw e : Proc ε ω σ α).wp s Q ↔ Q (.error e) s [] := Iff.rfl

@[simp] theorem wp_get (s : σ) (Q : Except ε σ → σ → List ω → Prop) :
    (get : Proc ε ω σ σ).wp s Q ↔ Q (.ok s) s [] := Iff.rfl

@[simp] theorem wp_modify (f : σ → σ) (s : σ) (Q : Except ε Unit → σ → List ω → Prop) :
    (modify f).wp s Q ↔ Q (.ok ()) (f s) [] := Iff.rfl

@[simp] theorem wp_call (w : ω) (s : σ) (Q : Except ε Unit → σ → List ω → Prop) :
    (call w).wp s Q ↔ Q (.ok ()) s [w] := Iff.rfl

@[simp] theorem wp_ofExcept (x : Except ε α) (s : σ) (Q : Except ε α → σ → List ω → Prop) :
    (ofExcept x).wp s Q ↔ Q x s [] := Iff.rfl

@[simp] theorem wp_bind (m : Proc ε ω σ α) (f : α → Proc ε ω σ β) (s : σ)
    (Q : Except ε β → σ → List ω → Prop) :
    (m >>= f).wp s Q ↔ m.wp s fun r s' l => match r with
      | .ok a => (f a).wp s' fun r' s'' l' => Q r' s'' (l ++ l')
      | .error e => Q (.error e) s' l := by
  show Q _ _ _ ↔ _
  unfold wp
  simp only [bind]
  rcases m.run s with ⟨_ | a, s', l⟩ <;> rfl

@[simp] theorem wp_tryCatch (m : Proc ε ω σ α) (h : ε → Proc ε ω σ α) (s : σ)
    (Q : Except ε α → σ → List ω → Prop) :
    (tryCatch m h).wp s Q ↔ m.wp s fun r s' l => match r with
      | .ok a => Q (.ok a) s' l
      | .error e => (h e).wp s' fun r' s'' l' => Q r' s'' (l ++ l') := by
  show Q _ _ _ ↔ _
  unfold wp
  simp only [tryCatch, tryCatchThe, MonadExceptOf.tryCatch]
  rcases m.run s with ⟨e | a, s', l⟩ <;> rfl

@[simp] theorem wp_ite (c : Prop) [Decidable c] (m n : Proc ε ω σ α) (s : σ)
    (Q : Except ε α → σ → List ω → Prop) :
    (if c then m else n).wp s Q ↔ if c then m.wp s Q else n.wp s Q := by
  split <;> rfl

@[simp] theorem wp_throwIf (c : Prop) [Decidable c] (e : ε) (s : σ) (Q : Except ε Unit → σ → List ω → Prop) :
    (Outcome.throwIf c e : Proc ε ω σ Unit).wp s Q ↔ if c then Q (.error e) s [] else Q (.ok ()) s [] :=
  wp_ite c _ _ s Q

@[simp] theorem wp_zoom {τ : Type} (view : σ → τ) (put : τ → σ → σ) (m : Proc ε ω τ α) (s : σ)
    (Q : Except ε α → σ → List ω → Prop) :
    (zoom view put m).wp s Q ↔ m.wp (view s) fun r t l => Q r (put t s) l := Iff.rfl

@[simp] theorem wp_alloc {τ : Type} (t : τ) (m : Proc ε ω (σ × τ) α) (s : σ) (Q : Except ε τ → σ → List ω → Prop) :
    (alloc t m).wp s Q ↔ m.wp (s, t) fun r s' l => Q (r.map fun _ => s'.2) s'.1 l := Iff.rfl

-- from here on a procedure is evaluated by the rules above only
attribute [irreducible] wp

/-! ## How a procedure ends -/

/-- The result of `m` run in `s`. -/
def result (m : Proc ε ω σ α) (s : σ) : Except ε α := (m.run s).1

@[simp] theorem result_pure (a : α) (s : σ) : (pure a : Proc ε ω σ α).result s = .ok a := rfl

/-- Behind a step that leaves the state as it is. -/
theorem result_bind {m : Proc ε ω σ α} {s : σ} (h : (m.run s).2.1 = s) (f : α → Proc ε ω σ β) :
    (m >>= f).result s = m.result s >>= fun a => (f a).result s := by
  unfold result
  simp only [bind]
  generalize m.run s = out at h
  obtain ⟨_ | a, s', l⟩ := out
  · rfl
  · obtain rfl : s' = s := h
    rfl

@[simp] theorem result_get_bind (f : σ → Proc ε ω σ β) (s : σ) : (get >>= f).result s = (f s).result s :=
  result_bind rfl f

@[simp] theorem result_ofExcept_bind (x : Except ε α) (f : α → Proc ε ω σ β) (s : σ) :
    (ofExcept x >>= f).result s = x >>= fun a => (f a).result s :=
  result_bind rfl f

@[simp] theorem result_throwIf_bind (c : Prop) [Decidable c] (e : ε) (f : Unit → Proc ε ω σ β) (s : σ) :
    (Outcome.throwIf c e >>= f).result s = Outcome.throwIf c e >>= fun u => (f u).result s := by
  unfold Outcome.throwIf
  split <;> rfl

/-! ## What a procedure keeps -/

/-- Whichever way `m` ends, the part `f` of the state is what it was and the calls are in `P`. -/
def Keeps {τ : Type} (f : σ → τ) (P : ω → Prop) (m : Proc ε ω σ α) : Prop :=
  ∀ s, m.wp s fun _ s' l => f s' = f s ∧ ∀ w ∈ l, P w

variable {τ : Type} {f : σ → τ} {P : ω → Prop}

theorem keeps_pure (a : α) : Keeps f P (pure a : Proc ε ω σ α) :=
  fun s => (wp_pure a s _).2 ⟨rfl, nofun⟩

theorem keeps_throw (e : ε) : Keeps f P (throw e : Proc ε ω σ α) :=
  fun s => (wp_throw e s _).2 ⟨rfl, nofun⟩

theorem keeps_get : Keeps f P (get : Proc ε ω σ σ) :=
  fun s => (wp_get s _).2 ⟨rfl, nofun⟩

theorem keeps_ofExcept (x : Except ε α) : Keeps f P (ofExcept x : Proc ε ω σ α) :=
  fun s => (wp_ofExcept x s _).2 ⟨rfl, nofun⟩

theorem keeps_modify {g : σ → σ} (h : ∀ s, f (g s) = f s) : Keeps f P (modify g : Proc ε ω σ Unit) :=
  fun s => (wp_modify g s _).2 ⟨h s, nofun⟩

theorem keeps_call {w : ω} (h : P w) : Keeps f P (call w : Proc ε ω σ Unit) :=
  fun s => (wp_call w s _).2 ⟨rfl, fun _ hw => List.mem_singleton.1 hw ▸ h⟩

theorem keeps_throwIf (c : Prop) [Decidable c] (e : ε) : Keeps f P (Outcome.throwIf c e : Proc ε ω σ Unit) := by
  intro s
  rw [wp_throwIf]
  split <;> exact ⟨rfl, nofun⟩

theorem Keeps.bind {m : Proc ε ω σ α} {k : α → Proc ε ω σ β} (h : Keeps f P m) (hk : ∀ a, Keeps f P (k a)) :
    Keeps f P (m >>= k) := by
  intro s
  rw [wp_bind]
  refine wp_mono (h s) ?_
  rintro (e | a) s' l ⟨hs, hl⟩
  · exact ⟨hs, hl⟩
  · refine wp_mono (hk a s') ?_
    rintro r s'' l' ⟨hs', hl'⟩
    exact ⟨hs'.trans hs, fun w hw => (List.mem_append.1 hw).elim (hl w) (hl' w)⟩

theorem Keeps.tryCatch {m : Proc ε ω σ α} {k : ε → Proc ε ω σ α} (h : Keeps f P m) (hk : ∀ e, Keeps f P (k e)) :
    Keeps f P (MonadExcept.tryCatch m k) := by
  intro s
  rw [wp_tryCatch]
  refine wp_mono (h s) ?_
  rintro (e | a) s' l ⟨hs, hl⟩
  · refine wp_mono (hk e s') ?_
    rintro r s'' l' ⟨hs', hl'⟩
    exact ⟨hs'.trans hs, fun w hw => (List.mem_append.1 hw).elim (hl w) (hl' w)⟩
  · exact ⟨hs, hl⟩

/-- What makes calls in `P` and keeps a part of the state makes calls in `P`. -/
theorem Keeps.calls {m : Proc ε ω σ α} (h : Keeps f P m) : Keeps (fun _ => ()) P m :=
  fun s => wp_mono (h s) fun _ _ _ hl => ⟨rfl, hl.2⟩

/-- A procedure that keeps the whole state leaves it as it is. -/
theorem Keeps.state {m : Proc ε ω σ α} (h : Keeps id P m) (s : σ) : (m.run s).2.1 = s :=
  (wp_run (h s) rfl).1

/-- A procedure that keeps the whole state gives its result. -/
theorem Keeps.wp_result {m : Proc ε ω σ α} (h : Keeps id P m) (s : σ) :
    m.wp s fun r s' _ => s' = s ∧ r = m.result s := by
  have hstate := h.state s
  unfold wp result
  exact ⟨hstate, rfl⟩

/-! ## Two runs -/

/-- Run in `s` and in `t`, two procedures end alike and make the same calls; where they return, `S` relates
the states. -/
structure Agrees (S : σ → σ → Prop) (m m' : Proc ε ω σ α) (s t : σ) : Prop where
  result : (m.run s).1 = (m'.run t).1
  calls : (m.run s).2.2 = (m'.run t).2.2
  state : ∀ a, (m.run s).1 = .ok a → S (m.run s).2.1 (m'.run t).2.1

section Agrees

variable {R S : σ → σ → Prop} {s t : σ}

theorem agrees_pure (h : S s t) (a : α) : Agrees S (pure a : Proc ε ω σ α) (pure a) s t := ⟨rfl, rfl, fun _ _ => h⟩

theorem agrees_throw (e : ε) : Agrees S (throw e : Proc ε ω σ α) (throw e) s t := ⟨rfl, rfl, nofun⟩

theorem agrees_modify {f g : σ → σ} (h : S (f s) (g t)) : Agrees S (modify f : Proc ε ω σ Unit) (modify g) s t :=
  ⟨rfl, rfl, fun _ _ => h⟩

theorem Agrees.get {k k' : σ → Proc ε ω σ β} (h : Agrees S (k s) (k' t) s t) :
    Agrees S (Proc.get >>= k) (Proc.get >>= k') s t := ⟨h.result, h.calls, h.state⟩

theorem Agrees.ofExcept {x : Except ε α} {k k' : α → Proc ε ω σ β} (h : ∀ a, x = .ok a → Agrees S (k a) (k' a) s t) :
    Agrees S (Proc.ofExcept x >>= k) (Proc.ofExcept x >>= k') s t := by
  cases x with
  | error e => exact ⟨rfl, rfl, nofun⟩
  | ok a =>
    obtain ⟨hresult, hcalls, hstate⟩ := h a rfl
    exact ⟨hresult, hcalls, hstate⟩

theorem Agrees.bind {m m' : Proc ε ω σ α} {k k' : α → Proc ε ω σ β} (h : Agrees R m m' s t)
    (hk : ∀ a s' t', R s' t' → Agrees S (k a) (k' a) s' t') : Agrees S (m >>= k) (m' >>= k') s t := by
  obtain ⟨hresult, hcalls, hstate⟩ := h
  rcases hm : m.run s with ⟨r, s', l⟩
  rcases hm' : m'.run t with ⟨r', t', l'⟩
  simp only [hm, hm'] at hresult hcalls hstate
  subst hresult hcalls
  cases r with
  | error e => exact ⟨by simp only [Bind.bind, hm, hm'], by simp only [Bind.bind, hm, hm'], by simp [Bind.bind, hm]⟩
  | ok a =>
    obtain ⟨hresult, hcalls, hstate⟩ := hk a s' t' (hstate a rfl)
    refine ⟨?_, ?_, ?_⟩ <;> simp only [Bind.bind, hm, hm']
    · exact hresult
    · rw [hcalls]
    · exact hstate

theorem Agrees.call {w : ω} {k k' : Unit → Proc ε ω σ β} (h : Agrees S (k ()) (k' ()) s t) :
    Agrees S (Proc.call w >>= k) (Proc.call w >>= k') s t :=
  ⟨h.result, congrArg (w :: ·) h.calls, h.state⟩

theorem Agrees.modify {f g : σ → σ} {k k' : Unit → Proc ε ω σ β} (h : Agrees S (k ()) (k' ()) (f s) (g t)) :
    Agrees S (Proc.modify f >>= k) (Proc.modify g >>= k') s t := ⟨h.result, h.calls, h.state⟩

theorem Agrees.throwIf {c : Prop} [Decidable c] {e : ε} {k k' : Unit → Proc ε ω σ β}
    (h : ¬c → Agrees S (k ()) (k' ()) s t) : Agrees S (Outcome.throwIf c e >>= k) (Outcome.throwIf c e >>= k') s t := by
  unfold Outcome.throwIf
  split
  · exact ⟨rfl, rfl, nofun⟩
  · rename_i hc
    obtain ⟨hresult, hcalls, hstate⟩ := h hc
    exact ⟨hresult, hcalls, hstate⟩

/-- Behind a handler that reports and throws again. -/
theorem Agrees.tryCatch {m m' : Proc ε ω σ α} {f f' : ε → Proc ε ω σ α} (h : Agrees S m m' s t)
    (hf : ∀ e s t, Agrees S (f e) (f' e) s t) :
    Agrees S (MonadExcept.tryCatch m f) (MonadExcept.tryCatch m' f') s t := by
  obtain ⟨hresult, hcalls, hstate⟩ := h
  rcases hm : m.run s with ⟨r, s', l⟩
  rcases hm' : m'.run t with ⟨r', t', l'⟩
  simp only [hm, hm'] at hresult hcalls hstate
  subst hresult hcalls
  cases r with
  | ok a =>
    refine ⟨?_, ?_, ?_⟩ <;> simp only [MonadExcept.tryCatch, tryCatchThe, MonadExceptOf.tryCatch, hm, hm']
    exact hstate
  | error e =>
    obtain ⟨hresult, hcalls, hstate⟩ := hf e s' t'
    refine ⟨?_, ?_, ?_⟩ <;> simp only [MonadExcept.tryCatch, tryCatchThe, MonadExceptOf.tryCatch, hm, hm']
    · exact hresult
    · rw [hcalls]
    · exact hstate

end Agrees

end Proc
