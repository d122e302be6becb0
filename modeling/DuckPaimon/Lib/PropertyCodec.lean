/-
A format of tagged, typed properties in a byte string: an object is the properties of its fields,
one after the other, and an end mark. A reader consumes the properties in order; of a lawful format
it reads back what was written and leaves the bytes behind it.
-/

/-- A property format: how a value of each kind is written and read under a field id and a name,
and how the end of an object is. -/
structure PropertyCodec (κ : Type) (Val : κ → Type) (ε : Type) where
  write : (k : κ) → Nat → String → Val k → String
  endMark : String
  read : (k : κ) → Nat → String → String → Except ε (Val k × String)
  readEnd : String → Except ε String

namespace PropertyCodec

variable {κ ε α : Type} {Val : κ → Type} (codec : PropertyCodec κ Val ε)

/-- A format that reads what it wrote. -/
structure Lawful : Prop where
  read_write : ∀ k id name v rest, codec.read k id name (codec.write k id name v ++ rest) = .ok (v, rest)
  readEnd_endMark : ∀ rest, codec.readEnd (codec.endMark ++ rest) = .ok rest

/-- The bytes of an object, from the bytes of its properties. -/
def object : List String → String
  | [] => codec.endMark
  | p :: ps => p ++ object ps

/-- Reads the next property. -/
def readProperty (k : κ) (id : Nat) (name : String) : StateT String (Except ε) (Val k) :=
  fun bytes => codec.read k id name bytes

/-- Reads the end of the object. -/
def finish : StateT String (Except ε) Unit :=
  fun bytes => (codec.readEnd bytes).map fun rest => ((), rest)

/-- How a property that holds an object starts: its own fields and end mark follow. -/
structure ObjectStart (ε : Type) where
  write : Nat → String → String
  read : Nat → String → String → Except ε String

/-- The start of an object property is read back. -/
def ObjectStart.Lawful (start : ObjectStart ε) : Prop :=
  ∀ id name rest, start.read id name (start.write id name ++ rest) = .ok rest

/-- Reads the start of the next property, which holds an object. -/
def readObjectStart (start : ObjectStart ε) (id : Nat) (name : String) : StateT String (Except ε) Unit :=
  fun bytes => (start.read id name bytes).map fun rest => ((), rest)

/-- A computation beside the bytes leaves them. -/
theorem run_liftM_bind {β : Type} (x : Except ε β) (f : β → StateT String (Except ε) α) (bytes : String) :
    ((liftM x : StateT String (Except ε) β) >>= f).run bytes = x >>= fun b => (f b).run bytes := by
  cases x <;> rfl

variable {codec}

theorem ObjectStart.Lawful.readObjectStart_bind {start : ObjectStart ε} (h : start.Lawful) (id : Nat) (name : String)
    (rest : String) (f : Unit → StateT String (Except ε) α) :
    (readObjectStart start id name >>= f).run (start.write id name ++ rest) = (f ()).run rest := by
  show (start.read id name (start.write id name ++ rest)).map (fun rest => ((), rest)) >>= (fun p => (f p.1).run p.2) = _
  rw [h]
  rfl

/-- Inside another object, what stands behind the object is left. -/
theorem Lawful.readProperty_append_bind (h : codec.Lawful) (k : κ) (id : Nat) (name : String) (v : Val k)
    (ps : List String) (rest : String) (f : Val k → StateT String (Except ε) α) :
    (codec.readProperty k id name >>= f).run (codec.object (codec.write k id name v :: ps) ++ rest) =
      (f v).run (codec.object ps ++ rest) := by
  show (codec.read k id name (codec.object (codec.write k id name v :: ps) ++ rest) >>= fun p => (f p.1).run p.2) = _
  rw [object, String.append_assoc, h.read_write]
  rfl

theorem Lawful.readProperty_bind (h : codec.Lawful) (k : κ) (id : Nat) (name : String) (v : Val k)
    (ps : List String) (f : Val k → StateT String (Except ε) α) :
    (codec.readProperty k id name >>= f).run (codec.object (codec.write k id name v :: ps)) =
      (f v).run (codec.object ps) := by
  have happend := h.readProperty_append_bind k id name v ps "" f
  rwa [String.append_empty, String.append_empty] at happend

@[inherit_doc Lawful.readProperty_append_bind]
theorem Lawful.finish_append_bind (h : codec.Lawful) (rest : String) (f : Unit → StateT String (Except ε) α) :
    (codec.finish >>= f).run (codec.object [] ++ rest) = (f ()).run rest := by
  show (codec.readEnd (codec.object [] ++ rest)).map (fun rest => ((), rest)) >>= (fun p => (f p.1).run p.2) = _
  rw [object, h.readEnd_endMark]
  rfl

theorem Lawful.finish_bind (h : codec.Lawful) (f : Unit → StateT String (Except ε) α) :
    (codec.finish >>= f).run (codec.object []) = (f ()).run "" := by
  have happend := h.finish_append_bind "" f
  rwa [String.append_empty] at happend

/-- A property of a type with two values is written in at least one byte. -/
theorem Lawful.write_ne_empty (h : codec.Lawful) {k : κ} (id : Nat) (name : String) {v v' : Val k} (hv : v ≠ v') :
    codec.write k id name v ≠ "" := by
  intro hempty
  have hread := h.read_write k id name v (codec.write k id name v')
  have hread' := h.read_write k id name v' ""
  rw [hempty, String.empty_append] at hread
  rw [String.append_empty, hread, Except.ok.injEq, Prod.mk.injEq] at hread'
  exact hv hread'.1

theorem Lawful.object_cons_ne_empty (h : codec.Lawful) {k : κ} (id : Nat) (name : String) {v v' : Val k}
    (hv : v ≠ v') (ps : List String) : codec.object (codec.write k id name v :: ps) ≠ "" := by
  rw [object, Ne, String.append_eq_empty_iff]
  exact fun hempty => h.write_ne_empty id name hv hempty.1

end PropertyCodec
