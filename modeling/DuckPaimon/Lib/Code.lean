/-
Self-delimiting codes: a value is written as characters from which it is read back whatever stands
behind it. A number is written in digits of base 128, lowest first, with a mark on every digit but
the last; a list is preceded by its length.
-/
import Mathlib.Data.List.Basic

/-- A code that reads what it wrote. -/
structure Code (α : Type) where
  write : α → List Char
  read : List Char → Option (α × List Char)
  read_write : ∀ a rest, read (write a ++ rest) = some (a, rest)

namespace Code

variable {α β : Type}

/-- The code of the values a code's values stand for. -/
def along (code : Code α) (f : β → α) (g : α → Option β) (h : ∀ b, g (f b) = some b) : Code β where
  write b := code.write (f b)
  read text := do
    let (a, rest) ← code.read text
    let b ← g a
    return (b, rest)
  read_write b rest := by
    rw [code.read_write, Option.bind_eq_bind, Option.bind_some]
    dsimp only
    rw [h]
    rfl

/-- One value after the other. -/
def pair (code : Code α) (code' : Code β) : Code (α × β) where
  write p := code.write p.1 ++ code'.write p.2
  read text := do
    let (a, rest) ← code.read text
    let (b, rest) ← code'.read rest
    return ((a, b), rest)
  read_write p rest := by
    rw [List.append_assoc, code.read_write, Option.bind_eq_bind, Option.bind_some]
    dsimp only
    rw [code'.read_write]
    rfl

/-! ## Numbers -/

/-- The digits of a number, `fuel` at most being marked. -/
def writeDigits : Nat → Nat → List Char
  | 0, n => [Char.ofNat n]
  | fuel + 1, n => if n < 128 then [Char.ofNat n] else Char.ofNat (n % 128 + 128) :: writeDigits fuel (n / 128)

/-- The number at the start of a text. -/
def readNat : List Char → Option (Nat × List Char)
  | [] => none
  | digit :: rest =>
    if digit.toNat < 128 then some (digit.toNat, rest)
    else
      match readNat rest with
      | some (n, rest) => some (digit.toNat - 128 + 128 * n, rest)
      | none => none

theorem toNat_digit {n : Nat} (h : n < 256) : (Char.ofNat n).toNat = n := by
  have hvalid : n.isValidChar := .inl (by omega)
  rw [Char.ofNat, dif_pos hvalid]
  rfl

theorem readNat_writeDigits {fuel n : Nat} (h : n ≤ fuel) (rest : List Char) :
    readNat (writeDigits fuel n ++ rest) = some (n, rest) := by
  induction fuel generalizing n with
  | zero =>
    obtain rfl := Nat.le_zero.1 h
    rfl
  | succ fuel ih =>
    rw [writeDigits]
    split
    · rename_i hsmall
      rw [List.singleton_append, readNat, toNat_digit (by omega), if_pos hsmall]
    · rename_i hlarge
      rw [List.cons_append, readNat, toNat_digit (by omega), if_neg (by omega), ih (by omega)]
      simp only [Option.some.injEq, Prod.mk.injEq, and_true]
      omega

/-- The code of numbers. -/
def nat : Code Nat where
  write n := writeDigits n n
  read := readNat
  read_write n := readNat_writeDigits n.le_refl

/-! ## Lists -/

/-- Reads a number of values. -/
def readMany (code : Code α) : Nat → List Char → Option (List α × List Char)
  | 0, text => some ([], text)
  | n + 1, text => do
    let (a, rest) ← code.read text
    let (as, rest) ← readMany code n rest
    return (a :: as, rest)

theorem readMany_write (code : Code α) (as : List α) (rest : List Char) :
    code.readMany as.length (as.flatMap code.write ++ rest) = some (as, rest) := by
  induction as with
  | nil => rfl
  | cons a as ih =>
    rw [List.flatMap_cons, List.append_assoc, List.length_cons, readMany, code.read_write, Option.bind_eq_bind,
      Option.bind_some]
    dsimp only
    rw [ih]
    rfl

/-- A list behind its length. -/
def list (code : Code α) : Code (List α) where
  write as := nat.write as.length ++ as.flatMap code.write
  read text := do
    let (n, rest) ← nat.read text
    code.readMany n rest
  read_write as rest := by
    rw [List.append_assoc, nat.read_write, Option.bind_eq_bind, Option.bind_some]
    exact code.readMany_write as rest

/-- A character by itself. -/
def char : Code Char where
  write c := [c]
  read
    | [] => none
    | c :: rest => some (c, rest)
  read_write _ _ := rfl

/-- A string behind its length. -/
def string : Code String :=
  char.list.along String.toList (fun text => some (String.ofList text)) fun _ => congrArg some String.ofList_toList

end Code
