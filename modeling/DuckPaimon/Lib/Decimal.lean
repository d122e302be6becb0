/-
Decimal numerals without superfluous leading zeros: they are exactly the texts of the natural
numbers.
-/
import Mathlib.Data.Nat.Notation

namespace Decimal

/-- Digits only, at least one, and no leading zero before another digit. -/
structure Numeral (cs : List Char) : Prop where
  ne_nil : cs ≠ []
  digits : ∀ c ∈ cs, c.isDigit = true
  leading : ∀ rest, cs = '0' :: rest → rest = []

theorem isDigit_bounds {c : Char} (h : c.isDigit = true) : 48 ≤ c.toNat ∧ c.toNat ≤ 57 := by
  rw [Char.isDigit, Bool.and_eq_true, decide_eq_true_iff, decide_eq_true_iff] at h
  exact h

/-- A character that is no digit stands in no numeral. -/
theorem Numeral.not_mem {cs : List Char} {c : Char} (h : Numeral cs) (hc : c.isDigit = false) : c ∉ cs := by
  intro hmem
  rw [h.digits c hmem] at hc
  cases hc

/-- The digit of a character is written as that character. -/
theorem digitChar_toNat {c : Char} (h : c.isDigit = true) : Nat.digitChar (c.toNat - 48) = c := by
  have hbounds := isDigit_bounds h
  apply Char.toNat_inj.mp
  rw [Nat.toNat_digitChar_of_lt_ten (by omega)]
  omega

/-- Digits behind the text of a positive number make the text of a number. -/
theorem toDigits_append (rest : List Char) (n : Nat) (hn : 0 < n) (hrest : ∀ c ∈ rest, c.isDigit = true) :
    ∃ m, Nat.toDigits 10 n ++ rest = Nat.toDigits 10 m := by
  induction rest generalizing n with
  | nil => exact ⟨n, by simp⟩
  | cons c rest ih =>
    have hc : c.isDigit = true := hrest c (.head _)
    have hlt : c.toNat - 48 < 10 := by have := isDigit_bounds hc; omega
    have happend := Nat.toDigits_append_toDigits (b := 10) (by omega) hn hlt
    rw [Nat.toDigits_of_lt_base hlt, digitChar_toNat hc] at happend
    obtain ⟨m, hm⟩ := ih (10 * n + (c.toNat - 48)) (by omega) fun c' hc' => hrest c' (.tail _ hc')
    refine ⟨m, ?_⟩
    rw [← hm, ← happend]
    simp

/-- The text of a positive number does not start with a zero. -/
theorem toDigits_leading (n : Nat) (hn : 0 < n) : ∃ first rest, Nat.toDigits 10 n = first :: rest ∧ first ≠ '0' := by
  induction n using Nat.strongRecOn with
  | ind n ih =>
    by_cases hlt : n < 10
    · refine ⟨n.digitChar, [], Nat.toDigits_of_lt_base hlt, ?_⟩
      rw [Ne, Nat.digitChar_eq_zero]
      omega
    · obtain ⟨first, rest, hdigits, hne⟩ := ih (n / 10) (by omega) (by omega)
      rw [Nat.toDigits_of_base_le (by omega) (by omega), hdigits]
      exact ⟨first, _, rfl, hne⟩

theorem numeral_toDigits (n : Nat) : Numeral (Nat.toDigits 10 n) := by
  refine ⟨Nat.toDigits_ne_nil, fun c hc => Nat.isDigit_of_mem_toDigits (by omega) (by omega) hc, fun rest hrest => ?_⟩
  rcases Nat.eq_zero_or_pos n with rfl | hn
  · rw [Nat.toDigits_zero] at hrest
    exact (List.cons.inj hrest).2.symm
  · obtain ⟨first, rest', heq, hne⟩ := toDigits_leading n hn
    rw [heq] at hrest
    exact absurd (List.cons.inj hrest).1 hne

/-- Different numbers have different texts. -/
theorem toString_injective : Function.Injective (toString : Nat → String) := by
  intro m n h
  have hdigits : Nat.toDigits 10 m = Nat.toDigits 10 n := by
    rw [← Nat.toList_repr, ← Nat.toList_repr]
    exact congrArg String.toList h
  rw [← Nat.ofDigitChars_toDigits (by decide : 1 < 10) (by decide) (n := m), hdigits,
    Nat.ofDigitChars_toDigits (by decide) (by decide)]

theorem numeral_iff {cs : List Char} : Numeral cs ↔ ∃ n, cs = Nat.toDigits 10 n := by
  constructor
  · rintro ⟨hne, hdigits, hleading⟩
    obtain ⟨first, rest, rfl⟩ := List.exists_cons_of_ne_nil hne
    have hfirst : first.isDigit = true := hdigits first (.head _)
    have hlt : first.toNat - 48 < 10 := by have := isDigit_bounds hfirst; omega
    have htext : Nat.toDigits 10 (first.toNat - 48) = [first] := by
      rw [Nat.toDigits_of_lt_base hlt, digitChar_toNat hfirst]
    rcases Nat.eq_zero_or_pos (first.toNat - 48) with hzero | hpos
    · -- a zero stands alone
      have hchar := digitChar_toNat hfirst
      rw [hzero] at hchar
      obtain rfl : first = '0' := hchar.symm
      rw [hleading rest rfl]
      exact ⟨_, htext.symm⟩
    · obtain ⟨m, hm⟩ := toDigits_append rest _ hpos fun c hc => hdigits c (.tail _ hc)
      rw [htext] at hm
      exact ⟨m, hm⟩
  · rintro ⟨n, rfl⟩
    exact numeral_toDigits n

end Decimal
