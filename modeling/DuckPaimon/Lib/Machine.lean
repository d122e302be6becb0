/-
Machine integers: signed 64-bit operations that fail where they overflow, floor division made of
truncated division, numbers of a quotient and a remainder, numbers of two limbs, and sums that stop
at a limit.
-/
import Mathlib.Algebra.Order.BigOperators.Group.List
import Mathlib.Algebra.Order.Ring.Int

namespace Machine

/-! ## Checked operations -/

/-- An integer that 64 bits hold. -/
def Fits (i : Int) : Prop := -2 ^ 63 ≤ i ∧ i < 2 ^ 63

instance (i : Int) : Decidable (Fits i) := inferInstanceAs (Decidable (_ ∧ _))

/-- The product, `none` where it overflows. -/
def mul? (a b : Int64) : Option Int64 := if Fits (a.toInt * b.toInt) then some (a * b) else none

/-- The difference, `none` where it overflows. -/
def sub? (a b : Int64) : Option Int64 := if Fits (a.toInt - b.toInt) then some (a - b) else none

theorem fits_toInt (a : Int64) : Fits a.toInt := ⟨a.le_toInt, a.toInt_lt⟩

theorem Fits.bmod {i : Int} (h : Fits i) : i.bmod (2 ^ 64) = i := by
  obtain ⟨hle, hlt⟩ := h
  apply Int.bmod_eq_of_le <;> omega

/-- Where a result wraps from an exact one that is checked, what is got is the exact one. -/
theorem checked_eq_some {exact : Int} {wrapped c : Int64} (hwraps : wrapped.toInt = exact.bmod (2 ^ 64)) :
    (if Fits exact then some wrapped else none) = some c ↔ c.toInt = exact := by
  constructor
  · intro h
    split at h
    · rename_i hfits
      cases h
      rw [hwraps, hfits.bmod]
    · cases h
  · rintro rfl
    have hfits := fits_toInt c
    rw [if_pos hfits, Option.some_inj, ← Int64.toInt_inj, hwraps, hfits.bmod]

theorem mul?_eq_some {a b c : Int64} : mul? a b = some c ↔ c.toInt = a.toInt * b.toInt :=
  checked_eq_some (Int64.toInt_mul a b)

theorem sub?_eq_some {a b c : Int64} : sub? a b = some c ↔ c.toInt = a.toInt - b.toInt :=
  checked_eq_some (Int64.toInt_sub a b)

theorem exists_mul? {a b : Int64} (h : Fits (a.toInt * b.toInt)) :
    ∃ c, mul? a b = some c ∧ c.toInt = a.toInt * b.toInt :=
  ⟨a * b, if_pos h, mul?_eq_some.1 (if_pos h)⟩

theorem exists_sub? {a b : Int64} (h : Fits (a.toInt - b.toInt)) :
    ∃ c, sub? a b = some c ∧ c.toInt = a.toInt - b.toInt :=
  ⟨a - b, if_pos h, sub?_eq_some.1 (if_pos h)⟩

/-- What a checked operation gets, the wrapping one gets. -/
theorem mul_of_mul? {a b c : Int64} (h : mul? a b = some c) : a * b = c :=
  Option.some_inj.1 (Option.ite_none_right_eq_some.1 h).2

theorem sub_of_sub? {a b c : Int64} (h : sub? a b = some c) : a - b = c :=
  Option.some_inj.1 (Option.ite_none_right_eq_some.1 h).2

/-! ## Floor division -/

/-- Truncated division is floor division once 1 is taken off where the remainder is negative. -/
theorem tdiv_sub_eq_ediv (a : Int) {b : Int} (hb : 0 < b) :
    a.tdiv b - (if a.tmod b < 0 then 1 else 0) = a / b := by
  rw [Int.tdiv_eq_ediv, Int.tmod_eq_emod, Int.sign_eq_one_of_pos hb]
  have hnonneg := Int.emod_nonneg a hb.ne'
  have hlt := Int.emod_lt_of_pos a hb
  by_cases hexact : 0 ≤ a ∨ b ∣ a
  · rw [if_pos hexact, if_pos hexact, if_neg (by omega)]
    omega
  · rw [if_neg hexact, if_neg hexact, if_pos (by omega)]
    omega

/-- The quotient of a 64-bit integer is one. -/
theorem Fits.ediv {a b : Int} (h : Fits a) (hb : 0 < b) : Fits (a / b) := by
  obtain ⟨hle, hlt⟩ := h
  constructor
  · rw [Int.le_ediv_iff_mul_le hb]
    calc -2 ^ 63 * b ≤ -2 ^ 63 * 1 := Int.mul_le_mul_of_nonpos_left (by decide) (by omega)
      _ ≤ a := by omega
  · rw [Int.ediv_lt_iff_lt_mul hb]
    calc a < 2 ^ 63 * 1 := by omega
      _ ≤ 2 ^ 63 * b := Int.mul_le_mul_of_nonneg_left (by omega) (by decide)

/-- The floor division of the machine never overflows and is exact. -/
theorem floorDiv_eq_some {a b c : Int64} (hb : 0 < b.toInt) :
    sub? (a / b) (if a % b < 0 then 1 else 0) = some c ↔ c.toInt = a.toInt / b.toInt := by
  have hne : b ≠ -1 := by
    rintro rfl
    exact absurd hb (by decide)
  have hneg : a % b < 0 ↔ a.toInt.tmod b.toInt < 0 := by
    rw [Int64.lt_iff_toInt_lt, Int64.toInt_mod]
    rfl
  have hsign : (if a % b < 0 then (1 : Int64) else 0).toInt = if a.toInt.tmod b.toInt < 0 then 1 else 0 := by
    simp only [hneg]
    split <;> rfl
  rw [sub?_eq_some, hsign, Int64.toInt_div_of_ne_right a b hne, tdiv_sub_eq_ediv _ hb]

theorem exists_floorDiv (a : Int64) {b : Int64} (hb : 0 < b.toInt) :
    ∃ c, sub? (a / b) (if a % b < 0 then 1 else 0) = some c ∧ c.toInt = a.toInt / b.toInt := by
  have hfits := (fits_toInt a).ediv hb
  have htoInt := Int64.toInt_ofInt_of_le hfits.1 hfits.2
  exact ⟨_, (floorDiv_eq_some hb).2 htoInt, htoInt⟩

/-- A number is split into its quotient and its remainder where the multiple of the divisor below it fits. -/
theorem exists_floorSplit {a b : Int64} (hb : 0 < b.toInt) (h : Fits (a.toInt / b.toInt * b.toInt)) :
    ∃ q whole r, sub? (a / b) (if a % b < 0 then 1 else 0) = some q ∧ mul? q b = some whole ∧ sub? a whole = some r ∧
      q.toInt = a.toInt / b.toInt ∧ r.toInt = a.toInt % b.toInt := by
  obtain ⟨q, hq, hquotient⟩ := exists_floorDiv a hb
  obtain ⟨whole, hwhole, hmultiple⟩ := exists_mul? (a := q) (b := b) (by rwa [hquotient])
  have hsplit := Int.mul_ediv_add_emod a.toInt b.toInt
  have hremainder : a.toInt - whole.toInt = a.toInt % b.toInt := by
    rw [hmultiple, hquotient, Int.mul_comm]
    omega
  have hnonneg := Int.emod_nonneg a.toInt hb.ne'
  have hlt := Int.emod_lt_of_pos a.toInt hb
  have hbound := b.toInt_lt
  obtain ⟨r, hr, hdifference⟩ := exists_sub? (a := a) (b := whole) (by unfold Fits; omega)
  exact ⟨q, whole, r, hq, hwhole, hr, hquotient, hdifference.trans hremainder⟩

theorem fits_of_floorSplit {a b q whole : Int64} (hb : 0 < b.toInt)
    (hq : sub? (a / b) (if a % b < 0 then 1 else 0) = some q) (hwhole : mul? q b = some whole) :
    Fits (a.toInt / b.toInt * b.toInt) := by
  rw [← (floorDiv_eq_some hb).1 hq, ← mul?_eq_some.1 hwhole]
  exact fits_toInt whole

/-! ## Numbers of a quotient and a remainder -/

/-- Numbers of one base are ordered by their quotients, then by their remainders. -/
theorem lt_iff_lex {b q q' r r' : Int} (hr : 0 ≤ r ∧ r < b) (hr' : 0 ≤ r' ∧ r' < b) :
    q * b + r < q' * b + r' ↔ q < q' ∨ q = q' ∧ r < r' := by
  have hb : 0 < b := by omega
  rcases lt_trichotomy q q' with hlt | rfl | hgt
  · have hmul : (q + 1) * b ≤ q' * b := Int.mul_le_mul_of_nonneg_right hlt hb.le
    rw [Int.add_mul] at hmul
    constructor
    · intro _
      exact .inl hlt
    · intro _
      omega
  · omega
  · have hmul : (q' + 1) * b ≤ q * b := Int.mul_le_mul_of_nonneg_right hgt hb.le
    rw [Int.add_mul] at hmul
    constructor
    · intro _
      omega
    · rintro (h | ⟨h, -⟩) <;> omega

/-! ## Numbers of two limbs -/

/-- A signed limb shifted over an unsigned one is the two side by side. -/
theorem limbs_eq_append {w v : Nat} (upper : BitVec w) (lower : BitVec v) :
    (upper.signExtend (w + v) <<< v) ||| lower.setWidth (w + v) = upper ++ lower := by
  apply BitVec.eq_of_getLsbD_eq
  intro i hi
  rw [BitVec.getLsbD_or, BitVec.getLsbD_shiftLeft, BitVec.getLsbD_setWidth, BitVec.getLsbD_append,
    BitVec.getLsbD_signExtend]
  by_cases hlower : i < v
  · simp [hlower, hi]
  · have hbeyond : lower.getLsbD i = false := BitVec.getLsbD_of_ge lower i (by omega)
    rw [if_neg hlower, if_pos (by omega), hbeyond]
    simp [hlower, hi]
    omega

/-- Their number, for all bit patterns. -/
theorem toInt_limbs {w v : Nat} (hw : w ≠ 0) (upper : BitVec w) (lower : BitVec v) :
    ((upper.signExtend (w + v) <<< v) ||| lower.setWidth (w + v)).toInt = upper.toInt * 2 ^ v + lower.toNat := by
  rw [limbs_eq_append, BitVec.toInt_append, if_neg (by simpa using hw), Int.mul_comm]

/-- A number of 128 bits is the number of its limbs. -/
theorem limbs_ofInt {i : Int} (hle : -2 ^ 127 ≤ i) (hlt : i < 2 ^ 127) :
    (Int64.ofInt (i >>> (64 : Nat))).toInt * 2 ^ 64 + (UInt64.ofInt i).toNat = i := by
  have hupper : (Int64.ofInt (i >>> (64 : Nat))).toInt = i / 2 ^ 64 := by
    rw [Int.shiftRight_eq_div_pow]
    apply Int64.toInt_ofInt_of_le <;> omega
  have hlower : ((UInt64.ofInt i).toNat : Int) = i % 2 ^ 64 := by
    rw [UInt64.ofInt, UInt64.toNat_ofNat']
    omega
  rw [hupper, hlower]
  omega

/-! ## Sums below a limit -/

/-- A total with a value added: `none` for a negative value, and where the limit is reached. -/
def addBelow? (limit total : Nat) (value : Int) : Option Nat :=
  if 0 ≤ value ∧ total + value < limit then some (total + value).toNat else none

theorem addBelow?_eq_some {limit total total' : Nat} {value : Int} :
    addBelow? limit total value = some total' ↔ 0 ≤ value ∧ (total' : Int) = total + value ∧ total' < limit := by
  unfold addBelow?
  split
  · rw [Option.some_inj]
    omega
  · constructor
    · intro h
      cases h
    · intro h
      omega

/-- Adding value after value stops nowhere exactly if no value is negative and the sum is below the limit. -/
theorem foldlM_addBelow? {limit total : Nat} (h : total < limit) (values : List Int) {total' : Nat} :
    values.foldlM (addBelow? limit) total = some total' ↔
      (∀ value ∈ values, 0 ≤ value) ∧ (total' : Int) = total + values.sum ∧ total' < limit := by
  induction values generalizing total with
  | nil =>
    rw [List.foldlM_nil, List.sum_nil]
    constructor
    · rintro ⟨⟩
      exact ⟨nofun, by omega, h⟩
    · rintro ⟨-, heq, -⟩
      exact congrArg some (by omega)
  | cons value values ih =>
    rw [List.foldlM_cons, List.sum_cons, List.forall_mem_cons]
    constructor
    · intro hfold
      obtain ⟨next, hnext, hrest⟩ := Option.bind_eq_some_iff.1 hfold
      obtain ⟨hvalue, heq, hlt⟩ := addBelow?_eq_some.1 hnext
      obtain ⟨hnonneg, hsum, hlimit⟩ := (ih hlt).1 hrest
      exact ⟨⟨hvalue, hnonneg⟩, by omega, hlimit⟩
    · rintro ⟨⟨hvalue, hnonneg⟩, hsum, hlimit⟩
      -- the partial sum is below the limit since the rest adds to it
      have hrest : 0 ≤ values.sum := List.sum_nonneg hnonneg
      have hnext : addBelow? limit total value = some (total + value).toNat :=
        addBelow?_eq_some.2 ⟨hvalue, by omega, by omega⟩
      refine Option.bind_eq_some_iff.2 ⟨_, hnext, (ih (by omega)).2 ⟨hnonneg, ?_, hlimit⟩⟩
      omega

end Machine
