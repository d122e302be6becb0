/-
Literals of timestamps and decimals (paimon_type_utils.cpp): a timestamp literal is the instant of
its constant wherever the conversion does not overflow, and a decimal literal keeps the unscaled
value of its constant.
-/
import DuckPaimon.Lib.Machine
import DuckPaimon.TypeUtils
import Mathlib.Algebra.Order.Field.Rat
import Mathlib.Data.Prod.Lex
import Mathlib.Tactic.Positivity

namespace DuckPaimon

open Machine

/-! ## Timestamps -/

/-- `timestampParts` with its products and differences checked: `none` where one overflows, which is
undefined in C++. A quotient or remainder by a positive constant does not. -/
def checkedTimestampParts (id : LogicalTypeId) (stored : Int64) : Option (Int64 × Int32) :=
  match id with
  | .timestampMs => some (stored, 0)
  | .timestampSec => do
    let millis ← mul? stored 1000
    return (millis, 0)
  | .timestampNs => do
    let millis ← sub? (stored / 1000000) (if stored % 1000000 < 0 then 1 else 0)
    let whole ← mul? millis 1000000
    let nanos ← sub? stored whole
    return (millis, nanos.toInt32)
  | _ => do
    let millis ← sub? (stored / 1000) (if stored % 1000 < 0 then 1 else 0)
    let whole ← mul? millis 1000
    let micros ← sub? stored whole
    let nanos ← mul? micros 1000
    return (millis, nanos.toInt32)

/-- The nanoseconds in the unit of a timestamp type. -/
def unitNanos : LogicalTypeId → Int
  | .timestampMs => 1000000
  | .timestampSec => 1000000000
  | .timestampNs => 1
  | _ => 1000

/-- The least and the greatest stored value that the conversion takes without an overflow. -/
def storedRange : LogicalTypeId → Int × Int
  | .timestampMs => (-2 ^ 63, 2 ^ 63 - 1)
  | .timestampSec => (-9223372036854775, 9223372036854775)
  | .timestampNs => (-9223372036854000000, 2 ^ 63 - 1)
  | _ => (-9223372036854775000, 2 ^ 63 - 1)

/-- The stored value is in that range. -/
def InStoredRange (id : LogicalTypeId) (stored : Int64) : Prop :=
  (storedRange id).1 ≤ stored.toInt ∧ stored.toInt ≤ (storedRange id).2

instance (id : LogicalTypeId) (stored : Int64) : Decidable (InStoredRange id stored) :=
  inferInstanceAs (Decidable (_ ∧ _))

/-- Milliseconds and the nanoseconds within them that are a number of units. -/
structure IsInstant (unit : Int) (stored : Int64) (parts : Int64 × Int32) : Prop where
  nonneg : 0 ≤ parts.2.toInt
  lt : parts.2.toInt < 1000000
  total : parts.1.toInt * 1000000 + parts.2.toInt = stored.toInt * unit

/-- What is computed without an overflow is what the wrapping machine computes. -/
theorem timestampParts_of_checked {id : LogicalTypeId} {stored : Int64} {parts : Int64 × Int32}
    (h : checkedTimestampParts id stored = some parts) : timestampParts id stored = parts := by
  unfold timestampParts
  split
  · exact Option.some_inj.1 h
  · obtain ⟨millis, hmillis, h⟩ := Option.bind_eq_some_iff.1 h
    rw [mul_of_mul? hmillis]
    exact Option.some_inj.1 h
  · obtain ⟨millis, hmillis, h⟩ := Option.bind_eq_some_iff.1 h
    obtain ⟨whole, hwhole, h⟩ := Option.bind_eq_some_iff.1 h
    obtain ⟨nanos, hnanos, h⟩ := Option.bind_eq_some_iff.1 h
    dsimp only
    rw [sub_of_sub? hmillis, mul_of_mul? hwhole, sub_of_sub? hnanos]
    exact Option.some_inj.1 h
  · rename_i hms hsec hns
    rw [checkedTimestampParts] at h
    · obtain ⟨millis, hmillis, h⟩ := Option.bind_eq_some_iff.1 h
      obtain ⟨whole, hwhole, h⟩ := Option.bind_eq_some_iff.1 h
      obtain ⟨micros, hmicros, h⟩ := Option.bind_eq_some_iff.1 h
      obtain ⟨nanos, hnanos, h⟩ := Option.bind_eq_some_iff.1 h
      dsimp only
      rw [sub_of_sub? hmillis, mul_of_mul? hwhole, sub_of_sub? hmicros, mul_of_mul? hnanos]
      exact Option.some_inj.1 h
    all_goals assumption

/-- Nanoseconds within a millisecond are narrowed without loss. -/
theorem isInstant_of_nanos {unit : Int} {stored millis nanos : Int64} (hnonneg : 0 ≤ nanos.toInt)
    (hlt : nanos.toInt < 1000000) (htotal : millis.toInt * 1000000 + nanos.toInt = stored.toInt * unit) :
    IsInstant unit stored (millis, nanos.toInt32) := by
  have hnarrow : nanos.toInt32.toInt = nanos.toInt := by
    rw [Int64.toInt_toInt32]
    apply Int.bmod_eq_of_le <;> omega
  constructor
  · rwa [hnarrow]
  · rwa [hnarrow]
  · rwa [hnarrow]

section Branches

variable {stored : Int64}

/-! The ranges say that the products of the conversion fit. -/

theorem inStoredRange_ms : InStoredRange .timestampMs stored :=
  ⟨stored.le_toInt, Int.le_sub_one_of_lt stored.toInt_lt⟩

theorem inStoredRange_sec : InStoredRange .timestampSec stored ↔ Fits (stored.toInt * (1000 : Int64).toInt) := by
  change -9223372036854775 ≤ stored.toInt ∧ stored.toInt ≤ 9223372036854775 ↔ Fits (stored.toInt * 1000)
  unfold Fits
  omega

theorem inStoredRange_ns :
    InStoredRange .timestampNs stored ↔ Fits (stored.toInt / (1000000 : Int64).toInt * (1000000 : Int64).toInt) := by
  change -9223372036854000000 ≤ stored.toInt ∧ stored.toInt ≤ 2 ^ 63 - 1 ↔ Fits (stored.toInt / 1000000 * 1000000)
  have hlt := stored.toInt_lt
  unfold Fits
  omega

theorem inStoredRange_micros :
    InStoredRange .timestamp stored ↔ Fits (stored.toInt / (1000 : Int64).toInt * (1000 : Int64).toInt) := by
  change -9223372036854775000 ≤ stored.toInt ∧ stored.toInt ≤ 2 ^ 63 - 1 ↔ Fits (stored.toInt / 1000 * 1000)
  have hlt := stored.toInt_lt
  unfold Fits
  omega

theorem checked_ms :
    ∃ parts, checkedTimestampParts .timestampMs stored = some parts ∧
      IsInstant (unitNanos .timestampMs) stored parts := by
  refine ⟨(stored, 0), rfl, ⟨Int.le_refl 0, ?_, Int.add_zero _⟩⟩
  change (0 : Int) < 1000000
  omega

theorem checked_sec (h : InStoredRange .timestampSec stored) :
    ∃ parts, checkedTimestampParts .timestampSec stored = some parts ∧
      IsInstant (unitNanos .timestampSec) stored parts := by
  obtain ⟨millis, hmillis, hproduct⟩ := exists_mul? (inStoredRange_sec.1 h)
  change millis.toInt = stored.toInt * 1000 at hproduct
  refine ⟨(millis, 0), Option.bind_eq_some_iff.2 ⟨millis, hmillis, rfl⟩, ⟨Int.le_refl 0, ?_, ?_⟩⟩
  · change (0 : Int) < 1000000
    omega
  · change millis.toInt * 1000000 + 0 = stored.toInt * 1000000000
    omega

theorem checked_ns (h : InStoredRange .timestampNs stored) :
    ∃ parts, checkedTimestampParts .timestampNs stored = some parts ∧
      IsInstant (unitNanos .timestampNs) stored parts := by
  obtain ⟨millis, whole, nanos, hmillis, hwhole, hnanos, hquotient, hremainder⟩ :=
    exists_floorSplit (by decide) (inStoredRange_ns.1 h)
  change millis.toInt = stored.toInt / 1000000 at hquotient
  change nanos.toInt = stored.toInt % 1000000 at hremainder
  refine ⟨(millis, nanos.toInt32), ?_, isInstant_of_nanos (by omega) (by omega) ?_⟩
  · exact Option.bind_eq_some_iff.2 ⟨millis, hmillis, Option.bind_eq_some_iff.2 ⟨whole, hwhole,
      Option.bind_eq_some_iff.2 ⟨nanos, hnanos, rfl⟩⟩⟩
  · change millis.toInt * 1000000 + nanos.toInt = stored.toInt * 1
    omega

/-- The default branch, which TIMESTAMP and TIMESTAMP_TZ take. -/
theorem checked_micros (h : InStoredRange .timestamp stored) :
    ∃ parts, checkedTimestampParts .timestamp stored = some parts ∧
      IsInstant (unitNanos .timestamp) stored parts := by
  obtain ⟨millis, whole, micros, hmillis, hwhole, hmicros, hquotient, hremainder⟩ :=
    exists_floorSplit (by decide) (inStoredRange_micros.1 h)
  change millis.toInt = stored.toInt / 1000 at hquotient
  change micros.toInt = stored.toInt % 1000 at hremainder
  -- fewer than 1000 microseconds are left, so the last product cannot overflow
  have hfits : Fits (micros.toInt * (1000 : Int64).toInt) := by
    change Fits (micros.toInt * 1000)
    unfold Fits
    omega
  obtain ⟨nanos, hnanos, hproduct⟩ := exists_mul? hfits
  change nanos.toInt = micros.toInt * 1000 at hproduct
  refine ⟨(millis, nanos.toInt32), ?_, isInstant_of_nanos (by omega) (by omega) ?_⟩
  · exact Option.bind_eq_some_iff.2 ⟨millis, hmillis, Option.bind_eq_some_iff.2 ⟨whole, hwhole,
      Option.bind_eq_some_iff.2 ⟨micros, hmicros, Option.bind_eq_some_iff.2 ⟨nanos, hnanos, rfl⟩⟩⟩⟩
  · change millis.toInt * 1000000 + nanos.toInt = stored.toInt * 1000
    omega

end Branches

/-- The types of the TIMESTAMP field type. -/
theorem id_of_timestamp {type : LogicalType} (h : convertFieldType type = .timestamp) :
    type.id = .timestamp ∨ type.id = .timestampTz ∨ type.id = .timestampMs ∨ type.id = .timestampSec ∨
      type.id = .timestampNs := by
  unfold convertFieldType at h
  split at h <;> simp_all

/-- In the range, the parts of a stored timestamp are computed without an overflow and are its instant. -/
theorem checkedTimestampParts_ok {type : LogicalType} (htype : convertFieldType type = .timestamp) {stored : Int64}
    (h : InStoredRange type.id stored) :
    ∃ parts, checkedTimestampParts type.id stored = some parts ∧ IsInstant (unitNanos type.id) stored parts := by
  rcases id_of_timestamp htype with hid | hid | hid | hid | hid <;> rw [hid] at h ⊢
  · exact checked_micros h
  · exact checked_micros h
  · exact checked_ms
  · exact checked_sec h
  · exact checked_ns h

/-- Outside the range, an operation overflows. -/
theorem inStoredRange_of_checked {type : LogicalType} (htype : convertFieldType type = .timestamp) {stored : Int64}
    {parts : Int64 × Int32} (h : checkedTimestampParts type.id stored = some parts) : InStoredRange type.id stored := by
  have hmicros : checkedTimestampParts .timestamp stored = some parts → InStoredRange .timestamp stored := by
    intro h
    obtain ⟨millis, hmillis, h⟩ := Option.bind_eq_some_iff.1 h
    obtain ⟨whole, hwhole, -⟩ := Option.bind_eq_some_iff.1 h
    exact inStoredRange_micros.2 (fits_of_floorSplit (by decide) hmillis hwhole)
  rcases id_of_timestamp htype with hid | hid | hid | hid | hid <;> rw [hid] at h ⊢
  · exact hmicros h
  · exact hmicros h
  · exact inStoredRange_ms
  · obtain ⟨millis, hmillis, -⟩ := Option.bind_eq_some_iff.1 h
    exact inStoredRange_sec.2 (mul?_eq_some.1 hmillis ▸ fits_toInt millis)
  · obtain ⟨millis, hmillis, h⟩ := Option.bind_eq_some_iff.1 h
    obtain ⟨whole, hwhole, -⟩ := Option.bind_eq_some_iff.1 h
    exact inStoredRange_ns.2 (fits_of_floorSplit (by decide) hmillis hwhole)

theorem unitNanos_pos (id : LogicalTypeId) : 0 < unitNanos id := by
  unfold unitNanos
  split <;> decide

section Order

variable {unit : Int} {stored stored' : Int64} {parts parts' : Int64 × Int32}

/-- Instants of one unit are ordered as the stored values, first by milliseconds. -/
theorem IsInstant.lt_iff (hunit : 0 < unit) (h : IsInstant unit stored parts) (h' : IsInstant unit stored' parts') :
    toLex parts < toLex parts' ↔ stored < stored' := by
  have hlex : parts.1.toInt * 1000000 + parts.2.toInt < parts'.1.toInt * 1000000 + parts'.2.toInt ↔
      parts.1.toInt < parts'.1.toInt ∨ parts.1.toInt = parts'.1.toInt ∧ parts.2.toInt < parts'.2.toInt :=
    lt_iff_lex ⟨h.nonneg, h.lt⟩ ⟨h'.nonneg, h'.lt⟩
  rw [h.total, h'.total, mul_lt_mul_iff_of_pos_right hunit] at hlex
  rw [Prod.Lex.toLex_lt_toLex, Int64.lt_iff_toInt_lt, Int64.lt_iff_toInt_lt, Int32.lt_iff_toInt_lt, ← Int64.toInt_inj]
  exact hlex.symm

theorem IsInstant.eq_iff (hunit : 0 < unit) (h : IsInstant unit stored parts) (h' : IsInstant unit stored' parts') :
    parts = parts' ↔ stored = stored' := by
  have htotal := h.total
  have htotal' := h'.total
  constructor
  · rintro rfl
    apply Int64.toInt_inj.1
    apply Int.eq_of_mul_eq_mul_right hunit.ne'
    rw [← htotal, ← htotal']
  · rintro rfl
    have hnonneg := h.nonneg
    have hlt := h.lt
    have hnonneg' := h'.nonneg
    have hlt' := h'.lt
    apply Prod.ext
    · apply Int64.toInt_inj.1
      omega
    · apply Int32.toInt_inj.1
      omega

end Order

/-! ## Timestamp literals -/

/-- A constant of a timestamp type, never NULL: the stored integer in the unit of the type. -/
structure TimestampConstant where
  type : LogicalType
  stored : Int64
  isTimestamp : convertFieldType type = .timestamp

/-- The constant as a value. -/
def TimestampConstant.value (c : TimestampConstant) : Value := ⟨c.type, some (.int c.stored.toInt)⟩

/-- `GetValue<timestamp_t>` returns the stored integer. -/
def ReadsTimestamps (reader : ValueReader) : Prop :=
  ∀ c : TimestampConstant, reader.getTimestamp c.value = .ok c.stored

theorem convertLiteral_timestamp {reader : ValueReader} (reads : ReadsTimestamps reader) (c : TimestampConstant) :
    convertLiteral reader c.value .timestamp =
      .ok (some (.timestamp (timestampParts c.type.id c.stored).1 (timestampParts c.type.id c.stored).2)) := by
  unfold convertLiteral
  rw [if_neg (by exact Bool.false_ne_true), reads c]
  rfl

/-- The literal of a constant is computed without an overflow and is its instant. -/
structure DenotesInstant (reader : ValueReader) (c : TimestampConstant) (parts : Int64 × Int32) : Prop where
  computed : checkedTimestampParts c.type.id c.stored = some parts
  literal : convertLiteral reader c.value .timestamp = .ok (some (.timestamp parts.1 parts.2))
  instant : IsInstant (unitNanos c.type.id) c.stored parts

theorem denotesInstant_iff {reader : ValueReader} (reads : ReadsTimestamps reader) (c : TimestampConstant) :
    (∃ parts, DenotesInstant reader c parts) ↔ InStoredRange c.type.id c.stored := by
  constructor
  · rintro ⟨parts, h⟩
    exact inStoredRange_of_checked c.isTimestamp h.computed
  · intro h
    obtain ⟨parts, hcomputed, hinstant⟩ := checkedTimestampParts_ok c.isTimestamp h
    refine ⟨parts, hcomputed, ?_, hinstant⟩
    rw [convertLiteral_timestamp reads, timestampParts_of_checked hcomputed]

/-- The literals of two constants of one type are computed without an overflow, are their instants
and are ordered as the constants exactly if both are in the range of the type. -/
theorem timestamp_literals_denote {reader : ValueReader} (reads : ReadsTimestamps reader) (c d : TimestampConstant)
    (htype : c.type.id = d.type.id) :
    (∃ parts parts', DenotesInstant reader c parts ∧ DenotesInstant reader d parts' ∧
        (toLex parts < toLex parts' ↔ c.stored < d.stored) ∧ (parts = parts' ↔ c.stored = d.stored)) ↔
      InStoredRange c.type.id c.stored ∧ InStoredRange d.type.id d.stored := by
  rw [← denotesInstant_iff reads c, ← denotesInstant_iff reads d]
  constructor
  · rintro ⟨parts, parts', h, h', -⟩
    exact ⟨⟨parts, h⟩, ⟨parts', h'⟩⟩
  · rintro ⟨⟨parts, h⟩, ⟨parts', h'⟩⟩
    have hinstant := h.instant
    rw [htype] at hinstant
    exact ⟨parts, parts', h, h', hinstant.lt_iff (unitNanos_pos _) h'.instant,
      hinstant.eq_iff (unitNanos_pos _) h'.instant⟩

namespace LiteralSample

/-- Reads the stored integer of timestamps, and nothing else. -/
def timestampReader : ValueReader where
  getBool _ := .error (.conversion "not a TIMESTAMP")
  getInt8 _ := .error (.conversion "not a TIMESTAMP")
  getInt16 _ := .error (.conversion "not a TIMESTAMP")
  getInt32 _ := .error (.conversion "not a TIMESTAMP")
  getInt64 _ := .error (.conversion "not a TIMESTAMP")
  getFloat _ := .error (.conversion "not a TIMESTAMP")
  getDouble _ := .error (.conversion "not a TIMESTAMP")
  getString _ := .error (.conversion "not a TIMESTAMP")
  getTimestamp v := match v.stored with
    | some (.int i) => .ok (Int64.ofInt i)
    | _ => .error (.conversion "not a TIMESTAMP")

theorem readsTimestamps_timestampReader : ReadsTimestamps timestampReader := by
  intro c
  change Except.ok (Int64.ofInt c.stored.toInt) = Except.ok c.stored
  rw [Int64.ofInt_toInt]

/-- `TIMESTAMP_S 'infinity'`. -/
def secondsInfinity : TimestampConstant := ⟨{ id := .timestampSec }, 9223372036854775807, rfl⟩

/-- `TIMESTAMP '-infinity'`, `TIMESTAMP 'infinity'`. -/
def microsNegInfinity : TimestampConstant := ⟨{ id := .timestamp }, -9223372036854775807, rfl⟩
@[inherit_doc microsNegInfinity]
def microsInfinity : TimestampConstant := ⟨{ id := .timestamp }, 9223372036854775807, rfl⟩

/-- A microsecond before 1970. -/
def microsBeforeEpoch : TimestampConstant := ⟨{ id := .timestamp }, -1, rfl⟩

theorem timestamp_literals_denote_beforeEpoch :
    ∃ parts parts', DenotesInstant timestampReader microsBeforeEpoch parts ∧
      DenotesInstant timestampReader microsInfinity parts' ∧
      (toLex parts < toLex parts' ↔ microsBeforeEpoch.stored < microsInfinity.stored) ∧
      (parts = parts' ↔ microsBeforeEpoch.stored = microsInfinity.stored) :=
  (timestamp_literals_denote readsTimestamps_timestampReader microsBeforeEpoch microsInfinity rfl).2
    ⟨by decide, by decide⟩

/-- The infinities overflow: where the machine wraps, that of seconds becomes the last second of
1969. -/
theorem timestamp_literals_overflow :
    ReadsTimestamps timestampReader ∧ (¬∃ parts, DenotesInstant timestampReader secondsInfinity parts) ∧
      convertLiteral timestampReader secondsInfinity.value .timestamp = .ok (some (.timestamp (-1000) 0)) ∧
      ¬∃ parts, DenotesInstant timestampReader microsNegInfinity parts := by
  refine ⟨readsTimestamps_timestampReader, ?_, ?_, ?_⟩
  · rw [denotesInstant_iff readsTimestamps_timestampReader]
    decide
  · rw [convertLiteral_timestamp readsTimestamps_timestampReader]
    rfl
  · rw [denotesInstant_iff readsTimestamps_timestampReader]
    decide

end LiteralSample

/-! ## Decimal literals -/

/-- The integers a physical type of decimals holds. -/
def PhysicalType.Represents : PhysicalType → Int → Prop
  | .int16, i => -2 ^ 15 ≤ i ∧ i < 2 ^ 15
  | .int32, i => -2 ^ 31 ≤ i ∧ i < 2 ^ 31
  | .int64, i => -2 ^ 63 ≤ i ∧ i < 2 ^ 63
  | .int128, i => -2 ^ 127 ≤ i ∧ i < 2 ^ 127
  | .other, _ => False

/-- A constant of a decimal type, never NULL: the unscaled value in the physical type. -/
structure DecimalConstant where
  type : LogicalType
  unscaled : Int
  represented : type.internalType.Represents unscaled

namespace DecimalConstant

/-- The constant as a value. -/
def value (c : DecimalConstant) : Value := ⟨c.type, some (.int c.unscaled)⟩

/-- The number the constant stands for. -/
def number (c : DecimalConstant) : ℚ := c.unscaled / 10 ^ c.type.scale

/-- Only decimals have a physical type here. -/
theorem id_eq (c : DecimalConstant) : c.type.id = .decimal := by
  by_contra hid
  have hrepresented := c.represented
  rw [LogicalType.internalType, if_pos hid] at hrepresented
  exact hrepresented

/-- Constants of one scale are ordered as their unscaled values. -/
theorem number_lt_iff {c d : DecimalConstant} (h : c.type.scale = d.type.scale) :
    c.number < d.number ↔ c.unscaled < d.unscaled := by
  have hpos : (0 : ℚ) < 10 ^ d.type.scale := by positivity
  rw [number, number, h, div_lt_div_iff_of_pos_right hpos]
  exact Int.cast_lt

theorem number_eq_iff {c d : DecimalConstant} (h : c.type.scale = d.type.scale) :
    c.number = d.number ↔ c.unscaled = d.unscaled := by
  have hne : (10 : ℚ) ^ d.type.scale ≠ 0 := by positivity
  rw [number, number, h, div_left_inj' hne]
  exact Int.cast_inj

end DecimalConstant

/-- The limbs are put together for all bit patterns. -/
theorem toInt_assembleDecimal (h : Hugeint) :
    (assembleDecimal h).toInt = h.upper.toInt * 2 ^ 64 + h.lower.toNat :=
  toInt_limbs (w := 64) (v := 64) (by decide) h.upper.toBitVec h.lower.toBitVec

theorem toInt_assembleDecimal_ofInt {i : Int} (hle : -2 ^ 127 ≤ i) (hlt : i < 2 ^ 127) :
    (assembleDecimal (.ofInt i)).toInt = i := by
  rw [toInt_assembleDecimal]
  exact limbs_ofInt hle hlt

/-- The narrower types are widened by their sign. -/
theorem decimalHugeint_eq {type : PhysicalType} {unscaled : Int} (h : type.Represents unscaled) :
    decimalHugeint type unscaled = some (.ofInt unscaled) := by
  cases type with
  | int16 => rw [decimalHugeint, Int16.toInt_ofInt_of_le h.1 h.2]
  | int32 => rw [decimalHugeint, Int32.toInt_ofInt_of_le h.1 h.2]
  | int64 => rw [decimalHugeint, Int64.toInt_ofInt_of_le h.1 h.2]
  | int128 => rfl
  | other => exact h.elim

theorem PhysicalType.Represents.bounds {type : PhysicalType} {i : Int} (h : type.Represents i) :
    -2 ^ 127 ≤ i ∧ i < 2 ^ 127 := by
  cases type with
  | other => exact h.elim
  | _ =>
    obtain ⟨hle, hlt⟩ := h
    omega

theorem convertLiteral_decimal (reader : ValueReader) (c : DecimalConstant) :
    ∃ raw, convertLiteral reader c.value .decimal = .ok (some (.decimal c.type.width c.type.scale raw)) ∧
      raw.toInt = c.unscaled := by
  obtain ⟨hle, hlt⟩ := c.represented.bounds
  refine ⟨assembleDecimal (.ofInt c.unscaled), ?_, toInt_assembleDecimal_ofInt hle hlt⟩
  have hhugeint : decimalHugeint c.value.type.internalType c.value.unsafeInt = some (.ofInt c.unscaled) :=
    decimalHugeint_eq c.represented
  have hid : ¬c.value.type.id ≠ .decimal := not_not.2 c.id_eq
  unfold convertLiteral
  rw [if_neg (by exact Bool.false_ne_true)]
  dsimp only
  rw [if_neg hid, hhugeint]
  rfl

/-- Decimal literals have the width and scale of the type and the unscaled value of the constant,
whatever the limbs it is put together from; literals of one scale are ordered as the numbers. -/
theorem decimal_literals_keep_values (reader : ValueReader) (c d : DecimalConstant) :
    (∀ h : Hugeint, (assembleDecimal h).toInt = h.upper.toInt * 2 ^ 64 + h.lower.toNat) ∧
    ∃ raw raw', convertLiteral reader c.value .decimal = .ok (some (.decimal c.type.width c.type.scale raw)) ∧
      convertLiteral reader d.value .decimal = .ok (some (.decimal d.type.width d.type.scale raw')) ∧
      raw.toInt = c.unscaled ∧ raw'.toInt = d.unscaled ∧
      (c.type.scale = d.type.scale →
        (raw.slt raw' = true ↔ c.number < d.number) ∧ (raw = raw' ↔ c.number = d.number)) := by
  obtain ⟨raw, hliteral, hraw⟩ := convertLiteral_decimal reader c
  obtain ⟨raw', hliteral', hraw'⟩ := convertLiteral_decimal reader d
  refine ⟨toInt_assembleDecimal, raw, raw', hliteral, hliteral', hraw, hraw', ?_⟩
  intro hscale
  constructor
  · rw [DecimalConstant.number_lt_iff hscale, BitVec.slt_iff_toInt_lt, hraw, hraw']
  · rw [DecimalConstant.number_eq_iff hscale, ← BitVec.toInt_inj, hraw, hraw']

namespace LiteralSample

/-- `-10 ^ 35` in two limbs and `-0.05` in 16 bits, of one scale. -/
def wideDecimal : DecimalConstant := ⟨{ id := .decimal, width := 38, scale := 2 }, -10 ^ 37, by decide, by decide⟩
@[inherit_doc wideDecimal]
def narrowDecimal : DecimalConstant := ⟨{ id := .decimal, width := 4, scale := 2 }, -5, by decide, by decide⟩

theorem decimal_literals_keep_values_wide :
    ∃ raw raw', convertLiteral timestampReader wideDecimal.value .decimal = .ok (some (.decimal 38 2 raw)) ∧
      convertLiteral timestampReader narrowDecimal.value .decimal = .ok (some (.decimal 4 2 raw')) ∧
      raw.toInt = -10 ^ 37 ∧ raw'.toInt = -5 ∧ (raw.slt raw' = true ↔ wideDecimal.number < narrowDecimal.number) ∧
      (raw = raw' ↔ wideDecimal.number = narrowDecimal.number) := by
  obtain ⟨-, raw, raw', hwide, hnarrow, hraw, hraw', horder⟩ :=
    decimal_literals_keep_values timestampReader wideDecimal narrowDecimal
  exact ⟨raw, raw', hwide, hnarrow, hraw, hraw', horder rfl⟩

end LiteralSample

end DuckPaimon
