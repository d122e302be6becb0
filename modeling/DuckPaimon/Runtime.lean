/-
What the extension takes from DuckDB as it is: the digest and hash functions, the UUID parser and
the binary serialization format. `CheckedAdd` is the extension's own.
-/
import DuckPaimon.Lib.Outcome
import DuckPaimon.Lib.PropertyCodec
import DuckPaimon.Types

namespace DuckPaimon

/-! ## Serialized properties -/

/-- The types of the serialized properties. -/
inductive PropertyKind
  | uint8 | uint32 | uint64 | int32 | int64 | bool | string | strings | types | stringMap
  deriving DecidableEq, Repr

/-- The values of a property type. -/
abbrev PropertyKind.Val : PropertyKind → Type
  | .uint8 => UInt8
  | .uint32 => UInt32
  | .uint64 => UInt64
  | .int32 => Int32
  | .int64 => Int64
  | .bool => Bool
  | .string => String
  | .strings => List String
  | .types => List LogicalType
  | .stringMap => StringMap

/-- `BinarySerializer` and `BinaryDeserializer`. -/
abbrev BinaryFormat := PropertyCodec PropertyKind PropertyKind.Val Exception

/-- A `BinaryDeserializer` at a place in its stream. -/
abbrev Deserializer := StateT String (Except Exception)

/-- The functions of DuckDB the extension computes with. -/
structure Runtime where
  /-- The hexadecimal MD5 digest of the bytes added to an `MD5Context`. -/
  md5Hex : String → String
  /-- `Hash(data, size)`. -/
  hash : String → UInt64
  /-- Whether `UUID::FromString` parses a text strictly. -/
  uuidFromString : String → Bool
  binary : BinaryFormat

/-- `BaseUUID::STRING_SIZE`. -/
def uuidStringSize : Nat := 36

/-- `IsCanonicalUUID`. -/
def isCanonicalUUID (rt : Runtime) (value : String) : Bool :=
  value.length == uuidStringSize && rt.uuidFromString value

/-! ## Checked addition -/

/-- `NumericLimits<idx_t>::Maximum()`. -/
def idxMaximum : UInt64 := 18446744073709551615

/-- `CheckedAdd`: `right > Maximum() - left`, on numbers, since the subtraction does not wrap. -/
def checkedAdd (left right : UInt64) (description : String) : Except Exception UInt64 :=
  if right.toNat > idxMaximum.toNat - left.toNat then
    throw (.invalidInput ("Distributed Paimon INSERT " ++ description ++ " exceeds idx_t"))
  else
    return left + right

/-- The number of values of `idx_t`. -/
def idxLimit : Nat := 2 ^ 64

theorem toNat_lt_idxLimit (value : UInt64) : value.toNat < idxLimit := value.toNat_lt

theorem checkedAdd_guard (left right : UInt64) :
    right.toNat > idxMaximum.toNat - left.toNat ↔ idxLimit ≤ left.toNat + right.toNat := by
  have hmax : idxMaximum.toNat = 2 ^ 64 - 1 := rfl
  rw [hmax, idxLimit]
  have := left.toNat_lt
  omega

/-- A sum that was returned is the exact sum. -/
theorem checkedAdd_eq_ok {left right sum : UInt64} {description : String} :
    checkedAdd left right description = .ok sum ↔ sum.toNat = left.toNat + right.toNat := by
  unfold checkedAdd
  rw [Outcome.guard_eq_ok, checkedAdd_guard, Outcome.pure_eq_ok, idxLimit]
  have := sum.toNat_lt
  constructor
  · rintro ⟨hlt, rfl⟩
    rw [UInt64.toNat_add]
    omega
  · intro hsum
    refine ⟨by omega, ?_⟩
    rw [← UInt64.toNat_inj, UInt64.toNat_add, hsum]
    omega

/-- Sums below the limit are returned. -/
theorem checkedAdd_ok {left right : UInt64} (description : String) (h : left.toNat + right.toNat < idxLimit) :
    checkedAdd left right description = .ok (left + right) := by
  unfold checkedAdd
  rw [if_neg (mt (checkedAdd_guard left right).1 (Nat.not_le.2 h))]
  rfl

end DuckPaimon
