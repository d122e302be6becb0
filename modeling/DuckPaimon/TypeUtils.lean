/-
`PaimonTypeUtils` (paimon_type_utils.cpp): the Paimon field type of a DuckDB type and the Paimon
literal of a DuckDB constant.
-/
import DuckPaimon.Types

namespace DuckPaimon

/-- `Value::GetValue<T>` for the types `ConvertLiteral` asks for: the stored value, cast when the
constant has another type, which may throw. -/
structure ValueReader where
  getBool : Value → Except Exception Bool
  getInt8 : Value → Except Exception Int8
  getInt16 : Value → Except Exception Int16
  getInt32 : Value → Except Exception Int32
  getInt64 : Value → Except Exception Int64
  getFloat : Value → Except Exception UInt32
  getDouble : Value → Except Exception UInt64
  getString : Value → Except Exception String
  getTimestamp : Value → Except Exception Int64

/-- `PaimonTypeUtils::ConvertFieldType`. -/
def convertFieldType (type : LogicalType) : FieldType :=
  match type.id with
  | .boolean => .boolean
  | .tinyint => .tinyint
  | .smallint => .smallint
  | .integer => .int
  | .bigint => .bigint
  | .float => .float
  | .double => .double
  | .varchar => .string
  | .blob => .binary
  | .timestamp | .timestampTz | .timestampMs | .timestampSec | .timestampNs => .timestamp
  | .decimal => .decimal
  | .date => .date
  | _ => .unknown

/-- The milliseconds and the nanoseconds within them of a stored timestamp of type `id`: the
`switch` of the TIMESTAMP case, on wrapping machine integers. -/
def timestampParts (id : LogicalTypeId) (stored : Int64) : Int64 × Int32 :=
  match id with
  | .timestampMs => (stored, 0)
  | .timestampSec => (stored * 1000, 0)
  | .timestampNs =>
    let millis := stored / 1000000 - (if stored % 1000000 < 0 then 1 else 0)
    (millis, (stored - millis * 1000000).toInt32)
  | _ =>
    let millis := stored / 1000 - (if stored % 1000 < 0 then 1 else 0)
    (millis, ((stored - millis * 1000) * 1000).toInt32)

/-- The hugeint of a decimal's unscaled value, by its physical type. -/
def decimalHugeint (type : PhysicalType) (unscaled : Int) : Option Hugeint :=
  match type with
  | .int16 => some (.ofInt (Int16.ofInt unscaled).toInt)
  | .int32 => some (.ofInt (Int32.ofInt unscaled).toInt)
  | .int64 => some (.ofInt (Int64.ofInt unscaled).toInt)
  | .int128 => some (.ofInt unscaled)
  | .other => none

/-- `(int128_t(upper) << 64) | uint128_t(lower)`. -/
def assembleDecimal (h : Hugeint) : BitVec 128 :=
  (h.upper.toBitVec.signExtend 128 <<< 64) ||| h.lower.toBitVec.setWidth 128

/-- The stored integer of a value (`GetValueUnsafe`). -/
def Value.unsafeInt (v : Value) : Int :=
  match v.stored with
  | some (.int i) => i
  | _ => 0

/-- `PaimonTypeUtils::ConvertLiteral`: `none` where the C++ returns `nullopt`. -/
def convertLiteral (reader : ValueReader) (value : Value) (fieldType : FieldType) :
    Except Exception (Option Literal) :=
  if value.isNull then
    throw (.io "literal cannot be NULL")
  else
    match fieldType with
    | .boolean => return some (.boolean (← reader.getBool value))
    | .tinyint => return some (.tinyint (← reader.getInt8 value))
    | .smallint => return some (.smallint (← reader.getInt16 value))
    | .int => return some (.int (← reader.getInt32 value))
    | .bigint => return some (.bigint (← reader.getInt64 value))
    | .float => return some (.float (← reader.getFloat value))
    | .double => return some (.double (← reader.getDouble value))
    | .string => return some (.string (← reader.getString value))
    | .date => return some (.date (← reader.getInt32 value))
    | .timestamp => do
      let stored ← reader.getTimestamp value
      let (millis, nanoOfMillis) := timestampParts value.type.id stored
      return some (.timestamp millis nanoOfMillis)
    | .decimal =>
      if value.type.id ≠ .decimal then
        throw (.internal "decimal type expected")
      else
        match decimalHugeint value.type.internalType value.unsafeInt with
        | none => return none
        | some hugeint => return some (.decimal value.type.width value.type.scale (assembleDecimal hugeint))
    | .binary | .unknown => return none

end DuckPaimon
