/-
The values the extension passes around: exceptions by class and text, Paimon statuses, DuckDB
logical types and constants, Paimon field types and literals.
-/
import DuckPaimon.Lib.SortedMap
import Mathlib.Data.String.Basic

namespace DuckPaimon

/-- A thrown DuckDB exception: its class and its text. -/
inductive Exception
  | invalidInput (message : String)
  | internal (message : String)
  | serialization (message : String)
  | io (message : String)
  | transaction (message : String)
  | catalog (message : String)
  | notImplemented (message : String)
  | permission (message : String)
  | conversion (message : String)
  deriving DecidableEq, Repr

/-- A failed `paimon::Status`. -/
structure Status where
  isExist : Bool := false
  isNotExist : Bool := false
  text : String
  deriving DecidableEq, Repr

/-- `paimon::Result<T>`. -/
abbrev Result (α : Type) := Except Status α

/-- `throw IOException(result.status().ToString())` on a failed result. -/
def Result.orIO {α : Type} : Result α → Except Exception α
  | .ok a => .ok a
  | .error s => .error (.io s.text)

/-- `map<string, string>`. -/
abbrev StringMap := SortedMap String String

/-! ## DuckDB types and values -/

/-- `LogicalTypeId`. -/
inductive LogicalTypeId
  | invalid | boolean | tinyint | smallint | integer | bigint | utinyint | usmallint | uinteger
  | ubigint | hugeint | uhugeint | float | double | varchar | blob | bit | uuid | date | time | timeTz
  | timestamp | timestampTz | timestampMs | timestampSec | timestampNs | interval | decimal | enum
  | struct | list | map | array | union
  deriving DecidableEq, Repr

/-- `LogicalType`: its id, the width and scale of a decimal, and the rendering of whatever else
tells two types of one id apart (children, aliases). -/
structure LogicalType where
  id : LogicalTypeId
  width : Nat := 0
  scale : Nat := 0
  info : String := ""
  deriving DecidableEq, Repr

/-- What a non-NULL `Value` stores: integers of every width (days, timestamps and unscaled
decimals among them) by value, floating-point numbers by their bits. -/
inductive Stored
  | boolean (b : Bool)
  | int (i : Int)
  | float (bits : UInt64)
  | string (s : String)
  deriving DecidableEq, Repr

/-- `Value`: a constant of a type, NULL when nothing is stored. -/
structure Value where
  type : LogicalType
  stored : Option Stored
  deriving DecidableEq, Repr

/-- `Value::IsNull`. -/
def Value.isNull (v : Value) : Bool := v.stored.isNone

/-- The NULL of a type. -/
def Value.null (t : LogicalType) : Value := ⟨t, none⟩

/-- The BOOLEAN constant of a truth value, unknown being NULL. -/
def Value.ofTruth (b : Option Bool) : Value := ⟨{ id := .boolean }, b.map .boolean⟩

/-- The truth value of a BOOLEAN; NULL and values of other types are unknown. -/
def Value.truth (v : Value) : Option Bool :=
  match v.stored with
  | some (.boolean b) => some b
  | _ => none

@[simp] theorem Value.truth_ofTruth (b : Option Bool) : (Value.ofTruth b).truth = b := by
  cases b <;> rfl

/-- `PhysicalType` of a decimal. -/
inductive PhysicalType
  | int16 | int32 | int64 | int128 | other
  deriving DecidableEq, Repr

/-- `LogicalType::InternalType` where `ConvertLiteral` reads it: a decimal is stored in the
narrowest integer that holds its width. -/
def LogicalType.internalType (t : LogicalType) : PhysicalType :=
  if t.id ≠ .decimal then .other
  else if t.width ≤ 4 then .int16
  else if t.width ≤ 9 then .int32
  else if t.width ≤ 18 then .int64
  else if t.width ≤ 38 then .int128
  else .other

/-- `hugeint_t`: a 128-bit integer as a signed upper and an unsigned lower limb. -/
structure Hugeint where
  upper : Int64
  lower : UInt64
  deriving DecidableEq

/-- The hugeint of an integer (modulo `2 ^ 128`). -/
def Hugeint.ofInt (i : Int) : Hugeint :=
  ⟨Int64.ofInt (i >>> (64 : Nat)), UInt64.ofInt i⟩

/-! ## Paimon types and literals -/

/-- `paimon::FieldType`. -/
inductive FieldType
  | boolean | tinyint | smallint | int | bigint | float | double | string | binary | timestamp | decimal
  | date | unknown
  deriving DecidableEq, Repr

/-- `paimon::Literal`. -/
inductive Literal
  | boolean (b : Bool)
  | tinyint (i : Int8)
  | smallint (i : Int16)
  | int (i : Int32)
  | bigint (i : Int64)
  | float (bits : UInt32)
  | double (bits : UInt64)
  | string (s : String)
  | date (days : Int32)
  | timestamp (millis : Int64) (nanoOfMillis : Int32)
  | decimal (width scale : Nat) (unscaled : BitVec 128)
  deriving DecidableEq

end DuckPaimon
