/-
A binary property format: a property is its field id and its value in a self-delimiting code, and
the field id 0xffff ends an object. It is lawful.
-/
import DuckPaimon.Lib.Code
import DuckPaimon.Runtime

namespace DuckPaimon

namespace LogicalTypeId

/-- The ids in the order of their numbers. -/
def all : List LogicalTypeId :=
  [.invalid, .boolean, .tinyint, .smallint, .integer, .bigint, .utinyint, .usmallint, .uinteger, .ubigint, .hugeint,
    .uhugeint, .float, .double, .varchar, .blob, .bit, .uuid, .date, .time, .timeTz, .timestamp, .timestampTz,
    .timestampMs, .timestampSec, .timestampNs, .interval, .decimal, .enum, .struct, .list, .map, .array, .union]

theorem all_getElem (id : LogicalTypeId) : all[all.idxOf id]? = some id := by
  cases id <;> rfl

end LogicalTypeId

namespace PropertyKind

/-- The code of a logical type. -/
def typeCode : Code LogicalType :=
  ((Code.nat.along LogicalTypeId.all.idxOf (LogicalTypeId.all[·]?) LogicalTypeId.all_getElem).pair
    (Code.nat.pair (Code.nat.pair Code.string))).along
      (fun type => (type.id, type.width, type.scale, type.info))
      (fun (id, width, scale, info) => some { id, width, scale, info }) fun _ => rfl

/-- The code of a map: its entries, which are read back only in order. -/
def mapCode : Code StringMap :=
  (Code.string.pair Code.string).list.along SortedMap.entries
    (fun entries => if h : entries.Pairwise (·.1 < ·.1) then some ⟨entries, h⟩ else none)
    fun map => dif_pos map.sorted

/-- The code of a property type. -/
def code : (kind : PropertyKind) → Code kind.Val
  | .uint8 => Code.nat.along UInt8.toNat (some <| UInt8.ofNat ·) fun v => by simp
  | .uint32 => Code.nat.along UInt32.toNat (some <| UInt32.ofNat ·) fun v => by simp
  | .uint64 => Code.nat.along UInt64.toNat (some <| UInt64.ofNat ·) fun v => by simp
  | .int32 => Code.nat.along (·.toUInt32.toNat) (fun n => some (UInt32.ofNat n).toInt32) fun v => by simp
  | .int64 => Code.nat.along (·.toUInt64.toNat) (fun n => some (UInt64.ofNat n).toInt64) fun v => by simp
  | .bool => Code.nat.along Bool.toNat (some <| · == 1) fun v => by cases v <;> rfl
  | .string => Code.string
  | .strings => Code.string.list
  | .types => typeCode.list
  | .stringMap => mapCode

end PropertyKind

/-- The field id behind the last property of an object. -/
def objectEnd : Nat := 0xffff

/-- The format. -/
def binaryFormat : BinaryFormat where
  write kind id _ v := String.ofList (Code.nat.write id ++ kind.code.write v)
  endMark := String.ofList (Code.nat.write objectEnd)
  read kind id name bytes :=
    match (Code.nat.pair kind.code).read bytes.toList with
    | some ((id', v), rest) =>
      if id' = id then .ok (v, String.ofList rest)
      else .error (.serialization ("Failed to deserialize: field id mismatch, expected: " ++ toString id ++ ", got: " ++
        toString id'))
    | none => .error (.serialization ("Failed to deserialize: no property " ++ name))
  readEnd bytes :=
    match Code.nat.read bytes.toList with
    | some (id, rest) =>
      if id = objectEnd then .ok (String.ofList rest)
      else .error (.serialization "Failed to deserialize: expected end of object")
    | none => .error (.serialization "Failed to deserialize: expected end of object")

theorem binaryFormat_lawful : binaryFormat.Lawful where
  read_write kind id name v rest := by
    show (match (Code.nat.pair kind.code).read (String.ofList ((Code.nat.pair kind.code).write (id, v)) ++ rest).toList with
      | some ((id', v), rest) => _
      | none => _) = _
    rw [String.toList_append, String.toList_ofList, Code.read_write]
    dsimp only
    rw [if_pos rfl, String.ofList_toList]
  readEnd_endMark rest := by
    show (match Code.nat.read (String.ofList (Code.nat.write objectEnd) ++ rest).toList with
      | some (id, rest) => _
      | none => _) = _
    rw [String.toList_append, String.toList_ofList, Code.read_write]
    dsimp only
    rw [if_pos rfl, String.ofList_toList]

/-- The start of an object property: its field id. -/
def binaryObjectStart : PropertyCodec.ObjectStart Exception where
  write id _ := String.ofList (Code.nat.write id)
  read id name bytes :=
    match Code.nat.read bytes.toList with
    | some (id', rest) =>
      if id' = id then .ok (String.ofList rest)
      else .error (.serialization ("Failed to deserialize: field id mismatch, expected: " ++ toString id ++ ", got: " ++
        toString id'))
    | none => .error (.serialization ("Failed to deserialize: no property " ++ name))

theorem binaryObjectStart_lawful : binaryObjectStart.Lawful := by
  intro id name rest
  show (match Code.nat.read (String.ofList (Code.nat.write id) ++ rest).toList with
    | some (id', rest) => _
    | none => _) = _
  rw [String.toList_append, String.toList_ofList, Code.read_write]
  dsimp only
  rw [if_pos rfl, String.ofList_toList]

/-- A runtime with this format, for one text to digest and to hash, that reads some UUIDs. -/
def Runtime.fixed (digest : String) (hash : UInt64) (uuids : List String) : Runtime where
  md5Hex _ := digest
  hash _ := hash
  uuidFromString value := uuids.contains value
  binary := binaryFormat

end DuckPaimon
