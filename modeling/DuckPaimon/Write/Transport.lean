/-
The worker bind and the commit envelope of a distributed write (paimon_distributed_insert.cpp):
their validation, their serialized forms, and that deserialization gives back what was serialized.
-/
import DuckPaimon.BinaryFormat
import DuckPaimon.Write.Identity

namespace DuckPaimon.Write

open Outcome

/-- `PAIMON_DISTRIBUTED_WRITE_PROTOCOL_VERSION`. -/
def protocolVersion : UInt32 := 3

theorem protocolVersion_ne_zero : protocolVersion ≠ 0 := by decide

/-- `PaimonDistributedWriteKind`, with the values a cast from a byte can give besides its own two. -/
inductive WriteKind
  | insert
  | ctas
  | other (value : UInt8)
  deriving DecidableEq, Repr

/-- `static_cast<PaimonDistributedWriteKind>`. -/
def WriteKind.ofUInt8 (value : UInt8) : WriteKind :=
  if value = 1 then .insert else if value = 2 then .ctas else .other value

/-- `static_cast<uint8_t>`. -/
def WriteKind.toUInt8 : WriteKind → UInt8
  | .insert => 1
  | .ctas => 2
  | .other value => value

/-- `WriteOperatorName`. -/
def writeOperatorName : WriteKind → Except Exception String
  | .insert => return "insert"
  | .ctas => return "ctas"
  | .other _ => throw (.serialization "Distributed Paimon write bind has an invalid write kind")

/-- The keys of `paimon::Options` the write path reads. -/
def manifestFormat : String := "manifest.format"
@[inherit_doc manifestFormat] def fileFormat : String := "file.format"
@[inherit_doc manifestFormat] def partitionDefaultName : String := "partition.default-name"
@[inherit_doc manifestFormat] def dataFilePrefix : String := "data-file.prefix"

/-- `IsPortableWriteOption`. -/
def isPortableWriteOption (key : String) : Bool := key == manifestFormat || key == fileFormat

/-- `GetPortableWriteOptions`. -/
def getPortableWriteOptions (options : StringMap) : StringMap :=
  [manifestFormat, fileFormat].foldl (fun result key =>
    match options.find? key with
    | some value => result.emplace key value
    | none => result) .empty

/-- The snapshot check of both validations: an id without a snapshot, or a snapshot without a
positive id. -/
def NonCanonicalSnapshot (hasSnapshot : Bool) (snapshotId : Int64) : Prop :=
  (hasSnapshot = false ∧ snapshotId ≠ 0) ∨ (hasSnapshot = true ∧ snapshotId ≤ 0)

instance (hasSnapshot : Bool) (snapshotId : Int64) : Decidable (NonCanonicalSnapshot hasSnapshot snapshotId) :=
  inferInstanceAs (Decidable (_ ∨ _))

/-- Both serializers write a canonical snapshot id as it is. -/
theorem snapshotId_of_canonical {hasSnapshot : Bool} {snapshotId : Int64}
    (h : ¬NonCanonicalSnapshot hasSnapshot snapshotId) : (if hasSnapshot then snapshotId else 0) = snapshotId := by
  cases hasSnapshot with
  | true => rfl
  | false =>
    by_contra hne
    exact h (.inl ⟨rfl, Ne.symm hne⟩)

/-! ## The worker bind -/

/-- `PaimonDistributedInsertTransport`: what the coordinator tells its workers. -/
structure InsertTransport where
  writeKind : WriteKind := .insert
  operationId : String
  databaseName : String
  tableName : String
  tableUuid : String
  tablePath : String
  schemaFingerprint : String
  schemaId : Int64 := -1
  appendOnly : Bool := false
  hasSnapshot : Bool := false
  snapshotId : Int64 := 0
  commitIdentifier : Int64 := 0
  inputTypes : List LogicalType
  inputNames : List String
  partKeys : List String
  nullPartName : String
  portableOptions : StringMap
  deriving DecidableEq

/-- The loop over the input fields: every field has a type and a fresh, non-empty name. -/
def validateInputFields (seen : List String) : List (LogicalType × String) → Except Exception (List String)
  | [] => return seen
  | (type, name) :: fields => do
    throwIf (type.id = .invalid ∨ name = "" ∨ name ∈ seen)
      (.serialization "Distributed Paimon INSERT bind has an invalid input schema")
    validateInputFields (name :: seen) fields

/-- The loop over the partition keys: every key is a field, and none occurs twice. -/
def validatePartKeys (fieldNames seen : List String) : List String → Except Exception Unit
  | [] => return ()
  | partKey :: partKeys => do
    throwIf (partKey = "" ∨ partKey ∉ fieldNames ∨ partKey ∈ seen)
      (.serialization "Distributed Paimon INSERT bind has an invalid partition key")
    validatePartKeys fieldNames (partKey :: seen) partKeys

/-- The loop over the portable options. -/
def validatePortableOptions : List (String × String) → Except Exception Unit
  | [] => return ()
  | (key, value) :: options => do
    throwIf (isPortableWriteOption key = false ∨ value = "")
      (.serialization ("Distributed Paimon INSERT bind contains non-portable option '" ++ key ++ "'"))
    validatePortableOptions options

/-- `ValidateTransport`. -/
def validateTransport (rt : Runtime) (transport : InsertTransport) : Except Exception Unit := do
  throwIf (isCanonicalUUID rt transport.operationId = false ∨ transport.databaseName = "" ∨
      transport.tableName = "" ∨ transport.tableUuid = "" ∨ transport.tablePath = "" ∨
      transport.schemaFingerprint.length ≠ 32 ∨ transport.schemaId < 0 ∨ transport.commitIdentifier ≤ 0 ∨
      transport.inputTypes = [] ∨ transport.inputTypes.length ≠ transport.inputNames.length ∨
      transport.nullPartName = "")
    (.serialization "Distributed Paimon write bind has incomplete target state")
  let _ ← writeOperatorName transport.writeKind
  throwIf (NonCanonicalSnapshot transport.hasSnapshot transport.snapshotId)
    (.serialization "Distributed Paimon INSERT bind has non-canonical snapshot state")
  let fieldNames ← validateInputFields [] (transport.inputTypes.zip transport.inputNames)
  validatePartKeys fieldNames [] transport.partKeys
  validatePortableOptions transport.portableOptions.entries

/-- An invalid bind is rejected as a serialization error. -/
theorem throws_validateTransport (rt : Runtime) (transport : InsertTransport) :
    Throws (fun e => ∃ text, e = .serialization text) (validateTransport rt transport) := by
  have hfields (fields : List (LogicalType × String)) (seen : List String) :
      Throws (fun e => ∃ text, e = Exception.serialization text) (validateInputFields seen fields) := by
    induction fields generalizing seen with
    | nil => exact throws_pure _
    | cons field fields ih => exact (throws_throwIf ⟨_, rfl⟩).bind fun _ => ih _
  have hkeys (fieldNames partKeys seen : List String) :
      Throws (fun e => ∃ text, e = Exception.serialization text) (validatePartKeys fieldNames seen partKeys) := by
    induction partKeys generalizing seen with
    | nil => exact throws_pure _
    | cons partKey partKeys ih => exact (throws_throwIf ⟨_, rfl⟩).bind fun _ => ih _
  have hoptions (options : List (String × String)) :
      Throws (fun e => ∃ text, e = Exception.serialization text) (validatePortableOptions options) := by
    induction options with
    | nil => exact throws_pure _
    | cons option options ih => exact (throws_throwIf ⟨_, rfl⟩).bind fun _ => ih
  have hkind : Throws (fun e => ∃ text, e = Exception.serialization text) (writeOperatorName transport.writeKind) := by
    cases transport.writeKind with
    | other value => exact throws_throw ⟨_, rfl⟩
    | _ => exact throws_pure _
  unfold validateTransport
  refine (throws_throwIf ⟨_, rfl⟩).bind fun _ => hkind.bind fun _ => (throws_throwIf ⟨_, rfl⟩).bind fun _ => ?_
  exact (hfields _ _).bind fun _ => (hkeys _ _ _).bind fun _ => hoptions _

/-- The writes of `SerializeTransport`. -/
def writeTransport (rt : Runtime) (transport : InsertTransport) : String :=
  rt.binary.object
    [rt.binary.write .uint32 1 "protocol_version" protocolVersion,
      rt.binary.write .string 2 "operation_id" transport.operationId,
      rt.binary.write .string 3 "database_name" transport.databaseName,
      rt.binary.write .string 4 "table_name" transport.tableName,
      rt.binary.write .string 5 "table_path" transport.tablePath,
      rt.binary.write .string 6 "schema_fingerprint" transport.schemaFingerprint,
      rt.binary.write .int64 7 "schema_id" transport.schemaId,
      rt.binary.write .bool 8 "has_snapshot" transport.hasSnapshot,
      rt.binary.write .int64 9 "snapshot_id" (if transport.hasSnapshot then transport.snapshotId else 0),
      rt.binary.write .int64 10 "commit_identifier" transport.commitIdentifier,
      rt.binary.write .types 11 "input_types" transport.inputTypes,
      rt.binary.write .strings 12 "input_names" transport.inputNames,
      rt.binary.write .strings 13 "part_keys" transport.partKeys,
      rt.binary.write .string 14 "null_part_name" transport.nullPartName,
      rt.binary.write .stringMap 15 "portable_options" transport.portableOptions,
      rt.binary.write .bool 16 "append_only" transport.appendOnly,
      rt.binary.write .string 17 "table_uuid" transport.tableUuid,
      rt.binary.write .uint8 18 "write_kind" transport.writeKind.toUInt8]

/-- `SerializeTransport`. -/
def serializeTransport (rt : Runtime) (transport : InsertTransport) : Except Exception String := do
  validateTransport rt transport
  return writeTransport rt transport

/-- The reads of `DeserializeTransport`. -/
def readTransport (rt : Runtime) : Deserializer InsertTransport := do
  let version : UInt32 ← rt.binary.readProperty .uint32 1 "protocol_version"
  if version ≠ protocolVersion then
    throw (.serialization ("Distributed Paimon INSERT bind has unsupported protocol version " ++ toString version))
  else
    let operationId ← rt.binary.readProperty .string 2 "operation_id"
    let databaseName ← rt.binary.readProperty .string 3 "database_name"
    let tableName ← rt.binary.readProperty .string 4 "table_name"
    let tablePath ← rt.binary.readProperty .string 5 "table_path"
    let schemaFingerprint ← rt.binary.readProperty .string 6 "schema_fingerprint"
    let schemaId ← rt.binary.readProperty .int64 7 "schema_id"
    let hasSnapshot ← rt.binary.readProperty .bool 8 "has_snapshot"
    let snapshotId ← rt.binary.readProperty .int64 9 "snapshot_id"
    let commitIdentifier ← rt.binary.readProperty .int64 10 "commit_identifier"
    let inputTypes ← rt.binary.readProperty .types 11 "input_types"
    let inputNames ← rt.binary.readProperty .strings 12 "input_names"
    let partKeys ← rt.binary.readProperty .strings 13 "part_keys"
    let nullPartName ← rt.binary.readProperty .string 14 "null_part_name"
    let portableOptions ← rt.binary.readProperty .stringMap 15 "portable_options"
    let appendOnly ← rt.binary.readProperty .bool 16 "append_only"
    let tableUuid ← rt.binary.readProperty .string 17 "table_uuid"
    let writeKind ← rt.binary.readProperty .uint8 18 "write_kind"
    rt.binary.finish
    return { writeKind := .ofUInt8 writeKind, operationId, databaseName, tableName, tableUuid, tablePath,
             schemaFingerprint, schemaId, appendOnly, hasSnapshot, snapshotId, commitIdentifier, inputTypes,
             inputNames, partKeys, nullPartName, portableOptions }

/-- `DeserializeTransport`. -/
def deserializeTransport (rt : Runtime) (bytes : String) : Except Exception InsertTransport := do
  throwIf (bytes = "") (.serialization "Cannot deserialize an empty distributed Paimon INSERT bind")
  let (result, _) ← (readTransport rt).run bytes
  validateTransport rt result
  return result

/-- A valid bind says `insert` or `ctas`. -/
theorem WriteKind.ofUInt8_toUInt8 {kind : WriteKind} {name : String} (h : writeOperatorName kind = .ok name) :
    ofUInt8 kind.toUInt8 = kind := by
  cases kind with
  | other => cases h
  | _ => rfl

/-- A valid bind without a snapshot has the snapshot id 0. -/
theorem validateTransport_ok {rt : Runtime} {transport : InsertTransport} (h : validateTransport rt transport = .ok ()) :
    WriteKind.ofUInt8 transport.writeKind.toUInt8 = transport.writeKind ∧
      (if transport.hasSnapshot then transport.snapshotId else 0) = transport.snapshotId := by
  unfold validateTransport at h
  obtain ⟨-, h⟩ := throwIf_bind_eq_ok.1 h
  obtain ⟨name, hname, h⟩ := bind_eq_ok.1 h
  obtain ⟨hsnapshot, -⟩ := throwIf_bind_eq_ok.1 h
  exact ⟨WriteKind.ofUInt8_toUInt8 hname, snapshotId_of_canonical hsnapshot⟩

theorem readTransport_writeTransport {rt : Runtime} (lawful : rt.binary.Lawful) {transport : InsertTransport}
    (hvalid : validateTransport rt transport = .ok ()) :
    (readTransport rt).run (writeTransport rt transport) = .ok (transport, "") := by
  obtain ⟨hkind, hsnapshot⟩ := validateTransport_ok hvalid
  unfold readTransport writeTransport
  rw [lawful.readProperty_bind, if_neg (by simp), hsnapshot]
  simp only [lawful.readProperty_bind, lawful.finish_bind, hkind]
  rfl

theorem deserializeTransport_serializeTransport {rt : Runtime} (lawful : rt.binary.Lawful)
    {transport : InsertTransport} {bytes : String} (h : serializeTransport rt transport = .ok bytes) :
    deserializeTransport rt bytes = .ok transport := by
  obtain ⟨⟨⟩, hvalid, h⟩ := bind_eq_ok.1 h
  cases pure_eq_ok.1 h
  unfold deserializeTransport
  rw [throwIf_bind_eq_ok, bind_eq_ok]
  refine ⟨lawful.object_cons_ne_empty _ _ protocolVersion_ne_zero _, _,
    readTransport_writeTransport lawful hvalid, ?_⟩
  dsimp only
  rw [hvalid]
  rfl

theorem serializeTransport_eq_ok {rt : Runtime} {transport : InsertTransport} {bytes : String} :
    serializeTransport rt transport = .ok bytes ↔
      validateTransport rt transport = .ok () ∧ bytes = writeTransport rt transport := by
  unfold serializeTransport
  rw [bind_eq_ok]
  constructor
  · rintro ⟨⟨⟩, hvalid, h⟩
    exact ⟨hvalid, (pure_eq_ok.1 h).symm⟩
  · rintro ⟨hvalid, rfl⟩
    exact ⟨(), hvalid, rfl⟩

/-- Equal bytes are those of equal binds. -/
theorem serializeTransport_inj {rt : Runtime} (lawful : rt.binary.Lawful) {transport transport' : InsertTransport}
    {bytes : String} (h : serializeTransport rt transport = .ok bytes) (h' : serializeTransport rt transport' = .ok bytes) :
    transport = transport' := by
  have hread := deserializeTransport_serializeTransport lawful h
  rw [deserializeTransport_serializeTransport lawful h', Except.ok.injEq] at hread
  exact hread.symm

theorem validateTransport_of_deserializeTransport {rt : Runtime} {transport : InsertTransport} {bytes : String}
    (h : deserializeTransport rt bytes = .ok transport) : validateTransport rt transport = .ok () := by
  unfold deserializeTransport at h
  obtain ⟨-, h⟩ := throwIf_bind_eq_ok.1 h
  obtain ⟨⟨result, rest⟩, -, h⟩ := bind_eq_ok.1 h
  obtain ⟨⟨⟩, hvalid, h⟩ := bind_eq_ok.1 h
  cases pure_eq_ok.1 h
  exact hvalid

/-! ## The commit envelope -/

/-- `PaimonDistributedCommitEnvelope`: what a worker returns of an attempt that wrote rows. -/
structure CommitEnvelope where
  operationId : String
  tableUuid : String
  tablePath : String
  schemaFingerprint : String
  schemaId : Int64 := -1
  hasSnapshot : Bool := false
  snapshotId : Int64 := 0
  commitIdentifier : Int64 := 0
  queryId : String
  taskAttemptId : String
  writerCommitUser : String
  commitMessageVersion : Int32 := 0
  messageCount : UInt64 := 0
  rowCount : UInt64 := 0
  serializedTransport : String
  serializedMessages : String
  deriving DecidableEq

/-- `SerializeCommitEnvelope`. -/
def serializeCommitEnvelope (rt : Runtime) (envelope : CommitEnvelope) : String :=
  rt.binary.object
    [rt.binary.write .uint32 1 "protocol_version" protocolVersion,
      rt.binary.write .string 2 "operation_id" envelope.operationId,
      rt.binary.write .string 3 "table_path" envelope.tablePath,
      rt.binary.write .string 4 "schema_fingerprint" envelope.schemaFingerprint,
      rt.binary.write .int64 5 "schema_id" envelope.schemaId,
      rt.binary.write .bool 6 "has_snapshot" envelope.hasSnapshot,
      rt.binary.write .int64 7 "snapshot_id" (if envelope.hasSnapshot then envelope.snapshotId else 0),
      rt.binary.write .int64 8 "commit_identifier" envelope.commitIdentifier,
      rt.binary.write .string 9 "query_id" envelope.queryId,
      rt.binary.write .string 10 "task_attempt_id" envelope.taskAttemptId,
      rt.binary.write .string 11 "writer_commit_user" envelope.writerCommitUser,
      rt.binary.write .int32 12 "commit_message_version" envelope.commitMessageVersion,
      rt.binary.write .uint64 13 "message_count" envelope.messageCount,
      rt.binary.write .uint64 14 "row_count" envelope.rowCount,
      rt.binary.write .string 15 "serialized_messages" envelope.serializedMessages,
      rt.binary.write .string 16 "table_uuid" envelope.tableUuid,
      rt.binary.write .string 17 "serialized_transport" envelope.serializedTransport]

/-- The reads of `DeserializeCommitEnvelope`. -/
def readCommitEnvelope (rt : Runtime) : Deserializer CommitEnvelope := do
  let version : UInt32 ← rt.binary.readProperty .uint32 1 "protocol_version"
  if version ≠ protocolVersion then
    throw (.serialization
      ("Distributed Paimon commit fragment has unsupported protocol version " ++ toString version))
  else
    let operationId ← rt.binary.readProperty .string 2 "operation_id"
    let tablePath ← rt.binary.readProperty .string 3 "table_path"
    let schemaFingerprint ← rt.binary.readProperty .string 4 "schema_fingerprint"
    let schemaId ← rt.binary.readProperty .int64 5 "schema_id"
    let hasSnapshot ← rt.binary.readProperty .bool 6 "has_snapshot"
    let snapshotId ← rt.binary.readProperty .int64 7 "snapshot_id"
    let commitIdentifier ← rt.binary.readProperty .int64 8 "commit_identifier"
    let queryId ← rt.binary.readProperty .string 9 "query_id"
    let taskAttemptId ← rt.binary.readProperty .string 10 "task_attempt_id"
    let writerCommitUser ← rt.binary.readProperty .string 11 "writer_commit_user"
    let commitMessageVersion ← rt.binary.readProperty .int32 12 "commit_message_version"
    let messageCount ← rt.binary.readProperty .uint64 13 "message_count"
    let rowCount ← rt.binary.readProperty .uint64 14 "row_count"
    let serializedMessages ← rt.binary.readProperty .string 15 "serialized_messages"
    let tableUuid ← rt.binary.readProperty .string 16 "table_uuid"
    let serializedTransport ← rt.binary.readProperty .string 17 "serialized_transport"
    rt.binary.finish
    return { operationId, tableUuid, tablePath, schemaFingerprint, schemaId, hasSnapshot, snapshotId,
             commitIdentifier, queryId, taskAttemptId, writerCommitUser, commitMessageVersion, messageCount,
             rowCount, serializedTransport, serializedMessages }

/-- The checks of `DeserializeCommitEnvelope` that an envelope fails. -/
def CommitEnvelope.Malformed (rt : Runtime) (envelope : CommitEnvelope) : Prop :=
  isCanonicalUUID rt envelope.operationId = false ∨ envelope.tableUuid = "" ∨ envelope.tablePath = "" ∨
    envelope.schemaFingerprint.length ≠ 32 ∨ envelope.schemaId < 0 ∨ envelope.commitIdentifier ≤ 0 ∨
    envelope.queryId = "" ∨ envelope.taskAttemptId = "" ∨ envelope.writerCommitUser = "" ∨
    envelope.commitMessageVersion ≤ 0 ∨ envelope.messageCount = 0 ∨ envelope.rowCount = 0 ∨
    envelope.serializedTransport = "" ∨ envelope.serializedMessages = "" ∨
    NonCanonicalSnapshot envelope.hasSnapshot envelope.snapshotId

instance (rt : Runtime) (envelope : CommitEnvelope) : Decidable (envelope.Malformed rt) :=
  inferInstanceAs (Decidable (_ ∨ _))

/-- `DeserializeCommitEnvelope`. -/
def deserializeCommitEnvelope (rt : Runtime) (bytes : String) : Except Exception CommitEnvelope := do
  throwIf (bytes = "") (.serialization "Cannot deserialize an empty distributed Paimon commit fragment")
  let (result, _) ← (readCommitEnvelope rt).run bytes
  throwIf (result.Malformed rt)
    (.serialization "Distributed Paimon commit fragment contains invalid identity or payload state")
  return result

/-- What a worker returns of an envelope: without a snapshot, the snapshot id is not transferred. -/
def CommitEnvelope.canonical (envelope : CommitEnvelope) : CommitEnvelope :=
  { envelope with snapshotId := if envelope.hasSnapshot then envelope.snapshotId else 0 }

theorem readCommitEnvelope_serializeCommitEnvelope {rt : Runtime} (lawful : rt.binary.Lawful)
    (envelope : CommitEnvelope) :
    (readCommitEnvelope rt).run (serializeCommitEnvelope rt envelope) = .ok (envelope.canonical, "") := by
  unfold readCommitEnvelope serializeCommitEnvelope
  rw [lawful.readProperty_bind, if_neg (by simp)]
  simp only [lawful.readProperty_bind, lawful.finish_bind]
  rfl

/-- Every envelope is read back in its canonical form, or rejected if that is malformed. -/
theorem deserializeCommitEnvelope_canonical {rt : Runtime} (lawful : rt.binary.Lawful) (envelope : CommitEnvelope) :
    deserializeCommitEnvelope rt (serializeCommitEnvelope rt envelope) =
      if envelope.canonical.Malformed rt then
        .error (.serialization "Distributed Paimon commit fragment contains invalid identity or payload state")
      else .ok envelope.canonical := by
  have hne : serializeCommitEnvelope rt envelope ≠ "" := lawful.object_cons_ne_empty _ _ protocolVersion_ne_zero _
  unfold deserializeCommitEnvelope
  rw [throwIf, if_neg hne, readCommitEnvelope_serializeCommitEnvelope lawful]
  by_cases hmalformed : envelope.canonical.Malformed rt
  · rw [if_pos hmalformed]
    show ((if envelope.canonical.Malformed rt then _ else _ : Except Exception Unit) >>= _) = _
    rw [if_pos hmalformed]
    rfl
  · rw [if_neg hmalformed]
    show ((if envelope.canonical.Malformed rt then _ else _ : Except Exception Unit) >>= _) = _
    rw [if_neg hmalformed]
    rfl

theorem deserializeCommitEnvelope_serializeCommitEnvelope {rt : Runtime} (lawful : rt.binary.Lawful)
    {envelope : CommitEnvelope} (h : ¬envelope.Malformed rt) :
    deserializeCommitEnvelope rt (serializeCommitEnvelope rt envelope) = .ok envelope := by
  have hcanonical : envelope.canonical = envelope := by
    have hsnapshot : (if envelope.hasSnapshot then envelope.snapshotId else 0) = envelope.snapshotId :=
      snapshotId_of_canonical fun hbad => h (by simp [CommitEnvelope.Malformed, hbad])
    rw [CommitEnvelope.canonical, hsnapshot]
  rw [deserializeCommitEnvelope_canonical lawful, hcanonical, if_neg h]

/-! ## Both codecs -/

/-- Valid binds are read back and told apart by their bytes, accepted bytes are those of a valid bind,
and an envelope is read back in its canonical form unless that is malformed. -/
theorem write_codecs_round_trip (rt : Runtime) (lawful : rt.binary.Lawful) :
    (∀ transport, validateTransport rt transport = .ok () →
      ∃ bytes, serializeTransport rt transport = .ok bytes ∧ deserializeTransport rt bytes = .ok transport) ∧
    (∀ transport transport', validateTransport rt transport = .ok () → validateTransport rt transport' = .ok () →
      (serializeTransport rt transport = serializeTransport rt transport' ↔ transport = transport')) ∧
    (∀ bytes transport, deserializeTransport rt bytes = .ok transport →
      validateTransport rt transport = .ok () ∧
        ∃ bytes', serializeTransport rt transport = .ok bytes' ∧ deserializeTransport rt bytes' = .ok transport) ∧
    ∀ envelope, deserializeCommitEnvelope rt (serializeCommitEnvelope rt envelope) =
      if envelope.canonical.Malformed rt then
        .error (.serialization "Distributed Paimon commit fragment contains invalid identity or payload state")
      else .ok envelope.canonical := by
  have hround (transport : InsertTransport) (hvalid : validateTransport rt transport = .ok ()) :
      ∃ bytes, serializeTransport rt transport = .ok bytes ∧ deserializeTransport rt bytes = .ok transport := by
    have hbytes := serializeTransport_eq_ok.2 ⟨hvalid, rfl⟩
    exact ⟨_, hbytes, deserializeTransport_serializeTransport lawful hbytes⟩
  refine ⟨hround, ?_, ?_, deserializeCommitEnvelope_canonical lawful⟩
  · intro transport transport' hvalid hvalid'
    constructor
    · intro hbytes
      have hok := serializeTransport_eq_ok.2 ⟨hvalid, rfl⟩
      exact serializeTransport_inj lawful hok (hbytes ▸ hok)
    · rintro rfl
      rfl
  · intro bytes transport hread
    have hvalid := validateTransport_of_deserializeTransport hread
    exact ⟨hvalid, hround transport hvalid⟩

/-- A bind of an INSERT into a table without a snapshot. -/
def InsertTransport.sample : InsertTransport where
  operationId := "00000000-0000-4000-8000-000000000000"
  databaseName := "db"
  tableName := "t"
  tableUuid := "u"
  tablePath := "/warehouse/db.db/t"
  schemaFingerprint := "0123456789abcdef0123456789abcdef"
  schemaId := 0
  commitIdentifier := 1
  inputTypes := [{ id := .integer }]
  inputNames := ["k"]
  partKeys := []
  nullPartName := "__DEFAULT_PARTITION__"
  portableOptions := .empty

/-- The bytes of the sample are read back, and are not those of the same bind of another schema. -/
theorem write_codecs_round_trip_sample :
    (∃ bytes, serializeTransport (.fixed "" 1 [InsertTransport.sample.operationId]) .sample = .ok bytes ∧
        deserializeTransport (.fixed "" 1 [InsertTransport.sample.operationId]) bytes = .ok .sample) ∧
      serializeTransport (.fixed "" 1 [InsertTransport.sample.operationId]) .sample ≠
        serializeTransport (.fixed "" 1 [InsertTransport.sample.operationId]) { InsertTransport.sample with schemaId := 1 } := by
  obtain ⟨hround, hinj, -, -⟩ :=
    write_codecs_round_trip (.fixed "" 1 [InsertTransport.sample.operationId]) binaryFormat_lawful
  refine ⟨hround .sample (by decide +kernel), fun h => ?_⟩
  have heq := (hinj _ _ (by decide +kernel) (by decide +kernel)).1 h
  exact absurd (congrArg InsertTransport.schemaId heq) (by decide)

end DuckPaimon.Write
