/-
Distributed scans (paimon_distributed_scan.cpp): the coordinator plans the splits and packs each
into an envelope, the workers' bind is made from the coordinator's and travels as a portable
transport, and a worker takes the splits it is dealt.
-/
import DuckPaimon.Lib.Proc
import DuckPaimon.Runtime
import DuckPaimon.Scan.Predicate
import DuckPaimon.TablePath

namespace DuckPaimon.Scan

open Outcome

/-! ## Bind data -/

/-- `optional_idx`: invalid at the largest index. -/
structure OptionalIdx where
  index : UInt64 := idxMaximum
  deriving DecidableEq

/-- `optional_idx(index)`. -/
def OptionalIdx.ofIndex (index : UInt64) : Except Exception OptionalIdx := do
  throwIf (index = idxMaximum) (.internal "optional_idx cannot be initialized with an invalid index")
  return ⟨index⟩

/-- `IsValid`. -/
def OptionalIdx.isValid (o : OptionalIdx) : Bool := o.index != idxMaximum

/-- `DistributedScanSplit`: what the scheduler hands from the coordinator to a worker. -/
structure DistributedScanSplit where
  splitId : String
  payload : String
  estimatedCardinality : OptionalIdx := {}
  estimatedBytes : OptionalIdx := {}
  deriving DecidableEq

/-- `ArrowType`: the DuckDB type a column is decoded to, and how it is laid out. -/
structure ArrowType where
  type : LogicalType
  layout : String := ""
  deriving DecidableEq

/-- `ArrowTableSchema`: its columns are numbered from 0. -/
structure ArrowTableSchema where
  names : List String := []
  types : List LogicalType := []
  columns : List ArrowType := []
  deriving DecidableEq

/-- `PaimonDistributedScanPhase`. -/
inductive PaimonDistributedScanPhase
  | coordinator | distributedCoordinator | workerTemplate | workerAssigned
  deriving DecidableEq, Repr

/-- `PaimonDistributedScanState`. -/
structure PaimonDistributedScanState (Split : Type) where
  phase : PaimonDistributedScanPhase := .coordinator
  splitSetId : String := ""
  hasSnapshot : Bool := false
  snapshotId : Int64 := 0
  schemaId : Int64 := -1
  appendOnly : Bool := false
  returnTypes : List LogicalType := []
  returnNames : List String := []
  portableOptions : StringMap := .empty
  assignedSplits : List Split := []

/-- `PaimonScanBindData`. -/
structure PaimonScanBindData (Split : Type) where
  path : PaimonTablePath
  tableDataPath : String
  paimonOptions : StringMap
  arrowTable : ArrowTableSchema := {}
  predicates : Option Predicate := none
  partKeys : List String
  partFilters : List StringMap := []
  debugExpectedSplits : Option UInt64 := none
  tableSchemaJson : String
  distributed : PaimonDistributedScanState Split

/-- What the scan reads of a `paimon::DataFileMeta`. -/
structure DataFileMeta where
  fileSize : Int64
  rowCount : Int64

/-- Paimon's splits: `Split::Serialize`, `Split::Deserialize`, and the casts to a data split and to
an indexed split with the data split inside it, both as the files of the data split. -/
structure SplitLibrary (Split : Type) where
  serialize : Split → Result String
  deserialize : String → Result (Option Split)
  dataSplit : Split → Option (List DataFileMeta)
  indexedSplit : Split → Option (Option (List DataFileMeta))

/-! ## Split envelopes -/

/-- `PAIMON_DISTRIBUTED_SCAN_PROTOCOL_VERSION`. -/
def scanProtocolVersion : UInt32 := 1

theorem scanProtocolVersion_ne_zero : scanProtocolVersion ≠ 0 := by decide

/-- `PaimonDistributedSplitEnvelope`. -/
structure PaimonDistributedSplitEnvelope where
  splitSetId : String
  splitId : String
  hasSnapshot : Bool := false
  snapshotId : Int64 := 0
  schemaId : Int64 := -1
  paimonSplit : String
  hasEstimatedCardinality : Bool := false
  estimatedCardinality : UInt64 := 0
  hasEstimatedBytes : Bool := false
  estimatedBytes : UInt64 := 0
  deriving DecidableEq

/-- `IsCanonicalSplitId`. -/
def isCanonicalSplitId (splitId : String) : Bool :=
  match splitId.toList with
  | [] => false
  | first :: rest => if rest ≠ [] ∧ first = '0' then false else (first :: rest).all fun c => '0' ≤ c && c ≤ '9'

/-- `SerializeSplitEnvelope`. -/
def serializeSplitEnvelope (rt : Runtime) (envelope : PaimonDistributedSplitEnvelope) : String :=
  rt.binary.object
    [rt.binary.write .uint32 1 "protocol_version" scanProtocolVersion,
      rt.binary.write .string 2 "split_set_id" envelope.splitSetId,
      rt.binary.write .string 3 "split_id" envelope.splitId,
      rt.binary.write .bool 4 "has_snapshot" envelope.hasSnapshot,
      rt.binary.write .int64 5 "snapshot_id" (if envelope.hasSnapshot then envelope.snapshotId else 0),
      rt.binary.write .int64 6 "schema_id" envelope.schemaId,
      rt.binary.write .string 7 "paimon_split" envelope.paimonSplit,
      rt.binary.write .bool 8 "has_estimated_cardinality" envelope.hasEstimatedCardinality,
      rt.binary.write .uint64 9 "estimated_cardinality"
        (if envelope.hasEstimatedCardinality then envelope.estimatedCardinality else 0),
      rt.binary.write .bool 10 "has_estimated_bytes" envelope.hasEstimatedBytes,
      rt.binary.write .uint64 11 "estimated_bytes" (if envelope.hasEstimatedBytes then envelope.estimatedBytes else 0)]

/-- The reads of `DeserializeSplitEnvelope`. -/
def readSplitEnvelope (rt : Runtime) : Deserializer PaimonDistributedSplitEnvelope := do
  let version : UInt32 ← rt.binary.readProperty .uint32 1 "protocol_version"
  if version ≠ scanProtocolVersion then
    throw (.serialization ("Distributed Paimon scan split has unsupported protocol version " ++ toString version))
  else
    let splitSetId ← rt.binary.readProperty .string 2 "split_set_id"
    let splitId ← rt.binary.readProperty .string 3 "split_id"
    let hasSnapshot ← rt.binary.readProperty .bool 4 "has_snapshot"
    let snapshotId ← rt.binary.readProperty .int64 5 "snapshot_id"
    let schemaId ← rt.binary.readProperty .int64 6 "schema_id"
    let paimonSplit ← rt.binary.readProperty .string 7 "paimon_split"
    let hasEstimatedCardinality ← rt.binary.readProperty .bool 8 "has_estimated_cardinality"
    let estimatedCardinality ← rt.binary.readProperty .uint64 9 "estimated_cardinality"
    let hasEstimatedBytes ← rt.binary.readProperty .bool 10 "has_estimated_bytes"
    let estimatedBytes ← rt.binary.readProperty .uint64 11 "estimated_bytes"
    rt.binary.finish
    return { splitSetId, splitId, hasSnapshot, snapshotId, schemaId, paimonSplit, hasEstimatedCardinality,
             estimatedCardinality, hasEstimatedBytes, estimatedBytes }

namespace PaimonDistributedSplitEnvelope

/-- The first check of `DeserializeSplitEnvelope`, failed. -/
def Invalid (envelope : PaimonDistributedSplitEnvelope) : Prop :=
  envelope.splitSetId = "" ∨ isCanonicalSplitId envelope.splitId = false ∨ envelope.schemaId < 0 ∨
    (envelope.hasSnapshot = true ∧ envelope.snapshotId < 0) ∨ envelope.paimonSplit = "" ∨
    (envelope.hasEstimatedCardinality = true ∧ envelope.estimatedCardinality = idxMaximum) ∨
    (envelope.hasEstimatedBytes = true ∧ envelope.estimatedBytes = idxMaximum)

/-- The second check of `DeserializeSplitEnvelope`, failed. -/
def NonCanonical (envelope : PaimonDistributedSplitEnvelope) : Prop :=
  (envelope.hasSnapshot = false ∧ envelope.snapshotId ≠ 0) ∨
    (envelope.hasEstimatedCardinality = false ∧ envelope.estimatedCardinality ≠ 0) ∨
    (envelope.hasEstimatedBytes = false ∧ envelope.estimatedBytes ≠ 0)

instance (envelope : PaimonDistributedSplitEnvelope) : Decidable envelope.Invalid :=
  inferInstanceAs (Decidable (_ ∨ _))

instance (envelope : PaimonDistributedSplitEnvelope) : Decidable envelope.NonCanonical :=
  inferInstanceAs (Decidable (_ ∨ _))

/-- The envelope as it is written: what is absent is zero. -/
def canonical (envelope : PaimonDistributedSplitEnvelope) : PaimonDistributedSplitEnvelope :=
  { envelope with
    snapshotId := if envelope.hasSnapshot then envelope.snapshotId else 0
    estimatedCardinality := if envelope.hasEstimatedCardinality then envelope.estimatedCardinality else 0
    estimatedBytes := if envelope.hasEstimatedBytes then envelope.estimatedBytes else 0 }

end PaimonDistributedSplitEnvelope

/-- `DeserializeSplitEnvelope`. -/
def deserializeSplitEnvelope (rt : Runtime) (payload : String) : Except Exception PaimonDistributedSplitEnvelope := do
  throwIf (payload = "") (.serialization "Cannot deserialize an empty distributed Paimon scan split")
  let (result, _) ← (readSplitEnvelope rt).run payload
  throwIf result.Invalid (.serialization "Distributed Paimon scan split contains invalid identity or payload state")
  throwIf result.NonCanonical (.serialization "Distributed Paimon scan split contains non-canonical absent state")
  return result

theorem readSplitEnvelope_serializeSplitEnvelope {rt : Runtime} (lawful : rt.binary.Lawful)
    (envelope : PaimonDistributedSplitEnvelope) :
    (readSplitEnvelope rt).run (serializeSplitEnvelope rt envelope) = .ok (envelope.canonical, "") := by
  unfold readSplitEnvelope serializeSplitEnvelope
  rw [lawful.readProperty_bind, if_neg (by simp)]
  simp only [lawful.readProperty_bind, lawful.finish_bind]
  rfl

/-- A written envelope has no non-canonical absent state. -/
theorem PaimonDistributedSplitEnvelope.canonical_canonical (envelope : PaimonDistributedSplitEnvelope) :
    ¬envelope.canonical.NonCanonical := by
  unfold NonCanonical canonical
  rintro (⟨hno, hne⟩ | ⟨hno, hne⟩ | ⟨hno, hne⟩)
  all_goals
    dsimp only at hno hne
    simp [hno] at hne

theorem deserializeSplitEnvelope_serializeSplitEnvelope {rt : Runtime} (lawful : rt.binary.Lawful)
    {envelope : PaimonDistributedSplitEnvelope} (hvalid : ¬envelope.canonical.Invalid) :
    serializeSplitEnvelope rt envelope ≠ "" ∧
      deserializeSplitEnvelope rt (serializeSplitEnvelope rt envelope) = .ok envelope.canonical := by
  have hne : serializeSplitEnvelope rt envelope ≠ "" :=
    lawful.object_cons_ne_empty _ _ scanProtocolVersion_ne_zero _
  refine ⟨hne, ?_⟩
  unfold deserializeSplitEnvelope
  rw [throwIf_bind_eq_ok, bind_eq_ok]
  refine ⟨hne, _, readSplitEnvelope_serializeSplitEnvelope lawful envelope, ?_⟩
  dsimp only
  rw [throwIf_bind_eq_ok, throwIf_bind_eq_ok]
  exact ⟨hvalid, envelope.canonical_canonical, rfl⟩

/-! ## Estimates -/

/-- `TryAddEstimate`: the new total, or `none` for `false`. The subtraction does not wrap. -/
def tryAddEstimate (value : Int64) (total : UInt64) : Option UInt64 :=
  if value < 0 then none
  else if value.toUInt64 ≥ idxMaximum ∨ total ≥ idxMaximum - value.toUInt64 then none
  else some (total + value.toUInt64)

/-- An estimate that is built over the files: whether it is valid, and the total so far. -/
structure Estimate where
  valid : Bool
  total : UInt64 := 0

/-- `if (valid && !TryAddEstimate(value, total)) valid = false`. -/
def Estimate.add (estimate : Estimate) (value : Int64) : Estimate :=
  if estimate.valid then
    match tryAddEstimate value estimate.total with
    | some total => { estimate with total }
    | none => { estimate with valid := false }
  else estimate

/-- `PaimonDistributedSplitEstimates`. -/
structure PaimonDistributedSplitEstimates where
  hasCardinality : Bool := false
  cardinality : UInt64 := 0
  hasBytes : Bool := false
  bytes : UInt64 := 0

/-- `GetSplitEstimates`. -/
def getSplitEstimates {Split : Type} (lib : SplitLibrary Split) (split : Split) (appendOnly : Bool) :
    PaimonDistributedSplitEstimates :=
  let dataSplit := match lib.dataSplit split with
    | some files => some files
    | none => match lib.indexedSplit split with
      | some files => files
      | none => none
  match dataSplit with
  | none => {}
  | some files =>
    let bytes := files.foldl (fun (estimate : Estimate) file => estimate.add file.fileSize) ⟨true, 0⟩
    let cardinality := files.foldl (fun (estimate : Estimate) file => estimate.add file.rowCount) ⟨appendOnly, 0⟩
    -- an indexed split holds a part of the rows of its files
    { hasBytes := bytes.valid, bytes := bytes.total
      hasCardinality := cardinality.valid && (lib.indexedSplit split).isNone, cardinality := cardinality.total }

/-! ## Bind transport -/

/-- `PaimonDistributedBindTransport`. -/
structure PaimonDistributedBindTransport where
  path : PaimonTablePath
  tableDataPath : String
  tableSchemaJson : String
  schemaId : Int64 := -1
  appendOnly : Bool := false
  returnTypes : List LogicalType
  returnNames : List String
  partKeys : List String
  portableOptions : StringMap
  splitSetId : String

/-- The keys of `paimon::Options` that travel with a scan. -/
def scanManifestFormat : String := "manifest.format"
@[inherit_doc scanManifestFormat] def scanFileFormat : String := "file.format"
@[inherit_doc scanManifestFormat] def scanSnapshotId : String := "scan.snapshot-id"
@[inherit_doc scanManifestFormat] def scanTimestampMillis : String := "scan.timestamp-millis"

/-- `GetPortableOptions`. -/
def getPortableOptions (options : StringMap) : StringMap :=
  [scanManifestFormat, scanFileFormat, scanSnapshotId, scanTimestampMillis].foldl (fun result key =>
    match options.find? key with
    | some value => result.emplace key value
    | none => result) .empty

/-- `IsPortableOption`. -/
def isPortableOption (key : String) : Bool :=
  key == scanManifestFormat || key == scanFileFormat || key == scanSnapshotId || key == scanTimestampMillis

/-- The loop over the output columns. -/
def validateOutputSchema : List (LogicalType × String) → Except Exception Unit
  | [] => return ()
  | (type, name) :: columns => do
    throwIf (type.id = .invalid ∨ name = "")
      (.serialization "Distributed Paimon scan bind contains an invalid output schema")
    validateOutputSchema columns

/-- The loop over the partition keys: every key is an output column, and none occurs twice. -/
def validateScanPartKeys (outputNames seen : List String) : List String → Except Exception Unit
  | [] => return ()
  | partKey :: partKeys => do
    throwIf (partKey = "" ∨ partKey ∉ outputNames ∨ partKey ∈ seen)
      (.serialization "Distributed Paimon scan bind contains an invalid partition key")
    validateScanPartKeys outputNames (partKey :: seen) partKeys

/-- The loop over the portable options. -/
def validateScanOptions : List (String × String) → Except Exception Unit
  | [] => return ()
  | (key, value) :: options => do
    throwIf (isPortableOption key = false ∨ value = "")
      (.serialization ("Distributed Paimon scan bind contains non-portable option '" ++ key ++ "'"))
    validateScanOptions options

/-- `ValidateTransport`. -/
def PaimonDistributedBindTransport.validate (transport : PaimonDistributedBindTransport) : Except Exception Unit := do
  throwIf (transport.path.dbname = "" ∨ transport.path.tablename = "" ∨ transport.tableDataPath = "" ∨
      transport.tableSchemaJson = "" ∨ transport.schemaId < 0 ∨ transport.returnTypes = [] ∨
      transport.returnTypes.length ≠ transport.returnNames.length ∨ transport.splitSetId = "")
    (.serialization "Distributed Paimon scan bind has incomplete portable state")
  validateOutputSchema (transport.returnTypes.zip transport.returnNames)
  validateScanPartKeys transport.returnNames [] transport.partKeys
  validateScanOptions transport.portableOptions.entries
  throwIf ((transport.portableOptions.find? scanSnapshotId).isSome ∧
      (transport.portableOptions.find? scanTimestampMillis).isSome)
    (.serialization "Distributed Paimon scan bind contains conflicting snapshot options")

/-- `SerializeTransport`, with the end of its object. -/
def PaimonDistributedBindTransport.serialize (rt : Runtime) (transport : PaimonDistributedBindTransport) : String :=
  rt.binary.object
    [rt.binary.write .string 1 "warehouse" transport.path.warehouse,
      rt.binary.write .string 2 "database" transport.path.dbname,
      rt.binary.write .string 3 "table" transport.path.tablename,
      rt.binary.write .string 4 "table_data_path" transport.tableDataPath,
      rt.binary.write .string 5 "table_schema_json" transport.tableSchemaJson,
      rt.binary.write .int64 6 "schema_id" transport.schemaId,
      rt.binary.write .bool 7 "append_only" transport.appendOnly,
      rt.binary.write .types 8 "return_types" transport.returnTypes,
      rt.binary.write .strings 9 "return_names" transport.returnNames,
      rt.binary.write .stringMap 10 "portable_options" transport.portableOptions,
      rt.binary.write .string 11 "split_set_id" transport.splitSetId,
      rt.binary.write .strings 12 "part_keys" transport.partKeys]

/-- `DeserializeTransport`, with the end of its object. -/
def PaimonDistributedBindTransport.deserialize (rt : Runtime) : Deserializer PaimonDistributedBindTransport := do
  let warehouse ← rt.binary.readProperty .string 1 "warehouse"
  let dbname ← rt.binary.readProperty .string 2 "database"
  let tablename ← rt.binary.readProperty .string 3 "table"
  let tableDataPath ← rt.binary.readProperty .string 4 "table_data_path"
  let tableSchemaJson ← rt.binary.readProperty .string 5 "table_schema_json"
  let schemaId ← rt.binary.readProperty .int64 6 "schema_id"
  let appendOnly ← rt.binary.readProperty .bool 7 "append_only"
  let returnTypes ← rt.binary.readProperty .types 8 "return_types"
  let returnNames ← rt.binary.readProperty .strings 9 "return_names"
  let portableOptions ← rt.binary.readProperty .stringMap 10 "portable_options"
  let splitSetId ← rt.binary.readProperty .string 11 "split_set_id"
  let partKeys ← rt.binary.readProperty .strings 12 "part_keys"
  rt.binary.finish
  return { path := ⟨warehouse, dbname, tablename⟩, tableDataPath, tableSchemaJson, schemaId, appendOnly, returnTypes,
           returnNames, partKeys, portableOptions, splitSetId }

namespace PaimonScanBindData

variable {Split : Type}

/-- `GetTransportBase`, before its check. -/
def transportBase (bind : PaimonScanBindData Split) : PaimonDistributedBindTransport where
  path := bind.path
  tableDataPath := bind.tableDataPath
  tableSchemaJson := bind.tableSchemaJson
  schemaId := bind.distributed.schemaId
  appendOnly := bind.distributed.appendOnly
  returnTypes := bind.distributed.returnTypes
  returnNames := bind.distributed.returnNames
  partKeys := bind.partKeys
  portableOptions :=
    if bind.distributed.portableOptions.entries.isEmpty then getPortableOptions bind.paimonOptions
    else bind.distributed.portableOptions
  splitSetId := bind.distributed.splitSetId

/-- `GetTransportBase`. -/
def getTransportBase (bind : PaimonScanBindData Split) : Except Exception PaimonDistributedBindTransport := do
  bind.transportBase.validate
  return bind.transportBase

end PaimonScanBindData

/-- `PaimonDistributedBindKind`. -/
def bindKindCoordinator : UInt8 := 1
@[inherit_doc bindKindCoordinator] def bindKindWorker : UInt8 := 2

section Callbacks

variable {Split : Type} (rt : Runtime) (start : PropertyCodec.ObjectStart Exception) (lib : SplitLibrary Split)

/-- The bind kind and the transport `PaimonDistributedScanSerialize` writes for a phase. -/
def serializedState (bind : PaimonScanBindData Split) :
    Except Exception (UInt8 × PaimonDistributedBindTransport) := do
  match bind.distributed.phase with
  | .coordinator => return (bindKindCoordinator, ← bind.getTransportBase)
  | .distributedCoordinator => return (bindKindCoordinator, ← bind.getTransportBase)
  | .workerTemplate => return (bindKindWorker, ← bind.getTransportBase)
  | .workerAssigned =>
    throw (.serialization "Assigned distributed Paimon scan splits cannot enter a worker template")

/-- `PaimonDistributedScanSerialize`: the properties it writes into the object of the function. -/
def paimonDistributedScanSerialize (bindData : Option (PaimonScanBindData Split)) : Except Exception (List String) := do
  match bindData with
  | none => throw (.serialization "Cannot serialize empty distributed Paimon scan bind data")
  | some bind =>
    let (bindKind, transport) ← serializedState bind
    transport.validate
    return [rt.binary.write .uint8 1 "bind_kind" bindKind, start.write 2 "scan_bind" ++ transport.serialize rt]

/-- The bind data of a transport, with the options of the host for its data path. -/
def PaimonDistributedBindTransport.bindData (transport : PaimonDistributedBindTransport) (bindKind : UInt8)
    (options : StringMap) : PaimonScanBindData Split where
  path := transport.path
  tableDataPath := transport.tableDataPath
  paimonOptions := transport.portableOptions.entries.foldl (fun options option => options.insert option.1 option.2) options
  partKeys := transport.partKeys
  tableSchemaJson := transport.tableSchemaJson
  distributed :=
    { phase := if bindKind = bindKindCoordinator then .distributedCoordinator else .workerTemplate
      splitSetId := transport.splitSetId, schemaId := transport.schemaId, appendOnly := transport.appendOnly
      returnTypes := transport.returnTypes, returnNames := transport.returnNames
      portableOptions := transport.portableOptions }

/-- `PaimonDistributedScanDeserialize`, with `GetPaimonOptions` of the host for a data path. -/
def paimonDistributedScanDeserialize (getPaimonOptions : String → Except Exception StringMap) :
    Deserializer (PaimonScanBindData Split) := do
  let bindKind : UInt8 ← rt.binary.readProperty .uint8 1 "bind_kind"
  if bindKind ≠ bindKindCoordinator ∧ bindKind ≠ bindKindWorker then
    throw (.serialization ("Distributed Paimon scan bind has invalid kind " ++ toString bindKind))
  else
    PropertyCodec.readObjectStart start 2 "scan_bind"
    let transport ← PaimonDistributedBindTransport.deserialize rt
    transport.validate
    let options ← getPaimonOptions transport.tableDataPath
    return transport.bindData bindKind options

/-- `paimon::Plan`: splits behind pointers, and the snapshot they are of. -/
structure ScanPlan (Split : Type) where
  snapshotId : Option Int64
  splits : List (Option Split)

/-- `RequireDistributedScanBindData`. -/
def requireDistributedScanBindData (bindData : Option (PaimonScanBindData Split)) :
    Except Exception (PaimonScanBindData Split) :=
  match bindData with
  | none => throw (.invalidInput "Distributed Paimon scan requires table-function bind data")
  | some bind => return bind

/-- The envelope of a planned split. -/
def plannedEnvelope (bind : PaimonScanBindData Split) (snapshotId : Option Int64) (index : Nat) (split : Split)
    (paimonSplit : String) : PaimonDistributedSplitEnvelope :=
  let estimates := getSplitEstimates lib split bind.distributed.appendOnly
  { splitSetId := bind.distributed.splitSetId
    splitId := toString index
    hasSnapshot := snapshotId.isSome
    snapshotId := snapshotId.getD 0
    schemaId := bind.distributed.schemaId
    paimonSplit
    hasEstimatedCardinality := estimates.hasCardinality
    estimatedCardinality := estimates.cardinality
    hasEstimatedBytes := estimates.hasBytes
    estimatedBytes := estimates.bytes }

/-- The optional index of an estimate. -/
def estimateIdx (has : Bool) (estimate : UInt64) : Except Exception OptionalIdx :=
  if has then OptionalIdx.ofIndex estimate else return {}

/-- The loop over the planned splits, from an index. -/
def planSplits (bind : PaimonScanBindData Split) (snapshotId : Option Int64) :
    Nat → List (Option Split) → Except Exception (List DistributedScanSplit)
  | _, [] => return []
  | _, none :: _ => throw (.invalidInput "Distributed Paimon scan planned an empty split")
  | index, some paimonSplit :: splits => do
    match lib.serialize paimonSplit with
    | .error status => throw (.invalidInput ("Failed to serialize distributed Paimon split: " ++ status.text))
    | .ok bytes =>
      let envelope := plannedEnvelope lib bind snapshotId index paimonSplit bytes
      let estimatedCardinality ← estimateIdx envelope.hasEstimatedCardinality envelope.estimatedCardinality
      let estimatedBytes ← estimateIdx envelope.hasEstimatedBytes envelope.estimatedBytes
      let rest ← planSplits bind snapshotId (index + 1) splits
      return ⟨envelope.splitId, serializeSplitEnvelope rt envelope, estimatedCardinality, estimatedBytes⟩ :: rest

/-- `PaimonPlanDistributedScanSplits`, from what `PaimonCreateDistributedScanPlan` makes of the
bind. -/
def paimonPlanDistributedScanSplits
    (createPlan : PaimonScanBindData Split → Except Exception (Option (ScanPlan Split)))
    (bindData : Option (PaimonScanBindData Split)) : Except Exception (List DistributedScanSplit) := do
  let bind ← requireDistributedScanBindData bindData
  throwIf (bind.distributed.phase ≠ .distributedCoordinator ∨ bind.distributed.splitSetId = "")
    (.invalidInput "Distributed Paimon split planning requires a coordinator bind")
  match ← createPlan bind with
  | none => throw (.invalidInput "Distributed Paimon scan planning returned an empty plan")
  | some plan =>
    throwIf (plan.snapshotId = none ∧ plan.splits ≠ [])
      (.invalidInput "Distributed Paimon scan returned splits without a snapshot identity")
    planSplits rt lib bind plan.snapshotId 0 plan.splits

/-- `PaimonCreateDistributedWorkerBind`. -/
def paimonCreateDistributedWorkerBind (bindData : Option (PaimonScanBindData Split)) :
    Except Exception (PaimonScanBindData Split) := do
  let source ← requireDistributedScanBindData bindData
  throwIf (source.distributed.phase ≠ .distributedCoordinator ∨ source.distributed.splitSetId = "")
    (.invalidInput "Distributed Paimon worker bind requires a coordinator bind")
  return {
    path := source.path
    tableDataPath := source.tableDataPath
    tableSchemaJson := source.tableSchemaJson
    paimonOptions := source.distributed.portableOptions
    partKeys := source.partKeys
    distributed :=
      { phase := .workerTemplate, splitSetId := source.distributed.splitSetId
        schemaId := source.distributed.schemaId, appendOnly := source.distributed.appendOnly
        returnTypes := source.distributed.returnTypes, returnNames := source.distributed.returnNames
        portableOptions := source.distributed.portableOptions } }

/-- `InitializePaimonDistributedScanBind`, with the UUID it generates. -/
def initializePaimonDistributedScanBind (uuid : String) (bind : PaimonScanBindData Split) :
    Except Exception (PaimonScanBindData Split) := do
  throwIf (bind.distributed.splitSetId ≠ "")
    (.internal "Distributed Paimon scan bind already has a split-set identity")
  return { bind with distributed := { bind.distributed with splitSetId := uuid } }

end Callbacks

/-! ## Assignment -/

/-- What `PaimonApplyDistributedScanSplits` has taken of the splits so far. -/
structure Assignment (Split : Type) where
  splitIds : List String := []
  assignedSplits : List Split := []
  hasSnapshot : Bool := false
  snapshotId : Int64 := 0

/-- `ValidateEnvelopeIdentity`. -/
def validateEnvelopeIdentity {Split : Type} (envelope : PaimonDistributedSplitEnvelope)
    (state : PaimonDistributedScanState Split) : Except Exception Unit :=
  throwIf (envelope.splitSetId ≠ state.splitSetId ∨ envelope.schemaId ≠ state.schemaId)
    (.serialization "Distributed Paimon scan split does not match its worker bind identity")

/-- The comparison of a split with its envelope, failed. The index of an estimate is got only once
it is known to be valid. -/
def MetadataMismatch (envelope : PaimonDistributedSplitEnvelope) (split : DistributedScanSplit) : Prop :=
  envelope.splitId ≠ split.splitId ∨ envelope.hasEstimatedCardinality ≠ split.estimatedCardinality.isValid ∨
    envelope.hasEstimatedBytes ≠ split.estimatedBytes.isValid ∨
    (envelope.hasEstimatedCardinality = true ∧ envelope.estimatedCardinality ≠ split.estimatedCardinality.index) ∨
    (envelope.hasEstimatedBytes = true ∧ envelope.estimatedBytes ≠ split.estimatedBytes.index)

instance (envelope : PaimonDistributedSplitEnvelope) (split : DistributedScanSplit) :
    Decidable (MetadataMismatch envelope split) :=
  inferInstanceAs (Decidable (_ ∨ _))

/-- A procedure on the bind data of a worker. -/
abbrev WorkerBind (Split α : Type) := Proc Exception Empty (PaimonScanBindData Split) α

section Apply

variable {Split : Type} (rt : Runtime) (lib : SplitLibrary Split)

/-- The body of the loop over the splits. -/
def assignSplit (taken : Assignment Split) (split : DistributedScanSplit) : WorkerBind Split (Assignment Split) := do
  throwIf (isCanonicalSplitId split.splitId = false ∨ split.payload = "" ∨ split.splitId ∈ taken.splitIds)
    (.invalidInput ("Invalid or duplicate distributed Paimon scan split '" ++ split.splitId ++ "'"))
  let envelope ← Proc.ofExcept (deserializeSplitEnvelope rt split.payload)
  let bind ← Proc.get
  Proc.ofExcept (validateEnvelopeIdentity envelope bind.distributed)
  throwIf (envelope.hasSnapshot = false) (.invalidInput "Distributed Paimon scan split has no snapshot identity")
  throwIf (taken.hasSnapshot = true ∧ envelope.snapshotId ≠ taken.snapshotId)
    (.invalidInput "Distributed Paimon scan splits have inconsistent snapshot identities")
  throwIf (MetadataMismatch envelope split)
    (.invalidInput "Distributed Paimon scan split metadata does not match its payload")
  match lib.deserialize envelope.paimonSplit with
  | .error status => throw (.invalidInput ("Failed to deserialize distributed Paimon split: " ++ status.text))
  | .ok none => throw (.invalidInput "Distributed Paimon split deserialization returned an empty split")
  | .ok (some paimonSplit) =>
    pure ⟨split.splitId :: taken.splitIds, taken.assignedSplits ++ [paimonSplit], true, envelope.snapshotId⟩

/-- The loop over the splits. -/
def assignSplits (taken : Assignment Split) : List DistributedScanSplit → WorkerBind Split (Assignment Split)
  | [] => pure taken
  | split :: splits => do
    let taken ← assignSplit rt lib taken split
    assignSplits taken splits

/-- `PaimonApplyDistributedScanSplits` on the bind data of a worker. -/
def applySplits (splits : List DistributedScanSplit) : WorkerBind Split Unit := do
  let bind ← Proc.get
  throwIf (bind.distributed.phase ≠ .workerTemplate)
    (.invalidInput "Distributed Paimon scan splits require an unassigned worker bind")
  let taken ← assignSplits rt lib {} splits
  Proc.modify fun bind =>
    { bind with distributed := { bind.distributed with
        assignedSplits := taken.assignedSplits, hasSnapshot := taken.hasSnapshot, snapshotId := taken.snapshotId
        phase := .workerAssigned } }

/-- `PaimonApplyDistributedScanSplits`: how it ends and the bind data after it. -/
def paimonApplyDistributedScanSplits (workerBindData : Option (PaimonScanBindData Split))
    (splits : List DistributedScanSplit) : Except Exception Unit × Option (PaimonScanBindData Split) :=
  match workerBindData with
  | none => (.error (.invalidInput "Distributed Paimon scan requires worker bind data"), none)
  | some bind => ((applySplits rt lib splits).run bind |>.1, some ((applySplits rt lib splits).run bind).2.1)

end Apply

end DuckPaimon.Scan
