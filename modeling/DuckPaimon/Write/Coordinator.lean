/-
`PhysicalPaimonInsert` as the coordinator of a distributed write (paimon_distributed_insert.cpp):
its state and the calls Vane makes on it. A call is a procedure over that state; what it asks of the
catalog, of Paimon and of Vane comes in as replies, and what it does there is reported as events.

The calls are composed of the parts between two acquisitions of the catalog mutation mutex, so that
each part can be taken as one step of the process.
-/
import DuckPaimon.Write.Decode
import DuckPaimon.Write.Target

namespace DuckPaimon.Write

open Outcome

/-! ## The operator -/

/-- `AccessMode` of an attached catalog. -/
inductive AccessMode
  | automatic | readOnly | readWrite
  deriving DecidableEq, Repr

/-- `DistributedExtensionWritePlan`. -/
structure ExtensionWritePlan where
  extensionName : String := ""
  operatorName : String := ""
  workerBindData : String := ""
  deriving DecidableEq, Repr

/-- `PhysicalPaimonInsert`: what the planner gave it, and its distributed state. -/
structure PhysicalPaimonInsert where
  /-- The access mode of the catalog of `schema`, which may be null. -/
  schema : Option AccessMode
  /-- The table to create, for CREATE TABLE AS. -/
  info : Option CreateTableInfo
  tableIdentifier : Identifier
  paimonOptions : StringMap
  partKeys : List String
  /-- The types of each child. -/
  children : List (List LogicalType)
  distributedContext : Bool := false
  distributedWritePlan : ExtensionWritePlan := {}
  distributedOperationId : String := ""
  distributedTableUuid : String := ""
  distributedTablePath : String := ""
  distributedSchemaFingerprint : String := ""
  distributedTableSchemaJson : String := ""
  distributedInputTypes : List LogicalType := []
  distributedInputNames : List String := []
  distributedPrimaryKeys : List String := []
  distributedTableOptions : StringMap := .empty
  distributedPortableOptions : StringMap := .empty
  distributedNullPartName : String := ""
  distributedSchemaId : Int64 := -1
  distributedCommitIdentifier : Int64 := 0
  distributedAppendOnly : Bool := false
  distributedHasSnapshot : Bool := false
  distributedSnapshotId : Int64 := 0
  distributedTargetInitialized : Bool := false
  distributedWorkerPlanSelected : Bool := false
  distributedPrepareStarted : Bool := false
  distributedTargetPrepared : Bool := false
  distributedFinalizeStarted : Bool := false
  deriving DecidableEq

/-- What a call does outside of the operator. -/
inductive Event (Message : Type)
  /-- `GetVaneCatalogMutationMutex` is taken. -/
  | lock
  | unlock
  /-- `LoadTargetState` asks the catalog. -/
  | loadTarget
  /-- `PaimonSchemaEntry::CreateTable`. -/
  | createTable
  /-- `BestEffortAbortMessages` of a commit user. -/
  | bestEffortAbort (commitUser : String) (messages : List Message)
  /-- `FileStoreCommit::Abort`. -/
  | abort (messages : List Message)
  /-- `FileStoreCommit::FilterAndCommit` of one identifier. -/
  | filterAndCommit (identifier : Int64) (messages : List Message)
  deriving DecidableEq

/-- A procedure over the operator. -/
abbrev Coordinator (Message : Type) := Proc Exception (Event Message) PhysicalPaimonInsert

section Coordinator

variable {Message : Type} (rt : Runtime)

/-- What runs while the mutation mutex is held by a guard of the scope. -/
def withMutationLock {α : Type} (body : Coordinator Message α) : Coordinator Message α := do
  Proc.call .lock
  let result ← tryCatch body fun failure => do
    Proc.call .unlock
    throw failure
  Proc.call .unlock
  return result

/-! ## Its shape -/

/-- The kind of write the operator is for. -/
def PhysicalPaimonInsert.expectedKind (insert : PhysicalPaimonInsert) : WriteKind :=
  if insert.info.isSome then .ctas else .insert

/-- The comparisons of `GetCoordinatorTransport` that fail. -/
def TransportMismatch (insert : PhysicalPaimonInsert) (transport : InsertTransport) : Prop :=
  transport.writeKind ≠ insert.expectedKind ∨ transport.operationId ≠ insert.distributedOperationId ∨
    transport.databaseName ≠ insert.tableIdentifier.databaseName ∨
    transport.tableName ≠ insert.tableIdentifier.tableName ∨
    transport.tableUuid ≠ insert.distributedTableUuid ∨ transport.tablePath ≠ insert.distributedTablePath ∨
    transport.schemaFingerprint ≠ insert.distributedSchemaFingerprint ∨
    transport.schemaId ≠ insert.distributedSchemaId ∨ transport.appendOnly ≠ insert.distributedAppendOnly ∨
    transport.hasSnapshot ≠ insert.distributedHasSnapshot ∨ transport.snapshotId ≠ insert.distributedSnapshotId ∨
    transport.commitIdentifier ≠ insert.distributedCommitIdentifier ∨
    transport.inputTypes ≠ insert.distributedInputTypes ∨ transport.inputNames ≠ insert.distributedInputNames ∨
    transport.partKeys ≠ insert.partKeys ∨ transport.nullPartName ≠ insert.distributedNullPartName ∨
    transport.portableOptions ≠ insert.distributedPortableOptions

instance (insert : PhysicalPaimonInsert) (transport : InsertTransport) :
    Decidable (TransportMismatch insert transport) :=
  inferInstanceAs (Decidable (_ ∨ _))

/-- `GetCoordinatorTransport`. -/
def getCoordinatorTransport (insert : PhysicalPaimonInsert) : Except Exception InsertTransport := do
  let transport ← deserializeTransport rt insert.distributedWritePlan.workerBindData
  throwIf (TransportMismatch insert transport)
    (.invalidInput "Distributed Paimon write worker bind does not match its coordinator target")
  return transport

/-- The operator and child checks of `ValidateCoordinatorShape` that fail. -/
def ShapeMismatch (insert : PhysicalPaimonInsert) : Prop :=
  insert.distributedTargetInitialized = false ∨ insert.distributedWorkerPlanSelected = false ∨
    insert.distributedWritePlan.extensionName ≠ "paimon" ∨
    insert.distributedWritePlan.operatorName ≠ (if insert.info.isSome then "ctas" else "insert") ∨
    insert.distributedWritePlan.workerBindData = "" ∨ insert.children ≠ [insert.distributedInputTypes]

instance (insert : PhysicalPaimonInsert) : Decidable (ShapeMismatch insert) :=
  inferInstanceAs (Decidable (_ ∨ _))

/-- `ValidateCoordinatorShape`. -/
def validateCoordinatorShape (insert : PhysicalPaimonInsert) : Except Exception Unit := do
  throwIf (insert.distributedAppendOnly = false)
    (.notImplemented "Distributed Paimon writes support append-only tables")
  throwIf (ShapeMismatch insert) (.invalidInput "Distributed Paimon write target or worker plan was not initialized")
  let _ ← getCoordinatorTransport rt insert

/-- `GetCoordinatorCatalog`, up to the catalog itself. -/
def getCoordinatorCatalog (insert : PhysicalPaimonInsert) : Except Exception Unit :=
  match insert.schema with
  | none => throw (.invalidInput "Distributed Paimon write has no coordinator schema entry")
  | some accessMode =>
    throwIf (accessMode = .readOnly) (.permission "Cannot write to a read-only Paimon catalog")

/-- `ValidateCTASDefinition`. -/
def validateCTASDefinition (insert : PhysicalPaimonInsert) : Except Exception Unit :=
  match insert.info with
  | none => throw (.internal "Distributed Paimon CTAS has no create-table information")
  | some createInfo => do
    throwIf (createInfo.onConflict ≠ .errorOnConflict)
      (.notImplemented "Distributed Paimon CTAS requires CREATE TABLE with error-on-conflict semantics")
    throwIf (insert.distributedPrimaryKeys ≠ [])
      (.notImplemented "Distributed Paimon CTAS supports append-only tables")

/-- `ValidateCTASTargetAbsent`, from the reply of `TableExists`. -/
def validateCTASTargetAbsent (insert : PhysicalPaimonInsert) (tableExists : Result Bool) : Except Exception Unit := do
  validateCTASDefinition insert
  let found ← tableExists.orIO
  throwIf (found = true) (.catalog
    ("Paimon table " ++ insert.tableIdentifier.text ++ " already exists before distributed CTAS preparation"))

/-! ## Its target -/

/-- The name `ValidateTargetBaseline` gives the write. -/
def PhysicalPaimonInsert.writeName (insert : PhysicalPaimonInsert) : String :=
  if insert.info.isSome then "CTAS" else "INSERT"

/-- The schema comparisons of `ValidateTargetBaseline` that fail. -/
def SchemaChanged (insert : PhysicalPaimonInsert) (current : TargetState) : Prop :=
  current.schemaId ≠ insert.distributedSchemaId ∨ current.tableSchemaJson ≠ insert.distributedTableSchemaJson ∨
    current.appendOnly ≠ insert.distributedAppendOnly ∨ current.fieldNames ≠ insert.distributedInputNames ∨
    current.fieldTypes ≠ insert.distributedInputTypes ∨ current.partKeys ≠ insert.partKeys ∨
    current.primaryKeys ≠ insert.distributedPrimaryKeys ∨ current.tableOptions ≠ insert.distributedTableOptions ∨
    current.nullPartName ≠ insert.distributedNullPartName

instance (insert : PhysicalPaimonInsert) (current : TargetState) : Decidable (SchemaChanged insert current) :=
  inferInstanceAs (Decidable (_ ∨ _))

/-- The comparisons of `ValidateTargetBaseline`, in their order. -/
def compareTargetBaseline (insert : PhysicalPaimonInsert) (current : TargetState) : Except Exception Unit := do
  let table := "Paimon table " ++ insert.tableIdentifier.text
  let planned := " after the distributed " ++ insert.writeName ++ " was planned"
  throwIf (current.tableUuid ≠ insert.distributedTableUuid) (.transaction (table ++ " was replaced" ++ planned))
  throwIf (current.tablePath ≠ insert.distributedTablePath) (.transaction (table ++ " path changed" ++ planned))
  throwIf (SchemaChanged insert current) (.transaction (table ++ " schema changed" ++ planned))
  throwIf (current.hasSnapshot ≠ insert.distributedHasSnapshot ∨ current.snapshotId ≠ insert.distributedSnapshotId)
    (.transaction (table ++ " snapshot changed" ++ planned))

/-- `ValidateTargetBaseline`. -/
def validateTargetBaseline (replies : CatalogReplies) : Coordinator Message Unit := do
  let insert ← Proc.get
  Proc.ofExcept (getCoordinatorCatalog insert)
  Proc.call .loadTarget
  let current ← Proc.ofExcept (loadTargetState insert.tableIdentifier replies)
  Proc.ofExcept (compareTargetBaseline insert current)

/-- The comparisons of `CapturePreparedCTASTarget` that fail. -/
def PreparedMismatch (insert : PhysicalPaimonInsert) (current : TargetState) : Prop :=
  current.tableUuid ≠ insert.distributedTableUuid ∨ current.tablePath ≠ insert.distributedTablePath ∨
    current.schemaId ≠ insert.distributedSchemaId ∨ current.appendOnly ≠ insert.distributedAppendOnly ∨
    current.hasSnapshot = true ∨ current.snapshotId ≠ 0 ∨ current.fieldNames ≠ insert.distributedInputNames ∨
    current.fieldTypes ≠ insert.distributedInputTypes ∨ current.partKeys ≠ insert.partKeys ∨
    current.primaryKeys ≠ insert.distributedPrimaryKeys ∨ current.tableOptions ≠ insert.distributedTableOptions ∨
    current.nullPartName ≠ insert.distributedNullPartName

instance (insert : PhysicalPaimonInsert) (current : TargetState) : Decidable (PreparedMismatch insert current) :=
  inferInstanceAs (Decidable (_ ∨ _))

/-- `CapturePreparedCTASTarget`. -/
def capturePreparedCTASTarget (replies : CatalogReplies) : Coordinator Message Unit := do
  let insert ← Proc.get
  Proc.ofExcept (getCoordinatorCatalog insert)
  Proc.call .loadTarget
  let current ← Proc.ofExcept (loadTargetState insert.tableIdentifier replies)
  throwIf (PreparedMismatch insert current) (.transaction ("Prepared Paimon table " ++ insert.tableIdentifier.text ++
    " does not match the frozen distributed CTAS definition"))
  Proc.modify fun insert => { insert with distributedTableSchemaJson := current.tableSchemaJson }

/-! ## Planning -/

/-- What planning asks for: a random UUID, the location of the table to create, the target. -/
structure PlanReplies where
  operationId : String
  tableLocation : Result String
  target : CatalogReplies

/-- The CTAS branch of `InitializeDistributedWrite`. -/
def planCTAS (inputTypes : List LogicalType) (createInfo : CreateTableInfo) (tableLocation : Result String) :
    Coordinator Message Unit := do
  Proc.modify fun insert => { insert with
    distributedInputNames := createInfo.columnNames,
    distributedInputTypes := createInfo.columnTypes }
  throwIf (inputTypes ≠ createInfo.columnTypes)
    (.invalidInput "Paimon CTAS input schema does not match its create-table columns")
  let primaryKeys ← Proc.ofExcept (getCreatePrimaryKeys createInfo)
  Proc.modify fun insert => { insert with distributedPrimaryKeys := primaryKeys }
  let tableOptions ← Proc.ofExcept (getCreateTableOptions createInfo)
  Proc.modify fun insert => { insert with
    distributedTableOptions := tableOptions,
    distributedAppendOnly := primaryKeys.isEmpty }
  let insert ← Proc.get
  Proc.ofExcept (validateCTASDefinition insert)
  -- the table UUID of a table that does not exist yet is taken to be its full name
  Proc.modify fun insert => { insert with distributedTableUuid := insert.tableIdentifier.fullName }
  match tableLocation with
  | .error status =>
    throw (.notImplemented
      ("Distributed Paimon CTAS requires a catalog that resolves the target location before creation: " ++ status.text))
  | .ok tablePath =>
    Proc.modify fun insert => { insert with
      distributedTablePath := tablePath,
      distributedSchemaId := 0,
      distributedHasSnapshot := false,
      distributedSnapshotId := 0,
      distributedNullPartName := nullPartition tableOptions,
      distributedSchemaFingerprint :=
        plannedSchemaFingerprint rt createInfo.columnNames createInfo.columnTypes insert.partKeys primaryKeys
          tableOptions }

/-- What a planned INSERT records of its target. -/
def PhysicalPaimonInsert.planned (insert : PhysicalPaimonInsert) (target : TargetState) : PhysicalPaimonInsert :=
  { insert with
    distributedTableUuid := target.tableUuid,
    distributedTablePath := target.tablePath,
    distributedTableSchemaJson := target.tableSchemaJson,
    distributedSchemaFingerprint := schemaFingerprint rt target.tableSchemaJson,
    distributedSchemaId := target.schemaId,
    distributedAppendOnly := target.appendOnly,
    distributedHasSnapshot := target.hasSnapshot,
    distributedSnapshotId := target.snapshotId,
    distributedInputTypes := target.fieldTypes,
    distributedInputNames := target.fieldNames,
    distributedPrimaryKeys := target.primaryKeys,
    distributedTableOptions := target.tableOptions,
    distributedNullPartName := target.nullPartName }

/-- The INSERT branch of `InitializeDistributedWrite`. -/
def planInsert (inputTypes : List LogicalType) (replies : CatalogReplies) : Coordinator Message Unit :=
  withMutationLock do
    let insert ← Proc.get
    Proc.call .loadTarget
    let target ← Proc.ofExcept (loadTargetState insert.tableIdentifier replies)
    throwIf (inputTypes ≠ target.fieldTypes)
      (.invalidInput "Paimon INSERT input schema does not match the current target table types")
    throwIf (insert.partKeys ≠ target.partKeys)
      (.internal "Paimon INSERT partition keys do not match the loaded target schema")
    Proc.modify fun insert => insert.planned rt target

/-- The transport of the recorded target. -/
def PhysicalPaimonInsert.transport (insert : PhysicalPaimonInsert) : InsertTransport where
  writeKind := insert.expectedKind
  operationId := insert.distributedOperationId
  databaseName := insert.tableIdentifier.databaseName
  tableName := insert.tableIdentifier.tableName
  tableUuid := insert.distributedTableUuid
  tablePath := insert.distributedTablePath
  schemaFingerprint := insert.distributedSchemaFingerprint
  schemaId := insert.distributedSchemaId
  appendOnly := insert.distributedAppendOnly
  hasSnapshot := insert.distributedHasSnapshot
  snapshotId := insert.distributedSnapshotId
  commitIdentifier := insert.distributedCommitIdentifier
  inputTypes := insert.distributedInputTypes
  inputNames := insert.distributedInputNames
  partKeys := insert.partKeys
  nullPartName := insert.distributedNullPartName
  portableOptions := insert.distributedPortableOptions

/-- The end of `InitializeDistributedWrite`: the plan for the recorded target. -/
def publishPlan : Coordinator Message Unit := do
  let insert ← Proc.get
  let operatorName ← Proc.ofExcept (writeOperatorName insert.expectedKind)
  Proc.modify fun insert => { insert with
    distributedWritePlan := { insert.distributedWritePlan with extensionName := "paimon", operatorName } }
  let workerBindData ← Proc.ofExcept (serializeTransport rt insert.transport)
  Proc.modify fun insert => { insert with
    distributedWritePlan := { insert.distributedWritePlan with workerBindData },
    distributedTargetInitialized := true }

/-- `InitializeDistributedWrite`. -/
def initializeDistributedWrite (inputTypes : List LogicalType) (replies : PlanReplies) : Coordinator Message Unit := do
  let insert ← Proc.get
  throwIf (insert.distributedTargetInitialized = true)
    (.internal "Distributed Paimon write target was initialized more than once")
  throwIf (insert.schema = none) (.internal "Distributed Paimon write requires a coordinator schema entry")
  Proc.modify fun insert => { insert with
    distributedOperationId := replies.operationId,
    distributedCommitIdentifier := createCommitIdentifier rt replies.operationId,
    distributedPortableOptions := getPortableWriteOptions insert.paimonOptions }
  match insert.info with
  | some createInfo => planCTAS rt inputTypes createInfo replies.tableLocation
  | none => planInsert rt inputTypes replies.target
  publishPlan rt

/-- `SetDistributedWriteContext`. -/
def setDistributedWriteContext : Coordinator Message Unit := do
  let insert ← Proc.get
  throwIf (insert.distributedContext = true)
    (.internal "Distributed Paimon write context was set more than once")
  Proc.modify fun insert => { insert with distributedContext := true }

/-- What `GetExtensionWriteTaskProvider` does when no worker plan is selected yet. -/
def selectWorkerPlan (replies : PlanReplies) : Coordinator Message Unit := do
  let insert ← Proc.get
  match insert.children with
  | [inputTypes] => do
    throwIf (insert.distributedContext = false)
      (.invalidInput "Distributed Paimon write has no coordinator context")
    if insert.distributedTargetInitialized then pure () else initializeDistributedWrite rt inputTypes replies
    Proc.modify fun insert => { insert with distributedWorkerPlanSelected := true }
  | _ => throw (.invalidInput "Distributed Paimon write requires exactly one physical child")

/-- `GetExtensionWriteTaskProvider`. -/
def getExtensionWriteTaskProvider (replies : PlanReplies) : Coordinator Message Unit := do
  let insert ← Proc.get
  if insert.distributedWorkerPlanSelected then pure () else selectWorkerPlan rt replies

/-- `WritePlan`. -/
def writePlan : Coordinator Message ExtensionWritePlan := do
  let insert ← Proc.get
  Proc.ofExcept (validateCoordinatorShape rt insert)
  return insert.distributedWritePlan

/-! ## Validating and preparing -/

/-- `ValidateDistributedWrite`. -/
def validateDistributedWrite (replies : CatalogReplies) : Coordinator Message Unit := do
  let insert ← Proc.get
  Proc.ofExcept (validateCoordinatorShape rt insert)
  if insert.info.isSome then do
    Proc.ofExcept (validateCTASDefinition insert)
    Proc.ofExcept (getCoordinatorCatalog insert)
  else
    withMutationLock (validateTargetBaseline replies)

/-- What preparation asks for: the target of an INSERT; whether the table of a CTAS is there, the
outcome of creating it and the created target. -/
structure PrepareReplies where
  baseline : CatalogReplies
  tableExists : Result Bool
  createTable : Except Exception Unit
  created : CatalogReplies

/-- The start of `PrepareDistributedWrite`. -/
def enterPrepare : Coordinator Message PhysicalPaimonInsert := do
  let insert ← Proc.get
  Proc.ofExcept (validateCoordinatorShape rt insert)
  throwIf (insert.distributedPrepareStarted = true)
    (.invalidInput "Distributed Paimon write preparation started more than once")
  Proc.modify fun insert => { insert with distributedPrepareStarted := true }
  return insert

/-- The target is marked as prepared. -/
def markPrepared : Coordinator Message Unit :=
  Proc.modify fun insert => { insert with distributedTargetPrepared := true }

/-- The preparation of an INSERT. -/
def prepareInsert (replies : CatalogReplies) : Coordinator Message Unit :=
  withMutationLock do
    validateTargetBaseline replies
    markPrepared

/-- The first section of the preparation of a CTAS: the table is absent. -/
def checkAbsent (tableExists : Result Bool) : Coordinator Message Unit :=
  withMutationLock do
    let insert ← Proc.get
    Proc.ofExcept (getCoordinatorCatalog insert)
    Proc.ofExcept (validateCTASTargetAbsent insert tableExists)

/-- The second section: `PaimonSchemaEntry::CreateTable`, which takes the mutex itself. -/
def createTarget (createTable : Except Exception Unit) : Coordinator Message Unit :=
  withMutationLock do
    Proc.call .createTable
    Proc.ofExcept createTable

/-- The third section, and the mark behind it. -/
def captureTarget (replies : CatalogReplies) : Coordinator Message Unit := do
  withMutationLock (capturePreparedCTASTarget replies)
  markPrepared

/-- `PrepareDistributedWrite`. -/
def prepareDistributedWrite (replies : PrepareReplies) : Coordinator Message Unit := do
  let insert ← enterPrepare rt
  if insert.info.isSome then do
    Proc.ofExcept (validateCTASDefinition insert)
    checkAbsent replies.tableExists
    createTarget replies.createTable
    captureTarget replies.created
  else
    prepareInsert replies.baseline

/-! ## Finalizing and aborting -/

/-- `CreateCommitter`, from the replies of `CommitContextBuilder::Finish` and
`FileStoreCommit::Create`. -/
structure CommitterReplies where
  context : Result Unit
  create : Result Unit

/-- `CreateCommitter`. -/
def createCommitter (replies : CommitterReplies) : Except Exception Unit := do
  replies.context.orIO
  replies.create.orIO

/-- What aborting asks for. -/
structure AbortReplies where
  committer : CommitterReplies
  abort : Result Unit

/-- `AbortMessages`. -/
def abortMessages (replies : AbortReplies) (messages : List Message) : Coordinator Message Unit :=
  match messages with
  | [] => pure ()
  | _ :: _ => do
    Proc.ofExcept (createCommitter replies.committer)
    Proc.call (.abort messages)
    Proc.ofExcept replies.abort.orIO

/-- `BestEffortAbortMessages`. -/
def bestEffortAbortMessages (replies : AbortReplies) (commitUser : String) (messages : List Message) :
    Coordinator Message Unit := do
  Proc.call (.bestEffortAbort commitUser messages)
  tryCatch (abortMessages replies messages) fun _ => pure ()

/-- `BuildRuntimeOptions` of the coordinator, from the options `GetPaimonOptions` returns. -/
def buildRuntimeOptions (paimonOptions : Except Exception StringMap) (transport : InsertTransport) :
    Except Exception StringMap := do
  let options ← paimonOptions
  return transport.portableOptions.entries.foldl (fun result option => result.insert option.1 option.2) options

/-- The commit user of the coordinator. -/
def coordinatorCommitUser (transport : InsertTransport) : String := "vane-" ++ compactUUID transport.operationId

/-- What decoding asks for: the runtime options, the registered contract, the codec of messages. -/
structure DecodeReplies (Message : Type) where
  paimonOptions : Except Exception StringMap
  resolvedInfo : Except Exception DistributedExtensionWriteInfo
  codec : MessageCodec Message
  abort : AbortReplies

variable (vane : Vane)

/-- The contents of the first `try` block: how they end, and what is decoded until then. -/
def decodeWith (replies : DecodeReplies Message) (transport : InsertTransport)
    (results : List DistributedWriteTaskResult) : Except Exception Unit × DecodedCommit Message :=
  match replies.resolvedInfo with
  | .error failure => (.error failure, {})
  | .ok info =>
    let decode := (decodeCommitResults rt vane replies.codec info transport results).run {}
    (decode.1, decode.2.1.decoded)

/-- Decodes the results; on a failure what was decoded is aborted. -/
def decodeOrAbort (replies : DecodeReplies Message) (transport : InsertTransport)
    (results : List DistributedWriteTaskResult) : Coordinator Message (DecodedCommit Message) :=
  match decodeWith rt vane replies transport results with
  | (.ok _, decoded) => return decoded
  | (.error failure, decoded) => do
    bestEffortAbortMessages replies.abort (coordinatorCommitUser transport) decoded.messages
    throw failure

/-- What the critical section of the finalization asks for. -/
structure CommitReplies where
  baseline : CatalogReplies
  committer : CommitterReplies
  /-- `FilterAndCommit`: the number of committed operations. -/
  commit : Result Int32
  abort : AbortReplies

/-- `FinalizeDistributedWrite` before it takes the mutex. -/
def enterFinalize (replies : DecodeReplies Message) (results : List DistributedWriteTaskResult) :
    Coordinator Message (InsertTransport × DecodedCommit Message) := do
  let insert ← Proc.get
  Proc.ofExcept (validateCoordinatorShape rt insert)
  throwIf (insert.distributedFinalizeStarted = true)
    (.invalidInput "Distributed Paimon write coordinator finalized more than once")
  Proc.modify fun insert => { insert with distributedFinalizeStarted := true }
  throwIf (insert.distributedTargetPrepared = false)
    (.invalidInput "Distributed Paimon write target was not prepared before finalization")
  let transport ← Proc.ofExcept (getCoordinatorTransport rt insert)
  let _ ← Proc.ofExcept (buildRuntimeOptions replies.paimonOptions transport)
  let decoded ← decodeOrAbort rt vane replies transport results
  return (transport, decoded)

/-- The second `try` block: whether there is something to commit. -/
def readyToCommit (replies : CommitReplies) (decoded : DecodedCommit Message) : Coordinator Message Bool := do
  validateTargetBaseline replies.baseline
  if decoded.messages.isEmpty then do
    throwIf (decoded.rowCount ≠ 0) (.invalidInput "Distributed Paimon write returned rows without commit messages")
    return false
  else do
    throwIf (decoded.rowCount = 0) (.invalidInput "Distributed Paimon write returned commit messages without rows")
    Proc.ofExcept (createCommitter replies.committer)
    return true

/-- The commit, after which the prepared artifacts are kept whatever it returns. -/
def filterAndCommit (replies : CommitReplies) (transport : InsertTransport) (decoded : DecodedCommit Message) :
    Coordinator Message UInt64 := do
  Proc.call (.filterAndCommit transport.commitIdentifier decoded.messages)
  match replies.commit with
  | .error status => throw (.io ("Distributed Paimon write commit outcome is unknown: " ++ status.text))
  | .ok committed =>
    throwIf (committed ≠ 1) (.io
      ("Distributed Paimon write commit outcome is unknown: expected one committed operation, got " ++
        toString committed))
    return decoded.rowCount

/-- The critical section of `FinalizeDistributedWrite`. A failure before the commit releases the
mutex and aborts the messages. -/
def commitSection (replies : CommitReplies) (transport : InsertTransport) (decoded : DecodedCommit Message) :
    Coordinator Message UInt64 := do
  Proc.call .lock
  let ready ← tryCatch (readyToCommit replies decoded) fun failure => do
    Proc.call .unlock
    bestEffortAbortMessages replies.abort (coordinatorCommitUser transport) decoded.messages
    throw failure
  let rowCount ← tryCatch (if ready then filterAndCommit replies transport decoded else pure 0) fun failure => do
    Proc.call .unlock
    throw failure
  Proc.call .unlock
  return rowCount

/-- `FinalizeDistributedWrite`. -/
def finalizeDistributedWrite (decodeReplies : DecodeReplies Message) (commitReplies : CommitReplies)
    (results : List DistributedWriteTaskResult) : Coordinator Message UInt64 := do
  let entered ← enterFinalize rt vane decodeReplies results
  commitSection commitReplies entered.1 entered.2

/-- `AbortDistributedWrite`. -/
def abortDistributedWrite (replies : DecodeReplies Message) (selectedResults : List DistributedWriteTaskResult) :
    Coordinator Message Unit := do
  let insert ← Proc.get
  Proc.ofExcept (validateCoordinatorShape rt insert)
  throwIf (insert.distributedFinalizeStarted = true)
    (.invalidInput "Distributed Paimon write cannot abort after coordinator finalization started")
  if selectedResults.isEmpty then pure () else do
    let transport ← Proc.ofExcept (getCoordinatorTransport rt insert)
    let _ ← Proc.ofExcept (buildRuntimeOptions replies.paimonOptions transport)
    let decoded ← decodeOrAbort rt vane replies transport selectedResults
    bestEffortAbortMessages replies.abort (coordinatorCommitUser transport) decoded.messages

/-- `BuildPipelines`, up to DuckDB's own pipelines. -/
def buildPipelines : Coordinator Message Unit := do
  let insert ← Proc.get
  throwIf (insert.distributedWorkerPlanSelected = true)
    (.invalidInput "A distributed Paimon write worker plan cannot execute as a native coordinator operator")

end Coordinator

end DuckPaimon.Write
