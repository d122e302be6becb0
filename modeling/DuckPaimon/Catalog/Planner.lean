/-
Attaching a catalog and planning writes into it (paimon_catalog.cpp): `Attach`, `PlanCreateTableAs` and
`PlanInsert`, which give an operator all it is planned with.

A catalog in an object store is attached for reading. No write is planned in it, and neither would the
coordinator of a write prepare or commit one.
-/
import DuckPaimon.Catalog.Sets
import DuckPaimon.Scan.TimeTravel
import DuckPaimon.Write.Baseline

namespace DuckPaimon.Catalog

open Outcome Write

/-! ## Attaching -/

/-- `PaimonCatalog`: what it was attached with, and whether its database was set read-only. -/
structure PaimonCatalog where
  path : String
  attachedOptions : InputOptions
  accessMode : AccessMode
  readOnlyDatabase : Bool

/-- `options.access_mode`, as `PaimonCatalog::Attach` leaves it. -/
def attachedMode (path : String) (accessMode : AccessMode) : AccessMode :=
  if startsWith path s3PathPrefix || startsWith path ossPathPrefix then .readOnly else accessMode

/-- `PaimonCatalog::Attach`. -/
def PaimonCatalog.attach (host : OptionsHost) (create : String → StringMap → Result Unit) (path : String)
    (attachOptions : InputOptions) (accessMode : AccessMode) : Except Exception PaimonCatalog := do
  let accessMode := attachedMode path accessMode
  Scan.createPaimonCatalog host create path attachOptions
  return { path, attachedOptions := attachOptions, accessMode, readOnlyDatabase := accessMode = .readOnly }

/-! ## Planning -/

/-- `LogicalCreateTable`: the name of the schema, and the table. -/
structure LogicalCreateTable where
  schema : String
  info : BoundCreateTableInfo

/-- `LogicalInsert`, with the columns it names. -/
structure LogicalInsert where
  schemaName : String
  tableName : String
  columnIndexMap : List Nat

/-- What a host replies to a planner. -/
structure PlanHost extends OptionsHost where
  /-- `paimon::Identifier` of a database and a table. -/
  identifier : String → String → Identifier
  /-- The types of `PhysicalPlanGenerator::ResolveDefaultsProjection`. -/
  resolveDefaultsProjection : LogicalInsert → List LogicalType → List LogicalType

namespace PaimonCatalog

/-- `PaimonCatalog::PlanCreateTableAs`, over a child with the types `plan`. -/
def planCreateTableAs (host : PlanHost) (catalog : PaimonCatalog) (op : LogicalCreateTable) (plan : List LogicalType) :
    Except Exception PhysicalPaimonInsert := do
  throwIf (catalog.accessMode = .readOnly) (.permission "Cannot write to a read-only Paimon catalog")
  let paimonOptions ← getPaimonOptions host.toOptionsHost catalog.path catalog.attachedOptions
  let partKeys ← op.info.partitionKeys.mapM PartitionExpression.column
  let insert := PhysicalPaimonInsert.new catalog.accessMode (some op.info.toCreateTableInfo)
    (host.identifier op.schema op.info.table) paimonOptions partKeys [plan]
  return { insert with distributedContext := true }

/-- The partition keys `PlanInsert` takes from the schema of the table. -/
def schemaPartKeys (schema : TableSchema) : List String :=
  (schema.dataSchema.map DataSchema.partitionKeys).getD []

/-- The types of the child of an INSERT, if it has one, with defaults for the columns it does not name. -/
def childTypes (host : PlanHost) (op : LogicalInsert) (plan : Option (List LogicalType)) : List (List LogicalType) :=
  (plan.map fun types => if op.columnIndexMap = [] then types else host.resolveDefaultsProjection op types).toList

/-- `PaimonCatalog::PlanInsert`. -/
def planInsert (host : PlanHost) (catalog : PaimonCatalog) (loadTableSchema : Result TableSchema) (op : LogicalInsert)
    (plan : Option (List LogicalType)) : Except Exception PhysicalPaimonInsert := do
  throwIf (catalog.accessMode = .readOnly) (.permission "Cannot write to a read-only Paimon catalog")
  let paimonOptions ← getPaimonOptions host.toOptionsHost catalog.path catalog.attachedOptions
  let schema ← loadTableSchema.orIO
  let insert := PhysicalPaimonInsert.new catalog.accessMode none (host.identifier op.schemaName op.tableName)
    paimonOptions (schemaPartKeys schema) (childTypes host op plan)
  return { insert with distributedContext := plan.isSome }

end PaimonCatalog

variable {Message : Type} {rt : Runtime} {vane : Vane}

/-! ## What creates a table -/

/-- A procedure of the coordinator that creates no table. -/
abbrev CreatesNothing {α : Type} (m : Coordinator Message α) : Prop :=
  Proc.Keeps (fun _ => ()) (fun event => event ≠ .createTable) m

section Creates

open Proc

theorem creates_looks : Looks fun event : Event Message => event ≠ .createTable := ⟨nofun, nofun, nofun⟩

theorem creates_getExtensionWriteTaskProvider (replies : PlanReplies) :
    CreatesNothing (getExtensionWriteTaskProvider rt replies : Coordinator Message Unit) := by
  unfold getExtensionWriteTaskProvider selectWorkerPlan
  refine keeps_get.bind fun _ => ?_
  split
  · exact keeps_pure _
  refine keeps_get.bind fun _ => ?_
  split
  · refine (keeps_throwIf _ _).bind fun _ => ?_
    dsimp only
    split
    · exact keeps_modify fun _ => by rfl
    · refine Keeps.bind ?_ fun _ => keeps_modify fun _ => by rfl
      unfold initializeDistributedWrite
      refine keeps_get.bind fun _ => (keeps_throwIf _ _).bind fun _ => (keeps_throwIf _ _).bind fun _ => ?_
      refine (keeps_modify fun _ => by rfl).bind fun _ => ?_
      split
      · exact (keeps_planCTAS _ _ _).calls.bind fun _ => keeps_publishPlan.calls
      · exact (keeps_planInsert creates_looks _ _).calls.bind fun _ => keeps_publishPlan.calls
  · exact keeps_throw _

theorem creates_bestEffortAbortMessages (replies : AbortReplies) (commitUser : String) (messages : List Message) :
    CreatesNothing (bestEffortAbortMessages replies commitUser messages) := by
  unfold bestEffortAbortMessages
  refine (keeps_call nofun).bind fun _ => Keeps.tryCatch ?_ fun _ => keeps_pure _
  unfold abortMessages
  cases messages with
  | nil => exact keeps_pure _
  | cons => exact (keeps_ofExcept _).bind fun _ => (keeps_call nofun).bind fun _ => keeps_ofExcept _

theorem creates_decodeOrAbort (replies : DecodeReplies Message) (transport : InsertTransport)
    (results : List DistributedWriteTaskResult) : CreatesNothing (decodeOrAbort rt vane replies transport results) := by
  unfold decodeOrAbort
  split
  · exact keeps_pure _
  · exact (creates_bestEffortAbortMessages _ _ _).bind fun _ => keeps_throw _

theorem creates_commitSection (replies : CommitReplies) (transport : InsertTransport) (decoded : DecodedCommit Message) :
    CreatesNothing (commitSection replies transport decoded) := by
  have hready : CreatesNothing (readyToCommit replies decoded) := by
    unfold readyToCommit
    refine (keeps_validateTargetBaseline creates_looks _).bind fun _ => ?_
    split
    · exact (keeps_throwIf _ _).bind fun _ => keeps_pure _
    · exact (keeps_throwIf _ _).bind fun _ => (keeps_ofExcept _).bind fun _ => keeps_pure _
  have hcommit : CreatesNothing (filterAndCommit replies transport decoded) := by
    unfold filterAndCommit
    refine (keeps_call (by simp)).bind fun _ => ?_
    split
    · exact keeps_throw _
    · exact (keeps_throwIf _ _).bind fun _ => keeps_pure _
  unfold commitSection
  refine (keeps_call (by simp)).bind fun _ => Keeps.bind (hready.tryCatch fun _ => ?_) fun ready => ?_
  · exact (keeps_call (by simp)).bind fun _ => (creates_bestEffortAbortMessages _ _ _).bind fun _ => keeps_throw _
  · refine Keeps.bind (Keeps.tryCatch ?_ fun _ => (keeps_call (by simp)).bind fun _ => keeps_throw _) fun _ =>
      (keeps_call (by simp)).bind fun _ => keeps_pure _
    split
    · exact hcommit
    · exact keeps_pure _

theorem creates_finalizeDistributedWrite (decode : DecodeReplies Message) (commit : CommitReplies)
    (results : List DistributedWriteTaskResult) :
    CreatesNothing (finalizeDistributedWrite rt vane decode commit results) := by
  unfold finalizeDistributedWrite enterFinalize
  refine Keeps.bind ?_ fun _ => creates_commitSection _ _ _
  refine keeps_get.bind fun _ => (keeps_ofExcept _).bind fun _ => (keeps_throwIf _ _).bind fun _ => ?_
  refine (keeps_modify fun _ => by rfl).bind fun _ => (keeps_throwIf _ _).bind fun _ => ?_
  refine (keeps_ofExcept _).bind fun _ => (keeps_ofExcept _).bind fun _ => ?_
  exact (creates_decodeOrAbort _ _ _).bind fun _ => keeps_pure _

theorem creates_abortDistributedWrite (replies : DecodeReplies Message) (results : List DistributedWriteTaskResult) :
    CreatesNothing (abortDistributedWrite rt vane replies results) := by
  unfold abortDistributedWrite
  refine keeps_get.bind fun _ => (keeps_ofExcept _).bind fun _ => (keeps_throwIf _ _).bind fun _ => ?_
  split
  · exact keeps_pure _
  · refine (keeps_ofExcept _).bind fun _ => (keeps_ofExcept _).bind fun _ => ?_
    exact (creates_decodeOrAbort _ _ _).bind fun _ => creates_bestEffortAbortMessages _ _ _

/-- Only the preparation of a write creates a table. -/
theorem performed_creates {p : Performed Message} (h : .createTable ∈ p.events rt vane) : p.call.IsPrepare := by
  have hrun : (perform rt vane p.call).run p.before = (p.result rt vane, p.after rt vane, p.events rt vane) := rfl
  have hnone {α : Type} {m : Coordinator Message α} {g : α → Option UInt64} (hm : CreatesNothing m)
      (hcall : perform rt vane p.call = g <$> m) : False := by
    rw [hcall] at hrun
    obtain ⟨_, -, -, hevents⟩ := Proc.wp_run_map (hm p.before) hrun
    exact hevents _ h rfl
  obtain ⟨insert, call⟩ := p
  cases call with
  | setDistributedWriteContext => exact (hnone (keeps_setDistributedWriteContext fun _ => by rfl) rfl).elim
  | getExtensionWriteTaskProvider replies => exact (hnone (creates_getExtensionWriteTaskProvider replies) rfl).elim
  | writePlan => exact (hnone keeps_writePlan rfl).elim
  | validateDistributedWrite replies => exact (hnone (keeps_validateDistributedWrite creates_looks replies) rfl).elim
  | prepareDistributedWrite replies => trivial
  | finalizeDistributedWrite decode commit results =>
    exact (hnone (creates_finalizeDistributedWrite decode commit results) rfl).elim
  | abortDistributedWrite replies results => exact (hnone (creates_abortDistributedWrite replies results) rfl).elim

end Creates

/-! ## A read-only catalog -/

/-- What is attached in an object store is read-only. -/
theorem attach_readOnly {host : OptionsHost} {create : String → StringMap → Result Unit} {path : String}
    {attachOptions : InputOptions} {accessMode : AccessMode} {catalog : PaimonCatalog}
    (attached : PaimonCatalog.attach host create path attachOptions accessMode = .ok catalog)
    (remote : startsWith path s3PathPrefix = true ∨ startsWith path ossPathPrefix = true) :
    catalog.accessMode = .readOnly ∧ catalog.readOnlyDatabase = true := by
  have hmode : attachedMode path accessMode = .readOnly := by
    unfold attachedMode
    rw [if_pos (by simpa using remote)]
  unfold PaimonCatalog.attach at attached
  obtain ⟨-, -, hcatalog⟩ := bind_eq_ok.1 attached
  obtain rfl := pure_eq_ok.1 hcatalog
  simp [hmode]

theorem planCreateTableAs_readOnly {host : PlanHost} {catalog : PaimonCatalog} (hmode : catalog.accessMode = .readOnly)
    (op : LogicalCreateTable) (plan : List LogicalType) : PaimonCatalog.planCreateTableAs host catalog op plan =
      .error (.permission "Cannot write to a read-only Paimon catalog") := by
  unfold PaimonCatalog.planCreateTableAs throwIf
  rw [if_pos hmode]
  rfl

theorem planInsert_readOnly {host : PlanHost} {catalog : PaimonCatalog} (hmode : catalog.accessMode = .readOnly)
    (loadTableSchema : Result TableSchema) (op : LogicalInsert) (plan : Option (List LogicalType)) :
    PaimonCatalog.planInsert host catalog loadTableSchema op plan =
      .error (.permission "Cannot write to a read-only Paimon catalog") := by
  unfold PaimonCatalog.planInsert throwIf
  rw [if_pos hmode]
  rfl

/-- The coordinator refuses the catalog of an operator that is given a read-only one. -/
theorem getCoordinatorCatalog_readOnly {insert : PhysicalPaimonInsert} (hschema : insert.schema = some .readOnly) :
    getCoordinatorCatalog insert = .error (.permission "Cannot write to a read-only Paimon catalog") := by
  unfold getCoordinatorCatalog
  rw [hschema]
  rfl

/-- In a read-only catalog nothing is prepared. -/
theorem wp_prepareDistributedWrite_readOnly (replies : PrepareReplies) {insert : PhysicalPaimonInsert}
    (hschema : insert.schema = some .readOnly) :
    (prepareDistributedWrite rt replies : Coordinator Message Unit).wp insert fun r _ events =>
      (∃ e, r = .error e) ∧ .createTable ∉ events := by
  unfold prepareDistributedWrite
  rw [Proc.wp_bind]
  refine Proc.wp_mono (wp_enterPrepare insert) ?_
  rintro r insert' events ⟨rfl, ⟨e, rfl, -⟩ | ⟨rfl, rfl, -, -⟩⟩
  · exact ⟨⟨e, rfl⟩, List.not_mem_nil⟩
  · have hrefused : getCoordinatorCatalog { insert with distributedPrepareStarted := true } =
        .error (.permission "Cannot write to a read-only Paimon catalog") := getCoordinatorCatalog_readOnly hschema
    show Proc.wp _ _ _
    rw [Proc.wp_ite]
    split
    · -- a CREATE TABLE AS asks whether its table is absent first
      rw [Proc.wp_bind, Proc.wp_ofExcept]
      cases validateCTASDefinition insert with
      | error e => exact ⟨⟨e, rfl⟩, List.not_mem_nil⟩
      | ok u =>
        show Proc.wp _ _ _
        unfold checkAbsent
        rw [Proc.wp_bind, wp_withMutationLock, Proc.wp_bind, Proc.wp_get]
        show Proc.wp _ _ _
        rw [Proc.wp_bind, Proc.wp_ofExcept, hrefused]
        exact ⟨⟨_, rfl⟩, by simp⟩
    · unfold prepareInsert validateTargetBaseline
      rw [wp_withMutationLock, Proc.wp_bind, Proc.wp_bind, Proc.wp_get]
      show Proc.wp _ _ _
      rw [Proc.wp_bind, Proc.wp_ofExcept, hrefused]
      exact ⟨⟨_, rfl⟩, by simp⟩

/-- No call on an operator that is given a read-only catalog prepares, creates or commits anything. -/
theorem performed_readOnly {p : Performed Message} (hschema : p.before.schema = some .readOnly) :
    (p.call.IsPrepare → ∃ e, p.result rt vane = .error e) ∧ .createTable ∉ p.events rt vane ∧ ¬p.Commits rt vane := by
  have hprepares (hprepare : p.call.IsPrepare) :
      (∃ e, p.result rt vane = .error e) ∧ .createTable ∉ p.events rt vane := by
    have hrun : (perform rt vane p.call).run p.before = (p.result rt vane, p.after rt vane, p.events rt vane) := rfl
    obtain ⟨insert, call⟩ := p
    cases call with
    | prepareDistributedWrite replies =>
      obtain ⟨r, hresult, ⟨e, rfl⟩, hcreates⟩ :=
        Proc.wp_run_map (wp_prepareDistributedWrite_readOnly replies hschema) hrun
      exact ⟨⟨e, hresult⟩, hcreates⟩
    | _ => cases hprepare
  refine ⟨fun hprepare => (hprepares hprepare).1, fun hcreates => ?_, fun hcommits => ?_⟩
  · exact (hprepares (performed_creates hcreates)).2 hcreates
  · obtain ⟨⟨decode, commit, results, transport, decoded, hguarded⟩, -⟩ := hcommits.guarded
    have hrefused := getCoordinatorCatalog_readOnly hschema
    rw [hguarded.baseline.1] at hrefused
    cases hrefused

/-- What is attached in an object store, in whatever case its scheme is written and whatever access is asked for,
is never written: every write is refused where it is planned, and whatever calls the coordinator of an operator
over the catalog sees, none creates the table, prepares the target or commits. -/
theorem object_store_is_never_written {host : PlanHost} {create : String → StringMap → Result Unit} {path : String}
    {attachOptions : InputOptions} {accessMode : AccessMode} {catalog : PaimonCatalog}
    (attached : PaimonCatalog.attach host.toOptionsHost create path attachOptions accessMode = .ok catalog)
    (remote : startsWith path s3PathPrefix = true ∨ startsWith path ossPathPrefix = true) :
    catalog.readOnlyDatabase = true ∧
      (∀ op plan, PaimonCatalog.planCreateTableAs host catalog op plan =
        .error (.permission "Cannot write to a read-only Paimon catalog")) ∧
      (∀ loadTableSchema op plan, PaimonCatalog.planInsert host catalog loadTableSchema op plan =
        .error (.permission "Cannot write to a read-only Paimon catalog")) ∧
      ∀ info tableIdentifier paimonOptions partKeys children (history : List (Performed Message)) insert,
        Run (Performs rt vane) (.new catalog.accessMode info tableIdentifier paimonOptions partKeys children) history
          insert →
        ∀ p ∈ history, (p.call.IsPrepare → ∃ e, p.result rt vane = .error e) ∧ .createTable ∉ p.events rt vane ∧
          ¬p.Commits rt vane := by
  obtain ⟨hmode, hreadOnly⟩ := attach_readOnly attached remote
  refine ⟨hreadOnly, planCreateTableAs_readOnly hmode, planInsert_readOnly hmode, ?_⟩
  intro info tableIdentifier paimonOptions partKeys children history insert run p hp
  obtain ⟨before, after, rfl⟩ := List.append_of_mem hp
  obtain ⟨middle, middle', hbefore, ⟨rfl, -⟩, -⟩ := run.step_of_mem
  -- the planner's part of the operator stays in every run
  have hschema : p.before.schema = some catalog.accessMode := congrArg Prod.fst (given_and_bound hbefore).1
  rw [hmode] at hschema
  exact performed_readOnly hschema

namespace Sample

/-- A host without secrets, whose identifiers are joined with a dot. -/
def planHost : PlanHost where
  lookupSecret _ := .ok none
  getEpochMs _ := .ok 0
  identifier databaseName tableName :=
    ⟨databaseName, tableName, databaseName ++ "." ++ tableName, databaseName ++ "." ++ tableName⟩
  resolveDefaultsProjection _ types := types

/-- A bucket, attached for writing. -/
def bucketCatalog : PaimonCatalog := ⟨"S3://bucket/wh", [], .readOnly, true⟩

/-- Nor is it written when the coordinator of an INSERT is asked to prepare it. -/
theorem object_store_is_never_written_bucket : bucketCatalog.readOnlyDatabase = true ∧
    ∀ p ∈ ([⟨.new bucketCatalog.accessMode none Write.Sample.identifier .empty [] [],
        .prepareDistributedWrite Write.Sample.prepareReplies⟩] : List (Performed String)),
      (p.call.IsPrepare → ∃ e, p.result Write.Sample.runtime .counting = .error e) ∧
        .createTable ∉ p.events Write.Sample.runtime .counting ∧ ¬p.Commits Write.Sample.runtime .counting := by
  have hattached : PaimonCatalog.attach planHost.toOptionsHost (fun _ _ => .ok ()) "S3://bucket/wh" [] .readWrite =
      .ok bucketCatalog := rfl
  obtain ⟨hreadOnly, -, -, hruns⟩ := @object_store_is_never_written String Write.Sample.runtime .counting
    planHost _ _ _ _ _ hattached (.inl (by decide))
  exact ⟨hreadOnly, hruns _ _ _ _ _ _ _ (Run.nil.snoc ⟨rfl, rfl⟩)⟩

end Sample

end DuckPaimon.Catalog
