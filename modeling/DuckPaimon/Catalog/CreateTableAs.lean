/-
CREATE TABLE AS, from its plan to its commit (paimon_catalog.cpp, paimon_schema_entry.cpp,
paimon_distributed_insert.cpp, paimon_insert.cpp): the table that is planned, that `PaimonSchemaEntry::CreateTable`
has Paimon create and that the workers are bound to is one and the same, so that nothing of the plan has to be
taken back once the table is there.
-/
import DuckPaimon.Catalog.Planner
import DuckPaimon.Catalog.Runs
import DuckPaimon.Write.Replaced
import DuckPaimon.Write.Replay
import DuckPaimon.Write.Success

namespace DuckPaimon.Catalog

open Outcome Write

variable {Message : Type} {rt : Runtime} {vane : Vane}

/-! ## The created table -/

/-- What `PaimonSchemaEntry::CreateTable` has Paimon create. -/
def tableDefinition (info : BoundCreateTableInfo) : Except Exception TableDefinition := do
  let primaryKeys ← getCreatePrimaryKeys info.toCreateTableInfo
  let partitionKeys ← info.partitionKeys.mapM PartitionExpression.column
  let options ← getCreateTableOptions info.toCreateTableInfo
  return { columnNames := info.columnNames, columnTypes := info.columnTypes, partitionKeys, primaryKeys, options }

/-- The state of a table that was just created under an identifier and at a path, which are its identity. -/
def createdTarget (identifier : Identifier) (tablePath : String) (definition : TableDefinition)
    (tableSchemaJson : String) : TargetState where
  tableUuid := identifier.fullName
  tablePath := tablePath
  tableSchemaJson := tableSchemaJson
  schemaId := 0
  appendOnly := definition.primaryKeys.isEmpty
  hasSnapshot := false
  snapshotId := 0
  fieldNames := definition.columnNames
  fieldTypes := definition.columnTypes
  partKeys := definition.partitionKeys
  primaryKeys := definition.primaryKeys
  tableOptions := definition.options
  nullPartName := nullPartition definition.options

theorem tableDefinition_eq_ok {info : BoundCreateTableInfo} {definition : TableDefinition} :
    tableDefinition info = .ok definition ↔ definition.columnNames = info.columnNames ∧
      definition.columnTypes = info.columnTypes ∧
      getCreatePrimaryKeys info.toCreateTableInfo = .ok definition.primaryKeys ∧
      info.partitionKeys.mapM PartitionExpression.column = .ok definition.partitionKeys ∧
      getCreateTableOptions info.toCreateTableInfo = .ok definition.options := by
  unfold tableDefinition
  constructor
  · intro h
    obtain ⟨primaryKeys, hprimary, h⟩ := bind_eq_ok.1 h
    obtain ⟨partitionKeys, hpartition, h⟩ := bind_eq_ok.1 h
    obtain ⟨options, hoptions, h⟩ := bind_eq_ok.1 h
    obtain rfl := pure_eq_ok.1 h
    exact ⟨rfl, rfl, hprimary, hpartition, hoptions⟩
  · obtain ⟨columnNames, columnTypes, partitionKeys, primaryKeys, options⟩ := definition
    rintro ⟨rfl, rfl, hprimary, hpartition, hoptions⟩
    exact bind_eq_ok.2 ⟨_, hprimary, bind_eq_ok.2 ⟨_, hpartition, bind_eq_ok.2 ⟨_, hoptions, rfl⟩⟩⟩

/-- A CREATE TABLE that returns had Paimon create the table of its definition. -/
theorem createTable_defines
    {addColumn : List ColumnDefinition → ColumnDefinition → Except Exception (List ColumnDefinition)}
    {replies : PaimonReplies} {info : BoundCreateTableInfo} {entry entry' : PaimonSchemaEntry}
    {found : Option PaimonTableEntry} {calls : List PaimonMutation}
    (h : (PaimonSchemaEntry.createTable addColumn replies info).run entry = (.ok found, entry', calls)) :
    ∃ definition, tableDefinition info = .ok definition ∧
      calls = [.createTable entry.name info.table definition (info.onConflict = .ignoreOnConflict)] := by
  unfold PaimonSchemaEntry.createTable at h
  obtain ⟨-, h⟩ := Proc.throwIf_bind_eq_ok.1 h
  rw [Proc.get_bind_eq_ok] at h
  obtain ⟨-, -, h⟩ := Proc.ofExcept_bind_eq_ok.1 h
  obtain ⟨primaryKeys, hprimary, h⟩ := Proc.ofExcept_bind_eq_ok.1 h
  obtain ⟨partitionKeys, hpartition, h⟩ := Proc.ofExcept_bind_eq_ok.1 h
  obtain ⟨options, hoptions, h⟩ := Proc.ofExcept_bind_eq_ok.1 h
  obtain ⟨rest, hrest, rfl⟩ := Proc.call_bind_eq_ok.1 h
  obtain ⟨-, -, hrest⟩ := Proc.ofExcept_bind_eq_ok.1 hrest
  have hdefines : tableDefinition info = .ok ⟨info.columnNames, info.columnTypes, partitionKeys,
    primaryKeys, options⟩ :=
    tableDefinition_eq_ok.2 ⟨rfl, rfl, hprimary, hpartition, hoptions⟩
  refine ⟨_, hdefines, ?_⟩
  -- the cached entry is refreshed without a call that changes Paimon
  have hrefresh : (PaimonSchemaEntry.onTables (PaimonTableSet.refreshEntry addColumn replies entry.name info.table)).wp
      entry fun _ _ calls => calls = [] := by
    unfold PaimonSchemaEntry.onTables
    rw [Proc.wp_zoom]
    exact Proc.wp_mono (wp_refreshEntry replies entry.name info.table entry.tables) fun _ _ _ hquiet => hquiet.1
  rw [Proc.wp_run hrefresh hrest]

/-! ## The plan -/

/-- What `PlanCreateTableAs` gives the operator. -/
theorem planCreateTableAs_eq_ok {host : PlanHost} {catalog : PaimonCatalog} {op : LogicalCreateTable}
    {plan : List LogicalType} {insert : PhysicalPaimonInsert}
    (h : PaimonCatalog.planCreateTableAs host catalog op plan = .ok insert) : catalog.accessMode ≠ .readOnly ∧
      op.info.partitionKeys.mapM PartitionExpression.column = .ok insert.partKeys ∧
      insert = { PhysicalPaimonInsert.new catalog.accessMode (some op.info.toCreateTableInfo)
        (host.identifier op.schema op.info.table) insert.paimonOptions insert.partKeys [plan] with
        distributedContext := true } := by
  unfold PaimonCatalog.planCreateTableAs at h
  obtain ⟨hmode, h⟩ := throwIf_bind_eq_ok.1 h
  obtain ⟨paimonOptions, -, h⟩ := bind_eq_ok.1 h
  obtain ⟨partKeys, hkeys, h⟩ := bind_eq_ok.1 h
  obtain rfl := pure_eq_ok.1 h
  exact ⟨hmode, hkeys, rfl⟩

/-- The operator of a CREATE TABLE AS once its plan is selected, with the bind of its target. -/
def ctasSelected (rt : Runtime) (insert : PhysicalPaimonInsert) (operationId tablePath workerBindData : String)
    (definition : TableDefinition) : PhysicalPaimonInsert :=
  { insert with
    distributedWritePlan := ⟨"paimon", "ctas", workerBindData⟩
    distributedOperationId := operationId
    distributedTableUuid := insert.tableIdentifier.fullName
    distributedTablePath := tablePath
    distributedSchemaFingerprint := plannedSchemaFingerprint rt definition.columnNames definition.columnTypes
      insert.partKeys definition.primaryKeys definition.options
    distributedInputTypes := definition.columnTypes
    distributedInputNames := definition.columnNames
    distributedPrimaryKeys := definition.primaryKeys
    distributedTableOptions := definition.options
    distributedPortableOptions := getPortableWriteOptions insert.paimonOptions
    distributedNullPartName := nullPartition definition.options
    distributedSchemaId := 0
    distributedCommitIdentifier := createCommitIdentifier rt operationId
    distributedAppendOnly := definition.primaryKeys.isEmpty
    distributedHasSnapshot := false
    distributedSnapshotId := 0
    distributedTargetInitialized := true
    distributedWorkerPlanSelected := true }

/-- A CREATE TABLE AS is planned for an append-only table that may not exist. -/
theorem planCTAS_returns {inputTypes : List LogicalType} {createInfo : CreateTableInfo} {tableLocation : Result String}
    {insert insert' : PhysicalPaimonInsert} {events : List (Event Message)}
    (h : (planCTAS rt inputTypes createInfo tableLocation).run insert = (.ok (), insert', events))
    (hinfo : insert.info = some createInfo) :
    ∃ tableOptions tablePath, getCreatePrimaryKeys createInfo = .ok [] ∧
      getCreateTableOptions createInfo = .ok tableOptions ∧ createInfo.onConflict = .errorOnConflict ∧
      inputTypes = createInfo.columnTypes ∧ tableLocation = .ok tablePath ∧
      insert' = { insert with
        distributedTableUuid := insert.tableIdentifier.fullName
        distributedTablePath := tablePath
        distributedSchemaFingerprint := plannedSchemaFingerprint rt createInfo.columnNames createInfo.columnTypes
          insert.partKeys [] tableOptions
        distributedInputTypes := createInfo.columnTypes
        distributedInputNames := createInfo.columnNames
        distributedPrimaryKeys := []
        distributedTableOptions := tableOptions
        distributedNullPartName := nullPartition tableOptions
        distributedSchemaId := 0
        distributedAppendOnly := true
        distributedHasSnapshot := false
        distributedSnapshotId := 0 } := by
  unfold planCTAS at h
  rw [Proc.modify_bind_eq_ok] at h
  obtain ⟨htypes, h⟩ := Proc.throwIf_bind_eq_ok.1 h
  obtain ⟨primaryKeys, hprimary, h⟩ := Proc.ofExcept_bind_eq_ok.1 h
  rw [Proc.modify_bind_eq_ok] at h
  obtain ⟨tableOptions, hoptions, h⟩ := Proc.ofExcept_bind_eq_ok.1 h
  rw [Proc.modify_bind_eq_ok, Proc.get_bind_eq_ok] at h
  obtain ⟨⟨⟩, hvalid, h⟩ := Proc.ofExcept_bind_eq_ok.1 h
  rw [Proc.modify_bind_eq_ok] at h
  unfold validateCTASDefinition at hvalid
  dsimp only at hvalid
  rw [hinfo] at hvalid
  obtain ⟨hconflict, hvalid⟩ := Outcome.throwIf_bind_eq_ok.1 hvalid
  rw [throwIf_eq_ok, not_not] at hvalid
  rw [not_not] at htypes hconflict
  subst hvalid
  cases tableLocation with
  | error status => exact absurd h Proc.run_throw_ne_ok
  | ok tablePath =>
    obtain ⟨rfl, -⟩ := Proc.run_modify_eq_ok.1 h
    exact ⟨tableOptions, tablePath, hprimary, hoptions, hconflict, htypes, rfl, rfl⟩

/-- A published plan is the operator's own, with the bind of its target. -/
theorem publishPlan_returns {insert insert' : PhysicalPaimonInsert} {events : List (Event Message)}
    (h : (publishPlan rt).run insert = (.ok (), insert', events)) (hctas : insert.expectedKind = .ctas) :
    ∃ workerBindData, serializeTransport rt insert.transport = .ok workerBindData ∧
      insert' = { insert with
        distributedWritePlan := ⟨"paimon", "ctas", workerBindData⟩
        distributedTargetInitialized := true } := by
  unfold publishPlan at h
  rw [Proc.get_bind_eq_ok, hctas] at h
  obtain ⟨operatorName, hname, h⟩ := Proc.ofExcept_bind_eq_ok.1 h
  obtain rfl : "ctas" = operatorName := pure_eq_ok.1 hname
  rw [Proc.modify_bind_eq_ok] at h
  obtain ⟨workerBindData, hserialize, h⟩ := Proc.ofExcept_bind_eq_ok.1 h
  obtain ⟨rfl, -⟩ := Proc.run_modify_eq_ok.1 h
  exact ⟨workerBindData, hserialize, rfl⟩

/-- A plan that is selected is for the definition, which has no primary keys. -/
theorem selected_ctas {host : PlanHost} {catalog : PaimonCatalog} {op : LogicalCreateTable} {child : List LogicalType}
    {unplanned selected : PhysicalPaimonInsert} {plan : PlanReplies} {events : List (Event Message)}
    (planned : PaimonCatalog.planCreateTableAs host catalog op child = .ok unplanned)
    (selects : (getExtensionWriteTaskProvider rt plan).run unplanned = (.ok (), selected, events)) :
    ∃ definition tablePath workerBindData, tableDefinition op.info = .ok definition ∧ definition.primaryKeys = [] ∧
      op.info.onConflict = .errorOnConflict ∧ child = definition.columnTypes ∧
      definition.partitionKeys = unplanned.partKeys ∧ plan.tableLocation = .ok tablePath ∧
      selected = ctasSelected rt unplanned plan.operationId tablePath workerBindData definition ∧
      Published rt selected := by
  obtain ⟨-, hkeys, hnew⟩ := planCreateTableAs_eq_ok planned
  have hfields : unplanned.info = some op.info.toCreateTableInfo ∧ unplanned.children = [child] ∧
      unplanned.distributedWorkerPlanSelected = false ∧ unplanned.distributedTargetInitialized = false := by
    rw [hnew]
    exact ⟨rfl, rfl, rfl, rfl⟩
  obtain ⟨hinfo, hchildren, hunselected, hopen⟩ := hfields
  unfold getExtensionWriteTaskProvider selectWorkerPlan at selects
  rw [Proc.get_bind_eq_ok, hunselected, if_neg Bool.false_ne_true, Proc.get_bind_eq_ok, hchildren] at selects
  obtain ⟨-, selects⟩ := Proc.throwIf_bind_eq_ok.1 selects
  rw [hopen, if_neg Bool.false_ne_true] at selects
  obtain ⟨⟨⟩, initialized, _, _, hinitialize, hselected, -⟩ := Proc.run_bind_eq_ok.1 selects
  obtain ⟨rfl, -⟩ := Proc.run_modify_eq_ok.1 hselected
  unfold initializeDistributedWrite at hinitialize
  rw [Proc.get_bind_eq_ok] at hinitialize
  obtain ⟨-, hinitialize⟩ := Proc.throwIf_bind_eq_ok.1 hinitialize
  obtain ⟨-, hinitialize⟩ := Proc.throwIf_bind_eq_ok.1 hinitialize
  rw [Proc.modify_bind_eq_ok] at hinitialize
  split at hinitialize
  · rename_i createInfo hsome
    obtain rfl := Option.some.inj (hinfo.symm.trans hsome)
    obtain ⟨⟨⟩, target, _, _, hplan, hpublish, -⟩ := Proc.run_bind_eq_ok.1 hinitialize
    obtain ⟨tableOptions, tablePath, hprimary, hoptions, hconflict, htypes, hlocation, rfl⟩ :=
      planCTAS_returns hplan hinfo
    obtain ⟨workerBindData, hserialize, rfl⟩ :=
      publishPlan_returns hpublish (by simp [PhysicalPaimonInsert.expectedKind, hinfo])
    have hdefines : tableDefinition op.info =
        .ok ⟨op.info.columnNames, op.info.columnTypes, unplanned.partKeys, [], tableOptions⟩ :=
      tableDefinition_eq_ok.2 ⟨rfl, rfl, hprimary, hkeys, hoptions⟩
    exact ⟨_, tablePath, workerBindData, hdefines, rfl, hconflict, htypes, rfl, hlocation, rfl, hserialize⟩
  · rename_i hnone
    cases hinfo.symm.trans hnone

/-! ## The preparation -/

theorem withMutationLock_returns {α : Type} {body : Coordinator Message α}
    {insert insert' : PhysicalPaimonInsert} {a : α}
    (events : List (Event Message)) (h : body.run insert = (.ok a, insert', events)) :
    (withMutationLock body).run insert = (.ok a, insert', .lock :: events ++ [.unlock]) := by
  refine Proc.run_bind_eq_ok.2 ⟨(), insert, [.lock], events ++ [.unlock], rfl, ?_, rfl⟩
  exact Proc.run_bind_eq_ok.2 ⟨a, insert', events, [.unlock], Proc.run_tryCatch_of_ok h, rfl, rfl⟩

/-- The coordinator accepts the shape of a selected plan. -/
theorem shape_ctasSelected {insert selected : PhysicalPaimonInsert} {operationId tablePath workerBindData : String}
    {definition : TableDefinition} (lawful : rt.binary.Lawful) (hinfo : insert.info.isSome = true)
    (hchildren : insert.children = [definition.columnTypes]) (hprimary : definition.primaryKeys = [])
    (hselected : selected = ctasSelected rt insert operationId tablePath workerBindData definition)
    (published : Published rt selected) : validateCoordinatorShape rt selected = .ok () := by
  have hbind : workerBindData ≠ "" := by
    subst hselected
    exact serializeTransport_ne_empty lawful published
  refine (shape_of_bind lawful published ?_ ?_ ?_).2
  · simp [TransportMismatch, PhysicalPaimonInsert.transport]
  · rw [hselected, ctasSelected, hprimary]
    rfl
  · subst hselected
    simp [ShapeMismatch, ctasSelected, hinfo, hchildren, hbind]

/-- The operator of a CREATE TABLE AS once its table is created and captured. -/
def ctasPrepared (selected : PhysicalPaimonInsert) (tableSchemaJson : String) : PhysicalPaimonInsert :=
  { selected with
    distributedPrepareStarted := true
    distributedTableSchemaJson := tableSchemaJson
    distributedTargetPrepared := true }

/-- Where the table is absent, is created and is then as it was planned, the first preparation of a CREATE TABLE AS
returns. -/
theorem prepares_ctas {selected : PhysicalPaimonInsert} {createInfo : CreateTableInfo} {prepare : PrepareReplies}
    {tableSchemaJson : String} (shape : validateCoordinatorShape rt selected = .ok ())
    (first : selected.distributedPrepareStarted = false) (writable : getCoordinatorCatalog selected = .ok ())
    (hinfo : selected.info = some createInfo) (hconflict : createInfo.onConflict = .errorOnConflict)
    (hprimary : selected.distributedPrimaryKeys = []) (absent : prepare.tableExists = .ok false)
    (creates : prepare.createTable = .ok ())
    (unsnapshotted : selected.distributedHasSnapshot = false ∧ selected.distributedSnapshotId = 0)
    (captured : loadTargetState selected.tableIdentifier prepare.created =
      .ok (ctasPrepared selected tableSchemaJson).recorded) :
    (prepareDistributedWrite rt prepare : Coordinator Message Unit).run selected =
      (.ok (), ctasPrepared selected tableSchemaJson,
        [.lock, .unlock, .lock, .createTable, .unlock, .lock, .loadTarget, .unlock]) := by
  -- the three sections of the lock, in order: the table is absent, it is created, it is recorded
  have hdefinition : validateCTASDefinition selected = .ok () := by
    unfold validateCTASDefinition
    rw [hinfo]
    exact Outcome.throwIf_bind_eq_ok.2 ⟨not_not.2 hconflict, throwIf_eq_ok.2 (not_not.2 hprimary)⟩
  have hstarted : (enterPrepare rt : Coordinator Message PhysicalPaimonInsert).run selected =
      (.ok selected, { selected with distributedPrepareStarted := true }, []) := by
    refine Proc.get_bind_eq_ok.2 (Proc.ofExcept_bind_eq_ok.2 ⟨(), shape, Proc.throwIf_bind_eq_ok.2 ⟨?_, rfl⟩⟩)
    rw [first]
    exact Bool.false_ne_true
  have habsent : (checkAbsent prepare.tableExists : Coordinator Message Unit).run
      { selected with distributedPrepareStarted := true } =
        (.ok (), { selected with distributedPrepareStarted := true }, [.lock, .unlock]) := by
    have htarget : validateCTASTargetAbsent { selected with distributedPrepareStarted := true } prepare.tableExists =
        .ok () := by
      rw [absent]
      exact bind_eq_ok.2 ⟨(), hdefinition, bind_eq_ok.2 ⟨false, rfl, throwIf_eq_ok.2 Bool.false_ne_true⟩⟩
    refine withMutationLock_returns [] (Proc.get_bind_eq_ok.2 ?_)
    refine Proc.ofExcept_bind_eq_ok.2 ⟨(), writable, ?_⟩
    rw [htarget]
    rfl
  have hcreated : (createTarget prepare.createTable : Coordinator Message Unit).run
      { selected with distributedPrepareStarted := true } =
        (.ok (), { selected with distributedPrepareStarted := true }, [.lock, .createTable, .unlock]) := by
    refine withMutationLock_returns [.createTable] (Proc.call_bind_eq_ok.2 ⟨[], ?_, rfl⟩)
    rw [creates]
    rfl
  have hcaptured : (captureTarget prepare.created : Coordinator Message Unit).run
      { selected with distributedPrepareStarted := true } =
        (.ok (), ctasPrepared selected tableSchemaJson, [.lock, .loadTarget, .unlock]) := by
    refine Proc.run_bind_eq_ok.2 ⟨(), { selected with
      distributedPrepareStarted := true, distributedTableSchemaJson := tableSchemaJson },
      [.lock, .loadTarget, .unlock], [], ?_, rfl, rfl⟩
    refine withMutationLock_returns [.loadTarget] (Proc.get_bind_eq_ok.2 ?_)
    refine Proc.ofExcept_bind_eq_ok.2 ⟨(), writable, ?_⟩
    refine Proc.call_bind_eq_ok.2 ⟨[], Proc.ofExcept_bind_eq_ok.2 ⟨_, captured, ?_⟩, rfl⟩
    refine Proc.throwIf_bind_eq_ok.2 ⟨?_, rfl⟩
    simp [PreparedMismatch, PhysicalPaimonInsert.recorded, ctasPrepared, unsnapshotted]
  have hbegun : (beginPrepare rt prepare.tableExists : Coordinator Message Unit).run selected =
      (.ok (), { selected with distributedPrepareStarted := true }, [.lock, .unlock]) :=
    Proc.run_bind_eq_ok.2 ⟨selected, _, [], _, hstarted, Proc.ofExcept_bind_eq_ok.2 ⟨(), hdefinition, habsent⟩, rfl⟩
  rw [prepareDistributedWrite_ctas rt prepare (hinfo ▸ Option.some_ne_none createInfo)]
  exact Proc.run_bind_eq_ok.2 ⟨(), _, _, _, hbegun, Proc.run_bind_eq_ok.2 ⟨(), _, _, _, hcreated, hcaptured, rfl⟩, rfl⟩

/-! ## From the plan to the commit -/

/-- Paimon serves the table a statement had it create as it was defined: under its full name, at the location that
was resolved before, with its first schema and without a snapshot. -/
def ServesCreated (identifier : Identifier) (tableLocation : Result String) (calls : List PaimonMutation)
    (served : CatalogReplies) : Prop :=
  ∀ databaseName tableName definition ignoreIfExists tablePath,
    calls = [.createTable databaseName tableName definition ignoreIfExists] → tableLocation = .ok tablePath →
      ∃ tableSchemaJson, Describe served (createdTarget identifier tablePath definition tableSchemaJson)

/-- What a CREATE TABLE AS has come to once its plan is selected and its table is created. -/
structure Created (rt : Runtime) (op : LogicalCreateTable) (selected : PhysicalPaimonInsert)
    (calls : List PaimonMutation) (served : CatalogReplies) (definition : TableDefinition) (tableSchemaJson : String) :
    Prop where
  defines : tableDefinition op.info = .ok definition
  calls : calls = [.createTable op.schema op.info.table definition false]
  bound : selected.transport.inputNames = definition.columnNames ∧
    selected.transport.inputTypes = definition.columnTypes ∧ selected.transport.partKeys = definition.partitionKeys ∧
    selected.transport.nullPartName = nullPartition definition.options
  served : Describe served (ctasPrepared selected tableSchemaJson).recorded
  initialized : selected.distributedWorkerPlanSelected = selected.distributedTargetInitialized
  published : Published rt selected

section Statement

variable {host : PlanHost} {catalog : PaimonCatalog} {op : LogicalCreateTable} {child : List LogicalType}
  {unplanned selected : PhysicalPaimonInsert} {plan : PlanReplies} {planning : List (Event Message)}
  {addColumn : List ColumnDefinition → ColumnDefinition → Except Exception (List ColumnDefinition)}
  {replies : PaimonReplies} {entry entry' : PaimonSchemaEntry} {found : Option PaimonTableEntry}
  {calls : List PaimonMutation} {served : CatalogReplies} {codec : MessageCodec Message} {render : Value → String}
  {info : DistributedExtensionWriteInfo} {workers : List (WorkerRun Message)} {options : StringMap}
  {decode : DecodeReplies Message} {commit : CommitReplies}

/-- The table that is created is the one that was planned. -/
theorem created_ctas (lawful : rt.binary.Lawful)
    (planned : PaimonCatalog.planCreateTableAs host catalog op child = .ok unplanned)
    (selects : (getExtensionWriteTaskProvider rt plan).run unplanned = (.ok (), selected, planning))
    (named : entry.name = op.schema)
    (creates : (PaimonSchemaEntry.createTable addColumn replies op.info).run entry = (.ok found, entry', calls))
    (serves : ServesCreated unplanned.tableIdentifier plan.tableLocation calls served) :
    ∃ definition tableSchemaJson, Created rt op selected calls served definition tableSchemaJson ∧
      (∀ baseline, (prepareDistributedWrite rt ⟨baseline, .ok false, .ok (), served⟩ : Coordinator Message Unit).run
        selected = (.ok (), ctasPrepared selected tableSchemaJson,
          [.lock, .unlock, .lock, .createTable, .unlock, .lock, .loadTarget, .unlock])) ∧
      validateCoordinatorShape rt selected = .ok () ∧ getCoordinatorCatalog selected = .ok () ∧
      selected.distributedFinalizeStarted = false ∧ selected.tableIdentifier = unplanned.tableIdentifier := by
  obtain ⟨definition, tablePath, workerBindData, hdefines, hprimary, hconflict, htypes, hkeys, hlocation, hselected,
    hpublished⟩ := selected_ctas planned selects
  obtain ⟨definition', hdefines', hcalls⟩ := createTable_defines creates
  -- both read the definition off the same statement
  obtain rfl := Except.ok.inj (hdefines.symm.trans hdefines')
  rw [named, hconflict] at hcalls
  obtain ⟨tableSchemaJson, hserved⟩ := serves _ _ _ _ _ hcalls hlocation
  obtain ⟨hmode, -, hnew⟩ := planCreateTableAs_eq_ok planned
  have hgiven : unplanned.info = some op.info.toCreateTableInfo ∧ unplanned.children = [child] ∧
      unplanned.schema = some catalog.accessMode ∧ unplanned.distributedPrepareStarted = false ∧
      unplanned.distributedFinalizeStarted = false := by
    rw [hnew]
    exact ⟨rfl, rfl, rfl, rfl, rfl⟩
  obtain ⟨hinfo, hchildren, hschema, hfirst, hunfinished⟩ := hgiven
  have hshape : validateCoordinatorShape rt selected = .ok () :=
    shape_ctasSelected lawful (by rw [hinfo]; rfl) (by rw [hchildren, htypes]) hprimary hselected hpublished
  have hcatalog : getCoordinatorCatalog selected = .ok () := by
    rw [hselected]
    unfold getCoordinatorCatalog ctasSelected
    rw [hschema]
    exact throwIf_eq_ok.2 hmode
  -- only the JSON of the schema was unknown when the plan was made
  have hdescribes : Describe served (ctasPrepared selected tableSchemaJson).recorded := by
    rw [hselected]
    unfold ctasPrepared ctasSelected PhysicalPaimonInsert.recorded
    rw [← hkeys]
    exact hserved
  refine ⟨definition, tableSchemaJson, ⟨hdefines, hcalls, ?_, hdescribes, ?_, hpublished⟩, ?_, hshape, hcatalog, ?_, ?_⟩
  · rw [hselected]
    exact ⟨rfl, rfl, hkeys.symm, rfl⟩
  · rw [hselected]
    rfl
  · intro baseline
    refine prepares_ctas hshape ?_ hcatalog ?_ hconflict ?_ rfl rfl ?_ (loadTargetState_eq_ok.2 hdescribes)
    · rw [hselected]
      exact hfirst
    · rw [hselected]
      exact hinfo
    · rw [hselected]
      exact hprimary
    · rw [hselected]
      exact ⟨rfl, rfl⟩
  · rw [hselected]
    exact hunfinished
  · rw [hselected]
    rfl

/-- A CREATE TABLE AS that is planned is carried through: if its table is absent and created, the table is the one
its workers are bound to, the first preparation returns, and so does the first finalization over the results of
honest workers, which commits all they prepared as one operation and returns the number of their rows. -/
theorem planned_ctas_commits (planned : PaimonCatalog.planCreateTableAs host catalog op child = .ok unplanned)
    (selects : (getExtensionWriteTaskProvider rt plan).run unplanned = (.ok (), selected, planning))
    (named : entry.name = op.schema)
    (creates : (PaimonSchemaEntry.createTable addColumn replies op.info).run entry = (.ok found, entry', calls))
    (serves : ServesCreated unplanned.tableIdentifier plan.tableLocation calls served)
    (honest : HonestWrite rt vane codec render info selected workers)
    (decodes : decode.paimonOptions = .ok options ∧ decode.resolvedInfo = .ok info ∧ decode.codec = codec)
    (unchanged : commit.baseline = served) (committer : createCommitter commit.committer = .ok ())
    (commits : commit.commit = .ok 1) :
    ∃ definition prepared, tableDefinition op.info = .ok definition ∧
      calls = [.createTable op.schema op.info.table definition false] ∧
      selected.transport.inputNames = definition.columnNames ∧ selected.transport.inputTypes = definition.columnTypes ∧
      selected.transport.partKeys = definition.partitionKeys ∧
      selected.transport.nullPartName = nullPartition definition.options ∧
      (∀ baseline, (prepareDistributedWrite rt ⟨baseline, .ok false, .ok (), served⟩ : Coordinator Message Unit).run
        selected = (.ok (), prepared, [.lock, .unlock, .lock, .createTable, .unlock, .lock, .loadTarget, .unlock])) ∧
      (finalizeDistributedWrite rt vane decode commit (workers.map (WorkerRun.result info))).run prepared =
        (.ok (UInt64.ofNat (allRows workers)), prepared.finalizing,
          if allRows workers = 0 then [.lock, .loadTarget, .unlock]
          else [.lock, .loadTarget, .filterAndCommit selected.distributedCommitIdentifier (allPrepared workers),
            .unlock]) := by
  obtain ⟨definition, tableSchemaJson, hcreated, hprepares, hshape, hcatalog, hunfinished, -⟩ :=
    created_ctas honest.lawful planned selects named creates serves
  obtain ⟨hnames, htypes, hkeys, hnull⟩ := hcreated.bound
  refine ⟨definition, ctasPrepared selected tableSchemaJson, hcreated.defines, hcreated.calls, hnames,
    htypes, hkeys, hnull, hprepares, ?_⟩
  have hhonest : HonestWrite rt vane codec render info (ctasPrepared selected tableSchemaJson) workers :=
    ⟨honest.lawful, honest.trips, honest.sums, honest.registered, honest.honest, honest.valid,
      honest.query, honest.tasks, honest.distinct, honest.small, honest.rows⟩
  have hbound : Bound rt (ctasPrepared selected tableSchemaJson) := ⟨hcreated.initialized, fun _ => hcreated.published⟩
  have hbaseline : AtBaseline (ctasPrepared selected tableSchemaJson) commit.baseline := by
    refine ⟨hcatalog, ?_⟩
    rw [unchanged]
    exact loadTargetState_eq_ok.2 hcreated.served
  exact hhonest.finalizes hbound hshape rfl hunfinished decodes hbaseline committer commits

/-- What honest workers of a CREATE TABLE AS do, a native one could have done: it creates the same table, finds it
as the workers were bound to it, and with their chunks makes the same writes in the same order, one commit of all
messages they prepared, and their rows as its count. -/
theorem distributed_ctas_refines_native (lawful : rt.binary.Lawful)
    (planned : PaimonCatalog.planCreateTableAs host catalog op child = .ok unplanned)
    (selects : (getExtensionWriteTaskProvider rt plan).run unplanned = (.ok (), selected, planning))
    (named : entry.name = op.schema)
    (creates : (PaimonSchemaEntry.createTable addColumn replies op.info).run entry = (.ok found, entry', calls))
    (serves : ServesCreated unplanned.tableIdentifier plan.tableLocation calls served)
    (bound : info.workerBindData = selected.distributedWritePlan.workerBindData)
    (honest : ∀ worker ∈ workers, worker.Honest rt vane codec render info) :
    ∃ (native : NativeInsertGlobalState Message) (history : List (NativeRecord Message)) (s : NativeState Message),
      (getGlobalSinkState unplanned ⟨.ok (), served.getTableLocation, served.loadTableSchema⟩).run () =
          (.ok native, (), [NativeEvent.createTable]) ∧
      Run (NativeStep render) { global := native } history s ∧ (∀ record ∈ history, record.result = .ok ()) ∧
      nativeWrites history = (workers.flatMap fun worker => workerWrites worker.history) ∧
      nativeSunk history = (workers.flatMap fun worker => workerSunk worker.history) ∧
      nativeCommits history = (if allPrepared workers = [] then [] else [(allPrepared workers).map some]) ∧
      nativeEmits history = [(UInt64.ofNat (allRows workers)).toInt64] := by
  obtain ⟨definition, tableSchemaJson, hcreated, -, -, -, -, -⟩ :=
    created_ctas lawful planned selects named creates serves
  obtain ⟨definition', -, -, hdefines', -, -, -, hkeys, -⟩ := selected_ctas planned selects
  obtain rfl := Except.ok.inj (hcreated.defines.symm.trans hdefines')
  have hinfo : unplanned.info.isSome = true := by
    rw [(planCreateTableAs_eq_ok planned).2.2]
    rfl
  have hbind : deserializeTransport rt info.workerBindData = .ok selected.transport := by
    rw [bound]
    exact deserializeTransport_serializeTransport lawful hcreated.published
  obtain ⟨native, hlocate, htarget⟩ : ∃ native : NativeInsertGlobalState Message, _ :=
    locateSink_described selected.transport (.ok ()) hcreated.served
      (hcreated.bound.2.2.1.trans hkeys) rfl rfl (partKeys_of_serializeTransport hcreated.published)
  obtain ⟨history, s, hrun, hall, hwrites, hsunk, hcommits, hemits⟩ :=
    honest_workers_native hbind honest hlocate htarget
  refine ⟨native, history, s, ?_, hrun, hall, hwrites, hsunk, hcommits, hemits⟩
  refine Proc.run_eq ?_
  unfold getGlobalSinkState createSinkTable
  rw [hinfo, hlocate]
  simp only [if_true, Proc.wp_bind, Proc.wp_call, Proc.wp_ofExcept]
  exact ⟨trivial, trivial, rfl⟩

end Statement

namespace Sample

/-! ## A CREATE TABLE AS of one row -/

def localCatalog : PaimonCatalog := ⟨"/wh", [], .automatic, false⟩

def createT : LogicalCreateTable := ⟨"db", ⟨Write.Sample.createInfo, "t", []⟩⟩

def localOptions : StringMap := (SortedMap.empty.insert fileSystemKey "local").emplace readBatchSizeKey "2048"

def unplannedT : PhysicalPaimonInsert := { Write.Sample.unplannedCTAS with
  paimonOptions := localOptions
  distributedContext := true }

def selectedT : PhysicalPaimonInsert := { Write.Sample.plannedCTAS with paimonOptions := localOptions }

theorem planCreateTableAs_createT :
    PaimonCatalog.planCreateTableAs planHost localCatalog createT [{ id := .integer }] = .ok unplannedT := by
  rfl

theorem selects_createT : (getExtensionWriteTaskProvider Write.Sample.runtime Write.Sample.ctasPlan :
      Coordinator String Unit).run unplannedT = (.ok (), selectedT, []) := by
  rfl

def createTReplies : PaimonReplies where
  listDatabases := .ok ["db"]
  listTables _ := .ok ["t"]
  loadTableSchema _ _ := .ok (some ⟨["a"], none, .ok (some (.ok table)), .ok ""⟩)

def createdEntry : PaimonSchemaEntry :=
  { name := "db", tables := { entries := FoldMap.empty.emplace "t" ⟨"t", [⟨"a", { id := .integer }⟩]⟩ } }

theorem createTable_createT : (PaimonSchemaEntry.createTable addColumn createTReplies createT.info).run
    { name := "db" } = (.ok (some ⟨"t", [⟨"a", { id := .integer }⟩]⟩), createdEntry,
      [.createTable "db" "t" ⟨["a"], [{ id := .integer }], [], [], .empty⟩ false]) := by
  rfl

theorem serves_createT : ServesCreated unplannedT.tableIdentifier (.ok "/wh/db.db/t")
    [.createTable "db" "t" ⟨["a"], [{ id := .integer }], [], [], .empty⟩ false] Write.Sample.ctasReplies := by
  rintro databaseName tableName definition ignoreIfExists tablePath hcalls hlocation
  cases hcalls
  cases hlocation
  have hloaded : loadTargetState unplannedT.tableIdentifier Write.Sample.ctasReplies =
      .ok (createdTarget unplannedT.tableIdentifier "/wh/db.db/t"
        ⟨["a"], [{ id := .integer }], [], [], .empty⟩ "{}") := by
    rfl
  exact ⟨"{}", loadTargetState_eq_ok.1 hloaded⟩

/-! ## Its worker -/

def infoT : DistributedExtensionWriteInfo :=
  { Write.Sample.ctasInfo with workerBindData := writeTransport Write.Sample.runtime Write.Sample.ctasTransport }

def globalT : PaimonDistributedInsertGlobalState String :=
  { Write.Sample.worker with transport := Write.Sample.ctasTransport }

theorem initializeGlobal_createT : paimonDistributedInsertInitializeGlobal Write.Sample.runtime .counting (.ok .empty)
    infoT Write.Sample.task = .ok globalT := by
  unfold paimonDistributedInsertInitializeGlobal
  refine throwIf_bind_eq_ok.2 ⟨by decide, bind_eq_ok.2 ⟨(), rfl, bind_eq_ok.2 ⟨Write.Sample.ctasTransport, ?_, rfl⟩⟩⟩
  exact deserializeTransport_serializeTransport binaryFormat_lawful Write.Sample.serializeTransport_ctas

/-- The worker that takes a row and is combined. -/
def workerT : WorkerRun String where
  task := Write.Sample.task
  history := Write.Sample.workerHistory
  fragments :=
    [{ fragmentId := expectedFragmentId Write.Sample.ctasTransport.operationId Write.Sample.task.taskAttemptId
       payload := serializeCommitEnvelope Write.Sample.runtime
         (workerEnvelope 1 Write.Sample.task
           { Write.Sample.combined.global with transport := Write.Sample.ctasTransport, finalized := true }
           (writeTransport Write.Sample.runtime Write.Sample.ctasTransport)
           (String.ofList (Code.string.list.write ["data-0.orc"])))
       rowCount := 1
       byteCount := 0 }]

theorem run_workerT : Run (ReturningStep Write.Sample.runtime .counting 1 fun _ => "") { global := globalT }
    Write.Sample.workerHistory
    { Write.Sample.combined with
      global := { Write.Sample.combined.global with transport := Write.Sample.ctasTransport } } := by
  have hnew : WorkerStep Write.Sample.runtime .counting 1 (fun _ => "") { global := globalT }
      ⟨.initializeLocal, (Except.ok {}).map fun (_ : PaimonDistributedInsertLocalState) => [], []⟩
      { global := { globalT with nextWriteId := 1 }, locals := [{}] } :=
    .initializeLocal Write.Sample.task ⟨.ok (), .ok ()⟩ rfl
  have hsink : WorkerStep Write.Sample.runtime .counting 1 (fun _ => "")
      { global := { globalT with nextWriteId := 1 }, locals := [{}] }
      ⟨.sink 0 Write.Sample.oneRow, (Except.ok ()).map fun _ => [], [⟨.empty, [0]⟩].map .write⟩
      { global := { globalT with nextWriteId := 1 }, locals := [{ rowCount := 1 }] } :=
    .sink 0 Write.Sample.task (fun _ => .ok ()) Write.Sample.oneRow rfl rfl
  have hcombine : WorkerStep Write.Sample.runtime .counting 1 (fun _ => "")
      { global := { globalT with nextWriteId := 1 }, locals := [{ rowCount := 1 }] }
      ⟨.combine 0, (Except.ok ()).map fun _ => [], [.prepareCommit [some "data-0.orc"], .close]⟩
      { Write.Sample.combined with
        global := { Write.Sample.combined.global with transport := Write.Sample.ctasTransport } } :=
    .combine 0 Write.Sample.task ⟨.ok [some "data-0.orc"], .ok (), .ok ()⟩ rfl rfl (by decide)
  refine .snoc (.snoc (.snoc .nil ⟨hnew, ⟨[], rfl⟩, by rintro ⟨⟩, by rintro _ _ _ ⟨⟩⟩)
    ⟨hsink, ⟨[], rfl⟩, by rintro ⟨⟩, ?_⟩) ⟨hcombine, ⟨[], rfl⟩, by rintro ⟨⟩, by rintro _ _ _ ⟨⟩⟩
  rintro _ _ lstate ⟨⟩ ⟨⟩
  rfl

theorem honest_workerT : workerT.Honest Write.Sample.runtime .counting (.text 1) (fun _ => "") infoT := by
  refine ⟨.ok .empty, globalT, _, ⟨(MessageCodec.text 1).serializeList, .ok ()⟩,
    { Write.Sample.combined.global with transport := Write.Sample.ctasTransport, finalized := true, messages := [] },
    [.serializeList ["data-0.orc"] ((MessageCodec.text 1).serializeList ["data-0.orc"])], initializeGlobal_createT,
    run_workerT, ?_, rfl, rfl⟩
  intro lstate hlstate
  rw [List.mem_singleton.1 hlstate]

theorem honestWrite_createT : HonestWrite Write.Sample.runtime .counting (.text 1) (fun _ => "") infoT selectedT
    [workerT] where
  lawful := binaryFormat_lawful
  trips := Write.Sample.text_roundTrips 1 (by decide)
  sums := Write.Sample.counting_sums
  registered := ⟨rfl, rfl, rfl, rfl, rfl⟩
  honest := by
    rw [List.forall_mem_singleton]
    exact honest_workerT
  valid _ _ := rfl
  query := by simp
  tasks := List.nodup_singleton _
  distinct := by decide
  small := by
    rw [List.forall_mem_singleton]
    rintro bytes ⟨⟩
    decide +kernel
  rows := by decide

def decodeT : DecodeReplies String := { Write.Sample.decodeReplies with resolvedInfo := .ok infoT }

/-- The row of the CREATE TABLE AS is committed to the table it creates. -/
theorem planned_ctas_commits_createT :
    ∃ definition prepared, tableDefinition createT.info = .ok definition ∧
      [PaimonMutation.createTable "db" "t" ⟨["a"], [{ id := .integer }], [], [], .empty⟩ false] =
        [.createTable "db" "t" definition false] ∧
      (prepareDistributedWrite Write.Sample.runtime ⟨Write.Sample.targetReplies, .ok false, .ok (),
        Write.Sample.ctasReplies⟩ :
        Coordinator String Unit).run selectedT =
          (.ok (), prepared, [.lock, .unlock, .lock, .createTable, .unlock, .lock, .loadTarget, .unlock]) ∧
      (finalizeDistributedWrite Write.Sample.runtime .counting decodeT Write.Sample.ctasCommitReplies
          ([workerT].map (WorkerRun.result infoT))).run prepared =
        (.ok 1, prepared.finalizing,
          [.lock, .loadTarget, .filterAndCommit 1 ["data-0.orc"], .unlock]) := by
  have hdecodes : decodeT.paimonOptions = .ok .empty ∧ decodeT.resolvedInfo = .ok infoT ∧ decodeT.codec = .text 1 :=
    ⟨rfl, rfl, rfl⟩
  have hunchanged : Write.Sample.ctasCommitReplies.baseline = Write.Sample.ctasReplies := rfl
  obtain ⟨definition, prepared, hdefines, hcalls, -, -, -, -, hprepares, hfinalizes⟩ :=
    planned_ctas_commits planCreateTableAs_createT selects_createT rfl createTable_createT serves_createT
      honestWrite_createT hdecodes hunchanged rfl rfl
  exact ⟨definition, prepared, hdefines, hcalls, hprepares _, hfinalizes⟩

/-- Natively it is written to that table, too. -/
theorem distributed_ctas_refines_native_createT :
    ∃ (native : NativeInsertGlobalState String) (history : List (NativeRecord String)) (s : NativeState String),
      (getGlobalSinkState unplannedT
        ⟨.ok (), Write.Sample.ctasReplies.getTableLocation, Write.Sample.ctasReplies.loadTableSchema⟩).run () =
          (.ok native, (), [NativeEvent.createTable]) ∧
      Run (NativeStep fun _ => "") { global := native } history s ∧ (∀ record ∈ history, record.result = .ok ()) ∧
      nativeWrites history = [⟨.empty, [0]⟩] ∧ nativeSunk history = [⟨Write.Sample.oneRow, [⟨.empty, [0]⟩]⟩] ∧
      nativeCommits history = [[some "data-0.orc"]] ∧
      nativeEmits history = [1] :=
  distributed_ctas_refines_native binaryFormat_lawful planCreateTableAs_createT selects_createT rfl createTable_createT
    serves_createT (show infoT.workerBindData = selectedT.distributedWritePlan.workerBindData from rfl)
    honestWrite_createT.honest

end Sample

end DuckPaimon.Catalog
