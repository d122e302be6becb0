/-
A process with any number of distributed writes, native INSERT commits and CREATE and DROP statements.
What holds the catalog mutation mutex is one step: a call of a coordinator, except that the preparation
of a CREATE TABLE AS takes the mutex three times and is three steps.
-/
import DuckPaimon.Write.Baseline
import Mathlib.Data.Set.Insert

namespace DuckPaimon.Write

open Outcome

variable {Message : Type}

/-! ## Tables -/

/-- The name of a table: its database and its own. -/
abbrev TableName := String × String

/-- The name an identifier stands for. -/
def Identifier.name (identifier : Identifier) : TableName := (identifier.databaseName, identifier.tableName)

/-- A table of the catalog. -/
structure PaimonTable where
  /-- The number of the CREATE TABLE that made it. -/
  creation : Nat
  tableUuid : String
  location : String
  json : String
  dataSchema : DataSchema
  fieldNames : List String
  fieldTypes : List LogicalType
  snapshots : List Int64

/-- The state `LoadTargetState` resolves of a table. -/
def PaimonTable.target (table : PaimonTable) : TargetState where
  tableUuid := table.tableUuid
  tablePath := table.location
  tableSchemaJson := table.json
  schemaId := table.dataSchema.id
  appendOnly := table.dataSchema.primaryKeys.isEmpty
  hasSnapshot := table.snapshots.getLast?.isSome
  snapshotId := table.snapshots.getLast?.getD 0
  fieldNames := table.fieldNames
  fieldTypes := table.fieldTypes
  partKeys := table.dataSchema.partitionKeys
  primaryKeys := table.dataSchema.primaryKeys
  tableOptions := table.dataSchema.options
  nullPartName := nullPartition table.dataSchema.options

/-- A reply of a table's schema tells the truth, where it is not a failure. -/
structure TableSchema.Of (schema : TableSchema) (table : PaimonTable) : Prop where
  fieldNames : schema.fieldNames = table.fieldNames
  dataSchema : ∀ dataSchema, schema.dataSchema = some dataSchema → dataSchema = table.dataSchema
  arrowSchema : ∀ fields, schema.arrowSchema = .ok (some (.ok fields)) → fields = (table.fieldNames, table.fieldTypes)
  jsonSchema : ∀ json, schema.jsonSchema = .ok json → json = table.json

/-- The replies of the catalog tell the truth of a table. -/
structure CatalogReplies.Of (replies : CatalogReplies) (table : PaimonTable) : Prop where
  getTable : ∀ uuid, replies.getTable = .ok (some uuid) → uuid = table.tableUuid
  getTableLocation : ∀ location, replies.getTableLocation = .ok location → location = table.location
  loadTableSchema : ∀ schema, replies.loadTableSchema = .ok schema → schema.Of table
  listSnapshots : ∀ snapshots, replies.listSnapshots = .ok snapshots → snapshots = table.snapshots

/-- The replies of the catalog where a name stands for a table, or for none. -/
structure Answers (target : Option PaimonTable) (replies : CatalogReplies) : Prop where
  tableExists : ∀ found, replies.tableExists = .ok found → found = target.isSome
  table : ∀ table, target = some table → replies.Of table

/-- `LoadTargetState` can resolve the table. -/
structure PaimonTable.Resolvable (table : PaimonTable) : Prop where
  tableUuid : table.tableUuid ≠ ""
  fields : table.fieldNames.length = table.fieldTypes.length

/-- A target that is loaded is the state of the table. -/
theorem Answers.loads {target : Option PaimonTable} {replies : CatalogReplies} (h : Answers target replies)
    {identifier : Identifier} {state : TargetState} (hload : loadTargetState identifier replies = .ok state) :
    ∃ table, target = some table ∧ state = table.target ∧ table.Resolvable := by
  obtain ⟨hexists, huuid, -, hne, hpath, ⟨schema, dataSchema, hschema, hdata, -, harrow, hlength, hjson, hid, happend, hpart,
    hprimary, hoptions, hnull⟩, snapshots, hsnapshots, hhas, hsnapshot⟩ := loadTargetState_eq_ok.1 hload
  obtain ⟨table, rfl⟩ := Option.isSome_iff_exists.1 (h.tableExists true hexists).symm
  obtain ⟨hgetTable, hgetLocation, hloadSchema, hlist⟩ := h.table table rfl
  have hof := hloadSchema schema hschema
  obtain rfl := hof.dataSchema dataSchema hdata
  obtain rfl := hlist snapshots hsnapshots
  obtain ⟨hnames, htypes⟩ := Prod.mk.inj (hof.arrowSchema _ harrow)
  obtain ⟨_, _, _, _, _, _, _, _, _, _, _, _, _⟩ := state
  dsimp only at huuid hne hlength hpath hjson hid happend hpart hprimary hoptions hnull hhas hsnapshot hnames htypes
  obtain rfl := hgetTable _ huuid
  obtain rfl := hgetLocation _ hpath
  obtain rfl := hof.jsonSchema _ hjson
  subst hid happend hpart hprimary hoptions hnull hhas hsnapshot hnames htypes
  exact ⟨table, rfl, rfl, hne, hlength⟩

/-- No call fails, and each reply is of the table. -/
structure CatalogReplies.Report (replies : CatalogReplies) (table : PaimonTable) : Prop where
  tableExists : replies.tableExists = .ok true
  getTable : replies.getTable = .ok (some table.tableUuid)
  getTableLocation : replies.getTableLocation = .ok table.location
  loadTableSchema : replies.loadTableSchema = .ok
    { fieldNames := table.fieldNames
      dataSchema := some table.dataSchema
      arrowSchema := .ok (some (.ok (table.fieldNames, table.fieldTypes)))
      jsonSchema := .ok table.json }
  listSnapshots : replies.listSnapshots = .ok table.snapshots
  getTableAgain : replies.getTableAgain = .ok (some table.tableUuid)

/-- Such replies tell the truth. -/
theorem CatalogReplies.Report.answers {replies : CatalogReplies} {table : PaimonTable} (h : replies.Report table) :
    Answers (some table) replies := by
  refine ⟨fun found hfound => ?_, ?_⟩
  · rw [h.tableExists] at hfound
    cases hfound
    rfl
  rintro table ⟨⟩
  refine ⟨fun uuid huuid => ?_, fun location hlocation => ?_, fun schema hschema => ?_, fun snapshots hsnapshots => ?_⟩
  · rw [h.getTable] at huuid
    cases huuid
    rfl
  · rw [h.getTableLocation] at hlocation
    cases hlocation
    rfl
  · rw [h.loadTableSchema] at hschema
    cases hschema
    exact ⟨rfl, fun _ h => by cases h; rfl, fun _ h => by cases h; rfl, fun _ h => by cases h; rfl⟩
  · rw [h.listSnapshots] at hsnapshots
    cases hsnapshots
    rfl

/-- The target is loaded from such replies. -/
theorem CatalogReplies.Report.loads {replies : CatalogReplies} {table : PaimonTable} (h : replies.Report table)
    (resolvable : table.Resolvable) (identifier : Identifier) :
    loadTargetState identifier replies = .ok table.target := by
  rw [loadTargetState_eq_ok]
  refine ⟨h.tableExists, h.getTable, h.getTableAgain, resolvable.tableUuid, h.getTableLocation, ?_, ?_⟩
  · exact ⟨_, table.dataSchema, h.loadTableSchema, rfl, rfl, rfl, resolvable.fields, rfl, rfl, rfl, rfl, rfl, rfl, rfl⟩
  · exact ⟨table.snapshots, h.listSnapshots, rfl, rfl⟩

/-- A later list of snapshots ends in a larger one. -/
def Newer (old new : List Int64) : Prop := ∃ id, new.getLast? = some id ∧ ∀ last ∈ old.getLast?, last < id

theorem Newer.trans {a b c : List Int64} (h : Newer a b) (h' : Newer b c) : Newer a c := by
  obtain ⟨id, hid, hlast⟩ := h
  obtain ⟨id', hid', hlast'⟩ := h'
  exact ⟨id', hid', fun last hmem => Int64.lt_trans (hlast last hmem) (hlast' id hid)⟩

/-- The latest snapshots of two such lists differ. -/
theorem Newer.ne {a b : List Int64} (h : Newer a b) :
    (a.getLast?.isSome, a.getLast?.getD 0) ≠ (b.getLast?.isSome, b.getLast?.getD 0) := by
  obtain ⟨id, hid, hlast⟩ := h
  rw [hid]
  cases ha : a.getLast? with
  | none => simp
  | some last =>
    have hlt := hlast last ha
    simp only [Option.isSome_some, Option.getD_some, ne_eq, Prod.mk.injEq, true_and]
    rintro rfl
    exact Int64.lt_irrefl hlt

/-! ## Distributed writes -/

/-- Where the preparation of a CREATE TABLE AS stands: between its sections, or outside. -/
inductive PrepareStage
  | outside | absent | created
  deriving DecidableEq, Repr

/-- A distributed write: its operator, and what became of its target. -/
structure DistributedWrite where
  insert : PhysicalPaimonInsert
  stage : PrepareStage := .outside
  /-- The target when it was planned, or captured. -/
  baseline : Option PaimonTable := none
  /-- The table its own CreateTable made. -/
  own : Option Nat := none

/-- The first section of the preparation of a CREATE TABLE AS, and what is before it. -/
def beginPrepare (rt : Runtime) (tableExists : Result Bool) : Coordinator Message Unit := do
  let insert ← enterPrepare rt
  Proc.ofExcept (validateCTASDefinition insert)
  checkAbsent tableExists

/-- The sections of a preparation make up the call. -/
theorem prepareDistributedWrite_ctas (rt : Runtime) (replies : PrepareReplies) {insert : PhysicalPaimonInsert}
    (hinfo : insert.info ≠ none) :
    (prepareDistributedWrite rt replies : Coordinator Message Unit).run insert =
      (do
        beginPrepare rt replies.tableExists
        createTarget replies.createTable
        captureTarget replies.created : Coordinator Message Unit).run insert := by
  unfold prepareDistributedWrite beginPrepare
  rw [Proc.bind_assoc]
  refine Proc.run_bind_congr fun entered _ _ hrun => ?_
  obtain ⟨-, ⟨e, herror, -⟩ | ⟨hentered, -⟩⟩ := Proc.wp_run (wp_enterPrepare insert) hrun
  · cases herror
  · cases hentered
    rw [if_pos (Option.isSome_iff_ne_none.2 hinfo), Proc.bind_assoc]

namespace DistributedWrite

/-- The write after a section of its preparation: at the next stage if it returns, outside if not. -/
def proceed (write : DistributedWrite) (section_ : Coordinator Message Unit) (next : PrepareStage) : DistributedWrite :=
  { write with
    insert := (section_.run write.insert).2.1
    stage := match (section_.run write.insert).1 with
      | .ok _ => next
      | .error _ => .outside }

/-- The write after the last section, with the target that is captured. -/
def capture (Message : Type) (write : DistributedWrite) (replies : CatalogReplies) (target : Option PaimonTable) :
    DistributedWrite :=
  let captured : Coordinator Message Unit := captureTarget replies
  { write.proceed captured .outside with
    baseline := match (captured.run write.insert).1 with
      | .ok _ => target
      | .error _ => write.baseline }

/-- The write after a call, with the target if this call plans it. -/
def perform (rt : Runtime) (vane : Vane) (write : DistributedWrite) (call : CoordinatorCall Message)
    (target : Option PaimonTable) : DistributedWrite :=
  let insert' := (Performed.mk write.insert call).after rt vane
  { write with
    insert := insert'
    baseline := if write.insert.distributedTargetInitialized = false ∧ insert'.distributedTargetInitialized = true then target
      else write.baseline }

end DistributedWrite

/-- The replies of the catalog in a call tell the truth of the target. -/
def CoordinatorCall.Answered (target : Option PaimonTable) : CoordinatorCall Message → Prop
  | getExtensionWriteTaskProvider replies => Answers target replies.target
  | validateDistributedWrite replies => Answers target replies
  | prepareDistributedWrite replies => Answers target replies.baseline
  | finalizeDistributedWrite _ commit _ => Answers target commit.baseline
  | _ => True

/-! ## The process -/

/-- A call of `FilterAndCommit`: by which write, on which table, and whether it takes effect. -/
structure CommitRecord (ι : Type) where
  write : ι
  /-- The write as it commits. -/
  committing : DistributedWrite
  found : Option PaimonTable
  installed : Bool

/-- The table a commit is for. -/
def CommitRecord.name {ι : Type} (record : CommitRecord ι) : TableName := record.committing.insert.tableIdentifier.name

/-- The catalog, the distributed writes, and the commits so far. -/
structure Process (ι : Type) where
  databases : Set String
  tables : TableName → Option PaimonTable
  /-- The number of CREATE TABLEs so far. -/
  created : Nat
  writes : ι → DistributedWrite
  commits : List (CommitRecord ι)

/-- What happens in a process. -/
inductive ProcessStep (ι Message : Type)
  /-- A coordinator call other than the preparation of a CREATE TABLE AS. -/
  | call (write : ι) (call : CoordinatorCall Message)
  | checkAbsent (write : ι) (tableExists : Result Bool)
  | createTarget (write : ι) (createTable : Except Exception Unit) (made : Option PaimonTable)
  | captureTarget (write : ι) (replies : CatalogReplies)
  /-- `PhysicalPaimonInsert::Finalize`. -/
  | insertCommit (tablePath : String)
  /-- `PaimonSchemaEntry::CreateTable` of another statement. -/
  | createTable (name : TableName) (made : Option PaimonTable)
  /-- `PaimonSchemaEntry::DropEntry`. -/
  | dropTable (name : TableName)
  /-- `PaimonCatalog::CreateSchema`. -/
  | createSchema (database : String)
  /-- `PaimonCatalog::DropSchema`. -/
  | dropSchema (database : String)

/-- A statement that may leave the catalog as it is. -/
def ProcessStep.MayFail {ι : Type} : ProcessStep ι Message → Prop
  | insertCommit _ | dropTable _ | createSchema _ | dropSchema _ => True
  | _ => False

/-- What a commit to a path does to the table a name stands for. -/
inductive Committed (path : String) (installed : Bool) : Option PaimonTable → Option PaimonTable → Prop
  | none : Committed path installed none none
  | unchanged {table : PaimonTable} (elsewhere : table.location = path → installed = false) :
      Committed path installed (some table) (some table)
  | installs {table : PaimonTable} {snapshots : List Int64} (here : table.location = path) (effect : installed = true)
      (newer : Newer table.snapshots snapshots) :
      Committed path installed (some table) (some { table with snapshots })

namespace Process

variable {ι : Type} [DecidableEq ι]

/-- The table the identifier of a write stands for. -/
def target (s : Process ι) (i : ι) : Option PaimonTable := s.tables (s.writes i).insert.tableIdentifier.name

def setWrite (s : Process ι) (i : ι) (write : DistributedWrite) : Process ι :=
  { s with writes := Function.update s.writes i write }

/-- A new table under a name. -/
def create (s : Process ι) (name : TableName) (table : PaimonTable) : Process ι :=
  { s with tables := Function.update s.tables name (some table), created := s.created + 1 }

/-- What a CREATE TABLE does to the catalog: nothing, or it makes a table under a free name. -/
inductive Creates (s : Process ι) (name : TableName) : Option PaimonTable → Process ι → Prop
  | nothing : Creates s name none s
  | table {table : PaimonTable} (free : s.tables name = none) (database : name.1 ∈ s.databases)
      (fresh : table.creation = s.created) : Creates s name (some table) (s.create name table)

end Process

section Steps

variable {ι : Type} [DecidableEq ι] (rt : Runtime) (vane : Vane)

/-- One step of a process. -/
inductive Takes : Process ι → ProcessStep ι Message → Process ι → Prop
  -- a call takes the mutex once at most, and what it does before is its own operator's
  | call {s : Process ι} {i : ι} {call : CoordinatorCall Message} (outside : (s.writes i).stage = .outside)
      (split : call.IsPrepare → (s.writes i).insert.info = none) (answered : call.Answered (s.target i))
      (quiet : ¬(Performed.mk (s.writes i).insert call).Commits rt vane) :
      Takes s (.call i call) (s.setWrite i ((s.writes i).perform rt vane call (s.target i)))
  | commit {s : Process ι} {i : ι} {decode : DecodeReplies Message} {commit : CommitReplies}
      {results : List DistributedWriteTaskResult} {installed : Bool} {tables : TableName → Option PaimonTable}
      (outside : (s.writes i).stage = .outside) (answered : Answers (s.target i) commit.baseline)
      (commits : (Performed.mk (s.writes i).insert (.finalizeDistributedWrite decode commit results)).Commits rt vane)
      -- a commit that fails may have taken effect as well
      (acknowledged : commit.commit = .ok 1 → installed = true)
      (effect : ∀ name, Committed (s.writes i).insert.distributedTablePath installed (s.tables name) (tables name)) :
      Takes s (.call i (.finalizeDistributedWrite decode commit results))
        { s.setWrite i ((s.writes i).perform rt vane (.finalizeDistributedWrite decode commit results) (s.target i)) with
          tables
          commits := s.commits ++ [⟨i, s.writes i, s.target i, installed⟩] }
  | checkAbsent {s : Process ι} {i : ι} {tableExists : Result Bool} (outside : (s.writes i).stage = .outside)
      (ctas : (s.writes i).insert.info ≠ none)
      (answered : ∀ found, tableExists = .ok found → found = (s.target i).isSome) :
      Takes s (.checkAbsent i tableExists)
        (s.setWrite i ((s.writes i).proceed (beginPrepare rt tableExists : Coordinator Message Unit) .absent))
  | createTarget {s s' : Process ι} {i : ι} {createTable : Except Exception Unit} {made : Option PaimonTable}
      (absent : (s.writes i).stage = .absent) (creates : s.Creates (s.writes i).insert.tableIdentifier.name made s')
      -- without IF NOT EXISTS, a CREATE TABLE that returns made its table
      (returned : createTable = .ok () →
        (∀ createInfo, (s.writes i).insert.info = some createInfo → createInfo.onConflict = .errorOnConflict) → made ≠ none) :
      Takes s (.createTarget i createTable made)
        (s'.setWrite i
          { (s.writes i).proceed (createTarget createTable : Coordinator Message Unit) .created with
            own := made.map PaimonTable.creation })
  | captureTarget {s : Process ι} {i : ι} {replies : CatalogReplies} (created : (s.writes i).stage = .created)
      (answered : Answers (s.target i) replies) :
      Takes s (.captureTarget i replies) (s.setWrite i ((s.writes i).capture Message replies (s.target i)))
  | insertCommit {s : Process ι} {tablePath : String} {tables : TableName → Option PaimonTable}
      (effect : ∀ name, Committed tablePath true (s.tables name) (tables name)) :
      Takes s (.insertCommit tablePath) { s with tables }
  | createTable {s s' : Process ι} {name : TableName} {made : Option PaimonTable} (creates : s.Creates name made s') :
      Takes s (.createTable name made) s'
  | dropTable {s : Process ι} {name : TableName} :
      Takes s (.dropTable name) { s with tables := Function.update s.tables name none }
  | createSchema {s : Process ι} {database : String} :
      Takes s (.createSchema database) { s with databases := insert database s.databases }
  | dropSchema {s : Process ι} {database : String} {databases : Set String} {tables : TableName → Option PaimonTable}
      (removed : databases ⊆ s.databases)
      -- CASCADE drops the tables of the database, or some of them where it fails
      (dropped : ∀ name, tables name = s.tables name ∨ name.1 = database ∧ tables name = none) :
      Takes s (.dropSchema database) { s with databases, tables }
  /-- A native commit or a DDL statement that fails, or has nothing to do. -/
  | failed {s : Process ι} {step : ProcessStep ι Message} (mayFail : step.MayFail) : Takes s step s

end Steps

end DuckPaimon.Write
