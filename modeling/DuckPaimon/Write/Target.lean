/-
The target of a distributed write (paimon_distributed_insert.cpp): the state the Paimon catalog
reports of a table, and the state a CREATE TABLE AS statement plans for its table.
-/
import DuckPaimon.Write.Contract

namespace DuckPaimon.Write

open Outcome

/-! ## What the catalog reports -/

/-- `paimon::Identifier`, with its full name and its text. -/
structure Identifier where
  databaseName : String
  tableName : String
  /-- `GetFullName`. -/
  fullName : String
  /-- `ToString`. -/
  text : String
  deriving DecidableEq

/-- `paimon::DataSchema`. -/
structure DataSchema where
  id : Int64
  primaryKeys : List String
  partitionKeys : List String
  options : StringMap
  deriving DecidableEq

/-- The names and types `PopulateArrowTableSchema` reads. -/
abbrev ArrowTable := List String × List LogicalType

/-- `paimon::Schema` of a table. -/
structure TableSchema where
  fieldNames : List String
  /-- The schema cast to a `DataSchema`. -/
  dataSchema : Option DataSchema
  /-- `GetArrowSchema`, whose result may be null, and what is populated from it. -/
  arrowSchema : Result (Option (Except Exception ArrowTable))
  /-- `GetJsonSchema`. -/
  jsonSchema : Result String

/-- What the catalog replies to the calls of `LoadTargetState`. -/
structure CatalogReplies where
  tableExists : Result Bool
  /-- The UUID of the table `GetTable` returns, which may be null. -/
  getTable : Result (Option String)
  getTableLocation : Result String
  loadTableSchema : Result TableSchema
  /-- The ids of the listed snapshots. -/
  listSnapshots : Result (List Int64)
  /-- The second `GetTable`. -/
  getTableAgain : Result (Option String)

/-- `PaimonDistributedTargetState`. -/
structure TargetState where
  tableUuid : String
  tablePath : String
  tableSchemaJson : String
  schemaId : Int64
  appendOnly : Bool
  hasSnapshot : Bool
  snapshotId : Int64
  fieldNames : List String
  fieldTypes : List LogicalType
  partKeys : List String
  primaryKeys : List String
  tableOptions : StringMap
  nullPartName : String
  deriving DecidableEq

/-- `LoadTableUUID`, from the reply of `GetTable`. -/
def loadTableUUID (identifier : Identifier) (getTable : Result (Option String)) : Except Exception String := do
  let table ← getTable.orIO
  match table with
  | none => throw (.io ("Paimon table " ++ identifier.text ++ " has no stable table identity"))
  | some tableUuid =>
    if tableUuid = "" then throw (.io ("Paimon table " ++ identifier.text ++ " has an empty table UUID"))
    else return tableUuid

/-- The name of the NULL partition, which the table options may replace. -/
def nullPartition (options : StringMap) : String :=
  (options.find? partitionDefaultName).getD "__DEFAULT_PARTITION__"

/-- The names and types of a table schema, which must name the declared fields. -/
def loadFields (schema : TableSchema) : Except Exception ArrowTable := do
  let arrowSchema ← schema.arrowSchema.orIO
  match arrowSchema with
  | none => throw (.io "Paimon table has no Arrow schema for distributed INSERT")
  | some populated =>
    let table ← populated
    throwIf (table.1 ≠ schema.fieldNames ∨ table.1.length ≠ table.2.length)
      (.io "Paimon table field names and types disagree for distributed INSERT")
    return table

/-- `LoadTargetState`. -/
def loadTargetState (identifier : Identifier) (replies : CatalogReplies) : Except Exception TargetState := do
  let tableExists ← replies.tableExists.orIO
  throwIf (tableExists = false) (.transaction ("Paimon table " ++ identifier.text ++ " no longer exists"))
  let tableUuid ← loadTableUUID identifier replies.getTable
  let tablePath ← replies.getTableLocation.orIO
  let schema ← replies.loadTableSchema.orIO
  match schema.dataSchema with
  | none => throw (.io "Failed to resolve Paimon data schema for distributed INSERT")
  | some dataSchema =>
    let fields ← loadFields schema
    let tableSchemaJson ← schema.jsonSchema.orIO
    let snapshots ← replies.listSnapshots.orIO
    let tableUuidAgain ← loadTableUUID identifier replies.getTableAgain
    throwIf (tableUuidAgain ≠ tableUuid)
      (.transaction ("Paimon table " ++ identifier.text ++ " was replaced while resolving the distributed INSERT target"))
    return { tableUuid, tablePath, tableSchemaJson,
             schemaId := dataSchema.id,
             appendOnly := dataSchema.primaryKeys.isEmpty,
             hasSnapshot := snapshots.getLast?.isSome,
             snapshotId := snapshots.getLast?.getD 0,
             fieldNames := fields.1,
             fieldTypes := fields.2,
             partKeys := dataSchema.partitionKeys,
             primaryKeys := dataSchema.primaryKeys,
             tableOptions := dataSchema.options,
             nullPartName := nullPartition dataSchema.options }

/-- A failed result is never returned. -/
theorem orIO_eq_ok {α : Type} {result : Result α} {a : α} : result.orIO = .ok a ↔ result = .ok a := by
  cases result with
  | error status => exact ⟨nofun, nofun⟩
  | ok b => exact ⟨fun h => by cases h; rfl, fun h => by cases h; rfl⟩

theorem loadTableUUID_eq_ok {identifier : Identifier} {getTable : Result (Option String)} {tableUuid : String} :
    loadTableUUID identifier getTable = .ok tableUuid ↔ getTable = .ok (some tableUuid) ∧ tableUuid ≠ "" := by
  unfold loadTableUUID
  rw [bind_eq_ok]
  constructor
  · rintro ⟨table, htable, h⟩
    rw [orIO_eq_ok] at htable
    cases table with
    | none => cases h
    | some uuid =>
      obtain ⟨hne, h⟩ := guard_eq_ok.1 h
      cases pure_eq_ok.1 h
      exact ⟨htable, hne⟩
  · rintro ⟨htable, hne⟩
    exact ⟨_, orIO_eq_ok.2 htable, guard_eq_ok.2 ⟨hne, rfl⟩⟩

theorem loadFields_eq_ok {schema : TableSchema} {fields : ArrowTable} :
    loadFields schema = .ok fields ↔ schema.arrowSchema = .ok (some (.ok fields)) ∧
      fields.1 = schema.fieldNames ∧ fields.1.length = fields.2.length := by
  unfold loadFields
  rw [bind_eq_ok]
  constructor
  · rintro ⟨arrowSchema, harrow, h⟩
    rw [orIO_eq_ok] at harrow
    cases arrowSchema with
    | none => cases h
    | some populated =>
      obtain ⟨table, rfl, h⟩ := bind_eq_ok.1 h
      obtain ⟨hagree, h⟩ := throwIf_bind_eq_ok.1 h
      cases pure_eq_ok.1 h
      rw [not_or, not_not, not_not] at hagree
      exact ⟨harrow, hagree⟩
  · rintro ⟨harrow, hnames, hlength⟩
    refine ⟨_, orIO_eq_ok.2 harrow, ?_⟩
    rw [bind_eq_ok]
    refine ⟨fields, rfl, throwIf_bind_eq_ok.2 ⟨?_, rfl⟩⟩
    rw [not_or, not_not, not_not]
    exact ⟨hnames, hlength⟩

/-- What the replies say of the target, when they describe one. -/
structure Describe (replies : CatalogReplies) (state : TargetState) : Prop where
  tableExists : replies.tableExists = .ok true
  getTable : replies.getTable = .ok (some state.tableUuid)
  getTableAgain : replies.getTableAgain = .ok (some state.tableUuid)
  tableUuid : state.tableUuid ≠ ""
  tablePath : replies.getTableLocation = .ok state.tablePath
  schema : ∃ schema dataSchema, replies.loadTableSchema = .ok schema ∧ schema.dataSchema = some dataSchema ∧
    schema.fieldNames = state.fieldNames ∧ schema.arrowSchema = .ok (some (.ok (state.fieldNames, state.fieldTypes))) ∧
    state.fieldNames.length = state.fieldTypes.length ∧ schema.jsonSchema = .ok state.tableSchemaJson ∧
    state.schemaId = dataSchema.id ∧ state.appendOnly = dataSchema.primaryKeys.isEmpty ∧
    state.partKeys = dataSchema.partitionKeys ∧ state.primaryKeys = dataSchema.primaryKeys ∧
    state.tableOptions = dataSchema.options ∧ state.nullPartName = nullPartition dataSchema.options
  snapshots : ∃ snapshots, replies.listSnapshots = .ok snapshots ∧ state.hasSnapshot = snapshots.getLast?.isSome ∧
    state.snapshotId = snapshots.getLast?.getD 0

/-- A target state is loaded exactly when the replies describe it. -/
theorem loadTargetState_eq_ok {identifier : Identifier} {replies : CatalogReplies} {state : TargetState} :
    loadTargetState identifier replies = .ok state ↔ Describe replies state := by
  unfold loadTargetState
  constructor
  · intro h
    obtain ⟨tableExists, hexists, h⟩ := bind_eq_ok.1 h
    obtain ⟨hpresent, h⟩ := throwIf_bind_eq_ok.1 h
    obtain ⟨tableUuid, huuid, h⟩ := bind_eq_ok.1 h
    obtain ⟨tablePath, hpath, h⟩ := bind_eq_ok.1 h
    obtain ⟨schema, hschema, h⟩ := bind_eq_ok.1 h
    split at h
    · cases h
    · rename_i dataSchema hdata
      obtain ⟨fields, hfields, h⟩ := bind_eq_ok.1 h
      obtain ⟨json, hjson, h⟩ := bind_eq_ok.1 h
      obtain ⟨snapshots, hsnapshots, h⟩ := bind_eq_ok.1 h
      obtain ⟨tableUuidAgain, hagain, h⟩ := bind_eq_ok.1 h
      obtain ⟨hsame, h⟩ := throwIf_bind_eq_ok.1 h
      cases pure_eq_ok.1 h
      rw [not_not] at hsame
      subst hsame
      rw [Bool.not_eq_false] at hpresent
      subst hpresent
      rw [orIO_eq_ok] at hexists hpath hschema hjson hsnapshots
      obtain ⟨huuid, hne⟩ := loadTableUUID_eq_ok.1 huuid
      obtain ⟨hagain, -⟩ := loadTableUUID_eq_ok.1 hagain
      obtain ⟨harrow, hnames, hlength⟩ := loadFields_eq_ok.1 hfields
      exact ⟨hexists, huuid, hagain, hne, hpath, ⟨schema, dataSchema, hschema, hdata, hnames.symm, harrow, hlength, hjson,
        rfl, rfl, rfl, rfl, rfl, rfl⟩, snapshots, hsnapshots, rfl, rfl⟩
  · rintro ⟨hexists, huuid, hagain, hne, hpath, ⟨schema, dataSchema, hschema, hdata, hnames, harrow, hlength, hjson, hid,
      happend, hpart, hprimary, hoptions, hnull⟩, snapshots, hsnapshots, hhas, hsnapshot⟩
    refine bind_eq_ok.2 ⟨_, orIO_eq_ok.2 hexists, throwIf_bind_eq_ok.2 ⟨by simp, ?_⟩⟩
    refine bind_eq_ok.2 ⟨_, loadTableUUID_eq_ok.2 ⟨huuid, hne⟩, bind_eq_ok.2 ⟨_, orIO_eq_ok.2 hpath, ?_⟩⟩
    refine bind_eq_ok.2 ⟨_, orIO_eq_ok.2 hschema, ?_⟩
    rw [hdata]
    refine bind_eq_ok.2 ⟨(state.fieldNames, state.fieldTypes), loadFields_eq_ok.2 ⟨harrow, hnames.symm, hlength⟩, ?_⟩
    refine bind_eq_ok.2 ⟨_, orIO_eq_ok.2 hjson, bind_eq_ok.2 ⟨_, orIO_eq_ok.2 hsnapshots, ?_⟩⟩
    refine bind_eq_ok.2 ⟨_, loadTableUUID_eq_ok.2 ⟨hagain, hne⟩, throwIf_bind_eq_ok.2 ⟨not_not.2 rfl, ?_⟩⟩
    refine congrArg Except.ok ?_
    obtain ⟨_, _, _, _, _, _, _, _, _, _, _, _, _⟩ := state
    dsimp only at hid happend hpart hprimary hoptions hnull hhas hsnapshot
    subst hid happend hpart hprimary hoptions hnull hhas hsnapshot
    rfl

/-! ## What a CREATE TABLE AS plans -/

/-- `OnCreateConflict`. -/
inductive OnCreateConflict
  | errorOnConflict | ignoreOnConflict | replaceOnConflict | alterOnConflict
  deriving DecidableEq, Repr

/-- A constraint of a created table; only primary keys matter. -/
inductive Constraint
  | unique (isPrimaryKey : Bool) (index : Option Nat) (columnNames : List String)
  | other
  deriving DecidableEq

/-- The expression of a table option. -/
inductive OptionExpression
  /-- A constant, as its text unless it is NULL. -/
  | valueConstant (text : Option String)
  | columnRef (columnName : String)
  | other
  deriving DecidableEq

/-- `CreateTableInfo`. -/
structure CreateTableInfo where
  columnNames : List String
  columnTypes : List LogicalType
  constraints : List Constraint
  options : List (String × OptionExpression)
  onConflict : OnCreateConflict
  deriving DecidableEq

/-- The primary key columns of a constraint; an index outside the columns throws. -/
def Constraint.primaryKeys (columnNames : List String) : Constraint → Except Exception (List String)
  | .unique true (some index) _ =>
    match columnNames[index]? with
    | some name => return [name]
    | none => throw (.internal "Attempted to access a column outside of the table")
  | .unique true none names => return names
  | _ => return []

/-- `GetCreatePrimaryKeys`. -/
def getCreatePrimaryKeys (createInfo : CreateTableInfo) : Except Exception (List String) := do
  let keys ← createInfo.constraints.mapM (Constraint.primaryKeys createInfo.columnNames)
  return keys.flatten

/-- `GetCreateTableOptions`. -/
def getCreateTableOptions (createInfo : CreateTableInfo) : Except Exception StringMap :=
  createInfo.options.foldlM (fun result option =>
    match option.2 with
    | .valueConstant (some text) => return result.insert option.1 text
    | .valueConstant none => return result
    | .columnRef columnName => return result.insert option.1 columnName
    | .other => throw (.invalidInput ("Paimon table option '" ++ option.1 ++ "' must be a literal value"))) .empty

/-- `SchemaFingerprint`. -/
def schemaFingerprint (rt : Runtime) (schemaBytes : String) : String := rt.md5Hex schemaBytes

/-- `PlannedSchemaFingerprint`. -/
def plannedSchemaFingerprint (rt : Runtime) (fieldNames : List String) (fieldTypes : List LogicalType)
    (partKeys primaryKeys : List String) (tableOptions : StringMap) : String :=
  schemaFingerprint rt (rt.binary.object
    [rt.binary.write .strings 1 "field_names" fieldNames,
      rt.binary.write .types 2 "field_types" fieldTypes,
      rt.binary.write .strings 3 "partition_keys" partKeys,
      rt.binary.write .strings 4 "primary_keys" primaryKeys,
      rt.binary.write .stringMap 5 "table_options" tableOptions])

end DuckPaimon.Write
