/-
The attached catalog and its cached entries (paimon_table_set.cpp, paimon_schema_set.cpp,
paimon_schema_entry.cpp, paimon_catalog.cpp). Both sets keep their entries in a map with
case-insensitive keys; Paimon is asked under the names as they were written.
-/
import DuckPaimon.Lib.FoldMap
import DuckPaimon.Lib.Proc
import DuckPaimon.Catalog.Store

namespace DuckPaimon.Catalog

open Outcome

/-- What `CaseInsensitiveStringEquality` compares. -/
def caseFold (name : String) : List Char := name.toList.map Char.toLower

/-- `case_insensitive_map_t`. The order of the entries stands for the order the hash table happens to
iterate in. -/
abbrev CaseInsensitiveMap (ν : Type) := FoldMap caseFold ν

/-! ## Entries -/

/-- `ColumnDefinition`. -/
structure ColumnDefinition where
  name : String
  type : LogicalType
  deriving DecidableEq

/-- `PaimonTableEntry`. -/
structure PaimonTableEntry where
  name : String
  columns : List ColumnDefinition
  deriving DecidableEq

/-- `PaimonTableSet`. -/
structure PaimonTableSet where
  inited : Bool := false
  entries : CaseInsensitiveMap PaimonTableEntry := .empty

/-- `PaimonSchemaEntry`. -/
structure PaimonSchemaEntry where
  name : String
  tables : PaimonTableSet := {}

/-- `PaimonSchemaSet`. -/
structure PaimonSchemaSet where
  inited : Bool := false
  entries : CaseInsensitiveMap PaimonSchemaEntry := .empty

/-- A procedure that changes at most one thing in Paimon. -/
abbrev CatalogProc (σ α : Type) := Proc Exception PaimonMutation σ α

/-- The exception of a failed status: what exists or does not exist is a `CatalogException`. -/
def throwStatus : Result Unit → Except Exception Unit
  | .ok _ => .ok ()
  | .error status => if status.isExist ∨ status.isNotExist then .error (.catalog status.text) else .error (.io status.text)

section Sets

-- `ColumnList::AddColumn`, which throws on a column it does not take
variable (addColumn : List ColumnDefinition → ColumnDefinition → Except Exception (List ColumnDefinition))

/-! ## `PaimonTableSet` -/

/-- The columns of an entry. -/
def buildColumns (populated : StoredTable) : Except Exception (List ColumnDefinition) := do
  let table ← populated
  throwIf (table.1.length ≠ table.2.length)
    (.io ("col_name: " ++ toString table.1.length ++ ", col_types: " ++ toString table.2.length))
  (table.1.zip table.2).foldlM (fun columns column => addColumn columns ⟨column.1, column.2⟩) []

/-- What `BuildEntry` makes of the reply of `LoadTableSchema`. -/
def loadTableEntry (tableName : String) (reply : Result (Option Write.TableSchema)) :
    Except Exception (Option PaimonTableEntry) :=
  match reply with
  | .error status => if status.isNotExist then return none else throw (.io status.text)
  | .ok none => throw (.io "Paimon table schema is empty")
  | .ok (some tableSchema) => do
    let arrowSchema ← tableSchema.arrowSchema.orIO
    match arrowSchema with
    | none => throw (.io "Paimon Arrow schema is empty")
    | some populated => do
      let columns ← buildColumns addColumn populated
      return some { name := tableName, columns }

namespace PaimonTableSet

/-- `PaimonTableSet::BuildEntry` in the schema of a name. -/
def buildEntry (replies : PaimonReplies) (schemaName tableName : String) :
    CatalogProc PaimonTableSet (Option PaimonTableEntry) := do
  let set ← Proc.get
  match set.entries.find? tableName with
  | some entry => return some entry
  | none => do
    let loaded ← Proc.ofExcept (loadTableEntry addColumn tableName (replies.loadTableSchema schemaName tableName))
    match loaded with
    | none => return none
    | some entry => do
      Proc.modify fun set => { set with entries := set.entries.emplace tableName entry }
      return some entry

/-- The entries of all listed tables. -/
def buildEntries (replies : PaimonReplies) (schemaName : String) : List String → CatalogProc PaimonTableSet Unit
  | [] => return ()
  | tableName :: tables => do
    let _ ← buildEntry addColumn replies schemaName tableName
    buildEntries replies schemaName tables

/-- `PaimonTableSet::LoadEntries`. -/
def loadEntries (replies : PaimonReplies) (schemaName : String) : CatalogProc PaimonTableSet Unit := do
  let set ← Proc.get
  if set.inited = true then return ()
  else do
    let tables ← Proc.ofExcept (Result.orIO (replies.listTables schemaName))
    buildEntries addColumn replies schemaName tables
    Proc.modify fun set => { set with inited := true }

/-- `PaimonTableSet::GetEntry`. -/
def getEntry (replies : PaimonReplies) (schemaName tableName : String) :
    CatalogProc PaimonTableSet (Option PaimonTableEntry) :=
  buildEntry addColumn replies schemaName tableName

/-- `PaimonTableSet::Scan`: the entries the callback is called for. -/
def scan (replies : PaimonReplies) (schemaName : String) : CatalogProc PaimonTableSet (List PaimonTableEntry) := do
  loadEntries addColumn replies schemaName
  let set ← Proc.get
  return set.entries.entries.map Prod.snd

/-- `PaimonTableSet::RefreshEntry`. -/
def refreshEntry (replies : PaimonReplies) (schemaName tableName : String) :
    CatalogProc PaimonTableSet (Option PaimonTableEntry) := do
  Proc.modify fun set => { set with entries := set.entries.erase tableName }
  buildEntry addColumn replies schemaName tableName

/-- `PaimonTableSet::DropEntry`. -/
def dropEntry (tableName : String) : CatalogProc PaimonTableSet Unit :=
  Proc.modify fun set => { set with entries := set.entries.erase tableName }

end PaimonTableSet

/-! ## `PaimonSchemaEntry` -/

/-- `CatalogType`. -/
inductive CatalogType
  | tableEntry
  | other
  deriving DecidableEq, Repr

/-- `OnEntryNotFound`. -/
inductive OnEntryNotFound
  | throwException | returnNull
  deriving DecidableEq, Repr

/-- An expression among the partition keys. -/
inductive PartitionExpression
  | columnRef (columnName : String)
  | other
  deriving DecidableEq

/-- `CreateTableInfo` of a plain CREATE TABLE. -/
structure BoundCreateTableInfo extends Write.CreateTableInfo where
  table : String
  partitionKeys : List PartitionExpression := []
  deriving DecidableEq

/-- `DropInfo`. -/
structure DropInfo where
  type : CatalogType
  name : String
  ifNotFound : OnEntryNotFound := .throwException
  cascade : Bool := false
  deriving DecidableEq

/-- The column a partition key refers to. -/
def PartitionExpression.column : PartitionExpression → Except Exception String
  | .columnRef columnName => return columnName
  | .other => throw (.invalidInput "Paimon partition key must be a column reference")

namespace PaimonSchemaEntry

/-- A procedure on the tables of a schema. -/
def onTables {α : Type} (m : CatalogProc PaimonTableSet α) : CatalogProc PaimonSchemaEntry α :=
  Proc.zoom PaimonSchemaEntry.tables (fun tables entry => { entry with tables }) m

/-- `PaimonSchemaEntry::Scan`. -/
def scan (replies : PaimonReplies) (type : CatalogType) : CatalogProc PaimonSchemaEntry (List PaimonTableEntry) := do
  let entry ← Proc.get
  if type ≠ .tableEntry then return []
  else onTables (PaimonTableSet.scan addColumn replies entry.name)

/-- `PaimonSchemaEntry::LookupEntry`. -/
def lookupEntry (replies : PaimonReplies) (type : CatalogType) (tableName : String) :
    CatalogProc PaimonSchemaEntry (Option PaimonTableEntry) := do
  let entry ← Proc.get
  if type ≠ .tableEntry then return none
  else onTables (PaimonTableSet.getEntry addColumn replies entry.name tableName)

/-- `PaimonSchemaEntry::CreateTable`. -/
def createTable (replies : PaimonReplies) (info : BoundCreateTableInfo) :
    CatalogProc PaimonSchemaEntry (Option PaimonTableEntry) := do
  throwIf (info.onConflict = .replaceOnConflict)
    (.notImplemented "CREATE OR REPLACE TABLE is not supported for Paimon tables")
  let entry ← Proc.get
  Proc.ofExcept replies.toArrowSchema
  let primaryKeys ← Proc.ofExcept (Write.getCreatePrimaryKeys info.toCreateTableInfo)
  let partitionKeys ← Proc.ofExcept (info.partitionKeys.mapM PartitionExpression.column)
  let options ← Proc.ofExcept (Write.getCreateTableOptions info.toCreateTableInfo)
  Proc.call (.createTable entry.name info.table
    { columnNames := info.columnNames, columnTypes := info.columnTypes, partitionKeys, primaryKeys, options }
    (info.onConflict = .ignoreOnConflict))
  Proc.ofExcept (throwStatus replies.mutation)
  onTables (PaimonTableSet.refreshEntry addColumn replies entry.name info.table)

/-- `PaimonSchemaEntry::DropEntry`. -/
def dropEntry (replies : PaimonReplies) (info : DropInfo) : CatalogProc PaimonSchemaEntry Unit := do
  throwIf (info.type ≠ .tableEntry) (.notImplemented "Only dropping tables is supported")
  let entry ← Proc.get
  Proc.call (.dropTable entry.name info.name (info.ifNotFound = .returnNull))
  Proc.ofExcept (throwStatus replies.mutation)
  onTables (PaimonTableSet.dropEntry info.name)

end PaimonSchemaEntry

/-! ## `PaimonSchemaSet` and `PaimonCatalog` -/

namespace PaimonSchemaSet

/-- `PaimonSchemaSet::LoadEntries`. -/
def loadEntries (replies : PaimonReplies) : CatalogProc PaimonSchemaSet Unit := do
  let set ← Proc.get
  if set.inited = true then return ()
  else do
    let databases ← Proc.ofExcept replies.listDatabases.orIO
    Proc.modify fun set =>
      { inited := true
        entries := databases.foldl (fun entries database => entries.emplace database { name := database }) set.entries }

/-- `PaimonSchemaSet::Scan`: the entries the callback is called for. -/
def scan (replies : PaimonReplies) : CatalogProc PaimonSchemaSet (List PaimonSchemaEntry) := do
  loadEntries replies
  let set ← Proc.get
  return set.entries.entries.map Prod.snd

/-- `PaimonSchemaSet::GetEntry`. -/
def getEntry (replies : PaimonReplies) (name : String) : CatalogProc PaimonSchemaSet (Option PaimonSchemaEntry) := do
  loadEntries replies
  let set ← Proc.get
  return set.entries.find? name

/-- `PaimonSchemaSet::CreateEntry`. -/
def createEntry (name : String) : CatalogProc PaimonSchemaSet (Option PaimonSchemaEntry) := do
  Proc.modify fun set => { set with entries := set.entries.emplace name { name } }
  let set ← Proc.get
  return set.entries.find? name

/-- `PaimonSchemaSet::DropEntry`. -/
def dropEntry (name : String) : CatalogProc PaimonSchemaSet Unit :=
  Proc.modify fun set => { set with entries := set.entries.erase name }

end PaimonSchemaSet

/-- `CreateSchemaInfo`. -/
structure CreateSchemaInfo where
  schema : String
  onConflict : Write.OnCreateConflict := .errorOnConflict
  deriving DecidableEq

namespace PaimonCatalog

/-- `PaimonCatalog::CreateSchema`. -/
def createSchema (replies : PaimonReplies) (info : CreateSchemaInfo) :
    CatalogProc PaimonSchemaSet (Option PaimonSchemaEntry) := do
  Proc.call (.createDatabase info.schema (info.onConflict = .ignoreOnConflict))
  Proc.ofExcept (throwStatus replies.mutation)
  PaimonSchemaSet.createEntry info.schema

/-- `PaimonCatalog::LookupSchema`. -/
def lookupSchema (replies : PaimonReplies) (schemaName : String) (ifNotFound : OnEntryNotFound) :
    CatalogProc PaimonSchemaSet (Option PaimonSchemaEntry) := do
  let entry ← PaimonSchemaSet.getEntry replies schemaName
  throwIf (entry.isNone ∧ ifNotFound = .throwException)
    (.catalog ("Schema with name \"" ++ schemaName ++ "\" not found"))
  return entry

/-- `PaimonCatalog::ScanSchemas`. -/
def scanSchemas (replies : PaimonReplies) : CatalogProc PaimonSchemaSet (List PaimonSchemaEntry) :=
  PaimonSchemaSet.scan replies

/-- `PaimonCatalog::DropSchema`. -/
def dropSchema (replies : PaimonReplies) (info : DropInfo) : CatalogProc PaimonSchemaSet Unit := do
  Proc.call (.dropDatabase info.name (info.ifNotFound = .returnNull) info.cascade)
  Proc.ofExcept (throwStatus replies.mutation)
  PaimonSchemaSet.dropEntry info.name

end PaimonCatalog

end Sets

end DuckPaimon.Catalog
