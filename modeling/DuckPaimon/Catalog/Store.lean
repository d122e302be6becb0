/-
A Paimon catalog as the extension sees it: databases and tables under case-sensitive names, what the
calls that change it may do to it, and what the calls that read it may reply.

Any call may fail with any status; a failed call leaves the catalog as it was.
-/
import DuckPaimon.Write.Target

namespace DuckPaimon.Catalog

/-- What an entry reads of a table: what `PopulateArrowTableSchema` makes of its Arrow schema. -/
abbrev StoredTable := Except Exception Write.ArrowTable

/-- The tables of a database. -/
abbrev PaimonDatabase := SortedMap String StoredTable

/-- The databases of a Paimon catalog. -/
abbrev PaimonStore := SortedMap String PaimonDatabase

/-! ## Calls that change the catalog -/

/-- What `paimon::Catalog::CreateTable` is given of a table. -/
structure TableDefinition where
  columnNames : List String
  columnTypes : List LogicalType
  partitionKeys : List String
  primaryKeys : List String
  options : StringMap
  deriving DecidableEq

/-- The calls of `paimon::Catalog` that change it. -/
inductive PaimonMutation
  | createDatabase (name : String) (ignoreIfExists : Bool)
  | dropDatabase (name : String) (ignoreIfNotExists cascade : Bool)
  | createTable (databaseName tableName : String) (definition : TableDefinition) (ignoreIfExists : Bool)
  | dropTable (databaseName tableName : String) (ignoreIfNotExists : Bool)
  deriving DecidableEq

/-- What a call leaves of the catalog with the status it replies. -/
inductive Effect (store : PaimonStore) : PaimonMutation → Result Unit → PaimonStore → Prop
  | failed (mutation : PaimonMutation) (status : Status) : Effect store mutation (.error status) store
  | databaseCreated {name : String} (ignoreIfExists : Bool) (absent : store.find? name = none) :
      Effect store (.createDatabase name ignoreIfExists) (.ok ()) (store.insert name .empty)
  | databaseExists {name : String} (found : name ∈ store.keySet) :
      Effect store (.createDatabase name true) (.ok ()) store
  | databaseDropped {name : String} {tables : PaimonDatabase} (ignoreIfNotExists cascade : Bool)
      (found : store.find? name = some tables) (unused : cascade = true ∨ tables = .empty) :
      Effect store (.dropDatabase name ignoreIfNotExists cascade) (.ok ()) (store.erase name)
  | databaseAbsent {name : String} (cascade : Bool) (absent : store.find? name = none) :
      Effect store (.dropDatabase name true cascade) (.ok ()) store
  | tableCreated {databaseName tableName : String} {tables : PaimonDatabase} (definition : TableDefinition)
      (ignoreIfExists : Bool) (table : StoredTable) (found : store.find? databaseName = some tables)
      (absent : tables.find? tableName = none) :
      Effect store (.createTable databaseName tableName definition ignoreIfExists) (.ok ())
        (store.insert databaseName (tables.insert tableName table))
  | tableExists {databaseName tableName : String} {tables : PaimonDatabase} (definition : TableDefinition)
      (found : store.find? databaseName = some tables) (existing : tableName ∈ tables.keySet) :
      Effect store (.createTable databaseName tableName definition true) (.ok ()) store
  | tableDropped {databaseName tableName : String} {tables : PaimonDatabase} (ignoreIfNotExists : Bool)
      (found : store.find? databaseName = some tables) (existing : tableName ∈ tables.keySet) :
      Effect store (.dropTable databaseName tableName ignoreIfNotExists) (.ok ())
        (store.insert databaseName (tables.erase tableName))
  | tableAbsent {databaseName tableName : String}
      (absent : ∀ tables, store.find? databaseName = some tables → tables.find? tableName = none) :
      Effect store (.dropTable databaseName tableName true) (.ok ()) store

/-- The effect of the calls an operation made, of which there is at most one. -/
inductive Effects (store : PaimonStore) : List PaimonMutation → Result Unit → PaimonStore → Prop
  | none (reply : Result Unit) : Effects store [] reply store
  | one {mutation : PaimonMutation} {reply : Result Unit} {store' : PaimonStore} (effect : Effect store mutation reply store') :
      Effects store [mutation] reply store'

/-! ## Calls that read the catalog -/

/-- What Paimon and DuckDB reply in an operation. -/
structure PaimonReplies where
  /-- The status of the call that changes the catalog, if the operation makes one. -/
  mutation : Result Unit := .ok ()
  /-- `ArrowConverter::ToArrowSchema` of the columns of a created table. -/
  toArrowSchema : Except Exception Unit := .ok ()
  listDatabases : Result (List String)
  listTables : String → Result (List String)
  /-- By database and table; the schema may be null. -/
  loadTableSchema : String → String → Result (Option Write.TableSchema)

/-- The replies about a database that holds these tables. -/
structure TruthfulTables (tables : PaimonDatabase) (listTables : Result (List String))
    (loadTableSchema : String → Result (Option Write.TableSchema)) : Prop where
  listed : ∀ names, listTables = .ok names → ∀ name, name ∈ names ↔ name ∈ tables.keySet
  loaded : ∀ name schema populated, loadTableSchema name = .ok (some schema) →
    schema.arrowSchema = .ok (some populated) → tables.find? name = some populated
  missing : ∀ name status, loadTableSchema name = .error status → status.isNotExist = true →
    tables.find? name = none

/-- The replies about a catalog. -/
structure Truthful (store : PaimonStore) (replies : PaimonReplies) : Prop where
  databases : ∀ names, replies.listDatabases = .ok names → ∀ name, name ∈ names ↔ name ∈ store.keySet
  tables : ∀ name tables, store.find? name = some tables →
    TruthfulTables tables (replies.listTables name) (replies.loadTableSchema name)

end DuckPaimon.Catalog
