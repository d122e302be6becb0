/-
Runs of operations on one attached catalog that no one else writes to, and what a listing visits
after them.
-/
import DuckPaimon.Catalog.Listing

namespace DuckPaimon.Catalog

open Outcome

/-! ## Operations -/

/-- An operation on the catalog itself. -/
inductive CatalogCall
  | createSchema (info : CreateSchemaInfo)
  | dropSchema (info : DropInfo)
  | lookupSchema (schemaName : String) (ifNotFound : OnEntryNotFound)
  | scanSchemas

/-- An operation on an entry of a schema. -/
inductive SchemaCall
  | createTable (info : BoundCreateTableInfo)
  | dropEntry (info : DropInfo)
  | lookupEntry (type : CatalogType) (tableName : String)
  | scan (type : CatalogType)

/-- An operation on an attached catalog. -/
inductive CatalogOperation
  | catalog (call : CatalogCall)
  | schema (schemaName : String) (call : SchemaCall)

section Operations

variable (addColumn : List ColumnDefinition → ColumnDefinition → Except Exception (List ColumnDefinition))

/-- The operation, with the names of the entries it returns or visits. -/
def CatalogCall.perform (replies : PaimonReplies) : CatalogCall → CatalogProc PaimonSchemaSet (List String)
  | .createSchema info => (fun entry => entry.toList.map PaimonSchemaEntry.name) <$> PaimonCatalog.createSchema replies info
  | .dropSchema info => (fun _ => []) <$> PaimonCatalog.dropSchema replies info
  | .lookupSchema schemaName ifNotFound =>
    (fun entry => entry.toList.map PaimonSchemaEntry.name) <$> PaimonCatalog.lookupSchema replies schemaName ifNotFound
  | .scanSchemas => List.map PaimonSchemaEntry.name <$> PaimonCatalog.scanSchemas replies

@[inherit_doc CatalogCall.perform]
def SchemaCall.perform (replies : PaimonReplies) : SchemaCall → CatalogProc PaimonSchemaEntry (List String)
  | .createTable info =>
    (fun entry => entry.toList.map PaimonTableEntry.name) <$> PaimonSchemaEntry.createTable addColumn replies info
  | .dropEntry info => (fun _ => []) <$> PaimonSchemaEntry.dropEntry replies info
  | .lookupEntry type tableName =>
    (fun entry => entry.toList.map PaimonTableEntry.name) <$>
      PaimonSchemaEntry.lookupEntry addColumn replies type tableName
  | .scan type => List.map PaimonTableEntry.name <$> PaimonSchemaEntry.scan addColumn replies type

/-- The entries of an attached catalog, and the Paimon catalog behind them. -/
structure CatalogState where
  schemas : PaimonSchemaSet := {}
  store : PaimonStore

/-- An operation with the replies it got and the names it returned, if it did. -/
structure CatalogRecord where
  operation : CatalogOperation
  replies : PaimonReplies
  result : Except Exception (List String)

/-- One operation; one on a schema is run on the entry its name finds. -/
inductive CatalogStep (s : CatalogState) : CatalogRecord → CatalogState → Prop
  | catalog (call : CatalogCall) (replies : PaimonReplies) {r : Except Exception (List String)} {schemas : PaimonSchemaSet}
      {mutations : List PaimonMutation} {store : PaimonStore}
      (run : (call.perform replies).run s.schemas = (r, schemas, mutations))
      (effects : Effects s.store mutations replies.mutation store) (truthful : Truthful store replies) :
      CatalogStep s ⟨.catalog call, replies, r⟩ { schemas, store }
  | schema (schemaName : String) (call : SchemaCall) (replies : PaimonReplies) {r : Except Exception (List String)}
      {entry entry' : PaimonSchemaEntry} {mutations : List PaimonMutation} {store : PaimonStore}
      (found : s.schemas.entries.find? schemaName = some entry)
      (run : (call.perform addColumn replies).run entry = (r, entry', mutations))
      (effects : Effects s.store mutations replies.mutation store) (truthful : Truthful store replies) :
      CatalogStep s ⟨.schema schemaName call, replies, r⟩
        { schemas := { s.schemas with entries := s.schemas.entries.update schemaName fun _ => entry' }, store }

/-! ## Operations that tell their names apart -/

/-- Whether an operation on the catalog touches names that differ from other existing names not only
in case: the name that is created or dropped in a listed set, or the names that are listed. -/
def CatalogCall.Safe (s : CatalogState) (replies : PaimonReplies) : CatalogCall → Prop
  | .createSchema info => replies.mutation = .ok () → s.schemas.inited = true → Apart s.store.keySet info.schema
  | .dropSchema info => replies.mutation = .ok () → s.schemas.inited = true → Apart s.store.keySet info.name
  | .lookupSchema _ _ | .scanSchemas => s.schemas.inited = false → Set.InjOn caseFold s.store.keySet

/-- The same of an operation on the entry of a schema; the entry of a created table is to be made from
what Paimon replies. -/
def SchemaCall.Safe (tables : PaimonDatabase) (entry : PaimonSchemaEntry) (replies : PaimonReplies) : SchemaCall → Prop
  | .createTable info => replies.mutation = .ok () → entry.tables.inited = true → Apart tables.keySet info.table ∧
      ∃ made, loadTableEntry addColumn info.table (replies.loadTableSchema entry.name info.table) = .ok (some made)
  | .dropEntry info => replies.mutation = .ok () → entry.tables.inited = true → Apart tables.keySet info.name
  | .lookupEntry _ _ => True
  | .scan _ => entry.tables.inited = false → Set.InjOn caseFold tables.keySet

/-- The same of any operation. -/
def Safe (s : CatalogState) (record : CatalogRecord) : Prop :=
  match record.operation with
  | .catalog call => call.Safe s record.replies
  | .schema schemaName call => ∀ entry tables, s.schemas.entries.find? schemaName = some entry →
      s.store.find? entry.name = some tables → call.Safe addColumn tables entry record.replies

/-- An operation that tells its names apart. -/
def SafeStep (s : CatalogState) (record : CatalogRecord) (s' : CatalogState) : Prop :=
  CatalogStep addColumn s record s' ∧ Safe addColumn s record

end Operations

/-! ## What an operation does to Paimon -/

section Effects

variable {store store' : PaimonStore}

theorem Effects.nil {reply : Result Unit} (h : Effects store [] reply store') : store' = store := by
  cases h
  rfl

theorem Effects.failed {mutation : PaimonMutation} {status : Status} (h : Effects store [mutation] (.error status) store') :
    store' = store := by
  cases h with
  | one effect =>
    cases effect
    rfl

theorem Effects.createDatabase {name : String} {ignoreIfExists : Bool}
    (h : Effects store [.createDatabase name ignoreIfExists] (.ok ()) store') :
    store'.keySet = insert name store.keySet ∧ ∀ d tables, store.find? d = some tables → store'.find? d = some tables := by
  cases h with
  | one effect =>
    cases effect with
    | databaseCreated _ absent =>
      refine ⟨SortedMap.keySet_insert .., fun d tables hd => ?_⟩
      rw [SortedMap.find?_insert, if_neg]
      · exact hd
      · rintro rfl
        exact absurd (absent.symm.trans hd) nofun
    | databaseExists found => exact ⟨(Set.insert_eq_of_mem found).symm, fun _ _ hd => hd⟩

theorem Effects.dropDatabase {name : String} {ignoreIfNotExists cascade : Bool}
    (h : Effects store [.dropDatabase name ignoreIfNotExists cascade] (.ok ()) store') :
    store'.keySet = store.keySet \ {name} ∧ ∀ d, d ≠ name → store'.find? d = store.find? d := by
  cases h with
  | one effect =>
    cases effect with
    | databaseDropped _ _ found unused =>
      refine ⟨SortedMap.keySet_erase .., fun d hd => ?_⟩
      rw [SortedMap.find?_erase, if_neg hd]
    | databaseAbsent _ absent => exact ⟨(Set.sdiff_singleton_eq_self (SortedMap.not_mem_keySet.2 absent)).symm, fun _ _ => rfl⟩

/-- What becomes of one database, the others staying as they are. -/
structure Changes (store store' : PaimonStore) (name : String) (tables tables' : PaimonDatabase) : Prop where
  before : store.find? name = some tables
  after : store'.find? name = some tables'
  others : ∀ d, d ≠ name → store'.find? d = store.find? d

theorem Changes.refl {name : String} {tables : PaimonDatabase} (h : store.find? name = some tables) :
    Changes store store name tables tables := ⟨h, h, fun _ _ => rfl⟩

theorem Changes.insert {name : String} {tables : PaimonDatabase} (h : store.find? name = some tables)
    (tables' : PaimonDatabase) : Changes store (store.insert name tables') name tables tables' := by
  refine ⟨h, ?_, fun d hd => ?_⟩
  · rw [SortedMap.find?_insert, if_pos rfl]
  · rw [SortedMap.find?_insert, if_neg hd]

theorem Changes.keySet {name : String} {tables tables' : PaimonDatabase} (h : Changes store store' name tables tables') :
    store'.keySet = store.keySet := by
  ext d
  show store'.find? d ≠ none ↔ store.find? d ≠ none
  by_cases hd : d = name
  · subst hd
    rw [h.before, h.after]
    exact ⟨nofun, nofun⟩
  · rw [h.others d hd]

theorem Effects.createTable {databaseName tableName : String} {definition : TableDefinition} {ignoreIfExists : Bool}
    (h : Effects store [.createTable databaseName tableName definition ignoreIfExists] (.ok ()) store') :
    ∃ tables tables', Changes store store' databaseName tables tables' ∧ tables'.keySet = insert tableName tables.keySet ∧
      ∀ j, j ≠ tableName → tables'.find? j = tables.find? j := by
  cases h with
  | one effect =>
    cases effect with
    | tableCreated _ _ table found absent =>
      refine ⟨_, _, .insert found _, SortedMap.keySet_insert .., fun j hj => ?_⟩
      rw [SortedMap.find?_insert, if_neg hj]
    | tableExists _ found existing =>
      exact ⟨_, _, .refl found, (Set.insert_eq_of_mem existing).symm, fun _ _ => rfl⟩

theorem Effects.dropTable {databaseName tableName : String} {ignoreIfNotExists : Bool} {tables : PaimonDatabase}
    (found : store.find? databaseName = some tables)
    (h : Effects store [.dropTable databaseName tableName ignoreIfNotExists] (.ok ()) store') :
    ∃ tables', Changes store store' databaseName tables tables' ∧ tables'.keySet = tables.keySet \ {tableName} ∧
      ∀ j, j ≠ tableName → tables'.find? j = tables.find? j := by
  cases h with
  | one effect =>
    cases effect with
    | tableDropped _ found' existing =>
      cases found.symm.trans found'
      refine ⟨_, .insert found _, SortedMap.keySet_erase .., fun j hj => ?_⟩
      rw [SortedMap.find?_erase, if_neg hj]
    | tableAbsent absent =>
      refine ⟨_, .refl found, (Set.sdiff_singleton_eq_self (SortedMap.not_mem_keySet.2 (absent _ found))).symm, fun _ _ => rfl⟩

end Effects

/-! ## What an operation does to the entries -/

section Calls

variable {addColumn : List ColumnDefinition → ColumnDefinition → Except Exception (List ColumnDefinition)}
  (replies : PaimonReplies)

theorem wp_schemaScan (tables : PaimonDatabase) (type : CatalogType) (entry : PaimonSchemaEntry) :
    (PaimonSchemaEntry.scan addColumn replies type).wp entry fun r entry' l =>
      l = [] ∧ entry'.name = entry.name ∧
        (type = .tableEntry → ∀ entries, r = .ok entries →
          entry'.tables.inited = true ∧ entries = entry'.tables.entries.entries.map Prod.snd) ∧
        (TruthfulTables tables (replies.listTables entry.name) (replies.loadTableSchema entry.name) →
          entry.tables.Reflects addColumn tables → Listed addColumn tables entry.tables entry'.tables) := by
  unfold PaimonSchemaEntry.scan
  rw [Proc.wp_bind, Proc.wp_get]
  show Proc.wp _ _ _
  rw [Proc.wp_ite]
  split
  · rename_i hother
    exact (Proc.wp_pure _ _ _).2 ⟨rfl, rfl, fun htype => absurd htype hother,
      fun _ h => ⟨h, subset_rfl, fun _ hcomplete => hcomplete⟩⟩
  · unfold PaimonSchemaEntry.onTables
    rw [Proc.wp_zoom]
    refine Proc.wp_mono (wp_scan tables replies entry.name entry.tables) ?_
    rintro r set' l ⟨rfl, hentries, hlisted⟩
    exact ⟨rfl, rfl, fun _ => hentries, hlisted⟩

theorem wp_lookupEntry (type : CatalogType) (tableName : String) (entry : PaimonSchemaEntry) :
    (PaimonSchemaEntry.lookupEntry addColumn replies type tableName).wp entry fun _ entry' l =>
      l = [] ∧ (entry' = entry ∨ ∃ built set', entry' = { entry with tables := set' } ∧
        Built addColumn (replies.loadTableSchema entry.name tableName) tableName entry.tables built set') := by
  unfold PaimonSchemaEntry.lookupEntry
  rw [Proc.wp_bind, Proc.wp_get]
  show Proc.wp _ _ _
  rw [Proc.wp_ite]
  split
  · exact (Proc.wp_pure _ _ _).2 ⟨rfl, .inl rfl⟩
  · unfold PaimonSchemaEntry.onTables
    rw [Proc.wp_zoom]
    refine Proc.wp_mono (wp_buildEntry replies entry.name tableName entry.tables) ?_
    rintro r set' l ⟨rfl, built⟩
    exact ⟨rfl, .inr ⟨r, set', rfl, built⟩⟩

/-- A call that changes Paimon and is refused changes nothing else. -/
theorem throwStatus_cases (reply : Result Unit) :
    (∃ status e, reply = .error status ∧ throwStatus reply = .error e) ∨ reply = .ok () ∧ throwStatus reply = .ok () := by
  rcases reply with status | u
  · unfold throwStatus
    dsimp only
    split
    · exact .inl ⟨status, _, rfl, rfl⟩
    · exact .inl ⟨status, _, rfl, rfl⟩
  · exact .inr ⟨rfl, rfl⟩

theorem wp_createTable (info : BoundCreateTableInfo) (entry : PaimonSchemaEntry) :
    (PaimonSchemaEntry.createTable addColumn replies info).wp entry fun _ entry' l =>
      l = [] ∧ entry' = entry ∨
        ∃ definition, l = [.createTable entry.name info.table definition (info.onConflict = .ignoreOnConflict)] ∧
          ((∃ status, replies.mutation = .error status) ∧ entry' = entry ∨
            replies.mutation = .ok () ∧ ∃ built set', entry' = { entry with tables := set' } ∧
              Built addColumn (replies.loadTableSchema entry.name info.table) info.table
                { entry.tables with entries := entry.tables.entries.erase info.table } built set') := by
  unfold PaimonSchemaEntry.createTable
  rw [Proc.wp_bind, Proc.wp_throwIf]
  split
  · exact .inl ⟨rfl, rfl⟩
  show Proc.wp _ _ _
  rw [Proc.wp_bind, Proc.wp_get]
  show Proc.wp _ _ _
  rw [Proc.wp_bind, Proc.wp_ofExcept]
  rcases replies.toArrowSchema with e | u
  · exact .inl ⟨rfl, rfl⟩
  show Proc.wp _ _ _
  rw [Proc.wp_bind, Proc.wp_ofExcept]
  rcases Write.getCreatePrimaryKeys info.toCreateTableInfo with e | primaryKeys
  · exact .inl ⟨rfl, rfl⟩
  show Proc.wp _ _ _
  rw [Proc.wp_bind, Proc.wp_ofExcept]
  rcases info.partitionKeys.mapM PartitionExpression.column with e | partitionKeys
  · exact .inl ⟨rfl, rfl⟩
  show Proc.wp _ _ _
  rw [Proc.wp_bind, Proc.wp_ofExcept]
  rcases Write.getCreateTableOptions info.toCreateTableInfo with e | options
  · exact .inl ⟨rfl, rfl⟩
  show Proc.wp _ _ _
  rw [Proc.wp_bind, Proc.wp_call]
  show Proc.wp _ _ _
  rw [Proc.wp_bind, Proc.wp_ofExcept]
  rcases throwStatus_cases replies.mutation with ⟨status, e, hreply, hthrow⟩ | ⟨hreply, hthrow⟩
  · rw [hthrow]
    exact .inr ⟨_, rfl, .inl ⟨⟨status, hreply⟩, rfl⟩⟩
  · rw [hthrow]
    show Proc.wp _ _ _
    unfold PaimonSchemaEntry.onTables
    rw [Proc.wp_zoom]
    refine Proc.wp_mono (wp_refreshEntry replies entry.name info.table entry.tables) ?_
    rintro r set' l ⟨rfl, built⟩
    exact .inr ⟨_, rfl, .inr ⟨hreply, r, set', rfl, built⟩⟩

theorem wp_dropEntry (info : DropInfo) (entry : PaimonSchemaEntry) :
    (PaimonSchemaEntry.dropEntry replies info).wp entry fun _ entry' l =>
      l = [] ∧ entry' = entry ∨
        l = [.dropTable entry.name info.name (info.ifNotFound = .returnNull)] ∧
          ((∃ status, replies.mutation = .error status) ∧ entry' = entry ∨
            replies.mutation = .ok () ∧
              entry' = { entry with tables := { entry.tables with entries := entry.tables.entries.erase info.name } }) := by
  unfold PaimonSchemaEntry.dropEntry
  rw [Proc.wp_bind, Proc.wp_throwIf]
  split
  · exact .inl ⟨rfl, rfl⟩
  show Proc.wp _ _ _
  rw [Proc.wp_bind, Proc.wp_get]
  show Proc.wp _ _ _
  rw [Proc.wp_bind, Proc.wp_call]
  show Proc.wp _ _ _
  rw [Proc.wp_bind, Proc.wp_ofExcept]
  rcases throwStatus_cases replies.mutation with ⟨status, e, hreply, hthrow⟩ | ⟨hreply, hthrow⟩
  · rw [hthrow]
    exact .inr ⟨rfl, .inl ⟨⟨status, hreply⟩, rfl⟩⟩
  · rw [hthrow]
    show Proc.wp _ _ _
    unfold PaimonSchemaEntry.onTables PaimonTableSet.dropEntry
    rw [Proc.wp_zoom, Proc.wp_modify]
    exact .inr ⟨rfl, .inr ⟨hreply, rfl⟩⟩

theorem wp_createSchema (info : CreateSchemaInfo) (set : PaimonSchemaSet) :
    (PaimonCatalog.createSchema replies info).wp set fun _ set' l =>
      l = [.createDatabase info.schema (info.onConflict = .ignoreOnConflict)] ∧
        ((∃ status, replies.mutation = .error status) ∧ set' = set ∨ replies.mutation = .ok () ∧
          set' = { set with entries := set.entries.emplace info.schema { name := info.schema } }) := by
  unfold PaimonCatalog.createSchema
  rw [Proc.wp_bind, Proc.wp_call]
  show Proc.wp _ _ _
  rw [Proc.wp_bind, Proc.wp_ofExcept]
  rcases throwStatus_cases replies.mutation with ⟨status, e, hreply, hthrow⟩ | ⟨hreply, hthrow⟩
  · rw [hthrow]
    exact ⟨rfl, .inl ⟨⟨status, hreply⟩, rfl⟩⟩
  · rw [hthrow]
    show Proc.wp _ _ _
    unfold PaimonSchemaSet.createEntry
    rw [Proc.wp_bind, Proc.wp_modify]
    show Proc.wp _ _ _
    rw [Proc.wp_bind, Proc.wp_get]
    exact (Proc.wp_pure _ _ _).2 ⟨rfl, .inr ⟨hreply, rfl⟩⟩

theorem wp_dropSchema (info : DropInfo) (set : PaimonSchemaSet) :
    (PaimonCatalog.dropSchema replies info).wp set fun _ set' l =>
      l = [.dropDatabase info.name (info.ifNotFound = .returnNull) info.cascade] ∧
        ((∃ status, replies.mutation = .error status) ∧ set' = set ∨ replies.mutation = .ok () ∧
          set' = { set with entries := set.entries.erase info.name }) := by
  unfold PaimonCatalog.dropSchema
  rw [Proc.wp_bind, Proc.wp_call]
  show Proc.wp _ _ _
  rw [Proc.wp_bind, Proc.wp_ofExcept]
  rcases throwStatus_cases replies.mutation with ⟨status, e, hreply, hthrow⟩ | ⟨hreply, hthrow⟩
  · rw [hthrow]
    exact ⟨rfl, .inl ⟨⟨status, hreply⟩, rfl⟩⟩
  · rw [hthrow]
    show Proc.wp _ _ _
    unfold PaimonSchemaSet.dropEntry
    rw [Proc.wp_modify]
    exact ⟨rfl, .inr ⟨hreply, rfl⟩⟩

/-- What `PaimonSchemaSet::LoadEntries` can do to the set. -/
inductive SchemasLoaded (set : PaimonSchemaSet) : PaimonSchemaSet → Prop
  | kept : SchemasLoaded set set
  | loaded {databases : List String} (unlisted : set.inited = false) (reply : replies.listDatabases = .ok databases) :
      SchemasLoaded set
        { inited := true
          entries := databases.foldl (fun entries database => entries.emplace database { name := database }) set.entries }

theorem wp_schemasLoadEntries (set : PaimonSchemaSet) :
    (PaimonSchemaSet.loadEntries replies).wp set fun r set' l =>
      l = [] ∧ SchemasLoaded replies set set' ∧ (r = .ok () → set'.inited = true) := by
  unfold PaimonSchemaSet.loadEntries
  rw [Proc.wp_bind, Proc.wp_get]
  show Proc.wp _ _ _
  rw [Proc.wp_ite]
  split
  · rename_i hinited
    exact (Proc.wp_pure _ _ _).2 ⟨rfl, .kept, fun _ => hinited⟩
  · rename_i hinited
    rw [Bool.not_eq_true] at hinited
    rw [Proc.wp_bind, Proc.wp_ofExcept]
    rcases hlist : replies.listDatabases.orIO with e | databases
    · exact ⟨rfl, .kept, nofun⟩
    · show Proc.wp _ _ _
      rw [Write.orIO_eq_ok] at hlist
      rw [Proc.wp_modify]
      exact ⟨rfl, .loaded hinited hlist, fun _ => rfl⟩

theorem wp_lookupSchema (schemaName : String) (ifNotFound : OnEntryNotFound) (set : PaimonSchemaSet) :
    (PaimonCatalog.lookupSchema replies schemaName ifNotFound).wp set fun _ set' l =>
      l = [] ∧ SchemasLoaded replies set set' := by
  unfold PaimonCatalog.lookupSchema PaimonSchemaSet.getEntry
  rw [Proc.wp_bind, Proc.wp_bind]
  refine Proc.wp_mono (wp_schemasLoadEntries replies set) ?_
  rintro (e | u) set' l ⟨rfl, hloaded, -⟩
  · exact ⟨rfl, hloaded⟩
  · show Proc.wp _ _ _
    rw [Proc.wp_bind, Proc.wp_get]
    show Proc.wp _ _ _
    rw [Proc.wp_pure]
    show Proc.wp _ _ _
    rw [Proc.wp_bind, Proc.wp_throwIf]
    split
    · exact ⟨rfl, hloaded⟩
    · exact (Proc.wp_pure _ _ _).2 ⟨rfl, hloaded⟩

theorem wp_scanSchemas (set : PaimonSchemaSet) :
    (PaimonCatalog.scanSchemas replies).wp set fun r set' l =>
      l = [] ∧ SchemasLoaded replies set set' ∧
        ∀ entries, r = .ok entries → set'.inited = true ∧ entries = set'.entries.entries.map Prod.snd := by
  unfold PaimonCatalog.scanSchemas PaimonSchemaSet.scan
  rw [Proc.wp_bind]
  refine Proc.wp_mono (wp_schemasLoadEntries replies set) ?_
  rintro (e | u) set' l ⟨rfl, hloaded, hinited⟩
  · exact ⟨rfl, hloaded, nofun⟩
  · show Proc.wp _ _ _
    rw [Proc.wp_bind, Proc.wp_get]
    refine (Proc.wp_pure _ _ _).2 ⟨rfl, hloaded, fun entries hentries => ?_⟩
    cases hentries
    exact ⟨hinited rfl, rfl⟩

end Calls

/-! ## The entries of a run -/

section Invariant

variable {addColumn : List ColumnDefinition → ColumnDefinition → Except Exception (List ColumnDefinition)}

/-- An entry shows the database of its name, with all its tables once they were listed. -/
def ShowsSchema (addColumn : List ColumnDefinition → ColumnDefinition → Except Exception (List ColumnDefinition))
    (store : PaimonStore) (e : String × PaimonSchemaEntry) : Prop :=
  e.2.name = e.1 ∧ ∃ tables, store.find? e.1 = some tables ∧ e.2.tables.Reflects addColumn tables ∧
    e.2.tables.Complete tables

/-- Every entry shows a database, and once listed every database has its entry. -/
structure Accurate (addColumn : List ColumnDefinition → ColumnDefinition → Except Exception (List ColumnDefinition))
    (s : CatalogState) : Prop where
  entries : ∀ e ∈ s.schemas.entries.entries, ShowsSchema addColumn s.store e
  complete : s.schemas.inited = true → s.schemas.entries.keySet = s.store.keySet

theorem accurate_start (store : PaimonStore) : Accurate addColumn { store } := ⟨nofun, nofun⟩

/-- The entry of a database that was just created or listed. -/
theorem showsSchema_new {store : PaimonStore} {name : String} (h : name ∈ store.keySet) :
    ShowsSchema addColumn store (name, { name }) := by
  obtain ⟨tables, htables⟩ := SortedMap.mem_keySet.1 h
  exact ⟨rfl, tables, htables, nofun, nofun⟩

theorem Accurate.keySet_subset {s : CatalogState} (h : Accurate addColumn s) :
    s.schemas.entries.keySet ⊆ s.store.keySet := by
  intro j hj
  obtain ⟨entry, hentry⟩ := FoldMap.mem_keySet.1 hj
  obtain ⟨-, tables, htables, -⟩ := h.entries _ hentry
  exact SortedMap.mem_keySet.2 ⟨tables, htables⟩

/-- A listing keeps the entries accurate. -/
theorem Accurate.load {s : CatalogState} {replies : PaimonReplies} {schemas : PaimonSchemaSet}
    (h : Accurate addColumn s) (hloaded : SchemasLoaded replies s.schemas schemas) (truthful : Truthful s.store replies)
    (hsafe : s.schemas.inited = false → Set.InjOn caseFold s.store.keySet) :
    Accurate addColumn { schemas, store := s.store } := by
  cases hloaded with
  | kept => exact h
  | @loaded databases unlisted reply =>
    have hlisted := truthful.databases _ reply
    constructor
    · intro e he
      rcases FoldMap.mem_foldl_emplace (fun name => ({ name } : PaimonSchemaEntry)) he with hold | ⟨name, hname, rfl⟩
      · exact h.entries e hold
      · exact showsSchema_new ((hlisted name).1 hname)
    · intro _
      refine (FoldMap.keySet_foldl_emplace (fun name => ({ name } : PaimonSchemaEntry)) (hsafe unlisted)
        (fun name hname => (hlisted name).1 hname) h.keySet_subset).trans ?_
      have hall : {name | name ∈ databases} = s.store.keySet := Set.ext hlisted
      rw [hall]
      exact Set.union_eq_right.2 h.keySet_subset

/-- An operation on the catalog keeps the entries accurate. -/
theorem Accurate.catalogCall {s : CatalogState} {call : CatalogCall} {replies : PaimonReplies}
    {r : Except Exception (List String)} {schemas : PaimonSchemaSet} {mutations : List PaimonMutation} {store : PaimonStore}
    (h : Accurate addColumn s) (run : (call.perform replies).run s.schemas = (r, schemas, mutations))
    (effects : Effects s.store mutations replies.mutation store) (truthful : Truthful store replies)
    (hsafe : call.Safe s replies) : Accurate addColumn { schemas, store } := by
  cases call with
  | createSchema info =>
    obtain ⟨found, -, hrun⟩ := Proc.wp_run_map (wp_createSchema replies info s.schemas) run
    obtain ⟨rfl, ⟨⟨status, hreply⟩, rfl⟩ | ⟨hreply, rfl⟩⟩ := hrun
    · rw [hreply] at effects
      rw [effects.failed]
      exact h
    · rw [hreply] at effects
      obtain ⟨hkeys, hkept⟩ := effects.createDatabase
      constructor
      · intro e he
        rcases FoldMap.mem_emplace.1 he with hold | ⟨-, rfl⟩
        · obtain ⟨hnamed, tables, htables, hentries⟩ := h.entries e hold
          exact ⟨hnamed, tables, hkept _ _ htables, hentries⟩
        · exact showsSchema_new (hkeys ▸ Set.mem_insert _ _)
      · intro hinited
        rw [hkeys]
        exact FoldMap.keySet_emplace_eq _ (h.complete hinited) (hsafe hreply hinited)
  | dropSchema info =>
    obtain ⟨found, -, hrun⟩ := Proc.wp_run_map (wp_dropSchema replies info s.schemas) run
    obtain ⟨rfl, ⟨⟨status, hreply⟩, rfl⟩ | ⟨hreply, rfl⟩⟩ := hrun
    · rw [hreply] at effects
      rw [effects.failed]
      exact h
    · rw [hreply] at effects
      obtain ⟨hkeys, hothers⟩ := effects.dropDatabase
      constructor
      · intro e he
        obtain ⟨hold, hne⟩ := FoldMap.mem_erase.1 he
        obtain ⟨hnamed, tables, htables, hentries⟩ := h.entries e hold
        exact ⟨hnamed, tables, (hothers e.1 fun heq => hne (congrArg caseFold heq)).trans htables, hentries⟩
      · intro hinited
        rw [hkeys]
        exact FoldMap.keySet_erase_eq (h.complete hinited) (hsafe hreply hinited)
  | lookupSchema schemaName ifNotFound =>
    obtain ⟨found, -, hrun⟩ := Proc.wp_run_map (wp_lookupSchema replies schemaName ifNotFound s.schemas) run
    obtain ⟨rfl, hloaded⟩ := hrun
    obtain rfl := effects.nil
    exact h.load hloaded truthful hsafe
  | scanSchemas =>
    obtain ⟨found, -, hrun⟩ := Proc.wp_run_map (wp_scanSchemas replies s.schemas) run
    obtain ⟨rfl, hloaded, -⟩ := hrun
    obtain rfl := effects.nil
    exact h.load hloaded truthful hsafe

/-- An operation on the entry of a schema changes at most its database and keeps its tables accurate. -/
theorem schemaCall_keeps {store store' : PaimonStore} {tables : PaimonDatabase} {call : SchemaCall} {replies : PaimonReplies}
    {r : Except Exception (List String)} {entry entry' : PaimonSchemaEntry} {mutations : List PaimonMutation}
    (hdatabase : store.find? entry.name = some tables) (hreflects : entry.tables.Reflects addColumn tables)
    (hcomplete : entry.tables.Complete tables) (run : (call.perform addColumn replies).run entry = (r, entry', mutations))
    (effects : Effects store mutations replies.mutation store') (truthful : Truthful store' replies)
    (hsafe : call.Safe addColumn tables entry replies) :
    entry'.name = entry.name ∧ ∃ tables', Changes store store' entry.name tables tables' ∧
      entry'.tables.Reflects addColumn tables' ∧ entry'.tables.Complete tables' := by
  cases call with
  | createTable info =>
    obtain ⟨found, -, hrun⟩ := Proc.wp_run_map (wp_createTable replies info entry) run
    obtain ⟨rfl, rfl⟩ | ⟨definition, rfl, ⟨⟨status, hreply⟩, rfl⟩ | ⟨hreply, built, set', rfl, hbuilt⟩⟩ := hrun
    · obtain rfl := effects.nil
      exact ⟨rfl, tables, .refl hdatabase, hreflects, hcomplete⟩
    · rw [hreply] at effects
      obtain rfl := effects.failed
      exact ⟨rfl, tables, .refl hdatabase, hreflects, hcomplete⟩
    · rw [hreply] at effects
      obtain ⟨tables₁, tables', hchanges, hkeys, hsame⟩ := effects.createTable
      cases hdatabase.symm.trans hchanges.before
      refine ⟨rfl, tables', hchanges, ?_, ?_⟩
      · exact hbuilt.reflects (truthful.tables _ _ hchanges.after) (hreflects.erase hsame)
      · exact hbuilt.refresh_complete hkeys (hsafe hreply) hcomplete
  | dropEntry info =>
    obtain ⟨found, -, hrun⟩ := Proc.wp_run_map (wp_dropEntry replies info entry) run
    obtain ⟨rfl, rfl⟩ | ⟨rfl, ⟨⟨status, hreply⟩, rfl⟩ | ⟨hreply, rfl⟩⟩ := hrun
    · obtain rfl := effects.nil
      exact ⟨rfl, tables, .refl hdatabase, hreflects, hcomplete⟩
    · rw [hreply] at effects
      obtain rfl := effects.failed
      exact ⟨rfl, tables, .refl hdatabase, hreflects, hcomplete⟩
    · rw [hreply] at effects
      obtain ⟨tables', hchanges, hkeys, hsame⟩ := effects.dropTable hdatabase
      refine ⟨rfl, tables', hchanges, hreflects.erase hsame, fun hinited => ?_⟩
      rw [hkeys]
      exact FoldMap.keySet_erase_eq (hcomplete hinited) (hsafe hreply hinited)
  | lookupEntry type tableName =>
    obtain ⟨found, -, hrun⟩ := Proc.wp_run_map (wp_lookupEntry replies type tableName entry) run
    obtain ⟨rfl, rfl | ⟨built, set', rfl, hbuilt⟩⟩ := hrun
    · obtain rfl := effects.nil
      exact ⟨rfl, tables, .refl hdatabase, hreflects, hcomplete⟩
    · obtain rfl := effects.nil
      have hreflects' := hbuilt.reflects (truthful.tables _ _ hdatabase) hreflects
      exact ⟨rfl, tables, .refl hdatabase, hreflects', hcomplete.mono hbuilt.inited hbuilt.keySet_subset hreflects'⟩
  | scan type =>
    obtain ⟨found, -, hrun⟩ := Proc.wp_run_map (wp_schemaScan replies tables type entry) run
    obtain ⟨rfl, hname, -, hlisted⟩ := hrun
    obtain rfl := effects.nil
    have hlisted := hlisted (truthful.tables _ _ hdatabase) hreflects
    exact ⟨hname, tables, .refl hdatabase, hlisted.reflects, hlisted.complete hsafe hcomplete⟩

/-- The entry an operation is run on shows its database. -/
theorem Accurate.found {s : CatalogState} {schemaName : String} {entry : PaimonSchemaEntry} (h : Accurate addColumn s)
    (found : s.schemas.entries.find? schemaName = some entry) :
    caseFold entry.name = caseFold schemaName ∧ (entry.name, entry) ∈ s.schemas.entries.entries ∧
      ShowsSchema addColumn s.store (entry.name, entry) := by
  obtain ⟨j, hj, hmem⟩ := FoldMap.find?_eq_some.1 found
  have hshows := h.entries _ hmem
  obtain rfl : entry.name = j := hshows.1
  exact ⟨hj, hmem, hshows⟩

/-- Every operation that tells its names apart keeps the entries accurate. -/
theorem Accurate.step {s s' : CatalogState} {record : CatalogRecord} (h : Accurate addColumn s)
    (hstep : SafeStep addColumn s record s') : Accurate addColumn s' := by
  obtain ⟨hstep, hsafe⟩ := hstep
  cases hstep with
  | catalog call replies run effects truthful => exact h.catalogCall run effects truthful hsafe
  | @schema schemaName call replies r entry entry' mutations store found run effects truthful =>
    obtain ⟨hfold, hmem, -, tables, hdatabase, hreflects, hcomplete⟩ := h.found found
    obtain ⟨hname, tables', hchanges, hreflects', hcomplete'⟩ := schemaCall_keeps hdatabase hreflects hcomplete run effects
      truthful (hsafe entry tables found hdatabase)
    constructor
    · intro e he
      rcases FoldMap.mem_update he with ⟨hold, hne⟩ | ⟨v, hold, heq, hv⟩
      · obtain ⟨hnamed, tables₁, htables₁, hentries⟩ := h.entries e hold
        refine ⟨hnamed, tables₁, (hchanges.others e.1 ?_).trans htables₁, hentries⟩
        rintro hsame
        exact hne (hsame ▸ hfold)
      · -- the entry the operation was run on
        have hsame := congrArg Prod.fst (FoldMap.entry_unique _ hold hmem (heq.trans hfold.symm))
        have hkey : e.1 = entry.name := hsame
        refine ⟨?_, tables', ?_, ?_⟩
        · rw [hv, hkey]
          exact hname
        · rw [hkey]
          exact hchanges.after
        · rw [hv]
          exact ⟨hreflects', hcomplete'⟩
    · intro hinited
      rw [FoldMap.keySet_update, hchanges.keySet]
      exact h.complete hinited

theorem Accurate.run {store : PaimonStore} {history : List CatalogRecord} {s : CatalogState}
    (run : Run (SafeStep addColumn) { store } history s) : Accurate addColumn s :=
  run.invariant (I := fun _ => Accurate addColumn) (accurate_start store) Accurate.step

/-- The names of the visited entries, where every entry has the name it was put under. -/
theorem names_of_entries {ν : Type} {name : ν → String} {map : CaseInsensitiveMap ν}
    (h : ∀ e ∈ map.entries, name e.2 = e.1) : (map.entries.map Prod.snd).map name = map.keys := by
  unfold FoldMap.keys
  rw [List.map_map]
  exact List.map_congr_left h

/-- After a run of operations that tell their names apart, a listing that succeeds visits exactly the
databases of Paimon, or the tables of the database, each once. -/
theorem scan_visits_existing {store : PaimonStore} {history : List CatalogRecord} {s : CatalogState}
    (run : Run (SafeStep addColumn) { store } history s) :
    (∀ replies names s', SafeStep addColumn s ⟨.catalog .scanSchemas, replies, .ok names⟩ s' →
        names.Nodup ∧ ∀ name, name ∈ names ↔ name ∈ s.store.keySet) ∧
      ∀ schemaName replies names s', SafeStep addColumn s ⟨.schema schemaName (.scan .tableEntry), replies, .ok names⟩ s' →
        ∃ entry tables, s.schemas.entries.find? schemaName = some entry ∧ s.store.find? entry.name = some tables ∧
          names.Nodup ∧ ∀ name, name ∈ names ↔ name ∈ tables.keySet := by
  have haccurate := Accurate.run run
  constructor
  · intro replies names s' hstep
    have haccurate' := haccurate.step hstep
    obtain ⟨hstep, -⟩ := hstep
    generalize hok : (Except.ok names : Except Exception (List String)) = result at hstep
    cases hstep with
    | catalog call replies run effects truthful =>
      obtain ⟨found, hfound, rfl, -, hentries⟩ := Proc.wp_run_map (wp_scanSchemas replies s.schemas) run
      obtain rfl := effects.nil
      obtain ⟨entries, rfl, rfl⟩ := Outcome.map_eq_ok.1 (hfound.symm.trans hok.symm)
      obtain ⟨hinited, rfl⟩ := hentries entries rfl
      rw [names_of_entries fun e he => (haccurate'.entries e he).1]
      exact ⟨FoldMap.keys_nodup _, fun name => by rw [← haccurate'.complete hinited]; rfl⟩
  · intro schemaName replies names s' hstep
    obtain ⟨hstep, hsafe⟩ := hstep
    generalize hok : (Except.ok names : Except Exception (List String)) = result at hstep hsafe
    cases hstep with
    | @schema _ call _ _ entry entry' mutations store' found run effects truthful =>
      obtain ⟨-, -, -, tables, hdatabase, hreflects, hcomplete⟩ := haccurate.found found
      obtain ⟨visited, hvisited, rfl, -, hentries, hlisted⟩ :=
        Proc.wp_run_map (wp_schemaScan replies tables .tableEntry entry) run
      obtain rfl := effects.nil
      obtain ⟨entries, rfl, rfl⟩ := Outcome.map_eq_ok.1 (hvisited.symm.trans hok.symm)
      obtain ⟨hinited, rfl⟩ := hentries rfl entries rfl
      have hlisted := hlisted (truthful.tables _ _ hdatabase) hreflects
      have hall := hlisted.complete (hsafe entry tables found hdatabase) hcomplete hinited
      refine ⟨entry, tables, found, hdatabase, ?_⟩
      rw [names_of_entries fun e he => (hlisted.reflects e he).1]
      exact ⟨FoldMap.keys_nodup _, fun name => by rw [← hall]; rfl⟩

end Invariant

/-! ## A table that is dropped under another name -/

namespace Sample

def addColumn (columns : List ColumnDefinition) (column : ColumnDefinition) :
    Except Exception (List ColumnDefinition) := .ok (columns ++ [column])

def table : Write.ArrowTable := (["a"], [{ id := .integer }])

def database : PaimonDatabase := SortedMap.empty.insert "t" (.ok table)

def store : PaimonStore := SortedMap.empty.insert "db" database

def replies : PaimonReplies where
  listDatabases := .ok ["db"]
  listTables _ := .ok ["t"]
  loadTableSchema _ tableName :=
    if tableName = "t" then .ok (some ⟨["a"], none, .ok (some (.ok table)), .ok ""⟩)
    else .error { isNotExist := true, text := "no table" }

theorem keySet_singleton {ν : Type} (name : String) (v : ν) :
    ((SortedMap.empty : SortedMap String ν).insert name v).keySet = {name} := by
  rw [SortedMap.keySet_insert]
  ext j
  constructor
  · rintro (rfl | h)
    · rfl
    · exact absurd rfl h
  · rintro rfl
    exact .inl rfl

theorem truthful : Truthful store replies := by
  constructor
  · rintro names ⟨⟩ name
    rw [store, keySet_singleton]
    exact List.mem_singleton
  · intro name tables hfind
    rw [store, SortedMap.find?_insert] at hfind
    split at hfind
    · cases hfind
      refine ⟨?_, ?_, ?_⟩
      · rintro names ⟨⟩ name
        rw [database, keySet_singleton]
        exact List.mem_singleton
      · intro name schema populated hload harrow
        rw [database, SortedMap.find?_insert]
        unfold replies at hload
        dsimp only at hload
        split at hload
        · cases hload
          cases harrow
          rename_i hname
          rw [if_pos hname]
        · cases hload
      · intro name status hload _
        rw [database, SortedMap.find?_insert]
        unfold replies at hload
        dsimp only at hload
        split at hload
        · cases hload
        · rename_i hname
          rw [if_neg hname]
          rfl
    · cases hfind

/-- The entries before and after the table set is listed. -/
def listed : CatalogState where
  schemas := { inited := true, entries := FoldMap.empty.emplace "db" { name := "db" } }
  store

@[inherit_doc listed] def loaded : CatalogState where
  schemas :=
    { inited := true
      entries := FoldMap.empty.emplace "db"
        { name := "db"
          tables := { inited := true, entries := FoldMap.empty.emplace "t" ⟨"t", [⟨"a", { id := .integer }⟩]⟩ } } }
  store

/-- The entries after `DROP TABLE IF EXISTS "T"`. -/
def dropped : CatalogState where
  schemas := { inited := true, entries := FoldMap.empty.emplace "db" { name := "db", tables := { inited := true } } }
  store

theorem step_listed : CatalogStep addColumn { store } ⟨.catalog .scanSchemas, replies, .ok ["db"]⟩ listed :=
  .catalog .scanSchemas replies rfl (.none _) truthful

theorem step_loaded :
    CatalogStep addColumn listed ⟨.schema "db" (.scan .tableEntry), replies, .ok ["t"]⟩ loaded :=
  .schema "db" (.scan .tableEntry) replies rfl rfl (.none _) truthful

/-- `DROP TABLE IF EXISTS "T"`. -/
def dropT : CatalogOperation := .schema "db" (.dropEntry { type := .tableEntry, name := "T", ifNotFound := .returnNull })

theorem step_dropped : CatalogStep addColumn loaded ⟨dropT, replies, .ok []⟩ dropped := by
  refine .schema "db" _ replies rfl rfl (.one (.tableAbsent fun tables hfind => ?_)) truthful
  cases hfind
  rfl

/-- Paimon keeps the table `t`, and the next listing misses it. -/
theorem scan_visits_existing_dropT :
    Run (CatalogStep addColumn) { store }
        [⟨.catalog .scanSchemas, replies, .ok ["db"]⟩, ⟨.schema "db" (.scan .tableEntry), replies, .ok ["t"]⟩,
          ⟨dropT, replies, .ok []⟩] dropped ∧
      CatalogStep addColumn dropped ⟨.schema "db" (.scan .tableEntry), replies, .ok []⟩ dropped ∧
      dropped.store.find? "db" = some database ∧ "t" ∈ database.keySet := by
  refine ⟨.snoc (.snoc (.snoc .nil step_listed) step_loaded) step_dropped, ?_, rfl, ?_⟩
  · exact .schema "db" (.scan .tableEntry) replies rfl rfl (.none _) truthful
  · rw [database, keySet_singleton]
    exact Set.mem_singleton _

theorem safe_listed : SafeStep addColumn { store } ⟨.catalog .scanSchemas, replies, .ok ["db"]⟩ listed := by
  refine ⟨step_listed, fun _ => ?_⟩
  show Set.InjOn caseFold store.keySet
  rw [store, keySet_singleton]
  exact fun j hj k hk _ => hj.trans hk.symm

theorem scan_visits_existing_listed :
    (∀ replies names s', SafeStep addColumn listed ⟨.catalog .scanSchemas, replies, .ok names⟩ s' →
        names.Nodup ∧ ∀ name, name ∈ names ↔ name ∈ listed.store.keySet) ∧
      ∀ schemaName replies names s',
        SafeStep addColumn listed ⟨.schema schemaName (.scan .tableEntry), replies, .ok names⟩ s' →
          ∃ entry tables, listed.schemas.entries.find? schemaName = some entry ∧
            listed.store.find? entry.name = some tables ∧ names.Nodup ∧ ∀ name, name ∈ names ↔ name ∈ tables.keySet :=
  scan_visits_existing (Run.nil.snoc safe_listed)

end Sample

end DuckPaimon.Catalog
