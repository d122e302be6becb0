/-
Whether the lookup of a table name depends on what was looked up before: two histories of lookups and
scans over the same tables of Paimon.
-/
import DuckPaimon.Catalog.Runs

namespace DuckPaimon.Catalog

open Outcome

section Lookup

variable (addColumn : List ColumnDefinition → ColumnDefinition → Except Exception (List ColumnDefinition))
  (schemaName : String) (tables : PaimonDatabase)

/-- A lookup or a scan of the tables of a schema. -/
inductive TableRead
  | lookup (tableName : String)
  | scan
  deriving DecidableEq

/-- A lookup or a scan, whether it returns or throws; Paimon holds the same tables before and after. -/
inductive ReadStep (set : PaimonTableSet) : TableRead → PaimonTableSet → Prop
  | lookup (tableName : String) (replies : PaimonReplies) {r : Except Exception (Option PaimonTableEntry)}
      {set' : PaimonTableSet} {mutations : List PaimonMutation}
      (run : (PaimonTableSet.getEntry addColumn replies schemaName tableName).run set = (r, set', mutations))
      (truthful : TruthfulTables tables (replies.listTables schemaName) (replies.loadTableSchema schemaName)) :
      ReadStep set (.lookup tableName) set'
  | scan (replies : PaimonReplies) {r : Except Exception (List PaimonTableEntry)} {set' : PaimonTableSet}
      {mutations : List PaimonMutation}
      (run : (PaimonTableSet.scan addColumn replies schemaName).run set = (r, set', mutations))
      (truthful : TruthfulTables tables (replies.listTables schemaName) (replies.loadTableSchema schemaName)) :
      ReadStep set .scan set'

/-- `GetEntry` returns this after a history of lookups and scans. -/
def Returns (name : String) (history : List TableRead) (found : Option PaimonTableEntry) : Prop :=
  ∃ set set' replies mutations, Run (ReadStep addColumn schemaName tables) {} history set ∧
    TruthfulTables tables (replies.listTables schemaName) (replies.loadTableSchema schemaName) ∧
    (PaimonTableSet.getEntry addColumn replies schemaName name).run set = (.ok found, set', mutations)

/-- What `GetEntry` returns for a name is the same after every two histories. -/
def HistoryIndependent (name : String) : Prop :=
  ∀ history₁ history₂ found₁ found₂, Returns addColumn schemaName tables name history₁ found₁ →
    Returns addColumn schemaName tables name history₂ found₂ → found₁ = found₂

/-- An entry `GetEntry` returns for a name has the name and columns of an existing table, and `DropEntry`
of the name asks Paimon to drop that table. -/
def ResolvesToDropped (name : String) : Prop :=
  ∀ history entry, Returns addColumn schemaName tables name history (some entry) →
    (∃ table, tables.find? entry.name = some table ∧ buildColumns addColumn table = .ok entry.columns) ∧
      ∀ replies info (schema : PaimonSchemaEntry), info.type = .tableEntry → info.name = name → schema.name = schemaName →
        ((PaimonSchemaEntry.dropEntry replies info).run schema).2.2 =
          [.dropTable schemaName entry.name (info.ifNotFound = .returnNull)]

end Lookup

section Lookups

variable {addColumn : List ColumnDefinition → ColumnDefinition → Except Exception (List ColumnDefinition)}
  {schemaName : String} {tables : PaimonDatabase}

/-- Every entry shows a table, whatever was looked up. -/
theorem ReadStep.reflects {set set' : PaimonTableSet} {read : TableRead} (h : set.Reflects addColumn tables)
    (hstep : ReadStep addColumn schemaName tables set read set') : set'.Reflects addColumn tables := by
  cases hstep with
  | lookup tableName replies run truthful =>
    obtain ⟨-, built⟩ := Proc.wp_run (wp_buildEntry replies schemaName tableName set) run
    exact built.reflects truthful h
  | scan replies run truthful =>
    obtain ⟨-, -, hlisted⟩ := Proc.wp_run (wp_scan tables replies schemaName set) run
    exact (hlisted truthful h).reflects

theorem reads_reflect {history : List TableRead} {set : PaimonTableSet}
    (run : Run (ReadStep addColumn schemaName tables) {} history set) : set.Reflects addColumn tables :=
  run.invariant (I := fun _ set => set.Reflects addColumn tables) nofun ReadStep.reflects

/-- What a lookup returns: the entry of a table whose name differs at most in case, or nothing where
there is no table. -/
theorem Returns.cases {name : String} {history : List TableRead} {found : Option PaimonTableEntry}
    (h : Returns addColumn schemaName tables name history found) :
    found = none ∧ tables.find? name = none ∨
      ∃ entry, found = some entry ∧ caseFold entry.name = caseFold name ∧ Shows addColumn tables (entry.name, entry) := by
  obtain ⟨set, set', replies, mutations, run, truthful, hget⟩ := h
  have hreflects := reads_reflect run
  obtain ⟨-, built⟩ := Proc.wp_run (wp_buildEntry replies schemaName name set) hget
  generalize hr : (Except.ok found : Except Exception (Option PaimonTableEntry)) = r at built
  cases built with
  | @cached entry hfound =>
    cases hr
    obtain ⟨j, hj, hmem⟩ := FoldMap.find?_eq_some.1 hfound
    have hshows := hreflects _ hmem
    obtain rfl : entry.name = j := hshows.1
    exact .inr ⟨entry, rfl, hj, hshows⟩
  | absent missed loaded =>
    cases hr
    exact .inl ⟨rfl, loadTableEntry_none truthful loaded⟩
  | failed missed loaded => cases hr
  | @loaded entry missed loaded =>
    cases hr
    have hshows := loadTableEntry_shows truthful loaded
    obtain rfl : entry.name = name := hshows.1
    exact .inr ⟨entry, rfl, rfl, hshows⟩

theorem dropEntry_calls (replies : PaimonReplies) {info : DropInfo} (htype : info.type = .tableEntry)
    (schema : PaimonSchemaEntry) : ((PaimonSchemaEntry.dropEntry replies info).run schema).2.2 =
      [.dropTable schema.name info.name (info.ifNotFound = .returnNull)] := by
  have hwp : (PaimonSchemaEntry.dropEntry replies info).wp schema fun _ _ l =>
      l = [.dropTable schema.name info.name (info.ifNotFound = .returnNull)] := by
    unfold PaimonSchemaEntry.dropEntry
    rw [Proc.wp_bind, Proc.wp_throwIf, if_neg (not_not.2 htype)]
    show Proc.wp _ _ _
    rw [Proc.wp_bind, Proc.wp_get]
    show Proc.wp _ _ _
    rw [Proc.wp_bind, Proc.wp_call]
    show Proc.wp _ _ _
    rw [Proc.wp_bind, Proc.wp_ofExcept]
    rcases throwStatus replies.mutation with e | u
    · rfl
    · show Proc.wp _ _ _
      unfold PaimonSchemaEntry.onTables PaimonTableSet.dropEntry
      rw [Proc.wp_zoom, Proc.wp_modify]
      rfl
  exact Proc.wp_run hwp rfl

/-- Paimon without a failure. -/
def repliesOf (tables : PaimonDatabase) : PaimonReplies where
  listDatabases := .ok []
  listTables _ := .ok (tables.entries.map Prod.fst)
  loadTableSchema _ name :=
    match tables.find? name with
    | some populated => .ok (some ⟨[], none, .ok (some populated), .ok ""⟩)
    | none => .error { isNotExist := true, text := "" }

theorem truthful_repliesOf (tables : PaimonDatabase) (schemaName : String) :
    TruthfulTables tables ((repliesOf tables).listTables schemaName) ((repliesOf tables).loadTableSchema schemaName) := by
  refine ⟨?_, ?_, ?_⟩
  · rintro names ⟨⟩ name
    rw [SortedMap.mem_keySet, List.mem_map]
    constructor
    · rintro ⟨⟨_, table⟩, hmem, rfl⟩
      exact ⟨table, (SortedMap.find?_eq_some _ _ _).2 hmem⟩
    · rintro ⟨table, htable⟩
      exact ⟨_, (SortedMap.find?_eq_some _ _ _).1 htable, rfl⟩
  · intro name schema populated hload harrow
    unfold repliesOf at hload
    dsimp only at hload
    split at hload
    · rename_i hfind
      cases hload
      cases harrow
      exact hfind
    · cases hload
  · intro name status hload _
    unfold repliesOf at hload
    dsimp only at hload
    split at hload
    · cases hload
    · rename_i hfind
      exact hfind

/-- A table that can be loaded is returned for every name that differs from it only in case, once it
was looked up itself. -/
theorem returns_other {other name : String} {table : StoredTable} {columns : List ColumnDefinition}
    (hfind : tables.find? other = some table) (hcolumns : buildColumns addColumn table = .ok columns)
    (hfold : caseFold other = caseFold name) :
    Returns addColumn schemaName tables name [.lookup other] (some ⟨other, columns⟩) := by
  have hload : loadTableEntry addColumn other ((repliesOf tables).loadTableSchema schemaName other) =
      .ok (some ⟨other, columns⟩) := by
    have hreply : (repliesOf tables).loadTableSchema schemaName other =
        .ok (some ⟨[], none, .ok (some table), .ok ""⟩) := by
      unfold repliesOf
      dsimp only
      rw [hfind]
    rw [hreply]
    exact bind_eq_ok.2 ⟨some table, rfl, bind_eq_ok.2 ⟨columns, hcolumns, rfl⟩⟩
  rcases hfirst : (PaimonTableSet.getEntry addColumn (repliesOf tables) schemaName other).run {} with ⟨r, set, mutations⟩
  have hput : set.entries.find? name = some ⟨other, columns⟩ := by
    obtain ⟨-, built⟩ := Proc.wp_run (wp_buildEntry (repliesOf tables) schemaName other {}) hfirst
    cases built with
    | cached found => cases found
    | absent missed loaded =>
      rw [hload] at loaded
      cases loaded
    | failed missed loaded =>
      rw [hload] at loaded
      cases loaded
    | loaded missed loaded =>
      rw [hload] at loaded
      cases loaded
      exact FoldMap.find?_eq_some.2 ⟨other, hfold, FoldMap.mem_emplace.2 (.inr ⟨missed, rfl⟩)⟩
  rcases hsecond : (PaimonTableSet.getEntry addColumn (repliesOf tables) schemaName name).run set with ⟨r', set', mutations'⟩
  refine ⟨set, set', repliesOf tables, mutations', ?_, truthful_repliesOf tables schemaName, ?_⟩
  · exact Run.nil.snoc (.lookup other (repliesOf tables) hfirst (truthful_repliesOf tables schemaName))
  · rw [hsecond]
    obtain ⟨-, built⟩ := Proc.wp_run (wp_buildEntry (repliesOf tables) schemaName name set) hsecond
    cases built with
    | cached found =>
      cases hput.symm.trans found
      rfl
    | absent missed _ => exact absurd (hput.symm.trans missed) nofun
    | failed missed _ => exact absurd (hput.symm.trans missed) nofun
    | loaded missed _ => exact absurd (hput.symm.trans missed) nofun

/-- The lookup of a name depends on the name and the tables alone, and finds what a drop of the name
drops, exactly when no table that can be loaded differs from the name only in case. -/
theorem lookup_exact_iff (name : String) :
    HistoryIndependent addColumn schemaName tables name ∧ ResolvesToDropped addColumn schemaName tables name ↔
      ∀ other table columns, tables.find? other = some table → buildColumns addColumn table = .ok columns →
        caseFold other = caseFold name → other = name := by
  constructor
  · rintro ⟨-, hresolves⟩ other table columns hfind hcolumns hfold
    obtain ⟨-, hdrop⟩ := hresolves _ _ (returns_other hfind hcolumns hfold)
    have hcalls := hdrop (repliesOf tables) { type := .tableEntry, name } { name := schemaName } rfl rfl rfl
    rw [dropEntry_calls (repliesOf tables) rfl] at hcalls
    cases hcalls
    rfl
  · intro hunique
    -- what is returned is the entry of the table of exactly this name
    have hexact (history : List TableRead) (entry : PaimonTableEntry)
        (h : Returns addColumn schemaName tables name history (some entry)) :
        entry.name = name ∧ ∃ table, tables.find? name = some table ∧ buildColumns addColumn table = .ok entry.columns := by
      rcases h.cases with ⟨hnone, -⟩ | ⟨_, ⟨⟩, hfold, -, table, hfind, hcolumns⟩
      · cases hnone
      · have hname : entry.name = name := hunique _ _ _ hfind hcolumns hfold
        exact ⟨hname, table, hname ▸ hfind, hcolumns⟩
    have hnone (history : List TableRead) (h : Returns addColumn schemaName tables name history none) :
        tables.find? name = none := by
      rcases h.cases with ⟨-, hfind⟩ | ⟨_, hsome, -⟩
      · exact hfind
      · cases hsome
    constructor
    · rintro history₁ history₂ (_ | ⟨name₁, columns₁⟩) (_ | ⟨name₂, columns₂⟩) h₁ h₂
      · rfl
      · obtain ⟨-, table, hfind, -⟩ := hexact _ _ h₂
        exact absurd ((hnone _ h₁).symm.trans hfind) nofun
      · obtain ⟨-, table, hfind, -⟩ := hexact _ _ h₁
        exact absurd ((hnone _ h₂).symm.trans hfind) nofun
      · obtain ⟨hname₁, table₁, hfind₁, hcolumns₁⟩ := hexact _ _ h₁
        obtain ⟨hname₂, table₂, hfind₂, hcolumns₂⟩ := hexact _ _ h₂
        cases hfind₁.symm.trans hfind₂
        cases hcolumns₁.symm.trans hcolumns₂
        cases hname₁.trans hname₂.symm
        rfl
    · intro history entry h
      obtain ⟨hname, table, hfind, hcolumns⟩ := hexact _ _ h
      refine ⟨⟨table, hname ▸ hfind, hcolumns⟩, fun replies info schema htype hinfo hschema => ?_⟩
      rw [dropEntry_calls replies htype, hinfo, hschema, hname]

end Lookups

namespace Sample

/-- `T` is found after `t` was looked up, and is not found before. -/
theorem not_historyIndependent_database : ¬ HistoryIndependent addColumn "db" database "T" := by
  intro h
  have hfind : database.find? "t" = some (.ok table) := rfl
  have hafter : Returns addColumn "db" database "T" [.lookup "t"] (some ⟨"t", [⟨"a", { id := .integer }⟩]⟩) :=
    returns_other hfind rfl rfl
  have hbefore : Returns addColumn "db" database "T" [] none :=
    ⟨{}, {}, repliesOf database, [], .nil, truthful_repliesOf _ _, rfl⟩
  cases h _ _ _ _ hafter hbefore

end Sample

end DuckPaimon.Catalog
