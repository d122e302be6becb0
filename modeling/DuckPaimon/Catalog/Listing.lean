/-
What the cached entries say of Paimon, whatever operations were run: every entry of a table set shows
a table of its database, and a set that was listed has an entry for every table. The second part
needs that no name an operation touches differs from an existing one only in case.
-/
import Mathlib.Order.BooleanAlgebra.Set
import DuckPaimon.Lib.Run
import DuckPaimon.Catalog.Sets

namespace DuckPaimon.Catalog

open Outcome

/-! ## Table sets -/

/-- No other name of the set differs from `name` only in case. -/
def Apart (names : Set String) (name : String) : Prop := ∀ j ∈ names, caseFold j = caseFold name → j = name

section Tables

variable {addColumn : List ColumnDefinition → ColumnDefinition → Except Exception (List ColumnDefinition)}

/-- An entry shows the table of its name. -/
def Shows (addColumn : List ColumnDefinition → ColumnDefinition → Except Exception (List ColumnDefinition))
    (tables : PaimonDatabase) (e : String × PaimonTableEntry) : Prop :=
  e.2.name = e.1 ∧ ∃ table, tables.find? e.1 = some table ∧ buildColumns addColumn table = .ok e.2.columns

/-- Every entry shows a table. -/
def PaimonTableSet.Reflects (addColumn : List ColumnDefinition → ColumnDefinition → Except Exception (List ColumnDefinition))
    (tables : PaimonDatabase) (set : PaimonTableSet) : Prop :=
  ∀ e ∈ set.entries.entries, Shows addColumn tables e

/-- Once listed, every table has its entry. -/
def PaimonTableSet.Complete (tables : PaimonDatabase) (set : PaimonTableSet) : Prop :=
  set.inited = true → set.entries.keySet = tables.keySet

/-- What `LoadTableSchema` says of a table is true. -/
theorem loadTableEntry_shows {tables : PaimonDatabase} {listTables : Result (List String)}
    {loadTableSchema : String → Result (Option Write.TableSchema)} {name : String} {entry : PaimonTableEntry}
    (truthful : TruthfulTables tables listTables loadTableSchema)
    (h : loadTableEntry addColumn name (loadTableSchema name) = .ok (some entry)) : Shows addColumn tables (name, entry) := by
  rcases hreply : loadTableSchema name with status | _ | schema
  · rw [hreply] at h
    unfold loadTableEntry at h
    dsimp only at h
    split at h <;> cases h
  · rw [hreply] at h
    cases h
  · rw [hreply] at h
    obtain ⟨arrowSchema, harrow, h⟩ := bind_eq_ok.1 h
    rw [Write.orIO_eq_ok] at harrow
    cases arrowSchema with
    | none => cases h
    | some populated =>
      obtain ⟨columns, hcolumns, h⟩ := bind_eq_ok.1 h
      cases pure_eq_ok.1 h
      exact ⟨rfl, populated, truthful.loaded _ _ _ hreply harrow, hcolumns⟩

theorem loadTableEntry_none {tables : PaimonDatabase} {listTables : Result (List String)}
    {loadTableSchema : String → Result (Option Write.TableSchema)} {name : String}
    (truthful : TruthfulTables tables listTables loadTableSchema)
    (h : loadTableEntry addColumn name (loadTableSchema name) = .ok none) : tables.find? name = none := by
  rcases hreply : loadTableSchema name with status | _ | schema
  · rw [hreply] at h
    unfold loadTableEntry at h
    dsimp only at h
    split at h
    · rename_i hmissing
      exact truthful.missing _ _ hreply hmissing
    · cases h
  · rw [hreply] at h
    cases h
  · rw [hreply] at h
    obtain ⟨arrowSchema, -, h⟩ := bind_eq_ok.1 h
    cases arrowSchema with
    | none => cases h
    | some populated =>
      obtain ⟨columns, -, h⟩ := bind_eq_ok.1 h
      cases pure_eq_ok.1 h

/-- What `BuildEntry` can do. -/
inductive Built (addColumn : List ColumnDefinition → ColumnDefinition → Except Exception (List ColumnDefinition))
    (reply : Result (Option Write.TableSchema)) (name : String) (set : PaimonTableSet) :
    Except Exception (Option PaimonTableEntry) → PaimonTableSet → Prop
  | cached {entry : PaimonTableEntry} (found : set.entries.find? name = some entry) :
      Built addColumn reply name set (.ok (some entry)) set
  | absent (missed : set.entries.find? name = none) (loaded : loadTableEntry addColumn name reply = .ok none) :
      Built addColumn reply name set (.ok none) set
  | failed {e : Exception} (missed : set.entries.find? name = none)
      (loaded : loadTableEntry addColumn name reply = .error e) : Built addColumn reply name set (.error e) set
  | loaded {entry : PaimonTableEntry} (missed : set.entries.find? name = none)
      (loaded : loadTableEntry addColumn name reply = .ok (some entry)) :
      Built addColumn reply name set (.ok (some entry)) { set with entries := set.entries.emplace name entry }

theorem wp_buildEntry (replies : PaimonReplies) (schemaName tableName : String) (set : PaimonTableSet) :
    (PaimonTableSet.buildEntry addColumn replies schemaName tableName).wp set fun r set' l =>
      l = [] ∧ Built addColumn (replies.loadTableSchema schemaName tableName) tableName set r set' := by
  unfold PaimonTableSet.buildEntry
  rw [Proc.wp_bind, Proc.wp_get]
  show Proc.wp _ _ _
  rcases hfind : set.entries.find? tableName with _ | entry
  · show Proc.wp _ _ _
    rw [Proc.wp_bind, Proc.wp_ofExcept]
    rcases hloaded : loadTableEntry addColumn tableName (replies.loadTableSchema schemaName tableName) with e | _ | entry
    · exact ⟨rfl, .failed hfind hloaded⟩
    · exact (Proc.wp_pure _ _ _).2 ⟨rfl, .absent hfind hloaded⟩
    · show Proc.wp _ _ _
      rw [Proc.wp_bind, Proc.wp_modify]
      exact (Proc.wp_pure _ _ _).2 ⟨rfl, .loaded hfind hloaded⟩
  · exact (Proc.wp_pure _ _ _).2 ⟨rfl, .cached hfind⟩

section Built

variable {tables : PaimonDatabase} {listTables : Result (List String)}
  {loadTableSchema : String → Result (Option Write.TableSchema)} {name : String} {set set' : PaimonTableSet}
  {r : Except Exception (Option PaimonTableEntry)}

theorem Built.reflects (built : Built addColumn (loadTableSchema name) name set r set')
    (truthful : TruthfulTables tables listTables loadTableSchema) (h : set.Reflects addColumn tables) :
    set'.Reflects addColumn tables := by
  cases built with
  | cached found => exact h
  | absent missed loaded => exact h
  | failed missed loaded => exact h
  | loaded missed loaded =>
    intro e he
    rcases FoldMap.mem_emplace.1 he with hold | ⟨-, rfl⟩
    · exact h e hold
    · exact loadTableEntry_shows truthful loaded

theorem Built.inited {reply : Result (Option Write.TableSchema)} (built : Built addColumn reply name set r set') :
    set'.inited = set.inited := by
  cases built <;> rfl

theorem Built.keySet_subset {reply : Result (Option Write.TableSchema)} (built : Built addColumn reply name set r set') :
    set.entries.keySet ⊆ set'.entries.keySet := by
  cases built with
  | cached found => exact subset_rfl
  | absent missed loaded => exact subset_rfl
  | failed missed loaded => exact subset_rfl
  | loaded missed loaded => exact FoldMap.subset_keySet_emplace _ _ _

theorem PaimonTableSet.Reflects.keySet_subset (h : set.Reflects addColumn tables) : set.entries.keySet ⊆ tables.keySet := by
  intro j hj
  obtain ⟨entry, hentry⟩ := FoldMap.mem_keySet.1 hj
  obtain ⟨-, table, htable, -⟩ := h _ hentry
  exact SortedMap.mem_keySet.2 ⟨table, htable⟩

/-- An entry that was built is there, if nothing stood in its place. -/
theorem Built.mem_keySet (built : Built addColumn (loadTableSchema name) name set r set')
    (truthful : TruthfulTables tables listTables loadTableSchema) {found : Option PaimonTableEntry} (hr : r = .ok found)
    (hname : name ∈ tables.keySet) (hapart : Apart set.entries.keySet name) : name ∈ set'.entries.keySet := by
  cases built with
  | cached found =>
    obtain ⟨j, hj, hmem⟩ := FoldMap.find?_eq_some.1 found
    have hkey : j ∈ set.entries.keySet := FoldMap.mem_keySet.2 ⟨_, hmem⟩
    exact hapart j hkey hj ▸ hkey
  | absent missed loaded => exact absurd (loadTableEntry_none truthful loaded) hname
  | failed missed loaded => cases hr
  | loaded missed loaded => exact FoldMap.mem_keySet_emplace _ hapart

end Built

/-- A complete set stays complete when entries of its database are added. -/
theorem PaimonTableSet.Complete.mono {tables : PaimonDatabase} {set set' : PaimonTableSet} (h : set.Complete tables)
    (hinited : set'.inited = set.inited) (hsubset : set.entries.keySet ⊆ set'.entries.keySet)
    (hreflects : set'.Reflects addColumn tables) : set'.Complete tables := by
  intro hlisted
  rw [hinited] at hlisted
  exact hreflects.keySet_subset.antisymm (h hlisted ▸ hsubset)

/-- An entry that is erased leaves those of the other tables. -/
theorem PaimonTableSet.Reflects.erase {tables tables' : PaimonDatabase} {set : PaimonTableSet} {name : String}
    (h : set.Reflects addColumn tables) (hsame : ∀ j, j ≠ name → tables'.find? j = tables.find? j) :
    PaimonTableSet.Reflects addColumn tables' { set with entries := set.entries.erase name } := by
  intro e he
  obtain ⟨hold, hne⟩ := FoldMap.mem_erase.1 he
  obtain ⟨hnamed, table, htable, hcolumns⟩ := h e hold
  exact ⟨hnamed, table, (hsame e.1 fun heq => hne (congrArg caseFold heq)).trans htable, hcolumns⟩

/-- A complete set stays complete when an entry is built anew for a table that was created or was
there, and nothing else stood in its place. -/
theorem Built.refresh_complete {tables tables' : PaimonDatabase} {reply : Result (Option Write.TableSchema)} {name : String}
    {set set' : PaimonTableSet} {r : Except Exception (Option PaimonTableEntry)}
    (built : Built addColumn reply name { set with entries := set.entries.erase name } r set')
    (hkeys : tables'.keySet = insert name tables.keySet)
    (hsafe : set.inited = true → Apart tables.keySet name ∧ ∃ entry, loadTableEntry addColumn name reply = .ok (some entry))
    (hcomplete : set.Complete tables) : set'.Complete tables' := by
  intro hinited
  have hlisted : set.inited = true := built.inited.symm.trans hinited
  obtain ⟨hapart, entry, hentry⟩ := hsafe hlisted
  have herased : (set.entries.erase name).keySet = tables.keySet \ {name} :=
    FoldMap.keySet_erase_eq (hcomplete hlisted) hapart
  have hne (j : String) (hj : j ∈ (set.entries.erase name).keySet) : caseFold j ≠ caseFold name := by
    rw [FoldMap.keySet_erase] at hj
    exact hj.2
  rw [hkeys]
  -- nothing stands in the place of the entry, and the reply makes one
  cases built with
  | cached found =>
    obtain ⟨j, hj, hmem⟩ := FoldMap.find?_eq_some.1 found
    exact absurd hj (hne j (FoldMap.mem_keySet.2 ⟨_, hmem⟩))
  | absent missed loaded =>
    rw [hentry] at loaded
    cases loaded
  | failed missed loaded =>
    rw [hentry] at loaded
    cases loaded
  | loaded missed loaded =>
    refine (FoldMap.keySet_emplace_eq _ herased fun j hj hj' => hapart j hj.1 hj').trans ?_
    exact Set.insert_sdiff_singleton

/-! ## What the procedures of a table set do -/

/-- What a listing makes of a set whose entries show the tables of its database. -/
structure Listed (addColumn : List ColumnDefinition → ColumnDefinition → Except Exception (List ColumnDefinition))
    (tables : PaimonDatabase) (set set' : PaimonTableSet) : Prop where
  reflects : set'.Reflects addColumn tables
  subset : set.entries.keySet ⊆ set'.entries.keySet
  complete : (set.inited = false → Set.InjOn caseFold tables.keySet) → set.Complete tables → set'.Complete tables

section Procedures

variable (tables : PaimonDatabase) (replies : PaimonReplies) (schemaName : String)

theorem wp_buildEntries (names : List String) (set : PaimonTableSet) :
    (PaimonTableSet.buildEntries addColumn replies schemaName names).wp set fun r set' l =>
      l = [] ∧ set'.inited = set.inited ∧
        (TruthfulTables tables (replies.listTables schemaName) (replies.loadTableSchema schemaName) →
          set.Reflects addColumn tables →
          set'.Reflects addColumn tables ∧ set.entries.keySet ⊆ set'.entries.keySet ∧
            (r = .ok () → Set.InjOn caseFold tables.keySet →
              ∀ name ∈ names, name ∈ tables.keySet → name ∈ set'.entries.keySet)) := by
  induction names generalizing set with
  | nil =>
    unfold PaimonTableSet.buildEntries
    exact (Proc.wp_pure _ _ _).2 ⟨rfl, rfl, fun _ h => ⟨h, subset_rfl, fun _ _ => nofun⟩⟩
  | cons name names ih =>
    unfold PaimonTableSet.buildEntries
    rw [Proc.wp_bind]
    refine Proc.wp_mono (wp_buildEntry replies schemaName name set) ?_
    rintro (e | found) set' l ⟨rfl, built⟩
    · exact ⟨rfl, built.inited, fun truthful h => ⟨built.reflects truthful h, built.keySet_subset, nofun⟩⟩
    · refine Proc.wp_mono (ih set') ?_
      rintro r set'' l ⟨rfl, hinited, hrest⟩
      refine ⟨rfl, hinited.trans built.inited, fun truthful h => ?_⟩
      obtain ⟨hreflects, hsubset, hlisted⟩ := hrest truthful (built.reflects truthful h)
      refine ⟨hreflects, built.keySet_subset.trans hsubset, fun hr hfold => ?_⟩
      rw [List.forall_mem_cons]
      refine ⟨fun hname => hsubset (built.mem_keySet truthful rfl hname fun j hj hj' => ?_), hlisted hr hfold⟩
      exact hfold (h.keySet_subset hj) hname hj'

theorem wp_loadEntries (set : PaimonTableSet) :
    (PaimonTableSet.loadEntries addColumn replies schemaName).wp set fun r set' l =>
      l = [] ∧ (r = .ok () → set'.inited = true) ∧
        (TruthfulTables tables (replies.listTables schemaName) (replies.loadTableSchema schemaName) →
          set.Reflects addColumn tables → Listed addColumn tables set set') := by
  unfold PaimonTableSet.loadEntries
  rw [Proc.wp_bind, Proc.wp_get]
  show Proc.wp _ _ _
  rw [Proc.wp_ite]
  split
  · rename_i hinited
    exact (Proc.wp_pure _ _ _).2 ⟨rfl, fun _ => hinited, fun _ h => ⟨h, subset_rfl, fun _ hcomplete => hcomplete⟩⟩
  · rename_i hinited
    rw [Bool.not_eq_true] at hinited
    have hvacuous {set' : PaimonTableSet} (heq : set'.inited = set.inited) : set'.Complete tables :=
      fun hlisted => absurd (hlisted.symm.trans (heq.trans hinited)) Bool.noConfusion
    rw [Proc.wp_bind, Proc.wp_ofExcept]
    rcases hlist : Result.orIO (replies.listTables schemaName) with e | names
    · exact ⟨rfl, nofun, fun _ h => ⟨h, subset_rfl, fun _ _ => hvacuous rfl⟩⟩
    · show Proc.wp _ _ _
      rw [Write.orIO_eq_ok] at hlist
      rw [Proc.wp_bind]
      refine Proc.wp_mono (wp_buildEntries tables replies schemaName names set) ?_
      rintro (e | u) set' l ⟨rfl, heq, hbuilt⟩
      · refine ⟨rfl, nofun, fun truthful h => ?_⟩
        obtain ⟨hreflects, hsubset, -⟩ := hbuilt truthful h
        exact ⟨hreflects, hsubset, fun _ _ => hvacuous heq⟩
      · show Proc.wp _ _ _
        rw [Proc.wp_modify]
        refine ⟨rfl, fun _ => rfl, fun truthful h => ?_⟩
        obtain ⟨hreflects, hsubset, hlisted⟩ := hbuilt truthful h
        refine ⟨hreflects, hsubset, fun hfold _ _ => ?_⟩
        -- every table was listed and has its entry now
        refine hreflects.keySet_subset.antisymm fun name hname => ?_
        exact hlisted rfl (hfold hinited) name ((truthful.listed _ hlist name).2 hname) hname

theorem wp_scan (set : PaimonTableSet) :
    (PaimonTableSet.scan addColumn replies schemaName).wp set fun r set' l =>
      l = [] ∧ (∀ entries, r = .ok entries → set'.inited = true ∧ entries = set'.entries.entries.map Prod.snd) ∧
        (TruthfulTables tables (replies.listTables schemaName) (replies.loadTableSchema schemaName) →
          set.Reflects addColumn tables → Listed addColumn tables set set') := by
  unfold PaimonTableSet.scan
  rw [Proc.wp_bind]
  refine Proc.wp_mono (wp_loadEntries tables replies schemaName set) ?_
  rintro (e | u) set' l ⟨rfl, hinited, hlisted⟩
  · exact ⟨rfl, nofun, hlisted⟩
  · show Proc.wp _ _ _
    rw [Proc.wp_bind, Proc.wp_get]
    refine (Proc.wp_pure _ _ _).2 ⟨rfl, fun entries hentries => ?_, hlisted⟩
    cases hentries
    exact ⟨hinited rfl, rfl⟩

theorem wp_refreshEntry (tableName : String) (set : PaimonTableSet) :
    (PaimonTableSet.refreshEntry addColumn replies schemaName tableName).wp set fun r set' l =>
      l = [] ∧ Built addColumn (replies.loadTableSchema schemaName tableName) tableName
        { set with entries := set.entries.erase tableName } r set' := by
  unfold PaimonTableSet.refreshEntry
  rw [Proc.wp_bind, Proc.wp_modify]
  exact wp_buildEntry replies schemaName tableName _

end Procedures

end Tables

end DuckPaimon.Catalog
