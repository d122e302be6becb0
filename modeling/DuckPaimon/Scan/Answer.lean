/-
What a filtered scan answers. Paimon prunes partitions, splits and batches on a best-effort basis and
DuckDB filters again what the scan emits, so the rows that are left are those of the table on which every
filter is TRUE, in spite of all that is skipped in between.
-/
import DuckPaimon.Lib.Fetch
import DuckPaimon.Scan.Emit
import DuckPaimon.Scan.Project
import DuckPaimon.Scan.Prune
import DuckPaimon.Scan.Typed

namespace DuckPaimon.Scan

open Outcome

/-! ## The columns of an expression -/

namespace Expression

mutual

/-- The positions an expression refers to. -/
def columnRefs : Expression → List Nat
  | .columnRef i => [i]
  | .constant _ => []
  | .comparison _ l r => columnRefs l ++ columnRefs r
  | .between x lo hi _ _ => columnRefs x ++ (columnRefs lo ++ columnRefs hi)
  | .operator _ cs => columnRefsList cs
  | .conjunction _ cs => columnRefsList cs
  | .function _ cs => columnRefsList cs
  | .other _ cs => columnRefsList cs

def columnRefsList : List Expression → List Nat
  | [] => []
  | c :: cs => columnRefs c ++ columnRefsList cs

end

end Expression

section Eval

variable {eng : Engine} {get : LogicalGet} {row row' : Row}

/-- The rows agree on the columns at these positions. -/
def SameAt (get : LogicalGet) (row row' : Row) (positions : List Nat) : Prop :=
  ∀ i ∈ positions, ∀ column, get.columnIds[i]? = some column → row column = row' column

theorem SameAt.append {is js : List Nat} (h : SameAt get row row' (is ++ js)) :
    SameAt get row row' is ∧ SameAt get row row' js :=
  List.forall_mem_append.1 h

mutual

/-- The value of an expression depends on the columns it refers to. -/
theorem eval_congr : ∀ e : Expression, SameAt get row row' e.columnRefs → eval eng get row e = eval eng get row' e
  | .columnRef i, h => by
    rw [eval, eval]
    rcases hcolumn : get.columnIds[i]? with _ | column
    · rfl
    · exact h i (List.mem_singleton_self i) column hcolumn
  | .constant _, _ => rfl
  | .comparison _ l r, h => by rw [eval, eval, eval_congr l h.append.1, eval_congr r h.append.2]
  | .between x lo hi _ _, h => by
    obtain ⟨hx, hbounds⟩ := h.append
    rw [eval, eval, eval_congr x hx, eval_congr lo hbounds.append.1, eval_congr hi hbounds.append.2]
  | .operator _ cs, h => by rw [eval, eval, evalList_congr cs h]
  | .conjunction _ cs, h => by rw [eval, eval, evalList_congr cs h]
  | .function _ cs, h => by rw [eval, eval, evalList_congr cs h]
  | .other _ cs, h => by rw [eval, eval, evalList_congr cs h]

theorem evalList_congr : ∀ cs : List Expression, SameAt get row row' (Expression.columnRefsList cs) →
    evalList eng get row cs = evalList eng get row' cs
  | [], _ => rfl
  | c :: cs, h => by rw [evalList, evalList, eval_congr c h.append.1, evalList_congr cs h.append.2]

end

end Eval

/-! ## Stored rows -/

/-- A row of a table: its values by field id, and the partition it was written under. -/
structure StoredRow where
  values : Nat → Value
  partition : StringMap

/-- The row by the columns of the table. -/
def TableFields.row (schema : TableFields) (stored : StoredRow) : Row := fun position =>
  match schema.fields[position]? with
  | some field => stored.values field.id
  | none => .null { id := .invalid }

/-- The values of the fields with these ids; ids that are absent are ignored. -/
def TableFields.readIds (schema : TableFields) (fieldIds : List Nat) (stored : StoredRow) : List Value :=
  (fieldIds.filterMap schema.byId).map fun field => stored.values field.id

/-- The row a filter above the scan sees in a row of an output chunk. -/
def rowOf (columnIds : List Nat) (cells : List Value) : Row := fun column =>
  (cells[columnIds.idxOf column]?).getD (.null { id := .invalid })

/-- Every filter is TRUE on the row. -/
def allTrue (eng : Engine) (get : LogicalGet) (filters : List Expression) (row : Row) : Bool :=
  filters.all fun f => decide (truth eng get row f = some true)

theorem allTrue_iff {eng : Engine} {get : LogicalGet} {filters : List Expression} {row : Row} :
    allTrue eng get filters row = true ↔ ∀ f ∈ filters, truth eng get row f = some true := by
  simp [allTrue]

theorem allTrue_congr {eng : Engine} {get : LogicalGet} {filters : List Expression} {row row' : Row}
    (h : ∀ f ∈ filters, SameAt get row row' f.columnRefs) :
    allTrue eng get filters row = allTrue eng get filters row' := by
  rw [Bool.eq_iff_iff, allTrue_iff, allTrue_iff]
  refine forall₂_congr fun f hf => ?_
  rw [truth, truth, eval_congr f (h f hf)]

section Columns

variable {schema : TableFields} {columnIds : List Nat}

/-- Without gaps the ids handed over are those of the projected columns. -/
theorem readIds_of_noGap (hwithin : ∀ p ∈ columnIds, p < schema.fields.length) (hgap : ∀ p ∈ columnIds, schema.NoGap p)
    (stored : StoredRow) : schema.readIds columnIds stored = columnIds.map (schema.row stored) := by
  unfold TableFields.readIds
  induction columnIds with
  | nil => rfl
  | cons p columnIds ih =>
    rw [List.forall_mem_cons] at hwithin hgap
    have hfield : schema.fields[p]? = some schema.fields[p] := List.getElem?_eq_getElem hwithin.1
    have hid : schema.fields[p].id = p := (TableFields.noGap_iff hfield).1 hgap.1
    have hbyId : schema.byId p = some schema.fields[p] := by
      have hmem := TableFields.byId_of_mem (List.mem_of_getElem? hfield)
      rwa [hid] at hmem
    have hrow : schema.row stored p = stored.values schema.fields[p].id := by
      unfold TableFields.row
      rw [hfield]
    rw [List.filterMap_cons_some hbyId, List.map_cons, ih hwithin.2 hgap.2, List.map_cons, hrow]

/-- A column that is projected is seen above the scan. -/
theorem rowOf_map {row : Row} {column : Nat} (h : column ∈ columnIds) :
    rowOf columnIds (columnIds.map row) column = row column := by
  have hlt := List.idxOf_lt_length_of_mem h
  unfold rowOf
  rw [List.getElem?_map, List.getElem?_eq_getElem hlt, List.getElem_idxOf hlt]
  rfl

end Columns

/-! ## What is pushed down -/

section Pushed

variable {eng : Engine} {test : Predicate.LeafTest} {reader : ValueReader} {builder : PredicateBuilder}
  {get : LogicalGet}

/-- Where no dropped part stands under an odd number of NOTs, the predicate holds on the rows on which every
filter is TRUE. -/
theorem pushdownPredicates_holds (builderOk : builder.Succeeds)
    {filters : List Expression} {p : Predicate} (h : pushdownPredicates reader builder get filters = .ok (some p))
    (hdrops : ∀ f ∈ filters, dropsUnderNot reader get true f = false) {row : Row}
    (agrees : ∀ f ∈ filters, Agrees eng test reader get row f)
    (htrue : ∀ f ∈ filters, truth eng get row f = some true) : p.holds test row = true := by
  have hexact := pushdownPredicates_exact builderOk agrees h
  rw [hexact.1, truth_and, Ternary.all_eq_true, pruneList_eq, List.forall_mem_map, List.forall_mem_map]
  intro f hmem
  obtain ⟨hf, hconvertible⟩ := List.mem_filter.1 hmem
  exact keeps eng reader get f true row hconvertible (hdrops f hf) (htrue f hf)

theorem convertFilters_typed {filters : List Expression} {ps : List Predicate}
    (h : convertFilters reader builder get filters = .ok ps) : ∀ p ∈ ps, p.Typed get := by
  induction filters generalizing ps with
  | nil =>
    cases pure_eq_ok.1 h
    exact fun p hp => absurd hp List.not_mem_nil
  | cons f filters ih =>
    rw [convertFilters] at h
    obtain ⟨converted, hconverted, h⟩ := bind_eq_ok.1 h
    cases converted with
    | none => exact ih h
    | some p =>
      obtain ⟨rest, hrest, h⟩ := bind_eq_ok.1 h
      cases pure_eq_ok.1 h
      rw [List.forall_mem_cons]
      exact ⟨(pushes f (tryConvertExpression_returned f hconverted).symm).typed, ih hrest⟩

/-- The leaves of the predicate pushed down name the columns they test. -/
theorem pushdownPredicates_typed {filters : List Expression} {p : Predicate}
    (h : pushdownPredicates reader builder get filters = .ok (some p)) : p.Typed get := by
  unfold pushdownPredicates at h
  obtain ⟨ps, hps, h⟩ := bind_eq_ok.1 h
  split at h
  · rename_i hne
    split at h
    · cases pure_eq_ok.1 h
      exact (typed_conjunction hne (convertFilters_typed hps)).1
    · cases h
  · cases pure_eq_ok.1 h

theorem paimonPushdownFilter_eq_ok {Split : Type} {render : Value → String} {bind bind' : PaimonScanBindData Split}
    {filters : List Expression} (h : paimonPushdownFilter reader builder render get bind filters = .ok bind') :
    ∃ predicates partFilters, pushdownPredicates reader builder get filters = .ok predicates ∧
      bind' = { bind with predicates, partFilters } := by
  unfold paimonPushdownFilter at h
  obtain ⟨predicates, hpredicates, h⟩ := bind_eq_ok.1 h
  split at h
  · cases pure_eq_ok.1 h
    exact ⟨predicates, [], hpredicates, rfl⟩
  · obtain ⟨perExpr, -, h⟩ := bind_eq_ok.1 h
    cases pure_eq_ok.1 h
    exact ⟨predicates, combineFilters perExpr, hpredicates, rfl⟩

end Pushed

/-! ## What is picked -/

/-- A name is mapped to a position at which it is projected. -/
theorem columnIdsMapping_eq_ok {names : List String} {position : Nat} {columnIds : List Nat}
    {mapping : SortedMap String Nat} (h : columnIdsMapping names position columnIds = .ok mapping) {name : String}
    {found : Nat} (hfind : mapping.find? name = some found) :
    ∃ j column, found = position + j ∧ columnIds[j]? = some column ∧ names[column]? = some name := by
  induction columnIds generalizing position mapping with
  | nil =>
    cases pure_eq_ok.1 h
    cases hfind
  | cons column columnIds ih =>
    unfold columnIdsMapping at h
    split at h
    · cases h
    · rename_i name' hname
      obtain ⟨rest, hrest, h⟩ := bind_eq_ok.1 h
      cases pure_eq_ok.1 h
      rw [SortedMap.find?_insert] at hfind
      split at hfind
      · rename_i heq
        cases hfind
        exact ⟨0, column, rfl, rfl, heq ▸ hname⟩
      · obtain ⟨j, column', rfl, hcolumn', hname'⟩ := ih hrest hfind
        exact ⟨j + 1, column', by omega, hcolumn', hname'⟩

/-- The row of the projected columns, as the picked predicate tests it. -/
def pickedRow (cells : List Value) : Row := fun position => (cells[position]?).getD (.null { id := .invalid })

/-- What `CreatePickedFieldFilter` leaves of a predicate holds on the picked fields wherever the predicate
holds. -/
def PicksWeaker {Split Array : Type} (lib : ReadLibrary Split Array Value) (test : Predicate.LeafTest) : Prop :=
  ∀ p mapping p', lib.pickedFieldFilter p mapping = .ok (some p') → ∀ row picked : Row,
    (∀ leaf ∈ p.leaves, ∀ position, mapping.find? leaf.fieldName = some position →
      picked position = row leaf.fieldIndex) →
    p.holds test row = true → p'.holds test picked = true

section Best

variable {Split Array : Type}

/-! ## Best effort -/

/-- What the plan of a bind may leave out: rows of other partitions than the alternatives, and rows on which
the predicate does not hold. -/
def selected (test : Predicate.LeafTest) (schema : TableFields) (bind : PaimonScanBindData Split) (stored : StoredRow) :
    Bool :=
  (bind.partFilters.isEmpty || bind.partFilters.any fun filter =>
      filter.entries.all fun entry => decide (entry ∈ stored.partition.entries)) &&
    bind.predicates.all fun p => p.holds test (schema.row stored)

/-- The splits of a plan hold the rows of the table that the bind selects. -/
def PlansSelected (test : Predicate.LeafTest) (schema : TableFields) (contents : Split → List StoredRow)
    (table : List StoredRow) (bind : PaimonScanBindData Split) (splits : List Split) : Prop :=
  Fetches (selected test schema bind) table (splits.flatMap contents)

/-- The reader of a split returns the fields that were asked for of the rows of the split on which the
predicate holds, and maybe of others. -/
def ReadsMatching (lib : ReadLibrary Split Array Value) (test : Predicate.LeafTest) (schema : TableFields)
    (contents : Split → List StoredRow) (bind : PaimonScanBindData Split) (start : PaimonScanGlobalState Split)
    (columnIds : List Nat) : Prop :=
  ∀ split ∈ start.splits, ∃ rows,
    Fetches (fun stored => (readContext bind start columnIds).predicate.all fun p =>
      p.holds test (pickedRow (schema.readIds (readContext bind start columnIds).readFieldIds stored)))
        (contents split) rows ∧
      splitRows lib bind start columnIds split =
        rows.map (schema.readIds (readContext bind start columnIds).readFieldIds)

/-- A scan that was polled to its end, over readers whose batches fit a vector and are not empty before the
end of the last split. -/
structure Completes (lib : ReadLibrary Split Array Value) (bind : PaimonScanBindData Split) (columnIds : List Nat)
    (start : PaimonScanGlobalState Split) (history : List (ScanRecord Value)) : Prop where
  init : paimonScanInitGlobal lib bind columnIds = .ok start
  fits : FitsVector lib bind start columnIds
  empty : EmptyOnlyAtEnd lib bind start columnIds
  run : ∃ s, Run (ScanStep lib bind columnIds) { global := start } history s ∧ s.locals ≠ [] ∧
    ∀ state ∈ s.locals, state.2 = true

variable {lib : ReadLibrary Split Array Value} {test : Predicate.LeafTest} {schema : TableFields}
  {contents : Split → List StoredRow} {bind : PaimonScanBindData Split} {start : PaimonScanGlobalState Split}
  {columnIds : List Nat} {history : List (ScanRecord Value)}

/-- What a completed scan emitted is what its splits hold. -/
theorem Completes.emitted (h : Completes lib bind columnIds start history) :
    (emittedIn history).Perm (start.splits.flatMap (splitRows lib bind start columnIds)) := by
  obtain ⟨s, run, hsome, hdone⟩ := h.run
  have hshared : Shared lib bind start columnIds history s :=
    run.invariant (shared_start (paimonScanInitGlobal_splitIndex h.init)) (Shared.step h.fits h.empty)
  obtain ⟨state, hstate⟩ := List.exists_mem_of_ne_nil _ hsome
  have hend := (hshared.finished state hstate (hdone state hstate)).1
  -- no local state holds rows back
  have hheld : heldRows lib start columnIds s.locals = [] := by
    unfold heldRows
    rw [List.flatMap_eq_nil_iff]
    intro state hstate
    exact (hshared.finished state hstate (hdone state hstate)).2
  have hrows := hshared.rows
  rwa [hheld, List.append_nil, List.take_of_length_le hend] at hrows

/-- The rows a completed scan emitted are rows of its splits, among them all on which what is left of the
predicate holds. -/
theorem Completes.fetches (h : Completes lib bind columnIds start history)
    (reads : ReadsMatching lib test schema contents bind start columnIds) {needed : StoredRow → Bool}
    (hneeded : ∀ split ∈ start.splits, ∀ stored ∈ contents split, needed stored = true →
      ∀ p, start.paimonPredicates = some p → p.holds test (pickedRow (schema.readIds columnIds stored)) = true) :
    ∃ fetched, Fetches needed (start.splits.flatMap contents) fetched ∧
      (emittedIn history).Perm (fetched.map (schema.readIds columnIds)) := by
  have hsplit : ∀ split, ∃ rows, split ∈ start.splits → Fetches needed (contents split) rows ∧
      splitRows lib bind start columnIds split = rows.map (schema.readIds columnIds) := by
    intro split
    by_cases hmem : split ∈ start.splits
    · obtain ⟨rows, hfetches, hrows⟩ := reads split hmem
      refine ⟨rows, fun _ => ⟨hfetches.mono ?_, hrows⟩⟩
      intro stored hstored htrue
      rw [Option.all_eq_true]
      exact hneeded split hmem stored hstored htrue
    · exact ⟨[], fun h => absurd h hmem⟩
  -- what each split gave up, put together in the order the splits were planned in
  choose fetched hfetched using hsplit
  refine ⟨start.splits.flatMap fetched, Fetches.flatMap fun split hmem => (hfetched split hmem).1, ?_⟩
  refine h.emitted.trans (.of_eq ?_)
  rw [List.map_flatMap]
  exact List.flatMap_congr fun split hmem => (hfetched split hmem).2

/-! ## Filters above the scan -/

/-- The rows of a table: each lies under the partition of its values, and constants that equal a partition
value are rendered as it is. -/
structure StoredUnder (eng : Engine) (render : Value → String) (nullPartName : String) (get : LogicalGet)
    (partKeys : List String) (schema : TableFields) (table : List StoredRow) : Prop where
  names : get.names = schema.fields.map TableField.name
  partitions : ∀ stored ∈ table, PartitionHolds render nullPartName get partKeys (schema.row stored) stored.partition
  renders : ∀ stored ∈ table, RendersEquals eng render get partKeys (schema.row stored)

/-- The rows of a table on which the leaves made of the filters agree with DuckDB. -/
def AgreesOn (eng : Engine) (test : Predicate.LeafTest) (reader : ValueReader) (get : LogicalGet)
    (schema : TableFields) (filters : List Expression) (table : List StoredRow) : Prop :=
  ∀ stored ∈ table, ∀ f ∈ filters, Agrees eng test reader get (schema.row stored) f

/-- The projected columns are fields of the table with none dropped before them, and the filters refer to
no others. -/
structure Projects (get : LogicalGet) (schema : TableFields) (filters : List Expression)
    (columnIds : List Nat) : Prop where
  within : ∀ p ∈ columnIds, p < schema.fields.length
  noGap : ∀ p ∈ columnIds, schema.NoGap p
  columns : ∀ f ∈ filters, ∀ i ∈ f.columnRefs, ∀ column, get.columnIds[i]? = some column → column ∈ columnIds

variable {eng : Engine} {reader : ValueReader} {builder : PredicateBuilder} {render : Value → String}
  {nullPartName : String} {get : LogicalGet} {filters : List Expression} {table : List StoredRow}

/-- A filter sees in an emitted row what it sees in the stored one. -/
theorem Projects.allTrue (h : Projects get schema filters columnIds) (stored : StoredRow) :
    allTrue eng get filters (rowOf columnIds (schema.readIds columnIds stored)) =
      allTrue eng get filters (schema.row stored) := by
  rw [readIds_of_noGap h.within h.noGap]
  refine allTrue_congr fun f hf i hi column hcolumn => ?_
  exact rowOf_map (h.columns f hf i hi column hcolumn)

/-- Filtering the rows that were emitted for fetched rows is filtering the table. -/
theorem Projects.answers (h : Projects get schema filters columnIds) {emitted : List (List Value)}
    {fetched : List StoredRow}
    (hfetched : Fetches (fun stored => Scan.allTrue eng get filters (schema.row stored)) table fetched)
    (hemitted : emitted.Perm (fetched.map (schema.readIds columnIds))) :
    (emitted.filter fun cells => Scan.allTrue eng get filters (rowOf columnIds cells)).Perm
      ((table.filter fun stored => Scan.allTrue eng get filters (schema.row stored)).map fun stored =>
        columnIds.map (schema.row stored)) := by
  have hsees : (fun cells => Scan.allTrue eng get filters (rowOf columnIds cells)) ∘ schema.readIds columnIds =
      fun stored => Scan.allTrue eng get filters (schema.row stored) := funext h.allTrue
  have hread : schema.readIds columnIds = fun stored => columnIds.map (schema.row stored) :=
    funext (readIds_of_noGap h.within h.noGap)
  have hfiltered := (hemitted.filter fun cells => Scan.allTrue eng get filters (rowOf columnIds cells))
  rw [List.filter_map, hsees, hread] at hfiltered
  exact hfiltered.trans (hfetched.filter_perm.map _)

/-- The pushed bind selects every row of the table on which every filter is TRUE. -/
theorem selected_of_allTrue {bind' : PaimonScanBindData Split}
    (agrees : AgreesOn eng test reader get schema filters table) (builderOk : builder.Succeeds)
    (hpushed : paimonPushdownFilter reader builder render get bind filters = .ok bind')
    (hdrops : ∀ f ∈ filters, dropsUnderNot reader get true f = false)
    (hstored : StoredUnder eng render nullPartName get bind.partKeys schema table) :
    ∀ stored ∈ table, allTrue eng get filters (schema.row stored) = true →
      selected test schema bind' stored = true := by
  intro stored hmem htrue
  rw [allTrue_iff] at htrue
  unfold selected
  rw [Bool.and_eq_true, Bool.or_eq_true, List.isEmpty_iff, List.any_eq_true, Option.all_eq_true]
  constructor
  · rcases paimonPushdownFilter_anySub hpushed (hstored.partitions stored hmem) (hstored.renders stored hmem) htrue with
      hnone | ⟨filter, hfilter, hsub⟩
    · exact .inl hnone
    · refine .inr ⟨filter, hfilter, ?_⟩
      rw [List.all_eq_true]
      intro entry hentry
      rw [decide_eq_true_iff]
      exact (SortedMap.find?_eq_some _ _ _).1 (SortedMap.sub_iff_entries.1 hsub entry hentry)
  · intro p hp
    obtain ⟨predicates, partFilters, hpredicates, rfl⟩ := paimonPushdownFilter_eq_ok hpushed
    cases Option.mem_def.1 hp
    exact pushdownPredicates_holds builderOk hpredicates hdrops (agrees stored hmem) htrue

/-- A new scan has the picked predicate and the splits of its bind. -/
theorem paimonScanInitGlobal_eq_ok (h : paimonScanInitGlobal lib bind columnIds = .ok start) :
    remapPredicates lib bind columnIds = .ok start.paimonPredicates ∧ initialSplits lib bind = .ok start.splits := by
  unfold paimonScanInitGlobal at h
  split at h
  · cases h
  · cases h
  all_goals
    obtain ⟨predicates, hpredicates, h⟩ := bind_eq_ok.1 h
    obtain ⟨splits, hsplits, h⟩ := bind_eq_ok.1 h
    obtain ⟨-, h⟩ := throwIf_bind_eq_ok.1 h
    obtain rfl := pure_eq_ok.1 h
    exact ⟨hpredicates, hsplits⟩

/-- A native scan reads the splits that are planned for its bind. -/
theorem scanSplits_of_init (h : paimonScanInitGlobal lib bind columnIds = .ok start)
    (hphase : bind.distributed.phase = .coordinator) : lib.scanSplits bind = .ok start.splits := by
  have hsplits := (paimonScanInitGlobal_eq_ok h).2
  unfold initialSplits at hsplits
  rwa [hphase, if_neg PaimonDistributedScanPhase.noConfusion] at hsplits

theorem paimonPredicates_of_none (h : paimonScanInitGlobal lib bind columnIds = .ok start)
    (hnone : bind.predicates = none) : start.paimonPredicates = none := by
  have hremap := (paimonScanInitGlobal_eq_ok h).1
  unfold remapPredicates at hremap
  rw [hnone] at hremap
  exact (pure_eq_ok.1 hremap).symm

/-- Without a predicate nothing else matters to the readers. -/
theorem Completes.fetches_unfiltered (h : Completes lib bind columnIds start history)
    (reads : ReadsMatching lib test schema contents bind start columnIds) (hnone : bind.predicates = none)
    (needed : StoredRow → Bool) : ∃ fetched, Fetches needed (start.splits.flatMap contents) fetched ∧
      (emittedIn history).Perm (fetched.map (schema.readIds columnIds)) := by
  refine h.fetches reads ?_
  intro _ _ _ _ _ p hp
  rw [paimonPredicates_of_none h.init hnone] at hp
  cases hp

/-- The picked predicate holds on the projected columns of a row on which the bind's holds. -/
theorem remapPredicates_holds (picks : PicksWeaker lib test) (projects : Projects get schema filters columnIds)
    (hnames : bind.arrowTable.names = schema.fields.map TableField.name) {p p' : Predicate}
    (hpredicates : bind.predicates = some p)
    (hleaves : ∀ leaf ∈ p.leaves, bind.arrowTable.names[leaf.fieldIndex]? = some leaf.fieldName)
    (h : remapPredicates lib bind columnIds = .ok (some p')) {stored : StoredRow}
    (hholds : p.holds test (schema.row stored) = true) :
    p'.holds test (pickedRow (schema.readIds columnIds stored)) = true := by
  unfold remapPredicates at h
  rw [hpredicates] at h
  obtain ⟨mapping, hmapping, h⟩ := bind_eq_ok.1 h
  -- an error would have been returned as one, and nothing to pick as no predicate
  have hpicked : lib.pickedFieldFilter p mapping = .ok (some p') := by
    rcases hfilter : lib.pickedFieldFilter p mapping with status | picked
    · rw [hfilter] at h
      cases h
    · rw [hfilter] at h
      cases h
      rfl
  refine picks p mapping p' hpicked (schema.row stored) _ (fun leaf hleaf position hposition => ?_) hholds
  obtain ⟨j, column, hj, hcolumn, hname⟩ := columnIdsMapping_eq_ok hmapping hposition
  rw [Nat.zero_add] at hj
  subst hj
  -- names are not repeated, so this is the column that the leaf tests
  have hleafName := hleaves leaf hleaf
  obtain ⟨hlt, hat⟩ := List.getElem?_eq_some_iff.1 hname
  obtain ⟨hlt', hat'⟩ := List.getElem?_eq_some_iff.1 hleafName
  have hdistinct : bind.arrowTable.names.Nodup := hnames ▸ schema.distinct
  have hsame : column = leaf.fieldIndex := (hdistinct.getElem_inj_iff).1 (hat.trans hat'.symm)
  unfold pickedRow
  rw [readIds_of_noGap projects.within projects.noGap, List.getElem?_map, hcolumn, hsame]
  rfl

/-- What is left of the pushed predicate in a new scan holds on every row on which every filter is TRUE. -/
theorem picked_of_allTrue {pushed : PaimonScanBindData Split} {stored : StoredRow}
    (agrees : ∀ f ∈ filters, Agrees eng test reader get (schema.row stored) f) (builderOk : builder.Succeeds)
    (hpushed : paimonPushdownFilter reader builder render get bind filters = .ok pushed)
    (hdrops : ∀ f ∈ filters, dropsUnderNot reader get true f = false) (picks : PicksWeaker lib test)
    (projects : Projects get schema filters columnIds) (hbound : bind.arrowTable.names = get.names)
    (hnames : get.names = schema.fields.map TableField.name)
    (hinit : paimonScanInitGlobal lib pushed columnIds = .ok start)
    (htrue : allTrue eng get filters (schema.row stored) = true) :
    ∀ p, start.paimonPredicates = some p → p.holds test (pickedRow (schema.readIds columnIds stored)) = true := by
  intro p' hp'
  obtain ⟨predicates, partFilters, hpredicates, hbind⟩ := paimonPushdownFilter_eq_ok hpushed
  have hremap := (paimonScanInitGlobal_eq_ok hinit).1
  rw [hp'] at hremap
  cases hsome : pushed.predicates with
  | none => cases hp'.symm.trans (paimonPredicates_of_none hinit hsome)
  | some p =>
    have hp : pushdownPredicates reader builder get filters = .ok (some p) := by
      rw [hbind] at hsome
      exact hpredicates.trans (congrArg Except.ok hsome)
    -- pushing down leaves the columns of the bind alone, so a leaf still names the column it was made for
    have hpushedNames : pushed.arrowTable.names = get.names := hbind ▸ hbound
    have hholds := pushdownPredicates_holds builderOk hp hdrops agrees (allTrue_iff.1 htrue)
    refine remapPredicates_holds picks projects (hpushedNames.trans hnames) hsome (fun leaf hleaf => ?_) hremap hholds
    rw [hpushedNames]
    exact ((pushdownPredicates_typed hp).leaves leaf hleaf).name

/-- A scan of a table that was polled to its end, with filters that were pushed down, none dropped under a NOT. -/
structure Queries (lib : ReadLibrary Split Array Value) (eng : Engine) (test : Predicate.LeafTest)
    (reader : ValueReader)
    (builder : PredicateBuilder) (render : Value → String) (get : LogicalGet) (schema : TableFields)
    (contents : Split → List StoredRow) (filters : List Expression) (columnIds : List Nat)
    (bind pushed : PaimonScanBindData Split) (start : PaimonScanGlobalState Split) (history : List (ScanRecord Value))
    (table : List StoredRow) : Prop where
  agrees : AgreesOn eng test reader get schema filters table
  builderOk : builder.Succeeds
  coordinator : bind.distributed.phase = .coordinator
  bound : bind.arrowTable.names = get.names
  pushdown : paimonPushdownFilter reader builder render get bind filters = .ok pushed
  drops : ∀ f ∈ filters, dropsUnderNot reader get true f = false
  projects : Projects get schema filters columnIds
  completes : Completes lib pushed columnIds start history
  plans : ∀ splits, lib.scanSplits pushed = .ok splits → PlansSelected test schema contents table pushed splits
  picks : PicksWeaker lib test
  reads : ReadsMatching lib test schema contents pushed start columnIds

/-- The rows it emitted that pass the filters above it are those of the table on which every filter is TRUE. -/
theorem Queries.answers {pushed : PaimonScanBindData Split}
    (h : Queries lib eng test reader builder render get schema contents filters columnIds bind pushed start
      history table) (stored : StoredUnder eng render nullPartName get bind.partKeys schema table) :
    ((emittedIn history).filter fun cells => Scan.allTrue eng get filters (rowOf columnIds cells)).Perm
      ((table.filter fun stored => Scan.allTrue eng get filters (schema.row stored)).map fun stored =>
        columnIds.map (schema.row stored)) := by
  have hphase : pushed.distributed.phase = .coordinator := by
    obtain ⟨_, _, -, rfl⟩ := paimonPushdownFilter_eq_ok h.pushdown
    exact h.coordinator
  have hsplits := scanSplits_of_init h.completes.init hphase
  have hplanned : Fetches (fun stored => Scan.allTrue eng get filters (schema.row stored)) table
      (start.splits.flatMap contents) :=
    Fetches.mono (h.plans start.splits hsplits) (selected_of_allTrue h.agrees h.builderOk h.pushdown h.drops stored)
  have hpicked : ∀ split ∈ start.splits, ∀ row ∈ contents split, Scan.allTrue eng get filters (schema.row row) = true →
      ∀ p, start.paimonPredicates = some p → p.holds test (pickedRow (schema.readIds columnIds row)) = true :=
    fun split hsplit row hrow htrue => picked_of_allTrue
      (h.agrees row (hplanned.sub.subset (List.mem_flatMap.2 ⟨split, hsplit, hrow⟩))) h.builderOk h.pushdown h.drops
      h.picks h.projects h.bound stored.names h.completes.init htrue
  -- rows are left out twice, by the plan and by the reader, and neither time one that is TRUE
  obtain ⟨fetched, hfetched, hemitted⟩ := h.completes.fetches h.reads hpicked
  exact h.projects.answers (hplanned.trans hfetched) hemitted

end Best

/-- Once a scan with pushed filters is at its end, the rows it emitted that pass the filters above it are
exactly the rows of the table on which every filter is TRUE, each as often as it is stored. -/
theorem scan_answers_filters {Split Array : Type} {lib : ReadLibrary Split Array Value} {eng : Engine}
    {test : Predicate.LeafTest} {reader : ValueReader} {builder : PredicateBuilder} {render : Value → String}
    {nullPartName : String} {get : LogicalGet} {schema : TableFields} {bind pushed : PaimonScanBindData Split}
    {filters : List Expression} {columnIds : List Nat} {start : PaimonScanGlobalState Split}
    {history : List (ScanRecord Value)} {contents : Split → List StoredRow} {table : List StoredRow}
    (agrees : AgreesOn eng test reader get schema filters table) (builderOk : builder.Succeeds)
    (coordinator : bind.distributed.phase = .coordinator) (bound : bind.arrowTable.names = get.names)
    (pushdown : paimonPushdownFilter reader builder render get bind filters = .ok pushed)
    (drops : ∀ f ∈ filters, dropsUnderNot reader get true f = false)
    (stored : StoredUnder eng render nullPartName get bind.partKeys schema table)
    (projects : Projects get schema filters columnIds) (completes : Completes lib pushed columnIds start history)
    (plans : ∀ splits, lib.scanSplits pushed = .ok splits → PlansSelected test schema contents table pushed splits)
    (picks : PicksWeaker lib test) (reads : ReadsMatching lib test schema contents pushed start columnIds) :
    ((emittedIn history).filter fun cells => allTrue eng get filters (rowOf columnIds cells)).Perm
      ((table.filter fun stored => allTrue eng get filters (schema.row stored)).map fun stored =>
        columnIds.map (schema.row stored)) :=
  Queries.answers ⟨agrees, builderOk, coordinator, bound, pushdown, drops, projects, completes, plans,
    picks, reads⟩ stored

/-! ## A scan of two columns -/

namespace Sample

mutual

/-- The fields a predicate keeps: conjuncts on other fields are left out, a disjunction needs all its parts. -/
def pick (mapping : SortedMap String Nat) : Predicate → Option Predicate
  | .leaf f _ name type literals => (mapping.find? name).map fun position => .leaf f position name type literals
  | .and ps => if pickSome mapping ps = [] then none else some (.and (pickSome mapping ps))
  | .or ps => (pickAll mapping ps).map .or

def pickSome (mapping : SortedMap String Nat) : List Predicate → List Predicate
  | [] => []
  | p :: ps => (pick mapping p).toList ++ pickSome mapping ps

def pickAll (mapping : SortedMap String Nat) : List Predicate → Option (List Predicate)
  | [] => some []
  | p :: ps => (pick mapping p).bind fun p => (pickAll mapping ps).map (p :: ·)

end

section Picks

variable {mapping : SortedMap String Nat} {row picked : Row}

/-- The picked row has the values of these leaves. -/
def Picked (mapping : SortedMap String Nat) (row picked : Row) (leaves : List Leaf) : Prop :=
  ∀ leaf ∈ leaves, ∀ position, mapping.find? leaf.fieldName = some position → picked position = row leaf.fieldIndex

mutual

theorem pick_holds : ∀ (p : Predicate) {p' : Predicate}, pick mapping p = some p' → Picked mapping row picked p.leaves →
    p.holds Sample.test row = true → p'.holds Sample.test picked = true
  | .leaf f index name type literals, p', h, hpicked, hholds => by
    rw [pick, Option.map_eq_some_iff] at h
    obtain ⟨position, hposition, rfl⟩ := h
    have hvalue : picked position = row index := hpicked _ (List.mem_singleton_self _) position hposition
    rw [Predicate.holds] at hholds ⊢
    rwa [hvalue]
  | .and ps, p', h, hpicked, hholds => by
    rw [pick] at h
    split at h
    · cases h
    · cases h
      exact pickSome_holds ps hpicked hholds
  | .or ps, p', h, hpicked, hholds => by
    rw [pick, Option.map_eq_some_iff] at h
    obtain ⟨ps', hps', rfl⟩ := h
    exact pickAll_holds ps hps' hpicked hholds

theorem pickSome_holds : ∀ ps : List Predicate, Picked mapping row picked (Predicate.leavesList ps) →
    Predicate.allHold Sample.test row ps = true → Predicate.allHold Sample.test picked (pickSome mapping ps) = true
  | [], _, _ => rfl
  | p :: ps, hpicked, hholds => by
    rw [Predicate.allHold, Bool.and_eq_true] at hholds
    obtain ⟨hp, hps⟩ := List.forall_mem_append.1 hpicked
    have hrest := pickSome_holds ps hps hholds.2
    rw [pickSome]
    rcases hpick : pick mapping p with _ | p'
    · exact hrest
    · rw [Option.toList_some, List.singleton_append, Predicate.allHold, Bool.and_eq_true]
      exact ⟨pick_holds p hpick hp hholds.1, hrest⟩

theorem pickAll_holds : ∀ (ps : List Predicate) {ps' : List Predicate}, pickAll mapping ps = some ps' →
    Picked mapping row picked (Predicate.leavesList ps) → Predicate.anyHolds Sample.test row ps = true →
      Predicate.anyHolds Sample.test picked ps' = true
  | [], _, _, _, hholds => absurd hholds Bool.false_ne_true
  | p :: ps, ps', h, hpicked, hholds => by
    rw [pickAll, Option.bind_eq_some_iff] at h
    obtain ⟨p', hp', h⟩ := h
    obtain ⟨rest, hrest, rfl⟩ := Option.map_eq_some_iff.1 h
    obtain ⟨hp, hps⟩ := List.forall_mem_append.1 hpicked
    rw [Predicate.anyHolds, Bool.or_eq_true] at hholds ⊢
    exact hholds.imp (pick_holds p hp' hp) (pickAll_holds ps hrest hps)

end

end Picks

def twoColumns : TableFields where
  fields := [⟨0, "f1", integerColumn⟩, ⟨1, "f2", integerColumn⟩]
  increasing := by decide
  bounded := by decide
  distinct := by decide

def twoColumnsBind : PaimonScanBindData Unit where
  path := ⟨"/wh", "db", "t"⟩
  tableDataPath := "/wh/db.db/t"
  paimonOptions := .empty
  arrowTable := ⟨["f1", "f2"], [{ id := .integer }, { id := .integer }], [integerColumn, integerColumn]⟩
  partKeys := []
  tableSchemaJson := ""
  distributed := {}

/-- `f1 = 1` and `f1 = f2`; the second one is not pushed. -/
def twoFilters : List Expression :=
  [.comparison .compareEqual (.columnRef 0) (.constant (integer 1)),
    .comparison .compareEqual (.columnRef 0) (.columnRef 1)]

def twoFiltersPushed : PaimonScanBindData Unit :=
  { twoColumnsBind with predicates := some (.and [.leaf .equal 0 "f1" .int [.int 1]]) }

theorem pushdown_twoFilters :
    paimonPushdownFilter reader builder (fun _ => "") scan twoColumnsBind twoFilters = .ok twoFiltersPushed := rfl

/-- A row of two integers. -/
def pairRow (f1 f2 : Int) : StoredRow where
  values id := if id = 0 then integer f1 else integer f2
  partition := .empty

def pairTable : List StoredRow := [pairRow 1 1, pairRow 1 2, pairRow 2 2]

/-- A batch of all rows; a column is the list of its integers. -/
def pairBatch : ReadBatch (List Int) := ⟨some ⟨3, [[], [1, 1, 2], [1, 2, 2]]⟩, none⟩

def pairLibrary : ReadLibrary Unit (List Int) Value where
  scanSplits _ := .ok [()]
  pickedFieldFilter p mapping := .ok (pick mapping p)
  createReader _ _ := .ok [.ok pairBatch]
  convert _ _ _ := .ok ()
  cell _ column row := integer (column.getD row 0)

def pairGlobal (splitIndex : Nat) : PaimonScanGlobalState Unit where
  splits := [()]
  splitIndex
  path := "/wh/db.db/t"
  arrowTable := twoColumnsBind.arrowTable
  paimonPredicates := some (.and [.leaf .equal 0 "f1" .int [.int 1]])

theorem initGlobal_twoFilters : paimonScanInitGlobal pairLibrary twoFiltersPushed [0, 1] = .ok (pairGlobal 0) := rfl

def pairContext : ReadContext := readContext twoFiltersPushed (pairGlobal 0) [0, 1]

def pairColumns : List (Nat → Value) :=
  [fun row => integer (([1, 1, 2] : List Int).getD row 0), fun row => integer (([1, 2, 2] : List Int).getD row 0)]

def pairHistory : List (ScanRecord Value) :=
  [⟨0, {}, [⟨0, pairContext⟩]⟩, ⟨0, ⟨3, pairColumns⟩, []⟩, ⟨0, {}, []⟩]

def pairState : ScanState Unit (List Int) where
  global := pairGlobal 2
  locals := [(⟨[0, 1], [], true⟩, true)]

theorem run_pairHistory :
    Run (ScanStep pairLibrary twoFiltersPushed [0, 1]) { global := pairGlobal 0 } pairHistory pairState := by
  have hinit : ScanStep pairLibrary twoFiltersPushed [0, 1] { global := pairGlobal 0 } ⟨0, {}, [⟨0, pairContext⟩]⟩
      { global := pairGlobal 1, locals := [(⟨[0, 1], [.ok pairBatch], false⟩, false)] } := .initLocal rfl
  have hscan : ScanStep pairLibrary twoFiltersPushed [0, 1]
      { global := pairGlobal 1, locals := [(⟨[0, 1], [.ok pairBatch], false⟩, false)] } ⟨0, ⟨3, pairColumns⟩, []⟩
      { global := pairGlobal 1, locals := [(⟨[0, 1], [], false⟩, false)] } := .scan 0 rfl rfl
  have hend : ScanStep pairLibrary twoFiltersPushed [0, 1]
      { global := pairGlobal 1, locals := [(⟨[0, 1], [], false⟩, false)] } ⟨0, {}, []⟩ pairState := .scan 0 rfl rfl
  exact .snoc (.snoc (.snoc .nil hinit) hscan) hend

theorem completes_pairHistory : Completes pairLibrary twoFiltersPushed [0, 1] (pairGlobal 0) pairHistory := by
  have hbatch (batch : ReadBatch (List Int)) (reader : List (Result (ReadBatch (List Int))))
      (hreader : Except.ok reader = (Except.ok [.ok pairBatch] : Result _)) (hmem : .ok batch ∈ reader) :
      batch = pairBatch := by
    cases hreader
    exact Except.ok.inj (List.mem_singleton.1 hmem)
  refine ⟨initGlobal_twoFilters, ?_, ?_, pairState, run_pairHistory, List.cons_ne_nil _ _, ?_⟩
  · intro split _ reader hreader batch hmem
    rw [hbatch batch reader hreader.symm hmem]
    decide
  · intro k split reader before batch after _ hreader heq hlength
    rw [hbatch batch reader hreader.symm (heq ▸ List.mem_append_right _ List.mem_cons_self)] at hlength
    cases hlength
  · intro state hstate
    rw [List.mem_singleton.1 hstate]

theorem projects_twoFilters : Projects scan twoColumns twoFilters [0, 1] where
  within := by decide
  noGap p hp := by
    rcases List.mem_cons.1 hp with rfl | hp
    · exact (TableFields.noGap_iff rfl).2 rfl
    · rw [List.mem_singleton.1 hp]
      exact (TableFields.noGap_iff rfl).2 rfl
  columns f hf i hi column hcolumn := List.mem_of_getElem? hcolumn

theorem storedUnder_pairTable : StoredUnder engine (fun _ => "") "" scan twoColumnsBind.partKeys twoColumns
    pairTable where
  names := rfl
  partitions _ _ _ _ _ hkey := absurd hkey List.not_mem_nil
  renders _ _ _ _ _ hkey := absurd hkey List.not_mem_nil

/-- Of three rows the scan emits, the filters leave the one on which both are TRUE. -/
theorem scan_answers_filters_pairTable :
    ((emittedIn pairHistory).filter fun cells => allTrue engine scan twoFilters (rowOf [0, 1] cells)).Perm
      ((pairTable.filter fun stored => allTrue engine scan twoFilters (twoColumns.row stored)).map fun stored =>
        [0, 1].map (twoColumns.row stored)) := by
  have hplans : ∀ splits, pairLibrary.scanSplits twoFiltersPushed = .ok splits →
      PlansSelected test twoColumns (fun _ => pairTable) pairTable twoFiltersPushed splits := by
    rintro _ ⟨⟩
    exact .refl _ _
  have hreads : ReadsMatching pairLibrary test twoColumns (fun _ => pairTable) twoFiltersPushed (pairGlobal 0) [0, 1] :=
    fun _ _ => ⟨pairTable, .refl _ _, rfl⟩
  exact scan_answers_filters (fun _ _ _ _ => agrees _ _ _) builder_succeeds rfl rfl pushdown_twoFilters (by decide)
    storedUnder_pairTable projects_twoFilters completes_pairHistory hplans (fun p mapping p' h row picked hpicked hholds =>
      pick_holds p (Except.ok.inj h) hpicked hholds) hreads

end Sample

end DuckPaimon.Scan
