/-
INSERT, then SELECT (paimon_insert.cpp, paimon_distributed_insert.cpp, paimon_scan.cpp): a sink writes the rows of the
chunks it is given, each under its partition; what `PrepareCommit` returns stands for rows a writer was given, and a
commit appends the rows its messages stand for. A scan of the table with filters pushed down then returns the given
rows that pass them, each once, beside the rows it returned before.
-/
import DuckPaimon.Scan.Workers
import DuckPaimon.Write.Books
import DuckPaimon.Write.Replay
import DuckPaimon.Write.Success
import Mathlib.Algebra.Order.Group.Multiset

namespace DuckPaimon.Scan

open Outcome Write

/-! ## Rows that are put into a table -/

/-- A row as a table keeps it: its values by field id, under a partition. -/
def TableFields.store (schema : TableFields) (row : Row) (partition : StringMap) : StoredRow where
  values id := row (schema.fields.findIdx fun field => field.id = id)
  partition

/-- The rows of a chunk. -/
def chunkRows (chunk : DataChunk) : List Row := (List.range chunk.size.toNat).map (chunkRow chunk)

/-- What the writes of a chunk put into a table. -/
def storedOf (schema : TableFields) (sunk : Sunk) : List StoredRow :=
  sunk.writes.flatMap fun write => write.rows.map fun index => schema.store (chunkRow sunk.chunk index) write.partition

/-- What is put into a table, and the rows that were given for it. -/
def insertedRows (schema : TableFields) (sunks : List Sunk) : List StoredRow := sunks.flatMap (storedOf schema)
@[inherit_doc insertedRows] def givenRows (sunks : List Sunk) : List Row := sunks.flatMap fun sunk =>
  chunkRows sunk.chunk

/-- The writes hold every row of the chunk once, under the partition of its values, and the chunk has the columns of
the table. -/
structure CompleteSunk (render : Value → String) (nullPartName : String) (get : LogicalGet) (partKeys : List String)
    (schema : TableFields) (sunk : Sunk) : Prop where
  wide : sunk.chunk.columns.length = schema.fields.length
  rows : (sunk.writes.flatMap PartitionWrite.rows).Perm (List.range sunk.chunk.size.toNat)
  partitions : ∀ write ∈ sunk.writes, ∀ index ∈ write.rows,
    PartitionHolds render nullPartName get partKeys (chunkRow sunk.chunk index) write.partition

section Stored

variable {eng : Engine} {render : Value → String} {nullPartName : String} {get : LogicalGet} {partKeys : List String}
  {schema : TableFields} {sunk : Sunk} {sunks : List Sunk} {table : List StoredRow}

/-- A field is found by its id. -/
theorem TableFields.findIdx_id {position : Nat} {field : TableField} (h : schema.fields[position]? = some field) :
    (schema.fields.findIdx fun other => other.id = field.id) = position := by
  obtain ⟨hlt, rfl⟩ := List.getElem?_eq_some_iff.1 h
  rw [List.findIdx_eq hlt]
  refine ⟨decide_eq_true rfl, fun other hother => ?_⟩
  have hless : schema.fields[other].id < schema.fields[position].id :=
    List.pairwise_iff_getElem.1 schema.increasing _ _ _ _ hother
  exact decide_eq_false hless.ne

/-- A row of as many columns as the table reads back as it was. -/
theorem TableFields.row_store {row : Row} {partition : StringMap}
    (wide : ∀ position, schema.fields.length ≤ position → row position = .null { id := .invalid }) :
    schema.row (schema.store row partition) = row := by
  funext position
  unfold TableFields.row TableFields.store
  cases hfield : schema.fields[position]? with
  | some field =>
    show row _ = row position
    rw [TableFields.findIdx_id hfield]
  | none => exact (wide position (List.getElem?_eq_none_iff.1 hfield)).symm

/-- The writes of a sink that returned are complete, if it finds the partition keys among the columns. -/
theorem completeSunk_of_issued {partColIdxs : List Nat} (nodup : get.names.Nodup)
    (wide : sunk.chunk.columns.length = schema.fields.length)
    (located : partKeys = [] ∨ ∃ missing, findPartColIdxs get.names missing partKeys = .ok partColIdxs)
    (issued : (sunk.writes.flatMap PartitionWrite.rows).Perm (List.range sunk.chunk.size.toNat) ∧
      IssuedBy render sunk.chunk partKeys partColIdxs nullPartName sunk.writes) :
    CompleteSunk render nullPartName get partKeys schema sunk := by
  refine ⟨wide, issued.1, fun write hwrite index hindex => ?_⟩
  rcases located with rfl | ⟨missing, hidxs⟩
  · exact fun _ _ _ hkey => absurd hkey List.not_mem_nil
  · -- the columns are found by name, and no two have the same
    exact partitionHolds_of_issued nodup hidxs issued.2 hwrite hindex

namespace CompleteSunk

theorem row_store (h : CompleteSunk render nullPartName get partKeys schema sunk) (index : Nat)
    (partition : StringMap) : schema.row (schema.store (chunkRow sunk.chunk index) partition) =
      chunkRow sunk.chunk index := by
  refine TableFields.row_store fun position hposition => ?_
  unfold chunkRow
  rw [List.getElem?_eq_none (h.wide ▸ hposition)]

/-- What is put into the table are the rows of the chunk. -/
theorem stored_rows (h : CompleteSunk render nullPartName get partKeys schema sunk) :
    ((storedOf schema sunk).map schema.row).Perm (chunkRows sunk.chunk) := by
  have hrows : (storedOf schema sunk).map schema.row =
      (sunk.writes.flatMap PartitionWrite.rows).map (chunkRow sunk.chunk) := by
    unfold storedOf
    rw [List.map_flatMap, List.map_flatMap]
    refine List.flatMap_congr fun write _ => ?_
    rw [List.map_map]
    exact List.map_congr_left fun index _ => h.row_store index write.partition
  rw [hrows]
  exact h.rows.map _

end CompleteSunk

theorem insertedRows_perm (h : ∀ sunk ∈ sunks, CompleteSunk render nullPartName get partKeys schema sunk) :
    ((insertedRows schema sunks).map schema.row).Perm (givenRows sunks) := by
  unfold insertedRows givenRows
  rw [List.map_flatMap]
  exact List.Perm.flatMap_left sunks fun sunk hsunk => (h sunk hsunk).stored_rows

/-- Every row that is put into the table lies under the partition of its values. -/
theorem partitions_insertedRows (h : ∀ sunk ∈ sunks, CompleteSunk render nullPartName get partKeys schema sunk) :
    ∀ stored ∈ insertedRows schema sunks,
      PartitionHolds render nullPartName get partKeys (schema.row stored) stored.partition := by
  intro stored hstored
  obtain ⟨sunk, hsunk, hstored⟩ := List.mem_flatMap.1 hstored
  obtain ⟨write, hwrite, hstored⟩ := List.mem_flatMap.1 hstored
  obtain ⟨index, hindex, rfl⟩ := List.mem_map.1 hstored
  rw [(h sunk hsunk).row_store]
  exact (h sunk hsunk).partitions write hwrite index hindex

/-- An INSERT keeps the rows of a table under their partitions. -/
theorem StoredUnder.insert (stored : StoredUnder eng render nullPartName get partKeys schema table)
    (complete : ∀ sunk ∈ sunks, CompleteSunk render nullPartName get partKeys schema sunk)
    (renders : ∀ row ∈ givenRows sunks, RendersEquals eng render get partKeys row) {table' : List StoredRow}
    (appends : table'.Perm (table ++ insertedRows schema sunks)) :
    StoredUnder eng render nullPartName get partKeys schema table' := by
  refine ⟨stored.names, fun row hrow => ?_, fun row hrow => ?_⟩
  · rcases List.mem_append.1 (appends.subset hrow) with hold | hnew
    · exact stored.partitions row hold
    · exact partitions_insertedRows complete row hnew
  · rcases List.mem_append.1 (appends.subset hrow) with hold | hnew
    · exact stored.renders row hold
    · exact renders _ ((insertedRows_perm complete).subset (List.mem_map_of_mem hnew))

/-- What a filtered SELECT returns of a table is what it returned before and the given rows that pass. -/
theorem answers_insert {filters : List Expression} {columnIds : List Nat} {table' : List StoredRow}
    (complete : ∀ sunk ∈ sunks, CompleteSunk render nullPartName get partKeys schema sunk)
    (appends : table'.Perm (table ++ insertedRows schema sunks)) :
    ((table'.filter fun stored => allTrue eng get filters (schema.row stored)).map fun stored =>
        columnIds.map (schema.row stored)).Perm
      (((table.filter fun stored => allTrue eng get filters (schema.row stored)).map fun stored =>
        columnIds.map (schema.row stored)) ++
        ((givenRows sunks).filter (allTrue eng get filters)).map fun row => columnIds.map row) := by
  refine ((appends.filter _).map _).trans ?_
  rw [List.filter_append, List.map_append]
  refine List.Perm.append_left _ ?_
  have hgiven := (((insertedRows_perm complete).filter (allTrue eng get filters)).map fun row => columnIds.map row)
  rwa [List.filter_map, List.map_map] at hgiven

end Stored

/-! ## What a commit puts into a table -/

/-- What was sunk, measured by the rows it puts into a table. -/
def storedRows (schema : TableFields) : Measure (Multiset StoredRow) where
  of sunk := ↑(storedOf schema sunk)
  count := Multiset.cardHom
  zero _ h := Multiset.card_eq_zero.1 h
  counts sunk rows := by
    have hlength : (storedOf schema sunk).length = (sunk.writes.flatMap PartitionWrite.rows).length := by
      simp [storedOf, List.length_flatMap]
    show Multiset.card (↑(storedOf schema sunk) : Multiset StoredRow) = _
    rw [Multiset.coe_card, hlength, rows.length_eq, List.length_range]

/-- A commit appends the rows its messages stand for, and nothing else changes a table. -/
def Appends {α : Type} (messageRows : α → Multiset StoredRow) (committed : List α) (table table' : List StoredRow) :
    Prop :=
  (↑table' : Multiset StoredRow) = ↑table + (committed.map messageRows).sum

section Committed

variable {α : Type} {messageRows : α → Multiset StoredRow} {committed : List α} {table table' : List StoredRow}
  {schema : TableFields} {sunks : List Sunk}

theorem sum_storedRows (schema : TableFields) (sunks : List Sunk) :
    (sunks.map (storedRows schema).of).sum = ↑(insertedRows schema sunks) := by
  induction sunks with
  | nil => rfl
  | cons sunk sunks ih =>
    unfold insertedRows at ih ⊢
    rw [List.map_cons, List.sum_cons, ih, List.flatMap_cons, ← Multiset.coe_add]
    rfl

/-- Messages that stand for what was sunk put it into the table. -/
theorem Appends.inserted (h : Appends messageRows committed table table')
    (stands : (committed.map messageRows).sum = (sunks.map (storedRows schema).of).sum) :
    table'.Perm (table ++ insertedRows schema sunks) := by
  unfold Appends at h
  rwa [stands, sum_storedRows, Multiset.coe_add, Multiset.coe_eq_coe] at h

/-- There are as many rows as the chunks have. -/
theorem length_givenRows (sunks : List Sunk) : (givenRows sunks).length = (sunks.map Measure.size.of).sum := by
  unfold givenRows
  rw [List.length_flatMap]
  refine congrArg List.sum (List.map_congr_left fun sunk _ => ?_)
  unfold chunkRows
  rw [List.length_map, List.length_range]
  rfl

end Committed

/-! ## A native INSERT -/

/-- Once a native INSERT has reported its count, the count is that of the rows it was given, and a scan of the table
with filters pushed down returns, after the filters above it, what it returned before and the given rows on which
every filter is TRUE, each as often as it was given: whatever `PrepareCommit` returns stands for what its local state
was given, and the messages that were committed are in the table. -/
theorem insert_then_select {Message Split Array : Type} {render : Value → String} {insert : PhysicalPaimonInsert}
    {replies : SinkStateReplies} {global : NativeInsertGlobalState Message} {setup : List (NativeEvent Message)}
    {calls : List (NativeRecord Message)} {s : NativeState Message} {messageRows : Option Message → Multiset StoredRow}
    {lib : ReadLibrary Split Array Value} {eng : Engine} {test : Predicate.LeafTest} {reader : ValueReader}
    {builder : PredicateBuilder} {get : LogicalGet} {schema : TableFields} {contents : Split → List StoredRow}
    {filters : List Expression} {columnIds : List Nat} {bind pushed : PaimonScanBindData Split}
    {start : PaimonScanGlobalState Split} {history : List (ScanRecord Value)} {table table' : List StoredRow}
    (setUp : (getGlobalSinkState insert replies).run () = (.ok global, (), setup))
    (run : Run (NativeStep render) { global } calls s) (reported : nativeEmits calls ≠ [])
    (fits : nativeRows calls < idxLimit)
    (names : ∀ loaded, replies.loadTableSchema = .ok loaded → loaded.fieldNames = get.names)
    (keys : bind.partKeys = insert.partKeys)
    (wide : ∀ sunk ∈ nativeSunk calls, sunk.chunk.columns.length = schema.fields.length)
    (renders : ∀ row ∈ givenRows (nativeSunk calls), RendersEquals eng render get bind.partKeys row)
    (stored : StoredUnder eng render global.nullPartName get bind.partKeys schema table)
    (prepares : StandsFor (storedRows schema) messageRows (nativeActs calls))
    (appends : Appends messageRows (nativeCommits calls).flatten table table')
    (queries : Queries lib eng test reader builder render get schema contents filters columnIds bind
      pushed start history table') :
    nativeEmits calls = [(UInt64.ofNat (givenRows (nativeSunk calls)).length).toInt64] ∧
      ((emittedIn history).filter fun cells => allTrue eng get filters (rowOf columnIds cells)).Perm
        (((table.filter fun stored => allTrue eng get filters (schema.row stored)).map fun stored =>
          columnIds.map (schema.row stored)) ++
          ((givenRows (nativeSunk calls)).filter (allTrue eng get filters)).map fun row => columnIds.map row) := by
  obtain ⟨hemits, -, -, hreturns⟩ := reported_insert setUp run reported
  have hlocated := Proc.wp_run (wp_getGlobalSinkState insert replies) setUp global rfl
  have hkeys : global.partKeyNames = bind.partKeys := hlocated.partKeys.trans keys.symm
  have hcolumns : bind.partKeys = [] ∨ ∃ missing, findPartColIdxs get.names missing bind.partKeys =
    .ok global.partColIdxs := by
    rcases hlocated.columns with ⟨hnone, -⟩ | ⟨loaded, dataSchema, hloaded, -, hmem, hidxs, -⟩
    · exact .inl (keys.trans hnone)
    · rw [names loaded hloaded] at hmem hidxs
      rw [keys]
      exact .inr ⟨fun _ => .io "", findPartColIdxs_eq_ok.2 ⟨hmem, hidxs⟩⟩
  have hnodup : get.names.Nodup := by
    rw [stored.names]
    exact schema.distinct
  have hcomplete : ∀ sunk ∈ nativeSunk calls,
      CompleteSunk render global.nullPartName get bind.partKeys schema sunk := by
    intro sunk hsunk
    have hissued := nativeSunk_issued run hreturns sunk hsunk
    rw [hkeys] at hissued
    exact completeSunk_of_issued hnodup (wide sunk hsunk) hcolumns hissued
  have happends := appends.inserted (native_contents setUp run reported fits prepares)
  refine ⟨?_, ?_⟩
  · rw [hemits, length_givenRows, size_nativeSunk]
  · exact (queries.answers (stored.insert hcomplete renders happends)).trans (answers_insert hcomplete happends)

namespace Sample

/-- The columns of a row `(1, 1)`. -/
def pairColumn : Column := ⟨{ id := .integer }, id, fun _ => true, fun _ => .int 1⟩

/-- The INSERT of the row. -/
def pairInsert : List (NativeRecord String) := Write.Sample.insertHistory [pairColumn, pairColumn]

/-- What its chunk puts into the table. -/
def pairStored : List StoredRow := storedOf twoColumns ⟨⟨1, [pairColumn, pairColumn]⟩, [⟨.empty, [0]⟩]⟩

/-- Its one message stands for the row. -/
def pairMessageRows : Option String → Multiset StoredRow
  | some "data-0.orc" => ↑pairStored
  | _ => 0

def pairSinkReplies : SinkStateReplies :=
  ⟨.ok (), .ok "/wh/db.db/t", .ok ⟨["f1", "f2"], some ⟨0, [], [], .empty⟩, .ok none, .ok "{}"⟩⟩

/-- The table, with the inserted row in front. -/
def insertedTable : List StoredRow := pairStored ++ [pairRow 1 2, pairRow 2 2]

/-- One `PrepareCommit` was called, behind the row. -/
theorem prepares_pairInsert : StandsFor (storedRows twoColumns) pairMessageRows (nativeActs pairInsert) := by
  rintro before writer messages after heq
  rcases before with _ | ⟨first, _ | ⟨second, _ | ⟨third, before⟩⟩⟩
  · cases heq
  · cases heq
  · cases heq
    rfl
  · cases before <;> cases heq

theorem queries_insertedTable : Queries pairLibrary engine test reader builder (fun _ => "") scan twoColumns
    (fun _ => insertedTable) twoFilters [0, 1] twoColumnsBind twoFiltersPushed (pairGlobal 0) pairHistory
      insertedTable where
  agrees _ _ _ _ := agrees _ _ _
  builderOk := builder_succeeds
  coordinator := rfl
  bound := rfl
  pushdown := pushdown_twoFilters
  drops := by decide
  projects := projects_twoFilters
  completes := completes_pairHistory
  plans := by
    rintro _ ⟨⟩
    exact .refl _ _
  picks p mapping p' h row picked hpicked hholds := pick_holds p (Except.ok.inj h) hpicked hholds
  reads _ _ := ⟨insertedTable, .refl _ _, rfl⟩

end Sample

/-- The inserted row passes the filters that none of the two other rows passes. -/
theorem insert_then_select_pairTable : nativeEmits Sample.pairInsert = [1] ∧
    ((emittedIn Sample.pairHistory).filter fun cells =>
        allTrue Sample.engine Sample.scan Sample.twoFilters (rowOf [0, 1] cells)).Perm
      [[Sample.integer 1, Sample.integer 1]] := by
  have hsetUp : (getGlobalSinkState Write.Sample.unplanned Sample.pairSinkReplies).run () =
      (.ok Write.Sample.nativeGlobal, (), ([] : List (NativeEvent String))) := rfl
  have hstored : StoredUnder Sample.engine (fun _ => "") Write.Sample.nativeGlobal.nullPartName Sample.scan
      Sample.twoColumnsBind.partKeys Sample.twoColumns [Sample.pairRow 1 2, Sample.pairRow 2 2] :=
    ⟨rfl, fun _ _ _ _ _ hkey => absurd hkey List.not_mem_nil, fun _ _ _ _ _ hkey => absurd hkey List.not_mem_nil⟩
  have happends : Appends Sample.pairMessageRows (nativeCommits Sample.pairInsert).flatten
      [Sample.pairRow 1 2, Sample.pairRow 2 2] Sample.insertedTable := by
    show (↑Sample.insertedTable : Multiset StoredRow) = _ + (↑Sample.pairStored + 0)
    rw [add_zero, Multiset.coe_add]
    exact Multiset.coe_eq_coe.2 List.perm_append_comm
  have hselects := insert_then_select hsetUp (Write.Sample.run_insertHistory _) (List.cons_ne_nil _ _) (by decide)
    (by rintro _ ⟨⟩; rfl) rfl (by rintro sunk hsunk; rw [List.mem_singleton.1 hsunk]; rfl)
    (fun _ _ _ _ _ hkey => absurd hkey List.not_mem_nil) hstored Sample.prepares_pairInsert happends
    Sample.queries_insertedTable
  exact hselects

/-! ## A distributed INSERT -/

section Distributed

variable {Message : Type} {rt : Runtime} {vane : Vane} {codec : MessageCodec Message} {render : Value → String}
  {info : DistributedExtensionWriteInfo} {insert : PhysicalPaimonInsert} {workers : List (WorkerRun Message)}

/-- The chunks the workers of a write were given, with their writes. -/
def allWorkersSunk (workers : List (WorkerRun Message)) : List Sunk := workers.flatMap fun worker =>
  workerSunk worker.history

/-- There are as many rows as the workers count. -/
theorem length_allWorkersSunk (workers : List (WorkerRun Message)) :
    (givenRows (allWorkersSunk workers)).length = allRows workers := by
  unfold allWorkersSunk allRows
  rw [length_givenRows, List.map_flatMap, List.flatMap_def, List.sum_flatten, List.map_map]
  exact congrArg List.sum (List.map_congr_left fun worker _ => size_workerSunk worker.history)

/-- The messages of honest workers stand for all they were given. -/
theorem HonestWrite.contents {schema : TableFields} {messageRows : Message → Multiset StoredRow}
    (h : HonestWrite rt vane codec render info insert workers) (published : Published rt insert)
    (prepares : ∀ worker ∈ workers, StandsFor (storedRows schema) messageRows (workerActs worker.history)) :
    ((allPrepared workers).map messageRows).sum = ((allWorkersSunk workers).map (storedRows schema).of).sum := by
  unfold allPrepared allWorkersSunk
  rw [List.map_flatMap, List.map_flatMap, List.flatMap_def, List.flatMap_def, List.sum_flatten, List.sum_flatten,
    List.map_map, List.map_map]
  refine congrArg List.sum (List.map_congr_left fun worker hworker => ?_)
  exact (h.honest worker hworker).contents (h.bind published) (prepares worker hworker)

/-- What honest workers were given is complete. -/
theorem HonestWrite.complete {get : LogicalGet} {schema : TableFields}
    (h : HonestWrite rt vane codec render info insert workers) (published : Published rt insert)
    (nodup : get.names.Nodup) (names : insert.transport.inputNames = get.names)
    (wide : ∀ sunk ∈ allWorkersSunk workers, sunk.chunk.columns.length = schema.fields.length) :
    ∀ sunk ∈ allWorkersSunk workers,
      CompleteSunk render insert.transport.nullPartName get insert.transport.partKeys schema sunk := by
  intro sunk hsunk
  have hwide := wide sunk hsunk
  obtain ⟨worker, hworker, hsunk⟩ := List.mem_flatMap.1 hsunk
  obtain ⟨partColIdxs, hcolumns, hissued⟩ := (h.honest worker hworker).issued (h.bind published)
  rw [names] at hcolumns
  exact completeSunk_of_issued nodup hwide (.inr ⟨_, hcolumns⟩) (hissued sunk hsunk)

end Distributed

/-- A scan of a table that workers have completed, with filters that were pushed down, none dropped under a NOT. -/
structure QueriesByWorkers {Split Array : Type} (rt : Runtime) (objectStart : PropertyCodec.ObjectStart Exception)
    (splitLib : SplitLibrary Split) (lib : ReadLibrary Split Array Value) (eng : Engine) (test : Predicate.LeafTest)
    (reader : ValueReader) (builder : PredicateBuilder) (render : Value → String) (get : LogicalGet)
    (schema : TableFields) (contents : Split → List StoredRow) (filters : List Expression) (columnIds : List Nat)
    (bind : PaimonScanBindData Split) (scans : List (WorkerScan Split)) (table : List StoredRow) : Prop where
  lawful : rt.binary.Lawful
  startLawful : objectStart.Lawful
  roundTrips : RoundTrips splitLib
  agrees : AgreesOn eng test reader get schema filters table
  builderOk : builder.Succeeds
  drops : ∀ f ∈ filters, dropsUnderNot reader get true f = false
  projects : Projects get schema filters columnIds
  planned : ∃ (pushed template : PaimonScanBindData Split)
      (createPlan : PaimonScanBindData Split → Except Exception (Option (ScanPlan Split))) (plan : ScanPlan Split)
      (splits : List DistributedScanSplit),
    paimonPushdownFilter reader builder render get bind filters = .ok pushed ∧ createPlan pushed = .ok (some plan) ∧
    PlansSelected test schema contents table pushed (plan.splits.filterMap id) ∧
    paimonPlanDistributedScanSplits rt splitLib createPlan (some pushed) = .ok splits ∧
    paimonCreateDistributedWorkerBind (some pushed) = .ok template ∧ (scans.flatMap WorkerScan.dealt).Perm splits ∧
    (∀ scan ∈ scans, scan.Executes rt objectStart splitLib lib template columnIds) ∧
    ∀ bind start, Unfiltered pushed bind → bind.distributed.phase = .workerAssigned →
      paimonScanInitGlobal lib bind columnIds = .ok start → ReadsMatching lib test schema contents bind start columnIds

/-- The rows they emitted that pass the filters above them are those of the table on which every filter is TRUE. -/
theorem QueriesByWorkers.answers {Split Array : Type} {rt : Runtime} {objectStart : PropertyCodec.ObjectStart Exception}
    {splitLib : SplitLibrary Split} {lib : ReadLibrary Split Array Value} {eng : Engine} {test : Predicate.LeafTest}
    {reader : ValueReader} {builder : PredicateBuilder} {render : Value → String} {nullPartName : String}
    {get : LogicalGet} {schema : TableFields} {contents : Split → List StoredRow} {filters : List Expression}
    {columnIds : List Nat} {bind : PaimonScanBindData Split} {scans : List (WorkerScan Split)} {table : List StoredRow}
    (h : QueriesByWorkers rt objectStart splitLib lib eng test reader builder render get schema contents
      filters columnIds bind scans table)
    (stored : StoredUnder eng render nullPartName get bind.partKeys schema table) :
    ((scans.flatMap fun scan => emittedIn scan.history).filter fun cells =>
        allTrue eng get filters (rowOf columnIds cells)).Perm
      ((table.filter fun stored => allTrue eng get filters (schema.row stored)).map fun stored =>
        columnIds.map (schema.row stored)) := by
  obtain ⟨pushed, template, createPlan, plan, splits, hpushdown, hcreated, hplans, hplanning, hworkerBind,
    hdealt, hexecutes, hreads⟩ := h.planned
  have hselects := selected_of_allTrue h.agrees h.builderOk hpushdown h.drops stored
  exact dealt_plan_answers h.lawful h.startLawful h.roundTrips hselects h.projects hcreated hplans hplanning
    hworkerBind hdealt hexecutes hreads

/-- Once a prepared operator is finalized over the results of honest workers, it has returned the number of the rows
they were given, and workers that scan the table with filters pushed down return, after the filters above them, what
they returned before and the given rows on which every filter is TRUE, each as often as it was given: whatever
`PrepareCommit` returns stands for what its local writer was given, and the messages that were committed are in the
table. -/
theorem distributed_insert_then_select {Message Split Array : Type} {rt scanRt : Runtime} {vane : Vane}
    {codec : MessageCodec Message} {render : Value → String} {info : DistributedExtensionWriteInfo}
    {accessMode : AccessMode} {createInfo : Option CreateTableInfo} {tableIdentifier : Identifier}
    {paimonOptions options : StringMap} {partKeys : List String} {children : List (List LogicalType)}
    {calls : List (Performed Message)} {insert insert' : PhysicalPaimonInsert} {workers : List (WorkerRun Message)}
    {messageRows : Message → Multiset StoredRow}
    {decode : DecodeReplies Message} {commit : CommitReplies} {r : Except Exception UInt64}
    {events : List (Event Message)} {objectStart : PropertyCodec.ObjectStart Exception} {splitLib : SplitLibrary Split}
    {lib : ReadLibrary Split Array Value} {eng : Engine} {test : Predicate.LeafTest} {reader : ValueReader}
    {builder : PredicateBuilder} {get : LogicalGet} {schema : TableFields} {contents : Split → List StoredRow}
    {filters : List Expression} {columnIds : List Nat} {bind : PaimonScanBindData Split}
    {scans : List (WorkerScan Split)} {table table' : List StoredRow}
    (run : Run (Performs rt vane) (.new accessMode createInfo tableIdentifier paimonOptions partKeys children) calls
      insert)
    (prepared : insert.distributedTargetPrepared = true) (first : insert.distributedFinalizeStarted = false)
    (honest : HonestWrite rt vane codec render info insert workers)
    (decodes : decode.paimonOptions = .ok options ∧ decode.resolvedInfo = .ok info ∧ decode.codec = codec)
    (unchanged : AtBaseline insert commit.baseline) (committer : createCommitter commit.committer = .ok ())
    (commits : commit.commit = .ok 1)
    (finalizes : (finalizeDistributedWrite rt vane decode commit (workers.map (WorkerRun.result info))).run insert =
      (r, insert', events))
    (names : insert.transport.inputNames = get.names) (keys : bind.partKeys = insert.transport.partKeys)
    (wide : ∀ sunk ∈ allWorkersSunk workers, sunk.chunk.columns.length = schema.fields.length)
    (renders : ∀ row ∈ givenRows (allWorkersSunk workers), RendersEquals eng render get bind.partKeys row)
    (stored : StoredUnder eng render insert.transport.nullPartName get bind.partKeys schema table)
    (prepares : ∀ worker ∈ workers, StandsFor (storedRows schema) messageRows (workerActs worker.history))
    (appends : Appends messageRows (committedBy events) table table')
    (queries : QueriesByWorkers scanRt objectStart splitLib lib eng test reader builder render get schema
      contents filters columnIds bind scans table') :
    r = .ok (UInt64.ofNat (givenRows (allWorkersSunk workers)).length) ∧
      ((scans.flatMap fun scan => emittedIn scan.history).filter fun cells =>
          allTrue eng get filters (rowOf columnIds cells)).Perm
        (((table.filter fun stored => allTrue eng get filters (schema.row stored)).map fun stored =>
          columnIds.map (schema.row stored)) ++
          ((givenRows (allWorkersSunk workers)).filter (allTrue eng get filters)).map fun row =>
            columnIds.map row) := by
  have hshape := shape_of_prepared run prepared
  have hbound := (given_and_bound run).2
  have hpublished := hbound.published (selected_of_shape hshape)
  have hfinalizes := honest.finalizes hbound hshape prepared first decodes unchanged committer commits
  obtain ⟨rfl, hevents⟩ := Prod.mk.inj (finalizes.symm.trans hfinalizes)
  obtain ⟨-, rfl⟩ := Prod.mk.inj hevents
  have hnodup : get.names.Nodup := by
    rw [stored.names]
    exact schema.distinct
  have hcomplete : ∀ sunk ∈ allWorkersSunk workers,
      CompleteSunk render insert.transport.nullPartName get bind.partKeys schema sunk := by
    rw [keys]
    exact HonestWrite.complete honest hpublished hnodup names wide
  have hcommitted : committedBy (if allRows workers = 0 then [.lock, .loadTarget, .unlock]
      else [.lock, .loadTarget, .filterAndCommit insert.distributedCommitIdentifier (allPrepared workers), .unlock]) =
        allPrepared workers := by
    split
    · -- without rows nothing is committed, and there is no message
      rename_i hzero
      rw [(honest.nothing_iff hpublished).2 hzero]
      rfl
    · exact List.append_nil _
  rw [hcommitted] at appends
  have happends := appends.inserted (HonestWrite.contents honest hpublished prepares)
  refine ⟨by rw [length_allWorkersSunk], ?_⟩
  exact (queries.answers (stored.insert hcomplete renders happends)).trans (answers_insert hcomplete happends)

/-! ## A row that workers insert and read -/

namespace Sample

def oneColumn : TableFields where
  fields := [⟨0, "a", integerColumn⟩]
  increasing := by decide
  bounded := by decide
  distinct := by decide

def oneScan : LogicalGet where
  columnIds := [0]
  names := ["a"]
  returnedTypes := [{ id := .integer }]

/-- `a = 7`. -/
def sevenFilter : List Expression := [.comparison .compareEqual (.columnRef 0) (.constant (integer 7))]

def sevenPushed : PaimonScanBindData String :=
  { TwoSplits.coordinator with predicates := some (.and [.leaf .equal 0 "a" .int [.int 7]]) }

def sevenPlan (_ : PaimonScanBindData String) : Except Exception (Option (ScanPlan String)) :=
  .ok (some ⟨some 7, ["y"].map some⟩)

def sevenTemplate : PaimonScanBindData String :=
  { TwoSplits.coordinator with distributed := { TwoSplits.coordinator.distributed with phase := .workerTemplate } }

/-- The rows of the one split of the plan. -/
def sevenTable : List StoredRow := insertedRows oneColumn (allWorkersSunk [Write.Sample.plannedWorker])

/-- The message of the worker stands for them. -/
def sevenMessageRows (_ : String) : Multiset StoredRow := ↑sevenTable

/-- One `PrepareCommit` was called, behind the row. -/
theorem prepares_plannedWorker :
    StandsFor (storedRows oneColumn) sevenMessageRows (workerActs Write.Sample.plannedWorker.history) := by
  rintro before writer messages after heq
  rcases before with _ | ⟨first, _ | ⟨second, _ | ⟨third, before⟩⟩⟩
  · cases heq
  · cases heq
  · cases heq
    rfl
  · cases before <;> cases heq

/-- A row as a worker gets it. -/
def sevenBatch : ReadBatch (List Int) :=
  ⟨some ⟨1, [[], [7]]⟩, some (.ok ⟨["_", "a"], [], [integerColumn, integerColumn]⟩)⟩

def sevenLibrary : ReadLibrary String (List Int) Value where
  scanSplits _ := .ok ["y"]
  pickedFieldFilter p mapping := .ok (pick mapping p)
  createReader _ _ := .ok [.ok sevenBatch]
  convert _ _ _ := .ok ()
  cell _ column row := integer (column.getD row 0)

theorem sevenLibrary_reads (bind : PaimonScanBindData String) (start : PaimonScanGlobalState String)
    (hbind : Unfiltered sevenPushed bind) (hphase : bind.distributed.phase = .workerAssigned)
    (hinit : paimonScanInitGlobal sevenLibrary bind [0] = .ok start) :
    ReadsMatching sevenLibrary test oneColumn (fun _ => sevenTable) bind start [0] := by
  have hworker : start.distributedWorker = true := (paimonScanInitGlobal_worker hinit).1.2 hphase
  have hnone : start.paimonPredicates = none := paimonPredicates_of_none hinit hbind.predicates
  obtain ⟨splits, index, path, arrowTable, predicates, worker⟩ := start
  cases hworker
  cases hnone
  exact fun split _ => ⟨sevenTable, .refl _ _, rfl⟩

def sevenAssigned : PaimonScanBindData String :=
  { sevenTemplate with
    distributed := { sevenTemplate.distributed with
      phase := .workerAssigned, hasSnapshot := true, snapshotId := 7, assignedSplits := ["y"] } }

def sevenGlobal (splitIndex : Nat) : PaimonScanGlobalState String where
  splits := ["y"]
  splitIndex
  path := "/wh/db.db/t"
  distributedWorker := true

/-- The row, and the end. -/
def sevenHistory : List (ScanRecord Value) :=
  [⟨0, {}, [⟨0, readContext sevenAssigned (sevenGlobal 0) [0]⟩]⟩,
    ⟨0, ⟨1, [fun row => integer (([7] : List Int).getD row 0)]⟩, []⟩, ⟨0, {}, []⟩]

theorem completes_sevenHistory : Completes sevenLibrary sevenAssigned [0] (sevenGlobal 0) sevenHistory := by
  have hbatch {reader : List (Result (ReadBatch (List Int)))} {batch : ReadBatch (List Int)}
      (hcreated : (Except.ok [.ok sevenBatch] : Result _) = .ok reader) (hmem : .ok batch ∈ reader) :
      batch = sevenBatch := by
    cases hcreated
    exact Except.ok.inj (List.mem_singleton.1 hmem)
  have hinit : ScanStep sevenLibrary sevenAssigned [0] { global := sevenGlobal 0 }
      ⟨0, {}, [⟨0, readContext sevenAssigned (sevenGlobal 0) [0]⟩]⟩
      { global := sevenGlobal 1, locals := [(⟨[0], [.ok sevenBatch], false⟩, false)] } := .initLocal rfl
  have hscan : ScanStep sevenLibrary sevenAssigned [0]
      { global := sevenGlobal 1, locals := [(⟨[0], [.ok sevenBatch], false⟩, false)] }
      ⟨0, ⟨1, [fun row => integer (([7] : List Int).getD row 0)]⟩, []⟩
      { global := sevenGlobal 1, locals := [(⟨[0], [], false⟩, false)] } := .scan 0 rfl rfl
  have hend : ScanStep sevenLibrary sevenAssigned [0] { global := sevenGlobal 1, locals := [(⟨[0], [], false⟩, false)] }
      ⟨0, {}, []⟩ { global := sevenGlobal 2, locals := [(⟨[0], [], true⟩, true)] } := .scan 0 rfl rfl
  refine ⟨rfl, ?_, ?_, _, .snoc (.snoc (.snoc .nil hinit) hscan) hend, List.cons_ne_nil _ _, ?_⟩
  · intro split _ reader hcreated batch hmem
    rw [hbatch hcreated hmem]
    exact Nat.le_of_lt (by decide : 1 < standardVectorSize)
  · intro k split reader before batch after _ hcreated heq hlength
    have hmem : .ok batch ∈ reader := heq ▸ List.mem_append_right before List.mem_cons_self
    rw [hbatch hcreated hmem] at hlength
    cases hlength
  · intro state hstate
    rw [List.mem_singleton.1 hstate]

theorem projects_sevenFilter : Projects oneScan oneColumn sevenFilter [0] where
  within := by decide
  noGap p hp := by
    rw [List.mem_singleton.1 hp]
    exact (TableFields.noGap_iff rfl).2 rfl
  columns f hf i hi column hcolumn := List.mem_of_getElem? hcolumn

theorem queries_sevenTable : ∃ scans : List (WorkerScan String),
    QueriesByWorkers TwoSplits.runtime binaryObjectStart TwoSplits.library sevenLibrary
    engine test reader builder (fun _ => "") oneScan oneColumn (fun _ => sevenTable) sevenFilter [0]
      TwoSplits.coordinator scans sevenTable ∧ (scans.flatMap fun scan => emittedIn scan.history) = [[integer 7]] := by
  have hlawful : TwoSplits.runtime.binary.Lawful := binaryFormat_lawful
  have hplan : sevenPlan sevenPushed = .ok (some ⟨some 7, ["y"].map some⟩) := rfl
  obtain ⟨splits, hplanning, hids, htakes⟩ := paimonPlanDistributedScanSplits_ok hlawful rfl
    (show sevenPushed.transportBase.validate = .ok () from TwoSplits.validate_coordinator) hplan (by decide)
    (List.forall_mem_singleton.2 (TwoSplits.readsBack "y" (.tail _ (.head _))))
  obtain ⟨y, rfl⟩ : ∃ y, splits = [y] := List.length_eq_one_iff.1 htakes.length_eq
  have hpushdown : paimonPushdownFilter reader builder (fun _ => "") oneScan TwoSplits.coordinator sevenFilter =
      .ok sevenPushed := rfl
  have hplans : PlansSelected test oneColumn (fun _ => sevenTable) sevenTable sevenPushed ["y"] := .refl _ _
  refine ⟨[⟨[], [y], sevenAssigned, sevenGlobal 0, sevenHistory⟩],
    ⟨hlawful, binaryObjectStart_lawful, roundTrips_library, fun _ _ _ _ => agrees _ _ _, builder_succeeds, by decide,
      projects_sevenFilter, sevenPushed, sevenTemplate, _, _, [y], hpushdown, hplan, hplans, hplanning, rfl, .refl _, ?_,
      sevenLibrary_reads⟩, rfl⟩
  rw [List.forall_mem_singleton]
  exact ⟨⟨sevenTemplate, rfl, applies_planned rfl (List.forall₂_cons.1 htakes).1 rfl rfl⟩, completes_sevenHistory⟩

end Sample

/-- The row a worker inserts into an empty table is found by a worker. -/
theorem distributed_insert_then_select_seven : ∃ r insert' events, ∃ scans : List (WorkerScan String),
    (finalizeDistributedWrite Write.Sample.runtime .counting Write.Sample.honestDecode Write.Sample.commitReplies
        ([Write.Sample.plannedWorker].map (WorkerRun.result Write.Sample.plannedInfo))).run
      Write.Sample.prepared = (r, insert', events) ∧ r = .ok 1 ∧
    ((scans.flatMap fun scan => emittedIn scan.history).filter fun cells =>
        allTrue Sample.engine Sample.oneScan Sample.sevenFilter (rowOf [0] cells)).Perm [[Sample.integer 7]] := by
  obtain ⟨scans, hqueries, -⟩ := Sample.queries_sevenTable
  have hdecodes : Write.Sample.honestDecode.paimonOptions = .ok .empty ∧
      Write.Sample.honestDecode.resolvedInfo = .ok Write.Sample.plannedInfo ∧
        Write.Sample.honestDecode.codec = .text 1 :=
    ⟨rfl, rfl, rfl⟩
  have hfinalizes := Write.Sample.honestWrite_prepared.finalizes (given_and_bound Write.Sample.run_preparing).2
    Write.Sample.entering_prepared.shape rfl rfl hdecodes Write.Sample.committable_prepared.baseline rfl rfl
  have hstored : StoredUnder Sample.engine (fun _ => "") Write.Sample.prepared.transport.nullPartName Sample.oneScan
      TwoSplits.coordinator.partKeys Sample.oneColumn [] :=
    ⟨rfl, fun _ hnone => absurd hnone List.not_mem_nil, fun _ hnone => absurd hnone List.not_mem_nil⟩
  have happends : Appends Sample.sevenMessageRows (committedBy
      [.lock, .loadTarget, .filterAndCommit Write.Sample.prepared.distributedCommitIdentifier ["data-0.orc"], .unlock])
      [] Sample.sevenTable := by
    show (↑Sample.sevenTable : Multiset StoredRow) = 0 + (↑Sample.sevenTable + 0)
    rw [add_zero, zero_add]
  have hselects := distributed_insert_then_select Write.Sample.run_preparing rfl rfl
    Write.Sample.honestWrite_prepared hdecodes Write.Sample.committable_prepared.baseline rfl rfl hfinalizes rfl rfl
    (List.forall_mem_singleton.2 rfl) (fun _ _ _ _ _ hkey => absurd hkey List.not_mem_nil) hstored
    (List.forall_mem_singleton.2 Sample.prepares_plannedWorker) happends hqueries
  exact ⟨_, _, _, scans, hfinalizes, hselects⟩

end DuckPaimon.Scan
