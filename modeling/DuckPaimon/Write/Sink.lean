/-
The partitioned sinks: `PhysicalPaimonInsert::Sink` (paimon_insert.cpp) and
`PaimonDistributedInsertSink` (paimon_distributed_insert.cpp) group the rows of a chunk by their
rendered partition values and write each group. Both issue the same writes, which hold every row
once; rows that are written together agree in every partition column, up to a value rendered as the
name of the NULL partition.
-/
import DuckPaimon.Lib.Grouping
import DuckPaimon.Lib.Proc
import DuckPaimon.Write.Contract
import Mathlib.Data.List.Lex
import Mathlib.Data.List.Nodup

namespace DuckPaimon.Write

open Outcome

/-! ## Chunks -/

/-- A column of a chunk with its `UnifiedVectorFormat`: rows are looked up through a selection. -/
structure Column where
  type : LogicalType
  /-- `sel->get_index`. -/
  getIndex : Nat → Nat
  /-- `validity.RowIsValid`. -/
  rowIsValid : Nat → Bool
  /-- What is stored at a source index. -/
  stored : Nat → Stored

/-- `DataChunk`. -/
structure DataChunk where
  size : UInt64
  columns : List Column

/-- `GetTypes`. -/
def DataChunk.getTypes (chunk : DataChunk) : List LogicalType := chunk.columns.map Column.type

/-- `GetValue` of a row. -/
def Column.getValue (column : Column) (row : Nat) : Value where
  type := column.type
  stored := if column.rowIsValid (column.getIndex row) then some (column.stored (column.getIndex row)) else none

/-- The formats of the partition columns. -/
def DataChunk.partFormats (chunk : DataChunk) (partColIdxs : List Nat) : Except Exception (List Column) :=
  partColIdxs.mapM fun index =>
    match chunk.columns[index]? with
    | some column => return column
    | none => throw (.internal ("Attempted to access column " ++ toString index ++ " of a chunk"))

/-! ## Groups -/

/-- A write of a sink: rows of the chunk under a partition. -/
structure PartitionWrite where
  partition : StringMap
  rows : List Nat
  deriving DecidableEq

/-- A chunk a sink is given, with the writes it makes of it. -/
structure Sunk where
  chunk : DataChunk
  writes : List PartitionWrite

section Groups

-- `render` is `Value::ToString`
variable (render : Value → String) (nullPartName : String)

/-- The grouping key of a row. -/
def rowKey (partFormats : List Column) (row : Nat) : List String :=
  partFormats.map fun format =>
    if format.rowIsValid (format.getIndex row) = false then nullPartName else render (format.getValue row)

/-- The groups of `PhysicalPaimonInsert::Sink`: an empty group is emplaced, then the row is added. -/
def nativeGroups (partFormats : List Column) (size : Nat) : SortedMap (List String) (List Nat) :=
  (List.range size).foldl (fun groups row =>
    let key := rowKey render nullPartName partFormats row
    (groups.emplace key []).push key row) .empty

/-- The groups of `PaimonDistributedInsertSink`. -/
def distributedGroups (partFormats : List Column) (size : Nat) : SortedMap (List String) (List Nat) :=
  (List.range size).foldl (fun groups row => groups.push (rowKey render nullPartName partFormats row) row) .empty

/-- The partition of a group, by the names of the partition keys. -/
def partitionOf (names key : List String) : StringMap :=
  (names.zip key).foldl (fun partition entry => partition.insert entry.1 entry.2) .empty

end Groups

/-! ## Sinks -/

section Sinks

variable {σ : Type}

/-- Writes rows of the chunk, from what the batch builder and the writer reply for a partition. -/
def writeRows (reply : StringMap → Except Exception Unit) (write : PartitionWrite) :
    Proc Exception PartitionWrite σ Unit := do
  Proc.call write
  Proc.ofExcept (reply write.partition)

/-- The loop over the groups. -/
def writeAll (reply : StringMap → Except Exception Unit) : List PartitionWrite → Proc Exception PartitionWrite σ Unit
  | [] => pure ()
  | write :: writes => do
    writeRows reply write
    writeAll reply writes

/-- The writes of the groups. -/
def groupWrites (names : List String) (groups : SortedMap (List String) (List Nat)) : List PartitionWrite :=
  groups.entries.map fun entry => ⟨partitionOf names entry.1, entry.2⟩

/-- All rows of a chunk, without a partition. -/
def wholeWrite (chunk : DataChunk) : PartitionWrite := ⟨.empty, List.range chunk.size.toNat⟩

/-- `PaimonInsertGlobalState`, as the sink reads it. -/
structure PaimonInsertGlobalState where
  partKeyNames : List String
  partColIdxs : List Nat
  nullPartName : String := "__DEFAULT_PARTITION__"

/-- The loop of `GetGlobalSinkState` and of `PaimonDistributedInsertInitializeGlobal` that finds the
partition keys among the fields, with what it throws for a missing one. -/
def findPartColIdxs (fieldNames : List String) (missing : String → Exception) : List String → Except Exception (List Nat)
  | [] => return []
  | partKey :: partKeys => do
    throwIf (partKey ∉ fieldNames) (missing partKey)
    let partColIdxs ← findPartColIdxs fieldNames missing partKeys
    return fieldNames.idxOf partKey :: partColIdxs

/-- That of `GetGlobalSinkState`. -/
def nativePartColIdxs (fieldNames partKeys : List String) : Except Exception (List Nat) :=
  findPartColIdxs fieldNames (fun partKey => .io ("Partition key \"" ++ partKey ++ "\" not found in Paimon table schema"))
    partKeys

/-- That of `PaimonDistributedInsertInitializeGlobal`. -/
def workerPartColIdxs (inputNames partKeys : List String) : Except Exception (List Nat) :=
  findPartColIdxs inputNames (fun partKey =>
    .serialization ("Distributed Paimon INSERT partition key '" ++ partKey ++ "' is absent from worker input")) partKeys

/-- `PaimonInsertLocalState`, as the sink updates it. -/
structure PaimonInsertLocalState where
  localCount : UInt64 := 0

/-- `PhysicalPaimonInsert::Sink`. -/
def sink (render : Value → String) (gstate : PaimonInsertGlobalState) (reply : StringMap → Except Exception Unit)
    (chunk : DataChunk) : Proc Exception PartitionWrite PaimonInsertLocalState Unit :=
  if gstate.partColIdxs.isEmpty then do
    writeRows reply (wholeWrite chunk)
    Proc.modify fun lstate => { lstate with localCount := lstate.localCount + chunk.size }
  else do
    let partFormats ← Proc.ofExcept (chunk.partFormats gstate.partColIdxs)
    writeAll reply (groupWrites gstate.partKeyNames
      (nativeGroups render gstate.nullPartName partFormats chunk.size.toNat))
    Proc.modify fun lstate => { lstate with localCount := lstate.localCount + chunk.size }

/-- `PaimonDistributedInsertGlobalState`. -/
structure PaimonDistributedInsertGlobalState (Message : Type) where
  transport : InsertTransport
  options : StringMap
  queryId : String
  taskAttemptId : String
  writerCommitUser : String
  nextWriteId : UInt32 := 0
  messages : List Message := []
  rowCount : UInt64 := 0
  partColIdxs : List Nat
  finalized : Bool := false

/-- `PaimonDistributedInsertLocalState`: whether it still has its writer, and its rows. -/
structure PaimonDistributedInsertLocalState where
  writer : Bool := true
  rowCount : UInt64 := 0

/-- `ValidateTask`. -/
def validateTask {Message : Type} (vane : Vane) (global : PaimonDistributedInsertGlobalState Message)
    (task : DistributedWriteTaskContext) : Except Exception Unit := do
  vane.validateTask task
  let _ ← vaneLogicalTaskIdentity task.queryId task.taskAttemptId
  throwIf (global.queryId ≠ task.queryId ∨ global.taskAttemptId ≠ task.taskAttemptId)
    (.invalidInput "Distributed Paimon INSERT worker task identity changed during execution")

/-- Adds the rows of a chunk to those of the local writer. -/
def addRows (chunk : DataChunk) : Proc Exception PartitionWrite PaimonDistributedInsertLocalState Unit := do
  let lstate ← Proc.get
  let rowCount ← Proc.ofExcept (checkedAdd lstate.rowCount chunk.size "worker row count")
  Proc.modify fun lstate => { lstate with rowCount }

/-- `WritePaimonChunk`. A local writer that was combined has no writer left, and dereferencing it throws
behind the batch builder. -/
def writePaimonChunk (reply : StringMap → Except Exception Unit) (write : PartitionWrite) :
    Proc Exception PartitionWrite PaimonDistributedInsertLocalState Unit := do
  let lstate ← Proc.get
  if lstate.writer = true then writeRows reply write
  else do
    Proc.ofExcept (reply write.partition)
    throw (.internal "Attempted to dereference unique_ptr that is NULL!")

/-- The loop over the groups of a worker. -/
def writePaimonChunks (reply : StringMap → Except Exception Unit) :
    List PartitionWrite → Proc Exception PartitionWrite PaimonDistributedInsertLocalState Unit
  | [] => pure ()
  | write :: writes => do
    writePaimonChunk reply write
    writePaimonChunks reply writes

/-- `PaimonDistributedInsertSink`. -/
def paimonDistributedInsertSink {Message : Type} (render : Value → String) (vane : Vane)
    (global : PaimonDistributedInsertGlobalState Message) (task : DistributedWriteTaskContext)
    (reply : StringMap → Except Exception Unit) (chunk : DataChunk) :
    Proc Exception PartitionWrite PaimonDistributedInsertLocalState Unit := do
  Proc.ofExcept (validateTask vane global task)
  throwIf (chunk.getTypes ≠ global.transport.inputTypes)
    (.invalidInput "Distributed Paimon INSERT worker input schema does not match its frozen target")
  if global.partColIdxs.isEmpty then do
    writePaimonChunk reply (wholeWrite chunk)
    addRows chunk
  else do
    let partFormats ← Proc.ofExcept (chunk.partFormats global.partColIdxs)
    writePaimonChunks reply (groupWrites global.transport.partKeys
      (distributedGroups render global.transport.nullPartName partFormats chunk.size.toNat))
    addRows chunk

end Sinks

/-! ## What the sinks write -/

/-- What the sinks put for a partition value. -/
def partitionValue (render : Value → String) (nullPartName : String) (value : Value) : String :=
  if value.isNull then nullPartName else render value

/-- The validity that is looked up through the selection is that of the value of the row. -/
theorem rowKey_eq (render : Value → String) (nullPartName : String) (partFormats : List Column) (row : Nat) :
    rowKey render nullPartName partFormats row =
      partFormats.map fun column => partitionValue render nullPartName (column.getValue row) := by
  unfold rowKey
  refine List.map_congr_left fun column _ => ?_
  unfold partitionValue Column.getValue Value.isNull
  cases column.rowIsValid (column.getIndex row) <;> rfl

theorem partFormats_eq_ok {chunk : DataChunk} :
    ∀ {partColIdxs : List Nat} {columns : List Column},
      chunk.partFormats partColIdxs = .ok columns ↔ partColIdxs.map (chunk.columns[·]?) = columns.map some
  | [], columns => by
    rw [DataChunk.partFormats, List.mapM_nil, pure_eq_ok, List.map_nil, eq_comm, eq_comm (a := []), List.map_eq_nil_iff]
  | index :: partColIdxs, columns => by
    have ih {columns : List Column} : chunk.partFormats partColIdxs = .ok columns ↔
        partColIdxs.map (chunk.columns[·]?) = columns.map some := partFormats_eq_ok
    unfold DataChunk.partFormats at ih ⊢
    rw [List.mapM_cons, bind_eq_ok, List.map_cons]
    constructor
    · rintro ⟨column, hcolumn, h⟩
      obtain ⟨rest, hrest, h⟩ := bind_eq_ok.1 h
      cases pure_eq_ok.1 h
      rw [ih] at hrest
      split at hcolumn
      · rename_i hindex
        cases pure_eq_ok.1 hcolumn
        rw [List.map_cons, hindex, hrest]
      · cases hcolumn
    · intro h
      cases columns with
      | nil => cases h
      | cons column rest =>
        obtain ⟨hcolumn, hrest⟩ := List.cons.inj h
        refine ⟨column, ?_, bind_eq_ok.2 ⟨rest, ih.2 hrest, rfl⟩⟩
        rw [hcolumn]
        rfl

/-- Both sinks make the same groups. -/
theorem nativeGroups_eq (render : Value → String) (nullPartName : String) (partFormats : List Column) (size : Nat) :
    nativeGroups render nullPartName partFormats size = distributedGroups render nullPartName partFormats size := by
  unfold nativeGroups distributedGroups
  refine congrArg (fun f => List.foldl f _ _) ?_
  funext groups row
  exact SortedMap.upsert_upsert groups _ _ _

theorem wp_writeAll {σ : Type} (reply : StringMap → Except Exception Unit) (writes : List PartitionWrite) (s : σ) :
    (writeAll reply writes : Proc Exception PartitionWrite σ Unit).wp s fun r s' issued =>
      s' = s ∧ issued <+: writes ∧ (r = .ok () → issued = writes) := by
  induction writes with
  | nil => exact (Proc.wp_pure _ _ _).2 ⟨rfl, List.prefix_rfl, fun _ => rfl⟩
  | cons write writes ih =>
    rw [writeAll, writeRows]
    simp only [Proc.wp_bind, Proc.wp_call, Proc.wp_ofExcept]
    cases reply write.partition with
    | error e => exact ⟨trivial, ⟨writes, rfl⟩, by rintro ⟨⟩⟩
    | ok u =>
      refine Proc.wp_mono ih ?_
      rintro r s' issued ⟨rfl, hle, hissued⟩
      refine ⟨rfl, (List.prefix_cons_inj write).2 hle, fun hr => ?_⟩
      rw [hissued hr]
      rfl

theorem wp_writePaimonChunk (reply : StringMap → Except Exception Unit) (write : PartitionWrite)
    (s : PaimonDistributedInsertLocalState) :
    (writePaimonChunk reply write).wp s fun r s' issued =>
      s' = s ∧ issued <+: [write] ∧ (r = .ok () → issued = [write] ∧ s.writer = true) := by
  unfold writePaimonChunk writeRows
  rw [Proc.wp_bind, Proc.wp_get]
  show Proc.wp _ _ _
  rw [Proc.wp_ite]
  split
  · rename_i hwriter
    simp only [Proc.wp_bind, Proc.wp_call, Proc.wp_ofExcept]
    exact ⟨trivial, List.prefix_rfl, fun _ => ⟨rfl, hwriter⟩⟩
  · simp only [Proc.wp_bind, Proc.wp_throw, Proc.wp_ofExcept]
    cases reply write.partition with
    | error e => exact ⟨trivial, List.nil_prefix, by rintro ⟨⟩⟩
    | ok u => exact ⟨trivial, List.nil_prefix, by rintro ⟨⟩⟩

theorem wp_writePaimonChunks (reply : StringMap → Except Exception Unit) (writes : List PartitionWrite)
    (s : PaimonDistributedInsertLocalState) :
    (writePaimonChunks reply writes).wp s fun r s' issued =>
      s' = s ∧ issued <+: writes ∧ (r = .ok () → issued = writes ∧ (s.writer = true ∨ writes = [])) := by
  induction writes with
  | nil => exact (Proc.wp_pure _ _ _).2 ⟨rfl, List.prefix_rfl, fun _ => ⟨rfl, .inr rfl⟩⟩
  | cons write writes ih =>
    rw [writePaimonChunks, Proc.wp_bind]
    refine Proc.wp_mono (wp_writePaimonChunk reply write s) ?_
    rintro (e | u) s' issued ⟨rfl, hle, hissued⟩
    · exact ⟨rfl, hle.trans (List.prefix_append [write] writes), nofun⟩
    · obtain ⟨rfl, hwriter⟩ := hissued rfl
      refine Proc.wp_mono ih ?_
      rintro r s' issued ⟨rfl, hle, hissued⟩
      refine ⟨rfl, (List.prefix_cons_inj write).2 hle, fun hr => ⟨?_, .inl hwriter⟩⟩
      rw [(hissued hr).1]
      rfl

/-- The writes hold every row once, in order within a write, under the partition of its values. -/
structure PartitionsRows (render : Value → String) (nullPartName : String) (names : List String)
    (columns : List Column) (size : Nat) (writes : List PartitionWrite) : Prop where
  rows : (writes.flatMap PartitionWrite.rows).Perm (List.range size)
  order : ∀ write ∈ writes, write.rows.Pairwise (· < ·)
  partition : ∀ write ∈ writes, ∀ row ∈ write.rows, ∀ name value, write.partition.find? name = some value ↔
    (name, value) ∈ names.zip (columns.map fun column => partitionValue render nullPartName (column.getValue row))
  distinct : writes.Pairwise fun a b => a.partition ≠ b.partition

theorem find?_partitionOf {names key : List String} (hnodup : names.Nodup) (hlength : key.length = names.length)
    (name value : String) : (partitionOf names key).find? name = some value ↔ (name, value) ∈ names.zip key := by
  refine SortedMap.find?_foldl_insert ?_
  rwa [List.map_fst_zip (Nat.le_of_eq hlength.symm)]

theorem findPartColIdxs_eq_ok {fieldNames : List String} {missing : String → Exception} {partKeys : List String}
    {partColIdxs : List Nat} : findPartColIdxs fieldNames missing partKeys = .ok partColIdxs ↔
      (∀ partKey ∈ partKeys, partKey ∈ fieldNames) ∧ partColIdxs = partKeys.map fieldNames.idxOf := by
  induction partKeys generalizing partColIdxs with
  | nil => rw [findPartColIdxs, pure_eq_ok, eq_comm]; simp
  | cons partKey partKeys ih =>
    rw [findPartColIdxs, throwIf_bind_eq_ok, bind_eq_ok, not_not, List.forall_mem_cons, List.map_cons]
    constructor
    · rintro ⟨hmem, rest, hrest, h⟩
      cases pure_eq_ok.1 h
      obtain ⟨hall, rfl⟩ := ih.1 hrest
      exact ⟨⟨hmem, hall⟩, rfl⟩
    · rintro ⟨⟨hmem, hall⟩, rfl⟩
      exact ⟨hmem, _, ih.2 ⟨hall, rfl⟩, rfl⟩

/-- The partition determines the key. -/
theorem partitionOf_inj {names key key' : List String} (hnodup : names.Nodup) (hlength : key.length = names.length)
    (hlength' : key'.length = names.length) (h : partitionOf names key = partitionOf names key') : key = key' := by
  refine List.ext_getElem (hlength.trans hlength'.symm) fun i hi hi' => ?_
  have hname : i < names.length := hlength ▸ hi
  have hfind := (find?_partitionOf hnodup hlength names[i] key[i]).2
    (List.mem_iff_getElem.2 ⟨i, by rw [List.length_zip]; omega, List.getElem_zip⟩)
  rw [h, find?_partitionOf hnodup hlength'] at hfind
  obtain ⟨j, hj, heq⟩ := List.mem_iff_getElem.1 hfind
  rw [List.getElem_zip, Prod.mk.injEq] at heq
  obtain rfl := (List.Nodup.getElem_inj_iff hnodup).1 heq.1
  exact heq.2.symm

section Grouped

variable {render : Value → String} {nullPartName : String} {names : List String} {columns : List Column} {size : Nat}

theorem mem_groupWrites {write : PartitionWrite}
    (h : write ∈ groupWrites names (distributedGroups render nullPartName columns size)) :
    ∃ key, write.partition = partitionOf names key ∧ write.rows.Sublist (List.range size) ∧
      ∀ row, row ∈ write.rows ↔ row ∈ List.range size ∧ rowKey render nullPartName columns row = key := by
  obtain ⟨⟨key, rows⟩, hentry, rfl⟩ := List.mem_map.1 h
  obtain ⟨-, hsublist, hrows⟩ := SortedMap.mem_groups (rowKey render nullPartName columns) hentry
  exact ⟨key, rfl, hsublist, hrows⟩

theorem length_rowKey (row : Nat) : (rowKey render nullPartName columns row).length = columns.length :=
  List.length_map _

theorem groupWrites_partition (hnodup : names.Nodup) (hlength : columns.length = names.length) :
    PartitionsRows render nullPartName names columns size
      (groupWrites names (distributedGroups render nullPartName columns size)) := by
  refine ⟨?_, fun write hwrite => ?_, fun write hwrite row hrow name value => ?_, ?_⟩
  · rw [groupWrites, List.flatMap_map]
    exact SortedMap.groups_perm (rowKey render nullPartName columns) (List.range size)
  · obtain ⟨key, -, hsublist, -⟩ := mem_groupWrites hwrite
    exact List.pairwise_lt_range.sublist hsublist
  · obtain ⟨key, hpartition, -, hrows⟩ := mem_groupWrites hwrite
    rw [hrows] at hrow
    rw [hpartition, ← hrow.2, find?_partitionOf hnodup ((length_rowKey row).trans hlength), rowKey_eq]
  · rw [groupWrites, List.pairwise_map]
    refine (List.pairwise_map.1 (SortedMap.nodup_keys _)).imp_of_mem ?_
    rintro ⟨key, rows⟩ ⟨key', rows'⟩ hentry hentry' hne heq
    -- the key of a group is the key of its rows, so it has as many values as there are names
    have hkey {key : List String} {rows : List Nat}
        (h : (key, rows) ∈ (distributedGroups render nullPartName columns size).entries) : key.length = names.length := by
      obtain ⟨hne, -, hrows⟩ := SortedMap.mem_groups (rowKey render nullPartName columns) h
      obtain ⟨row, hrow⟩ := List.exists_mem_of_ne_nil _ hne
      rw [← ((hrows row).1 hrow).2, length_rowKey, hlength]
    exact hne (partitionOf_inj hnodup (hkey hentry) (hkey hentry') heq)

end Grouped

/-! ## The two sinks -/

section Runs

variable {Message : Type} {render : Value → String} {chunk : DataChunk}

/-- The writes of a chunk in the partition columns `columns`. -/
def chunkWrites (render : Value → String) (nullPartName : String) (names : List String) (columns : List Column)
    (chunk : DataChunk) : List PartitionWrite :=
  groupWrites names (distributedGroups render nullPartName columns chunk.size.toNat)

/-- The native sink issues the writes of the chunk, all of them unless it throws, and counts its
rows. -/
theorem wp_sink (gstate : PaimonInsertGlobalState) (reply : StringMap → Except Exception Unit)
    (hpartitioned : gstate.partColIdxs ≠ []) (lstate : PaimonInsertLocalState) :
    (sink render gstate reply chunk).wp lstate fun r lstate' writes => writes ≠ [] ∨ r = .ok () →
      ∃ columns, gstate.partColIdxs.map (chunk.columns[·]?) = columns.map some ∧
        writes <+: chunkWrites render gstate.nullPartName gstate.partKeyNames columns chunk ∧
        (r = .ok () → writes = chunkWrites render gstate.nullPartName gstate.partKeyNames columns chunk ∧
          lstate' = ⟨lstate.localCount + chunk.size⟩) := by
  unfold sink
  rw [if_neg (by rwa [List.isEmpty_iff]), Proc.wp_bind, Proc.wp_ofExcept]
  cases hformats : chunk.partFormats gstate.partColIdxs with
  | error e => exact fun h => h.elim (absurd rfl) nofun
  | ok columns =>
    rw [partFormats_eq_ok] at hformats
    show Proc.wp _ _ _
    rw [Proc.wp_bind, nativeGroups_eq]
    refine Proc.wp_mono (wp_writeAll reply
      (chunkWrites render gstate.nullPartName gstate.partKeyNames columns chunk) lstate) ?_
    rintro (e | u) lstate' writes ⟨rfl, hle, hissued⟩
    · exact fun _ => ⟨columns, hformats, hle, nofun⟩
    · show Proc.wp (Proc.modify _) _ _
      rw [Proc.wp_modify, List.nil_append, List.append_nil]
      exact fun _ => ⟨columns, hformats, hle, fun _ => ⟨hissued rfl, rfl⟩⟩

/-- So does the distributed sink, unless the rows it has counted overflow. -/
theorem wp_paimonDistributedInsertSink {vane : Vane} {global : PaimonDistributedInsertGlobalState Message}
    {task : DistributedWriteTaskContext} (reply : StringMap → Except Exception Unit)
    (hpartitioned : global.partColIdxs ≠ []) (lstate : PaimonDistributedInsertLocalState) :
    (paimonDistributedInsertSink render vane global task reply chunk).wp lstate fun r lstate' writes =>
      writes ≠ [] ∨ r = .ok () →
      ∃ columns, global.partColIdxs.map (chunk.columns[·]?) = columns.map some ∧
        writes <+: chunkWrites render global.transport.nullPartName global.transport.partKeys columns chunk ∧
        (r = .ok () → writes = chunkWrites render global.transport.nullPartName global.transport.partKeys columns chunk ∧
          lstate'.writer = lstate.writer ∧ lstate'.rowCount.toNat = lstate.rowCount.toNat + chunk.size.toNat) := by
  unfold paimonDistributedInsertSink
  rw [Proc.wp_bind, Proc.wp_ofExcept]
  cases validateTask vane global task with
  | error e => exact fun h => h.elim (absurd rfl) nofun
  | ok u =>
    show Proc.wp _ _ _
    rw [Proc.wp_bind, Proc.wp_throwIf]
    split
    · exact fun h => h.elim (absurd rfl) nofun
    show Proc.wp _ _ _
    rw [if_neg (by rwa [List.isEmpty_iff]), Proc.wp_bind, Proc.wp_ofExcept]
    cases hformats : chunk.partFormats global.partColIdxs with
    | error e => exact fun h => h.elim (absurd rfl) nofun
    | ok columns =>
      rw [partFormats_eq_ok] at hformats
      show Proc.wp _ _ _
      rw [Proc.wp_bind]
      refine Proc.wp_mono (wp_writePaimonChunks reply
        (chunkWrites render global.transport.nullPartName global.transport.partKeys columns chunk) lstate) ?_
      rintro (e | u) lstate' writes ⟨rfl, hle, hissued⟩
      · exact fun _ => ⟨columns, hformats, hle, nofun⟩
      · show Proc.wp (addRows chunk) _ _
        unfold addRows
        simp only [Proc.wp_bind, Proc.wp_get, Proc.wp_ofExcept, Proc.wp_modify]
        cases hadd : checkedAdd lstate'.rowCount chunk.size "worker row count" with
        | error e => exact fun _ => ⟨columns, hformats, by simpa using hle, nofun⟩
        | ok rowCount =>
          refine fun _ => ⟨columns, hformats, by simpa using hle, fun _ => ⟨?_, trivial, checkedAdd_eq_ok.1 hadd⟩⟩
          simpa using (hissued rfl).1

theorem wp_addRows (lstate : PaimonDistributedInsertLocalState) :
    (addRows chunk).wp lstate fun r lstate' writes => writes = [] ∧
      ((∃ e, r = .error e) ∧ lstate' = lstate ∨
        r = .ok () ∧ lstate'.writer = lstate.writer ∧
          lstate'.rowCount.toNat = lstate.rowCount.toNat + chunk.size.toNat) := by
  unfold addRows
  simp only [Proc.wp_bind, Proc.wp_get, Proc.wp_ofExcept, Proc.wp_modify]
  cases hadd : checkedAdd lstate.rowCount chunk.size "worker row count" with
  | error e => exact ⟨rfl, .inl ⟨⟨e, rfl⟩, trivial⟩⟩
  | ok rowCount => exact ⟨rfl, .inr ⟨trivial, trivial, checkedAdd_eq_ok.1 hadd⟩⟩

theorem wholeWrite_rows : ([wholeWrite chunk].flatMap PartitionWrite.rows).Perm (List.range chunk.size.toNat) := by
  rw [List.flatMap_singleton]
  exact .refl _

/-- The writes of the groups hold the rows of the chunk. -/
theorem chunkWrites_rows {nullPartName : String} {names : List String} {columns : List Column} :
    ((chunkWrites render nullPartName names columns chunk).flatMap PartitionWrite.rows).Perm
      (List.range chunk.size.toNat) := by
  unfold chunkWrites groupWrites
  rw [List.flatMap_map]
  exact SortedMap.groups_perm (rowKey render nullPartName columns) (List.range chunk.size.toNat)

/-- A sink that throws leaves the local state; one that returns has written every row of the chunk once, and
counted them. Rows are only written with a writer. -/
theorem wp_paimonDistributedInsertSink_rows {vane : Vane} {global : PaimonDistributedInsertGlobalState Message}
    {task : DistributedWriteTaskContext} (reply : StringMap → Except Exception Unit)
    (lstate : PaimonDistributedInsertLocalState) :
    (paimonDistributedInsertSink render vane global task reply chunk).wp lstate fun r lstate' writes =>
      (∃ e, r = .error e) ∧ lstate' = lstate ∨
        r = .ok () ∧ (writes.flatMap PartitionWrite.rows).Perm (List.range chunk.size.toNat) ∧
          lstate'.writer = lstate.writer ∧ lstate'.rowCount.toNat = lstate.rowCount.toNat + chunk.size.toNat ∧
          (lstate.writer = true ∨ chunk.size.toNat = 0) := by
  unfold paimonDistributedInsertSink
  rw [Proc.wp_bind, Proc.wp_ofExcept]
  cases validateTask vane global task with
  | error e => exact .inl ⟨⟨e, rfl⟩, rfl⟩
  | ok u =>
    show Proc.wp _ _ _
    rw [Proc.wp_bind, Proc.wp_throwIf]
    split
    · exact .inl ⟨⟨_, rfl⟩, rfl⟩
    show Proc.wp _ _ _
    rw [Proc.wp_ite]
    split
    · rw [Proc.wp_bind]
      refine Proc.wp_mono (wp_writePaimonChunk reply (wholeWrite chunk) lstate) ?_
      rintro (e | u) lstate' writes ⟨rfl, -, hissued⟩
      · exact .inl ⟨⟨e, rfl⟩, rfl⟩
      · obtain ⟨rfl, hwriter⟩ := hissued rfl
        refine Proc.wp_mono (wp_addRows lstate') ?_
        rintro r lstate'' writes ⟨rfl, ⟨herror, rfl⟩ | ⟨hok, hsame, hrows⟩⟩
        · exact .inl ⟨herror, rfl⟩
        · exact .inr ⟨hok, wholeWrite_rows, hsame, hrows, .inl hwriter⟩
    · rw [Proc.wp_bind, Proc.wp_ofExcept]
      cases chunk.partFormats global.partColIdxs with
      | error e => exact .inl ⟨⟨e, rfl⟩, rfl⟩
      | ok columns =>
        show Proc.wp _ _ _
        rw [Proc.wp_bind]
        refine Proc.wp_mono (wp_writePaimonChunks reply
          (chunkWrites render global.transport.nullPartName global.transport.partKeys columns chunk) lstate) ?_
        rintro (e | u) lstate' writes ⟨rfl, -, hissued⟩
        · exact .inl ⟨⟨e, rfl⟩, rfl⟩
        · obtain ⟨rfl, hwriter⟩ := hissued rfl
          refine Proc.wp_mono (wp_addRows lstate') ?_
          rintro r lstate'' writes ⟨rfl, ⟨herror, rfl⟩ | ⟨hok, hsame, hrows⟩⟩
          · exact .inl ⟨herror, rfl⟩
          · refine .inr ⟨hok, ?_, hsame, hrows, hwriter.imp id fun hnone => ?_⟩
            · rw [List.nil_append, List.append_nil]
              exact chunkWrites_rows
            · have hempty : ((chunkWrites render global.transport.nullPartName global.transport.partKeys columns
                chunk).flatMap PartitionWrite.rows).Perm (List.range chunk.size.toNat) := chunkWrites_rows
              rw [hnone, List.flatMap_nil, List.nil_perm, List.range_eq_nil] at hempty
              exact hempty

/-- Writes issued by one call of either sink, however it ends. -/
inductive IssuedBy (render : Value → String) (chunk : DataChunk) (names : List String) (partColIdxs : List Nat)
    (nullPartName : String) (writes : List PartitionWrite) : Prop
  | native (reply : StringMap → Except Exception Unit) (lstate lstate' : PaimonInsertLocalState)
      (r : Except Exception Unit)
      (run : (sink render ⟨names, partColIdxs, nullPartName⟩ reply chunk).run lstate = (r, lstate', writes))
  | distributed (Message : Type) (vane : Vane) (global : PaimonDistributedInsertGlobalState Message)
      (task : DistributedWriteTaskContext) (reply : StringMap → Except Exception Unit)
      (lstate lstate' : PaimonDistributedInsertLocalState) (r : Except Exception Unit)
      (names : global.transport.partKeys = names) (partColIdxs : global.partColIdxs = partColIdxs)
      (nullPartName : global.transport.nullPartName = nullPartName)
      (run : (paimonDistributedInsertSink render vane global task reply chunk).run lstate = (r, lstate', writes))

/-- They are writes of the chunk. -/
theorem IssuedBy.chunkWrites {names : List String} {partColIdxs : List Nat} {nullPartName : String}
    {writes : List PartitionWrite} (h : IssuedBy render chunk names partColIdxs nullPartName writes)
    (hpartitioned : partColIdxs ≠ []) (hwrites : writes ≠ []) :
    ∃ columns, partColIdxs.map (chunk.columns[·]?) = columns.map some ∧
      writes <+: Write.chunkWrites render nullPartName names columns chunk := by
  cases h with
  | native reply lstate lstate' r run =>
    obtain ⟨columns, hmap, hle, -⟩ := Proc.wp_run
      (wp_sink ⟨names, partColIdxs, nullPartName⟩ reply hpartitioned lstate) run (.inl hwrites)
    exact ⟨columns, hmap, hle⟩
  | distributed Message vane global task reply lstate lstate' r hnames hidxs hnull run =>
    subst hnames hidxs hnull
    obtain ⟨columns, hmap, hle, -⟩ :=
      Proc.wp_run (wp_paimonDistributedInsertSink reply hpartitioned lstate) run (.inl hwrites)
    exact ⟨columns, hmap, hle⟩

/-- Two values of a column as far as the sinks tell them apart: equal, or one NULL and the other
rendered as the name of the NULL partition. -/
def SamePartition (render : Value → String) (nullPartName : String) (a b : Value) : Prop :=
  a = b ∨ (a.isNull = true ∧ b.isNull = false ∧ render b = nullPartName) ∨
    (b.isNull = true ∧ a.isNull = false ∧ render a = nullPartName)

theorem samePartition_of_partitionValue {nullPartName : String} {a b : Value} (htype : a.type = b.type)
    (hinj : a.isNull = false → b.isNull = false → render a = render b → a = b)
    (h : partitionValue render nullPartName a = partitionValue render nullPartName b) :
    SamePartition render nullPartName a b := by
  unfold partitionValue at h
  cases ha : a.isNull <;> cases hb : b.isNull <;> simp only [ha, hb, if_true, if_false, Bool.false_eq_true] at h
  · exact .inl (hinj ha hb h)
  · exact .inr (.inr ⟨hb, ha, h⟩)
  · exact .inr (.inl ⟨ha, hb, h.symm⟩)
  · obtain ⟨type, stored⟩ := a
    obtain ⟨type', stored'⟩ := b
    obtain rfl : type = type' := htype
    obtain rfl : stored = none := Option.isNone_iff_eq_none.1 ha
    obtain rfl : stored' = none := Option.isNone_iff_eq_none.1 hb
    exact .inl rfl

end Runs

/-! ## A chunk with a NULL -/

namespace Sample

/-- Texts render as themselves. -/
def renderText (value : Value) : String :=
  match value.stored with
  | some (.string text) => text
  | _ => "NULL"

/-- A VARCHAR column with NULL in its second row, dictionary-encoded from the back. -/
def column (first third : String) : Column where
  type := { id := .varchar }
  getIndex row := 2 - row
  rowIsValid index := index ≠ 1
  stored index := .string (if index = 2 then first else third)

def chunk (first third : String) : DataChunk := ⟨3, [column first third]⟩

theorem sink_chunk : (sink renderText ⟨["p"], [0], "N"⟩ (fun _ => .ok ()) (chunk "a" "a")).run {} =
    (.ok (), ⟨3⟩, [⟨SortedMap.empty.insert "p" "N", [1]⟩, ⟨SortedMap.empty.insert "p" "a", [0, 2]⟩]) := by
  rfl

theorem sink_chunk_collision : (sink renderText ⟨["p"], [0], "N"⟩ (fun _ => .ok ()) (chunk "a" "N")).run {} =
    (.ok (), ⟨3⟩, [⟨SortedMap.empty.insert "p" "N", [1, 2]⟩, ⟨SortedMap.empty.insert "p" "a", [0]⟩]) := by
  rfl

end Sample

/-- One successful call of either sink issues the same writes, which hold every row of the chunk
once, in order, under the partition of its values, and counts the rows of the chunk. -/
theorem sinks_partition_rows {render : Value → String} {chunk : DataChunk} {names : List String}
    {partColIdxs : List Nat} {nullPartName : String} (hne : names ≠ []) (hnodup : names.Nodup)
    (hlength : partColIdxs.length = names.length) :
    (∀ (reply : StringMap → Except Exception Unit) (lstate lstate' : PaimonInsertLocalState)
        (writes : List PartitionWrite),
      (sink render ⟨names, partColIdxs, nullPartName⟩ reply chunk).run lstate = (.ok (), lstate', writes) →
      ∃ columns, partColIdxs.map (chunk.columns[·]?) = columns.map some ∧
        PartitionsRows render nullPartName names columns chunk.size.toNat writes ∧
        writes = chunkWrites render nullPartName names columns chunk ∧
        (lstate.localCount.toNat + chunk.size.toNat < idxLimit →
          lstate'.localCount.toNat = lstate.localCount.toNat + chunk.size.toNat)) ∧
    (∀ (Message : Type) (vane : Vane) (global : PaimonDistributedInsertGlobalState Message)
        (task : DistributedWriteTaskContext) (reply : StringMap → Except Exception Unit)
        (lstate lstate' : PaimonDistributedInsertLocalState) (writes : List PartitionWrite),
      global.transport.partKeys = names → global.partColIdxs = partColIdxs →
      global.transport.nullPartName = nullPartName →
      (paimonDistributedInsertSink render vane global task reply chunk).run lstate = (.ok (), lstate', writes) →
      ∃ columns, partColIdxs.map (chunk.columns[·]?) = columns.map some ∧
        PartitionsRows render nullPartName names columns chunk.size.toNat writes ∧
        writes = chunkWrites render nullPartName names columns chunk ∧
        lstate'.rowCount.toNat = lstate.rowCount.toNat + chunk.size.toNat) := by
  have hpartitioned : partColIdxs ≠ [] := by
    rintro rfl
    exact hne (List.length_eq_zero_iff.1 hlength.symm)
  have hcolumns {columns : List Column} (h : partColIdxs.map (chunk.columns[·]?) = columns.map some) :
      columns.length = names.length := by
    have := congrArg List.length h
    rw [List.length_map, List.length_map] at this
    omega
  constructor
  · intro reply lstate lstate' writes hrun
    obtain ⟨columns, hmap, -, hok⟩ := Proc.wp_run
      (wp_sink ⟨names, partColIdxs, nullPartName⟩ reply hpartitioned lstate) hrun (.inr rfl)
    obtain ⟨rfl, rfl⟩ := hok rfl
    refine ⟨columns, hmap, groupWrites_partition hnodup (hcolumns hmap), rfl, fun hfits => ?_⟩
    rw [idxLimit] at hfits
    rw [UInt64.toNat_add, Nat.mod_eq_of_lt hfits]
  · intro Message vane global task reply lstate lstate' writes hnames hidxs hnull hrun
    subst hnames hidxs hnull
    obtain ⟨columns, hmap, -, hok⟩ :=
      Proc.wp_run (wp_paimonDistributedInsertSink reply hpartitioned lstate) hrun (.inr rfl)
    obtain ⟨rfl, -, hrows⟩ := hok rfl
    exact ⟨columns, hmap, groupWrites_partition hnodup (hcolumns hmap), rfl, hrows⟩

/-- The rows of the sample chunk. -/
theorem sinks_partition_rows_sample :
    PartitionsRows Sample.renderText "N" ["p"] [Sample.column "a" "a"] 3
      [⟨SortedMap.empty.insert "p" "N", [1]⟩, ⟨SortedMap.empty.insert "p" "a", [0, 2]⟩] := by
  obtain ⟨columns, hmap, hrows, -, -⟩ :=
    (sinks_partition_rows (List.cons_ne_nil _ _) (List.nodup_singleton _) rfl).1 _ _ _ _ Sample.sink_chunk
  obtain rfl : [Sample.column "a" "a"] = columns := List.map_injective_iff.2 (fun _ _ h => Option.some.inj h) hmap
  exact hrows

/-- Rows that either sink places in one write agree in every partition column, up to NULL and a
value rendered as the name of the NULL partition. -/
theorem rows_written_together {render : Value → String} {chunk : DataChunk} {names : List String}
    {partColIdxs : List Nat} {nullPartName : String} {writes : List PartitionWrite}
    (hissued : IssuedBy render chunk names partColIdxs nullPartName writes)
    (hinj : ∀ index ∈ partColIdxs, ∀ column, chunk.columns[index]? = some column → ∀ row row',
      (column.getValue row).isNull = false → (column.getValue row').isNull = false →
        render (column.getValue row) = render (column.getValue row') → column.getValue row = column.getValue row') :
    ∀ write ∈ writes, ∀ row ∈ write.rows, ∀ row' ∈ write.rows, ∀ index ∈ partColIdxs,
      ∃ column, chunk.columns[index]? = some column ∧
        SamePartition render nullPartName (column.getValue row) (column.getValue row') := by
  intro write hwrite row hrow row' hrow' index hindex
  have hpartitioned : partColIdxs ≠ [] := List.ne_nil_of_mem hindex
  have hwrites : writes ≠ [] := List.ne_nil_of_mem hwrite
  obtain ⟨columns, hmap, hle⟩ := hissued.chunkWrites hpartitioned hwrites
  obtain ⟨column, hcolumn, hfound⟩ : ∃ column ∈ columns, chunk.columns[index]? = some column := by
    have hmem := List.mem_map_of_mem (f := (chunk.columns[·]?)) hindex
    rw [hmap] at hmem
    obtain ⟨column, hcolumn, heq⟩ := List.mem_map.1 hmem
    exact ⟨column, hcolumn, heq.symm⟩
  obtain ⟨key, -, -, hrows⟩ := mem_groupWrites (hle.subset hwrite)
  have hkey := ((hrows row).1 hrow).2.trans ((hrows row').1 hrow').2.symm
  rw [rowKey_eq, rowKey_eq, List.map_inj_left] at hkey
  exact ⟨column, hfound, samePartition_of_partitionValue rfl
    (hinj index hindex column hfound row row') (hkey column hcolumn)⟩

/-- In the sample chunk the two equal texts are written together. -/
theorem rows_written_together_sample : ∃ column, (Sample.chunk "a" "a").columns[0]? = some column ∧
    SamePartition Sample.renderText "N" (column.getValue 0) (column.getValue 2) := by
  have hissued : IssuedBy Sample.renderText (Sample.chunk "a" "a") ["p"] [0] "N" _ :=
    .native _ _ _ _ Sample.sink_chunk
  refine rows_written_together hissued ?_
    ⟨SortedMap.empty.insert "p" "a", [0, 2]⟩ (.tail _ (.head _)) 0 (.head _) 2 (.tail _ (.head _)) 0 (.head _)
  intro index hindex column hcolumn row row' hrow hrow' hrender
  cases List.mem_singleton.1 hindex
  cases hcolumn
  simp only [Sample.column, Column.getValue, Value.isNull] at *
  simp_all [Sample.renderText]

/-- A NULL and a text that is the name of the NULL partition are written together. -/
theorem null_written_with_value :
    ∃ writes, IssuedBy Sample.renderText (Sample.chunk "a" "N") ["p"] [0] "N" writes ∧
      (∀ text text' : String, Sample.renderText ⟨{ id := .varchar }, some (.string text)⟩ =
        Sample.renderText ⟨{ id := .varchar }, some (.string text')⟩ → text = text') ∧
      ∃ write ∈ writes, 1 ∈ write.rows ∧ 2 ∈ write.rows ∧ ((Sample.column "a" "N").getValue 1).isNull = true ∧
        ((Sample.column "a" "N").getValue 2).isNull = false :=
  ⟨_, .native _ _ _ _ Sample.sink_chunk_collision, fun _ _ h => h, _, .head _, .head _, .tail _ (.head _), rfl, rfl⟩

end DuckPaimon.Write
