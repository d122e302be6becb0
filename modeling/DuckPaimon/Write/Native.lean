/-
The native INSERT (paimon_insert.cpp): `PhysicalPaimonInsert` as a sink and as the source of the row
count, and its runs under DuckDB's executor.

A sink that returns has written every row of its chunk once and counted them; Combine hands the count and
the messages of a local state over, and Finalize commits all messages in one commit.
-/
import DuckPaimon.Write.Honest

namespace DuckPaimon.Write

open Outcome

/-! ## Calls of the operator -/

/-- What a native INSERT does outside of its states. -/
inductive NativeEvent (Message : Type)
  /-- `PaimonSchemaEntry::CreateTable`. -/
  | createTable
  /-- `FileStoreWrite::Create` under a write id. -/
  | create (writeId : Int32)
  /-- `FileStoreWrite::Write`. -/
  | write (write : PartitionWrite)
  /-- A `FileStoreWrite::PrepareCommit` that returned, with its messages. -/
  | prepareCommit (messages : List (Option Message))
  /-- `FileStoreWrite::Close`. -/
  | close
  /-- `GetVaneCatalogMutationMutex` is taken. -/
  | lock
  | unlock
  /-- `FileStoreCommit::Commit`. -/
  | commit (messages : List (Option Message))
  /-- The row count is put into a chunk. -/
  | emit (rowCount : Int64)

/-- `PaimonInsertGlobalState`, with what Combine, Finalize and the source use of it. -/
structure NativeInsertGlobalState (Message : Type) extends PaimonInsertGlobalState where
  nextWriteId : Int32 := 0
  allCommitMessages : List (Option Message) := []
  tablePath : String
  insertCount : UInt64 := 0
  finished : Bool := false

/-- `PaimonInsertLocalState`, with whether it still has its writer. -/
structure NativeInsertLocalState extends PaimonInsertLocalState where
  writer : Bool := true

variable {Message : Type}

/-- What a new global state asks for: the outcome of creating the table, and the catalog. -/
structure SinkStateReplies where
  createTable : Except Exception Unit
  getTableLocation : Result String
  loadTableSchema : Result TableSchema

/-- The partition keys of a new global state, from the loaded schema. -/
def partitionedState (partKeys : List String) (tablePath : String) (schema : TableSchema) :
    Except Exception (NativeInsertGlobalState Message) :=
  match schema.dataSchema with
  | none => throw (.io "Failed to resolve Paimon data schema for partitioned insert")
  | some dataSchema => do
    let partColIdxs ← nativePartColIdxs schema.fieldNames partKeys
    return { partKeyNames := partKeys, partColIdxs, nullPartName := nullPartition dataSchema.options, tablePath }

/-- `PhysicalPaimonInsert::GetGlobalSinkState` behind the creation of its table. -/
def locateSink (insert : PhysicalPaimonInsert) (replies : SinkStateReplies) :
    Except Exception (NativeInsertGlobalState Message) := do
  let tablePath ← replies.getTableLocation.orIO
  if insert.partKeys.isEmpty then
    return { partKeyNames := [], partColIdxs := [], tablePath }
  else do
    let schema ← replies.loadTableSchema.orIO
    partitionedState insert.partKeys tablePath schema

/-- It creates the table of a CREATE TABLE AS. -/
def createSinkTable (insert : PhysicalPaimonInsert) (replies : SinkStateReplies) :
    Proc Exception (NativeEvent Message) Unit Unit :=
  if insert.info.isSome then do
    Proc.call .createTable
    Proc.ofExcept replies.createTable
  else pure ()

/-- `PhysicalPaimonInsert::GetGlobalSinkState`. -/
def getGlobalSinkState (insert : PhysicalPaimonInsert) (replies : SinkStateReplies) :
    Proc Exception (NativeEvent Message) Unit (NativeInsertGlobalState Message) := do
  createSinkTable insert replies
  Proc.ofExcept (locateSink insert replies)

/-- `PhysicalPaimonInsert::GetLocalSinkState`. -/
def getLocalSinkState (replies : WriterReplies) :
    Proc Exception (NativeEvent Message) (NativeInsertGlobalState Message) NativeInsertLocalState := do
  let gstate ← Proc.get
  -- `fetch_add` of an atomic int32 wraps around
  Proc.modify fun gstate => { gstate with nextWriteId := gstate.nextWriteId + 1 }
  Proc.ofExcept replies.context.orIO
  Proc.call (.create gstate.nextWriteId)
  Proc.ofExcept replies.writer.orIO
  return {}

/-- A procedure over the global state and one local state. -/
abbrev NativeProc (Message : Type) :=
  Proc Exception (NativeEvent Message) (NativeInsertGlobalState Message × NativeInsertLocalState)

/-- `lstate.writer->Close()`, and `lstate.writer.reset()` once it has closed. -/
def closeNativeWriter (close : Result Unit) : NativeProc Message Unit := do
  Proc.call .close
  Proc.ofExcept close.orIO
  Proc.modify fun state => (state.1, { state.2 with writer := false })

/-- `PhysicalPaimonInsert::Combine`. -/
def combine (replies : CombineReplies Message) : NativeProc Message Unit := do
  let state ← Proc.get
  if state.2.localCount = 0 then closeNativeWriter replies.close
  else do
    let messages ← Proc.ofExcept replies.prepareCommit.orIO
    Proc.call (.prepareCommit messages)
    closeNativeWriter replies.close
    Proc.modify fun state =>
      ({ state.1 with
          insertCount := state.1.insertCount + state.2.localCount
          allCommitMessages := state.1.allCommitMessages ++ messages }, state.2)

/-- What Paimon replies to Finalize. -/
structure NativeCommitReplies where
  committer : CommitterReplies
  /-- `FileStoreCommit::Commit`. -/
  commit : Result Unit

/-- Finalize under the mutation mutex. -/
def commitMessages (replies : NativeCommitReplies) :
    Proc Exception (NativeEvent Message) (NativeInsertGlobalState Message) Unit := do
  let gstate ← Proc.get
  Proc.ofExcept (createCommitter replies.committer)
  Proc.call (.commit gstate.allCommitMessages)
  Proc.ofExcept replies.commit.orIO

/-- `PhysicalPaimonInsert::Finalize`. -/
def finalize (replies : NativeCommitReplies) :
    Proc Exception (NativeEvent Message) (NativeInsertGlobalState Message) Unit := do
  let gstate ← Proc.get
  if gstate.allCommitMessages.isEmpty then pure ()
  else do
    Proc.call .lock
    tryCatch (commitMessages replies) fun failure => do
      Proc.call .unlock
      throw failure
    Proc.call .unlock

/-- `SourceResultType`, as far as the operator returns it. -/
inductive SourceResultType
  | finished | haveMoreOutput
  deriving DecidableEq, Repr

/-- `PhysicalPaimonInsert::GetDataInternal`. -/
def getDataInternal : Proc Exception (NativeEvent Message) (NativeInsertGlobalState Message) SourceResultType := do
  let gstate ← Proc.get
  if gstate.finished then return .finished
  else do
    -- `Value::BIGINT` of an `idx_t`
    Proc.call (.emit gstate.insertCount.toInt64)
    Proc.modify fun gstate => { gstate with finished := true }
    return .haveMoreOutput

/-! ## Runs under the executor -/

/-- An INSERT that runs: its states, and how far the executor is with it. -/
structure NativeState (Message : Type) where
  global : NativeInsertGlobalState Message
  locals : List NativeInsertLocalState := []
  /-- A call has thrown. -/
  failed : Bool := false
  finalized : Bool := false

/-- A call: which local state it is for, if any, and the chunk it is given. -/
inductive NativeCall
  | getLocalSinkState
  | sink (writer : Nat) (chunk : DataChunk)
  | combine (writer : Nat)
  | finalize
  | getData

/-- The chunk a call is given. -/
def NativeCall.chunk : NativeCall → Option DataChunk
  | sink _ chunk => some chunk
  | _ => none

/-- The number of its rows. -/
def NativeCall.rows (call : NativeCall) : Nat := call.chunk.elim 0 fun chunk => chunk.size.toNat

/-- A call with whether it threw, and what it did. -/
structure NativeRecord (Message : Type) where
  call : NativeCall
  result : Except Exception Unit
  events : List (NativeEvent Message)

/-- A call has thrown. -/
def threw {α : Type} : Except Exception α → Bool
  | .ok _ => false
  | .error _ => true

/-- One call, as DuckDB's executor makes them. The threads of the pipeline make local states, sink
into them and combine each of them once; a writer that is gone is not dereferenced. When all are
combined and no call threw, the INSERT is finalized, and if that returns it is read as a source. -/
inductive NativeStep (render : Value → String) (s : NativeState Message) :
    NativeRecord Message → NativeState Message → Prop
  | getLocalSinkState (replies : WriterReplies) (sinking : s.finalized = false)
      {r : Except Exception NativeInsertLocalState} {global : NativeInsertGlobalState Message}
      {events : List (NativeEvent Message)}
      (run : (Write.getLocalSinkState replies).run s.global = (r, global, events)) :
      NativeStep render s ⟨.getLocalSinkState, r.map fun _ => (), events⟩
        { s with global, locals := s.locals ++ (match r with | .ok lstate => [lstate] | .error _ => [])
                 failed := s.failed || threw r }
  | sink (writer : Nat) (reply : StringMap → Except Exception Unit) (chunk : DataChunk) (sinking : s.finalized = false)
      {lstate : NativeInsertLocalState} {lstate' : PaimonInsertLocalState} {r : Except Exception Unit}
      {writes : List PartitionWrite} (found : s.locals[writer]? = some lstate)
      (run : (Write.sink render s.global.toPaimonInsertGlobalState reply chunk).run lstate.toPaimonInsertLocalState =
        (r, lstate', writes)) (live : lstate.writer = true ∨ writes = []) :
      NativeStep render s ⟨.sink writer chunk, r, writes.map .write⟩
        { s with locals := s.locals.set writer { lstate with toPaimonInsertLocalState := lstate' }
                 failed := s.failed || threw r }
  | combine (writer : Nat) (replies : CombineReplies Message) (sinking : s.finalized = false)
      {lstate lstate' : NativeInsertLocalState} {global : NativeInsertGlobalState Message} {r : Except Exception Unit}
      {events : List (NativeEvent Message)} (found : s.locals[writer]? = some lstate) (live : lstate.writer = true)
      (run : (Write.combine replies).run (s.global, lstate) = (r, (global, lstate'), events)) :
      NativeStep render s ⟨.combine writer, r, events⟩
        { s with global, locals := s.locals.set writer lstate', failed := s.failed || threw r }
  | finalize (replies : NativeCommitReplies) (once : s.finalized = false) (succeeded : s.failed = false)
      (combined : ∀ lstate ∈ s.locals, lstate.writer = false) {r : Except Exception Unit}
      {global : NativeInsertGlobalState Message} {events : List (NativeEvent Message)}
      (run : (Write.finalize replies).run s.global = (r, global, events)) :
      NativeStep render s ⟨.finalize, r, events⟩ { s with global, finalized := true, failed := threw r }
  | getData (finalized : s.finalized = true) (succeeded : s.failed = false) {r : Except Exception SourceResultType}
      {global : NativeInsertGlobalState Message} {events : List (NativeEvent Message)}
      (run : getDataInternal.run s.global = (r, global, events)) :
      NativeStep render s ⟨.getData, r.map fun _ => (), events⟩ { s with global, failed := threw r }

/-! ## What the calls do -/

/-- The writes of an event. -/
def NativeEvent.issued : NativeEvent Message → List PartitionWrite
  | write issued => [issued]
  | _ => []

/-- The messages an event got from `PrepareCommit`. -/
def NativeEvent.prepared : NativeEvent Message → List (Option Message)
  | prepareCommit messages => messages
  | _ => []

/-- What `PrepareCommit` returned in an event. -/
def NativeEvent.replied : NativeEvent Message → Option (List (Option Message))
  | prepareCommit messages => some messages
  | _ => none

/-- What an event commits. -/
def NativeEvent.committed : NativeEvent Message → Option (List (Option Message))
  | commit messages => some messages
  | _ => none

/-- What an event reports. -/
def NativeEvent.emitted : NativeEvent Message → Option Int64
  | emit rowCount => some rowCount
  | _ => none

/-- Events that neither commit nor report. -/
def Quiet (events : List (NativeEvent Message)) : Prop :=
  events.filterMap NativeEvent.committed = [] ∧ events.filterMap NativeEvent.emitted = []

namespace NativeRecord

/-- The writes of a call, and the chunk it was given with them. -/
def writes (record : NativeRecord Message) : List PartitionWrite := record.events.flatMap NativeEvent.issued
@[inherit_doc writes] def given (record : NativeRecord Message) : Option Sunk :=
  record.call.chunk.map fun chunk => ⟨chunk, record.writes⟩

/-- The messages a call got, what it committed and what it reported. -/
def prepared (record : NativeRecord Message) : List (Option Message) := record.events.flatMap NativeEvent.prepared
@[inherit_doc prepared] def commits (record : NativeRecord Message) : List (List (Option Message)) :=
  record.events.filterMap NativeEvent.committed
@[inherit_doc prepared] def emits (record : NativeRecord Message) : List Int64 :=
  record.events.filterMap NativeEvent.emitted

end NativeRecord

/-- A sink has issued what it has written. -/
theorem native_issued_write (writes : List PartitionWrite) :
    (writes.map NativeEvent.write : List (NativeEvent Message)).flatMap NativeEvent.issued = writes := by
  rw [List.flatMap_map]
  exact List.flatMap_singleton' writes

/-- Messages come from `PrepareCommit` only. -/
theorem flatten_replied (events : List (NativeEvent Message)) :
    (events.filterMap NativeEvent.replied).flatten = events.flatMap NativeEvent.prepared := by
  induction events with
  | nil => rfl
  | cons event events ih =>
    rw [List.flatMap_cons, ← ih]
    cases event with
    | prepareCommit messages => exact List.flatten_cons
    | _ => rfl

section Calls

/-- A new global state: it has taken and counted nothing, and knows the table and its partition keys. -/
structure Located (insert : PhysicalPaimonInsert) (replies : SinkStateReplies)
    (global : NativeInsertGlobalState Message) :
    Prop where
  fresh : global.allCommitMessages = [] ∧ global.insertCount = 0 ∧ global.finished = false ∧ global.nextWriteId = 0
  tablePath : replies.getTableLocation = .ok global.tablePath
  partKeys : global.partKeyNames = insert.partKeys
  columns : insert.partKeys = [] ∧ global.partColIdxs = [] ∨
    ∃ schema dataSchema, replies.loadTableSchema = .ok schema ∧ schema.dataSchema = some dataSchema ∧
      (∀ partKey ∈ insert.partKeys, partKey ∈ schema.fieldNames) ∧
      global.partColIdxs = insert.partKeys.map schema.fieldNames.idxOf ∧
      global.nullPartName = nullPartition dataSchema.options

theorem located_of_locateSink {insert : PhysicalPaimonInsert} {replies : SinkStateReplies}
    {global : NativeInsertGlobalState Message} (h : locateSink insert replies = .ok global) :
    Located insert replies global := by
  unfold locateSink at h
  obtain ⟨tablePath, hpath, h⟩ := bind_eq_ok.1 h
  rw [orIO_eq_ok] at hpath
  split at h
  · rename_i hempty
    rw [List.isEmpty_iff] at hempty
    obtain rfl := pure_eq_ok.1 h
    exact ⟨⟨rfl, rfl, rfl, rfl⟩, hpath, hempty.symm, .inl ⟨hempty, rfl⟩⟩
  · obtain ⟨schema, hschema, h⟩ := bind_eq_ok.1 h
    rw [orIO_eq_ok] at hschema
    unfold partitionedState at h
    split at h
    · cases h
    · rename_i dataSchema hdata
      obtain ⟨partColIdxs, hcolumns, h⟩ := bind_eq_ok.1 h
      obtain rfl := pure_eq_ok.1 h
      obtain ⟨hmem, rfl⟩ := findPartColIdxs_eq_ok.1 hcolumns
      exact ⟨⟨rfl, rfl, rfl, rfl⟩, hpath, rfl, .inr ⟨schema, dataSchema, hschema, hdata, hmem, rfl, rfl⟩⟩

theorem wp_getGlobalSinkState (insert : PhysicalPaimonInsert) (replies : SinkStateReplies) :
    (getGlobalSinkState insert replies).wp () fun r _ (_ : List (NativeEvent Message)) =>
      ∀ global, r = .ok global → Located insert replies global := by
  unfold getGlobalSinkState createSinkTable
  rw [Proc.wp_bind, Proc.wp_ite]
  split
  · simp only [Proc.wp_bind, Proc.wp_call, Proc.wp_ofExcept]
    cases replies.createTable with
    | error e => rintro global ⟨⟩
    | ok u => exact fun global h => located_of_locateSink h
  · simp only [Proc.wp_pure, Proc.wp_ofExcept]
    exact fun global h => located_of_locateSink h

theorem wp_getLocalSinkState (replies : WriterReplies) (gstate : NativeInsertGlobalState Message) :
    (getLocalSinkState replies).wp gstate fun r gstate' events =>
      gstate' = { gstate with nextWriteId := gstate.nextWriteId + 1 } ∧ (∀ lstate, r = .ok lstate → lstate = {}) ∧
        Quiet events ∧ events.flatMap NativeEvent.prepared = [] ∧ events.flatMap NativeEvent.issued = [] := by
  unfold getLocalSinkState
  simp only [Proc.wp_bind, Proc.wp_get, Proc.wp_modify, Proc.wp_ofExcept, Proc.wp_call, Proc.wp_pure]
  cases replies.context.orIO with
  | error e => exact ⟨trivial, by rintro _ ⟨⟩, ⟨rfl, rfl⟩, rfl, rfl⟩
  | ok u =>
    cases replies.writer.orIO with
    | error e => exact ⟨trivial, by rintro _ ⟨⟩, ⟨rfl, rfl⟩, rfl, rfl⟩
    | ok u => exact ⟨trivial, by rintro _ ⟨⟩; rfl, ⟨rfl, rfl⟩, rfl, rfl⟩

/-- A sink that throws leaves the local state; one that returns has written every row of the chunk once, and
counted them. -/
theorem wp_sink_rows {render : Value → String} {chunk : DataChunk} (gstate : PaimonInsertGlobalState)
    (reply : StringMap → Except Exception Unit) (lstate : PaimonInsertLocalState) :
    (sink render gstate reply chunk).wp lstate fun r lstate' writes =>
      (∃ e, r = .error e) ∧ lstate' = lstate ∨
        r = .ok () ∧ (writes.flatMap PartitionWrite.rows).Perm (List.range chunk.size.toNat) ∧
          lstate' = ⟨lstate.localCount + chunk.size⟩ := by
  unfold sink
  rw [Proc.wp_ite]
  split
  · unfold writeRows
    simp only [Proc.wp_bind, Proc.wp_call, Proc.wp_ofExcept, Proc.wp_modify]
    cases reply (wholeWrite chunk).partition with
    | error e => exact .inl ⟨⟨e, rfl⟩, trivial⟩
    | ok u => exact .inr ⟨trivial, wholeWrite_rows, trivial⟩
  · rw [Proc.wp_bind, Proc.wp_ofExcept]
    cases chunk.partFormats gstate.partColIdxs with
    | error e => exact .inl ⟨⟨e, rfl⟩, rfl⟩
    | ok columns =>
      show Proc.wp _ _ _
      rw [Proc.wp_bind, nativeGroups_eq]
      refine Proc.wp_mono (wp_writeAll reply
        (chunkWrites render gstate.nullPartName gstate.partKeyNames columns chunk) lstate) ?_
      rintro (e | u) lstate' writes ⟨rfl, -, hissued⟩
      · exact .inl ⟨⟨e, rfl⟩, rfl⟩
      · show Proc.wp (Proc.modify _) _ _
        rw [Proc.wp_modify, hissued rfl]
        refine .inr ⟨rfl, ?_, rfl⟩
        rw [List.nil_append, List.append_nil]
        exact chunkWrites_rows

/-- A Combine that throws leaves both states; one that returns has closed the writer and taken its
messages and rows. A writer without rows prepares no message. -/
theorem wp_combine (replies : CombineReplies Message) (s : NativeInsertGlobalState Message × NativeInsertLocalState) :
    (combine replies).wp s fun r s' events => Quiet events ∧ events.flatMap NativeEvent.issued = [] ∧
      ((∃ e, r = .error e) ∧ s' = s ∨ r = .ok () ∧
        (s.2.localCount = 0 ∧ events.filterMap NativeEvent.replied = [] ∨
          s.2.localCount ≠ 0 ∧ events.filterMap NativeEvent.replied = [events.flatMap NativeEvent.prepared]) ∧
        s' = ({ s.1 with insertCount := s.1.insertCount + s.2.localCount
                         allCommitMessages := s.1.allCommitMessages ++ events.flatMap NativeEvent.prepared },
          { s.2 with writer := false })) := by
  unfold combine closeNativeWriter
  rw [Proc.wp_bind, Proc.wp_get]
  show Proc.wp _ _ _
  rw [Proc.wp_ite]
  split
  · rename_i hzero
    simp only [Proc.wp_bind, Proc.wp_call, Proc.wp_ofExcept, Proc.wp_modify]
    cases replies.close.orIO with
    | error e => exact ⟨⟨rfl, rfl⟩, rfl, .inl ⟨⟨e, rfl⟩, trivial⟩⟩
    | ok u =>
      refine ⟨⟨rfl, rfl⟩, rfl, .inr ⟨trivial, .inl ⟨hzero, rfl⟩, ?_⟩⟩
      rw [hzero, UInt64.add_zero]
      show _ = (({ s.1 with allCommitMessages := s.1.allCommitMessages ++ [] } : NativeInsertGlobalState Message), _)
      rw [List.append_nil]
  · rename_i hrows
    rw [Proc.wp_bind, Proc.wp_ofExcept]
    cases replies.prepareCommit.orIO with
    | error e => exact ⟨⟨rfl, rfl⟩, rfl, .inl ⟨⟨e, rfl⟩, rfl⟩⟩
    | ok messages =>
      simp only [Proc.wp_bind, Proc.wp_call, Proc.wp_ofExcept, Proc.wp_modify]
      cases replies.close.orIO with
      | error e => exact ⟨⟨rfl, rfl⟩, rfl, .inl ⟨⟨e, rfl⟩, trivial⟩⟩
      | ok u =>
        refine ⟨⟨rfl, rfl⟩, rfl, .inr ⟨trivial, .inr ⟨hrows, ?_⟩, ?_⟩⟩
        · show [messages] = [messages ++ []]
          rw [List.append_nil]
        show _ = (({ s.1 with insertCount := _, allCommitMessages := s.1.allCommitMessages ++ (messages ++ []) } :
          NativeInsertGlobalState Message), _)
        rw [List.append_nil]

/-- Finalize leaves the state. It commits all messages, if there are any, and returns once that is done. -/
theorem wp_finalize (replies : NativeCommitReplies) (gstate : NativeInsertGlobalState Message) :
    (finalize replies).wp gstate fun r gstate' events => gstate' = gstate ∧
      events.flatMap NativeEvent.prepared = [] ∧ events.flatMap NativeEvent.issued = [] ∧
      events.filterMap NativeEvent.emitted = [] ∧
      (gstate.allCommitMessages = [] ∧ r = .ok () ∧ events.filterMap NativeEvent.committed = [] ∨
        gstate.allCommitMessages ≠ [] ∧
          ((∃ e, r = .error e) ∧ events.filterMap NativeEvent.committed = [] ∨
            events.filterMap NativeEvent.committed = [gstate.allCommitMessages])) := by
  unfold finalize commitMessages
  rw [Proc.wp_bind, Proc.wp_get]
  show Proc.wp _ _ _
  rw [Proc.wp_ite]
  split
  · rename_i hempty
    exact (Proc.wp_pure _ _ _).2 ⟨rfl, rfl, rfl, rfl, .inl ⟨List.isEmpty_iff.1 hempty, rfl, rfl⟩⟩
  · rename_i hsome
    rw [List.isEmpty_iff] at hsome
    simp only [Proc.wp_bind, Proc.wp_call, Proc.wp_tryCatch, Proc.wp_get, Proc.wp_ofExcept]
    cases createCommitter replies.committer with
    | error e =>
      simp only [Proc.wp_throw]
      exact ⟨trivial, rfl, rfl, rfl, .inr ⟨hsome, .inl ⟨⟨e, rfl⟩, rfl⟩⟩⟩
    | ok u =>
      cases replies.commit.orIO with
      | error e =>
        simp only [Proc.wp_throw]
        exact ⟨trivial, rfl, rfl, rfl, .inr ⟨hsome, .inr rfl⟩⟩
      | ok u => exact ⟨trivial, rfl, rfl, rfl, .inr ⟨hsome, .inr rfl⟩⟩

/-- The source reports the count once. -/
theorem wp_getDataInternal (gstate : NativeInsertGlobalState Message) :
    getDataInternal.wp gstate fun r gstate' events => (∃ a, r = .ok a) ∧ gstate' = { gstate with finished := true } ∧
      events.flatMap NativeEvent.prepared = [] ∧ events.flatMap NativeEvent.issued = [] ∧
      events.filterMap NativeEvent.committed = [] ∧
      events.filterMap NativeEvent.emitted = (if gstate.finished then [] else [gstate.insertCount.toInt64]) := by
  unfold getDataInternal
  rw [Proc.wp_bind, Proc.wp_get]
  show Proc.wp _ _ _
  rw [Proc.wp_ite]
  split
  · rename_i hfinished
    refine (Proc.wp_pure _ _ _).2 ⟨⟨_, rfl⟩, ?_, rfl, rfl, rfl, rfl⟩
    rw [← hfinished]
  · simp only [Proc.wp_bind, Proc.wp_call, Proc.wp_modify, Proc.wp_pure]
    exact ⟨⟨_, rfl⟩, trivial, rfl, rfl, rfl, rfl⟩

end Calls

end DuckPaimon.Write
