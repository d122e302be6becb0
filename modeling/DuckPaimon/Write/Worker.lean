/-
A worker of a distributed write (paimon_distributed_insert.cpp): its global state, its local
writers, and the steps by which the messages the writers prepare are published or aborted.

What Paimon replies in a call is a parameter of the call. `WorkerStep` lets the calls of any number
of local writers follow each other in any order; a commit message that `PrepareCommit` returns is a
new object.
-/
import DuckPaimon.Lib.Run
import DuckPaimon.Write.Sink
import DuckPaimon.Write.Select

namespace DuckPaimon.Write

open Outcome

/-! ## Calls of a worker -/

/-- What a worker does to its writers and messages. -/
inductive WorkerEvent (Message : Type)
  /-- `FileStoreWrite::Write`. -/
  | write (write : PartitionWrite)
  /-- A `FileStoreWrite::PrepareCommit` that returned, with its messages, some of them null. -/
  | prepareCommit (messages : List (Option Message))
  /-- `FileStoreWrite::Close`. -/
  | close
  /-- `BestEffortAbortMessages`, which swallows whatever fails in it. -/
  | bestEffortAbort (messages : List (Option Message))
  /-- `CommitMessage::SerializeList`, with what it replied. -/
  | serializeList (messages : List Message) (reply : Result String)

variable {Message : Type}

/-- `BuildRuntimeOptions` of a worker, from the options `GetPaimonOptions` returns. -/
def workerRuntimeOptions (rt : Runtime) (paimonOptions : Except Exception StringMap) (transport : InsertTransport)
    (task : DistributedWriteTaskContext) : Except Exception StringMap := do
  let options ← paimonOptions
  let result := transport.portableOptions.entries.foldl (fun result option => result.insert option.1 option.2) options
  return result.insert dataFilePrefix (workerDataFilePrefix rt transport.operationId task)

/-- `PaimonDistributedInsertInitializeGlobal`. -/
def paimonDistributedInsertInitializeGlobal (rt : Runtime) (vane : Vane) (paimonOptions : Except Exception StringMap)
    (info : DistributedExtensionWriteInfo) (task : DistributedWriteTaskContext) :
    Except Exception (PaimonDistributedInsertGlobalState Message) := do
  throwIf (info.mode ≠ .callbackSink ∨ info.fragmentCodec.name ≠ writeFragmentCodec ∨
      info.fragmentCodec.version ≠ protocolVersion)
    (.invalidInput "Distributed Paimon write worker contract does not match its registered protocol")
  vane.validateTask task
  let transport ← deserializeTransport rt info.workerBindData
  let operatorName ← writeOperatorName transport.writeKind
  throwIf (info.name ≠ operatorName)
    (.invalidInput "Distributed Paimon write kind does not match its registered worker operator")
  let options ← workerRuntimeOptions rt paimonOptions transport task
  let partColIdxs ← workerPartColIdxs transport.inputNames transport.partKeys
  return { transport, options, queryId := task.queryId, taskAttemptId := task.taskAttemptId
           writerCommitUser := workerCommitUser rt transport.operationId task, partColIdxs }

/-- What Paimon replies when a local writer is made. -/
structure WriterReplies where
  /-- `WriteContextBuilder::Finish`. -/
  context : Result Unit
  /-- `FileStoreWrite::Create`. -/
  writer : Result Unit

/-- `PaimonDistributedInsertInitializeLocal`. -/
def paimonDistributedInsertInitializeLocal (vane : Vane) (task : DistributedWriteTaskContext) (replies : WriterReplies) :
    Proc Exception (WorkerEvent Message) (PaimonDistributedInsertGlobalState Message)
      PaimonDistributedInsertLocalState := do
  let global ← Proc.get
  Proc.ofExcept (validateTask vane global task)
  Proc.modify fun global => { global with nextWriteId := global.nextWriteId + 1 }
  throwIf (global.nextWriteId > 2147483647)
    (.invalidInput "Distributed Paimon INSERT worker exhausted its write identities")
  Proc.ofExcept replies.context.orIO
  Proc.ofExcept replies.writer.orIO
  return {}

/-- What Paimon replies to a local writer that is combined. -/
structure CombineReplies (Message : Type) where
  /-- `FileStoreWrite::PrepareCommit`. -/
  prepareCommit : Result (List (Option Message))
  /-- `FileStoreWrite::Close`. -/
  close : Result Unit
  /-- `global.messages.reserve`. -/
  reserve : Except Exception Unit := .ok ()

/-- A procedure over the global state and one local state of a worker. -/
abbrev WorkerProc (Message : Type) :=
  Proc Exception (WorkerEvent Message) (PaimonDistributedInsertGlobalState Message × PaimonDistributedInsertLocalState)

/-- `local.writer->Close(); local.writer.reset();`. -/
def closeWriter : WorkerProc Message Unit := do
  Proc.call .close
  Proc.modify fun state => (state.1, { state.2 with writer := false })

/-- The messages are moved to the global state. -/
def takeMessages (replies : CombineReplies Message) (messages : List Message) : WorkerProc Message Unit := do
  let state ← Proc.get
  let combinedRowCount ← Proc.ofExcept (checkedAdd state.1.rowCount state.2.rowCount "task row count")
  throwIf (messages.length > idxMaximum.toNat - state.1.messages.length)
    (.invalidInput "Distributed Paimon INSERT worker produced too many commit messages")
  Proc.ofExcept replies.reserve
  Proc.modify fun state =>
    ({ state.1 with messages := state.1.messages ++ messages, rowCount := combinedRowCount }, state.2)

/-- `PaimonDistributedInsertCombine` behind a `PrepareCommit` that returned. -/
def combineMessages (replies : CombineReplies Message) (messages : List (Option Message)) : WorkerProc Message Unit := do
  closeWriter
  match replies.close with
  | .error status => do
    Proc.call (.bestEffortAbort messages)
    throw (.io status.text)
  | .ok _ => do
    throwIf (messages.isEmpty = true)
      (.io "Distributed Paimon INSERT writer returned no commit messages for non-empty input")
    match messages.mapM id with
    | none => do
      Proc.call (.bestEffortAbort ((messages.filterMap id).map some))
      throw (.io "Distributed Paimon INSERT writer returned an empty commit message")
    | some valid =>
      tryCatch (takeMessages replies valid) fun failure => do
        Proc.call (.bestEffortAbort messages)
        throw failure

/-- `PaimonDistributedInsertCombine`. -/
def paimonDistributedInsertCombine (vane : Vane) (task : DistributedWriteTaskContext) (replies : CombineReplies Message) :
    WorkerProc Message Unit := do
  let state ← Proc.get
  Proc.ofExcept (validateTask vane state.1 task)
  throwIf (state.2.writer = false) (.internal "Distributed Paimon INSERT local writer was already combined")
  if state.2.rowCount = 0 then do
    closeWriter
    Proc.ofExcept replies.close.orIO
  else
    match replies.prepareCommit with
    | .error status => do
      closeWriter
      throw (.io status.text)
    | .ok messages => do
      Proc.call (.prepareCommit messages)
      combineMessages replies messages

/-- What the finalization of a worker runs into. -/
structure FinalizeReplies (Message : Type) where
  /-- `CommitMessage::SerializeList`. -/
  serializeList : List Message → Result String
  /-- The construction of the fragment around the serialized envelope. -/
  construction : Except Exception Unit := .ok ()

/-- The envelope of a worker's messages. -/
def workerEnvelope (currentVersion : Int32) (task : DistributedWriteTaskContext)
    (global : PaimonDistributedInsertGlobalState Message) (serializedTransport serializedMessages : String) :
    CommitEnvelope where
  operationId := global.transport.operationId
  tableUuid := global.transport.tableUuid
  tablePath := global.transport.tablePath
  schemaFingerprint := global.transport.schemaFingerprint
  schemaId := global.transport.schemaId
  hasSnapshot := global.transport.hasSnapshot
  snapshotId := global.transport.snapshotId
  commitIdentifier := global.transport.commitIdentifier
  queryId := task.queryId
  taskAttemptId := task.taskAttemptId
  writerCommitUser := global.writerCommitUser
  commitMessageVersion := currentVersion
  messageCount := UInt64.ofNat global.messages.length
  rowCount := global.rowCount
  serializedTransport
  serializedMessages

/-- `PaimonDistributedInsertFinalize`. -/
def paimonDistributedInsertFinalize (rt : Runtime) (vane : Vane) (currentVersion : Int32)
    (task : DistributedWriteTaskContext) (replies : FinalizeReplies Message) :
    Proc Exception (WorkerEvent Message) (PaimonDistributedInsertGlobalState Message) (List DistributedWriteFragment) := do
  let global ← Proc.get
  Proc.ofExcept (validateTask vane global task)
  throwIf (global.finalized = true) (.invalidInput "Distributed Paimon INSERT worker finalized more than once")
  Proc.modify fun global => { global with finalized := true }
  if global.messages.isEmpty then do
    throwIf (global.rowCount ≠ 0) (.internal "Distributed Paimon INSERT lost commit messages for non-empty input")
    return []
  else do
    throwIf (global.rowCount = 0) (.internal "Distributed Paimon INSERT produced commit messages for empty input")
    let serialized := replies.serializeList global.messages
    Proc.call (.serializeList global.messages serialized)
    match serialized with
    | .error status => do
      Proc.call (.bestEffortAbort (global.messages.map some))
      throw (.io status.text)
    | .ok serializedMessages => do
      let serializedTransport ← Proc.ofExcept (serializeTransport rt global.transport)
      let envelope := workerEnvelope currentVersion task global serializedTransport serializedMessages
      Proc.ofExcept replies.construction
      Proc.modify fun global => { global with messages := [] }
      return [{ fragmentId := expectedFragmentId global.transport.operationId task.taskAttemptId
                payload := serializeCommitEnvelope rt envelope
                rowCount := global.rowCount
                byteCount := 0 }]

/-! ## Runs of a worker -/

/-- A worker: its global state, its local states in the order they were made, and the messages
`PrepareCommit` has returned to it so far. -/
structure WorkerState (Message : Type) where
  global : PaimonDistributedInsertGlobalState Message
  locals : List PaimonDistributedInsertLocalState := []
  allocated : List Message := []

/-- A call: which local state it is for, if any, and the chunk it is given. -/
inductive WorkerCall
  | initializeLocal
  | sink (writer : Nat) (chunk : DataChunk)
  | combine (writer : Nat)
  | finalize

/-- The chunk a call is given. -/
def WorkerCall.chunk : WorkerCall → Option DataChunk
  | sink _ chunk => some chunk
  | _ => none

/-- The number of its rows. -/
def WorkerCall.rows (call : WorkerCall) : Nat := call.chunk.elim 0 fun chunk => chunk.size.toNat

/-- A call with the fragments it returned, if it did, and what it did. -/
structure WorkerRecord (Message : Type) where
  call : WorkerCall
  result : Except Exception (List DistributedWriteFragment)
  events : List (WorkerEvent Message)

/-- The writes of an event. -/
def WorkerEvent.issued : WorkerEvent Message → List PartitionWrite
  | .write issued => [issued]
  | _ => []

/-- The messages a step got from `PrepareCommit`. -/
def WorkerEvent.prepared : WorkerEvent Message → List Message
  | .prepareCommit messages => messages.filterMap id
  | _ => []

/-- The messages a step handed to `BestEffortAbortMessages`. -/
def WorkerEvent.aborted : WorkerEvent Message → List Message
  | .bestEffortAbort messages => messages.filterMap id
  | _ => []

namespace WorkerRecord

/-- The writes of a call, and the chunk it was given with them. -/
def writes (record : WorkerRecord Message) : List PartitionWrite := record.events.flatMap WorkerEvent.issued
@[inherit_doc writes] def given (record : WorkerRecord Message) : Option Sunk :=
  record.call.chunk.map fun chunk => ⟨chunk, record.writes⟩

/-- What was got and aborted in a call. -/
def prepared (record : WorkerRecord Message) : List Message := record.events.flatMap WorkerEvent.prepared
@[inherit_doc prepared] def aborted (record : WorkerRecord Message) : List Message :=
  record.events.flatMap WorkerEvent.aborted

/-- The fragments a call returned. -/
def fragments (record : WorkerRecord Message) : List DistributedWriteFragment :=
  match record.result with
  | .ok fragments => fragments
  | .error _ => []

end WorkerRecord

section Steps

variable (rt : Runtime) (vane : Vane) (currentVersion : Int32) (render : Value → String)

/-- One call. -/
inductive WorkerStep (s : WorkerState Message) : WorkerRecord Message → WorkerState Message → Prop
  | initializeLocal (task : DistributedWriteTaskContext) (replies : WriterReplies)
      {r : Except Exception PaimonDistributedInsertLocalState} {global : PaimonDistributedInsertGlobalState Message}
      {events : List (WorkerEvent Message)}
      (run : (paimonDistributedInsertInitializeLocal vane task replies).run s.global = (r, global, events)) :
      WorkerStep s ⟨.initializeLocal, r.map fun _ => [], events⟩
        { s with global, locals := s.locals ++ (match r with | .ok writer => [writer] | .error _ => []) }
  | sink (writer : Nat) (task : DistributedWriteTaskContext) (reply : StringMap → Except Exception Unit)
      (chunk : DataChunk) {lstate lstate' : PaimonDistributedInsertLocalState} {r : Except Exception Unit}
      {writes : List PartitionWrite} (found : s.locals[writer]? = some lstate)
      (run : (paimonDistributedInsertSink render vane s.global task reply chunk).run lstate = (r, lstate', writes)) :
      WorkerStep s ⟨.sink writer chunk, r.map fun _ => [], writes.map .write⟩
        { s with locals := s.locals.set writer lstate' }
  | combine (writer : Nat) (task : DistributedWriteTaskContext) (replies : CombineReplies Message)
      {lstate lstate' : PaimonDistributedInsertLocalState} {global : PaimonDistributedInsertGlobalState Message}
      {r : Except Exception Unit} {events : List (WorkerEvent Message)} (found : s.locals[writer]? = some lstate)
      (run : (paimonDistributedInsertCombine vane task replies).run (s.global, lstate) = (r, (global, lstate'), events))
      (fresh : (s.allocated ++ events.flatMap WorkerEvent.prepared).Nodup) :
      WorkerStep s ⟨.combine writer, r.map fun _ => [], events⟩
        { global, locals := s.locals.set writer lstate'
          allocated := s.allocated ++ events.flatMap WorkerEvent.prepared }
  | finalize (task : DistributedWriteTaskContext) (replies : FinalizeReplies Message)
      {r : Except Exception (List DistributedWriteFragment)} {global : PaimonDistributedInsertGlobalState Message}
      {events : List (WorkerEvent Message)}
      (run : (paimonDistributedInsertFinalize rt vane currentVersion task replies).run s.global = (r, global, events)) :
      WorkerStep s ⟨.finalize, r, events⟩ { s with global }

/-- `~PaimonDistributedInsertGlobalState`. -/
def WorkerState.destroy (s : WorkerState Message) : List (WorkerEvent Message) :=
  [.bestEffortAbort (s.global.messages.map some)]

end Steps

/-! ## What a call does to the messages -/

theorem filterMap_id_map_some (messages : List Message) : (messages.map some).filterMap id = messages := by
  rw [List.filterMap_map]
  exact List.filterMap_some

/-- If no entry is null, the valid messages are all messages. -/
theorem filterMap_id_of_mapM {messages : List (Option Message)} {valid : List Message}
    (h : messages.mapM id = some valid) : messages.filterMap id = valid := by
  induction messages generalizing valid with
  | nil => cases h; rfl
  | cons message messages ih =>
    rw [List.mapM_cons] at h
    cases message with
    | none => cases h
    | some message =>
      obtain ⟨head, hhead, h⟩ := Option.bind_eq_some_iff.1 h
      obtain ⟨rest, hrest, h⟩ := Option.bind_eq_some_iff.1 h
      cases hhead
      cases h
      show message :: messages.filterMap id = _
      rw [ih hrest]

/-- What a call on the global state does to the messages it holds: those the call got are added to
them, or else aborted. -/
structure HandsOver (global global' : PaimonDistributedInsertGlobalState Message) (events : List (WorkerEvent Message)) :
    Prop where
  finalized : global'.finalized = global.finalized
  fits : global.messages.length < idxLimit → global'.messages.length < idxLimit
  messages : (global'.messages = global.messages ∧
      events.flatMap WorkerEvent.aborted = events.flatMap WorkerEvent.prepared) ∨
    (global'.messages = global.messages ++ events.flatMap WorkerEvent.prepared ∧
      events.flatMap WorkerEvent.aborted = [])

theorem wp_takeMessages (replies : CombineReplies Message) (messages : List Message)
    (s : PaimonDistributedInsertGlobalState Message × PaimonDistributedInsertLocalState) :
    (takeMessages replies messages).wp s fun r s' events => events = [] ∧ s'.1.finalized = s.1.finalized ∧
      ((∃ e, r = .error e) ∧ s' = s ∨ r = .ok () ∧ s'.1.messages = s.1.messages ++ messages ∧
        (s.1.messages.length < idxLimit → s'.1.messages.length < idxLimit)) := by
  unfold takeMessages
  rw [Proc.wp_bind, Proc.wp_get]
  show Proc.wp _ _ _
  rw [Proc.wp_bind, Proc.wp_ofExcept]
  cases checkedAdd s.1.rowCount s.2.rowCount "task row count" with
  | error e => exact ⟨rfl, rfl, .inl ⟨⟨e, rfl⟩, rfl⟩⟩
  | ok total =>
    show Proc.wp _ _ _
    rw [Proc.wp_bind, Proc.wp_throwIf]
    split
    · exact ⟨rfl, rfl, .inl ⟨⟨_, rfl⟩, rfl⟩⟩
    · rename_i hcount
      show Proc.wp _ _ _
      rw [Proc.wp_bind, Proc.wp_ofExcept]
      cases replies.reserve with
      | error e => exact ⟨rfl, rfl, .inl ⟨⟨e, rfl⟩, rfl⟩⟩
      | ok u =>
        refine (Proc.wp_modify _ _ _).2 ⟨rfl, rfl, .inr ⟨rfl, rfl, fun hlength => ?_⟩⟩
        have hmax : idxMaximum.toNat = 2 ^ 64 - 1 := rfl
        rw [hmax] at hcount
        rw [idxLimit] at hlength ⊢
        rw [List.length_append]
        omega

/-- Behind a `PrepareCommit` that returned, the messages are taken or aborted, however the call
ends. -/
theorem wp_combineMessages (replies : CombineReplies Message) (messages : List (Option Message))
    (s : PaimonDistributedInsertGlobalState Message × PaimonDistributedInsertLocalState) :
    (combineMessages replies messages).wp s fun _ s' events =>
      HandsOver s.1 s'.1 (.prepareCommit messages :: events) := by
  unfold combineMessages closeWriter
  simp only [Proc.wp_bind, Proc.wp_call, Proc.wp_modify]
  cases replies.close with
  | error status =>
    show Proc.wp _ _ _
    simp only [Proc.wp_bind, Proc.wp_call, Proc.wp_throw]
    exact ⟨rfl, id, .inl ⟨rfl, rfl⟩⟩
  | ok u =>
    show Proc.wp _ _ _
    rw [Proc.wp_bind, Proc.wp_throwIf]
    split
    · rename_i hempty
      rw [List.isEmpty_iff] at hempty
      subst hempty
      exact ⟨rfl, id, .inl ⟨rfl, rfl⟩⟩
    · show Proc.wp _ _ _
      cases hvalid : messages.mapM id with
      | none =>
        show Proc.wp _ _ _
        simp only [Proc.wp_bind, Proc.wp_call, Proc.wp_throw]
        refine ⟨rfl, id, .inl ⟨rfl, ?_⟩⟩
        show ((messages.filterMap id).map some).filterMap id ++ [] = messages.filterMap id ++ []
        rw [filterMap_id_map_some]
      | some valid =>
        have hprepared : messages.filterMap id = valid := filterMap_id_of_mapM hvalid
        show Proc.wp _ _ _
        rw [Proc.wp_tryCatch]
        refine Proc.wp_mono (wp_takeMessages replies valid _) ?_
        rintro (e | u) s' events ⟨rfl, hfinalized, h⟩
        · rcases h with ⟨-, rfl⟩ | ⟨hok, -⟩
          · simp only [Proc.wp_bind, Proc.wp_call, Proc.wp_throw]
            exact ⟨rfl, id, .inl ⟨rfl, rfl⟩⟩
          · cases hok
        · rcases h with ⟨⟨e, herror⟩, -⟩ | ⟨-, hmessages, hfits⟩
          · cases herror
          · refine ⟨hfinalized, hfits, .inr ⟨?_, rfl⟩⟩
            rw [hmessages, ← hprepared]
            show _ = s.1.messages ++ (messages.filterMap id ++ [])
            rw [List.append_nil]

/-- So does every call of Combine. -/
theorem wp_paimonDistributedInsertCombine {vane : Vane} {task : DistributedWriteTaskContext}
    (replies : CombineReplies Message)
    (s : PaimonDistributedInsertGlobalState Message × PaimonDistributedInsertLocalState) :
    (paimonDistributedInsertCombine vane task replies).wp s fun _ s' events => HandsOver s.1 s'.1 events := by
  unfold paimonDistributedInsertCombine
  rw [Proc.wp_bind, Proc.wp_get]
  show Proc.wp _ _ _
  rw [Proc.wp_bind, Proc.wp_ofExcept]
  cases validateTask vane s.1 task with
  | error e => exact ⟨rfl, id, .inl ⟨rfl, rfl⟩⟩
  | ok u =>
    show Proc.wp _ _ _
    rw [Proc.wp_bind, Proc.wp_throwIf]
    split
    · exact ⟨rfl, id, .inl ⟨rfl, rfl⟩⟩
    · show Proc.wp _ _ _
      rw [Proc.wp_ite]
      split
      · unfold closeWriter
        simp only [Proc.wp_bind, Proc.wp_call, Proc.wp_modify, Proc.wp_ofExcept]
        exact ⟨rfl, id, .inl ⟨rfl, rfl⟩⟩
      · cases replies.prepareCommit with
        | error status =>
          unfold closeWriter
          simp only [Proc.wp_bind, Proc.wp_call, Proc.wp_modify, Proc.wp_throw]
          exact ⟨rfl, id, .inl ⟨rfl, rfl⟩⟩
        | ok messages =>
          rw [Proc.wp_bind, Proc.wp_call]
          exact wp_combineMessages replies messages s

theorem wp_paimonDistributedInsertInitializeLocal {vane : Vane} {task : DistributedWriteTaskContext}
    (replies : WriterReplies) (global : PaimonDistributedInsertGlobalState Message) :
    (paimonDistributedInsertInitializeLocal vane task replies).wp global fun _ global' events =>
      events = [] ∧ HandsOver global global' [] := by
  unfold paimonDistributedInsertInitializeLocal
  rw [Proc.wp_bind, Proc.wp_get]
  show Proc.wp _ _ _
  rw [Proc.wp_bind, Proc.wp_ofExcept]
  cases validateTask vane global task with
  | error e => exact ⟨rfl, rfl, id, .inl ⟨rfl, rfl⟩⟩
  | ok u =>
    show Proc.wp _ _ _
    rw [Proc.wp_bind, Proc.wp_modify]
    show Proc.wp _ _ _
    rw [Proc.wp_bind, Proc.wp_throwIf]
    split
    · exact ⟨rfl, rfl, id, .inl ⟨rfl, rfl⟩⟩
    · show Proc.wp _ _ _
      simp only [Proc.wp_bind, Proc.wp_ofExcept, Proc.wp_pure]
      cases replies.context.orIO <;> cases replies.writer.orIO <;> exact ⟨rfl, rfl, id, .inl ⟨rfl, rfl⟩⟩

/-- What a finalization leaves: it publishes all messages in one fragment and holds none of them any
more, or it publishes none and holds them all, having aborted them or not. Behind its first checks
it never runs again. -/
structure Finalizes (global global' : PaimonDistributedInsertGlobalState Message)
    (r : Except Exception (List DistributedWriteFragment)) (events : List (WorkerEvent Message)) : Prop where
  prepared : events.flatMap WorkerEvent.prepared = []
  finalized : global.finalized = true → global'.finalized = true
  messages : (∃ fragment, r = .ok [fragment] ∧ global.finalized = false ∧ global'.finalized = true ∧
      events.flatMap WorkerEvent.aborted = [] ∧ global'.messages = []) ∨
    ((r = .ok [] ∨ ∃ e, r = .error e) ∧ global'.messages = global.messages ∧
      (events.flatMap WorkerEvent.aborted = [] ∨
        events.flatMap WorkerEvent.aborted = global.messages ∧ global'.finalized = true))

theorem wp_paimonDistributedInsertFinalize {rt : Runtime} {vane : Vane} {currentVersion : Int32}
    {task : DistributedWriteTaskContext} (replies : FinalizeReplies Message)
    (global : PaimonDistributedInsertGlobalState Message) :
    (paimonDistributedInsertFinalize rt vane currentVersion task replies).wp global fun r global' events =>
      Finalizes global global' r events := by
  unfold paimonDistributedInsertFinalize
  rw [Proc.wp_bind, Proc.wp_get]
  show Proc.wp _ _ _
  rw [Proc.wp_bind, Proc.wp_ofExcept]
  cases validateTask vane global task with
  | error e => exact ⟨rfl, id, .inr ⟨.inr ⟨e, rfl⟩, rfl, .inl rfl⟩⟩
  | ok u =>
    show Proc.wp _ _ _
    rw [Proc.wp_bind, Proc.wp_throwIf]
    split
    · exact ⟨rfl, id, .inr ⟨.inr ⟨_, rfl⟩, rfl, .inl rfl⟩⟩
    rename_i hopen
    rw [Bool.not_eq_true] at hopen
    show Proc.wp _ _ _
    rw [Proc.wp_bind, Proc.wp_modify]
    show Proc.wp _ _ _
    rw [Proc.wp_ite]
    split
    · rw [Proc.wp_bind, Proc.wp_throwIf]
      split
      · exact ⟨rfl, fun _ => rfl, .inr ⟨.inr ⟨_, rfl⟩, rfl, .inl rfl⟩⟩
      · exact (Proc.wp_pure _ _ _).2 ⟨rfl, fun _ => rfl, .inr ⟨.inl rfl, rfl, .inl rfl⟩⟩
    · rw [Proc.wp_bind, Proc.wp_throwIf]
      split
      · exact ⟨rfl, fun _ => rfl, .inr ⟨.inr ⟨_, rfl⟩, rfl, .inl rfl⟩⟩
      show Proc.wp _ _ _
      rw [Proc.wp_bind, Proc.wp_call]
      show Proc.wp _ _ _
      cases replies.serializeList global.messages with
      | error status =>
        show Proc.wp _ _ _
        simp only [Proc.wp_bind, Proc.wp_call, Proc.wp_throw]
        refine ⟨rfl, fun _ => rfl, .inr ⟨.inr ⟨_, rfl⟩, rfl, .inr ⟨?_, rfl⟩⟩⟩
        show (global.messages.map some).filterMap id ++ [] = global.messages
        rw [filterMap_id_map_some, List.append_nil]
      | ok serializedMessages =>
        show Proc.wp _ _ _
        simp only [Proc.wp_bind, Proc.wp_ofExcept, Proc.wp_modify, Proc.wp_pure]
        cases serializeTransport rt global.transport with
        | error e => exact ⟨rfl, fun _ => rfl, .inr ⟨.inr ⟨_, rfl⟩, rfl, .inl rfl⟩⟩
        | ok serializedTransport =>
          cases replies.construction with
          | error e => exact ⟨rfl, fun _ => rfl, .inr ⟨.inr ⟨_, rfl⟩, rfl, .inl rfl⟩⟩
          | ok u => exact ⟨rfl, fun _ => rfl, .inl ⟨_, rfl, hopen, rfl, rfl, rfl⟩⟩

/-- A Sink has issued what it has written. -/
theorem issued_write (writes : List PartitionWrite) :
    (writes.map WorkerEvent.write : List (WorkerEvent Message)).flatMap WorkerEvent.issued = writes := by
  rw [List.flatMap_map]
  exact List.flatMap_singleton' writes

/-! ## What a run returns -/

/-- What was got, aborted and returned in a run. -/
def preparedIn (history : List (WorkerRecord Message)) : List Message := history.flatMap WorkerRecord.prepared
@[inherit_doc preparedIn] def abortedIn (history : List (WorkerRecord Message)) : List Message :=
  history.flatMap WorkerRecord.aborted
@[inherit_doc preparedIn] def fragmentsIn (history : List (WorkerRecord Message)) : List DistributedWriteFragment :=
  history.flatMap WorkerRecord.fragments

section History

variable (history : List (WorkerRecord Message)) (record : WorkerRecord Message)

theorem preparedIn_snoc : preparedIn (history ++ [record]) = preparedIn history ++ record.prepared := by
  simp [preparedIn]

theorem abortedIn_snoc : abortedIn (history ++ [record]) = abortedIn history ++ record.aborted := by
  simp [abortedIn]

theorem fragmentsIn_snoc : fragmentsIn (history ++ [record]) = fragmentsIn history ++ record.fragments := by
  simp [fragmentsIn]

end History

/-- A call other than a finalization returns no fragment. -/
theorem fragments_map {α : Type} (r : Except Exception α) (call : WorkerCall) (events : List (WorkerEvent Message)) :
    (WorkerRecord.mk call (r.map fun _ => []) events).fragments = [] := by
  cases r <;> rfl

/-- A worker that is not finalized has returned no fragment, and one that is has returned one at most. -/
structure Returned (history : List (WorkerRecord Message)) (s : WorkerState Message) : Prop where
  none : s.global.finalized = false → fragmentsIn history = []
  single : (fragmentsIn history).length ≤ 1

/-- A call that leaves the worker as far as it was returns nothing new. -/
theorem Returned.silent {history : List (WorkerRecord Message)} {s s' : WorkerState Message}
    {record : WorkerRecord Message} (h : Returned history s) (hfragments : record.fragments = [])
    (hfinalized : s.global.finalized = true → s'.global.finalized = true) : Returned (history ++ [record]) s' := by
  have hsame : fragmentsIn (history ++ [record]) = fragmentsIn history := by
    rw [fragmentsIn_snoc, hfragments, List.append_nil]
  refine ⟨fun hopen => ?_, hsame ▸ h.single⟩
  rw [hsame]
  refine h.none ?_
  by_contra hfinal
  rw [Bool.not_eq_false] at hfinal
  exact absurd ((hfinalized hfinal).symm.trans hopen) Bool.noConfusion

section Runs

variable {rt : Runtime} {vane : Vane} {currentVersion : Int32} {render : Value → String}

/-- What a finalization is not, its calls hand the messages over. -/
theorem WorkerStep.handsOver {s s' : WorkerState Message} {record : WorkerRecord Message}
    (hstep : WorkerStep rt vane currentVersion render s record s') (hcall : record.call ≠ .finalize) :
    HandsOver s.global s'.global record.events ∧ record.fragments = [] ∧
      s'.allocated = s.allocated ++ record.prepared ∧ (s.allocated.Nodup → s'.allocated.Nodup) := by
  cases hstep with
  | initializeLocal task replies run =>
    obtain ⟨rfl, hhands⟩ := Proc.wp_run (wp_paimonDistributedInsertInitializeLocal replies s.global) run
    exact ⟨hhands, fragments_map _ _ _, (List.append_nil _).symm, id⟩
  | @sink writer task reply chunk _ _ _ writes found run =>
    -- a Sink does nothing but write
    have hquiet (f : WorkerEvent Message → List Message) (hf : ∀ write, f (.write write) = []) :
        (writes.map WorkerEvent.write).flatMap f = [] := by
      simp [List.flatMap_eq_nil_iff, hf]
    refine ⟨⟨rfl, id, .inl ⟨rfl, ?_⟩⟩, fragments_map _ _ _, ?_, id⟩
    · rw [hquiet _ fun _ => rfl, hquiet _ fun _ => rfl]
    · show s.allocated = s.allocated ++ _
      rw [WorkerRecord.prepared, hquiet _ fun _ => rfl, List.append_nil]
  | combine writer task replies found run fresh =>
    exact ⟨Proc.wp_run (wp_paimonDistributedInsertCombine replies (s.global, _)) run, fragments_map _ _ _, rfl,
      fun _ => fresh⟩
  | finalize => exact absurd rfl hcall

/-- Every call keeps the invariant. -/
theorem Returned.step {history : List (WorkerRecord Message)} {s s' : WorkerState Message}
    {record : WorkerRecord Message} (h : Returned history s)
    (hstep : WorkerStep rt vane currentVersion render s record s') : Returned (history ++ [record]) s' := by
  by_cases hcall : record.call = .finalize
  · cases hstep with
    | finalize task replies run =>
      have hfinalizes := Proc.wp_run (wp_paimonDistributedInsertFinalize replies s.global) run
      rcases hfinalizes.messages with ⟨fragment, rfl, hopen, hfinal, -, -⟩ | ⟨hresult, -, -⟩
      · refine ⟨fun hopen' => absurd (hfinal.symm.trans hopen') Bool.noConfusion, ?_⟩
        rw [fragmentsIn_snoc, h.none hopen]
        exact Nat.le_refl 1
      · refine h.silent ?_ hfinalizes.finalized
        rcases hresult with rfl | ⟨e, rfl⟩ <;> rfl
    | initializeLocal => cases hcall
    | sink => cases hcall
    | combine => cases hcall
  · obtain ⟨hhands, hfragments, -, -⟩ := hstep.handsOver hcall
    exact h.silent hfragments fun hfinal => hhands.finalized.trans hfinal

theorem Returned.run {global : PaimonDistributedInsertGlobalState Message} {history : List (WorkerRecord Message)}
    {s : WorkerState Message} (run : Run (WorkerStep rt vane currentVersion render) { global } history s) :
    Returned history s :=
  run.invariant ⟨fun _ => rfl, Nat.zero_le _⟩ Returned.step

/-- A new global state holds no message and has counted no row. -/
theorem paimonDistributedInsertInitializeGlobal_empty {paimonOptions : Except Exception StringMap}
    {info : DistributedExtensionWriteInfo} {task : DistributedWriteTaskContext}
    {global : PaimonDistributedInsertGlobalState Message}
    (h : paimonDistributedInsertInitializeGlobal rt vane paimonOptions info task = .ok global) :
    global.messages = [] ∧ global.rowCount = 0 := by
  unfold paimonDistributedInsertInitializeGlobal at h
  obtain ⟨-, h⟩ := throwIf_bind_eq_ok.1 h
  obtain ⟨-, -, h⟩ := bind_eq_ok.1 h
  obtain ⟨transport, -, h⟩ := bind_eq_ok.1 h
  obtain ⟨name, -, h⟩ := bind_eq_ok.1 h
  obtain ⟨-, h⟩ := throwIf_bind_eq_ok.1 h
  obtain ⟨options, -, h⟩ := bind_eq_ok.1 h
  obtain ⟨indices, -, h⟩ := bind_eq_ok.1 h
  obtain rfl := pure_eq_ok.1 h
  exact ⟨rfl, rfl⟩

end Runs

/-! ## A worker with one writer -/

namespace Sample

def task : DistributedWriteTaskContext := ⟨"q", "q.1.0.0"⟩

def workerInfo : DistributedExtensionWriteInfo := { info with workerBindData := writeTransport runtime transport }

def worker : PaimonDistributedInsertGlobalState String where
  transport := transport
  options := (SortedMap.empty : StringMap).insert dataFilePrefix
    (workerDataFilePrefix runtime transport.operationId task)
  queryId := "q"
  taskAttemptId := "q.1.0.0"
  writerCommitUser := workerCommitUser runtime transport.operationId task
  partColIdxs := []

theorem initializeGlobal_worker :
    paimonDistributedInsertInitializeGlobal runtime .counting (.ok .empty) workerInfo task = .ok worker := by
  have hserialized : serializeTransport runtime transport = .ok (writeTransport runtime transport) := decodable.2
  unfold paimonDistributedInsertInitializeGlobal
  rw [throwIf_bind_eq_ok]
  refine ⟨by decide, bind_eq_ok.2 ⟨(), rfl, bind_eq_ok.2 ⟨transport, ?_, ?_⟩⟩⟩
  · exact deserializeTransport_serializeTransport binaryFormat_lawful hserialized
  · rfl

def oneRow : DataChunk := ⟨1, [⟨{ id := .integer }, id, fun _ => true, fun _ => .int 7⟩]⟩

/-- One writer takes a row and is combined. -/
def workerHistory : List (WorkerRecord String) :=
  [⟨.initializeLocal, .ok [], []⟩, ⟨.sink 0 oneRow, .ok [], [.write ⟨.empty, [0]⟩]⟩,
    ⟨.combine 0, .ok [], [.prepareCommit [some "data-0.orc"], .close]⟩]

def combined : WorkerState String where
  global := { worker with nextWriteId := 1, messages := ["data-0.orc"], rowCount := 1 }
  locals := [{ writer := false, rowCount := 1 }]
  allocated := ["data-0.orc"]

theorem run_workerHistory :
    Run (WorkerStep runtime .counting 1 fun _ => "") { global := worker } workerHistory combined := by
  have hnew : WorkerStep runtime .counting 1 (fun _ => "") { global := worker }
      ⟨.initializeLocal, (Except.ok {}).map fun (_ : PaimonDistributedInsertLocalState) => [], []⟩
      { global := { worker with nextWriteId := 1 }, locals := [{}] } :=
    .initializeLocal task ⟨.ok (), .ok ()⟩ rfl
  have hsink : WorkerStep runtime .counting 1 (fun _ => "")
      { global := { worker with nextWriteId := 1 }, locals := [{}] }
      ⟨.sink 0 oneRow, (Except.ok ()).map fun _ => [], [⟨.empty, [0]⟩].map .write⟩
      { global := { worker with nextWriteId := 1 }, locals := [{ rowCount := 1 }] } :=
    .sink 0 task (fun _ => .ok ()) oneRow rfl rfl
  have hcombine : WorkerStep runtime .counting 1 (fun _ => "")
      { global := { worker with nextWriteId := 1 }, locals := [{ rowCount := 1 }] }
      ⟨.combine 0, (Except.ok ()).map fun _ => [], [.prepareCommit [some "data-0.orc"], .close]⟩ combined :=
    .combine 0 task ⟨.ok [some "data-0.orc"], .ok (), .ok ()⟩ rfl rfl (by decide)
  exact .snoc (.snoc (.snoc .nil hnew) hsink) hcombine

end Sample

end DuckPaimon.Write
