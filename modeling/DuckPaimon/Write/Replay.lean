/-
A distributed INSERT refines the native one (paimon_distributed_insert.cpp, paimon_insert.cpp): the calls
of its workers can be made, one worker after the other, by the executor of a native INSERT into the same
target, with the same writes. What the coordinator commits and counts is what the native INSERT does.
-/
import DuckPaimon.Write.Accounting
import DuckPaimon.Write.Baseline
import DuckPaimon.Write.Books

namespace DuckPaimon.Write

open Outcome

variable {Message : Type}

/-! ## A call at a time -/

/-- A native sink and a worker of a transport are aimed at the same partitions. -/
structure SameSink (gstate : PaimonInsertGlobalState) (transport : InsertTransport)
    (partColIdxs : List Nat) : Prop where
  columns : gstate.partColIdxs = partColIdxs
  names : gstate.partKeyNames = transport.partKeys
  nullPartName : partColIdxs ≠ [] → gstate.nullPartName = transport.nullPartName

section Calls

variable {vane : Vane} {render : Value → String} {task : DistributedWriteTaskContext}

theorem wp_writeAll_accepted {σ : Type} {reply : StringMap → Except Exception Unit} {writes : List PartitionWrite}
    (haccepted : ∀ write ∈ writes, reply write.partition = .ok ()) (s : σ) :
    (writeAll reply writes : Proc Exception PartitionWrite σ Unit).wp s fun r s' issued =>
      r = .ok () ∧ s' = s ∧ issued = writes := by
  induction writes with
  | nil => exact (Proc.wp_pure _ _ _).2 ⟨rfl, rfl, rfl⟩
  | cons write writes ih =>
    rw [List.forall_mem_cons] at haccepted
    rw [writeAll, writeRows]
    simp only [Proc.wp_bind, Proc.wp_call, Proc.wp_ofExcept, haccepted.1]
    refine Proc.wp_mono (ih haccepted.2) ?_
    rintro r s' issued ⟨rfl, rfl, rfl⟩
    exact ⟨rfl, rfl, rfl⟩

theorem wp_writePaimonChunk_accepted (reply : StringMap → Except Exception Unit) (write : PartitionWrite)
    (lstate : PaimonDistributedInsertLocalState) :
    (writePaimonChunk reply write).wp lstate fun r _ _ => r = .ok () → reply write.partition = .ok () := by
  unfold writePaimonChunk writeRows
  rw [Proc.wp_bind, Proc.wp_get]
  show Proc.wp _ _ _
  rw [Proc.wp_ite]
  split
  · simp only [Proc.wp_bind, Proc.wp_call, Proc.wp_ofExcept]
    exact id
  · simp only [Proc.wp_bind, Proc.wp_throw, Proc.wp_ofExcept]
    cases reply write.partition with
    | error e => exact id
    | ok u => rintro ⟨⟩

/-- The batches of a worker that were written are accepted. -/
theorem wp_writePaimonChunks_accepted (reply : StringMap → Except Exception Unit) (writes : List PartitionWrite)
    (lstate : PaimonDistributedInsertLocalState) :
    (writePaimonChunks reply writes).wp lstate fun r _ _ =>
      r = .ok () → ∀ write ∈ writes, reply write.partition = .ok () := by
  induction writes generalizing lstate with
  | nil => exact (Proc.wp_pure _ _ _).2 fun _ write hmem => by cases hmem
  | cons write writes ih =>
    rw [writePaimonChunks, Proc.wp_bind]
    refine Proc.wp_mono (wp_writePaimonChunk_accepted reply write lstate) ?_
    rintro (e | u) lstate' issued haccepted
    · rintro ⟨⟩
    · refine Proc.wp_mono (ih lstate') ?_
      intro r lstate'' issued' hall hr
      exact List.forall_mem_cons.2 ⟨haccepted rfl, hall hr⟩

/-- What a Sink of a worker that returns has done: its batches were accepted, and its rows are counted. -/
structure Sinks (render : Value → String) (global : PaimonDistributedInsertGlobalState Message)
    (reply : StringMap → Except Exception Unit) (chunk : DataChunk) (lstate lstate' : PaimonDistributedInsertLocalState)
    (writes : List PartitionWrite) : Prop where
  writer : lstate'.writer = lstate.writer
  live : lstate.writer = true ∨ writes = []
  counted : lstate'.rowCount = lstate.rowCount + chunk.size
  accepted : ∀ write ∈ writes, reply write.partition = .ok ()
  issued : global.partColIdxs = [] ∧ writes = [wholeWrite chunk] ∨
    global.partColIdxs ≠ [] ∧ ∃ columns, chunk.partFormats global.partColIdxs = .ok columns ∧
      writes = chunkWrites render global.transport.nullPartName global.transport.partKeys columns chunk

theorem wp_paimonDistributedInsertSink_ok {global : PaimonDistributedInsertGlobalState Message}
    (reply : StringMap → Except Exception Unit) {chunk : DataChunk} (lstate : PaimonDistributedInsertLocalState) :
    (paimonDistributedInsertSink render vane global task reply chunk).wp lstate fun r lstate' writes =>
      r = .ok () → Sinks render global reply chunk lstate lstate' writes := by
  unfold paimonDistributedInsertSink
  rw [Proc.wp_bind, Proc.wp_ofExcept]
  cases validateTask vane global task with
  | error e => rintro ⟨⟩
  | ok u =>
    show Proc.wp _ _ _
    rw [Proc.wp_bind, Proc.wp_throwIf]
    split
    · rintro ⟨⟩
    show Proc.wp _ _ _
    rw [Proc.wp_ite]
    split
    · rename_i hwhole
      rw [List.isEmpty_iff] at hwhole
      rw [Proc.wp_bind]
      refine Proc.wp_mono (Proc.wp_and (wp_writePaimonChunk reply (wholeWrite chunk) lstate)
        (wp_writePaimonChunk_accepted reply (wholeWrite chunk) lstate)) ?_
      rintro (e | u) lstate' writes ⟨⟨rfl, -, hissued⟩, haccepted⟩
      · rintro ⟨⟩
      · obtain ⟨rfl, hwriter⟩ := hissued rfl
        refine Proc.wp_mono (wp_addRows lstate') ?_
        rintro r lstate'' writes ⟨rfl, ⟨⟨e, rfl⟩, -⟩ | ⟨-, hsame, hrows⟩⟩
        · rintro ⟨⟩
        · refine fun _ => ⟨hsame, .inl hwriter, counted_of_toNat hrows, ?_, .inl ⟨hwhole, List.append_nil _⟩⟩
          show ∀ write ∈ [wholeWrite chunk], _
          rw [List.forall_mem_singleton]
          exact haccepted rfl
    · rename_i hsome
      rw [List.isEmpty_iff] at hsome
      rw [Proc.wp_bind, Proc.wp_ofExcept]
      cases hformats : chunk.partFormats global.partColIdxs with
      | error e => rintro ⟨⟩
      | ok columns =>
        show Proc.wp _ _ _
        rw [Proc.wp_bind]
        refine Proc.wp_mono (Proc.wp_and (wp_writePaimonChunks reply
            (chunkWrites render global.transport.nullPartName global.transport.partKeys columns chunk) lstate)
          (wp_writePaimonChunks_accepted reply _ lstate)) ?_
        rintro (e | u) lstate' writes ⟨⟨rfl, -, hissued⟩, haccepted⟩
        · rintro ⟨⟩
        · obtain ⟨rfl, hwriter⟩ := hissued rfl
          refine Proc.wp_mono (wp_addRows lstate') ?_
          rintro r lstate'' writes ⟨rfl, ⟨⟨e, rfl⟩, -⟩ | ⟨-, hsame, hrows⟩⟩
          · rintro ⟨⟩
          · have hall : (([] : List PartitionWrite) ++
                (chunkWrites render global.transport.nullPartName global.transport.partKeys columns chunk ++ [])) =
                chunkWrites render global.transport.nullPartName global.transport.partKeys columns chunk := by
              rw [List.nil_append, List.append_nil]
            refine fun _ => ⟨hsame, ?_, counted_of_toNat hrows, ?_, .inr ⟨hsome, columns, hformats, hall⟩⟩
            · rw [hall]
              exact hwriter
            · rw [hall]
              exact haccepted rfl

/-- The native sink makes the same writes of the same chunk. -/
theorem Sinks.replay {global : PaimonDistributedInsertGlobalState Message} {reply : StringMap → Except Exception Unit}
    {chunk : DataChunk} {lstate lstate' : PaimonDistributedInsertLocalState} {writes : List PartitionWrite}
    (h : Sinks render global reply chunk lstate lstate' writes) {gstate : PaimonInsertGlobalState}
    (htarget : SameSink gstate global.transport global.partColIdxs) :
    (sink render gstate reply chunk).run ⟨lstate.rowCount⟩ = (.ok (), ⟨lstate'.rowCount⟩, writes) := by
  refine Proc.run_eq ?_
  unfold sink
  rw [htarget.columns, h.counted]
  rcases h.issued with ⟨hwhole, rfl⟩ | ⟨hsome, columns, hformats, rfl⟩
  · have haccepted := h.accepted
    rw [List.forall_mem_singleton] at haccepted
    rw [hwhole]
    unfold writeRows
    simp only [List.isEmpty_nil, if_true, Proc.wp_bind, Proc.wp_call, Proc.wp_ofExcept, Proc.wp_modify, haccepted]
    exact ⟨trivial, trivial, rfl⟩
  · rw [if_neg (by rwa [List.isEmpty_iff]), Proc.wp_bind, Proc.wp_ofExcept, hformats]
    show Proc.wp _ _ _
    rw [Proc.wp_bind, nativeGroups_eq, htarget.names, htarget.nullPartName hsome]
    refine Proc.wp_mono (wp_writeAll_accepted h.accepted _) ?_
    rintro r s' issued ⟨rfl, rfl, rfl⟩
    show Proc.wp (Proc.modify _) _ _
    rw [Proc.wp_modify, List.nil_append, List.append_nil]
    exact ⟨rfl, rfl, rfl⟩

/-- What a new local state of a worker asks for, a native one asks for. -/
theorem wp_paimonDistributedInsertInitializeLocal_replies (replies : WriterReplies)
    (global : PaimonDistributedInsertGlobalState Message) :
    (paimonDistributedInsertInitializeLocal vane task replies :
        Proc Exception (WorkerEvent Message) (PaimonDistributedInsertGlobalState Message) _).wp global fun r _ _ =>
      ∀ lstate, r = .ok lstate → replies.context.orIO = .ok () ∧ replies.writer.orIO = .ok () := by
  unfold paimonDistributedInsertInitializeLocal
  rw [Proc.wp_bind, Proc.wp_get]
  show Proc.wp _ _ _
  rw [Proc.wp_bind, Proc.wp_ofExcept]
  cases validateTask vane global task with
  | error e => rintro lstate ⟨⟩
  | ok u =>
    show Proc.wp _ _ _
    rw [Proc.wp_bind, Proc.wp_modify]
    show Proc.wp _ _ _
    rw [Proc.wp_bind, Proc.wp_throwIf]
    split
    · rintro lstate ⟨⟩
    · show Proc.wp _ _ _
      simp only [Proc.wp_bind, Proc.wp_ofExcept, Proc.wp_pure]
      cases replies.context.orIO with
      | error e => rintro lstate ⟨⟩
      | ok u =>
        cases replies.writer.orIO with
        | error e => rintro lstate ⟨⟩
        | ok u => exact fun _ _ => ⟨rfl, rfl⟩

theorem wp_getLocalSinkState_accepted {replies : WriterReplies} (hcontext : replies.context.orIO = .ok ())
    (hwriter : replies.writer.orIO = .ok ()) (gstate : NativeInsertGlobalState Message) :
    (getLocalSinkState replies).wp gstate fun r gstate' events =>
      r = .ok {} ∧ gstate' = { gstate with nextWriteId := gstate.nextWriteId + 1 } ∧
        events = [.create gstate.nextWriteId] := by
  unfold getLocalSinkState
  simp only [Proc.wp_bind, Proc.wp_get, Proc.wp_modify, Proc.wp_ofExcept, Proc.wp_call, Proc.wp_pure, hcontext, hwriter]
  exact ⟨trivial, trivial, rfl⟩

/-- What Paimon replied to a Combine of a worker that returned: a local writer with rows has prepared the
messages that were taken, none of them null. -/
def CombinedWith (replies : CombineReplies Message) (lstate : PaimonDistributedInsertLocalState)
    (taken : List Message) : Prop :=
  replies.close.orIO = .ok () ∧
    (lstate.rowCount = 0 ∧ taken = [] ∨ lstate.rowCount ≠ 0 ∧ replies.prepareCommit.orIO = .ok (taken.map some))

theorem map_some_of_mapM {messages : List (Option Message)} {valid : List Message} (h : messages.mapM id = some valid) :
    messages = valid.map some := by
  induction messages generalizing valid with
  | nil => cases h; rfl
  | cons message messages ih =>
    rw [List.mapM_cons] at h
    obtain ⟨head, hhead, h⟩ := Option.bind_eq_some_iff.1 h
    obtain ⟨rest, hrest, h⟩ := Option.bind_eq_some_iff.1 h
    obtain rfl : head :: rest = valid := Option.some.inj h
    rw [List.map_cons, ← ih hrest]
    exact congrArg (· :: messages) hhead

theorem wp_combineMessages_replies (replies : CombineReplies Message) (messages : List (Option Message))
    (s : PaimonDistributedInsertGlobalState Message × PaimonDistributedInsertLocalState) :
    (combineMessages replies messages).wp s fun r _ events => r = .ok () →
      replies.close.orIO = .ok () ∧ messages = (messages.filterMap id).map some ∧
        events.flatMap WorkerEvent.prepared = [] := by
  unfold combineMessages closeWriter
  simp only [Proc.wp_bind, Proc.wp_call, Proc.wp_modify]
  cases hclose : replies.close with
  | error status =>
    show Proc.wp _ _ _
    simp only [Proc.wp_bind, Proc.wp_call, Proc.wp_throw]
    rintro ⟨⟩
  | ok u =>
    show Proc.wp _ _ _
    rw [Proc.wp_bind, Proc.wp_throwIf]
    split
    · rintro ⟨⟩
    · show Proc.wp _ _ _
      cases hvalid : messages.mapM id with
      | none =>
        show Proc.wp _ _ _
        simp only [Proc.wp_bind, Proc.wp_call, Proc.wp_throw]
        rintro ⟨⟩
      | some valid =>
        show Proc.wp _ _ _
        rw [Proc.wp_tryCatch]
        refine Proc.wp_mono (wp_takeMessages replies valid _) ?_
        rintro (e | u) s' events ⟨rfl, -⟩
        · simp only [Proc.wp_bind, Proc.wp_call, Proc.wp_throw]
          rintro ⟨⟩
        · intro _
          rw [filterMap_id_of_mapM hvalid]
          exact ⟨rfl, map_some_of_mapM hvalid, rfl⟩

theorem wp_paimonDistributedInsertCombine_replies (replies : CombineReplies Message)
    (s : PaimonDistributedInsertGlobalState Message × PaimonDistributedInsertLocalState) :
    (paimonDistributedInsertCombine vane task replies).wp s fun r _ events =>
      r = .ok () → CombinedWith replies s.2 (events.flatMap WorkerEvent.prepared) := by
  unfold paimonDistributedInsertCombine
  rw [Proc.wp_bind, Proc.wp_get]
  show Proc.wp _ _ _
  rw [Proc.wp_bind, Proc.wp_ofExcept]
  cases validateTask vane s.1 task with
  | error e => rintro ⟨⟩
  | ok u =>
    show Proc.wp _ _ _
    rw [Proc.wp_bind, Proc.wp_throwIf]
    split
    · rintro ⟨⟩
    · show Proc.wp _ _ _
      rw [Proc.wp_ite]
      split
      · rename_i hzero
        unfold closeWriter
        simp only [Proc.wp_bind, Proc.wp_call, Proc.wp_modify, Proc.wp_ofExcept]
        exact fun hclose => ⟨hclose, .inl ⟨hzero, rfl⟩⟩
      · rename_i hrows
        cases hprepare : replies.prepareCommit with
        | error status =>
          unfold closeWriter
          simp only [Proc.wp_bind, Proc.wp_call, Proc.wp_modify, Proc.wp_throw]
          rintro ⟨⟩
        | ok messages =>
          rw [Proc.wp_bind, Proc.wp_call]
          refine Proc.wp_mono (wp_combineMessages_replies replies messages s) ?_
          intro r s' events hreplies hr
          obtain ⟨hclose, hmessages, hprepared⟩ := hreplies hr
          refine ⟨hclose, .inr ⟨hrows, ?_⟩⟩
          rw [hprepare]
          show Except.ok messages = .ok ((messages.filterMap id ++ events.flatMap WorkerEvent.prepared).map some)
          rw [hprepared, List.append_nil, ← hmessages]

/-- The native Combine takes the same messages and rows. -/
theorem CombinedWith.replay {replies : CombineReplies Message} {lstate : PaimonDistributedInsertLocalState}
    {taken : List Message} (h : CombinedWith replies lstate taken) (gstate : NativeInsertGlobalState Message)
    {lstate' : NativeInsertLocalState} (hcount : lstate'.localCount = lstate.rowCount) :
    (combine replies).wp (gstate, lstate') fun r s' events => r = .ok () ∧
      s' = ({ gstate with insertCount := gstate.insertCount + lstate.rowCount
                          allCommitMessages := gstate.allCommitMessages ++ taken.map some },
        { lstate' with writer := false }) ∧ events.flatMap NativeEvent.issued = [] := by
  unfold combine closeNativeWriter
  rw [Proc.wp_bind, Proc.wp_get]
  show Proc.wp _ _ _
  rw [Proc.wp_ite]
  dsimp only
  rw [hcount]
  rcases h with ⟨hclose, ⟨hzero, rfl⟩ | ⟨hrows, hprepare⟩⟩
  · rw [if_pos hzero]
    simp only [Proc.wp_bind, Proc.wp_call, Proc.wp_ofExcept, Proc.wp_modify, hclose]
    refine ⟨trivial, ?_, rfl⟩
    rw [hzero, UInt64.add_zero, List.map_nil, List.append_nil]
  · rw [if_neg hrows]
    simp only [Proc.wp_bind, Proc.wp_call, Proc.wp_ofExcept, Proc.wp_modify, hclose, hprepare]
    exact ⟨trivial, by rw [hcount], rfl⟩

end Calls

/-! ## A worker at a time -/

/-- A native local state that mirrors one of a worker. -/
def MirroredBy (lstate : NativeInsertLocalState) (worker : PaimonDistributedInsertLocalState) : Prop :=
  lstate.localCount = worker.rowCount ∧ lstate.writer = worker.writer

/-- The states of a native INSERT that has made the calls of a worker since `base`. -/
structure Mirrors (base ns : NativeState Message) (s : WorkerState Message) : Prop where
  sink : ns.global.toPaimonInsertGlobalState = base.global.toPaimonInsertGlobalState
  target : SameSink base.global.toPaimonInsertGlobalState s.global.transport s.global.partColIdxs
  running : ns.failed = false ∧ ns.finalized = false
  locals : ∃ locals, ns.locals = base.locals ++ locals ∧ List.Forall₂ MirroredBy locals s.locals
  messages : ns.global.allCommitMessages = base.global.allCommitMessages ++ s.global.messages.map some
  count : ns.global.insertCount = base.global.insertCount + s.global.rowCount

/-- A native call that returned, with the same chunk and writes. -/
def Replays (render : Value → String) (base ns : NativeState Message) (record : WorkerRecord Message)
    (s' : WorkerState Message) : Prop :=
  ∃ nrecord ns', NativeStep render ns nrecord ns' ∧ nrecord.result = .ok () ∧ nrecord.writes = record.writes ∧
    nrecord.given = record.given ∧ Mirrors base ns' s'

section Mirrors

variable {rt : Runtime} {vane : Vane} {currentVersion : Int32} {render : Value → String} {base ns : NativeState Message}
  {s s' : WorkerState Message} {record : WorkerRecord Message}

theorem mirrors_start {global : PaimonDistributedInsertGlobalState Message} (hmessages : global.messages = [])
    (hrows : global.rowCount = 0) (hrunning : base.failed = false ∧ base.finalized = false)
    (htarget : SameSink base.global.toPaimonInsertGlobalState global.transport global.partColIdxs) :
    Mirrors base base { global } := by
  refine ⟨rfl, htarget, hrunning, ⟨[], (List.append_nil _).symm, .nil⟩, ?_, ?_⟩
  · rw [hmessages, List.map_nil, List.append_nil]
  · rw [hrows, UInt64.add_zero]

/-- The native local state of a local writer, and what replaces it. -/
theorem Mirrors.found (h : Mirrors base ns s) {writer : Nat} {worker : PaimonDistributedInsertLocalState}
    (found : s.locals[writer]? = some worker) :
    ∃ lstate, ns.locals[base.locals.length + writer]? = some lstate ∧ MirroredBy lstate worker ∧
      ∀ lstate' worker', MirroredBy lstate' worker' →
        ∃ locals, ns.locals.set (base.locals.length + writer) lstate' = base.locals ++ locals ∧
          List.Forall₂ MirroredBy locals (s.locals.set writer worker') := by
  obtain ⟨locals, hlocals, hmirrored⟩ := h.locals
  obtain ⟨hbound, rfl⟩ := List.getElem?_eq_some_iff.1 found
  have hbound' : writer < locals.length := hmirrored.length_eq.symm ▸ hbound
  refine ⟨locals[writer], ?_, hmirrored.get hbound' hbound, fun lstate' worker' hnew => ?_⟩
  · rw [hlocals, List.getElem?_append_right (Nat.le_add_right _ _), Nat.add_sub_cancel_left]
    exact List.getElem?_eq_getElem hbound'
  · refine ⟨locals.set writer lstate', ?_, forall₂_set hmirrored writer hnew⟩
    rw [hlocals, List.set_append_right _ _ (Nat.le_add_right _ _), Nat.add_sub_cancel_left]

/-- Every returning call of a worker is replayed. -/
theorem Mirrors.step (h : Mirrors base ns s) (hstep : WorkerStep rt vane currentVersion render s record s')
    (hreturns : ∃ fragments, record.result = .ok fragments) (hworking : record.call ≠ .finalize) :
    Replays render base ns record s' := by
  obtain ⟨fragments, hreturns⟩ := hreturns
  cases hstep with
  | initializeLocal task replies run =>
    rename_i r global events
    cases r with
    | error e => cases hreturns
    | ok lstate =>
      -- it replied well, so the native call gets its writer too
      obtain ⟨rfl, rfl, rfl⟩ := Proc.wp_run (wp_paimonDistributedInsertInitializeLocal_ok replies s.global) run _ rfl
      obtain ⟨hcontext, hwriter⟩ :=
        Proc.wp_run (wp_paimonDistributedInsertInitializeLocal_replies replies s.global) run _ rfl
      have hrun := Proc.run_eq (wp_getLocalSinkState_accepted hcontext hwriter ns.global)
      refine ⟨_, _, .getLocalSinkState replies h.running.2 hrun, rfl, rfl, rfl, h.sink, h.target, ?_, ?_,
        h.messages, h.count⟩
      · exact ⟨by rw [h.running.1]; rfl, h.running.2⟩
      · obtain ⟨locals, hlocals, hmirrored⟩ := h.locals
        refine ⟨locals ++ [{}], ?_, List.rel_append hmirrored (.cons ⟨rfl, rfl⟩ .nil)⟩
        show ns.locals ++ [({} : NativeInsertLocalState)] = _
        rw [hlocals, List.append_assoc]
  | sink writer task reply chunk found run =>
    rename_i lstate lstate' r writes
    cases r with
    | error e => cases hreturns
    | ok u =>
      have hsinks := Proc.wp_run (wp_paimonDistributedInsertSink_ok reply lstate) run rfl
      obtain ⟨native, hfound, ⟨hcount, hwriter⟩, hset⟩ := h.found found
      -- the writes depend on the target and the chunk only, never on which side sinks it
      have hrun := hsinks.replay (h.sink.symm ▸ h.target)
      rw [← hcount] at hrun
      obtain ⟨locals, hlocals, hmirrored⟩ :=
        hset { native with toPaimonInsertLocalState := ⟨lstate'.rowCount⟩ } lstate'
          ⟨rfl, hwriter.trans hsinks.writer.symm⟩
      have hsame :
          (⟨.sink (base.locals.length + writer) chunk, .ok (), writes.map .write⟩ : NativeRecord Message).writes =
            (⟨.sink writer chunk, .ok [], writes.map .write⟩ : WorkerRecord Message).writes :=
        (native_issued_write writes).trans (issued_write writes).symm
      exact ⟨_, _, .sink _ reply chunk h.running.2 hfound hrun (hsinks.live.imp hwriter.trans id), rfl, hsame,
        congrArg (fun writes => some (Sunk.mk chunk writes)) hsame, h.sink, h.target,
        ⟨by rw [h.running.1]; rfl, h.running.2⟩, ⟨locals, hlocals, hmirrored⟩, h.messages, h.count⟩
  | combine writer task replies found run fresh =>
    rename_i lstate lstate' global r events
    cases r with
    | error e => cases hreturns
    | ok u =>
      have hcombines := Proc.wp_run (wp_paimonDistributedInsertCombine_ok replies (s.global, lstate)) run rfl
      have hends := Proc.wp_run (wp_paimonDistributedInsertCombine_ends replies (s.global, lstate)) run
      have hreplies := Proc.wp_run (wp_paimonDistributedInsertCombine_replies replies (s.global, lstate)) run rfl
      obtain ⟨native, hfound, ⟨hcount, hwriter⟩, hset⟩ := h.found found
      -- neither side writes when it combines
      have hissued : events.flatMap WorkerEvent.issued = [] :=
        List.flatMap_eq_nil_iff.2 (Proc.wp_run (keeps_paimonDistributedInsertCombine replies (s.global, lstate)) run).2
      rcases hrun : (Write.combine replies).run (ns.global, native) with ⟨r, ⟨global', native'⟩, nevents⟩
      obtain ⟨rfl, hstates, hnone⟩ := Proc.wp_run (hreplies.replay ns.global hcount) hrun
      cases hstates
      obtain ⟨locals, hlocals, hmirrored⟩ :=
        hset { native with writer := false } lstate' ⟨hcount.trans hends.rows.symm, hcombines.closed.symm⟩
      have hglobal : global = { s.global with messages := global.messages, rowCount := global.rowCount } :=
        hcombines.global
      refine ⟨_, _, .combine _ replies h.running.2 hfound (hwriter.trans hcombines.open_) hrun, rfl,
        hnone.trans hissued.symm, rfl, h.sink, ?_, ⟨by rw [h.running.1]; rfl, h.running.2⟩,
          ⟨locals, hlocals, hmirrored⟩, ?_, ?_⟩
      · rw [hglobal]
        exact h.target
      · show ns.global.allCommitMessages ++ (events.flatMap WorkerEvent.prepared).map some =
          base.global.allCommitMessages ++ global.messages.map some
        have hmessages : global.messages = s.global.messages ++ events.flatMap WorkerEvent.prepared :=
          hcombines.messages
        rw [h.messages, hmessages, List.map_append, List.append_assoc]
      · show ns.global.insertCount + lstate.rowCount = base.global.insertCount + global.rowCount
        have hrows : global.rowCount = s.global.rowCount + lstate.rowCount := counted_of_toNat hcombines.rowCount
        rw [h.count, hrows, UInt64.add_assoc]
  | finalize => exact absurd rfl hworking

end Mirrors

/-! ## The target of a planned INSERT -/

theorem mem_of_validateInputFields {fields : List (LogicalType × String)} {seen names : List String}
    (h : validateInputFields seen fields = .ok names) : ∀ name ∈ names, name ∈ seen ∨ name ∈ fields.map Prod.snd := by
  induction fields generalizing seen with
  | nil =>
    cases pure_eq_ok.1 h
    exact fun name hmem => .inl hmem
  | cons field fields ih =>
    obtain ⟨type, name⟩ := field
    obtain ⟨-, h⟩ := throwIf_bind_eq_ok.1 h
    intro other hmem
    rcases ih h other hmem with hmem | hmem
    · rcases List.mem_cons.1 hmem with rfl | hmem
      · exact .inr List.mem_cons_self
      · exact .inl hmem
    · exact .inr (List.mem_cons_of_mem _ hmem)

theorem mem_of_validatePartKeys {fieldNames seen partKeys : List String}
    (h : validatePartKeys fieldNames seen partKeys = .ok ()) : ∀ partKey ∈ partKeys, partKey ∈ fieldNames := by
  induction partKeys generalizing seen with
  | nil => exact fun _ hmem => absurd hmem List.not_mem_nil
  | cons partKey partKeys ih =>
    obtain ⟨hvalid, h⟩ := throwIf_bind_eq_ok.1 h
    rw [not_or, not_or, not_not] at hvalid
    exact List.forall_mem_cons.2 ⟨hvalid.2.1, ih h⟩

/-- The partition keys of a valid bind are among its fields. -/
theorem partKeys_of_serializeTransport {rt : Runtime} {transport : InsertTransport} {bytes : String}
    (h : serializeTransport rt transport = .ok bytes) : ∀ partKey ∈ transport.partKeys,
      partKey ∈ transport.inputNames := by
  obtain ⟨⟨⟩, hvalid, -⟩ := bind_eq_ok.1 h
  unfold validateTransport at hvalid
  obtain ⟨-, hvalid⟩ := throwIf_bind_eq_ok.1 hvalid
  obtain ⟨name, -, hvalid⟩ := bind_eq_ok.1 hvalid
  obtain ⟨-, hvalid⟩ := throwIf_bind_eq_ok.1 hvalid
  obtain ⟨fieldNames, hfields, hvalid⟩ := bind_eq_ok.1 hvalid
  obtain ⟨⟨⟩, hkeys, -⟩ := bind_eq_ok.1 hvalid
  intro partKey hmem
  rcases mem_of_validateInputFields hfields partKey (mem_of_validatePartKeys hkeys partKey hmem) with hseen | hfield
  · cases hseen
  · obtain ⟨⟨type, name⟩, hzip, rfl⟩ := List.mem_map.1 hfield
    exact (List.of_mem_zip hzip).2

/-- A sink that is aimed at a described target finds it, and at the partitions the workers of a bind for
that target are aimed at. -/
theorem locateSink_described {insert : PhysicalPaimonInsert} {target : CatalogReplies} {state : TargetState}
    (transport : InsertTransport) (createTable : Except Exception Unit) (describes : Describe target state)
    (keys : transport.partKeys = insert.partKeys) (names : transport.inputNames = state.fieldNames)
    (null : transport.nullPartName = state.nullPartName)
    (hmem : ∀ partKey ∈ transport.partKeys, partKey ∈ transport.inputNames) :
    ∃ native : NativeInsertGlobalState Message,
      locateSink insert ⟨createTable, target.getTableLocation, target.loadTableSchema⟩ = .ok native ∧
        ∀ partColIdxs, workerPartColIdxs transport.inputNames transport.partKeys = .ok partColIdxs →
          SameSink native.toPaimonInsertGlobalState transport partColIdxs := by
  obtain ⟨schema, dataSchema, hschema, hdata, hnames, -, -, -, -, -, -, -, -, hnull⟩ := describes.schema
  unfold locateSink
  by_cases hempty : insert.partKeys = []
  · refine ⟨{ partKeyNames := [], partColIdxs := [], tablePath := state.tablePath }, ?_, fun partColIdxs h => ?_⟩
    · rw [bind_eq_ok]
      refine ⟨_, orIO_eq_ok.2 describes.tablePath, ?_⟩
      rw [hempty]
      rfl
    · have hnone : transport.partKeys = [] := keys.trans hempty
      rw [hnone] at h
      cases pure_eq_ok.1 h
      exact ⟨rfl, hnone.symm, fun hsome => absurd rfl hsome⟩
  · have hcolumns : nativePartColIdxs schema.fieldNames insert.partKeys =
        .ok (insert.partKeys.map schema.fieldNames.idxOf) := by
      refine findPartColIdxs_eq_ok.2 ⟨?_, rfl⟩
      rw [hnames, ← keys, ← names]
      exact hmem
    refine ⟨{ partKeyNames := insert.partKeys, partColIdxs := insert.partKeys.map schema.fieldNames.idxOf
              nullPartName := nullPartition dataSchema.options, tablePath := state.tablePath }, ?_,
      fun partColIdxs h => ?_⟩
    · rw [bind_eq_ok]
      refine ⟨_, orIO_eq_ok.2 describes.tablePath, ?_⟩
      rw [if_neg (by rwa [List.isEmpty_iff]), bind_eq_ok]
      refine ⟨schema, orIO_eq_ok.2 hschema, ?_⟩
      unfold partitionedState
      rw [hdata]
      exact bind_eq_ok.2 ⟨_, hcolumns, rfl⟩
    · obtain ⟨-, rfl⟩ := findPartColIdxs_eq_ok.1 h
      refine ⟨?_, keys.symm, fun _ => ?_⟩
      · rw [keys, names, hnames]
      · exact (null.trans hnull).symm

/-! ## All workers -/

/-- The writes of a history, in order. -/
def workerWrites (history : List (WorkerRecord Message)) : List PartitionWrite :=
  history.flatMap WorkerRecord.writes
@[inherit_doc workerWrites] def nativeWrites (history : List (NativeRecord Message)) : List PartitionWrite :=
  history.flatMap NativeRecord.writes

/-- A failure-free native run from `base`, before its finalization: its writes with their chunks, and what it has
taken since. -/
structure Replayed (render : Value → String) (base : NativeState Message) (writes : List PartitionWrite)
    (sunk : List Sunk) (messages : List Message) (rows : Nat) (history : List (NativeRecord Message))
    (ns : NativeState Message) : Prop where
  run : Run (NativeStep render) base history ns
  returns : ∀ record ∈ history, record.result = .ok ()
  writes : nativeWrites history = writes
  sunk : nativeSunk history = sunk
  running : ns.failed = false ∧ ns.finalized = false
  sink : ns.global.toPaimonInsertGlobalState = base.global.toPaimonInsertGlobalState
  combined : ∀ lstate ∈ ns.locals, lstate.writer = false
  messages : ns.global.allCommitMessages = base.global.allCommitMessages ++ messages.map some
  count : ns.global.insertCount = base.global.insertCount + UInt64.ofNat rows

section Workers

variable {rt : Runtime} {vane : Vane} {codec : MessageCodec Message} {render : Value → String}
  {info : DistributedExtensionWriteInfo} {transport : InsertTransport} {base : NativeState Message}

/-- The calls of one worker are replayed. -/
theorem mirrors_run {currentVersion : Int32} {global : PaimonDistributedInsertGlobalState Message}
    {history : List (WorkerRecord Message)} {s : WorkerState Message} (hmessages : global.messages = [])
    (hrows : global.rowCount = 0) (hrunning : base.failed = false ∧ base.finalized = false)
    (htarget : SameSink base.global.toPaimonInsertGlobalState global.transport global.partColIdxs)
    (run : Run (ReturningStep rt vane currentVersion render) { global } history s) :
    ∃ nhistory ns, Run (NativeStep render) base nhistory ns ∧ (∀ record ∈ nhistory, record.result = .ok ()) ∧
      nativeWrites nhistory = workerWrites history ∧ nativeSunk nhistory = workerSunk history ∧ Mirrors base ns s := by
  refine run.invariant (I := fun history s => ∃ nhistory ns, Run (NativeStep render) base nhistory ns ∧
    (∀ record ∈ nhistory, record.result = .ok ()) ∧ nativeWrites nhistory = workerWrites history ∧
    nativeSunk nhistory = workerSunk history ∧ Mirrors base ns s)
    ⟨[], base, .nil, fun _ hmem => absurd hmem List.not_mem_nil, rfl, rfl,
      mirrors_start hmessages hrows hrunning htarget⟩ ?_
  rintro history s record s' ⟨nhistory, ns, hrun, hall, hwrites, hsunk, hmirrors⟩ hstep
  obtain ⟨nrecord, ns', hnstep, hok, hissued, hgiven, hmirrors'⟩ :=
    hmirrors.step hstep.step hstep.returns hstep.working
  refine ⟨nhistory ++ [nrecord], ns', hrun.snoc hnstep, ?_, ?_, ?_, hmirrors'⟩
  · rw [List.forall_mem_append, List.forall_mem_singleton]
    exact ⟨hall, hok⟩
  · unfold nativeWrites workerWrites at hwrites ⊢
    rw [List.flatMap_append, List.flatMap_append, hwrites, List.flatMap_singleton, List.flatMap_singleton, hissued]
  · unfold nativeSunk workerSunk at hsunk ⊢
    rw [List.filterMap_append, List.filterMap_append, hsunk, List.filterMap_cons, List.filterMap_cons, hgiven]
    rfl

/-- An honest worker, behind whatever the native INSERT has taken. -/
theorem WorkerRun.Honest.replayed {worker : WorkerRun Message} (h : worker.Honest rt vane codec render info)
    (hbind : deserializeTransport rt info.workerBindData = .ok transport)
    (hrunning : base.failed = false ∧ base.finalized = false)
    (hcombined : ∀ lstate ∈ base.locals, lstate.writer = false)
    (htarget : ∀ partColIdxs, workerPartColIdxs transport.inputNames transport.partKeys = .ok partColIdxs →
      SameSink base.global.toPaimonInsertGlobalState transport partColIdxs) :
    ∃ history ns, Replayed render base (workerWrites worker.history) (workerSunk worker.history)
      (preparedIn worker.history) (rowsIn worker.history) history ns := by
  obtain ⟨paimonOptions, global, s, replies, global', events, hinit, hrun, hclosed, -, -⟩ := h.run
  obtain ⟨hfixed, hmessages, hrows⟩ := paimonDistributedInsertInitializeGlobal_ok hbind hinit
  have htransport : global.transport = transport := (Prod.mk.inj hfixed).1
  have hcolumns := partColIdxs_of_initializeGlobal hbind hinit
  obtain ⟨nhistory, ns, hnrun, hall, hwrites, hsunk, hmirrors⟩ :=
    mirrors_run hmessages hrows hrunning (htransport.symm ▸ htarget _ hcolumns) hrun
  have htally := Tallied.run hmessages hrows hrun
  refine ⟨nhistory, ns, hnrun, hall, hwrites, hsunk, hmirrors.running, hmirrors.sink, ?_, ?_, ?_⟩
  · obtain ⟨locals, hlocals, hmirrored⟩ := hmirrors.locals
    rw [hlocals, List.forall_mem_append]
    refine ⟨hcombined, fun lstate hmem => ?_⟩
    obtain ⟨i, hi, rfl⟩ := List.mem_iff_getElem.1 hmem
    -- an honest worker is closed behind its run, and its mirror with it
    have hi' : i < s.locals.length := hmirrored.length_eq ▸ hi
    have hlast : MirroredBy locals[i] s.locals[i] := hmirrored.get hi hi'
    exact hlast.2.trans (hclosed _ (List.getElem_mem hi'))
  · rw [hmirrors.messages, htally.messages]
  · rw [hmirrors.count, ← htally.combined hclosed, UInt64.ofNat_toNat]

/-- All honest workers, one after the other. -/
theorem honest_workers_replayed (hbind : deserializeTransport rt info.workerBindData = .ok transport) :
    ∀ {workers : List (WorkerRun Message)} {base : NativeState Message},
      (∀ worker ∈ workers, worker.Honest rt vane codec render info) → base.failed = false ∧ base.finalized = false →
      (∀ lstate ∈ base.locals, lstate.writer = false) →
      (∀ partColIdxs, workerPartColIdxs transport.inputNames transport.partKeys = .ok partColIdxs →
        SameSink base.global.toPaimonInsertGlobalState transport partColIdxs) →
      ∃ history ns, Replayed render base (workers.flatMap fun worker => workerWrites worker.history)
        (workers.flatMap fun worker => workerSunk worker.history)
        (workers.flatMap fun worker => preparedIn worker.history) (workers.map fun worker => rowsIn worker.history).sum
        history ns
  | [], base, _, hrunning, hcombined, _ => by
    refine ⟨[], base, .nil, fun _ hmem => absurd hmem List.not_mem_nil, rfl, rfl, hrunning, rfl, hcombined, ?_, ?_⟩
    · exact (List.append_nil _).symm
    · exact (UInt64.add_zero _).symm
  | worker :: workers, base, honest, hrunning, hcombined, htarget => by
    rw [List.forall_mem_cons] at honest
    obtain ⟨history, ns, hfirst⟩ := honest.1.replayed hbind hrunning hcombined htarget
    -- the next worker starts where this one ended: its own base, with the same target
    obtain ⟨history', ns', hrest⟩ :=
      honest_workers_replayed hbind honest.2 hfirst.running hfirst.combined fun partColIdxs h => by
        rw [hfirst.sink]
        exact htarget partColIdxs h
    refine ⟨history ++ history', ns', hfirst.run.append hrest.run, ?_, ?_, ?_, hrest.running,
      hrest.sink.trans hfirst.sink, hrest.combined, ?_, ?_⟩
    · rw [List.forall_mem_append]
      exact ⟨hfirst.returns, hrest.returns⟩
    · rw [nativeWrites, List.flatMap_append, List.flatMap_cons]
      exact congrArg₂ (· ++ ·) hfirst.writes hrest.writes
    · rw [nativeSunk, List.filterMap_append, List.flatMap_cons]
      exact congrArg₂ (· ++ ·) hfirst.sunk hrest.sunk
    · rw [hrest.messages, hfirst.messages, List.flatMap_cons, List.map_append, List.append_assoc]
    · rw [hrest.count, hfirst.count, List.map_cons, List.sum_cons, UInt64.ofNat_add, UInt64.add_assoc]

end Workers

/-! ## The refinement -/

/-- What Paimon replies when a commit succeeds. -/
def NativeCommitReplies.succeed : NativeCommitReplies := ⟨⟨.ok (), .ok ()⟩, .ok ()⟩

theorem wp_finalize_succeed (gstate : NativeInsertGlobalState Message) :
    (finalize .succeed).wp gstate fun r gstate' events => r = .ok () ∧ gstate' = gstate ∧
      events.flatMap NativeEvent.issued = [] ∧ events.filterMap NativeEvent.emitted = [] ∧
      events.filterMap NativeEvent.committed =
        (if gstate.allCommitMessages = [] then [] else [gstate.allCommitMessages]) := by
  unfold finalize commitMessages
  rw [Proc.wp_bind, Proc.wp_get]
  show Proc.wp _ _ _
  rw [Proc.wp_ite]
  split
  · rename_i hempty
    rw [if_pos (List.isEmpty_iff.1 hempty)]
    exact (Proc.wp_pure _ _ _).2 ⟨rfl, rfl, rfl, rfl, rfl⟩
  · rename_i hsome
    rw [List.isEmpty_iff] at hsome
    rw [if_neg hsome]
    simp only [Proc.wp_bind, Proc.wp_call, Proc.wp_tryCatch, Proc.wp_get, Proc.wp_ofExcept]
    exact ⟨trivial, trivial, rfl, rfl, rfl⟩

theorem wp_getDataInternal_issued (gstate : NativeInsertGlobalState Message) :
    getDataInternal.wp gstate fun _ _ events => events.flatMap NativeEvent.issued = [] := by
  unfold getDataInternal
  rw [Proc.wp_bind, Proc.wp_get]
  show Proc.wp _ _ _
  rw [Proc.wp_ite]
  split
  · exact (Proc.wp_pure _ _ _).2 rfl
  · simp only [Proc.wp_bind, Proc.wp_call, Proc.wp_modify, Proc.wp_pure]
    rfl

/-- A failure-free run is finalized and read. -/
theorem Replayed.finish {render : Value → String} {global : NativeInsertGlobalState Message}
    {writes : List PartitionWrite} {sunk : List Sunk}
    {messages : List Message} {rows : Nat} {history : List (NativeRecord Message)} {ns : NativeState Message}
    (h : Replayed render { global } writes sunk messages rows history ns) (hmessages : global.allCommitMessages = [])
    (hcount : global.insertCount = 0) (hfinished : global.finished = false) :
    ∃ history' ns', Run (NativeStep render) { global } history' ns' ∧ (∀ record ∈ history', record.result = .ok ()) ∧
      nativeWrites history' = writes ∧ nativeSunk history' = sunk ∧
      nativeCommits history' = (if messages = [] then [] else [messages.map some]) ∧
      nativeEmits history' = [(UInt64.ofNat rows).toInt64] := by
  -- nothing was committed or read before the finalization
  have hexecutes : Executes history ns := .run hmessages hfinished h.run
  obtain ⟨hcommits, hunread⟩ := hexecutes.sinking h.running.2
  have htaken : ns.global.allCommitMessages = messages.map some := by
    rw [h.messages, hmessages, List.nil_append]
  have hrows : ns.global.insertCount = UInt64.ofNat rows := by
    rw [h.count, hcount, UInt64.zero_add]
  rcases hfinal : (Write.finalize .succeed).run ns.global with ⟨r, global', events⟩
  obtain ⟨rfl, rfl, hissued, hsilent, hcommitted⟩ := Proc.wp_run (wp_finalize_succeed ns.global) hfinal
  rcases hdata : getDataInternal.run ns.global with ⟨r, global', events'⟩
  obtain ⟨⟨a, rfl⟩, rfl, -, -, hquiet, hemitted⟩ := Proc.wp_run (wp_getDataInternal ns.global) hdata
  have hissued' := Proc.wp_run (wp_getDataInternal_issued ns.global) hdata
  have hfinalize : NativeStep render ns ⟨.finalize, .ok (), events⟩
      { ns with global := ns.global, finalized := true, failed := threw (.ok () : Except Exception Unit) } :=
    .finalize .succeed h.running.2 h.running.1 h.combined hfinal
  refine ⟨_, _, (h.run.snoc hfinalize).snoc (.getData rfl rfl hdata), ?_, ?_, ?_, ?_, ?_⟩
  · simp only [List.forall_mem_append, List.forall_mem_singleton]
    exact ⟨⟨h.returns, trivial⟩, rfl⟩
  · have hwrites := h.writes
    unfold nativeWrites NativeRecord.writes at hwrites ⊢
    rw [List.flatMap_append, List.flatMap_append, hwrites, List.flatMap_singleton, List.flatMap_singleton, hissued,
      hissued', List.append_nil, List.append_nil]
  · -- neither call is given a chunk
    rw [← h.sunk, nativeSunk, List.filterMap_append, List.filterMap_append]
    exact (List.append_nil _).trans (List.append_nil _)
  · rw [nativeCommits_snoc, nativeCommits_snoc, hcommits, List.nil_append]
    show events.filterMap NativeEvent.committed ++ events'.filterMap NativeEvent.committed = _
    rw [hcommitted, hquiet, List.append_nil, htaken]
    cases messages <;> rfl
  · rw [nativeEmits_snoc, nativeEmits_snoc, hexecutes.reported, hunread]
    show (([] : List Int64) ++ events.filterMap NativeEvent.emitted) ++ events'.filterMap NativeEvent.emitted = _
    rw [hsilent, hemitted, hunread, hrows]
    rfl

/-- What honest workers do is done by a native run into the target of their bind. -/
theorem honest_workers_native {rt : Runtime} {vane : Vane} {codec : MessageCodec Message} {render : Value → String}
    {info : DistributedExtensionWriteInfo} {transport : InsertTransport} {insert : PhysicalPaimonInsert}
    {replies : SinkStateReplies} {native : NativeInsertGlobalState Message} {workers : List (WorkerRun Message)}
    (hbind : deserializeTransport rt info.workerBindData = .ok transport)
    (honest : ∀ worker ∈ workers, worker.Honest rt vane codec render info)
    (hlocate : locateSink insert replies = .ok native)
    (htarget : ∀ partColIdxs, workerPartColIdxs transport.inputNames transport.partKeys = .ok partColIdxs →
      SameSink native.toPaimonInsertGlobalState transport partColIdxs) :
    ∃ history s, Run (NativeStep render) { global := native } history s ∧ (∀ record ∈ history, record.result = .ok ()) ∧
      nativeWrites history = (workers.flatMap fun worker => workerWrites worker.history) ∧
      nativeSunk history = (workers.flatMap fun worker => workerSunk worker.history) ∧
      nativeCommits history = (if (workers.flatMap fun worker => preparedIn worker.history) = [] then []
        else [(workers.flatMap fun worker => preparedIn worker.history).map some]) ∧
      nativeEmits history = [(UInt64.ofNat (workers.map fun worker => rowsIn worker.history).sum).toInt64] := by
  obtain ⟨hmessages, hcount, hfinished, -⟩ := (located_of_locateSink hlocate).fresh
  have hrunning : ({ global := native } : NativeState Message).failed = false ∧
      ({ global := native } : NativeState Message).finalized = false := ⟨rfl, rfl⟩
  obtain ⟨history, ns, hreplayed⟩ := honest_workers_replayed hbind honest hrunning
    (fun _ hmem => absurd hmem List.not_mem_nil) htarget
  exact hreplayed.finish hmessages hcount hfinished

/-- Whatever honest workers of a planned INSERT do, a native INSERT into the target could have done: with the same
chunks the same writes in the same order, one commit of all messages they prepared, and their rows as its count. -/
theorem distributed_insert_refines_native {rt : Runtime} {vane : Vane} {codec : MessageCodec Message}
    {render : Value → String} {info : DistributedExtensionWriteInfo} {inputTypes : List LogicalType}
    {replies : PlanReplies} {unplanned insert : PhysicalPaimonInsert} {planning : List (Event Message)}
    {workers : List (WorkerRun Message)} (lawful : rt.binary.Lawful)
    (planned : (initializeDistributedWrite rt inputTypes replies).run unplanned = (.ok (), insert, planning))
    (existing : unplanned.info = none) (bound : info.workerBindData = insert.distributedWritePlan.workerBindData)
    (honest : ∀ worker ∈ workers, worker.Honest rt vane codec render info) :
    ∃ (native : NativeInsertGlobalState Message) (history : List (NativeRecord Message)) (s : NativeState Message),
      (getGlobalSinkState unplanned
        ⟨.ok (), replies.target.getTableLocation, replies.target.loadTableSchema⟩).run () =
          (.ok native, (), ([] : List (NativeEvent Message))) ∧
      Run (NativeStep render) { global := native } history s ∧ (∀ record ∈ history, record.result = .ok ()) ∧
      nativeWrites history = (workers.flatMap fun worker => workerWrites worker.history) ∧
      nativeSunk history = (workers.flatMap fun worker => workerSunk worker.history) ∧
      nativeCommits history = (if (workers.flatMap fun worker => preparedIn worker.history) = [] then []
        else [(workers.flatMap fun worker => preparedIn worker.history).map some]) ∧
      nativeEmits history = [(UInt64.ofNat (workers.map fun worker => rowsIn worker.history).sum).toInt64] := by
  have hpublishes := Proc.wp_run (wp_initializeDistributedWrite inputTypes replies unplanned) planned
  have hpublished := hpublishes.published rfl
  have hbind : deserializeTransport rt info.workerBindData = .ok insert.transport := by
    rw [bound]
    exact deserializeTransport_serializeTransport lawful hpublished
  have hkeys : insert.partKeys = unplanned.partKeys := (Prod.mk.inj (Prod.mk.inj (Prod.mk.inj (Prod.mk.inj
    (Prod.mk.inj hpublishes.given).2).2).2).2).1
  have hrecords := Proc.wp_run (wp_initializeDistributedWrite_records inputTypes replies unplanned) planned rfl
  -- planning has described the very table that the native sink loads
  obtain ⟨native, hlocate, htarget⟩ : ∃ native : NativeInsertGlobalState Message, _ :=
    locateSink_described insert.transport (.ok ()) (loadTargetState_eq_ok.1 (hrecords.loaded existing))
      hkeys rfl rfl (partKeys_of_serializeTransport hpublished)
  obtain ⟨history, s, hrun, hall, hwrites, hsunk, hcommits, hemits⟩ :=
    honest_workers_native hbind honest hlocate htarget
  refine ⟨native, history, s, ?_, hrun, hall, hwrites, hsunk, hcommits, hemits⟩
  refine Proc.run_eq ?_
  unfold getGlobalSinkState createSinkTable
  rw [existing, hlocate]
  simp only [Option.isSome_none, Bool.false_eq_true, if_false, Proc.wp_bind, Proc.wp_pure, Proc.wp_ofExcept]
  exact ⟨trivial, trivial, rfl⟩

/-- The row of the planned worker is written, committed and counted natively. -/
theorem distributed_insert_refines_native_planned :
    ∃ (native : NativeInsertGlobalState String) (history : List (NativeRecord String)) (s : NativeState String),
      (getGlobalSinkState Sample.unplanned
        ⟨.ok (), Sample.targetReplies.getTableLocation, Sample.targetReplies.loadTableSchema⟩).run () =
          (.ok native, (), ([] : List (NativeEvent String))) ∧
      Run (NativeStep fun _ => "") { global := native } history s ∧ (∀ record ∈ history, record.result = .ok ()) ∧
      nativeWrites history = [⟨.empty, [0]⟩] ∧ nativeSunk history = [⟨Sample.oneRow, [⟨.empty, [0]⟩]⟩] ∧
      nativeCommits history = [[some "data-0.orc"]] ∧
      nativeEmits history = [1] := by
  have honest : ∀ worker ∈ [Sample.plannedWorker],
      worker.Honest Sample.runtime .counting (.text 1) (fun _ => "") Sample.plannedInfo := by
    rw [List.forall_mem_singleton]
    exact Sample.honest_plannedWorker
  exact distributed_insert_refines_native binaryFormat_lawful Sample.run_initializeDistributedWrite rfl rfl honest

end DuckPaimon.Write
