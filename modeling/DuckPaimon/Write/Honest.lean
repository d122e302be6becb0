/-
Workers whose calls return (paimon_distributed_insert.cpp): the rows and messages of their local
writers are in the results of their finalizations, and the coordinator accepts the results of all
workers of a write together.
-/
import DuckPaimon.Write.Calls
import DuckPaimon.Write.Worker

namespace DuckPaimon.Write

open Outcome

variable {Message : Type}

/-! ## Calls that return -/

section Calls

variable {rt : Runtime} {vane : Vane} {render : Value → String}

theorem wp_paimonDistributedInsertInitializeLocal_ok {task : DistributedWriteTaskContext} (replies : WriterReplies)
    (global : PaimonDistributedInsertGlobalState Message) :
    (paimonDistributedInsertInitializeLocal vane task replies).wp global fun r global' events => ∀ lstate, r = .ok lstate →
      events = [] ∧ lstate = {} ∧ global' = { global with nextWriteId := global.nextWriteId + 1 } := by
  unfold paimonDistributedInsertInitializeLocal
  rw [Proc.wp_bind, Proc.wp_get]
  show Proc.wp _ _ _
  rw [Proc.wp_bind, Proc.wp_ofExcept]
  cases validateTask vane global task with
  | error e => exact nofun
  | ok u =>
    show Proc.wp _ _ _
    rw [Proc.wp_bind, Proc.wp_modify]
    show Proc.wp _ _ _
    rw [Proc.wp_bind, Proc.wp_throwIf]
    split
    · exact nofun
    · show Proc.wp _ _ _
      simp only [Proc.wp_bind, Proc.wp_ofExcept, Proc.wp_pure]
      cases replies.context.orIO with
      | error e => exact nofun
      | ok u =>
        cases replies.writer.orIO with
        | error e => exact nofun
        | ok u =>
          rintro lstate ⟨⟩
          exact ⟨rfl, rfl, trivial⟩

/-- What a Combine that returns has done: the writer is closed, and the messages it prepared for
its rows, if it has any, are with the global state. -/
structure Combines (s s' : PaimonDistributedInsertGlobalState Message × PaimonDistributedInsertLocalState)
    (events : List (WorkerEvent Message)) : Prop where
  open_ : s.2.writer = true
  closed : s'.2.writer = false
  global : s'.1 = { s.1 with messages := s'.1.messages, rowCount := s'.1.rowCount }
  messages : s'.1.messages = s.1.messages ++ events.flatMap WorkerEvent.prepared
  rowCount : s'.1.rowCount.toNat = s.1.rowCount.toNat + s.2.rowCount.toNat

theorem wp_takeMessages_ok (replies : CombineReplies Message) (messages : List Message)
    (s : PaimonDistributedInsertGlobalState Message × PaimonDistributedInsertLocalState) :
    (takeMessages replies messages).wp s fun r s' _ => r = .ok () → s'.2 = s.2 ∧
      s'.1 = { s.1 with messages := s'.1.messages, rowCount := s'.1.rowCount } ∧
      s'.1.messages = s.1.messages ++ messages ∧
      s'.1.rowCount.toNat = s.1.rowCount.toNat + s.2.rowCount.toNat := by
  unfold takeMessages
  rw [Proc.wp_bind, Proc.wp_get]
  show Proc.wp _ _ _
  rw [Proc.wp_bind, Proc.wp_ofExcept]
  cases hadd : checkedAdd s.1.rowCount s.2.rowCount "task row count" with
  | error e => exact nofun
  | ok total =>
    show Proc.wp _ _ _
    rw [Proc.wp_bind, Proc.wp_throwIf]
    split
    · exact nofun
    · show Proc.wp _ _ _
      rw [Proc.wp_bind, Proc.wp_ofExcept]
      cases replies.reserve with
      | error e => exact nofun
      | ok u => exact (Proc.wp_modify _ _ _).2 fun _ => ⟨rfl, rfl, rfl, checkedAdd_eq_ok.1 hadd⟩

theorem wp_combineMessages_ok (replies : CombineReplies Message) (messages : List (Option Message))
    {s : PaimonDistributedInsertGlobalState Message × PaimonDistributedInsertLocalState} (hopen : s.2.writer = true) :
    (combineMessages replies messages).wp s fun r s' events => r = .ok () →
      Combines s s' (.prepareCommit messages :: events) := by
  unfold combineMessages closeWriter
  simp only [Proc.wp_bind, Proc.wp_call, Proc.wp_modify]
  cases replies.close with
  | error status =>
    show Proc.wp _ _ _
    simp only [Proc.wp_bind, Proc.wp_call, Proc.wp_throw]
    rintro ⟨⟩
  | ok u =>
    show Proc.wp _ _ _
    rw [Proc.wp_bind, Proc.wp_throwIf]
    split
    · rintro ⟨⟩
    · show Proc.wp _ _ _
      cases hvalid : messages.mapM id with
      | none =>
        show Proc.wp _ _ _
        simp only [Proc.wp_bind, Proc.wp_call, Proc.wp_throw]
        rintro ⟨⟩
      | some valid =>
        have hprepared : messages.filterMap id = valid := filterMap_id_of_mapM hvalid
        show Proc.wp _ _ _
        rw [Proc.wp_tryCatch]
        refine Proc.wp_mono (Proc.wp_and (wp_takeMessages replies valid _) (wp_takeMessages_ok replies valid _)) ?_
        rintro (e | u) s' events ⟨⟨rfl, -, -⟩, h⟩
        · simp only [Proc.wp_bind, Proc.wp_call, Proc.wp_throw]
          rintro ⟨⟩
        · obtain ⟨hlocal, hglobal, hmessages, hrows⟩ := h rfl
          refine fun _ => ⟨hopen, by rw [hlocal], hglobal, ?_, hrows⟩
          rw [hmessages, ← hprepared]
          show _ = s.1.messages ++ (messages.filterMap id ++ [])
          rw [List.append_nil]

theorem wp_paimonDistributedInsertCombine_ok {task : DistributedWriteTaskContext} (replies : CombineReplies Message)
    (s : PaimonDistributedInsertGlobalState Message × PaimonDistributedInsertLocalState) :
    (paimonDistributedInsertCombine vane task replies).wp s fun r s' events => r = .ok () → Combines s s' events := by
  unfold paimonDistributedInsertCombine
  rw [Proc.wp_bind, Proc.wp_get]
  show Proc.wp _ _ _
  rw [Proc.wp_bind, Proc.wp_ofExcept]
  cases validateTask vane s.1 task with
  | error e => rintro ⟨⟩
  | ok u =>
    show Proc.wp _ _ _
    rw [Proc.wp_bind, Proc.wp_throwIf]
    split
    · rintro ⟨⟩
    · rename_i hopen
      rw [Bool.not_eq_false] at hopen
      show Proc.wp _ _ _
      rw [Proc.wp_ite]
      split
      · rename_i hzero
        unfold closeWriter
        simp only [Proc.wp_bind, Proc.wp_call, Proc.wp_modify, Proc.wp_ofExcept]
        refine fun _ => ⟨hopen, rfl, rfl, (List.append_nil _).symm, ?_⟩
        rw [hzero]
        rfl
      · cases replies.prepareCommit with
        | error status =>
          unfold closeWriter
          simp only [Proc.wp_bind, Proc.wp_call, Proc.wp_modify, Proc.wp_throw]
          rintro ⟨⟩
        | ok messages =>
          rw [Proc.wp_bind, Proc.wp_call]
          exact wp_combineMessages_ok replies messages hopen

/-- The fragments of a finalization that returns: none for a worker without messages and rows, or one
with the envelope of its messages. -/
def FinalizesWith (rt : Runtime) (currentVersion : Int32) (task : DistributedWriteTaskContext)
    (serializeList : List Message → Result String) (global : PaimonDistributedInsertGlobalState Message)
    (fragments : List DistributedWriteFragment) : Prop :=
  (global.messages = [] ∧ global.rowCount = 0 ∧ fragments = []) ∨
    ∃ serializedMessages serializedTransport, global.messages ≠ [] ∧ global.rowCount ≠ 0 ∧
      serializeList global.messages = .ok serializedMessages ∧
      serializeTransport rt global.transport = .ok serializedTransport ∧
      fragments = [{ fragmentId := expectedFragmentId global.transport.operationId task.taskAttemptId
                     payload := serializeCommitEnvelope rt
                       (workerEnvelope currentVersion task global serializedTransport serializedMessages)
                     rowCount := global.rowCount
                     byteCount := 0 }]

theorem wp_paimonDistributedInsertFinalize_ok {currentVersion : Int32} {task : DistributedWriteTaskContext}
    (replies : FinalizeReplies Message) (global : PaimonDistributedInsertGlobalState Message) :
    (paimonDistributedInsertFinalize rt vane currentVersion task replies).wp global fun r _ events => ∀ fragments,
      r = .ok fragments → validateTask vane global task = .ok () ∧
        FinalizesWith rt currentVersion task replies.serializeList global fragments ∧
        (fragments ≠ [] → events = [.serializeList global.messages (replies.serializeList global.messages)]) := by
  unfold paimonDistributedInsertFinalize
  rw [Proc.wp_bind, Proc.wp_get]
  show Proc.wp _ _ _
  rw [Proc.wp_bind, Proc.wp_ofExcept]
  cases validateTask vane global task with
  | error e => rintro _ ⟨⟩
  | ok u =>
    show Proc.wp _ _ _
    rw [Proc.wp_bind, Proc.wp_throwIf]
    split
    · rintro _ ⟨⟩
    show Proc.wp _ _ _
    rw [Proc.wp_bind, Proc.wp_modify]
    show Proc.wp _ _ _
    rw [Proc.wp_ite]
    split
    · rename_i hempty
      rw [List.isEmpty_iff] at hempty
      rw [Proc.wp_bind, Proc.wp_throwIf]
      split
      · rintro _ ⟨⟩
      · rename_i hrows
        rw [not_not] at hrows
        refine (Proc.wp_pure _ _ _).2 ?_
        rintro fragments ⟨⟩
        exact ⟨rfl, .inl ⟨hempty, hrows, rfl⟩, fun hsome => absurd rfl hsome⟩
    · rename_i hempty
      rw [List.isEmpty_iff] at hempty
      rw [Proc.wp_bind, Proc.wp_throwIf]
      split
      · rintro _ ⟨⟩
      rename_i hrows
      show Proc.wp _ _ _
      rw [Proc.wp_bind, Proc.wp_call]
      show Proc.wp _ _ _
      cases hlist : replies.serializeList global.messages with
      | error status =>
        show Proc.wp _ _ _
        simp only [Proc.wp_bind, Proc.wp_call, Proc.wp_throw]
        rintro _ ⟨⟩
      | ok serializedMessages =>
        show Proc.wp _ _ _
        simp only [Proc.wp_bind, Proc.wp_ofExcept, Proc.wp_modify, Proc.wp_pure]
        cases htransport : serializeTransport rt global.transport with
        | error e => rintro _ ⟨⟩
        | ok serializedTransport =>
          cases replies.construction with
          | error e => rintro _ ⟨⟩
          | ok u =>
            rintro fragments ⟨⟩
            exact ⟨trivial, .inr ⟨_, _, hempty, hrows, hlist, htransport, rfl⟩, fun _ => rfl⟩

end Calls

/-! ## What the calls keep -/

/-- What never changes in a global state. -/
def PaimonDistributedInsertGlobalState.fixed (global : PaimonDistributedInsertGlobalState Message) :
    InsertTransport × String × String × String × List Nat :=
  (global.transport, global.queryId, global.taskAttemptId, global.writerCommitUser, global.partColIdxs)

/-- The part of the global state that is accounted for. -/
def PaimonDistributedInsertGlobalState.account (global : PaimonDistributedInsertGlobalState Message) :
    List Message × UInt64 :=
  (global.messages, global.rowCount)

section Keeps

variable {rt : Runtime} {vane : Vane} {currentVersion : Int32} {render : Value → String}
  {task : DistributedWriteTaskContext}

theorem keeps_paimonDistributedInsertInitializeLocal (replies : WriterReplies) :
    Proc.Keeps (fun global => (global.fixed, global.account)) (fun _ => True)
      (paimonDistributedInsertInitializeLocal vane task replies :
        Proc Exception (WorkerEvent Message) (PaimonDistributedInsertGlobalState Message) _) := by
  unfold paimonDistributedInsertInitializeLocal
  refine .bind Proc.keeps_get fun global => .bind (Proc.keeps_ofExcept _) fun _ => ?_
  refine .bind (Proc.keeps_modify fun _ => rfl) fun _ => .bind (Proc.keeps_throwIf _ _) fun _ => ?_
  exact .bind (Proc.keeps_ofExcept _) fun _ => .bind (Proc.keeps_ofExcept _) fun _ => Proc.keeps_pure _

theorem keeps_paimonDistributedInsertFinalize (replies : FinalizeReplies Message) :
    Proc.Keeps (fun global => (global.fixed, global.rowCount)) (fun _ => True)
      (paimonDistributedInsertFinalize rt vane currentVersion task replies) := by
  unfold paimonDistributedInsertFinalize
  refine .bind Proc.keeps_get fun global => .bind (Proc.keeps_ofExcept _) fun _ => ?_
  refine .bind (Proc.keeps_throwIf _ _) fun _ => .bind (Proc.keeps_modify fun _ => rfl) fun _ => ?_
  split
  · exact .bind (Proc.keeps_throwIf _ _) fun _ => Proc.keeps_pure _
  · refine .bind (Proc.keeps_throwIf _ _) fun _ => .bind (Proc.keeps_call trivial) fun _ => ?_
    split
    · exact .bind (Proc.keeps_call trivial) fun _ => Proc.keeps_throw _
    · refine .bind (Proc.keeps_ofExcept _) fun _ => .bind (Proc.keeps_ofExcept _) fun _ => ?_
      exact .bind (Proc.keeps_modify fun _ => rfl) fun _ => Proc.keeps_pure _

/-- A Combine writes nothing. -/
theorem keeps_paimonDistributedInsertCombine (replies : CombineReplies Message) :
    Proc.Keeps (fun state => state.1.fixed) (fun event : WorkerEvent Message => event.issued = [])
      (paimonDistributedInsertCombine vane task replies) := by
  have hclose :
      Proc.Keeps (fun state => state.1.fixed) (fun event : WorkerEvent Message => event.issued = []) closeWriter := by
    unfold closeWriter
    exact (Proc.keeps_call (by rfl)).bind fun _ => Proc.keeps_modify fun _ => rfl
  have htake (messages : List Message) :
      Proc.Keeps (fun state => state.1.fixed) (fun event : WorkerEvent Message => event.issued = [])
        (takeMessages replies messages) := by
    unfold takeMessages
    refine Proc.keeps_get.bind fun _ => (Proc.keeps_ofExcept _).bind fun _ => (Proc.keeps_throwIf _ _).bind fun _ => ?_
    exact (Proc.keeps_ofExcept _).bind fun _ => Proc.keeps_modify fun _ => rfl
  unfold paimonDistributedInsertCombine
  refine Proc.keeps_get.bind fun state => (Proc.keeps_ofExcept _).bind fun _ =>
    (Proc.keeps_throwIf _ _).bind fun _ => ?_
  split
  · exact hclose.bind fun _ => Proc.keeps_ofExcept _
  · split
    · exact hclose.bind fun _ => Proc.keeps_throw _
    · refine (Proc.keeps_call (by rfl)).bind fun _ => hclose.bind fun _ => ?_
      split
      · exact (Proc.keeps_call (by rfl)).bind fun _ => Proc.keeps_throw _
      · refine (Proc.keeps_throwIf _ _).bind fun _ => ?_
        split
        · exact (Proc.keeps_call (by rfl)).bind fun _ => Proc.keeps_throw _
        · exact (htake _).tryCatch fun _ => (Proc.keeps_call (by rfl)).bind fun _ => Proc.keeps_throw _

/-- Whichever way a call ends, the global state keeps its bind and its task. -/
theorem WorkerStep.fixed {s s' : WorkerState Message} {record : WorkerRecord Message}
    (hstep : WorkerStep rt vane currentVersion render s record s') : s'.global.fixed = s.global.fixed := by
  cases hstep with
  | initializeLocal task replies run =>
    exact (Prod.mk.inj (Proc.wp_run (keeps_paimonDistributedInsertInitializeLocal replies s.global) run).1).1
  | sink => rfl
  | combine writer task replies found run fresh =>
    exact (Proc.wp_run (keeps_paimonDistributedInsertCombine replies (s.global, _)) run).1
  | finalize task replies run =>
    exact (Prod.mk.inj (Proc.wp_run (keeps_paimonDistributedInsertFinalize replies s.global) run).1).1

end Keeps

/-! ## Runs of a worker whose calls return -/

/-- The number of rows of the chunks that were sunk in a history. -/
def rowsIn (history : List (WorkerRecord Message)) : Nat := (history.map fun record => record.call.rows).sum

theorem rowsIn_snoc (history : List (WorkerRecord Message)) (record : WorkerRecord Message) :
    rowsIn (history ++ [record]) = rowsIn history + record.call.rows := by
  simp [rowsIn]

/-- The rows a local writer has got and not yet handed over. -/
def PaimonDistributedInsertLocalState.pending (lstate : PaimonDistributedInsertLocalState) : Nat :=
  if lstate.writer then lstate.rowCount.toNat else 0

section Runs

variable (rt : Runtime) (vane : Vane) (currentVersion : Int32) (render : Value → String)

/-- A call before the finalization that returns. A chunk is sunk into a local writer that is not yet
combined. -/
structure ReturningStep (s : WorkerState Message) (record : WorkerRecord Message) (s' : WorkerState Message) : Prop where
  step : WorkerStep rt vane currentVersion render s record s'
  returns : ∃ fragments, record.result = .ok fragments
  working : record.call ≠ .finalize
  open_ : ∀ writer chunk lstate, record.call = .sink writer chunk → s.locals[writer]? = some lstate →
    lstate.writer = true

/-- What the states of a worker say of its calls: the rows are counted, with the global state or with a
local one that is not yet combined, and the messages are all with the global state. -/
structure Tallied (global : PaimonDistributedInsertGlobalState Message) (history : List (WorkerRecord Message))
    (s : WorkerState Message) : Prop where
  fixed : s.global.fixed = global.fixed
  messages : s.global.messages = preparedIn history
  fits : s.global.messages.length < idxLimit
  rows : s.global.rowCount.toNat + (s.locals.map PaimonDistributedInsertLocalState.pending).sum = rowsIn history

variable {rt vane currentVersion render}

/-- A returning call has written every row of its chunk once, and no others. -/
theorem ReturningStep.rows {s s' : WorkerState Message} {record : WorkerRecord Message}
    (h : ReturningStep rt vane currentVersion render s record s') :
    (record.writes.flatMap PartitionWrite.rows).Perm (List.range record.call.rows) := by
  obtain ⟨hstep, ⟨fragments, hreturns⟩, hworking, -⟩ := h
  cases hstep with
  | @initializeLocal task replies r global events run =>
    cases r with
    | error e => cases hreturns
    | ok lstate =>
      obtain ⟨rfl, -⟩ := Proc.wp_run (wp_paimonDistributedInsertInitializeLocal_ok replies s.global) run _ rfl
      exact .refl _
  | @sink writer task reply chunk lstate lstate' r writes found run =>
    obtain ⟨⟨e, rfl⟩, -⟩ | ⟨-, hrows, -⟩ := Proc.wp_run (wp_paimonDistributedInsertSink_rows reply lstate) run
    · cases hreturns
    · show (((writes.map WorkerEvent.write).flatMap WorkerEvent.issued).flatMap PartitionWrite.rows).Perm
        (List.range chunk.size.toNat)
      rwa [issued_write]
  | @combine writer task replies lstate lstate' global r events found run fresh =>
    have hsilent := (Proc.wp_run (keeps_paimonDistributedInsertCombine replies (s.global, lstate)) run).2
    show ((events.flatMap WorkerEvent.issued).flatMap PartitionWrite.rows).Perm (List.range 0)
    rw [List.flatMap_eq_nil_iff.2 hsilent]
    exact .refl _
  | finalize => exact absurd rfl hworking

/-- Replacing a value replaces its part of a sum. -/
theorem sum_map_set {α : Type} (f : α → Nat) :
    ∀ {as : List α} {i : Nat} {a : α} (b : α), as[i]? = some a → ((as.set i b).map f).sum + f a = (as.map f).sum + f b
  | [], _, _, _, h => nomatch h
  | a :: as, 0, _, b, h => by
    cases h
    simp only [List.set_cons_zero, List.map_cons, List.sum_cons]
    omega
  | c :: as, i + 1, a, b, h => by
    have ih := sum_map_set f b (show as[i]? = some a from h)
    simp only [List.set_cons_succ, List.map_cons, List.sum_cons]
    omega

theorem tallied_start {global : PaimonDistributedInsertGlobalState Message} (hmessages : global.messages = [])
    (hrows : global.rowCount = 0) : Tallied global [] { global } := by
  refine ⟨rfl, hmessages, ?_, ?_⟩
  · rw [hmessages]
    exact Nat.two_pow_pos 64
  · rw [hrows]
    rfl

/-- Every returning call keeps the tally. -/
theorem Tallied.step {global : PaimonDistributedInsertGlobalState Message} {history : List (WorkerRecord Message)}
    {s s' : WorkerState Message} {record : WorkerRecord Message} (h : Tallied global history s)
    (hstep : ReturningStep rt vane currentVersion render s record s') : Tallied global (history ++ [record]) s' := by
  obtain ⟨hstep, ⟨fragments, hreturns⟩, hworking, hopen⟩ := hstep
  have hfixed := hstep.fixed.trans h.fixed
  have hrows := h.rows
  cases hstep with
  | @initializeLocal task replies r global' events run =>
    cases r with
    | error e => cases hreturns
    | ok lstate =>
      obtain ⟨rfl, rfl, rfl⟩ := Proc.wp_run (wp_paimonDistributedInsertInitializeLocal_ok replies s.global) run _ rfl
      refine ⟨hfixed, ?_, h.fits, ?_⟩
      · rw [preparedIn_snoc]
        exact h.messages.trans (List.append_nil _).symm
      · rw [rowsIn_snoc, List.map_append, List.sum_append]
        simpa [PaimonDistributedInsertLocalState.pending, WorkerCall.rows, WorkerCall.chunk] using hrows
  | @sink writer task reply chunk lstate lstate' r writes found run =>
    cases r with
    | error e => cases hreturns
    | ok u =>
      obtain ⟨⟨e, herror⟩, -⟩ | ⟨-, -, hwriter, hcount, -⟩ :=
        Proc.wp_run (wp_paimonDistributedInsertSink_rows reply lstate) run
      · cases herror
      have hwriting := hopen writer chunk lstate rfl found
      refine ⟨hfixed, ?_, h.fits, ?_⟩
      · rw [preparedIn_snoc]
        have hnone : (writes.map WorkerEvent.write).flatMap WorkerEvent.prepared = ([] : List Message) := by
          simp [List.flatMap_eq_nil_iff, WorkerEvent.prepared]
        show s.global.messages = preparedIn history ++ (writes.map WorkerEvent.write).flatMap WorkerEvent.prepared
        rw [hnone, List.append_nil, h.messages]
      · rw [rowsIn_snoc]
        have hset := sum_map_set PaimonDistributedInsertLocalState.pending lstate' found
        simp only [PaimonDistributedInsertLocalState.pending, hwriter, hwriting, if_true, hcount] at hset
        show s.global.rowCount.toNat + ((s.locals.set writer lstate').map _).sum = rowsIn history + chunk.size.toNat
        omega
  | @combine writer task replies lstate lstate' global' r events found run fresh =>
    cases r with
    | error e => cases hreturns
    | ok u =>
      obtain ⟨hwriting, hclosed, -, hmessages, hcount⟩ :=
        Proc.wp_run (wp_paimonDistributedInsertCombine_ok replies (s.global, lstate)) run rfl
      have hhands := Proc.wp_run (wp_paimonDistributedInsertCombine replies (s.global, lstate)) run
      dsimp only at hwriting hclosed hmessages hcount
      refine ⟨hfixed, ?_, hhands.fits h.fits, ?_⟩
      · rw [preparedIn_snoc]
        show global'.messages = _
        rw [hmessages, h.messages]
        rfl
      · rw [rowsIn_snoc]
        have hset := sum_map_set PaimonDistributedInsertLocalState.pending lstate' found
        simp only [PaimonDistributedInsertLocalState.pending, hclosed, hwriting, if_true, Bool.false_eq_true, if_false]
          at hset
        show global'.rowCount.toNat + ((s.locals.set writer lstate').map _).sum = rowsIn history + 0
        rw [hcount]
        omega
  | finalize => exact absurd rfl hworking

theorem Tallied.run {global : PaimonDistributedInsertGlobalState Message} {history : List (WorkerRecord Message)}
    {s : WorkerState Message} (hmessages : global.messages = []) (hrows : global.rowCount = 0)
    (run : Run (ReturningStep rt vane currentVersion render) { global } history s) : Tallied global history s :=
  run.invariant (tallied_start hmessages hrows) Tallied.step

/-- Once all local writers are combined, the rows are all with the global state. -/
theorem Tallied.combined {global : PaimonDistributedInsertGlobalState Message} {history : List (WorkerRecord Message)}
    {s : WorkerState Message} (h : Tallied global history s) (hcombined : ∀ lstate ∈ s.locals, lstate.writer = false) :
    s.global.rowCount.toNat = rowsIn history := by
  have hpending : (s.locals.map PaimonDistributedInsertLocalState.pending).sum = 0 := by
    rw [List.sum_eq_zero_iff_forall_eq_nat, List.forall_mem_map]
    intro lstate hlstate
    rw [PaimonDistributedInsertLocalState.pending, hcombined lstate hlstate]
    rfl
  have hrows := h.rows
  omega

end Runs

/-! ## The bind of the workers -/

section Bind

variable {rt : Runtime} {vane : Vane}

theorem validateTask_ok {global : PaimonDistributedInsertGlobalState Message} {task : DistributedWriteTaskContext}
    (h : validateTask vane global task = .ok ()) :
    ∃ logicalTaskId, vaneLogicalTaskIdentity task.queryId task.taskAttemptId = .ok logicalTaskId := by
  unfold validateTask at h
  obtain ⟨-, -, h⟩ := bind_eq_ok.1 h
  obtain ⟨logicalTaskId, hidentity, -⟩ := bind_eq_ok.1 h
  exact ⟨logicalTaskId, hidentity⟩

/-- A global state is made of a bind that is read back. -/
theorem deserializeTransport_of_initializeGlobal {paimonOptions : Except Exception StringMap}
    {info : DistributedExtensionWriteInfo} {task : DistributedWriteTaskContext}
    {global : PaimonDistributedInsertGlobalState Message}
    (h : paimonDistributedInsertInitializeGlobal rt vane paimonOptions info task = .ok global) :
    ∃ transport, deserializeTransport rt info.workerBindData = .ok transport := by
  unfold paimonDistributedInsertInitializeGlobal at h
  obtain ⟨-, h⟩ := throwIf_bind_eq_ok.1 h
  obtain ⟨-, -, h⟩ := bind_eq_ok.1 h
  obtain ⟨transport, hbind, -⟩ := bind_eq_ok.1 h
  exact ⟨transport, hbind⟩

/-- What a new global state holds. -/
theorem paimonDistributedInsertInitializeGlobal_ok {paimonOptions : Except Exception StringMap}
    {info : DistributedExtensionWriteInfo} {task : DistributedWriteTaskContext} {transport : InsertTransport}
    {global : PaimonDistributedInsertGlobalState Message}
    (hbind : deserializeTransport rt info.workerBindData = .ok transport)
    (h : paimonDistributedInsertInitializeGlobal rt vane paimonOptions info task = .ok global) :
    global.fixed = (transport, task.queryId, task.taskAttemptId, workerCommitUser rt transport.operationId task,
        global.partColIdxs) ∧ global.messages = [] ∧ global.rowCount = 0 := by
  unfold paimonDistributedInsertInitializeGlobal at h
  obtain ⟨-, h⟩ := throwIf_bind_eq_ok.1 h
  obtain ⟨-, -, h⟩ := bind_eq_ok.1 h
  obtain ⟨transport', hbind', h⟩ := bind_eq_ok.1 h
  cases hbind.symm.trans hbind'
  obtain ⟨name, -, h⟩ := bind_eq_ok.1 h
  obtain ⟨-, h⟩ := throwIf_bind_eq_ok.1 h
  obtain ⟨options, -, h⟩ := bind_eq_ok.1 h
  obtain ⟨indices, -, h⟩ := bind_eq_ok.1 h
  obtain rfl := pure_eq_ok.1 h
  exact ⟨rfl, rfl, rfl⟩

/-- A new global state of a worker is aimed at the partition columns of its bind. -/
theorem partColIdxs_of_initializeGlobal {paimonOptions : Except Exception StringMap}
    {info : DistributedExtensionWriteInfo} {task : DistributedWriteTaskContext} {transport : InsertTransport}
    {global : PaimonDistributedInsertGlobalState Message}
    (hbind : deserializeTransport rt info.workerBindData = .ok transport)
    (h : paimonDistributedInsertInitializeGlobal rt vane paimonOptions info task = .ok global) :
    workerPartColIdxs transport.inputNames transport.partKeys = .ok global.partColIdxs := by
  unfold paimonDistributedInsertInitializeGlobal at h
  obtain ⟨-, h⟩ := throwIf_bind_eq_ok.1 h
  obtain ⟨-, -, h⟩ := bind_eq_ok.1 h
  obtain ⟨transport', hbind', h⟩ := bind_eq_ok.1 h
  cases hbind.symm.trans hbind'
  obtain ⟨name, -, h⟩ := bind_eq_ok.1 h
  obtain ⟨-, h⟩ := throwIf_bind_eq_ok.1 h
  obtain ⟨options, -, h⟩ := bind_eq_ok.1 h
  obtain ⟨partColIdxs, hcolumns, h⟩ := bind_eq_ok.1 h
  obtain rfl := pure_eq_ok.1 h
  exact hcolumns

/-- A serialized bind is not empty. -/
theorem serializeTransport_ne_empty (lawful : rt.binary.Lawful) {transport : InsertTransport} {bytes : String}
    (h : serializeTransport rt transport = .ok bytes) : bytes ≠ "" := by
  obtain ⟨⟨⟩, -, h⟩ := bind_eq_ok.1 h
  cases pure_eq_ok.1 h
  exact lawful.object_cons_ne_empty _ _ protocolVersion_ne_zero _

/-- The envelope of a worker with messages and rows is well formed. -/
theorem not_malformed_workerEnvelope {currentVersion : Int32} {task : DistributedWriteTaskContext}
    {global : PaimonDistributedInsertGlobalState Message} {serializedTransport serializedMessages logicalTaskId : String}
    (lawful : rt.binary.Lawful) (htransport : serializeTransport rt global.transport = .ok serializedTransport)
    (htask : vaneLogicalTaskIdentity task.queryId task.taskAttemptId = .ok logicalTaskId)
    (huser : global.writerCommitUser = workerCommitUser rt global.transport.operationId task)
    (hversion : 0 < currentVersion) (hmessages : global.messages ≠ []) (hfits : global.messages.length < idxLimit)
    (hrows : global.rowCount ≠ 0) (hserialized : serializedMessages ≠ "") :
    ¬(workerEnvelope currentVersion task global serializedTransport serializedMessages).Malformed rt := by
  have hbind := serializeTransport_ne_empty lawful htransport
  obtain ⟨⟨⟩, hvalid, -⟩ := bind_eq_ok.1 htransport
  unfold validateTransport at hvalid
  obtain ⟨htarget, hvalid⟩ := throwIf_bind_eq_ok.1 hvalid
  obtain ⟨name, -, hvalid⟩ := bind_eq_ok.1 hvalid
  obtain ⟨hsnapshot, -⟩ := throwIf_bind_eq_ok.1 hvalid
  simp only [not_or] at htarget
  obtain ⟨hoperation, -, -, huuid, hpath, hfingerprint, hschema, hidentifier, -, -, -⟩ := htarget
  have hattempt : task.taskAttemptId ≠ "" := by
    obtain ⟨fragment, partition, attempt, -, -, heq⟩ := exists_attemptId htask
    rw [heq]
    simp [attemptId, String.append_eq_empty_iff]
  have hcommitUser : global.writerCommitUser ≠ "" := by
    rw [huser]
    simp [workerCommitUser, String.append_eq_empty_iff]
  have hcount : UInt64.ofNat global.messages.length ≠ 0 := by
    intro hzero
    have htoNat := congrArg UInt64.toNat hzero
    rw [UInt64.toNat_ofNat_of_lt' hfits] at htoNat
    exact hmessages (List.length_eq_zero_iff.1 htoNat)
  unfold CommitEnvelope.Malformed workerEnvelope
  simp only [not_or]
  exact ⟨hoperation, huuid, hpath, hfingerprint, hschema, hidentifier, queryId_ne_empty htask, hattempt, hcommitUser,
    Int32.not_le.2 hversion, hcount, hrows, hbind, hserialized, hsnapshot⟩

end Bind

/-! ## The results of the workers -/

/-- What Paimon promises of its codec: a message is determined by its text, and a list is read back. -/
structure MessageCodec.RoundTrips (codec : MessageCodec Message) : Prop where
  currentVersion : 0 < codec.currentVersion
  message : ∃ deserialize : String → Option Message, ∀ message, ∃ text, codec.serialize message = .ok text ∧
    deserialize text = some message
  list : ∀ messages bytes, codec.serializeList messages = .ok bytes →
    codec.deserializeList codec.currentVersion bytes = .ok (messages.map some)
  ne_empty : ∀ messages bytes, messages ≠ [] → codec.serializeList messages = .ok bytes → bytes ≠ ""

/-- Vane counts what the fragments say. -/
structure Vane.Sums (vane : Vane) : Prop where
  rowCount : ∀ result, vane.rowCount result = (result.fragments.map (·.rowCount)).sum
  byteCount : ∀ result, vane.byteCount result = (result.fragments.map (·.byteCount)).sum

/-- A task, the calls of its worker before the finalization, and the fragments of the finalization. -/
structure WorkerRun (Message : Type) where
  task : DistributedWriteTaskContext
  history : List (WorkerRecord Message)
  fragments : List DistributedWriteFragment

namespace WorkerRun

/-- The result Vane makes of the fragments. -/
def result (info : DistributedExtensionWriteInfo) (worker : WorkerRun Message) : DistributedWriteTaskResult where
  queryId := worker.task.queryId
  taskAttemptId := worker.task.taskAttemptId
  capability := info.capability
  fragmentCodec := info.fragmentCodec
  fragments := worker.fragments

/-- The logical task of a worker. -/
def logicalTask (worker : WorkerRun Message) : Except Exception String :=
  vaneLogicalTaskIdentity worker.task.queryId worker.task.taskAttemptId

/-- What the coordinator takes of a worker's result, with the texts of the messages. -/
def taken (info : DistributedExtensionWriteInfo) (text : Message → String) (worker : WorkerRun Message) : Taken Message where
  result := worker.result info
  logicalTaskId := match worker.logicalTask with
    | .ok logicalTaskId => logicalTaskId
    | .error _ => ""
  entries := (preparedIn worker.history).map fun message => (message, text message)
  rowCount := UInt64.ofNat (rowsIn worker.history)

/-- A run of a worker whose calls return: from a new global state to its finalization, behind the Combine
of every local writer. -/
structure Honest (rt : Runtime) (vane : Vane) (codec : MessageCodec Message) (render : Value → String)
    (info : DistributedExtensionWriteInfo) (worker : WorkerRun Message) : Prop where
  run : ∃ (paimonOptions : Except Exception StringMap) (global : PaimonDistributedInsertGlobalState Message)
      (s : WorkerState Message) (replies : FinalizeReplies Message) (global' : PaimonDistributedInsertGlobalState Message)
      (events : List (WorkerEvent Message)),
    paimonDistributedInsertInitializeGlobal rt vane paimonOptions info worker.task = .ok global ∧
    Run (ReturningStep rt vane codec.currentVersion render) { global } worker.history s ∧
    (∀ lstate ∈ s.locals, lstate.writer = false) ∧
    replies.serializeList = codec.serializeList ∧
    (paimonDistributedInsertFinalize rt vane codec.currentVersion worker.task replies).run s.global =
      (.ok worker.fragments, global', events)

/-- A worker that has finalized with the global state `global`. -/
structure Finished (rt : Runtime) (codec : MessageCodec Message) (transport : InsertTransport) (worker : WorkerRun Message)
    (global : PaimonDistributedInsertGlobalState Message) : Prop where
  task : ∃ logicalTaskId, worker.logicalTask = .ok logicalTaskId
  bind : global.transport = transport
  commitUser : global.writerCommitUser = workerCommitUser rt transport.operationId worker.task
  messages : global.messages = preparedIn worker.history
  fits : global.messages.length < idxLimit
  rows : global.rowCount.toNat = rowsIn worker.history
  fragments : FinalizesWith rt codec.currentVersion worker.task codec.serializeList global worker.fragments

section Results

variable {rt : Runtime} {vane : Vane} {codec : MessageCodec Message} {render : Value → String}
  {info : DistributedExtensionWriteInfo} {transport : InsertTransport} {serialized : String} {text : Message → String}
  {worker : WorkerRun Message} {global : PaimonDistributedInsertGlobalState Message}

theorem Honest.finished (h : worker.Honest rt vane codec render info)
    (hbind : deserializeTransport rt info.workerBindData = .ok transport) :
    ∃ global, Finished rt codec transport worker global := by
  obtain ⟨paimonOptions, global, s, replies, global', events, hinit, hrun, hcombined, hreplies, hfinalize⟩ := h.run
  obtain ⟨hfixed, hmessages, hrows⟩ := paimonDistributedInsertInitializeGlobal_ok hbind hinit
  have htally := Tallied.run hmessages hrows hrun
  obtain ⟨htask, hfinal, -⟩ := Proc.wp_run (wp_paimonDistributedInsertFinalize_ok replies s.global) hfinalize _ rfl
  rw [hreplies] at hfinal
  have hkept := htally.fixed.trans hfixed
  simp only [PaimonDistributedInsertGlobalState.fixed, Prod.mk.injEq] at hkept
  exact ⟨s.global, validateTask_ok htask, hkept.1, hkept.2.2.2.1, htally.messages, htally.fits,
    htally.combined hcombined, hfinal⟩

/-- Every call of an honest worker before its finalization returned. -/
theorem Honest.steps (h : worker.Honest rt vane codec render info) :
    ∀ record ∈ worker.history, ∃ s s', ReturningStep rt vane codec.currentVersion render s record s' := by
  obtain ⟨paimonOptions, global, s, replies, global', events, -, hrun, -⟩ := h.run
  intro record hrecord
  obtain ⟨before, after, hhistory⟩ := List.append_of_mem hrecord
  rw [hhistory] at hrun
  obtain ⟨middle, middle', -, hstep, -⟩ := hrun.step_of_mem
  exact ⟨middle, middle', hstep⟩

theorem Honest.rows (h : worker.Honest rt vane codec render info) (record : WorkerRecord Message)
    (hrecord : record ∈ worker.history) :
    (record.writes.flatMap PartitionWrite.rows).Perm (List.range record.call.rows) := by
  obtain ⟨s, s', hstep⟩ := h.steps record hrecord
  exact hstep.rows

theorem canonical_taken (info : DistributedExtensionWriteInfo) (text : Message → String) (worker : WorkerRun Message) :
    (worker.taken info text).canonical = (preparedIn worker.history).map text := by
  rw [Taken.canonical, taken, List.map_map]
  rfl

theorem messages_taken (info : DistributedExtensionWriteInfo) (text : Message → String) (worker : WorkerRun Message) :
    (worker.taken info text).messages = preparedIn worker.history := by
  rw [Taken.messages, taken, List.map_map]
  exact List.map_id _

theorem Finished.rowCount (h : Finished rt codec transport worker global) :
    (worker.taken info text).rowCount = global.rowCount := by
  show UInt64.ofNat (rowsIn worker.history) = _
  rw [← h.rows, UInt64.ofNat_toNat]

theorem Finished.logicalTaskId (h : Finished rt codec transport worker global) (info : DistributedExtensionWriteInfo)
    (text : Message → String) :
    worker.logicalTask = .ok (worker.taken info text).logicalTaskId := by
  obtain ⟨logicalTaskId, htask⟩ := h.task
  rw [taken, htask]

/-- The fragment of a worker opens at the coordinator. -/
theorem Finished.opens (h : Finished rt codec transport worker global) (lawful : rt.binary.Lawful)
    (trips : codec.RoundTrips) (sums : vane.Sums) (htransport : serializeTransport rt transport = .ok serialized)
    (hsmall : ∀ bytes, codec.serializeList (preparedIn worker.history) = .ok bytes → bytes.length ≤ 2 ^ 31 - 1)
    {serializedMessages : String} (hsome : global.messages ≠ []) (hrows : global.rowCount ≠ 0)
    (hlist : codec.serializeList global.messages = .ok serializedMessages) {fragment : DistributedWriteFragment}
    (hfragment : fragment = { fragmentId := expectedFragmentId global.transport.operationId worker.task.taskAttemptId
                              payload := serializeCommitEnvelope rt
                                (workerEnvelope codec.currentVersion worker.task global serialized serializedMessages)
                              rowCount := global.rowCount
                              byteCount := 0 })
    (hfragments : worker.fragments = [fragment]) :
    Opens ⟨rt, vane, codec, info, transport, serialized⟩ (worker.result info) fragment
      (workerEnvelope codec.currentVersion worker.task global serialized serializedMessages)
      ((preparedIn worker.history).map some) := by
  obtain ⟨logicalTaskId, htask⟩ := h.task
  have hwell := not_malformed_workerEnvelope lawful (h.bind ▸ htransport) htask
    (h.bind ▸ h.commitUser) trips.currentVersion hsome h.fits hrows (trips.ne_empty _ _ hsome hlist)
  have hcount : vane.rowCount (worker.result info) = global.rowCount := by
    rw [sums.rowCount]
    show (worker.fragments.map _).sum = _
    rw [hfragments, hfragment]
    exact List.sum_singleton
  refine ⟨?_, ?_, ?_, ?_, ?_, ?_⟩
  · rw [hfragment, ← h.bind]
    rfl
  · rw [hfragment]
  · rw [hfragment]
  · rw [hfragment]
    exact deserializeCommitEnvelope_serializeCommitEnvelope lawful hwell
  · unfold EnvelopeMismatch
    rw [hcount]
    simp [workerEnvelope, h.bind, hfragment, h.commitUser, result]
  · unfold deserializeMessages workerEnvelope
    have hlength : (UInt64.ofNat global.messages.length).toNat = global.messages.length :=
      UInt64.toNat_ofNat_of_lt' h.fits
    rw [← h.messages] at hsmall ⊢
    rw [throwIf_bind_eq_ok, trips.list _ _ hlist]
    refine ⟨Nat.not_lt.2 (hsmall _ hlist), ?_⟩
    dsimp only
    rw [throwIf_bind_eq_ok, hlength]
    exact ⟨by simp [hsome], rfl⟩

/-- The fragments of a worker hold exactly its messages and rows. -/
theorem Finished.holds (h : Finished rt codec transport worker global) (lawful : rt.binary.Lawful)
    (trips : codec.RoundTrips) (sums : vane.Sums) (htext : ∀ message, codec.serialize message = .ok (text message))
    (htransport : serializeTransport rt transport = .ok serialized)
    (hsmall : ∀ bytes, codec.serializeList (preparedIn worker.history) = .ok bytes → bytes.length ≤ 2 ^ 31 - 1) :
    Holds ⟨rt, vane, codec, info, transport, serialized⟩ (worker.taken info text) := by
  obtain ⟨hnone, hzero, hfragments⟩ | ⟨serializedMessages, serializedTransport, hsome, hrows, hlist, hserialize,
    hfragments⟩ := h.fragments
  · refine .none hfragments ?_ ?_ ?_ (h.rowCount.trans hzero)
    · rw [sums.rowCount]
      show (worker.fragments.map _).sum = 0
      rw [hfragments]
      rfl
    · rw [sums.byteCount]
      show (worker.fragments.map _).sum = 0
      rw [hfragments]
      rfl
    · rw [taken, ← h.messages, hnone]
      rfl
  · rw [h.bind, htransport] at hserialize
    cases hserialize
    refine .some _ _ _ hfragments (h.opens lawful trips sums htransport hsmall hsome hrows hlist rfl hfragments) ?_ h.rowCount
    rw [taken, List.forall₂_map_left_iff, List.forall₂_map_right_iff, List.forall₂_same]
    exact fun message _ => ⟨rfl, htext message⟩

/-- The result of an honest worker passes on its own. -/
theorem Finished.passes (h : Finished rt codec transport worker global) (lawful : rt.binary.Lawful)
    (trips : codec.RoundTrips) (sums : vane.Sums) (htext : ∀ message, codec.serialize message = .ok (text message))
    (hinjective : Function.Injective text) (htransport : serializeTransport rt transport = .ok serialized)
    (hvalid : vane.validateResult (worker.result info) = .ok ())
    (hsmall : ∀ bytes, codec.serializeList (preparedIn worker.history) = .ok bytes → bytes.length ≤ 2 ^ 31 - 1)
    (hdistinct : (preparedIn worker.history).Nodup) :
    Passes ⟨rt, vane, codec, info, transport, serialized⟩ (worker.taken info text) := by
  refine ⟨⟨hvalid, rfl, rfl, h.logicalTaskId info text⟩, h.holds lawful trips sums htext htransport hsmall, ?_⟩
  rw [canonical_taken]
  exact hdistinct.map hinjective

/-- Results of honest workers fit together. -/
theorem compatible_takens (info : DistributedExtensionWriteInfo) {workers : List (WorkerRun Message)}
    (hfinished : ∀ worker ∈ workers, ∃ global, Finished rt codec transport worker global)
    (hinjective : Function.Injective text)
    (hquery : ∀ a ∈ workers, ∀ b ∈ workers, a.task.queryId = b.task.queryId)
    (htasks : (workers.map logicalTask).Nodup)
    (hdistinct : (workers.flatMap fun worker => preparedIn worker.history).Nodup)
    (hrows : (workers.map fun worker => rowsIn worker.history).sum < idxLimit) :
    Compatible (workers.map (taken info text)) ∧ ((workers.map (taken info text)).map (·.logicalTaskId)).Nodup ∧
      ((workers.map (taken info text)).map (·.rowCount.toNat)).sum =
        (workers.map fun worker => rowsIn worker.history).sum := by
  have hcounts : ((workers.map (taken info text)).map (·.rowCount.toNat)).sum =
      (workers.map fun worker => rowsIn worker.history).sum := by
    rw [List.map_map]
    refine congrArg List.sum (List.map_congr_left fun worker hworker => ?_)
    obtain ⟨global, hfinished⟩ := hfinished worker hworker
    rw [← hfinished.rows, ← hfinished.rowCount]
    rfl
  refine ⟨⟨?_, ?_, ?_, hcounts ▸ hrows⟩, ?_, hcounts⟩
  · rw [List.forall_mem_map]
    intro a ha
    rw [List.forall_mem_map]
    exact hquery a ha
  · -- attempts of one query that are equal are of one logical task
    rw [List.map_map, List.Nodup, List.pairwise_map]
    rw [List.Nodup, List.pairwise_map] at htasks
    refine htasks.imp_of_mem ?_
    intro a b ha hb hne hattempt
    have hattempt : a.task.taskAttemptId = b.task.taskAttemptId := hattempt
    refine hne ?_
    rw [logicalTask, logicalTask, hquery a ha b hb, hattempt]
  · have hcanonical : (workers.map (taken info text)).flatMap Taken.canonical =
        (workers.flatMap fun worker => preparedIn worker.history).map text := by
      rw [List.flatMap_map, List.map_flatMap]
      exact List.flatMap_congr fun worker _ => canonical_taken info text worker
    rw [hcanonical]
    exact hdistinct.map hinjective
  · rw [List.map_map, List.Nodup, List.pairwise_map]
    rw [List.Nodup, List.pairwise_map] at htasks
    refine htasks.imp_of_mem ?_
    intro a b ha hb hne hid
    obtain ⟨globalA, hfinishedA⟩ := hfinished a ha
    obtain ⟨globalB, hfinishedB⟩ := hfinished b hb
    refine hne ?_
    rw [hfinishedA.logicalTaskId info text, hfinishedB.logicalTaskId info text]
    exact congrArg Except.ok hid

end Results

end WorkerRun

/-- An operator of the extension, as it is registered with Vane and bound for a planned write. -/
structure Registered (info : DistributedExtensionWriteInfo) (kind : WriteKind) (workerBindData : String) : Prop where
  mode : info.mode = .callbackSink
  name : writeOperatorName kind = .ok info.name
  capability : info.capability = ⟨"paimon", info.name, protocolVersion⟩
  fragmentCodec : info.fragmentCodec = ⟨writeFragmentCodec, protocolVersion⟩
  workerBindData : info.workerBindData = workerBindData

/-- The coordinator accepts the results of workers whose calls returned, whatever their chunks and in
whatever order they come: every message they prepared is decoded once, the row count is that of the
chunks that were sunk, and every row of a chunk was written once. -/
theorem honest_workers_accepted {Message : Type} {rt : Runtime} {vane : Vane} {codec : MessageCodec Message}
    {render : Value → String} {info : DistributedExtensionWriteInfo} {inputTypes : List LogicalType}
    {replies : PlanReplies} {unplanned insert : PhysicalPaimonInsert} {planning : List (Event Message)}
    {workers : List (WorkerRun Message)}
    (lawful : rt.binary.Lawful) (trips : codec.RoundTrips) (sums : vane.Sums)
    (planned : (initializeDistributedWrite rt inputTypes replies).run unplanned = (.ok (), insert, planning))
    (registered : Registered info insert.expectedKind insert.distributedWritePlan.workerBindData)
    (honest : ∀ worker ∈ workers, worker.Honest rt vane codec render info)
    (valid : ∀ worker ∈ workers, vane.validateResult (worker.result info) = .ok ())
    (query : ∀ a ∈ workers, ∀ b ∈ workers, a.task.queryId = b.task.queryId)
    (tasks : (workers.map WorkerRun.logicalTask).Nodup)
    (distinct : (workers.flatMap fun worker => preparedIn worker.history).Nodup)
    (small : ∀ worker ∈ workers, ∀ bytes, codec.serializeList (preparedIn worker.history) = .ok bytes →
      bytes.length ≤ 2 ^ 31 - 1)
    (rows : (workers.map fun worker => rowsIn worker.history).sum < idxLimit) :
    ∃ transport state calls,
      deserializeTransport rt insert.distributedWritePlan.workerBindData = .ok transport ∧
      (decodeCommitResults rt vane codec info transport (workers.map (WorkerRun.result info))).run {} =
        (.ok (), state, calls) ∧
      state.decoded.messages = (workers.flatMap fun worker => preparedIn worker.history) ∧
      state.decoded.rowCount.toNat = (workers.map fun worker => rowsIn worker.history).sum ∧
      ∀ worker ∈ workers, ∀ record ∈ worker.history,
        (record.writes.flatMap PartitionWrite.rows).Perm (List.range record.call.rows) := by
  have hpublished : serializeTransport rt insert.transport = .ok insert.distributedWritePlan.workerBindData :=
    (Proc.wp_run (wp_initializeDistributedWrite inputTypes replies unplanned) planned).published rfl
  have hbind := deserializeTransport_serializeTransport lawful hpublished
  have hdecodable : Decodable rt info insert.transport insert.distributedWritePlan.workerBindData := by
    refine ⟨?_, hpublished⟩
    unfold validateResolvedInfo
    rw [throwIf_bind_eq_ok]
    refine ⟨by simp [registered.mode, registered.capability], bind_eq_ok.2 ⟨_, registered.name, ?_⟩⟩
    rw [throwIf_eq_ok]
    simp [registered.capability, registered.fragmentCodec]
  obtain ⟨deserialize, hmessage⟩ := trips.message
  choose text htext hread using hmessage
  have hinjective : Function.Injective text := fun a b hab => by
    have hsame := hread a
    rw [hab, hread b] at hsame
    exact (Option.some.inj hsame).symm
  have hfinished (worker : WorkerRun Message) (hworker : worker ∈ workers) :
      ∃ global, worker.Finished rt codec insert.transport global :=
    (honest worker hworker).finished (registered.workerBindData ▸ hbind)
  obtain ⟨hcompatible, hids, hcounts⟩ :=
    WorkerRun.compatible_takens info hfinished hinjective query tasks distinct rows
  have haccepted : Accepted ⟨rt, vane, codec, info, insert.transport, insert.distributedWritePlan.workerBindData⟩
      (workers.map (WorkerRun.taken info text)) := by
    refine ⟨?_, hcompatible⟩
    rw [List.forall_mem_map]
    intro worker hworker
    obtain ⟨global, hfinished⟩ := hfinished worker hworker
    exact hfinished.passes lawful trips sums htext hinjective hpublished (valid worker hworker) (small worker hworker)
      ((List.nodup_flatMap.1 distinct).1 worker hworker)
  obtain ⟨state, calls, hdecode, hmessages, hrows⟩ := decodeCommitResults_accepts hdecodable haccepted hids
  rw [List.map_map] at hdecode
  rw [List.flatMap_map] at hmessages
  refine ⟨insert.transport, state, calls, hbind, hdecode, ?_, hrows.trans hcounts,
    fun worker hworker => (honest worker hworker).rows⟩
  rw [hmessages]
  exact List.flatMap_congr fun worker _ => WorkerRun.messages_taken info text worker

/-! ## A planned INSERT with one worker -/

namespace Sample

theorem text_roundTrips (currentVersion : Int32) (h : 0 < currentVersion) :
    (MessageCodec.text currentVersion).RoundTrips where
  currentVersion := h
  message := ⟨some, fun message => ⟨message, rfl, rfl⟩⟩
  list messages bytes hbytes := by
    cases hbytes
    have hread := Code.string.list.read_write messages []
    rw [List.append_nil] at hread
    dsimp only [MessageCodec.text]
    rw [String.toList_ofList, hread]
  ne_empty messages bytes _ hbytes hempty := by
    cases hbytes
    have hread := Code.string.list.read_write messages []
    rw [String.ofList_eq_empty_iff.1 hempty] at hread
    cases hread

theorem counting_sums : Vane.counting.Sums where
  rowCount _ := rfl
  byteCount _ := rfl

def plannedInfo : DistributedExtensionWriteInfo :=
  { info with workerBindData := writeTransport runtime plannedTransport }

theorem run_initializeDistributedWrite :
    (initializeDistributedWrite runtime [{ id := .integer }] insertPlan : Coordinator String Unit).run
        { unplanned with distributedContext := true } =
      (.ok (), { planned with distributedWorkerPlanSelected := false }, [.lock, .loadTarget, .unlock]) := by
  rfl

theorem initializeGlobal_planned :
    paimonDistributedInsertInitializeGlobal runtime .counting (.ok .empty) plannedInfo task =
      .ok { worker with transport := plannedTransport } := by
  unfold paimonDistributedInsertInitializeGlobal
  rw [throwIf_bind_eq_ok]
  refine ⟨by decide, bind_eq_ok.2 ⟨(), rfl, bind_eq_ok.2 ⟨plannedTransport, ?_, ?_⟩⟩⟩
  · exact deserializeTransport_serializeTransport binaryFormat_lawful serializeTransport_planned
  · rfl

/-- The worker that takes a row and is combined. -/
def plannedWorker : WorkerRun String where
  task := task
  history := workerHistory
  fragments :=
    [{ fragmentId := expectedFragmentId plannedTransport.operationId task.taskAttemptId
       payload := serializeCommitEnvelope runtime
         (workerEnvelope 1 task { combined.global with transport := plannedTransport, finalized := true }
           (writeTransport runtime plannedTransport) (String.ofList (Code.string.list.write ["data-0.orc"])))
       rowCount := 1
       byteCount := 0 }]

theorem run_plannedWorker :
    Run (ReturningStep runtime .counting 1 fun _ => "") { global := { worker with transport := plannedTransport } }
      workerHistory { combined with global := { combined.global with transport := plannedTransport } } := by
  have hnew : WorkerStep runtime .counting 1 (fun _ => "") { global := { worker with transport := plannedTransport } }
      ⟨.initializeLocal, (Except.ok {}).map fun (_ : PaimonDistributedInsertLocalState) => [], []⟩
      { global := { worker with transport := plannedTransport, nextWriteId := 1 }, locals := [{}] } :=
    .initializeLocal task ⟨.ok (), .ok ()⟩ rfl
  have hsink : WorkerStep runtime .counting 1 (fun _ => "")
      { global := { worker with transport := plannedTransport, nextWriteId := 1 }, locals := [{}] }
      ⟨.sink 0 oneRow, (Except.ok ()).map fun _ => [], [⟨.empty, [0]⟩].map .write⟩
      { global := { worker with transport := plannedTransport, nextWriteId := 1 }, locals := [{ rowCount := 1 }] } :=
    .sink 0 task (fun _ => .ok ()) oneRow rfl rfl
  have hcombine : WorkerStep runtime .counting 1 (fun _ => "")
      { global := { worker with transport := plannedTransport, nextWriteId := 1 }, locals := [{ rowCount := 1 }] }
      ⟨.combine 0, (Except.ok ()).map fun _ => [], [.prepareCommit [some "data-0.orc"], .close]⟩
      { combined with global := { combined.global with transport := plannedTransport } } :=
    .combine 0 task ⟨.ok [some "data-0.orc"], .ok (), .ok ()⟩ rfl rfl (by decide)
  refine .snoc (.snoc (.snoc .nil ⟨hnew, ⟨[], rfl⟩, nofun, nofun⟩) ⟨hsink, ⟨[], rfl⟩, nofun, ?_⟩)
    ⟨hcombine, ⟨[], rfl⟩, nofun, nofun⟩
  rintro _ _ lstate ⟨⟩ ⟨⟩
  rfl

theorem honest_plannedWorker : plannedWorker.Honest runtime .counting (.text 1) (fun _ => "") plannedInfo := by
  refine ⟨.ok .empty, { worker with transport := plannedTransport }, _, ⟨(MessageCodec.text 1).serializeList, .ok ()⟩,
    { combined.global with transport := plannedTransport, finalized := true, messages := [] },
    [.serializeList ["data-0.orc"] ((MessageCodec.text 1).serializeList ["data-0.orc"])], initializeGlobal_planned,
    run_plannedWorker, ?_, rfl, ?_⟩
  · intro lstate hlstate
    rw [List.mem_singleton.1 hlstate]
  · rfl

end Sample

/-- The row and the message of the planned worker are decoded, and its row is written. -/
theorem honest_workers_accepted_planned : ∃ transport state calls,
    deserializeTransport Sample.runtime (writeTransport Sample.runtime Sample.plannedTransport) = .ok transport ∧
    (decodeCommitResults Sample.runtime .counting (.text 1) Sample.plannedInfo transport
        [Sample.plannedWorker.result Sample.plannedInfo]).run {} = (.ok (), state, calls) ∧
      state.decoded.messages = ["data-0.orc"] ∧ state.decoded.rowCount.toNat = 1 ∧
      ∀ worker ∈ [Sample.plannedWorker], ∀ record ∈ worker.history,
        (record.writes.flatMap PartitionWrite.rows).Perm (List.range record.call.rows) := by
  have honest : ∀ worker ∈ [Sample.plannedWorker],
      worker.Honest Sample.runtime .counting (.text 1) (fun _ => "") Sample.plannedInfo := by
    rw [List.forall_mem_singleton]
    exact Sample.honest_plannedWorker
  have small : ∀ worker ∈ [Sample.plannedWorker], ∀ bytes,
      (MessageCodec.text 1).serializeList (preparedIn worker.history) = .ok bytes → bytes.length ≤ 2 ^ 31 - 1 := by
    rw [List.forall_mem_singleton]
    rintro bytes ⟨⟩
    decide +kernel
  have haccepted := honest_workers_accepted binaryFormat_lawful (Sample.text_roundTrips 1 (by decide))
    Sample.counting_sums Sample.run_initializeDistributedWrite ⟨rfl, rfl, rfl, rfl, rfl⟩ honest (fun _ _ => rfl) (by simp)
    (List.nodup_singleton _) (by decide) small (by decide)
  exact haccepted

end DuckPaimon.Write
