/-
Who owns the messages that the local writers of a worker prepare (paimon_distributed_insert.cpp): once its global
state is destroyed, each is in the payload of the one fragment the worker returned, or was aborted. What a
fragment publishes are the messages its payload is read back as.
-/
import DuckPaimon.Lib.Custody
import DuckPaimon.Write.Honest

namespace DuckPaimon.Write

open Outcome

variable {Message : Type}

/-! ## What is published -/

section Published

variable (rt : Runtime) (codec : MessageCodec Message)

/-- The messages of a fragment: those its payload lists, as they are read back. -/
def messagesOf (fragment : DistributedWriteFragment) : List Message :=
  match deserializeCommitEnvelope rt fragment.payload with
  | .error _ => []
  | .ok envelope =>
    match codec.deserializeList envelope.commitMessageVersion envelope.serializedMessages with
    | .error _ => []
    | .ok messages => messages.filterMap id

/-- What was published in a run. -/
def publishedIn (history : List (WorkerRecord Message)) : List Message :=
  (fragmentsIn history).flatMap (messagesOf rt codec)

/-- What `SerializeList` returned in a call is what the codec makes of the messages. -/
def WorkerRecord.SerializedBy (record : WorkerRecord Message) : Prop :=
  ∀ messages bytes, .serializeList messages (.ok bytes) ∈ record.events → codec.serializeList messages = .ok bytes

variable {rt codec} {vane : Vane}

/-- A worker only runs the task it was made for. -/
theorem task_of_validateTask {global : PaimonDistributedInsertGlobalState Message} {task : DistributedWriteTaskContext}
    (h : validateTask vane global task = .ok ()) : global.queryId = task.queryId ∧
      global.taskAttemptId = task.taskAttemptId := by
  unfold validateTask at h
  obtain ⟨-, -, h⟩ := bind_eq_ok.1 h
  obtain ⟨-, -, h⟩ := bind_eq_ok.1 h
  rw [throwIf_eq_ok, not_or, not_not, not_not] at h
  exact h

/-- The fragment of a finalization publishes the messages of the global state. -/
theorem FinalizesWith.messagesOf {task : DistributedWriteTaskContext} {serializeList : List Message → Result String}
    {global : PaimonDistributedInsertGlobalState Message} {fragment : DistributedWriteFragment}
    (h : FinalizesWith rt codec.currentVersion task serializeList global [fragment]) (lawful : rt.binary.Lawful)
    (trips : codec.RoundTrips) (htask : validateTask vane global task = .ok ())
    (huser : global.writerCommitUser =
      workerCommitUser rt global.transport.operationId ⟨global.queryId, global.taskAttemptId⟩)
    (hfits : global.messages.length < idxLimit)
    (hlist : ∀ bytes, serializeList global.messages = .ok bytes → codec.serializeList global.messages = .ok bytes) :
    messagesOf rt codec fragment = global.messages := by
  rcases h with ⟨-, -, hnone⟩ | ⟨serializedMessages, serializedTransport, hsome, hrows, hbytes, htransport, heq⟩
  · cases hnone
  obtain rfl := List.singleton_inj.1 heq
  obtain ⟨logicalTaskId, hidentity⟩ := validateTask_ok htask
  obtain ⟨hquery, hattempt⟩ := task_of_validateTask htask
  have hread := hlist _ hbytes
  rw [hquery, hattempt] at huser
  -- the coordinator reads the envelope back as it was written
  have hwell := not_malformed_workerEnvelope lawful htransport hidentity huser trips.currentVersion hsome hfits hrows
    (trips.ne_empty _ _ hsome hread)
  unfold Write.messagesOf
  rw [deserializeCommitEnvelope_serializeCommitEnvelope lawful hwell]
  dsimp only [workerEnvelope]
  rw [trips.list _ _ hread]
  exact filterMap_id_map_some global.messages

end Published

/-! ## Custody of the messages -/

/-- The messages of a worker, as tokens that are got, kept, destroyed and given away. -/
def custody (rt : Runtime) (codec : MessageCodec Message) (history : List (WorkerRecord Message))
    (s : WorkerState Message) : Custody Message where
  got := s.allocated
  kept := s.global.messages
  destroyed := abortedIn history
  given := publishedIn rt codec history
  closed := s.global.finalized

/-- What a run keeps: sound custody of all messages that were got, and a global state whose envelope is well
formed. -/
structure Owned (rt : Runtime) (codec : MessageCodec Message) (history : List (WorkerRecord Message))
    (s : WorkerState Message) : Prop where
  returned : Returned history s
  allocated : preparedIn history = s.allocated
  sound : (custody rt codec history s).Sound
  user : s.global.writerCommitUser =
    workerCommitUser rt s.global.transport.operationId ⟨s.global.queryId, s.global.taskAttemptId⟩
  fits : s.global.messages.length < idxLimit

section Owned

variable {rt : Runtime} {vane : Vane} {codec : MessageCodec Message} {render : Value → String}
  {history : List (WorkerRecord Message)} {s s' : WorkerState Message} {record : WorkerRecord Message}

/-- A call without a fragment leaves what was published. -/
theorem publishedIn_silent (hfragments : record.fragments = []) :
    publishedIn rt codec (history ++ [record]) = publishedIn rt codec history := by
  rw [publishedIn, fragmentsIn_snoc, hfragments, List.append_nil]
  rfl

/-- A call that hands the messages over keeps what it got, or destroys it. -/
theorem HandsOver.moves (h : HandsOver s.global s'.global record.events) (hfragments : record.fragments = [])
    (hallocated : s'.allocated = s.allocated ++ record.prepared) (hnodup : s'.allocated.Nodup) :
    (custody rt codec history s).Moves (custody rt codec (history ++ [record]) s') := by
  rw [hallocated] at hnodup
  have hafter : custody rt codec (history ++ [record]) s' =
      { got := s.allocated ++ record.prepared, kept := s'.global.messages
        destroyed := abortedIn history ++ record.aborted, given := publishedIn rt codec history
        closed := s.global.finalized } := by
    unfold custody
    rw [hallocated, abortedIn_snoc, publishedIn_silent hfragments, h.finalized]
  rw [hafter]
  rcases h.messages with ⟨hkept, haborted⟩ | ⟨hkept, haborted⟩
  · have haborted : record.aborted = record.prepared := haborted
    rw [hkept, haborted]
    exact .rejects hnodup
  · have haborted : record.aborted = [] := haborted
    rw [hkept, haborted, List.append_nil]
    exact .takes hnodup

/-- A finalization that returns a fragment gives away what is kept. -/
theorem publishes_moves {global : PaimonDistributedInsertGlobalState Message}
    {fragment : DistributedWriteFragment} {events : List (WorkerEvent Message)} (hopen : s.global.finalized = false)
    (hfinal : global.finalized = true) (haborted : events.flatMap WorkerEvent.aborted = [])
    (hmessages : global.messages = []) (hpublished : messagesOf rt codec fragment = s.global.messages) :
    (custody rt codec history s).Moves
      (custody rt codec (history ++ [⟨.finalize, .ok [fragment], events⟩]) { s with global }) := by
  have hafter : custody rt codec (history ++ [⟨.finalize, .ok [fragment], events⟩]) { s with global } =
      { custody rt codec history s with
          kept := [], given := publishedIn rt codec history ++ s.global.messages, closed := true } := by
    have hdestroyed : abortedIn (history ++ [⟨.finalize, .ok [fragment], events⟩]) = abortedIn history := by
      rw [abortedIn_snoc]
      exact (congrArg (abortedIn history ++ ·) haborted).trans (List.append_nil _)
    have hgiven : publishedIn rt codec (history ++ [⟨.finalize, .ok [fragment], events⟩]) =
        publishedIn rt codec history ++ s.global.messages := by
      rw [publishedIn, fragmentsIn_snoc, List.flatMap_append, ← hpublished]
      exact congrArg (publishedIn rt codec history ++ ·) (List.flatMap_singleton _ _)
    unfold custody
    rw [hdestroyed, hgiven, hmessages, hfinal]
  rw [hafter]
  exact .gives hopen

/-- A finalization that returns none destroys what is kept, or leaves it. -/
theorem Finalizes.retains {global : PaimonDistributedInsertGlobalState Message}
    {r : Except Exception (List DistributedWriteFragment)} {events : List (WorkerEvent Message)}
    (h : Finalizes s.global global r events) (history : List (WorkerRecord Message))
    (hnone : WorkerRecord.fragments ⟨.finalize, r, events⟩ = []) (hmessages : global.messages = s.global.messages)
    (haborted : events.flatMap WorkerEvent.aborted = [] ∨
      events.flatMap WorkerEvent.aborted = s.global.messages ∧ global.finalized = true) :
    (custody rt codec (history ++ [⟨.finalize, r, events⟩]) { s with global }) = custody rt codec history s ∨
      (custody rt codec history s).Moves
        (custody rt codec (history ++ [⟨.finalize, r, events⟩]) { s with global }) := by
  have hafter : custody rt codec (history ++ [⟨.finalize, r, events⟩]) { s with global } =
      { custody rt codec history s with
          destroyed := abortedIn history ++ events.flatMap WorkerEvent.aborted, closed := global.finalized } := by
    unfold custody
    rw [abortedIn_snoc, publishedIn_silent hnone, hmessages]
    rfl
  rw [hafter]
  rcases haborted with hempty | ⟨hall, hfinal⟩
  · rw [hempty, List.append_nil]
    cases hclosed : global.finalized with
    | true => exact .inr .closes
    | false =>
      refine .inl ?_
      have hopen : s.global.finalized = false := by
        by_contra hfinal
        rw [Bool.not_eq_false] at hfinal
        exact absurd ((h.finalized hfinal).symm.trans hclosed) Bool.noConfusion
      unfold custody
      rw [hopen]
  · rw [hall, hfinal]
    exact .inr .destroys

/-- Every call keeps the invariant. -/
theorem Owned.step (lawful : rt.binary.Lawful) (trips : codec.RoundTrips) (h : Owned rt codec history s)
    (hstep : WorkerStep rt vane codec.currentVersion render s record s') (hcodec : record.SerializedBy codec) :
    Owned rt codec (history ++ [record]) s' := by
  have huser : s'.global.writerCommitUser =
      workerCommitUser rt s'.global.transport.operationId ⟨s'.global.queryId, s'.global.taskAttemptId⟩ := by
    have hfixed := hstep.fixed
    simp only [PaimonDistributedInsertGlobalState.fixed, Prod.mk.injEq] at hfixed
    obtain ⟨htransport, hquery, hattempt, huser, -⟩ := hfixed
    rw [htransport, hquery, hattempt, huser]
    exact h.user
  have hreturned := h.returned.step hstep
  by_cases hcall : record.call = .finalize
  · cases hstep with
    | initializeLocal => cases hcall
    | sink => cases hcall
    | combine => cases hcall
    | finalize task replies run =>
      rename_i r global events
      have hfinalizes := Proc.wp_run (wp_paimonDistributedInsertFinalize replies s.global) run
      have hallocated : preparedIn (history ++ [⟨.finalize, r, events⟩]) = s.allocated := by
        rw [preparedIn_snoc, h.allocated]
        exact (congrArg (s.allocated ++ ·) hfinalizes.prepared).trans (List.append_nil _)
      rcases hfinalizes.messages with ⟨fragment, rfl, hopen, hfinal, haborted, hmessages⟩ | ⟨hresult, hmessages, haborted⟩
      · obtain ⟨htask, hwith, hserialize⟩ :=
          Proc.wp_run (wp_paimonDistributedInsertFinalize_ok replies s.global) run _ rfl
        have hpublished := hwith.messagesOf lawful trips htask h.user h.fits fun bytes hbytes => by
          refine hcodec _ _ ?_
          rw [hserialize (List.cons_ne_nil _ _), hbytes]
          exact List.mem_cons_self
        refine ⟨hreturned, hallocated, h.sound.moves (publishes_moves hopen hfinal haborted hmessages hpublished), huser, ?_⟩
        show global.messages.length < _
        rw [hmessages]
        exact Nat.two_pow_pos 64
      · have hnone : WorkerRecord.fragments ⟨.finalize, r, events⟩ = [] := by
          rcases hresult with rfl | ⟨e, rfl⟩ <;> rfl
        refine ⟨hreturned, hallocated, ?_, huser, hmessages ▸ h.fits⟩
        rcases hfinalizes.retains history hnone hmessages haborted with hsame | hmoves
        · exact hsame ▸ h.sound
        · exact h.sound.moves hmoves
  · obtain ⟨hhands, hfragments, hallocated, hnodup⟩ := hstep.handsOver hcall
    refine ⟨hreturned, ?_, h.sound.moves (hhands.moves hfragments hallocated (hnodup h.sound.nodup)), huser,
      hhands.fits h.fits⟩
    rw [preparedIn_snoc, h.allocated, hallocated]

/-- What a new global state owns. -/
theorem owned_start {paimonOptions : Except Exception StringMap} {info : DistributedExtensionWriteInfo}
    {task : DistributedWriteTaskContext} {global : PaimonDistributedInsertGlobalState Message}
    (h : paimonDistributedInsertInitializeGlobal rt vane paimonOptions info task = .ok global) :
    Owned rt codec [] { global } := by
  obtain ⟨transport, hbind⟩ := deserializeTransport_of_initializeGlobal h
  obtain ⟨hfixed, hmessages, -⟩ := paimonDistributedInsertInitializeGlobal_ok hbind h
  simp only [PaimonDistributedInsertGlobalState.fixed, Prod.mk.injEq] at hfixed
  obtain ⟨htransport, hquery, hattempt, huser, -⟩ := hfixed
  refine ⟨⟨fun _ => rfl, Nat.zero_le _⟩, rfl, ?_, ?_, ?_⟩
  · have hstart : custody rt codec [] { global } = { closed := global.finalized } := by
      unfold custody
      rw [hmessages]
      rfl
    rw [hstart]
    exact Custody.sound_start
  · rw [huser, htransport, hquery, hattempt]
  · show global.messages.length < _
    rw [hmessages]
    exact Nat.two_pow_pos 64

/-- Once the global state of a worker is destroyed, a message `PrepareCommit` returned is either in the payload of
the one fragment and was never aborted, or was aborted and is in no fragment. -/
theorem worker_owns_messages {paimonOptions : Except Exception StringMap} {info : DistributedExtensionWriteInfo}
    {task : DistributedWriteTaskContext} {global : PaimonDistributedInsertGlobalState Message} (lawful : rt.binary.Lawful)
    (trips : codec.RoundTrips)
    (hinit : paimonDistributedInsertInitializeGlobal rt vane paimonOptions info task = .ok global)
    (run : Run (WorkerStep rt vane codec.currentVersion render) { global } history s)
    (serializes : ∀ record ∈ history, record.SerializedBy codec) :
    (fragmentsIn history).length ≤ 1 ∧
      ∀ m ∈ preparedIn history,
        (m ∈ publishedIn rt codec history ∧ m ∉ abortedIn history ++ s.destroy.flatMap WorkerEvent.aborted) ∨
          (m ∈ abortedIn history ++ s.destroy.flatMap WorkerEvent.aborted ∧ m ∉ publishedIn rt codec history) := by
  have howned : Owned rt codec history s := by
    refine run.invariant (I := fun history s => (∀ record ∈ history, record.SerializedBy codec) →
      Owned rt codec history s) (fun _ => owned_start hinit) (fun ih hstep hall => ?_) serializes
    rw [List.forall_mem_append, List.forall_mem_singleton] at hall
    exact (ih hall.1).step lawful trips hstep hall.2
  have hdestroy : s.destroy.flatMap WorkerEvent.aborted = s.global.messages := by
    show (s.global.messages.map some).filterMap id ++ [] = _
    rw [filterMap_id_map_some, List.append_nil]
  refine ⟨howned.returned.single, fun m hm => ?_⟩
  rw [hdestroy]
  rw [howned.allocated] at hm
  exact howned.sound.settled hm

end Owned

/-! ## A worker with two writers -/

namespace Sample

/-- Behind the first writer a second one takes a row, but fails to close; what it prepared is aborted. Then the worker
finalizes. -/
def finishedHistory : List (WorkerRecord String) :=
  workerHistory ++ [⟨.initializeLocal, .ok [], []⟩] ++ [⟨.sink 1 oneRow, .ok [], [.write ⟨.empty, [0]⟩]⟩] ++
    [⟨.combine 1, .error (.io "closed"),
      [.prepareCommit [some "data-1.orc"], .close, .bestEffortAbort [some "data-1.orc"]]⟩] ++
    [⟨.finalize, .ok [{ fragmentId := expectedFragmentId transport.operationId task.taskAttemptId
                        payload := serializeCommitEnvelope runtime (workerEnvelope 1 task combined.global
                          (writeTransport runtime transport) (String.ofList (Code.string.list.write ["data-0.orc"])))
                        rowCount := 1
                        byteCount := 0 }],
      [.serializeList ["data-0.orc"] ((MessageCodec.text 1).serializeList ["data-0.orc"])]⟩]

def finished : WorkerState String where
  global := { combined.global with nextWriteId := 2, messages := [], finalized := true }
  locals := [{ writer := false, rowCount := 1 }, { writer := false, rowCount := 1 }]
  allocated := ["data-0.orc", "data-1.orc"]

theorem run_finishedHistory :
    Run (WorkerStep runtime .counting 1 fun _ => "") { global := worker } finishedHistory finished := by
  have hnew : WorkerStep runtime .counting 1 (fun _ => "") combined
      ⟨.initializeLocal, (Except.ok {}).map fun (_ : PaimonDistributedInsertLocalState) => [], []⟩
      { combined with global := { combined.global with nextWriteId := 2 }, locals := combined.locals ++ [{}] } :=
    .initializeLocal task ⟨.ok (), .ok ()⟩ rfl
  have hsink : WorkerStep runtime .counting 1 (fun _ => "")
      { combined with global := { combined.global with nextWriteId := 2 }, locals := combined.locals ++ [{}] }
      ⟨.sink 1 oneRow, (Except.ok ()).map fun _ => [], [⟨.empty, [0]⟩].map .write⟩
      { combined with
          global := { combined.global with nextWriteId := 2 }, locals := combined.locals ++ [{ rowCount := 1 }] } :=
    .sink 1 task (fun _ => .ok ()) oneRow rfl rfl
  have hcombine : WorkerStep runtime .counting 1 (fun _ => "")
      { combined with
          global := { combined.global with nextWriteId := 2 }, locals := combined.locals ++ [{ rowCount := 1 }] }
      ⟨.combine 1, (Except.error (.io "closed")).map fun (_ : Unit) => [],
        [.prepareCommit [some "data-1.orc"], .close, .bestEffortAbort [some "data-1.orc"]]⟩
      { finished with global := { combined.global with nextWriteId := 2 } } :=
    .combine 1 task ⟨.ok [some "data-1.orc"], .error { text := "closed" }, .ok ()⟩ rfl rfl (by decide)
  exact .snoc (.snoc (.snoc (.snoc run_workerHistory hnew) hsink) hcombine)
    (.finalize task ⟨(MessageCodec.text 1).serializeList, .ok ()⟩ rfl)

/-- The message of the first writer is in the payload of the fragment, that of the second one is not. -/
theorem worker_owns_messages_finishedHistory :
    ("data-0.orc" ∈ publishedIn runtime (.text 1) finishedHistory ∧ "data-0.orc" ∉ abortedIn finishedHistory) ∧
      "data-1.orc" ∈ abortedIn finishedHistory ∧ "data-1.orc" ∉ publishedIn runtime (.text 1) finishedHistory := by
  have hserializes : ∀ record ∈ finishedHistory, record.SerializedBy (.text 1) := by
    simp [finishedHistory, workerHistory, WorkerRecord.SerializedBy]
    rintro messages bytes rfl hbytes
    exact hbytes.symm
  have howns := (worker_owns_messages binaryFormat_lawful (text_roundTrips 1 (by decide)) initializeGlobal_worker
    run_finishedHistory hserializes).2
  have hkept : "data-0.orc" ∉ abortedIn finishedHistory ++ finished.destroy.flatMap WorkerEvent.aborted := by decide
  have haborted : "data-1.orc" ∈ abortedIn finishedHistory := by decide
  refine ⟨⟨?_, fun hmem => hkept (List.mem_append_left _ hmem)⟩, haborted, ?_⟩
  · rcases howns "data-0.orc" (by decide) with ⟨hpublished, -⟩ | ⟨hmem, -⟩
    · exact hpublished
    · exact absurd hmem hkept
  · rcases howns "data-1.orc" (by decide) with ⟨-, hnot⟩ | ⟨-, hunpublished⟩
    · exact absurd (List.mem_append_left _ haborted) hnot
    · exact hunpublished

end Sample

end DuckPaimon.Write
