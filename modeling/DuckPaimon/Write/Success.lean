/-
Writes that succeed (paimon_distributed_insert.cpp): in whatever way an operator was planned and prepared,
its first finalization over the results of honest workers commits all they prepared, as one operation on
the recorded target, and returns the number of their rows.
-/
import DuckPaimon.Write.Bind
import DuckPaimon.Write.Honest

namespace DuckPaimon.Write

open Outcome

variable {Message : Type} {rt : Runtime} {vane : Vane}

/-! ## A finalization that decodes -/

theorem wp_enterFinalize_decoded {decode : DecodeReplies Message} {results : List DistributedWriteTaskResult}
    {insert : PhysicalPaimonInsert} {transport : InsertTransport} {decoded : DecodedCommit Message}
    (entering : Entering rt insert) (prepared : insert.distributedTargetPrepared = true)
    (decoding : Decoding rt vane decode results insert transport (.ok ()) decoded) :
    (enterFinalize rt vane decode results).wp insert fun r insert' events =>
      r = .ok (transport, decoded) ∧ insert' = insert.finalizing ∧ events = [] := by
  obtain ⟨options, hoptions⟩ := decoding.options
  unfold enterFinalize buildRuntimeOptions
  simp only [Proc.wp_bind, Proc.wp_get, Proc.wp_ofExcept, entering.shape, Proc.wp_throwIf, entering.open_,
    Bool.false_eq_true, if_false, Proc.wp_modify, decoding.target, hoptions]
  rw [if_neg (by simp [prepared])]
  refine Proc.wp_mono (wp_decodeOrAbort decode transport results _ decoding.decodes) ?_
  rintro r insert' events ⟨rfl, ⟨-, rfl, rfl⟩ | ⟨e, herror, -⟩⟩
  · exact (Proc.wp_pure _ _ _).2 ⟨rfl, rfl, rfl⟩
  · cases herror

/-- With nothing to commit, the critical section returns no rows. -/
theorem wp_commitSection_nothing {replies : CommitReplies} {transport : InsertTransport}
    {decoded : DecodedCommit Message}
    {insert : PhysicalPaimonInsert} (nothing : NothingToCommit insert replies decoded) :
    (commitSection replies transport decoded).wp insert fun r insert' events =>
      r = .ok 0 ∧ insert' = insert ∧ events = [.lock, .loadTarget, .unlock] := by
  unfold commitSection
  rw [Proc.wp_bind, Proc.wp_call]
  show Proc.wp _ _ _
  rw [Proc.wp_bind, Proc.wp_tryCatch]
  refine Proc.wp_mono (wp_readyToCommit replies decoded insert) ?_
  rintro r insert' events ⟨rfl, -, -, hnothing, hevents⟩
  obtain rfl := hnothing.2 nothing
  obtain rfl := hevents ⟨_, rfl⟩
  show Proc.wp _ _ _
  simp only [Bool.false_eq_true, if_false, Proc.wp_bind, Proc.wp_tryCatch, Proc.wp_pure, Proc.wp_call]
  exact ⟨trivial, trivial, rfl⟩

/-- What can be committed is committed, if Paimon commits it. -/
theorem wp_commitSection_commits {replies : CommitReplies} {transport : InsertTransport}
    {decoded : DecodedCommit Message} {insert : PhysicalPaimonInsert} (committable : Committable insert replies decoded)
    (commits : replies.commit = .ok 1) :
    (commitSection replies transport decoded).wp insert fun r insert' events =>
      r = .ok decoded.rowCount ∧ insert' = insert ∧
        events = [.lock, .loadTarget, .filterAndCommit transport.commitIdentifier decoded.messages, .unlock] := by
  refine Proc.wp_mono (wp_commitSection replies transport decoded insert) ?_
  rintro r insert' events ⟨rfl, hends⟩
  cases hends with
  | withheld _ not => exact absurd committable not
  | nothing nothing => exact absurd nothing.messages committable.messages
  | commits _ ends =>
    rcases ends with ⟨-, rfl⟩ | ⟨hfails, -⟩
    · exact ⟨rfl, rfl, rfl⟩
    · exact absurd commits hfails

/-! ## The results of honest workers -/

section Honest

variable {codec : MessageCodec Message} {render : Value → String} {info : DistributedExtensionWriteInfo}
  {workers : List (WorkerRun Message)} {insert : PhysicalPaimonInsert}

/-- The messages of workers and their rows. -/
def allPrepared (workers : List (WorkerRun Message)) : List Message :=
  workers.flatMap fun worker => preparedIn worker.history
@[inherit_doc allPrepared] def allRows (workers : List (WorkerRun Message)) : Nat :=
  (workers.map fun worker => rowsIn worker.history).sum

/-- What is promised of the workers of a write, of the registered operator and of Paimon's codec. -/
structure HonestWrite (rt : Runtime) (vane : Vane) (codec : MessageCodec Message) (render : Value → String)
    (info : DistributedExtensionWriteInfo) (insert : PhysicalPaimonInsert) (workers : List (WorkerRun Message)) :
    Prop where
  lawful : rt.binary.Lawful
  trips : codec.RoundTrips
  sums : vane.Sums
  registered : Registered info insert.expectedKind insert.distributedWritePlan.workerBindData
  honest : ∀ worker ∈ workers, worker.Honest rt vane codec render info
  valid : ∀ worker ∈ workers, vane.validateResult (worker.result info) = .ok ()
  query : ∀ a ∈ workers, ∀ b ∈ workers, a.task.queryId = b.task.queryId
  tasks : (workers.map WorkerRun.logicalTask).Nodup
  distinct : (allPrepared workers).Nodup
  small : ∀ worker ∈ workers, ∀ bytes, codec.serializeList (preparedIn worker.history) = .ok bytes →
    bytes.length ≤ 2 ^ 31 - 1
  rows : allRows workers < idxLimit

/-- A worker has messages exactly if it has rows. -/
theorem prepared_iff_rows {transport : InsertTransport} {worker : WorkerRun Message}
    {global : PaimonDistributedInsertGlobalState Message} (h : worker.Finished rt codec transport global) :
    preparedIn worker.history = [] ↔ rowsIn worker.history = 0 := by
  rw [← h.messages, ← h.rows]
  obtain ⟨hmessages, hrows, -⟩ | ⟨_, _, hmessages, hrows, -⟩ := h.fragments
  · rw [hrows]
    exact iff_of_true hmessages rfl
  · refine iff_of_false hmessages fun hzero => hrows ?_
    rw [← UInt64.toNat_inj, hzero]
    rfl

/-- The workers read the bind of the operator. -/
theorem HonestWrite.bind (h : HonestWrite rt vane codec render info insert workers) (published : Published rt insert) :
    deserializeTransport rt info.workerBindData = .ok insert.transport := by
  rw [h.registered.workerBindData]
  exact deserializeTransport_serializeTransport h.lawful published

theorem HonestWrite.finished (h : HonestWrite rt vane codec render info insert workers)
    (published : Published rt insert) {worker : WorkerRun Message} (hworker : worker ∈ workers) :
    ∃ global, worker.Finished rt codec insert.transport global :=
  (h.honest worker hworker).finished (h.bind published)

/-- Together, too. -/
theorem HonestWrite.nothing_iff (h : HonestWrite rt vane codec render info insert workers)
    (published : Published rt insert) : allPrepared workers = [] ↔ allRows workers = 0 := by
  unfold allPrepared allRows
  rw [List.flatMap_eq_nil_iff, List.sum_eq_zero_iff_forall_eq_nat, List.forall_mem_map]
  refine forall₂_congr fun worker hworker => ?_
  obtain ⟨global, hfinished⟩ := h.finished published hworker
  exact prepared_iff_rows hfinished

/-- The coordinator decodes them all. -/
theorem HonestWrite.decodes (h : HonestWrite rt vane codec render info insert workers)
    (published : Published rt insert) {decode : DecodeReplies Message} (hinfo : decode.resolvedInfo = .ok info)
    (hcodec : decode.codec = codec) :
    decodeWith rt vane decode insert.transport (workers.map (WorkerRun.result info)) =
      (.ok (), ⟨allPrepared workers, UInt64.ofNat (allRows workers)⟩) := by
  subst hcodec
  obtain ⟨deserialize, hmessage⟩ := h.trips.message
  choose text htext hread using hmessage
  -- messages that read back differ in their texts, so distinct messages are no duplicates for the coordinator
  have hinjective : Function.Injective text := fun a b hab => by
    have hsame := hread a
    rw [hab, hread b] at hsame
    exact (Option.some.inj hsame).symm
  have hfinished (worker : WorkerRun Message) (hworker : worker ∈ workers) := h.finished published hworker
  obtain ⟨hcompatible, hids, hcounts⟩ :=
    WorkerRun.compatible_takens info hfinished hinjective h.query h.tasks h.distinct h.rows
  have hdecodable : Decodable rt info insert.transport insert.distributedWritePlan.workerBindData := by
    refine ⟨?_, published⟩
    unfold validateResolvedInfo
    rw [throwIf_bind_eq_ok]
    refine ⟨by simp [h.registered.mode, h.registered.capability], bind_eq_ok.2 ⟨_, h.registered.name, ?_⟩⟩
    rw [throwIf_eq_ok]
    simp [h.registered.capability, h.registered.fragmentCodec]
  have haccepted : Accepted ⟨rt, vane, decode.codec, info, insert.transport, insert.distributedWritePlan.workerBindData⟩
      (workers.map (WorkerRun.taken info text)) := by
    refine ⟨?_, hcompatible⟩
    rw [List.forall_mem_map]
    intro worker hworker
    obtain ⟨global, hfinished⟩ := hfinished worker hworker
    exact hfinished.passes h.lawful h.trips h.sums htext hinjective published (h.valid worker hworker)
      (h.small worker hworker) ((List.nodup_flatMap.1 h.distinct).1 worker hworker)
  have hrows : ((workers.map (WorkerRun.taken info text)).map (·.rowCount.toNat)).sum =
      (UInt64.ofNat (allRows workers)).toNat := by
    rw [hcounts, UInt64.toNat_ofNat_of_lt' h.rows]
    rfl
  have hdecodes := decodeWith_accepts hinfo hdecodable haccepted hids hrows
  rw [List.map_map, List.flatMap_map] at hdecodes
  have hmessages : (workers.flatMap fun worker => (worker.taken info text).messages) = allPrepared workers :=
    List.flatMap_congr fun worker _ => WorkerRun.messages_taken info text worker
  rw [hmessages] at hdecodes
  exact hdecodes

end Honest

/-! ## Finalizing an honest write -/

/-- The first finalization of a prepared operator whose plan is bound to its target. -/
theorem HonestWrite.finalizes {codec : MessageCodec Message} {render : Value → String}
    {info : DistributedExtensionWriteInfo} {workers : List (WorkerRun Message)} {options : StringMap}
    {insert : PhysicalPaimonInsert} {decode : DecodeReplies Message} {commit : CommitReplies}
    (honest : HonestWrite rt vane codec render info insert workers) (bound : Bound rt insert)
    (shape : validateCoordinatorShape rt insert = .ok ()) (prepared : insert.distributedTargetPrepared = true)
    (first : insert.distributedFinalizeStarted = false)
    (decodes : decode.paimonOptions = .ok options ∧ decode.resolvedInfo = .ok info ∧ decode.codec = codec)
    (unchanged : AtBaseline insert commit.baseline) (committer : createCommitter commit.committer = .ok ())
    (commits : commit.commit = .ok 1) :
    (finalizeDistributedWrite rt vane decode commit (workers.map (WorkerRun.result info))).run insert =
      (.ok (UInt64.ofNat (allRows workers)), insert.finalizing,
        if allRows workers = 0 then [.lock, .loadTarget, .unlock]
        else [.lock, .loadTarget, .filterAndCommit insert.distributedCommitIdentifier (allPrepared workers),
          .unlock]) := by
  -- the shape is only valid with a plan, and a plan is only there with a bind
  have hselected := selected_of_shape shape
  have hpublished := bound.published hselected
  obtain ⟨hoptions, hinfo, hcodec⟩ := decodes
  have hdecoding : Decoding rt vane decode (workers.map (WorkerRun.result info)) insert insert.transport (.ok ())
      ⟨allPrepared workers, UInt64.ofNat (allRows workers)⟩ :=
    ⟨bound.getCoordinatorTransport honest.lawful hselected, ⟨options, hoptions⟩, honest.decodes hpublished hinfo hcodec⟩
  have hbaseline : AtBaseline insert.finalizing commit.baseline := unchanged
  have hcount : (UInt64.ofNat (allRows workers)).toNat = allRows workers := UInt64.toNat_ofNat_of_lt' honest.rows
  refine Proc.run_eq ?_
  unfold finalizeDistributedWrite
  rw [Proc.wp_bind]
  refine Proc.wp_mono (wp_enterFinalize_decoded ⟨shape, first⟩ prepared hdecoding) ?_
  rintro r insert' events ⟨rfl, rfl, rfl⟩
  show Proc.wp _ _ _
  by_cases hzero : allRows workers = 0
  · have hnothing := (honest.nothing_iff hpublished).2 hzero
    refine Proc.wp_mono (wp_commitSection_nothing ⟨hbaseline, hnothing, ?_⟩) ?_
    · rw [hzero]
      rfl
    · rintro r insert' events ⟨rfl, rfl, rfl⟩
      rw [if_pos hzero, hzero]
      exact ⟨rfl, rfl, rfl⟩
  · have hsome : allPrepared workers ≠ [] := fun hnone => hzero ((honest.nothing_iff hpublished).1 hnone)
    have hrows : UInt64.ofNat (allRows workers) ≠ 0 := by
      intro h
      rw [h] at hcount
      exact hzero hcount.symm
    refine Proc.wp_mono (wp_commitSection_commits ⟨hbaseline, hsome, hrows, committer⟩ commits) ?_
    rintro r insert' events ⟨rfl, rfl, rfl⟩
    rw [if_neg hzero]
    exact ⟨rfl, rfl, rfl⟩

/-- Whatever calls an operator has seen: once its target is prepared, it does not execute natively, and its first
finalization over the results of honest workers commits all messages they prepared, under the planned identifier and in
one operation, aborts none of them, and returns the number of their rows. Without rows there is nothing to commit. -/
theorem honest_write_commits {codec : MessageCodec Message} {render : Value → String}
    {info : DistributedExtensionWriteInfo}
    {workers : List (WorkerRun Message)} {accessMode : AccessMode} {createInfo : Option CreateTableInfo}
    {tableIdentifier : Identifier} {paimonOptions options : StringMap} {partKeys : List String}
    {children : List (List LogicalType)} {history : List (Performed Message)} {insert : PhysicalPaimonInsert}
    {decode : DecodeReplies Message} {commit : CommitReplies}
    (run : Run (Performs rt vane) (.new accessMode createInfo tableIdentifier paimonOptions partKeys children) history
      insert)
    (prepared : insert.distributedTargetPrepared = true) (first : insert.distributedFinalizeStarted = false)
    (honest : HonestWrite rt vane codec render info insert workers)
    (decodes : decode.paimonOptions = .ok options ∧ decode.resolvedInfo = .ok info ∧ decode.codec = codec)
    (unchanged : AtBaseline insert commit.baseline) (committer : createCommitter commit.committer = .ok ())
    (commits : commit.commit = .ok 1) :
    (buildPipelines : Coordinator Message Unit).run insert =
        (.error (.invalidInput "A distributed Paimon write worker plan cannot execute as a native coordinator operator"),
          insert, []) ∧
      (finalizeDistributedWrite rt vane decode commit (workers.map (WorkerRun.result info))).run insert =
        (.ok (UInt64.ofNat (allRows workers)), insert.finalizing,
          if allRows workers = 0 then [.lock, .loadTarget, .unlock]
          else [.lock, .loadTarget, .filterAndCommit insert.distributedCommitIdentifier
            (allPrepared workers), .unlock]) := by
  have hshape := shape_of_prepared run prepared
  exact ⟨buildPipelines_of_selected (selected_of_shape hshape),
    honest.finalizes (given_and_bound run).2 hshape prepared first decodes unchanged committer commits⟩

/-! ## The planned INSERT -/

namespace Sample

def honestDecode : DecodeReplies String := { decodeReplies with resolvedInfo := .ok plannedInfo }

theorem honestWrite_prepared :
    HonestWrite runtime .counting (.text 1) (fun _ => "") plannedInfo prepared [plannedWorker] where
  lawful := binaryFormat_lawful
  trips := text_roundTrips 1 (by decide)
  sums := counting_sums
  registered := ⟨rfl, rfl, rfl, rfl, rfl⟩
  honest := by
    rw [List.forall_mem_singleton]
    exact honest_plannedWorker
  valid _ _ := rfl
  query := by simp
  tasks := List.nodup_singleton _
  distinct := by decide
  small := by
    rw [List.forall_mem_singleton]
    rintro bytes ⟨⟩
    decide +kernel
  rows := by decide

/-- The prepared INSERT commits the message of its worker and returns its row. -/
theorem honest_write_commits_prepared :
    (buildPipelines : Coordinator String Unit).run prepared =
        (.error (.invalidInput "A distributed Paimon write worker plan cannot execute as a native coordinator operator"),
          prepared, []) ∧
      (finalizeDistributedWrite runtime .counting honestDecode commitReplies
          ([plannedWorker].map (WorkerRun.result plannedInfo))).run prepared =
        (.ok (UInt64.ofNat (allRows [plannedWorker])), prepared.finalizing,
          if allRows [plannedWorker] = 0 then [.lock, .loadTarget, .unlock]
          else [.lock, .loadTarget,
            .filterAndCommit prepared.distributedCommitIdentifier (allPrepared [plannedWorker]), .unlock]) :=
  honest_write_commits run_preparing rfl rfl honestWrite_prepared
    ⟨show honestDecode.paimonOptions = .ok .empty from rfl, rfl, rfl⟩ committable_prepared.baseline rfl rfl

end Sample

end DuckPaimon.Write
