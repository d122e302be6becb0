/-
Any sequence of coordinator calls on one `PhysicalPaimonInsert`, each with the replies it happens to
get: at most one of them commits, as a finalization of a prepared target that passed all its checks.
-/
import DuckPaimon.Lib.Run
import DuckPaimon.Write.Steps

namespace DuckPaimon.Write

open Outcome

variable {Message : Type}

/-! ## Calls -/

/-- A coordinator call with its arguments and the replies it gets. -/
inductive CoordinatorCall (Message : Type)
  | setDistributedWriteContext
  | getExtensionWriteTaskProvider (replies : PlanReplies)
  | writePlan
  | validateDistributedWrite (replies : CatalogReplies)
  | prepareDistributedWrite (replies : PrepareReplies)
  | finalizeDistributedWrite (decode : DecodeReplies Message) (commit : CommitReplies)
      (results : List DistributedWriteTaskResult)
  | abortDistributedWrite (replies : DecodeReplies Message) (results : List DistributedWriteTaskResult)

namespace CoordinatorCall

/-- The call is `PrepareDistributedWrite`. -/
def IsPrepare : CoordinatorCall Message → Prop
  | prepareDistributedWrite _ => True
  | _ => False

/-- The call is `FinalizeDistributedWrite`. -/
def IsFinalize : CoordinatorCall Message → Prop
  | finalizeDistributedWrite _ _ _ => True
  | _ => False

end CoordinatorCall

/-- A call that is made, and the operator it is made on. -/
structure Performed (Message : Type) where
  before : PhysicalPaimonInsert
  call : CoordinatorCall Message

/-- The constructor; the child is added by the planner. -/
def PhysicalPaimonInsert.new (accessMode : AccessMode) (info : Option CreateTableInfo) (tableIdentifier : Identifier)
    (paimonOptions : StringMap) (partKeys : List String) (children : List (List LogicalType)) : PhysicalPaimonInsert :=
  { schema := some accessMode, info, tableIdentifier, paimonOptions, partKeys, children }

section Performed

variable (rt : Runtime) (vane : Vane)

/-- Makes a call; a finalization returns a number of rows. -/
def perform : CoordinatorCall Message → Coordinator Message (Option UInt64)
  | .setDistributedWriteContext => (fun _ => none) <$> setDistributedWriteContext
  | .getExtensionWriteTaskProvider replies => (fun _ => none) <$> getExtensionWriteTaskProvider rt replies
  | .writePlan => (fun _ => none) <$> writePlan rt
  | .validateDistributedWrite replies => (fun _ => none) <$> validateDistributedWrite rt replies
  | .prepareDistributedWrite replies => (fun _ => none) <$> prepareDistributedWrite rt replies
  | .finalizeDistributedWrite decode commit results =>
    some <$> finalizeDistributedWrite rt vane decode commit results
  | .abortDistributedWrite replies results => (fun _ => none) <$> abortDistributedWrite rt vane replies results

namespace Performed

/-- How the call ends. -/
def result (p : Performed Message) : Except Exception (Option UInt64) := ((perform rt vane p.call).run p.before).1

/-- The operator after the call. -/
def after (p : Performed Message) : PhysicalPaimonInsert := ((perform rt vane p.call).run p.before).2.1

/-- What the call does. -/
def events (p : Performed Message) : List (Event Message) := ((perform rt vane p.call).run p.before).2.2

end Performed

/-- One call after the other. -/
def Performs (insert : PhysicalPaimonInsert) (p : Performed Message) (insert' : PhysicalPaimonInsert) : Prop :=
  p.before = insert ∧ insert' = p.after rt vane

/-! ## What a call does -/

/-- The call commits. -/
def Performed.Commits (p : Performed Message) : Prop := ∃ event ∈ p.events rt vane, event.IsCommit

/-- What a call does, as far as preparing, aborting and committing go. -/
inductive Performed.Does (p : Performed Message) : Prop
  | idle (not_prepare : ¬p.call.IsPrepare) (not_finalize : ¬p.call.IsFinalize)
      (quiet : ∀ event ∈ p.events rt vane, event.Quiet) (progress : (p.after rt vane).progress = p.before.progress)
  | prepare (replies : PrepareReplies) (call : p.call = .prepareDistributedWrite replies) (r : Except Exception Unit)
      (result : p.result rt vane = r.map fun _ => none)
      (does : PrepareCall rt p.before r (p.after rt vane) (p.events rt vane))
  | finalize (decode : DecodeReplies Message) (commit : CommitReplies) (results : List DistributedWriteTaskResult)
      (call : p.call = .finalizeDistributedWrite decode commit results) (r : Except Exception UInt64)
      (result : p.result rt vane = r.map some)
      (does : FinalizeCall rt vane decode commit results p.before r (p.after rt vane) (p.events rt vane))
  | abort (replies : DecodeReplies Message) (results : List DistributedWriteTaskResult)
      (call : p.call = .abortDistributedWrite replies results) (r : Except Exception Unit)
      (result : p.result rt vane = r.map fun _ => none) (unchanged : p.after rt vane = p.before)
      (does : AbortCall rt vane replies results p.before r (p.events rt vane))

variable {rt vane}

variable (rt vane) in
theorem Performed.does (p : Performed Message) : p.Does rt vane := by
  have hrun : (perform rt vane p.call).run p.before = (p.result rt vane, p.after rt vane, p.events rt vane) := rfl
  have hidle {α : Type} {m : Coordinator Message α} (hm : Idle m)
      (h : perform rt vane p.call = (fun _ => none) <$> m) :
      (∀ event ∈ p.events rt vane, event.Quiet) ∧ (p.after rt vane).progress = p.before.progress := by
    rw [h] at hrun
    obtain ⟨_, -, hprogress, hquiet⟩ := Proc.wp_run_map (hm p.before) hrun
    exact ⟨hquiet, hprogress⟩
  obtain ⟨insert, call⟩ := p
  cases call with
  | setDistributedWriteContext =>
    obtain ⟨hquiet, hprogress⟩ := hidle (keeps_setDistributedWriteContext fun _ => by rfl) rfl
    exact .idle id id hquiet hprogress
  | getExtensionWriteTaskProvider replies =>
    obtain ⟨_, -, hselects⟩ := Proc.wp_run_map (wp_getExtensionWriteTaskProvider replies insert) hrun
    exact .idle id id hselects.quiet hselects.progress
  | writePlan =>
    obtain ⟨hquiet, hprogress⟩ := hidle keeps_writePlan rfl
    exact .idle id id hquiet hprogress
  | validateDistributedWrite replies =>
    obtain ⟨hquiet, hprogress⟩ := hidle (keeps_validateDistributedWrite quiet_looks replies) rfl
    exact .idle id id hquiet hprogress
  | prepareDistributedWrite replies =>
    obtain ⟨r, hresult, hdoes⟩ := Proc.wp_run_map (wp_prepareDistributedWrite replies insert) hrun
    exact .prepare replies rfl r hresult hdoes
  | finalizeDistributedWrite decode commit results =>
    obtain ⟨r, hresult, hdoes⟩ := Proc.wp_run_map (wp_finalizeDistributedWrite decode commit results insert) hrun
    exact .finalize decode commit results rfl r hresult hdoes
  | abortDistributedWrite replies results =>
    obtain ⟨r, hresult, hunchanged, hdoes⟩ := Proc.wp_run_map (wp_abortDistributedWrite replies results insert) hrun
    exact .abort replies results rfl r hresult hunchanged hdoes

/-! ## At most one commit -/

/-- Under a registered contract the results are decoded by `DecodeCommitResults`. -/
theorem decodeWith_decodes {replies : DecodeReplies Message} {info : DistributedExtensionWriteInfo}
    (hinfo : replies.resolvedInfo = .ok info) {transport : InsertTransport} {results : List DistributedWriteTaskResult}
    {outcome : Except Exception Unit} {decoded : DecodedCommit Message}
    (h : decodeWith rt vane replies transport results = (outcome, decoded)) :
    ∃ state, state.decoded = decoded ∧ CommitDecodes rt vane replies.codec info transport results outcome state := by
  unfold decodeWith at h
  rw [hinfo] at h
  rcases hrun : (decodeCommitResults rt vane replies.codec info transport results).run {} with ⟨r, state, calls⟩
  simp only [hrun, Prod.mk.injEq] at h
  obtain ⟨rfl, rfl⟩ := h
  exact ⟨state, rfl, Proc.wp_run (wp_decodeCommitResults rt vane replies.codec info transport results) hrun⟩

/-- Decoding accepts the results under the registered contract. -/
theorem decodeWith_eq_ok {replies : DecodeReplies Message} {transport : InsertTransport}
    {results : List DistributedWriteTaskResult} {decoded : DecodedCommit Message} :
    decodeWith rt vane replies transport results = (.ok (), decoded) ↔
      ∃ info state calls, replies.resolvedInfo = .ok info ∧
        (decodeCommitResults rt vane replies.codec info transport results).run {} = (.ok (), state, calls) ∧
          state.decoded = decoded := by
  unfold decodeWith
  constructor
  · intro h
    cases hinfo : replies.resolvedInfo with
    | error e =>
      rw [hinfo] at h
      cases h
    | ok info =>
      rw [hinfo] at h
      rcases hrun : (decodeCommitResults rt vane replies.codec info transport results).run {} with ⟨r, state, calls⟩
      simp only [hrun, Prod.mk.injEq] at h
      obtain ⟨rfl, rfl⟩ := h
      exact ⟨info, state, calls, rfl, hrun, rfl⟩
  · rintro ⟨info, state, calls, hinfo, hrun, rfl⟩
    rw [hinfo]
    simp only [hrun]

variable (rt vane) in
/-- `DecodeCommitResults` accepts the results for the operator, under the registered contract. -/
structure Selects (insert : PhysicalPaimonInsert) (decode : DecodeReplies Message)
    (results : List DistributedWriteTaskResult) (transport : InsertTransport) (decoded : DecodedCommit Message) :
    Prop where
  target : getCoordinatorTransport rt insert = .ok transport
  accepted : ∃ info state calls, decode.resolvedInfo = .ok info ∧
    (decodeCommitResults rt vane decode.codec info transport results).run {} = (.ok (), state, calls) ∧
      state.decoded = decoded

theorem Decoding.selects {insert : PhysicalPaimonInsert} {decode : DecodeReplies Message}
    {results : List DistributedWriteTaskResult} {transport : InsertTransport} {decoded : DecodedCommit Message}
    (h : Decoding rt vane decode results insert transport (.ok ()) decoded) :
    Selects rt vane insert decode results transport decoded := ⟨h.target, decodeWith_eq_ok.1 h.decodes⟩

theorem Selects.rowCount {insert : PhysicalPaimonInsert} {decode : DecodeReplies Message}
    {results : List DistributedWriteTaskResult} {transport : InsertTransport} {decoded : DecodedCommit Message}
    (h : Selects rt vane insert decode results transport decoded) :
    decoded.rowCount.toNat = (results.map fun result => (vane.rowCount result).toNat).sum := by
  obtain ⟨info, state, calls, -, hrun, rfl⟩ := h.accepted
  exact rowCount_of_decoded hrun

variable (rt vane) in
/-- The call is a finalization that commits what it decoded, behind all its checks. -/
structure GuardedCommit (p : Performed Message) (decode : DecodeReplies Message) (commit : CommitReplies)
    (results : List DistributedWriteTaskResult) (transport : InsertTransport) (decoded : DecodedCommit Message) :
    Prop where
  call : p.call = .finalizeDistributedWrite decode commit results
  selects : Selects rt vane p.before decode results transport decoded
  messages : decoded.messages ≠ []
  rowCount : decoded.rowCount ≠ 0
  -- the target is validated between taking the mutex and the commit
  baseline : AtBaseline p.before commit.baseline
  events : p.events rt vane =
    [.lock, .loadTarget, .filterAndCommit transport.commitIdentifier decoded.messages, .unlock]

/-- A call that commits is a guarded finalization, the first one, of a prepared target. -/
theorem Performed.Commits.guarded {p : Performed Message} (h : p.Commits rt vane) :
    (∃ decode commit results transport decoded, GuardedCommit rt vane p decode commit results transport decoded) ∧
      Entering rt p.before ∧ p.before.distributedTargetPrepared = true ∧ p.after rt vane = p.before.finalizing := by
  have hnot (hquiet : ∀ event ∈ p.events rt vane, ¬event.IsCommit) : False := by
    obtain ⟨event, hevent, hcommit⟩ := h
    exact hquiet event hevent hcommit
  cases p.does rt vane with
  | idle _ _ quiet => exact (hnot fun event hevent => (quiet event hevent).not_commit).elim
  | prepare _ _ _ _ does => exact (hnot fun event hevent => (does.quiet event hevent).not_commit).elim
  | abort _ _ _ _ _ _ does => exact (hnot does.not_commit).elim
  | finalize decode commit results call r result does =>
    obtain ⟨entering, prepared, hafter, transport, decoded, decoding, committable, -, hevents⟩ := does.of_commit h
    exact ⟨⟨decode, commit, results, transport, decoded, call, decoding.selects, committable.messages,
      committable.rowCount, committable.baseline, hevents⟩, entering, prepared, hafter⟩

/-- Whatever is done to it, an operator stays prepared for good or is never prepared, and a
finalization that has started stays so. -/
theorem Performed.progress (p : Performed Message) :
    (p.before.distributedFinalizeStarted = true → (p.after rt vane).distributedFinalizeStarted = true) ∧
      (p.before.distributedPrepareStarted = true → (p.after rt vane).distributedPrepareStarted = true ∧
        (p.after rt vane).distributedTargetPrepared = p.before.distributedTargetPrepared) := by
  cases p.does rt vane with
  | idle _ _ _ progress =>
    obtain ⟨hprepare, hprepared, hfinalize⟩ := Prod.mk.inj progress |>.imp_right Prod.mk.inj
    exact ⟨fun h => hfinalize.trans h, fun h => ⟨hprepare.trans h, hprepared⟩⟩
  | prepare replies call r result does =>
    generalize p.after rt vane = insert', p.events rt vane = events at does
    cases does with
    | refused => exact ⟨id, fun h => ⟨h, rfl⟩⟩
    | started _ first _ _ _ finalize =>
      exact ⟨fun h => finalize.trans h, fun h => absurd (first.symm.trans h) Bool.noConfusion⟩
  | abort _ _ _ _ _ unchanged =>
    rw [unchanged]
    exact ⟨id, fun h => ⟨h, rfl⟩⟩
  | finalize _ _ _ _ _ _ does =>
    rcases does.finalizing with ⟨h, -⟩ | ⟨h, -⟩
    · rw [h]
      exact ⟨id, fun h => ⟨h, rfl⟩⟩
    · rw [h]
      exact ⟨fun _ => rfl, fun h => ⟨h, rfl⟩⟩

/-- A preparation past its shape check has started. -/
theorem Performed.starts {p : Performed Message} (h : p.call.IsPrepare)
    (hshape : validateCoordinatorShape rt p.before = .ok ()) : (p.after rt vane).distributedPrepareStarted = true := by
  cases p.does rt vane with
  | idle not_prepare => exact absurd h not_prepare
  | abort _ _ call => rw [call] at h; exact h.elim
  | finalize _ _ _ call => rw [call] at h; exact h.elim
  | prepare replies call r result does =>
    generalize p.after rt vane = insert', p.events rt vane = events at does
    cases does with
    | refused _ not => exact not hshape
    | started _ _ _ prepare => exact prepare

/-- The operator once its preparation has returned. -/
def PhysicalPaimonInsert.preparedTarget (insert : PhysicalPaimonInsert) : PhysicalPaimonInsert :=
  { insert with distributedPrepareStarted := true, distributedTargetPrepared := true }

theorem entering_preparedTarget {insert : PhysicalPaimonInsert} (h : Entering rt insert) :
    Entering rt insert.preparedTarget := ⟨h.shape, h.open_⟩

/-- The first preparation of an INSERT returns while its target is the recorded one. -/
theorem Performed.prepares_insert {p : Performed Message} {replies : PrepareReplies}
    (hcall : p.call = .prepareDistributedWrite replies) (hinfo : p.before.info = none)
    (hshape : validateCoordinatorShape rt p.before = .ok ()) (hfirst : p.before.distributedPrepareStarted = false)
    (hat : AtBaseline p.before replies.baseline) :
    p.result rt vane = .ok none ∧ p.after rt vane = p.before.preparedTarget := by
  obtain ⟨insert, call⟩ := p
  cases hcall
  have hwp : (prepareDistributedWrite rt replies : Coordinator Message Unit).wp insert fun r insert' _ =>
      r = .ok () ∧ insert' = insert.preparedTarget := wp_prepareDistributedWrite_insert replies hinfo hshape hfirst hat
  obtain ⟨_, hresult, rfl, hafter⟩ := Proc.wp_run_map hwp (f := fun _ => (none : Option UInt64)) rfl
  exact ⟨hresult, hafter⟩

variable (rt vane) in
theorem Performed.finalize_does {p : Performed Message} {decode : DecodeReplies Message} {commit : CommitReplies}
    {results : List DistributedWriteTaskResult} (hcall : p.call = .finalizeDistributedWrite decode commit results) :
    ∃ r, p.result rt vane = r.map some ∧
      FinalizeCall rt vane decode commit results p.before r (p.after rt vane) (p.events rt vane) := by
  cases p.does rt vane with
  | idle _ not_finalize => rw [hcall] at not_finalize; exact absurd trivial not_finalize
  | prepare _ call => rw [hcall] at call; cases call
  | abort _ _ call => rw [hcall] at call; cases call
  | finalize _ _ _ call r result does =>
    rw [hcall] at call
    cases call
    exact ⟨r, result, does⟩

/-- The first finalization of a prepared target commits what it decodes, if that can be committed. -/
theorem Performed.finalizes {p : Performed Message} {decode : DecodeReplies Message} {commit : CommitReplies}
    {results : List DistributedWriteTaskResult} (hcall : p.call = .finalizeDistributedWrite decode commit results)
    (entering : Entering rt p.before) (prepared : p.before.distributedTargetPrepared = true)
    {transport : InsertTransport} {decoded : DecodedCommit Message}
    (decoding : Decoding rt vane decode results p.before transport (.ok ()) decoded)
    (committable : Committable p.before.finalizing commit decoded) :
    p.after rt vane = p.before.finalizing ∧ p.events rt vane =
      [.lock, .loadTarget, .filterAndCommit transport.commitIdentifier decoded.messages, .unlock] := by
  obtain ⟨_, -, hdoes⟩ := p.finalize_does rt vane hcall
  obtain ⟨hafter, -, hevents⟩ := hdoes.commits entering prepared decoding committable
  exact ⟨hafter, hevents⟩

/-- Only a preparation that returns prepares the target. -/
theorem Performed.prepared {p : Performed Message} (h : (p.after rt vane).distributedTargetPrepared = true) :
    p.before.distributedTargetPrepared = true ∨
      p.call.IsPrepare ∧ validateCoordinatorShape rt p.before = .ok () ∧ p.result rt vane = .ok none := by
  cases p.does rt vane with
  | idle _ _ _ progress =>
    obtain ⟨-, hprepared, -⟩ := Prod.mk.inj progress |>.imp_right Prod.mk.inj
    exact .inl (hprepared.symm.trans h)
  | abort _ _ _ _ _ unchanged => exact .inl (unchanged ▸ h)
  | finalize _ _ _ _ _ _ does =>
    rcases does.finalizing with ⟨hafter, -⟩ | ⟨hafter, -⟩
    · exact .inl (hafter ▸ h)
    · rw [hafter] at h
      exact .inl h
  | prepare replies call r result does =>
    rw [result, call]
    generalize p.after rt vane = insert', p.events rt vane = events at does h
    cases does with
    | refused => exact .inl h
    | started shape _ _ _ prepared =>
      refine (prepared.1 h).imp_right fun hr => ⟨trivial, shape, ?_⟩
      rw [hr]
      rfl

variable (rt vane) in
/-- The commits of a call. -/
theorem Performed.countP_events (p : Performed Message) :
    (p.events rt vane).countP (fun event => event.IsCommit) = 0 ∨
      (p.events rt vane).countP (fun event => event.IsCommit) = 1 ∧ p.Commits rt vane := by
  by_cases h : p.Commits rt vane
  · obtain ⟨⟨_, _, _, _, _, hguarded⟩, -⟩ := h.guarded
    refine .inr ⟨?_, h⟩
    rw [hguarded.events]
    rfl
  · refine .inl (List.countP_eq_zero.2 fun event hevent hcommit => h ⟨event, hevent, ?_⟩)
    exact of_decide_eq_true hcommit

/-! ## Runs of calls -/

variable (rt vane) in
/-- The number of commits in a history. -/
def commitCount (history : List (Performed Message)) : Nat :=
  (history.flatMap (Performed.events rt vane)).countP fun event => event.IsCommit

theorem commitCount_snoc (history : List (Performed Message)) (p : Performed Message) :
    commitCount rt vane (history ++ [p]) =
      commitCount rt vane history + (p.events rt vane).countP fun event => event.IsCommit := by
  unfold commitCount
  rw [List.flatMap_append, List.countP_append, List.flatMap_singleton]

variable (rt vane) in
/-- What the flags say of the calls made so far. -/
structure Recorded (history : List (Performed Message)) (insert : PhysicalPaimonInsert) : Prop where
  prepared : insert.distributedTargetPrepared = true → ∃ q ∈ history, q.call.IsPrepare ∧
    validateCoordinatorShape rt q.before = .ok () ∧ q.result rt vane = .ok none
  open_ : insert.distributedFinalizeStarted = false → commitCount rt vane history = 0
  once : commitCount rt vane history ≤ 1

theorem Recorded.step {history : List (Performed Message)} {insert insert' : PhysicalPaimonInsert}
    {p : Performed Message} (h : Recorded rt vane history insert) (hstep : Performs rt vane insert p insert') :
    Recorded rt vane (history ++ [p]) insert' := by
  obtain ⟨rfl, rfl⟩ := hstep
  refine ⟨fun hprepared => ?_, fun hopen => ?_, ?_⟩
  · rcases p.prepared hprepared with hbefore | hprepare
    · obtain ⟨q, hq, hrest⟩ := h.prepared hbefore
      exact ⟨q, List.mem_append_left _ hq, hrest⟩
    · exact ⟨p, List.mem_append_right _ (List.mem_singleton_self p), hprepare⟩
  · have hbefore : p.before.distributedFinalizeStarted = false := by
      by_contra hstarted
      rw [Bool.not_eq_false] at hstarted
      exact absurd ((p.progress.1 hstarted).symm.trans hopen) Bool.noConfusion
    rw [commitCount_snoc, h.open_ hbefore]
    rcases p.countP_events rt vane with hnone | ⟨-, hcommits⟩
    · rw [hnone]
    · rw [hcommits.guarded.2.2.2] at hopen
      exact absurd hopen Bool.noConfusion
  · rw [commitCount_snoc]
    rcases p.countP_events rt vane with hnone | ⟨hone, hcommits⟩
    · rw [hnone]
      exact h.once
    · rw [hone, h.open_ hcommits.guarded.2.1.open_]

section Runs

variable {accessMode : AccessMode} {info : Option CreateTableInfo} {tableIdentifier : Identifier}
  {paimonOptions : StringMap} {partKeys : List String} {children : List (List LogicalType)}
  {history : List (Performed Message)} {insert : PhysicalPaimonInsert}

theorem Recorded.run
    (run : Run (Performs rt vane) (.new accessMode info tableIdentifier paimonOptions partKeys children) history insert) :
    Recorded rt vane history insert :=
  run.invariant ⟨nofun, fun _ => rfl, Nat.zero_le 1⟩ Recorded.step

/-- Once a preparation has started and the target is not prepared, no call commits. -/
theorem never_commits {insert₀ : PhysicalPaimonInsert} (run : Run (Performs rt vane) insert₀ history insert)
    (hstarted : insert₀.distributedPrepareStarted = true) (hunprepared : insert₀.distributedTargetPrepared = false) :
    ∀ q ∈ history, ¬q.Commits rt vane := by
  have hall : insert.distributedPrepareStarted = true ∧ insert.distributedTargetPrepared = false ∧
      ∀ q ∈ history, ¬q.Commits rt vane := by
    refine run.invariant (I := fun history insert => insert.distributedPrepareStarted = true ∧
      insert.distributedTargetPrepared = false ∧ ∀ q ∈ history, ¬q.Commits rt vane) 
      ⟨hstarted, hunprepared, fun _ hq => absurd hq List.not_mem_nil⟩ ?_
    rintro history _ p _ ⟨hstarted, hunprepared, hnever⟩ ⟨rfl, rfl⟩
    obtain ⟨hstarted', hprepared⟩ := p.progress.2 hstarted
    refine ⟨hstarted', hprepared.trans hunprepared, fun q hq hcommits => ?_⟩
    rcases List.mem_append.1 hq with hq | hq
    · exact hnever q hq hcommits
    · cases List.mem_singleton.1 hq
      exact absurd (hcommits.guarded.2.2.1.symm.trans hunprepared) Bool.noConfusion
  exact hall.2.2

/-- A finalization that returns found nothing to commit, or committed one operation with all rows. -/
theorem Performed.returns {p : Performed Message} {decode : DecodeReplies Message} {commit : CommitReplies}
    {results : List DistributedWriteTaskResult} {rows : UInt64}
    (hcall : p.call = .finalizeDistributedWrite decode commit results) (hresult : p.result rt vane = .ok (some rows)) :
    ∃ transport decoded, Selects rt vane p.before decode results transport decoded ∧ rows = decoded.rowCount ∧
      ((decoded.messages = [] ∧ rows = 0 ∧ ¬p.Commits rt vane) ∨ (p.Commits rt vane ∧ commit.commit = .ok 1)) := by
  obtain ⟨r, result, does⟩ := p.finalize_does rt vane hcall
  rw [hresult] at result
  cases r with
  | error e => cases result
  | ok rows' =>
    cases result
    obtain ⟨transport, decoded, decoding, hrows, hends⟩ := does.returns
    refine ⟨transport, decoded, decoding.selects, hrows, hends.imp ?_ id⟩
    rintro ⟨hmessages, hzero, hnot⟩
    exact ⟨hmessages, hzero, fun ⟨event, hevent, hcommit⟩ => hnot event hevent hcommit⟩

/-- At most one call commits; it is a guarded finalization behind a preparation that returned. If
the first preparation past its shape check fails, none does. A finalization returns the number of
all rows, having committed them as one operation unless there was nothing to commit. -/
theorem one_guarded_commit
    (run : Run (Performs rt vane) (.new accessMode info tableIdentifier paimonOptions partKeys children) history insert) :
    commitCount rt vane history ≤ 1 ∧
    (∀ earlier p later, history = earlier ++ p :: later → p.Commits rt vane →
      (∃ decode commit results transport decoded, GuardedCommit rt vane p decode commit results transport decoded) ∧
        ∃ q ∈ earlier, q.call.IsPrepare ∧ q.result rt vane = .ok none) ∧
    (∀ earlier p later, history = earlier ++ p :: later → p.call.IsPrepare →
      validateCoordinatorShape rt p.before = .ok () →
      (∀ q ∈ earlier, q.call.IsPrepare → validateCoordinatorShape rt q.before ≠ .ok ()) →
      p.result rt vane ≠ .ok none → ∀ q ∈ later, ¬q.Commits rt vane) ∧
    ∀ p ∈ history, ∀ decode commit results rows, p.call = .finalizeDistributedWrite decode commit results →
      p.result rt vane = .ok (some rows) →
      ∃ transport decoded, Selects rt vane p.before decode results transport decoded ∧ rows = decoded.rowCount ∧
        rows.toNat = (results.map fun result => (vane.rowCount result).toNat).sum ∧
          ((decoded.messages = [] ∧ rows = 0 ∧ ¬p.Commits rt vane) ∨ (p.Commits rt vane ∧ commit.commit = .ok 1)) := by
  refine ⟨(Recorded.run run).once, ?_, ?_, ?_⟩
  · rintro earlier p later rfl hcommits
    obtain ⟨_, _, hearlier, ⟨rfl, -⟩, -⟩ := run.step_of_mem
    obtain ⟨hguarded, -, hprepared, -⟩ := hcommits.guarded
    obtain ⟨q, hq, hprepare, -, hresult⟩ := (Recorded.run hearlier).prepared hprepared
    exact ⟨hguarded, q, hq, hprepare, hresult⟩
  · rintro earlier p later rfl hprepare hshape hfirst hfailed
    obtain ⟨_, _, hearlier, ⟨rfl, rfl⟩, hlater⟩ := run.step_of_mem
    refine never_commits hlater (p.starts hprepare hshape) ?_
    by_contra hprepared
    rw [Bool.not_eq_false] at hprepared
    rcases p.prepared hprepared with hbefore | ⟨-, -, hreturned⟩
    · obtain ⟨q, hq, hprepare, hshape, -⟩ := (Recorded.run hearlier).prepared hbefore
      exact hfirst q hq hprepare hshape
    · exact hfailed hreturned
  · intro p _ decode commit results rows hcall hresult
    obtain ⟨transport, decoded, hselects, rfl, hends⟩ := p.returns hcall hresult
    exact ⟨transport, decoded, hselects, rfl, hselects.rowCount, hends⟩

end Runs

end Performed

/-- The results that are accepted are decoded. -/
theorem decodeWith_accepts {replies : DecodeReplies Message} {info : DistributedExtensionWriteInfo}
    {transport : InsertTransport} {serialized : String} {takens : List (Taken Message)}
    (hinfo : replies.resolvedInfo = .ok info) (decodable : Decodable rt info transport serialized)
    (accepted : Accepted ⟨rt, vane, replies.codec, info, transport, serialized⟩ takens)
    (tasks : (takens.map (·.logicalTaskId)).Nodup) {rowCount : UInt64}
    (hrows : (takens.map (·.rowCount.toNat)).sum = rowCount.toNat) :
    decodeWith rt vane replies transport (takens.map (·.result)) = (.ok (), ⟨takens.flatMap Taken.messages, rowCount⟩) := by
  obtain ⟨state, calls, hrun, messages, rows⟩ := decodeCommitResults_accepts decodable accepted tasks
  rw [hrows, UInt64.toNat_inj] at rows
  refine decodeWith_eq_ok.2 ⟨info, state, calls, hinfo, hrun, ?_⟩
  rw [← messages, ← rows]

/-- An operator with the bind of its target is in shape. -/
theorem shape_of_bind {insert : PhysicalPaimonInsert} {transport : InsertTransport}
    (lawful : rt.binary.Lawful) (hserialize : serializeTransport rt transport = .ok insert.distributedWritePlan.workerBindData)
    (hagree : ¬TransportMismatch insert transport) (happend : insert.distributedAppendOnly = true)
    (hshape : ¬ShapeMismatch insert) :
    getCoordinatorTransport rt insert = .ok transport ∧ validateCoordinatorShape rt insert = .ok () := by
  have htransport : getCoordinatorTransport rt insert = .ok transport := by
    unfold getCoordinatorTransport
    rw [bind_eq_ok]
    exact ⟨transport, deserializeTransport_serializeTransport lawful hserialize, throwIf_bind_eq_ok.2 ⟨hagree, rfl⟩⟩
  refine ⟨htransport, ?_⟩
  unfold validateCoordinatorShape
  rw [throwIf_bind_eq_ok, throwIf_bind_eq_ok]
  refine ⟨?_, hshape, bind_eq_ok.2 ⟨transport, htransport, rfl⟩⟩
  rw [happend]
  exact Bool.noConfusion

/-! ## An INSERT of one result -/

namespace Sample

def identifier : Identifier := ⟨"db", "t", "db.t", "db.t"⟩

/-- What the catalog reports of the table. -/
def targetReplies : CatalogReplies where
  tableExists := .ok true
  getTable := .ok (some "u")
  getTableLocation := .ok "/wh/db.db/t"
  loadTableSchema := .ok
    { fieldNames := ["a"]
      dataSchema := some ⟨0, [], [], .empty⟩
      arrowSchema := .ok (some (.ok (["a"], [{ id := .integer }])))
      jsonSchema := .ok "{}" }
  listSnapshots := .ok []
  getTableAgain := .ok (some "u")

def insertPlan : PlanReplies where
  operationId := "00000000-0000-4000-8000-000000000000"
  tableLocation := .ok "/wh/db.db/t"
  target := targetReplies

/-- The bind of the planned INSERT. -/
def plannedTransport : InsertTransport := { transport with schemaFingerprint := "345caaf3de8b1b14a53d78ddf7dd9003" }

def unplanned : PhysicalPaimonInsert := .new .automatic none identifier .empty [] [[{ id := .integer }]]

/-- The operator once it is planned. -/
def planned : PhysicalPaimonInsert := { unplanned with
  distributedContext := true
  distributedWritePlan := ⟨"paimon", "insert", writeTransport runtime plannedTransport⟩
  distributedOperationId := "00000000-0000-4000-8000-000000000000"
  distributedTableUuid := "u"
  distributedTablePath := "/wh/db.db/t"
  distributedSchemaFingerprint := "345caaf3de8b1b14a53d78ddf7dd9003"
  distributedTableSchemaJson := "{}"
  distributedInputTypes := [{ id := .integer }]
  distributedInputNames := ["a"]
  distributedNullPartName := "__DEFAULT_PARTITION__"
  distributedSchemaId := 0
  distributedCommitIdentifier := 1
  distributedAppendOnly := true
  distributedTargetInitialized := true
  distributedWorkerPlanSelected := true }

theorem serializeTransport_planned :
    serializeTransport runtime plannedTransport = .ok (writeTransport runtime plannedTransport) := by
  have hvalid : validateTransport runtime plannedTransport = .ok () := by decide +kernel
  rw [serializeTransport, hvalid]
  rfl

theorem bind_planned : getCoordinatorTransport runtime planned = .ok plannedTransport ∧
    validateCoordinatorShape runtime planned = .ok () := by
  have hbind : planned.distributedWritePlan.workerBindData ≠ "" :=
    binaryFormat_lawful.object_cons_ne_empty _ _ protocolVersion_ne_zero _
  refine shape_of_bind binaryFormat_lawful serializeTransport_planned (by decide +kernel) rfl ?_
  unfold ShapeMismatch
  simp only [hbind, false_or]
  decide

theorem coordinatorTransport_planned : getCoordinatorTransport runtime planned = .ok plannedTransport := bind_planned.1

theorem shape_planned : validateCoordinatorShape runtime planned = .ok () := bind_planned.2

theorem perform_plan :
    (perform runtime .counting (.getExtensionWriteTaskProvider insertPlan : CoordinatorCall String)).run
        { unplanned with distributedContext := true } =
      (.ok none, planned, [.lock, .loadTarget, .unlock]) := by
  rfl

def plannedEnvelope : CommitEnvelope := { envelope with
  schemaFingerprint := plannedTransport.schemaFingerprint
  serializedTransport := writeTransport runtime plannedTransport }

def plannedFragment : DistributedWriteFragment := { fragment with
  payload := serializeCommitEnvelope runtime plannedEnvelope }

def plannedResult : DistributedWriteTaskResult := { result with fragments := [plannedFragment] }

def decodeReplies : DecodeReplies String where
  paimonOptions := .ok .empty
  resolvedInfo := .ok info
  codec := .text 1
  abort := ⟨⟨.ok (), .ok ()⟩, .ok ()⟩

def commitReplies : CommitReplies where
  baseline := targetReplies
  committer := ⟨.ok (), .ok ()⟩
  commit := .ok 1
  abort := ⟨⟨.ok (), .ok ()⟩, .ok ()⟩

def prepareReplies : PrepareReplies where
  baseline := targetReplies
  tableExists := .ok false
  createTable := .ok ()
  created := targetReplies

/-- The operator once its target is prepared. -/
def prepared : PhysicalPaimonInsert := planned.preparedTarget

theorem atBaseline_planned : AtBaseline planned targetReplies := ⟨by decide, rfl⟩

/-- The planned and prepared INSERT. -/
def preparing : List (Performed String) :=
  [⟨unplanned, .setDistributedWriteContext⟩,
    ⟨{ unplanned with distributedContext := true }, .getExtensionWriteTaskProvider insertPlan⟩,
    ⟨planned, .prepareDistributedWrite prepareReplies⟩]

theorem run_preparing : Run (Performs runtime .counting) unplanned preparing prepared := by
  have hcontext : Performs runtime .counting unplanned (⟨unplanned, .setDistributedWriteContext⟩ : Performed String)
      { unplanned with distributedContext := true } := ⟨rfl, rfl⟩
  have hplan : Performs runtime .counting { unplanned with distributedContext := true }
      (⟨{ unplanned with distributedContext := true }, .getExtensionWriteTaskProvider insertPlan⟩ : Performed String)
      planned := by
    refine ⟨rfl, ?_⟩
    unfold Performed.after
    rw [perform_plan]
  have hprepare : Performs runtime .counting planned
      (⟨planned, .prepareDistributedWrite prepareReplies⟩ : Performed String) prepared := by
    exact ⟨rfl, (Performed.prepares_insert (p := ⟨planned, .prepareDistributedWrite prepareReplies⟩) rfl rfl shape_planned
      rfl atBaseline_planned).2.symm⟩
  exact .snoc (.snoc (.snoc .nil hcontext) hplan) hprepare

def plannedTaken : Taken String := { taken with result := plannedResult }

theorem opens_planned : Opens ⟨runtime, .counting, .text 1, info, plannedTransport, writeTransport runtime plannedTransport⟩
    plannedResult plannedFragment plannedEnvelope [some "data-0.orc"] where
  fragmentId := by decide +kernel
  artifacts := rfl
  byteCount := rfl
  payload := deserializeCommitEnvelope_serializeCommitEnvelope binaryFormat_lawful (by decide +kernel)
  agrees := by decide +kernel
  decoded := by decide +kernel

theorem accepted_planned :
    Accepted ⟨runtime, .counting, .text 1, info, plannedTransport, writeTransport runtime plannedTransport⟩
      [plannedTaken] := by
  refine accepted_singleton ⟨?_, ?_, ?_⟩
  · exact ⟨rfl, rfl, rfl, by decide +kernel⟩
  · exact .some plannedFragment plannedEnvelope _ rfl opens_planned (.cons ⟨rfl, rfl⟩ .nil) rfl
  · exact List.nodup_singleton _

theorem decodeWith_planned : decodeWith runtime .counting decodeReplies plannedTransport [plannedResult] =
    (.ok (), ⟨["data-0.orc"], 2⟩) := by
  have hdecodable : Decodable runtime info plannedTransport (writeTransport runtime plannedTransport) :=
    ⟨by decide +kernel, serializeTransport_planned⟩
  have hinfo : decodeReplies.resolvedInfo = .ok info := rfl
  have htasks : ([plannedTaken].map (·.logicalTaskId)).Nodup := List.nodup_singleton _
  have hrows : ([plannedTaken].map (·.rowCount.toNat)).sum = (2 : UInt64).toNat := rfl
  exact decodeWith_accepts hinfo hdecodable accepted_planned htasks hrows

theorem entering_prepared : Entering runtime prepared := entering_preparedTarget ⟨shape_planned, rfl⟩

theorem decoding_prepared : Decoding runtime .counting decodeReplies [plannedResult] prepared plannedTransport (.ok ())
    ⟨["data-0.orc"], 2⟩ := ⟨coordinatorTransport_planned, ⟨_, rfl⟩, decodeWith_planned⟩

theorem committable_prepared : Committable prepared.finalizing commitReplies (⟨["data-0.orc"], 2⟩ : DecodedCommit String) :=
  ⟨⟨by decide, rfl⟩, by decide, by decide, rfl⟩

/-- The finalization of the prepared INSERT. -/
def finalizing : Performed String := ⟨prepared, .finalizeDistributedWrite decodeReplies commitReplies [plannedResult]⟩

theorem finalizes_prepared : finalizing.after runtime .counting = prepared.finalizing ∧
    finalizing.events runtime .counting = [.lock, .loadTarget, .filterAndCommit 1 ["data-0.orc"], .unlock] :=
  finalizing.finalizes rfl entering_prepared rfl decoding_prepared committable_prepared

theorem run_finalizing : Run (Performs runtime .counting) unplanned (preparing ++ [finalizing]) prepared.finalizing :=
  run_preparing.snoc ⟨rfl, finalizes_prepared.1.symm⟩

end Sample

/-- The planned and prepared INSERT commits once, behind its preparation. -/
theorem one_guarded_commit_insert : commitCount Sample.runtime .counting (Sample.preparing ++ [Sample.finalizing]) ≤ 1 ∧
    ∃ q ∈ Sample.preparing, q.call.IsPrepare ∧ q.result Sample.runtime .counting = .ok none := by
  obtain ⟨honce, hguarded, -⟩ := one_guarded_commit Sample.run_finalizing
  have hcommits : Sample.finalizing.Commits Sample.runtime .counting := by
    unfold Performed.Commits
    rw [Sample.finalizes_prepared.2]
    exact ⟨_, .tail _ (.tail _ (.head _)), trivial⟩
  exact ⟨honce, (hguarded Sample.preparing Sample.finalizing [] rfl hcommits).2⟩

end DuckPaimon.Write
