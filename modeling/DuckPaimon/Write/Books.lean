/-
The books of a native INSERT (paimon_insert.cpp): the calls of a run that returned are those of an INSERT that
counts, so a run keeps a ledger. A commit is made at most once, with every message that was prepared, and only if
no call threw; the reported count is the number of rows of the chunks that were sunk.
-/
import DuckPaimon.Write.Native
import DuckPaimon.Write.Tally

namespace DuckPaimon.Write

open Outcome

variable {Message : Type}

/-! ## What a history says -/

namespace NativeRecord

/-- What `PrepareCommit` returned in a call, if it was called. -/
def replied (record : NativeRecord Message) : Option (List (Option Message)) :=
  (record.events.filterMap NativeEvent.replied).head?

/-- What a call has done that returned. -/
def act (record : NativeRecord Message) : Option (Act (Option Message)) :=
  match record.call, record.result with
  | .getLocalSinkState, .ok _ => some .opens
  | .sink writer chunk, .ok _ => some (.sinks writer ⟨chunk, record.writes⟩)
  | .combine writer, .ok _ => some (.combines writer record.replied)
  | _, _ => none

end NativeRecord

/-- The chunks that were sunk, with their writes, and the number of their rows. -/
def nativeSunk (history : List (NativeRecord Message)) : List Sunk := history.filterMap NativeRecord.given
@[inherit_doc nativeSunk] def nativeRows (history : List (NativeRecord Message)) : Nat :=
  (history.map fun record => record.call.rows).sum

/-- The messages that were prepared. -/
def nativePrepared (history : List (NativeRecord Message)) : List (Option Message) :=
  history.flatMap NativeRecord.prepared

/-- What was committed. -/
def nativeCommits (history : List (NativeRecord Message)) : List (List (Option Message)) :=
  history.flatMap NativeRecord.commits

/-- What was reported. -/
def nativeEmits (history : List (NativeRecord Message)) : List Int64 := history.flatMap NativeRecord.emits

/-- The calls that returned, as those of an INSERT that counts, and the entries of its ledger. -/
def nativeActs (history : List (NativeRecord Message)) : List (Act (Option Message)) :=
  history.filterMap NativeRecord.act
@[inherit_doc nativeActs] def books (history : List (NativeRecord Message)) :
    List (Ledger.Entry Nat (Option Message)) :=
  entries .size (nativeActs history)

/-- When every call returned, what was sunk is what the calls were given. -/
theorem allSunk_nativeActs {history : List (NativeRecord Message)} (h : ∀ record ∈ history, record.result = .ok ()) :
    allSunk (nativeActs history) = nativeSunk history := by
  unfold allSunk nativeActs nativeSunk
  rw [List.filterMap_filterMap]
  refine List.filterMap_congr fun record hrecord => ?_
  unfold NativeRecord.act NativeRecord.given
  rw [h record hrecord]
  cases record.call <;> rfl

/-- The rows of the chunks are those of the calls. -/
theorem size_nativeSunk (history : List (NativeRecord Message)) :
    ((nativeSunk history).map Measure.size.of).sum = nativeRows history := by
  refine size_given (fun record => ?_) history
  unfold NativeRecord.given NativeCall.rows
  cases record.call.chunk <;> rfl

/-! ## A run keeps a ledger -/

/-- The states of an INSERT as far as it counts. -/
def NativeState.tally (s : NativeState Message) : Tally (Option Message) where
  locals := s.locals.map fun lstate => (lstate.localCount, lstate.writer)
  items := s.global.allCommitMessages
  count := s.global.insertCount

/-- What is found in a list may be put back. -/
theorem set_of_getElem? {α : Type} {xs : List α} {i : Nat} {x : α} (h : xs[i]? = some x) : xs.set i x = xs := by
  obtain ⟨hi, rfl⟩ := List.getElem?_eq_some_iff.1 h
  exact List.set_getElem_self hi

section Tally

variable {render : Value → String} {s s' : NativeState Message} {record : NativeRecord Message}

theorem NativeState.tally_found {writer : Nat} {lstate : NativeInsertLocalState}
    (found : s.locals[writer]? = some lstate) :
    s.tally.locals[writer]? = some (lstate.localCount, lstate.writer) := by
  unfold NativeState.tally
  rw [List.getElem?_map, found]
  rfl

/-- A call counts if it returned, and else leaves what is counted. -/
theorem NativeStep.acts (hstep : NativeStep render s record s') :
    (∀ act, record.act = some act → Acts s.tally act s'.tally) ∧ (record.act = none → s'.tally = s.tally) := by
  cases hstep with
  | @getLocalSinkState replies _ r global events run =>
    obtain ⟨rfl, hnew, -⟩ := Proc.wp_run (wp_getLocalSinkState replies s.global) run
    cases r with
    | error e =>
      -- the write id is gone, but no local state was made
      refine ⟨nofun, fun _ => ?_⟩
      unfold NativeState.tally
      rw [List.append_nil]
    | ok lstate =>
      obtain rfl := hnew lstate rfl
      refine ⟨?_, nofun⟩
      rintro act ⟨⟩
      unfold NativeState.tally
      rw [List.map_append]
      exact .opens
  | @sink writer reply chunk _ lstate lstate' r writes found run live =>
    rcases Proc.wp_run (wp_sink_rows s.global.toPaimonInsertGlobalState reply lstate.toPaimonInsertLocalState) run with
      ⟨⟨e, rfl⟩, rfl⟩ | ⟨rfl, hrows, rfl⟩
    · -- what was written of the chunk before it threw is not counted
      refine ⟨nofun, fun _ => ?_⟩
      show ({ s with locals := s.locals.set writer lstate, failed := _ } : NativeState Message).tally = _
      rw [set_of_getElem? found]
      rfl
    · refine ⟨?_, nofun⟩
      rintro act ⟨⟩
      unfold NativeRecord.writes
      rw [native_issued_write]
      unfold NativeState.tally
      rw [List.map_set]
      refine .sinks (NativeState.tally_found found) hrows (live.imp id fun hnone => ?_)
      rw [hnone] at hrows
      exact List.range_eq_nil.1 hrows.symm.eq_nil
  | @combine writer replies _ lstate lstate' global r events found live run =>
    obtain ⟨-, -, hends⟩ := Proc.wp_run (wp_combine replies (s.global, lstate)) run
    rcases hends with ⟨⟨e, rfl⟩, hsame⟩ | ⟨rfl, hcalled, hsame⟩
    · -- the messages are handed over only behind the closing of the writer
      cases hsame
      refine ⟨nofun, fun _ => ?_⟩
      show ({ s with locals := s.locals.set writer lstate, failed := _ } : NativeState Message).tally = _
      rw [set_of_getElem? found]
      rfl
    · cases hsame
      refine ⟨?_, nofun⟩
      rintro act ⟨⟩
      have hfound := NativeState.tally_found found
      rw [live] at hfound
      unfold NativeState.tally
      rw [List.map_set]
      unfold NativeRecord.replied
      dsimp only at hcalled ⊢
      rcases hcalled with ⟨hzero, hnone⟩ | ⟨hrows, hsome⟩
      · have hprepared : events.flatMap NativeEvent.prepared = [] := by
          rw [← flatten_replied, hnone]
          rfl
        rw [hnone, hprepared]
        exact .combines hfound (iff_of_true rfl hzero)
      · rw [hsome]
        exact .combines hfound (iff_of_false nofun hrows)
  | @finalize replies _ _ _ r global events run =>
    obtain ⟨rfl, -⟩ := Proc.wp_run (wp_finalize replies s.global) run
    cases r <;> exact ⟨nofun, fun _ => rfl⟩
  | @getData _ _ r global events run =>
    obtain ⟨⟨a, rfl⟩, rfl, -⟩ := Proc.wp_run (wp_getDataInternal s.global) run
    exact ⟨nofun, fun _ => rfl⟩

/-- A run from a new global state counts. -/
theorem nativeActs_run {global : NativeInsertGlobalState Message} {history : List (NativeRecord Message)}
    (hmessages : global.allCommitMessages = []) (hcount : global.insertCount = 0)
    (run : Run (NativeStep render) { global } history s) : Run Acts {} (nativeActs history) s.tally := by
  have hstart : ({} : Tally (Option Message)) = ({ global } : NativeState Message).tally := by
    unfold NativeState.tally
    rw [hmessages, hcount]
    rfl
  rw [hstart]
  exact run.image NativeStep.acts

/-- A Sink that returned has written the rows of its chunk, each once, and no other call writes. -/
theorem NativeStep.rows (hstep : NativeStep render s record s') (returns : record.result = .ok ()) :
    (record.writes.flatMap PartitionWrite.rows).Perm (List.range record.call.rows) := by
  have hnone (h : record.writes = []) (hchunk : record.call.chunk = none) :
      (record.writes.flatMap PartitionWrite.rows).Perm (List.range record.call.rows) := by
    unfold NativeCall.rows
    rw [h, hchunk]
    exact .refl _
  cases hstep with
  | getLocalSinkState replies _ run =>
    exact hnone (Proc.wp_run (wp_getLocalSinkState replies s.global) run).2.2.2.2 rfl
  | @sink writer reply chunk _ lstate lstate' r writes found run live =>
    cases returns
    unfold NativeRecord.writes
    rw [native_issued_write]
    rcases Proc.wp_run (wp_sink_rows s.global.toPaimonInsertGlobalState reply lstate.toPaimonInsertLocalState) run with
      ⟨⟨e, he⟩, -⟩ | ⟨-, hrows, -⟩
    · cases he
    · exact hrows
  | combine writer replies _ _ _ run => exact hnone (Proc.wp_run (wp_combine replies _) run).2.1 rfl
  | finalize replies _ _ _ run => exact hnone (Proc.wp_run (wp_finalize replies s.global) run).2.2.1 rfl
  | getData _ _ run => exact hnone (Proc.wp_run (wp_getDataInternal s.global) run).2.2.2.1 rfl

/-- No call changes what the sink is aimed at. -/
theorem NativeStep.aimed (hstep : NativeStep render s record s') :
    s'.global.toPaimonInsertGlobalState = s.global.toPaimonInsertGlobalState := by
  cases hstep with
  | getLocalSinkState replies _ run =>
    obtain ⟨rfl, -⟩ := Proc.wp_run (wp_getLocalSinkState replies s.global) run
    rfl
  | sink => rfl
  | combine writer replies _ _ _ run =>
    rcases (Proc.wp_run (wp_combine replies _) run).2.2 with ⟨-, hsame⟩ | ⟨-, -, hsame⟩ <;> cases hsame <;> rfl
  | finalize replies _ _ _ run =>
    obtain ⟨rfl, -⟩ := Proc.wp_run (wp_finalize replies s.global) run
    rfl
  | getData _ _ run =>
    obtain ⟨-, rfl, -⟩ := Proc.wp_run (wp_getDataInternal s.global) run
    rfl

/-- A Sink that returned has written the rows of its chunk for what it is aimed at. -/
theorem NativeStep.issued (hstep : NativeStep render s record s') (returns : record.result = .ok ()) {sunk : Sunk}
    (hgiven : record.given = some sunk) :
    (sunk.writes.flatMap PartitionWrite.rows).Perm (List.range sunk.chunk.size.toNat) ∧
      IssuedBy render sunk.chunk s.global.partKeyNames s.global.partColIdxs s.global.nullPartName sunk.writes := by
  have hrows := hstep.rows returns
  cases hstep with
  | getLocalSinkState => cases hgiven
  | @sink writer reply chunk _ lstate lstate' r writes found run live =>
    cases hgiven
    refine ⟨hrows, ?_⟩
    unfold NativeRecord.writes
    rw [native_issued_write]
    exact .native reply _ _ _ run
  | combine => cases hgiven
  | finalize => cases hgiven
  | getData => cases hgiven

theorem aimed_run {global : NativeInsertGlobalState Message} {history : List (NativeRecord Message)}
    (run : Run (NativeStep render) { global } history s) :
    s.global.toPaimonInsertGlobalState = global.toPaimonInsertGlobalState :=
  run.invariant (I := fun _ s => s.global.toPaimonInsertGlobalState = global.toPaimonInsertGlobalState) rfl
    fun h hstep => hstep.aimed.trans h

/-- So has every Sink of a run whose calls returned. -/
theorem nativeSunk_issued {global : NativeInsertGlobalState Message} {history : List (NativeRecord Message)}
    (run : Run (NativeStep render) { global } history s) (returns : ∀ record ∈ history, record.result = .ok ()) :
    ∀ sunk ∈ nativeSunk history, (sunk.writes.flatMap PartitionWrite.rows).Perm (List.range sunk.chunk.size.toNat) ∧
      IssuedBy render sunk.chunk global.partKeyNames global.partColIdxs global.nullPartName sunk.writes := by
  intro sunk hsunk
  obtain ⟨record, hrecord, hgiven⟩ := List.mem_filterMap.1 hsunk
  have hreturns := returns record hrecord
  obtain ⟨before, after, rfl⟩ := List.append_of_mem hrecord
  obtain ⟨middle, middle', hbefore, hstep, -⟩ := run.step_of_mem
  have haimed : middle.global.toPaimonInsertGlobalState = global.toPaimonInsertGlobalState := aimed_run hbefore
  have hissued := hstep.issued hreturns hgiven
  rwa [haimed] at hissued

end Tally

/-! ## What the executor makes of it -/

/-- Up to its finalization an INSERT commits and reports nothing. The states of one that has not failed are
those of its whole history, and one that was finalized had not failed till then. -/
structure Executes (history : List (NativeRecord Message)) (s : NativeState Message) : Prop where
  sinking : s.finalized = false → nativeCommits history = [] ∧ s.global.finished = false
  prepared : s.failed = false ∨ s.finalized = true → s.global.allCommitMessages = nativePrepared history
  succeeded : s.failed = false → ∀ record ∈ history, record.result = .ok ()
  reached : s.finalized = true → ∀ record ∈ history, record.call ≠ .finalize → record.result = .ok ()
  closed : s.finalized = true → ∀ lstate ∈ s.locals, lstate.writer = false
  commits : nativeCommits history = [] ∨
    nativePrepared history ≠ [] ∧ nativeCommits history = [nativePrepared history]
  published : s.finalized = true → s.failed = false → nativePrepared history ≠ [] →
    nativeCommits history = [nativePrepared history]
  reported : nativeEmits history = if s.global.finished then [s.global.insertCount.toInt64] else []
  read : s.global.finished = true → s.finalized = true ∧ s.failed = false

section Snoc

variable (history : List (NativeRecord Message)) (record : NativeRecord Message)

theorem nativePrepared_snoc : nativePrepared (history ++ [record]) = nativePrepared history ++ record.prepared := by
  simp [nativePrepared]

theorem nativeCommits_snoc : nativeCommits (history ++ [record]) = nativeCommits history ++ record.commits := by
  simp [nativeCommits]

theorem nativeEmits_snoc : nativeEmits (history ++ [record]) = nativeEmits history ++ record.emits := by
  simp [nativeEmits]

end Snoc

variable {history : List (NativeRecord Message)} {record : NativeRecord Message} {s s' : NativeState Message}

theorem executes_start {global : NativeInsertGlobalState Message} (hmessages : global.allCommitMessages = [])
    (hfinished : global.finished = false) : Executes [] { global } := by
  refine ⟨fun _ => ⟨rfl, hfinished⟩, fun _ => hmessages, fun _ _ h => ?_, fun _ _ h => ?_,
    fun _ _ h => ?_, .inl rfl, by rintro ⟨⟩, ?_, fun h => ?_⟩
  · cases h
  · cases h
  · cases h
  · rw [hfinished]
    rfl
  · rw [hfinished] at h
    cases h

/-- A call of the pipeline adds what it prepared, or fails. -/
theorem Executes.sinks (h : Executes history s) (hsinking : s.finalized = false) (hsinking' : s'.finalized = false)
    (hfailed : s'.failed = (s.failed || threw record.result)) (hquiet : Quiet record.events)
    (hfinished : s'.global.finished = s.global.finished)
    (hprepared : record.result = .ok () →
      s'.global.allCommitMessages = s.global.allCommitMessages ++ record.prepared) :
    Executes (history ++ [record]) s' := by
  obtain ⟨hcommits, hunread⟩ := h.sinking hsinking
  have hnone : nativeCommits (history ++ [record]) = [] := by
    rw [nativeCommits_snoc, hcommits, List.nil_append]
    exact hquiet.1
  -- it is not finalized, so what is said of `s'` is said of one that has not failed
  have hgood (hgood : s'.failed = false ∨ s'.finalized = true) : s.failed = false ∧ record.result = .ok () := by
    rw [hsinking', hfailed] at hgood
    rcases hgood with hgood | hgood
    · obtain ⟨hold, hresult⟩ := Bool.or_eq_false_iff.1 hgood
      refine ⟨hold, ?_⟩
      cases hcases : record.result with
      | ok u => rfl
      | error e =>
        rw [hcases] at hresult
        cases hresult
    · cases hgood
  refine ⟨fun _ => ⟨hnone, hfinished.trans hunread⟩, fun hg => ?_, fun hg other hmem => ?_, fun hf => ?_,
    fun hf => ?_, .inl hnone, fun hf => ?_, ?_, fun hread => ?_⟩
  · obtain ⟨hold, hresult⟩ := hgood hg
    rw [hprepared hresult, h.prepared (.inl hold), nativePrepared_snoc]
  · obtain ⟨hold, hresult⟩ := hgood (.inl hg)
    rcases List.mem_append.1 hmem with hmem | hmem
    · exact h.succeeded hold other hmem
    · rw [List.mem_singleton.1 hmem]
      exact hresult
  · rw [hsinking'] at hf
    cases hf
  · rw [hsinking'] at hf
    cases hf
  · rw [hsinking'] at hf
    cases hf
  · rw [nativeEmits_snoc, h.reported, hfinished, hunread]
    exact hquiet.2
  · rw [hfinished, hunread] at hread
    cases hread

theorem Executes.getLocalSinkState (h : Executes history s) (replies : WriterReplies) (sinking : s.finalized = false)
    {r : Except Exception NativeInsertLocalState} {global : NativeInsertGlobalState Message}
    {events : List (NativeEvent Message)}
    (run : (Write.getLocalSinkState replies).run s.global = (r, global, events)) (locals : List NativeInsertLocalState) :
    Executes (history ++ [⟨.getLocalSinkState, r.map fun _ => (), events⟩])
      { s with global, locals, failed := s.failed || threw r } := by
  obtain ⟨rfl, -, hquiet, hprepared, -⟩ := Proc.wp_run (wp_getLocalSinkState replies s.global) run
  refine h.sinks sinking sinking ?_ hquiet rfl fun _ => ?_
  · cases r <;> rfl
  · show s.global.allCommitMessages = s.global.allCommitMessages ++ events.flatMap NativeEvent.prepared
    rw [hprepared, List.append_nil]

/-- A Sink does nothing but write. -/
theorem Executes.sink (h : Executes history s) (sinking : s.finalized = false) (writer : Nat) (chunk : DataChunk)
    (r : Except Exception Unit) (writes : List PartitionWrite) (locals : List NativeInsertLocalState) :
    Executes (history ++ [⟨.sink writer chunk, r, writes.map .write⟩])
      { s with locals, failed := s.failed || threw r } := by
  have hnone {β : Type} (f : NativeEvent Message → List β) (hf : ∀ write, f (.write write) = []) :
      (writes.map NativeEvent.write).flatMap f = [] := by
    simp [List.flatMap_eq_nil_iff, hf]
  have hno {β : Type} (f : NativeEvent Message → Option β) (hf : ∀ write, f (.write write) = none) :
      (writes.map NativeEvent.write).filterMap f = [] := by
    simp [hf]
  refine h.sinks sinking sinking rfl ⟨hno _ fun _ => rfl, hno _ fun _ => rfl⟩ rfl fun _ => ?_
  show s.global.allCommitMessages =
    s.global.allCommitMessages ++ (writes.map NativeEvent.write).flatMap NativeEvent.prepared
  rw [hnone _ fun _ => rfl, List.append_nil]

theorem Executes.combine (h : Executes history s) (writer : Nat) (replies : CombineReplies Message)
    (sinking : s.finalized = false) {lstate lstate' : NativeInsertLocalState}
    {global : NativeInsertGlobalState Message} {r : Except Exception Unit} {events : List (NativeEvent Message)}
    (run : (Write.combine replies).run (s.global, lstate) = (r, (global, lstate'), events)) :
    Executes (history ++ [⟨.combine writer, r, events⟩])
      { s with global, locals := s.locals.set writer lstate', failed := s.failed || threw r } := by
  obtain ⟨hquiet, -, hends⟩ := Proc.wp_run (wp_combine replies (s.global, lstate)) run
  refine h.sinks sinking sinking rfl hquiet ?_ fun hresult => ?_
  · rcases hends with ⟨-, hsame⟩ | ⟨-, -, hsame⟩ <;> cases hsame <;> rfl
  · rcases hends with ⟨⟨e, rfl⟩, -⟩ | ⟨-, -, hsame⟩
    · cases hresult
    · cases hsame
      rfl

/-- Finalize commits all that was prepared, or nothing: without messages, and when the committer is not made. -/
theorem Executes.finalize (h : Executes history s) (replies : NativeCommitReplies) (once : s.finalized = false)
    (succeeded : s.failed = false) (combined : ∀ lstate ∈ s.locals, lstate.writer = false)
    {r : Except Exception Unit} {global : NativeInsertGlobalState Message} {events : List (NativeEvent Message)}
    (run : (Write.finalize replies).run s.global = (r, global, events)) :
    Executes (history ++ [⟨.finalize, r, events⟩]) { s with global, finalized := true, failed := threw r } := by
  obtain ⟨rfl, hprepared, -, hemits, hends⟩ := Proc.wp_run (wp_finalize replies s.global) run
  obtain ⟨hcommits, hunread⟩ := h.sinking once
  have hmessages := h.prepared (.inl succeeded)
  have hprepared' : nativePrepared (history ++ [⟨.finalize, r, events⟩]) = nativePrepared history := by
    rw [nativePrepared_snoc]
    show nativePrepared history ++ events.flatMap NativeEvent.prepared = _
    rw [hprepared, List.append_nil]
  have hcommits' : nativeCommits (history ++ [⟨.finalize, r, events⟩]) = events.filterMap NativeEvent.committed := by
    rw [nativeCommits_snoc, hcommits, List.nil_append]
    rfl
  refine ⟨by rintro ⟨⟩, fun _ => ?_, fun hg other hmem => ?_, fun _ other hmem hcall => ?_,
    fun _ => combined, ?_, fun _ hg hsome => ?_, ?_, fun hread => ?_⟩
  · rw [hprepared']
    exact hmessages
  · rcases List.mem_append.1 hmem with hmem | hmem
    · exact h.succeeded succeeded other hmem
    · rw [List.mem_singleton.1 hmem]
      cases r with
      | ok u => rfl
      | error e => cases hg
  · rcases List.mem_append.1 hmem with hmem | hmem
    · exact h.succeeded succeeded other hmem
    · rw [List.mem_singleton.1 hmem] at hcall
      exact absurd rfl hcall
  · rw [hcommits', hprepared', ← hmessages]
    rcases hends with ⟨-, -, hnone⟩ | ⟨hsome, ⟨-, hnone⟩ | hall⟩
    · exact .inl hnone
    · exact .inl hnone
    · exact .inr ⟨hsome, hall⟩
  · rw [hprepared'] at hsome
    rw [hcommits', hprepared', ← hmessages]
    rcases hends with ⟨hempty, -⟩ | ⟨-, ⟨⟨e, rfl⟩, -⟩ | hall⟩
    · exact absurd (hmessages.symm.trans hempty) hsome
    · cases hg
    · exact hall
  · rw [nativeEmits_snoc, h.reported, hunread]
    exact hemits
  · exact absurd (hunread.symm.trans hread) Bool.noConfusion

/-- The source cannot throw, and reports the count of a finalized INSERT. -/
theorem Executes.getData (h : Executes history s) (finalized : s.finalized = true) (succeeded : s.failed = false)
    {r : Except Exception SourceResultType} {global : NativeInsertGlobalState Message}
    {events : List (NativeEvent Message)} (run : getDataInternal.run s.global = (r, global, events)) :
    Executes (history ++ [⟨.getData, r.map fun _ => (), events⟩]) { s with global, failed := threw r } := by
  obtain ⟨⟨a, rfl⟩, rfl, hprepared, -, hcommits, hemits⟩ := Proc.wp_run (wp_getDataInternal s.global) run
  have hprepared' : nativePrepared (history ++ [⟨.getData, .ok (), events⟩]) = nativePrepared history := by
    rw [nativePrepared_snoc]
    show nativePrepared history ++ events.flatMap NativeEvent.prepared = _
    rw [hprepared, List.append_nil]
  have hcommits' : nativeCommits (history ++ [⟨.getData, .ok (), events⟩]) = nativeCommits history := by
    rw [nativeCommits_snoc]
    show nativeCommits history ++ events.filterMap NativeEvent.committed = _
    rw [hcommits, List.append_nil]
  have hall (other : NativeRecord Message) (hmem : other ∈ history ++ [⟨.getData, .ok (), events⟩]) :
      other.result = .ok () := by
    rcases List.mem_append.1 hmem with hmem | hmem
    · exact h.succeeded succeeded other hmem
    · rw [List.mem_singleton.1 hmem]
  refine ⟨fun hf => absurd (finalized.symm.trans hf) Bool.noConfusion, fun _ => ?_, fun _ => hall,
    fun _ other hmem _ => hall other hmem, h.closed, ?_, fun _ _ => ?_, ?_, fun _ => ⟨finalized, rfl⟩⟩
  · exact (h.prepared (.inr finalized)).trans hprepared'.symm
  · exact hcommits' ▸ hprepared' ▸ h.commits
  · exact hcommits' ▸ hprepared' ▸ h.published finalized succeeded
  · show nativeEmits (history ++ [⟨.getData, .ok (), events⟩]) = [s.global.insertCount.toInt64]
    rw [nativeEmits_snoc, h.reported]
    show _ ++ events.filterMap NativeEvent.emitted = _
    rw [hemits]
    cases s.global.finished <;> rfl

/-- Every call keeps the invariant. -/
theorem Executes.step (h : Executes history s) (hstep : NativeStep render s record s') :
    Executes (history ++ [record]) s' := by
  cases hstep with
  | getLocalSinkState replies sinking run => exact h.getLocalSinkState replies sinking run _
  | sink writer reply chunk sinking found run live => exact h.sink sinking writer chunk _ _ _
  | combine writer replies sinking found live run => exact h.combine writer replies sinking run
  | finalize replies once succeeded combined run => exact h.finalize replies once succeeded combined run
  | getData finalized succeeded run => exact h.getData finalized succeeded run

theorem Executes.run {global : NativeInsertGlobalState Message} (hmessages : global.allCommitMessages = [])
    (hfinished : global.finished = false) (run : Run (NativeStep render) { global } history s) : Executes history s :=
  run.invariant (executes_start hmessages hfinished) Executes.step

section Main

variable {insert : PhysicalPaimonInsert} {replies : SinkStateReplies} {global : NativeInsertGlobalState Message}
  {setup : List (NativeEvent Message)}

/-- Whatever the order of its calls and whichever of them throw, the global state has the messages and the
rows of exactly the local states whose Combine returned, each of them once. -/
theorem native_insert_accounts (hglobal : (getGlobalSinkState insert replies).run () = (.ok global, (), setup))
    (run : Run (NativeStep render) { global } history s) :
    s.global.allCommitMessages = (books history).flatMap Ledger.Entry.items ∧
      s.global.insertCount =
        UInt64.ofNat ((Ledger.closedIn (books history)).map (Ledger.addedTo (books history))).sum ∧
      (Ledger.closedIn (books history)).Nodup := by
  obtain ⟨hmessages, hcount, -, -⟩ := (Proc.wp_run (wp_getGlobalSinkState insert replies) hglobal global rfl).fresh
  obtain ⟨l, hbooks, hkeeps⟩ := keepsBooks_run .size (nativeActs_run hmessages hcount run)
  have hbalanced := Ledger.Balanced.run hbooks
  refine ⟨hkeeps.items.trans hbalanced.items, ?_, hbalanced.once⟩
  exact hkeeps.total.trans (congrArg UInt64.ofNat hbalanced.total)

/-- An INSERT that has reported a count has sunk as many rows, its calls returned, and all it prepared is
committed. -/
theorem reported_insert (hglobal : (getGlobalSinkState insert replies).run () = (.ok global, (), setup))
    (run : Run (NativeStep render) { global } history s) (reported : nativeEmits history ≠ []) :
    nativeEmits history = [(UInt64.ofNat (nativeRows history)).toInt64] ∧
      (nativePrepared history ≠ [] → nativeCommits history = [nativePrepared history]) ∧
      (∀ lstate ∈ s.locals, lstate.writer = false) ∧ ∀ record ∈ history, record.result = .ok () := by
  obtain ⟨hmessages, hcount, hfinished, -⟩ :=
    (Proc.wp_run (wp_getGlobalSinkState insert replies) hglobal global rfl).fresh
  obtain ⟨l, hbooks, hkeeps⟩ := keepsBooks_run .size (nativeActs_run hmessages hcount run)
  have hexecutes : Executes history s := .run hmessages hfinished run
  have hemits := hexecutes.reported
  split at hemits
  · rename_i hread
    obtain ⟨hfinalized, hsucceeded⟩ := hexecutes.read hread
    have hclosed := hexecutes.closed hfinalized
    have hreturned := hexecutes.succeeded hsucceeded
    refine ⟨?_, hexecutes.published hfinalized hsucceeded, hclosed, hreturned⟩
    -- every account is closed, so the books hold all rows
    have htotal : s.global.insertCount = UInt64.ofNat (Measure.size.count l.total) := hkeeps.total
    have hsettled := (Ledger.Balanced.run hbooks).settled (hkeeps.closed (List.forall_mem_map.2 hclosed))
    rw [addedIn_entries, allSunk_nativeActs hreturned, size_nativeSunk] at hsettled
    rw [hemits, htotal, hsettled]
    rfl
  · exact absurd hemits reported

/-- What is committed by an INSERT that has reported a count stands for all that was sunk, if what every
`PrepareCommit` returned stands for what was sunk into its local state. -/
theorem native_contents {M : Type} [AddCommMonoid M] {measure : Measure M} {contents : Option Message → M}
    (hglobal : (getGlobalSinkState insert replies).run () = (.ok global, (), setup))
    (run : Run (NativeStep render) { global } history s) (reported : nativeEmits history ≠ [])
    (fits : nativeRows history < idxLimit) (stands : StandsFor measure contents (nativeActs history)) :
    ((nativeCommits history).flatten.map contents).sum = ((nativeSunk history).map measure.of).sum := by
  obtain ⟨hmessages, hcount, hfinished, -⟩ :=
    (Proc.wp_run (wp_getGlobalSinkState insert replies) hglobal global rfl).fresh
  have hexecutes : Executes history s := .run hmessages hfinished run
  obtain ⟨-, hcommits, hclosed, hreturned⟩ := reported_insert hglobal run reported
  have hread : s.global.finished = true := by
    by_contra hunread
    have hemits := hexecutes.reported
    rw [if_neg hunread] at hemits
    exact reported hemits
  have hitems : s.tally.items = nativePrepared history := hexecutes.prepared (.inr (hexecutes.read hread).1)
  have hflatten : (nativeCommits history).flatten = nativePrepared history := by
    by_cases hnone : nativePrepared history = []
    · rcases hexecutes.commits with hno | ⟨hsome, -⟩
      · rw [hno, hnone]
        rfl
      · exact absurd hnone hsome
    · rw [hcommits hnone, List.flatten_singleton]
  have hsunk := allSunk_nativeActs hreturned
  have hfits : ((allSunk (nativeActs history)).map Measure.size.of).sum < idxLimit := by
    rwa [hsunk, size_nativeSunk]
  rw [hflatten, ← hitems, ← hsunk]
  exact contents_of_acts (nativeActs_run hmessages hcount run) stands hfits (List.forall_mem_map.2 hclosed)

/-- An INSERT commits nothing, or once all that was prepared, after all other calls returned. A count is
reported once, when every call returned, each Sink with every row of its chunk written once, and all that was
prepared is committed, and it is the number of rows of the chunks. -/
theorem native_insert_all_or_nothing (hglobal : (getGlobalSinkState insert replies).run () = (.ok global, (), setup))
    (run : Run (NativeStep render) { global } history s) :
    (nativeCommits history = [] ∨ nativePrepared history ≠ [] ∧ nativeCommits history = [nativePrepared history] ∧
      ∀ record ∈ history, record.call ≠ .finalize → record.result = .ok ()) ∧
    (nativeEmits history = [] ∨ nativeEmits history = [(UInt64.ofNat (nativeRows history)).toInt64] ∧
      (nativePrepared history ≠ [] → nativeCommits history = [nativePrepared history]) ∧
      ∀ record ∈ history, record.result = .ok () ∧
        (record.writes.flatMap PartitionWrite.rows).Perm (List.range record.call.rows)) := by
  obtain ⟨hmessages, hcount, hfinished, -⟩ :=
    (Proc.wp_run (wp_getGlobalSinkState insert replies) hglobal global rfl).fresh
  have hexecutes : Executes history s := .run hmessages hfinished run
  constructor
  · rcases hexecutes.commits with hnone | ⟨hsome, hall⟩
    · exact .inl hnone
    · refine .inr ⟨hsome, hall, hexecutes.reached ?_⟩
      cases hfinalized : s.finalized with
      | true => rfl
      | false =>
        rw [(hexecutes.sinking hfinalized).1] at hall
        cases hall
  · by_cases hemits : nativeEmits history = []
    · exact .inl hemits
    · obtain ⟨hrows, hcommits, -, hreturned⟩ := reported_insert hglobal run hemits
      refine .inr ⟨hrows, hcommits, fun record hrecord => ⟨hreturned record hrecord, ?_⟩⟩
      obtain ⟨before, after, rfl⟩ := List.append_of_mem hrecord
      obtain ⟨middle, middle', -, hstep, -⟩ := run.step_of_mem
      exact hstep.rows (hreturned record hrecord)

end Main

/-! ## An INSERT of one row -/

namespace Sample

def sinkReplies : SinkStateReplies := ⟨.ok (), .ok "/wh/db.db/t", targetReplies.loadTableSchema⟩

def nativeGlobal : NativeInsertGlobalState String :=
  { partKeyNames := [], partColIdxs := [], tablePath := "/wh/db.db/t" }

/-- One local state takes a row and is combined; what it prepared is committed and its row is counted. -/
def insertHistory (columns : List Column) : List (NativeRecord String) :=
  [⟨.getLocalSinkState, .ok (), [.create 0]⟩, ⟨.sink 0 ⟨1, columns⟩, .ok (), [.write ⟨.empty, [0]⟩]⟩,
    ⟨.combine 0, .ok (), [.prepareCommit [some "data-0.orc"], .close]⟩,
    ⟨.finalize, .ok (), [.lock, .commit [some "data-0.orc"], .unlock]⟩, ⟨.getData, .ok (), [.emit 1]⟩]

def nativeCombined : NativeInsertGlobalState String :=
  { nativeGlobal with nextWriteId := 1, allCommitMessages := [some "data-0.orc"], insertCount := 1 }

def nativeDone : NativeState String where
  global := { nativeCombined with finished := true }
  locals := [{ localCount := 1, writer := false }]
  finalized := true

theorem getGlobalSinkState_unplanned :
    (getGlobalSinkState unplanned sinkReplies).run () = (.ok nativeGlobal, (), ([] : List (NativeEvent String))) := rfl

theorem run_insertHistory (columns : List Column) :
    Run (NativeStep fun _ => "") { global := nativeGlobal } (insertHistory columns) nativeDone := by
  have hnew : NativeStep (fun _ => "") { global := nativeGlobal }
      ⟨.getLocalSinkState, (Except.ok {}).map fun (_ : NativeInsertLocalState) => (), [.create 0]⟩
      { global := { nativeGlobal with nextWriteId := 1 }, locals := [{}] } :=
    .getLocalSinkState ⟨.ok (), .ok ()⟩ rfl rfl
  have hrow : (sink (fun _ => "") nativeGlobal.toPaimonInsertGlobalState (fun _ => .ok ()) ⟨1, columns⟩).run {} =
      (.ok (), ⟨1⟩, [⟨.empty, [0]⟩]) := rfl
  have hfound : [({} : NativeInsertLocalState)][0]? = some ({} : NativeInsertLocalState) := rfl
  have hsink : NativeStep (fun _ => "") { global := { nativeGlobal with nextWriteId := 1 }, locals := [{}] }
      ⟨.sink 0 ⟨1, columns⟩, .ok (), [⟨.empty, [0]⟩].map .write⟩
      { global := { nativeGlobal with nextWriteId := 1 }, locals := [{ localCount := 1 }] } :=
    @NativeStep.sink _ _ _ 0 (fun _ => .ok ()) ⟨1, columns⟩ rfl {} ⟨1⟩ (.ok ()) [⟨.empty, [0]⟩] hfound hrow (.inl rfl)
  have hcombine : NativeStep (fun _ => "")
      { global := { nativeGlobal with nextWriteId := 1 }, locals := [{ localCount := 1 }] }
      ⟨.combine 0, .ok (), [.prepareCommit [some "data-0.orc"], .close]⟩
      { global := nativeCombined, locals := [{ localCount := 1, writer := false }] } :=
    .combine 0 ⟨.ok [some "data-0.orc"], .ok (), .ok ()⟩ rfl rfl rfl rfl
  have hfinalize : NativeStep (fun _ => "")
      { global := nativeCombined, locals := [{ localCount := 1, writer := false }] }
      ⟨.finalize, .ok (), [.lock, .commit [some "data-0.orc"], .unlock]⟩
      { global := nativeCombined, locals := [{ localCount := 1, writer := false }], finalized := true } :=
    .finalize ⟨⟨.ok (), .ok ()⟩, .ok ()⟩ rfl rfl (by simp) rfl
  have hdata : NativeStep (fun _ => "")
      { global := nativeCombined, locals := [{ localCount := 1, writer := false }], finalized := true }
      ⟨.getData, (Except.ok SourceResultType.haveMoreOutput).map fun _ => (), [.emit 1]⟩ nativeDone :=
    .getData rfl rfl rfl
  exact .snoc (.snoc (.snoc (.snoc (.snoc .nil hnew) hsink) hcombine) hfinalize) hdata

def nativeHistory : List (NativeRecord String) := insertHistory oneRow.columns

theorem run_nativeHistory : Run (NativeStep fun _ => "") { global := nativeGlobal } nativeHistory nativeDone :=
  run_insertHistory oneRow.columns

theorem native_insert_accounts_nativeHistory :
    nativeDone.global.allCommitMessages = (books nativeHistory).flatMap Ledger.Entry.items ∧
      nativeDone.global.insertCount =
        UInt64.ofNat ((Ledger.closedIn (books nativeHistory)).map (Ledger.addedTo (books nativeHistory))).sum ∧
      (Ledger.closedIn (books nativeHistory)).Nodup :=
  native_insert_accounts getGlobalSinkState_unplanned run_nativeHistory

theorem native_insert_all_or_nothing_nativeHistory :
    (nativeCommits nativeHistory = [] ∨ nativePrepared nativeHistory ≠ [] ∧
      nativeCommits nativeHistory = [nativePrepared nativeHistory] ∧
      ∀ record ∈ nativeHistory, record.call ≠ .finalize → record.result = .ok ()) ∧
    (nativeEmits nativeHistory = [] ∨ nativeEmits nativeHistory = [(UInt64.ofNat (nativeRows nativeHistory)).toInt64] ∧
      (nativePrepared nativeHistory ≠ [] → nativeCommits nativeHistory = [nativePrepared nativeHistory]) ∧
      ∀ record ∈ nativeHistory, record.result = .ok () ∧
        (record.writes.flatMap PartitionWrite.rows).Perm (List.range record.call.rows)) :=
  native_insert_all_or_nothing getGlobalSinkState_unplanned run_nativeHistory

end Sample

end DuckPaimon.Write
