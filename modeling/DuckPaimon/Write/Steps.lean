/-
What each coordinator call can do: whichever replies it gets, how it ends, what it leaves of the
operator and what it has done outside. Planning, validating and preparing neither abort nor commit
anything; an aborting call leaves the operator as it is; a finalizing call past its checks aborts
what it decoded or commits it, after its target proved unchanged.
-/
import DuckPaimon.Write.Coordinator
import DuckPaimon.Write.Select

namespace DuckPaimon.Write

open Outcome

variable {Message : Type}

/-! ## Events -/

/-- The messages an event hands over to be aborted. -/
def Event.aborted : Event Message → List Message
  | .bestEffortAbort _ messages => messages
  | _ => []

/-- The messages an event hands over to be committed. -/
def Event.committed : Event Message → List Message
  | .filterAndCommit _ messages => messages
  | _ => []

/-- The event starts a commit. -/
def Event.IsCommit : Event Message → Prop
  | .filterAndCommit _ _ => True
  | _ => False

instance (event : Event Message) : Decidable event.IsCommit := by
  cases event <;> first | exact isTrue trivial | exact isFalse id

/-- The event neither aborts nor commits. -/
def Event.Quiet : Event Message → Prop
  | .lock | .unlock | .loadTarget | .createTable => True
  | _ => False

theorem Event.Quiet.aborted {event : Event Message} (h : event.Quiet) : event.aborted = [] := by
  cases event <;> first | rfl | exact h.elim

theorem Event.Quiet.not_commit {event : Event Message} (h : event.Quiet) : ¬event.IsCommit := by
  cases event <;> first | exact id | exact h.elim

/-- What a list of events hands over to be aborted. -/
def abortedBy (events : List (Event Message)) : List Message := events.flatMap Event.aborted

/-- What a list of events hands over to be committed. -/
def committedBy (events : List (Event Message)) : List Message := events.flatMap Event.committed

theorem abortedBy_of_quiet {events : List (Event Message)} (h : ∀ event ∈ events, event.Quiet) :
    abortedBy events = [] :=
  List.flatMap_eq_nil_iff.2 fun event hevent => (h event hevent).aborted

theorem committedBy_of_not_commit {events : List (Event Message)} (h : ∀ event ∈ events, ¬event.IsCommit) :
    committedBy events = [] := by
  refine List.flatMap_eq_nil_iff.2 fun event hevent => ?_
  cases event with
  | filterAndCommit => exact absurd trivial (h _ hevent)
  | _ => rfl

/-! ## The mutex and the target -/

/-- A critical section does what its body does, between taking and releasing the mutex. -/
theorem wp_withMutationLock {α : Type} (body : Coordinator Message α) (insert : PhysicalPaimonInsert)
    (Q : Except Exception α → PhysicalPaimonInsert → List (Event Message) → Prop) :
    (withMutationLock body).wp insert Q ↔
      body.wp insert fun r insert' events => Q r insert' (.lock :: events ++ [.unlock]) := by
  unfold withMutationLock
  rw [Proc.wp_bind, Proc.wp_call]
  show Proc.wp _ _ _ ↔ _
  rw [Proc.wp_bind, Proc.wp_tryCatch]
  constructor
  · refine fun h => Proc.wp_mono h ?_
    rintro (e | a) insert' events h
    · simpa using h
    · simpa using h
  · refine fun h => Proc.wp_mono h ?_
    rintro (e | a) insert' events h
    · simpa using h
    · simpa using h

/-- Looking at the target under the mutex is in `P`. -/
structure Looks (P : Event Message → Prop) : Prop where
  lock : P .lock
  loadTarget : P .loadTarget
  unlock : P .unlock

theorem quiet_looks : Looks (Event.Quiet : Event Message → Prop) := ⟨trivial, trivial, trivial⟩

theorem keeps_withMutationLock {α τ : Type} {f : PhysicalPaimonInsert → τ} {P : Event Message → Prop}
    {body : Coordinator Message α} (looks : Looks P) (h : Proc.Keeps f P body) :
    Proc.Keeps f P (withMutationLock body) := by
  intro insert
  rw [wp_withMutationLock]
  refine Proc.wp_mono (h insert) ?_
  rintro r insert' events ⟨hkept, hevents⟩
  refine ⟨hkept, fun event hevent => ?_⟩
  rcases List.mem_append.1 hevent with hevent | hevent
  · rcases List.mem_cons.1 hevent with rfl | hevent
    · exact looks.lock
    · exact hevents event hevent
  · rw [List.mem_singleton.1 hevent]
    exact looks.unlock

/-- The target state the operator records. -/
def PhysicalPaimonInsert.recorded (insert : PhysicalPaimonInsert) : TargetState where
  tableUuid := insert.distributedTableUuid
  tablePath := insert.distributedTablePath
  tableSchemaJson := insert.distributedTableSchemaJson
  schemaId := insert.distributedSchemaId
  appendOnly := insert.distributedAppendOnly
  hasSnapshot := insert.distributedHasSnapshot
  snapshotId := insert.distributedSnapshotId
  fieldNames := insert.distributedInputNames
  fieldTypes := insert.distributedInputTypes
  partKeys := insert.partKeys
  primaryKeys := insert.distributedPrimaryKeys
  tableOptions := insert.distributedTableOptions
  nullPartName := insert.distributedNullPartName

/-- The comparisons leave out nothing: they pass exactly for the recorded state. -/
theorem compareTargetBaseline_eq_ok {insert : PhysicalPaimonInsert} {current : TargetState} :
    compareTargetBaseline insert current = .ok () ↔ current = insert.recorded := by
  unfold compareTargetBaseline
  constructor
  · intro h
    obtain ⟨huuid, h⟩ := throwIf_bind_eq_ok.1 h
    obtain ⟨hpath, h⟩ := throwIf_bind_eq_ok.1 h
    obtain ⟨hschema, h⟩ := throwIf_bind_eq_ok.1 h
    have hsnapshot := throwIf_eq_ok.1 h
    simp only [SchemaChanged, not_or, not_not] at huuid hpath hschema hsnapshot
    obtain ⟨hid, hjson, happend, hnames, htypes, hpart, hprimary, hoptions, hnull⟩ := hschema
    obtain ⟨hhas, hid'⟩ := hsnapshot
    obtain ⟨_, _, _, _, _, _, _, _, _, _, _, _, _⟩ := current
    dsimp only at *
    subst huuid hpath hid hjson happend hnames htypes hpart hprimary hoptions hnull hhas hid'
    rfl
  · rintro rfl
    refine throwIf_bind_eq_ok.2 ⟨not_not.2 rfl, throwIf_bind_eq_ok.2 ⟨not_not.2 rfl, throwIf_bind_eq_ok.2 ⟨?_, ?_⟩⟩⟩
    · simp [SchemaChanged, PhysicalPaimonInsert.recorded]
    · exact throwIf_eq_ok.2 (by simp [PhysicalPaimonInsert.recorded])

/-- The target is the recorded one, in a writable catalog. -/
def AtBaseline (insert : PhysicalPaimonInsert) (replies : CatalogReplies) : Prop :=
  getCoordinatorCatalog insert = .ok () ∧ loadTargetState insert.tableIdentifier replies = .ok insert.recorded

theorem wp_validateTargetBaseline (replies : CatalogReplies) (insert : PhysicalPaimonInsert) :
    (validateTargetBaseline replies : Coordinator Message Unit).wp insert fun r insert' events =>
      insert' = insert ∧ (∀ event ∈ events, event.Quiet) ∧ (r = .ok () ↔ AtBaseline insert replies) ∧
        (r = .ok () → events = [.loadTarget]) := by
  unfold validateTargetBaseline AtBaseline
  simp only [Proc.wp_bind, Proc.wp_get, Proc.wp_ofExcept, Proc.wp_call]
  cases hcatalog : getCoordinatorCatalog insert with
  | error e => simp
  | ok u =>
    cases hload : loadTargetState insert.tableIdentifier replies with
    | error e => simp [Event.Quiet]
    | ok current =>
      refine ⟨trivial, ?_, ?_, fun _ => rfl⟩
      · simp [Event.Quiet]
      · rw [compareTargetBaseline_eq_ok]
        exact ⟨fun h => ⟨rfl, congrArg Except.ok h⟩, fun h => Except.ok.inj h.2⟩

/-! ## Aborting messages -/

/-- What was done hands over the messages to be aborted, and commits nothing. -/
structure Aborts (messages : List Message) (events : List (Event Message)) : Prop where
  aborted : abortedBy events = messages
  not_commit : ∀ event ∈ events, ¬event.IsCommit

theorem aborts_of_quiet {events : List (Event Message)} (h : ∀ event ∈ events, event.Quiet) : Aborts [] events :=
  ⟨abortedBy_of_quiet h, fun event hevent => (h event hevent).not_commit⟩

theorem Aborts.append {messages messages' : List Message} {events events' : List (Event Message)}
    (h : Aborts messages events) (h' : Aborts messages' events') : Aborts (messages ++ messages') (events ++ events') := by
  constructor
  · have haborted := h.aborted
    have haborted' := h'.aborted
    unfold abortedBy at haborted haborted' ⊢
    rw [List.flatMap_append, haborted, haborted']
  · intro event hevent
    exact (List.mem_append.1 hevent).elim (h.not_commit event) (h'.not_commit event)

theorem wp_bestEffortAbortMessages (replies : AbortReplies) (commitUser : String) (messages : List Message)
    (insert : PhysicalPaimonInsert) :
    (bestEffortAbortMessages replies commitUser messages).wp insert fun r insert' events =>
      r = .ok () ∧ insert' = insert ∧ Aborts messages events := by
  have hfirst : Aborts messages [Event.bestEffortAbort commitUser messages] := by
    refine ⟨List.flatMap_singleton .., ?_⟩
    rw [List.forall_mem_singleton]
    exact id
  unfold bestEffortAbortMessages
  rw [Proc.wp_bind, Proc.wp_call]
  show Proc.wp _ _ _
  rw [Proc.wp_tryCatch]
  cases messages with
  | nil => exact (Proc.wp_pure _ _ _).2 ⟨rfl, rfl, hfirst⟩
  | cons message messages =>
    have hboth : Aborts (message :: messages)
        [Event.bestEffortAbort commitUser (message :: messages), .abort (message :: messages)] := by
      refine ⟨List.append_nil _, ?_⟩
      rw [List.forall_mem_cons, List.forall_mem_singleton]
      exact ⟨id, id⟩
    unfold abortMessages
    simp only [Proc.wp_bind, Proc.wp_ofExcept, Proc.wp_call]
    cases createCommitter replies.committer with
    | error e => exact (Proc.wp_pure _ _ _).2 ⟨rfl, rfl, hfirst⟩
    | ok u =>
      cases replies.abort.orIO with
      | error e => exact (Proc.wp_pure _ _ _).2 ⟨rfl, rfl, hboth⟩
      | ok u => exact ⟨trivial, trivial, hboth⟩

/-! ## The critical section of a finalization -/

/-- What was decoded can be committed: the target is unchanged, there is something to commit, and
the committer can be built. -/
structure Committable (insert : PhysicalPaimonInsert) (replies : CommitReplies) (decoded : DecodedCommit Message) :
    Prop where
  baseline : AtBaseline insert replies.baseline
  messages : decoded.messages ≠ []
  rowCount : decoded.rowCount ≠ 0
  committer : createCommitter replies.committer = .ok ()

/-- Nothing is to be committed, and the target is unchanged. -/
structure NothingToCommit (insert : PhysicalPaimonInsert) (replies : CommitReplies) (decoded : DecodedCommit Message) :
    Prop where
  baseline : AtBaseline insert replies.baseline
  messages : decoded.messages = []
  rowCount : decoded.rowCount = 0

theorem wp_readyToCommit (replies : CommitReplies) (decoded : DecodedCommit Message) (insert : PhysicalPaimonInsert) :
    (readyToCommit replies decoded).wp insert fun r insert' events =>
      insert' = insert ∧ (∀ event ∈ events, event.Quiet) ∧
        (r = .ok true ↔ Committable insert replies decoded) ∧ (r = .ok false ↔ NothingToCommit insert replies decoded) ∧
          ((∃ ready, r = .ok ready) → events = [.loadTarget]) := by
  unfold readyToCommit
  rw [Proc.wp_bind]
  refine Proc.wp_mono (wp_validateTargetBaseline replies.baseline insert) ?_
  rintro (e | u) insert' events ⟨rfl, hquiet, hbaseline, hevents⟩
  · have hnot : ¬AtBaseline insert' replies.baseline := by
      intro h
      cases hbaseline.2 h
    exact ⟨rfl, hquiet, ⟨by rintro ⟨⟩, fun h => absurd h.baseline hnot⟩, ⟨by rintro ⟨⟩, fun h => absurd h.baseline hnot⟩,
      by rintro ⟨_, ⟨⟩⟩⟩
  · have hat := hbaseline.1 rfl
    have hquiet (more : List (Event Message)) (h : more = []) : ∀ event ∈ events ++ more, event.Quiet := by
      rw [h, List.append_nil]; exact hquiet
    obtain rfl := hevents rfl
    show Proc.wp _ _ _
    rw [Proc.wp_ite]
    split
    · rename_i hempty
      rw [List.isEmpty_iff] at hempty
      rw [Proc.wp_bind, Proc.wp_throwIf]
      split
      · rename_i hrows
        exact ⟨rfl, hquiet _ rfl, ⟨by rintro ⟨⟩, fun h => absurd hempty h.messages⟩,
          ⟨by rintro ⟨⟩, fun h => absurd h.rowCount hrows⟩,
          by rintro ⟨_, ⟨⟩⟩⟩
      · rename_i hrows
        rw [not_not] at hrows
        refine (Proc.wp_pure _ _ _).2 ⟨rfl, hquiet _ rfl, ⟨by rintro ⟨⟩, fun h => absurd hempty h.messages⟩, ?_, fun _ => rfl⟩
        exact ⟨fun _ => ⟨hat, hempty, hrows⟩, fun _ => rfl⟩
    · rename_i hfull
      rw [List.isEmpty_iff] at hfull
      rw [Proc.wp_bind, Proc.wp_throwIf]
      split
      · rename_i hrows
        exact ⟨rfl, hquiet _ rfl, ⟨by rintro ⟨⟩, fun h => absurd hrows h.rowCount⟩,
          ⟨by rintro ⟨⟩, fun h => absurd h.messages hfull⟩,
          by rintro ⟨_, ⟨⟩⟩⟩
      · rename_i hrows
        show Proc.wp _ _ _
        rw [Proc.wp_bind, Proc.wp_ofExcept]
        cases hcommitter : createCommitter replies.committer with
        | error e =>
          refine ⟨rfl, hquiet _ rfl, ⟨by rintro ⟨⟩, fun h => ?_⟩,
            ⟨by rintro ⟨⟩, fun h => absurd h.messages hfull⟩, by rintro ⟨_, ⟨⟩⟩⟩
          cases hcommitter.symm.trans h.committer
        | ok u =>
          refine (Proc.wp_pure _ _ _).2 ⟨rfl, hquiet _ rfl, ?_, ⟨by rintro ⟨⟩, fun h => absurd h.messages hfull⟩, fun _ => rfl⟩
          exact ⟨fun _ => ⟨hat, hfull, hrows, hcommitter⟩, fun _ => rfl⟩

/-- How a commit ends: normally for one committed operation, and with an unknown outcome else. -/
def CommitEnds (replies : CommitReplies) (decoded : DecodedCommit Message) (r : Except Exception UInt64) : Prop :=
  (replies.commit = .ok 1 ∧ r = .ok decoded.rowCount) ∨ (replies.commit ≠ .ok 1 ∧ ∃ e, r = .error e)

theorem wp_filterAndCommit (replies : CommitReplies) (transport : InsertTransport) (decoded : DecodedCommit Message)
    (insert : PhysicalPaimonInsert) :
    (filterAndCommit replies transport decoded).wp insert fun r insert' events =>
      insert' = insert ∧ CommitEnds replies decoded r ∧
        events = [.filterAndCommit transport.commitIdentifier decoded.messages] := by
  unfold filterAndCommit CommitEnds
  rw [Proc.wp_bind, Proc.wp_call]
  show Proc.wp _ _ _
  cases replies.commit with
  | error status => exact (Proc.wp_throw _ _ _).2 ⟨rfl, .inr ⟨nofun, _, rfl⟩, rfl⟩
  | ok committed =>
    show Proc.wp _ _ _
    rw [Proc.wp_bind, Proc.wp_throwIf]
    split
    · rename_i hcommitted
      exact ⟨rfl, .inr ⟨fun h => hcommitted (Except.ok.inj h), _, rfl⟩, rfl⟩
    · rename_i hcommitted
      rw [not_not] at hcommitted
      exact (Proc.wp_pure _ _ _).2 ⟨rfl, .inl ⟨congrArg _ hcommitted, rfl⟩, rfl⟩

/-- What the critical section of a finalization does: it aborts what was decoded, finds nothing to
commit, or commits what was decoded. -/
inductive SectionEnds (replies : CommitReplies) (transport : InsertTransport) (decoded : DecodedCommit Message)
    (insert : PhysicalPaimonInsert) : Except Exception UInt64 → List (Event Message) → Prop
  | withheld (e : Exception) {events : List (Event Message)} (not : ¬Committable insert replies decoded)
      (aborts : Aborts decoded.messages events) : SectionEnds replies transport decoded insert (.error e) events
  | nothing (nothing : NothingToCommit insert replies decoded) :
      SectionEnds replies transport decoded insert (.ok 0) [.lock, .loadTarget, .unlock]
  | commits {r : Except Exception UInt64} (committable : Committable insert replies decoded)
      (ends : CommitEnds replies decoded r) : SectionEnds replies transport decoded insert r
        [.lock, .loadTarget, .filterAndCommit transport.commitIdentifier decoded.messages, .unlock]

theorem wp_commitSection (replies : CommitReplies) (transport : InsertTransport) (decoded : DecodedCommit Message)
    (insert : PhysicalPaimonInsert) :
    (commitSection replies transport decoded).wp insert fun r insert' events =>
      insert' = insert ∧ SectionEnds replies transport decoded insert r events := by
  unfold commitSection
  rw [Proc.wp_bind, Proc.wp_call]
  show Proc.wp _ _ _
  rw [Proc.wp_bind, Proc.wp_tryCatch]
  refine Proc.wp_mono (wp_readyToCommit replies decoded insert) ?_
  rintro (e | ready) insert' events ⟨rfl, hquiet, hcommittable, hnothing, hevents⟩
  · show Proc.wp _ _ _
    rw [Proc.wp_bind, Proc.wp_call]
    show Proc.wp _ _ _
    rw [Proc.wp_bind]
    refine Proc.wp_mono (wp_bestEffortAbortMessages _ _ _ insert') ?_
    rintro r insert'' aborting ⟨rfl, rfl, haborts⟩
    refine (Proc.wp_throw _ _ _).2 ⟨rfl, .withheld e (fun h => nomatch hcommittable.2 h) ?_⟩
    have hlock : Aborts [] ([.lock] ++ (events ++ [.unlock]) : List (Event Message)) := by
      refine aborts_of_quiet fun event hevent => ?_
      simp only [List.mem_append, List.mem_singleton] at hevent
      rcases hevent with rfl | hevent | rfl
      · trivial
      · exact hquiet event hevent
      · trivial
    have := hlock.append haborts
    simpa using this
  · obtain rfl := hevents ⟨_, rfl⟩
    show Proc.wp _ _ _
    rw [Proc.wp_bind, Proc.wp_tryCatch]
    cases ready with
    | false =>
      refine (Proc.wp_pure _ _ _).2 ?_
      show Proc.wp _ _ _
      rw [Proc.wp_bind, Proc.wp_call]
      exact (Proc.wp_pure _ _ _).2 ⟨rfl, .nothing (hnothing.1 rfl)⟩
    | true =>
      refine Proc.wp_mono (wp_filterAndCommit replies transport decoded insert') ?_
      rintro (e | rowCount) insert'' events ⟨rfl, hends, rfl⟩
      · show Proc.wp _ _ _
        rw [Proc.wp_bind, Proc.wp_call]
        exact (Proc.wp_throw _ _ _).2 ⟨rfl, .commits (hcommittable.1 rfl) hends⟩
      · show Proc.wp _ _ _
        rw [Proc.wp_bind, Proc.wp_call]
        exact (Proc.wp_pure _ _ _).2 ⟨rfl, .commits (hcommittable.1 rfl) hends⟩

/-! ## Decoding in a call -/

section Calls

variable (rt : Runtime) (vane : Vane)

/-- The operator passes its shape check, and no finalization has started. -/
structure Entering (insert : PhysicalPaimonInsert) : Prop where
  shape : validateCoordinatorShape rt insert = .ok ()
  open_ : insert.distributedFinalizeStarted = false

/-- A call gets to decode the results: with what outcome, and what is decoded until then. -/
structure Decoding (replies : DecodeReplies Message) (results : List DistributedWriteTaskResult)
    (insert : PhysicalPaimonInsert) (transport : InsertTransport) (outcome : Except Exception Unit)
    (decoded : DecodedCommit Message) : Prop where
  target : getCoordinatorTransport rt insert = .ok transport
  options : ∃ options, replies.paimonOptions = .ok options
  decodes : decodeWith rt vane replies transport results = (outcome, decoded)

variable {rt vane}

/-- The shape check reads the transport. -/
theorem exists_transport {insert : PhysicalPaimonInsert} (h : validateCoordinatorShape rt insert = .ok ()) :
    ∃ transport, getCoordinatorTransport rt insert = .ok transport := by
  unfold validateCoordinatorShape at h
  obtain ⟨-, h⟩ := throwIf_bind_eq_ok.1 h
  obtain ⟨-, h⟩ := throwIf_bind_eq_ok.1 h
  obtain ⟨transport, htransport, -⟩ := bind_eq_ok.1 h
  exact ⟨transport, htransport⟩

theorem Decoding.unique {replies : DecodeReplies Message} {results : List DistributedWriteTaskResult}
    {insert : PhysicalPaimonInsert} {transport transport' : InsertTransport} {outcome outcome' : Except Exception Unit}
    {decoded decoded' : DecodedCommit Message} (h : Decoding rt vane replies results insert transport outcome decoded)
    (h' : Decoding rt vane replies results insert transport' outcome' decoded') :
    transport = transport' ∧ outcome = outcome' ∧ decoded = decoded' := by
  cases h.target.symm.trans h'.target
  cases h.decodes.symm.trans h'.decodes
  exact ⟨rfl, rfl, rfl⟩

theorem wp_decodeOrAbort (replies : DecodeReplies Message) (transport : InsertTransport)
    (results : List DistributedWriteTaskResult) (insert : PhysicalPaimonInsert) {outcome : Except Exception Unit}
    {decoded : DecodedCommit Message} (decodes : decodeWith rt vane replies transport results = (outcome, decoded)) :
    (decodeOrAbort rt vane replies transport results).wp insert fun r insert' events => insert' = insert ∧
      ((outcome = .ok () ∧ r = .ok decoded ∧ events = []) ∨
        ∃ e, outcome = .error e ∧ r = .error e ∧ Aborts decoded.messages events) := by
  unfold decodeOrAbort
  rw [decodes]
  cases outcome with
  | ok u => exact (Proc.wp_pure _ _ _).2 ⟨rfl, .inl ⟨rfl, rfl, rfl⟩⟩
  | error e =>
    show Proc.wp _ _ _
    rw [Proc.wp_bind]
    refine Proc.wp_mono (wp_bestEffortAbortMessages _ _ _ insert) ?_
    rintro r insert' events ⟨rfl, rfl, haborts⟩
    refine (Proc.wp_throw _ _ _).2 ⟨rfl, .inr ⟨e, rfl, rfl, ?_⟩⟩
    rwa [List.append_nil]

/-! ## Finalizing and aborting -/

/-- The operator once its finalization has started. -/
def PhysicalPaimonInsert.finalizing (insert : PhysicalPaimonInsert) : PhysicalPaimonInsert :=
  { insert with distributedFinalizeStarted := true }

variable (rt vane) in
/-- What `FinalizeDistributedWrite` does. -/
inductive FinalizeCall (decode : DecodeReplies Message) (commit : CommitReplies)
    (results : List DistributedWriteTaskResult) (insert : PhysicalPaimonInsert) :
    Except Exception UInt64 → PhysicalPaimonInsert → List (Event Message) → Prop
  | refused (e : Exception) (not : ¬Entering rt insert) : FinalizeCall decode commit results insert (.error e) insert []
  | unready (e : Exception) (entering : Entering rt insert)
      (not : insert.distributedTargetPrepared = false ∨ ∃ failure, decode.paimonOptions = .error failure) :
      FinalizeCall decode commit results insert (.error e) insert.finalizing []
  | undecoded (e : Exception) (transport : InsertTransport) (decoded : DecodedCommit Message)
      {events : List (Event Message)} (entering : Entering rt insert)
      (prepared : insert.distributedTargetPrepared = true)
      (decoding : Decoding rt vane decode results insert transport (.error e) decoded)
      (aborts : Aborts decoded.messages events) :
      FinalizeCall decode commit results insert (.error e) insert.finalizing events
  | decoded (transport : InsertTransport) (decoded : DecodedCommit Message) {r : Except Exception UInt64}
      {events : List (Event Message)} (entering : Entering rt insert)
      (prepared : insert.distributedTargetPrepared = true)
      (decoding : Decoding rt vane decode results insert transport (.ok ()) decoded)
      (ends : SectionEnds commit transport decoded insert.finalizing r events) :
      FinalizeCall decode commit results insert r insert.finalizing events

/-- A finalization that commits: it is the first, of a prepared target, it decodes the results, and
what it decodes can be committed. -/
theorem FinalizeCall.of_commit {decode : DecodeReplies Message} {commit : CommitReplies}
    {results : List DistributedWriteTaskResult} {insert insert' : PhysicalPaimonInsert} {r : Except Exception UInt64}
    {events : List (Event Message)} (h : FinalizeCall rt vane decode commit results insert r insert' events)
    (hcommit : ∃ event ∈ events, event.IsCommit) :
    Entering rt insert ∧ insert.distributedTargetPrepared = true ∧ insert' = insert.finalizing ∧
      ∃ transport decoded, Decoding rt vane decode results insert transport (.ok ()) decoded ∧
        Committable insert.finalizing commit decoded ∧ CommitEnds commit decoded r ∧
        events = [.lock, .loadTarget, .filterAndCommit transport.commitIdentifier decoded.messages, .unlock] := by
  obtain ⟨event, hevent, hcommit⟩ := hcommit
  cases h with
  | refused | unready => cases hevent
  | undecoded _ _ _ _ _ _ aborts => exact absurd hcommit (aborts.not_commit event hevent)
  | decoded transport decoded entering prepared decoding ends =>
    refine ⟨entering, prepared, rfl, transport, decoded, decoding, ?_⟩
    cases ends with
    | withheld _ _ aborts => exact absurd hcommit (aborts.not_commit event hevent)
    | nothing =>
      have hquiet : ∀ event ∈ ([.lock, .loadTarget, .unlock] : List (Event Message)), event.Quiet := by simp [Event.Quiet]
      exact absurd hcommit (hquiet event hevent).not_commit
    | commits committable ends => exact ⟨committable, ends, rfl⟩

/-- The first finalization of a prepared target commits what it decodes, if that can be committed. -/
theorem FinalizeCall.commits {decode : DecodeReplies Message} {commit : CommitReplies}
    {results : List DistributedWriteTaskResult} {insert insert' : PhysicalPaimonInsert} {r : Except Exception UInt64}
    {events : List (Event Message)} (h : FinalizeCall rt vane decode commit results insert r insert' events)
    (entering : Entering rt insert) (prepared : insert.distributedTargetPrepared = true) {transport : InsertTransport}
    {decoded : DecodedCommit Message} (decoding : Decoding rt vane decode results insert transport (.ok ()) decoded)
    (committable : Committable insert.finalizing commit decoded) :
    insert' = insert.finalizing ∧ CommitEnds commit decoded r ∧
      events = [.lock, .loadTarget, .filterAndCommit transport.commitIdentifier decoded.messages, .unlock] := by
  cases h with
  | refused _ not => exact absurd entering not
  | unready _ _ not =>
    rcases not with hunprepared | ⟨failure, hfailure⟩
    · exact absurd (hunprepared.symm.trans prepared) Bool.noConfusion
    · obtain ⟨options, hoptions⟩ := decoding.options
      cases hoptions.symm.trans hfailure
  | undecoded _ _ _ _ _ decoding' => cases (decoding.unique decoding').2.1
  | decoded _ _ _ _ decoding' ends =>
    obtain ⟨rfl, -, rfl⟩ := decoding.unique decoding'
    cases ends with
    | withheld _ not => exact absurd committable not
    | nothing nothing => exact absurd nothing.messages committable.messages
    | commits _ ends => exact ⟨rfl, ends, rfl⟩

/-- A finalization that returns has decoded the results; it found nothing to commit, or committed
what it decoded as one operation. -/
theorem FinalizeCall.returns {decode : DecodeReplies Message} {commit : CommitReplies}
    {results : List DistributedWriteTaskResult} {insert insert' : PhysicalPaimonInsert} {rows : UInt64}
    {events : List (Event Message)} (h : FinalizeCall rt vane decode commit results insert (.ok rows) insert' events) :
    ∃ transport decoded, Decoding rt vane decode results insert transport (.ok ()) decoded ∧ rows = decoded.rowCount ∧
      ((decoded.messages = [] ∧ rows = 0 ∧ ∀ event ∈ events, ¬event.IsCommit) ∨
        ((∃ event ∈ events, event.IsCommit) ∧ commit.commit = .ok 1)) := by
  cases h with
  | decoded transport decoded _ _ decoding ends =>
    refine ⟨transport, decoded, decoding, ?_⟩
    cases ends with
    | nothing nothing =>
      have hquiet : ∀ event ∈ ([.lock, .loadTarget, .unlock] : List (Event Message)), event.Quiet := by simp [Event.Quiet]
      exact ⟨nothing.rowCount.symm, .inl ⟨nothing.messages, rfl, fun event hevent => (hquiet event hevent).not_commit⟩⟩
    | commits _ ends =>
      rcases ends with ⟨hcommit, hrows⟩ | ⟨-, e, he⟩
      · exact ⟨Except.ok.inj hrows, .inr ⟨⟨_, .tail _ (.tail _ (.head _)), trivial⟩, hcommit⟩⟩
      · cases he

/-- Whichever way it ends, a finalization past its checks is the last. -/
theorem FinalizeCall.finalizing {decode : DecodeReplies Message} {commit : CommitReplies}
    {results : List DistributedWriteTaskResult} {insert insert' : PhysicalPaimonInsert} {r : Except Exception UInt64}
    {events : List (Event Message)} (h : FinalizeCall rt vane decode commit results insert r insert' events) :
    insert' = insert ∧ ¬Entering rt insert ∧ events = [] ∨ insert' = insert.finalizing ∧ Entering rt insert := by
  cases h with
  | refused _ not => exact .inl ⟨rfl, not, rfl⟩
  | unready _ entering => exact .inr ⟨rfl, entering⟩
  | undecoded _ _ _ entering => exact .inr ⟨rfl, entering⟩
  | decoded _ _ entering => exact .inr ⟨rfl, entering⟩

theorem wp_finalizeDistributedWrite (decode : DecodeReplies Message) (commit : CommitReplies)
    (results : List DistributedWriteTaskResult) (insert : PhysicalPaimonInsert) :
    (finalizeDistributedWrite rt vane decode commit results).wp insert
      (FinalizeCall rt vane decode commit results insert) := by
  unfold finalizeDistributedWrite enterFinalize
  simp only [Proc.wp_bind, Proc.wp_get, Proc.wp_ofExcept]
  cases hshape : validateCoordinatorShape rt insert with
  | error e =>
    refine .refused e fun h => ?_
    cases hshape.symm.trans h.shape
  | ok u =>
    show Proc.wp _ _ _
    rw [Proc.wp_throwIf]
    split
    · rename_i hstarted
      exact .refused _ fun h => absurd (hstarted.symm.trans h.open_) Bool.noConfusion
    · rename_i hopen
      rw [Bool.not_eq_true] at hopen
      have hentering : Entering rt insert := ⟨hshape, hopen⟩
      show Proc.wp _ _ _
      rw [Proc.wp_modify]
      show Proc.wp _ _ _
      rw [Proc.wp_throwIf]
      split
      · rename_i hunprepared
        exact .unready _ hentering (.inl hunprepared)
      · rename_i hprepared
        rw [Bool.not_eq_false] at hprepared
        obtain ⟨transport, htransport⟩ := exists_transport hshape
        rw [htransport]
        unfold buildRuntimeOptions
        cases hoptions : decode.paimonOptions with
        | error e => exact .unready e hentering (.inr ⟨e, hoptions⟩)
        | ok options =>
          show Proc.wp _ _ _
          rcases hdecodes : decodeWith rt vane decode transport results with ⟨outcome, decoded⟩
          have hdecoding : Decoding rt vane decode results insert transport outcome decoded :=
            ⟨htransport, ⟨options, hoptions⟩, hdecodes⟩
          refine Proc.wp_mono (wp_decodeOrAbort decode transport results insert.finalizing hdecodes) ?_
          rintro r insert' events ⟨rfl, ⟨rfl, rfl, rfl⟩ | ⟨e, rfl, rfl, haborts⟩⟩
          · refine (Proc.wp_pure _ _ _).2 ?_
            refine Proc.wp_mono (wp_commitSection commit transport decoded insert.finalizing) ?_
            rintro r insert'' events ⟨rfl, hends⟩
            exact .decoded transport decoded hentering hprepared hdecoding (by simpa using hends)
          · exact .undecoded e transport decoded hentering hprepared hdecoding (by simpa using haborts)

variable (rt vane) in
/-- What `AbortDistributedWrite` does. -/
inductive AbortCall (replies : DecodeReplies Message) (results : List DistributedWriteTaskResult)
    (insert : PhysicalPaimonInsert) : Except Exception Unit → List (Event Message) → Prop
  | refused (e : Exception) (not : ¬Entering rt insert) : AbortCall replies results insert (.error e) []
  | nothing (entering : Entering rt insert) (empty : results = []) : AbortCall replies results insert (.ok ()) []
  | unready (e : Exception) (entering : Entering rt insert) (nonempty : results ≠ [])
      (not : ∃ failure, replies.paimonOptions = .error failure) : AbortCall replies results insert (.error e) []
  | aborts (transport : InsertTransport) (outcome : Except Exception Unit) (decoded : DecodedCommit Message)
      {events : List (Event Message)} (entering : Entering rt insert) (nonempty : results ≠ [])
      (decoding : Decoding rt vane replies results insert transport outcome decoded)
      (aborts : Aborts decoded.messages events) : AbortCall replies results insert outcome events

theorem AbortCall.not_commit {replies : DecodeReplies Message} {results : List DistributedWriteTaskResult}
    {insert : PhysicalPaimonInsert} {r : Except Exception Unit} {events : List (Event Message)}
    (h : AbortCall rt vane replies results insert r events) : ∀ event ∈ events, ¬event.IsCommit := by
  cases h with
  | refused | nothing | unready => exact nofun
  | aborts _ _ _ _ _ _ aborts => exact aborts.not_commit

/-- An abort before any finalization hands over what it decodes. -/
theorem AbortCall.hands {replies : DecodeReplies Message} {results : List DistributedWriteTaskResult}
    {insert : PhysicalPaimonInsert} {r : Except Exception Unit} {events : List (Event Message)}
    (h : AbortCall rt vane replies results insert r events) (entering : Entering rt insert) (nonempty : results ≠ [])
    {transport : InsertTransport} {outcome : Except Exception Unit} {decoded : DecodedCommit Message}
    (decoding : Decoding rt vane replies results insert transport outcome decoded) :
    Aborts decoded.messages events := by
  cases h with
  | refused _ not => exact absurd entering not
  | nothing _ empty => exact absurd empty nonempty
  | unready _ _ _ not =>
    obtain ⟨failure, hfailure⟩ := not
    obtain ⟨options, hoptions⟩ := decoding.options
    cases hoptions.symm.trans hfailure
  | aborts _ _ _ _ _ decoding' aborts =>
    obtain ⟨-, -, rfl⟩ := decoding.unique decoding'
    exact aborts

theorem wp_abortDistributedWrite (replies : DecodeReplies Message) (results : List DistributedWriteTaskResult)
    (insert : PhysicalPaimonInsert) :
    (abortDistributedWrite rt vane replies results).wp insert fun r insert' events =>
      insert' = insert ∧ AbortCall rt vane replies results insert r events := by
  unfold abortDistributedWrite
  simp only [Proc.wp_bind, Proc.wp_get, Proc.wp_ofExcept]
  cases hshape : validateCoordinatorShape rt insert with
  | error e =>
    refine ⟨trivial, .refused e fun h => ?_⟩
    cases hshape.symm.trans h.shape
  | ok u =>
    show Proc.wp _ _ _
    rw [Proc.wp_throwIf]
    split
    · rename_i hstarted
      exact ⟨rfl, .refused _ fun h => absurd (hstarted.symm.trans h.open_) Bool.noConfusion⟩
    · rename_i hopen
      rw [Bool.not_eq_true] at hopen
      have hentering : Entering rt insert := ⟨hshape, hopen⟩
      show Proc.wp _ _ _
      rw [Proc.wp_ite]
      split
      · rename_i hempty
        exact (Proc.wp_pure _ _ _).2 ⟨rfl, .nothing hentering (List.isEmpty_iff.1 hempty)⟩
      · rename_i hnonempty
        rw [List.isEmpty_iff] at hnonempty
        obtain ⟨transport, htransport⟩ := exists_transport hshape
        rw [htransport]
        unfold buildRuntimeOptions
        simp only [Proc.wp_bind, Proc.wp_ofExcept]
        cases hoptions : replies.paimonOptions with
        | error e => exact ⟨trivial, .unready e hentering hnonempty ⟨e, hoptions⟩⟩
        | ok options =>
          rcases hdecodes : decodeWith rt vane replies transport results with ⟨outcome, decoded⟩
          have hdecoding : Decoding rt vane replies results insert transport outcome decoded :=
            ⟨htransport, ⟨options, hoptions⟩, hdecodes⟩
          refine Proc.wp_mono (wp_decodeOrAbort replies transport results insert hdecodes) ?_
          rintro r insert' events ⟨rfl, ⟨rfl, rfl, rfl⟩ | ⟨e, rfl, rfl, haborts⟩⟩
          · refine Proc.wp_mono (wp_bestEffortAbortMessages _ _ _ insert') ?_
            rintro r insert'' aborting ⟨rfl, rfl, haborts⟩
            exact ⟨rfl, .aborts transport (.ok ()) decoded hentering hnonempty hdecoding (by simpa using haborts)⟩
          · exact ⟨rfl, .aborts transport (.error e) decoded hentering hnonempty hdecoding (by simpa using haborts)⟩

/-! ## Planning, validating and preparing -/

/-- How far an operator is: its preparation has started, its target is prepared, its finalization
has started. -/
def PhysicalPaimonInsert.progress (insert : PhysicalPaimonInsert) : Bool × Bool × Bool :=
  (insert.distributedPrepareStarted, insert.distributedTargetPrepared, insert.distributedFinalizeStarted)

/-- A procedure that neither aborts nor commits and leaves the progress as it is. -/
abbrev Idle {α : Type} (m : Coordinator Message α) : Prop := Proc.Keeps PhysicalPaimonInsert.progress Event.Quiet m

section Keeps

variable {τ : Type} {f : PhysicalPaimonInsert → τ} {P : Event Message → Prop}

theorem keeps_setDistributedWriteContext (h : ∀ insert, f { insert with distributedContext := true } = f insert) :
    Proc.Keeps f P (setDistributedWriteContext : Coordinator Message Unit) := by
  unfold setDistributedWriteContext
  exact Proc.keeps_get.bind fun _ => (Proc.keeps_throwIf _ _).bind fun _ => Proc.keeps_modify h

theorem keeps_writePlan : Proc.Keeps f P (writePlan rt : Coordinator Message ExtensionWritePlan) :=
  Proc.keeps_get.bind fun _ => (Proc.keeps_ofExcept _).bind fun _ => Proc.keeps_pure _

theorem keeps_validateTargetBaseline (looks : Looks P) (replies : CatalogReplies) :
    Proc.Keeps f P (validateTargetBaseline replies : Coordinator Message Unit) := by
  unfold validateTargetBaseline
  refine Proc.keeps_get.bind fun _ => (Proc.keeps_ofExcept _).bind fun _ => ?_
  exact (Proc.keeps_call looks.loadTarget).bind fun _ => (Proc.keeps_ofExcept _).bind fun _ => Proc.keeps_ofExcept _

theorem keeps_validateDistributedWrite (looks : Looks P) (replies : CatalogReplies) :
    Proc.Keeps f P (validateDistributedWrite rt replies : Coordinator Message Unit) := by
  unfold validateDistributedWrite
  refine Proc.keeps_get.bind fun insert => (Proc.keeps_ofExcept _).bind fun _ => ?_
  split
  · exact (Proc.keeps_ofExcept _).bind fun _ => Proc.keeps_ofExcept _
  · exact keeps_withMutationLock looks (keeps_validateTargetBaseline looks replies)

theorem keeps_enterPrepare (h : ∀ insert, f { insert with distributedPrepareStarted := true } = f insert) :
    Proc.Keeps f Event.Quiet (enterPrepare rt : Coordinator Message PhysicalPaimonInsert) := by
  unfold enterPrepare
  refine Proc.keeps_get.bind fun _ => (Proc.keeps_ofExcept _).bind fun _ => (Proc.keeps_throwIf _ _).bind fun _ => ?_
  exact (Proc.keeps_modify h).bind fun _ => Proc.keeps_pure _

theorem keeps_markPrepared (h : ∀ insert, f { insert with distributedTargetPrepared := true } = f insert) :
    Proc.Keeps f Event.Quiet (markPrepared : Coordinator Message Unit) := Proc.keeps_modify h

theorem keeps_prepareInsert (h : ∀ insert, f { insert with distributedTargetPrepared := true } = f insert)
    (replies : CatalogReplies) : Proc.Keeps f Event.Quiet (prepareInsert replies : Coordinator Message Unit) :=
  keeps_withMutationLock quiet_looks ((keeps_validateTargetBaseline quiet_looks replies).bind fun _ =>
    keeps_markPrepared h)

theorem keeps_checkAbsent (tableExists : Result Bool) :
    Proc.Keeps f Event.Quiet (checkAbsent tableExists : Coordinator Message Unit) :=
  keeps_withMutationLock quiet_looks
    (Proc.keeps_get.bind fun _ => (Proc.keeps_ofExcept _).bind fun _ => Proc.keeps_ofExcept _)

theorem keeps_createTarget (createTable : Except Exception Unit) :
    Proc.Keeps f Event.Quiet (createTarget createTable : Coordinator Message Unit) :=
  keeps_withMutationLock quiet_looks ((Proc.keeps_call trivial).bind fun _ => Proc.keeps_ofExcept _)

theorem keeps_capturePreparedCTASTarget
    (h : ∀ insert json, f { insert with distributedTableSchemaJson := json } = f insert) (replies : CatalogReplies) :
    Proc.Keeps f Event.Quiet (capturePreparedCTASTarget replies : Coordinator Message Unit) := by
  unfold capturePreparedCTASTarget
  refine Proc.keeps_get.bind fun _ => (Proc.keeps_ofExcept _).bind fun _ => (Proc.keeps_call trivial).bind fun _ => ?_
  exact (Proc.keeps_ofExcept _).bind fun _ => (Proc.keeps_throwIf _ _).bind fun _ => Proc.keeps_modify fun _ => h _ _

end Keeps

/-- What the planner gave an operator. -/
def PhysicalPaimonInsert.given (insert : PhysicalPaimonInsert) :
    Option AccessMode × Option CreateTableInfo × Identifier × StringMap × List String × List (List LogicalType) :=
  (insert.schema, insert.info, insert.tableIdentifier, insert.paimonOptions, insert.partKeys, insert.children)

/-- What planning leaves as it is until it publishes its plan. -/
def PhysicalPaimonInsert.aside (insert : PhysicalPaimonInsert) :=
  (insert.given, insert.progress, insert.distributedTargetInitialized, insert.distributedWorkerPlanSelected)

theorem keeps_planCTAS {P : Event Message → Prop} (inputTypes : List LogicalType) (createInfo : CreateTableInfo)
    (tableLocation : Result String) :
    Proc.Keeps PhysicalPaimonInsert.aside P
      (planCTAS rt inputTypes createInfo tableLocation : Coordinator Message Unit) := by
  unfold planCTAS
  refine (Proc.keeps_modify fun _ => by rfl).bind fun _ => (Proc.keeps_throwIf _ _).bind fun _ => ?_
  refine (Proc.keeps_ofExcept _).bind fun _ => (Proc.keeps_modify fun _ => by rfl).bind fun _ => ?_
  refine (Proc.keeps_ofExcept _).bind fun _ => (Proc.keeps_modify fun _ => by rfl).bind fun _ => ?_
  refine Proc.keeps_get.bind fun _ => (Proc.keeps_ofExcept _).bind fun _ => ?_
  refine (Proc.keeps_modify fun _ => by rfl).bind fun _ => ?_
  cases tableLocation with
  | error status => exact Proc.keeps_throw _
  | ok tablePath => exact Proc.keeps_modify fun _ => by rfl

theorem keeps_planInsert {P : Event Message → Prop} (looks : Looks P) (inputTypes : List LogicalType)
    (replies : CatalogReplies) :
    Proc.Keeps PhysicalPaimonInsert.aside P (planInsert rt inputTypes replies : Coordinator Message Unit) := by
  refine keeps_withMutationLock looks (Proc.keeps_get.bind fun _ => (Proc.keeps_call looks.loadTarget).bind fun _ => ?_)
  refine (Proc.keeps_ofExcept _).bind fun _ => (Proc.keeps_throwIf _ _).bind fun _ => ?_
  exact (Proc.keeps_throwIf _ _).bind fun _ => Proc.keeps_modify fun _ => by rfl

/-- A plan is published with the bind of the recorded target. -/
def Published (rt : Runtime) (insert : PhysicalPaimonInsert) : Prop :=
  serializeTransport rt insert.transport = .ok insert.distributedWritePlan.workerBindData

variable (rt) in
/-- What planning does to an operator: it initializes the target, with a published plan, if it returns. -/
structure Publishes (insert : PhysicalPaimonInsert) (r : Except Exception Unit) (insert' : PhysicalPaimonInsert)
    (events : List (Event Message)) : Prop where
  quiet : ∀ event ∈ events, event.Quiet
  given : insert'.given = insert.given
  progress : insert'.progress = insert.progress
  selected : insert'.distributedWorkerPlanSelected = insert.distributedWorkerPlanSelected
  initialized : insert'.distributedTargetInitialized = true ↔ insert.distributedTargetInitialized = true ∨ r = .ok ()
  published : r = .ok () → Published rt insert'

/-- What throws before it changes the operator publishes nothing. -/
theorem Publishes.refused (insert : PhysicalPaimonInsert) (e : Exception) :
    Publishes rt insert (.error e) insert ([] : List (Event Message)) := by
  refine ⟨by rintro _ ⟨⟩, rfl, rfl, rfl, by simp, ?_⟩
  rintro ⟨⟩

theorem wp_publishPlan (insert : PhysicalPaimonInsert) :
    (publishPlan rt : Coordinator Message Unit).wp insert (Publishes rt insert) := by
  unfold publishPlan
  rw [Proc.wp_bind, Proc.wp_get]
  show Proc.wp _ _ _
  rw [Proc.wp_bind, Proc.wp_ofExcept]
  cases writeOperatorName insert.expectedKind with
  | error e => exact .refused insert e
  | ok operatorName =>
    show Proc.wp _ _ _
    rw [Proc.wp_bind, Proc.wp_modify]
    show Proc.wp _ _ _
    rw [Proc.wp_bind, Proc.wp_ofExcept]
    split
    · rename_i hserialize
      rw [Proc.wp_modify]
      exact ⟨nofun, rfl, rfl, rfl, by simp, fun _ => hserialize⟩
    · exact ⟨nofun, rfl, rfl, rfl, by simp, nofun⟩

theorem wp_initializeDistributedWrite (inputTypes : List LogicalType) (replies : PlanReplies)
    (insert : PhysicalPaimonInsert) :
    (initializeDistributedWrite rt inputTypes replies : Coordinator Message Unit).wp insert (Publishes rt insert) := by
  have hafter {m : Coordinator Message Unit} (hm : Proc.Keeps PhysicalPaimonInsert.aside Event.Quiet m)
      (before : PhysicalPaimonInsert) (haside : before.aside = insert.aside) :
      (m >>= fun _ => publishPlan rt).wp before (Publishes rt insert) := by
    rw [Proc.wp_bind]
    refine Proc.wp_mono (hm before) ?_
    rintro r middle events ⟨hmiddle, hquiet⟩
    have hkept := hmiddle.trans haside
    simp only [PhysicalPaimonInsert.aside, Prod.mk.injEq] at hkept
    obtain ⟨hgiven, hprogress, hinitialized, hselected⟩ := hkept
    cases r with
    | error e => exact ⟨hquiet, hgiven, hprogress, hselected, by simp [hinitialized], by rintro ⟨⟩⟩
    | ok u =>
      refine Proc.wp_mono (wp_publishPlan middle) ?_
      rintro r insert' events' ⟨hquiet', hgiven', hprogress', hselected', hinitialized', hpublished⟩
      refine ⟨fun event hevent => ?_, hgiven'.trans hgiven, hprogress'.trans hprogress, hselected'.trans hselected, ?_,
        hpublished⟩
      · exact (List.mem_append.1 hevent).elim (hquiet event) (hquiet' event)
      · rw [hinitialized', hinitialized]
  unfold initializeDistributedWrite
  rw [Proc.wp_bind, Proc.wp_get]
  show Proc.wp _ _ _
  rw [Proc.wp_bind, Proc.wp_throwIf]
  split
  · exact .refused insert _
  show Proc.wp _ _ _
  rw [Proc.wp_bind, Proc.wp_throwIf]
  split
  · exact .refused insert _
  show Proc.wp _ _ _
  rw [Proc.wp_bind, Proc.wp_modify]
  show Proc.wp _ _ _
  split
  · exact hafter (keeps_planCTAS _ _ _) _ rfl
  · exact hafter (keeps_planInsert quiet_looks _ _) _ rfl

variable (rt) in
/-- What `GetExtensionWriteTaskProvider` does to an operator: nothing if a plan is selected, else it selects one
if it returns, for the target that is initialized or that it initializes. -/
structure SelectsPlan (insert : PhysicalPaimonInsert) (r : Except Exception Unit) (insert' : PhysicalPaimonInsert)
    (events : List (Event Message)) : Prop where
  quiet : ∀ event ∈ events, event.Quiet
  given : insert'.given = insert.given
  progress : insert'.progress = insert.progress
  unchanged : insert.distributedWorkerPlanSelected = true → insert' = insert
  selected : insert'.distributedWorkerPlanSelected = true ↔ insert.distributedWorkerPlanSelected = true ∨ r = .ok ()
  initialized : insert.distributedWorkerPlanSelected = false → insert.distributedTargetInitialized = false →
    (insert'.distributedTargetInitialized = true ↔ r = .ok ()) ∧ (r = .ok () → Published rt insert')

theorem wp_getExtensionWriteTaskProvider (replies : PlanReplies) (insert : PhysicalPaimonInsert) :
    (getExtensionWriteTaskProvider rt replies : Coordinator Message Unit).wp insert (SelectsPlan rt insert) := by
  have hrefused (e : Exception) (hselected : insert.distributedWorkerPlanSelected = false) :
      SelectsPlan rt insert (.error e) insert ([] : List (Event Message)) := by
    refine ⟨by rintro _ ⟨⟩, rfl, rfl, fun _ => rfl, by simp, fun _ hopen => ?_⟩
    simp [hopen]
  unfold getExtensionWriteTaskProvider selectWorkerPlan
  rw [Proc.wp_bind, Proc.wp_get]
  show Proc.wp _ _ _
  rw [Proc.wp_ite]
  split
  · rename_i hselected
    rw [Proc.wp_pure]
    exact ⟨by rintro _ ⟨⟩, rfl, rfl, fun _ => rfl, by simp [hselected], by simp [hselected]⟩
  rename_i hselected
  rw [Bool.not_eq_true] at hselected
  rw [Proc.wp_bind, Proc.wp_get]
  show Proc.wp _ _ _
  split
  · rw [Proc.wp_bind, Proc.wp_throwIf]
    split
    · exact hrefused _ hselected
    show Proc.wp _ _ _
    dsimp only
    split
    · rename_i hinitialized
      rw [Proc.wp_modify]
      exact ⟨by rintro _ ⟨⟩, rfl, rfl, by simp [hselected], by simp, by simp [hinitialized]⟩
    · rw [Proc.wp_bind]
      refine Proc.wp_mono (wp_initializeDistributedWrite _ replies insert) ?_
      rintro r insert' events ⟨hquiet, hgiven, hprogress, hsame, hinitialized, hpublished⟩
      cases r with
      | error e =>
        refine ⟨hquiet, hgiven, hprogress, by simp [hselected], by simp [hsame], fun _ hopen => ?_⟩
        rw [hinitialized, hopen]
        simp
      | ok u =>
        show Proc.wp _ _ _
        rw [Proc.wp_modify]
        refine ⟨?_, hgiven, hprogress, by simp [hselected], by simp, fun _ hopen => ?_⟩
        · rw [List.append_nil]
          exact hquiet
        · exact ⟨by simp [hinitialized], fun _ => hpublished rfl⟩
  · rw [Proc.wp_throw]
    exact hrefused _ hselected

/-- A procedure that neither aborts nor commits and marks the target as prepared if it returns. -/
def Marks (m : Coordinator Message Unit) : Prop :=
  ∀ insert, m.wp insert fun r insert' events => (∀ event ∈ events, event.Quiet) ∧
    insert'.distributedPrepareStarted = insert.distributedPrepareStarted ∧
    (insert'.distributedTargetPrepared = true ↔ insert.distributedTargetPrepared = true ∨ r = .ok ()) ∧
    insert'.distributedFinalizeStarted = insert.distributedFinalizeStarted

theorem marks_markPrepared : Marks (markPrepared : Coordinator Message Unit) := by
  intro insert
  unfold markPrepared
  rw [Proc.wp_modify]
  exact ⟨nofun, rfl, ⟨fun _ => .inr rfl, fun _ => rfl⟩, rfl⟩

theorem Marks.after {α : Type} {m : Coordinator Message α} {k : α → Coordinator Message Unit} (hm : Idle m)
    (hk : ∀ a, Marks (k a)) : Marks (m >>= k) := by
  intro insert
  rw [Proc.wp_bind]
  refine Proc.wp_mono (hm insert) ?_
  rintro (e | a) insert' events ⟨hprogress, hquiet⟩
  · obtain ⟨hprepare, hprepared, hfinalize⟩ := Prod.mk.inj hprogress |>.imp_right Prod.mk.inj
    exact ⟨hquiet, hprepare, by rw [hprepared]; simp, hfinalize⟩
  · obtain ⟨hprepare, hprepared, hfinalize⟩ := Prod.mk.inj hprogress |>.imp_right Prod.mk.inj
    refine Proc.wp_mono (hk a insert') ?_
    rintro r insert'' events' ⟨hquiet', hprepare', hprepared', hfinalize'⟩
    refine ⟨fun event hevent => ?_, hprepare'.trans hprepare, by rw [hprepared', hprepared], hfinalize'.trans hfinalize⟩
    exact (List.mem_append.1 hevent).elim (hquiet event) (hquiet' event)

theorem Marks.withMutationLock {m : Coordinator Message Unit} (h : Marks m) : Marks (withMutationLock m) := by
  intro insert
  rw [wp_withMutationLock]
  refine Proc.wp_mono (h insert) ?_
  rintro r insert' events ⟨hquiet, hrest⟩
  refine ⟨fun event hevent => ?_, hrest⟩
  simp only [List.cons_append, List.mem_cons, List.mem_append, List.not_mem_nil, or_false] at hevent
  rcases hevent with rfl | hevent | rfl
  · trivial
  · exact hquiet event hevent
  · trivial

theorem marks_prepareInsert (replies : CatalogReplies) : Marks (prepareInsert replies : Coordinator Message Unit) :=
  (Marks.after (keeps_validateTargetBaseline quiet_looks replies) fun _ => marks_markPrepared).withMutationLock

theorem marks_captureTarget (replies : CatalogReplies) : Marks (captureTarget replies : Coordinator Message Unit) :=
  .after (keeps_withMutationLock quiet_looks (keeps_capturePreparedCTASTarget (fun _ _ => by rfl) replies)) fun _ =>
    marks_markPrepared

variable (rt) in
/-- What `PrepareDistributedWrite` does. -/
inductive PrepareCall (insert : PhysicalPaimonInsert) :
    Except Exception Unit → PhysicalPaimonInsert → List (Event Message) → Prop
  | refused (e : Exception)
      (not : validateCoordinatorShape rt insert = .ok () → insert.distributedPrepareStarted = true) :
      PrepareCall insert (.error e) insert []
  | started {r : Except Exception Unit} {insert' : PhysicalPaimonInsert} {events : List (Event Message)}
      (shape : validateCoordinatorShape rt insert = .ok ()) (first : insert.distributedPrepareStarted = false)
      (quiet : ∀ event ∈ events, event.Quiet) (prepare : insert'.distributedPrepareStarted = true)
      (prepared : insert'.distributedTargetPrepared = true ↔ insert.distributedTargetPrepared = true ∨ r = .ok ())
      (finalize : insert'.distributedFinalizeStarted = insert.distributedFinalizeStarted) :
      PrepareCall insert r insert' events

theorem PrepareCall.quiet {insert insert' : PhysicalPaimonInsert} {r : Except Exception Unit}
    {events : List (Event Message)} (h : PrepareCall rt insert r insert' events) : ∀ event ∈ events, event.Quiet := by
  cases h with
  | refused => exact nofun
  | started _ _ quiet => exact quiet

theorem wp_enterPrepare (insert : PhysicalPaimonInsert) :
    (enterPrepare rt : Coordinator Message PhysicalPaimonInsert).wp insert fun r insert' events => events = [] ∧
      ((∃ e, r = .error e ∧ insert' = insert ∧
          (validateCoordinatorShape rt insert = .ok () → insert.distributedPrepareStarted = true)) ∨
        (r = .ok insert ∧ insert' = { insert with distributedPrepareStarted := true } ∧
          validateCoordinatorShape rt insert = .ok () ∧ insert.distributedPrepareStarted = false)) := by
  unfold enterPrepare
  rw [Proc.wp_bind, Proc.wp_get]
  show Proc.wp _ _ _
  rw [Proc.wp_bind, Proc.wp_ofExcept]
  cases validateCoordinatorShape rt insert with
  | error e => exact ⟨rfl, .inl ⟨e, rfl, rfl, nofun⟩⟩
  | ok u =>
    show Proc.wp _ _ _
    rw [Proc.wp_bind, Proc.wp_throwIf]
    split
    · rename_i hstarted
      exact ⟨rfl, .inl ⟨_, rfl, rfl, fun _ => hstarted⟩⟩
    · rename_i hfirst
      rw [Bool.not_eq_true] at hfirst
      show Proc.wp _ _ _
      rw [Proc.wp_bind, Proc.wp_modify]
      exact (Proc.wp_pure _ _ _).2 ⟨rfl, .inr ⟨rfl, rfl, rfl, hfirst⟩⟩

theorem wp_prepareDistributedWrite (replies : PrepareReplies) (insert : PhysicalPaimonInsert) :
    (prepareDistributedWrite rt replies : Coordinator Message Unit).wp insert (PrepareCall rt insert) := by
  have hbody : Marks (if insert.info.isSome then do
        Proc.ofExcept (validateCTASDefinition insert)
        checkAbsent replies.tableExists
        createTarget replies.createTable
        captureTarget replies.created
      else prepareInsert replies.baseline : Coordinator Message Unit) := by
    split
    · exact .after (Proc.keeps_ofExcept _) fun _ => .after (keeps_checkAbsent _) fun _ =>
        .after (keeps_createTarget _) fun _ => marks_captureTarget _
    · exact marks_prepareInsert _
  unfold prepareDistributedWrite
  rw [Proc.wp_bind]
  refine Proc.wp_mono (wp_enterPrepare insert) ?_
  rintro r insert' events ⟨rfl, ⟨e, rfl, rfl, hnot⟩ | ⟨rfl, rfl, hshape, hfirst⟩⟩
  · exact .refused e hnot
  · refine Proc.wp_mono (hbody _) ?_
    rintro r insert' events ⟨hquiet, hprepare, hprepared, hfinalize⟩
    exact .started hshape hfirst hquiet hprepare hprepared hfinalize

/-- The first preparation of an INSERT returns while its target is the recorded one. -/
theorem wp_prepareDistributedWrite_insert (replies : PrepareReplies) {insert : PhysicalPaimonInsert}
    (hinfo : insert.info = none) (hshape : validateCoordinatorShape rt insert = .ok ())
    (hfirst : insert.distributedPrepareStarted = false) (hat : AtBaseline insert replies.baseline) :
    (prepareDistributedWrite rt replies : Coordinator Message Unit).wp insert fun r insert' _ => r = .ok () ∧
      insert' = { insert with distributedPrepareStarted := true, distributedTargetPrepared := true } := by
  unfold prepareDistributedWrite
  rw [Proc.wp_bind]
  refine Proc.wp_mono (wp_enterPrepare insert) ?_
  rintro r insert' events ⟨rfl, ⟨e, rfl, rfl, hnot⟩ | ⟨rfl, rfl, -, -⟩⟩
  · exact absurd ((hnot hshape).symm.trans hfirst) Bool.noConfusion
  · show Proc.wp _ _ _
    rw [Proc.wp_ite, if_neg (by simp [hinfo])]
    unfold prepareInsert
    rw [wp_withMutationLock, Proc.wp_bind]
    refine Proc.wp_mono (wp_validateTargetBaseline replies.baseline { insert with distributedPrepareStarted := true }) ?_
    rintro r insert' events ⟨rfl, -, hbaseline, -⟩
    rw [hbaseline.2 hat]
    unfold markPrepared
    rw [Proc.wp_modify]
    exact ⟨rfl, rfl⟩

end Calls

end DuckPaimon.Write
