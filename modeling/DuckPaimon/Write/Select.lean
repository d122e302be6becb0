/-
Which lists of task results the coordinator accepts, and what it has collected when it refuses one:
an accepted list holds one attempt per logical task of one query, each made for this operation, and
gives every message once and the exact number of rows.
-/
import DuckPaimon.BinaryFormat
import DuckPaimon.Write.Accept
import Mathlib.Data.List.Perm.Basic

namespace DuckPaimon.Write

open Outcome

section Results

variable {Message : Type} {op : Operation Message}

/-! ## The list of results -/

/-- A message is collected from results that come after `takens`: every result before the one it
comes from is accepted. -/
inductive Collected (op : Operation Message) :
    List (Taken Message) → List DistributedWriteTaskResult → Message → Prop
  | here {takens result results message} (salvaged : Salvaged op takens result message) :
      Collected op takens (result :: results) message
  | later {takens taken result results message} (of : taken.result = result)
      (accepted : Accepted op (takens ++ [taken])) (collected : Collected op (takens ++ [taken]) results message) :
      Collected op takens (result :: results) message

theorem forall₂_canonical_unique {messages : List (Option Message)} {entries entries' : List (Message × String)}
    (h : List.Forall₂ (Canonical op.codec) messages entries)
    (h' : List.Forall₂ (Canonical op.codec) messages entries') : entries = entries' := by
  induction h generalizing entries' with
  | nil => cases h'; rfl
  | @cons message entry messages entries hd _ ih =>
    cases h' with
    | @cons _ entry' _ entries' hd' htl' =>
      have hmessage : entry.1 = entry'.1 := Option.some.inj (hd.1.symm.trans hd'.1)
      have hcanonical : entry.2 = entry'.2 := by
        have := hd.2
        rw [hmessage, hd'.2] at this
        exact (Except.ok.inj this).symm
      rw [ih htl', Prod.ext hmessage hcanonical]

/-- What is taken from a result that passes is determined by it. -/
theorem Passes.unique {taken taken' : Taken Message} (h : Passes op taken) (h' : Passes op taken')
    (hresult : taken.result = taken'.result) : taken = taken' := by
  obtain ⟨result, logicalTaskId, entries, rowCount⟩ := taken
  obtain ⟨result', logicalTaskId', entries', rowCount'⟩ := taken'
  cases hresult
  cases h.enters.task.symm.trans h'.enters.task
  cases h.holds with
  | none fragments _ _ hentries hrows =>
    cases h'.holds with
    | none _ _ _ hentries' hrows' =>
      dsimp only at hentries hrows hentries' hrows'
      rw [hentries, hrows, hentries', hrows']
    | some _ _ _ fragments' => exact absurd (fragments.symm.trans fragments') (List.cons_ne_nil _ _).symm
  | some fragment envelope messages fragments opens hentries hrows =>
    obtain ⟨envelope', messages', opens', hentries', hrows'⟩ := h'.holds.of_opens fragments
    obtain ⟨rfl, rfl⟩ := opens.unique opens'
    dsimp only at hentries hrows hentries' hrows'
    rw [forall₂_canonical_unique hentries hentries', hrows, hrows']

/-- All messages of an accepted result are collected from it. -/
theorem salvaged_of_accepted {takens : List (Taken Message)} (accepted : Accepted op takens) {taken : Taken Message}
    (h : Accepted op (takens ++ [taken])) (m : Message) :
    Salvaged op takens taken.result m ↔ m ∈ taken.messages := by
  obtain ⟨hpasses, hquery, hattempt, -, -⟩ := (accepted_append accepted taken).1 h
  constructor
  · rintro ⟨_, fragment, envelope, messages, _, _, _, hfragments, opens, hm⟩
    rwa [(accepted.entries_eq opens hfragments rfl h).1] at hm
  · intro hm
    cases hpasses.holds with
    | none _ _ _ entries => rw [Taken.messages, entries] at hm; cases hm
    | some fragment envelope messages fragments opens =>
      refine ⟨_, fragment, envelope, messages, hpasses.enters, hquery, hattempt, fragments, opens, ?_⟩
      rwa [(accepted.entries_eq opens fragments rfl h).1]

/-- What the loop leaves after results that come after the accepted `takens`. -/
inductive LeavesAll (op : Operation Message) (takens : List (Taken Message))
    (results : List DistributedWriteTaskResult) (r : Except Exception Unit) (state : DecodeState Message) : Prop
  | accepts (more : List (Taken Message)) (ok : r = .ok ()) (of : more.map (·.result) = results)
      (accepted : Accepted op (takens ++ more)) (describes : Describes op.transport.operationId (takens ++ more) state)
  | refuses (e : Exception) (error : r = .error e)
      (not : ¬∃ more : List (Taken Message), more.map (·.result) = results ∧ Accepted op (takens ++ more))
      (messages : ∀ m, m ∈ state.decoded.messages ↔
        m ∈ takens.flatMap Taken.messages ∨ Collected op takens results m)

theorem Accepted.of_append {takens more : List (Taken Message)} (h : Accepted op (takens ++ more)) :
    Accepted op takens := by
  refine ⟨fun a ha => h.passes a (List.mem_append_left _ ha), fun a ha b hb => ?_, ?_, ?_, ?_⟩
  · exact h.compatible.query a (List.mem_append_left _ ha) b (List.mem_append_left _ hb)
  · have := h.compatible.attempts
    rw [List.map_append] at this
    exact (List.nodup_append.1 this).1
  · have := h.compatible.canonical
    rw [List.flatMap_append] at this
    exact (List.nodup_append.1 this).1
  · have := h.compatible.rows
    rw [List.map_append, List.sum_append] at this
    omega

theorem Accepted.last_unique {takens : List (Taken Message)} {taken taken' : Taken Message}
    (h : Accepted op (takens ++ [taken])) (h' : Accepted op (takens ++ [taken']))
    (hresult : taken.result = taken'.result) : taken = taken' :=
  (h.passes taken (List.mem_append_right _ (List.mem_singleton_self _))).unique
    (h'.passes taken' (List.mem_append_right _ (List.mem_singleton_self _))) hresult

theorem wp_decodeResults (results : List DistributedWriteTaskResult) {takens : List (Taken Message)}
    {state : DecodeState Message} (describes : Describes op.transport.operationId takens state)
    (accepted : Accepted op takens) :
    (decodeResults op.rt op.vane op.codec op.info op.transport op.serializedTransport results).wp state
      fun r state' _ => LeavesAll op takens results r state' := by
  induction results generalizing takens state with
  | nil =>
    rw [decodeResults, Proc.wp_pure]
    refine .accepts [] rfl rfl ?_ ?_ <;> rwa [List.append_nil]
  | cons result results ih =>
    rw [decodeResults, Proc.wp_bind]
    refine Proc.wp_mono (wp_decodeResult describes accepted result) ?_
    rintro r state' l (⟨taken, rfl, rfl, haccepted, hdescribes⟩ | ⟨e, rfl, hnot, hmessages⟩)
    · refine Proc.wp_mono (ih hdescribes haccepted) ?_
      rintro r state'' l' (⟨more, rfl, hmore, haccepted', hdescribes'⟩ | ⟨e, rfl, hnot, hmessages⟩)
      · rw [← List.append_cons] at haccepted' hdescribes'
        exact .accepts (taken :: more) rfl (by rw [List.map_cons, hmore]) haccepted' hdescribes'
      · refine .refuses e rfl ?_ fun m => ?_
        · rintro ⟨more, hmore, haccepted'⟩
          cases more with
          | nil => cases hmore
          | cons taken' more =>
            obtain ⟨hhead, htail⟩ := List.cons.inj hmore
            rw [List.append_cons] at haccepted'
            cases haccepted'.of_append.last_unique haccepted hhead
            exact hnot ⟨more, htail, haccepted'⟩
        · have hcons : Collected op takens (taken.result :: results) m ↔
              m ∈ taken.messages ∨ Collected op (takens ++ [taken]) results m := by
            constructor
            · rintro (hsalvaged | ⟨hresult, haccepted', hcollected⟩)
              · exact .inl ((salvaged_of_accepted accepted haccepted m).1 hsalvaged)
              · cases haccepted'.last_unique haccepted hresult
                exact .inr hcollected
            · rintro (hm | hcollected)
              · exact .here ((salvaged_of_accepted accepted haccepted m).2 hm)
              · exact .later rfl haccepted hcollected
          rw [hmessages, hcons, List.flatMap_append, List.mem_append, or_assoc]
          simp
    · refine .refuses e rfl ?_ fun m => ?_
      · rintro ⟨more, hmore, haccepted'⟩
        cases more with
        | nil => cases hmore
        | cons taken more =>
          rw [List.append_cons] at haccepted'
          exact hnot ⟨taken, (List.cons.inj hmore).1, haccepted'.of_append⟩
      · rw [hmessages]
        refine or_congr_right ⟨.here, ?_⟩
        rintro (hsalvaged | ⟨hresult, haccepted', -⟩)
        · exact hsalvaged
        · exact absurd ⟨_, hresult, haccepted'⟩ hnot

/-- From accepted results all messages are collected. -/
theorem collected_of_accepted {takens more : List (Taken Message)} (h : Accepted op (takens ++ more)) (m : Message) :
    Collected op takens (more.map (·.result)) m ↔ m ∈ more.flatMap Taken.messages := by
  induction more generalizing takens with
  | nil => exact ⟨nofun, nofun⟩
  | cons taken more ih =>
    rw [List.append_cons] at h
    have hhere := salvaged_of_accepted h.of_append.of_append h.of_append m
    rw [List.flatMap_cons, List.mem_append, ← ih h, ← hhere]
    constructor
    · rintro (hsalvaged | ⟨hresult, haccepted, hcollected⟩)
      · exact .inl hsalvaged
      · cases haccepted.last_unique h.of_append hresult
        exact .inr hcollected
    · rintro (hsalvaged | hcollected)
      · exact .here hsalvaged
      · exact .later rfl h.of_append hcollected

/-- What is taken from results that pass is determined by them. -/
theorem takens_unique : ∀ {a b : List (Taken Message)}, (∀ t ∈ a, Passes op t) → (∀ t ∈ b, Passes op t) →
    a.map (·.result) = b.map (·.result) → a = b
  | [], [], _, _, _ => rfl
  | x :: a, y :: b, ha, hb, h => by
    obtain ⟨hxy, htail⟩ := List.cons.inj h
    rw [List.forall_mem_cons] at ha hb
    rw [ha.1.unique hb.1 hxy, takens_unique ha.2 hb.2 htail]

end Results

/-! ## `DecodeCommitResults` -/

section Commit

variable {Message : Type} (rt : Runtime) (vane : Vane) (codec : MessageCodec Message)
  (info : DistributedExtensionWriteInfo) (transport : InsertTransport)

/-- The contract is that of the transport, and the transport serializes. -/
def Decodable (serialized : String) : Prop :=
  validateResolvedInfo info transport = .ok () ∧ serializeTransport rt transport = .ok serialized

/-- What decoding leaves. -/
inductive CommitDecodes (results : List DistributedWriteTaskResult) (r : Except Exception Unit)
    (state : DecodeState Message) : Prop
  | accepts (serialized : String) (takens : List (Taken Message)) (ok : r = .ok ())
      (decodable : Decodable rt info transport serialized) (of : takens.map (·.result) = results)
      (accepted : Accepted ⟨rt, vane, codec, info, transport, serialized⟩ takens)
      (tasks : (takens.map (·.logicalTaskId)).Nodup)
      (messages : state.decoded.messages = takens.flatMap Taken.messages)
      (rows : state.decoded.rowCount.toNat = (takens.map (·.rowCount.toNat)).sum)
  | refuses (e : Exception) (error : r = .error e)
      (not : ¬∃ serialized, ∃ takens : List (Taken Message), Decodable rt info transport serialized ∧
        takens.map (·.result) = results ∧ Accepted ⟨rt, vane, codec, info, transport, serialized⟩ takens ∧
          (takens.map (·.logicalTaskId)).Nodup)
      (messages : ∀ m, m ∈ state.decoded.messages ↔ ∃ serialized, Decodable rt info transport serialized ∧
        Collected ⟨rt, vane, codec, info, transport, serialized⟩ [] results m)

theorem wp_decodeCommitResults (results : List DistributedWriteTaskResult) :
    (decodeCommitResults rt vane codec info transport results).wp {} fun r state _ =>
      CommitDecodes rt vane codec info transport results r state := by
  unfold decodeCommitResults
  rw [Proc.wp_bind, Proc.wp_ofExcept]
  cases hcontract : validateResolvedInfo info transport with
  | error e =>
    have hnot (serialized : String) : ¬Decodable rt info transport serialized := fun h => by
      rw [Decodable, hcontract] at h
      cases h.1
    exact .refuses e rfl (fun ⟨_, _, h, _⟩ => hnot _ h) fun m => ⟨nofun, fun ⟨_, h, _⟩ => absurd h (hnot _)⟩
  | ok u =>
    show Proc.wp _ _ _
    rw [Proc.wp_bind, Proc.wp_ofExcept]
    cases hserialize : serializeTransport rt transport with
    | error e =>
      have hnot (serialized : String) : ¬Decodable rt info transport serialized := fun h => by
        rw [Decodable, hserialize] at h
        cases h.2
      exact .refuses e rfl (fun ⟨_, _, h, _⟩ => hnot _ h) fun m => ⟨nofun, fun ⟨_, h, _⟩ => absurd h (hnot _)⟩
    | ok serialized =>
      have hdecodable : Decodable rt info transport serialized := ⟨hcontract, hserialize⟩
      have hunique {serialized' : String} (h : Decodable rt info transport serialized') : serialized' = serialized :=
        Except.ok.inj (h.2.symm.trans hserialize)
      show Proc.wp _ _ _
      rw [Proc.wp_bind]
      refine Proc.wp_mono (@wp_decodeResults Message ⟨rt, vane, codec, info, transport, serialized⟩ results [] {}
        (describes_nil _) (accepted_nil _)) ?_
      rintro r state l (⟨takens, rfl, hof, haccepted, hdescribes⟩ | ⟨e, rfl, hnot, hmessages⟩)
      · show Proc.wp rejectDuplicateTask _ _
        unfold rejectDuplicateTask
        rw [Proc.wp_bind, Proc.wp_get]
        show Proc.wp _ _ _
        rw [Proc.wp_throwIf]
        split
        · rename_i hduplicate
          rw [ne_eq, hdescribes.duplicate] at hduplicate
          refine .refuses _ rfl ?_ fun m => ?_
          · rintro ⟨serialized', takens', hdecodable', hof', haccepted', hnodup⟩
            cases hunique hdecodable'
            cases takens_unique haccepted'.passes haccepted.passes (hof'.trans hof.symm)
            exact hduplicate hnodup
          · rw [hdescribes.messages, List.nil_append, ← collected_of_accepted haccepted, hof]
            constructor
            · intro hcollected; exact ⟨serialized, hdecodable, hcollected⟩
            · rintro ⟨serialized', hdecodable', hcollected⟩
              cases hunique hdecodable'
              exact hcollected
        · rename_i hnodup
          rw [not_not, hdescribes.duplicate] at hnodup
          exact .accepts serialized takens rfl hdecodable hof haccepted hnodup hdescribes.messages hdescribes.rows
      · refine .refuses e rfl ?_ fun m => ?_
        · rintro ⟨serialized', takens', hdecodable', hof', haccepted', -⟩
          cases hunique hdecodable'
          exact hnot ⟨takens', hof', haccepted'⟩
        · rw [hmessages]
          constructor
          · rintro (hm | hcollected)
            · cases hm
            · exact ⟨serialized, hdecodable, hcollected⟩
          · rintro ⟨serialized', hdecodable', hcollected⟩
            cases hunique hdecodable'
            exact .inr hcollected

/-! ## What an accepted list holds -/

/-- An envelope was made for the transport's operation, by the attempt that returned it. -/
structure MadeFor (result : DistributedWriteTaskResult) (envelope : CommitEnvelope) : Prop where
  operationId : envelope.operationId = transport.operationId
  tableUuid : envelope.tableUuid = transport.tableUuid
  tablePath : envelope.tablePath = transport.tablePath
  schemaFingerprint : envelope.schemaFingerprint = transport.schemaFingerprint
  schemaId : envelope.schemaId = transport.schemaId
  hasSnapshot : envelope.hasSnapshot = transport.hasSnapshot
  snapshotId : envelope.snapshotId = transport.snapshotId
  commitIdentifier : envelope.commitIdentifier = transport.commitIdentifier
  serializedTransport : serializeTransport rt transport = .ok envelope.serializedTransport
  queryId : envelope.queryId = result.queryId
  taskAttemptId : envelope.taskAttemptId = result.taskAttemptId
  writerCommitUser : envelope.writerCommitUser =
    workerCommitUser rt transport.operationId ⟨result.queryId, result.taskAttemptId⟩
  rowCount : envelope.rowCount = vane.rowCount result

/-- A result contributes its messages: it has no fragment and zero counts, or one fragment, made
for this operation by this attempt, that holds them. -/
def Contributes (result : DistributedWriteTaskResult) (messages : List Message) : Prop :=
  (result.fragments = [] ∧ vane.rowCount result = 0 ∧ vane.byteCount result = 0 ∧ messages = []) ∨
    ∃ fragment envelope, result.fragments = [fragment] ∧
      deserializeCommitEnvelope rt fragment.payload = .ok envelope ∧ MadeFor rt vane transport result envelope ∧
      codec.deserializeList envelope.commitMessageVersion envelope.serializedMessages = .ok (messages.map some)

variable {rt vane codec info transport}

theorem madeFor_of_not_mismatch {serialized : String} (hserialized : serializeTransport rt transport = .ok serialized)
    {result : DistributedWriteTaskResult} {fragment : DistributedWriteFragment} {envelope : CommitEnvelope}
    (h : ¬EnvelopeMismatch rt vane codec transport serialized result fragment envelope) :
    MadeFor rt vane transport result envelope := by
  unfold EnvelopeMismatch at h
  simp only [not_or, ne_eq, not_not] at h
  obtain ⟨h1, h2, h3, h4, h5, h6, h7, h8, h9, h10, h11, -, h13, -, h15⟩ := h
  exact ⟨h1, h2, h3, h4, h5, h6, h7, h8, h13 ▸ hserialized, h9, h10, h11, h15⟩

theorem deserializeMessages_ok {envelope : CommitEnvelope} {messages : List (Option Message)}
    (h : deserializeMessages codec envelope = .ok messages) :
    codec.deserializeList envelope.commitMessageVersion envelope.serializedMessages = .ok messages := by
  unfold deserializeMessages at h
  obtain ⟨-, h⟩ := throwIf_bind_eq_ok.1 h
  split at h
  · cases h
  · rename_i hlist
    obtain ⟨-, h⟩ := throwIf_bind_eq_ok.1 h
    rw [hlist, pure_eq_ok.1 h]

theorem map_some_of_canonical {messages : List (Option Message)} {entries : List (Message × String)}
    (h : List.Forall₂ (Canonical codec) messages entries) : messages = (entries.map Prod.fst).map some := by
  induction h with
  | nil => rfl
  | cons hd _ ih => rw [List.map_cons, List.map_cons, hd.1, ← ih]

theorem canonical_of_forall₂ {messages : List (Option Message)} {entries : List (Message × String)}
    (h : List.Forall₂ (Canonical codec) messages entries) :
    List.Forall₂ (fun message canonical => codec.serialize message = .ok canonical) (entries.map Prod.fst)
      (entries.map Prod.snd) := by
  induction h with
  | nil => exact .nil
  | cons hd _ ih => exact .cons hd.2 ih

theorem forall₂_flatMap {α β γ : Type} {R : β → γ → Prop} {f : α → List β} {g : α → List γ} :
    ∀ {l : List α}, (∀ a ∈ l, List.Forall₂ R (f a) (g a)) → List.Forall₂ R (l.flatMap f) (l.flatMap g)
  | [], _ => .nil
  | a :: l, h => by
    rw [List.forall_mem_cons] at h
    rw [List.flatMap_cons, List.flatMap_cons]
    exact List.rel_append h.1 (forall₂_flatMap h.2)

section Passes

variable {serialized : String} {taken : Taken Message}

theorem Passes.contributes (hserialized : serializeTransport rt transport = .ok serialized)
    (h : Passes ⟨rt, vane, codec, info, transport, serialized⟩ taken) :
    Contributes rt vane codec transport taken.result taken.messages := by
  cases h.holds with
  | none fragments rows bytes entries => exact .inl ⟨fragments, rows, bytes, by rw [Taken.messages, entries]; rfl⟩
  | some fragment envelope messages fragments opens entries rows =>
    refine .inr ⟨fragment, envelope, fragments, opens.payload, madeFor_of_not_mismatch hserialized opens.agrees, ?_⟩
    have hlist := deserializeMessages_ok opens.decoded
    rwa [map_some_of_canonical entries] at hlist

theorem Passes.canonical (h : Passes ⟨rt, vane, codec, info, transport, serialized⟩ taken) :
    List.Forall₂ (fun message canonical => codec.serialize message = .ok canonical) taken.messages
      taken.canonical := by
  cases h.holds with
  | none _ _ _ entries => rw [Taken.messages, Taken.canonical, entries]; exact .nil
  | some _ _ _ _ _ entries _ => exact canonical_of_forall₂ entries

theorem Passes.rows (hserialized : serializeTransport rt transport = .ok serialized)
    (h : Passes ⟨rt, vane, codec, info, transport, serialized⟩ taken) :
    taken.rowCount = vane.rowCount taken.result := by
  cases h.holds with
  | none _ rows _ _ hzero => rw [hzero]; exact rows.symm
  | some fragment envelope messages _ opens _ hrows =>
    rw [hrows]
    exact (madeFor_of_not_mismatch hserialized opens.agrees).rowCount

end Passes

/-- Accepted attempts of different logical tasks differ in their fragment execution or partition. -/
theorem distinct_tasks {a b : Taken Message} {serialized : String}
    (ha : Passes ⟨rt, vane, codec, info, transport, serialized⟩ a)
    (hb : Passes ⟨rt, vane, codec, info, transport, serialized⟩ b) (hquery : a.result.queryId = b.result.queryId)
    (hne : a.logicalTaskId ≠ b.logicalTaskId) {fragment partition attempt attempt' : List Char}
    (hfragment : '.' ∉ fragment) (hpartition : '.' ∉ partition)
    (hattempt : a.result.taskAttemptId = attemptId a.result.queryId fragment partition attempt) :
    b.result.taskAttemptId ≠ attemptId a.result.queryId fragment partition attempt' := by
  intro hattempt'
  have htask := ha.enters.task
  have htask' := hb.enters.task
  rw [hattempt] at htask
  rw [← hquery, hattempt'] at htask'
  exact hne ((vaneLogicalTaskIdentity_attemptId hfragment hpartition htask).trans
    (vaneLogicalTaskIdentity_attemptId hfragment hpartition htask').symm)

end Commit

/-- What an accepted list decodes to. -/
theorem decodeCommitResults_accepts {Message : Type} {rt : Runtime} {vane : Vane} {codec : MessageCodec Message}
    {info : DistributedExtensionWriteInfo} {transport : InsertTransport} {serialized : String}
    {takens : List (Taken Message)} (decodable : Decodable rt info transport serialized)
    (accepted : Accepted ⟨rt, vane, codec, info, transport, serialized⟩ takens)
    (tasks : (takens.map (·.logicalTaskId)).Nodup) :
    ∃ state calls, (decodeCommitResults rt vane codec info transport (takens.map (·.result))).run {} =
        (.ok (), state, calls) ∧ state.decoded.messages = takens.flatMap Taken.messages ∧
      state.decoded.rowCount.toNat = (takens.map (·.rowCount.toNat)).sum := by
  rcases hrun : (decodeCommitResults rt vane codec info transport (takens.map (·.result))).run {} with ⟨r, state, calls⟩
  obtain ⟨serialized', takens', rfl, decodable', of, accepted', -, messages, rows⟩ | ⟨e, rfl, not, -⟩ :=
    Proc.wp_run (wp_decodeCommitResults rt vane codec info transport _) hrun
  · cases decodable.2.symm.trans decodable'.2
    cases takens_unique accepted'.passes accepted.passes of
    exact ⟨state, calls, hrun, messages, rows⟩
  · exact absurd ⟨serialized, takens, decodable, rfl, accepted, tasks⟩ not

/-- An accepted list decodes to the sum of its results' row counts. -/
theorem rowCount_of_decoded {Message : Type} {rt : Runtime} {vane : Vane} {codec : MessageCodec Message}
    {info : DistributedExtensionWriteInfo} {transport : InsertTransport}
    {results : List DistributedWriteTaskResult} {state : DecodeState Message} {calls : List Empty}
    (h : (decodeCommitResults rt vane codec info transport results).run {} = (.ok (), state, calls)) :
    state.decoded.rowCount.toNat = (results.map fun result => (vane.rowCount result).toNat).sum := by
  obtain ⟨serialized, takens, -, ⟨-, hserialized⟩, rfl, accepted, -, -, rows⟩ | ⟨e, herror, -⟩ :=
    Proc.wp_run (wp_decodeCommitResults rt vane codec info transport results) h
  · rw [rows, List.map_map]
    refine congrArg List.sum (List.map_congr_left fun taken htaken => ?_)
    rw [(accepted.passes taken htaken).rows hserialized, Function.comp_apply]
  · cases herror

/-- A list of results the coordinator accepts is of one query and has one attempt per logical task;
every result contributes exactly its own messages, in order and none twice, and the row count is the
exact sum of the results' row counts. -/
theorem decodeCommitResults_sound {Message : Type} {rt : Runtime} {vane : Vane} {codec : MessageCodec Message}
    {info : DistributedExtensionWriteInfo} {transport : InsertTransport}
    {results : List DistributedWriteTaskResult} {state : DecodeState Message} {calls : List Empty}
    (h : (decodeCommitResults rt vane codec info transport results).run {} = (.ok (), state, calls)) :
    (∀ a ∈ results, ∀ b ∈ results, a.queryId = b.queryId) ∧
    (∀ a ∈ results, ∃ fragment partition attempt : List Char, '.' ∉ fragment ∧ '.' ∉ partition ∧
      a.taskAttemptId = attemptId a.queryId fragment partition attempt) ∧
    results.Pairwise (fun a b => ∀ fragment partition attempt attempt' : List Char,
      '.' ∉ fragment → '.' ∉ partition → a.taskAttemptId = attemptId a.queryId fragment partition attempt →
        b.taskAttemptId ≠ attemptId a.queryId fragment partition attempt') ∧
    (∃ contents, List.Forall₂ (Contributes rt vane codec transport) results contents ∧
      state.decoded.messages = contents.flatten) ∧
    (∃ canonical, List.Forall₂ (fun message text => codec.serialize message = .ok text)
      state.decoded.messages canonical ∧ canonical.Nodup) ∧
    state.decoded.rowCount.toNat = (results.map fun result => (vane.rowCount result).toNat).sum := by
  obtain ⟨serialized, takens, -, ⟨-, hserialized⟩, rfl, accepted, tasks, messages, -⟩ | ⟨e, herror, -⟩ :=
    Proc.wp_run (wp_decodeCommitResults rt vane codec info transport results) h
  · refine ⟨?_, ?_, ?_, ⟨takens.map Taken.messages, ?_, ?_⟩, ⟨takens.flatMap Taken.canonical, ?_, ?_⟩, ?_⟩
    · rw [List.forall_mem_map]
      intro a ha
      rw [List.forall_mem_map]
      exact accepted.compatible.query a ha
    · rw [List.forall_mem_map]
      exact fun a ha => exists_attemptId (accepted.passes a ha).enters.task
    · rw [List.pairwise_map]
      rw [List.Nodup, List.pairwise_map] at tasks
      refine tasks.imp_of_mem ?_
      intro a b ha hb hne fragment partition attempt attempt' hfragment hpartition hattempt
      exact distinct_tasks (accepted.passes a ha) (accepted.passes b hb) (accepted.compatible.query a ha b hb) hne
        hfragment hpartition hattempt
    · rw [List.forall₂_map_left_iff, List.forall₂_map_right_iff, List.forall₂_same]
      exact fun taken htaken => (accepted.passes taken htaken).contributes hserialized
    · rw [messages, List.flatMap_def]
    · rw [messages]
      exact forall₂_flatMap fun taken htaken => (accepted.passes taken htaken).canonical
    · exact accepted.compatible.canonical
    · exact rowCount_of_decoded h
  · cases herror

/-! ## One result with one message -/

namespace Sample

def runtime : Runtime :=
  .fixed "345caaf3de8b1b14a53d78ddf7dd9003" 1
    ["00000000-0000-4000-8000-000000000000", "00000000-0000-4000-8000-000000000001"]

def info : DistributedExtensionWriteInfo where
  mode := .callbackSink
  capability := ⟨"paimon", "insert", protocolVersion⟩
  fragmentCodec := ⟨writeFragmentCodec, protocolVersion⟩
  name := "insert"
  workerBindData := ""

def transport : InsertTransport where
  operationId := "00000000-0000-4000-8000-000000000000"
  databaseName := "db"
  tableName := "t"
  tableUuid := "u"
  tablePath := "/wh/db.db/t"
  schemaFingerprint := "0123456789abcdef0123456789abcdef"
  schemaId := 0
  appendOnly := true
  commitIdentifier := 1
  inputTypes := [{ id := .integer }]
  inputNames := ["a"]
  partKeys := []
  nullPartName := "__DEFAULT_PARTITION__"
  portableOptions := .empty

theorem validateTransport_transport : validateTransport runtime transport = .ok () := by
  decide +kernel

def envelope : CommitEnvelope where
  operationId := transport.operationId
  tableUuid := transport.tableUuid
  tablePath := transport.tablePath
  schemaFingerprint := transport.schemaFingerprint
  schemaId := transport.schemaId
  commitIdentifier := transport.commitIdentifier
  queryId := "q"
  taskAttemptId := "q.1.0.0"
  writerCommitUser := "vane-00000000000040008000000000000000-345caaf3de8b1b14a53d78ddf7dd9003"
  commitMessageVersion := 1
  messageCount := 1
  rowCount := 2
  serializedTransport := writeTransport runtime transport
  serializedMessages := String.ofList (Code.string.list.write ["data-0.orc"])

def fragment : DistributedWriteFragment where
  fragmentId := "00000000-0000-4000-8000-000000000000:q.1.0.0"
  payload := serializeCommitEnvelope runtime envelope
  rowCount := 2
  byteCount := 0

def result : DistributedWriteTaskResult where
  queryId := "q"
  taskAttemptId := "q.1.0.0"
  capability := info.capability
  fragmentCodec := info.fragmentCodec
  fragments := [fragment]

theorem decodable : Decodable runtime info transport (writeTransport runtime transport) := by
  refine ⟨by decide +kernel, ?_⟩
  rw [serializeTransport, validateTransport_transport]
  rfl

def taken : Taken String where
  result := result
  logicalTaskId := "q.1.0"
  entries := [("data-0.orc", "data-0.orc")]
  rowCount := 2

theorem opens : Opens ⟨runtime, .counting, .text 1, info, transport, writeTransport runtime transport⟩ result fragment
    envelope [some "data-0.orc"] where
  fragmentId := by decide +kernel
  artifacts := rfl
  byteCount := rfl
  payload := deserializeCommitEnvelope_serializeCommitEnvelope binaryFormat_lawful (by decide +kernel)
  agrees := by decide +kernel
  decoded := by decide +kernel

theorem accepted :
    Accepted ⟨runtime, .counting, .text 1, info, transport, writeTransport runtime transport⟩ [taken] := by
  refine accepted_singleton ⟨?_, ?_, ?_⟩
  · exact ⟨rfl, rfl, rfl, by decide +kernel⟩
  · exact .some fragment envelope _ rfl opens (.cons ⟨rfl, rfl⟩ .nil) rfl
  · exact List.nodup_singleton _

/-- What another task of the query has for a transport. -/
def otherEnvelope (transport : InsertTransport) : CommitEnvelope := { envelope with
  operationId := transport.operationId
  schemaFingerprint := transport.schemaFingerprint
  hasSnapshot := transport.hasSnapshot
  snapshotId := transport.snapshotId
  taskAttemptId := "q.1.1.0"
  writerCommitUser := workerCommitUser runtime transport.operationId ⟨"q", "q.1.1.0"⟩
  serializedTransport := writeTransport runtime transport
  serializedMessages := String.ofList (Code.string.list.write ["data-1.orc"]) }
@[inherit_doc otherEnvelope] def otherFragment (transport : InsertTransport) : DistributedWriteFragment := { fragment with
  fragmentId := expectedFragmentId transport.operationId "q.1.1.0"
  payload := serializeCommitEnvelope runtime (otherEnvelope transport) }
@[inherit_doc otherEnvelope] def otherResult (transport : InsertTransport) : DistributedWriteTaskResult := { result with
  taskAttemptId := "q.1.1.0"
  fragments := [otherFragment transport] }
@[inherit_doc otherEnvelope] def otherTaken (transport : InsertTransport) : Taken String where
  result := otherResult transport
  logicalTaskId := "q.1.1"
  entries := [("data-1.orc", "data-1.orc")]
  rowCount := 2

theorem opens_other : Opens ⟨runtime, .counting, .text 1, info, transport, writeTransport runtime transport⟩
    (otherResult transport) (otherFragment transport) (otherEnvelope transport) [some "data-1.orc"] where
  fragmentId := by decide +kernel
  artifacts := rfl
  byteCount := rfl
  payload := deserializeCommitEnvelope_serializeCommitEnvelope binaryFormat_lawful (by decide +kernel)
  agrees := by decide +kernel
  decoded := by decide +kernel

/-- A result opened with messages of its own is accepted behind that of the other task. -/
theorem accepted_other {transport : InsertTransport} {first : Taken String}
    (haccepted : Accepted ⟨runtime, .counting, .text 1, info, transport, writeTransport runtime transport⟩ [first])
    (hopens : Opens ⟨runtime, .counting, .text 1, info, transport, writeTransport runtime transport⟩
      (otherResult transport) (otherFragment transport) (otherEnvelope transport) [some "data-1.orc"])
    (hquery : first.result.queryId = "q") (hattempt : first.result.taskAttemptId = "q.1.0.0")
    (hcanonical : first.canonical = ["data-0.orc"]) (hrows : first.rowCount = 2) :
    Accepted ⟨runtime, .counting, .text 1, info, transport, writeTransport runtime transport⟩
      [first, otherTaken transport] := by
  have htask : vaneLogicalTaskIdentity "q" "q.1.1.0" = .ok "q.1.1" := by decide +kernel
  refine (accepted_append haccepted _).2 ⟨⟨⟨rfl, rfl, rfl, htask⟩, ?_, ?_⟩, ?_, ?_, ?_, ?_⟩
  · exact .some (otherFragment transport) (otherEnvelope transport) _ rfl hopens (.cons ⟨rfl, rfl⟩ .nil) rfl
  · exact List.nodup_singleton _
  · intro a ha
    rw [List.mem_singleton.1 ha]
    exact hquery
  · rw [List.map_singleton, hattempt]
    show "q.1.1.0" ∉ ["q.1.0.0"]
    decide
  · rw [List.flatMap_singleton, hcanonical]
    show ["data-0.orc", "data-1.orc"].Nodup
    decide
  · rw [List.map_singleton, hrows]
    show 2 + 2 < idxLimit
    decide

theorem accepted_both :
    Accepted ⟨runtime, .counting, .text 1, info, transport, writeTransport runtime transport⟩
      [taken, otherTaken transport] := accepted_other accepted opens_other rfl rfl rfl rfl

end Sample

/-- Two results are accepted, so what they hold is exactly what is decoded, in their order. -/
theorem decodeCommitResults_sound_sample : ∃ state calls,
    (decodeCommitResults Sample.runtime .counting (.text 1) Sample.info Sample.transport
      [Sample.result, Sample.otherResult Sample.transport]).run {} = (.ok (), state, calls) ∧
    (∃ contents, List.Forall₂ (Contributes Sample.runtime .counting (.text 1) Sample.transport)
      [Sample.result, Sample.otherResult Sample.transport] contents ∧
        ["data-0.orc", "data-1.orc"] = contents.flatten) ∧ state.decoded.rowCount.toNat = 4 := by
  have hresult : [Sample.taken, Sample.otherTaken Sample.transport].map (·.result) =
      [Sample.result, Sample.otherResult Sample.transport] := rfl
  have hmessages : [Sample.taken, Sample.otherTaken Sample.transport].flatMap Taken.messages =
      ["data-0.orc", "data-1.orc"] := rfl
  have hrows : ([Sample.taken, Sample.otherTaken Sample.transport].map (·.rowCount.toNat)).sum = 4 := rfl
  obtain ⟨state, calls, hrun, messages, rows⟩ :=
    decodeCommitResults_accepts Sample.decodable Sample.accepted_both (by decide)
  rw [hresult] at hrun
  rw [hmessages] at messages
  rw [hrows] at rows
  obtain ⟨-, -, -, ⟨contents, hcontents, hflatten⟩, -, -⟩ := decodeCommitResults_sound hrun
  rw [messages] at hflatten
  exact ⟨state, calls, hrun, ⟨contents, hcontents, hflatten⟩, rows⟩

/-! ## The order of the results -/

section Order

variable {Message : Type}

/-- Nothing that is asked of accepted results depends on their order. -/
theorem Accepted.perm {op : Operation Message} {takens takens' : List (Taken Message)} (h : Accepted op takens)
    (hperm : takens.Perm takens') : Accepted op takens' := by
  refine ⟨fun taken htaken => h.passes taken (hperm.mem_iff.2 htaken), fun a ha b hb => ?_, ?_, ?_, ?_⟩
  · exact h.compatible.query a (hperm.mem_iff.2 ha) b (hperm.mem_iff.2 hb)
  · exact (hperm.map _).nodup_iff.1 h.compatible.attempts
  · exact (hperm.flatMap_right _).nodup_iff.1 h.compatible.canonical
  · rw [← (hperm.map _).sum_nat]
    exact h.compatible.rows

/-- What is taken from reordered results is reordered. -/
theorem exists_perm_takens {takens : List (Taken Message)} {results : List DistributedWriteTaskResult}
    (hperm : results.Perm (takens.map (·.result))) : ∃ takens', takens'.map (·.result) = results ∧ takens.Perm takens' := by
  have htakens : List.Forall₂ (fun result taken => result = Taken.result taken) (takens.map (·.result)) takens := by
    rw [List.forall₂_map_left_iff, List.forall₂_same]
    exact fun _ _ => rfl
  obtain ⟨takens', hresults, htakens'⟩ := List.perm_comp_forall₂ hperm htakens
  refine ⟨takens', ?_, htakens'.symm⟩
  rw [← List.forall₂_eq_eq_eq, List.forall₂_map_left_iff]
  exact hresults.flip.imp fun _ _ h => h.symm

variable {rt : Runtime} {vane : Vane} {codec : MessageCodec Message} {info : DistributedExtensionWriteInfo}
  {transport : InsertTransport} {results results' : List DistributedWriteTaskResult}

/-- An accepted list stays accepted in another order, and gives the same rows and the same messages. -/
theorem decodes_of_perm (hperm : results'.Perm results) {state : DecodeState Message} {calls : List Empty}
    (h : (decodeCommitResults rt vane codec info transport results).run {} = (.ok (), state, calls)) :
    ∃ state' calls', (decodeCommitResults rt vane codec info transport results').run {} = (.ok (), state', calls') ∧
      state'.decoded.rowCount = state.decoded.rowCount ∧ state'.decoded.messages.Perm state.decoded.messages := by
  obtain ⟨serialized, takens, -, decodable, rfl, accepted, tasks, messages, rows⟩ | ⟨e, herror, -⟩ :=
    Proc.wp_run (wp_decodeCommitResults rt vane codec info transport results) h
  · obtain ⟨takens', rfl, htakens⟩ := exists_perm_takens hperm
    have htasks : (takens'.map (·.logicalTaskId)).Nodup := (htakens.map _).nodup_iff.1 tasks
    obtain ⟨state', calls', hrun, messages', rows'⟩ := decodeCommitResults_accepts decodable (accepted.perm htakens) htasks
    refine ⟨state', calls', hrun, ?_, ?_⟩
    · rw [← UInt64.toNat_inj, rows', rows, (htakens.map _).sum_nat]
    · rw [messages', messages]
      exact (htakens.flatMap_right _).symm
  · cases herror

end Order

/-- The order in which the results are selected does not matter: both orders are accepted or neither is,
with the same row count and the same messages. -/
theorem decodeCommitResults_perm {Message : Type} (rt : Runtime) (vane : Vane) (codec : MessageCodec Message)
    (info : DistributedExtensionWriteInfo) (transport : InsertTransport)
    {results results' : List DistributedWriteTaskResult} (hperm : results.Perm results') :
    (((decodeCommitResults rt vane codec info transport results).run {}).1 = .ok () ↔
        ((decodeCommitResults rt vane codec info transport results').run {}).1 = .ok ()) ∧
      (((decodeCommitResults rt vane codec info transport results).run {}).1 = .ok () →
        ((decodeCommitResults rt vane codec info transport results).run {}).2.1.decoded.rowCount =
            ((decodeCommitResults rt vane codec info transport results').run {}).2.1.decoded.rowCount ∧
          ((decodeCommitResults rt vane codec info transport results).run {}).2.1.decoded.messages.Perm
            ((decodeCommitResults rt vane codec info transport results').run {}).2.1.decoded.messages) := by
  rcases hrun : (decodeCommitResults rt vane codec info transport results).run {} with ⟨r, state, calls⟩
  rcases hrun' : (decodeCommitResults rt vane codec info transport results').run {} with ⟨r', state', calls'⟩
  refine ⟨⟨?_, ?_⟩, ?_⟩
  · rintro rfl
    obtain ⟨_, _, hagain, -⟩ := decodes_of_perm hperm.symm hrun
    exact congrArg Prod.fst (hrun'.symm.trans hagain)
  · rintro rfl
    obtain ⟨_, _, hagain, -⟩ := decodes_of_perm hperm hrun'
    exact congrArg Prod.fst (hrun.symm.trans hagain)
  · rintro rfl
    obtain ⟨_, _, hagain, hrows, hmessages⟩ := decodes_of_perm hperm.symm hrun
    obtain ⟨-, rfl, -⟩ : _ ∧ _ ∧ _ := by simpa using hrun'.symm.trans hagain
    exact ⟨hrows.symm, hmessages.symm⟩

namespace Sample

/-- A task of the query that wrote nothing. -/
def idleResult : DistributedWriteTaskResult := { result with taskAttemptId := "q.1.1.0", fragments := [] }

def idleTaken : Taken String where
  result := idleResult
  logicalTaskId := "q.1.1"

theorem accepted_idle :
    Accepted ⟨runtime, .counting, .text 1, info, transport, writeTransport runtime transport⟩ [taken, idleTaken] := by
  refine (accepted_append accepted _).2 ⟨⟨⟨rfl, rfl, rfl, by decide +kernel⟩, ?_, List.nodup_nil⟩, ?_, ?_, ?_, ?_⟩
  · exact .none rfl rfl rfl rfl rfl
  · intro a ha
    rw [List.mem_singleton.1 ha]
    rfl
  · decide
  · exact List.nodup_singleton _
  · decide

end Sample

/-- The sample with a task that wrote nothing, in both orders. -/
theorem decodeCommitResults_perm_sample : ∃ state calls,
    (decodeCommitResults Sample.runtime .counting (.text 1) Sample.info Sample.transport
        [Sample.idleResult, Sample.result]).run {} = (.ok (), state, calls) ∧
      state.decoded.messages = ["data-0.orc"] ∧ state.decoded.rowCount.toNat = 2 := by
  obtain ⟨state, calls, hrun, messages, rows⟩ :=
    decodeCommitResults_accepts Sample.decodable Sample.accepted_idle (by decide)
  have hperm := decodeCommitResults_perm Sample.runtime .counting (.text 1) Sample.info Sample.transport
    (List.Perm.swap Sample.idleResult Sample.result [])
  have hresults : [Sample.taken, Sample.idleTaken].map (·.result) = [Sample.result, Sample.idleResult] := rfl
  rw [hresults] at hrun
  rcases hrun' : (decodeCommitResults Sample.runtime .counting (.text 1) Sample.info Sample.transport
    [Sample.idleResult, Sample.result]).run {} with ⟨r, state', calls'⟩
  rw [hrun, hrun'] at hperm
  obtain ⟨hiff, hsame⟩ := hperm
  obtain rfl := hiff.1 rfl
  obtain ⟨hrows, hmessages⟩ := hsame rfl
  refine ⟨state', calls', rfl, ?_, ?_⟩
  · dsimp only at hmessages
    rw [messages] at hmessages
    exact List.perm_singleton.1 hmessages.symm
  · dsimp only at hrows
    rw [← hrows, rows]
    rfl

end DuckPaimon.Write
