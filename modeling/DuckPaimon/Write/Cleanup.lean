/-
What the coordinator hands over to be aborted (paimon_distributed_insert.cpp), and that it is not
committed as well. Once a finalization has started no call aborts; before that an abort leaves no
trace in the operator, so results that were aborted can still be finalized.
-/
import DuckPaimon.Write.Calls

namespace DuckPaimon.Write

open Outcome

variable {Message : Type}

/-! ## What results carry -/

section Carries

variable (rt : Runtime) (vane : Vane)

/-- A result carries a message: it stands in the payload of a fragment. -/
def Carries (codec : MessageCodec Message) (result : DistributedWriteTaskResult) (m : Message) : Prop :=
  ∃ fragment ∈ result.fragments, ∃ envelope messages, deserializeCommitEnvelope rt fragment.payload = .ok envelope ∧
    codec.deserializeList envelope.commitMessageVersion envelope.serializedMessages = .ok messages ∧ some m ∈ messages

variable {rt vane} {codec : MessageCodec Message} {info : DistributedExtensionWriteInfo} {transport : InsertTransport}
  {serialized : String}

theorem Opens.carries {result : DistributedWriteTaskResult} {fragment : DistributedWriteFragment}
    {envelope : CommitEnvelope} {messages : List (Option Message)} {m : Message}
    (h : Opens ⟨rt, vane, codec, info, transport, serialized⟩ result fragment envelope messages)
    (hfragments : result.fragments = [fragment]) (hm : some m ∈ messages) : Carries rt codec result m :=
  ⟨fragment, hfragments ▸ List.mem_singleton_self _, envelope, messages, h.payload, deserializeMessages_ok h.decoded, hm⟩

theorem Collected.carries {takens : List (Taken Message)} {results : List DistributedWriteTaskResult} {m : Message}
    (h : Collected ⟨rt, vane, codec, info, transport, serialized⟩ takens results m) :
    ∃ result ∈ results, Carries rt codec result m := by
  induction h with
  | here salvaged =>
    obtain ⟨_, fragment, envelope, messages, -, -, -, hfragments, opens, hm⟩ := salvaged
    exact ⟨_, List.mem_cons_self .., opens.carries hfragments (mem_of_mem_leading hm)⟩
  | later _ _ _ ih =>
    obtain ⟨result, hresult, hcarries⟩ := ih
    exact ⟨result, List.mem_cons_of_mem _ hresult, hcarries⟩

/-- What is decoded, until a failure or to the end, is carried by the results. -/
theorem carries_of_decoded {replies : DecodeReplies Message} {results : List DistributedWriteTaskResult}
    {outcome : Except Exception Unit} {decoded : DecodedCommit Message}
    (h : decodeWith rt vane replies transport results = (outcome, decoded)) {m : Message} (hm : m ∈ decoded.messages) :
    ∃ result ∈ results, Carries rt replies.codec result m := by
  cases hinfo : replies.resolvedInfo with
  | error e =>
    unfold decodeWith at h
    rw [hinfo] at h
    obtain ⟨-, rfl⟩ := Prod.mk.inj h
    cases hm
  | ok info =>
    obtain ⟨state, rfl, ⟨serialized, takens, -, hdecodable, rfl, accepted, -, messages, -⟩ | ⟨e, -, -, messages⟩⟩ :=
      decodeWith_decodes hinfo h
    · have accepted : Accepted _ ([] ++ takens) := accepted
      rw [messages, ← collected_of_accepted accepted] at hm
      exact hm.carries
    · obtain ⟨serialized, -, hcollected⟩ := (messages m).1 hm
      exact hcollected.carries

end Carries

/-! ## Aborting and committing -/

section Exclusive

variable (rt : Runtime) (vane : Vane)

/-- What the calls of a history hand over to be aborted. -/
def abortedByCalls (history : List (Performed Message)) : List Message :=
  history.flatMap fun p => abortedBy (p.events rt vane)

/-- What the calls of a history hand over to be committed. -/
def committedByCalls (history : List (Performed Message)) : List Message :=
  history.flatMap fun p => committedBy (p.events rt vane)

/-- An abort before any finalization and a finalization of the prepared operator are handed results
that carry the same message. -/
structure HandedToBoth (p q : Performed Message) (m : Message) (replies : DecodeReplies Message)
    (results : List DistributedWriteTaskResult) (decode : DecodeReplies Message) (commit : CommitReplies)
    (results' : List DistributedWriteTaskResult) : Prop where
  abort : p.call = .abortDistributedWrite replies results
  aborting : Entering rt p.before
  finalize : q.call = .finalizeDistributedWrite decode commit results'
  finalizing : Entering rt q.before
  prepared : q.before.distributedTargetPrepared = true
  aborted : ∃ result ∈ results, Carries rt replies.codec result m
  finalized : ∃ result ∈ results', Carries rt decode.codec result m

variable {rt vane}

/-- A call that hands over a message to be aborted is an abort before any finalization, of results
that carry it, or the finalization, which then does not commit. -/
theorem Performed.aborts {p : Performed Message} {m : Message} (h : m ∈ abortedBy (p.events rt vane)) :
    Entering rt p.before ∧
      ((∃ replies results, p.call = .abortDistributedWrite replies results ∧
          ∃ result ∈ results, Carries rt replies.codec result m) ∨
        (p.after rt vane).distributedFinalizeStarted = true ∧ ¬p.Commits rt vane) := by
  cases p.does rt vane with
  | idle _ _ quiet =>
    rw [abortedBy_of_quiet quiet] at h
    cases h
  | prepare _ _ _ _ does =>
    rw [abortedBy_of_quiet does.quiet] at h
    cases h
  | abort replies results call _ _ _ does =>
    generalize p.events rt vane = events at does h
    cases does with
    | refused | nothing | unready => cases h
    | aborts transport outcome decoded entering _ decoding aborts =>
      rw [aborts.aborted] at h
      exact ⟨entering, .inl ⟨replies, results, call, carries_of_decoded decoding.decodes h⟩⟩
  | finalize _ _ _ _ _ _ does =>
    have hcommits (hcommits : p.Commits rt vane) : m ∉ abortedBy (p.events rt vane) := by
      obtain ⟨⟨_, _, _, _, _, guarded⟩, -⟩ := hcommits.guarded
      rw [guarded.events]
      exact List.not_mem_nil
    rcases does.finalizing with ⟨-, -, hevents⟩ | ⟨hafter, entering⟩
    · rw [hevents] at h
      cases h
    · exact ⟨entering, .inr ⟨by rw [hafter]; rfl, fun hcommit => hcommits hcommit h⟩⟩

/-- A call that hands over a message to be committed is a finalization of results that carry it. -/
theorem Performed.commits {p : Performed Message} {m : Message} (h : m ∈ committedBy (p.events rt vane)) :
    p.Commits rt vane ∧ ∃ decode commit results, p.call = .finalizeDistributedWrite decode commit results ∧
      ∃ result ∈ results, Carries rt decode.codec result m := by
  have hcommits : p.Commits rt vane := by
    by_contra hnot
    rw [committedBy_of_not_commit fun event hevent hcommit => hnot ⟨event, hevent, hcommit⟩] at h
    cases h
  obtain ⟨⟨decode, commit, results, transport, decoded, guarded⟩, -⟩ := hcommits.guarded
  rw [guarded.events] at h
  have hm : m ∈ decoded.messages := by simpa [committedBy, Event.committed] using h
  obtain ⟨info, state, calls, hinfo, hrun, hdecoded⟩ := guarded.selects.accepted
  exact ⟨hcommits, decode, commit, results, guarded.call,
    carries_of_decoded (decodeWith_eq_ok.2 ⟨info, state, calls, hinfo, hrun, hdecoded⟩) hm⟩

/-- A finalization that has started stays so. -/
theorem finalizing_of_run {insert insert' : PhysicalPaimonInsert} {history : List (Performed Message)}
    (run : Run (Performs rt vane) insert history insert') (h : insert.distributedFinalizeStarted = true) :
    insert'.distributedFinalizeStarted = true := by
  refine run.invariant (I := fun _ insert => insert.distributedFinalizeStarted = true) h ?_
  rintro _ _ p _ hstarted ⟨rfl, rfl⟩
  exact p.progress.1 hstarted

/-- Behind a call that starts the finalization no call enters. -/
theorem not_entering_of_run {insert insert' : PhysicalPaimonInsert} {history : List (Performed Message)}
    {q : Performed Message} (run : Run (Performs rt vane) insert history insert')
    (h : insert.distributedFinalizeStarted = true) (hq : q ∈ history) : ¬Entering rt q.before := by
  obtain ⟨earlier, later, rfl⟩ := List.append_of_mem hq
  obtain ⟨_, _, hearlier, ⟨rfl, -⟩, -⟩ := run.step_of_mem
  intro hentering
  exact absurd ((finalizing_of_run hearlier h).symm.trans hentering.open_) Bool.noConfusion

/-- If no finalization is handed a message that an abort was handed before, no message is handed over
both to be aborted and to be committed. -/
theorem commit_xor_abort {accessMode : AccessMode} {info : Option CreateTableInfo} {tableIdentifier : Identifier}
    {paimonOptions : StringMap} {partKeys : List String} {children : List (List LogicalType)}
    {history : List (Performed Message)} {insert : PhysicalPaimonInsert}
    (run : Run (Performs rt vane) (.new accessMode info tableIdentifier paimonOptions partKeys children) history insert)
    (apart : history.Pairwise fun p q => ∀ m replies results decode commit results',
      ¬HandedToBoth rt p q m replies results decode commit results') :
    ∀ m ∈ abortedByCalls rt vane history, m ∉ committedByCalls rt vane history := by
  intro m haborted hcommitted
  obtain ⟨p, hp, haborted⟩ := List.mem_flatMap.1 haborted
  obtain ⟨q, hq, hcommitted⟩ := List.mem_flatMap.1 hcommitted
  obtain ⟨haborting, haborts⟩ := Performed.aborts haborted
  obtain ⟨hcommits, decode, commit, results', hfinalize, hfinalized⟩ := Performed.commits hcommitted
  obtain ⟨-, hfinalizing, hprepared, hafter⟩ := hcommits.guarded
  obtain ⟨earlier, later, rfl⟩ := List.append_of_mem hq
  obtain ⟨_, _, hearlier, ⟨rfl, rfl⟩, hlater⟩ := run.step_of_mem
  rcases List.mem_append.1 hp with hp | hp
  · rcases haborts with ⟨replies, results, habort, hcarried⟩ | ⟨hstarted, -⟩
    · have hdisjoint := (List.pairwise_append.1 apart).2.2 p hp q (List.mem_cons_self ..)
      exact hdisjoint m replies results decode commit results'
        ⟨habort, haborting, hfinalize, hfinalizing, hprepared, hcarried, hfinalized⟩
    · -- the finalization that aborted is the last one
      obtain ⟨before, between, rfl⟩ := List.append_of_mem hp
      obtain ⟨_, _, -, ⟨rfl, rfl⟩, hbetween⟩ := hearlier.step_of_mem
      exact absurd ((finalizing_of_run hbetween hstarted).symm.trans hfinalizing.open_) Bool.noConfusion
  · rcases List.mem_cons.1 hp with rfl | hp
    · rcases haborts with ⟨_, _, habort, -⟩ | ⟨-, hnot⟩
      · rw [hfinalize] at habort
        cases habort
      · exact hnot hcommits
    · exact not_entering_of_run hlater (by rw [hafter]; rfl) hp haborting

variable (rt vane) in
/-- An abort leaves the operator as it is. -/
theorem Performed.after_abort {p : Performed Message} {replies : DecodeReplies Message}
    {results : List DistributedWriteTaskResult} (hcall : p.call = .abortDistributedWrite replies results) :
    p.after rt vane = p.before ∧ ∃ r, AbortCall rt vane replies results p.before r (p.events rt vane) := by
  obtain ⟨insert, call⟩ := p
  cases hcall
  obtain ⟨r, -, hafter, hdoes⟩ := Proc.wp_run_map (wp_abortDistributedWrite replies results insert)
    (f := fun _ => (none : Option UInt64)) rfl
  exact ⟨hafter, r, hdoes⟩

end Exclusive

/-! ## An aborted INSERT -/

namespace Sample

/-- An abort of the prepared INSERT. -/
def aborting (results : List DistributedWriteTaskResult) : Performed String :=
  ⟨prepared, .abortDistributedWrite decodeReplies results⟩

theorem run_aborting (results : List DistributedWriteTaskResult) :
    Run (Performs runtime .counting) unplanned (preparing ++ [aborting results] ++ [finalizing]) prepared.finalizing := by
  have haborting : Performs runtime .counting prepared (aborting results) prepared :=
    ⟨rfl, ((aborting results).after_abort runtime .counting rfl).1.symm⟩
  exact (run_preparing.snoc haborting).snoc ⟨rfl, finalizes_prepared.1.symm⟩

theorem mem_committedByCalls (results : List DistributedWriteTaskResult) :
    "data-0.orc" ∈ committedByCalls runtime .counting (preparing ++ [aborting results] ++ [finalizing]) := by
  refine List.mem_flatMap.2 ⟨finalizing, List.mem_append_right _ (List.mem_singleton_self _), ?_⟩
  rw [finalizes_prepared.2]
  exact List.mem_singleton_self _

def emptyResult : DistributedWriteTaskResult := { plannedResult with fragments := [] }

end Sample

/-- A result without messages is aborted, and the message of the other one is committed only. -/
theorem commit_xor_abort_emptyResult :
    "data-0.orc" ∈ committedByCalls Sample.runtime .counting
      (Sample.preparing ++ [Sample.aborting [Sample.emptyResult]] ++ [Sample.finalizing]) ∧
    "data-0.orc" ∉ abortedByCalls Sample.runtime .counting
      (Sample.preparing ++ [Sample.aborting [Sample.emptyResult]] ++ [Sample.finalizing]) := by
  have hcommitted := Sample.mem_committedByCalls [Sample.emptyResult]
  refine ⟨hcommitted, fun haborted => ?_⟩
  refine commit_xor_abort (Sample.run_aborting _) (List.pairwise_of_forall_mem_list fun p hp q _ => ?_) _ haborted
    hcommitted
  rintro m replies results decode commit results' ⟨habort, -, -, -, -, ⟨result, hresult, fragment, hfragment, -⟩, -⟩
  -- the only abort is handed a result without fragments
  have hresults : results = [Sample.emptyResult] := by
    rw [List.append_assoc, List.mem_append] at hp
    rcases hp with hp | hp
    · simp only [Sample.preparing, List.mem_cons, List.not_mem_nil, or_false] at hp
      rcases hp with rfl | rfl | rfl <;> cases habort
    · simp only [List.mem_append, List.mem_singleton] at hp
      rcases hp with rfl | rfl
      · cases habort
        rfl
      · cases habort
  rw [hresults, List.mem_singleton] at hresult
  rw [hresult] at hfragment
  cases hfragment

/-- The messages of a result are aborted, and then the result is finalized: they are committed. -/
theorem commit_of_aborted : ∃ insert, Run (Performs Sample.runtime .counting) Sample.unplanned
      (Sample.preparing ++ [Sample.aborting [Sample.plannedResult]] ++ [Sample.finalizing]) insert ∧
    "data-0.orc" ∈ abortedByCalls Sample.runtime .counting
      (Sample.preparing ++ [Sample.aborting [Sample.plannedResult]] ++ [Sample.finalizing]) ∧
    "data-0.orc" ∈ committedByCalls Sample.runtime .counting
      (Sample.preparing ++ [Sample.aborting [Sample.plannedResult]] ++ [Sample.finalizing]) := by
  refine ⟨_, Sample.run_aborting _, ?_, Sample.mem_committedByCalls _⟩
  refine List.mem_flatMap.2 ⟨Sample.aborting [Sample.plannedResult], ?_, ?_⟩
  · exact List.mem_append_left _ (List.mem_append_right _ (List.mem_singleton_self _))
  · obtain ⟨-, r, hdoes⟩ := (Sample.aborting [Sample.plannedResult]).after_abort Sample.runtime .counting rfl
    rw [(hdoes.hands Sample.entering_prepared (List.cons_ne_nil _ _) Sample.decoding_prepared).aborted]
    exact List.mem_singleton_self _

/-! ## What a failed write cleans up -/

section CleanUp

variable {op : Operation Message}

/-- A message of a result that passes all checks that look at it alone. -/
def PassesAlone (op : Operation Message) (result : DistributedWriteTaskResult) (m : Message) : Prop :=
  ∃ taken : Taken Message, taken.result = result ∧ Passes op taken ∧ m ∈ taken.messages

/-- Decoding gets to a message: it stands in a result behind accepted results only, which shares
their query and is a new attempt, and before any message of that result that repeats another. -/
def Reaches (op : Operation Message) (results : List DistributedWriteTaskResult) (m : Message) : Prop :=
  ∃ (takens : List (Taken Message)) (result : DistributedWriteTaskResult) (rest : List DistributedWriteTaskResult),
    results = takens.map (·.result) ++ result :: rest ∧ Accepted op takens ∧ Salvaged op takens result m

theorem collected_iff {takens : List (Taken Message)} {results : List DistributedWriteTaskResult} {m : Message}
    (accepted : Accepted op takens) : Collected op takens results m ↔
      ∃ (more : List (Taken Message)) (result : DistributedWriteTaskResult) (rest : List DistributedWriteTaskResult),
        results = more.map (·.result) ++ result :: rest ∧ Accepted op (takens ++ more) ∧
          Salvaged op (takens ++ more) result m := by
  constructor
  · intro h
    induction h with
    | @here takens result results _ salvaged =>
      refine ⟨[], result, results, rfl, ?_, ?_⟩ <;> rwa [List.append_nil]
    | @later takens taken result results _ of haccepted _ ih =>
      obtain ⟨more, result', rest, rfl, hmore, salvaged⟩ := ih haccepted
      rw [← List.append_cons] at hmore salvaged
      exact ⟨taken :: more, result', rest, by rw [List.map_cons, of]; rfl, hmore, salvaged⟩
  · rintro ⟨more, result, rest, rfl, hmore, salvaged⟩
    induction more generalizing takens with
    | nil => exact .here (by rwa [List.append_nil] at salvaged)
    | cons taken more ih =>
      rw [List.append_cons] at hmore salvaged
      exact .later rfl hmore.of_append (ih hmore.of_append hmore salvaged)

variable {rt : Runtime} {vane : Vane}

/-- What is decoded, until a failure or to the end. -/
theorem mem_decoded_iff {replies : DecodeReplies Message} {info : DistributedExtensionWriteInfo}
    (hinfo : replies.resolvedInfo = .ok info) {transport : InsertTransport} {serialized : String}
    (hserialized : serializeTransport rt transport = .ok serialized) {results : List DistributedWriteTaskResult}
    {outcome : Except Exception Unit} {decoded : DecodedCommit Message}
    (h : decodeWith rt vane replies transport results = (outcome, decoded)) (m : Message) :
    m ∈ decoded.messages ↔ validateResolvedInfo info transport = .ok () ∧
      Reaches ⟨rt, vane, replies.codec, info, transport, serialized⟩ results m := by
  have hreaches : Reaches ⟨rt, vane, replies.codec, info, transport, serialized⟩ results m ↔
      Collected ⟨rt, vane, replies.codec, info, transport, serialized⟩ [] results m :=
    (collected_iff (accepted_nil _)).symm
  rw [hreaches]
  obtain ⟨state, rfl, ⟨serialized', takens, -, ⟨hvalid, hserialized'⟩, rfl, accepted, -, messages, -⟩ |
    ⟨e, -, -, messages⟩⟩ := decodeWith_decodes hinfo h
  · cases hserialized.symm.trans hserialized'
    have accepted : Accepted _ ([] ++ takens) := accepted
    rw [messages, ← collected_of_accepted accepted]
    exact ⟨fun h => ⟨hvalid, h⟩, fun h => h.2⟩
  · rw [messages]
    constructor
    · rintro ⟨serialized', ⟨hvalid, hserialized'⟩, hcollected⟩
      cases hserialized.symm.trans hserialized'
      exact ⟨hvalid, hcollected⟩
    · rintro ⟨hvalid, hcollected⟩
      exact ⟨serialized, ⟨hvalid, hserialized⟩, hcollected⟩

/-- A bind that was read serializes. -/
theorem serializeTransport_of_deserializeTransport {bytes : String} {transport : InsertTransport}
    (h : deserializeTransport rt bytes = .ok transport) :
    serializeTransport rt transport = .ok (writeTransport rt transport) := by
  unfold deserializeTransport at h
  obtain ⟨-, h⟩ := throwIf_bind_eq_ok.1 h
  obtain ⟨⟨result, _⟩, -, h⟩ := bind_eq_ok.1 h
  obtain ⟨_, hvalid, h⟩ := bind_eq_ok.1 h
  cases pure_eq_ok.1 h
  rw [serializeTransport, hvalid]
  rfl

theorem serializeTransport_of_coordinatorTransport {insert : PhysicalPaimonInsert} {transport : InsertTransport}
    (h : getCoordinatorTransport rt insert = .ok transport) :
    serializeTransport rt transport = .ok (writeTransport rt transport) := by
  unfold getCoordinatorTransport at h
  obtain ⟨transport, hread, h⟩ := bind_eq_ok.1 h
  obtain ⟨-, h⟩ := throwIf_bind_eq_ok.1 h
  cases pure_eq_ok.1 h
  exact serializeTransport_of_deserializeTransport hread

/-- The operation of a planned operator. -/
def operation (rt : Runtime) (vane : Vane) (codec : MessageCodec Message) (info : DistributedExtensionWriteInfo)
    (transport : InsertTransport) : Operation Message :=
  ⟨rt, vane, codec, info, transport, writeTransport rt transport⟩

/-- Every message of a result that passes alone is handed over to be aborted. -/
def CleansUp (op : Operation Message) (results : List DistributedWriteTaskResult) (events : List (Event Message)) : Prop :=
  ∀ result ∈ results, ∀ m, PassesAlone op result m → m ∈ abortedBy events

/-- The call gets to decode the results, under the contract, and gets to every message of a result
that passes alone. -/
structure DecodesAll (op : Operation Message) (replies : DecodeReplies Message)
    (results : List DistributedWriteTaskResult) : Prop where
  options : ∃ options, replies.paimonOptions = .ok options
  contract : replies.resolvedInfo = .ok op.info
  valid : validateResolvedInfo op.info op.transport = .ok ()
  reaches : ∀ result ∈ results, ∀ m, PassesAlone op result m → Reaches op results m

/-- No result that passes alone has a message. -/
def NothingPasses (op : Operation Message) (results : List DistributedWriteTaskResult) : Prop :=
  ∀ result ∈ results, ∀ m, ¬PassesAlone op result m

theorem cleansUp_of_nothing {results : List DistributedWriteTaskResult} {events : List (Event Message)}
    (h : abortedBy events = []) : CleansUp op results events ↔ NothingPasses op results := by
  unfold CleansUp NothingPasses
  rw [h]
  simp only [List.not_mem_nil]

theorem cleansUp_of_decoding {info : DistributedExtensionWriteInfo}
    {transport : InsertTransport} {replies : DecodeReplies Message} {results : List DistributedWriteTaskResult}
    {insert : PhysicalPaimonInsert} {outcome : Except Exception Unit} {decoded : DecodedCommit Message}
    {events : List (Event Message)} (hinfo : ∀ resolved, replies.resolvedInfo = .ok resolved → resolved = info)
    (decoding : Decoding rt vane replies results insert transport outcome decoded)
    (h : abortedBy events = decoded.messages) :
    CleansUp (operation rt vane replies.codec info transport) results events ↔
      NothingPasses (operation rt vane replies.codec info transport) results ∨
        DecodesAll (operation rt vane replies.codec info transport) replies results := by
  cases hresolved : replies.resolvedInfo with
  | error e =>
    have hdecodes := decoding.decodes
    unfold decodeWith at hdecodes
    rw [hresolved] at hdecodes
    obtain ⟨-, rfl⟩ := Prod.mk.inj hdecodes
    rw [cleansUp_of_nothing h]
    refine ⟨.inl, fun h => h.elim id fun hall => ?_⟩
    cases hresolved.symm.trans hall.contract
  | ok resolved =>
    cases hinfo resolved hresolved
    have hmem (m : Message) := mem_decoded_iff hresolved (serializeTransport_of_coordinatorTransport decoding.target)
      decoding.decodes m
    unfold CleansUp
    rw [h]
    constructor
    · intro hclean
      by_cases hnothing : NothingPasses (operation rt vane replies.codec info transport) results
      · exact .inl hnothing
      · unfold NothingPasses at hnothing
        push Not at hnothing
        obtain ⟨result, hresult, m, hpasses⟩ := hnothing
        refine .inr ⟨decoding.options, hresolved, ((hmem m).1 (hclean result hresult m hpasses)).1, ?_⟩
        exact fun result hresult m hpasses => ((hmem m).1 (hclean result hresult m hpasses)).2
    · rintro (hnothing | hall) result hresult m hpasses
      · exact absurd hpasses (hnothing result hresult m)
      · exact (hmem m).2 ⟨hall.valid, hall.reaches result hresult m hpasses⟩

/-- A call past its shape check, before any finalization, that does not commit cleans up exactly if
nothing that passes alone is among the results, or it decodes them all; a finalization must also
find its target prepared. -/
theorem failed_write_cleans_up_iff {p : Performed Message} (entering : Entering rt p.before)
    {replies : DecodeReplies Message} {results : List DistributedWriteTaskResult} {transport : InsertTransport}
    (htransport : getCoordinatorTransport rt p.before = .ok transport) {info : DistributedExtensionWriteInfo}
    (hinfo : ∀ resolved, replies.resolvedInfo = .ok resolved → resolved = info) :
    (∀ commit, p.call = .finalizeDistributedWrite replies commit results → ¬p.Commits rt vane →
      (CleansUp (operation rt vane replies.codec info transport) results (p.events rt vane) ↔
        NothingPasses (operation rt vane replies.codec info transport) results ∨
          p.before.distributedTargetPrepared = true ∧
            DecodesAll (operation rt vane replies.codec info transport) replies results)) ∧
    (p.call = .abortDistributedWrite replies results →
      (CleansUp (operation rt vane replies.codec info transport) results (p.events rt vane) ↔
        NothingPasses (operation rt vane replies.codec info transport) results ∨
          DecodesAll (operation rt vane replies.codec info transport) replies results)) := by
  constructor
  · intro commit hcall hnot
    obtain ⟨r, -, hdoes⟩ := p.finalize_does rt vane hcall
    have hnot : ¬∃ event ∈ p.events rt vane, event.IsCommit := hnot
    generalize p.after rt vane = insert', p.events rt vane = events at hdoes hnot
    cases hdoes with
    | refused _ not => exact absurd entering not
    | unready _ _ not =>
      rw [cleansUp_of_nothing rfl]
      refine ⟨.inl, fun h => h.elim id fun ⟨hprepared, hall⟩ => ?_⟩
      rcases not with hunprepared | ⟨failure, hfailure⟩
      · exact absurd (hunprepared.symm.trans hprepared) Bool.noConfusion
      · obtain ⟨options, hoptions⟩ := hall.options
        cases hoptions.symm.trans hfailure
    | undecoded _ _ decoded _ prepared decoding aborts =>
      cases decoding.target.symm.trans htransport
      rw [cleansUp_of_decoding hinfo decoding aborts.aborted]
      simp only [prepared, true_and]
    | decoded _ decoded _ prepared decoding ends =>
      cases decoding.target.symm.trans htransport
      have haborted : abortedBy events = decoded.messages := by
        cases ends with
        | withheld _ _ aborts => exact aborts.aborted
        | nothing nothing => exact nothing.messages.symm
        | commits => exact absurd ⟨_, .tail _ (.tail _ (.head _)), trivial⟩ hnot
      rw [cleansUp_of_decoding hinfo decoding haborted]
      simp only [prepared, true_and]
  · intro hcall
    obtain ⟨-, r, hdoes⟩ := p.after_abort rt vane hcall
    generalize p.events rt vane = events at hdoes
    cases hdoes with
    | refused _ not => exact absurd entering not
    | nothing _ empty =>
      subst empty
      have hnothing : NothingPasses (operation rt vane replies.codec info transport) [] := nofun
      exact ⟨fun _ => .inl hnothing, fun _ => nofun⟩
    | unready _ _ _ not =>
      rw [cleansUp_of_nothing rfl]
      refine ⟨.inl, fun h => h.elim id fun hall => ?_⟩
      obtain ⟨failure, hfailure⟩ := not
      obtain ⟨options, hoptions⟩ := hall.options
      cases hoptions.symm.trans hfailure
    | aborts _ _ decoded _ _ decoding aborts =>
      cases decoding.target.symm.trans htransport
      exact cleansUp_of_decoding hinfo decoding aborts.aborted

end CleanUp

namespace Sample

/-- The planned INSERT. -/
def insertOperation : Operation String := operation runtime .counting (.text 1) info plannedTransport

theorem passesAlone_planned : PassesAlone insertOperation plannedResult "data-0.orc" :=
  ⟨plannedTaken, rfl, accepted_planned.passes _ (List.mem_singleton_self _), List.mem_singleton_self _⟩

/-- The result of the planned INSERT, and that of another task. -/
def bothResults : List DistributedWriteTaskResult := [plannedResult, otherResult plannedTransport]

theorem opens_other_planned : Opens insertOperation (otherResult plannedTransport) (otherFragment plannedTransport)
    (otherEnvelope plannedTransport) [some "data-1.orc"] where
  fragmentId := by decide +kernel
  artifacts := rfl
  byteCount := rfl
  payload := deserializeCommitEnvelope_serializeCommitEnvelope binaryFormat_lawful (by decide +kernel)
  agrees := by decide +kernel
  decoded := by decide +kernel

theorem accepted_both_planned : Accepted insertOperation [plannedTaken, otherTaken plannedTransport] :=
  accepted_other accepted_planned opens_other_planned rfl rfl rfl rfl

theorem decodeWith_both : decodeWith runtime .counting decodeReplies plannedTransport bothResults =
    (.ok (), ⟨["data-0.orc", "data-1.orc"], 4⟩) := by
  have hdecodable : Decodable runtime info plannedTransport (writeTransport runtime plannedTransport) :=
    ⟨by decide +kernel, serializeTransport_planned⟩
  have hinfo : decodeReplies.resolvedInfo = .ok info := rfl
  have htasks : ([plannedTaken, otherTaken plannedTransport].map (·.logicalTaskId)).Nodup := by decide
  have hrows : ([plannedTaken, otherTaken plannedTransport].map (·.rowCount.toNat)).sum = (4 : UInt64).toNat := rfl
  exact decodeWith_accepts hinfo hdecodable accepted_both_planned htasks hrows

theorem decodesAll_both : DecodesAll insertOperation decodeReplies bothResults := by
  refine ⟨⟨_, rfl⟩, rfl, by decide +kernel, fun result hresult m hpasses => ?_⟩
  have hresolved : decodeReplies.resolvedInfo = .ok info := rfl
  refine ((mem_decoded_iff hresolved serializeTransport_planned decodeWith_both m).1 ?_).2
  obtain ⟨taken, hresult', passes, hm⟩ := hpasses
  rcases List.mem_cons.1 hresult with rfl | hresult
  · cases passes.unique (accepted_both_planned.passes _ (.head _)) hresult'
    rw [List.mem_singleton.1 hm]
    exact .head _
  · cases List.mem_singleton.1 hresult
    cases passes.unique (accepted_both_planned.passes _ (.tail _ (.head _))) hresult'
    rw [List.mem_singleton.1 hm]
    exact .tail _ (.head _)

/-- A result of another operator, by another task. -/
def rejectedResult : DistributedWriteTaskResult :=
  { plannedResult with taskAttemptId := "q.1.1.0", capability := ⟨"paimon", "ctas", protocolVersion⟩ }

theorem not_enters_rejected {logicalTaskId : String} : ¬Enters insertOperation rejectedResult logicalTaskId := by
  intro h
  have hcapability := h.capability
  revert hcapability
  decide

theorem not_reaches_rejected {m : String} : ¬Reaches insertOperation [rejectedResult, plannedResult] m := by
  rintro ⟨takens, result, rest, hresults, accepted, salvaged⟩
  cases takens with
  | nil =>
    obtain ⟨rfl, -⟩ := List.cons.inj hresults
    obtain ⟨_, _, _, _, enters, -⟩ := salvaged
    exact not_enters_rejected enters
  | cons taken takens =>
    obtain ⟨hresult, -⟩ := List.cons.inj hresults
    have hresult : taken.result = rejectedResult := hresult.symm
    have henters := (accepted.passes taken (List.mem_cons_self ..)).enters
    rw [hresult] at henters
    exact not_enters_rejected henters

end Sample

/-- An abort of two results cleans up their messages. -/
theorem failed_write_cleans_up_iff_sample :
    CleansUp Sample.insertOperation Sample.bothResults
        ((Sample.aborting Sample.bothResults).events Sample.runtime .counting) ∧
      "data-1.orc" ∈ abortedBy ((Sample.aborting Sample.bothResults).events Sample.runtime .counting) := by
  have hinfo (resolved : DistributedExtensionWriteInfo) (h : Sample.decodeReplies.resolvedInfo = .ok resolved) :
      resolved = Sample.info := (Except.ok.inj h).symm
  have hcleans := ((failed_write_cleans_up_iff (p := Sample.aborting Sample.bothResults) Sample.entering_prepared
    Sample.coordinatorTransport_planned hinfo).2 rfl).2 (.inr Sample.decodesAll_both)
  have hother := Sample.accepted_both_planned.passes _ (.tail _ (.head _))
  exact ⟨hcleans, hcleans _ (.tail _ (.head _)) _ ⟨_, rfl, hother, .head _⟩⟩

/-- Behind a rejected result the message is not cleaned up. -/
theorem not_cleansUp_rejected : PassesAlone Sample.insertOperation Sample.plannedResult "data-0.orc" ∧
    "data-0.orc" ∉ abortedBy
      ((Sample.aborting [Sample.rejectedResult, Sample.plannedResult]).events Sample.runtime .counting) := by
  refine ⟨Sample.passesAlone_planned, ?_⟩
  obtain ⟨-, r, hdoes⟩ :=
    (Sample.aborting [Sample.rejectedResult, Sample.plannedResult]).after_abort Sample.runtime .counting rfl
  rcases hdecodes : decodeWith Sample.runtime .counting Sample.decodeReplies Sample.plannedTransport
    [Sample.rejectedResult, Sample.plannedResult] with ⟨outcome, decoded⟩
  have hresolved : Sample.decodeReplies.resolvedInfo = .ok Sample.info := rfl
  rw [(hdoes.hands Sample.entering_prepared (List.cons_ne_nil _ _)
    ⟨Sample.coordinatorTransport_planned, ⟨_, rfl⟩, hdecodes⟩).aborted,
    mem_decoded_iff hresolved Sample.serializeTransport_planned hdecodes]
  exact fun h => Sample.not_reaches_rejected h.2

end DuckPaimon.Write
