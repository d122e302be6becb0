/-
What the decoding loop accepts and what it collects. A result passes on its own account (`Passes`)
or not, and the accepted ones must fit together (`Compatible`); the accumulators are determined by
the results accepted so far (`Describes`), so acceptance of a list is these two conditions.
-/
import DuckPaimon.Write.Decode
import Mathlib.Data.List.Nodup

namespace DuckPaimon.Write

open Outcome

/-! ## A result on its own -/

/-- The operation whose results are decoded. -/
structure Operation (Message : Type) where
  rt : Runtime
  vane : Vane
  codec : MessageCodec Message
  info : DistributedExtensionWriteInfo
  transport : InsertTransport
  serializedTransport : String

/-- What decoding takes from a result: its logical task, its messages with their canonical
serializations, and its rows. -/
structure Taken (Message : Type) where
  result : DistributedWriteTaskResult
  logicalTaskId : String
  entries : List (Message × String) := []
  rowCount : UInt64 := 0

namespace Taken

variable {Message : Type}

/-- The messages of a result. -/
def messages (taken : Taken Message) : List Message := taken.entries.map Prod.fst

/-- The canonical serializations of a result's messages. -/
def canonical (taken : Taken Message) : List String := taken.entries.map Prod.snd

end Taken

section Passes

variable {Message : Type} (op : Operation Message)

/-- The checks before the fragments. -/
structure Enters (result : DistributedWriteTaskResult) (logicalTaskId : String) : Prop where
  valid : op.vane.validateResult result = .ok ()
  capability : result.capability = op.info.capability
  fragmentCodec : result.fragmentCodec = op.info.fragmentCodec
  task : vaneLogicalTaskIdentity result.queryId result.taskAttemptId = .ok logicalTaskId

/-- The checks of the only fragment, up to its messages. -/
structure Opens (result : DistributedWriteTaskResult) (fragment : DistributedWriteFragment)
    (envelope : CommitEnvelope) (messages : List (Option Message)) : Prop where
  fragmentId : fragment.fragmentId = expectedFragmentId op.transport.operationId result.taskAttemptId
  artifacts : fragment.artifacts = []
  byteCount : fragment.byteCount = 0
  payload : deserializeCommitEnvelope op.rt fragment.payload = .ok envelope
  agrees : ¬EnvelopeMismatch op.rt op.vane op.codec op.transport op.serializedTransport result fragment envelope
  decoded : deserializeMessages op.codec envelope = .ok messages

/-- A non-null message with its canonical serialization. -/
def Canonical (codec : MessageCodec Message) (message : Option Message) (entry : Message × String) : Prop :=
  message = some entry.1 ∧ codec.serialize entry.1 = .ok entry.2

/-- The fragments of a result hold exactly the messages and rows taken from it. -/
inductive Holds (taken : Taken Message) : Prop
  | none (fragments : taken.result.fragments = []) (rowCount : op.vane.rowCount taken.result = 0)
      (byteCount : op.vane.byteCount taken.result = 0) (entries : taken.entries = []) (rows : taken.rowCount = 0)
  | some (fragment : DistributedWriteFragment) (envelope : CommitEnvelope) (messages : List (Option Message))
      (fragments : taken.result.fragments = [fragment]) (opens : Opens op taken.result fragment envelope messages)
      (entries : List.Forall₂ (Canonical op.codec) messages taken.entries) (rows : taken.rowCount = envelope.rowCount)

/-- A result passes all checks that look at it alone. -/
structure Passes (taken : Taken Message) : Prop where
  enters : Enters op taken.result taken.logicalTaskId
  holds : Holds op taken
  distinct : taken.canonical.Nodup

end Passes

/-! ## Results together -/

/-- Results that fit together: of one query, of distinct attempts, without a repeated message, and
with a total row count that fits. -/
structure Compatible {Message : Type} (takens : List (Taken Message)) : Prop where
  query : ∀ a ∈ takens, ∀ b ∈ takens, a.result.queryId = b.result.queryId
  attempts : (takens.map (·.result.taskAttemptId)).Nodup
  canonical : (takens.flatMap Taken.canonical).Nodup
  rows : (takens.map (·.rowCount.toNat)).sum < idxLimit

/-- The accumulators after the results `takens`. -/
structure Describes {Message : Type} (operationId : String) (takens : List (Taken Message))
    (state : DecodeState Message) : Prop where
  noQuery : takens = [] → state.queryId = ""
  query : ∀ taken ∈ takens, state.queryId = taken.result.queryId
  attempts : state.taskAttemptIds = takens.map (·.result.taskAttemptId)
  logicalTasks : state.logicalTaskIds = takens.map (·.logicalTaskId)
  duplicate : state.duplicateLogicalTaskId = "" ↔ (takens.map (·.logicalTaskId)).Nodup
  fragments : ∀ id ∈ state.fragmentIds, ∃ taken ∈ takens,
    id = expectedFragmentId operationId taken.result.taskAttemptId
  canonical : state.canonicalMessages = takens.flatMap Taken.canonical
  messages : state.decoded.messages = takens.flatMap Taken.messages
  rows : state.decoded.rowCount.toNat = (takens.map (·.rowCount.toNat)).sum

/-- Results each of which passes, and which fit together. -/
structure Accepted {Message : Type} (op : Operation Message) (takens : List (Taken Message)) : Prop where
  passes : ∀ taken ∈ takens, Passes op taken
  compatible : Compatible takens

theorem accepted_nil {Message : Type} (op : Operation Message) : Accepted op [] :=
  ⟨nofun, nofun, List.nodup_nil, List.nodup_nil, toNat_lt_idxLimit 0⟩

theorem accepted_append {Message : Type} {op : Operation Message} {takens : List (Taken Message)}
    (h : Accepted op takens) (taken : Taken Message) :
    Accepted op (takens ++ [taken]) ↔
      Passes op taken ∧ (∀ a ∈ takens, a.result.queryId = taken.result.queryId) ∧
        taken.result.taskAttemptId ∉ takens.map (·.result.taskAttemptId) ∧
        (takens.flatMap Taken.canonical ++ taken.canonical).Nodup ∧
        (takens.map (·.rowCount.toNat)).sum + taken.rowCount.toNat < idxLimit := by
  have hself : taken ∈ takens ++ [taken] := List.mem_append_right _ (List.mem_singleton_self _)
  have hold {a : Taken Message} (ha : a ∈ takens) : a ∈ takens ++ [taken] := List.mem_append_left _ ha
  constructor
  · rintro ⟨passes, query, attempts, canonical, rows⟩
    refine ⟨passes taken hself, fun a ha => query a (hold ha) taken hself, ?_, ?_, ?_⟩
    · rw [List.map_append, List.nodup_append] at attempts
      exact fun hmem => attempts.2.2 _ hmem _ (List.mem_singleton_self _) rfl
    · simpa [List.flatMap_append] using canonical
    · simpa [List.map_append, List.sum_append] using rows
  · rintro ⟨hpasses, hquery, hattempt, hcanonical, hrows⟩
    refine ⟨fun a ha => ?_, fun a ha b hb => ?_, ?_, ?_, ?_⟩
    · rcases List.mem_append.1 ha with ha | ha
      · exact h.passes a ha
      · rw [List.mem_singleton.1 ha]; exact hpasses
    · have hall {c : Taken Message} (hc : c ∈ takens ++ [taken]) : c.result.queryId = taken.result.queryId := by
        rcases List.mem_append.1 hc with hc | hc
        · exact hquery c hc
        · rw [List.mem_singleton.1 hc]
      rw [hall ha, hall hb]
    · rw [List.map_append, List.nodup_append]
      refine ⟨h.compatible.attempts, List.nodup_singleton _, ?_⟩
      rintro a ha b hb rfl
      rw [List.mem_singleton.1 hb] at ha
      exact hattempt ha
    · simpa [List.flatMap_append] using hcanonical
    · simpa [List.map_append, List.sum_append] using hrows

/-- A result that passes is accepted alone. -/
theorem accepted_singleton {Message : Type} {op : Operation Message} {taken : Taken Message} (passes : Passes op taken) :
    Accepted op [taken] := by
  refine (accepted_append (accepted_nil op) taken).2 ⟨passes, nofun, List.not_mem_nil, passes.distinct, ?_⟩
  rw [List.map_nil, List.sum_nil, Nat.zero_add]
  exact toNat_lt_idxLimit _

theorem describes_nil {Message : Type} (operationId : String) :
    Describes operationId ([] : List (Taken Message)) {} := by
  refine ⟨fun _ => rfl, nofun, rfl, rfl, ?_, nofun, rfl, rfl, rfl⟩
  exact iff_of_true rfl List.nodup_nil

theorem expectedFragmentId_inj {operationId a b : String}
    (h : expectedFragmentId operationId a = expectedFragmentId operationId b) : a = b := by
  unfold expectedFragmentId at h
  rw [String.append_assoc, String.append_assoc] at h
  have := congrArg String.toList h
  simp only [String.toList_append, List.append_cancel_left_eq] at this
  exact String.toList_inj.1 this

/-! ## The messages of a fragment -/

section Messages

variable {Message : Type} (codec : MessageCodec Message)

/-- The messages the loop collects before it is done or refuses one, given the serializations it
has seen. -/
def leading (seen : List String) : List (Option Message) → List (Message × String)
  | some message :: messages =>
    match codec.serialize message with
    | .ok canonical =>
      if canonical ∈ seen then [] else (message, canonical) :: leading (seen ++ [canonical]) messages
    | .error _ => []
  | _ => []

/-- The accumulators after collecting `entries`. -/
def DecodeState.collect (state : DecodeState Message) (entries : List (Message × String)) : DecodeState Message :=
  { state with
    canonicalMessages := state.canonicalMessages ++ entries.map Prod.snd,
    decoded := { state.decoded with messages := state.decoded.messages ++ entries.map Prod.fst } }

@[simp] theorem DecodeState.collect_nil (state : DecodeState Message) : state.collect [] = state := by
  simp [collect]

theorem DecodeState.collect_cons (state : DecodeState Message) (entry : Message × String)
    (entries : List (Message × String)) : state.collect (entry :: entries) = (state.collect [entry]).collect entries := by
  simp [collect]

/-- The loop over the messages collects the leading ones and returns when these are all. -/
theorem wp_decodeMessages (messages : List (Option Message)) (state : DecodeState Message) :
    (decodeMessages codec messages).wp state fun r state' _ =>
      state' = state.collect (leading codec state.canonicalMessages messages) ∧
        (r = .ok () ↔ (leading codec state.canonicalMessages messages).length = messages.length) := by
  induction messages generalizing state with
  | nil => simp [decodeMessages, leading]
  | cons message messages ih =>
    cases message with
    | none => simp [decodeMessages, leading]
    | some message =>
      rw [decodeMessages, leading]
      cases hserialize : codec.serialize message with
      | error status => simp
      | ok canonical =>
        by_cases hseen : canonical ∈ state.canonicalMessages
        · simp [hseen]
        · have hrest := ih (state.collect [(message, canonical)])
          simp only [Proc.wp_bind, Proc.wp_get, Proc.wp_throwIf, hseen, if_false, Proc.wp_modify]
          refine Proc.wp_mono hrest ?_
          rintro r state' l ⟨rfl, hok⟩
          refine ⟨(DecodeState.collect_cons ..).symm, ?_⟩
          rw [hok, List.length_cons, List.length_cons, Nat.add_right_cancel_iff]
          rfl

variable {codec}

theorem mem_of_mem_leading {message : Message} {seen : List String} {messages : List (Option Message)}
    (h : message ∈ (leading codec seen messages).map Prod.fst) : some message ∈ messages := by
  induction messages generalizing seen with
  | nil => cases h
  | cons head messages ih =>
    cases head with
    | none => cases h
    | some head =>
      rw [leading] at h
      split at h
      · split at h
        · cases h
        · rcases List.mem_cons.1 h with rfl | h
          · exact List.mem_cons_self ..
          · exact List.mem_cons_of_mem _ (ih h)
      · cases h

theorem leading_canonical {seen : List String} {messages : List (Option Message)}
    (h : (leading codec seen messages).length = messages.length) :
    List.Forall₂ (Canonical codec) messages (leading codec seen messages) ∧
      (seen.Nodup → (seen ++ (leading codec seen messages).map Prod.snd).Nodup) := by
  induction messages generalizing seen with
  | nil => exact ⟨.nil, fun hseen => by simpa [leading] using hseen⟩
  | cons message messages ih =>
    cases message with
    | none => simp [leading] at h
    | some message =>
      rw [leading] at h ⊢
      cases hserialize : codec.serialize message with
      | error status => rw [hserialize] at h; simp at h
      | ok canonical =>
        rw [hserialize] at h
        dsimp only at h ⊢
        by_cases hin : canonical ∈ seen
        · simp [hin] at h
        · rw [if_neg hin] at h ⊢
          obtain ⟨hall, hnodup⟩ := ih (Nat.add_right_cancel h)
          refine ⟨.cons ⟨rfl, hserialize⟩ hall, fun hseen => ?_⟩
          rw [List.map_cons, List.append_cons]
          refine hnodup ?_
          rw [List.nodup_append]
          refine ⟨hseen, List.nodup_singleton _, ?_⟩
          rintro a ha b hb rfl
          exact hin (List.mem_singleton.1 hb ▸ ha)

theorem leading_eq {seen : List String} {messages : List (Option Message)} {entries : List (Message × String)}
    (h : List.Forall₂ (Canonical codec) messages entries) (hnodup : (seen ++ entries.map Prod.snd).Nodup) :
    leading codec seen messages = entries := by
  induction h generalizing seen with
  | nil => rfl
  | @cons message entry messages entries hd _ ih =>
    obtain ⟨rfl, hserialize⟩ := hd
    rw [List.map_cons] at hnodup
    have hin : entry.2 ∉ seen := fun hin =>
      (List.nodup_append.1 hnodup).2.2 _ hin _ (List.mem_cons_self ..) rfl
    rw [leading, hserialize]
    dsimp only
    rw [if_neg hin, ih (by rwa [List.append_cons] at hnodup)]

end Messages

/-! ## One result -/

section Result

variable {Message : Type} (op : Operation Message)

/-- The accumulators after the checks before the fragments. -/
def DecodeState.enter (state : DecodeState Message) (result : DistributedWriteTaskResult) (logicalTaskId : String) :
    DecodeState Message :=
  { state with
    queryId := result.queryId,
    taskAttemptIds := state.taskAttemptIds ++ [result.taskAttemptId],
    duplicateLogicalTaskId :=
      if logicalTaskId ∈ state.logicalTaskIds ∧ state.duplicateLogicalTaskId = "" then logicalTaskId
      else state.duplicateLogicalTaskId,
    logicalTaskIds := state.logicalTaskIds ++ [logicalTaskId] }

/-- The accumulators admit a result: its query is theirs and its attempt is new. -/
def DecodeState.Admits (state : DecodeState Message) (result : DistributedWriteTaskResult) : Prop :=
  (state.queryId = "" ∨ state.queryId = result.queryId) ∧ result.taskAttemptId ∉ state.taskAttemptIds

/-- The checks before the fragments pass exactly for a result that enters and is admitted; the
messages collected so far stay. -/
theorem wp_enterResult (state : DecodeState Message) (result : DistributedWriteTaskResult) :
    (enterResult op.vane op.info result).wp state fun r state' _ =>
      state'.decoded = state.decoded ∧ state'.canonicalMessages = state.canonicalMessages ∧
        ((∃ e, r = .error e) ∧ (¬∃ logicalTaskId, Enters op result logicalTaskId ∧ state.Admits result) ∨
          r = .ok () ∧ ∃ logicalTaskId, Enters op result logicalTaskId ∧ state.Admits result ∧
            state' = state.enter result logicalTaskId) := by
  unfold enterResult
  simp only [Proc.wp_bind, Proc.wp_ofExcept, Proc.wp_throwIf, Proc.wp_get, Proc.wp_modify]
  cases hvalid : op.vane.validateResult result with
  | error e =>
    refine ⟨trivial, trivial, .inl ⟨⟨e, rfl⟩, ?_⟩⟩
    rintro ⟨_, enters, _⟩
    cases hvalid.symm.trans enters.valid
  | ok u =>
    dsimp only
    by_cases hcontract : result.capability ≠ op.info.capability ∨ result.fragmentCodec ≠ op.info.fragmentCodec
    · rw [if_pos hcontract]
      refine ⟨trivial, trivial, .inl ⟨⟨_, rfl⟩, ?_⟩⟩
      rintro ⟨_, enters, _⟩
      exact hcontract.elim (· enters.capability) (· enters.fragmentCodec)
    · rw [if_neg hcontract]
      by_cases hquery : state.queryId ≠ "" ∧ state.queryId ≠ result.queryId
      · rw [if_pos hquery]
        refine ⟨trivial, trivial, .inl ⟨⟨_, rfl⟩, ?_⟩⟩
        rintro ⟨_, _, admits⟩
        exact admits.1.elim hquery.1 hquery.2
      · rw [if_neg hquery]
        by_cases hattempt : result.taskAttemptId ∈ state.taskAttemptIds
        · rw [if_pos hattempt]
          refine ⟨trivial, trivial, .inl ⟨⟨_, rfl⟩, ?_⟩⟩
          rintro ⟨_, _, admits⟩
          exact admits.2 hattempt
        · rw [if_neg hattempt]
          cases htask : vaneLogicalTaskIdentity result.queryId result.taskAttemptId with
          | error e =>
            refine ⟨trivial, trivial, .inl ⟨⟨e, rfl⟩, ?_⟩⟩
            rintro ⟨_, enters, _⟩
            cases htask.symm.trans enters.task
          | ok logicalTaskId =>
            rw [not_or, not_not, not_not] at hcontract
            refine ⟨trivial, trivial, .inr ⟨trivial, logicalTaskId, ⟨hvalid, hcontract.1, hcontract.2, htask⟩,
              ⟨?_, hattempt⟩, rfl⟩⟩
            by_contra hnot
            rw [not_or] at hnot
            exact hquery hnot

/-- The only fragment of a result opens when it passes its checks and its id is new. -/
theorem wp_openFragment (state : DecodeState Message) (result : DistributedWriteTaskResult)
    (fragment : DistributedWriteFragment) :
    (openFragment op.rt op.vane op.codec op.transport op.serializedTransport result fragment).wp state
      fun r state' _ =>
        state' = { state with fragmentIds := state'.fragmentIds } ∧
          ((∃ e, r = .error e) ∧
              ¬(∃ envelope messages, Opens op result fragment envelope messages ∧
                fragment.fragmentId ∉ state.fragmentIds) ∨
            ∃ envelope messages, r = .ok (envelope, messages) ∧ Opens op result fragment envelope messages ∧
              fragment.fragmentId ∉ state.fragmentIds ∧
              state' = { state with fragmentIds := state.fragmentIds ++ [fragment.fragmentId] }) := by
  unfold openFragment
  simp only [Proc.wp_bind, Proc.wp_ofExcept, Proc.wp_throwIf, Proc.wp_get, Proc.wp_modify, Proc.wp_pure]
  by_cases hid : fragment.fragmentId ≠ expectedFragmentId op.transport.operationId result.taskAttemptId
  · rw [if_pos hid]
    refine ⟨trivial, .inl ⟨⟨_, rfl⟩, ?_⟩⟩
    rintro ⟨_, _, opens, _⟩
    exact hid opens.fragmentId
  · rw [if_neg hid]
    rw [not_not] at hid
    by_cases hmetadata : fragment.fragmentId ∈ state.fragmentIds ∨ fragment.artifacts ≠ [] ∨ fragment.byteCount ≠ 0
    · rw [if_pos hmetadata]
      refine ⟨trivial, .inl ⟨⟨_, rfl⟩, ?_⟩⟩
      rintro ⟨_, _, opens, hnew⟩
      exact hmetadata.elim hnew (·.elim (· opens.artifacts) (· opens.byteCount))
    · rw [if_neg hmetadata]
      rw [not_or, not_or, not_not, not_not] at hmetadata
      obtain ⟨hnew, hartifacts, hbytes⟩ := hmetadata
      cases hpayload : deserializeCommitEnvelope op.rt fragment.payload with
      | error e =>
        refine ⟨trivial, .inl ⟨⟨e, rfl⟩, ?_⟩⟩
        rintro ⟨_, _, opens, _⟩
        cases hpayload.symm.trans opens.payload
      | ok envelope =>
        dsimp only
        by_cases hmismatch : EnvelopeMismatch op.rt op.vane op.codec op.transport op.serializedTransport result
            fragment envelope
        · rw [if_pos hmismatch]
          refine ⟨trivial, .inl ⟨⟨_, rfl⟩, ?_⟩⟩
          rintro ⟨_, _, opens, _⟩
          cases hpayload.symm.trans opens.payload
          exact opens.agrees hmismatch
        · rw [if_neg hmismatch]
          cases hdecoded : deserializeMessages op.codec envelope with
          | error e =>
            refine ⟨trivial, .inl ⟨⟨e, rfl⟩, ?_⟩⟩
            rintro ⟨_, _, opens, _⟩
            cases hpayload.symm.trans opens.payload
            cases hdecoded.symm.trans opens.decoded
          | ok messages =>
            exact ⟨trivial, .inr ⟨envelope, messages, rfl, ⟨hid, hartifacts, hbytes, hpayload, hmismatch, hdecoded⟩,
              hnew, trivial⟩⟩

variable {op}

/-- The accumulators admit exactly the results whose query and attempt fit the accepted ones. -/
theorem Describes.admits_iff {takens : List (Taken Message)} {state : DecodeState Message}
    (h : Describes op.transport.operationId takens state) (accepted : Accepted op takens)
    (result : DistributedWriteTaskResult) :
    state.Admits result ↔ (∀ a ∈ takens, a.result.queryId = result.queryId) ∧
      result.taskAttemptId ∉ takens.map (·.result.taskAttemptId) := by
  unfold DecodeState.Admits
  rw [h.attempts]
  refine and_congr_left fun _ => ?_
  constructor
  · rintro (hempty | hquery) a ha
    · exact absurd ((h.query a ha).symm.trans hempty) (queryId_ne_empty (accepted.passes a ha).enters.task)
    · rw [← hquery, h.query a ha]
  · intro hall
    cases takens with
    | nil => exact .inl (h.noQuery rfl)
    | cons a takens =>
      have ha : a ∈ a :: takens := List.mem_cons_self ..
      exact .inr ((h.query a ha).trans (hall a ha))

/-- The accumulators after one more accepted result. -/
theorem Describes.append {takens : List (Taken Message)} {state : DecodeState Message} {taken : Taken Message}
    (h : Describes op.transport.operationId takens state) (accepted : Accepted op (takens ++ [taken]))
    (fragmentIds : List String) (rowCount : UInt64)
    (hfragments : ∀ id ∈ fragmentIds, id ∈ state.fragmentIds ∨
      id = expectedFragmentId op.transport.operationId taken.result.taskAttemptId)
    (hrows : rowCount.toNat = state.decoded.rowCount.toNat + taken.rowCount.toNat) :
    Describes op.transport.operationId (takens ++ [taken])
      { state.enter taken.result taken.logicalTaskId with
        fragmentIds,
        canonicalMessages := state.canonicalMessages ++ taken.canonical,
        decoded := { messages := state.decoded.messages ++ taken.messages, rowCount } } := by
  have hself : taken ∈ takens ++ [taken] := List.mem_append_right _ (List.mem_singleton_self _)
  refine ⟨fun hnil => ?_, fun a ha => ?_, ?_, ?_, ?_, fun id hid => ?_, ?_, ?_, ?_⟩
  · cases List.append_eq_nil_iff.1 hnil |>.2
  · exact accepted.compatible.query taken hself a ha
  · simp [DecodeState.enter, h.attempts]
  · simp [DecodeState.enter, h.logicalTasks]
  · have hne : taken.logicalTaskId ≠ "" := by
      intro hempty
      have htask := (accepted.passes taken hself).enters.task
      rw [hempty] at htask
      exact logicalTaskId_ne_empty htask rfl
    have hnodup : ((takens ++ [taken]).map (·.logicalTaskId)).Nodup ↔
        state.duplicateLogicalTaskId = "" ∧ taken.logicalTaskId ∉ takens.map (·.logicalTaskId) := by
      rw [h.duplicate, List.map_append, List.nodup_append_comm]
      exact List.nodup_cons.trans and_comm
    rw [hnodup]
    simp only [DecodeState.enter, h.logicalTasks]
    split
    · rename_i hdup
      exact iff_of_false hne fun hno => hno.2 hdup.1
    · rename_i hdup
      exact ⟨fun hempty => ⟨hempty, fun hmem => hdup ⟨hmem, hempty⟩⟩, fun hno => hno.1⟩
  · rcases hfragments id hid with hid | hid
    · obtain ⟨a, ha, heq⟩ := h.fragments id hid
      exact ⟨a, List.mem_append_left _ ha, heq⟩
    · exact ⟨taken, hself, hid⟩
  · simp [h.canonical, List.flatMap_append]
  · simp [h.messages, List.flatMap_append]
  · simp [hrows, h.rows, List.map_append, List.sum_append]

/-- A message is collected from a result that comes after `takens`, whether or not the result is
accepted: the result enters and opens, and the message stands before any that is refused. -/
def Salvaged (op : Operation Message) (takens : List (Taken Message)) (result : DistributedWriteTaskResult)
    (message : Message) : Prop :=
  ∃ logicalTaskId fragment envelope messages, Enters op result logicalTaskId ∧
    (∀ a ∈ takens, a.result.queryId = result.queryId) ∧
    result.taskAttemptId ∉ takens.map (·.result.taskAttemptId) ∧
    result.fragments = [fragment] ∧ Opens op result fragment envelope messages ∧
    message ∈ (leading op.codec (takens.flatMap Taken.canonical) messages).map Prod.fst

/-- What the loop leaves after a result that comes after the accepted `takens`. -/
inductive Leaves (op : Operation Message) (takens : List (Taken Message)) (result : DistributedWriteTaskResult)
    (r : Except Exception Unit) (state : DecodeState Message) : Prop
  | accepts (taken : Taken Message) (ok : r = .ok ()) (of : taken.result = result)
      (accepted : Accepted op (takens ++ [taken]))
      (describes : Describes op.transport.operationId (takens ++ [taken]) state)
  | refuses (e : Exception) (error : r = .error e)
      (not : ¬∃ taken : Taken Message, taken.result = result ∧ Accepted op (takens ++ [taken]))
      (messages : ∀ m, m ∈ state.decoded.messages ↔ m ∈ takens.flatMap Taken.messages ∨ Salvaged op takens result m)

theorem Opens.unique {result : DistributedWriteTaskResult} {fragment : DistributedWriteFragment}
    {envelope envelope' : CommitEnvelope} {messages messages' : List (Option Message)}
    (h : Opens op result fragment envelope messages) (h' : Opens op result fragment envelope' messages') :
    envelope = envelope' ∧ messages = messages' := by
  cases h.payload.symm.trans h'.payload
  cases h.decoded.symm.trans h'.decoded
  exact ⟨rfl, rfl⟩

/-- Nothing is salvaged from a result without exactly one fragment. -/
theorem not_salvaged_of_fragments {takens : List (Taken Message)} {result : DistributedWriteTaskResult}
    (h : ∀ fragment, result.fragments ≠ [fragment]) (m : Message) : ¬Salvaged op takens result m :=
  fun ⟨_, fragment, _, _, _, _, _, hfragment, _⟩ => h fragment hfragment

theorem leaves_of_not_entered {takens : List (Taken Message)} {state : DecodeState Message}
    (describes : Describes op.transport.operationId takens state) (accepted : Accepted op takens)
    {result : DistributedWriteTaskResult}
    (hnot : ¬∃ logicalTaskId, Enters op result logicalTaskId ∧ state.Admits result) {state' : DecodeState Message}
    (hdecoded : state'.decoded = state.decoded) (e : Exception) :
    Leaves op takens result (.error e) state' := by
  refine .refuses e rfl ?_ fun m => ?_
  · rintro ⟨taken, rfl, haccepted⟩
    obtain ⟨hpasses, hquery, hattempt, -⟩ := (accepted_append accepted taken).1 haccepted
    exact hnot ⟨_, hpasses.enters, (describes.admits_iff accepted _).2 ⟨hquery, hattempt⟩⟩
  · rw [hdecoded, describes.messages]
    refine (or_iff_left ?_).symm
    rintro ⟨logicalTaskId, _, _, _, enters, hquery, hattempt, -⟩
    exact hnot ⟨logicalTaskId, enters, (describes.admits_iff accepted _).2 ⟨hquery, hattempt⟩⟩

/-- Nothing is taken from a result whose fragments are refused. -/
theorem leaves_of_fragments_refused {takens : List (Taken Message)} {state : DecodeState Message}
    (describes : Describes op.transport.operationId takens state)
    {result : DistributedWriteTaskResult} (hnot : ∀ taken : Taken Message, taken.result = result → ¬Holds op taken)
    (hone : ∀ fragment, result.fragments ≠ [fragment]) {state' : DecodeState Message}
    (hdecoded : state'.decoded = state.decoded) (e : Exception) : Leaves op takens result (.error e) state' := by
  refine .refuses e rfl ?_ fun m => ?_
  · rintro ⟨taken, hresult, haccepted⟩
    exact hnot taken hresult
      (haccepted.passes taken (List.mem_append_right _ (List.mem_singleton_self _))).holds
  · rw [hdecoded, describes.messages]
    exact (or_iff_left (not_salvaged_of_fragments hone m)).symm

/-- The fragment id of a new attempt is new. -/
theorem Describes.fragmentId_new {takens : List (Taken Message)} {state : DecodeState Message}
    (describes : Describes op.transport.operationId takens state) {result : DistributedWriteTaskResult}
    (hattempt : result.taskAttemptId ∉ takens.map (·.result.taskAttemptId)) {fragment : DistributedWriteFragment}
    {envelope : CommitEnvelope} {messages : List (Option Message)} (opens : Opens op result fragment envelope messages) :
    fragment.fragmentId ∉ state.fragmentIds := by
  intro hmem
  obtain ⟨a, ha, heq⟩ := describes.fragments _ hmem
  rw [opens.fragmentId] at heq
  rw [expectedFragmentId_inj heq] at hattempt
  exact hattempt (List.mem_map_of_mem ha)

/-- The contents of an accepted result are those of its opened fragment. -/
theorem Holds.of_opens {taken : Taken Message} (h : Holds op taken) {fragment : DistributedWriteFragment}
    (hfragments : taken.result.fragments = [fragment]) :
    ∃ envelope messages, Opens op taken.result fragment envelope messages ∧
      List.Forall₂ (Canonical op.codec) messages taken.entries ∧ taken.rowCount = envelope.rowCount := by
  cases h with
  | none fragments => rw [fragments] at hfragments; cases hfragments
  | some fragment' envelope messages fragments opens entries rows =>
    rw [fragments] at hfragments
    cases hfragments
    exact ⟨envelope, messages, opens, entries, rows⟩

/-- The rows are added exactly when the total fits. -/
theorem wp_addRowCount (rowCount : UInt64) (state : DecodeState Message) :
    (addRowCount rowCount).wp state fun r state' _ =>
      (∃ e, r = .error e ∧ state' = state ∧ idxLimit ≤ state.decoded.rowCount.toNat + rowCount.toNat) ∨
        (∃ total : UInt64, r = .ok () ∧ total.toNat = state.decoded.rowCount.toNat + rowCount.toNat ∧
          state' = state.setRowCount total) := by
  unfold addRowCount
  simp only [Proc.wp_bind, Proc.wp_get, Proc.wp_ofExcept, Proc.wp_modify]
  cases hadd : checkedAdd state.decoded.rowCount rowCount "selected row count" with
  | error e =>
    refine .inl ⟨e, rfl, trivial, ?_⟩
    by_contra hfits
    rw [checkedAdd_ok _ (Nat.lt_of_not_le hfits)] at hadd
    cases hadd
  | ok total => exact .inr ⟨total, trivial, checkedAdd_eq_ok.1 hadd, rfl⟩

section Fragment

variable {takens : List (Taken Message)} {state : DecodeState Message} {result : DistributedWriteTaskResult}
  {logicalTaskId : String} {fragment : DistributedWriteFragment} {envelope : CommitEnvelope}
  {messages : List (Option Message)}

/-- An accepted result with this fragment would have its leading messages as entries, and rows that
fit. -/
theorem Accepted.entries_eq (accepted : Accepted op takens) (opens : Opens op result fragment envelope messages)
    (hfragments : result.fragments = [fragment]) {taken : Taken Message} (hresult : taken.result = result)
    (h : Accepted op (takens ++ [taken])) :
    leading op.codec (takens.flatMap Taken.canonical) messages = taken.entries ∧
      (leading op.codec (takens.flatMap Taken.canonical) messages).length = messages.length ∧
        (takens.map (·.rowCount.toNat)).sum + envelope.rowCount.toNat < idxLimit := by
  subst hresult
  obtain ⟨hpasses, -, -, hcanonical, hrows⟩ := (accepted_append accepted taken).1 h
  obtain ⟨envelope', messages', opens', hentries, hcount⟩ := hpasses.holds.of_opens hfragments
  obtain ⟨rfl, rfl⟩ := opens.unique opens'
  have hleading := leading_eq hentries hcanonical
  rw [hcount] at hrows
  exact ⟨hleading, by rw [hleading, hentries.length_eq], hrows⟩

/-- The loop over the messages of an opened fragment refused one of them, or the rows do not fit:
what it collected stays collected. -/
theorem leaves_of_messages_refused (accepted : Accepted op takens)
    (describes : Describes op.transport.operationId takens state) (enters : Enters op result logicalTaskId)
    (hquery : ∀ a ∈ takens, a.result.queryId = result.queryId)
    (hattempt : result.taskAttemptId ∉ takens.map (·.result.taskAttemptId))
    (hfragments : result.fragments = [fragment]) (opens : Opens op result fragment envelope messages)
    (hnot : ¬((leading op.codec (takens.flatMap Taken.canonical) messages).length = messages.length ∧
      (takens.map (·.rowCount.toNat)).sum + envelope.rowCount.toNat < idxLimit))
    {state' : DecodeState Message} (hstate : state'.decoded.messages = state.decoded.messages ++
      (leading op.codec (takens.flatMap Taken.canonical) messages).map Prod.fst) (e : Exception) :
    Leaves op takens result (.error e) state' := by
  refine .refuses e rfl ?_ fun m => ?_
  · rintro ⟨taken, hresult, h⟩
    exact hnot (accepted.entries_eq opens hfragments hresult h).2
  · rw [hstate, List.mem_append, describes.messages]
    refine or_congr_right ⟨fun hm => ?_, ?_⟩
    · exact ⟨logicalTaskId, fragment, envelope, messages, enters, hquery, hattempt, hfragments, opens, hm⟩
    · rintro ⟨_, fragment', envelope', messages', _, _, _, hfragments', opens', hm⟩
      rw [hfragments] at hfragments'
      cases hfragments'
      obtain ⟨rfl, rfl⟩ := opens.unique opens'
      exact hm

theorem wp_decodeFragment (describes : Describes op.transport.operationId takens state)
    (accepted : Accepted op takens) (enters : Enters op result logicalTaskId)
    (hquery : ∀ a ∈ takens, a.result.queryId = result.queryId)
    (hattempt : result.taskAttemptId ∉ takens.map (·.result.taskAttemptId))
    (hfragments : result.fragments = [fragment]) :
    (decodeFragment op.rt op.vane op.codec op.transport op.serializedTransport result fragment).wp
      (state.enter result logicalTaskId) fun r state' _ => Leaves op takens result r state' := by
  unfold decodeFragment
  rw [Proc.wp_bind]
  refine Proc.wp_mono (wp_openFragment op _ result fragment) ?_
  rintro r state' l ⟨hstate, ⟨⟨e, rfl⟩, hnot⟩ | ⟨envelope, messages, rfl, opens, hnew, hstate'⟩⟩
  · have hclosed : ¬∃ envelope messages, Opens op result fragment envelope messages := by
      rintro ⟨envelope, messages, opens⟩
      exact hnot ⟨envelope, messages, opens, describes.fragmentId_new hattempt opens⟩
    refine .refuses e rfl ?_ fun m => ?_
    · rintro ⟨taken, rfl, h⟩
      have hpasses := h.passes taken (List.mem_append_right _ (List.mem_singleton_self _))
      obtain ⟨envelope, messages, opens, -⟩ := hpasses.holds.of_opens hfragments
      exact hclosed ⟨envelope, messages, opens⟩
    · rw [hstate, ← describes.messages]
      refine (or_iff_left ?_).symm
      rintro ⟨_, fragment', envelope, messages, _, _, _, hfragments', opens, _⟩
      rw [hfragments] at hfragments'
      cases hfragments'
      exact hclosed ⟨envelope, messages, opens⟩
  · have hseen : state'.canonicalMessages = takens.flatMap Taken.canonical := by
      rw [hstate', ← describes.canonical]
      rfl
    refine (Proc.wp_bind (decodeMessages op.codec messages) _ state' _).2 ?_
    refine Proc.wp_mono (wp_decodeMessages op.codec messages state') ?_
    rintro r state'' l' ⟨rfl, hok⟩
    rw [hseen] at hok ⊢
    have hcollected : (state'.collect (leading op.codec (takens.flatMap Taken.canonical) messages)).decoded =
        { state.decoded with messages := state.decoded.messages ++
          (leading op.codec (takens.flatMap Taken.canonical) messages).map Prod.fst } := by
      rw [hstate']
      rfl
    cases r with
    | error e =>
      refine leaves_of_messages_refused accepted describes enters hquery hattempt hfragments opens ?_
        (congrArg DecodedCommit.messages hcollected) e
      exact fun hall => by cases hok.2 hall.1
    | ok u =>
      have hlength := hok.1 rfl
      refine Proc.wp_mono (wp_addRowCount envelope.rowCount _) ?_
      rintro r state'' l'' (⟨e, rfl, rfl, hlarge⟩ | ⟨total, rfl, htotal, rfl⟩)
      · refine leaves_of_messages_refused accepted describes enters hquery hattempt hfragments opens ?_
          (congrArg DecodedCommit.messages hcollected) e
        rw [hcollected, describes.rows] at hlarge
        exact fun hall => absurd hall.2 (Nat.not_lt.2 hlarge)
      · obtain ⟨hentries, hnodup⟩ := leading_canonical hlength
        rw [hcollected] at htotal
        let taken : Taken Message :=
          ⟨result, logicalTaskId, leading op.codec (takens.flatMap Taken.canonical) messages, envelope.rowCount⟩
        have hdistinct := hnodup accepted.compatible.canonical
        have haccepted : Accepted op (takens ++ [taken]) := by
          refine (accepted_append accepted taken).2 ⟨⟨enters, ?_, (List.nodup_append.1 hdistinct).2.1⟩, hquery,
            hattempt, hdistinct, ?_⟩
          · exact .some fragment envelope messages hfragments opens hentries rfl
          · rw [← describes.rows]
            exact htotal ▸ toNat_lt_idxLimit total
        refine .accepts taken rfl rfl haccepted ?_
        have hdescribes := describes.append haccepted (state.fragmentIds ++ [fragment.fragmentId]) total ?_ htotal
        · rw [hstate']
          exact hdescribes
        · intro id hid
          rcases List.mem_append.1 hid with hid | hid
          · exact .inl hid
          · exact .inr ((List.mem_singleton.1 hid).trans opens.fragmentId)

/-- A result without fragments that enters is accepted if its counts are zero. -/
theorem leaves_of_no_fragments (describes : Describes op.transport.operationId takens state)
    (accepted : Accepted op takens) (enters : Enters op result logicalTaskId)
    (hquery : ∀ a ∈ takens, a.result.queryId = result.queryId)
    (hattempt : result.taskAttemptId ∉ takens.map (·.result.taskAttemptId))
    (hfragments : result.fragments = []) (hrows : op.vane.rowCount result = 0) (hbytes : op.vane.byteCount result = 0) :
    Leaves op takens result (.ok ()) (state.enter result logicalTaskId) := by
  let taken : Taken Message := { result, logicalTaskId }
  have haccepted : Accepted op (takens ++ [taken]) := by
    refine (accepted_append accepted taken).2 ⟨⟨enters, ?_, List.nodup_nil⟩, hquery, hattempt, ?_, ?_⟩
    · exact .none hfragments hrows hbytes rfl rfl
    · rw [Taken.canonical, List.map_nil, List.append_nil]
      exact accepted.compatible.canonical
    · exact accepted.compatible.rows
  have hdescribes := describes.append haccepted state.fragmentIds state.decoded.rowCount
    (fun _ hid => .inl hid) rfl
  refine .accepts taken rfl rfl haccepted ?_
  rw [Taken.canonical, Taken.messages, List.map_nil, List.map_nil, List.append_nil, List.append_nil] at hdescribes
  exact hdescribes

end Fragment

/-- The body of the loop accepts a result exactly when it passes and fits the accepted ones; of a
refused result it keeps the messages before the refused one. -/
theorem wp_decodeResult {takens : List (Taken Message)} {state : DecodeState Message}
    (describes : Describes op.transport.operationId takens state) (accepted : Accepted op takens)
    (result : DistributedWriteTaskResult) :
    (decodeResult op.rt op.vane op.codec op.info op.transport op.serializedTransport result).wp state
      fun r state' _ => Leaves op takens result r state' := by
  unfold decodeResult
  rw [Proc.wp_bind]
  refine Proc.wp_mono (wp_enterResult op state result) ?_
  rintro r state' l ⟨hdecoded, hcanonical, ⟨⟨e, rfl⟩, hnot⟩ | ⟨rfl, logicalTaskId, enters, admits, rfl⟩⟩
  · exact leaves_of_not_entered describes accepted hnot hdecoded e
  obtain ⟨hquery, hattempt⟩ := (describes.admits_iff accepted result).1 admits
  match hfragments : result.fragments with
  | [] =>
    simp only [decodeFragments, hfragments, Proc.wp_throwIf]
    by_cases hcounts : op.vane.rowCount result ≠ 0 ∨ op.vane.byteCount result ≠ 0
    · rw [if_pos hcounts]
      have hone : ∀ fragment, result.fragments ≠ [fragment] := by simp [hfragments]
      refine leaves_of_fragments_refused describes ?_ hone hdecoded _
      rintro taken rfl (⟨_, hrows, hbytes, _, _⟩ | ⟨fragment, _, _, hfragment, _, _, _⟩)
      · exact hcounts.elim (· hrows) (· hbytes)
      · exact hone fragment hfragment
    · rw [if_neg hcounts]
      rw [not_or, not_not, not_not] at hcounts
      exact leaves_of_no_fragments describes accepted enters hquery hattempt hfragments hcounts.1 hcounts.2
  | [fragment] =>
    simp only [decodeFragments, hfragments]
    exact wp_decodeFragment describes accepted enters hquery hattempt hfragments
  | _ :: _ :: _ =>
    simp only [decodeFragments, hfragments, Proc.wp_throw]
    have hone : ∀ fragment, result.fragments ≠ [fragment] := by simp [hfragments]
    refine leaves_of_fragments_refused describes ?_ hone hdecoded _
    rintro taken rfl (⟨hnone, _, _, _, _⟩ | ⟨fragment, _, _, hfragment, _, _, _⟩)
    · rw [hfragments] at hnone; cases hnone
    · exact hone fragment hfragment

end Result

end DuckPaimon.Write
