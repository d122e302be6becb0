/-
The accounts of a worker (paimon_distributed_insert.cpp): whatever the order of its calls and
whichever of them fail, its global state has the messages and the rows of exactly the local writers
whose Combine returned, and a finalization never finds messages without rows or rows without
messages. While its calls return it is an INSERT that counts.
-/
import DuckPaimon.Write.Honest
import DuckPaimon.Write.Tally

namespace DuckPaimon.Write

open Outcome

variable {Message : Type}

/-! ## What a history says of a local writer -/

/-- The rows a call has sunk into a local writer: those of the chunk of a Sink that returned. -/
def WorkerRecord.sunk (writer : Nat) (record : WorkerRecord Message) : Nat :=
  match record.call, record.result with
  | .sink sinker chunk, .ok _ => if sinker = writer then chunk.size.toNat else 0
  | _, _ => 0

/-- The local writer a call has combined, with the messages it prepared. -/
def WorkerRecord.combined (record : WorkerRecord Message) : Option (Nat × List Message) :=
  match record.call, record.result with
  | .combine writer, .ok _ => some (writer, record.prepared)
  | _, _ => none

/-- What `PrepareCommit` returned in an event. -/
def WorkerEvent.replied : WorkerEvent Message → Option (List Message)
  | .prepareCommit messages => some (messages.filterMap id)
  | _ => none

/-- The rows of the successful Sink calls of a local writer. -/
def sunkIn (history : List (WorkerRecord Message)) (writer : Nat) : Nat :=
  (history.map (WorkerRecord.sunk writer)).sum

/-- The successful Combine calls. -/
def combinedIn (history : List (WorkerRecord Message)) : List (Nat × List Message) :=
  history.filterMap WorkerRecord.combined

/-- Those of local writers with rows. -/
def contributing (history : List (WorkerRecord Message)) : List (Nat × List Message) :=
  (combinedIn history).filter fun combined => sunkIn history combined.1 ≠ 0

theorem sunkIn_snoc (history : List (WorkerRecord Message)) (record : WorkerRecord Message) (writer : Nat) :
    sunkIn (history ++ [record]) writer = sunkIn history writer + record.sunk writer := by
  simp [sunkIn]

theorem combinedIn_snoc (history : List (WorkerRecord Message)) (record : WorkerRecord Message) :
    combinedIn (history ++ [record]) = combinedIn history ++ record.combined.toList := by
  rw [combinedIn, List.filterMap_append]
  cases h : record.combined <;> simp [combinedIn, h]

theorem flatMap_filter {α β : Type} {f : α → List β} {p : α → Bool} :
    ∀ {l : List α}, (∀ a ∈ l, p a = false → f a = []) → (l.filter p).flatMap f = l.flatMap f
  | [], _ => rfl
  | a :: l, h => by
    rw [List.forall_mem_cons] at h
    rw [List.filter_cons]
    cases hp : p a with
    | true => rw [if_pos rfl, List.flatMap_cons, List.flatMap_cons, flatMap_filter h.2]
    | false => rw [if_neg nofun, List.flatMap_cons, h.1 hp, List.nil_append, flatMap_filter h.2]

theorem sum_map_filter {α : Type} {f : α → Nat} {p : α → Bool} :
    ∀ {l : List α}, (∀ a ∈ l, p a = false → f a = 0) → ((l.filter p).map f).sum = (l.map f).sum
  | [], _ => rfl
  | a :: l, h => by
    rw [List.forall_mem_cons] at h
    rw [List.filter_cons]
    cases hp : p a with
    | true => rw [if_pos rfl, List.map_cons, List.map_cons, List.sum_cons, List.sum_cons, sum_map_filter h.2]
    | false => rw [if_neg nofun, List.map_cons, List.sum_cons, h.1 hp, Nat.zero_add, sum_map_filter h.2]

/-- The global state holds the messages and the rows of the contributing local writers, and neither
without the other. -/
structure Accounts (history : List (WorkerRecord Message)) (s : WorkerState Message) : Prop where
  messages : s.global.messages = (contributing history).flatMap Prod.snd
  rows : s.global.rowCount.toNat = ((contributing history).map fun combined => sunkIn history combined.1).sum
  once : ((contributing history).map Prod.fst).Nodup
  empty : s.global.messages = [] ↔ s.global.rowCount = 0

/-! ## What the calls do to the accounts -/

section Calls

variable {vane : Vane} {task : DistributedWriteTaskContext}

/-- How a Combine leaves its local state, and what it leaves of the global one if it throws. Messages are
prepared exactly for rows. -/
structure CombineEnds (s s' : PaimonDistributedInsertGlobalState Message × PaimonDistributedInsertLocalState)
    (r : Except Exception Unit) (events : List (WorkerEvent Message)) : Prop where
  rows : s'.2.rowCount = s.2.rowCount
  closed : s.2.writer = false → s'.2.writer = false
  failed : (∃ e, r = .error e) → s'.1.account = s.1.account
  prepared : r = .ok () → (events.flatMap WorkerEvent.prepared = [] ↔ s.2.rowCount = 0)
  replied : r = .ok () → s.2.rowCount = 0 ∧ events.filterMap WorkerEvent.replied = [] ∨
    s.2.rowCount ≠ 0 ∧ events.filterMap WorkerEvent.replied = [events.flatMap WorkerEvent.prepared]

theorem wp_combineMessages_ends (replies : CombineReplies Message) (messages : List (Option Message))
    {s : PaimonDistributedInsertGlobalState Message × PaimonDistributedInsertLocalState} (hrows : s.2.rowCount ≠ 0) :
    (combineMessages replies messages).wp s fun r s' events =>
      CombineEnds s s' r (.prepareCommit messages :: events) := by
  unfold combineMessages closeWriter
  simp only [Proc.wp_bind, Proc.wp_call, Proc.wp_modify]
  cases replies.close with
  | error status =>
    show Proc.wp _ _ _
    simp only [Proc.wp_bind, Proc.wp_call, Proc.wp_throw]
    exact ⟨rfl, fun _ => rfl, fun _ => rfl, by rintro ⟨⟩, by rintro ⟨⟩⟩
  | ok u =>
    show Proc.wp _ _ _
    rw [Proc.wp_bind, Proc.wp_throwIf]
    split
    · exact ⟨rfl, fun _ => rfl, fun _ => rfl, by rintro ⟨⟩, by rintro ⟨⟩⟩
    rename_i hempty
    rw [List.isEmpty_iff] at hempty
    show Proc.wp _ _ _
    cases hvalid : messages.mapM id with
    | none =>
      show Proc.wp _ _ _
      simp only [Proc.wp_bind, Proc.wp_call, Proc.wp_throw]
      exact ⟨rfl, fun _ => rfl, fun _ => rfl, by rintro ⟨⟩, by rintro ⟨⟩⟩
    | some valid =>
      have hprepared : messages.filterMap id = valid := filterMap_id_of_mapM hvalid
      show Proc.wp _ _ _
      rw [Proc.wp_tryCatch]
      refine Proc.wp_mono (Proc.wp_and (wp_takeMessages replies valid _) (wp_takeMessages_ok replies valid _)) ?_
      rintro (e | u) s' events ⟨⟨rfl, -, hend⟩, h⟩
      · simp only [Proc.wp_bind, Proc.wp_call, Proc.wp_throw]
        rcases hend with ⟨-, rfl⟩ | ⟨hok, -⟩
        · exact ⟨rfl, fun _ => rfl, fun _ => rfl, by rintro ⟨⟩, by rintro ⟨⟩⟩
        · cases hok
      · obtain ⟨hlocal, -⟩ := h rfl
        refine ⟨by rw [hlocal], fun _ => by rw [hlocal], by rintro ⟨_, ⟨⟩⟩,
          fun _ => iff_of_false (fun hnone => ?_) hrows, fun _ => .inr ⟨hrows, ?_⟩⟩
        rotate_left
        · show [messages.filterMap id] = [messages.filterMap id ++ []]
          rw [List.append_nil]
        -- no message was null, so the messages were none at all
        have hnone : messages.filterMap id ++ [] = [] := hnone
        rw [List.append_nil, hprepared] at hnone
        subst hnone
        cases messages with
        | nil => exact hempty rfl
        | cons message messages =>
          cases message with
          | none => cases hvalid
          | some message => cases hprepared

theorem wp_paimonDistributedInsertCombine_ends (replies : CombineReplies Message)
    (s : PaimonDistributedInsertGlobalState Message × PaimonDistributedInsertLocalState) :
    (paimonDistributedInsertCombine vane task replies).wp s fun r s' events => CombineEnds s s' r events := by
  unfold paimonDistributedInsertCombine
  rw [Proc.wp_bind, Proc.wp_get]
  show Proc.wp _ _ _
  rw [Proc.wp_bind, Proc.wp_ofExcept]
  cases validateTask vane s.1 task with
  | error e => exact ⟨rfl, id, fun _ => rfl, by rintro ⟨⟩, by rintro ⟨⟩⟩
  | ok u =>
    show Proc.wp _ _ _
    rw [Proc.wp_bind, Proc.wp_throwIf]
    split
    · exact ⟨rfl, id, fun _ => rfl, by rintro ⟨⟩, by rintro ⟨⟩⟩
    show Proc.wp _ _ _
    rw [Proc.wp_ite]
    split
    · rename_i hzero
      unfold closeWriter
      simp only [Proc.wp_bind, Proc.wp_call, Proc.wp_modify, Proc.wp_ofExcept]
      exact ⟨rfl, fun _ => rfl, fun _ => rfl, fun _ => iff_of_true rfl hzero, fun _ => .inl ⟨hzero, rfl⟩⟩
    · rename_i hrows
      cases replies.prepareCommit with
      | error status =>
        unfold closeWriter
        simp only [Proc.wp_bind, Proc.wp_call, Proc.wp_modify, Proc.wp_throw]
        exact ⟨rfl, fun _ => rfl, fun _ => rfl, by rintro ⟨⟩, by rintro ⟨⟩⟩
      | ok messages =>
        rw [Proc.wp_bind, Proc.wp_call]
        exact wp_combineMessages_ends replies messages hrows

end Calls

/-! ## The accounts in a run -/

/-- The accounts over all successful Combine calls, and what keeps them: a combined local writer takes no
more rows, and every other one counts its own. -/
structure Kept (history : List (WorkerRecord Message)) (s : WorkerState Message) : Prop where
  messages : s.global.messages = (combinedIn history).flatMap Prod.snd
  rows : s.global.rowCount.toNat = ((combinedIn history).map fun combined => sunkIn history combined.1).sum
  once : ((combinedIn history).map Prod.fst).Nodup
  closed : ∀ combined ∈ combinedIn history, ∃ lstate, s.locals[combined.1]? = some lstate ∧ lstate.writer = false
  counted : ∀ writer lstate, s.locals[writer]? = some lstate → lstate.rowCount.toNat = sunkIn history writer
  unsunk : ∀ writer, s.locals.length ≤ writer → sunkIn history writer = 0
  empty : ∀ combined ∈ combinedIn history, combined.2 = [] ↔ sunkIn history combined.1 = 0
  fits : s.global.messages.length < idxLimit

section Kept

variable {history : List (WorkerRecord Message)} {record : WorkerRecord Message} {s s' : WorkerState Message}

theorem kept_start {global : PaimonDistributedInsertGlobalState Message} (hmessages : global.messages = [])
    (hrows : global.rowCount = 0) : Kept [] { global } := by
  refine ⟨hmessages, ?_, List.nodup_nil, nofun, nofun, fun _ _ => rfl, nofun, ?_⟩
  · rw [hrows]
    rfl
  · rw [hmessages]
    exact Nat.two_pow_pos 64

/-- What a call does not combine leaves the accounts, if it sinks no rows into a combined writer. -/
theorem Kept.uncombined (h : Kept history s) (hcombined : record.combined = none)
    (haccount : s'.global.account = s.global.account)
    (hsunk : ∀ writer lstate, s.locals[writer]? = some lstate → lstate.writer = false → record.sunk writer = 0 ∧
      ∃ lstate', s'.locals[writer]? = some lstate' ∧ lstate'.writer = false)
    (hcounted : ∀ writer lstate, s'.locals[writer]? = some lstate →
      lstate.rowCount.toNat = sunkIn history writer + record.sunk writer)
    (hlength : s.locals.length ≤ s'.locals.length) (hunsunk : ∀ writer, s'.locals.length ≤ writer → record.sunk writer = 0) :
    Kept (history ++ [record]) s' := by
  obtain ⟨hmessages, hrows⟩ := Prod.mk.inj haccount
  have hsame : combinedIn (history ++ [record]) = combinedIn history := by
    rw [combinedIn_snoc, hcombined]
    exact List.append_nil _
  have hsunkIn : ∀ combined ∈ combinedIn history, sunkIn (history ++ [record]) combined.1 = sunkIn history combined.1 := by
    intro combined hmem
    obtain ⟨lstate, hfound, hclosed⟩ := h.closed combined hmem
    rw [sunkIn_snoc, (hsunk _ _ hfound hclosed).1, Nat.add_zero]
  refine ⟨?_, ?_, ?_, fun combined hmem => ?_, fun writer lstate hfound => ?_, fun writer hle => ?_,
    fun combined hmem => ?_, ?_⟩
  · rw [hsame, hmessages, h.messages]
  · rw [hsame, hrows, h.rows, List.map_congr_left hsunkIn]
  · rw [hsame]
    exact h.once
  · rw [hsame] at hmem
    obtain ⟨lstate, hfound, hclosed⟩ := h.closed combined hmem
    exact (hsunk _ _ hfound hclosed).2
  · rw [sunkIn_snoc]
    exact hcounted writer lstate hfound
  · rw [sunkIn_snoc, h.unsunk writer (hlength.trans hle), hunsunk writer hle]
  · rw [hsame] at hmem
    rw [hsunkIn combined hmem]
    exact h.empty combined hmem
  · rw [hmessages]
    exact h.fits

/-- A Combine that returns adds its messages and the rows of its local writer, which was not combined
before. -/
theorem Kept.combine (h : Kept history s) {writer : Nat} {lstate lstate' : PaimonDistributedInsertLocalState}
    {global : PaimonDistributedInsertGlobalState Message} {events : List (WorkerEvent Message)}
    {allocated : List Message} (found : s.locals[writer]? = some lstate)
    (hcombines : Combines (s.global, lstate) (global, lstate') events) (hhands : HandsOver s.global global events)
    (hends : CombineEnds (s.global, lstate) (global, lstate') (.ok ()) events) :
    Kept (history ++ [⟨.combine writer, .ok [], events⟩]) { global, locals := s.locals.set writer lstate', allocated } := by
  obtain ⟨hwriting, hclosed, -, hmessages, hrows⟩ := hcombines
  dsimp only at hwriting hclosed hmessages hrows
  have hbound : writer < s.locals.length := (List.getElem?_eq_some_iff.1 found).1
  have hsnoc : combinedIn (history ++ [⟨.combine writer, .ok [], events⟩]) =
      combinedIn history ++ [(writer, events.flatMap WorkerEvent.prepared)] := combinedIn_snoc _ _
  have hsunkIn (other : Nat) : sunkIn (history ++ [⟨.combine writer, .ok [], events⟩]) other = sunkIn history other :=
    (sunkIn_snoc _ _ _).trans (Nat.add_zero _)
  have hnew : writer ∉ (combinedIn history).map Prod.fst := by
    intro hmem
    obtain ⟨combined, hcombined, rfl⟩ := List.mem_map.1 hmem
    obtain ⟨lstate, hfound, hclosed⟩ := h.closed combined hcombined
    rw [Option.some.inj (found.symm.trans hfound), hclosed] at hwriting
    cases hwriting
  have hcounted := h.counted writer lstate found
  refine ⟨?_, ?_, ?_, fun combined hmem => ?_, fun other lstate'' hfound => ?_, fun other hle => ?_,
    fun combined hmem => ?_, hhands.fits h.fits⟩
  · show global.messages = _
    rw [hsnoc, List.flatMap_append, hmessages, h.messages, List.flatMap_singleton]
  · show global.rowCount.toNat = _
    rw [hsnoc, List.map_append, List.sum_append, hrows, hcounted, h.rows]
    simp only [hsunkIn, List.map_singleton, List.sum_singleton]
  · rw [hsnoc, List.map_append, List.nodup_append]
    refine ⟨h.once, List.nodup_singleton _, ?_⟩
    rintro a ha b hb rfl
    rw [List.map_singleton, List.mem_singleton] at hb
    obtain rfl : a = writer := hb
    exact hnew ha
  · rw [hsnoc, List.mem_append, List.mem_singleton] at hmem
    rcases hmem with hmem | rfl
    · obtain ⟨old, hold, hclosedOld⟩ := h.closed combined hmem
      refine ⟨old, ?_, hclosedOld⟩
      show (s.locals.set writer lstate')[combined.1]? = _
      rw [List.getElem?_set_ne, hold]
      rintro rfl
      exact hnew (List.mem_map_of_mem hmem)
    · exact ⟨lstate', List.getElem?_set_self hbound, hclosed⟩
  · rw [hsunkIn]
    by_cases hother : writer = other
    · subst hother
      have hself := (List.getElem?_set_self hbound).symm.trans hfound
      rw [← Option.some.inj hself]
      have hsame : lstate'.rowCount = lstate.rowCount := hends.rows
      rw [hsame, hcounted]
    · have hfound : (s.locals.set writer lstate')[other]? = some lstate'' := hfound
      rw [List.getElem?_set_ne hother] at hfound
      exact h.counted other lstate'' hfound
  · rw [hsunkIn]
    have hle : (s.locals.set writer lstate').length ≤ other := hle
    rw [List.length_set] at hle
    exact h.unsunk other hle
  · rw [hsunkIn]
    rw [hsnoc, List.mem_append, List.mem_singleton] at hmem
    rcases hmem with hmem | rfl
    · exact h.empty combined hmem
    · show events.flatMap WorkerEvent.prepared = [] ↔ _
      rw [hends.prepared rfl, ← hcounted, ← UInt64.toNat_inj]
      rfl

variable {rt : Runtime} {vane : Vane} {currentVersion : Int32} {render : Value → String}

/-- The rows of a record that is not a Sink. -/
theorem sunk_of_not_sink (hcall : record.call.chunk = none) (writer : Nat) : record.sunk writer = 0 := by
  unfold WorkerRecord.sunk
  split
  · rename_i hsink _
    rw [hsink] at hcall
    cases hcall
  · rfl

/-- A Sink counts its rows in its local writer, which was not combined before. -/
theorem Kept.sink (h : Kept history s) {writer : Nat} {chunk : DataChunk}
    {lstate lstate' : PaimonDistributedInsertLocalState}
    {r : Except Exception Unit} {writes : List PartitionWrite} (found : s.locals[writer]? = some lstate)
    (hends : (∃ e, r = .error e) ∧ lstate' = lstate ∨
      r = .ok () ∧ lstate'.writer = lstate.writer ∧
        lstate'.rowCount.toNat = lstate.rowCount.toNat + chunk.size.toNat ∧
        (lstate.writer = true ∨ chunk.size.toNat = 0))
    (hrecord : record = ⟨.sink writer chunk, r.map fun _ => [], writes.map .write⟩) :
    Kept (history ++ [record]) { s with locals := s.locals.set writer lstate' } := by
  have hbound : writer < s.locals.length := (List.getElem?_eq_some_iff.1 found).1
  have hother (other : Nat) (hne : writer ≠ other) : record.sunk other = 0 := by
    subst hrecord
    cases r with
    | error e => rfl
    | ok u => exact if_neg hne
  have hself : lstate'.writer = lstate.writer ∧ (lstate.writer = false → record.sunk writer = 0) ∧
      lstate'.rowCount.toNat = sunkIn history writer + record.sunk writer := by
    have hcounted := h.counted writer lstate found
    subst hrecord
    rcases hends with ⟨⟨e, rfl⟩, rfl⟩ | ⟨rfl, hwriter, hrows, hopen⟩
    · exact ⟨rfl, fun _ => rfl, hcounted⟩
    · have hsunk : WorkerRecord.sunk writer (⟨.sink writer chunk, .ok [], writes.map .write⟩ : WorkerRecord Message) =
          chunk.size.toNat := if_pos rfl
      refine ⟨hwriter, fun hclosed => ?_, ?_⟩
      · refine hsunk.trans ?_
        rcases hopen with hopen | hzero
        · rw [hclosed] at hopen
          cases hopen
        · exact hzero
      · rw [hrows, hcounted]
        exact congrArg _ hsunk.symm
  refine h.uncombined ?_ rfl (fun other lstate'' hfound hclosed => ?_) (fun other lstate'' hfound => ?_) ?_
    fun other hle => ?_
  · subst hrecord
    rfl
  · by_cases hne : writer = other
    · subst hne
      cases Option.some.inj (found.symm.trans hfound)
      exact ⟨hself.2.1 hclosed, lstate', List.getElem?_set_self hbound, hself.1.trans hclosed⟩
    · exact ⟨hother other hne, lstate'', (List.getElem?_set_ne hne).trans hfound, hclosed⟩
  · have hfound : (s.locals.set writer lstate')[other]? = some lstate'' := hfound
    by_cases hne : writer = other
    · subst hne
      rw [List.getElem?_set_self hbound] at hfound
      rw [← Option.some.inj hfound]
      exact hself.2.2
    · rw [List.getElem?_set_ne hne] at hfound
      rw [hother other hne]
      exact h.counted other lstate'' hfound
  · exact (List.length_set ..).ge
  · have hle : (s.locals.set writer lstate').length ≤ other := hle
    rw [List.length_set] at hle
    exact hother other (by omega)

/-- Every call keeps the accounts until one publishes. -/
theorem Kept.step (h : Kept history s) (hstep : WorkerStep rt vane currentVersion render s record s')
    (hunpublished : record.fragments = []) : Kept (history ++ [record]) s' := by
  cases hstep with
  | @initializeLocal task replies r global events run =>
    have haccount := (Prod.mk.inj (Proc.wp_run (keeps_paimonDistributedInsertInitializeLocal replies s.global) run).1).2
    have hquiet (writer : Nat) : WorkerRecord.sunk writer ⟨.initializeLocal, r.map fun _ => [], events⟩ = 0 :=
      sunk_of_not_sink rfl writer
    refine h.uncombined rfl haccount (fun writer lstate hfound hclosed => ⟨hquiet writer, lstate, ?_, hclosed⟩)
      (fun writer lstate hfound => ?_) ?_ fun writer _ => hquiet writer
    · have hbound := (List.getElem?_eq_some_iff.1 hfound).1
      exact (List.getElem?_append_left hbound).trans hfound
    · rw [hquiet, Nat.add_zero]
      by_cases hold : writer < s.locals.length
      · exact h.counted writer lstate ((List.getElem?_append_left hold).symm.trans hfound)
      · -- the local writer is the new one
        rw [h.unsunk writer (Nat.le_of_not_lt hold)]
        have hmem := List.mem_of_getElem? ((List.getElem?_append_right (Nat.le_of_not_lt hold)).symm.trans hfound)
        cases r with
        | error e => cases hmem
        | ok created =>
          obtain ⟨-, hcreated, -⟩ := Proc.wp_run (wp_paimonDistributedInsertInitializeLocal_ok replies s.global) run _ rfl
          rw [List.mem_singleton.1 hmem, hcreated]
          rfl
    · rw [List.length_append]
      exact Nat.le_add_right _ _
  | sink writer task reply chunk found run =>
    refine h.sink found ?_ rfl
    rcases Proc.wp_run (wp_paimonDistributedInsertSink_rows reply _) run with hfailed | ⟨hok, -, hcounts⟩
    · exact .inl hfailed
    · exact .inr ⟨hok, hcounts⟩
  | @combine writer task replies lstate lstate' global r events found run fresh =>
    have hbound : writer < s.locals.length := (List.getElem?_eq_some_iff.1 found).1
    have hends := Proc.wp_run (wp_paimonDistributedInsertCombine_ends replies (s.global, lstate)) run
    cases r with
    | ok u =>
      exact h.combine found (Proc.wp_run (wp_paimonDistributedInsertCombine_ok replies (s.global, lstate)) run rfl)
        (Proc.wp_run (wp_paimonDistributedInsertCombine replies (s.global, lstate)) run) hends
    | error e =>
      have hquiet (writer : Nat) : WorkerRecord.sunk writer ⟨.combine writer, .error e, events⟩ = 0 :=
      sunk_of_not_sink rfl writer
      refine h.uncombined rfl (hends.failed ⟨e, rfl⟩) (fun other lstate'' hfound hclosed => ⟨hquiet other, ?_⟩)
        (fun other lstate'' hfound => ?_) ?_ fun other _ => hquiet other
      · by_cases hne : writer = other
        · subst hne
          cases Option.some.inj (found.symm.trans hfound)
          exact ⟨lstate', List.getElem?_set_self hbound, hends.closed hclosed⟩
        · exact ⟨lstate'', (List.getElem?_set_ne hne).trans hfound, hclosed⟩
      · have hfound : (s.locals.set writer lstate')[other]? = some lstate'' := hfound
        show lstate''.rowCount.toNat = sunkIn history other
        by_cases hne : writer = other
        · subst hne
          rw [List.getElem?_set_self hbound] at hfound
          have hsame : lstate'.rowCount = lstate.rowCount := hends.rows
          rw [← Option.some.inj hfound, hsame]
          exact h.counted writer lstate found
        · rw [List.getElem?_set_ne hne] at hfound
          exact h.counted other lstate'' hfound
      · exact (List.length_set ..).ge
  | @finalize task replies r global events run =>
    have hrows : global.rowCount = s.global.rowCount :=
      (Prod.mk.inj (Proc.wp_run (keeps_paimonDistributedInsertFinalize replies s.global) run).1).2
    have hfinalizes := Proc.wp_run (wp_paimonDistributedInsertFinalize replies s.global) run
    have hmessages : global.messages = s.global.messages := by
      rcases hfinalizes.messages with ⟨fragment, rfl, -⟩ | ⟨-, hsame, -⟩
      · cases hunpublished
      · exact hsame
    have hquiet (writer : Nat) : WorkerRecord.sunk writer ⟨.finalize, r, events⟩ = 0 :=
      sunk_of_not_sink rfl writer
    refine h.uncombined rfl ?_ (fun writer lstate hfound hclosed => ⟨hquiet writer, lstate, hfound, hclosed⟩)
      (fun writer lstate hfound => ?_) (Nat.le_refl _) fun writer _ => hquiet writer
    · show (global.messages, global.rowCount) = _
      rw [hmessages, hrows]
      rfl
    · rw [hquiet, Nat.add_zero]
      exact h.counted writer lstate hfound

theorem Kept.accounts (h : Kept history s) : Accounts history s := by
  have hzero (combined : Nat × List Message) (hcombined : (decide (sunkIn history combined.1 ≠ 0)) = false) :
      sunkIn history combined.1 = 0 := by simpa using hcombined
  have hempty : s.global.messages = [] ↔ s.global.rowCount = 0 := by
    rw [h.messages, List.flatMap_eq_nil_iff, ← UInt64.toNat_inj, h.rows]
    show _ ↔ _ = 0
    rw [List.sum_eq_zero_iff_forall_eq_nat, List.forall_mem_map]
    exact forall₂_congr h.empty
  refine ⟨?_, ?_, ?_, hempty⟩
  · rw [contributing, flatMap_filter fun combined hmem hcombined => (h.empty combined hmem).2 (hzero combined hcombined)]
    exact h.messages
  · rw [contributing, sum_map_filter fun combined _ hcombined => hzero combined hcombined]
    exact h.rows
  · exact h.once.sublist (List.filter_sublist.map _)

end Kept

/-! ## The finalization -/

section Finalize

variable {rt : Runtime} {vane : Vane} {currentVersion : Int32} {task : DistributedWriteTaskContext}

/-- The checks of a task throw no internal exception of their own. -/
theorem internal_of_validateTask {global : PaimonDistributedInsertGlobalState Message} {text : String}
    (h : validateTask vane global task = .error (.internal text)) : vane.validateTask task = .error (.internal text) := by
  have hidentity : Throws (fun e => ∃ text, e = Exception.invalidInput text)
      (vaneLogicalTaskIdentity task.queryId task.taskAttemptId) := by
    have hcomponent (component : List Char) (description : String) :
        Throws (fun e => ∃ text, e = Exception.invalidInput text)
          (validateVaneTaskIdentityComponent component description) := by
      unfold validateVaneTaskIdentityComponent
      split
      · exact throws_throw ⟨_, rfl⟩
      · split
        · exact throws_pure _
        · exact throws_throw ⟨_, rfl⟩
    unfold vaneLogicalTaskIdentity
    dsimp only
    split
    · exact throws_throw ⟨_, rfl⟩
    · split
      · exact (hcomponent _ _).bind fun _ => (hcomponent _ _).bind fun _ => (hcomponent _ _).bind fun _ => throws_pure _
      · exact throws_throw ⟨_, rfl⟩
  unfold validateTask at h
  cases hvane : vane.validateTask task with
  | error e =>
    rw [hvane] at h
    exact congrArg _ (Except.error.inj h)
  | ok u =>
    rw [hvane] at h
    have hrest := hidentity.bind (f := fun _ => throwIf (global.queryId ≠ task.queryId ∨
      global.taskAttemptId ≠ task.taskAttemptId) (.invalidInput
        "Distributed Paimon INSERT worker task identity changed during execution")) fun _ => throws_throwIf ⟨_, rfl⟩
    obtain ⟨_, hinvalid⟩ := hrest _ h
    cases hinvalid

/-- An internal exception of a finalization comes from DuckDB's check of the task or from the construction
of the fragment, unless there are rows without messages or messages without rows. -/
theorem wp_paimonDistributedInsertFinalize_internal (replies : FinalizeReplies Message)
    (global : PaimonDistributedInsertGlobalState Message)
    (hempty : global.finalized = false → (global.messages = [] ↔ global.rowCount = 0)) :
    (paimonDistributedInsertFinalize rt vane currentVersion task replies).wp global fun r _ _ => ∀ text,
      r = .error (.internal text) →
        vane.validateTask task = .error (.internal text) ∨ replies.construction = .error (.internal text) := by
  unfold paimonDistributedInsertFinalize
  rw [Proc.wp_bind, Proc.wp_get]
  show Proc.wp _ _ _
  rw [Proc.wp_bind, Proc.wp_ofExcept]
  cases hvalid : validateTask vane global task with
  | error e =>
    rintro text ⟨⟩
    exact .inl (internal_of_validateTask hvalid)
  | ok u =>
    show Proc.wp _ _ _
    rw [Proc.wp_bind, Proc.wp_throwIf]
    split
    · rintro _ ⟨⟩
    rename_i hopen
    rw [Bool.not_eq_true] at hopen
    show Proc.wp _ _ _
    rw [Proc.wp_bind, Proc.wp_modify]
    show Proc.wp _ _ _
    rw [Proc.wp_ite]
    split
    · rename_i hnone
      rw [List.isEmpty_iff, hempty hopen] at hnone
      rw [Proc.wp_bind, Proc.wp_throwIf, if_neg (not_not.2 hnone)]
      exact (Proc.wp_pure _ _ _).2 (by rintro _ ⟨⟩)
    · rename_i hsome
      rw [List.isEmpty_iff, hempty hopen] at hsome
      rw [Proc.wp_bind, Proc.wp_throwIf, if_neg hsome]
      show Proc.wp _ _ _
      rw [Proc.wp_bind, Proc.wp_call]
      show Proc.wp _ _ _
      cases replies.serializeList global.messages with
      | error status =>
        show Proc.wp _ _ _
        simp only [Proc.wp_bind, Proc.wp_call, Proc.wp_throw]
        rintro _ ⟨⟩
      | ok serializedMessages =>
        show Proc.wp _ _ _
        simp only [Proc.wp_bind, Proc.wp_ofExcept, Proc.wp_modify, Proc.wp_pure]
        cases htransport : serializeTransport rt global.transport with
        | error e =>
          rintro text ⟨⟩
          obtain ⟨_, hserialization⟩ :=
            (throws_validateTransport rt global.transport).bind (fun _ => throws_pure _) _ htransport
          cases hserialization
        | ok serializedTransport =>
          cases replies.construction with
          | error e =>
            rintro text ⟨⟩
            exact .inr rfl
          | ok u => rintro _ ⟨⟩

variable {render : Value → String} {global : PaimonDistributedInsertGlobalState Message}
  {history : List (WorkerRecord Message)} {s : WorkerState Message}

theorem Kept.run (hmessages : global.messages = []) (hrows : global.rowCount = 0)
    (run : Run (WorkerStep rt vane currentVersion render) { global } history s)
    (hunpublished : fragmentsIn history = []) : Kept history s := by
  refine run.invariant (I := fun history s => fragmentsIn history = [] → Kept history s)
    (fun _ => kept_start hmessages hrows) (fun h hstep hnone => ?_) hunpublished
  rw [fragmentsIn_snoc, List.append_eq_nil_iff] at hnone
  exact (h hnone.1).step hstep hnone.2

/-- Until a finalization publishes, the global state of a worker has the messages and the rows of the
combined local writers with rows. A finalization throws no internal exception of its own, and a fragment
has the rows and the messages its envelope says. -/
theorem worker_accounts {paimonOptions : Except Exception StringMap} {info : DistributedExtensionWriteInfo}
    (hinit : paimonDistributedInsertInitializeGlobal rt vane paimonOptions info task = .ok global)
    (run : Run (WorkerStep rt vane currentVersion render) { global } history s) :
    (fragmentsIn history = [] → Accounts history s) ∧
      ∀ (task : DistributedWriteTaskContext) (replies : FinalizeReplies Message) result global' events,
        (paimonDistributedInsertFinalize rt vane currentVersion task replies).run s.global = (result, global', events) →
          (∀ text, result = .error (.internal text) →
            vane.validateTask task = .error (.internal text) ∨ replies.construction = .error (.internal text)) ∧
          ∀ fragments, result = .ok fragments → ∀ fragment ∈ fragments, ∃ envelope,
            fragments = [fragment] ∧ fragment.payload = serializeCommitEnvelope rt envelope ∧
              envelope.rowCount = fragment.rowCount ∧ fragment.rowCount ≠ 0 ∧
              envelope.messageCount.toNat = s.global.messages.length ∧
              replies.serializeList s.global.messages = .ok envelope.serializedMessages := by
  obtain ⟨hmessages, hrows⟩ := paimonDistributedInsertInitializeGlobal_empty hinit
  have hkept := Kept.run hmessages hrows run
  have hopen : s.global.finalized = false → fragmentsIn history = [] := (Returned.run run).none
  refine ⟨fun h => (hkept h).accounts, fun task replies result global' events hfinalize => ⟨?_, ?_⟩⟩
  · exact Proc.wp_run (wp_paimonDistributedInsertFinalize_internal replies s.global fun h =>
      (hkept (hopen h)).accounts.empty) hfinalize
  · rintro fragments rfl fragment hmem
    have hends := Proc.wp_run (wp_paimonDistributedInsertFinalize replies s.global) hfinalize
    obtain ⟨-, hwith, -⟩ := Proc.wp_run (wp_paimonDistributedInsertFinalize_ok replies s.global) hfinalize _ rfl
    rcases hwith with ⟨-, -, rfl⟩ | ⟨serializedMessages, serializedTransport, -, hrow, hlist, -, rfl⟩
    · cases hmem
    · obtain rfl := List.mem_singleton.1 hmem
      -- a finalization that publishes is the first one, so the accounts hold before it
      have hfits : s.global.messages.length < idxLimit := by
        rcases hends.messages with ⟨_, -, hfirst, -⟩ | ⟨hnone, -⟩
        · exact (hkept (hopen hfirst)).fits
        · rcases hnone with hnone | ⟨_, hnone⟩ <;> cases hnone
      exact ⟨_, rfl, rfl, rfl, hrow, UInt64.toNat_ofNat_of_lt' hfits, hlist⟩

end Finalize

/-! ## A worker whose calls return -/

namespace WorkerRecord

/-- What `PrepareCommit` returned in a call, if it was called. -/
def replied (record : WorkerRecord Message) : Option (List Message) :=
  (record.events.filterMap WorkerEvent.replied).head?

/-- What a call has done that returned. -/
def act (record : WorkerRecord Message) : Option (Act Message) :=
  match record.call, record.result with
  | .initializeLocal, .ok _ => some .opens
  | .sink writer chunk, .ok _ => some (.sinks writer ⟨chunk, record.writes⟩)
  | .combine writer, .ok _ => some (.combines writer record.replied)
  | _, _ => none

end WorkerRecord

/-- The chunks a worker was given, with their writes. -/
def workerSunk (history : List (WorkerRecord Message)) : List Sunk := history.filterMap WorkerRecord.given

/-- The calls that returned, as those of an INSERT that counts. -/
def workerActs (history : List (WorkerRecord Message)) : List (Act Message) := history.filterMap WorkerRecord.act

/-- When every call returned, what was sunk is what the calls were given. -/
theorem allSunk_workerActs {history : List (WorkerRecord Message)}
    (h : ∀ record ∈ history, ∃ fragments, record.result = .ok fragments) :
    allSunk (workerActs history) = workerSunk history := by
  unfold allSunk workerActs workerSunk
  rw [List.filterMap_filterMap]
  refine List.filterMap_congr fun record hrecord => ?_
  obtain ⟨fragments, hreturns⟩ := h record hrecord
  unfold WorkerRecord.act WorkerRecord.given
  rw [hreturns]
  cases record.call <;> rfl

/-- The rows of the chunks are those of the calls. -/
theorem size_workerSunk (history : List (WorkerRecord Message)) :
    ((workerSunk history).map Measure.size.of).sum = rowsIn history := by
  refine size_given (fun record => ?_) history
  unfold WorkerRecord.given WorkerCall.rows
  cases record.call.chunk <;> rfl

/-- The states of a worker as far as it counts. -/
def WorkerState.tally (s : WorkerState Message) : Tally Message where
  locals := s.locals.map fun lstate => (lstate.rowCount, lstate.writer)
  items := s.global.messages
  count := s.global.rowCount

section Tally

variable {rt : Runtime} {vane : Vane} {currentVersion : Int32} {render : Value → String} {s s' : WorkerState Message}
  {record : WorkerRecord Message}

theorem WorkerState.tally_found {writer : Nat} {lstate : PaimonDistributedInsertLocalState}
    (found : s.locals[writer]? = some lstate) :
    s.tally.locals[writer]? = some (lstate.rowCount, lstate.writer) := by
  unfold WorkerState.tally
  rw [List.getElem?_map, found]
  rfl

/-- A sum that was checked is one of machine integers. -/
theorem counted_of_toNat {a b c : UInt64} (h : a.toNat = b.toNat + c.toNat) : a = b + c := by
  rw [← UInt64.toNat_inj, UInt64.toNat_add, ← h, Nat.mod_eq_of_lt a.toNat_lt]

/-- A call of a worker that returned counts. -/
theorem ReturningStep.acts (h : ReturningStep rt vane currentVersion render s record s') :
    (∀ act, record.act = some act → Acts s.tally act s'.tally) ∧ (record.act = none → s'.tally = s.tally) := by
  obtain ⟨hstep, ⟨fragments, hreturns⟩, hworking, -⟩ := h
  cases hstep with
  | @initializeLocal task replies r global events run =>
    cases r with
    | error e => cases hreturns
    | ok lstate =>
      obtain ⟨rfl, rfl, rfl⟩ := Proc.wp_run (wp_paimonDistributedInsertInitializeLocal_ok replies s.global) run _ rfl
      refine ⟨?_, nofun⟩
      rintro act ⟨⟩
      unfold WorkerState.tally
      rw [List.map_append]
      exact .opens
  | @sink writer task reply chunk lstate lstate' r writes found run =>
    obtain ⟨⟨e, rfl⟩, -⟩ | ⟨rfl, hrows, hwriter, hcount, hopen⟩ :=
      Proc.wp_run (wp_paimonDistributedInsertSink_rows reply lstate) run
    · cases hreturns
    · refine ⟨?_, nofun⟩
      rintro act ⟨⟩
      unfold WorkerRecord.writes
      rw [issued_write]
      unfold WorkerState.tally
      rw [List.map_set, counted_of_toNat hcount, hwriter]
      exact .sinks (WorkerState.tally_found found) hrows hopen
  | @combine writer task replies lstate lstate' global r events found run fresh =>
    cases r with
    | error e => cases hreturns
    | ok u =>
      obtain ⟨hopen, hclosed, -, hmessages, hcount⟩ :=
        Proc.wp_run (wp_paimonDistributedInsertCombine_ok replies (s.global, lstate)) run rfl
      have hends := Proc.wp_run (wp_paimonDistributedInsertCombine_ends replies (s.global, lstate)) run
      have hrows : lstate'.rowCount = lstate.rowCount := hends.rows
      dsimp only at hopen hclosed hmessages hcount
      refine ⟨?_, nofun⟩
      rintro act ⟨⟩
      have hfound := WorkerState.tally_found found
      rw [hopen] at hfound
      unfold WorkerState.tally
      rw [List.map_set, hrows, hclosed, hmessages, counted_of_toNat hcount]
      unfold WorkerRecord.replied
      dsimp only
      rcases hends.replied rfl with ⟨hzero, hnone⟩ | ⟨hsome, hreplied⟩
      · rw [(hends.prepared rfl).2 hzero, hnone]
        exact .combines hfound (iff_of_true rfl hzero)
      · rw [hreplied]
        exact .combines hfound (iff_of_false nofun hsome)
  | finalize => exact absurd rfl hworking

/-- A Sink that returned has written the rows of its chunk for what it is aimed at. -/
theorem ReturningStep.issued (h : ReturningStep rt vane currentVersion render s record s') {sunk : Sunk}
    (hgiven : record.given = some sunk) :
    (sunk.writes.flatMap PartitionWrite.rows).Perm (List.range sunk.chunk.size.toNat) ∧
      IssuedBy render sunk.chunk s.global.transport.partKeys s.global.partColIdxs s.global.transport.nullPartName
        sunk.writes := by
  have hrows := h.rows
  cases h.step with
  | initializeLocal => cases hgiven
  | @sink writer task reply chunk lstate lstate' r writes found run =>
    cases hgiven
    refine ⟨hrows, ?_⟩
    unfold WorkerRecord.writes
    rw [issued_write]
    exact .distributed Message vane s.global task reply _ _ _ rfl rfl rfl run
  | combine => cases hgiven
  | finalize => cases hgiven

/-- So has every Sink of an honest worker, for the target of its bind. -/
theorem WorkerRun.Honest.issued {codec : MessageCodec Message} {info : DistributedExtensionWriteInfo}
    {transport : InsertTransport} {worker : WorkerRun Message} (h : worker.Honest rt vane codec render info)
    (hbind : deserializeTransport rt info.workerBindData = .ok transport) :
    ∃ partColIdxs, workerPartColIdxs transport.inputNames transport.partKeys = .ok partColIdxs ∧
      ∀ sunk ∈ workerSunk worker.history,
        (sunk.writes.flatMap PartitionWrite.rows).Perm (List.range sunk.chunk.size.toNat) ∧
          IssuedBy render sunk.chunk transport.partKeys partColIdxs transport.nullPartName sunk.writes := by
  obtain ⟨paimonOptions, global, s, replies, global', events, hinit, hrun, -⟩ := h.run
  obtain ⟨hfixed, hmessages, hrows⟩ := paimonDistributedInsertInitializeGlobal_ok hbind hinit
  refine ⟨global.partColIdxs, partColIdxs_of_initializeGlobal hbind hinit, fun sunk hsunk => ?_⟩
  obtain ⟨record, hrecord, hgiven⟩ := List.mem_filterMap.1 hsunk
  obtain ⟨before, after, hhistory⟩ := List.append_of_mem hrecord
  rw [hhistory] at hrun
  obtain ⟨middle, middle', hbefore, hstep, -⟩ := hrun.step_of_mem
  have hkept := (Tallied.run hmessages hrows hbefore).fixed.trans hfixed
  simp only [PaimonDistributedInsertGlobalState.fixed, Prod.mk.injEq] at hkept
  obtain ⟨htransport, -, -, -, hcolumns⟩ := hkept
  have hissued := hstep.issued hgiven
  rwa [htransport, hcolumns] at hissued

/-- A run of returning calls from a new global state counts. -/
theorem workerActs_run {global : PaimonDistributedInsertGlobalState Message} {history : List (WorkerRecord Message)}
    (hmessages : global.messages = []) (hcount : global.rowCount = 0)
    (run : Run (ReturningStep rt vane currentVersion render) { global } history s) :
    Run Acts {} (workerActs history) s.tally := by
  have hstart : ({} : Tally Message) = ({ global } : WorkerState Message).tally := by
    unfold WorkerState.tally
    rw [hmessages, hcount]
    rfl
  rw [hstart]
  exact run.image ReturningStep.acts

/-- The messages of an honest worker stand for all it was given, if what every `PrepareCommit` returned stands for
what was sunk into its local writer. -/
theorem WorkerRun.Honest.contents {codec : MessageCodec Message} {info : DistributedExtensionWriteInfo}
    {transport : InsertTransport} {worker : WorkerRun Message} {M : Type} [AddCommMonoid M] {measure : Measure M}
    {contents : Message → M} (h : worker.Honest rt vane codec render info)
    (hbind : deserializeTransport rt info.workerBindData = .ok transport)
    (stands : StandsFor measure contents (workerActs worker.history)) :
    ((preparedIn worker.history).map contents).sum = ((workerSunk worker.history).map measure.of).sum := by
  obtain ⟨paimonOptions, global, s, replies, global', events, hinit, hrun, hclosed, -, -⟩ := h.run
  obtain ⟨-, hmessages, hrows⟩ := paimonDistributedInsertInitializeGlobal_ok hbind hinit
  have htallied := Tallied.run hmessages hrows hrun
  have hreturned (record : WorkerRecord Message) (hrecord : record ∈ worker.history) :
      ∃ fragments, record.result = .ok fragments := by
    obtain ⟨middle, middle', hstep⟩ := h.steps record hrecord
    exact hstep.returns
  have hsunk := allSunk_workerActs hreturned
  have hfits : ((allSunk (workerActs worker.history)).map Measure.size.of).sum < idxLimit := by
    -- a worker checks its counts
    rw [hsunk, size_workerSunk, ← htallied.combined hclosed]
    exact s.global.rowCount.toNat_lt
  have hitems : s.tally.items = preparedIn worker.history := htallied.messages
  rw [← hitems, ← hsunk]
  exact contents_of_acts (workerActs_run hmessages hrows hrun) stands hfits (List.forall_mem_map.2 hclosed)

end Tally

namespace Sample

theorem worker_accounts_workerHistory :
    (fragmentsIn workerHistory = [] → Accounts workerHistory combined) ∧
      ∀ (task : DistributedWriteTaskContext) (replies : FinalizeReplies String) result global' events,
        (paimonDistributedInsertFinalize runtime .counting 1 task replies).run combined.global =
            (result, global', events) →
          (∀ text, result = .error (.internal text) →
            Vane.counting.validateTask task = .error (.internal text) ∨
              replies.construction = .error (.internal text)) ∧
          ∀ fragments, result = .ok fragments → ∀ fragment ∈ fragments, ∃ envelope,
            fragments = [fragment] ∧ fragment.payload = serializeCommitEnvelope runtime envelope ∧
              envelope.rowCount = fragment.rowCount ∧ fragment.rowCount ≠ 0 ∧
              envelope.messageCount.toNat = combined.global.messages.length ∧
              replies.serializeList combined.global.messages = .ok envelope.serializedMessages :=
  worker_accounts initializeGlobal_worker run_workerHistory

end Sample

end DuckPaimon.Write
