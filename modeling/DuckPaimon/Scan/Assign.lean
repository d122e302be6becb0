/-
What a worker takes of the splits it is dealt: all of them or none. `Takes` says what one split has
to be to be taken; the loop takes a list exactly if every split is, under one snapshot and under
distinct ids.
-/
import DuckPaimon.Lib.Decimal
import DuckPaimon.Scan.Distributed
import Mathlib.Data.List.Forall2

namespace DuckPaimon.Scan

open Outcome

theorem isCanonicalSplitId_iff {splitId : String} : isCanonicalSplitId splitId = true ↔ ∃ n : Nat, splitId = toString n := by
  have hdigit (c : Char) : ('0' ≤ c && c ≤ '9') = c.isDigit := rfl
  have hnumeral : isCanonicalSplitId splitId = true ↔ Decimal.Numeral splitId.toList := by
    unfold isCanonicalSplitId
    cases splitId.toList with
    | nil => exact ⟨nofun, fun h => absurd rfl h.ne_nil⟩
    | cons first rest =>
      dsimp only
      simp only [hdigit]
      split
      · rename_i hzero
        exact ⟨nofun, fun h => absurd (h.leading rest (by rw [hzero.2])) hzero.1⟩
      · rename_i hzero
        rw [List.all_eq_true]
        constructor
        · intro h
          refine ⟨List.cons_ne_nil _ _, h, fun rest' heq => ?_⟩
          obtain ⟨hfirst, rfl⟩ := List.cons.inj heq
          by_contra hne
          exact hzero ⟨hne, hfirst⟩
        · exact Decimal.Numeral.digits
  rw [hnumeral, Decimal.numeral_iff]
  refine exists_congr fun n => ?_
  show _ ↔ splitId = n.repr
  rw [← String.toList_inj, Nat.toList_repr]

/-! ## One split -/

/-- The index of a valid `optional_idx`. -/
def OptionalIdx.get? (o : OptionalIdx) : Option UInt64 := if o.isValid then some o.index else none

namespace PaimonDistributedSplitEnvelope

variable (envelope : PaimonDistributedSplitEnvelope)

/-- The estimates of an envelope. -/
def cardinality? : Option UInt64 := if envelope.hasEstimatedCardinality then some envelope.estimatedCardinality else none
@[inherit_doc cardinality?] def bytes? : Option UInt64 :=
  if envelope.hasEstimatedBytes then some envelope.estimatedBytes else none

/-- The envelope as it is written has the same estimates. -/
theorem canonical_cardinality? : envelope.canonical.cardinality? = envelope.cardinality? := by
  unfold cardinality? canonical
  dsimp only
  split <;> rfl

theorem canonical_bytes? : envelope.canonical.bytes? = envelope.bytes? := by
  unfold bytes? canonical
  dsimp only
  split <;> rfl

end PaimonDistributedSplitEnvelope

/-- Two optional values that are present and equal, or both absent. -/
theorem present_eq_iff {has has' : Bool} {value value' : UInt64} :
    (if has then some value else none) = (if has' then some value' else none) ↔
      has = has' ∧ (has = true → value = value') := by
  cases has <;> cases has' <;> simp

theorem not_metadataMismatch_iff {envelope : PaimonDistributedSplitEnvelope} {split : DistributedScanSplit} :
    ¬MetadataMismatch envelope split ↔ envelope.splitId = split.splitId ∧
      envelope.cardinality? = split.estimatedCardinality.get? ∧ envelope.bytes? = split.estimatedBytes.get? := by
  unfold MetadataMismatch PaimonDistributedSplitEnvelope.cardinality? PaimonDistributedSplitEnvelope.bytes?
    OptionalIdx.get?
  rw [present_eq_iff, present_eq_iff]
  simp only [not_or, not_and, ne_eq, not_not]
  constructor
  · rintro ⟨hid, hcardinality, hbytes, hcardinality', hbytes'⟩
    exact ⟨hid, ⟨hcardinality, hcardinality'⟩, hbytes, hbytes'⟩
  · rintro ⟨hid, ⟨hcardinality, hcardinality'⟩, hbytes, hbytes'⟩
    exact ⟨hid, hcardinality, hbytes, hcardinality', hbytes'⟩

theorem payload_ne_empty {rt : Runtime} {payload : String} {envelope : PaimonDistributedSplitEnvelope}
    (h : deserializeSplitEnvelope rt payload = .ok envelope) : payload ≠ "" := by
  unfold deserializeSplitEnvelope at h
  exact (throwIf_bind_eq_ok.1 h).1

section Takes

variable {Split : Type} (rt : Runtime) (lib : SplitLibrary Split)

/-- A worker with the state `state` takes `assigned` from a split of the snapshot `snapshotId`. -/
structure Takes (state : PaimonDistributedScanState Split) (snapshotId : Int64) (split : DistributedScanSplit)
    (envelope : PaimonDistributedSplitEnvelope) (assigned : Split) : Prop where
  canonical : ∃ n : Nat, split.splitId = toString n
  opens : deserializeSplitEnvelope rt split.payload = .ok envelope
  splitSetId : envelope.splitSetId = state.splitSetId
  schemaId : envelope.schemaId = state.schemaId
  hasSnapshot : envelope.hasSnapshot = true
  snapshotId : envelope.snapshotId = snapshotId
  splitId : envelope.splitId = split.splitId
  cardinality : envelope.cardinality? = split.estimatedCardinality.get?
  bytes : envelope.bytes? = split.estimatedBytes.get?
  payload : lib.deserialize envelope.paimonSplit = .ok (some assigned)

variable {rt lib} {state : PaimonDistributedScanState Split}

/-- A split's envelope and what it holds are determined by the split. -/
theorem Takes.unique {snapshotId snapshotId' : Int64} {split : DistributedScanSplit}
    {envelope envelope' : PaimonDistributedSplitEnvelope} {assigned assigned' : Split}
    (h : Takes rt lib state snapshotId split envelope assigned)
    (h' : Takes rt lib state snapshotId' split envelope' assigned') :
    envelope = envelope' ∧ assigned = assigned' ∧ snapshotId = snapshotId' := by
  obtain rfl : envelope = envelope' := Except.ok.inj (h.opens.symm.trans h'.opens)
  refine ⟨rfl, ?_, h.snapshotId.symm.trans h'.snapshotId⟩
  exact Option.some.inj (Except.ok.inj (h.payload.symm.trans h'.payload))

/-- One split is taken from behind those already taken. -/
def TakesNext (rt : Runtime) (lib : SplitLibrary Split) (state : PaimonDistributedScanState Split)
    (taken : Assignment Split) (split : DistributedScanSplit) (taken' : Assignment Split) : Prop :=
  ∃ snapshotId envelope assigned, Takes rt lib state snapshotId split envelope assigned ∧
    split.splitId ∉ taken.splitIds ∧ (taken.hasSnapshot = true → snapshotId = taken.snapshotId) ∧
    taken' = ⟨split.splitId :: taken.splitIds, taken.assignedSplits ++ [assigned], true, snapshotId⟩

/-- The body of the loop returns exactly if it takes the split. -/
theorem result_assignSplit {bind : PaimonScanBindData Split} {taken taken' : Assignment Split}
    {split : DistributedScanSplit} : (assignSplit rt lib taken split).result bind = .ok taken' ↔
      TakesNext rt lib bind.distributed taken split taken' := by
  unfold assignSplit validateEnvelopeIdentity
  simp only [Proc.result_throwIf_bind, Proc.result_ofExcept_bind, Proc.result_get_bind, bind_eq_ok, throwIf_eq_ok,
    exists_and_left, exists_const, not_metadataMismatch_iff]
  constructor
  · rintro ⟨hgood, envelope, hopens, hidentity, hsnapshot, hsame, ⟨hid, hcardinality, hbytes⟩, h⟩
    simp only [not_or, ne_eq, not_not] at hgood hidentity
    have hpayload : ∃ assigned, lib.deserialize envelope.paimonSplit = .ok (some assigned) ∧
        ⟨split.splitId :: taken.splitIds, taken.assignedSplits ++ [assigned], true, envelope.snapshotId⟩ = taken' := by
      rcases hdecoded : lib.deserialize envelope.paimonSplit with status | _ | assigned
      · rw [hdecoded] at h
        cases h
      · rw [hdecoded] at h
        cases h
      · rw [hdecoded] at h
        exact ⟨assigned, rfl, Except.ok.inj h⟩
    obtain ⟨assigned, hpayload, rfl⟩ := hpayload
    refine ⟨envelope.snapshotId, envelope, assigned, ?_, hgood.2.2, fun hhas => ?_, rfl⟩
    · exact ⟨isCanonicalSplitId_iff.1 (by simpa using hgood.1), hopens, hidentity.1, hidentity.2,
        by simpa using hsnapshot, rfl, hid, hcardinality, hbytes, hpayload⟩
    · by_contra hne
      exact hsame ⟨hhas, hne⟩
  · rintro ⟨snapshotId, envelope, assigned, h, hnew, hsame, rfl⟩
    refine ⟨?_, envelope, h.opens, ?_, ?_, ?_, ⟨h.splitId, h.cardinality, h.bytes⟩, ?_⟩
    · rintro (hcanonical | hpayload | hdup)
      · rw [isCanonicalSplitId_iff.2 h.canonical] at hcanonical
        cases hcanonical
      · exact payload_ne_empty h.opens hpayload
      · exact hnew hdup
    · simp [h.splitSetId, h.schemaId]
    · simp [h.hasSnapshot]
    · rintro ⟨hhas, hne⟩
      exact hne (h.snapshotId.trans (hsame hhas))
    · rw [h.payload, ← h.snapshotId]
      rfl

theorem keeps_assignSplit (taken : Assignment Split) (split : DistributedScanSplit) :
    Proc.Keeps id (fun _ => True) (assignSplit rt lib taken split) := by
  refine (Proc.keeps_throwIf _ _).bind fun _ => (Proc.keeps_ofExcept _).bind fun envelope =>
    Proc.keeps_get.bind fun bind => (Proc.keeps_ofExcept _).bind fun _ => (Proc.keeps_throwIf _ _).bind fun _ =>
    (Proc.keeps_throwIf _ _).bind fun _ => (Proc.keeps_throwIf _ _).bind fun _ => ?_
  rcases lib.deserialize envelope.paimonSplit with status | _ | assigned
  · exact Proc.keeps_throw _
  · exact Proc.keeps_throw _
  · exact Proc.keeps_pure _

/-! ## All splits -/

/-- The splits are taken, in order, from behind those already taken. -/
def TakesAll (rt : Runtime) (lib : SplitLibrary Split) (state : PaimonDistributedScanState Split)
    (taken : Assignment Split) (splits : List DistributedScanSplit) (taken' : Assignment Split) : Prop :=
  ∃ snapshotId assigned,
    List.Forall₂ (fun split a => ∃ envelope, Takes rt lib state snapshotId split envelope a) splits assigned ∧
    (splits.map DistributedScanSplit.splitId).Nodup ∧ (∀ split ∈ splits, split.splitId ∉ taken.splitIds) ∧
    (taken.hasSnapshot = true ∨ splits = [] → snapshotId = taken.snapshotId) ∧
    taken' = ⟨(splits.map DistributedScanSplit.splitId).reverse ++ taken.splitIds, taken.assignedSplits ++ assigned,
      taken.hasSnapshot || !splits.isEmpty, snapshotId⟩

theorem takesAll_nil {taken taken' : Assignment Split} :
    TakesAll rt lib state taken [] taken' ↔ taken = taken' := by
  constructor
  · rintro ⟨snapshotId, assigned, hassigned, -, -, hsnapshot, rfl⟩
    cases hassigned
    rw [hsnapshot (.inr rfl)]
    simp
  · rintro rfl
    exact ⟨taken.snapshotId, [], .nil, List.nodup_nil, nofun, fun _ => rfl, by simp⟩

theorem takesAll_cons {taken taken'' : Assignment Split} {split : DistributedScanSplit}
    {splits : List DistributedScanSplit} : TakesAll rt lib state taken (split :: splits) taken'' ↔
      ∃ taken', TakesNext rt lib state taken split taken' ∧ TakesAll rt lib state taken' splits taken'' := by
  constructor
  · rintro ⟨snapshotId, assigned, hassigned, hnodup, hnew, hsnapshot, rfl⟩
    cases hassigned with
    | @cons _ a _ rest hsplit hrest =>
      obtain ⟨envelope, hsplit⟩ := hsplit
      rw [List.map_cons, List.nodup_cons] at hnodup
      refine ⟨⟨split.splitId :: taken.splitIds, taken.assignedSplits ++ [a], true, snapshotId⟩,
        ⟨snapshotId, envelope, a, hsplit, hnew split (.head _), fun h => hsnapshot (.inl h), rfl⟩,
        snapshotId, rest, hrest, hnodup.2, fun split' hsplit' => ?_, fun _ => rfl, by simp⟩
      rw [List.mem_cons, not_or]
      refine ⟨fun heq => hnodup.1 (heq ▸ List.mem_map_of_mem hsplit'), hnew split' (.tail _ hsplit')⟩
  · rintro ⟨taken', ⟨snapshotId, envelope, a, hsplit, hnew, hsame, rfl⟩, snapshotId', rest, hrest, hnodup, hnews,
      hsnapshot, rfl⟩
    obtain rfl : snapshotId' = snapshotId := hsnapshot (.inl rfl)
    have hnotMem (split' : DistributedScanSplit) (h : split' ∈ splits) :
        split'.splitId ≠ split.splitId ∧ split'.splitId ∉ taken.splitIds := by
      have := hnews split' h
      rwa [List.mem_cons, not_or] at this
    refine ⟨snapshotId', a :: rest, .cons ⟨envelope, hsplit⟩ hrest, ?_, fun split' hsplit' => ?_, fun h => ?_, by simp⟩
    · rw [List.map_cons, List.nodup_cons]
      refine ⟨fun hmem => ?_, hnodup⟩
      obtain ⟨split', hsplit', heq⟩ := List.mem_map.1 hmem
      exact (hnotMem split' hsplit').1 heq
    · rcases List.mem_cons.1 hsplit' with rfl | hsplit'
      · exact hnew
      · exact (hnotMem split' hsplit').2
    · rcases h with h | h
      · exact hsame h
      · cases h

theorem keeps_assignSplits (taken : Assignment Split) (splits : List DistributedScanSplit) :
    Proc.Keeps id (fun _ => True) (assignSplits rt lib taken splits) := by
  induction splits generalizing taken with
  | nil => exact Proc.keeps_pure _
  | cons split splits ih => exact (keeps_assignSplit taken split).bind ih

/-- The loop returns exactly if it takes every split. -/
theorem result_assignSplits {bind : PaimonScanBindData Split} {taken taken' : Assignment Split}
    {splits : List DistributedScanSplit} : (assignSplits rt lib taken splits).result bind = .ok taken' ↔
      TakesAll rt lib bind.distributed taken splits taken' := by
  induction splits generalizing taken with
  | nil => rw [assignSplits, Proc.result_pure, Except.ok.injEq, takesAll_nil]
  | cons split splits ih =>
    rw [assignSplits, Proc.result_bind ((keeps_assignSplit taken split).state bind), bind_eq_ok, takesAll_cons]
    simp only [result_assignSplit, ih]

/-! ## The assignment of a worker -/

/-- What it takes for the splits to be assigned to a worker bind: it is an unassigned template, and
the splits are of one snapshot, distinct and of the bind's split set and schema. -/
structure Assignable (rt : Runtime) (lib : SplitLibrary Split) (bind : PaimonScanBindData Split)
    (splits : List DistributedScanSplit) (snapshotId : Int64) (assigned : List Split) : Prop where
  phase : bind.distributed.phase = .workerTemplate
  distinct : (splits.map DistributedScanSplit.splitId).Nodup
  takes : List.Forall₂ (fun split a => ∃ envelope, Takes rt lib bind.distributed snapshotId split envelope a)
    splits assigned
  none : splits = [] → snapshotId = 0

/-- The bind data with the splits assigned. -/
def PaimonScanBindData.assign (bind : PaimonScanBindData Split) (splits : List DistributedScanSplit)
    (snapshotId : Int64) (assigned : List Split) : PaimonScanBindData Split :=
  { bind with distributed := { bind.distributed with
      assignedSplits := assigned, hasSnapshot := !splits.isEmpty, snapshotId, phase := .workerAssigned } }

theorem assignable_of_takesAll {bind : PaimonScanBindData Split} {splits : List DistributedScanSplit}
    {taken : Assignment Split} (hphase : bind.distributed.phase = .workerTemplate)
    (h : TakesAll rt lib bind.distributed {} splits taken) :
    Assignable rt lib bind splits taken.snapshotId taken.assignedSplits ∧ taken.hasSnapshot = !splits.isEmpty := by
  obtain ⟨snapshotId, assigned, hassigned, hnodup, -, hsnapshot, rfl⟩ := h
  exact ⟨⟨hphase, hnodup, hassigned, fun hnil => hsnapshot (.inr hnil)⟩, rfl⟩

theorem Assignable.takesAll {bind : PaimonScanBindData Split} {splits : List DistributedScanSplit} {snapshotId : Int64}
    {assigned : List Split} (h : Assignable rt lib bind splits snapshotId assigned) :
    ∃ taken, TakesAll rt lib bind.distributed {} splits taken := by
  refine ⟨_, snapshotId, assigned, h.takes, h.distinct, nofun, fun hnil => ?_, rfl⟩
  rcases hnil with hnil | hnil
  · cases hnil
  · exact h.none hnil

/-- The assignment throws and leaves the bind as it is, or the splits are assignable and are
assigned. -/
theorem wp_applySplits (bind : PaimonScanBindData Split) (splits : List DistributedScanSplit) :
    (applySplits rt lib splits).wp bind fun r bind' _ =>
      ((∃ e, r = .error e) ∧ bind' = bind ∧ ¬∃ snapshotId assigned, Assignable rt lib bind splits snapshotId assigned) ∨
      (r = .ok () ∧ ∃ snapshotId assigned, Assignable rt lib bind splits snapshotId assigned ∧
        bind' = bind.assign splits snapshotId assigned) := by
  unfold applySplits
  rw [Proc.wp_bind, Proc.wp_get]
  show Proc.wp _ _ _
  rw [Proc.wp_bind, Proc.wp_throwIf]
  split
  · rename_i hphase
    refine .inl ⟨⟨_, rfl⟩, rfl, ?_⟩
    rintro ⟨snapshotId, assigned, h⟩
    exact hphase h.phase
  · rename_i hphase
    rw [ne_eq, not_not] at hphase
    show Proc.wp _ _ _
    rw [Proc.wp_bind]
    refine Proc.wp_mono ((keeps_assignSplits {} splits).wp_result bind) ?_
    rintro (e | taken) bind' l ⟨rfl, hresult⟩
    · refine .inl ⟨⟨e, rfl⟩, rfl, ?_⟩
      rintro ⟨snapshotId, assigned, h⟩
      obtain ⟨taken, htaken⟩ := h.takesAll
      rw [result_assignSplits.2 htaken] at hresult
      cases hresult
    · obtain ⟨hassignable, hsnapshot⟩ := assignable_of_takesAll hphase (result_assignSplits.1 hresult.symm)
      refine (Proc.wp_modify _ _ _).2 (.inr ⟨rfl, _, _, hassignable, ?_⟩)
      rw [hsnapshot]
      rfl

/-- An assigned bind takes no splits. -/
theorem not_assignable_of_assigned {bind : PaimonScanBindData Split} (hphase : bind.distributed.phase = .workerAssigned)
    (splits : List DistributedScanSplit) : ¬∃ snapshotId assigned, Assignable rt lib bind splits snapshotId assigned := by
  rintro ⟨snapshotId, assigned, h⟩
  have hboth := hphase.symm.trans h.phase
  cases hboth

end Takes

/-- Assignment is atomic and exact: it throws and leaves the bind as it is, or the bind was an
unassigned template, the splits are distinct, of its split set and schema and of one snapshot, and
what they decode to is assigned in order. An assigned bind refuses further splits, and cannot be
serialized. -/
theorem applyDistributedScanSplits_atomic {Split : Type} (rt : Runtime) (start : PropertyCodec.ObjectStart Exception)
    (lib : SplitLibrary Split) (bind : PaimonScanBindData Split) (splits : List DistributedScanSplit) :
    (∃ e, paimonApplyDistributedScanSplits rt lib (some bind) splits = (.error e, some bind)) ∨
    ∃ snapshotId assigned, Assignable rt lib bind splits snapshotId assigned ∧
      paimonApplyDistributedScanSplits rt lib (some bind) splits =
        (.ok (), some (bind.assign splits snapshotId assigned)) ∧
      (∀ later, ∃ e, paimonApplyDistributedScanSplits rt lib (some (bind.assign splits snapshotId assigned)) later =
        (.error e, some (bind.assign splits snapshotId assigned))) ∧
      ∃ e, paimonDistributedScanSerialize rt start (some (bind.assign splits snapshotId assigned)) = .error e := by
  have happly (bind : PaimonScanBindData Split) (splits : List DistributedScanSplit) :
      ((∃ e, paimonApplyDistributedScanSplits rt lib (some bind) splits = (.error e, some bind)) ∧
        ¬∃ snapshotId assigned, Assignable rt lib bind splits snapshotId assigned) ∨
      ∃ snapshotId assigned, Assignable rt lib bind splits snapshotId assigned ∧
        paimonApplyDistributedScanSplits rt lib (some bind) splits =
          (.ok (), some (bind.assign splits snapshotId assigned)) := by
    unfold paimonApplyDistributedScanSplits
    rcases hrun : (applySplits rt lib splits).run bind with ⟨r, bind', l⟩
    dsimp only
    rw [hrun]
    rcases Proc.wp_run (wp_applySplits bind splits) hrun with
      ⟨⟨e, rfl⟩, rfl, hnot⟩ | ⟨rfl, snapshotId, assigned, hassignable, rfl⟩
    · exact .inl ⟨⟨e, rfl⟩, hnot⟩
    · exact .inr ⟨snapshotId, assigned, hassignable, rfl⟩
  rcases happly bind splits with ⟨herror, -⟩ | ⟨snapshotId, assigned, hassignable, hok⟩
  · exact .inl herror
  · refine .inr ⟨snapshotId, assigned, hassignable, hok, fun later => ?_, ?_⟩
    · rcases happly (bind.assign splits snapshotId assigned) later with ⟨herror, -⟩ | ⟨_, _, hbad, -⟩
      · exact herror
      · exact absurd ⟨_, _, hbad⟩ (not_assignable_of_assigned rfl later)
    · exact ⟨.serialization "Assigned distributed Paimon scan splits cannot enter a worker template", rfl⟩

end DuckPaimon.Scan
