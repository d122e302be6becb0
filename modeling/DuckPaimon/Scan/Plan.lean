/-
Planned splits on their way to the workers (paimon_distributed_scan.cpp): every split of a plan is
packed so that any worker of the scan takes it, and what the workers are assigned together is what
was planned.
-/
import DuckPaimon.Scan.Estimates
import DuckPaimon.Scan.Hops
import Mathlib.Data.List.Nodup
import Mathlib.Data.List.Perm.Basic

namespace DuckPaimon.Scan

open Outcome

/-! ## Planning -/

section Planning

variable {Split : Type} {rt : Runtime} {lib : SplitLibrary Split} {bind : PaimonScanBindData Split} {snapshotId : Int64}

/-- Paimon writes a split as a text that it reads back. -/
def ReadsBack (lib : SplitLibrary Split) (split : Split) : Prop :=
  ∃ bytes, lib.serialize split = .ok bytes ∧ bytes ≠ "" ∧ lib.deserialize bytes = .ok (some split)

/-- The envelope of a planned split opens. -/
theorem plannedEnvelope_valid (lib : SplitLibrary Split) (hset : bind.distributed.splitSetId ≠ "")
    (hschema : ¬bind.distributed.schemaId < 0)
    (hsnapshot : 0 ≤ snapshotId) (index : Nat) (split : Split) {bytes : String} (hbytes : bytes ≠ "") :
    ¬(plannedEnvelope lib bind (some snapshotId) index split bytes).canonical.Invalid := by
  obtain ⟨hcardinality, hsize⟩ := getSplitEstimates_lt lib split bind.distributed.appendOnly
  -- the estimates are those of the split, so the rest of the envelope decides
  change ¬((plannedEnvelope lib bind (some snapshotId) index split bytes).withEstimates
    (getSplitEstimates lib split bind.distributed.appendOnly)).canonical.Invalid
  apply not_invalid_withEstimates hcardinality hsize
  rintro (h | h | h | ⟨-, h⟩ | h | ⟨⟨⟩, -⟩ | ⟨⟨⟩, -⟩)
  · exact hset h
  · have hcanonical : isCanonicalSplitId (toString index) = true := isCanonicalSplitId_iff.2 ⟨index, rfl⟩
    exact absurd (hcanonical.symm.trans h) Bool.noConfusion
  · exact hschema h
  · exact Int64.not_lt.2 hsnapshot h
  · exact hbytes h

/-- A planned split is taken by every worker of its split set and schema. -/
theorem takes_planned (lawful : rt.binary.Lawful) {state : PaimonDistributedScanState Split}
    (hset : bind.distributed.splitSetId ≠ "") (hschema : ¬bind.distributed.schemaId < 0) (hsnapshot : 0 ≤ snapshotId)
    (hstate : state.splitSetId = bind.distributed.splitSetId ∧ state.schemaId = bind.distributed.schemaId)
    (index : Nat) {split : Split} {bytes : String} (hbytes : bytes ≠ "") (hdecode : lib.deserialize bytes = .ok (some split))
    {estimatedCardinality estimatedBytes : OptionalIdx}
    (hcardinality : estimatedCardinality.get? =
      (plannedEnvelope lib bind (some snapshotId) index split bytes).cardinality?)
    (hsize : estimatedBytes.get? = (plannedEnvelope lib bind (some snapshotId) index split bytes).bytes?) :
    ∃ envelope, Takes rt lib state snapshotId
      ⟨toString index, serializeSplitEnvelope rt (plannedEnvelope lib bind (some snapshotId) index split bytes),
        estimatedCardinality, estimatedBytes⟩ envelope split := by
  obtain ⟨-, hopens⟩ := deserializeSplitEnvelope_serializeSplitEnvelope lawful
    (plannedEnvelope_valid lib hset hschema hsnapshot index split hbytes)
  refine ⟨_, ⟨index, rfl⟩, hopens, hstate.1.symm, hstate.2.symm, rfl, rfl, rfl, ?_, ?_, hdecode⟩
  · rw [hcardinality, PaimonDistributedSplitEnvelope.canonical_cardinality?]
  · rw [hsize, PaimonDistributedSplitEnvelope.canonical_bytes?]

/-- Planning returns one split for each split of the plan, under distinct ids. -/
theorem planSplits_ok (lawful : rt.binary.Lawful) {state : PaimonDistributedScanState Split}
    (hset : bind.distributed.splitSetId ≠ "") (hschema : ¬bind.distributed.schemaId < 0) (hsnapshot : 0 ≤ snapshotId)
    (hstate : state.splitSetId = bind.distributed.splitSetId ∧ state.schemaId = bind.distributed.schemaId)
    {planned : List Split} (hreads : ∀ split ∈ planned, ReadsBack lib split) (index : Nat) :
    ∃ splits, planSplits rt lib bind (some snapshotId) index (planned.map some) = .ok splits ∧
      splits.map DistributedScanSplit.splitId = (List.range' index planned.length).map toString ∧
      List.Forall₂ (fun split a => ∃ envelope, Takes rt lib state snapshotId split envelope a) splits planned := by
  induction planned generalizing index with
  | nil => exact ⟨[], rfl, rfl, .nil⟩
  | cons split planned ih =>
    rw [List.forall_mem_cons] at hreads
    obtain ⟨bytes, hserialize, hbytes, hdecode⟩ := hreads.1
    obtain ⟨rest, hrest, hids, htakes⟩ := ih hreads.2 (index + 1)
    obtain ⟨hlt, hlt'⟩ := getSplitEstimates_lt lib split bind.distributed.appendOnly
    obtain ⟨cardinality, hcardinality, hget⟩ :=
      estimateIdx_ok (plannedEnvelope lib bind (some snapshotId) index split bytes).hasEstimatedCardinality hlt
    obtain ⟨size, hsize, hget'⟩ :=
      estimateIdx_ok (plannedEnvelope lib bind (some snapshotId) index split bytes).hasEstimatedBytes hlt'
    have htake := takes_planned lawful hset hschema hsnapshot hstate index hbytes hdecode hget hget'
    refine ⟨_, ?_, ?_, .cons htake htakes⟩
    · rw [List.map_cons, planSplits, hserialize]
      exact bind_eq_ok.2 ⟨cardinality, hcardinality, bind_eq_ok.2 ⟨size, hsize, bind_eq_ok.2 ⟨rest, hrest, rfl⟩⟩⟩
    · rw [List.map_cons, hids, List.length_cons, List.range'_succ, List.map_cons]

/-- A coordinator's plan is returned as splits that every worker of the scan takes. -/
theorem paimonPlanDistributedScanSplits_ok (lawful : rt.binary.Lawful)
    {createPlan : PaimonScanBindData Split → Except Exception (Option (ScanPlan Split))} {planned : List Split}
    (coordinator : bind.distributed.phase = .distributedCoordinator) (valid : bind.transportBase.validate = .ok ())
    (plan : createPlan bind = .ok (some ⟨some snapshotId, planned.map some⟩)) (nonnegative : 0 ≤ snapshotId)
    (readsBack : ∀ split ∈ planned, ReadsBack lib split) :
    ∃ splits, paimonPlanDistributedScanSplits rt lib createPlan (some bind) = .ok splits ∧
      splits.map DistributedScanSplit.splitId = (List.range' 0 planned.length).map toString ∧
      List.Forall₂ (fun split a => ∃ envelope, Takes rt lib bind.distributed snapshotId split envelope a) splits planned := by
  obtain ⟨hset, hschema⟩ := identity_of_validate valid
  obtain ⟨splits, hsplits, hids, htakes⟩ :
      ∃ splits, planSplits rt lib bind (some snapshotId) 0 (planned.map some) = .ok splits ∧
        splits.map DistributedScanSplit.splitId = (List.range' 0 planned.length).map toString ∧
        List.Forall₂ (fun split a => ∃ envelope, Takes rt lib bind.distributed snapshotId split envelope a) splits planned :=
    planSplits_ok lawful hset hschema nonnegative ⟨rfl, rfl⟩ readsBack 0
  refine ⟨splits, ?_, hids, htakes⟩
  unfold paimonPlanDistributedScanSplits requireDistributedScanBindData
  refine bind_eq_ok.2 ⟨bind, rfl, throwIf_bind_eq_ok.2 ⟨?_, bind_eq_ok.2 ⟨_, plan, throwIf_bind_eq_ok.2 ⟨nofun, hsplits⟩⟩⟩⟩
  rw [coordinator]
  rintro (h | h)
  · exact h rfl
  · exact hset h

end Planning

/-! ## Dealing the splits -/

/-- What relates to a concatenation relates part by part. -/
theorem forall₂_flatMap_split {α β γ : Type} {R : β → γ → Prop} {f : α → List β} :
    ∀ {as : List α} {cs : List γ}, List.Forall₂ R (as.flatMap f) cs →
      ∃ parts, List.Forall₂ (fun a part => List.Forall₂ R (f a) part) as parts ∧ parts.flatten = cs
  | [], cs, h => by
    cases h
    exact ⟨[], .nil, rfl⟩
  | a :: as, cs, h => by
    rw [List.flatMap_cons] at h
    obtain ⟨first, rest, hfirst, hrest, rfl⟩ : ∃ first rest, List.Forall₂ R (f a) first ∧
        List.Forall₂ R (as.flatMap f) rest ∧ cs = first ++ rest := by
      refine ⟨cs.take (f a).length, cs.drop (f a).length, ?_, ?_, (List.take_append_drop ..).symm⟩
      · have htake := List.forall₂_take (f a).length h
        rwa [List.take_left] at htake
      · have hdrop := List.forall₂_drop (f a).length h
        rwa [List.drop_left] at hdrop
    obtain ⟨parts, hparts, rfl⟩ := forall₂_flatMap_split hrest
    exact ⟨first :: parts, .cons hfirst hparts, rfl⟩

section Dealing

/-- Any worker of the split set and schema takes the split. -/
theorem Takes.of_identity {Split : Type} {rt : Runtime} {lib : SplitLibrary Split}
    {state state' : PaimonDistributedScanState Split} {snapshotId : Int64} {split : DistributedScanSplit}
    {envelope : PaimonDistributedSplitEnvelope} {assigned : Split}
    (h : Takes rt lib state snapshotId split envelope assigned) (hset : state'.splitSetId = state.splitSetId)
    (hschema : state'.schemaId = state.schemaId) : Takes rt lib state' snapshotId split envelope assigned :=
  { h with splitSetId := h.splitSetId.trans hset.symm, schemaId := h.schemaId.trans hschema.symm }

variable {Split : Type} {rt : Runtime} {start : PropertyCodec.ObjectStart Exception} {lib : SplitLibrary Split}
  {bind : PaimonScanBindData Split}

/-- The snapshot and the splits of an assignment are determined by its splits. -/
theorem Assignable.unique {splits : List DistributedScanSplit} {snapshotId snapshotId' : Int64}
    {assigned assigned' : List Split} (h : Assignable rt lib bind splits snapshotId assigned)
    (h' : Assignable rt lib bind splits snapshotId' assigned') : snapshotId = snapshotId' ∧ assigned = assigned' := by
  have hall : ∀ {splits : List DistributedScanSplit} {assigned assigned' : List Split},
      List.Forall₂ (fun split a => ∃ envelope, Takes rt lib bind.distributed snapshotId split envelope a) splits assigned →
      List.Forall₂ (fun split a => ∃ envelope, Takes rt lib bind.distributed snapshotId' split envelope a) splits assigned' →
      (splits ≠ [] → snapshotId = snapshotId') ∧ assigned = assigned' := by
    intro splits assigned assigned' hassigned hassigned'
    induction hassigned generalizing assigned' with
    | nil =>
      cases hassigned'
      exact ⟨absurd rfl, rfl⟩
    | cons hsplit _ ih =>
      cases hassigned' with
      | cons hsplit' hrest' =>
        obtain ⟨envelope, hsplit⟩ := hsplit
        obtain ⟨envelope', hsplit'⟩ := hsplit'
        obtain ⟨-, rfl, hsnapshot⟩ := hsplit.unique hsplit'
        obtain ⟨-, rfl⟩ := ih hrest'
        exact ⟨fun _ => hsnapshot, rfl⟩
  obtain ⟨hsnapshot, hassigned⟩ := hall h.takes h'.takes
  refine ⟨?_, hassigned⟩
  by_cases hempty : splits = []
  · rw [h.none hempty, h'.none hempty]
  · exact hsnapshot hempty

/-- Splits that are assignable are assigned. -/
theorem Assignable.applies {splits : List DistributedScanSplit} {snapshotId : Int64} {assigned : List Split}
    (h : Assignable rt lib bind splits snapshotId assigned) :
    paimonApplyDistributedScanSplits rt lib (some bind) splits =
      (.ok (), some (bind.assign splits snapshotId assigned)) := by
  unfold paimonApplyDistributedScanSplits
  rcases hrun : (applySplits rt lib splits).run bind with ⟨r, bind', l⟩
  dsimp only
  rw [hrun]
  rcases Proc.wp_run (wp_applySplits bind splits) hrun with ⟨-, -, hnot⟩ | ⟨rfl, snapshotId', assigned', h', rfl⟩
  · exact absurd ⟨_, _, h⟩ hnot
  · obtain ⟨rfl, rfl⟩ := h.unique h'
    rfl

/-- A worker is assigned what it takes. -/
theorem assignable_of_takes (hphase : bind.distributed.phase = .workerTemplate) {splits : List DistributedScanSplit}
    {snapshotId : Int64} {assigned : List Split} (hdistinct : (splits.map DistributedScanSplit.splitId).Nodup)
    (htakes : List.Forall₂ (fun split a => ∃ envelope, Takes rt lib bind.distributed snapshotId split envelope a)
      splits assigned) :
    Assignable rt lib bind splits (if splits = [] then 0 else snapshotId) assigned := by
  by_cases hempty : splits = []
  · subst hempty
    cases htakes
    exact ⟨hphase, List.nodup_nil, .nil, fun _ => rfl⟩
  · rw [if_neg hempty]
    exact ⟨hphase, hdistinct, htakes, fun hnil => absurd hnil hempty⟩

end Dealing

/-- However the planned splits are dealt to workers, whose binds come over any number of hosts, every
worker is assigned its splits, and together the workers are assigned exactly the splits of the plan. -/
theorem workers_read_planned_splits {Split : Type} {rt : Runtime} {start : PropertyCodec.ObjectStart Exception}
    {lib : SplitLibrary Split} {bind : PaimonScanBindData Split}
    {createPlan : PaimonScanBindData Split → Except Exception (Option (ScanPlan Split))} {planned : List Split}
    {snapshotId : Int64} (lawful : rt.binary.Lawful) (startLawful : start.Lawful)
    (coordinator : bind.distributed.phase = .distributedCoordinator) (valid : bind.transportBase.validate = .ok ())
    (plan : createPlan bind = .ok (some ⟨some snapshotId, planned.map some⟩)) (nonnegative : 0 ≤ snapshotId)
    (readsBack : ∀ split ∈ planned, ReadsBack lib split) :
    ∃ splits template, paimonPlanDistributedScanSplits rt lib createPlan (some bind) = .ok splits ∧
      paimonCreateDistributedWorkerBind (some bind) = .ok template ∧
      ∀ deals : List (List Catalog.OptionsHost × List DistributedScanSplit), (deals.flatMap Prod.snd).Perm splits →
        (∀ deal ∈ deals, ∀ host ∈ deal.1, Serves host bind.tableDataPath) →
        ∃ assigned : List (List Split),
          List.Forall₂ (fun deal part => ∃ worker worker', deal.1.foldlM (hop rt start) template = .ok worker ∧
            paimonApplyDistributedScanSplits rt lib (some worker) deal.2 = (.ok (), some worker') ∧
            worker'.distributed.assignedSplits = part) deals assigned ∧
          assigned.flatten.Perm planned := by
  obtain ⟨template, htemplate, hworker⟩ := template_paimonCreateDistributedWorkerBind coordinator valid
  have hvalid := validate_workerTransport valid
  obtain ⟨splits, hsplits, hids, htakes⟩ := paimonPlanDistributedScanSplits_ok lawful coordinator valid plan nonnegative
    readsBack
  refine ⟨splits, template, hsplits, htemplate, fun deals hperm hserves => ?_⟩
  obtain ⟨dealt, hdealt, hdealtPerm⟩ := List.perm_comp_forall₂ hperm htakes
  obtain ⟨parts, hparts, rfl⟩ := forall₂_flatMap_split hdealt
  have hnodup : ∀ deal ∈ deals, (deal.2.map DistributedScanSplit.splitId).Nodup := by
    have hall : ((deals.flatMap Prod.snd).map DistributedScanSplit.splitId).Nodup := by
      rw [(hperm.map _).nodup_iff, hids]
      exact List.Nodup.map Decimal.toString_injective List.nodup_range'
    rw [List.map_flatMap] at hall
    exact (List.nodup_flatMap.1 hall).1
  refine ⟨parts, ?_, hdealtPerm⟩
  refine ((List.forall₂_and_left deals parts).2 ⟨hserves, (List.forall₂_and_left deals parts).2 ⟨hnodup, hparts⟩⟩).imp ?_
  rintro ⟨hosts, dealt⟩ part ⟨hhosts, hdistinct, hpart⟩
  obtain ⟨worker, hhops, hworker⟩ := hworker.hops lawful startLawful hvalid hhosts
  have hidentity : worker.distributed.splitSetId = bind.distributed.splitSetId ∧
      worker.distributed.schemaId = bind.distributed.schemaId :=
    ⟨congrArg PaimonDistributedBindTransport.splitSetId hworker.transport,
      congrArg PaimonDistributedBindTransport.schemaId hworker.transport⟩
  have htaken : List.Forall₂ (fun split a => ∃ envelope, Takes rt lib worker.distributed snapshotId split envelope a)
      dealt part := by
    refine hpart.imp ?_
    rintro split a ⟨envelope, h⟩
    exact ⟨envelope, h.of_identity hidentity.1 hidentity.2⟩
  exact ⟨worker, _, hhops, (assignable_of_takes hworker.phase hdistinct htaken).applies, rfl⟩

/-! ## A plan of two splits -/

namespace TwoSplits

def runtime : Runtime := .fixed "" 1 []

/-- Texts as splits of one file. -/
def library : SplitLibrary String where
  serialize split := .ok split
  deserialize bytes := .ok (some bytes)
  dataSplit _ := some [⟨10, 2⟩]
  indexedSplit _ := none

def coordinator : PaimonScanBindData String where
  path := ⟨"/wh", "db", "t"⟩
  tableDataPath := "/wh/db.db/t"
  paimonOptions := .empty
  partKeys := []
  tableSchemaJson := "[]"
  distributed :=
    { phase := .distributedCoordinator
      splitSetId := "00000000-0000-4000-8000-000000000000"
      schemaId := 0
      appendOnly := true
      returnTypes := [{ id := .integer }]
      returnNames := ["a"] }

theorem validate_coordinator : coordinator.transportBase.validate = .ok () := by decide +kernel

/-- A host without secrets. -/
def host : Catalog.OptionsHost := ⟨fun _ => .ok none, fun _ => .ok 0⟩

/-- The plan of the snapshot 7. -/
def createPlan (_ : PaimonScanBindData String) : Except Exception (Option (ScanPlan String)) :=
  .ok (some ⟨some 7, ["x", "y"].map some⟩)

theorem readsBack : ∀ split ∈ ["x", "y"], ReadsBack library split := by
  intro split hsplit
  refine ⟨split, rfl, ?_, rfl⟩
  rintro rfl
  revert hsplit
  decide

theorem serves_host : Serves host coordinator.tableDataPath := ⟨_, rfl⟩

end TwoSplits

/-- A worker on another host is dealt both splits of a plan. -/
theorem workers_read_planned_splits_sample : ∃ splits template,
    paimonPlanDistributedScanSplits TwoSplits.runtime TwoSplits.library TwoSplits.createPlan
      (some TwoSplits.coordinator) = .ok splits ∧
    paimonCreateDistributedWorkerBind (some TwoSplits.coordinator) = .ok template ∧
    ∃ assigned : List (List String),
      List.Forall₂ (fun deal part => ∃ worker worker',
        deal.1.foldlM (hop TwoSplits.runtime binaryObjectStart) template = .ok worker ∧
        paimonApplyDistributedScanSplits TwoSplits.runtime TwoSplits.library (some worker) deal.2 = (.ok (), some worker') ∧
        worker'.distributed.assignedSplits = part) [([TwoSplits.host], splits)] assigned ∧
      assigned.flatten.Perm ["x", "y"] := by
  have hplan : TwoSplits.createPlan TwoSplits.coordinator = .ok (some ⟨some 7, ["x", "y"].map some⟩) := rfl
  have hlawful : TwoSplits.runtime.binary.Lawful := binaryFormat_lawful
  obtain ⟨splits, template, hsplits, htemplate, hdeals⟩ := workers_read_planned_splits hlawful
    binaryObjectStart_lawful rfl TwoSplits.validate_coordinator hplan (by decide) TwoSplits.readsBack
  refine ⟨splits, template, hsplits, htemplate, hdeals [([TwoSplits.host], splits)] ?_ ?_⟩
  · simp
  · simp [TwoSplits.serves_host]

end DuckPaimon.Scan
