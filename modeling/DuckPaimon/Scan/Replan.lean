/-
A coordinator bind planned again and again while others commit to its table (paimon_distributed_scan.cpp).
The split set is the identity of the bind; the snapshot is found anew by each planning call, and a
worker holds the splits it is dealt to one snapshot.
-/
import DuckPaimon.Lib.Run
import DuckPaimon.Scan.Plan
import Mathlib.Logic.Function.Basic

namespace DuckPaimon.Scan

open Outcome

/-! ## Steps -/

/-- What a planning call returned, and the number of commits before it. -/
structure Planning where
  commits : Nat
  splits : List DistributedScanSplit

/-- The table of a scan, what has been planned, and the workers that took their splits. -/
structure ReplanState (Table Split : Type) where
  table : Table
  commits : Nat := 0
  plannings : List Planning := []
  workers : List (PaimonScanBindData Split × List DistributedScanSplit) := []

/-- Who moves: another writer, the coordinator or a worker. -/
inductive ReplanCall
  | commit
  | plan
  | assign

namespace ReplanState

variable {Table Split : Type} (s : ReplanState Table Split)

def committed (table : Table) : ReplanState Table Split := { s with table, commits := s.commits + 1 }

/-- A planning call that throws returns no splits. -/
def planned : Except Exception (List DistributedScanSplit) → ReplanState Table Split
  | .ok splits => { s with plannings := ⟨s.commits, splits⟩ :: s.plannings }
  | .error _ => s

/-- A worker that throws takes no splits. -/
def assigned (splits : List DistributedScanSplit) :
    Except Exception Unit × Option (PaimonScanBindData Split) → ReplanState Table Split
  | (.ok (), some worker) => { s with workers := (worker, splits) :: s.workers }
  | _ => s

end ReplanState

section Steps

variable {Table Split : Type} (rt : Runtime) (start : PropertyCodec.ObjectStart Exception) (lib : SplitLibrary Split)
  (createPlan : Table → PaimonScanBindData Split → Except Exception (Option (ScanPlan Split)))
  (bind : PaimonScanBindData Split)

/-- Another writer commits, or the bind is planned on the table as it is now, or a worker of the bind,
whose own bind came over some hosts, is dealt planned splits. Planning may fail at any time. -/
inductive ReplanStep (s : ReplanState Table Split) : ReplanCall → ReplanState Table Split → Prop
  | commit (table : Table) : ReplanStep s .commit (s.committed table)
  | plan {plan : Except Exception (Option (ScanPlan Split))} (hplan : plan = createPlan s.table bind ∨ ∃ e, plan = .error e) :
    ReplanStep s .plan (s.planned (paimonPlanDistributedScanSplits rt lib (fun _ => plan) (some bind)))
  | assign {template worker : PaimonScanBindData Split} {hosts : List Catalog.OptionsHost} {splits : List DistributedScanSplit}
    (htemplate : paimonCreateDistributedWorkerBind (some bind) = .ok template)
    (hworker : hosts.foldlM (hop rt start) template = .ok worker)
    (hplanned : ∀ split ∈ splits, ∃ planning ∈ s.plannings, split ∈ planning.splits) :
    ReplanStep s .assign (s.assigned splits (paimonApplyDistributedScanSplits rt lib (some worker) splits))

variable {rt start lib createPlan bind}

theorem ReplanStep.plan_ok {s : ReplanState Table Split} {splits : List DistributedScanSplit}
    (h : paimonPlanDistributedScanSplits rt lib (fun _ => createPlan s.table bind) (some bind) = .ok splits) :
    ReplanStep rt start lib createPlan bind s .plan { s with plannings := ⟨s.commits, splits⟩ :: s.plannings } := by
  have hstep : ReplanStep rt start lib createPlan bind s .plan
      (s.planned (paimonPlanDistributedScanSplits rt lib (fun _ => createPlan s.table bind) (some bind))) :=
    .plan (.inl rfl)
  rwa [h] at hstep

/-- A worker on the coordinator's host takes the splits of a planning call. -/
theorem ReplanStep.assign_ok {s : ReplanState Table Split} {template worker : PaimonScanBindData Split} (planning : Planning)
    (htemplate : paimonCreateDistributedWorkerBind (some bind) = .ok template) (hplanning : planning ∈ s.plannings)
    (happlies : paimonApplyDistributedScanSplits rt lib (some template) planning.splits = (.ok (), some worker)) :
    ReplanStep rt start lib createPlan bind s .assign { s with workers := (worker, planning.splits) :: s.workers } := by
  have hhops : ([] : List Catalog.OptionsHost).foldlM (hop rt start) template = .ok template := rfl
  have hstep : ReplanStep rt start lib createPlan bind s .assign
      (s.assigned planning.splits (paimonApplyDistributedScanSplits rt lib (some template) planning.splits)) :=
    .assign htemplate hhops fun split hsplit => ⟨planning, hplanning, hsplit⟩
  rwa [happlies] at hstep

variable (rt) in
/-- The envelope of a split names the split set and the snapshot. -/
def Carries (split : DistributedScanSplit) (splitSetId : String) (snapshotId : Int64) : Prop :=
  ∃ envelope rest, (readSplitEnvelope rt).run split.payload = .ok (envelope, rest) ∧
    envelope.splitSetId = splitSetId ∧ envelope.hasSnapshot = true ∧ envelope.snapshotId = snapshotId

theorem Carries.unique {split : DistributedScanSplit} {splitSetId splitSetId' : String} {snapshotId snapshotId' : Int64}
    (h : Carries rt split splitSetId snapshotId) (h' : Carries rt split splitSetId' snapshotId') :
    snapshotId = snapshotId' := by
  obtain ⟨envelope, rest, hread, -, -, rfl⟩ := h
  obtain ⟨envelope', rest', hread', -, -, rfl⟩ := h'
  cases hread.symm.trans hread'
  rfl

theorem Takes.carries {state : PaimonDistributedScanState Split} {snapshotId : Int64} {split : DistributedScanSplit}
    {envelope : PaimonDistributedSplitEnvelope} {assigned : Split}
    (h : Takes rt lib state snapshotId split envelope assigned) : Carries rt split state.splitSetId snapshotId := by
  have hopens := h.opens
  unfold deserializeSplitEnvelope at hopens
  obtain ⟨-, hopens⟩ := throwIf_bind_eq_ok.1 hopens
  obtain ⟨⟨read, rest⟩, hread, hopens⟩ := bind_eq_ok.1 hopens
  obtain ⟨-, hopens⟩ := throwIf_bind_eq_ok.1 hopens
  obtain ⟨-, hopens⟩ := throwIf_bind_eq_ok.1 hopens
  obtain rfl : read = envelope := Except.ok.inj hopens
  exact ⟨read, rest, hread, h.splitSetId, h.hasSnapshot, h.snapshotId⟩

/-! ## What is planned -/

/-- Every planned split holds an envelope of the bind and of the plan's snapshot. -/
theorem mem_planSplits {snapshotId : Option Int64} {planned : List (Option Split)} {index : Nat}
    {splits : List DistributedScanSplit} (h : planSplits rt lib bind snapshotId index planned = .ok splits)
    {split : DistributedScanSplit} (hsplit : split ∈ splits) :
    ∃ index paimonSplit bytes,
      split.payload = serializeSplitEnvelope rt (plannedEnvelope lib bind snapshotId index paimonSplit bytes) := by
  induction planned generalizing index splits with
  | nil =>
    cases h
    cases hsplit
  | cons paimonSplit planned ih =>
    rcases paimonSplit with _ | paimonSplit
    · cases h
    · rw [planSplits] at h
      rcases hserialize : lib.serialize paimonSplit with status | bytes
      · rw [hserialize] at h
        cases h
      · rw [hserialize] at h
        obtain ⟨cardinality, -, h⟩ := bind_eq_ok.1 h
        obtain ⟨size, -, h⟩ := bind_eq_ok.1 h
        obtain ⟨rest, hrest, h⟩ := bind_eq_ok.1 h
        cases h
        rcases List.mem_cons.1 hsplit with rfl | hsplit
        · exact ⟨index, paimonSplit, bytes, rfl⟩
        · exact ih hrest hsplit

/-- The splits of one planning call carry the bind's split set and one snapshot. -/
theorem carries_planned (lawful : rt.binary.Lawful) {plan : Except Exception (Option (ScanPlan Split))}
    {splits : List DistributedScanSplit}
    (h : paimonPlanDistributedScanSplits rt lib (fun _ => plan) (some bind) = .ok splits) :
    ∃ snapshotId, ∀ split ∈ splits, Carries rt split bind.distributed.splitSetId snapshotId := by
  unfold paimonPlanDistributedScanSplits at h
  obtain ⟨source, hsource, h⟩ := bind_eq_ok.1 h
  obtain rfl : bind = source := Except.ok.inj hsource
  obtain ⟨-, h⟩ := throwIf_bind_eq_ok.1 h
  obtain ⟨found, -, h⟩ := bind_eq_ok.1 h
  rcases found with _ | ⟨snapshotId, planned⟩
  · cases h
  obtain ⟨hsnapshot, h⟩ := throwIf_bind_eq_ok.1 h
  rcases snapshotId with _ | snapshotId
  · -- no split without a snapshot
    have hnone : planned = [] := by
      by_contra hne
      exact hsnapshot ⟨rfl, hne⟩
    subst hnone
    cases h
    exact ⟨0, nofun⟩
  · refine ⟨snapshotId, fun split hsplit => ?_⟩
    obtain ⟨index, paimonSplit, bytes, hpayload⟩ := mem_planSplits h hsplit
    have hread := readSplitEnvelope_serializeSplitEnvelope lawful
      (plannedEnvelope lib bind (some snapshotId) index paimonSplit bytes)
    rw [← hpayload] at hread
    exact ⟨_, _, hread, rfl, rfl, rfl⟩

/-! ## Runs -/

/-- The splits of every planning call are those of the table as it stood between two commits, and every worker
holds splits that were planned, all of its own snapshot. -/
structure ReplanInv (rt : Runtime) (lib : SplitLibrary Split)
    (createPlan : Table → PaimonScanBindData Split → Except Exception (Option (ScanPlan Split)))
    (bind : PaimonScanBindData Split) (s : ReplanState Table Split) : Prop where
  plannings : ∃ tables : Nat → Table, tables s.commits = s.table ∧ ∀ planning ∈ s.plannings,
    planning.commits ≤ s.commits ∧
      paimonPlanDistributedScanSplits rt lib (createPlan (tables planning.commits)) (some bind) = .ok planning.splits
  workers : ∀ worker ∈ s.workers, ∀ split ∈ worker.2,
    Carries rt split bind.distributed.splitSetId worker.1.distributed.snapshotId

theorem ReplanInv.committed {s : ReplanState Table Split} (inv : ReplanInv rt lib createPlan bind s) (table : Table) :
    ReplanInv rt lib createPlan bind (s.committed table) := by
  obtain ⟨tables, -, hplannings⟩ := inv.plannings
  refine ⟨⟨Function.update tables (s.commits + 1) table, ?_, ?_⟩, inv.workers⟩
  · exact Function.update_self ..
  · intro planning hplanning
    obtain ⟨hle, hsplits⟩ := hplannings planning hplanning
    have hne : planning.commits ≠ s.commits + 1 := by omega
    refine ⟨Nat.le_succ_of_le hle, ?_⟩
    rw [Function.update_of_ne hne]
    exact hsplits

/-- A planning call that fails inside Paimon throws. -/
theorem paimonPlanDistributedScanSplits_error (e : Exception) (splits : List DistributedScanSplit) :
    paimonPlanDistributedScanSplits rt lib (fun _ => .error e) (some bind) ≠ .ok splits := by
  intro h
  unfold paimonPlanDistributedScanSplits at h
  obtain ⟨source, -, h⟩ := bind_eq_ok.1 h
  obtain ⟨-, h⟩ := throwIf_bind_eq_ok.1 h
  obtain ⟨found, hfound, -⟩ := bind_eq_ok.1 h
  cases hfound

theorem ReplanInv.planned {s : ReplanState Table Split} (inv : ReplanInv rt lib createPlan bind s)
    {plan : Except Exception (Option (ScanPlan Split))} (hplan : plan = createPlan s.table bind ∨ ∃ e, plan = .error e) :
    ReplanInv rt lib createPlan bind (s.planned (paimonPlanDistributedScanSplits rt lib (fun _ => plan) (some bind))) := by
  rcases hresult : paimonPlanDistributedScanSplits rt lib (fun _ => plan) (some bind) with e | splits
  · exact inv
  · obtain ⟨tables, htable, hplannings⟩ := inv.plannings
    rcases hplan with rfl | ⟨e, rfl⟩
    · refine ⟨⟨tables, htable, List.forall_mem_cons.2 ⟨⟨le_rfl, ?_⟩, hplannings⟩⟩, inv.workers⟩
      show paimonPlanDistributedScanSplits rt lib (createPlan (tables s.commits)) (some bind) = .ok splits
      rw [htable]
      exact hresult
    · exact absurd hresult (paimonPlanDistributedScanSplits_error e splits)

/-- A split of a planning call of the run carries the bind's split set. -/
theorem ReplanInv.carries (lawful : rt.binary.Lawful) {s : ReplanState Table Split} (inv : ReplanInv rt lib createPlan bind s)
    {planning : Planning} (hplanning : planning ∈ s.plannings) :
    ∃ snapshotId, ∀ split ∈ planning.splits, Carries rt split bind.distributed.splitSetId snapshotId := by
  obtain ⟨tables, -, hplannings⟩ := inv.plannings
  exact carries_planned lawful (hplannings planning hplanning).2

/-- An accepted assignment is of one snapshot, which the worker keeps. -/
theorem carries_assigned {worker worker' : PaimonScanBindData Split} {splits : List DistributedScanSplit}
    (h : paimonApplyDistributedScanSplits rt lib (some worker) splits = (.ok (), some worker')) :
    ∀ split ∈ splits, Carries rt split worker.distributed.splitSetId worker'.distributed.snapshotId := by
  intro split hsplit
  unfold paimonApplyDistributedScanSplits at h
  rcases hrun : (applySplits rt lib splits).run worker with ⟨r, bind', l⟩
  dsimp only at h
  rw [hrun] at h
  rcases Proc.wp_run (wp_applySplits worker splits) hrun with
    ⟨⟨e, rfl⟩, -, -⟩ | ⟨rfl, snapshotId, assigned, hassignable, rfl⟩
  · cases h
  · cases h
    have hall : List.Forall₂ (fun split a => Carries rt split worker.distributed.splitSetId snapshotId ∧
        ∃ envelope, Takes rt lib worker.distributed snapshotId split envelope a) splits assigned := by
      refine hassignable.takes.imp ?_
      rintro split a ⟨envelope, htakes⟩
      exact ⟨htakes.carries, envelope, htakes⟩
    exact ((List.forall₂_and_left splits assigned).1 hall).1 split hsplit

theorem ReplanInv.assigned (lawful : rt.binary.Lawful) {s : ReplanState Table Split} (inv : ReplanInv rt lib createPlan bind s)
    {worker : PaimonScanBindData Split} {splits : List DistributedScanSplit}
    (hplanned : ∀ split ∈ splits, ∃ planning ∈ s.plannings, split ∈ planning.splits) :
    ReplanInv rt lib createPlan bind (s.assigned splits (paimonApplyDistributedScanSplits rt lib (some worker) splits)) := by
  rcases hresult : paimonApplyDistributedScanSplits rt lib (some worker) splits with ⟨e | u, _ | worker'⟩
  · exact inv
  · exact inv
  · exact inv
  · refine ⟨inv.plannings, List.forall_mem_cons.2 ⟨fun split hsplit => ?_, inv.workers⟩⟩
    obtain ⟨planning, hplanning, hmem⟩ := hplanned split hsplit
    obtain ⟨snapshotId, hcarries⟩ := inv.carries lawful hplanning
    have htaken := carries_assigned hresult split hsplit
    rw [← (hcarries split hmem).unique htaken]
    exact hcarries split hmem

theorem ReplanInv.step (lawful : rt.binary.Lawful) {s s' : ReplanState Table Split} {call : ReplanCall}
    (inv : ReplanInv rt lib createPlan bind s) (h : ReplanStep rt start lib createPlan bind s call s') :
    ReplanInv rt lib createPlan bind s' := by
  cases h with
  | commit table => exact inv.committed table
  | plan hplan => exact inv.planned hplan
  | assign htemplate hworker hplanned => exact inv.assigned lawful hplanned

theorem ReplanInv.run (lawful : rt.binary.Lawful) {table : Table} {calls : List ReplanCall} {s : ReplanState Table Split}
    (run : Run (ReplanStep rt start lib createPlan bind) { table } calls s) : ReplanInv rt lib createPlan bind s :=
  run.invariant (I := fun _ s => ReplanInv rt lib createPlan bind s) ⟨⟨fun _ => table, rfl, nofun⟩, nofun⟩
    fun inv hstep => inv.step lawful hstep

/-- Planning calls with no commit between them return the same splits. -/
theorem ReplanInv.splits_eq {s : ReplanState Table Split} (inv : ReplanInv rt lib createPlan bind s) {planning planning' : Planning}
    (h : planning ∈ s.plannings) (h' : planning' ∈ s.plannings) (hcommits : planning.commits = planning'.commits) :
    planning.splits = planning'.splits := by
  obtain ⟨tables, -, hplannings⟩ := inv.plannings
  have hsplits := (hplannings planning h).2
  rw [hcommits, (hplannings planning' h').2] at hsplits
  exact (Except.ok.inj hsplits).symm

/-- In every run of planning calls, commits and assignments: the planning calls between two commits return splits
of the bind's split set and of one snapshot; a worker takes splits of one snapshot only; and two workers
that take splits planned between the same commits have the same snapshot. -/
theorem planning_pins_snapshot (lawful : rt.binary.Lawful) {table : Table} {calls : List ReplanCall} {s : ReplanState Table Split}
    (run : Run (ReplanStep rt start lib createPlan bind) { table } calls s) :
    (∀ planning ∈ s.plannings, ∀ planning' ∈ s.plannings, planning.commits = planning'.commits →
      ∃ snapshotId, ∀ split, split ∈ planning.splits ∨ split ∈ planning'.splits →
        Carries rt split bind.distributed.splitSetId snapshotId) ∧
    (∀ worker ∈ s.workers, ∀ split ∈ worker.2,
      Carries rt split bind.distributed.splitSetId worker.1.distributed.snapshotId) ∧
    ∀ worker ∈ s.workers, ∀ worker' ∈ s.workers, ∀ split ∈ worker.2, ∀ split' ∈ worker'.2,
      ∀ planning ∈ s.plannings, ∀ planning' ∈ s.plannings, split ∈ planning.splits → split' ∈ planning'.splits →
        planning.commits = planning'.commits → worker.1.distributed.snapshotId = worker'.1.distributed.snapshotId := by
  have inv := ReplanInv.run lawful run
  refine ⟨fun planning h planning' h' hcommits => ?_, inv.workers, ?_⟩
  · obtain ⟨snapshotId, hcarries⟩ := inv.carries lawful h
    rw [← inv.splits_eq h h' hcommits]
    exact ⟨snapshotId, fun split hsplit => hcarries split (hsplit.elim id id)⟩
  · intro worker hworker worker' hworker' split hsplit split' hsplit' planning h planning' h' hmem hmem' hcommits
    obtain ⟨snapshotId, hcarries⟩ := inv.carries lawful h
    rw [← inv.splits_eq h h' hcommits] at hmem'
    rw [← (hcarries split hmem).unique (inv.workers worker hworker split hsplit)]
    exact (hcarries split' hmem').unique (inv.workers worker' hworker' split' hsplit')

end Steps

/-! ## A commit between two planning calls -/

namespace TwoSplits

/-- A plan of the table whose latest snapshot is given. -/
def planTable (table : Int64) (_ : PaimonScanBindData String) : Except Exception (Option (ScanPlan String)) :=
  .ok (some ⟨some table, ["x", "y"].map some⟩)

/-- A planning call of a table returns splits of its snapshot, which a worker of the coordinator takes. -/
theorem planned (table : Int64) (h : 0 ≤ table) : ∃ splits template worker,
    paimonPlanDistributedScanSplits runtime library (fun _ => planTable table coordinator) (some coordinator) = .ok splits ∧
      splits ≠ [] ∧ (∀ split ∈ splits, Carries runtime split coordinator.distributed.splitSetId table) ∧
      paimonCreateDistributedWorkerBind (some coordinator) = .ok template ∧
      paimonApplyDistributedScanSplits runtime library (some template) splits = (.ok (), some worker) ∧
      worker.distributed.snapshotId = table := by
  obtain ⟨template, htemplate, hworker⟩ := template_paimonCreateDistributedWorkerBind rfl validate_coordinator
  have hset : template.distributed.splitSetId = coordinator.distributed.splitSetId :=
    congrArg PaimonDistributedBindTransport.splitSetId hworker.transport
  have hschema : template.distributed.schemaId = coordinator.distributed.schemaId :=
    congrArg PaimonDistributedBindTransport.schemaId hworker.transport
  have hlawful : runtime.binary.Lawful := binaryFormat_lawful
  have hplan : planTable table coordinator = .ok (some ⟨some table, ["x", "y"].map some⟩) := rfl
  obtain ⟨splits, hsplits, hids, htakes⟩ :=
    paimonPlanDistributedScanSplits_ok hlawful rfl validate_coordinator hplan h readsBack
  have hnodup : (splits.map DistributedScanSplit.splitId).Nodup := by
    rw [hids]
    decide
  have hne : splits ≠ [] := by
    rintro rfl
    cases htakes
  have htaken : List.Forall₂ (fun split a => ∃ envelope, Takes runtime library template.distributed table split envelope a)
      splits ["x", "y"] := by
    refine htakes.imp ?_
    rintro split a ⟨envelope, h⟩
    exact ⟨envelope, h.of_identity hset hschema⟩
  have happlies := (assignable_of_takes hworker.phase hnodup htaken).applies
  rw [if_neg hne] at happlies
  have hcarries := carries_assigned happlies
  rw [hset] at hcarries
  exact ⟨splits, template, _, hsplits, hne, hcarries, htemplate, happlies, rfl⟩

/-- The bind is planned at the snapshot 7, another writer commits the snapshot 8, the bind is planned again, and a
worker is dealt the splits of either plan. -/
theorem replanned : ∃ calls s, Run (ReplanStep runtime binaryObjectStart library planTable coordinator) { table := 7 } calls s ∧
    ∃ splits splits' worker worker',
      s.plannings = [⟨1, splits'⟩, ⟨0, splits⟩] ∧ s.workers = [(worker', splits'), (worker, splits)] ∧
      splits ≠ [] ∧ splits' ≠ [] ∧
      (∀ split ∈ splits, Carries runtime split coordinator.distributed.splitSetId 7) ∧
      (∀ split ∈ splits', Carries runtime split coordinator.distributed.splitSetId 8) ∧
      worker.distributed.snapshotId = 7 ∧ worker'.distributed.snapshotId = 8 := by
  obtain ⟨splits, template, worker, hsplits, hne, hcarries, htemplate, happlies, hworker⟩ := planned 7 (by decide)
  obtain ⟨splits', template', worker', hsplits', hne', hcarries', htemplate', happlies', hworker'⟩ := planned 8 (by decide)
  refine ⟨_, _, ((((Run.nil.snoc (.plan_ok hsplits)).snoc (.commit 8)).snoc (.plan_ok hsplits')).snoc
    (.assign_ok ⟨0, splits⟩ htemplate ?_ happlies)).snoc (.assign_ok ⟨1, splits'⟩ htemplate' ?_ happlies'),
    splits, splits', worker, worker', rfl, rfl, hne, hne', hcarries, hcarries', hworker, hworker'⟩
  · exact .head _
  · exact .tail _ (.head _)

end TwoSplits

/-- Split envelopes of one split set with different snapshots, both accepted by workers of the bind. -/
theorem replanned_split_set_mixes_snapshots : ∃ calls s,
    Run (ReplanStep TwoSplits.runtime binaryObjectStart TwoSplits.library TwoSplits.planTable TwoSplits.coordinator) { table := 7 }
      calls s ∧
    (∃ planning ∈ s.plannings, ∃ planning' ∈ s.plannings, ∃ split ∈ planning.splits, ∃ split' ∈ planning'.splits,
      Carries TwoSplits.runtime split TwoSplits.coordinator.distributed.splitSetId 7 ∧
      Carries TwoSplits.runtime split' TwoSplits.coordinator.distributed.splitSetId 8) ∧
    ∃ worker ∈ s.workers, ∃ worker' ∈ s.workers, worker.2 ≠ [] ∧ worker'.2 ≠ [] ∧
      worker.1.distributed.snapshotId ≠ worker'.1.distributed.snapshotId := by
  obtain ⟨calls, s, run, splits, splits', worker, worker', hplannings, hworkers, hne, hne', hcarries, hcarries', h7, h8⟩ :=
    TwoSplits.replanned
  obtain ⟨split, hsplit⟩ := List.exists_mem_of_ne_nil _ hne
  obtain ⟨split', hsplit'⟩ := List.exists_mem_of_ne_nil _ hne'
  refine ⟨calls, s, run, ⟨⟨0, splits⟩, ?_, ⟨1, splits'⟩, ?_, split, hsplit, split', hsplit', hcarries split hsplit,
    hcarries' split' hsplit'⟩, (worker, splits), ?_, (worker', splits'), ?_, hne, hne', ?_⟩
  · simp [hplannings]
  · simp [hplannings]
  · simp [hworkers]
  · simp [hworkers]
  · rw [h7, h8]
    decide

/-- In that run the splits of the first plan have one snapshot, and so have the two workers each. -/
theorem planning_pins_snapshot_replanned : ∃ calls s,
    Run (ReplanStep TwoSplits.runtime binaryObjectStart TwoSplits.library TwoSplits.planTable TwoSplits.coordinator) { table := 7 }
      calls s ∧ s.plannings ≠ [] ∧ s.workers ≠ [] ∧
    (∀ planning ∈ s.plannings, ∀ planning' ∈ s.plannings, planning.commits = planning'.commits →
      ∃ snapshotId, ∀ split, split ∈ planning.splits ∨ split ∈ planning'.splits →
        Carries TwoSplits.runtime split TwoSplits.coordinator.distributed.splitSetId snapshotId) ∧
    ∀ worker ∈ s.workers, ∀ split ∈ worker.2,
      Carries TwoSplits.runtime split TwoSplits.coordinator.distributed.splitSetId worker.1.distributed.snapshotId := by
  obtain ⟨calls, s, run, splits, splits', worker, worker', hplannings, hworkers, -⟩ := TwoSplits.replanned
  have hlawful : TwoSplits.runtime.binary.Lawful := binaryFormat_lawful
  obtain ⟨hpinned, htaken, -⟩ := planning_pins_snapshot hlawful run
  refine ⟨calls, s, run, ?_, ?_, hpinned, htaken⟩
  · rw [hplannings]
    exact List.cons_ne_nil _ _
  · rw [hworkers]
    exact List.cons_ne_nil _ _

end DuckPaimon.Scan
