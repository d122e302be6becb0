/-
What a distributed scan answers. The coordinator plans with the pushed filters, the workers read the
splits they are dealt without them, and filtering all that they emit gives what a scan on one host gives.
-/
import DuckPaimon.Scan.Answer
import DuckPaimon.Scan.Binds

namespace DuckPaimon.Scan

open Outcome

/-! ## What a split unpacks to -/

section Unpacks

variable {Split : Type} {rt : Runtime} {splitLib : SplitLibrary Split}

/-- A worker opens the payload of the split and decodes this from it. -/
def Unpacks (rt : Runtime) (splitLib : SplitLibrary Split) (split : DistributedScanSplit) (a : Split) : Prop :=
  ∃ envelope, deserializeSplitEnvelope rt split.payload = .ok envelope ∧
    splitLib.deserialize envelope.paimonSplit = .ok (some a)

/-- What Paimon writes for a split it reads back. -/
def RoundTrips (splitLib : SplitLibrary Split) : Prop :=
  ∀ split bytes, splitLib.serialize split = .ok bytes → splitLib.deserialize bytes = .ok (some split)

theorem Takes.unpacks {state : PaimonDistributedScanState Split} {snapshotId : Int64} {split : DistributedScanSplit}
    {envelope : PaimonDistributedSplitEnvelope} {a : Split} (h : Takes rt splitLib state snapshotId split envelope a) :
    Unpacks rt splitLib split a :=
  ⟨envelope, h.opens, h.payload⟩

/-- An envelope that opens is opened as it was written. -/
theorem deserializeSplitEnvelope_eq_ok (lawful : rt.binary.Lawful) {envelope opened : PaimonDistributedSplitEnvelope}
    (h : deserializeSplitEnvelope rt (serializeSplitEnvelope rt envelope) = .ok opened) :
      opened = envelope.canonical := by
  unfold deserializeSplitEnvelope at h
  obtain ⟨-, h⟩ := throwIf_bind_eq_ok.1 h
  obtain ⟨read, hread, h⟩ := bind_eq_ok.1 h
  rw [readSplitEnvelope_serializeSplitEnvelope lawful] at hread
  cases hread
  obtain ⟨-, h⟩ := throwIf_bind_eq_ok.1 h
  obtain ⟨-, h⟩ := throwIf_bind_eq_ok.1 h
  exact (pure_eq_ok.1 h).symm

/-- A split that was planned unpacks to nothing else. -/
theorem planSplits_unpacks (lawful : rt.binary.Lawful) (roundTrips : RoundTrips splitLib)
    {bind : PaimonScanBindData Split} {snapshotId : Option Int64} {planned : List (Option Split)} {index : Nat}
    {splits : List DistributedScanSplit} (h : planSplits rt splitLib bind snapshotId index planned = .ok splits) :
    List.Forall₂ (fun split a => ∀ a', Unpacks rt splitLib split a' → a' = a) splits (planned.filterMap id) := by
  induction planned generalizing index splits with
  | nil =>
    cases pure_eq_ok.1 h
    exact .nil
  | cons split planned ih =>
    cases split with
    | none => cases h
    | some split =>
      rw [planSplits] at h
      rcases hserialize : splitLib.serialize split with status | bytes
      · rw [hserialize] at h
        cases h
      · rw [hserialize] at h
        obtain ⟨cardinality, -, h⟩ := bind_eq_ok.1 h
        obtain ⟨size, -, h⟩ := bind_eq_ok.1 h
        obtain ⟨rest, hrest, h⟩ := bind_eq_ok.1 h
        cases pure_eq_ok.1 h
        rw [List.filterMap_cons_some (show id (some split) = some split from rfl)]
        refine .cons ?_ (ih hrest)
        rintro a' ⟨opened, hopened, hdecoded⟩
        obtain rfl := deserializeSplitEnvelope_eq_ok lawful hopened
        have hbytes : splitLib.deserialize bytes = .ok (some a') := hdecoded
        rw [roundTrips split bytes hserialize] at hbytes
        cases hbytes
        rfl

theorem eq_of_unpacks {splits : List DistributedScanSplit} {assigned planned : List Split}
    (h : List.Forall₂ (Unpacks rt splitLib) splits assigned)
    (honly : List.Forall₂ (fun split a => ∀ a', Unpacks rt splitLib split a' → a' = a) splits planned) :
    assigned = planned := by
  induction h generalizing planned with
  | nil =>
    cases honly
    rfl
  | cons hunpacks _ ih =>
    cases honly with
    | cons honly hrest => rw [honly _ hunpacks, ih hrest]

/-- A worker that returned is assigned what its splits unpack to. -/
theorem assigned_of_applies {worker bind : PaimonScanBindData Split} {dealt : List DistributedScanSplit}
    (h : paimonApplyDistributedScanSplits rt splitLib (some worker) dealt = (.ok (), some bind)) :
    ∃ snapshotId assigned, bind = worker.assign dealt snapshotId assigned ∧
      List.Forall₂ (Unpacks rt splitLib) dealt assigned := by
  unfold paimonApplyDistributedScanSplits at h
  rcases hrun : (applySplits rt splitLib dealt).run worker with ⟨r, bind', l⟩
  dsimp only at h
  rw [hrun] at h
  cases h
  rcases Proc.wp_run (wp_applySplits worker dealt) hrun with ⟨⟨e, he⟩, -, -⟩ | ⟨-, snapshotId, assigned, h, rfl⟩
  · cases he
  · refine ⟨snapshotId, assigned, rfl, h.takes.imp ?_⟩
    rintro split a ⟨envelope, htakes⟩
    exact htakes.unpacks

end Unpacks

/-! ## The bind of a worker -/

section Binds

variable {Split : Type} {rt : Runtime} {objectStart : PropertyCodec.ObjectStart Exception}
  {bind bind' : PaimonScanBindData Split}

/-- A bind of the same table data and schema, without filters. -/
structure Unfiltered (bind bind' : PaimonScanBindData Split) : Prop where
  tableDataPath : bind'.tableDataPath = bind.tableDataPath
  tableSchemaJson : bind'.tableSchemaJson = bind.tableSchemaJson
  predicates : bind'.predicates = none
  partFilters : bind'.partFilters = []

theorem unfiltered_paimonCreateDistributedWorkerBind (h : paimonCreateDistributedWorkerBind (some bind) = .ok bind') :
    Unfiltered bind bind' := by
  unfold paimonCreateDistributedWorkerBind requireDistributedScanBindData at h
  obtain ⟨source, hsource, h⟩ := bind_eq_ok.1 h
  obtain ⟨-, h⟩ := throwIf_bind_eq_ok.1 h
  cases pure_eq_ok.1 hsource
  cases pure_eq_ok.1 h
  exact ⟨rfl, rfl, rfl, rfl⟩

/-- A bind that serializes is not assigned and has a valid transport. -/
theorem valid_of_paimonDistributedScanSerialize {properties : List String}
    (h : paimonDistributedScanSerialize rt objectStart (some bind) = .ok properties) :
    bind.distributed.phase ≠ .workerAssigned ∧ bind.transportBase.validate = .ok () := by
  unfold paimonDistributedScanSerialize at h
  obtain ⟨state, hstate, -⟩ := bind_eq_ok.1 h
  unfold serializedState at hstate
  split at hstate
  · rename_i hphase
    obtain ⟨base, hbase, -⟩ := bind_eq_ok.1 hstate
    obtain ⟨_, hvalid, -⟩ := bind_eq_ok.1 hbase
    exact ⟨by rw [hphase]; exact PaimonDistributedScanPhase.noConfusion, hvalid⟩
  · rename_i hphase
    obtain ⟨base, hbase, -⟩ := bind_eq_ok.1 hstate
    obtain ⟨_, hvalid, -⟩ := bind_eq_ok.1 hbase
    exact ⟨by rw [hphase]; exact PaimonDistributedScanPhase.noConfusion, hvalid⟩
  · rename_i hphase
    obtain ⟨base, hbase, -⟩ := bind_eq_ok.1 hstate
    obtain ⟨_, hvalid, -⟩ := bind_eq_ok.1 hbase
    exact ⟨by rw [hphase]; exact PaimonDistributedScanPhase.noConfusion, hvalid⟩
  · cases hstate

/-- A hop of a valid bind returns if the host can compute its options. -/
theorem hop_eq (lawful : rt.binary.Lawful) (startLawful : objectStart.Lawful) (host : Catalog.OptionsHost)
    (hphase : bind.distributed.phase ≠ .workerAssigned) (hvalid : bind.transportBase.validate = .ok ()) :
    hop rt objectStart bind host = do
      let options ← Catalog.getPaimonOptions host bind.tableDataPath []
      return bind.transportBase.bindData bind.distributed.phase.bindKind options := by
  rcases hoptions : Catalog.getPaimonOptions host bind.tableDataPath [] with e | options
  · have hkind : ¬(bind.distributed.phase.bindKind ≠ bindKindCoordinator ∧
        bind.distributed.phase.bindKind ≠ bindKindWorker) := by
      cases bind.distributed.phase <;> decide
    have hread : (paimonDistributedScanDeserialize rt objectStart (fun path => Catalog.getPaimonOptions host path []) :
        Deserializer (PaimonScanBindData Split)).run
          (rt.binary.object [rt.binary.write .uint8 1 "bind_kind" bind.distributed.phase.bindKind,
            objectStart.write 2 "scan_bind" ++ bind.transportBase.serialize rt]) = .error e := by
      have hnested : rt.binary.object [objectStart.write 2 "scan_bind" ++ bind.transportBase.serialize rt] =
          objectStart.write 2 "scan_bind" ++ (bind.transportBase.serialize rt ++ rt.binary.object []) :=
        String.append_assoc
      unfold paimonDistributedScanDeserialize
      rw [lawful.readProperty_bind, if_neg hkind, hnested, startLawful.readObjectStart_bind, StateT.run_bind,
        deserialize_serialize lawful, ok_bind, PropertyCodec.run_liftM_bind, hvalid, ok_bind,
        PropertyCodec.run_liftM_bind]
      have hbase : Catalog.getPaimonOptions host bind.transportBase.tableDataPath [] = .error e := hoptions
      dsimp only
      rw [hbase]
      rfl
    -- the host reads the whole bind before it asks for its options, so it is their error that it returns
    unfold hop
    rw [paimonDistributedScanSerialize_ok hphase hvalid, ok_bind, hread]
    rfl
  · rw [hop_ok lawful startLawful hphase hvalid hoptions]
    rfl

/-- What arrives on a host is the bind of the transport, with the host's own options for its data path. -/
theorem hop_returns (lawful : rt.binary.Lawful) (startLawful : objectStart.Lawful) {host : Catalog.OptionsHost}
    (h : hop rt objectStart bind host = .ok bind') :
    ∃ options, Catalog.getPaimonOptions host bind.tableDataPath [] = .ok options ∧
      bind' = bind.transportBase.bindData bind.distributed.phase.bindKind options := by
  have hvalid : bind.distributed.phase ≠ .workerAssigned ∧ bind.transportBase.validate = .ok () := by
    unfold hop at h
    obtain ⟨properties, hproperties, -⟩ := bind_eq_ok.1 h
    exact valid_of_paimonDistributedScanSerialize hproperties
  rw [hop_eq lawful startLawful host hvalid.1 hvalid.2] at h
  obtain ⟨options, hoptions, h⟩ := bind_eq_ok.1 h
  exact ⟨options, hoptions, (pure_eq_ok.1 h).symm⟩

/-- A bind on another host reads the same table, without filters. -/
theorem unfiltered_hop (lawful : rt.binary.Lawful) (startLawful : objectStart.Lawful) {host : Catalog.OptionsHost}
    (h : hop rt objectStart bind host = .ok bind') : Unfiltered bind bind' := by
  obtain ⟨options, -, rfl⟩ := hop_returns lawful startLawful h
  exact ⟨rfl, rfl, rfl, rfl⟩

theorem unfiltered_hops (lawful : rt.binary.Lawful) (startLawful : objectStart.Lawful)
    {hosts : List Catalog.OptionsHost} {template : PaimonScanBindData Split} (htemplate : Unfiltered bind template)
    (h : hosts.foldlM (hop rt objectStart) template = .ok bind') : Unfiltered bind bind' := by
  induction hosts generalizing template with
  | nil =>
    cases pure_eq_ok.1 h
    exact htemplate
  | cons host hosts ih =>
    rw [List.foldlM_cons] at h
    obtain ⟨next, hnext, h⟩ := bind_eq_ok.1 h
    have hunfiltered := unfiltered_hop lawful startLawful hnext
    refine ih ⟨?_, ?_, hunfiltered.predicates, hunfiltered.partFilters⟩ h
    · exact hunfiltered.tableDataPath.trans htemplate.tableDataPath
    · exact hunfiltered.tableSchemaJson.trans htemplate.tableSchemaJson

end Binds

/-! ## Scans of workers -/

/-- The scan of a worker: the hosts its bind came over, the splits it was dealt, the bind with the splits
assigned, and its run. -/
structure WorkerScan (Split : Type) where
  hosts : List Catalog.OptionsHost
  dealt : List DistributedScanSplit
  bind : PaimonScanBindData Split
  start : PaimonScanGlobalState Split
  history : List (ScanRecord Value)

/-- The worker was assigned its splits and scanned them to the end. -/
structure WorkerScan.Executes {Split Array : Type} (rt : Runtime) (objectStart : PropertyCodec.ObjectStart Exception)
    (splitLib : SplitLibrary Split) (lib : ReadLibrary Split Array Value) (template : PaimonScanBindData Split)
    (columnIds : List Nat) (scan : WorkerScan Split) : Prop where
  assigned : ∃ worker, scan.hosts.foldlM (hop rt objectStart) template = .ok worker ∧
    paimonApplyDistributedScanSplits rt splitLib (some worker) scan.dealt = (.ok (), some scan.bind)
  completes : Completes lib scan.bind columnIds scan.start scan.history

section Workers

variable {Split Array : Type} {rt : Runtime} {objectStart : PropertyCodec.ObjectStart Exception}
  {splitLib : SplitLibrary Split} {lib : ReadLibrary Split Array Value} {template source : PaimonScanBindData Split}
  {columnIds : List Nat} {scan : WorkerScan Split}

/-- A worker scans what its splits unpack to, with a bind of the same table and no filter. -/
theorem WorkerScan.Executes.scans (h : scan.Executes rt objectStart splitLib lib template columnIds)
    (lawful : rt.binary.Lawful) (startLawful : objectStart.Lawful) (htemplate : Unfiltered source template) :
    Unfiltered source scan.bind ∧ scan.bind.distributed.phase = .workerAssigned ∧
      List.Forall₂ (Unpacks rt splitLib) scan.dealt scan.start.splits := by
  obtain ⟨worker, hhops, happlies⟩ := h.assigned
  obtain ⟨snapshotId, assigned, hassigned, hunpacks⟩ := assigned_of_applies happlies
  have hworker := unfiltered_hops lawful startLawful htemplate hhops
  have hsplits := (paimonScanInitGlobal_eq_ok h.completes.init).2
  rw [hassigned] at hsplits ⊢
  refine ⟨⟨hworker.tableDataPath, hworker.tableSchemaJson, hworker.predicates, hworker.partFilters⟩, rfl, ?_⟩
  -- a worker never plans: its splits are those it was assigned
  unfold initialSplits at hsplits
  rw [if_pos (show (worker.assign scan.dealt snapshotId assigned).distributed.phase =
    .workerAssigned from rfl)] at hsplits
  cases pure_eq_ok.1 hsplits
  exact hunpacks

variable {test : Predicate.LeafTest} {schema : TableFields} {contents : Split → List StoredRow}

/-- All workers together fetch the rows of what they were dealt. -/
theorem workers_fetch {scans : List (WorkerScan Split)} {needed : StoredRow → Bool} (lawful : rt.binary.Lawful)
    (startLawful : objectStart.Lawful) (htemplate : Unfiltered source template)
    (executes : ∀ scan ∈ scans, scan.Executes rt objectStart splitLib lib template columnIds)
    (reads : ∀ bind start, Unfiltered source bind → bind.distributed.phase = .workerAssigned →
      paimonScanInitGlobal lib bind columnIds = .ok start → ReadsMatching lib test schema contents bind
        start columnIds) :
    ∃ fetched assigned, List.Forall₂ (Unpacks rt splitLib) (scans.flatMap WorkerScan.dealt) assigned ∧
      Fetches needed (assigned.flatMap contents) fetched ∧
      (scans.flatMap fun scan => emittedIn scan.history).Perm (fetched.map (schema.readIds columnIds)) := by
  induction scans with
  | nil => exact ⟨[], [], .nil, .refl _ _, .nil⟩
  | cons scan scans ih =>
    rw [List.forall_mem_cons] at executes
    obtain ⟨fetched, assigned, hunpacks, hfetched, hemitted⟩ := ih executes.2
    obtain ⟨hbind, hphase, hown⟩ := executes.1.scans lawful startLawful htemplate
    have hreads := reads scan.bind scan.start hbind hphase executes.1.completes.init
    -- without filters of its own the worker leaves no row out, whatever is needed above it
    obtain ⟨own, hownFetched, hownEmitted⟩ := executes.1.completes.fetches_unfiltered hreads hbind.predicates needed
    refine ⟨own ++ fetched, scan.start.splits ++ assigned, ?_, ?_, ?_⟩
    · rw [List.flatMap_cons]
      exact List.rel_append hown hunpacks
    · rw [List.flatMap_append]
      exact hownFetched.append hfetched
    · rw [List.flatMap_cons, List.map_append]
      exact hownEmitted.append hemitted

/-- However a plan is dealt, the workers answer filters that the plan leaves no matching row out for. -/
theorem dealt_plan_answers {eng : Engine} {get : LogicalGet} {filters : List Expression} {table : List StoredRow}
    {createPlan : PaimonScanBindData Split → Except Exception (Option (ScanPlan Split))} {plan : ScanPlan Split}
    {splits : List DistributedScanSplit} {scans : List (WorkerScan Split)} (lawful : rt.binary.Lawful)
    (startLawful : objectStart.Lawful) (roundTrips : RoundTrips splitLib)
    (selects : ∀ stored ∈ table, allTrue eng get filters (schema.row stored) = true →
      selected test schema source stored = true)
    (projects : Projects get schema filters columnIds) (created : createPlan source = .ok (some plan))
    (plans : PlansSelected test schema contents table source (plan.splits.filterMap id))
    (planning : paimonPlanDistributedScanSplits rt splitLib createPlan (some source) = .ok splits)
    (workerBind : paimonCreateDistributedWorkerBind (some source) = .ok template)
    (dealt : (scans.flatMap WorkerScan.dealt).Perm splits)
    (executes : ∀ scan ∈ scans, scan.Executes rt objectStart splitLib lib template columnIds)
    (reads : ∀ bind start, Unfiltered source bind → bind.distributed.phase = .workerAssigned →
      paimonScanInitGlobal lib bind columnIds = .ok start → ReadsMatching lib test schema contents bind
        start columnIds) :
    ((scans.flatMap fun scan => emittedIn scan.history).filter fun cells =>
        allTrue eng get filters (rowOf columnIds cells)).Perm
      ((table.filter fun stored => allTrue eng get filters (schema.row stored)).map fun stored =>
        columnIds.map (schema.row stored)) := by
  obtain ⟨fetched, assigned, hunpacks, hfetched, hemitted⟩ := workers_fetch lawful startLawful
    (unfiltered_paimonCreateDistributedWorkerBind workerBind) executes reads
  have honly : List.Forall₂ (fun split a => ∀ a', Unpacks rt splitLib split a' → a' = a) splits
      (plan.splits.filterMap id) := by
    unfold paimonPlanDistributedScanSplits requireDistributedScanBindData at planning
    obtain ⟨source, hsource, planning⟩ := bind_eq_ok.1 planning
    cases pure_eq_ok.1 hsource
    obtain ⟨-, planning⟩ := throwIf_bind_eq_ok.1 planning
    obtain ⟨returned, hreturned, planning⟩ := bind_eq_ok.1 planning
    cases created.symm.trans hreturned
    obtain ⟨-, planning⟩ := throwIf_bind_eq_ok.1 planning
    exact planSplits_unpacks lawful roundTrips planning
  -- what the workers were assigned is the plan, in another order
  obtain ⟨planned, hplanned, hperm⟩ := List.perm_comp_forall₂ dealt honly
  obtain rfl := eq_of_unpacks hunpacks hplanned
  have hselected : Fetches (fun stored => allTrue eng get filters (schema.row stored)) table
    (assigned.flatMap contents) :=
    (Fetches.mono plans selects).perm (hperm.flatMap_right contents)
  exact projects.answers (hselected.trans hfetched) hemitted

end Workers

/-- However the planned splits are dealt to workers, on whatever hosts, and in whatever order each worker
polls: once all of them are at their end, the rows they emitted that pass the filters above are exactly
the rows of the table on which every filter is TRUE, each as often as it is stored. -/
theorem distributed_scan_answers_filters {Split Array : Type} {rt : Runtime}
    {objectStart : PropertyCodec.ObjectStart Exception} {splitLib : SplitLibrary Split}
    {lib : ReadLibrary Split Array Value} {eng : Engine} {test : Predicate.LeafTest} {reader : ValueReader}
    {builder : PredicateBuilder} {render : Value → String} {nullPartName : String} {get : LogicalGet}
    {schema : TableFields} {bind pushed template : PaimonScanBindData Split} {filters : List Expression}
    {columnIds : List Nat} {contents : Split → List StoredRow} {table : List StoredRow}
    {createPlan : PaimonScanBindData Split → Except Exception (Option (ScanPlan Split))} {plan : ScanPlan Split}
    {splits : List DistributedScanSplit} {scans : List (WorkerScan Split)}
    (lawful : rt.binary.Lawful) (startLawful : objectStart.Lawful) (roundTrips : RoundTrips splitLib)
    (agrees : AgreesOn eng test reader get schema filters table) (builderOk : builder.Succeeds)
    (pushdown : paimonPushdownFilter reader builder render get bind filters = .ok pushed)
    (drops : ∀ f ∈ filters, dropsUnderNot reader get true f = false)
    (stored : StoredUnder eng render nullPartName get bind.partKeys schema table)
    (projects : Projects get schema filters columnIds) (created : createPlan pushed = .ok (some plan))
    (plans : PlansSelected test schema contents table pushed (plan.splits.filterMap id))
    (planning : paimonPlanDistributedScanSplits rt splitLib createPlan (some pushed) = .ok splits)
    (workerBind : paimonCreateDistributedWorkerBind (some pushed) = .ok template)
    (dealt : (scans.flatMap WorkerScan.dealt).Perm splits)
    (executes : ∀ scan ∈ scans, scan.Executes rt objectStart splitLib lib template columnIds)
    (reads : ∀ bind start, Unfiltered pushed bind → bind.distributed.phase = .workerAssigned →
      paimonScanInitGlobal lib bind columnIds = .ok start → ReadsMatching lib test schema contents bind
        start columnIds) :
    ((scans.flatMap fun scan => emittedIn scan.history).filter fun cells =>
        allTrue eng get filters (rowOf columnIds cells)).Perm
      ((table.filter fun stored => allTrue eng get filters (schema.row stored)).map fun stored =>
        columnIds.map (schema.row stored)) := by
  have hselects := selected_of_allTrue agrees builderOk pushdown drops stored
  exact dealt_plan_answers lawful startLawful roundTrips hselects projects created plans planning workerBind dealt
    executes reads

/-! ## Two workers -/

namespace Sample

/-- A coordinator of a scan of two INTEGER columns, whose plan has the splits `x` and `y`. -/
def pairCoordinator (options portableOptions : StringMap) : PaimonScanBindData String :=
  { TwoSplits.coordinator with
    paimonOptions := options
    distributed := { TwoSplits.coordinator.distributed with
      portableOptions, returnTypes := [{ id := .integer }, { id := .integer }], returnNames := ["f1", "f2"] } }

def pairPushed (options portableOptions : StringMap) : PaimonScanBindData String :=
  { pairCoordinator options portableOptions with
    predicates := some (.and [.leaf .equal 0 "f1" .int [.int 1]]) }

def pairTemplate (portableOptions : StringMap) : PaimonScanBindData String :=
  { pairCoordinator portableOptions portableOptions with
    distributed :=
      { (pairCoordinator portableOptions portableOptions).distributed with phase := .workerTemplate } }

theorem validate_pairPushed : (pairPushed .empty .empty).transportBase.validate = .ok () := by decide +kernel

theorem validate_pairTemplate : (pairTemplate .empty).transportBase.validate = .ok () := by decide +kernel

theorem created_pairTemplate (options portableOptions : StringMap) :
    paimonCreateDistributedWorkerBind (some (pairPushed options portableOptions)) =
      .ok (pairTemplate portableOptions) :=
  rfl

/-- The rows of the splits. -/
def pairContents (split : String) : List StoredRow :=
  if split = "x" then [pairRow 1 1] else if split = "y" then [pairRow 1 2] else []

/-- A row as a worker gets it: two columns behind the ignored one, and their schema. -/
def workerBatch (f1 f2 : Int) : ReadBatch (List Int) :=
  ⟨some ⟨1, [[], [f1], [f2]]⟩, some (.ok ⟨["_", "f1", "f2"], [], [integerColumn, integerColumn, integerColumn]⟩)⟩

def pairReader (split : String) : List (Result (ReadBatch (List Int))) :=
  if split = "x" then [.ok (workerBatch 1 1)] else if split = "y" then [.ok (workerBatch 1 2)] else []

def workersLibrary : ReadLibrary String (List Int) Value where
  scanSplits _ := .ok ["x", "y"]
  pickedFieldFilter p mapping := .ok (pick mapping p)
  createReader _ split := .ok (pairReader split)
  convert _ _ _ := .ok ()
  cell _ column row := integer (column.getD row 0)

theorem workersLibrary_reads (bind : PaimonScanBindData String) (start : PaimonScanGlobalState String)
    (hbind : Unfiltered (pairPushed .empty .empty) bind) (hphase : bind.distributed.phase = .workerAssigned)
    (hinit : paimonScanInitGlobal workersLibrary bind [0, 1] = .ok start) :
    ReadsMatching workersLibrary test twoColumns pairContents bind start [0, 1] := by
  have hworker : start.distributedWorker = true := (paimonScanInitGlobal_worker hinit).1.2 hphase
  have hnone : start.paimonPredicates = none := paimonPredicates_of_none hinit hbind.predicates
  obtain ⟨splits, index, path, arrowTable, predicates, worker⟩ := start
  cases hworker
  cases hnone
  intro split _
  refine ⟨pairContents split, .refl _ _, ?_⟩
  unfold splitRows pairContents
  by_cases hx : split = "x"
  · subst hx
    rfl
  · by_cases hy : split = "y"
    · subst hy
      rfl
    · rw [if_neg hx, if_neg hy]
      have hreader : workersLibrary.createReader (readContext bind ⟨splits, index, path, arrowTable, none, true⟩
        [0, 1]) split = .ok [] := by
        show Except.ok (pairReader split) = _
        unfold pairReader
        rw [if_neg hx, if_neg hy]
      rw [hreader]
      rfl

/-- A worker that is assigned one split, with these options of its host. -/
def assignedBind (options portableOptions : StringMap) (split : String) : PaimonScanBindData String :=
  { pairTemplate portableOptions with
    paimonOptions := options
    distributed := { (pairTemplate portableOptions).distributed with
      phase := .workerAssigned, hasSnapshot := true, snapshotId := 7, assignedSplits := [split] } }

def workerGlobal (split : String) (splitIndex : Nat) : PaimonScanGlobalState String where
  splits := [split]
  splitIndex
  path := "/wh/db.db/t"
  distributedWorker := true

/-- A row, and the end. -/
def workerHistory (options : StringMap) (split : String) (f1 f2 : Int) : List (ScanRecord Value) :=
  [⟨0, {}, [⟨0, readContext (assignedBind options .empty split) (workerGlobal split 0) [0, 1]⟩]⟩,
    ⟨0, ⟨1, [fun row => integer ([f1].getD row 0), fun row => integer ([f2].getD row 0)]⟩, []⟩, ⟨0, {}, []⟩]

theorem completes_workerHistory (options portableOptions : StringMap) (split : String) {f1 f2 : Int}
    (hreader : pairReader split = [.ok (workerBatch f1 f2)]) :
    Completes workersLibrary (assignedBind options portableOptions split) [0, 1] (workerGlobal split 0)
      (workerHistory options split f1 f2) := by
  have hbatch {split' : String} {reader : List (Result (ReadBatch (List Int)))} {batch : ReadBatch (List Int)}
      (hsplit : split' = split) (hcreated : (Except.ok (pairReader split') : Result _) = .ok reader)
      (hmem : .ok batch ∈ reader) : batch = workerBatch f1 f2 := by
    cases hsplit
    rw [hreader] at hcreated
    cases hcreated
    exact Except.ok.inj (List.mem_singleton.1 hmem)
  have hinit : ScanStep workersLibrary (assignedBind options portableOptions split) [0, 1]
    { global := workerGlobal split 0 }
      ⟨0, {}, [⟨0, readContext (assignedBind options portableOptions split) (workerGlobal split 0) [0, 1]⟩]⟩
      { global := workerGlobal split 1, locals := [(⟨[0, 1], pairReader split, false⟩, false)] } := .initLocal rfl
  rw [hreader] at hinit
  have hscan : ScanStep workersLibrary (assignedBind options portableOptions split) [0, 1]
      { global := workerGlobal split 1, locals := [(⟨[0, 1], [.ok (workerBatch f1 f2)], false⟩, false)] }
      ⟨0, ⟨1, [fun row => integer ([f1].getD row 0), fun row => integer ([f2].getD row 0)]⟩, []⟩
      { global := workerGlobal split 1, locals := [(⟨[0, 1], [], false⟩, false)] } := .scan 0 rfl rfl
  have hend : ScanStep workersLibrary (assignedBind options portableOptions split) [0, 1]
      { global := workerGlobal split 1, locals := [(⟨[0, 1], [], false⟩, false)] } ⟨0, {}, []⟩
      { global := workerGlobal split 2, locals := [(⟨[0, 1], [], true⟩, true)] } := .scan 0 rfl rfl
  refine ⟨rfl, ?_, ?_, _, .snoc (.snoc (.snoc .nil hinit) hscan) hend, List.cons_ne_nil _ _, ?_⟩
  · intro split' hsplit reader hcreated batch hmem
    rw [hbatch (List.mem_singleton.1 hsplit) hcreated hmem]
    exact Nat.le_of_lt (by decide : 1 < standardVectorSize)
  · intro k split' reader before batch after hsplit hcreated heq hlength
    have hsame : split' = split := List.mem_singleton.1 (List.mem_of_getElem? hsplit)
    have hmem : .ok batch ∈ reader := heq ▸ List.mem_append_right before List.mem_cons_self
    rw [hbatch hsame hcreated hmem] at hlength
    cases hlength
  · intro state hstate
    rw [List.mem_singleton.1 hstate]

/-- The options a host puts under those of the scan. -/
def hostOptions : StringMap :=
  (SortedMap.empty.insert Catalog.fileSystemKey "local").emplace Catalog.readBatchSizeKey "2048"

/-- A worker template of the coordinator takes a planned split. -/
theorem applies_planned {worker : PaimonScanBindData String} {split : DistributedScanSplit} {a : String}
    (hphase : worker.distributed.phase = .workerTemplate)
    {source : PaimonScanBindData String} (htakes : ∃ envelope,
      Takes TwoSplits.runtime TwoSplits.library source.distributed 7 split envelope a)
    (hset : worker.distributed.splitSetId = source.distributed.splitSetId)
    (hschema : worker.distributed.schemaId = source.distributed.schemaId) :
    paimonApplyDistributedScanSplits TwoSplits.runtime TwoSplits.library (some worker) [split] =
      (.ok (), some (worker.assign [split] 7 [a])) := by
  obtain ⟨envelope, htakes⟩ := htakes
  have hdistinct : ([split].map DistributedScanSplit.splitId).Nodup := List.nodup_singleton split.splitId
  have happlies := (assignable_of_takes hphase hdistinct (.cons ⟨envelope, htakes.of_identity hset hschema⟩
    .nil)).applies
  rwa [if_neg (List.cons_ne_nil split [])] at happlies

theorem roundTrips_library : RoundTrips TwoSplits.library := by
  intro split bytes hserialize
  cases hserialize
  rfl

/-- The worker of the split `x` is on another host than that of `y`; the filters leave one row of theirs. -/
theorem distributed_scan_answers_filters_pairs :
    (([workerHistory hostOptions "x" 1 1, workerHistory .empty "y" 1 2].flatMap emittedIn).filter fun cells =>
        allTrue engine scan twoFilters (rowOf [0, 1] cells)).Perm
      (([pairRow 1 1, pairRow 1 2].filter fun stored => allTrue engine scan twoFilters (twoColumns.row stored)).map
        fun stored => [0, 1].map (twoColumns.row stored)) := by
  have hlawful : TwoSplits.runtime.binary.Lawful := binaryFormat_lawful
  obtain ⟨splits, hplanning, hids, htakes⟩ := paimonPlanDistributedScanSplits_ok hlawful rfl validate_pairPushed
    (show TwoSplits.createPlan (pairPushed .empty .empty) = .ok (some ⟨some 7, ["x", "y"].map some⟩) from rfl)
    (by decide) TwoSplits.readsBack
  obtain ⟨x, y, rfl⟩ : ∃ x y, splits = [x, y] := List.length_eq_two.1 htakes.length_eq
  rw [List.forall₂_cons, List.forall₂_cons] at htakes
  have hhop : [TwoSplits.host].foldlM (hop TwoSplits.runtime binaryObjectStart) (pairTemplate .empty) =
      .ok ((pairTemplate .empty).transportBase.bindData (pairTemplate .empty).distributed.phase.bindKind
        hostOptions) := by
    rw [List.foldlM_cons, hop_ok hlawful binaryObjectStart_lawful (by decide) validate_pairTemplate rfl]
    rfl
  have hexecutes : ∀ worker ∈ ([⟨[TwoSplits.host], [x], assignedBind hostOptions .empty "x", workerGlobal "x" 0,
      workerHistory hostOptions "x" 1 1⟩, ⟨[], [y], assignedBind .empty .empty "y", workerGlobal "y" 0,
      workerHistory .empty "y" 1 2⟩] : List (WorkerScan String)),
      worker.Executes TwoSplits.runtime binaryObjectStart TwoSplits.library workersLibrary
        (pairTemplate .empty) [0, 1] := by
    rw [List.forall_mem_cons, List.forall_mem_singleton]
    exact ⟨⟨⟨_, hhop, applies_planned rfl htakes.1 rfl rfl⟩, completes_workerHistory hostOptions .empty "x" rfl⟩,
      ⟨⟨_, rfl, applies_planned rfl htakes.2.1 rfl rfl⟩, completes_workerHistory .empty .empty "y" rfl⟩⟩
  have hplans : PlansSelected test twoColumns pairContents [pairRow 1 1, pairRow 1 2] (pairPushed .empty .empty)
      ["x", "y"] := .refl _ _
  have hstored : StoredUnder engine (fun _ => "") "" scan (pairCoordinator .empty .empty).partKeys twoColumns
      [pairRow 1 1, pairRow 1 2] :=
    ⟨rfl, fun _ _ _ _ _ hkey => absurd hkey List.not_mem_nil, fun _ _ _ _ _ hkey => absurd hkey List.not_mem_nil⟩
  exact distributed_scan_answers_filters hlawful binaryObjectStart_lawful roundTrips_library (fun _ _ _ _ => agrees _ _ _)
    builder_succeeds
    (show paimonPushdownFilter reader builder (fun _ => "") scan (pairCoordinator .empty .empty) twoFilters =
      .ok (pairPushed .empty .empty) from rfl)
    (by decide) hstored projects_twoFilters rfl hplans hplanning (created_pairTemplate .empty .empty)
    (.refl _) hexecutes workersLibrary_reads

end Sample

end DuckPaimon.Scan
