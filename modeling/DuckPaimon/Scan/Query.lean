/-
A query of a table of an attached catalog, from its bind to its rows: the bind is shipped and gets filters, a
coordinator plans it, the splits are dealt to workers, and the filters are applied to what comes back.
-/
import DuckPaimon.Scan.TimeTravel

namespace DuckPaimon.Scan

open Outcome

section Query

variable {Split Array : Type} {rt : Runtime} {objectStart : PropertyCodec.ObjectStart Exception}
  {splitLib : SplitLibrary Split} {reader : ValueReader} {builder : PredicateBuilder} {render : Value → String}
  {eng : Engine} {test : Predicate.LeafTest} {nullPartName : String} {get : LogicalGet} {schema : TableFields}
  {filters : List Expression} {table : List StoredRow} {bind bind' : PaimonScanBindData Split} {moves : List BindMove}

/-- What a bind selects leaves no row out on which every filter is TRUE. -/
def SelectsMatching (eng : Engine) (test : Predicate.LeafTest) (get : LogicalGet) (schema : TableFields)
    (filters : List Expression) (table : List StoredRow) (bind : PaimonScanBindData Split) : Prop :=
  ∀ stored ∈ table, allTrue eng get filters (schema.row stored) = true → selected test schema bind stored = true

/-- The moves push no other filters than these. -/
def PushesOnly (get : LogicalGet) (filters : List Expression) (moves : List BindMove) : Prop :=
  ∀ get' filters', BindMove.pushdownFilter get' filters' ∈ moves → get' = get ∧ ∀ f ∈ filters', f ∈ filters

theorem selectsMatching_of_none (hpredicates : bind.predicates = none) (hpartFilters : bind.partFilters = []) :
    SelectsMatching eng test get schema filters table bind := by
  intro stored _ _
  unfold selected
  rw [hpredicates, hpartFilters]
  rfl

/-- A move leaves out no matching row: filters travel with no bind, and those that are pushed are the query's. -/
theorem SelectsMatching.step {move : BindMove} (h : SelectsMatching eng test get schema filters table bind)
    (lawful : rt.binary.Lawful) (startLawful : objectStart.Lawful)
    (agrees : AgreesOn eng test reader get schema filters table) (builderOk : builder.Succeeds)
    (drops : ∀ f ∈ filters, dropsUnderNot reader get true f = false)
    (stored : StoredUnder eng render nullPartName get bind.partKeys schema table)
    (hpushes : PushesOnly get filters [move])
    (hstep : BindStep rt objectStart splitLib reader builder render bind move bind') :
    SelectsMatching eng test get schema filters table bind' := by
  cases hstep with
  | ship hhop =>
    have hunfiltered := unfiltered_hop lawful startLawful hhop
    exact selectsMatching_of_none hunfiltered.predicates hunfiltered.partFilters
  | createWorkerBind hcreate =>
    have hunfiltered := unfiltered_paimonCreateDistributedWorkerBind hcreate
    exact selectsMatching_of_none hunfiltered.predicates hunfiltered.partFilters
  | applySplits happly =>
    rcases applied_cases happly with ⟨rfl, -⟩ | ⟨snapshotId, assigned, -, rfl⟩
    · exact h
    · exact h
  | @pushdownFilter get' filters' _ hpushdown =>
    obtain ⟨rfl, hsubset⟩ := hpushes get' filters' List.mem_cons_self
    -- what is pushed is some of the filters, which are all TRUE where all filters are
    have hpushed := selected_of_allTrue (fun row hrow f hf => agrees row hrow f (hsubset f hf)) builderOk hpushdown
      (fun f hf => drops f (hsubset f hf)) stored
    intro row hrow htrue
    apply hpushed row hrow
    rw [allTrue_iff] at htrue ⊢
    exact fun f hf => htrue f (hsubset f hf)

/-- Nor does any number of moves. -/
theorem selectsMatching_run {version : ScanVersion} (hpredicates : bind.predicates = none)
    (hpartFilters : bind.partFilters = []) (hkeeps : KeepsVersion version bind) (lawful : rt.binary.Lawful)
    (startLawful : objectStart.Lawful) (agrees : AgreesOn eng test reader get schema filters table)
    (builderOk : builder.Succeeds) (drops : ∀ f ∈ filters, dropsUnderNot reader get true f = false)
    (stored : StoredUnder eng render nullPartName get bind.partKeys schema table)
    (run : Run (BindStep rt objectStart splitLib reader builder render) bind moves bind')
    (pushes : PushesOnly get filters moves) : SelectsMatching eng test get schema filters table bind' := by
  have hrun : (KeepsVersion version bind' ∧ SameTable bind bind') ∧
      (PushesOnly get filters moves → SelectsMatching eng test get schema filters table bind') := by
    refine run.invariant (I := fun moves after => (KeepsVersion version after ∧ SameTable bind after) ∧
      (PushesOnly get filters moves → SelectsMatching eng test get schema filters table after)) ?_ ?_
    · exact ⟨⟨hkeeps, .refl bind⟩, fun _ => selectsMatching_of_none hpredicates hpartFilters⟩
    · rintro moves after move after' ⟨⟨hkept, hsame⟩, hselects⟩ hstep
      obtain ⟨hkept', hsame'⟩ := hkept.step lawful startLawful hstep
      refine ⟨⟨hkept', hsame.trans hsame'⟩, ?_⟩
      intro hpushes
      have hbefore : PushesOnly get filters moves :=
        fun get' filters' hmem => hpushes get' filters' (List.mem_append_left _ hmem)
      have hlast : PushesOnly get filters [move] :=
        fun get' filters' hmem => hpushes get' filters' (List.mem_append_right _ hmem)
      have hstoredAfter : StoredUnder eng render nullPartName get after.partKeys schema table := by
        rw [hsame.partKeys]
        exact stored
      exact (hselects hbefore).step lawful startLawful agrees builderOk drops hstoredAfter hlast hstep
  exact hrun.2 pushes

/-- A query of a table of an attached catalog, answered by workers: the rows that pass the filters above the scan
are exactly the rows of the version the query asks for on which every filter is TRUE, each as often as it is stored.
The bind may have been shipped over any hosts, and the filters pushed into it anywhere on the way; the plan may be
dealt to the workers in any way. -/
theorem attached_query_answers_version {host : BindHost} {replies : BindReplies} {attached : AttachedTable}
    {atClause : Option AtClause} {coordinator template : PaimonScanBindData Split} {lib : ReadLibrary Split Array Value}
    {columnIds : List Nat} {contents : Split → List StoredRow} {rows : ScanVersion → List StoredRow}
    {createPlan : PaimonScanBindData Split → Except Exception (Option (ScanPlan Split))} {plan : ScanPlan Split}
    {splits : List DistributedScanSplit} {scans : List (WorkerScan Split)}
    (lawful : rt.binary.Lawful) (startLawful : objectStart.Lawful) (roundTrips : RoundTrips splitLib)
    (agrees : ∀ version, AgreesOn eng test reader get schema filters (rows version)) (builderOk : builder.Succeeds)
    (bound : getScanFunction host replies attached atClause = .ok bind)
    (run : Run (BindStep rt objectStart splitLib reader builder render) bind moves coordinator)
    (pushes : PushesOnly get filters moves) (drops : ∀ f ∈ filters, dropsUnderNot reader get true f = false)
    (stored : ∀ version, StoredUnder eng render nullPartName get bind.partKeys schema (rows version))
    (projects : Projects get schema filters columnIds) (created : createPlan coordinator = .ok (some plan))
    (plans : ∀ version : ScanVersion, version.AskedBy coordinator.paimonOptions →
      PlansSelected test schema contents (rows version) coordinator (plan.splits.filterMap id))
    (planning : paimonPlanDistributedScanSplits rt splitLib createPlan (some coordinator) = .ok splits)
    (workerBind : paimonCreateDistributedWorkerBind (some coordinator) = .ok template)
    (dealt : (scans.flatMap WorkerScan.dealt).Perm splits)
    (executes : ∀ scan ∈ scans, scan.Executes rt objectStart splitLib lib template columnIds)
    (reads : ∀ bind start, Unfiltered coordinator bind → bind.distributed.phase = .workerAssigned →
      paimonScanInitGlobal lib bind columnIds = .ok start → ReadsMatching lib test schema contents bind
        start columnIds) :
    ∃ version : ScanVersion, Requested host attached.attachOptions version atClause ∧
      ((scans.flatMap fun scan => emittedIn scan.history).filter fun cells =>
          allTrue eng get filters (rowOf columnIds cells)).Perm
        (((rows version).filter fun stored => allTrue eng get filters (schema.row stored)).map fun stored =>
          columnIds.map (schema.row stored)) := by
  obtain ⟨-, hpredicates, hpartFilters, version, hrequested, hkeeps⟩ := keepsVersion_getScanFunction bound
  have hasked := (hkeeps.run lawful startLawful run).1.asked
  have hselects := selectsMatching_run hpredicates hpartFilters hkeeps lawful startLawful (agrees version)
    builderOk drops (stored version) run pushes
  exact ⟨version, hrequested, dealt_plan_answers lawful startLawful roundTrips hselects projects created
    (plans version hasked) planning workerBind dealt executes reads⟩

end Query

/-! ## Two workers at a snapshot -/

namespace Sample

/-- The table of two INTEGER columns. -/
def pairReplies : BindReplies :=
  { bindReplies with
    loadTableSchema := .ok (some
      { dataSchema := some ⟨0, [], [], .empty⟩
        jsonSchema := .ok "[]"
        arrowSchema := .ok (some (.ok ⟨["f1", "f2"], [{ id := .integer }, { id := .integer }],
          [integerColumn, integerColumn]⟩)) }) }

/-- The portable options of a scan of snapshot 7. -/
def sevenOptions : StringMap := SortedMap.empty.insert scanSnapshotId "7"

/-- They stand over those of the host. -/
def sevenHostOptions : StringMap := hostOptions.insert scanSnapshotId "7"

/-- The bind of a query of snapshot 7. -/
def pairBound : PaimonScanBindData String :=
  match getScanFunction bindHost pairReplies attachedTable (some ⟨"version", "7"⟩) with
  | .ok bind => bind
  | .error _ => TwoSplits.coordinator

theorem bound_pairBound :
    getScanFunction bindHost pairReplies attachedTable (some ⟨"version", "7"⟩) = .ok pairBound := rfl

theorem validate_pairBound : pairBound.transportBase.validate = .ok () := by decide +kernel

theorem shipped_pairBound : hop TwoSplits.runtime binaryObjectStart pairBound TwoSplits.host =
    .ok (pairCoordinator sevenHostOptions sevenOptions) := by
  have hlawful : TwoSplits.runtime.binary.Lawful := binaryFormat_lawful
  rw [hop_ok hlawful binaryObjectStart_lawful (by decide) validate_pairBound rfl]
  rfl

theorem validate_pairPushed_seven : (pairPushed sevenHostOptions sevenOptions).transportBase.validate = .ok () := by
  decide +kernel

/-- The rows of the snapshots: 7 has two. -/
def snapshotRows (version : ScanVersion) : List StoredRow :=
  if version.snapshotId = some "7" then [pairRow 1 1, pairRow 1 2] else []

/-- The coordinator is another host; the filters leave one row of snapshot 7. -/
theorem attached_query_answers_version_seven : ∃ version : ScanVersion, version.snapshotId = some "7" ∧
    (([workerHistory sevenOptions "x" 1 1, workerHistory sevenOptions "y" 1 2].flatMap emittedIn).filter fun cells =>
        allTrue engine scan twoFilters (rowOf [0, 1] cells)).Perm
      (((snapshotRows version).filter fun stored => allTrue engine scan twoFilters (twoColumns.row stored)).map
        fun stored => [0, 1].map (twoColumns.row stored)) := by
  have hlawful : TwoSplits.runtime.binary.Lawful := binaryFormat_lawful
  have hpushdown : paimonPushdownFilter reader builder (fun _ => "") scan
    (pairCoordinator sevenHostOptions sevenOptions) twoFilters = .ok (pairPushed sevenHostOptions sevenOptions) := rfl
  have run : Run (BindStep TwoSplits.runtime binaryObjectStart TwoSplits.library reader builder fun _ => "") pairBound
      [.ship TwoSplits.host, .pushdownFilter scan twoFilters] (pairPushed sevenHostOptions sevenOptions) :=
    (Run.nil.snoc (.ship shipped_pairBound)).snoc (.pushdownFilter hpushdown)
  have hpushes : PushesOnly scan twoFilters [.ship TwoSplits.host, .pushdownFilter scan twoFilters] := by
    intro get' filters' hmem
    rcases List.mem_cons.1 hmem with heq | hmem
    · cases heq
    · cases List.mem_singleton.1 hmem
      exact ⟨rfl, fun _ h => h⟩
  obtain ⟨splits, hplanning, hids, htakes⟩ := paimonPlanDistributedScanSplits_ok hlawful rfl validate_pairPushed_seven
    (show TwoSplits.createPlan (pairPushed sevenHostOptions sevenOptions) =
      .ok (some ⟨some 7, ["x", "y"].map some⟩) from rfl) (by decide) TwoSplits.readsBack
  obtain ⟨x, y, rfl⟩ : ∃ x y, splits = [x, y] := List.length_eq_two.1 htakes.length_eq
  rw [List.forall₂_cons, List.forall₂_cons] at htakes
  have hexecutes : ∀ worker ∈ ([⟨[], [x], assignedBind sevenOptions sevenOptions "x", workerGlobal "x" 0,
      workerHistory sevenOptions "x" 1 1⟩, ⟨[], [y], assignedBind sevenOptions sevenOptions "y", workerGlobal "y" 0,
      workerHistory sevenOptions "y" 1 2⟩] : List (WorkerScan String)),
      worker.Executes TwoSplits.runtime binaryObjectStart TwoSplits.library workersLibrary (pairTemplate sevenOptions)
        [0, 1] := by
    rw [List.forall_mem_cons, List.forall_mem_singleton]
    exact ⟨⟨⟨_, rfl, applies_planned rfl htakes.1 rfl rfl⟩, completes_workerHistory sevenOptions sevenOptions "x" rfl⟩,
      ⟨⟨_, rfl, applies_planned rfl htakes.2.1 rfl rfl⟩, completes_workerHistory sevenOptions sevenOptions "y" rfl⟩⟩
  have hplans : ∀ version : ScanVersion, version.AskedBy (pairPushed sevenHostOptions sevenOptions).paimonOptions →
      PlansSelected test twoColumns pairContents (snapshotRows version) (pairPushed sevenHostOptions sevenOptions)
        ["x", "y"] := by
    intro version hasked
    have hseven : version.snapshotId = some "7" := hasked.snapshotId.symm.trans (by decide +kernel)
    unfold snapshotRows
    rw [if_pos hseven]
    exact .refl _ _
  obtain ⟨version, hrequested, hanswers⟩ := attached_query_answers_version hlawful binaryObjectStart_lawful
    roundTrips_library (fun _ _ _ _ _ => agrees _ _ _) builder_succeeds bound_pairBound run hpushes (by decide)
    (fun _ => (⟨rfl, fun _ _ _ _ _ hkey => absurd hkey List.not_mem_nil,
      fun _ _ _ _ _ hkey => absurd hkey List.not_mem_nil⟩ : StoredUnder engine (fun _ => "") "" scan [] twoColumns _))
    projects_twoFilters rfl hplans hplanning (created_pairTemplate sevenHostOptions sevenOptions) (.refl _) hexecutes
    fun bind start hbind => workersLibrary_reads bind start
      ⟨hbind.tableDataPath, hbind.tableSchemaJson, hbind.predicates, hbind.partFilters⟩
  refine ⟨version, ?_, hanswers⟩
  rcases hrequested with ⟨-, -, snapshotId, hcast, hid⟩ | ⟨hunit, -⟩
  · cases castAs_seven.symm.trans hcast
    exact hid
  · exact absurd hunit (by decide +kernel)

end Sample

end DuckPaimon.Scan
