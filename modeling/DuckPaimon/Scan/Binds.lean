/-
The scan binds the extension has (paimon_distributed_scan.cpp, paimon_scan.cpp), and what is left of
a bind after any number of hops: all that a worker reads of the table, the portable options and no
others, and the same bytes.
-/
import DuckPaimon.Scan.Plan

namespace DuckPaimon.Scan

open Outcome

section Binds

variable {Split : Type} (rt : Runtime) (start : PropertyCodec.ObjectStart Exception)

/-! ## Where portable options are -/

/-- The scan binds there are. `PaimonScanBind` leaves the state of a coordinator without portable
options. -/
inductive ScanBind : PaimonScanBindData Split → Prop
  | bound {bind : PaimonScanBindData Split} (phase : bind.distributed.phase = .coordinator)
      (portableOptions : bind.distributed.portableOptions = .empty) : ScanBind bind
  | deserialized {bind : PaimonScanBindData Split} {host : Catalog.OptionsHost} {bytes rest : String}
      (h : (paimonDistributedScanDeserialize rt start fun path => Catalog.getPaimonOptions host path []).run bytes =
        .ok (bind, rest)) : ScanBind bind
  | workerBind {source bind : PaimonScanBindData Split} (hsource : ScanBind source)
      (h : paimonCreateDistributedWorkerBind (some source) = .ok bind) : ScanBind bind
  | pushedDown {bind : PaimonScanBindData Split} (h : ScanBind bind) (predicates : Option Predicate)
      (partFilters : List StringMap) : ScanBind { bind with predicates, partFilters }

/-- The options a bind carries to other hosts: a bound one has them in its own options. -/
def PaimonScanBindData.carriedOptions (bind : PaimonScanBindData Split) : StringMap :=
  match bind.distributed.phase with
  | .coordinator => getPortableOptions bind.paimonOptions
  | _ => bind.distributed.portableOptions

/-- A bound bind has no portable options beside its own, another has the same ones in both places. -/
structure Placed (bind : PaimonScanBindData Split) : Prop where
  bound : bind.distributed.phase = .coordinator → bind.distributed.portableOptions = .empty
  shipped : bind.distributed.phase ≠ .coordinator → ∀ key, isPortableOption key = true →
    bind.paimonOptions.find? key = bind.distributed.portableOptions.find? key

variable {rt start}

/-- The options of a deserialized bind: the portable ones, put over those of the host. -/
theorem find?_paimonOptions_bindData {transport : PaimonDistributedBindTransport} {options : StringMap}
    (bindKind : UInt8) (key : String) :
    (transport.bindData bindKind options : PaimonScanBindData Split).paimonOptions.find? key =
      (transport.portableOptions.find? key).or (options.find? key) :=
  SortedMap.find?_overlay options transport.portableOptions key

theorem find?_paimonOptions_of_hostOnly {transport : PaimonDistributedBindTransport} {options : StringMap}
    (h : Catalog.HostOnly options) (bindKind : UInt8) {key : String} (hkey : isPortableOption key = true) :
    (transport.bindData bindKind options : PaimonScanBindData Split).paimonOptions.find? key =
      transport.portableOptions.find? key := by
  rw [find?_paimonOptions_bindData, nonePortable_of_hostOnly h key hkey, Option.or_none]

/-- What is deserialized is the bind of a transport. -/
theorem paimonDistributedScanDeserialize_eq_ok {getPaimonOptions : String → Except Exception StringMap}
    {bytes rest : String} {bind : PaimonScanBindData Split}
    (h : (paimonDistributedScanDeserialize rt start getPaimonOptions).run bytes = .ok (bind, rest)) :
    ∃ (transport : PaimonDistributedBindTransport) (bindKind : UInt8) (options : StringMap),
      getPaimonOptions transport.tableDataPath = .ok options ∧ bind = transport.bindData bindKind options := by
  unfold paimonDistributedScanDeserialize at h
  rw [StateT.run_bind] at h
  obtain ⟨⟨bindKind, bytes₁⟩, -, h⟩ := bind_eq_ok.1 h
  dsimp only at h
  split at h
  · cases h
  · rw [StateT.run_bind] at h
    obtain ⟨⟨_, bytes₂⟩, -, h⟩ := bind_eq_ok.1 h
    rw [StateT.run_bind] at h
    obtain ⟨⟨transport, bytes₃⟩, -, h⟩ := bind_eq_ok.1 h
    rw [PropertyCodec.run_liftM_bind] at h
    obtain ⟨_, -, h⟩ := bind_eq_ok.1 h
    rw [PropertyCodec.run_liftM_bind] at h
    obtain ⟨options, hoptions, h⟩ := bind_eq_ok.1 h
    exact ⟨transport, bindKind, options, hoptions, (congrArg Prod.fst (Except.ok.inj h)).symm⟩

theorem ScanBind.placed {bind : PaimonScanBindData Split} (h : ScanBind rt start bind) : Placed bind := by
  induction h with
  | bound hphase hoptions => exact ⟨fun _ => hoptions, fun hne => absurd hphase hne⟩
  | deserialized h =>
    obtain ⟨transport, bindKind, options, hoptions, rfl⟩ := paimonDistributedScanDeserialize_eq_ok h
    refine ⟨fun hphase => ?_, fun _ key hkey => ?_⟩
    · unfold PaimonDistributedBindTransport.bindData at hphase
      dsimp only at hphase
      split at hphase <;> cases hphase
    · exact find?_paimonOptions_of_hostOnly (Catalog.hostOnly_getPaimonOptions hoptions) bindKind hkey
  | workerBind hsource h ih =>
    unfold paimonCreateDistributedWorkerBind requireDistributedScanBindData at h
    obtain ⟨source, -, h⟩ := bind_eq_ok.1 h
    obtain ⟨-, h⟩ := throwIf_bind_eq_ok.1 h
    cases pure_eq_ok.1 h
    exact ⟨nofun, fun _ _ _ => rfl⟩
  | pushedDown h predicates partFilters ih => exact ⟨ih.bound, ih.shipped⟩

/-- The options a bind serializes are those it carries. -/
theorem Placed.portableOptions {bind : PaimonScanBindData Split} (h : Placed bind) :
    bind.transportBase.portableOptions = bind.carriedOptions := by
  have hbase : bind.transportBase.portableOptions =
      if bind.distributed.portableOptions.entries.isEmpty then getPortableOptions bind.paimonOptions
      else bind.distributed.portableOptions := rfl
  by_cases hphase : bind.distributed.phase = .coordinator
  · rw [hbase, h.bound hphase, PaimonScanBindData.carriedOptions, hphase]
    rfl
  · have hcarried : bind.carriedOptions = bind.distributed.portableOptions := by
      unfold PaimonScanBindData.carriedOptions
      split
      · rename_i hcoordinator
        exact absurd hcoordinator hphase
      · rfl
    rw [hbase, hcarried]
    split
    · rename_i hempty
      rw [List.isEmpty_iff] at hempty
      have hnone : NonePortable bind.paimonOptions := by
        intro key hkey
        rw [h.shipped hphase key hkey, SortedMap.eq_empty hempty]
        rfl
      rw [getPortableOptions_of_none hnone, SortedMap.eq_empty hempty]
    · rfl

/-! ## Any number of hops -/

/-- `bind'` reads what `bind` reads, under these portable options and no others. -/
structure SameScan (bind bind' : PaimonScanBindData Split) (options : StringMap) : Prop where
  path : bind'.path = bind.path
  tableDataPath : bind'.tableDataPath = bind.tableDataPath
  tableSchemaJson : bind'.tableSchemaJson = bind.tableSchemaJson
  schemaId : bind'.distributed.schemaId = bind.distributed.schemaId
  appendOnly : bind'.distributed.appendOnly = bind.distributed.appendOnly
  returnTypes : bind'.distributed.returnTypes = bind.distributed.returnTypes
  returnNames : bind'.distributed.returnNames = bind.distributed.returnNames
  partKeys : bind'.partKeys = bind.partKeys
  splitSetId : bind'.distributed.splitSetId = bind.distributed.splitSetId
  portableOptions : bind'.distributed.portableOptions = options
  contained : ∀ key value, options.find? key = some value → bind'.paimonOptions.find? key = some value
  noOther : ∀ key, isPortableOption key = true → bind'.paimonOptions.find? key = options.find? key

/-- The phase a bind has on another host. -/
def PaimonDistributedScanPhase.shipped : PaimonDistributedScanPhase → PaimonDistributedScanPhase
  | .workerTemplate => .workerTemplate
  | _ => .distributedCoordinator

/-- A hop gives the same scan, and keeps the transport and the kind. -/
theorem hop_sameScan (lawful : rt.binary.Lawful) (startLawful : start.Lawful) {bind : PaimonScanBindData Split}
    {host : Catalog.OptionsHost} (hphase : bind.distributed.phase ≠ .workerAssigned)
    (hvalid : bind.transportBase.validate = .ok ()) (hserves : Serves host bind.tableDataPath) :
    ∃ bind', hop rt start bind host = .ok bind' ∧ bind'.transportBase = bind.transportBase ∧
      bind'.distributed.phase = bind.distributed.phase.shipped ∧
      SameScan bind bind' bind.transportBase.portableOptions := by
  obtain ⟨options, hoptions⟩ := hserves
  have hhost := Catalog.hostOnly_getPaimonOptions hoptions
  refine ⟨_, hop_ok lawful startLawful hphase hvalid hoptions, transportBase_bindData hhost _ _, ?_, ?_⟩
  · cases hcases : bind.distributed.phase with
    | workerAssigned => exact absurd hcases hphase
    | _ => rfl
  · refine ⟨rfl, rfl, rfl, rfl, rfl, rfl, rfl, rfl, rfl, rfl, fun key value hvalue => ?_, fun key hkey => ?_⟩
    · rw [find?_paimonOptions_bindData, hvalue]
      rfl
    · exact find?_paimonOptions_of_hostOnly hhost _ hkey

theorem shipped_shipped (phase : PaimonDistributedScanPhase) : phase.shipped.shipped = phase.shipped := by
  cases phase <;> rfl

theorem shipped_ne_assigned (phase : PaimonDistributedScanPhase) : phase.shipped ≠ .workerAssigned := by
  cases phase <;> exact nofun

theorem bindKind_shipped {phase : PaimonDistributedScanPhase} (h : phase ≠ .workerAssigned) :
    phase.shipped.bindKind = phase.bindKind := by
  cases phase with
  | workerAssigned => exact absurd rfl h
  | _ => rfl

theorem SameScan.trans {bind bind' bind'' : PaimonScanBindData Split} {options options' : StringMap}
    (h : SameScan bind bind' options) (h' : SameScan bind' bind'' options') : SameScan bind bind'' options' :=
  ⟨h'.path.trans h.path, h'.tableDataPath.trans h.tableDataPath, h'.tableSchemaJson.trans h.tableSchemaJson,
    h'.schemaId.trans h.schemaId, h'.appendOnly.trans h.appendOnly, h'.returnTypes.trans h.returnTypes,
    h'.returnNames.trans h.returnNames, h'.partKeys.trans h.partKeys, h'.splitSetId.trans h.splitSetId,
    h'.portableOptions, h'.contained, h'.noOther⟩

/-- A bind serializes and arrives on each of the hosts, where it serializes to the same properties. -/
def Survives (rt : Runtime) (start : PropertyCodec.ObjectStart Exception) (bind : PaimonScanBindData Split)
    (options : StringMap) (hosts : List Catalog.OptionsHost) : Prop :=
  ∃ bind' properties, hosts.foldlM (hop rt start) bind = .ok bind' ∧
    paimonDistributedScanSerialize rt start (some bind) = .ok properties ∧
    paimonDistributedScanSerialize rt start (some bind') = .ok properties ∧
    (hosts ≠ [] → bind'.distributed.phase = bind.distributed.phase.shipped ∧ SameScan bind bind' options)

theorem survives (lawful : rt.binary.Lawful) (startLawful : start.Lawful) {bind : PaimonScanBindData Split}
    {hosts : List Catalog.OptionsHost} (hphase : bind.distributed.phase ≠ .workerAssigned)
    (hvalid : bind.transportBase.validate = .ok ()) (hserves : ∀ host ∈ hosts, Serves host bind.tableDataPath) :
    Survives rt start bind bind.transportBase.portableOptions hosts := by
  induction hosts generalizing bind with
  | nil => exact ⟨bind, _, rfl, paimonDistributedScanSerialize_ok hphase hvalid,
      paimonDistributedScanSerialize_ok hphase hvalid, fun hne => absurd rfl hne⟩
  | cons host hosts ih =>
    rw [List.forall_mem_cons] at hserves
    obtain ⟨next, hnext, hbase, hnextPhase, hsame⟩ := hop_sameScan lawful startLawful hphase hvalid hserves.1
    have hnextAssigned : next.distributed.phase ≠ .workerAssigned := hnextPhase ▸ shipped_ne_assigned _
    obtain ⟨last, properties, hlast, hproperties, hagain, hrest⟩ :=
      ih hnextAssigned (hbase ▸ hvalid) (hsame.tableDataPath ▸ hserves.2)
    refine ⟨last, properties, bind_eq_ok.2 ⟨next, hnext, hlast⟩, ?_, hagain, fun _ => ?_⟩
    · -- the next bind has the same transport and the same kind
      rw [paimonDistributedScanSerialize_ok hnextAssigned (hbase ▸ hvalid), hbase, hnextPhase,
        bindKind_shipped hphase] at hproperties
      rw [paimonDistributedScanSerialize_ok hphase hvalid, hproperties]
    · by_cases hnil : hosts = []
      · subst hnil
        cases pure_eq_ok.1 hlast
        exact ⟨hnextPhase, hsame⟩
      · obtain ⟨hlastPhase, hlastSame⟩ := hrest hnil
        rw [hbase] at hlastSame
        exact ⟨by rw [hlastPhase, hnextPhase, shipped_shipped], hsame.trans hlastSame⟩

/-- A valid bind that is not assigned survives any number of hops with its portable options, and so does
the worker bind that is made from it. The portable options of the binds there are stand in one place. -/
theorem scan_binds_survive_hops (lawful : rt.binary.Lawful) (startLawful : start.Lawful)
    {bind : PaimonScanBindData Split} (hphase : bind.distributed.phase ≠ .workerAssigned)
    (hvalid : bind.transportBase.validate = .ok ()) {hosts : List Catalog.OptionsHost}
    (hserves : ∀ host ∈ hosts, Serves host bind.tableDataPath) :
    Survives rt start bind bind.transportBase.portableOptions hosts ∧
      (ScanBind rt start bind → bind.transportBase.portableOptions = bind.carriedOptions) ∧
      (bind.distributed.phase = .distributedCoordinator →
        ∃ template, paimonCreateDistributedWorkerBind (some bind) = .ok template ∧
          template.distributed.phase = .workerTemplate ∧ SameScan bind template bind.distributed.portableOptions ∧
          Survives rt start template bind.distributed.portableOptions hosts) := by
  refine ⟨survives lawful startLawful hphase hvalid hserves, fun hbind => hbind.placed.portableOptions,
    fun hcoordinator => ?_⟩
  obtain ⟨template, hcreated, htemplate⟩ := template_paimonCreateDistributedWorkerBind hcoordinator hvalid
  have hsame : SameScan bind template bind.distributed.portableOptions := by
    unfold paimonCreateDistributedWorkerBind requireDistributedScanBindData at hcreated
    obtain ⟨source, hsource, hcreated⟩ := bind_eq_ok.1 hcreated
    obtain ⟨-, hcreated⟩ := throwIf_bind_eq_ok.1 hcreated
    cases pure_eq_ok.1 hsource
    cases pure_eq_ok.1 hcreated
    exact ⟨rfl, rfl, rfl, rfl, rfl, rfl, rfl, rfl, rfl, rfl, fun _ _ h => h, fun _ _ => rfl⟩
  have hbase : template.transportBase.portableOptions = bind.distributed.portableOptions := by
    rw [htemplate.transport]
    rfl
  refine ⟨template, hcreated, htemplate.phase, hsame, ?_⟩
  rw [← hbase]
  refine survives lawful startLawful ?_ ?_ ?_
  · rw [htemplate.phase]
    exact nofun
  · rw [htemplate.transport]
    exact validate_workerTransport hvalid
  · rw [hsame.tableDataPath]
    exact hserves

end Binds

/-- A bound scan of snapshot 7. -/
def snapshotBind : PaimonScanBindData String :=
  { TwoSplits.coordinator with
    paimonOptions := SortedMap.empty.insert scanSnapshotId "7"
    distributed := { TwoSplits.coordinator.distributed with phase := .coordinator } }

/-- Two hosts on, the scan is still one of snapshot 7. -/
theorem scan_binds_survive_hops_snapshot : ∃ bind',
    [TwoSplits.host, TwoSplits.host].foldlM (hop TwoSplits.runtime binaryObjectStart) snapshotBind = .ok bind' ∧
      bind'.distributed.phase = .distributedCoordinator ∧
      bind'.paimonOptions.find? scanSnapshotId = some "7" ∧ bind'.paimonOptions.find? scanTimestampMillis = none := by
  have hvalid : snapshotBind.transportBase.validate = .ok () := by decide +kernel
  have hserves : ∀ host ∈ [TwoSplits.host, TwoSplits.host], Serves host snapshotBind.tableDataPath := by
    simp [show snapshotBind.tableDataPath = TwoSplits.coordinator.tableDataPath from rfl, TwoSplits.serves_host]
  have hlawful : TwoSplits.runtime.binary.Lawful := binaryFormat_lawful
  obtain ⟨⟨bind', properties, hhops, -, -, hsame⟩, -, -⟩ :=
    scan_binds_survive_hops hlawful binaryObjectStart_lawful (by decide) hvalid hserves
  obtain ⟨hphase, hsame⟩ := hsame nofun
  refine ⟨bind', hhops, hphase, ?_, ?_⟩
  · rw [hsame.noOther _ (by decide)]
    decide +kernel
  · rw [hsame.noOther _ (by decide)]
    decide +kernel

end DuckPaimon.Scan
