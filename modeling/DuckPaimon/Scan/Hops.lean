/-
Scan binds on their way between hosts (paimon_distributed_scan.cpp): a bind is serialized on one
host and deserialized on the next, which puts its own options under the portable ones. The transport
of a bind stays what it was, whatever the hosts.
-/
import DuckPaimon.Catalog.Options
import DuckPaimon.Scan.Distributed

namespace DuckPaimon.Scan

open Outcome

/-! ## Portable options -/

theorem isPortableOption_iff {key : String} :
    isPortableOption key = true ↔ key ∈ [scanManifestFormat, scanFileFormat, scanSnapshotId, scanTimestampMillis] := by
  simp [isPortableOption, or_assoc]

/-- A host sets no portable option by itself. -/
theorem not_portable_of_hostKey {key : String} (h : Catalog.HostKey key) : isPortableOption key ≠ true := by
  rw [ne_eq, isPortableOption_iff]
  intro hmem
  simp only [List.mem_cons, List.not_mem_nil, or_false] at hmem
  rcases h with rfl | rfl | ⟨rest, rfl⟩ | ⟨rest, rfl⟩
  · revert hmem
    decide
  · revert hmem
    decide
  all_goals
    rcases hmem with h | h | h | h <;>
      simp [scanManifestFormat, scanFileFormat, scanSnapshotId, scanTimestampMillis, String.ext_iff] at h

/-- The options hold no portable one. -/
def NonePortable (options : StringMap) : Prop := ∀ key, isPortableOption key = true → options.find? key = none

theorem nonePortable_of_hostOnly {options : StringMap} (h : Catalog.HostOnly options) : NonePortable options := by
  intro key hkey
  by_contra hsome
  exact not_portable_of_hostKey (h key hsome) hkey

theorem getPortableOptions_of_none {options : StringMap} (h : NonePortable options) :
    getPortableOptions options = .empty := by
  have hnone (key : String) (hkey : key ∈ [scanManifestFormat, scanFileFormat, scanSnapshotId, scanTimestampMillis]) :
      options.find? key = none := h key (isPortableOption_iff.2 hkey)
  unfold getPortableOptions
  simp only [List.forall_mem_cons, List.not_mem_nil, false_implies, implies_true, and_true] at hnone
  simp only [List.foldl_cons, List.foldl_nil, hnone]

/-! ## One hop -/

section Hop

variable {Split : Type} (rt : Runtime) (start : PropertyCodec.ObjectStart Exception)

/-- A bind is serialized and deserialized on a host. -/
def hop (bind : PaimonScanBindData Split) (host : Catalog.OptionsHost) : Except Exception (PaimonScanBindData Split) := do
  let properties ← paimonDistributedScanSerialize rt start (some bind)
  let (bind, _) ← (paimonDistributedScanDeserialize rt start fun path => Catalog.getPaimonOptions host path []).run
    (rt.binary.object properties)
  return bind

/-- The kind that is written for a phase. -/
def PaimonDistributedScanPhase.bindKind : PaimonDistributedScanPhase → UInt8
  | .coordinator => bindKindCoordinator
  | .distributedCoordinator => bindKindCoordinator
  | .workerTemplate => bindKindWorker
  | .workerAssigned => bindKindWorker

variable {rt start}

theorem deserialize_serialize (lawful : rt.binary.Lawful) (transport : PaimonDistributedBindTransport) (rest : String) :
    (PaimonDistributedBindTransport.deserialize rt).run (transport.serialize rt ++ rest) = .ok (transport, rest) := by
  unfold PaimonDistributedBindTransport.deserialize PaimonDistributedBindTransport.serialize
  simp only [lawful.readProperty_append_bind, lawful.finish_append_bind]
  rfl

/-- The properties of a bind are read back, and the host's options put under the portable ones. -/
theorem paimonDistributedScanDeserialize_ok (lawful : rt.binary.Lawful) (startLawful : start.Lawful)
    {getPaimonOptions : String → Except Exception StringMap} {transport : PaimonDistributedBindTransport}
    {options : StringMap} (phase : PaimonDistributedScanPhase) (hvalid : transport.validate = .ok ())
    (hoptions : getPaimonOptions transport.tableDataPath = .ok options) :
    (paimonDistributedScanDeserialize rt start getPaimonOptions : Deserializer (PaimonScanBindData Split)).run
        (rt.binary.object [rt.binary.write .uint8 1 "bind_kind" phase.bindKind,
          start.write 2 "scan_bind" ++ transport.serialize rt]) =
      .ok (transport.bindData phase.bindKind options, rt.binary.object []) := by
  have hkind : ¬(phase.bindKind ≠ bindKindCoordinator ∧ phase.bindKind ≠ bindKindWorker) := by
    cases phase <;> decide
  have hnested : rt.binary.object [start.write 2 "scan_bind" ++ transport.serialize rt] =
      start.write 2 "scan_bind" ++ (transport.serialize rt ++ rt.binary.object []) :=
    String.append_assoc
  unfold paimonDistributedScanDeserialize
  rw [lawful.readProperty_bind, if_neg hkind, hnested, startLawful.readObjectStart_bind, StateT.run_bind,
    deserialize_serialize lawful]
  refine bind_eq_ok.2 ⟨_, rfl, ?_⟩
  rw [PropertyCodec.run_liftM_bind]
  refine bind_eq_ok.2 ⟨(), hvalid, ?_⟩
  rw [PropertyCodec.run_liftM_bind]
  exact bind_eq_ok.2 ⟨options, hoptions, rfl⟩

theorem paimonDistributedScanSerialize_ok {bind : PaimonScanBindData Split}
    (hphase : bind.distributed.phase ≠ .workerAssigned) (hvalid : bind.transportBase.validate = .ok ()) :
    paimonDistributedScanSerialize rt start (some bind) =
      .ok [rt.binary.write .uint8 1 "bind_kind" bind.distributed.phase.bindKind,
        start.write 2 "scan_bind" ++ bind.transportBase.serialize rt] := by
  have hbase : bind.getTransportBase = .ok bind.transportBase := by
    unfold PaimonScanBindData.getTransportBase
    rw [hvalid]
    rfl
  have hstate : serializedState bind = .ok (bind.distributed.phase.bindKind, bind.transportBase) := by
    unfold serializedState
    cases hcases : bind.distributed.phase with
    | workerAssigned => exact absurd hcases hphase
    | _ =>
      rw [hbase]
      rfl
  unfold paimonDistributedScanSerialize
  dsimp only
  rw [hstate]
  show (do bind.transportBase.validate; _) = _
  rw [hvalid]
  rfl

/-- A hop of a bind that is not assigned gives the bind of its transport. -/
theorem hop_ok (lawful : rt.binary.Lawful) (startLawful : start.Lawful) {bind : PaimonScanBindData Split}
    {host : Catalog.OptionsHost} {options : StringMap} (hphase : bind.distributed.phase ≠ .workerAssigned)
    (hvalid : bind.transportBase.validate = .ok ())
    (hoptions : Catalog.getPaimonOptions host bind.tableDataPath [] = .ok options) :
    hop rt start bind host = .ok (bind.transportBase.bindData bind.distributed.phase.bindKind options) := by
  unfold hop
  rw [paimonDistributedScanSerialize_ok hphase hvalid, bind_eq_ok]
  refine ⟨_, rfl, ?_⟩
  have hread : (paimonDistributedScanDeserialize rt start (fun path => Catalog.getPaimonOptions host path []) :
      Deserializer (PaimonScanBindData Split)).run
        (rt.binary.object [rt.binary.write .uint8 1 "bind_kind" bind.distributed.phase.bindKind,
          start.write 2 "scan_bind" ++ bind.transportBase.serialize rt]) =
      .ok (bind.transportBase.bindData bind.distributed.phase.bindKind options, rt.binary.object []) :=
    paimonDistributedScanDeserialize_ok lawful startLawful bind.distributed.phase hvalid hoptions
  rw [hread]
  rfl

/-- The bind of a transport has that transport. -/
theorem transportBase_bindData {options : StringMap} (h : Catalog.HostOnly options) (bindKind : UInt8)
    (transport : PaimonDistributedBindTransport) :
    (transport.bindData bindKind options : PaimonScanBindData Split).transportBase = transport := by
  obtain ⟨path, tableDataPath, tableSchemaJson, schemaId, appendOnly, returnTypes, returnNames, partKeys, portableOptions,
    splitSetId⟩ := transport
  have hportable : (if portableOptions.entries.isEmpty then
      getPortableOptions (portableOptions.entries.foldl (fun options option => options.insert option.1 option.2) options)
      else portableOptions) = portableOptions := by
    split
    · rename_i hempty
      rw [List.isEmpty_iff] at hempty
      rw [SortedMap.eq_empty hempty]
      exact getPortableOptions_of_none (nonePortable_of_hostOnly h)
    · rfl
  unfold PaimonScanBindData.transportBase PaimonDistributedBindTransport.bindData
  dsimp only
  rw [hportable]

end Hop

/-! ## Worker templates -/

section Template

variable {Split : Type} {rt : Runtime} {start : PropertyCodec.ObjectStart Exception}
  {transport : PaimonDistributedBindTransport} {bind : PaimonScanBindData Split}

/-- An unassigned worker bind of a transport. -/
structure Template (transport : PaimonDistributedBindTransport) (bind : PaimonScanBindData Split) : Prop where
  phase : bind.distributed.phase = .workerTemplate
  transport : bind.transportBase = transport

/-- A host can compute its options for a data path. -/
def Serves (host : Catalog.OptionsHost) (tableDataPath : String) : Prop :=
  ∃ options, Catalog.getPaimonOptions host tableDataPath [] = .ok options

theorem Template.hop (h : Template transport bind) (lawful : rt.binary.Lawful) (startLawful : start.Lawful)
    (hvalid : transport.validate = .ok ()) {host : Catalog.OptionsHost} (hserves : Serves host transport.tableDataPath) :
    ∃ bind', hop rt start bind host = .ok bind' ∧ Template transport bind' := by
  obtain ⟨options, hoptions⟩ := hserves
  obtain ⟨hphase, rfl⟩ := h
  refine ⟨_, hop_ok lawful startLawful (by rw [hphase]; exact nofun) hvalid hoptions, ?_, ?_⟩
  · rw [hphase]
    rfl
  · exact transportBase_bindData (Catalog.hostOnly_getPaimonOptions hoptions) _ _

/-- Any number of hops. -/
theorem Template.hops (h : Template transport bind) (lawful : rt.binary.Lawful) (startLawful : start.Lawful)
    (hvalid : transport.validate = .ok ()) {hosts : List Catalog.OptionsHost}
    (hserves : ∀ host ∈ hosts, Serves host transport.tableDataPath) :
    ∃ bind', hosts.foldlM (Scan.hop rt start) bind = .ok bind' ∧ Template transport bind' := by
  induction hosts generalizing bind with
  | nil => exact ⟨bind, rfl, h⟩
  | cons host hosts ih =>
    rw [List.forall_mem_cons] at hserves
    obtain ⟨next, hnext, htemplate⟩ := h.hop lawful startLawful hvalid hserves.1
    obtain ⟨last, hlast, htemplate⟩ := ih htemplate hserves.2
    exact ⟨last, bind_eq_ok.2 ⟨next, hnext, hlast⟩, htemplate⟩

/-- A valid transport has a split set and a schema. -/
theorem identity_of_validate (h : transport.validate = .ok ()) : transport.splitSetId ≠ "" ∧ ¬transport.schemaId < 0 := by
  unfold PaimonDistributedBindTransport.validate at h
  obtain ⟨hcomplete, -⟩ := throwIf_bind_eq_ok.1 h
  simp only [not_or] at hcomplete
  exact ⟨hcomplete.2.2.2.2.2.2.2, hcomplete.2.2.2.2.1⟩

/-- A transport is also valid without its options. -/
theorem validate_withoutOptions (h : transport.validate = .ok ()) :
    { transport with portableOptions := SortedMap.empty }.validate = .ok () := by
  unfold PaimonDistributedBindTransport.validate at h ⊢
  obtain ⟨hcomplete, h⟩ := throwIf_bind_eq_ok.1 h
  obtain ⟨u, houtput, h⟩ := bind_eq_ok.1 h
  obtain ⟨u', hkeys, -⟩ := bind_eq_ok.1 h
  exact throwIf_bind_eq_ok.2 ⟨hcomplete, bind_eq_ok.2 ⟨(), houtput, bind_eq_ok.2 ⟨(), hkeys, rfl⟩⟩⟩

/-- The transport of a worker bind: that of the coordinator bind it is made from, which drops options that
the coordinator has not got from a transport. -/
def PaimonScanBindData.workerTransport (bind : PaimonScanBindData Split) : PaimonDistributedBindTransport :=
  { bind.transportBase with portableOptions := bind.distributed.portableOptions }

theorem validate_workerTransport (h : bind.transportBase.validate = .ok ()) : bind.workerTransport.validate = .ok () := by
  unfold PaimonScanBindData.workerTransport
  by_cases hempty : bind.distributed.portableOptions.entries = []
  · rw [SortedMap.eq_empty hempty]
    exact validate_withoutOptions h
  · have hsame : bind.transportBase.portableOptions = bind.distributed.portableOptions := by
      unfold PaimonScanBindData.transportBase
      rw [if_neg (by rwa [List.isEmpty_iff])]
    rw [← hsame]
    exact h

/-- The worker bind of a valid coordinator bind is a template. -/
theorem template_paimonCreateDistributedWorkerBind (hphase : bind.distributed.phase = .distributedCoordinator)
    (hvalid : bind.transportBase.validate = .ok ()) :
    ∃ template, paimonCreateDistributedWorkerBind (some bind) = .ok template ∧ Template bind.workerTransport template := by
  have hset : bind.distributed.splitSetId ≠ "" := (identity_of_validate hvalid).1
  unfold paimonCreateDistributedWorkerBind requireDistributedScanBindData
  refine ⟨_, bind_eq_ok.2 ⟨bind, rfl, throwIf_bind_eq_ok.2 ⟨by simp [hphase, hset], rfl⟩⟩, rfl, ?_⟩
  unfold PaimonScanBindData.workerTransport PaimonScanBindData.transportBase
  dsimp only
  split
  · rename_i hempty
    rw [List.isEmpty_iff] at hempty
    rw [SortedMap.eq_empty hempty]
    rfl
  · rfl

end Template

end DuckPaimon.Scan
