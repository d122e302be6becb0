/-
What leaves a host with a scan does not depend on its secrets: two runs that differ in the secrets of their hosts
only ship the same bytes.
-/
import DuckPaimon.Scan.TimeTravel

namespace DuckPaimon.Scan

open Outcome

/-! ## Hosts that differ in their secrets -/

/-- The hosts differ in nothing but their secrets. -/
structure SameButSecrets (host host' : BindHost) : Prop where
  getEpochMs : host'.getEpochMs = host.getEpochMs
  getInt64 : host'.getInt64 = host.getInt64
  castAs : host'.castAs = host.castAs
  walk : host'.walk = host.walk

/-- The user's snapshot is set in the same way over any options. -/
theorem find?_snapshotOptions {host host' : Catalog.OptionsHost} {inputOptions : Catalog.InputOptions}
    {options options' result result' : StringMap} {key : String} (hepoch : host'.getEpochMs = host.getEpochMs)
    (hsame : options'.find? key = options.find? key)
    (h : Catalog.snapshotOptions host inputOptions options = .ok result)
    (h' : Catalog.snapshotOptions host' inputOptions options' = .ok result') :
    result'.find? key = result.find? key := by
  unfold Catalog.snapshotOptions at h h'
  obtain ⟨-, h⟩ := throwIf_bind_eq_ok.1 h
  obtain ⟨-, h'⟩ := throwIf_bind_eq_ok.1 h'
  cases hsnapId : Catalog.tryGetPaimonOptionValue inputOptions "snapshot_from_id" <;>
    cases hsnapTs : Catalog.tryGetPaimonOptionValue inputOptions "snapshot_from_timestamp" <;>
    simp only [hsnapId, hsnapTs] at h h'
  · cases pure_eq_ok.1 h
    cases pure_eq_ok.1 h'
    exact hsame
  · obtain ⟨epochMs, hepochMs, h⟩ := bind_eq_ok.1 h
    obtain ⟨epochMs', hepochMs', h'⟩ := bind_eq_ok.1 h'
    rw [hepoch, hepochMs] at hepochMs'
    cases hepochMs'
    cases pure_eq_ok.1 h
    cases pure_eq_ok.1 h'
    rw [SortedMap.find?_insert, SortedMap.find?_insert, hsame]
  · cases pure_eq_ok.1 h
    cases pure_eq_ok.1 h'
    rw [SortedMap.find?_insert, SortedMap.find?_insert, hsame]
  · obtain ⟨epochMs, hepochMs, h⟩ := bind_eq_ok.1 h
    obtain ⟨epochMs', hepochMs', h'⟩ := bind_eq_ok.1 h'
    rw [hepoch, hepochMs] at hepochMs'
    cases hepochMs'
    cases pure_eq_ok.1 h
    cases pure_eq_ok.1 h'
    simp only [SortedMap.find?_insert, hsame]

/-- Hosts that differ in their secrets only give a path options that differ in the keys of a host only. -/
theorem find?_getPaimonOptions {host host' : Catalog.OptionsHost} {path : String} {inputOptions : Catalog.InputOptions}
    {options options' : StringMap} {key : String} (hepoch : host'.getEpochMs = host.getEpochMs)
    (hkey : ¬Catalog.HostKey key) (h : Catalog.getPaimonOptions host path inputOptions = .ok options)
    (h' : Catalog.getPaimonOptions host' path inputOptions = .ok options') :
      options'.find? key = options.find? key := by
  unfold Catalog.getPaimonOptions at h h'
  obtain ⟨options₀, hmetastore, h⟩ := bind_eq_ok.1 h
  obtain ⟨_, hmetastore', h'⟩ := bind_eq_ok.1 h'
  cases hmetastore.symm.trans hmetastore'
  obtain ⟨options₁, hmanifest, h⟩ := bind_eq_ok.1 h
  obtain ⟨_, hmanifest', h'⟩ := bind_eq_ok.1 h'
  cases hmanifest.symm.trans hmanifest'
  obtain ⟨options₂, hfile, h⟩ := bind_eq_ok.1 h
  obtain ⟨_, hfile', h'⟩ := bind_eq_ok.1 h'
  cases hfile.symm.trans hfile'
  obtain ⟨secret, -, h⟩ := bind_eq_ok.1 h
  obtain ⟨secret', -, h'⟩ := bind_eq_ok.1 h'
  obtain ⟨withSecret, hsecret, h⟩ := bind_eq_ok.1 h
  obtain ⟨withSecret', hsecret', h'⟩ := bind_eq_ok.1 h'
  refine find?_snapshotOptions hepoch ?_ h h'
  -- up to here only the secrets made a difference
  have hbatch : key ≠ Catalog.readBatchSizeKey := by
    rintro rfl
    exact hkey (.inr (.inl rfl))
  unfold SortedMap.emplace
  rw [SortedMap.find?_upsert, SortedMap.find?_upsert, if_neg hbatch, if_neg hbatch,
    find?_secretOptions hkey hsecret, find?_secretOptions hkey hsecret']

section Moves

variable {Split : Type} {rt : Runtime} {objectStart : PropertyCodec.ObjectStart Exception}
  {splitLib : SplitLibrary Split} {reader : ValueReader} {builder : PredicateBuilder} {render : Value → String}
  {bind bind' after after' : PaimonScanBindData Split}

/-! ## Binds that differ in their options -/

/-- The binds differ in options that do not travel. -/
def SamePublic (bind bind' : PaimonScanBindData Split) : Prop :=
  ∃ options, bind' = { bind with paimonOptions := options } ∧
    ∀ key, isPortableOption key = true → options.find? key = bind.paimonOptions.find? key

/-- The portable options are made of nothing else. -/
theorem getPortableOptions_congr {options options' : StringMap}
    (h : ∀ key, isPortableOption key = true → options'.find? key = options.find? key) :
    getPortableOptions options' = getPortableOptions options := by
  rw [getPortableOptions_eq_foldl, getPortableOptions_eq_foldl]
  refine List.foldl_ext _ _ _ ?_
  intro result key hkey
  unfold copyOption
  rw [h key (isPortableOption_iff.2 hkey)]

theorem SamePublic.transportBase (h : SamePublic bind bind') : bind'.transportBase = bind.transportBase := by
  obtain ⟨options, rfl, hportable⟩ := h
  unfold PaimonScanBindData.transportBase
  dsimp only
  rw [getPortableOptions_congr hportable]

/-- Such binds serialize to the same bytes. -/
theorem SamePublic.serialize (h : SamePublic bind bind') :
    paimonDistributedScanSerialize rt objectStart (some bind') =
      paimonDistributedScanSerialize rt objectStart (some bind) := by
  have htransport : bind'.getTransportBase = bind.getTransportBase := by
    unfold PaimonScanBindData.getTransportBase
    rw [h.transportBase]
  have hphase : bind'.distributed.phase = bind.distributed.phase := by
    obtain ⟨options, rfl, -⟩ := h
    rfl
  have hstate : serializedState bind' = serializedState bind := by
    unfold serializedState
    rw [htransport, hphase]
  unfold paimonDistributedScanSerialize
  dsimp only
  rw [hstate]

/-- The envelopes of a plan are made of what the binds have in common. -/
theorem SamePublic.planSplits (h : SamePublic bind bind') (snapshotId : Option Int64) (index : Nat)
    (splits : List (Option Split)) :
    Scan.planSplits rt splitLib bind' snapshotId index splits =
      Scan.planSplits rt splitLib bind snapshotId index splits := by
  obtain ⟨options, rfl, -⟩ := h
  induction splits generalizing index with
  | nil => rfl
  | cons split splits ih =>
    cases split with
    | none => rfl
    | some split =>
      unfold Scan.planSplits
      simp only [ih]
      rfl

/-- The same plan is shipped as the same splits. -/
theorem SamePublic.plan (h : SamePublic bind bind')
    {createPlan : PaimonScanBindData Split → Except Exception (Option (ScanPlan Split))}
    (hplan : createPlan bind' = createPlan bind) :
    paimonPlanDistributedScanSplits rt splitLib createPlan (some bind') =
      paimonPlanDistributedScanSplits rt splitLib createPlan (some bind) := by
  have hdistributed : bind'.distributed = bind.distributed := by
    obtain ⟨options, rfl, -⟩ := h
    rfl
  unfold paimonPlanDistributedScanSplits requireDistributedScanBindData
  simp only [pure_bind, hplan, hdistributed, h.planSplits]

/-! ## Every move -/

/-- The bind on another host holds that host's secrets, and none of the host it came from. -/
theorem SamePublic.ship (h : SamePublic bind bind') (lawful : rt.binary.Lawful) (startLawful : objectStart.Lawful)
    {host host' : Catalog.OptionsHost} (hhop : hop rt objectStart bind host = .ok after)
    (hhop' : hop rt objectStart bind' host' = .ok after') : SamePublic after after' := by
  have hphase : bind'.distributed.phase = bind.distributed.phase := by
    obtain ⟨options, rfl, -⟩ := h
    rfl
  obtain ⟨options, hoptions, rfl⟩ := hop_returns lawful startLawful hhop
  obtain ⟨options', hoptions', rfl⟩ := hop_returns lawful startLawful hhop'
  rw [h.transportBase, hphase]
  refine ⟨_, rfl, ?_⟩
  intro key hkey
  rw [find?_paimonOptions_of_hostOnly (Catalog.hostOnly_getPaimonOptions hoptions) _ hkey]
  have hfind : (bind.transportBase.bindData bind.distributed.phase.bindKind options' :
      PaimonScanBindData Split).paimonOptions.find? key = bind.transportBase.portableOptions.find? key :=
    find?_paimonOptions_of_hostOnly (Catalog.hostOnly_getPaimonOptions hoptions') _ hkey
  exact hfind

theorem SamePublic.createWorkerBind (h : SamePublic bind bind')
    (hcreate : paimonCreateDistributedWorkerBind (some bind) = .ok after)
    (hcreate' : paimonCreateDistributedWorkerBind (some bind') = .ok after') : SamePublic after after' := by
  obtain ⟨options, rfl, -⟩ := h
  -- the options of the source are not read
  have hsame : paimonCreateDistributedWorkerBind (some { bind with paimonOptions := options }) =
      paimonCreateDistributedWorkerBind (some bind) := rfl
  cases hcreate.symm.trans (hsame.symm.trans hcreate')
  exact ⟨after.paimonOptions, rfl, fun _ _ => rfl⟩

theorem SamePublic.applySplits (h : SamePublic bind bind') {splits : List DistributedScanSplit}
    {r r' : Except Exception Unit}
    (happly : paimonApplyDistributedScanSplits rt splitLib (some bind) splits = (r, some after))
    (happly' : paimonApplyDistributedScanSplits rt splitLib (some bind') splits = (r', some after')) :
    SamePublic after after' := by
  obtain ⟨options, rfl, hportable⟩ := h
  have hassignable {snapshotId : Int64} {assigned : List Split} :
      Assignable rt splitLib { bind with paimonOptions := options } splits snapshotId assigned ↔
        Assignable rt splitLib bind splits snapshotId assigned :=
    ⟨fun h => ⟨h.phase, h.distinct, h.takes, h.none⟩, fun h => ⟨h.phase, h.distinct, h.takes, h.none⟩⟩
  rcases applied_cases happly with ⟨rfl, hnot⟩ | ⟨snapshotId, assigned, hassigned, rfl⟩ <;>
    rcases applied_cases happly' with ⟨rfl, hnot'⟩ | ⟨snapshotId', assigned', hassigned', rfl⟩
  · exact ⟨options, rfl, hportable⟩
  · exact absurd ⟨snapshotId', assigned', hassignable.1 hassigned'⟩ hnot
  · exact absurd ⟨snapshotId, assigned, hassignable.2 hassigned⟩ hnot'
  · obtain ⟨rfl, rfl⟩ := hassigned.unique (hassignable.1 hassigned')
    exact ⟨options, rfl, hportable⟩

theorem SamePublic.pushdownFilter (h : SamePublic bind bind') {get : LogicalGet} {filters : List Expression}
    (hpush : paimonPushdownFilter reader builder render get bind filters = .ok after)
    (hpush' : paimonPushdownFilter reader builder render get bind' filters = .ok after') : SamePublic after after' := by
  obtain ⟨options, rfl, hportable⟩ := h
  unfold paimonPushdownFilter at hpush hpush'
  obtain ⟨predicates, hpredicates, hpush⟩ := bind_eq_ok.1 hpush
  obtain ⟨_, hpredicates', hpush'⟩ := bind_eq_ok.1 hpush'
  cases hpredicates.symm.trans hpredicates'
  by_cases hkeys : bind.partKeys = []
  · rw [if_pos hkeys] at hpush hpush'
    cases pure_eq_ok.1 hpush
    cases pure_eq_ok.1 hpush'
    exact ⟨options, rfl, hportable⟩
  · rw [if_neg hkeys] at hpush hpush'
    obtain ⟨perExpr, hperExpr, hpush⟩ := bind_eq_ok.1 hpush
    obtain ⟨_, hperExpr', hpush'⟩ := bind_eq_ok.1 hpush'
    cases hperExpr.symm.trans hperExpr'
    cases pure_eq_ok.1 hpush
    cases pure_eq_ok.1 hpush'
    exact ⟨options, rfl, hportable⟩

/-- The same is done to both binds, shipping them to any hosts. -/
inductive SameMove : BindMove → BindMove → Prop
  | ship (host host' : Catalog.OptionsHost) : SameMove (.ship host) (.ship host')
  | createWorkerBind : SameMove .createWorkerBind .createWorkerBind
  | applySplits (splits : List DistributedScanSplit) : SameMove (.applySplits splits) (.applySplits splits)
  | pushdownFilter (get : LogicalGet) (filters : List Expression) :
      SameMove (.pushdownFilter get filters) (.pushdownFilter get filters)

theorem SamePublic.step (h : SamePublic bind bind') (lawful : rt.binary.Lawful) (startLawful : objectStart.Lawful)
    {move move' : BindMove} (hmove : SameMove move move')
    (hstep : BindStep rt objectStart splitLib reader builder render bind move after)
    (hstep' : BindStep rt objectStart splitLib reader builder render bind' move' after') : SamePublic after after' := by
  cases hmove with
  | ship host host' =>
    cases hstep with | ship hhop =>
    cases hstep' with | ship hhop' => exact h.ship lawful startLawful hhop hhop'
  | createWorkerBind =>
    cases hstep with | createWorkerBind hcreate =>
    cases hstep' with | createWorkerBind hcreate' => exact h.createWorkerBind hcreate hcreate'
  | applySplits splits =>
    cases hstep with | applySplits happly =>
    cases hstep' with | applySplits happly' => exact h.applySplits happly happly'
  | pushdownFilter get filters =>
    cases hstep with | pushdownFilter hpush =>
    cases hstep' with | pushdownFilter hpush' => exact h.pushdownFilter hpush hpush'

/-! ## From the bind on -/

/-- Binds of one table on hosts with other secrets differ in options that do not travel. -/
theorem samePublic_paimonScanBind {host host' : BindHost} {replies : BindReplies} {inputs : List String}
    {namedParameters : NamedParameters} (hhosts : SameButSecrets host host')
    (h : paimonScanBind host replies inputs namedParameters = .ok bind)
    (h' : paimonScanBind host' replies inputs namedParameters = .ok bind') : SamePublic bind bind' := by
  unfold paimonScanBind readExpectedSplits at h h'
  rw [hhosts.walk, hhosts.getInt64] at h'
  obtain ⟨path, hpath, h⟩ := bind_eq_ok.1 h
  obtain ⟨_, hpath', h'⟩ := bind_eq_ok.1 h'
  cases hpath.symm.trans hpath'
  -- Paimon replies the same to both, so only the options can differ
  obtain ⟨debugExpectedSplits, hsplits, h⟩ := bind_eq_ok.1 h
  obtain ⟨_, hsplits', h'⟩ := bind_eq_ok.1 h'
  cases hsplits.symm.trans hsplits'
  obtain ⟨options, hoptions, h⟩ := bind_eq_ok.1 h
  obtain ⟨options', hoptions', h'⟩ := bind_eq_ok.1 h'
  obtain ⟨-, -, h⟩ := bind_eq_ok.1 h
  obtain ⟨-, -, h'⟩ := bind_eq_ok.1 h'
  obtain ⟨tableDataPath, hlocation, h⟩ := bind_eq_ok.1 h
  obtain ⟨_, hlocation', h'⟩ := bind_eq_ok.1 h'
  cases hlocation.symm.trans hlocation'
  obtain ⟨tableSchema, hschema, h⟩ := bind_eq_ok.1 h
  obtain ⟨_, hschema', h'⟩ := bind_eq_ok.1 h'
  cases hschema.symm.trans hschema'
  rcases tableSchema with _ | tableSchema
  · cases h
  obtain ⟨tableSchemaJson, hjson, h⟩ := bind_eq_ok.1 h
  obtain ⟨_, hjson', h'⟩ := bind_eq_ok.1 h'
  cases hjson.symm.trans hjson'
  obtain ⟨populate, harrow, h⟩ := bind_eq_ok.1 h
  obtain ⟨_, harrow', h'⟩ := bind_eq_ok.1 h'
  cases harrow.symm.trans harrow'
  rcases populate with _ | populate
  · cases h
  obtain ⟨arrowTable, htable, h⟩ := bind_eq_ok.1 h
  obtain ⟨_, htable', h'⟩ := bind_eq_ok.1 h'
  cases htable.symm.trans htable'
  unfold initializePaimonDistributedScanBind at h h'
  obtain ⟨-, h⟩ := throwIf_bind_eq_ok.1 h
  obtain ⟨-, h'⟩ := throwIf_bind_eq_ok.1 h'
  cases pure_eq_ok.1 h
  cases pure_eq_ok.1 h'
  refine ⟨options', rfl, ?_⟩
  intro key hkey
  exact find?_getPaimonOptions hhosts.getEpochMs (fun hhost => not_portable_of_hostKey hhost hkey) hoptions hoptions'

theorem samePublic_getScanFunction {host host' : BindHost} {replies : BindReplies} {table : AttachedTable}
    {atClause : Option AtClause} (hhosts : SameButSecrets host host')
    (h : getScanFunction host replies table atClause = .ok bind)
    (h' : getScanFunction host' replies table atClause = .ok bind') : SamePublic bind bind' := by
  have hadd (paramMap : NamedParameters) : addAtClause host' paramMap atClause =
    addAtClause host paramMap atClause := by
    unfold addAtClause
    rw [hhosts.castAs]
  unfold getScanFunction at h h'
  rw [hadd] at h'
  obtain ⟨paramMap, hparamMap, h⟩ := bind_eq_ok.1 h
  obtain ⟨_, hparamMap', h'⟩ := bind_eq_ok.1 h'
  cases hparamMap.symm.trans hparamMap'
  exact samePublic_paimonScanBind hhosts h h'

/-- No credential leaves a host with a scan: take a table that is bound on two hosts that differ in their secrets, and
do the same to both binds, in any order, shipping them over hosts with any secrets. What would be shipped next is
the same, byte for byte: the bind, and, where Paimon plans the same splits, their envelopes. -/
theorem secrets_are_not_shipped {host host' : BindHost} {replies : BindReplies} {table : AttachedTable}
    {atClause : Option AtClause} {moves moves' : List BindMove} (lawful : rt.binary.Lawful)
    (startLawful : objectStart.Lawful) (hosts : SameButSecrets host host')
    (bound : getScanFunction host replies table atClause = .ok bind)
    (bound' : getScanFunction host' replies table atClause = .ok bind')
    (run : Run (BindStep rt objectStart splitLib reader builder render) bind moves after)
    (run' : Run (BindStep rt objectStart splitLib reader builder render) bind' moves' after')
    (same : List.Forall₂ SameMove moves moves') :
    paimonDistributedScanSerialize rt objectStart (some after') =
        paimonDistributedScanSerialize rt objectStart (some after) ∧
      ∀ createPlan : PaimonScanBindData Split → Except Exception (Option (ScanPlan Split)),
        createPlan after' = createPlan after →
          paimonPlanDistributedScanSplits rt splitLib createPlan (some after') =
            paimonPlanDistributedScanSplits rt splitLib createPlan (some after) := by
  have hpublic : SamePublic after after' :=
    run.pair run' same (samePublic_getScanFunction hosts bound bound')
      fun h hmove hstep hstep' => h.step lawful startLawful hmove hstep hstep'
  exact ⟨hpublic.serialize, fun _ hplan => hpublic.plan hplan⟩

end Moves

namespace Sample

/-- A host with a secret for every path. -/
def secretHost : BindHost :=
  { bindHost with lookupSecret := fun _ => .ok (some ⟨"config", fun key =>
    if key = "secret" then some "s3cr3t" else none⟩) }

def bucketReplies : BindReplies := { bindReplies with getTableLocation := .ok "s3://wh/db.db/t" }

def bucketTable : AttachedTable := ⟨"s3://wh", [], "db", "t"⟩

/-- What a computation returns. -/
theorem eq_ok_getD {ε α : Type} {x : Except ε α} (h : x.toOption.isSome = true) (a : α) :
    x = .ok (x.toOption.getD a) := by
  cases x with
  | error e => cases h
  | ok b => rfl

/-- The bind of the table on a host. -/
def boundOn (host : BindHost) : PaimonScanBindData String :=
  (getScanFunction host bucketReplies bucketTable none).toOption.getD TwoSplits.coordinator

theorem bound_boundOn_bindHost : getScanFunction bindHost bucketReplies bucketTable none = .ok (boundOn bindHost) :=
  eq_ok_getD (by decide +kernel) _

theorem bound_boundOn_secretHost :
    getScanFunction secretHost bucketReplies bucketTable none = .ok (boundOn secretHost) :=
  eq_ok_getD (by decide +kernel) _

theorem validate_boundOn : (boundOn bindHost).transportBase.validate = .ok () ∧
    (boundOn secretHost).transportBase.validate = .ok () := by decide +kernel

theorem phase_boundOn : (boundOn bindHost).distributed.phase ≠ .workerAssigned ∧
    (boundOn secretHost).distributed.phase ≠ .workerAssigned := by decide +kernel

/-- The options of a host for the data of the table. -/
def bucketOptions (host : BindHost) : StringMap :=
  (Catalog.getPaimonOptions host.toOptionsHost (boundOn host).tableDataPath []).toOption.getD .empty

theorem bucketOptions_bindHost :
    Catalog.getPaimonOptions bindHost.toOptionsHost (boundOn bindHost).tableDataPath [] =
      .ok (bucketOptions bindHost) :=
  eq_ok_getD (by decide +kernel) _

theorem bucketOptions_secretHost :
    Catalog.getPaimonOptions secretHost.toOptionsHost (boundOn secretHost).tableDataPath [] =
      .ok (bucketOptions secretHost) :=
  eq_ok_getD (by decide +kernel) _

theorem find?_bucketOptions : (bucketOptions secretHost).find? "s3.secret-key" = some "s3cr3t" := by decide +kernel

theorem portable_boundOn :
    (boundOn secretHost).transportBase.portableOptions.find? "s3.secret-key" = none := by decide +kernel

/-- A bind on a host with a secret has the secret, and is shipped as one without. -/
theorem secrets_are_not_shipped_bucket : ∃ after after' : PaimonScanBindData String,
    hop TwoSplits.runtime binaryObjectStart (boundOn bindHost) bindHost.toOptionsHost = .ok after ∧
      hop TwoSplits.runtime binaryObjectStart (boundOn secretHost) secretHost.toOptionsHost = .ok after' ∧
      after'.paimonOptions.find? "s3.secret-key" = some "s3cr3t" ∧
      paimonDistributedScanSerialize TwoSplits.runtime binaryObjectStart (some after') =
        paimonDistributedScanSerialize TwoSplits.runtime binaryObjectStart (some after) := by
  have hlawful : TwoSplits.runtime.binary.Lawful := binaryFormat_lawful
  have hhop := hop_ok hlawful binaryObjectStart_lawful phase_boundOn.1 validate_boundOn.1 bucketOptions_bindHost
  have hhop' := hop_ok hlawful binaryObjectStart_lawful phase_boundOn.2 validate_boundOn.2 bucketOptions_secretHost
  have run : Run (BindStep TwoSplits.runtime binaryObjectStart TwoSplits.library reader builder
    Write.Sample.renderText) (boundOn bindHost) _ _ := Run.nil.snoc (.ship hhop)
  have run' : Run (BindStep TwoSplits.runtime binaryObjectStart TwoSplits.library reader builder
    Write.Sample.renderText) (boundOn secretHost) _ _ := Run.nil.snoc (.ship hhop')
  have hhosts : SameButSecrets bindHost secretHost := ⟨rfl, rfl, rfl, rfl⟩
  have hbytes := secrets_are_not_shipped hlawful binaryObjectStart_lawful hhosts
    bound_boundOn_bindHost bound_boundOn_secretHost run run' (.cons (.ship _ _) .nil)
  refine ⟨_, _, hhop, hhop', ?_, hbytes.1⟩
  rw [find?_paimonOptions_bindData, portable_boundOn, find?_bucketOptions]
  rfl

end Sample

end DuckPaimon.Scan
