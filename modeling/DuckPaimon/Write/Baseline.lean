/-
The recorded target of a distributed write: planning an INSERT records the state that is loaded, planning
a CREATE TABLE AS records a table without snapshots, whose remaining state is recorded when the created
table is captured. No other call changes what is recorded.
-/
import DuckPaimon.Write.Bind

namespace DuckPaimon.Write

open Outcome

variable {Message : Type} {rt : Runtime} {vane : Vane}

/-! ## Planning records the target -/

/-- What planning records: the loaded state for an INSERT, a table without snapshots for a CREATE TABLE AS. -/
structure Records (insert : PhysicalPaimonInsert) (target : CatalogReplies) (insert' : PhysicalPaimonInsert) : Prop where
  loaded : insert.info = none → loadTargetState insert.tableIdentifier target = .ok insert'.recorded
  planned : insert.info ≠ none → insert'.distributedHasSnapshot = false ∧ insert'.distributedSnapshotId = 0 ∧
    insert'.distributedTableUuid = insert.tableIdentifier.fullName

theorem wp_planInsert (inputTypes : List LogicalType) (replies : CatalogReplies) (insert : PhysicalPaimonInsert) :
    (planInsert rt inputTypes replies : Coordinator Message Unit).wp insert fun r insert' _ =>
      r = .ok () → loadTargetState insert.tableIdentifier replies = .ok insert'.recorded := by
  unfold planInsert
  rw [wp_withMutationLock, Proc.wp_bind, Proc.wp_get]
  show Proc.wp _ _ _
  rw [Proc.wp_bind, Proc.wp_call]
  show Proc.wp _ _ _
  rw [Proc.wp_bind, Proc.wp_ofExcept]
  cases hload : loadTargetState insert.tableIdentifier replies with
  | error e => rintro ⟨⟩
  | ok target =>
    show Proc.wp _ _ _
    rw [Proc.wp_bind, Proc.wp_throwIf]
    split
    · rintro ⟨⟩
    · show Proc.wp _ _ _
      rw [Proc.wp_bind, Proc.wp_throwIf]
      split
      · rintro ⟨⟩
      · rename_i hpart
        rw [not_not] at hpart
        show Proc.wp _ _ _
        rw [Proc.wp_modify]
        intro _
        simp only [PhysicalPaimonInsert.recorded, PhysicalPaimonInsert.planned, hpart]

theorem wp_planCTAS (inputTypes : List LogicalType) (createInfo : CreateTableInfo) (tableLocation : Result String)
    (insert : PhysicalPaimonInsert) :
    (planCTAS rt inputTypes createInfo tableLocation : Coordinator Message Unit).wp insert fun r insert' _ =>
      r = .ok () → insert'.distributedHasSnapshot = false ∧ insert'.distributedSnapshotId = 0 ∧
        insert'.distributedTableUuid = insert.tableIdentifier.fullName := by
  unfold planCTAS
  rw [Proc.wp_bind, Proc.wp_modify]
  show Proc.wp _ _ _
  rw [Proc.wp_bind, Proc.wp_throwIf]
  split
  · exact nofun
  show Proc.wp _ _ _
  rw [Proc.wp_bind, Proc.wp_ofExcept]
  cases getCreatePrimaryKeys createInfo with
  | error e => exact nofun
  | ok primaryKeys =>
    show Proc.wp _ _ _
    rw [Proc.wp_bind, Proc.wp_modify]
    show Proc.wp _ _ _
    rw [Proc.wp_bind, Proc.wp_ofExcept]
    cases getCreateTableOptions createInfo with
    | error e => exact nofun
    | ok tableOptions =>
      show Proc.wp _ _ _
      rw [Proc.wp_bind, Proc.wp_modify]
      show Proc.wp _ _ _
      rw [Proc.wp_bind, Proc.wp_get]
      show Proc.wp _ _ _
      rw [Proc.wp_bind, Proc.wp_ofExcept]
      split
      · show Proc.wp _ _ _
        rw [Proc.wp_bind, Proc.wp_modify]
        show Proc.wp _ _ _
        cases tableLocation with
        | error status =>
          rw [Proc.wp_throw]
          exact nofun
        | ok tablePath =>
          show Proc.wp _ _ _
          rw [Proc.wp_modify]
          exact fun _ => ⟨rfl, rfl, rfl⟩
      · exact nofun

/-- Publishing the plan leaves the recorded target as it is. -/
theorem keeps_publishPlan {P : Event Message → Prop} :
    Proc.Keeps PhysicalPaimonInsert.recorded P (publishPlan rt : Coordinator Message Unit) := by
  unfold publishPlan
  refine Proc.keeps_get.bind fun _ => (Proc.keeps_ofExcept _).bind fun _ => ?_
  exact (Proc.keeps_modify fun _ => by rfl).bind fun _ => (Proc.keeps_ofExcept _).bind fun _ =>
    Proc.keeps_modify fun _ => by rfl

theorem Records.of_recorded {insert insert' insert'' : PhysicalPaimonInsert} {target : CatalogReplies}
    (h : Records insert target insert') (hrecorded : insert''.recorded = insert'.recorded) :
    Records insert target insert'' := by
  have huuid : insert''.distributedTableUuid = insert'.distributedTableUuid := congrArg TargetState.tableUuid hrecorded
  have hhas : insert''.distributedHasSnapshot = insert'.distributedHasSnapshot :=
    congrArg TargetState.hasSnapshot hrecorded
  have hid : insert''.distributedSnapshotId = insert'.distributedSnapshotId := congrArg TargetState.snapshotId hrecorded
  refine ⟨fun hinfo => ?_, fun hinfo => ?_⟩
  · rw [hrecorded]
    exact h.loaded hinfo
  · rw [huuid, hhas, hid]
    exact h.planned hinfo

theorem wp_initializeDistributedWrite_records (inputTypes : List LogicalType) (replies : PlanReplies)
    (insert : PhysicalPaimonInsert) :
    (initializeDistributedWrite rt inputTypes replies : Coordinator Message Unit).wp insert fun r insert' _ =>
      r = .ok () → Records insert replies.target insert' := by
  have hpublish {m : Coordinator Message Unit} {before : PhysicalPaimonInsert}
      (hm : m.wp before fun r middle _ => r = .ok () → Records insert replies.target middle) :
      (m >>= fun _ => publishPlan rt).wp before fun r insert' _ => r = .ok () → Records insert replies.target insert' := by
    rw [Proc.wp_bind]
    refine Proc.wp_mono hm ?_
    rintro (e | u) middle events hmiddle
    · rintro ⟨⟩
    · refine Proc.wp_mono (keeps_publishPlan (P := Event.Quiet) middle) ?_
      rintro r insert' events' ⟨hrecorded, -⟩ -
      exact (hmiddle rfl).of_recorded hrecorded
  unfold initializeDistributedWrite
  rw [Proc.wp_bind, Proc.wp_get]
  show Proc.wp _ _ _
  rw [Proc.wp_bind, Proc.wp_throwIf]
  split
  · rintro ⟨⟩
  show Proc.wp _ _ _
  rw [Proc.wp_bind, Proc.wp_throwIf]
  split
  · rintro ⟨⟩
  show Proc.wp _ _ _
  rw [Proc.wp_bind, Proc.wp_modify]
  show Proc.wp _ _ _
  split
  · rename_i createInfo hinfo
    refine hpublish (Proc.wp_mono (wp_planCTAS _ _ _ _) ?_)
    intro r middle events hplanned hr
    refine ⟨fun hnone => ?_, fun _ => hplanned hr⟩
    cases hinfo.symm.trans hnone
  · rename_i hinfo
    refine hpublish (Proc.wp_mono (wp_planInsert _ _ _) ?_)
    intro r middle events hloaded hr
    exact ⟨fun _ => hloaded hr, fun hsome => absurd hinfo hsome⟩

/-- The call that initializes the target records it. -/
theorem wp_getExtensionWriteTaskProvider_records (replies : PlanReplies) (insert : PhysicalPaimonInsert)
    (hopen : insert.distributedTargetInitialized = false) (hselected : insert.distributedWorkerPlanSelected = false) :
    (getExtensionWriteTaskProvider rt replies : Coordinator Message Unit).wp insert fun r insert' _ =>
      r = .ok () → Records insert replies.target insert' := by
  unfold getExtensionWriteTaskProvider selectWorkerPlan
  rw [Proc.wp_bind, Proc.wp_get]
  show Proc.wp _ _ _
  rw [Proc.wp_ite, if_neg (by simp [hselected]), Proc.wp_bind, Proc.wp_get]
  show Proc.wp _ _ _
  split
  · rw [Proc.wp_bind, Proc.wp_throwIf]
    split
    · exact nofun
    show Proc.wp _ _ _
    dsimp only
    rw [if_neg (by simp [hopen]), Proc.wp_bind]
    refine Proc.wp_mono (wp_initializeDistributedWrite_records _ replies insert) ?_
    rintro (e | u) insert' events hrecords
    · exact nofun
    · show Proc.wp _ _ _
      rw [Proc.wp_modify]
      exact fun _ => (hrecords rfl).of_recorded rfl
  · rw [Proc.wp_throw]
    exact nofun

/-! ## Capturing records the created target -/

/-- A captured target is recorded: of a table without snapshots, all that was not planned is its schema. -/
theorem wp_capturePreparedCTASTarget (replies : CatalogReplies) (insert : PhysicalPaimonInsert)
    (hhas : insert.distributedHasSnapshot = false) (hid : insert.distributedSnapshotId = 0) :
    (capturePreparedCTASTarget replies : Coordinator Message Unit).wp insert fun r insert' _ =>
      (r = .ok () → loadTargetState insert.tableIdentifier replies = .ok insert'.recorded) ∧
        (r ≠ .ok () → insert' = insert) ∧
          insert' = { insert with distributedTableSchemaJson := insert'.distributedTableSchemaJson } := by
  unfold capturePreparedCTASTarget
  rw [Proc.wp_bind, Proc.wp_get]
  show Proc.wp _ _ _
  rw [Proc.wp_bind, Proc.wp_ofExcept]
  cases getCoordinatorCatalog insert with
  | error e => exact ⟨nofun, fun _ => rfl, rfl⟩
  | ok u =>
    show Proc.wp _ _ _
    rw [Proc.wp_bind, Proc.wp_call]
    show Proc.wp _ _ _
    rw [Proc.wp_bind, Proc.wp_ofExcept]
    cases hload : loadTargetState insert.tableIdentifier replies with
    | error e => exact ⟨nofun, fun _ => rfl, rfl⟩
    | ok current =>
      show Proc.wp _ _ _
      rw [Proc.wp_bind, Proc.wp_throwIf]
      split
      · exact ⟨nofun, fun _ => rfl, rfl⟩
      · rename_i hmatch
        show Proc.wp _ _ _
        rw [Proc.wp_modify]
        refine ⟨fun _ => ?_, fun h => absurd rfl h, rfl⟩
        simp only [PreparedMismatch, not_or, not_not, Bool.not_eq_true] at hmatch
        obtain ⟨huuid, hpath, hschema, happend, hno, hzero, hnames, htypes, hpart, hprimary, hoptions, hnull⟩ := hmatch
        obtain ⟨_, _, _, _, _, _, _, _, _, _, _, _, _⟩ := current
        dsimp only at huuid hpath hschema happend hno hzero hnames htypes hpart hprimary hoptions hnull
        subst huuid hpath hschema happend hnames htypes hpart hprimary hoptions hnull
        rw [hno, hzero]
        simp only [PhysicalPaimonInsert.recorded, hhas, hid]

/-! ## Other calls leave it -/

/-- What is recorded, and that it is. -/
def PhysicalPaimonInsert.held (insert : PhysicalPaimonInsert) : TargetState × Bool :=
  (insert.recorded, insert.distributedTargetInitialized)

/-- Preparing an INSERT changes nothing that is recorded. -/
theorem wp_prepareDistributedWrite_held (replies : PrepareReplies) (insert : PhysicalPaimonInsert)
    (hinfo : insert.info = none) :
    (prepareDistributedWrite rt replies : Coordinator Message Unit).wp insert fun _ insert' _ =>
      insert'.held = insert.held := by
  unfold prepareDistributedWrite
  rw [Proc.wp_bind]
  refine Proc.wp_mono (wp_enterPrepare insert) ?_
  rintro r insert' events ⟨rfl, ⟨e, rfl, rfl, -⟩ | ⟨rfl, rfl, -, -⟩⟩
  · rfl
  · show Proc.wp _ _ _
    rw [Proc.wp_ite, if_neg (by simp [hinfo])]
    refine Proc.wp_mono (keeps_prepareInsert (f := PhysicalPaimonInsert.held) (fun _ => by rfl) replies.baseline _) ?_
    rintro r insert' events ⟨hheld, -⟩
    exact hheld

/-- A call other than the preparation of a CREATE TABLE AS records a target once, when it plans it. -/
theorem Performed.records {p : Performed Message} (hbound : Bound rt p.before)
    (hprepare : p.call.IsPrepare → p.before.info = none) :
    (p.after rt vane).held = p.before.held ∨
      p.before.distributedTargetInitialized = false ∧
        ((p.after rt vane).distributedTargetInitialized = true →
          ∃ replies, p.call = .getExtensionWriteTaskProvider replies ∧
            Records p.before replies.target (p.after rt vane)) := by
  have hrun : (perform rt vane p.call).run p.before = (p.result rt vane, p.after rt vane, p.events rt vane) := rfl
  have hkeeps {α : Type} {m : Coordinator Message α} (hm : Proc.Keeps PhysicalPaimonInsert.held Event.Quiet m)
      (h : perform rt vane p.call = (fun _ => none) <$> m) : (p.after rt vane).held = p.before.held := by
    rw [h] at hrun
    obtain ⟨_, -, hheld, -⟩ := Proc.wp_run_map (hm p.before) hrun
    exact hheld
  obtain ⟨insert, call⟩ := p
  cases call with
  | setDistributedWriteContext => exact .inl (hkeeps (keeps_setDistributedWriteContext fun _ => by rfl) rfl)
  | writePlan => exact .inl (hkeeps keeps_writePlan rfl)
  | validateDistributedWrite replies => exact .inl (hkeeps (keeps_validateDistributedWrite quiet_looks replies) rfl)
  | prepareDistributedWrite replies =>
    obtain ⟨_, -, hheld⟩ := Proc.wp_run_map (wp_prepareDistributedWrite_held replies insert (hprepare trivial)) hrun
    exact .inl hheld
  | finalizeDistributedWrite decode commit results =>
    obtain ⟨r, -, hdoes⟩ := Proc.wp_run_map (wp_finalizeDistributedWrite decode commit results insert) hrun
    rcases hdoes.finalizing with ⟨hsame, -⟩ | ⟨hsame, -⟩
    · exact .inl (congrArg _ hsame)
    · exact .inl (by rw [hsame]; rfl)
  | abortDistributedWrite replies results =>
    obtain ⟨r, -, hunchanged, -⟩ := Proc.wp_run_map (wp_abortDistributedWrite replies results insert) hrun
    exact .inl (congrArg _ hunchanged)
  | getExtensionWriteTaskProvider replies =>
    by_cases hselected : insert.distributedWorkerPlanSelected = true
    · obtain ⟨_, -, hselects⟩ := Proc.wp_run_map (wp_getExtensionWriteTaskProvider replies insert) hrun
      exact .inl (congrArg _ (hselects.unchanged hselected))
    · rw [Bool.not_eq_true] at hselected
      have hopen := hbound.selected.symm.trans hselected
      obtain ⟨_, -, hselects, hrecords⟩ := Proc.wp_run_map (Proc.wp_and (wp_getExtensionWriteTaskProvider replies insert)
        (wp_getExtensionWriteTaskProvider_records replies insert hopen hselected)) hrun
      refine .inr ⟨hopen, fun hinitialized => ⟨replies, rfl, hrecords ?_⟩⟩
      exact (hselects.initialized hselected hopen).1.1 hinitialized

end DuckPaimon.Write
