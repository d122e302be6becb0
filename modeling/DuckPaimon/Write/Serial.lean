/-
Distributed commits are serialised on their planned baseline: whatever the other writes, the native
inserts and the CREATE and DROP statements do in between, a distributed write commits to a table in the
state it was planned on, or in which it was captured. Of the writes to one table that are planned on one
snapshot, one commits.
-/
import DuckPaimon.Write.Process

namespace DuckPaimon.Write

open Outcome

variable {Message : Type} {rt : Runtime} {vane : Vane}

/-! ## A write -/

/-- What is recorded by a write is its baseline. -/
def DistributedWrite.OnTarget (write : DistributedWrite) : Prop :=
  ∃ table, write.baseline = some table ∧ write.insert.recorded = table.target ∧ table.Resolvable

/-- What is recorded by a distributed write: the target it was planned on, and for a CREATE TABLE AS the
target that was captured. -/
structure Sound (rt : Runtime) (write : DistributedWrite) : Prop where
  bound : Bound rt write.insert
  writable : getCoordinatorCatalog write.insert = .ok ()
  planned : write.insert.info = none → write.insert.distributedTargetInitialized = true → write.OnTarget
  fresh : write.insert.info ≠ none → write.insert.distributedTargetInitialized = true →
    write.insert.distributedHasSnapshot = false ∧ write.insert.distributedSnapshotId = 0 ∧
      write.insert.distributedTableUuid = write.insert.tableIdentifier.fullName
  captured : write.insert.info ≠ none → write.insert.distributedTargetPrepared = true →
    write.insert.distributedTargetInitialized = true ∧ write.OnTarget
  started : write.insert.distributedTargetPrepared = true → write.insert.distributedPrepareStarted = true
  preparing : write.stage ≠ .outside → write.insert.info ≠ none ∧ write.insert.distributedTargetInitialized = true ∧
    write.insert.distributedPrepareStarted = true ∧ write.insert.distributedTargetPrepared = false ∧
      ∀ createInfo, write.insert.info = some createInfo → createInfo.onConflict = .errorOnConflict

theorem sound_new {accessMode : AccessMode} (writable : accessMode ≠ .readOnly) (info : Option CreateTableInfo)
    (tableIdentifier : Identifier) (paimonOptions : StringMap) (partKeys : List String)
    (children : List (List LogicalType)) :
    Sound rt { insert := .new accessMode info tableIdentifier paimonOptions partKeys children } where
  bound := bound_new ..
  writable := throwIf_eq_ok.2 writable
  planned := nofun
  fresh := nofun
  captured := nofun
  started := nofun
  preparing := fun h => absurd rfl h

/-- A write that is planned, and a CREATE TABLE AS that is prepared, has its baseline. -/
theorem Sound.onTarget {write : DistributedWrite} (h : Sound rt write)
    (initialized : write.insert.distributedTargetInitialized = true)
    (prepared : write.insert.info ≠ none → write.insert.distributedTargetPrepared = true) : write.OnTarget := by
  by_cases hinfo : write.insert.info = none
  · exact h.planned hinfo initialized
  · exact (h.captured hinfo (prepared hinfo)).2

theorem initialized_of_shape {insert : PhysicalPaimonInsert} (h : validateCoordinatorShape rt insert = .ok ()) :
    insert.distributedTargetInitialized = true := by
  unfold validateCoordinatorShape at h
  obtain ⟨-, h⟩ := throwIf_bind_eq_ok.1 h
  obtain ⟨hshape, -⟩ := throwIf_bind_eq_ok.1 h
  simp only [ShapeMismatch, not_or, Bool.not_eq_false] at hshape
  exact hshape.1

/-- What a call does to an operator and its target. -/
structure CallEffect (rt : Runtime) (call : CoordinatorCall Message) (insert insert' : PhysicalPaimonInsert) : Prop where
  bound : Bound rt insert'
  schema : insert'.schema = insert.schema
  info : insert'.info = insert.info
  tableIdentifier : insert'.tableIdentifier = insert.tableIdentifier
  started : insert.distributedPrepareStarted = true → insert'.distributedPrepareStarted = true
  finalized : insert.distributedFinalizeStarted = true → insert'.distributedFinalizeStarted = true
  prepared : insert'.distributedTargetPrepared = true →
    insert.distributedTargetPrepared = true ∨ call.IsPrepare ∧ insert'.distributedPrepareStarted = true
  -- what is recorded stays, or is recorded by this call
  recorded : (insert'.distributedTargetInitialized = insert.distributedTargetInitialized ∧
      insert'.recorded = insert.recorded) ∨
    (insert.distributedTargetInitialized = false ∧ (insert'.distributedTargetInitialized = true →
      ∃ replies, call = .getExtensionWriteTaskProvider replies ∧ Records insert replies.target insert'))

theorem callEffect {insert : PhysicalPaimonInsert} (bound : Bound rt insert) {call : CoordinatorCall Message}
    (split : call.IsPrepare → insert.info = none) :
    CallEffect rt call insert ((Performed.mk insert call).after rt vane) := by
  have hkeeps : KeepsPlan rt insert ((Performed.mk insert call).after rt vane) := Performed.keepsPlan ⟨insert, call⟩
  obtain ⟨hfinalized, hstarted⟩ := @Performed.progress Message rt vane ⟨insert, call⟩
  have hrecords := @Performed.records Message rt vane ⟨insert, call⟩ bound split
  have hgiven := hkeeps.given
  simp only [PhysicalPaimonInsert.given, Prod.mk.injEq] at hgiven
  obtain ⟨hschema, hinfo, hidentifier, -⟩ := hgiven
  refine ⟨hkeeps.bound bound, hschema, hinfo, hidentifier, fun h => (hstarted h).1, hfinalized, fun h => ?_, ?_⟩
  · rcases Performed.prepared h with hbefore | ⟨hprepare, hshape, -⟩
    · exact .inl hbefore
    · exact .inr ⟨hprepare, Performed.starts hprepare hshape⟩
  · rcases hrecords with hheld | hopen
    · obtain ⟨hrecorded, hinitialized⟩ := Prod.mk.inj hheld
      exact .inl ⟨hinitialized, hrecorded⟩
    · exact .inr hopen

/-- A call leaves a write sound. -/
theorem Sound.perform {write : DistributedWrite} (h : Sound rt write) (outside : write.stage = .outside)
    {call : CoordinatorCall Message} (split : call.IsPrepare → write.insert.info = none) {target : Option PaimonTable}
    (answered : call.Answered target) : Sound rt (write.perform rt vane call target) := by
  have heffect : CallEffect rt call write.insert ((Performed.mk write.insert call).after rt vane) :=
    callEffect h.bound split
  unfold DistributedWrite.perform
  dsimp only
  generalize (Performed.mk write.insert call).after rt vane = insert' at heffect ⊢
  have hinfo := heffect.info
  refine ⟨heffect.bound, ?_, fun hnone hinitialized => ?_, fun hsome hinitialized => ?_,
    fun hsome hprep => ?_, fun hprep => ?_, fun hstage => absurd outside hstage⟩
  · have hwritable := h.writable
    unfold getCoordinatorCatalog at hwritable ⊢
    rw [heffect.schema]
    exact hwritable
  · unfold DistributedWrite.OnTarget
    rcases heffect.recorded with ⟨hsame, hrecorded⟩ | ⟨hopen, hrecords⟩
    · rw [if_neg (by rw [hsame]; simp), hrecorded]
      exact h.planned (hinfo.symm.trans hnone) (hsame.symm.trans hinitialized)
    · obtain ⟨replies, rfl, hplan⟩ := hrecords hinitialized
      have hanswers : Answers target replies.target := answered
      rw [if_pos ⟨hopen, hinitialized⟩]
      exact hanswers.loads (hplan.loaded (hinfo.symm.trans hnone))
  · rcases heffect.recorded with ⟨hsame, hrecorded⟩ | ⟨hopen, hrecords⟩
    · have hfresh := h.fresh (hinfo ▸ hsome) (hsame.symm.trans hinitialized)
      have huuid := congrArg TargetState.tableUuid hrecorded
      have hhas := congrArg TargetState.hasSnapshot hrecorded
      have hid := congrArg TargetState.snapshotId hrecorded
      rw [← heffect.tableIdentifier] at hfresh
      exact ⟨hhas.trans hfresh.1, hid.trans hfresh.2.1, huuid.trans hfresh.2.2⟩
    · obtain ⟨replies, -, hrecords⟩ := hrecords hinitialized
      rw [heffect.tableIdentifier]
      exact hrecords.planned (hinfo ▸ hsome)
  · have hbefore : write.insert.distributedTargetPrepared = true := by
      refine (heffect.prepared hprep).resolve_right fun hprepare => ?_
      exact hsome (hinfo.trans (split hprepare.1))
    obtain ⟨hinitialized, hcaptured⟩ := h.captured (hinfo ▸ hsome) hbefore
    rcases heffect.recorded with ⟨hsame, hrecorded⟩ | ⟨hopen, -⟩
    · unfold DistributedWrite.OnTarget
      rw [if_neg (by rw [hsame]; simp), hrecorded]
      exact ⟨hsame.trans hinitialized, hcaptured⟩
    · exact absurd (hopen.symm.trans hinitialized) Bool.noConfusion
  · rcases heffect.prepared hprep with hbefore | ⟨-, hstarted⟩
    · exact heffect.started (h.started hbefore)
    · exact hstarted

/-! ## The sections of a preparation -/

theorem onConflict_of_definition {insert : PhysicalPaimonInsert} (h : validateCTASDefinition insert = .ok ()) :
    ∀ createInfo, insert.info = some createInfo → createInfo.onConflict = .errorOnConflict := by
  intro createInfo hinfo
  unfold validateCTASDefinition at h
  rw [hinfo] at h
  exact not_not.1 (throwIf_bind_eq_ok.1 h).1

theorem wp_beginPrepare (tableExists : Result Bool) (insert : PhysicalPaimonInsert) :
    (beginPrepare rt tableExists : Coordinator Message Unit).wp insert fun r insert' _ =>
      (insert' = insert ∧ r ≠ .ok ()) ∨ (insert' = { insert with distributedPrepareStarted := true } ∧
        insert.distributedTargetInitialized = true ∧ insert.distributedPrepareStarted = false ∧
          (r = .ok () → validateCTASDefinition insert = .ok ())) := by
  unfold beginPrepare
  rw [Proc.wp_bind]
  refine Proc.wp_mono (wp_enterPrepare insert) ?_
  rintro r insert' events ⟨rfl, ⟨e, rfl, rfl, -⟩ | ⟨rfl, rfl, hshape, hfirst⟩⟩
  · exact .inl ⟨rfl, nofun⟩
  · show Proc.wp _ _ _
    rw [Proc.wp_bind, Proc.wp_ofExcept]
    cases hdefinition : validateCTASDefinition insert with
    | error e => exact .inr ⟨rfl, initialized_of_shape hshape, hfirst, nofun⟩
    | ok u =>
      refine Proc.wp_mono (keeps_checkAbsent (f := id) tableExists _) ?_
      rintro r insert' events ⟨hsame, -⟩
      exact .inr ⟨hsame, initialized_of_shape hshape, hfirst, fun _ => rfl⟩

/-- A preparation that begins leaves a write sound. -/
theorem Sound.begin {write : DistributedWrite} (h : Sound rt write) (ctas : write.insert.info ≠ none)
    (tableExists : Result Bool) :
    Sound rt (write.proceed (beginPrepare rt tableExists : Coordinator Message Unit) .absent) := by
  have hbegin : ((beginPrepare rt tableExists : Coordinator Message Unit).wp write.insert) _ :=
    wp_beginPrepare tableExists write.insert
  unfold Proc.wp at hbegin
  unfold DistributedWrite.proceed
  generalize ((beginPrepare rt tableExists : Coordinator Message Unit).run write.insert).1 = r,
    ((beginPrepare rt tableExists : Coordinator Message Unit).run write.insert).2.1 = insert' at hbegin ⊢
  rcases hbegin with ⟨rfl, hfailed⟩ | ⟨rfl, hinitialized, hfirst, hdefinition⟩
  · refine ⟨h.bound, h.writable, h.planned, h.fresh, h.captured, h.started, ?_⟩
    cases r with
    | ok u => exact absurd rfl hfailed
    | error e => exact fun hstage => absurd rfl hstage
  · refine ⟨⟨h.bound.selected, h.bound.published⟩, h.writable, h.planned, h.fresh, h.captured, fun _ => rfl, ?_⟩
    cases r with
    | error e => exact fun hstage => absurd rfl hstage
    | ok u =>
      refine fun _ => ⟨ctas, hinitialized, rfl, ?_, onConflict_of_definition (hdefinition rfl)⟩
      -- a target is only prepared once a preparation has started
      by_contra hprepared
      rw [Bool.not_eq_false] at hprepared
      exact absurd (hfirst.symm.trans (h.started hprepared)) Bool.noConfusion

/-- A CreateTable leaves the operator as it is. -/
theorem run_createTarget (createTable : Except Exception Unit) (insert : PhysicalPaimonInsert) :
    ((createTarget createTable : Coordinator Message Unit).run insert).1 = createTable ∧
      ((createTarget createTable : Coordinator Message Unit).run insert).2.1 = insert := by
  cases createTable <;> exact ⟨rfl, rfl⟩

theorem Sound.create {write : DistributedWrite} (h : Sound rt write) (absent : write.stage = .absent)
    (createTable : Except Exception Unit) (own : Option Nat) :
    Sound rt { write.proceed (createTarget createTable : Coordinator Message Unit) .created with own } := by
  obtain ⟨-, hinsert⟩ := @run_createTarget Message createTable write.insert
  have hpreparing := h.preparing (by rw [absent]; exact nofun)
  unfold DistributedWrite.proceed
  rw [hinsert]
  exact ⟨h.bound, h.writable, h.planned, h.fresh, h.captured, h.started, fun _ => hpreparing⟩

theorem wp_captureTarget (replies : CatalogReplies) (insert : PhysicalPaimonInsert)
    (hhas : insert.distributedHasSnapshot = false) (hid : insert.distributedSnapshotId = 0) :
    (captureTarget replies : Coordinator Message Unit).wp insert fun r insert' _ =>
      (r ≠ .ok () ∧ insert' = insert) ∨
        (r = .ok () ∧ loadTargetState insert.tableIdentifier replies = .ok insert'.recorded ∧
          insert' = { insert with
            distributedTableSchemaJson := insert'.distributedTableSchemaJson, distributedTargetPrepared := true }) := by
  unfold captureTarget
  rw [Proc.wp_bind, wp_withMutationLock]
  refine Proc.wp_mono (wp_capturePreparedCTASTarget replies insert hhas hid) ?_
  rintro (e | u) insert' events ⟨hloaded, hfailed, hinsert'⟩
  · exact .inl ⟨nofun, hfailed nofun⟩
  · unfold markPrepared
    show Proc.wp _ _ _
    rw [Proc.wp_modify]
    refine .inr ⟨rfl, hloaded rfl, ?_⟩
    rw [hinsert']

/-- What a capture makes of a write: nothing, or it records the target. -/
theorem capture_eq {write : DistributedWrite} (h : Sound rt write) (created : write.stage = .created)
    (replies : CatalogReplies) (target : Option PaimonTable) :
    write.capture Message replies target = { write with stage := .outside } ∨
      ∃ insert', write.capture Message replies target =
          { write with insert := insert', stage := .outside, baseline := target } ∧
        loadTargetState write.insert.tableIdentifier replies = .ok insert'.recorded ∧
          insert' = { write.insert with
            distributedTableSchemaJson := insert'.distributedTableSchemaJson, distributedTargetPrepared := true } := by
  obtain ⟨hinfo, hinitialized, -, -⟩ := h.preparing (by rw [created]; exact nofun)
  obtain ⟨hhas, hid, -⟩ := h.fresh hinfo hinitialized
  have hcapture : ((captureTarget replies : Coordinator Message Unit).wp write.insert) _ :=
    wp_captureTarget replies write.insert hhas hid
  unfold Proc.wp at hcapture
  unfold DistributedWrite.capture DistributedWrite.proceed
  dsimp only
  generalize ((captureTarget replies : Coordinator Message Unit).run write.insert).1 = r,
    ((captureTarget replies : Coordinator Message Unit).run write.insert).2.1 = insert' at hcapture ⊢
  rcases hcapture with ⟨hfailed, rfl⟩ | ⟨rfl, hloaded, hinsert'⟩
  · cases r with
    | ok u => exact absurd rfl hfailed
    | error e => exact .inl rfl
  · exact .inr ⟨insert', rfl, hloaded, hinsert'⟩

/-- A capture leaves a write sound. -/
theorem Sound.capture {write : DistributedWrite} (h : Sound rt write) (created : write.stage = .created)
    {replies : CatalogReplies} {target : Option PaimonTable} (answered : Answers target replies) :
    Sound rt (write.capture Message replies target) := by
  obtain ⟨hinfo, hinitialized, hstarted, -⟩ := h.preparing (by rw [created]; exact nofun)
  rcases capture_eq h created replies target with heq | ⟨insert', heq, hloaded, hinsert'⟩
  · rw [heq]
    exact ⟨h.bound, h.writable, h.planned, h.fresh, h.captured, h.started, fun hstage => absurd rfl hstage⟩
  · have hbaseline := answered.loads hloaded
    rw [heq]
    generalize hjson : insert'.distributedTableSchemaJson = json at hinsert'
    subst hinsert'
    refine ⟨⟨h.bound.selected, h.bound.published⟩, h.writable, fun hnone => absurd hnone hinfo, h.fresh,
      fun _ _ => ⟨hinitialized, hbaseline⟩, fun _ => hstarted, fun hstage => absurd rfl hstage⟩

/-! ## The tables -/

/-- What a step does to the table a name stands for. -/
inductive TableStep (created : Nat) : Option PaimonTable → Option PaimonTable → Prop
  | kept {table : Option PaimonTable} : TableStep created table table
  | dropped {table : Option PaimonTable} : TableStep created table none
  | made {table : PaimonTable} (fresh : table.creation = created) : TableStep created none (some table)
  | installed {table : PaimonTable} {snapshots : List Int64} (newer : Newer table.snapshots snapshots) :
      TableStep created (some table) (some { table with snapshots })

theorem Committed.tableStep {path : String} {installed : Bool} {created : Nat} {table table' : Option PaimonTable}
    (h : Committed path installed table table') : TableStep created table table' := by
  cases h with
  | none => exact .kept
  | unchanged => exact .kept
  | installs _ _ newer => exact .installed newer

section Process

variable {ι : Type}

/-- What a step does to the tables: one step of each name, and the numbers of CREATE TABLEs are used once. -/
structure TablesStep (s s' : Process ι) : Prop where
  table : ∀ name, TableStep s.created (s.tables name) (s'.tables name)
  created : s.created ≤ s'.created
  fresh : ∀ name table, s.tables name = none → s'.tables name = some table → s.created < s'.created

theorem tablesStep_of_tables {s s' : Process ι} (h : ∀ name, TableStep s.created (s.tables name) (s'.tables name))
    (hcreated : s'.created = s.created) (hnone : ∀ name, s.tables name = none → s'.tables name = none) :
    TablesStep s s' := by
  refine ⟨h, Nat.le_of_eq hcreated.symm, fun name table hbefore hafter => ?_⟩
  rw [hnone name hbefore] at hafter
  cases hafter

theorem Process.Creates.tablesStep {s s' : Process ι} {name : TableName} {made : Option PaimonTable}
    (h : s.Creates name made s') : TablesStep s s' := by
  cases h with
  | nothing => exact tablesStep_of_tables (fun _ => .kept) rfl fun _ h => h
  | @table table free _ fresh =>
    refine ⟨fun name' => ?_, Nat.le_succ _, fun _ _ _ _ => Nat.lt_succ_self _⟩
    show TableStep s.created (s.tables name') (Function.update s.tables name (some table) name')
    by_cases hname : name' = name
    · subst hname
      rw [Function.update_self, free]
      exact .made fresh
    · rw [Function.update_of_ne hname]
      exact .kept

theorem TablesStep.creations {s s' : Process ι} (h : TablesStep s s')
    (creations : ∀ name table, s.tables name = some table → table.creation < s.created) :
    ∀ name table, s'.tables name = some table → table.creation < s'.created := by
  intro name table hafter
  have hstep := h.table name
  rw [hafter] at hstep
  cases hbefore : s.tables name with
  | none =>
    rw [hbefore] at hstep
    cases hstep with
    | made fresh =>
      rw [fresh]
      exact h.fresh name table hbefore hafter
  | some before =>
    rw [hbefore] at hstep
    have hlt := creations name before hbefore
    cases hstep with
    | kept => exact Nat.lt_of_lt_of_le hlt h.created
    | installed => exact Nat.lt_of_lt_of_le hlt h.created

/-- A table stays ahead of a commit, until another one takes its name. -/
theorem TablesStep.recent {s s' : Process ι} (h : TablesStep s s') {name : TableName} {found : PaimonTable}
    (hcreated : found.creation < s.created)
    (recent : ∀ table, s.tables name = some table → table.creation = found.creation → Newer found.snapshots table.snapshots) :
    ∀ table, s'.tables name = some table → table.creation = found.creation → Newer found.snapshots table.snapshots := by
  intro table hafter hsame
  have hstep := h.table name
  rw [hafter] at hstep
  cases hbefore : s.tables name with
  | none =>
    rw [hbefore] at hstep
    cases hstep with
    | made fresh => omega
  | some before =>
    rw [hbefore] at hstep
    cases hstep with
    | kept => exact recent table hbefore hsame
    | installed newer => exact (recent before hbefore hsame).trans newer

/-! ## The commits -/

/-- A step that calls `FilterAndCommit`. -/
structure CommitStep (s s' : Process ι) (record : CommitRecord ι) : Prop where
  committing : record.committing = s.writes record.write
  found : record.found = s.target record.write
  shape : record.committing.insert.distributedTargetInitialized = true
  prepared : record.committing.insert.distributedTargetPrepared = true
  open_ : record.committing.insert.distributedFinalizeStarted = false
  outside : record.committing.stage = .outside
  loaded : ∃ replies, Answers record.found replies ∧
    loadTargetState record.committing.insert.tableIdentifier replies = .ok record.committing.insert.recorded
  effect : ∀ name, Committed record.committing.insert.distributedTablePath record.installed (s.tables name) (s'.tables name)

/-- The latest snapshot a committing write was planned on. -/
def CommitRecord.plannedSnapshot (record : CommitRecord ι) : Bool × Int64 :=
  (record.committing.insert.distributedHasSnapshot, record.committing.insert.distributedSnapshotId)

/-- A commit to a table in the recorded state, which it had when the write was planned or captured. -/
def CommitRecord.OnBaseline (record : CommitRecord ι) : Prop :=
  ∃ found planned, record.found = some found ∧ record.committing.baseline = some planned ∧
    found.target = record.committing.insert.recorded ∧ planned.target = record.committing.insert.recorded

/-- Two commits that take effect on one table are planned on different snapshots. -/
def CommitRecord.Apart (a b : CommitRecord ι) : Prop :=
  a.installed = true → b.installed = true → a.name = b.name →
    a.found.map PaimonTable.creation = b.found.map PaimonTable.creation → a.plannedSnapshot ≠ b.plannedSnapshot

/-- A write that commits has its baseline. -/
theorem CommitStep.onBaseline {s s' : Process ι} {record : CommitRecord ι} (h : CommitStep s s' record)
    (sound : Sound rt record.committing) : record.OnBaseline := by
  obtain ⟨replies, hanswers, hloaded⟩ := h.loaded
  obtain ⟨found, hfound, hrecorded, -⟩ := hanswers.loads hloaded
  obtain ⟨planned, hplanned, hsame, -⟩ := sound.onTarget h.shape fun _ => h.prepared
  exact ⟨found, planned, hfound, hplanned, hrecorded.symm, hsame.symm⟩

/-- The commits are on their baselines, and behind each that takes effect its table has a newer snapshot. -/
structure Serial (rt : Runtime) (s : Process ι) : Prop where
  writes : ∀ i, Sound rt (s.writes i)
  creations : ∀ name table, s.tables name = some table → table.creation < s.created
  baselines : ∀ record ∈ s.commits, record.OnBaseline
  recent : ∀ record ∈ s.commits, record.installed = true → ∀ found, record.found = some found →
    found.creation < s.created ∧ ∀ table, s.tables record.name = some table → table.creation = found.creation →
      Newer found.snapshots table.snapshots
  apart : s.commits.Pairwise CommitRecord.Apart

/-- A process before its first step: nothing is committed, and no write is planned. An INSERT or CREATE TABLE AS
into a read-only catalog is not planned at all. -/
structure Process.Start (s : Process ι) : Prop where
  writes : ∀ i, ∃ accessMode info tableIdentifier paimonOptions partKeys children, accessMode ≠ .readOnly ∧
    s.writes i = { insert := .new accessMode info tableIdentifier paimonOptions partKeys children }
  creations : ∀ name table, s.tables name = some table → table.creation < s.created
  commits : s.commits = []

theorem Process.Start.serial {s : Process ι} (h : s.Start) : Serial rt s := by
  refine ⟨fun i => ?_, h.creations, ?_, ?_, ?_⟩
  · obtain ⟨accessMode, info, tableIdentifier, paimonOptions, partKeys, children, hwritable, hnew⟩ := h.writes i
    rw [hnew]
    exact sound_new hwritable info tableIdentifier paimonOptions partKeys children
  · rw [h.commits]
    exact fun _ hmem => absurd hmem List.not_mem_nil
  · rw [h.commits]
    exact fun _ hmem => absurd hmem List.not_mem_nil
  · rw [h.commits]
    exact .nil

/-! ## The steps -/

variable [DecidableEq ι]

theorem Takes.tablesStep {s s' : Process ι} {step : ProcessStep ι Message} (h : Takes rt vane s step s') :
    TablesStep s s' := by
  have hcommitted {path : String} {installed : Bool} {tables : TableName → Option PaimonTable}
      (heffect : ∀ name, Committed path installed (s.tables name) (tables name)) (name : TableName)
      (hnone : s.tables name = none) : tables name = none := by
    have hname := heffect name
    rw [hnone] at hname
    generalize tables name = table at hname
    cases hname
    rfl
  cases h with
  | call => exact tablesStep_of_tables (fun _ => .kept) rfl fun _ h => h
  | commit _ _ _ _ effect => exact tablesStep_of_tables (fun name => (effect name).tableStep) rfl (hcommitted effect)
  | checkAbsent => exact tablesStep_of_tables (fun _ => .kept) rfl fun _ h => h
  | createTarget _ creates =>
    have hcreates := creates.tablesStep
    exact ⟨hcreates.table, hcreates.created, hcreates.fresh⟩
  | captureTarget => exact tablesStep_of_tables (fun _ => .kept) rfl fun _ h => h
  | insertCommit effect => exact tablesStep_of_tables (fun name => (effect name).tableStep) rfl (hcommitted effect)
  | createTable creates => exact creates.tablesStep
  | @dropTable name =>
    have hdrop (name' : TableName) : Function.update s.tables name none name' = s.tables name' ∨
        Function.update s.tables name none name' = none := by
      by_cases hname : name' = name
      · subst hname
        exact .inr (Function.update_self ..)
      · exact .inl (Function.update_of_ne hname ..)
    refine tablesStep_of_tables (fun name' => ?_) rfl fun name' hnone => ?_
    · show TableStep s.created (s.tables name') (Function.update s.tables name none name')
      rcases hdrop name' with h | h <;> rw [h]
      · exact .kept
      · exact .dropped
    · show Function.update s.tables name none name' = none
      exact (hdrop name').elim (fun h => h.trans hnone) id
  | createSchema => exact tablesStep_of_tables (fun _ => .kept) rfl fun _ h => h
  | @dropSchema _ _ tables _ dropped =>
    refine tablesStep_of_tables (fun name => ?_) rfl fun name hnone => ?_
    · show TableStep s.created (s.tables name) (tables name)
      rcases dropped name with h | ⟨-, h⟩ <;> rw [h]
      · exact .kept
      · exact .dropped
    · exact (dropped name).elim (fun h => h.trans hnone) And.right
  | failed => exact tablesStep_of_tables (fun _ => .kept) rfl fun _ h => h

/-- What a step does to a write. -/
inductive WriteStep (rt : Runtime) (vane : Vane) (s s' : Process ι) (i : ι) :
    ProcessStep ι Message → DistributedWrite → Prop
  | kept {step : ProcessStep ι Message} (other : ∀ createTable made, step ≠ .createTarget i createTable made) :
      WriteStep rt vane s s' i step (s.writes i)
  | performed {call : CoordinatorCall Message} (outside : (s.writes i).stage = .outside)
      (split : call.IsPrepare → (s.writes i).insert.info = none) (answered : call.Answered (s.target i)) :
      WriteStep rt vane s s' i (.call i call) ((s.writes i).perform rt vane call (s.target i))
  | begun {tableExists : Result Bool} (ctas : (s.writes i).insert.info ≠ none) :
      WriteStep rt vane s s' i (.checkAbsent i tableExists)
        ((s.writes i).proceed (beginPrepare rt tableExists : Coordinator Message Unit) .absent)
  | made {createTable : Except Exception Unit} {made : Option PaimonTable} (absent : (s.writes i).stage = .absent)
      (table : ∀ table, made = some table → s'.tables (s.writes i).insert.tableIdentifier.name = some table)
      (returned : createTable = .ok () →
        (∀ createInfo, (s.writes i).insert.info = some createInfo → createInfo.onConflict = .errorOnConflict) → made ≠ none) :
      WriteStep rt vane s s' i (.createTarget i createTable made)
        { (s.writes i).proceed (createTarget createTable : Coordinator Message Unit) .created with
          own := made.map PaimonTable.creation }
  | captured {replies : CatalogReplies} (created : (s.writes i).stage = .created)
      (answered : Answers (s.target i) replies) (tables : s'.tables = s.tables) :
      WriteStep rt vane s s' i (.captureTarget i replies) ((s.writes i).capture Message replies (s.target i))

theorem Takes.writeStep {s s' : Process ι} {step : ProcessStep ι Message} (h : Takes rt vane s step s') (i : ι) :
    WriteStep rt vane s s' i step (s'.writes i) := by
  -- a step of another write leaves this one as it is
  have hset {writes : ι → DistributedWrite} {s₂ : Process ι} {step : ProcessStep ι Message} {j : ι} {write : DistributedWrite}
      (hself : j = i → WriteStep rt vane s s₂ i step write)
      (hother : j ≠ i → writes i = s.writes i ∧ ∀ createTable made, step ≠ .createTarget i createTable made) :
      WriteStep rt vane s s₂ i step (Function.update writes j write i) := by
    by_cases hj : j = i
    · subst hj
      rw [Function.update_self]
      exact hself rfl
    · obtain ⟨hwrites, hstep⟩ := hother hj
      rw [Function.update_of_ne (Ne.symm hj), hwrites]
      exact .kept hstep
  cases h with
  | call outside split answered =>
    refine hset ?_ fun _ => ⟨rfl, nofun⟩
    rintro rfl
    exact .performed outside split answered
  | commit outside answered =>
    refine hset ?_ fun _ => ⟨rfl, nofun⟩
    rintro rfl
    exact .performed outside (by exact False.elim) answered
  | checkAbsent _ ctas =>
    refine hset ?_ fun _ => ⟨rfl, nofun⟩
    rintro rfl
    exact .begun ctas
  | @createTarget s' j createTable made absent creates returned =>
    have hwrites : s'.writes = s.writes := by cases creates <;> rfl
    refine hset ?_ fun hj => ⟨congrFun hwrites i, ?_⟩
    · rintro rfl
      refine .made absent (fun table hmade => ?_) returned
      subst hmade
      cases creates
      exact Function.update_self ..
    · rintro _ _ ⟨⟩
      exact hj rfl
  | captureTarget created answered =>
    refine hset ?_ fun _ => ⟨rfl, nofun⟩
    rintro rfl
    exact .captured created answered rfl
  | insertCommit => exact .kept nofun
  | createTable creates => cases creates <;> exact .kept nofun
  | dropTable => exact .kept nofun
  | createSchema => exact .kept nofun
  | dropSchema => exact .kept nofun
  | failed mayFail =>
    refine .kept fun createTable made heq => ?_
    subst heq
    exact mayFail

/-- A step leaves all writes sound. -/
theorem Takes.sound {s s' : Process ι} {step : ProcessStep ι Message} (h : Takes rt vane s step s')
    (sound : ∀ i, Sound rt (s.writes i)) : ∀ i, Sound rt (s'.writes i) := by
  intro i
  have hstep := h.writeStep i
  generalize s'.writes i = write at hstep ⊢
  cases hstep with
  | kept => exact sound i
  | performed outside split answered => exact (sound i).perform outside split answered
  | begun ctas => exact (sound i).begin ctas _
  | made absent => exact (sound i).create absent _ _
  | captured created answered => exact (sound i).capture created answered

/-- A step commits nothing, or is a commit of a write whose target proved to be the recorded one. -/
theorem Takes.commits {s s' : Process ι} {step : ProcessStep ι Message} (h : Takes rt vane s step s') :
    s'.commits = s.commits ∨ ∃ record, s'.commits = s.commits ++ [record] ∧ CommitStep s s' record := by
  cases h with
  | @commit i decode commit results installed tables outside answered commits _ effect =>
    obtain ⟨⟨_, _, _, _, _, hguarded⟩, hentering, hprepared, -⟩ := commits.guarded
    have hcall := hguarded.call
    cases hcall
    refine .inr ⟨_, rfl, rfl, rfl, initialized_of_shape hentering.shape, hprepared, hentering.open_, outside, ?_, effect⟩
    exact ⟨commit.baseline, answered, hguarded.baseline.2⟩
  | createTarget _ creates => cases creates <;> exact .inl rfl
  | createTable creates => cases creates <;> exact .inl rfl
  | _ => exact .inl rfl

theorem Serial.step {s s' : Process ι} {step : ProcessStep ι Message} (h : Serial rt s)
    (hstep : Takes rt vane s step s') : Serial rt s' := by
  have htables := hstep.tablesStep
  have hwrites := hstep.sound h.writes
  have hcreations := htables.creations h.creations
  have hrecent : ∀ record ∈ s.commits, record.installed = true → ∀ found, record.found = some found →
      found.creation < s'.created ∧ ∀ table, s'.tables record.name = some table → table.creation = found.creation →
        Newer found.snapshots table.snapshots := by
    intro record hrecord hinstalled found hfound
    obtain ⟨hcreated, hnewer⟩ := h.recent record hrecord hinstalled found hfound
    exact ⟨Nat.lt_of_lt_of_le hcreated htables.created, htables.recent hcreated hnewer⟩
  rcases hstep.commits with hsame | ⟨record, hcommits, hcommit⟩
  · refine ⟨hwrites, hcreations, ?_, ?_, ?_⟩
    · rw [hsame]
      exact h.baselines
    · rw [hsame]
      exact hrecent
    · rw [hsame]
      exact h.apart
  · have hbaseline : record.OnBaseline := hcommit.onBaseline (hcommit.committing ▸ h.writes record.write)
    obtain ⟨found, planned, hfound, hplanned, htarget, hsame⟩ := hbaseline
    have htable : s.tables record.name = some found := by
      rw [CommitRecord.name, hcommit.committing]
      exact hcommit.found.symm.trans hfound
    refine ⟨hwrites, hcreations, ?_, ?_, ?_⟩
    · rw [hcommits, List.forall_mem_append, List.forall_mem_singleton]
      exact ⟨h.baselines, found, planned, hfound, hplanned, htarget, hsame⟩
    · rw [hcommits, List.forall_mem_append, List.forall_mem_singleton]
      refine ⟨hrecent, fun hinstalled found' hfound' => ?_⟩
      cases hfound.symm.trans hfound'
      refine ⟨Nat.lt_of_lt_of_le (h.creations _ _ htable) htables.created, fun table hafter hsame => ?_⟩
      -- the table is at the recorded path, so the commit is to it
      have hpath : found.location = record.committing.insert.distributedTablePath := congrArg TargetState.tablePath htarget
      have heffect := hcommit.effect record.name
      rw [htable, hafter] at heffect
      cases heffect with
      | unchanged elsewhere => exact absurd (hinstalled.symm.trans (elsewhere hpath)) Bool.noConfusion
      | installs _ _ newer => exact newer
    · rw [hcommits, List.pairwise_append]
      refine ⟨h.apart, List.pairwise_singleton _ _, fun earlier hearlier later hlater => ?_⟩
      obtain rfl := List.mem_singleton.1 hlater
      intro hinstalled _ hname hsame
      obtain ⟨found', _, hfound', -, htarget', -⟩ := h.baselines earlier hearlier
      rw [hfound, hfound', Option.map_some, Option.map_some, Option.some_inj] at hsame
      have hnewer := (h.recent earlier hearlier hinstalled found' hfound').2 found (hname ▸ htable) hsame.symm
      have hsnapshot {record : CommitRecord ι} {table : PaimonTable}
          (htarget : table.target = record.committing.insert.recorded) :
          record.plannedSnapshot = (table.snapshots.getLast?.isSome, table.snapshots.getLast?.getD 0) :=
        Prod.ext (congrArg TargetState.hasSnapshot htarget).symm (congrArg TargetState.snapshotId htarget).symm
      rw [hsnapshot htarget, hsnapshot htarget']
      exact hnewer.ne

/-! ## Runs -/

theorem Serial.run {s₀ s : Process ι} {history : List (ProcessStep ι Message)} (start : s₀.Start)
    (run : Run (Takes rt vane) s₀ history s) : Serial rt s :=
  run.invariant (I := fun _ s => Serial rt s) start.serial Serial.step

/-- In every run each distributed commit is to a table in the recorded state, the state it had when the write was
planned or its target captured; two commits that take effect on one table were planned on different snapshots; and
while the table is in this state, the baseline is not rejected. -/
theorem commits_serialised {s₀ s : Process ι} {history : List (ProcessStep ι Message)} (start : s₀.Start)
    (run : Run (Takes rt vane) s₀ history s) :
    (∀ record ∈ s.commits, record.OnBaseline) ∧ s.commits.Pairwise CommitRecord.Apart ∧
      ∀ i planned table replies, (s.writes i).insert.distributedTargetInitialized = true →
        ((s.writes i).insert.info ≠ none → (s.writes i).insert.distributedTargetPrepared = true) →
        (s.writes i).baseline = some planned → s.target i = some table → table.target = planned.target →
        replies.Report table →
        ((validateTargetBaseline replies : Coordinator Message Unit).run (s.writes i).insert).1 = .ok () := by
  have h : Serial rt s := Serial.run start run
  refine ⟨h.baselines, h.apart, ?_⟩
  intro i planned table replies hinitialized hprepared hplanned _ hsame hreport
  obtain ⟨planned', hplanned', hrecorded, hresolvable⟩ := (h.writes i).onTarget hinitialized hprepared
  cases hplanned.symm.trans hplanned'
  -- a table in the state of one that was resolved can be resolved
  have huuid : table.tableUuid = planned.tableUuid := congrArg TargetState.tableUuid hsame
  have hnames : table.fieldNames = planned.fieldNames := congrArg TargetState.fieldNames hsame
  have htypes : table.fieldTypes = planned.fieldTypes := congrArg TargetState.fieldTypes hsame
  have hagain : table.Resolvable := by
    refine ⟨?_, ?_⟩
    · rw [huuid]
      exact hresolvable.tableUuid
    · rw [hnames, htypes]
      exact hresolvable.fields
  have hat : AtBaseline (s.writes i).insert replies := by
    refine ⟨(h.writes i).writable, ?_⟩
    rw [hrecorded, ← hsame]
    exact hreport.loads hagain _
  have hwp : (validateTargetBaseline replies : Coordinator Message Unit).wp (s.writes i).insert _ :=
    wp_validateTargetBaseline replies (s.writes i).insert
  unfold Proc.wp at hwp
  exact hwp.2.2.1.2 hat

end Process

/-! ## An INSERT in a process -/

namespace Sample

/-- The table the replies describe. -/
def table : PaimonTable where
  creation := 0
  tableUuid := "u"
  location := "/wh/db.db/t"
  json := "{}"
  dataSchema := ⟨0, [], [], .empty⟩
  fieldNames := ["a"]
  fieldTypes := [{ id := .integer }]
  snapshots := []

theorem answers_targetReplies : Answers (some table) targetReplies := by
  have hreport : targetReplies.Report table := ⟨rfl, rfl, rfl, rfl, rfl, rfl⟩
  exact hreport.answers

/-- A process whose writes are to one table, or to none. -/
def processOf {ι : Type} (writes : ι → DistributedWrite) (target : Option PaimonTable) (created : Nat)
    (commits : List (CommitRecord ι)) : Process ι where
  databases := {"db"}
  tables name := if name = ("db", "t") then target else none
  created
  writes
  commits

/-- A process with one write. -/
def process (write : DistributedWrite) (target : Option PaimonTable) (created : Nat) : Process Unit :=
  processOf (fun _ => write) target created []

section Processes

variable {ι : Type} {writes : ι → DistributedWrite} {i : ι}

theorem target_processOf (hidentifier : (writes i).insert.tableIdentifier = identifier) (target : Option PaimonTable)
    (created : Nat) (commits : List (CommitRecord ι)) : (processOf writes target created commits).target i = target := by
  unfold Process.target processOf
  dsimp only
  rw [hidentifier]
  rfl

theorem setWrite_processOf [DecidableEq ι] (write write' : DistributedWrite) (target : Option PaimonTable) (created : Nat)
    (commits : List (CommitRecord ι)) :
    (processOf (Function.update writes i write) target created commits).setWrite i write' =
      processOf (Function.update writes i write') target created commits := by
  unfold Process.setWrite processOf
  rw [Function.update_idem]

end Processes

/-- Only a finalization commits. -/
theorem quiet_call {p : Performed String}
    (h : ∀ decode commit results, p.call ≠ .finalizeDistributedWrite decode commit results) : ¬p.Commits runtime .counting := by
  intro hcommits
  obtain ⟨⟨decode, commit, results, _, _, hguarded⟩, -⟩ := hcommits.guarded
  exact h decode commit results hguarded.call

section Steps

variable {ι : Type} [DecidableEq ι] (writes : ι → DistributedWrite) (i : ι) {write : DistributedWrite} {created : Nat}
  {commits : List (CommitRecord ι)}

theorem takes_update {target : Option PaimonTable} {call : CoordinatorCall String} {insert' : PhysicalPaimonInsert}
    {baseline' : Option PaimonTable} (outside : write.stage = .outside)
    (split : call.IsPrepare → write.insert.info = none) (hidentifier : write.insert.tableIdentifier = identifier)
    (answered : call.Answered target)
    (hcall : ∀ decode commit results, call ≠ .finalizeDistributedWrite decode commit results)
    (hafter : (Performed.mk write.insert call).after runtime .counting = insert')
    (hbaseline : (if write.insert.distributedTargetInitialized = false ∧ insert'.distributedTargetInitialized = true
      then target else write.baseline) = baseline') :
    Takes runtime .counting (processOf (Function.update writes i write) target created commits) (.call i call)
      (processOf (Function.update writes i { write with insert := insert', baseline := baseline' }) target created
        commits) := by
  have hself : Function.update writes i write i = write := Function.update_self ..
  have hwrite : (processOf (Function.update writes i write) target created commits).writes i = write := hself
  have htarget : (processOf (Function.update writes i write) target created commits).target i = target :=
    target_processOf (by rwa [hself]) target created commits
  have hcalled := @Takes.call String ι _ runtime .counting
    (processOf (Function.update writes i write) target created commits) i call (by rwa [hwrite]) (by rwa [hwrite])
    (by rwa [htarget]) (quiet_call hcall)
  rw [htarget, hwrite, setWrite_processOf] at hcalled
  subst hafter hbaseline
  exact hcalled

theorem takes_call {target : Option PaimonTable} {call : CoordinatorCall String} {insert' : PhysicalPaimonInsert}
    {baseline' : Option PaimonTable} (outside : write.stage = .outside)
    (split : call.IsPrepare → write.insert.info = none) (hidentifier : write.insert.tableIdentifier = identifier)
    (answered : call.Answered target)
    (hcall : ∀ decode commit results, call ≠ .finalizeDistributedWrite decode commit results)
    (hafter : (Performed.mk write.insert call).after runtime .counting = insert')
    (hbaseline : (if write.insert.distributedTargetInitialized = false ∧ insert'.distributedTargetInitialized = true
      then target else write.baseline) = baseline') :
    Takes runtime .counting (process write target created) (.call () call)
      (process { write with insert := insert', baseline := baseline' } target created) :=
  takes_update (fun _ : Unit => write) () outside split hidentifier answered hcall hafter hbaseline

/-- A finalization that commits gives the table new snapshots. -/
theorem takes_update_commit (created : Nat) (commits : List (CommitRecord ι)) {found : PaimonTable}
    {snapshots : List Int64} {decode : DecodeReplies String} {commit : CommitReplies}
    {results : List DistributedWriteTaskResult} (outside : write.stage = .outside)
    (hidentifier : write.insert.tableIdentifier = identifier) (answered : Answers (some found) commit.baseline)
    (hcommits : (Performed.mk write.insert (.finalizeDistributedWrite decode commit results)).Commits runtime .counting)
    (hpath : found.location = write.insert.distributedTablePath) (newer : Newer found.snapshots snapshots) :
    ∃ write', Takes runtime .counting (processOf (Function.update writes i write) (some found) created commits)
      (.call i (.finalizeDistributedWrite decode commit results))
      (processOf (Function.update writes i write') (some { found with snapshots }) created
        (commits ++ [⟨i, write, some found, true⟩])) := by
  have hself : Function.update writes i write i = write := Function.update_self ..
  have hwrite : (processOf (Function.update writes i write) (some found) created commits).writes i = write := hself
  have htarget : (processOf (Function.update writes i write) (some found) created commits).target i = some found :=
    target_processOf (by rwa [hself]) (some found) created commits
  have heffect (name : TableName) : Committed (Function.update writes i write i).insert.distributedTablePath true
      ((processOf (Function.update writes i write) (some found) created commits).tables name)
      (if name = ("db", "t") then some { found with snapshots } else none) := by
    rw [hself]
    unfold processOf
    dsimp only
    split
    · exact .installs hpath rfl newer
    · exact .none
  have hcommit := @Takes.commit String ι _ runtime .counting
    (processOf (Function.update writes i write) (some found) created commits) i decode commit results true _
    (by rwa [hwrite]) (by rwa [htarget]) (by rwa [hwrite]) (fun _ => rfl) heffect
  rw [htarget, hwrite, setWrite_processOf] at hcommit
  exact ⟨_, hcommit⟩

theorem takes_commit {found : PaimonTable} {decode : DecodeReplies String} {commit : CommitReplies}
    {results : List DistributedWriteTaskResult} (outside : write.stage = .outside)
    (hidentifier : write.insert.tableIdentifier = identifier) (answered : Answers (some found) commit.baseline)
    (hcommits : (Performed.mk write.insert (.finalizeDistributedWrite decode commit results)).Commits runtime .counting)
    (hpath : found.location = write.insert.distributedTablePath) (hempty : found.snapshots = []) :
    ∃ s, Takes runtime .counting (process write (some found) created)
      (.call () (.finalizeDistributedWrite decode commit results)) s ∧ s.commits = [⟨(), write, some found, true⟩] := by
  have hnewer : Newer found.snapshots [1] := ⟨1, rfl, by rw [hempty]; exact nofun⟩
  obtain ⟨write', hcommit⟩ := takes_update_commit (fun _ : Unit => write) () created [] outside hidentifier answered
    hcommits hpath hnewer
  exact ⟨_, hcommit, rfl⟩

end Steps

theorem start_process {accessMode : AccessMode} (writable : accessMode ≠ .readOnly) (info : Option CreateTableInfo)
    {target : Option PaimonTable} {created : Nat} (hcreated : ∀ table ∈ target, table.creation < created) :
    (process { insert := .new accessMode info identifier .empty [] [[{ id := .integer }]] } target created).Start where
  writes _ := ⟨accessMode, info, identifier, .empty, [], [[{ id := .integer }]], writable, rfl⟩
  creations name table h := by
    unfold process processOf at h
    dsimp only at h
    split at h
    · exact hcreated table h
    · cases h
  commits := rfl

/-! ### The first INSERT -/

theorem commits_finalizing : finalizing.Commits runtime .counting := by
  unfold Performed.Commits
  rw [finalizes_prepared.2]
  exact ⟨_, .tail _ (.tail _ (.head _)), trivial⟩

/-- The record of its commit. -/
def record : CommitRecord Bool := ⟨false, { insert := prepared, baseline := some table }, some table, true⟩

/-! ### A second INSERT, planned on what the first has committed -/

def tableAfter : PaimonTable := { table with snapshots := [1] }

def repliesAfter : CatalogReplies := { targetReplies with listSnapshots := .ok [1] }

theorem answers_repliesAfter : Answers (some tableAfter) repliesAfter := by
  have hreport : repliesAfter.Report tableAfter := ⟨rfl, rfl, rfl, rfl, rfl, rfl⟩
  exact hreport.answers

def planAfter : PlanReplies where
  operationId := "00000000-0000-4000-8000-000000000001"
  tableLocation := .ok "/wh/db.db/t"
  target := repliesAfter

def transportAfter : InsertTransport := { plannedTransport with
  operationId := "00000000-0000-4000-8000-000000000001"
  hasSnapshot := true
  snapshotId := 1 }

def plannedAfter : PhysicalPaimonInsert := { planned with
  distributedWritePlan := ⟨"paimon", "insert", writeTransport runtime transportAfter⟩
  distributedOperationId := "00000000-0000-4000-8000-000000000001"
  distributedHasSnapshot := true
  distributedSnapshotId := 1 }

theorem serializeTransport_after :
    serializeTransport runtime transportAfter = .ok (writeTransport runtime transportAfter) := by
  have hvalid : validateTransport runtime transportAfter = .ok () := by decide +kernel
  rw [serializeTransport, hvalid]
  rfl

theorem bind_after : getCoordinatorTransport runtime plannedAfter = .ok transportAfter ∧
    validateCoordinatorShape runtime plannedAfter = .ok () := by
  have hbind : plannedAfter.distributedWritePlan.workerBindData ≠ "" :=
    binaryFormat_lawful.object_cons_ne_empty _ _ protocolVersion_ne_zero _
  refine shape_of_bind binaryFormat_lawful serializeTransport_after (by decide +kernel) rfl ?_
  unfold ShapeMismatch
  simp only [hbind, false_or]
  decide

theorem perform_planAfter :
    (perform runtime .counting (.getExtensionWriteTaskProvider planAfter : CoordinatorCall String)).run
        { unplanned with distributedContext := true } =
      (.ok none, plannedAfter, [.lock, .loadTarget, .unlock]) := by
  rfl

theorem atBaseline_after : AtBaseline plannedAfter repliesAfter := ⟨by decide, rfl⟩

theorem opens_after : Opens ⟨runtime, .counting, .text 1, info, transportAfter, writeTransport runtime transportAfter⟩
    (otherResult transportAfter) (otherFragment transportAfter) (otherEnvelope transportAfter)
      [some "data-1.orc"] where
  fragmentId := by decide +kernel
  artifacts := rfl
  byteCount := rfl
  payload := deserializeCommitEnvelope_serializeCommitEnvelope binaryFormat_lawful (by decide +kernel)
  agrees := by decide +kernel
  decoded := by decide +kernel

theorem decodeWith_after : decodeWith runtime .counting decodeReplies transportAfter [otherResult transportAfter] =
    (.ok (), ⟨["data-1.orc"], 2⟩) := by
  have haccepted : Accepted ⟨runtime, .counting, .text 1, info, transportAfter, writeTransport runtime transportAfter⟩
      [otherTaken transportAfter] := by
    refine accepted_singleton ⟨?_, ?_, ?_⟩
    · exact ⟨rfl, rfl, rfl, by decide +kernel⟩
    · exact .some (otherFragment transportAfter) (otherEnvelope transportAfter) _ rfl opens_after (.cons ⟨rfl, rfl⟩ .nil)
        rfl
    · exact List.nodup_singleton _
  have hdecodable : Decodable runtime info transportAfter (writeTransport runtime transportAfter) :=
    ⟨by decide +kernel, serializeTransport_after⟩
  have hinfo : decodeReplies.resolvedInfo = .ok info := rfl
  have htasks : ([otherTaken transportAfter].map (·.logicalTaskId)).Nodup := List.nodup_singleton _
  have hrows : ([otherTaken transportAfter].map (·.rowCount.toNat)).sum = (2 : UInt64).toNat := rfl
  exact decodeWith_accepts hinfo hdecodable haccepted htasks hrows

def finalizingAfter : Performed String := ⟨plannedAfter.preparedTarget,
  .finalizeDistributedWrite decodeReplies { commitReplies with baseline := repliesAfter } [otherResult transportAfter]⟩

theorem commits_finalizingAfter : finalizingAfter.Commits runtime .counting := by
  have hdecoding : Decoding runtime .counting decodeReplies [otherResult transportAfter] plannedAfter.preparedTarget
      transportAfter (.ok ()) ⟨["data-1.orc"], 2⟩ := ⟨bind_after.1, ⟨_, rfl⟩, decodeWith_after⟩
  have hcommittable : Committable plannedAfter.preparedTarget.finalizing
      { commitReplies with baseline := repliesAfter } (⟨["data-1.orc"], 2⟩ : DecodedCommit String) :=
    ⟨⟨by decide, rfl⟩, by decide, by decide, rfl⟩
  obtain ⟨-, hevents⟩ := finalizingAfter.finalizes rfl (entering_preparedTarget ⟨bind_after.2, rfl⟩) rfl hdecoding
    hcommittable
  unfold Performed.Commits
  rw [hevents]
  exact ⟨_, .tail _ (.tail _ (.head _)), trivial⟩

/-- The record of its commit. -/
def recordAfter : CommitRecord Bool :=
  ⟨true, { insert := plannedAfter.preparedTarget, baseline := some tableAfter }, some tableAfter, true⟩

/-- The second commit is to the table of the first. -/
theorem recordAfter_name : recordAfter.name = record.name := by
  have hname : record.name = identifier.name := rfl
  have hnameAfter : recordAfter.name = identifier.name := rfl
  rw [hname, hnameAfter]

/-! ### Both in one process -/

/-- A write that is planned, prepared and finalized, one call after the other. -/
theorem run_write {ι : Type} [DecidableEq ι] (writes : ι → DistributedWrite) (i : ι) (commits : List (CommitRecord ι))
    {found : PaimonTable} {snapshots : List Int64} {created : Nat} {plan : PlanReplies} {insert : PhysicalPaimonInsert}
    {results : List DistributedWriteTaskResult} (hanswers : Answers (some found) plan.target)
    (plans : (perform runtime .counting (.getExtensionWriteTaskProvider plan : CoordinatorCall String)).run
        { unplanned with distributedContext := true } = (.ok none, insert, [.lock, .loadTarget, .unlock]))
    (shape : validateCoordinatorShape runtime insert = .ok ())
    (given : insert.info = none ∧ insert.tableIdentifier = identifier)
    (fresh : insert.distributedPrepareStarted = false ∧ insert.distributedTargetInitialized = true)
    (baseline : AtBaseline insert plan.target)
    (hcommits : (Performed.mk insert.preparedTarget (.finalizeDistributedWrite decodeReplies
      { commitReplies with baseline := plan.target } results)).Commits runtime .counting)
    (hpath : found.location = insert.distributedTablePath) (newer : Newer found.snapshots snapshots) :
    ∃ (history : List (ProcessStep ι String)) (write' : DistributedWrite), Run (Takes runtime .counting)
      (processOf (Function.update writes i { insert := unplanned }) (some found) created commits) history
      (processOf (Function.update writes i write') (some { found with snapshots }) created
        (commits ++ [⟨i, { insert := insert.preparedTarget, baseline := some found }, some found, true⟩])) := by
  obtain ⟨hinfo, hidentifier⟩ := given
  obtain ⟨hfirst, hinitialized⟩ := fresh
  have hcontext : Takes runtime .counting
      (processOf (Function.update writes i { insert := unplanned }) (some found) created commits)
      (.call i (.setDistributedWriteContext : CoordinatorCall String))
      (processOf (Function.update writes i { insert := { unplanned with distributedContext := true } }) (some found)
        created commits) :=
    takes_update writes i rfl (fun _ => rfl) rfl trivial (fun _ _ _ h => nomatch h) rfl rfl
  have hplan : Takes runtime .counting
      (processOf (Function.update writes i { insert := { unplanned with distributedContext := true } }) (some found)
        created commits) (.call i (.getExtensionWriteTaskProvider plan : CoordinatorCall String))
      (processOf (Function.update writes i { insert, baseline := some found }) (some found) created commits) := by
    refine takes_update writes i rfl (fun _ => rfl) rfl hanswers (fun _ _ _ h => nomatch h) ?_ (if_pos ⟨rfl, hinitialized⟩)
    unfold Performed.after
    rw [plans]
  have hprepare : Takes runtime .counting
      (processOf (Function.update writes i { insert, baseline := some found }) (some found) created commits)
      (.call i (.prepareDistributedWrite { prepareReplies with baseline := plan.target } : CoordinatorCall String))
      (processOf (Function.update writes i { insert := insert.preparedTarget, baseline := some found }) (some found)
        created commits) := by
    refine takes_update writes i rfl (fun _ => hinfo) hidentifier hanswers (fun _ _ _ h => nomatch h) ?_
      (if_neg (by rw [hinitialized]; simp))
    exact (Performed.prepares_insert (p := ⟨insert, .prepareDistributedWrite { prepareReplies with
      baseline := plan.target }⟩) rfl hinfo shape hfirst baseline).2
  have houtside : ({ insert := insert.preparedTarget, baseline := some found } : DistributedWrite).stage = .outside := rfl
  obtain ⟨write', hfinalize⟩ := takes_update_commit writes i created commits houtside hidentifier hanswers hcommits hpath
    newer
  exact ⟨_, write', .snoc (.snoc (.snoc (.snoc .nil hcontext) hplan) hprepare) hfinalize⟩

/-- Two INSERTs into the table, none of which is planned. -/
def twoInserts : Process Bool := processOf (fun _ => { insert := unplanned }) (some table) 1 []

theorem start_twoInserts : twoInserts.Start where
  writes _ := ⟨.automatic, none, identifier, .empty, [], [[{ id := .integer }]], nofun, rfl⟩
  creations name found h := by
    unfold twoInserts processOf at h
    dsimp only at h
    split at h
    · cases h
      exact Nat.zero_lt_one
    · cases h
  commits := rfl

theorem run_twoInserts : ∃ (history : List (ProcessStep Bool String)) (s : Process Bool),
    Run (Takes runtime .counting) twoInserts history s ∧ s.commits = [record, recordAfter] := by
  have hnewer : Newer [] [1] := ⟨1, rfl, nofun⟩
  have hlater : Newer [1] [1, 2] := ⟨2, rfl, fun last hlast => by cases hlast; decide⟩
  obtain ⟨first, write, hfirst⟩ := run_write (fun _ => { insert := unplanned }) false []
    answers_targetReplies perform_plan shape_planned ⟨rfl, rfl⟩ ⟨rfl, rfl⟩ atBaseline_planned commits_finalizing rfl
    hnewer
  obtain ⟨second, write', hsecond⟩ := run_write (Function.update (fun _ => { insert := unplanned }) false write) true
    [record] answers_repliesAfter perform_planAfter bind_after.2 ⟨rfl, rfl⟩ ⟨rfl, rfl⟩ atBaseline_after
    commits_finalizingAfter rfl hlater
  have hnone : Function.update (fun _ => { insert := unplanned }) false { insert := unplanned } =
      fun _ : Bool => ({ insert := unplanned } : DistributedWrite) := Function.update_eq_self ..
  have hsame : Function.update (Function.update (fun _ => { insert := unplanned }) false write) true
      { insert := unplanned } =
        Function.update (fun _ : Bool => ({ insert := unplanned } : DistributedWrite)) false write :=
    Function.update_eq_self ..
  rw [hnone] at hfirst
  rw [hsame] at hsecond
  exact ⟨_, _, hfirst.append hsecond, rfl⟩

end Sample

/-- Two INSERTs commit one after the other, each to the table it was planned on, on different snapshots. -/
theorem commits_serialised_insert : Sample.record.OnBaseline ∧ Sample.recordAfter.OnBaseline ∧
    Sample.record.plannedSnapshot ≠ Sample.recordAfter.plannedSnapshot := by
  obtain ⟨history, s, hrun, hcommits⟩ := Sample.run_twoInserts
  obtain ⟨hbaselines, hapart, -⟩ := commits_serialised Sample.start_twoInserts hrun
  rw [hcommits] at hbaselines hapart
  refine ⟨hbaselines _ (.head _), hbaselines _ (.tail _ (.head _)), ?_⟩
  have hpair : Sample.record.Apart Sample.recordAfter := List.rel_of_pairwise_cons hapart (.head _)
  have hcreation : Sample.record.found.map PaimonTable.creation =
      Sample.recordAfter.found.map PaimonTable.creation := rfl
  exact hpair rfl rfl Sample.recordAfter_name.symm hcreation

end DuckPaimon.Write
