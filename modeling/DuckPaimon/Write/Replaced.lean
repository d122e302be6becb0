/-
A distributed CREATE TABLE AS and the table it made. The catalog identifies a table by its full name, so what is
captured and validated is the definition of the target: a table that another client makes under the name, with
the definition the CREATE TABLE AS has frozen, is taken for its own. Where no client makes such a table behind
its CreateTable, a CREATE TABLE AS commits to the table of its own.
-/
import DuckPaimon.Write.Serial

namespace DuckPaimon.Write

open Outcome

variable {Message : Type} {rt : Runtime} {vane : Vane}

/-! ## The frozen definition -/

/-- What planning a CREATE TABLE AS freezes of its target. -/
def TargetState.definition (state : TargetState) : TargetState :=
  { state with tableSchemaJson := "", hasSnapshot := false, snapshotId := 0 }

namespace DistributedWrite

/-- The table has the frozen definition, and the schema text of a target that was captured. -/
def Froze (write : DistributedWrite) (table : PaimonTable) : Prop :=
  write.insert.recorded.definition = table.target.definition ∧
    (write.insert.distributedTargetPrepared = true → write.insert.distributedTableSchemaJson = table.json)

/-- The table is the one the write made. -/
def Made (write : DistributedWrite) (table : PaimonTable) : Prop := write.own = some table.creation

/-- A CREATE TABLE AS whose CreateTable has returned, and that is not being finalized. -/
structure HoldsTable (write : DistributedWrite) : Prop where
  ctas : write.insert.info ≠ none
  made : write.stage = .created ∨ write.insert.distributedTargetPrepared = true
  open_ : write.insert.distributedFinalizeStarted = false

/-- What stays of a CREATE TABLE AS that holds its table. -/
structure Remains (write write' : DistributedWrite) : Prop where
  name : write'.insert.tableIdentifier.name = write.insert.tableIdentifier.name
  own : write'.own = write.own
  holds : write'.HoldsTable → write.HoldsTable
  froze : write'.HoldsTable → ∀ table, write'.Froze table → write.Froze table

theorem Remains.refl (write : DistributedWrite) : write.Remains write := ⟨rfl, rfl, id, fun _ _ => id⟩

end DistributedWrite

/-- A table with more snapshots has the same definition. -/
theorem froze_snapshots {write : DistributedWrite} {table : PaimonTable} {snapshots : List Int64} :
    write.Froze { table with snapshots } ↔ write.Froze table := Iff.rfl

/-! ## A write -/

/-- A call leaves a prepared target as it is. -/
theorem Sound.remains_perform {write : DistributedWrite} (h : Sound rt write) (outside : write.stage = .outside)
    {call : CoordinatorCall Message} (split : call.IsPrepare → write.insert.info = none) (target : Option PaimonTable) :
    write.Remains (write.perform rt vane call target) := by
  have heffect : CallEffect rt call write.insert ((Performed.mk write.insert call).after rt vane) :=
    callEffect h.bound split
  unfold DistributedWrite.perform
  dsimp only
  generalize (Performed.mk write.insert call).after rt vane = insert' at heffect ⊢
  have hinfo := heffect.info
  -- a call is outside of the preparation, so a table is held by a prepared target
  have hafter {baseline : Option PaimonTable} {own : Option Nat}
      (holds : DistributedWrite.HoldsTable ⟨insert', write.stage, baseline, own⟩) :
      insert'.distributedTargetPrepared = true :=
    holds.made.resolve_left fun hstage => nomatch outside.symm.trans hstage
  have hbefore {baseline : Option PaimonTable} {own : Option Nat}
      (holds : DistributedWrite.HoldsTable ⟨insert', write.stage, baseline, own⟩) :
      write.insert.distributedTargetPrepared = true := by
    refine (heffect.prepared (hafter holds)).resolve_right fun hprepare => ?_
    exact holds.ctas (hinfo.trans (split hprepare.1))
  refine ⟨congrArg Identifier.name heffect.tableIdentifier, rfl, fun holds => ?_, fun holds table froze => ?_⟩
  · refine ⟨hinfo ▸ holds.ctas, .inr (hbefore holds), ?_⟩
    by_contra hstarted
    rw [Bool.not_eq_false] at hstarted
    exact absurd ((heffect.finalized hstarted).symm.trans holds.open_) Bool.noConfusion
  · obtain ⟨hinitialized, -⟩ := h.captured (hinfo ▸ holds.ctas) (hbefore holds)
    obtain ⟨hdefinition, hjson⟩ := froze
    rcases heffect.recorded with ⟨-, hrecorded⟩ | ⟨hopen, -⟩
    · refine ⟨hrecorded ▸ hdefinition, fun _ => ?_⟩
      exact (congrArg TargetState.tableSchemaJson hrecorded).symm.trans (hjson (hafter holds))
    · exact absurd (hopen.symm.trans hinitialized) Bool.noConfusion

/-- A preparation that begins holds no table. -/
theorem remains_begin {write : DistributedWrite} (tableExists : Result Bool) :
    write.Remains (write.proceed (beginPrepare rt tableExists : Coordinator Message Unit) .absent) := by
  have hbegin : ((beginPrepare rt tableExists : Coordinator Message Unit).wp write.insert) _ :=
    wp_beginPrepare tableExists write.insert
  unfold Proc.wp at hbegin
  unfold DistributedWrite.proceed
  generalize ((beginPrepare rt tableExists : Coordinator Message Unit).run write.insert).1 = r,
    ((beginPrepare rt tableExists : Coordinator Message Unit).run write.insert).2.1 = insert' at hbegin ⊢
  -- however it ends, it has not created the table
  rcases hbegin with ⟨rfl, -⟩ | ⟨rfl, -⟩
  all_goals
    refine ⟨rfl, rfl, fun holds => ⟨holds.ctas, .inr (holds.made.resolve_left ?_), holds.open_⟩, fun _ _ => id⟩
    intro hstage
    cases r <;> cases hstage

/-- A capture records the schema text of its target, and otherwise leaves what is frozen. -/
theorem Sound.remains_capture {write : DistributedWrite} (h : Sound rt write) (created : write.stage = .created)
    (replies : CatalogReplies) (target : Option PaimonTable) :
    write.Remains (write.capture Message replies target) := by
  obtain ⟨hinfo, -, -, hprepared, -⟩ := h.preparing (by rw [created]; exact nofun)
  have hopen {table : PaimonTable} (hdefinition : write.insert.recorded.definition = table.target.definition) :
      write.Froze table := by
    refine ⟨hdefinition, fun h => absurd (hprepared.symm.trans h) Bool.noConfusion⟩
  rcases capture_eq h created replies target with heq | ⟨insert', heq, -, hinsert'⟩
  · rw [heq]
    exact ⟨rfl, rfl, fun holds => ⟨hinfo, .inl created, holds.open_⟩, fun _ _ => id⟩
  · rw [heq]
    generalize insert'.distributedTableSchemaJson = json at hinsert'
    subst hinsert'
    exact ⟨rfl, rfl, fun holds => ⟨hinfo, .inl created, holds.open_⟩, fun _ _ froze => hopen froze.1⟩

section Process

variable {ι : Type}

/-! ## Tables that are made -/

/-- The step makes a table under a name, for a write or for another statement. -/
inductive ProcessStep.Makes (s : Process ι) : ProcessStep ι Message → Option ι → TableName → PaimonTable → Prop
  | createTarget {i : ι} {createTable : Except Exception Unit} {table : PaimonTable} :
      Makes s (.createTarget i createTable (some table)) (some i) (s.writes i).insert.tableIdentifier.name table
  | createTable {name : TableName} {table : PaimonTable} : Makes s (.createTable name (some table)) none name table

/-- Another client makes a table under the name of a CREATE TABLE AS that holds its own, with the frozen definition. -/
def Process.Imitates (s : Process ι) (step : ProcessStep ι Message) : Prop :=
  ∃ i maker table, step.Makes s maker (s.writes i).insert.tableIdentifier.name table ∧ maker ≠ some i ∧
    (s.writes i).HoldsTable ∧ (s.writes i).Froze table

/-- The commit is to the table the write made. -/
def CommitRecord.ToItsOwn (record : CommitRecord ι) : Prop :=
  ∃ found, record.found = some found ∧ record.committing.Made found

/-- A CREATE TABLE AS that holds a table finds its own under the name, or one of another definition. -/
structure FindsOwn (s : Process ι) : Prop where
  targets : ∀ i, (s.writes i).HoldsTable → ∀ table, s.target i = some table → (s.writes i).Froze table →
    (s.writes i).Made table
  commits : ∀ record ∈ s.commits, record.committing.insert.info ≠ none → record.ToItsOwn

theorem CommitStep.toItsOwn {s s' : Process ι} {record : CommitRecord ι} (h : CommitStep s s' record)
    (sound : Sound rt record.committing) (owned : FindsOwn s) (ctas : record.committing.insert.info ≠ none) :
    record.ToItsOwn := by
  obtain ⟨found, -, hfound, -, htarget, -⟩ := h.onBaseline sound
  refine ⟨found, hfound, ?_⟩
  have hholds : record.committing.HoldsTable := ⟨ctas, .inr h.prepared, h.open_⟩
  have hfroze : record.committing.Froze found := by
    refine ⟨congrArg TargetState.definition htarget.symm, fun _ => ?_⟩
    exact (congrArg TargetState.tableSchemaJson htarget).symm
  have htargets := owned.targets record.write
  rw [← h.committing] at htargets
  exact htargets hholds found (h.found.symm.trans hfound) hfroze

variable [DecidableEq ι]

/-- A table behind a step was made by it, or was there before. -/
theorem Takes.before {s s' : Process ι} {step : ProcessStep ι Message} (h : Takes rt vane s step s') {name : TableName}
    {table : PaimonTable} (hafter : s'.tables name = some table) :
    (∃ maker, step.Makes s maker name table) ∨
      ∃ before snapshots, s.tables name = some before ∧ table = { before with snapshots } := by
  have htables := h.tablesStep
  cases hbefore : s.tables name with
  | some before =>
    have hstep := htables.table name
    rw [hbefore, hafter] at hstep
    cases hstep with
    | kept => exact .inr ⟨table, table.snapshots, rfl, rfl⟩
    | @installed _ snapshots => exact .inr ⟨before, snapshots, rfl, rfl⟩
  | none =>
    have hfresh := htables.fresh name table hbefore hafter
    -- a step that makes a table counts it
    have hmade {s' : Process ι} {name' : TableName} {made : Option PaimonTable} (creates : s.Creates name' made s')
        (hafter : s'.tables name = some table) : name' = name ∧ made = some table := by
      cases creates with
      | nothing => exact nomatch hbefore.symm.trans hafter
      | @table made =>
        have hafter : Function.update s.tables name' (some made) name = some table := hafter
        by_cases hname : name = name'
        · subst hname
          rw [Function.update_self] at hafter
          exact ⟨rfl, hafter⟩
        · rw [Function.update_of_ne hname, hbefore] at hafter
          cases hafter
    cases h with
    | createTarget _ creates =>
      obtain ⟨rfl, rfl⟩ := hmade creates hafter
      exact .inl ⟨_, .createTarget⟩
    | createTable creates =>
      obtain ⟨rfl, rfl⟩ := hmade creates hafter
      exact .inl ⟨_, .createTable⟩
    | _ => exact absurd hfresh (Nat.lt_irrefl _)

/-- A step leaves what a write holds, or is its own CreateTable. -/
theorem Takes.remains {s s' : Process ι} {step : ProcessStep ι Message} (h : Takes rt vane s step s') {i : ι}
    (sound : Sound rt (s.writes i)) :
    ((s.writes i).Remains (s'.writes i) ∧ ∀ createTable made, step ≠ .createTarget i createTable made) ∨
      ((s'.writes i).HoldsTable → ∃ table, s'.target i = some table ∧ (s'.writes i).Made table) := by
  have hstep := h.writeStep i
  unfold Process.target
  generalize s'.writes i = write at hstep ⊢
  cases hstep with
  | kept other => exact .inl ⟨.refl _, other⟩
  | performed outside split => exact .inl ⟨sound.remains_perform outside split _, nofun⟩
  | begun => exact .inl ⟨remains_begin _, nofun⟩
  | @made createTable made absent table returned =>
    refine .inr fun holds => ?_
    obtain ⟨hinfo, -, -, hprepared, hconflict⟩ := sound.preparing (by rw [absent]; exact nofun)
    obtain ⟨hresult, hinsert⟩ := @run_createTarget Message createTable (s.writes i).insert
    unfold DistributedWrite.proceed at holds ⊢
    rw [hinsert, hresult] at holds
    rw [hinsert]
    -- nothing is prepared yet, so a table is held by the stage alone
    have hcreated := holds.made.resolve_right fun h => absurd (hprepared.symm.trans h) Bool.noConfusion
    cases createTable with
    | error e => cases hcreated
    | ok u =>
      obtain ⟨table', rfl⟩ := Option.ne_none_iff_exists'.1 (returned rfl hconflict)
      exact ⟨table', table table' rfl, rfl⟩
  | captured created => exact .inl ⟨sound.remains_capture created _ _, nofun⟩

theorem FindsOwn.step {s s' : Process ι} {step : ProcessStep ι Message} (h : FindsOwn s) (sound : ∀ i, Sound rt (s.writes i))
    (hstep : Takes rt vane s step s') (hother : ¬s.Imitates step) : FindsOwn s' := by
  refine ⟨fun i holds table htarget froze => ?_, ?_⟩
  · rcases hstep.remains (sound i) with ⟨hremains, hnot⟩ | hmade
    · have hname : s'.tables (s.writes i).insert.tableIdentifier.name = some table := by
        rw [← hremains.name]
        exact htarget
      have hholds := hremains.holds holds
      have hfroze := hremains.froze holds table froze
      rcases hstep.before hname with ⟨maker, hmakes⟩ | ⟨before, snapshots, hbefore, rfl⟩
      -- another client made the table, so it has another definition
      · refine absurd ⟨i, maker, table, hmakes, ?_, hholds, hfroze⟩ hother
        rintro rfl
        cases hmakes
        exact hnot _ _ rfl
      -- a commit added snapshots, if anything
      · have hown := h.targets i hholds before hbefore (froze_snapshots.1 hfroze)
        exact hremains.own.trans hown
    · obtain ⟨table', htarget', hown⟩ := hmade holds
      cases htarget.symm.trans htarget'
      exact hown
  · rcases hstep.commits with hsame | ⟨record, hcommits, hcommit⟩
    · rw [hsame]
      exact h.commits
    · rw [hcommits, List.forall_mem_append, List.forall_mem_singleton]
      exact ⟨h.commits, hcommit.toItsOwn (hcommit.committing ▸ sound record.write) h⟩

/-! ## Runs -/

/-- In a run in which no other client makes a table that a CREATE TABLE AS takes for its own, every write is sound
and every CREATE TABLE AS has its own table. -/
theorem findsOwn_of_run {s₀ s : Process ι} {history : List (ProcessStep ι Message)} (start : s₀.Start)
    (run : Run (fun s step s' => Takes rt vane s step s' ∧ ¬s.Imitates step) s₀ history s) :
    (∀ i, Sound rt (s.writes i)) ∧ FindsOwn s := by
  have hserial : Serial rt s₀ := start.serial
  refine run.invariant (I := fun _ s => (∀ i, Sound rt (s.writes i)) ∧ FindsOwn s) ⟨hserial.writes, ?_, ?_⟩ ?_
  · rintro i ⟨-, hmade, -⟩
    obtain ⟨accessMode, info, tableIdentifier, paimonOptions, partKeys, children, -, hnew⟩ := start.writes i
    rw [hnew] at hmade
    rcases hmade with hstage | hprepared
    · cases hstage
    · cases hprepared
  · rw [start.commits]
    exact fun _ hmem => absurd hmem List.not_mem_nil
  · rintro _ s s' step ⟨sound, owned⟩ ⟨hstep, hother⟩
    exact ⟨hstep.sound sound, owned.step sound hstep hother⟩

/-- A capture that succeeds was told the full name as the UUID of the table. -/
theorem Sound.capture_reports {write : DistributedWrite} (h : Sound rt write) (ctas : write.insert.info ≠ none)
    (initialized : write.insert.distributedTargetInitialized = true) {replies : CatalogReplies}
    (hcapture : ((capturePreparedCTASTarget replies : Coordinator Message Unit).run write.insert).1 = .ok ()) :
    replies.getTable = .ok (some write.insert.tableIdentifier.fullName) := by
  obtain ⟨hhas, hid, huuid⟩ := h.fresh ctas initialized
  have hwp : ((capturePreparedCTASTarget replies : Coordinator Message Unit).wp write.insert) _ :=
    wp_capturePreparedCTASTarget replies write.insert hhas hid
  unfold Proc.wp at hwp
  obtain ⟨hloaded, -, hinsert'⟩ := hwp
  have hreported := (loadTargetState_eq_ok.1 (hloaded hcapture)).getTable
  rw [hinsert'] at hreported
  rw [← huuid]
  exact hreported

/-- In every run in which no other client makes a table under the name of a CREATE TABLE AS, with the definition it
has frozen, between its CreateTable and its finalization, a CREATE TABLE AS commits only to the table it made. In
every run it has the full name of the table for its UUID, and captures no table that is reported under another one. -/
theorem ctas_commits_to_its_own {s₀ : Process ι} (start : s₀.Start) :
    (∀ (history : List (ProcessStep ι Message)) s,
      Run (fun s step s' => Takes rt vane s step s' ∧ ¬s.Imitates step) s₀ history s →
        ∀ record ∈ s.commits, record.committing.insert.info ≠ none → record.ToItsOwn) ∧
      ∀ (history : List (ProcessStep ι Message)) s, Run (Takes rt vane) s₀ history s → ∀ i,
        (s.writes i).insert.info ≠ none → (s.writes i).insert.distributedTargetInitialized = true →
          (s.writes i).insert.distributedTableUuid = (s.writes i).insert.tableIdentifier.fullName ∧
            ∀ replies, ((capturePreparedCTASTarget replies : Coordinator Message Unit).run (s.writes i).insert).1 = .ok () →
              replies.getTable = .ok (some (s.writes i).insert.tableIdentifier.fullName) := by
  refine ⟨fun history s run => (findsOwn_of_run start run).2.commits, fun history s run i ctas initialized => ?_⟩
  have hsound : Sound rt (s.writes i) := (Serial.run start run).writes i
  exact ⟨(hsound.fresh ctas initialized).2.2, fun replies hcapture => hsound.capture_reports ctas initialized hcapture⟩

end Process

/-! ## A CREATE TABLE AS in a process -/

namespace Sample

def createInfo : CreateTableInfo := ⟨["a"], [{ id := .integer }], [], [], .errorOnConflict⟩

def ctasTransport : InsertTransport := { plannedTransport with writeKind := .ctas, tableUuid := "db.t" }

def unplannedCTAS : PhysicalPaimonInsert :=
  .new .automatic (some createInfo) identifier .empty [] [[{ id := .integer }]]

/-- The operator once it is planned. -/
def plannedCTAS : PhysicalPaimonInsert := { planned with
  info := some createInfo
  distributedWritePlan := ⟨"paimon", "ctas", writeTransport runtime ctasTransport⟩
  distributedTableUuid := "db.t"
  distributedTableSchemaJson := "" }

/-- The operator once its target is captured. -/
def preparedCTAS : PhysicalPaimonInsert := { plannedCTAS with
  distributedTableSchemaJson := "{}"
  distributedPrepareStarted := true
  distributedTargetPrepared := true }

/-- The table of the definition, as a CREATE TABLE makes it. -/
def ctasTable (creation : Nat) : PaimonTable := { table with creation, tableUuid := "db.t" }

def ctasReplies : CatalogReplies := { targetReplies with
  getTable := .ok (some "db.t")
  getTableAgain := .ok (some "db.t") }

theorem answers_ctasReplies (creation : Nat) : Answers (some (ctasTable creation)) ctasReplies := by
  have hreport : ctasReplies.Report (ctasTable creation) := ⟨rfl, rfl, rfl, rfl, rfl, rfl⟩
  exact hreport.answers

theorem serializeTransport_ctas : serializeTransport runtime ctasTransport = .ok (writeTransport runtime ctasTransport) := by
  have hvalid : validateTransport runtime ctasTransport = .ok () := by decide +kernel
  rw [serializeTransport, hvalid]
  rfl

theorem bind_ctas {insert : PhysicalPaimonInsert} (h : insert = plannedCTAS ∨ insert = preparedCTAS) :
    getCoordinatorTransport runtime insert = .ok ctasTransport ∧ validateCoordinatorShape runtime insert = .ok () := by
  have hbind : writeTransport runtime ctasTransport ≠ "" :=
    binaryFormat_lawful.object_cons_ne_empty _ _ protocolVersion_ne_zero _
  rcases h with rfl | rfl
  · refine shape_of_bind binaryFormat_lawful serializeTransport_ctas (by decide +kernel) rfl ?_
    unfold ShapeMismatch plannedCTAS
    simp only [hbind, false_or]
    decide
  · refine shape_of_bind binaryFormat_lawful serializeTransport_ctas (by decide +kernel) rfl ?_
    unfold ShapeMismatch preparedCTAS plannedCTAS
    simp only [hbind, false_or]
    decide

/-- The catalog has no such table yet. -/
def ctasPlan : PlanReplies := { insertPlan with target := { ctasReplies with tableExists := .ok false } }

theorem perform_planCTAS :
    (perform runtime .counting (.getExtensionWriteTaskProvider ctasPlan : CoordinatorCall String)).run
        { unplannedCTAS with distributedContext := true } = (.ok none, plannedCTAS, []) := by
  rfl

/-- The CREATE TABLE AS once it is planned. -/
def ctasPlanned : DistributedWrite := { insert := plannedCTAS }

/-- Its target is found absent. -/
def ctasAbsent : DistributedWrite := { insert := { plannedCTAS with distributedPrepareStarted := true }, stage := .absent }

/-- Its CreateTable has returned. -/
def ctasCreated : DistributedWrite := { ctasAbsent with stage := .created, own := some 0 }

/-- The table of the name is captured. -/
def ctasCaptured (creation : Nat) : DistributedWrite where
  insert := preparedCTAS
  baseline := some (ctasTable creation)
  own := some 0

theorem takes_absent : Takes runtime .counting (process ctasPlanned none 0)
    (.checkAbsent () (.ok false) : ProcessStep Unit String) (process ctasAbsent none 0) := by
  have hbegin : (beginPrepare runtime (.ok false) : Coordinator String Unit).wp ctasPlanned.insert fun r insert' _ =>
      r = .ok () ∧ insert' = ctasAbsent.insert := by
    unfold beginPrepare
    rw [Proc.wp_bind]
    refine Proc.wp_mono (wp_enterPrepare _) ?_
    rintro r insert' events ⟨rfl, ⟨e, rfl, rfl, hnot⟩ | ⟨rfl, rfl, -, -⟩⟩
    · exact absurd (hnot (bind_ctas (.inl rfl)).2) Bool.noConfusion
    · show Proc.wp _ _ _
      unfold Proc.wp
      exact ⟨rfl, rfl⟩
  unfold Proc.wp at hbegin
  have habsent : ctasPlanned.proceed (beginPrepare runtime (.ok false) : Coordinator String Unit) .absent = ctasAbsent := by
    unfold DistributedWrite.proceed
    rw [hbegin.1, hbegin.2]
    rfl
  rw [← habsent]
  exact .checkAbsent rfl nofun fun found h => by cases h; rfl

/-- Another table under the name. -/
theorem update_process (write : DistributedWrite) (target target' : Option PaimonTable) (created : Nat) :
    { process write target created with tables := Function.update (process write target created).tables ("db", "t") target' } =
      process write target' created := by
  unfold process processOf
  refine congrArg (fun tables => Process.mk _ tables _ _ _) ?_
  funext name
  by_cases hname : name = ("db", "t")
  · subst hname
    rw [Function.update_self]
    rfl
  · rw [Function.update_of_ne hname]
    exact (if_neg hname).trans (if_neg hname).symm

theorem creates_process (write : DistributedWrite) {found : PaimonTable} {created : Nat} (fresh : found.creation = created) :
    (process write none created).Creates ("db", "t") (some found) (process write (some found) (created + 1)) := by
  have hcreates : (process write none created).Creates ("db", "t") (some found)
      ((process write none created).create ("db", "t") found) := .table rfl rfl fresh
  have hcreated : (process write none created).create ("db", "t") found = process write (some found) (created + 1) := by
    rw [← update_process write none (some found) (created + 1)]
    rfl
  rw [hcreated] at hcreates
  exact hcreates

theorem takes_create : Takes runtime .counting (process ctasAbsent none 0)
    (.createTarget () (.ok ()) (some (ctasTable 0)) : ProcessStep Unit String)
    (process ctasCreated (some (ctasTable 0)) 1) := by
  have hcreates : (process ctasAbsent none 0).Creates ("db", "t") (some (ctasTable 0))
      (process ctasAbsent (some (ctasTable 0)) 1) := creates_process ctasAbsent rfl
  exact @Takes.createTarget String Unit _ runtime .counting _ _ () (.ok ()) _ rfl hcreates fun _ _ => nofun

theorem takes_capture (creation created : Nat) : Takes runtime .counting
    (process ctasCreated (some (ctasTable creation)) created)
    (.captureTarget () ctasReplies : ProcessStep Unit String)
    (process (ctasCaptured creation) (some (ctasTable creation)) created) := by
  exact .captureTarget rfl (answers_ctasReplies creation)

/-! ## Its results -/

def ctasInfo : DistributedExtensionWriteInfo := { info with
  capability := ⟨"paimon", "ctas", protocolVersion⟩
  name := "ctas" }

def ctasEnvelope : CommitEnvelope := { plannedEnvelope with
  tableUuid := "db.t"
  serializedTransport := writeTransport runtime ctasTransport }

def ctasFragment : DistributedWriteFragment := { fragment with payload := serializeCommitEnvelope runtime ctasEnvelope }

def ctasResult : DistributedWriteTaskResult := { result with
  capability := ctasInfo.capability
  fragments := [ctasFragment] }

def ctasTaken : Taken String := { taken with result := ctasResult }

def ctasDecodeReplies : DecodeReplies String := { decodeReplies with resolvedInfo := .ok ctasInfo }

def ctasCommitReplies : CommitReplies := { commitReplies with baseline := ctasReplies }

theorem opens_ctas : Opens ⟨runtime, .counting, .text 1, ctasInfo, ctasTransport, writeTransport runtime ctasTransport⟩
    ctasResult ctasFragment ctasEnvelope [some "data-0.orc"] where
  fragmentId := by decide +kernel
  artifacts := rfl
  byteCount := rfl
  payload := deserializeCommitEnvelope_serializeCommitEnvelope binaryFormat_lawful (by decide +kernel)
  agrees := by decide +kernel
  decoded := by decide +kernel

theorem accepted_ctas :
    Accepted ⟨runtime, .counting, .text 1, ctasInfo, ctasTransport, writeTransport runtime ctasTransport⟩ [ctasTaken] := by
  refine accepted_singleton ⟨?_, ?_, ?_⟩
  · exact ⟨rfl, rfl, rfl, by decide +kernel⟩
  · exact .some ctasFragment ctasEnvelope _ rfl opens_ctas (.cons ⟨rfl, rfl⟩ .nil) rfl
  · exact List.nodup_singleton _

theorem decodeWith_ctas : decodeWith runtime .counting ctasDecodeReplies ctasTransport [ctasResult] =
    (.ok (), ⟨["data-0.orc"], 2⟩) := by
  have hdecodable : Decodable runtime ctasInfo ctasTransport (writeTransport runtime ctasTransport) :=
    ⟨by decide +kernel, serializeTransport_ctas⟩
  have hinfo : ctasDecodeReplies.resolvedInfo = .ok ctasInfo := rfl
  have htasks : ([ctasTaken].map (·.logicalTaskId)).Nodup := List.nodup_singleton _
  have hrows : ([ctasTaken].map (·.rowCount.toNat)).sum = (2 : UInt64).toNat := rfl
  exact decodeWith_accepts hinfo hdecodable accepted_ctas htasks hrows

theorem commits_ctas : (Performed.mk preparedCTAS
    (.finalizeDistributedWrite ctasDecodeReplies ctasCommitReplies [ctasResult])).Commits runtime .counting := by
  have hdecoding : Decoding runtime .counting ctasDecodeReplies [ctasResult] preparedCTAS ctasTransport (.ok ())
      ⟨["data-0.orc"], 2⟩ := ⟨(bind_ctas (.inr rfl)).1, ⟨_, rfl⟩, decodeWith_ctas⟩
  have hcommittable : Committable preparedCTAS.finalizing ctasCommitReplies (⟨["data-0.orc"], 2⟩ : DecodedCommit String) :=
    ⟨⟨by decide, rfl⟩, by decide, by decide, rfl⟩
  have hevents := (Performed.finalizes
    (p := ⟨preparedCTAS, .finalizeDistributedWrite ctasDecodeReplies ctasCommitReplies [ctasResult]⟩) rfl
    ⟨(bind_ctas (.inr rfl)).2, rfl⟩ rfl hdecoding hcommittable).2
  unfold Performed.Commits
  rw [hevents]
  exact ⟨_, .tail _ (.tail _ (.head _)), trivial⟩

/-- The record of the commit. -/
def ctasRecord (creation : Nat) : CommitRecord Unit := ⟨(), ctasCaptured creation, some (ctasTable creation), true⟩

theorem takes_commit_ctas (creation created : Nat) : ∃ s,
    Takes runtime .counting (process (ctasCaptured creation) (some (ctasTable creation)) created)
      (.call () (.finalizeDistributedWrite ctasDecodeReplies ctasCommitReplies [ctasResult])) s ∧
      s.commits = [ctasRecord creation] :=
  takes_commit rfl rfl (answers_ctasReplies creation) commits_ctas rfl rfl

/-! ## Its run -/

/-- The steps of the CREATE TABLE AS itself. -/
theorem alone {s s' : Process Unit} {step : ProcessStep Unit String} (h : Takes runtime .counting s step s')
    (hown : ∀ maker name table, step.Makes s maker name table → maker = some ()) :
    Takes runtime .counting s step s' ∧ ¬s.Imitates step := by
  refine ⟨h, ?_⟩
  rintro ⟨⟨⟩, maker, table, hmakes, hother, -⟩
  exact hother (hown _ _ _ hmakes)

theorem run_created : ∃ history : List (ProcessStep Unit String),
    Run (fun s step s' => Takes runtime .counting s step s' ∧ ¬s.Imitates step)
      (process { insert := unplannedCTAS } none 0) history (process ctasCreated (some (ctasTable 0)) 1) := by
  have hcontext : Takes runtime .counting (process { insert := unplannedCTAS } none 0)
      (.call () (.setDistributedWriteContext : CoordinatorCall String))
      (process { insert := { unplannedCTAS with distributedContext := true } } none 0) :=
    takes_call rfl False.elim rfl trivial (fun _ _ _ h => nomatch h) rfl rfl
  have hplan : Takes runtime .counting (process { insert := { unplannedCTAS with distributedContext := true } } none 0)
      (.call () (.getExtensionWriteTaskProvider ctasPlan : CoordinatorCall String)) (process ctasPlanned none 0) := by
    refine takes_call rfl False.elim rfl ⟨fun found h => by cases h; rfl, nofun⟩ (fun _ _ _ h => nomatch h) ?_ rfl
    unfold Performed.after
    rw [perform_planCTAS]
  have hcontext := alone hcontext fun _ _ _ h => nomatch h
  have hplan := alone hplan fun _ _ _ h => nomatch h
  have habsent := alone takes_absent fun _ _ _ h => nomatch h
  have hcreate := alone takes_create fun _ _ _ h => by cases h; rfl
  exact ⟨_, .snoc (.snoc (.snoc (.snoc .nil hcontext) hplan) habsent) hcreate⟩

/-- Another client drops the table and makes it again. -/
theorem run_replaced : Run (Takes runtime .counting) (process ctasCreated (some (ctasTable 0)) 1)
    [(.dropTable ("db", "t") : ProcessStep Unit String), .createTable ("db", "t") (some (ctasTable 1))]
    (process ctasCreated (some (ctasTable 1)) 2) := by
  have hdrop : Takes runtime .counting (process ctasCreated (some (ctasTable 0)) 1)
      (.dropTable ("db", "t") : ProcessStep Unit String) (process ctasCreated none 1) := by
    rw [← update_process ctasCreated (some (ctasTable 0)) none 1]
    exact .dropTable
  exact .snoc (.snoc .nil hdrop) (.createTable (creates_process ctasCreated rfl))

end Sample

/-- With no other client the CREATE TABLE AS commits to its table. -/
theorem ctas_commits_to_its_own_alone : (Sample.ctasRecord 0).ToItsOwn := by
  obtain ⟨history, hrun⟩ := Sample.run_created
  have hwritable : AccessMode.automatic ≠ .readOnly := nofun
  have hcreated : ∀ table ∈ (none : Option PaimonTable), table.creation < 0 := nofun
  have hstart := Sample.start_process hwritable (some Sample.createInfo) hcreated
  obtain ⟨s, hcommit, hcommits⟩ := Sample.takes_commit_ctas 0 1
  have hrun := (hrun.snoc (Sample.alone (Sample.takes_capture 0 1) fun _ _ _ h => nomatch h)).snoc
    (Sample.alone hcommit fun _ _ _ h => nomatch h)
  have howned := (ctas_commits_to_its_own hstart).1 _ _ hrun
  rw [hcommits] at howned
  exact howned _ (List.mem_singleton_self _) nofun

/-- Where another client drops the table between the CreateTable and the capture and makes it again, the CREATE TABLE
AS commits its rows to the table of the other client. -/
theorem ctas_commits_to_a_replacement : ∃ (history : List (ProcessStep Unit String)) (s₀ s : Process Unit),
    s₀.Start ∧ Run (Takes Sample.runtime .counting) s₀ history s ∧
      ∃ record ∈ s.commits, record.committing.insert.info ≠ none ∧ record.installed = true ∧ ¬record.ToItsOwn := by
  obtain ⟨history, hrun⟩ := Sample.run_created
  have hwritable : AccessMode.automatic ≠ .readOnly := nofun
  have hcreated : ∀ table ∈ (none : Option PaimonTable), table.creation < 0 := nofun
  have hstart := Sample.start_process hwritable (some Sample.createInfo) hcreated
  obtain ⟨s, hcommit, hcommits⟩ := Sample.takes_commit_ctas 1 2
  have hrun := (((hrun.mono fun _ _ _ h => h.1).append Sample.run_replaced).snoc (Sample.takes_capture 1 2)).snoc hcommit
  refine ⟨_, _, s, hstart, hrun, Sample.ctasRecord 1, ?_, nofun, rfl, ?_⟩
  · rw [hcommits]
    exact List.mem_singleton_self _
  · rintro ⟨found, ⟨⟩, hown⟩
    cases hown

end DuckPaimon.Write
