/-
What the coordinator ships: the bind of the selected worker plan is the recorded target, no later
call changes either, and an initialization that is retried plans what a first one plans.
-/
import DuckPaimon.Write.Calls

namespace DuckPaimon.Write

open Outcome

variable {Message : Type} {rt : Runtime} {vane : Vane}

/-! ## What later calls keep -/

namespace PhysicalPaimonInsert

/-- What it has planned. -/
def shipped (insert : PhysicalPaimonInsert) : InsertTransport × ExtensionWritePlan × Bool × Bool :=
  (insert.transport, insert.distributedWritePlan, insert.distributedTargetInitialized,
    insert.distributedWorkerPlanSelected)

/-- What a call other than `GetExtensionWriteTaskProvider` leaves as it is. -/
def fixed (insert : PhysicalPaimonInsert) := (insert.given, insert.shipped)

end PhysicalPaimonInsert

/-- A procedure that neither aborts nor commits and changes nothing that is given or shipped. -/
abbrev KeepsFixed {α : Type} (m : Coordinator Message α) : Prop := Proc.Keeps PhysicalPaimonInsert.fixed Event.Quiet m

theorem keepsFixed_prepareDistributedWrite (replies : PrepareReplies) :
    KeepsFixed (prepareDistributedWrite rt replies : Coordinator Message Unit) := by
  unfold prepareDistributedWrite
  refine (keeps_enterPrepare fun _ => by rfl).bind fun insert => ?_
  split
  · refine (Proc.keeps_ofExcept _).bind fun _ => (keeps_checkAbsent _).bind fun _ => (keeps_createTarget _).bind fun _ => ?_
    exact (keeps_withMutationLock quiet_looks (keeps_capturePreparedCTASTarget (fun _ _ => by rfl) _)).bind fun _ =>
      keeps_markPrepared fun _ => by rfl
  · exact keeps_prepareInsert (fun _ => by rfl) _

/-! ## Planning again -/

/-- Two operators of one statement whose planning has started alike. -/
structure Started (insert insert' : PhysicalPaimonInsert) : Prop where
  info : insert.info = insert'.info
  tableIdentifier : insert.tableIdentifier = insert'.tableIdentifier
  partKeys : insert.partKeys = insert'.partKeys
  operationId : insert.distributedOperationId = insert'.distributedOperationId
  commitIdentifier : insert.distributedCommitIdentifier = insert'.distributedCommitIdentifier
  portableOptions : insert.distributedPortableOptions = insert'.distributedPortableOptions

/-- They record the same target. -/
def SameTarget (insert insert' : PhysicalPaimonInsert) : Prop := insert.transport = insert'.transport

/-- They record and ship the same target. -/
def SamePlan (insert insert' : PhysicalPaimonInsert) : Prop :=
  insert.transport = insert'.transport ∧ insert.distributedWritePlan = insert'.distributedWritePlan

section Agreement

variable {insert insert' : PhysicalPaimonInsert}

theorem agrees_planCTAS (inputTypes : List LogicalType) (createInfo : CreateTableInfo) (tableLocation : Result String)
    (h : Started insert insert') :
    Proc.Agrees SameTarget (planCTAS rt inputTypes createInfo tableLocation : Coordinator Message Unit)
      (planCTAS rt inputTypes createInfo tableLocation) insert insert' := by
  obtain ⟨hinfo, hidentifier, hpart, hoperation, hcommit, hportable⟩ := h
  unfold planCTAS
  refine .modify (.throwIf fun _ => .ofExcept fun primaryKeys _ => .modify (.ofExcept fun tableOptions _ => ?_))
  refine .modify (.get ?_)
  have hdefinition : validateCTASDefinition { insert with
        distributedInputNames := createInfo.columnNames, distributedInputTypes := createInfo.columnTypes,
        distributedPrimaryKeys := primaryKeys, distributedTableOptions := tableOptions,
        distributedAppendOnly := primaryKeys.isEmpty } =
      validateCTASDefinition { insert' with
        distributedInputNames := createInfo.columnNames, distributedInputTypes := createInfo.columnTypes,
        distributedPrimaryKeys := primaryKeys, distributedTableOptions := tableOptions,
        distributedAppendOnly := primaryKeys.isEmpty } := by
    unfold validateCTASDefinition
    dsimp only
    rw [hinfo]
  rw [hdefinition]
  refine .ofExcept fun _ _ => .modify ?_
  cases tableLocation with
  | error status => exact Proc.agrees_throw _
  | ok tablePath =>
    refine Proc.agrees_modify ?_
    simp only [SameTarget, PhysicalPaimonInsert.transport, PhysicalPaimonInsert.expectedKind, hinfo, hidentifier, hpart,
      hoperation, hcommit, hportable]

theorem agrees_planInsert (inputTypes : List LogicalType) (replies : CatalogReplies) (h : Started insert insert') :
    Proc.Agrees SameTarget (planInsert rt inputTypes replies : Coordinator Message Unit)
      (planInsert rt inputTypes replies) insert insert' := by
  obtain ⟨hinfo, hidentifier, hpart, hoperation, hcommit, hportable⟩ := h
  unfold planInsert withMutationLock
  refine .call (.bind (R := SameTarget) (.tryCatch ?_ fun e insert insert' => .call (Proc.agrees_throw e))
    fun _ _ _ hsame => .call (Proc.agrees_pure hsame _))
  refine .get (.call ?_)
  rw [hidentifier, hpart]
  refine .ofExcept fun target _ => .throwIf fun _ => .throwIf fun _ => Proc.agrees_modify ?_
  simp only [SameTarget, PhysicalPaimonInsert.planned, PhysicalPaimonInsert.transport, PhysicalPaimonInsert.expectedKind,
    hinfo, hidentifier, hpart, hoperation, hcommit, hportable]
  rfl

theorem agrees_publishPlan (h : SameTarget insert insert') :
    Proc.Agrees SamePlan (publishPlan rt : Coordinator Message Unit) (publishPlan rt) insert insert' := by
  have hkind : insert.expectedKind = insert'.expectedKind := congrArg InsertTransport.writeKind h
  unfold publishPlan
  refine .get ?_
  rw [hkind, h]
  exact .ofExcept fun operatorName _ => .modify (.ofExcept fun workerBindData _ => Proc.agrees_modify ⟨h, rfl⟩)

theorem agrees_initializeDistributedWrite (inputTypes : List LogicalType) (replies : PlanReplies)
    (hgiven : insert.given = insert'.given) (hopen : insert.distributedTargetInitialized = false)
    (hopen' : insert'.distributedTargetInitialized = false) :
    Proc.Agrees SamePlan (initializeDistributedWrite rt inputTypes replies : Coordinator Message Unit)
      (initializeDistributedWrite rt inputTypes replies) insert insert' := by
  simp only [PhysicalPaimonInsert.given, Prod.mk.injEq] at hgiven
  obtain ⟨hschema, hinfo, hidentifier, hoptions, hpart, -⟩ := hgiven
  unfold initializeDistributedWrite
  refine .get ?_
  rw [hopen, hopen', hschema, hinfo]
  refine .throwIf fun _ => .throwIf fun _ => .modify ?_
  have hportable := congrArg getPortableWriteOptions hoptions
  split
  · exact .bind (agrees_planCTAS _ _ _ ⟨hinfo, hidentifier, hpart, rfl, rfl, hportable⟩) fun _ _ _ => agrees_publishPlan
  · exact .bind (agrees_planInsert _ _ ⟨hinfo, hidentifier, hpart, rfl, rfl, hportable⟩) fun _ _ _ => agrees_publishPlan

/-- Where no worker plan is selected, what is left of a failed initialization makes no difference. -/
theorem agrees_getExtensionWriteTaskProvider (replies : PlanReplies) (hgiven : insert.given = insert'.given)
    (hcontext : insert.distributedContext = insert'.distributedContext)
    (hopen : insert.distributedTargetInitialized = false) (hopen' : insert'.distributedTargetInitialized = false)
    (hselected : insert.distributedWorkerPlanSelected = false)
    (hselected' : insert'.distributedWorkerPlanSelected = false) :
    Proc.Agrees SamePlan (getExtensionWriteTaskProvider rt replies : Coordinator Message Unit)
      (getExtensionWriteTaskProvider rt replies) insert insert' := by
  have hchildren : insert.children = insert'.children := by
    simp only [PhysicalPaimonInsert.given, Prod.mk.injEq] at hgiven
    exact hgiven.2.2.2.2.2
  unfold getExtensionWriteTaskProvider selectWorkerPlan
  refine .get ?_
  rw [hselected, hselected']
  refine .get ?_
  rw [hchildren, hcontext, hopen, hopen']
  split
  · refine .throwIf fun _ => .bind (agrees_initializeDistributedWrite _ replies hgiven hopen hopen') ?_
    exact fun _ _ _ h => Proc.agrees_modify h
  · exact Proc.agrees_throw _

end Agreement

/-! ## Runs -/

/-- A plan is selected when the target is initialized, and then its bind is that of the recorded target. -/
structure Bound (rt : Runtime) (insert : PhysicalPaimonInsert) : Prop where
  selected : insert.distributedWorkerPlanSelected = insert.distributedTargetInitialized
  published : insert.distributedWorkerPlanSelected = true → Published rt insert

theorem bound_new (accessMode : AccessMode) (info : Option CreateTableInfo) (tableIdentifier : Identifier)
    (paimonOptions : StringMap) (partKeys : List String) (children : List (List LogicalType)) :
    Bound rt (.new accessMode info tableIdentifier paimonOptions partKeys children) :=
  ⟨rfl, nofun⟩

/-- The bind of a selected plan is read back as the recorded target. -/
theorem Bound.getCoordinatorTransport {insert : PhysicalPaimonInsert} (h : Bound rt insert) (lawful : rt.binary.Lawful)
    (hselected : insert.distributedWorkerPlanSelected = true) :
    getCoordinatorTransport rt insert = .ok insert.transport := by
  refine bind_eq_ok.2 ⟨_, deserializeTransport_serializeTransport lawful (h.published hselected), ?_⟩
  refine throwIf_bind_eq_ok.2 ⟨?_, rfl⟩
  simp [TransportMismatch, PhysicalPaimonInsert.transport]

/-- What a call does to what is given and shipped. -/
structure KeepsPlan (rt : Runtime) (insert insert' : PhysicalPaimonInsert) : Prop where
  given : insert'.given = insert.given
  shipped : insert.distributedWorkerPlanSelected = true → insert'.shipped = insert.shipped
  bound : Bound rt insert → Bound rt insert'

theorem keepsPlan_of_fixed {insert insert' : PhysicalPaimonInsert} (h : insert'.fixed = insert.fixed) :
    KeepsPlan rt insert insert' := by
  obtain ⟨hgiven, hshipped⟩ := Prod.mk.inj h
  refine ⟨hgiven, fun _ => hshipped, fun hbound => ?_⟩
  simp only [PhysicalPaimonInsert.shipped, Prod.mk.injEq] at hshipped
  obtain ⟨htransport, hplan, hinitialized, hselected⟩ := hshipped
  refine ⟨by rw [hselected, hinitialized, hbound.selected], fun hselected' => ?_⟩
  unfold Published
  rw [htransport, hplan]
  exact hbound.published (hselected.symm.trans hselected')

theorem SelectsPlan.keepsPlan {insert insert' : PhysicalPaimonInsert} {r : Except Exception Unit}
    {events : List (Event Message)} (h : SelectsPlan rt insert r insert' events) : KeepsPlan rt insert insert' := by
  refine ⟨h.given, fun hselected => by rw [h.unchanged hselected], fun hbound => ?_⟩
  by_cases hselected : insert.distributedWorkerPlanSelected = true
  · rw [h.unchanged hselected]
    exact hbound
  · -- the target is initialized by this call or not at all
    rw [Bool.not_eq_true] at hselected
    obtain ⟨hinitialized, hpublished⟩ := h.initialized hselected (hbound.selected.symm.trans hselected)
    have hok : insert'.distributedWorkerPlanSelected = true ↔ r = .ok () := by
      rw [h.selected, hselected]
      simp
    refine ⟨Bool.eq_iff_iff.2 (hok.trans hinitialized.symm), fun hselected' => hpublished (hok.1 hselected')⟩

theorem Performed.keepsPlan (p : Performed Message) : KeepsPlan rt p.before (p.after rt vane) := by
  have hrun : (perform rt vane p.call).run p.before = (p.result rt vane, p.after rt vane, p.events rt vane) := rfl
  have hkeeps {α : Type} {m : Coordinator Message α} (hm : KeepsFixed m)
      (h : perform rt vane p.call = (fun _ => none) <$> m) : KeepsPlan rt p.before (p.after rt vane) := by
    rw [h] at hrun
    obtain ⟨_, -, hfixed, -⟩ := Proc.wp_run_map (hm p.before) hrun
    exact keepsPlan_of_fixed hfixed
  obtain ⟨insert, call⟩ := p
  cases call with
  | setDistributedWriteContext => exact hkeeps (keeps_setDistributedWriteContext fun _ => by rfl) rfl
  | getExtensionWriteTaskProvider replies =>
    obtain ⟨_, -, hselects⟩ := Proc.wp_run_map (wp_getExtensionWriteTaskProvider replies insert) hrun
    exact hselects.keepsPlan
  | writePlan => exact hkeeps keeps_writePlan rfl
  | validateDistributedWrite replies => exact hkeeps (keeps_validateDistributedWrite quiet_looks replies) rfl
  | prepareDistributedWrite replies => exact hkeeps (keepsFixed_prepareDistributedWrite replies) rfl
  | finalizeDistributedWrite decode commit results =>
    obtain ⟨r, -, hdoes⟩ := Proc.wp_run_map (wp_finalizeDistributedWrite decode commit results insert) hrun
    rcases hdoes.finalizing with ⟨hsame, -⟩ | ⟨hsame, -⟩
    · exact keepsPlan_of_fixed (congrArg _ hsame)
    · exact keepsPlan_of_fixed (by rw [hsame]; rfl)
  | abortDistributedWrite replies results =>
    obtain ⟨r, -, hunchanged, -⟩ := Proc.wp_run_map (wp_abortDistributedWrite replies results insert) hrun
    exact keepsPlan_of_fixed (congrArg _ hunchanged)

section Runs

variable {accessMode : AccessMode} {info : Option CreateTableInfo} {tableIdentifier : Identifier}
  {paimonOptions : StringMap} {partKeys : List String} {children : List (List LogicalType)}
  {history later : List (Performed Message)} {insert insert' : PhysicalPaimonInsert}

/-- In every run the planner's part stays, and the plan is bound to the target. -/
theorem given_and_bound
    (run : Run (Performs rt vane) (.new accessMode info tableIdentifier paimonOptions partKeys children) history insert) :
    insert.given = (PhysicalPaimonInsert.new accessMode info tableIdentifier paimonOptions partKeys children).given ∧
      Bound rt insert := by
  refine run.invariant (I := fun _ insert => insert.given =
    (PhysicalPaimonInsert.new accessMode info tableIdentifier paimonOptions partKeys children).given ∧ Bound rt insert)
    ⟨rfl, bound_new ..⟩ ?_
  rintro history insert p insert' ⟨hgiven, hbound⟩ ⟨rfl, rfl⟩
  have hkeeps : KeepsPlan rt p.before (p.after rt vane) := p.keepsPlan
  exact ⟨hkeeps.given.trans hgiven, hkeeps.bound hbound⟩

/-- What is selected is shipped for good, and is what is committed. -/
theorem shipped_of_selected (lawful : rt.binary.Lawful) (hbound : Bound rt insert)
    (hselected : insert.distributedWorkerPlanSelected = true) (run : Run (Performs rt vane) insert later insert') :
    insert'.shipped = insert.shipped ∧ Bound rt insert' ∧
      ∀ p ∈ later, ∀ identifier messages, .filterAndCommit identifier messages ∈ p.events rt vane →
        identifier = insert.distributedCommitIdentifier := by
  refine run.invariant (I := fun later insert' => insert'.shipped = insert.shipped ∧ Bound rt insert' ∧
    ∀ p ∈ later, ∀ identifier messages, .filterAndCommit identifier messages ∈ p.events rt vane →
      identifier = insert.distributedCommitIdentifier)
    ⟨rfl, hbound, fun _ hp => absurd hp List.not_mem_nil⟩ ?_
  rintro later middle p insert' ⟨hshipped, hmiddle, hcommits⟩ ⟨rfl, rfl⟩
  have hkeeps : KeepsPlan rt p.before (p.after rt vane) := p.keepsPlan
  have hparts := hshipped
  simp only [PhysicalPaimonInsert.shipped, Prod.mk.injEq] at hparts
  obtain ⟨htransport, -, -, hsame⟩ := hparts
  have hselected' := hsame.trans hselected
  refine ⟨(hkeeps.shipped hselected').trans hshipped, hkeeps.bound hmiddle, fun p' hp' identifier messages hevent => ?_⟩
  rcases List.mem_append.1 hp' with hp' | hp'
  · exact hcommits p' hp' identifier messages hevent
  · obtain rfl := List.mem_singleton.1 hp'
    -- the commit is guarded: its transport is the one read back from the bind
    obtain ⟨⟨decode, commit, results, transport, decoded, hguarded⟩, -⟩ := Performed.Commits.guarded ⟨_, hevent, trivial⟩
    have hread := hguarded.selects.target.symm.trans (hmiddle.getCoordinatorTransport lawful hselected')
    rw [hguarded.events] at hevent
    simp only [List.mem_cons, reduceCtorEq, Event.filterAndCommit.injEq, List.not_mem_nil, or_false, false_or] at hevent
    rw [hevent.1, Except.ok.inj hread, htransport]
    rfl

/-- Whatever calls an operator has seen: a selected plan is read back as the recorded target, which no later
call changes and whose identifier is the one that is committed; while none is selected, the next planning
plans what it would have planned on a new operator. -/
theorem coordinator_agrees_with_bind (lawful : rt.binary.Lawful)
    (run : Run (Performs rt vane) (.new accessMode info tableIdentifier paimonOptions partKeys children) history insert) :
    (insert.distributedWorkerPlanSelected = true →
      getCoordinatorTransport rt insert = .ok insert.transport ∧
        ∀ (later : List (Performed Message)) insert', Run (Performs rt vane) insert later insert' →
          insert'.shipped = insert.shipped ∧
            ∀ p ∈ later, ∀ identifier messages, Event.filterAndCommit identifier messages ∈ p.events rt vane →
              identifier = insert.distributedCommitIdentifier) ∧
      (insert.distributedWorkerPlanSelected = false → ∀ replies,
        Proc.Agrees SamePlan (getExtensionWriteTaskProvider rt replies : Coordinator Message Unit)
          (getExtensionWriteTaskProvider rt replies) insert
          { PhysicalPaimonInsert.new accessMode info tableIdentifier paimonOptions partKeys children with
            distributedContext := insert.distributedContext }) := by
  obtain ⟨hgiven, hbound⟩ := given_and_bound run
  refine ⟨fun hselected => ⟨hbound.getCoordinatorTransport lawful hselected, fun later insert' hlater => ?_⟩,
    fun hselected replies => ?_⟩
  · obtain ⟨hshipped, -, hcommits⟩ := shipped_of_selected lawful hbound hselected hlater
    exact ⟨hshipped, hcommits⟩
  · exact agrees_getExtensionWriteTaskProvider replies hgiven rfl (hbound.selected.symm.trans hselected) rfl hselected rfl

end Runs

/-! ## Prepared targets -/

theorem selected_of_shape {insert : PhysicalPaimonInsert} (h : validateCoordinatorShape rt insert = .ok ()) :
    insert.distributedWorkerPlanSelected = true := by
  unfold validateCoordinatorShape at h
  obtain ⟨-, h⟩ := throwIf_bind_eq_ok.1 h
  obtain ⟨hshape, -⟩ := throwIf_bind_eq_ok.1 h
  by_contra hselected
  rw [Bool.not_eq_true] at hselected
  exact hshape (.inr (.inl hselected))

/-- The shape is one of what is given and shipped. -/
theorem shape_of_fixed {insert insert' : PhysicalPaimonInsert} (h : insert'.fixed = insert.fixed)
    (hshape : validateCoordinatorShape rt insert = .ok ()) : validateCoordinatorShape rt insert' = .ok () := by
  obtain ⟨hgiven, hshipped⟩ := Prod.mk.inj h
  simp only [PhysicalPaimonInsert.given, Prod.mk.injEq] at hgiven
  simp only [PhysicalPaimonInsert.shipped, PhysicalPaimonInsert.transport, PhysicalPaimonInsert.expectedKind,
    Prod.mk.injEq, InsertTransport.mk.injEq] at hshipped
  unfold validateCoordinatorShape getCoordinatorTransport at hshape ⊢
  obtain ⟨happend, hshape⟩ := throwIf_bind_eq_ok.1 hshape
  obtain ⟨hmatches, hshape⟩ := throwIf_bind_eq_ok.1 hshape
  obtain ⟨transport, hread, -⟩ := bind_eq_ok.1 hshape
  obtain ⟨_, hbind, hread⟩ := bind_eq_ok.1 hread
  obtain ⟨hagrees, hread⟩ := throwIf_bind_eq_ok.1 hread
  refine throwIf_bind_eq_ok.2 ⟨?_, throwIf_bind_eq_ok.2 ⟨?_, bind_eq_ok.2 ⟨transport, bind_eq_ok.2 ⟨_, ?_,
    throwIf_bind_eq_ok.2 ⟨?_, hread⟩⟩, rfl⟩⟩⟩
  · rwa [hshipped.1.2.2.2.2.2.2.2.2.1]
  · simpa only [ShapeMismatch, hgiven, hshipped] using hmatches
  · rwa [hshipped.2.1]
  · simpa only [TransportMismatch, PhysicalPaimonInsert.expectedKind, hgiven, hshipped] using hagrees

/-- Nothing native is built of an operator with a worker plan. -/
theorem buildPipelines_of_selected {insert : PhysicalPaimonInsert}
    (hselected : insert.distributedWorkerPlanSelected = true) :
    (buildPipelines : Coordinator Message Unit).run insert =
      (.error (.invalidInput "A distributed Paimon write worker plan cannot execute as a native coordinator operator"),
        insert, []) := by
  unfold buildPipelines throwIf
  simp only [bind, Proc.get]
  rw [if_pos hselected]
  rfl

section Prepared

variable {accessMode : AccessMode} {info : Option CreateTableInfo} {tableIdentifier : Identifier}
  {paimonOptions : StringMap} {partKeys : List String} {children : List (List LogicalType)}
  {history : List (Performed Message)} {insert : PhysicalPaimonInsert}

/-- A prepared target was checked, and what was checked no later call changes. -/
theorem shape_of_prepared
    (run : Run (Performs rt vane) (.new accessMode info tableIdentifier paimonOptions partKeys children) history insert)
    (prepared : insert.distributedTargetPrepared = true) : validateCoordinatorShape rt insert = .ok () := by
  refine run.invariant (I := fun _ insert =>
    insert.distributedTargetPrepared = true → validateCoordinatorShape rt insert = .ok ()) nofun ?_ prepared
  rintro history insert p insert' hbefore ⟨rfl, rfl⟩ hprepared
  have hshape : validateCoordinatorShape rt p.before = .ok () := by
    rcases p.prepared hprepared with hold | ⟨-, hshape, -⟩
    · exact hbefore hold
    · exact hshape
  have hkeeps : KeepsPlan rt p.before (p.after rt vane) := p.keepsPlan
  have hfixed : (p.after rt vane).fixed = p.before.fixed :=
    Prod.ext hkeeps.given (hkeeps.shipped (selected_of_shape hshape))
  exact shape_of_fixed hfixed hshape

end Prepared

/-! ## A failed planning and its retry -/

namespace Sample

/-- The catalog fails once. -/
def failingPlan : PlanReplies := { insertPlan with
  operationId := "11111111-0000-4000-8000-000000000000"
  target := { targetReplies with listSnapshots := .error { text := "listing failed" } } }

/-- The operator behind the failed planning. -/
def unretried : PhysicalPaimonInsert := { unplanned with
  distributedContext := true
  distributedOperationId := "11111111-0000-4000-8000-000000000000"
  distributedCommitIdentifier := createCommitIdentifier runtime "11111111-0000-4000-8000-000000000000" }

/-- The calls up to the failed planning. -/
def failing : List (Performed String) :=
  [⟨unplanned, .setDistributedWriteContext⟩,
    ⟨{ unplanned with distributedContext := true }, .getExtensionWriteTaskProvider failingPlan⟩]

theorem run_failing : Run (Performs runtime .counting) unplanned failing unretried := by
  have hcontext : Performs runtime .counting unplanned (⟨unplanned, .setDistributedWriteContext⟩ : Performed String)
      { unplanned with distributedContext := true } := ⟨rfl, rfl⟩
  have hfails : Performs runtime .counting { unplanned with distributedContext := true }
      (⟨{ unplanned with distributedContext := true }, .getExtensionWriteTaskProvider failingPlan⟩ : Performed String)
      unretried := ⟨rfl, rfl⟩
  exact .snoc (.snoc .nil hcontext) hfails

/-- The retry. -/
def retrying : Performed String := ⟨unretried, .getExtensionWriteTaskProvider insertPlan⟩

theorem run_retrying : Run (Performs runtime .counting) unplanned (failing ++ [retrying]) planned :=
  .snoc run_failing ⟨rfl, rfl⟩

theorem coordinator_agrees_with_bind_retried :
    Proc.Agrees SamePlan (getExtensionWriteTaskProvider runtime insertPlan : Coordinator String Unit)
        (getExtensionWriteTaskProvider runtime insertPlan) unretried { unplanned with distributedContext := true } ∧
      getCoordinatorTransport runtime planned = .ok planned.transport :=
  ⟨(coordinator_agrees_with_bind binaryFormat_lawful run_failing).2 rfl insertPlan,
    ((coordinator_agrees_with_bind binaryFormat_lawful run_retrying).1 rfl).1⟩

end Sample

end DuckPaimon.Write
