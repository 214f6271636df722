import M8flowCore.SavedWrites
import M8flowCore.Operations
/-!
# Operations as sequences of writes

A call writes to its session, and on three paths the library opens a session
of its own and commits it. A call is therefore a sequence of `Turn`s, and what
they keep (`TurnInv`) holds however the call ends and whether its caller commits
or rolls back.
-/
open M8flowCore.Lib M8flowCore.Session

namespace M8flowCore

section
variable {W Ω : Type} {env : Env W Ω} {A B : Deed → Prop} {T : Time → Prop} {α β : Type} {pi : ProcessInstance} {occurredAt : Time}

/-! ## Turns of a session -/

/-- What a session of the library's own writes: it closes what is open and saves
nothing. -/
def Deed.Beside : Deed → Prop
  | .elsewhere => True
  | .close _ _ => True
  | _ => False

variable (env) in
/-- One turn of a call: its session writes, a session of the library's own is
committed beside it, or it sees what is committed by then. -/
inductive Turn (A : Deed → Prop) : Tx Ω → Tx Ω → Prop
  | write {s s' : Tx Ω} (h : Wrote env A s s') : Turn A s s'
  | beside {s s₁ : Tx Ω} (h : Wrote env (fun d => A d ∧ d.Beside) s.fork s₁) :
      Turn A s { s₁ with base := s.base, view := s.view, committed := s₁.view }
  | refresh (s : Tx Ω) : Turn A s { s with base := s.committed, view := Db.merge s.base s.view s.committed }

variable (env) in
/-- The turns of a call, however it ends. -/
def Turns (A : Deed → Prop) : Tx Ω → Tx Ω → Prop := Relation.ReflTransGen (Turn env A)

theorem frame_turns : Prog.Frame (Turns (Ω := Ω) env A) := ⟨fun _ => .refl, Relation.ReflTransGen.trans⟩

variable (env) in
/-- What every turn keeps of the next id, of what the session read, of its copy
and of what is committed. -/
structure TurnInv (A : Deed → Prop) (P : Nat → Db → Db → Db → Prop) : Prop where
  skip {n n' : Nat} {base view committed : Db} : n ≤ n' → P n base view committed → P n' base view committed
  write {n n' : Nat} {base view view' committed : Db} {d : Deed} : A d → Write env d view view' → d.Takes n n' →
    P n base view committed → P n' base view' committed
  beside {n : Nat} {base view committed committed' : Db} {d : Deed} : A d → d.Beside → Write env d committed committed' →
    P n base view committed → P n base view committed'
  refresh {n : Nat} {base view committed : Db} : P n base view committed →
    P n committed (Db.merge base view committed) committed

theorem Reach.induct {P : Store → Prop} {st st' : Store} (hP : ∀ st st', Stride env A st st' → P st → P st')
    (h : Reach env A st st') (hst : P st) : P st' := by
  induction h with
  | refl => exact hst
  | tail _ hlast ih => exact hP _ _ hlast ih

theorem Turns.inv {P : Nat → Db → Db → Db → Prop} (hP : TurnInv env A P) {s s' : Tx Ω} (h : Turns env A s s')
    (hs : P s.seq s.base s.view s.committed) : P s'.seq s'.base s'.view s'.committed := by
  induction h with
  | refl => exact hs
  | @tail s₁ s₂ _ hlast ih =>
    cases hlast with
    | write hwrote =>
      rw [hwrote.base, hwrote.committed]
      refine hwrote.view.induct (P := fun st => P st.seq s₁.base st.db s₁.committed) (fun st st' hstride hst => ?_) ih
      cases hstride with
      | write hd hwrite htakes => exact hP.write hd hwrite htakes hst
      | skip db hle => exact hP.skip hle hst
    | beside hwrote =>
      refine hwrote.view.induct (P := fun st => P st.seq s₁.base s₁.view st.db) (fun st st' hstride hst => ?_) ih
      cases hstride with
      | write hd hwrite htakes => exact hP.beside hd.1 hd.2 hwrite (hP.skip htakes.le hst)
      | skip db hle => exact hP.skip hle hst
    | refresh => exact hP.refresh ih

theorem turns_of_wrote {m : M Ω α} (h : m.Keeps (Wrote env A)) : m.Keeps (Turns env A) :=
  h.mono fun _ _ hwrote => .single (.write hwrote)

theorem turns_of_readOnly {m : M Ω α} (h : m.ReadOnly) : m.Keeps (Turns env A) := h.keeps frame_turns

theorem turns_pure (a : α) : (pure a : M Ω α).Keeps (Turns env A) := Prog.keeps_pure frame_turns a

theorem turns_raise (e : Error) : (Prog.raise e : M Ω α).Keeps (Turns env A) := Prog.keeps_raise frame_turns e

theorem turns_bind_of {m : M Ω α} {f : α → M Ω β} (hm : m.Keeps (Turns env A))
    (hf : ∀ a, (∃ s s', m.run s = (.ok a, s')) → (f a).Keeps (Turns env A)) : (m >>= f).Keeps (Turns env A) :=
  Prog.keeps_bind_of frame_turns hm hf

theorem turns_bind {m : M Ω α} {f : α → M Ω β} (hm : m.Keeps (Turns env A)) (hf : ∀ a, (f a).Keeps (Turns env A)) :
    (m >>= f).Keeps (Turns env A) := Prog.keeps_bind frame_turns hm hf

theorem turns_query (f : Db → α) : (query (Ω := Ω) f).Keeps (Turns env A) := Prog.keeps_gets frame_turns _

variable (env) in
theorem turns_resolved {at_ : Option Time} {f : Time → M Ω α} (hf : ∀ t, StandsFor at_ t → (f t).Keeps (Turns env A)) :
    (resolveTimestamp env at_ >>= f).Keeps (Turns env A) := keeps_resolved env frame_turns hf

theorem turns_ofExcept (r : Except Error α) : (ofExcept (Ω := Ω) r).Keeps (Turns env A) := turns_of_readOnly (ofExcept_readOnly r)

/-- What a session of its own commits, or drops. -/
theorem turns_independently {m : M Ω α} (hm : m.Keeps (Wrote env fun d => A d ∧ d.Beside)) :
    (independently m).Keeps (Turns env A) := by
  intro s
  have hwrote := hm s.fork
  rcases hrun : m.run s.fork with ⟨e | a, s₁⟩ <;> rw [hrun] at hwrote
  · rw [independently_error hrun]
    exact .single (.write ⟨rfl, rfl, .skip s.view hwrote.seq⟩)
  · rw [independently_ok hrun]
    exact .single (.beside hwrote)

/-! ## The workflow runtime -/

/-- A run that fails takes the instance to `error`, in a session of the library's
own or in the caller's. -/
theorem runWorkflow_turns (hA : Closes A pi.id occurredAt) (tenantId : TenantId) (w : W) (autonomous : Bool) :
    (runWorkflowWithServiceTaskFailureHandling env tenantId pi w occurredAt autonomous).Keeps (Turns env A) := by
  have hfail : ∀ (w : W) (message : String), Prog.Keeps (Turns env A) (do
      transitionToErrorForServiceTaskFailure env tenantId pi w occurredAt false
      Prog.raise (.serviceTaskExecution message) : M Ω W) := fun w message =>
    turns_bind (turns_of_wrote (transitionToError_wrote hA tenantId w)) fun _ => turns_raise _
  refine turns_bind (turns_of_wrote (ask_wrote _)) ?_
  rintro ⟨raised, w⟩
  dsimp only
  split
  · exact turns_pure _
  · rename_i message
    cases autonomous with
    | false => exact hfail w message
    | true =>
      refine turns_bind ?_ fun saved => ?_
      · refine turns_bind (turns_independently ?_) fun saved => ?_
        · refine Prog.keeps_bind_of frame_wrote (wrote_of_readOnly (loadProcessInstance_readOnly _ _)) fun pi' hload => ?_
          obtain ⟨s, s', hload⟩ := hload
          obtain ⟨-, -, -, hid⟩ := loadProcessInstance_ok hload
          exact recovery_wrote ⟨hA.elsewhere, trivial⟩ ⟨hid ▸ hA.close, trivial⟩ _ _
        · cases saved <;> exact turns_pure _
      · cases saved with
        | false => exact hfail w message
        | true => exact turns_raise _
  · exact turns_raise _

theorem refreshWaitingProcessInstanceWorkflow_turns (tenantId : TenantId) {processInstanceId : Nat}
    (hA : Works A processInstanceId T) (occurredAt : Option Time) (hT : ∀ t, StandsFor occurredAt t → T t) :
    (refreshWaitingProcessInstanceWorkflow env tenantId processInstanceId occurredAt).Keeps (Turns env A) := by
  refine turns_bind_of (turns_of_readOnly (loadProcessInstance_readOnly _ _)) fun pi hload => ?_
  have hpi := loaded_works hA hload
  refine turns_bind (turns_query _) fun state => ?_
  cases state with
  | none => exact turns_pure _
  | some state =>
    dsimp only
    split
    · exact turns_pure _
    refine turns_resolved env fun timestamp hat => ?_
    have hcloses := hpi.closes _ (hT _ hat)
    refine turns_bind (turns_ofExcept _) fun w => ?_
    refine turns_bind (turns_of_wrote (ask_wrote _)) fun refreshed => ?_
    refine turns_bind (turns_of_readOnly (orRaised_readOnly _)) fun w => ?_
    refine turns_bind (runWorkflow_turns hcloses _ _ _) fun w => ?_
    exact turns_of_wrote (saveWorkflow_wrote hcloses.toSaves _ _)

theorem retryErroredServiceTaskWorkflowIfNeeded_turns (tenantId : TenantId) {processInstanceId : Nat}
    (hA : Works A processInstanceId T) (occurredAt : Option Time) (hT : ∀ t, StandsFor occurredAt t → T t) :
    (retryErroredServiceTaskWorkflowIfNeeded env tenantId processInstanceId occurredAt).Keeps (Turns env A) := by
  refine turns_bind_of (turns_of_readOnly (loadProcessInstance_readOnly _ _)) fun pi hload => ?_
  have hpi := loaded_works hA hload
  refine turns_bind (turns_query _) fun state => ?_
  cases state with
  | none => exact turns_pure _
  | some state =>
    refine turns_resolved env fun timestamp hat => ?_
    have hcloses := hpi.closes _ (hT _ hat)
    refine turns_bind (turns_ofExcept _) fun w => ?_
    refine turns_bind (turns_of_readOnly (loadProcessInstanceMetadataPayload_readOnly _ _)) fun metadata => ?_
    dsimp only
    split
    · exact turns_pure _
    refine turns_bind (turns_of_readOnly (orRaised_readOnly _)) fun w => ?_
    refine turns_bind (runWorkflow_turns hcloses _ _ _) fun w => ?_
    exact turns_of_wrote (saveWorkflow_wrote hcloses.toSaves _ _)

theorem retryProcessInstance_turns (tenantId : TenantId) {processInstanceId : Nat} (hA : Works A processInstanceId T)
    (userId : Nat) (retriedAt : Option Time) (hT : ∀ t, StandsFor retriedAt t → T t) :
    (retryProcessInstance env tenantId processInstanceId userId retriedAt).Keeps (Turns env A) := by
  refine turns_bind (turns_of_readOnly (openProcessInstanceCommand_readOnly _ _ _ _)) fun pi => ?_
  split
  · exact turns_raise _
  refine turns_resolved env fun occurredAt hat => ?_
  have hagain : ∀ t, StandsFor (some occurredAt) t → T t := fun t ht => ht.eq ▸ hT _ hat
  refine turns_bind (turns_of_wrote (updateInstance_wrote hA.elsewhere _ _)) fun _ => ?_
  refine turns_bind (turns_query _) fun loaded => ?_
  refine turns_bind (turns_of_wrote (write_wrote hA.reopen (fun db => .reopen db _ _) fun _ => le_refl _)) fun _ => ?_
  refine turns_bind (retryErroredServiceTaskWorkflowIfNeeded_turns _ hA _ hagain) fun _ => ?_
  refine turns_bind (turns_of_wrote (deleteSchedulerJob_wrote hA.elsewhere _ _)) fun _ => ?_
  refine turns_bind (turns_of_wrote (recordProcessInstanceEvent_wrote hA.elsewhere _ _ _ _ _ _)) fun _ => ?_
  refine turns_bind (retryErroredServiceTaskWorkflowIfNeeded_turns _ hA _ hagain) fun _ => ?_
  exact turns_of_wrote (syncOpenWorkItemPotentialOwners_wrote hA.toHandles _ _ _)

theorem initializeProcessInstanceWorkflow_turns (tenantId : TenantId) {processInstanceId : Nat} (hA : Works A processInstanceId T)
    (source : WorkflowSource) (startedAt : Option Time) (hT : ∀ t, StandsFor startedAt t → T t) :
    (initializeProcessInstanceWorkflow env tenantId processInstanceId source startedAt).Keeps (Turns env A) := by
  refine turns_bind_of (turns_of_readOnly (loadProcessInstance_readOnly _ _)) fun pi hload => ?_
  have hpi := loaded_works hA hload
  split
  · exact turns_raise _
  refine turns_bind (turns_query _) fun state => ?_
  split
  · exact turns_raise _
  refine turns_resolved env fun occurredAt hat => ?_
  have hcloses := hpi.closes _ (hT _ hat)
  refine turns_bind (turns_of_wrote (buildInstanceWorkflow_wrote hpi.elsewhere hpi.sync _ _ _ _)) fun w => ?_
  refine turns_bind (runWorkflow_turns hcloses _ _ _) fun w => ?_
  exact turns_of_wrote (finalizeInitializedWorkflow_wrote hcloses.toSaves _ _)

/-! ## Starts -/

theorem prepareProcessInstanceBaseline_turns (hA : A .elsewhere) (tenantId : TenantId) (definition : BpmnProcessDefinition)
    (modelIdentifier : String) (args : StartArgs) :
    (prepareProcessInstanceBaseline env tenantId definition modelIdentifier args).Keeps (Turns env A) := by
  refine turns_bind (turns_independently (prepareCommittedProcessInstance_wrote ⟨hA, trivial⟩ _ _ _ _)) fun prepared => ?_
  cases prepared with
  | ok result => exact turns_bind (fun s => .single (.refresh s)) fun _ => turns_pure _
  | error e => exact turns_raise _

theorem prepareProcessInstance_turns (hA : A .elsewhere) (tenantId : TenantId) (definition : BpmnProcessDefinition)
    (modelIdentifier : String) (args : StartArgs) :
    (prepareProcessInstance env tenantId definition modelIdentifier args).Keeps (Turns env A) := by
  have hload : ∀ x : Nat × String, (do
      let pi ← loadProcessInstance (Ω := Ω) tenantId x.1
      pure (pi, x.2)).Keeps (Turns env A) := fun x =>
    turns_bind (turns_of_readOnly (loadProcessInstance_readOnly _ _)) fun _ => turns_pure _
  refine turns_bind (prepareProcessInstanceBaseline_turns hA _ _ _ _) fun baseline => ?_
  cases baseline with
  | some result => exact hload result
  | none => exact turns_bind (turns_of_wrote (prepareProcessInstanceInSession_wrote hA _ _ _ _)) hload

theorem initializeProcessInstanceFromDefinition_turns (hA : ∀ i, Works A i T) (tenantId : TenantId) (definitionId : Nat)
    (args : StartArgs) (hT : ∀ t, StandsFor args.startedAt t → T t) (resolver : Bool) :
    (initializeProcessInstanceFromDefinition env tenantId definitionId args resolver).Keeps (Turns env A) := by
  refine turns_bind (turns_of_readOnly (ensureUserBelongsToTenant_readOnly _ _)) fun _ => ?_
  refine turns_bind (turns_of_readOnly (loadProcessDefinition_readOnly _ _)) fun definition => ?_
  refine turns_bind (turns_of_readOnly (requireCommandAuthorization_readOnly _ _ _ _ _ _ _)) fun _ => ?_
  refine turns_bind (prepareProcessInstance_turns (hA 0).elsewhere _ _ _ _) ?_
  rintro ⟨pi, selected⟩
  exact initializeProcessInstanceWorkflow_turns _ (hA pi.id) _ _ hT

theorem initializeProcessInstanceFromTimerStart_turns (hA : ∀ i, Works A i T) (tenantId : TenantId)
    (definitionId processInitiatorId : Nat) (specName : String) (startedAt : Option Time) (hT : ∀ t, StandsFor startedAt t → T t) :
    (initializeProcessInstanceFromTimerStart env tenantId definitionId processInitiatorId specName startedAt).Keeps (Turns env A) := by
  refine turns_bind (turns_of_readOnly (ensureUserBelongsToTenant_readOnly _ _)) fun _ => ?_
  refine turns_bind (turns_of_readOnly (loadProcessDefinition_readOnly _ _)) fun definition => ?_
  refine turns_bind (prepareProcessInstance_turns (hA 0).elsewhere _ _ _ _) ?_
  rintro ⟨pi, selected⟩
  have hpi := hA pi.id
  refine turns_resolved env fun occurredAt hat => ?_
  have hcloses := hpi.closes _ (hT _ hat)
  refine turns_bind (turns_of_wrote (buildInstanceWorkflow_wrote hpi.elsewhere hpi.sync _ _ _ _)) fun w => ?_
  refine turns_bind (runWorkflow_turns hcloses _ _ _) fun w => ?_
  refine turns_bind (turns_ofExcept _) fun forced => ?_
  have hfinish : ∀ w, (finalizeInitializedWorkflow env tenantId pi w occurredAt).Keeps (Turns env A) := fun w =>
    turns_of_wrote (finalizeInitializedWorkflow_wrote hcloses.toSaves _ _)
  cases forced with
  | none => exact hfinish _
  | some w' =>
    refine turns_bind (turns_of_wrote (ask_wrote _)) fun refreshed => ?_
    refine turns_bind (turns_of_readOnly (orRaised_readOnly _)) fun w => ?_
    split
    · exact turns_bind (runWorkflow_turns hcloses _ _ _) fun w => hfinish w
    · exact hfinish _

/-! ## Imports -/

theorem syncTimerStartSchedulerJobs_wrote (hA : A .elsewhere) (definitionId : Nat) (tenantId : TenantId) (occurredAt : Time) :
    (syncTimerStartSchedulerJobs env definitionId tenantId occurredAt).Keeps (Wrote env A) := by
  refine Prog.keeps_bind frame_wrote (query_wrote _) fun found => ?_
  refine Prog.keeps_bind frame_wrote (orRaise_wrote _ _) fun definition => ?_
  refine Prog.keeps_bind frame_wrote ?_ fun payloads => ?_
  · exact collectTimerStartPayloadsForDefinition_keeps frame_wrote (fun _ _ => ⟨rfl, rfl, .refl _⟩) _
  refine Prog.keeps_bind frame_wrote (Prog.keeps_mapEach frame_wrote fun p _ => ?_) fun expected => write_elsewhere hA fun _ => rfl
  unfold scheduleTimerStart
  dsimp only
  split
  · exact raise_wrote _
  refine Prog.keeps_bind frame_wrote (ofExcept_wrote _) fun jobKey => ?_
  exact Prog.keeps_bind frame_wrote (upsertSchedulerJob_wrote hA _ _ _ _ _) fun _ => pure_wrote _

theorem finishImport_wrote (hA : A .elsewhere) (hgroup : A .group) (tenantId : TenantId) (args : ImportArgs) (c : CheckedImport)
    (id : Nat) : (finishImport env tenantId args c id).Keeps (Wrote env A) := by
  refine Prog.keeps_bind frame_wrote (resolveTimestamp_wrote _) fun timestamp => ?_
  refine Prog.keeps_bind frame_wrote (ensureBpmnVersionSnapshot_wrote hA _ _ _ _) fun _ => ?_
  refine Prog.keeps_bind frame_wrote (syncTimerStartSchedulerJobs_wrote hA _ _ _) fun _ => ?_
  refine Prog.keeps_bind frame_wrote ?_ fun _ => pure_wrote _
  refine Prog.keeps_bind frame_wrote (query_wrote _) fun ownersByLane => ?_
  exact Prog.keeps_bind frame_wrote (enrollLaneOwners_wrote hgroup _ _) fun _ => pure_wrote _

theorem importBpmnProcessDefinition_wrote (hA : A .elsewhere) (hgroup : A .group) {tenantId : TenantId} {args : ImportArgs}
    (hstore : A (.store tenantId args)) (userId : Nat) :
    (importBpmnProcessDefinition env tenantId userId args).Keeps (Wrote env A) := by
  intro s
  rcases hrun : (importBpmnProcessDefinition env tenantId userId args).run s with ⟨r, s'⟩
  rcases importBpmnProcessDefinition_cases hrun with ⟨e, -, -, rfl⟩ | ⟨c, hchecks, hfinish⟩
  · exact frame_wrote.refl _
  · obtain ⟨hdigest, hexisting⟩ := importChecks_ok hchecks
    have hstored : Wrote env A s (c.stored tenantId args s) := by
      refine ⟨rfl, rfl, .one hstore (.store s.view tenantId args c s.seq hdigest hexisting) ?_⟩
      unfold Deed.Takes Tx.store CheckedImport.stored
      dsimp only
      split <;> omega
    exact frame_wrote.trans hstored ((finishImport_wrote hA hgroup _ _ _ _).of_ok hfinish)

/-! ## Scheduler passes -/

/-- The writes of a pass at a time in `T`. -/
structure Passes (A : Deed → Prop) (T : Time → Prop) : Prop where
  works : ∀ i, Works A i T
  role : A .role
  user : A .user

theorem Passes.elsewhere (h : Passes A T) : A .elsewhere := (h.works 0).elsewhere

theorem executeClaimedSchedulerJob_turns (hA : Passes A T) (job : SchedulerJob) (hT : T occurredAt) :
    (executeClaimedSchedulerJob env job occurredAt).Keeps (Turns env A) := by
  have hdelete : (deleteSchedulerJob (Ω := Ω) job.m8fTenantId job.jobKey).Keeps (Turns env A) :=
    turns_of_wrote (deleteSchedulerJob_wrote hA.elsewhere _ _)
  have hat : ∀ t, StandsFor (some occurredAt) t → T t := fun t ht => ht.eq ▸ hT
  unfold executeClaimedSchedulerJob
  split
  · unfold executeIntermediateTimerJob
    split
    · exact hdelete
    refine turns_bind (turns_of_readOnly (loadProcessInstance_readOnly _ _)) fun pi => ?_
    split
    · refine turns_bind (turns_query _) fun state => ?_
      split
      · exact hdelete
      · exact refreshWaitingProcessInstanceWorkflow_turns _ (hA.works _) _ hat
    · exact hdelete
  · unfold executeProcessRetryJob
    split
    · exact hdelete
    refine turns_bind (turns_of_readOnly (loadProcessInstance_readOnly _ _)) fun pi => ?_
    split
    · exact turns_bind (turns_ofExcept _) fun userId => retryProcessInstance_turns _ (hA.works _) _ _ hat
    · exact hdelete
  · unfold executeTimerStartJob
    split
    · exact hdelete
    refine turns_bind (turns_query _) fun definition => ?_
    split
    · exact hdelete
    refine turns_bind (turns_ofExcept _) fun timerTask => ?_
    refine turns_bind (turns_of_wrote (ensureTimerStartSystemUser_wrote hA.role hA.user _ _)) fun systemUser => ?_
    refine turns_bind (turns_ofExcept _) fun specName => ?_
    refine turns_bind (initializeProcessInstanceFromTimerStart_turns hA.works _ _ _ _ _ hat) fun _ => ?_
    refine turns_bind (turns_ofExcept _) fun next => ?_
    cases next with
    | none => exact hdelete
    | some next => exact turns_of_wrote (upsertSchedulerJob_wrote hA.elsewhere _ _ _ _ _)

theorem runDueSchedulerJobs_turns (hA : Passes A T) (now : Option Time) (hT : ∀ t, StandsFor now t → T t) (limit : Int)
    (workerId : String) (tenant : Option TenantId) :
    (runDueSchedulerJobs env now limit workerId tenant).Keeps (Turns env A) := by
  refine turns_resolved env fun occurredAt hat => ?_
  refine turns_bind (turns_of_wrote ?_) fun jobs => turns_bind (Prog.keeps_mapEach frame_turns fun job _ => ?_) fun outcomes => ?_
  · unfold claimDueSchedulerJobs
    split
    · exact raise_wrote _
    refine Prog.keeps_bind frame_wrote ?_ fun jobs => ?_
    · unfold listDueSchedulerJobs
      split
      · exact raise_wrote _
      · exact query_wrote _
    · exact Prog.keeps_bind frame_wrote (write_elsewhere hA.elsewhere fun _ => rfl) fun _ => pure_wrote _
  · refine Prog.keeps_attempt frame_turns ?_ fun e => ?_
    · exact turns_bind (executeClaimedSchedulerJob_turns hA _ (hT _ hat)) fun _ => turns_pure _
    · exact turns_bind (turns_of_wrote (write_elsewhere hA.elsewhere fun _ => rfl)) fun _ => turns_pure _
  · split
    · exact turns_pure _
    · exact turns_raise _
    · exact turns_raise _

/-! ## Operations and runs -/

/-- The time an operation is given. -/
def Operation.time? : Operation → Option Time
  | .command (.completeTask _ _ _ at_ _) | .command (.initializeWorkflow _ _ _ at_) | .command (.error _ _ _ at_)
  | .command (.retry _ _ _ at_) | .command (.terminate _ _ _ at_) | .advance _ _ _ at_ | .runDueJobs at_ _ _ _ => at_
  | .command (.initializeFromDefinition _ _ args _) => args.startedAt
  | _ => none

/-- The operation may set the time at which tasks ended. -/
def Operation.Stamps : Operation → Prop
  | .command (.completeTask ..) | .command (.initializeWorkflow ..) | .command (.error ..) | .command (.retry ..)
  | .command (.terminate ..) | .command (.initializeFromDefinition ..) | .advance .. | .runDueJobs .. => True
  | _ => False

/-- The writes an operation may make at a time in `T`. -/
def Operation.DoesAt (T : Time → Prop) (op : Operation) : Deed → Prop
  | .store tenantId args => ∃ userId, op = .command (.importDefinition tenantId userId args)
  | .claim workItemId userId => ∃ tenantId, op = .command (.claimTask tenantId workItemId userId)
  | .complete item userId t => T t ∧ ∃ tenantId completedAt payload,
      op = .command (.completeTask tenantId item.id userId completedAt payload)
  | .task _ t | .close _ t => T t ∧ op.Stamps
  | _ => True

section
variable {op : Operation}

theorem Operation.doesAt_handles (op : Operation) (i : Nat) : Handles (op.DoesAt T) i :=
  ⟨trivial, fun _ => trivial, trivial, trivial, fun _ => trivial, trivial, trivial, trivial⟩

theorem Operation.doesAt_works (h : op.Stamps) (i : Nat) : Works (op.DoesAt T) i T :=
  ⟨op.doesAt_handles i, trivial, fun _ ht => ⟨⟨op.doesAt_handles i, ht, h⟩, ht, h⟩⟩

theorem recordEventCommand_wrote (hA : A .elsewhere) (tenantId : TenantId) (processInstanceId : Nat) (eventType : Option EventType)
    (taskGuid : Option Guid) (userId : Option Nat) (occurredAt : Option Time) :
    (recordEventCommand env tenantId processInstanceId eventType taskGuid userId occurredAt).Keeps (Wrote env A) := by
  refine Prog.keeps_bind frame_wrote (resolveTimestamp_wrote _) fun occurredAt => ?_
  cases eventType with
  | some eventType => exact recordProcessInstanceEvent_wrote hA _ _ _ _ _ _
  | none =>
    refine withUser_wrote tenantId userId ?_
    exact Prog.keeps_bind frame_wrote (wrote_of_readOnly (loadProcessInstance_readOnly _ _)) fun _ => raise_wrote _

theorem executeCommand_turns (c : Command) (hT : ∀ t, StandsFor (Operation.command c).time? t → T t) :
    (executeCommand env c).Keeps (Turns env ((Operation.command c).DoesAt T)) := by
  have helsewhere : (Operation.command c).DoesAt T .elsewhere := trivial
  have hworks : (Operation.command c).Stamps → ∀ i, Works ((Operation.command c).DoesAt T) i T := fun h i =>
    Operation.doesAt_works h i
  cases c with
  | claimTask tenantId workItemId userId => exact turns_of_wrote (claimTask_wrote helsewhere _ ⟨tenantId, rfl⟩)
  | completeTask tenantId workItemId userId completedAt payload =>
    refine turns_of_wrote (completeTask_wrote _ (fun item hitem => ⟨fun t ht => ⟨ht, ?_⟩, hworks trivial _⟩) _ hT _)
    exact ⟨tenantId, completedAt, payload, by rw [hitem]⟩
  | recordEvent tenantId processInstanceId eventType taskGuid userId occurredAt =>
    exact turns_of_wrote (recordEventCommand_wrote helsewhere _ _ _ _ _ _)
  | createProcessInstance tenantId new =>
    exact turns_bind (turns_of_wrote (createProcessInstance_wrote helsewhere _ _)) fun _ => turns_pure _
  | importDefinition tenantId userId args =>
    exact turns_bind (turns_of_wrote (importBpmnProcessDefinition_wrote helsewhere trivial ⟨userId, rfl⟩ _)) fun _ =>
      turns_pure _
  | initializeFromDefinition tenantId definitionId args resolver =>
    exact initializeProcessInstanceFromDefinition_turns (hworks trivial) _ _ _ hT _
  | initializeWorkflow tenantId processInstanceId source startedAt =>
    exact initializeProcessInstanceWorkflow_turns _ (hworks trivial _) _ _ hT
  | upsertMetadata tenantId processInstanceId key value updatedAt createdAt =>
    exact turns_of_wrote (upsertProcessInstanceMetadata_wrote helsewhere _ _ _ _ _ _)
  | suspend tenantId processInstanceId userId at_ => exact turns_of_wrote (suspendProcessInstance_wrote helsewhere _ _ _ _)
  | resume tenantId processInstanceId userId at_ =>
    exact turns_of_wrote (resumeProcessInstance_wrote _ (Operation.doesAt_handles _ _) _ _)
  | error tenantId processInstanceId userId at_ =>
    exact turns_of_wrote (errorProcessInstance_wrote helsewhere _ _ _ fun t ht => ⟨hT t ht, trivial⟩)
  | retry tenantId processInstanceId userId at_ =>
    exact retryProcessInstance_turns _ (hworks trivial _) _ _ hT
  | scheduleRetry tenantId processInstanceId userId retryAt at_ =>
    exact turns_of_wrote (scheduleProcessInstanceRetry_wrote helsewhere _ _ _ _ _)
  | terminate tenantId processInstanceId userId at_ =>
    exact turns_of_wrote (terminateProcessInstance_wrote helsewhere _ _ _ fun t ht => ⟨hT t ht, trivial⟩)

/-- However an operation ends, its turns are made at its time. -/
theorem Operation.turnsAt (op : Operation) (hT : ∀ t, StandsFor op.time? t → T t) : (op.run env).Keeps (Turns env (op.DoesAt T)) := by
  have hworks : op.Stamps → ∀ i, Works (op.DoesAt T) i T := fun h i => Operation.doesAt_works h i
  cases op with
  | command c => exact executeCommand_turns c hT
  | advance tenantId processInstanceId guid completedAt =>
    exact turns_of_wrote (advanceProcessInstanceWorkflow_wrote _ (hworks trivial _) _ _ hT)
  | assignPendingTasks tenantId userId =>
    exact turns_bind (turns_of_wrote (assignPendingTasksForUser_wrote trivial _ _)) fun _ => turns_pure _
  | runDueJobs now limit workerId tenant =>
    have hpasses : Passes ((Operation.runDueJobs now limit workerId tenant).DoesAt T) T := ⟨hworks trivial, trivial, trivial⟩
    exact turns_bind (runDueSchedulerJobs_turns hpasses _ hT _ _ _) fun _ => turns_pure _

end

/-- The writes an operation may make at any time. -/
def Operation.Does (op : Operation) : Deed → Prop := op.DoesAt fun _ => True

theorem Operation.turns (op : Operation) : (op.run env).Keeps (Turns env op.Does) := op.turnsAt fun _ _ => trivial

/-- However a call ends and whatever its caller does, the next database comes
from the turns of the call. -/
theorem Step.turns {op : Operation} {st st' : Store} (h : Step env op st st') :
    ∃ (world : Ω) (s : Tx Ω), Turns env op.Does (st.session world) s ∧ st'.seq = s.seq ∧
      (st'.db = Db.merge s.base s.view s.committed ∨ st'.db = s.committed) := by
  cases h with
  | @commit world r s hrun =>
    have hturns : (op.run env).Keeps (Turns env op.Does) := op.turns
    have hs := hturns (st.session world)
    rw [hrun] at hs
    exact ⟨world, s, hs, rfl, .inl rfl⟩
  | @rollback world r s hrun =>
    have hturns : (op.run env).Keeps (Turns env op.Does) := op.turns
    have hs := hturns (st.session world)
    rw [hrun] at hs
    exact ⟨world, s, hs, rfl, .inr rfl⟩

/-- What the turns of a call keep holds after it. -/
theorem Step.inv {op : Operation} {st st' : Store} {P : Nat → Db → Db → Db → Prop} {Q : Nat → Db → Prop}
    (hP : TurnInv env op.Does P) (hstart : P st.seq st.db st.db st.db)
    (hend : ∀ {n base view committed}, P n base view committed → Q n (Db.merge base view committed) ∧ Q n committed)
    (h : Step env op st st') : Q st'.seq st'.db := by
  obtain ⟨world, s, hturns, hseq, hdb | hdb⟩ := h.turns
  · rw [hseq, hdb]
    exact (hend (hturns.inv hP hstart)).1
  · rw [hseq, hdb]
    exact (hend (hturns.inv hP hstart)).2

end
end M8flowCore
