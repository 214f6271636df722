import M8flowCore.Writes
/-!
# What the services write

For each service function that works in one session, the writes it makes.
-/
open M8flowCore.Lib M8flowCore.Session

namespace M8flowCore

/-- The writes that set no time on a task of the instance. -/
structure Handles (A : Deed → Prop) (i : Nat) : Prop where
  elsewhere : A .elsewhere
  sync : ∀ definitionId, A (.sync definitionId)
  inactive : A (.inactive i)
  prepare : A (.prepare i)
  item : ∀ id, A (.item i id)
  lane : A .lane
  owner : A .owner
  group : A .group

/-- The writes of a save of the instance. -/
structure Saves (A : Deed → Prop) (i : Nat) (occurredAt : Time) : Prop extends Handles A i where
  task : A (.task i occurredAt)

/-- The writes of a run of its workflow, which may fail. -/
structure Closes (A : Deed → Prop) (i : Nat) (occurredAt : Time) : Prop extends Saves A i occurredAt where
  close : A (.close i occurredAt)

/-- The writes of whatever is done to the instance, besides its human tasks, at
a time in `T`. -/
structure Works (A : Deed → Prop) (i : Nat) (T : Time → Prop) : Prop extends Handles A i where
  reopen : A (.reopen i)
  closes : ∀ t, T t → Closes A i t

/-- The time `t` may stand for the time argument. -/
def StandsFor (at_ : Option Time) (t : Time) : Prop := ∀ t', at_ = some t' → t = t'

theorem StandsFor.eq {t t' : Time} (h : StandsFor (some t) t') : t' = t := h t rfl

section
variable {W Ω : Type} {env : Env W Ω} {A : Deed → Prop} {T : Time → Prop} {pi : ProcessInstance} {w : W} {occurredAt : Time}

variable (env) in
/-- What is done at the time a call resolves. -/
theorem keeps_resolved {α : Type} {R : Tx Ω → Tx Ω → Prop} (hR : Prog.Frame R) {at_ : Option Time} {f : Time → M Ω α}
    (hf : ∀ t, StandsFor at_ t → (f t).Keeps R) : (resolveTimestamp env at_ >>= f).Keeps R := by
  refine Prog.keeps_bind_of hR (Prog.keeps_gets hR _) fun t hrun => hf t fun t' hat => ?_
  obtain ⟨s, s', hrun⟩ := hrun
  subst hat
  exact (Except.ok.inj (Prod.mk.inj hrun).1).symm

/-! ## Saving -/

theorem createOrUpdateFromPayload_wrote (hA : A .elsewhere) (tenantId : TenantId) (data : Dict) :
    (createOrUpdateFromPayload env tenantId data).Keeps (Wrote env A) := by
  refine Prog.keeps_bind frame_wrote (ofExcept_wrote _) fun hashed => ?_
  exact Prog.keeps_bind frame_wrote (write_elsewhere hA fun _ => rfl) fun _ => pure_wrote _

theorem upsertTaskDefinitionFromPayload_wrote (hA : A .elsewhere) (tenantId : TenantId) (definitionId : Nat)
    (taskIdentifier : String) (payload : Dict) (occurredAt : Time) :
    (upsertTaskDefinitionFromPayload (Ω := Ω) tenantId definitionId taskIdentifier payload occurredAt).Keeps (Wrote env A) := by
  refine Prog.keeps_bind frame_wrote (query_wrote _) fun existing => ?_
  dsimp only
  split
  · exact raise_wrote _
  · exact raise_wrote _
  · cases existing with
    | none => exact Prog.keeps_bind frame_wrote (insert_elsewhere hA fun _ _ => rfl) fun _ => pure_wrote _
    | some row => exact Prog.keeps_bind frame_wrote (write_elsewhere hA fun _ => rfl) fun _ => pure_wrote _

theorem syncSerializedTaskSpecs_wrote (hA : A .elsewhere) (tenantId : TenantId) (definitionId : Nat) (subprocess : Option String)
    (taskSpecs : List (String × Dict)) (occurredAt : Time) :
    (syncSerializedTaskSpecs (Ω := Ω) tenantId definitionId subprocess taskSpecs occurredAt).Keeps (Wrote env A) :=
  Prog.keeps_forEach frame_wrote fun _ _ =>
    Prog.keeps_bind frame_wrote (upsertTaskDefinitionFromPayload_wrote hA _ _ _ _ _) fun _ => pure_wrote _

theorem syncProcessDefinitionFromWorkflow_wrote (hA : A .elsewhere) (hsync : ∀ id, A (.sync id)) (pi : ProcessInstance) (w : W)
    (occurredAt : Time) : (syncProcessDefinitionFromWorkflow pi (env.toDict w) occurredAt).Keeps (Wrote env A) := by
  refine Prog.keeps_bind frame_wrote (query_wrote _) fun found => ?_
  cases found with
  | none => exact pure_wrote _
  | some definition =>
    refine Prog.keeps_bind frame_wrote (write_wrote (hsync definition.id) (fun db => .sync db _ w _ _) fun _ => le_refl _) fun _ => ?_
    refine Prog.keeps_bind frame_wrote (syncSerializedTaskSpecs_wrote hA _ _ _ _ _) fun _ => ?_
    exact Prog.keeps_forEach frame_wrote fun _ _ => syncSerializedTaskSpecs_wrote hA _ _ _ _ _

theorem syncBpmnProcessFromWorkflow_wrote (hA : A .elsewhere) (pi : ProcessInstance) (serialized : SerializedWorkflow)
    (serializedState : String) : (syncBpmnProcessFromWorkflow env pi serialized serializedState).Keeps (Wrote env A) := by
  refine Prog.keeps_bind frame_wrote (query_wrote _) fun found => ?_
  cases found with
  | none => exact pure_wrote _
  | some process =>
    refine Prog.keeps_bind frame_wrote (createOrUpdateFromPayload_wrote hA _ _) fun hash => ?_
    exact write_elsewhere hA fun _ => rfl

theorem upsertTaskModelFromPayload_wrote (hA : A .elsewhere) (htask : A (.task pi.id occurredAt)) (definition : TaskDefinition)
    (payload : Dict) : (upsertTaskModelFromPayload env pi definition payload occurredAt).Keeps (Wrote env A) := by
  refine Prog.keeps_bind frame_wrote (orRaise_wrote _ _) fun guid => ?_
  refine Prog.keeps_bind frame_wrote (createOrUpdateFromPayload_wrote hA _ _) fun jsonDataHash => ?_
  refine Prog.keeps_bind frame_wrote (createOrUpdateFromPayload_wrote hA _ _) fun pythonEnvDataHash => ?_
  refine Prog.keeps_bind frame_wrote (orRaise_wrote _ _) fun state => ?_
  intro s
  -- the row is new only because it was just looked for
  simp only [query, Prog.gets_bind_run]
  cases hfound : s.view.task? guid with
  | none =>
    cases hprocess : pi.bpmnProcessId with
    | none => exact frame_wrote.refl s
    | some processId =>
      exact ⟨rfl, rfl, .one htask (.newTask s.view _ ⟨rfl, state, rfl, rfl⟩ hfound) (le_refl _)⟩
  | some row =>
    refine ⟨rfl, rfl, .one htask (.oldTask s.view guid _ fun t => ⟨rfl, rfl, state, rfl, rfl⟩) (le_refl _)⟩

theorem syncTaskModelsFromWorkflow_wrote (hA : A .elsewhere) (htask : A (.task pi.id occurredAt)) (serialized : SerializedWorkflow) :
    (syncTaskModelsFromWorkflow env pi serialized occurredAt).Keeps (Wrote env A) := by
  refine Prog.keeps_bind frame_wrote (orRaise_wrote _ _) fun definitionId => ?_
  refine Prog.keeps_bind frame_wrote (query_wrote _) fun definitions => ?_
  refine Prog.keeps_bind frame_wrote (ofExcept_wrote _) fun rows => ?_
  split
  · exact raise_wrote _
  · refine Prog.keeps_forEach frame_wrote fun row _ => ?_
    refine Prog.keeps_bind frame_wrote (orRaise_wrote _ _) fun definition => ?_
    exact Prog.keeps_bind frame_wrote (upsertTaskModelFromPayload_wrote hA htask _ _) fun _ => pure_wrote _

theorem syncIntermediateTimerSchedulerJob_wrote (hA : A .elsewhere) (pi : ProcessInstance) (w : W) (occurredAt : Time) :
    (syncIntermediateTimerSchedulerJob env pi w occurredAt).Keeps (Wrote env A) := by
  refine Prog.keeps_bind frame_wrote (ofExcept_wrote _) fun payloads => ?_
  split
  · exact deleteSchedulerJob_wrote hA _ _
  · exact upsertSchedulerJob_wrote hA _ _ _ _ _

theorem persistWorkflowState_wrote (hA : A .elsewhere) (hsync : ∀ id, A (.sync id)) (htask : A (.task pi.id occurredAt)) (w : W) :
    (persistWorkflowState env pi w occurredAt).Keeps (Wrote env A) := by
  refine Prog.keeps_bind frame_wrote (ofExcept_wrote _) fun serializedState => ?_
  refine Prog.keeps_bind frame_wrote (updateInstance_wrote hA _ _) fun _ => ?_
  refine Prog.keeps_bind frame_wrote (syncProcessDefinitionFromWorkflow_wrote hA hsync pi w occurredAt) fun _ => ?_
  refine Prog.keeps_bind frame_wrote (syncBpmnProcessFromWorkflow_wrote hA _ _ _) fun _ => ?_
  refine Prog.keeps_bind frame_wrote (syncTaskModelsFromWorkflow_wrote hA htask _) fun _ => ?_
  exact syncIntermediateTimerSchedulerJob_wrote hA _ _ _

theorem persistWorkflowRecoveryState_wrote (hA : A .elsewhere) (pi : ProcessInstance) (w : W) :
    (persistWorkflowRecoveryState env pi w).Keeps (Wrote env A) := by
  refine Prog.keeps_bind frame_wrote (ofExcept_wrote _) fun serializedState => ?_
  refine Prog.keeps_bind frame_wrote (updateInstance_wrote hA _ _) fun _ => ?_
  exact syncBpmnProcessFromWorkflow_wrote hA _ _ _

/-! ## Work items of a save -/

theorem syncInactiveWorkItems_wrote (hA : A .elsewhere) (hinactive : A (.inactive pi.id)) (w : W) (occurredAt : Time) :
    (syncInactiveWorkItems env pi w occurredAt).Keeps (Wrote env A) := by
  have hclose : ∀ (item : WorkItem) (taskState : Option TaskModelState), item.processInstanceId = pi.id →
      (closeInactiveWorkItem (Ω := Ω) pi item taskState occurredAt).Keeps (Wrote env A) := by
    intro item taskState hitem
    refine Prog.keeps_bind frame_wrote (write_wrote (hitem ▸ hinactive) (fun db => .inactive db item taskState occurredAt) fun _ => le_refl _) fun _ => ?_
    refine Prog.keeps_bind frame_wrote (write_elsewhere hA fun _ => rfl) fun _ => ?_
    split
    · exact pure_wrote _
    · exact recordProcessInstanceEvent_wrote hA _ _ _ _ _ _
  refine Prog.keeps_bind frame_wrote (query_wrote _) fun ready => ?_
  intro s
  simp only [query, Prog.gets_bind_run]
  refine Prog.keeps_forEach frame_wrote (fun item hitem => ?_) s
  refine Prog.keeps_bind frame_wrote (Prog.keeps_gets frame_wrote _) fun task => ?_
  split
  · refine hclose item _ ?_
    simp only [List.mem_filter, Bool.and_eq_true, beq_iff_eq] at hitem
    exact hitem.2.1.2
  · exact pure_wrote _

theorem upsertWorkItem_wrote (hA : A .elsewhere) (hprepare : A (.prepare pi.id)) (hitem : ∀ id, A (.item pi.id id)) (taskGuid : Guid) (occurredAt : Time) :
    (upsertWorkItem (Ω := Ω) pi taskGuid occurredAt).Keeps (Wrote env A) := by
  intro s
  unfold upsertWorkItem
  simp only [query, Prog.gets_bind_run]
  cases hfound : s.view.workItems.find? _ with
  | none =>
    refine Prog.keeps_bind frame_wrote (insert_wrote hitem (fun id db => .newItem db pi taskGuid occurredAt id) fun n => ⟨rfl, Nat.lt_succ_self n⟩)
      (fun id => ?_) s
    exact Prog.keeps_bind frame_wrote (updateInstance_wrote hA _ _) fun _ => pure_wrote _
  | some item =>
    have hkey := List.find?_some hfound
    simp only [Bool.and_eq_true, beq_iff_eq] at hkey
    have hallowed : A (.prepare item.processInstanceId) := hkey.1.2 ▸ hprepare
    refine Prog.keeps_bind frame_wrote (write_wrote hallowed (fun db => .prepare db item occurredAt) fun _ => le_refl _) (fun _ => ?_) s
    refine Prog.keeps_bind frame_wrote (pure_wrote item.id) fun id => ?_
    exact Prog.keeps_bind frame_wrote (updateInstance_wrote hA _ _) fun _ => pure_wrote _

theorem materializeSingleManualTask_wrote (hA : Saves A pi.id occurredAt) (t : SpiffTask) :
    (materializeSingleManualTask env pi t occurredAt).Keeps (Wrote env A) := by
  refine Prog.keeps_bind frame_wrote (query_wrote _) fun process => ?_
  refine Prog.keeps_bind frame_wrote (orRaise_wrote _ _) fun _ => ?_
  refine Prog.keeps_bind frame_wrote (orRaise_wrote _ _) fun definitionId => ?_
  split
  · exact raise_wrote _
  refine Prog.keeps_bind frame_wrote (upsertTaskDefinitionFromPayload_wrote hA.elsewhere _ _ _ _ _) fun definition => ?_
  refine Prog.keeps_bind frame_wrote (upsertTaskModelFromPayload_wrote hA.elsewhere hA.task _ _) fun guid => ?_
  refine Prog.keeps_bind frame_wrote (upsertWorkItem_wrote hA.elsewhere hA.prepare hA.item _ _) fun workItemId => ?_
  refine Prog.keeps_bind frame_wrote (query_wrote _) fun properties => ?_
  refine Prog.keeps_bind frame_wrote (assignWorkItemPotentialOwners_wrote hA.group hA.owner hA.lane _ _ _ _ _) fun _ => ?_
  refine write_elsewhere hA.elsewhere fun db => ?_
  split <;> rfl

theorem materializeReadyManualTasks_wrote (hA : Saves A pi.id occurredAt) (w : W) :
    (materializeReadyManualTasks env pi w occurredAt).Keeps (Wrote env A) := by
  refine Prog.keeps_bind frame_wrote (query_wrote _) fun ready => ?_
  exact Prog.keeps_forEach frame_wrote fun t _ => materializeSingleManualTask_wrote hA t

theorem updateProcessOf_wrote (hA : A .elsewhere) (pi : ProcessInstance) (f : BpmnProcess → BpmnProcess) :
    (updateProcessOf (Ω := Ω) pi f).Keeps (Wrote env A) := by
  refine write_elsewhere hA fun db => ?_
  split <;> rfl

theorem updateProcessInstanceStatusFromWorkflow_wrote (hA : A .elsewhere) (pi : ProcessInstance) (w : W) (occurredAt : Time) :
    (updateProcessInstanceStatusFromWorkflow env pi w occurredAt).Keeps (Wrote env A) := by
  unfold updateProcessInstanceStatusFromWorkflow
  split
  · refine Prog.keeps_bind frame_wrote (updateInstance_wrote hA _ _) fun _ => ?_
    exact Prog.keeps_bind frame_wrote (updateProcessOf_wrote hA _ _) fun _ => write_elsewhere hA fun _ => rfl
  · refine Prog.keeps_bind frame_wrote (updateInstance_wrote hA _ _) fun _ => ?_
    exact Prog.keeps_bind frame_wrote (query_wrote _) fun startedAt => updateProcessOf_wrote hA _ _

theorem saveWorkflow_wrote (hA : Saves A pi.id occurredAt) (w : W) (starting : Bool) :
    (saveWorkflow env pi w occurredAt starting).Keeps (Wrote env A) := by
  refine Prog.keeps_bind frame_wrote (persistWorkflowState_wrote hA.elsewhere hA.sync hA.task w) fun _ => ?_
  refine Prog.keeps_bind frame_wrote (syncInactiveWorkItems_wrote hA.elsewhere hA.inactive w _) fun _ => ?_
  refine Prog.keeps_bind frame_wrote (materializeReadyManualTasks_wrote hA w) fun _ => ?_
  have hstatus : (updateProcessInstanceStatusFromWorkflow env pi w occurredAt).Keeps (Wrote env A) :=
    updateProcessInstanceStatusFromWorkflow_wrote hA.elsewhere pi w occurredAt
  cases starting with
  | true => exact Prog.keeps_bind frame_wrote (updateInstance_wrote hA.elsewhere _ _) fun _ => hstatus
  | false => exact hstatus

/-! ## Lifecycle -/

/-- The membership check in front of the rest of a call with an optional user. -/
theorem withUser_wrote {α : Type} {m : M Ω α} (tenantId : TenantId) (userId : Option Nat) (h : m.Keeps (Wrote env A)) :
    Prog.Keeps (Wrote env A) (do
      match userId with
      | none => pure ()
      | some userId => do
        let _ ← ensureUserBelongsToTenant tenantId userId
        pure ()
      m : M Ω α) := by
  cases userId with
  | none => exact h
  | some userId => exact Prog.keeps_bind frame_wrote (wrote_of_readOnly (ensureUserBelongsToTenant_readOnly _ _)) fun _ => h

theorem errorProcessInstance_wrote (hA : A .elsewhere) {processInstanceId : Nat}
    (tenantId : TenantId) (userId : Option Nat) (erroredAt : Option Time)
    (hclose : ∀ t, StandsFor erroredAt t → A (.close processInstanceId t)) :
    (errorProcessInstance env tenantId processInstanceId userId erroredAt).Keeps (Wrote env A) := by
  refine withUser_wrote tenantId userId ?_
  refine Prog.keeps_bind frame_wrote (wrote_of_readOnly (loadProcessInstance_readOnly _ _)) fun pi => ?_
  split
  · exact pure_wrote _
  split
  · exact raise_wrote _
  split
  · exact raise_wrote _
  refine keeps_resolved env frame_wrote fun occurredAt hat => ?_
  refine Prog.keeps_bind frame_wrote (updateInstance_wrote hA _ _) fun _ => ?_
  refine Prog.keeps_bind frame_wrote (write_wrote (hclose occurredAt hat) (fun db => .close db _ _ userId) fun _ => le_refl _) fun _ => ?_
  exact recordProcessInstanceEvent_wrote hA _ _ _ _ _ _

theorem terminateProcessInstance_wrote (hA : A .elsewhere) {processInstanceId : Nat}
    (tenantId : TenantId) (userId : Nat) (terminatedAt : Option Time)
    (hclose : ∀ t, StandsFor terminatedAt t → A (.close processInstanceId t)) :
    (terminateProcessInstance env tenantId processInstanceId userId terminatedAt).Keeps (Wrote env A) := by
  refine Prog.keeps_bind frame_wrote (wrote_of_readOnly (openProcessInstanceCommand_readOnly _ _ _ _)) fun pi => ?_
  split
  · exact pure_wrote _
  split
  · exact raise_wrote _
  refine keeps_resolved env frame_wrote fun occurredAt hat => ?_
  refine Prog.keeps_bind frame_wrote (updateInstance_wrote hA _ _) fun _ => ?_
  refine Prog.keeps_bind frame_wrote (write_wrote (hclose occurredAt hat) (fun db => .close db _ _ (some userId)) fun _ => le_refl _) fun _ => ?_
  exact recordProcessInstanceEvent_wrote hA _ _ _ _ _ _

theorem suspendProcessInstance_wrote (hA : A .elsewhere) (tenantId : TenantId) (processInstanceId userId : Nat)
    (suspendedAt : Option Time) :
    (suspendProcessInstance env tenantId processInstanceId userId suspendedAt).Keeps (Wrote env A) := by
  refine Prog.keeps_bind frame_wrote (wrote_of_readOnly (openProcessInstanceCommand_readOnly _ _ _ _)) fun pi => ?_
  split
  · exact pure_wrote _
  split
  · exact raise_wrote _
  refine Prog.keeps_bind frame_wrote (resolveTimestamp_wrote _) fun occurredAt => ?_
  refine Prog.keeps_bind frame_wrote (updateInstance_wrote hA _ _) fun _ => ?_
  exact recordProcessInstanceEvent_wrote hA _ _ _ _ _ _

theorem scheduleProcessInstanceRetry_wrote (hA : A .elsewhere) (tenantId : TenantId) (processInstanceId userId : Nat)
    (retryAt : Time) (scheduledAt : Option Time) :
    (scheduleProcessInstanceRetry env tenantId processInstanceId userId retryAt scheduledAt).Keeps (Wrote env A) := by
  refine Prog.keeps_bind frame_wrote (wrote_of_readOnly (openProcessInstanceCommand_readOnly _ _ _ _)) fun pi => ?_
  split
  · exact raise_wrote _
  refine Prog.keeps_bind frame_wrote (resolveTimestamp_wrote _) fun occurredAt => ?_
  exact upsertSchedulerJob_wrote hA _ _ _ _ _

theorem enterError_wrote (hA : A .elsewhere) (hclose : A (.close pi.id occurredAt)) (tenantId : TenantId) :
    (enterError (Ω := Ω) env tenantId pi occurredAt).Keeps (Wrote env A) := by
  refine Prog.keeps_bind frame_wrote (updateInstance_wrote hA _ _) fun _ => ?_
  refine Prog.keeps_bind frame_wrote (updateProcessOf_wrote hA _ _) fun _ => ?_
  refine Prog.keeps_bind frame_wrote (updateInstance_wrote hA _ _) fun _ => ?_
  exact errorProcessInstance_wrote hA _ _ _ fun t hat => hat.eq ▸ hclose

theorem recordTaskFailed_wrote (hA : A .elsewhere) (tenantId : TenantId) (occurredAt : Time) (guid : Option Guid) :
    (recordTaskFailed (Ω := Ω) tenantId pi occurredAt guid).Keeps (Wrote env A) := by
  unfold recordTaskFailed
  cases guid with
  | none => exact pure_wrote _
  | some guid => exact recordProcessInstanceEvent_wrote hA _ _ _ _ _ _

/-- The failure of a service task, in a session of the library's own. -/
theorem recovery_wrote (hA : A .elsewhere) (hclose : A (.close pi.id occurredAt)) (tenantId : TenantId) (w : W) :
    (transitionToErrorForServiceTaskFailure env tenantId pi w occurredAt true).Keeps (Wrote env A) := by
  rw [transitionToErrorForServiceTaskFailure_eq]
  refine Prog.keeps_bind frame_wrote (persistWorkflowRecoveryState_wrote hA pi w) fun _ => ?_
  exact Prog.keeps_bind frame_wrote (recordTaskFailed_wrote hA _ _ _) fun _ => enterError_wrote hA hclose _

/-- The same in the caller's session, where the whole workflow is saved. -/
theorem transitionToError_wrote (hA : Closes A pi.id occurredAt) (tenantId : TenantId) (w : W) :
    (transitionToErrorForServiceTaskFailure env tenantId pi w occurredAt false).Keeps (Wrote env A) := by
  rw [transitionToErrorForServiceTaskFailure_eq]
  refine Prog.keeps_bind frame_wrote ?_ fun _ =>
    Prog.keeps_bind frame_wrote (recordTaskFailed_wrote hA.elsewhere _ _ _) fun _ => enterError_wrote hA.elsewhere hA.close _
  refine Prog.keeps_bind frame_wrote (persistWorkflowState_wrote hA.elsewhere hA.sync hA.task w) fun _ => ?_
  exact syncInactiveWorkItems_wrote hA.elsewhere hA.inactive w _

theorem syncOpenWorkItemPotentialOwners_wrote {i : Nat} (hA : Handles A i) (tenantId : TenantId) (processInstanceId : Nat)
    (loaded : Option (List Nat)) :
    (syncOpenWorkItemPotentialOwners env tenantId processInstanceId loaded).Keeps (Wrote env A) := by
  refine Prog.keeps_bind frame_wrote (wrote_of_readOnly (loadProcessInstance_readOnly _ _)) fun pi => ?_
  refine Prog.keeps_bind frame_wrote (query_wrote _) fun state => ?_
  cases state with
  | none => exact pure_wrote _
  | some state =>
    refine Prog.keeps_bind frame_wrote (query_wrote _) fun items => ?_
    split
    · exact pure_wrote _
    refine Prog.keeps_bind frame_wrote (ofExcept_wrote _) fun w => ?_
    refine Prog.keeps_bind frame_wrote (query_wrote _) fun properties => ?_
    refine Prog.keeps_forEach frame_wrote fun item _ => ?_
    split
    · exact pure_wrote _
    · exact assignWorkItemPotentialOwners_wrote hA.group hA.owner hA.lane _ _ _ _ _

theorem resumeProcessInstance_wrote (tenantId : TenantId) {processInstanceId : Nat} (hA : Handles A processInstanceId)
    (userId : Nat) (resumedAt : Option Time) :
    (resumeProcessInstance env tenantId processInstanceId userId resumedAt).Keeps (Wrote env A) := by
  refine Prog.keeps_bind frame_wrote (wrote_of_readOnly (openProcessInstanceCommand_readOnly _ _ _ _)) fun pi => ?_
  split
  · exact pure_wrote _
  split
  · exact raise_wrote _
  split
  · exact raise_wrote _
  refine Prog.keeps_bind frame_wrote (resolveTimestamp_wrote _) fun occurredAt => ?_
  refine Prog.keeps_bind frame_wrote (updateInstance_wrote hA.elsewhere _ _) fun _ => ?_
  refine Prog.keeps_bind frame_wrote (syncOpenWorkItemPotentialOwners_wrote hA _ _ _) fun _ => ?_
  exact recordProcessInstanceEvent_wrote hA.elsewhere _ _ _ _ _ _

/-! ## Human tasks -/

theorem claimTask_wrote (hA : A .elsewhere) (tenantId : TenantId) {workItemId userId : Nat} (hclaim : A (.claim workItemId userId)) :
    (claimTask env tenantId workItemId userId).Keeps (Wrote env A) := by
  intro s
  unfold claimTask
  rcases hrun : (claimTaskChecks env tenantId workItemId userId).run s with ⟨e | item, s₁⟩
  · rw [Prog.bind_run_error hrun, (claimTaskChecks_readOnly env _ _ _).state hrun]
    exact frame_wrote.refl s
  · rw [Prog.bind_run_ok hrun, claimTaskUpdate_run]
    obtain ⟨hitem, -, hassigned⟩ := claimTaskChecks_ok env hrun
    obtain rfl := (claimTaskChecks_readOnly env _ _ _).state hrun
    obtain rfl : item.id = workItemId := by
      have := List.find?_some hitem
      simp only [Bool.and_eq_true, beq_iff_eq] at this
      exact this.2
    have hwrite : Reach env A s₁.store ⟨s₁.seq, s₁.view.claimUpdate tenantId item.id userId (env.now s₁.world)⟩ :=
      .one hclaim (.claim s₁.view _ hassigned) (le_refl _)
    split
    · exact ⟨rfl, rfl, hwrite.trans (.elsewhere hA (le_refl _) rfl)⟩
    · exact ⟨rfl, rfl, hwrite⟩

/-- Without a session of its own for the failure. -/
theorem runWorkflow_wrote (hA : Closes A pi.id occurredAt) (tenantId : TenantId) (w : W) :
    (runWorkflowWithServiceTaskFailureHandling env tenantId pi w occurredAt false).Keeps (Wrote env A) := by
  refine Prog.keeps_bind frame_wrote (ask_wrote _) ?_
  rintro ⟨raised, w⟩
  dsimp only
  split
  · exact pure_wrote _
  · refine Prog.keeps_bind frame_wrote (pure_wrote false) fun saved => ?_
    split
    · exact raise_wrote _
    · exact Prog.keeps_bind frame_wrote (transitionToError_wrote hA _ _) fun _ => raise_wrote _
  · exact raise_wrote _

theorem loaded_works {tenantId : TenantId} {processInstanceId : Nat} (hA : Works A processInstanceId T)
    (h : ∃ s s' : Tx Ω, (loadProcessInstance tenantId processInstanceId).run s = (.ok pi, s')) : Works A pi.id T := by
  obtain ⟨s, s', hload⟩ := h
  obtain ⟨-, -, -, hid⟩ := loadProcessInstance_ok hload
  exact hid ▸ hA

theorem advanceProcessInstanceWorkflow_wrote (tenantId : TenantId) {processInstanceId : Nat} (hA : Works A processInstanceId T)
    (guid : Guid) (completedAt : Option Time) (hT : ∀ t, StandsFor completedAt t → T t) :
    (advanceProcessInstanceWorkflow env tenantId processInstanceId guid completedAt).Keeps (Wrote env A) := by
  refine Prog.keeps_bind_of frame_wrote (wrote_of_readOnly (loadProcessInstance_readOnly _ _)) fun pi hload => ?_
  have hpi := loaded_works hA hload
  refine Prog.keeps_bind frame_wrote (query_wrote _) fun state => ?_
  cases state with
  | none => exact pure_wrote _
  | some state =>
    dsimp only
    split
    · exact pure_wrote _
    refine keeps_resolved env frame_wrote fun occurredAt hat => ?_
    have hcloses := hpi.closes _ (hT _ hat)
    refine Prog.keeps_bind frame_wrote (ofExcept_wrote _) fun w => ?_
    split
    · refine Prog.keeps_bind frame_wrote (wrote_of_readOnly (loadProcessInstanceMetadataPayload_readOnly _ _)) fun metadata => ?_
      refine Prog.keeps_bind frame_wrote (ask_wrote _) fun completed => ?_
      refine Prog.keeps_bind frame_wrote (wrote_of_readOnly (orRaised_readOnly _)) fun w => ?_
      exact Prog.keeps_bind frame_wrote (runWorkflow_wrote hcloses _ _) fun w => saveWorkflow_wrote hcloses.toSaves _ _
    · exact raise_wrote _

/-- A completion closes the rows of its item and saves the workflow of the
item's instance. -/
theorem completeTask_wrote (tenantId : TenantId) {workItemId userId : Nat}
    (hA : ∀ item : WorkItem, item.id = workItemId → (∀ t, T t → A (.complete item userId t)) ∧ Works A item.processInstanceId T)
    (completedAt : Option Time) (hT : ∀ t, StandsFor completedAt t → T t) (payload : Dict) :
    (completeTask env tenantId workItemId userId completedAt payload).Keeps (Wrote env A) := by
  refine Prog.keeps_bind_of frame_wrote (wrote_of_readOnly (completeTaskChecks_readOnly env _ _ _)) fun item hchecks => ?_
  have hitem : item.id = workItemId := by
    obtain ⟨s, s', h⟩ := hchecks
    unfold completeTaskChecks at h
    obtain ⟨opened, s₁, hopen, hrest⟩ := Prog.bind_ok.1 h
    obtain ⟨-, -, hfound⟩ := openWorkItemCommand_ok env hopen
    have hkey := List.find?_some hfound
    simp only [Bool.and_eq_true, beq_iff_eq] at hkey
    split at hrest
    · simp at hrest
    simp only [query, Prog.gets_bind_run] at hrest
    split at hrest
    · simp at hrest
    split at hrest
    · simp at hrest
    split at hrest
    · simp at hrest
    · obtain ⟨rfl, -⟩ := Prog.pure_ok.1 hrest
      exact hkey.2
  obtain ⟨hcomplete, hworks⟩ := hA item hitem
  refine keeps_resolved env frame_wrote fun completedAt hat => ?_
  refine Prog.keeps_bind frame_wrote (Prog.keeps_forEach frame_wrote fun kv _ =>
    upsertProcessInstanceMetadata_wrote hworks.elsewhere _ _ _ _ _ _) fun _ => ?_
  refine Prog.keeps_bind frame_wrote (write_wrote (hcomplete completedAt (hT _ hat)) (fun db => .complete db item _ _) fun _ => le_refl _) fun _ => ?_
  refine Prog.keeps_bind frame_wrote (query_wrote _) fun state => ?_
  cases state with
  | none => exact pure_wrote _
  | some state =>
    refine Prog.keeps_bind frame_wrote (advanceProcessInstanceWorkflow_wrote _ hworks _ _ fun t ht => ht.eq ▸ hT _ hat) fun _ => ?_
    refine Prog.keeps_bind frame_wrote (recordProcessInstanceEvent_wrote hworks.elsewhere _ _ _ _ _ _) fun _ => ?_
    refine Prog.keeps_bind frame_wrote (query_wrote _) fun status => ?_
    split
    · exact recordProcessInstanceEvent_wrote hworks.elsewhere _ _ _ _ _ _
    · exact pure_wrote _

theorem assignPendingTasksForUser_wrote (howner : A .owner) (tenantId : TenantId) (userId : Nat) :
    (assignPendingTasksForUser (Ω := Ω) tenantId userId).Keeps (Wrote env A) := by
  refine Prog.keeps_bind frame_wrote (wrote_of_readOnly (ensureUserBelongsToTenant_readOnly _ _)) fun _ => ?_
  refine Prog.keeps_bind frame_wrote (query_wrote _) fun items => ?_
  exact Prog.keeps_bind frame_wrote (write_wrote howner (fun db => .owner db _) fun _ => le_refl _) fun _ => pure_wrote _

/-! ## Starts -/

theorem ensureBpmnVersionSnapshot_wrote (hA : A .elsewhere) (tenantId : TenantId) (modelIdentifier bpmnXml : String)
    (occurredAt : Time) : (ensureBpmnVersionSnapshot env tenantId modelIdentifier bpmnXml occurredAt).Keeps (Wrote env A) := by
  refine Prog.keeps_bind frame_wrote (query_wrote _) fun existing => ?_
  cases existing with
  | some version => exact pure_wrote _
  | none => exact insert_elsewhere hA fun _ _ => rfl

theorem prepareProcessInstanceInSession_wrote (hA : A .elsewhere) (tenantId : TenantId) (definition : BpmnProcessDefinition)
    (modelIdentifier : String) (args : StartArgs) :
    (prepareProcessInstanceInSession env tenantId definition modelIdentifier args).Keeps (Wrote env A) := by
  refine Prog.keeps_bind frame_wrote (orRaise_wrote _ _) fun bpmnXml => ?_
  refine Prog.keeps_bind frame_wrote (ofExcept_wrote _) fun selected => ?_
  refine Prog.keeps_bind frame_wrote ?_ fun processId => ?_
  · exact Prog.keeps_bind frame_wrote (createOrUpdateFromPayload_wrote hA _ _) fun hash => insert_elsewhere hA fun _ _ => rfl
  refine Prog.keeps_bind frame_wrote (createProcessInstance_wrote hA _ _) fun instanceId => ?_
  refine Prog.keeps_bind frame_wrote ?_ fun _ => pure_wrote _
  refine Prog.keeps_bind frame_wrote (resolveTimestamp_wrote _) fun timestamp => ?_
  refine Prog.keeps_bind frame_wrote (ensureBpmnVersionSnapshot_wrote hA _ _ _ _) fun versionId => ?_
  refine Prog.keeps_bind frame_wrote (updateInstance_wrote hA _ _) fun _ => ?_
  exact Prog.keeps_forEach frame_wrote fun kv _ => upsertProcessInstanceMetadata_wrote hA _ _ _ _ _ _

theorem prepareCommittedProcessInstance_wrote (hA : A .elsewhere) (tenantId : TenantId) (definitionId : Nat)
    (modelIdentifier : String) (args : StartArgs) :
    (prepareCommittedProcessInstance env tenantId definitionId modelIdentifier args).Keeps (Wrote env A) := by
  refine Prog.keeps_bind frame_wrote (Prog.keeps_attempt frame_wrote ?_ fun e => ?_) fun found => ?_
  · refine Prog.keeps_bind frame_wrote (wrote_of_readOnly (loadProcessDefinition_readOnly _ _)) fun committed => ?_
    exact Prog.keeps_bind frame_wrote (wrote_of_readOnly (ensureUserBelongsToTenant_readOnly _ _)) fun _ => pure_wrote _
  · split
    · exact pure_wrote _
    · exact raise_wrote _
  · cases found with
    | none => exact pure_wrote _
    | some committed =>
      exact Prog.keeps_bind frame_wrote (prepareProcessInstanceInSession_wrote hA _ _ _ _) fun _ => pure_wrote _

theorem buildInstanceWorkflow_wrote (hA : A .elsewhere) (hsync : ∀ id, A (.sync id)) (tenantId : TenantId) (pi : ProcessInstance)
    (request : BuildRequest) (occurredAt : Time) :
    (buildInstanceWorkflow env tenantId pi request occurredAt).Keeps (Wrote env A) := by
  refine Prog.keeps_bind frame_wrote (ask_wrote _) fun built => ?_
  refine Prog.keeps_bind frame_wrote (ofExcept_wrote _) fun w => ?_
  refine Prog.keeps_bind frame_wrote ?_ fun _ => ?_
  · unfold seedRuntimeDefinitions
    split
    · exact raise_wrote _
    · exact syncProcessDefinitionFromWorkflow_wrote hA hsync _ _ _
  · exact Prog.keeps_bind frame_wrote (wrote_of_readOnly (loadProcessInstanceMetadataPayload_readOnly _ _)) fun _ => pure_wrote _

theorem finalizeInitializedWorkflow_wrote (hA : Saves A pi.id occurredAt) (tenantId : TenantId) (w : W) :
    (finalizeInitializedWorkflow env tenantId pi w occurredAt).Keeps (Wrote env A) := by
  refine Prog.keeps_bind frame_wrote (saveWorkflow_wrote hA w true) fun _ => ?_
  refine Prog.keeps_bind frame_wrote (query_wrote _) fun readyGuid => ?_
  exact recordProcessInstanceEvent_wrote hA.elsewhere _ _ _ _ _ _

end
end M8flowCore
