import M8flowCore.Starts
/-!
# The moves of operations

Every operation that returns is a sequence of moves, and each of its moves has
one of the causes the operation stands for.
-/
open M8flowCore.Lib M8flowCore.Session

namespace M8flowCore

section
variable {W Ω α : Type} {env : Env W Ω} {F : Focus} {L : List Touch} {s s' : Tx Ω} {tenantId : TenantId}

/-! ## What does not move an instance -/

theorem aside_of_touches {m : M Ω α} (hL : L ⊆ aside) (h : Touches (Change env F) L m) : m.Keeps Aside :=
  fun s => aside_of_steps hL (h s)

theorem write_aside {f : Db → Db} (h : ∀ db, (f db).processInstances = db.processInstances ∧
    (f db).workItems = db.workItems ∧ (f db).events = db.events) : (write (Ω := Ω) f).Keeps Aside :=
  fun s => ⟨(h s.view).1, (h s.view).2.1, (h s.view).2.2, rfl, rfl, le_refl _⟩

theorem insert_aside {f : Nat → Db → Db} (h : ∀ id db, (f id db).processInstances = db.processInstances ∧
    (f id db).workItems = db.workItems ∧ (f id db).events = db.events) : (Session.insert (Ω := Ω) f).Keeps Aside :=
  fun s => ⟨(h s.seq s.view).1, (h s.seq s.view).2.1, (h s.seq s.view).2.2, rfl, rfl, Nat.le_succ _⟩

theorem query_aside (f : Db → α) : (query (Ω := Ω) f).Keeps Aside := Prog.keeps_gets frame_aside _

theorem ofExcept_aside (r : Except Error α) : (ofExcept (Ω := Ω) r).Keeps Aside := (ofExcept_readOnly r).keeps frame_aside

theorem resolveTimestamp_aside (env : Env W Ω) (t : Option Time) : (resolveTimestamp env t).Keeps Aside :=
  Prog.keeps_gets frame_aside _

theorem upsertSchedulerJob_aside (tenantId : TenantId) (jobKey : String) (v : JobValues) (occurredAt : Time)
    (createdAt : Option Time) : (upsertSchedulerJob (Ω := Ω) tenantId jobKey v occurredAt createdAt).Keeps Aside := by
  refine Prog.keeps_bind frame_aside (query_aside _) fun found => ?_
  cases found with
  | none =>
    exact Prog.keeps_bind frame_aside (insert_aside fun _ _ => ⟨rfl, rfl, rfl⟩) fun _ => Prog.keeps_pure frame_aside _
  | some job => exact write_aside fun _ => ⟨rfl, rfl, rfl⟩

theorem orRaised_aside (r : Option Error × W) : (orRaised (Ω := Ω) r).Keeps Aside := (orRaised_readOnly r).keeps frame_aside

/-- Collecting the timer start events asks the engine and writes nothing. -/
theorem collectTimerStartPayloadsForDefinition_keeps {R : Tx Ω → Tx Ω → Prop} (hR : Prog.Frame R)
    (hask : ∀ (s : Tx Ω) (world : Ω), R s { s with world := world }) (definition : BpmnProcessDefinition) :
    (collectTimerStartPayloadsForDefinition env definition).Keeps R := by
  unfold collectTimerStartPayloadsForDefinition
  split
  · exact Prog.keeps_pure hR _
  · refine Prog.keeps_bind hR ((ofExcept_readOnly _).keeps hR) fun hasTimerStart => ?_
    split
    · exact Prog.keeps_pure hR _
    · refine Prog.keeps_bind hR (fun s => hask s _) fun built => ?_
      refine Prog.keeps_bind hR ((ofExcept_readOnly _).keeps hR) fun w => ?_
      refine Prog.keeps_bind hR (fun s => hask s _) fun ran => ?_
      exact Prog.keeps_bind hR ((orRaised_readOnly _).keeps hR) fun w => (ofExcept_readOnly _).keeps hR

theorem scheduleTimerStart_aside (definitionId : Nat) (tenantId : TenantId) (occurredAt : Time) (p : TimerPayload) :
    (scheduleTimerStart (Ω := Ω) definitionId tenantId occurredAt p).Keeps Aside := by
  unfold scheduleTimerStart
  dsimp only
  split
  · exact Prog.keeps_raise frame_aside _
  · refine Prog.keeps_bind frame_aside (ofExcept_aside _) fun jobKey => ?_
    exact Prog.keeps_bind frame_aside (upsertSchedulerJob_aside _ _ _ _ _) fun _ => Prog.keeps_pure frame_aside _

theorem syncTimerStartSchedulerJobs_aside (env : Env W Ω) (definitionId : Nat) (tenantId : TenantId) (occurredAt : Time) :
    (syncTimerStartSchedulerJobs env definitionId tenantId occurredAt).Keeps Aside := by
  refine Prog.keeps_bind frame_aside (query_aside _) fun found => ?_
  refine Prog.keeps_bind frame_aside (Prog.keeps_orRaise frame_aside _ _) fun definition => ?_
  refine Prog.keeps_bind frame_aside (collectTimerStartPayloadsForDefinition_keeps frame_aside world_aside _) fun payloads => ?_
  refine Prog.keeps_bind frame_aside (Prog.keeps_mapEach frame_aside fun p _ => ?_) fun expected => ?_
  · exact scheduleTimerStart_aside _ _ _ _
  · exact write_aside fun _ => ⟨rfl, rfl, rfl⟩

theorem ensureBpmnVersionSnapshot_aside (env : Env W Ω) (tenantId : TenantId) (modelIdentifier bpmnXml : String)
    (occurredAt : Time) : (ensureBpmnVersionSnapshot env tenantId modelIdentifier bpmnXml occurredAt).Keeps Aside :=
  aside_of_touches (F := ⟨tenantId, 0, none, fun _ => True⟩) (by decide)
    (ensureBpmnVersionSnapshot_touches _ _ _ _ (List.Subset.refl _))

theorem enrollDefinitionLaneOwners_aside (env : Env W Ω) (tenantId : TenantId) (propertiesJson : Dict) :
    (enrollDefinitionLaneOwners env tenantId propertiesJson).Keeps Aside := by
  refine Prog.keeps_bind frame_aside (query_aside _) fun ownersByLane => ?_
  refine Prog.keeps_bind frame_aside ?_ fun _ => Prog.keeps_pure frame_aside _
  exact aside_of_touches (F := ⟨tenantId, 0, none, fun _ => True⟩) (by decide)
    (enrollLaneOwners_touches _ _ (List.Subset.refl _))

/-- An import moves no instance. -/
theorem importBpmnProcessDefinition_aside (env : Env W Ω) (tenantId : TenantId) (userId : Nat) (args : ImportArgs) :
    (importBpmnProcessDefinition env tenantId userId args).Keeps Aside := by
  unfold importBpmnProcessDefinition
  refine Prog.keeps_bind frame_aside ((ensureUserBelongsToTenant_readOnly _ _).keeps frame_aside) fun _ => ?_
  refine Prog.keeps_bind frame_aside ((requireCommandAuthorization_readOnly _ _ _ _ _ _ _).keeps frame_aside) fun _ => ?_
  refine Prog.keeps_bind frame_aside (ofExcept_aside _) fun _ => ?_
  refine Prog.keeps_bind frame_aside (ofExcept_aside _) fun processIdentifier => ?_
  refine Prog.keeps_bind frame_aside (query_aside _) fun existing => ?_
  refine Prog.keeps_bind frame_aside (ofExcept_aside _) fun laneNames => ?_
  refine Prog.keeps_bind frame_aside (ofExcept_aside _) fun _ => ?_
  have hrest : ∀ id : Nat, Prog.Keeps Aside (do
      let timestamp ← resolveTimestamp env (args.updatedAt.orElse fun _ => args.createdAt)
      let _ ← ensureBpmnVersionSnapshot env tenantId args.bpmnIdentifier args.sourceBpmnXml timestamp
      syncTimerStartSchedulerJobs env id tenantId timestamp
      enrollDefinitionLaneOwners env tenantId (args.propertiesJson.getD ((existing.map (·.propertiesJson)).getD []))
      pure id) := fun id =>
    Prog.keeps_bind frame_aside (resolveTimestamp_aside env _) fun timestamp =>
      Prog.keeps_bind frame_aside (ensureBpmnVersionSnapshot_aside env _ _ _ _) fun _ =>
        Prog.keeps_bind frame_aside (syncTimerStartSchedulerJobs_aside env _ _ _) fun _ =>
          Prog.keeps_bind frame_aside (enrollDefinitionLaneOwners_aside env _ _) fun _ => Prog.keeps_pure frame_aside _
  cases existing with
  | some d =>
    exact Prog.keeps_bind frame_aside (write_aside fun _ => ⟨rfl, rfl, rfl⟩) fun _ =>
      Prog.keeps_bind frame_aside (Prog.keeps_pure frame_aside _) hrest
  | none => exact Prog.keeps_bind frame_aside (insert_aside fun _ _ => ⟨rfl, rfl, rfl⟩) hrest

theorem upsertProcessInstanceMetadata_aside (env : Env W Ω) (tenantId : TenantId) (processInstanceId : Nat)
    (key value : String) (updatedAt : Time) (createdAt : Option Time) :
    (upsertProcessInstanceMetadata (Ω := Ω) tenantId processInstanceId key value updatedAt createdAt).Keeps Aside := by
  have htouches : Touches (Change env ⟨tenantId, 0, none, fun _ => True⟩) [.seq, .shared]
      (upsertProcessInstanceMetadata tenantId processInstanceId key value updatedAt createdAt) :=
    upsertProcessInstanceMetadata_touches _ _ _ _ _ _ (List.Subset.refl _)
  exact aside_of_touches (by decide) htouches

theorem assignPendingTasksForUser_aside (tenantId : TenantId) (userId : Nat) :
    (assignPendingTasksForUser (Ω := Ω) tenantId userId).Keeps Aside := by
  refine Prog.keeps_bind frame_aside ((ensureUserBelongsToTenant_readOnly _ _).keeps frame_aside) fun _ => ?_
  refine Prog.keeps_bind frame_aside (query_aside _) fun items => ?_
  exact Prog.keeps_bind frame_aside (write_aside fun _ => ⟨rfl, rfl, rfl⟩) fun _ => Prog.keeps_pure frame_aside _

/-! ## Commands -/

/-- A claim shows in no life. -/
theorem claimTask_moved {workItemId userId : Nat} {C : Cause → Prop} {i : Nat} (hfiled : Filed s.seq s.view)
    (h : (claimTask env tenantId workItemId userId).run s = (.ok (), s')) : Moved C i s s' := by
  unfold claimTask at h
  obtain ⟨item, s₁, hchecks, h₁⟩ := Prog.bind_ok.1 h
  obtain rfl := (claimTaskChecks_readOnly env _ _ _).state hchecks
  rw [claimTaskUpdate_run] at h₁
  split at h₁
  · obtain ⟨-, rfl⟩ := Prod.mk.inj h₁
    have hlife : ∀ j, (s₁.view.claimWrites tenantId userId item (env.now s₁.world)).life j = s₁.view.life j := by
      intro j
      refine Db.life_congr ?_ rfl (any_updateWhere fun _ _ => rfl)
      unfold Db.claimWrites
      rw [processInstance?_updateInstance (by intro _; rfl), Option.map_map]
      refine congrArg (Option.map · _) (funext fun p => ?_)
      simp only [Function.comp_apply]
      split <;> rfl
    refine ⟨?_, fun j _ => hlife j, rfl, rfl, ?_, le_refl _⟩
    · rw [hlife]
      exact .refl _
    · exact hfiled.same (map_updateWhere (by intro _; rfl)) (map_updateWhere (by intro _; rfl)) rfl
  · simp at h₁

theorem createProcessInstance_travels (hs : Serial s) {new : NewProcessInstance} {id : Nat}
    (h : (createProcessInstance env tenantId new).run s = (.ok id, s')) :
    Travels (fun j c => j = id ∧ c = .create) s s' := by
  have hmember : s.view.isMember tenantId new.processInitiatorId = true := by
    unfold createProcessInstance at h
    obtain ⟨_, s₁, hmember, -⟩ := Prog.bind_ok.1 h
    exact (ensureUserBelongsToTenant_ok.1 hmember).2.1
  rw [createProcessInstance_run env hmember, Prod.mk.injEq, Except.ok.injEq] at h
  obtain ⟨rfl, rfl⟩ := h
  refine Added.travels hs rfl (?_ : Added tenantId _ _ _) (le_refl _) (Nat.lt_succ_self _) hs.current ?_
  · exact ⟨⟨_, rfl, rfl, rfl, rfl⟩, rfl, rfl⟩
  · exact hs.committed.mono (Nat.le_succ _)

theorem recordEventCommand_moved (hfiled : Filed s.seq s.view) {processInstanceId : Nat} {eventType : Option EventType}
    {taskGuid : Option Guid} {userId : Option Nat} {occurredAt : Option Time}
    (h : (recordEventCommand env tenantId processInstanceId eventType taskGuid userId occurredAt).run s = (.ok (), s')) :
    Moved (· = .record) processInstanceId s s' := by
  unfold recordEventCommand at h
  simp only [resolveTimestamp, Prog.gets_bind_run] at h
  cases eventType with
  | none =>
    dsimp only at h
    cases userId with
    | none =>
      obtain ⟨_, s₁, -, h₁⟩ := Prog.bind_ok.1 h
      simp at h₁
    | some userId =>
      obtain ⟨_, s₁, -, h₁⟩ := Prog.bind_ok.1 h
      obtain ⟨_, s₂, -, h₂⟩ := Prog.bind_ok.1 h₁
      simp at h₂
  | some eventType =>
    refine (recordProcessInstanceEvent_within env hfiled h).moved ?_
    rw [recordProcessInstanceEvent_life h]
    split
    · cases s.view.life processInstanceId with
      | none => exact .refl _
      | some l => exact .one (C := (· = .record)) rfl (.record l eventType)
    · exact .refl _

/-- Why a command that returns may change the life of instance `j`. -/
def Command.causes (j : Nat) (c : Cause) : Command → Prop
  | .claimTask .. | .importDefinition .. | .upsertMetadata .. | .scheduleRetry .. => False
  | .completeTask .. => c = .complete ∨ c = .item
  | .recordEvent _ i _ _ _ _ => j = i ∧ c = .record
  | .createProcessInstance .. => c = .create
  | .initializeFromDefinition .. => c = .create ∨ c = .start
  | .initializeWorkflow _ i _ _ => j = i ∧ c = .start
  | .suspend _ i _ _ => j = i ∧ c = .suspend
  | .resume _ i _ _ => j = i ∧ c = .resume
  | .error _ i _ _ => j = i ∧ c = .error
  | .retry _ i _ _ => j = i ∧ c = .retry
  | .terminate _ i _ _ => j = i ∧ c = .terminate

theorem executeCommand_travels (hlaw : env.Lawful) (hs : Serial s) {c : Command}
    (h : (executeCommand env c).run s = (.ok (), s')) : Travels (fun j cause => c.causes j cause) s s' := by
  cases c with
  | claimTask tenantId workItemId userId =>
    exact ((claimTask_moved (C := fun _ => False) (i := 0) hs.view h).travels hs).mono fun _ _ h => h.2
  | completeTask tenantId workItemId userId completedAt payload =>
    obtain ⟨i, hmoved⟩ := completeTask_moved hlaw hs.view h
    exact (hmoved.travels hs).mono fun _ _ h => h.2
  | recordEvent tenantId processInstanceId eventType taskGuid userId occurredAt =>
    exact (recordEventCommand_moved hs.view h).travels hs
  | createProcessInstance tenantId new =>
    obtain ⟨id, s₁, hcreate, h₁⟩ := Prog.bind_ok.1 h
    obtain ⟨-, rfl⟩ := Prog.pure_ok.1 h₁
    exact (createProcessInstance_travels hs hcreate).mono fun _ _ h => h.2
  | importDefinition tenantId userId args =>
    obtain ⟨id, s₁, himport, h₁⟩ := Prog.bind_ok.1 h
    obtain ⟨-, rfl⟩ := Prog.pure_ok.1 h₁
    exact ((importBpmnProcessDefinition_aside env _ _ _).of_ok himport).travels hs
  | initializeFromDefinition tenantId definitionId args resolver =>
    exact initializeProcessInstanceFromDefinition_travels hlaw hs h
  | initializeWorkflow tenantId processInstanceId source startedAt =>
    exact (initializeProcessInstanceWorkflow_moved hlaw hs.view h).travels hs
  | upsertMetadata tenantId processInstanceId key value updatedAt createdAt =>
    exact ((upsertProcessInstanceMetadata_aside env _ _ _ _ _ _).of_ok h).travels hs
  | suspend tenantId processInstanceId userId at_ => exact (suspendProcessInstance_moved hs.view h).travels hs
  | resume tenantId processInstanceId userId at_ => exact (resumeProcessInstance_moved hs.view h).travels hs
  | error tenantId processInstanceId userId at_ =>
    exact (errorProcessInstance_moved env hs.view h).travels hs
  | retry tenantId processInstanceId userId at_ => exact (retryProcessInstance_moved hlaw hs.view h).travels hs
  | scheduleRetry tenantId processInstanceId userId retryAt at_ =>
    have hmoved := scheduleProcessInstanceRetry_moved (C := fun _ => False) hs.view h
    exact (hmoved.travels hs).mono fun _ _ h => h.2
  | terminate tenantId processInstanceId userId at_ => exact (terminateProcessInstance_moved env hs.view h).travels hs

/-! ## Scheduler passes -/

theorem upsertTimerStartUser_aside (tenant : Tenant) (occurredAt : Time) :
    (upsertTimerStartUser (Ω := Ω) tenant occurredAt).Keeps Aside := by
  refine Prog.keeps_bind frame_aside (query_aside _) fun found => ?_
  cases found with
  | none =>
    exact Prog.keeps_bind frame_aside (insert_aside fun _ _ => ⟨rfl, rfl, rfl⟩) fun _ => Prog.keeps_pure frame_aside _
  | some user =>
    exact Prog.keeps_bind frame_aside (write_aside fun _ => ⟨rfl, rfl, rfl⟩) fun _ => Prog.keeps_pure frame_aside _

theorem ensureTimerStartSystemUser_aside (tenantId : TenantId) (occurredAt : Time) :
    (ensureTimerStartSystemUser (Ω := Ω) tenantId occurredAt).Keeps Aside := by
  refine Prog.keeps_bind frame_aside (query_aside _) fun found => ?_
  refine Prog.keeps_bind frame_aside (Prog.keeps_orRaise frame_aside _ _) fun tenant => ?_
  refine Prog.keeps_bind frame_aside (upsertTimerStartUser_aside _ _) fun user => ?_
  refine Prog.keeps_bind frame_aside ?_ fun _ => Prog.keeps_pure frame_aside _
  refine ensureV1Role_keeps frame_aside (fun s => ⟨rfl, rfl, rfl, rfl, rfl, Nat.le_succ _⟩) (fun s g a p t q => ?_) _ _ _
  exact ⟨rfl, rfl, rfl, rfl, rfl, le_refl _⟩

theorem rescheduleOrDeleteTimerStartJob_aside (env : Env W Ω) (job : SchedulerJob) (timerTask : Dict) (occurredAt : Time) :
    (rescheduleOrDeleteTimerStartJob env job timerTask occurredAt).Keeps Aside := by
  refine Prog.keeps_bind frame_aside (ofExcept_aside _) fun next => ?_
  cases next with
  | none => exact deleteSchedulerJob_aside _ _
  | some entry => exact upsertSchedulerJob_aside _ _ _ _ _

/-- Why a job that returns may change the life of instance `j`. -/
def SchedulerJob.causes (job : SchedulerJob) (j : Nat) (c : Cause) : Prop :=
  match job.jobType with
  | .intermediateTimer => job.processInstanceId = some j ∧ c = .wake
  | .processRetry => job.processInstanceId = some j ∧ c = .retry
  | .timerStart => c = .create ∨ c = .start

theorem executeIntermediateTimerJob_travels (hlaw : env.Lawful) (hs : Serial s) {job : SchedulerJob} {occurredAt : Time}
    (h : (executeIntermediateTimerJob env job occurredAt).run s = (.ok (), s')) :
    Travels (fun j c => job.processInstanceId = some j ∧ c = .wake) s s' := by
  unfold executeIntermediateTimerJob at h
  cases hinstance : job.processInstanceId with
  | none =>
    simp only [hinstance] at h
    exact ((deleteSchedulerJob_aside _ _).of_ok h).travels hs
  | some processInstanceId =>
    simp only [hinstance] at h
    obtain ⟨pi, s₁, hload, h₁⟩ := Prog.bind_ok.1 h
    obtain ⟨rfl, -⟩ := loadProcessInstance_ok hload
    split at h₁
    · simp only [query, Prog.gets_bind_run] at h₁
      split at h₁
      · exact ((deleteSchedulerJob_aside _ _).of_ok h₁).travels hs
      · refine ((refreshWaitingProcessInstanceWorkflow_moved hlaw hs.view h₁).travels hs).mono ?_
        rintro j c ⟨rfl, rfl⟩
        exact ⟨rfl, rfl⟩
    · exact ((deleteSchedulerJob_aside _ _).of_ok h₁).travels hs

theorem executeProcessRetryJob_travels (hlaw : env.Lawful) (hs : Serial s) {job : SchedulerJob} {occurredAt : Time}
    (h : (executeProcessRetryJob env job occurredAt).run s = (.ok (), s')) :
    Travels (fun j c => job.processInstanceId = some j ∧ c = .retry) s s' := by
  unfold executeProcessRetryJob at h
  cases hinstance : job.processInstanceId with
  | none =>
    simp only [hinstance] at h
    exact ((deleteSchedulerJob_aside _ _).of_ok h).travels hs
  | some processInstanceId =>
    simp only [hinstance] at h
    obtain ⟨pi, s₁, hload, h₁⟩ := Prog.bind_ok.1 h
    obtain ⟨rfl, -⟩ := loadProcessInstance_ok hload
    split at h₁
    · obtain ⟨userId, s₂, huser, hretry⟩ := Prog.bind_ok.1 h₁
      obtain ⟨-, rfl⟩ := ofExcept_ok huser
      refine ((retryProcessInstance_moved hlaw hs.view hretry).travels hs).mono ?_
      rintro j c ⟨rfl, rfl⟩
      exact ⟨rfl, rfl⟩
    · exact ((deleteSchedulerJob_aside _ _).of_ok h₁).travels hs

theorem executeTimerStartJob_travels (hlaw : env.Lawful) (hs : Serial s) {job : SchedulerJob} {occurredAt : Time}
    (h : (executeTimerStartJob env job occurredAt).run s = (.ok (), s')) :
    Travels (fun _ c => c = .create ∨ c = .start) s s' := by
  unfold executeTimerStartJob at h
  cases hdefinition : job.bpmnProcessDefinitionId with
  | none =>
    simp only [hdefinition] at h
    exact ((deleteSchedulerJob_aside _ _).of_ok h).travels hs
  | some definitionId =>
    simp only [hdefinition, query, Prog.gets_bind_run] at h
    split at h
    · exact ((deleteSchedulerJob_aside _ _).of_ok h).travels hs
    · obtain ⟨timerTask, s₁, htask, h₁⟩ := Prog.bind_ok.1 h
      obtain ⟨-, rfl⟩ := ofExcept_ok htask
      obtain ⟨user, s₂, huser, h₂⟩ := Prog.bind_ok.1 h₁
      obtain ⟨specName, s₃, hspec, h₃⟩ := Prog.bind_ok.1 h₂
      obtain ⟨-, rfl⟩ := ofExcept_ok hspec
      obtain ⟨_, s₄, hstart, hnext⟩ := Prog.bind_ok.1 h₃
      have huser := ((ensureTimerStartSystemUser_aside _ _).of_ok huser).travels (C := fun _ c => c = .create ∨ c = .start) hs
      have hstart := initializeProcessInstanceFromTimerStart_travels hlaw huser.serial hstart
      exact (huser.trans hstart).trans
        (((rescheduleOrDeleteTimerStartJob_aside env _ _ _).of_ok hnext).travels hstart.serial)

theorem executeClaimedSchedulerJob_travels (hlaw : env.Lawful) (hs : Serial s) {job : SchedulerJob} {occurredAt : Time}
    (h : (executeClaimedSchedulerJob env job occurredAt).run s = (.ok (), s')) :
    Travels (fun j c => job.causes j c) s s' := by
  unfold executeClaimedSchedulerJob at h
  unfold SchedulerJob.causes
  cases hjob : job.jobType with
  | intermediateTimer =>
    rw [hjob] at h
    exact executeIntermediateTimerJob_travels hlaw hs h
  | processRetry =>
    rw [hjob] at h
    exact executeProcessRetryJob_travels hlaw hs h
  | timerStart =>
    rw [hjob] at h
    exact executeTimerStartJob_travels hlaw hs h

/-- A program whose handler leaves an outcome returned if there is none. -/
theorem attempt_none {m : M Ω Unit} {g : Error → M Ω Unit} {e : Error → String × Error}
    (h : (Prog.attempt (do m; pure none) fun x => do g x; pure (some (e x))).run s = (.ok none, s')) :
    m.run s = (.ok (), s') := by
  rw [Prog.attempt_run] at h
  split at h
  · rename_i a s₁ hrun
    obtain ⟨_, s₂, hexecute, h₂⟩ := Prog.bind_ok.1 hrun
    obtain ⟨-, rfl⟩ := Prog.pure_ok.1 h₂
    obtain ⟨-, rfl⟩ := Prod.mk.inj h
    exact hexecute
  · obtain ⟨_, s₂, -, h₂⟩ := Prog.bind_ok.1 h
    simp at h₂

theorem attemptSchedulerJob_none {job : SchedulerJob} {occurredAt : Time}
    (h : (attemptSchedulerJob env occurredAt job).run s = (.ok none, s')) :
    (executeClaimedSchedulerJob env job occurredAt).run s = (.ok (), s') := attempt_none h

/-- A batch without errors ran its jobs one after the other. -/
theorem mapEach_travels {C : Nat → Cause → Prop} {g : SchedulerJob → M Ω (Option (String × Error))}
    {jobs : List SchedulerJob}
    (hjob : ∀ job ∈ jobs, ∀ {s s' : Tx Ω}, Serial s → (g job).run s = (.ok none, s') → Travels C s s') (hs : Serial s)
    {outcomes : List (Option (String × Error))} (h : (Prog.mapEach jobs g).run s = (.ok outcomes, s'))
    (hnone : outcomes.filterMap id = []) : Travels C s s' := by
  induction jobs generalizing s outcomes with
  | nil =>
    obtain ⟨-, rfl⟩ := Prog.pure_ok.1 h
    exact .refl hs
  | cons job jobs ih =>
    rw [Prog.mapEach_cons] at h
    obtain ⟨outcome, s₁, hfirst, h₁⟩ := Prog.bind_ok.1 h
    obtain ⟨rest, s₂, hrest, h₂⟩ := Prog.bind_ok.1 h₁
    obtain ⟨rfl, rfl⟩ := Prog.pure_ok.1 h₂
    cases outcome with
    | some e => simp at hnone
    | none =>
      have htravels := hjob job (by simp) hs hfirst
      exact htravels.trans (ih (fun job' hjob' => hjob job' (by simp [hjob'])) htravels.serial hrest hnone)

/-- What a pass does before it runs its jobs. -/
theorem claimDueSchedulerJobs_ok {now : Time} {limit : Int} {workerId : String} {tenant : Option TenantId}
    {jobs : List SchedulerJob} (h : (claimDueSchedulerJobs now limit workerId tenant).run s = (.ok jobs, s')) :
    jobs = dueSchedulerJobs s.view now limit.toNat tenant ∧ Aside s s' := by
  unfold claimDueSchedulerJobs at h
  split at h
  · simp at h
  · obtain ⟨found, s₁, hlist, h₁⟩ := Prog.bind_ok.1 h
    unfold listDueSchedulerJobs at hlist
    split at hlist
    · simp at hlist
    · obtain ⟨rfl, rfl⟩ := Prog.gets_ok.1 hlist
      obtain ⟨_, s₂, hwrite, h₂⟩ := Prog.bind_ok.1 h₁
      obtain ⟨rfl, rfl⟩ := Prog.pure_ok.1 h₂
      refine ⟨rfl, Prog.Keeps.of_ok ?_ hwrite⟩
      exact write_aside fun _ => ⟨rfl, rfl, rfl⟩

theorem runDueSchedulerJobs_travels (hlaw : env.Lawful) (hs : Serial s) {now : Option Time} {limit : Int}
    {workerId : String} {tenant : Option TenantId} {count : Nat}
    (h : (runDueSchedulerJobs env now limit workerId tenant).run s = (.ok count, s')) :
    ∃ t, (∀ t', now = some t' → t = t') ∧ Travels (fun j c =>
      ∃ job ∈ dueSchedulerJobs s.view t limit.toNat tenant, job.causes j c) s s' := by
  unfold runDueSchedulerJobs at h
  simp only [resolveTimestamp, Prog.gets_bind_run] at h
  obtain ⟨jobs, s₁, hclaim, h₁⟩ := Prog.bind_ok.1 h
  obtain ⟨rfl, haside⟩ := claimDueSchedulerJobs_ok hclaim
  obtain ⟨outcomes, s₂, hjobs, h₂⟩ := Prog.bind_ok.1 h₁
  refine ⟨now.getD (env.now s.world), by rintro t' rfl; rfl, ?_⟩
  have hclaimed := haside.travels hs
    (C := fun j c => ∃ job ∈ dueSchedulerJobs s.view (now.getD (env.now s.world)) limit.toNat tenant, job.causes j c)
  split at h₂
  · rename_i hnone
    obtain ⟨-, rfl⟩ := Prog.pure_ok.1 h₂
    refine hclaimed.trans (mapEach_travels (fun job hjob _ _ hs hrun => ?_) hclaimed.serial hjobs hnone)
    exact (executeClaimedSchedulerJob_travels hlaw hs (attemptSchedulerJob_none hrun)).mono fun j c hc => ⟨job, hjob, hc⟩
  · simp at h₂
  · simp at h₂

/-- Why an operation that returns may change the life of instance `j`. A pass
may for the jobs that are due at its time. -/
def Operation.causes (db : Db) (j : Nat) (c : Cause) : Operation → Prop
  | .command cmd => cmd.causes j c
  | .advance _ i _ _ => j = i ∧ c = .advance
  | .assignPendingTasks .. => False
  | .runDueJobs now limit _ tenant =>
    ∃ t, (∀ t', now = some t' → t = t') ∧ ∃ job ∈ dueSchedulerJobs db t limit.toNat tenant, job.causes j c

theorem Operation.travels (hlaw : env.Lawful) (hs : Serial s) {op : Operation} (h : (op.run env).run s = (.ok (), s')) :
    Travels (fun j c => op.causes s.view j c) s s' := by
  cases op with
  | command c => exact executeCommand_travels hlaw hs h
  | advance tenantId processInstanceId guid completedAt =>
    exact (advanceProcessInstanceWorkflow_moved hlaw hs.view h).travels hs
  | assignPendingTasks tenantId userId =>
    obtain ⟨items, s₁, hassign, h₁⟩ := Prog.bind_ok.1 h
    obtain ⟨-, rfl⟩ := Prog.pure_ok.1 h₁
    exact ((assignPendingTasksForUser_aside _ _).of_ok hassign).travels hs
  | runDueJobs now limit workerId tenant =>
    obtain ⟨count, s₁, hpass, h₁⟩ := Prog.bind_ok.1 h
    obtain ⟨-, rfl⟩ := Prog.pure_ok.1 h₁
    obtain ⟨t, ht, htravels⟩ := runDueSchedulerJobs_travels hlaw hs hpass
    exact htravels.mono fun j c hc => ⟨t, ht, hc⟩

end
end M8flowCore
