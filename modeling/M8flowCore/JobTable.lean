import M8flowCore.JobMoves
import M8flowCore.Preparing
/-!
# The keys of the job table

However an operation ends, the ids of the jobs are unique, and a tenant has one
job under a key. Sessions of the library's own write no job.
-/
open M8flowCore.Lib M8flowCore.Session

namespace M8flowCore

section
variable {W Ω : Type} {env : Env W Ω} {K : SchedulerJob → Prop}

/-- All jobs may be written. -/
def anyJob (_ : SchedulerJob) : Prop := True

/-- The keys of the job table stay in order. -/
structure KeysKept (s s' : Tx Ω) : Prop where
  seq : s.seq ≤ s'.seq
  standing : s'.committed.schedulerJobs = s.committed.schedulerJobs
  current : s.JobsCurrent → s'.JobsCurrent
  keyed : s.JobsCurrent → JobKeys s.seq s.view.schedulerJobs → JobKeys s'.seq s'.view.schedulerJobs

theorem frame_keys : Prog.Frame (KeysKept (Ω := Ω)) where
  refl _ := ⟨le_refl _, rfl, id, fun _ h => h⟩
  trans h₁ h₂ := ⟨h₁.seq.trans h₂.seq, h₂.standing.trans h₁.standing, fun h => h₂.current (h₁.current h),
    fun h hkeyed => h₂.keyed (h₁.current h) (h₁.keyed h hkeyed)⟩

theorem Jobs.keys {s s' : Tx Ω} (h : Jobs K s s') : KeysKept s s' := ⟨h.seq, h.standing, h.current, h.keyed⟩

theorem keys_of_jobs {α : Type} {m : M Ω α} (h : m.Keeps (Jobs K)) : m.Keeps KeysKept := fun s => (h s).keys

theorem keys_of_readOnly {α : Type} {m : M Ω α} (h : m.ReadOnly) : m.Keeps KeysKept := h.keeps frame_keys

/-- Writing the jobs without their keys, or leaving some out. -/
theorem write_keys {f : Db → Db} (h : ∀ seq (db : Db), JobKeys seq db.schedulerJobs → JobKeys seq (f db).schedulerJobs) :
    (write (Ω := Ω) f).Keeps KeysKept := fun s => ⟨le_refl _, rfl, id, fun _ => h s.seq s.view⟩

variable (env) in
theorem importBpmnProcessDefinition_keys (tenantId : TenantId) (userId : Nat) (args : ImportArgs) :
    (importBpmnProcessDefinition env tenantId userId args).Keeps KeysKept := by
  refine Prog.keeps_bind frame_keys (keys_of_readOnly (ensureUserBelongsToTenant_readOnly _ _)) fun _ => ?_
  refine Prog.keeps_bind frame_keys (keys_of_readOnly (requireCommandAuthorization_readOnly env _ _ _ _ _ _)) fun _ => ?_
  refine Prog.keeps_bind frame_keys (keys_of_readOnly (ofExcept_readOnly _)) fun _ => ?_
  refine Prog.keeps_bind frame_keys (keys_of_readOnly (ofExcept_readOnly _)) fun processIdentifier => ?_
  refine Prog.keeps_bind frame_keys (Prog.keeps_gets frame_keys _) fun existing => ?_
  refine Prog.keeps_bind frame_keys (keys_of_readOnly (ofExcept_readOnly _)) fun laneNames => ?_
  refine Prog.keeps_bind frame_keys (keys_of_readOnly (ofExcept_readOnly _)) fun _ => ?_
  have hschedule : ∀ id timestamp p, (scheduleTimerStart (Ω := Ω) id tenantId timestamp p).Keeps KeysKept := by
    intro id timestamp p
    unfold scheduleTimerStart
    dsimp only
    split
    · exact Prog.keeps_raise frame_keys _
    refine Prog.keeps_bind frame_keys (keys_of_readOnly (ofExcept_readOnly _)) fun jobKey => ?_
    refine Prog.keeps_bind frame_keys ?_ fun _ => Prog.keeps_pure frame_keys _
    exact keys_of_jobs (K := anyJob) (upsertSchedulerJob_moves (fun _ _ => trivial) _ _ _)
  have hsync : ∀ id timestamp, (syncTimerStartSchedulerJobs env id tenantId timestamp).Keeps KeysKept := by
    intro id timestamp
    refine Prog.keeps_bind frame_keys (Prog.keeps_gets frame_keys _) fun found => ?_
    refine Prog.keeps_bind frame_keys (Prog.keeps_orRaise frame_keys _ _) fun definition => ?_
    refine Prog.keeps_bind frame_keys ?_ fun payloads => ?_
    · exact collectTimerStartPayloadsForDefinition_keeps frame_keys (fun _ _ => ⟨le_refl _, rfl, fun h => h, fun _ h => h⟩) _
    refine Prog.keeps_bind frame_keys (Prog.keeps_mapEach frame_keys fun p _ => hschedule _ _ p) fun expected => ?_
    exact write_keys fun _ _ h => h.sublist List.filter_sublist
  have hrest : ∀ id, Prog.Keeps KeysKept (do
      let timestamp ← resolveTimestamp env (args.updatedAt.orElse fun _ => args.createdAt)
      let _ ← ensureBpmnVersionSnapshot env tenantId args.bpmnIdentifier args.sourceBpmnXml timestamp
      syncTimerStartSchedulerJobs env id tenantId timestamp
      enrollDefinitionLaneOwners env tenantId (args.propertiesJson.getD ((existing.map (·.propertiesJson)).getD []))
      pure id) := by
    intro id
    refine Prog.keeps_bind frame_keys (Prog.keeps_gets frame_keys _) fun timestamp => ?_
    refine Prog.keeps_bind frame_keys (keys_of_jobs (K := anyJob) ?_) fun _ => ?_
    · exact jobs_of_touches env (F := .on tenantId 0) (by decide) (ensureBpmnVersionSnapshot_touches _ _ _ _ (List.Subset.refl _))
    refine Prog.keeps_bind frame_keys (hsync _ _) fun _ => ?_
    refine Prog.keeps_bind frame_keys (keys_of_jobs (K := anyJob) ?_) fun _ => Prog.keeps_pure frame_keys _
    refine jobs_of_touches env (F := .on tenantId 0) (L := [.seq, .shared]) (by decide) (.bind (query_touches _) fun owners => ?_)
    exact .bind (enrollLaneOwners_touches _ _ (List.Subset.refl _)) fun _ => .pure _
  cases existing with
  | some d => exact Prog.keeps_bind frame_keys (write_keys fun _ _ h => h) fun _ => hrest d.id
  | none =>
    refine Prog.keeps_bind frame_keys (keys_of_jobs (K := anyJob) ?_) hrest
    exact insert_jobs fun _ _ => rfl

variable (env) in
theorem advanceProcessInstanceWorkflow_jobs (tenantId : TenantId) (i : Nat) (guid : Guid) (completedAt : Option Time) :
    (advanceProcessInstanceWorkflow env tenantId i guid completedAt).Keeps (Jobs anyJob) := by
  have hany : ∀ {pi : ProcessInstance}, ∀ job, instanceJobs pi.m8fTenantId pi.id job → anyJob job := fun _ _ => trivial
  refine Prog.keeps_bind frame_jobs (jobs_of_readOnly (loadProcessInstance_readOnly _ _)) fun pi => ?_
  refine Prog.keeps_bind frame_jobs (query_jobs _) fun state => ?_
  cases state with
  | none => exact pure_jobs _
  | some state =>
    dsimp only
    split
    · exact pure_jobs _
    refine Prog.keeps_bind frame_jobs (resolveTimestamp_jobs env _) fun occurredAt => ?_
    refine Prog.keeps_bind frame_jobs (ofExcept_jobs _) fun w => ?_
    split
    · refine Prog.keeps_bind frame_jobs (jobs_of_readOnly (loadProcessInstanceMetadataPayload_readOnly _ _)) fun metadata => ?_
      refine Prog.keeps_bind frame_jobs (ask_jobs _) fun completed => ?_
      refine Prog.keeps_bind frame_jobs (jobs_of_readOnly (orRaised_readOnly _)) fun w => ?_
      exact Prog.keeps_bind frame_jobs (runWorkflow_jobs hany _ _ _ _) fun w => saveWorkflow_jobs hany _ _ _
    · exact raise_jobs _

variable (env) in
theorem initializeProcessInstanceWorkflow_jobs (tenantId : TenantId) (i : Nat) (source : WorkflowSource) (startedAt : Option Time) :
    (initializeProcessInstanceWorkflow env tenantId i source startedAt).Keeps (Jobs anyJob) := by
  have hany : ∀ {pi : ProcessInstance}, ∀ job, instanceJobs pi.m8fTenantId pi.id job → anyJob job := fun _ _ => trivial
  refine Prog.keeps_bind frame_jobs (jobs_of_readOnly (loadProcessInstance_readOnly _ _)) fun pi => ?_
  split
  · exact raise_jobs _
  refine Prog.keeps_bind frame_jobs (query_jobs _) fun state => ?_
  split
  · exact raise_jobs _
  refine Prog.keeps_bind frame_jobs (resolveTimestamp_jobs env _) fun occurredAt => ?_
  refine Prog.keeps_bind frame_jobs ?_ fun w => ?_
  · exact jobs_of_touches env (F := pi.focus) (by decide) (buildInstanceWorkflow_touches _ _ _ _ (List.Subset.refl _))
  exact Prog.keeps_bind frame_jobs (runWorkflow_jobs hany _ _ _ _) fun w => finalizeInitializedWorkflow_jobs hany _ _ _

variable (env) in
theorem executeCommand_jobs (c : Command) (hc : ∀ tenantId userId args, c ≠ .importDefinition tenantId userId args) :
    (executeCommand env c).Keeps (Jobs anyJob) := by
  have hany : ∀ {tenantId : TenantId} {i : Nat}, ∀ job, instanceJobs tenantId i job → anyJob job := fun _ _ => trivial
  cases c with
  | claimTask tenantId workItemId userId =>
    refine Prog.keeps_bind frame_jobs (jobs_of_readOnly (claimTaskChecks_readOnly env _ _ _)) fun item s => ?_
    rw [claimTaskUpdate_run]
    split
    · exact .same (le_refl _) rfl id fun _ => rfl
    · exact .same (le_refl _) rfl id fun _ => rfl
  | completeTask tenantId workItemId userId completedAt payload =>
    refine Prog.keeps_bind frame_jobs (jobs_of_readOnly (completeTaskChecks_readOnly env _ _ _)) fun item => ?_
    refine Prog.keeps_bind frame_jobs (resolveTimestamp_jobs env _) fun completedAt => ?_
    refine Prog.keeps_bind frame_jobs ?_ fun _ => Prog.keeps_bind frame_jobs (write_jobs fun _ => rfl) fun _ => ?_
    · exact jobs_of_touches env (F := .on tenantId item.processInstanceId) (by decide)
        (persistTaskPayload_touches _ _ _ _ (List.Subset.refl _))
    refine Prog.keeps_bind frame_jobs (query_jobs _) fun state => ?_
    cases state with
    | none => exact pure_jobs _
    | some state =>
      refine Prog.keeps_bind frame_jobs (advanceProcessInstanceWorkflow_jobs env _ _ _ _) fun _ => ?_
      refine Prog.keeps_bind frame_jobs (recordProcessInstanceEvent_jobs env _ _ _ _ _ _) fun _ => ?_
      refine Prog.keeps_bind frame_jobs (query_jobs _) fun status => ?_
      split
      · exact recordProcessInstanceEvent_jobs env _ _ _ _ _ _
      · exact pure_jobs _
  | recordEvent tenantId i eventType taskGuid userId occurredAt =>
    refine Prog.keeps_bind frame_jobs (resolveTimestamp_jobs env _) fun occurredAt => ?_
    cases eventType with
    | some eventType => exact recordProcessInstanceEvent_jobs env _ _ _ _ _ _
    | none =>
      have hload : Prog.Keeps (Jobs anyJob) (do
          let _ ← loadProcessInstance tenantId i
          Prog.raise (.validation "Invalid process instance event type") : M Ω Unit) :=
        Prog.keeps_bind frame_jobs (jobs_of_readOnly (loadProcessInstance_readOnly _ _)) fun _ => raise_jobs _
      cases userId with
      | none => exact hload
      | some userId =>
        exact Prog.keeps_bind frame_jobs (jobs_of_readOnly (ensureUserBelongsToTenant_readOnly _ _)) fun _ => hload
  | createProcessInstance tenantId new =>
    refine Prog.keeps_bind frame_jobs ?_ fun _ => pure_jobs _
    refine Prog.keeps_bind frame_jobs (jobs_of_readOnly (ensureUserBelongsToTenant_readOnly _ _)) fun _ => ?_
    exact Prog.keeps_bind frame_jobs (resolveTimestamp_jobs env _) fun _ => insert_jobs fun _ _ => rfl
  | importDefinition tenantId userId args => exact absurd rfl (hc tenantId userId args)
  | initializeFromDefinition tenantId definitionId args resolver =>
    refine Prog.keeps_bind frame_jobs (jobs_of_readOnly (ensureUserBelongsToTenant_readOnly _ _)) fun _ => ?_
    refine Prog.keeps_bind frame_jobs (jobs_of_readOnly (loadProcessDefinition_readOnly _ _)) fun definition => ?_
    refine Prog.keeps_bind frame_jobs (jobs_of_readOnly (requireCommandAuthorization_readOnly _ _ _ _ _ _ _)) fun _ => ?_
    exact Prog.keeps_bind frame_jobs (prepareProcessInstance_jobs env _ _ _ _) fun _ =>
      initializeProcessInstanceWorkflow_jobs env _ _ _ _
  | initializeWorkflow tenantId i source startedAt => exact initializeProcessInstanceWorkflow_jobs env _ _ _ _
  | upsertMetadata tenantId i key value updatedAt createdAt =>
    exact jobs_of_touches env (F := .on tenantId i) (by decide)
      (upsertProcessInstanceMetadata_touches _ _ _ _ _ _ (List.Subset.refl _))
  | suspend tenantId i userId at_ =>
    exact jobs_of_touches env (F := .on tenantId i) (by decide) (suspendProcessInstance_touches _ rfl _ _ (List.Subset.refl _))
  | resume tenantId i userId at_ =>
    refine Prog.keeps_bind frame_jobs (jobs_of_readOnly (openProcessInstanceCommand_readOnly _ _ _ _)) fun pi => ?_
    split
    · exact pure_jobs _
    split
    · exact raise_jobs _
    split
    · exact raise_jobs _
    refine Prog.keeps_bind frame_jobs (resolveTimestamp_jobs env _) fun occurredAt => ?_
    refine Prog.keeps_bind frame_jobs (write_jobs fun _ => rfl) fun _ => ?_
    exact Prog.keeps_bind frame_jobs (syncOpenWorkItemPotentialOwners_jobs env _ _ _) fun _ =>
      recordProcessInstanceEvent_jobs env _ _ _ _ _ _
  | error tenantId i userId at_ =>
    exact jobs_of_touches env (F := .on tenantId i) (by decide) (errorProcessInstance_touches _ rfl _ _ (List.Subset.refl _))
  | retry tenantId i userId at_ => exact retryProcessInstance_jobs hany _ _
  | scheduleRetry tenantId i userId retryAt at_ =>
    refine Prog.keeps_bind frame_jobs (jobs_of_readOnly (openProcessInstanceCommand_readOnly _ _ _ _)) fun pi => ?_
    split
    · exact raise_jobs _
    exact Prog.keeps_bind frame_jobs (resolveTimestamp_jobs env _) fun occurredAt =>
      upsertSchedulerJob_moves (fun _ _ => trivial) _ _ _
  | terminate tenantId i userId at_ =>
    exact jobs_of_touches env (F := .on tenantId i) (by decide) (terminateProcessInstance_touches _ rfl _ _ (List.Subset.refl _))

variable (env) in
theorem Operation.keys (op : Operation) : (op.run env).Keeps KeysKept := by
  cases op with
  | command c =>
    by_cases hc : ∃ tenantId userId args, c = .importDefinition tenantId userId args
    · obtain ⟨tenantId, userId, args, rfl⟩ := hc
      exact Prog.keeps_bind frame_keys (importBpmnProcessDefinition_keys env _ _ _) fun _ => Prog.keeps_pure frame_keys _
    · exact keys_of_jobs (executeCommand_jobs env c fun tenantId userId args h => hc ⟨tenantId, userId, args, h⟩)
  | advance tenantId i guid completedAt => exact keys_of_jobs (advanceProcessInstanceWorkflow_jobs env _ _ _ _)
  | assignPendingTasks tenantId userId =>
    refine Prog.keeps_bind frame_keys ?_ fun _ => Prog.keeps_pure frame_keys _
    refine Prog.keeps_bind frame_keys (keys_of_readOnly (ensureUserBelongsToTenant_readOnly _ _)) fun _ => ?_
    refine Prog.keeps_bind frame_keys (Prog.keeps_gets frame_keys _) fun items => ?_
    exact Prog.keeps_bind frame_keys (write_keys fun _ _ h => h) fun _ => Prog.keeps_pure frame_keys _
  | runDueJobs now limit workerId tenant =>
    have hlock : ∀ p f, (∀ job : SchedulerJob, (f job).id = job.id) → (∀ job : SchedulerJob, (f job).name = job.name) →
        (write (Ω := Ω) fun db => { db with schedulerJobs := updateWhere p f db.schedulerJobs }).Keeps KeysKept :=
      fun p f hid hname => write_keys fun _ _ h => h.update hid hname
    refine Prog.keeps_bind frame_keys ?_ fun _ => Prog.keeps_pure frame_keys _
    refine Prog.keeps_bind frame_keys (Prog.keeps_gets frame_keys _) fun occurredAt => ?_
    refine Prog.keeps_bind frame_keys ?_ fun jobs => Prog.keeps_bind frame_keys (Prog.keeps_mapEach frame_keys fun job _ => ?_) fun outcomes => ?_
    · unfold claimDueSchedulerJobs
      split
      · exact Prog.keeps_raise frame_keys _
      refine Prog.keeps_bind frame_keys ?_ fun jobs => ?_
      · unfold listDueSchedulerJobs
        split
        · exact Prog.keeps_raise frame_keys _
        · exact Prog.keeps_gets frame_keys _
      · exact Prog.keeps_bind frame_keys (hlock _ _ (fun _ => rfl) fun _ => rfl) fun _ => Prog.keeps_pure frame_keys _
    · refine Prog.keeps_attempt frame_keys ?_ fun e => ?_
      · refine Prog.keeps_bind frame_keys ?_ fun _ => Prog.keeps_pure frame_keys _
        exact fun s => (executeClaimedSchedulerJob_jobs env job occurredAt s).keys
      · exact Prog.keeps_bind frame_keys (hlock _ _ (fun _ => rfl) fun _ => rfl) fun _ => Prog.keeps_pure frame_keys _
    · split
      · exact Prog.keeps_pure frame_keys _
      · exact Prog.keeps_raise frame_keys _
      · exact Prog.keeps_raise frame_keys _

end

end M8flowCore
