import M8flowCore.StatusMachine
/-!
# One session for many calls

`process_instance.tasks` and `process_instance.work_items` are relationship
collections. The session loads one when it is first used and keeps it; a row
that is added with its foreign key alone does not show in it until the instance
is expired. A session that lives for one call never notices. In a session that
lives longer, the lifecycle commands close and reopen what is in the
collections, not what is in the tables.
-/
open M8flowCore.Lib M8flowCore.Session

namespace M8flowCore

/-- The collections a session holds of an instance: `none` until it loads them. -/
structure Collections where
  tasks : Option (List Guid)
  workItems : Option (List Nat)

namespace Collections

def unloaded : Collections := ⟨none, none⟩

def hasTask (c : Collections) (t : Task) : Bool := c.tasks.all (·.contains t.guid)

def hasItem (c : Collections) (w : WorkItem) : Bool := c.workItems.all (·.contains w.id)

end Collections

namespace Db
variable (db : Db)

/-- `_close_process_instance_runtime_state`, on the collections of the session. -/
def closeLoaded (instanceId : Nat) (c : Collections) (occurredAt : Time) (userId : Option Nat) : Db :=
  { db with
    processInstances := updateWhere (·.id == instanceId) ({ · with taskUpdatedAt := some occurredAt }) db.processInstances
    futureTasks := updateWhere
      (fun f => db.tasks.any fun t => t.processInstanceId == instanceId && c.hasTask t && t.guid == f.guid)
      ({ · with completed := true, archivedForProcessInstanceStatus := true, updatedAt := occurredAt }) db.futureTasks
    tasks := updateWhere (fun t => t.processInstanceId == instanceId && c.hasTask t)
      (fun t => { t with
        state := if t.state = .spiff .completed then t.state else .terminated, endedAt := some occurredAt }) db.tasks
    workItems := updateWhere (fun w => w.processInstanceId == instanceId && c.hasItem w && !w.completed)
      (fun w => w.close .terminated occurredAt userId) db.workItems }

/-- `_reopen_process_instance_runtime_state`, on the collections of the session. -/
def reopenLoaded (instanceId : Nat) (c : Collections) (occurredAt : Time) : Db :=
  { db with
    processInstances := updateWhere (·.id == instanceId) ({ · with taskUpdatedAt := some occurredAt }) db.processInstances
    futureTasks := updateWhere
      (fun f => db.tasks.any fun t =>
        t.processInstanceId == instanceId && c.hasTask t && t.state == .terminated && t.guid == f.guid)
      ({ · with completed := false, archivedForProcessInstanceStatus := false, updatedAt := occurredAt }) db.futureTasks
    tasks := updateWhere (fun t => t.processInstanceId == instanceId && c.hasTask t && t.state == .terminated)
      (fun t => { t with state := .spiff .ready, startedAt := none, endedAt := none }) db.tasks
    workItems := updateWhere
      (fun w => w.processInstanceId == instanceId && c.hasItem w && (w.taskStatus == .terminated || w.completed))
      (fun w => w.reopen occurredAt) db.workItems }

theorem closeLoaded_unloaded (instanceId : Nat) (occurredAt : Time) (userId : Option Nat) :
    db.closeLoaded instanceId .unloaded occurredAt userId = db.closeRuntimeState instanceId occurredAt userId := by
  simp only [closeLoaded, closeRuntimeState, Collections.unloaded, Collections.hasTask, Collections.hasItem, Option.all_none,
    Bool.and_true]
  rfl

theorem reopenLoaded_unloaded (instanceId : Nat) (occurredAt : Time) :
    db.reopenLoaded instanceId .unloaded occurredAt = db.reopenRuntimeState instanceId occurredAt := by
  simp [reopenLoaded, reopenRuntimeState, Collections.unloaded, Collections.hasTask, Collections.hasItem]

end Db

section
variable {W Ω : Type} (env : Env W Ω)

/-! ## The lifecycle commands -/

/-- `error_process_instance`. -/
def errorProcessInstanceIn (c : Collections) (tenantId : TenantId) (processInstanceId : Nat) (userId : Option Nat)
    (erroredAt : Option Time) : M Ω Unit := do
  match userId with
  | none => pure ()
  | some userId => do
    let _ ← ensureUserBelongsToTenant tenantId userId
    pure ()
  let pi ← loadProcessInstance tenantId processInstanceId
  if pi.status = .error then pure ()
  else if pi.status = .complete then
    Prog.raise (.invalidState "Cannot mark a completed process instance as errored")
  else if pi.status = .terminated then
    Prog.raise (.invalidState "Cannot mark a terminated process instance as errored")
  else do
    let occurredAt ← resolveTimestamp env erroredAt
    updateInstance processInstanceId
      ({ · with status := .error, endedAt := some occurredAt, updatedAt := some occurredAt })
    write (·.closeLoaded processInstanceId c occurredAt userId)
    recordProcessInstanceEvent tenantId processInstanceId .processInstanceError occurredAt none userId

/-- `terminate_process_instance`. -/
def terminateProcessInstanceIn (c : Collections) (tenantId : TenantId) (processInstanceId userId : Nat)
    (terminatedAt : Option Time) : M Ω Unit := do
  let pi ← openProcessInstanceCommand env tenantId processInstanceId userId processTerminateCommand
  if pi.status = .terminated then pure ()
  else if pi.status = .complete ∨ pi.status = .error then
    Prog.raise (.invalidState "Cannot terminate a completed or errored process instance")
  else do
    let occurredAt ← resolveTimestamp env terminatedAt
    updateInstance processInstanceId
      ({ · with status := .terminated, endedAt := some occurredAt, updatedAt := some occurredAt })
    write (·.closeLoaded processInstanceId c occurredAt (some userId))
    recordProcessInstanceEvent tenantId processInstanceId .processInstanceTerminated occurredAt none (some userId)

/-- `resume_process_instance`. -/
def resumeProcessInstanceIn (c : Collections) (tenantId : TenantId) (processInstanceId userId : Nat)
    (resumedAt : Option Time) : M Ω Unit := do
  let pi ← openProcessInstanceCommand env tenantId processInstanceId userId processResumeCommand
  if pi.status = .running then pure ()
  else if pi.hasTerminalStatus then Prog.raise (.invalidState "Cannot resume a terminal process instance")
  else if pi.status ≠ .suspended then
    Prog.raise (.invalidState "Only suspended process instances can be resumed")
  else do
    let occurredAt ← resolveTimestamp env resumedAt
    updateInstance processInstanceId ({ · with status := .running, updatedAt := some occurredAt })
    syncOpenWorkItemPotentialOwners env tenantId processInstanceId c.workItems
    recordProcessInstanceEvent tenantId processInstanceId .processInstanceResumed occurredAt none (some userId)

/-- `retry_process_instance`. -/
def retryProcessInstanceIn (c : Collections) (tenantId : TenantId) (processInstanceId userId : Nat)
    (retriedAt : Option Time) : M Ω Unit := do
  let pi ← openProcessInstanceCommand env tenantId processInstanceId userId processRetryCommand
  if pi.status ≠ .error then Prog.raise (.invalidState "Only errored process instances can be retried")
  else do
    let occurredAt ← resolveTimestamp env retriedAt
    updateInstance processInstanceId ({ · with status := .running, endedAt := none, updatedAt := some occurredAt })
    let loaded ← query fun db =>
      c.workItems.getD ((db.workItems.filter (·.processInstanceId == processInstanceId)).map (·.id))
    write (·.reopenLoaded processInstanceId c occurredAt)
    retryErroredServiceTaskWorkflowIfNeeded env tenantId processInstanceId (some occurredAt)
    deleteSchedulerJob tenantId (instanceJobKey .processRetry processInstanceId)
    recordProcessInstanceEvent tenantId processInstanceId .processInstanceRetried occurredAt none (some userId)
    retryErroredServiceTaskWorkflowIfNeeded env tenantId processInstanceId (some occurredAt)
    syncOpenWorkItemPotentialOwners env tenantId processInstanceId (some loaded)

theorem errorProcessInstanceIn_unloaded : errorProcessInstanceIn env .unloaded = errorProcessInstance env := by
  funext tenantId processInstanceId userId erroredAt
  cases userId <;> simp only [errorProcessInstanceIn, errorProcessInstance, Db.closeLoaded_unloaded]

theorem terminateProcessInstanceIn_unloaded :
    terminateProcessInstanceIn env .unloaded = terminateProcessInstance env := by
  funext tenantId processInstanceId userId terminatedAt
  simp only [terminateProcessInstanceIn, terminateProcessInstance, Db.closeLoaded_unloaded]

theorem resumeProcessInstanceIn_unloaded : resumeProcessInstanceIn env .unloaded = resumeProcessInstance env := rfl

theorem retryProcessInstanceIn_unloaded : retryProcessInstanceIn env .unloaded = retryProcessInstance env := by
  funext tenantId processInstanceId userId retriedAt
  simp only [retryProcessInstanceIn, retryProcessInstance, Db.reopenLoaded_unloaded]
  rfl

/-! ## Operations -/

/-- `execute_command` in a session that holds the collections `loaded`. -/
def executeCommandIn (loaded : Nat → Collections) : Command → M Ω Unit
  | .resume tenantId processInstanceId userId at_ =>
    resumeProcessInstanceIn env (loaded processInstanceId) tenantId processInstanceId userId at_
  | .error tenantId processInstanceId userId at_ =>
    errorProcessInstanceIn env (loaded processInstanceId) tenantId processInstanceId userId at_
  | .retry tenantId processInstanceId userId at_ =>
    retryProcessInstanceIn env (loaded processInstanceId) tenantId processInstanceId userId at_
  | .terminate tenantId processInstanceId userId at_ =>
    terminateProcessInstanceIn env (loaded processInstanceId) tenantId processInstanceId userId at_
  | c => executeCommand env c

/-- `_execute_process_retry_job`. -/
def executeProcessRetryJobIn (loaded : Nat → Collections) (job : SchedulerJob) (occurredAt : Time) : M Ω Unit := do
  match job.processInstanceId with
  | none => deleteSchedulerJob job.m8fTenantId job.jobKey
  | some processInstanceId => do
    let pi ← getProcessInstance job.m8fTenantId processInstanceId
    if pi.status = .error then do
      let userId ← ofExcept (schedulerJobUserId job.payloadJson "requested_by_user_id")
      retryProcessInstanceIn env (loaded processInstanceId) job.m8fTenantId processInstanceId userId (some occurredAt)
    else deleteSchedulerJob job.m8fTenantId job.jobKey

/-- `_execute_claimed_scheduler_job`. -/
def executeClaimedSchedulerJobIn (loaded : Nat → Collections) (job : SchedulerJob) (occurredAt : Time) : M Ω Unit :=
  match job.jobType with
  | .processRetry => executeProcessRetryJobIn env loaded job occurredAt
  | _ => executeClaimedSchedulerJob env job occurredAt

/-- Execute one job of a batch. -/
def attemptSchedulerJobIn (loaded : Nat → Collections) (occurredAt : Time) (job : SchedulerJob) :
    M Ω (Option (String × Error)) :=
  Prog.attempt
    (do
      executeClaimedSchedulerJobIn env loaded job occurredAt
      pure none)
    (fun e => do
      releaseSchedulerJobLock job.id occurredAt
      pure (some (job.jobKey, jobError job e)))

/-- `run_due_scheduler_jobs`. -/
def runDueSchedulerJobsIn (loaded : Nat → Collections) (now : Option Time) (limit : Int) (workerId : String)
    (tenantId : Option TenantId) : M Ω Nat := do
  let occurredAt ← resolveTimestamp env now
  let jobs ← claimDueSchedulerJobs occurredAt limit workerId tenantId
  let outcomes ← Prog.mapEach jobs (attemptSchedulerJobIn env loaded occurredAt)
  match outcomes.filterMap id with
  | [] => pure outcomes.length
  | [(_, e)] => Prog.raise e
  | errors => Prog.raise (buildSchedulerBatchError errors)

/-- The program behind an operation, in a session that holds `loaded`. -/
def Operation.runIn (loaded : Nat → Collections) : Operation → M Ω Unit
  | .command c => executeCommandIn env loaded c
  | .runDueJobs now limit workerId tenantId => do
    let _ ← runDueSchedulerJobsIn env loaded now limit workerId tenantId
    pure ()
  | op => op.run env

/-- A session that has loaded nothing runs the operations as they are. -/
theorem Operation.runIn_unloaded (op : Operation) : op.runIn env (fun _ => .unloaded) = op.run env := by
  have hcommand : executeCommandIn env (fun _ => .unloaded) = executeCommand env := by
    funext c
    cases c <;> simp only [executeCommandIn, executeCommand, errorProcessInstanceIn_unloaded,
      terminateProcessInstanceIn_unloaded, resumeProcessInstanceIn_unloaded, retryProcessInstanceIn_unloaded]
  have hretry : executeProcessRetryJobIn env (fun _ => .unloaded) = executeProcessRetryJob env := by
    funext job occurredAt
    unfold executeProcessRetryJobIn
    simp only [retryProcessInstanceIn_unloaded]
    rfl
  have hjob : attemptSchedulerJobIn env (fun _ => .unloaded) = attemptSchedulerJob env := by
    funext occurredAt job
    unfold attemptSchedulerJobIn executeClaimedSchedulerJobIn
    split
    · rename_i htype
      have hsame : executeProcessRetryJob env job occurredAt = executeClaimedSchedulerJob env job occurredAt := by
        unfold executeClaimedSchedulerJob
        rw [htype]
      rw [hretry, hsame]
      rfl
    · rfl
  have hpass : runDueSchedulerJobsIn env (fun _ => .unloaded) = runDueSchedulerJobs env := by
    funext now limit workerId tenantId
    unfold runDueSchedulerJobsIn
    rw [hjob]
    rfl
  cases op with
  | command c => exact congrFun hcommand c
  | advance => rfl
  | assignPendingTasks => rfl
  | runDueJobs =>
    unfold Operation.runIn
    rw [hpass]
    rfl

end

section
variable {W Ω : Type} {env : Env W Ω} {F : Focus} {L : List Touch} {s s' : Tx Ω} {pi : ProcessInstance}
  {tenantId : TenantId} {c : Collections} {loaded : Nat → Collections}

/-! ## Closing and reopening what is loaded -/

theorem closeLoaded_touches (c : Collections) (occurredAt : Time) (userId : Option Nat)
    (hL : [Touch.shared, .details, .task, .item] ⊆ L) :
    Touches (Change env F) L (write (·.closeLoaded F.instanceId c occurredAt userId)) := by
  intro s
  have hshared : Change env F .shared s { s with view := { s.view with
      futureTasks := updateWhere
        (fun f => s.view.tasks.any fun t => t.processInstanceId == F.instanceId && c.hasTask t && t.guid == f.guid)
        ({ · with completed := true, archivedForProcessInstanceStatus := true, updatedAt := occurredAt })
        s.view.futureTasks } } := .shared ⟨rfl, rfl, rfl, rfl, rfl, rfl, rfl⟩
  refine .trans (.one (hL (by decide)) hshared) ?_
  refine .trans (.one (hL (by decide)) (.details _ ({ · with taskUpdatedAt := some occurredAt }) fun _ => ⟨rfl, rfl⟩)) ?_
  refine .trans (.one (hL (by decide)) (.task _ (fun t => t.processInstanceId == F.instanceId && c.hasTask t) (fun t =>
    { t with state := if t.state = .spiff .completed then t.state else .terminated, endedAt := some occurredAt })
    (fun t ht => ?_) (fun _ => rfl) fun _ _ => .inr rfl)) ?_
  · simp only [Bool.and_eq_true, beq_iff_eq] at ht
    exact .inr ht.1
  refine .one (hL (by decide)) (.item _ (fun w => w.processInstanceId == F.instanceId && c.hasItem w && !w.completed)
    (fun w => w.close .terminated occurredAt userId) (fun w hw => ?_) fun _ => rfl)
  simp only [Bool.and_eq_true, beq_iff_eq] at hw
  exact hw.1.1

theorem reopenLoaded_touches (c : Collections) (occurredAt : Time) (hL : [Touch.shared, .details, .task, .item] ⊆ L) :
    Touches (Change env F) L (write (·.reopenLoaded F.instanceId c occurredAt)) := by
  intro s
  have hshared : Change env F .shared s { s with view := { s.view with
      futureTasks := updateWhere
        (fun f => s.view.tasks.any fun t =>
          t.processInstanceId == F.instanceId && c.hasTask t && t.state == .terminated && t.guid == f.guid)
        ({ · with completed := false, archivedForProcessInstanceStatus := false, updatedAt := occurredAt })
        s.view.futureTasks } } := .shared ⟨rfl, rfl, rfl, rfl, rfl, rfl, rfl⟩
  refine .trans (.one (hL (by decide)) hshared) ?_
  refine .trans (.one (hL (by decide)) (.details _ ({ · with taskUpdatedAt := some occurredAt }) fun _ => ⟨rfl, rfl⟩)) ?_
  refine .trans (.one (hL (by decide)) (.task _
    (fun t => t.processInstanceId == F.instanceId && c.hasTask t && t.state == .terminated)
    (fun t => { t with state := .spiff .ready, startedAt := none, endedAt := none })
    (fun t ht => ?_) (fun _ => rfl) fun _ _ => .inr rfl)) ?_
  · simp only [Bool.and_eq_true, beq_iff_eq] at ht
    exact .inr ht.1.1
  refine .one (hL (by decide)) (.item _
    (fun w => w.processInstanceId == F.instanceId && c.hasItem w && (w.taskStatus == .terminated || w.completed))
    (fun w => w.reopen occurredAt) (fun w hw => ?_) fun _ => rfl)
  simp only [Bool.and_eq_true, beq_iff_eq] at hw
  exact hw.1.1

/-- The collection has every open item of the instance. -/
def Collections.Complete (c : Collections) (db : Db) (i : Nat) : Prop :=
  ∀ w ∈ db.workItems, w.processInstanceId = i → w.completed = false → c.hasItem w = true

/-- Closing what is loaded closes the instance if every open item is loaded. -/
theorem life_closeLoaded {db : Db} {i : Nat} (hc : c.Complete db i) (t : Time) (userId : Option Nat) :
    (db.closeLoaded i c t userId).life i = (db.life i).map fun l => { l with opened := false } := by
  have hopened : (db.closeLoaded i c t userId).opened i = false := by
    unfold Db.opened Db.closeLoaded
    rw [List.any_eq_false]
    intro w hw
    obtain ⟨w₀, hw₀, rfl⟩ := mem_updateWhere.1 hw
    split
    · simp [WorkItem.close]
    · rename_i hne
      by_cases hi : w₀.processInstanceId = i
      · cases hopen : w₀.completed with
        | true => simp
        | false => simp [hi, hopen, hc w₀ hw₀ hi hopen] at hne
      · simp [hi]
  have hrow : (db.closeLoaded i c t userId).life i =
      ((db.updateInstance i ({ · with taskUpdatedAt := some t })).life i).map fun l => { l with opened := false } := by
    rw [← hopened]
    exact life_items rfl rfl
  rw [hrow, life_updateInstance (fun p => p) (by intro _; rfl) (by intro _; rfl), Option.map_map]
  rfl

theorem life_reopenLoaded (db : Db) (i : Nat) (c : Collections) (t : Time) : (db.reopenLoaded i c t).life i =
    (db.life i).map fun l => { l with opened := (db.reopenLoaded i c t).opened i } := by
  have hrow : (db.reopenLoaded i c t).life i = ((db.updateInstance i ({ · with taskUpdatedAt := some t })).life i).map
      fun l => { l with opened := (db.reopenLoaded i c t).opened i } := life_items rfl rfl
  rw [hrow, life_updateInstance (fun p => p) (by intro _; rfl) (by intro _; rfl), Option.map_map]
  rfl

theorem Collections.Complete.updateInstance {db : Db} {i j : Nat} (h : c.Complete db i)
    (f : ProcessInstance → ProcessInstance) : c.Complete (db.updateInstance j f) i := h

/-! ## What the commands do to a life -/

theorem terminateProcessInstanceIn_moved (env : Env W Ω) (hfiled : Filed s.seq s.view) {processInstanceId userId : Nat}
    {at_ : Option Time} (hc : c.Complete s.view processInstanceId)
    (h : (terminateProcessInstanceIn env c tenantId processInstanceId userId at_).run s = (.ok (), s')) :
    Moved (· = .terminate) processInstanceId s s' := by
  unfold terminateProcessInstanceIn at h
  obtain ⟨pi, s₁, hopen, h₁⟩ := Prog.bind_ok.1 h
  obtain ⟨rfl, hpi, -, rfl⟩ := openProcessInstanceCommand_ok hopen
  split at h₁
  · obtain ⟨-, rfl⟩ := Prog.pure_ok.1 h₁
    exact .refl hfiled
  · rename_i hne
    split at h₁
    · simp at h₁
    · rename_i hended
      simp only [resolveTimestamp, updateInstance, write, Prog.gets_bind_run, Prog.modify_bind_run] at h₁
      refine moved_closed env (c := .terminate)
        (g := fun db => db.closeLoaded pi.id c (at_.getD (env.now s₁.world)) (some userId)) rfl hfiled hpi h₁
        (closeLoaded_touches c _ _ (by decide)) (life_closeLoaded (hc.updateInstance _) _ _) (fun _ => ⟨rfl, rfl⟩) rfl
        fun l hphase => ?_
      refine .terminate l ?_ _
      rw [hphase]
      have hstatus : pi.phase.status = pi.status := rfl
      simp [ProcessInstanceStatus.isTerminal, hstatus] at hended ⊢
      exact ⟨hended, hne⟩

theorem errorProcessInstanceIn_moved (env : Env W Ω) (hfiled : Filed s.seq s.view) {processInstanceId : Nat}
    {userId : Option Nat} {at_ : Option Time} (hc : c.Complete s.view processInstanceId)
    (h : (errorProcessInstanceIn env c tenantId processInstanceId userId at_).run s = (.ok (), s')) :
    Moved (· = .error) processInstanceId s s' := by
  have hrest : (do
      let pi ← loadProcessInstance tenantId processInstanceId
      if pi.status = .error then pure ()
      else if pi.status = .complete then
        Prog.raise (.invalidState "Cannot mark a completed process instance as errored")
      else if pi.status = .terminated then
        Prog.raise (.invalidState "Cannot mark a terminated process instance as errored")
      else do
        let occurredAt ← resolveTimestamp env at_
        updateInstance processInstanceId
          ({ · with status := .error, endedAt := some occurredAt, updatedAt := some occurredAt })
        write (·.closeLoaded processInstanceId c occurredAt userId)
        recordProcessInstanceEvent tenantId processInstanceId .processInstanceError occurredAt none userId :
        M Ω Unit).run s = (.ok (), s') := by
    unfold errorProcessInstanceIn at h
    dsimp only at h
    cases userId with
    | none => exact h
    | some userId =>
      obtain ⟨_, s₁, hmember, h₁⟩ := Prog.bind_ok.1 h
      obtain rfl := (ensureUserBelongsToTenant_readOnly _ _).state hmember
      exact h₁
  obtain ⟨pi, s₁, hload, h₁⟩ := Prog.bind_ok.1 hrest
  obtain ⟨rfl, hpi, -, rfl⟩ := loadProcessInstance_ok hload
  split at h₁
  · obtain ⟨-, rfl⟩ := Prog.pure_ok.1 h₁
    exact .refl hfiled
  rename_i herror
  split at h₁
  · simp at h₁
  rename_i hcomplete
  split at h₁
  · simp at h₁
  rename_i hterminated
  simp only [resolveTimestamp, updateInstance, write, Prog.gets_bind_run, Prog.modify_bind_run] at h₁
  refine moved_closed env (c := .error)
    (g := fun db => db.closeLoaded pi.id c (at_.getD (env.now s₁.world)) userId) rfl hfiled hpi h₁
    (closeLoaded_touches c _ _ (by decide)) (life_closeLoaded (hc.updateInstance _) _ _) (fun _ => ⟨rfl, rfl⟩) rfl
    fun l hphase => ?_
  refine .error l ?_ _
  rw [hphase]
  have hstatus : pi.phase.status = pi.status := rfl
  simp [ProcessInstanceStatus.isTerminal, hstatus, herror, hcomplete, hterminated]

theorem retryProcessInstanceIn_moved (hlaw : env.Lawful) (hfiled : Filed s.seq s.view) {processInstanceId userId : Nat}
    {at_ : Option Time} (h : (retryProcessInstanceIn env c tenantId processInstanceId userId at_).run s = (.ok (), s')) :
    Moved (· = .retry) processInstanceId s s' := by
  unfold retryProcessInstanceIn at h
  obtain ⟨pi, s₁, hopen, h₁⟩ := Prog.bind_ok.1 h
  obtain ⟨rfl, hpi, -, rfl⟩ := openProcessInstanceCommand_ok hopen
  split at h₁
  · simp at h₁
  rename_i herror
  simp only [resolveTimestamp, query, updateInstance, write, Prog.gets_bind_run, Prog.modify_bind_run] at h₁
  obtain ⟨hwithin, hafoot⟩ := reopened_afoot env hfiled hpi
    (f := ({ · with status := .running, endedAt := none, updatedAt := some (at_.getD (env.now s₁.world)) }))
    (g := fun db => db.reopenLoaded pi.id c (at_.getD (env.now s₁.world)))
    (reopenLoaded_touches c (at_.getD (env.now s₁.world)) (List.Subset.refl _)) (life_reopenLoaded _ _ _ _)
    fun _ => ⟨rfl, rfl⟩
  exact retried_moved hlaw hfiled hpi (not_not.1 herror) hwithin hafoot h₁

theorem resumeProcessInstanceIn_moved (hfiled : Filed s.seq s.view) {processInstanceId userId : Nat} {at_ : Option Time}
    (h : (resumeProcessInstanceIn env c tenantId processInstanceId userId at_).run s = (.ok (), s')) :
    Moved (· = .resume) processInstanceId s s' := by
  unfold resumeProcessInstanceIn at h
  obtain ⟨pi, s₁, hopen, h₁⟩ := Prog.bind_ok.1 h
  obtain ⟨rfl, hpi, -, rfl⟩ := openProcessInstanceCommand_ok hopen
  split at h₁
  · obtain ⟨-, rfl⟩ := Prog.pure_ok.1 h₁
    exact .refl hfiled
  split at h₁
  · simp at h₁
  split at h₁
  · simp at h₁
  rename_i hsuspended
  simp only [resolveTimestamp, updateInstance, write, Prog.gets_bind_run, Prog.modify_bind_run] at h₁
  refine resumed_moved hfiled hpi (not_not.1 hsuspended) ?_ h₁
  exact fun _ => ⟨rfl, rfl⟩

/-! ## What the operations do to a life -/

/-- What closing asks of a session: the collection of the instance is not
loaded, or has every open item of it. -/
def Operation.Fresh (db : Db) (loaded : Nat → Collections) : Operation → Prop
  | .command (.error _ i _ _) | .command (.terminate _ i _ _) => (loaded i).Complete db i
  | _ => True

theorem executeCommandIn_travels (hlaw : env.Lawful) (hs : Serial s) {c : Command}
    (hfresh : Operation.Fresh s.view loaded (.command c)) (h : (executeCommandIn env loaded c).run s = (.ok (), s')) :
    Travels (fun j cause => c.causes j cause) s s' := by
  cases c with
  | resume tenantId processInstanceId userId at_ => exact (resumeProcessInstanceIn_moved hs.view h).travels hs
  | error tenantId processInstanceId userId at_ =>
    exact (errorProcessInstanceIn_moved env hs.view hfresh h).travels hs
  | retry tenantId processInstanceId userId at_ => exact (retryProcessInstanceIn_moved hlaw hs.view h).travels hs
  | terminate tenantId processInstanceId userId at_ =>
    exact (terminateProcessInstanceIn_moved env hs.view hfresh h).travels hs
  | _ => exact executeCommand_travels hlaw hs h

theorem executeProcessRetryJobIn_travels (hlaw : env.Lawful) (hs : Serial s) {job : SchedulerJob} {occurredAt : Time}
    (h : (executeProcessRetryJobIn env loaded job occurredAt).run s = (.ok (), s')) :
    Travels (fun j c => job.processInstanceId = some j ∧ c = .retry) s s' := by
  unfold executeProcessRetryJobIn at h
  cases hinstance : job.processInstanceId with
  | none =>
    simp only [hinstance] at h
    exact ((deleteSchedulerJob_aside _ _).of_ok h).travels hs
  | some processInstanceId =>
    simp only [hinstance] at h
    obtain ⟨pi, s₁, hload, h₁⟩ := Prog.bind_ok.1 h
    obtain ⟨rfl, -⟩ := loadProcessInstance_ok hload
    split at h₁
    · obtain ⟨userId, s₂, huser, hretry⟩ := Prog.bind_ok.1 h₁
      obtain ⟨-, rfl⟩ := ofExcept_ok huser
      refine ((retryProcessInstanceIn_moved hlaw hs.view hretry).travels hs).mono ?_
      rintro j c ⟨rfl, rfl⟩
      exact ⟨rfl, rfl⟩
    · exact ((deleteSchedulerJob_aside _ _).of_ok h₁).travels hs

theorem executeClaimedSchedulerJobIn_travels (hlaw : env.Lawful) (hs : Serial s) {job : SchedulerJob} {occurredAt : Time}
    (h : (executeClaimedSchedulerJobIn env loaded job occurredAt).run s = (.ok (), s')) :
    Travels (fun j c => job.causes j c) s s' := by
  unfold executeClaimedSchedulerJobIn at h
  split at h
  · rename_i htype
    simp only [SchedulerJob.causes, htype]
    exact executeProcessRetryJobIn_travels hlaw hs h
  · exact executeClaimedSchedulerJob_travels hlaw hs h

theorem runDueSchedulerJobsIn_travels (hlaw : env.Lawful) (hs : Serial s) {now : Option Time} {limit : Int}
    {workerId : String} {tenant : Option TenantId} {count : Nat}
    (h : (runDueSchedulerJobsIn env loaded now limit workerId tenant).run s = (.ok count, s')) :
    Travels (fun _ _ => True) s s' := by
  unfold runDueSchedulerJobsIn at h
  simp only [resolveTimestamp, Prog.gets_bind_run] at h
  obtain ⟨jobs, s₁, hclaim, h₁⟩ := Prog.bind_ok.1 h
  obtain ⟨rfl, haside⟩ := claimDueSchedulerJobs_ok hclaim
  obtain ⟨outcomes, s₂, hjobs, h₂⟩ := Prog.bind_ok.1 h₁
  have hclaimed := haside.travels hs (C := fun _ _ => True)
  split at h₂
  · rename_i hnone
    obtain ⟨-, rfl⟩ := Prog.pure_ok.1 h₂
    refine hclaimed.trans (mapEach_travels (fun job _ _ _ hs hrun => ?_) hclaimed.serial hjobs hnone)
    exact (executeClaimedSchedulerJobIn_travels hlaw hs (attempt_none hrun)).mono fun _ _ _ => trivial
  · simp at h₂
  · simp at h₂

theorem Operation.runIn_travels (hlaw : env.Lawful) (hs : Serial s) {op : Operation} (hfresh : op.Fresh s.view loaded)
    (h : (op.runIn env loaded).run s = (.ok (), s')) : Travels (fun _ _ => True) s s' := by
  cases op with
  | command c => exact (executeCommandIn_travels hlaw hs hfresh h).mono fun _ _ _ => trivial
  | advance tenantId processInstanceId guid completedAt =>
    exact ((advanceProcessInstanceWorkflow_moved hlaw hs.view h).travels hs).mono fun _ _ _ => trivial
  | assignPendingTasks tenantId userId =>
    have hrun : ((Operation.assignPendingTasks tenantId userId).run env).run s = (.ok (), s') := h
    exact (Operation.travels hlaw hs hrun).mono fun _ _ _ => trivial
  | runDueJobs now limit workerId tenant =>
    obtain ⟨count, s₁, hpass, h₁⟩ := Prog.bind_ok.1 h
    obtain ⟨-, rfl⟩ := Prog.pure_ok.1 h₁
    exact runDueSchedulerJobsIn_travels hlaw hs hpass

/-! ## What a rollback leaves -/

variable (env) in
theorem errorProcessInstanceIn_left (c : Collections) (tenantId : TenantId) (processInstanceId : Nat)
    (userId : Option Nat) (at_ : Option Time) :
    (errorProcessInstanceIn env c tenantId processInstanceId userId at_).Keeps Left := by
  have hrest : Prog.Keeps Left (do
      let pi ← loadProcessInstance tenantId processInstanceId
      if pi.status = .error then pure ()
      else if pi.status = .complete then
        Prog.raise (.invalidState "Cannot mark a completed process instance as errored")
      else if pi.status = .terminated then
        Prog.raise (.invalidState "Cannot mark a terminated process instance as errored")
      else do
        let occurredAt ← resolveTimestamp env at_
        updateInstance processInstanceId
          ({ · with status := .error, endedAt := some occurredAt, updatedAt := some occurredAt })
        write (·.closeLoaded processInstanceId c occurredAt userId)
        recordProcessInstanceEvent tenantId processInstanceId .processInstanceError occurredAt none userId : M Ω Unit) := by
    refine Prog.keeps_bind frame_left (left_of_readOnly (loadProcessInstance_readOnly _ _)) fun pi => ?_
    split
    · exact pure_left _
    split
    · exact raise_left _
    split
    · exact raise_left _
    refine Prog.keeps_bind frame_left (resolveTimestamp_left env _) fun occurredAt => ?_
    refine Prog.keeps_bind frame_left (write_left _) fun _ => Prog.keeps_bind frame_left (write_left _) fun _ => ?_
    exact recordProcessInstanceEvent_left env _ _ _ _ _ _
  unfold errorProcessInstanceIn
  cases userId with
  | none => exact hrest
  | some userId =>
    exact Prog.keeps_bind frame_left (left_of_readOnly (ensureUserBelongsToTenant_readOnly _ _)) fun _ => hrest

variable (env) in
theorem terminateProcessInstanceIn_left (c : Collections) (tenantId : TenantId) (processInstanceId userId : Nat)
    (at_ : Option Time) : (terminateProcessInstanceIn env c tenantId processInstanceId userId at_).Keeps Left := by
  refine Prog.keeps_bind frame_left (left_of_readOnly (openProcessInstanceCommand_readOnly _ _ _ _)) fun pi => ?_
  split
  · exact pure_left _
  split
  · exact raise_left _
  refine Prog.keeps_bind frame_left (resolveTimestamp_left env _) fun occurredAt => ?_
  refine Prog.keeps_bind frame_left (write_left _) fun _ => Prog.keeps_bind frame_left (write_left _) fun _ => ?_
  exact recordProcessInstanceEvent_left env _ _ _ _ _ _

variable (env) in
theorem resumeProcessInstanceIn_left (c : Collections) (tenantId : TenantId) (processInstanceId userId : Nat)
    (at_ : Option Time) : (resumeProcessInstanceIn env c tenantId processInstanceId userId at_).Keeps Left := by
  refine Prog.keeps_bind frame_left (left_of_readOnly (openProcessInstanceCommand_readOnly _ _ _ _)) fun pi => ?_
  split
  · exact pure_left _
  split
  · exact raise_left _
  split
  · exact raise_left _
  refine Prog.keeps_bind frame_left (resolveTimestamp_left env _) fun occurredAt => ?_
  refine Prog.keeps_bind frame_left (write_left _) fun _ => ?_
  exact Prog.keeps_bind frame_left (syncOpenWorkItemPotentialOwners_left env _ _ _) fun _ =>
    recordProcessInstanceEvent_left env _ _ _ _ _ _

variable (env) in
theorem retryProcessInstanceIn_left (c : Collections) (tenantId : TenantId) (processInstanceId userId : Nat)
    (at_ : Option Time) : (retryProcessInstanceIn env c tenantId processInstanceId userId at_).Keeps Left := by
  refine Prog.keeps_bind frame_left (left_of_readOnly (openProcessInstanceCommand_readOnly _ _ _ _)) fun pi => ?_
  split
  · exact raise_left _
  refine Prog.keeps_bind frame_left (resolveTimestamp_left env _) fun occurredAt => ?_
  refine Prog.keeps_bind frame_left (write_left _) fun _ => ?_
  refine Prog.keeps_bind frame_left (query_left _) fun loaded => ?_
  refine Prog.keeps_bind frame_left (write_left _) fun _ => ?_
  refine Prog.keeps_bind frame_left (retryErroredServiceTaskWorkflowIfNeeded_left env _ _ _) fun _ => ?_
  refine Prog.keeps_bind frame_left (left_of_aside (deleteSchedulerJob_aside _ _)) fun _ => ?_
  refine Prog.keeps_bind frame_left (recordProcessInstanceEvent_left env _ _ _ _ _ _) fun _ => ?_
  exact Prog.keeps_bind frame_left (retryErroredServiceTaskWorkflowIfNeeded_left env _ _ _) fun _ =>
    syncOpenWorkItemPotentialOwners_left env _ _ _

variable (env) in
theorem executeProcessRetryJobIn_left (loaded : Nat → Collections) (job : SchedulerJob) (occurredAt : Time) :
    (executeProcessRetryJobIn env loaded job occurredAt).Keeps Left := by
  have hdelete : (deleteSchedulerJob (Ω := Ω) job.m8fTenantId job.jobKey).Keeps Left :=
    left_of_aside (deleteSchedulerJob_aside _ _)
  unfold executeProcessRetryJobIn
  split
  · exact hdelete
  · refine Prog.keeps_bind frame_left (left_of_readOnly (loadProcessInstance_readOnly _ _)) fun pi => ?_
    split
    · exact Prog.keeps_bind frame_left (left_of_readOnly (ofExcept_readOnly _)) fun userId =>
        retryProcessInstanceIn_left env _ _ _ _ _
    · exact hdelete

variable (env) in
theorem attemptSchedulerJobIn_left (loaded : Nat → Collections) (occurredAt : Time) (job : SchedulerJob) :
    (attemptSchedulerJobIn env loaded occurredAt job).Keeps Left := by
  refine Prog.keeps_attempt frame_left (Prog.keeps_bind frame_left ?_ fun _ => pure_left _) fun e => ?_
  · unfold executeClaimedSchedulerJobIn
    split
    · exact executeProcessRetryJobIn_left env _ _ _
    · exact executeClaimedSchedulerJob_left env _ _
  · exact Prog.keeps_bind frame_left (write_left _) fun _ => pure_left _

variable (env) in
theorem executeCommandIn_left (loaded : Nat → Collections) (c : Command) : (executeCommandIn env loaded c).Keeps Left := by
  unfold executeCommandIn
  split
  · exact resumeProcessInstanceIn_left env _ _ _ _ _
  · exact errorProcessInstanceIn_left env _ _ _ _ _
  · exact retryProcessInstanceIn_left env _ _ _ _ _
  · exact terminateProcessInstanceIn_left env _ _ _ _ _
  · exact executeCommand_left env _

variable (env) in
theorem Operation.runIn_left (loaded : Nat → Collections) (op : Operation) : (op.runIn env loaded).Keeps Left := by
  unfold Operation.runIn
  split
  · exact executeCommandIn_left env _ _
  · refine Prog.keeps_bind frame_left ?_ fun _ => pure_left _
    refine Prog.keeps_bind frame_left (resolveTimestamp_left env _) fun occurredAt => ?_
    refine Prog.keeps_bind frame_left (claimDueSchedulerJobs_left _ _ _ _) fun jobs => ?_
    refine Prog.keeps_bind frame_left
      (Prog.keeps_mapEach frame_left fun job _ => attemptSchedulerJobIn_left env _ _ _) fun outcomes => ?_
    split
    · exact pure_left _
    · exact raise_left _
    · exact raise_left _
  · exact Operation.left env _

end

/-! ## Sessions that last -/

section
variable {W Ω : Type}

/-- A session in the hands of a host: its transaction and what it has loaded of
each instance. -/
structure HostSession (Ω : Type) where
  tx : Tx Ω
  loaded : Nat → Collections

/-- A session that has just been opened on a store. -/
def Store.hostSession (st : Store) (world : Ω) : HostSession Ω := ⟨st.session world, fun _ => .unloaded⟩

/-- What a call may leave loaded: the collections that were loaded, as they
were, and others with rows of the instance. -/
structure Loads (db : Db) (loaded loaded' : Nat → Collections) : Prop where
  tasks : ∀ i, (loaded' i).tasks = (loaded i).tasks ∨ (loaded i).tasks = none ∧
    ∃ guids, (loaded' i).tasks = some guids ∧ ∀ g ∈ guids, ∃ t ∈ db.tasks, t.guid = g ∧ t.processInstanceId = i
  workItems : ∀ i, (loaded' i).workItems = (loaded i).workItems ∨ (loaded i).workItems = none ∧
    ∃ ids, (loaded' i).workItems = some ids ∧ ∀ id ∈ ids, ∃ w ∈ db.workItems, w.id = id ∧ w.processInstanceId = i

/-- The sessions a host comes to from `h₀` by calls that satisfy `P`. It may
commit or roll back between any two calls and expire what is loaded at any
time. A commit expires nothing, a rollback everything. A call that raises is
rolled back. -/
inductive HostRun (env : Env W Ω) (P : HostSession Ω → Operation → Prop) (h₀ : HostSession Ω) : HostSession Ω → Prop
  | refl : HostRun env P h₀ h₀
  | returns {h : HostSession Ω} {op : Operation} {tx : Tx Ω} {loaded : Nat → Collections} (hbefore : HostRun env P h₀ h)
      (hP : P h op) (hrun : (op.runIn env h.loaded).run h.tx = (.ok (), tx)) (hloads : Loads tx.view h.loaded loaded) :
      HostRun env P h₀ ⟨tx, loaded⟩
  | raises {h : HostSession Ω} {op : Operation} {e : Error} {tx : Tx Ω} (hbefore : HostRun env P h₀ h) (hP : P h op)
      (hrun : (op.runIn env h.loaded).run h.tx = (.error e, tx)) :
      HostRun env P h₀ ⟨Tx.begin tx.seq tx.committed tx.world, fun _ => .unloaded⟩
  | commit {h : HostSession Ω} (hbefore : HostRun env P h₀ h) :
      HostRun env P h₀ ⟨Tx.begin h.tx.seq h.tx.commit h.tx.world, h.loaded⟩
  | rollback {h : HostSession Ω} (hbefore : HostRun env P h₀ h) :
      HostRun env P h₀ ⟨Tx.begin h.tx.seq h.tx.committed h.tx.world, fun _ => .unloaded⟩
  | expire {h : HostSession Ω} (hbefore : HostRun env P h₀ h) (world : Ω) {loaded : Nat → Collections}
      (hloaded : ∀ i, loaded i = h.loaded i ∨ loaded i = .unloaded) :
      HostRun env P h₀ ⟨{ h.tx with world := world }, loaded⟩

/-- Of every instance whose status is terminal, all work items are closed. -/
def Db.Closed (db : Db) : Prop :=
  ∀ p ∈ db.processInstances, p.status = .complete ∨ p.status = .error ∨ p.status = .terminated →
    ∀ w ∈ db.workItems, w.processInstanceId = p.id → w.completed = true

variable {env : Env W Ω} {P : HostSession Ω → Operation → Prop} {h₀ h : HostSession Ω} {st₀ : Store}

theorem Db.closed_of_lives {seq : Nat} {db : Db} (hfiled : Filed seq db)
    (hlives : ∀ j l, db.life j = some l → l.Closed) : db.Closed := by
  intro p hp hstatus w hw hid
  have hterminal : p.phase.status.isTerminal = true := by
    have hphase : p.phase.status = p.status := rfl
    rcases hstatus with hstatus | hstatus | hstatus <;> rw [hphase, hstatus] <;> rfl
  have hopened : db.opened p.id = false := hlives p.id _ (life_of_mem hfiled hp) hterminal
  have hitem := List.any_eq_false.1 hopened w hw
  simpa [hid] using hitem

/-- What every session of a run has. -/
structure HostSession.Sound (h : HostSession Ω) : Prop where
  serial : Serial h.tx
  view : ∀ j l, h.tx.view.life j = some l → l.Closed
  committed : ∀ j l, h.tx.committed.life j = some l → l.Closed

theorem HostSession.Sound.begin {seq : Nat} {db : Db} (hfiled : Filed seq db) (hlives : ∀ j l, db.life j = some l → l.Closed)
    (world : Ω) (loaded : Nat → Collections) : HostSession.Sound ⟨Tx.begin seq db world, loaded⟩ :=
  ⟨⟨rfl, hfiled, hfiled⟩, hlives, hlives⟩

theorem HostRun.sound (hlaw : env.Lawful) (h₀sound : h₀.Sound)
    (hrun : HostRun env (fun h op => op.Fresh h.tx.view h.loaded) h₀ h) : h.Sound := by
  induction hrun with
  | refl => exact h₀sound
  | returns _ hfresh hop _ ih =>
    have htravels := Operation.runIn_travels hlaw ih.serial hfresh hop
    have hleft := (Operation.runIn_left env _ _).of_ok hop
    exact ⟨htravels.serial, fun j => (htravels.paths j).closed (ih.view j),
      fun j => (hleft.paths ih.serial.committed j).closed (ih.committed j)⟩
  | raises _ _ hop ih =>
    have hleft := (Operation.runIn_left env _ _).of_ok hop
    exact .begin (hleft.filed ih.serial.committed) (fun j => (hleft.paths ih.serial.committed j).closed (ih.committed j)) _ _
  | commit _ ih =>
    rw [Tx.commit, ← ih.serial.current, Db.merge_current]
    exact .begin ih.serial.view ih.view _ _
  | rollback _ ih => exact .begin ih.serial.committed ih.committed _ _
  | expire _ _ _ ih => exact ⟨⟨ih.serial.current, ih.serial.view, ih.serial.committed⟩, ih.view, ih.committed⟩

/-- If every terminate and error finds the open items of its instance in the
session's collection, or no collection, a terminal instance has no open item,
in the session and in the committed database, after every call. -/
theorem closed_means_closed (hlaw : env.Lawful) (hblank : st₀.Blank) (world : Ω)
    (hrun : HostRun env (fun h op => op.Fresh h.tx.view h.loaded) (st₀.hostSession world) h) :
    h.tx.view.Closed ∧ h.tx.committed.Closed := by
  have hnone : ∀ j l, st₀.db.life j = some l → l.Closed := by
    intro j l hlife
    simp [Db.life, Db.processInstance?, hblank.instances] at hlife
  have hsound := hrun.sound hlaw (.begin hblank.filed hnone world _)
  exact ⟨Db.closed_of_lives hsound.serial.view hsound.view, Db.closed_of_lives hsound.serial.committed hsound.committed⟩

instance (c : Collections) (db : Db) (i : Nat) : Decidable (c.Complete db i) :=
  inferInstanceAs (Decidable (∀ w ∈ db.workItems, w.processInstanceId = i → w.completed = false → c.hasItem w = true))

instance : DecidablePred Db.Closed := fun db =>
  inferInstanceAs (Decidable (∀ p ∈ db.processInstances, p.status = .complete ∨ p.status = .error ∨ p.status = .terminated →
    ∀ w ∈ db.workItems, w.processInstanceId = p.id → w.completed = true))

/-- The session after a call that leaves `loaded` loaded. -/
def HostSession.after (env : Env W Ω) (op : Operation) (loaded : Nat → Collections) (h : HostSession Ω) : HostSession Ω :=
  ⟨((op.runIn env h.loaded).run h.tx).2, loaded⟩

theorem HostRun.after {op : Operation} {loaded : Nat → Collections} (hbefore : HostRun env P h₀ h) (hP : P h op)
    (hok : ((op.runIn env h.loaded).run h.tx).1 = .ok ()) (hloads : Loads (h.after env op loaded).tx.view h.loaded loaded) :
    HostRun env P h₀ (h.after env op loaded) := by
  rcases hrun : (op.runIn env h.loaded).run h.tx with ⟨r, tx⟩
  rw [hrun] at hok
  obtain rfl : r = .ok () := hok
  unfold HostSession.after at hloads ⊢
  rw [hrun] at hloads ⊢
  exact .returns hbefore hP hrun hloads

theorem Loads.refl (db : Db) (loaded : Nat → Collections) : Loads db loaded loaded := ⟨fun _ => .inl rfl, fun _ => .inl rfl⟩

end

namespace Sample

/-- A store with the reviews one after the other. -/
def sequenceStore : Store := ⟨10, dbOf "reviews in sequence"⟩

/-- What the start has loaded to find its ready items: the finance review. -/
def financeLoaded (i : Nat) : Collections := if i = 11 then ⟨none, some [17]⟩ else .unloaded

def inSequence : HostSession Bool := (sequenceStore.hostSession true).after env start financeLoaded

def firstClaimed : HostSession Bool := inSequence.after env (claim 17) financeLoaded

def secondOpen : HostSession Bool := firstClaimed.after env (complete 17) financeLoaded

theorem financeLoaded_loads : Loads inSequence.tx.view (sequenceStore.hostSession true).loaded financeLoaded := by
  refine ⟨fun i => .inl ?_, fun i => ?_⟩
  · unfold financeLoaded
    split <;> rfl
  · unfold financeLoaded
    split
    · subst i
      exact .inr ⟨rfl, [17], rfl, by decide +kernel⟩
    · exact .inl rfl

end Sample

open Sample in
/-- A termination while the only item is the one the session has loaded. -/
theorem closed_means_closed_terminated :
    (∃ p ∈ (inSequence.after env terminate financeLoaded).tx.view.processInstances, p.status = .terminated) ∧
      (inSequence.after env terminate financeLoaded).tx.view.Closed := by
  have hstart : HostRun env (fun h op => op.Fresh h.tx.view h.loaded) (sequenceStore.hostSession true) inSequence :=
    .after .refl trivial (by decide +kernel) financeLoaded_loads
  have hterminate : HostRun env (fun h op => op.Fresh h.tx.view h.loaded) (sequenceStore.hostSession true)
      (inSequence.after env terminate financeLoaded) := by
    refine .after hstart ?_ (by decide +kernel) (.refl _ _)
    show Collections.Complete _ _ 11
    decide +kernel
  exact ⟨by decide +kernel, (closed_means_closed env_lawful ⟨rfl, rfl, rfl⟩ true hterminate).1⟩

open Sample in
/-- Start, claim, complete and terminate in one session: the second review was
added behind the loaded collection and stays open. -/
theorem shared_session_leaves_open : ∃ h,
    HostRun env (fun _ _ => True) (sequenceStore.hostSession true) h ∧ ¬ h.tx.view.Closed := by
  have hstart : HostRun env (fun _ _ => True) (sequenceStore.hostSession true) inSequence :=
    .after .refl trivial (by decide +kernel) financeLoaded_loads
  have hclaim : HostRun env (fun _ _ => True) (sequenceStore.hostSession true) firstClaimed :=
    .after hstart trivial (by decide +kernel) (.refl _ _)
  have hcomplete : HostRun env (fun _ _ => True) (sequenceStore.hostSession true) secondOpen :=
    .after hclaim trivial (by decide +kernel) (.refl _ _)
  exact ⟨_, .after hcomplete trivial (by decide +kernel : ((terminate.runIn env financeLoaded).run secondOpen.tx).1 = .ok ())
    (.refl _ financeLoaded), by decide +kernel⟩

end M8flowCore
