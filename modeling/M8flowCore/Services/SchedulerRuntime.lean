import M8flowCore.Services.Reactivation
/-!
# The scheduler

A pass locks the due jobs, executes each of them, and collects the failures: a
job that raises is unlocked, the others still run, and the pass raises at the
end.
-/
open M8flowCore.Lib M8flowCore.Session

namespace M8flowCore

section
variable {W Ω : Type} (env : Env W Ω)

/-! ## Payloads -/

/-- `_scheduler_job_user_id`. -/
def schedulerJobUserId (payload : Dict) (key : String) : Except Error Nat :=
  match (payload.get key).bind PyVal.asInt with
  | none => .error (.validation ("Scheduler job payload is missing integer field " ++ pyRepr key))
  | some n => if 0 ≤ n then .ok n.toNat else .error (.notFound s!"User {n} was not found")

/-- `_scheduler_job_timer_task`. -/
def schedulerJobTimerTask (payload : Dict) : Except Error Dict :=
  match payload.get "timer_task" with
  | some (.dict entries) => .ok (PyVal.asDict (.dict entries))
  | _ => .error (.validation "Scheduler job payload is missing a timer_task payload")

/-- `_scheduler_job_task_spec_name`. -/
def schedulerJobTaskSpecName (timerTask : Dict) : Except Error String :=
  match (timerTask.get "task_spec_name").bind PyVal.asStr with
  | some name => if strip name == "" then missing else .ok name
  | none => missing
where
  missing : Except Error String := .error (.validation "Timer start payload is missing its task_spec_name")

/-- The nearest integer, ties to even. -/
def roundHalfEven (q : Rat) : Int :=
  let n := q.floor
  let rest := q - n
  if rest < 1 / 2 then n else if rest > 1 / 2 then n + 1 else if n % 2 = 0 then n else n + 1

/-- `_next_timer_start_task_payload_after_fire`: the payload of the next firing
and its run time in seconds, `none` after the last one. -/
def nextTimerStartTaskPayloadAfterFire (timerTask : Dict) : Except Error (Option (Dict × Int)) :=
  match timerTask.get "event_value" with
  | some (.str _) => .ok none
  | some (.dict entries) =>
    let eventValue : Dict := PyVal.asDict (.dict entries)
    match (eventValue.get "next").bind PyVal.asStr with
    | none | some "" => .error (.validation "Recurring timer start payload is missing its next value")
    | some next =>
      match ((eventValue.get "duration").bind PyVal.asNumber).filter (0 < ·) with
      | none => .error (.validation "Recurring timer start payload is missing its positive duration")
      | some duration =>
        let reschedule (cycles : Option Int) : Except Error (Option (Dict × Int)) :=
          match env.fromisoformat next with
          | none => .error (.other "ValueError" ("Invalid isoformat string: " ++ pyRepr next))
          | some due =>
            let following := due + roundHalfEven (duration * 1000000)
            let nextValue : Dict :=
              [("next", PyVal.str (env.isoformat following)), ("duration", PyVal.float duration)] ++
                (cycles.map fun n => ("cycles", PyVal.int n)).toList
            (timerEventRunAtInSeconds env (Dict.toVal nextValue)).map fun runAt =>
              some (Dict.set (Dict.set timerTask "event_value" (Dict.toVal nextValue)) "run_at_in_seconds"
                (.int runAt), runAt)
        match eventValue.get "cycles" with
        | none | some .none => reschedule none
        | some (.int n) => if n > 1 then reschedule (some (n - 1)) else .ok none
        | some _ => .error (.validation "Recurring timer start payload has invalid cycles")
  | _ => .error (.validation "Timer start payload is missing its event_value")

/-! ## Executing one job -/

/-- `_execute_intermediate_timer_job`. -/
def executeIntermediateTimerJob (job : SchedulerJob) (occurredAt : Time) : M Ω Unit := do
  match job.processInstanceId with
  | none => deleteSchedulerJob job.m8fTenantId job.jobKey
  | some processInstanceId => do
    let pi ← getProcessInstance job.m8fTenantId processInstanceId
    if pi.status = .waiting ∨ pi.status = .userInputRequired then do
      let state ← query (·.workflowStateJson pi)
      if state.isNone then deleteSchedulerJob job.m8fTenantId job.jobKey
      else refreshWaitingProcessInstanceWorkflow env job.m8fTenantId processInstanceId (some occurredAt)
    else deleteSchedulerJob job.m8fTenantId job.jobKey

/-- `_execute_process_retry_job`. -/
def executeProcessRetryJob (job : SchedulerJob) (occurredAt : Time) : M Ω Unit := do
  match job.processInstanceId with
  | none => deleteSchedulerJob job.m8fTenantId job.jobKey
  | some processInstanceId => do
    let pi ← getProcessInstance job.m8fTenantId processInstanceId
    if pi.status = .error then do
      let userId ← ofExcept (schedulerJobUserId job.payloadJson "requested_by_user_id")
      retryProcessInstance env job.m8fTenantId processInstanceId userId (some occurredAt)
    else deleteSchedulerJob job.m8fTenantId job.jobKey

def timerStartSystemUsername : String := "__m8f_timer_start__"

/-- The tenant a timer-start job runs for, by id or by slug. -/
def Db.timerStartTenant? (db : Db) (tenantId : TenantId) : Option Tenant :=
  (db.tenants.find? (·.id == tenantId)).orElse fun _ => db.tenants.find? (·.slug == tenantId)

def timerStartServiceId (tenant : Tenant) : String := timerStartSystemUsername ++ ":" ++ tenant.id

/-- The system user that starts a tenant's processes. -/
def Db.timerStartUser? (db : Db) (tenant : Tenant) : Option User :=
  db.users.find? fun u => u.service == tenant.id && u.serviceId == timerStartServiceId tenant

def newTimerStartUser (tenant : Tenant) (occurredAt : Time) (id : Nat) : User :=
  { id := id, username := timerStartSystemUsername, email := none, service := tenant.id,
    serviceId := timerStartServiceId tenant, displayName := some "Timer Start System", realmIdentifier := none,
    externalOrgId := none, externalUserId := none, updatedAt := some occurredAt, createdAt := some occurredAt }

/-- The system user's row, inserted or stamped. -/
def upsertTimerStartUser (tenant : Tenant) (occurredAt : Time) : M Ω User := do
  match ← query (·.timerStartUser? tenant) with
  | none => do
    let id ← insert fun id db => { db with users := db.users ++ [newTimerStartUser tenant occurredAt id] }
    pure (newTimerStartUser tenant occurredAt id)
  | some user => do
    write fun db =>
      { db with users := updateWhere (·.id == user.id) ({ · with updatedAt := some occurredAt }) db.users }
    pure user

/-- `_ensure_timer_start_system_user`. -/
def ensureTimerStartSystemUser (tenantId : TenantId) (occurredAt : Time) : M Ω User := do
  let found ← query (·.timerStartTenant? tenantId)
  let tenant ← Prog.orRaise (.notFound s!"Tenant {tenantId} was not found") found
  let user ← upsertTimerStartUser tenant occurredAt
  let _ ← ensureV1Role tenant.id roleAdmin [user.id]
  pure user

/-- `_reschedule_or_delete_timer_start_job`. -/
def rescheduleOrDeleteTimerStartJob (job : SchedulerJob) (timerTask : Dict) (occurredAt : Time) : M Ω Unit := do
  match ← ofExcept (nextTimerStartTaskPayloadAfterFire env timerTask) with
  | none => deleteSchedulerJob job.m8fTenantId job.jobKey
  | some (payload, runAt) =>
    upsertSchedulerJob job.m8fTenantId job.jobKey
      { jobType := .timerStart, runAt := runAt * 1000000, processInstanceId := none,
        bpmnProcessDefinitionId := job.bpmnProcessDefinitionId,
        payloadJson := [("scheduled_from", .str "timer_start_runtime"), ("timer_task", payload.toVal)] }
      occurredAt none

/-- `_execute_timer_start_job`. -/
def executeTimerStartJob (job : SchedulerJob) (occurredAt : Time) : M Ω Unit := do
  match job.bpmnProcessDefinitionId with
  | none => deleteSchedulerJob job.m8fTenantId job.jobKey
  | some definitionId => do
    let definition ← query (·.tenantDefinition? job.m8fTenantId definitionId)
    match definition.bind (·.sourceBpmnXml) with
    | none => deleteSchedulerJob job.m8fTenantId job.jobKey
    | some _ => do
      let timerTask ← ofExcept (schedulerJobTimerTask job.payloadJson)
      let systemUser ← ensureTimerStartSystemUser job.m8fTenantId occurredAt
      let specName ← ofExcept (schedulerJobTaskSpecName timerTask)
      initializeProcessInstanceFromTimerStart env job.m8fTenantId definitionId systemUser.id specName (some occurredAt)
      rescheduleOrDeleteTimerStartJob env job timerTask occurredAt

/-- `_execute_claimed_scheduler_job`. -/
def executeClaimedSchedulerJob (job : SchedulerJob) (occurredAt : Time) : M Ω Unit :=
  match job.jobType with
  | .intermediateTimer => executeIntermediateTimerJob env job occurredAt
  | .processRetry => executeProcessRetryJob env job occurredAt
  | .timerStart => executeTimerStartJob env job occurredAt

/-! ## A pass -/

/-- `claim_due_scheduler_jobs`. -/
def claimDueSchedulerJobs (now : Time) (limit : Int) (workerId : String) (tenantId : Option TenantId) :
    M Ω (List SchedulerJob) := do
  if strip workerId == "" then Prog.raise (.validation "Scheduler worker id cannot be blank")
  else do
    let jobs ← listDueSchedulerJobs now limit tenantId
    write fun db =>
      { db with
        schedulerJobs := updateWhere (fun j => jobs.any (·.id == j.id))
          ({ · with lockedBy := some (strip workerId), lockedAt := some now, updatedAt := now }) db.schedulerJobs }
    pure jobs

/-- `_release_scheduler_job_lock`. -/
def releaseSchedulerJobLock (jobId : Nat) (updatedAt : Time) : M Ω Unit :=
  write fun db =>
    { db with
      schedulerJobs := updateWhere (·.id == jobId) ({ · with lockedBy := none, lockedAt := none, updatedAt := updatedAt })
        db.schedulerJobs }

/-- The error a failing job leaves in the batch. -/
def jobError (job : SchedulerJob) (e : Error) : Error :=
  if e.isBpmnCore then e else .bpmnCore ("Scheduled job " ++ pyRepr job.jobKey ++ " failed during execution")

/-- Execute one job of a batch: `none` if it succeeded, its error otherwise. -/
def attemptSchedulerJob (occurredAt : Time) (job : SchedulerJob) : M Ω (Option (String × Error)) :=
  Prog.attempt
    (do
      executeClaimedSchedulerJob env job occurredAt
      pure none)
    (fun e => do
      releaseSchedulerJobLock job.id occurredAt
      pure (some (job.jobKey, jobError job e)))

/-- `_build_scheduler_batch_error`. -/
def buildSchedulerBatchError (errors : List (String × Error)) : Error :=
  let details := joinWith ", " (errors.map fun e => e.1 ++ ": " ++ e.2.typeName ++ ": " ++ e.2.message)
  .bpmnCore s!"{errors.length} scheduler jobs failed in one batch: {details}"

/-- `run_due_scheduler_jobs`. -/
def runDueSchedulerJobs (now : Option Time) (limit : Int) (workerId : String) (tenantId : Option TenantId) :
    M Ω Nat := do
  let occurredAt ← resolveTimestamp env now
  let jobs ← claimDueSchedulerJobs occurredAt limit workerId tenantId
  let outcomes ← Prog.mapEach jobs (attemptSchedulerJob env occurredAt)
  match outcomes.filterMap id with
  | [] => pure outcomes.length
  | [(_, e)] => Prog.raise e
  | errors => Prog.raise (buildSchedulerBatchError errors)

end
end M8flowCore
