import M8flowCore.Services.WorkflowRuntime
/-!
# Resume and retry

The lifecycle commands that re-enter the workflow runtime.
-/
open M8flowCore.Lib M8flowCore.Session

namespace M8flowCore

section
variable {W Ω : Type} (env : Env W Ω)

/-- `resume_process_instance`. -/
def resumeProcessInstance (tenantId : TenantId) (processInstanceId userId : Nat) (resumedAt : Option Time) :
    M Ω Unit := do
  let pi ← openProcessInstanceCommand env tenantId processInstanceId userId processResumeCommand
  if pi.status = .running then pure ()
  else if pi.hasTerminalStatus then Prog.raise (.invalidState "Cannot resume a terminal process instance")
  else if pi.status ≠ .suspended then
    Prog.raise (.invalidState "Only suspended process instances can be resumed")
  else do
    let occurredAt ← resolveTimestamp env resumedAt
    updateInstance processInstanceId ({ · with status := .running, updatedAt := some occurredAt })
    syncOpenWorkItemPotentialOwners env tenantId processInstanceId none
    recordProcessInstanceEvent tenantId processInstanceId .processInstanceResumed occurredAt none (some userId)

/-- `retry_process_instance`. -/
def retryProcessInstance (tenantId : TenantId) (processInstanceId userId : Nat) (retriedAt : Option Time) :
    M Ω Unit := do
  let pi ← openProcessInstanceCommand env tenantId processInstanceId userId processRetryCommand
  if pi.status ≠ .error then Prog.raise (.invalidState "Only errored process instances can be retried")
  else do
    let occurredAt ← resolveTimestamp env retriedAt
    updateInstance processInstanceId ({ · with status := .running, endedAt := none, updatedAt := some occurredAt })
    -- The session keeps the `work_items` collection it loads to reopen them.
    let loaded ← query fun db => (db.workItems.filter (·.processInstanceId == processInstanceId)).map (·.id)
    write (·.reopenRuntimeState processInstanceId occurredAt)
    retryErroredServiceTaskWorkflowIfNeeded env tenantId processInstanceId (some occurredAt)
    deleteSchedulerJob tenantId (instanceJobKey .processRetry processInstanceId)
    recordProcessInstanceEvent tenantId processInstanceId .processInstanceRetried occurredAt none (some userId)
    retryErroredServiceTaskWorkflowIfNeeded env tenantId processInstanceId (some occurredAt)
    syncOpenWorkItemPotentialOwners env tenantId processInstanceId (some loaded)

end
end M8flowCore
