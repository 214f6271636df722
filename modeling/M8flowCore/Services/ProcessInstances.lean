import M8flowCore.Services.Authorization
import M8flowCore.Services.SchedulerJobs
import M8flowCore.Services.WorkItems
/-!
# Process instances

Creating an instance, its events and metadata, and the lifecycle commands that
do not re-enter the workflow: suspend, error, schedule a retry, terminate.
-/
open M8flowCore.Lib M8flowCore.Session

namespace M8flowCore

/-! ## Changes of the tables -/

namespace Db
variable (db : Db)

def updateInstance (id : Nat) (f : ProcessInstance → ProcessInstance) : Db :=
  { db with processInstances := updateWhere (·.id == id) f db.processInstances }

def updateBpmnProcess (id : Nat) (f : BpmnProcess → BpmnProcess) : Db :=
  { db with bpmnProcesses := updateWhere (·.id == id) f db.bpmnProcesses }

/-- Write an item the session has loaded: its row, under its instance. -/
def updateWorkItem (item : WorkItem) (f : WorkItem → WorkItem) : Db :=
  { db with
    workItems := updateWhere (fun w => w.id == item.id && w.processInstanceId == item.processInstanceId) f db.workItems }

def updateTask (guid : Guid) (f : Task → Task) : Db :=
  { db with tasks := updateWhere (·.guid == guid) f db.tasks }

def updateFutureTasks (p : FutureTask → Bool) (f : FutureTask → FutureTask) : Db :=
  { db with futureTasks := updateWhere p f db.futureTasks }

/-- The future task of a task of the instance. -/
def isFutureTaskOf (instanceId : Nat) (f : FutureTask) : Bool :=
  db.tasks.any fun t => t.processInstanceId == instanceId && t.guid == f.guid

/-- `_close_process_instance_runtime_state`. -/
def closeRuntimeState (instanceId : Nat) (occurredAt : Time) (userId : Option Nat) : Db :=
  { db with
    processInstances := updateWhere (·.id == instanceId) ({ · with taskUpdatedAt := some occurredAt }) db.processInstances
    futureTasks := updateWhere (db.isFutureTaskOf instanceId)
      ({ · with completed := true, archivedForProcessInstanceStatus := true, updatedAt := occurredAt }) db.futureTasks
    tasks := updateWhere (·.processInstanceId == instanceId)
      (fun t => { t with
        state := if t.state = .spiff .completed then t.state else .terminated, endedAt := some occurredAt }) db.tasks
    workItems := updateWhere (fun w => w.processInstanceId == instanceId && !w.completed)
      (fun w => w.close .terminated occurredAt userId) db.workItems }

/-- `_reopen_process_instance_runtime_state`. -/
def reopenRuntimeState (instanceId : Nat) (occurredAt : Time) : Db :=
  { db with
    processInstances := updateWhere (·.id == instanceId) ({ · with taskUpdatedAt := some occurredAt }) db.processInstances
    futureTasks := updateWhere
      (fun f => db.tasks.any fun t => t.processInstanceId == instanceId && t.state == .terminated && t.guid == f.guid)
      ({ · with completed := false, archivedForProcessInstanceStatus := false, updatedAt := occurredAt }) db.futureTasks
    tasks := updateWhere (fun t => t.processInstanceId == instanceId && t.state == .terminated)
      (fun t => { t with state := .spiff .ready, startedAt := none, endedAt := none }) db.tasks
    workItems := updateWhere
      (fun w => w.processInstanceId == instanceId && (w.taskStatus == .terminated || w.completed))
      (fun w => w.reopen occurredAt) db.workItems }

end Db

section
variable {W Ω : Type} (env : Env W Ω)

def processInstanceNotFound (tenantId : TenantId) (processInstanceId : Nat) : Error :=
  .notFound s!"Process instance {processInstanceId} was not found for tenant {tenantId}"

/-- `_load_process_instance`. -/
def loadProcessInstance (tenantId : TenantId) (processInstanceId : Nat) : M Ω ProcessInstance := do
  let pi ← query fun db => db.processInstances.find? fun p => p.m8fTenantId == tenantId && p.id == processInstanceId
  Prog.orRaise (processInstanceNotFound tenantId processInstanceId) pi

/-- `get_process_instance`. -/
def getProcessInstance (tenantId : TenantId) (processInstanceId : Nat) : M Ω ProcessInstance :=
  loadProcessInstance tenantId processInstanceId

def updateInstance (id : Nat) (f : ProcessInstance → ProcessInstance) : M Ω Unit := write (·.updateInstance id f)

/-- What `create_process_instance` is given. -/
structure NewProcessInstance where
  processModelIdentifier : String
  processModelDisplayName : String
  processInitiatorId : Nat
  bpmnProcessDefinitionId : Nat
  bpmnProcessId : Nat
  summary : Option String
  createdAt : Option Time
  updatedAt : Option Time

/-- The row `create_process_instance` inserts. The `process_version` argument is
not stored. -/
def NewProcessInstance.row (new : NewProcessInstance) (tenantId : TenantId) (id : Nat) (occurredAt : Time) :
    ProcessInstance :=
  { id := id, m8fTenantId := tenantId, processModelIdentifier := new.processModelIdentifier,
    processModelDisplayName := new.processModelDisplayName, summary := new.summary,
    processInitiatorId := new.processInitiatorId,
    bpmnProcessDefinitionId := some new.bpmnProcessDefinitionId, bpmnProcessId := some new.bpmnProcessId,
    workflowEngineVersion := none, status := .notStarted, startedAt := none, endedAt := none,
    taskUpdatedAt := none, updatedAt := some (new.updatedAt.getD occurredAt), createdAt := some occurredAt,
    bpmnVersionControlType := none, bpmnVersionControlIdentifier := none, lastMilestoneBpmnName := none,
    bpmnVersionId := none }

/-- `create_process_instance`. -/
def createProcessInstance (tenantId : TenantId) (new : NewProcessInstance) : M Ω Nat := do
  let _ ← ensureUserBelongsToTenant tenantId new.processInitiatorId
  let occurredAt ← resolveTimestamp env new.createdAt
  insert fun id db => { db with processInstances := db.processInstances ++ [new.row tenantId id occurredAt] }

/-- A member's instance is created under the next id. -/
theorem createProcessInstance_run {tenantId : TenantId} {new : NewProcessInstance} {s : Tx Ω}
    (h : s.view.isMember tenantId new.processInitiatorId = true) :
    (createProcessInstance env tenantId new).run s = (.ok s.seq, { s with
      seq := s.seq + 1
      view := { s.view with
        processInstances := s.view.processInstances ++
          [new.row tenantId s.seq (new.createdAt.getD (env.now s.world))] } }) := by
  unfold createProcessInstance
  obtain ⟨user, huser⟩ := user_of_isMember h
  rw [Prog.bind_run_ok (ensureUserBelongsToTenant_ok.2 ⟨huser, h, rfl⟩)]
  rfl

/-- `record_process_instance_event`. -/
def recordProcessInstanceEvent (tenantId : TenantId) (processInstanceId : Nat) (eventType : EventType)
    (occurredAt : Time) (taskGuid : Option Guid) (userId : Option Nat) : M Ω Unit := do
  match userId with
  | none => pure ()
  | some userId => do
    let _ ← ensureUserBelongsToTenant tenantId userId
    pure ()
  let _ ← loadProcessInstance tenantId processInstanceId
  let _ ← insert fun id db =>
    { db with
      events := db.events ++
        [{ id := id, m8fTenantId := tenantId, taskGuid := taskGuid, processInstanceId := processInstanceId,
           eventType := eventType, category := eventType.category, occurredAt := occurredAt, userId := userId }] }
  pure ()

/-- `upsert_process_instance_metadata`. -/
def upsertProcessInstanceMetadata (tenantId : TenantId) (processInstanceId : Nat) (key value : String)
    (updatedAt : Time) (createdAt : Option Time) : M Ω Unit := do
  let _ ← loadProcessInstance tenantId processInstanceId
  let isRow (m : ProcessInstanceMetadata) : Bool :=
    m.m8fTenantId == tenantId && m.processInstanceId == processInstanceId && m.key == key
  match ← query fun db => db.metadata.find? isRow with
  | none =>
    let _ ← insert fun id db =>
      { db with
        metadata := db.metadata ++
          [{ id := id, m8fTenantId := tenantId, processInstanceId := processInstanceId, key := key, value := value,
             updatedAt := updatedAt, createdAt := createdAt.getD updatedAt }] }
    pure ()
  | some _ =>
    write fun db =>
      { db with
        metadata := updateWhere isRow
          (fun m => { m with value := value, updatedAt := updatedAt, createdAt := createdAt.getD m.createdAt })
          db.metadata }

/-- `(key, id)` order. -/
def ProcessInstanceMetadata.before (a b : ProcessInstanceMetadata) : Prop :=
  a.key < b.key ∨ (a.key = b.key ∧ a.id ≤ b.id)

instance : DecidableRel ProcessInstanceMetadata.before := fun _ _ => inferInstanceAs (Decidable (_ ∨ _))

/-- `get_process_instance_metadata`. -/
def getProcessInstanceMetadata (tenantId : TenantId) (processInstanceId : Nat) : M Ω (List ProcessInstanceMetadata) := do
  let _ ← loadProcessInstance tenantId processInstanceId
  query fun db => (db.metadata.filter fun m =>
    m.m8fTenantId == tenantId && m.processInstanceId == processInstanceId).insertionSort ProcessInstanceMetadata.before

/-! ## Lifecycle commands -/

/-- The checks every lifecycle command of a user starts with. -/
def openProcessInstanceCommand (tenantId : TenantId) (processInstanceId userId : Nat) (commandKey : String) :
    M Ω ProcessInstance := do
  let _ ← ensureUserBelongsToTenant tenantId userId
  let pi ← loadProcessInstance tenantId processInstanceId
  requireCommandAuthorization env tenantId userId commandKey .processInstance (toString pi.id) []
  pure pi

/-- `suspend_process_instance`. -/
def suspendProcessInstance (tenantId : TenantId) (processInstanceId userId : Nat) (suspendedAt : Option Time) :
    M Ω Unit := do
  let pi ← openProcessInstanceCommand env tenantId processInstanceId userId processSuspendCommand
  if pi.status = .suspended then pure ()
  else if pi.hasTerminalStatus then Prog.raise (.invalidState "Cannot suspend a terminal process instance")
  else do
    let occurredAt ← resolveTimestamp env suspendedAt
    updateInstance processInstanceId ({ · with status := .suspended, updatedAt := some occurredAt })
    recordProcessInstanceEvent tenantId processInstanceId .processInstanceSuspended occurredAt none (some userId)

/-- `error_process_instance`. -/
def errorProcessInstance (tenantId : TenantId) (processInstanceId : Nat) (userId : Option Nat)
    (erroredAt : Option Time) : M Ω Unit := do
  match userId with
  | none => pure ()
  | some userId => do
    let _ ← ensureUserBelongsToTenant tenantId userId
    pure ()
  let pi ← loadProcessInstance tenantId processInstanceId
  if pi.status = .error then pure ()
  else if pi.status = .complete then
    Prog.raise (.invalidState "Cannot mark a completed process instance as errored")
  else if pi.status = .terminated then
    Prog.raise (.invalidState "Cannot mark a terminated process instance as errored")
  else do
    let occurredAt ← resolveTimestamp env erroredAt
    updateInstance processInstanceId
      ({ · with status := .error, endedAt := some occurredAt, updatedAt := some occurredAt })
    write (·.closeRuntimeState processInstanceId occurredAt userId)
    recordProcessInstanceEvent tenantId processInstanceId .processInstanceError occurredAt none userId

/-- `schedule_process_instance_retry`. -/
def scheduleProcessInstanceRetry (tenantId : TenantId) (processInstanceId userId : Nat) (retryAt : Time)
    (scheduledAt : Option Time) : M Ω Unit := do
  let pi ← openProcessInstanceCommand env tenantId processInstanceId userId processRetryCommand
  if pi.status ≠ .error then
    Prog.raise (.invalidState "Only errored process instances can be scheduled for retry")
  else do
    let occurredAt ← resolveTimestamp env scheduledAt
    upsertSchedulerJob tenantId (instanceJobKey .processRetry processInstanceId)
      { jobType := .processRetry, runAt := retryAt, processInstanceId := some processInstanceId,
        bpmnProcessDefinitionId := pi.bpmnProcessDefinitionId,
        payloadJson := [("requested_by_user_id", .int userId), ("scheduled_at", .str (env.isoformat occurredAt))] }
      occurredAt (some occurredAt)

/-- `terminate_process_instance`. -/
def terminateProcessInstance (tenantId : TenantId) (processInstanceId userId : Nat) (terminatedAt : Option Time) :
    M Ω Unit := do
  let pi ← openProcessInstanceCommand env tenantId processInstanceId userId processTerminateCommand
  if pi.status = .terminated then pure ()
  else if pi.status = .complete ∨ pi.status = .error then
    Prog.raise (.invalidState "Cannot terminate a completed or errored process instance")
  else do
    let occurredAt ← resolveTimestamp env terminatedAt
    updateInstance processInstanceId
      ({ · with status := .terminated, endedAt := some occurredAt, updatedAt := some occurredAt })
    write (·.closeRuntimeState processInstanceId occurredAt (some userId))
    recordProcessInstanceEvent tenantId processInstanceId .processInstanceTerminated occurredAt none (some userId)

end
end M8flowCore
