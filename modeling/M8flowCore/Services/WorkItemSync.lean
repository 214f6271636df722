import M8flowCore.Services.LaneAssignment
import M8flowCore.Services.WorkflowState
/-!
# Work items of a saved workflow

After a save, the open work items are brought in line with the workflow: items
whose task is no longer ready are closed, and every ready manual task gets an
open item with its potential owners. The instance's status follows last.
-/
open M8flowCore.Lib M8flowCore.Session

namespace M8flowCore

section
variable {W Ω : Type} (env : Env W Ω)

/-- `_current_ready_manual_tasks`: ready in the workflow and in the task rows. -/
def currentReadyManualTasks (db : Db) (instanceId : Nat) (w : W) : List SpiffTask :=
  (env.readyManualTasks w).filter fun t => (db.task? t.id).any fun row =>
    row.processInstanceId == instanceId && row.state == .spiff .ready

/-- `_inactive_work_item_status`. -/
def inactiveWorkItemStatus : Option TaskModelState → WorkItemState
  | some (.spiff .cancelled) => .cancelled
  | some (.spiff .completed) => .completed
  | some (.spiff .error) => .error
  | _ => .terminated

/-- `_inactive_work_item_event_type`. -/
def inactiveWorkItemEventType : Option TaskModelState → Option EventType
  | some (.spiff .cancelled) => some .taskCancelled
  | some (.spiff .error) => some .taskFailed
  | _ => none

/-- The future task of a closed item's task is done. -/
def completeFutureTask (taskGuid : Option Guid) (occurredAt : Time) : M Ω Unit :=
  write (·.updateFutureTasks (fun f => taskGuid == some f.guid) ({ · with completed := true, updatedAt := occurredAt }))

/-- `_close_inactive_work_item`, on an open item. -/
def closeInactiveWorkItem (pi : ProcessInstance) (item : WorkItem) (taskState : Option TaskModelState)
    (occurredAt : Time) : M Ω Unit := do
  write (·.updateWorkItem item fun w => w.close (inactiveWorkItemStatus taskState) occurredAt none)
  completeFutureTask item.taskGuid occurredAt
  match inactiveWorkItemEventType taskState with
  | none => pure ()
  | some eventType =>
    recordProcessInstanceEvent pi.m8fTenantId pi.id eventType occurredAt item.taskGuid none

/-- Whether `_sync_inactive_work_items` closes an item: its task is not ready in
the workflow, or its task row is not. -/
def isInactive (ready : List Guid) (item : WorkItem) (task : Option Task) : Bool :=
  !(item.taskGuid.any ready.contains) || task.any (·.state != .spiff .ready)

/-- `_sync_inactive_work_items`. -/
def syncInactiveWorkItems (pi : ProcessInstance) (w : W) (occurredAt : Time) : M Ω Unit := do
  let ready ← query fun db => (currentReadyManualTasks env db pi.id w).map (·.id)
  let items ← query fun db => db.workItems.filter fun item =>
    item.m8fTenantId == pi.m8fTenantId && item.processInstanceId == pi.id && !item.completed
  Prog.forEach items fun item => do
    let task ← query fun db => item.taskGuid.bind db.task?
    if isInactive ready item task then closeInactiveWorkItem pi item (task.map (·.state)) occurredAt
    else pure ()

/-- The row of a task's first work item. -/
def newWorkItem (pi : ProcessInstance) (taskGuid : Guid) (occurredAt : Time) (id : Nat) : WorkItem :=
  { id := id, m8fTenantId := pi.m8fTenantId, processInstanceId := pi.id, taskGuid := some taskGuid,
    laneAssignmentId := none, completedByUserId := none, actualOwnerId := none, taskStatus := .ready,
    completed := false, updatedAt := some occurredAt, createdAt := some occurredAt }

/-- `_upsert_work_item`: a new item, or the old one made ready again. -/
def upsertWorkItem (pi : ProcessInstance) (taskGuid : Guid) (occurredAt : Time) : M Ω Nat := do
  let existing ← query fun db => db.workItems.find? fun item =>
    item.m8fTenantId == pi.m8fTenantId && item.processInstanceId == pi.id && item.taskGuid == some taskGuid
  let id ← match existing with
    | none =>
      insert fun id db => { db with workItems := db.workItems ++ [newWorkItem pi taskGuid occurredAt id] }
    | some item => do
      write (·.updateWorkItem item (·.prepareForReadyState occurredAt))
      pure item.id
  updateInstance pi.id ({ · with taskUpdatedAt := some occurredAt })
  pure id

/-- `_upsert_future_task`. -/
def upsertFutureTask (tenantId : TenantId) (guid : Guid) (occurredAt : Time) : M Ω Unit :=
  write fun db =>
    if db.futureTasks.any (·.guid == guid) then
      db.updateFutureTasks (·.guid == guid)
        ({ · with runAt := occurredAt, queuedToRunAt := some occurredAt, completed := false,
                  archivedForProcessInstanceStatus := false, updatedAt := occurredAt })
    else
      { db with
        futureTasks := db.futureTasks ++
          [{ guid := guid, m8fTenantId := tenantId, runAt := occurredAt, queuedToRunAt := some occurredAt,
             completed := false, archivedForProcessInstanceStatus := false, updatedAt := occurredAt }] }

/-- `_materialize_single_manual_task`. -/
def materializeSingleManualTask (pi : ProcessInstance) (t : SpiffTask) (occurredAt : Time) : M Ω Unit := do
  let process ← query fun db => pi.bpmnProcessId.bind db.bpmnProcess?
  let _ ← Prog.orRaise (.validation "Process instance is missing a BPMN process") process
  let definitionId ← Prog.orRaise (.validation "Process instance is missing a BPMN process definition")
    pi.bpmnProcessDefinitionId
  if t.specName == "" then Prog.raise (.validation "Task spec is missing its serialized identifier")
  else do
    let definition ← upsertTaskDefinitionFromPayload pi.m8fTenantId definitionId
      (qualifiedTaskIdentifier (t.subprocess.filter (· != "")) t.specName)
      (t.specPayload.set "__m8f_task_identifier" (.str t.specName)) occurredAt
    let guid ← upsertTaskModelFromPayload env pi definition t.payload occurredAt
    let workItemId ← upsertWorkItem pi guid occurredAt
    let properties ← query fun db => (pi.bpmnProcessDefinitionId.bind db.definition?).map (·.propertiesJson)
    assignWorkItemPotentialOwners env pi workItemId t.lane t.data properties
    upsertFutureTask pi.m8fTenantId t.id occurredAt

/-- `_materialize_ready_manual_tasks`. -/
def materializeReadyManualTasks (pi : ProcessInstance) (w : W) (occurredAt : Time) : M Ω Unit := do
  let ready ← query fun db => currentReadyManualTasks env db pi.id w
  Prog.forEach ready fun t => materializeSingleManualTask env pi t occurredAt

/-- The status a running workflow gives its instance. -/
def statusOf (w : W) : ProcessInstanceStatus :=
  if env.completed w then .complete
  else if env.readyManualTasks w ≠ [] then .userInputRequired
  else if env.waitingTasks w ≠ [] then .waiting
  else .running

/-- `_update_process_instance_status_from_workflow`. -/
def updateProcessInstanceStatusFromWorkflow (pi : ProcessInstance) (w : W) (occurredAt : Time) : M Ω Unit :=
  if env.completed w then do
    updateInstance pi.id
      ({ · with status := .complete, endedAt := some occurredAt, updatedAt := some occurredAt })
    write fun db => match pi.bpmnProcessId with
      | none => db
      | some processId => db.updateBpmnProcess processId ({ · with endedAt := some occurredAt })
    write fun db => db.updateFutureTasks (db.isFutureTaskOf pi.id)
      ({ · with completed := true, archivedForProcessInstanceStatus := true, updatedAt := occurredAt })
  else do
    updateInstance pi.id
      ({ · with status := statusOf env w, endedAt := none, updatedAt := some occurredAt,
                taskUpdatedAt := some occurredAt })
    let startedAt ← query fun db => ((db.processInstance? pi.id).bind (·.startedAt)).getD occurredAt
    write fun db => match pi.bpmnProcessId with
      | none => db
      | some processId => db.updateBpmnProcess processId fun p =>
          { p with startedAt := some (p.startedAt.getD startedAt), endedAt := none }

/-- Everything a successful run of the workflow writes. `startedAt` is set
between the work items and the status when the instance is being started. -/
def saveWorkflow (pi : ProcessInstance) (w : W) (occurredAt : Time) (starting : Bool) : M Ω Unit := do
  persistWorkflowState env pi w occurredAt
  syncInactiveWorkItems env pi w occurredAt
  materializeReadyManualTasks env pi w occurredAt
  if starting then updateInstance pi.id ({ · with startedAt := some occurredAt }) else pure ()
  updateProcessInstanceStatusFromWorkflow env pi w occurredAt

end
end M8flowCore
