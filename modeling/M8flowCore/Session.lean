import M8flowCore.Lib.Prog
import M8flowCore.Lib.Tables
import M8flowCore.Models
/-!
# Sessions and transactions

A service function runs inside a session: it reads and writes a copy of the
database, and its caller commits or rolls back. `Tx` is that session together
with the committed database behind it. A few paths of the workflow runtime
open a second session of their own and commit it (`independently`); everything
else touches the caller's copy only.

A commit writes rows and columns, not the whole copy, so that two
transactions which overlap are merged column by column over what is committed
when the second one finishes.
-/
open M8flowCore.Lib

namespace M8flowCore

/-! ## Errors -/

/-- The exceptions a service raises. `other` is any exception outside the
library's hierarchy, named by its Python class. -/
inductive Error where
  | bpmnCore (message : String)
  | validation (message : String)
  | invalidState (message : String)
  | callActivityResolution (message : String)
  | authorization (message : String)
  | notFound (message : String)
  | serviceTaskExecution (message : String)
  | other (kind message : String)
  deriving DecidableEq

namespace Error

/-- `str(error)`. -/
def message : Error → String
  | .bpmnCore m | .validation m | .invalidState m | .callActivityResolution m | .authorization m | .notFound m
  | .serviceTaskExecution m | .other _ m => m

/-- `type(error).__name__`. -/
def typeName : Error → String
  | .bpmnCore _ => "BpmnCoreError"
  | .validation _ => "ValidationError"
  | .invalidState _ => "InvalidStateError"
  | .callActivityResolution _ => "CallActivityResolutionError"
  | .authorization _ => "AuthorizationError"
  | .notFound _ => "NotFoundError"
  | .serviceTaskExecution _ => "ServiceTaskExecutionError"
  | .other kind _ => kind

/-- `isinstance(error, BpmnCoreError)`. -/
def isBpmnCore : Error → Bool
  | .other _ _ => false
  | _ => true

end Error

/-! ## Merging one row -/

def Tenant.merge (b v c : Tenant) : Tenant :=
  { id := v.id, slug := pick b.slug v.slug c.slug }

def User.merge (b v c : User) : User :=
  { id := v.id, username := pick b.username v.username c.username, email := pick b.email v.email c.email,
    service := pick b.service v.service c.service, serviceId := pick b.serviceId v.serviceId c.serviceId,
    displayName := pick b.displayName v.displayName c.displayName,
    realmIdentifier := pick b.realmIdentifier v.realmIdentifier c.realmIdentifier,
    externalOrgId := pick b.externalOrgId v.externalOrgId c.externalOrgId,
    externalUserId := pick b.externalUserId v.externalUserId c.externalUserId,
    updatedAt := pick b.updatedAt v.updatedAt c.updatedAt,
    createdAt := pick b.createdAt v.createdAt c.createdAt }

def Group.merge (b v c : Group) : Group :=
  { id := v.id, name := pick b.name v.name c.name, identifier := pick b.identifier v.identifier c.identifier,
    authorizationKey := pick b.authorizationKey v.authorizationKey c.authorizationKey }

def UserGroupAssignment.merge (b v c : UserGroupAssignment) : UserGroupAssignment :=
  { id := v.id, userId := pick b.userId v.userId c.userId, groupId := pick b.groupId v.groupId c.groupId }

def Principal.merge (b v c : Principal) : Principal :=
  { id := v.id, userId := pick b.userId v.userId c.userId, groupId := pick b.groupId v.groupId c.groupId }

def PermissionTarget.merge (b v c : PermissionTarget) : PermissionTarget :=
  { id := v.id, command := pick b.command v.command c.command,
    resourceType := pick b.resourceType v.resourceType c.resourceType,
    resourceId := pick b.resourceId v.resourceId c.resourceId }

def PermissionAssignment.merge (b v c : PermissionAssignment) : PermissionAssignment :=
  { id := v.id, principalId := pick b.principalId v.principalId c.principalId,
    permissionTargetId := pick b.permissionTargetId v.permissionTargetId c.permissionTargetId,
    grantType := pick b.grantType v.grantType c.grantType,
    permission := pick b.permission v.permission c.permission }

def BpmnProcessDefinition.merge (b v c : BpmnProcessDefinition) : BpmnProcessDefinition :=
  { id := v.id, m8fTenantId := pick b.m8fTenantId v.m8fTenantId c.m8fTenantId,
    processXmlDigest := pick b.processXmlDigest v.processXmlDigest c.processXmlDigest,
    bpmnIdentifier := pick b.bpmnIdentifier v.bpmnIdentifier c.bpmnIdentifier,
    bpmnName := pick b.bpmnName v.bpmnName c.bpmnName,
    propertiesJson := pick b.propertiesJson v.propertiesJson c.propertiesJson,
    bpmnVersionControlType := pick b.bpmnVersionControlType v.bpmnVersionControlType c.bpmnVersionControlType,
    bpmnVersionControlIdentifier := pick b.bpmnVersionControlIdentifier v.bpmnVersionControlIdentifier c.bpmnVersionControlIdentifier,
    updatedAt := pick b.updatedAt v.updatedAt c.updatedAt,
    createdAt := pick b.createdAt v.createdAt c.createdAt }

def ProcessModelBpmnVersion.merge (b v c : ProcessModelBpmnVersion) : ProcessModelBpmnVersion :=
  { id := v.id, m8fTenantId := pick b.m8fTenantId v.m8fTenantId c.m8fTenantId,
    processModelIdentifier := pick b.processModelIdentifier v.processModelIdentifier c.processModelIdentifier,
    bpmnXmlHash := pick b.bpmnXmlHash v.bpmnXmlHash c.bpmnXmlHash,
    bpmnXmlFileContents := pick b.bpmnXmlFileContents v.bpmnXmlFileContents c.bpmnXmlFileContents,
    createdAt := pick b.createdAt v.createdAt c.createdAt }

def TaskDefinition.merge (b v c : TaskDefinition) : TaskDefinition :=
  { id := v.id, m8fTenantId := pick b.m8fTenantId v.m8fTenantId c.m8fTenantId,
    bpmnProcessDefinitionId := pick b.bpmnProcessDefinitionId v.bpmnProcessDefinitionId c.bpmnProcessDefinitionId,
    bpmnIdentifier := pick b.bpmnIdentifier v.bpmnIdentifier c.bpmnIdentifier,
    bpmnName := pick b.bpmnName v.bpmnName c.bpmnName, typename := pick b.typename v.typename c.typename,
    propertiesJson := pick b.propertiesJson v.propertiesJson c.propertiesJson,
    updatedAt := pick b.updatedAt v.updatedAt c.updatedAt,
    createdAt := pick b.createdAt v.createdAt c.createdAt }

def BpmnProcess.merge (b v c : BpmnProcess) : BpmnProcess :=
  { id := v.id, m8fTenantId := pick b.m8fTenantId v.m8fTenantId c.m8fTenantId,
    bpmnProcessDefinitionId := pick b.bpmnProcessDefinitionId v.bpmnProcessDefinitionId c.bpmnProcessDefinitionId,
    propertiesJson := pick b.propertiesJson v.propertiesJson c.propertiesJson,
    jsonDataHash := pick b.jsonDataHash v.jsonDataHash c.jsonDataHash,
    startedAt := pick b.startedAt v.startedAt c.startedAt, endedAt := pick b.endedAt v.endedAt c.endedAt }

def JsonData.merge (b v c : JsonData) : JsonData :=
  { m8fTenantId := v.m8fTenantId, hash := v.hash, data := pick b.data v.data c.data }

def ProcessInstance.merge (b v c : ProcessInstance) : ProcessInstance :=
  { id := v.id, m8fTenantId := pick b.m8fTenantId v.m8fTenantId c.m8fTenantId,
    processModelIdentifier := pick b.processModelIdentifier v.processModelIdentifier c.processModelIdentifier,
    processModelDisplayName := pick b.processModelDisplayName v.processModelDisplayName c.processModelDisplayName,
    summary := pick b.summary v.summary c.summary,
    processInitiatorId := pick b.processInitiatorId v.processInitiatorId c.processInitiatorId,
    bpmnProcessDefinitionId := pick b.bpmnProcessDefinitionId v.bpmnProcessDefinitionId c.bpmnProcessDefinitionId,
    bpmnProcessId := pick b.bpmnProcessId v.bpmnProcessId c.bpmnProcessId,
    workflowEngineVersion := pick b.workflowEngineVersion v.workflowEngineVersion c.workflowEngineVersion,
    status := pick b.status v.status c.status, startedAt := pick b.startedAt v.startedAt c.startedAt,
    endedAt := pick b.endedAt v.endedAt c.endedAt,
    taskUpdatedAt := pick b.taskUpdatedAt v.taskUpdatedAt c.taskUpdatedAt,
    updatedAt := pick b.updatedAt v.updatedAt c.updatedAt,
    createdAt := pick b.createdAt v.createdAt c.createdAt,
    bpmnVersionControlType := pick b.bpmnVersionControlType v.bpmnVersionControlType c.bpmnVersionControlType,
    bpmnVersionControlIdentifier := pick b.bpmnVersionControlIdentifier v.bpmnVersionControlIdentifier c.bpmnVersionControlIdentifier,
    lastMilestoneBpmnName := pick b.lastMilestoneBpmnName v.lastMilestoneBpmnName c.lastMilestoneBpmnName,
    bpmnVersionId := pick b.bpmnVersionId v.bpmnVersionId c.bpmnVersionId }

def ProcessInstanceMetadata.merge (b v c : ProcessInstanceMetadata) : ProcessInstanceMetadata :=
  { id := v.id, m8fTenantId := pick b.m8fTenantId v.m8fTenantId c.m8fTenantId,
    processInstanceId := pick b.processInstanceId v.processInstanceId c.processInstanceId,
    key := pick b.key v.key c.key, value := pick b.value v.value c.value,
    updatedAt := pick b.updatedAt v.updatedAt c.updatedAt,
    createdAt := pick b.createdAt v.createdAt c.createdAt }

def ProcessInstanceEvent.merge (b v c : ProcessInstanceEvent) : ProcessInstanceEvent :=
  { id := v.id, m8fTenantId := pick b.m8fTenantId v.m8fTenantId c.m8fTenantId,
    taskGuid := pick b.taskGuid v.taskGuid c.taskGuid,
    processInstanceId := pick b.processInstanceId v.processInstanceId c.processInstanceId,
    eventType := pick b.eventType v.eventType c.eventType, category := pick b.category v.category c.category,
    occurredAt := pick b.occurredAt v.occurredAt c.occurredAt, userId := pick b.userId v.userId c.userId }

def Task.merge (b v c : Task) : Task :=
  { guid := v.guid, m8fTenantId := pick b.m8fTenantId v.m8fTenantId c.m8fTenantId,
    bpmnProcessId := pick b.bpmnProcessId v.bpmnProcessId c.bpmnProcessId,
    processInstanceId := pick b.processInstanceId v.processInstanceId c.processInstanceId,
    taskDefinitionId := pick b.taskDefinitionId v.taskDefinitionId c.taskDefinitionId,
    state := pick b.state v.state c.state,
    propertiesJson := pick b.propertiesJson v.propertiesJson c.propertiesJson,
    jsonDataHash := pick b.jsonDataHash v.jsonDataHash c.jsonDataHash,
    pythonEnvDataHash := pick b.pythonEnvDataHash v.pythonEnvDataHash c.pythonEnvDataHash,
    runtimeInfo := pick b.runtimeInfo v.runtimeInfo c.runtimeInfo,
    startedAt := pick b.startedAt v.startedAt c.startedAt, endedAt := pick b.endedAt v.endedAt c.endedAt }

def FutureTask.merge (b v c : FutureTask) : FutureTask :=
  { guid := v.guid, m8fTenantId := pick b.m8fTenantId v.m8fTenantId c.m8fTenantId,
    runAt := pick b.runAt v.runAt c.runAt,
    queuedToRunAt := pick b.queuedToRunAt v.queuedToRunAt c.queuedToRunAt,
    completed := pick b.completed v.completed c.completed,
    archivedForProcessInstanceStatus := pick b.archivedForProcessInstanceStatus v.archivedForProcessInstanceStatus c.archivedForProcessInstanceStatus,
    updatedAt := pick b.updatedAt v.updatedAt c.updatedAt }

def WorkItem.merge (b v c : WorkItem) : WorkItem :=
  { id := v.id, m8fTenantId := pick b.m8fTenantId v.m8fTenantId c.m8fTenantId,
    processInstanceId := pick b.processInstanceId v.processInstanceId c.processInstanceId,
    taskGuid := pick b.taskGuid v.taskGuid c.taskGuid,
    laneAssignmentId := pick b.laneAssignmentId v.laneAssignmentId c.laneAssignmentId,
    completedByUserId := pick b.completedByUserId v.completedByUserId c.completedByUserId,
    actualOwnerId := pick b.actualOwnerId v.actualOwnerId c.actualOwnerId,
    taskStatus := pick b.taskStatus v.taskStatus c.taskStatus,
    completed := pick b.completed v.completed c.completed,
    updatedAt := pick b.updatedAt v.updatedAt c.updatedAt,
    createdAt := pick b.createdAt v.createdAt c.createdAt }

def WorkItemUser.merge (b v c : WorkItemUser) : WorkItemUser :=
  { m8fTenantId := pick b.m8fTenantId v.m8fTenantId c.m8fTenantId, workItemId := v.workItemId,
    userId := v.userId, addedBy := pick b.addedBy v.addedBy c.addedBy }

def SchedulerJob.merge (b v c : SchedulerJob) : SchedulerJob :=
  { id := v.id, m8fTenantId := pick b.m8fTenantId v.m8fTenantId c.m8fTenantId,
    jobKey := pick b.jobKey v.jobKey c.jobKey, jobType := pick b.jobType v.jobType c.jobType,
    processInstanceId := pick b.processInstanceId v.processInstanceId c.processInstanceId,
    bpmnProcessDefinitionId := pick b.bpmnProcessDefinitionId v.bpmnProcessDefinitionId c.bpmnProcessDefinitionId,
    lockedBy := pick b.lockedBy v.lockedBy c.lockedBy, lockedAt := pick b.lockedAt v.lockedAt c.lockedAt,
    runAt := pick b.runAt v.runAt c.runAt, payloadJson := pick b.payloadJson v.payloadJson c.payloadJson,
    updatedAt := pick b.updatedAt v.updatedAt c.updatedAt,
    createdAt := pick b.createdAt v.createdAt c.createdAt }

/-! ## Unique constraints -/

def Tenant.clash (a b : Tenant) : Bool := a.slug == b.slug

def User.clash (a b : User) : Bool := a.service == b.service && a.serviceId == b.serviceId

def Group.clash (a b : Group) : Bool := a.authorizationKey.isSome && a.authorizationKey == b.authorizationKey

def UserGroupAssignment.clash (a b : UserGroupAssignment) : Bool :=
  a.userId == b.userId && a.groupId == b.groupId

def Principal.clash (a b : Principal) : Bool :=
  (a.userId.isSome && a.userId == b.userId) || (a.groupId.isSome && a.groupId == b.groupId)

def PermissionTarget.clash (a b : PermissionTarget) : Bool :=
  a.command.isSome && a.resourceId.isSome && a.command == b.command &&
    a.resourceType == b.resourceType && a.resourceId == b.resourceId

def PermissionAssignment.clash (a b : PermissionAssignment) : Bool :=
  a.principalId == b.principalId && a.permissionTargetId == b.permissionTargetId &&
    a.permission == b.permission

def BpmnProcessDefinition.clash (a b : BpmnProcessDefinition) : Bool :=
  a.m8fTenantId == b.m8fTenantId && a.processXmlDigest == b.processXmlDigest

def ProcessModelBpmnVersion.clash (a b : ProcessModelBpmnVersion) : Bool :=
  a.m8fTenantId == b.m8fTenantId && a.processModelIdentifier == b.processModelIdentifier &&
    a.bpmnXmlHash == b.bpmnXmlHash

def TaskDefinition.clash (a b : TaskDefinition) : Bool :=
  a.m8fTenantId == b.m8fTenantId && a.bpmnProcessDefinitionId == b.bpmnProcessDefinitionId &&
    a.bpmnIdentifier == b.bpmnIdentifier

def ProcessInstanceMetadata.clash (a b : ProcessInstanceMetadata) : Bool :=
  a.processInstanceId == b.processInstanceId && a.key == b.key

def WorkItem.clash (a b : WorkItem) : Bool := a.taskGuid.isSome && a.taskGuid == b.taskGuid

def SchedulerJob.clash (a b : SchedulerJob) : Bool := a.m8fTenantId == b.m8fTenantId && a.jobKey == b.jobKey

namespace Db

/-- The committed database after a transaction that started from `base` and
reached `view` commits over `committed`: the ORM writes the rows it added and
the columns it changed. -/
def merge (base view committed : Db) : Db where
  tenants := mergeTable (·.id) Tenant.merge base.tenants view.tenants committed.tenants
  users := mergeTable (·.id) User.merge base.users view.users committed.users
  groups := mergeTable (·.id) Group.merge base.groups view.groups committed.groups
  userGroupAssignments := mergeTable (·.id) UserGroupAssignment.merge
    base.userGroupAssignments view.userGroupAssignments committed.userGroupAssignments
  principals := mergeTable (·.id) Principal.merge base.principals view.principals committed.principals
  permissionTargets := mergeTable (·.id) PermissionTarget.merge
    base.permissionTargets view.permissionTargets committed.permissionTargets
  permissionAssignments := mergeTable (·.id) PermissionAssignment.merge
    base.permissionAssignments view.permissionAssignments committed.permissionAssignments
  definitions := mergeTable (·.id) BpmnProcessDefinition.merge
    base.definitions view.definitions committed.definitions
  versions := mergeTable (·.id) ProcessModelBpmnVersion.merge base.versions view.versions committed.versions
  taskDefinitions := mergeTable (·.id) TaskDefinition.merge
    base.taskDefinitions view.taskDefinitions committed.taskDefinitions
  bpmnProcesses := mergeTable (·.id) BpmnProcess.merge
    base.bpmnProcesses view.bpmnProcesses committed.bpmnProcesses
  jsonData := mergeTable (fun r => (r.m8fTenantId, r.hash)) JsonData.merge
    base.jsonData view.jsonData committed.jsonData
  processInstances := mergeTable (·.id) ProcessInstance.merge
    base.processInstances view.processInstances committed.processInstances
  metadata := mergeTable (·.id) ProcessInstanceMetadata.merge base.metadata view.metadata committed.metadata
  events := mergeTable (·.id) ProcessInstanceEvent.merge base.events view.events committed.events
  tasks := mergeTable (·.guid) Task.merge base.tasks view.tasks committed.tasks
  futureTasks := mergeTable (·.guid) FutureTask.merge base.futureTasks view.futureTasks committed.futureTasks
  workItems := mergeTable (·.id) WorkItem.merge base.workItems view.workItems committed.workItems
  workItemUsers := mergeTable (fun r => (r.workItemId, r.userId)) WorkItemUser.merge
    base.workItemUsers view.workItemUsers committed.workItemUsers
  schedulerJobs := mergeTable (·.id) SchedulerJob.merge
    base.schedulerJobs view.schedulerJobs committed.schedulerJobs

/-- The commit is refused by a primary key, a unique constraint or a vanished
row. -/
def conflict (base view committed : Db) : Bool :=
  conflicts (·.id) Tenant.clash base.tenants view.tenants committed.tenants ||
  conflicts (·.id) User.clash base.users view.users committed.users ||
  conflicts (·.id) Group.clash base.groups view.groups committed.groups ||
  conflicts (·.id) UserGroupAssignment.clash
    base.userGroupAssignments view.userGroupAssignments committed.userGroupAssignments ||
  conflicts (·.id) Principal.clash base.principals view.principals committed.principals ||
  conflicts (·.id) PermissionTarget.clash
    base.permissionTargets view.permissionTargets committed.permissionTargets ||
  conflicts (·.id) PermissionAssignment.clash
    base.permissionAssignments view.permissionAssignments committed.permissionAssignments ||
  conflicts (·.id) BpmnProcessDefinition.clash base.definitions view.definitions committed.definitions ||
  conflicts (·.id) ProcessModelBpmnVersion.clash base.versions view.versions committed.versions ||
  conflicts (·.id) TaskDefinition.clash base.taskDefinitions view.taskDefinitions committed.taskDefinitions ||
  conflicts (·.id) (fun _ _ => false) base.bpmnProcesses view.bpmnProcesses committed.bpmnProcesses ||
  conflicts (fun r => (r.m8fTenantId, r.hash)) (fun _ _ => false)
    base.jsonData view.jsonData committed.jsonData ||
  conflicts (·.id) (fun _ _ => false) base.processInstances view.processInstances committed.processInstances ||
  conflicts (·.id) ProcessInstanceMetadata.clash base.metadata view.metadata committed.metadata ||
  conflicts (·.id) (fun _ _ => false) base.events view.events committed.events ||
  conflicts (·.guid) (fun _ _ => false) base.tasks view.tasks committed.tasks ||
  conflicts (·.guid) (fun _ _ => false) base.futureTasks view.futureTasks committed.futureTasks ||
  conflicts (·.id) WorkItem.clash base.workItems view.workItems committed.workItems ||
  conflicts (fun r => (r.workItemId, r.userId)) (fun _ _ => false)
    base.workItemUsers view.workItemUsers committed.workItemUsers ||
  conflicts (·.id) SchedulerJob.clash base.schedulerJobs view.schedulerJobs committed.schedulerJobs

theorem merge_current (base view : Db) : merge base view base = view := by
  simp [merge, mergeTable_current, pick_base, Tenant.merge, User.merge, Group.merge, UserGroupAssignment.merge,
    Principal.merge, PermissionTarget.merge, PermissionAssignment.merge, BpmnProcessDefinition.merge,
    ProcessModelBpmnVersion.merge, TaskDefinition.merge, BpmnProcess.merge, JsonData.merge, ProcessInstance.merge,
    ProcessInstanceMetadata.merge, ProcessInstanceEvent.merge, Task.merge, FutureTask.merge, WorkItem.merge,
    WorkItemUser.merge, SchedulerJob.merge]

theorem merge_untouched (base committed : Db) : merge base base committed = committed := by
  simp [merge]

theorem conflict_current (base view : Db) : conflict base view base = false := by
  simp [conflict, conflicts_current]

end Db

/-! ## Sessions -/

/-- A session over a database. `base` is what the session's transaction read,
`view` that plus its own writes, `committed` what everybody else sees. `seq`
hands out ids, which are never taken back, and `world` is whatever the
connectors and the clock answer from. -/
structure Tx (Ω : Type) where
  seq : Nat
  base : Db
  view : Db
  committed : Db
  world : Ω

/-- A second session on what is committed. -/
def Tx.fork {Ω : Type} (s : Tx Ω) : Tx Ω := { s with base := s.committed, view := s.committed }

/-- Service functions: programs over a session. -/
abbrev M (Ω : Type) := Prog (Tx Ω) Error

namespace Session
variable {Ω α : Type}

/-- Read from the session's copy. -/
def query (f : Db → α) : M Ω α := Prog.gets fun s => f s.view

/-- Write to the session's copy. -/
def write (f : Db → Db) : M Ω Unit := Prog.modify fun s => { s with view := f s.view }

/-- The id of the next row inserted. -/
def nextId : M Ω Nat := ⟨fun s => (.ok s.seq, { s with seq := s.seq + 1 })⟩

/-- Insert a row under the next id. -/
def insert (f : Nat → Db → Db) : M Ω Nat := do
  let id ← nextId
  write (f id)
  pure id

/-- Ask the world. -/
def ask (f : Ω → α × Ω) : M Ω α := ⟨fun s => (.ok (f s.world).1, { s with world := (f s.world).2 })⟩

/-- Run `m` in a session of its own on the committed database: its writes are
committed if it returns and dropped if it raises. -/
def independently (m : M Ω α) : M Ω (Except Error α) where
  run s := match m.run s.fork with
    | (.ok a, s') => (.ok (.ok a), { s' with base := s.base, view := s.view, committed := s'.view })
    | (.error e, s') => (.ok (.error e), { s' with base := s.base, view := s.view, committed := s.committed })

theorem independently_ok {m : M Ω α} {s s' : Tx Ω} {a : α} (h : m.run s.fork = (.ok a, s')) :
    (independently m).run s = (.ok (.ok a), { s' with base := s.base, view := s.view, committed := s'.view }) := by
  simp [independently, h]

theorem independently_error {m : M Ω α} {s s' : Tx Ω} {e : Error} (h : m.run s.fork = (.error e, s')) :
    (independently m).run s = (.ok (.error e), { s' with base := s.base, view := s.view, committed := s.committed }) := by
  simp [independently, h]

/-- The session's next statements see what others have committed, under its
own writes. -/
def refresh : M Ω Unit :=
  Prog.modify fun s => { s with base := s.committed, view := Db.merge s.base s.view s.committed }

end Session

/-- A session opened on the committed database. -/
def Tx.begin {Ω : Type} (seq : Nat) (committed : Db) (world : Ω) : Tx Ω :=
  { seq := seq, base := committed, view := committed, committed := committed, world := world }

/-- What is committed once the session's transaction commits. -/
def Tx.commit {Ω : Type} (s : Tx Ω) : Db := Db.merge s.base s.view s.committed

end M8flowCore
