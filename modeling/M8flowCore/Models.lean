import M8flowCore.Python
/-!
# The tables

One structure per table of the library, with the columns its services read or
write, and the enumerations their string columns are checked against. `Db` is
the whole database: a list of rows for each table.
-/
namespace M8flowCore

abbrev TenantId := String
abbrev Guid := String

/-! ## Enumerations -/

/-- Lifecycle states stored in `process_instance.status`. -/
inductive ProcessInstanceStatus where
  | notStarted
  | running
  | userInputRequired
  | waiting
  | suspended
  | complete
  | error
  | terminated
  deriving DecidableEq

/-- SpiffWorkflow's task states. -/
inductive TaskState where
  | maybe
  | likely
  | future
  | waiting
  | ready
  | started
  | completed
  | error
  | cancelled
  deriving DecidableEq

/-- The integer a task state is serialized as. -/
def TaskState.value : TaskState → Int
  | .maybe => 1
  | .likely => 2
  | .future => 4
  | .waiting => 8
  | .ready => 16
  | .started => 32
  | .completed => 64
  | .error => 128
  | .cancelled => 256

/-- The name a task state is stored under. -/
def TaskState.name : TaskState → String
  | .maybe => "MAYBE"
  | .likely => "LIKELY"
  | .future => "FUTURE"
  | .waiting => "WAITING"
  | .ready => "READY"
  | .started => "STARTED"
  | .completed => "COMPLETED"
  | .error => "ERROR"
  | .cancelled => "CANCELLED"

/-- `TaskState.get_name`, on the integers that are states. -/
def TaskState.ofValue (n : Int) : Option TaskState :=
  [.maybe, .likely, .future, .waiting, .ready, .started, .completed, .error, .cancelled].find?
    fun s : TaskState => s.value == n

theorem TaskState.ofValue_value (s : TaskState) : TaskState.ofValue s.value = some s := by
  cases s <;> rfl

/-- The `state` column of `task`: a SpiffWorkflow state, or `TERMINATED` when a
process-level operation closed the task. -/
inductive TaskModelState where
  | spiff (s : TaskState)
  | terminated
  deriving DecidableEq

/-- Claim states of a work item. -/
inductive WorkItemState where
  | ready
  | claimed
  | completed
  | terminated
  | cancelled
  | error
  deriving DecidableEq

/-- Types of process-instance events: the lifecycle ones, then the task ones. -/
inductive EventType where
  | processInstanceCreated
  | processInstanceSuspended
  | processInstanceResumed
  | processInstanceError
  | processInstanceRetried
  | processInstanceCompleted
  | processInstanceTerminated
  | taskCompleted
  | taskFailed
  | taskCancelled
  deriving DecidableEq

inductive EventCategory where
  | process
  | task
  deriving DecidableEq

/-- `event_category_for_type`. -/
def EventType.category : EventType → EventCategory
  | .taskCompleted | .taskFailed | .taskCancelled => .task
  | _ => .process

inductive SchedulerJobType where
  | intermediateTimer
  | processRetry
  | timerStart
  deriving DecidableEq

def SchedulerJobType.value : SchedulerJobType → String
  | .intermediateTimer => "intermediate_timer"
  | .processRetry => "process_retry"
  | .timerStart => "timer_start"

/-- Why a user is a potential owner of a work item. -/
inductive WorkItemUserAddedBy where
  | processInitiator
  | laneOwner
  | laneAssignment
  deriving DecidableEq

inductive PermitDeny where
  | permit
  | deny
  deriving DecidableEq

inductive PermissionAction where
  | all
  | create
  | delete
  | execute
  | read
  | start
  | update
  deriving DecidableEq

inductive PermissionResourceType where
  | processDefinition
  | processInstance
  | processModel
  | task
  | tenant
  deriving DecidableEq

def PermissionResourceType.value : PermissionResourceType → String
  | .processDefinition => "process_definition"
  | .processInstance => "process_instance"
  | .processModel => "process_model"
  | .task => "task"
  | .tenant => "tenant"

/-! ## Rows -/

structure Tenant where
  id : TenantId
  slug : String
  deriving DecidableEq

structure User where
  id : Nat
  username : String
  email : Option String
  service : String
  serviceId : String
  displayName : Option String
  realmIdentifier : Option String
  externalOrgId : Option String
  externalUserId : Option String
  updatedAt : Option Time
  createdAt : Option Time
  deriving DecidableEq

structure Group where
  id : Nat
  name : Option String
  identifier : Option String
  authorizationKey : Option String
  deriving DecidableEq

structure UserGroupAssignment where
  id : Nat
  userId : Nat
  groupId : Nat
  deriving DecidableEq

structure Principal where
  id : Nat
  userId : Option Nat
  groupId : Option Nat
  deriving DecidableEq

structure PermissionTarget where
  id : Nat
  command : Option String
  resourceType : PermissionResourceType
  resourceId : Option String
  deriving DecidableEq

structure PermissionAssignment where
  id : Nat
  principalId : Nat
  permissionTargetId : Nat
  grantType : PermitDeny
  permission : PermissionAction
  deriving DecidableEq

structure BpmnProcessDefinition where
  id : Nat
  m8fTenantId : TenantId
  processXmlDigest : String
  bpmnIdentifier : String
  bpmnName : Option String
  propertiesJson : Dict
  bpmnVersionControlType : Option String
  bpmnVersionControlIdentifier : Option String
  updatedAt : Option Time
  createdAt : Option Time
  deriving DecidableEq

structure ProcessModelBpmnVersion where
  id : Nat
  m8fTenantId : TenantId
  processModelIdentifier : String
  bpmnXmlHash : String
  bpmnXmlFileContents : String
  createdAt : Time
  deriving DecidableEq

structure TaskDefinition where
  id : Nat
  m8fTenantId : TenantId
  bpmnProcessDefinitionId : Nat
  bpmnIdentifier : String
  bpmnName : Option String
  typename : String
  propertiesJson : Dict
  updatedAt : Option Time
  createdAt : Option Time
  deriving DecidableEq

/-- A runtime process row; its payload hash leads to the stored snapshot. -/
structure BpmnProcess where
  id : Nat
  m8fTenantId : TenantId
  bpmnProcessDefinitionId : Nat
  propertiesJson : Dict
  jsonDataHash : String
  startedAt : Option Time
  endedAt : Option Time
  deriving DecidableEq

structure JsonData where
  m8fTenantId : TenantId
  hash : String
  data : Dict
  deriving DecidableEq

structure ProcessInstance where
  id : Nat
  m8fTenantId : TenantId
  processModelIdentifier : String
  processModelDisplayName : String
  summary : Option String
  processInitiatorId : Nat
  bpmnProcessDefinitionId : Option Nat
  bpmnProcessId : Option Nat
  workflowEngineVersion : Option String
  status : ProcessInstanceStatus
  startedAt : Option Time
  endedAt : Option Time
  taskUpdatedAt : Option Time
  updatedAt : Option Time
  createdAt : Option Time
  bpmnVersionControlType : Option String
  bpmnVersionControlIdentifier : Option String
  lastMilestoneBpmnName : Option String
  bpmnVersionId : Option Nat
  deriving DecidableEq

structure ProcessInstanceMetadata where
  id : Nat
  m8fTenantId : TenantId
  processInstanceId : Nat
  key : String
  value : String
  updatedAt : Time
  createdAt : Time
  deriving DecidableEq

structure ProcessInstanceEvent where
  id : Nat
  m8fTenantId : TenantId
  taskGuid : Option Guid
  processInstanceId : Nat
  eventType : EventType
  category : EventCategory
  occurredAt : Time
  userId : Option Nat
  deriving DecidableEq

structure Task where
  guid : Guid
  m8fTenantId : TenantId
  bpmnProcessId : Nat
  processInstanceId : Nat
  taskDefinitionId : Nat
  state : TaskModelState
  propertiesJson : Dict
  jsonDataHash : String
  pythonEnvDataHash : String
  runtimeInfo : Option Dict
  startedAt : Option Time
  endedAt : Option Time
  deriving DecidableEq

structure FutureTask where
  guid : Guid
  m8fTenantId : TenantId
  runAt : Time
  queuedToRunAt : Option Time
  completed : Bool
  archivedForProcessInstanceStatus : Bool
  updatedAt : Time
  deriving DecidableEq

/-- Canonical claim state for one persisted workflow task. -/
structure WorkItem where
  id : Nat
  m8fTenantId : TenantId
  processInstanceId : Nat
  taskGuid : Option Guid
  laneAssignmentId : Option Nat
  completedByUserId : Option Nat
  actualOwnerId : Option Nat
  taskStatus : WorkItemState
  completed : Bool
  updatedAt : Option Time
  createdAt : Option Time
  deriving DecidableEq

structure WorkItemUser where
  m8fTenantId : TenantId
  workItemId : Nat
  userId : Nat
  addedBy : Option WorkItemUserAddedBy
  deriving DecidableEq

structure SchedulerJob where
  id : Nat
  m8fTenantId : TenantId
  jobKey : String
  jobType : SchedulerJobType
  processInstanceId : Option Nat
  bpmnProcessDefinitionId : Option Nat
  lockedBy : Option String
  lockedAt : Option Time
  runAt : Time
  payloadJson : Dict
  updatedAt : Time
  createdAt : Time
  deriving DecidableEq

/-! ## The database -/

structure Db where
  tenants : List Tenant
  users : List User
  groups : List Group
  userGroupAssignments : List UserGroupAssignment
  principals : List Principal
  permissionTargets : List PermissionTarget
  permissionAssignments : List PermissionAssignment
  definitions : List BpmnProcessDefinition
  versions : List ProcessModelBpmnVersion
  taskDefinitions : List TaskDefinition
  bpmnProcesses : List BpmnProcess
  jsonData : List JsonData
  processInstances : List ProcessInstance
  metadata : List ProcessInstanceMetadata
  events : List ProcessInstanceEvent
  tasks : List Task
  futureTasks : List FutureTask
  workItems : List WorkItem
  workItemUsers : List WorkItemUser
  schedulerJobs : List SchedulerJob
  deriving DecidableEq

/-- `has_terminal_status`: the instance is complete, errored or terminated. -/
def ProcessInstance.hasTerminalStatus (pi : ProcessInstance) : Bool :=
  pi.status == .complete || pi.status == .error || pi.status == .terminated

/-- The `json_data` key under which a runtime process keeps its snapshot. -/
def workflowStateJsonDataKey : String := "__m8f_workflow_state_json"

namespace Db
variable (db : Db)

def processInstance? (id : Nat) : Option ProcessInstance := db.processInstances.find? (·.id == id)

def bpmnProcess? (id : Nat) : Option BpmnProcess := db.bpmnProcesses.find? (·.id == id)

def task? (guid : Guid) : Option Task := db.tasks.find? (·.guid == guid)

def workItem? (id : Nat) : Option WorkItem := db.workItems.find? (·.id == id)

def user? (id : Nat) : Option User := db.users.find? (·.id == id)

def definition? (id : Nat) : Option BpmnProcessDefinition := db.definitions.find? (·.id == id)

/-- `JsonDataModel.get_for_tenant`: both the tenant and the hash must match. -/
def jsonData? (tenant : TenantId) (hash : String) : Option JsonData :=
  db.jsonData.find? fun r => r.m8fTenantId == tenant && r.hash == hash

/-- The snapshot stored behind a runtime process row. -/
def snapshotOf (p : BpmnProcess) : Option String := do
  let row ← db.jsonData? p.m8fTenantId p.jsonDataHash
  let value ← row.data.get workflowStateJsonDataKey
  value.asStr

/-- `ProcessInstanceModel.workflow_state_json`. -/
def workflowStateJson (pi : ProcessInstance) : Option String := do
  let processId ← pi.bpmnProcessId
  let process ← db.bpmnProcess? processId
  db.snapshotOf process

/-- The instance's open work items, in table order. -/
def openWorkItems (instanceId : Nat) : List WorkItem :=
  db.workItems.filter fun w => w.processInstanceId == instanceId && !w.completed

end Db
end M8flowCore
