import M8flowCore.Services.Tasks
/-!
# Queries

What a caller may ask of the rows of a tenant. A query reads the session's copy
and writes nothing.
-/
open M8flowCore.Lib M8flowCore.Session

namespace M8flowCore

/-! ## Statuses -/

def ProcessInstanceStatus.value : ProcessInstanceStatus → String
  | .notStarted => "not_started"
  | .running => "running"
  | .userInputRequired => "user_input_required"
  | .waiting => "waiting"
  | .suspended => "suspended"
  | .complete => "complete"
  | .error => "error"
  | .terminated => "terminated"

def ProcessInstanceStatus.all : List ProcessInstanceStatus :=
  [.notStarted, .running, .userInputRequired, .waiting, .suspended, .complete, .error, .terminated]

/-- A status as a caller may give it: a member of the enumeration or a text. -/
inductive StatusArg where
  | status (status : ProcessInstanceStatus)
  | text (text : String)
  deriving DecidableEq

/-- `_normalize_status`. -/
def normalizeStatus : StatusArg → Except Error ProcessInstanceStatus
  | .status status => .ok status
  | .text text => match ProcessInstanceStatus.all.find? (·.value == text) with
    | some status => .ok status
    | none => .error (.other "ValueError" (pyRepr text ++ " is not a valid ProcessInstanceStatus"))

theorem normalizeStatus_value (status : ProcessInstanceStatus) : normalizeStatus (.text status.value) = .ok status := by
  cases status <;> rfl

/-! ## What is listed -/

namespace Db
variable (db : Db) (tenantId : TenantId)

/-- The rows of `get_pending_tasks`. -/
def pendingTasks (userId : Option Nat) : List WorkItem :=
  sortById WorkItem.id (db.workItems.filter fun w =>
    w.m8fTenantId == tenantId && !w.completed && userId.all fun userId => userIsAssigned db tenantId w.id userId)

/-- The rows of `list_process_instances`. -/
def listedInstances (status : Option ProcessInstanceStatus) : List ProcessInstance :=
  sortById ProcessInstance.id (db.processInstances.filter fun p =>
    p.m8fTenantId == tenantId && status.all fun status => p.status == status)

end Db

/-- `(occurred_at, id)` order. -/
def ProcessInstanceEvent.before (a b : ProcessInstanceEvent) : Prop :=
  a.occurredAt < b.occurredAt ∨ (a.occurredAt = b.occurredAt ∧ a.id ≤ b.id)

instance : DecidableRel ProcessInstanceEvent.before := fun _ _ => inferInstanceAs (Decidable (_ ∨ _))

/-- The rows of `get_process_instance_events`. -/
def Db.instanceEvents (db : Db) (tenantId : TenantId) (processInstanceId : Nat) : List ProcessInstanceEvent :=
  (db.events.filter fun e =>
    e.m8fTenantId == tenantId && e.processInstanceId == processInstanceId).insertionSort ProcessInstanceEvent.before

/-! ## The queries -/

section
variable {Ω : Type}

/-- `get_pending_tasks`. -/
def getPendingTasks (tenantId : TenantId) (userId : Option Nat) : M Ω (List WorkItem) :=
  match userId with
  | some userId => do
    let _ ← ensureUserBelongsToTenant tenantId userId
    query (·.pendingTasks tenantId (some userId))
  | none => query (·.pendingTasks tenantId none)

/-- `list_process_instances`. -/
def listProcessInstances (tenantId : TenantId) (status : Option StatusArg) : M Ω (List ProcessInstance) :=
  match status with
  | none => query (·.listedInstances tenantId none)
  | some status => do
    let status ← ofExcept (normalizeStatus status)
    query (·.listedInstances tenantId (some status))

/-- `list_error_process_instances`. -/
def listErrorProcessInstances (tenantId : TenantId) : M Ω (List ProcessInstance) :=
  listProcessInstances tenantId (some (.status .error))

/-- `list_suspended_process_instances`. -/
def listSuspendedProcessInstances (tenantId : TenantId) : M Ω (List ProcessInstance) :=
  listProcessInstances tenantId (some (.status .suspended))

/-- `list_terminated_process_instances`. -/
def listTerminatedProcessInstances (tenantId : TenantId) : M Ω (List ProcessInstance) :=
  listProcessInstances tenantId (some (.status .terminated))

/-- `get_process_instance_events`. -/
def getProcessInstanceEvents (tenantId : TenantId) (processInstanceId : Nat) : M Ω (List ProcessInstanceEvent) := do
  let _ ← loadProcessInstance tenantId processInstanceId
  query (·.instanceEvents tenantId processInstanceId)

/-- The query objects of the application layer. -/
inductive Query where
  | getPendingTasks (tenantId : TenantId) (userId : Option Nat)
  | getProcessInstanceEvents (tenantId : TenantId) (processInstanceId : Nat)
  | getProcessInstanceMetadata (tenantId : TenantId) (processInstanceId : Nat)
  | getProcessInstance (tenantId : TenantId) (processInstanceId : Nat)
  | listErrorProcessInstances (tenantId : TenantId)
  | listProcessInstances (tenantId : TenantId) (status : Option StatusArg)
  | listSuspendedProcessInstances (tenantId : TenantId)
  | listTerminatedProcessInstances (tenantId : TenantId)

/-- What a query returns. -/
inductive Answer where
  | workItems (rows : List WorkItem)
  | events (rows : List ProcessInstanceEvent)
  | metadata (rows : List ProcessInstanceMetadata)
  | instance (row : ProcessInstance)
  | instances (rows : List ProcessInstance)
  deriving DecidableEq

/-- `execute_query`. -/
def executeQuery : Query → M Ω Answer
  | .getPendingTasks tenantId userId => do pure (.workItems (← getPendingTasks tenantId userId))
  | .getProcessInstanceEvents tenantId processInstanceId => do
    pure (.events (← getProcessInstanceEvents tenantId processInstanceId))
  | .getProcessInstanceMetadata tenantId processInstanceId => do
    pure (.metadata (← getProcessInstanceMetadata tenantId processInstanceId))
  | .getProcessInstance tenantId processInstanceId => do pure (.instance (← getProcessInstance tenantId processInstanceId))
  | .listErrorProcessInstances tenantId => do pure (.instances (← listErrorProcessInstances tenantId))
  | .listProcessInstances tenantId status => do pure (.instances (← listProcessInstances tenantId status))
  | .listSuspendedProcessInstances tenantId => do pure (.instances (← listSuspendedProcessInstances tenantId))
  | .listTerminatedProcessInstances tenantId => do pure (.instances (← listTerminatedProcessInstances tenantId))

end
end M8flowCore
