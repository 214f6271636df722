import M8flowCore.Dispatcher
import M8flowCore.Lib.Footprint
/-!
# What the services write

Every write of the library is one of the changes below, made for one process
instance (the `Focus`). `Footprints` says which kinds of change each service
function makes; what an operation leaves alone, and which invariants it keeps,
is read off its footprint and never off its text.

`shared` stands for the tables that no property of an instance's runtime
state looks at: users, groups, permissions, definitions, metadata, potential
owners and future tasks.
-/
open M8flowCore.Lib M8flowCore.Session

namespace M8flowCore

/-! ## Columns that never change -/

/-- The columns of an instance that are fixed when it is created. -/
structure InstanceIdentity where
  id : Nat
  tenantId : TenantId
  processId : Option Nat
  definitionId : Option Nat
  initiatorId : Nat

def ProcessInstance.identity (p : ProcessInstance) : InstanceIdentity :=
  ⟨p.id, p.m8fTenantId, p.bpmnProcessId, p.bpmnProcessDefinitionId, p.processInitiatorId⟩

/-- The columns of an instance that say where it is in its life. -/
structure Phase where
  status : ProcessInstanceStatus
  endedAt : Option Time
  deriving DecidableEq

def ProcessInstance.phase (p : ProcessInstance) : Phase := ⟨p.status, p.endedAt⟩

/-- The events that record a change of an instance's phase. -/
def EventType.isLifecycle : EventType → Bool
  | .processInstanceSuspended | .processInstanceResumed | .processInstanceError | .processInstanceRetried
  | .processInstanceCompleted | .processInstanceTerminated => true
  | .processInstanceCreated | .taskCompleted | .taskFailed | .taskCancelled => false

/-- The columns of a runtime process that are fixed when it is created. -/
structure ProcessIdentity where
  id : Nat
  tenantId : TenantId
  definitionId : Nat

def BpmnProcess.identity (p : BpmnProcess) : ProcessIdentity := ⟨p.id, p.m8fTenantId, p.bpmnProcessDefinitionId⟩

/-- The columns of a work item that are fixed when it is created. -/
structure ItemIdentity where
  id : Nat
  tenantId : TenantId
  instanceId : Nat
  taskGuid : Option Guid

def WorkItem.identity (w : WorkItem) : ItemIdentity := ⟨w.id, w.m8fTenantId, w.processInstanceId, w.taskGuid⟩

/-- An item without its lane group. -/
def WorkItem.unlaned (w : WorkItem) : WorkItem := { w with laneAssignmentId := none }

/-- Whether a job is kept under one of the instance's own keys. -/
def SchedulerJob.isOf (instanceId : Nat) (job : SchedulerJob) : Prop :=
  ∃ jobType, job.jobKey = instanceJobKey jobType instanceId

/-- A job's columns apart from its lock. -/
def SchedulerJob.unlocked (job : SchedulerJob) : SchedulerJob :=
  { job with lockedBy := none, lockedAt := none, updatedAt := 0 }

/-! ## Changes -/

/-- What an operation is about: an instance, its tenant and runtime process,
and the guids its tasks have. -/
structure Focus where
  tenantId : TenantId
  instanceId : Nat
  processId : Option Nat
  guids : Guid → Prop

/-- The kinds of change. -/
inductive Touch where
  | seq
  | world
  | shared
  | lane
  | json
  | details
  | status
  | process
  | snapshot
  | task
  | item
  | newItem
  | note
  | event
  | job
  | startJob
  | lock
  | newProcess
  | newInstance
  deriving DecidableEq

/-- Only `shared` tables differ. -/
structure Peripheral (db db' : Db) : Prop where
  bpmnProcesses : db'.bpmnProcesses = db.bpmnProcesses
  jsonData : db'.jsonData = db.jsonData
  processInstances : db'.processInstances = db.processInstances
  events : db'.events = db.events
  tasks : db'.tasks = db.tasks
  workItems : db'.workItems = db.workItems
  schedulerJobs : db'.schedulerJobs = db.schedulerJobs

section
variable {W Ω : Type} (env : Env W Ω) (F : Focus)

/-- If a payload has a snapshot, that is one of a workflow with the focus's tasks. -/
def Focus.Holds (data : Dict) : Prop :=
  ∀ text w, data.get workflowStateJsonDataKey = some (.str text) → env.deserializeJson text = .ok w →
    ∀ t ∈ env.tasks w, F.guids t.id

/-- One change, of the session's copy, of its id counter or of the world. -/
inductive Change : Touch → Tx Ω → Tx Ω → Prop
  | nextId (s : Tx Ω) : Change .seq s { s with seq := s.seq + 1 }
  | world (s : Tx Ω) (world : Ω) : Change .world s { s with world := world }
  | shared {s : Tx Ω} {db' : Db} (h : Peripheral s.view db') : Change .shared s { s with view := db' }
  | lane (s : Tx Ω) (id : Nat) (groupId : Option Nat) :
      Change .lane s { s with view := { s.view with
        workItems := updateWhere (·.id == id) ({ · with laneAssignmentId := groupId }) s.view.workItems } }
  | json (s : Tx Ω) (tenantId : TenantId) {data : Dict} (hdata : env.Normal data) :
      Change .json s { s with view := s.view.putJsonData tenantId (env.payloadDigest data) data }
  | details (s : Tx Ω) (f : ProcessInstance → ProcessInstance)
      (hf : ∀ p, (f p).identity = p.identity ∧ (f p).phase = p.phase) :
      Change .details s { s with view := s.view.updateInstance F.instanceId f }
  | status (s : Tx Ω) (f : ProcessInstance → ProcessInstance) (hf : ∀ p, (f p).identity = p.identity) :
      Change .status s { s with view := s.view.updateInstance F.instanceId f }
  | process (s : Tx Ω) {processId : Nat} (hp : F.processId = some processId) (f : BpmnProcess → BpmnProcess)
      (hf : ∀ p, (f p).identity = p.identity ∧ (f p).jsonDataHash = p.jsonDataHash) :
      Change .process s { s with view := s.view.updateBpmnProcess processId f }
  -- A stored snapshot: its payload is there already, under its digest.
  | snapshot (s : Tx Ω) {processId : Nat} (hp : F.processId = some processId) (properties : Dict) {data : Dict}
      (hnormal : env.Normal data) (hrow : (s.view.jsonData? F.tenantId (env.payloadDigest data)).isSome)
      (hdata : F.Holds env data) :
      Change .snapshot s { s with view := s.view.updateBpmnProcess processId fun p =>
        { p with propertiesJson := properties, jsonDataHash := env.payloadDigest data } }
  | task (s : Tx Ω) (p : Task → Bool) (f : Task → Task)
      (hp : ∀ t, p t = true → F.guids t.guid ∨ t.processInstanceId = F.instanceId) (hf : ∀ t, (f t).guid = t.guid)
      (hown : ∀ t, p t = true → F.guids t.guid ∧ (f t).processInstanceId = F.instanceId ∨
        (f t).processInstanceId = t.processInstanceId) :
      Change .task s { s with view := { s.view with tasks := updateWhere p f s.view.tasks } }
  | newTask (s : Tx Ω) (row : Task) (hguid : F.guids row.guid) (hnew : s.view.task? row.guid = none)
      (hrow : row.processInstanceId = F.instanceId) :
      Change .task s { s with view := { s.view with tasks := s.view.tasks ++ [row] } }
  | item (s : Tx Ω) (p : WorkItem → Bool) (f : WorkItem → WorkItem)
      (hp : ∀ w, p w = true → w.processInstanceId = F.instanceId) (hf : ∀ w, (f w).identity = w.identity) :
      Change .item s { s with view := { s.view with workItems := updateWhere p f s.view.workItems } }
  | newItem (s : Tx Ω) (row : WorkItem) (hid : row.id = s.seq) (hrow : row.processInstanceId = F.instanceId)
      (htenant : row.m8fTenantId = F.tenantId) {guid : Guid} (hguid : row.taskGuid = some guid) (hown : F.guids guid)
      (hnew : ∀ w ∈ s.view.workItems, w.m8fTenantId = row.m8fTenantId → w.processInstanceId = row.processInstanceId →
        w.taskGuid ≠ row.taskGuid) :
      Change .newItem s { s with seq := s.seq + 1, view := { s.view with workItems := s.view.workItems ++ [row] } }
  | note (s : Tx Ω) (row : ProcessInstanceEvent) (hrow : row.processInstanceId = F.instanceId)
      (htype : row.eventType.isLifecycle = false) :
      Change .note s { s with view := { s.view with events := s.view.events ++ [row] } }
  | event (s : Tx Ω) (row : ProcessInstanceEvent) (hrow : row.processInstanceId = F.instanceId) :
      Change .event s { s with view := { s.view with events := s.view.events ++ [row] } }
  -- The jobs under the instance's own keys.
  | job (s : Tx Ω) (jobs : List SchedulerJob)
      (h : ∀ p : SchedulerJob → Bool, (∀ j, p j = true → ¬ j.isOf F.instanceId) →
        jobs.filter p = s.view.schedulerJobs.filter p)
      (hnew : ∀ j ∈ jobs, j ∈ s.view.schedulerJobs ∨ (j.jobType ≠ .timerStart ∧
        j.jobKey = instanceJobKey j.jobType F.instanceId ∧ j.processInstanceId = some F.instanceId)) :
      Change .job s { s with view := { s.view with schedulerJobs := jobs } }
  -- The jobs that start new instances.
  | startJob (s : Tx Ω) (jobs : List SchedulerJob)
      (h : ∀ p : SchedulerJob → Bool, (∀ j, p j = true → j.jobType ≠ .timerStart ∧ ∃ i, j.isOf i) →
        jobs.filter p = s.view.schedulerJobs.filter p)
      (hnew : ∀ j ∈ jobs, j ∈ s.view.schedulerJobs ∨ (j.jobType = .timerStart ∧ ∀ i, ¬ j.isOf i)) :
      Change .startJob s { s with view := { s.view with schedulerJobs := jobs } }
  | lock (s : Tx Ω) (p : SchedulerJob → Bool) (f : SchedulerJob → SchedulerJob)
      (hf : ∀ j, (f j).unlocked = j.unlocked) :
      Change .lock s { s with view := { s.view with schedulerJobs := updateWhere p f s.view.schedulerJobs } }
  | newProcess (s : Tx Ω) (row : BpmnProcess) (hid : row.id = s.seq)
      (hjson : (s.view.jsonData? row.m8fTenantId row.jsonDataHash).isSome) :
      Change .newProcess s
        { s with seq := s.seq + 1, view := { s.view with bpmnProcesses := s.view.bpmnProcesses ++ [row] } }
  -- An instance together with its runtime process, which has no snapshot yet.
  | newInstance (s : Tx Ω) (process : BpmnProcess) (row : ProcessInstance) (hpid : process.id = s.seq)
      (hid : row.id = s.seq + 1) (hF : row.id = F.instanceId) (hprocess : row.bpmnProcessId = some s.seq)
      (htenant : process.m8fTenantId = row.m8fTenantId) (hstatus : row.status = .notStarted) {data : Dict}
      (hhash : env.Digested process.jsonDataHash data) (hdata : data.get workflowStateJsonDataKey = none)
      (hjson : (s.view.jsonData? process.m8fTenantId process.jsonDataHash).isSome) :
      Change .newInstance s { s with seq := s.seq + 2, view := { s.view with
        bpmnProcesses := s.view.bpmnProcesses ++ [process]
        processInstances := s.view.processInstances ++ [row] } }

variable {env F} in
/-- No change reaches the committed database. -/
theorem Change.committed {l : Touch} {s s' : Tx Ω} (h : Change env F l s s') :
    s'.base = s.base ∧ s'.committed = s.committed := by
  cases h <;> exact ⟨rfl, rfl⟩

end

/-! ## Programs that several writes end with -/

section
variable {W Ω : Type}

/-- The write to the runtime process of an instance. -/
def updateProcessOf (pi : ProcessInstance) (f : BpmnProcess → BpmnProcess) : M Ω Unit :=
  write fun db => match pi.bpmnProcessId with
    | none => db
    | some processId => db.updateBpmnProcess processId f

/-- How the failure of a service task ends, once the snapshot and the event are stored. -/
def enterError (env : Env W Ω) (tenantId : TenantId) (pi : ProcessInstance) (occurredAt : Time) : M Ω Unit := do
  updateInstance pi.id fun p => { p with startedAt := some (p.startedAt.getD occurredAt) }
  updateProcessOf pi fun p => { p with startedAt := some (p.startedAt.getD occurredAt), endedAt := some occurredAt }
  updateInstance pi.id fun p => if p.status = .error then { p with status := .running } else p
  errorProcessInstance env tenantId pi.id none (some occurredAt)

/-- The event of the task that failed, if there is one. -/
def recordTaskFailed (tenantId : TenantId) (pi : ProcessInstance) (occurredAt : Time) (failedTaskGuid : Option Guid) :
    M Ω Unit :=
  match failedTaskGuid with
  | none => pure ()
  | some guid => recordProcessInstanceEvent tenantId pi.id .taskFailed occurredAt (some guid) none

/-- What of the workflow a failure stores. -/
def storeFailure (env : Env W Ω) (pi : ProcessInstance) (w : W) (occurredAt : Time) : Bool → M Ω Unit
  | true => persistWorkflowRecoveryState env pi w
  | false => do
    persistWorkflowState env pi w occurredAt
    syncInactiveWorkItems env pi w occurredAt

theorem transitionToErrorForServiceTaskFailure_eq (env : Env W Ω) (tenantId : TenantId) (pi : ProcessInstance) (w : W)
    (occurredAt : Time) (recoveryOnly : Bool) :
    transitionToErrorForServiceTaskFailure env tenantId pi w occurredAt recoveryOnly = (do
      storeFailure env pi w occurredAt recoveryOnly
      recordTaskFailed tenantId pi occurredAt ((env.erroredServiceTasks w).head?.map (·.id))
      enterError env tenantId pi occurredAt) := by
  unfold transitionToErrorForServiceTaskFailure recordTaskFailed
  cases recoveryOnly with
  | true => cases (env.erroredServiceTasks w).head?.map (·.id) <;> rfl
  | false =>
    unfold storeFailure
    rw [Prog.bind_assoc]
    cases (env.erroredServiceTasks w).head?.map (·.id) <;> rfl

/-- The owners of a task together with the members of its lane's group. -/
def withGroupMembers (workItemId : Nat) (tenantIdentifiers : List String) (named : List (Nat × WorkItemUserAddedBy)) :
    Option Group → M Ω (List (Nat × WorkItemUserAddedBy))
  | none => pure named
  | some group => do
    setLaneAssignment workItemId (some group.id)
    let members ← query fun db => tenantGroupMembers db group.id tenantIdentifiers
    pure (named ++ (members.filter fun u => !named.any (·.1 == u)).map fun u => (u, .laneAssignment))

end
end M8flowCore
