import M8flowCore.Services.ProcessDefinitions
import M8flowCore.Services.SchedulerRuntime
import M8flowCore.Services.Tasks
/-!
# Commands and runs

`Operation` is everything a host calls that can write: the commands of
`execute_command`, the three service functions called directly, and a
scheduler pass. A `Run` is any sequence of operations, each in a transaction
of its own which the caller commits or rolls back, whether the call returned or
raised.
-/
open M8flowCore.Lib M8flowCore.Session

namespace M8flowCore

/-- The commands of `execute_command`. `recordEvent` carries `none` for a text
that names no event type. -/
inductive Command where
  | claimTask (tenantId : TenantId) (workItemId userId : Nat)
  | completeTask (tenantId : TenantId) (workItemId userId : Nat) (completedAt : Option Time) (payload : Dict)
  | recordEvent (tenantId : TenantId) (processInstanceId : Nat) (eventType : Option EventType)
      (taskGuid : Option Guid) (userId : Option Nat) (occurredAt : Option Time)
  | createProcessInstance (tenantId : TenantId) (new : NewProcessInstance)
  | importDefinition (tenantId : TenantId) (userId : Nat) (args : ImportArgs)
  | initializeFromDefinition (tenantId : TenantId) (definitionId : Nat) (args : StartArgs) (resolver : Bool)
  | initializeWorkflow (tenantId : TenantId) (processInstanceId : Nat) (source : WorkflowSource)
      (startedAt : Option Time)
  | upsertMetadata (tenantId : TenantId) (processInstanceId : Nat) (key value : String) (updatedAt : Time)
      (createdAt : Option Time)
  | suspend (tenantId : TenantId) (processInstanceId userId : Nat) (at_ : Option Time)
  | resume (tenantId : TenantId) (processInstanceId userId : Nat) (at_ : Option Time)
  | error (tenantId : TenantId) (processInstanceId : Nat) (userId : Option Nat) (at_ : Option Time)
  | retry (tenantId : TenantId) (processInstanceId userId : Nat) (at_ : Option Time)
  | scheduleRetry (tenantId : TenantId) (processInstanceId userId : Nat) (retryAt : Time) (at_ : Option Time)
  | terminate (tenantId : TenantId) (processInstanceId userId : Nat) (at_ : Option Time)

/-- What a host calls. -/
inductive Operation where
  | command (c : Command)
  | advance (tenantId : TenantId) (processInstanceId : Nat) (completedTaskGuid : Guid) (completedAt : Option Time)
  | assignPendingTasks (tenantId : TenantId) (userId : Nat)
  | runDueJobs (now : Option Time) (limit : Int) (workerId : String) (tenantId : Option TenantId)

section
variable {W Ω : Type} (env : Env W Ω)

/-- The record command: the type is checked once the instance is found. -/
def recordEventCommand (tenantId : TenantId) (processInstanceId : Nat) (eventType : Option EventType)
    (taskGuid : Option Guid) (userId : Option Nat) (occurredAt : Option Time) : M Ω Unit := do
  let occurredAt ← resolveTimestamp env occurredAt
  match eventType with
  | some eventType => recordProcessInstanceEvent tenantId processInstanceId eventType occurredAt taskGuid userId
  | none => do
    match userId with
    | none => pure ()
    | some userId => do
      let _ ← ensureUserBelongsToTenant tenantId userId
      pure ()
    let _ ← loadProcessInstance tenantId processInstanceId
    Prog.raise (.validation "Invalid process instance event type")

/-- `execute_command`. -/
def executeCommand : Command → M Ω Unit
  | .claimTask tenantId workItemId userId => claimTask env tenantId workItemId userId
  | .completeTask tenantId workItemId userId completedAt payload =>
    completeTask env tenantId workItemId userId completedAt payload
  | .recordEvent tenantId processInstanceId eventType taskGuid userId occurredAt =>
    recordEventCommand env tenantId processInstanceId eventType taskGuid userId occurredAt
  | .createProcessInstance tenantId new => do
    let _ ← createProcessInstance env tenantId new
    pure ()
  | .importDefinition tenantId userId args => do
    let _ ← importBpmnProcessDefinition env tenantId userId args
    pure ()
  | .initializeFromDefinition tenantId definitionId args resolver =>
    initializeProcessInstanceFromDefinition env tenantId definitionId args resolver
  | .initializeWorkflow tenantId processInstanceId source startedAt =>
    initializeProcessInstanceWorkflow env tenantId processInstanceId source startedAt
  | .upsertMetadata tenantId processInstanceId key value updatedAt createdAt =>
    upsertProcessInstanceMetadata tenantId processInstanceId key value updatedAt createdAt
  | .suspend tenantId processInstanceId userId at_ => suspendProcessInstance env tenantId processInstanceId userId at_
  | .resume tenantId processInstanceId userId at_ => resumeProcessInstance env tenantId processInstanceId userId at_
  | .error tenantId processInstanceId userId at_ => errorProcessInstance env tenantId processInstanceId userId at_
  | .retry tenantId processInstanceId userId at_ => retryProcessInstance env tenantId processInstanceId userId at_
  | .scheduleRetry tenantId processInstanceId userId retryAt at_ =>
    scheduleProcessInstanceRetry env tenantId processInstanceId userId retryAt at_
  | .terminate tenantId processInstanceId userId at_ =>
    terminateProcessInstance env tenantId processInstanceId userId at_

/-- The program behind an operation. -/
def Operation.run : Operation → M Ω Unit
  | .command c => executeCommand env c
  | .advance tenantId processInstanceId guid completedAt =>
    advanceProcessInstanceWorkflow env tenantId processInstanceId guid completedAt
  | .assignPendingTasks tenantId userId => do
    let _ ← assignPendingTasksForUser tenantId userId
    pure ()
  | .runDueJobs now limit workerId tenantId => do
    let _ ← runDueSchedulerJobs env now limit workerId tenantId
    pure ()

/-! ## Runs -/

/-- The database between transactions. -/
structure Store where
  seq : Nat
  db : Db

/-- A session for the next transaction on the store. -/
def Store.session (st : Store) (world : Ω) : Tx Ω := Tx.begin st.seq st.db world

/-- One operation in its own transaction. However the call ends, its caller
commits what the session holds by then or rolls it back: after a pass with
failed jobs, or a failed service task, a host may keep the work. -/
inductive Step (op : Operation) : Store → Store → Prop
  | commit {st : Store} {world : Ω} {r : Except Error Unit} {s : Tx Ω}
      (h : (op.run env).run (st.session world) = (r, s)) : Step op st ⟨s.seq, s.commit⟩
  | rollback {st : Store} {world : Ω} {r : Except Error Unit} {s : Tx Ω}
      (h : (op.run env).run (st.session world) = (r, s)) : Step op st ⟨s.seq, s.committed⟩

/-- The stores reached from `st₀` by the operations of a run, latest last. -/
inductive Run (st₀ : Store) : List Operation → Store → Prop
  | nil : Run st₀ [] st₀
  | snoc {ops : List Operation} {op : Operation} {st st' : Store} (hrun : Run st₀ ops st)
      (hstep : Step env op st st') : Run st₀ (ops ++ [op]) st'

/-- The step of a host that rolls back every call that raises. -/
inductive CleanStep (op : Operation) : Store → Store → Prop
  | commit {st : Store} {world : Ω} {s : Tx Ω} (h : (op.run env).run (st.session world) = (.ok (), s)) :
      CleanStep op st ⟨s.seq, s.commit⟩
  | rollback {st : Store} {world : Ω} {r : Except Error Unit} {s : Tx Ω}
      (h : (op.run env).run (st.session world) = (r, s)) : CleanStep op st ⟨s.seq, s.committed⟩

/-- The runs of such a host. -/
inductive CleanRun (st₀ : Store) : List Operation → Store → Prop
  | nil : CleanRun st₀ [] st₀
  | snoc {ops : List Operation} {op : Operation} {st st' : Store} (hrun : CleanRun st₀ ops st)
      (hstep : CleanStep env op st st') : CleanRun st₀ (ops ++ [op]) st'

variable {env} {op : Operation} {ops : List Operation} {st st' st₀ : Store}

theorem CleanStep.step (h : CleanStep env op st st') : Step env op st st' := by
  cases h with
  | commit h => exact .commit h
  | rollback h => exact .rollback h

theorem CleanRun.run (h : CleanRun env st₀ ops st) : Run env st₀ ops st := by
  induction h with
  | nil => exact .nil
  | snoc _ hstep ih => exact ih.snoc hstep.step

end
end M8flowCore
