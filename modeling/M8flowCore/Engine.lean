import M8flowCore.Session
/-!
# The workflow engine and the host

What the library uses of SpiffWorkflow, of the Python standard library and of
the host application, as an interface: `Env` is the record of these
operations and `Env.Lawful` what the library relies on. A workflow is an
opaque `W`; the library sees it through `tasks`, through the dictionary the
serializer makes of it and through its JSON snapshot.
-/
open M8flowCore.Lib

namespace M8flowCore

/-- A task of a workflow, as `workflow.get_tasks()` returns it. -/
structure SpiffTask where
  id : Guid
  state : TaskState
  /-- `task.task_spec.manual` -/
  manual : Bool
  /-- `task.task_spec.name` -/
  specName : String
  /-- `type(task.task_spec).__name__` -/
  specType : String
  /-- `getattr(task.task_spec, "lane", None)` -/
  lane : PyVal
  /-- The class of the event definition, when it is a `TimerEventDefinition`. -/
  timer : Option String
  /-- `task.workflow is workflow` -/
  topLevel : Bool
  /-- The spec name of the task's workflow, when that has a parent workflow. -/
  subprocess : Option String
  internalData : Dict
  data : Dict
  /-- `serializer.to_dict(task)` -/
  payload : Dict
  /-- `serializer.to_dict(task.task_spec)` -/
  specPayload : Dict

/-- A serialized spec: `properties` is everything but its task specs. -/
structure SerializedSpec where
  name : String
  taskSpecs : List (String × Dict)
  properties : Dict

/-- A serialized subprocess with the tasks and subprocesses in it. -/
inductive SerializedProcess where
  | mk (spec : String) (tasks : List (String × Dict)) (subprocesses : List (String × SerializedProcess))

/-- `serializer.to_dict(workflow)`. -/
structure SerializedWorkflow where
  spec : SerializedSpec
  subprocessSpecs : List (String × SerializedSpec)
  tasks : List (String × Dict)
  subprocesses : List (String × SerializedProcess)
  data : Dict
  /-- The remaining keys. -/
  properties : Dict

/-- The identity a service task runs under. -/
structure ServiceTaskContext where
  tenantId : TenantId
  processInstanceId : Option Nat
  processDefinitionId : Option Nat
  deriving DecidableEq

/-- What a call-activity resolver is told of the parent. -/
structure CallActivityParent where
  tenantId : TenantId
  parentProcessInstanceId : Option Nat
  parentProcessDefinitionId : Option Nat
  deriving DecidableEq

/-- The arguments of `_build_workflow`. `resolver` says whether the caller
passed a call-activity resolver; what it answers is the world's business. -/
structure BuildRequest where
  bpmnXml : String
  dmnXml : Option String
  bpmnProcessId : Option String
  context : Option ServiceTaskContext
  resolver : Bool
  callContext : Option CallActivityParent
  deriving DecidableEq

structure AuthorizationRequest where
  tenantId : TenantId
  actorUserId : Nat
  commandKey : String
  permission : PermissionAction
  resourceType : PermissionResourceType
  resourceId : String
  metadata : Dict

structure AuthorizationDecision where
  allowed : Bool
  reason : Option String

/-- The operations the library calls. Where an operation may raise, it returns
the exception, if any, with the workflow it leaves behind. -/
structure Env (W Ω : Type) where
  /-- `parser.get_process_ids()` of a BPMN source. -/
  processIds : String → Except Error (List String)
  /-- `_build_workflow`: parse, load the called processes, instantiate. -/
  buildWorkflow : BuildRequest → Ω → Except Error W × Ω
  /-- Whether the source has a start event with a timer definition. -/
  containsTimerStartEvent : String → Except Error Bool
  /-- The `name` of every lane element of the source. -/
  bpmnLaneNames : String → Except Error (List String)
  /-- Parsing the BPMN and DMN sources of an import. -/
  validateBpmnSource : String → Option String → Except Error Unit
  tasks : W → List SpiffTask
  completed : W → Bool
  data : W → Dict
  /-- `workflow.data.update(..)` -/
  updateData : W → Dict → W
  /-- `workflow.task_tree.data.update(..)` -/
  updateTaskTreeData : W → Dict → W
  /-- `task.set_data(..)` -/
  setTaskData : W → Guid → Dict → W
  /-- `task.internal_data["event_value"] = ..` -/
  setEventValue : W → Guid → PyVal → W
  /-- `task.complete()` -/
  complete : ServiceTaskContext → W → Guid → Ω → (Option Error × W) × Ω
  /-- `workflow.run_all(halt_on_manual=True)` -/
  runAll : Option ServiceTaskContext → W → Ω → (Option Error × W) × Ω
  /-- `workflow.refresh_waiting_tasks()` -/
  refreshWaitingTasks : ServiceTaskContext → W → Ω → (Option Error × W) × Ω
  /-- `workflow.reset_from_task_id(.., data=..)` -/
  resetFromTaskId : W → Guid → Dict → Option Error × W
  toDict : W → SerializedWorkflow
  serializeJson : W → Except Error String
  deserializeJson : String → Except Error W
  /-- The host's authorization policy. -/
  authorize : Db → AuthorizationRequest → Except Error AuthorizationDecision
  /-- `json.loads(json.dumps(dict(data), sort_keys=True, default=str))` -/
  normalizedPayload : Dict → Except Error Dict
  /-- The hex digest of a normalized payload's JSON text. -/
  payloadDigest : Dict → String
  /-- `hashlib.sha256(text.encode("utf-8")).hexdigest()` -/
  sha256 : String → String
  lower : String → String
  /-- SQL `LOWER`. -/
  sqlLower : String → String
  /-- `ast.literal_eval`, `none` when it raises. -/
  literalEval : String → Option PyVal
  /-- `str(value)` -/
  str : PyVal → String
  /-- `repr(value)` -/
  repr : PyVal → String
  /-- `datetime.fromisoformat`, in UTC when the text names no zone. -/
  fromisoformat : String → Option Time
  isoformat : Time → String
  /-- `math.ceil(due_at.timestamp())`; the timestamp is a float. -/
  ceilTimestamp : Time → Int
  /-- `datetime.now(UTC)` -/
  now : Ω → Time

namespace Env
variable {W Ω : Type} (env : Env W Ω)

/-- `workflow.get_tasks(state=READY, manual=True)`. -/
def readyManualTasks (w : W) : List SpiffTask := (env.tasks w).filter fun t => t.state == .ready && t.manual

/-- `workflow.get_tasks(state=WAITING)`. -/
def waitingTasks (w : W) : List SpiffTask := (env.tasks w).filter fun t => t.state == .waiting

/-- `_errored_service_tasks`. -/
def erroredServiceTasks (w : W) : List SpiffTask :=
  (env.tasks w).filter fun t => t.state == .error && t.specType == "ServiceTask"

/-- `JsonDataModel.hash_payload`. -/
def hashPayload (data : Dict) : Except Error (String × Dict) :=
  (env.normalizedPayload data).map fun d => (env.payloadDigest d, d)

/-- The data is what a payload is normalized to. -/
def Normal (d : Dict) : Prop := ∃ data, env.normalizedPayload data = .ok d

/-- The data is a normalized payload, and the hash its digest. -/
def Digested (hash : String) (d : Dict) : Prop := hash = env.payloadDigest d ∧ env.Normal d

end Env

/-! ## The rows a serialized workflow gives -/

mutual

/-- The tasks of a serialized subprocess, qualified by its spec. -/
def iterSerializedProcessRows : SerializedProcess → List (Guid × Option String × Dict)
  | .mk spec tasks subprocesses =>
    tasks.map (fun t => (t.1, some spec, t.2)) ++ iterSerializedSubprocessRows subprocesses

def iterSerializedSubprocessRows : List (String × SerializedProcess) → List (Guid × Option String × Dict)
  | [] => []
  | (_, p) :: ps => iterSerializedProcessRows p ++ iterSerializedSubprocessRows ps

end

/-- `_iter_serialized_task_rows`, before the identifiers are checked: each task
with the spec it belongs to. -/
def iterSerializedTaskRows (w : SerializedWorkflow) : List (Guid × Option String × Dict) :=
  w.tasks.map (fun t => (t.1, none, t.2)) ++ iterSerializedSubprocessRows w.subprocesses

/-! ## What the library relies on -/

/-- What survives a trip through the JSON serializer. -/
structure TaskCore where
  id : Guid
  state : TaskState
  manual : Bool
  specType : String
  timer : Option String
  topLevel : Bool
  eventValue : Option PyVal
  deriving DecidableEq

def SpiffTask.core (t : SpiffTask) : TaskCore :=
  { id := t.id, state := t.state, manual := t.manual, specType := t.specType, timer := t.timer,
    topLevel := t.topLevel, eventValue := t.internalData.get "event_value" }

/-- The engine and the standard library behave as documented. -/
structure Env.Lawful {W Ω : Type} (env : Env W Ω) : Prop where
  /-- A snapshot restores the tasks it was taken of. -/
  restore : ∀ {w s}, env.serializeJson w = .ok s →
    ∃ w', env.deserializeJson s = .ok w' ∧ (env.tasks w').map (·.core) = (env.tasks w).map (·.core) ∧
      env.completed w' = env.completed w
  /-- A JSON round trip keeps the text stored under a key. -/
  normalized_str : ∀ {d d' key s}, env.normalizedPayload d = .ok d' → Dict.get d key = some (.str s) →
    Dict.get d' key = some (.str s)
  /-- A double holds the microseconds of every timestamp below `2^33` seconds. -/
  ceilTimestamp_exact : ∀ {t : Time}, -(2 ^ 33 * 1000000) < t → t < 2 ^ 33 * 1000000 →
    env.ceilTimestamp t = -(-t / 1000000)
  /-- A completed workflow has no task that is ready. -/
  completed_idle : ∀ {w}, env.completed w = true → ∀ t ∈ env.tasks w, t.state ≠ .ready
  /-- No two normalized payloads have one digest. -/
  digest_injective : ∀ {hash d d'}, env.Digested hash d → env.Digested hash d' → d = d'

end M8flowCore
