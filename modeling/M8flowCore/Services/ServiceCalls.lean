import M8flowCore.Engine
import M8flowCore.Services.ConnectorProxy
/-!
# Service tasks of a running workflow

When a service task is due, the script engine of its workflow makes a request of
the task's operator id and parameters, has the registry execute it and hands the
payload of the result back as JSON text.
-/
open M8flowCore.Lib

namespace M8flowCore

/-- The context of one call: where the service task runs, and which task it is.
The tenant is named. -/
structure ServiceCallContext extends ServiceTaskContext where
  taskGuid : Option String
  taskName : Option String
  taskType : Option String
  metadata : Option Dict
  trimmed : strip tenantId = tenantId
  nonBlank : tenantId ≠ ""

/-- `ServiceTaskContext(..)`, with the fields of a task. -/
def ServiceCallContext.new (context : ServiceTaskContext) (taskGuid taskName taskType : Option String)
    (metadata : Option Dict) : Except Error ServiceCallContext :=
  match h : normalizeNonBlank context.tenantId "tenant_id" with
  | .error e => .error e
  | .ok tenantId =>
    .ok
      { tenantId := tenantId, processInstanceId := context.processInstanceId,
        processDefinitionId := context.processDefinitionId, taskGuid := taskGuid, taskName := taskName, taskType := taskType,
        metadata := metadata, trimmed := strip_of_normalizeNonBlank h, nonBlank := (normalizeNonBlank_ok h).2 }

/-- `_RuntimeServiceTaskScriptEngine`; the tenant is that of a context, which is named. -/
structure RuntimeServiceTaskScriptEngine where
  context : ServiceTaskContext
  trimmed : strip context.tenantId = context.tenantId
  nonBlank : context.tenantId ≠ ""

/-- What `call_service` reads of a task of the engine. -/
structure ServiceTask where
  id : Guid
  name : String
  typeName : String
  resultVariable : PyVal
  data : Dict
  workflowData : Dict

/-- `_service_task_task_data`. -/
def serviceTaskTaskData (task : ServiceTask) : Option Dict :=
  let mergedTaskData := (Dict.update [] task.workflowData).update task.data
  if mergedTaskData.isEmpty then none else some mergedTaskData

section
variable (str repr : PyVal → String)

/-- The loop of `_service_task_parameter_values`. -/
def addParameterValues (operationName : String) (values : Dict) : List (PyVal × PyVal) → Except Error Dict
  | [] => .ok values
  | (name, .dict rawDefinition) :: operationParams => match mappingGet rawDefinition "value" with
    | none => .error (.serviceTaskExecution
        ("Service task " ++ pyRepr operationName ++ " parameter " ++ repr name ++ " is missing its value"))
    | some value => addParameterValues operationName (values.set (str name) value) operationParams
  | (name, _) :: _ => .error (.serviceTaskExecution
      ("Service task " ++ pyRepr operationName ++ " parameter " ++ repr name ++ " is not a mapping"))

/-- `_service_task_parameter_values`. -/
def serviceTaskParameterValues (operationName : String) (operationParams : List (PyVal × PyVal)) : Except Error Dict :=
  addParameterValues str repr operationName [] operationParams

/-- `_service_task_parameter_types`. -/
def serviceTaskParameterTypes (operationParams : List (PyVal × PyVal)) : Dict :=
  operationParams.foldl (fun parameterTypes kv => match kv.2 with
    | .dict rawDefinition => parameterTypes.set (str kv.1) ((mappingGet rawDefinition "type").getD .none)
    | _ => parameterTypes) []

/-- A request of a running workflow, with the rest of what a connector may read. -/
structure RuntimeServiceTaskRequest extends ServiceTaskRequest where
  context : ServiceCallContext
  metadata : Dict

/-- `ServiceTaskRequest(..)`, with no callback URL. -/
def RuntimeServiceTaskRequest.new (operationId : String) (parameters : Dict) (context : ServiceCallContext)
    (taskData : Option Dict) (metadata : Dict) : Except Error RuntimeServiceTaskRequest :=
  match h : splitServiceTaskOperationId operationId with
  | .error e => .error e
  | .ok _ =>
    .ok
      { operationId := operationId, parameters := some parameters, taskData := taskData, callbackUrl := none,
        splits := by rw [h]; rfl, context := context, metadata := metadata }

/-- The request of a task. -/
def serviceTaskRequest (engine : RuntimeServiceTaskScriptEngine) (task : ServiceTask) (operationName : String)
    (operationParams : List (PyVal × PyVal)) : Except Error RuntimeServiceTaskRequest := do
  let parameters ← serviceTaskParameterValues str repr operationName operationParams
  let context ← ServiceCallContext.new engine.context (if task.id = "" then none else some task.id) (some task.name)
    (some task.typeName) (some [("result_variable", task.resultVariable)])
  RuntimeServiceTaskRequest.new operationName parameters context (serviceTaskTaskData task)
    [("parameter_types", (serviceTaskParameterTypes str operationParams).toVal)]

/-- What hosts have set up: a factory for the scope they run in and one for when there is none. -/
structure RegistryFactories (ω : Type) where
  active : Option (Prog ω Error (ServiceTaskRegistry ω))
  default : Prog ω Error (ServiceTaskRegistry ω)

/-- `resolve_service_task_registry`, without a registry of its own. -/
def resolveServiceTaskRegistry {ω : Type} (factories : RegistryFactories ω) : Prog ω Error (ServiceTaskRegistry ω) :=
  factories.active.getD factories.default

/-- What every other exception of a call is turned into. -/
def serviceCallFailed (engine : RuntimeServiceTaskScriptEngine) (operationName : String) : Error :=
  let instanceName := match engine.context.processInstanceId with
    | none | some 0 => "unknown"
    | some i => toString i
  .serviceTaskExecution ("Service task " ++ pyRepr operationName ++ " failed for process instance " ++ instanceName)

/-- The part of `call_service` that is tried. -/
def tryService {ω : Type} (dumps : PyVal → Except Error String) (factories : RegistryFactories ω)
    (engine : RuntimeServiceTaskScriptEngine) (operationName : String) (request : ServiceTaskRequest) : Prog ω Error String :=
  Prog.attempt
    (do
      let registry ← resolveServiceTaskRegistry factories
      let result ← registry.execute request
      checked (dumps result.payload))
    fun
      | .serviceTaskExecution message => Prog.raise (.serviceTaskExecution message)
      | _ => Prog.raise (serviceCallFailed engine operationName)

/-- `call_service`. -/
def callService {ω : Type} (dumps : PyVal → Except Error String) (factories : RegistryFactories ω)
    (engine : RuntimeServiceTaskScriptEngine) (task : ServiceTask) (operationName operationParams : PyVal) :
    Prog ω Error String :=
  match operationName, operationParams with
  | .str name, .dict params =>
    if strip name = "" then Prog.raise (.serviceTaskExecution "Service task execution is missing its operator id")
    else do
      let request ← checked (serviceTaskRequest str repr engine task name params)
      tryService dumps factories engine name request.toServiceTaskRequest
  | .str name, _ =>
    if strip name = "" then Prog.raise (.serviceTaskExecution "Service task execution is missing its operator id")
    else Prog.raise (.serviceTaskExecution ("Service task " ++ pyRepr name ++ " is missing its parameters"))
  | _, _ => Prog.raise (.serviceTaskExecution "Service task execution is missing its operator id")

end
end M8flowCore
