import M8flowCore.Lib.Assoc
import M8flowCore.Session
import M8flowCore.Strings
/-!
# Service tasks

An operation id names a command of a connector, `<connector_key>/<command_name>`.
A registry holds connectors by key, finds the command of an id and has its
connector run it. What a connector does when it runs a command is a program over
a state `ω` of its own.
-/
open M8flowCore.Lib

namespace M8flowCore

/-! ## Operation ids -/

/-- `_normalize_non_blank`. -/
def normalizeNonBlank (value fieldName : String) : Except Error String :=
  let normalized := strip value
  if normalized = "" then .error (.validation (fieldName ++ " must not be blank")) else .ok normalized

/-- `"/" in text`. -/
def hasSlash (text : String) : Bool := text.toList.contains '/'

/-- `build_service_task_operation_id`. -/
def buildServiceTaskOperationId (connectorKey commandName : String) : Except Error String := do
  let connectorKey ← normalizeNonBlank connectorKey "connector_key"
  let commandName ← normalizeNonBlank commandName "command_name"
  if hasSlash connectorKey then .error (.validation "connector_key must not contain '/'")
  else if hasSlash commandName then .error (.validation "command_name must not contain '/'")
  else .ok (connectorKey ++ "/" ++ commandName)

/-- `text.split("/")`. -/
def splitSlash (text : String) : List String := (text.toList.splitOn '/').map String.ofList

/-- `split_service_task_operation_id`. -/
def splitServiceTaskOperationId (operationId : String) : Except Error (String × String) := do
  let operationId ← normalizeNonBlank operationId "operation_id"
  match splitSlash operationId with
  | [connectorKey, commandName] =>
    if strip connectorKey ≠ "" ∧ strip commandName ≠ "" then .ok (connectorKey, commandName)
    else .error (.validation "operation_id must use the '<connector_key>/<command_name>' format")
  | _ => .error (.validation "operation_id must use the '<connector_key>/<command_name>' format")

/-- `build_connector_proxy_execute_path`. -/
def buildConnectorProxyExecutePath (connectorKey commandName : String) : Except Error String := do
  let (connectorKey, commandName) ← splitServiceTaskOperationId (← buildServiceTaskOperationId connectorKey commandName)
  .ok ("/v1/do/" ++ connectorKey ++ "/" ++ commandName)

/-- One half of an operation id: trimmed, not blank, without a slash. -/
structure IdHalf (text : String) : Prop where
  trimmed : strip text = text
  nonBlank : text ≠ ""
  slashless : hasSlash text = false

theorem normalizeNonBlank_ok {value fieldName text : String} (h : normalizeNonBlank value fieldName = .ok text) :
    text = strip value ∧ text ≠ "" := by
  unfold normalizeNonBlank at h
  dsimp only at h
  split at h
  · cases h
  · rename_i hne
    cases h
    exact ⟨rfl, hne⟩

theorem strip_of_normalizeNonBlank {value fieldName text : String} (h : normalizeNonBlank value fieldName = .ok text) :
    strip text = text := by
  rw [(normalizeNonBlank_ok h).1]
  exact strip_strip value

/-! ## Commands -/

/-- A parameter of a command; its name is trimmed and not blank. -/
structure ServiceTaskParameterDefinition where
  name : String
  parameterType : Option String
  required : Bool
  description : Option String
  metadata : Option PyVal
  trimmed : strip name = name
  nonBlank : name ≠ ""
  deriving DecidableEq

/-- `ServiceTaskParameterDefinition(..)`. -/
def ServiceTaskParameterDefinition.new (name : String) (parameterType : Option String) (required : Bool)
    (description : Option String) (metadata : Option PyVal) : Except Error ServiceTaskParameterDefinition :=
  match h : normalizeNonBlank name "parameter name" with
  | .error e => .error e
  | .ok name =>
    .ok ⟨name, parameterType, required, description, metadata, strip_of_normalizeNonBlank h, (normalizeNonBlank_ok h).2⟩

/-- A command of a connector; its key and its name are halves of an id. -/
structure ServiceTaskCommandDefinition where
  connectorKey : String
  commandName : String
  displayName : Option String
  description : Option String
  parameters : List ServiceTaskParameterDefinition
  metadata : Option PyVal
  key : IdHalf connectorKey
  name : IdHalf commandName
  deriving DecidableEq

namespace ServiceTaskCommandDefinition

/-- `ServiceTaskCommandDefinition(..)`. -/
def new (connectorKey commandName : String) (displayName description : Option String)
    (parameters : List ServiceTaskParameterDefinition) (metadata : Option PyVal) :
    Except Error ServiceTaskCommandDefinition :=
  match hkey : normalizeNonBlank connectorKey "connector_key" with
  | .error e => .error e
  | .ok connectorKey =>
    match hname : normalizeNonBlank commandName "command_name" with
    | .error e => .error e
    | .ok commandName =>
      if hkeySlash : hasSlash connectorKey then .error (.validation "connector_key must not contain '/'")
      else if hnameSlash : hasSlash commandName then .error (.validation "command_name must not contain '/'")
      else
        .ok
          { connectorKey := connectorKey, commandName := commandName, displayName := displayName, description := description,
            parameters := parameters, metadata := metadata,
            key := ⟨strip_of_normalizeNonBlank hkey, (normalizeNonBlank_ok hkey).2, Bool.eq_false_iff.2 hkeySlash⟩,
            name := ⟨strip_of_normalizeNonBlank hname, (normalizeNonBlank_ok hname).2, Bool.eq_false_iff.2 hnameSlash⟩ }

/-- The property `operation_id`. -/
def operationId (c : ServiceTaskCommandDefinition) : Except Error String :=
  buildServiceTaskOperationId c.connectorKey c.commandName

end ServiceTaskCommandDefinition

/-- A call of a command; its id can be split. -/
structure ServiceTaskRequest where
  operationId : String
  parameters : Option Dict
  taskData : Option Dict
  callbackUrl : Option String
  splits : (splitServiceTaskOperationId operationId).isOk

namespace ServiceTaskRequest

/-- The property `connector_key`. -/
def connectorKey (r : ServiceTaskRequest) : Except Error String := do
  let (connectorKey, _) ← splitServiceTaskOperationId r.operationId
  .ok connectorKey

/-- The property `command_name`. -/
def commandName (r : ServiceTaskRequest) : Except Error String := do
  let (_, commandName) ← splitServiceTaskOperationId r.operationId
  .ok commandName

end ServiceTaskRequest

structure ServiceTaskResult where
  payload : PyVal
  metadata : Dict
  deriving DecidableEq

/-! ## The registry -/

/-- What the registry needs of a connector. -/
structure ServiceTaskConnector (ω : Type) where
  connectorKey : String
  listCommands : List ServiceTaskCommandDefinition
  execute : ServiceTaskRequest → Prog ω Error ServiceTaskResult

structure ServiceTaskRegistry (ω : Type) where
  connectors : List (String × ServiceTaskConnector ω)

/-- A checked value inside a program. -/
def checked {ω α : Type} : Except Error α → Prog ω Error α
  | .ok a => pure a
  | .error e => Prog.raise e

namespace ServiceTaskRegistry
variable {ω : Type}

/-- `register_connector`. -/
def registerConnector (registry : ServiceTaskRegistry ω) (connector : ServiceTaskConnector ω) (replace : Bool) :
    Except Error (ServiceTaskRegistry ω) := do
  let connectorKey ← normalizeNonBlank connector.connectorKey "connector.connector_key"
  if hasSlash connectorKey then .error (.validation "connector.connector_key must not contain '/'")
  else if (registry.connectors.lookup connectorKey).isSome && !replace then
    .error (.validation ("A connector is already registered for key '" ++ connectorKey ++ "'"))
  else .ok { connectors := put connectorKey connector registry.connectors }

/-- `ServiceTaskRegistry(connectors)`. -/
def new (connectors : List (ServiceTaskConnector ω)) : Except Error (ServiceTaskRegistry ω) :=
  connectors.foldlM (fun registry connector => registry.registerConnector connector false) { connectors := [] }

/-- `get_connector`. -/
def getConnector (registry : ServiceTaskRegistry ω) (connectorKey : String) : Except Error (ServiceTaskConnector ω) := do
  let connectorKey ← normalizeNonBlank connectorKey "connector_key"
  match registry.connectors.lookup connectorKey with
  | some connector => .ok connector
  | none => .error (.notFound ("No service task connector is registered for '" ++ connectorKey ++ "'"))

/-- The loop of `get_command`. -/
def findCommand (connectorKey commandName : String) :
    List ServiceTaskCommandDefinition → Except Error (Option ServiceTaskCommandDefinition)
  | [] => .ok none
  | c :: commands => do
    let id ← c.operationId
    let wanted ← buildServiceTaskOperationId connectorKey commandName
    if id = wanted then .ok (some c) else findCommand connectorKey commandName commands

/-- `get_command`. -/
def getCommand (registry : ServiceTaskRegistry ω) (operationId : String) : Except Error ServiceTaskCommandDefinition := do
  let (connectorKey, commandName) ← splitServiceTaskOperationId operationId
  let connector ← registry.getConnector connectorKey
  match ← findCommand connectorKey commandName connector.listCommands with
  | some c => .ok c
  | none => .error (.notFound ("No service task command is registered for '" ++ operationId ++ "'"))

/-- `execute`. -/
def execute (registry : ServiceTaskRegistry ω) (request : ServiceTaskRequest) : Prog ω Error ServiceTaskResult := do
  let _ ← checked (registry.getCommand request.operationId)
  let connectorKey ← checked request.connectorKey
  let connector ← checked (registry.getConnector connectorKey)
  connector.execute request

end ServiceTaskRegistry
end M8flowCore
