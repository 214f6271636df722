import Mathlib.Data.List.Sort
import Mathlib.Data.Rat.Defs
import M8flowCore.Json
import M8flowCore.Services.ServiceTasks
/-!
# The connector proxy

The proxy lists its commands over HTTP and runs them over HTTP. The state of the
programs here is the list of the requests sent so far.
-/
open M8flowCore.Lib

namespace M8flowCore

/-! ## HTTP -/

/-- A request; `data` is its body, a JSON text. -/
structure HttpRequest where
  url : String
  data : Option String
  headers : List (String × String)
  method : String
  timeout : Rat
  deriving DecidableEq

/-- What comes of a request. `raised` is any other exception on the way, from
opening the connection to reading the answer. -/
inductive HttpAnswer where
  | response (status : Int) (rawBody : String)
  | httpError (code : Int) (rawBody : String)
  | urlError (reason : String)
  | raised (error : Error)

/-- What the connector uses of the standard library, and the other end. -/
structure Http where
  urljoin : String → String → String
  /-- `json.loads`, where it succeeds. -/
  loads : String → Option PyVal
  /-- `json.dumps(value, sort_keys=True)` -/
  dumps : PyVal → String
  /-- What `json.dumps` raises of a value that it cannot write. -/
  dumpsError : PyVal → Error
  /-- `str(value)` -/
  str : PyVal → String
  /-- What the other end makes of a request after those before it. -/
  urlopen : List HttpRequest → HttpRequest → HttpAnswer

/-- Programs that send requests. -/
abbrev Web := Prog (List HttpRequest) Error

/-- Send a request and wait for what comes of it. -/
def Http.send (http : Http) (request : HttpRequest) : Web HttpAnswer :=
  ⟨fun sent => (.ok (http.urlopen sent request), sent ++ [request])⟩

/-- `bool(value)`. -/
def PyVal.truthy : PyVal → Bool
  | .none => false
  | .bool b => b
  | .int n => n != 0
  | .float q => q != 0
  | .complex re im => re != 0 || im != 0
  | .str s => s != ""
  | .bytes bs => !bs.isEmpty
  | .ellipsis => true
  | .tuple xs | .list xs | .set xs => !xs.isEmpty
  | .dict kvs => !kvs.isEmpty

/-- `mapping.get(key)` of a mapping with any keys. -/
def mappingGet (items : List (PyVal × PyVal)) (key : String) : Option PyVal := items.lookup (.str key)

/-- `_normalize_base_url`. -/
def normalizeBaseUrl (baseUrl : String) : Except Error String :=
  let normalized := String.ofList ((strip baseUrl).toList.rdropWhile (· == '/'))
  if normalized = "" then .error (.validation "base_url must not be blank") else .ok normalized

/-- `_normalize_connector_key`. -/
def normalizeConnectorKey (connectorKey : String) : Except Error String :=
  let normalized := strip connectorKey
  if normalized = "" then .error (.validation "connector_key must not be blank")
  else if hasSlash normalized then .error (.validation "connector_key must not contain '/'")
  else .ok normalized

/-- `_normalize_timeout_seconds`. -/
def normalizeTimeoutSeconds (timeoutSeconds : Rat) : Except Error Rat :=
  if timeoutSeconds ≤ 0 then .error (.validation "timeout_seconds must be greater than zero") else .ok timeoutSeconds

section
variable (http : Http)

/-- `_parse_connector_proxy_response_body`. -/
def parseConnectorProxyResponseBody (rawBody : String) : PyVal :=
  if rawBody = "" then .none else (http.loads rawBody).getD (.str rawBody)

/-- `_raise_for_connector_proxy_error_payload`. -/
def raiseForConnectorProxyErrorPayload (parsedBody : PyVal) (operationId baseUrl : String) : Except Error Unit :=
  match parsedBody.asMapping.bind (mappingGet · "error") with
  | some (.dict rawError) =>
    if rawError.isEmpty then .ok ()
    else
      let message := match mappingGet rawError "message" with
        | some (.str m) => if strip m = "" then http.dumps (.dict rawError) else m
        | _ => http.dumps (.dict rawError)
      .error (.serviceTaskExecution
        ("Connector proxy call for " ++ pyRepr operationId ++ " at " ++ baseUrl ++ " failed: " ++ message))
  | _ => .ok ()

/-- `_connector_proxy_http_error_message`. -/
def connectorProxyHttpErrorMessage (operationId baseUrl : String) (statusCode : Int) (rawBody : String) : String :=
  let parsedBody := parseConnectorProxyResponseBody http rawBody
  let detail := match parsedBody with
    | .str text => text
    | .none => "empty response body"
    | value => http.dumps value
  let told := match parsedBody.asMapping.bind (mappingGet · "error") with
    | some (.dict rawError) => match mappingGet rawError "message" with
      | some (.str m) => if strip m = "" then detail else m
      | _ => detail
    | _ => detail
  "Connector proxy call for " ++ pyRepr operationId ++ " at " ++ baseUrl ++ " failed with HTTP " ++ toString statusCode ++
    ": " ++ told

/-- `json.dumps(payload)`, where it succeeds. -/
def Http.bodyText (http : Http) (payload : Dict) : Option String :=
  Json.dumps false none (fun q => http.str (.float q)) payload.toVal

/-- The body of a request. -/
def requestBody : Option Dict → Except Error (Option String)
  | none => .ok none
  | some payload => match http.bodyText payload with
    | some text => .ok (some text)
    | none => .error (http.dumpsError payload.toVal)

/-- `_connector_proxy_json_request`; the body is written before anything is sent. -/
def connectorProxyJsonRequest (baseUrl path method : String) (payload : Option Dict) (timeoutSeconds : Rat)
    (operationId : String) : Web (PyVal × Int) := do
  let baseUrl ← checked (normalizeBaseUrl baseUrl)
  let timeoutSeconds ← checked (normalizeTimeoutSeconds timeoutSeconds)
  let url := http.urljoin (baseUrl ++ "/") (String.ofList (path.toList.dropWhile (· == '/')))
  let requestBody ← checked (requestBody http payload)
  let headers := [("Accept", "application/json")] ++ (payload.map fun _ => ("Content-Type", "application/json")).toList
  match ← http.send { url := url, data := requestBody, headers := headers, method := method, timeout := timeoutSeconds } with
  | .response status rawBody =>
    let parsedBody := parseConnectorProxyResponseBody http rawBody
    checked (raiseForConnectorProxyErrorPayload http parsedBody operationId baseUrl)
    pure (parsedBody, status)
  | .httpError code rawBody =>
    Prog.raise (.serviceTaskExecution (connectorProxyHttpErrorMessage http operationId baseUrl code rawBody))
  | .urlError reason =>
    Prog.raise (.serviceTaskExecution
      ("Connector proxy call for " ++ pyRepr operationId ++ " could not reach " ++ baseUrl ++ ": " ++ reason))
  | .raised error => Prog.raise error

/-! ## The catalog -/

/-- One parameter of a catalog entry. -/
def parseConnectorProxyParameterDefinition : PyVal → Except Error ServiceTaskParameterDefinition
  | .dict rawParameter =>
    match mappingGet rawParameter "id" with
    | some (.str parameterName) =>
      let parameterType := match mappingGet rawParameter "type" with
        | none | some .none => none
        | some (.str text) => some text
        | some value => some (http.str value)
      ServiceTaskParameterDefinition.new parameterName parameterType
        (((mappingGet rawParameter "required").map PyVal.truthy).getD false) none (some (.dict rawParameter))
    | _ => .error (.serviceTaskExecution "Connector proxy command parameter is missing its id")
  | _ => .error (.serviceTaskExecution "Connector proxy command parameter metadata must be an object")

/-- `_parse_connector_proxy_parameter_definitions`. -/
def parseConnectorProxyParameterDefinitions (entry : List (PyVal × PyVal)) :
    Except Error (List ServiceTaskParameterDefinition) :=
  match mappingGet entry "parameters" with
  | none => .ok []
  | some (.list rawParameters) | some (.tuple rawParameters) =>
    rawParameters.mapM (parseConnectorProxyParameterDefinition http)
  | some _ => .error (.serviceTaskExecution "Connector proxy command catalog entry parameters must be a list")

/-- One entry of the catalog. -/
def parseCatalogEntry : PyVal → Except Error ServiceTaskCommandDefinition
  | .dict entry =>
    match mappingGet entry "id" with
    | some (.str operationId) => do
      let (connectorKey, commandName) ← splitServiceTaskOperationId operationId
      let parameters ← parseConnectorProxyParameterDefinitions http entry
      ServiceTaskCommandDefinition.new connectorKey commandName (some commandName) none parameters
        (some (Dict.toVal [("catalog_entry", .dict entry)]))
    | _ => .error (.serviceTaskExecution "Connector proxy command catalog entry is missing its id")
  | _ => .error (.serviceTaskExecution "Connector proxy command catalog contains a non-object entry")

/-- `(connector_key, command_name)` order. -/
def ServiceTaskCommandDefinition.before (a b : ServiceTaskCommandDefinition) : Prop :=
  a.connectorKey < b.connectorKey ∨ (a.connectorKey = b.connectorKey ∧ a.commandName ≤ b.commandName)

instance : DecidableRel ServiceTaskCommandDefinition.before := fun _ _ => inferInstanceAs (Decidable (_ ∨ _))

/-- `fetch_connector_proxy_command_definitions`. -/
def fetchConnectorProxyCommandDefinitions (baseUrl : String) (timeoutSeconds : Rat) :
    Web (List ServiceTaskCommandDefinition) := do
  let baseUrl ← checked (normalizeBaseUrl baseUrl)
  let (responsePayload, _) ←
    connectorProxyJsonRequest http baseUrl "/v1/commands" "GET" none timeoutSeconds "connector-proxy catalog"
  match responsePayload.asList with
  | none => Prog.raise (.serviceTaskExecution "Connector proxy command catalog must be a JSON list")
  | some entries => do
    let commandDefinitions ← checked (entries.mapM (parseCatalogEntry http))
    pure (commandDefinitions.insertionSort ServiceTaskCommandDefinition.before)

/-! ## The connector -/

structure ConnectorProxyServiceTaskConnector where
  connectorKey : String
  baseUrl : String
  timeoutSeconds : Rat
  commands : List ServiceTaskCommandDefinition
  commandsByOperationId : List (String × ServiceTaskCommandDefinition)

namespace ConnectorProxyServiceTaskConnector

/-- The loop over the commands of a new connector. -/
def indexCommands (connectorKey : String) (commands : List ServiceTaskCommandDefinition) :
    Except Error (List (String × ServiceTaskCommandDefinition)) :=
  commands.foldlM (fun byOperationId command => do
    let operationId ← command.operationId
    if command.connectorKey ≠ connectorKey then
      .error (.validation
        ("Connector command " ++ pyRepr operationId ++ " does not belong to connector key " ++ pyRepr connectorKey))
    else .ok (put operationId command byOperationId)) []

/-- `ConnectorProxyServiceTaskConnector(..)`. -/
def new (connectorKey baseUrl : String) (commands : List ServiceTaskCommandDefinition) (timeoutSeconds : Rat) :
    Except Error ConnectorProxyServiceTaskConnector := do
  let connectorKey ← normalizeConnectorKey connectorKey
  let baseUrl ← normalizeBaseUrl baseUrl
  let timeoutSeconds ← normalizeTimeoutSeconds timeoutSeconds
  let byOperationId ← indexCommands connectorKey commands
  .ok
    { connectorKey := connectorKey, baseUrl := baseUrl, timeoutSeconds := timeoutSeconds, commands := commands,
      commandsByOperationId := byOperationId }

end ConnectorProxyServiceTaskConnector

/-- A parameter name only the connector may use. -/
def isReservedParameter (parameterName : String) : Bool := "spiff__".toList.isPrefixOf parameterName.toList

/-- The parameters of a request, each checked on its way into the payload. -/
def requestParameters (payload : Dict) : Dict → Except Error Dict
  | [] => .ok payload
  | (parameterName, value) :: parameters =>
    if isReservedParameter parameterName then
      .error (.validation "Service task request parameters must not use the reserved 'spiff__' prefix")
    else requestParameters (payload.set parameterName value) parameters

/-- `_connector_proxy_request_payload`. -/
def connectorProxyRequestPayload (request : ServiceTaskRequest) : Except Error Dict := do
  let payload ← requestParameters [] (request.parameters.getD [])
  let payload := match request.taskData with
    | some taskData => payload.set "spiff__task_data" taskData.toVal
    | none => payload
  match request.callbackUrl with
  | none => .ok payload
  | some callbackUrl =>
    if strip callbackUrl = "" then .error (.validation "callback_url must not be blank")
    else .ok (payload.set "spiff__callback_url" (.str (strip callbackUrl)))

/-- `ConnectorProxyServiceTaskConnector.execute`. -/
def ConnectorProxyServiceTaskConnector.execute (connector : ConnectorProxyServiceTaskConnector)
    (request : ServiceTaskRequest) : Web ServiceTaskResult := do
  let connectorKey ← checked request.connectorKey
  if connectorKey ≠ connector.connectorKey then
    Prog.raise (.validation
      ("Connector " ++ pyRepr connector.connectorKey ++ " cannot execute operation " ++ pyRepr request.operationId))
  else if (connector.commandsByOperationId.lookup request.operationId).isNone then
    Prog.raise (.notFound ("No service task command is registered for '" ++ request.operationId ++ "'"))
  else do
    let payload ← checked (connectorProxyRequestPayload request)
    let commandName ← checked request.commandName
    let path ← checked (buildConnectorProxyExecutePath connectorKey commandName)
    let (responsePayload, statusCode) ←
      connectorProxyJsonRequest http connector.baseUrl path "POST" (some payload) connector.timeoutSeconds request.operationId
    pure ⟨responsePayload, [("connector_proxy_base_url", .str connector.baseUrl), ("status_code", .int statusCode)]⟩

/-- The connector as the registry sees it. -/
def ConnectorProxyServiceTaskConnector.toConnector (connector : ConnectorProxyServiceTaskConnector) :
    ServiceTaskConnector (List HttpRequest) :=
  { connectorKey := connector.connectorKey, listCommands := connector.commands, execute := connector.execute http }

/-! ## The registry of a proxy -/

/-- The commands by connector key, each under the keys before it. -/
def commandsByConnectorKey (commands : List ServiceTaskCommandDefinition) :
    List (String × List ServiceTaskCommandDefinition) :=
  commands.foldl (fun groups command =>
    put command.connectorKey ((groups.lookup command.connectorKey).getD [] ++ [command]) groups) []

/-- The connectors of a catalog. -/
def connectorsOfCatalog (baseUrl : String) (timeoutSeconds : Rat) (commands : List ServiceTaskCommandDefinition) :
    Except Error (List ConnectorProxyServiceTaskConnector) :=
  let groups := commandsByConnectorKey commands
  ((groups.map Prod.fst).insertionSort (· ≤ ·)).mapM fun connectorKey =>
    ConnectorProxyServiceTaskConnector.new connectorKey baseUrl ((groups.lookup connectorKey).getD []) timeoutSeconds

/-- `build_connector_proxy_service_task_connectors`. -/
def buildConnectorProxyServiceTaskConnectors (baseUrl : String) (timeoutSeconds : Rat) :
    Web (List ConnectorProxyServiceTaskConnector) := do
  let commands ← fetchConnectorProxyCommandDefinitions http baseUrl timeoutSeconds
  checked (connectorsOfCatalog baseUrl timeoutSeconds commands)

/-- `build_connector_proxy_service_task_registry`. -/
def buildConnectorProxyServiceTaskRegistry (baseUrl : String) (timeoutSeconds : Rat) :
    Web (ServiceTaskRegistry (List HttpRequest)) := do
  let connectors ← buildConnectorProxyServiceTaskConnectors http baseUrl timeoutSeconds
  checked (ServiceTaskRegistry.new (connectors.map (·.toConnector http)))

end
end M8flowCore
