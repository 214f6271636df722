import M8flowCore.Configuration
import M8flowCore.OperationIds
import M8flowCore.Services.ServiceCalls
/-!
# From a service task to the proxy

Everything that goes wrong when a service task is called is raised as a
`ServiceTaskExecutionError`, which is what the run of a workflow stores a failure
for; an operator id that cannot be split is the one exception. With the registry
of a proxy, a call posts the parameters and the data of the task once.
-/
open M8flowCore.Lib

namespace M8flowCore

/-! ## What goes wrong -/

section
variable {ω : Type} {str repr : PyVal → String} {dumps : PyVal → Except Error String} {factories : RegistryFactories ω}
  {engine : RuntimeServiceTaskScriptEngine} {task : ServiceTask} {s s' : ω} {name : String} {params : List (PyVal × PyVal)}
  {values : Dict} {e : Error}

theorem splitServiceTaskOperationId_error {id : String} (h : splitServiceTaskOperationId id = .error e) :
    ∃ message, e = .validation message := by
  unfold splitServiceTaskOperationId at h
  cases hid : normalizeNonBlank id "operation_id" with
  | error e' =>
    unfold normalizeNonBlank at hid
    dsimp only at hid
    split at hid
    · obtain rfl := Except.error.inj hid
      rw [normalizeNonBlank, if_pos ‹_›] at h
      exact ⟨_, (Except.error.inj h).symm⟩
    · cases hid
  | ok id' =>
    rw [hid] at h
    simp only [bind, Except.bind] at h
    split at h
    · split at h
      · cases h
      · exact ⟨_, (Except.error.inj h).symm⟩
    · exact ⟨_, (Except.error.inj h).symm⟩

theorem strip_of_split {id : String} {parts : String × String} (h : splitServiceTaskOperationId id = .ok parts) : strip id ≠ "" := by
  intro hblank
  rw [splitServiceTaskOperationId, normalizeNonBlank, if_pos hblank] at h
  cases h

theorem addParameterValues_error (h : addParameterValues str repr name values params = .error e) :
    ∃ message, e = .serviceTaskExecution message := by
  induction params generalizing values with
  | nil => cases h
  | cons kv params ih =>
    obtain ⟨key, value⟩ := kv
    unfold addParameterValues at h
    split at h
    · cases h
    · rename_i heq
      obtain ⟨hkv, rfl⟩ := List.cons.inj heq
      split at h
      · exact ⟨_, (Except.error.inj h).symm⟩
      · exact ih h
    · exact ⟨_, (Except.error.inj h).symm⟩

/-- The context of a call, for a tenant that is named. -/
theorem ServiceCallContext.new_ok {context : ServiceTaskContext} (taskGuid taskName taskType : Option String)
    (metadata : Option Dict) (htrimmed : strip context.tenantId = context.tenantId) (hnamed : context.tenantId ≠ "") :
    ∃ called, ServiceCallContext.new context taskGuid taskName taskType metadata = .ok called := by
  have hnormal : normalizeNonBlank context.tenantId "tenant_id" = .ok context.tenantId := by
    rw [normalizeNonBlank_eq _ (htrimmed.symm ▸ hnamed), htrimmed]
  unfold ServiceCallContext.new
  split
  · rename_i e herror
    rw [hnormal] at herror
    cases herror
  · exact ⟨_, rfl⟩

/-- A request is refused for its parameters, or else for an operator id that
cannot be split. -/
theorem serviceTaskRequest_cases (str repr : PyVal → String) (engine : RuntimeServiceTaskScriptEngine) (task : ServiceTask) (name : String)
    (params : List (PyVal × PyVal)) :
    (∃ message, serviceTaskParameterValues str repr name params = .error (.serviceTaskExecution message) ∧
      serviceTaskRequest str repr engine task name params = .error (.serviceTaskExecution message)) ∨
    ∃ values, serviceTaskParameterValues str repr name params = .ok values ∧
      ((∃ e, splitServiceTaskOperationId name = .error e ∧ serviceTaskRequest str repr engine task name params = .error e) ∨
        ∃ request, serviceTaskRequest str repr engine task name params = .ok request ∧
          (splitServiceTaskOperationId name).isOk = true ∧ request.operationId = name ∧ request.parameters = some values ∧
          request.taskData = serviceTaskTaskData task ∧ request.callbackUrl = none) := by
  unfold serviceTaskRequest
  cases hvalues : serviceTaskParameterValues str repr name params with
  | error e =>
    obtain ⟨message, rfl⟩ := addParameterValues_error hvalues
    exact .inl ⟨message, rfl, rfl⟩
  | ok values =>
    obtain ⟨context, hcontext⟩ := ServiceCallContext.new_ok (if task.id = "" then none else some task.id) (some task.name)
      (some task.typeName) (some [("result_variable", task.resultVariable)]) engine.trimmed engine.nonBlank
    refine .inr ⟨values, rfl, ?_⟩
    simp only [bind, Except.bind, hcontext]
    unfold RuntimeServiceTaskRequest.new
    split
    · rename_i e hsplit
      exact .inl ⟨e, hsplit, rfl⟩
    · rename_i parts hsplit
      exact .inr ⟨_, rfl, by rw [hsplit]; rfl, rfl, rfl, rfl, rfl⟩

/-- Whatever a registry or a connector raises, the call raises a service task error. -/
theorem tryService_error {request : ServiceTaskRequest}
    (h : (tryService dumps factories engine name request).run s = (.error e, s')) : ∃ message, e = .serviceTaskExecution message := by
  unfold tryService at h
  rw [Prog.attempt_run] at h
  split at h
  · cases h
  · split at h
    · exact ⟨_, (Except.error.inj (Prod.mk.inj h).1).symm⟩
    · exact ⟨_, (Except.error.inj (Prod.mk.inj h).1).symm⟩

/-- An operator id that is given, with parameters that are in order, and cannot be split. -/
def Unsplittable (str repr : PyVal → String) (operationName operationParams : PyVal) (e : Error) : Prop :=
  ∃ name params values, operationName = .str name ∧ operationParams = .dict params ∧ strip name ≠ "" ∧
    serviceTaskParameterValues str repr name params = .ok values ∧ splitServiceTaskOperationId name = .error e

/-- What a call raises that is no service task error. -/
theorem callService_other_iff {operationName operationParams : PyVal} :
    (callService str repr dumps factories engine task operationName operationParams).run s = (.error e, s') ∧
      (∀ message, e ≠ .serviceTaskExecution message) ↔
    Unsplittable str repr operationName operationParams e ∧ s' = s := by
  constructor
  · rintro ⟨hrun, hother⟩
    unfold callService at hrun
    split at hrun
    · rename_i name params
      split at hrun
      · exact absurd (Except.error.inj (Prod.mk.inj hrun).1).symm (hother _)
      · rename_i hnamed
        rcases serviceTaskRequest_cases str repr engine task name params with
          ⟨message, -, hrequest⟩ | ⟨values, hvalues, ⟨e', hsplit, hrequest⟩ | ⟨request, hrequest, -⟩⟩ <;>
          rw [hrequest] at hrun
        · exact absurd (Except.error.inj (Prod.mk.inj hrun).1).symm (hother _)
        · obtain ⟨he, rfl⟩ := Prod.mk.inj hrun
          obtain rfl := Except.error.inj he
          exact ⟨⟨name, params, values, rfl, rfl, hnamed, hvalues, hsplit⟩, rfl⟩
        · obtain ⟨message, rfl⟩ := tryService_error hrun
          exact absurd rfl (hother message)
    · split at hrun
      · exact absurd (Except.error.inj (Prod.mk.inj hrun).1).symm (hother _)
      · exact absurd (Except.error.inj (Prod.mk.inj hrun).1).symm (hother _)
    · exact absurd (Except.error.inj (Prod.mk.inj hrun).1).symm (hother _)
  · rintro ⟨⟨name, params, values, rfl, rfl, hnamed, hvalues, hsplit⟩, rfl⟩
    obtain ⟨message, rfl⟩ := splitServiceTaskOperationId_error hsplit
    refine ⟨?_, by simp⟩
    unfold callService
    rcases serviceTaskRequest_cases str repr engine task name params with
      ⟨message, herror, -⟩ | ⟨values', -, ⟨e', hsplit', hrequest⟩ | ⟨request, -, hok, -⟩⟩
    · rw [hvalues] at herror
      cases herror
    · obtain rfl := Except.error.inj (hsplit'.symm.trans hsplit)
      simp only [hnamed, if_false, hrequest]
      rfl
    · rw [hsplit] at hok
      cases hok

/-- **A service task fails as a service task**, whatever the registry is and
whatever its connectors raise. The one exception is an operator id that cannot be
split: with parameters that are in order it is refused with a `ValidationError`,
and no registry is asked. -/
theorem service_task_failures (operationName operationParams : PyVal) (s : ω) :
    (∀ e s', (callService str repr dumps factories engine task operationName operationParams).run s = (.error e, s') →
      (∃ message, e = .serviceTaskExecution message) ∨
        (∃ message, e = .validation message) ∧ Unsplittable str repr operationName operationParams e ∧ s' = s) ∧
    ∀ e, Unsplittable str repr operationName operationParams e →
      (callService str repr dumps factories engine task operationName operationParams).run s = (.error e, s) := by
  refine ⟨fun e s' hrun => ?_, fun e h => (callService_other_iff.2 ⟨h, rfl⟩).1⟩
  by_cases hservice : ∃ message, e = .serviceTaskExecution message
  · exact .inl hservice
  · obtain ⟨h, rfl⟩ := callService_other_iff.1 ⟨hrun, fun message he => hservice ⟨message, he⟩⟩
    obtain ⟨_, _, _, -, -, -, -, hsplit⟩ := id h
    exact .inr ⟨splitServiceTaskOperationId_error hsplit, h, rfl⟩

end

/-! ## One request of a connector -/

section
variable {http : Http} {sent sent' : List HttpRequest} {baseUrl base base' : String} {timeoutSeconds : Rat}
  {catalog : List ServiceTaskCommandDefinition} {str repr : PyVal → String} {dumps : PyVal → Except Error String}

/-- The answer to a request, if it is one that the connector returns. -/
def Answers (http : Http) (operationId baseUrl : String) (answer : HttpAnswer) (body : PyVal) (status : Int) : Prop :=
  ∃ rawBody, answer = .response status rawBody ∧ body = parseConnectorProxyResponseBody http rawBody ∧
    raiseForConnectorProxyErrorPayload http body operationId baseUrl = .ok ()

variable (http) in
theorem connectorProxyJsonRequest_run (path operationId : String) {data : Dict} {text : String}
    (htext : http.bodyText data = some text) (hbase : normalizeBaseUrl base = .ok base')
    (htimeout : normalizeTimeoutSeconds timeoutSeconds = .ok timeoutSeconds) (sent : List HttpRequest) :
    let call : HttpRequest := ⟨http.urljoin (base' ++ "/") (String.ofList (path.toList.dropWhile (· == '/'))), some text,
      [("Accept", "application/json"), ("Content-Type", "application/json")], "POST", timeoutSeconds⟩
    ∃ r, (connectorProxyJsonRequest http base path "POST" (some data) timeoutSeconds operationId).run sent = (r, sent ++ [call]) ∧
      ∀ body status, r = .ok (body, status) ↔ Answers http operationId base' (http.urlopen sent call) body status := by
  intro call
  have hsend : (http.send call).run sent = (.ok (http.urlopen sent call), sent ++ [call]) := rfl
  have hbody : requestBody http (some data) = .ok (some text) := by simp only [requestBody, htext]
  unfold connectorProxyJsonRequest
  rw [hbase, htimeout, hbody]
  simp only [checked, Prog.pure_bind, Option.map_some, Option.toList_some, List.singleton_append]
  rw [Prog.bind_run_ok hsend]
  cases hanswer : http.urlopen sent call with
  | response status rawBody =>
    cases hraise : raiseForConnectorProxyErrorPayload http (parseConnectorProxyResponseBody http rawBody) operationId base' with
    | error e =>
      simp only [hraise]
      refine ⟨.error e, rfl, fun body status' => iff_of_false (by simp) ?_⟩
      rintro ⟨_, hresponse, rfl, hok⟩
      obtain ⟨-, rfl⟩ := HttpAnswer.response.inj hresponse
      rw [hraise] at hok
      cases hok
    | ok u =>
      simp only [hraise]
      refine ⟨_, rfl, fun body status' => ⟨fun h => ?_, ?_⟩⟩
      · obtain ⟨rfl, rfl⟩ := Prod.mk.inj (Except.ok.inj h)
        exact ⟨rawBody, rfl, rfl, hraise⟩
      · rintro ⟨_, hresponse, rfl, -⟩
        obtain ⟨rfl, rfl⟩ := HttpAnswer.response.inj hresponse
        rfl
  | httpError code rawBody =>
    refine ⟨_, rfl, fun body status => iff_of_false (by simp) ?_⟩
    rintro ⟨_, hresponse, -⟩
    cases hresponse
  | urlError reason =>
    refine ⟨_, rfl, fun body status => iff_of_false (by simp) ?_⟩
    rintro ⟨_, hresponse, -⟩
    cases hresponse
  | raised error =>
    refine ⟨_, rfl, fun body status => iff_of_false (by simp) ?_⟩
    rintro ⟨_, hresponse, -⟩
    cases hresponse

/-! ## What is posted -/

theorem addParameterValues_distinct {operationName : String} {values values' : Dict} {params : List (PyVal × PyVal)}
    (hvalues : values.Distinct) (h : addParameterValues str repr operationName values params = .ok values') : values'.Distinct := by
  induction params generalizing values with
  | nil =>
    obtain rfl := Except.ok.inj h
    exact hvalues
  | cons kv params ih =>
    obtain ⟨key, value⟩ := kv
    unfold addParameterValues at h
    split at h
    · rename_i heq
      cases heq
    · rename_i heq
      obtain ⟨hkv, rfl⟩ := List.cons.inj heq
      split at h
      · cases h
      · exact ih (Dict.distinct_set hvalues _ _) h
    · cases h

/-- A dictionary is its own copy. -/
theorem update_of_distinct {d parameters : Dict} (hdistinct : Dict.Distinct (d ++ parameters)) :
    d.update parameters = d ++ parameters := by
  unfold Dict.update
  induction parameters generalizing d with
  | nil => simp
  | cons p parameters ih =>
    obtain ⟨key, value⟩ := p
    have hnew : ∀ kv ∈ d, kv.1 ≠ key := by
      intro kv hkv hsame
      have hkeys : (d.map (·.1) ++ ((key, value) :: parameters).map (·.1)).Nodup := by
        rw [← List.map_append]
        exact hdistinct
      have hold : kv.1 ∈ d.map (·.1) := List.mem_map_of_mem hkv
      exact List.disjoint_of_nodup_append hkeys hold (by simp [hsame])
    rw [List.foldl_cons, set_of_new hnew, ih (by simpa using hdistinct)]
    simp

theorem requestParameters_refuses {payload parameters : Dict} (h : ∃ p ∈ parameters, isReservedParameter p.1 = true) :
    ∃ e, requestParameters payload parameters = .error e := by
  induction parameters generalizing payload with
  | nil =>
    obtain ⟨p, hp, -⟩ := h
    cases hp
  | cons q parameters ih =>
    obtain ⟨key, value⟩ := q
    rw [requestParameters]
    split
    · exact ⟨_, rfl⟩
    · rename_i hkey
      obtain ⟨p, hp, hreserved⟩ := h
      rcases List.mem_cons.1 hp with rfl | hp
      · exact absurd hreserved hkey
      · exact ih ⟨p, hp, hreserved⟩

/-- The call of a command, with a JSON text for its body. -/
def postOf (http : Http) (base connectorKey commandName body : String) (timeoutSeconds : Rat) : HttpRequest :=
  { url := http.urljoin (base ++ "/") ("v1/do/" ++ connectorKey ++ "/" ++ commandName), data := some body,
    headers := [("Accept", "application/json"), ("Content-Type", "application/json")], method := "POST", timeout := timeoutSeconds }

/-- What a call posts: the parameters and, if there is any, the task's data. -/
def postedData (values : Dict) (task : ServiceTask) : Dict :=
  match serviceTaskTaskData task with
  | some taskData => values ++ [("spiff__task_data", taskData.toVal)]
  | none => values

theorem connectorProxyRequestPayload_eq {request : ServiceTaskRequest} {values : Dict} {task : ServiceTask}
    (hparameters : request.parameters = some values) (htaskData : request.taskData = serviceTaskTaskData task)
    (hcallback : request.callbackUrl = none) (hdistinct : values.Distinct)
    (hreserved : ∀ p ∈ values, isReservedParameter p.1 = false) :
    connectorProxyRequestPayload request = .ok (postedData values task) := by
  have hnothing : NothingReserved request := by
    unfold NothingReserved
    rw [hparameters]
    exact hreserved
  have hnamed : CallbackNamed request := by simp [CallbackNamed, hcallback]
  refine (connectorProxyRequestPayload_ok hnothing).2 ⟨hnamed, ?_⟩
  have hcopied : Dict.update [] values = values := update_of_distinct (d := []) hdistinct
  unfold payloadOf postedData
  rw [hparameters, Option.getD_some, hcopied, htaskData, hcallback]
  cases serviceTaskTaskData task <;> simp

variable (http) in
/-- A connector posts what it knows by its id once, and returns what is answered. -/
theorem connector_execute_run {connector : ConnectorProxyServiceTaskConnector} {request : ServiceTaskRequest} {k n : String}
    {payload : Dict} {text : String} (hsplit : splitServiceTaskOperationId request.operationId = .ok (k, n)) (hk : IdHalf k)
    (hn : IdHalf n) (hkey : connector.connectorKey = k)
    (hid : (connector.commandsByOperationId.lookup request.operationId).isSome)
    (hpayload : connectorProxyRequestPayload request = .ok payload) (htext : http.bodyText payload = some text) (hbase : normalizeBaseUrl connector.baseUrl = .ok base')
    (htimeout : normalizeTimeoutSeconds connector.timeoutSeconds = .ok connector.timeoutSeconds) (sent : List HttpRequest) :
    let call := postOf http base' k n text connector.timeoutSeconds
    ∃ r, (connector.execute http request).run sent = (r, sent ++ [call]) ∧
      ∀ body, (∃ result, r = .ok result ∧ result.payload = body) ↔
        ∃ status, Answers http request.operationId base' (http.urlopen sent call) body status := by
  intro call
  have hnone : (connector.commandsByOperationId.lookup request.operationId).isNone = false := by
    rw [← Option.not_isSome, hid]
    rfl
  have hpath : String.ofList (("/v1/do/" ++ k ++ "/" ++ n).toList.dropWhile (· == '/')) = "v1/do/" ++ k ++ "/" ++ n := by
    rw [← String.toList_inj, String.toList_ofList]
    simp
  obtain ⟨r, hrun, hanswers⟩ := connectorProxyJsonRequest_run http ("/v1/do/" ++ k ++ "/" ++ n) request.operationId
    htext hbase htimeout sent
  rw [hpath] at hrun hanswers
  unfold ConnectorProxyServiceTaskConnector.execute
  rw [request_connectorKey hsplit, request_commandName hsplit, hpayload]
  simp only [checked, Prog.pure_bind, hkey, ne_eq, not_true_eq_false, if_false, hnone, hk.path hn, Bool.false_eq_true]
  cases r with
  | error e =>
    rw [Prog.bind_run_error hrun]
    refine ⟨_, rfl, fun body => iff_of_false (by simp) ?_⟩
    rintro ⟨status, hanswer⟩
    cases (hanswers body status).2 hanswer
  | ok parsed =>
    rw [Prog.bind_run_ok hrun]
    refine ⟨_, rfl, fun body => ⟨?_, ?_⟩⟩
    · rintro ⟨result, hresult, rfl⟩
      obtain rfl := Except.ok.inj hresult
      exact ⟨parsed.2, (hanswers parsed.1 parsed.2).1 rfl⟩
    · rintro ⟨status, hanswer⟩
      obtain rfl := Except.ok.inj ((hanswers body status).2 hanswer)
      exact ⟨_, rfl, rfl⟩

variable (http base timeoutSeconds) in
/-- A request for a command of the catalog goes to the connector of its key, which knows it. -/
theorem execute_connector {request : ServiceTaskRequest} {c : ServiceTaskCommandDefinition}
    (hc : c ∈ catalog) (hid : request.operationId = c.id) :
    splitServiceTaskOperationId request.operationId = .ok (c.connectorKey, c.commandName) ∧
    ((connectorOf catalog base timeoutSeconds c.connectorKey).commandsByOperationId.lookup request.operationId).isSome ∧
    (registryOf http catalog base timeoutSeconds).execute request =
      (connectorOf catalog base timeoutSeconds c.connectorKey).execute http request := by
  have hsplit : splitServiceTaskOperationId request.operationId = .ok (c.connectorKey, c.commandName) := by
    rw [hid]
    exact c.split_id
  obtain ⟨found, hget, -⟩ := getCommand_own http base timeoutSeconds hc
  rw [← hid] at hget
  refine ⟨hsplit, ?_, ?_⟩
  · rw [hid]
    exact lookup_commandsById.2 ⟨c, by simp [hc], rfl⟩
  · rw [execute_eq hsplit hget, c.key.trimmed]

variable (dumps) in
theorem tryService_run {ω : Type} {factories : RegistryFactories ω} {registry : ServiceTaskRegistry ω}
    (engine : RuntimeServiceTaskScriptEngine) (name : String) {request : ServiceTaskRequest} {s s' : ω}
    {r : Except Error ServiceTaskResult}
    (hresolve : resolveServiceTaskRegistry factories = pure registry) (hrun : (registry.execute request).run s = (r, s')) :
    ∃ outcome, (tryService dumps factories engine name request).run s = (outcome, s') ∧
      (∀ text, outcome = .ok text ↔ ∃ result, r = .ok result ∧ dumps result.payload = .ok text) := by
  unfold tryService
  rw [Prog.attempt_run, hresolve, Prog.pure_bind]
  cases r with
  | error e =>
    rw [Prog.bind_run_error hrun]
    cases e <;> exact ⟨_, rfl, fun text => by simp⟩
  | ok result =>
    rw [Prog.bind_run_ok hrun]
    cases htext : dumps result.payload with
    | ok text => exact ⟨_, rfl, fun text' => by simp [htext]⟩
    | error e => cases e <;> exact ⟨_, rfl, fun text => by simp [htext]⟩

end

namespace Sample

def catalogText : String := "[\x7b\"id\": \"http/get\"\x7d]"

/-- A proxy that answers every call of `get` with a text. -/
def answering : Http :=
  { proxy with
    loads := fun text =>
      if text = catalogText then some (.list [.dict [(.str "id", .str "http/get")]])
      else if text = "\"found\"" then some (.str "found") else none
    urlopen := fun _ request => .response 200 (if request.method = "POST" then "\"found\"" else catalogText) }

theorem answering_fetch :
    (fetchConnectorProxyCommandDefinitions answering "http://proxy" 10).run [] = (.ok [getCommand], [catalogRequest]) := by
  decide +kernel

def getTask : ServiceTask :=
  { id := "t1", name := "get", typeName := "ServiceTask", resultVariable := .str "answer", data := [("order", .int 7)],
    workflowData := [] }

def textOf : PyVal → String
  | .str text => text
  | _ => ""

def textDumps : PyVal → Except Error String
  | .str text => .ok ("\"" ++ text ++ "\"")
  | _ => .error (.other "TypeError" "not a text")

def getEngine : RuntimeServiceTaskScriptEngine :=
  ⟨{ tenantId := "acme", processInstanceId := some 1, processDefinitionId := some 1 }, by decide +kernel, by decide⟩

def getParams : List (PyVal × PyVal) := [(.str "url", .dict [(.str "value", .str "u"), (.str "type", .str "str")])]

end Sample

end M8flowCore
