import M8flowCore.Services.WorkItemSync
/-!
# The workflow runtime

Starting an instance, advancing it after a task, waking it for a timer and
rerunning a failed service task. Each restores or builds a workflow, runs it
and saves it. A failing service task takes the instance to `error`: in a
session of its own on the paths that start, wake or retry, in the caller's
session otherwise.
-/
open M8flowCore.Lib M8flowCore.Session

namespace M8flowCore

/-- Python's `a or b` on optional text. -/
def orText (a : Option String) (b : String) : String := (a.filter (· != "")).getD b

def serviceTaskExecutionContext (tenantId : TenantId) (processInstanceId : Option Nat)
    (processDefinitionId : Option Nat) : ServiceTaskContext :=
  { tenantId := tenantId, processInstanceId := processInstanceId, processDefinitionId := processDefinitionId }

/-- The context an instance's service tasks run under. -/
def ProcessInstance.serviceContext (pi : ProcessInstance) (tenantId : TenantId) : ServiceTaskContext :=
  serviceTaskExecutionContext tenantId (some pi.id) pi.bpmnProcessDefinitionId

section
variable {W Ω : Type} (env : Env W Ω)

/-! ## Metadata -/

/-- `_coerce_metadata_value`. -/
def coerceMetadataValue (value : String) : PyVal :=
  let normalized := strip value
  let lower := env.lower normalized
  if lower == "true" then .bool true
  else if lower == "false" then .bool false
  else if lower == "none" || lower == "null" then .none
  else (env.literalEval normalized).getD (.str value)

/-- `_load_process_instance_metadata_payload`. -/
def loadProcessInstanceMetadataPayload (tenantId : TenantId) (processInstanceId : Nat) : M Ω Dict := do
  let rows ← getProcessInstanceMetadata tenantId processInstanceId
  pure (rows.foldl (fun payload row => Dict.set payload row.key (coerceMetadataValue env row.value)) [])

/-- `_apply_metadata_to_workflow`. -/
def applyMetadataToWorkflow (w : W) (metadata : Dict) : W :=
  if metadata.isEmpty then w else env.updateTaskTreeData (env.updateData w metadata) metadata

/-- `_apply_metadata_to_task`. -/
def applyMetadataToTask (w : W) (guid : Guid) (metadata : Dict) : W :=
  if metadata.isEmpty then w else env.setTaskData (env.updateData w metadata) guid metadata

/-! ## Failing service tasks -/

/-- `_transition_process_instance_to_error_for_service_task_failure`. -/
def transitionToErrorForServiceTaskFailure (tenantId : TenantId) (pi : ProcessInstance) (w : W) (occurredAt : Time)
    (recoveryOnly : Bool) : M Ω Unit := do
  let failedTaskGuid := (env.erroredServiceTasks w).head?.map (·.id)
  if recoveryOnly then persistWorkflowRecoveryState env pi w
  else do
    persistWorkflowState env pi w occurredAt
    syncInactiveWorkItems env pi w occurredAt
  match failedTaskGuid with
  | none => pure ()
  | some guid => recordProcessInstanceEvent tenantId pi.id .taskFailed occurredAt (some guid) none
  updateInstance pi.id fun p => { p with startedAt := some (p.startedAt.getD occurredAt) }
  write fun db => match pi.bpmnProcessId with
    | none => db
    | some processId => db.updateBpmnProcess processId fun p =>
        { p with startedAt := some (p.startedAt.getD occurredAt), endedAt := some occurredAt }
  -- An instance that fails again is taken out of `error` so that it re-enters it.
  updateInstance pi.id fun p => if p.status = .error then { p with status := .running } else p
  errorProcessInstance env tenantId pi.id none (some occurredAt)

/-- What `_persist_service_task_failure_state_in_independent_session` does in
the session it opens. -/
def storeServiceTaskFailure (tenantId : TenantId) (processInstanceId : Nat) (w : W) (occurredAt : Time) : M Ω Unit := do
  let pi ← loadProcessInstance tenantId processInstanceId
  transitionToErrorForServiceTaskFailure env tenantId pi w occurredAt true

/-- `_persist_service_task_failure_state_in_independent_session`. -/
def persistServiceTaskFailureState (tenantId : TenantId) (processInstanceId : Nat) (w : W) (occurredAt : Time) :
    M Ω Bool := do
  let saved ← independently (storeServiceTaskFailure env tenantId processInstanceId w occurredAt)
  match saved with
  | .ok _ => pure true
  | .error _ => pure false

theorem persistServiceTaskFailureState_saved {tenantId : TenantId} {processInstanceId : Nat} {w : W} {occurredAt : Time}
    {s s' : Tx Ω} (h : (storeServiceTaskFailure env tenantId processInstanceId w occurredAt).run s.fork = (.ok (), s')) :
    (persistServiceTaskFailureState env tenantId processInstanceId w occurredAt).run s =
      (.ok true, { s' with base := s.base, view := s.view, committed := s'.view }) := by
  unfold persistServiceTaskFailureState
  rw [Prog.bind_run_ok (independently_ok h)]
  rfl

theorem persistServiceTaskFailureState_unsaved {tenantId : TenantId} {processInstanceId : Nat} {w : W}
    {occurredAt : Time} {s s' : Tx Ω} {e : Error}
    (h : (storeServiceTaskFailure env tenantId processInstanceId w occurredAt).run s.fork = (.error e, s')) :
    (persistServiceTaskFailureState env tenantId processInstanceId w occurredAt).run s =
      (.ok false, { s' with base := s.base, view := s.view, committed := s.committed }) := by
  unfold persistServiceTaskFailureState
  rw [Prog.bind_run_ok (independently_error h)]
  rfl

/-- `_run_workflow_with_service_task_failure_handling`. -/
def runWorkflowWithServiceTaskFailureHandling (tenantId : TenantId) (pi : ProcessInstance) (w : W) (occurredAt : Time)
    (autonomous : Bool) : M Ω W := do
  let (raised, w) ← ask (env.runAll (some (pi.serviceContext tenantId)) w)
  match raised with
  | none => pure w
  | some (.serviceTaskExecution message) =>
    let saved ← if autonomous then persistServiceTaskFailureState env tenantId pi.id w occurredAt else pure false
    if saved then Prog.raise (.serviceTaskExecution message)
    else do
      transitionToErrorForServiceTaskFailure env tenantId pi w occurredAt false
      Prog.raise (.serviceTaskExecution message)
  | some e => Prog.raise e

/-- The workflow an engine operation leaves, or its exception raised. -/
def orRaised (result : Option Error × W) : M Ω W :=
  match result.1 with
  | none => pure result.2
  | some e => Prog.raise e

/-- `_restore_workflow`. -/
def restoreWorkflow (serializedState : String) : M Ω W := ofExcept (env.deserializeJson serializedState)

/-! ## Starting an instance -/

/-- The tenant's definition with an id. -/
def Db.tenantDefinition? (db : Db) (tenantId : TenantId) (definitionId : Nat) :
    Option BpmnProcessDefinition := db.definitions.find? fun d => d.m8fTenantId == tenantId && d.id == definitionId

/-- `_load_process_definition`. -/
def loadProcessDefinition (tenantId : TenantId) (definitionId : Nat) : M Ω BpmnProcessDefinition := do
  let definition ← query (·.tenantDefinition? tenantId definitionId)
  Prog.orRaise (.notFound s!"BPMN process definition {definitionId} was not found for tenant {tenantId}") definition

/-- `_select_process_identifier`. -/
def selectProcessIdentifier (bpmnXml : String) (bpmnProcessId : Option String) : Except Error String := do
  let processIds ← env.processIds bpmnXml
  match bpmnProcessId with
  | none => match processIds with
    | [processId] => .ok processId
    | _ => .error (.validation
        "A BPMN process id must be supplied when the definition contains multiple executable processes")
  | some processId =>
    if processIds.contains processId then .ok processId
    else .error (.notFound ("BPMN process id " ++ pyRepr processId ++ " was not found in the definition"))

/-- The payload and the row of a runtime process that has not run yet. -/
def newProcessPayload (definitionId : Nat) (processIdentifier : String) : Dict :=
  [("bpmn_process_definition_id", .int definitionId), ("process_identifier", .str processIdentifier)]

def newProcessRow (tenantId : TenantId) (definitionId : Nat) (processIdentifier hash : String) (id : Nat) : BpmnProcess :=
  { id := id, m8fTenantId := tenantId, bpmnProcessDefinitionId := definitionId,
    propertiesJson := [("root", .str processIdentifier)], jsonDataHash := hash, startedAt := none, endedAt := none }

/-- `_resolve_or_create_bpmn_process`: every instance has its own runtime row. -/
def resolveOrCreateBpmnProcess (tenantId : TenantId) (definitionId : Nat) (processIdentifier : String) : M Ω Nat := do
  let hash ← createOrUpdateFromPayload env tenantId (newProcessPayload definitionId processIdentifier)
  insert fun id db =>
    { db with
      bpmnProcesses := db.bpmnProcesses ++ [newProcessRow tenantId definitionId processIdentifier hash id] }

theorem resolveOrCreateBpmnProcess_run {tenantId : TenantId} {definitionId : Nat} {processIdentifier : String}
    {data : Dict} {s : Tx Ω} (h : env.normalizedPayload (newProcessPayload definitionId processIdentifier) = .ok data) :
    (resolveOrCreateBpmnProcess env tenantId definitionId processIdentifier).run s = (.ok s.seq, { s with
      seq := s.seq + 1
      view := { s.view.putJsonData tenantId (env.payloadDigest data) data with
        bpmnProcesses := s.view.bpmnProcesses ++
          [newProcessRow tenantId definitionId processIdentifier (env.payloadDigest data) s.seq] } }) := by
  unfold resolveOrCreateBpmnProcess createOrUpdateFromPayload Env.hashPayload
  rw [h]
  rfl

/-- `_ensure_bpmn_version_snapshot`. -/
def ensureBpmnVersionSnapshot (tenantId : TenantId) (processModelIdentifier bpmnXml : String) (occurredAt : Time) :
    M Ω Nat := do
  let hash := env.sha256 bpmnXml
  let existing ← query fun db => db.versions.find? fun v =>
    v.m8fTenantId == tenantId && v.processModelIdentifier == processModelIdentifier && v.bpmnXmlHash == hash
  match existing with
  | some version => pure version.id
  | none =>
    insert fun id db =>
      { db with
        versions := db.versions ++
          [{ id := id, m8fTenantId := tenantId, processModelIdentifier := processModelIdentifier, bpmnXmlHash := hash,
             bpmnXmlFileContents := bpmnXml, createdAt := occurredAt }] }

/-- The arguments of a start. -/
structure StartArgs where
  processInitiatorId : Nat
  submissionMetadata : Dict
  summary : Option String
  startedAt : Option Time
  bpmnProcessId : Option String

/-- What a new instance takes over from its definition and its submission. -/
def stampProcessInstance (tenantId : TenantId) (definition : BpmnProcessDefinition)
    (processModelIdentifier bpmnXml : String) (args : StartArgs) (instanceId : Nat) : M Ω Unit := do
  let timestamp ← resolveTimestamp env args.startedAt
  let versionId ← ensureBpmnVersionSnapshot env tenantId processModelIdentifier bpmnXml timestamp
  updateInstance instanceId fun p =>
    { p with
      bpmnVersionControlType := definition.bpmnVersionControlType
      bpmnVersionControlIdentifier := definition.bpmnVersionControlIdentifier
      lastMilestoneBpmnName := some (orText definition.bpmnName definition.bpmnIdentifier)
      bpmnVersionId := some versionId }
  Prog.forEach args.submissionMetadata fun kv =>
    upsertProcessInstanceMetadata tenantId instanceId kv.1 (env.str kv.2) timestamp (some timestamp)

/-- The instance a start asks for, with its runtime process. -/
def StartArgs.newInstance (args : StartArgs) (definition : BpmnProcessDefinition) (processModelIdentifier : String)
    (processId : Nat) : NewProcessInstance :=
  { processModelIdentifier := processModelIdentifier,
    processModelDisplayName := orText definition.bpmnName processModelIdentifier,
    processInitiatorId := args.processInitiatorId, bpmnProcessDefinitionId := definition.id,
    bpmnProcessId := processId, summary := args.summary, createdAt := args.startedAt, updatedAt := args.startedAt }

/-- `_prepare_process_instance_from_definition_in_session`. -/
def prepareProcessInstanceInSession (tenantId : TenantId) (definition : BpmnProcessDefinition)
    (processModelIdentifier : String) (args : StartArgs) : M Ω (Nat × String) := do
  let bpmnXml ← Prog.orRaise (.validation "Process definition does not include stored BPMN XML")
    definition.sourceBpmnXml
  let selected ← ofExcept (selectProcessIdentifier env bpmnXml args.bpmnProcessId)
  let processId ← resolveOrCreateBpmnProcess env tenantId definition.id selected
  let instanceId ← createProcessInstance env tenantId (args.newInstance definition processModelIdentifier processId)
  stampProcessInstance env tenantId definition processModelIdentifier bpmnXml args instanceId
  pure (instanceId, selected)

/-- What `_prepare_process_instance_baseline_in_independent_session` does in the
session it opens: `none` when the definition or the initiator is not there. -/
def prepareCommittedProcessInstance (tenantId : TenantId) (definitionId : Nat) (processModelIdentifier : String)
    (args : StartArgs) : M Ω (Option (Nat × String)) := do
  let found ← Prog.attempt
    (do
      let committed ← loadProcessDefinition tenantId definitionId
      let _ ← ensureUserBelongsToTenant tenantId args.processInitiatorId
      pure (some committed))
    (fun e => match e with
      | .notFound _ => pure none
      | e => Prog.raise e)
  match found with
  | none => pure none
  | some committed => do
    let result ← prepareProcessInstanceInSession env tenantId committed processModelIdentifier args
    pure (some result)

/-- `_prepare_process_instance_baseline_in_independent_session`. -/
def prepareProcessInstanceBaseline (tenantId : TenantId) (definition : BpmnProcessDefinition)
    (processModelIdentifier : String) (args : StartArgs) : M Ω (Option (Nat × String)) := do
  let prepared ← independently
    (prepareCommittedProcessInstance env tenantId definition.id processModelIdentifier args)
  match prepared with
  | .ok result => do
    refresh
    pure result
  | .error e => Prog.raise e

/-- `_prepare_process_instance_from_definition`. -/
def prepareProcessInstance (tenantId : TenantId) (definition : BpmnProcessDefinition)
    (processModelIdentifier : String) (args : StartArgs) : M Ω (ProcessInstance × String) := do
  let baseline ← prepareProcessInstanceBaseline env tenantId definition processModelIdentifier args
  let (instanceId, selected) ← match baseline with
    | some result => pure result
    | none => prepareProcessInstanceInSession env tenantId definition processModelIdentifier args
  let pi ← loadProcessInstance tenantId instanceId
  pure (pi, selected)

/-- `_seed_runtime_definitions`. -/
def seedRuntimeDefinitions (pi : ProcessInstance) (w : W) (occurredAt : Time) : M Ω Unit :=
  match pi.bpmnProcessDefinitionId with
  | none => Prog.raise (.validation "Process instance is missing a BPMN process definition")
  | some _ => syncProcessDefinitionFromWorkflow pi (env.toDict w) occurredAt

/-- `_get_ready_work_items`. -/
def readyWorkItems (db : Db) (instanceId : Nat) : List WorkItem :=
  (db.openWorkItems instanceId).filter (·.taskStatus == .ready)

/-- `_finalize_initialized_process_instance_workflow`. -/
def finalizeInitializedWorkflow (tenantId : TenantId) (pi : ProcessInstance) (w : W) (occurredAt : Time) :
    M Ω Unit := do
  saveWorkflow env pi w occurredAt true
  let readyGuid ← query fun db => (readyWorkItems db pi.id).head?.bind (·.taskGuid)
  recordProcessInstanceEvent tenantId pi.id .processInstanceCreated occurredAt readyGuid (some pi.processInitiatorId)

/-- Build an instance's workflow, seed its definitions and its data. -/
def buildInstanceWorkflow (tenantId : TenantId) (pi : ProcessInstance) (request : BuildRequest) (occurredAt : Time) :
    M Ω W := do
  let built ← ask (env.buildWorkflow request)
  let w ← ofExcept built
  seedRuntimeDefinitions env pi w occurredAt
  let metadata ← loadProcessInstanceMetadataPayload env tenantId pi.id
  pure (applyMetadataToWorkflow env w metadata)

/-- The sources an instance is started from. -/
structure WorkflowSource where
  bpmnXml : String
  dmnXml : Option String
  bpmnProcessId : Option String
  resolver : Bool

/-- `initialize_process_instance_workflow`. -/
def initializeProcessInstanceWorkflow (tenantId : TenantId) (processInstanceId : Nat) (source : WorkflowSource)
    (startedAt : Option Time) : M Ω Unit := do
  let pi ← loadProcessInstance tenantId processInstanceId
  if pi.hasTerminalStatus then Prog.raise (.invalidState "Cannot initialize a terminal process instance")
  else do
    let state ← query (·.workflowStateJson pi)
    if state.isSome then Prog.raise (.invalidState "Process instance workflow already initialized")
    else do
      let occurredAt ← resolveTimestamp env startedAt
      let w ← buildInstanceWorkflow env tenantId pi
        { bpmnXml := source.bpmnXml, dmnXml := source.dmnXml, bpmnProcessId := source.bpmnProcessId,
          context := some (pi.serviceContext tenantId), resolver := source.resolver,
          callContext := some ⟨tenantId, some pi.id, pi.bpmnProcessDefinitionId⟩ } occurredAt
      let w ← runWorkflowWithServiceTaskFailureHandling env tenantId pi w occurredAt true
      finalizeInitializedWorkflow env tenantId pi w occurredAt

/-- `_process_start_authorization_metadata`. -/
def processStartAuthorizationMetadata (definition : BpmnProcessDefinition) (requested : Option String) : Dict :=
  let text (o : Option String) : PyVal := (o.map PyVal.str).getD .none
  [("bpmn_process_definition_id", .int definition.id),
    ("process_model_identifier", .str definition.processModelIdentifier),
    ("bpmn_identifier", .str definition.bpmnIdentifier), ("bpmn_name", text definition.bpmnName),
    ("requested_bpmn_process_id", text requested)]

/-- `process_definition.process_model_identifier or str(process_definition.id)`. -/
def startedModelIdentifier (definition : BpmnProcessDefinition) : String :=
  orText (some definition.processModelIdentifier) (toString definition.id)

/-- `initialize_process_instance_from_definition`. -/
def initializeProcessInstanceFromDefinition (tenantId : TenantId) (definitionId : Nat) (args : StartArgs)
    (resolver : Bool) : M Ω Unit := do
  let _ ← ensureUserBelongsToTenant tenantId args.processInitiatorId
  let definition ← loadProcessDefinition tenantId definitionId
  let modelIdentifier := startedModelIdentifier definition
  requireCommandAuthorization env tenantId args.processInitiatorId processStartCommand .processModel modelIdentifier
    (processStartAuthorizationMetadata definition args.bpmnProcessId)
  let (pi, selected) ← prepareProcessInstance env tenantId definition modelIdentifier args
  initializeProcessInstanceWorkflow env tenantId pi.id
    { bpmnXml := definition.sourceBpmnXml.getD "", dmnXml := definition.sourceDmnXml, bpmnProcessId := some selected,
      resolver := resolver } args.startedAt

/-! ## Starting an instance from a timer -/

def forcedDueTimerEventValue : String := "1970-01-01T00:00:00+00:00"

/-- `_forced_due_timer_event_value`. -/
def forcedDueEventValue : Option PyVal → Except Error PyVal
  | some (.str _) => .ok (.str forcedDueTimerEventValue)
  | some (.dict entries) =>
    .ok (Dict.toVal (Dict.set (PyVal.asDict (.dict entries)) "next" (.str forcedDueTimerEventValue)))
  | _ => .error (.validation "Waiting timer task is missing its event_value")

/-- `_workflow_has_progressed_past_timer_start`. -/
def workflowHasProgressedPastTimerStart (w : W) : Bool :=
  env.completed w || (env.tasks w).any (·.state == .ready) || (env.waitingTasks w).any (·.specType != "StartEvent")

/-- `_force_waiting_timer_start_task_due`: the workflow with its timer due, or
`none` when it is already past its start. -/
def forceWaitingTimerStartTaskDue (w : W) (timerStartTaskSpecName : String) : Except Error (Option W) :=
  if workflowHasProgressedPastTimerStart env w then .ok none
  else
    match (env.waitingTasks w).find? fun t =>
      t.specType == "StartEvent" && t.timer.isSome && t.specName == timerStartTaskSpecName with
    | none => .error (.validation
        ("Timer start event " ++ pyRepr timerStartTaskSpecName ++ " was not found in waiting state"))
    | some t => (forcedDueEventValue (t.internalData.get "event_value")).map fun value =>
        some (env.setEventValue w t.id value)

/-- The arguments a timer starts an instance with. -/
def timerStartArgs (processInitiatorId : Nat) (startedAt : Option Time) : StartArgs :=
  { processInitiatorId := processInitiatorId, submissionMetadata := [], summary := none, startedAt := startedAt,
    bpmnProcessId := none }

/-- `_initialize_process_instance_from_timer_start_definition`. -/
def initializeProcessInstanceFromTimerStart (tenantId : TenantId) (definitionId processInitiatorId : Nat)
    (timerStartTaskSpecName : String) (startedAt : Option Time) : M Ω Unit := do
  let _ ← ensureUserBelongsToTenant tenantId processInitiatorId
  let definition ← loadProcessDefinition tenantId definitionId
  let (pi, selected) ← prepareProcessInstance env tenantId definition (startedModelIdentifier definition)
    (timerStartArgs processInitiatorId startedAt)
  let occurredAt ← resolveTimestamp env startedAt
  let w ← buildInstanceWorkflow env tenantId pi
    { bpmnXml := definition.sourceBpmnXml.getD "", dmnXml := definition.sourceDmnXml, bpmnProcessId := some selected,
      context := some (serviceTaskExecutionContext tenantId (some pi.id) (some definition.id)), resolver := false,
      callContext := none } occurredAt
  let w ← runWorkflowWithServiceTaskFailureHandling env tenantId pi w occurredAt true
  let forced ← ofExcept (forceWaitingTimerStartTaskDue env w timerStartTaskSpecName)
  let w ← match forced with
    | none => pure w
    | some w => do
      let refreshed ← ask (env.refreshWaitingTasks (pi.serviceContext tenantId) w)
      let w ← orRaised refreshed
      if env.readyManualTasks w = [] then runWorkflowWithServiceTaskFailureHandling env tenantId pi w occurredAt true
      else pure w
  finalizeInitializedWorkflow env tenantId pi w occurredAt

/-! ## Advancing, waking, rerunning -/

/-- `advance_process_instance_workflow`. -/
def advanceProcessInstanceWorkflow (tenantId : TenantId) (processInstanceId : Nat) (completedTaskGuid : Guid)
    (completedAt : Option Time) : M Ω Unit := do
  let pi ← loadProcessInstance tenantId processInstanceId
  match ← query (·.workflowStateJson pi) with
  | none => pure ()
  | some state =>
    if pi.hasTerminalStatus then pure ()
    else do
      let occurredAt ← resolveTimestamp env completedAt
      let w ← restoreWorkflow env state
      if (env.tasks w).any (·.id == completedTaskGuid) then do
        let metadata ← loadProcessInstanceMetadataPayload env tenantId processInstanceId
        let w := applyMetadataToTask env w completedTaskGuid metadata
        let completed ← ask (env.complete (pi.serviceContext tenantId) w completedTaskGuid)
        let w ← orRaised completed
        let w ← runWorkflowWithServiceTaskFailureHandling env tenantId pi w occurredAt false
        saveWorkflow env pi w occurredAt false
      else Prog.raise (.other "TaskNotFoundException" completedTaskGuid)

/-- `_refresh_waiting_process_instance_workflow`. -/
def refreshWaitingProcessInstanceWorkflow (tenantId : TenantId) (processInstanceId : Nat) (occurredAt : Option Time) :
    M Ω Unit := do
  let pi ← loadProcessInstance tenantId processInstanceId
  match ← query (·.workflowStateJson pi) with
  | none => pure ()
  | some state =>
    if pi.hasTerminalStatus then pure ()
    else do
      let timestamp ← resolveTimestamp env occurredAt
      let w ← restoreWorkflow env state
      let refreshed ← ask (env.refreshWaitingTasks (pi.serviceContext tenantId) w)
      let w ← orRaised refreshed
      let w ← runWorkflowWithServiceTaskFailureHandling env tenantId pi w timestamp true
      saveWorkflow env pi w timestamp false

/-- `workflow.reset_from_task_id` on each failed task in turn. -/
def resetFromTaskIds (w : W) (data : Dict) : List Guid → Option Error × W
  | [] => (none, w)
  | guid :: guids => match env.resetFromTaskId w guid data with
    | (none, w) => resetFromTaskIds w data guids
    | (some e, w) => (some e, w)

/-- `retry_errored_service_task_workflow_if_needed`. -/
def retryErroredServiceTaskWorkflowIfNeeded (tenantId : TenantId) (processInstanceId : Nat)
    (occurredAt : Option Time) : M Ω Unit := do
  let pi ← loadProcessInstance tenantId processInstanceId
  match ← query (·.workflowStateJson pi) with
  | none => pure ()
  | some state => do
    let timestamp ← resolveTimestamp env occurredAt
    let w ← restoreWorkflow env state
    let metadata ← loadProcessInstanceMetadataPayload env tenantId pi.id
    let w := applyMetadataToWorkflow env w metadata
    match (env.erroredServiceTasks w).map (·.id) with
    | [] => pure ()
    | errored => do
      let w ← orRaised (resetFromTaskIds env w (Dict.update (env.data w) metadata) errored)
      let w ← runWorkflowWithServiceTaskFailureHandling env tenantId pi w timestamp true
      saveWorkflow env pi w timestamp false

/-- `sync_open_work_item_potential_owners`. `loaded` is the instance's
`work_items` collection when the session has loaded it before. -/
def syncOpenWorkItemPotentialOwners (tenantId : TenantId) (processInstanceId : Nat) (loaded : Option (List Nat)) :
    M Ω Unit := do
  let pi ← loadProcessInstance tenantId processInstanceId
  match ← query (·.workflowStateJson pi) with
  | none => pure ()
  | some state => do
    let items ← query fun db => (db.openWorkItems pi.id).filter fun item =>
      item.taskGuid.isSome && loaded.all (·.contains item.id)
    if items.isEmpty then pure ()
    else do
      let w ← restoreWorkflow env state
      let properties ← query fun db => (pi.bpmnProcessDefinitionId.bind db.definition?).map (·.propertiesJson)
      Prog.forEach items fun item =>
        match (env.readyManualTasks w).find? fun t => item.taskGuid == some t.id with
        | none => pure ()
        | some t => assignWorkItemPotentialOwners env pi item.id t.lane t.data properties

end
end M8flowCore
