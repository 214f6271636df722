import M8flowCore.Services.ProcessInstances
/-!
# Saving a workflow

A save writes a workflow into the tables: the definition and its task
definitions, the runtime process with the snapshot, one row per task, and the
job that wakes the instance for its next timer.
-/
open M8flowCore.Lib M8flowCore.Session

namespace M8flowCore

def workflowStateSerializerVersion : String := "5"

/-! ## Stored definitions -/

namespace BpmnProcessDefinition

def sourceBpmnXmlPropertyKey : String := "__m8f_source_bpmn_xml"
def sourceDmnXmlPropertyKey : String := "__m8f_source_dmn_xml"
def processModelIdentifierPropertyKey : String := "__m8f_process_model_identifier"

variable (d : BpmnProcessDefinition)

def sourceBpmnXml : Option String := (d.propertiesJson.get sourceBpmnXmlPropertyKey).bind PyVal.asStr

def sourceDmnXml : Option String := (d.propertiesJson.get sourceDmnXmlPropertyKey).bind PyVal.asStr

def explicitProcessModelIdentifier : Option String :=
  (d.propertiesJson.get processModelIdentifierPropertyKey).bind PyVal.asStr

def processModelIdentifier : String := (d.explicitProcessModelIdentifier.filter (· != "")).getD d.bpmnIdentifier

def setProperty (key : String) (value : String) : BpmnProcessDefinition :=
  { d with propertiesJson := d.propertiesJson.set key (.str value) }

/-- The definition's columns after a save of one of its instances: what the
workflow's spec says, under the library's own keys and under keys it lacks. -/
def syncFromSpec (spec : SerializedSpec) (instanceModelIdentifier : String) (occurredAt : Time) :
    BpmnProcessDefinition :=
  let d := if d.explicitProcessModelIdentifier.isNone then
    d.setProperty processModelIdentifierPropertyKey instanceModelIdentifier else d
  { d with
    bpmnIdentifier := spec.name
    propertiesJson := d.propertiesJson.foldl
      (fun merged kv => if "__m8f_".toList.isPrefixOf kv.1.toList || !(merged.any (·.1 == kv.1))
        then merged.set kv.1 kv.2 else merged) spec.properties
    updatedAt := some occurredAt }

end BpmnProcessDefinition

namespace Db
variable (db : Db)

/-- `JsonDataModel.create_or_update_from_payload`, on a normalized payload. -/
def putJsonData (tenantId : TenantId) (hash : String) (data : Dict) : Db :=
  { db with
    jsonData :=
      if (db.jsonData? tenantId hash).isSome then
        updateWhere (fun r => r.m8fTenantId == tenantId && r.hash == hash) ({ · with data := data }) db.jsonData
      else db.jsonData ++ [{ m8fTenantId := tenantId, hash := hash, data := data }] }

end Db

section
variable {W Ω : Type} (env : Env W Ω)

/-- The value of an `Except`, or its exception raised. -/
def ofExcept {α : Type} : Except Error α → M Ω α
  | .ok a => pure a
  | .error e => Prog.raise e

/-- `JsonDataModel.create_or_update_from_payload`. -/
def createOrUpdateFromPayload (tenantId : TenantId) (data : Dict) : M Ω String := do
  let (hash, normalized) ← ofExcept (env.hashPayload data)
  write (·.putJsonData tenantId hash normalized)
  pure hash

/-- `_upsert_task_definition_from_payload`. -/
def upsertTaskDefinitionFromPayload (tenantId : TenantId) (definitionId : Nat) (taskIdentifier : String)
    (payload : Dict) (occurredAt : Time) : M Ω TaskDefinition := do
  let isRow (t : TaskDefinition) : Bool :=
    t.m8fTenantId == tenantId && t.bpmnProcessDefinitionId == definitionId && t.bpmnIdentifier == taskIdentifier
  let existing ← query fun db => db.taskDefinitions.find? isRow
  let properties := payload.setDefault "__m8f_task_identifier" (.str taskIdentifier)
  let name := (properties.get "bpmn_name").bind PyVal.asStr
  match (properties.get "typename").bind PyVal.asStr with
  | none | some "" =>
    Prog.raise (.validation ("Task definition " ++ pyRepr taskIdentifier ++ " is missing its typename"))
  | some typename =>
    match existing with
    | none =>
      let row (id : Nat) : TaskDefinition :=
        { id := id, m8fTenantId := tenantId, bpmnProcessDefinitionId := definitionId,
          bpmnIdentifier := taskIdentifier, bpmnName := name, typename := typename, propertiesJson := properties,
          updatedAt := some occurredAt, createdAt := some occurredAt }
      let id ← insert fun id db => { db with taskDefinitions := db.taskDefinitions ++ [row id] }
      pure (row id)
    | some row =>
      let change (t : TaskDefinition) : TaskDefinition :=
        { t with bpmnName := name, typename := typename, propertiesJson := properties, updatedAt := some occurredAt }
      write fun db => { db with taskDefinitions := updateWhere isRow change db.taskDefinitions }
      pure (change row)

/-- The identifier of a task definition, qualified by its subprocess. -/
def qualifiedTaskIdentifier (subprocess : Option String) (taskIdentifier : String) : String :=
  match subprocess with
  | none => taskIdentifier
  | some name => name ++ "::" ++ taskIdentifier

/-- `_sync_serialized_task_specs`. -/
def syncSerializedTaskSpecs (tenantId : TenantId) (definitionId : Nat) (subprocess : Option String)
    (taskSpecs : List (String × Dict)) (occurredAt : Time) : M Ω Unit :=
  Prog.forEach taskSpecs fun spec => do
    let _ ← upsertTaskDefinitionFromPayload tenantId definitionId (qualifiedTaskIdentifier subprocess spec.1)
      (spec.2.set "__m8f_task_identifier" (.str spec.1)) occurredAt

/-- `_sync_process_definition_from_workflow`. -/
def syncProcessDefinitionFromWorkflow (pi : ProcessInstance) (serialized : SerializedWorkflow) (occurredAt : Time) :
    M Ω Unit := do
  match ← query fun db => pi.bpmnProcessDefinitionId.bind db.definition? with
  | none => pure ()
  | some definition =>
    write fun db =>
      { db with
        definitions := updateWhere (·.id == definition.id)
          (·.syncFromSpec serialized.spec pi.processModelIdentifier occurredAt) db.definitions }
    syncSerializedTaskSpecs pi.m8fTenantId definition.id none serialized.spec.taskSpecs occurredAt
    Prog.forEach serialized.subprocessSpecs fun sub =>
      syncSerializedTaskSpecs pi.m8fTenantId definition.id (some sub.1) sub.2.taskSpecs occurredAt

/-! ## The runtime process and its snapshot -/

/-- `_sync_bpmn_process_from_workflow`. -/
def syncBpmnProcessFromWorkflow (pi : ProcessInstance) (serialized : SerializedWorkflow) (serializedState : String) :
    M Ω Unit := do
  match ← query fun db => pi.bpmnProcessId.bind db.bpmnProcess? with
  | none => pure ()
  | some process =>
    let hash ← createOrUpdateFromPayload env pi.m8fTenantId
      (serialized.data.set workflowStateJsonDataKey (.str serializedState))
    write (·.updateBpmnProcess process.id ({ · with propertiesJson := serialized.properties, jsonDataHash := hash }))

/-! ## Task rows -/

/-- The rows of `_iter_serialized_task_rows` with their qualified identifiers. -/
def serializedTaskRows : List (Guid × Option String × Dict) → Except Error (List (String × Dict))
  | [] => .ok []
  | (guid, subprocess, payload) :: rest =>
    match (payload.get "task_spec").bind PyVal.asStr with
    | none => .error (.validation ("Serialized task " ++ pyRepr guid ++ " is missing its task spec identifier"))
    | some spec => (serializedTaskRows rest).map fun rows => (qualifiedTaskIdentifier subprocess spec, payload) :: rows

/-- The guid and the state of a serialized task. -/
def payloadGuid (payload : Dict) : Option Guid := ((payload.get "id").bind PyVal.asStr).filter (· != "")

def payloadState (payload : Dict) : Option TaskState :=
  ((payload.get "state").bind PyVal.asInt).bind TaskState.ofValue

/-- A task state in which the task has ended. -/
def TaskState.isTerminal (s : TaskState) : Bool := s == .completed || s == .cancelled || s == .error

/-- `_upsert_task_model_from_payload`. -/
def upsertTaskModelFromPayload (pi : ProcessInstance) (definition : TaskDefinition) (payload : Dict)
    (occurredAt : Time) : M Ω Guid := do
  let guid ← Prog.orRaise (.validation "Serialized task is missing its guid") (payloadGuid payload)
  let jsonDataHash ← createOrUpdateFromPayload env pi.m8fTenantId ((payload.get "data").getD .none).asDict
  let pythonEnvDataHash ← createOrUpdateFromPayload env pi.m8fTenantId []
  let state ← Prog.orRaise (.validation ("Serialized task " ++ pyRepr guid ++ " is missing its state"))
    (payloadState payload)
  let runtimeInfo : Dict :=
    [("spiff_task_id", .str guid), ("spiff_task_state", .str state.name),
      ("manual", (definition.propertiesJson.get "manual").getD (.bool false)),
      ("lane", (definition.propertiesJson.get "lane").getD .none)]
  let properties := payload.pop "data"
  let endedAt := if state.isTerminal then some occurredAt else none
  match ← query (·.task? guid) with
  | none =>
    let processId ← Prog.orRaise (.validation "Process instance is missing a BPMN process") pi.bpmnProcessId
    write fun db =>
      { db with
        tasks := db.tasks ++
          [{ guid := guid, m8fTenantId := pi.m8fTenantId, bpmnProcessId := processId, processInstanceId := pi.id,
             taskDefinitionId := definition.id, state := .spiff state, propertiesJson := properties,
             jsonDataHash := jsonDataHash, pythonEnvDataHash := pythonEnvDataHash, runtimeInfo := some runtimeInfo,
             startedAt := some occurredAt, endedAt := endedAt }] }
  | some _ =>
    write (·.updateTask guid fun t =>
      { t with
        bpmnProcessId := pi.bpmnProcessId.getD t.bpmnProcessId, processInstanceId := pi.id,
        taskDefinitionId := definition.id, state := .spiff state, propertiesJson := properties,
        jsonDataHash := jsonDataHash, pythonEnvDataHash := pythonEnvDataHash, runtimeInfo := some runtimeInfo,
        startedAt := some (t.startedAt.getD occurredAt), endedAt := endedAt })
  pure guid

/-- `_sync_task_models_from_workflow`. -/
def syncTaskModelsFromWorkflow (pi : ProcessInstance) (serialized : SerializedWorkflow) (occurredAt : Time) :
    M Ω Unit := do
  let definitionId ← Prog.orRaise (.validation "Process instance is missing a BPMN process definition")
    pi.bpmnProcessDefinitionId
  let definitions ← query fun db => db.taskDefinitions.filter fun t =>
    t.m8fTenantId == pi.m8fTenantId && t.bpmnProcessDefinitionId == definitionId
  let rows ← ofExcept (serializedTaskRows (iterSerializedTaskRows serialized))
  if rows.isEmpty then Prog.raise (.validation "Serialized workflow is missing task rows")
  else Prog.forEach rows fun row => do
    let definition ← Prog.orRaise
      (.validation ("Task definition " ++ pyRepr row.1 ++ s!" was not found for process definition {definitionId}"))
      (definitions.find? (·.bpmnIdentifier == row.1))
    let _ ← upsertTaskModelFromPayload env pi definition row.2 occurredAt

/-! ## The next timer -/

/-- `_waiting_timer_event_value`. -/
def waitingTimerEventValue (t : SpiffTask) : Except Error PyVal :=
  match t.internalData.get "event_value" with
  | some (.str text) => .ok (.str text)
  | some (.dict entries) => .ok (.dict entries)
  | _ => .error (.validation "Waiting timer task is missing its event_value")

/-- The moment a timer event value names. -/
def timerEventDueAt (eventValue : PyVal) : Except Error Time :=
  let parse (text : String) : Except Error Time :=
    match env.fromisoformat text with
    | some due => .ok due
    | none => .error (.other "ValueError" ("Invalid isoformat string: " ++ pyRepr text))
  match eventValue with
  | .str text => parse text
  | value => match ((value.asDict.find? (·.1 == "next")).map (·.2)).bind PyVal.asStr with
    | none | some "" =>
      .error (.validation "Recurring timer event payload is missing its next due timestamp")
    | some text => parse text

/-- `_timer_event_run_at_in_seconds`. -/
def timerEventRunAtInSeconds (eventValue : PyVal) : Except Error Int :=
  (timerEventDueAt env eventValue).map env.ceilTimestamp

/-- A waiting timer as the scheduler sees it. -/
structure TimerPayload where
  taskGuid : Guid
  taskSpecName : String
  taskSpecType : String
  eventDefinitionType : String
  eventValue : PyVal
  runAtInSeconds : Int

def TimerPayload.toDict (p : TimerPayload) : Dict :=
  [("task_guid", .str p.taskGuid), ("task_spec_name", .str p.taskSpecName), ("task_spec_type", .str p.taskSpecType),
    ("event_definition_type", .str p.eventDefinitionType), ("event_value", p.eventValue),
    ("run_at_in_seconds", .int p.runAtInSeconds)]

def TimerPayload.before (a b : TimerPayload) : Prop :=
  a.runAtInSeconds < b.runAtInSeconds ∨ (a.runAtInSeconds = b.runAtInSeconds ∧ a.taskGuid ≤ b.taskGuid)

instance : DecidableRel TimerPayload.before := fun _ _ => inferInstanceAs (Decidable (_ ∨ _))

/-- Only a start event of the top-level process starts new instances. -/
def SpiffTask.isTimerStart (t : SpiffTask) : Bool := t.specType == "StartEvent" && t.topLevel

/-- The payload of one waiting timer task. -/
def timerPayload (t : SpiffTask) (eventDefinitionType : String) : Except Error TimerPayload := do
  let eventValue ← waitingTimerEventValue t
  let runAt ← timerEventRunAtInSeconds env eventValue
  pure { taskGuid := t.id, taskSpecName := t.specName, taskSpecType := t.specType,
         eventDefinitionType := eventDefinitionType, eventValue := eventValue, runAtInSeconds := runAt }

/-- The waiting timer tasks, the top-level start events apart or alone. -/
def waitingTimers (w : W) (startEvents : Bool) : List SpiffTask :=
  (env.waitingTasks w).filter fun t => t.timer.isSome && t.isTimerStart == startEvents

/-- `_collect_waiting_timer_payloads`. -/
def collectWaitingTimerPayloads (w : W) (startEvents : Bool) : Except Error (List TimerPayload) := do
  let payloads ← (waitingTimers env w startEvents).mapM fun t => timerPayload env t (t.timer.getD "")
  pure (payloads.insertionSort TimerPayload.before)

/-- The least of some numbers. -/
def minimum : List Int → Option Int
  | [] => none
  | x :: xs => some (xs.foldl min x)

/-- `_sync_intermediate_timer_scheduler_job`. -/
def syncIntermediateTimerSchedulerJob (pi : ProcessInstance) (w : W) (occurredAt : Time) : M Ω Unit := do
  let payloads ← ofExcept (collectWaitingTimerPayloads env w false)
  match minimum (payloads.map (·.runAtInSeconds)) with
  | none => deleteSchedulerJob pi.m8fTenantId (instanceJobKey .intermediateTimer pi.id)
  | some nextRunAt =>
    upsertSchedulerJob pi.m8fTenantId (instanceJobKey .intermediateTimer pi.id)
      { jobType := .intermediateTimer, runAt := nextRunAt * 1000000, processInstanceId := some pi.id,
        bpmnProcessDefinitionId := pi.bpmnProcessDefinitionId,
        payloadJson := [("scheduled_from", .str "workflow_runtime"),
          ("timer_tasks", .list (payloads.map fun p => p.toDict.toVal))] }
      occurredAt (some occurredAt)

/-! ## The whole save -/

/-- `_persist_workflow_state`. -/
def persistWorkflowState (pi : ProcessInstance) (w : W) (occurredAt : Time) : M Ω Unit := do
  let serializedState ← ofExcept (env.serializeJson w)
  updateInstance pi.id ({ · with workflowEngineVersion := some workflowStateSerializerVersion })
  let serialized := env.toDict w
  syncProcessDefinitionFromWorkflow pi serialized occurredAt
  syncBpmnProcessFromWorkflow env pi serialized serializedState
  syncTaskModelsFromWorkflow env pi serialized occurredAt
  syncIntermediateTimerSchedulerJob env pi w occurredAt

/-- `_persist_workflow_recovery_state`: the snapshot alone. -/
def persistWorkflowRecoveryState (pi : ProcessInstance) (w : W) : M Ω Unit := do
  let serializedState ← ofExcept (env.serializeJson w)
  updateInstance pi.id ({ · with workflowEngineVersion := some workflowStateSerializerVersion })
  syncBpmnProcessFromWorkflow env pi (env.toDict w) serializedState

end
end M8flowCore
