import M8flowCore.Services.WorkflowRuntime
/-!
# Importing definitions

An import stores the source under the digest of its text, keeps a version
snapshot, schedules the timer start events of the process and enrols the lane
owners its configuration names.
-/
open M8flowCore.Lib M8flowCore.Session

namespace M8flowCore

/-- What an import is given. -/
structure ImportArgs where
  bpmnIdentifier : String
  sourceBpmnXml : String
  sourceDmnXml : Option String
  bpmnName : Option String
  propertiesJson : Option Dict
  bpmnVersionControlType : Option String
  bpmnVersionControlIdentifier : Option String
  processXmlDigest : Option String
  createdAt : Option Time
  updatedAt : Option Time

section
variable {W Ω : Type} (env : Env W Ω)

/-- `_extract_process_identifier`. -/
def extractProcessIdentifier (bpmnXml : String) : Except Error String := do
  match ← env.processIds bpmnXml with
  | [] => .error (.validation "BPMN source does not contain any executable processes")
  | [processId] => .ok processId
  | _ => .error (.validation
      "A BPMN file must contain exactly one executable process when it is imported as a single definition")

/-- `_collect_timer_start_payloads_for_definition`. -/
def collectTimerStartPayloadsForDefinition (definition : BpmnProcessDefinition) : M Ω (List TimerPayload) :=
  match definition.sourceBpmnXml with
  | none => pure []
  | some bpmnXml => do
    let hasTimerStart ← ofExcept (env.containsTimerStartEvent bpmnXml)
    if !hasTimerStart then pure []
    else do
      let built ← ask (env.buildWorkflow
        { bpmnXml := bpmnXml, dmnXml := definition.sourceDmnXml, bpmnProcessId := none, context := none,
          resolver := false, callContext := none })
      let w ← ofExcept built
      let ran ← ask (env.runAll none w)
      let w ← orRaised ran
      ofExcept (collectWaitingTimerPayloads env w true)

/-- The key of the job that starts instances of a definition at one of its
timer start events. -/
def startJobKey (definitionId : Nat) (specName : String) : String :=
  joinWith "|" [SchedulerJobType.timerStart.value, s!"pd:{definitionId}", "q:" ++ specName]

/-- The job of one timer start event: its key. -/
def scheduleTimerStart (definitionId : Nat) (tenantId : TenantId) (occurredAt : Time) (p : TimerPayload) :
    M Ω String := do
  let qualifier := strip p.taskSpecName
  if qualifier == "" then Prog.raise (.validation "Timer start payload is missing its task spec name")
  else do
    let jobKey ← ofExcept (buildSchedulerJobKey .timerStart none (some definitionId) (some qualifier))
    upsertSchedulerJob tenantId jobKey
      { jobType := .timerStart, runAt := p.runAtInSeconds * 1000000, processInstanceId := none,
        bpmnProcessDefinitionId := some definitionId,
        payloadJson := [("scheduled_from", .str "process_definition_import"), ("timer_task", p.toDict.toVal)] }
      occurredAt (some occurredAt)
    pure jobKey

/-- `_sync_timer_start_scheduler_jobs_for_definition`. -/
def syncTimerStartSchedulerJobs (definitionId : Nat) (tenantId : TenantId) (occurredAt : Time) : M Ω Unit := do
  let found ← query (·.definition? definitionId)
  let definition ← Prog.orRaise (.validation "Process definition must be persisted before scheduling") found
  let payloads ← collectTimerStartPayloadsForDefinition env definition
  let expected ← Prog.mapEach payloads (scheduleTimerStart definitionId tenantId occurredAt)
  write fun db =>
    { db with
      schedulerJobs := db.schedulerJobs.filter fun j =>
        !(j.m8fTenantId == tenantId && j.jobType == .timerStart && j.bpmnProcessDefinitionId == some definitionId &&
          !expected.contains j.jobKey) }

/-- The definition row an import writes over the stored one. -/
def ImportArgs.applyTo (args : ImportArgs) (digest processIdentifier : String) (d : BpmnProcessDefinition) :
    BpmnProcessDefinition :=
  { d with
    processXmlDigest := digest
    bpmnIdentifier := processIdentifier
    bpmnName := args.bpmnName.orElse fun _ => d.bpmnName
    propertiesJson := args.propertiesJson.getD d.propertiesJson
    bpmnVersionControlType := args.bpmnVersionControlType.orElse fun _ => d.bpmnVersionControlType
    bpmnVersionControlIdentifier := args.bpmnVersionControlIdentifier.orElse fun _ => d.bpmnVersionControlIdentifier
    createdAt := args.createdAt.orElse fun _ => d.createdAt
    updatedAt := (args.updatedAt.orElse fun _ => args.createdAt).orElse fun _ => d.updatedAt }

/-- The library's own properties of an imported definition. -/
def ImportArgs.stamp (args : ImportArgs) (d : BpmnProcessDefinition) : BpmnProcessDefinition :=
  let d := (d.setProperty BpmnProcessDefinition.processModelIdentifierPropertyKey args.bpmnIdentifier).setProperty
    BpmnProcessDefinition.sourceBpmnXmlPropertyKey args.sourceBpmnXml
  match args.sourceDmnXml with
  | none => d
  | some dmn => d.setProperty BpmnProcessDefinition.sourceDmnXmlPropertyKey dmn

/-- `import_bpmn_process_definition`. -/
def importBpmnProcessDefinition (tenantId : TenantId) (userId : Nat) (args : ImportArgs) : M Ω Nat := do
  let _ ← ensureUserBelongsToTenant tenantId userId
  requireCommandAuthorization env tenantId userId processDefinitionImportCommand .processDefinition
    args.bpmnIdentifier []
  ofExcept (env.validateBpmnSource args.sourceBpmnXml args.sourceDmnXml)
  let digest := args.processXmlDigest.getD (env.sha256 args.sourceBpmnXml)
  let processIdentifier ← ofExcept (extractProcessIdentifier env args.sourceBpmnXml)
  let existing ← query fun db => db.definitions.find? fun d =>
    d.m8fTenantId == tenantId && d.processXmlDigest == digest
  let effective := args.propertiesJson.getD ((existing.map (·.propertiesJson)).getD [])
  let laneNames ← ofExcept (env.bpmnLaneNames args.sourceBpmnXml)
  ofExcept (validateInitiatorLanes env effective laneNames)
  let id ← match existing with
    | some d => do
      write fun db =>
        { db with
          definitions := updateWhere (·.id == d.id)
            (fun d => args.stamp (args.applyTo digest processIdentifier d)) db.definitions }
      pure d.id
    | none =>
      insert fun id db =>
        { db with
          definitions := db.definitions ++ [args.stamp
            { id := id, m8fTenantId := tenantId, processXmlDigest := digest, bpmnIdentifier := processIdentifier,
              bpmnName := args.bpmnName, propertiesJson := args.propertiesJson.getD [],
              bpmnVersionControlType := args.bpmnVersionControlType,
              bpmnVersionControlIdentifier := args.bpmnVersionControlIdentifier,
              updatedAt := args.updatedAt.orElse fun _ => args.createdAt, createdAt := args.createdAt }] }
  let timestamp ← resolveTimestamp env (args.updatedAt.orElse fun _ => args.createdAt)
  let _ ← ensureBpmnVersionSnapshot env tenantId args.bpmnIdentifier args.sourceBpmnXml timestamp
  syncTimerStartSchedulerJobs env id tenantId timestamp
  enrollDefinitionLaneOwners env tenantId effective
  pure id

end
end M8flowCore
