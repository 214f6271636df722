import M8flowCore.Services.WorkflowRuntime
/-!
# Human tasks

Claiming and completing work items. A claim is decided by a conditional
update of the row; a completion checks the row, then advances the workflow.
-/
open M8flowCore.Lib M8flowCore.Session

namespace M8flowCore

/-- The row `_load_work_item` looks for. -/
def Db.tenantWorkItem? (db : Db) (tenantId : TenantId) (workItemId : Nat) : Option WorkItem :=
  db.workItems.find? fun w => w.m8fTenantId == tenantId && w.id == workItemId

section
variable {W Ω : Type} (env : Env W Ω)

/-- `_load_work_item`. -/
def loadWorkItem (tenantId : TenantId) (workItemId : Nat) : M Ω WorkItem := do
  let item ← query (·.tenantWorkItem? tenantId workItemId)
  Prog.orRaise (.notFound s!"Work item {workItemId} was not found for tenant {tenantId}") item

/-- `_user_is_assigned`. -/
def userIsAssigned (db : Db) (tenantId : TenantId) (workItemId userId : Nat) : Bool :=
  db.workItemUsers.any fun r => r.m8fTenantId == tenantId && r.workItemId == workItemId && r.userId == userId

/-- `WorkItemModel.task_name`. -/
def workItemTaskName (db : Db) (item : WorkItem) : Option String := do
  let task ← item.taskGuid.bind db.task?
  let definition ← db.taskDefinitions.find? (·.id == task.taskDefinitionId)
  ((definition.propertiesJson.get "__m8f_task_identifier").bind PyVal.asStr).orElse fun _ =>
    some definition.bpmnIdentifier

/-- `WorkItemModel.lane_name`. -/
def workItemLaneName (db : Db) (item : WorkItem) : Option String := do
  let task ← item.taskGuid.bind db.task?
  match task.propertiesJson.get "lane" with
  | some .none | none => (task.runtimeInfo.bind (·.get "lane")).bind PyVal.asStr
  | some value => value.asStr

def WorkItemState.value : WorkItemState → String
  | .ready => "READY"
  | .claimed => "CLAIMED"
  | .completed => "COMPLETED"
  | .terminated => "TERMINATED"
  | .cancelled => "CANCELLED"
  | .error => "ERROR"

/-- `_task_authorization_metadata`. -/
def taskAuthorizationMetadata (db : Db) (item : WorkItem) : Dict :=
  let text (o : Option String) : PyVal := (o.map PyVal.str).getD .none
  let number (o : Option Nat) : PyVal := (o.map fun n => PyVal.int n).getD .none
  [("work_item_id", .int item.id), ("process_instance_id", .int item.processInstanceId),
    ("task_guid", text item.taskGuid), ("task_name", text (workItemTaskName db item)),
    ("task_status", .str item.taskStatus.value), ("actual_owner_id", number item.actualOwnerId),
    ("lane_name", text (workItemLaneName db item)), ("lane_assignment_id", number item.laneAssignmentId),
    ("completed", .bool item.completed)]

/-- The membership and permission checks of a command on a work item. -/
def openWorkItemCommand (tenantId : TenantId) (workItemId userId : Nat) (commandKey : String) : M Ω WorkItem := do
  let _ ← ensureUserBelongsToTenant tenantId userId
  let item ← loadWorkItem tenantId workItemId
  let metadata ← query (taskAuthorizationMetadata · item)
  requireCommandAuthorization env tenantId userId commandKey .task (orText item.taskGuid (toString item.id)) metadata
  pure item

theorem loadWorkItem_readOnly (tenantId : TenantId) (workItemId : Nat) :
    (loadWorkItem (Ω := Ω) tenantId workItemId).ReadOnly :=
  Prog.keeps_bind Prog.frame_eq (Prog.keeps_gets Prog.frame_eq _) fun _ => Prog.keeps_orRaise Prog.frame_eq _ _

theorem openWorkItemCommand_readOnly (tenantId : TenantId) (workItemId userId : Nat) (commandKey : String) :
    (openWorkItemCommand env tenantId workItemId userId commandKey).ReadOnly := by
  refine Prog.keeps_bind Prog.frame_eq (ensureUserBelongsToTenant_readOnly tenantId userId) fun _ => ?_
  refine Prog.keeps_bind Prog.frame_eq (loadWorkItem_readOnly tenantId workItemId) fun item => ?_
  refine Prog.keeps_bind Prog.frame_eq (Prog.keeps_gets Prog.frame_eq _) fun metadata => ?_
  refine Prog.keeps_bind Prog.frame_eq (requireCommandAuthorization_readOnly env _ _ _ _ _ _) fun _ => ?_
  exact Prog.keeps_pure Prog.frame_eq item

/-- A command on a work item gets past its first checks only for a member of
the tenant, and with the row that is stored. -/
theorem openWorkItemCommand_ok {tenantId : TenantId} {workItemId userId : Nat} {commandKey : String} {s s' : Tx Ω}
    {item : WorkItem} (h : (openWorkItemCommand env tenantId workItemId userId commandKey).run s = (.ok item, s')) :
    s' = s ∧ s.view.isMember tenantId userId = true ∧ s.view.tenantWorkItem? tenantId workItemId = some item := by
  have hs := (openWorkItemCommand_readOnly env tenantId workItemId userId commandKey).state h
  unfold openWorkItemCommand at h
  obtain ⟨user, s₁, huser, h⟩ := Prog.bind_ok.1 h
  obtain ⟨-, hmember, rfl⟩ := ensureUserBelongsToTenant_ok.1 huser
  obtain ⟨loaded, s₂, hloaded, h⟩ := Prog.bind_ok.1 h
  obtain ⟨row, s₃, hrow, hor⟩ := Prog.bind_ok.1 hloaded
  obtain ⟨rfl, rfl⟩ := Prog.gets_ok.1 hrow
  obtain ⟨hfound, rfl⟩ := Prog.orRaise_ok.1 hor
  obtain ⟨metadata, s₄, -, h⟩ := Prog.bind_ok.1 h
  obtain ⟨_, s₅, -, h⟩ := Prog.bind_ok.1 h
  obtain ⟨rfl, rfl⟩ := Prog.pure_ok.1 h
  exact ⟨hs, hmember, hfound⟩

/-- A known user's command on an item of the tenant can be refused here only
for want of membership or permission. -/
theorem openWorkItemCommand_error (hpolicy : env.Decides) {tenantId : TenantId} {workItemId userId : Nat}
    {commandKey : String} {s s' : Tx Ω} {e : Error} (hkey : (authorizationSpecForCommandKey commandKey).isSome)
    (huser : (s.view.user? userId).isSome) (hitem : (s.view.tenantWorkItem? tenantId workItemId).isSome)
    (h : (openWorkItemCommand env tenantId workItemId userId commandKey).run s = (.error e, s')) :
    ∃ message, e = .authorization message := by
  unfold openWorkItemCommand at h
  obtain ⟨row, hrow⟩ := Option.isSome_iff_exists.1 hitem
  have hload : (loadWorkItem tenantId workItemId).run s = (.ok row, s) := by
    unfold loadWorkItem query
    simp [hrow]
  rcases Prog.bind_error.1 h with hmember | ⟨_, s₁, hmember, hrest⟩
  · exact ensureUserBelongsToTenant_error huser hmember
  · obtain rfl := (ensureUserBelongsToTenant_readOnly tenantId userId).state hmember
    rw [Prog.bind_run_ok hload] at hrest
    simp only [query, Prog.gets_bind_run] at hrest
    rcases Prog.bind_error.1 hrest with hpermission | ⟨_, s₂, -, hend⟩
    · exact requireCommandAuthorization_error env hpolicy hkey huser hpermission
    · simp at hend

/-! ## Claiming -/

/-- The checks `claim_task` makes on the rows it has read. -/
def claimTaskChecks (tenantId : TenantId) (workItemId userId : Nat) : M Ω WorkItem := do
  let item ← openWorkItemCommand env tenantId workItemId userId taskClaimCommand
  if item.completed then Prog.raise (.invalidState "Cannot claim a completed task")
  else do
    let assigned ← query (userIsAssigned · tenantId item.id userId)
    if !assigned then Prog.raise (.authorization "User is not assigned to this task")
    else if item.actualOwnerId.isSome ∧ item.actualOwnerId ≠ some userId then
      Prog.raise (.authorization "Task is already claimed by another user")
    else pure item

theorem claimTaskChecks_readOnly (tenantId : TenantId) (workItemId userId : Nat) :
    (claimTaskChecks env tenantId workItemId userId).ReadOnly := by
  refine Prog.keeps_bind Prog.frame_eq (openWorkItemCommand_readOnly env _ _ _ _) fun item => ?_
  split
  · exact Prog.keeps_raise Prog.frame_eq _
  · refine Prog.keeps_bind Prog.frame_eq (Prog.keeps_gets Prog.frame_eq _) fun assigned => ?_
    split
    · exact Prog.keeps_raise Prog.frame_eq _
    · split
      · exact Prog.keeps_raise Prog.frame_eq _
      · exact Prog.keeps_pure Prog.frame_eq item

/-- What the checks of a claim establish about the rows they were made on. -/
theorem claimTaskChecks_ok {tenantId : TenantId} {workItemId userId : Nat} {s s' : Tx Ω} {item : WorkItem}
    (h : (claimTaskChecks env tenantId workItemId userId).run s = (.ok item, s')) :
    s.view.tenantWorkItem? tenantId workItemId = some item ∧ s.view.isMember tenantId userId = true ∧
      userIsAssigned s.view tenantId item.id userId = true := by
  unfold claimTaskChecks at h
  obtain ⟨loaded, s₁, hopen, hrest⟩ := Prog.bind_ok.1 h
  obtain ⟨rfl, hmember, hitem⟩ := openWorkItemCommand_ok env hopen
  split at hrest
  · simp at hrest
  · simp only [query, Prog.gets_bind_run] at hrest
    split at hrest
    · simp at hrest
    · rename_i hassigned
      split at hrest
      · simp at hrest
      · obtain ⟨rfl, -⟩ := Prog.pure_ok.1 hrest
        exact ⟨hitem, hmember, by simpa using hassigned⟩

/-- A known user's claim on an item of the tenant is refused with one of two
kinds of error. -/
theorem claimTaskChecks_error (hpolicy : env.Decides) {tenantId : TenantId} {workItemId userId : Nat} {s s' : Tx Ω}
    {e : Error} (huser : (s.view.user? userId).isSome) (hitem : (s.view.tenantWorkItem? tenantId workItemId).isSome)
    (h : (claimTaskChecks env tenantId workItemId userId).run s = (.error e, s')) :
    ∃ message, e = .authorization message ∨ e = .invalidState message := by
  unfold claimTaskChecks at h
  rcases Prog.bind_error.1 h with hopen | ⟨item, s₁, -, hrest⟩
  · obtain ⟨message, he⟩ := openWorkItemCommand_error env hpolicy (by decide) huser hitem hopen
    exact ⟨message, .inl he⟩
  · split at hrest
    · simp only [Prog.raise_run, Prod.mk.injEq, Except.error.injEq] at hrest
      exact ⟨_, .inr hrest.1.symm⟩
    · simp only [query, Prog.gets_bind_run] at hrest
      split at hrest
      · simp only [Prog.raise_run, Prod.mk.injEq, Except.error.injEq] at hrest
        exact ⟨_, .inl hrest.1.symm⟩
      · split at hrest
        · simp only [Prog.raise_run, Prod.mk.injEq, Except.error.injEq] at hrest
          exact ⟨_, .inl hrest.1.symm⟩
        · simp at hrest

/-- The `WHERE` clause of the claim's conditional update. -/
def claimable (tenantId : TenantId) (workItemId userId : Nat) (item : WorkItem) : Bool :=
  item.id == workItemId && item.m8fTenantId == tenantId && !item.completed &&
    (item.actualOwnerId.isNone || item.actualOwnerId == some userId)

/-- The conditional update: the rows it changed and how many they are. -/
def Db.claimUpdate (db : Db) (tenantId : TenantId) (workItemId userId : Nat) (claimedAt : Time) : Db :=
  { db with workItems := updateWhere (claimable tenantId workItemId userId) (·.claim userId claimedAt) db.workItems }

def Db.claimRowCount (db : Db) (tenantId : TenantId) (workItemId userId : Nat) : Nat :=
  db.workItems.countP (claimable tenantId workItemId userId)

def claimLost : Error := .invalidState "Task claim lost a concurrent update"

/-- What a claim that wins its conditional update has written. -/
def Db.claimWrites (db : Db) (tenantId : TenantId) (userId : Nat) (item : WorkItem) (claimedAt : Time) : Db :=
  (db.claimUpdate tenantId item.id userId claimedAt).updateInstance item.processInstanceId
    ({ · with taskUpdatedAt := some claimedAt })

/-- The conditional update of `claim_task` and what follows it. -/
def claimTaskUpdate (tenantId : TenantId) (userId : Nat) (item : WorkItem) : M Ω Unit := do
  let claimedAt ← resolveTimestamp env none
  let rowCount ← query (·.claimRowCount tenantId item.id userId)
  write (·.claimUpdate tenantId item.id userId claimedAt)
  if rowCount ≠ 1 then Prog.raise claimLost
  else updateInstance item.processInstanceId ({ · with taskUpdatedAt := some claimedAt })

/-- The conditional update decides: one row, and the claim is written. -/
theorem claimTaskUpdate_run (tenantId : TenantId) (userId : Nat) (item : WorkItem) (s : Tx Ω) :
    (claimTaskUpdate env tenantId userId item).run s =
      if s.view.claimRowCount tenantId item.id userId = 1 then
        (.ok (), { s with view := s.view.claimWrites tenantId userId item (env.now s.world) })
      else (.error claimLost, { s with view := s.view.claimUpdate tenantId item.id userId (env.now s.world) }) := by
  unfold claimTaskUpdate resolveTimestamp query write
  simp only [Prog.gets_bind_run, Prog.modify_bind_run, Option.getD_none]
  by_cases hcount : s.view.claimRowCount tenantId item.id userId = 1
  · simp [hcount, updateInstance, write, Db.claimWrites]
  · simp [hcount]

/-- `claim_task`. -/
def claimTask (tenantId : TenantId) (workItemId userId : Nat) : M Ω Unit := do
  let item ← claimTaskChecks env tenantId workItemId userId
  claimTaskUpdate env tenantId userId item

/-! ## Completing -/

/-- `_persist_task_payload`. -/
def persistTaskPayload (tenantId : TenantId) (processInstanceId : Nat) (payload : Dict) (completedAt : Time) :
    M Ω Unit :=
  Prog.forEach payload fun kv =>
    upsertProcessInstanceMetadata tenantId processInstanceId kv.1 (env.str kv.2) completedAt (some completedAt)

/-- The checks `complete_task` makes on the rows it has read. -/
def completeTaskChecks (tenantId : TenantId) (workItemId userId : Nat) : M Ω WorkItem := do
  let item ← openWorkItemCommand env tenantId workItemId userId taskCompleteCommand
  if item.completed then Prog.raise (.invalidState "Task is already completed")
  else do
    let assigned ← query (userIsAssigned · tenantId item.id userId)
    if !assigned then Prog.raise (.authorization "User is not assigned to this task")
    else if item.actualOwnerId = none then
      Prog.raise (.invalidState "Task must be claimed before completion")
    else if item.actualOwnerId ≠ some userId then Prog.raise (.authorization "User does not own this task")
    else pure item

theorem completeTaskChecks_readOnly (tenantId : TenantId) (workItemId userId : Nat) :
    (completeTaskChecks env tenantId workItemId userId).ReadOnly := by
  refine Prog.keeps_bind Prog.frame_eq (openWorkItemCommand_readOnly env _ _ _ _) fun item => ?_
  split
  · exact Prog.keeps_raise Prog.frame_eq _
  refine Prog.keeps_bind Prog.frame_eq (Prog.keeps_gets Prog.frame_eq _) fun assigned => ?_
  split
  · exact Prog.keeps_raise Prog.frame_eq _
  split
  · exact Prog.keeps_raise Prog.frame_eq _
  split
  · exact Prog.keeps_raise Prog.frame_eq _
  · exact Prog.keeps_pure Prog.frame_eq item

/-- The rows `complete_task` closes before it advances the workflow. -/
def Db.completeRows (db : Db) (item : WorkItem) (userId : Nat) (completedAt : Time) : Db :=
  { db.updateWorkItem item (·.complete userId completedAt) with
    tasks := updateWhere (fun t => item.taskGuid == some t.guid)
      ({ · with state := .spiff .completed, endedAt := some completedAt }) db.tasks
    futureTasks := updateWhere (fun f => item.taskGuid == some f.guid) ({ · with completed := true }) db.futureTasks
    processInstances := updateWhere (·.id == item.processInstanceId) ({ · with taskUpdatedAt := some completedAt })
      db.processInstances }

/-- `complete_task`. -/
def completeTask (tenantId : TenantId) (workItemId userId : Nat) (completedAt : Option Time) (payload : Dict) :
    M Ω Unit := do
  let item ← completeTaskChecks env tenantId workItemId userId
  let completedAt ← resolveTimestamp env completedAt
  persistTaskPayload env tenantId item.processInstanceId payload completedAt
  write (·.completeRows item userId completedAt)
  let state ← query fun db => (db.processInstance? item.processInstanceId).bind db.workflowStateJson
  match state with
  | none => pure ()
  | some _ => do
    advanceProcessInstanceWorkflow env tenantId item.processInstanceId (item.taskGuid.getD "") (some completedAt)
    recordProcessInstanceEvent tenantId item.processInstanceId .taskCompleted completedAt item.taskGuid (some userId)
    let status ← query fun db => (db.processInstance? item.processInstanceId).map (·.status)
    if status = some .complete then
      recordProcessInstanceEvent tenantId item.processInstanceId .processInstanceCompleted completedAt item.taskGuid
        (some userId)
    else pure ()

/-! ## Pending tasks -/

/-- The open lane items of the tenant that `assign_pending_tasks_for_user` adds
the user to. -/
def newlyAssignable (db : Db) (tenantId : TenantId) (userId : Nat) : List WorkItem :=
  sortById WorkItem.id (db.workItems.filter fun w => w.m8fTenantId == tenantId && !w.completed &&
    w.laneAssignmentId.any (fun g => db.userGroupAssignments.any fun a => a.groupId == g && a.userId == userId) &&
    !db.workItemUsers.any fun r => r.workItemId == w.id && r.userId == userId)

/-- `assign_pending_tasks_for_user`. -/
def assignPendingTasksForUser (tenantId : TenantId) (userId : Nat) : M Ω (List WorkItem) := do
  let _ ← ensureUserBelongsToTenant tenantId userId
  let items ← query (newlyAssignable · tenantId userId)
  write fun db =>
    { db with
      workItemUsers := db.workItemUsers ++ items.map fun w =>
        { m8fTenantId := tenantId, workItemId := w.id, userId := userId, addedBy := some .laneAssignment } }
  pure items

end
end M8flowCore
