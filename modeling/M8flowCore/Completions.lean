import M8flowCore.Metadata
import M8flowCore.Rollbacks
/-!
# What a completion tells the workflow

`complete_task` stores its payload and then gives the workflow every variable
the instance has in its metadata, not its payload alone. Which data a task is
completed with is read off a world that writes down each call of
`task.complete()`.
-/
open M8flowCore.Lib M8flowCore.Session

namespace M8flowCore

section
variable {W Ω : Type} (env : Env W Ω)

/-- The same engine and host, with each call of `task.complete()` written down:
the workflow it was made on and the task. -/
def Env.recording : Env W (Ω × List (W × Guid)) where
  processIds := env.processIds
  buildWorkflow r ω := ((env.buildWorkflow r ω.1).1, ((env.buildWorkflow r ω.1).2, ω.2))
  containsTimerStartEvent := env.containsTimerStartEvent
  bpmnLaneNames := env.bpmnLaneNames
  validateBpmnSource := env.validateBpmnSource
  tasks := env.tasks
  completed := env.completed
  data := env.data
  updateData := env.updateData
  updateTaskTreeData := env.updateTaskTreeData
  setTaskData := env.setTaskData
  setEventValue := env.setEventValue
  complete c w g ω := ((env.complete c w g ω.1).1, ((env.complete c w g ω.1).2, (w, g) :: ω.2))
  runAll c w ω := ((env.runAll c w ω.1).1, ((env.runAll c w ω.1).2, ω.2))
  refreshWaitingTasks c w ω := ((env.refreshWaitingTasks c w ω.1).1, ((env.refreshWaitingTasks c w ω.1).2, ω.2))
  resetFromTaskId := env.resetFromTaskId
  toDict := env.toDict
  serializeJson := env.serializeJson
  deserializeJson := env.deserializeJson
  authorize := env.authorize
  normalizedPayload := env.normalizedPayload
  payloadDigest := env.payloadDigest
  sha256 := env.sha256
  lower := env.lower
  sqlLower := env.sqlLower
  literalEval := env.literalEval
  str := env.str
  repr := env.repr
  fromisoformat := env.fromisoformat
  isoformat := env.isoformat
  ceilTimestamp := env.ceilTimestamp
  now ω := env.now ω.1

/-- `workflow.get_task_from_id(guid).data`. -/
def Env.taskData (w : W) (guid : Guid) : Dict := (((env.tasks w).find? (·.id == guid)).map (·.data)).getD []

/-- `workflow.data` and the data of a task are dictionaries of their own, and
`task.set_data(..)` updates the latter. -/
structure Env.CarriesData : Prop where
  updateData : ∀ w data guid, env.taskData (env.updateData w data) guid = env.taskData w guid
  setTaskData : ∀ w guid data, (env.tasks w).any (·.id == guid) = true →
    env.taskData (env.setTaskData w guid data) guid = (env.taskData w guid).update data
  ids : ∀ w data, (env.tasks (env.updateData w data)).map (·.id) = (env.tasks w).map (·.id)

/-- The data a task has in the instance's stored snapshot. -/
def snapshotTaskData (db : Db) (tenantId : TenantId) (instanceId : Nat) (guid : Guid) : Dict :=
  let state := (db.processInstances.find? fun p => p.m8fTenantId == tenantId && p.id == instanceId).bind db.workflowStateJson
  match state.map env.deserializeJson with
  | some (.ok w) => env.taskData w guid
  | _ => []

/-- The unique constraint of `process_instance_metadata`: an instance stores a
variable once. -/
def Db.UniqueVariables (db : Db) : Prop := ∀ row ∈ db.metadata, ∀ row' ∈ db.metadata, row'.clash row = true → row' = row

/-- The variables the instance has stored under other keys than `keys` have the
values the task has in the snapshot. -/
def FreshVariables (db : Db) (tenantId : TenantId) (instanceId : Nat) (guid : Guid) (keys : List String) : Prop :=
  ∀ row ∈ db.metadata, row.m8fTenantId = tenantId → row.processInstanceId = instanceId → row.key ∉ keys →
    (snapshotTaskData env db tenantId instanceId guid).get row.key = some (coerceMetadataValue env row.value)

end

section
variable {W Ω : Type} {env : Env W Ω} {tenantId : TenantId}

/-! ## Reading the variables -/

/-- The variables read for a workflow. -/
theorem loadProcessInstanceMetadataPayload_ok {instanceId : Nat} {s s' : Tx Ω} {metadata : Dict}
    (h : (loadProcessInstanceMetadataPayload env tenantId instanceId).run s = (.ok metadata, s')) :
    ∃ rows : List ProcessInstanceMetadata, (∀ row, row ∈ rows ↔ row ∈ s.view.metadata ∧ row.m8fTenantId = tenantId ∧
        row.processInstanceId = instanceId) ∧
      metadata = Dict.update [] (rows.map fun row => (row.key, coerceMetadataValue env row.value)) := by
  unfold loadProcessInstanceMetadataPayload getProcessInstanceMetadata at h
  obtain ⟨rows, s₁, hrows, h₁⟩ := Prog.bind_ok.1 h
  obtain ⟨pi, s₂, hload, hquery⟩ := Prog.bind_ok.1 hrows
  obtain rfl := (loadProcessInstance_readOnly _ _).state hload
  obtain ⟨rfl, rfl⟩ := Prog.gets_ok.1 hquery
  obtain ⟨rfl, -⟩ := Prog.pure_ok.1 h₁
  refine ⟨_, fun row => ?_, (List.foldl_map (f := fun row : ProcessInstanceMetadata =>
    (row.key, coerceMetadataValue env row.value)) (g := fun payload kv => Dict.set payload kv.1 kv.2)).symm⟩
  rw [List.mem_insertionSort, List.mem_filter]
  simp

/-- A variable that is stored once is given to the workflow as it is stored. -/
theorem get_update_metadata {rows : List ProcessInstanceMetadata} {row : ProcessInstanceMetadata} (hrow : row ∈ rows)
    (hone : ∀ row' ∈ rows, row'.key = row.key → row' = row) (data : Dict) :
    (data.update (Dict.update [] (rows.map fun row => (row.key, coerceMetadataValue env row.value)))).get row.key =
      some (coerceMetadataValue env row.value) := by
  have hentry : ∀ kv ∈ rows.map fun row => (row.key, coerceMetadataValue env row.value), kv.1 = row.key →
      kv.2 = coerceMetadataValue env row.value := by
    intro kv hkv hkey
    obtain ⟨row', hrow', rfl⟩ := List.mem_map.1 hkv
    rw [hone row' hrow' hkey]
  have hmem : ∃ kv ∈ rows.map fun row => (row.key, coerceMetadataValue env row.value), kv.1 = row.key :=
    ⟨_, List.mem_map_of_mem hrow, rfl⟩
  refine Dict.get_update_of_mem ?_ fun kv hkv hkey => ?_
  · rw [← Dict.get_isSome, Dict.get_update_of_mem hmem hentry]
    rfl
  · rcases Dict.mem_update hkv with hnil | hkv
    · simp at hnil
    · exact hentry kv hkv hkey

/-- A key that no variable is stored under keeps its value. -/
theorem get_update_metadata_of_not_mem {rows : List ProcessInstanceMetadata} {key : String}
    (hnone : ∀ row ∈ rows, row.key ≠ key) (data : Dict) :
    (data.update (Dict.update [] (rows.map fun row => (row.key, coerceMetadataValue env row.value)))).get key =
      data.get key := by
  refine Dict.get_update_of_not_mem fun kv hkv hkey => ?_
  rcases Dict.mem_update hkv with hnil | hkv
  · simp at hnil
  · obtain ⟨row, hrow, rfl⟩ := List.mem_map.1 hkv
    exact hnone row hrow hkey

/-- A task that is given variables has them over its own data. -/
theorem Env.CarriesData.applyMetadataToTask (hdata : env.CarriesData) {w : W} {guid : Guid}
    (htask : (env.tasks w).any (·.id == guid) = true) (metadata : Dict) :
    env.taskData (M8flowCore.applyMetadataToTask env w guid metadata) guid = (env.taskData w guid).update metadata := by
  unfold M8flowCore.applyMetadataToTask
  split
  · rename_i hempty
    rw [List.isEmpty_iff.1 hempty]
    rfl
  · have hthere : (env.tasks (env.updateData w metadata)).any (·.id == guid) = true := by
      have hids : ∀ w : W, (env.tasks w).any (·.id == guid) = ((env.tasks w).map (·.id)).any (· == guid) := by
        intro w
        rw [List.any_map]
        rfl
      rw [hids, hdata.ids, ← hids]
      exact htask
    rw [hdata.setTaskData _ _ _ hthere, hdata.updateData]

/-- Whatever does not ask the world leaves it alone. -/
theorem world_of_steps {F : Focus} {L : List Touch} (hL : Touch.world ∉ L) {s s' : Tx Ω}
    (h : Steps (Change env F) L s s') : s'.world = s.world := by
  refine Steps.keeps (R := fun s s' : Tx Ω => s'.world = s.world) ⟨fun _ => rfl, fun h₁ h₂ => h₂.trans h₁⟩ ?_ h
  intro l hl s s' hchange
  cases hchange with
  | world => exact absurd hl hL
  | _ => rfl

/-- The variables under a key are the same. -/
def SameVariables (key : String) (s s' : Tx Ω) : Prop :=
  s'.view.metadata.filter (·.key == key) = s.view.metadata.filter (·.key == key)

theorem frame_sameVariables (key : String) : Prog.Frame (SameVariables (Ω := Ω) key) :=
  ⟨fun _ => rfl, fun h₁ h₂ => h₂.trans h₁⟩

theorem SameVariables.mem {key : String} {s s' : Tx Ω} (h : SameVariables key s s') {row : ProcessInstanceMetadata}
    (hkey : row.key = key) : row ∈ s'.view.metadata ↔ row ∈ s.view.metadata := by
  have hfilter : ∀ rows : List ProcessInstanceMetadata, row ∈ rows ↔ row ∈ rows.filter (·.key == key) := by
    intro rows
    simp [List.mem_filter, hkey]
  rw [hfilter, hfilter s.view.metadata, h]

/-- Storing a variable leaves those under other keys alone. -/
theorem upsertProcessInstanceMetadata_other {instanceId : Nat} {key value : String} {updatedAt : Time}
    {createdAt : Option Time} {other : String} (hkey : key ≠ other) :
    (upsertProcessInstanceMetadata (Ω := Ω) tenantId instanceId key value updatedAt createdAt).Keeps
      (SameVariables other) := by
  have hframe := frame_sameVariables (Ω := Ω) other
  refine Prog.keeps_bind hframe ((loadProcessInstance_readOnly _ _).keeps hframe) fun _ => ?_
  refine Prog.keeps_bind hframe (Prog.keeps_gets hframe _) fun found => ?_
  cases found with
  | none =>
    intro s
    show (s.view.metadata ++ [_]).filter _ = _
    simp [List.filter_append, hkey]
  | some row =>
    refine Prog.keeps_modify fun s => filter_updateWhere fun r _ hr => ?_
    simp only [Bool.and_eq_true, beq_iff_eq] at hr
    simp [hr.2, hkey]

theorem persistTaskPayload_other {instanceId : Nat} {payload : Dict} {completedAt : Time} {other : String}
    (hother : other ∉ payload.map (·.1)) :
    (persistTaskPayload env tenantId instanceId payload completedAt).Keeps (SameVariables other) := by
  refine Prog.keeps_forEach (frame_sameVariables other) fun kv hkv => ?_
  exact upsertProcessInstanceMetadata_other fun he => hother (he ▸ List.mem_map_of_mem hkv)

/-! ## The recorded completion -/

/-- Nothing has been written down between two states. -/
def SameLog (s s' : Tx (Ω × List (W × Guid))) : Prop := s'.world.2 = s.world.2

theorem frame_sameLog : Prog.Frame (SameLog (W := W) (Ω := Ω)) := ⟨fun _ => rfl, fun h₁ h₂ => h₂.trans h₁⟩

theorem sameLog_of_touches (env : Env W Ω) {α : Type} {F : Focus} {L : List Touch} {m : M (Ω × List (W × Guid)) α}
    (h : Touches (Change env.recording F) L m) (hL : Touch.world ∉ L) : m.Keeps SameLog := by
  intro s
  have hworld := world_of_steps hL (h s)
  exact congrArg Prod.snd hworld

theorem runWorkflow_sameLog (pi : ProcessInstance) (w : W) (occurredAt : Time) :
    (runWorkflowWithServiceTaskFailureHandling env.recording tenantId pi w occurredAt false).Keeps SameLog := by
  have hraise : ∀ (w : W) (message : String), (do
      transitionToErrorForServiceTaskFailure env.recording tenantId pi w occurredAt false
      Prog.raise (.serviceTaskExecution message) : M (Ω × List (W × Guid)) W).Keeps SameLog := by
    intro w message
    refine Prog.keeps_bind frame_sameLog ?_ fun _ => Prog.keeps_raise frame_sameLog _
    exact sameLog_of_touches env (L := .job :: failing)
      (transitionToError_touches tenantId pi.focus_of (pi.focus_covers w) occurredAt false (by decide) (by simp))
      (by decide)
  refine Prog.keeps_bind frame_sameLog (fun _ => rfl) fun result => ?_
  obtain ⟨raised, w'⟩ := result
  rcases raised with _ | e
  · exact Prog.keeps_pure frame_sameLog w'
  · cases e with
    | serviceTaskExecution message => exact hraise w' message
    | _ => exact Prog.keeps_raise frame_sameLog _

/-- The completion an advance makes: on the restored workflow, after the task has
been given the instance's variables. -/
theorem advanceProcessInstanceWorkflow_recorded {instanceId : Nat} {guid : Guid} {completedAt : Option Time}
    {s s' : Tx (Ω × List (W × Guid))} {r : Except Error Unit}
    (h : (advanceProcessInstanceWorkflow env.recording tenantId instanceId guid completedAt).run s = (r, s')) :
    s'.world.2 = s.world.2 ∨ ∃ pi state w metadata,
      (s.view.processInstances.find? fun p => p.m8fTenantId == tenantId && p.id == instanceId) = some pi ∧
      s.view.workflowStateJson pi = some state ∧ env.deserializeJson state = .ok w ∧
      (env.tasks w).any (·.id == guid) = true ∧
      (loadProcessInstanceMetadataPayload env.recording tenantId instanceId).run s = (.ok metadata, s) ∧
      s'.world.2 = (applyMetadataToTask env w guid metadata, guid) :: s.world.2 := by
  unfold advanceProcessInstanceWorkflow at h
  rcases (loadProcessInstance_readOnly _ _).bind_cases h with ⟨-, -, -, rfl⟩ | ⟨pi, hload, h₁⟩
  · exact .inl rfl
  have hfound : (s.view.processInstances.find? fun p => p.m8fTenantId == tenantId && p.id == instanceId) = some pi := by
    unfold loadProcessInstance query at hload
    simp only [Prog.gets_bind_run] at hload
    exact (Prog.orRaise_ok.1 hload).1
  simp only [query, Prog.gets_bind_run] at h₁
  cases hstate : s.view.workflowStateJson pi with
  | none =>
    rw [hstate] at h₁
    simp only [Prog.pure_run, Prod.mk.injEq] at h₁
    exact .inl (by rw [← h₁.2])
  | some state =>
    rw [hstate] at h₁
    simp only at h₁
    split at h₁
    · simp only [Prog.pure_run, Prod.mk.injEq] at h₁
      exact .inl (by rw [← h₁.2])
    · simp only [resolveTimestamp, Prog.gets_bind_run, restoreWorkflow] at h₁
      rcases (ofExcept_readOnly _).bind_cases h₁ with ⟨-, -, -, rfl⟩ | ⟨w, hrestore, h₂⟩
      · exact .inl rfl
      obtain ⟨hw, -⟩ := ofExcept_ok hrestore
      split at h₂
      · rename_i htask
        rcases (loadProcessInstanceMetadataPayload_readOnly _ _).bind_cases h₂ with ⟨-, -, -, rfl⟩ | ⟨metadata, hpayload, h₃⟩
        · exact .inl rfl
        refine .inr ⟨pi, state, w, metadata, hfound, hstate, hw, htask, hpayload, ?_⟩
        -- What follows the completion writes nothing down.
        have hrest : ∀ result : Option Error × W, (do
            let w ← orRaised result
            let w ← runWorkflowWithServiceTaskFailureHandling env.recording tenantId pi w
              (completedAt.getD (env.recording.now s.world)) false
            saveWorkflow env.recording pi w (completedAt.getD (env.recording.now s.world)) false).Keeps SameLog := by
          intro result
          refine Prog.keeps_bind frame_sameLog (sameLog_of_touches env (F := pi.focus) (L := [])
            (orRaised_touches _) (by simp)) fun w => ?_
          refine Prog.keeps_bind frame_sameLog (runWorkflow_sameLog pi w _) fun w => ?_
          exact sameLog_of_touches env (saveWorkflow_touches pi.focus_of (pi.focus_covers w) _ _ (List.Subset.refl _)) (by decide)
        rw [Prog.bind_run] at h₃
        exact Prog.Keeps.of_ok (hrest _) h₃
      · simp only [Prog.raise_run, Prod.mk.injEq] at h₂
        exact .inl (by rw [← h₂.2])

theorem recordProcessInstanceEvent_sameLog (env : Env W Ω) (instanceId : Nat) (eventType : EventType) (occurredAt : Time)
    (taskGuid : Option Guid) (userId : Option Nat) :
    (recordProcessInstanceEvent (Ω := Ω × List (W × Guid)) tenantId instanceId eventType occurredAt taskGuid userId).Keeps
      SameLog :=
  sameLog_of_touches env (F := .on tenantId instanceId)
    (recordProcessInstanceEvent_touches tenantId rfl _ _ _ _ (List.Subset.refl _)) (by decide)

theorem persistTaskPayload_sameLog (env : Env W Ω) (tenantId : TenantId) (instanceId : Nat) (payload : Dict) (t : Time) :
    (persistTaskPayload env.recording tenantId instanceId payload t).Keeps SameLog :=
  sameLog_of_touches env (F := .on tenantId instanceId) (persistTaskPayload_touches _ _ _ _ (List.Subset.refl _)) (by decide)

/-- A completion that is written down was made by the advance of the item's
instance, after the payload was stored and the item closed. -/
theorem completeTask_recorded {workItemId userId : Nat} {completedAt : Option Time} {payload : Dict}
    {s s' : Tx (Ω × List (W × Guid))} {r : Except Error Unit}
    (h : (completeTask env.recording tenantId workItemId userId completedAt payload).run s = (r, s')) :
    s'.world.2 = s.world.2 ∨ ∃ item t s₁ s₂ r₂, s.view.tenantWorkItem? tenantId workItemId = some item ∧
      (persistTaskPayload env.recording tenantId item.processInstanceId payload t).run s = (.ok (), s₁) ∧
      (advanceProcessInstanceWorkflow env.recording tenantId item.processInstanceId (item.taskGuid.getD "") (some t)).run
        { s₁ with view := s₁.view.completeRows item userId t } = (r₂, s₂) ∧ s'.world.2 = s₂.world.2 := by
  unfold completeTask at h
  rcases (completeTaskChecks_readOnly _ _ _ _).bind_cases h with ⟨-, -, -, rfl⟩ | ⟨item, hchecks, h₁⟩
  · exact .inl rfl
  obtain ⟨-, hitem, -, -⟩ := completeTaskChecks_ok hchecks
  simp only [resolveTimestamp, Prog.gets_bind_run] at h₁
  generalize completedAt.getD (env.recording.now s.world) = t at h₁
  have hpayloadLog := persistTaskPayload_sameLog env tenantId item.processInstanceId payload t
  rw [Prog.bind_run] at h₁
  rcases hpayload : (persistTaskPayload env.recording tenantId item.processInstanceId payload t).run s with ⟨e | u, s₁⟩
  · rw [hpayload] at h₁
    simp only [Prod.mk.injEq] at h₁
    obtain ⟨-, rfl⟩ := h₁
    exact .inl (Prog.Keeps.of_ok hpayloadLog hpayload)
  rw [hpayload] at h₁
  have hsame : s₁.world.2 = s.world.2 := Prog.Keeps.of_ok hpayloadLog hpayload
  simp only [write, query, Prog.gets_bind_run, Prog.modify_bind_run] at h₁
  split at h₁
  · simp only [Prog.pure_run, Prod.mk.injEq] at h₁
    obtain ⟨-, rfl⟩ := h₁
    exact .inl hsame
  · rw [Prog.bind_run] at h₁
    generalize hs₂ : ({ s₁ with view := s₁.view.completeRows item userId t } : Tx (Ω × List (W × Guid))) = s₂ at h₁
    rcases hadvance : (advanceProcessInstanceWorkflow env.recording tenantId item.processInstanceId
      (item.taskGuid.getD "") (some t)).run s₂ with ⟨e | u, s₃⟩
    · rw [hadvance] at h₁
      simp only [Prod.mk.injEq] at h₁
      obtain ⟨-, rfl⟩ := h₁
      exact .inr ⟨item, t, s₁, _, _, hitem, hpayload, hs₂ ▸ hadvance, rfl⟩
    · rw [hadvance] at h₁
      refine .inr ⟨item, t, s₁, _, _, hitem, hpayload, hs₂ ▸ hadvance, ?_⟩
      refine Prog.Keeps.of_ok (R := SameLog) ?_ h₁
      refine Prog.keeps_bind frame_sameLog (recordProcessInstanceEvent_sameLog env _ _ _ _ _) fun _ => ?_
      refine Prog.keeps_bind frame_sameLog (Prog.keeps_gets frame_sameLog _) fun status => ?_
      split
      · exact recordProcessInstanceEvent_sameLog env _ _ _ _ _
      · exact Prog.keeps_pure frame_sameLog _

/-- The snapshot does not depend on what closing an item changes in its instance. -/
theorem snapshotTaskData_eq {instanceId : Nat} {guid : Guid} {db db' : Db} {p : ProcessInstance → Bool}
    {f : ProcessInstance → ProcessInstance} (hinstances : db'.processInstances = updateWhere p f db.processInstances)
    (hf : ∀ q, (f q).m8fTenantId = q.m8fTenantId ∧ (f q).id = q.id ∧ (f q).bpmnProcessId = q.bpmnProcessId)
    (hprocesses : db'.bpmnProcesses = db.bpmnProcesses) (hjson : db'.jsonData = db.jsonData) :
    snapshotTaskData env db' tenantId instanceId guid = snapshotTaskData env db tenantId instanceId guid := by
  have hstate : (db'.processInstances.find? fun q => q.m8fTenantId == tenantId && q.id == instanceId).bind
        db'.workflowStateJson =
      (db.processInstances.find? fun q => q.m8fTenantId == tenantId && q.id == instanceId).bind db.workflowStateJson := by
    rw [hinstances, find?_updateWhere fun q _ _ => by rw [(hf q).1, (hf q).2.1]]
    cases db.processInstances.find? fun q => q.m8fTenantId == tenantId && q.id == instanceId with
    | none => rfl
    | some q =>
      have hid : (if p q = true then f q else q).bpmnProcessId = q.bpmnProcessId := by
        split
        · exact (hf q).2.2
        · rfl
      simp only [Option.map_some, Option.bind_some, Db.workflowStateJson, Db.bpmnProcess?, Db.snapshotOf, Db.jsonData?,
        hid, hprocesses, hjson]
  unfold snapshotTaskData
  rw [hstate]

/-- Closing an item's rows and storing variables leave the snapshot alone. -/
theorem snapshotTaskData_completeRows {instanceId : Nat} {guid : Guid} {db db₁ : Db} (h : Peripheral db db₁)
    (item : WorkItem) (userId : Nat) (t : Time) :
    snapshotTaskData env (db₁.completeRows item userId t) tenantId instanceId guid =
      snapshotTaskData env db tenantId instanceId guid :=
  snapshotTaskData_eq (p := (·.id == item.processInstanceId)) (f := ({ · with taskUpdatedAt := some t }))
    (congrArg _ h.processInstances) (fun _ => ⟨rfl, rfl, rfl⟩) h.bpmnProcesses h.jsonData

theorem peripheral_of_steps {F : Focus} {s s' : Tx Ω} (h : Steps (Change env F) [.seq, .shared] s s') :
    Peripheral s.view s'.view := by
  refine Steps.keeps (R := fun s s' : Tx Ω => Peripheral s.view s'.view) ⟨fun _ => ⟨rfl, rfl, rfl, rfl, rfl, rfl, rfl⟩, ?_⟩ ?_ h
  · intro s₁ s₂ s₃ h₁ h₂
    exact ⟨h₂.1.trans h₁.1, h₂.2.trans h₁.2, h₂.3.trans h₁.3, h₂.4.trans h₁.4, h₂.5.trans h₁.5, h₂.6.trans h₁.6,
      h₂.7.trans h₁.7⟩
  · intro l hl s s' hchange
    cases hchange with
    | nextId => exact ⟨rfl, rfl, rfl, rfl, rfl, rfl, rfl⟩
    | shared hperipheral => exact hperipheral
    | _ => simp at hl

/-- The task is completed with the data it has in the snapshot, changed on the
payload's keys only, exactly when no other stored variable is out of date. -/
theorem completion_changes_own_keys_iff (hdata : env.CarriesData) {workItemId userId : Nat} {completedAt : Option Time}
    {payload : Dict} {item : WorkItem} {s s' : Tx (Ω × List (W × Guid))} {r : Except Error Unit}
    (hunique : s.view.UniqueVariables)
    (hitem : s.view.tenantWorkItem? tenantId workItemId = some item) (hlog : s.world.2 = [])
    (h : (completeTask env.recording tenantId workItemId userId completedAt payload).run s = (r, s'))
    {w : W} {guid : Guid} (hw : (w, guid) ∈ s'.world.2) :
    (∀ key, key ∉ payload.map (·.1) → (env.taskData w guid).get key =
        (snapshotTaskData env s.view tenantId item.processInstanceId guid).get key) ↔
      FreshVariables env s.view tenantId item.processInstanceId guid (payload.map (·.1)) := by
  rcases completeTask_recorded h with hsame | ⟨item', t, s₁, s₂, r₂, hitem', hpayload, hadvance, hlast⟩
  · rw [hsame, hlog] at hw
    simp at hw
  obtain rfl : item = item' := Option.some.inj (hitem.symm.trans hitem')
  have hperipheral : Peripheral s.view s₁.view := peripheral_of_steps
    ((persistTaskPayload_touches (F := .on tenantId item.processInstanceId) _ _ _ _ (List.Subset.refl _)).steps hpayload)
  have hlog₁ : s₁.world.2 = [] := by
    have hsame : SameLog s s₁ := Prog.Keeps.of_ok (persistTaskPayload_sameLog env _ _ _ _) hpayload
    exact hsame.trans hlog
  rcases advanceProcessInstanceWorkflow_recorded hadvance with hsame | ⟨pi, state, w₀, metadata, hpi, hstate, hw₀, htask, hload, hadded⟩
  · rw [hlast, hsame] at hw
    exact absurd (hlog₁ ▸ hw) (by simp)
  rw [hlast, hadded] at hw
  obtain ⟨rfl, rfl⟩ : w = applyMetadataToTask env w₀ (item.taskGuid.getD "") metadata ∧ guid = item.taskGuid.getD "" := by
    rcases List.mem_cons.1 hw with he | hw
    · exact Prod.mk.inj he
    · exact absurd (hlog₁ ▸ hw) (by simp)
  have hsnapshot : snapshotTaskData env s.view tenantId item.processInstanceId (item.taskGuid.getD "") =
      env.taskData w₀ (item.taskGuid.getD "") := by
    rw [← snapshotTaskData_completeRows hperipheral item userId t]
    unfold snapshotTaskData
    simp only [hpi, Option.bind_some, hstate, Option.map_some, hw₀]
  obtain ⟨rows, hrows, hmetadata⟩ := loadProcessInstanceMetadataPayload_ok hload
  replace hmetadata : metadata = Dict.update [] (rows.map fun row => (row.key, coerceMetadataValue env row.value)) :=
    hmetadata
  subst hmetadata
  -- The rows read under a key outside the payload are the ones stored before.
  have hstored : ∀ row, row.key ∉ payload.map (·.1) → (row ∈ rows ↔ row ∈ s.view.metadata ∧
      row.m8fTenantId = tenantId ∧ row.processInstanceId = item.processInstanceId) := by
    intro row hkey
    have hsame : SameVariables row.key s s₁ := Prog.Keeps.of_ok (persistTaskPayload_other hkey) hpayload
    rw [hrows row]
    show row ∈ s₁.view.metadata ∧ _ ↔ _
    rw [hsame.mem rfl]
  have hone : ∀ row ∈ rows, row.key ∉ payload.map (·.1) → ∀ row' ∈ rows, row'.key = row.key → row' = row := by
    intro row hrow hkey row' hrow' he
    obtain ⟨hmem, -, hinstance⟩ := (hstored row hkey).1 hrow
    obtain ⟨hmem', -, hinstance'⟩ := (hstored row' (he ▸ hkey)).1 hrow'
    exact hunique row hmem row' hmem' (by simp [ProcessInstanceMetadata.clash, he, hinstance, hinstance'])
  have hdata₀ : env.taskData (applyMetadataToTask env w₀ (item.taskGuid.getD "")
      (Dict.update [] (rows.map fun row => (row.key, coerceMetadataValue env row.value)))) (item.taskGuid.getD "") =
      (env.taskData w₀ (item.taskGuid.getD "")).update
        (Dict.update [] (rows.map fun row => (row.key, coerceMetadataValue env row.value))) :=
    hdata.applyMetadataToTask htask _
  unfold FreshVariables
  rw [hsnapshot, hdata₀]
  constructor
  · intro hsame row hrow htenant hinstance hkey
    have hin : row ∈ rows := (hstored row hkey).2 ⟨hrow, htenant, hinstance⟩
    rw [← hsame row.key hkey, get_update_metadata hin (hone row hin hkey)]
  · intro hfresh key hkey
    by_cases hstoredKey : ∃ row ∈ rows, row.key = key
    · obtain ⟨row, hin, rfl⟩ := hstoredKey
      obtain ⟨hrow, htenant, hinstance⟩ := (hstored row hkey).1 hin
      rw [get_update_metadata hin (hone row hin hkey), hfresh row hrow htenant hinstance hkey]
    · exact get_update_metadata_of_not_mem (fun row hrow he => hstoredKey ⟨row, hrow, he⟩) _

end

/-! ## An approval after a script -/

namespace Sample

/-- An approval that a script has reached with the total it computed. -/
structure Approval where
  data : Dict
  state : TaskState

def approvalTask (w : Approval) : SpiffTask :=
  { id := "approve", state := w.state, manual := true, specName := "approve", specType := "ManualTask", lane := .none,
    timer := none, topLevel := true, subprocess := none, internalData := [], data := w.data,
    payload := payload "approve" w.state "approve", specPayload := [("typename", .str "ManualTask")] }

/-- The script's snapshot: the approval is open and the total is 2. -/
def approvalText : String := "approve, total 2"

def approvalEnv : Env Approval Bool where
  processIds := env.processIds
  buildWorkflow _ up := (.ok ⟨[], .ready⟩, up)
  containsTimerStartEvent := env.containsTimerStartEvent
  bpmnLaneNames := env.bpmnLaneNames
  validateBpmnSource := env.validateBpmnSource
  tasks w := [approvalTask w]
  completed w := w.state == .completed
  data _ := []
  updateData w _ := w
  updateTaskTreeData w _ := w
  setTaskData w g d := if g = "approve" then { w with data := w.data.update d } else w
  setEventValue w _ _ := w
  complete _ w _ up := ((none, { w with state := .completed }), up)
  runAll _ w up := ((none, w), up)
  refreshWaitingTasks _ w up := ((none, w), up)
  resetFromTaskId w _ _ := (none, w)
  toDict w :=
    { spec := ⟨"approval", [("approve", [("typename", .str "ManualTask")])], []⟩, subprocessSpecs := [],
      tasks := [("approve", (approvalTask w).payload)], subprocesses := [], data := [], properties := [] }
  serializeJson _ := .ok approvalText
  deserializeJson text :=
    if text = approvalText then .ok ⟨[("total", .int 2)], .ready⟩ else .error (.other "JSONDecodeError" "")
  authorize := env.authorize
  normalizedPayload := env.normalizedPayload
  payloadDigest := env.payloadDigest
  sha256 := env.sha256
  lower := env.lower
  sqlLower := env.sqlLower
  literalEval text := if text = "1" then some (.int 1) else if text = "2" then some (.int 2) else none
  str value := value.asStr.getD ""
  repr := env.repr
  fromisoformat := env.fromisoformat
  isoformat := env.isoformat
  ceilTimestamp := env.ceilTimestamp
  now := env.now

theorem approvalEnv_carriesData : approvalEnv.CarriesData where
  updateData _ _ _ := rfl
  setTaskData w guid data h := by
    have hguid : "approve" = guid := by
      obtain ⟨t, ht, hid⟩ := List.any_eq_true.1 h
      rw [List.mem_singleton.1 ht] at hid
      exact beq_iff_eq.1 hid
    subst hguid
    rfl
  ids _ _ := rfl

/-- The total was submitted as 1 with an earlier task. -/
def approvalDb (metadata : List ProcessInstanceMetadata) : Db :=
  { db₀ with
    bpmnProcesses := [⟨3, "t", 2, [], "h", none, none⟩]
    jsonData := [⟨"t", "h", [(workflowStateJsonDataKey, .str approvalText)]⟩]
    processInstances := [⟨4, "t", "approval", "approval", none, 1, some 2, some 3, none, .userInputRequired, none, none,
      none, none, none, none, none, none, none⟩]
    metadata := metadata
    workItems := [⟨5, "t", 4, some "approve", none, none, some 1, .claimed, false, none, none⟩]
    workItemUsers := [⟨"t", 5, 1, none⟩] }

def submittedTotal : ProcessInstanceMetadata := ⟨6, "t", 4, "total", "1", 0, 0⟩

/-- A total and a note submitted with earlier tasks. -/
def submittedBefore : List ProcessInstanceMetadata := [⟨6, "t", 4, "total", "2", 0, 0⟩, ⟨7, "t", 4, "note", "late", 0, 0⟩]

/-- A session in which nothing has been completed yet. -/
def approvalTx (metadata : List ProcessInstanceMetadata) : Tx (Bool × List (Approval × Guid)) :=
  Tx.begin 10 (approvalDb metadata) (true, [])

def approve : M (Bool × List (Approval × Guid)) Unit := completeTask approvalEnv.recording "t" 5 1 none []

theorem approve_records :
    (approve.run (approvalTx [])).2.world.2 = [(⟨[("total", .int 2)], .ready⟩, "approve")] ∧
      (approve.run (approvalTx [submittedTotal])).2.world.2 = [(⟨[("total", .int 1)], .ready⟩, "approve")] :=
  ⟨rfl, rfl⟩

end Sample

open Sample in
/-- The total was submitted before as the script computed it, and the note is
submitted again: the approval is completed with the script's total. -/
theorem completion_changes_own_keys_iff_approval :
    FreshVariables approvalEnv (approvalDb submittedBefore) "t" 4 "approve" ["note"] ∧
      ∀ key, key ∉ ["note"] →
        (approvalEnv.taskData ⟨[("total", .int 2), ("note", .str "fine")], .ready⟩ "approve").get key =
          (snapshotTaskData approvalEnv (approvalDb submittedBefore) "t" 4 "approve").get key := by
  have hfresh : FreshVariables approvalEnv (approvalDb submittedBefore) "t" 4 "approve" ["note"] := by
    intro row hrow htenant hinstance hkey
    obtain rfl | rfl := List.mem_pair.1 (show row ∈ [_, _] from hrow)
    · decide +kernel
    · exact absurd (List.mem_singleton.2 rfl) hkey
  have hunique : (approvalTx submittedBefore).view.UniqueVariables := by
    intro row hrow row' hrow' hclash
    obtain rfl | rfl := List.mem_pair.1 (show row ∈ [_, _] from hrow) <;>
      obtain rfl | rfl := List.mem_pair.1 (show row' ∈ [_, _] from hrow')
    · rfl
    · cases hclash
    · cases hclash
    · rfl
  have hitem : (approvalTx submittedBefore).view.tenantWorkItem? "t" 5 =
    some ⟨5, "t", 4, some "approve", none, none, some 1, .claimed, false, none, none⟩ := rfl
  have hrecords : ((completeTask approvalEnv.recording "t" 5 1 none [("note", .str "fine")]).run
      (approvalTx submittedBefore)).2.world.2 = [(⟨[("total", .int 2), ("note", .str "fine")], .ready⟩, "approve")] := rfl
  rcases hrun : (completeTask approvalEnv.recording "t" 5 1 none [("note", .str "fine")]).run (approvalTx submittedBefore)
    with ⟨r, s'⟩
  rw [hrun] at hrecords
  refine ⟨hfresh, (completion_changes_own_keys_iff approvalEnv_carriesData hunique hitem rfl hrun ?_).2 hfresh⟩
  rw [hrecords]
  exact List.mem_singleton.2 rfl

open Sample in
/-- The total submitted with an earlier task comes back over the one the script
has computed since, though the completion submits nothing. -/
theorem earlier_total_comes_back :
    ∃ w guid, (w, guid) ∈ (approve.run (approvalTx [submittedTotal])).2.world.2 ∧
      (approvalEnv.taskData w guid).get "total" = some (.int 1) ∧
      (snapshotTaskData approvalEnv (approvalDb [submittedTotal]) "t" 4 guid).get "total" = some (.int 2) := by
  refine ⟨⟨[("total", .int 1)], .ready⟩, "approve", ?_, rfl, rfl⟩
  rw [approve_records.2]
  exact List.mem_singleton.2 rfl

end M8flowCore
