import M8flowCore.Refresh
/-!
# Whose tasks a workflow has

Task ids are uuids, so the tasks of two instances are never confused. `owner`
says which instance a guid was made for. A workflow restored from the snapshot
of an instance has that instance's tasks, and whatever the engine does to it
afterwards keeps it that way, so that a save touches nobody else's rows.
-/
open M8flowCore.Lib M8flowCore.Session

namespace M8flowCore

section
variable {W Ω : Type} (env : Env W Ω) (owner : Guid → Nat)

/-- The serializer lists the tasks of a workflow and of its subprocesses, and
each task has an id of its own. -/
structure Env.Serializes : Prop where
  task_ids : ∀ w, ((env.tasks w).map (·.id)).Nodup
  task_payload : ∀ {w t}, t ∈ env.tasks w → payloadGuid t.payload = some t.id ∧ payloadState t.payload = some t.state
  task_row : ∀ {w t}, t ∈ env.tasks w → ∃ r ∈ iterSerializedTaskRows (env.toDict w), payloadGuid r.2.2 = some t.id
  row_task : ∀ {w r}, r ∈ iterSerializedTaskRows (env.toDict w) →
    ∃ t ∈ env.tasks w, payloadGuid r.2.2 = some t.id ∧ payloadState r.2.2 = some t.state

/-- All tasks of the workflow are the instance's. -/
def Env.TasksOf (instanceId : Nat) (w : W) : Prop := ∀ t ∈ env.tasks w, owner t.id = instanceId

/-- The ids the engine gives to new tasks are new. -/
structure Env.Separates : Prop where
  build : ∀ {request ω w ω' i}, env.buildWorkflow request ω = (.ok w, ω') →
    request.context.bind (·.processInstanceId) = some i → env.TasksOf owner i w
  updateData : ∀ {i w} d, env.TasksOf owner i w → env.TasksOf owner i (env.updateData w d)
  updateTaskTreeData : ∀ {i w} d, env.TasksOf owner i w → env.TasksOf owner i (env.updateTaskTreeData w d)
  setTaskData : ∀ {i w} g d, env.TasksOf owner i w → env.TasksOf owner i (env.setTaskData w g d)
  setEventValue : ∀ {i w} g v, env.TasksOf owner i w → env.TasksOf owner i (env.setEventValue w g v)
  complete : ∀ {i w} context g ω, env.TasksOf owner i w → env.TasksOf owner i (env.complete context w g ω).1.2
  runAll : ∀ {i w} context ω, env.TasksOf owner i w → env.TasksOf owner i (env.runAll context w ω).1.2
  refreshWaitingTasks : ∀ {i w} context ω, env.TasksOf owner i w →
    env.TasksOf owner i (env.refreshWaitingTasks context w ω).1.2
  resetFromTaskId : ∀ {i w} g d, env.TasksOf owner i w → env.TasksOf owner i (env.resetFromTaskId w g d).2

/-- What the development assumes of the engine throughout. -/
structure Env.Engine : Prop where
  lawful : env.Lawful
  serializes : env.Serializes
  separates : env.Separates owner

end

section
variable {W Ω : Type} {env : Env W Ω} {owner : Guid → Nat} {i : Nat} {w : W}

theorem applyMetadataToWorkflow_tasksOf (hsep : env.Separates owner) (metadata : Dict) (h : env.TasksOf owner i w) :
    env.TasksOf owner i (applyMetadataToWorkflow env w metadata) := by
  unfold applyMetadataToWorkflow
  split
  · exact h
  · exact hsep.updateTaskTreeData _ (hsep.updateData _ h)

theorem applyMetadataToTask_tasksOf (hsep : env.Separates owner) (guid : Guid) (metadata : Dict)
    (h : env.TasksOf owner i w) : env.TasksOf owner i (applyMetadataToTask env w guid metadata) := by
  unfold applyMetadataToTask
  split
  · exact h
  · exact hsep.setTaskData _ _ (hsep.updateData _ h)

theorem resetFromTaskIds_tasksOf (hsep : env.Separates owner) (data : Dict) (guids : List Guid)
    (h : env.TasksOf owner i w) : env.TasksOf owner i (resetFromTaskIds env w data guids).2 := by
  induction guids generalizing w with
  | nil => exact h
  | cons guid guids ih =>
    have hreset := hsep.resetFromTaskId guid data h
    unfold resetFromTaskIds
    rcases hr : env.resetFromTaskId w guid data with ⟨e | e, w'⟩ <;> rw [hr] at hreset
    · exact ih hreset
    · exact hreset

/-- The focus on an instance and its guids. -/
def ProcessInstance.focusOn (owner : Guid → Nat) (pi : ProcessInstance) : Focus :=
  ⟨pi.m8fTenantId, pi.id, pi.bpmnProcessId, fun g => owner g = pi.id⟩

theorem ProcessInstance.focusOn_of (owner : Guid → Nat) (pi : ProcessInstance) : (pi.focusOn owner).Of pi :=
  ⟨rfl, rfl, rfl⟩

/-- A restored snapshot lists the tasks it was taken of. -/
theorem Env.Lawful.restored (hlaw : env.Lawful) {state : String} {w w' : W} (hstate : env.serializeJson w = .ok state)
    (hw' : env.deserializeJson state = .ok w') :
    (env.tasks w').map (·.core) = (env.tasks w).map (·.core) ∧ env.completed w' = env.completed w := by
  obtain ⟨w'', hw'', hcores, hcompleted⟩ := hlaw.restore hstate
  rw [hw', Except.ok.injEq] at hw''
  subst hw''
  exact ⟨hcores, hcompleted⟩

theorem Env.TasksOf.covers (henv : env.Engine owner) {pi : ProcessInstance} (h : env.TasksOf owner pi.id w) :
    (pi.focusOn owner).Covers env w where
  rows r hr g hg := by
    obtain ⟨t, ht, hguid, -⟩ := henv.serializes.row_task hr
    obtain rfl : t.id = g := Option.some.inj (hguid.symm.trans hg)
    exact h t ht
  tasks t ht g hg := by
    obtain rfl : t.id = g := Option.some.inj ((henv.serializes.task_payload ht).1.symm.trans hg)
    exact h t ht
  stored state data hstate hdata := by
    intro text w' htext hw' t ht
    have hkept := henv.lawful.normalized_str hdata (Dict.get_set_self (env.toDict w).data workflowStateJsonDataKey (.str state))
    rw [htext, Option.some.injEq, PyVal.str.injEq] at hkept
    rw [hkept] at hw'
    have hcore : t.core ∈ (env.tasks w).map (·.core) := by
      rw [← (henv.lawful.restored hstate hw').1]
      exact List.mem_map_of_mem ht
    obtain ⟨t₀, ht₀, hsame⟩ := List.mem_map.1 hcore
    have hid : t₀.id = t.id := congrArg TaskCore.id hsame
    exact hid ▸ h t₀ ht₀

/-- The stored snapshot of an instance of the copy, if any. -/
theorem workflowStateJson_some {db : Db} {pi : ProcessInstance} {text : String}
    (h : db.workflowStateJson pi = some text) :
    ∃ q process row, pi.bpmnProcessId = some q ∧ db.bpmnProcess? q = some process ∧
      db.jsonData? process.m8fTenantId process.jsonDataHash = some row ∧
      row.data.get workflowStateJsonDataKey = some (.str text) := by
  unfold Db.workflowStateJson Db.snapshotOf at h
  obtain ⟨q, hq, h⟩ := Option.bind_eq_some_iff.1 h
  obtain ⟨process, hprocess, h⟩ := Option.bind_eq_some_iff.1 h
  obtain ⟨row, hrow, h⟩ := Option.bind_eq_some_iff.1 h
  obtain ⟨value, hvalue, h⟩ := Option.bind_eq_some_iff.1 h
  refine ⟨q, process, row, hq, hprocess, hrow, ?_⟩
  cases value with
  | str s =>
    simp only [PyVal.asStr, Option.some.injEq] at h
    rw [hvalue, h]
  | _ => simp [PyVal.asStr] at h

/-- An instance's stored snapshot has the instance's tasks. -/
theorem Sound.restored {s : Tx Ω} (h : Sound env owner s) {pi : ProcessInstance} (hpi : pi ∈ s.view.processInstances)
    {text : String} (htext : s.view.workflowStateJson pi = some text) (hw : env.deserializeJson text = .ok w) :
    env.TasksOf owner pi.id w := by
  obtain ⟨q, process, row, hq, hprocess, hrow, hsnapshot⟩ := workflowStateJson_some htext
  have hid : process.id = q := by simpa using List.find?_some hprocess
  have hkey := List.find?_some hrow
  simp only [Bool.and_eq_true, beq_iff_eq] at hkey
  have hhash := h.integral.stored.json_hash s.view (by simp) row (List.mem_of_find?_eq_some hrow)
  have howns := h.integral.stored.owned s.view (by simp) process (List.mem_of_find?_eq_some hprocess) pi.identity
    (mem_instanceIds.2 ⟨s.view, by simp, pi, hpi, rfl⟩) (hq.trans (congrArg some hid.symm))
  exact howns row.data (hkey.2 ▸ hhash) text w hsnapshot hw

end
end M8flowCore
