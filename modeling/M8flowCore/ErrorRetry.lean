import Mathlib.Data.List.Forall2
import M8flowCore.Operations
import M8flowCore.Sample
/-!
# Error and retry

An error closes every row of its instance: a task that is not completed becomes
`TERMINATED`, an open work item is closed. A retry reopens the rows by what the
error made of them. The two are compared row by row.
-/
open M8flowCore.Lib M8flowCore.Session

namespace M8flowCore

namespace Db
variable (db : Db) (i : Nat)

/-- The task rows of an instance. -/
def tasksOf : List Task := db.tasks.filter (·.processInstanceId == i)

/-- The work items of an instance. -/
def itemsOf : List WorkItem := db.workItems.filter (·.processInstanceId == i)

end Db

/-! ## Rows -/

/-- What an error makes of a task row. -/
def Task.closed (t : Task) (occurredAt : Time) : Task :=
  { t with state := if t.state = .spiff .completed then t.state else .terminated, endedAt := some occurredAt }

/-- What a retry makes of a task row. -/
def Task.reopened (t : Task) : Task :=
  if t.state = .terminated then { t with state := .spiff .ready, startedAt := none, endedAt := none } else t

/-- What an error makes of a work item. -/
def WorkItem.closed (w : WorkItem) (occurredAt : Time) (userId : Option Nat) : WorkItem :=
  if w.completed then w else w.close .terminated occurredAt userId

/-- What a retry makes of a work item. -/
def WorkItem.reopened (w : WorkItem) (occurredAt : Time) : WorkItem :=
  if w.taskStatus = .terminated ∨ w.completed = true then w.reopen occurredAt else w

theorem Task.reopened_closed_state (t : Task) (occurredAt : Time) :
    (t.closed occurredAt).reopened.state = if t.state = .spiff .completed then .spiff .completed else .spiff .ready := by
  unfold Task.closed Task.reopened
  by_cases h : t.state = .spiff .completed <;> simp [h]

theorem WorkItem.closed_completed (w : WorkItem) (occurredAt : Time) (userId : Option Nat) :
    (w.closed occurredAt userId).completed = true := by
  unfold WorkItem.closed
  split
  · assumption
  · rfl

/-- A closed item is reopened whatever closed it. -/
theorem WorkItem.reopened_closed (w : WorkItem) (occurredAt reopenedAt : Time) (userId : Option Nat) :
    (w.closed occurredAt userId).reopened reopenedAt = (w.closed occurredAt userId).reopen reopenedAt := by
  rw [WorkItem.reopened, if_pos (.inr (w.closed_completed occurredAt userId))]

theorem WorkItem.closed_id (w : WorkItem) (occurredAt : Time) (userId : Option Nat) : (w.closed occurredAt userId).id = w.id := by
  unfold WorkItem.closed
  split <;> rfl

theorem filter_updateWhere_map {ρ : Type} {p q : ρ → Bool} {f g : ρ → ρ} (hq : ∀ r, q (f r) = q r)
    (hg : ∀ r, q r = true → (if p r then f r else r) = g r) (l : List ρ) :
    (updateWhere p f l).filter q = (l.filter q).map g := by
  induction l with
  | nil => rfl
  | cons r l ih =>
    have hr : q (if p r then f r else r) = q r := by
      split
      · exact hq r
      · rfl
    rw [updateWhere_cons, List.filter_cons, List.filter_cons, hr, ih]
    cases hqr : q r with
    | false => rfl
    | true => simp only [if_true, List.map_cons, hg r hqr]

theorem tasksOf_closeRuntimeState (db : Db) (i : Nat) (t : Time) (userId : Option Nat) :
    (db.closeRuntimeState i t userId).tasksOf i = (db.tasksOf i).map (·.closed t) := by
  unfold Db.tasksOf Db.closeRuntimeState
  refine filter_updateWhere_map ?_ (fun r hr => ?_) _
  · exact fun _ => rfl
  · rw [if_pos hr]
    rfl

theorem itemsOf_closeRuntimeState (db : Db) (i : Nat) (t : Time) (userId : Option Nat) :
    (db.closeRuntimeState i t userId).itemsOf i = (db.itemsOf i).map (·.closed t userId) := by
  unfold Db.itemsOf Db.closeRuntimeState
  refine filter_updateWhere_map ?_ (fun r hr => ?_) _
  · exact fun _ => rfl
  · cases hcompleted : r.completed <;> simp [WorkItem.closed, hr, hcompleted]

theorem tasksOf_reopenRuntimeState (db : Db) (i : Nat) (t : Time) :
    (db.reopenRuntimeState i t).tasksOf i = (db.tasksOf i).map (·.reopened) := by
  unfold Db.tasksOf Db.reopenRuntimeState
  refine filter_updateWhere_map ?_ (fun r hr => ?_) _
  · exact fun _ => rfl
  · simp [Task.reopened, hr]

theorem itemsOf_reopenRuntimeState (db : Db) (i : Nat) (t : Time) :
    (db.reopenRuntimeState i t).itemsOf i = (db.itemsOf i).map (·.reopened t) := by
  unfold Db.itemsOf Db.reopenRuntimeState
  refine filter_updateWhere_map ?_ (fun r hr => ?_) _
  · exact fun _ => rfl
  · simp [WorkItem.reopened, hr]

/-! ## What a retry is to restore -/

/-- The item is open if it was before the error, and if it was completed or
cancelled then, it is so again, with the user who completed it. -/
structure WorkItem.Restored (w w' : WorkItem) : Prop where
  id : w'.id = w.id
  completed : w'.completed = w.completed
  closed : w.taskStatus = .completed ∨ w.taskStatus = .cancelled →
    w'.taskStatus = w.taskStatus ∧ w'.completedByUserId = w.completedByUserId

/-- Row by row, the task rows of the instance have their states again and its
work items are restored. -/
structure Undone (i : Nat) (db db' : Db) : Prop where
  tasks : List.Forall₂ (fun t t' : Task => t'.guid = t.guid ∧ t'.state = t.state) (db.tasksOf i) (db'.tasksOf i)
  items : List.Forall₂ WorkItem.Restored (db.itemsOf i) (db'.itemsOf i)

/-- Every task row of the instance is `READY` or `COMPLETED`, and every work item
of it is open, neither completed nor cancelled. -/
structure Undoable (i : Nat) (db : Db) : Prop where
  tasks : ∀ t ∈ db.tasks, t.processInstanceId = i → t.state = .spiff .ready ∨ t.state = .spiff .completed
  items : ∀ w ∈ db.workItems, w.processInstanceId = i →
    w.completed = false ∧ w.taskStatus ≠ .completed ∧ w.taskStatus ≠ .cancelled

theorem WorkItem.restored_reopened_iff (w : WorkItem) (occurredAt reopenedAt : Time) (userId : Option Nat) :
    w.Restored ((w.closed occurredAt userId).reopened reopenedAt) ↔
      w.completed = false ∧ w.taskStatus ≠ .completed ∧ w.taskStatus ≠ .cancelled := by
  rw [w.reopened_closed]
  constructor
  · rintro ⟨-, hopen, hclosed⟩
    refine ⟨hopen.symm, fun hstatus => ?_, fun hstatus => ?_⟩
    · exact absurd ((hclosed (.inl hstatus)).1.trans hstatus) (by simp [WorkItem.reopen])
    · exact absurd ((hclosed (.inr hstatus)).1.trans hstatus) (by simp [WorkItem.reopen])
  · rintro ⟨hopen, hcompleted, hcancelled⟩
    exact ⟨w.closed_id occurredAt userId, hopen.symm, fun h => absurd h (by simp [hcompleted, hcancelled])⟩

theorem Task.restored_reopened_iff (t : Task) (occurredAt : Time) :
    ((t.closed occurredAt).reopened.guid = t.guid ∧ (t.closed occurredAt).reopened.state = t.state) ↔
      t.state = .spiff .ready ∨ t.state = .spiff .completed := by
  have hguid : (t.closed occurredAt).reopened.guid = t.guid := by
    unfold Task.reopened
    split <;> rfl
  rw [and_iff_right hguid, t.reopened_closed_state]
  by_cases hcompleted : t.state = .spiff .completed
  · simp [hcompleted]
  · simp [hcompleted, eq_comm]

/-- Rows that an error and a retry have gone over are as before exactly when
they could be restored. -/
theorem undone_iff {i : Nat} {db db' : Db} (occurredAt reopenedAt : Time) (userId : Option Nat)
    (htasks : db'.tasksOf i = (db.tasksOf i).map fun t => (t.closed occurredAt).reopened)
    (hitems : (db'.itemsOf i).map (·.unlaned) =
      (db.itemsOf i).map fun w => ((w.closed occurredAt userId).reopened reopenedAt).unlaned) :
    Undone i db db' ↔ Undoable i db := by
  have htask : List.Forall₂ (fun t t' : Task => t'.guid = t.guid ∧ t'.state = t.state) (db.tasksOf i) (db'.tasksOf i) ↔
      ∀ t ∈ db.tasks, t.processInstanceId = i → t.state = .spiff .ready ∨ t.state = .spiff .completed := by
    rw [htasks, List.forall₂_map_right_iff, List.forall₂_same]
    simp only [Db.tasksOf, List.mem_filter, beq_iff_eq, and_imp, Task.restored_reopened_iff]
  have hitem : List.Forall₂ WorkItem.Restored (db.itemsOf i) (db'.itemsOf i) ↔
      ∀ w ∈ db.workItems, w.processInstanceId = i →
        w.completed = false ∧ w.taskStatus ≠ .completed ∧ w.taskStatus ≠ .cancelled := by
    -- restoring says nothing of lanes
    have hlane : ∀ w w' : WorkItem, w.Restored w'.unlaned ↔ w.Restored w' := fun w w' =>
      ⟨fun h => ⟨h.id, h.completed, h.closed⟩, fun h => ⟨h.id, h.completed, h.closed⟩⟩
    have hmap : List.Forall₂ WorkItem.Restored (db.itemsOf i) (db'.itemsOf i) ↔
        List.Forall₂ WorkItem.Restored (db.itemsOf i) ((db'.itemsOf i).map (·.unlaned)) := by
      rw [List.forall₂_map_right_iff]
      simp only [hlane]
    rw [hmap, hitems, List.forall₂_map_right_iff, List.forall₂_same]
    simp only [Db.itemsOf, List.mem_filter, beq_iff_eq, and_imp, hlane, WorkItem.restored_reopened_iff]
  exact ⟨fun h => ⟨htask.1 h.tasks, hitem.1 h.items⟩, fun h => ⟨htask.2 h.tasks, hitem.2 h.items⟩⟩

/-! ## The snapshot behind an instance -/

/-- Every instance of `db'` is one of `db`, with the snapshot it had there. -/
def SameSnapshots (db db' : Db) : Prop :=
  ∀ pi' ∈ db'.processInstances, ∃ pi ∈ db.processInstances, pi'.id = pi.id ∧ db'.workflowStateJson pi' = db.workflowStateJson pi

theorem SameSnapshots.trans {db db' db'' : Db} (h : SameSnapshots db db') (h' : SameSnapshots db' db'') :
    SameSnapshots db db'' := by
  intro pi'' hpi''
  obtain ⟨pi', hpi', hid', hstate'⟩ := h' pi'' hpi''
  obtain ⟨pi, hpi, hid, hstate⟩ := h pi' hpi'
  exact ⟨pi, hpi, hid'.trans hid, hstate'.trans hstate⟩

/-- A database with the same runtime processes and snapshots, whose instances
were changed in other columns. -/
theorem sameSnapshots_of_updateWhere {db db' : Db} {p : ProcessInstance → Bool} {f : ProcessInstance → ProcessInstance}
    (hinstances : db'.processInstances = updateWhere p f db.processInstances) (hprocesses : db'.bpmnProcesses = db.bpmnProcesses)
    (hjson : db'.jsonData = db.jsonData) (hf : ∀ pi, (f pi).id = pi.id ∧ (f pi).bpmnProcessId = pi.bpmnProcessId) :
    SameSnapshots db db' := by
  intro pi' hpi'
  rw [hinstances] at hpi'
  obtain ⟨pi, hpi, rfl⟩ := mem_updateWhere.1 hpi'
  have hkey : (if p pi = true then f pi else pi).id = pi.id ∧ (if p pi = true then f pi else pi).bpmnProcessId = pi.bpmnProcessId := by
    split
    · exact hf pi
    · exact ⟨rfl, rfl⟩
  refine ⟨pi, hpi, hkey.1, ?_⟩
  unfold Db.workflowStateJson Db.bpmnProcess? Db.snapshotOf Db.jsonData?
  rw [hkey.2, hprocesses, hjson]

/-- The tables a snapshot is read from are the same. -/
theorem sameSnapshots_of_eq {db db' : Db} (hinstances : db'.processInstances = db.processInstances)
    (hprocesses : db'.bpmnProcesses = db.bpmnProcesses) (hjson : db'.jsonData = db.jsonData) : SameSnapshots db db' := by
  refine sameSnapshots_of_updateWhere (p := fun _ => false) (f := id) ?_ hprocesses hjson fun _ => ⟨rfl, rfl⟩
  rw [hinstances, eq_comm, updateWhere_eq_self]
  intro _ _ h
  cases h

section
variable {W Ω : Type} (env : Env W Ω)

/-- Storing data in a workflow leaves its tasks' states alone. -/
structure Env.DataApart : Prop where
  updateData : ∀ w data, (env.tasks (env.updateData w data)).map (·.core) = (env.tasks w).map (·.core)
  updateTaskTreeData : ∀ w data, (env.tasks (env.updateTaskTreeData w data)).map (·.core) = (env.tasks w).map (·.core)

/-- The instance is initialized, and no service task of its snapshot is in
`ERROR`. -/
def Initialized (i : Nat) (db : Db) : Prop :=
  ∀ pi ∈ db.processInstances, pi.id = i → ∃ state w, db.workflowStateJson pi = some state ∧
    env.deserializeJson state = .ok w ∧ env.erroredServiceTasks w = []

variable {env} {tenantId : TenantId} {i : Nat} {s s' : Tx Ω}

theorem Initialized.of_same {db db' : Db} (h : Initialized env i db) (hsame : SameSnapshots db db') : Initialized env i db' := by
  intro pi' hpi' hid
  obtain ⟨pi, hpi, hid', hstate⟩ := hsame pi' hpi'
  rw [hstate]
  exact h pi hpi (hid'.symm.trans hid)

/-- Whether service tasks have failed can be read off the tasks' states. -/
theorem erroredServiceTasks_eq_nil {w w' : W} (h : (env.tasks w').map (·.core) = (env.tasks w).map (·.core)) :
    env.erroredServiceTasks w' = [] ↔ env.erroredServiceTasks w = [] := by
  have hcore : ∀ w, env.erroredServiceTasks w = [] ↔
      ∀ c ∈ (env.tasks w).map (·.core), ¬ ((c.state == .error && c.specType == "ServiceTask") = true) := by
    intro w
    simp only [Env.erroredServiceTasks, List.filter_eq_nil_iff, List.forall_mem_map]
    rfl
  rw [hcore, hcore, h]

theorem erroredServiceTasks_applyMetadata (hdata : env.DataApart) {w : W} (metadata : Dict)
    (h : env.erroredServiceTasks w = []) : env.erroredServiceTasks (applyMetadataToWorkflow env w metadata) = [] := by
  refine (erroredServiceTasks_eq_nil ?_).2 h
  unfold applyMetadataToWorkflow
  split
  · rfl
  · rw [hdata.updateTaskTreeData, hdata.updateData]

/-- Without a failed service task a retry leaves the workflow alone. -/
theorem retryErroredServiceTask_idle (hdata : env.DataApart) (hinit : Initialized env i s.view) {occurredAt : Option Time}
    (h : (retryErroredServiceTaskWorkflowIfNeeded env tenantId i occurredAt).run s = (.ok (), s')) : s' = s := by
  obtain ⟨pi, hpi, -, hid, ⟨hsame, -⟩ | hrerun⟩ := retryErroredServiceTaskWorkflowIfNeeded_ok h
  · exact hsame
  · obtain ⟨state, w, w', _, _, hstate, hw, ⟨metadata, _, _, _, herrored, -⟩, -⟩ := hrerun
    obtain ⟨state', w₀, hstate', hw₀, hnone⟩ := hinit pi hpi hid
    obtain rfl := Option.some.inj (hstate.symm.trans hstate')
    obtain rfl := Except.ok.inj (hw.symm.trans hw₀)
    exact absurd (erroredServiceTasks_applyMetadata hdata metadata hnone) herrored

/-- Only lanes of work items differ, and nothing of the tasks. -/
structure LanesOnly (s s' : Tx Ω) : Prop where
  tasks : s'.view.tasks = s.view.tasks
  items : s'.view.workItems.map (·.unlaned) = s.view.workItems.map (·.unlaned)

theorem frame_lanesOnly : Prog.Frame (LanesOnly (Ω := Ω)) :=
  ⟨fun _ => ⟨rfl, rfl⟩, fun h₁ h₂ => ⟨h₂.tasks.trans h₁.tasks, h₂.items.trans h₁.items⟩⟩

theorem syncOpenWorkItemPotentialOwners_lanesOnly (env : Env W Ω) {loaded : Option (List Nat)}
    (h : (syncOpenWorkItemPotentialOwners env tenantId i loaded).run s = (.ok (), s')) : LanesOnly s s' := by
  have hsteps : Steps (Change env ⟨tenantId, i, none, fun _ => True⟩) [.seq, .shared, .lane] s s' :=
    (syncOpenWorkItemPotentialOwners_touches _ _ _ (List.Subset.refl _)).steps h
  refine hsteps.keeps frame_lanesOnly fun l hl s s' hchange => ?_
  cases hchange with
  | nextId => exact ⟨rfl, rfl⟩
  | shared hperipheral => exact ⟨hperipheral.tasks, by rw [hperipheral.workItems]⟩
  | lane id groupId => exact ⟨rfl, map_updateWhere fun _ => rfl⟩
  | _ => simp at hl

theorem itemsOf_unlaned {db db' : Db} (h : db'.workItems.map (·.unlaned) = db.workItems.map (·.unlaned)) :
    (db'.itemsOf i).map (·.unlaned) = (db.itemsOf i).map (·.unlaned) := by
  have hfilter : ∀ l : List WorkItem, (l.filter (·.processInstanceId == i)).map (·.unlaned) =
      (l.map (·.unlaned)).filter (·.processInstanceId == i) := by
    intro l
    rw [List.filter_map]
    rfl
  rw [Db.itemsOf, Db.itemsOf, hfilter, hfilter, h]

/-- The session once a retry has reopened the instance and its rows. -/
def Tx.retried (s : Tx Ω) (i : Nat) (t : Time) : Tx Ω :=
  { s with view := (s.view.updateInstance i ({ · with status := .running, endedAt := none, updatedAt := some t })).reopenRuntimeState i t }

theorem sameSnapshots_retried (s : Tx Ω) (i : Nat) (t : Time) : SameSnapshots s.view (s.retried i t).view := by
  have hstatus : SameSnapshots s.view (s.view.updateInstance i ({ · with status := .running, endedAt := none, updatedAt := some t })) :=
    sameSnapshots_of_updateWhere rfl rfl rfl fun _ => ⟨rfl, rfl⟩
  exact hstatus.trans (sameSnapshots_of_updateWhere rfl rfl rfl fun _ => ⟨rfl, rfl⟩)

/-- A retry that has no service task to rerun reopens the instance's rows. -/
theorem retryProcessInstance_rows (hdata : env.DataApart) (hinit : Initialized env i s.view) {userId : Nat} {at_ : Option Time}
    (h : (retryProcessInstance env tenantId i userId at_).run s = (.ok (), s')) :
    s'.view.tasksOf i = (s.view.tasksOf i).map (·.reopened) ∧ ∃ t,
      (s'.view.itemsOf i).map (·.unlaned) = (s.view.itemsOf i).map fun w => (w.reopened t).unlaned := by
  unfold retryProcessInstance at h
  obtain ⟨pi, s₁, hopen, h₁⟩ := Prog.bind_ok.1 h
  obtain ⟨rfl, -, -, -⟩ := openProcessInstanceCommand_ok hopen
  split at h₁
  · simp at h₁
  simp only [resolveTimestamp, query, updateInstance, write, Prog.gets_bind_run, Prog.modify_bind_run] at h₁
  obtain ⟨_, s₂, hfirst, h₂⟩ := Prog.bind_ok.1 h₁
  have hinit₁ := hinit.of_same (sameSnapshots_retried s₁ i (at_.getD (env.now s₁.world)))
  obtain rfl := retryErroredServiceTask_idle hdata hinit₁ hfirst
  simp only [deleteSchedulerJob, write, Prog.modify_bind_run] at h₂
  obtain ⟨_, s₃, hrecord, h₃⟩ := Prog.bind_ok.1 h₂
  obtain ⟨row, -, -, rfl⟩ := recordProcessInstanceEvent_ok hrecord
  obtain ⟨_, s₄, hsecond, hsync⟩ := Prog.bind_ok.1 h₃
  obtain rfl := retryErroredServiceTask_idle hdata (by exact hinit₁.of_same (sameSnapshots_of_eq rfl rfl rfl)) hsecond
  have hlanes := syncOpenWorkItemPotentialOwners_lanesOnly env hsync
  refine ⟨?_, at_.getD (env.now s₁.world), ?_⟩
  · rw [Db.tasksOf, hlanes.tasks]
    exact tasksOf_reopenRuntimeState _ i (at_.getD (env.now s₁.world))
  · rw [itemsOf_unlaned hlanes.items]
    exact (congrArg (List.map (·.unlaned)) (itemsOf_reopenRuntimeState _ i (at_.getD (env.now s₁.world)))).trans (List.map_map ..)

/-- An error of an instance that can be taken there closes its rows. -/
theorem errorProcessInstance_rows {userId : Option Nat} {at_ : Option Time}
    (hlive : ∀ pi ∈ s.view.processInstances, pi.id = i → pi.hasTerminalStatus = false)
    (h : (errorProcessInstance env tenantId i userId at_).run s = (.ok (), s')) :
    SameSnapshots s.view s'.view ∧ ∃ t, s'.view.tasksOf i = (s.view.tasksOf i).map (·.closed t) ∧
      s'.view.itemsOf i = (s.view.itemsOf i).map (·.closed t userId) := by
  obtain ⟨pi, hpi, rfl, ⟨herror, -⟩ | ⟨-, hrecord⟩⟩ := errorProcessInstance_ok h
  · exact absurd (hlive pi hpi rfl) (by simp [ProcessInstance.hasTerminalStatus, herror])
  · obtain ⟨row, -, -, rfl⟩ := recordProcessInstanceEvent_ok hrecord
    refine ⟨?_, at_.getD (env.now s.world), tasksOf_closeRuntimeState _ _ _ userId,
      itemsOf_closeRuntimeState _ _ _ _⟩
    have hstatus : SameSnapshots s.view (s.view.updateInstance pi.id ({ · with
        status := .error, endedAt := some (at_.getD (env.now s.world)), updatedAt := some (at_.getD (env.now s.world)) })) :=
      sameSnapshots_of_updateWhere rfl rfl rfl fun _ => ⟨rfl, rfl⟩
    exact hstatus.trans (sameSnapshots_of_updateWhere rfl rfl rfl fun _ => ⟨rfl, rfl⟩)

/-! ## From the error to the retry -/

/-- Between two transactions on the instance, its rows and its snapshot stay. -/
structure AtRest (i : Nat) (db db' : Db) : Prop where
  tasks : db'.tasksOf i = db.tasksOf i
  items : db'.itemsOf i = db.itemsOf i
  snapshots : SameSnapshots db db'

variable (env) in
/-- A successful retry of the instance: called, or scheduled and executed by the
scheduler later. -/
inductive Retried (tenantId : TenantId) (i : Nat) : Tx Ω → Tx Ω → Prop
  | called {s s' : Tx Ω} {userId : Nat} {at_ : Option Time}
      (h : (retryProcessInstance env tenantId i userId at_).run s = (.ok (), s')) : Retried tenantId i s s'
  | scheduled {s s₁ s₂ s' : Tx Ω} {userId : Nat} {retryAt now : Time} {at_ : Option Time} {job : SchedulerJob}
      (hschedule : (scheduleProcessInstanceRetry env tenantId i userId retryAt at_).run s = (.ok (), s₁))
      (hrest : AtRest i s₁.view s₂.view) (hjob : job.processInstanceId = some i ∧ job.m8fTenantId = tenantId)
      (herror : ∀ pi ∈ s₂.view.processInstances, pi.id = i → pi.status = .error)
      (hexecute : (executeProcessRetryJob env job now).run s₂ = (.ok (), s')) : Retried tenantId i s s'

theorem scheduleProcessInstanceRetry_rests {userId : Nat} {retryAt : Time} {at_ : Option Time}
    (h : (scheduleProcessInstanceRetry env tenantId i userId retryAt at_).run s = (.ok (), s')) : AtRest i s.view s'.view := by
  have hsteps : Steps (Change env ⟨tenantId, i, none, fun _ => True⟩) [.seq, .job] s s' :=
    (scheduleProcessInstanceRetry_touches _ rfl _ _ _ (List.Subset.refl _)).steps h
  refine hsteps.keeps (R := fun s s' => AtRest i s.view s'.view) ?_ fun l hl s s' hchange => ?_
  · exact ⟨fun _ => ⟨rfl, rfl, sameSnapshots_of_eq rfl rfl rfl⟩, fun h₁ h₂ =>
      ⟨h₂.tasks.trans h₁.tasks, h₂.items.trans h₁.items, h₁.snapshots.trans h₂.snapshots⟩⟩
  · cases hchange with
    | nextId => exact ⟨rfl, rfl, sameSnapshots_of_eq rfl rfl rfl⟩
    | job => exact ⟨rfl, rfl, sameSnapshots_of_eq rfl rfl rfl⟩
    | _ => simp at hl

theorem Retried.rows (hdata : env.DataApart) (hinit : Initialized env i s.view) (h : Retried env tenantId i s s') :
    s'.view.tasksOf i = (s.view.tasksOf i).map (·.reopened) ∧ ∃ t,
      (s'.view.itemsOf i).map (·.unlaned) = (s.view.itemsOf i).map fun w => (w.reopened t).unlaned := by
  cases h with
  | called h => exact retryProcessInstance_rows hdata hinit h
  | scheduled hschedule hrest hjob herror hexecute =>
    have hscheduled := scheduleProcessInstanceRetry_rests hschedule
    unfold executeProcessRetryJob at hexecute
    rw [hjob.1, hjob.2] at hexecute
    obtain ⟨pi, s₃, hload, h₁⟩ := Prog.bind_ok.1 hexecute
    obtain ⟨rfl, hpi, -, hid⟩ := loadProcessInstance_ok hload
    rw [if_pos (herror pi hpi hid)] at h₁
    obtain ⟨_, s₄, huser, hretry⟩ := Prog.bind_ok.1 h₁
    obtain ⟨-, rfl⟩ := ofExcept_ok huser
    rw [← hscheduled.tasks, ← hrest.tasks, ← hscheduled.items, ← hrest.items]
    exact retryProcessInstance_rows hdata ((hinit.of_same hscheduled.snapshots).of_same hrest.snapshots) hretry

/-- A retry undoes an error exactly when, before the error, every task row of
the instance was `READY` or `COMPLETED` and no work item of it was closed. -/
theorem retry_undoes_error_iff {s₁ s₂ : Tx Ω} {userId : Option Nat} {at_ : Option Time} (hdata : env.DataApart)
    (hlive : ∀ pi ∈ s.view.processInstances, pi.id = i → pi.hasTerminalStatus = false) (hinit : Initialized env i s.view)
    (herror : (errorProcessInstance env tenantId i userId at_).run s = (.ok (), s₁)) (hrest : AtRest i s₁.view s₂.view)
    (hretry : Retried env tenantId i s₂ s') : Undone i s.view s'.view ↔ Undoable i s.view := by
  obtain ⟨hsnapshots, t, htasks, hitems⟩ := errorProcessInstance_rows hlive herror
  obtain ⟨htasks', t', hitems'⟩ := hretry.rows hdata ((hinit.of_same hsnapshots).of_same hrest.snapshots)
  refine undone_iff t t' userId ?_ ?_
  · rw [htasks', hrest.tasks, htasks, List.map_map]
    rfl
  · rw [hitems', hrest.items, hitems, List.map_map]
    rfl

end
theorem AtRest.refl (i : Nat) (db : Db) : AtRest i db db := ⟨rfl, rfl, sameSnapshots_of_eq rfl rfl rfl⟩

/-! ## A review that fails after its first part -/

namespace Sample

def reviewRow (letter : String) (state : TaskState) : Task :=
  ⟨guid letter ⟨11, .ready, .ready, .completed, .completed⟩, "t", 10, 11, 3, .spiff state, [], "", "", none, none, none⟩

/-- Instance `11`, whose finance review is in the given state, with its work
item, and whose legal review is open. -/
def failingDb (finance : TaskState) (item : WorkItem) : Db :=
  { db₀ with
    bpmnProcesses := [⟨10, "t", 2, [], "h", none, none⟩]
    jsonData := [⟨"t", "h", [(workflowStateJsonDataKey, .str (serialize ⟨11, finance, .ready, .completed, .completed⟩))]⟩]
    processInstances := [⟨11, "t", "review", "review", none, 1, some 2, some 10, some "5", .userInputRequired, none, none, none,
      none, none, none, none, none, none⟩]
    tasks := [reviewRow "f" finance, reviewRow "l" .ready, reviewRow "t" .completed, reviewRow "s" .completed]
    workItems := [item, ⟨18, "t", 11, some (guid "l" ⟨11, finance, .ready, .completed, .completed⟩), none, none, none, .ready, false,
      none, none⟩] }

def financeGuid : Guid := guid "f" ⟨11, .ready, .ready, .completed, .completed⟩

/-- The session before the error, the finance review open or completed. -/
def openReviews : Tx Bool :=
  .begin 30 (failingDb .ready ⟨17, "t", 11, some financeGuid, none, none, none, .ready, false, none, none⟩) true

def halfReviewed : Tx Bool :=
  .begin 30 (failingDb .completed ⟨17, "t", 11, some financeGuid, none, some 1, some 1, .completed, true, none, none⟩) true

def errored (s : Tx Bool) : Tx Bool := ((errorProcessInstance env "t" 11 none none).run s).2

def retried (s : Tx Bool) : Tx Bool := ((retryProcessInstance env "t" 11 1 none).run s).2

theorem env_dataApart : env.DataApart := ⟨fun _ _ => rfl, fun _ _ => rfl⟩

theorem failingDb_initialized (finance : TaskState) (item : WorkItem) : Initialized env 11 (failingDb finance item) := by
  intro pi hpi _
  obtain rfl := List.mem_singleton.1 hpi
  refine ⟨_, _, rfl, deserialize_serialize _, ?_⟩
  unfold Env.erroredServiceTasks
  rw [List.filter_eq_nil_iff]
  intro t ht
  simp only [env, tasks, List.mem_cons, List.not_mem_nil, or_false] at ht
  rcases ht with rfl | rfl | rfl | rfl <;> simp [task]

end Sample

theorem retry_undoes_error_iff_open :
    Undone 11 Sample.openReviews.view (Sample.retried (Sample.errored Sample.openReviews)).view := by
  have herror : (errorProcessInstance Sample.env "t" 11 none none).run Sample.openReviews =
      (.ok (), Sample.errored Sample.openReviews) := Prod.ext (by decide) rfl
  have hretry : (retryProcessInstance Sample.env "t" 11 1 none).run (Sample.errored Sample.openReviews) =
      (.ok (), Sample.retried (Sample.errored Sample.openReviews)) := Prod.ext (by decide) rfl
  exact (retry_undoes_error_iff Sample.env_dataApart (by decide) (Sample.failingDb_initialized _ _) herror (.refl _ _)
    (.called hretry)).2 ⟨by decide, by decide⟩

theorem Undone.completed {i : Nat} {db db' : Db} (h : Undone i db db') :
    (db'.itemsOf i).map (·.completed) = (db.itemsOf i).map (·.completed) := by
  refine List.forall₂_eq_eq_eq ▸ ?_
  rw [List.forall₂_map_left_iff, List.forall₂_map_right_iff]
  exact (h.items.flip).imp fun _ _ hrow => hrow.completed

/-- A review that was completed before the error is open after the retry. -/
theorem retry_reopens_completed :
    (∀ pi ∈ Sample.halfReviewed.view.processInstances, pi.id = 11 → pi.hasTerminalStatus = false) ∧
      Initialized Sample.env 11 Sample.halfReviewed.view ∧
      ((errorProcessInstance Sample.env "t" 11 none none).run Sample.halfReviewed).1 = .ok () ∧
      ((retryProcessInstance Sample.env "t" 11 1 none).run (Sample.errored Sample.halfReviewed)).1 = .ok () ∧
      ¬ Undone 11 Sample.halfReviewed.view (Sample.retried (Sample.errored Sample.halfReviewed)).view := by
  refine ⟨by decide, Sample.failingDb_initialized _ _, by decide, by decide, fun h => ?_⟩
  have hcompleted := h.completed
  revert hcompleted
  decide

end M8flowCore
