import M8flowCore.TaskDefinitions
import M8flowCore.SavedWrites
/-!
# Saving definitions and task rows

A save writes the definitions first, the rows of the tasks after them, and then
upserts both once more for each task a person can work on. What it does besides
leaves the two tables alone.
-/
open M8flowCore.Lib M8flowCore.Session

namespace M8flowCore

/-! ## What leaves the two tables alone -/

section
variable {W Ω α : Type} {env : Env W Ω} {pi : ProcessInstance} {w : W} {occurredAt : Time} {s s' : Tx Ω}

/-- The definitions and the tasks are as they were. -/
structure Steady (s s' : Tx Ω) : Prop where
  definitions : s'.view.taskDefinitions = s.view.taskDefinitions
  tasks : s'.view.tasks = s.view.tasks

theorem frame_steady : Prog.Frame (Steady (Ω := Ω)) where
  refl _ := ⟨rfl, rfl⟩
  trans h₁ h₂ := ⟨h₂.definitions.trans h₁.definitions, h₂.tasks.trans h₁.tasks⟩

theorem query_steady (f : Db → α) : (query (Ω := Ω) f).Keeps Steady := Prog.keeps_gets frame_steady _

theorem pure_steady (a : α) : (pure a : M Ω α).Keeps Steady := Prog.keeps_pure frame_steady a

theorem ofExcept_steady (r : Except Error α) : (ofExcept (Ω := Ω) r).Keeps Steady := (ofExcept_readOnly r).keeps frame_steady

theorem write_steady {f : Db → Db} (h : ∀ db, (f db).taskDefinitions = db.taskDefinitions ∧ (f db).tasks = db.tasks) :
    (write (Ω := Ω) f).Keeps Steady := fun s => ⟨(h s.view).1, (h s.view).2⟩

theorem insert_steady {f : Nat → Db → Db}
    (h : ∀ id db, (f id db).taskDefinitions = db.taskDefinitions ∧ (f id db).tasks = db.tasks) :
    (Session.insert (Ω := Ω) f).Keeps Steady := fun s => ⟨(h s.seq s.view).1, (h s.seq s.view).2⟩

theorem updateInstance_steady (id : Nat) (f : ProcessInstance → ProcessInstance) :
    (updateInstance (Ω := Ω) id f).Keeps Steady := write_steady fun _ => ⟨rfl, rfl⟩

theorem createOrUpdateFromPayload_steady (tenantId : TenantId) (data : Dict) :
    (createOrUpdateFromPayload env tenantId data).Keeps Steady := by
  refine Prog.keeps_bind frame_steady (ofExcept_steady _) fun hashed => ?_
  exact Prog.keeps_bind frame_steady (write_steady fun _ => ⟨rfl, rfl⟩) fun _ => pure_steady _

theorem syncBpmnProcessFromWorkflow_steady (serialized : SerializedWorkflow) (serializedState : String) :
    (syncBpmnProcessFromWorkflow env pi serialized serializedState).Keeps Steady := by
  refine Prog.keeps_bind frame_steady (query_steady _) fun found => ?_
  cases found with
  | none => exact pure_steady _
  | some process =>
    refine Prog.keeps_bind frame_steady (createOrUpdateFromPayload_steady _ _) fun hash => ?_
    exact write_steady fun _ => ⟨rfl, rfl⟩

theorem syncIntermediateTimerSchedulerJob_steady (pi : ProcessInstance) (w : W) (occurredAt : Time) :
    (syncIntermediateTimerSchedulerJob env pi w occurredAt).Keeps Steady := by
  refine Prog.keeps_bind frame_steady (ofExcept_steady _) fun payloads => ?_
  split
  · exact write_steady fun _ => ⟨rfl, rfl⟩
  · refine Prog.keeps_bind frame_steady (query_steady _) fun found => ?_
    cases found with
    | none => exact Prog.keeps_bind frame_steady (insert_steady fun _ _ => ⟨rfl, rfl⟩) fun _ => pure_steady _
    | some job => exact write_steady fun _ => ⟨rfl, rfl⟩

theorem syncInactiveWorkItems_steady (pi : ProcessInstance) (w : W) (occurredAt : Time) :
    (syncInactiveWorkItems env pi w occurredAt).Keeps Steady := by
  refine Prog.keeps_bind frame_steady (query_steady _) fun ready => ?_
  refine Prog.keeps_bind frame_steady (query_steady _) fun items => Prog.keeps_forEach frame_steady fun item _ => ?_
  refine Prog.keeps_bind frame_steady (query_steady _) fun task => ?_
  split
  · refine Prog.keeps_bind frame_steady (write_steady fun _ => ⟨rfl, rfl⟩) fun _ => ?_
    refine Prog.keeps_bind frame_steady (write_steady fun _ => ⟨rfl, rfl⟩) fun _ => ?_
    split
    · exact pure_steady _
    · refine Prog.keeps_bind frame_steady ((loadProcessInstance_readOnly _ _).keeps frame_steady) fun _ => ?_
      exact Prog.keeps_bind frame_steady (insert_steady fun _ _ => ⟨rfl, rfl⟩) fun _ => pure_steady _
  · exact pure_steady _

theorem upsertWorkItem_steady (pi : ProcessInstance) (taskGuid : Guid) (occurredAt : Time) :
    (upsertWorkItem (Ω := Ω) pi taskGuid occurredAt).Keeps Steady := by
  have hstamp : ∀ id, Prog.Keeps Steady (do updateInstance pi.id ({ · with taskUpdatedAt := some occurredAt }); pure id : M Ω Nat) :=
    fun id => Prog.keeps_bind frame_steady (updateInstance_steady _ _) fun _ => pure_steady _
  refine Prog.keeps_bind frame_steady (query_steady _) fun existing => ?_
  cases existing with
  | none => exact Prog.keeps_bind frame_steady (insert_steady fun _ _ => ⟨rfl, rfl⟩) hstamp
  | some item =>
    refine Prog.keeps_bind frame_steady (write_steady fun _ => ⟨rfl, rfl⟩) fun _ => ?_
    exact Prog.keeps_bind frame_steady (pure_steady item.id) hstamp

/-- What follows the two upserts of a task a person can work on. -/
theorem assignWorkItemPotentialOwners_steady (pi : ProcessInstance) (workItemId : Nat) (laneName : PyVal) (taskData : Dict)
    (definitionProperties : Option Dict) :
    (assignWorkItemPotentialOwners env pi workItemId laneName taskData definitionProperties).Keeps Steady :=
  assignWorkItemPotentialOwners_keeps frame_steady (fun _ _ _ => ⟨rfl, rfl⟩) (fun _ => ⟨rfl, rfl⟩) _ _ _ _ _
    (fun _ _ => ⟨rfl, rfl⟩) fun _ => write_steady fun _ => ⟨rfl, rfl⟩

theorem upsertFutureTask_steady (tenantId : TenantId) (guid : Guid) (occurredAt : Time) :
    (upsertFutureTask (Ω := Ω) tenantId guid occurredAt).Keeps Steady := by
  refine write_steady fun db => ?_
  split <;> exact ⟨rfl, rfl⟩

theorem updateProcessInstanceStatusFromWorkflow_steady (pi : ProcessInstance) (w : W) (occurredAt : Time) :
    (updateProcessInstanceStatusFromWorkflow env pi w occurredAt).Keeps Steady := by
  have hprocess : ∀ f : BpmnProcess → BpmnProcess, (updateProcessOf (Ω := Ω) pi f).Keeps Steady := by
    intro f
    refine write_steady fun db => ?_
    split <;> exact ⟨rfl, rfl⟩
  unfold updateProcessInstanceStatusFromWorkflow
  split
  · refine Prog.keeps_bind frame_steady (updateInstance_steady _ _) fun _ => ?_
    exact Prog.keeps_bind frame_steady (hprocess _) fun _ => write_steady fun _ => ⟨rfl, rfl⟩
  · refine Prog.keeps_bind frame_steady (updateInstance_steady _ _) fun _ => ?_
    exact Prog.keeps_bind frame_steady (query_steady _) fun startedAt => hprocess _

end

/-! ## What each step keeps -/

/-- The row of a task points at a row under the identifier. -/
def Pointed (tenantId : TenantId) (definitionId : Nat) (identifier : String) (guid : Guid) (db : Db) : Prop :=
  ∃ row, db.task? guid = some row ∧ ∃ d ∈ db.definitionsOf tenantId definitionId identifier, d.id = row.taskDefinitionId

section
variable {W Ω : Type} {env : Env W Ω} {tenantId : TenantId} {definitionId : Nat} {e e' : TaskSpecEntry} {d : TaskDefinition}
  {identifier : String} {guid : Guid} {db db' : Db} {occurredAt : Time} {s s' : Tx Ω} {pi : ProcessInstance} {w : W}

theorem definitionsOf_congr (h : db'.taskDefinitions = db.taskDefinitions) :
    db'.definitionsOf tenantId definitionId identifier = db.definitionsOf tenantId definitionId identifier := by
  unfold Db.definitionsOf
  rw [h]

theorem Represented.congr (h : db'.taskDefinitions = db.taskDefinitions) (he : Represented tenantId definitionId e db) :
    Represented tenantId definitionId e db' := by
  unfold Represented at he ⊢
  rw [definitionsOf_congr h]
  exact he

theorem Pointed.congr (h : db'.taskDefinitions = db.taskDefinitions) (htask : db'.task? guid = db.task? guid)
    (hp : Pointed tenantId definitionId identifier guid db) : Pointed tenantId definitionId identifier guid db' := by
  unfold Pointed at hp ⊢
  rw [htask, definitionsOf_congr h]
  exact hp

theorem Steady.task? (h : Steady s s') (guid : Guid) : s'.view.task? guid = s.view.task? guid := by
  unfold Db.task?
  rw [h.tasks]

/-- The identifiers that have a row keep one. -/
theorem Upserted.definitionsOf_ne (h : Upserted tenantId definitionId e d db db')
    (hne : db.definitionsOf tenantId definitionId identifier ≠ []) : db'.definitionsOf tenantId definitionId identifier ≠ [] := by
  by_cases heq : identifier = e.identifier
  · rw [heq]
    exact List.ne_nil_of_mem h.mem
  · rw [h.others identifier heq]
    exact hne

theorem Upserted.represented (h : Upserted tenantId definitionId e d db db') : Represented tenantId definitionId e db' :=
  ⟨List.ne_nil_of_mem h.mem, h.describes⟩

/-- A spec whose identifier is its own loses nothing to the upsert of another. -/
theorem Upserted.represented_of (h : Upserted tenantId definitionId e d db db') (hapart : e'.identifier = e.identifier → e' = e)
    (he' : Represented tenantId definitionId e' db) : Represented tenantId definitionId e' db' := by
  by_cases heq : e'.identifier = e.identifier
  · rw [hapart heq]
    exact h.represented
  · unfold Represented at he' ⊢
    rw [h.others _ heq]
    exact he'

theorem Upserted.pointed (h : Upserted tenantId definitionId e d db db')
    (hp : Pointed tenantId definitionId identifier guid db) : Pointed tenantId definitionId identifier guid db' := by
  obtain ⟨row, hrow, d₀, hd₀, hid⟩ := hp
  refine ⟨row, ?_, ?_⟩
  · unfold Db.task? at hrow ⊢
    rw [h.tasks]
    exact hrow
  · by_cases heq : identifier = e.identifier
    · subst heq
      obtain ⟨d', hd', hsame⟩ := h.kept d₀ hd₀
      exact ⟨d', hd', hsame.trans hid⟩
    · exact ⟨d₀, by rw [h.others identifier heq]; exact hd₀, hid⟩

/-- An upsert of a task leaves the definitions alone. -/
theorem upsertTaskModelFromPayload_definitions (definition : TaskDefinition) (payload : Dict) :
    (upsertTaskModelFromPayload env pi definition payload occurredAt).Keeps fun s s' =>
      s'.view.taskDefinitions = s.view.taskDefinitions := by
  have hframe : Prog.Frame fun s s' : Tx Ω => s'.view.taskDefinitions = s.view.taskDefinitions :=
    ⟨fun _ => rfl, fun h₁ h₂ => h₂.trans h₁⟩
  have hjson : ∀ data, (createOrUpdateFromPayload env pi.m8fTenantId data).Keeps fun s s' =>
      s'.view.taskDefinitions = s.view.taskDefinitions :=
    fun data => (createOrUpdateFromPayload_steady _ data).mono fun _ _ h => h.definitions
  refine Prog.keeps_bind hframe (Prog.keeps_orRaise hframe _ _) fun guid => ?_
  refine Prog.keeps_bind hframe (hjson _) fun jsonDataHash => ?_
  refine Prog.keeps_bind hframe (hjson _) fun pythonEnvDataHash => ?_
  refine Prog.keeps_bind hframe (Prog.keeps_orRaise hframe _ _) fun state => ?_
  refine Prog.keeps_bind hframe (Prog.keeps_gets hframe _) fun found => ?_
  cases found with
  | none =>
    refine Prog.keeps_bind hframe (Prog.keeps_orRaise hframe _ _) fun processId => ?_
    exact Prog.keeps_bind hframe (fun _ => rfl) fun _ => Prog.keeps_pure hframe _
  | some row => exact Prog.keeps_bind hframe (fun _ => rfl) fun _ => Prog.keeps_pure hframe _

/-- It points the task's row at the definition, and no other row elsewhere. -/
theorem upsertTaskModelFromPayload_pointed {payload : Dict} (hd : d ∈ s.view.definitionsOf tenantId definitionId identifier)
    (h : (upsertTaskModelFromPayload env pi d payload occurredAt).run s = (.ok guid, s')) :
    Pointed tenantId definitionId identifier guid s'.view ∧
      ∀ identifier' guid', guid' ≠ guid → Pointed tenantId definitionId identifier' guid' s.view →
        Pointed tenantId definitionId identifier' guid' s'.view := by
  have hdefinitions := (upsertTaskModelFromPayload_definitions d payload).of_ok h
  obtain ⟨⟨row, hrow, -, -, hid⟩, hothers⟩ := upsertTaskModelFromPayload_row h
  refine ⟨⟨row, hrow, d, ?_, hid.symm⟩, fun identifier' guid' hne hp => hp.congr hdefinitions (hothers guid' hne)⟩
  rw [definitionsOf_congr hdefinitions]
  exact hd

end

/-- The definition an instance is found to have is the one it names. -/
theorem definition_found {pi : ProcessInstance} {db : Db} {definition : BpmnProcessDefinition}
    (h : pi.bpmnProcessDefinitionId.bind db.definition? = some definition) : pi.bpmnProcessDefinitionId = some definition.id := by
  obtain ⟨definitionId, hid, hfound⟩ := Option.bind_eq_some_iff.1 h
  have hmatch := List.find?_some hfound
  rw [hid, beq_iff_eq.1 hmatch]

/-! ## The definitions of a save -/

section
variable {W Ω : Type} {env : Env W Ω} {tenantId : TenantId} {definitionId : Nat} {entries : List TaskSpecEntry}
  {serialized : SerializedWorkflow} {occurredAt : Time} {s s' : Tx Ω} {pi : ProcessInstance} {w : W}

/-- One turn of the loop of `_sync_serialized_task_specs`. -/
def upsertEntry (tenantId : TenantId) (definitionId : Nat) (occurredAt : Time) (e : TaskSpecEntry) : M Ω Unit := do
  let _ ← upsertTaskDefinitionFromPayload tenantId definitionId e.identifier e.properties occurredAt

theorem upsertEntry_upserted {e : TaskSpecEntry} {u : Unit}
    (h : (upsertEntry tenantId definitionId occurredAt e).run s = (.ok u, s')) :
    ∃ d, Upserted tenantId definitionId e d s.view s'.view := by
  obtain ⟨d, s₁, hupsert, hend⟩ := Prog.bind_ok.1 h
  obtain ⟨-, rfl⟩ := Prog.pure_ok.1 hend
  exact ⟨d, upsertTaskDefinition_upserted hupsert⟩

/-- After the loop over some specs, each has a row. -/
theorem forEach_upsertEntry_ne (h : (Prog.forEach entries (upsertEntry tenantId definitionId occurredAt)).run s = (.ok (), s')) :
    ∀ e ∈ entries, s'.view.definitionsOf tenantId definitionId e.identifier ≠ [] := by
  have hend := Prog.yields_forEach (I := fun rest (s : Tx Ω) => ∀ e ∈ entries,
    e ∈ rest ∨ s.view.definitionsOf tenantId definitionId e.identifier ≠ []) ?_ s () s' (fun e he => .inl he) h
  · intro e he
    exact (hend e he).resolve_left (by simp)
  · intro e₀ rest s₁ u s₂ hI hrun e he
    obtain ⟨d, hupserted⟩ := upsertEntry_upserted hrun
    rcases hI e he with hmem | hne
    · rcases List.mem_cons.1 hmem with rfl | hrest
      · exact .inr hupserted.represented.1
      · exact .inl hrest
    · exact .inr (hupserted.definitionsOf_ne hne)

/-- Where no two of them share an identifier, each row was made of its spec. -/
theorem forEach_upsertEntry_represented (hapart : ∀ e ∈ entries, ∀ e' ∈ entries, e.identifier = e'.identifier → e = e')
    (h : (Prog.forEach entries (upsertEntry tenantId definitionId occurredAt)).run s = (.ok (), s')) :
    ∀ e ∈ entries, Represented tenantId definitionId e s'.view := by
  have hend := Prog.yields_forEach (I := fun rest (s : Tx Ω) => rest ⊆ entries ∧ ∀ e ∈ entries,
    e ∈ rest ∨ Represented tenantId definitionId e s.view) ?_ s () s' ⟨List.Subset.refl _, fun e he => .inl he⟩ h
  · intro e he
    exact (hend.2 e he).resolve_left (by simp)
  · rintro e₀ rest s₁ u s₂ ⟨hsub, hI⟩ hrun
    obtain ⟨d, hupserted⟩ := upsertEntry_upserted hrun
    refine ⟨fun e he => hsub (by simp [he]), fun e he => ?_⟩
    rcases hI e he with hmem | hrepresented
    · rcases List.mem_cons.1 hmem with rfl | hrest
      · exact .inr hupserted.represented
      · exact .inl hrest
    · exact .inr (hupserted.represented_of (hapart e he e₀ (hsub (by simp))) hrepresented)

theorem syncSerializedTaskSpecs_eq (subprocess : Option String) (spec : SerializedSpec) :
    syncSerializedTaskSpecs (Ω := Ω) tenantId definitionId subprocess spec.taskSpecs occurredAt =
      Prog.forEach (spec.entries subprocess) (upsertEntry tenantId definitionId occurredAt) := by
  unfold SerializedSpec.entries
  rw [Prog.forEach_map]
  rfl

/-- The sync of a definition is one loop over the specs of the workflow. -/
theorem syncProcessDefinitionFromWorkflow_loop {definition : BpmnProcessDefinition}
    (hdefinition : pi.bpmnProcessDefinitionId.bind s.view.definition? = some definition)
    (h : (syncProcessDefinitionFromWorkflow pi serialized occurredAt).run s = (.ok (), s')) :
    ∃ s₁, Steady s s₁ ∧
      (Prog.forEach serialized.entries (upsertEntry pi.m8fTenantId definition.id occurredAt)).run s₁ = (.ok (), s') := by
  unfold syncProcessDefinitionFromWorkflow at h
  simp only [query, Prog.gets_bind_run, hdefinition, write, Prog.modify_bind_run, syncSerializedTaskSpecs_eq] at h
  rw [← Prog.forEach_flatMap (fun sub : String × SerializedSpec => sub.2.entries (some sub.1)), ← Prog.forEach_append] at h
  refine ⟨_, ?_, h⟩
  exact ⟨rfl, rfl⟩

/-- `_persist_workflow_state` up to the rows of the tasks. -/
def persistBeforeTaskRows (env : Env W Ω) (pi : ProcessInstance) (w : W) (occurredAt : Time) : M Ω Unit := do
  let serializedState ← ofExcept (env.serializeJson w)
  updateInstance pi.id ({ · with workflowEngineVersion := some workflowStateSerializerVersion })
  syncProcessDefinitionFromWorkflow pi (env.toDict w) occurredAt
  syncBpmnProcessFromWorkflow env pi (env.toDict w) serializedState

theorem persistWorkflowState_eq (pi : ProcessInstance) (w : W) (occurredAt : Time) :
    persistWorkflowState env pi w occurredAt = (do
      persistBeforeTaskRows env pi w occurredAt
      syncTaskModelsFromWorkflow env pi (env.toDict w) occurredAt
      syncIntermediateTimerSchedulerJob env pi w occurredAt) := by
  unfold persistWorkflowState persistBeforeTaskRows
  simp only [Prog.bind_assoc]

theorem persistBeforeTaskRows_loop {definition : BpmnProcessDefinition}
    (hdefinition : pi.bpmnProcessDefinitionId.bind s.view.definition? = some definition)
    (h : (persistBeforeTaskRows env pi w occurredAt).run s = (.ok (), s')) :
    ∃ s₁ s₂, Steady s s₁ ∧
      (Prog.forEach (env.toDict w).entries (upsertEntry pi.m8fTenantId definition.id occurredAt)).run s₁ = (.ok (), s₂) ∧
      Steady s₂ s' := by
  obtain ⟨state, s₁, hstate, h₁⟩ := Prog.bind_ok.1 h
  obtain rfl : s₁ = s := (ofExcept_readOnly _).state hstate
  obtain ⟨_, s₂, hversion, h₂⟩ := Prog.bind_ok.1 h₁
  obtain ⟨_, s₃, hsync, hprocess⟩ := Prog.bind_ok.1 h₂
  have hsame : pi.bpmnProcessDefinitionId.bind s₂.view.definition? = some definition := by
    obtain ⟨-, rfl⟩ := Prod.mk.inj hversion
    exact hdefinition
  obtain ⟨s₂', hsteady, hloop⟩ := syncProcessDefinitionFromWorkflow_loop hsame hsync
  exact ⟨s₂', s₃, frame_steady.trans ((updateInstance_steady _ _).of_ok hversion) hsteady, hloop,
    (syncBpmnProcessFromWorkflow_steady _ _).of_ok hprocess⟩

end

/-! ## The rows of a save -/

/-- The name of the spec of a serialized task. -/
def payloadSpec (payload : Dict) : Option String := (payload.get "task_spec").bind PyVal.asStr

/-- The identifier `_iter_serialized_task_rows` gives to a serialized task. -/
def rowIdentifier (r : Guid × Option String × Dict) : String :=
  qualifiedTaskIdentifier r.2.1 ((payloadSpec r.2.2).getD "")

theorem serializedTaskRows_eq {l : List (Guid × Option String × Dict)} (h : ∀ r ∈ l, payloadSpec r.2.2 ≠ none) :
    serializedTaskRows l = .ok (l.map fun r => (rowIdentifier r, r.2.2)) := by
  induction l with
  | nil => rfl
  | cons r l ih =>
    obtain ⟨guid, subprocess, payload⟩ := r
    obtain ⟨name, hname⟩ := Option.ne_none_iff_exists'.1 (h (guid, subprocess, payload) (by simp))
    have hget : (payload.get "task_spec").bind PyVal.asStr = some name := hname
    unfold serializedTaskRows
    rw [hget, ih fun r hr => h r (by simp [hr])]
    simp [Except.map, rowIdentifier, payloadSpec, hget]

/-- The spec is the one a serialized task names. -/
def TaskSpecEntry.SpecOf (e : TaskSpecEntry) (r : Guid × Option String × Dict) : Prop :=
  e.subprocess = r.2.1 ∧ payloadSpec r.2.2 = some e.name

theorem TaskSpecEntry.SpecOf.identifier {e : TaskSpecEntry} {r : Guid × Option String × Dict} (h : e.SpecOf r) :
    rowIdentifier r = e.identifier := by
  unfold rowIdentifier TaskSpecEntry.identifier
  rw [h.1, h.2, Option.getD_some]

section
variable {W Ω : Type} (env : Env W Ω)

/-- The serializer lists the specs of a workflow by name, each task once and with
its spec, and gives a spec the same form in the workflow and on its own. -/
structure Env.Specifies : Prop where
  keyed : ∀ w, (env.toDict w).Keyed
  row_guids : ∀ w, ((iterSerializedTaskRows (env.toDict w)).map fun r => payloadGuid r.2.2).Nodup
  row_spec : ∀ {w r}, r ∈ iterSerializedTaskRows (env.toDict w) → ∃ e ∈ (env.toDict w).entries, e.SpecOf r
  task_row : ∀ {w t}, t ∈ env.tasks w → ∃ r ∈ iterSerializedTaskRows (env.toDict w),
    payloadGuid r.2.2 = payloadGuid t.payload ∧ r.2.1 = t.subprocess ∧ payloadSpec r.2.2 = some t.specName
  task_spec : ∀ {w t}, t ∈ env.tasks w → ∃ e ∈ (env.toDict w).entries,
    e.subprocess = t.subprocess ∧ e.name = t.specName ∧ e.payload = t.specPayload

end

section
variable {W Ω : Type} {env : Env W Ω} {tenantId : TenantId} {definitionId : Nat} {d : TaskDefinition}
  {l : List (Guid × Option String × Dict)} {r : Guid × Option String × Dict} {guid : Guid} {db db' : Db}
  {occurredAt : Time} {s s' : Tx Ω} {pi : ProcessInstance} {w : W}

/-- The row of a serialized task points at a row under the task's identifier. -/
def RowPointed (tenantId : TenantId) (definitionId : Nat) (r : Guid × Option String × Dict) (db : Db) : Prop :=
  ∃ guid, payloadGuid r.2.2 = some guid ∧ Pointed tenantId definitionId (rowIdentifier r) guid db

/-- An upsert of the task points its row, and unpoints none of the others. -/
theorem upsertTaskModelFromPayload_rowPointed {payload : Dict} (hnodup : (l.map fun r => payloadGuid r.2.2).Nodup) (hr : r ∈ l)
    (hguid : payloadGuid r.2.2 = payloadGuid payload) (hd : d ∈ s.view.definitionsOf tenantId definitionId (rowIdentifier r))
    (h : (upsertTaskModelFromPayload env pi d payload occurredAt).run s = (.ok guid, s')) :
    RowPointed tenantId definitionId r s'.view ∧
      ∀ r' ∈ l, RowPointed tenantId definitionId r' s.view → RowPointed tenantId definitionId r' s'.view := by
  obtain ⟨hpointed, hothers⟩ := upsertTaskModelFromPayload_pointed hd h
  have hrow : payloadGuid r.2.2 = some guid := hguid.trans (upsertTaskModelFromPayload_guid h)
  refine ⟨⟨guid, hrow, hpointed⟩, ?_⟩
  rintro r' hr' ⟨guid', hguid', hpointed'⟩
  by_cases heq : guid' = guid
  · subst heq
    obtain rfl := List.inj_on_of_nodup_map hnodup hr' hr (hguid'.trans hrow.symm)
    exact ⟨guid', hrow, hpointed⟩
  · exact ⟨guid', hguid', hothers _ guid' heq hpointed'⟩

/-- After the sync of the task models, every row points at its identifier. -/
theorem syncTaskModelsFromWorkflow_pointed (henv : env.Specifies) (hid : pi.bpmnProcessDefinitionId = some definitionId)
    (h : (syncTaskModelsFromWorkflow env pi (env.toDict w) occurredAt).run s = (.ok (), s')) :
    s'.view.taskDefinitions = s.view.taskDefinitions ∧
      ∀ r ∈ iterSerializedTaskRows (env.toDict w), RowPointed pi.m8fTenantId definitionId r s'.view := by
  have hspec : ∀ r ∈ iterSerializedTaskRows (env.toDict w), payloadSpec r.2.2 ≠ none := by
    intro r hr
    obtain ⟨e, -, -, hname⟩ := henv.row_spec hr
    simp [hname]
  unfold syncTaskModelsFromWorkflow at h
  rw [hid, Prog.orRaise_some, Prog.pure_bind] at h
  simp only [query, Prog.gets_bind_run, serializedTaskRows_eq hspec, ofExcept, Prog.pure_bind] at h
  split at h
  · simp at h
  · rw [Prog.forEach_map] at h
    -- What is still to come lists every task whose row does not point yet.
    have hend := Prog.yields_forEach (I := fun rest (s₁ : Tx Ω) => rest ⊆ iterSerializedTaskRows (env.toDict w) ∧
      s₁.view.taskDefinitions = s.view.taskDefinitions ∧
      ∀ r ∈ iterSerializedTaskRows (env.toDict w), r ∈ rest ∨ RowPointed pi.m8fTenantId definitionId r s₁.view)
      ?_ s () s' ⟨List.Subset.refl _, rfl, fun r hr => .inl hr⟩ h
    · exact ⟨hend.2.1, fun r hr => (hend.2.2 r hr).resolve_left (by simp)⟩
    · rintro r₀ rest s₁ u s₂ ⟨hsub, hsame, hI⟩ hrun
      obtain ⟨d, s₃, hd, hrun⟩ := Prog.bind_ok.1 hrun
      obtain ⟨hfound, rfl⟩ := Prog.orRaise_ok.1 hd
      obtain ⟨guid, s₄, hupsert, hend⟩ := Prog.bind_ok.1 hrun
      obtain ⟨-, rfl⟩ := Prog.pure_ok.1 hend
      have hmem : d ∈ s₁.view.definitionsOf pi.m8fTenantId definitionId (rowIdentifier r₀) := by
        obtain ⟨hin, hkey⟩ := List.mem_filter.1 (List.mem_of_find?_eq_some hfound)
        have hidentifier := List.find?_some hfound
        rw [definitionsOf_congr hsame]
        refine List.mem_filter.2 ⟨hin, ?_⟩
        rw [hkey, hidentifier]
        rfl
      obtain ⟨hpointed, hothers⟩ := upsertTaskModelFromPayload_rowPointed (henv.row_guids w) (hsub (by simp)) rfl hmem hupsert
      refine ⟨fun r hr => hsub (by simp [hr]), ((upsertTaskModelFromPayload_definitions d _).of_ok hupsert).trans hsame,
        fun r hr => ?_⟩
      rcases hI r hr with hmem | hr'
      · rcases List.mem_cons.1 hmem with rfl | hrest
        · exact .inr hpointed
        · exact .inl hrest
      · exact .inr (hothers r hr hr')

end

/-! ## The tasks a person can work on -/

section
variable {W Ω : Type} {env : Env W Ω} {definitionId : Nat} {occurredAt : Time} {s s' : Tx Ω} {pi : ProcessInstance} {w : W}
  {t : SpiffTask}

/-- Such a task has its definition and its row upserted, under the identifier
computed from the live task. -/
theorem materializeSingleManualTask_upserts (h : (materializeSingleManualTask env pi t occurredAt).run s = (.ok (), s')) :
    ∃ definitionId identifier d guid s₁ s₂, pi.bpmnProcessDefinitionId = some definitionId ∧ t.taskIdentifier = .ok identifier ∧
      (upsertTaskDefinitionFromPayload pi.m8fTenantId definitionId identifier
        (t.specPayload.set "__m8f_task_identifier" (.str t.specName)) occurredAt).run s = (.ok d, s₁) ∧
      (upsertTaskModelFromPayload env pi d t.payload occurredAt).run s₁ = (.ok guid, s₂) ∧ Steady s₂ s' := by
  unfold materializeSingleManualTask at h
  simp only [query, Prog.gets_bind_run] at h
  obtain ⟨_, s₀, hprocess, h₀⟩ := Prog.bind_ok.1 h
  obtain ⟨-, rfl⟩ := Prog.orRaise_ok.1 hprocess
  obtain ⟨definitionId, s₀, hdefinition, h₁⟩ := Prog.bind_ok.1 h₀
  obtain ⟨hid, rfl⟩ := Prog.orRaise_ok.1 hdefinition
  split at h₁
  · simp at h₁
  · rename_i hname
    obtain ⟨d, s₁, hd, h₂⟩ := Prog.bind_ok.1 h₁
    obtain ⟨guid, s₂, hguid, h₃⟩ := Prog.bind_ok.1 h₂
    refine ⟨definitionId, _, d, guid, s₁, s₂, hid, if_neg hname, hd, hguid, ?_⟩
    have hrest : Prog.Keeps Steady (do
        let workItemId ← upsertWorkItem pi guid occurredAt
        let properties ← query fun db => (pi.bpmnProcessDefinitionId.bind db.definition?).map (·.propertiesJson)
        assignWorkItemPotentialOwners env pi workItemId t.lane t.data properties
        upsertFutureTask pi.m8fTenantId t.id occurredAt : M Ω Unit) := by
      refine Prog.keeps_bind frame_steady (upsertWorkItem_steady _ _ _) fun workItemId => ?_
      refine Prog.keeps_bind frame_steady (query_steady _) fun properties => ?_
      exact Prog.keeps_bind frame_steady (assignWorkItemPotentialOwners_steady _ _ _ _ _) fun _ => upsertFutureTask_steady _ _ _
    exact hrest.of_ok h₃

/-- The definitions and the rows of the workflow are its own. -/
structure Arranged (env : Env W Ω) (pi : ProcessInstance) (definitionId : Nat) (w : W) (db : Db) : Prop where
  represented : ∀ e ∈ (env.toDict w).entries, Represented pi.m8fTenantId definitionId e db
  pointed : ∀ r ∈ iterSerializedTaskRows (env.toDict w), RowPointed pi.m8fTenantId definitionId r db

theorem Steady.arranged (h : Steady s s') (harranged : Arranged env pi definitionId w s.view) : Arranged env pi definitionId w s'.view := by
  refine ⟨fun e he => (harranged.represented e he).congr h.definitions, fun r hr => ?_⟩
  obtain ⟨guid, hguid, hpointed⟩ := harranged.pointed r hr
  exact ⟨guid, hguid, hpointed.congr h.definitions (h.task? guid)⟩

/-- The specs have identifiers of their own, and a task a person can work on that
of its spec. -/
structure Env.Distinguishes (env : Env W Ω) (w : W) : Prop where
  apart : ∀ e ∈ (env.toDict w).entries, ∀ e' ∈ (env.toDict w).entries, e.identifier = e'.identifier → e = e'
  live : ∀ t ∈ env.readyManualTasks w, ∀ e ∈ (env.toDict w).entries, e.subprocess = t.subprocess → e.name = t.specName →
    t.taskIdentifier = .ok e.identifier

theorem materializeSingleManualTask_arranged (henv : env.Specifies) (hdist : env.Distinguishes w) (ht : t ∈ env.readyManualTasks w)
    (hid : pi.bpmnProcessDefinitionId = some definitionId)
    (h : (materializeSingleManualTask env pi t occurredAt).run s = (.ok (), s'))
    (harranged : Arranged env pi definitionId w s.view) : Arranged env pi definitionId w s'.view := by
  obtain ⟨_, identifier, d, guid, s₁, s₂, hid', hidentifier, hd, hguid, hsteady⟩ := materializeSingleManualTask_upserts h
  obtain rfl := Option.some.inj (hid.symm.trans hid')
  refine hsteady.arranged ?_
  obtain ⟨htask, -⟩ := List.mem_filter.1 ht
  obtain ⟨e, he, hsub, hname, hpayload⟩ := henv.task_spec htask
  obtain ⟨r, hr, hrguid, hrsub, hrname⟩ := henv.task_row htask
  obtain rfl : e.identifier = identifier := Except.ok.inj ((hdist.live t ht e he hsub hname).symm.trans hidentifier)
  have hof : e.SpecOf r := ⟨hsub.trans hrsub.symm, hrname.trans (congrArg some hname.symm)⟩
  have hproperties : t.specPayload.set "__m8f_task_identifier" (.str t.specName) = e.properties := by
    rw [TaskSpecEntry.properties, hpayload, hname]
  rw [hproperties] at hd
  have hupserted := upsertTaskDefinition_upserted hd
  have hmem : d ∈ s₁.view.definitionsOf pi.m8fTenantId definitionId (rowIdentifier r) := by
    rw [hof.identifier]
    exact hupserted.mem
  have hsame := (upsertTaskModelFromPayload_definitions d _).of_ok hguid
  obtain ⟨-, hothers⟩ := upsertTaskModelFromPayload_rowPointed (henv.row_guids w) hr hrguid hmem hguid
  refine ⟨fun e' he' => ?_, fun r' hr' => hothers r' hr' ?_⟩
  · exact (hupserted.represented_of (hdist.apart e' he' e he) (harranged.represented e' he')).congr hsame
  · obtain ⟨guid', hguid', hpointed⟩ := harranged.pointed r' hr'
    exact ⟨guid', hguid', hupserted.pointed hpointed⟩

theorem materializeReadyManualTasks_arranged (henv : env.Specifies) (hdist : env.Distinguishes w)
    (hid : pi.bpmnProcessDefinitionId = some definitionId)
    (h : (materializeReadyManualTasks env pi w occurredAt).run s = (.ok (), s'))
    (harranged : Arranged env pi definitionId w s.view) : Arranged env pi definitionId w s'.view := by
  unfold materializeReadyManualTasks at h
  simp only [query, Prog.gets_bind_run] at h
  have hend := Prog.yields_forEach (I := fun rest (s : Tx Ω) => rest ⊆ env.readyManualTasks w ∧ Arranged env pi definitionId w s.view)
    ?_ s () s' ⟨fun t ht => (List.mem_filter.1 ht).1, harranged⟩ h
  · exact hend.2
  · rintro t rest s₁ u s₂ ⟨hsub, hm⟩ hstep
    exact ⟨fun t' ht' => hsub (by simp [ht']), materializeSingleManualTask_arranged henv hdist (hsub (by simp)) hid hstep hm⟩

/-! ## The whole save -/

theorem persistWorkflowState_arranged (henv : env.Specifies) (hdist : env.Distinguishes w) {definition : BpmnProcessDefinition}
    (hdefinition : pi.bpmnProcessDefinitionId.bind s.view.definition? = some definition)
    (h : (persistWorkflowState env pi w occurredAt).run s = (.ok (), s')) : Arranged env pi definition.id w s'.view := by
  rw [persistWorkflowState_eq] at h
  obtain ⟨_, s₁, hbefore, h₁⟩ := Prog.bind_ok.1 h
  obtain ⟨_, s₂, htasks, hjob⟩ := Prog.bind_ok.1 h₁
  obtain ⟨s₃, s₄, -, hloop, hsteady⟩ := persistBeforeTaskRows_loop hdefinition hbefore
  obtain ⟨hsame, hpointed⟩ := syncTaskModelsFromWorkflow_pointed henv (definition_found hdefinition) htasks
  refine ((syncIntermediateTimerSchedulerJob_steady _ _ _).of_ok hjob).arranged ⟨fun e he => ?_, hpointed⟩
  exact (forEach_upsertEntry_represented hdist.apart hloop e he).congr (hsame.trans hsteady.definitions)

theorem saveWorkflow_arranged (henv : env.Specifies) (hdist : env.Distinguishes w) {definition : BpmnProcessDefinition}
    (hdefinition : pi.bpmnProcessDefinitionId.bind s.view.definition? = some definition) {starting : Bool}
    (h : (saveWorkflow env pi w occurredAt starting).run s = (.ok (), s')) : Arranged env pi definition.id w s'.view := by
  unfold saveWorkflow at h
  obtain ⟨_, s₁, hpersist, h₁⟩ := Prog.bind_ok.1 h
  obtain ⟨_, s₂, hinactive, h₂⟩ := Prog.bind_ok.1 h₁
  obtain ⟨_, s₃, hready, h₃⟩ := Prog.bind_ok.1 h₂
  have hstart : Prog.Keeps Steady (do
      if starting then updateInstance pi.id ({ · with startedAt := some occurredAt }) else pure ()
      updateProcessInstanceStatusFromWorkflow env pi w occurredAt : M Ω Unit) := by
    have hstatus : (updateProcessInstanceStatusFromWorkflow env pi w occurredAt).Keeps Steady :=
      updateProcessInstanceStatusFromWorkflow_steady _ _ _
    cases starting with
    | true => exact Prog.keeps_bind frame_steady (updateInstance_steady _ _) fun _ => hstatus
    | false => exact hstatus
  have harranged₁ := persistWorkflowState_arranged henv hdist hdefinition hpersist
  have harranged₂ := ((syncInactiveWorkItems_steady _ _ _).of_ok hinactive).arranged harranged₁
  exact (hstart.of_ok h₃).arranged (materializeReadyManualTasks_arranged henv hdist (definition_found hdefinition) hready harranged₂)

end

end M8flowCore
