import M8flowCore.Slices
/-!
# What a save leaves

After a save that returns, the stored snapshot is the workflow's, every task
row has its task's state, the instance's open items are those of the ready
manual tasks, unclaimed, and the status is the workflow's.
-/
open M8flowCore.Lib M8flowCore.Session

namespace M8flowCore

section
variable {W Ω : Type} {env : Env W Ω} {owner : Guid → Nat} {F : Focus} {l : Touch} {L : List Touch} {s s' : Tx Ω}
  {pi : ProcessInstance} {w : W}

/-! ## Tables a change leaves alone -/

theorem Change.tasks (hl : l ≠ .task) (hc : Change env F l s s') : s'.view.tasks = s.view.tasks := by
  cases hc with
  | shared hdb => exact hdb.tasks
  | task => exact absurd rfl hl
  | newTask => exact absurd rfl hl
  | _ => rfl

theorem tasks_of_steps (hL : Touch.task ∉ L) (h : Steps (Change env F) L s s') : s'.view.tasks = s.view.tasks :=
  Steps.keeps (R := fun s s' : Tx Ω => s'.view.tasks = s.view.tasks) ⟨fun _ => rfl, fun h₁ h₂ => h₂.trans h₁⟩
    (fun _ hl _ _ hc => hc.tasks (by rintro rfl; exact hL hl)) h

theorem Change.workItems (hitem : l ≠ .item) (hnew : l ≠ .newItem) (hlane : l ≠ .lane) (hc : Change env F l s s') :
    s'.view.workItems = s.view.workItems := by
  cases hc with
  | shared hdb => exact hdb.workItems
  | item => exact absurd rfl hitem
  | newItem => exact absurd rfl hnew
  | lane => exact absurd rfl hlane
  | _ => rfl

theorem workItems_of_steps (hitem : Touch.item ∉ L) (hnew : Touch.newItem ∉ L) (hlane : Touch.lane ∉ L)
    (h : Steps (Change env F) L s s') : s'.view.workItems = s.view.workItems :=
  Steps.keeps (R := fun s s' : Tx Ω => s'.view.workItems = s.view.workItems) ⟨fun _ => rfl, fun h₁ h₂ => h₂.trans h₁⟩
    (fun _ hl _ _ hc => hc.workItems (by rintro rfl; exact hitem hl) (by rintro rfl; exact hnew hl)
      (by rintro rfl; exact hlane hl)) h

theorem Change.schedulerJobs (hjob : l ≠ .job) (hstart : l ≠ .startJob) (hlock : l ≠ .lock)
    (hc : Change env F l s s') : s'.view.schedulerJobs = s.view.schedulerJobs := by
  cases hc with
  | shared hdb => exact hdb.schedulerJobs
  | job => exact absurd rfl hjob
  | startJob => exact absurd rfl hstart
  | lock => exact absurd rfl hlock
  | _ => rfl

theorem schedulerJobs_of_steps (hjob : Touch.job ∉ L) (hstart : Touch.startJob ∉ L) (hlock : Touch.lock ∉ L)
    (h : Steps (Change env F) L s s') : s'.view.schedulerJobs = s.view.schedulerJobs :=
  Steps.keeps (R := fun s s' : Tx Ω => s'.view.schedulerJobs = s.view.schedulerJobs)
    ⟨fun _ => rfl, fun h₁ h₂ => h₂.trans h₁⟩ (fun _ hl _ _ hc => hc.schedulerJobs (by rintro rfl; exact hjob hl)
      (by rintro rfl; exact hstart hl) (by rintro rfl; exact hlock hl)) h

/-! ## The snapshot -/

/-- A row of the instance is in the session's copy. -/
def Present (pi : ProcessInstance) (s : Tx Ω) : Prop := ∃ p ∈ s.view.processInstances, p.identity = pi.identity

theorem Present.change (hc : Change env F l s s') (h : Present pi s) : Present pi s' := by
  obtain ⟨p, hp, hid⟩ := h
  have hupdate : ∀ f : ProcessInstance → ProcessInstance, (∀ p, (f p).identity = p.identity) →
      ∃ p' ∈ updateWhere (fun p => p.id == F.instanceId) f s.view.processInstances, p'.identity = pi.identity := by
    intro f hf
    refine ⟨_, mem_updateWhere.2 ⟨p, hp, rfl⟩, ?_⟩
    split
    · exact (hf p).trans hid
    · exact hid
  cases hc with
  | shared hdb => exact ⟨p, by rw [hdb.processInstances]; exact hp, hid⟩
  | details _ f hf => exact hupdate f fun p => (hf p).1
  | status _ f hf => exact hupdate f hf
  | newInstance => exact ⟨p, List.mem_append_left _ hp, hid⟩
  | _ => exact ⟨p, hp, hid⟩

theorem Present.steps (hsteps : Steps (Change env F) L s s') (h : Present pi s) : Present pi s' :=
  hsteps.inv (fun _ _ _ _ hc => Present.change hc) h

theorem Present.fits (h : Present pi s) : (pi.focusOn owner).Fits owner s := by
  obtain ⟨p, hp, hid⟩ := h
  exact ⟨fun _ hg => hg, p.identity, mem_instanceIds.2 ⟨s.view, by simp, p, hp, rfl⟩,
    congrArg InstanceIdentity.id hid, congrArg InstanceIdentity.tenantId hid, congrArg InstanceIdentity.processId hid⟩

/-- An instance's runtime process is there, and is of its tenant. -/
theorem Sound.process (h : Sound env owner s) (hpi : Present pi s) {q : Nat} (hq : pi.bpmnProcessId = some q) :
    ∃ process, s.view.bpmnProcess? q = some process ∧ process.id = q ∧ process.m8fTenantId = pi.m8fTenantId := by
  obtain ⟨p, hp, hid⟩ := hpi
  have hpq : p.bpmnProcessId = some q := (congrArg InstanceIdentity.processId hid).trans hq
  obtain ⟨process, hprocess⟩ := Option.isSome_iff_exists.1 (h.integral.stored.has_process s.view (by simp) p hp q hpq)
  have hpid : process.id = q := by simpa using List.find?_some hprocess
  refine ⟨process, hprocess, hpid, ?_⟩
  have htenant := h.integral.keyed.process_tenant process.identity
    (mem_processIds.2 ⟨s.view, by simp, process, List.mem_of_find?_eq_some hprocess, rfl⟩) p.identity
    (mem_instanceIds.2 ⟨s.view, by simp, p, hp, rfl⟩) (hpq.trans (congrArg some hpid.symm))
  exact htenant.trans (congrArg InstanceIdentity.tenantId hid)

theorem jsonData?_putJsonData_self (db : Db) (tenantId : TenantId) (hash : String) (data : Dict) :
    ∃ row, (db.putJsonData tenantId hash data).jsonData? tenantId hash = some row ∧ row.data = data := by
  unfold Db.putJsonData Db.jsonData?
  split
  · rename_i h
    obtain ⟨r, hr⟩ := Option.isSome_iff_exists.1 h
    dsimp only
    rw [find?_updateWhere (by intro _ _ _; rfl), hr]
    have hmatch := List.find?_some hr
    refine ⟨_, rfl, ?_⟩
    dsimp only
    rw [if_pos hmatch]
  · rename_i h
    rw [Option.not_isSome_iff_eq_none] at h
    dsimp only
    rw [find?_append_of_none h]
    exact ⟨⟨tenantId, hash, data⟩, by simp, rfl⟩

/-- The stored snapshot is the one given, when the instance has a process. -/
theorem syncBpmnProcess_stores (hlaw : env.Lawful) (h : Sound env owner s) (hpi : Present pi s) {q : Nat}
    (hq : pi.bpmnProcessId = some q) {serialized : SerializedWorkflow} {state : String}
    (hrun : (syncBpmnProcessFromWorkflow env pi serialized state).run s = (.ok (), s')) :
    s'.view.workflowStateJson pi = some state := by
  obtain ⟨process, hprocess, hpid, htenant⟩ := h.process hpi hq
  unfold syncBpmnProcessFromWorkflow createOrUpdateFromPayload Env.hashPayload at hrun
  simp only [query, Prog.gets_bind_run, hq, Option.bind_some, hprocess] at hrun
  cases hdata : env.normalizedPayload (serialized.data.set workflowStateJsonDataKey (.str state)) with
  | error e => simp [hdata, Except.map, ofExcept] at hrun
  | ok data =>
    simp only [hdata, Except.map, ofExcept, Prog.pure_bind, write, Prog.bind_assoc, Prog.modify_bind_run, Prog.modify_run,
      Prod.mk.injEq] at hrun
    rw [← hrun.2]
    obtain ⟨row, hrow, hrowdata⟩ := jsonData?_putJsonData_self s.view pi.m8fTenantId (env.payloadDigest data) data
    have hfound : ((s.view.putJsonData pi.m8fTenantId (env.payloadDigest data) data).updateBpmnProcess process.id
        fun p => { p with propertiesJson := serialized.properties, jsonDataHash := env.payloadDigest data }).bpmnProcess? q =
          some { process with propertiesJson := serialized.properties, jsonDataHash := env.payloadDigest data } := by
      rw [bpmnProcess?_updateBpmnProcess (by intro _; rfl)]
      have hsame : (s.view.putJsonData pi.m8fTenantId (env.payloadDigest data) data).bpmnProcess? q = some process := hprocess
      rw [hsame]
      simp
    have hsnapshot := hlaw.normalized_str hdata (Dict.get_set_self serialized.data workflowStateJsonDataKey (.str state))
    have hjson : ((s.view.putJsonData pi.m8fTenantId (env.payloadDigest data) data).updateBpmnProcess process.id
        fun p => { p with propertiesJson := serialized.properties, jsonDataHash := env.payloadDigest data }).jsonData?
          pi.m8fTenantId (env.payloadDigest data) = some row := hrow
    simp only [Db.workflowStateJson, hq, hfound, Db.snapshotOf, htenant, hjson, hrowdata, hsnapshot, bind, Option.bind_some,
      PyVal.asStr]

/-- A stored snapshot stays until the next one. -/
theorem Sound.keeps_state (hlaw : env.Lawful) (hF : F.Fits owner s) (h : Sound env owner s) (hpi : Present pi s)
    (hL : Touch.snapshot ∈ L → F.processId ≠ pi.bpmnProcessId) (hsteps : Steps (Change env F) L s s') :
    s'.view.workflowStateJson pi = s.view.workflowStateJson pi := by
  have hall := h.along (P := fun s₁ => Present pi s₁ ∧ s₁.view.workflowStateJson pi = s.view.workflowStateJson pi)
    hlaw hF hsteps ?_ ⟨hpi, rfl⟩
  · exact hall.2
  · rintro l hl s₁ s₂ hc h₁ - ⟨hpi₁, hstate₁⟩
    refine ⟨hpi₁.change hc, ?_⟩
    rw [hc.workflowStateJson hlaw h₁ (fun q hq => ?_) (by rintro rfl; exact hL hl), hstate₁]
    obtain ⟨process, hprocess, -⟩ := h₁.process hpi₁ hq
    rw [hprocess]
    rfl

theorem Sound.same_state (hlaw : env.Lawful) (hF : F.Fits owner s) (h : Sound env owner s) (hpi : Present pi s)
    (hL : Touch.snapshot ∉ L) (hsteps : Steps (Change env F) L s s') :
    s'.view.workflowStateJson pi = s.view.workflowStateJson pi :=
  h.keeps_state hlaw hF hpi (fun hmem => absurd hmem hL) hsteps

/-! ## Task rows -/

/-- The task's row is there, of the instance and in the task's state. -/
def HasRow (pi : ProcessInstance) (t : SpiffTask) (s : Tx Ω) : Prop :=
  ∃ row, s.view.task? t.id = some row ∧ row.state = .spiff t.state ∧ row.processInstanceId = pi.id

/-- An upsert writes the row of its payload's guid, and no other. -/
theorem upsertTaskModelFromPayload_row {definition : TaskDefinition} {payload : Dict} {occurredAt : Time} {guid : Guid}
    (h : (upsertTaskModelFromPayload env pi definition payload occurredAt).run s = (.ok guid, s')) :
    (∃ row, s'.view.task? guid = some row ∧ row.state = .spiff ((payloadState payload).getD .maybe) ∧
      row.processInstanceId = pi.id ∧ row.taskDefinitionId = definition.id) ∧
      ∀ g, g ≠ guid → s'.view.task? g = s.view.task? g := by
  have hsteps : ∀ {α : Type} {m : M Ω α} {r : Except Error α} {s₁ s₂ : Tx Ω},
      Touches (Change env pi.focus) [.json] m → m.run s₁ = (r, s₂) → s₂.view.tasks = s₁.view.tasks :=
    fun ht hm => tasks_of_steps (by decide) (ht.steps hm)
  have hjson : ∀ data, Touches (Change env pi.focus) [.json] (createOrUpdateFromPayload env pi.m8fTenantId data) :=
    fun data => createOrUpdateFromPayload_touches _ _ (List.Subset.refl _)
  unfold upsertTaskModelFromPayload at h
  obtain ⟨g, s₁, hg, h₁⟩ := Prog.bind_ok.1 h
  obtain ⟨-, rfl⟩ := Prog.orRaise_ok.1 hg
  obtain ⟨jsonHash, s₂, hjsonHash, h₂⟩ := Prog.bind_ok.1 h₁
  obtain ⟨envHash, s₃, henvHash, h₃⟩ := Prog.bind_ok.1 h₂
  obtain ⟨state, s₄, hraise, h₄⟩ := Prog.bind_ok.1 h₃
  obtain ⟨hstate, rfl⟩ := Prog.orRaise_ok.1 hraise
  have htasks : s₃.view.tasks = s.view.tasks := (hsteps (hjson _) henvHash).trans (hsteps (hjson _) hjsonHash)
  have htask : ∀ g, s₃.view.task? g = s.view.task? g := by
    intro g
    unfold Db.task?
    rw [htasks]
  rw [hstate, Option.getD_some]
  simp only [query, Prog.gets_bind_run] at h₄
  cases hfound : s₃.view.task? g with
  | none =>
    simp only [hfound] at h₄
    obtain ⟨processId, s₅, hprocess, h₅⟩ := Prog.bind_ok.1 h₄
    obtain ⟨-, rfl⟩ := Prog.orRaise_ok.1 hprocess
    simp only [write, Prog.modify_bind_run, Prog.pure_run, Prod.mk.injEq, Except.ok.injEq] at h₅
    obtain ⟨rfl, rfl⟩ := h₅
    refine ⟨?_, fun g' hg' => ?_⟩
    · unfold Db.task? at hfound ⊢
      dsimp only
      rw [find?_append_of_none hfound]
      exact ⟨_, List.find?_cons_of_pos (by simp), rfl, rfl, rfl⟩
    · rw [← htask g']
      unfold Db.task?
      simp [List.find?_append, Ne.symm hg']
  | some row =>
    simp only [hfound] at h₄
    simp only [write, Prog.modify_bind_run, Prog.pure_run, Prod.mk.injEq, Except.ok.injEq] at h₄
    obtain ⟨rfl, rfl⟩ := h₄
    refine ⟨?_, fun g' hg' => ?_⟩
    · unfold Db.task? at hfound
      have hmatch := List.find?_some hfound
      unfold Db.updateTask Db.task?
      dsimp only
      rw [find?_updateWhere (by intro _ _ _; rfl), hfound, Option.map_some]
      exact ⟨_, rfl, by rw [if_pos hmatch], by rw [if_pos hmatch], by rw [if_pos hmatch]⟩
    · rw [← htask g']
      refine find?_updateWhere_of_ne fun t _ ht => ?_
      rw [beq_iff_eq] at ht
      simp [ht, Ne.symm hg']

/-- Every task of the workflow has its row. -/
def Rowed (env : Env W Ω) (pi : ProcessInstance) (w : W) (s : Tx Ω) : Prop := ∀ t ∈ env.tasks w, HasRow pi t s

theorem Rowed.steps (hL : Touch.task ∉ L) (hsteps : Steps (Change env F) L s s') (h : Rowed env pi w s) :
    Rowed env pi w s' := by
  intro t ht
  obtain ⟨row, hrow, hstate, hid⟩ := h t ht
  refine ⟨row, ?_, hstate, hid⟩
  unfold Db.task? at hrow ⊢
  rw [tasks_of_steps hL hsteps]
  exact hrow

/-- An upsert of a task's payload writes the task's row. -/
theorem upsertTaskModelFromPayload_hasRow (hser : env.Serializes) {definition : TaskDefinition} {payload : Dict}
    {occurredAt : Time} {guid : Guid} {t₀ : SpiffTask} (ht₀ : t₀ ∈ env.tasks w)
    (hguid : payloadGuid payload = some t₀.id) (hstate : payloadState payload = some t₀.state)
    (h : (upsertTaskModelFromPayload env pi definition payload occurredAt).run s = (.ok guid, s')) {t : SpiffTask}
    (ht : t ∈ env.tasks w) (hrow : t.id = t₀.id ∨ HasRow pi t s) : HasRow pi t s' := by
  obtain rfl : t₀.id = guid := Option.some.inj (hguid.symm.trans (upsertTaskModelFromPayload_guid h))
  obtain ⟨⟨row, hfound, hrowstate, hid, -⟩, hothers⟩ := upsertTaskModelFromPayload_row h
  rw [hstate, Option.getD_some] at hrowstate
  by_cases heq : t.id = t₀.id
  · obtain rfl := List.inj_on_of_nodup_map (hser.task_ids w) ht ht₀ heq
    exact ⟨row, hfound, hrowstate, hid⟩
  · obtain ⟨row', hfound', hkept⟩ := hrow.resolve_left heq
    exact ⟨row', by rw [hothers t.id heq, hfound'], hkept⟩

/-- After the task models are synced, every task has its row. -/
theorem syncTaskModelsFromWorkflow_rowed (hser : env.Serializes) {occurredAt : Time}
    (h : (syncTaskModelsFromWorkflow env pi (env.toDict w) occurredAt).run s = (.ok (), s')) : Rowed env pi w s' := by
  unfold syncTaskModelsFromWorkflow at h
  obtain ⟨definitionId, s₁, hdef, h₁⟩ := Prog.bind_ok.1 h
  obtain ⟨-, rfl⟩ := Prog.orRaise_ok.1 hdef
  simp only [query, Prog.gets_bind_run] at h₁
  cases hrows : serializedTaskRows (iterSerializedTaskRows (env.toDict w)) with
  | error e => simp [hrows, ofExcept] at h₁
  | ok rows =>
    simp only [hrows, ofExcept, Prog.pure_bind] at h₁
    split at h₁
    · simp at h₁
    · have hpayload := serializedTaskRows_payload hrows
      -- What is still to come lists every task whose row is not there yet.
      let I : List (String × Dict) → Tx Ω → Prop := fun rest s =>
        (∀ r ∈ rest, ∃ t ∈ env.tasks w, payloadGuid r.2 = some t.id ∧ payloadState r.2 = some t.state) ∧
        ∀ t ∈ env.tasks w, (∃ r ∈ rest, payloadGuid r.2 = some t.id) ∨ HasRow pi t s
      have hstart : I rows s := by
        refine ⟨fun r hr => ?_, fun t ht => .inl ?_⟩
        · have hmem : r.2 ∈ (iterSerializedTaskRows (env.toDict w)).map (·.2.2) := by
            rw [← hpayload]
            exact List.mem_map_of_mem hr
          obtain ⟨r₀, hr₀, heq⟩ := List.mem_map.1 hmem
          obtain ⟨t, ht, hguid, hstate⟩ := hser.row_task hr₀
          exact ⟨t, ht, heq ▸ hguid, heq ▸ hstate⟩
        · obtain ⟨r₀, hr₀, hguid⟩ := hser.task_row ht
          have hmem : r₀.2.2 ∈ rows.map (·.2) := by
            rw [hpayload]
            exact List.mem_map_of_mem hr₀
          obtain ⟨r, hr, heq⟩ := List.mem_map.1 hmem
          exact ⟨r, hr, heq ▸ hguid⟩
      have hend : I [] s' := by
        refine Prog.yields_forEach (I := I) ?_ s () s' hstart h₁
        rintro r rest s₁ u s₂ ⟨hlist, hall⟩ hrun
        obtain ⟨definition, s₃, hdefinition, hrun⟩ := Prog.bind_ok.1 hrun
        obtain ⟨-, rfl⟩ := Prog.orRaise_ok.1 hdefinition
        obtain ⟨guid, s₄, hupsert, hend⟩ := Prog.bind_ok.1 hrun
        obtain ⟨-, rfl⟩ := Prog.pure_ok.1 hend
        obtain ⟨t₀, ht₀, hguid, hstate⟩ := hlist r (by simp)
        refine ⟨fun r' hr' => hlist r' (by simp [hr']), fun t ht => ?_⟩
        by_cases heq : t.id = t₀.id
        · exact .inr (upsertTaskModelFromPayload_hasRow hser ht₀ hguid hstate hupsert ht (.inl heq))
        · rcases hall t ht with ⟨r', hr', hguid'⟩ | hrow
          · rcases List.mem_cons.1 hr' with rfl | hr'
            · exact absurd (Option.some.inj (hguid'.symm.trans hguid)) heq
            · exact .inl ⟨r', hr', hguid'⟩
          · exact .inr (upsertTaskModelFromPayload_hasRow hser ht₀ hguid hstate hupsert ht (.inr hrow))
      intro t ht
      rcases hend.2 t ht with ⟨r, hr, -⟩ | hrow
      · simp at hr
      · exact hrow

/-- Once every task has its row, the rows agree with the workflow on what is ready. -/
theorem Rowed.currentReadyManualTasks (h : Rowed env pi w s) :
    currentReadyManualTasks env s.view pi.id w = env.readyManualTasks w := by
  refine List.filter_eq_self.2 fun t ht => ?_
  obtain ⟨htask, hready⟩ := List.mem_filter.1 ht
  simp only [Bool.and_eq_true, beq_iff_eq] at hready
  obtain ⟨row, hrow, hstate, hid⟩ := h t htask
  simp [hrow, hstate, hid, hready.1]

/-! ## Work items -/

theorem Change.unlaned (hitem : l ≠ .item) (hnew : l ≠ .newItem) (hc : Change env F l s s') :
    s'.view.workItems.map (·.unlaned) = s.view.workItems.map (·.unlaned) := by
  cases hc with
  | shared hdb => rw [hdb.workItems]
  | item => exact absurd rfl hitem
  | newItem => exact absurd rfl hnew
  | lane => exact map_updateWhere (by intro _; rfl)
  | _ => rfl

theorem unlaned_of_steps (hitem : Touch.item ∉ L) (hnew : Touch.newItem ∉ L) (h : Steps (Change env F) L s s') :
    s'.view.workItems.map (·.unlaned) = s.view.workItems.map (·.unlaned) :=
  Steps.keeps (R := fun s s' : Tx Ω => s'.view.workItems.map (·.unlaned) = s.view.workItems.map (·.unlaned))
    ⟨fun _ => rfl, fun h₁ h₂ => h₂.trans h₁⟩
    (fun _ hl _ _ hc => hc.unlaned (by rintro rfl; exact hitem hl) (by rintro rfl; exact hnew hl)) h

/-- The instance's open items are of the tasks listed. -/
def OpenOnly (pi : ProcessInstance) (guids : List Guid) (s : Tx Ω) : Prop :=
  ∀ item ∈ s.view.workItems, item.processInstanceId = pi.id → item.completed = false → ∃ g ∈ guids, item.taskGuid = some g

theorem closeInactiveWorkItem_items (env : Env W Ω) {item : WorkItem} {taskState : Option TaskModelState} {occurredAt : Time}
    {r : Except Error Unit} (h : (closeInactiveWorkItem pi item taskState occurredAt).run s = (r, s')) :
    s'.view.workItems = (s.view.updateWorkItem item fun w =>
      w.close (inactiveWorkItemStatus taskState) occurredAt none).workItems := by
  unfold closeInactiveWorkItem at h
  simp only [write, Prog.modify_bind_run] at h
  have hcomplete : Touches (Change env pi.focus) [.shared, .seq, .note]
      (completeFutureTask (Ω := Ω) item.taskGuid occurredAt) :=
    write_shared (by decide) fun _ => ⟨rfl, rfl, rfl, rfl, rfl, rfl, rfl⟩
  cases htype : inactiveWorkItemEventType taskState with
  | none =>
    rw [htype] at h
    exact workItems_of_steps (by decide) (by decide) (by decide) ((hcomplete.bind fun _ => .pure _).steps h)
  | some eventType =>
    rw [htype] at h
    have hnote := inactiveWorkItemEventType_note htype
    exact workItems_of_steps (by decide) (by decide) (by decide) ((hcomplete.bind fun _ =>
      recordProcessInstanceEvent_notes _ pi.focus_of.id hnote _ _ _ (by decide)).steps h)

/-- The items of an instance are of its tenant. -/
theorem Sound.item_tenant (h : Sound env owner s) (hpi : Present pi s) {item : WorkItem} (hitem : item ∈ s.view.workItems)
    (hid : item.processInstanceId = pi.id) : item.m8fTenantId = pi.m8fTenantId := by
  obtain ⟨p, hp, hidentity⟩ := hpi
  have htenant := h.integral.keyed.item_tenant item.identity (mem_itemIds.2 ⟨s.view, by simp, item, hitem, rfl⟩) p.identity
    (mem_instanceIds.2 ⟨s.view, by simp, p, hp, rfl⟩) ((congrArg InstanceIdentity.id hidentity).trans hid.symm)
  exact htenant.symm.trans (congrArg InstanceIdentity.tenantId hidentity)

/-- After the inactive items are closed, only items of ready tasks are open. -/
theorem syncInactiveWorkItems_openOnly
    (htenant : ∀ item ∈ s.view.workItems, item.processInstanceId = pi.id → item.m8fTenantId = pi.m8fTenantId)
    {occurredAt : Time} (h : (syncInactiveWorkItems env pi w occurredAt).run s = (.ok (), s')) :
    OpenOnly pi ((currentReadyManualTasks env s.view pi.id w).map (·.id)) s' := by
  unfold syncInactiveWorkItems at h
  simp only [query, Prog.gets_bind_run] at h
  generalize hready : (currentReadyManualTasks env s.view pi.id w).map (·.id) = ready at h ⊢
  -- An open item is of a ready task, or is still to be looked at.
  let I : List WorkItem → Tx Ω → Prop := fun rest s₁ => ∀ item ∈ s₁.view.workItems, item.processInstanceId = pi.id →
    item.completed = false → (∃ g ∈ ready, item.taskGuid = some g) ∨ ∃ r ∈ rest, r.identity = item.identity
  have hstart : I (s.view.workItems.filter fun item =>
      item.m8fTenantId == pi.m8fTenantId && item.processInstanceId == pi.id && !item.completed) s := by
    intro item hitem hid hopen
    exact .inr ⟨item, List.mem_filter.2 ⟨hitem, by simp [htenant item hitem hid, hid, hopen]⟩, rfl⟩
  have hend : I [] s' := by
    refine Prog.yields_forEach (I := I) ?_ s () s' hstart h
    intro x rest s₁ u s₂ hI hrun
    simp only [Prog.gets_bind_run] at hrun
    split at hrun
    · have hitems := closeInactiveWorkItem_items env hrun
      intro item hitem hid hopen
      rw [hitems] at hitem
      obtain ⟨item₀, hitem₀, heq⟩ := mem_updateWhere.1 hitem
      split at heq
      · rw [heq] at hopen
        simp [WorkItem.close] at hopen
      · rename_i hne
        subst heq
        rcases hI item hitem₀ hid hopen with hguid | ⟨r, hr, hidentity⟩
        · exact .inl hguid
        · rcases List.mem_cons.1 hr with rfl | hr
          · have hitemid : r.id = item.id := congrArg ItemIdentity.id hidentity
            have hinstance : r.processInstanceId = item.processInstanceId := congrArg ItemIdentity.instanceId hidentity
            simp [hitemid, hinstance] at hne
          · exact .inr ⟨r, hr, hidentity⟩
    · rename_i hactive
      obtain ⟨-, rfl⟩ := Prog.pure_ok.1 hrun
      intro item hitem hid hopen
      rcases hI item hitem hid hopen with hguid | ⟨r, hr, hidentity⟩
      · exact .inl hguid
      · rcases List.mem_cons.1 hr with rfl | hr
        · left
          unfold isInactive at hactive
          simp only [Bool.or_eq_true, Bool.not_eq_true', not_or, Bool.not_eq_false] at hactive
          have hguid : r.taskGuid = item.taskGuid := congrArg ItemIdentity.taskGuid hidentity
          rw [hguid] at hactive
          obtain ⟨g, hg, hmem⟩ := (Option.any_eq_true _ _).1 hactive.1
          exact ⟨g, by simpa using hmem, hg⟩
        · exact .inr ⟨r, hr, hidentity⟩
  intro item hitem hid hopen
  rcases hend item hitem hid hopen with hguid | ⟨r, hr, -⟩
  · exact hguid
  · simp at hr

theorem WorkItem.unlaned_eq {a b : WorkItem} (h : a.unlaned = b.unlaned) :
    a.processInstanceId = b.processInstanceId ∧ a.completed = b.completed ∧ a.taskGuid = b.taskGuid ∧
      a.taskStatus = b.taskStatus ∧ a.actualOwnerId = b.actualOwnerId := by
  simp only [WorkItem.unlaned, WorkItem.mk.injEq] at h
  obtain ⟨-, -, hinstance, hguid, -, -, howner, hstatus, hcompleted, -, -⟩ := h
  exact ⟨hinstance, hcompleted, hguid, hstatus, howner⟩

/-- The state of the instance's open items while those of `rest` are still to
be made ready. -/
structure Matched (pi : ProcessInstance) (ready rest : List SpiffTask) (s : Tx Ω) : Prop where
  only : OpenOnly pi (ready.map (·.id)) s
  unclaimed : ∀ item ∈ s.view.workItems, item.processInstanceId = pi.id → item.completed = false →
    (∃ t ∈ rest, item.taskGuid = some t.id) ∨ item.taskStatus = .ready ∧ item.actualOwnerId = none
  has_item : ∀ t ∈ ready, t ∈ rest ∨
    ∃ item ∈ s.view.workItems, item.processInstanceId = pi.id ∧ item.completed = false ∧ item.taskGuid = some t.id

theorem Matched.unlaned {ready rest : List SpiffTask}
    (hitems : s'.view.workItems.map (·.unlaned) = s.view.workItems.map (·.unlaned)) (h : Matched pi ready rest s) :
    Matched pi ready rest s' := by
  have hback : ∀ item' ∈ s'.view.workItems, ∃ item ∈ s.view.workItems, item.unlaned = item'.unlaned := by
    intro item' hitem'
    have : item'.unlaned ∈ s.view.workItems.map (·.unlaned) := by
      rw [← hitems]
      exact List.mem_map_of_mem hitem'
    exact List.mem_map.1 this
  refine ⟨fun item' hitem' hid hopen => ?_, fun item' hitem' hid hopen => ?_, fun t ht => ?_⟩
  · obtain ⟨item, hitem, heq⟩ := hback item' hitem'
    obtain ⟨hinstance, hcompleted, hguid, -⟩ := WorkItem.unlaned_eq heq
    rw [← hguid]
    exact h.only item hitem (hinstance.trans hid) (hcompleted.trans hopen)
  · obtain ⟨item, hitem, heq⟩ := hback item' hitem'
    obtain ⟨hinstance, hcompleted, hguid, hstatus, howner⟩ := WorkItem.unlaned_eq heq
    rw [← hguid, ← hstatus, ← howner]
    exact h.unclaimed item hitem (hinstance.trans hid) (hcompleted.trans hopen)
  · refine (h.has_item t ht).imp_right ?_
    rintro ⟨item, hitem, hid, hopen, hguid⟩
    have : item.unlaned ∈ s'.view.workItems.map (·.unlaned) := by
      rw [hitems]
      exact List.mem_map_of_mem hitem
    obtain ⟨item', hitem', heq⟩ := List.mem_map.1 this
    obtain ⟨hinstance, hcompleted, hguid', -⟩ := WorkItem.unlaned_eq heq
    exact ⟨item', hitem', hinstance.trans hid, hcompleted.trans hopen, hguid'.trans hguid⟩

/-- After an upsert, the task's item is open and unclaimed; the others are as
they were. -/
theorem upsertWorkItem_items (hsound : Sound env owner s) (hpi : Present pi s) {g : Guid} (hg : owner g = pi.id)
    {occurredAt : Time} {id : Nat} (h : (upsertWorkItem pi g occurredAt).run s = (.ok id, s')) :
    (∃ item ∈ s'.view.workItems, item.processInstanceId = pi.id ∧ item.completed = false ∧ item.taskGuid = some g) ∧
    (∀ item ∈ s'.view.workItems, (item.taskStatus = .ready ∧ item.actualOwnerId = none ∧ item.taskGuid = some g) ∨
      (item ∈ s.view.workItems ∧ item.taskGuid ≠ some g)) ∧
    ∀ item ∈ s.view.workItems, item.taskGuid ≠ some g → item ∈ s'.view.workItems := by
  unfold upsertWorkItem at h
  simp only [query, Prog.gets_bind_run] at h
  cases hfound : s.view.workItems.find? fun item =>
      item.m8fTenantId == pi.m8fTenantId && item.processInstanceId == pi.id && item.taskGuid == some g with
  | none =>
    simp only [hfound, Session.insert, nextId, write, updateInstance] at h
    obtain ⟨-, rfl⟩ := Prod.mk.inj h
    refine ⟨⟨newWorkItem pi g occurredAt s.seq, List.mem_append_right _ (List.mem_singleton_self _), rfl, rfl, rfl⟩, ?_,
      fun item hitem _ => List.mem_append_left _ hitem⟩
    intro item hitem
    rcases List.mem_append.1 hitem with hitem | hitem
    · refine .inr ⟨hitem, fun hguid => ?_⟩
      have hmem : item.identity ∈ itemIds [s.view, s.committed] := mem_itemIds.2 ⟨s.view, by simp, item, hitem, rfl⟩
      obtain ⟨g', hg', howner⟩ := hsound.integral.keyed.item_guid _ hmem
      obtain rfl : g = g' := Option.some.inj (hguid.symm.trans hg')
      have hinstance : item.processInstanceId = pi.id := howner.symm.trans hg
      obtain ⟨p, hp, hidentity⟩ := hpi
      have htenant := hsound.integral.keyed.item_tenant _ hmem p.identity
        (mem_instanceIds.2 ⟨s.view, by simp, p, hp, rfl⟩) ((congrArg InstanceIdentity.id hidentity).trans hinstance.symm)
      have hitemtenant : item.m8fTenantId = pi.m8fTenantId :=
        htenant.symm.trans (congrArg InstanceIdentity.tenantId hidentity)
      have := List.find?_eq_none.1 hfound item hitem
      simp [hitemtenant, hinstance, hguid] at this
    · rw [List.mem_singleton] at hitem
      subst hitem
      exact .inl ⟨rfl, rfl, rfl⟩
  | some x =>
    simp only [hfound, write, updateInstance] at h
    obtain ⟨-, rfl⟩ := Prod.mk.inj h
    have hx := List.mem_of_find?_eq_some hfound
    have hkey := List.find?_some hfound
    simp only [Bool.and_eq_true, beq_iff_eq] at hkey
    have hothers : ∀ item ∈ s.view.workItems, item.taskGuid ≠ some g →
        ¬ (item.id == x.id && item.processInstanceId == x.processInstanceId) = true := by
      intro item hitem hguid hmatch
      simp only [Bool.and_eq_true, beq_iff_eq] at hmatch
      have hsame := hsound.integral.keyed.item_key item.identity (mem_itemIds.2 ⟨s.view, by simp, item, hitem, rfl⟩)
        x.identity (mem_itemIds.2 ⟨s.view, by simp, x, hx, rfl⟩) hmatch.1
      exact hguid ((congrArg ItemIdentity.taskGuid hsame).trans hkey.2)
    have hkept : ∀ item ∈ s.view.workItems, item.taskGuid ≠ some g →
        item ∈ (s.view.updateWorkItem x (·.prepareForReadyState occurredAt)).workItems := fun item hitem hguid =>
      mem_updateWhere.2 ⟨item, hitem, by rw [if_neg (hothers item hitem hguid)]⟩
    refine ⟨⟨_, mem_updateWhere.2 ⟨x, hx, rfl⟩, ?_⟩, ?_, hkept⟩
    · simp [WorkItem.prepareForReadyState, WorkItem.reopen, hkey.1.2, hkey.2]
    · intro item hitem
      obtain ⟨item₀, hitem₀, rfl⟩ := mem_updateWhere.1 hitem
      by_cases hguid : item₀.taskGuid = some g
      · have hsame := hsound.integral.keyed.item_unique item₀.identity
          (mem_itemIds.2 ⟨s.view, by simp, item₀, hitem₀, rfl⟩) x.identity
          (mem_itemIds.2 ⟨s.view, by simp, x, hx, rfl⟩) (hguid.trans hkey.2.symm)
        have hid : item₀.id = x.id := congrArg ItemIdentity.id hsame
        have hinstance : item₀.processInstanceId = x.processInstanceId := congrArg ItemIdentity.instanceId hsame
        left
        simp [hid, hinstance, WorkItem.prepareForReadyState, WorkItem.reopen, hguid]
      · right
        rw [if_neg (hothers item₀ hitem₀ hguid)]
        exact ⟨hitem₀, hguid⟩

theorem Matched.upsert {ready rest : List SpiffTask} {t : SpiffTask} (hsound : Sound env owner s) (hpi : Present pi s)
    (ht : owner t.id = pi.id) {occurredAt : Time} {id : Nat}
    (hrun : (upsertWorkItem pi t.id occurredAt).run s = (.ok id, s')) (hmem : t ∈ ready)
    (h : Matched pi ready (t :: rest) s) : Matched pi ready rest s' := by
  obtain ⟨hitem, hitems, hkept⟩ := upsertWorkItem_items hsound hpi ht hrun
  refine ⟨fun item hi hid hopen => ?_, fun item hi hid hopen => ?_, fun t' ht' => ?_⟩
  · rcases hitems item hi with ⟨-, -, hguid⟩ | ⟨hold, -⟩
    · exact ⟨t.id, List.mem_map_of_mem hmem, hguid⟩
    · exact h.only item hold hid hopen
  · rcases hitems item hi with ⟨hready, hnone, -⟩ | ⟨hold, hne⟩
    · exact .inr ⟨hready, hnone⟩
    · refine (h.unclaimed item hold hid hopen).imp_left ?_
      rintro ⟨t', ht', hguid⟩
      rcases List.mem_cons.1 ht' with rfl | ht'
      · exact absurd hguid hne
      · exact ⟨t', ht', hguid⟩
  · rcases h.has_item t' ht' with hrest | ⟨item, hi, hid, hopen, hguid⟩
    · rcases List.mem_cons.1 hrest with rfl | hrest
      · exact .inr hitem
      · exact .inl hrest
    · by_cases heq : t'.id = t.id
      · rw [heq]
        exact .inr hitem
      · have hne : item.taskGuid ≠ some t.id := by
          rw [hguid, Ne, Option.some.injEq]
          exact heq
        exact .inr ⟨item, hkept item hi hne, hid, hopen, hguid⟩

/-- The state of the save between the inactive items and the status. -/
structure Materializing (env : Env W Ω) (owner : Guid → Nat) (pi : ProcessInstance) (w : W) (rest : List SpiffTask)
    (s : Tx Ω) : Prop where
  sound : Sound env owner s
  present : Present pi s
  rows : Rowed env pi w s
  items : Matched pi (env.readyManualTasks w) rest s

theorem Materializing.steps {rest : List SpiffTask} (hlaw : env.Lawful) (hF : F.Fits owner s) (htask : Touch.task ∉ L)
    (hitem : Touch.item ∉ L) (hnew : Touch.newItem ∉ L) (hsteps : Steps (Change env F) L s s')
    (h : Materializing env owner pi w rest s) : Materializing env owner pi w rest s' :=
  ⟨h.sound.steps hlaw hF hsteps, h.present.steps hsteps, h.rows.steps htask hsteps,
    h.items.unlaned (unlaned_of_steps hitem hnew hsteps)⟩

/-- Materializing a ready task makes its item ready. -/
theorem materializeSingleManualTask_matched (henv : env.Engine owner) (hw : env.TasksOf owner pi.id w) {t : SpiffTask}
    {rest : List SpiffTask} (ht : t ∈ env.readyManualTasks w) {occurredAt : Time}
    (hrun : (materializeSingleManualTask env pi t occurredAt).run s = (.ok (), s'))
    (h : Materializing env owner pi w (t :: rest) s) : Materializing env owner pi w rest s' := by
  have htask : t ∈ env.tasks w := (List.mem_filter.1 ht).1
  have hown : owner t.id = pi.id := hw t htask
  obtain ⟨hguid, hstate⟩ := henv.serializes.task_payload htask
  have hF := pi.focusOn_of owner
  unfold materializeSingleManualTask at hrun
  simp only [query, Prog.gets_bind_run] at hrun
  obtain ⟨_, s₁, hprocess, hrun₁⟩ := Prog.bind_ok.1 hrun
  obtain ⟨-, rfl⟩ := Prog.orRaise_ok.1 hprocess
  obtain ⟨definitionId, s₂, hdefinitionId, hrun₂⟩ := Prog.bind_ok.1 hrun₁
  obtain ⟨-, rfl⟩ := Prog.orRaise_ok.1 hdefinitionId
  split at hrun₂
  · simp at hrun₂
  · obtain ⟨definition, s₃, hdefinition, hrun₃⟩ := Prog.bind_ok.1 hrun₂
    obtain ⟨guid, s₄, hupsert, hrun₄⟩ := Prog.bind_ok.1 hrun₃
    obtain ⟨id, s₅, hitem, hrun₅⟩ := Prog.bind_ok.1 hrun₄
    -- The definition and the row: no item changes.
    have hdef : Steps (Change env (pi.focusOn owner)) [.seq, .shared] s s₃ :=
      (upsertTaskDefinitionFromPayload_touches _ _ _ _ _ (by decide)).steps hdefinition
    have h₃ := h.steps henv.lawful h.present.fits (by decide) (by decide) (by decide) hdef
    have hrow : Steps (Change env (pi.focusOn owner)) [.json, .task] s₃ s₄ := by
      refine (upsertTaskModelFromPayload_touches hF definition occurredAt (fun g hg => ?_) (by decide)).steps hupsert
      rw [← Option.some.inj (hguid.symm.trans hg)]
      exact hown
    have h₄ : Materializing env owner pi w (t :: rest) s₄ :=
      ⟨h₃.sound.steps henv.lawful h₃.present.fits hrow, h₃.present.steps hrow,
        fun t' ht' => upsertTaskModelFromPayload_hasRow henv.serializes htask hguid hstate hupsert ht'
          (.inr (h₃.rows t' ht')), h₃.items.unlaned (unlaned_of_steps (by decide) (by decide) hrow)⟩
    -- The item.
    obtain rfl : guid = t.id := Option.some.inj ((upsertTaskModelFromPayload_guid hupsert).symm.trans hguid)
    have hitemsteps : Steps (Change env (pi.focusOn owner)) [.item, .newItem, .details] s₄ s₅ :=
      (upsertWorkItem_touches hF hown occurredAt (by decide)).steps hitem
    have h₅ : Materializing env owner pi w rest s₅ :=
      ⟨h₄.sound.steps henv.lawful h₄.present.fits hitemsteps, h₄.present.steps hitemsteps,
        h₄.rows.steps (by decide) hitemsteps, h₄.items.upsert h₄.sound h₄.present hown hitem ht⟩
    -- Its potential owners and the future task.
    obtain ⟨properties, s₆, hproperties, hrun₆⟩ := Prog.bind_ok.1 hrun₅
    obtain ⟨-, rfl⟩ := Prog.gets_ok.1 hproperties
    have hrest : Touches (Change env (pi.focusOn owner)) [.seq, .shared, .lane] (do
        assignWorkItemPotentialOwners env pi id t.lane t.data properties
        upsertFutureTask (Ω := Ω) pi.m8fTenantId t.id occurredAt) := by
      refine .bind (assignWorkItemPotentialOwners_touches _ _ _ _ _ (by decide)) fun _ => ?_
      refine write_shared (by decide) fun db => ?_
      split <;> exact ⟨rfl, rfl, rfl, rfl, rfl, rfl, rfl⟩
    exact h₅.steps henv.lawful h₅.present.fits (by decide) (by decide) (by decide) (hrest.steps hrun₆)

theorem materializeReadyManualTasks_matched (henv : env.Engine owner) (hw : env.TasksOf owner pi.id w) {occurredAt : Time}
    (hrun : (materializeReadyManualTasks env pi w occurredAt).run s = (.ok (), s'))
    (h : Materializing env owner pi w (env.readyManualTasks w) s) : Materializing env owner pi w [] s' := by
  unfold materializeReadyManualTasks at hrun
  simp only [query, Prog.gets_bind_run, h.rows.currentReadyManualTasks] at hrun
  have hend := Prog.yields_forEach (I := fun rest s => rest ⊆ env.readyManualTasks w ∧ Materializing env owner pi w rest s)
    ?_ s () s' ⟨List.Subset.refl _, h⟩ hrun
  · exact hend.2
  · rintro t rest s₁ u s₂ ⟨hsub, hm⟩ hstep
    exact ⟨fun t' ht' => hsub (by simp [ht']), materializeSingleManualTask_matched henv hw (hsub (by simp)) hstep hm⟩

/-! ## The timer job -/

/-- A job is the instance's timer job. -/
def SchedulerJob.isTimerOf (pi : ProcessInstance) (job : SchedulerJob) : Prop :=
  job.m8fTenantId = pi.m8fTenantId ∧ job.jobKey = instanceJobKey .intermediateTimer pi.id

/-- The instance's timer jobs are as a save of the workflow leaves them: none
without a waiting timer, else unlocked and set to the first of them. -/
def TimerJob (env : Env W Ω) (pi : ProcessInstance) (w : W) (db : Db) : Prop :=
  ∃ payloads, collectWaitingTimerPayloads env w false = .ok payloads ∧
    match minimum (payloads.map (·.runAtInSeconds)) with
    | none => ∀ job ∈ db.schedulerJobs, ¬ job.isTimerOf pi
    | some n => (∃ job ∈ db.schedulerJobs, job.isTimerOf pi) ∧ ∀ job ∈ db.schedulerJobs, job.isTimerOf pi →
        job.jobType = .intermediateTimer ∧ job.processInstanceId = some pi.id ∧ job.lockedBy = none ∧
          job.runAt = n * 1000000

/-- After an upsert, the jobs under the key are as given and unlocked. -/
theorem upsertSchedulerJob_jobs {tenantId : TenantId} {jobKey : String} {v : JobValues} {occurredAt : Time}
    {createdAt : Option Time} (h : (upsertSchedulerJob tenantId jobKey v occurredAt createdAt).run s = (.ok (), s')) :
    (∃ job ∈ s'.view.schedulerJobs, job.m8fTenantId = tenantId ∧ job.jobKey = jobKey) ∧
    ∀ job ∈ s'.view.schedulerJobs, job.m8fTenantId = tenantId ∧ job.jobKey = jobKey → job.jobType = v.jobType ∧
      job.processInstanceId = v.processInstanceId ∧ job.lockedBy = none ∧ job.runAt = v.runAt := by
  unfold upsertSchedulerJob at h
  simp only [query, Prog.gets_bind_run] at h
  cases hfound : s.view.schedulerJob? tenantId jobKey with
  | none =>
    simp only [hfound, Session.insert, nextId, write] at h
    obtain ⟨-, rfl⟩ := Prod.mk.inj h
    refine ⟨⟨_, List.mem_append_right _ (List.mem_singleton_self _), rfl, rfl⟩, fun job hjob hkey => ?_⟩
    rcases List.mem_append.1 hjob with hjob | hjob
    · have := List.find?_eq_none.1 hfound job hjob
      simp [hkey] at this
    · rw [List.mem_singleton] at hjob
      subst hjob
      exact ⟨rfl, rfl, rfl, rfl⟩
  | some found =>
    simp only [hfound, write] at h
    obtain ⟨-, rfl⟩ := Prod.mk.inj h
    have hmatch := List.find?_some hfound
    refine ⟨⟨_, mem_updateWhere.2 ⟨found, List.mem_of_find?_eq_some hfound, rfl⟩, ?_⟩, fun job hjob hkey => ?_⟩
    · rw [if_pos hmatch]
      simpa using hmatch
    · obtain ⟨job₀, -, rfl⟩ := mem_updateWhere.1 hjob
      split
      · exact ⟨rfl, rfl, rfl, rfl⟩
      · rename_i hne
        rw [if_neg hne] at hkey
        simp [hkey] at hne

theorem syncIntermediateTimerSchedulerJob_job {occurredAt : Time}
    (h : (syncIntermediateTimerSchedulerJob env pi w occurredAt).run s = (.ok (), s')) : TimerJob env pi w s'.view := by
  unfold syncIntermediateTimerSchedulerJob at h
  cases hpayloads : collectWaitingTimerPayloads env w false with
  | error e => simp [hpayloads, ofExcept] at h
  | ok payloads =>
    refine ⟨payloads, hpayloads, ?_⟩
    simp only [hpayloads, ofExcept, Prog.pure_bind] at h
    cases hmin : minimum (payloads.map (·.runAtInSeconds)) with
    | none =>
      simp only [hmin, deleteSchedulerJob, write] at h
      obtain ⟨-, rfl⟩ := Prod.mk.inj h
      intro job hjob hof
      have := (List.mem_filter.1 hjob).2
      simp [hof.1, hof.2] at this
    | some n =>
      simp only [hmin] at h
      obtain ⟨hex, hall⟩ := upsertSchedulerJob_jobs h
      exact ⟨hex, fun job hjob hof => hall job hjob hof⟩

/-! ## The status -/

/-- The status update writes the workflow's status, and an end exactly for a
completed workflow. -/
theorem updateProcessInstanceStatusFromWorkflow_rows {occurredAt : Time} {r : Except Error Unit}
    (h : (updateProcessInstanceStatusFromWorkflow env pi w occurredAt).run s = (r, s')) :
    ∃ f : ProcessInstance → ProcessInstance,
      s'.view.processInstances = updateWhere (·.id == pi.id) f s.view.processInstances ∧
      ∀ p, (f p).identity = p.identity ∧ (f p).status = statusOf env w ∧
        ((f p).endedAt.isSome ↔ env.completed w = true) := by
  unfold updateProcessInstanceStatusFromWorkflow at h
  split at h
  · rename_i hcompleted
    simp only [updateInstance, write, Prog.modify_bind_run] at h
    refine ⟨fun p => { p with status := .complete, endedAt := some occurredAt, updatedAt := some occurredAt }, ?_, ?_⟩
    · obtain ⟨-, rfl⟩ := Prod.mk.inj h
      cases pi.bpmnProcessId <;> rfl
    · exact fun p => ⟨rfl, by simp [statusOf, hcompleted], by simp [hcompleted]⟩
  · rename_i hrunning
    simp only [updateInstance, write, query, Prog.modify_bind_run, Prog.gets_bind_run] at h
    refine ⟨fun p => { p with status := statusOf env w, endedAt := none, updatedAt := some occurredAt,
                              taskUpdatedAt := some occurredAt }, ?_, ?_⟩
    · obtain ⟨-, rfl⟩ := Prod.mk.inj h
      cases pi.bpmnProcessId <;> rfl
    · exact fun p => ⟨rfl, rfl, by simp [hrunning]⟩

/-! ## The whole save -/

/-- What a save of the workflow leaves of the instance. -/
structure Saved (env : Env W Ω) (pi : ProcessInstance) (w : W) (s : Tx Ω) : Prop where
  state : ∃ text, env.serializeJson w = .ok text ∧ s.view.workflowStateJson pi = some text
  rows : Rowed env pi w s
  items : Matched pi (env.readyManualTasks w) [] s
  job : TimerJob env pi w s.view
  status : ∀ p ∈ s.view.processInstances, p.id = pi.id →
    p.status = statusOf env w ∧ (p.endedAt.isSome ↔ env.completed w = true)

/-- After `persist_workflow_state`: the snapshot, the rows and the job. -/
theorem persistWorkflowState_stores (henv : env.Engine owner) (hw : env.TasksOf owner pi.id w)
    (hsound : Sound env owner s) (hpi : Present pi s) {q : Nat} (hq : pi.bpmnProcessId = some q) {occurredAt : Time}
    (hrun : (persistWorkflowState env pi w occurredAt).run s = (.ok (), s')) :
    (∃ text, env.serializeJson w = .ok text ∧ s'.view.workflowStateJson pi = some text) ∧ Rowed env pi w s' ∧
      TimerJob env pi w s'.view := by
  have hF := pi.focusOn_of owner
  have hcovers := hw.covers henv
  unfold persistWorkflowState at hrun
  cases hstate : env.serializeJson w with
  | error e => simp [hstate, ofExcept] at hrun
  | ok text =>
    simp only [hstate, ofExcept, Prog.pure_bind] at hrun
    obtain ⟨_, s₁, hversion, hrun₁⟩ := Prog.bind_ok.1 hrun
    obtain ⟨_, s₂, hdefinition, hrun₂⟩ := Prog.bind_ok.1 hrun₁
    obtain ⟨_, s₃, hprocess, hrun₃⟩ := Prog.bind_ok.1 hrun₂
    obtain ⟨_, s₄, htasks, hjob⟩ := Prog.bind_ok.1 hrun₃
    have h₁ : Steps (Change env (pi.focusOn owner)) [.details] s s₁ := by
      refine Touches.steps ?_ hversion
      exact updateInstance_touches hF.id (by decide) fun _ => ⟨rfl, rfl⟩
    have h₂ : Steps (Change env (pi.focusOn owner)) [.seq, .shared] s₁ s₂ :=
      (syncProcessDefinitionFromWorkflow_touches _ _ _ (by decide)).steps hdefinition
    have h₃ : Steps (Change env (pi.focusOn owner)) [.json, .snapshot] s₂ s₃ :=
      (syncBpmnProcessFromWorkflow_touches hF (hcovers.stored _ · hstate) (by decide)).steps hprocess
    have h₄ : Steps (Change env (pi.focusOn owner)) [.json, .task] s₃ s₄ :=
      (syncTaskModelsFromWorkflow_touches hF _ _ hcovers.rows (by decide)).steps htasks
    have h₅ : Steps (Change env (pi.focusOn owner)) [.seq, .job] s₄ s' :=
      (syncIntermediateTimerSchedulerJob_touches hF w occurredAt (by decide)).steps hjob
    have hp₁ := hpi.steps h₁
    have hs₁ := hsound.steps henv.lawful hpi.fits h₁
    have hp₂ := hp₁.steps h₂
    have hs₂ := hs₁.steps henv.lawful hp₁.fits h₂
    have hp₃ := hp₂.steps h₃
    have hs₃ := hs₂.steps henv.lawful hp₂.fits h₃
    have hp₄ := hp₃.steps h₄
    have hs₄ := hs₃.steps henv.lawful hp₃.fits h₄
    have hstored := syncBpmnProcess_stores henv.lawful hs₂ hp₂ hq hprocess
    refine ⟨⟨text, rfl, ?_⟩, ?_, syncIntermediateTimerSchedulerJob_job hjob⟩
    · rw [hs₄.same_state henv.lawful hp₄.fits hp₄ (by decide) h₅,
        hs₃.same_state henv.lawful hp₃.fits hp₃ (by decide) h₄, hstored]
    · exact (syncTaskModelsFromWorkflow_rowed henv.serializes htasks).steps (by decide) h₅

theorem TimerJob.steps {db db' : Db} (hjobs : db'.schedulerJobs = db.schedulerJobs) (h : TimerJob env pi w db) :
    TimerJob env pi w db' := by
  unfold TimerJob at h ⊢
  rw [hjobs]
  exact h

/-- A save that returns has saved the workflow. -/
theorem saveWorkflow_saved (henv : env.Engine owner) (hw : env.TasksOf owner pi.id w) (hsound : Sound env owner s)
    (hpi : Present pi s) {q : Nat} (hq : pi.bpmnProcessId = some q) {occurredAt : Time} {starting : Bool}
    (hrun : (saveWorkflow env pi w occurredAt starting).run s = (.ok (), s')) : Saved env pi w s' := by
  have hF := pi.focusOn_of owner
  have hcovers := hw.covers henv
  unfold saveWorkflow at hrun
  obtain ⟨_, s₁, hpersist, hrun₁⟩ := Prog.bind_ok.1 hrun
  obtain ⟨_, s₂, hinactive, hrun₂⟩ := Prog.bind_ok.1 hrun₁
  obtain ⟨_, s₃, hready, hrun₃⟩ := Prog.bind_ok.1 hrun₂
  have hstart : ∃ s₄, Steps (Change env (pi.focusOn owner)) [.details] s₃ s₄ ∧
      (updateProcessInstanceStatusFromWorkflow env pi w occurredAt).run s₄ = (.ok (), s') := by
    cases starting with
    | false => exact ⟨s₃, .refl s₃, hrun₃⟩
    | true =>
      obtain ⟨_, s₄, hstarted, hstatus⟩ := Prog.bind_ok.1 hrun₃
      refine ⟨s₄, Touches.steps ?_ hstarted, hstatus⟩
      exact updateInstance_touches hF.id (by decide) fun _ => ⟨rfl, rfl⟩
  obtain ⟨s₄, h₄, hstatus⟩ := hstart
  have h₁ : Steps (Change env (pi.focusOn owner)) persisting s s₁ :=
    (persistWorkflowState_touches hF hcovers _ (List.Subset.refl _)).steps hpersist
  have h₂ : Steps (Change env (pi.focusOn owner)) [.item, .shared, .seq, .note] s₁ s₂ :=
    (syncInactiveWorkItems_touches hF _ _ (by decide)).steps hinactive
  have h₃ : Steps (Change env (pi.focusOn owner)) materializing s₂ s₃ :=
    (materializeReadyManualTasks_touches hF hcovers _ (List.Subset.refl _)).steps hready
  have h₅ : Steps (Change env (pi.focusOn owner)) [.status, .process, .shared] s₄ s' :=
    (updateProcessInstanceStatusFromWorkflow_touches hF w occurredAt (by decide)).steps hstatus
  have hp₁ := hpi.steps h₁
  have hs₁ := hsound.steps henv.lawful hpi.fits h₁
  have hp₂ := hp₁.steps h₂
  have hs₂ := hs₁.steps henv.lawful hp₁.fits h₂
  obtain ⟨⟨text, htext, hstate₁⟩, hrows₁, hjob₁⟩ := persistWorkflowState_stores henv hw hsound hpi hq hpersist
  -- Before a task is made ready, its item may still be claimed, or missing.
  have hm₂ : Materializing env owner pi w (env.readyManualTasks w) s₂ := by
    have honly := syncInactiveWorkItems_openOnly (fun item hitem => hs₁.item_tenant hp₁ hitem) hinactive
    rw [hrows₁.currentReadyManualTasks] at honly
    refine ⟨hs₂, hp₂, hrows₁.steps (by decide) h₂, honly, fun item hitem hid hopen => .inl ?_, fun t ht => .inl ht⟩
    obtain ⟨g, hg, hguid⟩ := honly item hitem hid hopen
    obtain ⟨t, ht, rfl⟩ := List.mem_map.1 hg
    exact ⟨t, ht, hguid⟩
  have hm₃ := materializeReadyManualTasks_matched henv hw hready hm₂
  have hm₄ := hm₃.steps henv.lawful hm₃.present.fits (by decide) (by decide) (by decide) h₄
  have hm₅ := hm₄.steps henv.lawful hm₄.present.fits (by decide) (by decide) (by decide) h₅
  refine ⟨⟨text, htext, ?_⟩, hm₅.rows, hm₅.items, ?_, ?_⟩
  · rw [hm₄.sound.same_state henv.lawful hm₄.present.fits hm₄.present (by decide) h₅,
      hm₃.sound.same_state henv.lawful hm₃.present.fits hm₃.present (by decide) h₄,
      hs₂.same_state henv.lawful hp₂.fits hp₂ (by decide) h₃, hs₁.same_state henv.lawful hp₁.fits hp₁ (by decide) h₂,
      hstate₁]
  · refine hjob₁.steps ?_
    rw [schedulerJobs_of_steps (by decide) (by decide) (by decide) h₅,
      schedulerJobs_of_steps (by decide) (by decide) (by decide) h₄,
      schedulerJobs_of_steps (by decide) (by decide) (by decide) h₃,
      schedulerJobs_of_steps (by decide) (by decide) (by decide) h₂]
  · obtain ⟨f, hf, hrow⟩ := updateProcessInstanceStatusFromWorkflow_rows hstatus
    intro p hp hid
    rw [hf] at hp
    obtain ⟨p₀, -, rfl⟩ := mem_updateWhere.1 hp
    split
    · exact (hrow p₀).2
    · rename_i hne
      rw [if_neg hne] at hid
      simp [hid] at hne

end
end M8flowCore
