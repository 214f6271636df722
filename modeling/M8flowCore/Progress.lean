import M8flowCore.Moves
/-!
# The moves of the operations that run a workflow

Advancing, waking, retrying, completing a task and initializing: what a call
that returns has done to the life of its instance.
-/
open M8flowCore.Lib M8flowCore.Session

namespace M8flowCore

section
variable {W Ω : Type} {env : Env W Ω} {F : Focus} {L : List Touch} {s s' : Tx Ω} {i j : Nat} {pi : ProcessInstance} {w : W}
  {tenantId : TenantId}

/-! ## Calls about one instance -/

/-- Only instance `i` may have moved, and nothing is committed. -/
structure Within (i : Nat) (s s' : Tx Ω) : Prop where
  others : ∀ j, j ≠ i → s'.view.life j = s.view.life j
  base : s'.base = s.base
  committed : s'.committed = s.committed
  filed : Filed s'.seq s'.view
  seq : s.seq ≤ s'.seq

theorem Within.trans {s₁ s₂ s₃ : Tx Ω} (h₁ : Within i s₁ s₂) (h₂ : Within i s₂ s₃) : Within i s₁ s₃ :=
  ⟨fun j hj => (h₂.others j hj).trans (h₁.others j hj), h₂.base.trans h₁.base, h₂.committed.trans h₁.committed, h₂.filed,
    h₁.seq.trans h₂.seq⟩

theorem Within.of_steps (hfiled : Filed s.seq s.view) (hF : F.Stands s.view) (hsteps : Steps (Change env F) L s s') :
    Within F.instanceId s s' :=
  have hcommitted := committed_of_steps hsteps
  ⟨fun _ hj => life_of_steps (Ne.symm hj) hsteps, hcommitted.1, hcommitted.2, hfiled.steps hF hsteps, seq_of_steps hsteps⟩

theorem Within.aside (hfiled : Filed s.seq s.view) (h : Aside s s') : Within i s s' :=
  ⟨fun j _ => h.life j, h.base, h.committed, hfiled.aside h, h.seq⟩

theorem Within.moved {C : Cause → Prop} (h : Within i s s') (hpath : Path C (s.view.life i) (s'.view.life i)) :
    Moved C i s s' := ⟨hpath, h.others, h.base, h.committed, h.filed, h.seq⟩

theorem Moved.within {C : Cause → Prop} (h : Moved C i s s') : Within i s s' :=
  ⟨h.others, h.base, h.committed, h.filed, h.seq⟩

theorem Moved.aside {C : Cause → Prop} (hfiled : Filed s.seq s.view) (h : Aside s s') : Moved C i s s' :=
  (Within.aside hfiled h).moved (by rw [h.life]; exact .refl _)

theorem Db.status_eq (db : Db) (i : Nat) :
    (db.processInstance? i).map (·.status) = (db.life i).map (·.phase.status) := by
  unfold Db.life
  rw [Option.map_map]
  rfl

/-! ## Advancing and waking -/

theorem saveWorkflow_within (hfiled : Filed s.seq s.view) (hpi : pi ∈ s.view.processInstances) {occurredAt : Time}
    {starting : Bool} {ω : Ω} (hrun : (saveWorkflow env pi w occurredAt starting).run { s with world := ω } = (.ok (), s')) :
    Within pi.id s s' := by
  have hsteps : Steps (Change env pi.focus) (.world :: saving) s s' := by
    refine .trans (.one (by decide) (.world s ω)) ?_
    exact (saveWorkflow_touches pi.focus_of (pi.focus_covers w) _ _ (List.subset_cons_self _ _)).steps hrun
  exact .of_steps hfiled (stands_of_mem hpi) hsteps

/-- A save of an instance that has not ended. -/
theorem saveWorkflow_moved (hlaw : env.Lawful) {c : Cause} (hc : c = .start ∨ c = .advance ∨ c = .wake)
    (hfiled : Filed s.seq s.view) (hpi : pi ∈ s.view.processInstances) (hopen : pi.hasTerminalStatus = false)
    {occurredAt : Time} {starting : Bool} {ω : Ω}
    (hrun : (saveWorkflow env pi w occurredAt starting).run { s with world := ω } = (.ok (), s')) :
    Moved (· = c) pi.id s s' := by
  refine (saveWorkflow_within hfiled hpi hrun).moved ?_
  obtain ⟨l', hl', hresaved⟩ := saveWorkflow_resaved (s := { s with world := ω }) hlaw hfiled (stands_of_mem hpi)
    (life_of_mem hfiled hpi) hrun
  rw [life_of_mem hfiled hpi, hl']
  have hne : c ≠ .complete := by
    rintro rfl
    simp at hc
  obtain ⟨p, history, opened⟩ := l'
  have hmove : Move c (some ⟨pi.phase, s.view.history pi.id, s.view.opened pi.id⟩) (some ⟨p, history, opened⟩) := by
    refine .save (l := ⟨pi.phase, s.view.history pi.id, s.view.opened pi.id⟩) ?_ hopen hresaved.phase _ hresaved.closed ?_
    · rcases hc with h | h | h <;> simp [h]
    · rw [if_neg fun h => hne h.1]
      exact hresaved.history
  exact .one (C := (· = c)) rfl hmove

theorem advanceProcessInstanceWorkflow_moved (hlaw : env.Lawful) (hfiled : Filed s.seq s.view) {processInstanceId : Nat}
    {guid : Guid} {completedAt : Option Time}
    (h : (advanceProcessInstanceWorkflow env tenantId processInstanceId guid completedAt).run s = (.ok (), s')) :
    Moved (· = .advance) processInstanceId s s' := by
  obtain ⟨pi, hpi, -, rfl, hsame | ⟨hopen, state, w, w', occurredAt, ω, -, -, -, hsave⟩⟩ :=
    advanceProcessInstanceWorkflow_ok h
  · rw [hsame.1]
    exact .refl hfiled
  · exact saveWorkflow_moved hlaw (by simp) hfiled hpi hopen hsave

theorem refreshWaitingProcessInstanceWorkflow_moved (hlaw : env.Lawful) (hfiled : Filed s.seq s.view)
    {processInstanceId : Nat} {occurredAt : Option Time}
    (h : (refreshWaitingProcessInstanceWorkflow env tenantId processInstanceId occurredAt).run s = (.ok (), s')) :
    Moved (· = .wake) processInstanceId s s' := by
  obtain ⟨pi, hpi, -, rfl, hsame | ⟨hopen, state, w, w', occurredAt, ω, -, -, -, hsave⟩⟩ :=
    refreshWaitingProcessInstanceWorkflow_ok h
  · rw [hsame.1]
    exact .refl hfiled
  · exact saveWorkflow_moved hlaw (by simp) hfiled hpi hopen hsave

/-! ## Retrying -/

/-- The instance is as a saved workflow leaves it, with this history. -/
def Afoot (i : Nat) (history : List EventType) (s : Tx Ω) : Prop :=
  ∃ l, s.view.life i = some l ∧ l.phase.OfWorkflow ∧ (l.phase.status = .complete → l.opened = false) ∧ l.history = history

theorem retryErroredServiceTaskWorkflowIfNeeded_afoot (hlaw : env.Lawful) (hfiled : Filed s.seq s.view)
    {processInstanceId : Nat} {occurredAt : Option Time} {history : List EventType} (h₀ : Afoot processInstanceId history s)
    (h : (retryErroredServiceTaskWorkflowIfNeeded env tenantId processInstanceId occurredAt).run s = (.ok (), s')) :
    Within processInstanceId s s' ∧ Afoot processInstanceId history s' := by
  obtain ⟨pi, hpi, -, rfl, ⟨rfl, -⟩ | ⟨state, w, w', occurredAt, ω, -, -, -, hsave⟩⟩ :=
    retryErroredServiceTaskWorkflowIfNeeded_ok h
  · exact ⟨.aside hfiled (frame_aside.refl _), h₀⟩
  · refine ⟨saveWorkflow_within hfiled hpi hsave, ?_⟩
    obtain ⟨l, hl, -, -, hhistory⟩ := h₀
    obtain ⟨l', hl', hresaved⟩ := saveWorkflow_resaved (s := { s with world := ω }) hlaw hfiled (stands_of_mem hpi) hl hsave
    exact ⟨l', hl', hresaved.phase, hresaved.closed, hresaved.history.trans hhistory⟩

theorem deleteSchedulerJob_aside (tenantId : TenantId) (jobKey : String) :
    (deleteSchedulerJob (Ω := Ω) tenantId jobKey).Keeps Aside := fun _ => ⟨rfl, rfl, rfl, rfl, rfl, le_refl _⟩

/-- Reopening an instance's rows shows in its open items alone. -/
theorem life_reopenRuntimeState (db : Db) (i : Nat) (t : Time) : (db.reopenRuntimeState i t).life i =
    (db.life i).map fun l => { l with opened := (db.reopenRuntimeState i t).opened i } := by
  have hrow : (db.reopenRuntimeState i t).life i =
      ((db.updateInstance i ({ · with taskUpdatedAt := some t })).life i).map
        fun l => { l with opened := (db.reopenRuntimeState i t).opened i } := life_items rfl rfl
  rw [hrow, life_updateInstance (fun p => p) (by intro _; rfl) (by intro _; rfl), Option.map_map]
  rfl

/-- Out of `error`, with its items opened by `g`. -/
theorem reopened_afoot (env : Env W Ω) (hfiled : Filed s.seq s.view) (hpi : pi ∈ s.view.processInstances)
    {f : ProcessInstance → ProcessInstance} {g : Db → Db}
    (hreopen : Touches (Change env pi.focus) [.shared, .details, .task, .item] (write g))
    (hlife : (g (s.view.updateInstance pi.id f)).life pi.id = ((s.view.updateInstance pi.id f).life pi.id).map
      fun l => { l with opened := (g (s.view.updateInstance pi.id f)).opened pi.id })
    (hf : ∀ p, (f p).identity = p.identity ∧ (f p).phase = ⟨.running, none⟩) :
    Within pi.id s { s with view := g (s.view.updateInstance pi.id f) } ∧
      Afoot pi.id (s.view.history pi.id) { s with view := g (s.view.updateInstance pi.id f) } := by
  have hsteps : Steps (Change env pi.focus) [.status, .shared, .details, .task, .item] s
      { s with view := g (s.view.updateInstance pi.id f) } := by
    refine .trans (.one (by decide) (.status s f fun p => (hf p).1)) ?_
    exact Steps.mono (by decide) (hreopen { s with view := s.view.updateInstance pi.id f })
  refine ⟨.of_steps hfiled (stands_of_mem hpi) hsteps,
    ⟨⟨.running, none⟩, s.view.history pi.id, (g (s.view.updateInstance pi.id f)).opened pi.id⟩, ?_, ?_, by simp, rfl⟩
  · rw [hlife, life_updateInstance (fun _ => ⟨.running, none⟩) (fun p => (hf p).1) fun p => (hf p).2, life_of_mem hfiled hpi]
    rfl
  · exact .inr ⟨.inr (.inr rfl), rfl⟩

theorem Afoot.aside {history : List EventType} (ha : Aside s s') (h : Afoot i history s) : Afoot i history s' := by
  obtain ⟨l, hl, hrest⟩ := h
  exact ⟨l, (ha.life i).trans hl, hrest⟩

theorem syncOpenWorkItemPotentialOwners_calm (env : Env W Ω) {processInstanceId : Nat} {loaded : Option (List Nat)}
    (h : (syncOpenWorkItemPotentialOwners env tenantId processInstanceId loaded).run s = (.ok (), s'))
    (hfiled : Filed s.seq s.view) (hpi : pi ∈ s.view.processInstances) :
    Within pi.id s s' ∧ s'.view.life pi.id = s.view.life pi.id := by
  have hsteps : Steps (Change env pi.focus) [.seq, .shared, .lane] s s' :=
    (syncOpenWorkItemPotentialOwners_touches _ _ _ (by decide)).steps h
  exact ⟨.of_steps hfiled (stands_of_mem hpi) hsteps, life_of_calm (by decide) hsteps⟩

/-- An instance that is there has a life. -/
theorem mem_of_life {l : Life} {db : Db} (h : db.life i = some l) : ∃ p ∈ db.processInstances, p.id = i := by
  unfold Db.life at h
  obtain ⟨p, hp, -⟩ := Option.map_eq_some_iff.1 h
  exact ⟨p, List.mem_of_find?_eq_some hp, processInstance?_id hp⟩

theorem life_note {db : Db} {row : ProcessInstanceEvent} (htype : ¬ row.eventType.isLifecycle = true) :
    { db with events := db.events ++ [row] }.life i = db.life i := by
  have hhistory : ({ db with events := db.events ++ [row] } : Db).history i = db.history i := by
    unfold Db.history
    simp [htype]
  exact Db.life_congr rfl hhistory rfl

theorem recordProcessInstanceEvent_within (env : Env W Ω) {processInstanceId : Nat} {eventType : EventType}
    {occurredAt : Time} {taskGuid : Option Guid} {userId : Option Nat} (hfiled : Filed s.seq s.view)
    (hrun : (recordProcessInstanceEvent tenantId processInstanceId eventType occurredAt taskGuid userId).run s = (.ok (), s')) :
    Within processInstanceId s s' := by
  have hsteps : Steps (Change env ⟨tenantId, processInstanceId, none, fun _ => True⟩) [.seq, .event] s s' :=
    (recordProcessInstanceEvent_touches _ rfl _ _ _ _ (by decide)).steps hrun
  have hstands : Focus.Stands ⟨tenantId, processInstanceId, none, fun _ => True⟩ s.view :=
    recordProcessInstanceEvent_found hrun
  exact .of_steps hfiled hstands hsteps

/-- A recorded event shows in the life when it is a lifecycle event. -/
theorem recordProcessInstanceEvent_life {processInstanceId : Nat} {eventType : EventType} {occurredAt : Time}
    {taskGuid : Option Guid} {userId : Option Nat}
    (hrun : (recordProcessInstanceEvent tenantId processInstanceId eventType occurredAt taskGuid userId).run s = (.ok (), s')) :
    s'.view.life processInstanceId = if eventType.isLifecycle
      then (s.view.life processInstanceId).map fun l => { l with history := l.history ++ [eventType] }
      else s.view.life processInstanceId := by
  obtain ⟨row, hrow, hrowtype, hs'⟩ := recordProcessInstanceEvent_ok hrun
  have hview : s'.view = { s.view with events := s.view.events ++ [row] } := by rw [hs']
  rw [hview, ← hrowtype]
  split
  · rename_i htype
    exact life_event hrow htype
  · rename_i htype
    exact life_note htype

/-- The life of an instance that has just been closed. -/
theorem closed_life (hfiled : Filed s.seq s.view) (hpi : pi ∈ s.view.processInstances)
    {f : ProcessInstance → ProcessInstance} {status : ProcessInstanceStatus} {t : Time} {userId : Option Nat}
    {eventType : EventType} {occurredAt : Time} {taskGuid : Option Guid}
    (hrun : (recordProcessInstanceEvent tenantId pi.id eventType occurredAt taskGuid userId).run { s with
      view := (s.view.updateInstance pi.id f).closeRuntimeState pi.id t userId } = (.ok (), s'))
    (hf : ∀ p, (f p).identity = p.identity ∧ (f p).phase = ⟨status, some t⟩) (htype : eventType.isLifecycle = true) :
    s'.view.life pi.id = some ⟨⟨status, some t⟩, s.view.history pi.id ++ [eventType], false⟩ := by
  rw [recordProcessInstanceEvent_life hrun, if_pos htype, life_closeRuntimeState,
    life_updateInstance (fun _ => ⟨status, some t⟩) (fun p => (hf p).1) fun p => (hf p).2, life_of_mem hfiled hpi]
  rfl

/-- The rest of a retry, once the instance is out of `error`. -/
theorem retried_moved (hlaw : env.Lawful) (hfiled : Filed s.seq s.view) (hpi : pi ∈ s.view.processInstances)
    (herror : pi.status = .error) {s₁ : Tx Ω} (hwithin₁ : Within pi.id s s₁) (hafoot₁ : Afoot pi.id (s.view.history pi.id) s₁)
    {jobKey : String} {occurredAt : Time} {userId : Option Nat} {loaded : Option (List Nat)}
    (h : (do
      retryErroredServiceTaskWorkflowIfNeeded env tenantId pi.id (some occurredAt)
      deleteSchedulerJob tenantId jobKey
      recordProcessInstanceEvent tenantId pi.id .processInstanceRetried occurredAt none userId
      retryErroredServiceTaskWorkflowIfNeeded env tenantId pi.id (some occurredAt)
      syncOpenWorkItemPotentialOwners env tenantId pi.id loaded : M Ω Unit).run s₁ = (.ok (), s')) :
    Moved (· = .retry) pi.id s s' := by
  obtain ⟨_, s₂, hfirst, h₂⟩ := Prog.bind_ok.1 h
  obtain ⟨_, s₃, hdelete, h₃⟩ := Prog.bind_ok.1 h₂
  obtain ⟨_, s₄, hrecord, h₄⟩ := Prog.bind_ok.1 h₃
  obtain ⟨_, s₅, hsecond, hsync⟩ := Prog.bind_ok.1 h₄
  obtain ⟨hwithin₂, hafoot₂⟩ := retryErroredServiceTaskWorkflowIfNeeded_afoot hlaw hwithin₁.filed hafoot₁ hfirst
  have haside := (deleteSchedulerJob_aside _ _).of_ok hdelete
  have hfiled₃ := hwithin₂.filed.aside haside
  obtain ⟨l, hl, hphase, hclosed, hhistory⟩ := hafoot₂.aside haside
  have hwithin₄ := recordProcessInstanceEvent_within env hfiled₃ hrecord
  have hlife₄ := recordProcessInstanceEvent_life hrecord
  have hafoot₄ : Afoot pi.id (s.view.history pi.id ++ [.processInstanceRetried]) s₄ := by
    refine ⟨{ l with history := l.history ++ [.processInstanceRetried] }, ?_, hphase, hclosed, by rw [hhistory]⟩
    rw [hlife₄, hl]
    rfl
  obtain ⟨hwithin₅, hafoot₅⟩ := retryErroredServiceTaskWorkflowIfNeeded_afoot hlaw hwithin₄.filed hafoot₄ hsecond
  obtain ⟨⟨p, history, opened⟩, hl₅, hphase₅, hclosed₅, hhistory₅⟩ := hafoot₅
  obtain ⟨p₅, hp₅, hid₅⟩ := mem_of_life hl₅
  obtain ⟨hwithin₆, hlife₆⟩ := syncOpenWorkItemPotentialOwners_calm env hsync hwithin₅.filed hp₅
  rw [hid₅] at hwithin₆ hlife₆
  have hwithin := ((((hwithin₁.trans hwithin₂).trans (.aside hwithin₂.filed haside)).trans hwithin₄).trans hwithin₅).trans
    hwithin₆
  refine hwithin.moved ?_
  rw [hlife₆, hl₅, life_of_mem hfiled hpi]
  dsimp only at hhistory₅
  subst hhistory₅
  exact .one (C := (· = .retry)) rfl (.retry _ herror hphase₅ opened hclosed₅)

theorem retryProcessInstance_moved (hlaw : env.Lawful) (hfiled : Filed s.seq s.view) {processInstanceId userId : Nat}
    {at_ : Option Time} (h : (retryProcessInstance env tenantId processInstanceId userId at_).run s = (.ok (), s')) :
    Moved (· = .retry) processInstanceId s s' := by
  unfold retryProcessInstance at h
  obtain ⟨pi, s₁, hopen, h₁⟩ := Prog.bind_ok.1 h
  obtain ⟨rfl, hpi, -, rfl⟩ := openProcessInstanceCommand_ok hopen
  split at h₁
  · simp at h₁
  rename_i herror
  simp only [resolveTimestamp, query, updateInstance, write, Prog.gets_bind_run, Prog.modify_bind_run] at h₁
  obtain ⟨hwithin, hafoot⟩ := reopened_afoot env hfiled hpi
    (f := ({ · with status := .running, endedAt := none, updatedAt := some (at_.getD (env.now s₁.world)) }))
    (g := fun db => db.reopenRuntimeState pi.id (at_.getD (env.now s₁.world)))
    (reopenRuntimeState_touches (at_.getD (env.now s₁.world)) (List.Subset.refl _)) (life_reopenRuntimeState _ _ _)
    fun _ => ⟨rfl, rfl⟩
  exact retried_moved hlaw hfiled hpi (not_not.1 herror) hwithin hafoot h₁

/-! ## Completing a task -/

/-- What the checks of a completion establish. -/
theorem completeTaskChecks_ok {workItemId userId : Nat} {item : WorkItem}
    (h : (completeTaskChecks env tenantId workItemId userId).run s = (.ok item, s')) :
    s' = s ∧ s.view.tenantWorkItem? tenantId workItemId = some item ∧ s.view.isMember tenantId userId = true ∧
      item.completed = false := by
  unfold completeTaskChecks at h
  obtain ⟨loaded, s₁, hopen, hrest⟩ := Prog.bind_ok.1 h
  obtain ⟨rfl, hmember, hitem⟩ := openWorkItemCommand_ok env hopen
  split at hrest
  · simp at hrest
  · rename_i hcompleted
    simp only [query, Prog.gets_bind_run] at hrest
    split at hrest
    · simp at hrest
    · split at hrest
      · simp at hrest
      · split at hrest
        · simp at hrest
        · obtain ⟨rfl, rfl⟩ := Prog.pure_ok.1 hrest
          exact ⟨rfl, hitem, hmember, by simpa using hcompleted⟩

theorem tenantWorkItem?_mem {db : Db} {workItemId : Nat} {item : WorkItem}
    (h : db.tenantWorkItem? tenantId workItemId = some item) :
    item ∈ db.workItems ∧ item.m8fTenantId = tenantId ∧ item.id = workItemId := by
  have hkey := List.find?_some h
  simp only [Bool.and_eq_true, beq_iff_eq] at hkey
  exact ⟨List.mem_of_find?_eq_some h, hkey⟩

/-- A completion that returns: the item closed, then the workflow advanced if
there is one. -/
theorem completeTask_ok {workItemId userId : Nat} {completedAt : Option Time} {payload : Dict}
    (h : (completeTask env tenantId workItemId userId completedAt payload).run s = (.ok (), s')) :
    ∃ item t s₁, s.view.tenantWorkItem? tenantId workItemId = some item ∧ item.completed = false ∧
      (persistTaskPayload env tenantId item.processInstanceId payload t).run s = (.ok (), s₁) ∧
      (s' = { s₁ with view := s₁.view.completeRows item userId t } ∨
        ∃ s₃ s₄, (advanceProcessInstanceWorkflow env tenantId item.processInstanceId (item.taskGuid.getD "") (some t)).run
            { s₁ with view := s₁.view.completeRows item userId t } = (.ok (), s₃) ∧
          (recordProcessInstanceEvent tenantId item.processInstanceId .taskCompleted t item.taskGuid (some userId)).run s₃ =
            (.ok (), s₄) ∧
          ((s₄.view.processInstance? item.processInstanceId).map (·.status) = some .complete ∧
              (recordProcessInstanceEvent tenantId item.processInstanceId .processInstanceCompleted t item.taskGuid
                (some userId)).run s₄ = (.ok (), s') ∨
            (s₄.view.processInstance? item.processInstanceId).map (·.status) ≠ some .complete ∧ s' = s₄)) := by
  unfold completeTask at h
  obtain ⟨item, s₀, hchecks, h₀⟩ := Prog.bind_ok.1 h
  obtain ⟨rfl, hitem, -, hcompleted⟩ := completeTaskChecks_ok hchecks
  simp only [resolveTimestamp, Prog.gets_bind_run] at h₀
  obtain ⟨_, s₁, hpayload, h₁⟩ := Prog.bind_ok.1 h₀
  refine ⟨item, _, s₁, hitem, hcompleted, hpayload, ?_⟩
  simp only [write, query, Prog.gets_bind_run, Prog.modify_bind_run] at h₁
  split at h₁
  · exact .inl (Prog.pure_ok.1 h₁).2.symm
  · obtain ⟨_, s₃, hadvance, h₃⟩ := Prog.bind_ok.1 h₁
    obtain ⟨_, s₄, hrecord, h₄⟩ := Prog.bind_ok.1 h₃
    simp only [Prog.gets_bind_run] at h₄
    refine .inr ⟨s₃, s₄, hadvance, hrecord, ?_⟩
    split at h₄
    · rename_i hstatus
      exact .inl ⟨hstatus, h₄⟩
    · rename_i hstatus
      exact .inr ⟨hstatus, (Prog.pure_ok.1 h₄).2.symm⟩

theorem completeTask_moved (hlaw : env.Lawful) (hfiled : Filed s.seq s.view) {workItemId userId : Nat}
    {completedAt : Option Time} {payload : Dict}
    (h : (completeTask env tenantId workItemId userId completedAt payload).run s = (.ok (), s')) :
    ∃ i, Moved (fun c => c = .complete ∨ c = .item) i s s' := by
  obtain ⟨item, t, s₁, hitem, hcompleted, hpayload, hrest⟩ := completeTask_ok h
  obtain ⟨hmem, -, -⟩ := tenantWorkItem?_mem hitem
  refine ⟨item.processInstanceId, ?_⟩
  have hopened : s.view.opened item.processInstanceId = true :=
    List.any_eq_true.2 ⟨item, hmem, by simp [hcompleted]⟩
  generalize hs₂ : ({ s₁ with view := s₁.view.completeRows item userId t } : Tx Ω) = s₂ at hrest
  -- The item is closed: its instance may have no open item left.
  have hsteps : Steps (Change env ⟨tenantId, item.processInstanceId, none, fun _ => True⟩)
      [.seq, .item, .task, .shared, .details] s s₂ := by
    refine .trans ((persistTaskPayload_touches _ _ _ _ (by decide)).steps hpayload) ?_
    rw [← hs₂]
    exact completeRows_touches rfl (fun _ _ => trivial) userId t (by decide) s₁
  have hwithin₂ : Within item.processInstanceId s s₂ := by
    obtain ⟨hbase, hcommitted⟩ := committed_of_steps hsteps
    exact ⟨fun j hj => life_of_steps (Ne.symm hj) hsteps, hbase, hcommitted,
      hfiled.quiet (by decide) (by decide) (by decide) hsteps, seq_of_steps hsteps⟩
  have hlife₂ := life_of_items (j := item.processInstanceId) (by decide) (by decide) (by decide) hsteps
  rcases hrest with rfl | ⟨s₃, s₄, hadvance, hrecord, hlast⟩
  · refine hwithin₂.moved ?_
    rw [hlife₂]
    cases hl : s.view.life item.processInstanceId with
    | none => exact .refl _
    | some l =>
      obtain ⟨p, -, rfl⟩ := Option.map_eq_some_iff.1 hl
      exact .one (.inr rfl) (.item _ hopened _)
  have hnote := recordProcessInstanceEvent_life hrecord
  rw [if_neg (by decide)] at hnote
  obtain ⟨pi, hpi, -, hid, hcase⟩ := advanceProcessInstanceWorkflow_ok hadvance
  rw [← hid] at hopened hlife₂ hwithin₂ hrecord hnote hlast ⊢
  have hlife₀ : ∃ l, s.view.life pi.id = some l ∧ l.opened = true ∧
      s₂.view.life pi.id = some { l with opened := s₂.view.opened pi.id } ∧ l.phase = pi.phase := by
    have hl₂ := life_of_mem hwithin₂.filed hpi
    rw [hlife₂] at hl₂
    obtain ⟨l, hl, heq⟩ := Option.map_eq_some_iff.1 hl₂
    obtain ⟨p, -, rfl⟩ := Option.map_eq_some_iff.1 hl
    refine ⟨_, hl, hopened, by rw [hlife₂, hl]; rfl, congrArg Life.phase heq⟩
  obtain ⟨l, hl, hlopened, hl₂, hphase⟩ := hlife₀
  rcases hcase with ⟨rfl, -⟩ | ⟨hopen, state, w, w', occurredAt, ω, -, -, -, hsave⟩
  · -- Nothing to advance: the item was closed, and no more.
    have hwithin₄ := hwithin₂.trans (recordProcessInstanceEvent_within env hwithin₂.filed hrecord)
    rcases hlast with ⟨hstatus, hcomplete⟩ | ⟨-, rfl⟩
    · refine (hwithin₄.trans (recordProcessInstanceEvent_within env hwithin₄.filed hcomplete)).moved ?_
      rw [recordProcessInstanceEvent_life hcomplete, hnote, hl₂, hl]
      rw [Db.status_eq, hnote, hl₂] at hstatus
      exact .one (.inr rfl) (.late l hlopened (by simpa using hstatus) _)
    · refine hwithin₄.moved ?_
      rw [hnote, hl₂, hl]
      exact .one (.inr rfl) (.item l hlopened _)
  · obtain ⟨⟨p, history, opened⟩, hl₃, hresaved⟩ := saveWorkflow_resaved (s := { s₂ with world := ω }) hlaw hwithin₂.filed
      (stands_of_mem hpi) hl₂ hsave
    have hwithin₃ := hwithin₂.trans (saveWorkflow_within hwithin₂.filed hpi hsave)
    have hwithin₄ := hwithin₃.trans (recordProcessInstanceEvent_within env hwithin₃.filed hrecord)
    have hlopen : l.phase.status.isTerminal = false := by
      rw [hphase]
      exact hopen
    have hhistory : history = l.history := hresaved.history
    rcases hlast with ⟨hstatus, hcomplete⟩ | ⟨hstatus, rfl⟩
    · refine (hwithin₄.trans (recordProcessInstanceEvent_within env hwithin₄.filed hcomplete)).moved ?_
      rw [recordProcessInstanceEvent_life hcomplete, hnote, hl₃, hl]
      rw [Db.status_eq, hnote, hl₃, Option.map_some, Option.some.injEq] at hstatus
      refine .one (c := .complete) (.inl rfl) (.save (by simp) l hlopen hresaved.phase _ hresaved.closed ?_)
      rw [if_pos ⟨rfl, hstatus⟩, hhistory]
    · refine hwithin₄.moved ?_
      rw [hnote, hl₃, hl]
      rw [Db.status_eq, hnote, hl₃, Option.map_some, ne_eq, Option.some.injEq] at hstatus
      refine .one (c := .complete) (.inl rfl) (.save (by simp) l hlopen hresaved.phase _ hresaved.closed ?_)
      rw [if_neg fun h => hstatus h.2, hhistory]

end
end M8flowCore
