import M8flowCore.Footprints
/-!
# Calls that return

What a call of the workflow runtime that returns has done, step by step: the
session it loaded from, the workflow it ran and the session it saved to. A
failing service task raises, so a run that returns has touched the world only.
-/
open M8flowCore.Lib M8flowCore.Session

namespace M8flowCore

section
variable {W Ω : Type} {env : Env W Ω} {s s' : Tx Ω} {pi : ProcessInstance} {tenantId : TenantId} {w w' : W}

theorem loadProcessInstance_ok {id : Nat} (h : (loadProcessInstance tenantId id).run s = (.ok pi, s')) :
    s' = s ∧ pi ∈ s.view.processInstances ∧ pi.m8fTenantId = tenantId ∧ pi.id = id := by
  have hs := (loadProcessInstance_readOnly tenantId id).state h
  unfold loadProcessInstance query at h
  simp only [Prog.gets_bind_run, Prog.orRaise_ok] at h
  have hkey := List.find?_some h.1
  simp only [Bool.and_eq_true, beq_iff_eq] at hkey
  exact ⟨hs, List.mem_of_find?_eq_some h.1, hkey⟩

theorem openProcessInstanceCommand_ok {processInstanceId userId : Nat} {commandKey : String}
    (h : (openProcessInstanceCommand env tenantId processInstanceId userId commandKey).run s = (.ok pi, s')) :
    s' = s ∧ pi ∈ s.view.processInstances ∧ pi.m8fTenantId = tenantId ∧ pi.id = processInstanceId := by
  have hs := (openProcessInstanceCommand_readOnly tenantId processInstanceId userId commandKey).state h
  unfold openProcessInstanceCommand at h
  obtain ⟨_, s₁, hmember, h₁⟩ := Prog.bind_ok.1 h
  obtain rfl := (ensureUserBelongsToTenant_readOnly _ _).state hmember
  obtain ⟨pi', s₂, hload, h₂⟩ := Prog.bind_ok.1 h₁
  obtain ⟨rfl, hmem, htenant, hid⟩ := loadProcessInstance_ok hload
  obtain ⟨_, s₃, -, h₃⟩ := Prog.bind_ok.1 h₂
  obtain ⟨rfl, -⟩ := Prog.pure_ok.1 h₃
  exact ⟨hs, hmem, htenant, hid⟩

/-- A recorded event is one more row. -/
theorem recordProcessInstanceEvent_ok {processInstanceId : Nat} {eventType : EventType} {occurredAt : Time}
    {taskGuid : Option Guid} {userId : Option Nat}
    (h : (recordProcessInstanceEvent tenantId processInstanceId eventType occurredAt taskGuid userId).run s = (.ok (), s')) :
    ∃ row : ProcessInstanceEvent, row.processInstanceId = processInstanceId ∧ row.eventType = eventType ∧
      s' = { s with seq := s.seq + 1, view := { s.view with events := s.view.events ++ [row] } } := by
  have hinsert : ∀ {s s' : Tx Ω}, (do
      let _ ← loadProcessInstance tenantId processInstanceId
      let _ ← insert fun id db =>
        { db with
          events := db.events ++
            [{ id := id, m8fTenantId := tenantId, taskGuid := taskGuid, processInstanceId := processInstanceId,
               eventType := eventType, category := eventType.category, occurredAt := occurredAt, userId := userId }] }
      pure () : M Ω Unit).run s = (.ok (), s') →
      ∃ row : ProcessInstanceEvent, row.processInstanceId = processInstanceId ∧ row.eventType = eventType ∧
        s' = { s with seq := s.seq + 1, view := { s.view with events := s.view.events ++ [row] } } := by
    intro s s' h
    obtain ⟨_, s₁, hload, h₁⟩ := Prog.bind_ok.1 h
    obtain rfl := (loadProcessInstance_readOnly _ _).state hload
    obtain ⟨-, rfl⟩ := Prod.mk.inj h₁
    exact ⟨_, rfl, rfl, rfl⟩
  unfold recordProcessInstanceEvent at h
  dsimp only at h
  cases userId with
  | none => exact hinsert h
  | some userId =>
    obtain ⟨_, s₁, hmember, h₁⟩ := Prog.bind_ok.1 h
    obtain rfl := (ensureUserBelongsToTenant_readOnly _ _).state hmember
    exact hinsert h₁

/-- An event is recorded for an instance of the tenant. -/
theorem recordProcessInstanceEvent_found {processInstanceId : Nat} {eventType : EventType} {occurredAt : Time}
    {taskGuid : Option Guid} {userId : Option Nat}
    (h : (recordProcessInstanceEvent tenantId processInstanceId eventType occurredAt taskGuid userId).run s = (.ok (), s')) :
    ∃ p ∈ s.view.processInstances, p.id = processInstanceId ∧ p.m8fTenantId = tenantId := by
  have hload : ∀ {s s' : Tx Ω} {k : ProcessInstance → M Ω Unit},
      (loadProcessInstance tenantId processInstanceId >>= k).run s = (.ok (), s') →
      ∃ p ∈ s.view.processInstances, p.id = processInstanceId ∧ p.m8fTenantId = tenantId := by
    intro s s' k h
    obtain ⟨p, s₁, hload, -⟩ := Prog.bind_ok.1 h
    obtain ⟨-, hp, htenant, hid⟩ := loadProcessInstance_ok hload
    exact ⟨p, hp, hid, htenant⟩
  unfold recordProcessInstanceEvent at h
  dsimp only at h
  cases userId with
  | none => exact hload h
  | some userId =>
    obtain ⟨_, s₁, hmember, h₁⟩ := Prog.bind_ok.1 h
    obtain rfl := (ensureUserBelongsToTenant_readOnly _ _).state hmember
    exact hload h₁

/-- A run of the workflow that returns has asked the world, and nothing else. -/
theorem runWorkflow_ok {occurredAt : Time} {autonomous : Bool}
    (h : (runWorkflowWithServiceTaskFailureHandling env tenantId pi w occurredAt autonomous).run s = (.ok w', s')) :
    env.runAll (some (pi.serviceContext tenantId)) w s.world = ((none, w'), s'.world) ∧
      s' = { s with world := s'.world } := by
  unfold runWorkflowWithServiceTaskFailureHandling at h
  obtain ⟨⟨raised, w₁⟩, s₁, hask, h₁⟩ := Prog.bind_ok.1 h
  simp only [ask, Prod.mk.injEq, Except.ok.injEq] at hask
  obtain ⟨hresult, rfl⟩ := hask
  cases raised with
  | none =>
    obtain ⟨rfl, rfl⟩ := Prog.pure_ok.1 h₁
    exact ⟨Prod.ext hresult rfl, rfl⟩
  | some e =>
    have hraise : ∀ {message : String} {s₂ s₃ : Tx Ω}, (do
        transitionToErrorForServiceTaskFailure env tenantId pi w₁ occurredAt false
        Prog.raise (.serviceTaskExecution message) : M Ω W).run s₂ ≠ (.ok w', s₃) := by
      intro message s₂ s₃ h₂
      obtain ⟨_, s₄, -, h₃⟩ := Prog.bind_ok.1 h₂
      simp at h₃
    cases e with
    | serviceTaskExecution message =>
      dsimp only at h₁
      cases autonomous with
      | true =>
        obtain ⟨saved, s₂, -, h₂⟩ := Prog.bind_ok.1 h₁
        cases saved with
        | true => simp at h₂
        | false => exact absurd h₂ hraise
      | false => exact absurd h₁ hraise
    | _ => simp at h₁

/-- What `orRaised` returns is the workflow of an operation that did not raise. -/
theorem orRaised_ok {result : Option Error × W} (h : (orRaised result).run s = (.ok w, s')) :
    result = (none, w) ∧ s' = s := by
  obtain ⟨raised, w₁⟩ := result
  unfold orRaised at h
  cases raised with
  | none =>
    obtain ⟨rfl, rfl⟩ := Prog.pure_ok.1 h
    exact ⟨rfl, rfl⟩
  | some e => simp at h

theorem ofExcept_ok {α : Type} {r : Except Error α} {a : α} (h : (ofExcept r).run s = (.ok a, s')) : r = .ok a ∧ s' = s := by
  cases r with
  | ok b =>
    obtain ⟨rfl, rfl⟩ := Prog.pure_ok.1 h
    exact ⟨rfl, rfl⟩
  | error e => simp [ofExcept] at h

/-! ## Advancing, waking, rerunning -/

/-- The workflow `complete_task` saves: the task completed, then everything run. -/
def Completed (env : Env W Ω) (tenantId : TenantId) (pi : ProcessInstance) (w : W) (guid : Guid) (w' : W) : Prop :=
  ∃ metadata w₁ ω₁ ω₂ ω₃ ω₄, (env.tasks w).any (·.id == guid) = true ∧
    env.complete (pi.serviceContext tenantId) (applyMetadataToTask env w guid metadata) guid ω₁ = ((none, w₁), ω₂) ∧
    env.runAll (some (pi.serviceContext tenantId)) w₁ ω₃ = ((none, w'), ω₄)

/-- The workflow a wake-up saves: the timers refreshed, then everything run. -/
def Woken (env : Env W Ω) (tenantId : TenantId) (pi : ProcessInstance) (w w' : W) : Prop :=
  ∃ w₁ ω₁ ω₂ ω₃ ω₄, env.refreshWaitingTasks (pi.serviceContext tenantId) w ω₁ = ((none, w₁), ω₂) ∧
    env.runAll (some (pi.serviceContext tenantId)) w₁ ω₃ = ((none, w'), ω₄)

/-- The workflow a retry saves: the failed tasks reset, then everything run. -/
def Rerun (env : Env W Ω) (tenantId : TenantId) (pi : ProcessInstance) (w w' : W) : Prop :=
  ∃ metadata w₁ ω₁ ω₂, env.erroredServiceTasks (applyMetadataToWorkflow env w metadata) ≠ [] ∧
    resetFromTaskIds env (applyMetadataToWorkflow env w metadata)
      (Dict.update (env.data (applyMetadataToWorkflow env w metadata)) metadata)
      ((env.erroredServiceTasks (applyMetadataToWorkflow env w metadata)).map (·.id)) = (none, w₁) ∧
    env.runAll (some (pi.serviceContext tenantId)) w₁ ω₁ = ((none, w'), ω₂)

/-- A workflow restored, run and saved, in a session that only the world has
moved in between. -/
def RunAndSaved (env : Env W Ω) (pi : ProcessInstance) (next : W → W → Prop) (s s' : Tx Ω) : Prop :=
  ∃ state w w' occurredAt ω, s.view.workflowStateJson pi = some state ∧ env.deserializeJson state = .ok w ∧ next w w' ∧
    (saveWorkflow env pi w' occurredAt false).run { s with world := ω } = (.ok (), s')

theorem advanceProcessInstanceWorkflow_ok {processInstanceId : Nat} {guid : Guid} {completedAt : Option Time}
    (h : (advanceProcessInstanceWorkflow env tenantId processInstanceId guid completedAt).run s = (.ok (), s')) :
    ∃ pi ∈ s.view.processInstances, pi.m8fTenantId = tenantId ∧ pi.id = processInstanceId ∧
      (s' = s ∧ (s.view.workflowStateJson pi = none ∨ pi.hasTerminalStatus = true) ∨
        pi.hasTerminalStatus = false ∧ RunAndSaved env pi (Completed env tenantId pi · guid) s s') := by
  unfold advanceProcessInstanceWorkflow at h
  obtain ⟨pi, s₁, hload, h₁⟩ := Prog.bind_ok.1 h
  obtain ⟨rfl, hpi, htenant, hid⟩ := loadProcessInstance_ok hload
  refine ⟨pi, hpi, htenant, hid, ?_⟩
  simp only [query, Prog.gets_bind_run] at h₁
  cases hstate : s₁.view.workflowStateJson pi with
  | none =>
    simp only [hstate] at h₁
    exact .inl ⟨(Prog.pure_ok.1 h₁).2.symm, .inl rfl⟩
  | some state =>
    simp only [hstate] at h₁
    split at h₁
    · rename_i hterminal
      exact .inl ⟨(Prog.pure_ok.1 h₁).2.symm, .inr hterminal⟩
    · rename_i hterminal
      refine .inr ⟨by simpa using hterminal, ?_⟩
      simp only [resolveTimestamp, Prog.gets_bind_run] at h₁
      obtain ⟨w, s₂, hrestore, h₂⟩ := Prog.bind_ok.1 h₁
      obtain ⟨hw, rfl⟩ := ofExcept_ok hrestore
      split at h₂
      · rename_i hhas
        obtain ⟨metadata, s₃, hmetadata, h₃⟩ := Prog.bind_ok.1 h₂
        obtain rfl := (loadProcessInstanceMetadataPayload_readOnly _ _).state hmetadata
        obtain ⟨completed, s₄, hcomplete, h₄⟩ := Prog.bind_ok.1 h₃
        simp only [ask, Prod.mk.injEq, Except.ok.injEq] at hcomplete
        obtain ⟨hresult, rfl⟩ := hcomplete
        obtain ⟨w₁, s₅, hraised, h₅⟩ := Prog.bind_ok.1 h₄
        obtain ⟨rfl, rfl⟩ := orRaised_ok hraised
        obtain ⟨w', s₆, hrun, hsave⟩ := Prog.bind_ok.1 h₅
        obtain ⟨hrunAll, hs₆⟩ := runWorkflow_ok hrun
        rw [hs₆] at hsave
        exact ⟨state, w, w', _, _, hstate, hw, ⟨metadata, w₁, _, _, _, _, hhas, Prod.ext hresult rfl, hrunAll⟩, hsave⟩
      · simp at h₂

theorem refreshWaitingProcessInstanceWorkflow_ok {processInstanceId : Nat} {occurredAt : Option Time}
    (h : (refreshWaitingProcessInstanceWorkflow env tenantId processInstanceId occurredAt).run s = (.ok (), s')) :
    ∃ pi ∈ s.view.processInstances, pi.m8fTenantId = tenantId ∧ pi.id = processInstanceId ∧
      (s' = s ∧ (s.view.workflowStateJson pi = none ∨ pi.hasTerminalStatus = true) ∨
        pi.hasTerminalStatus = false ∧ RunAndSaved env pi (Woken env tenantId pi) s s') := by
  unfold refreshWaitingProcessInstanceWorkflow at h
  obtain ⟨pi, s₁, hload, h₁⟩ := Prog.bind_ok.1 h
  obtain ⟨rfl, hpi, htenant, hid⟩ := loadProcessInstance_ok hload
  refine ⟨pi, hpi, htenant, hid, ?_⟩
  simp only [query, Prog.gets_bind_run] at h₁
  cases hstate : s₁.view.workflowStateJson pi with
  | none =>
    simp only [hstate] at h₁
    exact .inl ⟨(Prog.pure_ok.1 h₁).2.symm, .inl rfl⟩
  | some state =>
    simp only [hstate] at h₁
    split at h₁
    · rename_i hterminal
      exact .inl ⟨(Prog.pure_ok.1 h₁).2.symm, .inr hterminal⟩
    · rename_i hterminal
      refine .inr ⟨by simpa using hterminal, ?_⟩
      simp only [resolveTimestamp, Prog.gets_bind_run] at h₁
      obtain ⟨w, s₂, hrestore, h₂⟩ := Prog.bind_ok.1 h₁
      obtain ⟨hw, rfl⟩ := ofExcept_ok hrestore
      obtain ⟨refreshed, s₃, hrefresh, h₃⟩ := Prog.bind_ok.1 h₂
      simp only [ask, Prod.mk.injEq, Except.ok.injEq] at hrefresh
      obtain ⟨hresult, rfl⟩ := hrefresh
      obtain ⟨w₁, s₄, hraised, h₄⟩ := Prog.bind_ok.1 h₃
      obtain ⟨rfl, rfl⟩ := orRaised_ok hraised
      obtain ⟨w', s₅, hrun, hsave⟩ := Prog.bind_ok.1 h₄
      obtain ⟨hrunAll, hs₅⟩ := runWorkflow_ok hrun
      rw [hs₅] at hsave
      exact ⟨state, w, w', _, _, hstate, hw, ⟨w₁, _, _, _, _, Prod.ext hresult rfl, hrunAll⟩, hsave⟩

theorem retryErroredServiceTaskWorkflowIfNeeded_ok {processInstanceId : Nat} {occurredAt : Option Time}
    (h : (retryErroredServiceTaskWorkflowIfNeeded env tenantId processInstanceId occurredAt).run s = (.ok (), s')) :
    ∃ pi ∈ s.view.processInstances, pi.m8fTenantId = tenantId ∧ pi.id = processInstanceId ∧
      (s' = s ∧ (s.view.workflowStateJson pi = none ∨ ∃ state w metadata, s.view.workflowStateJson pi = some state ∧
          env.deserializeJson state = .ok w ∧ env.erroredServiceTasks (applyMetadataToWorkflow env w metadata) = []) ∨
        RunAndSaved env pi (Rerun env tenantId pi) s s') := by
  unfold retryErroredServiceTaskWorkflowIfNeeded at h
  obtain ⟨pi, s₁, hload, h₁⟩ := Prog.bind_ok.1 h
  obtain ⟨rfl, hpi, htenant, hid⟩ := loadProcessInstance_ok hload
  refine ⟨pi, hpi, htenant, hid, ?_⟩
  simp only [query, Prog.gets_bind_run] at h₁
  cases hstate : s₁.view.workflowStateJson pi with
  | none =>
    simp only [hstate] at h₁
    exact .inl ⟨(Prog.pure_ok.1 h₁).2.symm, .inl rfl⟩
  | some state =>
    simp only [hstate, resolveTimestamp, Prog.gets_bind_run] at h₁
    obtain ⟨w, s₂, hrestore, h₂⟩ := Prog.bind_ok.1 h₁
    obtain ⟨hw, rfl⟩ := ofExcept_ok hrestore
    obtain ⟨metadata, s₃, hmetadata, h₃⟩ := Prog.bind_ok.1 h₂
    obtain rfl := (loadProcessInstanceMetadataPayload_readOnly _ _).state hmetadata
    cases herrored : env.erroredServiceTasks (applyMetadataToWorkflow env w metadata) with
    | nil =>
      simp only [herrored, List.map_nil] at h₃
      exact .inl ⟨(Prog.pure_ok.1 h₃).2.symm, .inr ⟨state, w, metadata, rfl, hw, herrored⟩⟩
    | cons t ts =>
      simp only [herrored, List.map_cons] at h₃
      obtain ⟨w₁, s₄, hraised, h₄⟩ := Prog.bind_ok.1 h₃
      obtain ⟨hreset, rfl⟩ := orRaised_ok hraised
      obtain ⟨w', s₅, hrun, hsave⟩ := Prog.bind_ok.1 h₄
      obtain ⟨hrunAll, hs₅⟩ := runWorkflow_ok hrun
      rw [hs₅] at hsave
      refine .inr ⟨state, w, w', _, _, hstate, hw, ⟨metadata, w₁, _, _, by simp [herrored], ?_, hrunAll⟩, hsave⟩
      rw [herrored]
      exact hreset

end
end M8flowCore
