import M8flowCore.Operations
/-!
# What stays after a rollback

However a call ends, the committed database moves only where the library
commits by itself: an instance is created ahead of its start, and an instance
whose service task fails goes to `error`.
-/
open M8flowCore.Lib M8flowCore.Session

namespace M8flowCore

section
variable {W Ω α : Type} {env : Env W Ω} {F : Focus} {L : List Touch} {s s' : Tx Ω} {pi : ProcessInstance} {w : W}
  {tenantId : TenantId}

/-! ## Inside the session -/

/-- Nothing is committed, and no id is taken back. -/
structure Inside (s s' : Tx Ω) : Prop where
  committed : s'.committed = s.committed
  seq : s.seq ≤ s'.seq

theorem frame_inside : Prog.Frame (Inside (Ω := Ω)) :=
  ⟨fun _ => ⟨rfl, le_refl _⟩, fun h₁ h₂ => ⟨h₂.committed.trans h₁.committed, h₁.seq.trans h₂.seq⟩⟩

theorem inside_of_steps (h : Steps (Change env F) L s s') : Inside s s' := ⟨(committed_of_steps h).2, seq_of_steps h⟩

theorem inside_of_touches {m : M Ω α} (h : Touches (Change env F) L m) : m.Keeps Inside := fun s => inside_of_steps (h s)

theorem Aside.inside (h : Aside s s') : Inside s s' := ⟨h.committed, h.seq⟩

theorem write_inside (f : Db → Db) : (write (Ω := Ω) f).Keeps Inside := fun _ => ⟨rfl, le_refl _⟩

theorem insert_inside (f : Nat → Db → Db) : (Session.insert (Ω := Ω) f).Keeps Inside := fun _ => ⟨rfl, Nat.le_succ _⟩

/-! ## What the library commits -/

/-- What a rollback leaves of a call. -/
structure Left (s s' : Tx Ω) : Prop where
  seq : s.seq ≤ s'.seq
  filed : Filed s.seq s.committed → Filed s'.seq s'.committed
  paths : Filed s.seq s.committed → ∀ j,
    Path (fun c => c = .create ∨ c = .fail) (s.committed.life j) (s'.committed.life j)

theorem frame_left : Prog.Frame (Left (Ω := Ω)) where
  refl _ := ⟨le_refl _, fun h => h, fun _ _ => .refl _⟩
  trans h₁ h₂ := ⟨h₁.seq.trans h₂.seq, fun h => h₂.filed (h₁.filed h), fun h j => (h₁.paths h j).trans (h₂.paths (h₁.filed h) j)⟩

theorem Inside.left (h : Inside s s') : Left s s' := by
  refine ⟨h.seq, fun hfiled => ?_, fun _ j => ?_⟩
  · rw [h.committed]
    exact hfiled.mono h.seq
  · rw [h.committed]
    exact .refl _

theorem left_of_inside {m : M Ω α} (h : m.Keeps Inside) : m.Keeps Left := h.mono fun _ _ => Inside.left

theorem left_of_touches {m : M Ω α} (h : Touches (Change env F) L m) : m.Keeps Left := left_of_inside (inside_of_touches h)

theorem left_of_aside {m : M Ω α} (h : m.Keeps Aside) : m.Keeps Left := h.mono fun _ _ ha => ha.inside.left

theorem left_of_readOnly {m : M Ω α} (h : m.ReadOnly) : m.Keeps Left := h.keeps frame_left

/-- A session of the library's own: what it leaves if it returns. -/
theorem independently_left {m : M Ω α} (hm : m.Keeps Inside)
    (hreturn : ∀ s a s', Filed s.seq s.view → m.run s = (.ok a, s') → Filed s'.seq s'.view ∧
      ∀ j, Path (fun c => c = .create ∨ c = .fail) (s.view.life j) (s'.view.life j)) :
    (independently m).Keeps Left := by
  intro s
  have hinside := hm s.fork
  rcases hrun : m.run s.fork with ⟨e | a, s₁⟩
  · rw [hrun] at hinside
    rw [independently_error hrun]
    exact ⟨hinside.seq, fun h => h.mono hinside.seq, fun _ _ => .refl _⟩
  · rw [hrun] at hinside
    rw [independently_ok hrun]
    exact ⟨hinside.seq, fun h => (hreturn s.fork a s₁ h hrun).1, fun h => (hreturn s.fork a s₁ h hrun).2⟩

/-! ## Failing service tasks -/

/-- A failure stored in a session of its own takes the instance to `error`. -/
theorem transitionToError_moved (hfiled : Filed s.seq s.view) (hpi : pi ∈ s.view.processInstances) {occurredAt : Time}
    (h : (transitionToErrorForServiceTaskFailure env tenantId pi w occurredAt true).run s = (.ok (), s')) :
    Moved (· = .fail) pi.id s s' := by
  rw [transitionToErrorForServiceTaskFailure_eq] at h
  obtain ⟨_, s₁, hpersist, h₁⟩ := Prog.bind_ok.1 h
  obtain ⟨_, s₂, hevent, h₂⟩ := Prog.bind_ok.1 h₁
  have hnote : Steps (Change env pi.focus) [.seq, .note] s₁ s₂ :=
    (recordTaskFailed_notes rfl _ (List.Subset.refl _)).steps hevent
  obtain ⟨_, s₃, hstarted, h₃⟩ := Prog.bind_ok.1 h₂
  obtain ⟨_, s₄, hprocess, h₄⟩ := Prog.bind_ok.1 h₃
  have hcalm : Steps (Change env pi.focus) [.details, .json, .snapshot, .seq, .note, .process] s s₄ := by
    refine .trans ((persistWorkflowRecoveryState_touches pi.focus_of (pi.focus_covers w) (by decide)).steps hpersist) ?_
    refine .trans (hnote.mono (by decide)) (.trans (Touches.steps ?_ hstarted) (Touches.steps ?_ hprocess))
    · exact updateInstance_touches rfl (by decide) fun _ => ⟨rfl, rfl⟩
    · exact updateBpmnProcess_touches pi.focus_of (fun _ => ⟨rfl, rfl⟩) (by decide)
  simp only [updateInstance, write, Prog.modify_bind_run] at h₄
  -- An instance in `error` is taken out of it first.
  have hflip : ∀ p : ProcessInstance, (if p.status = .error then { p with status := .running } else p).identity = p.identity := by
    intro p
    split <;> rfl
  have hsteps₅ : Steps (Change env pi.focus) [.details, .json, .snapshot, .seq, .note, .process, .status] s
      { s₄ with view := s₄.view.updateInstance pi.id fun p => if p.status = .error then { p with status := .running } else p } :=
    .trans (hcalm.mono (by decide)) (.one (by decide) (.status s₄ _ hflip))
  have hwithin₅ : Within pi.id s _ := .of_steps hfiled (stands_of_mem hpi) hsteps₅
  have hlife₅ : ∃ l, s.view.life pi.id = some l ∧ (s₄.view.updateInstance pi.id fun p =>
      if p.status = .error then { p with status := .running } else p).life pi.id =
        some { l with phase := if l.phase.status = .error then ⟨.running, l.phase.endedAt⟩ else l.phase } := by
    refine ⟨_, life_of_mem hfiled hpi, ?_⟩
    rw [life_updateInstance (fun p => if p.status = .error then ⟨.running, p.endedAt⟩ else p) hflip, life_of_calm (by decide) hcalm,
      life_of_mem hfiled hpi]
    · rfl
    · intro p
      unfold ProcessInstance.phase
      dsimp only
      split <;> rfl
  obtain ⟨l, hl, hl₅⟩ := hlife₅
  obtain ⟨pi', hpi', hid, ⟨herror, -⟩ | ⟨hopen, hrecord⟩⟩ := errorProcessInstance_ok h₄
  · have hl' := life_of_mem hwithin₅.filed hpi'
    rw [hid] at hl'
    rw [hl', Option.some.injEq] at hl₅
    have hphase := congrArg (fun l : Life => l.phase.status) hl₅
    simp only [ProcessInstance.phase, herror] at hphase
    split at hphase
    · simp at hphase
    · rename_i hne
      exact absurd hphase.symm hne
  · have hclosed := closed_life hwithin₅.filed hpi' hrecord (fun _ => ⟨rfl, rfl⟩) rfl
    have hmoved := errorProcessInstance_moved env hwithin₅.filed h₄
    refine (hwithin₅.trans hmoved.within).moved ?_
    have hl' := life_of_mem hwithin₅.filed hpi'
    rw [hid] at hl' hclosed
    rw [hl', Option.some.injEq] at hl₅
    have hhistory := congrArg Life.history hl₅
    rw [hl, hclosed]
    dsimp only at hhistory ⊢
    rw [hhistory]
    -- `error_process_instance` refuses an instance that is complete or terminated.
    have hkept : l.phase.status ≠ .error → pi'.phase.status = l.phase.status := by
      intro hne
      have hphase := congrArg Life.phase hl₅
      dsimp only at hphase
      rw [hphase, if_neg hne]
    have hopen' : pi'.phase.status.isTerminal = false := hopen
    refine .one (C := (· = .fail)) rfl (.fail l ?_ ?_ _)
    · intro hcomplete
      rw [hkept (by simp [hcomplete]), hcomplete] at hopen'
      simp [ProcessInstanceStatus.isTerminal] at hopen'
    · intro hterminated
      rw [hkept (by simp [hterminated]), hterminated] at hopen'
      simp [ProcessInstanceStatus.isTerminal] at hopen'

variable (env) in
theorem transitionToError_inside (tenantId : TenantId) (pi : ProcessInstance) (w : W) (occurredAt : Time)
    (recoveryOnly : Bool) :
    (transitionToErrorForServiceTaskFailure env tenantId pi w occurredAt recoveryOnly).Keeps Inside :=
  inside_of_touches (transitionToError_touches tenantId pi.focus_of (pi.focus_covers w) occurredAt recoveryOnly
    (List.subset_cons_self _ _) fun _ => List.mem_cons_self)

variable (env) in
theorem persistServiceTaskFailureState_left (tenantId : TenantId) (processInstanceId : Nat) (w : W) (occurredAt : Time) :
    (persistServiceTaskFailureState env tenantId processInstanceId w occurredAt).Keeps Left := by
  refine Prog.keeps_bind frame_left (independently_left ?_ ?_) fun saved => ?_
  · exact Prog.keeps_bind frame_inside ((loadProcessInstance_readOnly _ _).keeps frame_inside) fun pi =>
      transitionToError_inside env _ _ _ _ _
  · intro s _ s' hfiled h
    unfold storeServiceTaskFailure at h
    obtain ⟨pi, s₁, hload, h₁⟩ := Prog.bind_ok.1 h
    obtain ⟨rfl, hpi, -, -⟩ := loadProcessInstance_ok hload
    have hmoved := transitionToError_moved hfiled hpi h₁
    refine ⟨hmoved.filed, fun j => ?_⟩
    by_cases hj : j = pi.id
    · subst hj
      exact hmoved.path.mono fun c hc => .inr hc
    · rw [hmoved.others j hj]
      exact .refl _
  · cases saved <;> exact Prog.keeps_pure frame_left _

variable (env) in
theorem runWorkflow_left (tenantId : TenantId) (pi : ProcessInstance) (w : W) (occurredAt : Time) (autonomous : Bool) :
    (runWorkflowWithServiceTaskFailureHandling env tenantId pi w occurredAt autonomous).Keeps Left := by
  have htransition : ∀ (w : W) (message : String), Prog.Keeps Left (do
      transitionToErrorForServiceTaskFailure env tenantId pi w occurredAt false
      Prog.raise (.serviceTaskExecution message) : M Ω W) := fun w message =>
    Prog.keeps_bind frame_left (left_of_inside (transitionToError_inside env _ _ _ _ _)) fun _ =>
      Prog.keeps_raise frame_left _
  refine Prog.keeps_bind frame_left (left_of_aside (ask_aside _)) ?_
  rintro ⟨raised, w⟩
  dsimp only
  split
  · exact Prog.keeps_pure frame_left _
  · rename_i message
    cases autonomous with
    | false => exact htransition w message
    | true =>
      refine Prog.keeps_bind frame_left (persistServiceTaskFailureState_left env _ _ _ _) fun saved => ?_
      cases saved with
      | false => exact htransition w message
      | true => exact Prog.keeps_raise frame_left _
  · exact Prog.keeps_raise frame_left _

/-! ## The workflow runtime -/

theorem query_left (f : Db → α) : (query (Ω := Ω) f).Keeps Left := Prog.keeps_gets frame_left _

variable (env) in
theorem saveWorkflow_left (pi : ProcessInstance) (w : W) (occurredAt : Time) (starting : Bool) :
    (saveWorkflow env pi w occurredAt starting).Keeps Left :=
  left_of_touches (saveWorkflow_touches pi.focus_of (pi.focus_covers w) _ _ (List.Subset.refl _))

variable (env) in
theorem resolveTimestamp_left (t : Option Time) : (resolveTimestamp env t).Keeps Left := Prog.keeps_gets frame_left _

variable (env) in
theorem advanceProcessInstanceWorkflow_left (tenantId : TenantId) (processInstanceId : Nat) (guid : Guid)
    (completedAt : Option Time) :
    (advanceProcessInstanceWorkflow env tenantId processInstanceId guid completedAt).Keeps Left := by
  refine Prog.keeps_bind frame_left (left_of_readOnly (loadProcessInstance_readOnly _ _)) fun pi => ?_
  refine Prog.keeps_bind frame_left (query_left _) fun state => ?_
  cases state with
  | none => exact Prog.keeps_pure frame_left _
  | some state =>
    dsimp only
    split
    · exact Prog.keeps_pure frame_left _
    · refine Prog.keeps_bind frame_left (resolveTimestamp_left env _) fun occurredAt => ?_
      refine Prog.keeps_bind frame_left (left_of_readOnly (ofExcept_readOnly _)) fun w => ?_
      split
      · refine Prog.keeps_bind frame_left (left_of_readOnly (loadProcessInstanceMetadataPayload_readOnly _ _)) fun metadata => ?_
        refine Prog.keeps_bind frame_left (left_of_aside (ask_aside _)) fun completed => ?_
        refine Prog.keeps_bind frame_left (left_of_aside (orRaised_aside _)) fun w => ?_
        exact Prog.keeps_bind frame_left (runWorkflow_left env _ _ _ _ _) fun w => saveWorkflow_left env _ _ _ _
      · exact Prog.keeps_raise frame_left _

variable (env) in
theorem refreshWaitingProcessInstanceWorkflow_left (tenantId : TenantId) (processInstanceId : Nat)
    (occurredAt : Option Time) :
    (refreshWaitingProcessInstanceWorkflow env tenantId processInstanceId occurredAt).Keeps Left := by
  refine Prog.keeps_bind frame_left (left_of_readOnly (loadProcessInstance_readOnly _ _)) fun pi => ?_
  refine Prog.keeps_bind frame_left (query_left _) fun state => ?_
  cases state with
  | none => exact Prog.keeps_pure frame_left _
  | some state =>
    dsimp only
    split
    · exact Prog.keeps_pure frame_left _
    · refine Prog.keeps_bind frame_left (resolveTimestamp_left env _) fun timestamp => ?_
      refine Prog.keeps_bind frame_left (left_of_readOnly (ofExcept_readOnly _)) fun w => ?_
      refine Prog.keeps_bind frame_left (left_of_aside (ask_aside _)) fun refreshed => ?_
      refine Prog.keeps_bind frame_left (left_of_aside (orRaised_aside _)) fun w => ?_
      exact Prog.keeps_bind frame_left (runWorkflow_left env _ _ _ _ _) fun w => saveWorkflow_left env _ _ _ _

variable (env) in
theorem retryErroredServiceTaskWorkflowIfNeeded_left (tenantId : TenantId) (processInstanceId : Nat)
    (occurredAt : Option Time) :
    (retryErroredServiceTaskWorkflowIfNeeded env tenantId processInstanceId occurredAt).Keeps Left := by
  refine Prog.keeps_bind frame_left (left_of_readOnly (loadProcessInstance_readOnly _ _)) fun pi => ?_
  refine Prog.keeps_bind frame_left (query_left _) fun state => ?_
  cases state with
  | none => exact Prog.keeps_pure frame_left _
  | some state =>
    refine Prog.keeps_bind frame_left (resolveTimestamp_left env _) fun timestamp => ?_
    refine Prog.keeps_bind frame_left (left_of_readOnly (ofExcept_readOnly _)) fun w => ?_
    refine Prog.keeps_bind frame_left (left_of_readOnly (loadProcessInstanceMetadataPayload_readOnly _ _)) fun metadata => ?_
    dsimp only
    split
    · exact Prog.keeps_pure frame_left _
    · refine Prog.keeps_bind frame_left (left_of_aside (orRaised_aside _)) fun w => ?_
      exact Prog.keeps_bind frame_left (runWorkflow_left env _ _ _ _ _) fun w => saveWorkflow_left env _ _ _ _

variable (env) in
theorem finalizeInitializedWorkflow_left (tenantId : TenantId) (pi : ProcessInstance) (w : W) (occurredAt : Time) :
    (finalizeInitializedWorkflow env tenantId pi w occurredAt).Keeps Left :=
  left_of_touches (finalizeInitializedWorkflow_touches _ pi.focus_of (pi.focus_covers w) _ (List.Subset.refl _))

variable (env) in
theorem initializeProcessInstanceWorkflow_left (tenantId : TenantId) (processInstanceId : Nat) (source : WorkflowSource)
    (startedAt : Option Time) :
    (initializeProcessInstanceWorkflow env tenantId processInstanceId source startedAt).Keeps Left := by
  refine Prog.keeps_bind frame_left (left_of_readOnly (loadProcessInstance_readOnly _ _)) fun pi => ?_
  split
  · exact Prog.keeps_raise frame_left _
  · refine Prog.keeps_bind frame_left (query_left _) fun state => ?_
    split
    · exact Prog.keeps_raise frame_left _
    · refine Prog.keeps_bind frame_left (resolveTimestamp_left env _) fun occurredAt => ?_
      refine Prog.keeps_bind frame_left (left_of_aside (buildInstanceWorkflow_aside env _ _ _ _)) fun w => ?_
      exact Prog.keeps_bind frame_left (runWorkflow_left env _ _ _ _ _) fun w => finalizeInitializedWorkflow_left env _ _ _ _

/-! ## Starts -/

variable (env) in
theorem prepareProcessInstanceInSession_inside (tenantId : TenantId) (definition : BpmnProcessDefinition)
    (modelIdentifier : String) (args : StartArgs) :
    (prepareProcessInstanceInSession env tenantId definition modelIdentifier args).Keeps Inside := by
  refine Prog.keeps_bind frame_inside (Prog.keeps_orRaise frame_inside _ _) fun bpmnXml => ?_
  refine Prog.keeps_bind frame_inside ((ofExcept_readOnly _).keeps frame_inside) fun selected => ?_
  refine Prog.keeps_bind frame_inside ?_ fun processId => ?_
  · refine Prog.keeps_bind frame_inside ?_ fun hash => insert_inside _
    have htouches : Touches (Change env ⟨tenantId, 0, none, fun _ => True⟩) [.json]
        (createOrUpdateFromPayload env tenantId (newProcessPayload definition.id selected)) :=
      createOrUpdateFromPayload_touches _ _ (List.Subset.refl _)
    exact inside_of_touches htouches
  refine Prog.keeps_bind frame_inside ?_ fun instanceId => ?_
  · refine Prog.keeps_bind frame_inside ((ensureUserBelongsToTenant_readOnly _ _).keeps frame_inside) fun _ => ?_
    exact Prog.keeps_bind frame_inside (Prog.keeps_gets frame_inside _) fun _ => insert_inside _
  refine Prog.keeps_bind frame_inside ?_ fun _ => Prog.keeps_pure frame_inside _
  exact inside_of_touches (F := ⟨tenantId, instanceId, none, fun _ => True⟩)
    (stampProcessInstance_touches _ _ _ _ _ rfl (List.Subset.refl _))

variable (env) in
theorem prepareCommittedProcessInstance_inside (tenantId : TenantId) (definitionId : Nat) (modelIdentifier : String)
    (args : StartArgs) :
    (prepareCommittedProcessInstance env tenantId definitionId modelIdentifier args).Keeps Inside := by
  refine Prog.keeps_bind frame_inside (Prog.keeps_attempt frame_inside ?_ fun e => ?_) fun found => ?_
  · refine Prog.keeps_bind frame_inside ((loadProcessDefinition_readOnly _ _).keeps frame_inside) fun committed => ?_
    exact Prog.keeps_bind frame_inside ((ensureUserBelongsToTenant_readOnly _ _).keeps frame_inside) fun _ =>
      Prog.keeps_pure frame_inside _
  · split
    · exact Prog.keeps_pure frame_inside _
    · exact Prog.keeps_raise frame_inside _
  · cases found with
    | none => exact Prog.keeps_pure frame_inside _
    | some committed =>
      exact Prog.keeps_bind frame_inside (prepareProcessInstanceInSession_inside env _ _ _ _) fun _ =>
        Prog.keeps_pure frame_inside _

variable (env) in
theorem prepareProcessInstanceBaseline_left (tenantId : TenantId) (definition : BpmnProcessDefinition)
    (modelIdentifier : String) (args : StartArgs) :
    (prepareProcessInstanceBaseline env tenantId definition modelIdentifier args).Keeps Left := by
  refine Prog.keeps_bind frame_left
    (independently_left (prepareCommittedProcessInstance_inside env _ _ _ _) ?_) fun prepared => ?_
  · intro s prepared s' hfiled h
    rcases prepareCommittedProcessInstance_ok h with ⟨-, rfl⟩ | ⟨committed, result, -, -, hprepare⟩
    · exact ⟨hfiled, fun _ => .refl _⟩
    · obtain ⟨hid, hadded, hseq, -, -⟩ := prepareProcessInstanceInSession_added hfiled hprepare
      refine ⟨hadded.filed hfiled (by omega) (by omega), fun j => ?_⟩
      by_cases hj : j = result.1
      · subst hj
        exact hadded.path hfiled (by omega) (.inl rfl)
      · rw [hadded.others hj]
        exact .refl _
  · cases prepared with
    | ok result =>
      refine Prog.keeps_bind frame_left ?_ fun _ => Prog.keeps_pure frame_left _
      exact fun _ => Inside.left ⟨rfl, le_refl _⟩
    | error e => exact Prog.keeps_raise frame_left _

variable (env) in
theorem prepareProcessInstance_left (tenantId : TenantId) (definition : BpmnProcessDefinition) (modelIdentifier : String)
    (args : StartArgs) : (prepareProcessInstance env tenantId definition modelIdentifier args).Keeps Left := by
  have hload : ∀ x : Nat × String, Prog.Keeps Left (do
      let pi ← loadProcessInstance (Ω := Ω) tenantId x.1
      pure (pi, x.2)) := fun x =>
    Prog.keeps_bind frame_left (left_of_readOnly (loadProcessInstance_readOnly _ _)) fun _ => Prog.keeps_pure frame_left _
  refine Prog.keeps_bind frame_left (prepareProcessInstanceBaseline_left env _ _ _ _) fun baseline => ?_
  cases baseline with
  | some result => exact hload result
  | none => exact Prog.keeps_bind frame_left (left_of_inside (prepareProcessInstanceInSession_inside env _ _ _ _)) hload

variable (env) in
theorem initializeProcessInstanceFromDefinition_left (tenantId : TenantId) (definitionId : Nat) (args : StartArgs)
    (resolver : Bool) : (initializeProcessInstanceFromDefinition env tenantId definitionId args resolver).Keeps Left := by
  refine Prog.keeps_bind frame_left (left_of_readOnly (ensureUserBelongsToTenant_readOnly _ _)) fun _ => ?_
  refine Prog.keeps_bind frame_left (left_of_readOnly (loadProcessDefinition_readOnly _ _)) fun definition => ?_
  refine Prog.keeps_bind frame_left (left_of_readOnly (requireCommandAuthorization_readOnly _ _ _ _ _ _ _)) fun _ => ?_
  exact Prog.keeps_bind frame_left (prepareProcessInstance_left env _ _ _ _) fun _ =>
    initializeProcessInstanceWorkflow_left env _ _ _ _

variable (env) in
theorem initializeProcessInstanceFromTimerStart_left (tenantId : TenantId) (definitionId userId : Nat) (specName : String)
    (startedAt : Option Time) :
    (initializeProcessInstanceFromTimerStart env tenantId definitionId userId specName startedAt).Keeps Left := by
  refine Prog.keeps_bind frame_left (left_of_readOnly (ensureUserBelongsToTenant_readOnly _ _)) fun _ => ?_
  refine Prog.keeps_bind frame_left (left_of_readOnly (loadProcessDefinition_readOnly _ _)) fun definition => ?_
  refine Prog.keeps_bind frame_left (prepareProcessInstance_left env _ _ _ _) ?_
  rintro ⟨pi, selected⟩
  refine Prog.keeps_bind frame_left (resolveTimestamp_left env _) fun occurredAt => ?_
  refine Prog.keeps_bind frame_left (left_of_aside (buildInstanceWorkflow_aside env _ _ _ _)) fun w => ?_
  refine Prog.keeps_bind frame_left (runWorkflow_left env _ _ _ _ _) fun w => ?_
  refine Prog.keeps_bind frame_left (left_of_readOnly (ofExcept_readOnly _)) fun forced => ?_
  cases forced with
  | none => exact finalizeInitializedWorkflow_left env _ _ _ _
  | some w' =>
    refine Prog.keeps_bind frame_left (left_of_aside (ask_aside _)) fun refreshed => ?_
    refine Prog.keeps_bind frame_left (left_of_aside (orRaised_aside _)) fun w => ?_
    split
    · exact Prog.keeps_bind frame_left (runWorkflow_left env _ _ _ _ _) fun w => finalizeInitializedWorkflow_left env _ _ _ _
    · exact finalizeInitializedWorkflow_left env _ _ _ _

/-! ## Commands -/

/-- A focus on an instance, for programs whose footprint does not matter beyond it. -/
def Focus.on (tenantId : TenantId) (instanceId : Nat) : Focus := ⟨tenantId, instanceId, none, fun _ => True⟩

theorem pure_left (a : α) : (pure a : M Ω α).Keeps Left := Prog.keeps_pure frame_left a

theorem raise_left (e : Error) : (Prog.raise e : M Ω α).Keeps Left := Prog.keeps_raise frame_left e

theorem recordProcessInstanceEvent_left (env : Env W Ω) (tenantId : TenantId) (processInstanceId : Nat) (eventType : EventType)
    (occurredAt : Time) (taskGuid : Option Guid) (userId : Option Nat) :
    (recordProcessInstanceEvent (Ω := Ω) tenantId processInstanceId eventType occurredAt taskGuid userId).Keeps Left := by
  have htouches : Touches (Change env (.on tenantId processInstanceId)) _
      (recordProcessInstanceEvent tenantId processInstanceId eventType occurredAt taskGuid userId) :=
    recordProcessInstanceEvent_touches _ rfl _ _ _ _ (List.Subset.refl _)
  exact left_of_touches htouches

variable (env) in
theorem syncOpenWorkItemPotentialOwners_left (tenantId : TenantId) (processInstanceId : Nat) (loaded : Option (List Nat)) :
    (syncOpenWorkItemPotentialOwners env tenantId processInstanceId loaded).Keeps Left :=
  left_of_touches (F := .on tenantId processInstanceId) (syncOpenWorkItemPotentialOwners_touches _ _ _ (List.Subset.refl _))

theorem write_left (f : Db → Db) : (write (Ω := Ω) f).Keeps Left := left_of_inside (write_inside f)

variable (env) in
theorem resumeProcessInstance_left (tenantId : TenantId) (processInstanceId userId : Nat) (at_ : Option Time) :
    (resumeProcessInstance env tenantId processInstanceId userId at_).Keeps Left := by
  refine Prog.keeps_bind frame_left (left_of_readOnly (openProcessInstanceCommand_readOnly _ _ _ _)) fun pi => ?_
  split
  · exact pure_left _
  split
  · exact raise_left _
  split
  · exact raise_left _
  · refine Prog.keeps_bind frame_left (resolveTimestamp_left env _) fun occurredAt => ?_
    refine Prog.keeps_bind frame_left (write_left _) fun _ => ?_
    exact Prog.keeps_bind frame_left (syncOpenWorkItemPotentialOwners_left env _ _ _) fun _ =>
      recordProcessInstanceEvent_left env _ _ _ _ _ _

variable (env) in
theorem retryProcessInstance_left (tenantId : TenantId) (processInstanceId userId : Nat) (at_ : Option Time) :
    (retryProcessInstance env tenantId processInstanceId userId at_).Keeps Left := by
  refine Prog.keeps_bind frame_left (left_of_readOnly (openProcessInstanceCommand_readOnly _ _ _ _)) fun pi => ?_
  split
  · exact raise_left _
  · refine Prog.keeps_bind frame_left (resolveTimestamp_left env _) fun occurredAt => ?_
    refine Prog.keeps_bind frame_left (write_left _) fun _ => ?_
    refine Prog.keeps_bind frame_left (query_left _) fun loaded => ?_
    refine Prog.keeps_bind frame_left (write_left _) fun _ => ?_
    refine Prog.keeps_bind frame_left (retryErroredServiceTaskWorkflowIfNeeded_left env _ _ _) fun _ => ?_
    refine Prog.keeps_bind frame_left (left_of_aside (deleteSchedulerJob_aside _ _)) fun _ => ?_
    refine Prog.keeps_bind frame_left (recordProcessInstanceEvent_left env _ _ _ _ _ _) fun _ => ?_
    exact Prog.keeps_bind frame_left (retryErroredServiceTaskWorkflowIfNeeded_left env _ _ _) fun _ =>
      syncOpenWorkItemPotentialOwners_left env _ _ _

variable (env) in
theorem completeTask_left (tenantId : TenantId) (workItemId userId : Nat) (completedAt : Option Time) (payload : Dict) :
    (completeTask env tenantId workItemId userId completedAt payload).Keeps Left := by
  refine Prog.keeps_bind frame_left (left_of_readOnly (completeTaskChecks_readOnly env _ _ _)) fun item => ?_
  refine Prog.keeps_bind frame_left (resolveTimestamp_left env _) fun completedAt => ?_
  refine Prog.keeps_bind frame_left ?_ fun _ => Prog.keeps_bind frame_left (write_left _) fun _ => ?_
  · exact left_of_touches (F := .on tenantId item.processInstanceId) (persistTaskPayload_touches _ _ _ _ (List.Subset.refl _))
  refine Prog.keeps_bind frame_left (query_left _) fun state => ?_
  cases state with
  | none => exact pure_left _
  | some state =>
    refine Prog.keeps_bind frame_left (advanceProcessInstanceWorkflow_left env _ _ _ _) fun _ => ?_
    refine Prog.keeps_bind frame_left (recordProcessInstanceEvent_left env _ _ _ _ _ _) fun _ => ?_
    refine Prog.keeps_bind frame_left (query_left _) fun status => ?_
    split
    · exact recordProcessInstanceEvent_left env _ _ _ _ _ _
    · exact pure_left _

variable (env) in
theorem claimTask_left (tenantId : TenantId) (workItemId userId : Nat) :
    (claimTask env tenantId workItemId userId).Keeps Left := by
  refine Prog.keeps_bind frame_left (left_of_readOnly (claimTaskChecks_readOnly env _ _ _)) fun item => fun s => ?_
  rw [claimTaskUpdate_run]
  split
  · exact Inside.left ⟨rfl, le_refl _⟩
  · exact Inside.left ⟨rfl, le_refl _⟩

variable (env) in
theorem createProcessInstance_left (tenantId : TenantId) (new : NewProcessInstance) :
    (createProcessInstance env tenantId new).Keeps Left := by
  refine Prog.keeps_bind frame_left (left_of_readOnly (ensureUserBelongsToTenant_readOnly _ _)) fun _ => ?_
  exact Prog.keeps_bind frame_left (resolveTimestamp_left env _) fun occurredAt => left_of_inside (insert_inside _)

variable (env) in
theorem recordEventCommand_left (tenantId : TenantId) (processInstanceId : Nat) (eventType : Option EventType)
    (taskGuid : Option Guid) (userId : Option Nat) (occurredAt : Option Time) :
    (recordEventCommand env tenantId processInstanceId eventType taskGuid userId occurredAt).Keeps Left := by
  refine Prog.keeps_bind frame_left (resolveTimestamp_left env _) fun occurredAt => ?_
  cases eventType with
  | some eventType => exact recordProcessInstanceEvent_left env _ _ _ _ _ _
  | none =>
    have hload : Prog.Keeps Left (do
        let _ ← loadProcessInstance tenantId processInstanceId
        Prog.raise (.validation "Invalid process instance event type") : M Ω Unit) :=
      Prog.keeps_bind frame_left (left_of_readOnly (loadProcessInstance_readOnly _ _)) fun _ => raise_left _
    cases userId with
    | none => exact hload
    | some userId =>
      exact Prog.keeps_bind frame_left (left_of_readOnly (ensureUserBelongsToTenant_readOnly _ _)) fun _ => hload

variable (env) in
theorem executeCommand_left (c : Command) : (executeCommand env c).Keeps Left := by
  cases c with
  | claimTask tenantId workItemId userId => exact claimTask_left env _ _ _
  | completeTask tenantId workItemId userId completedAt payload => exact completeTask_left env _ _ _ _ _
  | recordEvent tenantId processInstanceId eventType taskGuid userId occurredAt =>
    exact recordEventCommand_left env _ _ _ _ _ _
  | createProcessInstance tenantId new =>
    exact Prog.keeps_bind frame_left (createProcessInstance_left env _ _) fun _ => pure_left _
  | importDefinition tenantId userId args =>
    exact Prog.keeps_bind frame_left (left_of_aside (importBpmnProcessDefinition_aside env _ _ _)) fun _ => pure_left _
  | initializeFromDefinition tenantId definitionId args resolver =>
    exact initializeProcessInstanceFromDefinition_left env _ _ _ _
  | initializeWorkflow tenantId processInstanceId source startedAt =>
    exact initializeProcessInstanceWorkflow_left env _ _ _ _
  | upsertMetadata tenantId processInstanceId key value updatedAt createdAt =>
    exact left_of_aside (upsertProcessInstanceMetadata_aside env _ _ _ _ _ _)
  | suspend tenantId processInstanceId userId at_ =>
    exact left_of_touches (F := .on tenantId processInstanceId)
      (suspendProcessInstance_touches _ rfl _ _ (List.Subset.refl _))
  | resume tenantId processInstanceId userId at_ => exact resumeProcessInstance_left env _ _ _ _
  | error tenantId processInstanceId userId at_ =>
    exact left_of_touches (F := .on tenantId processInstanceId)
      (errorProcessInstance_touches _ rfl _ _ (List.Subset.refl _))
  | retry tenantId processInstanceId userId at_ => exact retryProcessInstance_left env _ _ _ _
  | scheduleRetry tenantId processInstanceId userId retryAt at_ =>
    exact left_of_touches (F := .on tenantId processInstanceId)
      (scheduleProcessInstanceRetry_touches _ rfl _ _ _ (List.Subset.refl _))
  | terminate tenantId processInstanceId userId at_ =>
    exact left_of_touches (F := .on tenantId processInstanceId)
      (terminateProcessInstance_touches _ rfl _ _ (List.Subset.refl _))

/-! ## Scheduler passes -/

variable (env) in
theorem executeIntermediateTimerJob_left (job : SchedulerJob) (occurredAt : Time) :
    (executeIntermediateTimerJob env job occurredAt).Keeps Left := by
  have hdelete : (deleteSchedulerJob (Ω := Ω) job.m8fTenantId job.jobKey).Keeps Left :=
    left_of_aside (deleteSchedulerJob_aside _ _)
  unfold executeIntermediateTimerJob
  split
  · exact hdelete
  · refine Prog.keeps_bind frame_left (left_of_readOnly (loadProcessInstance_readOnly _ _)) fun pi => ?_
    split
    · refine Prog.keeps_bind frame_left (query_left _) fun state => ?_
      split
      · exact hdelete
      · exact refreshWaitingProcessInstanceWorkflow_left env _ _ _
    · exact hdelete

variable (env) in
theorem executeProcessRetryJob_left (job : SchedulerJob) (occurredAt : Time) :
    (executeProcessRetryJob env job occurredAt).Keeps Left := by
  have hdelete : (deleteSchedulerJob (Ω := Ω) job.m8fTenantId job.jobKey).Keeps Left :=
    left_of_aside (deleteSchedulerJob_aside _ _)
  unfold executeProcessRetryJob
  split
  · exact hdelete
  · refine Prog.keeps_bind frame_left (left_of_readOnly (loadProcessInstance_readOnly _ _)) fun pi => ?_
    split
    · exact Prog.keeps_bind frame_left (left_of_readOnly (ofExcept_readOnly _)) fun userId =>
        retryProcessInstance_left env _ _ _ _
    · exact hdelete

variable (env) in
theorem executeTimerStartJob_left (job : SchedulerJob) (occurredAt : Time) :
    (executeTimerStartJob env job occurredAt).Keeps Left := by
  have hdelete : (deleteSchedulerJob (Ω := Ω) job.m8fTenantId job.jobKey).Keeps Left :=
    left_of_aside (deleteSchedulerJob_aside _ _)
  unfold executeTimerStartJob
  split
  · exact hdelete
  · refine Prog.keeps_bind frame_left (query_left _) fun definition => ?_
    split
    · exact hdelete
    · refine Prog.keeps_bind frame_left (left_of_readOnly (ofExcept_readOnly _)) fun timerTask => ?_
      refine Prog.keeps_bind frame_left (left_of_aside (ensureTimerStartSystemUser_aside _ _)) fun systemUser => ?_
      refine Prog.keeps_bind frame_left (left_of_readOnly (ofExcept_readOnly _)) fun specName => ?_
      exact Prog.keeps_bind frame_left (initializeProcessInstanceFromTimerStart_left env _ _ _ _ _) fun _ =>
        left_of_aside (rescheduleOrDeleteTimerStartJob_aside env _ _ _)

variable (env) in
theorem executeClaimedSchedulerJob_left (job : SchedulerJob) (occurredAt : Time) :
    (executeClaimedSchedulerJob env job occurredAt).Keeps Left := by
  unfold executeClaimedSchedulerJob
  split
  · exact executeIntermediateTimerJob_left env _ _
  · exact executeProcessRetryJob_left env _ _
  · exact executeTimerStartJob_left env _ _

variable (env) in
theorem attemptSchedulerJob_left (occurredAt : Time) (job : SchedulerJob) :
    (attemptSchedulerJob env occurredAt job).Keeps Left := by
  refine Prog.keeps_attempt frame_left ?_ fun e => ?_
  · exact Prog.keeps_bind frame_left (executeClaimedSchedulerJob_left env _ _) fun _ => pure_left _
  · exact Prog.keeps_bind frame_left (write_left _) fun _ => pure_left _

theorem claimDueSchedulerJobs_left (now : Time) (limit : Int) (workerId : String) (tenant : Option TenantId) :
    (claimDueSchedulerJobs (Ω := Ω) now limit workerId tenant).Keeps Left := by
  unfold claimDueSchedulerJobs
  split
  · exact raise_left _
  · refine Prog.keeps_bind frame_left ?_ fun jobs => Prog.keeps_bind frame_left (write_left _) fun _ => pure_left _
    unfold listDueSchedulerJobs
    split
    · exact raise_left _
    · exact query_left _

variable (env) in
theorem runDueSchedulerJobs_left (now : Option Time) (limit : Int) (workerId : String) (tenant : Option TenantId) :
    (runDueSchedulerJobs env now limit workerId tenant).Keeps Left := by
  refine Prog.keeps_bind frame_left (resolveTimestamp_left env _) fun occurredAt => ?_
  refine Prog.keeps_bind frame_left (claimDueSchedulerJobs_left _ _ _ _) fun jobs => ?_
  refine Prog.keeps_bind frame_left (Prog.keeps_mapEach frame_left fun job _ => attemptSchedulerJob_left env _ _) fun outcomes => ?_
  split
  · exact pure_left _
  · exact raise_left _
  · exact raise_left _

variable (env) in
/-- However an operation ends, what is committed has only seen creations and
failures. -/
theorem Operation.left (op : Operation) : (op.run env).Keeps Left := by
  cases op with
  | command c => exact executeCommand_left env c
  | advance tenantId processInstanceId guid completedAt => exact advanceProcessInstanceWorkflow_left env _ _ _ _
  | assignPendingTasks tenantId userId =>
    exact Prog.keeps_bind frame_left (left_of_aside (assignPendingTasksForUser_aside _ _)) fun _ => pure_left _
  | runDueJobs now limit workerId tenant =>
    exact Prog.keeps_bind frame_left (runDueSchedulerJobs_left env _ _ _ _) fun _ => pure_left _

end
end M8flowCore
