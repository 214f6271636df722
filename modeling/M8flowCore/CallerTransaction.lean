import M8flowCore.Preparing
import M8flowCore.Sample
/-!
# Caller-owned transactions

A start that the caller rolls back leaves nothing behind, except what it has
committed itself. `initialize_process_instance_from_definition` and a
timer-start job prepare the instance in a session of their own when they can,
and that session's rows stay. What can be said exactly is when they do.
-/
open M8flowCore.Lib M8flowCore.Session

namespace M8flowCore

section
variable {W Ω α β : Type} {env : Env W Ω} {F : Focus} {L : List Touch}

/-! ## What stays in the session -/

/-- Unless `m` raises a service task's failure, nothing is committed. -/
def Uncommitted (m : M Ω α) : Prop :=
  ∀ s r s', m.run s = (r, s') → (∀ message, r ≠ .error (.serviceTaskExecution message)) → s'.committed = s.committed

theorem uncommitted_of_touches {m : M Ω α} (h : Touches (Change env F) L m) : Uncommitted m :=
  fun _ _ _ hm _ => (committed_of_steps (h.steps hm)).2

theorem Uncommitted.bind {m : M Ω α} {f : α → M Ω β} (hm : Uncommitted m) (hf : ∀ a, Uncommitted (f a)) :
    Uncommitted (m >>= f) := by
  intro s r s' h hr
  cases r with
  | ok b =>
    obtain ⟨a, s₁, h₁, h₂⟩ := Prog.bind_ok.1 h
    rw [hf a s₁ _ _ h₂ hr, hm s _ _ h₁ (by simp)]
  | error e =>
    rcases Prog.bind_error.1 h with h₁ | ⟨a, s₁, h₁, h₂⟩
    · exact hm s _ _ h₁ (fun message hmessage => hr message (by simpa using hmessage))
    · rw [hf a s₁ _ _ h₂ hr, hm s _ _ h₁ (by simp)]

theorem uncommitted_of_readOnly {m : M Ω α} (h : m.ReadOnly) : Uncommitted m := fun _ _ _ hm _ => by rw [h.state hm]

theorem ask_uncommitted (f : Ω → α × Ω) : Uncommitted (ask f) := by
  intro s r s' h _
  simp only [ask, Prod.mk.injEq] at h
  rw [← h.2]

variable (env) in
theorem runWorkflow_uncommitted (tenantId : TenantId) (pi : ProcessInstance) (w : W) (occurredAt : Time)
    (autonomous : Bool) :
    Uncommitted (runWorkflowWithServiceTaskFailureHandling env tenantId pi w occurredAt autonomous) := by
  have htransition : ∀ (w : W) (message : String), Uncommitted (do
      transitionToErrorForServiceTaskFailure env tenantId pi w occurredAt false
      Prog.raise (.serviceTaskExecution message) : M Ω W) := fun w message =>
    uncommitted_of_touches (Touches.bind
      (transitionToError_touches tenantId pi.focus_of (pi.focus_covers w) occurredAt false (List.subset_cons_self _ _)
        fun _ => List.mem_cons_self) fun _ => .raise _)
  refine .bind (ask_uncommitted _) ?_
  rintro ⟨raised, w⟩
  dsimp only
  split
  · exact uncommitted_of_readOnly (Prog.keeps_pure Prog.frame_eq w)
  · rename_i message
    cases autonomous with
    | false => exact htransition w message
    | true =>
      intro s r s' h hr
      simp only [if_true] at h
      rcases hstore : (storeServiceTaskFailure env tenantId pi.id w occurredAt).run s.fork with ⟨e | _, s₁⟩
      · rw [Prog.bind_run_ok (persistServiceTaskFailureState_unsaved env hstore)] at h
        simp only [Bool.false_eq_true, if_false] at h
        have hcommitted := htransition w message _ r s' h hr
        exact hcommitted
      · rw [Prog.bind_run_ok (persistServiceTaskFailureState_saved env hstore)] at h
        simp only [if_true, Prog.raise_run, Prod.mk.injEq] at h
        exact absurd h.1.symm (hr message)
  · exact uncommitted_of_readOnly (Prog.keeps_raise Prog.frame_eq _)

variable (env) in
theorem buildInstanceWorkflow_uncommitted (tenantId : TenantId) (pi : ProcessInstance) (request : BuildRequest)
    (occurredAt : Time) : Uncommitted (buildInstanceWorkflow env tenantId pi request occurredAt) := by
  have hbuild : Touches (Change env pi.focus) [.world, .seq, .shared]
      (buildInstanceWorkflow env tenantId pi request occurredAt) := buildInstanceWorkflow_touches _ _ _ _ (List.Subset.refl _)
  exact uncommitted_of_touches hbuild

variable (env) in
theorem initializeProcessInstanceWorkflow_uncommitted (tenantId : TenantId) (processInstanceId : Nat)
    (source : WorkflowSource) (startedAt : Option Time) :
    Uncommitted (initializeProcessInstanceWorkflow env tenantId processInstanceId source startedAt) := by
  refine .bind (uncommitted_of_readOnly (loadProcessInstance_readOnly _ _)) fun pi => ?_
  split
  · exact uncommitted_of_readOnly (Prog.keeps_raise Prog.frame_eq _)
  · refine .bind (uncommitted_of_readOnly (Prog.keeps_gets Prog.frame_eq _)) fun state => ?_
    split
    · exact uncommitted_of_readOnly (Prog.keeps_raise Prog.frame_eq _)
    · refine .bind (uncommitted_of_readOnly (Prog.keeps_gets Prog.frame_eq _)) fun occurredAt => ?_
      refine .bind (buildInstanceWorkflow_uncommitted env _ _ _ _) fun w => ?_
      refine .bind (runWorkflow_uncommitted env _ _ _ _ _) fun w => ?_
      exact uncommitted_of_touches
        (finalizeInitializedWorkflow_touches _ pi.focus_of (pi.focus_covers w) _ (List.Subset.refl _))

/-! ## Preparing an instance -/

/-- What the baseline leaves committed, and in particular whether it raises. -/
theorem prepareProcessInstanceBaseline_committed {tenantId : TenantId} {definition : BpmnProcessDefinition}
    {modelIdentifier : String} {args : StartArgs} {s s' : Tx Ω} {r : Except Error (Option (Nat × String))}
    (h : (prepareProcessInstanceBaseline env tenantId definition modelIdentifier args).run s = (r, s')) :
    (Preparable env s.committed tenantId definition.id args →
      s'.committed.processInstances.length = s.committed.processInstances.length + 1) ∧
    (¬ Preparable env s.committed tenantId definition.id args → s'.committed = s.committed) := by
  unfold prepareProcessInstanceBaseline at h
  rcases prepareCommittedProcessInstance_cases env tenantId definition.id modelIdentifier args s.fork with
    ⟨e, s₁, hrun, hnot⟩ | ⟨hrun, hnot⟩ | ⟨selected, s₁, hrun, hready, hcount⟩
  · rw [Prog.bind_run_ok (independently_error hrun)] at h
    simp only [Prog.raise_run, Prod.mk.injEq] at h
    exact ⟨fun hready => absurd hready hnot, fun _ => by rw [← h.2]⟩
  · rw [Prog.bind_run_ok (independently_ok hrun)] at h
    simp only [refresh, Prog.modify_bind_run, Prog.pure_run, Prod.mk.injEq] at h
    exact ⟨fun hready => absurd hready hnot, fun _ => by rw [← h.2]; rfl⟩
  · rw [Prog.bind_run_ok (independently_ok hrun)] at h
    simp only [refresh, Prog.modify_bind_run, Prog.pure_run, Prod.mk.injEq] at h
    exact ⟨fun _ => by rw [← h.2]; exact hcount, fun hnot => absurd hready hnot⟩

theorem insert_uncommitted (f : Nat → Db → Db) : Uncommitted (Session.insert (Ω := Ω) f) := by
  intro s r s' h _
  simp only [Session.insert, nextId, Prog.bind_run, write, Prog.modify_run, Prog.pure_run, Prod.mk.injEq] at h
  rw [← h.2]

theorem prepareProcessInstanceInSession_uncommitted (tenantId : TenantId) (definition : BpmnProcessDefinition)
    (modelIdentifier : String) (args : StartArgs) :
    Uncommitted (prepareProcessInstanceInSession env tenantId definition modelIdentifier args) := by
  refine .bind (uncommitted_of_readOnly (Prog.keeps_orRaise Prog.frame_eq _ _)) fun bpmnXml => ?_
  refine .bind (uncommitted_of_readOnly (ofExcept_readOnly _)) fun selected => .bind ?_ fun processId => ?_
  · have hjson : Touches (Change env ⟨tenantId, 0, none, fun _ => True⟩) [.json]
        (createOrUpdateFromPayload env tenantId (newProcessPayload definition.id selected)) :=
      createOrUpdateFromPayload_touches _ _ (List.Subset.refl _)
    exact .bind (uncommitted_of_touches hjson) fun _ => insert_uncommitted _
  refine .bind ?_ fun instanceId => ?_
  · refine .bind (uncommitted_of_readOnly (ensureUserBelongsToTenant_readOnly _ _)) fun _ => ?_
    exact .bind (uncommitted_of_readOnly (Prog.keeps_gets Prog.frame_eq _)) fun _ => insert_uncommitted _
  have hstamp : Touches (Change env ⟨tenantId, instanceId, none, fun _ => True⟩) [.seq, .shared, .details]
      (stampProcessInstance env tenantId definition modelIdentifier bpmnXml args instanceId) :=
    stampProcessInstance_touches _ _ _ _ _ rfl (List.Subset.refl _)
  exact .bind (uncommitted_of_touches hstamp) fun _ => uncommitted_of_readOnly (Prog.keeps_pure Prog.frame_eq _)

/-- A start leaves the committed database as it was exactly when it could not
prepare its instance there. -/
theorem prepared_then {tenantId : TenantId} {definition : BpmnProcessDefinition} {modelIdentifier : String}
    {args : StartArgs} {k : ProcessInstance × String → M Ω Unit} (hk : ∀ x, Uncommitted (k x)) {s s' : Tx Ω}
    {r : Except Error Unit}
    (h : (prepareProcessInstance env tenantId definition modelIdentifier args >>= k).run s = (r, s'))
    (hr : ∀ message, r ≠ .error (.serviceTaskExecution message)) :
    s'.committed = s.committed ↔ ¬ Preparable env s.committed tenantId definition.id args := by
  have hload : ∀ x : Nat × String, Uncommitted (do
      let pi ← loadProcessInstance (Ω := Ω) tenantId x.1
      pure (pi, x.2)) := fun x =>
    .bind (uncommitted_of_readOnly (loadProcessInstance_readOnly _ _)) fun _ =>
      uncommitted_of_readOnly (Prog.keeps_pure Prog.frame_eq _)
  unfold prepareProcessInstance at h
  rw [Prog.bind_assoc] at h
  -- After the baseline nothing more is committed.
  have hrest : ∀ s₁, (∃ rb, (prepareProcessInstanceBaseline env tenantId definition modelIdentifier args).run s = (rb, s₁)) →
      s'.committed = s₁.committed := by
    rintro s₁ ⟨rb, hb⟩
    cases rb with
    | error e =>
      rw [Prog.bind_run_error hb] at h
      simp only [Prod.mk.injEq] at h
      rw [h.2]
    | ok baseline =>
      rw [Prog.bind_run_ok hb] at h
      refine Uncommitted.bind ?_ hk s₁ r s' h hr
      cases baseline with
      | some result => exact hload result
      | none => exact .bind (prepareProcessInstanceInSession_uncommitted _ _ _ _) hload
  rcases hb : (prepareProcessInstanceBaseline env tenantId definition modelIdentifier args).run s with ⟨rb, s₁⟩
  rw [hrest s₁ ⟨rb, hb⟩]
  obtain ⟨hready, hnot⟩ := prepareProcessInstanceBaseline_committed hb
  constructor
  · intro hsame hprep
    have hcount := hready hprep
    rw [hsame] at hcount
    omega
  · exact hnot

/-! ## Starts -/

theorem write_uncommitted (f : Db → Db) : Uncommitted (write (Ω := Ω) f) := by
  intro s r s' h _
  simp only [write, Prog.modify_run, Prod.mk.injEq] at h
  rw [← h.2]

theorem loadProcessDefinition_run {tenantId : TenantId} {definitionId : Nat} {s : Tx Ω} :
    (loadProcessDefinition tenantId definitionId).run s = match s.view.tenantDefinition? tenantId definitionId with
      | some definition => (.ok definition, s)
      | none => (.error (.notFound s!"BPMN process definition {definitionId} was not found for tenant {tenantId}"), s) := by
  unfold loadProcessDefinition query
  simp only [Prog.gets_bind_run]
  cases s.view.tenantDefinition? tenantId definitionId <;> rfl

theorem tenantDefinition?_id {db : Db} {tenantId : TenantId} {definitionId : Nat} {definition : BpmnProcessDefinition}
    (h : db.tenantDefinition? tenantId definitionId = some definition) : definition.id = definitionId := by
  have := List.find?_some h
  simp only [Bool.and_eq_true, beq_iff_eq] at this
  exact this.2

/-- The caller's session lets the start pass its checks: the initiator is a
member, the definition is there, and the policy allows the start. -/
def StartAdmitted (env : Env W Ω) (db : Db) (tenantId : TenantId) (definitionId : Nat) (args : StartArgs) : Prop :=
  db.isMember tenantId args.processInitiatorId = true ∧
    ∃ definition, db.tenantDefinition? tenantId definitionId = some definition ∧
      env.Allows db tenantId args.processInitiatorId processStartCommand .processModel
        (startedModelIdentifier definition) (processStartAuthorizationMetadata definition args.bpmnProcessId)

theorem start_committed {tenantId : TenantId} {definitionId : Nat} {args : StartArgs} {resolver : Bool} {s s' : Tx Ω}
    {r : Except Error Unit}
    (h : (initializeProcessInstanceFromDefinition env tenantId definitionId args resolver).run s = (r, s'))
    (hr : ∀ message, r ≠ .error (.serviceTaskExecution message)) :
    s'.committed = s.committed ↔
      ¬ (StartAdmitted env s.view tenantId definitionId args ∧
        Preparable env s.committed tenantId definitionId args) := by
  unfold initializeProcessInstanceFromDefinition at h
  rcases huser : (ensureUserBelongsToTenant tenantId args.processInitiatorId).run s with ⟨e | user, s₁⟩
  · have hs := (ensureUserBelongsToTenant_readOnly _ _).state huser
    rw [Prog.bind_run_error huser, Prod.mk.injEq] at h
    refine ⟨fun _ ⟨hadmitted, _⟩ => ?_, fun _ => by rw [← h.2, hs]⟩
    obtain ⟨user, hfound⟩ := user_of_isMember hadmitted.1
    rw [ensureUserBelongsToTenant_ok.2 ⟨hfound, hadmitted.1, rfl⟩] at huser
    simp at huser
  obtain ⟨-, hmember, rfl⟩ := ensureUserBelongsToTenant_ok.1 huser
  rw [Prog.bind_run_ok huser, Prog.bind_run, loadProcessDefinition_run] at h
  cases hdef : s.view.tenantDefinition? tenantId definitionId with
  | none =>
    simp only [hdef, Prod.mk.injEq] at h
    refine ⟨fun _ ⟨⟨_, definition, hfound, _⟩, _⟩ => ?_, fun _ => by rw [← h.2]⟩
    simp [hdef] at hfound
  | some definition =>
    simp only [hdef] at h
    rcases hauth : (requireCommandAuthorization env tenantId args.processInitiatorId processStartCommand .processModel
        (startedModelIdentifier definition)
        (processStartAuthorizationMetadata definition args.bpmnProcessId)).run s with ⟨e | u, s₁⟩
    · have hs := (requireCommandAuthorization_readOnly env _ _ _ _ _ _).state hauth
      rw [Prog.bind_run_error hauth, Prod.mk.injEq] at h
      refine ⟨fun _ ⟨⟨_, definition', hfound, hallows⟩, _⟩ => ?_, fun _ => by rw [← h.2, hs]⟩
      rw [hdef, Option.some.injEq] at hfound
      subst hfound
      rw [(requireCommandAuthorization_ok env (u := ())).2 ⟨hallows, rfl⟩] at hauth
      simp at hauth
    · obtain ⟨hallows, rfl⟩ := (requireCommandAuthorization_ok env).1 hauth
      rw [Prog.bind_run_ok hauth] at h
      have hiff := prepared_then (fun x => initializeProcessInstanceWorkflow_uncommitted env _ _ _ _) h hr
      rw [tenantDefinition?_id hdef] at hiff
      rw [hiff]
      exact ⟨fun hnot hboth => hnot hboth.2, fun hnot hprep => hnot ⟨⟨hmember, definition, hdef, hallows⟩, hprep⟩⟩

/-! ## Timer-start jobs -/

theorem upsertSchedulerJob_uncommitted (tenantId : TenantId) (jobKey : String) (v : JobValues) (occurredAt : Time)
    (createdAt : Option Time) : Uncommitted (upsertSchedulerJob (Ω := Ω) tenantId jobKey v occurredAt createdAt) := by
  refine .bind (uncommitted_of_readOnly (Prog.keeps_gets Prog.frame_eq _)) fun found => ?_
  cases found with
  | none => exact .bind (insert_uncommitted _) fun _ => uncommitted_of_readOnly (Prog.keeps_pure Prog.frame_eq _)
  | some job => exact write_uncommitted _

variable (env) in
theorem rescheduleOrDeleteTimerStartJob_uncommitted (job : SchedulerJob) (timerTask : Dict) (occurredAt : Time) :
    Uncommitted (rescheduleOrDeleteTimerStartJob env job timerTask occurredAt) := by
  refine .bind (uncommitted_of_readOnly (ofExcept_readOnly _)) fun next => ?_
  cases next with
  | none => exact write_uncommitted _
  | some next => exact upsertSchedulerJob_uncommitted _ _ _ _ _

/-- A timer start commits nothing but its baseline. -/
theorem timerStart_committed {tenantId : TenantId} {definitionId userId : Nat} {specName : String}
    {startedAt : Option Time} {k : Unit → M Ω Unit} (hk : ∀ u, Uncommitted (k u)) {s s' : Tx Ω} {r : Except Error Unit}
    (h : (initializeProcessInstanceFromTimerStart env tenantId definitionId userId specName startedAt >>= k).run s = (r, s'))
    (hr : ∀ message, r ≠ .error (.serviceTaskExecution message)) :
    s'.committed = s.committed ↔
      ¬ (s.view.isMember tenantId userId = true ∧ (s.view.tenantDefinition? tenantId definitionId).isSome ∧
        Preparable env s.committed tenantId definitionId (timerStartArgs userId startedAt)) := by
  unfold initializeProcessInstanceFromTimerStart at h
  rw [Prog.bind_assoc] at h
  rcases huser : (ensureUserBelongsToTenant tenantId userId).run s with ⟨e | user, s₁⟩
  · have hs := (ensureUserBelongsToTenant_readOnly _ _).state huser
    rw [Prog.bind_run_error huser, Prod.mk.injEq] at h
    refine ⟨fun _ ⟨hmember, _⟩ => ?_, fun _ => by rw [← h.2, hs]⟩
    obtain ⟨user, hfound⟩ := user_of_isMember hmember
    rw [ensureUserBelongsToTenant_ok.2 ⟨hfound, hmember, rfl⟩] at huser
    simp at huser
  obtain ⟨-, hmember, rfl⟩ := ensureUserBelongsToTenant_ok.1 huser
  rw [Prog.bind_run_ok huser, Prog.bind_assoc, Prog.bind_run, loadProcessDefinition_run] at h
  cases hdef : s.view.tenantDefinition? tenantId definitionId with
  | none =>
    simp only [hdef, Prod.mk.injEq] at h
    exact ⟨fun _ ⟨_, hfound, _⟩ => by simp at hfound, fun _ => by rw [← h.2]⟩
  | some definition =>
    simp only [hdef] at h
    rw [Prog.bind_assoc] at h
    have hiff := prepared_then (fun x => ?_) h hr
    · rw [tenantDefinition?_id hdef] at hiff
      rw [hiff]
      exact ⟨fun hnot hall => hnot hall.2.2, fun hnot hprep => hnot ⟨hmember, rfl, hprep⟩⟩
    · -- The run, the forced timer and the save after the baseline.
      refine .bind (.bind (uncommitted_of_readOnly (Prog.keeps_gets Prog.frame_eq _)) fun occurredAt => ?_) hk
      refine .bind (buildInstanceWorkflow_uncommitted env _ _ _ _) fun w => ?_
      refine .bind (runWorkflow_uncommitted env _ _ _ _ _) fun w => ?_
      refine .bind (uncommitted_of_readOnly (ofExcept_readOnly _)) fun forced => ?_
      have hsave : ∀ w : W, Uncommitted (finalizeInitializedWorkflow env tenantId x.1 w occurredAt) := fun w =>
        uncommitted_of_touches
          (finalizeInitializedWorkflow_touches _ x.1.focus_of (x.1.focus_covers w) _ (List.Subset.refl _))
      cases forced with
      | none => exact hsave w
      | some w =>
        refine .bind (ask_uncommitted _) fun refreshed => .bind (uncommitted_of_readOnly (orRaised_readOnly _)) fun w => ?_
        split
        · exact .bind (runWorkflow_uncommitted env _ _ _ _ _) hsave
        · exact hsave w

/-- Users, tenants and definitions stay, and nothing is committed. -/
def SameAccounts (s s' : Tx Ω) : Prop :=
  s'.view.users = s.view.users ∧ s'.view.tenants = s.view.tenants ∧ s'.view.definitions = s.view.definitions ∧
    s'.committed = s.committed

theorem frame_sameAccounts : Prog.Frame (SameAccounts (Ω := Ω)) :=
  ⟨fun _ => ⟨rfl, rfl, rfl, rfl⟩, fun h₁ h₂ => ⟨h₂.1.trans h₁.1, h₂.2.1.trans h₁.2.1, h₂.2.2.1.trans h₁.2.2.1,
    h₂.2.2.2.trans h₁.2.2.2⟩⟩

theorem ensureV1Role_sameAccounts (tenantId : TenantId) (roleName : String) (userIds : List Nat) :
    (ensureV1Role (Ω := Ω) tenantId roleName userIds).Keeps SameAccounts :=
  ensureV1Role_keeps frame_sameAccounts (fun _ => ⟨rfl, rfl, rfl, rfl⟩) (fun _ _ _ _ _ _ => ⟨rfl, rfl, rfl, rfl⟩)
    tenantId roleName userIds

theorem SameAccounts.isMember {s s' : Tx Ω} (h : SameAccounts s s') (tenantId : TenantId) (userId : Nat) :
    s'.view.isMember tenantId userId = s.view.isMember tenantId userId := by
  unfold Db.isMember Db.user? tenantIdentifiersFor
  rw [h.1, h.2.1]

/-- Stamping a user changes nobody's membership. -/
theorem isMember_stamped (db : Db) (id : Nat) (at_ : Time) (tenantId : TenantId) (userId : Nat) :
    Db.isMember { db with users := updateWhere (·.id == id) ({ · with updatedAt := some at_ }) db.users } tenantId userId =
      db.isMember tenantId userId := by
  have hfind : (updateWhere (·.id == id) (fun u : User => { u with updatedAt := some at_ }) db.users).find?
      (·.id == userId) = (db.users.find? (·.id == userId)).map fun u =>
        if u.id == id then { u with updatedAt := some at_ } else u := find?_updateWhere fun _ _ _ => rfl
  unfold Db.isMember Db.user?
  simp only [hfind]
  cases db.users.find? (·.id == userId) with
  | none => rfl
  | some user =>
    simp only [Option.map_some, Option.any_some]
    split <;> rfl

/-- What a timer-start job finds in the session: its definition with a source,
a well-formed payload, its tenant, and the tenant's system user as a member. -/
structure TimerAdmitted (db : Db) (job : SchedulerJob) (definitionId : Nat) (user : User) : Prop where
  definition : job.bpmnProcessDefinitionId = some definitionId
  source : ((db.tenantDefinition? job.m8fTenantId definitionId).bind (·.sourceBpmnXml)).isSome
  payload : ∃ timerTask specName, schedulerJobTimerTask job.payloadJson = .ok timerTask ∧
    schedulerJobTaskSpecName timerTask = .ok specName
  tenant : ∃ tenant, db.timerStartTenant? job.m8fTenantId = some tenant ∧ db.timerStartUser? tenant = some user ∧
    strip (roleTenantComponent tenant.id roleAdmin) ≠ ""
  member : db.isMember job.m8fTenantId user.id = true

/-- The part of a timer-start job after its system user is found or inserted. -/
theorem afterSystemUser_committed {job : SchedulerJob} {definitionId : Nat} {tenant : Tenant} (user : User)
    {timerTask : Dict} {occurredAt : Time} {s s' : Tx Ω} {r : Except Error Unit}
    (h : Prog.run (do
      let _ ← ensureV1Role tenant.id roleAdmin [user.id]
      let specName ← ofExcept (schedulerJobTaskSpecName timerTask)
      initializeProcessInstanceFromTimerStart env job.m8fTenantId definitionId user.id specName (some occurredAt)
      rescheduleOrDeleteTimerStartJob env job timerTask occurredAt) s = (r, s'))
    (hr : ∀ message, r ≠ .error (.serviceTaskExecution message)) :
    s'.committed = s.committed ↔
      ¬ (strip (roleTenantComponent tenant.id roleAdmin) ≠ "" ∧ (∃ specName, schedulerJobTaskSpecName timerTask = .ok specName) ∧
        s.view.isMember job.m8fTenantId user.id = true ∧ (s.view.tenantDefinition? job.m8fTenantId definitionId).isSome ∧
        Preparable env s.committed job.m8fTenantId definitionId (timerStartArgs user.id (some occurredAt))) := by
  rcases hrole : (ensureV1Role tenant.id roleAdmin [user.id]).run s with ⟨e | group, s₁⟩
  all_goals have hsame := (ensureV1Role_sameAccounts tenant.id roleAdmin [user.id]).of_ok hrole
  · rw [Prog.bind_run_error hrole, Prod.mk.injEq] at h
    refine ⟨fun _ hall => ?_, fun _ => by rw [← h.2, hsame.2.2.2]⟩
    obtain ⟨_, _, hok, -⟩ := ensureV1Role_total [user.id] hall.1 s trivial
    simp [hok] at hrole
  · rw [Prog.bind_run_ok hrole] at h
    cases hspec : schedulerJobTaskSpecName timerTask with
    | error e =>
      simp only [hspec, ofExcept, Prog.raise_bind, Prog.raise_run, Prod.mk.injEq] at h
      exact ⟨fun _ hall => by simpa using hall.2.1, fun _ => by rw [← h.2, hsame.2.2.2]⟩
    | ok specName =>
      simp only [hspec, ofExcept, Prog.pure_bind] at h
      have hiff := timerStart_committed (fun _ => rescheduleOrDeleteTimerStartJob_uncommitted env _ _ _) h hr
      have hdef : s₁.view.tenantDefinition? job.m8fTenantId definitionId =
          s.view.tenantDefinition? job.m8fTenantId definitionId := by
        unfold Db.tenantDefinition?
        rw [hsame.2.2.1]
      rw [hsame.isMember, hdef, hsame.2.2.2] at hiff
      rw [hiff]
      exact ⟨fun hnot hall => hnot hall.2.2, fun hnot hall => hnot ⟨roleTenantComponent_of_ok hrole, ⟨_, rfl⟩, hall⟩⟩

theorem timerJob_committed {job : SchedulerJob} {occurredAt : Time} {s s' : Tx Ω} {r : Except Error Unit}
    (hids : ∀ u ∈ s.committed.users, u.id < s.seq)
    (h : (executeTimerStartJob env job occurredAt).run s = (r, s'))
    (hr : ∀ message, r ≠ .error (.serviceTaskExecution message)) :
    s'.committed = s.committed ↔
      ¬ ∃ definitionId user, TimerAdmitted s.view job definitionId user ∧
        Preparable env s.committed job.m8fTenantId definitionId (timerStartArgs user.id (some occurredAt)) := by
  unfold executeTimerStartJob at h
  cases hid : job.bpmnProcessDefinitionId with
  | none =>
    simp only [hid] at h
    exact ⟨fun _ ⟨_, _, hadmitted, _⟩ => by simpa [hid] using hadmitted.definition, fun _ => write_uncommitted _ s r s' h hr⟩
  | some definitionId =>
    have hdefinition : ∀ {definitionId' user}, TimerAdmitted s.view job definitionId' user → definitionId' = definitionId := by
      intro _ _ hadmitted
      simpa [hid] using hadmitted.definition.symm
    simp only [hid, query, Prog.gets_bind_run] at h
    cases hsource : (s.view.tenantDefinition? job.m8fTenantId definitionId).bind (·.sourceBpmnXml) with
    | none =>
      simp only [hsource] at h
      refine ⟨fun _ ⟨_, _, hadmitted, _⟩ => ?_, fun _ => write_uncommitted _ s r s' h hr⟩
      have := hadmitted.source
      rw [hdefinition hadmitted, hsource] at this
      simp at this
    | some bpmnXml =>
      simp only [hsource] at h
      cases htask : schedulerJobTimerTask job.payloadJson with
      | error e =>
        simp only [htask, ofExcept, Prog.raise_bind, Prog.raise_run, Prod.mk.injEq] at h
        refine ⟨fun _ ⟨_, _, hadmitted, _⟩ => ?_, fun _ => by rw [← h.2]⟩
        obtain ⟨_, _, hok, _⟩ := hadmitted.payload
        simp [htask] at hok
      | ok timerTask =>
        simp only [htask, ofExcept, Prog.pure_bind] at h
        unfold ensureTimerStartSystemUser at h
        simp only [query, Prog.bind_assoc, Prog.gets_bind_run] at h
        cases htenant : s.view.timerStartTenant? job.m8fTenantId with
        | none =>
          simp only [htenant, Prog.orRaise_none, Prog.raise_bind, Prog.raise_run, Prod.mk.injEq] at h
          refine ⟨fun _ ⟨_, _, hadmitted, _⟩ => ?_, fun _ => by rw [← h.2]⟩
          obtain ⟨_, hok, _⟩ := hadmitted.tenant
          simp [htenant] at hok
        | some tenant =>
          simp only [htenant, Prog.orRaise_some, Prog.pure_bind, upsertTimerStartUser, query, Prog.bind_assoc,
            Prog.gets_bind_run] at h
          cases huser : s.view.timerStartUser? tenant with
          | none =>
            simp only [huser] at h
            -- A user inserted just now is not committed yet.
            have hiff := afterSystemUser_committed (newTimerStartUser tenant occurredAt s.seq) (s := { s with
              seq := s.seq + 1
              view := { s.view with users := s.view.users ++ [newTimerStartUser tenant occurredAt s.seq] } }) h hr
            refine ⟨fun _ ⟨_, _, hadmitted, _⟩ => ?_, fun _ => hiff.2 fun hall => ?_⟩
            · obtain ⟨tenant', htenant', huser', _⟩ := hadmitted.tenant
              rw [htenant, Option.some.injEq] at htenant'
              rw [← htenant', huser] at huser'
              simp at huser'
            · obtain ⟨_, _, hmember, _⟩ := hall.2.2.2.2
              obtain ⟨row, hrow⟩ := user_of_isMember hmember
              have hid' : row.id = s.seq := by
                have hfound := List.find?_some hrow
                rw [beq_iff_eq] at hfound
                exact hfound
              have hlt := hids row (List.mem_of_find?_eq_some hrow)
              omega
          | some user =>
            simp only [huser] at h
            have hiff := afterSystemUser_committed user (s := { s with view := { s.view with
              users := updateWhere (·.id == user.id) ({ · with updatedAt := some occurredAt }) s.view.users } }) h hr
            rw [isMember_stamped] at hiff
            refine ⟨fun hsame hex => ?_, fun hnot => hiff.2 fun hall => hnot ?_⟩
            · obtain ⟨definitionId', user', hadmitted, hprep⟩ := hex
              obtain rfl := hdefinition hadmitted
              obtain ⟨tenant', htenant', huser', hcomponent⟩ := hadmitted.tenant
              rw [htenant, Option.some.injEq] at htenant'
              subst htenant'
              rw [huser, Option.some.injEq] at huser'
              subst huser'
              obtain ⟨timerTask', specName, htask', hspec⟩ := hadmitted.payload
              rw [htask, Except.ok.injEq] at htask'
              subst htask'
              refine hiff.1 hsame ⟨hcomponent, ⟨specName, hspec⟩, hadmitted.member, ?_, hprep⟩
              have hsome := hadmitted.source
              cases hd : s.view.tenantDefinition? job.m8fTenantId definitionId' with
              | none => simp [hd] at hsome
              | some d => exact Option.isSome_iff_exists.2 ⟨d, hd⟩
            · obtain ⟨hcomponent, ⟨specName, hspec⟩, hmember, -, hprep⟩ := hall
              exact ⟨definitionId, user, ⟨hid, by rw [hsource]; rfl, ⟨timerTask, specName, htask, hspec⟩,
                ⟨tenant, htenant, huser, hcomponent⟩, hmember⟩, hprep⟩

/-! ## Rolling back a start -/

/-- A start: the command, or a timer-start job executed in a pass. -/
inductive StartCall where
  | fromDefinition (tenantId : TenantId) (definitionId : Nat) (args : StartArgs) (resolver : Bool)
  | timerJob (job : SchedulerJob) (occurredAt : Time)

variable (env) in
def StartCall.run : StartCall → M Ω Unit
  | .fromDefinition tenantId definitionId args resolver =>
    initializeProcessInstanceFromDefinition env tenantId definitionId args resolver
  | .timerJob job occurredAt => executeTimerStartJob env job occurredAt

variable (env) in
/-- The start passes its checks and finds all it needs in the committed database. -/
def StartCall.PreparesCommitted (s : Tx Ω) : StartCall → Prop
  | .fromDefinition tenantId definitionId args _ =>
    StartAdmitted env s.view tenantId definitionId args ∧ Preparable env s.committed tenantId definitionId args
  | .timerJob job occurredAt =>
    ∃ definitionId user, TimerAdmitted s.view job definitionId user ∧
      Preparable env s.committed job.m8fTenantId definitionId (timerStartArgs user.id (some occurredAt))

variable (env) in
/-- A start in which no service task fails leaves the committed database alone
exactly when it could not prepare its instance there. Nothing else it does or
raises matters, and neither does the state of the caller's session. -/
theorem start_rollback_iff (call : StartCall) {s s' : Tx Ω} {r : Except Error Unit}
    (hids : ∀ u ∈ s.committed.users, u.id < s.seq) (h : (call.run env).run s = (r, s'))
    (hr : ∀ message, r ≠ .error (.serviceTaskExecution message)) :
    s'.committed = s.committed ↔ ¬ call.PreparesCommitted env s := by
  cases call with
  | fromDefinition tenantId definitionId args resolver => exact start_committed h hr
  | timerJob job occurredAt => exact timerJob_committed hids h hr

end

/-- The definition is imported in the transaction that starts it. -/
def importedHere : Tx Bool :=
  { Tx.begin 10 Sample.db₀ true with
    base := { Sample.db₀ with definitions := [] }
    committed := { Sample.db₀ with definitions := [] } }

def sampleStart : StartCall := .fromDefinition "t" 2 Sample.startArgs false

theorem start_rollback_iff_importedHere :
    ((sampleStart.run Sample.env).run importedHere).1 = .ok () ∧
      ((sampleStart.run Sample.env).run importedHere).2.committed = importedHere.committed := by
  have hok : ((sampleStart.run Sample.env).run importedHere).1 = .ok () := by decide +kernel
  rcases hrun : (sampleStart.run Sample.env).run importedHere with ⟨r, s'⟩
  simp only [hrun] at hok ⊢
  refine ⟨hok, (start_rollback_iff Sample.env sampleStart (by decide) hrun (fun _ => by rw [hok]; simp)).2 ?_⟩
  rintro ⟨-, definition, hfound, -⟩
  simp [importedHere, Db.tenantDefinition?] at hfound

/-- A start that raises before its workflow exists: the caller rolls back, and
the instance it asked for is still there. -/
theorem start_rollback_leaves_instance :
    ((sampleStart.run Sample.env).run (Tx.begin 10 Sample.brokenDb true)).1 = .error (.validation "not a process") ∧
      ((sampleStart.run Sample.env).run (Tx.begin 10 Sample.brokenDb true)).2.committed ≠ Sample.brokenDb ∧
      ((sampleStart.run Sample.env).run (Tx.begin 10 Sample.brokenDb true)).2.committed.processInstances.length = 1 := by
  decide +kernel

end M8flowCore
