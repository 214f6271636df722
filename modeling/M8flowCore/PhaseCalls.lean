import M8flowCore.Phases
/-!
# How calls move phases

The workflow runtime moves the phase of an instance in three places: a save
gives the session's copy the phase of the workflow, and a failing service task
takes the instance to `error`, in a session of the library's own or, where that
one cannot store it, in the caller's. The rest of a call is calm.
-/
open M8flowCore.Lib M8flowCore.Session

namespace M8flowCore

/-- Nothing takes the instance out of this phase but a write of the host. -/
def Phase.Over (p : Phase) : Prop := p.status = .complete ∨ p.status = .terminated

section
variable {W Ω α : Type} {env : Env W Ω} {F : Focus} {L : List Touch} {s s' : Tx Ω} {k : Option InstanceIdentity} {j : Nat} {Φ Ψ : Phases}
  {hand : Option ProcessInstance} {pi : ProcessInstance} {w : W} {m : M Ω α} {tenantId : TenantId}

/-! ## Loading -/

/-- The instance found is at hand, with its phase. -/
theorem found_ends {m : M Ω ProcessInstance} {i : Nat}
    (hok : ∀ {s pi s'}, m.run s = (.ok pi, s') → s' = s ∧ pi ∈ s.view.processInstances ∧ pi.m8fTenantId = tenantId ∧ pi.id = i)
    (hm : m.ReadOnly) (hΨ : ∀ b v c, Φ b v c → Ψ b v c) :
    Prog.Ends (At k j Φ hand) m (fun pi s => (pi.id = i ∧ pi.m8fTenantId = tenantId) ∧
      At k j (fun b v c => Φ b v c ∧ (i = j → v = some pi.phase)) (some pi) s) fun _ => At k j Ψ none := by
  refine fun s hs => ⟨fun pi s' hrun => ?_, fun e s' hrun => ?_⟩
  · obtain ⟨rfl, hmem, htenant, hid⟩ := hok hrun
    refine ⟨⟨hid, htenant⟩, hs.orderly, ⟨hs.phases, ?_⟩, hs.there, ?_⟩
    · rintro rfl
      exact hid ▸ hs.orderly.view.phase hmem
    · intro pi' hpi
      obtain rfl := Option.some.inj hpi
      exact ⟨pi, hmem, rfl⟩
  · rw [hm.state hrun]
    exact hs.weaken hΨ

theorem load_ends (i : Nat) (hΨ : ∀ b v c, Φ b v c → Ψ b v c) :
    Prog.Ends (At k j Φ hand) (loadProcessInstance (Ω := Ω) tenantId i) (fun pi s => (pi.id = i ∧ pi.m8fTenantId = tenantId) ∧
      At k j (fun b v c => Φ b v c ∧ (i = j → v = some pi.phase)) (some pi) s) fun _ => At k j Ψ none :=
  found_ends loadProcessInstance_ok (loadProcessInstance_readOnly _ _) hΨ

theorem open_ends (i userId : Nat) (commandKey : String) (hΨ : ∀ b v c, Φ b v c → Ψ b v c) :
    Prog.Ends (At k j Φ hand) (openProcessInstanceCommand env tenantId i userId commandKey)
      (fun pi s => (pi.id = i ∧ pi.m8fTenantId = tenantId) ∧
        At k j (fun b v c => Φ b v c ∧ (i = j → v = some pi.phase)) (some pi) s) fun _ => At k j Ψ none :=
  found_ends openProcessInstanceCommand_ok (openProcessInstanceCommand_readOnly _ _ _ _) hΨ

theorem query_ends (f : Db → α) : Prog.Ends (At k j Φ hand) (query (Ω := Ω) f) (fun _ => At k j Φ hand) fun _ => At k j Ψ none :=
  Prog.ends_gets _ fun _ hs => hs

variable (env) in
theorem resolveTimestamp_ends (t : Option Time) :
    Prog.Ends (At k j Φ hand) (resolveTimestamp env t) (fun _ => At k j Φ hand) fun _ => At k j Ψ none :=
  Prog.ends_gets _ fun _ hs => hs

theorem ask_ends (f : Ω → α × Ω) : Prog.Ends (At k j Φ hand) (ask f) (fun _ => At k j Φ hand) fun _ => At k j Ψ none := by
  refine fun s hs => ⟨fun a s' hrun => ?_, fun e s' hrun => by cases hrun⟩
  cases hrun
  exact ⟨hs.orderly.mono (le_refl _) _, hs.phases, hs.there, hs.here⟩

theorem pure_ends (a : α) : Prog.Ends (At k j Φ hand) (pure a : M Ω α) (fun _ => At k j Φ none) fun _ => At k j Ψ none :=
  Prog.ends_pure a fun _ hs => hs.drop

/-! ## Saving -/

/-- What a save of instance `i` asks of the phases before and after it. -/
structure SavesAt (i j : Nat) (Φ Ψ : Phases) : Prop where
  stays : ∀ b v c, Φ b v c → Ψ b v c
  saved : i = j → ∀ b p c q, Φ b (some p) c → q.OfWorkflow → Ψ b (some q) c

theorem updateStatus_ends (h : SavesAt pi.id j Φ Ψ) (occurredAt : Time) :
    Leads k j Φ (some pi) (updateProcessInstanceStatusFromWorkflow env pi w occurredAt) Ψ := by
  have htouches : Touches (Change env pi.focus) [.status, .process, .shared]
      (updateProcessInstanceStatusFromWorkflow env pi w occurredAt) :=
    updateProcessInstanceStatusFromWorkflow_touches pi.focus_of w occurredAt (List.Subset.refl _)
  by_cases hj : pi.id = j
  · have hall : ∀ s r s', At k j Φ (some pi) s →
        (updateProcessInstanceStatusFromWorkflow env pi w occurredAt).run s = (r, s') → At k j Ψ none s' := by
      intro s r s' hs hrun
      refine (hs.moved (Ψ := Ψ) (by simp) (htouches.steps hrun) ?_).drop
      obtain ⟨f, hf, hrow⟩ := updateProcessInstanceStatusFromWorkflow_rows hrun
      obtain ⟨p, hp, hsame, hphase⟩ := hs.found
      have hid : p.id = pi.id := congrArg InstanceIdentity.id hsame
      have hin : f p ∈ s'.view.processInstances := by
        rw [hf]
        exact mem_updateWhere.2 ⟨p, hp, by simp [hid]⟩
      have hranked := hs.moved (Ψ := fun _ _ _ => True) (by simp) (htouches.steps hrun) trivial
      have hnew := hranked.orderly.view.phase hin
      have hfid : (f p).id = pi.id := (congrArg InstanceIdentity.id (hrow p).1).trans hid
      rw [hfid, hj] at hnew
      rw [hnew]
      rw [hj] at hphase
      exact h.saved hj _ p.phase _ _ (hphase ▸ hs.phases) (statusOf_ofWorkflow (hrow p).2.1 (hrow p).2.2)
    exact fun s hs => ⟨fun _ s' hrun => hall s _ s' hs hrun, fun _ s' hrun => hall s _ s' hs hrun⟩
  · refine (calm_ends env ⟨fun _ => hj, by simp, by simp⟩ htouches h.stays).weaken (fun _ h => h) (fun _ _ hs => ?_) fun _ _ h => h
    exact hs.weaken h.stays

/-- The calm part of a save. -/
theorem persist_ends (hΨ : ∀ b v c, Φ b v c → Ψ b v c) (occurredAt : Time) :
    Prog.Ends (At k j Φ (some pi)) (persistWorkflowState env pi w occurredAt) (fun _ => At k j Φ (some pi)) fun _ => At k j Ψ none :=
  calm_ends env (L := persisting) ⟨fun h => absurd h (by decide), by decide, fun _ => ⟨pi, rfl, rfl⟩⟩
    (persistWorkflowState_touches pi.focus_of (pi.focus_covers w) occurredAt (List.Subset.refl _)) hΨ

theorem syncInactive_ends (hΨ : ∀ b v c, Φ b v c → Ψ b v c) (occurredAt : Time) :
    Prog.Ends (At k j Φ (some pi)) (syncInactiveWorkItems env pi w occurredAt) (fun _ => At k j Φ (some pi)) fun _ => At k j Ψ none :=
  calm_ends env (.quiet (by decide)) (syncInactiveWorkItems_touches pi.focus_of _ _ (List.Subset.refl _)) hΨ

theorem saveWorkflow_ends (h : SavesAt pi.id j Φ Ψ) (occurredAt : Time) (starting : Bool) :
    Leads k j Φ (some pi) (saveWorkflow env pi w occurredAt starting) Ψ := by
  refine Prog.ends_bind (persist_ends h.stays _) fun _ => Prog.ends_bind (syncInactive_ends h.stays _) fun _ => ?_
  refine Prog.ends_bind (Q := fun _ => At k j Φ (some pi)) ?_ fun _ => ?_
  · exact calm_ends env (.quiet (by decide))
      (materializeReadyManualTasks_touches pi.focus_of (pi.focus_covers w) _ (List.Subset.refl _)) h.stays
  cases starting with
  | false => exact updateStatus_ends h _
  | true =>
    refine Prog.ends_bind (Q := fun _ => At k j Φ (some pi)) ?_ fun _ => updateStatus_ends h _
    exact calm_ends env (L := [.details]) (F := pi.focus) (.quiet (by decide))
      (updateInstance_touches rfl (List.Subset.refl _) fun _ => ⟨rfl, rfl⟩) h.stays

/-! ## Writing a status -/

/-- A write of the instance's row, which is at hand. -/
theorem restatus_ends (env : Env W Ω) {E : Phases} {f : ProcessInstance → ProcessInstance} (hf : ∀ p, (f p).identity = p.identity)
    (hother : pi.id ≠ j → ∀ b v c, Φ b v c → Ψ b v c)
    (hΨ : pi.id = j → ∀ b (p : ProcessInstance) c, Φ b (some p.phase) c → Ψ b (some (f p).phase) c) :
    Prog.Ends (At k j Φ (some pi)) (updateInstance (Ω := Ω) pi.id f) (fun _ => At k j Ψ (some pi)) fun _ => At k j E none := by
  refine fun s hs => ⟨fun a s' hrun => ?_, fun e s' hrun => by cases hrun⟩
  cases hrun
  have hstep : Steps (Change env pi.focus) [.status] s { s with view := s.view.updateInstance pi.id f } :=
    .one (List.mem_singleton.2 rfl) (.status s f hf)
  refine hs.moved (by simp) hstep ?_
  by_cases hj : pi.id = j
  · subst hj
    obtain ⟨p, hp, hsame, hphase⟩ := hs.found
    have hid : p.id = pi.id := congrArg InstanceIdentity.id hsame
    have hin : f p ∈ (s.view.updateInstance pi.id f).processInstances := mem_updateWhere.2 ⟨p, hp, by simp [hid]⟩
    have hnew := (hs.moved (Ψ := fun _ _ _ => True) (by simp) hstep trivial).orderly.view.phase hin
    have hfid : (f p).id = pi.id := (congrArg InstanceIdentity.id (hf p)).trans hid
    rw [hfid] at hnew
    rw [hnew]
    exact hΨ rfl _ p _ (hphase ▸ hs.phases)
  · have hsame : (s.view.updateInstance pi.id f).phase? j = s.view.phase? j := by
      unfold Db.phase?
      rw [processInstance?_updateInstance_of_ne hf hj]
    change Ψ _ ((s.view.updateInstance pi.id f).phase? j) _
    rw [hsame]
    exact hother hj _ _ _ hs.phases

theorem record_ends (hΨ : ∀ b v c, Φ b v c → Ψ b v c) (env : Env W Ω) (i : Nat) (eventType : EventType) (occurredAt : Time)
    (taskGuid : Option Guid) (userId : Option Nat) :
    Leads k j Φ hand (recordProcessInstanceEvent (Ω := Ω) tenantId i eventType occurredAt taskGuid userId) Ψ :=
  (calm_ends env (F := .on tenantId i) (.quiet (by decide))
    (recordProcessInstanceEvent_touches _ rfl _ _ _ _ (List.Subset.refl _)) hΨ).weaken (fun _ h => h)
    (fun _ _ hs => hs.weaken hΨ) fun _ _ h => h

theorem close_ends {E : Phases} (env : Env W Ω) (i : Nat) (occurredAt : Time) (userId : Option Nat) :
    Prog.Ends (At k j Φ hand) (write (Ω := Ω) (·.closeRuntimeState i occurredAt userId)) (fun _ => At k j Φ hand)
      fun _ => At k j E none := by
  have h : Touches (Change env (.on "" i)) [.shared, .details, .task, .item]
      (write (Ω := Ω) (·.closeRuntimeState i occurredAt userId)) := closeRuntimeState_touches _ _ (List.Subset.refl _)
  exact fun s hs => ⟨fun _ _ hm => hs.steps (.quiet (by decide)) (h.steps hm), fun _ _ hm => by cases hm⟩

/-- What an error of instance `i` asks of the phases before and after it. -/
structure Fails (i j : Nat) (Φ Ψ : Phases) : Prop where
  /-- elsewhere, or where the instance has ended -/
  stays : ∀ b v c, Φ b v c → (i = j → ∀ p, v = some p → p.status.isTerminal = true) → Ψ b v c
  failed : i = j → ∀ b p c t, Φ b (some p) c → p.status.isTerminal = false → Ψ b (some ⟨.error, some t⟩) c

/-- `error_process_instance` on an instance that is found. -/
theorem errored_ends (h : Fails pi.id j Φ Ψ) (userId : Option Nat) (at_ : Option Time) :
    Leads k j (fun b v c => Φ b v c ∧ (pi.id = j → v = some pi.phase)) (some pi) (do
      if pi.status = .error then pure ()
      else if pi.status = .complete then
        Prog.raise (.invalidState "Cannot mark a completed process instance as errored")
      else if pi.status = .terminated then
        Prog.raise (.invalidState "Cannot mark a terminated process instance as errored")
      else do
        let occurredAt ← resolveTimestamp env at_
        updateInstance pi.id
          ({ · with status := .error, endedAt := some occurredAt, updatedAt := some occurredAt })
        write (·.closeRuntimeState pi.id occurredAt userId)
        recordProcessInstanceEvent tenantId pi.id .processInstanceError occurredAt none userId) Ψ := by
  have hstop : pi.hasTerminalStatus = true → ∀ b v c, (Φ b v c ∧ (pi.id = j → v = some pi.phase)) → Ψ b v c := by
    rintro hterminal b v c ⟨hΦ, hv⟩
    refine h.stays b v c hΦ fun hj p hp => ?_
    rw [hv hj, Option.some.injEq] at hp
    exact hp ▸ hterminal
  split
  · rename_i herror
    exact Prog.ends_pure () fun s hs => hs.weaken (hstop (by simp [ProcessInstance.hasTerminalStatus, herror]))
  split
  · rename_i hcomplete
    exact Prog.ends_raise _ fun s hs => hs.weaken (hstop (by simp [ProcessInstance.hasTerminalStatus, hcomplete]))
  split
  · rename_i hterminated
    exact Prog.ends_raise _ fun s hs => hs.weaken (hstop (by simp [ProcessInstance.hasTerminalStatus, hterminated]))
  rename_i herror hcomplete hterminated
  have hopen : pi.hasTerminalStatus = false := by simp [ProcessInstance.hasTerminalStatus, herror, hcomplete, hterminated]
  refine Prog.ends_bind (resolveTimestamp_ends env _) fun occurredAt => ?_
  refine Prog.ends_bind (Q := fun _ => At k j Ψ (some pi)) ?_ fun _ => Prog.ends_bind (close_ends env _ _ _) fun _ => ?_
  · refine restatus_ends env (fun _ => rfl) (fun hj b v c hΦ => h.stays b v c hΦ.1 fun h => absurd h hj) ?_
    rintro hj b p c ⟨hΦ, hv⟩
    have hp : p.phase = pi.phase := Option.some.inj (hv hj)
    exact h.failed hj b p.phase c occurredAt hΦ (by rw [hp]; exact hopen)
  · exact record_ends (fun _ _ _ h => h) env _ _ _ _ _

/-! ## Failing service tasks -/

/-- The instance at hand is found again. -/
theorem reload_ends {E : Phases} (htenant : pi.m8fTenantId = tenantId) :
    Prog.Ends (At k j Φ (some pi)) (loadProcessInstance (Ω := Ω) tenantId pi.id) (fun found s =>
      (found.id = pi.id ∧ found.m8fTenantId = tenantId) ∧
        At k j (fun b v c => Φ b v c ∧ (pi.id = j → v = some found.phase)) (some found) s) fun _ => At k j E none := by
  refine fun s hs => ⟨(load_ends (Ψ := Φ) pi.id (fun _ _ _ h => h) s hs).1, fun e s' hrun => ?_⟩
  obtain ⟨p, hp, hsame⟩ := hs.here pi rfl
  have hid : p.id = pi.id := congrArg InstanceIdentity.id hsame
  have hp' : p.m8fTenantId = pi.m8fTenantId := congrArg InstanceIdentity.tenantId hsame
  obtain ⟨q, hload, -⟩ := loadProcessInstance_returns (s := s) ⟨p, hp, hp'.trans htenant, hid⟩
  rw [hload] at hrun
  cases hrun

/-- What a failing service task of instance `i` asks of the phases before and
after it. -/
structure Breaks (i j : Nat) (Φ Ψ : Phases) : Prop where
  stays : ∀ b v c, Φ b v c → Ψ b v c
  broken : i = j → ∀ b p c t, Φ b (some p) c → ¬ p.Over → Ψ b (some ⟨.error, some t⟩) c

theorem enterError_ends (h : Breaks pi.id j Φ Ψ) (htenant : pi.m8fTenantId = tenantId) (occurredAt : Time) :
    Leads k j Φ (some pi) (enterError env tenantId pi occurredAt) Ψ := by
  -- An instance in `error` is taken out of it first.
  let out (p : Phase) : Phase := if p.status = .error then ⟨.running, p.endedAt⟩ else p
  let Φ₁ : Phases := fun b v c => (pi.id ≠ j → Φ b v c) ∧ (pi.id = j → ∃ p, Φ b (some p) c ∧ v = some (out p))
  refine Prog.ends_bind (Q := fun _ => At k j Φ (some pi)) ?_ fun _ => ?_
  · exact calm_ends env (L := [.details]) (F := pi.focus) (.quiet (by decide))
      (updateInstance_touches rfl (List.Subset.refl _) fun _ => ⟨rfl, rfl⟩) h.stays
  refine Prog.ends_bind (Q := fun _ => At k j Φ (some pi)) ?_ fun _ => ?_
  · exact calm_ends env (L := [.process]) (.quiet (by decide))
      (updateBpmnProcess_touches pi.focus_of (fun _ => ⟨rfl, rfl⟩) (List.Subset.refl _)) h.stays
  refine Prog.ends_bind (Q := fun _ => At k j Φ₁ (some pi)) ?_ fun _ => ?_
  · refine restatus_ends env (fun p => ?_) (fun hj b v c hΦ => ⟨fun _ => hΦ, fun h => absurd h hj⟩) ?_
    · split <;> rfl
    · refine fun hj b p c hΦ => ⟨fun h => absurd hj h, fun _ => ⟨p.phase, hΦ, ?_⟩⟩
      unfold out ProcessInstance.phase
      dsimp only
      split <;> rfl
  unfold errorProcessInstance
  refine Prog.ends_bind (reload_ends htenant) fun found => ?_
  rintro s ⟨⟨hid, -⟩, hs⟩
  rw [← hid] at hs ⊢
  refine errored_ends ⟨fun b v c hΦ hterminal => ?_, fun hj b p c t hΦ hopen => ?_⟩ none (some occurredAt) s hs
  · by_cases hj : pi.id = j
    · obtain ⟨p, hp, rfl⟩ := hΦ.2 hj
      have hend := hterminal (hid.trans hj) _ rfl
      unfold out at hend ⊢
      split at hend
      · simp [ProcessInstanceStatus.isTerminal] at hend
      · rename_i hne
        rw [if_neg hne]
        exact h.stays _ _ _ hp
    · exact h.stays _ _ _ (hΦ.1 hj)
  · obtain ⟨p₀, hp₀, hp⟩ := hΦ.2 (hid.symm.trans hj)
    refine h.broken (hid.symm.trans hj) b p₀ c t hp₀ fun hover => ?_
    have hne : p₀.status ≠ .error := by
      rcases hover with hover | hover <;> simp [hover]
    simp only [out, if_neg hne, Option.some.injEq] at hp
    rw [hp] at hopen
    rcases hover with hover | hover <;> simp [hover, ProcessInstanceStatus.isTerminal] at hopen

theorem storeFailure_ends (hΨ : ∀ b v c, Φ b v c → Ψ b v c) (occurredAt : Time) (recoveryOnly : Bool) :
    Prog.Ends (At k j Φ (some pi)) (storeFailure env pi w occurredAt recoveryOnly) (fun _ => At k j Φ (some pi))
      fun _ => At k j Ψ none := by
  cases recoveryOnly with
  | true =>
    exact calm_ends env (.quiet (by decide))
      (persistWorkflowRecoveryState_touches pi.focus_of (pi.focus_covers w) (List.Subset.refl _)) hΨ
  | false => exact Prog.ends_bind (persist_ends hΨ _) fun _ => syncInactive_ends hΨ _

theorem transitionToError_ends (h : Breaks pi.id j Φ Ψ) (htenant : pi.m8fTenantId = tenantId) (occurredAt : Time)
    (recoveryOnly : Bool) :
    Leads k j Φ (some pi) (transitionToErrorForServiceTaskFailure env tenantId pi w occurredAt recoveryOnly) Ψ := by
  rw [transitionToErrorForServiceTaskFailure_eq]
  refine Prog.ends_bind (storeFailure_ends h.stays _ _) fun _ => Prog.ends_bind (Q := fun _ => At k j Φ (some pi)) ?_ fun _ => ?_
  · exact calm_ends env (F := pi.focus) (.quiet (by decide)) (recordTaskFailed_notes rfl _ (List.Subset.refl _)) h.stays
  · exact enterError_ends h htenant _

/-! ## Where the second session cannot store a failure -/

/-- The workflow has no snapshot to store. -/
def Unstorable (env : Env W Ω) (pi : ProcessInstance) (w : W) (db : Db) : Prop :=
  (∃ e, env.serializeJson w = .error e) ∨ (pi.bpmnProcessId.bind db.bpmnProcess?).isSome ∧ ∃ text e,
    env.serializeJson w = .ok text ∧
      env.normalizedPayload ((env.toDict w).data.set workflowStateJsonDataKey (.str text)) = .error e

theorem syncBpmnProcess_error {text : String} {e : Error}
    (h : (syncBpmnProcessFromWorkflow env pi (env.toDict w) text).run s = (.error e, s')) :
    (pi.bpmnProcessId.bind s.view.bpmnProcess?).isSome ∧
      ∃ e, env.normalizedPayload ((env.toDict w).data.set workflowStateJsonDataKey (.str text)) = .error e := by
  unfold syncBpmnProcessFromWorkflow createOrUpdateFromPayload Env.hashPayload at h
  simp only [query, Prog.gets_bind_run] at h
  cases hprocess : pi.bpmnProcessId.bind s.view.bpmnProcess? with
  | none => simp [hprocess] at h
  | some process =>
    cases hdata : env.normalizedPayload ((env.toDict w).data.set workflowStateJsonDataKey (.str text)) with
    | error e => exact ⟨rfl, e, rfl⟩
    | ok data => simp [hprocess, hdata, Except.map, ofExcept, write, Prog.bind_assoc] at h

theorem bpmnProcess?_bind {db : Db} : (pi.bpmnProcessId.bind db.bpmnProcess?).isSome ↔
    ∃ q, pi.bpmnProcessId = some q ∧ ∃ r ∈ db.bpmnProcesses, r.id = q := by
  cases pi.bpmnProcessId with
  | none => simp
  | some q =>
    rw [Option.bind_some, bpmnProcess?_isSome]
    constructor
    · exact fun h => ⟨q, rfl, h⟩
    · rintro ⟨q', hq, h⟩
      obtain rfl := Option.some.inj hq
      exact h

/-- A save of such a workflow raises before it writes the instance's status. -/
theorem persist_unstorable (h : Unstorable env pi w s.view) {occurredAt : Time} {r : Except Error Unit}
    (hrun : (persistWorkflowState env pi w occurredAt).run s = (r, s')) : ∃ e, r = .error e := by
  cases r with
  | error e => exact ⟨e, rfl⟩
  | ok u =>
    unfold persistWorkflowState at hrun
    obtain ⟨text, s₁, hserialize, h₁⟩ := Prog.bind_ok.1 hrun
    obtain ⟨htext, rfl⟩ := ofExcept_ok hserialize
    rcases h with ⟨e, herror⟩ | ⟨hprocess, text', e, htext', hdata⟩
    · rw [herror] at htext
      cases htext
    · obtain rfl := Except.ok.inj (htext.symm.trans htext')
      obtain ⟨_, s₂, hversion, h₂⟩ := Prog.bind_ok.1 h₁
      obtain ⟨_, s₃, hsync, h₃⟩ := Prog.bind_ok.1 h₂
      obtain ⟨_, s₄, hstore, -⟩ := Prog.bind_ok.1 h₃
      have hsteps : Steps (Change env pi.focus) [.details, .seq, .shared] s₁ s₃ := by
        refine .trans (Touches.steps ?_ hversion) (Touches.steps ?_ hsync)
        · exact updateInstance_touches rfl (by decide) fun _ => ⟨rfl, rfl⟩
        · exact syncProcessDefinitionFromWorkflow_touches _ _ _ (by decide)
      obtain ⟨q, hq, r, hr, hrid⟩ := bpmnProcess?_bind.1 hprocess
      obtain ⟨r', hr', hrid'⟩ := (grows_of_steps hsteps).processes r hr
      obtain ⟨process, hprocess'⟩ := Option.isSome_iff_exists.1 (bpmnProcess?_bind.2 ⟨q, hq, r', hr', hrid'.trans hrid⟩)
      unfold syncBpmnProcessFromWorkflow createOrUpdateFromPayload Env.hashPayload at hstore
      simp [query, hprocess', hdata, Except.map, ofExcept] at hstore

/-- The instance is there, and it is not over. -/
structure Open (tenantId : TenantId) (i : Nat) (s : Tx Ω) : Prop where
  found : HasInstance tenantId i s
  unended : ∀ p ∈ s.view.processInstances, p.id = i → ¬ p.phase.Over

theorem Open.update {i : Nat} {f : ProcessInstance → ProcessInstance} (hf : ∀ p, (f p).identity = p.identity)
    (hover : ∀ p : ProcessInstance, ¬ p.phase.Over → ¬ (f p).phase.Over) (h : Open tenantId i s) :
    Open tenantId i { s with view := s.view.updateInstance i f } := by
  constructor
  · obtain ⟨p, hp, htenant, hid⟩ := h.found
    refine ⟨f p, mem_updateWhere.2 ⟨p, hp, by simp [hid]⟩, ?_, ?_⟩
    · exact (congrArg InstanceIdentity.tenantId (hf p)).trans htenant
    · exact (congrArg InstanceIdentity.id (hf p)).trans hid
  · intro p hp hid
    obtain ⟨p₀, hp₀, rfl⟩ := mem_updateWhere.1 hp
    split
    · rename_i hi
      exact hover p₀ (h.unended p₀ hp₀ (by simpa using hi))
    · rename_i hi
      rw [if_neg hi] at hid
      simp [hid] at hi

theorem Open.steps {i : Nat} (hL : Touch.status ∉ L ∧ Touch.newInstance ∉ L) (hsteps : Steps (Change env F) L s s')
    (h : Open tenantId i s) : Open tenantId i s' := by
  refine hsteps.inv (P := Open tenantId i) (fun l hl s₁ s₂ hc h₁ => ⟨h₁.found.change hc, ?_⟩) h
  have hunended := h₁.unended
  cases hc with
  | status => exact absurd hl hL.1
  | newInstance => exact absurd hl hL.2
  | shared hdb =>
    rw [hdb.processInstances]
    exact hunended
  | details _ f hf =>
    intro p hp hid
    obtain ⟨p₀, hp₀, rfl⟩ := mem_updateWhere.1 hp
    have hkept : (if (p₀.id == F.instanceId) = true then f p₀ else p₀).phase = p₀.phase ∧
        (if (p₀.id == F.instanceId) = true then f p₀ else p₀).id = p₀.id := by
      split
      · exact ⟨(hf p₀).2, congrArg InstanceIdentity.id (hf p₀).1⟩
      · exact ⟨rfl, rfl⟩
    rw [hkept.1]
    exact hunended p₀ hp₀ (hkept.2.symm.trans hid)
  | _ => exact hunended

theorem recordProcessInstanceEvent_returns {i : Nat} (h : HasInstance tenantId i s) (eventType : EventType) (occurredAt : Time)
    (taskGuid : Option Guid) :
    ∃ s', (recordProcessInstanceEvent tenantId i eventType occurredAt taskGuid none).run s = (.ok (), s') := by
  obtain ⟨p, hload, -⟩ := loadProcessInstance_returns h
  unfold recordProcessInstanceEvent
  dsimp only
  exact ⟨_, by rw [Prog.bind_run_ok hload]; rfl⟩

theorem enterError_returns (h : Open tenantId pi.id s) (occurredAt : Time) :
    ∃ s', (enterError env tenantId pi occurredAt).run s = (.ok (), s') := by
  have hprocess : ∀ (s : Tx Ω) (f : BpmnProcess → BpmnProcess), Open tenantId pi.id s →
      Open tenantId pi.id ((updateProcessOf pi f).run s).2 := by
    intro s f hs
    unfold updateProcessOf
    cases pi.bpmnProcessId with
    | none => exact hs
    | some processId => exact ⟨hs.found, hs.unended⟩
  unfold enterError updateInstance
  simp only [write, Prog.modify_bind_run]
  unfold updateProcessOf write at hprocess ⊢
  simp only [Prog.modify_run, Prog.modify_bind_run] at hprocess ⊢
  have h₁ := h.update (f := fun p => { p with startedAt := some (p.startedAt.getD occurredAt) }) (fun _ => rfl) fun _ h => h
  have h₂ := hprocess _ (fun p => { p with startedAt := some (p.startedAt.getD occurredAt), endedAt := some occurredAt }) h₁
  have h₃ := h₂.update (f := fun p => if p.status = .error then { p with status := .running } else p)
    (fun p => by split <;> rfl) fun p hover => by
      split
      · simp [Phase.Over, ProcessInstance.phase]
      · exact hover
  generalize { s with view := _ } = s₃ at h₃ ⊢
  obtain ⟨p, hload, hp, -, hid⟩ := loadProcessInstance_returns h₃.found
  have hover := h₃.unended p hp hid
  simp only [Phase.Over, ProcessInstance.phase, not_or] at hover
  unfold errorProcessInstance
  rw [Prog.bind_run_ok hload]
  split
  · exact ⟨s₃, rfl⟩
  rw [if_neg hover.1, if_neg hover.2]
  simp only [resolveTimestamp, updateInstance, write, Prog.gets_bind_run, Prog.modify_bind_run]
  refine recordProcessInstanceEvent_returns ?_ _ _ _
  have hstatus : Change env (.on tenantId pi.id) .status s₃ _ := .status s₃ ({ · with
    status := .error, endedAt := some ((some occurredAt).getD (env.now s₃.world)),
    updatedAt := some ((some occurredAt).getD (env.now s₃.world)) }) fun _ => rfl
  have hdetails : ∀ s₄ : Tx Ω, Change env (.on tenantId pi.id) .details s₄ _ := fun s₄ =>
    .details s₄ ({ · with taskUpdatedAt := some ((some occurredAt).getD (env.now s₃.world)) }) fun _ => ⟨rfl, rfl⟩
  have hclosed := (h₃.found.change hstatus).change (hdetails _)
  exact hclosed

/-- A failure that a session of its own cannot store is of an instance that is
not committed or over, or of a workflow without a snapshot. -/
theorem storeServiceTaskFailure_error (hs : At k j Φ (some pi) s) (htenant : pi.m8fTenantId = tenantId) {occurredAt : Time}
    {e : Error} (h : (storeServiceTaskFailure env tenantId pi.id w occurredAt).run s.fork = (.error e, s')) :
    (∀ q, s.committed.phase? pi.id = some q → q.Over) ∨ Unstorable env pi w s.committed := by
  obtain ⟨p, hp, hsame⟩ := hs.here pi rfl
  have hid : p.id = pi.id := congrArg InstanceIdentity.id hsame
  unfold storeServiceTaskFailure at h
  by_cases hrow : ∃ r ∈ s.committed.processInstances, r.id = pi.id
  swap
  · refine .inl fun q hq => absurd ?_ hrow
    obtain ⟨r, hr, -⟩ := Option.map_eq_some_iff.1 hq
    exact ⟨r, List.mem_of_find?_eq_some hr, processInstance?_id hr⟩
  obtain ⟨r, hr, hrid⟩ := hrow
  have hagree : r.identity = pi.identity := (hs.orderly.agree p hp r hr (hid.trans hrid.symm)).symm.trans hsame
  have hthere : HasInstance tenantId pi.id s.fork :=
    ⟨r, hr, (congrArg InstanceIdentity.tenantId hagree : r.m8fTenantId = pi.m8fTenantId).trans htenant, hrid⟩
  obtain ⟨found, hload, hfound, -, hfid⟩ := loadProcessInstance_returns hthere
  obtain rfl : found = r := hs.orderly.committed.unique hfound hr (hfid.trans hrid.symm)
  rw [Prog.bind_run_ok hload, transitionToErrorForServiceTaskFailure_eq] at h
  by_cases hover : found.phase.Over
  · refine .inl fun q hq => ?_
    rw [← hfid, hs.orderly.committed.phase hr, Option.some.injEq] at hq
    exact hq ▸ hover
  refine .inr ?_
  have hopen : Open tenantId found.id s.fork := by
    refine ⟨⟨found, hfound, (congrArg InstanceIdentity.tenantId hagree : found.m8fTenantId = pi.m8fTenantId).trans htenant, rfl⟩,
      fun q hq hqid => ?_⟩
    rw [hs.orderly.committed.unique hq hfound hqid]
    exact hover
  rcases Prog.bind_error.1 h with hstore | ⟨_, s₁, hstore, h₁⟩
  · unfold storeFailure persistWorkflowRecoveryState at hstore
    rcases Prog.bind_error.1 hstore with hserialize | ⟨text, s₂, hserialize, h₂⟩
    · refine .inl ?_
      cases hjson : env.serializeJson w with
      | error e => exact ⟨e, rfl⟩
      | ok text => simp [hjson, ofExcept] at hserialize
    · obtain ⟨htext, rfl⟩ := ofExcept_ok hserialize
      simp only [updateInstance, write, Prog.modify_bind_run] at h₂
      obtain ⟨hprocess, e', hdata⟩ := syncBpmnProcess_error h₂
      have hsamep : found.bpmnProcessId = pi.bpmnProcessId := congrArg InstanceIdentity.processId hagree
      rw [hsamep] at hprocess
      exact .inr ⟨hprocess, text, e', htext, hdata⟩
  · have hopen₁ := hopen.steps (F := found.focus) (L := [.details, .json, .snapshot]) (by decide)
      ((persistWorkflowRecoveryState_touches found.focus_of (found.focus_covers w) (List.Subset.refl _)).steps hstore)
    rcases Prog.bind_error.1 h₁ with hrecord | ⟨_, s₂, hrecord, h₂⟩
    · unfold recordTaskFailed at hrecord
      split at hrecord
      · simp at hrecord
      · obtain ⟨s₂, hreturn⟩ := recordProcessInstanceEvent_returns hopen₁.found .taskFailed occurredAt (some _)
        rw [hreturn] at hrecord
        cases hrecord
    · have hnoted : Steps (Change env found.focus) [.seq, .note] s₁ s₂ :=
        (recordTaskFailed_notes rfl _ (List.Subset.refl _)).steps hrecord
      have hopen₂ := hopen₁.steps (by decide) hnoted
      obtain ⟨s₃, hreturn⟩ : ∃ s₃, (enterError env tenantId found occurredAt).run s₂ = (.ok (), s₃) :=
        enterError_returns hopen₂ occurredAt
      rw [hreturn] at h₂
      cases h₂

/-! ## Running a workflow -/

/-- What a second session keeps while it stores a failure. -/
structure Second (s s' : Tx Ω) : Prop where
  base : s'.base = s.base
  seq : s.seq ≤ s'.seq
  identities : s'.view.processInstances.map (·.identity) = s.view.processInstances.map (·.identity)
  processes : s'.view.bpmnProcesses.map (·.id) = s.view.bpmnProcesses.map (·.id)
  jobs : s'.view.schedulerJobs = s.view.schedulerJobs

theorem frame_second : Prog.Frame (Second (Ω := Ω)) :=
  ⟨fun _ => ⟨rfl, le_refl _, rfl, rfl, rfl⟩, fun h₁ h₂ => ⟨h₂.base.trans h₁.base, h₁.seq.trans h₂.seq,
    h₂.identities.trans h₁.identities, h₂.processes.trans h₁.processes, h₂.jobs.trans h₁.jobs⟩⟩

theorem Change.sameInstances {l : Touch} (hnew : l ≠ .newInstance) (hc : Change env F l s s') :
    s'.view.processInstances.map (·.identity) = s.view.processInstances.map (·.identity) := by
  cases hc with
  | shared hdb => rw [hdb.processInstances]
  | details _ f hf => exact map_updateWhere fun p => (hf p).1
  | status _ f hf => exact map_updateWhere hf
  | newInstance => exact absurd rfl hnew
  | _ => rfl

theorem Change.sameProcesses {l : Touch} (hprocess : l ≠ .newProcess) (hnew : l ≠ .newInstance) (hc : Change env F l s s') :
    s'.view.bpmnProcesses.map (·.id) = s.view.bpmnProcesses.map (·.id) := by
  cases hc with
  | shared hdb => rw [hdb.bpmnProcesses]
  | process _ hp f hf => exact map_updateWhere fun r => congrArg ProcessIdentity.id (hf r).1
  | snapshot => exact map_updateWhere fun _ => rfl
  | newProcess => exact absurd rfl hprocess
  | newInstance => exact absurd rfl hnew
  | _ => rfl

theorem second_of_steps (hnew : Touch.newProcess ∉ L ∧ Touch.newInstance ∉ L) (hquiet : Quiet L)
    (h : Steps (Change env F) L s s') : Second s s' := by
  refine ⟨(committed_of_steps h).1, seq_of_steps h, ?_, ?_, schedulerJobs_of_steps hquiet.1 hquiet.2.1 hquiet.2.2 h⟩
  · refine Steps.keeps (R := fun s s' : Tx Ω =>
      s'.view.processInstances.map (·.identity) = s.view.processInstances.map (·.identity))
      ⟨fun _ => rfl, fun h₁ h₂ => h₂.trans h₁⟩ (fun l hl s₁ s₂ hc => hc.sameInstances ?_) h
    rintro rfl
    exact hnew.2 hl
  · refine Steps.keeps (R := fun s s' : Tx Ω => s'.view.bpmnProcesses.map (·.id) = s.view.bpmnProcesses.map (·.id))
      ⟨fun _ => rfl, fun h₁ h₂ => h₂.trans h₁⟩ (fun l hl s₁ s₂ hc => hc.sameProcesses ?_ ?_) h
    · rintro rfl
      exact hnew.1 hl
    · rintro rfl
      exact hnew.2 hl

variable (env) in
theorem storeServiceTaskFailure_second (tenantId : TenantId) (i : Nat) (w : W) (occurredAt : Time) :
    (storeServiceTaskFailure env tenantId i w occurredAt).Keeps Second := by
  refine Prog.keeps_bind frame_second ((loadProcessInstance_readOnly _ _).keeps frame_second) fun pi s => ?_
  exact second_of_steps (L := failing) (by decide) (by decide)
    (transitionToError_touches tenantId pi.focus_of (pi.focus_covers w) occurredAt true (List.Subset.refl _) (by simp) s)

/-- What a second session that stored a failure has committed. -/
theorem Second.beside (h : Second s.fork s') (horderly : Orderly s') : Beside s s' where
  seq := h.seq
  ranked := horderly.view
  retains := by
    have hviewed := horderly.viewed
    rw [h.base] at hviewed
    exact hviewed
  identities q hq := by
    have hmem : q.identity ∈ s.committed.processInstances.map (·.identity) := by
      have hsame : s'.view.processInstances.map (·.identity) = s.committed.processInstances.map (·.identity) := h.identities
      rw [← hsame]
      exact List.mem_map_of_mem hq
    obtain ⟨p, hp, hsame⟩ := List.mem_map.1 hmem
    exact .inr ⟨p, hp, hsame⟩
  jobs := h.jobs

/-- What a run of the workflow of instance `i` asks of the phases before it and
where it raises. -/
structure Runs (autonomous : Bool) (i j : Nat) (Φ Ψ : Phases) : Prop where
  stays : ∀ b v c, Φ b v c → Ψ b v c
  beside : autonomous = true → i = j → ∀ b v q t, Φ b v (some q) → ¬ q.Over → Ψ b v (some ⟨.error, some t⟩)
  -- A call that may store the failure by itself stores it in the session only
  -- where it cannot.
  inside : i = j → ∀ b p c t, Φ b (some p) c → ¬ p.Over → (autonomous = true → ∀ q, c = some q → q.Over) →
    Ψ b (some ⟨.error, some t⟩) c

theorem Unstorable.view (h : Unstorable env pi w s.committed) (horderly : Orderly s) : Unstorable env pi w s.view := by
  refine h.imp_right fun hstored => ⟨?_, hstored.2⟩
  have hprocess := hstored.1
  obtain ⟨q, hq, r, hr, hid⟩ := bpmnProcess?_bind.1 hprocess
  obtain ⟨r', hr', hid'⟩ := horderly.seen r hr
  exact bpmnProcess?_bind.2 ⟨q, hq, r', hr', hid'.trans hid⟩

/-- A stored failure has taken the committed instance to `error`, if it was not
over. -/
theorem stored_ends (h : Runs true pi.id j Φ Ψ) (hs : At k j Φ (some pi) s) {occurredAt : Time}
    (hrun : (storeServiceTaskFailure env tenantId pi.id w occurredAt).run s.fork = (.ok (), s')) :
    At k j Ψ none { s' with base := s.base, view := s.view, committed := s'.view } := by
  let Ψ₁ : Phases := fun _ v _ => v = s.committed.phase? j ∨ pi.id = j ∧ ∃ q t, s.committed.phase? j = some q ∧ ¬ q.Over ∧
    v = some ⟨.error, some t⟩
  have hfork : At none j (fun _ v _ => v = s.committed.phase? j) none s.fork := ⟨hs.orderly.fork, rfl, by simp, by simp⟩
  have hends : Leads none j (fun _ v _ => v = s.committed.phase? j) none
      (storeServiceTaskFailure env tenantId pi.id w occurredAt) Ψ₁ := by
    refine Prog.ends_bind (load_ends _ fun b v c h => .inl h) fun found => ?_
    rintro s₁ ⟨⟨hid, hfound⟩, hs₁⟩
    refine transitionToError_ends ⟨fun b v c hΦ => .inl hΦ.1, fun hj b p c t hΦ hover => ?_⟩ hfound occurredAt true s₁ hs₁
    exact .inr ⟨hid.symm.trans hj, p, t, hΦ.1.symm, hover, rfl⟩
  have hend := (hends s.fork hfork).1 () s' hrun
  have hsecond := (storeServiceTaskFailure_second env _ _ _ _).of_ok hrun
  have hfitting := hs.orderly.toFitting.beside (hsecond.beside hend.orderly)
  refine ⟨⟨hfitting, fun r hr => ?_⟩, ?_, hs.there, by simp⟩
  · -- The session has seen every process: the second one created none.
    have hmem : r.id ∈ s.committed.bpmnProcesses.map (·.id) := by
      have hsame : s'.view.bpmnProcesses.map (·.id) = s.committed.bpmnProcesses.map (·.id) := hsecond.processes
      rw [← hsame]
      exact List.mem_map_of_mem hr
    obtain ⟨r₁, hr₁, hid₁⟩ := List.mem_map.1 hmem
    obtain ⟨r₂, hr₂, hid₂⟩ := hs.orderly.seen r₁ hr₁
    exact ⟨r₂, hr₂, hid₂.trans hid₁⟩
  · rcases hend.phases with hsame | ⟨hj, q, t, hq, hover, hfailed⟩
    · change Ψ _ _ (s'.view.phase? j)
      rw [hsame]
      exact h.stays _ _ _ hs.phases
    · change Ψ _ _ (s'.view.phase? j)
      rw [hfailed]
      exact h.beside rfl hj _ _ q t (hq ▸ hs.phases) hover

theorem runWorkflow_ends {autonomous : Bool} (h : Runs autonomous pi.id j Φ Ψ) (htenant : pi.m8fTenantId = tenantId)
    (occurredAt : Time) :
    Prog.Ends (At k j Φ (some pi)) (runWorkflowWithServiceTaskFailureHandling env tenantId pi w occurredAt autonomous)
      (fun _ => At k j Φ (some pi)) fun _ => At k j Ψ none := by
  refine Prog.ends_bind (ask_ends _) ?_
  rintro ⟨raised, w⟩
  dsimp only
  split
  · exact Prog.ends_pure _ fun _ hs => hs
  · rename_i message
    cases autonomous with
    | false =>
      change Prog.Ends _ (do
        transitionToErrorForServiceTaskFailure env tenantId pi w occurredAt false
        Prog.raise (.serviceTaskExecution message) : M Ω W) _ _
      refine Prog.ends_bind (Q := fun _ => At k j Ψ none) ?_ fun _ => Prog.ends_raise _ fun _ hs => hs
      exact transitionToError_ends ⟨h.stays, fun hj b p c t hΦ hover => h.inside hj b p c t hΦ hover (by simp)⟩ htenant _ _
    | true =>
      intro s hs
      rcases hstore : (storeServiceTaskFailure env tenantId pi.id w occurredAt).run s.fork with ⟨e | u, s₁⟩
      · -- The second session is rolled back; its ids stay used.
        have hseq : s.seq ≤ s₁.seq := ((storeServiceTaskFailure_second env _ _ _ _).of_ok hstore).seq
        have hs₁ : At k j Φ (some pi) { s₁ with base := s.base, view := s.view, committed := s.committed } :=
          ⟨hs.orderly.mono hseq _, hs.phases, hs.there, hs.here⟩
        have hends : Prog.Ends (fun s₂ => s₂ = { s₁ with base := s.base, view := s.view, committed := s.committed }) (do
            transitionToErrorForServiceTaskFailure env tenantId pi w occurredAt false
            Prog.raise (.serviceTaskExecution message) : M Ω W) (fun _ => At k j Φ (some pi)) fun _ => At k j Ψ none := by
          refine Prog.ends_bind (Q := fun _ => At k j Ψ none) ?_ fun _ => Prog.ends_raise _ fun _ hs => hs
          rintro _ rfl
          rcases storeServiceTaskFailure_error hs htenant hstore with hover | hbad
          · refine transitionToError_ends (Φ := fun b v c => Φ b v c ∧ (pi.id = j → ∀ q, c = some q → q.Over))
              ⟨fun b v c hΦ => h.stays b v c hΦ.1, fun hj b p c t hΦ hp => ?_⟩ htenant _ _ _
              ⟨hs₁.orderly, ⟨hs₁.phases, fun hj q hq => hover q (hj ▸ hq)⟩, hs₁.there, hs₁.here⟩
            exact h.inside hj b p c t hΦ.1 hp fun _ => hΦ.2 hj
          · have hview : Unstorable env pi w
                ({ s₁ with base := s.base, view := s.view, committed := s.committed } : Tx Ω).view := hbad.view hs.orderly
            rw [transitionToErrorForServiceTaskFailure_eq]
            refine Prog.ends_bind (P := fun s₂ => s₂ = { s₁ with base := s.base, view := s.view, committed := s.committed })
              (Q := fun _ _ => False) ?_ (fun _ _ h => h.elim) _ rfl
            rintro _ rfl
            refine ⟨fun u s₂ hrun => ?_, fun e s₂ hrun => (storeFailure_ends h.stays occurredAt false _ hs₁).2 e s₂ hrun⟩
            obtain ⟨_, s₃, hpersist, -⟩ := Prog.bind_ok.1 hrun
            obtain ⟨e, he⟩ := persist_unstorable hview hpersist
            cases he
        have hrun := hends _ rfl
        simp only [if_true, Prog.bind_run_ok (persistServiceTaskFailureState_unsaved env hstore)]
        exact hrun
      · simp only [if_true, Prog.bind_run_ok (persistServiceTaskFailureState_saved env hstore)]
        exact Prog.ends_raise (P := At k j Ψ none) (E := fun _ => At k j Ψ none) _ (fun _ hs => hs) _ (stored_ends h hs hstore)
  · exact Prog.ends_raise _ fun _ hs => hs.weaken h.stays

end
end M8flowCore
