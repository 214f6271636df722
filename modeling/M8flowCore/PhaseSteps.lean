import M8flowCore.PhaseCalls
import M8flowCore.Tales
/-!
# The phases an operation leaves

What a service does to the phases of an instance is said by the phases it may
start from and those it may end in: one lemma for each service, for whatever
classes of phases satisfy its conditions.
-/
open M8flowCore.Lib M8flowCore.Session

namespace M8flowCore

/-- What a service that runs the workflow of instance `i` asks of the phases
before and after it, if it goes on only in a phase `G`. -/
structure Serves (autonomous : Bool) (G : Phase → Prop) (i j : Nat) (Φ Ψ : Phases) : Prop where
  stays : ∀ b v c, Φ b v c → Ψ b v c
  saved : i = j → ∀ b p c q, Φ b (some p) c → G p → q.OfWorkflow → Ψ b (some q) c
  beside : autonomous = true → i = j → ∀ b p q t, Φ b (some p) (some q) → G p → ¬ q.Over →
    Ψ b (some p) (some ⟨.error, some t⟩)
  inside : i = j → ∀ b p c t, Φ b (some p) c → G p → ¬ p.Over → (autonomous = true → ∀ q, c = some q → q.Over) →
    Ψ b (some ⟨.error, some t⟩) c

/-- The instance has not ended. -/
def Phase.Running (p : Phase) : Prop := p.status.isTerminal = false

section
variable {W Ω α : Type} {env : Env W Ω} {s s' : Tx Ω} {k : Option InstanceIdentity} {i j : Nat} {Φ Ψ Λ : Phases}
  {hand : Option ProcessInstance} {pi : ProcessInstance} {w : W} {tenantId : TenantId} {autonomous : Bool} {G : Phase → Prop}

theorem Serves.other (h : i ≠ j) (hΨ : ∀ b v c, Φ b v c → Ψ b v c) : Serves autonomous G i j Φ Ψ :=
  ⟨hΨ, fun hj => absurd hj h, fun _ hj => absurd hj h, fun hj => absurd hj h⟩

theorem Serves.runs (h : Serves autonomous G i j Φ Ψ) (hid : pi.id = i) (hG : G pi.phase) :
    Runs autonomous pi.id j (fun b v c => Φ b v c ∧ (i = j → v = some pi.phase)) Ψ where
  stays b v c hΦ := h.stays b v c hΦ.1
  beside hauto hj b v q t hΦ hq := by
    obtain ⟨hΦ, hv⟩ := hΦ
    have hi := hid.symm.trans hj
    rw [hv hi] at hΦ ⊢
    exact h.beside hauto hi b _ q t hΦ hG hq
  inside hj b p c t hΦ hp hc := by
    obtain ⟨hΦ, hv⟩ := hΦ
    have hi := hid.symm.trans hj
    obtain rfl := Option.some.inj (hv hi)
    exact h.inside hi b _ c t hΦ hG hp hc

theorem Serves.saves (h : Serves autonomous G i j Φ Ψ) (hid : pi.id = i) (hG : G pi.phase) :
    SavesAt pi.id j (fun b v c => Φ b v c ∧ (i = j → v = some pi.phase)) Ψ where
  stays b v c hΦ := h.stays b v c hΦ.1
  saved hj b p c q hΦ hq := by
    obtain ⟨hΦ, hv⟩ := hΦ
    have hi := hid.symm.trans hj
    obtain rfl := Option.some.inj (hv hi)
    exact h.saved hi b _ c q hΦ hG hq

/-! ## Workflows -/

theorem advance_ends (h : Serves false Phase.Running i j Φ Ψ) (guid : Guid) (completedAt : Option Time) :
    Leads k j Φ hand (advanceProcessInstanceWorkflow env tenantId i guid completedAt) Ψ := by
  refine Prog.ends_bind_of (load_ends i h.stays) ?_
  rintro pi ⟨hid, htenant⟩
  have hleave : ∀ b v c, (Φ b v c ∧ (i = j → v = some pi.phase)) → Ψ b v c := fun b v c hΦ => h.stays b v c hΦ.1
  refine Prog.ends_bind (query_ends _) fun state => ?_
  cases state with
  | none => exact Prog.ends_pure _ fun s hs => hs.weaken hleave
  | some state =>
    dsimp only
    split
    · exact Prog.ends_pure _ fun s hs => hs.weaken hleave
    rename_i hopen
    have hG : pi.phase.Running := Bool.eq_false_iff.2 hopen
    refine Prog.ends_bind (resolveTimestamp_ends env _) fun occurredAt => ?_
    refine Prog.ends_bind (readOnly_ends (ofExcept_readOnly _) hleave) fun w => ?_
    split
    · refine Prog.ends_bind (readOnly_ends (loadProcessInstanceMetadataPayload_readOnly _ _) hleave) fun metadata => ?_
      refine Prog.ends_bind (ask_ends _) fun completed => ?_
      refine Prog.ends_bind (readOnly_ends (orRaised_readOnly _) hleave) fun w => ?_
      refine Prog.ends_bind (runWorkflow_ends (h.runs hid hG) htenant _) fun w => ?_
      exact saveWorkflow_ends (h.saves hid hG) _ _
    · exact Prog.ends_raise _ fun s hs => hs.weaken hleave

theorem refreshWaiting_ends (h : Serves true Phase.Running i j Φ Ψ) (occurredAt : Option Time) :
    Leads k j Φ hand (refreshWaitingProcessInstanceWorkflow env tenantId i occurredAt) Ψ := by
  refine Prog.ends_bind_of (load_ends i h.stays) ?_
  rintro pi ⟨hid, htenant⟩
  have hleave : ∀ b v c, (Φ b v c ∧ (i = j → v = some pi.phase)) → Ψ b v c := fun b v c hΦ => h.stays b v c hΦ.1
  refine Prog.ends_bind (query_ends _) fun state => ?_
  cases state with
  | none => exact Prog.ends_pure _ fun s hs => hs.weaken hleave
  | some state =>
    dsimp only
    split
    · exact Prog.ends_pure _ fun s hs => hs.weaken hleave
    rename_i hopen
    have hG : pi.phase.Running := Bool.eq_false_iff.2 hopen
    refine Prog.ends_bind (resolveTimestamp_ends env _) fun timestamp => ?_
    refine Prog.ends_bind (readOnly_ends (ofExcept_readOnly _) hleave) fun w => ?_
    refine Prog.ends_bind (ask_ends _) fun refreshed => ?_
    refine Prog.ends_bind (readOnly_ends (orRaised_readOnly _) hleave) fun w => ?_
    refine Prog.ends_bind (runWorkflow_ends (h.runs hid hG) htenant _) fun w => ?_
    exact saveWorkflow_ends (h.saves hid hG) _ _

theorem retryErrored_ends (h : Serves true (fun _ => True) i j Φ Ψ) (occurredAt : Option Time) :
    Leads k j Φ hand (retryErroredServiceTaskWorkflowIfNeeded env tenantId i occurredAt) Ψ := by
  refine Prog.ends_bind_of (load_ends i h.stays) ?_
  rintro pi ⟨hid, htenant⟩
  have hleave : ∀ b v c, (Φ b v c ∧ (i = j → v = some pi.phase)) → Ψ b v c := fun b v c hΦ => h.stays b v c hΦ.1
  refine Prog.ends_bind (query_ends _) fun state => ?_
  cases state with
  | none => exact Prog.ends_pure _ fun s hs => hs.weaken hleave
  | some state =>
    refine Prog.ends_bind (resolveTimestamp_ends env _) fun timestamp => ?_
    refine Prog.ends_bind (readOnly_ends (ofExcept_readOnly _) hleave) fun w => ?_
    refine Prog.ends_bind (readOnly_ends (loadProcessInstanceMetadataPayload_readOnly _ _) hleave) fun metadata => ?_
    dsimp only
    split
    · exact Prog.ends_pure _ fun s hs => hs.weaken hleave
    refine Prog.ends_bind (readOnly_ends (orRaised_readOnly _) hleave) fun w => ?_
    refine Prog.ends_bind (runWorkflow_ends (h.runs hid trivial) htenant _) fun w => ?_
    exact saveWorkflow_ends (h.saves hid trivial) _ _

theorem finalize_ends (h : SavesAt pi.id j Φ Ψ) (occurredAt : Time) :
    Leads k j Φ (some pi) (finalizeInitializedWorkflow env tenantId pi w occurredAt) Ψ := by
  refine Prog.ends_bind (saveWorkflow_ends h _ _) fun _ => Prog.ends_bind (query_ends _) fun guid => ?_
  exact record_ends (fun _ _ _ h => h) env _ _ _ _ _

variable (env) in
theorem build_ends (hΨ : ∀ b v c, Φ b v c → Ψ b v c) (request : BuildRequest) (occurredAt : Time) :
    Prog.Ends (At k j Φ hand) (buildInstanceWorkflow env tenantId pi request occurredAt) (fun _ => At k j Φ hand)
      fun _ => At k j Ψ none :=
  calm_ends env (F := pi.focus) (.quiet (by decide)) (buildInstanceWorkflow_touches _ _ _ _ (List.Subset.refl _)) hΨ

theorem initializeWorkflow_ends (h : Serves true Phase.Running i j Φ Ψ) (source : WorkflowSource) (startedAt : Option Time) :
    Leads k j Φ hand (initializeProcessInstanceWorkflow env tenantId i source startedAt) Ψ := by
  refine Prog.ends_bind_of (load_ends i h.stays) ?_
  rintro pi ⟨hid, htenant⟩
  have hleave : ∀ b v c, (Φ b v c ∧ (i = j → v = some pi.phase)) → Ψ b v c := fun b v c hΦ => h.stays b v c hΦ.1
  split
  · exact Prog.ends_raise _ fun s hs => hs.weaken hleave
  rename_i hopen
  have hG : pi.phase.Running := Bool.eq_false_iff.2 hopen
  refine Prog.ends_bind (query_ends _) fun state => ?_
  split
  · exact Prog.ends_raise _ fun s hs => hs.weaken hleave
  refine Prog.ends_bind (resolveTimestamp_ends env _) fun occurredAt => ?_
  refine Prog.ends_bind (build_ends env hleave _ _) fun w => ?_
  refine Prog.ends_bind (runWorkflow_ends (h.runs hid hG) htenant _) fun w => ?_
  exact finalize_ends (h.saves hid hG) _

/-! ## Jobs -/

/-- Jobs show in no phase. -/
theorem At.jobs (h : At k j Φ hand s) {jobs : List SchedulerJob} (hjobs : Homed s.seq jobs) :
    At k j Φ hand { s with view := { s.view with schedulerJobs := jobs } } where
  orderly := {
    view := ⟨h.orderly.view.nodup, h.orderly.view.lt⟩, committed := h.orderly.committed,
    viewed := ⟨h.orderly.viewed.instances, h.orderly.viewed.processes⟩, standing := h.orderly.standing,
    agree := h.orderly.agree, homed := hjobs, filed := h.orderly.filed, current := h.orderly.current, seen := h.orderly.seen }
  phases := h.phases
  there := h.there
  here := h.here

theorem deleteJob_ends {E : Phases} (tenantId : TenantId) (jobKey : String) :
    Prog.Ends (At k j Φ hand) (deleteSchedulerJob (Ω := Ω) tenantId jobKey) (fun _ => At k j Φ hand) fun _ => At k j E none := by
  refine fun s hs => ⟨fun _ s' hrun => ?_, fun _ _ hrun => by cases hrun⟩
  cases hrun
  exact hs.jobs fun job hjob => hs.orderly.homed job (List.mem_filter.1 hjob).1

/-! ## Lifecycle commands -/

theorem suspend_ends (hstays : ∀ b v c, Φ b v c → Ψ b v c)
    (h : i = j → ∀ b p c, Φ b (some p) c → p.Running → Ψ b (some ⟨.suspended, p.endedAt⟩) c) (userId : Nat)
    (at_ : Option Time) : Leads k j Φ hand (suspendProcessInstance env tenantId i userId at_) Ψ := by
  refine Prog.ends_bind_of (open_ends i userId _ hstays) ?_
  rintro pi ⟨rfl, -⟩
  have hleave : ∀ b v c, (Φ b v c ∧ (pi.id = j → v = some pi.phase)) → Ψ b v c := fun b v c hΦ => hstays b v c hΦ.1
  split
  · exact Prog.ends_pure _ fun s hs => hs.weaken hleave
  split
  · exact Prog.ends_raise _ fun s hs => hs.weaken hleave
  rename_i hopen
  refine Prog.ends_bind (resolveTimestamp_ends env _) fun occurredAt => ?_
  refine Prog.ends_bind (Q := fun _ => At k j Ψ (some pi)) ?_ fun _ => record_ends (fun _ _ _ h => h) env _ _ _ _ _
  refine restatus_ends env (fun _ => rfl) (fun _ => hleave) ?_
  rintro hj b p c ⟨hΦ, hv⟩
  have hp : p.phase = pi.phase := Option.some.inj (hv hj)
  exact h hj b p.phase c hΦ (hp ▸ Bool.eq_false_iff.2 hopen)

theorem resume_ends (hstays : ∀ b v c, Φ b v c → Ψ b v c)
    (h : i = j → ∀ b p c, Φ b (some p) c → p.status = .suspended → Ψ b (some ⟨.running, p.endedAt⟩) c) (userId : Nat)
    (at_ : Option Time) : Leads k j Φ hand (resumeProcessInstance env tenantId i userId at_) Ψ := by
  refine Prog.ends_bind_of (open_ends i userId _ hstays) ?_
  rintro pi ⟨rfl, -⟩
  have hleave : ∀ b v c, (Φ b v c ∧ (pi.id = j → v = some pi.phase)) → Ψ b v c := fun b v c hΦ => hstays b v c hΦ.1
  split
  · exact Prog.ends_pure _ fun s hs => hs.weaken hleave
  split
  · exact Prog.ends_raise _ fun s hs => hs.weaken hleave
  split
  · exact Prog.ends_raise _ fun s hs => hs.weaken hleave
  rename_i hsuspended
  refine Prog.ends_bind (resolveTimestamp_ends env _) fun occurredAt => ?_
  refine Prog.ends_bind (Q := fun _ => At k j Ψ (some pi)) ?_ fun _ => ?_
  · refine restatus_ends env (fun _ => rfl) (fun _ => hleave) ?_
    rintro hj b p c ⟨hΦ, hv⟩
    have hp : p.phase = pi.phase := Option.some.inj (hv hj)
    refine h hj b p.phase c hΦ ?_
    rw [hp]
    exact not_not.1 hsuspended
  · refine Prog.ends_bind (Q := fun _ => At k j Ψ (some pi)) ?_ fun _ => record_ends (fun _ _ _ h => h) env _ _ _ _ _
    exact calm_ends env (F := pi.focus) (.quiet (by decide))
      (syncOpenWorkItemPotentialOwners_touches _ _ _ (List.Subset.refl _)) fun _ _ _ h => h

theorem error_ends (h : Fails i j Φ Ψ) (hstays : ∀ b v c, Φ b v c → Ψ b v c) (userId : Option Nat) (at_ : Option Time) :
    Leads k j Φ hand (errorProcessInstance env tenantId i userId at_) Ψ := by
  have hrest : Leads k j Φ hand (do
      let pi ← loadProcessInstance (Ω := Ω) tenantId i
      if pi.status = .error then pure ()
      else if pi.status = .complete then
        Prog.raise (.invalidState "Cannot mark a completed process instance as errored")
      else if pi.status = .terminated then
        Prog.raise (.invalidState "Cannot mark a terminated process instance as errored")
      else do
        let occurredAt ← resolveTimestamp env at_
        updateInstance i ({ · with status := .error, endedAt := some occurredAt, updatedAt := some occurredAt })
        write (·.closeRuntimeState i occurredAt userId)
        recordProcessInstanceEvent tenantId i .processInstanceError occurredAt none userId) Ψ := by
    refine Prog.ends_bind_of (load_ends i hstays) ?_
    rintro pi ⟨rfl, -⟩
    exact errored_ends h userId at_
  cases userId with
  | none => exact hrest
  | some userId =>
    exact Prog.ends_bind (readOnly_ends (ensureUserBelongsToTenant_readOnly _ _) hstays) fun _ => hrest

theorem terminate_ends (hstays : ∀ b v c, Φ b v c → Ψ b v c)
    (h : i = j → ∀ b p c t, Φ b (some p) c → p.Running → Ψ b (some ⟨.terminated, some t⟩) c) (userId : Nat)
    (at_ : Option Time) : Leads k j Φ hand (terminateProcessInstance env tenantId i userId at_) Ψ := by
  refine Prog.ends_bind_of (open_ends i userId _ hstays) ?_
  rintro pi ⟨rfl, -⟩
  have hleave : ∀ b v c, (Φ b v c ∧ (pi.id = j → v = some pi.phase)) → Ψ b v c := fun b v c hΦ => hstays b v c hΦ.1
  split
  · exact Prog.ends_pure _ fun s hs => hs.weaken hleave
  rename_i hterminated
  split
  · exact Prog.ends_raise _ fun s hs => hs.weaken hleave
  rename_i hended
  refine Prog.ends_bind (resolveTimestamp_ends env _) fun occurredAt => ?_
  refine Prog.ends_bind (Q := fun _ => At k j Ψ (some pi)) ?_ fun _ => Prog.ends_bind (close_ends env _ _ _) fun _ =>
    record_ends (fun _ _ _ h => h) env _ _ _ _ _
  refine restatus_ends env (fun _ => rfl) (fun _ => hleave) ?_
  rintro hj b p c ⟨hΦ, hv⟩
  have hp : p.phase = pi.phase := Option.some.inj (hv hj)
  refine h hj b p.phase c occurredAt hΦ ?_
  rw [hp]
  push Not at hended
  simp [Phase.Running, ProcessInstance.phase, ProcessInstanceStatus.isTerminal, hterminated, hended.1, hended.2]

/-- A retry takes the instance out of `error` and goes on in the phases `Λ`. -/
theorem retry_ends (hΛ : Serves true (fun _ => True) i j Λ Λ) (hstays : ∀ b v c, Φ b v c → Ψ b v c)
    (hloose : ∀ b v c, Λ b v c → Ψ b v c) (hother : i ≠ j → ∀ b v c, Φ b v c → Λ b v c)
    (hout : i = j → ∀ b p c, Φ b (some p) c → p.status = .error → Λ b (some ⟨.running, none⟩) c) (userId : Nat)
    (at_ : Option Time) : Leads k j Φ hand (retryProcessInstance env tenantId i userId at_) Ψ := by
  refine Prog.ends_bind_of (open_ends i userId _ hstays) ?_
  rintro pi ⟨rfl, -⟩
  have hleave : ∀ b v c, (Φ b v c ∧ (pi.id = j → v = some pi.phase)) → Ψ b v c := fun b v c hΦ => hstays b v c hΦ.1
  split
  · exact Prog.ends_raise _ fun s hs => hs.weaken hleave
  rename_i herror
  refine Prog.ends_bind (resolveTimestamp_ends env _) fun occurredAt => ?_
  refine Prog.ends_bind (Q := fun _ => At k j Λ (some pi)) ?_ fun _ => ?_
  · refine restatus_ends env (fun _ => rfl) (fun hj b v c hΦ => hother hj b v c hΦ.1) ?_
    rintro hj b p c ⟨hΦ, hv⟩
    have hp : p.phase = pi.phase := Option.some.inj (hv hj)
    refine hout hj b p.phase c hΦ ?_
    rw [hp]
    exact not_not.1 herror
  have hreload : ∀ {hand : Option ProcessInstance}, Prog.Ends (At k j Λ hand)
      (retryErroredServiceTaskWorkflowIfNeeded env tenantId pi.id (some occurredAt)) (fun _ => At k j Λ none)
        fun _ => At k j Ψ none := (retryErrored_ends hΛ _).weaken (fun _ h => h) (fun _ _ h => h) fun _ _ h => h.weaken hloose
  refine Prog.ends_bind (query_ends _) fun loaded => ?_
  refine Prog.ends_bind (Q := fun _ => At k j Λ (some pi)) ?_ fun _ => Prog.ends_bind hreload fun _ => ?_
  · exact calm_ends env (F := pi.focus) (.quiet (by decide)) (reopenRuntimeState_touches _ (List.Subset.refl _)) hloose
  refine Prog.ends_bind (deleteJob_ends _ _) fun _ => ?_
  refine Prog.ends_bind (Q := fun _ => At k j Λ none) ?_ fun _ => Prog.ends_bind hreload fun _ => ?_
  · exact (record_ends (Ψ := Λ) (fun _ _ _ h => h) env _ _ _ _ _).weaken (fun _ h => h) (fun _ _ h => h) fun _ _ h => h.weaken hloose
  · refine (calm_ends env (F := pi.focus) (.quiet (by decide))
      (syncOpenWorkItemPotentialOwners_touches _ _ _ (List.Subset.refl _)) hloose).weaken (fun _ h => h) ?_ fun _ _ h => h
    exact fun _ _ h => h.weaken hloose

/-! ## New instances -/

/-- The phase of an instance that is not started. -/
def Phase.born : Phase := ⟨.notStarted, none⟩

/-- A session writes rows of new instances, or of runtime state of those it has. -/
structure Beyond (s s' : Tx Ω) : Prop where
  base : s'.base = s.base
  committed : s'.committed = s.committed
  seq : s.seq ≤ s'.seq
  ranked : Ranked s.seq s.view → Ranked s'.seq s'.view
  retains : Retains s.view s'.view
  identities : ∀ q ∈ s'.view.processInstances, s.seq ≤ q.id ∨ ∃ p ∈ s.view.processInstances, p.identity = q.identity
  jobs : s'.view.schedulerJobs = s.view.schedulerJobs

theorem Beyond.refl (s : Tx Ω) : Beyond s s :=
  ⟨rfl, rfl, le_refl _, id, .refl _, fun q hq => .inr ⟨q, hq, rfl⟩, rfl⟩

theorem Beyond.trans {s'' : Tx Ω} (h : Beyond s s') (h' : Beyond s' s'') : Beyond s s'' := by
  refine ⟨h'.base.trans h.base, h'.committed.trans h.committed, h.seq.trans h'.seq, fun hs => h'.ranked (h.ranked hs),
    h.retains.trans h'.retains, fun q hq => ?_, h'.jobs.trans h.jobs⟩
  rcases h'.identities q hq with hle | ⟨p, hp, hsame⟩
  · exact .inl (h.seq.trans hle)
  · rcases h.identities p hp with hle | ⟨p₀, hp₀, hsame₀⟩
    · have hid : p.id = q.id := congrArg InstanceIdentity.id hsame
      exact .inl (hid ▸ hle)
    · exact .inr ⟨p₀, hp₀, hsame₀.trans hsame⟩

theorem Change.beyond {F : Focus} {l : Touch} (hl : l ≠ .job ∧ l ≠ .startJob ∧ l ≠ .lock) (hc : Change env F l s s') :
    Beyond s s' := by
  obtain ⟨hbase, hcommitted⟩ := hc.committed
  exact ⟨hbase, hcommitted, seq_of_steps (.one (List.mem_singleton.2 rfl) hc), hc.ranked, hc.grows.retains, hc.identities,
    hc.schedulerJobs hl.1 hl.2.1 hl.2.2⟩

theorem beyond_of_steps {F : Focus} {L : List Touch} (hL : Quiet L) (h : Steps (Change env F) L s s') : Beyond s s' := by
  refine Steps.keeps (R := Beyond) ⟨Beyond.refl, Beyond.trans⟩ (fun l hl s₁ s₂ hc => hc.beyond ⟨?_, ?_, ?_⟩) h
  · rintro rfl
    exact hL.1 hl
  · rintro rfl
    exact hL.2.1 hl
  · rintro rfl
    exact hL.2.2 hl

/-- A new instance with a new id. -/
theorem Beyond.insert {seq' : Nat} {view : Db} {row : ProcessInstance}
    (hrows : view.processInstances = s.view.processInstances ++ [row])
    (hprocesses : ∀ r ∈ s.view.bpmnProcesses, r ∈ view.bpmnProcesses) (hjobs : view.schedulerJobs = s.view.schedulerJobs)
    (hid : s.seq ≤ row.id) (hlt : row.id < seq') : Beyond s { s with seq := seq', view := view } where
  base := rfl
  committed := rfl
  seq := hid.trans hlt.le
  ranked h := by
    refine ⟨?_, fun p hp => ?_⟩
    · change (view.processInstances.map (·.id)).Nodup
      rw [hrows, List.map_append]
      refine List.Nodup.append h.nodup (List.nodup_singleton _) (List.disjoint_singleton.2 fun hin => ?_)
      obtain ⟨q, hq, hsame⟩ := List.mem_map.1 hin
      have hlt := h.lt q hq
      dsimp only at hsame
      omega
    · change p ∈ view.processInstances at hp
      rw [hrows] at hp
      rcases List.mem_append.1 hp with hp | hp
      · exact (h.lt p hp).trans_le (hid.trans hlt.le)
      · exact List.mem_singleton.1 hp ▸ hlt
  retains := by
    refine ⟨fun p hp => ⟨p, ?_, rfl⟩, fun r hr => ⟨r, hprocesses r hr, rfl⟩⟩
    change p ∈ view.processInstances
    rw [hrows]
    exact List.mem_append_left _ hp
  identities q hq := by
    change q ∈ view.processInstances at hq
    rw [hrows] at hq
    rcases List.mem_append.1 hq with hq | hq
    · exact .inr ⟨q, hq, rfl⟩
    · exact .inl (List.mem_singleton.1 hq ▸ hid)
  jobs := hjobs

theorem Orderly.beyond (h : Orderly s) (h' : Beyond s s') : Orderly s' := by
  refine ⟨⟨h'.ranked h.view, ?_, ?_, ?_, fun p hp q hq hid => ?_, ?_, ?_, ?_⟩, fun r hr => ?_⟩
  · rw [h'.committed]
    exact h.committed.mono h'.seq
  · rw [h'.base]
    exact h.viewed.trans h'.retains
  · rw [h'.base, h'.committed]
    exact h.standing
  · rw [h'.committed] at hq
    rcases h'.identities p hp with hle | ⟨p₀, hp₀, hsame⟩
    · have := h.committed.lt q hq
      omega
    · have hid₀ : p₀.id = p.id := congrArg InstanceIdentity.id hsame
      rw [← hsame]
      exact h.agree p₀ hp₀ q hq (hid₀.trans hid)
  · rw [h'.jobs]
    exact h.homed.mono h'.seq
  · rw [h'.committed]
    exact h.filed.mono h'.seq
  · unfold Tx.JobsCurrent
    rw [h'.base, h'.committed]
    exact h.current
  · rw [h'.committed] at hr
    obtain ⟨r₁, hr₁, hid₁⟩ := h.seen r hr
    obtain ⟨r₂, hr₂, hid₂⟩ := h'.retains.processes r₁ hr₁
    exact ⟨r₂, hr₂, hid₂.trans hid₁⟩

theorem Beyond.beside (h : Beyond s.fork s') (hs : Orderly s) : Beside s s' :=
  ⟨h.seq, h.ranked hs.committed, h.retains, h.identities, h.jobs⟩

theorem At.beyond (hs : At k j Φ hand s) (h : Beyond s s')
    (hΨ : Ψ (s.base.phase? j) (s'.view.phase? j) (s.committed.phase? j)) : At k j Ψ hand s' where
  orderly := hs.orderly.beyond h
  phases := by
    rw [h.base, h.committed]
    exact hΨ
  there x hx := there_of hs.orderly.view h.retains h.identities (hs.there x hx)
  here pi hpi := there_of hs.orderly.view h.retains h.identities (hs.here pi hpi)

/-- An id that is not handed out has no phase. -/
theorem At.unborn (hs : At k j Φ hand s) (hj : s.seq ≤ j) :
    s.base.phase? j = none ∧ s.view.phase? j = none ∧ s.committed.phase? j = none := by
  have hfree : ∀ db : Db, (∀ p ∈ db.processInstances, p.id < s.seq) → db.phase? j = none := by
    intro db hdb
    unfold Db.phase? Db.processInstance?
    rw [Option.map_eq_none_iff, List.find?_eq_none]
    intro p hp hid
    have := hdb p hp
    simp only [beq_iff_eq] at hid
    omega
  refine ⟨hfree _ fun p hp => ?_, hfree _ hs.orderly.view.lt, hfree _ hs.orderly.committed.lt⟩
  obtain ⟨q, hq, hid⟩ := hs.orderly.viewed.instances p hp
  exact hid ▸ hs.orderly.view.lt q hq

/-- A session prepares an instance, or raises having prepared none. -/
structure Prepares (s : Tx Ω) (r : Except Error (Nat × String)) (s' : Tx Ω) : Prop where
  beyond : Beyond s s'
  fresh : ∀ result, r = .ok result → s.seq ≤ result.1
  others : ∀ j, (∀ result, r = .ok result → result.1 ≠ j) → s'.view.phase? j = s.view.phase? j
  born : ∀ result, r = .ok result → Ranked s.seq s.view → s'.view.phase? result.1 = some .born

theorem phase?_append {db : Db} {rows : List ProcessInstance} {row : ProcessInstance}
    (hrows : db.processInstances = rows ++ [row]) (j : Nat) :
    db.phase? j = ((rows.find? (·.id == j)).map (·.phase)).or (if row.id = j then some row.phase else none) := by
  unfold Db.phase? Db.processInstance?
  rw [hrows, List.find?_append]
  cases rows.find? (·.id == j) with
  | some p => rfl
  | none =>
    by_cases hid : row.id = j <;> simp [hid]

theorem prepareProcessInstanceInSession_prepares {definition : BpmnProcessDefinition} {modelIdentifier : String}
    {args : StartArgs} {r : Except Error (Nat × String)}
    (h : (prepareProcessInstanceInSession env tenantId definition modelIdentifier args).run s = (r, s')) :
    Prepares s r s' := by
  have hraised : ∀ {e : Error} {s' : Tx Ω}, Beyond s s' → s'.view.processInstances = s.view.processInstances →
      Prepares s (.error e) s' := by
    intro e s' hbeyond hsame
    refine ⟨hbeyond, by simp, fun j _ => ?_, by simp⟩
    unfold Db.phase? Db.processInstance?
    rw [hsame]
  by_cases hselectable : Selectable env definition args.bpmnProcessId
  swap
  · obtain ⟨rfl, e, rfl⟩ := prepareProcessInstanceInSession_unselectable hselectable h
    exact hraised (.refl _) rfl
  obtain ⟨bpmnXml, selected, data, hxml, hselected, hdata⟩ := hselectable
  have hjson : (s.view.putJsonData tenantId (env.payloadDigest data) data).schedulerJobs = s.view.schedulerJobs ∧
      (s.view.putJsonData tenantId (env.payloadDigest data) data).processInstances = s.view.processInstances ∧
      (s.view.putJsonData tenantId (env.payloadDigest data) data).bpmnProcesses = s.view.bpmnProcesses := by
    unfold Db.putJsonData
    split <;> exact ⟨rfl, rfl, rfl⟩
  by_cases hmember : s.view.isMember tenantId args.processInitiatorId = true
  · obtain ⟨s₁, hrun, hsteps⟩ := prepareProcessInstanceInSession_run (F := .on tenantId (s.seq + 1)) modelIdentifier hxml hselected
      hdata hmember rfl
    rw [hrun] at h
    obtain ⟨rfl, rfl⟩ := Prod.mk.inj h
    have hnew : Beyond s (preparedTx env tenantId definition modelIdentifier args selected data s) := by
      refine .insert rfl (fun r hr => List.mem_append_left _ hr) hjson.1 (Nat.le_succ _) ?_
      exact Nat.lt_succ_self _
    have hphase : ∀ j, s₁.view.phase? j =
        (preparedTx env tenantId definition modelIdentifier args selected data s).view.phase? j := by
      refine fun j => Steps.keeps (R := fun s s' : Tx Ω => s'.view.phase? j = s.view.phase? j)
        ⟨fun _ => rfl, fun h₁ h₂ => h₂.trans h₁⟩ (fun l hl s₁ s₂ hc => hc.phase ?_ ?_) hsteps
      · rintro rfl
        simp at hl
      · rintro rfl
        simp at hl
    have hrow : ((args.newInstance definition modelIdentifier s.seq).row tenantId (s.seq + 1)
        (args.startedAt.getD (env.now s.world))).id = s.seq + 1 := rfl
    refine ⟨hnew.trans (beyond_of_steps (by decide) hsteps), ?_, fun j hj => ?_, ?_⟩
    · rintro result hresult
      obtain rfl := Except.ok.inj hresult
      exact Nat.le_succ _
    · have hne : s.seq + 1 ≠ j := hj _ rfl
      rw [hphase, phase?_append rfl, hrow, if_neg hne, Option.or_none]
      rfl
    · rintro result hresult hranked
      obtain rfl := Except.ok.inj hresult
      have hnone : s.view.processInstances.find? (·.id == s.seq + 1) = none := by
        rw [List.find?_eq_none]
        intro p hp hid
        have := hranked.lt p hp
        simp only [beq_iff_eq] at hid
        omega
      dsimp only
      rw [hphase, phase?_append rfl, hnone, hrow, if_pos rfl]
      rfl
  · -- The initiator is looked up once more when the process is there.
    unfold prepareProcessInstanceInSession at h
    rw [hxml] at h
    simp only [Prog.orRaise_some, Prog.pure_bind, hselected, ofExcept] at h
    rw [Prog.bind_run_ok (resolveOrCreateBpmnProcess_run env hdata)] at h
    unfold createProcessInstance at h
    rw [Prog.bind_assoc] at h
    rcases (ensureUserBelongsToTenant_readOnly _ _).bind_cases h with ⟨e, -, rfl, rfl⟩ | ⟨user, huser, -⟩
    · refine hraised ?_ hjson.2.1
      refine ⟨rfl, rfl, Nat.le_succ _, fun hs => ?_, ?_, ?_, hjson.1⟩
      · exact (hs.mono (Nat.le_succ _)).same (congrArg (List.map _) hjson.2.1)
      · refine ⟨fun p hp => ⟨p, hjson.2.1.symm ▸ hp, rfl⟩, fun r hr => ⟨r, List.mem_append_left _ hr, rfl⟩⟩
      · exact fun q hq => .inr ⟨q, hjson.2.1 ▸ hq, rfl⟩
    · exact absurd (ensureUserBelongsToTenant_ok.1 huser).2.1 hmember

theorem At.prepared {r : Except Error (Nat × String)} (hs : At k j Φ hand s) (h : Prepares s r s')
    (hstays : ∀ b v c, Φ b v c → Ψ b v c) (hborn : s.seq ≤ j → Φ none none none → Ψ none (some .born) none) :
    At k j Ψ hand s' := by
  refine hs.beyond h.beyond ?_
  by_cases hj : ∃ result, r = .ok result ∧ result.1 = j
  · obtain ⟨result, hr, rfl⟩ := hj
    have hfresh := h.fresh result hr
    obtain ⟨hbase, hview, hcommitted⟩ := hs.unborn hfresh
    have hΦ := hs.phases
    rw [hbase, hview, hcommitted] at hΦ
    rw [hbase, hcommitted, h.born result hr hs.orderly.view]
    exact hborn hfresh hΦ
  · push Not at hj
    rw [h.others j hj]
    exact hstays _ _ _ hs.phases

/-- The session sees what was committed beside it. -/
theorem At.refreshed {s₁ : Tx Ω} (hs : At k j Φ hand s) (h : Beside s s₁)
    (hΨ : Ψ (s₁.view.phase? j) (mergePhase (s.base.phase? j) (s.view.phase? j) (s₁.view.phase? j)) (s₁.view.phase? j)) :
    At k j Ψ none { s₁ with base := s₁.view, view := Db.merge s.base s.view s₁.view, committed := s₁.view } := by
  have hfitting := hs.orderly.toFitting.beside h
  refine ⟨hfitting.refresh, ?_, fun x hx => ?_, by simp⟩
  · have hmerge := hfitting.phase?_merge j
    dsimp only at hmerge ⊢
    rw [hmerge]
    exact hΨ
  · obtain ⟨p, hp, hsame⟩ := hs.there x hx
    have hkey : ∃ p' ∈ (Db.merge s.base s.view s₁.view).processInstances, p'.id = p.id := by
      refine mergeTable_keys ?_ hfitting.viewed.instances hfitting.standing.instances (.inl ⟨p, hp, rfl⟩)
      exact fun _ _ _ _ => rfl
    obtain ⟨p', hp', hid'⟩ := hkey
    refine ⟨p', hp', ?_⟩
    rcases hfitting.merged hp' with ⟨q, hq, hq'⟩ | ⟨q, hq, hq'⟩
    · have hqp : q = p := hs.orderly.view.unique hq hp ((congrArg InstanceIdentity.id hq').trans hid')
      rw [← hq', hqp, hsame]
    · have hqid : q.id = p'.id := congrArg InstanceIdentity.id hq'
      have hpq : p.identity = q.identity := hfitting.agree p hp q hq (hid'.symm.trans hqid.symm)
      rw [← hq', ← hpq, hsame]

/-- What a start asks of phases: they are refreshed, and it creates instances
from `n` on. -/
structure Begins (n j : Nat) (Φ : Phases) : Prop where
  refreshed : ∀ b v c, Φ b v c → Φ c (mergePhase b v c) c
  committed : n ≤ j → Φ none none none → Φ (some .born) (some .born) (some .born)
  inside : n ≤ j → Φ none none none → Φ none (some .born) none

theorem prepareBaseline_ends {n : Nat} (h : Begins n j Φ) (definition : BpmnProcessDefinition) (modelIdentifier : String)
    (args : StartArgs) :
    Prog.Ends (fun s => n ≤ s.seq ∧ At k j Φ hand s) (prepareProcessInstanceBaseline env tenantId definition modelIdentifier args)
      (fun baseline s => (∀ result, baseline = some result → n ≤ result.1) ∧ n ≤ s.seq ∧ At k j Φ none s)
      fun _ => At k j Φ none := by
  rintro s ⟨hn, hs⟩
  have hseq := ((prepareCommittedProcessInstance_inside env tenantId definition.id modelIdentifier args) s.fork).seq
  rcases hrun : (prepareCommittedProcessInstance env tenantId definition.id modelIdentifier args).run s.fork with ⟨e | a, s₁⟩ <;>
    rw [hrun] at hseq
  · unfold prepareProcessInstanceBaseline
    rw [Prog.bind_run_ok (independently_error hrun)]
    refine Prog.ends_raise (P := At k j Φ none) (E := fun _ => At k j Φ none) e (fun _ hs => hs) _ ?_
    exact ⟨hs.orderly.mono hseq _, hs.phases, hs.there, by simp⟩
  · unfold prepareProcessInstanceBaseline
    rw [Prog.bind_run_ok (independently_ok hrun)]
    refine ⟨fun baseline s' hend => ?_, fun e s' hend => by cases hend⟩
    cases hend
    rcases prepareCommittedProcessInstance_ok hrun with ⟨rfl, rfl⟩ | ⟨committed, result, rfl, -, hprepare⟩
    · refine ⟨by simp, hn, ?_⟩
      have hbeside : Beside s s.fork := (Beyond.refl _).beside hs.orderly
      exact hs.refreshed hbeside (h.refreshed _ _ _ hs.phases)
    · have hprepares := prepareProcessInstanceInSession_prepares hprepare
      have hfresh : s.seq ≤ result.1 := hprepares.fresh result rfl
      refine ⟨?_, hn.trans hseq, ?_⟩
      · rintro _ hresult
        exact Option.some.inj hresult ▸ hn.trans hfresh
      refine hs.refreshed (hprepares.beyond.beside hs.orderly) ?_
      by_cases hj : result.1 = j
      · subst hj
        obtain ⟨hbase, hview, hcommitted⟩ := hs.unborn hfresh
        have hΦ := hs.phases
        rw [hbase, hview, hcommitted] at hΦ
        rw [hbase, hview, hprepares.born result rfl hs.orderly.committed]
        exact h.committed (hn.trans hfresh) hΦ
      · have hsame : s₁.view.phase? j = s.committed.phase? j :=
          hprepares.others j fun result' hresult => Except.ok.inj hresult ▸ hj
        rw [hsame]
        exact h.refreshed _ _ _ hs.phases

theorem prepare_ends {n : Nat} (h : Begins n j Φ) (definition : BpmnProcessDefinition) (modelIdentifier : String)
    (args : StartArgs) :
    Prog.Ends (fun s => n ≤ s.seq ∧ At k j Φ hand s) (prepareProcessInstance env tenantId definition modelIdentifier args)
      (fun x s => (n ≤ x.1.id ∧ x.1.m8fTenantId = tenantId) ∧
        At k j (fun b v c => Φ b v c ∧ (x.1.id = j → v = some x.1.phase)) (some x.1) s) fun _ => At k j Φ none := by
  have hload : ∀ x : Nat × String, n ≤ x.1 → Prog.Ends (At k j Φ none) (do
      let pi ← loadProcessInstance (Ω := Ω) tenantId x.1
      pure (pi, x.2)) (fun x s => (n ≤ x.1.id ∧ x.1.m8fTenantId = tenantId) ∧
        At k j (fun b v c => Φ b v c ∧ (x.1.id = j → v = some x.1.phase)) (some x.1) s) fun _ => At k j Φ none := by
    intro x hx
    refine Prog.ends_bind_of (load_ends x.1 fun _ _ _ h => h) ?_
    rintro pi ⟨hid, htenant⟩
    refine Prog.ends_pure _ fun s hs => ⟨⟨hid ▸ hx, htenant⟩, ?_⟩
    rw [← hid] at hs
    exact hs
  refine Prog.ends_bind_of (prepareBaseline_ends h _ _ _) fun baseline hbaseline => ?_
  cases baseline with
  | some result => exact (hload result (hbaseline result rfl)).weaken (fun _ h => h.2) (fun _ _ h => h) fun _ _ h => h
  | none =>
    refine Prog.ends_bind_of (A := fun x : Nat × String => n ≤ x.1) (Q := fun _ => At k j Φ none) ?_ fun x hx => hload x hx
    rintro s ⟨hn, hs⟩
    have hend : ∀ {r s'}, (prepareProcessInstanceInSession env tenantId definition modelIdentifier args).run s = (r, s') →
        Prepares s r s' ∧ At k j Φ none s' := fun hrun =>
      ⟨prepareProcessInstanceInSession_prepares hrun, hs.prepared (prepareProcessInstanceInSession_prepares hrun) (fun _ _ _ h => h)
        fun hj => h.inside (hn.trans hj)⟩
    exact ⟨fun result s' hrun => ⟨hn.trans ((hend hrun).1.fresh result rfl), (hend hrun).2⟩, fun e s' hrun => (hend hrun).2⟩

theorem Serves.guard {G' : Phase → Prop} (h : Serves autonomous G i j Φ Ψ) (hG : ∀ p, G' p → G p) :
    Serves autonomous G' i j Φ Ψ where
  stays := h.stays
  saved hj b p c q hΦ hp := h.saved hj b p c q hΦ (hG p hp)
  beside hauto hj b p q t hΦ hp := h.beside hauto hj b p q t hΦ (hG p hp)
  inside hj b p c t hΦ hp := h.inside hj b p c t hΦ (hG p hp)

theorem initializeFromDefinition_ends {n : Nat} (hbegins : Begins n j Φ)
    (h : ∀ i, n ≤ i → Serves true (fun _ => True) i j Φ Ψ) (hstays : ∀ b v c, Φ b v c → Ψ b v c) (definitionId : Nat)
    (args : StartArgs) (resolver : Bool) :
    Prog.Ends (fun s => n ≤ s.seq ∧ At k j Φ hand s)
      (initializeProcessInstanceFromDefinition env tenantId definitionId args resolver) (fun _ => At k j Ψ none)
      fun _ => At k j Ψ none := by
  have hleave : ∀ s : Tx Ω, n ≤ s.seq ∧ At k j Φ hand s → At k j Ψ none s := fun s hs => hs.2.weaken hstays
  refine Prog.ends_bind ((ensureUserBelongsToTenant_readOnly _ _).ends fun _ => hleave) fun _ => ?_
  refine Prog.ends_bind ((loadProcessDefinition_readOnly _ _).ends fun _ => hleave) fun definition => ?_
  refine Prog.ends_bind ((requireCommandAuthorization_readOnly _ _ _ _ _ _ _).ends fun _ => hleave) fun _ => ?_
  refine Prog.ends_bind_of ((prepare_ends hbegins _ _ _).weaken (fun _ h => h) (fun _ _ h => h) fun _ _ h => h.weaken hstays) ?_
  rintro ⟨pi, selected⟩ ⟨hid, htenant⟩
  refine Prog.Ends.weaken (P := At k j Φ (some pi)) ?_ (fun s hs => hs.imp fun _ _ _ h => h.1) (fun _ _ h => h) fun _ _ h => h
  exact initializeWorkflow_ends ((h pi.id hid).guard fun _ _ => trivial) _ _

theorem timerStart_ends {n : Nat} (hbegins : Begins n j Φ) (h : ∀ i, n ≤ i → Serves true (fun _ => True) i j Φ Ψ)
    (hstays : ∀ b v c, Φ b v c → Ψ b v c) (definitionId userId : Nat) (specName : String) (startedAt : Option Time) :
    Prog.Ends (fun s => n ≤ s.seq ∧ At k j Φ hand s)
      (initializeProcessInstanceFromTimerStart env tenantId definitionId userId specName startedAt) (fun _ => At k j Ψ none)
      fun _ => At k j Ψ none := by
  have hleave : ∀ s : Tx Ω, n ≤ s.seq ∧ At k j Φ hand s → At k j Ψ none s := fun s hs => hs.2.weaken hstays
  refine Prog.ends_bind ((ensureUserBelongsToTenant_readOnly _ _).ends fun _ => hleave) fun _ => ?_
  refine Prog.ends_bind ((loadProcessDefinition_readOnly _ _).ends fun _ => hleave) fun definition => ?_
  refine Prog.ends_bind_of ((prepare_ends hbegins _ _ _).weaken (fun _ h => h) (fun _ _ h => h) fun _ _ h => h.weaken hstays) ?_
  rintro ⟨pi, selected⟩ ⟨hid, htenant⟩
  have hpi := h pi.id hid
  have hleave : ∀ b v c, (Φ b v c ∧ (pi.id = j → v = some pi.phase)) → Ψ b v c := fun b v c hΦ => hstays b v c hΦ.1
  refine Prog.ends_bind (resolveTimestamp_ends env _) fun occurredAt => ?_
  refine Prog.ends_bind (build_ends env hleave _ _) fun w => ?_
  refine Prog.ends_bind (runWorkflow_ends (hpi.runs rfl trivial) htenant _) fun w => ?_
  refine Prog.ends_bind (readOnly_ends (ofExcept_readOnly _) hleave) fun forced => ?_
  have hfinish : ∀ w, Leads k j _ (some pi) (finalizeInitializedWorkflow env tenantId pi w occurredAt) Ψ := fun w =>
    finalize_ends (hpi.saves rfl trivial) _
  cases forced with
  | none => exact hfinish _
  | some w' =>
    refine Prog.ends_bind (ask_ends _) fun refreshed => ?_
    refine Prog.ends_bind (readOnly_ends (orRaised_readOnly _) hleave) fun w => ?_
    split
    · exact Prog.ends_bind (runWorkflow_ends (hpi.runs rfl trivial) htenant _) hfinish
    · exact hfinish _

/-! ## Scheduler jobs -/

variable {job : SchedulerJob}

/-- The instance at hand has the tenant of the one that is there under its id. -/
theorem At.tenant (hs : At k j Φ (some pi) s) {x : InstanceIdentity} (hk : k = some x) (hid : x.id = pi.id) :
    x.tenantId = pi.m8fTenantId := by
  obtain ⟨p, hp, rfl⟩ := hs.there x hk
  obtain ⟨q, hq, hsame⟩ := hs.here pi rfl
  have hqid : q.id = pi.id := congrArg InstanceIdentity.id hsame
  obtain rfl := hs.orderly.view.unique hp hq (hid.trans hqid.symm)
  exact congrArg InstanceIdentity.tenantId hsame

theorem At.lock (env : Env W Ω) (hs : At k j Φ hand s) (p : SchedulerJob → Bool) (f : SchedulerJob → SchedulerJob)
    (hf : ∀ job, (f job).unlocked = job.unlocked) :
    At k j Φ hand { s with view := { s.view with schedulerJobs := updateWhere p f s.view.schedulerJobs } } := by
  have hc : Change env (.on "" 0) .lock s
      { s with view := { s.view with schedulerJobs := updateWhere p f s.view.schedulerJobs } } := .lock s p f hf
  exact hs.jobs (hc.homed (by simp) hs.orderly.homed)

theorem timerJob_ends (hstays : ∀ b v c, Φ b v c → Ψ b v c)
    (h : ∀ i, job.processInstanceId = some i → (∀ x, k = some x → x.id = i → x.tenantId = job.m8fTenantId) →
      Serves true Phase.Running i j Φ Ψ) (occurredAt : Time) :
    Leads k j Φ hand (executeIntermediateTimerJob env job occurredAt) Ψ := by
  have hdelete : ∀ {hand : Option ProcessInstance} {Φ' : Phases}, (∀ b v c, Φ' b v c → Ψ b v c) →
      Leads k j Φ' hand (deleteSchedulerJob (Ω := Ω) job.m8fTenantId job.jobKey) Ψ := fun hΨ =>
    (deleteJob_ends _ _).weaken (fun _ h => h) (fun _ _ h => h.weaken hΨ) fun _ _ h => h
  unfold executeIntermediateTimerJob
  split
  · exact hdelete hstays
  rename_i i hi
  refine Prog.ends_bind_of (load_ends i hstays) ?_
  rintro pi ⟨hid, htenant⟩
  have hleave : ∀ b v c, (Φ b v c ∧ (i = j → v = some pi.phase)) → Ψ b v c := fun b v c hΦ => hstays b v c hΦ.1
  split
  · refine Prog.ends_bind (query_ends _) fun state => ?_
    split
    · exact hdelete hleave
    · intro s hs
      have hserves := h i hi fun x hk hx => (hs.tenant hk (hx.trans hid.symm)).trans htenant
      exact refreshWaiting_ends hserves _ s (hs.imp fun _ _ _ h => h.1)
  · exact hdelete hleave

theorem retryJob_ends (hstays : ∀ b v c, Φ b v c → Ψ b v c)
    (h : ∀ i, job.processInstanceId = some i → ∃ Λ : Phases, Serves true (fun _ => True) i j Λ Λ ∧
      (∀ b v c, Λ b v c → Ψ b v c) ∧ (i ≠ j → ∀ b v c, Φ b v c → Λ b v c) ∧
      (i = j → ∀ b p c, Φ b (some p) c → p.status = .error → Λ b (some ⟨.running, none⟩) c)) (occurredAt : Time) :
    Leads k j Φ hand (executeProcessRetryJob env job occurredAt) Ψ := by
  have hdelete : ∀ {hand : Option ProcessInstance} {Φ' : Phases}, (∀ b v c, Φ' b v c → Ψ b v c) →
      Leads k j Φ' hand (deleteSchedulerJob (Ω := Ω) job.m8fTenantId job.jobKey) Ψ := fun hΨ =>
    (deleteJob_ends _ _).weaken (fun _ h => h) (fun _ _ h => h.weaken hΨ) fun _ _ h => h
  unfold executeProcessRetryJob
  split
  · exact hdelete hstays
  rename_i i hi
  obtain ⟨Λ, hΛ, hloose, hother, hout⟩ := h i hi
  refine Prog.ends_bind_of (load_ends i hstays) ?_
  rintro pi ⟨hid, htenant⟩
  have hleave : ∀ b v c, (Φ b v c ∧ (i = j → v = some pi.phase)) → Ψ b v c := fun b v c hΦ => hstays b v c hΦ.1
  split
  · refine Prog.ends_bind (readOnly_ends (ofExcept_readOnly _) hleave) fun userId => ?_
    refine Prog.Ends.weaken (P := At k j Φ (some pi)) ?_ (fun s hs => hs.imp fun _ _ _ h => h.1) (fun _ _ h => h) fun _ _ h => h
    exact retry_ends hΛ hstays hloose hother hout _ _
  · exact hdelete hleave

/-- The row of a start job is written anew. -/
theorem upsertStartJob_ends {E : Phases} (tenantId : TenantId) (jobKey : String) {v : JobValues} (htype : v.jobType = .timerStart)
    (occurredAt : Time) (createdAt : Option Time) :
    Prog.Ends (At k j Φ hand) (upsertSchedulerJob (Ω := Ω) tenantId jobKey v occurredAt createdAt) (fun _ => At k j Φ hand)
      fun _ => At k j E none := by
  intro s hs
  unfold upsertSchedulerJob query
  simp only [Prog.gets_bind_run]
  cases s.view.schedulerJob? tenantId jobKey with
  | none =>
    refine ⟨fun _ s' hrun => ?_, fun _ _ hrun => by cases hrun⟩
    cases hrun
    have hs₁ : At k j Φ hand { s with seq := s.seq + 1 } :=
      ⟨hs.orderly.mono (Nat.le_succ _) _, hs.phases, hs.there, hs.here⟩
    refine hs₁.jobs fun job hjob hstart => ?_
    rcases List.mem_append.1 hjob with hold | hnew
    · exact hs₁.orderly.homed job hold hstart
    · rw [List.mem_singleton.1 hnew] at hstart
      exact absurd htype hstart
  | some old =>
    refine ⟨fun _ s' hrun => ?_, fun _ _ hrun => by cases hrun⟩
    cases hrun
    refine hs.jobs fun job hjob hstart => ?_
    obtain ⟨job₀, hjob₀, rfl⟩ := mem_updateWhere.1 hjob
    split at hstart
    · exact absurd htype hstart
    · rename_i hne
      rw [if_neg hne]
      exact hs.orderly.homed job₀ hjob₀ hstart

theorem startJob_ends {n : Nat} (hbegins : Begins n j Φ) (h : ∀ i, n ≤ i → Serves true (fun _ => True) i j Φ Ψ)
    (hstays : ∀ b v c, Φ b v c → Ψ b v c) (occurredAt : Time) :
    Prog.Ends (fun s => n ≤ s.seq ∧ At k j Φ hand s) (executeTimerStartJob env job occurredAt) (fun _ => At k j Ψ none)
      fun _ => At k j Ψ none := by
  have hdelete : ∀ {P : Tx Ω → Prop}, (∀ s, P s → At k j Ψ none s) →
      Prog.Ends P (deleteSchedulerJob (Ω := Ω) job.m8fTenantId job.jobKey) (fun _ => At k j Ψ none) fun _ => At k j Ψ none :=
    fun hP => (deleteJob_ends _ _).weaken hP (fun _ _ h => h) fun _ _ h => h
  have hleave : ∀ s : Tx Ω, n ≤ s.seq ∧ At k j Φ hand s → At k j Ψ none s := fun s hs => hs.2.weaken hstays
  unfold executeTimerStartJob
  split
  · exact hdelete hleave
  refine Prog.ends_bind (Q := fun _ s => n ≤ s.seq ∧ At k j Φ hand s) (Prog.ends_gets _ fun _ hs => hs) fun definition => ?_
  split
  · exact hdelete hleave
  refine Prog.ends_bind ((ofExcept_readOnly _).ends fun _ => hleave) fun timerTask => ?_
  refine Prog.ends_bind (Q := fun _ s => n ≤ s.seq ∧ At k j Φ hand s) ?_ fun systemUser => ?_
  · have htouches : Touches (Change env (.on job.m8fTenantId 0)) [.seq, .shared]
        (ensureTimerStartSystemUser job.m8fTenantId occurredAt) := ensureTimerStartSystemUser_touches _ _ (List.Subset.refl _)
    have hcalm : Calm j hand (.on job.m8fTenantId 0) [.seq, .shared] := .quiet (by decide)
    refine fun s hs => ⟨fun _ s' hrun => ?_, fun _ s' hrun => ?_⟩
    · exact ⟨hs.1.trans (seq_of_steps (htouches.steps hrun)), hs.2.steps hcalm (htouches.steps hrun)⟩
    · exact (hs.2.steps hcalm (htouches.steps hrun)).weaken hstays
  refine Prog.ends_bind ((ofExcept_readOnly _).ends fun _ => hleave) fun specName => ?_
  refine Prog.ends_bind (timerStart_ends hbegins h hstays _ _ _ _) fun _ => ?_
  refine Prog.ends_bind (readOnly_ends (ofExcept_readOnly _) fun _ _ _ h => h) fun next => ?_
  cases next with
  | none => exact hdelete fun _ hs => hs
  | some entry => exact upsertStartJob_ends _ _ rfl _ _

/-! ## Tasks and the other commands -/

/-- Tables that show in no phase. -/
theorem Beyond.apart {view : Db} (hinstances : view.processInstances = s.view.processInstances)
    (hprocesses : view.bpmnProcesses = s.view.bpmnProcesses) (hjobs : view.schedulerJobs = s.view.schedulerJobs) :
    Beyond s { s with view := view } where
  base := rfl
  committed := rfl
  seq := le_refl _
  ranked h := h.same (congrArg (List.map _) hinstances)
  retains := ⟨fun p hp => ⟨p, hinstances.symm ▸ hp, rfl⟩, fun r hr => ⟨r, hprocesses.symm ▸ hr, rfl⟩⟩
  identities q hq := .inr ⟨q, hinstances ▸ hq, rfl⟩
  jobs := hjobs

theorem At.apart (hs : At k j Φ hand s) {view : Db} (hinstances : view.processInstances = s.view.processInstances)
    (hprocesses : view.bpmnProcesses = s.view.bpmnProcesses) (hjobs : view.schedulerJobs = s.view.schedulerJobs) :
    At k j Φ hand { s with view := view } := by
  refine hs.beyond (.apart hinstances hprocesses hjobs) ?_
  have hsame : view.phase? j = s.view.phase? j := by
    unfold Db.phase? Db.processInstance?
    rw [hinstances]
  change Φ _ (view.phase? j) _
  rw [hsame]
  exact hs.phases

theorem claimTask_ends (hΨ : ∀ b v c, Φ b v c → Ψ b v c) (workItemId userId : Nat) :
    Leads k j Φ hand (claimTask env tenantId workItemId userId) Ψ := by
  refine Prog.ends_bind (readOnly_ends (claimTaskChecks_readOnly env _ _ _) hΨ) fun item s hs => ?_
  have hclaim : At k j Φ hand { s with view := s.view.claimUpdate tenantId item.id userId (env.now s.world) } :=
    hs.apart rfl rfl rfl
  rw [claimTaskUpdate_run]
  split
  · refine ⟨fun _ s' h => ?_, fun e s' h => by cases h⟩
    cases h
    have hchange : Change env (.on "" item.processInstanceId) .details
        { s with view := s.view.claimUpdate tenantId item.id userId (env.now s.world) }
        { s with view := s.view.claimWrites tenantId userId item (env.now s.world) } :=
      .details _ ({ · with taskUpdatedAt := some (env.now s.world) }) fun _ => ⟨rfl, rfl⟩
    have hcalm : Calm j hand (.on "" item.processInstanceId) [.details] := .quiet (by decide)
    exact (hclaim.steps hcalm (.one (List.mem_singleton.2 rfl) hchange)).weaken hΨ
  · refine ⟨fun _ s' h => (by cases h), fun e s' h => ?_⟩
    cases h
    exact hclaim.weaken hΨ

theorem completeTask_ends (h : ∀ i, Serves false Phase.Running i j Φ Ψ) (workItemId userId : Nat) (completedAt : Option Time)
    (payload : Dict) : Leads k j Φ hand (completeTask env tenantId workItemId userId completedAt payload) Ψ := by
  have hstays := (h 0).stays
  refine Prog.ends_bind (readOnly_ends (completeTaskChecks_readOnly env _ _ _) hstays) fun item => ?_
  refine Prog.ends_bind (resolveTimestamp_ends env _) fun completedAt => ?_
  refine Prog.ends_bind (Q := fun _ => At k j Φ hand) ?_ fun _ => Prog.ends_bind (Q := fun _ => At k j Φ hand) ?_ fun _ => ?_
  · exact calm_ends env (F := .on tenantId item.processInstanceId) (.quiet (by decide))
      (persistTaskPayload_touches _ _ _ _ (List.Subset.refl _)) hstays
  · exact calm_ends env (F := .on tenantId item.processInstanceId) (.quiet (by decide))
      (completeRows_touches rfl (fun _ _ => trivial) _ _ (List.Subset.refl _)) hstays
  refine Prog.ends_bind (query_ends _) fun state => ?_
  cases state with
  | none => exact Prog.ends_pure _ fun s hs => hs.weaken hstays
  | some state =>
    refine Prog.ends_bind (advance_ends (h _) _ _) fun _ => ?_
    refine Prog.ends_bind (record_ends (Ψ := Ψ) (fun _ _ _ h => h) env _ _ _ _ _) fun _ => Prog.ends_bind (query_ends _) fun status => ?_
    split
    · exact record_ends (fun _ _ _ h => h) env _ _ _ _ _
    · exact Prog.ends_pure _ fun s hs => hs

theorem assignPendingTasks_ends (hΨ : ∀ b v c, Φ b v c → Ψ b v c) (userId : Nat) :
    Leads k j Φ hand (do
      let _ ← assignPendingTasksForUser (Ω := Ω) tenantId userId
      pure ()) Ψ := by
  refine Prog.ends_bind (Q := fun _ => At k j Ψ none) ?_ fun _ => Prog.ends_pure _ fun _ hs => hs
  refine Prog.ends_bind (readOnly_ends (ensureUserBelongsToTenant_readOnly _ _) hΨ) fun _ => ?_
  refine Prog.ends_bind (query_ends _) fun items => ?_
  refine Prog.ends_bind (Q := fun _ => At k j Ψ none) ?_ fun _ => Prog.ends_pure _ fun _ hs => hs
  refine fun s hs => ⟨fun _ s' h => ?_, fun _ _ h => by cases h⟩
  cases h
  refine (?_ : At k j Φ hand _).weaken hΨ
  exact hs.apart rfl rfl rfl

theorem createProcessInstance_ends (hΨ : ∀ b v c, Φ b v c → Ψ b v c)
    (hborn : Φ none none none → Ψ none (some .born) none) (new : NewProcessInstance) :
    Leads k j Φ hand (do
      let _ ← createProcessInstance env tenantId new
      pure ()) Ψ := by
  refine Prog.ends_bind (Q := fun _ => At k j Ψ none) ?_ fun _ => Prog.ends_pure _ fun _ hs => hs
  refine Prog.ends_bind (readOnly_ends (ensureUserBelongsToTenant_readOnly _ _) hΨ) fun _ => ?_
  refine Prog.ends_bind (resolveTimestamp_ends env _) fun occurredAt => ?_
  refine fun s hs => ⟨fun _ s' h => ?_, fun _ _ h => by cases h⟩
  cases h
  have hrow : (new.row tenantId s.seq occurredAt).id = s.seq := rfl
  have hbeyond : Beyond s { s with seq := s.seq + 1, view := { s.view with
      processInstances := s.view.processInstances ++ [new.row tenantId s.seq occurredAt] } } :=
    .insert rfl (fun r hr => hr) rfl (by rw [hrow]) (by rw [hrow]; exact Nat.lt_succ_self _)
  have happend : ({ s.view with processInstances := s.view.processInstances ++ [new.row tenantId s.seq occurredAt] } : Db).phase? j =
      _ := phase?_append rfl j
  refine (hs.beyond hbeyond ?_).drop
  dsimp only
  rw [happend, hrow]
  by_cases hj : s.seq = j
  · subst hj
    obtain ⟨hbase, hview, hcommitted⟩ := hs.unborn (le_refl _)
    have hΦ := hs.phases
    rw [hbase, hview, hcommitted] at hΦ
    have hfound : s.view.processInstances.find? (·.id == s.seq) = none := by
      unfold Db.phase? Db.processInstance? at hview
      simpa using hview
    rw [hbase, hcommitted, hfound, if_pos rfl]
    exact hborn hΦ
  · rw [if_neg hj, Option.or_none]
    exact hΨ _ _ _ hs.phases

theorem recordEventCommand_ends (hΨ : ∀ b v c, Φ b v c → Ψ b v c) (eventType : Option EventType) (taskGuid : Option Guid)
    (userId : Option Nat) (occurredAt : Option Time) :
    Leads k j Φ hand (recordEventCommand env tenantId i eventType taskGuid userId occurredAt) Ψ := by
  refine Prog.ends_bind (resolveTimestamp_ends env _) fun occurredAt => ?_
  cases eventType with
  | some eventType => exact record_ends hΨ env _ _ _ _ _
  | none =>
    have hload : Leads k j Φ hand (do
        let _ ← loadProcessInstance tenantId i
        Prog.raise (.validation "Invalid process instance event type") : M Ω Unit) Ψ :=
      Prog.ends_bind (readOnly_ends (loadProcessInstance_readOnly _ _) hΨ) fun _ => Prog.ends_raise _ fun _ hs => hs.weaken hΨ
    cases userId with
    | none => exact hload
    | some userId => exact Prog.ends_bind (readOnly_ends (ensureUserBelongsToTenant_readOnly _ _) hΨ) fun _ => hload

theorem scheduleRetry_ends (hΨ : ∀ b v c, Φ b v c → Ψ b v c) (userId : Nat) (retryAt : Time) (at_ : Option Time) :
    Leads k j Φ hand (scheduleProcessInstanceRetry env tenantId i userId retryAt at_) Ψ := by
  refine Prog.ends_bind_of (open_ends i userId _ hΨ) ?_
  rintro pi ⟨rfl, -⟩
  have hleave : ∀ b v c, (Φ b v c ∧ (pi.id = j → v = some pi.phase)) → Ψ b v c := fun b v c hΦ => hΨ b v c hΦ.1
  split
  · exact Prog.ends_raise _ fun s hs => hs.weaken hleave
  refine Prog.ends_bind (resolveTimestamp_ends env _) fun occurredAt => ?_
  refine (calm_ends env (L := [.seq, .job]) (F := pi.focus) ⟨by simp, by simp, fun _ => ⟨pi, rfl, rfl⟩⟩ ?_ hleave).weaken
    (fun _ h => h) (fun _ _ h => h.weaken hleave) fun _ _ h => h
  exact upsertSchedulerJob_touches _ _ _ (by simp) rfl rfl (List.Subset.refl _)

end
end M8flowCore
