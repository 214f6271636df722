import M8flowCore.AllowedPhases
/-!
# Operations and allowed phases

However an operation ends, the phases it leaves are allowed: for a command by
cases on it, for a scheduler pass by induction on the jobs it claims. An
instance has one timer job, so a pass wakes its workflow at most once.
-/
open M8flowCore.Lib M8flowCore.Session

namespace M8flowCore

/-- A new instance, committed or in this session only, or none. -/
def Newborn : Phases := fun b v c =>
  b = none ∧ v = none ∧ c = none ∨ b = some .born ∧ v = some .born ∧ c = some .born ∨ b = none ∧ v = some .born ∧ c = none

/-- No instance. -/
def Missing : Phases := fun b v c => b = none ∧ v = none ∧ c = none

section
variable {W Ω : Type} {env : Env W Ω} {C : Cause → Prop} {p₀ : Option Phase} {s : Tx Ω} {k : Option InstanceIdentity} {i j : Nat}
  {Φ Ψ : Phases} {hand : Option ProcessInstance}

/-! ## Starts -/

theorem good_of_new {q : Phase} (hp₀ : p₀ = none) (hsuspended : q.status ≠ .suspended) (hend : q.Ended) : Good C p₀ (some q) := by
  subst hp₀
  refine ⟨⟨by simp [statusOfPhase], by simp [statusOfPhase], by simp [statusOfPhase], fun hq _ => ?_, fun _ => .inl rfl⟩,
    fun _ hq => Option.some.inj hq ▸ hend⟩
  exact absurd (Option.some.inj hq) hsuspended

theorem good_none (hp₀ : p₀ = none) : Good C p₀ none := by
  subst hp₀
  exact ⟨.refl _, by simp⟩

theorem Phase.born_ended : Phase.born.Ended := rfl

theorem Newborn.final (hp₀ : p₀ = none) {b v c : Option Phase} (h : Newborn b v c) : Final C p₀ b v c := by
  have hborn : Good C p₀ (some .born) := good_of_new hp₀ (by simp [Phase.born]) Phase.born_ended
  have hnone : Good C p₀ none := good_none hp₀
  rcases h with ⟨rfl, rfl, rfl⟩ | ⟨rfl, rfl, rfl⟩ | ⟨rfl, rfl, rfl⟩
  · exact .inl ⟨⟨hnone, hnone, hnone⟩, .inl rfl⟩
  · exact .inl ⟨⟨hborn, hborn, hborn⟩, .inl rfl⟩
  · exact .inl ⟨⟨hnone, hborn, hnone⟩, .inl rfl⟩

theorem Newborn.serves (hp₀ : p₀ = none) (i j : Nat) : Serves true (fun _ => True) i j Newborn (Final C p₀) where
  stays _ _ _ h := h.final hp₀
  saved _ b p c q h _ hq := by
    have hgood : Good C p₀ (some q) := good_of_new hp₀ hq.status.1 hq.ended
    have hallowed := (h.final (C := C) hp₀).allowed
    refine .inl ⟨⟨hallowed.base, hgood, hallowed.committed⟩, .inl ?_⟩
    rcases h with ⟨rfl, -, rfl⟩ | ⟨rfl, -, rfl⟩ | ⟨rfl, -, rfl⟩ <;> rfl
  beside _ _ b p q t h _ _ := by
    have hallowed := (h.final (C := C) hp₀).allowed
    refine .inl ⟨⟨hallowed.base, hallowed.view, good_of_new hp₀ (by simp) rfl⟩, .inr ?_⟩
    rcases h with ⟨-, -, hc⟩ | ⟨hb, hv, -⟩ | ⟨-, -, hc⟩
    · cases hc
    · exact hv.trans hb.symm
    · cases hc
  inside _ b p c t h _ _ _ := by
    have hallowed := (h.final (C := C) hp₀).allowed
    refine .inl ⟨⟨hallowed.base, good_of_new hp₀ (by simp) rfl, hallowed.committed⟩, .inl ?_⟩
    rcases h with ⟨rfl, -, rfl⟩ | ⟨rfl, -, rfl⟩ | ⟨rfl, -, rfl⟩ <;> rfl

theorem Newborn.begins (n j : Nat) : Begins n j Newborn where
  refreshed b v c h := by
    rcases h with ⟨rfl, rfl, rfl⟩ | ⟨rfl, rfl, rfl⟩ | ⟨rfl, rfl, rfl⟩
    · exact .inl ⟨rfl, rfl, rfl⟩
    · exact .inr (.inl ⟨rfl, mergePhase_same _ _, rfl⟩)
    · exact .inr (.inr ⟨rfl, rfl, rfl⟩)
  committed _ _ := .inr (.inl ⟨rfl, rfl, rfl⟩)
  inside _ _ := .inr (.inr ⟨rfl, rfl, rfl⟩)

/-- What a start does to the phases of any instance. -/
def StartsAt {α : Type} (k : Option InstanceIdentity) (j : Nat) (hand : Option ProcessInstance) (m : M Ω α) : Prop :=
  ∀ n (Φ Ψ : Phases), Begins n j Φ → (∀ i, n ≤ i → Serves true (fun _ => True) i j Φ Ψ) → (∀ b v c, Φ b v c → Ψ b v c) →
    Prog.Ends (fun s => n ≤ s.seq ∧ At k j Φ hand s) m (fun _ => At k j Ψ none) fun _ => At k j Ψ none

/-- A start leaves the instances there are as they are. -/
theorem StartsAt.others {α : Type} {m : M Ω α} (h : StartsAt k j hand m) (hrefresh : ∀ b v c, Φ b v c → Φ c (mergePhase b v c) c)
    {n : Nat} (hj : j < n) :
    Prog.Ends (fun s => n ≤ s.seq ∧ At k j Φ hand s) m (fun _ => At k j Φ none) fun _ => At k j Φ none :=
  h n Φ Φ ⟨hrefresh, fun hle => absurd hj (not_lt.2 hle), fun hle => absurd hj (not_lt.2 hle)⟩
    (fun i hi => .other (by omega) fun _ _ _ h => h) fun _ _ _ h => h

/-- An instance that is not there yet may be created. -/
theorem StartsAt.final {α : Type} {m : M Ω α} (h : StartsAt k j hand m) (hrefresh : ∀ b v c, Φ b v c → Φ c (mergePhase b v c) c)
    (hallowed : ∀ b v c, Φ b v c → Final C p₀ b v c) :
    Prog.Ends (At k j Φ hand) m (fun _ => At k j (Final C p₀) none) fun _ => At k j (Final C p₀) none := by
  intro s hs
  by_cases hj : j < s.seq
  · exact ((h.others hrefresh hj).weaken (fun _ h => h) (fun _ _ h => h.weaken hallowed) fun _ _ h => h.weaken hallowed) s
      ⟨le_refl _, hs⟩
  · obtain ⟨hbase, hview, hcommitted⟩ := hs.unborn (not_lt.1 hj)
    have hp₀ : p₀ = none := by
      have := (hallowed _ _ _ hs.phases).allowed.base
      rw [hbase] at this
      exact this.of_none
    refine h s.seq Newborn (Final C p₀) (Newborn.begins _ _) (fun i _ => Newborn.serves hp₀ i j) (fun _ _ _ h => h.final hp₀) s
      ⟨le_refl _, hs.orderly, .inl ⟨hbase, hview, hcommitted⟩, hs.there, hs.here⟩

/-! ## Commands -/

theorem executeCommand_final (c : Command)
    (hretry : ∀ tenantId userId at_, c = .retry tenantId j userId at_ → C .retry)
    (hsuspend : ∀ tenantId userId at_, c = .suspend tenantId j userId at_ → C .suspend) :
    Prog.Ends (At k j (Free C p₀) hand) (executeCommand env c) (fun _ => At k j (Final C p₀) none)
      fun _ => At k j (Final C p₀) none := by
  have hfinal : ∀ b v c, Free C p₀ b v c → Final C p₀ b v c := fun _ _ _ h => h.final
  cases c with
  | claimTask tenantId workItemId userId => exact claimTask_ends hfinal _ _
  | completeTask tenantId workItemId userId completedAt payload => exact completeTask_ends (fun i => Free.serves false i j) _ _ _ _
  | recordEvent tenantId i eventType taskGuid userId occurredAt => exact recordEventCommand_ends hfinal _ _ _ _
  | createProcessInstance tenantId new =>
    refine createProcessInstance_ends hfinal (fun h => ?_) new
    exact Newborn.final h.final.allowed.base.of_none (.inr (.inr ⟨rfl, rfl, rfl⟩))
  | importDefinition tenantId userId args =>
    refine Prog.ends_bind (Q := fun _ => At k j (Free C p₀) hand) ?_ fun _ => Prog.ends_pure _ fun _ hs => hs.weaken hfinal
    exact calm_ends env (F := .on "" 0) (.quiet (by decide)) (importBpmnProcessDefinition_touches _ _ _) hfinal
  | initializeFromDefinition tenantId definitionId args resolver =>
    refine StartsAt.final (fun n Φ Ψ hbegins h hstays => ?_) (fun _ _ _ h => h.refreshed) hfinal
    exact initializeFromDefinition_ends hbegins h hstays _ _ _
  | initializeWorkflow tenantId i source startedAt => exact initializeWorkflow_ends (Free.serves true i j) _ _
  | upsertMetadata tenantId i key value updatedAt createdAt =>
    refine (calm_ends env (F := .on tenantId i) (.quiet (by decide))
      (upsertProcessInstanceMetadata_touches _ _ _ _ _ _ (List.Subset.refl _)) hfinal).weaken (fun _ h => h) ?_ fun _ _ h => h
    exact fun _ _ h => h.weaken hfinal
  | suspend tenantId i userId at_ =>
    refine suspend_ends hfinal (fun hj b p c h hp => h.write (.of_running hp (by simp) fun _ => ?_) ?_) _ _
    · exact hsuspend tenantId userId at_ (by rw [hj])
    · have hend := h.final.allowed.view.ended p rfl
      rw [Phase.Ended, hp] at hend
      exact hend
  | resume tenantId i userId at_ =>
    refine resume_ends hfinal (fun hj b p c h hp => ?_) _ _
    have hrunning : p.Running := by rw [Phase.Running, hp]; rfl
    refine h.write (.of_running hrunning (by simp) (by simp)) ?_
    have hend := h.final.allowed.view.ended p rfl
    rw [Phase.Ended, hrunning] at hend
    exact hend
  | error tenantId i userId at_ =>
    exact error_ends ⟨fun _ _ _ h _ => h.final, fun _ b p c t h hp => h.fails hp t⟩ hfinal _ _
  | retry tenantId i userId at_ =>
    by_cases hj : i = j
    · subst hj
      have hC := hretry tenantId userId at_ rfl
      exact retry_ends (Loose.serves i i) hfinal (fun _ _ _ h => h.final) (fun hne => absurd rfl hne)
        (fun _ _ _ _ h herror => h.out hC herror) _ _
    · exact retry_ends (.other hj fun _ _ _ h => h) hfinal hfinal (fun _ _ _ _ h => h) (fun h => absurd h hj) _ _
  | scheduleRetry tenantId i userId retryAt at_ => exact scheduleRetry_ends hfinal _ _ _
  | terminate tenantId i userId at_ =>
    exact terminate_ends hfinal (fun _ b p c t h hp => h.write (.of_running hp (by simp) (by simp)) rfl) _ _

/-! ## Scheduler passes -/

variable {job : SchedulerJob} {jobs : List SchedulerJob} {n : Nat} {occurredAt : Time}

/-- A job that leaves the instance in the phases `Φ`: no timer of the instance,
and a retry of it only where one may follow. -/
theorem executeClaimed_keeps (hj : j < n) (hrefresh : ∀ b v c, Φ b v c → Φ c (mergePhase b v c) c)
    (htimer : ∀ i, job.jobType = .intermediateTimer → job.processInstanceId = some i →
      (∀ x, k = some x → x.id = i → x.tenantId = job.m8fTenantId) → Serves true Phase.Running i j Φ Φ)
    (hretry : ∀ i, job.jobType = .processRetry → job.processInstanceId = some i → ∃ Λ : Phases,
      Serves true (fun _ => True) i j Λ Λ ∧ (∀ b v c, Λ b v c → Φ b v c) ∧ (i ≠ j → ∀ b v c, Φ b v c → Λ b v c) ∧
      (i = j → ∀ b p c, Φ b (some p) c → p.status = .error → Λ b (some ⟨.running, none⟩) c)) :
    Prog.Ends (fun s => n ≤ s.seq ∧ At k j Φ none s) (executeClaimedSchedulerJob env job occurredAt) (fun _ => At k j Φ none)
      fun _ => At k j Φ none := by
  unfold executeClaimedSchedulerJob
  cases htype : job.jobType with
  | intermediateTimer =>
    exact (timerJob_ends (fun _ _ _ h => h) (fun i => htimer i htype) _).weaken (fun _ h => h.2) (fun _ _ h => h) fun _ _ h => h
  | processRetry =>
    exact (retryJob_ends (fun _ _ _ h => h) (fun i => hretry i htype) _).weaken (fun _ h => h.2) (fun _ _ h => h) fun _ _ h => h
  | timerStart =>
    exact StartsAt.others (fun n Φ Ψ hbegins h hstays => startJob_ends hbegins h hstays _) hrefresh hj

/-- A job that is attempted ends where it ends. -/
theorem attempt_ends {P : Tx Ω → Prop}
    (h : Prog.Ends P (executeClaimedSchedulerJob env job occurredAt) (fun _ => At k j Ψ none) fun _ => At k j Ψ none) :
    Prog.Ends P (attemptSchedulerJob env occurredAt job) (fun _ => At k j Ψ none) fun _ => At k j Ψ none := by
  refine Prog.ends_attempt (R := fun _ => At k j Ψ none) (Prog.ends_bind h fun _ => Prog.ends_pure _ fun _ hs => hs) fun e => ?_
  refine Prog.ends_bind (Q := fun _ => At k j Ψ none) ?_ fun _ => Prog.ends_pure _ fun _ hs => hs
  refine fun s hs => ⟨fun _ s' hrun => ?_, fun _ _ hrun => by cases hrun⟩
  cases hrun
  exact hs.lock env _ _ fun _ => rfl

theorem attempt_seq (env : Env W Ω) (occurredAt : Time) (job : SchedulerJob) (s : Tx Ω) :
    s.seq ≤ ((attemptSchedulerJob env occurredAt job).run s).2.seq := (attemptSchedulerJob_left env occurredAt job s).seq

/-- The jobs of an instance that is not there do nothing. -/
theorem attempts_missing (hj : j < n) :
    Prog.Ends (fun s => n ≤ s.seq ∧ At k j Missing none s) (Prog.mapEach jobs (attemptSchedulerJob env occurredAt))
      (fun _ s => n ≤ s.seq ∧ At k j Missing none s) fun _ => At k j Missing none := by
  have hserves : ∀ G i, Serves true G i j Missing Missing := fun G i => {
    stays := fun _ _ _ h => h
    saved := fun _ _ _ _ _ h => by cases h.2.1
    beside := fun _ _ _ _ _ _ h => by cases h.2.1
    inside := fun _ _ _ _ _ h => by cases h.2.1 }
  refine Prog.ends_mapEach (I := fun _ s => n ≤ s.seq ∧ At k j Missing none s) fun job rest _ => ?_
  have hends : Prog.Ends (fun s => n ≤ s.seq ∧ At k j Missing none s) (attemptSchedulerJob env occurredAt job)
      (fun _ => At k j Missing none) fun _ => At k j Missing none := by
    refine attempt_ends (executeClaimed_keeps hj ?_ (fun i _ _ _ => hserves _ i) fun i _ _ => ?_)
    · rintro _ _ _ ⟨rfl, rfl, rfl⟩
      exact ⟨rfl, rfl, rfl⟩
    · exact ⟨Missing, hserves _ i, fun _ _ _ h => h, fun _ _ _ _ h => h, fun _ _ _ _ h => by cases h.2.1⟩
  refine fun s hs => ⟨fun a s' hrun => ⟨?_, (hends s hs).1 a s' hrun⟩, (hends s hs).2⟩
  have hseq := attempt_seq env occurredAt job s
  rw [hrun] at hseq
  exact hs.1.trans hseq

/-- Jobs of other instances, and jobs that start some. -/
theorem attempts_others (hjobs : ∀ job ∈ jobs, job.jobType ≠ .timerStart → job.processInstanceId ≠ some j) :
    Prog.Ends (At k j (Final C p₀) none) (Prog.mapEach jobs (attemptSchedulerJob env occurredAt))
      (fun _ => At k j (Final C p₀) none) fun _ => At k j (Final C p₀) none := by
  refine Prog.ends_mapEach (I := fun _ => At k j (Final C p₀) none) fun job rest hsuffix => attempt_ends ?_
  have hjob := hjobs job (hsuffix.subset List.mem_cons_self)
  have hkeep : ∀ b v c, Final C p₀ b v c → Final C p₀ b v c := fun _ _ _ h => h
  unfold executeClaimedSchedulerJob
  cases htype : job.jobType with
  | intermediateTimer =>
    refine timerJob_ends hkeep (fun i hi _ => .other ?_ hkeep) _
    rintro rfl
    exact hjob (by simp [htype]) hi
  | processRetry =>
    refine retryJob_ends hkeep (fun i hi => ?_) _
    have hne : i ≠ j := by
      rintro rfl
      exact hjob (by simp [htype]) hi
    exact ⟨Final C p₀, .other hne hkeep, hkeep, fun _ => hkeep, fun h => absurd h hne⟩
  | timerStart =>
    exact StartsAt.final (fun n Φ Ψ hbegins h hstays => startJob_ends hbegins h hstays _) (fun _ _ _ h => h.refreshed) hkeep

/-- The timer job of an instance. -/
def SchedulerJob.TimerOf (job : SchedulerJob) (x : InstanceIdentity) : Prop :=
  job.jobType = .intermediateTimer ∧ job.processInstanceId = some x.id ∧ job.m8fTenantId = x.tenantId

/-- The jobs of a pass: one timer for an instance. -/
theorem attempts_spent {x : InstanceIdentity} (hx : x.id < n) (hp₀ : p₀.isSome)
    (honce : jobs.Pairwise fun job job' => ¬ (job.TimerOf x ∧ job'.TimerOf x))
    (hretry : ∀ job ∈ jobs, job.jobType = .processRetry → job.processInstanceId = some x.id → C .retry) :
    Prog.Ends (fun s => n ≤ s.seq ∧ At (some x) x.id (Free C p₀) none s)
      (Prog.mapEach jobs (attemptSchedulerJob env occurredAt)) (fun _ => At (some x) x.id (Final C p₀) none)
      fun _ => At (some x) x.id (Final C p₀) none := by
  let I : List SchedulerJob → Tx Ω → Prop := fun rest s => n ≤ s.seq ∧ (At (some x) x.id (Free C p₀) none s ∨
    At (some x) x.id (Spent C p₀) none s ∧ ∀ job ∈ rest, ¬ job.TimerOf x)
  have hspent : ∀ b v c, Spent C p₀ b v c → Final C p₀ b v c := fun _ _ _ h => h.1
  have hmain : Prog.Ends (I jobs) (Prog.mapEach jobs (attemptSchedulerJob env occurredAt)) (fun _ => I [])
      fun _ => At (some x) x.id (Final C p₀) none := by
    refine Prog.ends_mapEach fun job rest hsuffix => ?_
    rintro s ⟨hn, hs⟩
    have hmem : job ∈ jobs := hsuffix.subset List.mem_cons_self
    have hseq : ∀ {r s'}, (attemptSchedulerJob env occurredAt job).run s = (r, s') → n ≤ s'.seq := fun hrun => by
      have := attempt_seq env occurredAt job s
      rw [hrun] at this
      exact hn.trans this
    -- A job that is no timer of the instance keeps both classes.
    have hkeeps : ∀ {Φ : Phases}, ¬ job.TimerOf x → (∀ b v c, Φ b v c → Φ c (mergePhase b v c) c) →
        (∀ b v c, Loose C p₀ b v c → Φ b v c) →
        (C .retry → ∀ b p c, Φ b (some p) c → p.status = .error → Loose C p₀ b (some ⟨.running, none⟩) c) →
        Prog.Ends (fun s => n ≤ s.seq ∧ At (some x) x.id Φ none s) (attemptSchedulerJob env occurredAt job)
          (fun _ => At (some x) x.id Φ none) fun _ => At (some x) x.id Φ none := by
      intro Φ hno hrefresh hloose hout
      have hkeep : ∀ b v c, Φ b v c → Φ b v c := fun _ _ _ h => h
      refine attempt_ends (executeClaimed_keeps hx hrefresh (fun i htype hi htenant => .other ?_ hkeep) fun i htype hi => ?_)
      · rintro rfl
        exact hno ⟨htype, hi, (htenant x rfl rfl).symm⟩
      · by_cases hj : i = x.id
        · subst hj
          exact ⟨Loose C p₀, Loose.serves _ _, hloose, fun h => absurd rfl h, fun _ => hout (hretry job hmem htype hi)⟩
        · exact ⟨Φ, .other hj hkeep, hkeep, fun _ => hkeep, fun h => absurd h hj⟩
    by_cases htimer : job.TimerOf x
    · rcases hs with hs | ⟨-, hnone⟩
      swap
      · exact absurd htimer (hnone job List.mem_cons_self)
      have hrest : ∀ job' ∈ rest, ¬ job'.TimerOf x := by
        have hpairwise := honce.sublist hsuffix.sublist
        exact fun job' hjob' h => (List.pairwise_cons.1 hpairwise).1 job' hjob' ⟨htimer, h⟩
      have hends : Prog.Ends (At (some x) x.id (Free C p₀) none) (attemptSchedulerJob env occurredAt job)
          (fun _ => At (some x) x.id (Spent C p₀) none) fun _ => At (some x) x.id (Spent C p₀) none := by
        refine attempt_ends ?_
        unfold executeClaimedSchedulerJob
        rw [htimer.1]
        exact timerJob_ends (fun _ _ _ h => h.spent hp₀) (fun i _ _ => Free.serves_timer hp₀ i x.id) _
      exact ⟨fun a s' hrun => ⟨hseq hrun, .inr ⟨(hends s hs).1 a s' hrun, hrest⟩⟩,
        fun e s' hrun => ((hends s hs).2 e s' hrun).weaken hspent⟩
    · rcases hs with hs | ⟨hs, hnone⟩
      · have hends := hkeeps (Φ := Free C p₀) htimer (fun _ _ _ h => h.refreshed) (fun _ _ _ h => .inr h)
          (fun hC b p c h herror => h.out hC herror) s ⟨hn, hs⟩
        exact ⟨fun a s' hrun => ⟨hseq hrun, .inl (hends.1 a s' hrun)⟩,
          fun e s' hrun => (hends.2 e s' hrun).weaken fun _ _ _ h => h.final⟩
      · have hends := hkeeps (Φ := Spent C p₀) htimer (fun _ _ _ h => h.refreshed hp₀)
          (fun _ _ _ h => Free.spent hp₀ (.inr h)) (fun hC b p c h herror => h.out hC herror) s ⟨hn, hs⟩
        refine ⟨fun a s' hrun => ⟨hseq hrun, .inr ⟨hends.1 a s' hrun, fun job' hjob' => ?_⟩⟩,
          fun e s' hrun => (hends.2 e s' hrun).weaken hspent⟩
        exact hnone job' (List.mem_cons_of_mem _ hjob')
  refine hmain.weaken (fun s hs => ⟨hs.1, .inl hs.2⟩) (fun _ s hs => ?_) fun _ _ h => h
  rcases hs.2 with hs | ⟨hs, -⟩
  · exact hs.weaken fun _ _ _ h => h.final
  · exact hs.weaken hspent

/-- A pass ends where the jobs it claims do. -/
theorem runDueSchedulerJobs_ends {s₀ : Tx Ω} (hs₀ : At k j Φ none s₀) (hstays : ∀ b v c, Φ b v c → Ψ b v c) {now : Option Time}
    {limit : Int} {workerId : String} {tenant : Option TenantId}
    (hattempts : Prog.Ends (fun s => s₀.seq ≤ s.seq ∧ At k j Φ none s)
      (Prog.mapEach (dueSchedulerJobs s₀.view (now.getD (env.now s₀.world)) limit.toNat tenant)
        (attemptSchedulerJob env (now.getD (env.now s₀.world)))) (fun _ => At k j Ψ none) fun _ => At k j Ψ none) :
    Prog.Ends (· = s₀) (runDueSchedulerJobs env now limit workerId tenant) (fun _ => At k j Ψ none) fun _ => At k j Ψ none := by
  refine Prog.ends_bind_of (A := (· = now.getD (env.now s₀.world))) (Q := fun _ => (· = s₀)) ?_ ?_
  · rintro _ rfl
    exact ⟨fun t s' h => by cases h; exact ⟨rfl, rfl⟩, fun e s' h => by cases h⟩
  rintro _ rfl
  refine Prog.ends_bind_of (A := (· = dueSchedulerJobs s₀.view (now.getD (env.now s₀.world)) limit.toNat tenant))
    (Q := fun _ s => s₀.seq ≤ s.seq ∧ At k j Φ none s) ?_ ?_
  · unfold claimDueSchedulerJobs
    split
    · exact Prog.ends_raise _ fun s hs => hs ▸ hs₀.weaken hstays
    refine Prog.ends_bind_of (A := (· = dueSchedulerJobs s₀.view (now.getD (env.now s₀.world)) limit.toNat tenant))
      (Q := fun _ => (· = s₀)) ?_ ?_
    · unfold listDueSchedulerJobs
      split
      · exact Prog.ends_raise _ fun s hs => hs ▸ hs₀.weaken hstays
      · rintro _ rfl
        exact ⟨fun jobs s' h => by cases h; exact ⟨rfl, rfl⟩, fun e s' h => by cases h⟩
    rintro jobs rfl
    refine Prog.ends_bind (Q := fun _ s => s₀.seq ≤ s.seq ∧ At k j Φ none s) ?_ fun _ =>
      Prog.ends_pure _ fun s hs => ⟨rfl, hs⟩
    rintro s rfl
    refine ⟨fun _ s' h => ?_, fun e s' h => by cases h⟩
    cases h
    exact ⟨le_refl _, hs₀.lock env _ _ fun _ => rfl⟩
  rintro jobs rfl
  refine Prog.ends_bind hattempts fun outcomes => ?_
  split
  · exact Prog.ends_pure _ fun _ hs => hs
  · exact Prog.ends_raise _ fun _ hs => hs
  · exact Prog.ends_raise _ fun _ hs => hs

/-- What a call leaves is in order, and the phase of `j` is allowed. -/
def Leaves (C : Cause → Prop) (p₀ : Option Phase) (j : Nat) (s : Tx Ω) : Prop :=
  Orderly s ∧ Final C p₀ (s.base.phase? j) (s.view.phase? j) (s.committed.phase? j)

theorem At.leaves (h : At k j (Final C p₀) none s) : Leaves C p₀ j s := ⟨h.orderly, h.phases⟩

variable {st : Store} {world : Ω}

/-- An instance and where its call starts. -/
theorem Store.Orderly.free (h : st.Orderly) (hended : ∀ p, st.db.phase? j = some p → p.Ended) (world : Ω)
    (hk : ∀ x, k = some x → ∃ p ∈ st.db.processInstances, p.identity = x) :
    At k j (Free C (st.db.phase? j)) none (st.session world) where
  orderly := h.session world
  phases := .inl ⟨⟨⟨.refl _, hended⟩, ⟨.refl _, hended⟩, ⟨.refl _, hended⟩⟩, rfl, rfl⟩
  there := hk
  here := by simp

/-- The jobs a pass claims have different names. -/
theorem due_names {db : Db} {seq : Nat} (hkeys : JobKeys seq db.schedulerJobs) {now : Time} {limit : Nat} {tenant : Option TenantId} :
    (dueSchedulerJobs db now limit tenant).Pairwise fun job job' => job.name ≠ job'.name := by
  refine List.pairwise_map.1 ?_
  refine List.Nodup.sublist ((List.take_sublist _ _).map _) ?_
  rw [((List.perm_insertionSort SchedulerJob.before _).map SchedulerJob.name).nodup_iff]
  exact hkeys.names.sublist (List.filter_sublist.map _)

theorem runDueSchedulerJobs_leaves (horderly : st.Orderly) (hkeys : JobKeys st.seq st.db.schedulerJobs)
    (hended : ∀ p, st.db.phase? j = some p → p.Ended) {now : Option Time} {limit : Int} {workerId : String}
    {tenant : Option TenantId}
    (hretry : ∀ job ∈ dueSchedulerJobs st.db (now.getD (env.now world)) limit.toNat tenant, job.jobType = .processRetry →
      job.processInstanceId = some j → C .retry) :
    Prog.Ends (· = st.session world) (runDueSchedulerJobs env now limit workerId tenant) (fun _ => Leaves C (st.db.phase? j) j)
      fun _ => Leaves C (st.db.phase? j) j := by
  have hleaves : ∀ {k : Option InstanceIdentity} {s : Tx Ω}, At k j (Final C (st.db.phase? j)) none s → Leaves C (st.db.phase? j) j s :=
    fun h => h.leaves
  set due := dueSchedulerJobs st.db (now.getD (env.now world)) limit.toNat tenant with hdue
  have hmem : ∀ job ∈ due, job ∈ st.db.schedulerJobs := fun job hjob => mem_of_due hjob
  have hhome : ∀ job ∈ due, job.jobType ≠ .timerStart → ∃ i, job.processInstanceId = some i ∧ i < st.seq ∧
      job.jobKey = instanceJobKey job.jobType i := fun job hjob => horderly.homed job (hmem job hjob)
  by_cases hj : j < st.seq
  swap
  · refine (runDueSchedulerJobs_ends (k := none) (horderly.free hended world (by simp)) (fun _ _ _ h => h.final) ?_).weaken
      (fun _ h => h) (fun _ _ => hleaves) fun _ _ => hleaves
    refine (attempts_others fun job hjob hstart hid => ?_).weaken (fun s hs => hs.2.weaken fun _ _ _ h => h.final) (fun _ _ h => h)
      fun _ _ h => h
    obtain ⟨i, hi, hlt, -⟩ := hhome job hjob hstart
    rw [hid, Option.some.injEq] at hi
    omega
  by_cases hrow : ∃ p ∈ st.db.processInstances, p.id = j
  · obtain ⟨p, hp, rfl⟩ := hrow
    have hphase := horderly.ranked.phase hp
    refine (runDueSchedulerJobs_ends (k := some p.identity)
      (horderly.free hended world fun x hx => ⟨p, hp, Option.some.inj hx⟩) (fun _ _ _ h => h.final) ?_).weaken
      (fun _ h => h) (fun _ _ => hleaves) fun _ _ => hleaves
    refine attempts_spent (x := p.identity) hj (by rw [hphase]; rfl) ?_ fun job hjob => hretry job hjob
    refine ((due_names hkeys).imp_of_mem fun {job job'} hjob hjob' hname hboth => hname ?_)
    obtain ⟨⟨htype, hid, htenant⟩, htype', hid', htenant'⟩ := hboth
    obtain ⟨i, hi, -, hkey⟩ := hhome job hjob (by simp [htype])
    obtain ⟨i', hi', -, hkey'⟩ := hhome job' hjob' (by simp [htype'])
    obtain rfl : i = i' := by rw [hid] at hi; rw [hid'] at hi'; exact (Option.some.inj hi).symm.trans (Option.some.inj hi')
    unfold SchedulerJob.name
    rw [htenant, htenant', hkey, hkey', htype, htype']
  · have hnone : st.db.phase? j = none := by
      unfold Db.phase? Db.processInstance?
      rw [Option.map_eq_none_iff, List.find?_eq_none]
      exact fun p hp hid => hrow ⟨p, hp, by simpa using hid⟩
    have hmissing : At none j Missing none (st.session world) :=
      ⟨horderly.session world, ⟨hnone, hnone, hnone⟩, by simp, by simp⟩
    have hfinal : ∀ b v c, Missing b v c → Final C (st.db.phase? j) b v c := fun b v c h =>
      Newborn.final hnone (.inl h)
    refine (runDueSchedulerJobs_ends hmissing hfinal ?_).weaken (fun _ h => h) (fun _ _ => hleaves) fun _ _ => hleaves
    exact (attempts_missing hj).weaken (fun _ h => h) (fun _ _ h => h.2.weaken hfinal) fun _ _ h => h.weaken hfinal

end
end M8flowCore
