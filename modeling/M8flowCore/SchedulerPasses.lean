import M8flowCore.JobMoves
import M8flowCore.Isolation
import M8flowCore.Sample
/-!
# A pass of the scheduler

A pass locks the jobs it will run before it runs the first of them. Running a
job may write any job of the same instance, so that what is said of a job after
the pass is said of whatever is kept under its key.
-/
open M8flowCore.Lib M8flowCore.Session

namespace M8flowCore

/-- Every job under a name is free. -/
def Settled (name : TenantId × String) (jobs : List SchedulerJob) : Prop := ∀ job ∈ jobs, job.name = name → job.Free

theorem Settled.moved {K : SchedulerJob → Prop} {name : TenantId × String} {jobs jobs' : List SchedulerJob}
    (hmoved : JobsMoved K jobs jobs') (h : Settled name jobs) : Settled name jobs' := by
  intro job hjob hname
  rcases hmoved.free job hjob with hold | hfree
  · exact h job hold hname
  · exact hfree

section
variable {W Ω α : Type} {env : Env W Ω} {s s' : Tx Ω} {K : SchedulerJob → Prop} {name : TenantId × String}

theorem Settled.jobs (hjobs : Jobs K s s') (hs : s.JobsCurrent) (h : Settled name s.view.schedulerJobs) :
    Settled name s'.view.schedulerJobs := h.moved (hjobs.moved hs)

/-! ## A job that succeeds unlocks itself -/

theorem upsertSchedulerJob_settles {tenantId : TenantId} {jobKey : String} {v : JobValues} {occurredAt : Time}
    {createdAt : Option Time} (h : (upsertSchedulerJob tenantId jobKey v occurredAt createdAt).run s = (.ok (), s')) :
    Settled (tenantId, jobKey) s'.view.schedulerJobs := by
  intro job hjob hname
  obtain ⟨htenant, hkey⟩ := Prod.mk.inj hname
  unfold upsertSchedulerJob at h
  simp only [query, Prog.gets_bind_run] at h
  cases hfound : s.view.schedulerJob? tenantId jobKey with
  | none =>
    simp only [hfound, Session.insert, nextId, write] at h
    obtain ⟨-, rfl⟩ := Prod.mk.inj h
    rcases List.mem_append.1 hjob with hjob | hjob
    · have := List.find?_eq_none.1 hfound job hjob
      simp [htenant, hkey] at this
    · rw [List.mem_singleton.1 hjob]
      exact ⟨rfl, rfl⟩
  | some found =>
    simp only [hfound, write] at h
    obtain ⟨-, rfl⟩ := Prod.mk.inj h
    obtain ⟨job₀, -, rfl⟩ := mem_updateWhere.1 hjob
    split
    · exact ⟨rfl, rfl⟩
    · rename_i hne
      rw [if_neg hne] at htenant hkey
      simp [htenant, hkey] at hne

theorem deleteSchedulerJob_settles {tenantId : TenantId} {jobKey : String}
    (h : (deleteSchedulerJob tenantId jobKey).run s = (.ok (), s')) : Settled (tenantId, jobKey) s'.view.schedulerJobs := by
  intro job hjob hname
  obtain ⟨htenant, hkey⟩ := Prod.mk.inj hname
  simp only [deleteSchedulerJob, write] at h
  obtain ⟨-, rfl⟩ := Prod.mk.inj h
  have := (List.mem_filter.1 hjob).2
  simp [htenant, hkey] at this

theorem syncIntermediateTimerSchedulerJob_settles {pi : ProcessInstance} {w : W} {occurredAt : Time}
    (h : (syncIntermediateTimerSchedulerJob env pi w occurredAt).run s = (.ok (), s')) :
    Settled (pi.m8fTenantId, instanceJobKey .intermediateTimer pi.id) s'.view.schedulerJobs := by
  unfold syncIntermediateTimerSchedulerJob at h
  obtain ⟨payloads, s₁, -, h₁⟩ := Prog.bind_ok.1 h
  split at h₁
  · exact deleteSchedulerJob_settles h₁
  · exact upsertSchedulerJob_settles h₁

theorem persistWorkflowState_settles {pi : ProcessInstance} {w : W} {occurredAt : Time}
    (h : (persistWorkflowState env pi w occurredAt).run s = (.ok (), s')) :
    Settled (pi.m8fTenantId, instanceJobKey .intermediateTimer pi.id) s'.view.schedulerJobs := by
  unfold persistWorkflowState at h
  obtain ⟨_, s₁, -, h₁⟩ := Prog.bind_ok.1 h
  obtain ⟨_, s₂, -, h₂⟩ := Prog.bind_ok.1 h₁
  obtain ⟨_, s₃, -, h₃⟩ := Prog.bind_ok.1 h₂
  obtain ⟨_, s₄, -, h₄⟩ := Prog.bind_ok.1 h₃
  obtain ⟨_, s₅, -, h₅⟩ := Prog.bind_ok.1 h₄
  exact syncIntermediateTimerSchedulerJob_settles h₅

theorem saveWorkflow_settles {pi : ProcessInstance} {w : W} {occurredAt : Time} {starting : Bool} (hs : s.JobsCurrent)
    (h : (saveWorkflow env pi w occurredAt starting).run s = (.ok (), s')) :
    Settled (pi.m8fTenantId, instanceJobKey .intermediateTimer pi.id) s'.view.schedulerJobs := by
  unfold saveWorkflow at h
  obtain ⟨_, s₁, hpersist, h₁⟩ := Prog.bind_ok.1 h
  have hjobs₁ := (persistWorkflowState_jobs (K := fun _ => True) (fun _ _ => trivial) w occurredAt).of_ok hpersist
  exact (persistWorkflowState_settles hpersist).jobs ((afterPersist_jobs (K := fun _ => True) env pi w occurredAt starting).of_ok h₁)
    (hjobs₁.current hs)

/-- An instance's timer job, after its workflow was woken. -/
theorem refreshWaitingProcessInstanceWorkflow_settles {tenantId : TenantId} {i : Nat} {occurredAt : Option Time}
    (hs : s.JobsCurrent) {pi : ProcessInstance} (hload : (loadProcessInstance tenantId i).run s = (.ok pi, s))
    (hopen : pi.hasTerminalStatus = false) (hstate : (s.view.workflowStateJson pi).isSome = true)
    (h : (refreshWaitingProcessInstanceWorkflow env tenantId i occurredAt).run s = (.ok (), s')) :
    Settled (tenantId, instanceJobKey .intermediateTimer i) s'.view.schedulerJobs := by
  have hall : ∀ job, instanceJobs pi.m8fTenantId pi.id job → True := fun _ _ => trivial
  obtain ⟨-, -, rfl, rfl⟩ := loadProcessInstance_ok hload
  obtain ⟨state, hstate⟩ := Option.isSome_iff_exists.1 hstate
  unfold refreshWaitingProcessInstanceWorkflow query at h
  rw [Prog.bind_run_ok hload] at h
  simp only [Prog.gets_bind_run, hstate, hopen, Bool.false_eq_true, if_false] at h
  obtain ⟨t, s₁, h₁, h⟩ := Prog.bind_ok.1 h
  obtain ⟨w, s₂, h₂, h⟩ := Prog.bind_ok.1 h
  obtain ⟨r, s₃, h₃, h⟩ := Prog.bind_ok.1 h
  obtain ⟨w', s₄, h₄, h⟩ := Prog.bind_ok.1 h
  obtain ⟨w'', s₅, h₅, hsave⟩ := Prog.bind_ok.1 h
  have hcurrent₁ := ((resolveTimestamp_jobs (K := fun _ => True) env _).of_ok h₁).current hs
  have hcurrent₂ := ((ofExcept_jobs (K := fun _ => True) _).of_ok h₂).current hcurrent₁
  have hcurrent₃ := ((ask_jobs (K := fun _ => True) _).of_ok h₃).current hcurrent₂
  have hcurrent₄ := ((jobs_of_readOnly (K := fun _ => True) (orRaised_readOnly _)).of_ok h₄).current hcurrent₃
  exact saveWorkflow_settles (((runWorkflow_jobs hall _ _ _ _).of_ok h₅).current hcurrent₄) hsave

theorem executeIntermediateTimerJob_settles {job : SchedulerJob} {occurredAt : Time} (hs : s.JobsCurrent)
    (hkey : ∀ i, job.processInstanceId = some i → job.jobKey = instanceJobKey .intermediateTimer i)
    (h : (executeIntermediateTimerJob env job occurredAt).run s = (.ok (), s')) : Settled job.name s'.view.schedulerJobs := by
  unfold executeIntermediateTimerJob at h
  cases hi : job.processInstanceId with
  | none =>
    simp only [hi] at h
    exact deleteSchedulerJob_settles h
  | some i =>
    simp only [hi] at h
    obtain ⟨pi, s₁, hload, hrest⟩ := Prog.bind_ok.1 h
    obtain rfl := (loadProcessInstance_ok hload).1
    split at hrest
    · rename_i hwaits
      simp only [query, Prog.gets_bind_run] at hrest
      split at hrest
      · exact deleteSchedulerJob_settles hrest
      · rename_i hstate
        have hopen : pi.hasTerminalStatus = false := by
          rcases hwaits with hwaits | hwaits <;> simp [ProcessInstance.hasTerminalStatus, hwaits]
        have hsome : (s₁.view.workflowStateJson pi).isSome = true := by
          simpa [Option.isSome_iff_ne_none, Option.isNone_iff_eq_none] using hstate
        have hsettled := refreshWaitingProcessInstanceWorkflow_settles hs hload hopen hsome hrest
        rw [SchedulerJob.name, hkey i hi]
        exact hsettled
    · exact deleteSchedulerJob_settles hrest

/-- A retried instance has no retry job left. -/
theorem retryProcessInstance_settles {tenantId : TenantId} {i userId : Nat} {at_ : Option Time} (hs : s.JobsCurrent)
    (h : (retryProcessInstance env tenantId i userId at_).run s = (.ok (), s')) :
    Settled (tenantId, instanceJobKey .processRetry i) s'.view.schedulerJobs := by
  have hall : ∀ job, instanceJobs tenantId i job → True := fun _ _ => trivial
  unfold retryProcessInstance at h
  obtain ⟨pi, s₁, hload, hrest⟩ := Prog.bind_ok.1 h
  obtain rfl := (openProcessInstanceCommand_readOnly _ _ _ _).state hload
  split at hrest
  · simp at hrest
  · obtain ⟨t, s₂, ht, h⟩ := Prog.bind_ok.1 hrest
    have hcurrent₂ := ((resolveTimestamp_jobs (K := fun _ => True) env _).of_ok ht).current hs
    simp only [updateInstance, write, query, Prog.modify_bind_run, Prog.gets_bind_run] at h
    obtain ⟨_, s₃, hretry, h⟩ := Prog.bind_ok.1 h
    have hcurrent₃ := ((retryErroredServiceTaskWorkflowIfNeeded_jobs hall _).of_ok hretry).current hcurrent₂
    obtain ⟨_, s₄, hdelete, h⟩ := Prog.bind_ok.1 h
    have hsettled := deleteSchedulerJob_settles hdelete
    have hcurrent₄ := ((deleteSchedulerJob_moves (K := fun _ => True) fun _ _ => trivial).of_ok hdelete).current hcurrent₃
    have hrest : Prog.Keeps (Jobs fun _ => True) (do
        recordProcessInstanceEvent tenantId i .processInstanceRetried t none (some userId)
        retryErroredServiceTaskWorkflowIfNeeded env tenantId i (some t)
        syncOpenWorkItemPotentialOwners env tenantId i
          (some ((s₂.view.updateInstance i ({ · with status := .running, endedAt := none, updatedAt := some t })).workItems.filter
            (·.processInstanceId == i) |>.map (·.id))) : M Ω Unit) := by
      refine Prog.keeps_bind frame_jobs (recordProcessInstanceEvent_jobs env _ _ _ _ _ _) fun _ => ?_
      refine Prog.keeps_bind frame_jobs (retryErroredServiceTaskWorkflowIfNeeded_jobs hall _) fun _ => ?_
      exact syncOpenWorkItemPotentialOwners_jobs env _ _ _
    exact hsettled.jobs (hrest.of_ok h) hcurrent₄

theorem executeProcessRetryJob_settles {job : SchedulerJob} {occurredAt : Time} (hs : s.JobsCurrent)
    (hkey : ∀ i, job.processInstanceId = some i → job.jobKey = instanceJobKey .processRetry i)
    (h : (executeProcessRetryJob env job occurredAt).run s = (.ok (), s')) : Settled job.name s'.view.schedulerJobs := by
  unfold executeProcessRetryJob at h
  cases hi : job.processInstanceId with
  | none =>
    simp only [hi] at h
    exact deleteSchedulerJob_settles h
  | some i =>
    simp only [hi] at h
    obtain ⟨pi, s₁, hload, hrest⟩ := Prog.bind_ok.1 h
    obtain rfl := (loadProcessInstance_ok hload).1
    split at hrest
    · obtain ⟨userId, s₂, huser, hretry⟩ := Prog.bind_ok.1 hrest
      obtain rfl := (ofExcept_ok huser).2
      rw [SchedulerJob.name, hkey i hi]
      exact retryProcessInstance_settles hs hretry
    · exact deleteSchedulerJob_settles hrest

theorem rescheduleOrDeleteTimerStartJob_settles {job : SchedulerJob} {timerTask : Dict} {occurredAt : Time}
    (h : (rescheduleOrDeleteTimerStartJob env job timerTask occurredAt).run s = (.ok (), s')) :
    Settled job.name s'.view.schedulerJobs := by
  unfold rescheduleOrDeleteTimerStartJob at h
  obtain ⟨next, s₁, -, h⟩ := Prog.bind_ok.1 h
  cases next with
  | none => exact deleteSchedulerJob_settles h
  | some entry => exact upsertSchedulerJob_settles h

theorem executeTimerStartJob_settles {job : SchedulerJob} {occurredAt : Time}
    (h : (executeTimerStartJob env job occurredAt).run s = (.ok (), s')) : Settled job.name s'.view.schedulerJobs := by
  unfold executeTimerStartJob at h
  split at h
  · exact deleteSchedulerJob_settles h
  · obtain ⟨definition, s₁, -, h⟩ := Prog.bind_ok.1 h
    split at h
    · exact deleteSchedulerJob_settles h
    · obtain ⟨timerTask, s₂, -, h⟩ := Prog.bind_ok.1 h
      obtain ⟨systemUser, s₃, -, h⟩ := Prog.bind_ok.1 h
      obtain ⟨specName, s₄, -, h⟩ := Prog.bind_ok.1 h
      obtain ⟨_, s₅, -, h⟩ := Prog.bind_ok.1 h
      exact rescheduleOrDeleteTimerStartJob_settles h

/-- A job that was filed by the library and succeeds is gone or free. -/
theorem executeClaimedSchedulerJob_settles {job : SchedulerJob} {occurredAt : Time} (hs : s.JobsCurrent) (hfiled : job.Filed)
    (h : (executeClaimedSchedulerJob env job occurredAt).run s = (.ok (), s')) : Settled job.name s'.view.schedulerJobs := by
  have hkey : ∀ i, job.jobType ≠ .timerStart → job.processInstanceId = some i → job.jobKey = instanceJobKey job.jobType i := by
    intro i htype hi
    rcases hfiled with ⟨hstart, -⟩ | ⟨k, -, hkey, hid⟩
    · exact absurd hstart htype
    · rw [hid, Option.some.injEq] at hi
      rw [hkey, hi]
  unfold executeClaimedSchedulerJob at h
  cases htype : job.jobType with
  | intermediateTimer =>
    rw [htype] at h hkey
    exact executeIntermediateTimerJob_settles hs (fun i => hkey i (by simp)) h
  | processRetry =>
    rw [htype] at h hkey
    exact executeProcessRetryJob_settles hs (fun i => hkey i (by simp)) h
  | timerStart =>
    rw [htype] at h
    exact executeTimerStartJob_settles h

/-! ## Which jobs a pass takes -/

/-- An unlocked job that is due, of the tenant that is asked for. -/
def SchedulerJob.DueFor (now : Time) (tenantId : Option TenantId) (job : SchedulerJob) : Prop :=
  job.lockedBy = none ∧ job.runAt ≤ now ∧ ∀ t, tenantId = some t → job.m8fTenantId = t

/-- The first `limit` jobs that are due, in the order of their run times and
ids. -/
structure FirstDue (jobs : List SchedulerJob) (now : Time) (limit : Nat) (tenantId : Option TenantId)
    (batch : List SchedulerJob) : Prop where
  nodup : batch.Nodup
  due : ∀ job ∈ batch, job ∈ jobs ∧ job.DueFor now tenantId
  sorted : batch.Pairwise SchedulerJob.before
  few : batch.length ≤ limit
  first : ∀ job ∈ jobs, job.DueFor now tenantId → job ∉ batch → batch.length = limit ∧ ∀ b ∈ batch, b.before job

theorem dueFor_iff {now : Time} {tenantId : Option TenantId} {job : SchedulerJob} :
    (job.lockedBy.isNone && decide (job.runAt ≤ now) && tenantId.all (· == job.m8fTenantId)) = true ↔ job.DueFor now tenantId := by
  cases tenantId with
  | none => simp [SchedulerJob.DueFor]
  | some t =>
    simp only [SchedulerJob.DueFor, Option.all_some, Bool.and_eq_true, Option.isNone_iff_eq_none, decide_eq_true_eq, beq_iff_eq,
      Option.some.injEq, and_assoc, eq_comm (a := t), forall_eq]

instance (now : Time) (tenantId : Option TenantId) (job : SchedulerJob) : Decidable (job.DueFor now tenantId) :=
  decidable_of_iff _ dueFor_iff

theorem before_total (a b : SchedulerJob) : a.before b ∨ b.before a := by
  rcases lt_trichotomy a.runAt b.runAt with hlt | heq | hlt
  · exact .inl (.inl hlt)
  · rcases le_total a.id b.id with hid | hid
    · exact .inl (.inr ⟨heq, hid⟩)
    · exact .inr (.inr ⟨heq.symm, hid⟩)
  · exact .inr (.inl hlt)

theorem before_trans {a b c : SchedulerJob} (h : a.before b) (h' : b.before c) : a.before c := by
  rcases h with h | ⟨h, hid⟩ <;> rcases h' with h' | ⟨h', hid'⟩
  · exact .inl (h.trans h')
  · exact .inl (h.trans_eq h')
  · exact .inl (h.trans_lt h')
  · exact .inr ⟨h.trans h', hid.trans hid'⟩

instance : Std.Total SchedulerJob.before := ⟨before_total⟩

instance : IsTrans SchedulerJob SchedulerJob.before := ⟨fun _ _ _ => before_trans⟩

theorem dueSchedulerJobs_first {db : Db} (hids : (db.schedulerJobs.map (·.id)).Nodup) (now : Time) (limit : Nat)
    (tenantId : Option TenantId) : FirstDue db.schedulerJobs now limit tenantId (dueSchedulerJobs db now limit tenantId) := by
  set due := db.schedulerJobs.filter fun j => j.lockedBy.isNone && decide (j.runAt ≤ now) && tenantId.all (· == j.m8fTenantId)
    with hdue
  set sorted := due.insertionSort SchedulerJob.before with hsorted
  have hperm : sorted.Perm due := List.perm_insertionSort _ _
  have hpairwise : sorted.Pairwise SchedulerJob.before := List.pairwise_insertionSort _ _
  have hmem : ∀ job, job ∈ sorted ↔ job ∈ db.schedulerJobs ∧ job.DueFor now tenantId := by
    intro job
    rw [hperm.mem_iff, hdue, List.mem_filter, dueFor_iff]
  have hnodup : sorted.Nodup := hperm.nodup_iff.2 ((List.Nodup.of_map _ hids).filter _)
  have hbatch : dueSchedulerJobs db now limit tenantId = sorted.take limit := rfl
  rw [hbatch]
  refine ⟨hnodup.sublist (List.take_sublist _ _), fun job hjob => (hmem job).1 (List.mem_of_mem_take hjob),
    hpairwise.sublist (List.take_sublist _ _), by simp, fun job hjob hdueFor hout => ?_⟩
  have hrest : job ∈ sorted.drop limit := by
    have hin : job ∈ sorted.take limit ++ sorted.drop limit := by
      rw [List.take_append_drop]
      exact (hmem job).2 ⟨hjob, hdueFor⟩
    rcases List.mem_append.1 hin with hin | hin
    · exact absurd hin hout
    · exact hin
  refine ⟨?_, fun b hb => ?_⟩
  · have hlength : 0 < (sorted.drop limit).length := List.length_pos_of_mem hrest
    rw [List.length_drop] at hlength
    rw [List.length_take]
    omega
  · rw [← List.take_append_drop limit sorted] at hpairwise
    exact (List.pairwise_append.1 hpairwise).2.2 b hb job hrest

/-! ## Attempting the jobs of a batch -/

/-- The session after a job was released. -/
def released (now : Time) (job : SchedulerJob) (s : Tx Ω) : Tx Ω := ((releaseSchedulerJobLock job.id now).run s).2

/-- The jobs of a batch, one after the other: a job succeeds, or it raises and is
released, and in either case the next one runs. -/
inductive Attempts (env : Env W Ω) (now : Time) :
    List SchedulerJob → Tx Ω → List (Option (String × Error)) → Tx Ω → Prop
  | nil (s : Tx Ω) : Attempts env now [] s [] s
  | success {job : SchedulerJob} {jobs : List SchedulerJob} {outcomes : List (Option (String × Error))} {s s₁ s' : Tx Ω}
      (hjob : (executeClaimedSchedulerJob env job now).run s = (.ok (), s₁)) (hrest : Attempts env now jobs s₁ outcomes s') :
      Attempts env now (job :: jobs) s (none :: outcomes) s'
  | failure {job : SchedulerJob} {jobs : List SchedulerJob} {outcomes : List (Option (String × Error))} {s s₁ s' : Tx Ω}
      {e : Error} (hjob : (executeClaimedSchedulerJob env job now).run s = (.error e, s₁))
      (hrest : Attempts env now jobs (released now job s₁) outcomes s') :
      Attempts env now (job :: jobs) s (some (job.jobKey, jobError job e) :: outcomes) s'

theorem attemptSchedulerJob_run (env : Env W Ω) (now : Time) (job : SchedulerJob) (s : Tx Ω) :
    (∃ s₁, (executeClaimedSchedulerJob env job now).run s = (.ok (), s₁) ∧
      (attemptSchedulerJob env now job).run s = (.ok none, s₁)) ∨
    ∃ e s₁, (executeClaimedSchedulerJob env job now).run s = (.error e, s₁) ∧
      (attemptSchedulerJob env now job).run s = (.ok (some (job.jobKey, jobError job e)), released now job s₁) := by
  unfold attemptSchedulerJob
  rw [Prog.attempt_run]
  rcases hrun : (executeClaimedSchedulerJob env job now).run s with ⟨e | u, s₁⟩
  · rw [Prog.bind_run_error hrun]
    exact .inr ⟨e, s₁, rfl, rfl⟩
  · rw [Prog.bind_run_ok hrun]
    exact .inl ⟨s₁, rfl, rfl⟩

theorem mapEach_attempts (env : Env W Ω) (now : Time) (batch : List SchedulerJob) (s : Tx Ω) :
    ∃ outcomes s', (Prog.mapEach batch (attemptSchedulerJob env now)).run s = (.ok outcomes, s') ∧
      Attempts env now batch s outcomes s' := by
  induction batch generalizing s with
  | nil => exact ⟨[], s, rfl, .nil s⟩
  | cons job jobs ih =>
    rw [Prog.mapEach_cons]
    rcases attemptSchedulerJob_run env now job s with ⟨s₁, hjob, hattempt⟩ | ⟨e, s₁, hjob, hattempt⟩
    · obtain ⟨outcomes, s', hrest, hattempts⟩ := ih s₁
      rw [Prog.bind_run_ok hattempt, Prog.bind_run_ok hrest]
      exact ⟨_, _, rfl, .success hjob hattempts⟩
    · obtain ⟨outcomes, s', hrest, hattempts⟩ := ih (released now job s₁)
      rw [Prog.bind_run_ok hattempt, Prog.bind_run_ok hrest]
      exact ⟨_, _, rfl, .failure hjob hattempts⟩

theorem Attempts.length {now : Time} {batch : List SchedulerJob} {outcomes : List (Option (String × Error))}
    (h : Attempts env now batch s outcomes s') : outcomes.length = batch.length := by
  induction h with
  | nil => rfl
  | success _ _ ih => simp [ih]
  | failure _ _ ih => simp [ih]

/-- The jobs that a batch may write. -/
def BatchReaches (seq : Nat) (batch : List SchedulerJob) (row : SchedulerJob) : Prop :=
  ∃ job ∈ batch, job.Reaches seq row ∨ row.id = job.id

theorem SchedulerJob.Reaches.mono {seq seq' : Nat} (hseq : seq ≤ seq') {job other : SchedulerJob} (h : job.Reaches seq' other) :
    job.Reaches seq other := by
  rcases h with hname | ⟨i, hi, hof⟩
  · exact .inl hname
  · exact .inr ⟨i, hi.imp_right hseq.trans, hof⟩

/-- Besides what was there when the batch was locked, a pass only leaves free
jobs. -/
structure Passing (locked : List SchedulerJob) (s : Tx Ω) : Prop where
  current : s.JobsCurrent
  rows : ∀ row ∈ s.view.schedulerJobs, row ∈ locked ∨ row.Free

theorem Passing.jobs {locked : List SchedulerJob} (h : Passing locked s) (hjobs : Jobs K s s') : Passing locked s' := by
  refine ⟨hjobs.current h.current, fun row hrow => ?_⟩
  rcases (hjobs.moved h.current).free row hrow with hrow | hfree
  · exact h.rows row hrow
  · exact .inr hfree

theorem released_jobs (now : Time) (job : SchedulerJob) (s : Tx Ω) : Jobs (fun row => row.id = job.id) s (released now job s) := by
  refine ⟨le_refl _, rfl, id, fun _ => ⟨fun p hp => ?_, fun row hrow => ?_⟩, fun _ hkeys => hkeys.update (fun _ => rfl) fun _ => rfl⟩
  · refine filter_updateWhere fun row _ hid => ?_
    rw [beq_iff_eq] at hid
    exact ⟨Bool.eq_false_iff.2 fun h => hp row h hid, Bool.eq_false_iff.2 fun h => hp _ h hid⟩
  · obtain ⟨row₀, hrow₀, rfl⟩ := mem_updateWhere.1 hrow
    split
    · exact .inr ⟨rfl, rfl⟩
    · exact .inl hrow₀

theorem released_free {now : Time} {job row : SchedulerJob} (hrow : row ∈ (released now job s).view.schedulerJobs)
    (hid : row.id = job.id) : row.Free := by
  obtain ⟨row₀, -, rfl⟩ := mem_updateWhere.1 hrow
  split
  · exact ⟨rfl, rfl⟩
  · rename_i hne
    rw [if_neg hne] at hid
    simp [hid] at hne

section
variable {locked batch : List SchedulerJob} {now : Time} {outcomes : List (Option (String × Error))}

variable (now) in
/-- A job that raises is released: whatever is kept under its key is what was
locked, and so has its id, or it was written since. -/
theorem failed_settles {job : SchedulerJob} {s : Tx Ω} (hs : Passing locked s)
    (hname : ∀ row ∈ locked, row.name = job.name → row.id = job.id) :
    Settled job.name (released now job s).view.schedulerJobs := by
  intro row hrow hrowname
  rcases (hs.jobs (released_jobs now job s)).rows row hrow with hlocked | hfree
  · exact released_free hrow (hname row hlocked hrowname)
  · exact hfree

/-- What the attempts of a batch do to the jobs. -/
theorem Attempts.jobs (h : Attempts env now batch s outcomes s') : Jobs (BatchReaches s.seq batch) s s' := by
  induction h with
  | nil s => exact frame_jobs.refl s
  | @success job jobs outcomes s s₁ s' hjob hrest ih =>
    have hjobs := executeClaimedSchedulerJob_jobs env job now s
    rw [hjob] at hjobs
    refine frame_jobs.trans (hjobs.mono fun row hrow => ⟨job, by simp, .inl hrow⟩) (ih.mono ?_)
    rintro row ⟨j, hj, hreach⟩
    exact ⟨j, by simp [hj], hreach.imp_left fun h => h.mono hjobs.seq⟩
  | @failure job jobs outcomes s s₁ s' e hjob hrest ih =>
    have hjobs := executeClaimedSchedulerJob_jobs env job now s
    rw [hjob] at hjobs
    have hreleased := released_jobs now job s₁
    refine frame_jobs.trans (hjobs.mono fun row hrow => ⟨job, by simp, .inl hrow⟩)
      (frame_jobs.trans (hreleased.mono fun row hrow => ⟨job, by simp, .inr hrow⟩) (ih.mono ?_))
    rintro row ⟨j, hj, hreach⟩
    exact ⟨j, by simp [hj], hreach.imp_left fun h => h.mono hjobs.seq⟩

theorem Attempts.settles (h : Attempts env now batch s outcomes s') (hfiled : ∀ job ∈ batch, job.Filed)
    (hname : ∀ job ∈ batch, ∀ row ∈ locked, row.name = job.name → row.id = job.id) (hs : Passing locked s) :
    ∀ job ∈ batch, Settled job.name s'.view.schedulerJobs := by
  induction h with
  | nil s => simp
  | @success job jobs outcomes s s₁ s' hjob hrest ih =>
    have hjobs := executeClaimedSchedulerJob_jobs env job now s
    rw [hjob] at hjobs
    have hs₁ := hs.jobs hjobs
    intro j hj
    rcases List.mem_cons.1 hj with rfl | hj
    · have hsettled := executeClaimedSchedulerJob_settles hs.current (hfiled j (by simp)) hjob
      exact hsettled.jobs hrest.jobs hs₁.current
    · exact ih (fun j hj => hfiled j (by simp [hj])) (fun j hj => hname j (by simp [hj])) hs₁ j hj
  | @failure job jobs outcomes s s₁ s' e hjob hrest ih =>
    have hjobs := executeClaimedSchedulerJob_jobs env job now s
    rw [hjob] at hjobs
    have hs₁ := hs.jobs hjobs
    have hs₂ := hs₁.jobs (released_jobs now job s₁)
    intro j hj
    rcases List.mem_cons.1 hj with rfl | hj
    · have hsettled := failed_settles now hs₁ (hname j (by simp))
      exact hsettled.jobs hrest.jobs hs₂.current
    · exact ih (fun j hj => hfiled j (by simp [hj])) (fun j hj => hname j (by simp [hj])) hs₂ j hj

end

/-! ## A whole pass -/

/-- The jobs as the library files them: one job under a key, and jobs of
instances that exist. -/
structure JobTable (seq : Nat) (jobs : List SchedulerJob) : Prop where
  ids : (jobs.map (·.id)).Nodup
  names : (jobs.map (·.name)).Nodup
  filed : ∀ job ∈ jobs, job.Filed
  old : ∀ job ∈ jobs, ∀ i, job.processInstanceId = some i → i < seq

/-- Two jobs of one instance, or two jobs of one definition. -/
def SchedulerJob.SameSubject (a b : SchedulerJob) : Prop :=
  a.m8fTenantId = b.m8fTenantId ∧ a.processInstanceId = b.processInstanceId ∧
    (a.processInstanceId = none → a.bpmnProcessDefinitionId = b.bpmnProcessDefinitionId)

/-- The jobs of a batch that raised, with what they left. -/
def failures (outcomes : List (Option (String × Error))) : List (String × Error) := outcomes.filterMap id

/-- What comes out of a pass. -/
structure Reported (batch : List SchedulerJob) (outcomes : List (Option (String × Error))) (r : Except Error Nat) : Prop where
  all : failures outcomes = [] → r = .ok batch.length
  one : ∀ key e, failures outcomes = [(key, e)] → r = .error e
  many : 2 ≤ (failures outcomes).length → ∃ message, r = .error (.bpmnCore message) ∧
    ∀ failure ∈ failures outcomes, failure.1.toList <:+: message.toList

/-- A pass that settles every job of its batch. -/
structure Settles (env : Env W Ω) (now : Time) (limit : Int) (workerId : String) (tenantId : Option TenantId) (s : Tx Ω)
    (batch : List SchedulerJob) (outcomes : List (Option (String × Error))) (r : Except Error Nat) (s' : Tx Ω) : Prop where
  first : FirstDue s.view.schedulerJobs now limit.toNat tenantId batch
  attempts : Attempts env now batch ((claimDueSchedulerJobs now limit workerId tenantId).run s).2 outcomes s'
  settled : ∀ job ∈ batch, ∀ row ∈ s'.view.schedulerJobs, row.id = job.id ∨ row.name = job.name → row.Free
  apart : ∀ row ∈ s.view.schedulerJobs, (∀ job ∈ batch, ¬ job.SameSubject row) → row ∈ s'.view.schedulerJobs
  reported : Reported batch outcomes r

/-- Every part of a joined text is in it. -/
theorem joinWith_inside (sep : String) : ∀ (parts : List String) (part : String), part ∈ parts →
    part.toList <:+: (joinWith sep parts).toList
  | [], _, h => absurd h List.not_mem_nil
  | [p], part, h => by
    rw [List.mem_singleton.1 h]
    exact List.infix_rfl
  | p :: q :: ps, part, h => by
    rw [joinWith, String.toList_append, String.toList_append]
    rcases List.mem_cons.1 h with rfl | h
    · exact ⟨[], sep.toList ++ (joinWith sep (q :: ps)).toList, by simp⟩
    · exact (joinWith_inside sep (q :: ps) part h).trans (List.suffix_append _ _).isInfix

theorem buildSchedulerBatchError_names (errors : List (String × Error)) :
    ∃ message, buildSchedulerBatchError errors = .bpmnCore message ∧ ∀ e ∈ errors, e.1.toList <:+: message.toList := by
  refine ⟨_, rfl, fun e he => ?_⟩
  have hpart := joinWith_inside ", " (errors.map fun e => e.1 ++ ": " ++ e.2.typeName ++ ": " ++ e.2.message) _ (List.mem_map_of_mem he)
  refine List.IsInfix.trans ?_ (hpart.trans ?_)
  · simp only [String.toList_append, List.append_assoc]
    exact (List.prefix_append _ _).isInfix
  · simp only [toString, String.toList_append]
    exact ⟨_, [], by rw [List.append_nil]⟩

/-- How a pass ends. -/
theorem reported_of_attempts {now : Time} {batch : List SchedulerJob} {outcomes : List (Option (String × Error))}
    (h : Attempts env now batch s outcomes s') : ∃ r, ((match outcomes.filterMap id with
      | [] => pure outcomes.length
      | [(_, e)] => Prog.raise e
      | errors => Prog.raise (buildSchedulerBatchError errors) : M Ω Nat).run s') = (r, s') ∧ Reported batch outcomes r := by
  obtain ⟨message, hmessage, hnames⟩ := buildSchedulerBatchError_names (failures outcomes)
  rcases hfailures : outcomes.filterMap id with - | ⟨⟨key, e⟩, - | ⟨other, rest⟩⟩
  · refine ⟨_, rfl, fun _ => ?_, fun key e hone => ?_, fun hmany => ?_⟩
    · rw [h.length]
    · rw [failures, hfailures] at hone
      cases hone
    · rw [failures, hfailures] at hmany
      exact absurd hmany (by decide)
  · refine ⟨_, rfl, fun hnone => ?_, fun key e hone => ?_, fun hmany => ?_⟩
    · rw [failures, hfailures] at hnone
      cases hnone
    · rw [failures, hfailures] at hone
      cases hone
      rfl
    · rw [failures, hfailures] at hmany
      exact absurd hmany (by simp)
  · refine ⟨_, rfl, fun hnone => ?_, fun key e hone => ?_, fun _ => ⟨message, ?_, hnames⟩⟩
    · rw [failures, hfailures] at hnone
      cases hnone
    · rw [failures, hfailures] at hone
      cases hone
    · rw [← hmessage, failures, hfailures]

/-- The jobs once a batch is locked. -/
def lockedJobs (jobs batch : List SchedulerJob) (workerId : String) (now : Time) : List SchedulerJob :=
  updateWhere (fun j => batch.any (·.id == j.id)) ({ · with lockedBy := some (strip workerId), lockedAt := some now, updatedAt := now })
    jobs

theorem claimDueSchedulerJobs_run (now : Time) {limit : Int} {workerId : String} (tenantId : Option TenantId)
    (hlimit : 0 < limit) (hworker : strip workerId ≠ "") (s : Tx Ω) :
    (claimDueSchedulerJobs now limit workerId tenantId).run s =
      (.ok (dueSchedulerJobs s.view now limit.toNat tenantId),
        { s with
          view := { s.view with
            schedulerJobs := lockedJobs s.view.schedulerJobs (dueSchedulerJobs s.view now limit.toNat tenantId) workerId now } }) := by
  unfold claimDueSchedulerJobs listDueSchedulerJobs
  rw [if_neg (by simpa using hworker), if_neg (by omega)]
  rfl

/-- A row of the locked table has the id and the key it had. -/
theorem lockedJobs_mem {jobs batch : List SchedulerJob} {workerId : String} {now : Time} {row : SchedulerJob}
    (h : row ∈ lockedJobs jobs batch workerId now) : ∃ row₀ ∈ jobs, row.id = row₀.id ∧ row.name = row₀.name := by
  obtain ⟨row₀, hrow₀, rfl⟩ := mem_updateWhere.1 h
  refine ⟨row₀, hrow₀, ?_⟩
  split <;> exact ⟨rfl, rfl⟩

theorem lockedJobs_kept {jobs batch : List SchedulerJob} {workerId : String} {now : Time} {row : SchedulerJob} (h : row ∈ jobs)
    (hout : ∀ job ∈ batch, row.id ≠ job.id) : row ∈ lockedJobs jobs batch workerId now := by
  refine mem_updateWhere.2 ⟨row, h, ?_⟩
  rw [if_neg]
  rintro hany
  obtain ⟨job, hjob, hid⟩ := List.any_eq_true.1 hany
  exact hout job hjob (beq_iff_eq.1 hid).symm

section
variable {seq : Nat} {jobs : List SchedulerJob}

theorem JobTable.eq_of_id (h : JobTable seq jobs) {a b : SchedulerJob} (ha : a ∈ jobs) (hb : b ∈ jobs) (hid : a.id = b.id) : a = b :=
  List.inj_on_of_nodup_map h.ids ha hb hid

theorem JobTable.eq_of_name (h : JobTable seq jobs) {a b : SchedulerJob} (ha : a ∈ jobs) (hb : b ∈ jobs) (hname : a.name = b.name) :
    a = b := List.inj_on_of_nodup_map h.names ha hb hname

/-- What a batch may write of the jobs that are there belongs to an instance or a
definition of the batch. -/
theorem JobTable.subject (h : JobTable seq jobs) {batch : List SchedulerJob} (hbatch : ∀ job ∈ batch, job ∈ jobs) {row : SchedulerJob}
    (hrow : row ∈ jobs) (hreach : BatchReaches seq batch row) : ∃ job ∈ batch, job.SameSubject row := by
  obtain ⟨job, hjob, hreach⟩ := hreach
  refine ⟨job, hjob, ?_⟩
  rcases hreach with (hname | ⟨i, hi, htenant, hof⟩) | hid
  · rw [h.eq_of_name hrow (hbatch job hjob) hname]
    exact ⟨rfl, rfl, fun _ => rfl⟩
  · have hrowi := (h.filed row hrow).instance hof
    rcases hi with hi | hseq
    · refine ⟨htenant.symm, by rw [hi, hrowi], fun hnone => ?_⟩
      rw [hi] at hnone
      cases hnone
    · exact absurd (h.old row hrow i hrowi) (by omega)
  · rw [h.eq_of_id hrow (hbatch job hjob) hid]
    exact ⟨rfl, rfl, fun _ => rfl⟩

end

theorem runDueSchedulerJobs_attempts (env : Env W Ω) (now : Option Time) {limit : Int} {workerId : String}
    (tenantId : Option TenantId) (hlimit : 0 < limit) (hworker : strip workerId ≠ "") (s : Tx Ω) {t : Time}
    (ht : now.getD (env.now s.world) = t) :
    ∃ outcomes r s', (runDueSchedulerJobs env now limit workerId tenantId).run s = (r, s') ∧
      Attempts env t (dueSchedulerJobs s.view t limit.toNat tenantId)
        ((claimDueSchedulerJobs t limit workerId tenantId).run s).2 outcomes s' ∧
      Reported (dueSchedulerJobs s.view t limit.toNat tenantId) outcomes r := by
  have hclaim := claimDueSchedulerJobs_run t tenantId hlimit hworker s
  rw [hclaim]
  obtain ⟨outcomes, s', hrun, hattempts⟩ := mapEach_attempts env t (dueSchedulerJobs s.view t limit.toNat tenantId) _
  obtain ⟨r, hend, hreported⟩ := reported_of_attempts hattempts
  refine ⟨outcomes, r, s', ?_, hattempts, hreported⟩
  unfold runDueSchedulerJobs resolveTimestamp
  rw [Prog.gets_bind_run, ht, Prog.bind_run_ok hclaim, Prog.bind_run_ok hrun]
  exact hend

theorem runDueSchedulerJobs_refused (env : Env W Ω) (now : Option Time) {limit : Int} {workerId : String}
    (tenantId : Option TenantId) (hbad : limit ≤ 0 ∨ strip workerId = "") (s : Tx Ω) : ∃ message,
      (runDueSchedulerJobs env now limit workerId tenantId).run s = (.error (.validation message), s) := by
  unfold runDueSchedulerJobs resolveTimestamp claimDueSchedulerJobs
  rw [Prog.gets_bind_run]
  by_cases hworker : strip workerId = ""
  · rw [if_pos (by simp [hworker])]
    exact ⟨_, rfl⟩
  · rw [if_neg (by simpa using hworker), listDueSchedulerJobs, if_pos (hbad.resolve_right hworker)]
    exact ⟨_, rfl⟩

/-- A pass with a positive limit and a worker attempts the first due jobs and
leaves none of them locked; any other pass is refused and does nothing. -/
theorem claimed_jobs_settled (env : Env W Ω) (now : Option Time) (limit : Int) (workerId : String) (tenantId : Option TenantId)
    (s : Tx Ω) (hcurrent : s.JobsCurrent) (htable : JobTable s.seq s.view.schedulerJobs) :
    (0 < limit → strip workerId ≠ "" → ∃ batch outcomes r s',
      (runDueSchedulerJobs env now limit workerId tenantId).run s = (r, s') ∧
      Settles env (now.getD (env.now s.world)) limit workerId tenantId s batch outcomes r s') ∧
    ((limit ≤ 0 ∨ strip workerId = "") → ∃ message,
      (runDueSchedulerJobs env now limit workerId tenantId).run s = (.error (.validation message), s)) := by
  refine ⟨fun hlimit hworker => ?_, fun hbad => runDueSchedulerJobs_refused env now tenantId hbad s⟩
  obtain ⟨outcomes, r, s', hrun, hattempts, hreported⟩ := runDueSchedulerJobs_attempts env now tenantId hlimit hworker s rfl
  set t := now.getD (env.now s.world)
  set batch := dueSchedulerJobs s.view t limit.toNat tenantId
  have hfirst : FirstDue s.view.schedulerJobs t limit.toNat tenantId batch := dueSchedulerJobs_first htable.ids _ _ _
  have hmem : ∀ job ∈ batch, job ∈ s.view.schedulerJobs := fun job hjob => (hfirst.due job hjob).1
  have hattempts' := hattempts
  rw [claimDueSchedulerJobs_run t tenantId hlimit hworker s] at hattempts'
  have hname : ∀ job ∈ batch, ∀ row ∈ lockedJobs s.view.schedulerJobs batch workerId t, row.name = job.name → row.id = job.id := by
    intro job hjob row hrow hname
    obtain ⟨row₀, hrow₀, hid₀, hname₀⟩ := lockedJobs_mem hrow
    rw [hid₀, htable.eq_of_name hrow₀ (hmem job hjob) (hname₀.symm.trans hname)]
  have hid : ∀ job ∈ batch, ∀ row ∈ lockedJobs s.view.schedulerJobs batch workerId t, row.id = job.id → row.name = job.name := by
    intro job hjob row hrow hid
    obtain ⟨row₀, hrow₀, hid₀, hname₀⟩ := lockedJobs_mem hrow
    rw [hname₀, htable.eq_of_id hrow₀ (hmem job hjob) (hid₀.symm.trans hid)]
  have hpassing : Passing (lockedJobs s.view.schedulerJobs batch workerId t)
      { s with view := { s.view with schedulerJobs := lockedJobs s.view.schedulerJobs batch workerId t } } :=
    ⟨hcurrent, fun row hrow => .inl hrow⟩
  have hsettled := hattempts'.settles (fun job hjob => htable.filed job (hmem job hjob)) hname hpassing
  refine ⟨batch, outcomes, r, s', hrun, hfirst, hattempts, fun job hjob row hrow hsame => ?_, fun row hrow happart => ?_, hreported⟩
  · rcases hsame with hsame | hsame
    · rcases (hpassing.jobs hattempts'.jobs).rows row hrow with hlocked | hfree
      · exact hsettled job hjob row hrow (hid job hjob row hlocked hsame)
      · exact hfree
    · exact hsettled job hjob row hrow hsame
  · have hout : ¬ BatchReaches s.seq batch row := by
      intro hreach
      obtain ⟨job, hjob, hsame⟩ := htable.subject hmem hrow hreach
      exact happart job hjob hsame
    refine ((hattempts'.jobs.moved hcurrent).mem hout).2 (lockedJobs_kept hrow fun job hjob hid => ?_)
    exact hout ⟨job, hjob, .inr hid⟩

end

/-! A due job of an instance that is not there. -/

namespace Sample

def orphanJob : SchedulerJob :=
  ⟨3, "t", instanceJobKey .intermediateTimer 2, .intermediateTimer, some 2, none, none, none, 0, [], 0, 0⟩

def orphanSession : Tx Bool := (Store.mk 10 { db₀ with schedulerJobs := [orphanJob] }).session true

end Sample

theorem claimed_jobs_settled_orphan : ∃ batch outcomes r s',
    (runDueSchedulerJobs Sample.env (some 0) 1 "inline" none).run Sample.orphanSession = (r, s') ∧
    Settles Sample.env 0 1 "inline" none Sample.orphanSession batch outcomes r s' := by
  refine (claimed_jobs_settled Sample.env (some 0) 1 "inline" none Sample.orphanSession rfl ?_).1 (by decide) (by decide)
  refine ⟨by decide, by decide, ?_, ?_⟩
  · intro job hjob
    rw [List.mem_singleton.1 hjob]
    exact .inr ⟨2, by decide, rfl, rfl⟩
  · intro job hjob i hi
    rw [List.mem_singleton.1 hjob] at hi
    obtain rfl := Option.some.inj hi
    decide

/-- A limit of zero is refused, although there is nothing to fail. -/
theorem zero_limit_refused : ¬ ∃ batch outcomes r s',
    (runDueSchedulerJobs Sample.env (some 0) 0 "inline" none).run Sample.orphanSession = (r, s') ∧
    Settles Sample.env 0 0 "inline" none Sample.orphanSession batch outcomes r s' := by
  rintro ⟨batch, outcomes, r, s', hrun, h⟩
  obtain rfl := List.eq_nil_of_length_eq_zero (Nat.le_zero.1 h.first.few)
  have hnone : failures outcomes = [] := by
    cases h.attempts
    rfl
  have hr := h.reported.all hnone
  rw [hr] at hrun
  cases congrArg Prod.fst hrun

end M8flowCore
