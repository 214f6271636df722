import M8flowCore.Rollbacks
import M8flowCore.Saving
/-!
# What is written to the jobs

A service function writes few jobs: the ones it names. Whatever it writes is
unlocked. Sessions of the library's own never write a job, so that showing the
caller what they committed leaves the jobs alone too.
-/
open M8flowCore.Lib M8flowCore.Session

namespace M8flowCore

/-- A tenant has one job under a key. -/
def SchedulerJob.name (job : SchedulerJob) : TenantId × String := (job.m8fTenantId, job.jobKey)

/-- No worker has the job. -/
def SchedulerJob.Free (job : SchedulerJob) : Prop := job.lockedBy = none ∧ job.lockedAt = none

/-- Only jobs of `K` were written, and what was written is free. -/
structure JobsMoved (K : SchedulerJob → Prop) (jobs jobs' : List SchedulerJob) : Prop where
  kept : ∀ p : SchedulerJob → Bool, (∀ job, p job = true → ¬ K job) → jobs'.filter p = jobs.filter p
  free : ∀ job ∈ jobs', job ∈ jobs ∨ job.Free

section
variable {K K' : SchedulerJob → Prop} {jobs jobs' jobs'' : List SchedulerJob}

theorem JobsMoved.refl (jobs : List SchedulerJob) : JobsMoved K jobs jobs := ⟨fun _ _ => rfl, fun _ h => .inl h⟩

theorem JobsMoved.trans (h : JobsMoved K jobs jobs') (h' : JobsMoved K jobs' jobs'') : JobsMoved K jobs jobs'' := by
  refine ⟨fun p hp => (h'.kept p hp).trans (h.kept p hp), fun job hjob => ?_⟩
  rcases h'.free job hjob with hold | hfree
  · exact h.free job hold
  · exact .inr hfree

theorem JobsMoved.mono (hK : ∀ job, K job → K' job) (h : JobsMoved K jobs jobs') : JobsMoved K' jobs jobs' :=
  ⟨fun p hp => h.kept p fun job hjob hin => hp job hjob (hK _ hin), h.free⟩

/-- A job that is not in `K` is the same before and after. -/
theorem JobsMoved.mem (h : JobsMoved K jobs jobs') {job : SchedulerJob} (hK : ¬ K job) : job ∈ jobs' ↔ job ∈ jobs := by
  have hsame := h.kept (fun job' => decide (job' = job)) (by
    intro job' hjob'
    rw [of_decide_eq_true hjob']
    exact hK)
  have hmem : job ∈ jobs'.filter (fun job' => decide (job' = job)) ↔ job ∈ jobs.filter fun job' => decide (job' = job) := by
    rw [hsame]
  simpa using hmem

end

/-- The keys of the job table: ids are handed out in order, and a tenant has one
job under a key. -/
structure JobKeys (seq : Nat) (jobs : List SchedulerJob) : Prop where
  ids : (jobs.map (·.id)).Nodup
  names : (jobs.map (·.name)).Nodup
  old : ∀ job ∈ jobs, job.id < seq

section
variable {seq seq' : Nat} {jobs jobs' : List SchedulerJob}

theorem JobKeys.mono (h : JobKeys seq jobs) (hseq : seq ≤ seq') : JobKeys seq' jobs :=
  ⟨h.ids, h.names, fun job hjob => (h.old job hjob).trans_le hseq⟩

theorem JobKeys.sublist (h : JobKeys seq jobs) (hjobs : jobs'.Sublist jobs) : JobKeys seq jobs' :=
  ⟨h.ids.sublist (hjobs.map _), h.names.sublist (hjobs.map _), fun job hjob => h.old job (hjobs.subset hjob)⟩

theorem JobKeys.update (h : JobKeys seq jobs) {p : SchedulerJob → Bool} {f : SchedulerJob → SchedulerJob}
    (hid : ∀ job, (f job).id = job.id) (hname : ∀ job, (f job).name = job.name) : JobKeys seq (updateWhere p f jobs) := by
  refine ⟨?_, ?_, fun job hjob => ?_⟩
  · rw [map_updateWhere hid]
    exact h.ids
  · rw [map_updateWhere hname]
    exact h.names
  · obtain ⟨job₀, hjob₀, rfl⟩ := mem_updateWhere.1 hjob
    split
    · rw [hid]
      exact h.old job₀ hjob₀
    · exact h.old job₀ hjob₀

theorem JobKeys.insert (h : JobKeys seq jobs) {job : SchedulerJob} (hid : job.id = seq) (hname : ∀ other ∈ jobs, other.name ≠ job.name) :
    JobKeys (seq + 1) (jobs ++ [job]) := by
  refine ⟨?_, ?_, fun other hother => ?_⟩
  · rw [List.map_append]
    refine List.nodup_append'.2 ⟨h.ids, by simp, List.disjoint_singleton.2 fun hin => ?_⟩
    obtain ⟨other, hother, hsame⟩ := List.mem_map.1 hin
    have hlt := h.old other hother
    dsimp only at hsame
    omega
  · rw [List.map_append]
    refine List.nodup_append'.2 ⟨h.names, by simp, List.disjoint_singleton.2 fun hin => ?_⟩
    obtain ⟨other, hother, hsame⟩ := List.mem_map.1 hin
    exact hname other hother hsame
  · rcases List.mem_append.1 hother with hother | hother
    · exact (h.old other hother).trans (Nat.lt_succ_self _)
    · rw [List.mem_singleton.1 hother, hid]
      exact Nat.lt_succ_self _

end

section
variable {W Ω α : Type} {env : Env W Ω} {F : Focus} {L : List Touch} {s s' : Tx Ω} {K K' : SchedulerJob → Prop}
  {pi : ProcessInstance} {w : W}

/-- Nobody has written, since the session read them, to the jobs. -/
def Tx.JobsCurrent (s : Tx Ω) : Prop := s.base.schedulerJobs = s.committed.schedulerJobs

/-- What a call does to the jobs. -/
structure Jobs (K : SchedulerJob → Prop) (s s' : Tx Ω) : Prop where
  seq : s.seq ≤ s'.seq
  standing : s'.committed.schedulerJobs = s.committed.schedulerJobs
  current : s.JobsCurrent → s'.JobsCurrent
  moved : s.JobsCurrent → JobsMoved K s.view.schedulerJobs s'.view.schedulerJobs
  keyed : s.JobsCurrent → JobKeys s.seq s.view.schedulerJobs → JobKeys s'.seq s'.view.schedulerJobs

/-- What leaves the jobs as they are. -/
theorem Jobs.same (hseq : s.seq ≤ s'.seq) (hstanding : s'.committed.schedulerJobs = s.committed.schedulerJobs) (hcurrent : s.JobsCurrent → s'.JobsCurrent)
    (h : s.JobsCurrent → s'.view.schedulerJobs = s.view.schedulerJobs) : Jobs K s s' := by
  refine ⟨hseq, hstanding, hcurrent, fun hs => ?_, fun hs hkeyed => ?_⟩
  · rw [h hs]
    exact .refl _
  · rw [h hs]
    exact hkeyed.mono hseq

theorem frame_jobs : Prog.Frame (Jobs (Ω := Ω) K) where
  refl _ := .same (le_refl _) rfl id fun _ => rfl
  trans h₁ h₂ := ⟨h₁.seq.trans h₂.seq, h₂.standing.trans h₁.standing, fun h => h₂.current (h₁.current h), fun h => (h₁.moved h).trans (h₂.moved (h₁.current h)),
    fun h hkeyed => h₂.keyed (h₁.current h) (h₁.keyed h hkeyed)⟩

theorem Jobs.mono (hK : ∀ job, K job → K' job) (h : Jobs K s s') : Jobs K' s s' :=
  ⟨h.seq, h.standing, h.current, fun hs => (h.moved hs).mono hK, h.keyed⟩

theorem jobs_of_readOnly {m : M Ω α} (h : m.ReadOnly) : m.Keeps (Jobs K) := h.keeps frame_jobs

theorem pure_jobs (a : α) : (pure a : M Ω α).Keeps (Jobs K) := Prog.keeps_pure frame_jobs a

theorem raise_jobs (e : Error) : (Prog.raise e : M Ω α).Keeps (Jobs K) := Prog.keeps_raise frame_jobs e

theorem query_jobs (f : Db → α) : (query (Ω := Ω) f).Keeps (Jobs K) := Prog.keeps_gets frame_jobs _

theorem ofExcept_jobs (r : Except Error α) : (ofExcept (Ω := Ω) r).Keeps (Jobs K) := jobs_of_readOnly (ofExcept_readOnly r)

variable (env) in
theorem resolveTimestamp_jobs (t : Option Time) : (resolveTimestamp env t).Keeps (Jobs K) := Prog.keeps_gets frame_jobs _

/-- A footprint without jobs. -/
def Quiet (L : List Touch) : Prop := .job ∉ L ∧ .startJob ∉ L ∧ .lock ∉ L

instance : Decidable (Quiet L) := inferInstanceAs (Decidable (_ ∧ _))

variable (env) in
theorem jobs_of_touches (hL : Quiet L) {m : M Ω α} (h : Touches (Change env F) L m) : m.Keeps (Jobs K) := by
  intro s
  obtain ⟨hbase, hcommitted⟩ := committed_of_steps (h s)
  refine .same (seq_of_steps (h s)) (congrArg _ hcommitted) (fun hs => ?_) fun _ => schedulerJobs_of_steps hL.1 hL.2.1 hL.2.2 (h s)
  unfold Tx.JobsCurrent
  rw [hbase, hcommitted]
  exact hs

theorem write_jobs {f : Db → Db} (h : ∀ db, (f db).schedulerJobs = db.schedulerJobs) : (write (Ω := Ω) f).Keeps (Jobs K) :=
  fun s => .same (le_refl _) rfl id fun _ => h s.view

theorem insert_jobs {f : Nat → Db → Db} (h : ∀ id db, (f id db).schedulerJobs = db.schedulerJobs) :
    (Session.insert (Ω := Ω) f).Keeps (Jobs K) := fun s => .same (Nat.le_succ _) rfl id fun _ => h s.seq s.view

theorem ask_jobs (f : Ω → α × Ω) : (ask f).Keeps (Jobs K) := fun _ => .same (le_refl _) rfl id fun _ => rfl

theorem upsertSchedulerJob_moved {tenantId : TenantId} {jobKey : String}
    (hK : ∀ job : SchedulerJob, job.name = (tenantId, jobKey) → K job) (v : JobValues)
    (occurredAt : Time) (createdAt : Option Time) :
    (upsertSchedulerJob (Ω := Ω) tenantId jobKey v occurredAt createdAt).Keeps fun s s' =>
      JobsMoved K s.view.schedulerJobs s'.view.schedulerJobs := by
  intro s
  unfold upsertSchedulerJob query
  rw [Prog.gets_bind_run]
  dsimp only
  cases s.view.schedulerJob? tenantId jobKey with
  | none =>
    refine ⟨fun p hp => ?_, fun job hjob => ?_⟩
    · dsimp only [Session.insert, nextId, write, Prog.pure_run]
      refine (List.filter_append _ _).trans ?_
      rw [List.filter_cons_of_neg, List.filter_nil, List.append_nil]
      exact fun h => hp _ h (hK _ rfl)
    · rcases List.mem_append.1 hjob with hjob | hjob
      · exact .inl hjob
      · rw [List.mem_singleton.1 hjob]
        exact .inr ⟨rfl, rfl⟩
  | some job =>
    refine ⟨fun p hp => ?_, fun job hjob => ?_⟩
    · refine filter_updateWhere fun job _ hjob => ?_
      simp only [Bool.and_eq_true, beq_iff_eq] at hjob
      have hname : job.name = (tenantId, jobKey) := by rw [SchedulerJob.name, hjob.1, hjob.2]
      exact ⟨Bool.eq_false_iff.2 fun h => hp _ h (hK _ hname), Bool.eq_false_iff.2 fun h => hp _ h (hK _ hname)⟩
    · obtain ⟨job₀, hjob₀, rfl⟩ := mem_updateWhere.1 hjob
      split
      · exact .inr ⟨rfl, rfl⟩
      · exact .inl hjob₀

theorem upsertSchedulerJob_moves {tenantId : TenantId} {jobKey : String}
    (hK : ∀ job : SchedulerJob, job.name = (tenantId, jobKey) → K job) (v : JobValues)
    (occurredAt : Time) (createdAt : Option Time) :
    (upsertSchedulerJob (Ω := Ω) tenantId jobKey v occurredAt createdAt).Keeps (Jobs K) := by
  intro s
  have hmoved := upsertSchedulerJob_moved hK v occurredAt createdAt s
  revert hmoved
  unfold upsertSchedulerJob query
  rw [Prog.gets_bind_run]
  dsimp only
  cases hfound : s.view.schedulerJob? tenantId jobKey with
  | none =>
    refine fun hmoved => ⟨Nat.le_succ _, rfl, id, fun _ => hmoved, fun _ hkeyed => hkeyed.insert rfl fun job hjob hname => ?_⟩
    obtain ⟨htenant, hkey⟩ := Prod.mk.inj hname
    have := List.find?_eq_none.1 hfound job hjob
    simp [htenant, hkey] at this
  | some job => exact fun hmoved => ⟨le_refl _, rfl, id, fun _ => hmoved, fun _ hkeyed => hkeyed.update (fun _ => rfl) fun _ => rfl⟩

theorem deleteSchedulerJob_moved {tenantId : TenantId} {jobKey : String}
    (hK : ∀ job : SchedulerJob, job.name = (tenantId, jobKey) → K job) :
    (deleteSchedulerJob (Ω := Ω) tenantId jobKey).Keeps fun s s' =>
      JobsMoved K s.view.schedulerJobs s'.view.schedulerJobs := by
  refine fun s => ⟨fun p hp => ?_, fun job hjob => .inl (List.mem_filter.1 hjob).1⟩
  refine (List.filter_filter).trans (List.filter_congr fun job _ => ?_)
  cases hpjob : p job with
  | false => rfl
  | true =>
    have hne : ¬ (job.m8fTenantId = tenantId ∧ job.jobKey = jobKey) := by
      rintro ⟨rfl, rfl⟩
      exact hp job hpjob (hK job rfl)
    rw [not_and_or] at hne
    simpa using hne

theorem deleteSchedulerJob_moves {tenantId : TenantId} {jobKey : String}
    (hK : ∀ job : SchedulerJob, job.name = (tenantId, jobKey) → K job) :
    (deleteSchedulerJob (Ω := Ω) tenantId jobKey).Keeps (Jobs K) := fun s =>
  ⟨le_refl _, rfl, id, fun _ => deleteSchedulerJob_moved hK s, fun _ hkeyed => hkeyed.sublist List.filter_sublist⟩

/-! ## Sessions of the library's own -/

theorem fork_current (s : Tx Ω) : s.fork.JobsCurrent := rfl

/-- A second session that leaves the jobs alone. -/
theorem independently_jobs {m : M Ω α} (h : m.Keeps (Jobs fun _ => False)) : (independently m).Keeps (Jobs K) := by
  intro s
  have hjobs := h s.fork
  rcases hrun : m.run s.fork with ⟨e | a, s₁⟩
  · rw [hrun] at hjobs
    rw [independently_error hrun]
    exact .same hjobs.seq rfl (fun hs => hs) fun _ => rfl
  · rw [hrun] at hjobs
    rw [independently_ok hrun]
    have hsame : s₁.view.schedulerJobs = s.committed.schedulerJobs := by
      have hkept := (hjobs.moved (fork_current s)).kept (fun _ => true) (fun _ _ h => h)
      rwa [List.filter_eq_self.2 (by simp), List.filter_eq_self.2 (by simp)] at hkept
    exact .same hjobs.seq hsame (fun hs => Eq.trans hs hsame.symm) fun _ => rfl

theorem merged_jobs (hs : s.JobsCurrent) : (Db.merge s.base s.view s.committed).schedulerJobs = s.view.schedulerJobs := by
  unfold Db.merge
  dsimp only
  rw [← hs]
  exact mergeTable_current (by simp [SchedulerJob.merge, pick_base])

theorem refresh_jobs : (refresh (Ω := Ω)).Keeps (Jobs K) := by
  intro s
  exact .same (le_refl _) rfl (fun _ => rfl) merged_jobs

/-! ## Saving and running a workflow -/

variable (env pi w) in
/-- What a save does after the snapshot, the rows and the job are stored. -/
theorem afterPersist_jobs (occurredAt : Time) (starting : Bool) : Prog.Keeps (Jobs K) (do
    syncInactiveWorkItems env pi w occurredAt
    materializeReadyManualTasks env pi w occurredAt
    if starting then updateInstance pi.id ({ · with startedAt := some occurredAt }) else pure ()
    updateProcessInstanceStatusFromWorkflow env pi w occurredAt : M Ω Unit) := by
  refine Prog.keeps_bind frame_jobs ?_ fun _ => Prog.keeps_bind frame_jobs ?_ fun _ => ?_
  · exact jobs_of_touches env (by decide) (syncInactiveWorkItems_touches pi.focus_of _ _ (List.Subset.refl _))
  · exact jobs_of_touches env (by decide) (materializeReadyManualTasks_touches pi.focus_of (pi.focus_covers w) _ (List.Subset.refl _))
  · have hend : (updateProcessInstanceStatusFromWorkflow env pi w occurredAt).Keeps (Jobs K) :=
      jobs_of_touches env (by decide) (updateProcessInstanceStatusFromWorkflow_touches pi.focus_of w _ (List.Subset.refl _))
    cases starting with
    | false => exact hend
    | true => exact Prog.keeps_bind frame_jobs (write_jobs fun _ => rfl) fun _ => hend

/-- The jobs under a tenant's keys for an instance. -/
def instanceJobs (tenantId : TenantId) (i : Nat) (job : SchedulerJob) : Prop := job.m8fTenantId = tenantId ∧ job.isOf i

theorem instanceJobs_of_name {tenantId : TenantId} {jobType : SchedulerJobType} {i : Nat} {job : SchedulerJob}
    (h : job.name = (tenantId, instanceJobKey jobType i)) : instanceJobs tenantId i job := by
  obtain ⟨htenant, hkey⟩ := Prod.mk.inj h
  exact ⟨htenant, jobType, hkey⟩

section
variable (hK : ∀ job, instanceJobs pi.m8fTenantId pi.id job → K job)
include hK

theorem syncIntermediateTimerSchedulerJob_jobs (w : W) (occurredAt : Time) :
    (syncIntermediateTimerSchedulerJob env pi w occurredAt).Keeps (Jobs K) := by
  have hname : ∀ job : SchedulerJob, job.name = (pi.m8fTenantId, instanceJobKey .intermediateTimer pi.id) → K job :=
    fun job hjob => hK job (instanceJobs_of_name hjob)
  refine Prog.keeps_bind frame_jobs (ofExcept_jobs _) fun payloads => ?_
  split
  · exact deleteSchedulerJob_moves hname
  · exact upsertSchedulerJob_moves hname _ _ _

theorem persistWorkflowState_jobs (w : W) (occurredAt : Time) :
    (persistWorkflowState env pi w occurredAt).Keeps (Jobs K) := by
  have hw : pi.focus.Covers env w := pi.focus_covers w
  refine Prog.keeps_bind_of frame_jobs (ofExcept_jobs _) fun serializedState hstate => ?_
  have hstate : env.serializeJson w = .ok serializedState := by
    obtain ⟨s, s', hrun⟩ := hstate
    exact (ofExcept_ok hrun).1
  refine Prog.keeps_bind frame_jobs (write_jobs fun _ => rfl) fun _ => ?_
  refine Prog.keeps_bind frame_jobs ?_ fun _ => Prog.keeps_bind frame_jobs ?_ fun _ => Prog.keeps_bind frame_jobs ?_ fun _ => ?_
  · exact jobs_of_touches env (F := pi.focus) (by decide)
      (syncProcessDefinitionFromWorkflow_touches _ _ _ (List.Subset.refl _))
  · exact jobs_of_touches env (by decide) (syncBpmnProcessFromWorkflow_touches pi.focus_of (hw.stored _ · hstate) (List.Subset.refl _))
  · exact jobs_of_touches env (by decide) (syncTaskModelsFromWorkflow_touches pi.focus_of _ _ hw.rows (List.Subset.refl _))
  · exact syncIntermediateTimerSchedulerJob_jobs hK w occurredAt

theorem saveWorkflow_jobs (w : W) (occurredAt : Time) (starting : Bool) :
    (saveWorkflow env pi w occurredAt starting).Keeps (Jobs K) :=
  Prog.keeps_bind frame_jobs (persistWorkflowState_jobs hK w occurredAt) fun _ => afterPersist_jobs env pi w occurredAt starting

theorem transitionToError_jobs (tenantId : TenantId) (w : W) (occurredAt : Time) :
    (transitionToErrorForServiceTaskFailure env tenantId pi w occurredAt false).Keeps (Jobs K) := by
  have hend : Prog.Keeps (Jobs K) (enterError (Ω := Ω) env tenantId pi occurredAt) := by
    refine Prog.keeps_bind frame_jobs (write_jobs fun _ => rfl) fun _ => ?_
    refine Prog.keeps_bind frame_jobs (write_jobs fun _ => ?_) fun _ => ?_
    · split <;> rfl
    refine Prog.keeps_bind frame_jobs (write_jobs fun _ => rfl) fun _ => ?_
    exact jobs_of_touches env (F := pi.focus) (by decide) (errorProcessInstance_touches _ rfl _ _ (List.Subset.refl _))
  rw [transitionToErrorForServiceTaskFailure_eq]
  refine Prog.keeps_bind frame_jobs ?_ fun _ => Prog.keeps_bind frame_jobs ?_ fun _ => hend
  · refine Prog.keeps_bind frame_jobs (persistWorkflowState_jobs hK w occurredAt) fun _ => ?_
    exact jobs_of_touches env (by decide) (syncInactiveWorkItems_touches pi.focus_of _ _ (List.Subset.refl _))
  · exact jobs_of_touches env (F := pi.focus) (by decide) (recordTaskFailed_notes rfl _ (List.Subset.refl _))

end

variable (env) in
/-- A failure stored in a session of its own leaves the jobs alone. -/
theorem persistServiceTaskFailureState_jobs (tenantId : TenantId) (processInstanceId : Nat) (w : W) (occurredAt : Time) :
    (persistServiceTaskFailureState env tenantId processInstanceId w occurredAt).Keeps (Jobs K) := by
  refine Prog.keeps_bind frame_jobs (independently_jobs ?_) fun saved => ?_
  · refine Prog.keeps_bind frame_jobs (jobs_of_readOnly (loadProcessInstance_readOnly _ _)) fun pi => ?_
    exact jobs_of_touches env (by decide)
      (transitionToError_touches tenantId pi.focus_of (pi.focus_covers w) occurredAt true (List.Subset.refl failing) (by simp))
  · cases saved <;> exact pure_jobs _

section
variable (hK : ∀ job, instanceJobs pi.m8fTenantId pi.id job → K job)
include hK

theorem runWorkflow_jobs (tenantId : TenantId) (w : W) (occurredAt : Time) (autonomous : Bool) :
    (runWorkflowWithServiceTaskFailureHandling env tenantId pi w occurredAt autonomous).Keeps (Jobs K) := by
  have htransition : ∀ (w : W) (message : String), Prog.Keeps (Jobs K) (do
      transitionToErrorForServiceTaskFailure env tenantId pi w occurredAt false
      Prog.raise (.serviceTaskExecution message) : M Ω W) := fun w message =>
    Prog.keeps_bind frame_jobs (transitionToError_jobs hK _ _ _) fun _ => raise_jobs _
  refine Prog.keeps_bind frame_jobs (ask_jobs _) ?_
  rintro ⟨raised, w⟩
  dsimp only
  split
  · exact pure_jobs _
  · rename_i message
    cases autonomous with
    | false => exact htransition w message
    | true =>
      refine Prog.keeps_bind frame_jobs (persistServiceTaskFailureState_jobs env _ _ _ _) fun saved => ?_
      cases saved with
      | false => exact htransition w message
      | true => exact raise_jobs _
  · exact raise_jobs _

theorem finalizeInitializedWorkflow_jobs (tenantId : TenantId) (w : W) (occurredAt : Time) :
    (finalizeInitializedWorkflow env tenantId pi w occurredAt).Keeps (Jobs K) := by
  refine Prog.keeps_bind frame_jobs (saveWorkflow_jobs hK _ _ _) fun _ => Prog.keeps_bind frame_jobs (query_jobs _) fun guid => ?_
  exact jobs_of_touches env (F := pi.focus) (by decide) (recordProcessInstanceEvent_notes _ rfl rfl _ _ _ (List.Subset.refl _))

end

theorem recordProcessInstanceEvent_jobs (env : Env W Ω) (tenantId : TenantId) (processInstanceId : Nat) (eventType : EventType)
    (occurredAt : Time) (taskGuid : Option Guid) (userId : Option Nat) :
    (recordProcessInstanceEvent (Ω := Ω) tenantId processInstanceId eventType occurredAt taskGuid userId).Keeps (Jobs K) :=
  jobs_of_touches env (F := .on tenantId processInstanceId) (by decide)
    (recordProcessInstanceEvent_touches _ rfl _ _ _ _ (List.Subset.refl _))

variable (env) in
theorem syncOpenWorkItemPotentialOwners_jobs (tenantId : TenantId) (processInstanceId : Nat) (loaded : Option (List Nat)) :
    (syncOpenWorkItemPotentialOwners env tenantId processInstanceId loaded).Keeps (Jobs K) :=
  jobs_of_touches env (F := .on tenantId processInstanceId) (by decide)
    (syncOpenWorkItemPotentialOwners_touches _ _ _ (List.Subset.refl _))

/-- What is loaded for a tenant under an id has that tenant and that id. -/
theorem loaded_jobs {tenantId : TenantId} {i : Nat} (hK : ∀ job, instanceJobs tenantId i job → K job)
    {pi : ProcessInstance} (h : ∃ s s' : Tx Ω, (loadProcessInstance tenantId i).run s = (.ok pi, s')) :
    ∀ job, instanceJobs pi.m8fTenantId pi.id job → K job := by
  obtain ⟨s, s', hload⟩ := h
  obtain ⟨-, -, htenant, hid⟩ := loadProcessInstance_ok hload
  rw [htenant, hid]
  exact hK

section
variable {tenantId : TenantId} {i : Nat} (hK : ∀ job, instanceJobs tenantId i job → K job)
include hK

theorem refreshWaitingProcessInstanceWorkflow_jobs (occurredAt : Option Time) :
    (refreshWaitingProcessInstanceWorkflow env tenantId i occurredAt).Keeps (Jobs K) := by
  refine Prog.keeps_bind_of frame_jobs (jobs_of_readOnly (loadProcessInstance_readOnly _ _)) fun pi hload => ?_
  have hpi := loaded_jobs hK hload
  refine Prog.keeps_bind frame_jobs (query_jobs _) fun state => ?_
  cases state with
  | none => exact pure_jobs _
  | some state =>
    dsimp only
    split
    · exact pure_jobs _
    · refine Prog.keeps_bind frame_jobs (resolveTimestamp_jobs env _) fun timestamp => ?_
      refine Prog.keeps_bind frame_jobs (ofExcept_jobs _) fun w => ?_
      refine Prog.keeps_bind frame_jobs (ask_jobs _) fun refreshed => ?_
      refine Prog.keeps_bind frame_jobs (jobs_of_readOnly (orRaised_readOnly _)) fun w => ?_
      exact Prog.keeps_bind frame_jobs (runWorkflow_jobs hpi _ _ _ _) fun w => saveWorkflow_jobs hpi _ _ _

theorem retryErroredServiceTaskWorkflowIfNeeded_jobs (occurredAt : Option Time) :
    (retryErroredServiceTaskWorkflowIfNeeded env tenantId i occurredAt).Keeps (Jobs K) := by
  refine Prog.keeps_bind_of frame_jobs (jobs_of_readOnly (loadProcessInstance_readOnly _ _)) fun pi hload => ?_
  have hpi := loaded_jobs hK hload
  refine Prog.keeps_bind frame_jobs (query_jobs _) fun state => ?_
  cases state with
  | none => exact pure_jobs _
  | some state =>
    refine Prog.keeps_bind frame_jobs (resolveTimestamp_jobs env _) fun timestamp => ?_
    refine Prog.keeps_bind frame_jobs (ofExcept_jobs _) fun w => ?_
    refine Prog.keeps_bind frame_jobs (jobs_of_readOnly (loadProcessInstanceMetadataPayload_readOnly _ _)) fun metadata => ?_
    dsimp only
    split
    · exact pure_jobs _
    · refine Prog.keeps_bind frame_jobs (jobs_of_readOnly (orRaised_readOnly _)) fun w => ?_
      exact Prog.keeps_bind frame_jobs (runWorkflow_jobs hpi _ _ _ _) fun w => saveWorkflow_jobs hpi _ _ _

theorem retryProcessInstance_jobs (userId : Nat) (at_ : Option Time) :
    (retryProcessInstance env tenantId i userId at_).Keeps (Jobs K) := by
  have hretry : ∀ t, (retryErroredServiceTaskWorkflowIfNeeded env tenantId i t).Keeps (Jobs K) :=
    retryErroredServiceTaskWorkflowIfNeeded_jobs hK
  refine Prog.keeps_bind frame_jobs (jobs_of_readOnly (openProcessInstanceCommand_readOnly _ _ _ _)) fun pi => ?_
  split
  · exact raise_jobs _
  · refine Prog.keeps_bind frame_jobs (resolveTimestamp_jobs env _) fun occurredAt => ?_
    refine Prog.keeps_bind frame_jobs (write_jobs fun _ => rfl) fun _ => ?_
    refine Prog.keeps_bind frame_jobs (query_jobs _) fun loaded => ?_
    refine Prog.keeps_bind frame_jobs (write_jobs fun _ => rfl) fun _ => ?_
    refine Prog.keeps_bind frame_jobs (hretry _) fun _ => ?_
    refine Prog.keeps_bind frame_jobs (deleteSchedulerJob_moves fun job hjob => hK job (instanceJobs_of_name hjob)) fun _ => ?_
    refine Prog.keeps_bind frame_jobs (recordProcessInstanceEvent_jobs env _ _ _ _ _ _) fun _ => ?_
    refine Prog.keeps_bind frame_jobs (hretry _) fun _ => ?_
    exact syncOpenWorkItemPotentialOwners_jobs env _ _ _

end

/-! ## Starting an instance from a timer -/

variable (env) in
theorem prepareProcessInstanceInSession_jobs (tenantId : TenantId) (definition : BpmnProcessDefinition)
    (modelIdentifier : String) (args : StartArgs) :
    (prepareProcessInstanceInSession env tenantId definition modelIdentifier args).Keeps (Jobs K) := by
  refine Prog.keeps_bind frame_jobs (Prog.keeps_orRaise frame_jobs _ _) fun bpmnXml => ?_
  refine Prog.keeps_bind frame_jobs (ofExcept_jobs _) fun selected => ?_
  refine Prog.keeps_bind frame_jobs ?_ fun processId => ?_
  · refine Prog.keeps_bind frame_jobs ?_ fun hash => insert_jobs fun _ _ => rfl
    exact jobs_of_touches env (F := .on tenantId 0) (by decide) (createOrUpdateFromPayload_touches _ _ (List.Subset.refl _))
  refine Prog.keeps_bind frame_jobs ?_ fun instanceId => ?_
  · refine Prog.keeps_bind frame_jobs (jobs_of_readOnly (ensureUserBelongsToTenant_readOnly _ _)) fun _ => ?_
    exact Prog.keeps_bind frame_jobs (resolveTimestamp_jobs env _) fun _ => insert_jobs fun _ _ => rfl
  refine Prog.keeps_bind frame_jobs ?_ fun _ => pure_jobs _
  exact jobs_of_touches env (F := .on tenantId instanceId) (by decide) (stampProcessInstance_touches _ _ _ _ _ rfl (List.Subset.refl _))

variable (env) in
theorem prepareCommittedProcessInstance_jobs (tenantId : TenantId) (definitionId : Nat) (modelIdentifier : String)
    (args : StartArgs) :
    (prepareCommittedProcessInstance env tenantId definitionId modelIdentifier args).Keeps (Jobs K) := by
  refine Prog.keeps_bind frame_jobs (Prog.keeps_attempt frame_jobs ?_ fun e => ?_) fun found => ?_
  · refine Prog.keeps_bind frame_jobs (jobs_of_readOnly (loadProcessDefinition_readOnly _ _)) fun committed => ?_
    exact Prog.keeps_bind frame_jobs (jobs_of_readOnly (ensureUserBelongsToTenant_readOnly _ _)) fun _ => pure_jobs _
  · split
    · exact pure_jobs _
    · exact raise_jobs _
  · cases found with
    | none => exact pure_jobs _
    | some committed =>
      exact Prog.keeps_bind frame_jobs (prepareProcessInstanceInSession_jobs env _ _ _ _) fun _ => pure_jobs _

variable (env) in
theorem prepareProcessInstanceBaseline_jobs (tenantId : TenantId) (definition : BpmnProcessDefinition)
    (modelIdentifier : String) (args : StartArgs) :
    (prepareProcessInstanceBaseline env tenantId definition modelIdentifier args).Keeps (Jobs K) := by
  refine Prog.keeps_bind frame_jobs (independently_jobs (prepareCommittedProcessInstance_jobs env _ _ _ _)) fun prepared => ?_
  cases prepared with
  | ok result => exact Prog.keeps_bind frame_jobs refresh_jobs fun _ => pure_jobs _
  | error e => exact raise_jobs _

variable (env) in
theorem prepareProcessInstance_jobs (tenantId : TenantId) (definition : BpmnProcessDefinition) (modelIdentifier : String)
    (args : StartArgs) : (prepareProcessInstance env tenantId definition modelIdentifier args).Keeps (Jobs K) := by
  have hload : ∀ x : Nat × String, Prog.Keeps (Jobs K) (do
      let pi ← loadProcessInstance (Ω := Ω) tenantId x.1
      pure (pi, x.2)) := fun x =>
    Prog.keeps_bind frame_jobs (jobs_of_readOnly (loadProcessInstance_readOnly _ _)) fun _ => pure_jobs _
  refine Prog.keeps_bind frame_jobs (prepareProcessInstanceBaseline_jobs env _ _ _ _) fun baseline => ?_
  cases baseline with
  | some result => exact hload result
  | none => exact Prog.keeps_bind frame_jobs (prepareProcessInstanceInSession_jobs env _ _ _ _) hload

/-- A prepared instance has an id that was not handed out before. -/
theorem prepareProcessInstanceInSession_id {tenantId : TenantId} {definition : BpmnProcessDefinition} {modelIdentifier : String}
    {args : StartArgs} {result : Nat × String}
    (h : (prepareProcessInstanceInSession env tenantId definition modelIdentifier args).run s = (.ok result, s')) :
    s.seq ≤ result.1 := by
  obtain ⟨bpmnXml, selected, data, hxml, hselected, hdata⟩ := selectable_of_prepared h
  obtain ⟨s₁, hrun, -⟩ := prepareProcessInstanceInSession_run (F := .on tenantId (s.seq + 1)) modelIdentifier hxml hselected hdata
    (member_of_prepared h) rfl
  rw [hrun, Prod.mk.injEq, Except.ok.injEq] at h
  rw [← h.1]
  exact Nat.le_succ _

theorem prepareProcessInstance_id {tenantId : TenantId} {definition : BpmnProcessDefinition} {modelIdentifier : String}
    {args : StartArgs} {result : ProcessInstance × String}
    (h : (prepareProcessInstance env tenantId definition modelIdentifier args).run s = (.ok result, s')) :
    s.seq ≤ result.1.id ∧ result.1.m8fTenantId = tenantId := by
  have hload : ∀ (x : Nat × String) (s₁ : Tx Ω), s.seq ≤ x.1 → (do
      let pi ← loadProcessInstance tenantId x.1
      pure (pi, x.2) : M Ω (ProcessInstance × String)).run s₁ = (.ok result, s') →
      s.seq ≤ result.1.id ∧ result.1.m8fTenantId = tenantId := by
    intro x s₁ hx h₁
    obtain ⟨pi, s₂, hpi, h₂⟩ := Prog.bind_ok.1 h₁
    obtain ⟨rfl, -⟩ := Prog.pure_ok.1 h₂
    obtain ⟨-, -, htenant, hid⟩ := loadProcessInstance_ok hpi
    exact ⟨hid ▸ hx, htenant⟩
  unfold prepareProcessInstance at h
  obtain ⟨baseline, s₁, hbaseline, h₁⟩ := Prog.bind_ok.1 h
  have hseq : s.seq ≤ s₁.seq := ((prepareProcessInstanceBaseline_left env _ _ _ _).of_ok hbaseline).seq
  cases baseline with
  | none =>
    obtain ⟨x, s₂, hprepare, h₂⟩ := Prog.bind_ok.1 h₁
    exact hload x s₂ (hseq.trans (prepareProcessInstanceInSession_id hprepare)) h₂
  | some x =>
    refine hload x s₁ ?_ h₁
    unfold prepareProcessInstanceBaseline at hbaseline
    rcases hprepare : (prepareCommittedProcessInstance env tenantId definition.id modelIdentifier args).run s.fork with ⟨e | a, s₂⟩
    · rw [Prog.bind_run_ok (independently_error hprepare)] at hbaseline
      simp at hbaseline
    · rw [Prog.bind_run_ok (independently_ok hprepare)] at hbaseline
      simp only [refresh, Prog.modify_bind_run, Prog.pure_run, Prod.mk.injEq, Except.ok.injEq] at hbaseline
      rcases prepareCommittedProcessInstance_ok hprepare with ⟨rfl, -⟩ | ⟨committed, y, rfl, -, hsession⟩
      · cases hbaseline.1
      · cases hbaseline.1
        have hid : s.fork.seq ≤ x.1 := prepareProcessInstanceInSession_id hsession
        exact hid

/-- The jobs a start from a timer may write are the ones of the instance it
creates. -/
theorem initializeProcessInstanceFromTimerStart_jobs {tenantId : TenantId} (definitionId userId : Nat) (specName : String)
    (startedAt : Option Time) (hK : ∀ i, s.seq ≤ i → ∀ job, instanceJobs tenantId i job → K job) :
    Jobs K s ((initializeProcessInstanceFromTimerStart env tenantId definitionId userId specName startedAt).run s).2 := by
  unfold initializeProcessInstanceFromTimerStart
  refine Prog.bind_state frame_jobs (jobs_of_readOnly (ensureUserBelongsToTenant_readOnly _ _) s) fun _ s₁ h₁ => ?_
  rw [(ensureUserBelongsToTenant_readOnly _ _).state h₁]
  refine Prog.bind_state frame_jobs (jobs_of_readOnly (loadProcessDefinition_readOnly _ _) s) fun definition s₂ h₂ => ?_
  rw [(loadProcessDefinition_readOnly _ _).state h₂]
  refine Prog.bind_state frame_jobs (prepareProcessInstance_jobs env _ _ _ _ s) ?_
  rintro ⟨pi, selected⟩ s₃ h₃
  obtain ⟨hid, htenant⟩ := prepareProcessInstance_id h₃
  have hpi : ∀ job, instanceJobs pi.m8fTenantId pi.id job → K job := by
    rw [htenant]
    exact hK pi.id hid
  dsimp only
  refine Prog.keeps_bind frame_jobs (resolveTimestamp_jobs env _) (fun occurredAt => ?_) s₃
  refine Prog.keeps_bind frame_jobs ?_ fun w => ?_
  · exact jobs_of_touches env (F := pi.focus) (by decide) (buildInstanceWorkflow_touches _ _ _ _ (List.Subset.refl _))
  refine Prog.keeps_bind frame_jobs (runWorkflow_jobs hpi _ _ _ _) fun w => ?_
  refine Prog.keeps_bind frame_jobs (ofExcept_jobs _) fun forced => ?_
  cases forced with
  | none => exact finalizeInitializedWorkflow_jobs hpi _ _ _
  | some w' =>
    refine Prog.keeps_bind frame_jobs (ask_jobs _) fun refreshed => ?_
    refine Prog.keeps_bind frame_jobs (jobs_of_readOnly (orRaised_readOnly _)) fun w => ?_
    split
    · exact Prog.keeps_bind frame_jobs (runWorkflow_jobs hpi _ _ _ _) fun w => finalizeInitializedWorkflow_jobs hpi _ _ _
    · exact finalizeInitializedWorkflow_jobs hpi _ _ _

theorem ensureTimerStartSystemUser_jobs (tenantId : TenantId) (occurredAt : Time) :
    (ensureTimerStartSystemUser (Ω := Ω) tenantId occurredAt).Keeps (Jobs K) := by
  refine Prog.keeps_bind frame_jobs (query_jobs _) fun found => ?_
  refine Prog.keeps_bind frame_jobs (Prog.keeps_orRaise frame_jobs _ _) fun tenant => ?_
  refine Prog.keeps_bind frame_jobs ?_ fun user => Prog.keeps_bind frame_jobs ?_ fun _ => pure_jobs _
  · refine Prog.keeps_bind frame_jobs (query_jobs _) fun found => ?_
    cases found with
    | none => exact Prog.keeps_bind frame_jobs (insert_jobs fun _ _ => rfl) fun _ => pure_jobs _
    | some user => exact Prog.keeps_bind frame_jobs (write_jobs fun _ => rfl) fun _ => pure_jobs _
  · refine ensureV1Role_keeps frame_jobs (fun s => .same (Nat.le_succ _) rfl id fun _ => rfl) (fun s g a p t q => ?_) _ _ _
    exact .same (le_refl _) rfl id fun _ => rfl

theorem rescheduleOrDeleteTimerStartJob_jobs {job : SchedulerJob} (hK : ∀ job' : SchedulerJob, job'.name = job.name → K job') (timerTask : Dict) (occurredAt : Time) :
    (rescheduleOrDeleteTimerStartJob env job timerTask occurredAt).Keeps (Jobs K) := by
  refine Prog.keeps_bind frame_jobs (ofExcept_jobs _) fun next => ?_
  cases next with
  | none => exact deleteSchedulerJob_moves hK
  | some entry => exact upsertSchedulerJob_moves hK _ _ _

/-! ## Executing one job -/

/-- The jobs a job may write: its own, those of its instance, and those of
instances that are created from `seq` on. -/
def SchedulerJob.Reaches (seq : Nat) (job other : SchedulerJob) : Prop :=
  other.name = job.name ∨ ∃ i, (job.processInstanceId = some i ∨ seq ≤ i) ∧ instanceJobs job.m8fTenantId i other

variable (env) in
theorem executeClaimedSchedulerJob_jobs (job : SchedulerJob) (occurredAt : Time) (s : Tx Ω) :
    Jobs (job.Reaches s.seq) s ((executeClaimedSchedulerJob env job occurredAt).run s).2 := by
  have hdelete : (deleteSchedulerJob (Ω := Ω) job.m8fTenantId job.jobKey).Keeps (Jobs (job.Reaches s.seq)) :=
    deleteSchedulerJob_moves fun _ hjob => .inl hjob
  have hown : ∀ i, job.processInstanceId = some i → ∀ other, instanceJobs job.m8fTenantId i other → job.Reaches s.seq other :=
    fun i hi other hother => .inr ⟨i, .inl hi, hother⟩
  unfold executeClaimedSchedulerJob
  split
  · unfold executeIntermediateTimerJob
    split
    · exact hdelete s
    · rename_i i hi
      refine Prog.keeps_bind frame_jobs (jobs_of_readOnly (loadProcessInstance_readOnly _ _)) (fun pi => ?_) s
      split
      · refine Prog.keeps_bind frame_jobs (query_jobs _) fun state => ?_
        split
        · exact hdelete
        · exact refreshWaitingProcessInstanceWorkflow_jobs (hown i hi) _
      · exact hdelete
  · unfold executeProcessRetryJob
    split
    · exact hdelete s
    · rename_i i hi
      refine Prog.keeps_bind frame_jobs (jobs_of_readOnly (loadProcessInstance_readOnly _ _)) (fun pi => ?_) s
      split
      · exact Prog.keeps_bind frame_jobs (ofExcept_jobs _) fun userId => retryProcessInstance_jobs (hown i hi) _ _
      · exact hdelete
  · unfold executeTimerStartJob
    split
    · exact hdelete s
    · refine Prog.bind_state frame_jobs (query_jobs _ s) fun definition s₁ h₁ => ?_
      obtain ⟨-, rfl⟩ := Prog.gets_ok.1 h₁
      split
      · exact hdelete _
      · refine Prog.bind_state frame_jobs (ofExcept_jobs _ _) fun timerTask s₁ h₁ => ?_
        rw [(ofExcept_ok h₁).2]
        refine Prog.bind_state frame_jobs (ensureTimerStartSystemUser_jobs _ _ _) fun systemUser s₂ h₂ => ?_
        have hseq : s.seq ≤ s₂.seq := ((ensureTimerStartSystemUser_jobs (K := fun _ => False) _ _).of_ok h₂).seq
        refine Prog.bind_state frame_jobs (ofExcept_jobs _ _) fun specName s₃ h₃ => ?_
        rw [(ofExcept_ok h₃).2]
        refine Prog.bind_state frame_jobs ?_ fun _ s₄ _ => rescheduleOrDeleteTimerStartJob_jobs (fun _ hjob => .inl hjob) _ _ s₄
        refine initializeProcessInstanceFromTimerStart_jobs _ _ _ _ fun i hi other hother => ?_
        exact .inr ⟨i, .inr (hseq.trans hi), hother⟩

end
end M8flowCore
