import Mathlib.Tactic.NormNum
import M8flowCore.CommittedPasses
/-!
# Timers that fire a number of times

A process may be started by a timer that fires `n` times. Its job carries the
next due time, the period and the firings that are left; each firing rewrites
them from the due time and not from the time of the pass, so that a late pass
does not shift the firings after it.
-/
open M8flowCore.Lib M8flowCore.Session

namespace M8flowCore

/-- The moments that a `datetime` can hold, in microseconds: the years 1 to 9999. -/
def IsDate (t : Time) : Prop := -62135596800 * 1000000 ≤ t ∧ t < 253402300800 * 1000000

/-- What the library relies on of `datetime`. -/
structure Env.Calendar {W Ω : Type} (env : Env W Ω) : Prop where
  /-- A text made by `isoformat` is read back. -/
  parses : ∀ t, IsDate t → env.fromisoformat (env.isoformat t) = some t
  blank : env.fromisoformat "" = none
  /-- A double holds every whole second. -/
  whole : ∀ seconds : Int, IsDate (seconds * 1000000) → env.ceilTimestamp (seconds * 1000000) = seconds

section
variable {W Ω : Type} {env : Env W Ω} {start period : Int} {n : Nat} {timerTask : Dict}

/-! ## The payload -/

/-- The payload of a timer that is due at `start`, a whole second, and fires `n`
times with `period` seconds between two firings. -/
structure Recurring (env : Env W Ω) (start period : Int) (n : Nat) (timerTask : Dict) : Prop where
  value : ∃ entries next, timerTask.get "event_value" = some (.dict entries) ∧
    Dict.get (PyVal.asDict (.dict entries)) "next" = some (.str next) ∧ env.fromisoformat next = some (start * 1000000) ∧
    (Dict.get (PyVal.asDict (.dict entries)) "duration").bind PyVal.asNumber = some (period : Rat) ∧
    Dict.get (PyVal.asDict (.dict entries)) "cycles" = some (.int n)

theorem roundHalfEven_intCast (k : Int) : roundHalfEven (k : Rat) = k := by
  simp [roundHalfEven]

theorem asDict_toVal (d : Dict) : PyVal.asDict d.toVal = d := by
  unfold PyVal.asDict Dict.toVal PyVal.asMapping
  simp only [Option.getD_some, List.filterMap_map]
  induction d with
  | nil => rfl
  | cons kv d ih => simp [PyVal.asStr]

section
variable (henv : env.Calendar) (hperiod : 0 < period)
include henv hperiod

/-- After the last firing there is no payload. -/
theorem Recurring.last (h : Recurring env start period 1 timerTask) : nextTimerStartTaskPayloadAfterFire env timerTask = .ok none := by
  obtain ⟨entries, next, hvalue, hnext, hdue, hduration, hcycles⟩ := h.value
  have hne : next ≠ "" := by
    rintro rfl
    rw [henv.blank] at hdue
    cases hdue
  have hpositive : (0 : Rat) < period := by exact_mod_cast hperiod
  unfold nextTimerStartTaskPayloadAfterFire
  simp [hvalue, hnext, PyVal.asStr, hduration, Option.filter, hpositive, hcycles]

/-- After any other firing the payload is due a period later, with one firing
less. -/
theorem Recurring.next (h : Recurring env start period (n + 2) timerTask) (hdate : IsDate ((start + period) * 1000000)) :
    ∃ payload, nextTimerStartTaskPayloadAfterFire env timerTask = .ok (some (payload, start + period)) ∧
      Recurring env (start + period) period (n + 1) payload := by
  obtain ⟨entries, next, hvalue, hnext, hdue, hduration, hcycles⟩ := h.value
  have hne : next ≠ "" := by
    rintro rfl
    rw [henv.blank] at hdue
    cases hdue
  have hpositive : (0 : Rat) < period := by exact_mod_cast hperiod
  have hshift : start * 1000000 + roundHalfEven ((period : Rat) * 1000000) = (start + period) * 1000000 := by
    have hcast : (period : Rat) * 1000000 = ((period * 1000000 : Int) : Rat) := by push_cast; rfl
    rw [hcast, roundHalfEven_intCast, Int.add_mul]
  have hiso : env.isoformat ((start + period) * 1000000) ≠ "" := by
    intro hblank
    have hparses := henv.parses _ hdate
    rw [hblank, henv.blank] at hparses
    cases hparses
  set nextValue : Dict := [("next", PyVal.str (env.isoformat ((start + period) * 1000000))), ("duration", PyVal.float period),
    ("cycles", PyVal.int (n + 1))] with hnextValue
  have hrunAt : timerEventRunAtInSeconds env nextValue.toVal = .ok (start + period) := by
    have hdueAt : timerEventDueAt env nextValue.toVal = .ok ((start + period) * 1000000) := by
      unfold timerEventDueAt
      simp [Dict.toVal, hnextValue, PyVal.asDict, PyVal.asMapping, PyVal.asStr, henv.parses _ hdate]
    rw [timerEventRunAtInSeconds, hdueAt]
    exact congrArg Except.ok (henv.whole _ hdate)
  refine ⟨(timerTask.set "event_value" nextValue.toVal).set "run_at_in_seconds" (.int (start + period)), ?_, ⟨?_⟩⟩
  · unfold nextTimerStartTaskPayloadAfterFire
    have hmore : ((n + 2 : Nat) : Int) > 1 := by omega
    have hless : ((n + 2 : Nat) : Int) - 1 = n + 1 := by omega
    simp only [hvalue, hnext, Option.bind_some, PyVal.asStr, hduration, Option.filter, decide_eq_true hpositive, if_true, hdue, hcycles,
      if_pos hmore, hless, hshift]
    change Except.map _ (timerEventRunAtInSeconds env nextValue.toVal) = _
    rw [hrunAt]
    rfl
  · have hentries : PyVal.asDict (.dict (nextValue.map fun kv => (.str kv.1, kv.2))) = nextValue := asDict_toVal nextValue
    refine ⟨nextValue.map fun kv => (.str kv.1, kv.2), env.isoformat ((start + period) * 1000000), ?_, ?_, henv.parses _ hdate, ?_, ?_⟩
    · rw [Dict.get_set_of_ne _ _ (by decide), Dict.get_set_self]
      rfl
    · rw [hentries]
      rfl
    · rw [hentries]
      rfl
    · rw [hentries]
      rfl

end

/-! ## One firing -/

/-- The start that a job's execution makes: the system user is there, and the
instance is started from the timer. -/
def TimerStarted (env : Env W Ω) (job : SchedulerJob) (now : Time) (s s' : Tx Ω) : Prop :=
  ∃ definitionId definition timerTask user s₁ specName, job.bpmnProcessDefinitionId = some definitionId ∧
    s.view.tenantDefinition? job.m8fTenantId definitionId = some definition ∧ definition.sourceBpmnXml.isSome = true ∧
    schedulerJobTimerTask job.payloadJson = .ok timerTask ∧
    (ensureTimerStartSystemUser job.m8fTenantId now).run s = (.ok user, s₁) ∧
    schedulerJobTaskSpecName timerTask = .ok specName ∧
    (initializeProcessInstanceFromTimerStart env job.m8fTenantId definitionId user.id specName (some now)).run s₁ = (.ok (), s')

/-- A job of a timer that fires `n` times, first at `start`. -/
structure RecurringJob (env : Env W Ω) (name : TenantId × String) (start period : Int) (n : Nat) (job : SchedulerJob) : Prop where
  name : job.name = name
  type : job.jobType = .timerStart
  free : job.Free
  runAt : job.runAt = start * 1000000
  payload : ∃ timerTask, schedulerJobTimerTask job.payloadJson = .ok timerTask ∧ Recurring env start period n timerTask

section
variable {s s' : Tx Ω} {now : Time} {job row : SchedulerJob} {name : TenantId × String} {id : Nat}

/-- No job under the name. -/
def Absent (name : TenantId × String) (jobs : List SchedulerJob) : Prop := ∀ row ∈ jobs, row.name ≠ name

/-- The name is not the name of an instance's job. -/
def NotOfInstance (name : TenantId × String) : Prop := ∀ jobType i, name.2 ≠ instanceJobKey jobType i

theorem TimerStarted.execute (htype : job.jobType = .timerStart) (h : TimerStarted env job now s s') {timerTask : Dict}
    (htask : schedulerJobTimerTask job.payloadJson = .ok timerTask) :
    (executeClaimedSchedulerJob env job now).run s = (rescheduleOrDeleteTimerStartJob env job timerTask now).run s' := by
  obtain ⟨definitionId, definition, task, user, s₁, specName, hid, hdefinition, hsource, htask', huser, hspec, hstart⟩ := h
  rw [htask, Except.ok.injEq] at htask'
  subst htask'
  obtain ⟨source, hsource⟩ := Option.isSome_iff_exists.1 hsource
  unfold executeClaimedSchedulerJob executeTimerStartJob query
  simp only [htype, hid, Prog.gets_bind_run, hdefinition, Option.bind_some, hsource]
  have htaskRun : (ofExcept (schedulerJobTimerTask job.payloadJson)).run s = (.ok timerTask, s) := by rw [htask]; rfl
  have hspecRun : (ofExcept (schedulerJobTaskSpecName timerTask)).run s₁ = (.ok specName, s₁) := by rw [hspec]; rfl
  rw [Prog.bind_run_ok htaskRun, Prog.bind_run_ok huser, Prog.bind_run_ok hspecRun, Prog.bind_run_ok hstart]

theorem TimerStarted.jobs (h : TimerStarted env job now s s') :
    Jobs (fun row => ∃ i, instanceJobs job.m8fTenantId i row) s s' := by
  obtain ⟨definitionId, definition, task, user, s₁, specName, -, -, -, -, huser, -, hstart⟩ := h
  refine frame_jobs.trans ((ensureTimerStartSystemUser_jobs _ _).of_ok huser) ?_
  rw [← show _ = s' from congrArg Prod.snd hstart]
  exact initializeProcessInstanceFromTimerStart_jobs _ _ _ _ fun i _ row hrow => ⟨i, hrow⟩

/-- A job that no instance has survives a start. -/
theorem TimerStarted.mem (h : TimerStarted env job now s s') (hs : s.JobsCurrent) (hrow : row ∈ s.view.schedulerJobs)
    (hname : NotOfInstance row.name) : row ∈ s'.view.schedulerJobs := by
  refine ((h.jobs.moved hs).mem ?_).2 hrow
  rintro ⟨i, -, jobType, hkey⟩
  exact hname jobType i hkey

/-- An upsert rewrites the job that is there. -/
theorem upsertSchedulerJob_rewrites {tenantId : TenantId} {jobKey : String} (v : JobValues) (occurredAt : Time)
    (hrow : row ∈ s.view.schedulerJobs) (hname : row.name = (tenantId, jobKey)) :
    ∃ s', (upsertSchedulerJob tenantId jobKey v occurredAt none).run s = (.ok (), s') ∧
      { row with
        jobType := v.jobType, processInstanceId := v.processInstanceId, bpmnProcessDefinitionId := v.bpmnProcessDefinitionId,
        lockedBy := none, lockedAt := none, runAt := v.runAt, payloadJson := v.payloadJson, updatedAt := occurredAt } ∈
          s'.view.schedulerJobs := by
  have hsame : (row.m8fTenantId == tenantId && row.jobKey == jobKey) = true := by
    obtain ⟨htenant, hkey⟩ := Prod.mk.inj hname
    simp [htenant, hkey]
  have hfound : (s.view.schedulerJob? tenantId jobKey).isSome = true := by
    rw [Db.schedulerJob?, List.find?_isSome]
    exact ⟨row, hrow, hsame⟩
  obtain ⟨found, hfound⟩ := Option.isSome_iff_exists.1 hfound
  unfold upsertSchedulerJob query
  simp only [Prog.gets_bind_run, hfound]
  refine ⟨_, rfl, mem_updateWhere.2 ⟨row, hrow, ?_⟩⟩
  rw [if_pos hsame]
  rfl

/-- The last firing deletes the job. -/
theorem RecurringJob.fires_last (henv : env.Calendar) (hperiod : 0 < period) (h : RecurringJob env name start period 1 job)
    (hstarted : TimerStarted env job now s s') :
    ∃ s₂, (executeClaimedSchedulerJob env job now).run s = (.ok (), s₂) ∧ Absent name s₂.view.schedulerJobs := by
  obtain ⟨timerTask, htask, hrecurring⟩ := h.payload
  rw [hstarted.execute h.type htask, rescheduleOrDeleteTimerStartJob, hrecurring.last henv hperiod]
  refine ⟨_, rfl, fun row hrow hname => ?_⟩
  obtain ⟨-, hne⟩ := List.mem_filter.1 hrow
  obtain ⟨htenant, hkey⟩ := Prod.mk.inj (hname.trans h.name.symm)
  simp [htenant, hkey] at hne

/-- Any other firing leaves the job, a period later and with one firing less. -/
theorem RecurringJob.fires_next (henv : env.Calendar) (hperiod : 0 < period) (h : RecurringJob env name start period (n + 2) job)
    (hdate : IsDate ((start + period) * 1000000)) (hstarted : TimerStarted env job now s s') (hs : s.JobsCurrent)
    (hname : NotOfInstance name) (hrow : row ∈ s.view.schedulerJobs) (hrowname : row.name = name) :
    ∃ s₂ row', (executeClaimedSchedulerJob env job now).run s = (.ok (), s₂) ∧ row' ∈ s₂.view.schedulerJobs ∧ row'.id = row.id ∧
      RecurringJob env name (start + period) period (n + 1) row' := by
  obtain ⟨timerTask, htask, hrecurring⟩ := h.payload
  obtain ⟨payload, hnext, hrecurring'⟩ := hrecurring.next henv hperiod hdate
  have hrow' := hstarted.mem hs hrow (hrowname ▸ hname)
  obtain ⟨s₂, hrun, hmem⟩ := upsertSchedulerJob_rewrites
    { jobType := .timerStart, runAt := (start + period) * 1000000, processInstanceId := none,
      bpmnProcessDefinitionId := job.bpmnProcessDefinitionId,
      payloadJson := [("scheduled_from", .str "timer_start_runtime"), ("timer_task", payload.toVal)] }
    now hrow' (hrowname.trans h.name.symm)
  refine ⟨s₂, _, ?_, hmem, rfl, hrowname, rfl, ⟨rfl, rfl⟩, rfl, payload, ?_, hrecurring'⟩
  · rw [hstarted.execute h.type htask, rescheduleOrDeleteTimerStartJob, hnext]
    exact hrun
  · rw [schedulerJobTimerTask]
    exact congrArg Except.ok (asDict_toVal payload)

/-! ## One pass -/

variable {batch before after : List SchedulerJob} {outcomes : List (Option (String × Error))}

/-- A job that no instance has is left alone by a batch without it. -/
theorem Attempts.mem_of_apart (h : Attempts env now batch s outcomes s') (hs : s.JobsCurrent) (hname : NotOfInstance row.name)
    (hapart : ∀ job ∈ batch, job.name ≠ row.name ∧ job.id ≠ row.id) (hrow : row ∈ s.view.schedulerJobs) :
    row ∈ s'.view.schedulerJobs := by
  refine ((h.jobs.moved hs).mem ?_).2 hrow
  rintro ⟨job, hjob, (hsame | ⟨i, -, -, jobType, hkey⟩) | hid⟩
  · exact (hapart job hjob).1 hsame.symm
  · exact hname jobType i hkey
  · exact (hapart job hjob).2 hid.symm

theorem Absent.executed (h : Absent name s.view.schedulerJobs) (hs : s.JobsCurrent) (hname : NotOfInstance name) (hjob : job.name ≠ name)
    (hjobs : Jobs (job.Reaches s.seq) s s') : Absent name s'.view.schedulerJobs := by
  intro row hrow hrowname
  refine h row (((hjobs.moved hs).mem ?_).1 hrow) hrowname
  rintro (hsame | ⟨i, -, -, jobType, hkey⟩)
  · exact hjob (hsame.symm.trans hrowname)
  · rw [SchedulerJob.name] at hrowname
    exact hname jobType i (hrowname ▸ hkey)

theorem Absent.released (h : Absent name s.view.schedulerJobs) : Absent name (released now job s).view.schedulerJobs := by
  intro row hrow
  obtain ⟨row₀, hrow₀, rfl⟩ := mem_updateWhere.1 hrow
  split
  · exact h row₀ hrow₀
  · exact h row₀ hrow₀

/-- No other job brings a deleted one back. -/
theorem Attempts.absent (h : Attempts env now batch s outcomes s') (hs : s.JobsCurrent) (hname : NotOfInstance name)
    (hapart : ∀ job ∈ batch, job.name ≠ name) (habsent : Absent name s.view.schedulerJobs) : Absent name s'.view.schedulerJobs := by
  induction h with
  | nil s => exact habsent
  | @success job jobs outcomes s s₁ s' hjob hrest ih =>
    have hjobs := executeClaimedSchedulerJob_jobs env job now s
    rw [hjob] at hjobs
    exact ih (hjobs.current hs) (fun j hj => hapart j (by simp [hj])) (habsent.executed hs hname (hapart job (by simp)) hjobs)
  | @failure job jobs outcomes s s₁ s' e hjob hrest ih =>
    have hjobs := executeClaimedSchedulerJob_jobs env job now s
    rw [hjob] at hjobs
    exact ih (hjobs.current hs) (fun j hj => hapart j (by simp [hj])) (habsent.executed hs hname (hapart job (by simp)) hjobs).released

theorem Attempts.append (h : Attempts env now (before ++ after) s outcomes s') :
    ∃ outcomes₁ s₁ outcomes₂, Attempts env now before s outcomes₁ s₁ ∧ Attempts env now after s₁ outcomes₂ s' := by
  induction before generalizing s outcomes with
  | nil => exact ⟨[], s, outcomes, .nil s, h⟩
  | cons job before ih =>
    cases h with
    | success hjob hrest =>
      obtain ⟨outcomes₁, s₁, outcomes₂, hbefore, hafter⟩ := ih hrest
      exact ⟨_, s₁, outcomes₂, .success hjob hbefore, hafter⟩
    | failure hjob hrest =>
      obtain ⟨outcomes₁, s₁, outcomes₂, hbefore, hafter⟩ := ih hrest
      exact ⟨_, s₁, outcomes₂, .failure hjob hbefore, hafter⟩

/-- Whenever a pass comes to the job, its start succeeds. -/
def StartSucceeds (env : Env W Ω) (name : TenantId × String) (p : Pass Ω) (st : Store) : Prop :=
  ∀ before job after outcomes s, p.batch env st = before ++ job :: after → job.name = name →
    Attempts env (p.time env) before (p.locked env st) outcomes s → ∃ s', TimerStarted env job (p.time env) s s'

/-- The job of a timer that has `n` firings left: it is gone after the last. -/
def Standing (env : Env W Ω) (name : TenantId × String) (start period : Int) : Nat → List SchedulerJob → Prop
  | 0, jobs => Absent name jobs
  | n + 1, jobs => ∃ job ∈ jobs, RecurringJob env name start period (n + 1) job

variable {p : Pass Ω} {st : Store}

/-- A pass that does not attempt the job leaves it as it is. -/
theorem Standing.passed (h : Standing env name start period n st.db.schedulerJobs) (hkeys : JobKeys st.seq st.db.schedulerJobs)
    (hname : NotOfInstance name) (hout : name ∉ p.attempted env st) :
    Standing env name start period n (p.committed env st).db.schedulerJobs := by
  obtain ⟨outcomes, hattempts⟩ := p.attempts env st
  have hnames : ∀ job ∈ p.batch env st, job.name ≠ name := fun job hjob hsame => hout (Pass.mem_attempted.2 ⟨job, hjob, hsame⟩)
  rw [p.committed_jobs]
  cases n with
  | zero =>
    refine hattempts.absent (p.locked_current st) hname hnames fun row hrow => ?_
    obtain ⟨row₀, hrow₀, -, hsame⟩ := lockedJobs_mem hrow
    rw [hsame]
    exact h row₀ hrow₀
  | succ n =>
    obtain ⟨job, hjob, hrecurring⟩ := h
    have hids : ∀ other ∈ p.batch env st, other.id ≠ job.id := by
      intro other hother hid
      have hsame := List.inj_on_of_nodup_map hkeys.ids ((Pass.mem_batch hother).1) hjob hid
      exact hnames other hother (hsame ▸ hrecurring.name)
    have hlocked : job ∈ (p.locked env st).view.schedulerJobs := lockedJobs_kept hjob fun other hother hid => hids other hother hid.symm
    refine ⟨job, ?_, hrecurring⟩
    exact hattempts.mem_of_apart (p.locked_current st) (hrecurring.name ▸ hname)
      (fun other hother => ⟨hrecurring.name ▸ hnames other hother, hids other hother⟩) hlocked

/-- Around the job in its batch there is no other job of its name or id. -/
theorem Pass.batch_apart (hkeys : JobKeys st.seq st.db.schedulerJobs) (hbatch : p.batch env st = before ++ job :: after) :
    ∀ other, other ∈ before ∨ other ∈ after → other.name ≠ job.name ∧ other.id ≠ job.id := by
  intro other hother
  have hnodup : (before ++ job :: after).Nodup := hbatch ▸ p.batch_nodup hkeys
  have hne : other ≠ job := by
    rintro rfl
    obtain ⟨-, hrest, hdisjoint⟩ := List.nodup_append.1 hnodup
    rcases hother with hother | hother
    · exact hdisjoint other hother other (by simp) rfl
    · exact (List.nodup_cons.1 hrest).1 hother
  have hin : other ∈ st.db.schedulerJobs := (Pass.mem_batch (by rw [hbatch]; rcases hother with h | h <;> simp [h])).1
  have hjob : job ∈ st.db.schedulerJobs := (Pass.mem_batch (by rw [hbatch]; simp)).1
  exact ⟨fun hsame => hne (List.inj_on_of_nodup_map hkeys.names hin hjob hsame),
    fun hsame => hne (List.inj_on_of_nodup_map hkeys.ids hin hjob hsame)⟩

/-- A pass that attempts the job fires the timer, not before it is due, and moves
the job on. -/
theorem Standing.fired (henv : env.Calendar) (hperiod : 0 < period) (h : Standing env name start period n st.db.schedulerJobs)
    (hkeys : JobKeys st.seq st.db.schedulerJobs) (hname : NotOfInstance name)
    (hdates : ∀ k : Nat, k < n → IsDate ((start + k * period) * 1000000)) (hstart : StartSucceeds env name p st)
    (hin : name ∈ p.attempted env st) :
    ∃ m, n = m + 1 ∧ Standing env name (start + period) period m (p.committed env st).db.schedulerJobs ∧
      ∃ job ∈ p.batch env st, job.name = name ∧ job.runAt = start * 1000000 ∧ job.runAt ≤ p.time env := by
  obtain ⟨job, hjob, hjobname⟩ := Pass.mem_attempted.1 hin
  have hjobin : job ∈ st.db.schedulerJobs := (Pass.mem_batch hjob).1
  cases n with
  | zero => exact absurd hjobname (h job hjobin)
  | succ m =>
    obtain ⟨other, hother, hrecurring⟩ := h
    obtain rfl : other = job := List.inj_on_of_nodup_map hkeys.names hother hjobin (hrecurring.name.trans hjobname.symm)
    refine ⟨m, rfl, ?_, other, hjob, hjobname, hrecurring.runAt, (Pass.mem_batch hjob).2.2.1⟩
    rw [p.committed_jobs]
    obtain ⟨before, after, hbatch⟩ := List.append_of_mem hjob
    have hapart := Pass.batch_apart hkeys hbatch
    obtain ⟨outcomes, hattempts⟩ := p.attempts env st
    rw [hbatch] at hattempts
    obtain ⟨outcomes₁, s₁, outcomes₂, hbefore, hafter⟩ := hattempts.append
    have hcurrent₁ := hbefore.jobs.current (p.locked_current st)
    obtain ⟨s₂, hstarted⟩ := hstart before other after outcomes₁ s₁ hbatch hjobname hbefore
    have hjobs := executeClaimedSchedulerJob_jobs env other (p.time env) s₁
    cases m with
    | zero =>
      obtain ⟨s₃, hrun, habsent⟩ := hrecurring.fires_last henv hperiod hstarted
      rw [hrun] at hjobs
      cases hafter with
      | failure hfailed _ => exact absurd (hrun.symm.trans hfailed) (by simp)
      | success hran hrest =>
        obtain rfl := congrArg Prod.snd (hrun.symm.trans hran)
        exact hrest.absent (hjobs.current hcurrent₁) hname (fun j hj => hjobname ▸ (hapart j (.inr hj)).1) habsent
    | succ m =>
      have hlocked : ∃ row ∈ (p.locked env st).view.schedulerJobs, row.name = name ∧ row.id = other.id := by
        refine ⟨_, mem_updateWhere.2 ⟨other, hother, rfl⟩, ?_⟩
        split <;> exact ⟨hjobname, rfl⟩
      obtain ⟨row, hrow, hrowname, hrowid⟩ := hlocked
      have hrow₁ := hbefore.mem_of_apart (p.locked_current st) (hrowname ▸ hname)
        (fun j hj => by rw [hrowname, hrowid, ← hjobname]; exact hapart j (.inl hj)) hrow
      have hdate : IsDate ((start + period) * 1000000) := by simpa using hdates 1 (by omega)
      obtain ⟨s₃, row', hrun, hrow', hid', hrecurring'⟩ :=
        hrecurring.fires_next henv hperiod hdate hstarted hcurrent₁ hname hrow₁ hrowname
      rw [hrun] at hjobs
      cases hafter with
      | failure hfailed _ => exact absurd (hrun.symm.trans hfailed) (by simp)
      | success hran hrest =>
        obtain rfl := congrArg Prod.snd (hrun.symm.trans hran)
        refine ⟨row', hrest.mem_of_apart (hjobs.current hcurrent₁) (hrecurring'.name ▸ hname) (fun j hj => ?_) hrow', hrecurring'⟩
        rw [hrecurring'.name, hid', hrowid, ← hjobname]
        exact hapart j (.inr hj)

/-! ## A run of passes -/

/-- The passes of a run that attempt the job. -/
def firings (env : Env W Ω) (name : TenantId × String) (xs : List (Pass Ω × Store)) : List (Pass Ω × Store) :=
  xs.filter fun x => decide (name ∈ x.1.attempted env x.2)

/-- A pass that looks for the job. -/
def Pass.LooksFor (p : Pass Ω) (name : TenantId × String) : Prop := p.Accepted ∧ ∀ t, p.tenantId = some t → name.1 = t

/-- A due job that a pass looks for is in its batch, unless the batch is full of
jobs that come first. -/
theorem RecurringJob.found (h : RecurringJob env name start period n job) (hjob : job ∈ st.db.schedulerJobs)
    (hkeys : JobKeys st.seq st.db.schedulerJobs) (hlooks : p.LooksFor name) (hdue : start * 1000000 ≤ p.time env) :
    name ∈ p.attempted env st ∨
      ((p.batch env st).length = p.limit.toNat ∧ ∀ b ∈ p.batch env st, b.runAt ≤ start * 1000000) := by
  by_cases hin : job ∈ p.batch env st
  · exact .inl (Pass.mem_attempted.2 ⟨job, hin, h.name⟩)
  · have hdueFor : job.DueFor (p.time env) p.tenantId := by
      refine ⟨h.free.1, h.runAt ▸ hdue, fun t ht => ?_⟩
      rw [← hlooks.2 t ht, ← h.name]
      rfl
    obtain ⟨hfull, hbefore⟩ := (p.batch_first env hlooks.1 hkeys).first job hjob hdueFor hin
    refine .inr ⟨hfull, fun b hb => ?_⟩
    rw [← h.runAt]
    rcases hbefore b hb with hlt | ⟨heq, -⟩
    · exact hlt.le
    · exact heq.le

/-- What holds of the firings in a run: the job is where the firings have brought
it, each firing met the job at its own due time and not before it, and no pass
that could fire the timer leaves it out. -/
structure FiresInTurn (env : Env W Ω) (name : TenantId × String) (start period : Int) (n : Nat) (ps : List (Pass Ω)) (st : Store) :
    Prop where
  few : (firings env name (history env ps st)).length ≤ n
  standing : Standing env name (start + (firings env name (history env ps st)).length * period) period
    (n - (firings env name (history env ps st)).length) (passes env ps st).db.schedulerJobs
  due : ∀ (k : Nat) x, (firings env name (history env ps st))[k]? = some x →
    ∃ job ∈ x.1.batch env x.2, job.name = name ∧ job.runAt = (start + k * period) * 1000000 ∧ job.runAt ≤ x.1.time env
  prompt : ∀ before x after, history env ps st = before ++ x :: after → (firings env name before).length < n →
    x.1.LooksFor name → (start + (firings env name before).length * period) * 1000000 ≤ x.1.time env →
    name ∈ x.1.attempted env x.2 ∨ ((x.1.batch env x.2).length = x.1.limit.toNat ∧
      ∀ b ∈ x.1.batch env x.2, b.runAt ≤ (start + (firings env name before).length * period) * 1000000)

theorem firings_cons_of_mem {x : Pass Ω × Store} {xs : List (Pass Ω × Store)} (h : name ∈ x.1.attempted env x.2) :
    firings env name (x :: xs) = x :: firings env name xs := List.filter_cons_of_pos (by simpa using h)

theorem firings_cons_of_not_mem {x : Pass Ω × Store} {xs : List (Pass Ω × Store)} (h : name ∉ x.1.attempted env x.2) :
    firings env name (x :: xs) = firings env name xs := List.filter_cons_of_neg (by simpa using h)

/-- A period later is one firing more. -/
theorem shifted (start period : Int) (k : Nat) : start + period + k * period = start + (k + 1 : Nat) * period := by
  rw [Nat.cast_add, Nat.cast_one, Int.add_mul, Int.one_mul]
  omega

theorem FiresInTurn.nil (h : Standing env name start period n st.db.schedulerJobs) : FiresInTurn env name start period n [] st := by
  refine ⟨Nat.zero_le _, ?_, fun k x hx => ?_, fun before x after hsplit => ?_⟩
  · simpa [history, firings, passes] using h
  · simp [history, firings] at hx
  · simp [history] at hsplit

/-- A run that begins with a firing. -/
theorem FiresInTurn.fired {ps : List (Pass Ω)} (hin : name ∈ p.attempted env st)
    (hdue : ∃ job ∈ p.batch env st, job.name = name ∧ job.runAt = start * 1000000 ∧ job.runAt ≤ p.time env)
    (h : FiresInTurn env name (start + period) period n ps (p.committed env st)) :
    FiresInTurn env name start period (n + 1) (p :: ps) st := by
  have hcons : firings env name (history env (p :: ps) st) = (p, st) :: firings env name (history env ps (p.committed env st)) := by
    rw [history, firings_cons_of_mem (x := (p, st)) hin]
  refine ⟨?_, ?_, fun k x hx => ?_, fun before x after hsplit hless hlooks htime => ?_⟩
  · rw [hcons, List.length_cons]
    exact Nat.succ_le_succ h.few
  · rw [hcons, List.length_cons, Nat.add_sub_add_right, ← shifted]
    exact h.standing
  · rw [hcons] at hx
    cases k with
    | zero =>
      rw [List.getElem?_cons_zero, Option.some.injEq] at hx
      subst hx
      rw [Nat.cast_zero, Int.zero_mul, Int.add_zero]
      exact hdue
    | succ k =>
      rw [List.getElem?_cons_succ] at hx
      rw [← shifted]
      exact h.due k x hx
  · rw [history] at hsplit
    cases before with
    | nil =>
      rw [List.nil_append, List.cons.injEq] at hsplit
      rw [← hsplit.1]
      exact .inl hin
    | cons y before =>
      rw [List.cons_append, List.cons.injEq] at hsplit
      obtain ⟨rfl, hrest⟩ := hsplit
      rw [firings_cons_of_mem (x := (p, st)) hin, List.length_cons] at hless htime ⊢
      rw [← shifted] at htime ⊢
      exact h.prompt before x after hrest (by omega) hlooks htime

/-- A run that begins with a pass without the job. -/
theorem FiresInTurn.passed {ps : List (Pass Ω)} (hout : name ∉ p.attempted env st)
    (hfound : 0 < n → p.LooksFor name → start * 1000000 ≤ p.time env → name ∈ p.attempted env st ∨
      ((p.batch env st).length = p.limit.toNat ∧ ∀ b ∈ p.batch env st, b.runAt ≤ start * 1000000))
    (h : FiresInTurn env name start period n ps (p.committed env st)) : FiresInTurn env name start period n (p :: ps) st := by
  have hcons : firings env name (history env (p :: ps) st) = firings env name (history env ps (p.committed env st)) := by
    rw [history, firings_cons_of_not_mem (x := (p, st)) hout]
  refine ⟨?_, ?_, fun k x hx => ?_, fun before x after hsplit hless hlooks htime => ?_⟩
  · rw [hcons]
    exact h.few
  · rw [hcons]
    exact h.standing
  · rw [hcons] at hx
    exact h.due k x hx
  · rw [history] at hsplit
    cases before with
    | nil =>
      rw [List.nil_append, List.cons.injEq] at hsplit
      rw [← hsplit.1] at hlooks htime ⊢
      simp only [firings, List.filter_nil, List.length_nil, Nat.cast_zero, Int.zero_mul, Int.add_zero] at hless htime ⊢
      exact hfound hless hlooks htime
    | cons y before =>
      rw [List.cons_append, List.cons.injEq] at hsplit
      obtain ⟨rfl, hrest⟩ := hsplit
      rw [firings_cons_of_not_mem (x := (p, st)) hout] at hless htime ⊢
      exact h.prompt before x after hrest hless hlooks htime

/-- From any store with the job, over any passes in which its starts succeed. -/
theorem Standing.fires_in_turn (henv : env.Calendar) (hperiod : 0 < period) {ps : List (Pass Ω)}
    (h : Standing env name start period n st.db.schedulerJobs) (hkeys : JobKeys st.seq st.db.schedulerJobs) (hname : NotOfInstance name)
    (hdates : ∀ k : Nat, k < n → IsDate ((start + k * period) * 1000000))
    (hstarts : ∀ x ∈ history env ps st, StartSucceeds env name x.1 x.2) : FiresInTurn env name start period n ps st := by
  induction ps generalizing st start n with
  | nil => exact .nil h
  | cons p ps ih =>
    rw [history, List.forall_mem_cons] at hstarts
    have hkeys' : JobKeys (p.committed env st).seq (p.committed env st).db.schedulerJobs := p.committed_keys hkeys
    by_cases hin : name ∈ p.attempted env st
    · obtain ⟨m, rfl, hstanding, hdue⟩ := h.fired henv hperiod hkeys hname hdates hstarts.1 hin
      refine .fired hin hdue (ih hstanding hkeys' (fun k hk => ?_) hstarts.2)
      rw [shifted]
      exact hdates (k + 1) (by omega)
    · refine .passed hin (fun hn hlooks hdue => ?_) (ih (h.passed hkeys hname hin) hkeys' hdates hstarts.2)
      obtain ⟨m, rfl⟩ := Nat.exists_eq_succ_of_ne_zero hn.ne'
      obtain ⟨job, hjob, hrecurring⟩ := h
      exact hrecurring.found hjob hkeys hlooks hdue

/-- A timer that is to fire `n` times fires once for each of its due times and
is deleted with the last firing, whenever the passes come. -/
theorem finite_timer_fires (henv : env.Calendar) (hkeys : JobKeys st.seq st.db.schedulerJobs) (hjob : job ∈ st.db.schedulerJobs)
    (hfiled : job.Filed) (hrecurring : RecurringJob env job.name start period n job) (hn : 1 ≤ n) (hperiod : 0 < period)
    (hdates : ∀ k : Nat, k < n → IsDate ((start + k * period) * 1000000)) (ps : List (Pass Ω))
    (hstarts : ∀ x ∈ history env ps st, StartSucceeds env job.name x.1 x.2) :
    FiresInTurn env job.name start period n ps st ∧
    ((∃ row ∈ (passes env ps st).db.schedulerJobs, row.name = job.name) ↔ (firings env job.name (history env ps st)).length < n) := by
  have hname : NotOfInstance job.name := by
    intro jobType i hkey
    rcases hfiled with ⟨-, hnone⟩ | ⟨_, htype, -⟩
    · exact hnone i ⟨jobType, hkey⟩
    · exact htype hrecurring.type
  have hstanding : Standing env job.name start period n st.db.schedulerJobs := by
    obtain ⟨m, rfl⟩ := Nat.exists_eq_succ_of_ne_zero (Nat.one_le_iff_ne_zero.1 hn)
    exact ⟨job, hjob, hrecurring⟩
  have hfires := hstanding.fires_in_turn henv hperiod hkeys hname hdates hstarts
  refine ⟨hfires, ?_⟩
  have hleft := hfires.standing
  have hfew := hfires.few
  cases hm : n - (firings env job.name (history env ps st)).length with
  | zero =>
    rw [hm] at hleft
    constructor
    · rintro ⟨row, hrow, hrowname⟩
      exact absurd hrowname (hleft row hrow)
    · intro hless
      omega
  | succ m =>
    rw [hm] at hleft
    obtain ⟨row, hrow, hrow'⟩ := hleft
    exact ⟨fun _ => by omega, fun _ => ⟨row, hrow, hrow'.name⟩⟩

end
end

/-! A timer that is to fire at second 5 and at second 6, and a pass at second 5. -/

namespace Sample

def isoText (t : Int) : String :=
  if t = 5000000 then "1970-01-01T00:00:05+00:00"
  else if t = 6000000 then "1970-01-01T00:00:06+00:00"
  else String.ofList (tallyInt t)

def isoTime (s : String) : Option Int :=
  if s = "1970-01-01T00:00:05+00:00" then some 5000000
  else if s = "1970-01-01T00:00:06+00:00" then some 6000000
  else match s.toList with
    | '+' :: rest => some (rest.length - 1)
    | '-' :: rest => some (-(rest.length - 1))
    | _ => none

def calendarEnv : Env Review Bool := { env with fromisoformat := isoTime, isoformat := isoText }

theorem calendarEnv_calendar : calendarEnv.Calendar where
  parses := by
    intro t _
    simp only [calendarEnv, isoText]
    split
    · rename_i h5
      rw [h5]
      rfl
    · split
      · rename_i h6
        rw [h6]
        rfl
      · have hchars : ∀ text : String, text.toList.head? = some '1' → String.ofList (tallyInt t) ≠ text := by
          rintro text hhead rfl
          simp only [tallyInt, String.toList_ofList, List.head?_cons, Option.some.injEq] at hhead
          split at hhead <;> exact absurd hhead (by decide)
        rw [isoTime, if_neg (hchars _ rfl), if_neg (hchars _ rfl), String.toList_ofList, tallyInt]
        by_cases hsign : 0 ≤ t
        · simp [hsign, tally, abs_of_nonneg]
        · simp [hsign, tally, abs_of_neg (not_le.1 hsign)]
  blank := by rfl
  whole := by
    intro seconds _
    simp only [calendarEnv, env]
    omega

def cycleJob : SchedulerJob :=
  ⟨5, "t", "timer_start|pd:2|q:a", .timerStart, none, some 2, none, none, 5000000,
    [("timer_task", .dict [(.str "task_spec_name", .str "a"), (.str "event_value", .dict [(.str "next", .str "1970-01-01T00:00:05+00:00"),
      (.str "duration", .float 1), (.str "cycles", .int 2)])])], 0, 0⟩

def cycleStore : Store := ⟨10, { dbOf "service" with schedulerJobs := [cycleJob] }⟩

def cyclePass : Pass Bool := ⟨some 5000000, 1, "inline", none, true⟩

theorem cycleJob_recurring : RecurringJob calendarEnv cycleJob.name 5 1 2 cycleJob := by
  refine ⟨rfl, rfl, ⟨rfl, rfl⟩, by decide, _, rfl, ⟨_, _, rfl, rfl, by decide, ?_, rfl⟩⟩
  simp [PyVal.asDict, PyVal.asMapping, PyVal.asStr, Dict.get, PyVal.asNumber]

theorem cycleStore_starts : StartSucceeds calendarEnv cycleJob.name cyclePass cycleStore := by
  intro before job after outcomes s hbatch _ hattempts
  have hsingle : cyclePass.batch calendarEnv cycleStore = [cycleJob] := by decide +kernel
  rw [hsingle, List.singleton_eq_append_iff] at hbatch
  rcases hbatch with ⟨rfl, hbatch⟩ | ⟨-, hbatch⟩
  · obtain ⟨rfl, rfl⟩ := List.cons.inj hbatch
    cases hattempts
    have hok : ((do
        let user ← ensureTimerStartSystemUser "t" 5000000
        initializeProcessInstanceFromTimerStart calendarEnv "t" 2 user.id "a" (some 5000000) : M Bool Unit).run
          (cyclePass.locked calendarEnv cycleStore)).1 = .ok () := by decide +kernel
    obtain ⟨user, s₁, huser, hstart⟩ := Prog.bind_ok.1 (Prod.ext hok rfl)
    exact ⟨_, 2, _, _, user, s₁, "a", rfl, rfl, rfl, rfl, huser, rfl, hstart⟩
  · simp at hbatch

end Sample

theorem finite_timer_fires_once :
    FiresInTurn Sample.calendarEnv Sample.cycleJob.name 5 1 2 [Sample.cyclePass] Sample.cycleStore ∧
    ((∃ row ∈ (passes Sample.calendarEnv [Sample.cyclePass] Sample.cycleStore).db.schedulerJobs, row.name = Sample.cycleJob.name) ↔
      (firings Sample.calendarEnv Sample.cycleJob.name (history Sample.calendarEnv [Sample.cyclePass] Sample.cycleStore)).length < 2) := by
  refine finite_timer_fires Sample.calendarEnv_calendar ⟨by decide, by decide, by decide⟩ (by simp [Sample.cycleStore])
    (.inl ⟨rfl, ?_⟩) Sample.cycleJob_recurring (by decide) (by decide) ?_ [Sample.cyclePass] ?_
  · rintro i ⟨jobType, hkey⟩
    have hchars := congrArg String.toList hkey
    have htext : (toString "pi:").toList = ['p', 'i', ':'] := rfl
    cases jobType <;> simp [Sample.cycleJob, instanceJobKey, joinWith, SchedulerJobType.value, htext] at hchars
  · intro k hk
    obtain rfl | rfl : k = 0 ∨ k = 1 := by omega
    · exact ⟨by decide, by decide⟩
    · exact ⟨by decide, by decide⟩
  · intro x hx
    rw [history, history, List.mem_singleton] at hx
    rw [hx]
    exact Sample.cycleStore_starts

end M8flowCore
