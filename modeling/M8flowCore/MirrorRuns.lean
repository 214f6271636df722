import M8flowCore.MirrorCalls
/-!
# The mirror in every run

Scheduler passes and operations keep the rows a mirror of the workflow, whether
their work is committed or rolled back. In every state a host may come to, the
rows of an instance are those of the workflow its snapshot restores to.
-/
open M8flowCore.Lib M8flowCore.Session

namespace M8flowCore

section
variable {W Ω : Type} {env : Env W Ω} {owner : Guid → Nat} {s s' : Tx Ω} {i : Nat} {tenantId : TenantId}
  {job : SchedulerJob} {occurredAt : Time} (henv : env.Engine owner) (hkeys : env.AddsNoKeys) (hfaults : env.Faults)

/-! ## Jobs -/

include henv

/-- A job of another instance, or one the instance does not wait for. -/
theorem deleteInstanceJob_fair (h : Fair env owner i s) {k : Nat} {jobType : SchedulerJobType}
    (hrun : (deleteSchedulerJob tenantId (instanceJobKey jobType k)).run s = (.ok (), s'))
    (hmine : i = k → Mirrors env owner i s'.view) : Fair env owner i s' := by
  have hserial := (((deleteSchedulerJob_aside _ _).of_ok hrun).travels (C := fun _ _ => False) h.serial).serial
  refine h.after (Q := fun _ _ => True) henv (k := k) ?_ hrun hserial fun _ hi => hmine hi
  exact retells_apart henv rfl (deleteSchedulerJob_touches _ ⟨_, rfl⟩ (List.Subset.refl _)) (by decide) (by decide)

theorem executeIntermediateTimerJob_fair (h : Fair env owner i s) (hjob : job.Filed) (htype : job.jobType = .intermediateTimer)
    (hrun : (executeIntermediateTimerJob env job occurredAt).run s = (.ok (), s')) : Fair env owner i s' := by
  obtain ⟨k, -, hkey, hid⟩ := hjob.resolve_left (by simp [htype])
  unfold executeIntermediateTimerJob at hrun
  simp only [hid] at hrun
  obtain ⟨pi, s₁, hload, h₁⟩ := Prog.bind_ok.1 hrun
  obtain ⟨rfl, hpi, -, rfl⟩ := loadProcessInstance_ok hload
  rw [hkey, htype] at h₁
  -- An instance that does not wait, or has nothing to wake, is asked for no timer.
  have hdelete : ∀ {s' : Tx Ω}, (deleteSchedulerJob job.m8fTenantId (instanceJobKey .intermediateTimer pi.id)).run s₁ =
      (.ok (), s') → (pi.status = .waiting ∨ pi.status = .userInputRequired → s₁.view.workflowStateJson pi = none) →
      Fair env owner i s' := by
    intro s' hdelete hasleep
    refine deleteInstanceJob_fair henv h hdelete ?_
    rintro rfl
    rw [deleteSchedulerJob_ok hdelete]
    refine h.mirrors.unasked fun tenantId status hstanding hstatus => ?_
    rw [h.serial.view.standing hpi, Option.some.injEq, Prod.mk.injEq] at hstanding
    rw [h.firm.stateOf (present_of_mem hpi)]
    exact hasleep (hstanding.2.symm ▸ hstatus)
  split at h₁
  · simp only [query, Prog.gets_bind_run] at h₁
    split at h₁
    · rename_i hnone
      exact hdelete h₁ fun _ => Option.isNone_iff_eq_none.1 hnone
    · exact refreshWaitingProcessInstanceWorkflow_fair henv h h₁
  · rename_i hasleep
    exact hdelete h₁ fun hstatus => absurd hstatus hasleep

include hfaults in
theorem executeProcessRetryJob_fair (h : Fair env owner i s) (hjob : job.Filed) (htype : job.jobType = .processRetry)
    (hrun : (executeProcessRetryJob env job occurredAt).run s = (.ok (), s')) : Fair env owner i s' := by
  obtain ⟨k, -, hkey, hid⟩ := hjob.resolve_left (by simp [htype])
  unfold executeProcessRetryJob at hrun
  simp only [hid] at hrun
  obtain ⟨pi, s₁, hload, h₁⟩ := Prog.bind_ok.1 hrun
  obtain ⟨rfl, -, -, rfl⟩ := loadProcessInstance_ok hload
  rw [hkey, htype] at h₁
  split at h₁
  · obtain ⟨userId, s₂, huser, hretry⟩ := Prog.bind_ok.1 h₁
    obtain ⟨-, rfl⟩ := ofExcept_ok huser
    exact retryProcessInstance_fair henv hfaults h hretry
  · exact deleteInstanceJob_fair henv h h₁ fun _ => h.mirrors.still (deleteRetryJob_still owner i h₁)

/-- Jobs that start instances are nobody's timers. -/
theorem deleteStartJob_fair (h : Fair env owner i s) {jobKey : String} (hkey : ∀ jobType i, jobKey ≠ instanceJobKey jobType i)
    (hrun : (deleteSchedulerJob tenantId jobKey).run s = (.ok (), s')) : Fair env owner i s' := by
  have hfiled := h.serial.view.aside ((deleteSchedulerJob_aside _ _).of_ok hrun)
  refine h.touched (k := 0) henv ?_ (L := [.startJob]) (by decide) (by decide) hrun hfiled
  exact deleteSchedulerJob_starts _ hkey (List.Subset.refl _)

include hkeys in
theorem executeTimerStartJob_fair (h : Fair env owner i s) (hkey : ∀ jobType i, job.jobKey ≠ instanceJobKey jobType i)
    (hrun : (executeTimerStartJob env job occurredAt).run s = (.ok (), s')) : Fair env owner i s' := by
  unfold executeTimerStartJob at hrun
  cases hdefinition : job.bpmnProcessDefinitionId with
  | none =>
    simp only [hdefinition] at hrun
    exact deleteStartJob_fair henv h hkey hrun
  | some definitionId =>
    simp only [hdefinition, query, Prog.gets_bind_run] at hrun
    split at hrun
    · exact deleteStartJob_fair henv h hkey hrun
    obtain ⟨timerTask, s₁, htask, h₁⟩ := Prog.bind_ok.1 hrun
    obtain ⟨-, rfl⟩ := ofExcept_ok htask
    obtain ⟨user, s₂, huser, h₂⟩ := Prog.bind_ok.1 h₁
    obtain ⟨specName, s₃, hspec, h₃⟩ := Prog.bind_ok.1 h₂
    obtain ⟨-, rfl⟩ := ofExcept_ok hspec
    obtain ⟨_, s₄, hstart, hnext⟩ := Prog.bind_ok.1 h₃
    have hfair₃ : Fair env owner i s₃ := by
      have hfiled := h.serial.view.aside ((ensureTimerStartSystemUser_aside _ _).of_ok huser)
      refine h.touched (k := 0) henv ?_ (L := [.seq, .shared]) (by decide) (by decide) huser hfiled
      exact ensureTimerStartSystemUser_touches _ _ (List.Subset.refl _)
    have hfair₄ := initializeProcessInstanceFromTimerStart_fair henv hkeys hfair₃ hstart
    have hfiled := hfair₄.serial.view.aside ((rescheduleOrDeleteTimerStartJob_aside env _ _ _).of_ok hnext)
    unfold rescheduleOrDeleteTimerStartJob at hnext
    obtain ⟨next, s₅, hpayload, h₅⟩ := Prog.bind_ok.1 hnext
    obtain ⟨-, rfl⟩ := ofExcept_ok hpayload
    cases next with
    | none => exact deleteStartJob_fair henv hfair₄ hkey h₅
    | some entry =>
      refine hfair₄.touched (k := 0) henv ?_ (L := [.seq, .startJob]) (by decide) (by decide) h₅ hfiled
      exact upsertSchedulerJob_starts _ _ _ rfl hkey (List.Subset.refl _)

include hkeys hfaults

theorem executeClaimedSchedulerJob_fair (h : Fair env owner i s) (hjob : job.Filed)
    (hrun : (executeClaimedSchedulerJob env job occurredAt).run s = (.ok (), s')) : Fair env owner i s' := by
  unfold executeClaimedSchedulerJob at hrun
  cases htype : job.jobType with
  | intermediateTimer =>
    rw [htype] at hrun
    exact executeIntermediateTimerJob_fair henv h hjob htype hrun
  | processRetry =>
    rw [htype] at hrun
    exact executeProcessRetryJob_fair henv hfaults h hjob htype hrun
  | timerStart =>
    rw [htype] at hrun
    refine executeTimerStartJob_fair henv hkeys h (fun jobType k hkey => ?_) hrun
    rcases hjob with ⟨-, hnone⟩ | ⟨k', hk', -, -⟩
    · exact hnone k ⟨jobType, hkey⟩
    · exact hk' htype

theorem attempts_fair {jobs : List SchedulerJob} (hjobs : ∀ job ∈ jobs, job.Filed) (h : Fair env owner i s)
    {outcomes : List (Option (String × Error))}
    (hrun : (Prog.mapEach jobs (attemptSchedulerJob env occurredAt)).run s = (.ok outcomes, s'))
    (hnone : outcomes.filterMap id = []) : Fair env owner i s' := by
  induction jobs generalizing s outcomes with
  | nil =>
    obtain ⟨-, rfl⟩ := Prog.pure_ok.1 hrun
    exact h
  | cons job jobs ih =>
    rw [Prog.mapEach_cons] at hrun
    obtain ⟨outcome, s₁, hfirst, h₁⟩ := Prog.bind_ok.1 hrun
    obtain ⟨rest, s₂, hrest, h₂⟩ := Prog.bind_ok.1 h₁
    obtain ⟨rfl, rfl⟩ := Prog.pure_ok.1 h₂
    cases outcome with
    | some e => simp at hnone
    | none =>
      have hfair := executeClaimedSchedulerJob_fair henv hkeys hfaults h (hjobs job (by simp)) (attemptSchedulerJob_none hfirst)
      exact ih (fun job' hjob' => hjobs job' (by simp [hjob'])) hfair hrest hnone

/-- A pass that returns has run all its jobs. -/
theorem runDueSchedulerJobs_fair (h : Fair env owner i s) {now : Option Time} {limit : Int} {workerId : String}
    {tenant : Option TenantId} {count : Nat}
    (hrun : (runDueSchedulerJobs env now limit workerId tenant).run s = (.ok count, s')) : Fair env owner i s' := by
  unfold runDueSchedulerJobs at hrun
  simp only [resolveTimestamp, Prog.gets_bind_run] at hrun
  obtain ⟨jobs, s₁, hclaim, h₁⟩ := Prog.bind_ok.1 hrun
  obtain ⟨outcomes, s₂, hattempts, h₂⟩ := Prog.bind_ok.1 h₁
  obtain ⟨rfl, haside⟩ := claimDueSchedulerJobs_ok hclaim
  have hlocked : Fair env owner i s₁ := by
    refine h.touched (k := 0) henv ?_ (L := [.lock]) (by decide) (by decide) hclaim (h.serial.view.aside haside)
    unfold claimDueSchedulerJobs
    split
    · exact .raise _
    refine .bind ?_ fun jobs => .bind ?_ fun _ => .pure _
    · unfold listDueSchedulerJobs
      split
      · exact .raise _
      · exact query_touches _
    · exact write_touches (by decide) fun s => .lock s _ _ fun _ => rfl
  split at h₂
  · rename_i hnone
    obtain ⟨-, rfl⟩ := Prog.pure_ok.1 h₂
    exact attempts_fair henv hkeys hfaults (fun job hjob => h.firm.filed job (mem_of_due hjob)) hlocked hattempts hnone
  · simp at h₂
  · simp at h₂

end

/-! ## Operations -/

/-- The operation is the host's own `error` on instance `i`. -/
def Operation.Errors (i : Nat) : Operation → Prop
  | .command (.error _ j _ _) => j = i
  | _ => False

section
variable {W Ω : Type} {env : Env W Ω} {owner : Guid → Nat} {I : Nat → Prop} {s s' s₀ : Tx Ω} {i : Nat}
  {own durable : List (Nat × String)} (henv : env.Engine owner) (hkeys : env.AddsNoKeys) (hfaults : env.Faults)
include henv

theorem recordEventCommand_fair (h : Fair env owner i s) {tenantId : TenantId} {k : Nat} {eventType : Option EventType}
    {taskGuid : Option Guid} {userId : Option Nat} {occurredAt : Option Time}
    (hrun : (recordEventCommand env tenantId k eventType taskGuid userId occurredAt).run s = (.ok (), s')) :
    Fair env owner i s' := by
  have hfiled := (recordEventCommand_moved h.serial.view hrun).filed
  unfold recordEventCommand at hrun
  simp only [resolveTimestamp, Prog.gets_bind_run] at hrun
  cases eventType with
  | some eventType =>
    refine h.touched (k := k) henv ?_ (L := [.seq, .event]) (by decide) (by decide) hrun hfiled
    exact recordProcessInstanceEvent_touches _ rfl _ _ _ _ (List.Subset.refl _)
  | none =>
    dsimp only at hrun
    cases userId with
    | none =>
      obtain ⟨_, s₁, -, h₁⟩ := Prog.bind_ok.1 hrun
      simp at h₁
    | some userId =>
      obtain ⟨_, s₁, -, h₁⟩ := Prog.bind_ok.1 hrun
      obtain ⟨_, s₂, -, h₂⟩ := Prog.bind_ok.1 h₁
      simp at h₂

include hkeys hfaults

theorem executeCommand_fair (h : Fair env owner i s) {c : Command} (hrooted : (Operation.command c).Rooted)
    (herror : ¬ (Operation.command c).Errors i) (hrun : (executeCommand env c).run s = (.ok (), s')) : Fair env owner i s' := by
  cases c with
  | claimTask tenantId workItemId userId => exact claimTask_fair henv h hrun
  | completeTask tenantId workItemId userId completedAt payload => exact completeTask_fair henv h hrun
  | recordEvent tenantId k eventType taskGuid userId occurredAt => exact recordEventCommand_fair henv h hrun
  | createProcessInstance tenantId new => exact absurd hrooted (by simp [Operation.Rooted])
  | importDefinition tenantId userId args =>
    obtain ⟨_, s₁, himport, h₁⟩ := Prog.bind_ok.1 hrun
    obtain ⟨-, rfl⟩ := Prog.pure_ok.1 h₁
    have hfiled := h.serial.view.aside ((importBpmnProcessDefinition_aside env _ _ _).of_ok himport)
    exact h.touched (k := 0) henv (importBpmnProcessDefinition_touches _ _ _) (by decide) (by decide) himport hfiled
  | initializeFromDefinition tenantId definitionId args resolver =>
    exact initializeProcessInstanceFromDefinition_fair henv hkeys h hrun
  | initializeWorkflow tenantId k source startedAt => exact initializeProcessInstanceWorkflow_fair henv h hrun
  | upsertMetadata tenantId k key value updatedAt createdAt =>
    have hfiled := h.serial.view.aside ((upsertProcessInstanceMetadata_aside env _ _ _ _ _ _).of_ok hrun)
    exact h.touched (k := 0) henv (upsertProcessInstanceMetadata_touches _ _ _ _ _ _ (List.Subset.refl _))
      (by decide) (by decide) hrun hfiled
  | suspend tenantId k userId at_ => exact suspendProcessInstance_fair henv h hrun
  | resume tenantId k userId at_ => exact resumeProcessInstance_fair henv h hrun
  | error tenantId k userId at_ =>
    have hserial := ((errorProcessInstance_moved env h.serial.view hrun).travels h.serial).serial
    refine h.after (Q := fun _ _ => True) henv (k := k) ?_ hrun hserial fun _ hi => absurd hi.symm herror
    exact retells_apart henv rfl (errorProcessInstance_touches _ rfl _ _ (List.Subset.refl _)) (by decide) (by decide)
  | retry tenantId k userId at_ => exact retryProcessInstance_fair henv hfaults h hrun
  | scheduleRetry tenantId k userId retryAt at_ => exact scheduleProcessInstanceRetry_fair henv h hrun
  | terminate tenantId k userId at_ => exact terminateProcessInstance_fair henv h hrun

theorem Operation.fair (h : Fair env owner i s) {op : Operation} (hrooted : op.Rooted) (herror : ¬ op.Errors i)
    (hrun : (op.run env).run s = (.ok (), s')) : Fair env owner i s' := by
  cases op with
  | command c => exact executeCommand_fair henv hkeys hfaults h hrooted herror hrun
  | advance tenantId k guid completedAt => exact advanceProcessInstanceWorkflow_fair henv h hrun
  | assignPendingTasks tenantId userId =>
    obtain ⟨items, s₁, hassign, h₁⟩ := Prog.bind_ok.1 hrun
    obtain ⟨-, rfl⟩ := Prog.pure_ok.1 h₁
    have hfiled := h.serial.view.aside ((assignPendingTasksForUser_aside _ _).of_ok hassign)
    refine h.touched (k := 0) henv ?_ (L := [.shared]) (by decide) (by decide) hassign hfiled
    refine .bind (.of_readOnly (ensureUserBelongsToTenant_readOnly _ _)) fun _ => .bind (query_touches _) fun items => ?_
    exact .bind (write_shared (by decide) fun _ => ⟨rfl, rfl, rfl, rfl, rfl, rfl, rfl⟩) fun _ => .pure _
  | runDueJobs now limit workerId tenant =>
    obtain ⟨count, s₁, hpass, h₁⟩ := Prog.bind_ok.1 hrun
    obtain ⟨-, rfl⟩ := Prog.pure_ok.1 h₁
    exact runDueSchedulerJobs_fair henv hkeys hfaults h hpass

/-! ## What is committed -/

omit hkeys hfaults in
theorem Fair.commit (h : Fair env owner i s) : Mirrors env owner i s.commit :=
  h.mirrors.still (h.firm.untouched_merge henv.lawful (.of_current h.serial.current)).still

omit hkeys hfaults in
/-- An instance that a second session has made. -/
theorem Acts.mirrors_new {n : Nat} (hfirm : Firm env owner [s.view, s.base] s.fork) (hi : s.seq ≤ i)
    (h : Acts env owner (n ≤ ·) (· ∈ preparing) s.fork [] s') : Mirrors env owner i s'.view := by
  have hnone : s.committed.processInstance? i = none := by
    refine List.find?_eq_none.2 fun p hp => ?_
    have hlt := (hfirm.integral.keyed.instance_lt p.identity (mem_instanceIds.2 ⟨s.committed, by simp [Tx.fork], p, hp, rfl⟩)).1
    simp only [ProcessInstance.identity, Tx.fork] at hlt
    simp only [beq_iff_eq]
    omega
  have hstatus : ∀ p ∈ s'.view.processInstances, p.id = i → p.status = .notStarted := by
    refine h.keeps (R := fun s s' : Tx Ω => (∀ p ∈ s.view.processInstances, p.id = i → p.status = .notStarted) →
      ∀ p ∈ s'.view.processInstances, p.id = i → p.status = .notStarted) ⟨fun _ h => h, fun h₁ h₂ h => h₂ (h₁ h)⟩ ?_ ?_
    · intro texts s s' ha hs
      cases ha with
      | change hI hA hl hF hc =>
        cases hc with
        | shared hdb =>
          rw [hdb.processInstances]
          exact hs
        | details _ f hf =>
          intro p hp hid
          obtain ⟨p₀, hp₀, rfl⟩ := mem_updateWhere.1 hp
          split at hid
          · rw [if_pos ‹_›]
            have hsame : (f p₀).id = p₀.id := congrArg InstanceIdentity.id (hf p₀).1
            exact (congrArg Phase.status (hf p₀).2).trans (hs p₀ hp₀ (hsame.symm.trans hid))
          · rw [if_neg ‹_›]
            exact hs p₀ hp₀ hid
        | newInstance _ process row _ _ _ _ _ hstatus =>
          intro p hp hid
          rcases List.mem_append.1 hp with hp | hp
          · exact hs p hp hid
          · rw [List.mem_singleton.1 hp]
            exact hstatus
        | status => exact absurd hA (by decide)
        | _ => exact hs
      | lane _ _ _ hA => exact hs
      | lock _ _ _ hA => exact hs
      | store hI hA => exact absurd hA.2 (by decide)
    · intro p hp hid
      exact absurd (by simpa using hid) (List.find?_eq_none.1 hnone p hp)
  have hitems := (h.beside_of_preparing.beside henv).1
  refine .unstarted (fun tenantId status hstanding => ?_) ?_ (List.eq_nil_iff_forall_not_mem.2 fun g hg => ?_)
  · obtain ⟨p, hp, heq⟩ := Option.map_eq_some_iff.1 hstanding
    obtain ⟨-, rfl⟩ := Prod.mk.inj heq
    exact hstatus p (List.mem_of_find?_eq_some hp) (processInstance?_id hp)
  · rw [h.beside_of_preparing.stateOf henv not_beside_newItem hfirm i]
    exact stateOf_none hnone
  · obtain ⟨item, hitem, hinstance, -, -⟩ := mem_openGuids.1 hg
    have hmem : item.identity ∈ s.committed.workItems.map (·.identity) := hitems ▸ List.mem_map_of_mem hitem
    obtain ⟨item₀, hitem₀, hsame⟩ := List.mem_map.1 hmem
    have hlt := hfirm.integral.keyed.item_lt _ (mem_itemIds.2 ⟨s.committed, by simp [Tx.fork], item₀, hitem₀, rfl⟩)
    rw [hsame] at hlt
    simp only [WorkItem.identity, Tx.fork] at hlt
    omega

omit hkeys hfaults in
/-- Whatever a call commits beside its session mirrors. -/
theorem Story.mirrors_committed (h : Story env owner I s₀ own durable s) (hfirm : Firm env owner [] s₀)
    (hmirrors : Mirrors env owner i s₀.committed) : Mirrors env owner i s.committed := by
  induction h with
  | start => exact hmirrors
  | act _ ha ih =>
    rw [(ha.committed henv).2]
    exact ih
  | @failed _ _ _ _ _ k h' _ hacts _ hbroken ih =>
    by_cases hi : i = k
    · subst hi
      exact hbroken.mirrors
    · exact ih.still (Acts.untouched (I := (· = k)) henv not_beside_newItem hi hacts (h'.firm henv hfirm).fork).still
  | dropped _ _ ih => exact ih
  | @baseline _ _ s s₁ h' _ hacts ih =>
    by_cases hi : s.seq ≤ i
    · exact hacts.mirrors_new henv (h'.firm henv hfirm).fork hi
    · exact ih.still (hacts.beside_of_preparing.untouched henv not_beside_newItem hi (h'.firm henv hfirm).fork).still

/-! ## Runs -/

variable {st st' st₀ : Store} {op : Operation} {ops : List Operation}

theorem CleanStep.mirrors (hst : Sorted env owner st) (hfiled : Filed st.seq st.db) (hrooted : op.Rooted) (herror : ¬ op.Errors i)
    (hstep : CleanStep env op st st') (h : Mirrors env owner i st.db) : Mirrors env owner i st'.db := by
  have hfirm : ∀ world : Ω, Firm env owner [] (st.session world) := Firm.begin hst.kept
  cases hstep with
  | @commit world s hrun =>
    have hfair : Fair env owner i (st.session world) := ⟨hfirm world, Store.serial hfiled world, h⟩
    exact (Operation.fair henv hkeys hfaults hfair hrooted herror hrun).commit henv
  | @rollback world r s hrun =>
    obtain ⟨own, durable, hdone, -⟩ := Operation.done henv hkeys hrooted hst hrun
    exact hdone.story.mirrors_committed henv (hfirm world) h

theorem CleanRun.mirrors (hst : Sorted env owner st₀) (hfiled : Filed st₀.seq st₀.db) (hrun : CleanRun env st₀ ops st)
    (hops : ∀ op ∈ ops, op.Rooted ∧ ¬ op.Errors i) (h : Mirrors env owner i st₀.db) : Mirrors env owner i st.db := by
  induction hrun with
  | nil => exact h
  | @snoc ops _ _ _ hrun hstep ih =>
    have hbefore : ∀ op ∈ ops, op.Rooted ∧ ¬ op.Errors i := fun op hop => hops op (List.mem_append_left _ hop)
    obtain ⟨hrooted, herror⟩ := hops _ (List.mem_append_right _ (List.mem_singleton.2 rfl))
    exact hstep.mirrors henv hkeys hfaults (hrun.run.sorted henv hkeys (fun op hop => (hbefore op hop).1) hst)
      (hrun.filed henv.lawful hfiled) hrooted herror (ih hbefore)

end

/-! ## What a snapshot shows once it is restored -/

section
variable {W Ω : Type}

/-- The second at which a waiting timer is due. -/
def dueSecond (env : Env W Ω) (t : SpiffTask) : Except Error Int := waitingTimerEventValue t >>= timerEventRunAtInSeconds env

/-- The same, read off the core of the timer. -/
def TaskCore.dueSecond (env : Env W Ω) (c : TaskCore) : Except Error Int :=
  (match c.eventValue with
    | some (.str text) => .ok (.str text)
    | some (.dict entries) => .ok (.dict entries)
    | _ => .error (.validation "Waiting timer task is missing its event_value")) >>= timerEventRunAtInSeconds env

variable {env : Env W Ω} {owner : Guid → Nat} {w w' : W} {i : Nat} {db : Db}

/-- What is read off the cores of some tasks survives. -/
theorem filter_tasks_of_cores {α : Type} {p : SpiffTask → Bool} {f : SpiffTask → α} (p' : TaskCore → Bool) (f' : TaskCore → α)
    (hp : ∀ t, p t = p' t.core) (hf : ∀ t, f t = f' t.core) (h : (env.tasks w').map (·.core) = (env.tasks w).map (·.core)) :
    ((env.tasks w').filter p).map f = ((env.tasks w).filter p).map f := by
  have hcores : ∀ w : W, ((env.tasks w).filter p).map f = (((env.tasks w).map (·.core)).filter p').map f' := by
    intro w
    rw [List.filter_map, List.map_map]
    exact (congrArg (List.map f) (List.filter_congr fun t _ => hp t)).trans (List.map_congr_left fun t _ => hf t)
  rw [hcores, hcores, h]

theorem readyManual_of_cores (h : (env.tasks w').map (·.core) = (env.tasks w).map (·.core)) :
    (env.readyManualTasks w').map (fun t => some t.id) = (env.readyManualTasks w).map fun t => some t.id :=
  filter_tasks_of_cores (fun c => c.state == .ready && c.manual) (fun c => some c.id) (fun _ => rfl) (fun _ => rfl) h

theorem waiting_of_cores (h : (env.tasks w').map (·.core) = (env.tasks w).map (·.core)) :
    (env.waitingTasks w').map (·.core) = (env.waitingTasks w).map (·.core) :=
  filter_tasks_of_cores (fun c => c.state == .waiting) id (fun _ => rfl) (fun _ => rfl) h

theorem dueSeconds_of_cores (h : (env.tasks w').map (·.core) = (env.tasks w).map (·.core)) (startEvents : Bool) :
    (waitingTimers env w' startEvents).map (dueSecond env) = (waitingTimers env w startEvents).map (dueSecond env) := by
  unfold waitingTimers Env.waitingTasks
  rw [List.filter_filter, List.filter_filter]
  exact filter_tasks_of_cores
    (fun c => (c.timer.isSome && (c.specType == "StartEvent" && c.topLevel) == startEvents) && c.state == .waiting)
    (TaskCore.dueSecond env) (fun _ => rfl) (fun _ => rfl) h

theorem statusOf_restored (hlaw : env.Lawful) {text : String} (htext : env.serializeJson w = .ok text)
    (hrestore : env.deserializeJson text = .ok w') : statusOf env w' = statusOf env w := by
  obtain ⟨hcores, hcompleted⟩ := hlaw.restored htext hrestore
  have hready : env.readyManualTasks w' = [] ↔ env.readyManualTasks w = [] := by
    rw [← List.map_eq_nil_iff, readyManual_of_cores hcores, List.map_eq_nil_iff]
  have hwaiting : env.waitingTasks w' = [] ↔ env.waitingTasks w = [] := by
    rw [← List.map_eq_nil_iff, waiting_of_cores hcores, List.map_eq_nil_iff]
  unfold statusOf
  simp only [hcompleted, hready, hwaiting, ne_eq]

theorem Pictured.restored (hlaw : env.Lawful) {text : String} (htext : env.serializeJson w = .ok text)
    (hrestore : env.deserializeJson text = .ok w') (h : Pictured env i w db) : Pictured env i w' db := by
  have hcores := (hlaw.restored htext hrestore).1
  refine ⟨fun t ht => ?_, readyManual_of_cores hcores ▸ h.items⟩
  have hcore : t.core ∈ (env.tasks w).map (·.core) := hcores ▸ List.mem_map_of_mem ht
  obtain ⟨t₀, ht₀, hsame⟩ := List.mem_map.1 hcore
  obtain ⟨row, hrow, hstate, hinstance⟩ := h.rows t₀ ht₀
  have hid : t₀.id = t.id := congrArg TaskCore.id hsame
  have hstates : t₀.state = t.state := congrArg TaskCore.state hsame
  exact ⟨row, hid ▸ hrow, hstates ▸ hstate, hinstance⟩

/-! ## When the timers are due -/

theorem map_of_mapM {ε α β : Type} {f : α → Except ε β} {xs : List α} {ys : List β} (h : xs.mapM f = .ok ys) :
    xs.map f = ys.map .ok := by
  induction xs generalizing ys with
  | nil =>
    rw [List.mapM_nil] at h
    obtain rfl := Except.ok.inj h
    rfl
  | cons x xs ih =>
    rw [List.mapM_cons] at h
    cases hx : f x with
    | error e =>
      rw [hx] at h
      cases h
    | ok y =>
      cases hxs : xs.mapM f with
      | error e =>
        rw [hx, hxs] at h
        cases h
      | ok zs =>
        rw [hx, hxs] at h
        obtain rfl := Except.ok.inj h
        rw [List.map_cons, List.map_cons, hx, ih hxs]

theorem timerPayload_due (t : SpiffTask) (eventDefinitionType : String) :
    (timerPayload env t eventDefinitionType).map (·.runAtInSeconds) = dueSecond env t := by
  unfold timerPayload dueSecond
  cases hvalue : waitingTimerEventValue t with
  | error e => rfl
  | ok value =>
    cases hdue : timerEventRunAtInSeconds env value with
    | error e => simp [bind, Except.bind, Except.map, hdue]
    | ok n => simp [bind, Except.bind, Except.map, hdue, pure, Except.pure]

/-- The payloads run when their timers are due. -/
theorem dueSeconds_of_payloads {startEvents : Bool} {payloads : List TimerPayload}
    (h : collectWaitingTimerPayloads env w startEvents = .ok payloads) :
    ((payloads.map (·.runAtInSeconds)).map .ok).Perm ((waitingTimers env w startEvents).map (dueSecond env)) := by
  unfold collectWaitingTimerPayloads at h
  cases hpayloads : (waitingTimers env w startEvents).mapM fun t => timerPayload env t (t.timer.getD "") with
  | error e =>
    rw [hpayloads] at h
    cases h
  | ok collected =>
    rw [hpayloads] at h
    obtain rfl := Except.ok.inj h
    have hdue := congrArg (List.map (Except.map (·.runAtInSeconds))) (map_of_mapM hpayloads)
    rw [List.map_map, List.map_map] at hdue
    have hsame : (waitingTimers env w startEvents).map (dueSecond env) = (collected.map (·.runAtInSeconds)).map .ok := by
      rw [List.map_map]
      refine (List.map_congr_left fun t _ => ?_).trans hdue
      exact (timerPayload_due t _).symm
    rw [hsame]
    exact (List.perm_insertionSort _ collected).map _ |>.map _

theorem minimum_eq_some {l : List Int} {n : Int} : minimum l = some n ↔ n ∈ l ∧ ∀ m ∈ l, n ≤ m := by
  have hmin : minimum l = l.min? := by cases l <;> rfl
  rw [hmin, List.min?_eq_some_iff]

theorem minimum_eq_none {l : List Int} : minimum l = none ↔ l = [] := by
  cases l <;> simp [minimum]

theorem eq_nil_or_singleton {α : Type} {l : List α} (hnodup : l.Nodup) (h : ∀ a ∈ l, ∀ b ∈ l, a = b) : l = [] ∨ ∃ a, l = [a] := by
  rcases l with _ | ⟨a, _ | ⟨b, l⟩⟩
  · exact .inl rfl
  · exact .inr ⟨a, rfl⟩
  · obtain rfl := h a (by simp) b (by simp)
    exact absurd (List.mem_cons_self ..) (List.nodup_cons.1 hnodup).1

/-- A tenant has at most one timer job for an instance. -/
theorem timerRuns_single (i : Nat) (tenantId : TenantId)
    (hnames : (db.schedulerJobs.map fun job => (job.m8fTenantId, job.jobKey)).Nodup) :
    db.timerRuns i tenantId = [] ∨ ∃ t, db.timerRuns i tenantId = [t] := by
  have hone := eq_nil_or_singleton (l := db.schedulerJobs.filter (isTimerJobOf tenantId i))
    ((List.Nodup.of_map _ hnames).filter _) fun a ha b hb => ?_
  · rcases hone with hnil | ⟨job, hjob⟩
    · exact .inl (congrArg (List.map _) hnil)
    · exact .inr ⟨job.runAt, congrArg (List.map _) hjob⟩
  · obtain ⟨ha, hofa⟩ := List.mem_filter.1 ha
    obtain ⟨hb, hofb⟩ := List.mem_filter.1 hb
    simp only [isTimerJobOf, Bool.and_eq_true, beq_iff_eq] at hofa hofb
    exact eq_of_nodup_map hnames ha hb (Prod.ext (hofa.1.2.trans hofb.1.2.symm) (hofa.2.trans hofb.2.symm))

/-- What a waiting instance keeps its timer job for. -/
theorem Timed.due {tenantId : TenantId} {status : ProcessInstanceStatus} (hlaw : env.Lawful) {text : String}
    (htext : env.serializeJson w = .ok text) (hrestore : env.deserializeJson text = .ok w')
    (hnames : (db.schedulerJobs.map fun job => (job.m8fTenantId, job.jobKey)).Nodup) (h : Timed env i tenantId status w db) :
    db.timerRuns i tenantId = [] ∧ waitingTimers env w' false = [] ∨
      ∃ n, db.timerRuns i tenantId = [n * 1000000] ∧ (∃ t ∈ waitingTimers env w' false, dueSecond env t = .ok n) ∧
        ∀ t ∈ waitingTimers env w' false, ∃ m, dueSecond env t = .ok m ∧ n ≤ m := by
  obtain ⟨payloads, hpayloads, hruns⟩ := h.job
  have hdue := dueSeconds_of_payloads hpayloads
  rw [← dueSeconds_of_cores (hlaw.restored htext hrestore).1] at hdue
  cases hmin : minimum (payloads.map (·.runAtInSeconds)) with
  | none =>
    rw [minimum_eq_none] at hmin
    rw [hmin, List.map_nil, List.nil_perm, List.map_eq_nil_iff] at hdue
    refine .inl ⟨List.eq_nil_iff_forall_not_mem.2 fun t ht => ?_, hdue⟩
    obtain ⟨n, hn, -⟩ := (hruns t).1 ht
    simp [hmin, minimum] at hn
  | some n =>
    obtain ⟨hmem, hleast⟩ := minimum_eq_some.1 hmin
    refine .inr ⟨n, ?_, ?_, fun t ht => ?_⟩
    · have hn : n * 1000000 ∈ db.timerRuns i tenantId := (hruns _).2 ⟨n, hmin, rfl⟩
      rcases timerRuns_single i tenantId hnames with hnil | ⟨t, hone⟩
      · simp [hnil] at hn
      · rw [hone] at hn
        rw [hone, List.mem_singleton.1 hn]
    · have hok := hdue.subset (List.mem_map_of_mem hmem)
      obtain ⟨t, ht, hn⟩ := List.mem_map.1 hok
      exact ⟨t, ht, hn⟩
    · have hok := hdue.symm.subset (List.mem_map_of_mem ht)
      obtain ⟨m, hm, heq⟩ := List.mem_map.1 hok
      exact ⟨m, heq.symm, hleast m hm⟩

end

/-! ## The mirror of every run -/

namespace Sample

theorem env_faults : env.Faults where
  raised := by
    rintro w ⟨context, w₀, up, message, up', h⟩
    obtain ⟨hrun, -⟩ := Prod.mk.inj h
    refine ⟨task w "s" "service" "ServiceTask" w.service false none, by simp [env, tasks], ?_, rfl⟩
    unfold runReview at hrun
    split at hrun
    · split at hrun
      · simp at hrun
      · obtain ⟨-, rfl⟩ := Prod.mk.inj hrun
        rfl
    · split at hrun <;> simp at hrun
  updateData _ _ := rfl
  updateTaskTreeData _ _ := rfl

/-- The store after a review with a timer has started. -/
def timed : Store := Store.after env start true ⟨10, dbOf "reviews with timer"⟩

/-- What is there after a process whose service task fails was started. -/
def failed : Store :=
  let s := ((start.run env).run (Store.session ⟨10, dbOf "service"⟩ false)).2
  ⟨s.seq, s.committed⟩

theorem failed_run : CleanRun env ⟨10, dbOf "service"⟩ [start] failed := by
  unfold failed
  rcases hrun : (start.run env).run (Store.session ⟨10, dbOf "service"⟩ false) with ⟨r, s⟩
  exact .snoc .nil (.rollback hrun)

theorem dbOf_unused (source : String) : Store.Unused ⟨10, dbOf source⟩ := ⟨rfl, rfl, rfl, rfl, rfl, rfl⟩

end Sample

section
variable {W Ω : Type} {env : Env W Ω} {owner : Guid → Nat} {st st₀ : Store} {ops : List Operation} {p : ProcessInstance}

theorem CleanRun.mirrored (henv : env.Engine owner) (hkeys : env.AddsNoKeys) (hfaults : env.Faults) (hunused : st₀.Unused)
    (hevents : st₀.db.events = []) (hrun : CleanRun env st₀ ops st) (hp : p ∈ st.db.processInstances)
    (hops : ∀ op ∈ ops, op.Rooted ∧ ¬ op.Errors p.id) :
    Mirrors env owner p.id st.db ∧ st.db.standing p.id = some (p.m8fTenantId, p.status) := by
  have hblank : st₀.Blank := ⟨hunused.processInstances, hunused.workItems, hevents⟩
  refine ⟨hrun.mirrors henv hkeys hfaults hunused.sorted hblank.filed hops (.absent ?_), ?_⟩
  · simp [Db.standing, Db.processInstance?, hunused.processInstances]
  · exact (hrun.filed henv.lawful hblank.filed).standing hp

/-- **The timer job of a waiting instance runs when the first of its timers is
due**, and there is one exactly if a timer is waiting. -/
theorem timer_job_due (henv : env.Engine owner) (hkeys : env.AddsNoKeys) (hfaults : env.Faults) (hunused : st₀.Unused)
    (hevents : st₀.db.events = []) (hrun : CleanRun env st₀ ops st) (hp : p ∈ st.db.processInstances)
    (hops : ∀ op ∈ ops, op.Rooted ∧ ¬ op.Errors p.id) (hstatus : p.status = .waiting ∨ p.status = .userInputRequired)
    {text : String} (htext : st.db.stateOf p.id = some text) :
    ∃ w, env.deserializeJson text = .ok w ∧
      (st.db.timerRuns p.id p.m8fTenantId = [] ∧ waitingTimers env w false = [] ∨
        ∃ n, st.db.timerRuns p.id p.m8fTenantId = [n * 1000000] ∧ (∃ t ∈ waitingTimers env w false, dueSecond env t = .ok n) ∧
          ∀ t ∈ waitingTimers env w false, ∃ m, dueSecond env t = .ok m ∧ n ≤ m) := by
  obtain ⟨hmirrors, hstanding⟩ := hrun.mirrored henv hkeys hfaults hunused hevents hp hops
  have hst : Sorted env owner st := hrun.run.sorted henv hkeys (fun op hop => (hops op hop).1) hunused.sorted
  have hlive : p.status.isTerminal = false := by rcases hstatus with h | h <;> rw [h] <;> rfl
  obtain ⟨w, hw, -, -, htimed⟩ := hmirrors.live hstanding hlive htext
  obtain ⟨w', hw', -⟩ := henv.lawful.restore hw
  exact ⟨w', hw', (htimed hstatus).due henv.lawful hw hw' hst.jobs.names⟩

open Sample in
/-- A review with a timer, from its start on. -/
theorem timer_job_due_review : ∃ p ∈ timed.db.processInstances, ∃ w n, timed.db.timerRuns p.id "t" = [n * 1000000] ∧
    ∃ t ∈ waitingTimers Sample.env w false, dueSecond Sample.env t = .ok n := by
  have hstarted : ∃ p ∈ timed.db.processInstances, p.id = 11 ∧ p.status = .userInputRequired ∧ p.m8fTenantId = "t" ∧
      (timed.db.stateOf p.id).isSome ∧ timed.db.timerRuns p.id "t" ≠ [] := by decide +kernel
  obtain ⟨p, hp, -, hstatus, htenant, hstate, hruns⟩ := hstarted
  obtain ⟨text, htext⟩ := Option.isSome_iff_exists.1 hstate
  obtain ⟨w, -, hnone | ⟨n, hn, hdue, -⟩⟩ := timer_job_due env_engine env_addsNoKeys env_faults
    (dbOf_unused "reviews with timer") rfl
    (.snoc .nil (.after (by decide +kernel)) : CleanRun Sample.env ⟨10, dbOf "reviews with timer"⟩ [start] timed) hp
    (by simp [start, Operation.Rooted, Operation.Errors]) (.inr hstatus) htext
  · exact absurd (htenant ▸ hnone.1) hruns
  · exact ⟨p, hp, w, n, htenant ▸ hn, hdue⟩

/-- **An instance in `error` has a failed service task to retry**, and nothing to
claim or to complete. -/
theorem error_has_failed_task (henv : env.Engine owner) (hkeys : env.AddsNoKeys) (hfaults : env.Faults) (hunused : st₀.Unused)
    (hevents : st₀.db.events = []) (hrun : CleanRun env st₀ ops st) (hp : p ∈ st.db.processInstances)
    (hops : ∀ op ∈ ops, op.Rooted ∧ ¬ op.Errors p.id) (herror : p.status = .error) :
    (∃ text w, st.db.stateOf p.id = some text ∧ env.deserializeJson text = .ok w ∧
      ∀ metadata, env.erroredServiceTasks (applyMetadataToWorkflow env w metadata) ≠ []) ∧
    ∀ item ∈ st.db.workItems, item.processInstanceId = p.id → item.completed = true := by
  obtain ⟨hmirrors, hstanding⟩ := hrun.mirrored henv hkeys hfaults hunused hevents hp hops
  rw [herror] at hstanding
  refine ⟨?_, fun item hitem hof => ?_⟩
  · obtain ⟨text, w, htext, hw, hraised⟩ := hmirrors.failed hstanding
    obtain ⟨w', hw', -⟩ := henv.lawful.restore hw
    exact ⟨text, w', htext, hw', erroredServiceTasks_restored henv.lawful hfaults hraised hw hw'⟩
  · by_contra hopen
    have hmem := mem_openGuids.2 ⟨item, hitem, hof, Bool.eq_false_iff.2 hopen, rfl⟩
    simp [hmirrors.closed hstanding (.inl rfl)] at hmem

end

open Sample in
/-- The failure a service task stores when its process is started. -/
theorem error_has_failed_task_service : ∃ p ∈ failed.db.processInstances, p.status = .error ∧
    ∃ text w, failed.db.stateOf p.id = some text ∧ env.deserializeJson text = .ok w ∧
      ∀ metadata, env.erroredServiceTasks (applyMetadataToWorkflow env w metadata) ≠ [] := by
  have hstarted : ∃ p ∈ failed.db.processInstances, p.status = .error := by decide +kernel
  obtain ⟨p, hp, herror⟩ := hstarted
  exact ⟨p, hp, herror, (error_has_failed_task env_engine env_addsNoKeys env_faults (dbOf_unused "service") rfl failed_run hp
    (by simp [start, Operation.Rooted, Operation.Errors]) herror).1⟩

end M8flowCore
