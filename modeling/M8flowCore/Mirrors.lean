import M8flowCore.Bystanders
/-!
# The rows mirror the workflow

Of a live instance with a snapshot, the task rows, the open work items and the
timer job are those of the workflow the snapshot restores to. An instance that
is over has no open item, and one in `error` has a failed service task to run
again. Saves establish this; what the other operations do keeps it.
-/
open M8flowCore.Lib M8flowCore.Session

namespace M8flowCore

/-! ## What an instance looks like -/

namespace Db
variable (db : Db) (i : Nat)

/-- Tenant and status of an instance. -/
def standing : Option (TenantId × ProcessInstanceStatus) :=
  (db.processInstance? i).map fun p => (p.m8fTenantId, p.status)

/-- The tasks an instance has open items for. -/
def openGuids : List (Option Guid) := (db.openWorkItems i).map (·.taskGuid)

/-- When an instance's intermediate timer jobs are to run. -/
def timerRuns (tenantId : TenantId) : List Time :=
  (db.schedulerJobs.filter fun job => job.jobType == .intermediateTimer && job.m8fTenantId == tenantId &&
    job.jobKey == instanceJobKey .intermediateTimer i).map (·.runAt)

end Db

/-- The two databases agree on what an instance looks like: its standing, its
snapshot, its task rows, its open items and the times of its timer jobs. -/
structure Still (owner : Guid → Nat) (i : Nat) (db db' : Db) : Prop where
  standing : db'.standing i = db.standing i
  state : db'.stateOf i = db.stateOf i
  tasks : ∀ g, owner g = i → db'.task? g = db.task? g
  items : db'.openGuids i = db.openGuids i
  timers : ∀ tenantId, db'.timerRuns i tenantId = db.timerRuns i tenantId

section
variable {W Ω : Type} {env : Env W Ω} {owner : Guid → Nat} {F : Focus} {l : Touch} {L : List Touch} {s s' : Tx Ω}
  {i j : Nat} {db db' : Db} {others : List Db} {pi : ProcessInstance} {w : W} {tenantId : TenantId}

theorem Still.refl (owner : Guid → Nat) (i : Nat) (db : Db) : Still owner i db db := ⟨rfl, rfl, fun _ _ => rfl, rfl, fun _ => rfl⟩

theorem Still.trans {db₁ db₂ db₃ : Db} (h₁ : Still owner i db₁ db₂) (h₂ : Still owner i db₂ db₃) : Still owner i db₁ db₃ :=
  ⟨h₂.standing.trans h₁.standing, h₂.state.trans h₁.state, fun g hg => (h₂.tasks g hg).trans (h₁.tasks g hg),
    h₂.items.trans h₁.items, fun tenantId => (h₂.timers tenantId).trans (h₁.timers tenantId)⟩

/-- What of a work item shows in the open items. -/
def WorkItem.columns (w : WorkItem) : Nat × Bool × Option Guid := (w.processInstanceId, w.completed, w.taskGuid)

theorem openGuids_congr (h : db'.workItems.map (·.columns) = db.workItems.map (·.columns)) :
    db'.openGuids i = db.openGuids i := by
  have hcolumns : ∀ db : Db, db.openGuids i =
      ((db.workItems.map (·.columns)).filter fun c => c.1 == i && !c.2.1).map (·.2.2) := by
    intro db
    rw [List.filter_map, List.map_map]
    rfl
  rw [hcolumns, hcolumns, h]

theorem columns_of_unlaned {items items' : List WorkItem} (h : items'.map (·.unlaned) = items.map (·.unlaned)) :
    items'.map (·.columns) = items.map (·.columns) := by
  have hsame := congrArg (List.map (·.columns)) h
  rwa [List.map_map, List.map_map] at hsame

theorem timerRuns_unlocked (db : Db) (i : Nat) (tenantId : TenantId) : db.timerRuns i tenantId =
    ((db.schedulerJobs.map (·.unlocked)).filter fun job => job.jobType == .intermediateTimer &&
      job.m8fTenantId == tenantId && job.jobKey == instanceJobKey .intermediateTimer i).map (·.runAt) := by
  rw [List.filter_map, List.map_map]
  rfl

theorem timerRuns_congr (h : db'.schedulerJobs.map (·.unlocked) = db.schedulerJobs.map (·.unlocked)) :
    db'.timerRuns i tenantId = db.timerRuns i tenantId := by
  rw [timerRuns_unlocked, timerRuns_unlocked, h]

/-- Jobs apart from the instance's timer jobs. -/
theorem timerRuns_filter (h : ∀ p : SchedulerJob → Bool,
      (∀ job, p job = true → job.jobType ≠ .timerStart ∧ job.jobKey = instanceJobKey .intermediateTimer i) →
      db'.schedulerJobs.filter p = db.schedulerJobs.filter p) : db'.timerRuns i tenantId = db.timerRuns i tenantId := by
  unfold Db.timerRuns
  rw [h]
  intro job hjob
  simp only [Bool.and_eq_true, beq_iff_eq] at hjob
  exact ⟨by simp [hjob.1.1], hjob.2⟩

theorem mem_timerRuns {t : Time} : t ∈ db.timerRuns i tenantId ↔ ∃ job ∈ db.schedulerJobs, job.jobType = .intermediateTimer ∧
    job.m8fTenantId = tenantId ∧ job.jobKey = instanceJobKey .intermediateTimer i ∧ job.runAt = t := by
  unfold Db.timerRuns
  simp only [List.mem_map, List.mem_filter, Bool.and_eq_true, beq_iff_eq]
  constructor
  · rintro ⟨job, ⟨hjob, ⟨htype, htenant⟩, hkey⟩, ht⟩
    exact ⟨job, hjob, htype, htenant, hkey, ht⟩
  · rintro ⟨job, hjob, htype, htenant, hkey, ht⟩
    exact ⟨job, ⟨hjob, ⟨htype, htenant⟩, hkey⟩, ht⟩

theorem mem_openGuids {g : Option Guid} : g ∈ db.openGuids i ↔
    ∃ item ∈ db.workItems, item.processInstanceId = i ∧ item.completed = false ∧ item.taskGuid = g := by
  unfold Db.openGuids Db.openWorkItems
  simp only [List.mem_map, List.mem_filter, Bool.and_eq_true, beq_iff_eq, Bool.not_eq_true']
  constructor
  · rintro ⟨item, ⟨hitem, hid, hopen⟩, hg⟩
    exact ⟨item, hitem, hid, hopen, hg⟩
  · rintro ⟨item, hitem, hid, hopen, hg⟩
    exact ⟨item, ⟨hitem, hid, hopen⟩, hg⟩

theorem opened_eq_false : db.opened i = false ↔ db.openGuids i = [] := by
  unfold Db.opened Db.openGuids Db.openWorkItems
  rw [List.map_eq_nil_iff, List.filter_eq_nil_iff, List.any_eq_false]

/-- An instance that is not touched looks the same. -/
theorem Untouched.still (h : Untouched owner i db db') : Still owner i db db' := by
  refine ⟨?_, h.stateOf, h.tasks, ?_, fun tenantId => timerRuns_filter fun p hp => h.jobs p fun job hjob => ?_⟩
  · unfold Db.standing Db.processInstance?
    rw [← List.head?_filter, ← List.head?_filter, h.instances]
  · have hopen : ∀ db : Db, db.openWorkItems i =
        (db.workItems.filter (·.processInstanceId == i)).filter fun w => !w.completed := by
      intro db
      rw [List.filter_filter]
      exact List.filter_congr fun w _ => Bool.and_comm _ _
    unfold Db.openGuids
    rw [hopen, hopen, h.items]
  · exact ⟨(hp job hjob).1, _, (hp job hjob).2⟩

/-! ## Changes that show in no instance -/

/-- The changes that leave every instance looking the same. -/
def mild : List Touch :=
  [.seq, .world, .shared, .lane, .json, .details, .process, .note, .event, .startJob, .lock, .newProcess]

theorem Change.standing (hl : l ≠ .status) (hnew : l ≠ .newInstance) (hc : Change env F l s s') (i : Nat) :
    s'.view.standing i = s.view.standing i := by
  unfold Db.standing
  cases hc with
  | shared hdb =>
    unfold Db.processInstance?
    rw [hdb.processInstances]
  | details _ f hf =>
    rw [processInstance?_updateInstance fun p => (hf p).1, Option.map_map]
    refine congrArg (Option.map · _) (funext fun p => ?_)
    simp only [Function.comp_apply]
    split
    · exact Prod.ext (congrArg InstanceIdentity.tenantId (hf p).1) (congrArg Phase.status (hf p).2)
    · rfl
  | status => exact absurd rfl hl
  | newInstance => exact absurd rfl hnew
  | _ => rfl

theorem Change.timerRuns (hl : l ≠ .job) (hc : Change env F l s s') (i : Nat) (tenantId : TenantId) :
    s'.view.timerRuns i tenantId = s.view.timerRuns i tenantId := by
  cases hc with
  | shared hdb => exact timerRuns_congr (by rw [hdb.schedulerJobs])
  | job => exact absurd rfl hl
  | startJob _ jobs h =>
    exact timerRuns_filter fun p hp => h p fun job hjob => ⟨(hp job hjob).1, i, _, (hp job hjob).2⟩
  | lock _ p f hf => exact timerRuns_congr (map_updateWhere hf)
  | _ => rfl

theorem Change.still (hlaw : env.Lawful) (hl : l ∈ mild) (hF : F.Suits owner [l] s) (hc : Change env F l s s')
    (h : Firm env owner others s) (i : Nat) : Still owner i s.view s'.view := by
  have hplain : l ≠ .status ∧ l ≠ .newInstance ∧ l ≠ .snapshot ∧ l ≠ .newItem ∧ l ≠ .task ∧ l ≠ .item ∧ l ≠ .job := by
    revert hl
    cases l <;> decide
  obtain ⟨hstatus, hnew, hsnapshot, hnewItem, htask, hitem, hjob⟩ := hplain
  refine ⟨hc.standing hstatus hnew i, hc.stateOf hlaw hsnapshot hF (absurd · hnewItem) h, fun g _ => ?_,
    openGuids_congr (columns_of_unlaned (hc.unlaned hitem hnewItem)), hc.timerRuns hjob i⟩
  unfold Db.task?
  rw [hc.tasks htask]

theorem still_of_steps (hlaw : env.Lawful) (hL : L ⊆ mild) (hF : F.Suits owner L s) (h : Firm env owner others s)
    (hsteps : Steps (Change env F) L s s') (i : Nat) : Still owner i s.view s'.view := by
  have hall := hsteps.inv (P := fun s₁ => Still owner i s.view s₁.view ∧ Firm env owner others s₁ ∧ F.Suits owner L s₁) ?_
    ⟨.refl owner i s.view, h, hF⟩
  · exact hall.1
  · rintro l hl s₁ s₂ hc ⟨hstill, hfirm, hF₁⟩
    have hsuits : F.Suits owner [l] s₁ := hF₁.sub (by simpa using hl)
    have hne : l ≠ .newItem := by
      rintro rfl
      exact absurd (hL hl) (by decide)
    exact ⟨hstill.trans (hc.still hlaw (hL hl) hsuits hfirm i), hfirm.change hlaw hsuits (absurd · hne) hc, hF₁.change hc⟩

/-! ## The mirror -/

variable (env) in
/-- The rows show the tasks of the workflow: each task has its row, and the open
items are for the manual tasks that are ready. -/
structure Pictured (i : Nat) (w : W) (db : Db) : Prop where
  rows : ∀ t ∈ env.tasks w, ∃ row, db.task? t.id = some row ∧ row.state = .spiff t.state ∧ row.processInstanceId = i
  items : (db.openGuids i).Perm ((env.readyManualTasks w).map fun t => some t.id)

variable (env) in
/-- The workflow waits for what the status says. A timer job runs when the first
of the waiting timers is due, and there is none if none is waiting. -/
structure Timed (i : Nat) (tenantId : TenantId) (status : ProcessInstanceStatus) (w : W) (db : Db) : Prop where
  status : status = statusOf env w
  job : ∃ payloads, collectWaitingTimerPayloads env w false = .ok payloads ∧
    ∀ t, t ∈ db.timerRuns i tenantId ↔ ∃ n, minimum (payloads.map (·.runAtInSeconds)) = some n ∧ t = n * 1000000

variable (env) in
/-- What the rows of instance `i` say of its workflow. -/
structure Mirrors (owner : Guid → Nat) (i : Nat) (db : Db) : Prop where
  live : ∀ {tenantId status text}, db.standing i = some (tenantId, status) → status.isTerminal = false →
    db.stateOf i = some text → ∃ w, env.serializeJson w = .ok text ∧ env.TasksOf owner i w ∧ Pictured env i w db ∧
      (status = .waiting ∨ status = .userInputRequired → Timed env i tenantId status w db)
  closed : ∀ {tenantId status}, db.standing i = some (tenantId, status) →
    status.isTerminal = true ∨ db.stateOf i = none → db.openGuids i = []
  failed : ∀ {tenantId}, db.standing i = some (tenantId, .error) →
    ∃ text w, db.stateOf i = some text ∧ env.serializeJson w = .ok text ∧ env.Raised w

theorem Pictured.still (hw : env.TasksOf owner i w) (hstill : Still owner i db db') (h : Pictured env i w db) :
    Pictured env i w db' := by
  refine ⟨fun t ht => ?_, hstill.items ▸ h.items⟩
  rw [hstill.tasks t.id (hw t ht)]
  exact h.rows t ht

theorem Timed.still {status : ProcessInstanceStatus} (hstill : Still owner i db db') (h : Timed env i tenantId status w db) :
    Timed env i tenantId status w db' := by
  refine ⟨h.status, ?_⟩
  rw [hstill.timers]
  exact h.job

theorem Mirrors.still (hstill : Still owner i db db') (h : Mirrors env owner i db) : Mirrors env owner i db' := by
  refine ⟨fun hstanding hlive hstate => ?_, fun hstanding hover => ?_, fun hstanding => ?_⟩
  · rw [hstill.standing] at hstanding
    rw [hstill.state] at hstate
    obtain ⟨w, htext, hw, hpictured, htimed⟩ := h.live hstanding hlive hstate
    exact ⟨w, htext, hw, hpictured.still hw hstill, fun hstatus => (htimed hstatus).still hstill⟩
  · rw [hstill.standing] at hstanding
    rw [hstill.state] at hover
    rw [hstill.items]
    exact h.closed hstanding hover
  · rw [hstill.standing] at hstanding
    rw [hstill.state]
    exact h.failed hstanding

/-- Nothing is said of an instance that is not there. -/
theorem Mirrors.absent (h : db.standing i = none) : Mirrors env owner i db :=
  ⟨fun hstanding => by simp [h] at hstanding, fun hstanding => by simp [h] at hstanding,
    fun hstanding => by simp [h] at hstanding⟩

/-- A new instance has nothing to show. -/
theorem Mirrors.unstarted (hstatus : ∀ tenantId status, db.standing i = some (tenantId, status) → status = .notStarted)
    (hstate : db.stateOf i = none) (hitems : db.openGuids i = []) : Mirrors env owner i db := by
  refine ⟨fun _ _ htext => by simp [hstate] at htext, fun _ _ => hitems, fun hstanding => ?_⟩
  have := hstatus _ _ hstanding
  simp at this

/-! ## Saves and failures -/

/-- The row under an instance's id. -/
theorem Firm.standing (h : Firm env owner others s) (hpi : Present pi s) :
    ∃ p ∈ s.view.processInstances, p.identity = pi.identity ∧ s.view.standing pi.id = some (pi.m8fTenantId, p.status) := by
  obtain ⟨p, hp, hid⟩ := hpi
  have hpid : p.id = pi.id := congrArg InstanceIdentity.id hid
  have hsome : (s.view.processInstance? pi.id).isSome := by
    rw [Db.processInstance?, List.find?_isSome]
    exact ⟨p, hp, by simpa using hpid⟩
  obtain ⟨p', hp'⟩ := Option.isSome_iff_exists.1 hsome
  have hmem := List.mem_of_find?_eq_some hp'
  have hid' := processInstance?_id hp'
  have hsame := h.integral.keyed.instance_key _ (mem_instanceIds.2 ⟨s.view, by simp, p', hmem, rfl⟩) _
    (mem_instanceIds.2 ⟨s.view, by simp, p, hp, rfl⟩) (hid'.trans hpid.symm)
  refine ⟨p', hmem, hsame.trans hid, ?_⟩
  unfold Db.standing
  rw [hp', Option.map_some]
  exact congrArg some (Prod.ext (congrArg InstanceIdentity.tenantId (hsame.trans hid)) rfl)

/-- No two open items of an instance are for one task. -/
theorem Firm.openGuids_nodup (h : Firm env owner others s) (i : Nat) : (s.view.openGuids i).Nodup := by
  have hids := h.integral.keyed.items_nodup s.view (by simp)
  rw [List.map_map] at hids
  refine List.Nodup.map_on (fun a ha b hb hguid => ?_) ((List.Nodup.of_map _ hids).sublist List.filter_sublist)
  have ha := (List.mem_filter.1 ha).1
  have hb := (List.mem_filter.1 hb).1
  have hsame := h.integral.keyed.item_unique _ (mem_itemIds.2 ⟨s.view, by simp, a, ha, rfl⟩) _
    (mem_itemIds.2 ⟨s.view, by simp, b, hb, rfl⟩) hguid
  exact eq_of_nodup_map hids ha hb (congrArg ItemIdentity.id hsame)

/-- A save leaves the rows as the workflow says. -/
theorem Saved.mirrors (henv : env.Engine owner) (hfirm : Firm env owner others s) (hpi : Present pi s)
    (hw : env.TasksOf owner pi.id w) (h : Saved env pi w s) : Mirrors env owner pi.id s.view := by
  obtain ⟨text, htext, hstored⟩ := h.state
  obtain ⟨p, hp, hid, hfound⟩ := hfirm.standing hpi
  obtain ⟨hstatus, -⟩ := h.status p hp (congrArg InstanceIdentity.id hid)
  have hstate : s.view.stateOf pi.id = some text := (hfirm.stateOf hpi).trans hstored
  have hguid : ∀ g, g ∈ s.view.openGuids pi.id ↔ g ∈ (env.readyManualTasks w).map fun t => some t.id := by
    intro g
    rw [mem_openGuids, List.mem_map]
    constructor
    · rintro ⟨item, hitem, hinstance, hopen, rfl⟩
      obtain ⟨g, hg, hguid⟩ := h.items.only item hitem hinstance hopen
      obtain ⟨t, ht, rfl⟩ := List.mem_map.1 hg
      exact ⟨t, ht, hguid.symm⟩
    · rintro ⟨t, ht, rfl⟩
      exact (h.items.has_item t ht).resolve_left (by simp)
  have hready : ((env.readyManualTasks w).map fun t => some t.id).Nodup := by
    have hids : ((env.readyManualTasks w).map (·.id)).Nodup :=
      (henv.serializes.task_ids w).sublist (List.filter_sublist.map _)
    have hsome := hids.map (Option.some_injective _)
    rwa [List.map_map] at hsome
  refine ⟨fun hstanding hlive hstate' => ?_, fun hstanding hover => ?_, fun hstanding => ?_⟩
  · rw [hfound] at hstanding
    obtain ⟨rfl, rfl⟩ := Prod.mk.inj (Option.some.inj hstanding)
    obtain rfl := Option.some.inj (hstate.symm.trans hstate')
    refine ⟨w, htext, hw, ⟨h.rows, (List.perm_ext_iff_of_nodup (hfirm.openGuids_nodup _) hready).2 hguid⟩, fun _ => ?_⟩
    obtain ⟨payloads, hpayloads, hjob⟩ := h.job
    refine ⟨hstatus, payloads, hpayloads, fun t => ?_⟩
    rw [mem_timerRuns]
    cases hmin : minimum (payloads.map (·.runAtInSeconds)) with
    | none =>
      rw [hmin] at hjob
      refine ⟨?_, by simp⟩
      rintro ⟨job, hmem, -, htenant, hkey, -⟩
      exact absurd ⟨htenant, hkey⟩ (hjob job hmem)
    | some n =>
      rw [hmin] at hjob
      obtain ⟨⟨job, hmem, hof⟩, hall⟩ := hjob
      constructor
      · rintro ⟨job', hmem', -, htenant, hkey, rfl⟩
        exact ⟨n, rfl, (hall job' hmem' ⟨htenant, hkey⟩).2.2.2⟩
      · rintro ⟨n', hn', rfl⟩
        obtain rfl := Option.some.inj hn'
        obtain ⟨htype, -, -, hrun⟩ := hall job hmem hof
        exact ⟨job, hmem, htype, hof.1, hof.2, hrun⟩
  · rw [hfound] at hstanding
    obtain ⟨rfl, rfl⟩ := Prod.mk.inj (Option.some.inj hstanding)
    -- The workflow is complete, and nothing in it is ready.
    have hcompleted : env.completed w = true := by
      rcases hover with hover | hnone
      · by_contra hrunning
        rw [hstatus] at hover
        unfold statusOf at hover
        rw [if_neg hrunning] at hover
        split at hover
        · simp [ProcessInstanceStatus.isTerminal] at hover
        · split at hover <;> simp [ProcessInstanceStatus.isTerminal] at hover
      · simp [hstate] at hnone
    refine List.eq_nil_iff_forall_not_mem.2 fun g hg => ?_
    obtain ⟨t, ht, -⟩ := List.mem_map.1 ((hguid g).1 hg)
    obtain ⟨htask, hmatch⟩ := List.mem_filter.1 ht
    simp only [Bool.and_eq_true, beq_iff_eq] at hmatch
    exact henv.lawful.completed_idle hcompleted t htask hmatch.1
  · rw [hfound] at hstanding
    obtain ⟨-, herror⟩ := Prod.mk.inj (Option.some.inj hstanding)
    rw [hstatus] at herror
    unfold statusOf at herror
    split at herror
    · simp at herror
    · split at herror
      · simp at herror
      · split at herror <;> simp at herror

/-- So does a stored failure. -/
theorem Broken.mirrors (h : Broken env owner i db) : Mirrors env owner i db := by
  have hstatus : ∀ {tenantId status}, db.standing i = some (tenantId, status) → status = .error := by
    intro tenantId status hstanding
    obtain ⟨p, hp, heq⟩ := Option.map_eq_some_iff.1 hstanding
    obtain ⟨-, rfl⟩ := Prod.mk.inj heq
    exact h.status p (List.mem_of_find?_eq_some hp) (processInstance?_id hp)
  refine ⟨fun hstanding hlive _ => ?_, fun _ _ => opened_eq_false.1 h.closed, fun _ => ?_⟩
  · rw [hstatus hstanding] at hlive
    simp [ProcessInstanceStatus.isTerminal] at hlive
  · obtain ⟨text, w, hstate, htext, -, hraised⟩ := h.state
    exact ⟨text, w, hstate, htext, hraised⟩

end
end M8flowCore
