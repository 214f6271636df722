import M8flowCore.AllowedSteps
import M8flowCore.JobTable
import M8flowCore.Sample
/-!
# The status machine

Operations leave few doors open: nothing leaves `complete` or `terminated`, only
a retry leaves `error`, only a suspend enters `suspended`, nothing enters
`not_started`, and an instance has an end exactly while its status is terminal.
So it is whether the caller commits what a call has done or rolls it back, also
where the call raised.
-/
open M8flowCore.Lib M8flowCore.Session

namespace M8flowCore

/-! ## One move -/

/-- The status of a life, if there is one. -/
def statusOfLife (a : Option Life) : Option ProcessInstanceStatus := a.map (·.phase.status)

section
variable {C : Cause → Prop}

theorem Move.permitted {c : Cause} (hc : C c) {a b : Option Life} (h : Move c a b) :
    Permitted C (statusOfLife a) (statusOfLife b) := by
  cases h with
  | create => exact ⟨by simp [statusOfLife], by simp [statusOfLife], by simp [statusOfLife], by simp [statusOfLife],
      fun _ => .inl rfl⟩
  | save _ l hopen hp => exact hp.permitted (.inl hopen)
  | retry l herror hp => exact hp.permitted (.inr ⟨herror, hc⟩)
  | suspend l hopen => exact Permitted.of_running hopen (by simp) fun _ => hc
  | resume l hs =>
    have hopen : l.phase.status.isTerminal = false := by
      rw [hs]
      rfl
    exact Permitted.of_running hopen (by simp) (by simp)
  | error l hopen => exact Permitted.of_running hopen (by simp) (by simp)
  | fail l hcomplete hterminated =>
    refine ⟨fun h => h, ?_, fun _ hne => absurd rfl hne, by simp [statusOfLife], by simp [statusOfLife]⟩
    rintro (hover | hover)
    · exact absurd (Option.some.inj hover) hcomplete
    · exact absurd (Option.some.inj hover) hterminated
  | terminate l hopen => exact Permitted.of_running hopen (by simp) (by simp)
  | item l | late l | record l => exact .refl _

theorem Move.ended {c : Cause} {a b : Option Life} (h : Move c a b) (ha : ∀ l, a = some l → l.phase.Ended) :
    ∀ l, b = some l → l.phase.Ended := by
  intro l' hl'
  -- The moves that keep the end keep a status that is not terminal.
  have hkept : ∀ {l : Life} {status : ProcessInstanceStatus}, a = some l → l.phase.status.isTerminal = false →
      status.isTerminal = false → Phase.Ended ⟨status, l.phase.endedAt⟩ := by
    intro l status hl hopen hstatus
    have hend := ha l hl
    unfold Phase.Ended at hend ⊢
    rw [hend, hopen, hstatus]
  cases h with
  | create =>
    obtain rfl := Option.some.inj hl'
    rfl
  | save _ l hopen hp | retry l herror hp =>
    obtain rfl := Option.some.inj hl'
    exact hp.ended
  | suspend l hopen =>
    obtain rfl := Option.some.inj hl'
    exact hkept rfl hopen rfl
  | resume l hs =>
    obtain rfl := Option.some.inj hl'
    exact hkept rfl (by rw [hs]; rfl) rfl
  | error l | fail l | terminate l =>
    obtain rfl := Option.some.inj hl'
    rfl
  | item l | late l | record l =>
    obtain rfl := Option.some.inj hl'
    exact ha l rfl

/-- Once its status is terminal, an instance has no open work item. -/
def Life.Closed (l : Life) : Prop := l.phase.status.isTerminal = true → l.opened = false

theorem Move.closed {c : Cause} {a b : Option Life} (h : Move c a b) (ha : ∀ l, a = some l → l.Closed) :
    ∀ l, b = some l → l.Closed := by
  intro l' hl' hterminal
  -- A saved workflow is terminal only if it is complete.
  have hsaved : ∀ {p : Phase} {opened : Bool}, p.OfWorkflow → (p.status = .complete → opened = false) →
      p.status.isTerminal = true → opened = false := by
    intro p opened hp hclosed hterminal
    rcases hp with ⟨hstatus, -⟩ | ⟨hstatus | hstatus | hstatus, -⟩
    · exact hclosed hstatus
    all_goals simp [hstatus, ProcessInstanceStatus.isTerminal] at hterminal
  cases h with
  | create =>
    obtain rfl := Option.some.inj hl'
    rfl
  | save _ l hopen hp opened hclosed | retry l herror hp opened hclosed =>
    obtain rfl := Option.some.inj hl'
    exact hsaved hp hclosed hterminal
  | suspend l hopen | resume l hs =>
    obtain rfl := Option.some.inj hl'
    simp [ProcessInstanceStatus.isTerminal] at hterminal
  | error l | fail l | terminate l =>
    obtain rfl := Option.some.inj hl'
    rfl
  | item l hopened opened | late l hopened hstatus opened =>
    obtain rfl := Option.some.inj hl'
    have := ha l rfl hterminal
    rw [hopened] at this
    simp at this
  | record l =>
    obtain rfl := Option.some.inj hl'
    exact ha l rfl hterminal

/-! ## A sequence of moves -/

theorem Path.permitted {a b : Option Life} (h : Path C a b) : Permitted C (statusOfLife a) (statusOfLife b) := by
  obtain ⟨stages, hjourney, hC⟩ := h
  induction hjourney with
  | nil => exact .refl _
  | snoc _ hmove ih =>
    refine (ih fun st hst => hC st (List.mem_append_left _ hst)).trans (hmove.permitted ?_)
    exact hC ⟨_, _, _⟩ (List.mem_append_right _ (List.mem_singleton.2 rfl))

theorem Path.ended {a b : Option Life} (h : Path C a b) (ha : ∀ l, a = some l → l.phase.Ended) :
    ∀ l, b = some l → l.phase.Ended := by
  obtain ⟨stages, hjourney, -⟩ := h
  induction hjourney with
  | nil => exact ha
  | snoc _ hmove ih => exact hmove.ended (ih ha)

theorem Path.closed {a b : Option Life} (h : Path C a b) (ha : ∀ l, a = some l → l.Closed) :
    ∀ l, b = some l → l.Closed := by
  obtain ⟨stages, hjourney, -⟩ := h
  induction hjourney with
  | nil => exact ha
  | snoc _ hmove ih => exact hmove.closed (ih ha)

end

/-! ## Runs -/

/-- A store without instances: what a host starts from. Its users, groups,
permissions and definitions are whatever they are. -/
structure Store.Blank (st : Store) : Prop where
  instances : st.db.processInstances = []
  items : st.db.workItems = []
  events : st.db.events = []

theorem Store.Blank.filed {st : Store} (h : st.Blank) : Filed st.seq st.db := by
  refine ⟨?_, ?_, ?_, ?_, ?_⟩ <;> simp [h.instances, h.items, h.events]

section
variable {W Ω : Type} {env : Env W Ω} {op : Operation} {ops : List Operation} {st₀ st st' : Store}

theorem Store.serial (h : Filed st.seq st.db) (world : Ω) : Serial (st.session world) := ⟨rfl, h, h⟩

/-- One operation in its transaction: what it stands for if it is committed,
and what the library commits by itself in any case. -/
theorem CleanStep.travels (hlaw : env.Lawful) (hfiled : Filed st.seq st.db) (h : CleanStep env op st st') :
    Filed st'.seq st'.db ∧
      ∀ j, Path (fun c => op.causes st.db j c ∨ c = .create ∨ c = .fail) (st.db.life j) (st'.db.life j) := by
  cases h with
  | commit hrun =>
    have htravels := Operation.travels hlaw (Store.serial hfiled _) hrun
    rw [Tx.commit, ← htravels.serial.current, Db.merge_current]
    exact ⟨htravels.serial.view, fun j => (htravels.paths j).mono fun _ => .inl⟩
  | rollback hrun =>
    have hleft := (Operation.left env op).of_ok hrun
    exact ⟨hleft.filed hfiled, fun j => (hleft.paths hfiled j).mono fun _ => .inr⟩

theorem CleanRun.filed (hlaw : env.Lawful) (hfiled : Filed st₀.seq st₀.db) (h : CleanRun env st₀ ops st) : Filed st.seq st.db := by
  induction h with
  | nil => exact hfiled
  | snoc _ hstep ih => exact (hstep.travels hlaw ih).1

theorem CleanRun.path (hlaw : env.Lawful) (hfiled : Filed st₀.seq st₀.db) (h : CleanRun env st₀ ops st) (j : Nat) :
    Path (fun _ => True) (st₀.db.life j) (st.db.life j) := by
  induction h with
  | nil => exact .refl _
  | snoc hrun hstep ih => exact ih.trans (((hstep.travels hlaw (hrun.filed hlaw hfiled)).2 j).mono fun _ _ => trivial)

/-! ## Statuses -/

/-- The stored status of an instance. -/
def Db.status? (db : Db) (i : Nat) : Option ProcessInstanceStatus := (db.processInstance? i).map (·.status)

theorem statusOfLife_life (db : Db) (i : Nat) : statusOfLife (db.life i) = db.status? i := by
  unfold statusOfLife Db.life Db.status?
  rw [Option.map_map]
  rfl

/-- The operation retries the instance, or is a pass with a due job that does. -/
def Operation.Retries (db : Db) (i : Nat) : Operation → Prop
  | .command (.retry _ j _ _) => j = i
  | .runDueJobs now limit _ tenant => ∃ t, (∀ t', now = some t' → t = t') ∧
    ∃ job ∈ dueSchedulerJobs db t limit.toNat tenant, job.jobType = .processRetry ∧ job.processInstanceId = some i
  | _ => False

def Operation.Suspends (i : Nat) : Operation → Prop
  | .command (.suspend _ j _ _) => j = i
  | _ => False

/-- What an operation asks of an instance. -/
def Operation.Asks (db : Db) (i : Nat) (op : Operation) : Cause → Prop
  | .retry => op.Retries db i
  | .suspend => op.Suspends i
  | _ => True

theorem statusOfPhase_phase? (db : Db) (i : Nat) : statusOfPhase (db.phase? i) = db.status? i := by
  unfold statusOfPhase Db.phase? Db.status?
  rw [Option.map_map]
  rfl

/-- However an operation ends, what it leaves is allowed. -/
theorem Operation.leaves (horderly : st.Orderly) (hkeys : JobKeys st.seq st.db.schedulerJobs) {j : Nat}
    (hended : ∀ p, st.db.phase? j = some p → p.Ended) {world : Ω} {r : Except Error Unit} {s : Tx Ω}
    (h : (op.run env).run (st.session world) = (r, s)) : Leaves (op.Asks st.db j) (st.db.phase? j) j s := by
  have hfree := horderly.free (C := op.Asks st.db j) (k := none) hended world (by simp)
  suffices hends : Prog.Ends (· = st.session world) (op.run env) (fun _ => Leaves (op.Asks st.db j) (st.db.phase? j) j)
      fun _ => Leaves (op.Asks st.db j) (st.db.phase? j) j by
    cases r with
    | ok u => exact (hends _ rfl).1 u s h
    | error e => exact (hends _ rfl).2 e s h
  -- Where the operation ends at one allowed phase, it leaves it.
  have hleads : Leads none j (Free (op.Asks st.db j) (st.db.phase? j)) none (op.run env) (Final (op.Asks st.db j) (st.db.phase? j)) →
      Prog.Ends (· = st.session world) (op.run env) (fun _ => Leaves (op.Asks st.db j) (st.db.phase? j) j)
        fun _ => Leaves (op.Asks st.db j) (st.db.phase? j) j := fun hm =>
    hm.weaken (fun _ hs => hs ▸ hfree) (fun _ _ hs => hs.leaves) fun _ _ hs => hs.leaves
  cases op with
  | command c =>
    refine hleads (executeCommand_final c ?_ ?_)
    · rintro tenantId userId at_ rfl
      exact rfl
    · rintro tenantId userId at_ rfl
      exact rfl
  | advance tenantId i guid completedAt => exact hleads (advance_ends (Free.serves false i j) guid completedAt)
  | assignPendingTasks tenantId userId => exact hleads (assignPendingTasks_ends (fun _ _ _ h => h.final) userId)
  | runDueJobs now limit workerId tenant =>
    refine Prog.ends_bind (runDueSchedulerJobs_leaves horderly hkeys hended fun job hjob htype hid => ?_) fun _ =>
      Prog.ends_pure _ fun _ hs => hs
    refine ⟨now.getD (env.now world), fun t' ht' => ?_, job, hjob, htype, hid⟩
    rw [ht']
    rfl

/-! ## Stores -/

/-- What every operation keeps: the rows and the job table are in order, and an
instance has an end exactly while its status is terminal. -/
structure Store.Phased (st : Store) : Prop extends st.Orderly where
  keys : JobKeys st.seq st.db.schedulerJobs
  ended : ∀ i p, st.db.phase? i = some p → p.Ended

/-- One operation, committed or rolled back, however it ends. -/
theorem Step.phased (hst : st.Phased) (h : Step env op st st') :
    st'.Phased ∧ ∀ i, Permitted (op.Asks st.db i) (st.db.status? i) (st'.db.status? i) := by
  -- What is allowed for every instance is all there is to show.
  have hgood : ∀ {st' : Store}, st'.Orderly → JobKeys st'.seq st'.db.schedulerJobs →
      (∀ i, Good (op.Asks st.db i) (st.db.phase? i) (st'.db.phase? i)) →
      st'.Phased ∧ ∀ i, Permitted (op.Asks st.db i) (st.db.status? i) (st'.db.status? i) := by
    intro st' horderly hkeys hgood
    refine ⟨⟨horderly, hkeys, fun i => (hgood i).ended⟩, fun i => ?_⟩
    have hpermitted := (hgood i).permitted
    rwa [statusOfPhase_phase?, statusOfPhase_phase?] at hpermitted
  cases h with
  | @commit world r s hrun =>
    have hleaves := fun j => Operation.leaves hst.toOrderly hst.keys (hst.ended j) hrun
    have hkeys := (Operation.keys env op).of_ok hrun
    have hfitting := (hleaves 0).1.toFitting
    refine hgood hfitting.committed_orderly ?_ fun j => ?_
    · change JobKeys s.seq (Db.merge s.base s.view s.committed).schedulerJobs
      rw [merged_jobs hfitting.current]
      exact hkeys.keyed rfl hst.keys
    · change Good _ _ ((Db.merge s.base s.view s.committed).phase? j)
      rw [hfitting.phase?_merge]
      exact (hleaves j).2.merge
  | @rollback world r s hrun =>
    have hleaves := fun j => Operation.leaves hst.toOrderly hst.keys (hst.ended j) hrun
    have hkeys := (Operation.keys env op).of_ok hrun
    refine hgood (hleaves 0).1.toFitting.rolled_orderly ?_ fun j => (hleaves j).2.allowed.committed
    change JobKeys s.seq s.committed.schedulerJobs
    rw [hkeys.standing]
    exact hst.keys.mono hkeys.seq

theorem Run.phased (hst : st.Phased) (h : Run env st ops st') :
    st'.Phased ∧ ∀ i, Permitted (fun _ => True) (st.db.status? i) (st'.db.status? i) := by
  induction h with
  | nil => exact ⟨hst, fun i => .refl _⟩
  | snoc _ hstep ih =>
    obtain ⟨hphased, hpermitted⟩ := hstep.phased ih.1
    exact ⟨hphased, fun i => (ih.2 i).trans ((hpermitted i).mono fun _ _ => trivial)⟩

/-- A store no operation has written to: without instances, its jobs start
some, and they have names of their own. -/
structure Store.Pristine (st : Store) : Prop extends st.Blank where
  starts : ∀ job ∈ st.db.schedulerJobs, job.jobType = .timerStart
  keys : JobKeys st.seq st.db.schedulerJobs

theorem Store.Pristine.phased (h : st.Pristine) : st.Phased where
  ranked := ⟨by simp [h.instances], by simp [h.instances]⟩
  homed job hjob hne := absurd (h.starts job hjob) hne
  keys := h.keys
  ended i p hp := by simp [Db.phase?, Db.processInstance?, h.instances] at hp

/-- The store after an operation that is committed. -/
def Store.after (env : Env W Ω) (op : Operation) (world : Ω) (st : Store) : Store :=
  let s := ((op.run env).run (st.session world)).2
  ⟨s.seq, s.commit⟩

theorem CleanStep.after {world : Ω} (h : ((op.run env).run (st.session world)).1 = .ok ()) :
    CleanStep env op st (st.after env op world) := by
  rcases hrun : (op.run env).run (st.session world) with ⟨r, s⟩
  rw [hrun] at h
  obtain rfl : r = .ok () := h
  unfold Store.after
  rw [hrun]
  exact .commit hrun

/-- The store after operations that all return and are committed. -/
def Store.afterAll (env : Env W Ω) (world : Ω) : List Operation → Store → Option Store
  | [], st => some st
  | op :: ops, st =>
    match (op.run env).run (st.session world) with
    | (.ok (), s) => Store.afterAll env world ops ⟨s.seq, s.commit⟩
    | (.error _, _) => none

theorem CleanRun.cons {st₁ : Store} (hstep : CleanStep env op st st₁) (hrun : CleanRun env st₁ ops st') : CleanRun env st (op :: ops) st' := by
  induction hrun with
  | nil => exact .snoc .nil hstep
  | snoc _ hlast ih => exact ih.snoc hlast

theorem CleanRun.of_afterAll {world : Ω} (h : st.afterAll env world ops = some st') : CleanRun env st ops st' := by
  induction ops generalizing st with
  | nil =>
    obtain rfl := Option.some.inj h
    exact .nil
  | cons op ops ih =>
    unfold Store.afterAll at h
    rcases hrun : (op.run env).run (st.session world) with ⟨e | u, s⟩ <;> rw [hrun] at h
    · cases h
    · exact (ih h).cons (.commit hrun)

/-- A run and what holds after it, evaluated together. -/
theorem CleanRun.evaluated {world : Ω} {P : Store → Prop} [DecidablePred P]
    (h : (st.afterAll env world ops).any (fun st' => decide (P st')) = true) : ∃ st', CleanRun env st ops st' ∧ P st' := by
  obtain ⟨st', hst', hP⟩ := (Option.any_eq_true _ _).1 h
  exact ⟨st', .of_afterAll hst', of_decide_eq_true hP⟩

end

theorem Sample.store_blank : Sample.store.Blank := ⟨rfl, rfl, rfl⟩

theorem Sample.store_pristine : Sample.store.Pristine := ⟨Sample.store_blank, by decide, ⟨by decide, by decide, by decide⟩⟩

end M8flowCore
