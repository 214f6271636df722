import Mathlib.Algebra.Order.Floor.Div
import M8flowCore.SchedulerPasses
/-!
# Committed passes

A host calls the scheduler again and again and commits each pass, also when the
pass reports failures. A job that fails is released with the run time it had, so
that it takes a place in the next batch before the jobs that are due after it.
-/
open M8flowCore.Lib M8flowCore.Session

namespace M8flowCore

/-- A call of the scheduler, with the world that it meets. -/
structure Pass (Ω : Type) where
  now : Option Time
  limit : Int
  workerId : String
  tenantId : Option TenantId
  world : Ω

section
variable {W Ω : Type} (env : Env W Ω)

namespace Pass

def time (p : Pass Ω) : Time := p.now.getD (env.now p.world)

/-- The session of a pass on a store, when the call has ended. -/
def ended (p : Pass Ω) (st : Store) : Tx Ω :=
  ((runDueSchedulerJobs env p.now p.limit p.workerId p.tenantId).run (st.session p.world)).2

/-- The store once the pass is committed, whatever the call reported. -/
def committed (p : Pass Ω) (st : Store) : Store := ⟨(p.ended env st).seq, (p.ended env st).commit⟩

/-- A pass that is not refused. -/
def Accepted (p : Pass Ω) : Prop := 0 < p.limit ∧ strip p.workerId ≠ ""

instance (p : Pass Ω) : Decidable p.Accepted := inferInstanceAs (Decidable (_ ∧ _))

/-- The jobs that a pass attempts. -/
def batch (p : Pass Ω) (st : Store) : List SchedulerJob :=
  if p.Accepted then dueSchedulerJobs st.db (p.time env) p.limit.toNat p.tenantId else []

/-- The session of a pass once its jobs are locked. -/
def locked (p : Pass Ω) (st : Store) : Tx Ω :=
  let s := st.session p.world
  { s with view := { s.view with schedulerJobs := lockedJobs s.view.schedulerJobs (p.batch env st) p.workerId (p.time env) } }

end Pass

/-- Pass after pass, each one with the store it meets. -/
def history : List (Pass Ω) → Store → List (Pass Ω × Store)
  | [], _ => []
  | p :: ps, st => (p, st) :: history ps (p.committed env st)

/-- The store after some passes. -/
def passes : List (Pass Ω) → Store → Store
  | [], st => st
  | p :: ps, st => passes ps (p.committed env st)

end

section
variable {W Ω : Type} {env : Env W Ω} {p : Pass Ω} {ps : List (Pass Ω)} {st : Store}

/-! ## One pass -/

variable (env) in
theorem Pass.attempts (p : Pass Ω) (st : Store) :
    ∃ outcomes, Attempts env (p.time env) (p.batch env st) (p.locked env st) outcomes (p.ended env st) := by
  unfold Pass.locked Pass.batch Pass.ended
  by_cases haccepted : p.Accepted
  · rw [if_pos haccepted]
    obtain ⟨outcomes, r, s', hrun, hattempts, -⟩ :=
      runDueSchedulerJobs_attempts env p.now p.tenantId haccepted.1 haccepted.2 (st.session p.world) (t := p.time env) rfl
    rw [hrun]
    rw [claimDueSchedulerJobs_run _ _ haccepted.1 haccepted.2] at hattempts
    exact ⟨outcomes, hattempts⟩
  · rw [if_neg haccepted]
    have hbad : p.limit ≤ 0 ∨ strip p.workerId = "" := by
      rw [Pass.Accepted, not_and_or, not_lt, not_not] at haccepted
      exact haccepted
    obtain ⟨message, hrun⟩ := runDueSchedulerJobs_refused env p.now p.tenantId hbad (st.session p.world)
    rw [hrun]
    have hsame : ∀ jobs, lockedJobs jobs [] p.workerId (p.time env) = jobs :=
      fun jobs => updateWhere_eq_self.2 fun _ _ h => absurd h (by simp)
    dsimp only
    rw [hsame]
    exact ⟨[], .nil _⟩

theorem Pass.locked_current (p : Pass Ω) (st : Store) : (p.locked env st).JobsCurrent := rfl

theorem Pass.locked_keys (hkeys : JobKeys st.seq st.db.schedulerJobs) :
    JobKeys (p.locked env st).seq (p.locked env st).view.schedulerJobs := hkeys.update (fun _ => rfl) fun _ => rfl

theorem Pass.committed_seq (p : Pass Ω) (st : Store) : (p.committed env st).seq = (p.ended env st).seq := by
  unfold Pass.committed
  dsimp only

/-- The jobs of the store are the ones the session leaves. -/
theorem Pass.committed_jobs (p : Pass Ω) (st : Store) :
    (p.committed env st).db.schedulerJobs = (p.ended env st).view.schedulerJobs := by
  obtain ⟨outcomes, hattempts⟩ := p.attempts env st
  unfold Pass.committed Tx.commit
  dsimp only
  rw [merged_jobs (hattempts.jobs.current (p.locked_current st))]

theorem Pass.committed_keys (hkeys : JobKeys st.seq st.db.schedulerJobs) :
    JobKeys (p.committed env st).seq (p.committed env st).db.schedulerJobs := by
  obtain ⟨outcomes, hattempts⟩ := p.attempts env st
  rw [p.committed_jobs, p.committed_seq]
  exact hattempts.jobs.keyed (p.locked_current st) (p.locked_keys hkeys)

theorem history_keys (hkeys : JobKeys st.seq st.db.schedulerJobs) :
    ∀ x ∈ history env ps st, JobKeys x.2.seq x.2.db.schedulerJobs := by
  induction ps generalizing st with
  | nil => simp [history]
  | cons p ps ih =>
    intro x hx
    rcases List.mem_cons.1 hx with rfl | hx
    · exact hkeys
    · exact ih (p.committed_keys hkeys) x hx

theorem history_length (ps : List (Pass Ω)) (st : Store) : (history env ps st).length = ps.length := by
  induction ps generalizing st with
  | nil => rfl
  | cons p ps ih => simp [history, ih]

/-! ## Jobs that keep their place -/

/-- The jobs that are due when a pass looks. -/
def Pass.due (env : Env W Ω) (p : Pass Ω) (st : Store) : List SchedulerJob :=
  st.db.schedulerJobs.filter fun job => decide (job.DueFor (p.time env) p.tenantId)

theorem Pass.mem_due {job : SchedulerJob} : job ∈ p.due env st ↔ job ∈ st.db.schedulerJobs ∧ job.DueFor (p.time env) p.tenantId := by
  simp [Pass.due]

theorem Pass.mem_batch {job : SchedulerJob} (h : job ∈ p.batch env st) :
    job ∈ st.db.schedulerJobs ∧ job.DueFor (p.time env) p.tenantId := by
  unfold Pass.batch at h
  split at h
  · unfold dueSchedulerJobs at h
    obtain ⟨hjob, hdue⟩ := List.mem_filter.1 ((List.mem_insertionSort _).1 (List.mem_of_mem_take h))
    exact ⟨hjob, dueFor_iff.1 hdue⟩
  · exact absurd h List.not_mem_nil

theorem Pass.batch_nodup (p : Pass Ω) (hkeys : JobKeys st.seq st.db.schedulerJobs) : (p.batch env st).Nodup := by
  unfold Pass.batch
  split
  · exact (dueSchedulerJobs_first hkeys.ids _ _ _).nodup
  · exact List.nodup_nil

variable (env) in
theorem Pass.batch_first (haccepted : p.Accepted) (hkeys : JobKeys st.seq st.db.schedulerJobs) :
    FirstDue st.db.schedulerJobs (p.time env) p.limit.toNat p.tenantId (p.batch env st) := by
  rw [Pass.batch, if_pos haccepted]
  exact dueSchedulerJobs_first hkeys.ids _ _ _

/-- The names of the jobs a pass attempts. -/
def Pass.attempted (env : Env W Ω) (p : Pass Ω) (st : Store) : Finset (TenantId × String) :=
  ((p.batch env st).map (·.name)).toFinset

theorem Pass.mem_attempted {name : TenantId × String} : name ∈ p.attempted env st ↔ ∃ job ∈ p.batch env st, job.name = name := by
  simp [Pass.attempted]

/-- A pass that leaves a due job out has attempted as many others as it may. -/
theorem Pass.attempted_card (haccepted : p.Accepted) (hkeys : JobKeys st.seq st.db.schedulerJobs) {job : SchedulerJob}
    (hdue : job ∈ p.due env st) (hout : job.name ∉ p.attempted env st) : (p.attempted env st).card = p.limit.toNat := by
  have hfirst := p.batch_first env haccepted hkeys
  obtain ⟨hjob, hdue⟩ := Pass.mem_due.1 hdue
  have hnodup : ((p.batch env st).map (·.name)).Nodup := by
    refine List.Nodup.map_on (fun a ha b hb hab => ?_) hfirst.nodup
    exact List.inj_on_of_nodup_map hkeys.names (hfirst.due a ha).1 (hfirst.due b hb).1 hab
  rw [Pass.attempted, List.toFinset_card_of_nodup hnodup, List.length_map]
  exact (hfirst.first job hjob hdue fun hin => hout (Pass.mem_attempted.2 ⟨job, hin, rfl⟩)).1

/-- Disjoint sets of at least `c` elements each fill what they are taken from. -/
theorem length_mul_le_card {α : Type} [DecidableEq α] {c : Nat} {sets : List (Finset α)} {whole : Finset α}
    (hdisjoint : sets.Pairwise Disjoint) (hsub : ∀ set ∈ sets, set ⊆ whole) (hcard : ∀ set ∈ sets, c ≤ set.card) :
    sets.length * c ≤ whole.card := by
  induction sets generalizing whole with
  | nil => simp
  | cons set sets ih =>
    obtain ⟨hset, hrest⟩ := List.pairwise_cons.1 hdisjoint
    have hapart : ∀ other ∈ sets, other ⊆ whole \ set := fun other hother =>
      Finset.subset_sdiff.2 ⟨hsub other (by simp [hother]), (hset other hother).symm⟩
    have hless := ih hrest hapart fun other hother => hcard other (by simp [hother])
    have hsplit := Finset.card_sdiff_add_card_eq_card (hsub set (by simp))
    have hc := hcard set (by simp)
    rw [List.length_cons, Nat.add_mul, Nat.one_mul]
    omega

/-- Passes over a set of due jobs: they have one limit, no other job becomes due,
and a job that is not in `again` is not due after it was attempted. -/
structure Backlog (env : Env W Ω) (limit : Nat) (names again : Finset (TenantId × String)) (ps : List (Pass Ω)) (st : Store) : Prop where
  accepted : ∀ x ∈ history env ps st, x.1.Accepted
  limit : ∀ x ∈ history env ps st, x.1.limit.toNat = limit
  due : ∀ x ∈ history env ps st, ∀ job ∈ x.1.due env x.2, job.name ∈ names
  within : again ⊆ names
  done : (history env ps st).Pairwise fun x y => ∀ name ∈ x.1.attempted env x.2, name ∉ again → ∀ job ∈ y.1.due env y.2, job.name ≠ name

section
variable {limit : Nat} {names again : Finset (TenantId × String)} {name : TenantId × String}

theorem Pass.attempted_due (haccepted : p.Accepted) (hkeys : JobKeys st.seq st.db.schedulerJobs) (h : name ∈ p.attempted env st) :
    ∃ job ∈ p.due env st, job.name = name := by
  obtain ⟨job, hjob, hname⟩ := Pass.mem_attempted.1 h
  exact ⟨job, Pass.mem_due.2 ((p.batch_first env haccepted hkeys).due job hjob), hname⟩

/-- What is attempted for good, while a due job is left out: the passes share it
between them. -/
theorem Backlog.left_out (h : Backlog env limit names again ps st) (hkeys : JobKeys st.seq st.db.schedulerJobs)
    (hdue : ∀ x ∈ history env ps st, ∃ job ∈ x.1.due env x.2, job.name = name)
    (hout : ∀ x ∈ history env ps st, name ∉ x.1.attempted env x.2) :
    ps.length * (limit - (again.erase name).card) ≤ ((names \ again).erase name).card := by
  have hsub : ∀ x ∈ history env ps st, x.1.attempted env x.2 ⊆ names.erase name := by
    intro x hx other hother
    obtain ⟨job, hjob, rfl⟩ := Pass.attempted_due (h.accepted x hx) (history_keys hkeys x hx) hother
    refine Finset.mem_erase.2 ⟨fun hsame => ?_, h.due x hx job hjob⟩
    rw [hsame] at hother
    exact hout x hx hother
  have hlength : ((history env ps st).map fun x => x.1.attempted env x.2 \ again).length = ps.length := by
    rw [List.length_map, history_length]
  rw [← hlength]
  refine length_mul_le_card ?_ ?_ ?_
  · rw [List.pairwise_map]
    refine (h.done.imp_of_mem fun {x y} _ hy hdone => Finset.disjoint_left.2 fun other hx hother => ?_)
    obtain ⟨hother, -⟩ := Finset.mem_sdiff.1 hother
    obtain ⟨hx, hagain⟩ := Finset.mem_sdiff.1 hx
    obtain ⟨job, hjob, hname⟩ := Pass.attempted_due (h.accepted y hy) (history_keys hkeys y hy) hother
    exact hdone other hx hagain job hjob hname
  · intro set hset other hother
    obtain ⟨x, hx, rfl⟩ := List.mem_map.1 hset
    obtain ⟨hother, hagain⟩ := Finset.mem_sdiff.1 hother
    obtain ⟨hne, hin⟩ := Finset.mem_erase.1 (hsub x hx hother)
    exact Finset.mem_erase.2 ⟨hne, Finset.mem_sdiff.2 ⟨hin, hagain⟩⟩
  · intro set hset
    obtain ⟨x, hx, rfl⟩ := List.mem_map.1 hset
    obtain ⟨job, hjob, rfl⟩ := hdue x hx
    have hcard := Pass.attempted_card (h.accepted x hx) (history_keys hkeys x hx) hjob (hout x hx)
    have hmeet : x.1.attempted env x.2 ∩ again ⊆ again.erase job.name := by
      intro other hother
      obtain ⟨hother, hagain⟩ := Finset.mem_inter.1 hother
      exact Finset.mem_erase.2 ⟨(Finset.mem_erase.1 (hsub x hx hother)).1, hagain⟩
    have hle := Finset.card_le_card hmeet
    have hsplit := Finset.card_sdiff_add_card_inter (x.1.attempted env x.2) again
    rw [h.limit x hx] at hcard
    omega

/-- Of `n` due jobs `f` may be due again after an attempt. With a limit above
`f`, every job that stays due is attempted within `⌈(n - f) / (limit - f)⌉`
passes. -/
theorem due_jobs_attempted (hkeys : JobKeys st.seq st.db.schedulerJobs) (h : Backlog env limit names again ps st)
    (hlimit : again.card < limit) (hpasses : 1 ≤ ps.length)
    (henough : (names.card - again.card) ⌈/⌉ (limit - again.card) ≤ ps.length) (hname : name ∈ names)
    (hdue : ∀ x ∈ history env ps st, ∃ job ∈ x.1.due env x.2, job.name = name) :
    ∃ x ∈ history env ps st, name ∈ x.1.attempted env x.2 := by
  by_contra hnone
  have hout : ∀ x ∈ history env ps st, name ∉ x.1.attempted env x.2 := fun x hx hin => hnone ⟨x, hx, hin⟩
  have hfill := h.left_out hkeys hdue hout
  have hneed : names.card - again.card ≤ ps.length * (limit - again.card) := by
    have := (ceilDiv_le_iff_le_smul (by omega : 0 < limit - again.card)).1 henough
    rwa [smul_eq_mul, Nat.mul_comm] at this
  have hcard : (names \ again).card = names.card - again.card := Finset.card_sdiff_of_subset h.within
  by_cases hagain : name ∈ again
  · -- the job is one of those that may be due again: each pass has a place more for the others
    rw [Finset.card_erase_of_mem hagain, Finset.erase_eq_of_notMem (by simp [hagain]), hcard] at hfill
    have hpos := Finset.card_pos.2 ⟨name, hagain⟩
    have hmore : limit - (again.card - 1) = limit - again.card + 1 := by omega
    rw [hmore, Nat.mul_add, Nat.mul_one] at hfill
    omega
  · have hin : name ∈ names \ again := Finset.mem_sdiff.2 ⟨hname, hagain⟩
    have hpos := Finset.card_pos.2 ⟨name, hin⟩
    rw [Finset.erase_eq_of_notMem hagain, Finset.card_erase_of_mem hin, hcard] at hfill
    omega

end
end

/-! Two jobs that start a process whose service task needs the connector. -/

namespace Sample

def startJob (id : Nat) (qualifier : String) : SchedulerJob :=
  ⟨id, "t", "timer_start|pd:2|q:" ++ qualifier, .timerStart, none, some 2, none, none, 0,
    [("timer_task", .dict [(.str "task_spec_name", .str qualifier), (.str "event_value", .str "due")])], 0, 0⟩

def startStore : Store := ⟨10, { dbOf "service" with schedulerJobs := [startJob 5 "a", startJob 6 "b"] }⟩

def onePass (up : Bool) : Pass Bool := ⟨some 0, 1, "inline", none, up⟩

end Sample

theorem due_jobs_attempted_second :
    ∃ x ∈ history Sample.env [Sample.onePass true, Sample.onePass true] Sample.startStore,
      (Sample.startJob 6 "b").name ∈ x.1.attempted Sample.env x.2 := by
  have hbacklog : Backlog Sample.env 1 {(Sample.startJob 5 "a").name, (Sample.startJob 6 "b").name} ∅
      [Sample.onePass true, Sample.onePass true] Sample.startStore :=
    ⟨by decide +kernel, by decide +kernel, by decide +kernel, by decide, by decide +kernel⟩
  refine due_jobs_attempted ⟨by decide, by decide, by decide⟩ hbacklog (by decide) (by decide) (by decide) (by decide) ?_
  decide +kernel

/-- With a limit of one, a job that fails in each of two passes keeps the only
other due job from being attempted. -/
theorem failing_job_starves :
    ((Sample.onePass false).due Sample.env Sample.startStore).map (·.name) =
      [(Sample.startJob 5 "a").name, (Sample.startJob 6 "b").name] ∧
    (∀ x ∈ history Sample.env [Sample.onePass false, Sample.onePass false] Sample.startStore,
      (∀ job ∈ x.1.due Sample.env x.2, job.name = (Sample.startJob 5 "a").name ∨ job.name = (Sample.startJob 6 "b").name) ∧
      (∀ job ∈ x.1.batch Sample.env x.2, job.name = (Sample.startJob 5 "a").name →
        ((executeClaimedSchedulerJob Sample.env job 0).run (x.1.locked Sample.env x.2)).1.isOk = false)) ∧
    ¬ ∃ x ∈ history Sample.env [Sample.onePass false, Sample.onePass false] Sample.startStore,
      (Sample.startJob 6 "b").name ∈ x.1.attempted Sample.env x.2 := by
  decide +kernel

end M8flowCore
