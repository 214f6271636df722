import M8flowCore.StatusMachine
/-!
# The history of an instance

A lifecycle event stands for a move: as many events of a kind are recorded for
an instance as it has made moves of that kind. The one exception is
`process_instance_completed`, which `complete_task` records and no other
operation that runs a workflow to its end.
-/
open M8flowCore.Lib M8flowCore.Session

namespace M8flowCore

/-! ## Counting moves -/

namespace Stage

/-- The move takes the instance into a status it was not in. -/
def enters (status : ProcessInstanceStatus) (stage : Stage) : Bool :=
  statusOfLife stage.after == some status && statusOfLife stage.before != some status

/-- The move takes the instance into `error`, be it from `error`. -/
def fails (stage : Stage) : Bool := stage.cause == .error || stage.cause == .fail

def resumes (stage : Stage) : Bool := stage.cause == .resume

def retries (stage : Stage) : Bool := stage.cause == .retry

/-- The move is recorded by whoever makes it. -/
def Told (stage : Stage) : Prop := stage.cause ≠ .record ∧ (stage.enters .complete = true → stage.cause = .complete)

end Stage

/-- The events of each kind are as many as the moves they stand for. -/
structure Tells (stages : List Stage) (count : EventType → Nat) : Prop where
  completed : count .processInstanceCompleted = stages.countP (·.enters .complete)
  error : count .processInstanceError = stages.countP (·.fails)
  suspended : count .processInstanceSuspended = stages.countP (·.enters .suspended)
  resumed : count .processInstanceResumed = stages.countP (·.resumes)
  retried : count .processInstanceRetried = stages.countP (·.retries)
  terminated : count .processInstanceTerminated = stages.countP (·.enters .terminated)

theorem Tells.append {stages stages' : List Stage} {history news : List EventType} (h : Tells stages history.count)
    (h' : Tells stages' news.count) : Tells (stages ++ stages') (history ++ news).count := by
  constructor <;> rw [List.count_append, List.countP_append]
  · rw [h.completed, h'.completed]
  · rw [h.error, h'.error]
  · rw [h.suspended, h'.suspended]
  · rw [h.resumed, h'.resumed]
  · rw [h.retried, h'.retried]
  · rw [h.terminated, h'.terminated]

def historyOfLife (a : Option Life) : List EventType := (a.map (·.history)).getD []

/-- What one move adds to the history is what it stands for. -/
theorem Move.tells {c : Cause} {a b : Option Life} (h : Move c a b) (ha : ∀ l, a = some l → l.Closed)
    (htold : Stage.Told ⟨c, a, b⟩) :
    ∃ news, historyOfLife b = historyOfLife a ++ news ∧ Tells [⟨c, a, b⟩] news.count := by
  have hterminal : ∀ {status : ProcessInstanceStatus}, status.isTerminal = false →
      status ≠ .complete ∧ status ≠ .terminated := by
    intro status h
    cases status <;> simp [ProcessInstanceStatus.isTerminal] at h ⊢
  have hworkflow : ∀ {p : Phase}, p.OfWorkflow → p.status ≠ .suspended ∧ p.status ≠ .terminated := by
    intro p hp
    rcases hp with ⟨hstatus, -⟩ | ⟨hstatus | hstatus | hstatus, -⟩ <;> simp [hstatus]
  -- A move that keeps the status and the history tells nothing.
  have hquiet : ∀ {l l' : Life}, l'.phase.status = l.phase.status → c = .item →
      Tells [⟨c, some l, some l'⟩] ([] : List EventType).count := by
    intro l l' hstatus hc
    subst hc
    constructor <;> simp [Stage.enters, Stage.fails, Stage.resumes, Stage.retries, statusOfLife, hstatus]
  cases h with
  | create => exact ⟨[], rfl, by constructor <;> decide⟩
  | @save _ hc l hopen p hp opened hclosed history hhistory =>
    obtain ⟨hsuspended, hterminated⟩ := hworkflow hp
    have hcauses : c ≠ .error ∧ c ≠ .fail ∧ c ≠ .resume ∧ c ≠ .retry := by
      rcases hc with rfl | rfl | rfl | rfl <;> simp
    obtain ⟨herror, hfail, hresume, hretry⟩ := hcauses
    by_cases hcomplete : p.status = .complete
    · have henters : Stage.enters .complete ⟨c, some l, some ⟨p, history, opened⟩⟩ = true := by
        simp [Stage.enters, statusOfLife, hcomplete, (hterminal hopen).1]
      obtain rfl := htold.2 henters
      refine ⟨[.processInstanceCompleted], ?_, ?_⟩
      · simp [historyOfLife, hhistory, hcomplete]
      · constructor <;>
          simp [Stage.enters, Stage.fails, Stage.resumes, Stage.retries, statusOfLife, hcomplete, (hterminal hopen).1]
    · refine ⟨[], ?_, ?_⟩
      · simp [historyOfLife, hhistory, hcomplete]
      · constructor <;> simp [Stage.enters, Stage.fails, Stage.resumes, Stage.retries, statusOfLife, hcomplete, hsuspended,
          hterminated, herror, hfail, hresume, hretry]
  | @retry l herror p hp opened hclosed =>
    obtain ⟨hsuspended, hterminated⟩ := hworkflow hp
    have hcomplete : p.status ≠ .complete := by
      intro hcomplete
      have := htold.2 (by simp [Stage.enters, statusOfLife, hcomplete, herror])
      simp at this
    refine ⟨[.processInstanceRetried], rfl, ?_⟩
    constructor <;> simp [Stage.enters, Stage.fails, Stage.resumes, Stage.retries, statusOfLife, hcomplete, hsuspended,
      hterminated]
  | suspend l hopen hne =>
    refine ⟨[.processInstanceSuspended], rfl, ?_⟩
    constructor <;> simp [Stage.enters, Stage.fails, Stage.resumes, Stage.retries, statusOfLife, hne]
  | resume l hs =>
    refine ⟨[.processInstanceResumed], rfl, ?_⟩
    constructor <;> simp [Stage.enters, Stage.fails, Stage.resumes, Stage.retries, statusOfLife]
  | error l hopen t | fail l hcomplete hterminated t =>
    refine ⟨[.processInstanceError], rfl, ?_⟩
    constructor <;> simp [Stage.enters, Stage.fails, Stage.resumes, Stage.retries, statusOfLife]
  | terminate l hopen t =>
    refine ⟨[.processInstanceTerminated], rfl, ?_⟩
    constructor <;>
      simp [Stage.enters, Stage.fails, Stage.resumes, Stage.retries, statusOfLife, (hterminal hopen).2]
  | item l hopened opened => exact ⟨[], by simp [historyOfLife], hquiet rfl rfl⟩
  | late l hopened hstatus opened =>
    have := ha l rfl (by rw [hstatus]; rfl)
    rw [hopened] at this
    simp at this
  | record l eventType => exact absurd rfl htold.1

/-- The moves that can take an instance into `complete`. -/
theorem Move.completes {c : Cause} {a b : Option Life} (h : Move c a b) (hb : statusOfLife b = some .complete)
    (ha : statusOfLife a ≠ some .complete) : c = .start ∨ c = .advance ∨ c = .complete ∨ c = .wake ∨ c = .retry := by
  cases h with
  | save hc =>
    rcases hc with rfl | rfl | rfl | rfl <;> simp
  | retry => simp
  | item | late | record => exact absurd hb ha
  | _ => simp [statusOfLife] at hb

/-- A sequence of moves that are told. -/
theorem Journey.tells {stages : List Stage} {a b : Option Life} (h : Journey stages a b)
    (htold : ∀ stage ∈ stages, stage.Told) (ha : ∀ l, a = some l → l.Closed) :
    (∀ l, b = some l → l.Closed) ∧ ∃ news, historyOfLife b = historyOfLife a ++ news ∧ Tells stages news.count := by
  induction h with
  | nil => exact ⟨ha, [], by simp, by constructor <;> simp⟩
  | snoc _ hmove ih =>
    obtain ⟨hclosed, news, hnews, htells⟩ := ih (fun stage hstage => htold stage (List.mem_append_left _ hstage)) ha
    obtain ⟨news', hnews', htells'⟩ := hmove.tells hclosed (htold _ (List.mem_append_right _ (List.mem_singleton.2 rfl)))
    refine ⟨hmove.closed hclosed, news ++ news', ?_, htells.append htells'⟩
    rw [hnews', hnews, List.append_assoc]

/-- A move of a sequence, with what comes before and after it. -/
theorem Journey.split {stages : List Stage} {a b : Option Life} (h : Journey stages a b) {stage : Stage}
    (hstage : stage ∈ stages) : ∃ before after, Journey before a stage.before ∧
      Move stage.cause stage.before stage.after ∧ Journey after stage.after b := by
  induction h with
  | nil => simp at hstage
  | snoc hjourney hmove ih =>
    rcases List.mem_append.1 hstage with hstage | hstage
    · obtain ⟨before, after, hbefore, hstage, hafter⟩ := ih hstage
      exact ⟨before, _, hbefore, hstage, hafter.snoc hmove⟩
    · rw [List.mem_singleton] at hstage
      subst hstage
      exact ⟨_, [], hjourney, hmove, .nil _⟩

theorem Journey.permitted {stages : List Stage} {a b : Option Life} (h : Journey stages a b) :
    Permitted (fun _ => True) (statusOfLife a) (statusOfLife b) :=
  Path.permitted ⟨stages, h, fun _ _ => trivial⟩

/-- An instance is complete once at most. -/
theorem Journey.completed_once {stages : List Stage} {b : Option Life} (h : Journey stages none b) :
    stages.countP (·.enters .complete) = if statusOfLife b = some .complete then 1 else 0 := by
  generalize ha : (none : Option Life) = a at h
  induction h with
  | nil =>
    subst ha
    simp [statusOfLife]
  | @snoc stages _ b c _ cause hmove ih =>
    rw [List.countP_append, ih ha]
    have habsorbing := (hmove.permitted (C := fun _ => True) trivial).absorbing
    by_cases hbefore : statusOfLife b = some .complete
    · simp [Stage.enters, hbefore, habsorbing (.inl hbefore)]
    · by_cases hafter : statusOfLife c = some .complete
      · simp [Stage.enters, hbefore, hafter]
      · simp [Stage.enters, hbefore, hafter]

/-! ## Runs -/

section
variable {W Ω : Type} {env : Env W Ω} {op : Operation} {ops : List Operation} {st₀ st st' : Store} {i : Nat}

/-- The events of a type recorded for an instance. -/
def Db.eventCount (db : Db) (i : Nat) (eventType : EventType) : Nat :=
  (db.events.filter fun e => e.processInstanceId == i && e.eventType == eventType).length

theorem Db.count_history (db : Db) (i : Nat) {eventType : EventType} (h : eventType.isLifecycle = true) :
    (db.history i).count eventType = db.eventCount i eventType := by
  unfold Db.history Db.eventCount
  rw [List.count, List.countP_map, List.countP_filter, List.countP_eq_length_filter]
  congr 2
  funext e
  by_cases htype : e.eventType = eventType
  · simp [htype, h]
  · simp only [Function.comp_apply, beq_eq_false_iff_ne.2 htype]
    simp

variable (env) in
/-- A run of which every step satisfies `P`, with the moves it makes of instance
`i`: each step is some sequence of moves for which the operation is the cause,
or which the library commits by itself. -/
inductive Chronicle (P : Store → Operation → Store → Prop) (i : Nat) (st₀ : Store) :
    List Stage → List Operation → Store → Prop
  | nil : Chronicle P i st₀ [] [] st₀
  | snoc {stages stages' : List Stage} {ops : List Operation} {op : Operation} {st st' : Store}
      (hbefore : Chronicle P i st₀ stages ops st) (hstep : CleanStep env op st st') (hP : P st op st')
      (hjourney : Journey stages' (st.db.life i) (st'.db.life i))
      (hcause : ∀ stage ∈ stages', op.causes st.db i stage.cause ∨ stage.cause = .create ∨ stage.cause = .fail) :
      Chronicle P i st₀ (stages ++ stages') (ops ++ [op]) st'

variable (env) in
/-- A run of which every step satisfies `P`. -/
inductive RunOf (P : Store → Operation → Store → Prop) (st₀ : Store) : List Operation → Store → Prop
  | nil : RunOf P st₀ [] st₀
  | snoc {ops : List Operation} {op : Operation} {st st' : Store} (hrun : RunOf P st₀ ops st)
      (hstep : CleanStep env op st st') (hP : P st op st') : RunOf P st₀ (ops ++ [op]) st'

theorem RunOf.run {P : Store → Operation → Store → Prop} (h : RunOf env P st₀ ops st) : CleanRun env st₀ ops st := by
  induction h with
  | nil => exact .nil
  | snoc _ hstep _ ih => exact ih.snoc hstep

/-- Every run is a sequence of moves of each instance. -/
theorem RunOf.chronicle (hlaw : env.Lawful) (hfiled : Filed st₀.seq st₀.db) {P : Store → Operation → Store → Prop}
    (h : RunOf env P st₀ ops st) (i : Nat) : ∃ stages, Chronicle env P i st₀ stages ops st := by
  induction h with
  | nil => exact ⟨[], .nil⟩
  | snoc hrun hstep hP ih =>
    obtain ⟨stages, hbefore⟩ := ih
    obtain ⟨stages', hjourney, hcause⟩ := (hstep.travels hlaw (hrun.run.filed hlaw hfiled)).2 i
    exact ⟨_, hbefore.snoc hstep hP hjourney hcause⟩

/-- What the history asks of a step: the host records no event of its own, and
an instance that becomes complete does so in `complete_task`. -/
structure Recorded (st : Store) (op : Operation) (st' : Store) : Prop where
  own : ∀ tenantId i eventType taskGuid userId occurredAt,
    op ≠ .command (.recordEvent tenantId i eventType taskGuid userId occurredAt)
  completed : ∀ i, st.db.status? i ≠ some .complete → st'.db.status? i = some .complete →
    ∃ tenantId workItemId userId completedAt payload,
      op = .command (.completeTask tenantId workItemId userId completedAt payload)

/-- The moves of a step that is recorded are told. -/
theorem Recorded.told (h : Recorded st op st') {stages : List Stage}
    (hjourney : Journey stages (st.db.life i) (st'.db.life i))
    (hcause : ∀ stage ∈ stages, op.causes st.db i stage.cause ∨ stage.cause = .create ∨ stage.cause = .fail) :
    ∀ stage ∈ stages, stage.Told := by
  intro stage hstage
  refine ⟨fun hrecord => ?_, fun henters => ?_⟩
  · have hop := hcause stage hstage
    rw [hrecord] at hop
    rcases hop with hop | hop | hop
    · cases op with
      | command c =>
        cases c <;> simp only [Operation.causes, Command.causes, reduceCtorEq, and_false, or_false] at hop
        exact h.own _ _ _ _ _ _ rfl
      | advance => simp [Operation.causes] at hop
      | assignPendingTasks => simp [Operation.causes] at hop
      | runDueJobs now limit workerId tenant =>
        obtain ⟨t, ht, job, hjob, hjobcause⟩ := hop
        unfold SchedulerJob.causes at hjobcause
        split at hjobcause <;> simp at hjobcause
    · simp at hop
    · simp at hop
  · obtain ⟨before, after, hbefore, hmove, hafter⟩ := hjourney.split hstage
    simp only [Stage.enters, Bool.and_eq_true, beq_iff_eq, bne_iff_ne] at henters
    obtain ⟨hcomplete, hne⟩ := henters
    -- Complete is absorbing: the step began before it and ends in it.
    have hend : st'.db.status? i = some .complete := by
      rw [← statusOfLife_life, hafter.permitted.absorbing (.inl hcomplete), hcomplete]
    have hstart : st.db.status? i ≠ some .complete := by
      intro hstart
      rw [← statusOfLife_life] at hstart
      exact hne ((hbefore.permitted.absorbing (.inl hstart)).trans hstart)
    obtain ⟨_, _, _, _, _, rfl⟩ := h.completed i hstart hend
    have hmoves := hmove.completes hcomplete hne
    rcases hcause stage hstage with (hc | hc) | hc | hc
    · exact hc
    all_goals simp [hc] at hmoves

theorem Chronicle.tells (hblank : st₀.Blank) {stages : List Stage} (h : Chronicle env Recorded i st₀ stages ops st) :
    Journey stages none (st.db.life i) ∧ (∀ l, st.db.life i = some l → l.Closed) ∧
      Tells stages (historyOfLife (st.db.life i)).count := by
  induction h with
  | nil =>
    have hlife : st₀.db.life i = none := by simp [Db.life, Db.processInstance?, hblank.instances]
    rw [hlife]
    exact ⟨.nil _, by simp, by constructor <;> simp [historyOfLife]⟩
  | snoc hbefore hstep hP hjourney hcause ih =>
    obtain ⟨hsofar, hclosed, htells⟩ := ih
    obtain ⟨hclosed', news, hnews, htells'⟩ := hjourney.tells (hP.told hjourney hcause) hclosed
    refine ⟨hsofar.trans hjourney, hclosed', ?_⟩
    rw [hnews]
    exact htells.append htells'

/-- In a run whose steps are all recorded, the events of an instance are its
moves, and an instance that is complete has one event that says so. -/
theorem history_tells (hlaw : env.Lawful) (hblank : st₀.Blank) (hrun : RunOf env Recorded st₀ ops st)
    {p : ProcessInstance} (hp : p ∈ st.db.processInstances) :
    (∃ stages, Chronicle env Recorded p.id st₀ stages ops st) ∧
      (∀ stages, Chronicle env Recorded p.id st₀ stages ops st → Tells stages (st.db.eventCount p.id)) ∧
      (p.status = .complete → st.db.eventCount p.id .processInstanceCompleted = 1) := by
  have hlife := life_of_mem (hrun.run.filed hlaw hblank.filed) hp
  have htells : ∀ stages, Chronicle env Recorded p.id st₀ stages ops st → Tells stages (st.db.eventCount p.id) := by
    intro stages hchronicle
    obtain ⟨-, -, h⟩ := hchronicle.tells hblank
    rw [hlife] at h
    have hcount : ∀ {eventType : EventType}, eventType.isLifecycle = true →
        (historyOfLife (some ⟨p.phase, st.db.history p.id, st.db.opened p.id⟩)).count eventType =
          st.db.eventCount p.id eventType := fun htype => st.db.count_history p.id htype
    constructor
    · rw [← hcount rfl, h.completed]
    · rw [← hcount rfl, h.error]
    · rw [← hcount rfl, h.suspended]
    · rw [← hcount rfl, h.resumed]
    · rw [← hcount rfl, h.retried]
    · rw [← hcount rfl, h.terminated]
  obtain ⟨stages, hchronicle⟩ := hrun.chronicle hlaw hblank.filed p.id
  refine ⟨⟨stages, hchronicle⟩, htells, fun hcomplete => ?_⟩
  obtain ⟨hjourney, -, -⟩ := hchronicle.tells hblank
  rw [(htells stages hchronicle).completed, hjourney.completed_once, hlife]
  simp [statusOfLife, ProcessInstance.phase, hcomplete]

/-- A step after which nothing is complete. -/
theorem Recorded.of_open (hown : ∀ tenantId i eventType taskGuid userId occurredAt,
    op ≠ .command (.recordEvent tenantId i eventType taskGuid userId occurredAt))
    (h : ∀ p ∈ st'.db.processInstances, p.status ≠ .complete) : Recorded st op st' := by
  refine ⟨hown, fun i _ hcomplete => ?_⟩
  unfold Db.status? Db.processInstance? at hcomplete
  obtain ⟨p, hp, hstatus⟩ := Option.map_eq_some_iff.1 hcomplete
  exact absurd hstatus (h p (List.mem_of_find?_eq_some hp))

end

namespace Sample

/-! A review: start it, then claim and complete the finance and the legal task. -/

def started : Store := store.after env start true

def financeClaimed : Store := started.after env (claim 17) true

def financeDone : Store := financeClaimed.after env (complete 17) true

def legalClaimed : Store := financeDone.after env (claim 18) true

def reviewed : Store := legalClaimed.after env (complete 18) true

/-- A store with the process that only calls a service. -/
def serviceStore : Store := ⟨10, dbOf "service"⟩

end Sample

open Sample in
/-- A review that a human task completes. -/
theorem history_tells_review : ∃ p ∈ reviewed.db.processInstances, p.status = .complete ∧
    reviewed.db.eventCount p.id .processInstanceCompleted = 1 := by
  have hrun : RunOf env Recorded store [start, claim 17, complete 17, claim 18, complete 18] reviewed := by
    have h₁ : RunOf env Recorded store [start] started :=
      .snoc .nil (.after (by decide +kernel)) (.of_open (by simp [start]) (by decide +kernel))
    have h₂ : RunOf env Recorded store [start, claim 17] financeClaimed :=
      .snoc h₁ (.after (by decide +kernel)) (.of_open (by simp [claim]) (by decide +kernel))
    have h₃ : RunOf env Recorded store [start, claim 17, complete 17] financeDone :=
      .snoc h₂ (.after (by decide +kernel)) (.of_open (by simp [complete]) (by decide +kernel))
    have h₄ : RunOf env Recorded store [start, claim 17, complete 17, claim 18] legalClaimed :=
      .snoc h₃ (.after (by decide +kernel)) (.of_open (by simp [claim]) (by decide +kernel))
    exact .snoc h₄ (.after (by decide +kernel)) ⟨by simp [complete], fun _ _ _ => ⟨_, _, _, _, _, rfl⟩⟩
  obtain ⟨p, hp, hcomplete⟩ : ∃ p ∈ reviewed.db.processInstances, p.status = .complete := by decide +kernel
  exact ⟨p, hp, hcomplete, (history_tells env_lawful store_blank hrun hp).2.2 hcomplete⟩

open Sample in
/-- A start that runs to the end: the instance is complete, and no event says so. -/
theorem history_untold : serviceStore.Blank ∧
    CleanRun env serviceStore [start] (serviceStore.after env start true) ∧
    ∃ p ∈ (serviceStore.after env start true).db.processInstances, p.status = .complete ∧
      (serviceStore.after env start true).db.eventCount p.id .processInstanceCompleted = 0 := by
  refine ⟨⟨rfl, rfl, rfl⟩, .snoc .nil (.after (by decide +kernel)), by decide +kernel⟩

end M8flowCore
