import M8flowCore.Deeds
import M8flowCore.Bystanders
/-!
# When a task ended

A save stamps the row of every final task of the workflow with the time of the
save, a closure stamps every row of the instance with the time of the closure,
and a completion the row of its task. The end of a task is therefore kept only by
what is done to its instance at the time the task ended, and a row that a closure
has found cancelled loses its end when a retry reopens it.
-/
open M8flowCore.Lib M8flowCore.Session

namespace M8flowCore

/-- The task was completed or cancelled. -/
def Task.IsEnded (t : Task) : Prop := t.state = .spiff .completed ∨ t.state = .spiff .cancelled

section
variable {W Ω : Type} {env : Env W Ω} {d : Deed} {db db' : Db} {guid : Guid} {row row' : Task}

/-! ## What is written to a task -/

/-- What a write does to the row of a task. -/
inductive TaskWrite : Deed → Task → Task → Prop
  | same (d : Deed) (row : Task) : TaskWrite d row row
  | save {instanceId : Nat} {occurredAt : Time} (row : Task) {row' : Task} (hsaved : row'.Saved instanceId occurredAt) :
      TaskWrite (.task instanceId occurredAt) row row'
  | close (row : Task) (instanceId : Nat) (occurredAt : Time) :
      TaskWrite (.close instanceId occurredAt) row
        { row with state := if row.state = .spiff .completed then row.state else .terminated, endedAt := some occurredAt }
  | reopen (row : Task) (instanceId : Nat) (hterminated : row.state = .terminated) :
      TaskWrite (.reopen instanceId) row { row with state := .spiff .ready, startedAt := none, endedAt := none }
  | complete (row : Task) (item : WorkItem) (userId : Nat) (completedAt : Time) :
      TaskWrite (.complete item userId completedAt) row
        { row with state := .spiff .completed, endedAt := some completedAt }

theorem find?_guid_updateWhere {p : Task → Bool} {f : Task → Task} {tasks : List Task} (hf : ∀ t, (f t).guid = t.guid)
    (hrow : tasks.find? (·.guid == guid) = some row) :
    (updateWhere p f tasks).find? (·.guid == guid) = some (if p row then f row else row) := by
  rw [find?_updateWhere fun t _ _ => by simp only [hf], hrow]
  rfl

/-- The row of a task stays, as the write made it. -/
theorem Write.task_cases (h : Write env d db db') (hrow : db.task? guid = some row) :
    ∃ row', db'.task? guid = some row' ∧ TaskWrite d row row' := by
  unfold Db.task? at hrow ⊢
  cases h with
  | elsewhere hsame =>
    have htasks : db'.tracked.tasks = db.tracked.tasks := congrArg Db.tasks hsame
    change ∃ row', db'.tracked.tasks.find? (·.guid == guid) = some row' ∧ _
    rw [htasks]
    exact ⟨row, hrow, .same _ _⟩
  | newTask _ new _ _ =>
    refine ⟨row, ?_, .same _ _⟩
    dsimp only
    rw [List.find?_append, hrow]
    rfl
  | oldTask _ _ f hf =>
    refine ⟨_, find?_guid_updateWhere (fun t => (hf t).1) hrow, ?_⟩
    split
    · exact .save row (hf row).2
    · exact .same _ _
  | close _ instanceId occurredAt userId =>
    refine ⟨_, find?_guid_updateWhere (fun _ => rfl) hrow, ?_⟩
    split
    · exact .close row instanceId occurredAt
    · exact .same _ _
  | reopen _ instanceId occurredAt =>
    refine ⟨_, find?_guid_updateWhere (fun _ => rfl) hrow, ?_⟩
    split
    · rename_i hkey
      simp only [Bool.and_eq_true, beq_iff_eq] at hkey
      exact .reopen row instanceId hkey.2
    · exact .same _ _
  | complete _ item userId completedAt =>
    refine ⟨_, find?_guid_updateWhere (fun _ => rfl) hrow, ?_⟩
    split
    · exact .complete row item userId completedAt
    · exact .same _ _
  | _ => exact ⟨row, hrow, .same _ _⟩

/-! ## Rows that are over -/

/-- The time a write stamps on the rows of tasks. -/
def Deed.stamp : Deed → Option Time
  | .task _ occurredAt => some occurredAt
  | .close _ occurredAt => some occurredAt
  | .complete _ _ completedAt => some completedAt
  | _ => none

/-- In a final state of the workflow, or closed with the instance. -/
def TaskModelState.Final : TaskModelState → Prop
  | .spiff state => state.isTerminal = true
  | .terminated => True

/-- The task is over, and ended at `at_`. -/
structure Task.OverAt (at_ : Option Time) (t : Task) : Prop where
  final : t.state.Final
  ended : t.endedAt = at_

variable {at_ : Option Time}

theorem Task.IsEnded.final (h : row.IsEnded) : row.state.Final := by
  rcases h with h | h <;> rw [h] <;> rfl

/-- A write at the time a task ended leaves it over, or finds it unfinished. -/
theorem TaskWrite.keeps_end (h : TaskWrite d row row') (hstamp : ∀ t, d.stamp = some t → at_ = some t)
    (hrow : row.OverAt at_ ∨ ¬ row.state.Final) : row'.OverAt at_ ∨ ¬ row'.state.Final := by
  cases h with
  | same => exact hrow
  | save _ hsaved =>
    obtain ⟨-, state, hstate, hat⟩ := hsaved
    by_cases hterminal : state.isTerminal = true
    · refine .inl ⟨?_, ?_⟩
      · rw [hstate]
        exact hterminal
      · rw [hat, if_pos hterminal, hstamp _ rfl]
    · refine .inr ?_
      rw [hstate]
      exact hterminal
  | close =>
    refine .inl ⟨?_, (hstamp _ rfl).symm⟩
    dsimp only
    split
    · rename_i hcompleted
      rw [hcompleted]
      rfl
    · exact trivial
  | reopen => exact .inr (by simp [TaskModelState.Final, TaskState.isTerminal])
  | complete => exact .inl ⟨rfl, (hstamp _ rfl).symm⟩

/-- A session beside the call's own closes what it comes to. -/
theorem TaskWrite.keeps_over (h : TaskWrite d row row') (hbeside : d.Beside) (hstamp : ∀ t, d.stamp = some t → at_ = some t)
    (hrow : row.OverAt at_) : row'.OverAt at_ := by
  cases h with
  | same => exact hrow
  | save | reopen | complete => exact absurd hbeside (by simp [Deed.Beside])
  | close =>
    refine ⟨?_, (hstamp _ rfl).symm⟩
    dsimp only
    split
    · rename_i hcompleted
      rw [hcompleted]
      rfl
    · exact trivial

/-! ## Turns -/

theorem task?_rowAt (db : Db) (guid : Guid) : db.task? guid = rowAt (·.guid) db.tasks guid := rfl

theorem Task.merge_end {b v c : Task} (hb : b.OverAt at_) (hc : c.OverAt at_) (hv : v.OverAt at_ ∨ ¬ v.state.Final) :
    (Task.merge b v c).OverAt at_ ∨ ¬ (Task.merge b v c).state.Final := by
  unfold Task.merge pick
  rcases hv with hv | hv
  · refine .inl ⟨?_, ?_⟩
    · dsimp only
      split
      · exact hc.final
      · exact hv.final
    · dsimp only
      rw [if_pos (hv.ended.trans hb.ended.symm), hc.ended]
  · refine .inr ?_
    dsimp only
    have hne : v.state ≠ b.state := fun hsame => hv (hsame ▸ hb.final)
    rw [if_neg hne]
    exact hv

/-- The row of the task in what a session read, in its copy and in what is
committed. -/
structure EndKept (guid : Guid) (at_ : Option Time) (base view committed : Db) : Prop where
  base : ∃ b, base.task? guid = some b ∧ b.OverAt at_
  view : ∃ v, view.task? guid = some v ∧ (v.OverAt at_ ∨ ¬ v.state.Final)
  committed : ∃ c, committed.task? guid = some c ∧ c.OverAt at_

theorem EndKept.merge {base view committed : Db} (h : EndKept guid at_ base view committed) :
    ∃ row, (Db.merge base view committed).task? guid = some row ∧ (row.OverAt at_ ∨ ¬ row.state.Final) := by
  obtain ⟨b, hb, hbase⟩ := h.base
  obtain ⟨v, hv, hview⟩ := h.view
  obtain ⟨c, hc, hcommitted⟩ := h.committed
  have hmerged : (Db.merge base view committed).task? guid = if v = b then some c else some (Task.merge b v c) := by
    rw [task?_rowAt] at hb hv hc
    have hrow : rowAt (fun t : Task => t.guid) (Db.merge base view committed).tasks guid = _ :=
      rowAt_mergeTable_eq (fun b r c _ _ => (rfl : (Task.merge b r c).guid = r.guid)) fun _ => by rw [hv]; rfl
    rw [task?_rowAt, hrow, hv, hb, hc]
    rfl
  rw [hmerged]
  split
  · exact ⟨c, rfl, .inl hcommitted⟩
  · exact ⟨_, rfl, Task.merge_end hbase hcommitted hview⟩

theorem endKept_inv {A : Deed → Prop} (hA : ∀ d t, A d → d.stamp = some t → at_ = some t) :
    TurnInv env A fun _ => EndKept guid at_ where
  skip _ h := h
  write hd hwrite _ h := by
    obtain ⟨v, hv, hview⟩ := h.view
    obtain ⟨v', hv', htask⟩ := hwrite.task_cases hv
    exact ⟨h.base, ⟨v', hv', htask.keeps_end (fun t ht => hA _ t hd ht) hview⟩, h.committed⟩
  beside hd hbeside hwrite h := by
    obtain ⟨c, hc, hcommitted⟩ := h.committed
    obtain ⟨c', hc', htask⟩ := hwrite.task_cases hc
    exact ⟨h.base, h.view, ⟨c', hc', htask.keeps_over hbeside (fun t ht => hA _ t hd ht) hcommitted⟩⟩
  refresh h := ⟨h.committed, h.merge, h.committed⟩

/-! ## The time of an operation -/

/-- The operation with its time, `now` if it was given none. -/
def Operation.at (now : Time) : Operation → Operation
  | .command (.completeTask tenantId workItemId userId at_ payload) =>
    .command (.completeTask tenantId workItemId userId (some (at_.getD now)) payload)
  | .command (.initializeWorkflow tenantId i source at_) => .command (.initializeWorkflow tenantId i source (some (at_.getD now)))
  | .command (.error tenantId i userId at_) => .command (.error tenantId i userId (some (at_.getD now)))
  | .command (.retry tenantId i userId at_) => .command (.retry tenantId i userId (some (at_.getD now)))
  | .command (.terminate tenantId i userId at_) => .command (.terminate tenantId i userId (some (at_.getD now)))
  | .advance tenantId i guid at_ => .advance tenantId i guid (some (at_.getD now))
  | .runDueJobs at_ limit workerId tenant => .runDueJobs (some (at_.getD now)) limit workerId tenant
  | op => op

/-- When an operation takes place, on a clock that shows `now`. -/
def Operation.time (now : Time) (op : Operation) : Time := op.time?.getD now

theorem bind_run_congr {α β : Type} {m : M Ω α} {f g : α → M Ω β} {s : Tx Ω} (hm : m.ReadOnly)
    (h : ∀ a, (f a).run s = (g a).run s) : (m >>= f).run s = (m >>= g).run s := by
  rw [Prog.bind_run, Prog.bind_run]
  rcases hrun : m.run s with ⟨e | a, s₁⟩
  · rfl
  · obtain rfl := hm.state hrun
    exact h a

variable (env) in
theorem resolveTimestamp_at {α : Type} (time? : Option Time) (f : Time → M Ω α) (s : Tx Ω) :
    (resolveTimestamp env (some (time?.getD (env.now s.world))) >>= f).run s = (resolveTimestamp env time? >>= f).run s := rfl

variable (env) in
/-- No call looks at the clock before it resolves its time. -/
theorem Operation.at_run (op : Operation) (s : Tx Ω) : ((op.at (env.now s.world)).run env).run s = (op.run env).run s := by
  cases op with
  | command c =>
    cases c with
    | completeTask tenantId workItemId userId at_ payload =>
      exact bind_run_congr (completeTaskChecks_readOnly env _ _ _) fun item => resolveTimestamp_at env _ _ s
    | initializeWorkflow tenantId i source at_ =>
      refine bind_run_congr (loadProcessInstance_readOnly _ _) fun pi => ?_
      split
      · rfl
      refine bind_run_congr (fun _ => rfl) fun state => ?_
      split
      · rfl
      · exact resolveTimestamp_at env _ _ s
    | error tenantId i userId at_ =>
      change (errorProcessInstance env tenantId i userId (some (at_.getD (env.now s.world)))).run s = (errorProcessInstance env tenantId i userId at_).run s
      unfold errorProcessInstance
      cases userId with
      | none =>
        refine bind_run_congr (loadProcessInstance_readOnly tenantId i) fun pi => ?_
        split
        · rfl
        split
        · rfl
        split
        · rfl
        · exact resolveTimestamp_at env _ _ s
      | some userId =>
        refine bind_run_congr (ensureUserBelongsToTenant_readOnly tenantId userId) fun _ => ?_
        refine bind_run_congr (loadProcessInstance_readOnly tenantId i) fun pi => ?_
        split
        · rfl
        split
        · rfl
        split
        · rfl
        · exact resolveTimestamp_at env _ _ s
    | retry tenantId i userId at_ =>
      refine bind_run_congr (openProcessInstanceCommand_readOnly _ _ _ _) fun pi => ?_
      split
      · rfl
      · exact resolveTimestamp_at env _ _ s
    | terminate tenantId i userId at_ =>
      refine bind_run_congr (openProcessInstanceCommand_readOnly _ _ _ _) fun pi => ?_
      split
      · rfl
      split
      · rfl
      · exact resolveTimestamp_at env _ _ s
    | _ => rfl
  | advance tenantId i guid at_ =>
    refine bind_run_congr (loadProcessInstance_readOnly _ _) fun pi => ?_
    refine bind_run_congr (fun _ => rfl) fun state => ?_
    cases state with
    | none => rfl
    | some state =>
      dsimp only
      split
      · rfl
      · exact resolveTimestamp_at env _ _ s
  | assignPendingTasks tenantId userId => rfl
  | runDueJobs at_ limit workerId tenant => rfl

/-- The operation is a retry, or a pass with a retry that is due. -/
def Operation.Reopens (db : Db) (now : Time) : Operation → Prop
  | .command (.retry ..) => True
  | .runDueJobs at_ limit _ tenant => ∃ job ∈ dueSchedulerJobs db (at_.getD now) limit.toNat tenant, job.jobType = .processRetry
  | _ => False

theorem Operation.Reopens.stamps {op : Operation} {now : Time} (h : op.Reopens db now) : op.Stamps := by
  cases op with
  | command c => cases c <;> first | exact trivial | exact h.elim
  | advance => exact h.elim
  | assignPendingTasks => exact h.elim
  | runDueJobs => exact trivial

theorem Operation.time?_at {op : Operation} (hstamps : op.Stamps) {now : Time} {j : Nat} (hconcerns : op.Concerns db now j) :
    (op.at now).time? = some (op.time now) := by
  cases op with
  | command c =>
    cases c <;> first | rfl | exact hstamps.elim | exact hconcerns.elim
  | advance => rfl
  | assignPendingTasks => exact hstamps.elim
  | runDueJobs => rfl

/-- The time of a write is one the operation may stamp. -/
theorem Operation.DoesAt.stamped {op : Operation} {T : Time → Prop} (h : op.DoesAt T d) {t : Time} (ht : d.stamp = some t) :
    T t ∧ op.Stamps := by
  cases d with
  | task | close =>
    obtain rfl := Option.some.inj ht
    exact h
  | complete =>
    obtain rfl := Option.some.inj ht
    obtain ⟨hT, tenantId, completedAt, payload, rfl⟩ := h
    exact ⟨hT, trivial⟩
  | _ => cases ht

variable {st : Store} {world : Ω}

variable (env) in
/-- The call gets past the checks in front of its first write. -/
def Operation.Admitted (st : Store) (world : Ω) : Operation → Prop
  | .command (.completeTask tenantId workItemId userId _ _) =>
    ∃ item, (completeTaskChecks env tenantId workItemId userId).run (st.session world) = (.ok item, st.session world)
  | .command (.initializeWorkflow _ i _ _) =>
    ∃ p ∈ st.db.processInstances, p.id = i ∧ p.hasTerminalStatus = false ∧ st.db.workflowStateJson p = none
  | .command (.error _ i _ _) | .command (.terminate _ i _ _) =>
    ∃ p ∈ st.db.processInstances, p.id = i ∧ p.hasTerminalStatus = false
  | .command (.retry _ i _ _) => ∃ p ∈ st.db.processInstances, p.id = i ∧ p.status = .error
  | .advance _ i _ _ => ∃ p ∈ st.db.processInstances, p.id = i ∧ p.hasTerminalStatus = false ∧ (st.db.workflowStateJson p).isSome
  | _ => True

theorem bind_run_idle {α β : Type} {m : M Ω α} {f : α → M Ω β} {s : Tx Ω} (hm : m.ReadOnly)
    (hf : ∀ a, m.run s = (.ok a, s) → ((f a).run s).2 = s) : ((m >>= f).run s).2 = s := by
  rcases hrun : m.run s with ⟨e | a, s₁⟩
  · rw [Prog.bind_run_error hrun]
    exact hm.state hrun
  · obtain rfl := hm.state hrun
    rw [Prog.bind_run_ok hrun]
    exact hf a hrun

/-- A call that is not admitted leaves its session as it is. -/
theorem Operation.run_refused {op : Operation} (h : ¬ op.Admitted env st world) :
    ((op.run env).run (st.session world)).2 = st.session world := by
  cases op with
  | command c =>
    cases c with
    | completeTask tenantId workItemId userId at_ payload =>
      exact bind_run_idle (completeTaskChecks_readOnly env _ _ _) fun item hchecks => absurd ⟨item, hchecks⟩ h
    | initializeWorkflow tenantId i source at_ =>
      refine bind_run_idle (loadProcessInstance_readOnly _ _) fun pi hload => ?_
      obtain ⟨-, hpi, -, hid⟩ := loadProcessInstance_ok hload
      split
      · rfl
      rename_i hopen
      refine bind_run_idle (fun _ => rfl) fun state hstate => ?_
      obtain ⟨rfl, -⟩ := Prog.gets_ok.1 hstate
      split
      · rfl
      · rename_i hnone
        exact absurd ⟨pi, hpi, hid, by simpa using hopen, Option.not_isSome_iff_eq_none.1 hnone⟩ h
    | error tenantId i userId at_ =>
      have hrest : ∀ pi ∈ st.db.processInstances, pi.id = i → pi.status = .error ∨ pi.status = .complete ∨ pi.status = .terminated := by
        intro pi hpi hid
        by_contra hnot
        refine h ⟨pi, hpi, hid, ?_⟩
        simp only [not_or] at hnot
        simp [ProcessInstance.hasTerminalStatus, hnot.1, hnot.2.1, hnot.2.2]
      change ((errorProcessInstance env tenantId i userId at_).run (st.session world)).2 = _
      unfold errorProcessInstance
      have hload : ∀ pi, (loadProcessInstance tenantId i).run (st.session world) = (.ok pi, st.session world) →
          pi.status = .error ∨ pi.status = .complete ∨ pi.status = .terminated := fun pi hload =>
        hrest pi (loadProcessInstance_ok hload).2.1 (loadProcessInstance_ok hload).2.2.2
      cases userId with
      | none =>
        refine bind_run_idle (loadProcessInstance_readOnly tenantId i) fun pi hpi => ?_
        rcases hload pi hpi with hstatus | hstatus | hstatus <;> simp [hstatus]
      | some userId =>
        refine bind_run_idle (ensureUserBelongsToTenant_readOnly tenantId userId) fun _ _ => ?_
        refine bind_run_idle (loadProcessInstance_readOnly tenantId i) fun pi hpi => ?_
        rcases hload pi hpi with hstatus | hstatus | hstatus <;> simp [hstatus]
    | terminate tenantId i userId at_ =>
      refine bind_run_idle (openProcessInstanceCommand_readOnly _ _ _ _) fun pi hopen => ?_
      obtain ⟨-, hpi, -, hid⟩ := openProcessInstanceCommand_ok hopen
      split
      · rfl
      rename_i hterminated
      split
      · rfl
      · rename_i hother
        refine absurd ⟨pi, hpi, hid, ?_⟩ h
        simp only [not_or] at hother
        simp [ProcessInstance.hasTerminalStatus, hterminated, hother.1, hother.2]
    | retry tenantId i userId at_ =>
      refine bind_run_idle (openProcessInstanceCommand_readOnly _ _ _ _) fun pi hopen => ?_
      obtain ⟨-, hpi, -, hid⟩ := openProcessInstanceCommand_ok hopen
      rw [if_pos fun herror => h ⟨pi, hpi, hid, herror⟩]
      rfl
    | _ => exact absurd trivial h
  | advance tenantId i guid at_ =>
    refine bind_run_idle (loadProcessInstance_readOnly _ _) fun pi hload => ?_
    obtain ⟨-, hpi, -, hid⟩ := loadProcessInstance_ok hload
    refine bind_run_idle (fun _ => rfl) fun state hstate => ?_
    obtain ⟨hstate, -⟩ := Prog.gets_ok.1 hstate
    cases state with
    | none => rfl
    | some state =>
      dsimp only
      split
      · rfl
      · rename_i hopen
        have hsome : st.db.workflowStateJson pi = some state := hstate
        exact absurd ⟨pi, hpi, hid, by simpa using hopen, by rw [hsome]; rfl⟩ h
  | assignPendingTasks => exact absurd trivial h
  | runDueJobs => exact absurd trivial h

/-! ## Runs -/

variable (env) in
/-- Whatever the call does to the instance of the task, it does at the time at
which the task ended, and it is no retry where the task was not completed. -/
def Operation.Timely (guid : Guid) (st : Store) (world : Ω) (op : Operation) : Prop :=
  ∀ row, st.db.task? guid = some row → op.Stamps → op.Concerns st.db (env.now world) row.processInstanceId →
    op.Admitted env st world →
    row.endedAt = some (op.time (env.now world)) ∧ (row.state = .spiff .completed ∨ ¬ op.Reopens st.db (env.now world))

/-- The workflow has reset the task: its row was over and is not any more, and
it is not that a retry has reopened what was closed. -/
def Resets (guid : Guid) (op : Operation) (now : Time) (db db' : Db) : Prop :=
  ∃ row row', db.task? guid = some row ∧ db'.task? guid = some row' ∧ row.state.Final ∧ ¬ row'.state.Final ∧
    (row.state = .spiff .completed ∨ ¬ op.Reopens db now)

/-- The operation works in its caller's session alone. -/
def Operation.Alone : Operation → Prop
  | .command (.completeTask ..) | .command (.error ..) | .command (.terminate ..) | .advance .. => True
  | _ => False

variable (env) in
theorem Operation.alone_committed {op : Operation} (h : op.Alone) (s : Tx Ω) : ((op.run env).run s).2.committed = s.committed := by
  have hany : ∀ i, Works (fun _ => True) i fun _ => True := fun i =>
    ⟨⟨trivial, fun _ => trivial, trivial, trivial, fun _ => trivial, trivial, trivial, trivial⟩, trivial, fun _ _ =>
      ⟨⟨⟨trivial, fun _ => trivial, trivial, trivial, fun _ => trivial, trivial, trivial, trivial⟩, trivial⟩, trivial⟩⟩
  have hwrote : ∀ {m : M Ω Unit}, m.Keeps (Wrote env fun _ => True) → (m.run s).2.committed = s.committed := fun hm => (hm s).committed
  cases op with
  | command c =>
    cases c with
    | completeTask => exact hwrote (completeTask_wrote _ (fun _ _ => ⟨fun _ _ => trivial, hany _⟩) _ (fun _ _ => trivial) _)
    | error => exact hwrote (errorProcessInstance_wrote trivial _ _ _ fun _ _ => trivial)
    | terminate => exact hwrote (terminateProcessInstance_wrote trivial _ _ _ fun _ _ => trivial)
    | _ => exact h.elim
  | advance => exact hwrote (advanceProcessInstanceWorkflow_wrote _ (hany _) _ _ fun _ _ => trivial)
  | assignPendingTasks => exact h.elim
  | runDueJobs => exact h.elim

variable (env) in
/-- A run that comes to the ended task only at the time at which it ended, and
whose workflows do not reset it. A call is committed, also where it raised, or
rolled back. -/
inductive OnTime (guid : Guid) (st₀ : Store) : Store → Prop
  | nil : OnTime guid st₀ st₀
  | commit {st : Store} {op : Operation} {world : Ω} {r : Except Error Unit} {s : Tx Ω} (h : OnTime guid st₀ st)
      (hrooted : op.Rooted) (htimely : op.Timely env guid st world) (hrun : (op.run env).run (st.session world) = (r, s))
      (hreset : ¬ Resets guid op (env.now world) st.db s.commit) : OnTime guid st₀ ⟨s.seq, s.commit⟩
  | rollback {st : Store} {op : Operation} {world : Ω} {r : Except Error Unit} {s : Tx Ω} (h : OnTime guid st₀ st)
      (hrooted : op.Rooted) (htimely : ¬ op.Alone → op.Timely env guid st world)
      (hrun : (op.run env).run (st.session world) = (r, s)) : OnTime guid st₀ ⟨s.seq, s.committed⟩

variable {owner : Guid → Nat} {op : Operation} {r : Except Error Unit} {s : Tx Ω} {st₀ : Store}

/-- What one call does to a task that is over. -/
theorem end_after (henv : env.Engine owner) (hkeys : env.AddsNoKeys) (hrooted : op.Rooted) (hst : Sorted env owner st)
    (hj : owner guid < st.seq) (hrow : st.db.task? guid = some row) (hover : row.OverAt at_) (htimely : op.Timely env guid st world)
    (hrun : (op.run env).run (st.session world) = (r, s)) :
    (¬ Resets guid op (env.now world) st.db s.commit → ∃ row', s.commit.task? guid = some row' ∧ row'.OverAt at_) ∧
      ∃ row', s.committed.task? guid = some row' ∧ row'.OverAt at_ := by
  have hrun' : ((op.run env).run (st.session world)).2 = s := by rw [hrun]
  have howner : owner guid = row.processInstanceId := by
    have hguid : row.guid = guid := by simpa using List.find?_some hrow
    rw [← hguid]
    exact hst.kept.integral.tasks st.db (by simp) row (List.mem_of_find?_eq_some hrow)
  have hstart : EndKept guid at_ st.db st.db st.db := ⟨⟨row, hrow, hover⟩, ⟨row, hrow, .inl hover⟩, ⟨row, hrow, hover⟩⟩
  -- Turns that keep to the time leave the row over, or the workflow has reset it.
  have hends : ∀ {A : Deed → Prop}, (∀ d t, A d → d.stamp = some t → at_ = some t) → Turns env A (st.session world) s →
      (row.state = .spiff .completed ∨ ¬ op.Reopens st.db (env.now world)) →
      (¬ Resets guid op (env.now world) st.db s.commit → ∃ row', s.commit.task? guid = some row' ∧ row'.OverAt at_) ∧
        ∃ row', s.committed.task? guid = some row' ∧ row'.OverAt at_ := by
    intro A hA hturns hkept
    have hend : EndKept guid at_ s.base s.view s.committed := hturns.inv (endKept_inv hA) hstart
    refine ⟨fun hreset => ?_, hend.committed⟩
    obtain ⟨row', hrow', hover' | hopen⟩ := hend.merge
    · exact ⟨row', hrow', hover'⟩
    · exact absurd ⟨row, row', hrow, hrow', hover.final, hopen, hkept⟩ hreset
  by_cases hconcerns : op.Concerns st.db (env.now world) (owner guid)
  swap
  · -- what is done to other instances
    obtain ⟨own, durable, hdone, -⟩ := Operation.done henv hkeys hrooted hst hrun
    obtain ⟨-, hcommitted, hcommit⟩ := hdone.untouched henv hst hj hconcerns
    exact ⟨fun _ => ⟨row, (hcommit.tasks guid rfl).trans hrow, hover⟩, ⟨row, (hcommitted.tasks guid rfl).trans hrow, hover⟩⟩
  by_cases hstamps : op.Stamps
  swap
  · -- what sets no time
    refine hends (A := op.DoesAt fun _ => True) (fun d t hd ht => absurd (hd.stamped ht).2 hstamps) ?_ (.inr fun h => hstamps h.stamps)
    rw [← hrun']
    exact op.turnsAt (fun _ _ => trivial) _
  by_cases hadmitted : op.Admitted env st world
  swap
  · -- what is refused
    obtain rfl := (Operation.run_refused hadmitted).symm.trans hrun'
    refine ⟨fun _ => ⟨row, ?_, hover⟩, ⟨row, hrow, hover⟩⟩
    change (Db.merge st.db st.db st.db).task? guid = _
    rwa [Db.merge_current]
  obtain ⟨hat, hkept⟩ := htimely row hrow hstamps (howner ▸ hconcerns) hadmitted
  refine hends (A := (op.at (env.now world)).DoesAt (· = op.time (env.now world))) (fun d t hd ht => ?_) ?_ hkept
  · rw [← hover.ended, hat, (hd.stamped ht).1]
  · rw [← hrun', ← op.at_run env (st.session world)]
    refine (op.at _).turnsAt (fun t ht => ?_) _
    exact ht _ (Operation.time?_at hstamps hconcerns)

end
namespace Sample

def completeAt (workItemId : Nat) (t : Time) : Operation := .command (.completeTask "t" workItemId 1 (some t) [])

/-- The finance task of the review is completed, and ended when it says. -/
def FinanceEnded (t : Time) (st : Store) : Prop :=
  (st.db.task? "fxxxxxxxxxxx").map (fun row => (row.state, row.endedAt)) = some (.spiff .completed, some t)

instance (t : Time) : DecidablePred (FinanceEnded t) := fun _ => inferInstanceAs (Decidable (_ = _))

/-- The finance task is completed, and the legal one claimed. -/
def halfReviewedAt7 : Store := (financeClaimed.after env (completeAt 17 7) true).after env (claim 18) true

theorem halfReviewedAt7_run : CleanRun env store [start, claim 17, completeAt 17 7, claim 18] halfReviewedAt7 :=
  .snoc (.snoc (.snoc started_run (.after (by decide +kernel))) (.after (by decide +kernel))) (.after (by decide +kernel))

theorem halfReviewedAt7_reachable : Reachable env halfReviewedAt7 := by
  refine ⟨store, _, store_unused, halfReviewedAt7_run.run, fun op hop => ?_⟩
  simp only [List.mem_cons, List.not_mem_nil, or_false] at hop
  rcases hop with rfl | rfl | rfl | rfl <;> trivial

theorem halfReviewedAt7_ended : FinanceEnded 7 halfReviewedAt7 := by decide +kernel

end Sample

end M8flowCore
