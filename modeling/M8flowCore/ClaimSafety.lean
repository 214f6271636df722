import M8flowCore.Sample
/-!
# Claims under concurrency

Any number of `claim_task` calls on one work item, interleaved at the grain of
their statements: a call reads the rows, checks what it has read, tries its
conditional update, and is committed or rolled back by its caller. The checks
are made on rows that may be stale by then. The update is not: it waits for
the lock on the row and tests the row that is committed when it gets it.

Other transactions may come in between as long as they leave the item's row
alone and take nobody's membership or assignment away.
-/
open M8flowCore.Lib M8flowCore.Session

namespace M8flowCore.ClaimSafety

/-- Where a call stands. `updated` holds the lock on the row. -/
inductive Phase where
  | idle
  | read (db : Db)
  | checked (item : WorkItem)
  | updated (item : WorkItem) (claimedAt : Time)
  | claimed
  | raised (e : Error)
  | rolledBack

/-- The committed database and the calls. -/
structure State (ι : Type) where
  db : Db
  calls : ι → Phase

section
variable {W Ω ι : Type} [DecidableEq ι] (env : Env W Ω) (tenantId : TenantId) (workItemId : Nat) (user : ι → Nat)

/-- Move one call on. -/
def State.set (st : State ι) (c : ι) (phase : Phase) : State ι := { st with calls := Function.update st.calls c phase }

/-- The rows of the work item. -/
def rowsOf (db : Db) : List WorkItem := db.workItems.filter (·.id == workItemId)

/-- Nobody is gone: users, members of the tenant and potential owners of the
item stay what they are. -/
structure Grows (db db' : Db) : Prop where
  users : ∀ u, (db.user? u).isSome → (db'.user? u).isSome
  members : ∀ u, db.isMember tenantId u = true → db'.isMember tenantId u = true
  assigned : ∀ u, userIsAssigned db tenantId workItemId u = true → userIsAssigned db' tenantId workItemId u = true

/-- No operation on the item. -/
structure Elsewhere (db db' : Db) : Prop extends Grows tenantId workItemId db db' where
  rows : rowsOf workItemId db' = rowsOf workItemId db

/-- A step of call `c`. -/
inductive CallStep (c : ι) : State ι → State ι → Prop
  | read {st : State ι} (hc : st.calls c = .idle) : CallStep c st (st.set c (.read st.db))
  | check {st : State ι} {db : Db} {seq : Nat} {world : Ω} {item : WorkItem} {s : Tx Ω} (hc : st.calls c = .read db)
      (h : (claimTaskChecks env tenantId workItemId (user c)).run (Tx.begin seq db world) = (.ok item, s)) :
      CallStep c st (st.set c (.checked item))
  | refuse {st : State ι} {db : Db} {seq : Nat} {world : Ω} {e : Error} {s : Tx Ω} (hc : st.calls c = .read db)
      (h : (claimTaskChecks env tenantId workItemId (user c)).run (Tx.begin seq db world) = (.error e, s)) :
      CallStep c st (st.set c (.raised e))
  | update {st : State ι} {item : WorkItem} (world : Ω) (hc : st.calls c = .checked item)
      (hlock : ∀ c' item' at_, st.calls c' ≠ .updated item' at_)
      (hcount : st.db.claimRowCount tenantId item.id (user c) = 1) :
      CallStep c st (st.set c (.updated item (env.now world)))
  | lose {st : State ι} {item : WorkItem} (hc : st.calls c = .checked item)
      (hlock : ∀ c' item' at_, st.calls c' ≠ .updated item' at_)
      (hcount : st.db.claimRowCount tenantId item.id (user c) ≠ 1) : CallStep c st (st.set c (.raised claimLost))
  | commit {st : State ι} {item : WorkItem} {claimedAt : Time} (hc : st.calls c = .updated item claimedAt) :
      CallStep c st ({ st with db := st.db.claimWrites tenantId (user c) item claimedAt }.set c .claimed)
  | rollBack {st : State ι} {item : WorkItem} {claimedAt : Time} (hc : st.calls c = .updated item claimedAt) :
      CallStep c st (st.set c .rolledBack)

/-- The states an interleaving of the calls and of other work can reach. -/
inductive Reach (st₀ : State ι) : State ι → Prop
  | start : Reach st₀ st₀
  | call {st st' : State ι} (c : ι) (h : Reach st₀ st) (hstep : CallStep env tenantId workItemId user c st st') :
      Reach st₀ st'
  | other {st : State ι} {db' : Db} (h : Reach st₀ st) (hother : Elsewhere tenantId workItemId st.db db') :
      Reach st₀ { st with db := db' }

/-- A claim nobody interrupts is `claim_task` run in a session and committed. -/
theorem claimTask_serial {st : State ι} {c : ι} {seq : Nat} {world : Ω} {s : Tx Ω} (hc : st.calls c = .idle)
    (hlock : ∀ c' item' at_, st.calls c' ≠ .updated item' at_)
    (h : (claimTask env tenantId workItemId (user c)).run (Tx.begin seq st.db world) = (.ok (), s)) :
    ∃ st', Reach env tenantId workItemId user st st' ∧ st'.db = s.commit ∧ st'.calls c = .claimed := by
  unfold claimTask at h
  obtain ⟨item, s₁, hchecks, hupdate⟩ := Prog.bind_ok.1 h
  obtain rfl := (claimTaskChecks_readOnly env tenantId workItemId (user c)).state hchecks
  rw [claimTaskUpdate_run] at hupdate
  split at hupdate
  · rename_i hcount
    simp only [Prod.mk.injEq, true_and] at hupdate
    have hset : ∀ p q : Phase, (st.set c p).set c q = st.set c q := by simp [State.set]
    have hself : ∀ p : Phase, (st.set c p).calls c = p := by simp [State.set]
    have hread : Reach env tenantId workItemId user st (st.set c (.read st.db)) := .call c .start (.read hc)
    have hchecked := Reach.call c hread (.check (hself _) hchecks)
    rw [hset] at hchecked
    have hfree : ∀ c' item' at_, (st.set c (.checked item)).calls c' ≠ .updated item' at_ := by
      intro c' item' at_
      by_cases hcc : c' = c
      · rw [hcc, hself]; simp
      · simpa [State.set, hcc] using hlock c' item' at_
    have hupdated := Reach.call c hchecked (.update world (hself _) hfree hcount)
    rw [hset] at hupdated
    refine ⟨_, Reach.call c hupdated (.commit (hself _)), ?_, by simp [State.set]⟩
    subst hupdate
    simp [State.set, Tx.commit, Tx.begin, Db.merge_current]
  · simp at hupdate

/-! ## The row -/

/-- The stored owner of the item. -/
def ownerOf (db : Db) : Option Nat := (db.workItem? workItemId).bind (·.actualOwnerId)

variable {tenantId workItemId} {db : Db} {row : WorkItem} {u : Nat}

theorem ownerOf_row (hrow : rowsOf workItemId db = [row]) : ownerOf workItemId db = row.actualOwnerId := by
  have hhead : db.workItem? workItemId = (rowsOf workItemId db).head? := List.head?_filter.symm
  rw [ownerOf, hhead, hrow]
  rfl

theorem tenantWorkItem?_row (hrow : rowsOf workItemId db = [row]) (htenant : row.m8fTenantId = tenantId) :
    (db.tenantWorkItem? tenantId workItemId).isSome := by
  have hmem : row ∈ rowsOf workItemId db := by simp [hrow]
  rw [rowsOf, List.mem_filter] at hmem
  rw [Db.tenantWorkItem?, List.find?_isSome]
  exact ⟨row, hmem.1, by simp [htenant, hmem.2]⟩

theorem tenantWorkItem?_id {item : WorkItem} (h : db.tenantWorkItem? tenantId workItemId = some item) :
    item.id = workItemId := by
  have := List.find?_some h
  simp at this
  exact this.2

/-- The conditional update meets the one row of the item, or none. -/
theorem claimRowCount_row (hrow : rowsOf workItemId db = [row]) :
    db.claimRowCount tenantId workItemId u = 1 ↔ claimable tenantId workItemId u row = true := by
  have hcount : db.claimRowCount tenantId workItemId u =
      (rowsOf workItemId db).countP (claimable tenantId workItemId u) := by
    rw [rowsOf, List.countP_filter, Db.claimRowCount]
    congr 1
    funext w
    unfold claimable
    cases w.id == workItemId <;> simp
  rw [hcount, hrow]
  simp [List.countP_singleton]

theorem rowsOf_claimWrites (item : WorkItem) (hitem : item.id = workItemId) (claimedAt : Time)
    (hrow : rowsOf workItemId db = [row]) (hclaim : claimable tenantId workItemId u row = true) :
    rowsOf workItemId (db.claimWrites tenantId u item claimedAt) = [row.claim u claimedAt] := by
  unfold rowsOf at hrow ⊢
  simp only [Db.claimWrites, Db.updateInstance, Db.claimUpdate, hitem, updateWhere]
  rw [List.filter_map]
  have hid : ((fun w : WorkItem => w.id == workItemId) ∘ fun w =>
      if claimable tenantId workItemId u w = true then w.claim u claimedAt else w) = fun w => w.id == workItemId := by
    funext w
    simp only [Function.comp]
    split <;> rfl
  rw [hid, hrow]
  simp [hclaim]

theorem grows_claimWrites (db : Db) (item : WorkItem) (claimedAt : Time) :
    Grows tenantId workItemId db (db.claimWrites tenantId u item claimedAt) :=
  ⟨fun _ h => h, fun _ h => h, fun _ h => h⟩

/-! ## The invariant -/

/-- `u` may own the item. -/
def Entitled (tenantId : TenantId) (workItemId : Nat) (db : Db) (u : Nat) : Prop :=
  db.isMember tenantId u = true ∧ userIsAssigned db tenantId workItemId u = true

/-- A refusal: the errors a claim of a known user ends with. -/
def Refusal (e : Error) : Prop := ∃ message, e = .authorization message ∨ e = .invalidState message

/-- What is known of a call of `u` in each phase. -/
def PhaseOk (tenantId : TenantId) (workItemId : Nat) (db : Db) (u : Nat) : Phase → Prop
  | .idle | .rolledBack => True
  | .read db₀ => Grows tenantId workItemId db₀ db ∧ (db₀.user? u).isSome ∧
      (db₀.tenantWorkItem? tenantId workItemId).isSome
  | .checked item => item.id = workItemId ∧ Entitled tenantId workItemId db u
  | .updated item _ => item.id = workItemId ∧ Entitled tenantId workItemId db u ∧
      ∀ row ∈ rowsOf workItemId db, claimable tenantId workItemId u row = true
  | .claimed => Entitled tenantId workItemId db u ∧ ownerOf workItemId db = some u
  | .raised e => Refusal e

variable (tenantId workItemId) in
structure Inv (st : State ι) : Prop where
  row : ∃ row, rowsOf workItemId st.db = [row] ∧ row.m8fTenantId = tenantId
  known : ∀ c, (st.db.user? (user c)).isSome
  phase : ∀ c, PhaseOk tenantId workItemId st.db (user c) (st.calls c)
  lock : ∀ {c c' item item' at_ at'}, st.calls c = .updated item at_ → st.calls c' = .updated item' at' → c = c'

theorem Grows.trans {db₁ db₂ db₃ : Db} (h₁ : Grows tenantId workItemId db₁ db₂) (h₂ : Grows tenantId workItemId db₂ db₃) :
    Grows tenantId workItemId db₁ db₃ :=
  ⟨fun u h => h₂.users u (h₁.users u h), fun u h => h₂.members u (h₁.members u h),
    fun u h => h₂.assigned u (h₁.assigned u h)⟩

theorem Entitled.grows {db' : Db} (h : Entitled tenantId workItemId db u) (hdb : Grows tenantId workItemId db db') :
    Entitled tenantId workItemId db' u := ⟨hdb.members u h.1, hdb.assigned u h.2⟩

/-- What is known of a call survives work elsewhere. -/
theorem PhaseOk.elsewhere {db' : Db} {phase : Phase} (h : PhaseOk tenantId workItemId db u phase)
    (hdb : Elsewhere tenantId workItemId db db') (hrow : rowsOf workItemId db = [row]) :
    PhaseOk tenantId workItemId db' u phase := by
  cases phase with
  | idle => trivial
  | rolledBack => trivial
  | read db₀ => exact ⟨h.1.trans hdb.toGrows, h.2⟩
  | checked item => exact ⟨h.1, h.2.grows hdb.toGrows⟩
  | updated item at_ => exact ⟨h.1, h.2.1.grows hdb.toGrows, hdb.rows ▸ h.2.2⟩
  | claimed =>
    refine ⟨h.1.grows hdb.toGrows, ?_⟩
    rw [ownerOf_row (hdb.rows.trans hrow), ← ownerOf_row hrow]
    exact h.2
  | raised e => exact h

omit [DecidableEq ι] in
theorem inv_elsewhere {st : State ι} {db' : Db} (h : Inv tenantId workItemId user st)
    (hdb : Elsewhere tenantId workItemId st.db db') : Inv tenantId workItemId user { st with db := db' } := by
  obtain ⟨row, hrow, htenant⟩ := h.row
  exact ⟨⟨row, hdb.rows.trans hrow, htenant⟩, fun c => hdb.users _ (h.known c),
    fun c => (h.phase c).elsewhere hdb hrow, fun hc hc' => h.lock hc hc'⟩

/-- A call may enter any phase it has established, the locked one if the lock
is free. -/
theorem inv_set {st : State ι} {c : ι} {phase : Phase} (h : Inv tenantId workItemId user st)
    (hphase : PhaseOk tenantId workItemId st.db (user c) phase)
    (hlock : (∀ item at_, phase ≠ .updated item at_) ∨ ∀ c' item at_, st.calls c' ≠ .updated item at_) :
    Inv tenantId workItemId user (st.set c phase) := by
  refine ⟨h.row, h.known, fun c' => ?_, fun {c₁ c₂ item item' at_ at'} h₁ h₂ => ?_⟩
  · by_cases hc : c' = c
    · subst hc
      simpa [State.set] using hphase
    · simpa [State.set, hc] using h.phase c'
  · by_cases hc₁ : c₁ = c <;> by_cases hc₂ : c₂ = c
    · rw [hc₁, hc₂]
    all_goals simp only [State.set, Function.update_apply, hc₁, hc₂, if_true, if_false] at h₁ h₂
    · rcases hlock with hlock | hlock
      · exact absurd h₁ (hlock _ _)
      · exact absurd h₂ (hlock _ _ _)
    · rcases hlock with hlock | hlock
      · exact absurd h₂ (hlock _ _)
      · exact absurd h₁ (hlock _ _ _)
    · exact h.lock h₁ h₂

/-- The commit of a winning update: nobody else holds the lock, and whoever has
claimed before is the same user. -/
theorem inv_commit {st : State ι} {c : ι} {item : WorkItem} {claimedAt : Time} (h : Inv tenantId workItemId user st)
    (hc : st.calls c = .updated item claimedAt) :
    Inv tenantId workItemId user ({ st with db := st.db.claimWrites tenantId (user c) item claimedAt }.set c .claimed) := by
  obtain ⟨row, hrow, htenant⟩ := h.row
  have hphase := h.phase c
  rw [hc] at hphase
  obtain ⟨hitem, hentitled, hclaimable⟩ := hphase
  have hclaim := hclaimable row (by simp [hrow])
  have hrow' := rowsOf_claimWrites item hitem claimedAt hrow hclaim
  have hgrows : Grows tenantId workItemId st.db (st.db.claimWrites tenantId (user c) item claimedAt) :=
    grows_claimWrites st.db item claimedAt
  have howner : ownerOf workItemId (st.db.claimWrites tenantId (user c) item claimedAt) = some (user c) :=
    ownerOf_row hrow'
  refine ⟨⟨_, hrow', htenant⟩, fun c' => hgrows.users _ (h.known c'), fun c' => ?_,
    fun {c₁ c₂ item₁ item₂ at₁ at₂} h₁ h₂ => ?_⟩
  · by_cases hcc : c' = c
    · subst hcc
      simp only [State.set, Function.update_self]
      exact ⟨hentitled.grows hgrows, howner⟩
    · simp only [State.set, Function.update_apply, hcc, if_false]
      have hphase' := h.phase c'
      cases hp : st.calls c' with
      | idle => trivial
      | rolledBack => trivial
      | read db₀ => rw [hp] at hphase'; exact ⟨hphase'.1.trans hgrows, hphase'.2⟩
      | checked item' => rw [hp] at hphase'; exact ⟨hphase'.1, hphase'.2.grows hgrows⟩
      | updated item' at' => exact absurd (h.lock hp hc) hcc
      | claimed =>
        rw [hp] at hphase'
        refine ⟨hphase'.1.grows hgrows, ?_⟩
        -- The update met a row that `c'` owns, so both calls are of one user.
        have hown : row.actualOwnerId = some (user c') := by rw [← ownerOf_row hrow]; exact hphase'.2
        have hsame : user c' = user c := by
          simp only [claimable, hown, Option.isNone_some, Bool.false_or, Bool.and_eq_true, beq_iff_eq,
            Option.some.injEq] at hclaim
          exact hclaim.2
        rw [howner, hsame]
      | raised e => rw [hp] at hphase'; exact hphase'
  · by_cases hc₁ : c₁ = c
    · subst hc₁
      simp [State.set] at h₁
    · by_cases hc₂ : c₂ = c
      · subst hc₂
        simp [State.set] at h₂
      · simp only [State.set, Function.update_apply, hc₁, hc₂, if_false] at h₁ h₂
        exact h.lock h₁ h₂

theorem inv_callStep (hpolicy : env.Decides) {st st' : State ι} {c : ι} (h : Inv tenantId workItemId user st)
    (hstep : CallStep env tenantId workItemId user c st st') : Inv tenantId workItemId user st' := by
  obtain ⟨row, hrow, htenant⟩ := h.row
  have hphase := h.phase c
  cases hstep with
  | read hc =>
    exact inv_set user h ⟨⟨fun _ h => h, fun _ h => h, fun _ h => h⟩, h.known c, tenantWorkItem?_row hrow htenant⟩
      (.inl (by simp))
  | check hc hrun =>
    rw [hc] at hphase
    obtain ⟨hgrows, -, -⟩ := hphase
    obtain ⟨hitem, hmember, hassigned⟩ := claimTaskChecks_ok env hrun
    have hid := tenantWorkItem?_id hitem
    rw [hid] at hassigned
    exact inv_set user h ⟨hid, hgrows.members _ hmember, hgrows.assigned _ hassigned⟩ (.inl (by simp))
  | refuse hc hrun =>
    rw [hc] at hphase
    exact inv_set user h (claimTaskChecks_error env hpolicy hphase.2.1 hphase.2.2 hrun) (.inl (by simp))
  | update world hc hlock hcount =>
    rw [hc] at hphase
    obtain ⟨hid, hentitled⟩ := hphase
    rw [hid, claimRowCount_row hrow] at hcount
    refine inv_set user h ⟨hid, hentitled, ?_⟩ (.inr hlock)
    intro row' hrow'
    rw [hrow, List.mem_singleton] at hrow'
    exact hrow' ▸ hcount
  | lose hc hlock hcount => exact inv_set user h ⟨_, .inr rfl⟩ (.inl (by simp))
  | commit hc => exact inv_commit user h hc
  | rollBack hc => exact inv_set user h trivial (.inl (by simp))

theorem inv_reach (hpolicy : env.Decides) {st₀ st : State ι} (h₀ : Inv tenantId workItemId user st₀)
    (h : Reach env tenantId workItemId user st₀ st) : Inv tenantId workItemId user st := by
  induction h with
  | start => exact h₀
  | call c _ hstep ih => exact inv_callStep env user hpolicy ih hstep
  | other _ hother ih => exact inv_elsewhere user ih hother

/-! ## Claim safety -/

/-- What holds of the calls at any moment. -/
structure Safe (tenantId : TenantId) (workItemId : Nat) (st : State ι) : Prop where
  one_owner : ∀ {c c'}, st.calls c = .claimed → st.calls c' = .claimed → user c = user c'
  stored : ∀ {c}, st.calls c = .claimed → ownerOf workItemId st.db = some (user c)
  entitled : ∀ {c}, st.calls c = .claimed → Entitled tenantId workItemId st.db (user c)
  refused : ∀ {c e}, st.calls c = .raised e → Refusal e

/-- What a step of call `c` can do. A call that has ended takes none; short of
claiming it writes nothing; it never replaces an owner; and once another user
owns the item it can only go on to a refusal. -/
structure StepSafe (workItemId : Nat) (c : ι) (st st' : State ι) : Prop where
  running : st.calls c ≠ .claimed ∧ ∀ e, st.calls c ≠ .raised e
  unchanged : st'.calls c ≠ .claimed → st'.db = st.db
  owner_kept : ∀ {o}, ownerOf workItemId st.db = some o → ownerOf workItemId st'.db = some o
  other_user : ∀ {o}, ownerOf workItemId st.db = some o → user c ≠ o →
    (∃ db, st'.calls c = .read db) ∨ (∃ item, st'.calls c = .checked item) ∨ ∃ e, st'.calls c = .raised e ∧ Refusal e

omit [DecidableEq ι] in
theorem safe_of_inv {st : State ι} (h : Inv tenantId workItemId user st) : Safe user tenantId workItemId st := by
  have hclaimed : ∀ {c}, st.calls c = .claimed →
      Entitled tenantId workItemId st.db (user c) ∧ ownerOf workItemId st.db = some (user c) := by
    intro c hc
    have hphase := h.phase c
    rwa [hc] at hphase
  refine ⟨fun hc hc' => ?_, fun hc => (hclaimed hc).2, fun hc => (hclaimed hc).1, fun {c e} hc => ?_⟩
  · have hboth := (hclaimed hc).2.symm.trans (hclaimed hc').2
    simpa using hboth
  · have hphase := h.phase c
    rwa [hc] at hphase

omit [DecidableEq ι] in
/-- A call that holds the lock finds its own claim or none in the row. -/
theorem owner_of_updated {st : State ι} {c : ι} {item : WorkItem} {claimedAt : Time} {o : Nat}
    (h : Inv tenantId workItemId user st) (hc : st.calls c = .updated item claimedAt)
    (ho : ownerOf workItemId st.db = some o) : user c = o := by
  obtain ⟨row, hrow, -⟩ := h.row
  have hphase := h.phase c
  rw [hc] at hphase
  have hclaim := hphase.2.2 row (by simp [hrow])
  rw [ownerOf_row hrow] at ho
  simp only [claimable, ho, Option.isNone_some, Bool.false_or, Bool.and_eq_true, beq_iff_eq,
    Option.some.injEq] at hclaim
  exact hclaim.2.symm

theorem stepSafe_of_inv (hpolicy : env.Decides) {st st' : State ι} {c : ι} (h : Inv tenantId workItemId user st)
    (hstep : CallStep env tenantId workItemId user c st st') : StepSafe user workItemId c st st' := by
  have hsafe := safe_of_inv user (inv_callStep env user hpolicy h hstep)
  cases hstep with
  | read hc =>
    exact ⟨by simp [hc], fun _ => rfl, fun ho => ho, fun _ _ => .inl ⟨st.db, by simp [State.set]⟩⟩
  | @check _ _ _ item _ hc hrun =>
    exact ⟨by simp [hc], fun _ => rfl, fun ho => ho, fun _ _ => .inr (.inl ⟨item, by simp [State.set]⟩)⟩
  | @refuse _ _ _ e _ hc hrun =>
    have hend : (st.set c (.raised e)).calls c = .raised e := by simp [State.set]
    exact ⟨by simp [hc], fun _ => rfl, fun ho => ho, fun _ _ => .inr (.inr ⟨e, hend, hsafe.refused hend⟩)⟩
  | @update item world hc hlock hcount =>
    have hend : (st.set c (.updated item (env.now world))).calls c = .updated item (env.now world) := by
      simp [State.set]
    refine ⟨by simp [hc], fun _ => rfl, fun ho => ho, fun {o} ho hne => ?_⟩
    exact absurd (owner_of_updated user (inv_callStep env user hpolicy h (.update world hc hlock hcount)) hend ho) hne
  | lose hc hlock hcount =>
    have hend : (st.set c (.raised claimLost)).calls c = .raised claimLost := by simp [State.set]
    exact ⟨by simp [hc], fun _ => rfl, fun ho => ho, fun _ _ => .inr (.inr ⟨claimLost, hend, hsafe.refused hend⟩)⟩
  | @commit item claimedAt hc =>
    refine ⟨by simp [hc], fun hn => absurd (by simp [State.set]) hn, fun {o} ho => ?_, fun {o} ho hne => ?_⟩
    · rw [← owner_of_updated user h hc ho]
      exact hsafe.stored (by simp [State.set])
    · exact absurd (owner_of_updated user h hc ho) hne
  | rollBack hc =>
    refine ⟨by simp [hc], fun _ => rfl, fun ho => ho, fun {o} ho hne => ?_⟩
    exact absurd (owner_of_updated user h hc ho) hne

/-- Claim safety: for any number of claims of an item by known users, in any
interleaving with each other and with work elsewhere. -/
theorem claim_safety (hpolicy : env.Decides) {st₀ st : State ι}
    (hrow : ∃ row, rowsOf workItemId st₀.db = [row] ∧ row.m8fTenantId = tenantId)
    (husers : ∀ c, (st₀.db.user? (user c)).isSome) (hidle : ∀ c, st₀.calls c = .idle)
    (h : Reach env tenantId workItemId user st₀ st) :
    Safe user tenantId workItemId st ∧
      ∀ c st', CallStep env tenantId workItemId user c st st' → StepSafe user workItemId c st st' := by
  have h₀ : Inv tenantId workItemId user st₀ :=
    ⟨hrow, husers, fun c => by rw [hidle c]; trivial, fun hc => by simp [hidle] at hc⟩
  have hinv := inv_reach env user hpolicy h₀ h
  exact ⟨safe_of_inv user hinv, fun c st' hstep => stepSafe_of_inv env user hpolicy hinv hstep⟩

end

/-- Two members race for a free item: both read it and pass the checks before
either update. -/
def race : State Bool := ⟨Sample.sharedDb, fun _ => .idle⟩

def raceUser (c : Bool) : Nat := if c then 3 else 1

theorem race_checks (c : Bool) : ∃ s, (claimTaskChecks Sample.env "t" 5 (raceUser c)).run
    (Tx.begin 0 Sample.sharedDb true) = (.ok Sample.sharedItem, s) := by
  cases c <;> exact ⟨_, rfl⟩

theorem race_reach : ∃ st, Reach Sample.env "t" 5 raceUser race st ∧ st.calls false = .claimed ∧
    st.calls true = .raised claimLost := by
  obtain ⟨_, hcheck⟩ := race_checks false
  obtain ⟨_, hcheck'⟩ := race_checks true
  have h₁ : Reach Sample.env "t" 5 raceUser race _ := .call false .start (.read rfl)
  have h₂ := Reach.call true h₁ (.read rfl)
  have h₃ := Reach.call false h₂ (.check rfl hcheck)
  have h₄ := Reach.call true h₃ (.check rfl hcheck')
  have h₅ := Reach.call false h₄ (.update true rfl (by intro c; cases c <;> exact fun _ _ => nofun) (by decide))
  have h₆ := Reach.call false h₅ (.commit rfl)
  have h₇ := Reach.call true h₆ (.lose rfl (by intro c; cases c <;> exact fun _ _ => nofun) (by decide))
  exact ⟨_, h₇, rfl, rfl⟩

theorem claim_safety_race : ∃ st, Reach Sample.env "t" 5 raceUser race st ∧ st.calls false = .claimed ∧
    st.calls true = .raised claimLost ∧ Safe raceUser "t" 5 st := by
  obtain ⟨st, hreach, hclaimed, hlost⟩ := race_reach
  have hsafe := claim_safety Sample.env raceUser Sample.env_decides ⟨Sample.sharedItem, by decide, rfl⟩ (by decide)
    (fun _ => rfl) hreach
  exact ⟨st, hreach, hclaimed, hlost, hsafe.1⟩

end M8flowCore.ClaimSafety
