import M8flowCore.Saving
import M8flowCore.Rollbacks
/-!
# What a session leaves of the other instances

The row of an instance, its snapshot, its tasks, its items and its jobs are
`Untouched` by whatever is done to another instance: by the changes made in the
caller's session, by those committed through a second session, and by the merge
that shows these to the caller. `Since` follows a call from the session it
started in.
-/
open M8flowCore.Lib M8flowCore.Session

namespace M8flowCore

section
variable {W Ω : Type} {env : Env W Ω} {owner : Guid → Nat} {F : Focus} {l : Touch} {L : List Touch} {s s' s₀ : Tx Ω} {j : Nat}

/-! ## The other instances -/

/-- The two databases show the same of instance `j`. -/
structure Untouched (owner : Guid → Nat) (j : Nat) (db db' : Db) : Prop where
  instances : db'.processInstances.filter (·.id == j) = db.processInstances.filter (·.id == j)
  state : ∀ p ∈ db.processInstances, p.id = j → db'.workflowStateJson p = db.workflowStateJson p
  tasks : ∀ g, owner g = j → db'.task? g = db.task? g
  items : db'.workItems.filter (·.processInstanceId == j) = db.workItems.filter (·.processInstanceId == j)
  jobs : ∀ p : SchedulerJob → Bool, (∀ job, p job = true → job.jobType ≠ .timerStart ∧ job.isOf j) →
    db'.schedulerJobs.filter p = db.schedulerJobs.filter p

theorem Untouched.refl (owner : Guid → Nat) (j : Nat) (db : Db) : Untouched owner j db db :=
  ⟨rfl, fun _ _ _ => rfl, fun _ _ => rfl, rfl, fun _ _ => rfl⟩

theorem Untouched.mem {db db' : Db} (h : Untouched owner j db db') {p : ProcessInstance} (hid : p.id = j) :
    p ∈ db'.processInstances ↔ p ∈ db.processInstances := by
  have hmem : p ∈ db'.processInstances.filter (·.id == j) ↔ p ∈ db.processInstances.filter (·.id == j) := by
    rw [h.instances]
  simpa [hid] using hmem

theorem Untouched.trans {db₁ db₂ db₃ : Db} (h₁ : Untouched owner j db₁ db₂) (h₂ : Untouched owner j db₂ db₃) :
    Untouched owner j db₁ db₃ := by
  refine ⟨h₂.instances.trans h₁.instances, fun p hp hid => ?_, fun g hg => (h₂.tasks g hg).trans (h₁.tasks g hg),
    h₂.items.trans h₁.items, fun p hp => (h₂.jobs p hp).trans (h₁.jobs p hp)⟩
  exact (h₂.state p ((h₁.mem hid).2 hp) hid).trans (h₁.state p hp hid)

/-- The items of another instance, lanes included. -/
theorem Change.items_of_other (hlane : l ≠ .lane) (hj : F.instanceId ≠ j) (hc : Change env F l s s') :
    s'.view.workItems.filter (·.processInstanceId == j) = s.view.workItems.filter (·.processInstanceId == j) := by
  cases hc with
  | shared hdb => rw [hdb.workItems]
  | lane => exact absurd rfl hlane
  | item _ p f hp hf => exact filter_map_unlaned (fun w hw => by rw [hp w hw]; exact hj) hf
  | newItem _ row hid hrow => simp [hrow, hj]
  | _ => rfl

/-- The runtime process of another instance. -/
theorem Change.process_of_other {q : Nat} (hq : q < s.seq) (hF : l = .process ∨ l = .snapshot → F.processId ≠ some q)
    (hc : Change env F l s s') : s'.view.bpmnProcess? q = s.view.bpmnProcess? q := by
  have happend : ∀ row : BpmnProcess, row.id = s.seq →
      (s.view.bpmnProcesses ++ [row]).find? (·.id == q) = s.view.bpmnProcesses.find? (·.id == q) := by
    intro row hid
    have hne : row.id ≠ q := by omega
    simp [List.find?_append, hne]
  cases hc with
  | shared hdb =>
    unfold Db.bpmnProcess?
    rw [hdb.bpmnProcesses]
  | process _ hp f hf =>
    refine find?_updateWhere_of_ne fun p _ hp' => ?_
    have hid : (f p).id = p.id := congrArg ProcessIdentity.id (hf p).1
    have hne : p.id ≠ q := by
      rintro rfl
      exact hF (.inl rfl) (by rw [hp, beq_iff_eq.1 hp'])
    simp [hid, hne]
  | snapshot _ hp =>
    refine find?_updateWhere_of_ne fun p _ hp' => ?_
    have hne : p.id ≠ q := by
      rintro rfl
      exact hF (.inr rfl) (by rw [hp, beq_iff_eq.1 hp'])
    simp [hne]
  | newProcess _ row hid => exact happend row hid
  | newInstance _ process _ hpid => exact happend process hpid
  | _ => rfl

/-- Instances are only ever added, under new ids and with new processes. -/
def Newer (seq : Nat) (x : InstanceIdentity) : Prop := seq ≤ x.id ∧ ∀ q, x.processId = some q → seq ≤ q

theorem Change.old_or_new {x : InstanceIdentity} (hc : Change env F l s s') (hx : x ∈ instanceIds [s'.view]) :
    x ∈ instanceIds [s.view] ∨ Newer s.seq x := by
  simp only [instanceIds, List.flatMap_cons, List.flatMap_nil, List.append_nil] at hx ⊢
  cases hc with
  | shared hdb =>
    rw [hdb.processInstances] at hx
    exact .inl hx
  | details _ f hf =>
    dsimp only [Db.updateInstance] at hx
    rw [map_updateWhere fun p => (hf p).1] at hx
    exact .inl hx
  | status _ f hf =>
    dsimp only [Db.updateInstance] at hx
    rw [map_updateWhere hf] at hx
    exact .inl hx
  | newInstance _ process row hpid hid _ hprocess =>
    rw [List.map_append, List.mem_append, List.map_singleton, List.mem_singleton] at hx
    rcases hx with hx | rfl
    · exact .inl hx
    · have hid : row.identity.id = s.seq + 1 := hid
      have hprocess : row.identity.processId = some s.seq := hprocess
      refine .inr ⟨by omega, fun q hq => ?_⟩
      rw [hprocess, Option.some.injEq] at hq
      omega
  | _ => exact .inl hx

theorem old_or_new_of_steps {x : InstanceIdentity} (hsteps : Steps (Change env F) L s s')
    (hx : x ∈ instanceIds [s'.view]) : x ∈ instanceIds [s.view] ∨ Newer s.seq x := by
  have hall := hsteps.keeps (R := fun s s' : Tx Ω => s.seq ≤ s'.seq ∧
    ∀ x ∈ instanceIds [s'.view], x ∈ instanceIds [s.view] ∨ Newer s.seq x) ⟨fun _ => ⟨le_refl _, fun _ h => .inl h⟩, ?_⟩ ?_
  · exact hall.2 x hx
  · rintro s₁ s₂ s₃ ⟨hle₁, h₁⟩ ⟨hle₂, h₂⟩
    refine ⟨hle₁.trans hle₂, fun y hy => ?_⟩
    rcases h₂ y hy with hy | ⟨hid, hprocess⟩
    · exact h₁ y hy
    · exact .inr ⟨hle₁.trans hid, fun q hq => hle₁.trans (hprocess q hq)⟩
  · intro l _ s₁ s₂ hc
    exact ⟨seq_of_steps (Steps.one (L := [l]) (by simp) hc), fun y hy => hc.old_or_new hy⟩

/-! ## A session and what it read -/

/-- A job starts instances, or it is kept for one under the instance's key. -/
def SchedulerJob.Filed (job : SchedulerJob) : Prop :=
  (job.jobType = .timerStart ∧ ∀ i, ¬ job.isOf i) ∨
    ∃ i, job.jobType ≠ .timerStart ∧ job.jobKey = instanceJobKey job.jobType i ∧ job.processInstanceId = some i

theorem SchedulerJob.Filed.instance {job : SchedulerJob} (h : job.Filed) {i : Nat} (hof : job.isOf i) :
    job.processInstanceId = some i := by
  rcases h with ⟨-, hnone⟩ | ⟨k, -, hkey, hid⟩
  · exact absurd hof (hnone i)
  · obtain ⟨jobType, hof⟩ := hof
    rw [hid, (instanceJobKey_injective (hkey.symm.trans hof)).2]

/-- The session's copy, what is committed and what the session read are in
order, together with the copies of sessions that wait. Nothing that was read
has been deleted, every instance has a runtime process, and nobody else has
changed a job. -/
structure Firm (env : Env W Ω) (owner : Guid → Nat) (others : List Db) (s : Tx Ω) : Prop where
  integral : Integral env owner s.seq (s.view :: s.committed :: s.base :: others)
  shown : Shown [s.committed, s.base] s
  grows_view : Grows s.base s.view
  grows_committed : Grows s.base s.committed
  processed : ∀ x ∈ instanceIds [s.view, s.committed, s.base], x.processId.isSome
  jobs : s.committed.schedulerJobs = s.base.schedulerJobs
  filed : ∀ job ∈ s.view.schedulerJobs, job.Filed
  filed_base : ∀ job ∈ s.base.schedulerJobs, job.Filed

variable {others : List Db}

theorem Firm.sound (h : Firm env owner others s) : Sound env owner s where
  integral := h.integral.subset fun db hdb => by
    simp only [List.mem_cons, List.not_mem_nil, or_false] at hdb
    rcases hdb with rfl | rfl <;> simp
  shown db hdb := h.shown db (by simp only [List.mem_singleton] at hdb; simp [hdb])
  grows_view := h.grows_view
  grows_committed := h.grows_committed

/-- A database a session can start from. -/
structure Kept (env : Env W Ω) (owner : Guid → Nat) (seq : Nat) (db : Db) : Prop where
  integral : Integral env owner seq [db]
  processed : ∀ x ∈ instanceIds [db], x.processId.isSome
  filed : ∀ job ∈ db.schedulerJobs, job.Filed

theorem instanceIds_of_copies {db : Db} {dbs : List Db} (h : ∀ d ∈ dbs, d = db) : instanceIds dbs ⊆ instanceIds [db] :=
  instanceIds_subset fun d hd => by simp [h d hd]

theorem Firm.begin {seq : Nat} {db : Db} (h : Kept env owner seq db) (world : Ω) :
    Firm env owner [] (Tx.begin seq db world) where
  integral := h.integral.subset fun d hd => by
    simp only [Tx.begin, List.mem_cons, List.not_mem_nil, or_false, or_self] at hd
    simp [hd]
  shown d hd := by
    simp only [Tx.begin, List.mem_cons, List.not_mem_nil, or_false, or_self] at hd
    subst hd
    exact List.Subset.refl _
  grows_view := .refl db
  grows_committed := .refl db
  processed x hx := h.processed x (instanceIds_of_copies (by simp [Tx.begin]) hx)
  jobs := rfl
  filed := h.filed
  filed_base := h.filed

/-- The changes that need their instance to be there. -/
def Touch.rooted : Touch → Bool
  | .process | .snapshot | .newItem => true
  | _ => false

/-- The focus of a footprint: its guids are the instance's, and the instance is
there where it has to be. -/
structure Focus.Suits (F : Focus) (owner : Guid → Nat) (L : List Touch) (s : Tx Ω) : Prop where
  guids : ∀ g, F.guids g → owner g = F.instanceId
  known : ∀ l ∈ L, l.rooted = true → F.Known [s.view, s.committed]

theorem Focus.Fits.suits (h : F.Fits owner s) (L : List Touch) : F.Suits owner L s := ⟨h.guids, fun _ _ _ => h.known⟩

/-- Otherwise the instance need not be there. -/
theorem Focus.suits_of (hguids : ∀ g, F.guids g → owner g = F.instanceId) (hL : ∀ l ∈ L, l.rooted = false) :
    F.Suits owner L s := ⟨hguids, fun l hl hrooted => by simp [hL l hl] at hrooted⟩

theorem Focus.Suits.sub {L' : List Touch} (hL : L' ⊆ L) (h : F.Suits owner L s) : F.Suits owner L' s :=
  ⟨h.guids, fun l hl => h.known l (hL hl)⟩

theorem Focus.Suits.change {L' : List Touch} (hc : Change env F l s s') (h : F.Suits owner L' s) : F.Suits owner L' s' := by
  refine ⟨h.guids, fun l' hl' hrooted => ?_⟩
  rw [hc.committed.2]
  exact (h.known l' hl' hrooted).change hc

theorem Focus.Known.subset {dbs dbs' : List Db} (hsub : dbs ⊆ dbs') (h : F.Known dbs) : F.Known dbs' := by
  obtain ⟨x, hx, hkey⟩ := h
  exact ⟨x, instanceIds_subset hsub hx, hkey⟩

/-- A change keeps the jobs filed. -/
theorem Change.filed (hc : Change env F l s s') (h : ∀ job ∈ s.view.schedulerJobs, job.Filed) :
    ∀ job ∈ s'.view.schedulerJobs, job.Filed := by
  cases hc with
  | shared hdb =>
    rw [hdb.schedulerJobs]
    exact h
  | job _ jobs _ hnew =>
    intro job hjob
    rcases hnew job hjob with hold | hof
    · exact h job hold
    · exact .inr ⟨F.instanceId, hof⟩
  | startJob _ jobs _ hnew =>
    intro job hjob
    rcases hnew job hjob with hold | hstart
    · exact h job hold
    · exact .inl hstart
  | lock _ p f hf =>
    intro job hjob
    obtain ⟨job₀, hjob₀, rfl⟩ := mem_updateWhere.1 hjob
    split
    · have hsame := hf job₀
      simp only [SchedulerJob.unlocked, SchedulerJob.mk.injEq] at hsame
      obtain ⟨-, -, hkey, htype, hinstance, -⟩ := hsame
      have hfiled := h job₀ hjob₀
      unfold SchedulerJob.Filed SchedulerJob.isOf at hfiled ⊢
      rwa [hkey, htype, hinstance]
    · exact h job₀ hjob₀
  | _ => exact h

/-- A new instance has a process. -/
theorem Change.processed (hc : Change env F l s s') (h : ∀ x ∈ instanceIds (s.view :: others), x.processId.isSome) :
    ∀ x ∈ instanceIds (s'.view :: others), x.processId.isSome := by
  have hold : ∀ db' : Db, db'.processInstances.map (·.identity) = s.view.processInstances.map (·.identity) →
      ∀ x ∈ instanceIds (db' :: others), x.processId.isSome := by
    intro db' hsame x hx
    refine h x ?_
    rwa [instanceIds, List.flatMap_cons, ← hsame]
  cases hc with
  | shared hdb => exact hold _ (by rw [hdb.processInstances])
  | details _ f hf => exact hold _ (map_updateWhere fun p => (hf p).1)
  | status _ f hf => exact hold _ (map_updateWhere hf)
  | newInstance _ process row _ _ _ hprocess =>
    intro x hx
    simp only [instanceIds, List.flatMap_cons, List.map_append, List.map_singleton, List.mem_append,
      List.mem_singleton] at hx
    rcases hx with (hx | rfl) | hx
    · exact h x (by simp only [instanceIds, List.flatMap_cons, List.mem_append]; exact .inl hx)
    · have : row.identity.processId = some s.seq := hprocess
      rw [this]
      rfl
    · exact h x (by simp only [instanceIds, List.flatMap_cons, List.mem_append]; exact .inr hx)
  | _ => exact hold _ rfl

theorem Firm.change (hlaw : env.Lawful) (hF : F.Suits owner [l] s) (hitem : l = .newItem → others = [])
    (hc : Change env F l s s') (h : Firm env owner others s) : Firm env owner others s' := by
  obtain ⟨hbase, hcommitted⟩ := hc.committed
  have hstep : Steps (Change env F) [l] s s' := .one (by simp) hc
  have hknown : .newItem ∈ [l] ∨ .snapshot ∈ [l] → F.Known (s.view :: s.committed :: s.base :: others) := by
    intro hL
    have hrooted : l.rooted = true := by
      simp only [List.mem_singleton] at hL
      rcases hL with rfl | rfl <;> rfl
    refine (hF.known l (by simp) hrooted).subset fun db hdb => ?_
    simp only [List.mem_cons, List.not_mem_nil, or_false] at hdb
    rcases hdb with rfl | rfl <;> simp
  have hshown : .newItem ∈ [l] → Shown (s.committed :: s.base :: others) s := by
    intro hl
    rw [hitem (by simpa using Eq.symm (List.mem_singleton.1 hl))]
    exact h.shown
  refine ⟨?_, ?_, ?_, ?_, ?_, ?_, hc.filed h.filed, ?_⟩
  · rw [hcommitted, hbase]
    exact h.integral.steps hlaw hF.guids hknown hshown hstep
  · rw [hcommitted, hbase]
    exact Shown.change hc h.shown
  · rw [hbase]
    exact h.grows_view.trans hc.grows
  · rw [hbase, hcommitted]
    exact h.grows_committed
  · rw [hbase, hcommitted]
    exact hc.processed h.processed
  · rw [hbase, hcommitted]
    exact h.jobs
  · rw [hbase]
    exact h.filed_base

theorem Firm.steps (hlaw : env.Lawful) (hF : F.Suits owner L s) (hitem : .newItem ∈ L → others = [])
    (hsteps : Steps (Change env F) L s s') (h : Firm env owner others s) : Firm env owner others s' := by
  have hall := hsteps.inv (P := fun s₁ => Firm env owner others s₁ ∧ F.Suits owner L s₁) ?_ ⟨h, hF⟩
  · exact hall.1
  · rintro l hl s₁ s₂ hc ⟨h₁, hF₁⟩
    refine ⟨h₁.change hlaw (hF₁.sub (by simpa using hl)) ?_ hc, hF₁.change hc⟩
    rintro rfl
    exact hitem hl

/-- A second session on what is committed, while the first one waits. -/
theorem Firm.fork (h : Firm env owner [] s) : Firm env owner [s.view, s.base] s.fork where
  integral := h.integral.subset fun db hdb => by
    simp only [Tx.fork, List.mem_cons, List.not_mem_nil, or_false] at hdb
    rcases hdb with rfl | rfl | rfl | rfl | rfl <;> simp
  shown db hdb := by
    simp only [Tx.fork, List.mem_cons, List.not_mem_nil, or_false, or_self] at hdb
    subst hdb
    exact List.Subset.refl _
  grows_view := .refl _
  grows_committed := .refl _
  processed x hx := by
    refine h.processed x (instanceIds_subset (fun db hdb => ?_) hx)
    simp only [Tx.fork, List.mem_cons, List.not_mem_nil, or_false, or_self] at hdb
    simp [hdb]
  jobs := rfl
  filed job hjob := h.filed_base job (h.jobs ▸ hjob)
  filed_base job hjob := h.filed_base job (h.jobs ▸ hjob)

/-- What the second session leaves is committed: it may have changed rows and
added instances, but no work items and no jobs. -/
theorem Firm.committed {s₁ : Tx Ω} (h : Firm env owner [] s) (h₁ : Firm env owner [s.view, s.base] s₁)
    (hbase : s₁.base = s.committed) (hitems : s₁.view.workItems.map (·.identity) = s.committed.workItems.map (·.identity))
    (hjobs : s₁.view.schedulerJobs = s.committed.schedulerJobs) :
    Firm env owner [] { s₁ with base := s.base, view := s.view, committed := s₁.view } where
  integral := h₁.integral.subset fun db hdb => by
    simp only [List.mem_cons, List.not_mem_nil, or_false] at hdb
    rcases hdb with rfl | rfl | rfl <;> simp
  shown db hdb := by
    simp only [List.mem_cons, List.not_mem_nil, or_false] at hdb
    rcases hdb with rfl | rfl
    · rw [hitems]
      exact h.shown _ (by simp)
    · exact h.shown _ (by simp)
  grows_view := h.grows_view
  grows_committed := h.grows_committed.trans (hbase ▸ h₁.grows_view)
  processed x hx := by
    obtain ⟨db, hdb, p, hp, rfl⟩ := mem_instanceIds.1 hx
    simp only [List.mem_cons, List.not_mem_nil, or_false] at hdb
    rcases hdb with rfl | rfl | rfl
    · exact h.processed _ (mem_instanceIds.2 ⟨s.view, by simp, p, hp, rfl⟩)
    · exact h₁.processed _ (mem_instanceIds.2 ⟨s₁.view, by simp, p, hp, rfl⟩)
    · exact h.processed _ (mem_instanceIds.2 ⟨s.base, by simp, p, hp, rfl⟩)
  jobs := hjobs.trans h.jobs
  filed := h.filed
  filed_base := h.filed_base

/-- The second session is dropped. -/
theorem Firm.dropped {s₁ : Tx Ω} (h : Firm env owner [] s) (hseq : s.seq ≤ s₁.seq) :
    Firm env owner [] { s₁ with base := s.base, view := s.view, committed := s.committed } :=
  ⟨h.integral.mono hseq, h.shown, h.grows_view, h.grows_committed, h.processed, h.jobs, h.filed, h.filed_base⟩

theorem Firm.merged_jobs (h : Firm env owner others s) :
    (Db.merge s.base s.view s.committed).schedulerJobs = s.view.schedulerJobs := by
  unfold Db.merge
  dsimp only
  rw [h.jobs]
  exact mergeTable_current (by simp [SchedulerJob.merge, pick_base])

theorem Firm.refresh (h : Firm env owner [] s) :
    Firm env owner [] { s with base := s.committed, view := Db.merge s.base s.view s.committed } where
  integral := h.sound.refresh.integral.subset fun db hdb => by
    simp only [List.mem_cons, List.not_mem_nil, or_false] at hdb
    rcases hdb with rfl | rfl | rfl <;> simp
  shown db hdb := h.sound.refresh.shown db (by simpa using hdb)
  grows_view := h.sound.refresh.grows_view
  grows_committed := .refl _
  processed x hx := by
    obtain ⟨db, hdb, p, hp, rfl⟩ := mem_instanceIds.1 hx
    have hold : ∃ db ∈ [s.view, s.committed], ∃ p' ∈ db.processInstances, p'.identity = p.identity := by
      simp only [List.mem_cons, List.not_mem_nil, or_false, or_self] at hdb
      rcases hdb with rfl | rfl
      · exact merge_instanceIds h.sound.integral.keyed hp
      · exact ⟨s.committed, by simp, p, hp, rfl⟩
    obtain ⟨db', hdb', p', hp', hid⟩ := hold
    rw [← hid]
    refine h.processed _ (mem_instanceIds.2 ⟨db', ?_, p', hp', rfl⟩)
    simp only [List.mem_cons, List.not_mem_nil, or_false] at hdb'
    rcases hdb' with rfl | rfl <;> simp
  jobs := rfl
  filed job hjob := h.filed job (h.merged_jobs ▸ hjob)
  filed_base job hjob := h.filed_base job (h.jobs ▸ hjob)

/-- What a session leaves to the next one when it commits. -/
theorem Firm.commit (h : Firm env owner [] s) : Kept env owner s.seq s.commit where
  integral := h.refresh.integral.subset fun db hdb => by
    simp only [List.mem_singleton] at hdb
    subst hdb
    exact List.mem_cons_self
  processed x hx := h.refresh.processed x (instanceIds_subset (fun db hdb => by
    simp only [List.mem_singleton] at hdb
    subst hdb
    exact List.mem_cons_self) hx)
  filed := h.refresh.filed

/-- What a session leaves to the next one when it rolls back. -/
theorem Firm.rollback (h : Firm env owner [] s) : Kept env owner s.seq s.committed where
  integral := h.integral.subset fun db hdb => by simp [List.mem_singleton.1 hdb]
  processed x hx := h.processed x (instanceIds_subset (by simp) hx)
  filed job hjob := h.filed_base job (h.jobs ▸ hjob)

/-- Changes made for one instance leave the others alone. -/
theorem untouched_of_steps (hlaw : env.Lawful) (hj : F.instanceId ≠ j) (hlock : .lock ∉ L) (hlane : .lane ∉ L)
    (hF : F.Suits owner L s) (hitem : .newItem ∈ L → others = []) (h : Firm env owner others s)
    (hsteps : Steps (Change env F) L s s') : Untouched owner j s.view s'.view := by
  have hall := hsteps.inv (P := fun s₁ => Firm env owner others s₁ ∧ F.Suits owner L s₁ ∧
    Untouched owner j s.view s₁.view) ?_ ⟨h, hF, .refl owner j s.view⟩
  · exact hall.2.2
  · rintro l hl s₁ s₂ hc ⟨h₁, hF₁, hsame⟩
    have hsuits : F.Suits owner [l] s₁ := hF₁.sub (by simpa using hl)
    have hslice := hc.sameSlice hlaw hj (by rintro rfl; exact hlock hl) hF₁.guids
      (by rintro rfl; exact hF₁.known _ hl rfl) h₁.sound
    refine ⟨h₁.change hlaw hsuits (by rintro rfl; exact hitem hl) hc, hF₁.change hc,
      hsame.trans ⟨hslice.instances, hslice.state, hslice.tasks, ?_, hslice.jobs⟩⟩
    exact hc.items_of_other (by rintro rfl; exact hlane hl) hj

/-! ## What is committed behind the session's back -/

/-- What is committed of instance `j` is what the session read of it. -/
structure Agrees (owner : Guid → Nat) (j : Nat) (s : Tx Ω) : Prop where
  instances : s.committed.processInstances.filter (·.id == j) = s.base.processInstances.filter (·.id == j)
  process : ∀ x ∈ instanceIds [s.view, s.committed, s.base], x.id = j → ∀ q, x.processId = some q →
    s.committed.bpmnProcess? q = s.base.bpmnProcess? q
  tasks : ∀ g, owner g = j → s.committed.task? g = s.base.task? g
  items : s.committed.workItems.filter (·.processInstanceId == j) = s.base.workItems.filter (·.processInstanceId == j)

theorem Agrees.of_current (h : s.base = s.committed) : Agrees owner j s :=
  ⟨by rw [h], fun _ _ _ _ _ => by rw [h], fun _ _ => by rw [h], by rw [h]⟩

theorem Agrees.steps (hj : j < s.seq) (hsteps : Steps (Change env F) L s s') (h : Agrees owner j s) : Agrees owner j s' := by
  obtain ⟨hbase, hcommitted⟩ := committed_of_steps hsteps
  refine ⟨?_, fun x hx hid q hq => ?_, ?_, ?_⟩
  · rw [hbase, hcommitted]
    exact h.instances
  · rw [hbase, hcommitted] at hx ⊢
    refine h.process x ?_ hid q hq
    rw [instanceIds, List.flatMap_cons, List.mem_append] at hx ⊢
    rcases hx with hx | hx
    · have hview : x ∈ instanceIds [s'.view] := by simpa [instanceIds] using hx
      rcases old_or_new_of_steps hsteps hview with hold | ⟨hnew, -⟩
      · exact .inl (by simpa [instanceIds] using hold)
      · omega
    · exact .inr hx
  · rw [hbase, hcommitted]
    exact h.tasks
  · rw [hbase, hcommitted]
    exact h.items

theorem eq_of_nodup_map {α β : Type} {f : α → β} {xs : List α} (h : (xs.map f).Nodup) {a b : α} (ha : a ∈ xs)
    (hb : b ∈ xs) (hab : f a = f b) : a = b := List.inj_on_of_nodup_map h ha hb hab

/-- The merged copy reads an instance's snapshot as one of its sides does, when
it has the payload's hash from there. -/
theorem Firm.state_of_hash (hlaw : env.Lawful) (h : Firm env owner others s) {db : Db} (hdb : db ∈ [s.view, s.committed])
    {p : ProcessInstance} {q : Nat} (hq : p.bpmnProcessId = some q) {process process' : BpmnProcess}
    (hrow : db.bpmnProcess? q = some process) (hrow' : (Db.merge s.base s.view s.committed).bpmnProcess? q = some process')
    (hhash : process'.jsonDataHash = process.jsonDataHash) :
    (Db.merge s.base s.view s.committed).workflowStateJson p = db.workflowStateJson p := by
  have hmerged := h.sound.integral.merge h.grows_view h.grows_committed
  have hstored := h.sound.integral.stored
  have hview := hstored.has_json db hdb process (List.mem_of_find?_eq_some hrow)
  have hafter := hmerged.stored.has_json _ (by simp) process' (List.mem_of_find?_eq_some hrow')
  obtain ⟨row, hfound⟩ := Option.isSome_iff_exists.1 hview
  obtain ⟨row', hfound'⟩ := Option.isSome_iff_exists.1 hafter
  -- One hash, one payload.
  have hdata : row'.data = row.data := by
    have hdigest := hstored.json_hash db hdb row (List.mem_of_find?_eq_some hfound)
    have hdigest' := hmerged.stored.json_hash _ (by simp) row' (List.mem_of_find?_eq_some hfound')
    have hkey := List.find?_some hfound
    have hkey' := List.find?_some hfound'
    simp only [Bool.and_eq_true, beq_iff_eq] at hkey hkey'
    rw [hkey.2] at hdigest
    rw [hkey'.2, hhash] at hdigest'
    exact hlaw.digest_injective hdigest' hdigest
  simp only [Db.workflowStateJson, hq, bind, Option.bind_some, hrow, hrow', Db.snapshotOf, hfound, hfound', hdata]

theorem Firm.state_of_process (hlaw : env.Lawful) (h : Firm env owner others s) {db : Db} (hdb : db ∈ [s.view, s.committed])
    {p : ProcessInstance} (hp : p ∈ db.processInstances) {q : Nat} (hq : p.bpmnProcessId = some q)
    (hsame : (Db.merge s.base s.view s.committed).bpmnProcess? q = db.bpmnProcess? q) :
    (Db.merge s.base s.view s.committed).workflowStateJson p = db.workflowStateJson p := by
  obtain ⟨process, hrow⟩ := Option.isSome_iff_exists.1 (h.sound.integral.stored.has_process db hdb p hp q hq)
  exact h.state_of_hash hlaw hdb hq hrow (hsame.trans hrow) rfl

/-- Showing the session what is committed leaves an instance alone on which the
two agree. -/
theorem Firm.untouched_merge (hlaw : env.Lawful) (h : Firm env owner others s) (ha : Agrees owner j s) :
    Untouched owner j s.view (Db.merge s.base s.view s.committed) := by
  have hkeyed := h.integral.keyed
  have hprocess : ∀ x ∈ instanceIds [s.view], x.id = j → ∀ q, x.processId = some q →
      (Db.merge s.base s.view s.committed).bpmnProcess? q = s.view.bpmnProcess? q := by
    intro x hx hid q hq
    have hbase : ∀ b r : BpmnProcess, BpmnProcess.merge b r b = r := by simp [BpmnProcess.merge, pick_base]
    exact rowAt_mergeTable_of_agree hbase (fun _ _ _ _ _ => rfl) (ha.process x (instanceIds_subset (by simp) hx) hid q hq)
  refine ⟨?_, fun p hp hid => ?_, fun g hg => ?_, ?_, fun p _ => ?_⟩
  · refine filter_mergeTable_of_agree (by simp [ProcessInstance.merge, pick_base]) ?_ (fun _ _ _ _ hk => by simp [hk])
      (fun _ _ _ _ hk => by simp [hk]) (fun _ _ _ _ _ _ => rfl) ha.instances
    intro c hc c' hc' hk
    have hnodup := hkeyed.instances_nodup s.committed (by simp)
    rw [List.map_map] at hnodup
    exact eq_of_nodup_map hnodup hc hc' hk
  · cases hq : p.bpmnProcessId with
    | none => simp [Db.workflowStateJson, hq]
    | some q =>
      have hx : p.identity ∈ instanceIds [s.view] := mem_instanceIds.2 ⟨s.view, by simp, p, hp, rfl⟩
      exact h.state_of_process hlaw (by simp) hp hq (hprocess p.identity hx hid q hq)
  · have hbase : ∀ b r : Task, Task.merge b r b = r := by simp [Task.merge, pick_base]
    exact rowAt_mergeTable_of_agree hbase (fun _ _ _ _ _ => rfl) (ha.tasks g hg)
  · have hitem : ∀ db ∈ s.view :: s.committed :: s.base :: others, ∀ w ∈ db.workItems, ∀ r ∈ s.view.workItems, w.id = r.id →
        w.processInstanceId = r.processInstanceId := by
      intro db hdb w hw r hr hid
      have := hkeyed.item_key _ (mem_itemIds.2 ⟨db, hdb, w, hw, rfl⟩) _ (mem_itemIds.2 ⟨s.view, by simp, r, hr, rfl⟩) hid
      exact congrArg ItemIdentity.instanceId this
    refine filter_mergeTable_of_agree (by simp [WorkItem.merge, pick_base]) ?_ ?_ ?_ ?_ ha.items
    · intro c hc c' hc' hk
      have hnodup := hkeyed.items_nodup s.committed (by simp)
      rw [List.map_map] at hnodup
      exact eq_of_nodup_map hnodup hc hc' hk
    · intro b hb r hr hk
      rw [hitem s.base (by simp) b hb r hr hk]
    · intro c hc r hr hk
      rw [hitem s.committed (by simp) c hc r hr hk]
    · intro b r hr c hc hk
      have hsame := hitem s.committed (by simp) c hc r hr hk
      have hpick : (WorkItem.merge b r c).processInstanceId = r.processInstanceId := pick_agree hsame
      rw [hpick]
  · rw [h.merged_jobs]

end
end M8flowCore
