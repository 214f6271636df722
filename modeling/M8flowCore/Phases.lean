import M8flowCore.JobTable
/-!
# The phases of an instance

While a call runs, an instance has a phase in the copy its session read, in the
session's own copy and in what is committed. A commit takes status and end
column by column, so these three decide what it leaves. `At` says where a call
stands, and it is carried through a call however the call ends.
-/
open M8flowCore.Lib M8flowCore.Session

namespace M8flowCore

/-! ## Rows in order -/

/-- The phase of an instance. -/
def Db.phase? (db : Db) (j : Nat) : Option Phase := (db.processInstance? j).map (·.phase)

/-- Instances have ids of their own that were handed out. -/
structure Ranked (seq : Nat) (db : Db) : Prop where
  nodup : (db.processInstances.map (·.id)).Nodup
  lt : ∀ p ∈ db.processInstances, p.id < seq

/-- A job that starts nothing is filed under the key of its instance. -/
def Homed (seq : Nat) (jobs : List SchedulerJob) : Prop :=
  ∀ job ∈ jobs, job.jobType ≠ .timerStart →
    ∃ i, job.processInstanceId = some i ∧ i < seq ∧ job.jobKey = instanceJobKey job.jobType i

/-- Instances and runtime processes are still there. -/
structure Retains (db db' : Db) : Prop where
  instances : ∀ p ∈ db.processInstances, ∃ p' ∈ db'.processInstances, p'.id = p.id
  processes : ∀ r ∈ db.bpmnProcesses, ∃ r' ∈ db'.bpmnProcesses, r'.id = r.id

/-- The rows of what a session read, of its copy and of what is committed fit
together. -/
structure Fitting {Ω : Type} (s : Tx Ω) : Prop where
  view : Ranked s.seq s.view
  committed : Ranked s.seq s.committed
  viewed : Retains s.base s.view
  standing : Retains s.base s.committed
  agree : ∀ p ∈ s.view.processInstances, ∀ q ∈ s.committed.processInstances, p.id = q.id → p.identity = q.identity
  homed : Homed s.seq s.view.schedulerJobs
  filed : Homed s.seq s.committed.schedulerJobs
  current : s.JobsCurrent

/-- Besides, the session has seen every runtime process that is committed. -/
structure Orderly {Ω : Type} (s : Tx Ω) : Prop extends Fitting s where
  seen : ∀ r ∈ s.committed.bpmnProcesses, ∃ r' ∈ s.view.bpmnProcesses, r'.id = r.id

section
variable {W Ω α : Type} {env : Env W Ω} {F : Focus} {l : Touch} {L : List Touch} {s s' : Tx Ω} {seq seq' : Nat} {db db' : Db}
  {j : Nat}

theorem Retains.refl (db : Db) : Retains db db := ⟨fun p hp => ⟨p, hp, rfl⟩, fun r hr => ⟨r, hr, rfl⟩⟩

theorem Retains.trans {db'' : Db} (h : Retains db db') (h' : Retains db' db'') : Retains db db'' := by
  refine ⟨fun p hp => ?_, fun r hr => ?_⟩
  · obtain ⟨p₁, hp₁, hid₁⟩ := h.instances p hp
    obtain ⟨p₂, hp₂, hid₂⟩ := h'.instances p₁ hp₁
    exact ⟨p₂, hp₂, hid₂.trans hid₁⟩
  · obtain ⟨r₁, hr₁, hid₁⟩ := h.processes r hr
    obtain ⟨r₂, hr₂, hid₂⟩ := h'.processes r₁ hr₁
    exact ⟨r₂, hr₂, hid₂.trans hid₁⟩

theorem Grows.retains (h : Grows db db') : Retains db db' := ⟨h.instances, h.processes⟩

theorem Ranked.mono (h : Ranked seq db) (hseq : seq ≤ seq') : Ranked seq' db :=
  ⟨h.nodup, fun p hp => (h.lt p hp).trans_le hseq⟩

theorem Homed.mono {jobs : List SchedulerJob} (h : Homed seq jobs) (hseq : seq ≤ seq') : Homed seq' jobs := by
  intro job hjob hstart
  obtain ⟨i, hi, hlt, hkey⟩ := h job hjob hstart
  exact ⟨i, hi, hlt.trans_le hseq, hkey⟩

theorem Ranked.unique (h : Ranked seq db) {p q : ProcessInstance} (hp : p ∈ db.processInstances)
    (hq : q ∈ db.processInstances) (hid : p.id = q.id) : p = q := List.inj_on_of_nodup_map h.nodup hp hq hid

theorem Ranked.phase (h : Ranked seq db) {p : ProcessInstance} (hp : p ∈ db.processInstances) :
    db.phase? p.id = some p.phase := by
  have hfound : (db.processInstance? p.id).isSome := List.find?_isSome.2 ⟨p, hp, by simp⟩
  obtain ⟨q, hq⟩ := Option.isSome_iff_exists.1 hfound
  obtain rfl := h.unique (List.mem_of_find?_eq_some hq) hp (processInstance?_id hq)
  rw [Db.phase?, hq]
  rfl

theorem Ranked.same (h : Ranked seq db)
    (hinstances : db'.processInstances.map (·.identity) = db.processInstances.map (·.identity)) : Ranked seq db' := by
  have hids : db'.processInstances.map (·.id) = db.processInstances.map (·.id) := by
    have := congrArg (List.map InstanceIdentity.id) hinstances
    rw [List.map_map, List.map_map] at this
    exact this
  refine ⟨hids ▸ h.nodup, fun p hp => ?_⟩
  have hmem : p.id ∈ db.processInstances.map (·.id) := hids ▸ List.mem_map_of_mem hp
  obtain ⟨q, hq, hid⟩ := List.mem_map.1 hmem
  exact hid ▸ h.lt q hq

/-- What a call starts from. -/
structure Store.Orderly (st : Store) : Prop where
  ranked : Ranked st.seq st.db
  homed : Homed st.seq st.db.schedulerJobs

theorem Store.Orderly.session {st : Store} (h : st.Orderly) (world : Ω) : M8flowCore.Orderly (st.session world) where
  view := h.ranked
  committed := h.ranked
  viewed := .refl st.db
  standing := .refl st.db
  agree p hp q hq hid := by rw [h.ranked.unique hp hq hid]
  seen r hr := ⟨r, hr, rfl⟩
  homed := h.homed
  filed := h.homed
  current := rfl

/-! ## Changes -/

/-- The identities after a change: a new instance has a new id. -/
theorem Change.identities (hc : Change env F l s s') : ∀ p ∈ s'.view.processInstances,
    s.seq ≤ p.id ∨ ∃ q ∈ s.view.processInstances, q.identity = p.identity := by
  have hupdate : ∀ f : ProcessInstance → ProcessInstance, (∀ p, (f p).identity = p.identity) →
      ∀ p ∈ updateWhere (·.id == F.instanceId) f s.view.processInstances,
        s.seq ≤ p.id ∨ ∃ q ∈ s.view.processInstances, q.identity = p.identity := by
    intro f hf p hp
    obtain ⟨q, hq, rfl⟩ := mem_updateWhere.1 hp
    refine .inr ⟨q, hq, ?_⟩
    split
    · exact (hf q).symm
    · rfl
  cases hc with
  | shared hdb => exact fun p hp => .inr ⟨p, hdb.processInstances ▸ hp, rfl⟩
  | details _ f hf => exact hupdate f fun p => (hf p).1
  | status _ f hf => exact hupdate f hf
  | newInstance _ process row hpid hid =>
    intro p hp
    rcases List.mem_append.1 hp with hp | hp
    · exact .inr ⟨p, hp, rfl⟩
    · rw [List.mem_singleton.1 hp]
      exact .inl (by omega)
  | _ => exact fun p hp => .inr ⟨p, hp, rfl⟩

theorem Change.ranked (hc : Change env F l s s') (h : Ranked s.seq s.view) : Ranked s'.seq s'.view := by
  cases hc with
  | nextId => exact h.mono (Nat.le_succ _)
  | shared hdb => exact h.same (by rw [hdb.processInstances])
  | details _ f hf => exact h.same (map_updateWhere fun p => (hf p).1)
  | status _ f hf => exact h.same (map_updateWhere hf)
  | newItem => exact (h.mono (Nat.le_succ _)).same rfl
  | newProcess => exact (h.mono (Nat.le_succ _)).same rfl
  | newInstance _ process row hpid hid =>
    refine ⟨?_, fun p hp => ?_⟩
    · change ((s.view.processInstances ++ [row]).map (·.id)).Nodup
      rw [List.map_append]
      refine List.Nodup.append h.nodup (List.nodup_singleton _) (List.disjoint_singleton.2 fun hin => ?_)
      obtain ⟨q, hq, hsame⟩ := List.mem_map.1 hin
      have hlt := h.lt q hq
      dsimp only at hsame
      omega
    · rcases List.mem_append.1 hp with hp | hp
      · exact (h.lt p hp).trans_le (Nat.le_add_right _ _)
      · rw [List.mem_singleton.1 hp, hid]
        exact Nat.lt_succ_self _
  | _ => exact h.same rfl

theorem Change.homed (hjob : l = .job → F.instanceId < s.seq) (hc : Change env F l s s')
    (h : Homed s.seq s.view.schedulerJobs) : Homed s'.seq s'.view.schedulerJobs := by
  cases hc with
  | nextId => exact h.mono (Nat.le_succ _)
  | shared hdb =>
    rw [hdb.schedulerJobs]
    exact h
  | newItem => exact h.mono (Nat.le_succ _)
  | newProcess => exact h.mono (Nat.le_succ _)
  | newInstance => exact h.mono (Nat.le_add_right _ _)
  | job _ jobs hkept hnew =>
    intro job hin hstart
    rcases hnew job hin with hold | ⟨-, hkey, hid⟩
    · exact h job hold hstart
    · exact ⟨_, hid, hjob rfl, hkey⟩
  | startJob _ jobs hkept hnew =>
    intro job hin hstart
    rcases hnew job hin with hold | ⟨htype, -⟩
    · exact h job hold hstart
    · exact absurd htype hstart
  | lock _ p f hf =>
    intro job hin hstart
    obtain ⟨old, hold, rfl⟩ := mem_updateWhere.1 hin
    have hsame : (if p old then f old else old).unlocked = old.unlocked := by
      split
      · exact hf old
      · rfl
    generalize (if p old then f old else old) = new at hsame hstart
    simp only [SchedulerJob.unlocked, SchedulerJob.mk.injEq] at hsame
    obtain ⟨-, -, hkey, htype, hid, -⟩ := hsame
    rw [htype] at hstart
    rw [htype, hkey, hid]
    exact h old hold hstart
  | _ => exact h

theorem Orderly.change (hjob : l = .job → F.instanceId < s.seq) (hc : Change env F l s s') (h : Orderly s) :
    Orderly s' := by
  obtain ⟨hbase, hcommitted⟩ := hc.committed
  have hseq : s.seq ≤ s'.seq := seq_of_steps (.one (List.mem_singleton.2 rfl) hc)
  have hgrows := hc.grows
  refine ⟨⟨hc.ranked h.view, ?_, ?_, ?_, fun p hp q hq hid => ?_, hc.homed hjob h.homed, ?_, ?_⟩, fun r hr => ?_⟩
  · rw [hcommitted]
    exact h.committed.mono hseq
  · rw [hbase]
    exact h.viewed.trans hgrows.retains
  · rw [hbase, hcommitted]
    exact h.standing
  · rw [hcommitted] at hq
    rcases hc.identities p hp with hnew | ⟨p₀, hp₀, hsame⟩
    · have := h.committed.lt q hq
      omega
    · have hid₀ : p₀.id = p.id := congrArg InstanceIdentity.id hsame
      rw [← hsame]
      exact h.agree p₀ hp₀ q hq (hid₀.trans hid)
  · rw [hcommitted]
    exact h.filed.mono hseq
  · unfold Tx.JobsCurrent
    rw [hbase, hcommitted]
    exact h.current
  · rw [hcommitted] at hr
    obtain ⟨r₁, hr₁, hid₁⟩ := h.seen r hr
    obtain ⟨r₂, hr₂, hid₂⟩ := hgrows.processes r₁ hr₁
    exact ⟨r₂, hr₂, hid₂.trans hid₁⟩

/-- A change shows in a phase only if it writes the status of the instance, or
is a new instance. -/
theorem Change.phase? (hstatus : l = .status → F.instanceId ≠ j) (hnew : l ≠ .newInstance) (hc : Change env F l s s') :
    s'.view.phase? j = s.view.phase? j := by
  by_cases hl : l = .status
  · subst hl
    cases hc with
    | status _ f hf =>
      unfold Db.phase?
      rw [processInstance?_updateInstance_of_ne hf (hstatus rfl)]
  · exact hc.phase hl hnew

/-! ## Second sessions -/

/-- What a session of its own commits beside the caller's. -/
structure Beside (s s₁ : Tx Ω) : Prop where
  seq : s.seq ≤ s₁.seq
  ranked : Ranked s₁.seq s₁.view
  retains : Retains s.committed s₁.view
  identities : ∀ q ∈ s₁.view.processInstances, s.seq ≤ q.id ∨ ∃ p ∈ s.committed.processInstances, p.identity = q.identity
  jobs : s₁.view.schedulerJobs = s.committed.schedulerJobs

theorem Fitting.mono (h : Fitting s) (hseq : s.seq ≤ seq') (world : Ω) :
    Fitting { s with seq := seq', world := world } :=
  ⟨h.view.mono hseq, h.committed.mono hseq, h.viewed, h.standing, h.agree, h.homed.mono hseq, h.filed.mono hseq, h.current⟩

theorem Orderly.mono (h : Orderly s) (hseq : s.seq ≤ seq') (world : Ω) :
    Orderly { s with seq := seq', world := world } := ⟨h.toFitting.mono hseq world, h.seen⟩

theorem Orderly.fork (h : Orderly s) : Orderly s.fork :=
  ⟨⟨h.committed, h.committed, .refl _, .refl _, fun p hp q hq hid => by rw [h.committed.unique hp hq hid], h.filed, h.filed,
    rfl⟩, fun r hr => ⟨r, hr, rfl⟩⟩

theorem Fitting.beside (h : Fitting s) {s₁ : Tx Ω} (h₁ : Beside s s₁) :
    Fitting { s₁ with base := s.base, view := s.view, committed := s₁.view } where
  view := h.view.mono h₁.seq
  committed := h₁.ranked
  viewed := h.viewed
  standing := h.standing.trans h₁.retains
  agree p hp q hq hid := by
    rcases h₁.identities q hq with hnew | ⟨q₀, hq₀, hsame⟩
    · have := h.view.lt p hp
      omega
    · have hid₀ : q₀.id = q.id := congrArg InstanceIdentity.id hsame
      rw [← hsame]
      exact h.agree p hp q₀ hq₀ (hid.trans hid₀.symm)
  homed := h.homed.mono h₁.seq
  filed := by
    change Homed s₁.seq s₁.view.schedulerJobs
    rw [h₁.jobs]
    exact h.filed.mono h₁.seq
  current := by
    unfold Tx.JobsCurrent
    dsimp only
    rw [h₁.jobs]
    exact h.current

/-- Where a merged instance comes from. -/
theorem Fitting.merged (h : Fitting s) {p : ProcessInstance}
    (hp : p ∈ (Db.merge s.base s.view s.committed).processInstances) :
    (∃ q ∈ s.view.processInstances, q.identity = p.identity) ∨ ∃ q ∈ s.committed.processInstances, q.identity = p.identity := by
  rcases mem_mergeTable hp with hp | hp | ⟨b, v, c, hv, hc, hkey, rfl⟩
  · exact .inl ⟨p, hp, rfl⟩
  · exact .inr ⟨p, hp, rfl⟩
  · exact .inl ⟨v, hv, (ProcessInstance.merge_identity (h.agree v hv c hc hkey.symm).symm).symm⟩

theorem Fitting.merge_ranked (h : Fitting s) : Ranked s.seq (Db.merge s.base s.view s.committed) := by
  refine ⟨nodup_mergeTable (fun _ _ _ _ => rfl) h.view.nodup h.committed.nodup, fun p hp => ?_⟩
  rcases h.merged hp with ⟨q, hq, hsame⟩ | ⟨q, hq, hsame⟩
  · have hid : q.id = p.id := congrArg InstanceIdentity.id hsame
    exact hid ▸ h.view.lt q hq
  · have hid : q.id = p.id := congrArg InstanceIdentity.id hsame
    exact hid ▸ h.committed.lt q hq

theorem Fitting.merge_retains (h : Fitting s) : Retains s.committed (Db.merge s.base s.view s.committed) := by
  refine ⟨fun q hq => ?_, fun r hr => ?_⟩
  · refine mergeTable_keys ?_ h.viewed.instances h.standing.instances (.inr ⟨q, hq, rfl⟩)
    exact fun _ _ _ _ => rfl
  · refine mergeTable_keys ?_ h.viewed.processes h.standing.processes (.inr ⟨r, hr, rfl⟩)
    exact fun _ _ _ _ => rfl

/-- After a refresh the session has seen what is committed. -/
theorem Fitting.refresh (h : Fitting s) :
    Orderly { s with base := s.committed, view := Db.merge s.base s.view s.committed } where
  view := h.merge_ranked
  committed := h.committed
  viewed := h.merge_retains
  standing := .refl _
  agree p hp q hq hid := by
    rcases h.merged hp with ⟨p₀, hp₀, hsame⟩ | ⟨p₀, hp₀, hsame⟩
    · have hid₀ : p₀.id = p.id := congrArg InstanceIdentity.id hsame
      rw [← hsame]
      exact h.agree p₀ hp₀ q hq (hid₀.trans hid)
    · have hid₀ : p₀.id = p.id := congrArg InstanceIdentity.id hsame
      rw [← hsame, h.committed.unique hp₀ hq (hid₀.trans hid)]
  homed := by
    change Homed s.seq (Db.merge s.base s.view s.committed).schedulerJobs
    rw [merged_jobs h.current]
    exact h.homed
  filed := h.filed
  current := rfl
  seen := h.merge_retains.processes

/-- What a call leaves is in order, whether its caller commits or rolls back. -/
theorem Fitting.committed_orderly (h : Fitting s) : (⟨s.seq, s.commit⟩ : Store).Orderly := by
  refine ⟨h.merge_ranked, ?_⟩
  change Homed s.seq (Db.merge s.base s.view s.committed).schedulerJobs
  rw [merged_jobs h.current]
  exact h.homed

theorem Fitting.rolled_orderly (h : Fitting s) : (⟨s.seq, s.committed⟩ : Store).Orderly := ⟨h.committed, h.filed⟩

/-! ## Merged phases -/

/-- Status and end, each from the session if it changed it. -/
def Phase.merge (b v c : Phase) : Phase := ⟨pick b.status v.status c.status, pick b.endedAt v.endedAt c.endedAt⟩

def mergePhase (b v c : Option Phase) : Option Phase := v.elim c fun v => b.elim (some v) fun b => c.map (Phase.merge b v)

theorem phase?_rowAt (db : Db) (j : Nat) : db.phase? j = (rowAt (·.id) db.processInstances j).map (·.phase) := rfl

theorem Fitting.phase?_merge (h : Fitting s) (j : Nat) :
    (Db.merge s.base s.view s.committed).phase? j = mergePhase (s.base.phase? j) (s.view.phase? j) (s.committed.phase? j) := by
  have hkept : (rowAt (fun p : ProcessInstance => p.id) s.base.processInstances j).isSome →
      (rowAt (fun p : ProcessInstance => p.id) s.view.processInstances j).isSome := by
    intro hbase
    obtain ⟨b, hb, hid⟩ := rowAt_isSome.1 hbase
    obtain ⟨v, hv, hvid⟩ := h.viewed.instances b hb
    exact rowAt_isSome.2 ⟨v, hv, hvid.trans hid⟩
  have hrow : rowAt (fun p : ProcessInstance => p.id) (Db.merge s.base s.view s.committed).processInstances j = _ :=
    rowAt_mergeTable_eq (fun b r c _ _ => (rfl : (ProcessInstance.merge b r c).id = r.id)) hkept
  simp only [phase?_rowAt]
  rw [hrow]
  unfold mergePhase
  cases rowAt (fun p : ProcessInstance => p.id) s.view.processInstances j with
  | none => rfl
  | some v =>
    cases rowAt (fun p : ProcessInstance => p.id) s.base.processInstances j with
    | none => rfl
    | some b =>
      simp only [Option.elim_some, Option.map_some, Option.map_map]
      split
      · rename_i heq
        subst heq
        cases rowAt (fun p : ProcessInstance => p.id) s.committed.processInstances j with
        | none => rfl
        | some c => simp [Phase.merge, ProcessInstance.phase, pick]
      · rw [Option.map_map]
        rfl

end

/-! ## Where a call stands -/

/-- What is said of the phases an instance has where the session read it, in its
copy and in what is committed. -/
abbrev Phases : Type := Option Phase → Option Phase → Option Phase → Prop

/-- Rows are in order, the phases of `j` are as said, and the instance `k` is
there, as is the one at hand. -/
structure At {Ω : Type} (k : Option InstanceIdentity) (j : Nat) (Φ : Phases) (hand : Option ProcessInstance) (s : Tx Ω) :
    Prop where
  orderly : Orderly s
  phases : Φ (s.base.phase? j) (s.view.phase? j) (s.committed.phase? j)
  there : ∀ x, k = some x → ∃ p ∈ s.view.processInstances, p.identity = x
  here : ∀ pi, hand = some pi → ∃ p ∈ s.view.processInstances, p.identity = pi.identity

/-- `m`, started where `Φ` holds, ends where `Ψ` does, whether it returns or
raises. -/
def Leads {Ω α : Type} (k : Option InstanceIdentity) (j : Nat) (Φ : Phases) (hand : Option ProcessInstance) (m : M Ω α) (Ψ : Phases) : Prop :=
  Prog.Ends (At k j Φ hand) m (fun _ => At k j Ψ none) fun _ => At k j Ψ none

section
variable {W Ω α β : Type} {env : Env W Ω} {F : Focus} {l : Touch} {L : List Touch} {s s' : Tx Ω} {seq : Nat} {db db' : Db}
  {k : Option InstanceIdentity} {j : Nat} {Φ Ψ E : Phases} {hand : Option ProcessInstance} {pi : ProcessInstance} {m : M Ω α}

theorem At.weaken (h : At k j Φ hand s) (hΦ : ∀ b v c, Φ b v c → Ψ b v c) : At k j Ψ none s :=
  ⟨h.orderly, hΦ _ _ _ h.phases, h.there, by simp⟩

theorem At.imp (h : At k j Φ hand s) (hΦ : ∀ b v c, Φ b v c → Ψ b v c) : At k j Ψ hand s :=
  ⟨h.orderly, hΦ _ _ _ h.phases, h.there, h.here⟩

theorem At.drop (h : At k j Φ hand s) : At k j Φ none s := h.weaken fun _ _ _ h => h

/-- The instance at hand has the phase of its row. -/
theorem At.found (h : At k j Φ (some pi) s) : ∃ p ∈ s.view.processInstances, p.identity = pi.identity ∧
    s.view.phase? pi.id = some p.phase := by
  obtain ⟨p, hp, hsame⟩ := h.here pi rfl
  have hid : p.id = pi.id := congrArg InstanceIdentity.id hsame
  exact ⟨p, hp, hsame, hid ▸ h.orderly.view.phase hp⟩

/-- An instance that is there stays there. -/
theorem there_of (hranked : Ranked seq db) (hretains : Retains db db')
    (hidentities : ∀ q ∈ db'.processInstances, seq ≤ q.id ∨ ∃ p ∈ db.processInstances, p.identity = q.identity)
    {x : InstanceIdentity} (h : ∃ p ∈ db.processInstances, p.identity = x) : ∃ p ∈ db'.processInstances, p.identity = x := by
  obtain ⟨p, hp, hsame⟩ := h
  obtain ⟨p', hp', hid'⟩ := hretains.instances p hp
  refine ⟨p', hp', ?_⟩
  rcases hidentities p' hp' with hle | ⟨q, hq, hq'⟩
  · have := hranked.lt p hp
    omega
  · have hqp : q = p := hranked.unique hq hp ((congrArg InstanceIdentity.id hq').trans hid')
    rw [← hq', hqp, hsame]

/-- Rows stay in order and the instance at hand stays, whatever becomes of the
phases. -/
theorem At.kept (hjob : l = .job → ∃ pi, hand = some pi ∧ F.instanceId = pi.id) (hc : Change env F l s s') (h : At k j Φ hand s) :
    At k j (fun _ _ _ => True) hand s' := by
  have hthere : ∀ x : InstanceIdentity, (∃ p ∈ s.view.processInstances, p.identity = x) →
      ∃ p ∈ s'.view.processInstances, p.identity = x := fun x =>
    there_of h.orderly.view hc.grows.retains hc.identities
  refine ⟨h.orderly.change (fun hl => ?_) hc, trivial, fun x hx => hthere x (h.there x hx),
    fun pi hpi => hthere _ (h.here pi hpi)⟩
  obtain ⟨pi, hpi, hid⟩ := hjob hl
  obtain ⟨p, hp, hsame⟩ := h.here pi hpi
  have hp' : p.id = pi.id := congrArg InstanceIdentity.id hsame
  rw [hid, ← hp']
  exact h.orderly.view.lt p hp

/-- A footprint that shows in no phase of `j`. -/
structure Calm (j : Nat) (hand : Option ProcessInstance) (F : Focus) (L : List Touch) : Prop where
  status : Touch.status ∈ L → F.instanceId ≠ j
  instances : Touch.newInstance ∉ L
  job : Touch.job ∈ L → ∃ pi, hand = some pi ∧ F.instanceId = pi.id

theorem Calm.quiet (h : Touch.status ∉ L ∧ Touch.newInstance ∉ L ∧ Touch.job ∉ L) : Calm j hand F L :=
  ⟨fun hin => absurd hin h.1, h.2.1, fun hin => absurd hin h.2.2⟩

theorem At.moved (hjob : Touch.job ∈ L → ∃ pi, hand = some pi ∧ F.instanceId = pi.id) (hsteps : Steps (Change env F) L s s')
    (h : At k j Φ hand s) (hΨ : Ψ (s.base.phase? j) (s'.view.phase? j) (s.committed.phase? j)) : At k j Ψ hand s' := by
  obtain ⟨hbase, hcommitted⟩ := committed_of_steps hsteps
  have hkept := hsteps.inv (P := At k j (fun _ _ _ => True) hand)
    (fun l hl s₁ s₂ hc h₁ => h₁.kept (fun hl' => hjob (hl' ▸ hl)) hc) (h.imp fun _ _ _ _ => trivial)
  refine ⟨hkept.orderly, ?_, hkept.there, hkept.here⟩
  rw [hbase, hcommitted]
  exact hΨ

theorem At.steps (hL : Calm j hand F L) (hsteps : Steps (Change env F) L s s') (h : At k j Φ hand s) : At k j Φ hand s' := by
  refine h.moved hL.job hsteps ?_
  have hsame : s'.view.phase? j = s.view.phase? j := by
    refine Steps.keeps (R := fun s s' : Tx Ω => s'.view.phase? j = s.view.phase? j) ⟨fun _ => rfl, fun h₁ h₂ => h₂.trans h₁⟩
      (fun l hl s₁ s₂ hc => hc.phase? ?_ ?_) hsteps
    · rintro rfl
      exact hL.status hl
    · rintro rfl
      exact hL.instances hl
  rw [hsame]
  exact h.phases

variable (env) in
theorem calm_ends (hL : Calm j hand F L) (h : Touches (Change env F) L m) (hE : ∀ b v c, Φ b v c → E b v c) :
    Prog.Ends (At k j Φ hand) m (fun _ => At k j Φ hand) fun _ => At k j E none :=
  fun _ hs => ⟨fun _ _ hm => hs.steps hL (h.steps hm), fun _ _ hm => (hs.steps hL (h.steps hm)).weaken hE⟩

theorem readOnly_ends (hm : m.ReadOnly) (hE : ∀ b v c, Φ b v c → E b v c) :
    Prog.Ends (At k j Φ hand) m (fun _ => At k j Φ hand) fun _ => At k j E none := hm.ends fun _ _ hs => hs.weaken hE

end
end M8flowCore
