import M8flowCore.Saving
/-!
# The life of an instance

Of everything stored about an instance, its status, the end it has, the
lifecycle events recorded for it and whether a work item of it is open make up
its `Life`. A life changes by `Move`s, one for each cause there is, and every
operation of the library is a sequence of moves of the instances it is about.
-/
open M8flowCore.Lib M8flowCore.Session

namespace M8flowCore

/-- What the lifecycle is about. -/
structure Life where
  phase : Phase
  history : List EventType
  opened : Bool

namespace Db
variable (db : Db) (i : Nat)

/-- The lifecycle events of an instance, oldest first. -/
def history : List EventType :=
  (db.events.filter fun e => e.processInstanceId == i && e.eventType.isLifecycle).map (·.eventType)

/-- Whether the instance has an open work item. -/
def opened : Bool := db.workItems.any fun w => w.processInstanceId == i && !w.completed

def life : Option Life := (db.processInstance? i).map fun p => ⟨p.phase, db.history i, db.opened i⟩

end Db

def ProcessInstanceStatus.isTerminal (s : ProcessInstanceStatus) : Bool :=
  s == .complete || s == .error || s == .terminated

/-! ## Moves -/

/-- Why a life changes. -/
inductive Cause where
  | create
  | start
  | advance
  | complete
  | wake
  | retry
  | suspend
  | resume
  | error
  | fail
  | terminate
  | item
  | record
  deriving DecidableEq

/-- A phase that a saved workflow gives: an end exactly when it is complete. -/
def Phase.OfWorkflow (p : Phase) : Prop :=
  p.status = .complete ∧ p.endedAt.isSome ∨
    (p.status = .userInputRequired ∨ p.status = .waiting ∨ p.status = .running) ∧ p.endedAt = none

/-- One change of a life. -/
inductive Move : Cause → Option Life → Option Life → Prop
  | create : Move .create none (some ⟨⟨.notStarted, none⟩, [], false⟩)
  -- A save. Only `complete_task` records that the instance is complete.
  | save {c : Cause} (hc : c = .start ∨ c = .advance ∨ c = .complete ∨ c = .wake) (l : Life)
      (hopen : l.phase.status.isTerminal = false) {p : Phase} (hp : p.OfWorkflow) (opened : Bool)
      (hclosed : p.status = .complete → opened = false) {history : List EventType}
      (hhistory : history = if c = .complete ∧ p.status = .complete
        then l.history ++ [.processInstanceCompleted] else l.history) :
      Move c (some l) (some ⟨p, history, opened⟩)
  | retry (l : Life) (herror : l.phase.status = .error) {p : Phase} (hp : p.OfWorkflow) (opened : Bool)
      (hclosed : p.status = .complete → opened = false) :
      Move .retry (some l) (some ⟨p, l.history ++ [.processInstanceRetried], opened⟩)
  | suspend (l : Life) (hopen : l.phase.status.isTerminal = false) (hne : l.phase.status ≠ .suspended) :
      Move .suspend (some l) (some ⟨⟨.suspended, l.phase.endedAt⟩, l.history ++ [.processInstanceSuspended], l.opened⟩)
  | resume (l : Life) (hs : l.phase.status = .suspended) :
      Move .resume (some l) (some ⟨⟨.running, l.phase.endedAt⟩, l.history ++ [.processInstanceResumed], l.opened⟩)
  | error (l : Life) (hopen : l.phase.status.isTerminal = false) (t : Time) :
      Move .error (some l) (some ⟨⟨.error, some t⟩, l.history ++ [.processInstanceError], false⟩)
  -- A failing service task: an instance in `error` enters it again.
  | fail (l : Life) (hcomplete : l.phase.status ≠ .complete) (hterminated : l.phase.status ≠ .terminated) (t : Time) :
      Move .fail (some l) (some ⟨⟨.error, some t⟩, l.history ++ [.processInstanceError], false⟩)
  | terminate (l : Life) (hopen : l.phase.status.isTerminal = false) (t : Time) :
      Move .terminate (some l) (some ⟨⟨.terminated, some t⟩, l.history ++ [.processInstanceTerminated], false⟩)
  -- An open item is closed without a save.
  | item (l : Life) (hopen : l.opened = true) (opened : Bool) : Move .item (some l) (some { l with opened := opened })
  | late (l : Life) (hopen : l.opened = true) (hstatus : l.phase.status = .complete) (opened : Bool) :
      Move .item (some l) (some { l with history := l.history ++ [.processInstanceCompleted], opened := opened })
  -- The host records an event of its own.
  | record (l : Life) (eventType : EventType) :
      Move .record (some l) (some { l with history := l.history ++ [eventType] })

/-- One move with the lives it leads from and to. -/
structure Stage where
  cause : Cause
  before : Option Life
  after : Option Life

/-- A sequence of moves. -/
inductive Journey : List Stage → Option Life → Option Life → Prop
  | nil (a : Option Life) : Journey [] a a
  | snoc {stages : List Stage} {a b c : Option Life} (h : Journey stages a b) {cause : Cause} (hmove : Move cause b c) :
      Journey (stages ++ [⟨cause, b, c⟩]) a c

theorem Journey.trans {stages stages' : List Stage} {a b c : Option Life} (h : Journey stages a b)
    (h' : Journey stages' b c) : Journey (stages ++ stages') a c := by
  induction h' with
  | nil => simpa using h
  | snoc _ hmove ih =>
    rw [← List.append_assoc]
    exact (ih h).snoc hmove

/-- A sequence of moves with causes in `C`. -/
def Path (C : Cause → Prop) (a b : Option Life) : Prop := ∃ stages, Journey stages a b ∧ ∀ st ∈ stages, C st.cause

theorem Path.refl {C : Cause → Prop} (a : Option Life) : Path C a a := ⟨[], .nil a, by simp⟩

theorem Path.one {C : Cause → Prop} {c : Cause} (hc : C c) {a b : Option Life} (h : Move c a b) : Path C a b :=
  ⟨_, (Journey.nil a).snoc h, by simpa using hc⟩

theorem Path.trans {C : Cause → Prop} {a b c : Option Life} (h : Path C a b) (h' : Path C b c) : Path C a c := by
  obtain ⟨stages, hj, hC⟩ := h
  obtain ⟨stages', hj', hC'⟩ := h'
  refine ⟨stages ++ stages', hj.trans hj', fun st hst => ?_⟩
  rcases List.mem_append.1 hst with hst | hst
  · exact hC st hst
  · exact hC' st hst

theorem Path.mono {C C' : Cause → Prop} (hC : ∀ c, C c → C' c) {a b : Option Life} (h : Path C a b) : Path C' a b := by
  obtain ⟨stages, hj, hall⟩ := h
  exact ⟨stages, hj, fun st hst => hC _ (hall st hst)⟩

section
variable {W Ω : Type} {env : Env W Ω} {F : Focus} {l : Touch} {L : List Touch} {s s' : Tx Ω} {i j : Nat}

/-! ## What leaves a life alone -/

theorem Db.life_eq (db : Db) : db.life i = ((db.processInstance? i).map (·.phase)).map fun p =>
    (⟨p, db.history i, db.opened i⟩ : Life) := by
  unfold Db.life
  rw [Option.map_map]
  rfl

theorem Db.life_congr {db db' : Db}
    (hrow : (db'.processInstance? i).map (·.phase) = (db.processInstance? i).map (·.phase))
    (hhistory : db'.history i = db.history i) (hopened : db'.opened i = db.opened i) : db'.life i = db.life i := by
  rw [db'.life_eq, db.life_eq, hrow, hhistory, hopened]

/-- The changes that show in nobody's life. -/
def calm : List Touch :=
  [.seq, .world, .shared, .lane, .json, .details, .process, .snapshot, .task, .note, .job, .startJob, .lock, .newProcess]

theorem processInstance?_updateInstance {db : Db} {f : ProcessInstance → ProcessInstance}
    (hf : ∀ p, (f p).identity = p.identity) : (db.updateInstance i f).processInstance? j =
      (db.processInstance? j).map fun p => if p.id == i then f p else p := by
  refine find?_updateWhere fun p _ _ => ?_
  have hid : (f p).id = p.id := congrArg InstanceIdentity.id (hf p)
  rw [hid]

theorem processInstance?_id {db : Db} {p : ProcessInstance} (h : db.processInstance? i = some p) : p.id = i := by
  simpa using List.find?_some h

/-- An update of rows with another id. -/
theorem processInstance?_updateInstance_of_ne {db : Db} {f : ProcessInstance → ProcessInstance}
    (hf : ∀ p, (f p).identity = p.identity) (hij : i ≠ j) :
    (db.updateInstance i f).processInstance? j = db.processInstance? j := by
  rw [processInstance?_updateInstance hf]
  cases hrow : db.processInstance? j with
  | none => rfl
  | some p =>
    have hid : p.id ≠ i := by
      rw [processInstance?_id hrow]
      exact Ne.symm hij
    simp [hid]

theorem opened_updateWhere {items : List WorkItem} {p : WorkItem → Bool} {f : WorkItem → WorkItem}
    (hp : ∀ w, p w = true → w.processInstanceId ≠ j) (hf : ∀ w, (f w).identity = w.identity) :
    (updateWhere p f items).any (fun w => w.processInstanceId == j && !w.completed) =
      items.any fun w => w.processInstanceId == j && !w.completed := by
  refine any_updateWhere fun w hw => ?_
  have hid : (f w).processInstanceId = w.processInstanceId := congrArg ItemIdentity.instanceId (hf w)
  have hne : (w.processInstanceId == j) = false := by simpa using hp w hw
  rw [hid, hne]
  rfl

/-- A change shows in a life only if it is of its instance, and not calm. -/
theorem Change.life (h : l ∈ calm ∨ F.instanceId ≠ j) (hc : Change env F l s s') : s'.view.life j = s.view.life j := by
  cases hc with
  | shared hdb =>
    refine Db.life_congr ?_ ?_ ?_
    · unfold Db.processInstance?
      rw [hdb.processInstances]
    · unfold Db.history
      rw [hdb.events]
    · unfold Db.opened
      rw [hdb.workItems]
  | lane _ id groupId =>
    exact Db.life_congr rfl rfl (any_updateWhere fun _ _ => rfl)
  | details _ f hf =>
    refine Db.life_congr ?_ rfl rfl
    rw [processInstance?_updateInstance fun p => (hf p).1, Option.map_map]
    refine congrArg (Option.map · _) (funext fun p => ?_)
    simp only [Function.comp_apply]
    split
    · exact (hf p).2
    · rfl
  | status _ f hf =>
    have hij := h.resolve_left (by decide)
    refine Db.life_congr ?_ rfl rfl
    rw [processInstance?_updateInstance_of_ne hf hij]
  | item _ p f hp hf =>
    have hij := h.resolve_left (by decide)
    refine Db.life_congr rfl rfl (opened_updateWhere (fun w hw => ?_) hf)
    rw [hp w hw]
    exact hij
  | newItem _ row hid hrow =>
    have hij := h.resolve_left (by decide)
    refine Db.life_congr rfl rfl ?_
    unfold Db.opened
    simp [hrow, hij]
  | note _ row hrow htype =>
    refine Db.life_congr rfl ?_ rfl
    unfold Db.history
    simp [htype]
  | event _ row hrow =>
    have hij := h.resolve_left (by decide)
    refine Db.life_congr rfl ?_ rfl
    unfold Db.history
    simp [hrow, hij]
  | newInstance _ process row hpid hid hF =>
    have hij := h.resolve_left (by decide)
    refine Db.life_congr ?_ rfl rfl
    have hne : row.id ≠ j := by
      rw [hF]
      exact hij
    unfold Db.processInstance?
    simp [List.find?_append, hne]
  | _ => rfl

theorem life_of_steps (hj : F.instanceId ≠ j) (h : Steps (Change env F) L s s') : s'.view.life j = s.view.life j :=
  Steps.keeps (R := fun s s' : Tx Ω => s'.view.life j = s.view.life j) ⟨fun _ => rfl, fun h₁ h₂ => h₂.trans h₁⟩
    (fun _ _ _ _ hc => hc.life (.inr hj)) h

theorem life_of_calm (hL : L ⊆ calm) (h : Steps (Change env F) L s s') : s'.view.life j = s.view.life j :=
  Steps.keeps (R := fun s s' : Tx Ω => s'.view.life j = s.view.life j) ⟨fun _ => rfl, fun h₁ h₂ => h₂.trans h₁⟩
    (fun _ hl _ _ hc => hc.life (.inl (hL hl))) h

/-! ## Keys -/

/-- Primary and foreign keys, as far as lives need them. -/
structure Filed (seq : Nat) (db : Db) : Prop where
  nodup : (db.processInstances.map (·.id)).Nodup
  instance_lt : ∀ p ∈ db.processInstances, p.id < seq
  item_lt : ∀ w ∈ db.workItems, w.processInstanceId < seq
  item_tenant : ∀ w ∈ db.workItems, ∀ p ∈ db.processInstances, p.id = w.processInstanceId →
    p.m8fTenantId = w.m8fTenantId
  event_lt : ∀ e ∈ db.events, e.processInstanceId < seq

/-- The instance of the focus is there. -/
def Focus.Stands (F : Focus) (db : Db) : Prop :=
  ∃ p ∈ db.processInstances, p.id = F.instanceId ∧ p.m8fTenantId = F.tenantId

theorem Filed.found {seq : Nat} {db : Db} (h : Filed seq db) {pi : ProcessInstance} (hpi : pi ∈ db.processInstances) :
    db.processInstance? pi.id = some pi := by
  cases hrow : db.processInstance? pi.id with
  | none =>
    have := List.find?_eq_none.1 hrow pi hpi
    simp at this
  | some p =>
    have hid := processInstance?_id hrow
    rw [List.inj_on_of_nodup_map h.nodup (List.mem_of_find?_eq_some hrow) hpi hid]

theorem Filed.mono {seq seq' : Nat} {db : Db} (hseq : seq ≤ seq') (h : Filed seq db) : Filed seq' db :=
  ⟨h.nodup, fun p hp => (h.instance_lt p hp).trans_le hseq, fun w hw => (h.item_lt w hw).trans_le hseq, h.item_tenant,
    fun e he => (h.event_lt e he).trans_le hseq⟩

/-- Rows that keep their fixed columns. -/
theorem Filed.same {seq : Nat} {db db' : Db} (h : Filed seq db)
    (hinstances : db'.processInstances.map (·.identity) = db.processInstances.map (·.identity))
    (hitems : db'.workItems.map (·.identity) = db.workItems.map (·.identity)) (hevents : db'.events = db.events) :
    Filed seq db' := by
  have hrow : ∀ p' ∈ db'.processInstances, ∃ p ∈ db.processInstances, p.identity = p'.identity := by
    intro p' hp'
    have : p'.identity ∈ db.processInstances.map (·.identity) := by
      rw [← hinstances]
      exact List.mem_map_of_mem hp'
    exact List.mem_map.1 this
  have hitem : ∀ w' ∈ db'.workItems, ∃ w ∈ db.workItems, w.identity = w'.identity := by
    intro w' hw'
    have : w'.identity ∈ db.workItems.map (·.identity) := by
      rw [← hitems]
      exact List.mem_map_of_mem hw'
    exact List.mem_map.1 this
  refine ⟨?_, fun p' hp' => ?_, fun w' hw' => ?_, fun w' hw' p' hp' hid => ?_, by rw [hevents]; exact h.event_lt⟩
  · have hids : ∀ l : List ProcessInstance, l.map (·.id) = (l.map (·.identity)).map (·.id) := by simp [Function.comp_def,
      ProcessInstance.identity]
    rw [hids, hinstances, ← hids]
    exact h.nodup
  · obtain ⟨p, hp, heq⟩ := hrow p' hp'
    have hid : p.id = p'.id := congrArg InstanceIdentity.id heq
    exact hid ▸ h.instance_lt p hp
  · obtain ⟨w, hw, heq⟩ := hitem w' hw'
    have hid : w.processInstanceId = w'.processInstanceId := congrArg ItemIdentity.instanceId heq
    exact hid ▸ h.item_lt w hw
  · obtain ⟨p, hp, hpeq⟩ := hrow p' hp'
    obtain ⟨w, hw, hweq⟩ := hitem w' hw'
    have hpid : p.id = p'.id := congrArg InstanceIdentity.id hpeq
    have hwid : w.processInstanceId = w'.processInstanceId := congrArg ItemIdentity.instanceId hweq
    have htenant := h.item_tenant w hw p hp (hpid.trans (hid.trans hwid.symm))
    exact (congrArg InstanceIdentity.tenantId hpeq).symm.trans (htenant.trans (congrArg ItemIdentity.tenantId hweq))

theorem Filed.addInstance {seq seq' : Nat} {db : Db} {row : ProcessInstance} (h : Filed seq db) (hle : seq ≤ row.id)
    (hlt : row.id < seq') : Filed seq' { db with processInstances := db.processInstances ++ [row] } := by
  have hseq : seq ≤ seq' := Nat.le_of_lt (Nat.lt_of_le_of_lt hle hlt)
  refine ⟨?_, fun p hp => ?_, fun w hw => (h.item_lt w hw).trans_le hseq, fun w hw p hp hid => ?_,
    fun e he => (h.event_lt e he).trans_le hseq⟩
  · rw [List.map_append, List.nodup_append]
    refine ⟨h.nodup, by simp, fun id hid id' hid' heq => ?_⟩
    obtain ⟨p, hp, rfl⟩ := List.mem_map.1 hid
    simp only [List.map_cons, List.map_nil, List.mem_singleton] at hid'
    have := h.instance_lt p hp
    omega
  · rcases List.mem_append.1 hp with hp | hp
    · exact (h.instance_lt p hp).trans_le hseq
    · rw [List.mem_singleton] at hp
      exact hp ▸ hlt
  · rcases List.mem_append.1 hp with hp | hp
    · exact h.item_tenant w hw p hp hid
    · rw [List.mem_singleton] at hp
      subst hp
      have := h.item_lt w hw
      omega

/-- Every change keeps the keys. -/
theorem Filed.change (hF : l = .newItem ∨ l = .note ∨ l = .event → F.Stands s.view) (hc : Change env F l s s')
    (h : Filed s.seq s.view) : Filed s'.seq s'.view := by
  have hevent : ∀ row : ProcessInstanceEvent, row.processInstanceId = F.instanceId → F.Stands s.view →
      Filed s.seq { s.view with events := s.view.events ++ [row] } := by
    rintro row hrow ⟨p, hp, hid, -⟩
    refine ⟨h.nodup, h.instance_lt, h.item_lt, h.item_tenant, fun e he => ?_⟩
    rcases List.mem_append.1 he with he | he
    · exact h.event_lt e he
    · rw [List.mem_singleton] at he
      rw [he, hrow, ← hid]
      exact h.instance_lt p hp
  cases hc with
  | nextId => exact h.mono (Nat.le_succ _)
  | world => exact h
  | shared hdb => exact h.same (by rw [hdb.processInstances]) (by rw [hdb.workItems]) hdb.events
  | lane => exact h.same rfl (map_updateWhere (by intro _; rfl)) rfl
  | details _ f hf => exact h.same (map_updateWhere fun p => (hf p).1) rfl rfl
  | status _ f hf => exact h.same (map_updateWhere hf) rfl rfl
  | item _ p f hp hf => exact h.same rfl (map_updateWhere hf) rfl
  | newItem _ row hid hrow htenant =>
    obtain ⟨p, hp, hpid, hptenant⟩ := hF (.inl rfl)
    have hlt := h.instance_lt p hp
    refine ⟨h.nodup, fun p hp => (h.instance_lt p hp).trans (Nat.lt_succ_self _), fun w hw => ?_, fun w hw p' hp' hid' => ?_,
      fun e he => (h.event_lt e he).trans (Nat.lt_succ_self _)⟩
    · rcases List.mem_append.1 hw with hw | hw
      · exact (h.item_lt w hw).trans (Nat.lt_succ_self _)
      · rw [List.mem_singleton] at hw
        rw [hw, hrow, ← hpid]
        exact hlt.trans (Nat.lt_succ_self _)
    · rcases List.mem_append.1 hw with hw | hw
      · exact h.item_tenant w hw p' hp' hid'
      · rw [List.mem_singleton] at hw
        subst hw
        have hsame := List.inj_on_of_nodup_map h.nodup hp' hp (hid'.trans (hrow.trans hpid.symm))
        rw [hsame, hptenant, htenant]
  | note _ row hrow => exact hevent row hrow (hF (by simp))
  | event _ row hrow => exact hevent row hrow (hF (by simp))
  | newProcess => exact (h.mono (Nat.le_succ _)).same rfl rfl rfl
  | newInstance _ process row hpid hid =>
    have hrow : Filed (s.seq + 2) { s.view with processInstances := s.view.processInstances ++ [row] } :=
      h.addInstance (by omega) (by omega)
    exact hrow.same rfl rfl rfl
  | _ => exact h.same rfl rfl rfl

/-- The focus's instance stays. -/
theorem Focus.Stands.change {F' : Focus} (hc : Change env F l s s') (h : F'.Stands s.view) : F'.Stands s'.view := by
  obtain ⟨p, hp, hid, htenant⟩ := h
  have hupdate : ∀ f : ProcessInstance → ProcessInstance, (∀ p, (f p).identity = p.identity) →
      ∃ p' ∈ updateWhere (fun p => p.id == F.instanceId) f s.view.processInstances,
        p'.id = F'.instanceId ∧ p'.m8fTenantId = F'.tenantId := by
    intro f hf
    refine ⟨_, mem_updateWhere.2 ⟨p, hp, rfl⟩, ?_⟩
    split
    · exact ⟨(congrArg InstanceIdentity.id (hf p)).trans hid, (congrArg InstanceIdentity.tenantId (hf p)).trans htenant⟩
    · exact ⟨hid, htenant⟩
  cases hc with
  | shared hdb => exact ⟨p, by rw [hdb.processInstances]; exact hp, hid, htenant⟩
  | details _ f hf => exact hupdate f fun p => (hf p).1
  | status _ f hf => exact hupdate f hf
  | newInstance => exact ⟨p, List.mem_append_left _ hp, hid, htenant⟩
  | _ => exact ⟨p, hp, hid, htenant⟩

theorem Filed.steps (hF : F.Stands s.view) (hsteps : Steps (Change env F) L s s') (h : Filed s.seq s.view) :
    Filed s'.seq s'.view := by
  have hall := hsteps.inv (P := fun s => Filed s.seq s.view ∧ F.Stands s.view) ?_ ⟨h, hF⟩
  · exact hall.1
  · rintro l - s₁ s₂ hc ⟨h₁, hF₁⟩
    exact ⟨h₁.change (fun _ => hF₁) hc, hF₁.change hc⟩

/-- Changes that add neither items nor events keep the keys, whatever the focus. -/
theorem Filed.quiet (hitem : Touch.newItem ∉ L) (hnote : Touch.note ∉ L) (hevent : Touch.event ∉ L)
    (hsteps : Steps (Change env F) L s s') (h : Filed s.seq s.view) : Filed s'.seq s'.view := by
  refine hsteps.inv (P := fun s => Filed s.seq s.view) (fun l hl s₁ s₂ hc h₁ => h₁.change ?_ hc) h
  rintro (rfl | rfl | rfl)
  · exact absurd hl hitem
  · exact absurd hl hnote
  · exact absurd hl hevent

/-- The instances, items and events are as they were, and nothing is committed. -/
structure Aside (s s' : Tx Ω) : Prop where
  instances : s'.view.processInstances = s.view.processInstances
  items : s'.view.workItems = s.view.workItems
  events : s'.view.events = s.view.events
  base : s'.base = s.base
  committed : s'.committed = s.committed
  seq : s.seq ≤ s'.seq

theorem frame_aside : Prog.Frame (Aside (Ω := Ω)) :=
  ⟨fun _ => ⟨rfl, rfl, rfl, rfl, rfl, le_refl _⟩, fun h₁ h₂ =>
    ⟨h₂.instances.trans h₁.instances, h₂.items.trans h₁.items, h₂.events.trans h₁.events, h₂.base.trans h₁.base,
      h₂.committed.trans h₁.committed, h₁.seq.trans h₂.seq⟩⟩

/-- The changes that touch none of the three tables. -/
def aside : List Touch :=
  [.seq, .world, .shared, .json, .process, .snapshot, .task, .job, .startJob, .lock, .newProcess]

theorem Change.aside (hl : l ∈ aside) (hc : Change env F l s s') : Aside s s' := by
  cases hc with
  | nextId => exact ⟨rfl, rfl, rfl, rfl, rfl, Nat.le_succ _⟩
  | newProcess => exact ⟨rfl, rfl, rfl, rfl, rfl, Nat.le_succ _⟩
  | shared hdb => exact ⟨hdb.processInstances, hdb.workItems, hdb.events, rfl, rfl, le_refl _⟩
  | lane => simp [M8flowCore.aside] at hl
  | details => simp [M8flowCore.aside] at hl
  | status => simp [M8flowCore.aside] at hl
  | item => simp [M8flowCore.aside] at hl
  | newItem => simp [M8flowCore.aside] at hl
  | note => simp [M8flowCore.aside] at hl
  | event => simp [M8flowCore.aside] at hl
  | newInstance => simp [M8flowCore.aside] at hl
  | _ => exact ⟨rfl, rfl, rfl, rfl, rfl, le_refl _⟩

theorem aside_of_steps (hL : L ⊆ aside) (h : Steps (Change env F) L s s') : Aside s s' :=
  h.keeps frame_aside fun _ hl _ _ hc => hc.aside (hL hl)

theorem Aside.life (h : Aside s s') (j : Nat) : s'.view.life j = s.view.life j := by
  refine Db.life_congr ?_ ?_ ?_
  · unfold Db.processInstance?
    rw [h.instances]
  · unfold Db.history
    rw [h.events]
  · unfold Db.opened
    rw [h.items]

theorem Filed.aside (h : Filed s.seq s.view) (ha : Aside s s') : Filed s'.seq s'.view :=
  (h.mono ha.seq).same (by rw [ha.instances]) (by rw [ha.items]) ha.events

theorem Focus.Stands.steps {F' : Focus} (hsteps : Steps (Change env F) L s s') (h : F'.Stands s.view) :
    F'.Stands s'.view := hsteps.inv (P := fun s => F'.Stands s.view) (fun _ _ _ _ hc => Focus.Stands.change hc) h

end
end M8flowCore
