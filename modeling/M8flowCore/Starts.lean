import M8flowCore.Progress
/-!
# The moves of starts

A start creates its instance, in a session of its own or in the caller's, and
then runs it. An instance that was created in a session of its own comes into
the caller's copy with the refresh that follows.
-/
open M8flowCore.Lib M8flowCore.Session

namespace M8flowCore

section
variable {W Ω : Type} {env : Env W Ω} {F : Focus} {L : List Touch} {s s' : Tx Ω} {i j : Nat} {pi : ProcessInstance} {w : W}
  {tenantId : TenantId}

/-! ## New instances -/

/-- One more instance, which has not started. -/
structure Added (tenantId : TenantId) (i : Nat) (db db' : Db) : Prop where
  instances : ∃ row : ProcessInstance, db'.processInstances = db.processInstances ++ [row] ∧ row.id = i ∧
    row.m8fTenantId = tenantId ∧ row.phase = ⟨.notStarted, none⟩
  items : db'.workItems = db.workItems
  events : db'.events = db.events

theorem Added.life {db db' : Db} {seq : Nat} (h : Added tenantId i db db') (hfiled : Filed seq db) (hi : seq ≤ i) :
    db.life i = none ∧ db'.life i = some ⟨⟨.notStarted, none⟩, [], false⟩ := by
  obtain ⟨row, hrow, hid, -, hphase⟩ := h.instances
  have hnone : db.processInstance? i = none := by
    refine List.find?_eq_none.2 fun p hp => ?_
    have := hfiled.instance_lt p hp
    simp only [beq_iff_eq]
    omega
  have hfound : db'.processInstance? i = some row := by
    have hsplit : db'.processInstance? i = (db.processInstances ++ [row]).find? (·.id == i) := by
      unfold Db.processInstance?
      rw [hrow]
    rw [hsplit, List.find?_append]
    unfold Db.processInstance? at hnone
    simp [hnone, hid]
  have hhistory : db'.history i = [] := by
    unfold Db.history
    rw [h.events, List.filter_eq_nil_iff.2]
    · rfl
    · intro e he
      have := hfiled.event_lt e he
      simp only [Bool.and_eq_true, beq_iff_eq, not_and]
      omega
  have hopened : db'.opened i = false := by
    unfold Db.opened
    rw [h.items, List.any_eq_false]
    intro item hitem
    have := hfiled.item_lt item hitem
    simp only [Bool.and_eq_true, beq_iff_eq, not_and]
    omega
  unfold Db.life
  rw [hnone, hfound, hhistory, hopened]
  exact ⟨rfl, by rw [Option.map_some, hphase]⟩

theorem Added.others {db db' : Db} (h : Added tenantId i db db') (hj : j ≠ i) : db'.life j = db.life j := by
  obtain ⟨row, hrow, hid, -, -⟩ := h.instances
  refine Db.life_congr ?_ ?_ ?_
  · unfold Db.processInstance?
    rw [hrow]
    simp [List.find?_append, hid, Ne.symm hj]
  · unfold Db.history
    rw [h.events]
  · unfold Db.opened
    rw [h.items]

theorem Added.filed {db db' : Db} {seq seq' : Nat} (h : Added tenantId i db db') (hfiled : Filed seq db) (hi : seq ≤ i)
    (hseq : i < seq') : Filed seq' db' := by
  obtain ⟨row, hrow, hid, -, -⟩ := h.instances
  have hadded := hfiled.addInstance (hid.symm ▸ hi) (hid.symm ▸ hseq)
  exact hadded.same (by rw [hrow]) (by rw [h.items]) h.events

theorem Added.path {db db' : Db} {seq : Nat} {C : Cause → Prop} (h : Added tenantId i db db') (hfiled : Filed seq db)
    (hi : seq ≤ i) (hC : C .create) : Path C (db.life i) (db'.life i) := by
  obtain ⟨hnone, hsome⟩ := h.life hfiled hi
  rw [hnone, hsome]
  exact .one hC .create

/-! ## Preparing -/

theorem loadProcessDefinition_readOnly (tenantId : TenantId) (definitionId : Nat) :
    (loadProcessDefinition (Ω := Ω) tenantId definitionId).ReadOnly :=
  Prog.keeps_bind Prog.frame_eq (Prog.keeps_gets Prog.frame_eq _) fun _ => Prog.keeps_orRaise Prog.frame_eq _ _

theorem member_of_prepared {definition : BpmnProcessDefinition} {modelIdentifier : String} {args : StartArgs}
    {result : Nat × String}
    (h : (prepareProcessInstanceInSession env tenantId definition modelIdentifier args).run s = (.ok result, s')) :
    s.view.isMember tenantId args.processInitiatorId = true := by
  unfold prepareProcessInstanceInSession at h
  obtain ⟨bpmnXml, s₁, hxml, h₁⟩ := Prog.bind_ok.1 h
  obtain ⟨-, rfl⟩ := Prog.orRaise_ok.1 hxml
  obtain ⟨selected, s₂, hselected, h₂⟩ := Prog.bind_ok.1 h₁
  obtain ⟨-, rfl⟩ := ofExcept_ok hselected
  obtain ⟨processId, s₃, hprocess, h₃⟩ := Prog.bind_ok.1 h₂
  obtain ⟨instanceId, s₄, hcreate, -⟩ := Prog.bind_ok.1 h₃
  unfold createProcessInstance at hcreate
  obtain ⟨_, s₅, hmember, -⟩ := Prog.bind_ok.1 hcreate
  have hmember := (ensureUserBelongsToTenant_ok.1 hmember).2.1
  unfold resolveOrCreateBpmnProcess createOrUpdateFromPayload at hprocess
  obtain ⟨hash, s₆, hjson, hinsert⟩ := Prog.bind_ok.1 hprocess
  obtain ⟨⟨digest, data⟩, s₇, hhash, hwrite⟩ := Prog.bind_ok.1 hjson
  obtain ⟨-, rfl⟩ := ofExcept_ok hhash
  obtain ⟨-, rfl⟩ := Prod.mk.inj hwrite
  obtain ⟨-, rfl⟩ := Prod.mk.inj hinsert
  exact hmember

/-- Stamping the newest instance changes no other row of the three tables. -/
theorem added_of_steps {tenantId : TenantId} {db : Db} (hF : F.instanceId = i) (hfresh : ∀ p ∈ db.processInstances, p.id ≠ i)
    (hsteps : Steps (Change env F) [.seq, .shared, .details] s s') (h : Added tenantId i db s.view) :
    Added tenantId i db s'.view := by
  refine hsteps.inv (P := fun s => Added tenantId i db s.view) ?_ h
  intro l hl s₁ s₂ hc h₁
  obtain ⟨row, hrow, hid, htenant, hphase⟩ := h₁.instances
  cases hc with
  | nextId => exact h₁
  | shared hdb =>
    exact ⟨⟨row, hdb.processInstances.trans hrow, hid, htenant, hphase⟩, hdb.workItems.trans h₁.items,
      hdb.events.trans h₁.events⟩
  | details _ f hf =>
    refine ⟨⟨f row, ?_, ?_, ?_, (hf row).2.trans hphase⟩, h₁.items, h₁.events⟩
    · have hold : updateWhere (fun p => p.id == F.instanceId) f db.processInstances = db.processInstances := by
        refine (List.map_congr_left fun p hp => ?_).trans (List.map_id _)
        have hne := hfresh p hp
        simp [hF, hne]
      change updateWhere _ f s₁.view.processInstances = _
      rw [hrow]
      unfold updateWhere at hold ⊢
      rw [List.map_append, hold]
      simp [hid, hF]
    · exact (congrArg InstanceIdentity.id (hf row).1).trans hid
    · exact (congrArg InstanceIdentity.tenantId (hf row).1).trans htenant
  | _ => simp at hl

/-- Preparing an instance adds it. -/
theorem prepareProcessInstanceInSession_added (hfiled : Filed s.seq s.view) {definition : BpmnProcessDefinition}
    {modelIdentifier : String} {args : StartArgs} {result : Nat × String}
    (h : (prepareProcessInstanceInSession env tenantId definition modelIdentifier args).run s = (.ok result, s')) :
    result.1 = s.seq + 1 ∧ Added tenantId result.1 s.view s'.view ∧ s.seq + 2 ≤ s'.seq ∧ s'.base = s.base ∧
      s'.committed = s.committed := by
  obtain ⟨bpmnXml, selected, data, hxml, hselected, hdata⟩ := selectable_of_prepared h
  obtain ⟨s₁, hrun, hsteps⟩ := prepareProcessInstanceInSession_run (F := ⟨tenantId, s.seq + 1, none, fun _ => True⟩)
    modelIdentifier hxml hselected hdata (member_of_prepared h) rfl
  rw [hrun, Prod.mk.injEq, Except.ok.injEq] at h
  obtain ⟨rfl, rfl⟩ := h
  obtain ⟨hbase, hcommitted⟩ := committed_of_steps hsteps
  refine ⟨rfl, added_of_steps rfl (fun p hp => ?_) hsteps ?_, seq_of_steps hsteps, hbase, hcommitted⟩
  · have := hfiled.instance_lt p hp
    omega
  · exact ⟨⟨_, rfl, rfl, rfl, rfl⟩, rfl, rfl⟩

/-! ## Sessions nobody overtakes -/

/-- A session whose transaction has seen everything that is committed. -/
structure Serial (s : Tx Ω) : Prop where
  current : s.base = s.committed
  view : Filed s.seq s.view
  committed : Filed s.seq s.committed

/-- A call that returned moved each instance `j` by causes in `C j`. -/
structure Travels (C : Nat → Cause → Prop) (s s' : Tx Ω) : Prop where
  paths : ∀ j, Path (C j) (s.view.life j) (s'.view.life j)
  serial : Serial s'
  seq : s.seq ≤ s'.seq

theorem Travels.refl {C : Nat → Cause → Prop} (h : Serial s) : Travels C s s := ⟨fun _ => .refl _, h, le_refl _⟩

theorem Travels.trans {C : Nat → Cause → Prop} {s₁ s₂ s₃ : Tx Ω} (h₁ : Travels C s₁ s₂) (h₂ : Travels C s₂ s₃) :
    Travels C s₁ s₃ := ⟨fun j => (h₁.paths j).trans (h₂.paths j), h₂.serial, h₁.seq.trans h₂.seq⟩

theorem Travels.mono {C C' : Nat → Cause → Prop} (hC : ∀ j c, C j c → C' j c) (h : Travels C s s') : Travels C' s s' :=
  ⟨fun j => (h.paths j).mono (hC j), h.serial, h.seq⟩

theorem Moved.travels {C : Cause → Prop} (hs : Serial s) (h : Moved C i s s') :
    Travels (fun j c => j = i ∧ C c) s s' := by
  refine ⟨fun j => ?_, ⟨?_, h.filed, ?_⟩, h.seq⟩
  · by_cases hj : j = i
    · subst hj
      exact h.path.mono fun c hc => ⟨rfl, hc⟩
    · rw [h.others j hj]
      exact .refl _
  · rw [h.base, h.committed, hs.current]
  · rw [h.committed]
    exact hs.committed.mono h.seq

theorem Aside.travels {C : Nat → Cause → Prop} (hs : Serial s) (h : Aside s s') : Travels C s s' := by
  refine ⟨fun j => ?_, ⟨?_, hs.view.aside h, ?_⟩, h.seq⟩
  · rw [h.life]
    exact .refl _
  · rw [h.base, h.committed, hs.current]
  · rw [h.committed]
    exact hs.committed.mono h.seq

theorem Added.travels {db : Db} (hs : Serial s) (hdb : s.view = db) (h : Added tenantId i db s'.view) (hi : s.seq ≤ i)
    (hseq : i < s'.seq) (hcurrent : s'.base = s'.committed) (hcommitted : Filed s'.seq s'.committed) :
    Travels (fun j c => j = i ∧ c = .create) s s' := by
  subst hdb
  refine ⟨fun j => ?_, ⟨hcurrent, h.filed hs.view hi hseq, hcommitted⟩, hi.trans hseq.le⟩
  by_cases hj : j = i
  · subst hj
    exact h.path hs.view hi ⟨rfl, rfl⟩
  · rw [h.others hj]
    exact .refl _

/-- A session's copy with an instance that was committed behind its back. -/
theorem Added.merge {seq : Nat} {base view committed : Db} (hbase : Filed seq base) (hview : Filed seq view) (hi : seq ≤ i)
    (h : Added tenantId i base committed) : Added tenantId i view (Db.merge base view committed) := by
  obtain ⟨row, hrow, hid, htenant, hphase⟩ := h.instances
  refine ⟨⟨row, ?_, hid, htenant, hphase⟩, ?_, ?_⟩
  · unfold Db.merge
    dsimp only
    rw [hrow]
    refine mergeTable_append ?_ ?_ ?_
    · simp [ProcessInstance.merge, pick_base]
    · intro p hp
      have := hbase.instance_lt p hp
      omega
    · intro p hp
      have := hview.instance_lt p hp
      omega
  · unfold Db.merge
    dsimp only
    rw [h.items]
    exact mergeTable_current (by simp [WorkItem.merge, pick_base])
  · unfold Db.merge
    dsimp only
    rw [h.events]
    exact mergeTable_current (by simp [ProcessInstanceEvent.merge, pick_base])

/-! ## The baseline -/

theorem prepareCommittedProcessInstance_ok {definitionId : Nat} {modelIdentifier : String} {args : StartArgs}
    {prepared : Option (Nat × String)}
    (h : (prepareCommittedProcessInstance env tenantId definitionId modelIdentifier args).run s = (.ok prepared, s')) :
    prepared = none ∧ s' = s ∨
      ∃ definition result, prepared = some result ∧ s.view.tenantDefinition? tenantId definitionId = some definition ∧
        (prepareProcessInstanceInSession env tenantId definition modelIdentifier args).run s = (.ok result, s') := by
  unfold prepareCommittedProcessInstance at h
  obtain ⟨found, s₁, hfound, h₁⟩ := Prog.bind_ok.1 h
  have hsame : s₁ = s ∧ ∀ definition, found = some definition →
      s.view.tenantDefinition? tenantId definitionId = some definition := by
    rw [Prog.attempt_run] at hfound
    split at hfound
    · rename_i a s₂ hlook
      obtain ⟨definition, s₃, hload, h₂⟩ := Prog.bind_ok.1 hlook
      unfold loadProcessDefinition query at hload
      simp only [Prog.gets_bind_run, Prog.orRaise_ok] at hload
      obtain ⟨hload, rfl⟩ := hload
      obtain ⟨_, s₄, hmember, h₃⟩ := Prog.bind_ok.1 h₂
      obtain rfl := (ensureUserBelongsToTenant_readOnly _ _).state hmember
      obtain ⟨rfl, rfl⟩ := Prog.pure_ok.1 h₃
      simp only [Prod.mk.injEq, Except.ok.injEq] at hfound
      obtain ⟨rfl, rfl⟩ := hfound
      refine ⟨rfl, ?_⟩
      rintro definition' heq
      rw [← heq]
      exact hload
    · rename_i e s₂ hlook
      have hs₂ : s₂ = s := by
        rcases Prog.bind_error.1 hlook with hload | ⟨definition, s₃, hload, h₂⟩
        · unfold loadProcessDefinition query at hload
          simp only [Prog.gets_bind_run] at hload
          exact Prog.ReadOnly.state (Prog.keeps_orRaise Prog.frame_eq _ _) hload
        · unfold loadProcessDefinition query at hload
          simp only [Prog.gets_bind_run, Prog.orRaise_ok] at hload
          obtain ⟨-, rfl⟩ := hload
          rcases Prog.bind_error.1 h₂ with hmember | ⟨_, s₄, hmember, h₃⟩
          · exact (ensureUserBelongsToTenant_readOnly _ _).state hmember
          · simp at h₃
      cases e with
      | notFound message =>
        obtain ⟨rfl, rfl⟩ := Prog.pure_ok.1 hfound
        exact ⟨hs₂, by simp⟩
      | _ => simp at hfound
  obtain ⟨rfl, hdefinition⟩ := hsame
  cases found with
  | none =>
    obtain ⟨rfl, rfl⟩ := Prog.pure_ok.1 h₁
    exact .inl ⟨rfl, rfl⟩
  | some definition =>
    obtain ⟨result, s₂, hprepare, h₂⟩ := Prog.bind_ok.1 h₁
    obtain ⟨rfl, rfl⟩ := Prog.pure_ok.1 h₂
    exact .inr ⟨definition, result, rfl, hdefinition definition rfl, hprepare⟩

/-- The baseline finds nothing to prepare with, or commits an instance that the
session then sees. -/
theorem prepareProcessInstanceBaseline_ok (hs : Serial s) {definition : BpmnProcessDefinition} {modelIdentifier : String}
    {args : StartArgs} {prepared : Option (Nat × String)}
    (h : (prepareProcessInstanceBaseline env tenantId definition modelIdentifier args).run s = (.ok prepared, s')) :
    prepared = none ∧ s' = s ∨ ∃ result, prepared = some result ∧ s.seq ≤ result.1 ∧
      Added tenantId result.1 s.view s'.view ∧ Travels (fun j c => j = result.1 ∧ c = .create) s s' := by
  unfold prepareProcessInstanceBaseline at h
  rcases hrun : (prepareCommittedProcessInstance env tenantId definition.id modelIdentifier args).run s.fork with ⟨e | a, s₁⟩
  · rw [Prog.bind_run_ok (independently_error hrun)] at h
    simp at h
  · rw [Prog.bind_run_ok (independently_ok hrun)] at h
    simp only [refresh, Prog.modify_bind_run, Prog.pure_run, Prod.mk.injEq, Except.ok.injEq] at h
    obtain ⟨rfl, rfl⟩ := h
    rcases prepareCommittedProcessInstance_ok hrun with ⟨rfl, rfl⟩ | ⟨committed, result, rfl, -, hprepare⟩
    · refine .inl ⟨rfl, ?_⟩
      obtain ⟨seq, base, view, committed, world⟩ := s
      obtain rfl : base = committed := hs.current
      simp only [Tx.fork]
      rw [Db.merge_current]
    · obtain ⟨hid, hadded, hseq, -, -⟩ := prepareProcessInstanceInSession_added (s := s.fork) hs.committed hprepare
      have hfresh : s.seq ≤ result.1 := by
        rw [hid]
        exact Nat.le_succ _
      have hlt : result.1 < s₁.seq := by
        rw [hid]
        exact Nat.lt_of_succ_le hseq
      have hmerged : Added tenantId result.1 s.view (Db.merge s.base s.view s₁.view) := by
        refine Added.merge (by rw [hs.current]; exact hs.committed) hs.view hfresh ?_
        rw [hs.current]
        exact hadded
      refine .inr ⟨result, rfl, hfresh, hmerged, hmerged.travels hs rfl hfresh hlt rfl ?_⟩
      exact hadded.filed hs.committed hfresh hlt

/-- A start has its instance: a new one, which has not started. -/
theorem prepareProcessInstance_travels (hs : Serial s) {definition : BpmnProcessDefinition} {modelIdentifier : String}
    {args : StartArgs} {selected : String}
    (h : (prepareProcessInstance env tenantId definition modelIdentifier args).run s = (.ok (pi, selected), s')) :
    Travels (fun j c => j = pi.id ∧ c = .create) s s' ∧ pi ∈ s'.view.processInstances ∧ pi.m8fTenantId = tenantId ∧
      s.seq ≤ pi.id ∧ pi.phase = ⟨.notStarted, none⟩ := by
  unfold prepareProcessInstance at h
  obtain ⟨baseline, s₁, hbaseline, h₁⟩ := Prog.bind_ok.1 h
  have hadded : ∃ i s₂, s.seq ≤ i ∧ Added tenantId i s.view s₂.view ∧ Travels (fun j c => j = i ∧ c = .create) s s₂ ∧
      (do
        let pi ← loadProcessInstance tenantId i
        pure (pi, selected) : M Ω (ProcessInstance × String)).run s₂ = (.ok (pi, selected), s') := by
    rcases prepareProcessInstanceBaseline_ok hs hbaseline with ⟨rfl, rfl⟩ | ⟨result, rfl, hfresh, hadded, htravels⟩
    · obtain ⟨result, s₂, hprepare, h₂⟩ := Prog.bind_ok.1 h₁
      obtain ⟨hid, hadded, hseq, hbase, hcommitted⟩ := prepareProcessInstanceInSession_added hs.view hprepare
      have hsel : selected = result.2 := by
        obtain ⟨_, s₃, -, h₃⟩ := Prog.bind_ok.1 h₂
        exact (congrArg Prod.snd (Prog.pure_ok.1 h₃).1).symm
      refine ⟨result.1, s₂, by omega, hadded, hadded.travels hs rfl (by omega) (by omega) ?_ ?_, hsel ▸ h₂⟩
      · rw [hbase, hcommitted, hs.current]
      · rw [hcommitted]
        exact hs.committed.mono (by omega)
    · dsimp only [Prog.pure_bind] at h₁
      have hsel : selected = result.2 := by
        obtain ⟨_, s₃, -, h₃⟩ := Prog.bind_ok.1 h₁
        exact (congrArg Prod.snd (Prog.pure_ok.1 h₃).1).symm
      exact ⟨result.1, s₁, hfresh, hadded, htravels, hsel ▸ h₁⟩
  obtain ⟨i, s₂, hfresh, hadded, htravels, h₂⟩ := hadded
  obtain ⟨pi', s₃, hload, h₃⟩ := Prog.bind_ok.1 h₂
  obtain ⟨hpair, rfl⟩ := Prog.pure_ok.1 h₃
  obtain rfl : pi' = pi := congrArg Prod.fst hpair
  obtain ⟨rfl, hpi, htenant, rfl⟩ := loadProcessInstance_ok hload
  refine ⟨htravels, hpi, htenant, hfresh, ?_⟩
  have hlife := (hadded.life hs.view hfresh).2
  rw [life_of_mem htravels.serial.view hpi, Option.some.injEq] at hlife
  exact congrArg Life.phase hlife

/-! ## Running the new instance -/

theorem buildInstanceWorkflow_aside (env : Env W Ω) (tenantId : TenantId) (pi : ProcessInstance) (request : BuildRequest)
    (occurredAt : Time) : (buildInstanceWorkflow env tenantId pi request occurredAt).Keeps Aside := by
  have hbuild : Touches (Change env pi.focus) [.world, .seq, .shared]
      (buildInstanceWorkflow env tenantId pi request occurredAt) := buildInstanceWorkflow_touches _ _ _ _ (List.Subset.refl _)
  exact fun s => aside_of_steps (by decide) (hbuild s)

theorem world_aside (s : Tx Ω) (ω : Ω) : Aside s { s with world := ω } := ⟨rfl, rfl, rfl, rfl, rfl, le_refl _⟩

theorem ask_aside {α : Type} (f : Ω → α × Ω) : (ask f).Keeps Aside := fun s => world_aside s _

theorem runWorkflow_aside {w' : W} {occurredAt : Time} {autonomous : Bool}
    (h : (runWorkflowWithServiceTaskFailureHandling env tenantId pi w occurredAt autonomous).run s = (.ok w', s')) :
    Aside s s' := by
  rw [(runWorkflow_ok h).2]
  exact world_aside s _

theorem Moved.after_aside {C : Cause → Prop} {s₁ : Tx Ω} (ha : Aside s s₁) (h : Moved C i s₁ s') : Moved C i s s' := by
  refine ⟨?_, fun j hj => (h.others j hj).trans (ha.life j), h.base.trans ha.base, h.committed.trans ha.committed, h.filed,
    ha.seq.trans h.seq⟩
  rw [← ha.life]
  exact h.path

/-- The last step of a start: the workflow saved, and the start recorded. -/
theorem finalizeInitializedWorkflow_moved (hlaw : env.Lawful) (hfiled : Filed s.seq s.view)
    (hpi : pi ∈ s.view.processInstances) (hopen : pi.hasTerminalStatus = false) {occurredAt : Time}
    (h : (finalizeInitializedWorkflow env tenantId pi w occurredAt).run s = (.ok (), s')) :
    Moved (· = .start) pi.id s s' := by
  unfold finalizeInitializedWorkflow at h
  obtain ⟨_, s₁, hsave, h₁⟩ := Prog.bind_ok.1 h
  simp only [query, Prog.gets_bind_run] at h₁
  have hsaved := saveWorkflow_moved hlaw (c := .start) (by simp) hfiled hpi hopen (ω := s.world) hsave
  refine hsaved.trans ((recordProcessInstanceEvent_within env hsaved.filed h₁).moved ?_)
  rw [recordProcessInstanceEvent_life h₁, if_neg (by decide)]
  exact .refl _

theorem initializeProcessInstanceWorkflow_moved (hlaw : env.Lawful) (hfiled : Filed s.seq s.view) {processInstanceId : Nat}
    {source : WorkflowSource} {startedAt : Option Time}
    (h : (initializeProcessInstanceWorkflow env tenantId processInstanceId source startedAt).run s = (.ok (), s')) :
    Moved (· = .start) processInstanceId s s' := by
  unfold initializeProcessInstanceWorkflow at h
  obtain ⟨pi, s₁, hload, h₁⟩ := Prog.bind_ok.1 h
  obtain ⟨rfl, hpi, -, rfl⟩ := loadProcessInstance_ok hload
  split at h₁
  · simp at h₁
  · rename_i hopen
    simp only [query, resolveTimestamp, Prog.gets_bind_run] at h₁
    split at h₁
    · simp at h₁
    · simp only [Prog.gets_bind_run] at h₁
      obtain ⟨w, s₂, hbuild, h₂⟩ := Prog.bind_ok.1 h₁
      obtain ⟨w', s₃, hrun, hfinal⟩ := Prog.bind_ok.1 h₂
      have haside := frame_aside.trans ((buildInstanceWorkflow_aside env _ _ _ _).of_ok hbuild) (runWorkflow_aside hrun)
      refine .after_aside haside ?_
      refine finalizeInitializedWorkflow_moved hlaw (hfiled.aside haside) ?_ (by simpa using hopen) hfinal
      rw [haside.instances]
      exact hpi

/-- What a start from a definition may do to an instance. -/
theorem initializeProcessInstanceFromDefinition_travels (hlaw : env.Lawful) (hs : Serial s) {definitionId : Nat}
    {args : StartArgs} {resolver : Bool}
    (h : (initializeProcessInstanceFromDefinition env tenantId definitionId args resolver).run s = (.ok (), s')) :
    Travels (fun _ c => c = .create ∨ c = .start) s s' := by
  unfold initializeProcessInstanceFromDefinition at h
  obtain ⟨_, s₁, hmember, h₁⟩ := Prog.bind_ok.1 h
  obtain rfl := (ensureUserBelongsToTenant_readOnly _ _).state hmember
  obtain ⟨definition, s₂, hload, h₂⟩ := Prog.bind_ok.1 h₁
  obtain rfl := (loadProcessDefinition_readOnly _ _).state hload
  obtain ⟨_, s₃, hallowed, h₃⟩ := Prog.bind_ok.1 h₂
  obtain rfl := (requireCommandAuthorization_readOnly _ _ _ _ _ _ _).state hallowed
  obtain ⟨⟨pi, selected⟩, s₄, hprepare, h₄⟩ := Prog.bind_ok.1 h₃
  obtain ⟨htravels, -⟩ := prepareProcessInstance_travels hs hprepare
  have hstart := (initializeProcessInstanceWorkflow_moved hlaw htravels.serial.view h₄).travels htravels.serial
  exact (htravels.mono fun _ _ h => .inl h.2).trans (hstart.mono fun _ _ h => .inr h.2)

theorem initializeProcessInstanceFromTimerStart_travels (hlaw : env.Lawful) (hs : Serial s) {definitionId userId : Nat}
    {specName : String} {startedAt : Option Time}
    (h : (initializeProcessInstanceFromTimerStart env tenantId definitionId userId specName startedAt).run s = (.ok (), s')) :
    Travels (fun _ c => c = .create ∨ c = .start) s s' := by
  unfold initializeProcessInstanceFromTimerStart at h
  obtain ⟨_, s₁, hmember, h₁⟩ := Prog.bind_ok.1 h
  obtain rfl := (ensureUserBelongsToTenant_readOnly _ _).state hmember
  obtain ⟨definition, s₂, hload, h₂⟩ := Prog.bind_ok.1 h₁
  obtain rfl := (loadProcessDefinition_readOnly _ _).state hload
  obtain ⟨⟨pi, selected⟩, s₃, hprepare, h₃⟩ := Prog.bind_ok.1 h₂
  obtain ⟨htravels, hpi, -, -, hphase⟩ := prepareProcessInstance_travels hs hprepare
  simp only [resolveTimestamp, Prog.gets_bind_run] at h₃
  obtain ⟨w, s₄, hbuild, h₄⟩ := Prog.bind_ok.1 h₃
  obtain ⟨w₁, s₅, hrun, h₅⟩ := Prog.bind_ok.1 h₄
  obtain ⟨forced, s₆, hforced, h₆⟩ := Prog.bind_ok.1 h₅
  obtain ⟨-, rfl⟩ := ofExcept_ok hforced
  have hrefresh : ∃ w₂ s₇, Aside s₆ s₇ ∧
      (finalizeInitializedWorkflow env tenantId pi w₂ (startedAt.getD (env.now s₃.world))).run s₇ = (.ok (), s') := by
    cases forced with
    | none => exact ⟨w₁, s₆, frame_aside.refl _, h₆⟩
    | some w₃ =>
      obtain ⟨refreshed, s₈, hask, h₈⟩ := Prog.bind_ok.1 h₆
      obtain ⟨w₄, s₉, hraised, h₉⟩ := Prog.bind_ok.1 h₈
      obtain ⟨-, rfl⟩ := orRaised_ok hraised
      have hasked := (ask_aside _).of_ok hask
      split at h₉
      · obtain ⟨w₅, s₁₀, hrerun, hfinal⟩ := Prog.bind_ok.1 h₉
        exact ⟨w₅, s₁₀, frame_aside.trans hasked (runWorkflow_aside hrerun), hfinal⟩
      · exact ⟨w₄, _, hasked, h₉⟩
  obtain ⟨w₂, s₇, hrefresh, hfinal⟩ := hrefresh
  have haside := frame_aside.trans (frame_aside.trans ((buildInstanceWorkflow_aside env _ _ _ _).of_ok hbuild)
    (runWorkflow_aside hrun)) hrefresh
  have hopen : pi.hasTerminalStatus = false := by
    have hstatus : pi.status = .notStarted := congrArg Phase.status hphase
    simp [ProcessInstance.hasTerminalStatus, hstatus]
  have hpi₇ : pi ∈ s₇.view.processInstances := by
    rw [haside.instances]
    exact hpi
  have hstart := (Moved.after_aside haside (finalizeInitializedWorkflow_moved hlaw (htravels.serial.view.aside haside) hpi₇
    hopen hfinal)).travels htravels.serial
  exact (htravels.mono fun _ _ h => .inl h.2).trans (hstart.mono fun _ _ h => .inr h.2)

end
end M8flowCore
