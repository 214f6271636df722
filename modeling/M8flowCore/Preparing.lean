import M8flowCore.Returns
/-!
# Preparing an instance

A start inserts the rows of its instance before it builds the workflow: a
runtime process, the instance and what the instance takes over from its
definition. It does so in a session of its own when the committed database has
what it needs, and in the caller's session otherwise.
-/
open M8flowCore.Lib M8flowCore.Session

namespace M8flowCore

section
variable {W Ω α : Type} {env : Env W Ω} {F : Focus} {L : List Touch}

theorem frame_committed : Prog.Frame fun s s' : Tx Ω => s'.base = s.base ∧ s'.committed = s.committed :=
  ⟨fun _ => ⟨rfl, rfl⟩, fun h₁ h₂ => ⟨h₂.1.trans h₁.1, h₂.2.trans h₁.2⟩⟩

theorem committed_of_steps {s s' : Tx Ω} (h : Steps (Change env F) L s s') :
    s'.base = s.base ∧ s'.committed = s.committed :=
  h.keeps frame_committed fun _ _ _ _ hc => hc.committed

/-- The session after the two rows of a new instance are inserted. -/
def preparedTx (env : Env W Ω) (tenantId : TenantId) (definition : BpmnProcessDefinition) (modelIdentifier : String)
    (args : StartArgs) (selected : String) (data : Dict) (s : Tx Ω) : Tx Ω :=
  { s with
    seq := s.seq + 2
    view := { s.view.putJsonData tenantId (env.payloadDigest data) data with
      bpmnProcesses := s.view.bpmnProcesses ++
        [newProcessRow tenantId definition.id selected (env.payloadDigest data) s.seq]
      processInstances := s.view.processInstances ++
        [(args.newInstance definition modelIdentifier s.seq).row tenantId (s.seq + 1)
          (args.startedAt.getD (env.now s.world))] } }

theorem ensureBpmnVersionSnapshot_touches (tenantId : TenantId) (modelIdentifier bpmnXml : String) (occurredAt : Time)
    (hL : [Touch.seq, .shared] ⊆ L) :
    Touches (Change env F) L (ensureBpmnVersionSnapshot env tenantId modelIdentifier bpmnXml occurredAt) := by
  refine .bind (query_touches _) fun found => ?_
  cases found with
  | none => exact insert_shared hL fun _ _ => ⟨rfl, rfl, rfl, rfl, rfl, rfl, rfl⟩
  | some version => exact .pure _

theorem stampProcessInstance_touches (tenantId : TenantId) (definition : BpmnProcessDefinition)
    (modelIdentifier bpmnXml : String) (args : StartArgs) {instanceId : Nat} (hF : instanceId = F.instanceId)
    (hL : [Touch.seq, .shared, .details] ⊆ L) :
    Touches (Change env F) L (stampProcessInstance env tenantId definition modelIdentifier bpmnXml args instanceId) := by
  refine .bind (resolveTimestamp_touches _) fun timestamp => ?_
  refine .bind (ensureBpmnVersionSnapshot_touches _ _ _ _ (List.Subset.trans (by decide) hL)) fun versionId => ?_
  refine .bind (updateInstance_touches hF (List.Subset.trans (by decide) hL) fun _ => ⟨rfl, rfl⟩) fun _ => ?_
  exact .forEach fun kv _ => upsertProcessInstanceMetadata_touches _ _ _ _ _ _ (List.Subset.trans (by decide) hL)

/-- An instance of the tenant is there. -/
def HasInstance (tenantId : TenantId) (id : Nat) (s : Tx Ω) : Prop :=
  ∃ p ∈ s.view.processInstances, p.m8fTenantId = tenantId ∧ p.id = id

theorem HasInstance.change {tenantId : TenantId} {id : Nat} {l : Touch} {s s' : Tx Ω} (hc : Change env F l s s')
    (h : HasInstance tenantId id s) : HasInstance tenantId id s' := by
  have hupdate : ∀ (f : ProcessInstance → ProcessInstance), (∀ p, (f p).identity = p.identity) →
      ∃ p ∈ updateWhere (fun p => p.id == F.instanceId) f s.view.processInstances, p.m8fTenantId = tenantId ∧ p.id = id := by
    intro f hf
    obtain ⟨p, hp, htenant, hid⟩ := h
    refine ⟨_, mem_updateWhere.2 ⟨p, hp, rfl⟩, ?_⟩
    have hkey := hf p
    simp only [ProcessInstance.identity, InstanceIdentity.mk.injEq] at hkey
    split
    · exact ⟨hkey.2.1.trans htenant, hkey.1.trans hid⟩
    · exact ⟨htenant, hid⟩
  cases hc with
  | shared hdb =>
    unfold HasInstance
    rw [hdb.processInstances]
    exact h
  | details _ f hf => exact hupdate f fun p => (hf p).1
  | status _ f hf => exact hupdate f hf
  | newInstance _ row hid hF =>
    obtain ⟨p, hp, hkey⟩ := h
    exact ⟨p, by simp [hp], hkey⟩
  | _ => exact h

theorem loadProcessInstance_returns {tenantId : TenantId} {id : Nat} {s : Tx Ω} (h : HasInstance tenantId id s) :
    ∃ p, (loadProcessInstance tenantId id).run s = (.ok p, s) ∧ p ∈ s.view.processInstances ∧
      p.m8fTenantId = tenantId ∧ p.id = id := by
  obtain ⟨p, hp, htenant, hid⟩ := h
  have hfound : (s.view.processInstances.find? fun p => p.m8fTenantId == tenantId && p.id == id).isSome := by
    rw [List.find?_isSome]
    exact ⟨p, hp, by simp [htenant, hid]⟩
  obtain ⟨q, hq⟩ := Option.isSome_iff_exists.1 hfound
  have hkey := List.find?_some hq
  simp only [Bool.and_eq_true, beq_iff_eq] at hkey
  refine ⟨q, ?_, List.mem_of_find?_eq_some hq, hkey⟩
  unfold loadProcessInstance query
  simp [hq]

theorem upsertProcessInstanceMetadata_returns {tenantId : TenantId} {id : Nat} (key value : String) (updatedAt : Time)
    (createdAt : Option Time) :
    Prog.Returns (HasInstance tenantId id)
      (upsertProcessInstanceMetadata (Ω := Ω) tenantId id key value updatedAt createdAt) fun _ => HasInstance tenantId id := by
  intro s hs
  obtain ⟨p, hload, -⟩ := loadProcessInstance_returns hs
  unfold upsertProcessInstanceMetadata query
  rw [Prog.bind_run_ok hload]
  simp only [Prog.gets_bind_run]
  split
  · exact ⟨(), _, rfl, hs⟩
  · exact ⟨(), _, rfl, hs⟩

theorem stampProcessInstance_returns (tenantId : TenantId) (definition : BpmnProcessDefinition)
    (modelIdentifier bpmnXml : String) (args : StartArgs) (instanceId : Nat) :
    Prog.Returns (HasInstance tenantId instanceId)
      (stampProcessInstance env tenantId definition modelIdentifier bpmnXml args instanceId)
      fun _ => HasInstance tenantId instanceId := by
  have hsame : ∀ {α : Type} {m : M Ω α}, Touches (Change env ⟨tenantId, instanceId, none, fun _ => True⟩) [.seq, .shared, .details] m →
      (∀ s, ∃ a s', m.run s = (.ok a, s')) →
      Prog.Returns (HasInstance tenantId instanceId) m fun _ => HasInstance tenantId instanceId := by
    intro α m htouches hreturns s hs
    obtain ⟨a, s', hm⟩ := hreturns s
    exact ⟨a, s', hm, (htouches.steps hm).inv (fun _ _ _ _ hc => HasInstance.change hc) hs⟩
  refine Prog.returns_bind (hsame (resolveTimestamp_touches _) fun s => ⟨_, s, rfl⟩) fun timestamp => ?_
  refine Prog.returns_bind (hsame (ensureBpmnVersionSnapshot_touches _ _ _ _ (by decide)) fun s => ?_) fun versionId => ?_
  · unfold ensureBpmnVersionSnapshot query
    simp only [Prog.gets_bind_run]
    split
    · exact ⟨_, s, rfl⟩
    · exact ⟨s.seq, _, rfl⟩
  refine Prog.returns_bind (hsame (updateInstance_touches rfl (by decide) fun _ => ⟨rfl, rfl⟩) fun s => ⟨(), _, rfl⟩) fun _ => ?_
  exact Prog.returns_forEach fun kv _ => upsertProcessInstanceMetadata_returns _ _ _ _

/-- A member's start of a process that can be selected prepares its instance. -/
theorem prepareProcessInstanceInSession_run {tenantId : TenantId} {definition : BpmnProcessDefinition}
    (modelIdentifier : String) {args : StartArgs} {bpmnXml selected : String} {data : Dict} {s : Tx Ω}
    (hxml : definition.sourceBpmnXml = some bpmnXml)
    (hselected : selectProcessIdentifier env bpmnXml args.bpmnProcessId = .ok selected)
    (hdata : env.normalizedPayload (newProcessPayload definition.id selected) = .ok data)
    (hmember : s.view.isMember tenantId args.processInitiatorId = true) (hF : F.instanceId = s.seq + 1) :
    ∃ s', (prepareProcessInstanceInSession env tenantId definition modelIdentifier args).run s =
        (.ok (s.seq + 1, selected), s') ∧
      Steps (Change env F) [.seq, .shared, .details]
        (preparedTx env tenantId definition modelIdentifier args selected data s) s' := by
  unfold prepareProcessInstanceInSession
  rw [hxml]
  simp only [Prog.orRaise_some, Prog.pure_bind, hselected, ofExcept]
  rw [Prog.bind_run_ok (resolveOrCreateBpmnProcess_run env hdata)]
  rw [Prog.bind_run_ok (createProcessInstance_run env hmember)]
  obtain ⟨_, s', hstamp, -⟩ := stampProcessInstance_returns tenantId definition modelIdentifier bpmnXml args (s.seq + 1)
    (preparedTx env tenantId definition modelIdentifier args selected data s)
    ⟨_, List.mem_append_right _ (List.mem_singleton_self _), rfl, rfl⟩
  have hsteps := (stampProcessInstance_touches tenantId definition modelIdentifier bpmnXml args hF.symm
    (List.Subset.refl _)).steps hstamp
  exact ⟨s', Prog.bind_run_ok hstamp, hsteps⟩

/-- A process of the definition can be selected and its first payload stored. -/
def Selectable (env : Env W Ω) (definition : BpmnProcessDefinition) (bpmnProcessId : Option String) : Prop :=
  ∃ bpmnXml selected data, definition.sourceBpmnXml = some bpmnXml ∧
    selectProcessIdentifier env bpmnXml bpmnProcessId = .ok selected ∧
    env.normalizedPayload (newProcessPayload definition.id selected) = .ok data

theorem ofExcept_readOnly (r : Except Error α) : (ofExcept (Ω := Ω) r).ReadOnly := by
  cases r <;> exact fun _ => rfl

theorem orRaised_readOnly (r : Option Error × W) : (orRaised (Ω := Ω) r).ReadOnly := by
  unfold orRaised
  cases r.1 <;> exact fun _ => rfl

/-- Only such a process is prepared. -/
theorem selectable_of_prepared {tenantId : TenantId} {definition : BpmnProcessDefinition} {modelIdentifier : String}
    {args : StartArgs} {result : Nat × String} {s s' : Tx Ω}
    (h : (prepareProcessInstanceInSession env tenantId definition modelIdentifier args).run s = (.ok result, s')) :
    Selectable env definition args.bpmnProcessId := by
  unfold prepareProcessInstanceInSession at h
  obtain ⟨bpmnXml, s₁, hxml, h₁⟩ := Prog.bind_ok.1 h
  obtain ⟨hxml, -⟩ := Prog.orRaise_ok.1 hxml
  obtain ⟨selected, s₂, hselected, h₂⟩ := Prog.bind_ok.1 h₁
  obtain ⟨hselected, -⟩ := ofExcept_ok hselected
  obtain ⟨processId, s₃, hprocess, -⟩ := Prog.bind_ok.1 h₂
  unfold resolveOrCreateBpmnProcess createOrUpdateFromPayload Env.hashPayload at hprocess
  cases hdata : env.normalizedPayload (newProcessPayload definition.id selected) with
  | error e => simp [hdata, Except.map, ofExcept] at hprocess
  | ok data => exact ⟨bpmnXml, selected, data, hxml, hselected, hdata⟩

/-- What a start needs of the committed database to prepare its instance there:
the definition, with a process it can select, and the initiator as a member. -/
def Preparable (env : Env W Ω) (db : Db) (tenantId : TenantId) (definitionId : Nat) (args : StartArgs) : Prop :=
  ∃ definition, db.tenantDefinition? tenantId definitionId = some definition ∧
    db.isMember tenantId args.processInitiatorId = true ∧ Selectable env definition args.bpmnProcessId

/-- The number of instances, which only a new one changes. -/
theorem Change.instances {l : Touch} (hl : l ≠ .newInstance) {s s' : Tx Ω} (h : Change env F l s s') :
    s'.view.processInstances.length = s.view.processInstances.length := by
  cases h with
  | shared hdb => exact congrArg List.length hdb.processInstances
  | details _ f hf => exact List.length_map _
  | status _ f hf => exact List.length_map _
  | newInstance => exact absurd rfl hl
  | _ => rfl

theorem frame_instances :
    Prog.Frame fun s s' : Tx Ω => s'.view.processInstances.length = s.view.processInstances.length :=
  ⟨fun _ => rfl, fun h₁ h₂ => h₂.trans h₁⟩

/-- How the baseline session ends: it raises, it finds something missing, or it
has prepared an instance. -/
theorem prepareCommittedProcessInstance_cases (env : Env W Ω) (tenantId : TenantId) (definitionId : Nat)
    (modelIdentifier : String) (args : StartArgs) (s : Tx Ω) :
    (∃ e s', (prepareCommittedProcessInstance env tenantId definitionId modelIdentifier args).run s = (.error e, s') ∧
      ¬ Preparable env s.view tenantId definitionId args) ∨
    ((prepareCommittedProcessInstance env tenantId definitionId modelIdentifier args).run s = (.ok none, s) ∧
      ¬ Preparable env s.view tenantId definitionId args) ∨
    ∃ selected s', (prepareCommittedProcessInstance env tenantId definitionId modelIdentifier args).run s =
        (.ok (some (s.seq + 1, selected)), s') ∧ Preparable env s.view tenantId definitionId args ∧
      s'.view.processInstances.length = s.view.processInstances.length + 1 := by
  unfold prepareCommittedProcessInstance loadProcessDefinition
  simp only [Prog.bind_run, Prog.attempt_run, query, Prog.gets_run]
  cases hdef : s.view.tenantDefinition? tenantId definitionId with
  | none =>
    refine .inr (.inl ⟨by simp, ?_⟩)
    rintro ⟨definition, hfound, -⟩
    simp [hdef] at hfound
  | some definition =>
    simp only [Prog.orRaise_some, Prog.pure_run]
    by_cases hmember : s.view.isMember tenantId args.processInitiatorId = true
    · obtain ⟨user, huser⟩ := user_of_isMember hmember
      rw [ensureUserBelongsToTenant_ok.2 ⟨huser, hmember, rfl⟩]
      simp only [Prog.pure_run, Prog.bind_run]
      by_cases hselectable : Selectable env definition args.bpmnProcessId
      · refine .inr (.inr ?_)
        obtain ⟨bpmnXml, selected, data, hxml, hselected, hdata⟩ := hselectable
        obtain ⟨s', hrun, hsteps⟩ := prepareProcessInstanceInSession_run (F := ⟨tenantId, s.seq + 1, none, fun _ => True⟩)
          modelIdentifier hxml hselected hdata hmember rfl
        refine ⟨selected, s', by rw [hrun], ⟨definition, hdef, hmember, bpmnXml, selected, data, hxml, hselected, hdata⟩, ?_⟩
        rw [hsteps.keeps frame_instances fun l hl _ _ hc => hc.instances (by rintro rfl; simp at hl)]
        simp [preparedTx]
      · refine .inl ?_
        rcases hrun : (prepareProcessInstanceInSession env tenantId definition modelIdentifier args).run s with ⟨e | result, s'⟩
        · refine ⟨e, s', rfl, ?_⟩
          rintro ⟨definition', hfound, -, h⟩
          rw [hdef, Option.some.injEq] at hfound
          exact hselectable (hfound ▸ h)
        · exact absurd (selectable_of_prepared hrun) hselectable
    · have hnot : ¬ Preparable env s.view tenantId definitionId args := by
        rintro ⟨_, _, h, _⟩
        exact hmember h
      cases huser : s.view.user? args.processInitiatorId with
      | none =>
        rw [ensureUserBelongsToTenant_of_none huser]
        exact .inr (.inl ⟨rfl, hnot⟩)
      | some user =>
        rcases hrun : (ensureUserBelongsToTenant tenantId args.processInitiatorId).run s with ⟨e | u, s'⟩
        · obtain ⟨message, rfl⟩ := ensureUserBelongsToTenant_error (by rw [huser]; rfl) hrun
          exact .inl ⟨_, s', rfl, hnot⟩
        · exact absurd (ensureUserBelongsToTenant_ok.1 hrun).2.1 hmember

end
end M8flowCore
