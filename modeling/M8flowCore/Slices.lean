import M8flowCore.Ownership
/-!
# An instance's slice of the database

What an operation on one instance leaves alone: the row, the snapshot, the
tasks, the items, the events and the jobs of every other instance.
-/
open M8flowCore.Lib M8flowCore.Session

namespace M8flowCore

section
variable {W Ω : Type} {env : Env W Ω} {owner : Guid → Nat} {F : Focus} {l : Touch} {L : List Touch} {s s' : Tx Ω}

/-! ## One step at a time -/

theorem Sound.change (hlaw : env.Lawful) (hF : F.Fits owner s) (hc : Change env F l s s') (h : Sound env owner s) :
    Sound env owner s' := h.steps hlaw hF (Steps.one (L := [l]) (by simp) hc)

theorem Focus.Fits.change {F' : Focus} (hc : Change env F l s s') (h : F'.Fits owner s) : F'.Fits owner s' :=
  h.steps (Steps.one (L := [l]) (by simp) hc)

/-- An invariant along a footprint, where every session on the way is sound. -/
theorem Sound.along {P : Tx Ω → Prop} (hlaw : env.Lawful) (hF : F.Fits owner s) (h : Sound env owner s)
    (hsteps : Steps (Change env F) L s s')
    (hstep : ∀ l ∈ L, ∀ s₁ s₂, Change env F l s₁ s₂ → Sound env owner s₁ → F.Fits owner s₁ → P s₁ → P s₂) (hP : P s) :
    P s' := by
  have hall := hsteps.inv (P := fun s => Sound env owner s ∧ F.Fits owner s ∧ P s) ?_ ⟨h, hF, hP⟩
  · exact hall.2.2
  · rintro l hl s₁ s₂ hc ⟨h₁, hF₁, hP₁⟩
    exact ⟨h₁.change hlaw hF₁ hc, hF₁.change hc, hstep l hl s₁ s₂ hc h₁ hF₁ hP₁⟩

/-! ## The stored snapshot -/

/-- Storing a payload again shows in no snapshot. -/
theorem snapshotOf_putJsonData (hlaw : env.Lawful) {db : Db} {tenantId : TenantId} {data : Dict} {process : BpmnProcess}
    (hnormal : env.Normal data) (hhash : ∀ r ∈ db.jsonData, env.Digested r.hash r.data)
    (hhas : (db.jsonData? process.m8fTenantId process.jsonDataHash).isSome) :
    (db.putJsonData tenantId (env.payloadDigest data) data).snapshotOf process = db.snapshotOf process := by
  obtain ⟨row, hrow⟩ := Option.isSome_iff_exists.1 hhas
  unfold Db.snapshotOf
  rw [putJsonData_data hlaw hnormal hhash hrow, hrow]

/-- Only a new snapshot of the instance's own process changes its state. -/
theorem Change.workflowStateJson (hlaw : env.Lawful) {pi : ProcessInstance} (hc : Change env F l s s')
    (h : Sound env owner s) (hprocess : ∀ q, pi.bpmnProcessId = some q → (s.view.bpmnProcess? q).isSome)
    (hl : l = .snapshot → F.processId ≠ pi.bpmnProcessId) :
    s'.view.workflowStateJson pi = s.view.workflowStateJson pi := by
  cases hq : pi.bpmnProcessId with
  | none => simp [Db.workflowStateJson, hq]
  | some q =>
    obtain ⟨process, hrow⟩ := Option.isSome_iff_exists.1 (hprocess q hq)
    have hstate : ∀ db : Db, db.workflowStateJson pi = (db.bpmnProcess? q).bind db.snapshotOf := by
      intro db
      simp only [Db.workflowStateJson, hq, bind, Option.bind_some]
    rw [hstate, hstate]
    cases hc with
    | shared hdb =>
      unfold Db.bpmnProcess? Db.snapshotOf Db.jsonData?
      rw [hdb.bpmnProcesses, hdb.jsonData]
    | @json _ tenantId data hnormal =>
      have hhas := h.integral.stored.has_json s.view (by simp) process (List.mem_of_find?_eq_some hrow)
      have hsame : (s.view.putJsonData tenantId (env.payloadDigest data) data).bpmnProcess? q = some process := hrow
      rw [hsame, hrow, Option.bind_some, Option.bind_some]
      exact snapshotOf_putJsonData hlaw hnormal (h.integral.stored.json_hash s.view (by simp)) hhas
    | process _ hp f hf =>
      dsimp only
      rw [bpmnProcess?_updateBpmnProcess fun p => (hf p).1, hrow, Option.map_some, Option.bind_some, Option.bind_some]
      split
      · have htenant : (f process).m8fTenantId = process.m8fTenantId := congrArg ProcessIdentity.tenantId (hf process).1
        unfold Db.snapshotOf
        rw [htenant, (hf process).2]
        rfl
      · rfl
    | @snapshot _ processId hp properties data hnormal hjson hdata =>
      have hne : process.id ≠ processId := by
        have hid : process.id = q := by simpa using List.find?_some hrow
        rintro rfl
        exact hl rfl (by rw [hp, hq, hid])
      dsimp only
      rw [bpmnProcess?_updateBpmnProcess (by intro _; rfl), hrow, Option.map_some, if_neg (by simpa using hne)]
      rfl
    | newProcess _ row hid =>
      have hfound : (s.view.bpmnProcesses ++ [row]).find? (·.id == q) = some process := find?_append_of_some hrow _
      unfold Db.bpmnProcess? at hrow ⊢
      dsimp only
      rw [hfound, hrow]
      rfl
    | newInstance _ row =>
      have hfound : (s.view.bpmnProcesses ++ [row]).find? (·.id == q) = some process := find?_append_of_some hrow _
      unfold Db.bpmnProcess? at hrow ⊢
      dsimp only
      rw [hfound, hrow]
      rfl
    | _ => rfl

/-! ## The slice -/

/-- The two databases show the same of instance `j`. Lane groups of items are
not part of the picture. -/
structure SameSlice (owner : Guid → Nat) (j : Nat) (db db' : Db) : Prop where
  instances : db'.processInstances.filter (·.id == j) = db.processInstances.filter (·.id == j)
  state : ∀ p ∈ db.processInstances, p.id = j → db'.workflowStateJson p = db.workflowStateJson p
  tasks : ∀ g, owner g = j → db'.task? g = db.task? g
  items : (db'.workItems.filter (·.processInstanceId == j)).map (·.unlaned) =
    (db.workItems.filter (·.processInstanceId == j)).map (·.unlaned)
  events : db'.events.filter (·.processInstanceId == j) = db.events.filter (·.processInstanceId == j)
  jobs : ∀ p : SchedulerJob → Bool, (∀ job, p job = true → job.jobType ≠ .timerStart ∧ job.isOf j) →
    db'.schedulerJobs.filter p = db.schedulerJobs.filter p

theorem SameSlice.refl (owner : Guid → Nat) (j : Nat) (db : Db) : SameSlice owner j db db :=
  ⟨rfl, fun _ _ _ => rfl, fun _ _ => rfl, rfl, rfl, fun _ _ => rfl⟩

theorem SameSlice.trans {j : Nat} {db₁ db₂ db₃ : Db} (h₁ : SameSlice owner j db₁ db₂) (h₂ : SameSlice owner j db₂ db₃) :
    SameSlice owner j db₁ db₃ := by
  refine ⟨h₂.instances.trans h₁.instances, fun p hp hid => ?_, fun g hg => (h₂.tasks g hg).trans (h₁.tasks g hg),
    h₂.items.trans h₁.items, h₂.events.trans h₁.events, fun p hp => (h₂.jobs p hp).trans (h₁.jobs p hp)⟩
  have hmem : p ∈ db₂.processInstances := by
    have : p ∈ db₁.processInstances.filter (·.id == j) := List.mem_filter.2 ⟨hp, by simpa using hid⟩
    rw [← h₁.instances] at this
    exact (List.mem_filter.1 this).1
  exact (h₂.state p hmem hid).trans (h₁.state p hp hid)

/-- An update of rows that are not selected, and do not become so. -/
theorem filter_map_unlaned {p : WorkItem → Bool} {f : WorkItem → WorkItem} {items : List WorkItem} {j : Nat}
    (hp : ∀ w, p w = true → w.processInstanceId ≠ j) (hf : ∀ w, (f w).identity = w.identity) :
    (updateWhere p f items).filter (·.processInstanceId == j) = items.filter (·.processInstanceId == j) := by
  refine filter_updateWhere fun w _ hw => ?_
  have hid : (f w).processInstanceId = w.processInstanceId := congrArg ItemIdentity.instanceId (hf w)
  simp [hid, hp w hw]

/-- A change made for one instance leaves the slices of the others alone. -/
theorem Change.sameSlice (hlaw : env.Lawful) {j : Nat} (hj : F.instanceId ≠ j) (hl : l ≠ .lock)
    (hguids : ∀ g, F.guids g → owner g = F.instanceId) (hknown : l = .snapshot → F.Known [s.view, s.committed])
    (hc : Change env F l s s') (h : Sound env owner s) : SameSlice owner j s.view s'.view := by
  have hsame := SameSlice.refl owner j s.view
  have hstate : ∀ p ∈ s.view.processInstances, p.id = j → s'.view.workflowStateJson p = s.view.workflowStateJson p := by
    intro p hp hid
    refine hc.workflowStateJson hlaw h (fun q hq => h.integral.stored.has_process s.view (by simp) p hp q hq) ?_
    rintro rfl heq
    -- A process of two instances would make them one.
    obtain ⟨x, hx, hxid, -, hxprocess⟩ := hknown rfl
    cases hc with
    | snapshot _ hprocess =>
      have hxp := h.integral.keyed.own_process x hx p.identity (mem_instanceIds.2 ⟨s.view, by simp, p, hp, rfl⟩) _
        (hxprocess.trans hprocess) (heq.symm.trans hprocess)
      have : x.id = p.id := congrArg InstanceIdentity.id hxp
      exact hj (hxid.symm.trans (this.trans hid))
  have hfocus : ∀ g, owner g = j → ¬ F.guids g := fun g hg hFg => hj ((hguids g hFg).symm.trans hg)
  cases hc with
  | shared hdb =>
    refine ⟨by rw [hdb.processInstances], hstate, fun g _ => ?_, by rw [hdb.workItems], by rw [hdb.events],
      fun p _ => by rw [hdb.schedulerJobs]⟩
    unfold Db.task?
    rw [hdb.tasks]
  | lane _ id groupId =>
    refine ⟨rfl, hstate, hsame.tasks, ?_, rfl, hsame.jobs⟩
    dsimp only
    rw [updateWhere, List.filter_map, List.map_map]
    have hpred : ((fun w : WorkItem => w.processInstanceId == j) ∘ fun w : WorkItem =>
        if w.id == id then { w with laneAssignmentId := groupId } else w) = fun w => w.processInstanceId == j := by
      funext w
      simp only [Function.comp_apply]
      split <;> rfl
    rw [hpred]
    refine List.map_congr_left fun w _ => ?_
    simp only [Function.comp_apply]
    split <;> rfl
  | details _ f hf =>
    refine ⟨?_, hstate, hsame.tasks, rfl, rfl, hsame.jobs⟩
    refine filter_updateWhere fun p _ hp => ?_
    have hid : (f p).id = p.id := congrArg InstanceIdentity.id (hf p).1
    rw [beq_iff_eq] at hp
    simp [hid, hp, hj]
  | status _ f hf =>
    refine ⟨?_, hstate, hsame.tasks, rfl, rfl, hsame.jobs⟩
    refine filter_updateWhere fun p _ hp => ?_
    have hid : (f p).id = p.id := congrArg InstanceIdentity.id (hf p)
    rw [beq_iff_eq] at hp
    simp [hid, hp, hj]
  | task _ p f hp hf hown =>
    refine ⟨rfl, hstate, fun g hg => ?_, rfl, rfl, hsame.jobs⟩
    refine find?_updateWhere_of_ne fun t ht hpt => ?_
    -- A task row of this guid would be one of instance `j`.
    have hne : t.guid ≠ g := by
      rintro rfl
      rcases hp t hpt with hguid | hid
      · exact hfocus _ hg hguid
      · exact hj (hid.symm.trans ((h.integral.tasks s.view (by simp) t ht).symm.trans hg))
    rw [hf]
    simp [hne]
  | newTask _ row hguid hnew hrow =>
    refine ⟨rfl, hstate, fun g hg => ?_, rfl, rfl, hsame.jobs⟩
    have hne : row.guid ≠ g := by
      rintro rfl
      exact hfocus _ hg hguid
    unfold Db.task?
    simp [List.find?_append, hne]
  | item _ p f hp hf =>
    refine ⟨rfl, hstate, hsame.tasks, ?_, rfl, hsame.jobs⟩
    dsimp only
    rw [filter_map_unlaned (fun w hw => by rw [hp w hw]; exact hj) hf]
  | newItem _ row hid hrow =>
    refine ⟨rfl, hstate, hsame.tasks, ?_, rfl, hsame.jobs⟩
    simp [hrow, hj]
  | note _ row hrow =>
    refine ⟨rfl, hstate, hsame.tasks, rfl, ?_, hsame.jobs⟩
    simp [hrow, hj]
  | event _ row hrow =>
    refine ⟨rfl, hstate, hsame.tasks, rfl, ?_, hsame.jobs⟩
    simp [hrow, hj]
  | job _ jobs hjobs =>
    refine ⟨rfl, hstate, hsame.tasks, rfl, rfl, fun p hp => hjobs p fun job hjob hof => ?_⟩
    obtain ⟨jobType, hkey⟩ := hof
    obtain ⟨jobType', hkey'⟩ := (hp job hjob).2
    exact hj (instanceJobKey_injective (hkey.symm.trans hkey')).2
  | startJob _ jobs hjobs =>
    exact ⟨rfl, hstate, hsame.tasks, rfl, rfl, fun p hp => hjobs p fun job hjob =>
      ⟨(hp job hjob).1, j, (hp job hjob).2⟩⟩
  | lock => exact absurd rfl hl
  | newInstance _ process row hpid hid hFid =>
    refine ⟨?_, hstate, hsame.tasks, rfl, rfl, hsame.jobs⟩
    have hne : row.id ≠ j := by
      rw [hFid]
      exact hj
    simp [hne]
  | _ => exact ⟨rfl, hstate, hsame.tasks, rfl, rfl, hsame.jobs⟩

end
end M8flowCore
