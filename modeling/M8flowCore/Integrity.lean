import M8flowCore.Footprints
/-!
# Integrity

What holds of the stored rows at every point of every operation. Ids are
unique and below the counter, every instance has a runtime process of its own,
payloads are stored under their digests, and the tasks, items and snapshots of
an instance are its own.

The facts are about several copies of the database at once: a session's copy,
what is committed behind it, and the copy of a session that waits while a
second one runs.
-/
open M8flowCore.Lib M8flowCore.Session

namespace M8flowCore

/-! ## Rows by their fixed columns -/

def instanceIds (dbs : List Db) : List InstanceIdentity := dbs.flatMap fun db => db.processInstances.map (·.identity)

def processIds (dbs : List Db) : List ProcessIdentity := dbs.flatMap fun db => db.bpmnProcesses.map (·.identity)

def itemIds (dbs : List Db) : List ItemIdentity := dbs.flatMap fun db => db.workItems.map (·.identity)

theorem mem_instanceIds {dbs : List Db} {x : InstanceIdentity} :
    x ∈ instanceIds dbs ↔ ∃ db ∈ dbs, ∃ p ∈ db.processInstances, p.identity = x := by
  simp [instanceIds]

theorem mem_processIds {dbs : List Db} {x : ProcessIdentity} :
    x ∈ processIds dbs ↔ ∃ db ∈ dbs, ∃ p ∈ db.bpmnProcesses, p.identity = x := by
  simp [processIds]

theorem mem_itemIds {dbs : List Db} {x : ItemIdentity} :
    x ∈ itemIds dbs ↔ ∃ db ∈ dbs, ∃ w ∈ db.workItems, w.identity = x := by
  simp [itemIds]

section
variable {W Ω : Type} (env : Env W Ω) (owner : Guid → Nat)

/-- A payload stored under the hash has no snapshot, or one with the tasks of
the instance. -/
def Owns (instanceId : Nat) (hash : String) : Prop :=
  ∀ data, env.Digested hash data → ∀ text w, data.get workflowStateJsonDataKey = some (.str text) →
    env.deserializeJson text = .ok w → ∀ t ∈ env.tasks w, owner t.id = instanceId

/-- Ids and what they determine. -/
structure Keyed (seq : Nat) (dbs : List Db) : Prop where
  instance_lt : ∀ x ∈ instanceIds dbs, x.id < seq ∧ ∀ q, x.processId = some q → q < seq
  instance_key : ∀ x ∈ instanceIds dbs, ∀ y ∈ instanceIds dbs, x.id = y.id → x = y
  own_process : ∀ x ∈ instanceIds dbs, ∀ y ∈ instanceIds dbs, ∀ q, x.processId = some q → y.processId = some q → x = y
  process_lt : ∀ x ∈ processIds dbs, x.id < seq
  process_key : ∀ x ∈ processIds dbs, ∀ y ∈ processIds dbs, x.id = y.id → x = y
  process_tenant : ∀ x ∈ processIds dbs, ∀ y ∈ instanceIds dbs, y.processId = some x.id → x.tenantId = y.tenantId
  item_lt : ∀ x ∈ itemIds dbs, x.id < seq ∧ x.instanceId < seq
  item_key : ∀ x ∈ itemIds dbs, ∀ y ∈ itemIds dbs, x.id = y.id → x = y
  item_guid : ∀ x ∈ itemIds dbs, ∃ g, x.taskGuid = some g ∧ owner g = x.instanceId
  item_unique : ∀ x ∈ itemIds dbs, ∀ y ∈ itemIds dbs, x.taskGuid = y.taskGuid → x = y
  item_tenant : ∀ x ∈ itemIds dbs, ∀ y ∈ instanceIds dbs, y.id = x.instanceId → y.tenantId = x.tenantId
  instances_nodup : ∀ db ∈ dbs, ((db.processInstances.map (·.identity)).map (·.id)).Nodup
  items_nodup : ∀ db ∈ dbs, ((db.workItems.map (·.identity)).map (·.id)).Nodup

/-- Payloads, and the snapshots among them. -/
structure Stored (dbs : List Db) : Prop where
  json_hash : ∀ db ∈ dbs, ∀ r ∈ db.jsonData, env.Digested r.hash r.data
  owned : ∀ db ∈ dbs, ∀ r ∈ db.bpmnProcesses, ∀ x ∈ instanceIds dbs, x.processId = some r.id →
    Owns env owner x.id r.jsonDataHash
  has_json : ∀ db ∈ dbs, ∀ r ∈ db.bpmnProcesses, (db.jsonData? r.m8fTenantId r.jsonDataHash).isSome
  has_process : ∀ db ∈ dbs, ∀ p ∈ db.processInstances, ∀ q, p.bpmnProcessId = some q → (db.bpmnProcess? q).isSome

/-- Task rows belong to the instance their guid belongs to. -/
def TasksOwned (dbs : List Db) : Prop := ∀ db ∈ dbs, ∀ t ∈ db.tasks, owner t.guid = t.processInstanceId

structure Integral (seq : Nat) (dbs : List Db) : Prop where
  keyed : Keyed owner seq dbs
  stored : Stored env owner dbs
  tasks : TasksOwned owner dbs

end

section
variable {W Ω : Type} {env : Env W Ω} {owner : Guid → Nat} {F : Focus} {l : Touch} {s s' : Tx Ω} {others : List Db}

/-- Ids are the same, or more of them are taken. -/
theorem Keyed.same {seq seq' : Nat} {dbs dbs' : List Db} (h : Keyed owner seq dbs) (hseq : seq ≤ seq')
    (hinstances : instanceIds dbs' = instanceIds dbs) (hprocesses : processIds dbs' = processIds dbs)
    (hitems : itemIds dbs' = itemIds dbs)
    (hnodup : ∀ db ∈ dbs', ((db.processInstances.map (·.identity)).map (·.id)).Nodup ∧
      ((db.workItems.map (·.identity)).map (·.id)).Nodup) : Keyed owner seq' dbs' where
  instance_lt x hx := by
    rw [hinstances] at hx
    obtain ⟨hid, hprocess⟩ := h.instance_lt x hx
    exact ⟨by omega, fun q hq => by have := hprocess q hq; omega⟩
  instance_key := by rw [hinstances]; exact h.instance_key
  own_process := by rw [hinstances]; exact h.own_process
  process_lt x hx := by
    rw [hprocesses] at hx
    have := h.process_lt x hx
    omega
  process_key := by rw [hprocesses]; exact h.process_key
  process_tenant := by rw [hprocesses, hinstances]; exact h.process_tenant
  item_lt x hx := by
    rw [hitems] at hx
    have := h.item_lt x hx
    omega
  item_key := by rw [hitems]; exact h.item_key
  item_guid := by rw [hitems]; exact h.item_guid
  item_unique := by rw [hitems]; exact h.item_unique
  item_tenant := by rw [hitems, hinstances]; exact h.item_tenant
  instances_nodup db hdb := (hnodup db hdb).1
  items_nodup db hdb := (hnodup db hdb).2

/-- As `same`, for the first copy. -/
theorem Keyed.head {seq seq' : Nat} {db db' : Db} (h : Keyed owner seq (db :: others)) (hseq : seq ≤ seq')
    (hinstances : db'.processInstances.map (·.identity) = db.processInstances.map (·.identity))
    (hprocesses : db'.bpmnProcesses.map (·.identity) = db.bpmnProcesses.map (·.identity))
    (hitems : db'.workItems.map (·.identity) = db.workItems.map (·.identity)) : Keyed owner seq' (db' :: others) := by
  refine h.same hseq ?_ ?_ ?_ fun d hd => ?_
  · simp only [instanceIds, List.flatMap_cons, hinstances]
  · simp only [processIds, List.flatMap_cons, hprocesses]
  · simp only [itemIds, List.flatMap_cons, hitems]
  · rcases List.mem_cons.1 hd with rfl | hd
    · rw [hinstances, hitems]
      exact ⟨h.instances_nodup db (by simp), h.items_nodup db (by simp)⟩
    · exact ⟨h.instances_nodup d (by simp [hd]), h.items_nodup d (by simp [hd])⟩

/-- The focus is on an instance that is there. -/
def Focus.Known (F : Focus) (dbs : List Db) : Prop :=
  ∃ x ∈ instanceIds dbs, x.id = F.instanceId ∧ x.tenantId = F.tenantId ∧ x.processId = F.processId

theorem Keyed.addItem {seq : Nat} {db : Db} {row : WorkItem} {guid : Guid} (h : Keyed owner seq (db :: others))
    (hid : row.id = seq) (hguid : row.taskGuid = some guid) (hown : owner guid = row.processInstanceId)
    (hinstance : ∃ y ∈ instanceIds (db :: others), y.id = row.processInstanceId ∧ y.tenantId = row.m8fTenantId)
    (hnew : ∀ x ∈ itemIds (db :: others), x.taskGuid ≠ row.taskGuid) :
    Keyed owner (seq + 1) ({ db with workItems := db.workItems ++ [row] } :: others) := by
  have hmem : ∀ x, x ∈ itemIds ({ db with workItems := db.workItems ++ [row] } :: others) →
      x = row.identity ∨ x ∈ itemIds (db :: others) := by
    intro x hx
    simp only [itemIds, List.flatMap_cons, List.map_append, List.map_cons, List.map_nil, List.mem_append,
      List.mem_singleton] at hx ⊢
    rcases hx with (hx | hx) | hx
    · exact .inr (.inl hx)
    · exact .inl hx
    · exact .inr (.inr hx)
  obtain ⟨y, hy, hyid, hytenant⟩ := hinstance
  constructor
  case instance_lt =>
    intro x hx
    obtain ⟨hlt, hprocess⟩ := h.instance_lt x hx
    exact ⟨by omega, fun q hq => by have := hprocess q hq; omega⟩
  case instance_key => exact h.instance_key
  case own_process => exact h.own_process
  case process_lt =>
    intro x hx
    have := h.process_lt x hx
    omega
  case process_key => exact h.process_key
  case process_tenant => exact h.process_tenant
  case item_lt =>
    intro x hx
    rcases hmem x hx with rfl | hx
    · have := (h.instance_lt y hy).1
      simp only [WorkItem.identity]
      omega
    · have := h.item_lt x hx
      omega
  case item_key =>
    intro x hx z hz hxz
    rcases hmem x hx with rfl | hx <;> rcases hmem z hz with rfl | hz
    · rfl
    · have := h.item_lt z hz
      simp only [WorkItem.identity] at hxz
      omega
    · have := h.item_lt x hx
      simp only [WorkItem.identity] at hxz
      omega
    · exact h.item_key x hx z hz hxz
  case item_guid =>
    intro x hx
    rcases hmem x hx with rfl | hx
    · exact ⟨guid, hguid, hown⟩
    · exact h.item_guid x hx
  case item_unique =>
    intro x hx z hz hxz
    rcases hmem x hx with rfl | hx <;> rcases hmem z hz with rfl | hz
    · rfl
    · exact absurd hxz.symm (hnew z hz)
    · exact absurd hxz (hnew x hx)
    · exact h.item_unique x hx z hz hxz
  case item_tenant =>
    intro x hx z hz hxz
    rcases hmem x hx with rfl | hx
    · have hzy : z = y := h.instance_key z hz y hy (hxz.trans hyid.symm)
      rw [hzy]
      exact hytenant
    · exact h.item_tenant x hx z hz hxz
  case instances_nodup =>
    intro d hd
    rcases List.mem_cons.1 hd with rfl | hd
    · exact h.instances_nodup db (by simp)
    · exact h.instances_nodup d (by simp [hd])
  case items_nodup =>
    intro d hd
    rcases List.mem_cons.1 hd with rfl | hd
    · simp only [List.map_append, List.map_cons, List.map_nil]
      refine List.Nodup.append (h.items_nodup db (by simp)) (List.nodup_singleton _) ?_
      simp only [List.disjoint_singleton]
      intro hmem
      obtain ⟨x, hx, hxid⟩ := List.mem_map.1 hmem
      have hlt := (h.item_lt x (by simp only [itemIds, List.flatMap_cons, List.mem_append]; exact .inl hx)).1
      simp only [WorkItem.identity] at hxid
      omega
    · exact h.items_nodup d (by simp [hd])

theorem Keyed.addProcess {seq : Nat} {db : Db} {row : BpmnProcess} (h : Keyed owner seq (db :: others))
    (hid : row.id = seq) :
    Keyed owner (seq + 1) ({ db with bpmnProcesses := db.bpmnProcesses ++ [row] } :: others) := by
  have hmem : ∀ x, x ∈ processIds ({ db with bpmnProcesses := db.bpmnProcesses ++ [row] } :: others) →
      x = row.identity ∨ x ∈ processIds (db :: others) := by
    intro x hx
    simp only [processIds, List.flatMap_cons, List.map_append, List.map_cons, List.map_nil, List.mem_append,
      List.mem_singleton] at hx ⊢
    rcases hx with (hx | hx) | hx
    · exact .inr (.inl hx)
    · exact .inl hx
    · exact .inr (.inr hx)
  have hsame := h.head (Nat.le_succ seq) rfl rfl rfl
  refine { hsame with process_lt := fun x hx => ?_, process_key := fun x hx y hy hxy => ?_,
                      process_tenant := fun x hx y hy hxy => ?_, instances_nodup := ?_, items_nodup := ?_ }
  · rcases hmem x hx with rfl | hx
    · simp only [BpmnProcess.identity]
      omega
    · exact hsame.process_lt x hx
  · rcases hmem x hx with rfl | hx <;> rcases hmem y hy with rfl | hy
    · rfl
    · have := h.process_lt y hy
      simp only [BpmnProcess.identity] at hxy
      omega
    · have := h.process_lt x hx
      simp only [BpmnProcess.identity] at hxy
      omega
    · exact h.process_key x hx y hy hxy
  · rcases hmem x hx with rfl | hx
    · have := (h.instance_lt y hy).2 _ hxy
      simp only [BpmnProcess.identity] at this
      omega
    · exact h.process_tenant x hx y hy hxy
  · intro d hd
    rcases List.mem_cons.1 hd with rfl | hd
    · exact h.instances_nodup db (by simp)
    · exact h.instances_nodup d (by simp [hd])
  · intro d hd
    rcases List.mem_cons.1 hd with rfl | hd
    · exact h.items_nodup db (by simp)
    · exact h.items_nodup d (by simp [hd])

/-- A new instance: its runtime process is nobody else's, and no process or
item is there of another tenant that would be its own. -/
theorem Keyed.addInstance {seq : Nat} {db : Db} {row : ProcessInstance} (h : Keyed owner seq (db :: others))
    (hid : row.id = seq) (hlt : ∀ q, row.bpmnProcessId = some q → q < seq)
    (hown : ∀ y ∈ instanceIds (db :: others), ∀ q, row.bpmnProcessId = some q → y.processId ≠ some q)
    (htenant : ∀ x ∈ processIds (db :: others), row.bpmnProcessId = some x.id → x.tenantId = row.m8fTenantId) :
    Keyed owner (seq + 1) ({ db with processInstances := db.processInstances ++ [row] } :: others) := by
  have hmem : ∀ x, x ∈ instanceIds ({ db with processInstances := db.processInstances ++ [row] } :: others) →
      x = row.identity ∨ x ∈ instanceIds (db :: others) := by
    intro x hx
    simp only [instanceIds, List.flatMap_cons, List.map_append, List.map_cons, List.map_nil, List.mem_append,
      List.mem_singleton] at hx ⊢
    rcases hx with (hx | hx) | hx
    · exact .inr (.inl hx)
    · exact .inl hx
    · exact .inr (.inr hx)
  have hsame := h.head (Nat.le_succ seq) rfl rfl rfl
  constructor
  case instance_lt =>
    intro x hx
    rcases hmem x hx with rfl | hx
    · refine ⟨by simp only [ProcessInstance.identity]; omega, fun q hq => ?_⟩
      have := hlt q hq
      omega
    · exact hsame.instance_lt x hx
  case instance_key =>
    intro x hx y hy hxy
    rcases hmem x hx with rfl | hx <;> rcases hmem y hy with rfl | hy
    · rfl
    · have := (h.instance_lt y hy).1
      simp only [ProcessInstance.identity] at hxy
      omega
    · have := (h.instance_lt x hx).1
      simp only [ProcessInstance.identity] at hxy
      omega
    · exact h.instance_key x hx y hy hxy
  case own_process =>
    intro x hx y hy q hxq hyq
    rcases hmem x hx with rfl | hx <;> rcases hmem y hy with rfl | hy
    · rfl
    · exact absurd hyq (hown y hy q hxq)
    · exact absurd hxq (hown x hx q hyq)
    · exact h.own_process x hx y hy q hxq hyq
  case process_lt => exact hsame.process_lt
  case process_key => exact h.process_key
  case process_tenant =>
    intro x hx y hy hxy
    rcases hmem y hy with rfl | hy
    · exact htenant x hx hxy
    · exact h.process_tenant x hx y hy hxy
  case item_lt => exact hsame.item_lt
  case item_key => exact h.item_key
  case item_guid => exact h.item_guid
  case item_unique => exact h.item_unique
  case item_tenant =>
    intro x hx y hy hxy
    rcases hmem y hy with rfl | hy
    · have := (h.item_lt x hx).2
      simp only [ProcessInstance.identity] at hxy
      omega
    · exact h.item_tenant x hx y hy hxy
  case instances_nodup =>
    intro d hd
    rcases List.mem_cons.1 hd with rfl | hd
    · simp only [List.map_append, List.map_cons, List.map_nil]
      refine List.Nodup.append (h.instances_nodup db (by simp)) (List.nodup_singleton _) ?_
      simp only [List.disjoint_singleton]
      intro hmem
      obtain ⟨x, hx, hxid⟩ := List.mem_map.1 hmem
      have hlt := (h.instance_lt x (by simp only [instanceIds, List.flatMap_cons, List.mem_append]; exact .inl hx)).1
      simp only [ProcessInstance.identity] at hxid
      omega
    · exact h.instances_nodup d (by simp [hd])
  case items_nodup =>
    intro d hd
    rcases List.mem_cons.1 hd with rfl | hd
    · exact h.items_nodup db (by simp)
    · exact h.items_nodup d (by simp [hd])

/-- Every change keeps the ids in order. A new item needs to know its instance
and that the other copies have no items of their own. -/
theorem Keyed.change (hown : ∀ g, F.guids g → owner g = F.instanceId)
    (hitem : l = .newItem → F.Known (s.view :: others) ∧
      ∀ db ∈ others, db.workItems.map (·.identity) ⊆ s.view.workItems.map (·.identity))
    (hc : Change env F l s s') (h : Keyed owner s.seq (s.view :: others)) : Keyed owner s'.seq (s'.view :: others) := by
  cases hc with
  | nextId => exact h.head (Nat.le_succ _) rfl rfl rfl
  | world => exact h
  | shared hdb => exact h.head le_rfl (by rw [hdb.processInstances]) (by rw [hdb.bpmnProcesses]) (by rw [hdb.workItems])
  | lane => exact h.head le_rfl rfl rfl (map_updateWhere fun _ => rfl)
  | json => exact h.head le_rfl rfl rfl rfl
  | details _ f hf => exact h.head le_rfl (map_updateWhere fun p => (hf p).1) rfl rfl
  | status _ f hf => exact h.head le_rfl (map_updateWhere hf) rfl rfl
  | process _ hp f hf => exact h.head le_rfl rfl (map_updateWhere fun p => (hf p).1) rfl
  | snapshot => exact h.head le_rfl rfl (map_updateWhere fun _ => rfl) rfl
  | task => exact h.head le_rfl rfl rfl rfl
  | newTask => exact h.head le_rfl rfl rfl rfl
  | item _ p f hp hf => exact h.head le_rfl rfl rfl (map_updateWhere hf)
  | newItem _ row hid hrow htenant hguid hFguid hnew =>
    obtain ⟨⟨x, hx, hxid, hxtenant, -⟩, hshown⟩ := hitem rfl
    have hinstance : ∃ y ∈ instanceIds (s.view :: others), y.id = row.processInstanceId ∧ y.tenantId = row.m8fTenantId :=
      ⟨x, hx, hxid.trans hrow.symm, hxtenant.trans htenant.symm⟩
    have hguidOwner := (hown _ hFguid).trans hrow.symm
    refine h.addItem hid hguid hguidOwner hinstance fun y hy hyguid => ?_
    -- Every item of the pool is in the view, and one with this guid would be of this instance.
    have hview : y ∈ s.view.workItems.map (·.identity) := by
      obtain ⟨db, hdb, w, hw, rfl⟩ := mem_itemIds.1 hy
      rcases List.mem_cons.1 hdb with rfl | hdb
      · exact List.mem_map_of_mem hw
      · exact hshown db hdb (List.mem_map_of_mem hw)
    obtain ⟨w, hw, rfl⟩ := List.mem_map.1 hview
    obtain ⟨g, hg, hgowner⟩ := h.item_guid _ hy
    have hgg : g = _ := Option.some.inj (hg.symm.trans (hyguid.trans hguid))
    subst hgg
    have hwinstance : w.processInstanceId = row.processInstanceId := hgowner.symm.trans hguidOwner
    have hwtenant := h.item_tenant _ hy x hx (hxid.trans (hrow.symm.trans hwinstance.symm))
    exact hnew w hw (hwtenant.symm.trans (hxtenant.trans htenant.symm)) hwinstance hyguid
  | note => exact h.head le_rfl rfl rfl rfl
  | event => exact h.head le_rfl rfl rfl rfl
  | job => exact h.head le_rfl rfl rfl rfl
  | startJob => exact h.head le_rfl rfl rfl rfl
  | lock => exact h.head le_rfl rfl rfl rfl
  | newProcess _ row hid => exact h.addProcess hid
  | newInstance _ process row hpid hid hF hprocess htenant hstatus hhash hdata hjson =>
    have hprocesses := h.addProcess hpid
    refine hprocesses.addInstance hid (fun q hq => ?_) (fun y hy q hq hyq => ?_) fun x hx hxid => ?_
    · rw [hprocess, Option.some.injEq] at hq
      omega
    · have hlt := (h.instance_lt y hy).2 q hyq
      rw [hprocess, Option.some.injEq] at hq
      omega
    · rw [hprocess, Option.some.injEq] at hxid
      obtain ⟨db, hdb, p, hp, rfl⟩ := mem_processIds.1 hx
      by_cases hpx : p = process
      · rw [hpx]
        exact htenant
      · have hold : p.identity ∈ processIds (s.view :: others) := by
          rcases List.mem_cons.1 hdb with rfl | hdb
          · simp only [List.mem_append, List.mem_singleton] at hp
            exact mem_processIds.2 ⟨s.view, by simp, p, hp.resolve_right hpx, rfl⟩
          · exact mem_processIds.2 ⟨db, by simp [hdb], p, hp, rfl⟩
        have := h.process_lt _ hold
        omega

/-! ## Payloads -/

theorem putJsonData_isSome {db : Db} {tenantId tenantId' : TenantId} {hash hash' : String} {data : Dict}
    (h : (db.jsonData? tenantId' hash').isSome) :
    ((db.putJsonData tenantId hash data).jsonData? tenantId' hash').isSome := by
  unfold Db.putJsonData Db.jsonData? at *
  split
  · dsimp only
    rw [find?_updateWhere (by intro _ _ _; rfl), Option.isSome_map]
    exact h
  · obtain ⟨r, hr⟩ := Option.isSome_iff_exists.1 h
    dsimp only
    rw [find?_append_of_some hr]
    rfl

theorem putJsonData_hash {db : Db} {tenantId : TenantId} {data : Dict} {r : JsonData} (hdata : env.Normal data)
    (h : ∀ r ∈ db.jsonData, env.Digested r.hash r.data)
    (hr : r ∈ (db.putJsonData tenantId (env.payloadDigest data) data).jsonData) : env.Digested r.hash r.data := by
  unfold Db.putJsonData at hr
  dsimp only at hr
  split at hr
  · obtain ⟨r₀, hr₀, rfl⟩ := mem_updateWhere.1 hr
    split
    · rename_i hmatch
      simp only [Bool.and_eq_true, beq_iff_eq] at hmatch
      exact ⟨hmatch.2, hdata⟩
    · exact h r₀ hr₀
  · rcases List.mem_append.1 hr with hr | hr
    · exact h r hr
    · rw [List.mem_singleton] at hr
      rw [hr]
      exact ⟨rfl, hdata⟩

/-- Where payloads are stored under their digests, storing one again changes
nothing that is there. -/
theorem putJsonData_data (hlaw : env.Lawful) {db : Db} {tenantId tenantId' : TenantId} {hash' : String} {data : Dict}
    (hnormal : env.Normal data) (h : ∀ r ∈ db.jsonData, env.Digested r.hash r.data) {r : JsonData} (hr : db.jsonData? tenantId' hash' = some r) :
    (db.putJsonData tenantId (env.payloadDigest data) data).jsonData? tenantId' hash' = some r := by
  unfold Db.putJsonData Db.jsonData? at *
  split
  · dsimp only
    rw [find?_updateWhere (by intro _ _ _; rfl), hr, Option.map_some]
    split
    · rename_i hmatch
      simp only [Bool.and_eq_true, beq_iff_eq] at hmatch
      have hdata := hlaw.digest_injective (h r (List.mem_of_find?_eq_some hr)) ⟨hmatch.2, hnormal⟩
      rw [← hdata]
    · rfl
  · exact find?_append_of_some hr _

theorem bpmnProcess?_updateBpmnProcess {db : Db} {id q : Nat} {f : BpmnProcess → BpmnProcess}
    (hf : ∀ p, (f p).identity = p.identity) :
    (db.updateBpmnProcess id f).bpmnProcess? q = (db.bpmnProcess? q).map fun p => if p.id == id then f p else p := by
  unfold Db.updateBpmnProcess Db.bpmnProcess?
  refine find?_updateWhere fun p _ _ => ?_
  have hid : (f p).id = p.id := congrArg ProcessIdentity.id (hf p)
  rw [hid]

section
variable {db db' : Db}

/-- The facts for the first copy, and for the instances of all of them. -/
theorem Stored.head (h : Stored env owner (db :: others)) (hids : instanceIds (db' :: others) = instanceIds (db :: others))
    (hjson : ∀ r ∈ db'.jsonData, env.Digested r.hash r.data)
    (howned : ∀ r ∈ db'.bpmnProcesses, ∀ x ∈ instanceIds (db :: others), x.processId = some r.id →
      Owns env owner x.id r.jsonDataHash)
    (hhas : ∀ r ∈ db'.bpmnProcesses, (db'.jsonData? r.m8fTenantId r.jsonDataHash).isSome)
    (hprocess : ∀ p ∈ db'.processInstances, ∀ q, p.bpmnProcessId = some q → (db'.bpmnProcess? q).isSome) :
    Stored env owner (db' :: others) := by
  constructor
  · intro d hd
    rcases List.mem_cons.1 hd with rfl | hd
    · exact hjson
    · exact h.json_hash d (by simp [hd])
  · rw [hids]
    intro d hd
    rcases List.mem_cons.1 hd with rfl | hd
    · exact howned
    · exact h.owned d (by simp [hd])
  · intro d hd
    rcases List.mem_cons.1 hd with rfl | hd
    · exact hhas
    · exact h.has_json d (by simp [hd])
  · intro d hd
    rcases List.mem_cons.1 hd with rfl | hd
    · exact hprocess
    · exact h.has_process d (by simp [hd])

theorem Stored.unchanged (h : Stored env owner (db :: others)) (hinstances : db'.processInstances = db.processInstances)
    (hprocesses : db'.bpmnProcesses = db.bpmnProcesses) (hjson : db'.jsonData = db.jsonData) :
    Stored env owner (db' :: others) := by
  refine h.head (by simp only [instanceIds, List.flatMap_cons, hinstances]) ?_ ?_ ?_ ?_
  · rw [hjson]
    exact h.json_hash db (by simp)
  · rw [hprocesses]
    exact h.owned db (by simp)
  · unfold Db.jsonData?
    rw [hprocesses, hjson]
    exact h.has_json db (by simp)
  · unfold Db.bpmnProcess?
    rw [hinstances, hprocesses]
    exact h.has_process db (by simp)

theorem Stored.instances (h : Stored env owner (db :: others)) {id : Nat} {f : ProcessInstance → ProcessInstance}
    (hf : ∀ p, (f p).identity = p.identity) : Stored env owner (db.updateInstance id f :: others) := by
  refine h.head ?_ (h.json_hash db (by simp)) (h.owned db (by simp)) (h.has_json db (by simp)) ?_
  · simp only [instanceIds, List.flatMap_cons, Db.updateInstance, map_updateWhere hf]
  · intro p hp q hq
    obtain ⟨p₀, hp₀, rfl⟩ := mem_updateWhere.1 hp
    have hprocess : (f p₀).bpmnProcessId = p₀.bpmnProcessId := congrArg InstanceIdentity.processId (hf p₀)
    refine h.has_process db (by simp) p₀ hp₀ q ?_
    split at hq
    · exact hprocess.symm.trans hq
    · exact hq

theorem Stored.processes (h : Stored env owner (db :: others)) {id : Nat} {f : BpmnProcess → BpmnProcess}
    (hf : ∀ p, (f p).identity = p.identity)
    (howned : ∀ r ∈ db.bpmnProcesses, r.id = id → ∀ x ∈ instanceIds (db :: others), x.processId = some id →
      Owns env owner x.id (f r).jsonDataHash)
    (hhas : ∀ r ∈ db.bpmnProcesses, r.id = id → (db.jsonData? r.m8fTenantId (f r).jsonDataHash).isSome) :
    Stored env owner (db.updateBpmnProcess id f :: others) := by
  have hid : ∀ r, (f r).id = r.id := fun r => congrArg ProcessIdentity.id (hf r)
  have htenant : ∀ r, (f r).m8fTenantId = r.m8fTenantId := fun r => congrArg ProcessIdentity.tenantId (hf r)
  refine h.head rfl (h.json_hash db (by simp)) ?_ ?_ ?_
  · intro r hr x hx hxr
    obtain ⟨r₀, hr₀, rfl⟩ := mem_updateWhere.1 hr
    split at hxr
    · rename_i hmatch
      rw [beq_iff_eq] at hmatch
      rw [hid, hmatch] at hxr
      rw [if_pos (by simpa using hmatch)]
      exact howned r₀ hr₀ hmatch x hx hxr
    · rename_i hmatch
      rw [if_neg hmatch]
      exact h.owned db (by simp) r₀ hr₀ x hx hxr
  · intro r hr
    obtain ⟨r₀, hr₀, rfl⟩ := mem_updateWhere.1 hr
    split
    · rename_i hmatch
      rw [beq_iff_eq] at hmatch
      rw [htenant]
      exact hhas r₀ hr₀ hmatch
    · exact h.has_json db (by simp) r₀ hr₀
  · intro p hp q hq
    rw [bpmnProcess?_updateBpmnProcess hf, Option.isSome_map]
    exact h.has_process db (by simp) p hp q hq

end

/-- A payload without a snapshot is anybody's. -/
theorem owns_of_none (hlaw : env.Lawful) {hash : String} {data : Dict} (hhash : env.Digested hash data)
    (h : data.get workflowStateJsonDataKey = none) (i : Nat) : Owns env owner i hash := by
  intro data' hdigest text w htext
  rw [hlaw.digest_injective hdigest hhash, h] at htext
  simp at htext

theorem Focus.Holds.owns (hlaw : env.Lawful) {data : Dict} (hnormal : env.Normal data) (h : F.Holds env data)
    (hown : ∀ g, F.guids g → owner g = F.instanceId) : Owns env owner F.instanceId (env.payloadDigest data) := by
  intro data' hdigest text w htext hw t ht
  rw [hlaw.digest_injective hdigest ⟨rfl, hnormal⟩] at htext
  exact hown _ (h text w htext hw t ht)

/-- Every change keeps the payloads in order. A snapshot is stored for an
instance that is there. -/
theorem Stored.change (hlaw : env.Lawful) (hown : ∀ g, F.guids g → owner g = F.instanceId)
    (hknown : l = .snapshot → F.Known (s.view :: others)) (hc : Change env F l s s')
    (hkeyed : Keyed owner s.seq (s.view :: others)) (h : Stored env owner (s.view :: others)) :
    Stored env owner (s'.view :: others) := by
  cases hc with
  | shared hdb => exact h.unchanged hdb.processInstances hdb.bpmnProcesses hdb.jsonData
  | json _ tenantId hnormal =>
    refine h.head rfl ?_ (h.owned s.view (by simp)) ?_ (h.has_process s.view (by simp))
    · exact fun r hr => putJsonData_hash hnormal (h.json_hash s.view (by simp)) hr
    · exact fun r hr => putJsonData_isSome (h.has_json s.view (by simp) r hr)
  | details _ f hf => exact h.instances fun p => (hf p).1
  | status _ f hf => exact h.instances hf
  | process _ hp f hf =>
    refine h.processes (fun p => (hf p).1) (fun r hr hid x hx hxid => ?_) fun r hr hid => ?_
    · rw [(hf r).2]
      exact h.owned s.view (by simp) r hr x hx (hid ▸ hxid)
    · rw [(hf r).2]
      exact h.has_json s.view (by simp) r hr
  | snapshot _ hp properties hnormal hrow hdata =>
    obtain ⟨y, hy, hyid, hytenant, hyprocess⟩ := hknown rfl
    refine h.processes (fun _ => rfl) (fun r hr hid x hx hxid => ?_) fun r hr hid => ?_
    · have hxy : x = y := hkeyed.own_process x hx y hy _ hxid (hyprocess.trans hp)
      rw [hxy, hyid]
      exact hdata.owns hlaw hnormal hown
    · have hr' : r.identity ∈ processIds (s.view :: others) := mem_processIds.2 ⟨s.view, by simp, r, hr, rfl⟩
      have htenant := hkeyed.process_tenant _ hr' y hy (by rw [hyprocess, hp]; exact congrArg some hid.symm)
      have : r.m8fTenantId = F.tenantId := htenant.trans hytenant
      rw [this]
      exact hrow
  | newProcess _ row hid hjson =>
    refine h.head rfl (h.json_hash s.view (by simp)) (fun r hr x hx hxr => ?_) (fun r hr => ?_) fun p hp q hq => ?_
    · rcases List.mem_append.1 hr with hr | hr
      · exact h.owned s.view (by simp) r hr x hx hxr
      · rw [List.mem_singleton.1 hr] at hxr
        have := (hkeyed.instance_lt x hx).2 _ hxr
        omega
    · rcases List.mem_append.1 hr with hr | hr
      · exact h.has_json s.view (by simp) r hr
      · rw [List.mem_singleton.1 hr]
        exact hjson
    · obtain ⟨r, hr⟩ := Option.isSome_iff_exists.1 (h.has_process s.view (by simp) p hp q hq)
      exact Option.isSome_iff_exists.2 ⟨r, find?_append_of_some hr _⟩
  | newInstance _ process row hpid hid hF hprocess htenant hstatus hhash hdata hjson =>
    have hold : ∀ q, (s.view.bpmnProcess? q).isSome →
        ((s.view.bpmnProcesses ++ [process]).find? (·.id == q)).isSome := by
      intro q hq
      obtain ⟨r, hr⟩ := Option.isSome_iff_exists.1 hq
      exact Option.isSome_iff_exists.2 ⟨r, find?_append_of_some hr _⟩
    -- Nobody had this process before, and its payload has no snapshot.
    have hnobody : ∀ x ∈ instanceIds (s.view :: others), x.processId ≠ some s.seq := by
      intro x hx hxs
      have := (hkeyed.instance_lt x hx).2 _ hxs
      omega
    have hnew : ∀ i, Owns env owner i process.jsonDataHash := owns_of_none hlaw hhash hdata
    have hother : ∀ db ∈ s.view :: others, ∀ r ∈ db.bpmnProcesses, row.bpmnProcessId ≠ some r.id := by
      intro db hdb r hr hrow
      have := hkeyed.process_lt _ (mem_processIds.2 ⟨db, hdb, r, hr, rfl⟩)
      rw [hprocess, Option.some.injEq] at hrow
      simp only [BpmnProcess.identity] at this
      omega
    have hids : ∀ x, x ∈ instanceIds ({ s.view with
        bpmnProcesses := s.view.bpmnProcesses ++ [process]
        processInstances := s.view.processInstances ++ [row] } :: others) →
        x = row.identity ∨ x ∈ instanceIds (s.view :: others) := by
      intro x hx
      simp only [instanceIds, List.flatMap_cons, List.map_append, List.map_cons, List.map_nil, List.mem_append,
        List.mem_singleton] at hx ⊢
      rcases hx with (hx | hx) | hx
      · exact .inr (.inl hx)
      · exact .inl hx
      · exact .inr (.inr hx)
    constructor
    · intro d hd
      rcases List.mem_cons.1 hd with rfl | hd
      · exact h.json_hash s.view (by simp)
      · exact h.json_hash d (by simp [hd])
    · intro d hd r hr x hx hxr
      rcases List.mem_cons.1 hd with rfl | hd
      · rcases List.mem_append.1 hr with hr | hr
        · rcases hids x hx with rfl | hx
          · exact absurd hxr (hother s.view (by simp) r hr)
          · exact h.owned s.view (by simp) r hr x hx hxr
        · rw [List.mem_singleton.1 hr]
          exact hnew x.id
      · rcases hids x hx with rfl | hx
        · exact absurd hxr (hother d (by simp [hd]) r hr)
        · exact h.owned d (by simp [hd]) r hr x hx hxr
    · intro d hd r hr
      rcases List.mem_cons.1 hd with rfl | hd
      · rcases List.mem_append.1 hr with hr | hr
        · exact h.has_json s.view (by simp) r hr
        · rw [List.mem_singleton.1 hr]
          exact hjson
      · exact h.has_json d (by simp [hd]) r hr
    · intro d hd p hp q hq
      rcases List.mem_cons.1 hd with rfl | hd
      · rcases List.mem_append.1 hp with hp | hp
        · exact hold q (h.has_process s.view (by simp) p hp q hq)
        · rw [List.mem_singleton.1 hp, hprocess, Option.some.injEq] at hq
          have hlast : ((s.view.bpmnProcesses ++ [process]).find? (·.id == q)).isSome := by
            rw [List.find?_isSome]
            exact ⟨process, by simp, by simp [hpid, hq]⟩
          exact hlast
      · exact h.has_process d (by simp [hd]) p hp q hq
  | _ => exact h.unchanged rfl rfl rfl

theorem TasksOwned.change (hown : ∀ g, F.guids g → owner g = F.instanceId) (hc : Change env F l s s')
    (h : TasksOwned owner (s.view :: others)) : TasksOwned owner (s'.view :: others) := by
  have hhead : ∀ db' : Db, (∀ t ∈ db'.tasks, owner t.guid = t.processInstanceId) → TasksOwned owner (db' :: others) := by
    intro db' hdb' d hd
    rcases List.mem_cons.1 hd with rfl | hd
    · exact hdb'
    · exact h d (by simp [hd])
  cases hc with
  | shared hdb =>
    refine hhead _ ?_
    rw [hdb.tasks]
    exact h s.view (by simp)
  | task _ p f hp hf hinstance =>
    refine hhead _ fun t ht => ?_
    obtain ⟨t₀, ht₀, rfl⟩ := mem_updateWhere.1 ht
    have ht₀owner := h s.view (by simp) t₀ ht₀
    split
    · rename_i hmatch
      rw [hf]
      rcases hinstance t₀ hmatch with ⟨hguid, hid⟩ | hid
      · rw [hid]
        exact hown _ hguid
      · rw [hid]
        exact ht₀owner
    · exact ht₀owner
  | newTask _ row hguid hnew hrow =>
    refine hhead _ fun t ht => ?_
    rcases List.mem_append.1 ht with ht | ht
    · exact h s.view (by simp) t ht
    · rw [List.mem_singleton.1 ht, hrow]
      exact hown _ hguid
  | _ => exact hhead _ (h s.view (by simp))

/-! ## Along a footprint -/

/-- No instance disappears. -/
theorem Focus.Known.change {F' : Focus} (hc : Change env F l s s') (h : F'.Known (s.view :: others)) :
    F'.Known (s'.view :: others) := by
  obtain ⟨x, hx, hkey⟩ := h
  refine ⟨x, ?_, hkey⟩
  simp only [instanceIds, List.flatMap_cons, List.mem_append] at hx ⊢
  refine hx.imp_left fun hview => ?_
  cases hc with
  | shared hdb => rwa [hdb.processInstances]
  | details _ f hf =>
    simp only [Db.updateInstance]
    rwa [map_updateWhere fun p => (hf p).1]
  | status _ f hf =>
    simp only [Db.updateInstance]
    rwa [map_updateWhere hf]
  | newInstance =>
    simp only [List.map_append, List.mem_append]
    exact .inl hview
  | _ => exact hview

/-- The other copies have no items that the session's copy lacks. -/
def Shown (others : List Db) (s : Tx Ω) : Prop :=
  ∀ db ∈ others, db.workItems.map (·.identity) ⊆ s.view.workItems.map (·.identity)

theorem Shown.change (hc : Change env F l s s') (h : Shown others s) : Shown others s' := by
  intro db hdb x hx
  have hx := h db hdb hx
  cases hc with
  | shared hdb => rwa [hdb.workItems]
  | lane =>
    dsimp only
    rwa [map_updateWhere (by intro _; rfl)]
  | item _ p f hp hf =>
    dsimp only
    rwa [map_updateWhere hf]
  | newItem =>
    simp only [List.map_append, List.mem_append]
    exact .inl hx
  | _ => exact hx

/-- A footprint keeps the rows in order. The instance has to be there for its
items and snapshots, and new items are made in a copy that shows them all. -/
theorem Integral.steps {L : List Touch} (hlaw : env.Lawful) (hown : ∀ g, F.guids g → owner g = F.instanceId)
    (hknown : .newItem ∈ L ∨ .snapshot ∈ L → F.Known (s.view :: others)) (hshown : .newItem ∈ L → Shown others s)
    (hsteps : Steps (Change env F) L s s') (h : Integral env owner s.seq (s.view :: others)) :
    Integral env owner s'.seq (s'.view :: others) := by
  have hall := hsteps.inv (P := fun s => Integral env owner s.seq (s.view :: others) ∧
    (.newItem ∈ L ∨ .snapshot ∈ L → F.Known (s.view :: others)) ∧ (.newItem ∈ L → Shown others s)) ?_ ⟨h, hknown, hshown⟩
  · exact hall.1
  · rintro l hl s₁ s₂ hc ⟨h₁, hknown₁, hshown₁⟩
    refine ⟨⟨?_, ?_, ?_⟩, fun hL => (hknown₁ hL).change hc, fun hL => (hshown₁ hL).change hc⟩
    · refine h₁.keyed.change hown ?_ hc
      rintro rfl
      exact ⟨hknown₁ (.inl hl), hshown₁ hl⟩
    · refine h₁.stored.change hlaw hown ?_ hc h₁.keyed
      rintro rfl
      exact hknown₁ (.inr hl)
    · exact h₁.tasks.change hown hc

end
end M8flowCore
