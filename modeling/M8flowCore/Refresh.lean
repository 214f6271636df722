import M8flowCore.Integrity
/-!
# Second sessions

A session that lets another one run and then looks at the database again sees
its own writes merged over what is committed by then. The rows stay in order
through both steps.
-/
open M8flowCore.Lib M8flowCore.Session

namespace M8flowCore

/-! ## Copies with no new ids -/

section
variable {W Ω : Type} {env : Env W Ω} {owner : Guid → Nat}

/-- Fewer copies, or copies with rows of the same ids. -/
theorem Keyed.subset {seq : Nat} {dbs dbs' : List Db} (h : Keyed owner seq dbs)
    (hinstances : instanceIds dbs' ⊆ instanceIds dbs) (hprocesses : processIds dbs' ⊆ processIds dbs)
    (hitems : itemIds dbs' ⊆ itemIds dbs)
    (hnodup : ∀ db ∈ dbs', ((db.processInstances.map (·.identity)).map (·.id)).Nodup ∧
      ((db.workItems.map (·.identity)).map (·.id)).Nodup) : Keyed owner seq dbs' where
  instance_lt x hx := h.instance_lt x (hinstances hx)
  instance_key x hx y hy := h.instance_key x (hinstances hx) y (hinstances hy)
  own_process x hx y hy := h.own_process x (hinstances hx) y (hinstances hy)
  process_lt x hx := h.process_lt x (hprocesses hx)
  process_key x hx y hy := h.process_key x (hprocesses hx) y (hprocesses hy)
  process_tenant x hx y hy := h.process_tenant x (hprocesses hx) y (hinstances hy)
  item_lt x hx := h.item_lt x (hitems hx)
  item_key x hx y hy := h.item_key x (hitems hx) y (hitems hy)
  item_guid x hx := h.item_guid x (hitems hx)
  item_unique x hx y hy := h.item_unique x (hitems hx) y (hitems hy)
  item_tenant x hx y hy := h.item_tenant x (hitems hx) y (hinstances hy)
  instances_nodup db hdb := (hnodup db hdb).1
  items_nodup db hdb := (hnodup db hdb).2

theorem instanceIds_subset {dbs dbs' : List Db} (h : dbs' ⊆ dbs) : instanceIds dbs' ⊆ instanceIds dbs := by
  intro x hx
  obtain ⟨db, hdb, hp⟩ := mem_instanceIds.1 hx
  exact mem_instanceIds.2 ⟨db, h hdb, hp⟩

/-- Copies may be forgotten. -/
theorem Integral.subset {seq : Nat} {dbs dbs' : List Db} (hsub : dbs' ⊆ dbs) (h : Integral env owner seq dbs) :
    Integral env owner seq dbs' where
  keyed := by
    refine h.keyed.subset (instanceIds_subset hsub) (fun x hx => ?_) (fun x hx => ?_) fun db hdb =>
      ⟨h.keyed.instances_nodup db (hsub hdb), h.keyed.items_nodup db (hsub hdb)⟩
    · obtain ⟨db, hdb, hp⟩ := mem_processIds.1 hx
      exact mem_processIds.2 ⟨db, hsub hdb, hp⟩
    · obtain ⟨db, hdb, hp⟩ := mem_itemIds.1 hx
      exact mem_itemIds.2 ⟨db, hsub hdb, hp⟩
  stored :=
    { json_hash := fun db hdb => h.stored.json_hash db (hsub hdb)
      owned := fun db hdb r hr x hx => h.stored.owned db (hsub hdb) r hr x (instanceIds_subset hsub hx)
      has_json := fun db hdb => h.stored.has_json db (hsub hdb)
      has_process := fun db hdb => h.stored.has_process db (hsub hdb) }
  tasks db hdb := h.tasks db (hsub hdb)

/-! ## Nothing is deleted -/

/-- Instances, runtime processes, payloads and work items stay. -/
structure Grows (db db' : Db) : Prop where
  instances : ∀ p ∈ db.processInstances, ∃ p' ∈ db'.processInstances, p'.id = p.id
  processes : ∀ r ∈ db.bpmnProcesses, ∃ r' ∈ db'.bpmnProcesses, r'.id = r.id
  json : ∀ r ∈ db.jsonData, ∃ r' ∈ db'.jsonData, r'.m8fTenantId = r.m8fTenantId ∧ r'.hash = r.hash
  items : ∀ w ∈ db.workItems, ∃ w' ∈ db'.workItems, w'.id = w.id

/-- Rows with the same fixed columns have the same ids. -/
theorem kept_of_identities {db db' : Db}
    (h : db'.processInstances.map (·.identity) = db.processInstances.map (·.identity)) :
    ∀ p ∈ db.processInstances, ∃ p' ∈ db'.processInstances, p'.id = p.id := by
  intro p hp
  have hmem : p.identity ∈ db'.processInstances.map (·.identity) := by
    rw [h]
    exact List.mem_map_of_mem hp
  obtain ⟨p', hp', hid⟩ := List.mem_map.1 hmem
  exact ⟨p', hp', congrArg InstanceIdentity.id hid⟩

theorem Grows.refl (db : Db) : Grows db db :=
  ⟨fun p hp => ⟨p, hp, rfl⟩, fun r hr => ⟨r, hr, rfl⟩, fun r hr => ⟨r, hr, rfl, rfl⟩, fun w hw => ⟨w, hw, rfl⟩⟩

theorem Grows.same {db db' : Db} (hinstances : db'.processInstances.map (·.identity) = db.processInstances.map (·.identity))
    (hprocesses : db'.bpmnProcesses = db.bpmnProcesses) (hjson : db'.jsonData = db.jsonData)
    (hitems : db'.workItems = db.workItems) : Grows db db' := by
  constructor
  · exact kept_of_identities hinstances
  · rw [hprocesses]
    exact fun r hr => ⟨r, hr, rfl⟩
  · rw [hjson]
    exact fun r hr => ⟨r, hr, rfl, rfl⟩
  · rw [hitems]
    exact fun w hw => ⟨w, hw, rfl⟩

theorem Grows.trans {db₁ db₂ db₃ : Db} (h₁ : Grows db₁ db₂) (h₂ : Grows db₂ db₃) : Grows db₁ db₃ := by
  constructor
  · intro p hp
    obtain ⟨p₂, hp₂, hid₂⟩ := h₁.instances p hp
    obtain ⟨p₃, hp₃, hid₃⟩ := h₂.instances p₂ hp₂
    exact ⟨p₃, hp₃, hid₃.trans hid₂⟩
  · intro r hr
    obtain ⟨r₂, hr₂, hid₂⟩ := h₁.processes r hr
    obtain ⟨r₃, hr₃, hid₃⟩ := h₂.processes r₂ hr₂
    exact ⟨r₃, hr₃, hid₃.trans hid₂⟩
  · intro r hr
    obtain ⟨r₂, hr₂, htenant₂, hhash₂⟩ := h₁.json r hr
    obtain ⟨r₃, hr₃, htenant₃, hhash₃⟩ := h₂.json r₂ hr₂
    exact ⟨r₃, hr₃, htenant₃.trans htenant₂, hhash₃.trans hhash₂⟩
  · intro w hw
    obtain ⟨w₂, hw₂, hid₂⟩ := h₁.items w hw
    obtain ⟨w₃, hw₃, hid₃⟩ := h₂.items w₂ hw₂
    exact ⟨w₃, hw₃, hid₃.trans hid₂⟩

theorem putJsonData_grows (db : Db) (tenantId : TenantId) (hash : String) (data : Dict) (r : JsonData)
    (hr : r ∈ db.jsonData) :
    ∃ r' ∈ (db.putJsonData tenantId hash data).jsonData, r'.m8fTenantId = r.m8fTenantId ∧ r'.hash = r.hash := by
  unfold Db.putJsonData
  dsimp only
  split
  · refine ⟨_, mem_updateWhere.2 ⟨r, hr, rfl⟩, ?_⟩
    split <;> exact ⟨rfl, rfl⟩
  · exact ⟨r, List.mem_append_left _ hr, rfl, rfl⟩

theorem updateBpmnProcess_grows (db : Db) (id : Nat) {f : BpmnProcess → BpmnProcess}
    (hf : ∀ p, (f p).identity = p.identity) (r : BpmnProcess) (hr : r ∈ db.bpmnProcesses) :
    ∃ r' ∈ (db.updateBpmnProcess id f).bpmnProcesses, r'.id = r.id := by
  refine ⟨_, mem_updateWhere.2 ⟨r, hr, rfl⟩, ?_⟩
  split
  · exact congrArg ProcessIdentity.id (hf r)
  · rfl

theorem Change.grows {F : Focus} {l : Touch} {s s' : Tx Ω} (hc : Change env F l s s') : Grows s.view s'.view := by
  have hitems : ∀ (p : WorkItem → Bool) (f : WorkItem → WorkItem), (∀ w, (f w).id = w.id) → ∀ w ∈ s.view.workItems,
      ∃ w' ∈ updateWhere p f s.view.workItems, w'.id = w.id := by
    intro p f hf w hw
    refine ⟨_, mem_updateWhere.2 ⟨w, hw, rfl⟩, ?_⟩
    split
    · exact hf w
    · rfl
  have hsame := Grows.refl s.view
  cases hc with
  | shared hdb => exact .same (by rw [hdb.processInstances]) hdb.bpmnProcesses hdb.jsonData hdb.workItems
  | lane => exact { hsame with items := hitems _ _ fun _ => rfl }
  | @json _ tenantId data => exact { hsame with json := putJsonData_grows s.view tenantId _ data }
  | details _ f hf => exact .same (map_updateWhere fun p => (hf p).1) rfl rfl rfl
  | status _ f hf => exact .same (map_updateWhere hf) rfl rfl rfl
  | process _ hp f hf => exact { hsame with processes := updateBpmnProcess_grows s.view _ fun p => (hf p).1 }
  | snapshot => exact { hsame with processes := updateBpmnProcess_grows s.view _ fun _ => rfl }
  | item _ p f hp hf => exact { hsame with items := hitems p f fun w => congrArg ItemIdentity.id (hf w) }
  | newItem => exact { hsame with items := fun w hw => ⟨w, List.mem_append_left _ hw, rfl⟩ }
  | newProcess => exact { hsame with processes := fun r hr => ⟨r, List.mem_append_left _ hr, rfl⟩ }
  | newInstance =>
    exact { hsame with
      instances := fun p hp => ⟨p, List.mem_append_left _ hp, rfl⟩
      processes := fun r hr => ⟨r, List.mem_append_left _ hr, rfl⟩ }
  | _ => exact .same rfl rfl rfl rfl

theorem grows_of_steps {F : Focus} {L : List Touch} {s s' : Tx Ω} (h : Steps (Change env F) L s s') :
    Grows s.view s'.view :=
  Steps.keeps (R := fun s s' => Grows s.view s'.view) ⟨fun s => .refl s.view, Grows.trans⟩
    (fun _ _ _ _ hc => hc.grows) h

/-! ## Merging -/

theorem ProcessInstance.merge_identity {b v c : ProcessInstance} (h : c.identity = v.identity) :
    (ProcessInstance.merge b v c).identity = v.identity := by
  simp only [ProcessInstance.identity, InstanceIdentity.mk.injEq] at h
  obtain ⟨-, htenant, hprocess, hdefinition, hinitiator⟩ := h
  simp only [ProcessInstance.identity, ProcessInstance.merge, pick_agree htenant, pick_agree hprocess,
    pick_agree hdefinition, pick_agree hinitiator]

theorem WorkItem.merge_identity {b v c : WorkItem} (h : c.identity = v.identity) :
    (WorkItem.merge b v c).identity = v.identity := by
  simp only [WorkItem.identity, ItemIdentity.mk.injEq] at h
  obtain ⟨-, htenant, hinstance, hguid⟩ := h
  simp only [WorkItem.identity, WorkItem.merge, pick_agree htenant, pick_agree hinstance, pick_agree hguid]

theorem BpmnProcess.merge_identity {b v c : BpmnProcess} (h : c.identity = v.identity) :
    (BpmnProcess.merge b v c).identity = v.identity := by
  simp only [BpmnProcess.identity, ProcessIdentity.mk.injEq] at h
  obtain ⟨-, htenant, hdefinition⟩ := h
  simp only [BpmnProcess.identity, BpmnProcess.merge, pick_agree htenant, pick_agree hdefinition]

section
variable {seq : Nat} {base view committed : Db}

theorem merge_instanceIds (h : Keyed owner seq [view, committed]) {p : ProcessInstance}
    (hp : p ∈ (Db.merge base view committed).processInstances) :
    ∃ db ∈ [view, committed], ∃ p' ∈ db.processInstances, p'.identity = p.identity := by
  rcases mem_mergeTable hp with hp | hp | ⟨b, v, c, hv, hc, hkey, rfl⟩
  · exact ⟨view, by simp, p, hp, rfl⟩
  · exact ⟨committed, by simp, p, hp, rfl⟩
  · have hsame : c.identity = v.identity := h.instance_key _ (mem_instanceIds.2 ⟨committed, by simp, c, hc, rfl⟩) _
      (mem_instanceIds.2 ⟨view, by simp, v, hv, rfl⟩) hkey
    exact ⟨view, by simp, v, hv, (ProcessInstance.merge_identity hsame).symm⟩

theorem merge_itemIds (h : Keyed owner seq [view, committed]) {w : WorkItem}
    (hw : w ∈ (Db.merge base view committed).workItems) :
    ∃ db ∈ [view, committed], ∃ w' ∈ db.workItems, w'.identity = w.identity := by
  rcases mem_mergeTable hw with hw | hw | ⟨b, v, c, hv, hc, hkey, rfl⟩
  · exact ⟨view, by simp, w, hw, rfl⟩
  · exact ⟨committed, by simp, w, hw, rfl⟩
  · have hsame : c.identity = v.identity := h.item_key _ (mem_itemIds.2 ⟨committed, by simp, c, hc, rfl⟩) _
      (mem_itemIds.2 ⟨view, by simp, v, hv, rfl⟩) hkey
    exact ⟨view, by simp, v, hv, (WorkItem.merge_identity hsame).symm⟩

/-- A merged runtime process has the fixed columns and the payload of one of
its sources. -/
theorem merge_process (h : Keyed owner seq [view, committed]) {r : BpmnProcess}
    (hr : r ∈ (Db.merge base view committed).bpmnProcesses) :
    ∃ db ∈ [view, committed], ∃ r' ∈ db.bpmnProcesses, r'.identity = r.identity ∧ r'.jsonDataHash = r.jsonDataHash := by
  rcases mem_mergeTable hr with hr | hr | ⟨b, v, c, hv, hc, hkey, rfl⟩
  · exact ⟨view, by simp, r, hr, rfl, rfl⟩
  · exact ⟨committed, by simp, r, hr, rfl, rfl⟩
  · have hsame : c.identity = v.identity := h.process_key _ (mem_processIds.2 ⟨committed, by simp, c, hc, rfl⟩) _
      (mem_processIds.2 ⟨view, by simp, v, hv, rfl⟩) hkey
    have hmerged := BpmnProcess.merge_identity (b := b) hsame
    rcases pick_or b.jsonDataHash v.jsonDataHash c.jsonDataHash with hhash | hhash
    · exact ⟨view, by simp, v, hv, hmerged.symm, hhash.symm⟩
    · exact ⟨committed, by simp, c, hc, hsame.trans hmerged.symm, hhash.symm⟩

theorem merge_json {r : JsonData} (hview : ∀ r ∈ view.jsonData, env.Digested r.hash r.data)
    (hcommitted : ∀ r ∈ committed.jsonData, env.Digested r.hash r.data)
    (hr : r ∈ (Db.merge base view committed).jsonData) : env.Digested r.hash r.data := by
  rcases mem_mergeTable hr with hr | hr | ⟨b, v, c, hv, hc, hkey, rfl⟩
  · exact hview r hr
  · exact hcommitted r hr
  · rw [Prod.mk.injEq] at hkey
    simp only [JsonData.merge]
    rcases pick_or b.data v.data c.data with hdata | hdata
    · rw [hdata]
      exact hview v hv
    · rw [hdata, ← hkey.2]
      exact hcommitted c hc

theorem merge_task {t : Task} (hview : ∀ t ∈ view.tasks, owner t.guid = t.processInstanceId)
    (hcommitted : ∀ t ∈ committed.tasks, owner t.guid = t.processInstanceId)
    (ht : t ∈ (Db.merge base view committed).tasks) : owner t.guid = t.processInstanceId := by
  rcases mem_mergeTable ht with ht | ht | ⟨b, v, c, hv, hc, hkey, rfl⟩
  · exact hview t ht
  · exact hcommitted t ht
  · simp only [Task.merge]
    rcases pick_or b.processInstanceId v.processInstanceId c.processInstanceId with hid | hid
    · rw [hid]
      exact hview v hv
    · rw [hid, ← hkey]
      exact hcommitted c hc

theorem jsonData?_isSome {db : Db} {tenantId : TenantId} {hash : String} :
    (db.jsonData? tenantId hash).isSome ↔ ∃ r ∈ db.jsonData, (r.m8fTenantId, r.hash) = (tenantId, hash) := by
  simp [Db.jsonData?]

theorem bpmnProcess?_isSome {db : Db} {q : Nat} : (db.bpmnProcess? q).isSome ↔ ∃ r ∈ db.bpmnProcesses, r.id = q := by
  simp [Db.bpmnProcess?]

/-- A session's copy merged over what is committed is in order when both are
and nothing was deleted from what the session read. -/
theorem Integral.merge (h : Integral env owner seq [view, committed]) (hview : Grows base view)
    (hcommitted : Grows base committed) :
    Integral env owner seq [Db.merge base view committed, committed] := by
  have hids : instanceIds [Db.merge base view committed, committed] ⊆ instanceIds [view, committed] := by
    intro x hx
    obtain ⟨db, hdb, p, hp, rfl⟩ := mem_instanceIds.1 hx
    simp only [List.mem_cons, List.not_mem_nil, or_false] at hdb
    rcases hdb with rfl | rfl
    · exact mem_instanceIds.2 (merge_instanceIds h.keyed hp)
    · exact mem_instanceIds.2 ⟨_, by simp, p, hp, rfl⟩
  have hhas : ∀ db ∈ [view, committed], ∀ tenantId hash, (db.jsonData? tenantId hash).isSome →
      ((Db.merge base view committed).jsonData? tenantId hash).isSome := by
    intro db hdb tenantId hash hsome
    rw [jsonData?_isSome] at hsome ⊢
    simp only [List.mem_cons, List.not_mem_nil, or_false] at hdb
    have hside : (∃ r ∈ view.jsonData, (r.m8fTenantId, r.hash) = (tenantId, hash)) ∨
        ∃ r ∈ committed.jsonData, (r.m8fTenantId, r.hash) = (tenantId, hash) := by
      rcases hdb with rfl | rfl
      · exact .inl hsome
      · exact .inr hsome
    refine mergeTable_keys ?_ ?_ ?_ hside
    · exact fun _ _ _ _ => rfl
    · intro b hb
      obtain ⟨r, hr, htenant, hhash⟩ := hview.json b hb
      exact ⟨r, hr, by rw [htenant, hhash]⟩
    · intro b hb
      obtain ⟨r, hr, htenant, hhash⟩ := hcommitted.json b hb
      exact ⟨r, hr, by rw [htenant, hhash]⟩
  have hprocess : ∀ db ∈ [view, committed], ∀ q, (db.bpmnProcess? q).isSome →
      ((Db.merge base view committed).bpmnProcess? q).isSome := by
    intro db hdb q hsome
    rw [bpmnProcess?_isSome] at hsome ⊢
    simp only [List.mem_cons, List.not_mem_nil, or_false] at hdb
    have hside : (∃ r ∈ view.bpmnProcesses, r.id = q) ∨ ∃ r ∈ committed.bpmnProcesses, r.id = q := by
      rcases hdb with rfl | rfl
      · exact .inl hsome
      · exact .inr hsome
    refine mergeTable_keys ?_ hview.processes hcommitted.processes hside
    exact fun _ _ _ _ => rfl
  refine ⟨?_, ?_, ?_⟩
  · refine h.keyed.subset hids (fun x hx => ?_) (fun x hx => ?_) fun db hdb => ?_
    · obtain ⟨db, hdb, r, hr, rfl⟩ := mem_processIds.1 hx
      simp only [List.mem_cons, List.not_mem_nil, or_false] at hdb
      rcases hdb with rfl | rfl
      · obtain ⟨db', hdb', r', hr', hsame, -⟩ := merge_process h.keyed hr
        exact mem_processIds.2 ⟨db', hdb', r', hr', hsame⟩
      · exact mem_processIds.2 ⟨_, by simp, r, hr, rfl⟩
    · obtain ⟨db, hdb, w, hw, rfl⟩ := mem_itemIds.1 hx
      simp only [List.mem_cons, List.not_mem_nil, or_false] at hdb
      rcases hdb with rfl | rfl
      · exact mem_itemIds.2 (merge_itemIds h.keyed hw)
      · exact mem_itemIds.2 ⟨_, by simp, w, hw, rfl⟩
    · simp only [List.mem_cons, List.not_mem_nil, or_false] at hdb
      rcases hdb with rfl | rfl
      · have hi₁ := h.keyed.instances_nodup view (by simp)
        have hi₂ := h.keyed.instances_nodup committed (by simp)
        have hw₁ := h.keyed.items_nodup view (by simp)
        have hw₂ := h.keyed.items_nodup committed (by simp)
        rw [List.map_map] at hi₁ hi₂ hw₁ hw₂ ⊢
        rw [List.map_map]
        exact ⟨nodup_mergeTable (fun _ _ _ _ => rfl) hi₁ hi₂, nodup_mergeTable (fun _ _ _ _ => rfl) hw₁ hw₂⟩
      · exact ⟨h.keyed.instances_nodup _ (by simp), h.keyed.items_nodup _ (by simp)⟩
  · constructor
    · intro db hdb r hr
      simp only [List.mem_cons, List.not_mem_nil, or_false] at hdb
      rcases hdb with rfl | rfl
      · exact merge_json (h.stored.json_hash view (by simp)) (h.stored.json_hash committed (by simp)) hr
      · exact h.stored.json_hash _ (by simp) r hr
    · intro db hdb r hr x hx hxr
      simp only [List.mem_cons, List.not_mem_nil, or_false] at hdb
      rcases hdb with rfl | rfl
      · obtain ⟨db', hdb', r', hr', hsame, hhash⟩ := merge_process h.keyed hr
        rw [← hhash]
        have hid : r'.id = r.id := congrArg ProcessIdentity.id hsame
        exact h.stored.owned db' hdb' r' hr' x (hids hx) (by rw [hid]; exact hxr)
      · exact h.stored.owned _ (by simp) r hr x (hids hx) hxr
    · intro db hdb r hr
      simp only [List.mem_cons, List.not_mem_nil, or_false] at hdb
      rcases hdb with rfl | rfl
      · obtain ⟨db', hdb', r', hr', hsame, hhash⟩ := merge_process h.keyed hr
        have htenant : r'.m8fTenantId = r.m8fTenantId := congrArg ProcessIdentity.tenantId hsame
        rw [← hhash, ← htenant]
        exact hhas db' hdb' _ _ (h.stored.has_json db' hdb' r' hr')
      · exact h.stored.has_json _ (by simp) r hr
    · intro db hdb p hp q hq
      simp only [List.mem_cons, List.not_mem_nil, or_false] at hdb
      rcases hdb with rfl | rfl
      · obtain ⟨db', hdb', p', hp', hsame⟩ := merge_instanceIds h.keyed hp
        have hpq : p'.bpmnProcessId = p.bpmnProcessId := congrArg InstanceIdentity.processId hsame
        exact hprocess db' hdb' q (h.stored.has_process db' hdb' p' hp' q (hpq.trans hq))
      · exact h.stored.has_process _ (by simp) p hp q hq
  · intro db hdb t ht
    simp only [List.mem_cons, List.not_mem_nil, or_false] at hdb
    rcases hdb with rfl | rfl
    · exact merge_task (h.tasks view (by simp)) (h.tasks committed (by simp)) ht
    · exact h.tasks _ (by simp) t ht

/-- More ids may have been handed out. -/
theorem Integral.mono {seq' : Nat} {dbs : List Db} (hseq : seq ≤ seq') (h : Integral env owner seq dbs) :
    Integral env owner seq' dbs :=
  ⟨h.keyed.same hseq rfl rfl rfl fun db hdb => ⟨h.keyed.instances_nodup db hdb, h.keyed.items_nodup db hdb⟩, h.stored, h.tasks⟩

/-- The items of the merged copy are those of the session's copy. -/
theorem shown_merge (h : Integral env owner seq [view, committed]) (hview : Grows base view)
    (hcommitted : Grows base committed)
    (hshown : committed.workItems.map (·.identity) ⊆ view.workItems.map (·.identity)) :
    committed.workItems.map (·.identity) ⊆ (Db.merge base view committed).workItems.map (·.identity) := by
  intro x hx
  obtain ⟨v, hv, hvx⟩ := List.mem_map.1 (hshown hx)
  have hkeys : ∃ w ∈ (Db.merge base view committed).workItems, w.id = v.id := by
    refine mergeTable_keys ?_ hview.items hcommitted.items (.inl ⟨v, hv, rfl⟩)
    exact fun _ _ _ _ => rfl
  obtain ⟨w, hw, hid⟩ := hkeys
  obtain ⟨db, hdb, w', hw', hsame⟩ := merge_itemIds h.keyed hw
  have hid' : w'.id = v.id := (congrArg ItemIdentity.id hsame).trans hid
  have hwv := h.keyed.item_key _ (mem_itemIds.2 ⟨db, hdb, w', hw', rfl⟩) _ (mem_itemIds.2 ⟨view, by simp, v, hv, rfl⟩) hid'
  exact List.mem_map.2 ⟨w, hw, hsame.symm.trans (hwv.trans hvx)⟩

end

/-! ## A session in order -/

/-- The session's copy and what is committed are in order, and nothing that
the session read has been deleted from either. -/
structure Sound (env : Env W Ω) (owner : Guid → Nat) (s : Tx Ω) : Prop where
  integral : Integral env owner s.seq [s.view, s.committed]
  shown : Shown [s.committed] s
  grows_view : Grows s.base s.view
  grows_committed : Grows s.base s.committed

theorem Sound.begin {seq : Nat} {db : Db} (h : Integral env owner seq [db]) (world : Ω) :
    Sound env owner (Tx.begin seq db world) where
  integral := h.subset fun d hd => by
    simp only [Tx.begin, List.mem_cons, List.not_mem_nil, or_false, or_self] at hd
    simp [hd]
  shown db hdb := by
    simp only [List.mem_singleton] at hdb
    subst hdb
    exact List.Subset.refl _
  grows_view := .refl db
  grows_committed := .refl db

/-- The focus is on an instance of the session's copy, with its own guids. -/
structure Focus.Fits (F : Focus) (owner : Guid → Nat) (s : Tx Ω) : Prop where
  guids : ∀ g, F.guids g → owner g = F.instanceId
  known : F.Known [s.view, s.committed]

theorem Sound.steps {F : Focus} {L : List Touch} {s s' : Tx Ω} (hlaw : env.Lawful) (hF : F.Fits owner s)
    (hsteps : Steps (Change env F) L s s') (h : Sound env owner s) : Sound env owner s' := by
  obtain ⟨hbase, hcommitted⟩ := Steps.keeps (R := fun s s' : Tx Ω => s'.base = s.base ∧ s'.committed = s.committed)
    ⟨fun _ => ⟨rfl, rfl⟩, fun h₁ h₂ => ⟨h₂.1.trans h₁.1, h₂.2.trans h₁.2⟩⟩ (fun _ _ _ _ hc => hc.committed) hsteps
  have hshown : Shown [s.committed] s' := hsteps.inv (fun _ _ _ _ hc => Shown.change hc) h.shown
  refine ⟨?_, ?_, ?_, ?_⟩
  · rw [hcommitted]
    exact h.integral.steps hlaw hF.guids (fun _ => hF.known) (fun _ => h.shown) hsteps
  · rw [hcommitted]
    exact hshown
  · rw [hbase]
    exact h.grows_view.trans (grows_of_steps hsteps)
  · rw [hbase, hcommitted]
    exact h.grows_committed

theorem Focus.Fits.steps {F F' : Focus} {L : List Touch} {s s' : Tx Ω} (hsteps : Steps (Change env F') L s s')
    (h : F.Fits owner s) : F.Fits owner s' := by
  have hcommitted : s'.committed = s.committed := Steps.keeps (R := fun s s' : Tx Ω => s'.committed = s.committed)
    ⟨fun _ => rfl, fun h₁ h₂ => h₂.trans h₁⟩ (fun _ _ _ _ hc => hc.committed.2) hsteps
  refine ⟨h.guids, ?_⟩
  rw [hcommitted]
  exact hsteps.inv (P := fun s₁ => F.Known [s₁.view, s.committed]) (fun _ _ _ _ hc => Focus.Known.change hc) h.known

theorem Sound.refresh {s : Tx Ω} (h : Sound env owner s) :
    Sound env owner { s with base := s.committed, view := Db.merge s.base s.view s.committed } where
  integral := h.integral.merge h.grows_view h.grows_committed
  shown db hdb := by
    simp only [List.mem_singleton] at hdb
    subst hdb
    exact shown_merge h.integral h.grows_view h.grows_committed (h.shown _ (by simp))
  grows_view := by
    constructor
    · intro p hp
      refine mergeTable_keys ?_ h.grows_view.instances h.grows_committed.instances (.inr ⟨p, hp, rfl⟩)
      exact fun _ _ _ _ => rfl
    · intro r hr
      refine mergeTable_keys ?_ h.grows_view.processes h.grows_committed.processes (.inr ⟨r, hr, rfl⟩)
      exact fun _ _ _ _ => rfl
    · intro r hr
      have hkeys : ∃ r' ∈ (Db.merge s.base s.view s.committed).jsonData,
          (r'.m8fTenantId, r'.hash) = (r.m8fTenantId, r.hash) := by
        refine mergeTable_keys ?_ ?_ ?_ (.inr ⟨r, hr, rfl⟩)
        · exact fun _ _ _ _ => rfl
        · intro b hb
          obtain ⟨r', hr', htenant, hhash⟩ := h.grows_view.json b hb
          exact ⟨r', hr', by rw [htenant, hhash]⟩
        · intro b hb
          obtain ⟨r', hr', htenant, hhash⟩ := h.grows_committed.json b hb
          exact ⟨r', hr', by rw [htenant, hhash]⟩
      obtain ⟨r', hr', hkey⟩ := hkeys
      rw [Prod.mk.injEq] at hkey
      exact ⟨r', hr', hkey⟩
    · intro w hw
      refine mergeTable_keys ?_ h.grows_view.items h.grows_committed.items (.inr ⟨w, hw, rfl⟩)
      exact fun _ _ _ _ => rfl
  grows_committed := .refl _

/-- A second session on what is committed, while the first one waits. -/
theorem Sound.fork {s : Tx Ω} (h : Sound env owner s) :
    Integral env owner s.fork.seq (s.fork.view :: [s.committed, s.view]) := by
  refine h.integral.subset fun db hdb => ?_
  simp only [Tx.fork, List.mem_cons, List.not_mem_nil, or_false] at hdb
  rcases hdb with rfl | rfl | rfl <;> simp

/-- What the second session leaves is committed: it may have changed rows and
added instances, but no work items. -/
theorem Sound.committed {s s' : Tx Ω} (h : Sound env owner s)
    (hintegral : Integral env owner s'.seq (s'.view :: [s.committed, s.view])) (hgrows : Grows s.committed s'.view)
    (hitems : s'.view.workItems.map (·.identity) = s.committed.workItems.map (·.identity)) :
    Sound env owner { s' with base := s.base, view := s.view, committed := s'.view } where
  integral := hintegral.subset fun db hdb => by
    simp only [List.mem_cons, List.not_mem_nil, or_false] at hdb
    rcases hdb with rfl | rfl <;> simp
  shown db hdb := by
    simp only [List.mem_singleton] at hdb
    subst hdb
    rw [hitems]
    exact h.shown _ (by simp)
  grows_view := h.grows_view
  grows_committed := h.grows_committed.trans hgrows

/-- The second session is dropped. -/
theorem Sound.dropped {s s' : Tx Ω} (h : Sound env owner s) (hseq : s.seq ≤ s'.seq) :
    Sound env owner { s' with base := s.base, view := s.view, committed := s.committed } :=
  ⟨h.integral.mono hseq, h.shown, h.grows_view, h.grows_committed⟩

end
end M8flowCore
