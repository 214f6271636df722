import M8flowCore.ItemFields
import M8flowCore.MirrorRuns
import M8flowCore.Services.Queries
/-!
# What the queries tell

A query writes nothing and answers from the rows of its tenant. A user's
pending tasks are the ones the user may claim or complete, and a task stays
pending until it is closed. What is once read of a history is read again.
-/
open M8flowCore.Lib M8flowCore.Session

namespace M8flowCore

section
variable {Ω : Type}

/-! ## Reading only -/

theorem getPendingTasks_readOnly (tenantId : TenantId) (userId : Option Nat) :
    (getPendingTasks (Ω := Ω) tenantId userId).ReadOnly := by
  cases userId with
  | none => exact Prog.keeps_gets Prog.frame_eq _
  | some userId =>
    exact Prog.keeps_bind Prog.frame_eq (ensureUserBelongsToTenant_readOnly _ _) fun _ => Prog.keeps_gets Prog.frame_eq _

theorem listProcessInstances_readOnly (tenantId : TenantId) (status : Option StatusArg) :
    (listProcessInstances (Ω := Ω) tenantId status).ReadOnly := by
  cases status with
  | none => exact Prog.keeps_gets Prog.frame_eq _
  | some status => exact Prog.keeps_bind Prog.frame_eq (ofExcept_readOnly _) fun _ => Prog.keeps_gets Prog.frame_eq _

theorem getProcessInstanceEvents_readOnly (tenantId : TenantId) (processInstanceId : Nat) :
    (getProcessInstanceEvents (Ω := Ω) tenantId processInstanceId).ReadOnly :=
  Prog.keeps_bind Prog.frame_eq (loadProcessInstance_readOnly _ _) fun _ => Prog.keeps_gets Prog.frame_eq _

/-- A query leaves the session as it found it. -/
theorem executeQuery_readOnly (q : Query) : (executeQuery (Ω := Ω) q).ReadOnly := by
  have hpure : ∀ {α : Type} {m : M Ω α} (f : α → Answer), m.ReadOnly → Prog.ReadOnly (do pure (f (← m)) : M Ω Answer) :=
    fun f hm => Prog.keeps_bind Prog.frame_eq hm fun _ => Prog.keeps_pure Prog.frame_eq _
  cases q with
  | getPendingTasks tenantId userId => exact hpure _ (getPendingTasks_readOnly _ _)
  | getProcessInstanceEvents tenantId i => exact hpure _ (getProcessInstanceEvents_readOnly _ _)
  | getProcessInstanceMetadata tenantId i =>
    exact hpure _ (Prog.keeps_bind Prog.frame_eq (loadProcessInstance_readOnly _ _) fun _ => Prog.keeps_gets Prog.frame_eq _)
  | getProcessInstance tenantId i => exact hpure _ (loadProcessInstance_readOnly _ _)
  | listErrorProcessInstances tenantId => exact hpure _ (listProcessInstances_readOnly _ _)
  | listProcessInstances tenantId status => exact hpure _ (listProcessInstances_readOnly _ _)
  | listSuspendedProcessInstances tenantId => exact hpure _ (listProcessInstances_readOnly _ _)
  | listTerminatedProcessInstances tenantId => exact hpure _ (listProcessInstances_readOnly _ _)

end

/-! ## Pending tasks -/

section
variable {W Ω : Type} {env : Env W Ω} {owner : Guid → Nat} {s s' : Tx Ω} {st st₀ : Store} {ops : List Operation} {db db' : Db}
  {tenantId : TenantId} {userId workItemId : Nat} {item : WorkItem} {d : Deed}

theorem mem_pendingTasks {user : Option Nat} : item ∈ db.pendingTasks tenantId user ↔
    item ∈ db.workItems ∧ item.m8fTenantId = tenantId ∧ item.completed = false ∧
      ∀ userId ∈ user, userIsAssigned db tenantId item.id userId = true := by
  unfold Db.pendingTasks sortById
  rw [List.mem_insertionSort, List.mem_filter]
  simp only [Bool.and_eq_true, beq_iff_eq, Bool.not_eq_true', Option.all_eq_true, Option.mem_def, and_assoc]

theorem getPendingTasks_ok {items : List WorkItem} :
    (getPendingTasks tenantId (some userId)).run s = (.ok items, s') ↔
      s.view.isMember tenantId userId = true ∧ items = s.view.pendingTasks tenantId (some userId) ∧ s = s' := by
  unfold getPendingTasks query
  constructor
  · intro h
    obtain ⟨user, s₁, huser, h₁⟩ := Prog.bind_ok.1 h
    obtain ⟨-, hmember, rfl⟩ := ensureUserBelongsToTenant_ok.1 huser
    obtain ⟨rfl, rfl⟩ := Prog.gets_ok.1 h₁
    exact ⟨hmember, rfl, rfl⟩
  · rintro ⟨hmember, rfl, rfl⟩
    obtain ⟨user, huser⟩ := user_of_isMember hmember
    rw [Prog.bind_run_ok (ensureUserBelongsToTenant_ok.2 ⟨huser, hmember, rfl⟩)]
    exact Prog.gets_ok.2 ⟨rfl, rfl⟩

/-- The checks a command on a work item starts with, exactly. -/
theorem openWorkItemCommand_iff {commandKey : String} :
    (openWorkItemCommand env tenantId workItemId userId commandKey).run s = (.ok item, s') ↔
      s.view.isMember tenantId userId = true ∧ s.view.tenantWorkItem? tenantId workItemId = some item ∧
        env.Allows s.view tenantId userId commandKey .task (orText item.taskGuid (toString item.id))
          (taskAuthorizationMetadata s.view item) ∧ s = s' := by
  unfold openWorkItemCommand loadWorkItem query
  constructor
  · intro h
    obtain ⟨user, s₁, huser, h₁⟩ := Prog.bind_ok.1 h
    obtain ⟨-, hmember, rfl⟩ := ensureUserBelongsToTenant_ok.1 huser
    obtain ⟨loaded, s₂, hload, h₂⟩ := Prog.bind_ok.1 h₁
    simp only [Prog.gets_bind_run] at hload h₂
    obtain ⟨hfound, rfl⟩ := Prog.orRaise_ok.1 hload
    obtain ⟨_, s₃, hallowed, h₃⟩ := Prog.bind_ok.1 h₂
    obtain ⟨hallows, rfl⟩ := (requireCommandAuthorization_ok env).1 hallowed
    obtain ⟨rfl, rfl⟩ := Prog.pure_ok.1 h₃
    exact ⟨hmember, hfound, hallows, rfl⟩
  · rintro ⟨hmember, hfound, hallows, rfl⟩
    obtain ⟨user, huser⟩ := user_of_isMember hmember
    rw [Prog.bind_run_ok (ensureUserBelongsToTenant_ok.2 ⟨huser, hmember, rfl⟩)]
    simp only [Prog.bind_assoc, Prog.gets_bind_run, hfound, Prog.orRaise_some, Prog.pure_bind]
    rw [Prog.bind_run_ok ((requireCommandAuthorization_ok env (u := ())).2 ⟨hallows, rfl⟩)]
    exact Prog.pure_ok.2 ⟨rfl, rfl⟩

/-- A row of the tenant is the one that is loaded. -/
theorem tenantWorkItem?_iff (hids : (db.workItems.map (·.id)).Nodup) :
    db.tenantWorkItem? tenantId workItemId = some item ↔
      item ∈ db.workItems ∧ item.m8fTenantId = tenantId ∧ item.id = workItemId := by
  unfold Db.tenantWorkItem?
  constructor
  · intro h
    have hkey := List.find?_some h
    simp only [Bool.and_eq_true, beq_iff_eq] at hkey
    exact ⟨List.mem_of_find?_eq_some h, hkey⟩
  · rintro ⟨hitem, htenant, hid⟩
    cases hfound : db.workItems.find? fun w => w.m8fTenantId == tenantId && w.id == workItemId with
    | none =>
      have := List.find?_eq_none.1 hfound item hitem
      simp [htenant, hid] at this
    | some found =>
      have hkey := List.find?_some hfound
      simp only [Bool.and_eq_true, beq_iff_eq] at hkey
      rw [eq_of_nodup_map hids (List.mem_of_find?_eq_some hfound) hitem (hkey.2.trans hid.symm)]

theorem claimTaskChecks_iff :
    (claimTaskChecks env tenantId workItemId userId).run s = (.ok item, s') ↔
      (openWorkItemCommand env tenantId workItemId userId taskClaimCommand).run s = (.ok item, s') ∧
        item.completed = false ∧ userIsAssigned s.view tenantId item.id userId = true ∧
        (item.actualOwnerId = none ∨ item.actualOwnerId = some userId) := by
  unfold claimTaskChecks
  constructor
  · intro h
    obtain ⟨loaded, s₁, hopen, h₁⟩ := Prog.bind_ok.1 h
    obtain rfl := (openWorkItemCommand_readOnly env _ _ _ _).state hopen
    split at h₁
    · simp at h₁
    rename_i hcompleted
    simp only [query, Prog.gets_bind_run] at h₁
    split at h₁
    · simp at h₁
    rename_i hassigned
    split at h₁
    · simp at h₁
    rename_i howner
    obtain ⟨rfl, rfl⟩ := Prog.pure_ok.1 h₁
    refine ⟨hopen, Bool.eq_false_iff.2 hcompleted, by simpa using hassigned, ?_⟩
    cases hactual : loaded.actualOwnerId with
    | none => exact .inl rfl
    | some other => simpa [hactual] using howner
  · rintro ⟨hopen, hcompleted, hassigned, howner⟩
    obtain rfl := (openWorkItemCommand_readOnly env _ _ _ _).state hopen
    rw [Prog.bind_run_ok hopen]
    have hmine : ¬ (item.actualOwnerId.isSome ∧ item.actualOwnerId ≠ some userId) := by
      rcases howner with h | h <;> simp [h]
    simp [hcompleted, query, hassigned, hmine]

theorem completeTaskChecks_iff :
    (completeTaskChecks env tenantId workItemId userId).run s = (.ok item, s') ↔
      (openWorkItemCommand env tenantId workItemId userId taskCompleteCommand).run s = (.ok item, s') ∧
        item.completed = false ∧ userIsAssigned s.view tenantId item.id userId = true ∧ item.actualOwnerId = some userId := by
  unfold completeTaskChecks
  constructor
  · intro h
    obtain ⟨loaded, s₁, hopen, h₁⟩ := Prog.bind_ok.1 h
    obtain rfl := (openWorkItemCommand_readOnly env _ _ _ _).state hopen
    split at h₁
    · simp at h₁
    rename_i hcompleted
    simp only [query, Prog.gets_bind_run] at h₁
    split at h₁
    · simp at h₁
    rename_i hassigned
    split at h₁
    · simp at h₁
    split at h₁
    · simp at h₁
    rename_i howner
    obtain ⟨rfl, rfl⟩ := Prog.pure_ok.1 h₁
    exact ⟨hopen, Bool.eq_false_iff.2 hcompleted, by simpa using hassigned, not_not.1 howner⟩
  · rintro ⟨hopen, hcompleted, hassigned, howner⟩
    obtain rfl := (openWorkItemCommand_readOnly env _ _ _ _).state hopen
    rw [Prog.bind_run_ok hopen]
    simp [hcompleted, query, hassigned, howner]

/-- A claim that passes its checks meets its row. -/
theorem claimTask_iff (hids : (s.view.workItems.map (·.id)).Nodup) :
    (∃ s', (claimTask env tenantId workItemId userId).run s = (.ok (), s')) ↔
      ∃ item, (claimTaskChecks env tenantId workItemId userId).run s = (.ok item, s) := by
  unfold claimTask
  constructor
  · rintro ⟨s', h⟩
    obtain ⟨item, s₁, hchecks, -⟩ := Prog.bind_ok.1 h
    obtain rfl := (claimTaskChecks_readOnly env _ _ _).state hchecks
    exact ⟨item, hchecks⟩
  · rintro ⟨item, hchecks⟩
    rw [Prog.bind_run_ok hchecks, claimTaskUpdate_run]
    obtain ⟨hopen, hcompleted, -, howner⟩ := claimTaskChecks_iff.1 hchecks
    obtain ⟨-, hfound, -⟩ := openWorkItemCommand_iff.1 hopen
    obtain ⟨hitem, htenant, hid⟩ := (tenantWorkItem?_iff hids).1 hfound
    have hmine : claimable tenantId item.id userId item = true := by
      unfold claimable
      rcases howner with h | h <;> simp [htenant, hcompleted, h]
    have hcount : s.view.claimRowCount tenantId item.id userId = 1 := by
      have hmem : item ∈ s.view.workItems.filter (claimable tenantId item.id userId) := List.mem_filter.2 ⟨hitem, hmine⟩
      unfold Db.claimRowCount
      rw [List.countP_eq_length_filter]
      have hone : ∀ a ∈ s.view.workItems.filter (claimable tenantId item.id userId),
          ∀ b ∈ s.view.workItems.filter (claimable tenantId item.id userId), a = b := by
        intro a ha b hb
        obtain ⟨ha, hida⟩ := List.mem_filter.1 ha
        obtain ⟨hb, hidb⟩ := List.mem_filter.1 hb
        simp only [claimable, Bool.and_eq_true, beq_iff_eq] at hida hidb
        exact eq_of_nodup_map hids ha hb (hida.1.1.1.trans hidb.1.1.1.symm)
      rcases eq_nil_or_singleton ((List.Nodup.of_map _ hids).filter _) hone with hnil | ⟨a, ha⟩
      · simp [hnil] at hmem
      · rw [ha, List.length_singleton]
    rw [if_pos hcount]
    exact ⟨_, rfl⟩

/-- **The pending tasks of a user are the tasks the user may act on.** A claim is
accepted exactly for a task on the user's list that nobody else has claimed, and
a completion gets past its checks exactly for a task on the list that the user
has claimed; the policy must permit the command. Of the store only the primary
key of its work items is asked. -/
theorem pending_is_actionable (env : Env W Ω) (hids : (st.db.workItems.map (·.id)).Nodup) (world : Ω) (tenantId : TenantId)
    (workItemId userId : Nat) :
    ((∃ s', (claimTask env tenantId workItemId userId).run (st.session world) = (.ok (), s')) ↔
      ∃ items, (getPendingTasks tenantId (some userId)).run (st.session world) = (.ok items, st.session world) ∧
        ∃ item ∈ items, item.id = workItemId ∧ (item.actualOwnerId = none ∨ item.actualOwnerId = some userId) ∧
          env.Allows st.db tenantId userId taskClaimCommand .task (orText item.taskGuid (toString item.id))
            (taskAuthorizationMetadata st.db item)) ∧
    ((∃ item, (completeTaskChecks env tenantId workItemId userId).run (st.session world) = (.ok item, st.session world)) ↔
      ∃ items, (getPendingTasks tenantId (some userId)).run (st.session world) = (.ok items, st.session world) ∧
        ∃ item ∈ items, item.id = workItemId ∧ item.actualOwnerId = some userId ∧
          env.Allows st.db tenantId userId taskCompleteCommand .task (orText item.taskGuid (toString item.id))
            (taskAuthorizationMetadata st.db item)) := by
  have hids : ((st.session world).view.workItems.map (·.id)).Nodup := hids
  constructor
  · rw [claimTask_iff hids]
    constructor
    · rintro ⟨item, hchecks⟩
      obtain ⟨hopen, hcompleted, hassigned, howner⟩ := claimTaskChecks_iff.1 hchecks
      obtain ⟨hmember, hfound, hallows, -⟩ := openWorkItemCommand_iff.1 hopen
      obtain ⟨hitem, htenant, hid⟩ := (tenantWorkItem?_iff hids).1 hfound
      refine ⟨_, getPendingTasks_ok.2 ⟨hmember, rfl, rfl⟩, item, ?_, hid, howner, hallows⟩
      exact mem_pendingTasks.2 ⟨hitem, htenant, hcompleted, by simpa using hassigned⟩
    · rintro ⟨items, hitems, item, hmem, hid, howner, hallows⟩
      obtain ⟨hmember, rfl, -⟩ := getPendingTasks_ok.1 hitems
      obtain ⟨hitem, htenant, hcompleted, hassigned⟩ := mem_pendingTasks.1 hmem
      refine ⟨item, claimTaskChecks_iff.2 ⟨?_, hcompleted, hassigned userId rfl, howner⟩⟩
      exact openWorkItemCommand_iff.2 ⟨hmember, (tenantWorkItem?_iff hids).2 ⟨hitem, htenant, hid⟩, hallows, rfl⟩
  · constructor
    · rintro ⟨item, hchecks⟩
      obtain ⟨hopen, hcompleted, hassigned, howner⟩ := completeTaskChecks_iff.1 hchecks
      obtain ⟨hmember, hfound, hallows, -⟩ := openWorkItemCommand_iff.1 hopen
      obtain ⟨hitem, htenant, hid⟩ := (tenantWorkItem?_iff hids).1 hfound
      refine ⟨_, getPendingTasks_ok.2 ⟨hmember, rfl, rfl⟩, item, ?_, hid, howner, hallows⟩
      exact mem_pendingTasks.2 ⟨hitem, htenant, hcompleted, by simpa using hassigned⟩
    · rintro ⟨items, hitems, item, hmem, hid, howner, hallows⟩
      obtain ⟨hmember, rfl, -⟩ := getPendingTasks_ok.1 hitems
      obtain ⟨hitem, htenant, hcompleted, hassigned⟩ := mem_pendingTasks.1 hmem
      refine ⟨item, completeTaskChecks_iff.2 ⟨?_, hcompleted, hassigned userId rfl, howner⟩⟩
      exact openWorkItemCommand_iff.2 ⟨hmember, (tenantWorkItem?_iff hids).2 ⟨hitem, htenant, hid⟩, hallows, rfl⟩

/-! ## Pending until closed -/

/-- No item changes its id, its tenant, its instance or its task. -/
theorem Write.identities (h : Write env d db db') :
    db'.workItems.map (·.identity) = db.workItems.map (·.identity) ∨
      ∃ x : ItemIdentity, d = .item x.instanceId x.id ∧
        db'.workItems.map (·.identity) = db.workItems.map (·.identity) ++ [x] := by
  cases h with
  | elsewhere hsame =>
    have hitems : db'.tracked.workItems = db.tracked.workItems := congrArg Db.workItems hsame
    exact .inl (congrArg (List.map (·.identity)) hitems)
  | close => exact .inl (map_updateWhere fun _ => rfl)
  | reopen => exact .inl (map_updateWhere fun _ => rfl)
  | claim => exact .inl (map_updateWhere fun _ => rfl)
  | complete => exact .inl (map_updateWhere fun _ => rfl)
  | inactive => exact .inl (map_updateWhere fun _ => rfl)
  | prepare => exact .inl (map_updateWhere fun _ => rfl)
  | lane => exact .inl (map_updateWhere fun _ => rfl)
  | newItem _ pi guid occurredAt id =>
    refine .inr ⟨(newWorkItem pi guid occurredAt id).identity, rfl, ?_⟩
    rw [List.map_append]
    rfl
  | _ => exact .inl rfl

/-- The item is there, and no other item has its id. -/
structure Db.HasItem (db : Db) (x : ItemIdentity) : Prop where
  kept : x ∈ db.workItems.map (·.identity)
  only : ∀ y ∈ db.workItems.map (·.identity), y.id = x.id → y = x

theorem Db.HasItem.write {x : ItemIdentity} {n n' : Nat} (hx : x.id < n) (h : Write env d db db') (htakes : d.Takes n n')
    (hdb : db.HasItem x) : db'.HasItem x := by
  rcases h.identities with hsame | ⟨y, rfl, hnew⟩
  · exact ⟨hsame ▸ hdb.kept, hsame ▸ hdb.only⟩
  · obtain ⟨hfresh, -⟩ := htakes
    refine ⟨by rw [hnew]; exact List.mem_append_left _ hdb.kept, fun z hz hid => ?_⟩
    rw [hnew] at hz
    rcases List.mem_append.1 hz with hz | hz
    · exact hdb.only z hz hid
    · rw [List.mem_singleton] at hz
      subst hz
      omega

theorem Db.HasItem.merge {x : ItemIdentity} {base view committed : Db} (hview : view.HasItem x) (hcommitted : committed.HasItem x) :
    (Db.merge base view committed).HasItem x := by
  have honly : ∀ {db : Db}, db.HasItem x → ∀ w ∈ db.workItems, w.id = x.id → w.identity = x := fun h w hw hid =>
    h.only _ (List.mem_map_of_mem hw) hid
  have hrow : ∀ {db : Db}, db.HasItem x → ∃ w, rowAt WorkItem.id db.workItems x.id = some w ∧ w.identity = x := by
    intro db h
    obtain ⟨w, hw, hid⟩ := List.mem_map.1 h.kept
    have hsome : (rowAt WorkItem.id db.workItems x.id).isSome := rowAt_isSome.2 ⟨w, hw, congrArg ItemIdentity.id hid⟩
    obtain ⟨r, hr⟩ := Option.isSome_iff_exists.1 hsome
    exact ⟨r, hr, honly h r (rowAt_some hr).2 (rowAt_some hr).1⟩
  constructor
  · obtain ⟨v, hv, hvx⟩ := hrow hview
    obtain ⟨c, hc, hcx⟩ := hrow hcommitted
    have hmerged : rowAt WorkItem.id (mergeTable WorkItem.id WorkItem.merge base.workItems view.workItems committed.workItems)
        x.id = _ := rowAt_mergeTable_eq (fun b r c _ _ => (rfl : (b.merge r c).id = r.id)) fun _ => by rw [hv]; rfl
    rw [hv, hc, Option.elim_some] at hmerged
    have hkept : ∃ w, rowAt WorkItem.id (mergeTable WorkItem.id WorkItem.merge base.workItems view.workItems committed.workItems)
        x.id = some w ∧ w.identity = x := by
      rw [hmerged]
      cases rowAt WorkItem.id base.workItems x.id with
      | none => exact ⟨v, rfl, hvx⟩
      | some b =>
        rw [Option.elim_some]
        split
        · exact ⟨c, rfl, hcx⟩
        · exact ⟨_, rfl, (WorkItem.merge_identity (hcx.trans hvx.symm)).trans hvx⟩
    obtain ⟨w, hw, hwx⟩ := hkept
    exact List.mem_map.2 ⟨w, (rowAt_some hw).2, hwx⟩
  · rintro y hy hid
    obtain ⟨w, hw, rfl⟩ := List.mem_map.1 hy
    rcases mem_mergeTable hw with hw | hw | ⟨b, v, c, hv, hc, hkey, rfl⟩
    · exact honly hview w hw hid
    · exact honly hcommitted w hw hid
    · have hvx := honly hview v hv hid
      exact (WorkItem.merge_identity ((honly hcommitted c hc (hkey.trans hid)).trans hvx.symm)).trans hvx

theorem userIsAssigned_mono (h : db.workItemUsers ⊆ db'.workItemUsers) (hassigned : userIsAssigned db tenantId workItemId userId = true) :
    userIsAssigned db' tenantId workItemId userId = true := by
  obtain ⟨row, hrow, hmatch⟩ := List.any_eq_true.1 hassigned
  exact List.any_eq_true.2 ⟨row, h hrow, hmatch⟩

/-- It makes no item. -/
theorem Deed.Beside.takes (hd : d.Beside) (n : Nat) : d.Takes n n := by
  cases d with
  | item => exact absurd hd id
  | _ => exact le_refl n

/-- A session of the library's own gives nobody a share. -/
theorem Write.beside_users (hd : d.Beside) (h : Write env d db db') : db'.workItemUsers = db.workItemUsers := by
  cases h with
  | elsewhere hsame =>
    have husers : db'.tracked.workItemUsers = db.tracked.workItemUsers := congrArg Db.workItemUsers hsame
    exact husers
  | owner => exact absurd hd id
  | _ => rfl

/-- The item, and the user's share in it, are in the copy of the session and in
what is committed. -/
structure Shared (x : ItemIdentity) (tenantId : TenantId) (userId n : Nat) (base view committed : Db) : Prop where
  old : x.id < n
  stays : view.HasItem x
  stored : committed.HasItem x
  mine : userIsAssigned view tenantId x.id userId = true
  theirs : userIsAssigned committed tenantId x.id userId = true
  alone : committed.workItemUsers = base.workItemUsers

theorem Shared.merge_users {x : ItemIdentity} {n : Nat} {base view committed : Db}
    (h : Shared x tenantId userId n base view committed) :
    (Db.merge base view committed).workItemUsers = view.workItemUsers := by
  unfold Db.merge
  dsimp only
  rw [h.alone]
  exact mergeTable_current fun b r => by simp [WorkItemUser.merge, pick_base]

theorem Shared.merge_mine {x : ItemIdentity} {n : Nat} {base view committed : Db}
    (h : Shared x tenantId userId n base view committed) :
    userIsAssigned (Db.merge base view committed) tenantId x.id userId = true :=
  userIsAssigned_mono (by rw [h.merge_users]; exact List.Subset.refl _) h.mine

theorem shared_inv (x : ItemIdentity) (tenantId : TenantId) (userId : Nat) {A : Deed → Prop} :
    TurnInv env A (Shared x tenantId userId) where
  skip hle h := { h with old := h.old.trans_le hle }
  write _ hwrite htakes h := { h with
    old := h.old.trans_le htakes.le
    stays := h.stays.write h.old hwrite htakes
    mine := userIsAssigned_mono hwrite.workItemUsers h.mine }
  beside {n} _ _ _ _ _ _ hd hwrite h := { h with
    stored := h.stored.write h.old hwrite (hd.takes n)
    theirs := userIsAssigned_mono hwrite.workItemUsers h.theirs
    alone := (hwrite.beside_users hd).trans h.alone }
  refresh h := { h with stays := h.stays.merge h.stored, mine := h.merge_mine, alone := rfl }

/-- **A task stays on a user's list until it is closed**, and is on it again
whenever it is open again: whatever runs, and however the calls end, the item
and the user's share in it are never taken away. -/
theorem pending_until_closed (hids : (st₀.db.workItems.map (·.id)).Nodup) (hold : ∀ w ∈ st₀.db.workItems, w.id < st₀.seq)
    (hrun : Run env st₀ ops st) (hitem : item ∈ st₀.db.pendingTasks tenantId (some userId)) :
    ∃ item' ∈ st.db.workItems, item'.identity = item.identity ∧
      (item'.completed = true ∨ item' ∈ st.db.pendingTasks tenantId (some userId)) := by
  obtain ⟨hmem, htenant, -, hassigned⟩ := mem_pendingTasks.1 hitem
  have hkept : Shared item.identity tenantId userId st.seq st.db st.db st.db := by
    induction hrun with
    | nil =>
      have hhas : st₀.db.HasItem item.identity := by
        refine ⟨List.mem_map_of_mem hmem, fun y hy hid => ?_⟩
        obtain ⟨w, hw, rfl⟩ := List.mem_map.1 hy
        rw [List.inj_on_of_nodup_map hids hw hmem hid]
      exact ⟨hold item hmem, hhas, hhas, hassigned userId rfl, hassigned userId rfl, rfl⟩
    | snoc _ hstep ih =>
      refine hstep.inv (P := Shared item.identity tenantId userId) (Q := fun n db => Shared _ _ _ n db db db)
        (shared_inv _ _ _) ih fun h => ⟨?_, ?_⟩
      · exact ⟨h.old, h.stays.merge h.stored, h.stays.merge h.stored, h.merge_mine, h.merge_mine, rfl⟩
      · exact ⟨h.old, h.stored, h.stored, h.theirs, h.theirs, rfl⟩
  obtain ⟨item', hitem', hsame⟩ := List.mem_map.1 hkept.stays.kept
  refine ⟨item', hitem', hsame, ?_⟩
  cases hcompleted : item'.completed with
  | true => exact .inl rfl
  | false =>
    have hid : item'.id = item.id := congrArg ItemIdentity.id hsame
    have htenant' : item'.m8fTenantId = item.m8fTenantId := congrArg ItemIdentity.tenantId hsame
    refine .inr (mem_pendingTasks.2 ⟨hitem', htenant'.trans htenant, hcompleted, fun u hu => ?_⟩)
    obtain rfl := Option.some.inj hu
    rw [hid]
    exact hkept.mine

end

open Sample in
/-- The finance review of a started instance can be claimed, and so it is on the list. -/
theorem pending_is_actionable_review : ∃ items, (getPendingTasks "t" (some 1)).run (started.session true) =
    (.ok items, started.session true) ∧ ∃ item ∈ items, item.id = 17 := by
  have hok : ((claimTask env "t" 17 1).run (started.session true)).1 = .ok () := by decide +kernel
  rcases hrun : (claimTask env "t" 17 1).run (started.session true) with ⟨r, s⟩
  rw [hrun] at hok
  obtain rfl : r = .ok () := hok
  obtain ⟨items, hitems, item, hmem, hid, -⟩ :=
    (pending_is_actionable env (by decide +kernel : (started.db.workItems.map (·.id)).Nodup) true "t" 17 1).1.1 ⟨s, hrun⟩
  exact ⟨items, hitems, item, hmem, hid⟩

open Sample in
/-- It is still on the list once it is claimed. -/
theorem pending_until_closed_claimed : ∃ item ∈ started.db.pendingTasks "t" (some 1), ∃ item' ∈ financeClaimed.db.workItems,
    item'.identity = item.identity ∧
      (item'.completed = true ∨ item' ∈ financeClaimed.db.pendingTasks "t" (some 1)) := by
  have hlisted : ∃ item ∈ started.db.pendingTasks "t" (some 1), item.id = 17 := by decide +kernel
  obtain ⟨item, hitem, -⟩ := hlisted
  exact ⟨item, hitem, pending_until_closed
    (by decide +kernel) (by decide +kernel)
    (.snoc .nil (.after (by decide +kernel)) : CleanRun env started [claim 17] financeClaimed).run hitem⟩

/-! ## The rows of the tenant -/

/-- The tenant of a query. -/
def Query.tenantId : Query → TenantId
  | .getPendingTasks tenantId _ | .getProcessInstanceEvents tenantId _ | .getProcessInstanceMetadata tenantId _
  | .getProcessInstance tenantId _ | .listErrorProcessInstances tenantId | .listProcessInstances tenantId _
  | .listSuspendedProcessInstances tenantId | .listTerminatedProcessInstances tenantId => tenantId

/-- The tenant has the same rows in both, and the same members. -/
structure SameFor (tenantId : TenantId) (db db' : Db) : Prop where
  known : ∀ userId, (db'.user? userId).isSome = (db.user? userId).isSome
  members : ∀ userId, db'.isMember tenantId userId = db.isMember tenantId userId
  instances : db'.processInstances.filter (·.m8fTenantId == tenantId) = db.processInstances.filter (·.m8fTenantId == tenantId)
  metadata : db'.metadata.filter (·.m8fTenantId == tenantId) = db.metadata.filter (·.m8fTenantId == tenantId)
  events : db'.events.filter (·.m8fTenantId == tenantId) = db.events.filter (·.m8fTenantId == tenantId)
  items : db'.workItems.filter (·.m8fTenantId == tenantId) = db.workItems.filter (·.m8fTenantId == tenantId)
  shares : db'.workItemUsers.filter (·.m8fTenantId == tenantId) = db.workItemUsers.filter (·.m8fTenantId == tenantId)

section
variable {Ω : Type} {s s' : Tx Ω} {tenantId : TenantId} {db db' : Db}

/-- A further filter sees no more than the first. -/
theorem filter_and_congr {ρ : Type} {p q q' : ρ → Bool} {l l' : List ρ} (h : l'.filter p = l.filter p)
    (hq : ∀ r, q' r = q r) : (l'.filter fun r => p r && q' r) = l.filter fun r => p r && q r := by
  have hsplit : ∀ (l : List ρ) (q : ρ → Bool), (l.filter fun r => p r && q r) = (l.filter p).filter q := by
    intro l q
    rw [List.filter_filter]
    exact List.filter_congr fun r _ => Bool.and_comm _ _
  rw [hsplit, hsplit, h]
  exact List.filter_congr fun r _ => hq r

namespace SameFor
variable (h : SameFor tenantId db db')
include h

theorem assigned (workItemId userId : Nat) :
    userIsAssigned db' tenantId workItemId userId = userIsAssigned db tenantId workItemId userId := by
  have hany : ∀ db : Db, userIsAssigned db tenantId workItemId userId =
      (db.workItemUsers.filter (·.m8fTenantId == tenantId)).any fun r => r.workItemId == workItemId && r.userId == userId := by
    intro db
    rw [List.any_filter]
    exact congrArg (List.any _) (funext fun r => Bool.and_assoc _ _ _)
  rw [hany, hany, h.shares]

theorem pendingTasks (user : Option Nat) : db'.pendingTasks tenantId user = db.pendingTasks tenantId user := by
  have hopen : ∀ w : WorkItem, (!w.completed && user.all fun userId => userIsAssigned db' tenantId w.id userId) =
      (!w.completed && user.all fun userId => userIsAssigned db tenantId w.id userId) :=
    fun w => by simp only [h.assigned]
  have hfilter := filter_and_congr h.items hopen
  simp only [← Bool.and_assoc] at hfilter
  exact congrArg (sortById WorkItem.id) hfilter

theorem listedInstances (status : Option ProcessInstanceStatus) :
    db'.listedInstances tenantId status = db.listedInstances tenantId status :=
  congrArg (sortById ProcessInstance.id) (filter_and_congr h.instances fun _ => rfl)

theorem instanceEvents (i : Nat) : db'.instanceEvents tenantId i = db.instanceEvents tenantId i :=
  congrArg (List.insertionSort ProcessInstanceEvent.before) (filter_and_congr h.events fun _ => rfl)

theorem instanceMetadata (i : Nat) :
    (db'.metadata.filter fun m => m.m8fTenantId == tenantId && m.processInstanceId == i) =
      db.metadata.filter fun m => m.m8fTenantId == tenantId && m.processInstanceId == i :=
  filter_and_congr h.metadata fun _ => rfl

theorem instanceRow (i : Nat) : (db'.processInstances.find? fun p => p.m8fTenantId == tenantId && p.id == i) =
    db.processInstances.find? fun p => p.m8fTenantId == tenantId && p.id == i := by
  rw [← List.head?_filter, ← List.head?_filter]
  exact congrArg List.head? (filter_and_congr h.instances fun _ => rfl)

end SameFor

/-- The program answers the same whenever the tenant has the same rows. -/
def Local {α : Type} (tenantId : TenantId) (m : M Ω α) : Prop :=
  m.ReadOnly ∧ ∀ s s' : Tx Ω, SameFor tenantId s.view s'.view → (m.run s').1 = (m.run s).1

theorem local_query {α : Type} {f : Db → α} (h : ∀ db db', SameFor tenantId db db' → f db' = f db) :
    Local tenantId (query (Ω := Ω) f) :=
  ⟨Prog.keeps_gets Prog.frame_eq _, fun s s' hsame => congrArg Except.ok (h s.view s'.view hsame)⟩

theorem local_bind {α β : Type} {m : M Ω α} {f : α → M Ω β} (hm : Local tenantId m) (hf : ∀ a, Local tenantId (f a)) :
    Local tenantId (m >>= f) := by
  refine ⟨Prog.keeps_bind Prog.frame_eq hm.1 fun a => (hf a).1, fun s s' hsame => ?_⟩
  have hfirst := hm.2 s s' hsame
  rcases hrun : m.run s with ⟨r, s₁⟩
  rcases hrun' : m.run s' with ⟨r', s₁'⟩
  obtain rfl := hm.1.state hrun
  obtain rfl := hm.1.state hrun'
  rw [hrun, hrun'] at hfirst
  obtain rfl : r' = r := hfirst
  cases r' with
  | error e => rw [Prog.bind_run_error hrun, Prog.bind_run_error hrun']
  | ok a =>
    rw [Prog.bind_run_ok hrun, Prog.bind_run_ok hrun']
    exact (hf a).2 _ _ hsame

theorem local_pure {α : Type} (a : α) : Local tenantId (pure a : M Ω α) :=
  ⟨Prog.keeps_pure Prog.frame_eq a, fun _ _ _ => rfl⟩

theorem local_orRaise {α : Type} (e : Error) (o : Option α) : Local tenantId (Prog.orRaise e o : M Ω α) := by
  refine ⟨Prog.keeps_orRaise Prog.frame_eq e o, fun s s' _ => ?_⟩
  cases o <;> rfl

theorem local_ofExcept {α : Type} (r : Except Error α) : Local tenantId (ofExcept (Ω := Ω) r) := by
  refine ⟨ofExcept_readOnly r, fun s s' _ => ?_⟩
  cases r <;> rfl

theorem loadProcessInstance_local (i : Nat) : Local tenantId (loadProcessInstance (Ω := Ω) tenantId i) :=
  local_bind (local_query fun _ _ h => h.instanceRow i) fun _ => local_orRaise _ _

/-- The membership check, as it comes out. -/
theorem getPendingTasks_run (userId : Nat) : ((getPendingTasks tenantId (some userId)).run s).1 =
    if (s.view.user? userId).isSome then
      if s.view.isMember tenantId userId then .ok (s.view.pendingTasks tenantId (some userId))
      else .error (.authorization s!"User {userId} does not belong to tenant {tenantId}")
    else .error (userNotFound userId) := by
  unfold getPendingTasks ensureUserBelongsToTenant Db.isMember query
  simp only [Prog.bind_assoc, Prog.gets_bind_run]
  cases s.view.user? userId with
  | none => rfl
  | some user =>
    simp only [Prog.orRaise_some, Prog.pure_bind, Prog.gets_bind_run, Option.isSome_some, Option.any_some, if_true]
    split <;> rfl

theorem getPendingTasks_local (user : Option Nat) : Local tenantId (getPendingTasks (Ω := Ω) tenantId user) := by
  cases user with
  | none => exact local_query fun _ _ h => h.pendingTasks none
  | some userId =>
    refine ⟨getPendingTasks_readOnly _ _, fun s s' hsame => ?_⟩
    rw [getPendingTasks_run, getPendingTasks_run, hsame.known, hsame.members, hsame.pendingTasks]

theorem listProcessInstances_local (status : Option StatusArg) : Local tenantId (listProcessInstances (Ω := Ω) tenantId status) := by
  cases status with
  | none => exact local_query fun _ _ h => h.listedInstances none
  | some status => exact local_bind (local_ofExcept _) fun status => local_query fun _ _ h => h.listedInstances (some status)

/-- **A query writes nothing and answers from the rows of its tenant alone**:
whatever differs in the rows of the others, the answer, or the error, is the same.
Of the users it may matter who there is at all. -/
theorem queries_tenant_local (q : Query) (h : SameFor q.tenantId s.view s'.view) :
    ((executeQuery q).run s).2 = s ∧ ((executeQuery q).run s').1 = ((executeQuery q).run s).1 := by
  refine ⟨(executeQuery_readOnly q).state rfl, ?_⟩
  have hanswer : ∀ {α : Type} {m : M Ω α} (f : α → Answer), Local q.tenantId m →
      ((do pure (f (← m)) : M Ω Answer).run s').1 = ((do pure (f (← m)) : M Ω Answer).run s).1 :=
    fun f hm => (local_bind hm fun _ => local_pure _).2 s s' h
  cases q with
  | getPendingTasks tenantId user => exact hanswer _ (getPendingTasks_local user)
  | getProcessInstanceEvents tenantId i =>
    exact hanswer _ (local_bind (loadProcessInstance_local i) fun _ => local_query fun _ _ h => h.instanceEvents i)
  | getProcessInstanceMetadata tenantId i =>
    refine hanswer _ (local_bind (loadProcessInstance_local i) fun _ => local_query fun _ _ h => ?_)
    exact congrArg (List.insertionSort ProcessInstanceMetadata.before) (h.instanceMetadata i)
  | getProcessInstance tenantId i => exact hanswer _ (loadProcessInstance_local i)
  | listErrorProcessInstances tenantId => exact hanswer _ (listProcessInstances_local _)
  | listProcessInstances tenantId status => exact hanswer _ (listProcessInstances_local status)
  | listSuspendedProcessInstances tenantId => exact hanswer _ (listProcessInstances_local _)
  | listTerminatedProcessInstances tenantId => exact hanswer _ (listProcessInstances_local _)

end

open Sample in
/-- An item of another tenant shows nowhere. -/
theorem queries_tenant_local_shared :
    ((executeQuery (.getPendingTasks "t" (some 1))).run (Store.session ⟨10, sharedDb⟩ true)).2 =
      Store.session ⟨10, sharedDb⟩ true ∧
    ((executeQuery (.getPendingTasks "t" (some 1))).run
      (Store.session ⟨10, { sharedDb with workItems := ⟨6, "other", 4, none, none, none, none, .ready, false, none, none⟩ ::
        sharedDb.workItems }⟩ true)).1 =
    ((executeQuery (.getPendingTasks "t" (some 1))).run (Store.session ⟨10, sharedDb⟩ true)).1 :=
  queries_tenant_local _ ⟨fun _ => rfl, fun _ => rfl, rfl, rfl, rfl, rfl, rfl⟩

end M8flowCore
