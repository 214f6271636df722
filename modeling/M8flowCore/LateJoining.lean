import M8flowCore.PotentialOwners
import M8flowCore.Services.Tasks
/-!
# Joining early or late

A user who joins a lane's group becomes a potential owner of the lane's tasks: of
those that are materialized afterwards by the call that assigns owners, and of
those that are open already by `assign_pending_tasks_for_user`. Both write the
same rows.
-/
open M8flowCore.Lib M8flowCore.Session

namespace M8flowCore

section
variable {W Ω : Type} {env : Env W Ω}

theorem mem_newlyAssignable {db : Db} {tenantId : TenantId} {userId : Nat} {w : WorkItem} :
    w ∈ newlyAssignable db tenantId userId ↔ w ∈ db.workItems ∧ w.m8fTenantId = tenantId ∧ w.completed = false ∧
      (∃ g, w.laneAssignmentId = some g ∧ db.InGroup userId g) ∧ ¬ db.IsOwner w.id userId := by
  unfold newlyAssignable Db.InGroup Db.IsOwner
  rw [sortById, List.mem_insertionSort, List.mem_filter]
  simp only [Bool.and_eq_true, beq_iff_eq, Bool.not_eq_true', Option.any_eq_true, List.any_eq_true, List.any_eq_false, and_assoc]
  refine and_congr_right fun _ => and_congr_right fun _ => and_congr_right fun _ => and_congr ?_ ?_
  · constructor
    · rintro ⟨g, hg, a, ha, hgroup, huser⟩
      exact ⟨g, hg, a, ha, huser, hgroup⟩
    · rintro ⟨g, hg, a, ha, huser, hgroup⟩
      exact ⟨g, hg, a, ha, hgroup, huser⟩
  · simp

/-- `db` once the user has a row for every item that is open to them. -/
def Db.withPending (db : Db) (tenantId : TenantId) (userId : Nat) : Db :=
  { db with
    workItemUsers := db.workItemUsers ++ (newlyAssignable db tenantId userId).map fun w =>
      ⟨tenantId, w.id, userId, some .laneAssignment⟩ }

theorem assignPendingTasksForUser_run {tenantId : TenantId} {userId : Nat} {s : Tx Ω} (hmember : s.view.isMember tenantId userId = true) :
    (assignPendingTasksForUser tenantId userId).run s =
      (.ok (newlyAssignable s.view tenantId userId), { s with view := s.view.withPending tenantId userId }) := by
  obtain ⟨user, huser⟩ := user_of_isMember hmember
  unfold assignPendingTasksForUser query
  rw [Prog.bind_run_ok (ensureUserBelongsToTenant_ok.2 ⟨huser, hmember, rfl⟩)]
  rfl

theorem newlyAssignable_withPending (db : Db) (tenantId : TenantId) (userId : Nat) :
    newlyAssignable (db.withPending tenantId userId) tenantId userId = [] := by
  refine List.eq_nil_iff_forall_not_mem.2 fun w hw => ?_
  obtain ⟨hin, htenant, hopen, hgroup, hnot⟩ := mem_newlyAssignable.1 hw
  refine hnot ?_
  by_cases hold : db.IsOwner w.id userId
  · obtain ⟨row, hrow, hrest⟩ := hold
    exact ⟨row, List.mem_append_left _ hrow, hrest⟩
  · have hnew : w ∈ newlyAssignable db tenantId userId := mem_newlyAssignable.2 ⟨hin, htenant, hopen, hgroup, hold⟩
    exact ⟨_, List.mem_append_right _ (List.mem_map_of_mem hnew), rfl, rfl⟩

theorem withPending_of_none {db : Db} {tenantId : TenantId} {userId : Nat} (h : newlyAssignable db tenantId userId = []) :
    db.withPending tenantId userId = db := by
  unfold Db.withPending
  rw [h, List.map_nil, List.append_nil]

/-- Whoever was added is not added again. -/
theorem assignPendingTasksForUser_again {tenantId : TenantId} {userId : Nat} {s s' : Tx Ω} (hmember : s.view.isMember tenantId userId = true)
    (hs' : s' = { s with view := s.view.withPending tenantId userId }) :
    (assignPendingTasksForUser tenantId userId).run s' = (.ok [], s') := by
  have hmember' : s'.view.isMember tenantId userId = true := by
    rw [hs']
    exact hmember
  have hnone : newlyAssignable s'.view tenantId userId = [] := by
    rw [hs']
    exact newlyAssignable_withPending s.view tenantId userId
  rw [assignPendingTasksForUser_run hmember', withPending_of_none hnone, hnone]

/-! ## The rows of one item -/

/-- The rows of an item among those that the user gets: one if it is open to
them, and none else. -/
theorem filter_pending {db : Db} (tenantId : TenantId) (userId workItemId : Nat) (hids : (db.workItems.map (·.id)).Nodup) :
    (∀ row, row ∈ ((newlyAssignable db tenantId userId).map fun w => (⟨tenantId, w.id, userId, some .laneAssignment⟩ : WorkItemUser)).filter
        (·.workItemId == workItemId) ↔
      row = ⟨tenantId, workItemId, userId, some .laneAssignment⟩ ∧ ∃ w ∈ newlyAssignable db tenantId userId, w.id = workItemId) ∧
    (((newlyAssignable db tenantId userId).map fun w => (⟨tenantId, w.id, userId, some .laneAssignment⟩ : WorkItemUser)).filter
        (·.workItemId == workItemId)).Nodup := by
  constructor
  · intro row
    simp only [List.mem_filter, List.mem_map, beq_iff_eq]
    constructor
    · rintro ⟨⟨w, hw, rfl⟩, rfl⟩
      exact ⟨rfl, w, hw, rfl⟩
    · rintro ⟨rfl, w, hw, rfl⟩
      exact ⟨⟨w, hw, rfl⟩, rfl⟩
  · have hitems : ((newlyAssignable db tenantId userId).map (·.id)).Nodup := by
      unfold newlyAssignable sortById
      exact ((List.perm_insertionSort _ _).map _).nodup_iff.2 (hids.sublist (List.filter_sublist.map _))
    have hrows : ((newlyAssignable db tenantId userId).map fun w =>
        (⟨tenantId, w.id, userId, some .laneAssignment⟩ : WorkItemUser)).Nodup := by
      refine List.Nodup.of_map (·.workItemId) ?_
      rwa [List.map_map]
    exact hrows.filter _

/-! ## Two orders -/

/-- Who owns a task of the lane when one more user is in the lane's group. -/
theorem LaneTask.owns_joined {t : LaneTask} {db dbE db' dbE' : Db} {u gid : Nat} (hnames : ∀ v, t.Names env dbE v ↔ t.Names env db v)
    (hgroup : t.group env dbE = t.group env db) (hfound : assignedGroup env (some t) db = some gid)
    (hmembers : ∀ user, dbE.Member t.tenantId user ↔ db.Member t.tenantId user) (hu : ∃ user, db.Member t.tenantId user ∧ user.id = u)
    (hin : ∀ v, dbE'.InGroup v gid ↔ db'.InGroup v gid ∨ v = u) {v : Nat} {label : WorkItemUserAddedBy} :
    t.Owns env dbE dbE' v label ↔ t.Owns env db db' v label ∨ (v = u ∧ label = .laneAssignment ∧ ¬ t.Names env db u) := by
  obtain ⟨g, hg, rfl⟩ := Option.map_eq_some_iff.1 (show (t.group env db).1.map Group.id = some gid from hfound)
  unfold LaneTask.Owns
  rw [hgroup, hg]
  simp only [hnames, hmembers, Option.some.injEq, exists_eq_left', hin]
  constructor
  · rintro (h | ⟨hlabel, hnot, hin | rfl, hmember⟩)
    · exact .inl (.inl h)
    · exact .inl (.inr ⟨hlabel, hnot, hin, hmember⟩)
    · exact .inr ⟨rfl, hlabel, hnot⟩
  · rintro ((h | ⟨hlabel, hnot, hin, hmember⟩) | ⟨rfl, hlabel, hnot⟩)
    · exact .inl h
    · exact .inr ⟨hlabel, hnot, .inl hin, hmember⟩
    · exact .inr ⟨hlabel, hnot, .inr rfl, hu⟩

/-- The rows of an item that a user gets when the call that assigns owners finds
them in the group are those they get afterwards. -/
theorem pending_rows_perm {tenantId : TenantId} {workItemId u : Nat} {owns ownsE : Nat → WorkItemUserAddedBy → Prop} (named : Prop)
    {rows rows₁ rowsE : List WorkItemUser} {db : Db} (hids : (db.workItems.map (·.id)).Nodup) (hdb : db.workItemUsers = rows₁)
    (h₁ : OwnersAdded tenantId workItemId owns rows rows₁) (hE : OwnersAdded tenantId workItemId ownsE rows rowsE)
    (howns : ∀ v label, ownsE v label ↔ owns v label ∨ (v = u ∧ label = .laneAssignment ∧ ¬ named))
    (hnamed : named → ∃ label, owns u label) (hlabel : ∀ label, owns u label → label = .laneAssignment ∨ named)
    (hopen : ∃ w ∈ db.workItems, w.id = workItemId ∧ w.m8fTenantId = tenantId ∧ w.completed = false ∧
      ∃ g, w.laneAssignmentId = some g ∧ db.InGroup u g) :
    (rowsE.filter (·.workItemId == workItemId)).Perm
      ((db.withPending tenantId u).workItemUsers.filter (·.workItemId == workItemId)) := by
  obtain ⟨added, hrows, hnodup, hmem⟩ := h₁
  obtain ⟨addedE, hrowsE, hnodupE, hmemE⟩ := hE
  set pending := (newlyAssignable db tenantId u).map fun w => (⟨tenantId, w.id, u, some .laneAssignment⟩ : WorkItemUser) with hpending
  obtain ⟨hmemP, hnodupP⟩ := filter_pending tenantId u workItemId hids
  rw [← hpending] at hmemP hnodupP
  -- the item is open to the user unless they have a row
  have hfree : (∃ w ∈ newlyAssignable db tenantId u, w.id = workItemId) ↔ ¬ db.IsOwner workItemId u := by
    constructor
    · rintro ⟨w, hw, rfl⟩
      exact (mem_newlyAssignable.1 hw).2.2.2.2
    · intro hnot
      obtain ⟨w, hw, rfl, htenant, hopen, hgroup⟩ := hopen
      exact ⟨w, mem_newlyAssignable.2 ⟨hw, htenant, hopen, hgroup, hnot⟩, rfl⟩
  have howner : db.IsOwner workItemId u ↔ (∃ old ∈ rows, old.workItemId = workItemId ∧ old.userId = u) ∨ ∃ label, owns u label := by
    unfold Db.IsOwner
    rw [hdb, hrows]
    constructor
    · rintro ⟨row, hrow, hitem, huser⟩
      rcases List.mem_append.1 hrow with hold | hnew
      · exact .inl ⟨row, hold, hitem, huser⟩
      · obtain ⟨v, label, hv, -, rfl⟩ := (hmem row).1 hnew
        exact .inr ⟨label, huser ▸ hv⟩
    · rintro (⟨old, hold, hrest⟩ | ⟨label, hlabel⟩)
      · exact ⟨old, List.mem_append_left _ hold, hrest⟩
      · by_cases hnew : ∀ old ∈ rows, old.workItemId = workItemId → old.userId ≠ u
        · exact ⟨_, List.mem_append_right _ ((hmem _).2 ⟨u, label, hlabel, hnew, rfl⟩), rfl, rfl⟩
        · push Not at hnew
          obtain ⟨old, hold, hrest⟩ := hnew
          exact ⟨old, List.mem_append_left _ hold, hrest⟩
  have hlate : (db.withPending tenantId u).workItemUsers = rows ++ (added ++ pending) := by
    unfold Db.withPending
    rw [hdb, hrows, List.append_assoc]
  rw [hrowsE, hlate, List.filter_append, List.filter_append, List.filter_append]
  refine List.Perm.append_left _ ((List.perm_ext_iff_of_nodup ?_ ?_).2 fun row => ?_)
  · exact (List.Nodup.of_map _ hnodupE).filter _
  · refine List.nodup_append'.2 ⟨(List.Nodup.of_map _ hnodup).filter _, hnodupP, fun row hin hinP => ?_⟩
    obtain ⟨rfl, hopen⟩ := (hmemP row).1 hinP
    obtain ⟨v, label, hv, -, heq⟩ := (hmem _).1 (List.mem_filter.1 hin).1
    cases heq
    exact hfree.1 hopen (howner.2 (.inr ⟨_, hv⟩))
  · rw [List.mem_append, List.mem_filter, List.mem_filter, hmemP, hmemE, hmem, hfree, howner]
    constructor
    · rintro ⟨⟨v, label, hv, hnew, rfl⟩, -⟩
      rcases (howns v label).1 hv with hv | ⟨rfl, rfl, hnot⟩
      · exact .inl ⟨⟨v, label, hv, hnew, rfl⟩, by simp⟩
      · by_cases hold : owns v .laneAssignment
        · exact .inl ⟨⟨v, _, hold, hnew, rfl⟩, by simp⟩
        · refine .inr ⟨rfl, ?_⟩
          rintro (⟨old, hin, hitem, huser⟩ | ⟨label, hl⟩)
          · exact hnew old hin hitem huser
          · rcases hlabel label hl with rfl | hn
            · exact hold hl
            · exact hnot hn
    · rintro (⟨⟨v, label, hv, hnew, rfl⟩, -⟩ | ⟨rfl, hnot⟩)
      · exact ⟨⟨v, label, (howns v label).2 (.inl hv), hnew, rfl⟩, by simp⟩
      · refine ⟨⟨u, .laneAssignment, (howns u _).2 (.inr ⟨rfl, rfl, fun hn => hnot (.inr (hnamed hn))⟩), ?_, rfl⟩, by simp⟩
        exact fun old hin hitem huser => hnot (.inl ⟨old, hin, hitem, huser⟩)

theorem member_of_isMember {db : Db} {tenantId : TenantId} {u : Nat} (h : db.isMember tenantId u = true) :
    ∃ user, db.Member tenantId user ∧ user.id = u := by
  obtain ⟨user, huser⟩ := user_of_isMember h
  unfold Db.isMember at h
  rw [huser] at h
  exact ⟨user, ⟨List.mem_of_find?_eq_some huser, h⟩, by simpa using List.find?_some huser⟩

variable (env) in
/-- A user who joins the lane's group before an item of the lane is materialized,
and one who joins after it and is then given the pending tasks, leave the item
with the same owners and labels; and no task is pending for them then. -/
theorem joining_early_or_late (pi : ProcessInstance) (workItemId : Nat) (laneName : PyVal) (taskData : Dict)
    (definitionProperties : Option Dict) {t : LaneTask} {u gid : Nat} {s : Tx Ω}
    (htask : laneTask? env pi laneName taskData definitionProperties = some t) (hgroup : assignedGroup env (some t) s.view = some gid)
    (husers : (s.view.users.map (·.id)).Nodup) (hitems : (s.view.workItems.map (·.id)).Nodup)
    (hitem : ∃ w ∈ s.view.workItems, w.id = workItemId ∧ w.m8fTenantId = pi.m8fTenantId ∧ w.completed = false)
    (hmember : s.view.isMember pi.m8fTenantId u = true) :
    ∃ early late items,
      (do
        addGroupMembers gid [u]
        assignWorkItemPotentialOwners env pi workItemId laneName taskData definitionProperties : M Ω Unit).run s = (.ok (), early) ∧
      (do
        assignWorkItemPotentialOwners env pi workItemId laneName taskData definitionProperties
        addGroupMembers gid [u]
        assignPendingTasksForUser pi.m8fTenantId u : M Ω (List WorkItem)).run s = (.ok items, late) ∧
      (early.view.workItemUsers.filter (·.workItemId == workItemId)).Perm
        (late.view.workItemUsers.filter (·.workItemId == workItemId)) ∧
      (assignPendingTasksForUser pi.m8fTenantId u).run late = (.ok [], late) := by
  have htenant := (laneTask?_some htask).2
  have hlaneTask : ∀ {P : Prop}, laneTask? env pi laneName taskData definitionProperties = none → P := by
    intro P hnone
    rw [htask] at hnone
    cases hnone
  -- early: the user joins, then the item is materialized
  obtain ⟨sE, hjoinE, hjoinedE⟩ := addGroupMembers_run gid [u] s
  obtain ⟨seqE, assignmentsE, hsE⟩ := hjoinedE.rest
  have husersE : (sE.view.users.map (·.id)).Nodup := by
    rw [hsE]
    exact husers
  obtain ⟨early, hrunE, hassignedE⟩ :=
    assignWorkItemPotentialOwners_run env pi workItemId laneName taskData definitionProperties husersE hlaneTask
  -- late: the item is materialized, then the user joins
  obtain ⟨s₁, hrun₁, hassigned₁⟩ :=
    assignWorkItemPotentialOwners_run env pi workItemId laneName taskData definitionProperties husers hlaneTask
  rw [htask] at hassignedE hassigned₁
  obtain ⟨seq₁, assignments₁, rows₁, hs₁⟩ := hassigned₁.rest
  obtain ⟨s₂, hjoin₂, hjoined₂⟩ := addGroupMembers_run gid [u] s₁
  obtain ⟨seq₂, assignments₂, hs₂⟩ := hjoined₂.rest
  have hmember₂ : s₂.view.isMember pi.m8fTenantId u = true := by
    rw [hs₂, hs₁]
    exact hmember
  refine ⟨early, { s₂ with view := s₂.view.withPending pi.m8fTenantId u }, newlyAssignable s₂.view pi.m8fTenantId u, ?_, ?_, ?_, ?_⟩
  · exact (Prog.bind_run_ok hjoinE).trans hrunE
  · exact (Prog.bind_run_ok hrun₁).trans ((Prog.bind_run_ok hjoin₂).trans (assignPendingTasksForUser_run hmember₂))
  · have hworkItems : s₂.view.workItems = itemsIn workItemId (some gid) s.view.workItems := by
      rw [hs₂, hs₁, hgroup]
    have hids₂ : (s₂.view.workItems.map (·.id)).Nodup := by
      have hsame : (itemsIn workItemId (some gid) s.view.workItems).map (·.id) = s.view.workItems.map (·.id) :=
        map_updateWhere fun _ => rfl
      rwa [hworkItems, hsame]
    have hrows₂ : s₂.view.workItemUsers = s₁.view.workItemUsers := by rw [hs₂]
    have hrowsE : OwnersAdded pi.m8fTenantId workItemId (t.Owns env sE.view early.view) s.view.workItemUsers early.view.workItemUsers := by
      have hold : sE.view.workItemUsers = s.view.workItemUsers := by rw [hsE]
      have hrows := hassignedE.rows
      rwa [hold] at hrows
    refine pending_rows_perm (t.Names env s.view u) hids₂ hrows₂ hassigned₁.rows hrowsE ?_ ?_ ?_ ?_
    · intro v label
      refine LaneTask.owns_joined (fun v => ?_) ?_ hgroup (fun user => ?_) ?_ fun v => ?_
      · rw [hsE]
        rfl
      · rw [hsE]
        rfl
      · rw [hsE]
        rfl
      · rw [htenant]
        exact member_of_isMember hmember
      · have henroll : t.Enroll env sE.view v gid ↔ t.Enroll env s.view v gid := by
          rw [hsE]
          rfl
        rw [hassignedE.members, hassigned₁.members, hjoinedE.members]
        simp only [Option.some.injEq, exists_eq_left', henroll, List.mem_singleton, and_true]
        rw [or_right_comm]
    · exact fun hnamed => ⟨.laneOwner, .inl ⟨rfl, hnamed⟩⟩
    · rintro label (⟨-, hnamed⟩ | ⟨hlabel, -⟩)
      · exact .inr hnamed
      · exact .inl hlabel
    · obtain ⟨w, hw, rfl, hwtenant, hopen⟩ := hitem
      refine ⟨{ w with laneAssignmentId := some gid }, ?_, rfl, hwtenant, hopen, gid, rfl, ?_⟩
      · rw [hworkItems, itemsIn]
        exact mem_updateWhere.2 ⟨w, hw, by simp⟩
      · exact (hjoined₂.members u gid).2 (.inr ⟨by simp, rfl⟩)
  · exact assignPendingTasksForUser_again hmember₂ rfl

end

namespace Sample

/-- The tenant with a group for the lane `b`. -/
def openLaneTx : Tx Bool :=
  { lanesTx with view := { lanesDb with groups := [⟨267, some "1:b", some "1:b", none⟩] } }

end Sample

theorem joining_early_or_late_ann :
    ∃ early late items,
      (do
        addGroupMembers 267 [1]
        assignWorkItemPotentialOwners Sample.env Sample.lanesInstance 7 (.str "b") (Sample.laneOwnersOf [("b", ["bob"])]) none :
          M Bool Unit).run Sample.openLaneTx = (.ok (), early) ∧
      (do
        assignWorkItemPotentialOwners Sample.env Sample.lanesInstance 7 (.str "b") (Sample.laneOwnersOf [("b", ["bob"])]) none
        addGroupMembers 267 [1]
        assignPendingTasksForUser "1" 1 : M Bool (List WorkItem)).run Sample.openLaneTx = (.ok items, late) ∧
      early.view.workItemUsers = [⟨"1", 7, 1, some .laneAssignment⟩, ⟨"1", 7, 2, some .laneOwner⟩] ∧
      (early.view.workItemUsers.filter (·.workItemId == 7)).Perm (late.view.workItemUsers.filter (·.workItemId == 7)) ∧
      (assignPendingTasksForUser "1" 1).run late = (.ok [], late) := by
  have hgroup : ∃ t, laneTask? Sample.env Sample.lanesInstance (.str "b") (Sample.laneOwnersOf [("b", ["bob"])]) none = some t ∧
      assignedGroup Sample.env (some t) Sample.openLaneTx.view = some 267 := ⟨_, rfl, by decide +kernel⟩
  obtain ⟨t, htask, hfound⟩ := hgroup
  have hmember : Sample.openLaneTx.view.isMember Sample.lanesInstance.m8fTenantId 1 = true := by decide
  obtain ⟨early, late, items, hearly, hlate, hrest⟩ := joining_early_or_late Sample.env Sample.lanesInstance 7 (.str "b")
    (Sample.laneOwnersOf [("b", ["bob"])]) none htask hfound (by decide) (by decide)
    ⟨_, List.mem_singleton.2 rfl, rfl, rfl, rfl⟩ hmember
  refine ⟨early, late, items, hearly, hlate, ?_, hrest⟩
  have hrows : ((do
      addGroupMembers 267 [1]
      assignWorkItemPotentialOwners Sample.env Sample.lanesInstance 7 (.str "b") (Sample.laneOwnersOf [("b", ["bob"])]) none :
        M Bool Unit).run Sample.openLaneTx).2.view.workItemUsers =
      [⟨"1", 7, 1, some .laneAssignment⟩, ⟨"1", 7, 2, some .laneOwner⟩] := by decide +kernel
  rwa [hearly] at hrows

end M8flowCore
