import M8flowCore.Deeds
import M8flowCore.History
/-!
# The fields of a work item

Six writers change the status of a work item, who owns it, whether it is done
and by whom. What each of them does to a row is said once, in `ItemWrite`. That
the fields agree with each other holds in every state of a run; that a completed
item was completed by somebody does not, since a save closes an open item as
completed when it finds the item's task completed.
-/
open M8flowCore.Lib M8flowCore.Session

namespace M8flowCore

section
variable {W Ω : Type} {env : Env W Ω} {d : Deed} {db db' : Db} {item item' : WorkItem}

/-! ## What is written to an item -/

/-- A save closes an item as completed. -/
def ClosesAsCompleted (db db' : Db) : Prop :=
  ∃ item ∈ db.workItems, ∃ occurredAt, db' = db.updateWorkItem item fun w => w.close .completed occurredAt none

/-- Then nobody completed the item. -/
theorem ClosesAsCompleted.unattributed (h : ClosesAsCompleted db db') :
    ∃ item ∈ db'.workItems, item.taskStatus = .completed ∧ item.completedByUserId = none := by
  obtain ⟨item, hitem, occurredAt, rfl⟩ := h
  exact ⟨_, mem_updateWhere.2 ⟨item, hitem, by rw [if_pos (by simp)]⟩, rfl, rfl⟩

/-- What a write does to the row of an item. -/
inductive ItemWrite (db db' : Db) : Deed → WorkItem → WorkItem → Prop
  | same (d : Deed) (item : WorkItem) : ItemWrite db db' d item item
  | close (item : WorkItem) (instanceId : Nat) (occurredAt : Time) (userId : Option Nat) :
      ItemWrite db db' (.close instanceId occurredAt) item (item.close .terminated occurredAt userId)
  | reopen (d : Deed) (item : WorkItem) (occurredAt : Time) : ItemWrite db db' d item (item.reopen occurredAt)
  | claim (item : WorkItem) {tenantId : TenantId} {userId : Nat} (claimedAt : Time) (hopen : item.completed = false)
      (hassigned : userIsAssigned db tenantId item.id userId = true) :
      ItemWrite db db' (.claim item.id userId) item (item.claim userId claimedAt)
  | complete (item : WorkItem) {closed : WorkItem} (userId : Nat) (completedAt : Time) (hid : closed.id = item.id) :
      ItemWrite db db' (.complete closed userId completedAt) item (item.complete userId completedAt)
  | inactive (item : WorkItem) (instanceId : Nat) {status : WorkItemState} (occurredAt : Time)
      (hstatus : status ≠ .ready ∧ status ≠ .claimed) (hcompleted : status = .completed → ClosesAsCompleted db db') :
      ItemWrite db db' (.inactive instanceId) item (item.close status occurredAt none)
  | lane (item : WorkItem) (groupId : Option Nat) : ItemWrite db db' .lane item { item with laneAssignmentId := groupId }

theorem inactiveWorkItemStatus_closed (taskState : Option TaskModelState) :
    inactiveWorkItemStatus taskState ≠ .ready ∧ inactiveWorkItemStatus taskState ≠ .claimed := by
  unfold inactiveWorkItemStatus
  split <;> simp

/-- An item after a write is new and ready, or what the write made of one before. -/
theorem Write.item_cases (h : Write env d db db') (hitem : item' ∈ db'.workItems) :
    (∃ pi guid occurredAt id, item' = newWorkItem pi guid occurredAt id) ∨
      ∃ item ∈ db.workItems, ItemWrite db db' d item item' := by
  cases h with
  | elsewhere hsame =>
    have hitems : db'.tracked.workItems = db.tracked.workItems := congrArg Db.workItems hsame
    change item' ∈ db'.tracked.workItems at hitem
    rw [hitems] at hitem
    exact .inr ⟨item', hitem, .same _ _⟩
  | close _ instanceId occurredAt userId =>
    obtain ⟨item, hmem, rfl⟩ := mem_updateWhere.1 hitem
    refine .inr ⟨item, hmem, ?_⟩
    split
    · exact .close item instanceId occurredAt userId
    · exact .same _ _
  | reopen _ instanceId occurredAt =>
    obtain ⟨item, hmem, rfl⟩ := mem_updateWhere.1 hitem
    refine .inr ⟨item, hmem, ?_⟩
    split
    · exact .reopen _ item occurredAt
    · exact .same _ _
  | claim _ claimedAt hassigned =>
    obtain ⟨item, hmem, rfl⟩ := mem_updateWhere.1 hitem
    refine .inr ⟨item, hmem, ?_⟩
    split
    · rename_i hclaimable
      simp only [claimable, Bool.and_eq_true, beq_iff_eq, Bool.not_eq_true'] at hclaimable
      obtain ⟨⟨⟨rfl, -⟩, hopen⟩, -⟩ := hclaimable
      exact .claim item claimedAt hopen hassigned
    · exact .same _ _
  | complete _ closed userId completedAt =>
    obtain ⟨item, hmem, rfl⟩ := mem_updateWhere.1 hitem
    refine .inr ⟨item, hmem, ?_⟩
    split
    · rename_i hkey
      simp only [Bool.and_eq_true, beq_iff_eq] at hkey
      exact .complete item userId completedAt hkey.1.symm
    · exact .same _ _
  | inactive _ closed taskState occurredAt =>
    obtain ⟨item, hmem, rfl⟩ := mem_updateWhere.1 hitem
    refine .inr ⟨item, hmem, ?_⟩
    split
    · rename_i hkey
      refine .inactive item _ occurredAt (inactiveWorkItemStatus_closed taskState) fun hcompleted => ?_
      simp only [Bool.and_eq_true, beq_iff_eq] at hkey
      refine ⟨item, hmem, occurredAt, ?_⟩
      unfold Db.updateWorkItem
      rw [hcompleted, hkey.1, hkey.2]
    · exact .same _ _
  | prepare _ prepared occurredAt =>
    obtain ⟨item, hmem, rfl⟩ := mem_updateWhere.1 hitem
    refine .inr ⟨item, hmem, ?_⟩
    split
    · exact .reopen _ item occurredAt
    · exact .same _ _
  | newItem _ pi guid occurredAt id =>
    rcases List.mem_append.1 hitem with hmem | hnew
    · exact .inr ⟨item', hmem, .same _ _⟩
    · exact .inl ⟨pi, guid, occurredAt, id, List.mem_singleton.1 hnew⟩
  | lane _ id groupId =>
    obtain ⟨item, hmem, rfl⟩ := mem_updateWhere.1 hitem
    refine .inr ⟨item, hmem, ?_⟩
    split
    · exact .lane item groupId
    · exact .same _ _
  | _ => exact .inr ⟨item', hitem, .same _ _⟩

theorem ItemWrite.id (h : ItemWrite db db' d item item') : item'.id = item.id := by
  cases h <;> rfl

/-- Potential owners are only ever added. -/
theorem Write.workItemUsers (h : Write env d db db') : db.workItemUsers ⊆ db'.workItemUsers := by
  cases h with
  | elsewhere hsame =>
    have husers : db'.tracked.workItemUsers = db.tracked.workItemUsers := congrArg Db.workItemUsers hsame
    change db.workItemUsers ⊆ db'.tracked.workItemUsers
    rw [husers]
    exact List.Subset.refl _
  | owner _ rows => exact List.subset_append_left _ _
  | _ => exact List.Subset.refl _

/-! ## Fields that agree -/

/-- The fields of the item agree with its status. -/
structure WorkItem.Agrees (db : Db) (item : WorkItem) : Prop where
  completed : item.completed = true ↔ item.taskStatus ∈ [.completed, .terminated, .cancelled, .error]
  claimed : item.taskStatus = .claimed → ∃ userId, item.actualOwnerId = some userId ∧
    ∃ row ∈ db.workItemUsers, row.workItemId = item.id ∧ row.userId = userId
  ready : item.taskStatus = .ready → item.actualOwnerId = none ∧ item.completedByUserId = none

theorem WorkItem.Agrees.mono (husers : db.workItemUsers ⊆ db'.workItemUsers) (h : item.Agrees db) : item.Agrees db' := by
  refine ⟨h.completed, fun hclaimed => ?_, h.ready⟩
  obtain ⟨userId, howner, row, hrow, hkey⟩ := h.claimed hclaimed
  exact ⟨userId, howner, row, husers hrow, hkey⟩

theorem WorkItem.Agrees.of_closed {status : WorkItemState} (hcompleted : item.completed = true) (hstatus : item.taskStatus = status)
    (hclosed : status ≠ .ready ∧ status ≠ .claimed) : item.Agrees db := by
  subst hstatus
  refine ⟨?_, fun h => absurd h hclosed.2, fun h => absurd h hclosed.1⟩
  simp only [hcompleted, true_iff]
  cases hs : item.taskStatus <;> simp_all

theorem agrees_reopen (item : WorkItem) (occurredAt : Time) : (item.reopen occurredAt).Agrees db :=
  ⟨by simp [WorkItem.reopen], by simp [WorkItem.reopen], fun _ => ⟨rfl, rfl⟩⟩

theorem ItemWrite.agrees (husers : db.workItemUsers ⊆ db'.workItemUsers) (h : ItemWrite db db' d item item')
    (hitem : item.Agrees db) : item'.Agrees db' := by
  cases h with
  | same => exact hitem.mono husers
  | close => exact .of_closed rfl rfl ⟨by simp [WorkItem.close], by simp [WorkItem.close]⟩
  | reopen => exact agrees_reopen item _
  | claim _ claimedAt hopen hassigned =>
    refine ⟨by simp [WorkItem.claim, hopen], fun _ => ?_, by simp [WorkItem.claim]⟩
    obtain ⟨row, hrow, hkey⟩ := List.any_eq_true.1 hassigned
    simp only [Bool.and_eq_true, beq_iff_eq] at hkey
    exact ⟨_, rfl, row, husers hrow, hkey.1.2, hkey.2⟩
  | complete => exact .of_closed rfl rfl ⟨by simp [WorkItem.complete], by simp [WorkItem.complete]⟩
  | inactive _ _ _ hstatus => exact .of_closed rfl rfl hstatus
  | lane => exact ⟨hitem.completed, (hitem.mono husers).claimed, hitem.ready⟩

theorem Write.agrees (h : Write env d db db') (hdb : ∀ item ∈ db.workItems, item.Agrees db) :
    ∀ item ∈ db'.workItems, item.Agrees db' := by
  intro item' hitem
  rcases h.item_cases hitem with ⟨pi, guid, occurredAt, id, rfl⟩ | ⟨item, hmem, hwrite⟩
  · exact ⟨by simp [newWorkItem], by simp [newWorkItem], fun _ => ⟨rfl, rfl⟩⟩
  · exact hwrite.agrees h.workItemUsers (hdb item hmem)

end

end M8flowCore
