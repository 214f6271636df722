import M8flowCore.Session
/-!
# Claim-state transitions of work items

Each transition is a change of one row.
-/
namespace M8flowCore
namespace WorkItem

/-- The row `claim_task`'s conditional update writes. -/
def claim (item : WorkItem) (userId : Nat) (occurredAt : Time) : WorkItem :=
  { item with actualOwnerId := some userId, taskStatus := .claimed, updatedAt := some occurredAt }

/-- `complete_work_item`. -/
def complete (item : WorkItem) (userId : Nat) (occurredAt : Time) : WorkItem :=
  { item with completed := true, completedByUserId := some userId, actualOwnerId := some userId,
              taskStatus := .completed, updatedAt := some occurredAt }

/-- `close_work_item`. -/
def close (item : WorkItem) (state : WorkItemState) (occurredAt : Time) (userId : Option Nat) : WorkItem :=
  { item with completed := true, completedByUserId := userId, taskStatus := state, updatedAt := some occurredAt,
              actualOwnerId := if userId.isSome then userId else item.actualOwnerId }

/-- `reopen_work_item` and `prepare_work_item_for_ready_state`: open, unclaimed
and `READY`. -/
def reopen (item : WorkItem) (occurredAt : Time) : WorkItem :=
  { item with completed := false, completedByUserId := none, actualOwnerId := none, taskStatus := .ready,
              updatedAt := some occurredAt }

def prepareForReadyState (item : WorkItem) (occurredAt : Time) : WorkItem := item.reopen occurredAt

end WorkItem
end M8flowCore
