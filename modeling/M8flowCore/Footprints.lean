import M8flowCore.Effects
/-!
# Footprints

For each service function, the kinds of change it makes.
-/
open M8flowCore.Lib M8flowCore.Session

namespace M8flowCore

/-! ## Footprints of the session's own operations -/

section
variable {W Ω α : Type} {env : Env W Ω} {F : Focus} {L : List Touch}

theorem query_touches (f : Db → α) : Touches (Change env F) L (query f) := .gets _

/-- What follows a query may rely on its result being one. -/
theorem query_bind_touches {β : Type} {f : Db → α} {k : α → M Ω β} (h : ∀ db, Touches (Change env F) L (k (f db))) :
    Touches (Change env F) L (query f >>= k) := fun s => h s.view s

theorem resolveTimestamp_touches (t : Option Time) : Touches (Change env F) L (resolveTimestamp env t) := .gets _

theorem ofExcept_touches (r : Except Error α) : Touches (Change env F) L (ofExcept r) := by
  cases r with
  | ok a => exact .pure a
  | error e => exact .raise e

/-- What follows an `Except` may rely on its value. -/
theorem ofExcept_bind_touches {β : Type} {r : Except Error α} {k : α → M Ω β}
    (h : ∀ a, r = .ok a → Touches (Change env F) L (k a)) : Touches (Change env F) L (ofExcept r >>= k) := by
  cases r with
  | ok a => exact h a rfl
  | error e => exact .raise e

theorem orRaised_touches (r : Option Error × W) : Touches (Change env F) L (orRaised r) := by
  unfold orRaised
  cases r.1 with
  | none => exact .pure _
  | some e => exact .raise e

theorem ask_touches (f : Ω → α × Ω) (hL : [Touch.world] ⊆ L) : Touches (Change env F) L (ask f) :=
  fun s => .one (hL (by decide)) (.world s _)

theorem write_touches {f : Db → Db} {l : Touch} (hl : l ∈ L)
    (h : ∀ s : Tx Ω, Change env F l s { s with view := f s.view }) : Touches (Change env F) L (write f) :=
  fun s => .one hl (h s)

theorem write_shared {f : Db → Db} (hL : [Touch.shared] ⊆ L) (h : ∀ db, Peripheral db (f db)) :
    Touches (Change env F) L (write f) := write_touches (hL (by decide)) fun s => .shared (h s.view)

theorem insert_shared {f : Nat → Db → Db} (hL : [Touch.seq, .shared] ⊆ L) (h : ∀ id db, Peripheral db (f id db)) :
    Touches (Change env F) L (insert f) := by
  refine .bind (fun s => .one (hL (by decide)) (.nextId s)) fun id => ?_
  exact .bind (write_shared (List.Subset.trans (by decide) hL) (h id)) fun _ => .pure id

theorem updateInstance_touches {id : Nat} (hF : id = F.instanceId) {f : ProcessInstance → ProcessInstance}
    (hL : [Touch.details] ⊆ L) (hf : ∀ p, (f p).identity = p.identity ∧ (f p).phase = p.phase) :
    Touches (Change env F) L (updateInstance id f) := by
  subst hF
  exact write_touches (hL (by decide)) fun s => .details s f hf

theorem updateInstance_status {id : Nat} (hF : id = F.instanceId) {f : ProcessInstance → ProcessInstance}
    (hL : [Touch.status] ⊆ L) (hf : ∀ p, (f p).identity = p.identity) :
    Touches (Change env F) L (updateInstance id f) := by
  subst hF
  exact write_touches (hL (by decide)) fun s => .status s f hf

/-! ## Users, groups and lanes -/

theorem ensureV1Role_touches (tenantId : TenantId) (roleName : String) (userIds : List Nat)
    (hL : [Touch.seq, .shared] ⊆ L) : Touches (Change env F) L (ensureV1Role tenantId roleName userIds) :=
  ensureV1Role_keeps frame_steps (fun s => .one (hL (by decide)) (.nextId s))
    (fun _ _ _ _ _ _ => .one (hL (by decide)) (.shared ⟨rfl, rfl, rfl, rfl, rfl, rfl, rfl⟩)) tenantId roleName userIds

section
variable {R : Tx Ω → Tx Ω → Prop} (hR : Prog.Frame R)
  (hgroups : ∀ (s : Tx Ω) g a, R s { s with view := { s.view with groups := g, userGroupAssignments := a } })
include hR hgroups

theorem findOrCreateLaneGroup_keeps (tenantId : TenantId) (lane : String) :
    (findOrCreateLaneGroup env tenantId lane).Keeps R := by
  refine Prog.keeps_bind hR (Prog.keeps_gets hR _) fun found => ?_
  cases found with
  | some group =>
    dsimp only
    split
    · exact Prog.keeps_pure hR _
    · split
      · exact Prog.keeps_bind hR (fun s => hgroups s _ _) fun _ => Prog.keeps_pure hR _
      · exact Prog.keeps_pure hR _
  | none =>
    refine Prog.keeps_bind hR (Prog.keeps_gets hR _) fun legacy => ?_
    cases legacy with
    | some group => exact Prog.keeps_pure hR _
    | none => exact Prog.keeps_bind hR (fun s => hgroups s _ _) fun _ => Prog.keeps_pure hR _

variable (hseq : ∀ s : Tx Ω, R s { s with seq := s.seq + 1 })
include hseq

theorem enrollLaneOwners_keeps (tenantId : TenantId) (ownersByLane : List (String × List Nat)) :
    (enrollLaneOwners env tenantId ownersByLane).Keeps R := by
  have hmember : ∀ groupId userId : Nat, (Session.insert (Ω := Ω) fun id db =>
      { db with userGroupAssignments := db.userGroupAssignments ++ [{ id := id, userId := userId, groupId := groupId }] }).Keeps R := by
    intro groupId userId
    refine Prog.keeps_bind hR hseq fun id => ?_
    exact Prog.keeps_bind hR (fun s => hgroups s _ _) fun _ => Prog.keeps_pure hR _
  refine Prog.keeps_mapEach hR fun entry _ => ?_
  refine Prog.keeps_bind hR (findOrCreateLaneGroup_keeps hR hgroups _ _) fun group => ?_
  cases group with
  | none => exact Prog.keeps_pure hR _
  | some group =>
    refine Prog.keeps_bind hR ?_ fun _ => Prog.keeps_pure hR _
    refine Prog.keeps_bind hR (Prog.keeps_gets hR _) fun existing => Prog.keeps_forEach hR fun userId _ => ?_
    exact Prog.keeps_bind hR (hmember _ _) fun _ => Prog.keeps_pure hR _

/-- Assigning potential owners writes groups, owners and the item's lane. -/
theorem assignWorkItemPotentialOwners_keeps (pi : ProcessInstance) (workItemId : Nat) (laneName : PyVal)
    (taskData : Dict) (definitionProperties : Option Dict)
    (howners : ∀ (s : Tx Ω) (row : WorkItemUser),
      R s { s with view := { s.view with workItemUsers := s.view.workItemUsers ++ [row] } })
    (hlane : ∀ groupId, (setLaneAssignment (Ω := Ω) workItemId groupId).Keeps R) :
    (assignWorkItemPotentialOwners env pi workItemId laneName taskData definitionProperties).Keeps R := by
  have hadd : ∀ owners, (addMissingPotentialOwners (Ω := Ω) pi.m8fTenantId workItemId owners).Keeps R := by
    intro owners
    refine Prog.keeps_bind hR (Prog.keeps_gets hR _) fun present => Prog.keeps_forEach hR fun owner _ => ?_
    exact fun s => howners s _
  have hinitiator : (initiator (Ω := Ω) pi).Keeps R :=
    Prog.keeps_bind hR (Prog.keeps_gets hR _) fun _ => Prog.keeps_orRaise hR _ _
  have hmembers : ∀ tenantIdentifiers named group,
      (withGroupMembers (Ω := Ω) workItemId tenantIdentifiers named group).Keeps R := by
    intro tenantIdentifiers named group
    cases group with
    | none => exact Prog.keeps_pure hR _
    | some group =>
      refine Prog.keeps_bind hR (hlane _) fun _ => ?_
      exact Prog.keeps_bind hR (Prog.keeps_gets hR _) fun _ => Prog.keeps_pure hR _
  refine Prog.keeps_bind hR (hlane _) fun _ => ?_
  dsimp only
  split
  · exact Prog.keeps_bind hR hinitiator fun _ => hadd _
  · split
    · exact Prog.keeps_bind hR hinitiator fun _ => hadd _
    · refine Prog.keeps_bind hR ?_ hadd
      refine Prog.keeps_bind hR (Prog.keeps_gets hR _) fun _ => Prog.keeps_bind hR (Prog.keeps_gets hR _) fun _ => ?_
      refine Prog.keeps_bind hR (enrollLaneOwners_keeps hR hgroups hseq _ _) fun groups => ?_
      dsimp only
      split
      · exact hmembers _ _ _
      · exact Prog.keeps_bind hR (findOrCreateLaneGroup_keeps hR hgroups _ _) fun _ => hmembers _ _ _

end

theorem enrollLaneOwners_touches (tenantId : TenantId) (ownersByLane : List (String × List Nat))
    (hL : [Touch.seq, .shared] ⊆ L) : Touches (Change env F) L (enrollLaneOwners env tenantId ownersByLane) :=
  enrollLaneOwners_keeps frame_steps
    (fun _ _ _ => .one (hL (by decide)) (.shared ⟨rfl, rfl, rfl, rfl, rfl, rfl, rfl⟩))
    (fun s => .one (hL (by decide)) (.nextId s)) _ _

theorem assignWorkItemPotentialOwners_touches (pi : ProcessInstance) (workItemId : Nat) (laneName : PyVal)
    (taskData : Dict) (definitionProperties : Option Dict) (hL : [Touch.seq, .shared, .lane] ⊆ L) :
    Touches (Change env F) L
      (assignWorkItemPotentialOwners env pi workItemId laneName taskData definitionProperties) :=
  assignWorkItemPotentialOwners_keeps frame_steps
    (fun _ _ _ => .one (hL (by decide)) (.shared ⟨rfl, rfl, rfl, rfl, rfl, rfl, rfl⟩))
    (fun s => .one (hL (by decide)) (.nextId s)) _ _ _ _ _
    (fun _ _ => .one (hL (by decide)) (.shared ⟨rfl, rfl, rfl, rfl, rfl, rfl, rfl⟩))
    fun groupId => write_touches (hL (by decide)) fun s => .lane s workItemId groupId

/-! ## Jobs, instances and events -/

theorem upsertSchedulerJob_touches (tenantId : TenantId) {jobKey : String} {v : JobValues} (occurredAt : Time)
    (createdAt : Option Time) (htype : v.jobType ≠ .timerStart) (hkey : jobKey = instanceJobKey v.jobType F.instanceId)
    (hinstance : v.processInstanceId = some F.instanceId) (hL : [Touch.seq, .job] ⊆ L) :
    Touches (Change env F) L (upsertSchedulerJob tenantId jobKey v occurredAt createdAt) := by
  refine .bind (query_touches _) fun found => ?_
  cases found with
  | none =>
    refine .bind (.bind (fun s => .one (hL (by decide)) (.nextId s)) fun id => .bind ?_ fun _ => .pure id) fun _ => .pure _
    refine write_touches (hL (by decide)) fun s => .job s _ (fun p hp => ?_) fun j hj => ?_
    · rw [List.filter_append, List.filter_cons_of_neg, List.filter_nil, List.append_nil]
      intro h
      exact hp _ h ⟨_, hkey⟩
    · rcases List.mem_append.1 hj with hj | hj
      · exact .inl hj
      · rw [List.mem_singleton] at hj
        subst hj
        exact .inr ⟨htype, hkey, hinstance⟩
  | some job =>
    refine write_touches (hL (by decide)) fun s => .job s _ (fun p hp => ?_) fun j hj => ?_
    · refine filter_updateWhere fun j _ hj => ?_
      simp only [Bool.and_eq_true, beq_iff_eq] at hj
      have hof : j.isOf F.instanceId := ⟨_, hj.2.trans hkey⟩
      refine ⟨Bool.eq_false_iff.2 fun h => hp _ h hof, Bool.eq_false_iff.2 fun h => hp _ h hof⟩
    · obtain ⟨j₀, hj₀, rfl⟩ := mem_updateWhere.1 hj
      split
      · rename_i hmatch
        simp only [Bool.and_eq_true, beq_iff_eq] at hmatch
        exact .inr ⟨htype, hmatch.2.trans hkey, hinstance⟩
      · exact .inl hj₀

theorem deleteSchedulerJob_touches (tenantId : TenantId) {jobKey : String}
    (hkey : ∃ jobType, jobKey = instanceJobKey jobType F.instanceId) (hL : [Touch.job] ⊆ L) :
    Touches (Change env F) L (deleteSchedulerJob tenantId jobKey) := by
  refine write_touches (hL (by decide)) fun s => .job s _ (fun p hp => ?_) fun j hj => .inl (List.mem_filter.1 hj).1
  rw [List.filter_filter]
  refine List.filter_congr fun j _ => ?_
  cases hpj : p j with
  | false => rfl
  | true =>
    have hne : j.jobKey ≠ jobKey := by
      rintro rfl
      exact hp j hpj hkey
    simp [hne]

theorem loadProcessInstance_readOnly (tenantId : TenantId) (processInstanceId : Nat) :
    (loadProcessInstance (Ω := Ω) tenantId processInstanceId).ReadOnly :=
  Prog.keeps_bind Prog.frame_eq (Prog.keeps_gets Prog.frame_eq _) fun _ => Prog.keeps_orRaise Prog.frame_eq _ _

/-- Recording an event adds a row with the label its type asks for. -/
theorem recordProcessInstanceEvent_adds {l : Touch} (tenantId : TenantId) (processInstanceId : Nat) (eventType : EventType)
    (occurredAt : Time) (taskGuid : Option Guid) (userId : Option Nat) (hL : [Touch.seq, l] ⊆ L)
    (hrow : ∀ (s : Tx Ω) (row : ProcessInstanceEvent), row.processInstanceId = processInstanceId →
      row.eventType = eventType →
      Change env F l s { s with view := { s.view with events := s.view.events ++ [row] } }) :
    Touches (Change env F) L
      (recordProcessInstanceEvent tenantId processInstanceId eventType occurredAt taskGuid userId) := by
  have hinsert : Touches (Change env F) L (do
      let _ ← loadProcessInstance tenantId processInstanceId
      let _ ← insert fun id db =>
        { db with
          events := db.events ++
            [{ id := id, m8fTenantId := tenantId, taskGuid := taskGuid, processInstanceId := processInstanceId,
               eventType := eventType, category := eventType.category, occurredAt := occurredAt, userId := userId }] }
      pure ()) := by
    refine .bind (.of_readOnly (loadProcessInstance_readOnly _ _)) fun _ => .bind ?_ fun _ => .pure _
    refine .bind (fun s => .one (hL (by simp)) (.nextId s)) fun id => .bind ?_ fun _ => .pure id
    exact write_touches (hL (by simp)) fun s => hrow s _ rfl rfl
  unfold recordProcessInstanceEvent
  dsimp only
  cases userId with
  | none => exact hinsert
  | some userId => exact .bind (.of_readOnly (ensureUserBelongsToTenant_readOnly _ _)) fun _ => hinsert

theorem recordProcessInstanceEvent_touches (tenantId : TenantId) {processInstanceId : Nat}
    (hF : processInstanceId = F.instanceId) (eventType : EventType) (occurredAt : Time) (taskGuid : Option Guid)
    (userId : Option Nat) (hL : [Touch.seq, .event] ⊆ L) :
    Touches (Change env F) L
      (recordProcessInstanceEvent tenantId processInstanceId eventType occurredAt taskGuid userId) :=
  recordProcessInstanceEvent_adds tenantId processInstanceId eventType occurredAt taskGuid userId hL
    fun s row hrow _ => .event s row (hrow.trans hF)

theorem recordProcessInstanceEvent_notes (tenantId : TenantId) {processInstanceId : Nat}
    (hF : processInstanceId = F.instanceId) {eventType : EventType} (htype : eventType.isLifecycle = false)
    (occurredAt : Time) (taskGuid : Option Guid) (userId : Option Nat) (hL : [Touch.seq, .note] ⊆ L) :
    Touches (Change env F) L
      (recordProcessInstanceEvent tenantId processInstanceId eventType occurredAt taskGuid userId) :=
  recordProcessInstanceEvent_adds tenantId processInstanceId eventType occurredAt taskGuid userId hL
    fun s row hrow hrowtype => .note s row (hrow.trans hF) (hrowtype ▸ htype)

theorem inactiveWorkItemEventType_note {taskState : Option TaskModelState} {eventType : EventType}
    (h : inactiveWorkItemEventType taskState = some eventType) : eventType.isLifecycle = false := by
  unfold inactiveWorkItemEventType at h
  split at h <;> simp only [Option.some.injEq, reduceCtorEq] at h <;> subst h <;> rfl

theorem upsertProcessInstanceMetadata_touches (tenantId : TenantId) (processInstanceId : Nat) (key value : String)
    (updatedAt : Time) (createdAt : Option Time) (hL : [Touch.seq, .shared] ⊆ L) :
    Touches (Change env F) L
      (upsertProcessInstanceMetadata tenantId processInstanceId key value updatedAt createdAt) := by
  refine .bind (.of_readOnly (loadProcessInstance_readOnly _ _)) fun _ => .bind (query_touches _) fun found => ?_
  cases found with
  | none => exact .bind (insert_shared hL fun _ _ => ⟨rfl, rfl, rfl, rfl, rfl, rfl, rfl⟩) fun _ => .pure _
  | some row => exact write_shared (List.Subset.trans (by decide) hL) fun _ => ⟨rfl, rfl, rfl, rfl, rfl, rfl, rfl⟩

theorem openProcessInstanceCommand_readOnly (tenantId : TenantId) (processInstanceId userId : Nat)
    (commandKey : String) : (openProcessInstanceCommand env tenantId processInstanceId userId commandKey).ReadOnly := by
  refine Prog.keeps_bind Prog.frame_eq (ensureUserBelongsToTenant_readOnly _ _) fun _ => ?_
  refine Prog.keeps_bind Prog.frame_eq (loadProcessInstance_readOnly _ _) fun pi => ?_
  exact Prog.keeps_bind Prog.frame_eq (requireCommandAuthorization_readOnly env _ _ _ _ _ _) fun _ =>
    Prog.keeps_pure Prog.frame_eq pi

theorem closeRuntimeState_touches (occurredAt : Time) (userId : Option Nat)
    (hL : [Touch.shared, .details, .task, .item] ⊆ L) :
    Touches (Change env F) L (write (·.closeRuntimeState F.instanceId occurredAt userId)) := by
  intro s
  have hshared : Change env F .shared s { s with view := { s.view with
      futureTasks := updateWhere (s.view.isFutureTaskOf F.instanceId)
        ({ · with completed := true, archivedForProcessInstanceStatus := true, updatedAt := occurredAt })
        s.view.futureTasks } } := .shared ⟨rfl, rfl, rfl, rfl, rfl, rfl, rfl⟩
  refine .trans (.one (hL (by decide)) hshared) ?_
  refine .trans (.one (hL (by decide)) (.details _ ({ · with taskUpdatedAt := some occurredAt }) fun _ => ⟨rfl, rfl⟩)) ?_
  refine .trans (.one (hL (by decide)) (.task _ (·.processInstanceId == F.instanceId) (fun t => { t with
    state := if t.state = .spiff .completed then t.state else .terminated, endedAt := some occurredAt })
    (fun t ht => .inr (by simpa using ht)) (fun _ => rfl) fun _ _ => .inr rfl)) ?_
  exact .one (hL (by decide)) (.item _ (fun w => w.processInstanceId == F.instanceId && !w.completed)
    (fun w => w.close .terminated occurredAt userId) (fun w hw => by simp at hw; exact hw.1) fun _ => rfl)

theorem reopenRuntimeState_touches (occurredAt : Time) (hL : [Touch.shared, .details, .task, .item] ⊆ L) :
    Touches (Change env F) L (write (·.reopenRuntimeState F.instanceId occurredAt)) := by
  intro s
  have hshared : Change env F .shared s { s with view := { s.view with
      futureTasks := updateWhere
        (fun f => s.view.tasks.any fun t => t.processInstanceId == F.instanceId && t.state == .terminated && t.guid == f.guid)
        ({ · with completed := false, archivedForProcessInstanceStatus := false, updatedAt := occurredAt })
        s.view.futureTasks } } := .shared ⟨rfl, rfl, rfl, rfl, rfl, rfl, rfl⟩
  refine .trans (.one (hL (by decide)) hshared) ?_
  refine .trans (.one (hL (by decide)) (.details _ ({ · with taskUpdatedAt := some occurredAt }) fun _ => ⟨rfl, rfl⟩)) ?_
  refine .trans (.one (hL (by decide)) (.task _ (fun t => t.processInstanceId == F.instanceId && t.state == .terminated)
    (fun t => { t with state := .spiff .ready, startedAt := none, endedAt := none })
    (fun t ht => .inr (by simp at ht; exact ht.1)) (fun _ => rfl) fun _ _ => .inr rfl)) ?_
  exact .one (hL (by decide)) (.item _
    (fun w => w.processInstanceId == F.instanceId && (w.taskStatus == .terminated || w.completed))
    (fun w => w.reopen occurredAt) (fun w hw => by simp only [Bool.and_eq_true, beq_iff_eq] at hw; exact hw.1) fun _ => rfl)

theorem suspendProcessInstance_touches (tenantId : TenantId) {processInstanceId : Nat}
    (hF : processInstanceId = F.instanceId) (userId : Nat) (at_ : Option Time) (hL : [Touch.status, .seq, .event] ⊆ L) :
    Touches (Change env F) L (suspendProcessInstance env tenantId processInstanceId userId at_) := by
  refine .bind (.of_readOnly (openProcessInstanceCommand_readOnly _ _ _ _)) fun pi => ?_
  split
  · exact .pure _
  · split
    · exact .raise _
    · refine .bind (resolveTimestamp_touches _) fun occurredAt => ?_
      refine .bind (updateInstance_status hF (List.Subset.trans (by decide) hL) fun _ => rfl) fun _ => ?_
      exact recordProcessInstanceEvent_touches _ hF _ _ _ _ (List.Subset.trans (by decide) hL)

/-- The footprint of a command that closes an instance. -/
def closing : List Touch := [.status, .seq, .event, .shared, .details, .task, .item]

theorem errorProcessInstance_touches (tenantId : TenantId) {processInstanceId : Nat}
    (hF : processInstanceId = F.instanceId) (userId : Option Nat) (at_ : Option Time) (hL : closing ⊆ L) :
    Touches (Change env F) L (errorProcessInstance env tenantId processInstanceId userId at_) := by
  subst hF
  have hrest : Touches (Change env F) L (do
      let pi ← loadProcessInstance tenantId F.instanceId
      if pi.status = .error then pure ()
      else if pi.status = .complete then
        Prog.raise (.invalidState "Cannot mark a completed process instance as errored")
      else if pi.status = .terminated then
        Prog.raise (.invalidState "Cannot mark a terminated process instance as errored")
      else do
        let occurredAt ← resolveTimestamp env at_
        updateInstance F.instanceId
          ({ · with status := .error, endedAt := some occurredAt, updatedAt := some occurredAt })
        write (·.closeRuntimeState F.instanceId occurredAt userId)
        recordProcessInstanceEvent tenantId F.instanceId .processInstanceError occurredAt none userId) := by
    refine .bind (.of_readOnly (loadProcessInstance_readOnly _ _)) fun pi => ?_
    split
    · exact .pure _
    · split
      · exact .raise _
      · split
        · exact .raise _
        · refine .bind (resolveTimestamp_touches _) fun occurredAt => ?_
          refine .bind (updateInstance_status rfl (List.Subset.trans (by decide) hL) fun _ => rfl) fun _ => ?_
          refine .bind (closeRuntimeState_touches _ _ (List.Subset.trans (by decide) hL)) fun _ => ?_
          exact recordProcessInstanceEvent_touches _ rfl _ _ _ _ (List.Subset.trans (by decide) hL)
  unfold errorProcessInstance
  dsimp only
  cases userId with
  | none => exact hrest
  | some userId => exact .bind (.of_readOnly (ensureUserBelongsToTenant_readOnly _ _)) fun _ => hrest

theorem terminateProcessInstance_touches (tenantId : TenantId) {processInstanceId : Nat}
    (hF : processInstanceId = F.instanceId) (userId : Nat) (at_ : Option Time) (hL : closing ⊆ L) :
    Touches (Change env F) L (terminateProcessInstance env tenantId processInstanceId userId at_) := by
  subst hF
  refine .bind (.of_readOnly (openProcessInstanceCommand_readOnly _ _ _ _)) fun pi => ?_
  split
  · exact .pure _
  · split
    · exact .raise _
    · refine .bind (resolveTimestamp_touches _) fun occurredAt => ?_
      refine .bind (updateInstance_status rfl (List.Subset.trans (by decide) hL) fun _ => rfl) fun _ => ?_
      refine .bind (closeRuntimeState_touches _ _ (List.Subset.trans (by decide) hL)) fun _ => ?_
      exact recordProcessInstanceEvent_touches _ rfl _ _ _ _ (List.Subset.trans (by decide) hL)

theorem scheduleProcessInstanceRetry_touches (tenantId : TenantId) {processInstanceId : Nat}
    (hF : processInstanceId = F.instanceId) (userId : Nat) (retryAt : Time) (at_ : Option Time)
    (hL : [Touch.seq, .job] ⊆ L) :
    Touches (Change env F) L (scheduleProcessInstanceRetry env tenantId processInstanceId userId retryAt at_) := by
  refine .bind (.of_readOnly (openProcessInstanceCommand_readOnly _ _ _ _)) fun pi => ?_
  split
  · exact .raise _
  · exact .bind (resolveTimestamp_touches _) fun occurredAt =>
      upsertSchedulerJob_touches _ _ _ (by simp) (by rw [hF]) (by rw [hF]) hL

/-! ## Saving a workflow -/

/-- The focus is on the instance `pi` was loaded from. -/
structure Focus.Of (F : Focus) (pi : ProcessInstance) : Prop where
  tenant : pi.m8fTenantId = F.tenantId
  id : pi.id = F.instanceId
  process : pi.bpmnProcessId = F.processId

/-- The tasks of a workflow, as listed, as serialized and as stored, have guids
of the focus. -/
structure Focus.Covers (env : Env W Ω) (F : Focus) (w : W) : Prop where
  rows : ∀ r ∈ iterSerializedTaskRows (env.toDict w), ∀ g, payloadGuid r.2.2 = some g → F.guids g
  tasks : ∀ t ∈ env.tasks w, ∀ g, payloadGuid t.payload = some g → F.guids g
  stored : ∀ state data, env.serializeJson w = .ok state →
    env.normalizedPayload ((env.toDict w).data.set workflowStateJsonDataKey (.str state)) = .ok data → F.Holds env data

/-- The focus on an instance, whatever its guids. -/
def ProcessInstance.focus (pi : ProcessInstance) : Focus := ⟨pi.m8fTenantId, pi.id, pi.bpmnProcessId, fun _ => True⟩

theorem ProcessInstance.focus_of (pi : ProcessInstance) : pi.focus.Of pi := ⟨rfl, rfl, rfl⟩

theorem ProcessInstance.focus_covers (pi : ProcessInstance) (w : W) : pi.focus.Covers env w :=
  ⟨fun _ _ _ _ => trivial, fun _ _ _ _ => trivial, fun _ _ _ _ _ _ _ _ _ _ => trivial⟩

variable {pi : ProcessInstance} {w : W}

theorem createOrUpdateFromPayload_touches (tenantId : TenantId) (data : Dict) (hL : [Touch.json] ⊆ L) :
    Touches (Change env F) L (createOrUpdateFromPayload env tenantId data) := by
  unfold createOrUpdateFromPayload Env.hashPayload
  cases hnormal : env.normalizedPayload data with
  | error e => exact .raise e
  | ok normalized =>
    have hput : Touches (Change env F) L (write (Ω := Ω) (·.putJsonData tenantId (env.payloadDigest normalized) normalized)) :=
      write_touches (hL (by decide)) fun s => .json s _ ⟨data, hnormal⟩
    simp only [Except.map, ofExcept, Prog.pure_bind]
    exact .bind hput fun _ => .pure _

theorem upsertTaskDefinitionFromPayload_touches (tenantId : TenantId) (definitionId : Nat) (taskIdentifier : String)
    (payload : Dict) (occurredAt : Time) (hL : [Touch.seq, .shared] ⊆ L) :
    Touches (Change env F) L
      (upsertTaskDefinitionFromPayload tenantId definitionId taskIdentifier payload occurredAt) := by
  refine .bind (query_touches _) fun found => ?_
  dsimp only
  split
  · exact .raise _
  · exact .raise _
  · cases found with
    | none => exact .bind (insert_shared hL fun _ _ => ⟨rfl, rfl, rfl, rfl, rfl, rfl, rfl⟩) fun _ => .pure _
    | some row =>
      exact .bind (write_shared (List.Subset.trans (by decide) hL) fun _ => ⟨rfl, rfl, rfl, rfl, rfl, rfl, rfl⟩)
        fun _ => .pure _

theorem syncSerializedTaskSpecs_touches (tenantId : TenantId) (definitionId : Nat) (subprocess : Option String)
    (taskSpecs : List (String × Dict)) (occurredAt : Time) (hL : [Touch.seq, .shared] ⊆ L) :
    Touches (Change env F) L (syncSerializedTaskSpecs tenantId definitionId subprocess taskSpecs occurredAt) :=
  .forEach fun _ _ => .bind (upsertTaskDefinitionFromPayload_touches _ _ _ _ _ hL) fun _ => .pure _

theorem syncProcessDefinitionFromWorkflow_touches (pi : ProcessInstance) (serialized : SerializedWorkflow)
    (occurredAt : Time) (hL : [Touch.seq, .shared] ⊆ L) :
    Touches (Change env F) L (syncProcessDefinitionFromWorkflow pi serialized occurredAt) := by
  refine .bind (query_touches _) fun found => ?_
  cases found with
  | none => exact .pure _
  | some definition =>
    refine .bind (write_shared (List.Subset.trans (by decide) hL) fun _ => ⟨rfl, rfl, rfl, rfl, rfl, rfl, rfl⟩) fun _ => ?_
    refine .bind (syncSerializedTaskSpecs_touches _ _ _ _ _ hL) fun _ => .forEach fun sub _ => ?_
    exact syncSerializedTaskSpecs_touches _ _ _ _ _ hL

theorem jsonData?_putJsonData (db : Db) (tenantId : TenantId) (hash : String) (data : Dict) :
    ((db.putJsonData tenantId hash data).jsonData? tenantId hash).isSome := by
  unfold Db.putJsonData Db.jsonData?
  split
  · rename_i h
    dsimp only
    rw [find?_updateWhere (by intro _ _ _; rfl), Option.isSome_map]
    exact h
  · rw [List.find?_isSome]
    exact ⟨_, List.mem_append_right _ (List.mem_singleton_self _), by simp⟩

theorem syncBpmnProcessFromWorkflow_touches (hF : F.Of pi) {serialized : SerializedWorkflow} {serializedState : String}
    (hdata : ∀ data, env.normalizedPayload (serialized.data.set workflowStateJsonDataKey (.str serializedState)) = .ok data →
      F.Holds env data) (hL : [Touch.json, .snapshot] ⊆ L) :
    Touches (Change env F) L (syncBpmnProcessFromWorkflow env pi serialized serializedState) := by
  refine query_bind_touches fun db => ?_
  cases hfound : pi.bpmnProcessId.bind db.bpmnProcess? with
  | none => exact .pure _
  | some process =>
    obtain ⟨processId, hprocess, hrow⟩ := Option.bind_eq_some_iff.1 hfound
    have hid : process.id = processId := by simpa using List.find?_some hrow
    dsimp only
    unfold createOrUpdateFromPayload Env.hashPayload
    cases hnormal : env.normalizedPayload (serialized.data.set workflowStateJsonDataKey (.str serializedState)) with
    | error e => exact .raise e
    | ok data =>
      simp only [Except.map, ofExcept, Prog.pure_bind]
      intro s
      have hrow : ((s.view.putJsonData pi.m8fTenantId (env.payloadDigest data) data).jsonData? F.tenantId
          (env.payloadDigest data)).isSome := by
        rw [← hF.tenant]
        exact jsonData?_putJsonData _ _ _ _
      refine .trans (.one (hL (by decide)) (.json s pi.m8fTenantId ⟨_, hnormal⟩)) ?_
      have hprocessId : F.processId = some process.id := by rw [← hF.process, hprocess, hid]
      exact .one (hL (by decide)) (.snapshot _ hprocessId serialized.properties ⟨_, hnormal⟩ hrow (hdata data hnormal))

theorem upsertTaskModelFromPayload_touches (hF : F.Of pi) (definition : TaskDefinition) {payload : Dict}
    (occurredAt : Time) (hguid : ∀ g, payloadGuid payload = some g → F.guids g) (hL : [Touch.json, .task] ⊆ L) :
    Touches (Change env F) L (upsertTaskModelFromPayload env pi definition payload occurredAt) := by
  unfold upsertTaskModelFromPayload
  have hjson : [Touch.json] ⊆ L := List.Subset.trans (by decide) hL
  cases hg : payloadGuid payload with
  | none => exact .raise _
  | some guid =>
    have hown := hguid guid hg
    simp only [Prog.orRaise_some, Prog.pure_bind]
    refine .bind (createOrUpdateFromPayload_touches _ _ hjson) fun jsonDataHash => ?_
    refine .bind (createOrUpdateFromPayload_touches _ _ hjson) fun pythonEnvDataHash => .bind (.orRaise _ _) fun state => ?_
    intro s
    simp only [query, Prog.gets_bind_run]
    cases hrow : s.view.task? guid with
    | none =>
      cases pi.bpmnProcessId with
      | none => exact .refl s
      | some processId => exact .one (hL (by decide)) (.newTask s _ hown hrow hF.id)
    | some row =>
      have hmatch : ∀ t : Task, (t.guid == guid) = true → F.guids t.guid := by
        intro t ht
        rw [beq_iff_eq] at ht
        rwa [ht]
      exact .one (hL (by decide)) (.task s (·.guid == guid) _ (fun t ht => .inl (hmatch t ht)) (fun _ => rfl)
        fun t ht => .inl ⟨hmatch t ht, hF.id⟩)

/-- A task model is stored under the guid of its payload. -/
theorem upsertTaskModelFromPayload_guid {definition : TaskDefinition} {payload : Dict} {occurredAt : Time} {guid : Guid}
    {s s' : Tx Ω} (h : (upsertTaskModelFromPayload env pi definition payload occurredAt).run s = (.ok guid, s')) :
    payloadGuid payload = some guid := by
  unfold upsertTaskModelFromPayload at h
  obtain ⟨g, s₁, hg, h₁⟩ := Prog.bind_ok.1 h
  obtain ⟨hpayload, -⟩ := Prog.orRaise_ok.1 hg
  obtain ⟨_, _, -, h₂⟩ := Prog.bind_ok.1 h₁
  obtain ⟨_, _, -, h₃⟩ := Prog.bind_ok.1 h₂
  obtain ⟨_, _, -, h₄⟩ := Prog.bind_ok.1 h₃
  obtain ⟨found, s₅, -, h₅⟩ := Prog.bind_ok.1 h₄
  cases found with
  | none =>
    obtain ⟨_, _, -, h₆⟩ := Prog.bind_ok.1 h₅
    obtain ⟨_, _, -, h₇⟩ := Prog.bind_ok.1 h₆
    rw [hpayload, (Prog.pure_ok.1 h₇).1]
  | some row =>
    obtain ⟨_, _, -, h₆⟩ := Prog.bind_ok.1 h₅
    rw [hpayload, (Prog.pure_ok.1 h₆).1]

theorem serializedTaskRows_payload {l : List (Guid × Option String × Dict)} {rows : List (String × Dict)}
    (h : serializedTaskRows l = .ok rows) : rows.map (·.2) = l.map (·.2.2) := by
  induction l generalizing rows with
  | nil =>
    simp only [serializedTaskRows, Except.ok.injEq] at h
    subst h
    rfl
  | cons r l ih =>
    obtain ⟨guid, subprocess, payload⟩ := r
    unfold serializedTaskRows at h
    split at h
    · simp at h
    · cases hrest : serializedTaskRows l with
      | error e => simp [hrest, Except.map] at h
      | ok rest =>
        simp only [hrest, Except.map, Except.ok.injEq] at h
        subst h
        simp [ih hrest]

theorem syncTaskModelsFromWorkflow_touches (hF : F.Of pi) (serialized : SerializedWorkflow) (occurredAt : Time)
    (hrows : ∀ r ∈ iterSerializedTaskRows serialized, ∀ g, payloadGuid r.2.2 = some g → F.guids g)
    (hL : [Touch.json, .task] ⊆ L) : Touches (Change env F) L (syncTaskModelsFromWorkflow env pi serialized occurredAt) := by
  unfold syncTaskModelsFromWorkflow
  refine .bind (.orRaise _ _) fun definitionId => .bind (query_touches _) fun definitions => ?_
  cases hser : serializedTaskRows (iterSerializedTaskRows serialized) with
  | error e => exact .raise e
  | ok rows =>
    simp only [ofExcept, Prog.pure_bind]
    split
    · exact .raise _
    · refine .forEach fun row hrow => .bind (.orRaise _ _) fun definition => .bind ?_ fun _ => .pure _
      refine upsertTaskModelFromPayload_touches hF definition occurredAt ?_ hL
      have hmem : row.2 ∈ (iterSerializedTaskRows serialized).map (·.2.2) := by
        rw [← serializedTaskRows_payload hser]
        exact List.mem_map_of_mem hrow
      obtain ⟨r, hr, hpayload⟩ := List.mem_map.1 hmem
      exact hpayload ▸ hrows r hr

theorem syncIntermediateTimerSchedulerJob_touches (hF : F.Of pi) (w : W) (occurredAt : Time)
    (hL : [Touch.seq, .job] ⊆ L) : Touches (Change env F) L (syncIntermediateTimerSchedulerJob env pi w occurredAt) := by
  refine .bind (ofExcept_touches _) fun payloads => ?_
  cases minimum (payloads.map (·.runAtInSeconds)) with
  | none => exact deleteSchedulerJob_touches _ ⟨.intermediateTimer, by rw [hF.id]⟩ (List.Subset.trans (by decide) hL)
  | some nextRunAt => exact upsertSchedulerJob_touches _ _ _ (by simp) (by rw [hF.id]) (by rw [hF.id]) hL

/-- The footprint of a stored snapshot with its rows and its job. -/
def persisting : List Touch := [.details, .seq, .shared, .json, .snapshot, .task, .job]

theorem persistWorkflowState_touches (hF : F.Of pi) (hw : F.Covers env w) (occurredAt : Time) (hL : persisting ⊆ L) :
    Touches (Change env F) L (persistWorkflowState env pi w occurredAt) := by
  refine ofExcept_bind_touches fun serializedState hstate => ?_
  refine .bind (updateInstance_touches hF.id (List.Subset.trans (by decide) hL) fun _ => ⟨rfl, rfl⟩) fun _ => ?_
  refine .bind (syncProcessDefinitionFromWorkflow_touches _ _ _ (List.Subset.trans (by decide) hL)) fun _ => ?_
  refine .bind (syncBpmnProcessFromWorkflow_touches hF (hw.stored _ · hstate) (List.Subset.trans (by decide) hL)) fun _ => ?_
  refine .bind (syncTaskModelsFromWorkflow_touches hF _ _ hw.rows (List.Subset.trans (by decide) hL)) fun _ => ?_
  exact syncIntermediateTimerSchedulerJob_touches hF w occurredAt (List.Subset.trans (by decide) hL)

theorem persistWorkflowRecoveryState_touches (hF : F.Of pi) (hw : F.Covers env w)
    (hL : [Touch.details, .json, .snapshot] ⊆ L) :
    Touches (Change env F) L (persistWorkflowRecoveryState env pi w) := by
  refine ofExcept_bind_touches fun serializedState hstate => ?_
  refine .bind (updateInstance_touches hF.id (List.Subset.trans (by decide) hL) fun _ => ⟨rfl, rfl⟩) fun _ => ?_
  exact syncBpmnProcessFromWorkflow_touches hF (hw.stored _ · hstate) (List.Subset.trans (by decide) hL)

/-! ## Work items and status -/

theorem updateWorkItem_touches {item : WorkItem} (hitem : item.processInstanceId = F.instanceId)
    {f : WorkItem → WorkItem} (hf : ∀ w, (f w).identity = w.identity) (hL : [Touch.item] ⊆ L) :
    Touches (Change env F) L (write (·.updateWorkItem item f)) := by
  refine write_touches (hL (by decide)) fun s => .item s _ f (fun w hw => ?_) hf
  simp only [Bool.and_eq_true, beq_iff_eq] at hw
  exact hw.2.trans hitem

theorem closeInactiveWorkItem_touches (hF : F.Of pi) {item : WorkItem} (hitem : item.processInstanceId = F.instanceId)
    (taskState : Option TaskModelState) (occurredAt : Time) (hL : [Touch.item, .shared, .seq, .note] ⊆ L) :
    Touches (Change env F) L (closeInactiveWorkItem pi item taskState occurredAt) := by
  refine .bind (updateWorkItem_touches hitem (fun _ => rfl) (List.Subset.trans (by decide) hL)) fun _ => ?_
  refine .bind (write_shared (List.Subset.trans (by decide) hL) fun _ => ⟨rfl, rfl, rfl, rfl, rfl, rfl, rfl⟩) fun _ => ?_
  cases htype : inactiveWorkItemEventType taskState with
  | none => exact .pure _
  | some eventType =>
    exact recordProcessInstanceEvent_notes _ hF.id (inactiveWorkItemEventType_note htype) _ _ _
      (List.Subset.trans (by decide) hL)

theorem syncInactiveWorkItems_touches (hF : F.Of pi) (w : W) (occurredAt : Time)
    (hL : [Touch.item, .shared, .seq, .note] ⊆ L) :
    Touches (Change env F) L (syncInactiveWorkItems env pi w occurredAt) := by
  refine .bind (query_touches _) fun ready => query_bind_touches fun db => .forEach fun item hitem => ?_
  refine .bind (query_touches _) fun task => ?_
  have hid : item.processInstanceId = F.instanceId := by
    simp only [List.mem_filter, Bool.and_eq_true, beq_iff_eq] at hitem
    exact hitem.2.1.2.trans hF.id
  split
  · exact closeInactiveWorkItem_touches hF hid _ _ hL
  · exact .pure _

theorem upsertWorkItem_touches (hF : F.Of pi) {taskGuid : Guid} (hguid : F.guids taskGuid) (occurredAt : Time)
    (hL : [Touch.item, .newItem, .details] ⊆ L) : Touches (Change env F) L (upsertWorkItem pi taskGuid occurredAt) := by
  have hinstance : ∀ id : Nat, Touches (Change env F) L (do
      updateInstance pi.id ({ · with taskUpdatedAt := some occurredAt })
      pure id) := fun id =>
    .bind (updateInstance_touches hF.id (List.Subset.trans (by decide) hL) fun _ => ⟨rfl, rfl⟩) fun _ => .pure id
  intro s
  unfold upsertWorkItem
  simp only [query, Prog.gets_bind_run]
  cases hfound : s.view.workItems.find? fun item =>
      item.m8fTenantId == pi.m8fTenantId && item.processInstanceId == pi.id && item.taskGuid == some taskGuid with
  | none =>
    have hnew : ∀ w ∈ s.view.workItems, w.m8fTenantId = pi.m8fTenantId → w.processInstanceId = pi.id →
        w.taskGuid ≠ some taskGuid := by
      intro w hw htenant hid hguid
      have := List.find?_eq_none.1 hfound w hw
      simp [htenant, hid, hguid] at this
    refine .trans (.one (hL (by decide)) (.newItem s (newWorkItem pi taskGuid occurredAt s.seq) rfl hF.id hF.tenant rfl hguid hnew)) ?_
    exact hinstance _ _
  | some item =>
    have hitem : item.processInstanceId = F.instanceId := by
      have := List.find?_some hfound
      simp only [Bool.and_eq_true, beq_iff_eq] at this
      exact this.1.2.trans hF.id
    have hready : Touches (Change env F) L (write (Ω := Ω) (·.updateWorkItem item (·.prepareForReadyState occurredAt))) :=
      updateWorkItem_touches hitem (fun _ => rfl) (List.Subset.trans (by decide) hL)
    exact Touches.bind hready (fun _ => hinstance item.id) s

/-- The footprint of materializing a manual task. -/
def materializing : List Touch := [.seq, .shared, .json, .task, .item, .newItem, .details, .lane]

theorem materializeSingleManualTask_touches (hF : F.Of pi) {t : SpiffTask} (occurredAt : Time)
    (hguid : ∀ g, payloadGuid t.payload = some g → F.guids g) (hL : materializing ⊆ L) :
    Touches (Change env F) L (materializeSingleManualTask env pi t occurredAt) := by
  refine .bind (query_touches _) fun _ => .bind (.orRaise _ _) fun _ => .bind (.orRaise _ _) fun definitionId => ?_
  split
  · exact .raise _
  · refine .bind (upsertTaskDefinitionFromPayload_touches _ _ _ _ _ (List.Subset.trans (by decide) hL)) fun definition => ?_
    refine .bind_of_ok (upsertTaskModelFromPayload_touches hF _ _ hguid (List.Subset.trans (by decide) hL)) ?_
    rintro guid ⟨s, s', hrun⟩
    have hown : F.guids guid := hguid guid (upsertTaskModelFromPayload_guid hrun)
    refine .bind (upsertWorkItem_touches hF hown _ (List.Subset.trans (by decide) hL)) fun workItemId => ?_
    refine .bind (query_touches _) fun properties => ?_
    refine .bind (assignWorkItemPotentialOwners_touches _ _ _ _ _ (List.Subset.trans (by decide) hL)) fun _ => ?_
    refine write_shared (List.Subset.trans (by decide) hL) fun db => ?_
    split <;> exact ⟨rfl, rfl, rfl, rfl, rfl, rfl, rfl⟩

theorem materializeReadyManualTasks_touches (hF : F.Of pi) (hw : F.Covers env w) (occurredAt : Time)
    (hL : materializing ⊆ L) : Touches (Change env F) L (materializeReadyManualTasks env pi w occurredAt) := by
  refine query_bind_touches fun db => .forEach fun t ht => ?_
  refine materializeSingleManualTask_touches hF occurredAt (hw.tasks t ?_) hL
  unfold currentReadyManualTasks Env.readyManualTasks at ht
  exact (List.mem_filter.1 (List.mem_filter.1 ht).1).1

theorem updateBpmnProcess_touches (hF : F.Of pi) {f : BpmnProcess → BpmnProcess}
    (hf : ∀ p, (f p).identity = p.identity ∧ (f p).jsonDataHash = p.jsonDataHash) (hL : [Touch.process] ⊆ L) :
    Touches (Change env F) L (updateProcessOf (Ω := Ω) pi f) := by
  unfold updateProcessOf
  cases hp : pi.bpmnProcessId with
  | none => exact fun s => .refl s
  | some processId => exact write_touches (hL (by decide)) fun s => .process s (by rw [← hF.process, hp]) f hf

theorem updateProcessInstanceStatusFromWorkflow_touches (hF : F.Of pi) (w : W) (occurredAt : Time)
    (hL : [Touch.status, .process, .shared] ⊆ L) :
    Touches (Change env F) L (updateProcessInstanceStatusFromWorkflow env pi w occurredAt) := by
  have hstatus : [Touch.status] ⊆ L := List.Subset.trans (by decide) hL
  have hprocess : [Touch.process] ⊆ L := List.Subset.trans (by decide) hL
  unfold updateProcessInstanceStatusFromWorkflow
  split
  · refine .bind (updateInstance_status hF.id hstatus fun _ => rfl) fun _ => ?_
    refine .bind (updateBpmnProcess_touches hF (fun _ => ⟨rfl, rfl⟩) hprocess) fun _ => ?_
    exact write_shared (List.Subset.trans (by decide) hL) fun _ => ⟨rfl, rfl, rfl, rfl, rfl, rfl, rfl⟩
  · refine .bind (updateInstance_status hF.id hstatus fun _ => rfl) fun _ => .bind (query_touches _) fun startedAt => ?_
    exact updateBpmnProcess_touches hF (fun _ => ⟨rfl, rfl⟩) hprocess

/-- The footprint of a save: everything about the instance. -/
def saving : List Touch :=
  [.seq, .shared, .lane, .json, .details, .status, .process, .snapshot, .task, .item, .newItem, .note, .job]

theorem saveWorkflow_touches (hF : F.Of pi) (hw : F.Covers env w) (occurredAt : Time) (starting : Bool)
    (hL : saving ⊆ L) : Touches (Change env F) L (saveWorkflow env pi w occurredAt starting) := by
  refine .bind (persistWorkflowState_touches hF hw _ (List.Subset.trans (by decide) hL)) fun _ => ?_
  refine .bind (syncInactiveWorkItems_touches hF _ _ (List.Subset.trans (by decide) hL)) fun _ => ?_
  refine .bind (materializeReadyManualTasks_touches hF hw _ (List.Subset.trans (by decide) hL)) fun _ => ?_
  have hend : Touches (Change env F) L (updateProcessInstanceStatusFromWorkflow env pi w occurredAt) :=
    updateProcessInstanceStatusFromWorkflow_touches hF w occurredAt (List.Subset.trans (by decide) hL)
  cases starting with
  | false => exact hend
  | true =>
    exact .bind (updateInstance_touches hF.id (List.Subset.trans (by decide) hL) fun _ => ⟨rfl, rfl⟩) fun _ => hend

/-! ## Running a workflow -/

theorem getProcessInstanceMetadata_readOnly (tenantId : TenantId) (processInstanceId : Nat) :
    (getProcessInstanceMetadata (Ω := Ω) tenantId processInstanceId).ReadOnly :=
  Prog.keeps_bind Prog.frame_eq (loadProcessInstance_readOnly _ _) fun _ => Prog.keeps_gets Prog.frame_eq _

theorem loadProcessInstanceMetadataPayload_readOnly (tenantId : TenantId) (processInstanceId : Nat) :
    (loadProcessInstanceMetadataPayload env tenantId processInstanceId).ReadOnly :=
  Prog.keeps_bind Prog.frame_eq (getProcessInstanceMetadata_readOnly _ _) fun _ => Prog.keeps_pure Prog.frame_eq _

theorem buildInstanceWorkflow_touches (tenantId : TenantId) (pi : ProcessInstance) (request : BuildRequest)
    (occurredAt : Time) (hL : [Touch.world, .seq, .shared] ⊆ L) :
    Touches (Change env F) L (buildInstanceWorkflow env tenantId pi request occurredAt) := by
  refine .bind (ask_touches _ (List.Subset.trans (by decide) hL)) fun built => .bind (ofExcept_touches _) fun w => ?_
  refine .bind ?_ fun _ => .bind (.of_readOnly (loadProcessInstanceMetadataPayload_readOnly _ _)) fun _ => .pure _
  unfold seedRuntimeDefinitions
  split
  · exact .raise _
  · exact syncProcessDefinitionFromWorkflow_touches _ _ _ (List.Subset.trans (by decide) hL)

theorem recordTaskFailed_notes {tenantId : TenantId} {occurredAt : Time} (hF : pi.id = F.instanceId)
    (failedTaskGuid : Option Guid) (hL : [Touch.seq, .note] ⊆ L) :
    Touches (Change env F) L (recordTaskFailed (Ω := Ω) tenantId pi occurredAt failedTaskGuid) := by
  unfold recordTaskFailed
  cases failedTaskGuid with
  | none => exact .pure _
  | some guid => exact recordProcessInstanceEvent_notes _ hF rfl _ _ _ hL

/-- The footprint of a failing service task; the jobs are left alone when only
the snapshot is stored. -/
def failing : List Touch := [.seq, .shared, .json, .details, .status, .process, .snapshot, .task, .item, .note, .event]

theorem enterError_touches (tenantId : TenantId) (hF : F.Of pi) (occurredAt : Time) (hL : .process :: closing ⊆ L) :
    Touches (Change env F) L (enterError env tenantId pi occurredAt) := by
  refine .bind (updateInstance_touches hF.id (List.Subset.trans (by decide) hL) fun _ => ⟨rfl, rfl⟩) fun _ => ?_
  refine .bind (updateBpmnProcess_touches hF (fun _ => ⟨rfl, rfl⟩) (List.Subset.trans (by decide) hL)) fun _ => ?_
  refine .bind (updateInstance_status hF.id (List.Subset.trans (by decide) hL) fun p => ?_) fun _ => ?_
  · split <;> rfl
  · exact errorProcessInstance_touches _ hF.id _ _ (List.Subset.trans (by decide) hL)

theorem transitionToError_touches (tenantId : TenantId) (hF : F.Of pi) (hw : F.Covers env w) (occurredAt : Time)
    (recoveryOnly : Bool) (hL : failing ⊆ L) (hjob : recoveryOnly = false → Touch.job ∈ L) :
    Touches (Change env F) L (transitionToErrorForServiceTaskFailure env tenantId pi w occurredAt recoveryOnly) := by
  have hend : Touches (Change env F) L (enterError env tenantId pi occurredAt) :=
    enterError_touches tenantId hF occurredAt (List.Subset.trans (by decide) hL)
  rw [transitionToErrorForServiceTaskFailure_eq]
  refine .bind ?_ fun _ => .bind (recordTaskFailed_notes hF.id _ (List.Subset.trans (by decide) hL)) fun _ => hend
  cases recoveryOnly with
  | true => exact persistWorkflowRecoveryState_touches hF hw (List.Subset.trans (by decide) hL)
  | false =>
    have hpersist : persisting ⊆ L := by
      have hall : persisting ⊆ .job :: failing := by decide
      exact List.Subset.trans hall (List.cons_subset.2 ⟨hjob rfl, hL⟩)
    exact .bind (persistWorkflowState_touches hF hw _ hpersist) fun _ =>
      syncInactiveWorkItems_touches hF _ _ (List.Subset.trans (by decide) hL)

theorem finalizeInitializedWorkflow_touches (tenantId : TenantId) (hF : F.Of pi) (hw : F.Covers env w)
    (occurredAt : Time) (hL : saving ⊆ L) :
    Touches (Change env F) L (finalizeInitializedWorkflow env tenantId pi w occurredAt) := by
  refine .bind (saveWorkflow_touches hF hw _ _ hL) fun _ => .bind (query_touches _) fun readyGuid => ?_
  exact recordProcessInstanceEvent_notes _ hF.id rfl _ _ _ (List.Subset.trans (by decide) hL)

theorem syncOpenWorkItemPotentialOwners_touches (tenantId : TenantId) (processInstanceId : Nat)
    (loaded : Option (List Nat)) (hL : [Touch.seq, .shared, .lane] ⊆ L) :
    Touches (Change env F) L (syncOpenWorkItemPotentialOwners env tenantId processInstanceId loaded) := by
  refine .bind (.of_readOnly (loadProcessInstance_readOnly _ _)) fun pi => .bind (query_touches _) fun state => ?_
  cases state with
  | none => exact .pure _
  | some state =>
    refine .bind (query_touches _) fun items => ?_
    split
    · exact .pure _
    · refine .bind (ofExcept_touches _) fun w => .bind (query_touches _) fun properties => .forEach fun item _ => ?_
      split
      · exact .pure _
      · exact assignWorkItemPotentialOwners_touches _ _ _ _ _ hL

/-! ## Completing and claiming -/

theorem persistTaskPayload_touches (tenantId : TenantId) (processInstanceId : Nat) (payload : Dict) (completedAt : Time)
    (hL : [Touch.seq, .shared] ⊆ L) :
    Touches (Change env F) L (persistTaskPayload env tenantId processInstanceId payload completedAt) :=
  .forEach fun _ _ => upsertProcessInstanceMetadata_touches _ _ _ _ _ _ hL

theorem completeRows_touches {item : WorkItem} (hitem : item.processInstanceId = F.instanceId)
    (hguid : ∀ g, item.taskGuid = some g → F.guids g) (userId : Nat) (completedAt : Time)
    (hL : [Touch.item, .task, .shared, .details] ⊆ L) :
    Touches (Change env F) L (write (·.completeRows item userId completedAt)) := by
  intro s
  have hshared : Change env F .shared s { s with view := { s.view with
      futureTasks := updateWhere (fun f => item.taskGuid == some f.guid) ({ · with completed := true })
        s.view.futureTasks } } := .shared ⟨rfl, rfl, rfl, rfl, rfl, rfl, rfl⟩
  have hrow : ∀ w : WorkItem, (w.id == item.id && w.processInstanceId == item.processInstanceId) = true →
      w.processInstanceId = F.instanceId := by
    intro w hw
    simp only [Bool.and_eq_true, beq_iff_eq] at hw
    exact hw.2.trans hitem
  refine .trans (.one (hL (by decide)) hshared) ?_
  refine .trans (.one (hL (by decide)) (.item _ _ (·.complete userId completedAt) hrow fun _ => rfl)) ?_
  refine .trans (.one (hL (by decide)) (.task _ (fun t => item.taskGuid == some t.guid)
    ({ · with state := .spiff .completed, endedAt := some completedAt })
    (fun t ht => .inl (hguid t.guid (by simpa using ht))) (fun _ => rfl) fun _ _ => .inr rfl)) ?_
  have hinstance : ∀ s' : Tx Ω, Change env F .details s' { s' with
      view := s'.view.updateInstance item.processInstanceId ({ · with taskUpdatedAt := some completedAt }) } := by
    intro s'
    rw [hitem]
    exact .details s' _ fun _ => ⟨rfl, rfl⟩
  exact .one (hL (by decide)) (hinstance _)

end
end M8flowCore
