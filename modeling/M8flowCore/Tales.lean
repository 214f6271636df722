import M8flowCore.Telling
import M8flowCore.JobMoves
import M8flowCore.Imports
/-!
# What an operation is about

Every operation names the instances it may touch: those it is given by id, the
instances of the items it claims or completes, the instances whose jobs are due.
All it does is told of these and of the instances it creates itself.
-/
open M8flowCore.Lib M8flowCore.Session

namespace M8flowCore

/-! ## The instances of an operation -/

/-- Whether instance `i` is one the command is given. -/
def Command.Concerns (db : Db) (i : Nat) : Command → Prop
  | .claimTask tenantId workItemId _ | .completeTask tenantId workItemId _ _ _ =>
    ∃ item, db.tenantWorkItem? tenantId workItemId = some item ∧ item.processInstanceId = i
  | .recordEvent _ j _ _ _ _ | .initializeWorkflow _ j _ _ | .upsertMetadata _ j _ _ _ _ | .suspend _ j _ _
  | .resume _ j _ _ | .error _ j _ _ | .retry _ j _ _ | .scheduleRetry _ j _ _ _ | .terminate _ j _ _ => i = j
  | .createProcessInstance .. | .importDefinition .. | .initializeFromDefinition .. => False

/-- Whether instance `i` is one the operation is given, or has a job that is due
at time `now`. -/
def Operation.Concerns (db : Db) (now : Time) (i : Nat) : Operation → Prop
  | .command c => c.Concerns db i
  | .advance _ j _ _ => i = j
  | .assignPendingTasks .. => False
  | .runDueJobs at_ limit _ tenant =>
    ∃ job ∈ dueSchedulerJobs db (at_.getD now) limit.toNat tenant, job.processInstanceId = some i

/-- An operation that creates an instance creates it with a runtime process of
its own. `create_process_instance` takes whatever process id it is given. -/
def Operation.Rooted : Operation → Prop
  | .command (.createProcessInstance ..) => False
  | _ => True

/-! ## Jobs that start instances -/

section
variable {W Ω : Type} {env : Env W Ω} {F : Focus} {L : List Touch}

theorem startJobKey_ne (definitionId : Nat) (specName : String) (jobType : SchedulerJobType) (i : Nat) :
    startJobKey definitionId specName ≠ instanceJobKey jobType i := by
  intro h
  have hchars := congrArg String.toList h
  cases jobType <;> simp [startJobKey, instanceJobKey, joinWith, SchedulerJobType.value, toString] at hchars

theorem deleteSchedulerJob_starts (tenantId : TenantId) {jobKey : String}
    (hkey : ∀ jobType i, jobKey ≠ instanceJobKey jobType i) (hL : [Touch.startJob] ⊆ L) :
    Touches (Change env F) L (deleteSchedulerJob tenantId jobKey) := by
  refine write_touches (hL (by decide)) fun s => .startJob s _ (fun p hp => ?_) fun j hj => .inl (List.mem_filter.1 hj).1
  rw [List.filter_filter]
  refine List.filter_congr fun j _ => ?_
  cases hpj : p j with
  | false => rfl
  | true =>
    have hne : j.jobKey ≠ jobKey := by
      rintro rfl
      obtain ⟨-, i, jobType, hof⟩ := hp j hpj
      exact hkey jobType i hof
    simp [hne]

theorem upsertSchedulerJob_starts (tenantId : TenantId) {jobKey : String} {v : JobValues} (occurredAt : Time)
    (createdAt : Option Time) (htype : v.jobType = .timerStart) (hkey : ∀ jobType i, jobKey ≠ instanceJobKey jobType i)
    (hL : [Touch.seq, .startJob] ⊆ L) :
    Touches (Change env F) L (upsertSchedulerJob tenantId jobKey v occurredAt createdAt) := by
  -- No job under this key is kept for an instance.
  have hnone : ∀ j : SchedulerJob, j.jobKey = jobKey → ∀ i, ¬ j.isOf i := by
    rintro j rfl i ⟨jobType, hof⟩
    exact hkey jobType i hof
  refine .bind (query_touches _) fun found => ?_
  cases found with
  | none =>
    refine .bind (.bind (fun s => .one (hL (by decide)) (.nextId s)) fun id => .bind ?_ fun _ => .pure id) fun _ => .pure _
    refine write_touches (hL (by decide)) fun s => .startJob s _ (fun p hp => ?_) fun j hj => ?_
    · rw [List.filter_append, List.filter_cons_of_neg, List.filter_nil, List.append_nil]
      intro h
      obtain ⟨-, i, hof⟩ := hp _ h
      exact hnone _ rfl i hof
    · rcases List.mem_append.1 hj with hj | hj
      · exact .inl hj
      · rw [List.mem_singleton] at hj
        subst hj
        exact .inr ⟨htype, hnone _ rfl⟩
  | some job =>
    refine write_touches (hL (by decide)) fun s => .startJob s _ (fun p hp => ?_) fun j hj => ?_
    · refine filter_updateWhere fun j _ hj => ?_
      simp only [Bool.and_eq_true, beq_iff_eq] at hj
      have hno : ∀ j' : SchedulerJob, j'.jobKey = j.jobKey → p j' = false := by
        intro j' hsame
        refine Bool.eq_false_iff.2 fun h => ?_
        obtain ⟨-, i, hof⟩ := hp _ h
        exact hnone j' (hsame.trans hj.2) i hof
      exact ⟨hno j rfl, hno _ rfl⟩
    · obtain ⟨j₀, hj₀, rfl⟩ := mem_updateWhere.1 hj
      split
      · rename_i hmatch
        simp only [Bool.and_eq_true, beq_iff_eq] at hmatch
        exact .inr ⟨htype, hnone _ hmatch.2⟩
      · exact .inl hj₀

/-- Asking the engine to collect the start events of a definition. -/
theorem collectTimerStartPayloadsForDefinition_touches (definition : BpmnProcessDefinition) (hL : [Touch.world] ⊆ L) :
    Touches (Change env F) L (collectTimerStartPayloadsForDefinition env definition) :=
  collectTimerStartPayloadsForDefinition_keeps frame_steps (fun s world => .one (hL (by decide)) (.world s world)) definition

theorem scheduleTimerStart_touches (definitionId : Nat) (tenantId : TenantId) (occurredAt : Time) (p : TimerPayload)
    (hL : [Touch.seq, .startJob] ⊆ L) :
    Touches (Change env F) L (scheduleTimerStart definitionId tenantId occurredAt p) := by
  unfold scheduleTimerStart
  dsimp only
  split
  · exact .raise _
  · refine ofExcept_bind_touches fun jobKey hkey => ?_
    obtain rfl := buildSchedulerJobKey_start hkey
    refine .bind (upsertSchedulerJob_starts _ _ _ rfl (startJobKey_ne _ _) hL) fun _ => .pure _

theorem syncTimerStartSchedulerJobs_touches (definitionId : Nat) (tenantId : TenantId) (occurredAt : Time)
    (hL : [Touch.seq, .startJob, .world] ⊆ L) :
    Touches (Change env F) L (syncTimerStartSchedulerJobs env definitionId tenantId occurredAt) := by
  refine .bind (query_touches _) fun found => .bind (.orRaise _ _) fun definition => ?_
  refine .bind (collectTimerStartPayloadsForDefinition_touches _ (List.Subset.trans (by decide) hL)) fun payloads => ?_
  refine .bind (.mapEach fun p _ => scheduleTimerStart_touches _ _ _ p (List.Subset.trans (by decide) hL)) fun expected => ?_
  refine write_touches (hL (by decide)) fun s => .startJob s _ (fun p hp => ?_) fun j hj => .inl (List.mem_filter.1 hj).1
  rw [List.filter_filter]
  refine List.filter_congr fun j _ => ?_
  cases hpj : p j with
  | false => rfl
  | true => simp [(hp j hpj).1]

theorem ensureTimerStartSystemUser_touches (tenantId : TenantId) (occurredAt : Time) (hL : [Touch.seq, .shared] ⊆ L) :
    Touches (Change env F) L (ensureTimerStartSystemUser tenantId occurredAt) := by
  refine .bind (query_touches _) fun found => .bind (.orRaise _ _) fun tenant => ?_
  refine .bind (.bind (query_touches _) fun user => ?_) fun user => ?_
  · cases user with
    | none => exact .bind (insert_shared hL fun _ _ => ⟨rfl, rfl, rfl, rfl, rfl, rfl, rfl⟩) fun _ => .pure _
    | some user =>
      refine .bind (write_shared (List.Subset.trans (by decide) hL) fun _ => ?_) fun _ => .pure _
      exact ⟨rfl, rfl, rfl, rfl, rfl, rfl, rfl⟩
  · exact .bind (ensureV1Role_touches _ _ _ hL) fun _ => .pure _

/-- The changes of an import. -/
def importing : List Touch := [.shared, .seq, .startJob, .world]

theorem importBpmnProcessDefinition_touches (tenantId : TenantId) (userId : Nat) (args : ImportArgs) :
    Touches (Change env F) importing (importBpmnProcessDefinition env tenantId userId args) := by
  refine .bind (.of_readOnly (ensureUserBelongsToTenant_readOnly _ _)) fun _ => ?_
  refine .bind (.of_readOnly (requireCommandAuthorization_readOnly env _ _ _ _ _ _)) fun _ => ?_
  refine .bind (ofExcept_touches _) fun _ => .bind (ofExcept_touches _) fun processIdentifier => ?_
  refine .bind (query_touches _) fun existing => .bind (ofExcept_touches _) fun laneNames => ?_
  refine .bind (ofExcept_touches _) fun _ => ?_
  have hrest : ∀ id, Touches (Change env F) importing (do
      let timestamp ← resolveTimestamp env (args.updatedAt.orElse fun _ => args.createdAt)
      let _ ← ensureBpmnVersionSnapshot env tenantId args.bpmnIdentifier args.sourceBpmnXml timestamp
      syncTimerStartSchedulerJobs env id tenantId timestamp
      enrollDefinitionLaneOwners env tenantId (args.propertiesJson.getD ((existing.map (·.propertiesJson)).getD []))
      pure id) := by
    intro id
    refine .bind (resolveTimestamp_touches _) fun timestamp => ?_
    refine .bind (ensureBpmnVersionSnapshot_touches _ _ _ _ (by decide)) fun _ => ?_
    refine .bind (syncTimerStartSchedulerJobs_touches _ _ _ (by decide)) fun _ => ?_
    refine .bind (.bind (query_touches _) fun ownersByLane => ?_) fun _ => .pure _
    exact .bind (enrollLaneOwners_touches _ _ (by decide)) fun _ => .pure _
  cases existing with
  | some d => exact .bind (write_shared (by decide) fun _ => ⟨rfl, rfl, rfl, rfl, rfl, rfl, rfl⟩) fun _ => hrest d.id
  | none => exact .bind (insert_shared (by decide) fun _ _ => ⟨rfl, rfl, rfl, rfl, rfl, rfl, rfl⟩) hrest

end

/-! ## Commands -/

section
variable {W Ω α : Type} {env : Env W Ω} {owner : Guid → Nat} {I : Nat → Prop} {s₀ s : Tx Ω} {durable : List (Nat × String)}
  {P : Tx Ω → Prop} {i : Nat} {L : List Touch} (henv : env.Engine owner)
include henv

/-- Changes that need no instance to be there. -/
theorem retells_apart {m : M Ω α} (hI : I i) (htouches : Touches (Change env ⟨"", i, none, fun _ => False⟩) L m)
    (hplain : ∀ l ∈ L, l ≠ .lane ∧ l ≠ .lock ∧ l ≠ .snapshot) (hrooted : ∀ l ∈ L, l.rooted = false) :
    Retells env owner I s₀ durable P m fun _ _ => True :=
  Goes.pre (goes_apart (tale_follow henv) htouches hI (fun _ _ => trivial) hplain hrooted fun _ _ _ _ _ _ => trivial)
    fun _ _ _ => trivial

theorem recordProcessInstanceEvent_retells (hI : I i) (tenantId : TenantId) (eventType : EventType) (occurredAt : Time)
    (taskGuid : Option Guid) (userId : Option Nat) :
    Retells env owner I s₀ durable P (recordProcessInstanceEvent tenantId i eventType occurredAt taskGuid userId)
      fun _ _ => True :=
  retells_apart henv hI (recordProcessInstanceEvent_touches _ rfl _ _ _ _ (List.Subset.refl _)) (by decide) (by decide)

theorem recordEventCommand_retells (hI : I i) (tenantId : TenantId) (eventType : Option EventType) (taskGuid : Option Guid)
    (userId : Option Nat) (occurredAt : Option Time) :
    Retells env owner I s₀ durable P (recordEventCommand env tenantId i eventType taskGuid userId occurredAt)
      fun _ _ => True := by
  refine retells_apart (L := [.seq, .event]) henv hI ?_ (by decide) (by decide)
  refine .bind (resolveTimestamp_touches _) fun occurredAt => ?_
  cases eventType with
  | some eventType => exact recordProcessInstanceEvent_touches _ rfl _ _ _ _ (List.Subset.refl _)
  | none =>
    have hload : Touches (Change env ⟨"", i, none, fun _ => False⟩) [.seq, .event] (do
        let _ ← loadProcessInstance tenantId i
        Prog.raise (.validation "Invalid process instance event type") : M Ω Unit) :=
      .bind (.of_readOnly (loadProcessInstance_readOnly _ _)) fun _ => .raise _
    cases userId with
    | none => exact hload
    | some userId => exact .bind (.of_readOnly (ensureUserBelongsToTenant_readOnly _ _)) fun _ => hload

theorem resumeProcessInstance_retells (hI : I i) (tenantId : TenantId) (userId : Nat) (resumedAt : Option Time) :
    Retells env owner I s₀ durable P (resumeProcessInstance env tenantId i userId resumedAt) fun _ _ => True := by
  have hleft : ∀ s, Tale env owner I s₀ durable s → Told env owner I s₀ s := retells_left
  refine goes_bind (goes_readOnly hleft (openProcessInstanceCommand_readOnly _ _ _ _)) fun pi => ?_
  split
  · exact (goes_pure ()).post fun _ _ _ _ => trivial
  split
  · exact goes_raise hleft _
  split
  · exact goes_raise hleft _
  refine goes_bind (goes_resolveTimestamp _) fun occurredAt => ?_
  refine goes_bind (retells_apart (L := [.status]) henv hI ?_ (by decide) (by decide)) fun _ => ?_
  · exact updateInstance_status rfl (List.Subset.refl _) fun _ => rfl
  refine goes_bind (syncOpenWorkItemPotentialOwners_retells henv hI _ _) fun _ => ?_
  exact recordProcessInstanceEvent_retells henv hI _ _ _ _ _

theorem retryProcessInstance_retells (hI : I i) (tenantId : TenantId) (userId : Nat) (retriedAt : Option Time) :
    Retells env owner I s₀ durable P (retryProcessInstance env tenantId i userId retriedAt) fun _ _ => True := by
  have hleft : ∀ s, Tale env owner I s₀ durable s → Told env owner I s₀ s := retells_left
  refine goes_bind (goes_readOnly hleft (openProcessInstanceCommand_readOnly _ _ _ _)) fun pi => ?_
  split
  · exact goes_raise hleft _
  refine goes_bind (goes_resolveTimestamp _) fun occurredAt => ?_
  refine goes_bind (retells_apart (L := [.status]) henv hI ?_ (by decide) (by decide)) fun _ => ?_
  · exact updateInstance_status rfl (List.Subset.refl _) fun _ => rfl
  refine goes_bind (goes_query _) fun loaded => ?_
  refine goes_bind (retells_apart (L := [.shared, .details, .task, .item]) henv hI ?_ (by decide) (by decide)) fun _ => ?_
  · exact reopenRuntimeState_touches _ (List.Subset.refl _)
  refine goes_bind (retryErroredServiceTaskWorkflowIfNeeded_retells henv hI _ _) fun _ => ?_
  refine goes_bind (retells_apart (L := [.job]) henv hI ?_ (by decide) (by decide)) fun _ => ?_
  · exact deleteSchedulerJob_touches _ ⟨_, rfl⟩ (List.Subset.refl _)
  refine goes_bind (recordProcessInstanceEvent_retells henv hI _ _ _ _ _) fun _ => ?_
  refine goes_bind (retryErroredServiceTaskWorkflowIfNeeded_retells henv hI _ _) fun _ => ?_
  exact syncOpenWorkItemPotentialOwners_retells henv hI _ _

omit henv in
/-- The item is one of the instance, with a task of it. -/
theorem Tale.item_guid {item : WorkItem} {tenantId : TenantId} {workItemId : Nat} {durable : List (Nat × String)}
    (hs : Tale env owner I s₀ durable s) (hitem : s.view.tenantWorkItem? tenantId workItemId = some item) :
    ∀ g, item.taskGuid = some g → owner g = item.processInstanceId := by
  intro g hg
  have hmem := mem_itemIds.2 ⟨s.view, List.mem_cons_self (l := [s.committed, s.base]), item, (tenantWorkItem?_mem hitem).1, rfl⟩
  obtain ⟨g', hg', hown⟩ := hs.1.integral.keyed.item_guid _ hmem
  obtain rfl := Option.some.inj (hg'.symm.trans hg)
  exact hown

theorem completeTask_retells {tenantId : TenantId} {workItemId : Nat} (userId : Nat) (completedAt : Option Time) (payload : Dict)
    (hI : ∀ s item, P s → s.view.tenantWorkItem? tenantId workItemId = some item → I item.processInstanceId) :
    Retells env owner I s₀ durable P (completeTask env tenantId workItemId userId completedAt payload) fun _ _ => True := by
  have hT : Follow env owner I (fun _ => True) [] (Tale env owner I s₀ durable) (Told env owner I s₀) := tale_follow henv
  refine goes_bind (goes_readOnly hT.left (completeTaskChecks_readOnly env _ _ _)) fun item => ?_
  have hfact : ∀ s, Tale env owner I s₀ durable s →
      (completeTaskChecks env tenantId workItemId userId).run s = (.ok item, s) ∧ P s →
      (I item.processInstanceId ∧ ∀ g, item.taskGuid = some g → owner g = item.processInstanceId) ∧ True := by
    rintro s hs ⟨hchecks, hP⟩
    obtain ⟨-, hitem, -, -⟩ := completeTaskChecks_ok hchecks
    exact ⟨⟨hI s item hP hitem, hs.item_guid hitem⟩, trivial⟩
  refine Goes.pre (goes_of_fact ?_) hfact
  rintro ⟨hI, hguid⟩
  refine goes_bind (goes_resolveTimestamp _) fun t => ?_
  refine goes_bind (retells_apart (L := [.seq, .shared]) henv hI ?_ (by decide) (by decide)) fun _ => ?_
  · exact persistTaskPayload_touches _ _ _ _ (List.Subset.refl _)
  refine goes_bind (Q := fun _ _ => True) ?_ fun _ => ?_
  · let F : Focus := ⟨"", item.processInstanceId, none, fun g => owner g = item.processInstanceId⟩
    have htouches : Touches (Change env F) [.item, .task, .shared, .details] (write (·.completeRows item userId t)) :=
      completeRows_touches rfl hguid userId t (List.Subset.refl _)
    exact goes_touches hT htouches hI (fun _ _ => trivial) (by decide)
      (fun _ _ _ => Focus.suits_of (fun _ hg => hg) (by decide)) fun _ _ _ _ _ _ => trivial
  refine goes_bind (goes_query _) fun state => ?_
  cases state with
  | none => exact (goes_pure ()).post fun _ _ _ _ => trivial
  | some state =>
    refine goes_bind (advanceProcessInstanceWorkflow_retells henv hI _ _ _) fun _ => ?_
    refine goes_bind (recordProcessInstanceEvent_retells henv hI _ _ _ _ _) fun _ => ?_
    refine goes_bind (goes_query _) fun status => ?_
    split
    · exact recordProcessInstanceEvent_retells henv hI _ _ _ _ _
    · exact (goes_pure ()).post fun _ _ _ _ => trivial

omit henv in
/-- The conditional update of a claim writes rows of one id, which are of one
instance. -/
theorem claimUpdate_act {item : WorkItem} (tenantId : TenantId) {durable : List (Nat × String)} (userId : Nat)
    (claimedAt : Time) (hs : Tale env owner I s₀ durable s) (hitem : item ∈ s.view.workItems) (hI : I item.processInstanceId) :
    Act env owner I (fun _ => True) [] s { s with view := s.view.claimUpdate tenantId item.id userId claimedAt } := by
  let F : Focus := ⟨"", item.processInstanceId, none, fun _ => False⟩
  let p (w : WorkItem) : Bool := claimable tenantId item.id userId w && w.processInstanceId == item.processInstanceId
  have hsame : s.view.claimUpdate tenantId item.id userId claimedAt =
      { s.view with workItems := updateWhere p (·.claim userId claimedAt) s.view.workItems } := by
    have hrow : ∀ w ∈ s.view.workItems, claimable tenantId item.id userId w = true →
        w.processInstanceId = item.processInstanceId := by
      intro w hw hclaimable
      have hid : w.id = item.id := by
        simp only [claimable, Bool.and_eq_true, beq_iff_eq] at hclaimable
        exact hclaimable.1.1.1
      have hone := hs.1.integral.keyed.item_key _ (mem_itemIds.2 ⟨s.view, by simp, w, hw, rfl⟩) _
        (mem_itemIds.2 ⟨s.view, by simp, item, hitem, rfl⟩) hid
      exact congrArg ItemIdentity.instanceId hone
    unfold Db.claimUpdate updateWhere
    congr 1
    refine List.map_congr_left fun w hw => ?_
    cases hclaimable : claimable tenantId item.id userId w with
    | false => simp [p, hclaimable]
    | true => simp [p, hclaimable, hrow w hw hclaimable]
  rw [hsame]
  have hchange : Change env F .item s
      { s with view := { s.view with workItems := updateWhere p (·.claim userId claimedAt) s.view.workItems } } :=
    .item s _ _ (fun w hw => by simp only [p, Bool.and_eq_true, beq_iff_eq] at hw; exact hw.2) fun _ => rfl
  exact .change hI trivial (by decide) (Focus.suits_of (by simp [F]) (by decide)) hchange

theorem claimTask_retells {tenantId : TenantId} {workItemId : Nat} (userId : Nat)
    (hI : ∀ s item, P s → s.view.tenantWorkItem? tenantId workItemId = some item → I item.processInstanceId) :
    Retells env owner I s₀ durable P (claimTask env tenantId workItemId userId) fun _ _ => True := by
  have hT : Follow env owner I (fun _ => True) [] (Tale env owner I s₀ durable) (Told env owner I s₀) := tale_follow henv
  refine goes_bind (goes_readOnly hT.left (claimTaskChecks_readOnly env _ _ _)) fun item => ?_
  rintro s ⟨hs, hchecks, hP⟩
  obtain ⟨hitem, -, -⟩ := claimTaskChecks_ok env hchecks
  have hI := hI s item hP hitem
  have hclaim := hs.act henv (claimUpdate_act tenantId userId (env.now s.world) hs (tenantWorkItem?_mem hitem).1 hI)
  rw [claimTaskUpdate_run]
  split
  · refine ⟨fun _ s' h => ?_, fun e s' h => by cases h⟩
    cases h
    let F : Focus := ⟨"", item.processInstanceId, none, fun _ => False⟩
    have hchange : Change env F .details { s with view := s.view.claimUpdate tenantId item.id userId (env.now s.world) }
        { s with view := s.view.claimWrites tenantId userId item (env.now s.world) } :=
      .details _ ({ · with taskUpdatedAt := some (env.now s.world) }) fun _ => ⟨rfl, rfl⟩
    exact ⟨hclaim.act henv (.change hI trivial (by decide) (Focus.suits_of (by simp [F]) (by decide)) hchange), trivial⟩
  · refine ⟨fun _ s' h => (by cases h), fun e s' h => ?_⟩
    cases h
    exact ⟨_, hclaim⟩

theorem executeCommand_retells (hkeys : env.AddsNoKeys) (hfresh : ∀ i, s₀.seq ≤ i → I i) {c : Command}
    (hrooted : (Operation.command c).Rooted) (hI : ∀ i, c.Concerns s₀.view i → I i) :
    Retells env owner I s₀ durable (· = s₀) (executeCommand env c) fun _ _ => True := by
  have hleft : ∀ s, Tale env owner I s₀ durable s → Told env owner I s₀ s := retells_left
  cases c with
  | claimTask tenantId workItemId userId =>
    exact claimTask_retells henv userId fun s item hs hitem => hI _ ⟨item, hs ▸ hitem, rfl⟩
  | completeTask tenantId workItemId userId completedAt payload =>
    exact completeTask_retells henv userId _ _ fun s item hs hitem => hI _ ⟨item, hs ▸ hitem, rfl⟩
  | recordEvent tenantId i eventType taskGuid userId occurredAt =>
    exact recordEventCommand_retells henv (hI i rfl) _ _ _ _ _
  | createProcessInstance tenantId new => exact absurd hrooted (by simp [Operation.Rooted])
  | importDefinition tenantId userId args =>
    refine goes_bind (retells_apart (L := importing) henv (hfresh _ (le_refl _)) ?_ (by decide) (by decide)) fun _ => ?_
    · exact importBpmnProcessDefinition_touches _ _ _
    · exact (goes_pure ()).post fun _ _ _ _ => trivial
  | initializeFromDefinition tenantId definitionId args resolver =>
    exact initializeProcessInstanceFromDefinition_retells henv hkeys hfresh _ _ _ _
  | initializeWorkflow tenantId i source startedAt =>
    exact initializeProcessInstanceWorkflow_retells henv (hI i rfl) _ _ _
  | upsertMetadata tenantId i key value updatedAt createdAt =>
    exact retells_apart henv (hI i rfl) (upsertProcessInstanceMetadata_touches _ _ _ _ _ _ (List.Subset.refl _))
      (by decide) (by decide)
  | suspend tenantId i userId at_ =>
    exact retells_apart henv (hI i rfl) (suspendProcessInstance_touches _ rfl _ _ (List.Subset.refl _))
      (by decide) (by decide)
  | resume tenantId i userId at_ => exact resumeProcessInstance_retells henv (hI i rfl) _ _ _
  | error tenantId i userId at_ =>
    exact retells_apart henv (hI i rfl) (errorProcessInstance_touches _ rfl _ _ (List.Subset.refl _))
      (by decide) (by decide)
  | retry tenantId i userId at_ => exact retryProcessInstance_retells henv (hI i rfl) _ _ _
  | scheduleRetry tenantId i userId retryAt at_ =>
    exact retells_apart henv (hI i rfl) (scheduleProcessInstanceRetry_touches _ rfl _ _ _ (List.Subset.refl _))
      (by decide) (by decide)
  | terminate tenantId i userId at_ =>
    exact retells_apart henv (hI i rfl) (terminateProcessInstance_touches _ rfl _ _ (List.Subset.refl _))
      (by decide) (by decide)

/-! ## Scheduler passes -/

variable {job : SchedulerJob}

/-- Deleting a job that is filed. -/
theorem deleteSchedulerJob_retells (hfresh : ∀ i, s₀.seq ≤ i → I i) (hjob : job.Filed)
    (hI : ∀ i, job.processInstanceId = some i → I i) :
    Retells env owner I s₀ durable P (deleteSchedulerJob job.m8fTenantId job.jobKey) fun _ _ => True := by
  rcases hjob with ⟨-, hnone⟩ | ⟨i, -, hkey, hid⟩
  · refine retells_apart (L := [.startJob]) henv (hfresh _ (le_refl _)) ?_ (by decide) (by decide)
    exact deleteSchedulerJob_starts _ (fun jobType i h => hnone i ⟨jobType, h⟩) (List.Subset.refl _)
  · refine retells_apart (L := [.job]) henv (hI i hid) ?_ (by decide) (by decide)
    exact deleteSchedulerJob_touches _ ⟨_, hkey⟩ (List.Subset.refl _)

theorem executeTimerStartJob_retells (hkeys : env.AddsNoKeys) (hfresh : ∀ i, s₀.seq ≤ i → I i) (hnone : ∀ i, ¬ job.isOf i)
    (hjob : job.Filed) (hI : ∀ i, job.processInstanceId = some i → I i) (occurredAt : Time) :
    Retells env owner I s₀ durable P (executeTimerStartJob env job occurredAt) fun _ _ => True := by
  have hleft : ∀ s, Tale env owner I s₀ durable s → Told env owner I s₀ s := retells_left
  have hkey : ∀ jobType i, job.jobKey ≠ instanceJobKey jobType i := fun jobType i h => hnone i ⟨jobType, h⟩
  unfold executeTimerStartJob
  split
  · exact deleteSchedulerJob_retells henv hfresh hjob hI
  refine goes_bind (goes_query _) fun definition => ?_
  split
  · exact deleteSchedulerJob_retells henv hfresh hjob hI
  refine goes_bind (goes_ofExcept hleft _) fun timerTask => ?_
  refine goes_bind (Q := fun _ _ => True) ?_ fun systemUser => ?_
  · refine retells_apart (L := [.seq, .shared]) henv (hfresh _ (le_refl _)) ?_ (by decide) (by decide)
    exact ensureTimerStartSystemUser_touches _ _ (List.Subset.refl _)
  refine goes_bind (goes_ofExcept hleft _) fun specName => ?_
  refine goes_bind (initializeProcessInstanceFromTimerStart_retells henv hkeys hfresh _ _ _ _ _) fun _ => ?_
  refine goes_bind (goes_ofExcept hleft _) fun next => ?_
  cases next with
  | none => exact deleteSchedulerJob_retells henv hfresh hjob hI
  | some entry =>
    refine retells_apart (L := [.seq, .startJob]) henv (hfresh _ (le_refl _)) ?_ (by decide) (by decide)
    exact upsertSchedulerJob_starts _ _ _ rfl hkey (List.Subset.refl _)

theorem executeClaimedSchedulerJob_retells (hkeys : env.AddsNoKeys) (hfresh : ∀ i, s₀.seq ≤ i → I i) (hjob : job.Filed)
    (hI : ∀ i, job.processInstanceId = some i → I i) (occurredAt : Time) :
    Retells env owner I s₀ durable P (executeClaimedSchedulerJob env job occurredAt) fun _ _ => True := by
  have hleft : ∀ s, Tale env owner I s₀ durable s → Told env owner I s₀ s := retells_left
  have hdelete : ∀ P, Retells env owner I s₀ durable P (deleteSchedulerJob job.m8fTenantId job.jobKey) fun _ _ => True :=
    fun P => deleteSchedulerJob_retells henv hfresh hjob hI
  unfold executeClaimedSchedulerJob
  split
  · unfold executeIntermediateTimerJob
    split
    · exact hdelete _
    rename_i i hi
    refine goes_bind (goes_readOnly hleft (loadProcessInstance_readOnly _ _)) fun pi => ?_
    split
    · refine goes_bind (goes_query _) fun state => ?_
      split
      · exact hdelete _
      · exact refreshWaitingProcessInstanceWorkflow_retells henv (hI i hi) _ _
    · exact hdelete _
  · unfold executeProcessRetryJob
    split
    · exact hdelete _
    rename_i i hi
    refine goes_bind (goes_readOnly hleft (loadProcessInstance_readOnly _ _)) fun pi => ?_
    split
    · refine goes_bind (goes_ofExcept hleft _) fun userId => ?_
      exact retryProcessInstance_retells henv (hI i hi) _ _ _
    · exact hdelete _
  · rename_i htype
    refine executeTimerStartJob_retells henv hkeys hfresh (fun i hof => ?_) hjob hI _
    rcases hjob with ⟨-, hnone⟩ | ⟨k, hk, -, -⟩
    · exact hnone i hof
    · exact hk htype

omit henv in
theorem mem_of_due {db : Db} {now : Time} {limit : Nat} {tenant : Option TenantId}
    (h : job ∈ dueSchedulerJobs db now limit tenant) : job ∈ db.schedulerJobs :=
  (List.mem_filter.1 ((List.mem_insertionSort _).1 (List.mem_of_mem_take h))).1

variable (hids : (s₀.view.schedulerJobs.map (·.id)).Nodup)
include hids

/-- A job that still has the id of one of the pass is that one, or has been
written since. -/
theorem Tale.job_of_id (hs : Tale env owner I s₀ durable s) (hfirm : Firm env owner [] s₀)
    (hjob : job ∈ s₀.view.schedulerJobs) (hI : ∀ i, job.isOf i → I i) :
    ∀ job' ∈ s.view.schedulerJobs, job'.id = job.id → ∀ i, job'.isOf i → I i := by
  intro job' hjob' hid i hof
  obtain ⟨-, own, hstory⟩ := hs
  rcases hstory.jobs henv hfirm job' hjob' with hold | hown
  · obtain rfl := eq_of_nodup_map hids hold hjob hid
    exact hI i hof
  · exact hown i hof

/-- A job that is attempted: where it raises, its lock is released. -/
theorem attemptSchedulerJob_told (hkeys : env.AddsNoKeys) (hfresh : ∀ i, s₀.seq ≤ i → I i) (hfirm : Firm env owner [] s₀)
    (hjob : job ∈ s₀.view.schedulerJobs) (hI : ∀ i, job.processInstanceId = some i → I i) (occurredAt : Time) :
    Prog.Ends (Tale env owner I s₀ durable) (attemptSchedulerJob env occurredAt job)
      (fun outcome s => Told env owner I s₀ s ∧ (outcome = none → Tale env owner I s₀ durable s))
      fun _ => Told env owner I s₀ := by
  have hfiled := hfirm.filed job hjob
  refine Prog.ends_attempt (?_ : Prog.Ends _ _ _ fun _ => Told env owner I s₀) fun e => ?_
  · have hrun : Retells env owner I s₀ durable (fun _ => True) (executeClaimedSchedulerJob env job occurredAt) fun _ _ => True :=
      executeClaimedSchedulerJob_retells henv hkeys hfresh hfiled hI occurredAt
    refine Prog.ends_bind (hrun.weaken (fun s hs => ⟨hs, trivial⟩) (fun _ _ h => h.1) fun _ _ h => h) fun _ => ?_
    exact Prog.ends_pure none fun s hs => ⟨⟨_, hs⟩, fun _ => hs⟩
  · refine Prog.ends_bind (Q := fun _ => Told env owner I s₀) ?_ fun _ => ?_
    · rintro s ⟨durable', hs⟩
      refine ⟨fun _ s' h => ?_, fun e s' h => by cases h⟩
      obtain ⟨-, rfl⟩ := Prod.mk.inj h
      refine ⟨durable', hs.act henv (.lock s _ _ trivial (fun _ => rfl) fun job' hjob' hid => ?_)⟩
      exact hs.job_of_id henv hids hfirm hjob (fun i hof => hI i (hfiled.instance hof)) job' hjob' (by simpa using hid)
    · exact Prog.ends_pure _ fun s hs => ⟨hs, by simp⟩

theorem attempts_told (hkeys : env.AddsNoKeys) (hfresh : ∀ i, s₀.seq ≤ i → I i) (hfirm : Firm env owner [] s₀)
    {jobs : List SchedulerJob} (occurredAt : Time)
    (hjobs : ∀ job ∈ jobs, job ∈ s₀.view.schedulerJobs ∧ ∀ i, job.processInstanceId = some i → I i) :
    Prog.Ends (Tale env owner I s₀ durable) (Prog.mapEach jobs (attemptSchedulerJob env occurredAt))
      (fun outcomes s => Told env owner I s₀ s ∧ (outcomes.filterMap id = [] → Tale env owner I s₀ durable s))
      fun _ => Told env owner I s₀ := by
  induction jobs generalizing durable with
  | nil => exact Prog.ends_pure [] fun s hs => ⟨⟨_, hs⟩, fun _ => hs⟩
  | cons job jobs ih =>
    rw [Prog.mapEach_cons]
    obtain ⟨hjob, hI⟩ := hjobs job (by simp)
    refine Prog.ends_bind (attemptSchedulerJob_told henv hids hkeys hfresh hfirm hjob hI occurredAt) fun outcome => ?_
    have hrest : ∀ durable', Prog.Ends (Tale env owner I s₀ durable') _ _ _ :=
      fun _ => ih fun job' hjob' => hjobs job' (by simp [hjob'])
    refine Prog.ends_bind (Q := fun outcomes s => Told env owner I s₀ s ∧
      ((outcome :: outcomes).filterMap id = [] → Tale env owner I s₀ durable s)) ?_ fun outcomes => ?_
    · rintro s ⟨⟨durable', hs'⟩, hs⟩
      cases outcome with
      | none =>
        have hsame := hrest durable s (hs rfl)
        exact ⟨fun outcomes s' h => hsame.1 outcomes s' h, hsame.2⟩
      | some e => exact ⟨fun outcomes s' h => ⟨((hrest durable' s hs').1 outcomes s' h).1, by simp⟩, (hrest durable' s hs').2⟩
    · exact Prog.ends_pure _ fun s hs => hs

/-- The jobs of a pass are locked before anything else is written. -/
theorem claimDueSchedulerJobs_retells {now : Time} {limit : Int} {workerId : String} {tenant : Option TenantId}
    (hdue : ∀ job ∈ dueSchedulerJobs s₀.view now limit.toNat tenant, ∀ i, job.processInstanceId = some i → I i) :
    Retells env owner I s₀ durable (· = s₀) (claimDueSchedulerJobs now limit workerId tenant)
      fun jobs _ => jobs = dueSchedulerJobs s₀.view now limit.toNat tenant := by
  have hleft : ∀ s, Tale env owner I s₀ durable s → Told env owner I s₀ s := retells_left
  unfold claimDueSchedulerJobs
  split
  · exact goes_raise hleft _
  refine goes_bind (Q := fun jobs s => jobs = dueSchedulerJobs s₀.view now limit.toNat tenant ∧ s = s₀) ?_ fun jobs => ?_
  · unfold listDueSchedulerJobs
    split
    · exact goes_raise hleft _
    · refine (goes_query _).post ?_
      rintro jobs s - ⟨rfl, rfl⟩
      exact ⟨rfl, rfl⟩
  refine goes_of_fact fun hjobs => goes_bind (Q := fun _ _ => True) ?_ fun _ => ?_
  · rintro s ⟨hs, rfl⟩
    refine ⟨fun _ s' h => ?_, fun e s' h => by cases h⟩
    obtain ⟨-, rfl⟩ := Prod.mk.inj h
    refine ⟨hs.act henv (.lock s _ _ trivial (fun _ => rfl) fun job hjob hlocked i hof => ?_), trivial⟩
    obtain ⟨job', hjob', hid⟩ := List.any_eq_true.1 hlocked
    rw [hjobs] at hjob'
    obtain rfl := eq_of_nodup_map hids (mem_of_due hjob') hjob (by simpa using hid)
    exact hdue job' hjob' i ((hs.1.filed job' hjob).instance hof)
  · exact (goes_pure jobs).post fun _ _ _ h => h.1.trans hjobs

theorem runDueSchedulerJobs_retells (hkeys : env.AddsNoKeys) (hfresh : ∀ i, s₀.seq ≤ i → I i) {now : Option Time}
    {limit : Int} {workerId : String} {tenant : Option TenantId} (hfirm : Firm env owner [] s₀)
    (hI : ∀ job ∈ dueSchedulerJobs s₀.view (now.getD (env.now s₀.world)) limit.toNat tenant,
      ∀ i, job.processInstanceId = some i → I i) :
    Retells env owner I s₀ durable (· = s₀) (runDueSchedulerJobs env now limit workerId tenant) fun _ _ => True := by
  refine goes_bind (Q := fun t s => t = now.getD (env.now s₀.world) ∧ s = s₀) ?_ fun t => goes_of_fact fun ht => ?_
  · rintro s ⟨hs, rfl⟩
    refine ⟨fun t s' h => ?_, fun e s' h => by cases h⟩
    cases h
    exact ⟨hs, rfl, rfl⟩
  subst ht
  refine goes_bind (claimDueSchedulerJobs_retells henv hids hI) fun jobs => ?_
  refine Goes.pre (goes_of_fact (P := fun _ => True) fun hjobs => ?_) fun _ _ h => ⟨h, trivial⟩
  subst hjobs
  have hattempts : Prog.Ends (Tale env owner I s₀ durable) _ _ _ :=
    attempts_told henv hids hkeys hfresh hfirm (now.getD (env.now s₀.world)) fun job hjob => ⟨mem_of_due hjob, hI job hjob⟩
  refine Prog.ends_bind (hattempts.weaken (fun _ h => h.1) (fun _ _ h => h) fun _ _ h => h) fun outcomes => ?_
  rintro s ⟨htold, hnone⟩
  split
  · rename_i hempty
    exact Prog.ends_pure _ (fun _ h => ⟨h, trivial⟩) s (hnone hempty)
  · exact Prog.ends_raise _ (fun _ h => h) s htold
  · exact Prog.ends_raise _ (fun _ h => h) s htold

/-! ## Operations -/

/-- The instances an operation may touch: those it concerns and those it creates. -/
def Operation.Reaches (env : Env W Ω) (op : Operation) (s₀ : Tx Ω) (i : Nat) : Prop :=
  op.Concerns s₀.view (env.now s₀.world) i ∨ s₀.seq ≤ i

theorem Operation.retells (hkeys : env.AddsNoKeys) {op : Operation} (hrooted : op.Rooted) (hfirm : Firm env owner [] s₀) :
    Retells env owner (op.Reaches env s₀) s₀ durable (· = s₀) (op.run env) fun _ _ => True := by
  have hfresh : ∀ i, s₀.seq ≤ i → op.Reaches env s₀ i := fun _ hi => .inr hi
  cases op with
  | command c => exact executeCommand_retells henv hkeys hfresh hrooted fun _ hi => .inl hi
  | advance tenantId i guid completedAt =>
    exact advanceProcessInstanceWorkflow_retells henv (.inl rfl) _ _ _
  | assignPendingTasks tenantId userId =>
    refine goes_bind (retells_apart (L := [.shared]) henv (hfresh _ (le_refl _)) ?_ (by decide) (by decide)) fun _ => ?_
    · refine .bind (.of_readOnly (ensureUserBelongsToTenant_readOnly _ _)) fun _ => .bind (query_touches _) fun items => ?_
      exact .bind (write_shared (by decide) fun _ => ⟨rfl, rfl, rfl, rfl, rfl, rfl, rfl⟩) fun _ => .pure _
    · exact (goes_pure ()).post fun _ _ _ _ => trivial
  | runDueJobs now limit workerId tenant =>
    refine goes_bind (runDueSchedulerJobs_retells henv hids hkeys hfresh hfirm fun job hjob i hi => .inl ⟨job, hjob, hi⟩) fun _ => ?_
    exact (goes_pure ()).post fun _ _ _ _ => trivial

end
end M8flowCore
