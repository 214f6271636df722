import M8flowCore.Imports
/-!
# The writes of the library

Every write to definitions, tasks, work items, users, groups and permissions is
one of the few below. `Footprints` says which rows a service function may
touch; here it is which columns are written, and to what. What holds in every
reachable state is then shown write by write.
-/
open M8flowCore.Lib M8flowCore.Session

namespace M8flowCore

/-- A write, and whom or what it is made for. -/
inductive Deed where
  /-- a write to none of the tables followed here -/
  | elsewhere
  | sync (definitionId : Nat)
  | store (tenantId : TenantId) (args : ImportArgs)
  | task (instanceId : Nat) (occurredAt : Time)
  | close (instanceId : Nat) (occurredAt : Time)
  | reopen (instanceId : Nat)
  | claim (workItemId userId : Nat)
  | complete (item : WorkItem) (userId : Nat) (completedAt : Time)
  | inactive (instanceId : Nat)
  | prepare (instanceId : Nat)
  | item (instanceId id : Nat)
  | lane
  | owner
  | group
  | role
  | user

/-- The tables followed here, the others left out. -/
def Db.tracked (db : Db) : Db :=
  { db with versions := [], taskDefinitions := [], bpmnProcesses := [], jsonData := [], processInstances := [],
            metadata := [], events := [], futureTasks := [], schedulerJobs := [] }

/-- The row is as a save of the instance leaves it: in a state of its workflow,
ended at the save if that state is a final one. -/
def Task.Saved (instanceId : Nat) (occurredAt : Time) (t : Task) : Prop :=
  t.processInstanceId = instanceId ∧
    ∃ state : TaskState, t.state = .spiff state ∧ t.endedAt = if state.isTerminal then some occurredAt else none

section
variable {W Ω : Type} (env : Env W Ω)

/-- What each write does. -/
inductive Write : Deed → Db → Db → Prop
  | elsewhere {db db' : Db} (h : db'.tracked = db.tracked) : Write .elsewhere db db'
  | sync (db : Db) (definitionId : Nat) (w : W) (modelIdentifier : String) (occurredAt : Time) :
      Write (.sync definitionId) db { db with
        definitions := updateWhere (·.id == definitionId)
          (·.syncFromSpec (env.toDict w).spec modelIdentifier occurredAt) db.definitions }
  | store (db : Db) (tenantId : TenantId) (args : ImportArgs) (c : CheckedImport) (newId : Nat)
      (hdigest : c.digest = args.digest env) (hexisting : c.existing = db.importTarget tenantId (args.digest env)) :
      Write (.store tenantId args) db { db with definitions := c.definitions tenantId args newId db.definitions }
  | newTask (db : Db) {instanceId : Nat} {occurredAt : Time} (row : Task) (hrow : row.Saved instanceId occurredAt)
      (hnew : db.task? row.guid = none) : Write (.task instanceId occurredAt) db { db with tasks := db.tasks ++ [row] }
  | oldTask (db : Db) {instanceId : Nat} {occurredAt : Time} (guid : Guid) (f : Task → Task)
      (hf : ∀ t, (f t).guid = t.guid ∧ (f t).Saved instanceId occurredAt) :
      Write (.task instanceId occurredAt) db (db.updateTask guid f)
  | close (db : Db) (instanceId : Nat) (occurredAt : Time) (userId : Option Nat) :
      Write (.close instanceId occurredAt) db (db.closeRuntimeState instanceId occurredAt userId)
  | reopen (db : Db) (instanceId : Nat) (occurredAt : Time) :
      Write (.reopen instanceId) db (db.reopenRuntimeState instanceId occurredAt)
  | claim (db : Db) {tenantId : TenantId} {workItemId userId : Nat} (claimedAt : Time)
      (hassigned : userIsAssigned db tenantId workItemId userId = true) :
      Write (.claim workItemId userId) db (db.claimUpdate tenantId workItemId userId claimedAt)
  | complete (db : Db) (item : WorkItem) (userId : Nat) (completedAt : Time) :
      Write (.complete item userId completedAt) db (db.completeRows item userId completedAt)
  | inactive (db : Db) (item : WorkItem) (taskState : Option TaskModelState) (occurredAt : Time) :
      Write (.inactive item.processInstanceId) db
        (db.updateWorkItem item fun w => w.close (inactiveWorkItemStatus taskState) occurredAt none)
  | prepare (db : Db) (item : WorkItem) (occurredAt : Time) :
      Write (.prepare item.processInstanceId) db (db.updateWorkItem item (·.prepareForReadyState occurredAt))
  | newItem (db : Db) (pi : ProcessInstance) (guid : Guid) (occurredAt : Time) (id : Nat) :
      Write (.item pi.id id) db { db with workItems := db.workItems ++ [newWorkItem pi guid occurredAt id] }
  | lane (db : Db) (id : Nat) (groupId : Option Nat) :
      Write .lane db { db with
        workItems := updateWhere (·.id == id) ({ · with laneAssignmentId := groupId }) db.workItems }
  | owner (db : Db) (rows : List WorkItemUser) :
      Write .owner db { db with workItemUsers := db.workItemUsers ++ rows }
  | group (db : Db) (groups : List Group) (assignments : List UserGroupAssignment) :
      Write .group db { db with groups := groups, userGroupAssignments := assignments }
  | role (db : Db) (groups : List Group) (assignments : List UserGroupAssignment) (principals : List Principal)
      (targets : List PermissionTarget) (permissions : List PermissionAssignment) :
      Write .role db (db.withPermissions groups assignments principals targets permissions)
  | user (db : Db) (users : List User) : Write .user db { db with users := users }

/-- A new item takes the next id; other writes may leave the ids alone. -/
def Deed.Takes : Deed → Nat → Nat → Prop
  | .item _ id, n, n' => id = n ∧ n < n'
  | _, n, n' => n ≤ n'

theorem Deed.Takes.le {d : Deed} {n n' : Nat} (h : d.Takes n n') : n ≤ n' := by
  cases d with
  | item => exact h.2.le
  | _ => exact h

/-- One write that `A` allows, or ids that are skipped. -/
inductive Stride (A : Deed → Prop) : Store → Store → Prop
  | write {st st' : Store} {d : Deed} (hd : A d) (h : Write env d st.db st'.db) (htakes : d.Takes st.seq st'.seq) : Stride A st st'
  | skip {n n' : Nat} (db : Db) (h : n ≤ n') : Stride A ⟨n, db⟩ ⟨n', db⟩

/-- A sequence of writes, each one allowed by `A`. -/
def Reach (A : Deed → Prop) : Store → Store → Prop := Relation.ReflTransGen (Stride env A)

variable {env} {A B : Deed → Prop} {st st' st'' : Store}

theorem Reach.refl (st : Store) : Reach env A st st := Relation.ReflTransGen.refl

theorem Reach.trans (h : Reach env A st st') (h' : Reach env A st' st'') : Reach env A st st'' :=
  Relation.ReflTransGen.trans h h'

theorem Reach.one {d : Deed} (hd : A d) (h : Write env d st.db st'.db) (htakes : d.Takes st.seq st'.seq) : Reach env A st st' :=
  .single (.write hd h htakes)

theorem Reach.skip {n n' : Nat} (db : Db) (h : n ≤ n') : Reach env A ⟨n, db⟩ ⟨n', db⟩ := .single (.skip db h)

theorem Reach.mono (hAB : ∀ d, A d → B d) (h : Reach env A st st') : Reach env B st st' := by
  refine Relation.ReflTransGen.mono (fun st st' hone => ?_) _ _ h
  cases hone with
  | write hd h htakes => exact .write (hAB _ hd) h htakes
  | skip db h => exact .skip db h

/-- What every allowed write keeps holds after them. -/
theorem Reach.inv {P : Db → Prop} (hP : ∀ d db db', A d → Write env d db db' → P db → P db') (h : Reach env A st st')
    (hst : P st.db) : P st'.db := by
  induction h with
  | refl => exact hst
  | tail _ hlast ih =>
    cases hlast with
    | write hd hw => exact hP _ _ _ hd hw ih
    | skip => exact ih

theorem Reach.seq (h : Reach env A st st') : st.seq ≤ st'.seq := by
  induction h with
  | refl => exact le_refl _
  | tail _ hlast ih =>
    cases hlast with
    | write _ _ htakes => exact ih.trans htakes.le
    | skip _ h => exact ih.trans h

theorem Reach.elsewhere (hA : A .elsewhere) (hseq : st.seq ≤ st'.seq) (h : st'.db.tracked = st.db.tracked) : Reach env A st st' :=
  .one hA (.elsewhere h) hseq

/-! ## Programs that write in their own session -/

/-- The session's copy and the next id. -/
def Tx.store (s : Tx Ω) : Store := ⟨s.seq, s.view⟩

/-- The session's copy has seen these writes, and nothing is committed. -/
structure Wrote (env : Env W Ω) (A : Deed → Prop) (s s' : Tx Ω) : Prop where
  base : s'.base = s.base
  committed : s'.committed = s.committed
  view : Reach env A s.store s'.store

theorem frame_wrote : Prog.Frame (Wrote (Ω := Ω) env A) where
  refl _ := ⟨rfl, rfl, .refl _⟩
  trans h₁ h₂ := ⟨h₂.base.trans h₁.base, h₂.committed.trans h₁.committed, h₁.view.trans h₂.view⟩

variable {α : Type} {s s' : Tx Ω}

theorem Wrote.seq (h : Wrote env A s s') : s.seq ≤ s'.seq := h.view.seq

theorem Wrote.mono (hAB : ∀ d, A d → B d) (h : Wrote env A s s') : Wrote env B s s' :=
  ⟨h.base, h.committed, h.view.mono hAB⟩

theorem wrote_of_readOnly {m : M Ω α} (h : m.ReadOnly) : m.Keeps (Wrote env A) := h.keeps frame_wrote

theorem pure_wrote (a : α) : (pure a : M Ω α).Keeps (Wrote env A) := Prog.keeps_pure frame_wrote a

theorem raise_wrote (e : Error) : (Prog.raise e : M Ω α).Keeps (Wrote env A) := Prog.keeps_raise frame_wrote e

theorem query_wrote (f : Db → α) : (query (Ω := Ω) f).Keeps (Wrote env A) := Prog.keeps_gets frame_wrote _

theorem orRaise_wrote (e : Error) (o : Option α) : (Prog.orRaise e o : M Ω α).Keeps (Wrote env A) :=
  Prog.keeps_orRaise frame_wrote e o

theorem ofExcept_wrote (r : Except Error α) : (ofExcept (Ω := Ω) r).Keeps (Wrote env A) := wrote_of_readOnly (ofExcept_readOnly r)

theorem resolveTimestamp_wrote (t : Option Time) : (resolveTimestamp env t).Keeps (Wrote env A) :=
  Prog.keeps_gets frame_wrote _

theorem ask_wrote (f : Ω → α × Ω) : (ask f).Keeps (Wrote env A) := fun _ => ⟨rfl, rfl, .refl _⟩

theorem nextId_wrote : (nextId (Ω := Ω)).Keeps (Wrote env A) := fun s => ⟨rfl, rfl, .skip s.view (Nat.le_succ _)⟩

theorem write_wrote {f : Db → Db} {d : Deed} (hd : A d) (h : ∀ db, Write env d db (f db)) (htakes : ∀ n, d.Takes n n) :
    (write (Ω := Ω) f).Keeps (Wrote env A) := fun s => ⟨rfl, rfl, .one hd (h s.view) (htakes s.seq)⟩

theorem write_elsewhere (hA : A .elsewhere) {f : Db → Db} (h : ∀ db, (f db).tracked = db.tracked) :
    (write (Ω := Ω) f).Keeps (Wrote env A) := write_wrote hA (fun db => .elsewhere (h db)) fun _ => le_refl _

theorem insert_wrote {f : Nat → Db → Db} {d : Nat → Deed} (hd : ∀ id, A (d id)) (h : ∀ id db, Write env (d id) db (f id db))
    (htakes : ∀ n, (d n).Takes n (n + 1)) : (Session.insert (Ω := Ω) f).Keeps (Wrote env A) :=
  fun s => ⟨rfl, rfl, .one (hd s.seq) (h s.seq s.view) (htakes s.seq)⟩

theorem insert_elsewhere (hA : A .elsewhere) {f : Nat → Db → Db} (h : ∀ id db, (f id db).tracked = db.tracked) :
    (Session.insert (Ω := Ω) f).Keeps (Wrote env A) :=
  insert_wrote (d := fun _ => .elsewhere) (fun _ => hA) (fun id db => .elsewhere (h id db)) Nat.le_succ

/-! ## Jobs, events, metadata -/

theorem upsertSchedulerJob_wrote (hA : A .elsewhere) (tenantId : TenantId) (jobKey : String) (v : JobValues) (occurredAt : Time)
    (createdAt : Option Time) :
    (upsertSchedulerJob (Ω := Ω) tenantId jobKey v occurredAt createdAt).Keeps (Wrote env A) := by
  refine Prog.keeps_bind frame_wrote (query_wrote _) fun found => ?_
  cases found with
  | none => exact Prog.keeps_bind frame_wrote (insert_elsewhere hA fun _ _ => rfl) fun _ => pure_wrote _
  | some job => exact write_elsewhere hA fun _ => rfl

theorem updateInstance_wrote (hA : A .elsewhere) (id : Nat) (f : ProcessInstance → ProcessInstance) :
    (updateInstance (Ω := Ω) id f).Keeps (Wrote env A) :=
  write_elsewhere hA fun _ => rfl

theorem deleteSchedulerJob_wrote (hA : A .elsewhere) (tenantId : TenantId) (jobKey : String) :
    (deleteSchedulerJob (Ω := Ω) tenantId jobKey).Keeps (Wrote env A) :=
  write_elsewhere hA fun _ => rfl

theorem recordProcessInstanceEvent_wrote (hA : A .elsewhere) (tenantId : TenantId) (processInstanceId : Nat)
    (eventType : EventType) (occurredAt : Time) (taskGuid : Option Guid) (userId : Option Nat) :
    (recordProcessInstanceEvent (Ω := Ω) tenantId processInstanceId eventType occurredAt taskGuid userId).Keeps (Wrote env A) := by
  have hinsert : Prog.Keeps (Wrote env A) (do
      let _ ← loadProcessInstance tenantId processInstanceId
      let _ ← insert fun id db =>
        { db with
          events := db.events ++
            [{ id := id, m8fTenantId := tenantId, taskGuid := taskGuid, processInstanceId := processInstanceId,
               eventType := eventType, category := eventType.category, occurredAt := occurredAt, userId := userId }] }
      pure () : M Ω Unit) := by
    refine Prog.keeps_bind frame_wrote (wrote_of_readOnly (loadProcessInstance_readOnly _ _)) fun _ => ?_
    exact Prog.keeps_bind frame_wrote (insert_elsewhere hA fun _ _ => rfl) fun _ => pure_wrote _
  cases userId with
  | none => exact hinsert
  | some userId =>
    exact Prog.keeps_bind frame_wrote (wrote_of_readOnly (ensureUserBelongsToTenant_readOnly _ _)) fun _ => hinsert

theorem upsertProcessInstanceMetadata_wrote (hA : A .elsewhere) (tenantId : TenantId) (processInstanceId : Nat)
    (key value : String) (updatedAt : Time) (createdAt : Option Time) :
    (upsertProcessInstanceMetadata (Ω := Ω) tenantId processInstanceId key value updatedAt createdAt).Keeps (Wrote env A) := by
  refine Prog.keeps_bind frame_wrote (wrote_of_readOnly (loadProcessInstance_readOnly _ _)) fun _ => ?_
  refine Prog.keeps_bind frame_wrote (query_wrote _) fun found => ?_
  cases found with
  | none => exact Prog.keeps_bind frame_wrote (insert_elsewhere hA fun _ _ => rfl) fun _ => pure_wrote _
  | some row => exact write_elsewhere hA fun _ => rfl

theorem createProcessInstance_wrote (hA : A .elsewhere) (tenantId : TenantId) (new : NewProcessInstance) :
    (createProcessInstance env tenantId new).Keeps (Wrote env A) := by
  refine Prog.keeps_bind frame_wrote (wrote_of_readOnly (ensureUserBelongsToTenant_readOnly _ _)) fun _ => ?_
  refine Prog.keeps_bind frame_wrote (resolveTimestamp_wrote _) fun occurredAt => ?_
  exact insert_elsewhere hA fun _ _ => rfl

/-! ## Lanes and roles -/

theorem enrollLaneOwners_wrote (hA : A .group) (tenantId : TenantId) (ownersByLane : List (String × List Nat)) :
    (enrollLaneOwners env tenantId ownersByLane).Keeps (Wrote env A) :=
  enrollLaneOwners_keeps frame_wrote (fun s g a => ⟨rfl, rfl, .one hA (.group s.view g a) (le_refl _)⟩) nextId_wrote _ _

theorem assignWorkItemPotentialOwners_wrote (hgroup : A .group) (howner : A .owner) (hlane : A .lane) (pi : ProcessInstance)
    (workItemId : Nat) (laneName : PyVal) (taskData : Dict) (definitionProperties : Option Dict) :
    (assignWorkItemPotentialOwners env pi workItemId laneName taskData definitionProperties).Keeps (Wrote env A) :=
  assignWorkItemPotentialOwners_keeps frame_wrote (fun s g a => ⟨rfl, rfl, .one hgroup (.group s.view g a) (le_refl _)⟩)
    nextId_wrote _ _ _ _ _ (fun s row => ⟨rfl, rfl, .one howner (.owner s.view [row]) (le_refl _)⟩)
    fun groupId => write_wrote hlane (fun db => .lane db workItemId groupId) fun _ => le_refl _

theorem ensureV1Role_wrote (hA : A .role) (tenantId : TenantId) (roleName : String) (userIds : List Nat) :
    (ensureV1Role tenantId roleName userIds).Keeps (Wrote env A) :=
  ensureV1Role_keeps frame_wrote nextId_wrote
    (fun s g a p t q => ⟨rfl, rfl, .one hA (.role s.view g a p t q) (le_refl _)⟩) _ _ _

theorem ensureTimerStartSystemUser_wrote (hrole : A .role) (huser : A .user) (tenantId : TenantId) (occurredAt : Time) :
    (ensureTimerStartSystemUser tenantId occurredAt).Keeps (Wrote env A) := by
  refine Prog.keeps_bind frame_wrote (query_wrote _) fun found => ?_
  refine Prog.keeps_bind frame_wrote (orRaise_wrote _ _) fun tenant => ?_
  refine Prog.keeps_bind frame_wrote ?_ fun user => ?_
  · refine Prog.keeps_bind frame_wrote (query_wrote _) fun existing => ?_
    cases existing with
    | none => exact Prog.keeps_bind frame_wrote (insert_wrote (d := fun _ => .user) (fun _ => huser) (fun _ db => .user db _) Nat.le_succ) fun _ => pure_wrote _
    | some user => exact Prog.keeps_bind frame_wrote (write_wrote huser (fun db => .user db _) fun _ => le_refl _) fun _ => pure_wrote _
  · exact Prog.keeps_bind frame_wrote (ensureV1Role_wrote hrole _ _ _) fun _ => pure_wrote _

end
end M8flowCore
