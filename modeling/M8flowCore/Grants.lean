import M8flowCore.Lib.Statements
import M8flowCore.Services.Authorization
/-!
# Concurrent grants

`grant_permission_to_group`, `grant_permission_to_user` and `ensure_v1_role` as
the statements they send, under READ COMMITTED. Uniqueness is left to the
tables' unique constraints, in which NULLs are distinct: a target for every
resource of a type has a NULL `resource_id` and so no unique key.

Run with nobody else at the database, the statements are the services of
`Services.Authorization`.
-/
open M8flowCore.Lib M8flowCore.Session

namespace M8flowCore

/-! ## The schema -/

/-- A row that a grant inserts. -/
inductive NewRow : Type where
  | group (name identifier authorizationKey : String)
  | membership (userId groupId : Nat)
  | userPrincipal (userId : Nat)
  | groupPrincipal (groupId : Nat)
  | target (command : String) (resourceType : PermissionResourceType) (resourceId : Option String)
  | assignment (principalId permissionTargetId : Nat) (permission : PermissionAction) (grantType : PermitDeny)

/-- What the unique constraints of these tables compare. -/
inductive UniqueKey : Type where
  | authorizationKey (key : String)
  | membership (userId groupId : Nat)
  | principalUser (userId : Nat)
  | principalGroup (groupId : Nat)
  | target (resourceType : PermissionResourceType) (resourceId command : String)
  | assignment (principalId permissionTargetId : Nat) (permission : PermissionAction)
  deriving DecidableEq

def Group.uniqueKey (g : Group) : Option UniqueKey := g.authorizationKey.map .authorizationKey

def UserGroupAssignment.uniqueKey (a : UserGroupAssignment) : Option UniqueKey := some (.membership a.userId a.groupId)

def Principal.userKey (p : Principal) : Option UniqueKey := p.userId.map .principalUser

def Principal.groupKey (p : Principal) : Option UniqueKey := p.groupId.map .principalGroup

/-- `m8f_permission_target_resource_command_key`: a NULL equals nothing. -/
def PermissionTarget.uniqueKey (t : PermissionTarget) : Option UniqueKey :=
  match t.resourceId, t.command with
  | some resourceId, some command => some (.target t.resourceType resourceId command)
  | _, _ => none

def PermissionAssignment.uniqueKey (a : PermissionAssignment) : Option UniqueKey :=
  some (.assignment a.principalId a.permissionTargetId a.permission)

/-- Every unique key that is stored. -/
def Db.uniqueKeys (db : Db) : List UniqueKey :=
  db.groups.filterMap Group.uniqueKey ++ (db.userGroupAssignments.filterMap UserGroupAssignment.uniqueKey ++
    (db.principals.filterMap Principal.userKey ++ (db.principals.filterMap Principal.groupKey ++
      (db.permissionTargets.filterMap PermissionTarget.uniqueKey ++
        db.permissionAssignments.filterMap PermissionAssignment.uniqueKey))))

/-- The key a group is created under. -/
def groupAuthorizationKey (identifier : String) : String := s!"authorization:{identifier}"

/-- The group is found under the identifier. -/
def Group.answers (identifier : String) (g : Group) : Bool :=
  g.identifier == some identifier || g.authorizationKey == some (groupAuthorizationKey identifier)

namespace NewRow

def isGroup : NewRow → Bool
  | .group .. => true
  | _ => false

def isTarget : NewRow → Bool
  | .target .. => true
  | _ => false

def key : NewRow → Option UniqueKey
  | .group _ _ authorizationKey => some (.authorizationKey authorizationKey)
  | .membership userId groupId => some (.membership userId groupId)
  | .userPrincipal userId => some (.principalUser userId)
  | .groupPrincipal groupId => some (.principalGroup groupId)
  | .target command resourceType resourceId => resourceId.map (.target resourceType · command)
  | .assignment principalId permissionTargetId permission _ => some (.assignment principalId permissionTargetId permission)

def add (id : Nat) : NewRow → Db → Db
  | .group name identifier authorizationKey, db =>
    { db with groups := db.groups ++
        [{ id := id, name := some name, identifier := some identifier, authorizationKey := some authorizationKey }] }
  | .membership userId groupId, db =>
    { db with userGroupAssignments := db.userGroupAssignments ++ [{ id := id, userId := userId, groupId := groupId }] }
  | .userPrincipal userId, db =>
    { db with principals := db.principals ++ [{ id := id, userId := some userId, groupId := none }] }
  | .groupPrincipal groupId, db =>
    { db with principals := db.principals ++ [{ id := id, userId := none, groupId := some groupId }] }
  | .target command resourceType resourceId, db =>
    { db with permissionTargets := db.permissionTargets ++
        [{ id := id, command := some command, resourceType := resourceType, resourceId := resourceId }] }
  | .assignment principalId permissionTargetId permission grantType, db =>
    { db with permissionAssignments := db.permissionAssignments ++
        [{ id := id, principalId := principalId, permissionTargetId := permissionTargetId, grantType := grantType,
           permission := permission }] }

end NewRow

section
variable (grantType : PermitDeny)

/-- The flush after `assignment.grant_type = grant_type`. -/
def Db.setGrantType (assignmentId : Nat) (db : Db) : Db :=
  { db with permissionAssignments :=
      updateWhere (·.id == assignmentId) ({ · with grantType := grantType }) db.permissionAssignments }

/-- No row is lost; an assignment may have been given the grant type. -/
structure Db.Grows (db db' : Db) : Prop where
  groups : db.groups ⊆ db'.groups
  memberships : db.userGroupAssignments ⊆ db'.userGroupAssignments
  principals : db.principals ⊆ db'.principals
  targets : db.permissionTargets ⊆ db'.permissionTargets
  assignments : ∀ a ∈ db.permissionAssignments,
    a ∈ db'.permissionAssignments ∨ { a with grantType := grantType } ∈ db'.permissionAssignments

variable {grantType}

theorem Db.Grows.refl (db : Db) : db.Grows grantType db :=
  ⟨List.Subset.refl _, List.Subset.refl _, List.Subset.refl _, List.Subset.refl _, fun _ ha => .inl ha⟩

theorem Db.Grows.trans {a b c : Db} (h : a.Grows grantType b) (h' : b.Grows grantType c) : a.Grows grantType c where
  groups := List.Subset.trans h.groups h'.groups
  memberships := List.Subset.trans h.memberships h'.memberships
  principals := List.Subset.trans h.principals h'.principals
  targets := List.Subset.trans h.targets h'.targets
  assignments row hrow := by
    rcases h.assignments row hrow with hrow | hrow
    · exact h'.assignments row hrow
    · exact .inr ((h'.assignments _ hrow).elim id id)

theorem Db.grows_add (id : Nat) (r : NewRow) (db : Db) : db.Grows grantType (r.add id db) := by
  have hsub {α : Type} (l : List α) (x : α) : l ⊆ l ++ [x] := List.subset_append_left l [x]
  have hrefl : db.Grows grantType db := .refl db
  cases r with
  | group => exact { hrefl with groups := hsub _ _ }
  | membership => exact { hrefl with memberships := hsub _ _ }
  | userPrincipal => exact { hrefl with principals := hsub _ _ }
  | groupPrincipal => exact { hrefl with principals := hsub _ _ }
  | target => exact { hrefl with targets := hsub _ _ }
  | assignment => exact { hrefl with assignments := fun a ha => .inl (hsub _ _ ha) }

theorem Db.mem_setGrantType (grantType : PermitDeny) (assignmentId : Nat) {db : Db} {a : PermissionAssignment}
    (ha : a ∈ db.permissionAssignments) :
    (if a.id = assignmentId then { a with grantType := grantType } else a) ∈
      (db.setGrantType grantType assignmentId).permissionAssignments :=
  mem_updateWhere.2 ⟨a, ha, by simp⟩

theorem Db.grows_setGrantType (assignmentId : Nat) (db : Db) :
    db.Grows grantType (db.setGrantType grantType assignmentId) := by
  have hrefl : db.Grows grantType db := .refl db
  refine { hrefl with assignments := fun a ha => ?_ }
  have hrow := Db.mem_setGrantType grantType assignmentId ha
  split at hrow
  · exact .inr hrow
  · exact .inl hrow

theorem Db.Grows.add {db db' : Db} (id : Nat) (r : NewRow) (h : db.Grows grantType db') :
    (r.add id db).Grows grantType (r.add id db') := by
  have hsub {α : Type} {l l' : List α} (x : α) (h : l ⊆ l') : l ++ [x] ⊆ l' ++ [x] := by
    intro y hy
    rcases List.mem_append.1 hy with hy | hy
    · exact List.mem_append_left _ (h hy)
    · exact List.mem_append_right _ hy
  cases r with
  | group => exact { h with groups := hsub _ h.groups }
  | membership => exact { h with memberships := hsub _ h.memberships }
  | userPrincipal => exact { h with principals := hsub _ h.principals }
  | groupPrincipal => exact { h with principals := hsub _ h.principals }
  | target => exact { h with targets := hsub _ h.targets }
  | assignment =>
    refine { h with assignments := fun a ha => ?_ }
    rcases List.mem_append.1 ha with ha | ha
    · exact (h.assignments a ha).imp (List.mem_append_left _) (List.mem_append_left _)
    · exact .inl (List.mem_append_right _ ha)

theorem Db.Grows.setGrantType {db db' : Db} (assignmentId : Nat) (h : db.Grows grantType db') :
    (db.setGrantType grantType assignmentId).Grows grantType (db'.setGrantType grantType assignmentId) := by
  refine { h with assignments := fun a ha => ?_ }
  obtain ⟨a₀, ha₀, rfl⟩ := mem_updateWhere.1 ha
  -- given the grant type twice, a row has it as if once
  rcases h.assignments a₀ ha₀ with hrow | hrow
  · have hmem := Db.mem_setGrantType grantType assignmentId hrow
    exact .inl (by simpa using hmem)
  · have hmem := Db.mem_setGrantType grantType assignmentId hrow
    by_cases hid : a₀.id = assignmentId
    · exact .inl (by simpa [hid] using hmem)
    · exact .inr (by simpa [hid] using hmem)

theorem NewRow.uniqueKeys_add (id : Nat) (r : NewRow) (db : Db) :
    (r.add id db).uniqueKeys.Perm (db.uniqueKeys ++ r.key.toList) := by
  rw [List.perm_iff_count]
  intro key
  unfold Db.uniqueKeys NewRow.add NewRow.key
  cases r with
  | target command resourceType resourceId =>
    cases resourceId <;> simp only [List.filterMap_append, List.count_append, List.filterMap_cons, List.filterMap_nil,
      PermissionTarget.uniqueKey, Option.map_none, Option.map_some, Option.toList_none, Option.toList_some,
      List.count_nil] <;> omega
  | _ =>
    simp only [List.filterMap_append, List.count_append, List.filterMap_cons, List.filterMap_nil, Group.uniqueKey,
      UserGroupAssignment.uniqueKey, Principal.userKey, Principal.groupKey, PermissionAssignment.uniqueKey,
      Option.map_none, Option.map_some, Option.toList_some, List.count_nil]
    omega

theorem Db.uniqueKeys_setGrantType (assignmentId : Nat) (db : Db) :
    (db.setGrantType grantType assignmentId).uniqueKeys = db.uniqueKeys := by
  have hrows : (db.setGrantType grantType assignmentId).permissionAssignments.filterMap PermissionAssignment.uniqueKey =
      db.permissionAssignments.filterMap PermissionAssignment.uniqueKey := by
    unfold Db.setGrantType
    rw [updateWhere, List.filterMap_map]
    refine List.filterMap_congr fun a _ => ?_
    simp only [Function.comp]
    split <;> rfl
  unfold Db.uniqueKeys
  rw [hrows]
  rfl

theorem PermissionTarget.uniqueKey_eq {t : PermissionTarget} {key : UniqueKey} : t.uniqueKey = some key ↔
    ∃ resourceId command, t.resourceId = some resourceId ∧ t.command = some command ∧
      key = .target t.resourceType resourceId command := by
  unfold PermissionTarget.uniqueKey
  cases t.resourceId <;> cases t.command <;> simp [eq_comm]

theorem Db.authorizationKey_mem {db : Db} {key : String} :
    .authorizationKey key ∈ db.uniqueKeys ↔ ∃ g ∈ db.groups, g.authorizationKey = some key := by
  simp [Db.uniqueKeys, Group.uniqueKey, UserGroupAssignment.uniqueKey, Principal.userKey, Principal.groupKey,
    PermissionAssignment.uniqueKey, PermissionTarget.uniqueKey_eq]

theorem Db.membership_mem {db : Db} {userId groupId : Nat} : .membership userId groupId ∈ db.uniqueKeys ↔
    ∃ a ∈ db.userGroupAssignments, a.userId = userId ∧ a.groupId = groupId := by
  simp [Db.uniqueKeys, Group.uniqueKey, UserGroupAssignment.uniqueKey, Principal.userKey, Principal.groupKey,
    PermissionAssignment.uniqueKey, PermissionTarget.uniqueKey_eq]

theorem Db.principalUser_mem {db : Db} {userId : Nat} :
    .principalUser userId ∈ db.uniqueKeys ↔ ∃ p ∈ db.principals, p.userId = some userId := by
  simp [Db.uniqueKeys, Group.uniqueKey, UserGroupAssignment.uniqueKey, Principal.userKey, Principal.groupKey,
    PermissionAssignment.uniqueKey, PermissionTarget.uniqueKey_eq]

theorem Db.principalGroup_mem {db : Db} {groupId : Nat} :
    .principalGroup groupId ∈ db.uniqueKeys ↔ ∃ p ∈ db.principals, p.groupId = some groupId := by
  simp [Db.uniqueKeys, Group.uniqueKey, UserGroupAssignment.uniqueKey, Principal.userKey, Principal.groupKey,
    PermissionAssignment.uniqueKey, PermissionTarget.uniqueKey_eq]

theorem Db.target_mem {db : Db} {resourceType : PermissionResourceType} {resourceId command : String} :
    .target resourceType resourceId command ∈ db.uniqueKeys ↔
      ∃ t ∈ db.permissionTargets, t.names (some command) resourceType (some resourceId) = true := by
  simp [Db.uniqueKeys, Group.uniqueKey, UserGroupAssignment.uniqueKey, Principal.userKey, Principal.groupKey,
    PermissionAssignment.uniqueKey, PermissionTarget.uniqueKey_eq, PermissionTarget.names]
  grind

/-- The row of a principal, a target and a permission. -/
def PermissionAssignment.grants (principalId permissionTargetId : Nat) (permission : PermissionAction)
    (a : PermissionAssignment) : Bool :=
  a.principalId == principalId && a.permissionTargetId == permissionTargetId && a.permission == permission

theorem Db.assignment_mem {db : Db} {principalId permissionTargetId : Nat} {permission : PermissionAction} :
    .assignment principalId permissionTargetId permission ∈ db.uniqueKeys ↔
      ∃ a ∈ db.permissionAssignments, a.grants principalId permissionTargetId permission = true := by
  simp [Db.uniqueKeys, Group.uniqueKey, UserGroupAssignment.uniqueKey, Principal.userKey, Principal.groupKey,
    PermissionAssignment.uniqueKey, PermissionTarget.uniqueKey_eq, PermissionAssignment.grants, and_assoc]

variable (grantType)

/-- The tables behind permissions, for calls that grant or deny. -/
def grantSchema : Schema Db NewRow Nat UniqueKey where
  add := NewRow.add
  modify := Db.setGrantType grantType
  key := NewRow.key
  keys := Db.uniqueKeys
  Grows := Db.Grows grantType
  keys_add := NewRow.uniqueKeys_add
  keys_modify := Db.uniqueKeys_setGrantType
  grows_refl := Db.Grows.refl
  grows_trans := Db.Grows.trans
  grows_add := Db.grows_add
  grows_modify := Db.grows_setGrantType
  add_mono id r _ _ h := h.add id r
  modify_mono id _ _ h := h.setGrantType id

@[simp] theorem grantSchema_keys (db : Db) : (grantSchema grantType).keys db = db.uniqueKeys := rfl

@[simp] theorem grantSchema_key (r : NewRow) : (grantSchema grantType).key r = r.key := rfl

end

/-! ## The calls, statement by statement -/

abbrev Statements (α : Type) := Stmt Db NewRow Nat Error α

namespace Statements
variable {α ρ : Type}

def orFail (e : Error) : Option α → Statements α
  | some a => .done a
  | none => .fail e

/-- `_get_or_create`: select, insert unless there is a conflict, select again. -/
def getOrCreate (lookup : Db → Option ρ) (row : NewRow) : Statements ρ :=
  .read fun db => match lookup db with
    | some found => .done found
    | none => .insert row <| .read fun db =>
        orFail (.other "RuntimeError" "Unable to create or reload") (lookup db)

/-- `find_or_create_group`. -/
def findOrCreateGroup (identifier : String) (name : Option String) : Statements Group :=
  .read fun db => match db.groups.find? (·.identifier == some identifier) with
    | some group => .done group
    | none =>
      getOrCreate (fun db => db.groups.find? (·.authorizationKey == some (groupAuthorizationKey identifier)))
        (.group ((name.filter (· != "")).getD identifier) identifier (groupAuthorizationKey identifier))

/-- `add_user_to_group`. -/
def addUserToGroup (userId : Nat) (groupIdentifier : String) (groupName : Option String) :
    Statements UserGroupAssignment :=
  (findOrCreateGroup groupIdentifier groupName).bind fun group =>
    getOrCreate (fun db => db.userGroupAssignments.find? fun a => a.userId == userId && a.groupId == group.id)
      (.membership userId group.id)

/-- `find_or_create_principal_for_user`. -/
def findOrCreatePrincipalForUser (userId : Nat) : Statements Principal :=
  getOrCreate (fun db => db.principals.find? (·.userId == some userId)) (.userPrincipal userId)

/-- `find_or_create_principal_for_group`. -/
def findOrCreatePrincipalForGroup (groupId : Nat) : Statements Principal :=
  getOrCreate (fun db => db.principals.find? (·.groupId == some groupId)) (.groupPrincipal groupId)

/-- `find_or_create_permission_target`. -/
def findOrCreatePermissionTarget (command : Option String) (resourceType : PermissionResourceType)
    (resourceId : Option String) : Statements PermissionTarget :=
  let command := normalizeResourceComponent command
  let normalized := resourceId.map strip
  let lookup (db : Db) : Option PermissionTarget := db.permissionTargets.find? (·.names command resourceType normalized)
  if normalized == some "" then .fail (.other "InvalidPermissionTargetError" "resource_id cannot be blank")
  else match command with
    | none => .read fun db => orFail (.other "IntegrityError" "permission_target.command is null") (lookup db)
    | some command => getOrCreate lookup (.target command resourceType normalized)

/-- `_find_or_create_permission_assignment`. -/
def findOrCreatePermissionAssignment (principalId permissionTargetId : Nat) (permission : PermissionAction)
    (grantType : PermitDeny) : Statements PermissionAssignment :=
  (getOrCreate (fun db => db.permissionAssignments.find? (·.grants principalId permissionTargetId permission))
    (.assignment principalId permissionTargetId permission grantType)).bind fun assignment =>
      if assignment.grantType != grantType then .update assignment.id (.done { assignment with grantType := grantType })
      else .done assignment

/-- `grant_permission_to_group`. -/
def grantPermissionToGroup (groupIdentifier : String) (permission : PermissionAction) (command : Option String)
    (resourceType : PermissionResourceType) (resourceId : Option String) (grantType : PermitDeny)
    (groupName : Option String) : Statements PermissionAssignment :=
  (findOrCreateGroup groupIdentifier groupName).bind fun group =>
    (findOrCreatePrincipalForGroup group.id).bind fun principal =>
      (findOrCreatePermissionTarget command resourceType resourceId).bind fun target =>
        findOrCreatePermissionAssignment principal.id target.id permission grantType

/-- `grant_permission_to_user`. -/
def grantPermissionToUser (userId : Nat) (permission : PermissionAction) (command : Option String)
    (resourceType : PermissionResourceType) (resourceId : Option String) (grantType : PermitDeny) :
    Statements PermissionAssignment :=
  (findOrCreatePrincipalForUser userId).bind fun principal =>
    (findOrCreatePermissionTarget command resourceType resourceId).bind fun target =>
      findOrCreatePermissionAssignment principal.id target.id permission grantType

/-- `grant_command_permissions_to_group`. -/
def grantCommandPermissionsToGroup (groupIdentifier : String) (commandKeys : List String) (grantType : PermitDeny)
    (groupName : Option String) : Statements Unit :=
  Stmt.forEach commandKeys fun commandKey =>
    (orFail (.other "KeyError" s!"Unknown command key: {commandKey}")
      (authorizationSpecForCommandKey commandKey)).bind fun spec =>
        (grantPermissionToGroup groupIdentifier spec.permission (some spec.commandKey) .tenant
          (some (String.ofList (partition ':' groupIdentifier.toList).1)) grantType groupName).bind fun _ => .done ()

/-- `ensure_v1_role`. -/
def ensureV1Role (tenantId : TenantId) (roleName : String) (userIds : List Nat) : Statements Group :=
  (orFail (.other "KeyError" s!"Unknown V1 role: {roleName}")
    (v1BasicRoleCommandKeys.find? (·.1 == roleName))).bind fun role =>
      let groupIdentifier := tenantRoleGroupIdentifier tenantId roleName
      (findOrCreateGroup groupIdentifier (some roleName)).bind fun group =>
        (Stmt.forEach userIds fun userId =>
          (addUserToGroup userId groupIdentifier (some roleName)).bind fun _ => .done ()).bind fun _ =>
            (grantCommandPermissionsToGroup groupIdentifier role.2 .permit (some roleName)).bind fun _ => .done group

/-! ## Alone, they are the services -/

/-- The statements in one session, with nobody else at the database. -/
def session {Ω : Type} (grantType : PermitDeny) : Statements α → M Ω α
  | .done a => pure a
  | .fail e => Prog.raise e
  | .read k => do
    let db ← query id
    session grantType (k db)
  | .insert r k => do
    let taken ← query fun db => r.key.any db.uniqueKeys.contains
    if taken then session grantType k
    else
      let _ ← insert fun id => r.add id
      session grantType k
  | .update id k => do
    write (Db.setGrantType grantType id)
    session grantType k

section
variable {Ω β : Type} {grantType : PermitDeny}

theorem session_bind (p : Statements α) (f : α → Statements β) :
    session (Ω := Ω) grantType (p.bind f) = session grantType p >>= fun a => session grantType (f a) := by
  induction p with
  | done a => rfl
  | fail e => rfl
  | read k ih =>
    simp only [Stmt.bind, session, Prog.bind_assoc]
    exact congrArg _ (funext fun db => ih db)
  | insert r k ih =>
    simp only [Stmt.bind, session, Prog.bind_assoc, ih]
    refine congrArg _ (funext fun taken => ?_)
    cases taken with
    | true => rfl
    | false => simp [Prog.bind_assoc]
  | update id k ih =>
    simp only [Stmt.bind, session, Prog.bind_assoc, ih]

theorem session_orFail (e : Error) (found : Option α) :
    session (Ω := Ω) grantType (orFail e found) = Prog.orRaise e found := by
  cases found <;> rfl

theorem session_forEach (xs : List α) (f : α → Statements Unit) :
    session (Ω := Ω) grantType (Stmt.forEach xs f) = Prog.forEach xs fun x => session grantType (f x) := by
  induction xs with
  | nil => rfl
  | cons x xs ih =>
    rw [Stmt.forEach, session_bind, ih]
    rfl

/-- `_get_or_create` of a row that is found by its key, if it has one. -/
theorem session_getOrCreate {lookup : Db → Option ρ} {row : NewRow}
    (hkey : ∀ db key, lookup db = none → row.key = some key → key ∉ db.uniqueKeys) :
    session (Ω := Ω) grantType (getOrCreate lookup row) = M8flowCore.getOrCreate lookup fun id => row.add id := by
  have hrun : ∀ s : Tx Ω, (session grantType (getOrCreate lookup row)).run s =
      (M8flowCore.getOrCreate lookup fun id => row.add id).run s := by
    intro s
    simp only [getOrCreate, M8flowCore.getOrCreate, session, query, Prog.gets_bind_run, id]
    cases hfound : lookup s.view with
    | some found => rfl
    | none =>
      have hfree : row.key.any s.view.uniqueKeys.contains = false := by
        cases hrow : row.key with
        | none => rfl
        | some key => simpa using hkey s.view key hfound hrow
      simp only [session, query, Prog.gets_bind_run, hfree, session_orFail, id]
      rfl
  exact congrArg Prog.mk (funext hrun)

theorem session_findOrCreateGroup (identifier : String) (name : Option String) :
    session (Ω := Ω) grantType (findOrCreateGroup identifier name) = M8flowCore.findOrCreateGroup identifier name := by
  have hkey : ∀ (db : Db) key, db.groups.find? (·.authorizationKey == some (groupAuthorizationKey identifier)) = none →
      NewRow.key (.group ((name.filter (· != "")).getD identifier) identifier (groupAuthorizationKey identifier)) = some key →
        key ∉ db.uniqueKeys := by
    intro db key hnone hrow
    cases hrow
    simpa [Db.authorizationKey_mem] using hnone
  have hrun : ∀ s : Tx Ω, (session grantType (findOrCreateGroup identifier name)).run s =
      (M8flowCore.findOrCreateGroup identifier name).run s := by
    intro s
    simp only [findOrCreateGroup, M8flowCore.findOrCreateGroup, session, query, Prog.gets_bind_run, id]
    cases s.view.groups.find? (·.identifier == some identifier) with
    | some group => rfl
    | none => exact congrArg (Prog.run · s) (session_getOrCreate hkey)
  exact congrArg Prog.mk (funext hrun)

theorem session_addUserToGroup (userId : Nat) (groupIdentifier : String) (groupName : Option String) :
    session (Ω := Ω) grantType (addUserToGroup userId groupIdentifier groupName) =
      M8flowCore.addUserToGroup userId groupIdentifier groupName := by
  unfold addUserToGroup M8flowCore.addUserToGroup
  rw [session_bind, session_findOrCreateGroup]
  refine congrArg _ (funext fun group => session_getOrCreate fun db key hnone hrow => ?_)
  cases hrow
  simpa [Db.membership_mem] using hnone

theorem session_findOrCreatePrincipalForUser (userId : Nat) :
    session (Ω := Ω) grantType (findOrCreatePrincipalForUser userId) = M8flowCore.findOrCreatePrincipalForUser userId := by
  refine session_getOrCreate fun db key hnone hrow => ?_
  cases hrow
  simpa [Db.principalUser_mem] using hnone

theorem session_findOrCreatePrincipalForGroup (groupId : Nat) :
    session (Ω := Ω) grantType (findOrCreatePrincipalForGroup groupId) = M8flowCore.findOrCreatePrincipalForGroup groupId := by
  refine session_getOrCreate fun db key hnone hrow => ?_
  cases hrow
  simpa [Db.principalGroup_mem] using hnone

theorem session_findOrCreatePermissionTarget (command : Option String) (resourceType : PermissionResourceType)
    (resourceId : Option String) :
    session (Ω := Ω) grantType (findOrCreatePermissionTarget command resourceType resourceId) =
      M8flowCore.findOrCreatePermissionTarget command resourceType resourceId := by
  unfold findOrCreatePermissionTarget M8flowCore.findOrCreatePermissionTarget
  dsimp only
  split
  · rfl
  · cases normalizeResourceComponent command with
    | none =>
      simp only [session, session_orFail]
      rfl
    | some command =>
      refine session_getOrCreate fun db key hnone hrow => ?_
      obtain ⟨resourceId', hid, rfl⟩ := Option.map_eq_some_iff.1 hrow
      rw [hid] at hnone
      simpa [Db.target_mem] using hnone

theorem session_findOrCreatePermissionAssignment (principalId permissionTargetId : Nat) (permission : PermissionAction) :
    session (Ω := Ω) grantType (findOrCreatePermissionAssignment principalId permissionTargetId permission grantType) =
      M8flowCore.findOrCreatePermissionAssignment principalId permissionTargetId permission grantType := by
  unfold findOrCreatePermissionAssignment M8flowCore.findOrCreatePermissionAssignment
  rw [session_bind, session_getOrCreate fun db key hnone hrow => ?_]
  · refine congrArg _ (funext fun assignment => ?_)
    split <;> rfl
  · cases hrow
    simpa [Db.assignment_mem] using hnone

/-- `grant_permission_to_group`, alone at the database. -/
theorem session_grantPermissionToGroup (groupIdentifier : String) (permission : PermissionAction)
    (command : Option String) (resourceType : PermissionResourceType) (resourceId : Option String)
    (groupName : Option String) :
    session (Ω := Ω) grantType
        (grantPermissionToGroup groupIdentifier permission command resourceType resourceId grantType groupName) =
      M8flowCore.grantPermissionToGroup groupIdentifier permission command resourceType resourceId grantType groupName := by
  unfold grantPermissionToGroup M8flowCore.grantPermissionToGroup
  simp only [session_bind, session_findOrCreateGroup, session_findOrCreatePrincipalForGroup,
    session_findOrCreatePermissionTarget, session_findOrCreatePermissionAssignment]

/-- `grant_permission_to_user`, alone at the database. -/
theorem session_grantPermissionToUser (userId : Nat) (permission : PermissionAction) (command : Option String)
    (resourceType : PermissionResourceType) (resourceId : Option String) :
    session (Ω := Ω) grantType (grantPermissionToUser userId permission command resourceType resourceId grantType) =
      M8flowCore.grantPermissionToUser userId permission command resourceType resourceId grantType := by
  unfold grantPermissionToUser M8flowCore.grantPermissionToUser
  simp only [session_bind, session_findOrCreatePrincipalForUser, session_findOrCreatePermissionTarget,
    session_findOrCreatePermissionAssignment]

/-- `ensure_v1_role`, alone at the database. -/
theorem session_ensureV1Role (tenantId : TenantId) (roleName : String) (userIds : List Nat) :
    session (Ω := Ω) .permit (ensureV1Role tenantId roleName userIds) =
      M8flowCore.ensureV1Role tenantId roleName userIds := by
  unfold ensureV1Role M8flowCore.ensureV1Role grantCommandPermissionsToGroup M8flowCore.grantCommandPermissionsToGroup
  simp only [session_bind, session_orFail, session_forEach, session_findOrCreateGroup, session_addUserToGroup,
    session_grantPermissionToGroup]
  rfl

end
end Statements
end M8flowCore
