import M8flowCore.Services.TenantUsers
/-!
# Authorization

The command keys with their permission and resource type, the database-backed
policy, and the grants behind the basic roles. Which policy is active is the
host's choice (`Env.authorize`); `databaseAuthorizationPolicy` is the default.
-/
open M8flowCore.Lib M8flowCore.Session

namespace M8flowCore

/-! ## Commands and roles -/

def taskClaimCommand : String := "task.claim"
def taskCompleteCommand : String := "task.complete"
def processStartCommand : String := "process.start"
def processCreateCommand : String := "process.create"
def processDefinitionImportCommand : String := "process_definition.import"
def processWorkflowInitializeCommand : String := "process.initialize_workflow"
def processMetadataUpsertCommand : String := "process.metadata.upsert"
def processEventRecordCommand : String := "process.event.record"
def processSuspendCommand : String := "process.suspend"
def processResumeCommand : String := "process.resume"
def processErrorCommand : String := "process.error"
def processRetryCommand : String := "process.retry"
def processTerminateCommand : String := "process.terminate"

structure CommandAuthorizationSpec where
  commandKey : String
  permission : PermissionAction
  resourceType : PermissionResourceType

/-- `COMMAND_AUTHORIZATION_SPECS_BY_KEY`. -/
def commandAuthorizationSpecs : List CommandAuthorizationSpec :=
  [⟨taskClaimCommand, .execute, .task⟩, ⟨taskCompleteCommand, .execute, .task⟩,
    ⟨processCreateCommand, .create, .processInstance⟩, ⟨processDefinitionImportCommand, .create, .processDefinition⟩,
    ⟨processStartCommand, .start, .processModel⟩, ⟨processWorkflowInitializeCommand, .execute, .processInstance⟩,
    ⟨processMetadataUpsertCommand, .update, .processInstance⟩, ⟨processEventRecordCommand, .create, .processInstance⟩,
    ⟨processSuspendCommand, .execute, .processInstance⟩, ⟨processResumeCommand, .execute, .processInstance⟩,
    ⟨processErrorCommand, .execute, .processInstance⟩, ⟨processRetryCommand, .execute, .processInstance⟩,
    ⟨processTerminateCommand, .execute, .processInstance⟩]

/-- `authorization_spec_for_command_key`. -/
def authorizationSpecForCommandKey (commandKey : String) : Option CommandAuthorizationSpec :=
  commandAuthorizationSpecs.find? (·.commandKey == commandKey)

def roleUser : String := "user"
def roleManager : String := "manager"
def roleAdmin : String := "admin"

/-- `V1_BASIC_ROLE_COMMAND_KEYS`. -/
def v1BasicRoleCommandKeys : List (String × List String) :=
  [(roleUser, [processStartCommand, taskClaimCommand, taskCompleteCommand]),
    (roleManager, [taskClaimCommand, taskCompleteCommand]),
    (roleAdmin, [processStartCommand, taskClaimCommand, taskCompleteCommand, processDefinitionImportCommand,
      processSuspendCommand, processResumeCommand, processRetryCommand, processTerminateCommand])]

/-! ## The database policy -/

/-- `_normalize_resource_component`. -/
def normalizeResourceComponent (value : Option String) : Option String :=
  (value.map strip).filter (· != "")

/-- `permission_assignment_matches_request`. -/
def permissionAssignmentMatchesRequest (db : Db) (assignment : PermissionAssignment)
    (request : AuthorizationRequest) : Bool :=
  match db.permissionTargets.find? (·.id == assignment.permissionTargetId) with
  | none => false
  | some target =>
    (assignment.permission == request.permission || assignment.permission == .all) &&
      target.command.all (· == request.commandKey) &&
      (let resourceId := normalizeResourceComponent target.resourceId
       if target.resourceType == .tenant then resourceId.all (· == request.tenantId)
       else target.resourceType == request.resourceType &&
         (resourceId.isNone || resourceId == normalizeResourceComponent (some request.resourceId)))

/-- `group_identifier_applies_to_tenant`. -/
def groupIdentifierAppliesToTenant (groupIdentifier : Option String) (tenantIdentifiers : List String) : Bool :=
  match groupIdentifier.map strip with
  | none => false
  | some identifier =>
    identifier != "" &&
      match partition ':' identifier.toList with
      | (_, none) => true
      | (tenant, some _) => tenantIdentifiers.contains (String.ofList tenant)

/-- `permission_assignments_for_user`. -/
def permissionAssignmentsForUser (db : Db) (userId : Nat) (tenantIdentifiers : List String) :
    List PermissionAssignment :=
  let groupIds := (db.groups.filter fun g =>
    groupIdentifierAppliesToTenant g.identifier tenantIdentifiers &&
      db.userGroupAssignments.any fun a => a.groupId == g.id && a.userId == userId).map (·.id)
  let principalIds := (db.principals.filter fun p =>
    p.userId == some userId || p.groupId.any groupIds.contains).map (·.id)
  db.permissionAssignments.filter fun a => principalIds.contains a.principalId

def requestText (request : AuthorizationRequest) : String :=
  s!"{request.commandKey} on {request.resourceType.value}:{request.resourceId}"

/-- `DatabaseAuthorizationPolicy.authorize`: a deny outweighs any permit. -/
def databaseAuthorizationPolicy (db : Db) (request : AuthorizationRequest) : Except Error AuthorizationDecision :=
  match db.user? request.actorUserId with
  | none => .error (userNotFound request.actorUserId)
  | some user =>
    let matching := (permissionAssignmentsForUser db user.id (tenantIdentifiersFor db request.tenantId)).filter
      fun a => permissionAssignmentMatchesRequest db a request
    let text := requestText request
    if matching.any (·.grantType == .deny) then .ok ⟨false, some s!"A deny permission matched {text}"⟩
    else if matching.any (·.grantType == .permit) then .ok ⟨true, none⟩
    else .ok ⟨false, some s!"No matching permission grant was found for {text}"⟩

section
variable {W Ω : Type} (env : Env W Ω)

/-- `require_command_authorization`. -/
def requireCommandAuthorization (tenantId : TenantId) (actorUserId : Nat) (commandKey : String)
    (resourceType : PermissionResourceType) (resourceId : String) (metadata : Dict) : M Ω Unit := do
  let spec ← Prog.orRaise (.other "KeyError" s!"Unknown command key: {commandKey}")
    (authorizationSpecForCommandKey commandKey)
  let decision ← query fun db => env.authorize db
    { tenantId := tenantId, actorUserId := actorUserId, commandKey := commandKey, permission := spec.permission,
      resourceType := resourceType, resourceId := resourceId, metadata := metadata }
  match decision with
  | .error e => Prog.raise e
  | .ok decision =>
    if decision.allowed then pure ()
    else
      let reason := (decision.reason.filter (· != "")).getD "permission denied"
      Prog.raise (.authorization
        s!"User {actorUserId} is not authorized for {commandKey} in tenant {tenantId}: {reason}")

theorem requireCommandAuthorization_readOnly (tenantId : TenantId) (actorUserId : Nat) (commandKey : String)
    (resourceType : PermissionResourceType) (resourceId : String) (metadata : Dict) :
    (requireCommandAuthorization env tenantId actorUserId commandKey resourceType resourceId metadata).ReadOnly := by
  intro s
  unfold requireCommandAuthorization query
  cases authorizationSpecForCommandKey commandKey with
  | none => rfl
  | some spec =>
    simp only [Prog.orRaise_some, Prog.pure_bind, Prog.gets_bind_run]
    split
    · rfl
    · split <;> rfl

/-- The policy allows a command. -/
def Env.Allows (db : Db) (tenantId : TenantId) (actorUserId : Nat) (commandKey : String)
    (resourceType : PermissionResourceType) (resourceId : String) (metadata : Dict) : Prop :=
  ∃ spec decision, authorizationSpecForCommandKey commandKey = some spec ∧
    env.authorize db
      { tenantId := tenantId, actorUserId := actorUserId, commandKey := commandKey, permission := spec.permission,
        resourceType := resourceType, resourceId := resourceId, metadata := metadata } = .ok decision ∧
    decision.allowed = true

theorem requireCommandAuthorization_ok {tenantId : TenantId} {actorUserId : Nat} {commandKey : String}
    {resourceType : PermissionResourceType} {resourceId : String} {metadata : Dict} {s s' : Tx Ω} {u : Unit} :
    (requireCommandAuthorization env tenantId actorUserId commandKey resourceType resourceId metadata).run s = (.ok u, s') ↔
      env.Allows s.view tenantId actorUserId commandKey resourceType resourceId metadata ∧ s = s' := by
  unfold requireCommandAuthorization query Env.Allows
  cases authorizationSpecForCommandKey commandKey with
  | none => simp
  | some spec =>
    simp only [Prog.orRaise_some, Prog.pure_bind, Prog.gets_bind_run, Option.some.injEq, exists_and_left, exists_eq_left']
    split
    · rename_i e he
      simp [he]
    · rename_i decision hd
      rw [hd]
      cases hallowed : decision.allowed <;> simp [hallowed]

/-- The host's policy reaches a decision about every user there is. -/
def Env.Decides : Prop :=
  ∀ (db : Db) (request : AuthorizationRequest), (db.user? request.actorUserId).isSome →
    ∃ decision, env.authorize db request = .ok decision

/-- A known command that is refused is refused with an authorization error. -/
theorem requireCommandAuthorization_error (hpolicy : env.Decides) {tenantId : TenantId} {actorUserId : Nat}
    {commandKey : String} {resourceType : PermissionResourceType} {resourceId : String} {metadata : Dict} {s s' : Tx Ω}
    {e : Error} (hkey : (authorizationSpecForCommandKey commandKey).isSome)
    (huser : (s.view.user? actorUserId).isSome)
    (h : (requireCommandAuthorization env tenantId actorUserId commandKey resourceType resourceId metadata).run s =
      (.error e, s')) : ∃ message, e = .authorization message := by
  unfold requireCommandAuthorization query at h
  obtain ⟨spec, hspec⟩ := Option.isSome_iff_exists.1 hkey
  obtain ⟨decision, hdecision⟩ := hpolicy s.view
    { tenantId := tenantId, actorUserId := actorUserId, commandKey := commandKey, permission := spec.permission,
      resourceType := resourceType, resourceId := resourceId, metadata := metadata } huser
  simp only [hspec, Prog.orRaise_some, Prog.pure_bind, Prog.gets_bind_run, hdecision] at h
  split at h
  · simp at h
  · simp only [Prog.raise_run, Prod.mk.injEq, Except.error.injEq] at h
    exact ⟨_, h.1.symm⟩

end

theorem databaseAuthorizationPolicy_decides (db : Db) (request : AuthorizationRequest)
    (h : (db.user? request.actorUserId).isSome) :
    ∃ decision, databaseAuthorizationPolicy db request = .ok decision := by
  obtain ⟨user, huser⟩ := Option.isSome_iff_exists.1 h
  unfold databaseAuthorizationPolicy
  simp only [huser]
  split
  · exact ⟨_, rfl⟩
  · split <;> exact ⟨_, rfl⟩

/-! ## Grants -/

section
variable {Ω ρ : Type}

/-- `_get_or_create`: the row found, or inserted under a fresh id and found. -/
def getOrCreate (lookup : Db → Option ρ) (add : Nat → Db → Db) : M Ω ρ := do
  match ← query lookup with
  | some row => pure row
  | none =>
    let _ ← insert add
    let row ← query lookup
    Prog.orRaise (.other "RuntimeError" "Unable to create or reload") row

/-- `find_or_create_group`. -/
def findOrCreateGroup (identifier : String) (name : Option String) : M Ω Group := do
  match ← query fun db => db.groups.find? (·.identifier == some identifier) with
  | some group => pure group
  | none =>
    let authorizationKey := s!"authorization:{identifier}"
    getOrCreate (fun db => db.groups.find? (·.authorizationKey == some authorizationKey)) fun id db =>
      { db with groups := db.groups ++
          [{ id := id, name := some ((name.filter (· != "")).getD identifier), identifier := some identifier,
             authorizationKey := some authorizationKey }] }

/-- `add_user_to_group`. -/
def addUserToGroup (userId : Nat) (groupIdentifier : String) (groupName : Option String) :
    M Ω UserGroupAssignment := do
  let group ← findOrCreateGroup groupIdentifier groupName
  getOrCreate (fun db => db.userGroupAssignments.find? fun a => a.userId == userId && a.groupId == group.id)
    fun id db =>
      { db with userGroupAssignments := db.userGroupAssignments ++ [{ id := id, userId := userId, groupId := group.id }] }

/-- `find_or_create_principal_for_user`. -/
def findOrCreatePrincipalForUser (userId : Nat) : M Ω Principal :=
  getOrCreate (fun db => db.principals.find? (·.userId == some userId)) fun id db =>
    { db with principals := db.principals ++ [{ id := id, userId := some userId, groupId := none }] }

/-- `find_or_create_principal_for_group`. -/
def findOrCreatePrincipalForGroup (groupId : Nat) : M Ω Principal :=
  getOrCreate (fun db => db.principals.find? (·.groupId == some groupId)) fun id db =>
    { db with principals := db.principals ++ [{ id := id, userId := none, groupId := some groupId }] }

/-- The row of a command and a resource. -/
def PermissionTarget.names (command : Option String) (resourceType : PermissionResourceType) (resourceId : Option String)
    (t : PermissionTarget) : Bool :=
  t.resourceType == resourceType && t.resourceId == resourceId && t.command == command

/-- `find_or_create_permission_target`. The column `command` is not nullable. -/
def findOrCreatePermissionTarget (command : Option String) (resourceType : PermissionResourceType)
    (resourceId : Option String) : M Ω PermissionTarget :=
  let command := normalizeResourceComponent command
  let normalized := resourceId.map strip
  let lookup (db : Db) : Option PermissionTarget := db.permissionTargets.find? (·.names command resourceType normalized)
  if normalized == some "" then
    Prog.raise (.other "InvalidPermissionTargetError" "resource_id cannot be blank")
  else match command with
    | none => do
      let found ← query lookup
      Prog.orRaise (.other "IntegrityError" "permission_target.command is null") found
    | some command =>
      getOrCreate lookup fun id db =>
        { db with permissionTargets := db.permissionTargets ++
            [{ id := id, command := some command, resourceType := resourceType, resourceId := normalized }] }

/-- `_find_or_create_permission_assignment`. -/
def findOrCreatePermissionAssignment (principalId permissionTargetId : Nat) (permission : PermissionAction)
    (grantType : PermitDeny) : M Ω PermissionAssignment := do
  let assignment ← getOrCreate
    (fun db => db.permissionAssignments.find? fun a =>
      a.principalId == principalId && a.permissionTargetId == permissionTargetId && a.permission == permission)
    fun id db =>
      { db with permissionAssignments := db.permissionAssignments ++
          [{ id := id, principalId := principalId, permissionTargetId := permissionTargetId, grantType := grantType,
             permission := permission }] }
  if assignment.grantType != grantType then
    write fun db =>
      { db with permissionAssignments :=
          updateWhere (·.id == assignment.id) ({ · with grantType := grantType }) db.permissionAssignments }
    pure { assignment with grantType := grantType }
  else pure assignment

/-- `grant_permission_to_group`. -/
def grantPermissionToGroup (groupIdentifier : String) (permission : PermissionAction) (command : Option String)
    (resourceType : PermissionResourceType) (resourceId : Option String) (grantType : PermitDeny)
    (groupName : Option String) : M Ω PermissionAssignment := do
  let group ← findOrCreateGroup groupIdentifier groupName
  let principal ← findOrCreatePrincipalForGroup group.id
  let target ← findOrCreatePermissionTarget command resourceType resourceId
  findOrCreatePermissionAssignment principal.id target.id permission grantType

/-- `grant_permission_to_user`. -/
def grantPermissionToUser (userId : Nat) (permission : PermissionAction) (command : Option String)
    (resourceType : PermissionResourceType) (resourceId : Option String) (grantType : PermitDeny) :
    M Ω PermissionAssignment := do
  let principal ← findOrCreatePrincipalForUser userId
  let target ← findOrCreatePermissionTarget command resourceType resourceId
  findOrCreatePermissionAssignment principal.id target.id permission grantType

/-- `grant_command_permissions_to_group`. -/
def grantCommandPermissionsToGroup (groupIdentifier : String) (commandKeys : List String) (grantType : PermitDeny)
    (groupName : Option String) : M Ω Unit :=
  Prog.forEach commandKeys fun commandKey => do
    let spec ← Prog.orRaise (.other "KeyError" s!"Unknown command key: {commandKey}")
      (authorizationSpecForCommandKey commandKey)
    let _ ← grantPermissionToGroup groupIdentifier spec.permission (some spec.commandKey) .tenant
      (some (String.ofList (partition ':' groupIdentifier.toList).1)) grantType groupName

/-- `tenant_role_group_identifier`. -/
def tenantRoleGroupIdentifier (tenantId : TenantId) (roleName : String) : String :=
  strip tenantId ++ ":" ++ strip roleName

/-- `ensure_v1_role`. -/
def ensureV1Role (tenantId : TenantId) (roleName : String) (userIds : List Nat) : M Ω Group := do
  let (_, commandKeys) ← Prog.orRaise (.other "KeyError" s!"Unknown V1 role: {roleName}")
    (v1BasicRoleCommandKeys.find? (·.1 == roleName))
  let groupIdentifier := tenantRoleGroupIdentifier tenantId roleName
  let group ← findOrCreateGroup groupIdentifier (some roleName)
  Prog.forEach userIds fun userId => do
    let _ ← addUserToGroup userId groupIdentifier (some roleName)
  grantCommandPermissionsToGroup groupIdentifier commandKeys .permit (some roleName)
  pure group

/-! ## What setting up a role writes -/

/-- `db` with other groups, principals and permissions. -/
def Db.withPermissions (db : Db) (groups : List Group) (assignments : List UserGroupAssignment)
    (principals : List Principal) (targets : List PermissionTarget) (permissions : List PermissionAssignment) : Db :=
  { db with groups := groups, userGroupAssignments := assignments, principals := principals,
            permissionTargets := targets, permissionAssignments := permissions }

section
variable {R : Tx Ω → Tx Ω → Prop} (hR : Prog.Frame R) (hseq : ∀ s : Tx Ω, R s { s with seq := s.seq + 1 })
  (hwrite : ∀ (s : Tx Ω) g a p t q, R s { s with view := s.view.withPermissions g a p t q })
include hR hseq

theorem getOrCreate_keeps {lookup : Db → Option ρ} {add : Nat → Db → Db}
    (hadd : ∀ (s : Tx Ω) id, R s { s with view := add id s.view }) : (getOrCreate lookup add).Keeps R := by
  refine Prog.keeps_bind hR (Prog.keeps_gets hR _) fun found => ?_
  cases found with
  | some row => exact Prog.keeps_pure hR row
  | none =>
    refine Prog.keeps_bind hR (Prog.keeps_bind hR hseq fun id => ?_) fun _ => ?_
    · exact Prog.keeps_bind hR (fun s => hadd s id) fun _ => Prog.keeps_pure hR id
    · exact Prog.keeps_bind hR (Prog.keeps_gets hR _) fun _ => Prog.keeps_orRaise hR _ _

include hwrite

theorem findOrCreateGroup_keeps (identifier : String) (name : Option String) :
    (findOrCreateGroup identifier name).Keeps R := by
  refine Prog.keeps_bind hR (Prog.keeps_gets hR _) fun found => ?_
  cases found with
  | some group => exact Prog.keeps_pure hR group
  | none => exact getOrCreate_keeps hR hseq fun s _ => hwrite s _ _ _ _ _

theorem addUserToGroup_keeps (userId : Nat) (groupIdentifier : String) (groupName : Option String) :
    (addUserToGroup userId groupIdentifier groupName).Keeps R :=
  Prog.keeps_bind hR (findOrCreateGroup_keeps hR hseq hwrite _ _) fun _ =>
    getOrCreate_keeps hR hseq fun s _ => hwrite s _ _ _ _ _

theorem grantPermissionToGroup_keeps (groupIdentifier : String) (permission : PermissionAction)
    (command : Option String) (resourceType : PermissionResourceType) (resourceId : Option String)
    (grantType : PermitDeny) (groupName : Option String) :
    (grantPermissionToGroup groupIdentifier permission command resourceType resourceId grantType groupName).Keeps R := by
  refine Prog.keeps_bind hR (findOrCreateGroup_keeps hR hseq hwrite _ _) fun group => ?_
  refine Prog.keeps_bind hR (getOrCreate_keeps hR hseq fun s _ => hwrite s _ _ _ _ _) fun principal => ?_
  refine Prog.keeps_bind hR ?_ fun target => Prog.keeps_bind hR (getOrCreate_keeps hR hseq fun s _ => hwrite s _ _ _ _ _) fun row => ?_
  · unfold findOrCreatePermissionTarget
    dsimp only
    split
    · exact Prog.keeps_raise hR _
    split
    · exact Prog.keeps_bind hR (Prog.keeps_gets hR _) fun _ => Prog.keeps_orRaise hR _ _
    · exact getOrCreate_keeps hR hseq fun s _ => hwrite s _ _ _ _ _
  · split
    · exact Prog.keeps_bind hR (fun s => hwrite s _ _ _ _ _) fun _ => Prog.keeps_pure hR _
    · exact Prog.keeps_pure hR row

/-- Setting up a role hands out ids and writes groups and permissions. -/
theorem ensureV1Role_keeps (tenantId : TenantId) (roleName : String) (userIds : List Nat) :
    (ensureV1Role tenantId roleName userIds).Keeps R := by
  refine Prog.keeps_bind hR (Prog.keeps_orRaise hR _ _) fun role => ?_
  refine Prog.keeps_bind hR (findOrCreateGroup_keeps hR hseq hwrite _ _) fun group => ?_
  refine Prog.keeps_bind hR (Prog.keeps_forEach hR fun userId _ => ?_) fun _ => ?_
  · exact Prog.keeps_bind hR (addUserToGroup_keeps hR hseq hwrite _ _ _) fun _ => Prog.keeps_pure hR _
  refine Prog.keeps_bind hR (Prog.keeps_forEach hR fun key _ => ?_) fun _ => Prog.keeps_pure hR group
  refine Prog.keeps_bind hR (Prog.keeps_orRaise hR _ _) fun spec => ?_
  exact Prog.keeps_bind hR (grantPermissionToGroup_keeps hR hseq hwrite _ _ _ _ _ _ _) fun _ => Prog.keeps_pure hR _

end

/-! ## When a role can be granted -/

/-- `m` returns from every state. -/
def Total {α : Type} (m : M Ω α) : Prop := Prog.Returns (fun _ => True) m fun _ _ => True

theorem total_pure {α : Type} (a : α) : Total (pure a : M Ω α) := fun s _ => ⟨a, s, rfl, trivial⟩

theorem total_query {α : Type} (f : Db → α) : Total (query (Ω := Ω) f) := fun s _ => ⟨f s.view, s, rfl, trivial⟩

theorem total_write (f : Db → Db) : Total (write (Ω := Ω) f) := fun _ _ => ⟨(), _, rfl, trivial⟩

theorem Total.bind {α β : Type} {m : M Ω α} {f : α → M Ω β} (hm : Total m) (hf : ∀ a, Total (f a)) :
    Total (m >>= f) := Prog.returns_bind hm fun a => hf a

theorem Total.forEach {α : Type} {g : α → M Ω Unit} {xs : List α} (hg : ∀ x ∈ xs, Total (g x)) :
    Total (Prog.forEach xs g) := Prog.returns_forEach hg

theorem Total.mapEach {α β : Type} {g : α → M Ω β} {xs : List α} (hg : ∀ x ∈ xs, Total (g x)) :
    Total (Prog.mapEach xs g) := by
  induction xs with
  | nil => exact total_pure []
  | cons x xs ih =>
    refine .bind (hg x (by simp)) fun y => .bind (ih fun z hz => hg z (by simp [hz])) fun ys => total_pure _

theorem getOrCreate_total {lookup : Db → Option ρ} {add : Nat → Db → Db} (h : ∀ id db, (lookup (add id db)).isSome) :
    Total (getOrCreate (Ω := Ω) lookup add) := by
  intro s _
  unfold getOrCreate query
  simp only [Prog.gets_bind_run]
  cases hfound : lookup s.view with
  | some row => exact ⟨row, s, rfl, trivial⟩
  | none =>
    obtain ⟨row, hrow⟩ := Option.isSome_iff_exists.1 (h s.seq s.view)
    refine ⟨row, { s with seq := s.seq + 1, view := add s.seq s.view }, ?_, trivial⟩
    simp [Session.insert, nextId, write, Prog.bind_run, hrow]

theorem find?_append_singleton_isSome {α : Type} {p : α → Bool} {l : List α} {a : α} (h : p a = true) :
    ((l ++ [a]).find? p).isSome := by
  rw [List.find?_isSome]
  exact ⟨a, by simp, h⟩

theorem findOrCreateGroup_total (identifier : String) (name : Option String) :
    Total (findOrCreateGroup (Ω := Ω) identifier name) := by
  refine .bind (total_query _) fun found => ?_
  cases found with
  | some group => exact total_pure group
  | none => exact getOrCreate_total fun _ _ => find?_append_singleton_isSome (by simp)

theorem addUserToGroup_total (userId : Nat) (groupIdentifier : String) (groupName : Option String) :
    Total (addUserToGroup (Ω := Ω) userId groupIdentifier groupName) :=
  .bind (findOrCreateGroup_total _ _) fun _ => getOrCreate_total fun _ _ => find?_append_singleton_isSome (by simp)

/-- The tenant part of the role's group, which its grants are made for. -/
def roleTenantComponent (tenantId : TenantId) (roleName : String) : String :=
  String.ofList (partition ':' (tenantRoleGroupIdentifier tenantId roleName).toList).1

theorem grantPermissionToGroup_total (groupIdentifier : String) (permission : PermissionAction)
    {command : Option String} (resourceType : PermissionResourceType) {resourceId : Option String}
    (grantType : PermitDeny) (groupName : Option String) (hcommand : (normalizeResourceComponent command).isSome)
    (h : resourceId.map strip ≠ some "") :
    Total (grantPermissionToGroup (Ω := Ω) groupIdentifier permission command resourceType resourceId grantType
      groupName) := by
  refine .bind (findOrCreateGroup_total _ _) fun group => ?_
  refine .bind (getOrCreate_total fun _ _ => find?_append_singleton_isSome (by simp)) fun principal => ?_
  refine .bind ?_ fun target => .bind (getOrCreate_total fun _ _ => find?_append_singleton_isSome (by simp)) fun row => ?_
  · obtain ⟨key, hkey⟩ := Option.isSome_iff_exists.1 hcommand
    unfold findOrCreatePermissionTarget
    simp only [beq_iff_eq, h, if_false, hkey]
    exact getOrCreate_total fun _ _ => find?_append_singleton_isSome (by simp [PermissionTarget.names])
  · split
    · exact .bind (total_write _) fun _ => total_pure _
    · exact total_pure _

/-- The administrator's commands. -/
def adminCommandKeys : List String :=
  [processStartCommand, taskClaimCommand, taskCompleteCommand, processDefinitionImportCommand,
    processSuspendCommand, processResumeCommand, processRetryCommand, processTerminateCommand]

theorem adminCommandKeys_eq : v1BasicRoleCommandKeys.find? (·.1 == roleAdmin) = some (roleAdmin, adminCommandKeys) := by
  decide

/-- The administrator role can be set up in every tenant with a name to grant
it for. -/
theorem ensureV1Role_total {tenantId : TenantId} (userIds : List Nat)
    (h : strip (roleTenantComponent tenantId roleAdmin) ≠ "") :
    Total (ensureV1Role (Ω := Ω) tenantId roleAdmin userIds) := by
  have hspec : ∀ key ∈ adminCommandKeys, ∃ spec, authorizationSpecForCommandKey key = some spec ∧
      (normalizeResourceComponent (some spec.commandKey)).isSome := by
    intro key hkey
    have hcheck : ∀ key ∈ adminCommandKeys, (authorizationSpecForCommandKey key).any fun spec =>
        (normalizeResourceComponent (some spec.commandKey)).isSome := by decide
    simpa only [Option.any_eq_true] using hcheck key hkey
  unfold ensureV1Role
  rw [adminCommandKeys_eq]
  simp only [Prog.orRaise_some, Prog.pure_bind]
  refine .bind (findOrCreateGroup_total _ _) fun group => ?_
  refine .bind (.forEach fun userId _ => .bind (addUserToGroup_total _ _ _) fun _ => total_pure _) fun _ => ?_
  refine .bind (.forEach fun key hkey => ?_) fun _ => total_pure group
  obtain ⟨spec, hspec, hcommand⟩ := hspec key hkey
  rw [hspec]
  simp only [Prog.orRaise_some, Prog.pure_bind]
  refine .bind (grantPermissionToGroup_total _ _ _ _ _ hcommand ?_) fun _ => total_pure _
  simpa [roleTenantComponent] using h

/-- A grant for a blank resource is refused. -/
theorem grantPermissionToGroup_ok {groupIdentifier : String} {permission : PermissionAction}
    {command : Option String} {resourceType : PermissionResourceType} {resourceId : Option String}
    {grantType : PermitDeny} {groupName : Option String} {s s' : Tx Ω} {row : PermissionAssignment}
    (h : (grantPermissionToGroup groupIdentifier permission command resourceType resourceId grantType groupName).run s =
      (.ok row, s')) : resourceId.map strip ≠ some "" := by
  unfold grantPermissionToGroup at h
  obtain ⟨_, _, -, h₁⟩ := Prog.bind_ok.1 h
  obtain ⟨_, _, -, h₂⟩ := Prog.bind_ok.1 h₁
  obtain ⟨_, _, htarget, -⟩ := Prog.bind_ok.1 h₂
  intro hblank
  unfold findOrCreatePermissionTarget at htarget
  simp [hblank] at htarget

/-- In a tenant without such a name the role cannot be set up. -/
theorem roleTenantComponent_of_ok {tenantId : TenantId} {userIds : List Nat} {s s' : Tx Ω} {group : Group}
    (h : (ensureV1Role tenantId roleAdmin userIds).run s = (.ok group, s')) :
    strip (roleTenantComponent tenantId roleAdmin) ≠ "" := by
  unfold ensureV1Role at h
  rw [adminCommandKeys_eq] at h
  simp only [Prog.orRaise_some, Prog.pure_bind] at h
  obtain ⟨_, _, -, h₁⟩ := Prog.bind_ok.1 h
  obtain ⟨_, _, -, h₂⟩ := Prog.bind_ok.1 h₁
  obtain ⟨_, _, hgrants, -⟩ := Prog.bind_ok.1 h₂
  have hkeys : adminCommandKeys = processStartCommand :: adminCommandKeys.tail := rfl
  rw [grantCommandPermissionsToGroup, hkeys, Prog.forEach_cons] at hgrants
  obtain ⟨_, _, hfirst, -⟩ := Prog.bind_ok.1 hgrants
  obtain ⟨spec, _, -, h₃⟩ := Prog.bind_ok.1 hfirst
  obtain ⟨_, _, hgrant, -⟩ := Prog.bind_ok.1 h₃
  have hresource := grantPermissionToGroup_ok hgrant
  simpa [roleTenantComponent] using hresource

end
end M8flowCore
