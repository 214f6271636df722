import M8flowCore.GrantCalls
import M8flowCore.Sample
/-!
# Concurrent grants

Any number of calls of `grant_permission_to_group`, `grant_permission_to_user`
or `ensure_v1_role` with equal arguments, interleaved statement by statement.

They end up with one group, principal, target and assignment when the target
has a unique key, when it is stored already, or when they all have to insert
another row with a unique key before it. A target for every resource of a type
has a NULL `resource_id` and no unique key, and two calls for a principal that
is stored can both insert it.
-/
open M8flowCore.Lib M8flowCore.Session

namespace M8flowCore

/-! ## Calls with equal arguments -/

/-- A call of one of the three services, with its arguments. -/
inductive GrantRequest : Type where
  | toGroup (groupIdentifier : String) (permission : PermissionAction) (command : Option String)
      (resourceType : PermissionResourceType) (resourceId : Option String) (grantType : PermitDeny)
      (groupName : Option String)
  | toUser (userId : Nat) (permission : PermissionAction) (command : Option String)
      (resourceType : PermissionResourceType) (resourceId : Option String) (grantType : PermitDeny)
  | role (tenantId : TenantId) (roleName : String) (userIds : List Nat)

/-- What a call returns. -/
inductive GrantReply : Type where
  | assignment (row : PermissionAssignment)
  | group (group : Group)
  deriving DecidableEq

/-- One principal, one target and one row between them, which is `row`. -/
def Db.GrantedOnce (db : Db) (subject : Principal → Bool) (permission : PermissionAction) (command : Option String)
    (resourceType : PermissionResourceType) (resourceId : Option String) (row : PermissionAssignment) : Prop :=
  ∃ principal target, db.principals.filter subject = [principal] ∧
    db.permissionTargets.filter (·.names (normalizeResourceComponent command) resourceType (resourceId.map strip)) = [target] ∧
    db.permissionAssignments.filter (·.grants principal.id target.id permission) = [row]

/-- At most one target is stored, and it has a key, or is stored already, or the
calls have yet to insert the row that `passed` would find. -/
def Db.TargetSettled (db : Db) (passed : Principal → Bool) (command : Option String) (resourceType : PermissionResourceType)
    (resourceId : Option String) : Prop :=
  let targets := db.permissionTargets.filter (·.names (normalizeResourceComponent command) resourceType (resourceId.map strip))
  targets.length ≤ 1 ∧ (resourceId.isSome = true ∨ targets ≠ [] ∨ ∀ p ∈ db.principals, passed p = false)

namespace GrantRequest

def grantType : GrantRequest → PermitDeny
  | .toGroup _ _ _ _ _ grantType _ => grantType
  | .toUser _ _ _ _ _ grantType => grantType
  | .role .. => .permit

def statements : GrantRequest → Statements GrantReply
  | .toGroup groupIdentifier permission command resourceType resourceId grantType groupName =>
    (Statements.grantPermissionToGroup groupIdentifier permission command resourceType resourceId grantType groupName).bind
      fun row => .done (.assignment row)
  | .toUser userId permission command resourceType resourceId grantType =>
    (Statements.grantPermissionToUser userId permission command resourceType resourceId grantType).bind
      fun row => .done (.assignment row)
  | .role tenantId roleName userIds =>
    (Statements.ensureV1Role tenantId roleName userIds).bind fun group => .done (.group group)

/-- When the calls start: no two groups answer to the identifier, and the target
is settled. -/
def Settled (db : Db) : GrantRequest → Prop
  | .toGroup groupIdentifier _ command resourceType resourceId _ _ =>
    (db.groups.filter (·.answers groupIdentifier)).length ≤ 1 ∧
      db.TargetSettled (fun p => db.groups.any fun g => g.answers groupIdentifier && p.groupId == some g.id) command
        resourceType resourceId
  | .toUser userId _ command resourceType resourceId _ =>
    db.TargetSettled (·.userId == some userId) command resourceType resourceId
  | .role tenantId roleName _ => (db.groups.filter (·.answers (tenantRoleGroupIdentifier tenantId roleName))).length ≤ 1

/-- What a call stands for is stored once, and the call returned it. A role
returns its group. -/
def Met (db : Db) : GrantRequest → GrantReply → Prop
  | .toGroup groupIdentifier permission command resourceType resourceId _ _, .assignment row =>
    ∃ group, db.groups.filter (·.answers groupIdentifier) = [group] ∧
      db.GrantedOnce (·.groupId == some group.id) permission command resourceType resourceId row
  | .toUser userId permission command resourceType resourceId _, .assignment row =>
    db.GrantedOnce (·.userId == some userId) permission command resourceType resourceId row
  | .role tenantId roleName userIds, .group group =>
    db.groups.filter (·.answers (tenantRoleGroupIdentifier tenantId roleName)) = [group] ∧
      (∀ userId ∈ userIds, ∃ membership,
        (db.userGroupAssignments.filter fun a => a.userId == userId && a.groupId == group.id) = [membership]) ∧
      ∃ commandKeys, v1BasicRoleCommandKeys.find? (·.1 == roleName) = some (roleName, commandKeys) ∧
        ∀ key ∈ commandKeys, ∃ spec row, authorizationSpecForCommandKey key = some spec ∧
          db.GrantedOnce (·.groupId == some group.id) spec.permission (some spec.commandKey) .tenant
            (some (roleTenantComponent tenantId roleName)) row
  | _, _ => False

end GrantRequest

section
variable {grantType : PermitDeny} {subject : Principal → Bool} {permission : PermissionAction} {command : Option String}
  {resourceType : PermissionResourceType} {resourceId : Option String} {row : PermissionAssignment} {db : Db}

/-- A grant that is made is made once when its target is. -/
theorem Statements.Granted.once {f : Principal → Option UniqueKey} {key : UniqueKey}
    (hkeys : db.uniqueKeys.Nodup) (hprincipals : (db.principals.filterMap f).Nodup)
    (hsubject : ∀ p, subject p = true → f p = some key)
    (htargets : ∀ t ∈ db.permissionTargets,
      t.names (normalizeResourceComponent command) resourceType (resourceId.map strip) = true →
        db.permissionTargets.filter (·.names (normalizeResourceComponent command) resourceType (resourceId.map strip)) = [t])
    (h : Statements.Granted grantType subject permission command resourceType resourceId row db) :
    db.GrantedOnce subject permission command resourceType resourceId row := by
  obtain ⟨principal, hprincipal, hp, target, htarget, hnames, hrow, hgrants, -⟩ := h
  refine ⟨principal, target, filter_eq_singleton hprincipals hsubject hprincipal hp, htargets target htarget hnames, ?_⟩
  have hkey : ∀ a : PermissionAssignment, a.grants principal.id target.id permission = true →
      a.uniqueKey = some (.assignment principal.id target.id permission) := by
    intro a ha
    simp_all [PermissionAssignment.grants, PermissionAssignment.uniqueKey]
  exact filter_eq_singleton (Db.uniqueKeys_parts hkeys).2.2.2.2.2 hkey hrow hgrants

end

/-! ## Every interleaving -/

section
variable {ι : Type} [DecidableEq ι] {db : Db} {seq : Nat} {st : Concurrent ι Db NewRow Nat Error GrantReply} {c : ι}
  {reply : GrantReply}
open Statements

theorem uniqueKeys_committed {grantType : PermitDeny} {prog : ι → Statements GrantReply} (hdb : db.uniqueKeys.Nodup)
    (h : Interleaves (grantSchema grantType) (.begin seq db prog) st) (c : ι) : st.db.uniqueKeys.Nodup :=
  ((h.keysOnce (Concurrent.keysOnce_begin hdb)).visible c).of_append_left

theorem userKey_eq {userId : Nat} {p : Principal} (h : (p.userId == some userId) = true) :
    p.userKey = some (.principalUser userId) := by
  simp_all [Principal.userKey]

theorem groupKey_eq {groupId : Nat} {p : Principal} (h : (p.groupId == some groupId) = true) :
    p.groupKey = some (.principalGroup groupId) := by
  simp_all [Principal.groupKey]

theorem uniqueKey_of_names {command resourceId : String} {resourceType : PermissionResourceType} {t : PermissionTarget}
    (h : t.names (some command) resourceType (some resourceId) = true) :
    t.uniqueKey = some (.target resourceType resourceId command) := by
  simp_all [PermissionTarget.names, PermissionTarget.uniqueKey]

theorem toUser_met {userId : Nat} {permission : PermissionAction} {command : Option String}
    {resourceType : PermissionResourceType} {resourceId : Option String} {grantType : PermitDeny}
    (hdb : db.PermissionConstraints)
    (hsettled : (GrantRequest.toUser userId permission command resourceType resourceId grantType).Settled db)
    (h : Interleaves (grantSchema grantType)
      (.begin seq db fun _ => (GrantRequest.toUser userId permission command resourceType resourceId grantType).statements) st)
    (hc : st.calls c = .committed reply) :
    (GrantRequest.toUser userId permission command resourceType resourceId grantType).Met st.db reply := by
  have hkeys := uniqueKeys_committed hdb.unique h c
  obtain ⟨hle, hsettled⟩ := hsettled
  have hpassage : resourceId.isSome = true ∨ db.permissionTargets.filter
      (·.names (normalizeResourceComponent command) resourceType (resourceId.map strip)) ≠ [] ∨
      UniqueKey.principalUser userId ∉ db.uniqueKeys := by
    refine hsettled.imp_right (Or.imp_right fun hnone hmem => ?_)
    obtain ⟨p, hp, huser⟩ := Db.principalUser_mem.1 hmem
    simpa [huser] using hnone p hp
  obtain ⟨I, C, hrule⟩ := targetRule grantType hdb.command hle (by simpa using hpassage)
  obtain ⟨hI, hcommitted⟩ := h.reached
    (P := fun reply db => ∃ row, reply = .assignment row ∧
      Granted grantType (·.userId == some userId) permission command resourceType resourceId row db)
    (fun _ _ _ hgrows ⟨row, hreply, hrow⟩ => ⟨row, hreply, hrow.grows hgrows⟩)
    (fun _ changes db hI hC hnodup hgranted => by
      obtain ⟨_, _, _, _, _, target, htarget, hnames, _⟩ := hgranted
      exact hrule.commit changes db hI hC hnodup ⟨target, htarget, hnames⟩)
    hdb.unique hrule.start hrule.nil
    (fun _ => Stmt.reaches_bind (reaches_grantPermissionToUser hrule hrule.nil) fun row _ _ _ hgoes hrow =>
      Stmt.reaches_done (fun _ _ hgrows ⟨row, hreply, hrow⟩ => ⟨row, hreply, hrow.grows hgrows⟩) hgoes.kept ⟨row, rfl, hrow⟩)
  obtain ⟨row, rfl, hgranted⟩ := hcommitted c reply hc
  exact hgranted.once hkeys (Db.uniqueKeys_parts hkeys).2.2.1 (fun _ => userKey_eq) (hrule.once _ hI)

/-- The row that calls for a group have all to insert, or see, before they look
for the target: the group, or the principal of a group that is there. -/
def groupPassage (identifier : String) (db : Db) : UniqueKey :=
  match db.groups.find? (·.answers identifier) with
  | some group => .principalGroup group.id
  | none => .authorizationKey (groupAuthorizationKey identifier)

theorem groupPassage_absent {identifier : String}
    (h : ∀ p ∈ db.principals, (db.groups.any fun g => g.answers identifier && p.groupId == some g.id) = false) :
    groupPassage identifier db ∉ db.uniqueKeys := by
  unfold groupPassage
  cases hfind : db.groups.find? (·.answers identifier) with
  | some group =>
    intro hmem
    obtain ⟨p, hp, hof⟩ := Db.principalGroup_mem.1 hmem
    have hnone := List.any_eq_false.1 (h p hp) group (List.mem_of_find?_eq_some hfind)
    have hanswers := List.find?_some hfind
    simp_all
  | none =>
    intro hmem
    obtain ⟨g, hg, hkey⟩ := Db.authorizationKey_mem.1 hmem
    have hnone := List.find?_eq_none.1 hfind g hg
    simp [Group.answers, hkey] at hnone

theorem groupPassage_visible {grantType : PermitDeny} {identifier : String} {changes : List (RowChange NewRow Nat)} {db' : Db}
    {group : Group} {principal : Principal}
    (hI : (groupSelection grantType identifier).Kept (groupGuard grantType identifier db) db')
    (hC : (groupSelection grantType identifier).Guarded (groupGuard grantType identifier db) changes)
    (hgrows : db.Grows grantType (visible grantType changes db'))
    (hgroup : group ∈ (visible grantType changes db').groups) (hanswers : group.answers identifier = true)
    (hprincipal : principal ∈ (visible grantType changes db').principals) (hof : principal.groupId = some group.id) :
    groupPassage identifier db ∈ (visible grantType changes db').uniqueKeys := by
  unfold groupPassage
  cases hfind : db.groups.find? (·.answers identifier) with
  | none =>
    have hstart : (groupSelection grantType identifier).count db = 0 :=
      groupSelection_eq_zero.2 fun g hg => by simpa using List.find?_eq_none.1 hfind g hg
    exact authorizationKey_visible hstart hI hC hgroup hanswers
  | some group₀ =>
    have hgroup₀ := List.mem_of_find?_eq_some hfind
    have hanswers₀ := List.find?_some hfind
    have hstart : (groupSelection grantType identifier).count db ≠ 0 := by
      intro hzero
      rw [groupSelection_eq_zero.1 hzero group₀ hgroup₀] at hanswers₀
      exact absurd hanswers₀ (by simp)
    obtain rfl := stored_group_visible hstart hI hC hgroup hanswers (hgrows.groups hgroup₀) hanswers₀
    exact Db.principalGroup_mem.2 ⟨principal, hprincipal, hof⟩

/-- The grant to a group, guarded in its group and in its target. -/
theorem reaches_guardedGrant {groupIdentifier : String} {permission : PermissionAction} {command : Option String}
    {resourceType : PermissionResourceType} {resourceId : Option String} {grantType : PermitDeny} {groupName : Option String}
    {I : Db → Prop} {C : List (RowChange NewRow Nat) → Prop}
    (hgroup : GroupRule grantType groupIdentifier db
      ((groupSelection grantType groupIdentifier).Kept (groupGuard grantType groupIdentifier db))
      ((groupSelection grantType groupIdentifier).Guarded (groupGuard grantType groupIdentifier db)))
    (htarget : TargetRule grantType (groupPassage groupIdentifier db) (normalizeResourceComponent command) resourceType
      (resourceId.map strip) db I C) :
    (Statements.grantPermissionToGroup groupIdentifier permission command resourceType resourceId grantType groupName).Reaches
      (grantSchema grantType)
      (fun db' => (groupSelection grantType groupIdentifier).Kept (groupGuard grantType groupIdentifier db) db' ∧ I db')
      (fun changes =>
        (groupSelection grantType groupIdentifier).Guarded (groupGuard grantType groupIdentifier db) changes ∧ C changes)
      (GroupGranted grantType groupIdentifier permission command resourceType resourceId) [] db := by
  have hpassed : ∀ db₁ db₂ : Db, db₁.Grows grantType db₂ → groupPassage groupIdentifier db ∈ db₁.uniqueKeys →
      groupPassage groupIdentifier db ∈ db₂.uniqueKeys := fun _ _ hgrows h => hgrows.uniqueKeys h
  refine reaches_grantPermissionToGroup groupName ?_ ?_ hpassed ?_ ?_ ⟨hgroup.nil, htarget.nil⟩
  · exact ⟨fun changes id hC => ⟨hgroup.updated changes id hC.1, htarget.updated changes id hC.2⟩,
      fun changes id r hr hr' hC => ⟨hgroup.inserted changes id r hr hC.1, htarget.inserted changes id r hr' hC.2⟩⟩
  · intro changes db₁ db₂ id name hC hI hnone hfree
    exact ⟨hgroup.allowed changes db₁ db₂ id name hC.1 hI.1 hnone hfree, htarget.inserted changes id _ rfl hC.2⟩
  · intro changes db' group principal hI hgoes hg hanswers hprincipal hof
    exact groupPassage_visible hI.1 hgoes.kept.1 hgoes.grows hg hanswers hprincipal hof
  · intro key hkey changes db₁ db₂ id hC hI hpassed hnone hfree
    exact ⟨hgroup.inserted changes id _ rfl hC.1, htarget.allowed key hkey changes db₁ db₂ id hC.2 hI.2 hpassed hnone hfree⟩

theorem toGroup_met {groupIdentifier : String} {permission : PermissionAction} {command : Option String}
    {resourceType : PermissionResourceType} {resourceId : Option String} {grantType : PermitDeny} {groupName : Option String}
    (hdb : db.PermissionConstraints)
    (hsettled : (GrantRequest.toGroup groupIdentifier permission command resourceType resourceId grantType
      groupName).Settled db)
    (h : Interleaves (grantSchema grantType) (.begin seq db fun _ =>
      (GrantRequest.toGroup groupIdentifier permission command resourceType resourceId grantType groupName).statements) st)
    (hc : st.calls c = .committed reply) :
    (GrantRequest.toGroup groupIdentifier permission command resourceType resourceId grantType groupName).Met st.db reply := by
  have hkeys := uniqueKeys_committed hdb.unique h c
  obtain ⟨hgroups, hle, hsettled⟩ := hsettled
  have hpassage : resourceId.isSome = true ∨ db.permissionTargets.filter
      (·.names (normalizeResourceComponent command) resourceType (resourceId.map strip)) ≠ [] ∨
      groupPassage groupIdentifier db ∉ db.uniqueKeys :=
    hsettled.imp_right (Or.imp_right groupPassage_absent)
  obtain ⟨I, C, htarget⟩ := targetRule grantType hdb.command hle (by simpa using hpassage)
  have hgroup := groupRule grantType hgroups
  obtain ⟨hI, hcommitted⟩ := h.reached
    (P := fun reply db => ∃ row, reply = .assignment row ∧
      GroupGranted grantType groupIdentifier permission command resourceType resourceId row db)
    (I := fun db' => (groupSelection grantType groupIdentifier).Kept (groupGuard grantType groupIdentifier db) db' ∧ I db')
    (C := fun changes =>
      (groupSelection grantType groupIdentifier).Guarded (groupGuard grantType groupIdentifier db) changes ∧ C changes)
    (fun _ _ _ hgrows ⟨row, hreply, hrow⟩ => ⟨row, hreply, hrow.grows hgrows⟩)
    (fun _ changes db hI hC hnodup hgranted => by
      obtain ⟨_, _, group, hg, hanswers, _, _, _, target, ht, hnames, _⟩ := hgranted
      exact ⟨hgroup.commit changes db hI.1 hC.1 hnodup ⟨group, hg, hanswers⟩,
        htarget.commit changes db hI.2 hC.2 hnodup ⟨target, ht, hnames⟩⟩)
    hdb.unique ⟨hgroup.start, htarget.start⟩ ⟨hgroup.nil, htarget.nil⟩
    (fun _ => Stmt.reaches_bind (reaches_guardedGrant hgroup htarget) fun row _ _ _ hgoes hrow =>
      Stmt.reaches_done (fun _ _ hgrows ⟨row, hreply, hrow⟩ => ⟨row, hreply, hrow.grows hgrows⟩) hgoes.kept ⟨row, rfl, hrow⟩)
  obtain ⟨row, rfl, group, hg, hanswers, hgranted⟩ := hcommitted c reply hc
  refine ⟨group, hgroup.once _ hI.1 group hg hanswers, ?_⟩
  exact hgranted.once hkeys (Db.uniqueKeys_parts hkeys).2.2.2.1 (fun _ => groupKey_eq) (htarget.once _ hI.2)

theorem commandAuthorizationSpecs_normalized : ∀ spec ∈ commandAuthorizationSpecs,
    normalizeResourceComponent (some spec.commandKey) = some spec.commandKey := by
  decide

theorem role_met {tenantId : TenantId} {roleName : String} {userIds : List Nat} (hdb : db.PermissionConstraints)
    (hsettled : (GrantRequest.role tenantId roleName userIds).Settled db)
    (h : Interleaves (grantSchema .permit)
      (.begin seq db fun _ => (GrantRequest.role tenantId roleName userIds).statements) st)
    (hc : st.calls c = .committed reply) : (GrantRequest.role tenantId roleName userIds).Met st.db reply := by
  have hkeys := uniqueKeys_committed hdb.unique h c
  have hrule := groupRule .permit hsettled
  obtain ⟨hI, hcommitted⟩ := h.reached
    (P := fun reply db => ∃ group, reply = .group group ∧ RoleSet tenantId roleName userIds group db)
    (fun _ _ _ hgrows ⟨group, hreply, hgroup⟩ => ⟨group, hreply, hgroup.grows hgrows⟩)
    (fun _ changes db hI hC hnodup hset => by
      obtain ⟨group, _, hgroup⟩ := hset
      exact hrule.commit changes db hI hC hnodup ⟨group, hgroup.stored, hgroup.answers⟩)
    hdb.unique hrule.start hrule.nil
    (fun _ => Stmt.reaches_bind (reaches_ensureV1Role hrule hrule.nil) fun group _ _ _ hgoes hgroup =>
      Stmt.reaches_done (fun _ _ hgrows ⟨group, hreply, hgroup⟩ => ⟨group, hreply, hgroup.grows hgrows⟩) hgoes.kept
        ⟨group, rfl, hgroup⟩)
  obtain ⟨group, rfl, hset⟩ := hcommitted c reply hc
  have honce := hrule.once _ hI
  have hsame : ∀ g ∈ st.db.groups, g.answers (tenantRoleGroupIdentifier tenantId roleName) = true → g = group := by
    intro g hg hanswers
    simpa using (honce g hg hanswers).symm.trans (honce group hset.stored hset.answers)
  obtain ⟨commandKeys, hrole, hgranted⟩ := hset.granted
  refine ⟨honce group hset.stored hset.answers, fun userId hu => ?_, commandKeys, hrole, fun key hkey => ?_⟩
  · obtain ⟨g, hg, hanswers, a, ha, huser, hof⟩ := hset.members userId hu
    obtain rfl := hsame g hg hanswers
    have hkey : ∀ b : UserGroupAssignment, (b.userId == userId && b.groupId == g.id) = true →
        b.uniqueKey = some (.membership userId g.id) := by
      intro b hb
      simp_all [UserGroupAssignment.uniqueKey]
    exact ⟨a, filter_eq_singleton (Db.uniqueKeys_parts hkeys).2.1 hkey ha (by simp [huser, hof])⟩
  · obtain ⟨spec, row, hspec, g, hg, hanswers, hrow⟩ := hgranted key hkey
    obtain rfl := hsame g hg hanswers
    refine ⟨spec, row, hspec, hrow.once hkeys (Db.uniqueKeys_parts hkeys).2.2.2.1 (fun _ => groupKey_eq) ?_⟩
    have hnormalized := commandAuthorizationSpecs_normalized spec (List.mem_of_find?_eq_some hspec)
    rw [hnormalized]
    intro t ht hnames
    exact filter_eq_singleton (Db.uniqueKeys_parts hkeys).2.2.2.2.1 (fun _ => uniqueKey_of_names) ht hnames

/-- Concurrent calls with equal arguments, however their statements interleave:
once a call has committed, there is one group, one principal, one target and
one assignment for them, and it returned that assignment. The arguments and the
database they start from are settled: the target has a unique key, or it is
stored already, or all calls have first to insert a row that has one. -/
theorem grants_are_made_once {request : GrantRequest} (hdb : db.PermissionConstraints) (hsettled : request.Settled db)
    (h : Interleaves (grantSchema request.grantType) (.begin seq db fun _ => request.statements) st)
    (hc : st.calls c = .committed reply) : request.Met st.db reply := by
  cases request with
  | toGroup => exact toGroup_met hdb hsettled h hc
  | toUser => exact toUser_met hdb hsettled h hc
  | role => exact role_met hdb hsettled h hc

namespace Sample

/-- A call that lets a user claim a task, or every task. -/
def claimGrant (resourceId : Option String) : GrantRequest :=
  .toUser 1 .execute (some taskClaimCommand) .task resourceId .permit

/-- The user's principal is there, from another grant. -/
def granteeDb : Db := { db₀ with principals := [{ id := 1, userId := some 1, groupId := none }] }

theorem granteeDb_constraints : granteeDb.PermissionConstraints := ⟨by decide, by decide⟩

/-- Two such calls at once. -/
def race (resourceId : Option String) : Concurrent Bool Db NewRow Nat Error GrantReply :=
  .begin 10 granteeDb fun _ => (claimGrant resourceId).statements

/-- Both look for the target before either inserts it; the second insert comes
when the first call has committed. -/
def conflictSchedule : List Bool :=
  [true, false, true, false, true, true, true, true, true, true, false, false, false, false]

/-- The same, and both insert before either commits. -/
def raceSchedule : List Bool :=
  [true, false, true, false, true, true, true, true, true, false, false, false, false, false, true, false]

theorem follow_interleaves {resourceId : Option String} {schedule : List Bool}
    {st : Concurrent Bool Db NewRow Nat Error GrantReply}
    (h : (race resourceId).follow (grantSchema .permit) [true, false] schedule = some st) :
    Interleaves (grantSchema .permit) (race resourceId) st :=
  Concurrent.follow_interleaves _ _ (by decide) .start h

end Sample

theorem grants_are_made_once_raced :
    ∃ st reply, Interleaves (grantSchema .permit) (Sample.race (some "t")) st ∧
      (∀ c, st.calls c = .committed reply) ∧ (Sample.claimGrant (some "t")).Met st.db reply := by
  have hrun : ((Sample.race (some "t")).follow (grantSchema .permit) [true, false] Sample.conflictSchedule).map
      (fun st => [true, false].map fun c => (st.calls c).reply) =
        some [some (.assignment ⟨11, 1, 10, .permit, .execute⟩), some (.assignment ⟨11, 1, 10, .permit, .execute⟩)] := by
    decide +kernel
  obtain ⟨st, hst, hreplies⟩ := Option.map_eq_some_iff.1 hrun
  have hcalls : ∀ c, st.calls c = .committed (.assignment ⟨11, 1, 10, .permit, .execute⟩) := by
    simp only [List.map_cons, List.map_nil, List.cons.injEq, Call.reply_eq_some] at hreplies
    intro c
    cases c
    · exact hreplies.2.1
    · exact hreplies.1
  have hinterleaves := Sample.follow_interleaves hst
  exact ⟨st, _, hinterleaves, hcalls, grants_are_made_once
    Sample.granteeDb_constraints ⟨by decide, .inl rfl⟩ hinterleaves (hcalls true)⟩

/-- Two calls for every task, by a user whose principal is stored: each sees no
target, and with a NULL `resource_id` neither insert conflicts. -/
theorem type_wide_grants_race : Sample.granteeDb.PermissionConstraints ∧
    ∃ st, Interleaves (grantSchema .permit) (Sample.race none) st ∧
      (st.db.permissionTargets.filter (·.names (some taskClaimCommand) .task none)).length = 2 ∧
      st.calls true = .committed (.assignment ⟨11, 1, 10, .permit, .execute⟩) ∧
      st.calls false = .committed (.assignment ⟨13, 1, 12, .permit, .execute⟩) ∧
      ∀ c reply, st.calls c = .committed reply → ¬ (Sample.claimGrant none).Met st.db reply := by
  have hrun : ((Sample.race none).follow (grantSchema .permit) [true, false] Sample.raceSchedule).map
      (fun st => ((st.db.permissionTargets.filter (·.names (some taskClaimCommand) .task none)).length,
        (st.calls true).reply, (st.calls false).reply)) =
        some (2, some (.assignment ⟨11, 1, 10, .permit, .execute⟩), some (.assignment ⟨13, 1, 12, .permit, .execute⟩)) := by
    decide +kernel
  obtain ⟨st, hst, hfacts⟩ := Option.map_eq_some_iff.1 hrun
  simp only [Prod.mk.injEq, Call.reply_eq_some] at hfacts
  obtain ⟨htargets, hfirst, hsecond⟩ := hfacts
  refine ⟨Sample.granteeDb_constraints, st, Sample.follow_interleaves hst, htargets, hfirst, hsecond, ?_⟩
  intro c reply _ hmet
  cases reply with
  | group => exact hmet
  | assignment row =>
    obtain ⟨principal, target, -, hone, -⟩ := hmet
    have hlength := congrArg List.length hone
    have hnormalized : normalizeResourceComponent (some taskClaimCommand) = some taskClaimCommand := by decide
    rw [hnormalized, Option.map_none, htargets] at hlength
    simp at hlength

end
end M8flowCore
