import M8flowCore.PotentialOwners
/-!
# What a role grants

A role of a tenant is a group whose identifier joins both names, with one grant
for each command of the role. Setting it up finds or adds every row, so that a
second call finds all of them. Who is in the group and has no other permission may
do what the role's grants match, where the group's identifier applies.
-/
open M8flowCore.Lib M8flowCore.Session

namespace M8flowCore

/-- The role of a tenant, with the role's commands. -/
structure RoleCall where
  tenantId : TenantId
  roleName : String
  commandKeys : List String
  known : v1BasicRoleCommandKeys.find? (·.1 == roleName) = some (roleName, commandKeys)

namespace RoleCall
variable (c : RoleCall)

def identifier : String := tenantRoleGroupIdentifier c.tenantId c.roleName

/-- The tenant that the role's grants name. -/
def resource : String := strip (roleTenantComponent c.tenantId c.roleName)

/-- The assignment is one of the role's own. -/
def Grants (db : Db) (a : PermissionAssignment) : Prop :=
  a.grantType = .permit ∧ ∃ t spec, db.permissionTargets.find? (·.id == a.permissionTargetId) = some t ∧
    spec.commandKey ∈ c.commandKeys ∧ authorizationSpecForCommandKey spec.commandKey = some spec ∧ a.permission = spec.permission ∧
    t.command = some spec.commandKey ∧ t.resourceType = .tenant ∧ t.resourceId = some c.resource

end RoleCall

/-- What the table of roles promises of a role's name and commands. -/
theorem role_table : ∀ role ∈ v1BasicRoleCommandKeys, strip role.1 = role.1 ∧ role.2 ≠ [] ∧ ∀ key ∈ role.2,
    (authorizationSpecForCommandKey key).any (fun spec => spec.commandKey == key &&
      normalizeResourceComponent (some key) == some key) = true := by
  decide

namespace RoleCall
variable (c : RoleCall)

theorem mem_table : (c.roleName, c.commandKeys) ∈ v1BasicRoleCommandKeys := List.mem_of_find?_eq_some c.known

theorem spec_of_mem {key : String} (h : key ∈ c.commandKeys) : ∃ spec, authorizationSpecForCommandKey key = some spec ∧
    spec.commandKey = key ∧ normalizeResourceComponent (some key) = some key := by
  have hkey := (role_table _ c.mem_table).2.2 key h
  obtain ⟨spec, hspec, hboth⟩ := (Option.any_eq_true _ _).1 hkey
  obtain ⟨hname, hnormal⟩ := Bool.and_eq_true _ _ ▸ hboth
  exact ⟨spec, hspec, by simpa using hname, by simpa using hnormal⟩

end RoleCall

/-- The group that is found for a role: by its identifier, and else by the key it
was created with. -/
def Db.roleGroup? (db : Db) (identifier : String) : Option Group :=
  (db.groups.find? (·.identifier == some identifier)).or (db.groups.find? (·.authorizationKey == some s!"authorization:{identifier}"))

section
variable {Ω ρ : Type}

/-! ## Finding or adding a row -/

theorem getOrCreate_found {lookup : Db → Option ρ} (add : Nat → Db → Db) {s : Tx Ω} {row : ρ} (h : lookup s.view = some row) :
    (getOrCreate lookup add).run s = (.ok row, s) := by
  unfold getOrCreate query
  rw [Prog.gets_bind_run, h]
  rfl

theorem getOrCreate_added {lookup : Db → Option ρ} {add : Nat → Db → Db} {s : Tx Ω} {row : ρ} (hnone : lookup s.view = none)
    (h : lookup (add s.seq s.view) = some row) :
    (getOrCreate lookup add).run s = (.ok row, { s with seq := s.seq + 1, view := add s.seq s.view }) := by
  unfold getOrCreate query
  rw [Prog.gets_bind_run, hnone]
  simp [Session.insert, nextId, write, Prog.bind_run, h]

/-- The row is there, or it is added under the next id. -/
theorem getOrCreate_run (lookup : Db → Option ρ) (add : Nat → Db → Db) (s : Tx Ω) (hadd : (lookup (add s.seq s.view)).isSome = true) :
    ∃ row s', (getOrCreate lookup add).run s = (.ok row, s') ∧ lookup s'.view = some row ∧
      (s' = s ∨ (lookup s.view = none ∧ s' = { s with seq := s.seq + 1, view := add s.seq s.view })) := by
  cases hfound : lookup s.view with
  | some row => exact ⟨row, s, getOrCreate_found add hfound, hfound, .inl rfl⟩
  | none =>
    obtain ⟨row, hrow⟩ := Option.isSome_iff_exists.1 hadd
    exact ⟨row, _, getOrCreate_added hfound hrow, hrow, .inr ⟨rfl, rfl⟩⟩

theorem findOrCreateGroup_found {identifier : String} (name : Option String) {s : Tx Ω} {g : Group}
    (h : s.view.roleGroup? identifier = some g) : (findOrCreateGroup identifier name).run s = (.ok g, s) := by
  unfold findOrCreateGroup query
  rw [Prog.gets_bind_run]
  dsimp only
  unfold Db.roleGroup? at h
  cases hfound : s.view.groups.find? (·.identifier == some identifier) with
  | some g' =>
    rw [hfound] at h
    cases h
    rfl
  | none =>
    rw [hfound, Option.none_or] at h
    exact getOrCreate_found _ h

/-- A group is added only where none is found for the role. -/
theorem findOrCreateGroup_run (identifier : String) (name : Option String) (s : Tx Ω) :
    ∃ g s', (findOrCreateGroup identifier name).run s = (.ok g, s') ∧ s'.view.roleGroup? identifier = some g ∧
      (s' = s ∨ (s.view.roleGroup? identifier = none ∧ g.id = s.seq ∧ g.identifier = some identifier ∧
        s' = { s with seq := s.seq + 1, view := { s.view with groups := s.view.groups ++ [g] } })) := by
  cases hfound : s.view.roleGroup? identifier with
  | some g => exact ⟨g, s, findOrCreateGroup_found name hfound, hfound, .inl rfl⟩
  | none =>
    obtain ⟨hname, hkey⟩ := Option.or_eq_none_iff.1 hfound
    set g : Group := ⟨s.seq, some ((name.filter (· != "")).getD identifier), some identifier, some s!"authorization:{identifier}"⟩ with hg
    refine ⟨g, { s with seq := s.seq + 1, view := { s.view with groups := s.view.groups ++ [g] } }, ?_, ?_, .inr ⟨rfl, rfl, rfl, rfl⟩⟩
    · unfold findOrCreateGroup query
      rw [Prog.gets_bind_run]
      dsimp only
      rw [hname]
      have hnew : (s.view.groups ++ [g]).find? (·.authorizationKey == some s!"authorization:{identifier}") = some g := by
        rw [List.find?_append, hkey]
        simp [hg]
      exact getOrCreate_added hkey hnew
    · unfold Db.roleGroup?
      dsimp only
      rw [List.find?_append, hname]
      simp [hg]

/-! ## What is written, and what stays -/

/-- `db'` has the rows of `db`, and maybe more memberships, principals, targets
and assignments after them. -/
structure Db.Extends (db db' : Db) : Prop where
  users : db'.users = db.users
  tenants : db'.tenants = db.tenants
  groups : db'.groups = db.groups
  memberships : db.userGroupAssignments <+: db'.userGroupAssignments
  principals : db.principals <+: db'.principals
  targets : db.permissionTargets <+: db'.permissionTargets
  assignments : db.permissionAssignments <+: db'.permissionAssignments

theorem Db.Extends.refl (db : Db) : db.Extends db :=
  ⟨rfl, rfl, rfl, List.prefix_rfl, List.prefix_rfl, List.prefix_rfl, List.prefix_rfl⟩

theorem Db.Extends.trans {a b c : Db} (h : a.Extends b) (h' : b.Extends c) : a.Extends c :=
  ⟨h'.users.trans h.users, h'.tenants.trans h.tenants, h'.groups.trans h.groups, h.memberships.trans h'.memberships,
    h.principals.trans h'.principals, h.targets.trans h'.targets, h.assignments.trans h'.assignments⟩

theorem find?_of_initial {α : Type} {p : α → Bool} {l l' : List α} {x : α} (h : l <+: l') (hfound : l.find? p = some x) :
    l'.find? p = some x := by
  obtain ⟨rest, rfl⟩ := h
  rw [List.find?_append, hfound]
  rfl

theorem RoleCall.Grants.extends {c : RoleCall} {db db' : Db} (h : db.Extends db') {a : PermissionAssignment} (hgrants : c.Grants db a) :
    c.Grants db' a := by
  obtain ⟨hpermit, t, spec, ht, hrest⟩ := hgrants
  exact ⟨hpermit, t, spec, find?_of_initial h.targets ht, hrest⟩

/-- The keys that the database hands out and checks, as far as roles rely on them:
ids are unique and new ones unused, and a principal is of a user or of a group. -/
structure PermissionKeys (s : Tx Ω) : Prop where
  groups_nodup : (s.view.groups.map (·.id)).Nodup
  principals_nodup : (s.view.principals.map (·.id)).Nodup
  principals_old : ∀ p ∈ s.view.principals, p.id < s.seq
  either : ∀ p ∈ s.view.principals, p.userId = none ∨ p.groupId = none
  targets_nodup : (s.view.permissionTargets.map (·.id)).Nodup
  targets_old : ∀ t ∈ s.view.permissionTargets, t.id < s.seq
  assignments_old : ∀ a ∈ s.view.permissionAssignments, a.principalId < s.seq

/-- Whatever is granted to the user, or to a group of theirs, is granted by the
role's own assignments to its group. -/
def RoleCall.Alone (c : RoleCall) (groupId : Option Nat) (u : Nat) (db : Db) : Prop :=
  ∀ a ∈ db.permissionAssignments, ∀ p ∈ db.principals, p.id = a.principalId → p.userId ≠ some u ∧
    ∀ gid, p.groupId = some gid → (db.InGroup u gid ∨ groupId = some gid) → groupId = some gid ∧ c.Grants db a

/-- The role's group is there, and besides it nothing grants the user anything. -/
structure RoleCall.Stage (c : RoleCall) (g : Group) (u : Nat) (s : Tx Ω) : Prop where
  keys : PermissionKeys s
  group : s.view.roleGroup? c.identifier = some g
  alone : c.Alone (some g.id) u s.view

theorem nodup_append_fresh {ρ : Type} {id : ρ → Nat} {rows : List ρ} {row : ρ} (hnodup : (rows.map id).Nodup)
    (hold : ∀ r ∈ rows, id r < id row) : ((rows ++ [row]).map id).Nodup := by
  rw [List.map_append]
  refine List.nodup_append'.2 ⟨hnodup, by simp, fun x hx hrow => ?_⟩
  obtain ⟨r, hr, rfl⟩ := List.mem_map.1 hx
  obtain hsame : id r = id row := by simpa using hrow
  exact absurd hsame (hold r hr).ne

theorem find?_of_mem_nodup {ρ : Type} {id : ρ → Nat} {rows : List ρ} {row : ρ} (hnodup : (rows.map id).Nodup) (h : row ∈ rows) :
    rows.find? (id · == id row) = some row := by
  cases hfound : rows.find? (id · == id row) with
  | none =>
    have hnot := List.find?_eq_none.1 hfound row h
    simp at hnot
  | some r =>
    have hid : id r = id row := by simpa using List.find?_some hfound
    rw [List.inj_on_of_nodup_map hnodup (List.mem_of_find?_eq_some hfound) h hid]

namespace RoleCall
variable {c : RoleCall} {g : Group} {u : Nat} {s : Tx Ω}

theorem Stage.addUserToGroup_run (h : c.Stage g u s) (v : Nat) :
    ∃ row s', (addUserToGroup v c.identifier (some c.roleName)).run s = (.ok row, s') ∧ c.Stage g u s' ∧ s.view.Extends s'.view ∧
      s'.view.userGroupAssignments.find? (fun a => a.userId == v && a.groupId == g.id) = some row := by
  obtain ⟨row, s', hrun, hfound, hs'⟩ := getOrCreate_run (fun db =>
      db.userGroupAssignments.find? fun a => a.userId == v && a.groupId == g.id) (fun id db =>
      { db with userGroupAssignments := db.userGroupAssignments ++ [{ id := id, userId := v, groupId := g.id }] }) s
    (find?_append_singleton_isSome (by simp))
  refine ⟨row, s', (Prog.bind_run_ok (findOrCreateGroup_found _ h.group)).trans hrun, ?_⟩
  rcases hs' with rfl | ⟨-, rfl⟩
  · exact ⟨h, .refl _, hfound⟩
  · refine ⟨⟨?_, h.group, fun a ha p hp hid => ?_⟩, ?_, hfound⟩
    · exact ⟨h.keys.groups_nodup, h.keys.principals_nodup, fun p hp => Nat.lt_succ_of_lt (h.keys.principals_old p hp), h.keys.either,
        h.keys.targets_nodup, fun t ht => Nat.lt_succ_of_lt (h.keys.targets_old t ht),
        fun a ha => Nat.lt_succ_of_lt (h.keys.assignments_old a ha)⟩
    · obtain ⟨huser, hgroup⟩ := h.alone a ha p hp hid
      refine ⟨huser, fun gid hgid hin => hgroup gid hgid ?_⟩
      rcases hin with ⟨m, hm, hmu, hmg⟩ | hin
      · rcases List.mem_append.1 hm with hm | hm
        · exact .inl ⟨m, hm, hmu, hmg⟩
        · obtain rfl := List.mem_singleton.1 hm
          exact .inr (congrArg some hmg)
      · exact .inr hin
    · exact ⟨rfl, rfl, rfl, List.prefix_append _ _, List.prefix_rfl, List.prefix_rfl, List.prefix_rfl⟩

theorem Stage.principal_run (h : c.Stage g u s) :
    ∃ p s', (findOrCreatePrincipalForGroup g.id).run s = (.ok p, s') ∧ c.Stage g u s' ∧ s.view.Extends s'.view ∧
      s'.view.principals.find? (·.groupId == some g.id) = some p := by
  obtain ⟨p, s', hrun, hfound, hs'⟩ := getOrCreate_run (fun db => db.principals.find? (·.groupId == some g.id))
    (fun id db => { db with principals := db.principals ++ [{ id := id, userId := none, groupId := some g.id }] }) s
    (find?_append_singleton_isSome (by simp))
  refine ⟨p, s', hrun, ?_⟩
  rcases hs' with rfl | ⟨-, rfl⟩
  · exact ⟨h, .refl _, hfound⟩
  · refine ⟨⟨⟨h.keys.groups_nodup, nodup_append_fresh h.keys.principals_nodup h.keys.principals_old, fun p hp => ?_, fun p hp => ?_,
      h.keys.targets_nodup, fun t ht => Nat.lt_succ_of_lt (h.keys.targets_old t ht),
      fun a ha => Nat.lt_succ_of_lt (h.keys.assignments_old a ha)⟩, h.group, fun a ha p hp hid => ?_⟩, ?_, hfound⟩
    · rcases List.mem_append.1 hp with hp | hp
      · exact Nat.lt_succ_of_lt (h.keys.principals_old p hp)
      · rw [List.mem_singleton.1 hp]
        exact Nat.lt_succ_self _
    · rcases List.mem_append.1 hp with hp | hp
      · exact h.keys.either p hp
      · rw [List.mem_singleton.1 hp]
        exact .inl rfl
    · rcases List.mem_append.1 hp with hp | hp
      · exact h.alone a ha p hp hid
      · -- nothing is granted yet under the new id
        rw [List.mem_singleton.1 hp] at hid
        exact absurd hid.symm (h.keys.assignments_old a ha).ne
    · exact ⟨rfl, rfl, rfl, List.prefix_rfl, List.prefix_append _ _, List.prefix_rfl, List.prefix_rfl⟩

theorem target_eq (hresource : c.resource ≠ "") {key : String} (hkey : key ∈ c.commandKeys) :
    (findOrCreatePermissionTarget (some key) .tenant (some (roleTenantComponent c.tenantId c.roleName)) : M Ω _) =
      getOrCreate (fun db => db.permissionTargets.find? (·.names (some key) .tenant (some c.resource))) fun id db =>
        { db with permissionTargets := db.permissionTargets ++
            [{ id := id, command := some key, resourceType := .tenant, resourceId := some c.resource }] } := by
  obtain ⟨spec, -, -, hnormal⟩ := c.spec_of_mem hkey
  have hblank : (some c.resource == some "") = false := by simpa using hresource
  unfold findOrCreatePermissionTarget
  rw [hnormal, Option.map_some]
  change (if (some c.resource == some "") = true then _ else _) = _
  rw [hblank]
  rfl

theorem Stage.target_run (h : c.Stage g u s) (hresource : c.resource ≠ "") {key : String} (hkey : key ∈ c.commandKeys) :
    ∃ t s', (findOrCreatePermissionTarget (some key) .tenant (some (roleTenantComponent c.tenantId c.roleName))).run s = (.ok t, s') ∧
      c.Stage g u s' ∧ s.view.Extends s'.view ∧ s'.view.permissionTargets.find? (·.names (some key) .tenant (some c.resource)) = some t := by
  rw [target_eq hresource hkey]
  obtain ⟨t, s', hrun, hfound, hs'⟩ := getOrCreate_run
    (fun db => db.permissionTargets.find? (·.names (some key) .tenant (some c.resource))) (fun id db =>
      { db with permissionTargets := db.permissionTargets ++
          [{ id := id, command := some key, resourceType := .tenant, resourceId := some c.resource }] }) s
    (find?_append_singleton_isSome (by simp [PermissionTarget.names]))
  refine ⟨t, s', hrun, ?_⟩
  rcases hs' with rfl | ⟨-, rfl⟩
  · exact ⟨h, .refl _, hfound⟩
  · have hextends : s.view.Extends { s.view with permissionTargets := s.view.permissionTargets ++
        [{ id := s.seq, command := some key, resourceType := .tenant, resourceId := some c.resource }] } :=
      ⟨rfl, rfl, rfl, List.prefix_rfl, List.prefix_rfl, List.prefix_append _ _, List.prefix_rfl⟩
    refine ⟨⟨⟨h.keys.groups_nodup, h.keys.principals_nodup, fun p hp => Nat.lt_succ_of_lt (h.keys.principals_old p hp), h.keys.either,
      nodup_append_fresh h.keys.targets_nodup h.keys.targets_old, fun t ht => ?_,
      fun a ha => Nat.lt_succ_of_lt (h.keys.assignments_old a ha)⟩, h.group, fun a ha p hp hid => ?_⟩, hextends, hfound⟩
    · rcases List.mem_append.1 ht with ht | ht
      · exact Nat.lt_succ_of_lt (h.keys.targets_old t ht)
      · rw [List.mem_singleton.1 ht]
        exact Nat.lt_succ_self _
    · obtain ⟨huser, hgroup⟩ := h.alone a ha p hp hid
      refine ⟨huser, fun gid hgid hin => ?_⟩
      obtain ⟨hsame, hgrants⟩ := hgroup gid hgid hin
      exact ⟨hsame, hgrants.extends hextends⟩

theorem Stage.assignment_run (h : c.Stage g u s) {p : Principal} {t : PermissionTarget} {spec : CommandAuthorizationSpec}
    (hp : s.view.principals.find? (·.groupId == some g.id) = some p)
    (ht : s.view.permissionTargets.find? (·.names (some spec.commandKey) .tenant (some c.resource)) = some t)
    (hspec : authorizationSpecForCommandKey spec.commandKey = some spec) (hkey : spec.commandKey ∈ c.commandKeys) :
    ∃ a s', (findOrCreatePermissionAssignment p.id t.id spec.permission .permit).run s = (.ok a, s') ∧ c.Stage g u s' ∧
      s.view.Extends s'.view ∧ a.grantType = .permit ∧
      s'.view.permissionAssignments.find? (fun a => a.principalId == p.id && a.permissionTargetId == t.id && a.permission == spec.permission) =
        some a := by
  have hpmem := List.mem_of_find?_eq_some hp
  have hpgroup : p.groupId = some g.id := by simpa using List.find?_some hp
  have hpuser : p.userId = none := (h.keys.either p hpmem).resolve_right (by simp [hpgroup])
  have htmem := List.mem_of_find?_eq_some ht
  have htnames : t.resourceType = .tenant ∧ t.resourceId = some c.resource ∧ t.command = some spec.commandKey := by
    simpa [PermissionTarget.names, and_assoc] using List.find?_some ht
  obtain ⟨a, s', hrun, hfound, hs'⟩ := getOrCreate_run (fun db => db.permissionAssignments.find? fun a =>
      a.principalId == p.id && a.permissionTargetId == t.id && a.permission == spec.permission) (fun id db =>
      { db with permissionAssignments := db.permissionAssignments ++ [⟨id, p.id, t.id, .permit, spec.permission⟩] }) s
    (find?_append_singleton_isSome (by simp))
  have hstage : c.Stage g u s' ∧ s.view.Extends s'.view := by
    rcases hs' with rfl | ⟨-, rfl⟩
    · exact ⟨h, .refl _⟩
    · have hextends : s.view.Extends { s.view with permissionAssignments := s.view.permissionAssignments ++
          [⟨s.seq, p.id, t.id, .permit, spec.permission⟩] } :=
        ⟨rfl, rfl, rfl, List.prefix_rfl, List.prefix_rfl, List.prefix_rfl, List.prefix_append _ _⟩
      refine ⟨⟨⟨h.keys.groups_nodup, h.keys.principals_nodup, fun p hp => Nat.lt_succ_of_lt (h.keys.principals_old p hp), h.keys.either,
        h.keys.targets_nodup, fun t ht => Nat.lt_succ_of_lt (h.keys.targets_old t ht), fun b hb => ?_⟩, h.group,
        fun b hb q hq hid => ?_⟩, hextends⟩
      · rcases List.mem_append.1 hb with hb | hb
        · exact Nat.lt_succ_of_lt (h.keys.assignments_old b hb)
        · rw [List.mem_singleton.1 hb]
          exact Nat.lt_succ_of_lt (h.keys.principals_old p hpmem)
      · rcases List.mem_append.1 hb with hb | hb
        · obtain ⟨huser, hgroup⟩ := h.alone b hb q hq hid
          refine ⟨huser, fun gid hgid hin => ?_⟩
          obtain ⟨hsame, hgrants⟩ := hgroup gid hgid hin
          exact ⟨hsame, hgrants.extends hextends⟩
        · -- the new assignment is the role's own
          obtain rfl := List.mem_singleton.1 hb
          obtain rfl : q = p := List.inj_on_of_nodup_map h.keys.principals_nodup hq hpmem hid
          refine ⟨by simp [hpuser], fun gid hgid _ => ⟨hpgroup.symm.trans hgid, rfl, t, spec, ?_, hkey, hspec, rfl, htnames.2.2,
            htnames.1, htnames.2.1⟩⟩
          exact find?_of_mem_nodup h.keys.targets_nodup htmem
  obtain ⟨hstage, hextends⟩ := hstage
  -- an assignment that was there before grants the command as well
  have hpermit : a.grantType = .permit := by
    have hkeyed := List.find?_some hfound
    simp only [Bool.and_eq_true, beq_iff_eq] at hkeyed
    have hpmem' := hextends.principals.subset hpmem
    exact ((hstage.alone a (List.mem_of_find?_eq_some hfound) p hpmem' hkeyed.1.1.symm).2 g.id hpgroup (.inr rfl)).2.1
  refine ⟨a, s', ?_, hstage, hextends, hpermit, hfound⟩
  unfold findOrCreatePermissionAssignment
  rw [Prog.bind_run_ok hrun, hpermit]
  rfl

/-! ## A call -/

variable (c g) in
/-- The group has the permission for a command of the role. -/
def Granted (key : String) (db : Db) : Prop :=
  ∃ spec p t a, authorizationSpecForCommandKey key = some spec ∧ spec.commandKey = key ∧
    db.principals.find? (·.groupId == some g.id) = some p ∧
    db.permissionTargets.find? (·.names (some key) .tenant (some c.resource)) = some t ∧
    db.permissionAssignments.find? (fun a => a.principalId == p.id && a.permissionTargetId == t.id && a.permission == spec.permission) =
      some a ∧ a.grantType = .permit

theorem Granted.extends {key : String} {db db' : Db} (h : db.Extends db') (hgranted : c.Granted g key db) : c.Granted g key db' := by
  obtain ⟨spec, p, t, a, hspec, hname, hp, ht, ha, hpermit⟩ := hgranted
  exact ⟨spec, p, t, a, hspec, hname, find?_of_initial h.principals hp, find?_of_initial h.targets ht, find?_of_initial h.assignments ha,
    hpermit⟩

theorem Stage.grant_run (h : c.Stage g u s) (hresource : c.resource ≠ "") {key : String} (hkey : key ∈ c.commandKeys) :
    ∃ s', (do
        let spec ← Prog.orRaise (.other "KeyError" s!"Unknown command key: {key}") (authorizationSpecForCommandKey key)
        let _ ← grantPermissionToGroup c.identifier spec.permission (some spec.commandKey) .tenant
          (some (String.ofList (partition ':' c.identifier.toList).1)) .permit (some c.roleName) : M Ω Unit).run s = (.ok (), s') ∧
      c.Stage g u s' ∧ s.view.Extends s'.view ∧ c.Granted g key s'.view := by
  obtain ⟨spec, hspec, rfl, -⟩ := c.spec_of_mem hkey
  obtain ⟨p, s₁, hrun₁, hstage₁, hextends₁, hp⟩ := h.principal_run
  obtain ⟨t, s₂, hrun₂, hstage₂, hextends₂, ht⟩ := hstage₁.target_run hresource hkey
  obtain ⟨a, s', hrun₃, hstage₃, hextends₃, hpermit, ha⟩ :=
    hstage₂.assignment_run (find?_of_initial hextends₂.principals hp) ht hspec hkey
  refine ⟨s', ?_, hstage₃, (hextends₁.trans hextends₂).trans hextends₃, spec, p, t, a, hspec, rfl,
    find?_of_initial (hextends₂.trans hextends₃).principals hp, find?_of_initial hextends₃.targets ht, ha, hpermit⟩
  have hgrant : (grantPermissionToGroup c.identifier spec.permission (some spec.commandKey) .tenant
      (some (roleTenantComponent c.tenantId c.roleName)) .permit (some c.roleName)).run s = (.ok a, s') := by
    unfold grantPermissionToGroup
    rw [Prog.bind_run_ok (findOrCreateGroup_found _ h.group), Prog.bind_run_ok hrun₁, Prog.bind_run_ok hrun₂, hrun₃]
  have hcomponent : String.ofList (partition ':' c.identifier.toList).1 = roleTenantComponent c.tenantId c.roleName := rfl
  rw [hspec, Prog.orRaise_some, Prog.pure_bind, hcomponent, Prog.bind_run_ok hgrant]
  rfl

variable (c g) in
/-- Every row of the role is there. -/
structure Done (userIds : List Nat) (db : Db) : Prop where
  group : db.roleGroup? c.identifier = some g
  members : ∀ v ∈ userIds, ∃ row, db.userGroupAssignments.find? (fun a => a.userId == v && a.groupId == g.id) = some row
  grants : ∀ key ∈ c.commandKeys, c.Granted g key db

theorem extends_frame : Prog.Frame fun s s' : Tx Ω => s.view.Extends s'.view := ⟨fun s => .refl s.view, fun h h' => h.trans h'⟩

theorem Stage.members_run (h : c.Stage g u s) (userIds : List Nat) :
    ∃ s', (Prog.forEach userIds fun v => do let _ ← addUserToGroup v c.identifier (some c.roleName) : M Ω Unit).run s = (.ok (), s') ∧
      c.Stage g u s' ∧ s.view.Extends s'.view ∧
      ∀ v ∈ userIds, ∃ row, s'.view.userGroupAssignments.find? (fun a => a.userId == v && a.groupId == g.id) = some row := by
  refine Prog.forEach_each (P := c.Stage g u) extends_frame
    (F := fun v s => ∃ row, s.view.userGroupAssignments.find? (fun a => a.userId == v && a.groupId == g.id) = some row) ?_ ?_ s h
  · rintro v s s' hextends ⟨row, hrow⟩
    exact ⟨row, find?_of_initial hextends.memberships hrow⟩
  · intro v _ s hs
    obtain ⟨row, s', hrun, hstage, hextends, hrow⟩ := hs.addUserToGroup_run v
    exact ⟨s', Prog.bind_run_ok hrun, hstage, hextends, row, hrow⟩

theorem Stage.grants_run (h : c.Stage g u s) (hresource : c.resource ≠ "") :
    ∃ s', (grantCommandPermissionsToGroup c.identifier c.commandKeys .permit (some c.roleName)).run s = (.ok (), s') ∧
      c.Stage g u s' ∧ s.view.Extends s'.view ∧ ∀ key ∈ c.commandKeys, c.Granted g key s'.view := by
  refine Prog.forEach_each (P := c.Stage g u) extends_frame (F := fun key s => c.Granted g key s.view) ?_ ?_ s h
  · exact fun key s s' hextends hgranted => hgranted.extends hextends
  · exact fun key hkey s hs => hs.grant_run hresource hkey

variable (c) in
/-- A call finds the role's group, adds the members and grants the commands. -/
theorem ensureV1Role_eq (userIds : List Nat) : (ensureV1Role c.tenantId c.roleName userIds : M Ω Group) = (do
    let group ← findOrCreateGroup c.identifier (some c.roleName)
    Prog.forEach userIds fun v => do
      let _ ← addUserToGroup v c.identifier (some c.roleName)
    grantCommandPermissionsToGroup c.identifier c.commandKeys .permit (some c.roleName)
    pure group) := by
  unfold ensureV1Role
  rw [c.known]
  rfl

/-- Setting the role up, once its group is there. -/
theorem Stage.ensureV1Role_run (h : c.Stage g u s) (hresource : c.resource ≠ "") (userIds : List Nat) :
    ∃ s', (ensureV1Role c.tenantId c.roleName userIds).run s = (.ok g, s') ∧ c.Stage g u s' ∧ s.view.Extends s'.view ∧
      c.Done g userIds s'.view := by
  obtain ⟨s₁, hrun₁, hstage₁, hextends₁, hmembers⟩ := h.members_run userIds
  obtain ⟨s', hrun', hstage', hextends', hgrants⟩ := hstage₁.grants_run hresource
  refine ⟨s', ?_, hstage', hextends₁.trans hextends', hstage'.group, fun v hv => ?_, hgrants⟩
  · rw [ensureV1Role_eq, Prog.bind_run_ok (findOrCreateGroup_found (some c.roleName) h.group), Prog.bind_run_ok hrun₁,
      Prog.bind_run_ok hrun']
    rfl
  · obtain ⟨row, hrow⟩ := hmembers v hv
    exact ⟨row, find?_of_initial hextends'.memberships hrow⟩

/-! ## A second call -/

theorem Done.member_idle {userIds : List Nat} (h : c.Done g userIds s.view) {v : Nat} (hv : v ∈ userIds) :
    (do let _ ← addUserToGroup v c.identifier (some c.roleName) : M Ω Unit).run s = (.ok (), s) := by
  obtain ⟨row, hrow⟩ := h.members v hv
  have hrun : (addUserToGroup v c.identifier (some c.roleName)).run s = (.ok row, s) :=
    (Prog.bind_run_ok (findOrCreateGroup_found _ h.group)).trans (getOrCreate_found _ hrow)
  rw [Prog.bind_run_ok hrun]
  rfl

theorem Done.grant_idle {userIds : List Nat} (h : c.Done g userIds s.view) (hresource : c.resource ≠ "") {key : String}
    (hkey : key ∈ c.commandKeys) : (do
        let spec ← Prog.orRaise (.other "KeyError" s!"Unknown command key: {key}") (authorizationSpecForCommandKey key)
        let _ ← grantPermissionToGroup c.identifier spec.permission (some spec.commandKey) .tenant
          (some (String.ofList (partition ':' c.identifier.toList).1)) .permit (some c.roleName) : M Ω Unit).run s = (.ok (), s) := by
  obtain ⟨spec, p, t, a, hspec, rfl, hp, ht, ha, hpermit⟩ := h.grants key hkey
  have hassignment : (findOrCreatePermissionAssignment p.id t.id spec.permission .permit).run s = (.ok a, s) := by
    unfold findOrCreatePermissionAssignment
    rw [Prog.bind_run_ok (getOrCreate_found _ ha), hpermit]
    rfl
  have htarget : (findOrCreatePermissionTarget (some spec.commandKey) .tenant (some (roleTenantComponent c.tenantId c.roleName))).run s =
      (.ok t, s) := by
    rw [target_eq hresource hkey]
    exact getOrCreate_found _ ht
  have hprincipal : (findOrCreatePrincipalForGroup g.id).run s = (.ok p, s) := getOrCreate_found _ hp
  have hgrant : (grantPermissionToGroup c.identifier spec.permission (some spec.commandKey) .tenant
      (some (roleTenantComponent c.tenantId c.roleName)) .permit (some c.roleName)).run s = (.ok a, s) := by
    unfold grantPermissionToGroup
    rw [Prog.bind_run_ok (findOrCreateGroup_found _ h.group), Prog.bind_run_ok hprincipal, Prog.bind_run_ok htarget, hassignment]
  have hcomponent : String.ofList (partition ':' c.identifier.toList).1 = roleTenantComponent c.tenantId c.roleName := rfl
  rw [hspec, Prog.orRaise_some, Prog.pure_bind, hcomponent, Prog.bind_run_ok hgrant]
  rfl

/-- Where every row is there, a call changes none. -/
theorem Done.ensureV1Role_idle {userIds : List Nat} (h : c.Done g userIds s.view) (hresource : c.resource ≠ "") :
    (ensureV1Role c.tenantId c.roleName userIds).run s = (.ok g, s) := by
  have hmembers : (Prog.forEach userIds fun v => do let _ ← addUserToGroup v c.identifier (some c.roleName) : M Ω Unit).run s = (.ok (), s) :=
    Prog.forEach_idle fun v hv => h.member_idle hv
  have hgrants : (grantCommandPermissionsToGroup c.identifier c.commandKeys .permit (some c.roleName)).run s = (.ok (), s) :=
    Prog.forEach_idle fun key hkey => h.grant_idle hresource hkey
  rw [ensureV1Role_eq, Prog.bind_run_ok (findOrCreateGroup_found (some c.roleName) h.group), Prog.bind_run_ok hmembers,
    Prog.bind_run_ok hgrants]
  rfl

/-! ## The first step -/

end RoleCall

/-- No row names the next id as a group. -/
structure NextGroupFree (s : Tx Ω) : Prop where
  groups : ∀ g ∈ s.view.groups, g.id ≠ s.seq
  principals : ∀ p ∈ s.view.principals, p.groupId ≠ some s.seq

namespace RoleCall
variable {c : RoleCall} {g : Group} {u : Nat} {s : Tx Ω}

theorem stage_of_alone (hkeys : PermissionKeys s) (hfree : NextGroupFree s)
    (halone : c.Alone ((s.view.roleGroup? c.identifier).map Group.id) u s.view) :
    ∃ g s₁, (findOrCreateGroup c.identifier (some c.roleName)).run s = (.ok g, s₁) ∧ c.Stage g u s₁ ∧ s₁.view.users = s.view.users ∧
      s₁.view.tenants = s.view.tenants ∧
      ((s.view.roleGroup? c.identifier = none ∧ g.identifier = some c.identifier) ∨ s.view.roleGroup? c.identifier = some g) := by
  obtain ⟨g, s₁, hrun, hfound, rfl | ⟨hnone, hid, hidentifier, rfl⟩⟩ := findOrCreateGroup_run c.identifier (some c.roleName) s
  · rw [hfound] at halone
    exact ⟨g, s₁, hrun, ⟨hkeys, hfound, halone⟩, rfl, rfl, .inr hfound⟩
  · refine ⟨g, _, hrun, ⟨⟨?_, hkeys.principals_nodup, fun p hp => Nat.lt_succ_of_lt (hkeys.principals_old p hp), hkeys.either,
      hkeys.targets_nodup, fun t ht => Nat.lt_succ_of_lt (hkeys.targets_old t ht),
      fun a ha => Nat.lt_succ_of_lt (hkeys.assignments_old a ha)⟩, hfound, fun a ha p hp hid' => ?_⟩, rfl, rfl, .inl ⟨hnone, hidentifier⟩⟩
    · dsimp only
      rw [List.map_append]
      refine List.nodup_append'.2 ⟨hkeys.groups_nodup, by simp, fun id hin hnew => ?_⟩
      obtain ⟨g', hg', rfl⟩ := List.mem_map.1 hin
      obtain hsame : g'.id = g.id := by simpa using hnew
      exact hfree.groups g' hg' (hsame.trans hid)
    · rw [hnone] at halone
      obtain ⟨huser, hgroup⟩ := halone a ha p hp hid'
      refine ⟨huser, fun gid hgid hin => ?_⟩
      rcases hin with hin | hin
      · exact absurd (hgroup gid hgid (.inl hin)).1 (by simp)
      · cases hin
        exact absurd (hid ▸ hgid) (hfree.principals p hp)

end RoleCall

/-! ## What the policy allows -/

/-- The policy allows the request. -/
def Db.Allows (db : Db) (request : AuthorizationRequest) : Prop :=
  ∃ decision, databaseAuthorizationPolicy db request = .ok decision ∧ decision.allowed = true

theorem mem_permissionAssignmentsForUser {db : Db} {u : Nat} {identifiers : List String} {a : PermissionAssignment} :
    a ∈ permissionAssignmentsForUser db u identifiers ↔ a ∈ db.permissionAssignments ∧ ∃ p ∈ db.principals, p.id = a.principalId ∧
      (p.userId = some u ∨ ∃ g ∈ db.groups, p.groupId = some g.id ∧ groupIdentifierAppliesToTenant g.identifier identifiers = true ∧
        db.InGroup u g.id) := by
  unfold permissionAssignmentsForUser Db.InGroup
  simp only [List.mem_filter, List.contains_iff_mem, List.mem_map, Bool.or_eq_true, beq_iff_eq, Option.any_eq_true, Bool.and_eq_true,
    List.any_eq_true]
  refine and_congr_right fun _ => ?_
  constructor
  · rintro ⟨p, ⟨hp, huser | ⟨gid, hgid, g, ⟨hg, happlies, m, hm, hmg, hmu⟩, rfl⟩⟩, hid⟩
    · exact ⟨p, hp, hid, .inl huser⟩
    · exact ⟨p, hp, hid, .inr ⟨g, hg, hgid, happlies, m, hm, hmu, hmg⟩⟩
  · rintro ⟨p, hp, hid, huser | ⟨g, hg, hgid, happlies, m, hm, hmu, hmg⟩⟩
    · exact ⟨p, ⟨hp, .inl huser⟩, hid⟩
    · exact ⟨p, ⟨hp, .inr ⟨g.id, hgid, g, ⟨hg, happlies, m, hm, hmg, hmu⟩, rfl⟩⟩, hid⟩

/-- Where nothing is denied, a request is allowed that an assignment matches. -/
theorem Db.allows_iff {db : Db} {request : AuthorizationRequest} {user : User} (huser : db.user? request.actorUserId = some user)
    (hpermits : ∀ a ∈ permissionAssignmentsForUser db user.id (tenantIdentifiersFor db request.tenantId), a.grantType = .permit) :
    db.Allows request ↔ ∃ a ∈ permissionAssignmentsForUser db user.id (tenantIdentifiersFor db request.tenantId),
      permissionAssignmentMatchesRequest db a request = true := by
  unfold Db.Allows databaseAuthorizationPolicy
  rw [huser]
  dsimp only
  have hdeny : ((permissionAssignmentsForUser db user.id (tenantIdentifiersFor db request.tenantId)).filter
      fun a => permissionAssignmentMatchesRequest db a request).any (·.grantType == .deny) = false := by
    refine List.any_eq_false.2 fun a ha => ?_
    rw [hpermits a (List.mem_filter.1 ha).1]
    decide
  rw [hdeny]
  simp only [Bool.false_eq_true, if_false]
  split
  · rename_i hpermit
    obtain ⟨a, ha, -⟩ := List.any_eq_true.1 hpermit
    exact iff_of_true ⟨_, rfl, rfl⟩ ⟨a, List.mem_filter.1 ha⟩
  · rename_i hnone
    refine iff_of_false ?_ ?_
    · rintro ⟨decision, hdecision, hallowed⟩
      cases hdecision
      cases hallowed
    · rintro ⟨a, ha, hmatch⟩
      exact hnone (List.any_eq_true.2 ⟨a, List.mem_filter.2 ⟨ha, hmatch⟩, by rw [hpermits a ha]; decide⟩)

theorem spec_permission : ∀ spec ∈ commandAuthorizationSpecs, spec.permission ≠ .all := by
  decide

namespace RoleCall
variable {c : RoleCall} {g : Group} {u : Nat} {s : Tx Ω}

/-- A request that one of the role's assignments matches. -/
theorem Grants.matches_iff {db : Db} {a : PermissionAssignment} (h : c.Grants db a) (hresource : c.resource ≠ "")
    {request : AuthorizationRequest} : permissionAssignmentMatchesRequest db a request = true ↔ request.tenantId = c.resource ∧
      ∃ spec, authorizationSpecForCommandKey request.commandKey = some spec ∧ request.permission = spec.permission ∧
        ∃ t, db.permissionTargets.find? (·.id == a.permissionTargetId) = some t ∧ t.command = some request.commandKey ∧
          a.permission = spec.permission := by
  obtain ⟨-, t, spec, ht, hkey, hspec, hpermission, hcommand, htype, hresourceId⟩ := h
  have hnormal : normalizeResourceComponent (some c.resource) = some c.resource := by
    have hstrip : strip c.resource = c.resource := strip_strip _
    simp [normalizeResourceComponent, hstrip, hresource]
  have hall : a.permission ≠ .all := hpermission ▸ spec_permission spec (List.mem_of_find?_eq_some hspec)
  unfold permissionAssignmentMatchesRequest
  rw [ht]
  dsimp only
  rw [htype, hcommand, hresourceId, hnormal]
  simp only [Bool.and_eq_true, Bool.or_eq_true, beq_iff_eq, hall, or_false, Option.all_some, if_true, Option.some.injEq, exists_eq_left']
  constructor
  · rintro ⟨⟨hsame, hname⟩, htenant⟩
    exact ⟨htenant.symm, spec, hname ▸ hspec, hsame.symm.trans hpermission, hcommand.trans (congrArg some hname), hpermission⟩
  · rintro ⟨htenant, spec', hspec', hsame, hcommand', hpermission'⟩
    have hname := Option.some.inj (hcommand.symm.trans hcommand')
    exact ⟨⟨hpermission'.trans hsame.symm, hname⟩, htenant.symm⟩

theorem mem_of_roleGroup? {db : Db} {identifier : String} (h : db.roleGroup? identifier = some g) : g ∈ db.groups := by
  rcases Option.or_eq_some_iff.1 h with h | ⟨-, h⟩
  · exact List.mem_of_find?_eq_some h
  · exact List.mem_of_find?_eq_some h

/-- What a member of the role's group may do, where the role is set up and nothing
else is granted to them. -/
theorem Stage.allows_iff {userIds : List Nat} (h : c.Stage g u s) (hdone : c.Done g userIds s.view) (hresource : c.resource ≠ "")
    (hu : u ∈ userIds) {user : User} (huser : s.view.user? u = some user) {request : AuthorizationRequest} (hactor : request.actorUserId = u) :
    s.view.Allows request ↔ groupIdentifierAppliesToTenant g.identifier (tenantIdentifiersFor s.view request.tenantId) = true ∧
      request.tenantId = c.resource ∧ request.commandKey ∈ c.commandKeys ∧
      ∃ spec, authorizationSpecForCommandKey request.commandKey = some spec ∧ request.permission = spec.permission := by
  have hid : user.id = u := by simpa using List.find?_some huser
  have hgmem := mem_of_roleGroup? h.group
  -- whatever the user has comes from the role's group
  have hreach : ∀ a ∈ permissionAssignmentsForUser s.view user.id (tenantIdentifiersFor s.view request.tenantId), c.Grants s.view a ∧
      groupIdentifierAppliesToTenant g.identifier (tenantIdentifiersFor s.view request.tenantId) = true := by
    intro a ha
    rw [hid] at ha
    obtain ⟨ha, p, hp, hpid, hsubject⟩ := mem_permissionAssignmentsForUser.1 ha
    obtain ⟨hnot, hgroup⟩ := h.alone a ha p hp hpid
    rcases hsubject with hown | ⟨g', hg', hgid, happlies, hin⟩
    · exact absurd hown hnot
    · obtain ⟨hsame, hgrants⟩ := hgroup g'.id hgid (.inl hin)
      obtain rfl : g = g' := List.inj_on_of_nodup_map h.keys.groups_nodup hgmem hg' (Option.some.inj hsame)
      exact ⟨hgrants, happlies⟩
  rw [Db.allows_iff (hactor ▸ huser) fun a ha => (hreach a ha).1.1]
  constructor
  · rintro ⟨a, ha, hmatch⟩
    obtain ⟨hgrants, happlies⟩ := hreach a ha
    obtain ⟨htenant, spec, hspec, hpermission, t, ht, hcommand, -⟩ := (hgrants.matches_iff hresource).1 hmatch
    obtain ⟨-, t', spec', ht', hkey, -, -, hcommand', -⟩ := hgrants
    rw [ht] at ht'
    cases ht'
    have hname := Option.some.inj (hcommand.symm.trans hcommand')
    exact ⟨happlies, htenant, hname ▸ hkey, spec, hspec, hpermission⟩
  · rintro ⟨happlies, htenant, hkey, spec, hspec, hpermission⟩
    obtain ⟨spec', p, t, a, hspec', -, hp, ht, ha, hpermit⟩ := hdone.grants _ hkey
    rw [hspec] at hspec'
    cases hspec'
    obtain ⟨m, hm⟩ := hdone.members u hu
    have hin : s.view.InGroup u g.id := by
      have hkeyed := List.find?_some hm
      simp only [Bool.and_eq_true, beq_iff_eq] at hkeyed
      exact ⟨m, List.mem_of_find?_eq_some hm, hkeyed⟩
    have hpgroup : p.groupId = some g.id := by simpa using List.find?_some hp
    have hkeyed := List.find?_some ha
    simp only [Bool.and_eq_true, beq_iff_eq] at hkeyed
    have hamem : a ∈ permissionAssignmentsForUser s.view user.id (tenantIdentifiersFor s.view request.tenantId) := by
      rw [hid]
      exact mem_permissionAssignmentsForUser.2 ⟨List.mem_of_find?_eq_some ha, p, List.mem_of_find?_eq_some hp, hkeyed.1.1.symm,
        .inr ⟨g, hgmem, hpgroup, happlies, hin⟩⟩
    refine ⟨a, hamem, ((hreach a hamem).1.matches_iff hresource).2 ⟨htenant, spec, hspec, hpermission, t, ?_, ?_, hkeyed.2⟩⟩
    · rw [hkeyed.1.2]
      exact find?_of_mem_nodup h.keys.targets_nodup (List.mem_of_find?_eq_some ht)
    · have hnames := List.find?_some ht
      simp only [PermissionTarget.names, Bool.and_eq_true, beq_iff_eq] at hnames
      exact hnames.2

/-! ## Exactly its commands, in exactly its tenant -/

/-- Grants for a blank tenant are refused. -/
theorem resource_of_ok {userIds : List Nat} {s' : Tx Ω} (h : (ensureV1Role c.tenantId c.roleName userIds).run s = (.ok g, s')) :
    c.resource ≠ "" := by
  obtain ⟨key, rest, hkeys⟩ := List.exists_cons_of_ne_nil (role_table _ c.mem_table).2.1
  rw [ensureV1Role_eq] at h
  obtain ⟨_, _, -, h₁⟩ := Prog.bind_ok.1 h
  obtain ⟨_, _, -, h₂⟩ := Prog.bind_ok.1 h₁
  obtain ⟨_, _, hgrants, -⟩ := Prog.bind_ok.1 h₂
  have hkeys' : c.commandKeys = key :: rest := hkeys
  rw [grantCommandPermissionsToGroup, hkeys', Prog.forEach_cons] at hgrants
  obtain ⟨_, _, hfirst, -⟩ := Prog.bind_ok.1 hgrants
  obtain ⟨spec, _, -, h₃⟩ := Prog.bind_ok.1 hfirst
  obtain ⟨_, _, hgrant, -⟩ := Prog.bind_ok.1 h₃
  exact fun hblank => grantPermissionToGroup_ok hgrant (congrArg some hblank)

variable (c) in
/-- The grants are for the tenant itself when its id has no outer white space
and no colon, and never else. -/
theorem resource_eq_tenant : c.resource = c.tenantId ↔ strip c.tenantId = c.tenantId ∧ ':' ∉ c.tenantId.toList := by
  have hcolon : (":" : String).toList = [':'] := by decide
  have htext : (tenantRoleGroupIdentifier c.tenantId c.roleName).toList = (strip c.tenantId).toList ++ ':' :: (strip c.roleName).toList := by
    simp [tenantRoleGroupIdentifier, hcolon]
  unfold resource roleTenantComponent
  constructor
  · intro h
    have hstrip : strip c.tenantId = c.tenantId := by rw [← h, strip_strip]
    refine ⟨hstrip, fun hin => ?_⟩
    rw [← h, toList_strip, String.toList_ofList] at hin
    have hsub : trim isSpace (partition ':' (tenantRoleGroupIdentifier c.tenantId c.roleName).toList).1 ⊆
        (partition ':' (tenantRoleGroupIdentifier c.tenantId c.roleName).toList).1 :=
      ((List.rdropWhile_prefix _ _).sublist.trans (List.dropWhile_sublist _)).subset
    exact not_mem_partition (hsub hin)
  · rintro ⟨hstrip, hcolon⟩
    rw [htext, hstrip, partition_glue hcolon]
    simpa using hstrip

theorem mem_tenantIdentifiersFor {tenantId : TenantId} (hstrip : strip tenantId = tenantId) (hblank : strip tenantId ≠ "") (db : Db) :
    tenantId ∈ tenantIdentifiersFor db tenantId := by
  have hin : tenantId ∈ strippedNonBlank [some tenantId] := by
    simp [strippedNonBlank, hstrip, hstrip ▸ hblank]
  unfold tenantIdentifiersFor
  dsimp only
  split
  · exact hin
  · exact List.mem_append_left _ hin

/-- The group that a call creates applies to the tenant. -/
theorem identifier_applies (hstrip : strip c.tenantId = c.tenantId) (hcolon : ':' ∉ c.tenantId.toList) (hblank : strip c.tenantId ≠ "")
    (db : Db) : groupIdentifierAppliesToTenant (some c.identifier) (tenantIdentifiersFor db c.tenantId) = true := by
  have hname := (role_table _ c.mem_table).1
  have hchar : (":" : String).toList = [':'] := by decide
  have hidentifier : c.identifier = c.tenantId ++ ":" ++ c.roleName := by
    unfold identifier tenantRoleGroupIdentifier
    rw [hstrip, hname]
  have htrimmed : strip c.identifier = c.identifier := by
    rw [hidentifier]
    exact strip_glue hstrip hname hchar (by decide)
  have htext : c.identifier.toList = c.tenantId.toList ++ ':' :: c.roleName.toList := by
    rw [hidentifier]
    simp [hchar]
  have hne : c.identifier ≠ "" := by
    intro he
    rw [he] at htext
    simp at htext
  unfold groupIdentifierAppliesToTenant
  rw [Option.map_some, htrimmed]
  dsimp only
  rw [htext, partition_glue hcolon]
  have hown := mem_tenantIdentifiersFor hstrip hblank db
  simpa [hne] using hown

variable (c) in
/-- After a call the user may do the role's commands in the tenant on every
resource, no other command there, and nothing where the tenant's identifiers do
not include it; and a second call changes no row. -/
def Exact (userIds : List Nat) (u : Nat) (s : Tx Ω) : Prop :=
  ∃ group s', (ensureV1Role c.tenantId c.roleName userIds).run s = (.ok group, s') ∧
    (∀ key ∈ c.commandKeys, ∀ spec, authorizationSpecForCommandKey key = some spec → ∀ resourceType resourceId metadata,
      s'.view.Allows ⟨c.tenantId, u, key, spec.permission, resourceType, resourceId, metadata⟩) ∧
    (∀ request : AuthorizationRequest, request.actorUserId = u → request.tenantId = c.tenantId → request.commandKey ∉ c.commandKeys →
      ¬ s'.view.Allows request) ∧
    (∀ request : AuthorizationRequest, request.actorUserId = u → c.tenantId ∉ tenantIdentifiersFor s'.view request.tenantId →
      ¬ s'.view.Allows request) ∧
    (ensureV1Role c.tenantId c.roleName userIds).run s' = (.ok group, s')

/-- A call, from a state in which nothing else is granted to the user. -/
theorem ensureV1Role_spec (userIds : List Nat) (hresource : c.resource ≠ "") (hkeys : PermissionKeys s) (hfree : NextGroupFree s)
    (halone : c.Alone ((s.view.roleGroup? c.identifier).map Group.id) u s.view) :
    ∃ g s', (ensureV1Role c.tenantId c.roleName userIds).run s = (.ok g, s') ∧ c.Stage g u s' ∧ c.Done g userIds s'.view ∧
      s'.view.users = s.view.users ∧ s'.view.tenants = s.view.tenants ∧
      ((s.view.roleGroup? c.identifier = none ∧ g.identifier = some c.identifier) ∨ s.view.roleGroup? c.identifier = some g) := by
  obtain ⟨g, s₁, hrun₁, hstage₁, husers, htenants, hgroup⟩ := stage_of_alone hkeys hfree halone
  obtain ⟨s', hrun', hstage', hextends, hdone⟩ := hstage₁.ensureV1Role_run hresource userIds
  refine ⟨g, s', ?_, hstage', hdone, hextends.users.trans husers, hextends.tenants.trans htenants, hgroup⟩
  -- the rest of the call goes on as if its group had been there
  rw [ensureV1Role_eq, Prog.bind_run_ok (findOrCreateGroup_found (some c.roleName) hstage₁.group)] at hrun'
  rw [ensureV1Role_eq, Prog.bind_run_ok hrun₁, hrun']

variable (c) in
/-- A call grants exactly the role's commands in exactly its tenant, if and only
if the tenant's id has no outer white space and no colon, and the group that is
stored for the role, if there is one, applies to the tenant. -/
theorem role_grants_exactly {userIds : List Nat} (hblank : strip c.tenantId ≠ "") (hu : u ∈ userIds)
    (hmember : s.view.isMember c.tenantId u = true) (hkeys : PermissionKeys s) (hfree : NextGroupFree s)
    (halone : c.Alone ((s.view.roleGroup? c.identifier).map Group.id) u s.view) :
    c.Exact userIds u s ↔ strip c.tenantId = c.tenantId ∧ ':' ∉ c.tenantId.toList ∧
      ∀ g, s.view.roleGroup? c.identifier = some g →
        groupIdentifierAppliesToTenant g.identifier (tenantIdentifiersFor s.view c.tenantId) = true := by
  obtain ⟨user, huser⟩ := user_of_isMember hmember
  have huser' : ∀ {s' : Tx Ω}, s'.view.users = s.view.users → s'.view.user? u = some user := by
    intro s' husers
    unfold Db.user? at huser ⊢
    rw [husers, huser]
  have hsame : ∀ {s' : Tx Ω}, s'.view.tenants = s.view.tenants → ∀ tenantId,
      tenantIdentifiersFor s'.view tenantId = tenantIdentifiersFor s.view tenantId := by
    intro s' htenants tenantId
    unfold tenantIdentifiersFor
    rw [htenants]
  constructor
  · rintro ⟨group, s', hrun, hallows, -, -, -⟩
    have hresource := resource_of_ok hrun
    obtain ⟨g, s'', hrun', hstage, hdone, husers, htenants, hgroup⟩ := ensureV1Role_spec userIds hresource hkeys hfree halone
    rw [hrun] at hrun'
    cases hrun'
    obtain ⟨key, rest, hkeysEq⟩ := List.exists_cons_of_ne_nil (role_table _ c.mem_table).2.1
    have hkey : key ∈ c.commandKeys := by
      have heq : c.commandKeys = key :: rest := hkeysEq
      simp [heq]
    obtain ⟨spec, hspec, -, -⟩ := c.spec_of_mem hkey
    have hallowed := hallows key hkey spec hspec .task "" []
    obtain ⟨happlies, htenant, -, -⟩ := (hstage.allows_iff hdone hresource hu (huser' husers) rfl).1 hallowed
    obtain ⟨hstrip, hcolon⟩ := c.resource_eq_tenant.1 htenant.symm
    refine ⟨hstrip, hcolon, fun g' hg' => ?_⟩
    rcases hgroup with ⟨hnone, -⟩ | hfound
    · rw [hnone] at hg'
      cases hg'
    · rw [hfound] at hg'
      cases hg'
      rwa [hsame htenants] at happlies
  · rintro ⟨hstrip, hcolon, happlies⟩
    have htenant := c.resource_eq_tenant.2 ⟨hstrip, hcolon⟩
    have hresource : c.resource ≠ "" := by
      rw [htenant, ← hstrip]
      exact hblank
    obtain ⟨g, s', hrun, hstage, hdone, husers, htenants, hgroup⟩ := ensureV1Role_spec userIds hresource hkeys hfree halone
    have hiff := fun {request : AuthorizationRequest} (hactor : request.actorUserId = u) =>
      hstage.allows_iff hdone hresource hu (huser' husers) hactor
    have happlies' : groupIdentifierAppliesToTenant g.identifier (tenantIdentifiersFor s'.view c.tenantId) = true := by
      rcases hgroup with ⟨-, hidentifier⟩ | hfound
      · rw [hidentifier]
        exact identifier_applies hstrip hcolon hblank s'.view
      · rw [hsame htenants]
        exact happlies g hfound
    refine ⟨g, s', hrun, ?_, ?_, ?_, hdone.ensureV1Role_idle hresource⟩
    · intro key hkey spec hspec resourceType resourceId metadata
      exact (hiff rfl).2 ⟨happlies', htenant.symm, hkey, spec, hspec, rfl⟩
    · intro request hactor _ hkey hallowed
      exact hkey ((hiff hactor).1 hallowed).2.2.1
    · intro request hactor hnot hallowed
      have hin := ((hiff hactor).1 hallowed).2.1
      rw [hin, htenant] at hnot
      exact hnot (mem_tenantIdentifiersFor hstrip hblank s'.view)

end RoleCall

end

namespace Sample

/-- The manager role of a tenant. -/
def managerOf (tenantId : TenantId) : RoleCall := ⟨tenantId, roleManager, [taskClaimCommand, taskCompleteCommand], by decide⟩

/-- A session with one user, who belongs to the tenant. -/
def memberTx (tenantId : TenantId) : Tx Bool :=
  let db := { db₀ with
    tenants := [⟨tenantId, tenantId⟩]
    users := [⟨1, "ann", none, "", "ann", none, none, some tenantId, none, none, none⟩] }
  { seq := 10, base := db, view := db, committed := db, world := false }

theorem memberTx_keys (tenantId : TenantId) : PermissionKeys (memberTx tenantId) := by
  constructor <;> simp [memberTx, db₀]

end Sample

theorem role_grants_exactly_manager : (Sample.managerOf "t").Exact [1] 1 (Sample.memberTx "t") := by
  refine (RoleCall.role_grants_exactly (Sample.managerOf "t") (by decide) (by decide) (by decide) (Sample.memberTx_keys "t")
    ⟨by simp [Sample.memberTx, Sample.db₀], by simp [Sample.memberTx, Sample.db₀]⟩ ?_).2 ⟨by decide, by decide, ?_⟩
  · intro a ha
    exact absurd ha List.not_mem_nil
  · intro g hg
    cases hg

/-- The role of the tenant `a:b` is granted in the tenant `a`: its managers may
not claim a task. -/
theorem colon_tenant_role_powerless :
    (Sample.memberTx "a:b").view.isMember "a:b" 1 = true ∧ ∃ group s',
      (ensureV1Role "a:b" roleManager [1]).run (Sample.memberTx "a:b") = (.ok group, s') ∧
      (databaseAuthorizationPolicy s'.view ⟨"a:b", 1, taskClaimCommand, .execute, .task, "7", []⟩).toOption.map (·.allowed) = some false := by
  exact ⟨by decide, _, _, rfl, by decide +kernel⟩

end M8flowCore
