import M8flowCore.Grants
/-!
# What one grant establishes

The rules for the statements of a grant: which rows it sees when it returns,
whatever other calls commit in between, and which rows it may have inserted for
that. A group and a target are guarded (`GroupRule`, `TargetRule`): a call that
inserts one holds a unique key that every other call would need.
-/
open M8flowCore.Lib M8flowCore.Session

namespace M8flowCore
namespace Statements
variable {α ρ : Type}

/-! ## What one call establishes -/

section
variable {grantType : PermitDeny} {I : Db → Prop} {C : List (RowChange NewRow Nat) → Prop}
  {changes : List (RowChange NewRow Nat)} {db : Db}

/-- What `changes` make of `db`. -/
abbrev visible (grantType : PermitDeny) (changes : List (RowChange NewRow Nat)) (db : Db) : Db :=
  (grantSchema grantType).applyAll changes db

/-- A row found in the table is found; a row missing is inserted and found. -/
theorem reaches_getOrCreate {lookup : Db → Option ρ} {row : NewRow} {Found : ρ → Db → Prop}
    (hfound : ∀ db found, lookup db = some found → Found found db)
    (hstable : ∀ found db db', db.Grows grantType db' → Found found db → Found found db') (hC : C changes)
    (hinsert : ∀ db₁ db₂ id, db.Grows grantType db₁ → I db₁ → db₁.Grows grantType db₂ →
      lookup (visible grantType changes db₁) = none →
      (∀ key, row.key = some key → key ∉ (visible grantType changes db₂).uniqueKeys) →
        C (changes ++ [.inserted id row])) :
    (getOrCreate lookup row).Reaches (grantSchema grantType) I C Found changes db := by
  have hreload : ∀ changes' db', (grantSchema grantType).Goes C changes db changes' db' →
      Stmt.Reaches (grantSchema grantType) I C Found
        (.read fun db => orFail (.other "RuntimeError" "Unable to create or reload") (lookup db)) changes' db' := by
    intro changes' db' hgoes
    refine Stmt.reaches_read hgoes.kept fun db'' _ _ => ?_
    cases hlookup : lookup ((grantSchema grantType).applyAll changes' db'') with
    | none => exact Stmt.reaches_fail _
    | some found => exact Stmt.reaches_done (hstable found) hgoes.kept (hfound _ found hlookup)
  refine Stmt.reaches_read hC fun db₁ hgrows hI => ?_
  cases hlookup : lookup ((grantSchema grantType).applyAll changes db₁) with
  | some found => exact Stmt.reaches_done (hstable found) hC (hfound _ found hlookup)
  | none =>
    refine Stmt.reaches_insert hC (fun db₂ id hgrows' _ hfree => hinsert db₁ db₂ id hgrows hI hgrows' hlookup hfree) ?_
    intro changes' db' hgoes
    exact hreload changes' db' ((Schema.Goes.later hC hgrows).trans hgoes)

/-- A group may be inserted that no call could see. -/
def GroupsAllowed (grantType : PermitDeny) (I : Db → Prop) (C : List (RowChange NewRow Nat) → Prop) (identifier : String) : Prop :=
  ∀ changes db₁ db₂ id name, C changes → I db₁ →
    (∀ g ∈ (visible grantType changes db₁).groups, g.answers identifier = false) →
    .authorizationKey (groupAuthorizationKey identifier) ∉ (visible grantType changes db₂).uniqueKeys →
      C (changes ++ [.inserted id (.group name identifier (groupAuthorizationKey identifier))])

/-- A target may be inserted that no call could see, once `Passed` is. -/
def TargetsAllowed (grantType : PermitDeny) (I : Db → Prop) (C : List (RowChange NewRow Nat) → Prop) (Passed : Db → Prop)
    (command : String) (resourceType : PermissionResourceType) (resourceId : Option String) : Prop :=
  ∀ changes db₁ db₂ id, C changes → I db₁ → Passed (visible grantType changes db₁) →
    (∀ t ∈ (visible grantType changes db₁).permissionTargets, t.names (some command) resourceType resourceId = false) →
    (∀ key, (NewRow.target command resourceType resourceId).key = some key →
      key ∉ (visible grantType changes db₂).uniqueKeys) →
      C (changes ++ [.inserted id (.target command resourceType resourceId)])

/-- Rows of other tables and the grant type do not matter to `C`. -/
structure Tolerant (C : List (RowChange NewRow Nat) → Prop) : Prop where
  updated : ∀ changes id, C changes → C (changes ++ [.updated id])
  inserted : ∀ changes id r, r.isGroup = false → r.isTarget = false → C changes → C (changes ++ [.inserted id r])

theorem reaches_orFail {β : Type} {e : Error} {found : Option α} {f : α → Statements β} {P : β → Db → Prop}
    (h : ∀ a, found = some a → (f a).Reaches (grantSchema grantType) I C P changes db) :
    ((orFail e found).bind f).Reaches (grantSchema grantType) I C P changes db := by
  cases found with
  | none => exact Stmt.reaches_fail e
  | some a => exact h a rfl

theorem reaches_findOrCreateGroup {identifier : String} (name : Option String)
    (hgroups : GroupsAllowed grantType I C identifier) (hC : C changes) :
    (findOrCreateGroup identifier name).Reaches (grantSchema grantType) I C
      (fun group db => group ∈ db.groups ∧ group.answers identifier = true) changes db := by
  have hstable : ∀ (group : Group) (db db' : Db), db.Grows grantType db' →
      group ∈ db.groups ∧ group.answers identifier = true → group ∈ db'.groups ∧ group.answers identifier = true :=
    fun group _ _ hgrows h => ⟨hgrows.groups h.1, h.2⟩
  refine Stmt.reaches_read hC fun db₁ _ hI₁ => ?_
  cases hfound : (visible grantType changes db₁).groups.find? (·.identifier == some identifier) with
  | some group =>
    have hidentifier := List.find?_some hfound
    exact Stmt.reaches_done (hstable group) hC ⟨List.mem_of_find?_eq_some hfound, by simp_all [Group.answers]⟩
  | none =>
    refine reaches_getOrCreate (fun db found h => ?_) hstable hC fun db₂ db₃ id hgrows _ hgrows' hnone hfree => ?_
    · have hkey := List.find?_some h
      exact ⟨List.mem_of_find?_eq_some h, by simp_all [Group.answers]⟩
    · refine hgroups changes db₁ db₃ id _ hC hI₁ (fun g hg => ?_) (hfree _ rfl)
      -- the second lookup sees every group the first one saw
      have hg' := ((grantSchema grantType).applyAll_mono changes hgrows).groups hg
      have hidentifier := List.find?_eq_none.1 hfound g hg
      have hkey := List.find?_eq_none.1 hnone g hg'
      simp_all [Group.answers]

/-- The user is a member of the group. -/
def Member (identifier : String) (userId : Nat) (db : Db) : Prop :=
  ∃ group ∈ db.groups, group.answers identifier = true ∧
    ∃ a ∈ db.userGroupAssignments, a.userId = userId ∧ a.groupId = group.id

theorem Member.grows {identifier : String} {userId : Nat} {db db' : Db} (h : Member identifier userId db)
    (hgrows : db.Grows grantType db') : Member identifier userId db' := by
  obtain ⟨group, hgroup, hanswers, a, ha, hof⟩ := h
  exact ⟨group, hgrows.groups hgroup, hanswers, a, hgrows.memberships ha, hof⟩

theorem reaches_addUserToGroup {groupIdentifier : String} (userId : Nat) (groupName : Option String)
    (htolerant : Tolerant C) (hgroups : GroupsAllowed grantType I C groupIdentifier) (hC : C changes) :
    (addUserToGroup userId groupIdentifier groupName).Reaches (grantSchema grantType) I C
      (fun _ => Member groupIdentifier userId) changes db := by
  refine Stmt.reaches_bind (reaches_findOrCreateGroup groupName hgroups hC) ?_
  rintro group changes' db' - hgoes ⟨hmem, hanswers⟩
  have hrow : (getOrCreate (fun db => db.userGroupAssignments.find? fun a => a.userId == userId && a.groupId == group.id)
      (.membership userId group.id)).Reaches (grantSchema grantType) I C
        (fun membership db => membership ∈ db.userGroupAssignments ∧ membership.userId = userId ∧
          membership.groupId = group.id) changes' db' := by
    refine reaches_getOrCreate (fun db found h => ?_) (fun _ _ _ hgrows h => ⟨hgrows.memberships h.1, h.2⟩) hgoes.kept
      fun _ _ id _ _ _ _ _ => htolerant.inserted _ id _ rfl rfl hgoes.kept
    have hfound := List.find?_some h
    exact ⟨List.mem_of_find?_eq_some h, by simpa using hfound⟩
  exact hrow.weaken fun membership _ _ hgoes' h => ⟨group, hgoes'.grows.groups hmem, hanswers, membership, h⟩

theorem reaches_findOrCreatePrincipalForUser (userId : Nat) (htolerant : Tolerant C) (hC : C changes) :
    (findOrCreatePrincipalForUser userId).Reaches (grantSchema grantType) I C
      (fun principal db => principal ∈ db.principals ∧ principal.userId = some userId) changes db := by
  refine reaches_getOrCreate (fun db found h => ?_) (fun _ _ _ hgrows h => ⟨hgrows.principals h.1, h.2⟩) hC
    fun _ _ id _ _ _ _ _ => htolerant.inserted _ id _ rfl rfl hC
  have hfound := List.find?_some h
  exact ⟨List.mem_of_find?_eq_some h, by simpa using hfound⟩

theorem reaches_findOrCreatePrincipalForGroup (groupId : Nat) (htolerant : Tolerant C) (hC : C changes) :
    (findOrCreatePrincipalForGroup groupId).Reaches (grantSchema grantType) I C
      (fun principal db => principal ∈ db.principals ∧ principal.groupId = some groupId) changes db := by
  refine reaches_getOrCreate (fun db found h => ?_) (fun _ _ _ hgrows h => ⟨hgrows.principals h.1, h.2⟩) hC
    fun _ _ id _ _ _ _ _ => htolerant.inserted _ id _ rfl rfl hC
  have hfound := List.find?_some h
  exact ⟨List.mem_of_find?_eq_some h, by simpa using hfound⟩

theorem reaches_findOrCreatePermissionTarget {Passed : Db → Prop} {command : Option String}
    {resourceType : PermissionResourceType} {resourceId : Option String}
    (hpassed : ∀ db db', db.Grows grantType db' → Passed db → Passed db') (hnow : Passed (visible grantType changes db))
    (htargets : ∀ key, normalizeResourceComponent command = some key →
      TargetsAllowed grantType I C Passed key resourceType (resourceId.map strip)) (hC : C changes) :
    (findOrCreatePermissionTarget command resourceType resourceId).Reaches (grantSchema grantType) I C
      (fun target db => target ∈ db.permissionTargets ∧
        target.names (normalizeResourceComponent command) resourceType (resourceId.map strip) = true) changes db := by
  unfold findOrCreatePermissionTarget
  dsimp only
  split
  · exact Stmt.reaches_fail _
  cases hcommand : normalizeResourceComponent command with
  | none =>
    refine Stmt.reaches_read hC fun db₁ _ _ => ?_
    cases hfound : (visible grantType changes db₁).permissionTargets.find? (·.names none resourceType (resourceId.map strip)) with
    | none => exact Stmt.reaches_fail _
    | some target =>
      exact Stmt.reaches_done (fun _ _ hgrows h => ⟨hgrows.targets h.1, h.2⟩) hC
        ⟨List.mem_of_find?_eq_some hfound, List.find?_some hfound⟩
  | some key =>
    refine reaches_getOrCreate (fun db found h => ?_) (fun _ _ _ hgrows h => ⟨hgrows.targets h.1, h.2⟩) hC
      fun db₁ db₂ id hgrows hI _ hnone hfree => ?_
    · exact ⟨List.mem_of_find?_eq_some h, List.find?_some h⟩
    · refine htargets key hcommand changes db₁ db₂ id hC hI ?_ (fun t ht => ?_) hfree
      · exact hpassed _ _ ((grantSchema grantType).applyAll_mono changes hgrows) hnow
      · simpa using List.find?_eq_none.1 hnone t ht

theorem reaches_findOrCreatePermissionAssignment (principalId permissionTargetId : Nat) (permission : PermissionAction)
    (htolerant : Tolerant C) (hC : C changes) :
    (findOrCreatePermissionAssignment principalId permissionTargetId permission grantType).Reaches (grantSchema grantType)
      I C (fun row db => row ∈ db.permissionAssignments ∧
        row.grants principalId permissionTargetId permission = true ∧ row.grantType = grantType) changes db := by
  have hrow : (getOrCreate (fun db => db.permissionAssignments.find? (·.grants principalId permissionTargetId permission))
      (.assignment principalId permissionTargetId permission grantType)).Reaches (grantSchema grantType) I C
        (fun row db => (row ∈ db.permissionAssignments ∨ { row with grantType := grantType } ∈ db.permissionAssignments) ∧
          row.grants principalId permissionTargetId permission = true) changes db := by
    refine reaches_getOrCreate (fun db found h => ?_) (fun row db db' hgrows h => ⟨?_, h.2⟩) hC
      fun _ _ id _ _ _ _ _ => htolerant.inserted _ id _ rfl rfl hC
    · exact ⟨.inl (List.mem_of_find?_eq_some h), List.find?_some h⟩
    · rcases h.1 with hmem | hmem
      · exact hgrows.assignments row hmem
      · exact .inr ((hgrows.assignments _ hmem).elim id id)
  have hstable : ∀ (row : PermissionAssignment) (db db' : Db), db.Grows grantType db' →
      row ∈ db.permissionAssignments ∧ row.grants principalId permissionTargetId permission = true ∧ row.grantType = grantType →
      row ∈ db'.permissionAssignments ∧ row.grants principalId permissionTargetId permission = true ∧
        row.grantType = grantType := by
    rintro row db db' hgrows ⟨hmem, hgrants, rfl⟩
    exact ⟨(hgrows.assignments row hmem).elim id id, hgrants, rfl⟩
  refine Stmt.reaches_bind hrow ?_
  rintro row changes' db' - hgoes ⟨hmem, hgrants⟩
  split
  · refine Stmt.reaches_update (htolerant.updated _ _ hgoes.kept) ?_
    refine Stmt.reaches_done (hstable _) (htolerant.updated _ _ hgoes.kept) ⟨?_, hgrants, rfl⟩
    rw [Schema.applyAll_append]
    rcases hmem with hmem | hmem
    · have hset := Db.mem_setGrantType grantType row.id hmem
      rwa [if_pos rfl] at hset
    · have hset := Db.mem_setGrantType grantType row.id hmem
      rwa [if_pos rfl] at hset
  · rename_i htype
    obtain rfl : row.grantType = grantType := by simpa using htype
    exact Stmt.reaches_done (hstable row) hgoes.kept ⟨hmem.elim id id, hgrants, rfl⟩

/-- A grant is made: a principal, a target and the row between them. -/
def Granted (grantType : PermitDeny) (subject : Principal → Bool) (permission : PermissionAction) (command : Option String)
    (resourceType : PermissionResourceType) (resourceId : Option String) (row : PermissionAssignment) (db : Db) : Prop :=
  ∃ principal ∈ db.principals, subject principal = true ∧ ∃ target ∈ db.permissionTargets,
    target.names (normalizeResourceComponent command) resourceType (resourceId.map strip) = true ∧
    row ∈ db.permissionAssignments ∧ row.grants principal.id target.id permission = true ∧ row.grantType = grantType

theorem Granted.grows {subject : Principal → Bool} {permission : PermissionAction} {command : Option String}
    {resourceType : PermissionResourceType} {resourceId : Option String} {row : PermissionAssignment} {db db' : Db}
    (h : Granted grantType subject permission command resourceType resourceId row db) (hgrows : db.Grows grantType db') :
    Granted grantType subject permission command resourceType resourceId row db' := by
  obtain ⟨principal, hprincipal, hsubject, target, htarget, hnames, hrow, hgrants, rfl⟩ := h
  refine ⟨principal, hgrows.principals hprincipal, hsubject, target, hgrows.targets htarget, hnames, ?_, hgrants, rfl⟩
  exact (hgrows.assignments row hrow).elim id id

/-- The same of a group. -/
def GroupGranted (grantType : PermitDeny) (identifier : String) (permission : PermissionAction) (command : Option String)
    (resourceType : PermissionResourceType) (resourceId : Option String) (row : PermissionAssignment) (db : Db) : Prop :=
  ∃ group ∈ db.groups, group.answers identifier = true ∧
    Granted grantType (·.groupId == some group.id) permission command resourceType resourceId row db

theorem GroupGranted.grows {identifier : String} {permission : PermissionAction} {command : Option String}
    {resourceType : PermissionResourceType} {resourceId : Option String} {row : PermissionAssignment} {db db' : Db}
    (h : GroupGranted grantType identifier permission command resourceType resourceId row db)
    (hgrows : db.Grows grantType db') : GroupGranted grantType identifier permission command resourceType resourceId row db' := by
  obtain ⟨group, hgroup, hanswers, hgranted⟩ := h
  exact ⟨group, hgrows.groups hgroup, hanswers, hgranted.grows hgrows⟩

/-- A command is granted to a role's group. -/
def CommandGranted (identifier tenantComponent commandKey : String) (db : Db) : Prop :=
  ∃ spec row, authorizationSpecForCommandKey commandKey = some spec ∧
    GroupGranted .permit identifier spec.permission (some spec.commandKey) .tenant (some tenantComponent) row db

theorem CommandGranted.grows {identifier tenantComponent commandKey : String} {db db' : Db}
    (h : CommandGranted identifier tenantComponent commandKey db) (hgrows : db.Grows .permit db') :
    CommandGranted identifier tenantComponent commandKey db' := by
  obtain ⟨spec, row, hspec, hgranted⟩ := h
  exact ⟨spec, row, hspec, hgranted.grows hgrows⟩

/-- The grant to a principal that the call has found. -/
theorem reaches_granted (subject : Principal → Bool) {principal : Principal} {permission : PermissionAction}
    {command : Option String} {resourceType : PermissionResourceType} {resourceId : Option String} {Passed : Db → Prop}
    (htolerant : Tolerant C) (hpassed : ∀ db db', db.Grows grantType db' → Passed db → Passed db')
    (hnow : Passed (visible grantType changes db))
    (htargets : ∀ key, normalizeResourceComponent command = some key →
      TargetsAllowed grantType I C Passed key resourceType (resourceId.map strip)) (hC : C changes)
    (hprincipal : principal ∈ (visible grantType changes db).principals) (hsubject : subject principal = true) :
    ((findOrCreatePermissionTarget command resourceType resourceId).bind fun target =>
      findOrCreatePermissionAssignment principal.id target.id permission grantType).Reaches (grantSchema grantType) I C
        (Granted grantType subject permission command resourceType resourceId) changes db := by
  refine Stmt.reaches_bind (reaches_findOrCreatePermissionTarget hpassed hnow htargets hC) ?_
  rintro target changes₁ db₁ - hgoes₁ ⟨htarget, hnames⟩
  refine (reaches_findOrCreatePermissionAssignment _ _ permission htolerant hgoes₁.kept).weaken ?_
  rintro row changes₂ db₂ hgoes₂ ⟨hrow, hgrants, htype⟩
  exact ⟨principal, (hgoes₁.trans hgoes₂).grows.principals hprincipal, hsubject, target, hgoes₂.grows.targets htarget,
    hnames, hrow, hgrants, htype⟩

end
end Statements

/-! ## Rows stored once -/

section
variable {grantType : PermitDeny}

/-- The groups found under an identifier. -/
def groupSelection (grantType : PermitDeny) (identifier : String) : Selection (grantSchema grantType) where
  count db := (db.groups.filter (·.answers identifier)).length
  hits
    | .group _ identifier' key => identifier' == identifier || key == groupAuthorizationKey identifier
    | _ => false
  count_add id r db := by
    cases r with
    | group name identifier' key =>
      simp only [grantSchema, NewRow.add, List.filter_append, List.length_append, List.filter_cons, List.filter_nil,
        Group.answers, Option.some_beq_some]
      split <;> simp_all
    | _ => rfl
  count_modify _ _ := rfl

/-- The targets of a command and a resource. -/
def targetSelection (grantType : PermitDeny) (command : Option String) (resourceType : PermissionResourceType)
    (resourceId : Option String) : Selection (grantSchema grantType) where
  count db := (db.permissionTargets.filter (·.names command resourceType resourceId)).length
  hits
    | .target command' resourceType' resourceId' =>
      resourceType' == resourceType && resourceId' == resourceId && some command' == command
    | _ => false
  count_add id r db := by
    cases r with
    | target command' resourceType' resourceId' =>
      simp only [grantSchema, NewRow.add, List.filter_append, List.length_append, List.filter_cons, List.filter_nil,
        PermissionTarget.names]
      split <;> rfl
    | _ => rfl
  count_modify _ _ := rfl

/-- A row stored once under a unique key, among those that can only have it. -/
theorem filter_eq_singleton {α : Type} {f : α → Option UniqueKey} {key : UniqueKey} {p : α → Bool} {l : List α} {a : α}
    (hnodup : (l.filterMap f).Nodup) (hp : ∀ b, p b = true → f b = some key) (hmem : a ∈ l) (ha : p a = true) :
    l.filter p = [a] := by
  induction l with
  | nil => simp at hmem
  | cons b l ih =>
    have htail : (l.filterMap f).Nodup := hnodup.sublist ((List.sublist_cons_self b l).filterMap f)
    cases hb : p b with
    | false =>
      rw [List.filter_cons_of_neg (by simp [hb])]
      rcases List.mem_cons.1 hmem with rfl | hmem
      · simp [hb] at ha
      · exact ih htail hmem
    | true =>
      -- the key of the first row is on no later one
      have hnone : ∀ c ∈ l, p c = false := by
        intro c hc
        by_contra hpc
        rw [List.filterMap_cons, hp b hb, List.nodup_cons] at hnodup
        exact hnodup.1 (List.mem_filterMap.2 ⟨c, hc, hp c (by simpa using hpc)⟩)
      rw [List.filter_cons_of_pos hb, List.filter_eq_nil_iff.2 (by simpa using hnone)]
      rcases List.mem_cons.1 hmem with rfl | hmem
      · rfl
      · simp [hnone a hmem] at ha

theorem eq_of_length_le_one {α : Type} {l : List α} {a : α} (h : l.length ≤ 1) (ha : a ∈ l) : l = [a] := by
  match l, h with
  | [b], _ => rw [List.mem_singleton.1 ha]

/-- The tables' constraints: no unique key twice, and no target without a
command. -/
structure Db.PermissionConstraints (db : Db) : Prop where
  unique : db.uniqueKeys.Nodup
  command : ∀ t ∈ db.permissionTargets, t.command.isSome = true

theorem Db.uniqueKeys_parts {db : Db} (h : db.uniqueKeys.Nodup) :
    (db.groups.filterMap Group.uniqueKey).Nodup ∧
      (db.userGroupAssignments.filterMap UserGroupAssignment.uniqueKey).Nodup ∧
      (db.principals.filterMap Principal.userKey).Nodup ∧ (db.principals.filterMap Principal.groupKey).Nodup ∧
      (db.permissionTargets.filterMap PermissionTarget.uniqueKey).Nodup ∧
      (db.permissionAssignments.filterMap PermissionAssignment.uniqueKey).Nodup := by
  have h₁ := h.of_append_right
  have h₂ := h₁.of_append_right
  have h₃ := h₂.of_append_right
  have h₄ := h₃.of_append_right
  exact ⟨h.of_append_left, h₁.of_append_left, h₂.of_append_left, h₃.of_append_left, h₄.of_append_left, h₄.of_append_right⟩

theorem Db.Grows.uniqueKeys {db db' : Db} (h : db.Grows grantType db') : db.uniqueKeys ⊆ db'.uniqueKeys := by
  intro key hkey
  cases key with
  | authorizationKey key =>
    obtain ⟨g, hg, hkey⟩ := Db.authorizationKey_mem.1 hkey
    exact Db.authorizationKey_mem.2 ⟨g, h.groups hg, hkey⟩
  | membership userId groupId =>
    obtain ⟨a, ha, hkey⟩ := Db.membership_mem.1 hkey
    exact Db.membership_mem.2 ⟨a, h.memberships ha, hkey⟩
  | principalUser userId =>
    obtain ⟨p, hp, hkey⟩ := Db.principalUser_mem.1 hkey
    exact Db.principalUser_mem.2 ⟨p, h.principals hp, hkey⟩
  | principalGroup groupId =>
    obtain ⟨p, hp, hkey⟩ := Db.principalGroup_mem.1 hkey
    exact Db.principalGroup_mem.2 ⟨p, h.principals hp, hkey⟩
  | target resourceType resourceId command =>
    obtain ⟨t, ht, hkey⟩ := Db.target_mem.1 hkey
    exact Db.target_mem.2 ⟨t, h.targets ht, hkey⟩
  | assignment principalId permissionTargetId permission =>
    obtain ⟨a, ha, hkey⟩ := Db.assignment_mem.1 hkey
    rcases h.assignments a ha with ha | ha
    · exact Db.assignment_mem.2 ⟨a, ha, hkey⟩
    · exact Db.assignment_mem.2 ⟨_, ha, hkey⟩

/-! ## What guards a group and a target -/

section
variable {identifier : String} {command : String} {resourceType : PermissionResourceType} {resourceId : Option String}
  {guard : Option UniqueKey} {passage : UniqueKey} {db : Db}

theorem groupSelection_eq_zero : (groupSelection grantType identifier).count db = 0 ↔
    ∀ g ∈ db.groups, g.answers identifier = false := by
  simp [groupSelection, List.filter_eq_nil_iff]

theorem targetSelection_eq_zero {command : Option String} :
    (targetSelection grantType command resourceType resourceId).count db = 0 ↔
      ∀ t ∈ db.permissionTargets, t.names command resourceType resourceId = false := by
  simp [targetSelection, List.filter_eq_nil_iff]

/-- A group is guarded by its own key, unless it is stored from the start. -/
def groupGuard (grantType : PermitDeny) (identifier : String) (db : Db) : Option UniqueKey :=
  if (groupSelection grantType identifier).count db = 0 then some (.authorizationKey (groupAuthorizationKey identifier))
  else none

theorem groupGuard_kept (h : (groupSelection grantType identifier).count db ≤ 1) :
    (groupSelection grantType identifier).Kept (groupGuard grantType identifier db) db := by
  refine ⟨h, ?_⟩
  unfold groupGuard
  split
  · rename_i hnone
    simp only [hnone, ne_eq, not_true_eq_false, Option.some.injEq, forall_eq', false_iff]
    intro hmem
    obtain ⟨g, hg, hkey⟩ := Db.authorizationKey_mem.1 hmem
    have hfalse := groupSelection_eq_zero.1 hnone g hg
    simp [Group.answers, hkey] at hfalse
  · rename_i hsome
    simp [hsome]

/-- What the key of a group, a principal or a target guards. -/
theorem exists_targetGuard
    (hle : (targetSelection grantType (some command) resourceType resourceId).count db ≤ 1)
    (hsettled : resourceId.isSome = true ∨ (targetSelection grantType (some command) resourceType resourceId).count db ≠ 0 ∨
      passage ∉ db.uniqueKeys) :
    ∃ guard, (targetSelection grantType (some command) resourceType resourceId).Kept guard db ∧
      (∀ id, resourceId = some id → guard = some (.target resourceType id command)) ∧
      (resourceId = none → ∀ key, guard = some key → key = passage) := by
  cases resourceId with
  | some id =>
    refine ⟨some (.target resourceType id command), ⟨hle, ?_⟩, by simp, by simp⟩
    rw [ne_eq, targetSelection_eq_zero]
    simp [Db.target_mem]
  | none =>
    by_cases hcount : (targetSelection grantType (some command) resourceType none).count db = 0
    · refine ⟨some passage, ⟨hle, ?_⟩, by simp, by simp⟩
      have habsent : passage ∉ db.uniqueKeys := by simpa [hcount] using hsettled
      simpa [hcount] using habsent
    · exact ⟨none, ⟨hle, by simp [hcount]⟩, by simp, by simp⟩

open Statements

/-- Inserting a group that is guarded. -/
theorem groupSelection_guarded {changes : List (RowChange NewRow Nat)} {db₀ db₁ db₂ : Db} (id : Nat) (name : String)
    (hC : (groupSelection grantType identifier).Guarded (groupGuard grantType identifier db₀) changes)
    (hI : (groupSelection grantType identifier).Kept (groupGuard grantType identifier db₀) db₁)
    (hnone : ∀ g ∈ (visible grantType changes db₁).groups, g.answers identifier = false)
    (hfree : .authorizationKey (groupAuthorizationKey identifier) ∉ (visible grantType changes db₂).uniqueKeys) :
    (groupSelection grantType identifier).Guarded (groupGuard grantType identifier db₀)
      (changes ++ [.inserted id (.group name identifier (groupAuthorizationKey identifier))]) := by
  unfold groupGuard at hC hI ⊢
  split at hC
  · rename_i hstart
    rw [if_pos hstart]
    exact hC.own_key id rfl hfree
  · rename_i hstart
    rw [if_neg hstart] at hI ⊢
    exact hI.missing id (by simp) (groupSelection_eq_zero.2 hnone)

/-- Inserting a target that is guarded. -/
theorem targetSelection_guarded {changes : List (RowChange NewRow Nat)} {db₁ db₂ : Db} (id : Nat)
    (hown : ∀ id, resourceId = some id → guard = some (.target resourceType id command))
    (hpassage : resourceId = none → ∀ key, guard = some key → key = passage)
    (hC : (targetSelection grantType (some command) resourceType resourceId).Guarded guard changes)
    (hI : (targetSelection grantType (some command) resourceType resourceId).Kept guard db₁)
    (hpassed : passage ∈ (visible grantType changes db₁).uniqueKeys)
    (hnone : ∀ t ∈ (visible grantType changes db₁).permissionTargets, t.names (some command) resourceType resourceId = false)
    (hfree : ∀ key, (NewRow.target command resourceType resourceId).key = some key →
      key ∉ (visible grantType changes db₂).uniqueKeys) :
    (targetSelection grantType (some command) resourceType resourceId).Guarded guard
      (changes ++ [.inserted id (.target command resourceType resourceId)]) := by
  cases resourceId with
  | some resource =>
    obtain rfl := hown resource rfl
    exact hC.own_key id rfl (hfree _ rfl)
  | none =>
    refine hI.missing id (fun key hkey => ?_) (targetSelection_eq_zero.2 hnone)
    rw [hpassage rfl key hkey]
    exact hpassed

/-- Conditions on the committed database and on a call's changes under which the
group of an identifier is stored once. -/
structure GroupRule (grantType : PermitDeny) (identifier : String) (db₀ : Db) (I : Db → Prop)
    (C : List (RowChange NewRow Nat) → Prop) : Prop where
  start : I db₀
  nil : C []
  updated : ∀ changes id, C changes → C (changes ++ [.updated id])
  inserted : ∀ changes id r, r.isGroup = false → C changes → C (changes ++ [.inserted id r])
  allowed : GroupsAllowed grantType I C identifier
  commit : ∀ changes db, I db → C changes → (visible grantType changes db).uniqueKeys.Nodup →
    (∃ g ∈ (visible grantType changes db).groups, g.answers identifier = true) → I (visible grantType changes db)
  once : ∀ db, I db → ∀ g ∈ db.groups, g.answers identifier = true → db.groups.filter (·.answers identifier) = [g]

/-- The same for the target of a command and a resource. -/
structure TargetRule (grantType : PermitDeny) (passage : UniqueKey) (command : Option String)
    (resourceType : PermissionResourceType) (resourceId : Option String) (db₀ : Db) (I : Db → Prop)
    (C : List (RowChange NewRow Nat) → Prop) : Prop where
  start : I db₀
  nil : C []
  updated : ∀ changes id, C changes → C (changes ++ [.updated id])
  inserted : ∀ changes id r, r.isTarget = false → C changes → C (changes ++ [.inserted id r])
  allowed : ∀ key, command = some key →
    TargetsAllowed grantType I C (fun db => passage ∈ db.uniqueKeys) key resourceType resourceId
  commit : ∀ changes db, I db → C changes → (visible grantType changes db).uniqueKeys.Nodup →
    (∃ t ∈ (visible grantType changes db).permissionTargets, t.names command resourceType resourceId = true) →
      I (visible grantType changes db)
  once : ∀ db, I db → ∀ t ∈ db.permissionTargets, t.names command resourceType resourceId = true →
    db.permissionTargets.filter (·.names command resourceType resourceId) = [t]

theorem groupRule (grantType : PermitDeny) (h : (groupSelection grantType identifier).count db ≤ 1) :
    GroupRule grantType identifier db
      ((groupSelection grantType identifier).Kept (groupGuard grantType identifier db))
      ((groupSelection grantType identifier).Guarded (groupGuard grantType identifier db)) where
  start := groupGuard_kept h
  nil := Selection.guarded_nil
  updated changes id hC := hC.updated id
  inserted changes id r hr hC := hC.inserted id (by cases r <;> simp_all [NewRow.isGroup, groupSelection])
  allowed changes db₁ db₂ id name hC hI hnone hfree := groupSelection_guarded id name hC hI hnone hfree
  commit changes db hI hC hkeys hg := by
    refine hI.commit hC hkeys fun hzero => ?_
    obtain ⟨g, hg, hanswers⟩ := hg
    rw [groupSelection_eq_zero.1 hzero g hg] at hanswers
    exact absurd hanswers (by simp)
  once db hI g hg hanswers := eq_of_length_le_one hI.1 (List.mem_filter.2 ⟨hg, hanswers⟩)

theorem targetRule (grantType : PermitDeny) {command : Option String} (hcommand : ∀ t ∈ db.permissionTargets, t.command.isSome = true)
    (hle : (db.permissionTargets.filter (·.names command resourceType resourceId)).length ≤ 1)
    (hsettled : resourceId.isSome = true ∨ db.permissionTargets.filter (·.names command resourceType resourceId) ≠ [] ∨
      passage ∉ db.uniqueKeys) :
    ∃ I C, TargetRule grantType passage command resourceType resourceId db I C := by
  cases command with
  | none =>
    -- no row has no command, and none is ever inserted
    have hown : ∀ changes, (targetSelection grantType none resourceType resourceId).own changes = 0 := by
      intro changes
      refine List.countP_eq_zero.2 fun change _ => ?_
      cases change with
      | inserted id r => cases r <;> simp [targetSelection]
      | updated id => simp
    refine ⟨fun db => (targetSelection grantType none resourceType resourceId).count db = 0, fun _ => True, ?_, trivial,
      fun _ _ _ => trivial, fun _ _ _ _ _ => trivial, by simp, fun changes db hI _ _ _ => ?_, fun db hI t ht hnames => ?_⟩
    · refine targetSelection_eq_zero.2 fun t ht => ?_
      have hsome := hcommand t ht
      cases hnull : t.command with
      | none => simp [hnull] at hsome
      | some key => simp [PermissionTarget.names, hnull]
    · rw [Selection.count_applyAll, hown, hI]
    · rw [targetSelection_eq_zero.1 hI t ht] at hnames
      exact absurd hnames (by simp)
  | some key =>
    have hsettled : resourceId.isSome = true ∨ (targetSelection grantType (some key) resourceType resourceId).count db ≠ 0 ∨
        passage ∉ db.uniqueKeys := by
      simpa [targetSelection] using hsettled
    obtain ⟨guard, hstart, hown, hpassage⟩ := exists_targetGuard hle hsettled
    refine ⟨(targetSelection grantType (some key) resourceType resourceId).Kept guard,
      (targetSelection grantType (some key) resourceType resourceId).Guarded guard, hstart, Selection.guarded_nil,
      fun _ id hC => hC.updated id, fun _ id r hr hC => hC.inserted id ?_, ?_, fun changes db hI hC hkeys ht => ?_,
      fun db hI t ht hnames => eq_of_length_le_one hI.1 (List.mem_filter.2 ⟨ht, hnames⟩)⟩
    · cases r <;> simp_all [NewRow.isTarget, targetSelection]
    · intro key' hkey' changes db₁ db₂ id hC hI hpassed hnone hfree
      cases hkey'
      exact targetSelection_guarded id hown hpassage hC hI hpassed hnone hfree
    · refine hI.commit hC hkeys fun hzero => ?_
      obtain ⟨t, ht, hnames⟩ := ht
      rw [targetSelection_eq_zero.1 hzero t ht] at hnames
      exact absurd hnames (by simp)

end
end

/-! ## Whole calls -/

section
variable {grantType : PermitDeny} {permission : PermissionAction} {command : Option String}
  {resourceType : PermissionResourceType} {resourceId : Option String} {db : Db}

namespace Statements
variable {I : Db → Prop} {C : List (RowChange NewRow Nat) → Prop} {changes : List (RowChange NewRow Nat)}

theorem reaches_grantPermissionToUser {userId : Nat} {db₀ : Db}
    (hrule : TargetRule grantType (.principalUser userId) (normalizeResourceComponent command) resourceType
      (resourceId.map strip) db₀ I C) (hC : C changes) :
    (grantPermissionToUser userId permission command resourceType resourceId grantType).Reaches (grantSchema grantType) I C
      (Granted grantType (·.userId == some userId) permission command resourceType resourceId) changes db := by
  have htolerant : Tolerant C := ⟨hrule.updated, fun changes id r _ => hrule.inserted changes id r⟩
  refine Stmt.reaches_bind (reaches_findOrCreatePrincipalForUser userId htolerant hC) ?_
  rintro principal changes₁ db₁ - hgoes₁ ⟨hprincipal, huser⟩
  exact reaches_granted _ htolerant (fun _ _ hgrows h => hgrows.uniqueKeys h)
    (Db.principalUser_mem.2 ⟨principal, hprincipal, huser⟩) hrule.allowed hgoes₁.kept hprincipal (by simpa using huser)

/-- The grant to a group: whatever the group and its principal make visible is
passed before the target is looked up. -/
theorem reaches_grantPermissionToGroup {groupIdentifier : String} {Passed : Db → Prop} (groupName : Option String)
    (htolerant : Tolerant C) (hgroups : GroupsAllowed grantType I C groupIdentifier)
    (hpassed : ∀ db db', db.Grows grantType db' → Passed db → Passed db')
    (hnow : ∀ changes' db' group principal, I db' → (grantSchema grantType).Goes C changes db changes' db' →
      group ∈ (visible grantType changes' db').groups → group.answers groupIdentifier = true →
      principal ∈ (visible grantType changes' db').principals → principal.groupId = some group.id →
        Passed (visible grantType changes' db'))
    (htargets : ∀ key, normalizeResourceComponent command = some key →
      TargetsAllowed grantType I C Passed key resourceType (resourceId.map strip)) (hC : C changes) :
    (grantPermissionToGroup groupIdentifier permission command resourceType resourceId grantType groupName).Reaches
      (grantSchema grantType) I C (GroupGranted grantType groupIdentifier permission command resourceType resourceId)
      changes db := by
  refine Stmt.reaches_bind (reaches_findOrCreateGroup groupName hgroups hC) ?_
  rintro group changes₁ db₁ - hgoes₁ ⟨hgroup, hanswers⟩
  refine Stmt.reaches_bind (reaches_findOrCreatePrincipalForGroup group.id htolerant hgoes₁.kept) ?_
  rintro principal changes₂ db₂ hI₂ hgoes₂ ⟨hprincipal, hof⟩
  have hgoes := hgoes₁.trans hgoes₂
  have hgroup₂ := hgoes₂.grows.groups hgroup
  have hnow₂ := hnow changes₂ db₂ group principal hI₂ hgoes hgroup₂ hanswers hprincipal hof
  refine (reaches_granted (·.groupId == some group.id) htolerant hpassed hnow₂ htargets hgoes.kept hprincipal (by simpa using hof)).weaken ?_
  intro row changes₃ db₃ hgoes₃ hgranted
  exact ⟨group, hgoes₃.grows.groups hgroup₂, hanswers, hgranted⟩

/-- A group that is visible makes its guard visible. -/
theorem authorizationKey_visible {identifier : String} {db₀ : Db} {group : Group}
    (hstart : (groupSelection grantType identifier).count db₀ = 0)
    (hI : (groupSelection grantType identifier).Kept (groupGuard grantType identifier db₀) db)
    (hC : (groupSelection grantType identifier).Guarded (groupGuard grantType identifier db₀) changes)
    (hgroup : group ∈ (visible grantType changes db).groups) (hanswers : group.answers identifier = true) :
    .authorizationKey (groupAuthorizationKey identifier) ∈ (visible grantType changes db).uniqueKeys := by
  have hguard : groupGuard grantType identifier db₀ = some (.authorizationKey (groupAuthorizationKey identifier)) :=
    if_pos hstart
  rw [hguard] at hI hC
  have hcount : (groupSelection grantType identifier).count (visible grantType changes db) ≠ 0 := by
    intro hzero
    rw [groupSelection_eq_zero.1 hzero group hgroup] at hanswers
    exact absurd hanswers (by simp)
  rw [Selection.count_applyAll] at hcount
  have hkeys := ((grantSchema grantType).keys_applyAll changes db).mem_iff
    (a := .authorizationKey (groupAuthorizationKey identifier))
  refine hkeys.2 (List.mem_append.2 ?_)
  -- stored, or inserted by this call
  rcases hC with hown | ⟨-, key, hkey, hheld⟩
  · exact .inl (hI.2.1 (by omega) _ rfl)
  · cases hkey
    exact .inr hheld

/-- A group stored from the start is the only one visible. -/
theorem stored_group_visible {identifier : String} {db₀ : Db} {group group₀ : Group}
    (hstart : (groupSelection grantType identifier).count db₀ ≠ 0)
    (hI : (groupSelection grantType identifier).Kept (groupGuard grantType identifier db₀) db)
    (hC : (groupSelection grantType identifier).Guarded (groupGuard grantType identifier db₀) changes)
    (hgroup : group ∈ (visible grantType changes db).groups) (hanswers : group.answers identifier = true)
    (hgroup₀ : group₀ ∈ (visible grantType changes db).groups) (hanswers₀ : group₀.answers identifier = true) :
    group = group₀ := by
  have hguard : groupGuard grantType identifier db₀ = none := if_neg hstart
  rw [hguard] at hC
  have hown : (groupSelection grantType identifier).own changes = 0 := by
    rcases hC with hown | ⟨-, key, hkey, -⟩
    · exact hown
    · simp at hkey
  have hle : ((visible grantType changes db).groups.filter (·.answers identifier)).length ≤ 1 := by
    have hkept := hI.1
    show (groupSelection grantType identifier).count (visible grantType changes db) ≤ 1
    rw [Selection.count_applyAll]
    omega
  have h₁ := eq_of_length_le_one hle (List.mem_filter.2 ⟨hgroup, hanswers⟩)
  have h₂ := eq_of_length_le_one hle (List.mem_filter.2 ⟨hgroup₀, hanswers₀⟩)
  simpa using h₁.symm.trans h₂

/-- The group of a role is there, its members are, and its commands are granted. -/
structure RoleSet (tenantId : TenantId) (roleName : String) (userIds : List Nat) (group : Group) (db : Db) : Prop where
  stored : group ∈ db.groups
  answers : group.answers (tenantRoleGroupIdentifier tenantId roleName) = true
  members : ∀ userId ∈ userIds, Member (tenantRoleGroupIdentifier tenantId roleName) userId db
  granted : ∃ commandKeys, v1BasicRoleCommandKeys.find? (·.1 == roleName) = some (roleName, commandKeys) ∧
    ∀ key ∈ commandKeys,
      CommandGranted (tenantRoleGroupIdentifier tenantId roleName) (roleTenantComponent tenantId roleName) key db

theorem RoleSet.grows {tenantId : TenantId} {roleName : String} {userIds : List Nat} {group : Group} {db db' : Db}
    (h : RoleSet tenantId roleName userIds group db) (hgrows : db.Grows .permit db') :
    RoleSet tenantId roleName userIds group db' := by
  obtain ⟨commandKeys, hrole, hgranted⟩ := h.granted
  exact ⟨hgrows.groups h.stored, h.answers, fun userId hu => (h.members userId hu).grows hgrows, commandKeys, hrole,
    fun key hkey => (hgranted key hkey).grows hgrows⟩

theorem reaches_ensureV1Role {tenantId : TenantId} {roleName : String} {userIds : List Nat} {db₀ : Db}
    (hrule : GroupRule .permit (tenantRoleGroupIdentifier tenantId roleName) db₀ I C) (hC : C changes) :
    (ensureV1Role tenantId roleName userIds).Reaches (grantSchema .permit) I C (RoleSet tenantId roleName userIds)
      changes db := by
  have htolerant : Tolerant C := ⟨hrule.updated, fun changes id r hr _ => hrule.inserted changes id r hr⟩
  refine reaches_orFail fun role hrole => ?_
  obtain ⟨name, commandKeys⟩ := role
  obtain rfl : name = roleName := by simpa using List.find?_some hrole
  refine Stmt.reaches_bind (reaches_findOrCreateGroup (some name) hrule.allowed hC) ?_
  rintro group changes₁ db₁ - hgoes₁ ⟨hgroup, hanswers⟩
  have hmembers : (Stmt.forEach userIds fun userId =>
      (addUserToGroup userId (tenantRoleGroupIdentifier tenantId name) (some name)).bind fun _ => .done ()).Reaches
        (grantSchema .permit) I C (fun _ db => ∀ userId ∈ userIds, Member (tenantRoleGroupIdentifier tenantId name) userId db)
        changes₁ db₁ := by
    refine Stmt.reaches_forEach hgoes₁.kept (fun _ _ _ hgrows h => h.grows hgrows) fun userId _ changes' db' hgoes' => ?_
    refine Stmt.reaches_bind (reaches_addUserToGroup userId (some name) htolerant hrule.allowed hgoes'.kept) ?_
    intro _ changes'' db'' _ hgoes'' hmember
    exact Stmt.reaches_done (fun _ _ hgrows h => h.grows hgrows) hgoes''.kept hmember
  refine Stmt.reaches_bind hmembers fun _ changes₂ db₂ _ hgoes₂ hmembers => ?_
  have hgrants : (grantCommandPermissionsToGroup (tenantRoleGroupIdentifier tenantId name) commandKeys .permit
      (some name)).Reaches (grantSchema .permit) I C (fun _ db => ∀ key ∈ commandKeys,
        CommandGranted (tenantRoleGroupIdentifier tenantId name) (roleTenantComponent tenantId name) key db) changes₂ db₂ := by
    refine Stmt.reaches_forEach hgoes₂.kept (fun _ _ _ hgrows h => h.grows hgrows) fun key _ changes' db' hgoes' => ?_
    refine reaches_orFail fun spec hspec => ?_
    refine Stmt.reaches_bind (reaches_grantPermissionToGroup (some name) htolerant hrule.allowed
      (fun _ _ _ _ => trivial) (fun _ _ _ _ _ _ _ _ _ _ => trivial)
      (fun command _ changes _ _ id hC _ _ _ _ => hrule.inserted changes id _ rfl hC) hgoes'.kept) ?_
    intro row changes'' db'' _ hgoes'' hgranted
    exact Stmt.reaches_done (fun _ _ hgrows h => h.grows hgrows) hgoes''.kept ⟨spec, row, hspec, hgranted⟩
  refine Stmt.reaches_bind hgrants fun _ changes₃ db₃ _ hgoes₃ hgranted => ?_
  refine Stmt.reaches_done (fun _ _ hgrows h => h.grows hgrows) hgoes₃.kept ?_
  have hgoes := hgoes₂.trans hgoes₃
  exact ⟨hgoes.grows.groups hgroup, hanswers, fun userId hu => (hmembers userId hu).grows hgoes₃.grows, commandKeys, hrole,
    hgranted⟩

end Statements
end
end M8flowCore
