import Mathlib.Data.List.Dedup
import M8flowCore.LaneGroups
import M8flowCore.Lanes
/-!
# Who may own a task

What a call that assigns potential owners does, said in the terms of the
documentation: who is named for a lane, who is in its group, and which rows an
item gets. Groups are looked up lane after lane, and what a lookup finds depends
on the stored groups alone.
-/
open M8flowCore.Lib M8flowCore.Session

namespace M8flowCore

/-- The user is in the group. -/
def Db.InGroup (db : Db) (userId groupId : Nat) : Prop := ∃ a ∈ db.userGroupAssignments, a.userId = userId ∧ a.groupId = groupId

/-- The user is a potential owner of the item. -/
def Db.IsOwner (db : Db) (workItemId userId : Nat) : Prop := ∃ row ∈ db.workItemUsers, row.workItemId = workItemId ∧ row.userId = userId

section
variable {W Ω : Type} (env : Env W Ω)

/-! ## Looking groups up -/

/-- The group of a tenant's lane among the stored ones, and the groups after the
lookup. -/
def laneGroup (tenantId : TenantId) (lane : String) (groups : List Group) : Option Group × List Group :=
  let canonical := laneGroupIdentifier env lane tenantId
  let groupId := resolveLaneAssignmentId env lane tenantId
  match groups.find? (·.id == groupId) with
  | some group =>
    if group.identifier == some canonical then (some group, groups)
    else if group.identifier.any fun stored => env.lower (strip stored) == canonical then
      (some { group with name := some canonical, identifier := some canonical },
        updateWhere (·.id == groupId) ({ · with name := some canonical, identifier := some canonical }) groups)
    else (none, groups)
  | none =>
    match (sortById Group.id (groups.filter fun g => g.identifier.any fun stored => env.sqlLower (sqlTrim stored) == lane)).head? with
    | some group => (some group, groups)
    | none => (some ⟨groupId, some canonical, some canonical, none⟩, groups ++ [⟨groupId, some canonical, some canonical, none⟩])

/-- The groups of some lanes, looked up one after the other. -/
def laneGroups (tenantId : TenantId) : List String → List Group → List (String × Option Group) × List Group
  | [], groups => ([], groups)
  | lane :: lanes, groups =>
    let found := laneGroup env tenantId lane groups
    let rest := laneGroups tenantId lanes found.2
    ((lane, found.1) :: rest.1, rest.2)

/-- The group of the task's own lane: as it was found with the configured lanes,
or looked up after them. -/
def taskGroup (tenantId : TenantId) (lanes : List String) (lane : String) (groups : List Group) : Option Group × List Group :=
  let found := laneGroups env tenantId lanes groups
  match found.1.find? (·.1 == lane) with
  | some (_, group) => (group, found.2)
  | none => laneGroup env tenantId lane found.2

theorem findOrCreateLaneGroup_eq (tenantId : TenantId) (lane : String) (s : Tx Ω) :
    (findOrCreateLaneGroup env tenantId lane).run s = (.ok (laneGroup env tenantId lane s.view.groups).1,
      { s with view := { s.view with groups := (laneGroup env tenantId lane s.view.groups).2 } }) := by
  unfold findOrCreateLaneGroup laneGroup query
  simp only [Prog.gets_bind_run]
  cases s.view.groups.find? (·.id == resolveLaneAssignmentId env lane tenantId) with
  | some group =>
    dsimp only
    split
    · rfl
    · split <;> rfl
  | none =>
    simp only [Prog.gets_bind_run]
    cases (sortById Group.id (s.view.groups.filter fun g => g.identifier.any fun stored => env.sqlLower (sqlTrim stored) == lane)).head? with
    | some group => rfl
    | none => rfl

variable {env}

variable (env) in
theorem laneGroups_lanes (tenantId : TenantId) (lanes : List String) (groups : List Group) :
    (laneGroups env tenantId lanes groups).1.map (·.1) = lanes := by
  induction lanes generalizing groups with
  | nil => rfl
  | cons lane lanes ih => simp [laneGroups, ih]

/-! ## Enrolling -/

/-- A session after which some users have joined groups: besides the groups
nothing else is changed, and no row is written for who was in the group. -/
structure Joined (groups : List Group) (joined : Nat → Nat → Prop) (s s' : Tx Ω) : Prop where
  rest : ∃ seq assignments, s' = { s with seq := seq, view := { s.view with groups := groups, userGroupAssignments := assignments } }
  members : ∀ u g, s'.view.InGroup u g ↔ s.view.InGroup u g ∨ joined u g
  idle : (∀ u g, joined u g → s.view.InGroup u g) → s' = { s with view := { s.view with groups := groups } }

theorem joinGroup_run (groupId : Nat) (userIds : List Nat) (s : Tx Ω) :
    ∃ s', (Prog.forEach userIds fun userId => do
        let _ ← Session.insert fun id db =>
          { db with userGroupAssignments := db.userGroupAssignments ++ [{ id := id, userId := userId, groupId := groupId }] } :
        M Ω Unit).run s = (.ok (), s') ∧
      (∃ seq assignments, s' = { s with seq := seq, view := { s.view with userGroupAssignments := assignments } }) ∧
      (∀ u g, s'.view.InGroup u g ↔ s.view.InGroup u g ∨ (u ∈ userIds ∧ g = groupId)) ∧ (userIds = [] → s' = s) := by
  induction userIds generalizing s with
  | nil => exact ⟨s, rfl, ⟨s.seq, s.view.userGroupAssignments, rfl⟩, by simp, fun _ => rfl⟩
  | cons userId userIds ih =>
    set s₁ : Tx Ω := { s with
      seq := s.seq + 1
      view := { s.view with userGroupAssignments := s.view.userGroupAssignments ++ [⟨s.seq, userId, groupId⟩] } } with hs₁
    obtain ⟨s', hrun, ⟨seq, assignments, hrest⟩, hmembers, -⟩ := ih s₁
    refine ⟨s', ?_, ⟨seq, assignments, hrest⟩, fun u g => ?_, fun hnil => absurd hnil (List.cons_ne_nil _ _)⟩
    · rw [Prog.forEach_cons]
      exact hrun
    · have hone : s₁.view.InGroup u g ↔ s.view.InGroup u g ∨ (u = userId ∧ g = groupId) := by
        simp only [Db.InGroup, hs₁, List.mem_append, List.mem_singleton, or_and_right, exists_or, exists_eq_left]
        simp [eq_comm]
      rw [hmembers, hone]
      simp only [List.mem_cons]
      tauto

theorem addGroupMembers_run (groupId : Nat) (userIds : List Nat) (s : Tx Ω) :
    ∃ s', (addGroupMembers groupId userIds).run s = (.ok (), s') ∧ Joined s.view.groups (fun u g => u ∈ userIds ∧ g = groupId) s s' := by
  unfold addGroupMembers query
  rw [Prog.gets_bind_run]
  set joining := (userIds.dedup.filter fun u =>
    !((s.view.userGroupAssignments.filter (·.groupId == groupId)).map (·.userId)).contains u).insertionSort (· ≤ ·) with hjoining
  have hmem : ∀ u, u ∈ joining ↔ u ∈ userIds ∧ ¬ s.view.InGroup u groupId := by
    intro u
    rw [hjoining, List.mem_insertionSort, List.mem_filter, List.mem_dedup]
    simp only [Bool.not_eq_true', Bool.eq_false_iff, ne_eq, List.contains_iff_mem, List.mem_map, List.mem_filter, beq_iff_eq,
      Db.InGroup]
    refine and_congr_right fun _ => not_congr ?_
    constructor
    · rintro ⟨a, ⟨ha, hgroup⟩, huser⟩
      exact ⟨a, ha, huser, hgroup⟩
    · rintro ⟨a, ha, huser, hgroup⟩
      exact ⟨a, ⟨ha, hgroup⟩, huser⟩
  obtain ⟨s', hrun, ⟨seq, assignments, hrest⟩, hmembers, hnobody⟩ := joinGroup_run groupId joining s
  refine ⟨s', hrun, ⟨seq, assignments, hrest⟩, fun u g => ?_, fun hall => ?_⟩
  · rw [hmembers]
    constructor
    · rintro (h | ⟨h, rfl⟩)
      · exact .inl h
      · exact .inr ⟨((hmem u).1 h).1, rfl⟩
    · rintro (h | ⟨h, rfl⟩)
      · exact .inl h
      · by_cases hin : s.view.InGroup u g
        · exact .inl hin
        · exact .inr ⟨(hmem u).2 ⟨h, hin⟩, rfl⟩
  · refine hnobody (List.eq_nil_iff_forall_not_mem.2 fun u hu => ?_)
    obtain ⟨hin, hnot⟩ := (hmem u).1 hu
    exact hnot (hall u groupId ⟨hin, rfl⟩)

/-- Who joins what: the owners of each lane, the group that was found for it. -/
def Enrolls (ownersByLane : List (String × List Nat)) (found : List (String × Option Group)) (u g : Nat) : Prop :=
  ∃ x ∈ ownersByLane.zip found, ∃ group, x.2.2 = some group ∧ u ∈ x.1.2 ∧ g = group.id

theorem Joined.trans {groups groups' : List Group} {joined joined' : Nat → Nat → Prop} {s s₁ s' : Tx Ω}
    (h : Joined groups joined s s₁) (h' : Joined groups' joined' s₁ s') :
    Joined groups' (fun u g => joined u g ∨ joined' u g) s s' := by
  obtain ⟨seq, assignments, hs₁⟩ := h.rest
  obtain ⟨seq', assignments', hs'⟩ := h'.rest
  refine ⟨⟨seq', assignments', by rw [hs', hs₁]⟩, fun u g => ?_, fun hall => ?_⟩
  · rw [h'.members, h.members, or_assoc]
  · have hsame := h.idle fun u g hjoined => hall u g (.inl hjoined)
    rw [h'.idle fun u g hjoined => (h.members u g).2 (.inl (hall u g (.inr hjoined))), hsame]

theorem Joined.congr {groups : List Group} {joined joined' : Nat → Nat → Prop} {s s' : Tx Ω} (h : Joined groups joined s s')
    (hsame : ∀ u g, joined u g ↔ joined' u g) : Joined groups joined' s s' :=
  ⟨h.rest, fun u g => (h.members u g).trans (or_congr_right (hsame u g)),
    fun hall => h.idle fun u g hjoined => hall u g ((hsame u g).1 hjoined)⟩

variable (env) in
/-- What enrolling does for one lane. -/
def enrollLane (tenantId : TenantId) (entry : String × List Nat) : M Ω (String × Option Group) := do
  let group ← findOrCreateLaneGroup env tenantId entry.1
  match group with
  | none => pure (entry.1, none)
  | some group =>
    addGroupMembers group.id entry.2
    pure (entry.1, some group)

variable (env) in
/-- Enrolling looks every lane's group up, in order, and lets its owners join. -/
theorem enrollLaneOwners_run (tenantId : TenantId) (ownersByLane : List (String × List Nat)) (s : Tx Ω) :
    ∃ s', (enrollLaneOwners env tenantId ownersByLane).run s =
        (.ok (laneGroups env tenantId (ownersByLane.map (·.1)) s.view.groups).1, s') ∧
      Joined (laneGroups env tenantId (ownersByLane.map (·.1)) s.view.groups).2
        (Enrolls ownersByLane (laneGroups env tenantId (ownersByLane.map (·.1)) s.view.groups).1) s s' := by
  induction ownersByLane generalizing s with
  | nil => exact ⟨s, rfl, ⟨s.seq, s.view.userGroupAssignments, rfl⟩, by simp [Enrolls], fun _ => rfl⟩
  | cons entry rest ih =>
    have hlookup := findOrCreateLaneGroup_eq env tenantId entry.1 s
    set found := laneGroup env tenantId entry.1 s.view.groups with hfound
    set s₁ : Tx Ω := { s with view := { s.view with groups := found.2 } } with hs₁
    have hjoined₁ : Joined found.2 (fun _ _ => False) s s₁ :=
      ⟨⟨s.seq, s.view.userGroupAssignments, rfl⟩, by simp [Db.InGroup, hs₁], fun _ => rfl⟩
    -- the first lane, whose owners join when it has a group
    have hfirst : ∃ s₂, (enrollLane env tenantId entry).run s = (.ok (entry.1, found.1), s₂) ∧
        Joined found.2 (fun u g => ∃ group, found.1 = some group ∧ u ∈ entry.2 ∧ g = group.id) s s₂ := by
      unfold enrollLane
      rw [Prog.bind_run_ok hlookup]
      cases hgroup : found.1 with
      | none =>
        exact ⟨s₁, rfl, hjoined₁.congr fun u g => by simp⟩
      | some group =>
        obtain ⟨s₂, hrun, hjoined₂⟩ := addGroupMembers_run group.id entry.2 s₁
        refine ⟨s₂, ?_, (hjoined₁.trans hjoined₂).congr fun u g => by simp⟩
        rw [Prog.bind_run_ok hrun]
        rfl
    obtain ⟨s₂, hrun₂, hjoined₂⟩ := hfirst
    obtain ⟨s', hrun', hjoined'⟩ := ih s₂
    obtain ⟨seq, assignments, hs₂⟩ := hjoined₂.rest
    have hgroups : s₂.view.groups = found.2 := by rw [hs₂]
    rw [hgroups] at hrun' hjoined'
    refine ⟨s', ?_, (hjoined₂.trans hjoined').congr fun u g => ?_⟩
    · unfold enrollLaneOwners at hrun' ⊢
      rw [Prog.mapEach_cons]
      refine (Prog.bind_run_ok hrun₂).trans ?_
      rw [Prog.bind_run_ok hrun']
      rfl
    · simp only [Enrolls, List.map_cons, laneGroups, List.zip_cons_cons, List.mem_cons, exists_eq_or_imp, hfound]

/-! ## Who is named for a lane -/

/-- The entries of the `lane_owners` mapping that counts: the task's, if its data
holds a mapping, and else the definition's. -/
def effectiveEntries (taskData : Dict) (definitionProperties : Option Dict) : List (PyVal × PyVal) :=
  match taskData.get laneOwnersKey with
  | some (.dict entries) => entries
  | _ => ((definitionProperties.bind (·.get laneOwnersKey)).bind PyVal.asMapping).getD []

variable (env) in
/-- The identifier is listed for the lane. Entries whose key is no lane name or
whose value is no list do not count, nor do identifiers that are no text. -/
def ListedFor (entries : List (PyVal × PyVal)) (lane identifier : String) : Prop :=
  ∃ entry ∈ entries, normalizeLaneName env entry.1 = some lane ∧ ∃ values, entry.2.asList = some values ∧ .str identifier ∈ values

/-- The user has the identifier as username, e-mail address or service id. -/
def User.Matches (u : User) (identifier : String) : Prop :=
  u.username = identifier ∨ u.email = some identifier ∨ u.serviceId = identifier

/-- The user row belongs to the tenant. -/
def Db.Member (db : Db) (tenantId : TenantId) (u : User) : Prop :=
  u ∈ db.users ∧ userBelongsToTenant u (tenantIdentifiersFor db tenantId) = true

/-- The member whom an identifier names. What looks like an e-mail address and
matches no member names the member whose username is its local part. -/
def Db.Names (db : Db) (tenantId : TenantId) (identifier : String) (userId : Nat) : Prop :=
  ∃ u, db.Member tenantId u ∧ u.id = userId ∧ (u.Matches identifier ∨
    ((∀ v, db.Member tenantId v → ¬ v.Matches identifier) ∧ ∃ localPart rest, identifier.toList = localPart ++ '@' :: rest ∧
      '@' ∉ localPart ∧ localPart ≠ [] ∧ u.username = String.ofList localPart))

variable (env) in
/-- The user is a tenant member whom the configuration names for the lane. -/
def NamedFor (db : Db) (tenantId : TenantId) (entries : List (PyVal × PyVal)) (lane : String) (userId : Nat) : Prop :=
  ∃ identifier, ListedFor env entries lane identifier ∧ strip identifier ≠ "" ∧ db.Names tenantId (strip identifier) userId

/-- The identifiers grouped under a lane. -/
def identifiersOf (grouped : List (String × List String)) (lane : String) : List String :=
  ((grouped.find? (·.1 == lane)).map (·.2)).getD []

theorem identifiersOf_extendGroup (grouped : List (String × List String)) (lane lane' : String) (identifiers : List String) :
    identifiersOf (extendGroup grouped lane identifiers) lane' =
      identifiersOf grouped lane' ++ if lane = lane' then identifiers else [] := by
  unfold extendGroup identifiersOf
  split
  · rename_i hany
    have hfind : (updateWhere (·.1 == lane) (fun g => (lane, g.2 ++ identifiers)) grouped).find? (·.1 == lane') =
        (grouped.find? (·.1 == lane')).map fun g => if g.1 == lane then (lane, g.2 ++ identifiers) else g :=
      find?_updateWhere fun g _ hg => by rw [beq_iff_eq.1 hg]
    refine (congrArg (fun found => (Option.map (·.2) found).getD []) hfind).trans ?_
    cases hfound : grouped.find? (·.1 == lane') with
    | none =>
      have hne : lane ≠ lane' := by
        rintro rfl
        obtain ⟨g, hg, hlane⟩ := List.any_eq_true.1 hany
        exact List.find?_eq_none.1 hfound g hg hlane
      simp [hne]
    | some g =>
      have hg : g.1 = lane' := by simpa using List.find?_some hfound
      by_cases hsame : lane = lane'
      · simp [hg, hsame]
      · simp [hg, hsame, Ne.symm hsame]
  · rename_i hnone
    by_cases hsame : lane = lane'
    · subst hsame
      have hfound : grouped.find? (·.1 == lane) = none := by
        rw [List.find?_eq_none]
        exact fun g hg hlane => hnone (List.any_eq_true.2 ⟨g, hg, hlane⟩)
      simp [List.find?_append, hfound]
    · have hne : (lane == lane') = false := by simpa using hsame
      simp [List.find?_append, hsame, hne]

theorem mem_identifiersOf (entries : List (PyVal × PyVal)) (lane identifier : String) :
    identifier ∈ identifiersOf (laneOwnerIdentifiers env (some (.dict entries))) lane ↔ ListedFor env entries lane identifier := by
  have hfold : ∀ (grouped : List (String × List String)), identifier ∈ identifiersOf
      (entries.foldl (addLaneEntry env) grouped) lane ↔ identifier ∈ identifiersOf grouped lane ∨ ListedFor env entries lane identifier := by
    induction entries with
    | nil => simp [ListedFor]
    | cons entry entries ih =>
      intro grouped
      have htext : ∀ values : List PyVal, identifier ∈ values.filterMap PyVal.asStr ↔ .str identifier ∈ values := by
        intro values
        rw [List.mem_filterMap]
        constructor
        · rintro ⟨value, hvalue, htext⟩
          cases value <;> simp [PyVal.asStr] at htext
          rwa [htext] at hvalue
        · exact fun hvalue => ⟨_, hvalue, rfl⟩
      rw [List.foldl_cons, ih]
      simp only [ListedFor, List.mem_cons, exists_eq_or_imp, addLaneEntry]
      rcases hlane : normalizeLaneName env entry.1 with - | lane'
      · simp
      · rcases hvalues : entry.2.asList with - | values
        · simp
        · dsimp only
          rw [identifiersOf_extendGroup, List.mem_append, or_assoc]
          by_cases hsame : lane' = lane
          · simp [hsame, htext]
          · simp [hsame]
  refine Iff.trans Iff.rfl ((hfold []).trans ?_)
  simp [identifiersOf]

theorem effectiveLaneOwners_eq (taskData : Dict) (definitionProperties : Option Dict) :
    effectiveLaneOwners env taskData definitionProperties =
      laneOwnerIdentifiers env (some (.dict (effectiveEntries taskData definitionProperties))) := by
  have hvalue : ∀ value : Option PyVal,
      laneOwnerIdentifiers env value = laneOwnerIdentifiers env (some (.dict ((value.bind PyVal.asMapping).getD []))) := by
    intro value
    cases value with
    | none => rfl
    | some value => cases value <;> rfl
  unfold effectiveLaneOwners effectiveEntries
  cases htask : taskData.get laneOwnersKey with
  | none => exact hvalue _
  | some value => cases value <;> first | rfl | exact hvalue _

/-! ## Resolving identifiers -/

/-- The members among the users that satisfy a condition, as ids. -/
theorem mem_membersWhere {db : Db} {tenantId : TenantId} {p : User → Bool} {userId : Nat} :
    userId ∈ (sortById User.id (db.users.filter fun u => p u && userBelongsToTenant u (tenantIdentifiersFor db tenantId))).map (·.id) ↔
      ∃ u, db.Member tenantId u ∧ u.id = userId ∧ p u = true := by
  simp only [sortById, List.mem_map, List.mem_insertionSort, List.mem_filter, Bool.and_eq_true, Db.Member]
  constructor
  · rintro ⟨u, ⟨hu, hp, hmember⟩, hid⟩
    exact ⟨u, ⟨hu, hmember⟩, hid, hp⟩
  · rintro ⟨u, ⟨hu, hmember⟩, hid, hp⟩
    exact ⟨u, ⟨hu, hp, hmember⟩, hid⟩

theorem mem_lookupOwner {db : Db} {tenantId : TenantId} {identifier : String} {userId : Nat} :
    userId ∈ lookupOwner db (tenantIdentifiersFor db tenantId) identifier ↔ db.Names tenantId identifier userId := by
  have hmatches : ∀ u : User, (u.username == identifier || u.email == some identifier || u.serviceId == identifier) = true ↔
      u.Matches identifier := by
    intro u
    simp [User.Matches, or_assoc]
  unfold lookupOwner
  dsimp only
  set exact := (sortById User.id (db.users.filter fun u =>
    (u.username == identifier || u.email == some identifier || u.serviceId == identifier) &&
      userBelongsToTenant u (tenantIdentifiersFor db tenantId))).map (·.id) with hexact
  have hmem : ∀ i, i ∈ exact ↔ ∃ u, db.Member tenantId u ∧ u.id = i ∧ u.Matches identifier := by
    intro i
    rw [hexact, mem_membersWhere (p := fun u => u.username == identifier || u.email == some identifier || u.serviceId == identifier)]
    simp only [hmatches]
  have hsplit : ∀ localPart rest, identifier.toList = localPart ++ '@' :: rest → '@' ∉ localPart →
      partition '@' identifier.toList = (localPart, some rest) := by
    intro localPart rest htext hat
    rw [htext, partition_glue hat]
  clear_value exact
  cases exact with
  | nil =>
    have hnobody : ∀ v, db.Member tenantId v → ¬ v.Matches identifier := fun v hv hmatch =>
      absurd ((hmem v.id).2 ⟨v, hv, rfl, hmatch⟩) List.not_mem_nil
    rcases hparts : partition '@' identifier.toList with ⟨localPart, - | rest⟩
    · -- there is no `@` in the identifier
      refine iff_of_false List.not_mem_nil ?_
      rintro ⟨u, hu, -, hmatch | ⟨-, localPart', rest', htext, hat, -, -⟩⟩
      · exact hnobody u hu hmatch
      · rw [hsplit localPart' rest' htext hat] at hparts
        cases hparts
    · have hat : '@' ∉ localPart := by
        have := not_mem_partition (c := '@') (l := identifier.toList)
        rwa [hparts] at this
      have htext : identifier.toList = localPart ++ '@' :: rest := by
        have := partition_some (c := '@') (l := identifier.toList) (congrArg Prod.snd hparts)
        rwa [hparts] at this
      dsimp only
      split
      · rename_i hempty
        refine iff_of_false List.not_mem_nil ?_
        rintro ⟨u, hu, -, hmatch | ⟨-, localPart', rest', htext', hat', hne, -⟩⟩
        · exact hnobody u hu hmatch
        · rw [hsplit localPart' rest' htext' hat'] at hparts
          cases hparts
          exact hne (List.isEmpty_iff.1 hempty)
      · rename_i hempty
        rw [mem_membersWhere (p := fun u => u.username == String.ofList localPart)]
        constructor
        · rintro ⟨u, hu, hid, hname⟩
          exact ⟨u, hu, hid, .inr ⟨hnobody, localPart, rest, htext, hat, fun he => hempty (List.isEmpty_iff.2 he), by simpa using hname⟩⟩
        · rintro ⟨u, hu, hid, hmatch | ⟨-, localPart', rest', htext', hat', -, hname⟩⟩
          · exact absurd hmatch (hnobody u hu)
          · rw [hsplit localPart' rest' htext' hat'] at hparts
            cases hparts
            exact ⟨u, hu, hid, by simp [hname]⟩
  | cons i is =>
    obtain ⟨v, hv, -, hmatch⟩ := (hmem i).1 (by simp)
    refine Iff.trans (iff_of_eq rfl) ((hmem userId).trans ?_)
    constructor
    · rintro ⟨u, hu, hid, hmatches⟩
      exact ⟨u, hu, hid, .inl hmatches⟩
    · rintro ⟨u, hu, hid, hmatches | ⟨hnobody, -⟩⟩
      · exact ⟨u, hu, hid, hmatches⟩
      · exact absurd hmatch (hnobody v hv)

/-- Collecting without repetition. -/
theorem foldl_collect (xs init : List Nat) :
    (∀ u, u ∈ xs.foldl (fun acc u => if acc.contains u then acc else acc ++ [u]) init ↔ u ∈ init ∨ u ∈ xs) ∧
    (init.Nodup → (xs.foldl (fun acc u => if acc.contains u then acc else acc ++ [u]) init).Nodup) := by
  induction xs generalizing init with
  | nil => simp
  | cons x xs ih =>
    rw [List.foldl_cons]
    by_cases hin : x ∈ init
    · rw [if_pos (by simpa using hin)]
      refine ⟨fun u => ?_, (ih init).2⟩
      rw [(ih init).1, List.mem_cons]
      constructor
      · exact Or.imp_right .inr
      · rintro (h | rfl | h)
        · exact .inl h
        · exact .inl hin
        · exact .inr h
    · rw [if_neg (by simpa using hin)]
      refine ⟨fun u => ?_, fun hnodup => (ih _).2 ?_⟩
      · rw [(ih _).1, List.mem_append, List.mem_singleton, List.mem_cons, or_assoc]
      · exact List.nodup_append'.2 ⟨hnodup, by simp, by simpa using hin⟩

theorem mem_resolveLaneOwners {db : Db} {tenantIdentifiers : List String} {identifiers : List String} {userId : Nat} :
    userId ∈ resolveLaneOwners db tenantIdentifiers identifiers ↔
      ∃ identifier ∈ identifiers, strip identifier ≠ "" ∧ userId ∈ lookupOwner db tenantIdentifiers (strip identifier) := by
  have hfold : ∀ init : List Nat, userId ∈ identifiers.foldl (fun (owners : List Nat) identifier =>
      let key := strip identifier
      if key == "" then owners
      else (lookupOwner db tenantIdentifiers key).foldl (fun (acc : List Nat) u => if acc.contains u then acc else acc ++ [u]) owners)
      init ↔ userId ∈ init ∨ ∃ identifier ∈ identifiers, strip identifier ≠ "" ∧
        userId ∈ lookupOwner db tenantIdentifiers (strip identifier) := by
    induction identifiers with
    | nil => simp
    | cons identifier identifiers ih =>
      intro init
      rw [List.foldl_cons, ih]
      simp only [List.mem_cons, exists_eq_or_imp]
      by_cases hblank : strip identifier = ""
      · simp [hblank]
      · rw [if_neg (by simpa using hblank), (foldl_collect _ _).1]
        simp [hblank, or_assoc]
  exact (hfold []).trans (by simp)

theorem nodup_resolveLaneOwners (db : Db) (tenantIdentifiers identifiers : List String) :
    (resolveLaneOwners db tenantIdentifiers identifiers).Nodup := by
  have hfold : ∀ init : List Nat, init.Nodup → (identifiers.foldl (fun (owners : List Nat) identifier =>
      let key := strip identifier
      if key == "" then owners
      else (lookupOwner db tenantIdentifiers key).foldl (fun (acc : List Nat) u => if acc.contains u then acc else acc ++ [u]) owners)
      init).Nodup := by
    induction identifiers with
    | nil => exact fun _ h => h
    | cons identifier identifiers ih =>
      intro init hinit
      rw [List.foldl_cons]
      refine ih _ ?_
      dsimp only
      split
      · exact hinit
      · exact (foldl_collect _ _).2 hinit
  exact hfold [] List.nodup_nil

/-! ## A task in a lane -/

/-- A task in a lane that is not an initiator lane, with what its owners depend
on besides the database. -/
structure LaneTask where
  tenantId : TenantId
  lane : String
  initiatorLanes : List String
  taskData : Dict
  definitionProperties : Option Dict
  notInitiator : lane ∉ initiatorLanes

namespace LaneTask
variable (env : Env W Ω) (t : LaneTask) (db : Db)

/-- The configured lanes with the members named for each, initiator lanes apart. -/
def configured : List (String × List Nat) :=
  ((effectiveLaneOwners env t.taskData t.definitionProperties).filter fun e => !t.initiatorLanes.contains e.1).map
    fun e => (e.1, resolveLaneOwners db (tenantIdentifiersFor db t.tenantId) e.2)

/-- The members named for the task's lane. -/
def named : List Nat := (((t.configured env db).find? (·.1 == t.lane)).map (·.2)).getD []

/-- The configured lanes. -/
def lanes : List String :=
  ((effectiveLaneOwners env t.taskData t.definitionProperties).filter fun e => !t.initiatorLanes.contains e.1).map (·.1)

/-- The group of the task's lane, and the groups once it is found. -/
def group : Option Group × List Group := taskGroup env t.tenantId (t.lanes env) t.lane db.groups

/-- Who joins which group. -/
def Enroll (u g : Nat) : Prop := Enrolls (t.configured env db) (laneGroups env t.tenantId (t.lanes env) db.groups).1 u g

variable {env t db}

theorem map_configured : (t.configured env db).map (·.1) = t.lanes env := by
  simp [configured, lanes]

theorem named_eq : t.named env db = resolveLaneOwners db (tenantIdentifiersFor db t.tenantId)
    (identifiersOf (effectiveLaneOwners env t.taskData t.definitionProperties) t.lane) := by
  have hfind : ((effectiveLaneOwners env t.taskData t.definitionProperties).filter fun e => !t.initiatorLanes.contains e.1).find?
      (·.1 == t.lane) = (effectiveLaneOwners env t.taskData t.definitionProperties).find? (·.1 == t.lane) := by
    rw [List.find?_filter]
    refine congrArg (fun p => List.find? p _) (funext fun e => ?_)
    by_cases he : e.1 = t.lane
    · simp [he, t.notInitiator]
    · simp [he]
  unfold named configured identifiersOf
  rw [List.find?_map]
  have hcomp : ((fun x : String × List Nat => x.1 == t.lane) ∘ fun e : String × List String =>
      (e.1, resolveLaneOwners db (tenantIdentifiersFor db t.tenantId) e.2)) = fun e => e.1 == t.lane := rfl
  rw [hcomp, hfind]
  cases (effectiveLaneOwners env t.taskData t.definitionProperties).find? (·.1 == t.lane) with
  | none => rfl
  | some e => rfl

theorem mem_named {userId : Nat} : userId ∈ t.named env db ↔
    NamedFor env db t.tenantId (effectiveEntries t.taskData t.definitionProperties) t.lane userId := by
  rw [named_eq, mem_resolveLaneOwners, effectiveLaneOwners_eq]
  simp only [mem_identifiersOf, mem_lookupOwner, NamedFor]

theorem nodup_named : (t.named env db).Nodup := by
  rw [named_eq]
  exact nodup_resolveLaneOwners _ _ _

end LaneTask

/-! ## The run of a call -/

theorem mem_tenantGroupMembers (db : Db) {db₀ : Db} (tenantId : TenantId) (groupId userId : Nat) (husers : db.users = db₀.users) :
    userId ∈ tenantGroupMembers db groupId (tenantIdentifiersFor db₀ tenantId) ↔
      db.InGroup userId groupId ∧ ∃ u, db₀.Member tenantId u ∧ u.id = userId := by
  unfold tenantGroupMembers sortById Db.InGroup Db.Member
  rw [husers]
  simp only [List.mem_map, List.mem_insertionSort, List.mem_filter, Bool.and_eq_true, List.any_eq_true, beq_iff_eq]
  constructor
  · rintro ⟨u, ⟨hu, ⟨a, ha, hau, hag⟩, hmember⟩, rfl⟩
    exact ⟨⟨a, ha, hau, hag⟩, u, ⟨hu, hmember⟩, rfl⟩
  · rintro ⟨⟨a, ha, hau, hag⟩, u, ⟨hu, hmember⟩, rfl⟩
    exact ⟨u, ⟨hu, ⟨a, ha, hau, hag⟩, hmember⟩, rfl⟩

theorem nodup_tenantGroupMembers (db : Db) (hids : (db.users.map (·.id)).Nodup) (groupId : Nat) (tenantIdentifiers : List String) :
    (tenantGroupMembers db groupId tenantIdentifiers).Nodup := by
  have hsub := (List.filter_sublist (p := fun u => db.userGroupAssignments.any (fun a => a.userId == u.id && a.groupId == groupId) &&
    userBelongsToTenant u tenantIdentifiers) (l := db.users)).map User.id
  exact ((List.perm_insertionSort _ _).map User.id).nodup_iff.2 (hids.sublist hsub)

theorem not_any_labelled {α : Type} {a : α} {named : List Nat} {u : Nat} :
    ((!(named.map (fun u => (u, a))).any (·.1 == u)) = true) ↔ u ∉ named := by
  simp only [List.any_map, Bool.not_eq_true', List.any_eq_false, Function.comp_apply, beq_iff_eq]
  exact ⟨fun h hu => h u hu rfl, fun h x hx he => h (he ▸ hx)⟩

/-- Owners that are labelled by the first rule that gives them. -/
theorem nodup_labelled {α : Type} {a b : α} {named members : List Nat} (hnamed : named.Nodup) (hmembers : members.Nodup) :
    ((named.map (fun u => (u, a)) ++ (members.filter fun u => !(named.map (fun u => (u, a))).any (·.1 == u)).map
      fun u => (u, b)).map (·.1)).Nodup := by
  rw [List.map_append, List.map_map, List.map_map]
  refine List.nodup_append'.2 ⟨?_, ?_, ?_⟩
  · exact (List.map_id _).symm ▸ hnamed
  · exact (List.map_id _).symm ▸ hmembers.filter _
  · intro u hin hmem
    obtain ⟨u', hu', rfl⟩ := List.mem_map.1 hin
    obtain ⟨u'', hu'', hsame⟩ := List.mem_map.1 hmem
    obtain rfl : u'' = u' := hsame
    have hnew := (List.mem_filter.1 hu'').2
    simp only [not_any_labelled] at hnew
    exact hnew hu'

/-- The user is named for the task's lane. -/
def LaneTask.Names (env : Env W Ω) (t : LaneTask) (db : Db) (u : Nat) : Prop :=
  NamedFor env db t.tenantId (effectiveEntries t.taskData t.definitionProperties) t.lane u

/-- The owners of a lane task: who is named, and else who is in the lane's group. -/
def LaneTask.Owns (env : Env W Ω) (t : LaneTask) (db db' : Db) (u : Nat) (label : WorkItemUserAddedBy) : Prop :=
  (label = .laneOwner ∧ t.Names env db u) ∨
    (label = .laneAssignment ∧ ¬ t.Names env db u ∧ ∃ g, (t.group env db).1 = some g ∧ db'.InGroup u g.id ∧
      ∃ user, db.Member t.tenantId user ∧ user.id = u)

/-- The items once the lane's group is set. -/
def LaneTask.items (env : Env W Ω) (t : LaneTask) (workItemId : Nat) (db : Db) : List WorkItem :=
  match (t.group env db).1 with
  | none => db.workItems
  | some g => updateWhere (·.id == workItemId) ({ · with laneAssignmentId := some g.id }) db.workItems

/-- Groups were looked up, owners have joined them and the item has its lane's
group: nothing else is changed. -/
structure LaneTask.Enrolled (env : Env W Ω) (t : LaneTask) (workItemId : Nat) (s s' : Tx Ω) : Prop where
  rest : ∃ seq assignments, s' = { s with
    seq := seq
    view := { s.view with
      groups := (t.group env s.view).2, userGroupAssignments := assignments, workItems := t.items env workItemId s.view } }
  members : ∀ u g, s'.view.InGroup u g ↔ s.view.InGroup u g ∨ t.Enroll env s.view u g
  idle : (∀ u g, t.Enroll env s.view u g → s.view.InGroup u g) →
    s'.seq = s.seq ∧ s'.view.userGroupAssignments = s.view.userGroupAssignments

variable (env) in
/-- The lookup of the task's own group, once the configured lanes are enrolled. -/
theorem taskGroup_run {α : Type} (tenantId : TenantId) (lanes : List String) (lane : String) {groups : List Group} {s : Tx Ω}
    (hgroups : s.view.groups = (laneGroups env tenantId lanes groups).2) (k : Option Group → M Ω α) :
    (match (laneGroups env tenantId lanes groups).1.find? (·.1 == lane) with
      | some (_, group) => do
        let group ← pure group
        k group
      | none => do
        let group ← findOrCreateLaneGroup env tenantId lane
        k group : M Ω α).run s =
      (k (taskGroup env tenantId lanes lane groups).1).run
        { s with view := { s.view with groups := (taskGroup env tenantId lanes lane groups).2 } } := by
  unfold taskGroup
  dsimp only
  cases (laneGroups env tenantId lanes groups).1.find? (·.1 == lane) with
  | none =>
    dsimp only
    rw [Prog.bind_run_ok (findOrCreateLaneGroup_eq env tenantId lane s), hgroups]
  | some entry =>
    dsimp only
    rw [← hgroups]
    rfl

variable (env) in
/-- What is left to do once the group of the task's lane is found. -/
def LaneTask.ownersIn (t : LaneTask) (workItemId : Nat) (db : Db) (group : Option Group) : M Ω (List (Nat × WorkItemUserAddedBy)) :=
  let named := (t.named env db).map fun u => (u, WorkItemUserAddedBy.laneOwner)
  match group with
  | none => pure named
  | some group => do
    setLaneAssignment workItemId (some group.id)
    let members ← query fun db' => tenantGroupMembers db' group.id (tenantIdentifiersFor db t.tenantId)
    pure (named ++ (members.filter fun u => !named.any (·.1 == u)).map fun u => (u, .laneAssignment))

variable (env) in
theorem laneTaskOwners_run (t : LaneTask) (workItemId : Nat) (s : Tx Ω) :
    ∃ owners s', (laneTaskOwners env t.tenantId workItemId t.lane t.initiatorLanes t.taskData t.definitionProperties).run s =
        (.ok owners, s') ∧ t.Enrolled env workItemId s s' ∧
      (∀ u label, (u, label) ∈ owners ↔ t.Owns env s.view s'.view u label) ∧
      ((s.view.users.map (·.id)).Nodup → (owners.map (·.1)).Nodup) := by
  obtain ⟨s₁, hrun₁, ⟨seq, assignments, rfl⟩, hmembers₁, hidle₁⟩ := enrollLaneOwners_run env t.tenantId (t.configured env s.view) s
  rw [LaneTask.map_configured] at hrun₁ hmembers₁ hidle₁
  have hidle : (∀ u g, t.Enroll env s.view u g → s.view.InGroup u g) → seq = s.seq ∧ assignments = s.view.userGroupAssignments :=
    fun hall => ⟨congrArg Tx.seq (hidle₁ hall), congrArg (·.view.userGroupAssignments) (hidle₁ hall)⟩
  set s₁ : Tx Ω := { s with
    seq := seq
    view := { s.view with
      groups := (laneGroups env t.tenantId (t.lanes env) s.view.groups).2, userGroupAssignments := assignments } } with hs₁
  have hstart : (laneTaskOwners env t.tenantId workItemId t.lane t.initiatorLanes t.taskData t.definitionProperties).run s =
      (t.ownersIn env workItemId s.view (t.group env s.view).1).run
        { s₁ with view := { s₁.view with groups := (t.group env s.view).2 } } := by
    refine Eq.trans ?_ (taskGroup_run env t.tenantId (t.lanes env) t.lane rfl _)
    unfold laneTaskOwners query
    simp only [Prog.gets_bind_run]
    exact Prog.bind_run_ok hrun₁
  rw [hstart]
  have hin : ∀ u g (db : Db), db.userGroupAssignments = assignments → (db.InGroup u g ↔ s.view.InGroup u g ∨ t.Enroll env s.view u g) := by
    intro u g db hdb
    refine Iff.trans ?_ (hmembers₁ u g)
    unfold Db.InGroup
    rw [hdb]
  cases hfound : (t.group env s.view).1 with
  | none =>
    refine ⟨_, _, rfl, ⟨⟨seq, assignments, ?_⟩, fun u g => hin u g _ rfl, hidle⟩, fun u label => ?_, fun _ => ?_⟩
    · rw [LaneTask.items, hfound]
    · simp only [LaneTask.Owns, hfound, List.mem_map, Prod.mk.injEq]
      constructor
      · rintro ⟨u', hu', rfl, rfl⟩
        exact .inl ⟨rfl, LaneTask.mem_named.1 hu'⟩
      · rintro (⟨rfl, hu⟩ | ⟨-, -, g, hg, -⟩)
        · exact ⟨u, LaneTask.mem_named.2 hu, rfl, rfl⟩
        · cases hg
    · rw [List.map_map]
      exact (List.map_id _).symm ▸ LaneTask.nodup_named
  | some g =>
    refine ⟨_, _, rfl, ⟨⟨seq, assignments, ?_⟩, fun u g => hin u g _ rfl, hidle⟩, fun u label => ?_, fun hids => ?_⟩
    · rw [LaneTask.items, hfound]
    · have hmember := mem_tenantGroupMembers { s.view with userGroupAssignments := assignments } t.tenantId g.id u rfl
      simp only [LaneTask.Owns, hfound, List.mem_append, List.mem_map, List.mem_filter, Prod.mk.injEq, Option.some.injEq]
      constructor
      · rintro (⟨u', hu', rfl, rfl⟩ | ⟨u', ⟨hu', hnew⟩, rfl, rfl⟩)
        · exact .inl ⟨rfl, LaneTask.mem_named.1 hu'⟩
        · obtain ⟨hgroup, hmem⟩ := hmember.1 hu'
          exact .inr ⟨rfl, fun hnamed => not_any_labelled.1 hnew (LaneTask.mem_named.2 hnamed), g, rfl, hgroup, hmem⟩
      · rintro (⟨rfl, hu⟩ | ⟨rfl, hu, _, rfl, hgroup, hmem⟩)
        · exact .inl ⟨u, LaneTask.mem_named.2 hu, rfl, rfl⟩
        · exact .inr ⟨u, ⟨hmember.2 ⟨hgroup, hmem⟩, not_any_labelled.2 fun hin => hu (LaneTask.mem_named.1 hin)⟩, rfl, rfl⟩
    · exact nodup_labelled LaneTask.nodup_named
        (nodup_tenantGroupMembers { s.view with userGroupAssignments := assignments } hids g.id _)

/-! ## The rows of the item -/

theorem forEach_appendOwners (tenantId : TenantId) (workItemId : Nat) (owners : List (Nat × WorkItemUserAddedBy)) (s : Tx Ω) :
    (Prog.forEach owners fun owner => write fun db => { db with
      workItemUsers := db.workItemUsers ++ [⟨tenantId, workItemId, owner.1, some owner.2⟩] } : M Ω Unit).run s =
      (.ok (), { s with view := { s.view with
        workItemUsers := s.view.workItemUsers ++ owners.map fun owner => ⟨tenantId, workItemId, owner.1, some owner.2⟩ } }) := by
  induction owners generalizing s with
  | nil =>
    simp only [List.map_nil, List.append_nil]
    rfl
  | cons owner owners ih =>
    rw [Prog.forEach_cons]
    refine (ih _).trans ?_
    simp only [List.map_cons, List.append_assoc, List.singleton_append]

/-- The rows of an item after a call: those it had, and one for every owner who
was not there. -/
structure OwnersAdded (tenantId : TenantId) (workItemId : Nat) (owns : Nat → WorkItemUserAddedBy → Prop) (rows rows' : List WorkItemUser) :
    Prop where
  added : ∃ added, rows' = rows ++ added ∧ (added.map (·.userId)).Nodup ∧ ∀ row, row ∈ added ↔
    ∃ u label, owns u label ∧ (∀ old ∈ rows, old.workItemId = workItemId → old.userId ≠ u) ∧ row = ⟨tenantId, workItemId, u, some label⟩

theorem addMissingPotentialOwners_run (tenantId : TenantId) (workItemId : Nat) {owners : List (Nat × WorkItemUserAddedBy)}
    (howners : (owners.map (·.1)).Nodup) (s : Tx Ω) :
    ∃ rows, (addMissingPotentialOwners tenantId workItemId owners).run s =
        (.ok (), { s with view := { s.view with workItemUsers := rows } }) ∧
      OwnersAdded tenantId workItemId (fun u label => (u, label) ∈ owners) s.view.workItemUsers rows := by
  unfold addMissingPotentialOwners query
  rw [Prog.gets_bind_run, forEach_appendOwners]
  refine ⟨_, rfl, _, rfl, ?_, fun row => ?_⟩
  · rw [List.map_map]
    have hsub := (List.filter_sublist (p := fun o => !((s.view.workItemUsers.filter (·.workItemId == workItemId)).map
      (·.userId)).contains o.1) (l := owners)).map Prod.fst
    exact ((List.perm_insertionSort _ _).map Prod.fst).nodup_iff.2 (howners.sublist hsub)
  · simp only [sortById, List.mem_map, List.mem_insertionSort, List.mem_filter]
    constructor
    · rintro ⟨⟨u, label⟩, ⟨hin, hnew⟩, rfl⟩
      refine ⟨u, label, hin, fun old hold hitem hsame => ?_, rfl⟩
      simp only [Bool.not_eq_true', List.contains_eq_mem, decide_eq_false_iff_not] at hnew
      exact hnew (List.mem_map.2 ⟨old, List.mem_filter.2 ⟨hold, by simpa using hitem⟩, hsame⟩)
    · rintro ⟨u, label, hin, hnew, rfl⟩
      refine ⟨(u, label), ⟨hin, ?_⟩, rfl⟩
      simp only [Bool.not_eq_true', List.contains_eq_mem, decide_eq_false_iff_not]
      intro hpresent
      obtain ⟨old, hold, hsame⟩ := List.mem_map.1 hpresent
      obtain ⟨hold, hitem⟩ := List.mem_filter.1 hold
      exact hnew old hold (by simpa using hitem) hsame

theorem OwnersAdded.congr {tenantId : TenantId} {workItemId : Nat} {owns owns' : Nat → WorkItemUserAddedBy → Prop}
    {rows rows' : List WorkItemUser} (h : OwnersAdded tenantId workItemId owns rows rows')
    (hsame : ∀ u label, owns u label ↔ owns' u label) : OwnersAdded tenantId workItemId owns' rows rows' := by
  obtain ⟨added, hrows, hnodup, hmem⟩ := h
  refine ⟨added, hrows, hnodup, fun row => ?_⟩
  rw [hmem]
  simp only [hsame]

/-! ## A call -/

variable (env) in
/-- The task in its lane, unless the lane is blank or an initiator lane. -/
def laneTask? (pi : ProcessInstance) (laneName : PyVal) (taskData : Dict) (definitionProperties : Option Dict) : Option LaneTask :=
  match normalizeLaneName env laneName with
  | none => none
  | some lane =>
    if h : lane ∈ configuredInitiatorLanes env definitionProperties then none
    else some ⟨pi.m8fTenantId, lane, configuredInitiatorLanes env definitionProperties, taskData, definitionProperties, h⟩

variable (env) in
/-- Who may own a task: the initiator, or the owners of its lane. -/
def PotentialOwner (pi : ProcessInstance) (task : Option LaneTask) (db db' : Db) (u : Nat) (label : WorkItemUserAddedBy) : Prop :=
  match task with
  | none => label = .processInitiator ∧ u = pi.processInitiatorId
  | some t => t.Owns env db db' u label

variable (env) in
/-- The stored groups once the task's lane has been looked up. -/
def groupsAfter (task : Option LaneTask) (db : Db) : List Group := (task.map fun t => (t.group env db).2).getD db.groups

variable (env) in
/-- The group that the item gets. -/
def assignedGroup (task : Option LaneTask) (db : Db) : Option Nat := task.bind fun t => (t.group env db).1.map Group.id

/-- The items once one of them has its lane's group. -/
def itemsIn (workItemId : Nat) (groupId : Option Nat) (items : List WorkItem) : List WorkItem :=
  updateWhere (·.id == workItemId) ({ · with laneAssignmentId := groupId }) items

theorem itemsIn_itemsIn (workItemId : Nat) (g g' : Option Nat) (items : List WorkItem) :
    itemsIn workItemId g' (itemsIn workItemId g items) = itemsIn workItemId g' items := by
  unfold itemsIn updateWhere
  rw [List.map_map]
  refine List.map_congr_left fun w _ => ?_
  simp only [Function.comp_apply]
  split <;> simp_all

variable (env) in
/-- What a call that assigns potential owners does: the item's rows follow the
rule, the item has its lane's group, those who are named have joined the groups
of their lanes, and nothing else is changed. -/
structure Assigned (pi : ProcessInstance) (workItemId : Nat) (task : Option LaneTask) (s s' : Tx Ω) : Prop where
  rest : ∃ seq assignments rows, s' = { s with
    seq := seq
    view := { s.view with
      groups := groupsAfter env task s.view, userGroupAssignments := assignments
      workItems := itemsIn workItemId (assignedGroup env task s.view) s.view.workItems, workItemUsers := rows } }
  members : ∀ u g, s'.view.InGroup u g ↔ s.view.InGroup u g ∨ ∃ t, task = some t ∧ t.Enroll env s.view u g
  idle : (∀ t, task = some t → ∀ u g, t.Enroll env s.view u g → s.view.InGroup u g) →
    s'.seq = s.seq ∧ s'.view.userGroupAssignments = s.view.userGroupAssignments
  rows : OwnersAdded pi.m8fTenantId workItemId (PotentialOwner env pi task s.view s'.view) s.view.workItemUsers s'.view.workItemUsers

variable (env) in
/-- A task of the initiator. -/
theorem assignInitiator_run (pi : ProcessInstance) (workItemId : Nat) {s : Tx Ω}
    (hinitiator : pi.processInitiatorId ∈ s.view.users.map (·.id)) :
    ∃ s', (do
        setLaneAssignment workItemId none
        let user ← initiator pi
        addMissingPotentialOwners pi.m8fTenantId workItemId [(user.id, WorkItemUserAddedBy.processInitiator)] : M Ω Unit).run s =
        (.ok (), s') ∧ Assigned env pi workItemId none s s' := by
  set s₀ : Tx Ω := { s with view := { s.view with workItems := itemsIn workItemId none s.view.workItems } } with hs₀
  obtain ⟨user, huser, hid⟩ := List.mem_map.1 hinitiator
  obtain ⟨found, hfound⟩ : ∃ found, s₀.view.user? pi.processInitiatorId = some found :=
    Option.isSome_iff_exists.1 (List.find?_isSome.2 ⟨user, huser, by simpa using hid⟩)
  have hfoundId : found.id = pi.processInitiatorId := by simpa using List.find?_some hfound
  have hrun : (initiator pi).run s₀ = (.ok found, s₀) := by
    unfold initiator query
    rw [Prog.gets_bind_run, Prog.orRaise_ok]
    exact ⟨hfound, rfl⟩
  have hone : ([(found.id, WorkItemUserAddedBy.processInitiator)].map (·.1)).Nodup := by simp
  obtain ⟨rows, hadd, hrows⟩ := addMissingPotentialOwners_run pi.m8fTenantId workItemId hone s₀
  refine ⟨_, (Prog.bind_run_ok (m := initiator pi) hrun).trans hadd,
    ⟨s.seq, s.view.userGroupAssignments, rows, rfl⟩, by simp [Db.InGroup, hs₀], fun _ => ⟨rfl, rfl⟩, ?_⟩
  refine hrows.congr fun u label => ?_
  simp [PotentialOwner, hfoundId, and_comm]

variable (env) in
/-- A task in a lane. -/
theorem assignLane_run (pi : ProcessInstance) (t : LaneTask) (workItemId : Nat) {s : Tx Ω}
    (hids : (s.view.users.map (·.id)).Nodup) :
    ∃ s', (do
        setLaneAssignment workItemId none
        let owners ← laneTaskOwners env t.tenantId workItemId t.lane t.initiatorLanes t.taskData t.definitionProperties
        addMissingPotentialOwners pi.m8fTenantId workItemId owners : M Ω Unit).run s =
        (.ok (), s') ∧ Assigned env pi workItemId (some t) s s' := by
  set s₀ : Tx Ω := { s with view := { s.view with workItems := itemsIn workItemId none s.view.workItems } } with hs₀
  obtain ⟨owners, s₁, hrun, ⟨⟨seq, assignments, hrest⟩, hmembers, hidle⟩, howners, hnodup⟩ := laneTaskOwners_run env t workItemId s₀
  obtain ⟨rows, hadd, hrows⟩ := addMissingPotentialOwners_run pi.m8fTenantId workItemId (hnodup hids) s₁
  have hitems : t.items env workItemId s₀.view = itemsIn workItemId (assignedGroup env (some t) s.view) s.view.workItems := by
    have hgroup : (t.group env s₀.view).1 = (t.group env s.view).1 := rfl
    unfold LaneTask.items assignedGroup
    rw [hgroup, Option.bind_some]
    cases (t.group env s.view).1 with
    | none => rfl
    | some g => exact itemsIn_itemsIn workItemId none (some g.id) s.view.workItems
  refine ⟨_, (Prog.bind_run_ok (m := laneTaskOwners env _ _ _ _ _ _) hrun).trans hadd, ⟨seq, assignments, rows, ?_⟩, fun u g => ?_,
    fun hall => hidle (hall t rfl), ?_⟩
  · rw [hrest, hitems]
    rfl
  · refine (hmembers u g).trans (or_congr_right ?_)
    simp only [Option.some.injEq, exists_eq_left']
    rfl
  · have hold : s₁.view.workItemUsers = s.view.workItemUsers := by rw [hrest]
    rw [hold] at hrows
    exact hrows.congr howners

variable (env) in
theorem assignWorkItemPotentialOwners_run (pi : ProcessInstance) (workItemId : Nat) (laneName : PyVal) (taskData : Dict)
    (definitionProperties : Option Dict) {s : Tx Ω} (hids : (s.view.users.map (·.id)).Nodup)
    (hinitiator : laneTask? env pi laneName taskData definitionProperties = none → pi.processInitiatorId ∈ s.view.users.map (·.id)) :
    ∃ s', (assignWorkItemPotentialOwners env pi workItemId laneName taskData definitionProperties).run s = (.ok (), s') ∧
      Assigned env pi workItemId (laneTask? env pi laneName taskData definitionProperties) s s' := by
  unfold assignWorkItemPotentialOwners laneTask? at *
  cases hlane : normalizeLaneName env laneName with
  | none =>
    rw [hlane] at hinitiator
    exact assignInitiator_run env pi workItemId (hinitiator rfl)
  | some lane =>
    rw [hlane] at hinitiator
    dsimp only at hinitiator ⊢
    by_cases hin : lane ∈ configuredInitiatorLanes env definitionProperties
    · rw [dif_pos hin] at hinitiator ⊢
      rw [if_pos (by simpa using hin)]
      exact assignInitiator_run env pi workItemId (hinitiator rfl)
    · rw [dif_neg hin, if_neg (by simpa using hin)]
      exact assignLane_run env pi ⟨pi.m8fTenantId, lane, configuredInitiatorLanes env definitionProperties, taskData,
        definitionProperties, hin⟩ workItemId hids

theorem laneTask?_some {pi : ProcessInstance} {laneName : PyVal} {taskData : Dict} {definitionProperties : Option Dict} {t : LaneTask}
    (h : laneTask? env pi laneName taskData definitionProperties = some t) :
    normalizeLaneName env laneName = some t.lane ∧ t.tenantId = pi.m8fTenantId := by
  unfold laneTask? at h
  cases hlane : normalizeLaneName env laneName with
  | none =>
    rw [hlane] at h
    cases h
  | some lane =>
    rw [hlane] at h
    dsimp only at h
    split at h
    · cases h
    · cases h
      exact ⟨rfl, rfl⟩

/-- Whoever may own the task after a call has a row. -/
theorem Assigned.isOwner {pi : ProcessInstance} {workItemId : Nat} {task : Option LaneTask} {s s' : Tx Ω}
    (h : Assigned env pi workItemId task s s') {u : Nat} {label : WorkItemUserAddedBy}
    (hu : PotentialOwner env pi task s.view s'.view u label) : s'.view.IsOwner workItemId u := by
  obtain ⟨added, hrows, -, hmem⟩ := h.rows
  unfold Db.IsOwner
  rw [hrows]
  by_cases hold : ∀ old ∈ s.view.workItemUsers, old.workItemId = workItemId → old.userId ≠ u
  · exact ⟨_, List.mem_append_right _ ((hmem _).2 ⟨u, label, hu, hold, rfl⟩), rfl, rfl⟩
  · push Not at hold
    obtain ⟨old, hin, hitem, huser⟩ := hold
    exact ⟨old, List.mem_append_left _ hin, hitem, huser⟩

end

namespace Sample

/-- A tenant with two members and one task, and a group from a time before
groups were stored under computed ids. -/
def lanesDb : Db :=
  { db₀ with
    tenants := [⟨"1", "1"⟩]
    users := [⟨1, "ann", none, "1", "ann", none, none, none, none, none, none⟩,
      ⟨2, "bob", none, "1", "bob", none, none, none, none, none, none⟩]
    groups := [⟨2000000000, some "1:b", some "1:b", none⟩]
    workItems := [⟨7, "1", 5, some "f", none, none, none, .ready, false, none, none⟩] }

def lanesTx : Tx Bool := { seq := 10, base := lanesDb, view := lanesDb, committed := lanesDb, world := false }

def lanesInstance : ProcessInstance :=
  ⟨5, "1", "p", "p", none, 1, none, none, none, .userInputRequired, none, none, none, none, none, none, none, none, none⟩

/-- `lane_owners` that name bob for a lane, after another lane. -/
def laneOwnersOf (lanes : List (String × List String)) : Dict :=
  [(laneOwnersKey, .dict (lanes.map fun e => (.str e.1, .list (e.2.map .str))))]

end Sample

end M8flowCore
