import Mathlib.Data.List.Sort
import M8flowCore.Services.Authorization
/-!
# Potential owners of human tasks

A work item's potential owners come from the process initiator, from the
`lane_owners` configuration and from the members of the tenant's lane group.
Lane names are compared trimmed and in lower case.
-/
open M8flowCore.Lib M8flowCore.Session

namespace M8flowCore

def laneOwnersKey : String := "lane_owners"
def initiatorLanesKey : String := "initiator_lanes"

/-- Rows in ascending id order. -/
def sortById {ρ : Type} (id : ρ → Nat) (rows : List ρ) : List ρ := rows.insertionSort fun a b => id a ≤ id b

/-- The value of a hexadecimal digit. -/
def hexDigit (c : Char) : Nat :=
  let n := c.toNat
  if 48 ≤ n && n ≤ 57 then n - 48 else if 97 ≤ n && n ≤ 102 then n - 87 else 0

/-- SQL `TRIM`: outer blanks only. -/
def sqlTrim (s : String) : String :=
  String.ofList ((s.toList.dropWhile (· == ' ')).reverse.dropWhile (· == ' ')).reverse

section
variable {W Ω : Type} (env : Env W Ω)

/-- `resolve_lane_assignment_id`. -/
def resolveLaneAssignmentId (laneName : String) (tenantId : TenantId) : Nat :=
  let lane := env.lower (strip laneName)
  let tenant := env.lower (strip tenantId)
  let digest := env.sha256 (if tenant == "" then lane else tenant ++ ":" ++ lane)
  let stable := (digest.toList.take 8).foldl (fun acc c => acc * 16 + hexDigit c) 0 % 2 ^ 31
  if stable == 0 then 1 else stable

/-- `normalize_lane_name`. -/
def normalizeLaneName (laneName : PyVal) : Option String :=
  match laneName.asStr.map strip with
  | none => none
  | some trimmed => if trimmed == "" then none else some (env.lower trimmed)

/-! ## Definition configuration -/

/-- `grouped.setdefault(lane, []).extend(identifiers)`. -/
def extendGroup (grouped : List (String × List String)) (lane : String) (identifiers : List String) :
    List (String × List String) :=
  if grouped.any (·.1 == lane) then
    grouped.map fun g => if g.1 == lane then (lane, g.2 ++ identifiers) else g
  else grouped ++ [(lane, identifiers)]

/-- `lane_owner_identifiers`: malformed entries are ignored. -/
def laneOwnerIdentifiers (laneOwners : Option PyVal) : List (String × List String) :=
  match laneOwners.bind PyVal.asMapping with
  | none => []
  | some entries => entries.foldl
      (fun grouped entry => match normalizeLaneName env entry.1, entry.2.asList with
        | some lane, some identifiers => extendGroup grouped lane (identifiers.filterMap PyVal.asStr)
        | _, _ => grouped) []

/-- `configured_initiator_lanes`. -/
def configuredInitiatorLanes (propertiesJson : Option Dict) : List String :=
  match (propertiesJson.bind (·.get initiatorLanesKey)).bind PyVal.asList with
  | none => []
  | some lanes => lanes.filterMap (normalizeLaneName env)

/-- `_effective_lane_owners`: task data first, else the definition. -/
def effectiveLaneOwners (taskData : Dict) (definitionProperties : Option Dict) : List (String × List String) :=
  match taskData.get laneOwnersKey with
  | some (.dict entries) => laneOwnerIdentifiers env (some (.dict entries))
  | _ => laneOwnerIdentifiers env (definitionProperties.bind (·.get laneOwnersKey))

/-- The requested lanes of `validate_initiator_lanes`, each with the text it was
given as, or the first entry that is no lane name. -/
def requestedLanes : List PyVal → List (String × String) → Except PyVal (List (String × String))
  | [], requested => .ok requested
  | value :: rest, requested =>
    match normalizeLaneName env value, value.asStr with
    | some lane, some text =>
      requestedLanes rest (if requested.any (·.1 == lane) then requested else requested ++ [(lane, strip text)])
    | _, _ => .error value

/-- `validate_initiator_lanes`. -/
def validateInitiatorLanes (propertiesJson : Dict) (bpmnLaneNames : List String) : Except Error Unit :=
  match propertiesJson.get initiatorLanesKey with
  | none | some .none => .ok ()
  | some (.list lanes) =>
    match requestedLanes env lanes [] with
    | .error value => .error (.validation
        ("properties_json['initiator_lanes'] entries must be non-empty strings, got " ++ env.repr value))
    | .ok requested =>
      let known := bpmnLaneNames.filterMap fun name => normalizeLaneName env (.str name)
      let unknown := (requested.filter fun r => !known.contains r.1).map (·.2)
      let owned := (laneOwnerIdentifiers env (propertiesJson.get laneOwnersKey)).map (·.1)
      let conflicting := (requested.filter fun r => owned.contains r.1).map (·.2)
      if unknown != [] then .error (.validation
        ("properties_json['initiator_lanes'] names lanes that do not exist in the BPMN source: " ++
          joinWith ", " (unknown.insertionSort (· ≤ ·))))
      else if conflicting != [] then .error (.validation
        ("Lanes cannot be listed in both 'initiator_lanes' and 'lane_owners': " ++
          joinWith ", " (conflicting.insertionSort (· ≤ ·))))
      else .ok ()
  | some value => .error (.validation
      ("properties_json['initiator_lanes'] must be a list of lane names, got " ++ value.typeName))

/-! ## Lane groups -/

/-- `lane_group_identifier`. -/
def laneGroupIdentifier (lane : String) (tenantId : TenantId) : String :=
  env.lower (strip tenantId) ++ ":" ++ env.lower (strip lane)

/-- `find_or_create_lane_group`. -/
def findOrCreateLaneGroup (tenantId : TenantId) (lane : String) : M Ω (Option Group) := do
  let canonical := laneGroupIdentifier env lane tenantId
  let groupId := resolveLaneAssignmentId env lane tenantId
  match ← query fun db => db.groups.find? (·.id == groupId) with
  | some group =>
    if group.identifier == some canonical then pure (some group)
    else if group.identifier.any fun stored => env.lower (strip stored) == canonical then
      write fun db =>
        { db with
          groups := updateWhere (·.id == groupId)
            ({ · with name := some canonical, identifier := some canonical }) db.groups }
      pure (some { group with name := some canonical, identifier := some canonical })
    else pure none
  | none =>
    let legacy ← query fun db => (sortById Group.id (db.groups.filter fun g =>
      g.identifier.any fun stored => env.sqlLower (sqlTrim stored) == lane)).head?
    match legacy with
    | some group => pure (some group)
    | none =>
      let group : Group :=
        { id := groupId, name := some canonical, identifier := some canonical, authorizationKey := none }
      write fun db => { db with groups := db.groups ++ [group] }
      pure (some group)

/-- `_add_group_members`. -/
def addGroupMembers (groupId : Nat) (userIds : List Nat) : M Ω Unit := do
  let existing ← query fun db => (db.userGroupAssignments.filter (·.groupId == groupId)).map (·.userId)
  Prog.forEach ((userIds.dedup.filter fun u => !existing.contains u).insertionSort (· ≤ ·)) fun userId => do
    let _ ← insert fun id db =>
      { db with userGroupAssignments := db.userGroupAssignments ++ [{ id := id, userId := userId, groupId := groupId }] }

/-- `_tenant_group_members`, as user ids. -/
def tenantGroupMembers (db : Db) (groupId : Nat) (tenantIdentifiers : List String) : List Nat :=
  (sortById User.id (db.users.filter fun u =>
    db.userGroupAssignments.any (fun a => a.userId == u.id && a.groupId == groupId) &&
      userBelongsToTenant u tenantIdentifiers)).map (·.id)

/-! ## Lane owners -/

/-- `_OwnerResolver._lookup`, as user ids. -/
def lookupOwner (db : Db) (tenantIdentifiers : List String) (identifier : String) : List Nat :=
  let members (p : User → Bool) : List Nat :=
    (sortById User.id (db.users.filter fun u => p u && userBelongsToTenant u tenantIdentifiers)).map (·.id)
  let exact := members fun u => u.username == identifier || u.email == some identifier || u.serviceId == identifier
  match exact, partition '@' identifier.toList with
  | [], (localPart, some _) =>
    if localPart.isEmpty then [] else members fun u => u.username == String.ofList localPart
  | _, _ => exact

/-- `_OwnerResolver.lane_owners`, as user ids. -/
def resolveLaneOwners (db : Db) (tenantIdentifiers : List String) (identifiers : List String) : List Nat :=
  (identifiers.foldl (fun (owners : List Nat) identifier =>
      let key := strip identifier
      if key == "" then owners
      else (lookupOwner db tenantIdentifiers key).foldl
        (fun (acc : List Nat) u => if acc.contains u then acc else acc ++ [u]) owners) [])

/-- `_enroll_lane_owners`: the group of each lane, its owners enrolled. -/
def enrollLaneOwners (tenantId : TenantId) (ownersByLane : List (String × List Nat)) :
    M Ω (List (String × Option Group)) :=
  Prog.mapEach ownersByLane fun entry => do
    let group ← findOrCreateLaneGroup env tenantId entry.1
    match group with
    | none => pure (entry.1, none)
    | some group =>
      addGroupMembers group.id entry.2
      pure (entry.1, some group)

/-- `enroll_definition_lane_owners`. -/
def enrollDefinitionLaneOwners (tenantId : TenantId) (propertiesJson : Dict) : M Ω Unit := do
  let identifiersByLane := laneOwnerIdentifiers env (propertiesJson.get laneOwnersKey)
  let ownersByLane ← query fun db => identifiersByLane.map fun entry =>
    (entry.1, resolveLaneOwners db (tenantIdentifiersFor db tenantId) entry.2)
  let _ ← enrollLaneOwners env tenantId ownersByLane
  pure ()

/-! ## Work item potential owners -/

/-- `_add_missing_potential_owners`. -/
def addMissingPotentialOwners (tenantId : TenantId) (workItemId : Nat)
    (owners : List (Nat × WorkItemUserAddedBy)) : M Ω Unit := do
  let present ← query fun db => (db.workItemUsers.filter (·.workItemId == workItemId)).map (·.userId)
  Prog.forEach (sortById Prod.fst (owners.filter fun o => !present.contains o.1)) fun owner =>
    write fun db =>
      { db with
        workItemUsers := db.workItemUsers ++
          [{ m8fTenantId := tenantId, workItemId := workItemId, userId := owner.1, addedBy := some owner.2 }] }

/-- `work_item.lane_assignment_id = ..`. -/
def setLaneAssignment (workItemId : Nat) (groupId : Option Nat) : M Ω Unit :=
  write fun db =>
    { db with workItems := updateWhere (·.id == workItemId) ({ · with laneAssignmentId := groupId }) db.workItems }

/-- `_initiator`. -/
def initiator (pi : ProcessInstance) : M Ω User := do
  let user ← query (·.user? pi.processInitiatorId)
  Prog.orRaise (.notFound s!"Process initiator {pi.processInitiatorId} was not found for process instance {pi.id}") user

/-- The owners of a task in a lane that is not an initiator lane. -/
def laneTaskOwners (tenantId : TenantId) (workItemId : Nat) (lane : String) (initiatorLanes : List String)
    (taskData : Dict) (definitionProperties : Option Dict) : M Ω (List (Nat × WorkItemUserAddedBy)) := do
  let tenantIdentifiers ← query (tenantIdentifiersFor · tenantId)
  let ownersByLane ← query fun db =>
    ((effectiveLaneOwners env taskData definitionProperties).filter fun e => !initiatorLanes.contains e.1).map
      fun e => (e.1, resolveLaneOwners db tenantIdentifiers e.2)
  let groups ← enrollLaneOwners env tenantId ownersByLane
  let named := (((ownersByLane.find? (·.1 == lane)).map (·.2)).getD []).map fun u => (u, WorkItemUserAddedBy.laneOwner)
  let group ← match groups.find? (·.1 == lane) with
    | some (_, group) => pure group
    | none => findOrCreateLaneGroup env tenantId lane
  match group with
  | none => pure named
  | some group =>
    setLaneAssignment workItemId (some group.id)
    let members ← query fun db => tenantGroupMembers db group.id tenantIdentifiers
    pure (named ++ (members.filter fun u => !named.any (·.1 == u)).map fun u => (u, .laneAssignment))

/-- `assign_work_item_potential_owners`. Rows already there are kept. -/
def assignWorkItemPotentialOwners (pi : ProcessInstance) (workItemId : Nat) (laneName : PyVal) (taskData : Dict)
    (definitionProperties : Option Dict) : M Ω Unit := do
  let initiatorLanes := configuredInitiatorLanes env definitionProperties
  setLaneAssignment workItemId none
  let owners ← match normalizeLaneName env laneName with
    | none => do
      let user ← initiator pi
      pure [(user.id, WorkItemUserAddedBy.processInitiator)]
    | some lane =>
      if initiatorLanes.contains lane then do
        let user ← initiator pi
        pure [(user.id, WorkItemUserAddedBy.processInitiator)]
      else laneTaskOwners env pi.m8fTenantId workItemId lane initiatorLanes taskData definitionProperties
  addMissingPotentialOwners pi.m8fTenantId workItemId owners

end
end M8flowCore
