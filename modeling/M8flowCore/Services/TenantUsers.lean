import M8flowCore.Engine
/-!
# Tenant membership

A user belongs to a tenant when one of the identifiers on the user row names
it. Nothing here writes.
-/
open M8flowCore.Lib M8flowCore.Session

namespace M8flowCore

/-! ## Identifiers of a user -/

/-- The text after the last occurrence of `pat`, scanning from the left and
without overlaps, as `s.split(pat)[-1]`. -/
def lastSegment (pat : List Char) : List Char → Nat → List Char → List Char
  | [], _, best => best
  | _ :: cs, skip + 1, best => lastSegment pat cs skip best
  | c :: cs, 0, best =>
    if pat.isPrefixOf (c :: cs) then lastSegment pat cs (pat.length - 1) ((c :: cs).drop pat.length)
    else lastSegment pat cs 0 best

/-- `service_realm`. -/
def serviceRealm (service : String) : Option String :=
  let normalized := (service.toList.reverse.dropWhile (· == '/')).reverse
  let realms := "/realms/".toList
  if normalized.tails.any realms.isPrefixOf then
    some (String.ofList ((lastSegment realms normalized 0 normalized).takeWhile (· != '/')))
  else if normalized.contains '/' then some (String.ofList (normalized.reverse.takeWhile (· != '/')).reverse)
  else if normalized.isEmpty then none
  else some (String.ofList normalized)

/-- The non-blank texts among some columns, trimmed. -/
def strippedNonBlank (values : List (Option String)) : List String :=
  (values.filterMap id).map strip |>.filter (· != "")

/-- `user_tenant_identifiers`. -/
def userTenantIdentifiers (user : User) : List String :=
  ((serviceRealm user.service).toList.filter (· != "")) ++
    strippedNonBlank [user.realmIdentifier, user.externalOrgId, user.externalUserId]

/-- `user_belongs_to_tenant`. -/
def userBelongsToTenant (user : User) (tenantIdentifiers : List String) : Bool :=
  (userTenantIdentifiers user).any tenantIdentifiers.contains

/-- `tenant_identifiers_for`. -/
def tenantIdentifiersFor (db : Db) (tenantId : TenantId) : List String :=
  let own := strippedNonBlank [some tenantId]
  match db.tenants.find? fun t => t.id == tenantId || t.slug == tenantId with
  | none => own
  | some tenant => own ++ strippedNonBlank [some tenant.id, some tenant.slug]

/-- The user exists and belongs to the tenant. -/
def Db.isMember (db : Db) (tenantId : TenantId) (userId : Nat) : Bool :=
  (db.user? userId).any fun user => userBelongsToTenant user (tenantIdentifiersFor db tenantId)

theorem user_of_isMember {db : Db} {tenantId : TenantId} {userId : Nat} (h : db.isMember tenantId userId = true) :
    ∃ user, db.user? userId = some user := by
  unfold Db.isMember at h
  cases hu : db.user? userId with
  | none => simp [hu] at h
  | some user => exact ⟨user, rfl⟩

section
variable {Ω : Type}

def userNotFound (userId : Nat) : Error := .notFound s!"User {userId} was not found"

/-- `ensure_user_belongs_to_tenant`. -/
def ensureUserBelongsToTenant (tenantId : TenantId) (userId : Nat) : M Ω User := do
  let user ← query (·.user? userId)
  let user ← Prog.orRaise (userNotFound userId) user
  let tenantIdentifiers ← query (tenantIdentifiersFor · tenantId)
  if userBelongsToTenant user tenantIdentifiers then pure user
  else Prog.raise (.authorization s!"User {userId} does not belong to tenant {tenantId}")

/-- The check returns exactly for members, and changes nothing. -/
theorem ensureUserBelongsToTenant_ok {tenantId : TenantId} {userId : Nat} {s s' : Tx Ω} {user : User} :
    (ensureUserBelongsToTenant tenantId userId).run s = (.ok user, s') ↔
      s.view.user? userId = some user ∧ s.view.isMember tenantId userId = true ∧ s = s' := by
  unfold ensureUserBelongsToTenant Db.isMember query
  simp only [Prog.gets_bind_run]
  cases s.view.user? userId with
  | none => simp
  | some u =>
    simp only [Prog.orRaise_some, Prog.pure_bind, Prog.gets_bind_run, Option.any_some, Option.some.injEq]
    split
    · rename_i hb
      simp [hb]
    · rename_i hb
      simp [hb]

theorem ensureUserBelongsToTenant_readOnly (tenantId : TenantId) (userId : Nat) :
    (ensureUserBelongsToTenant (Ω := Ω) tenantId userId).ReadOnly := by
  intro s
  unfold ensureUserBelongsToTenant query
  simp only [Prog.gets_bind_run]
  cases s.view.user? userId with
  | none => rfl
  | some u =>
    simp only [Prog.orRaise_some, Prog.pure_bind, Prog.gets_bind_run]
    split <;> rfl

/-- A user there is can only be refused for want of membership. -/
theorem ensureUserBelongsToTenant_error {tenantId : TenantId} {userId : Nat} {s s' : Tx Ω} {e : Error}
    (huser : (s.view.user? userId).isSome)
    (h : (ensureUserBelongsToTenant tenantId userId).run s = (.error e, s')) : ∃ message, e = .authorization message := by
  obtain ⟨user, huser⟩ := Option.isSome_iff_exists.1 huser
  unfold ensureUserBelongsToTenant query at h
  simp only [Prog.gets_bind_run, huser, Prog.orRaise_some, Prog.pure_bind] at h
  split at h
  · simp at h
  · simp only [Prog.raise_run, Prod.mk.injEq, Except.error.injEq] at h
    exact ⟨_, h.1.symm⟩

/-- A missing user is reported as such. -/
theorem ensureUserBelongsToTenant_of_none {tenantId : TenantId} {userId : Nat} {s : Tx Ω}
    (h : s.view.user? userId = none) :
    (ensureUserBelongsToTenant tenantId userId).run s = (.error (userNotFound userId), s) := by
  unfold ensureUserBelongsToTenant query
  simp only [Prog.gets_bind_run, h]
  rfl

end
end M8flowCore
