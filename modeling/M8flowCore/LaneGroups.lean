import M8flowCore.Sample
import M8flowCore.Strings
/-!
# Lane groups

A tenant's group for a lane is stored under an id computed from both names, and
is the tenant's only when its identifier says so. Without a group under that id
any group counts whose identifier is the lane itself, from a time when groups
were not qualified by tenant.
-/
open M8flowCore.Lib M8flowCore.Session

namespace M8flowCore

/-- The group stored under an id. -/
def Db.groupAt (db : Db) (id : Nat) : Option Group := db.groups.find? (·.id == id)

theorem Db.groupAt_id {db : Db} {id : Nat} {g : Group} (h : db.groupAt id = some g) : g.id = id := by
  simpa using List.find?_some h

section
variable {W Ω : Type} (env : Env W Ω)

/-- What is relied on of `str.lower`: it keeps trimmed text trimmed, and does
nothing to text that is in lower case. -/
structure Env.Lowers : Prop where
  trimmed : ∀ s, strip (env.lower (strip s)) = env.lower (strip s)
  again : ∀ s t, env.lower (env.lower s ++ ":" ++ env.lower t) = env.lower s ++ ":" ++ env.lower t

/-- The group whose identifier is the lane, if there is one. -/
def Db.legacyGroup (db : Db) (lane : String) : Option Group :=
  (sortById Group.id (db.groups.filter fun g => g.identifier.any fun stored => env.sqlLower (sqlTrim stored) == lane)).head?

/-- `db` with the group of an id renamed. -/
def Db.renameGroup (db : Db) (id : Nat) (name : String) : Db :=
  { db with groups := updateWhere (·.id == id) ({ · with name := some name, identifier := some name }) db.groups }

/-- `db` with another group. -/
def Db.addGroup (db : Db) (id : Nat) (name : String) : Db := { db with groups := db.groups ++ [⟨id, some name, some name, none⟩] }

/-- What a call for a tenant's lane finds under the id, and does. -/
inductive LaneGroupCall (id : Nat) (canonical lane : String) (db : Db) : Option Group → Db → Prop
  | current {g : Group} (hg : db.groupAt id = some g) (hname : g.identifier = some canonical) :
      LaneGroupCall id canonical lane db (some g) db
  | renamed {g : Group} {stored : String} (hg : db.groupAt id = some g) (hstored : g.identifier = some stored)
      (hname : stored ≠ canonical) (hlower : env.lower (strip stored) = canonical) :
      LaneGroupCall id canonical lane db (some { g with name := some canonical, identifier := some canonical })
        (db.renameGroup id canonical)
  | taken {g : Group} (hg : db.groupAt id = some g) (hname : g.identifier ≠ some canonical)
      (hlower : ∀ stored, g.identifier = some stored → env.lower (strip stored) ≠ canonical) :
      LaneGroupCall id canonical lane db none db
  | legacy {g : Group} (hnone : db.groupAt id = none) (hg : db.legacyGroup env lane = some g) :
      LaneGroupCall id canonical lane db (some g) db
  | created (hnone : db.groupAt id = none) (hlegacy : db.legacyGroup env lane = none) :
      LaneGroupCall id canonical lane db (some ⟨id, some canonical, some canonical, none⟩) (db.addGroup id canonical)

theorem findOrCreateLaneGroup_run (tenantId : TenantId) (lane : String) (s : Tx Ω) :
    ∃ group db, (findOrCreateLaneGroup env tenantId lane).run s = (.ok group, { s with view := db }) ∧
      LaneGroupCall env (resolveLaneAssignmentId env lane tenantId) (laneGroupIdentifier env lane tenantId) lane s.view
        group db := by
  unfold findOrCreateLaneGroup query
  simp only [Prog.gets_bind_run]
  cases hg : s.view.groups.find? (·.id == resolveLaneAssignmentId env lane tenantId) with
  | some g =>
    dsimp only
    split
    · rename_i hname
      exact ⟨some g, s.view, rfl, .current hg (by simpa using hname)⟩
    · rename_i hname
      split
      · rename_i hany
        obtain ⟨stored, hstored, hlower⟩ := (Option.any_eq_true _ _).1 hany
        refine ⟨_, _, rfl, .renamed hg hstored (fun he => hname (by simp [hstored, he])) (by simpa using hlower)⟩
      · rename_i hany
        refine ⟨none, s.view, rfl, .taken hg (by simpa using hname) fun stored hstored hlower => hany ?_⟩
        simp [hstored, hlower]
  | none =>
    simp only [Prog.gets_bind_run]
    cases hlegacy : (sortById Group.id (s.view.groups.filter fun g =>
        g.identifier.any fun stored => env.sqlLower (sqlTrim stored) == lane)).head? with
    | some g => exact ⟨some g, s.view, rfl, .legacy hg hlegacy⟩
    | none => exact ⟨_, _, rfl, .created hg hlegacy⟩

/-! ## Whose group it is -/

variable {env}

/-- An identifier built for a tenant's lane is in its final form. -/
theorem Env.Lowers.canonical (h : env.Lowers) (lane : String) (tenantId : TenantId) :
    env.lower (strip (laneGroupIdentifier env lane tenantId)) = laneGroupIdentifier env lane tenantId := by
  unfold laneGroupIdentifier
  have hcolon : (":" : String).toList = [Char.ofNat 58] := by decide
  rw [strip_glue (h.trimmed tenantId) (h.trimmed lane) hcolon (by decide), h.again]

/-- The group of an id has an identifier. -/
def Db.GroupNamed (db : Db) (id : Nat) (identifier : String) : Prop :=
  ∃ g, db.groupAt id = some g ∧ g.identifier = some identifier

theorem Db.groupAt_renameGroup {db : Db} {id id' : Nat} (name : String) :
    (db.renameGroup id' name).groupAt id =
      (db.groupAt id).map fun g => if g.id == id' then { g with name := some name, identifier := some name } else g :=
  find?_updateWhere fun _ _ _ => rfl

theorem Db.groupAt_addGroup {db : Db} {id id' : Nat} {name : String} {g : Group} (h : db.groupAt id = some g) :
    (db.addGroup id' name).groupAt id = some g := by
  unfold Db.groupAt Db.addGroup at *
  rw [List.find?_append, h]
  rfl

section
variable {id id' : Nat} {canonical canonical' lane : String} {db db' : Db} {group : Option Group} {g : Group}

/-- The group a call returns has the canonical identifier from then on, unless
it was found by the lane alone. -/
theorem LaneGroupCall.named (h : LaneGroupCall env id canonical lane db (some g) db')
    (hfree : (db.groupAt id).isSome = true ∨ db.legacyGroup env lane = none) :
    g.id = id ∧ db'.GroupNamed id canonical := by
  cases h with
  | current hg hname => exact ⟨Db.groupAt_id hg, g, hg, hname⟩
  | @renamed g₀ stored hg hstored hname hlower =>
    have hid := Db.groupAt_id hg
    refine ⟨hid, { g₀ with name := some canonical, identifier := some canonical }, ?_, rfl⟩
    rw [Db.groupAt_renameGroup, hg]
    simp [hid]
  | legacy hnone hg =>
    rcases hfree with hfree | hfree
    · simp [hnone] at hfree
    · simp [hg] at hfree
  | created hnone hlegacy =>
    refine ⟨rfl, ⟨id, some canonical, some canonical, none⟩, ?_, rfl⟩
    unfold Db.groupAt Db.addGroup at *
    rw [List.find?_append, hnone]
    simp

/-- A call never renames a group that has its final identifier. -/
theorem LaneGroupCall.keeps_named (h : LaneGroupCall env id' canonical' lane db group db')
    (hfinal : env.lower (strip canonical) = canonical) (hnamed : db.GroupNamed id canonical) :
    db'.GroupNamed id canonical := by
  obtain ⟨g, hg, hidentifier⟩ := hnamed
  cases h with
  | current | taken | legacy => exact ⟨g, hg, hidentifier⟩
  | created hnone hlegacy => exact ⟨g, Db.groupAt_addGroup hg, hidentifier⟩
  | @renamed g' stored hg' hstored hname hlower =>
    refine ⟨g, ?_, hidentifier⟩
    rw [Db.groupAt_renameGroup, hg]
    have hne : g.id ≠ id' := by
      intro hid
      rw [← hid, Db.groupAt_id hg, hg] at hg'
      cases hg'
      rw [hidentifier] at hstored
      cases hstored
      exact hname (hfinal.symm.trans hlower)
    simp [hne]

/-- A call returns a group under the id only when its identifier fits. -/
theorem LaneGroupCall.eq_of_named (h : LaneGroupCall env id canonical' lane db (some g) db')
    (hfinal : env.lower (strip canonical) = canonical) (hnamed : db.GroupNamed id canonical) : canonical = canonical' := by
  obtain ⟨g₀, hg₀, hidentifier⟩ := hnamed
  cases h with
  | current hg hname =>
    rw [hg₀] at hg
    cases hg
    rw [hidentifier] at hname
    exact Option.some.inj hname
  | renamed hg hstored hname hlower =>
    rw [hg₀] at hg
    cases hg
    rw [hidentifier] at hstored
    cases hstored
    exact hfinal.symm.trans hlower
  | legacy hnone | created hnone => simp [hg₀] at hnone

end

/-! ## Runs -/

variable (env)

/-- Lane group calls for any tenants, and whatever else leaves the stored groups
their ids and identifiers. -/
inductive LaneRun : Tx Ω → Tx Ω → Prop
  | refl (s : Tx Ω) : LaneRun s s
  | call {s s₁ s₂ : Tx Ω} {r : Except Error (Option Group)} (h : LaneRun s s₁) (tenantId : TenantId) (lane : String)
      (hcall : (findOrCreateLaneGroup env tenantId lane).run s₁ = (r, s₂)) : LaneRun s s₂
  | other {s s₁ s₂ : Tx Ω} (h : LaneRun s s₁) (hkept : ∀ id g, s₁.view.groupAt id = some g →
      ∃ g', s₂.view.groupAt id = some g' ∧ g'.identifier = g.identifier) : LaneRun s s₂

/-- No group is found for the lane by the lane's name alone. -/
def Db.LegacyFree (db : Db) (tenantId : TenantId) (lane : String) : Prop :=
  (db.groupAt (resolveLaneAssignmentId env lane tenantId)).isSome = true ∨ db.legacyGroup env lane = none

variable {env}

theorem LaneRun.keeps_named {s s' : Tx Ω} {id : Nat} {canonical : String} (h : LaneRun env s s')
    (hfinal : env.lower (strip canonical) = canonical) (hnamed : s.view.GroupNamed id canonical) :
    s'.view.GroupNamed id canonical := by
  induction h with
  | refl => exact hnamed
  | @call s₁ s₂ r _ tenantId lane hcall ih =>
    obtain ⟨group, db, hrun, hdoes⟩ := findOrCreateLaneGroup_run env tenantId lane s₁
    rw [hrun] at hcall
    cases hcall
    exact hdoes.keeps_named hfinal ih
  | other _ hkept ih =>
    obtain ⟨g, hg, hidentifier⟩ := ih
    obtain ⟨g', hg', hsame⟩ := hkept id g hg
    exact ⟨g', hg', hsame.trans hidentifier⟩

/-- Two calls whose lane group identifiers differ return different groups,
whatever happens in between and whether or not the computed ids collide, as long
as neither falls back on a group that is named like the lane alone. -/
theorem lane_groups_not_shared {t₁ t₂ : TenantId} {l₁ l₂ : String} {s₁ s₁' s₂ s₂' : Tx Ω} {g₁ g₂ : Group}
    (hlower : env.Lowers) (h₁ : (findOrCreateLaneGroup env t₁ l₁).run s₁ = (.ok (some g₁), s₁'))
    (hrun : LaneRun env s₁' s₂) (h₂ : (findOrCreateLaneGroup env t₂ l₂).run s₂ = (.ok (some g₂), s₂'))
    (hfree₁ : s₁.view.LegacyFree env t₁ l₁) (hfree₂ : s₂.view.LegacyFree env t₂ l₂)
    (hne : laneGroupIdentifier env l₁ t₁ ≠ laneGroupIdentifier env l₂ t₂) : g₁.id ≠ g₂.id := by
  obtain ⟨_, db₁, hrun₁, hcall₁⟩ := findOrCreateLaneGroup_run env t₁ l₁ s₁
  rw [hrun₁] at h₁
  cases h₁
  obtain ⟨_, db₂, hrun₂, hcall₂⟩ := findOrCreateLaneGroup_run env t₂ l₂ s₂
  rw [hrun₂] at h₂
  cases h₂
  obtain ⟨hid₁, hnamed⟩ := hcall₁.named hfree₁
  obtain ⟨hid₂, -⟩ := hcall₂.named hfree₂
  have hfinal := hlower.canonical l₁ t₁
  have hnamed₂ := hrun.keeps_named hfinal hnamed
  intro hsame
  rw [← hid₁, hsame, hid₂] at hnamed₂
  exact hne (hcall₂.eq_of_named hfinal hnamed₂)

end

namespace Sample

/-- A session without groups. -/
def laneTx : Tx Bool := { seq := 10, base := db₀, view := db₀, committed := db₀, world := false }

/-- The session after a call for a tenant's lane. -/
def afterLane (tenantId : TenantId) (lane : String) : Tx Bool := ((findOrCreateLaneGroup env tenantId lane).run laneTx).2

theorem env_lowers : env.Lowers where
  trimmed s := strip_strip s
  again _ _ := rfl

end Sample

theorem lane_groups_not_shared_tenants :
    ∃ g g' s', (findOrCreateLaneGroup Sample.env "a" "review").run Sample.laneTx = (.ok (some g), Sample.afterLane "a" "review") ∧
      (findOrCreateLaneGroup Sample.env "b" "review").run (Sample.afterLane "a" "review") = (.ok (some g'), s') ∧
      g.id ≠ g'.id := by
  have hfirst : ∃ g, (findOrCreateLaneGroup Sample.env "a" "review").run Sample.laneTx =
      (.ok (some g), Sample.afterLane "a" "review") := ⟨_, rfl⟩
  have hsecond : ∃ g s', (findOrCreateLaneGroup Sample.env "b" "review").run (Sample.afterLane "a" "review") =
      (.ok (some g), s') := ⟨_, _, rfl⟩
  obtain ⟨g, h₁⟩ := hfirst
  obtain ⟨g', s', h₂⟩ := hsecond
  exact ⟨g, g', s', h₁, h₂, lane_groups_not_shared Sample.env_lowers h₁ (.refl _) h₂ (.inr (by decide)) (.inr (by decide))
    (by decide)⟩

/-- Tenants `a` and `a:b` share the group of the lanes `b:c` and `c`. -/
theorem colon_shares_lane_group :
    (∀ g ∈ Sample.laneTx.view.groups, ∃ tenant name, g.identifier = some (tenant ++ ":" ++ name)) ∧
      ∃ g s, (findOrCreateLaneGroup Sample.env "a" "b:c").run Sample.laneTx = (.ok (some g), s) ∧
        ∃ s', (findOrCreateLaneGroup Sample.env "a:b" "c").run s = (.ok (some g), s') := by
  refine ⟨by simp [Sample.laneTx, Sample.db₀], _, _, rfl, _, rfl⟩

end M8flowCore
