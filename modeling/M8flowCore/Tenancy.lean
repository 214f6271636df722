import M8flowCore.Sample
import M8flowCore.Strings
/-!
# Tenants apart

A tenant is looked up by its id or its slug, and the first row that has either
wins. Two tenants share no identifier when their ids and slugs do not overlap.
-/
open M8flowCore.Lib M8flowCore.Session

namespace M8flowCore

/-- A tenant's identifiers: its id and its slug. -/
def Tenant.identifiers (t : Tenant) : List String := strippedNonBlank [some t.id, some t.slug]

theorem mem_strippedNonBlank {values : List (Option String)} {v : String} :
    v ∈ strippedNonBlank values ↔ ∃ w, some w ∈ values ∧ strip w = v ∧ v ≠ "" := by
  simp only [strippedNonBlank, List.mem_filter, List.mem_map, List.mem_filterMap, id, bne_iff_ne]
  constructor
  · rintro ⟨⟨w, ⟨_, hw, rfl⟩, rfl⟩, hv⟩
    exact ⟨w, hw, rfl, hv⟩
  · rintro ⟨w, hw, rfl, hv⟩
    exact ⟨⟨w, ⟨_, hw, rfl⟩, rfl⟩, hv⟩

theorem Tenant.mem_identifiers {t : Tenant} {v : String} :
    v ∈ t.identifiers ↔ (strip t.id = v ∨ strip t.slug = v) ∧ v ≠ "" := by
  rw [Tenant.identifiers, mem_strippedNonBlank]
  constructor
  · rintro ⟨w, hw, hv, hne⟩
    simp only [List.mem_cons, Option.some.injEq, List.not_mem_nil, or_false] at hw
    rcases hw with rfl | rfl
    · exact ⟨.inl hv, hne⟩
    · exact ⟨.inr hv, hne⟩
  · rintro ⟨hv | hv, hne⟩
    · exact ⟨t.id, by simp, hv, hne⟩
    · exact ⟨t.slug, by simp, hv, hne⟩

/-- The row the lookup takes for an id. -/
def Db.tenantFor (db : Db) (tenantId : TenantId) : Option Tenant :=
  db.tenants.find? fun t => t.id == tenantId || t.slug == tenantId

theorem mem_tenantIdentifiersFor {db : Db} {tenantId : TenantId} {v : String} : v ∈ tenantIdentifiersFor db tenantId ↔
    (strip tenantId = v ∧ v ≠ "") ∨ ∃ t, db.tenantFor tenantId = some t ∧ v ∈ t.identifiers := by
  have hown : v ∈ strippedNonBlank [some tenantId] ↔ strip tenantId = v ∧ v ≠ "" := by
    simp [mem_strippedNonBlank]
  unfold tenantIdentifiersFor Db.tenantFor
  dsimp only
  cases db.tenants.find? fun t => t.id == tenantId || t.slug == tenantId with
  | none => simp [hown]
  | some t =>
    rw [List.mem_append, hown]
    simp [Tenant.identifiers]

/-- An identifier of a tenant is trimmed. -/
theorem strip_of_mem_tenantIdentifiersFor {db : Db} {tenantId : TenantId} {v : String}
    (h : v ∈ tenantIdentifiersFor db tenantId) : strip v = v ∧ v ≠ "" := by
  rcases mem_tenantIdentifiersFor.1 h with ⟨rfl, hne⟩ | ⟨t, -, hv⟩
  · exact ⟨strip_strip tenantId, hne⟩
  · obtain ⟨rfl | rfl, hne⟩ := Tenant.mem_identifiers.1 hv
    · exact ⟨strip_strip _, hne⟩
    · exact ⟨strip_strip _, hne⟩

/-- Ids are unique, and so are slugs. -/
structure Db.TenantKeys (db : Db) : Prop where
  ids : (db.tenants.map (·.id)).Nodup
  slugs : (db.tenants.map (·.slug)).Nodup

theorem Db.TenantKeys.eq_of_id {db : Db} (h : db.TenantKeys) {a b : Tenant} (ha : a ∈ db.tenants) (hb : b ∈ db.tenants)
    (hid : a.id = b.id) : a = b :=
  List.inj_on_of_nodup_map h.ids ha hb hid

/-- Ids and slugs of different tenants do not overlap: trimmed, none is common
to two tenants, and no id is another tenant's slug. -/
structure Db.TenantsApart (db : Db) : Prop where
  identifiers : ∀ a ∈ db.tenants, ∀ b ∈ db.tenants, a ≠ b → a.identifiers.Disjoint b.identifiers
  lookup : ∀ a ∈ db.tenants, ∀ b ∈ db.tenants, a ≠ b → a.id ≠ b.slug

/-- Different tenants have no identifier in common, and a user who has only
identifiers of the one is not let in at the other. -/
def TenantsSeparated {Ω : Type} (s : Tx Ω) : Prop :=
  ∀ a ∈ s.view.tenants, ∀ b ∈ s.view.tenants, a ≠ b →
    (tenantIdentifiersFor s.view a.id).Disjoint (tenantIdentifiersFor s.view b.id) ∧
    ∀ user, s.view.user? user.id = some user →
      (∀ v ∈ userTenantIdentifiers user, strip v = strip b.id ∨ strip v = strip b.slug) →
      ∀ found s', (ensureUserBelongsToTenant a.id user.id).run s ≠ (.ok found, s')

section
variable {db : Db} {a : Tenant}

/-- A tenant whose id is nobody's slug is found under it. -/
theorem Db.TenantsApart.tenantFor (hkeys : db.TenantKeys) (hapart : db.TenantsApart) (ha : a ∈ db.tenants) :
    db.tenantFor a.id = some a := by
  unfold Db.tenantFor
  cases hfind : db.tenants.find? fun t => t.id == a.id || t.slug == a.id with
  | none => simpa using List.find?_eq_none.1 hfind a ha
  | some t =>
    have ht := List.mem_of_find?_eq_some hfind
    have hmatch : t.id = a.id ∨ t.slug = a.id := by simpa using List.find?_some hfind
    by_contra hne
    have hat : a ≠ t := fun he => hne (by rw [he])
    rcases hmatch with hid | hslug
    · exact hat (hkeys.eq_of_id ha ht hid.symm)
    · exact hapart.lookup a ha t ht hat hslug.symm

theorem Db.TenantsApart.mem_identifiers (hkeys : db.TenantKeys) (hapart : db.TenantsApart) (ha : a ∈ db.tenants) {v : String} :
    v ∈ tenantIdentifiersFor db a.id ↔ v ∈ a.identifiers := by
  rw [mem_tenantIdentifiersFor, hapart.tenantFor hkeys ha]
  simp only [Option.some.injEq, exists_eq_left', or_iff_right_iff_imp]
  rintro ⟨hv, hne⟩
  exact Tenant.mem_identifiers.2 ⟨.inl hv, hne⟩

/-- In separated tenants with proper ids every tenant is found under its own. -/
theorem tenantFor_of_separated {Ω : Type} {s : Tx Ω}
    (hids : ∀ t ∈ s.view.tenants, strip t.id ≠ "") (h : TenantsSeparated s) (ha : a ∈ s.view.tenants) :
    s.view.tenantFor a.id = some a := by
  cases hfind : s.view.tenantFor a.id with
  | none =>
    unfold Db.tenantFor at hfind
    simpa using List.find?_eq_none.1 hfind a ha
  | some t =>
    have ht : t ∈ s.view.tenants := List.mem_of_find?_eq_some hfind
    by_contra hne
    have hat : a ≠ t := fun he => hne (by rw [he])
    -- the row found in its place would share its own id
    have hmem : strip t.id ∈ tenantIdentifiersFor s.view a.id :=
      mem_tenantIdentifiersFor.2 (.inr ⟨t, hfind, Tenant.mem_identifiers.2 ⟨.inl rfl, hids t ht⟩⟩)
    exact (h a ha t ht hat).1 hmem (mem_tenantIdentifiersFor.2 (.inl ⟨rfl, hids t ht⟩))

end

/-- Tenants whose ids and slugs do not overlap are separated; and they do not
overlap in separated tenants, unless an id is blank. -/
theorem tenants_separated_iff {Ω : Type} {s : Tx Ω} (hkeys : s.view.TenantKeys) :
    (s.view.TenantsApart → TenantsSeparated s) ∧
      ((∀ t ∈ s.view.tenants, strip t.id ≠ "") → TenantsSeparated s → s.view.TenantsApart) := by
  refine ⟨fun hapart a ha b hb hab => ⟨fun v hva hvb => ?_, fun user huser honly found s' hrun => ?_⟩, fun hids hsep => ?_⟩
  · rw [hapart.mem_identifiers hkeys ha] at hva
    rw [hapart.mem_identifiers hkeys hb] at hvb
    exact hapart.identifiers a ha b hb hab hva hvb
  · obtain ⟨-, hmember, -⟩ := ensureUserBelongsToTenant_ok.1 hrun
    simp only [Db.isMember, huser, Option.any_some, userBelongsToTenant, List.any_eq_true, List.contains_iff_mem] at hmember
    obtain ⟨v, hv, hva⟩ := hmember
    obtain ⟨hstrip, hne⟩ := strip_of_mem_tenantIdentifiersFor hva
    rw [hapart.mem_identifiers hkeys ha] at hva
    refine hapart.identifiers a ha b hb hab hva (Tenant.mem_identifiers.2 ⟨?_, hne⟩)
    rcases honly v hv with hid | hslug
    · exact .inl (hid.symm.trans hstrip)
    · exact .inr (hslug.symm.trans hstrip)
  · have hidentifiers : ∀ t ∈ s.view.tenants, ∀ v ∈ t.identifiers, v ∈ tenantIdentifiersFor s.view t.id :=
      fun t ht v hv => mem_tenantIdentifiersFor.2 (.inr ⟨t, tenantFor_of_separated hids hsep ht, hv⟩)
    have hdisjoint : ∀ a ∈ s.view.tenants, ∀ b ∈ s.view.tenants, a ≠ b → a.identifiers.Disjoint b.identifiers :=
      fun a ha b hb hab v hva hvb => (hsep a ha b hb hab).1 (hidentifiers a ha v hva) (hidentifiers b hb v hvb)
    refine ⟨hdisjoint, fun a ha b hb hab hslug => ?_⟩
    exact hdisjoint a ha b hb hab (Tenant.mem_identifiers.2 ⟨.inl rfl, hids a ha⟩)
      (Tenant.mem_identifiers.2 ⟨.inr (by rw [hslug]), hids a ha⟩)

namespace Sample

/-- Two tenants, and a user who names the second. -/
def tenantsTx (slug : String) : Tx Bool :=
  let db : Db :=
    { db₀ with
      tenants := [⟨"acme", slug⟩, ⟨"globex", "gx"⟩]
      users := [⟨1, "u", none, "", "u", none, none, some "globex", none, none, none⟩] }
  { seq := 10, base := db, view := db, committed := db, world := false }

end Sample

theorem tenants_separated_iff_apart : (Sample.tenantsTx "ac").view.TenantKeys ∧ TenantsSeparated (Sample.tenantsTx "ac") := by
  have hkeys : (Sample.tenantsTx "ac").view.TenantKeys := ⟨by decide, by decide⟩
  have hnames : ∀ a ∈ (Sample.tenantsTx "ac").view.tenants, ∀ b ∈ (Sample.tenantsTx "ac").view.tenants, a ≠ b →
      ∀ v ∈ a.identifiers, v ∉ b.identifiers := by
    decide
  exact ⟨hkeys, (tenants_separated_iff hkeys).1 ⟨fun a ha b hb hab v hva => hnames a ha b hb hab v hva, by decide⟩⟩

/-- A tenant whose slug is another's id is taken for it. -/
theorem slug_shadows_tenant : (Sample.tenantsTx "globex").view.TenantKeys ∧ ¬ TenantsSeparated (Sample.tenantsTx "globex") := by
  refine ⟨⟨by decide, by decide⟩, fun h => ?_⟩
  have hdisjoint := (h ⟨"acme", "globex"⟩ (by decide) ⟨"globex", "gx"⟩ (by decide) (by decide)).1
  exact hdisjoint (show "globex" ∈ tenantIdentifiersFor _ "acme" by decide) (by decide)

end M8flowCore
