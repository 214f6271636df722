import M8flowCore.PotentialOwners
/-!
# Assigning owners twice

A second call looks the same lanes up, among the groups that the first one left.
A group that is stored under its lane's id is found again. One that was found by
the lane's name alone need not be: a lane that is looked up later may open a group
with that name.
-/
open M8flowCore.Lib M8flowCore.Session

namespace M8flowCore

theorem toList_sqlTrim (s : String) : (sqlTrim s).toList = trim (· == ' ') s.toList := by
  unfold sqlTrim
  rw [String.toList_ofList]
  rfl

theorem isSpace_of_blank (c : Char) (h : (c == ' ') = true) : isSpace c = true := by
  rw [beq_iff_eq.1 h]
  decide

theorem sqlTrim_of_strip {s : String} (h : strip s = s) : sqlTrim s = s := by
  rw [← String.toList_inj, toList_strip] at h
  rw [← String.toList_inj, toList_sqlTrim]
  exact trim_of_imp isSpace_of_blank h

theorem strip_sqlTrim (s : String) : strip (sqlTrim s) = strip s := by
  rw [← String.toList_inj, toList_strip, toList_strip, toList_sqlTrim]
  exact trim_trim_of_imp isSpace_of_blank

section
variable {W Ω : Type} (env : Env W Ω)

/-- What is relied on of `str.lower` besides: it neither adds nor drops outer
white space, and a second time it does nothing. SQL `LOWER` leaves lower case
alone, and `str.lower` makes the same of a text before and after it. -/
structure Env.LowersText : Prop extends env.Lowers where
  outer : ∀ s, strip (env.lower s) = env.lower (strip s)
  twice : ∀ s, env.lower (env.lower s) = env.lower s
  sqlKeeps : ∀ s, env.lower s = s → env.sqlLower s = s
  sqlAgrees : ∀ s, env.lower (env.sqlLower s) = env.lower s

/-- The text is a lane name as it is compared. -/
def Env.IsLane (lane : String) : Prop := strip lane = lane ∧ env.lower lane = lane

variable {env}

theorem Env.LowersText.isLane (h : env.LowersText) {name : PyVal} {lane : String} (hname : normalizeLaneName env name = some lane) :
    env.IsLane lane := by
  unfold normalizeLaneName at hname
  split at hname
  · cases hname
  · rename_i trimmed htrimmed
    split at hname
    · cases hname
    · cases hname
      obtain ⟨text, -, rfl⟩ := Option.map_eq_some_iff.1 htrimmed
      exact ⟨h.trimmed text, h.twice _⟩

theorem Env.IsLane.identifier {lane : String} (h : env.IsLane lane) (tenantId : TenantId) :
    laneGroupIdentifier env lane tenantId = env.lower (strip tenantId) ++ ":" ++ lane := by
  unfold laneGroupIdentifier
  rw [h.1, h.2]

/-- Two lanes of a tenant have different identifiers. -/
theorem Env.IsLane.eq_of_identifier {lane lane' : String} (h : env.IsLane lane) (h' : env.IsLane lane') {tenantId : TenantId}
    (heq : laneGroupIdentifier env lane tenantId = laneGroupIdentifier env lane' tenantId) : lane = lane' := by
  rw [h.identifier, h'.identifier, ← String.toList_inj] at heq
  exact String.toList_inj.1 (by simpa using heq)

/-! ## Who answers to a name -/

/-- The group of an id is named like the lane. -/
def Db.Answers (db : Db) (env : Env W Ω) (lane : String) (id : Nat) : Prop :=
  ∃ g stored, db.groupAt id = some g ∧ g.identifier = some stored ∧ env.sqlLower (sqlTrim stored) = lane

theorem Db.groupAt_of_mem {db : Db} (hids : (db.groups.map (·.id)).Nodup) {g : Group} (h : g ∈ db.groups) :
    db.groupAt g.id = some g := by
  unfold Db.groupAt
  cases hfound : db.groups.find? (·.id == g.id) with
  | none =>
    have hnot := List.find?_eq_none.1 hfound g h
    simp at hnot
  | some g' =>
    have hid : g'.id = g.id := by simpa using List.find?_some hfound
    rw [List.inj_on_of_nodup_map hids (List.mem_of_find?_eq_some hfound) h hid]

theorem Db.mem_legacy {db : Db} {lane : String} {g : Group} :
    g ∈ sortById Group.id (db.groups.filter fun g => g.identifier.any fun stored => env.sqlLower (sqlTrim stored) == lane) ↔
      g ∈ db.groups ∧ ∃ stored, g.identifier = some stored ∧ env.sqlLower (sqlTrim stored) = lane := by
  rw [sortById, List.mem_insertionSort, List.mem_filter, Option.any_eq_true]
  simp

/-- Of the groups that are named like the lane, the one with the least id is found. -/
theorem Db.legacyGroup_some {db : Db} (hids : (db.groups.map (·.id)).Nodup) {lane : String} {g : Group}
    (h : db.legacyGroup env lane = some g) : db.Answers env lane g.id ∧ ∀ id, db.Answers env lane id → g.id ≤ id := by
  unfold Db.legacyGroup at h
  obtain ⟨rest, hrest⟩ := List.head?_eq_some_iff.1 h
  have hsorted := List.pairwise_insertionSort (fun a b : Group => a.id ≤ b.id)
    (db.groups.filter fun g => g.identifier.any fun stored => env.sqlLower (sqlTrim stored) == lane)
  constructor
  · obtain ⟨hg, stored, hstored, hlane⟩ := Db.mem_legacy.1 (List.mem_of_head? h)
    exact ⟨g, stored, Db.groupAt_of_mem hids hg, hstored, hlane⟩
  · rintro id ⟨g', stored, hg', hstored, hlane⟩
    have hmem := Db.mem_legacy.2 ⟨List.mem_of_find?_eq_some hg', stored, hstored, hlane⟩
    rw [← Db.groupAt_id hg']
    unfold sortById at hrest hmem
    rw [hrest] at hsorted hmem
    rcases List.mem_cons.1 hmem with rfl | hin
    · exact le_refl _
    · exact List.rel_of_pairwise_cons hsorted hin

theorem Db.legacyGroup_none {db : Db} (hids : (db.groups.map (·.id)).Nodup) {lane : String} :
    db.legacyGroup env lane = none ↔ ∀ id, ¬ db.Answers env lane id := by
  constructor
  · rintro h id ⟨g, stored, hg, hstored, hlane⟩
    have hmem := Db.mem_legacy.2 ⟨List.mem_of_find?_eq_some hg, stored, hstored, hlane⟩
    rw [List.head?_eq_none_iff.1 h] at hmem
    exact List.not_mem_nil hmem
  · intro h
    cases hfound : db.legacyGroup env lane with
    | none => rfl
    | some g => exact absurd (Db.legacyGroup_some hids hfound).1 (h _)

/-- The least id of a group that is named like the lane decides. -/
theorem Db.legacyGroup_of_least {db : Db} (hids : (db.groups.map (·.id)).Nodup) {lane : String} {id : Nat}
    (hanswers : db.Answers env lane id) (hleast : ∀ id', db.Answers env lane id' → id ≤ id') :
    ∃ g, db.legacyGroup env lane = some g ∧ g.id = id := by
  cases hfound : db.legacyGroup env lane with
  | none => exact absurd hanswers ((Db.legacyGroup_none hids).1 hfound id)
  | some g =>
    obtain ⟨hin, hmin⟩ := Db.legacyGroup_some hids hfound
    exact ⟨g, rfl, le_antisymm (hmin id hanswers) (hleast _ hin)⟩

/-! ## What a lookup changes -/

variable (env) (tenantId : TenantId)

/-- `db` once the group of a lane was looked up. -/
def Db.lookedUp (db : Db) (lane : String) : Db := { db with groups := (laneGroup env tenantId lane db.groups).2 }

theorem laneGroup_call (lane : String) (db : Db) :
    LaneGroupCall env (resolveLaneAssignmentId env lane tenantId) (laneGroupIdentifier env lane tenantId) lane db
      (laneGroup env tenantId lane db.groups).1 (db.lookedUp env tenantId lane) := by
  unfold Db.lookedUp laneGroup
  dsimp only
  cases hg : db.groups.find? (·.id == resolveLaneAssignmentId env lane tenantId) with
  | some g =>
    dsimp only
    split
    · rename_i hname
      exact .current hg (by simpa using hname)
    · rename_i hname
      split
      · rename_i hany
        obtain ⟨stored, hstored, hlower⟩ := (Option.any_eq_true _ _).1 hany
        exact .renamed hg hstored (fun he => hname (by simp [hstored, he])) (by simpa using hlower)
      · rename_i hany
        refine .taken hg (by simpa using hname) fun stored hstored hlower => hany ?_
        simp [hstored, hlower]
  | none =>
    dsimp only
    cases hlegacy : (sortById Group.id (db.groups.filter fun g =>
        g.identifier.any fun stored => env.sqlLower (sqlTrim stored) == lane)).head? with
    | some g => exact .legacy hg hlegacy
    | none => exact .created hg hlegacy

/-- The lookup of the lane stores a group under the tenant's identifier: there is
none for the lane, or it is spelled otherwise. -/
def Db.Opens (db : Db) (lane : String) : Prop :=
  (db.groupAt (resolveLaneAssignmentId env lane tenantId) = none ∧ db.legacyGroup env lane = none) ∨
    ∃ g stored, db.groupAt (resolveLaneAssignmentId env lane tenantId) = some g ∧ g.identifier = some stored ∧
      stored ≠ laneGroupIdentifier env lane tenantId ∧ env.lower (strip stored) = laneGroupIdentifier env lane tenantId

/-- What a lookup does to the stored groups. -/
theorem Db.lookedUp_cases {db : Db} (hids : (db.groups.map (·.id)).Nodup) (lane : String) :
    db.lookedUp env tenantId lane = db ∨
      (db.Opens env tenantId lane ∧ (((db.lookedUp env tenantId lane).groups).map (·.id)).Nodup ∧
        (db.lookedUp env tenantId lane).GroupNamed (resolveLaneAssignmentId env lane tenantId) (laneGroupIdentifier env lane tenantId) ∧
        ∀ id, id ≠ resolveLaneAssignmentId env lane tenantId → (db.lookedUp env tenantId lane).groupAt id = db.groupAt id) := by
  have hcall := laneGroup_call env tenantId lane db
  generalize (laneGroup env tenantId lane db.groups).1 = group at hcall
  generalize hdb' : db.lookedUp env tenantId lane = db' at hcall ⊢
  cases hcall with
  | current | taken | legacy => exact .inl rfl
  | @renamed g stored hg hstored hname hlower =>
    have hid := Db.groupAt_id hg
    set canonical := laneGroupIdentifier env lane tenantId
    refine .inr ⟨.inr ⟨g, stored, hg, hstored, hname, hlower⟩, ?_,
      ⟨{ g with name := some canonical, identifier := some canonical }, ?_, rfl⟩, fun id hne => ?_⟩
    · have hsame : (db.renameGroup (resolveLaneAssignmentId env lane tenantId) canonical).groups.map (·.id) = db.groups.map (·.id) :=
        map_updateWhere fun _ => rfl
      rwa [hsame]
    · rw [Db.groupAt_renameGroup, hg]
      simp [hid]
    · rw [Db.groupAt_renameGroup]
      cases hfound : db.groupAt id with
      | none => rfl
      | some g' => simp [Db.groupAt_id hfound, hne]
  | created hnone hlegacy =>
    set canonical := laneGroupIdentifier env lane tenantId
    refine .inr ⟨.inl ⟨hnone, hlegacy⟩, ?_,
      ⟨⟨resolveLaneAssignmentId env lane tenantId, some canonical, some canonical, none⟩, ?_, rfl⟩, fun id hne => ?_⟩
    · unfold Db.addGroup
      rw [List.map_append]
      refine List.nodup_append'.2 ⟨hids, by simp, ?_⟩
      rintro id hin hnew
      obtain ⟨g, hg, rfl⟩ := List.mem_map.1 hin
      simp only [List.map_cons, List.map_nil, List.mem_singleton] at hnew
      rw [← hnew, Db.groupAt_of_mem hids hg] at hnone
      cases hnone
    · unfold Db.groupAt Db.addGroup at *
      rw [List.find?_append, hnone]
      simp
    · unfold Db.groupAt Db.addGroup
      rw [List.find?_append]
      simp [Ne.symm hne]

variable {env tenantId}

/-- Only the lane's own identifier gets a new group that answers to it. -/
theorem Db.answers_lookedUp (hlower : env.LowersText) {db : Db} (hids : (db.groups.map (·.id)).Nodup) {lane lane' : String}
    (hlane : env.IsLane lane) {id : Nat} :
    (db.lookedUp env tenantId lane').Answers env lane id ↔ db.Answers env lane id ∨
      (db.lookedUp env tenantId lane' ≠ db ∧ laneGroupIdentifier env lane' tenantId = lane ∧
        id = resolveLaneAssignmentId env lane' tenantId) := by
  have hfinal := hlower.canonical lane' tenantId
  have hstrip : strip (laneGroupIdentifier env lane' tenantId) = laneGroupIdentifier env lane' tenantId := by
    rw [← hfinal, hlower.outer, strip_strip]
  rcases Db.lookedUp_cases env tenantId hids lane' with hsame | ⟨hopens, -, ⟨g, hg, hidentifier⟩, hothers⟩
  · rw [hsame]
    simp
  · have hchanged : db.lookedUp env tenantId lane' ≠ db := by
      intro hsame
      rw [hsame] at hg
      rcases hopens with ⟨hnone, -⟩ | ⟨g', stored, hg', hstored, hne, -⟩
      · rw [hnone] at hg
        cases hg
      · rw [hg'] at hg
        cases hg
        exact hne (Option.some.inj (hstored.symm.trans hidentifier))
    by_cases hid : id = resolveLaneAssignmentId env lane' tenantId
    · subst hid
      have hnew : (db.lookedUp env tenantId lane').Answers env lane (resolveLaneAssignmentId env lane' tenantId) ↔
          laneGroupIdentifier env lane' tenantId = lane := by
        unfold Db.Answers
        rw [hg]
        simp only [Option.some.injEq, ↓existsAndEq, hidentifier, true_and]
        rw [sqlTrim_of_strip hstrip, hlower.sqlKeeps _ (by rwa [hstrip] at hfinal)]
      rw [hnew]
      refine ⟨fun h => .inr ⟨hchanged, h, rfl⟩, ?_⟩
      rintro (⟨g', stored, hg', hstored, hmatch⟩ | ⟨-, h, -⟩)
      · rcases hopens with ⟨hnone, -⟩ | ⟨g'', stored', hg'', hstored', -, hsame⟩
        · rw [hnone] at hg'
          cases hg'
        · -- the old spelling answered to the lane: it is the identifier but for outer blanks
          rw [hg'] at hg''
          cases hg''
          rw [hstored] at hstored'
          cases hstored'
          rw [← hsame, ← strip_sqlTrim, ← hlower.outer, ← hlower.sqlAgrees, hmatch, hlane.2, hlane.1]
      · exact h
    · unfold Db.Answers
      rw [hothers id hid]
      simp [hid]

variable (env tenantId)

/-- `db` once some lanes were looked up, one after the other. -/
def Db.lookUp (db : Db) (lanes : List String) : Db := { db with groups := (laneGroups env tenantId lanes db.groups).2 }

variable {env tenantId}

@[simp] theorem Db.lookUp_nil (db : Db) : db.lookUp env tenantId [] = db := rfl

@[simp] theorem Db.lookUp_cons (db : Db) (lane : String) (lanes : List String) :
    db.lookUp env tenantId (lane :: lanes) = (db.lookedUp env tenantId lane).lookUp env tenantId lanes := rfl

theorem Db.lookUp_append (db : Db) (lanes lanes' : List String) :
    db.lookUp env tenantId (lanes ++ lanes') = (db.lookUp env tenantId lanes).lookUp env tenantId lanes' := by
  induction lanes generalizing db with
  | nil => rfl
  | cons lane lanes ih => rw [List.cons_append, Db.lookUp_cons, Db.lookUp_cons, ih]

variable (env tenantId)

/-- The groups after some lookups, next to those before. -/
structure Db.Grown (db₀ : Db) (lanes : List String) (db : Db) : Prop where
  nodup : (db.groups.map (·.id)).Nodup
  free : ∀ id, db.groupAt id = none → db₀.groupAt id = none
  origin : ∀ id g, db.groupAt id = some g → db₀.groupAt id = some g ∨ ∃ stored, g.identifier = some stored ∧ env.lower (strip stored) = stored
  kept : ∀ lane, env.IsLane lane → ∀ id, db₀.Answers env lane id → db.Answers env lane id
  answers : ∀ lane, env.IsLane lane → ∀ id, db.Answers env lane id → db₀.Answers env lane id ∨
    ∃ lane' ∈ lanes, laneGroupIdentifier env lane' tenantId = lane ∧ id = resolveLaneAssignmentId env lane' tenantId

variable {env tenantId}

theorem Db.Grown.step (hlower : env.LowersText) {db₀ db : Db} {lanes : List String} (h : db₀.Grown env tenantId lanes db) (lane : String) :
    db₀.Grown env tenantId (lanes ++ [lane]) (db.lookedUp env tenantId lane) := by
  have hcases := Db.lookedUp_cases env tenantId h.nodup lane
  refine ⟨?_, ?_, ?_, fun l hl id hanswers => ?_, fun l hl id hanswers => ?_⟩
  · rcases hcases with hsame | ⟨-, hnodup, -⟩
    · rw [hsame]
      exact h.nodup
    · exact hnodup
  · intro id hnone
    rcases hcases with hsame | ⟨-, -, ⟨g, hg, -⟩, hothers⟩
    · rw [hsame] at hnone
      exact h.free id hnone
    · by_cases hid : id = resolveLaneAssignmentId env lane tenantId
      · rw [hid, hg] at hnone
        cases hnone
      · exact h.free id ((hothers id hid).symm.trans hnone)
  · intro id g hfound
    rcases hcases with hsame | ⟨-, -, ⟨g', hg', hidentifier⟩, hothers⟩
    · rw [hsame] at hfound
      exact h.origin id g hfound
    · by_cases hid : id = resolveLaneAssignmentId env lane tenantId
      · rw [hid, hg'] at hfound
        cases hfound
        exact .inr ⟨_, hidentifier, hlower.canonical lane tenantId⟩
      · exact h.origin id g ((hothers id hid).symm.trans hfound)
  · exact (Db.answers_lookedUp hlower h.nodup hl).2 (.inl (h.kept l hl id hanswers))
  · rcases (Db.answers_lookedUp hlower h.nodup hl).1 hanswers with hold | ⟨-, hname, hid⟩
    · refine (h.answers l hl id hold).imp_right ?_
      rintro ⟨lane', hin, hrest⟩
      exact ⟨lane', List.mem_append_left _ hin, hrest⟩
    · exact .inr ⟨lane, by simp, hname, hid⟩

theorem Db.grown_lookUp (hlower : env.LowersText) {db₀ : Db} (hids : (db₀.groups.map (·.id)).Nodup) (lanes : List String) :
    db₀.Grown env tenantId lanes (db₀.lookUp env tenantId lanes) := by
  induction lanes using List.reverseRecOn with
  | nil => exact ⟨hids, fun _ h => h, fun _ _ h => .inl h, fun _ _ _ h => h, fun _ _ _ h => .inl h⟩
  | append_singleton lanes lane ih =>
    rw [Db.lookUp_append]
    exact ih.step hlower lane

/-- A lookup that stores a group would have stored it at once. -/
theorem Db.Grown.opens {db₀ db : Db} {lanes : List String} (h : db₀.Grown env tenantId lanes db)
    (hids : (db₀.groups.map (·.id)).Nodup) {lane : String} (hlane : env.IsLane lane) (hopens : db.Opens env tenantId lane) :
    db₀.Opens env tenantId lane := by
  rcases hopens with ⟨hnone, hlegacy⟩ | ⟨g, stored, hg, hstored, hne, hsame⟩
  · refine .inl ⟨h.free _ hnone, (Db.legacyGroup_none hids).2 fun id hanswers => ?_⟩
    exact (Db.legacyGroup_none h.nodup).1 hlegacy id (h.kept lane hlane id hanswers)
  · rcases h.origin _ _ hg with hold | ⟨stored', hstored', hfinal⟩
    · exact .inr ⟨g, stored, hold, hstored, hne, hsame⟩
    · rw [hstored] at hstored'
      cases hstored'
      exact absurd (hfinal.symm.trans hsame) hne

/-! ## Found again -/

variable (env tenantId)

/-- The group of the lane is found by its name alone, and the lookup of another
lane afterwards stores one that is found in its stead: the new group has the lane
as its identifier and comes first, or it is stored under the lane's own id. -/
def Db.Displaces (db : Db) (before : List String) (lane lane' : String) : Prop :=
  db.groupAt (resolveLaneAssignmentId env lane tenantId) = none ∧ db.Opens env tenantId lane' ∧
    ((laneGroupIdentifier env lane' tenantId = lane ∧
        ∃ g, db.legacyGroup env lane = some g ∧ resolveLaneAssignmentId env lane' tenantId < g.id) ∨
      (resolveLaneAssignmentId env lane' tenantId = resolveLaneAssignmentId env lane tenantId ∧
        ((db.legacyGroup env lane).isSome = true ∨ ∃ b ∈ before, laneGroupIdentifier env b tenantId = lane)))

/-- No lookup displaces the group of a lane that was looked up before. -/
def Db.Undisplaced (db : Db) (lanes : List String) : Prop :=
  ∀ before lane after, lanes = before ++ lane :: after → ∀ lane' ∈ after, ¬ db.Displaces env tenantId before lane lane'

/-- Looking the lane up finds the group of an id, and changes nothing. -/
inductive Db.Holds (db₀ : Db) (before : List String) (lane : String) : Option Nat → Db → Prop
  | named {db : Db} (h : db.GroupNamed (resolveLaneAssignmentId env lane tenantId) (laneGroupIdentifier env lane tenantId)) :
      Holds db₀ before lane (some (resolveLaneAssignmentId env lane tenantId)) db
  | taken {db : Db} {g : Group} (hg : db.groupAt (resolveLaneAssignmentId env lane tenantId) = some g)
      (hname : ∀ stored, g.identifier = some stored → env.lower (strip stored) ≠ laneGroupIdentifier env lane tenantId) :
      Holds db₀ before lane none db
  | legacy {db : Db} {g : Group} (hnone : db.groupAt (resolveLaneAssignmentId env lane tenantId) = none)
      (hg : db.legacyGroup env lane = some g)
      (hby : (db₀.legacyGroup env lane).isSome = true ∨ ∃ b ∈ before, laneGroupIdentifier env b tenantId = lane) :
      Holds db₀ before lane (some g.id) db

variable {env tenantId}

theorem Db.Holds.lookup {db₀ db : Db} {before : List String} {lane : String} {found : Option Nat} (hlower : env.LowersText)
    (h : db₀.Holds env tenantId before lane found db) :
    (laneGroup env tenantId lane db.groups).1.map Group.id = found ∧ db.lookedUp env tenantId lane = db := by
  have hcall := laneGroup_call env tenantId lane db
  generalize (laneGroup env tenantId lane db.groups).1 = group at hcall ⊢
  generalize db.lookedUp env tenantId lane = db' at hcall ⊢
  have hfinal := hlower.canonical lane tenantId
  cases h with
  | named h =>
    obtain ⟨g₀, hg₀, hidentifier⟩ := h
    cases hcall with
    | current hg hname => exact ⟨congrArg some (Db.groupAt_id hg), rfl⟩
    | renamed hg hstored hname hlower =>
      rw [hg₀] at hg
      cases hg
      exact absurd (Option.some.inj (hstored.symm.trans hidentifier)) hname
    | taken hg hname hother =>
      rw [hg₀] at hg
      cases hg
      exact absurd hidentifier hname
    | legacy hnone | created hnone =>
      rw [hg₀] at hnone
      cases hnone
  | taken hg₀ hother =>
    cases hcall with
    | current hg hname =>
      rw [hg₀] at hg
      cases hg
      exact absurd hfinal (hother _ hname)
    | renamed hg hstored hname hlower =>
      rw [hg₀] at hg
      cases hg
      exact absurd hlower (hother _ hstored)
    | taken => exact ⟨rfl, rfl⟩
    | legacy hnone | created hnone =>
      rw [hg₀] at hnone
      cases hnone
  | legacy hnone₀ hg₀ hby =>
    cases hcall with
    | current hg | renamed hg | taken hg =>
      rw [hnone₀] at hg
      cases hg
    | legacy hnone hg =>
      rw [hg₀] at hg
      cases hg
      exact ⟨rfl, rfl⟩
    | created hnone hlegacy =>
      rw [hg₀] at hlegacy
      cases hlegacy

/-- The lane is found again right after it was looked up. -/
theorem Db.Grown.holds {db₀ db : Db} {before : List String} {lane : String} (h : db₀.Grown env tenantId before db)
    (hids : (db₀.groups.map (·.id)).Nodup) (hlane : env.IsLane lane) :
    db₀.Holds env tenantId before lane ((laneGroup env tenantId lane db.groups).1.map Group.id) (db.lookedUp env tenantId lane) := by
  have hcall := laneGroup_call env tenantId lane db
  generalize (laneGroup env tenantId lane db.groups).1 = group at hcall ⊢
  generalize db.lookedUp env tenantId lane = db' at hcall ⊢
  cases hgroup : group with
  | none =>
    subst hgroup
    cases hcall with
    | taken hg hname hother => exact .taken hg hother
  | some g =>
    subst hgroup
    by_cases hlegacy : (db.groupAt (resolveLaneAssignmentId env lane tenantId)).isSome = true ∨ db.legacyGroup env lane = none
    · obtain ⟨hid, hnamed⟩ := hcall.named hlegacy
      have hholds : db₀.Holds env tenantId before lane (some (resolveLaneAssignmentId env lane tenantId)) db' := .named hnamed
      rwa [← hid] at hholds
    · obtain ⟨hnone, hsome⟩ := not_or.1 hlegacy
      rw [Bool.not_eq_true, Option.isSome_eq_false_iff, Option.isNone_iff_eq_none] at hnone
      cases hcall with
      | current hg | renamed hg =>
        rw [hnone] at hg
        cases hg
      | created _ hfree => exact absurd hfree hsome
      | legacy _ hg =>
        refine .legacy hnone hg ?_
        obtain ⟨hanswers, -⟩ := Db.legacyGroup_some h.nodup hg
        rcases h.answers lane hlane _ hanswers with hold | ⟨b, hb, hname, -⟩
        · refine .inl (Option.isSome_iff_ne_none.2 fun hfree => ?_)
          exact (Db.legacyGroup_none hids).1 hfree _ hold
        · exact .inr ⟨b, hb, hname⟩

/-- The lookup of another lane leaves it so. -/
theorem Db.Holds.step (hlower : env.LowersText) {db₀ db : Db} {before lanes : List String} {lane lane' : String} {found : Option Nat}
    (hids : (db₀.groups.map (·.id)).Nodup) (hgrown : db₀.Grown env tenantId lanes db) (hlane : env.IsLane lane) (hlane' : env.IsLane lane')
    (hnew : ∀ b ∈ lanes, laneGroupIdentifier env b tenantId ≠ laneGroupIdentifier env lane' tenantId)
    (hkept : ¬ db₀.Displaces env tenantId before lane lane') (h : db₀.Holds env tenantId before lane found db) :
    db₀.Holds env tenantId before lane found (db.lookedUp env tenantId lane') := by
  cases h with
  | named h => exact .named ((laneGroup_call env tenantId lane' db).keeps_named (hlower.canonical lane tenantId) h)
  | @taken _ g hg hname =>
    rcases Db.lookedUp_cases env tenantId hgrown.nodup lane' with hsame | ⟨hopens, -, ⟨g', hg', hidentifier⟩, hothers⟩
    · rw [hsame]
      exact .taken hg hname
    · by_cases hid : resolveLaneAssignmentId env lane tenantId = resolveLaneAssignmentId env lane' tenantId
      · -- the group of the id gets the other lane's identifier
        rw [← hid] at hg'
        refine .taken hg' fun stored hstored hmatch => ?_
        rw [hidentifier] at hstored
        cases hstored
        rcases hopens with ⟨hnone, -⟩ | ⟨g'', stored, hg'', hstored, -, hsame⟩
        · rw [← hid, hg] at hnone
          cases hnone
        · rw [← hid, hg] at hg''
          cases hg''
          exact hname stored hstored (hsame.trans ((hlower.canonical lane' tenantId).symm.trans hmatch))
      · exact .taken ((hothers _ hid).trans hg) hname
  | @legacy _ g hnone hg hby =>
    rcases Db.lookedUp_cases env tenantId hgrown.nodup lane' with hsame | ⟨hopens, hnodup, -, hothers⟩
    · rw [hsame]
      exact .legacy hnone hg hby
    · have hopens₀ := hgrown.opens hids hlane' hopens
      have hfree := hgrown.free _ hnone
      have hid : resolveLaneAssignmentId env lane tenantId ≠ resolveLaneAssignmentId env lane' tenantId :=
        fun hid => hkept ⟨hfree, hopens₀, .inr ⟨hid.symm, hby⟩⟩
      obtain ⟨hanswers, hleast⟩ := Db.legacyGroup_some hgrown.nodup hg
      obtain ⟨g', hg', hsame⟩ : ∃ g', (db.lookedUp env tenantId lane').legacyGroup env lane = some g' ∧ g'.id = g.id := by
        refine Db.legacyGroup_of_least hnodup ((Db.answers_lookedUp hlower hgrown.nodup hlane).2 (.inl hanswers)) fun id hin => ?_
        rcases (Db.answers_lookedUp hlower hgrown.nodup hlane).1 hin with hold | ⟨-, hname, rfl⟩
        · exact hleast id hold
        · -- a new group with the lane's name comes after the one that was there at first
          refine not_lt.1 fun hlt => hkept ⟨hfree, hopens₀, .inl ⟨hname, ?_⟩⟩
          have hback : ∀ id, db.Answers env lane id → db₀.Answers env lane id := by
            intro id hid
            rcases hgrown.answers lane hlane id hid with hold | ⟨b, hb, hsame, -⟩
            · exact hold
            · exact absurd (hsame.trans hname.symm) (hnew b hb)
          obtain ⟨g₀, hg₀, hid₀⟩ := Db.legacyGroup_of_least hids (hback _ hanswers)
            fun id hin => hleast id (hgrown.kept lane hlane id hin)
          exact ⟨g₀, hg₀, by rwa [hid₀]⟩
      rw [← hsame]
      exact .legacy ((hothers _ hid).trans hnone) hg' hby

/-- And so do all that follow. -/
theorem Db.Holds.run (hlower : env.LowersText) {db₀ : Db} {before : List String} {lane : String} {found : Option Nat}
    (hids : (db₀.groups.map (·.id)).Nodup) (hlane : env.IsLane lane) (after : List String) {lanes : List String} {db : Db}
    (hgrown : db₀.Grown env tenantId lanes db) (hlanes : ∀ b ∈ lanes ++ after, env.IsLane b) (hnodup : (lanes ++ after).Nodup)
    (hkept : ∀ b ∈ after, ¬ db₀.Displaces env tenantId before lane b) (h : db₀.Holds env tenantId before lane found db) :
    db₀.Holds env tenantId before lane found (db.lookUp env tenantId after) := by
  induction after generalizing lanes db with
  | nil => exact h
  | cons b after ih =>
    have hb : env.IsLane b := hlanes b (by simp)
    have hnew : ∀ b' ∈ lanes, laneGroupIdentifier env b' tenantId ≠ laneGroupIdentifier env b tenantId := by
      intro b' hb' hsame
      have heq := (hlanes b' (by simp [hb'])).eq_of_identifier hb hsame
      exact List.disjoint_of_nodup_append hnodup hb' (by simp [heq])
    refine ih (hgrown.step hlower b) ?_ ?_ (fun b' hb' => hkept b' (by simp [hb'])) ?_
    · simpa [or_assoc] using hlanes
    · simpa using hnodup
    · exact h.step hlower hids hgrown hlane hb hnew (hkept b (by simp))

/-! ## A list of lanes -/

theorem mem_laneGroups {lanes : List String} {db : Db} {x : String × Option Group} :
    x ∈ (laneGroups env tenantId lanes db.groups).1 ↔ ∃ before after, lanes = before ++ x.1 :: after ∧
      x.2 = (laneGroup env tenantId x.1 (db.lookUp env tenantId before).groups).1 := by
  induction lanes generalizing db with
  | nil => simp [laneGroups]
  | cons lane lanes ih =>
    have hrest := @ih (db.lookedUp env tenantId lane)
    rw [laneGroups, List.mem_cons]
    constructor
    · rintro (rfl | hin)
      · exact ⟨[], lanes, rfl, rfl⟩
      · obtain ⟨before, after, hsplit, hfound⟩ := hrest.1 hin
        exact ⟨lane :: before, after, by simp [hsplit], hfound⟩
    · rintro ⟨before, after, hsplit, hfound⟩
      cases before with
      | nil =>
        obtain ⟨rfl, -⟩ := List.cons.inj hsplit
        exact .inl (Prod.ext rfl hfound)
      | cons b before =>
        obtain ⟨rfl, htail⟩ := List.cons.inj hsplit
        exact .inr (hrest.2 ⟨before, after, htail, hfound⟩)

/-- Every lane's group is found again, once all lanes were looked up. -/
theorem laneGroups_again (hlower : env.LowersText) {lanes : List String} {db : Db} (hids : (db.groups.map (·.id)).Nodup)
    (hlanes : ∀ lane ∈ lanes, env.IsLane lane) (hnodup : lanes.Nodup) (hkept : db.Undisplaced env tenantId lanes)
    {x : String × Option Group} (hx : x ∈ (laneGroups env tenantId lanes db.groups).1) :
    (laneGroup env tenantId x.1 (db.lookUp env tenantId lanes).groups).1.map Group.id = x.2.map Group.id ∧
      (db.lookUp env tenantId lanes).lookedUp env tenantId x.1 = db.lookUp env tenantId lanes := by
  obtain ⟨before, after, rfl, hfound⟩ := mem_laneGroups.1 hx
  have hlane : env.IsLane x.1 := hlanes _ (by simp)
  have hgrown : db.Grown env tenantId before (db.lookUp env tenantId before) := Db.grown_lookUp hlower hids before
  have hholds := hgrown.holds hids hlane
  rw [← hfound] at hholds
  rw [Db.lookUp_append, Db.lookUp_cons]
  refine (hholds.run hlower hids hlane after (hgrown.step hlower x.1) ?_ ?_ (hkept before x.1 after rfl)).lookup hlower
  · simpa using hlanes
  · simpa using hnodup

/-- Lookups that change nothing find what each finds alone. -/
theorem laneGroups_still {lanes : List String} {groups : List Group}
    (hstill : ∀ lane ∈ lanes, (laneGroup env tenantId lane groups).2 = groups) :
    laneGroups env tenantId lanes groups = (lanes.map fun lane => (lane, (laneGroup env tenantId lane groups).1), groups) := by
  induction lanes with
  | nil => rfl
  | cons lane lanes ih =>
    rw [laneGroups, hstill lane (by simp)]
    rw [ih fun lane' hlane' => hstill lane' (by simp [hlane'])]
    rfl

theorem laneGroups_append (lanes lanes' : List String) (groups : List Group) :
    (laneGroups env tenantId (lanes ++ lanes') groups).1 = (laneGroups env tenantId lanes groups).1 ++
      (laneGroups env tenantId lanes' (laneGroups env tenantId lanes groups).2).1 := by
  induction lanes generalizing groups with
  | nil => rfl
  | cons lane lanes ih =>
    rw [List.cons_append, laneGroups, laneGroups]
    exact congrArg (_ :: ·) (ih _)

/-! ## The lanes of a task -/

theorem extendGroup_lanes {grouped : List (String × List String)} {lane : String} (identifiers : List String)
    (hlane : env.IsLane lane) (h : (∀ l ∈ grouped.map (·.1), env.IsLane l) ∧ (grouped.map (·.1)).Nodup) :
    (∀ l ∈ (extendGroup grouped lane identifiers).map (·.1), env.IsLane l) ∧ ((extendGroup grouped lane identifiers).map (·.1)).Nodup := by
  unfold extendGroup
  split
  · have hsame : (grouped.map fun g => if g.1 == lane then (lane, g.2 ++ identifiers) else g).map (·.1) = grouped.map (·.1) := by
      rw [List.map_map]
      refine List.map_congr_left fun g _ => ?_
      by_cases hg : g.1 = lane <;> simp [hg]
    rwa [hsame]
  · rename_i hnew
    rw [List.map_append]
    refine ⟨fun l hl => ?_, List.nodup_append'.2 ⟨h.2, by simp, ?_⟩⟩
    · rcases List.mem_append.1 hl with hl | hl
      · exact h.1 l hl
      · obtain rfl : l = lane := by simpa using hl
        exact hlane
    · intro l hin hl
      obtain ⟨e, he, rfl⟩ := List.mem_map.1 hin
      refine hnew (List.any_eq_true.2 ⟨e, he, ?_⟩)
      simpa using hl

theorem laneOwnerIdentifiers_lanes (hlower : env.LowersText) (entries : List (PyVal × PyVal)) :
    (∀ l ∈ (laneOwnerIdentifiers env (some (.dict entries))).map (·.1), env.IsLane l) ∧
      ((laneOwnerIdentifiers env (some (.dict entries))).map (·.1)).Nodup := by
  have hfold : ∀ grouped : List (String × List String), ((∀ l ∈ grouped.map (·.1), env.IsLane l) ∧ (grouped.map (·.1)).Nodup) →
      (∀ l ∈ (entries.foldl (addLaneEntry env) grouped).map (·.1), env.IsLane l) ∧
        ((entries.foldl (addLaneEntry env) grouped).map (·.1)).Nodup := by
    induction entries with
    | nil => exact fun _ h => h
    | cons entry entries ih =>
      intro grouped h
      rw [List.foldl_cons]
      refine ih _ ?_
      unfold addLaneEntry
      rcases hname : normalizeLaneName env entry.1 with - | lane
      · exact h
      rcases hvalues : entry.2.asList with - | values
      · exact h
      exact extendGroup_lanes _ (hlower.isLane hname) h
  exact hfold [] (by simp)

/-- Every element of a list has its partner in a list with the same keys. -/
theorem exists_mem_zip {α β κ : Type} {a : α → κ} {b : β → κ} {l : List α} {l' : List β} (hkeys : l.map a = l'.map b) {x : α}
    (hx : x ∈ l) : ∃ y, (x, y) ∈ l.zip l' ∧ b y = a x := by
  induction l generalizing l' with
  | nil => cases hx
  | cons z l ih =>
    cases l' with
    | nil => cases hkeys
    | cons y l' =>
      rw [List.map_cons, List.map_cons, List.cons.injEq] at hkeys
      rcases List.mem_cons.1 hx with rfl | hx
      · exact ⟨y, by simp, hkeys.1.symm⟩
      · obtain ⟨y', hin, hkey⟩ := ih hkeys.2 hx
        exact ⟨y', List.mem_cons_of_mem _ hin, hkey⟩

theorem eq_of_mem_zip_map {α β : Type} {f : α → β} {l : List α} {x : α × β} (h : x ∈ l.zip (l.map f)) : x.2 = f x.1 := by
  induction l with
  | nil => cases h
  | cons y l ih =>
    rcases List.mem_cons.1 h with rfl | h
    · rfl
    · exact ih h

namespace LaneTask
variable {t : LaneTask}

variable (env t) in
/-- The lanes that a call for the task looks up, in order. -/
def lookups : List String := if t.lane ∈ t.lanes env then t.lanes env else t.lanes env ++ [t.lane]

theorem lanes_lanes (t : LaneTask) (hlower : env.LowersText) : (∀ lane ∈ t.lanes env, env.IsLane lane) ∧ (t.lanes env).Nodup := by
  have howners := laneOwnerIdentifiers_lanes hlower (effectiveEntries t.taskData t.definitionProperties)
  rw [← effectiveLaneOwners_eq] at howners
  constructor
  · intro lane hlane
    obtain ⟨e, he, rfl⟩ := List.mem_map.1 hlane
    exact howners.1 e.1 (List.mem_map_of_mem (List.mem_filter.1 he).1)
  · exact howners.2.sublist (List.filter_sublist.map _)

theorem lanes_lookups (t : LaneTask) (hlower : env.LowersText) (hlane : env.IsLane t.lane) :
    (∀ lane ∈ t.lookups env, env.IsLane lane) ∧ (t.lookups env).Nodup := by
  obtain ⟨hlanes, hnodup⟩ := t.lanes_lanes hlower
  unfold lookups
  split
  · exact ⟨hlanes, hnodup⟩
  · rename_i hnew
    refine ⟨fun lane h => ?_, List.nodup_append'.2 ⟨hnodup, by simp, by simpa using hnew⟩⟩
    rcases List.mem_append.1 h with h | h
    · exact hlanes lane h
    · exact List.mem_singleton.1 h ▸ hlane

/-- The call for a task looks these lanes up, and its own lane is one of them. -/
theorem group_eq (env : Env W Ω) (t : LaneTask) (db : Db) : (t.group env db).2 = (db.lookUp env t.tenantId (t.lookups env)).groups ∧
    (t.lane, (t.group env db).1) ∈ (laneGroups env t.tenantId (t.lookups env) db.groups).1 := by
  unfold group taskGroup lookups
  dsimp only
  have hlanes := laneGroups_lanes env t.tenantId (t.lanes env) db.groups
  cases hfound : (laneGroups env t.tenantId (t.lanes env) db.groups).1.find? (·.1 == t.lane) with
  | some entry =>
    have hentry : entry.1 = t.lane := by simpa using List.find?_some hfound
    have hmem := List.mem_of_find?_eq_some hfound
    have hin : t.lane ∈ t.lanes env := by
      rw [← hlanes, ← hentry]
      exact List.mem_map_of_mem hmem
    rw [if_pos hin]
    exact ⟨rfl, hentry ▸ hmem⟩
  | none =>
    have hnot : t.lane ∉ t.lanes env := by
      intro hin
      rw [← hlanes] at hin
      obtain ⟨e, he, heq⟩ := List.mem_map.1 hin
      exact List.find?_eq_none.1 hfound e he (by simpa using heq)
    rw [if_neg hnot]
    refine ⟨?_, ?_⟩
    · rw [Db.lookUp_append]
      rfl
    · rw [laneGroups_append]
      exact List.mem_append_right _ (by simp [laneGroups])

/-- The second call finds the groups that the first one found, and nobody joins
a group who has not joined it. -/
theorem again (t : LaneTask) (hlower : env.LowersText) (hlane : env.IsLane t.lane) {db : Db} (hids : (db.groups.map (·.id)).Nodup)
    (hkept : db.Undisplaced env t.tenantId (t.lookups env)) (assignments : List UserGroupAssignment) (items : List WorkItem)
    (rows : List WorkItemUser) {db' : Db} (hdb' : db' = { db with
      groups := (t.group env db).2, userGroupAssignments := assignments, workItems := items, workItemUsers := rows }) :
    (t.group env db').2 = db'.groups ∧ (t.group env db').1.map Group.id = (t.group env db).1.map Group.id ∧
      ∀ u g, t.Enroll env db' u g → t.Enroll env db u g := by
  obtain ⟨hafter, hown⟩ := group_eq env t db
  obtain ⟨hlanes, hnodup⟩ := t.lanes_lookups hlower hlane
  have hgroups : db'.groups = (db.lookUp env t.tenantId (t.lookups env)).groups := by rw [hdb', ← hafter]
  have hagain : ∀ x ∈ (laneGroups env t.tenantId (t.lookups env) db.groups).1,
      (laneGroup env t.tenantId x.1 db'.groups).1.map Group.id = x.2.map Group.id ∧
        (laneGroup env t.tenantId x.1 db'.groups).2 = db'.groups := by
    intro x hx
    obtain ⟨hsame, hstill⟩ := laneGroups_again hlower hids hlanes hnodup hkept hx
    rw [hgroups]
    exact ⟨hsame, congrArg Db.groups hstill⟩
  -- the configured lanes come first among those that are looked up
  have hsub : ∀ x ∈ (laneGroups env t.tenantId (t.lanes env) db.groups).1, x ∈ (laneGroups env t.tenantId (t.lookups env) db.groups).1 := by
    intro x hx
    unfold lookups
    split
    · exact hx
    · rw [laneGroups_append]
      exact List.mem_append_left _ hx
  have hkeys := laneGroups_lanes env t.tenantId (t.lanes env) db.groups
  have hstill : laneGroups env t.tenantId (t.lanes env) db'.groups =
      ((t.lanes env).map fun lane => (lane, (laneGroup env t.tenantId lane db'.groups).1), db'.groups) := by
    refine laneGroups_still fun lane hin => ?_
    rw [← hkeys] at hin
    obtain ⟨x, hx, rfl⟩ := List.mem_map.1 hin
    exact (hagain x (hsub x hx)).2
  have hgroup : t.group env db' = ((laneGroup env t.tenantId t.lane db'.groups).1, db'.groups) := by
    unfold group taskGroup
    rw [hstill]
    dsimp only
    cases hfound : ((t.lanes env).map fun lane => (lane, (laneGroup env t.tenantId lane db'.groups).1)).find? (·.1 == t.lane) with
    | some entry =>
      have hentry : entry.1 = t.lane := by simpa using List.find?_some hfound
      obtain ⟨lane, -, rfl⟩ := List.mem_map.1 (List.mem_of_find?_eq_some hfound)
      dsimp only at hentry ⊢
      rw [hentry]
    | none => exact Prod.ext rfl (hagain _ hown).2
  refine ⟨by rw [hgroup], by rw [hgroup]; exact (hagain _ hown).1, ?_⟩
  rintro u g ⟨x, hx, group, hfound, hu, rfl⟩
  have hconfigured : t.configured env db' = t.configured env db := by rw [hdb']; rfl
  rw [hconfigured, hstill] at hx
  have hlane' : x.2.2 = (laneGroup env t.tenantId x.1.1 db'.groups).1 := by
    have hlanes : t.lanes env = (t.configured env db).map (·.1) := map_configured.symm
    dsimp only at hx
    rw [hlanes, List.map_map] at hx
    rw [eq_of_mem_zip_map hx]
    rfl
  obtain ⟨y, hy, hkey⟩ := exists_mem_zip (map_configured.trans hkeys.symm) (List.of_mem_zip hx).1
  have hsame := (hagain y (hsub y (List.of_mem_zip hy).2)).1
  rw [hkey, ← hlane', hfound] at hsame
  obtain ⟨group', hgroup', hid⟩ := Option.map_eq_some_iff.1 hsame.symm
  exact ⟨(x.1, y), hy, group', hgroup', hu, hid.symm⟩

end LaneTask

/-! ## Twice -/

theorem laneTask?_isLane (hlower : env.LowersText) {pi : ProcessInstance} {laneName : PyVal} {taskData : Dict}
    {definitionProperties : Option Dict} {t : LaneTask} (h : laneTask? env pi laneName taskData definitionProperties = some t) :
    env.IsLane t.lane :=
  hlower.isLane (laneTask?_some h).1

/-- The rows of an item whose potential owners all have one. -/
theorem OwnersAdded.none_added {tenantId : TenantId} {workItemId : Nat} {owns : Nat → WorkItemUserAddedBy → Prop}
    {rows rows' : List WorkItemUser} (h : OwnersAdded tenantId workItemId owns rows rows')
    (hall : ∀ u label, owns u label → ∃ old ∈ rows, old.workItemId = workItemId ∧ old.userId = u) : rows' = rows := by
  obtain ⟨added, hrows, -, hmem⟩ := h
  have hnil : added = [] := by
    refine List.eq_nil_iff_forall_not_mem.2 fun row hrow => ?_
    obtain ⟨u, label, howns, hnew, -⟩ := (hmem row).1 hrow
    obtain ⟨old, hold, hitem, huser⟩ := hall u label howns
    exact hnew old hold hitem huser
  rw [hrows, hnil, List.append_nil]

/-- A second call changes nothing. -/
theorem Assigned.again {pi : ProcessInstance} {workItemId : Nat} {task : Option LaneTask} {s s' s'' : Tx Ω} (hlower : env.LowersText)
    (hids : (s.view.groups.map (·.id)).Nodup) (hlane : ∀ t, task = some t → env.IsLane t.lane)
    (hkept : ∀ t, task = some t → s.view.Undisplaced env t.tenantId (t.lookups env))
    (h : Assigned env pi workItemId task s s') (h' : Assigned env pi workItemId task s' s'') : s'' = s' := by
  obtain ⟨seq, assignments, rows, hs'⟩ := h.rest
  obtain ⟨seq', assignments', rows', hs''⟩ := h'.rest
  have hagain : groupsAfter env task s'.view = s'.view.groups ∧ assignedGroup env task s'.view = assignedGroup env task s.view ∧
      ∀ t, task = some t → ∀ u g, t.Enroll env s'.view u g → t.Enroll env s.view u g := by
    cases task with
    | none => exact ⟨rfl, rfl, fun t ht => by cases ht⟩
    | some t =>
      have hview : s'.view = { s.view with
          groups := (t.group env s.view).2, userGroupAssignments := assignments
          workItems := itemsIn workItemId (assignedGroup env (some t) s.view) s.view.workItems, workItemUsers := rows } := by
        rw [hs']
        rfl
      obtain ⟨hgroups, hgroup, henroll⟩ := t.again hlower (hlane t rfl) hids (hkept t rfl) _ _ _ hview
      refine ⟨hgroups, hgroup, ?_⟩
      rintro t' ht' u g
      cases ht'
      exact henroll u g
  obtain ⟨hgroups, hgroup, henroll⟩ := hagain
  have hjoined : ∀ t, task = some t → ∀ u g, t.Enroll env s'.view u g → s'.view.InGroup u g :=
    fun t ht u g hin => (h.members u g).2 (.inr ⟨t, ht, henroll t ht u g hin⟩)
  obtain ⟨hseq, hassignments⟩ := h'.idle hjoined
  have hmembers : ∀ u g, s''.view.InGroup u g ↔ s'.view.InGroup u g := by
    intro u g
    unfold Db.InGroup
    rw [hassignments]
  -- whoever qualifies now did so in the first call
  have howners : ∀ u label, PotentialOwner env pi task s'.view s''.view u label → PotentialOwner env pi task s.view s'.view u label := by
    intro u label howns
    cases task with
    | none => exact howns
    | some t =>
      have hnames : t.Names env s'.view u ↔ t.Names env s.view u := by
        rw [hs']
        rfl
      rcases howns with ⟨hlabel, hnamed⟩ | ⟨hlabel, hnamed, g, hg, hin, hmember⟩
      · exact .inl ⟨hlabel, hnames.1 hnamed⟩
      · have hfound : (t.group env s.view).1.map Group.id = some g.id := by
          have hsame : (t.group env s'.view).1.map Group.id = (t.group env s.view).1.map Group.id := hgroup
          rw [← hsame, hg]
          rfl
        obtain ⟨g', hg', hid⟩ := Option.map_eq_some_iff.1 hfound
        refine .inr ⟨hlabel, fun hnamed' => hnamed (hnames.2 hnamed'), g', hg', ?_, ?_⟩
        · rw [hid]
          exact (hmembers u g.id).1 hin
        · rw [hs'] at hmember
          exact hmember
  have hrows : s''.view.workItemUsers = s'.view.workItemUsers :=
    h'.rows.none_added fun u label howns => h.isOwner (howners u label howns)
  have hitems : itemsIn workItemId (assignedGroup env task s'.view) s'.view.workItems = s'.view.workItems := by
    rw [hgroup, hs']
    exact itemsIn_itemsIn workItemId _ _ _
  have hseq' : seq' = s'.seq := by rw [← hseq, hs'']
  have hassignments' : assignments' = s'.view.userGroupAssignments := by rw [← hassignments, hs'']
  have hrows' : rows' = s'.view.workItemUsers := by rw [← hrows, hs'']
  rw [hs'', hgroups, hitems, hseq', hassignments', hrows']

/-- The owners that a call adds are tenant members, the initiator apart. -/
theorem PotentialOwner.member {pi : ProcessInstance} {task : Option LaneTask} (htenant : ∀ t, task = some t → t.tenantId = pi.m8fTenantId)
    {db db' : Db} {u : Nat} {label : WorkItemUserAddedBy} (h : PotentialOwner env pi task db db' u label) :
    u = pi.processInitiatorId ∨ ∃ user, db.Member pi.m8fTenantId user ∧ user.id = u := by
  cases task with
  | none => exact .inl h.2
  | some t =>
    rw [← htenant t rfl]
    rcases h with ⟨-, identifier, -, -, user, hmember, hid, -⟩ | ⟨-, -, g, -, -, hmember⟩
    · exact .inr ⟨user, hmember, hid⟩
    · exact .inr hmember

end

namespace Sample

/-- The digests of the two lanes of the tenant. -/
def laneDigest (text : String) : String :=
  if text = "1:b" then "6f05a38663673dd0d1435302186ef51b6a444fe10f5a2e3d0f3b75c78e671fa3"
  else if text = "1:1:b" then "fbb70295615c5b59928a47aefec18b5dfbdb391dc92432d7a9a7201b3458259b"
  else text

def lanesEnv : Env Review Bool := { env with sha256 := laneDigest }

theorem lanesEnv_lowersText : lanesEnv.LowersText where
  trimmed := env_lowers.trimmed
  again := env_lowers.again
  outer _ := rfl
  twice _ := rfl
  sqlKeeps _ _ := rfl
  sqlAgrees _ := rfl

end Sample

end M8flowCore
