import M8flowCore.Sample
import M8flowCore.Strings
/-!
# Lanes of a definition

Which lanes a definition may list as initiator lanes, and what the run-time
readers of the same properties then see.
-/
open M8flowCore.Lib M8flowCore.Session

namespace M8flowCore
section
variable {W Ω : Type} (env : Env W Ω)

/-- Two texts name the same lane: neither is blank, and they are equal trimmed
and in lower case. -/
def SameLane (a b : String) : Prop := strip a ≠ "" ∧ strip b ≠ "" ∧ env.lower (strip a) = env.lower (strip b)

/-- The entries of the `lane_owners` mapping, if it is one. -/
def laneOwnerEntries (propertiesJson : Dict) : List (PyVal × PyVal) :=
  ((propertiesJson.get laneOwnersKey).bind PyVal.asMapping).getD []

/-- `initiator_lanes` is absent or null, or a list of names of lanes of the BPMN
that are no keys of `lane_owners`. Only entries with a value that `counts` do. -/
def InitiatorLanesUsable (counts : PyVal → Bool) (propertiesJson : Dict) (bpmnLaneNames : List String) : Prop :=
  propertiesJson.get initiatorLanesKey = none ∨ propertiesJson.get initiatorLanesKey = some .none ∨
    ∃ lanes, propertiesJson.get initiatorLanesKey = some (.list lanes) ∧
      ∀ value ∈ lanes, ∃ text, value = .str text ∧ strip text ≠ "" ∧ (∃ name ∈ bpmnLaneNames, SameLane env text name) ∧
        ∀ entry ∈ laneOwnerEntries propertiesJson, counts entry.2 = true →
          ∀ key, entry.1 = .str key → ¬ SameLane env text key

variable {env}

/-! ## Normalized names -/

theorem normalizeLaneName_eq_some {value : PyVal} {lane : String} : normalizeLaneName env value = some lane ↔
    ∃ text, value = .str text ∧ strip text ≠ "" ∧ env.lower (strip text) = lane := by
  cases value with
  | str text =>
    simp only [normalizeLaneName, PyVal.asStr, Option.map_some, PyVal.str.injEq, exists_eq_left']
    split
    · rename_i hblank
      simp [show strip text = "" by simpa using hblank]
    · rename_i hne
      simp [show strip text ≠ "" by simpa using hne]
  | _ => simp [normalizeLaneName, PyVal.asStr]

/-- Normalized alike, two texts name the same lane. -/
theorem sameLane_iff {a b : String} : SameLane env a b ↔
    ∃ lane, normalizeLaneName env (.str a) = some lane ∧ normalizeLaneName env (.str b) = some lane := by
  simp only [normalizeLaneName_eq_some, PyVal.str.injEq, exists_eq_left']
  constructor
  · rintro ⟨ha, hb, hlower⟩
    exact ⟨_, ⟨ha, hlower⟩, hb, rfl⟩
  · rintro ⟨lane, ⟨ha, hla⟩, hb, hlb⟩
    exact ⟨ha, hb, hla.trans hlb.symm⟩

/-! ## Lane owners -/

theorem mem_extendGroup {grouped : List (String × List String)} {lane key : String} {identifiers : List String} :
    key ∈ (extendGroup grouped lane identifiers).map (·.1) ↔ key ∈ grouped.map (·.1) ∨ key = lane := by
  unfold extendGroup
  split
  · rename_i hany
    have hkeys : (grouped.map fun g => if g.1 == lane then (lane, g.2 ++ identifiers) else g).map (·.1) = grouped.map (·.1) := by
      rw [List.map_map]
      refine List.map_congr_left fun g _ => ?_
      simp only [Function.comp]
      split
      · rename_i hg
        exact (by simpa using hg : g.1 = lane).symm
      · rfl
    rw [hkeys]
    obtain ⟨g, hg, hlane⟩ := List.any_eq_true.1 hany
    have hmem : lane ∈ grouped.map (·.1) := List.mem_map.2 ⟨g, hg, by simpa using hlane⟩
    exact ⟨.inl, fun h => h.elim id fun he => he ▸ hmem⟩
  · simp

variable (env) in
/-- One entry of the mapping, added to the owners of its lane. -/
def addLaneEntry (grouped : List (String × List String)) (entry : PyVal × PyVal) : List (String × List String) :=
  match normalizeLaneName env entry.1, entry.2.asList with
  | some lane, some identifiers => extendGroup grouped lane (identifiers.filterMap PyVal.asStr)
  | _, _ => grouped

theorem laneOwnerIdentifiers_dict (entries : List (PyVal × PyVal)) :
    laneOwnerIdentifiers env (some (.dict entries)) = entries.foldl (addLaneEntry env) [] := rfl

/-- The lanes with owners: the string keys with a list. -/
theorem mem_laneOwnerIdentifiers {propertiesJson : Dict} {lane : String} :
    lane ∈ (laneOwnerIdentifiers env (propertiesJson.get laneOwnersKey)).map (·.1) ↔
      ∃ entry ∈ laneOwnerEntries propertiesJson, entry.2.asList.isSome = true ∧ normalizeLaneName env entry.1 = some lane := by
  have hfold : ∀ (entries : List (PyVal × PyVal)) (grouped : List (String × List String)),
      lane ∈ (entries.foldl (addLaneEntry env) grouped).map (·.1) ↔ lane ∈ grouped.map (·.1) ∨
          ∃ entry ∈ entries, entry.2.asList.isSome = true ∧ normalizeLaneName env entry.1 = some lane := by
    intro entries
    induction entries with
    | nil => simp
    | cons entry entries ih =>
      intro grouped
      rw [List.foldl_cons, ih]
      unfold addLaneEntry
      cases hname : normalizeLaneName env entry.1 with
      | none => simp [hname]
      | some name =>
        cases hlist : entry.2.asList with
        | none => simp [hname, hlist]
        | some identifiers =>
          rw [mem_extendGroup]
          simp only [List.mem_cons, exists_eq_or_imp, hname, hlist, Option.isSome_some, true_and, Option.some.injEq]
          rw [or_assoc, eq_comm]
  unfold laneOwnerIdentifiers laneOwnerEntries
  cases hentries : (propertiesJson.get laneOwnersKey).bind PyVal.asMapping with
  | none => simp
  | some entries => exact (hfold entries []).trans (by simp)

/-! ## Requested lanes -/

/-- Every entry is a lane name, and the lanes requested are those. -/
theorem requestedLanes_ok {values : List PyVal} {acc requested : List (String × String)}
    (h : requestedLanes env values acc = .ok requested) :
    (∀ value ∈ values, (normalizeLaneName env value).isSome = true) ∧
      ∀ lane, lane ∈ requested.map (·.1) ↔ lane ∈ acc.map (·.1) ∨ ∃ value ∈ values, normalizeLaneName env value = some lane := by
  induction values generalizing acc with
  | nil =>
    cases h
    simp
  | cons value values ih =>
    rw [requestedLanes] at h
    split at h
    · rename_i lane text hlane htext
      obtain ⟨hall, hmem⟩ := ih h
      refine ⟨?_, fun lane' => ?_⟩
      · intro v hv
        rcases List.mem_cons.1 hv with rfl | hv
        · simp [hlane]
        · exact hall v hv
      · rw [hmem]
        have hacc : lane' ∈ (if acc.any (·.1 == lane) then acc else acc ++ [(lane, strip text)]).map (·.1) ↔
            lane' ∈ acc.map (·.1) ∨ lane' = lane := by
          split
          · rename_i hany
            obtain ⟨r, hr, heq⟩ := List.any_eq_true.1 hany
            have hlane' : lane ∈ acc.map (·.1) := List.mem_map.2 ⟨r, hr, by simpa using heq⟩
            exact ⟨.inl, fun h => h.elim id fun he => he ▸ hlane'⟩
          · simp
        rw [hacc]
        simp only [List.mem_cons, exists_eq_or_imp, hlane, Option.some.injEq]
        rw [or_assoc, @eq_comm _ lane' lane]
    · simp at h

theorem requestedLanes_of_names {values : List PyVal} (h : ∀ value ∈ values, (normalizeLaneName env value).isSome = true)
    (acc : List (String × String)) : ∃ requested, requestedLanes env values acc = .ok requested := by
  induction values generalizing acc with
  | nil => exact ⟨acc, rfl⟩
  | cons value values ih =>
    obtain ⟨lane, hlane⟩ := Option.isSome_iff_exists.1 (h value (by simp))
    obtain ⟨text, rfl, -, -⟩ := normalizeLaneName_eq_some.1 hlane
    rw [requestedLanes, hlane]
    exact ih (fun v hv => h v (by simp [hv])) _

/-! ## What the import accepts -/

theorem validateInitiatorLanes_list {propertiesJson : Dict} {bpmnLaneNames : List String} {lanes : List PyVal}
    (h : propertiesJson.get initiatorLanesKey = some (.list lanes)) :
    validateInitiatorLanes env propertiesJson bpmnLaneNames = .ok () ↔
      ∀ value ∈ lanes, ∃ lane, normalizeLaneName env value = some lane ∧
        (∃ name ∈ bpmnLaneNames, normalizeLaneName env (.str name) = some lane) ∧
        lane ∉ (laneOwnerIdentifiers env (propertiesJson.get laneOwnersKey)).map (·.1) := by
  unfold validateInitiatorLanes
  simp only [h]
  cases hrequested : requestedLanes env lanes [] with
  | error value =>
    simp only [reduceCtorEq, false_iff]
    intro hall
    have hnames : ∀ value ∈ lanes, (normalizeLaneName env value).isSome = true := by
      intro value hvalue
      obtain ⟨lane, hlane, -⟩ := hall value hvalue
      simp [hlane]
    obtain ⟨requested, hok⟩ := requestedLanes_of_names hnames []
    rw [hrequested] at hok
    simp at hok
  | ok requested =>
    obtain ⟨hnames, hmem⟩ := requestedLanes_ok hrequested
    simp only [List.map_nil, List.not_mem_nil, false_or] at hmem
    have hall : (∀ value ∈ lanes, ∃ lane, normalizeLaneName env value = some lane ∧
        (∃ name ∈ bpmnLaneNames, normalizeLaneName env (.str name) = some lane) ∧
        lane ∉ (laneOwnerIdentifiers env (propertiesJson.get laneOwnersKey)).map (·.1)) ↔
        ∀ lane ∈ requested.map (·.1), (∃ name ∈ bpmnLaneNames, normalizeLaneName env (.str name) = some lane) ∧
          lane ∉ (laneOwnerIdentifiers env (propertiesJson.get laneOwnersKey)).map (·.1) := by
      constructor
      · intro hvalues lane hlane
        obtain ⟨value, hvalue, hname⟩ := (hmem lane).1 hlane
        obtain ⟨lane', hname', hgood⟩ := hvalues value hvalue
        rw [hname] at hname'
        cases hname'
        exact hgood
      · intro hlanes value hvalue
        obtain ⟨lane, hlane⟩ := Option.isSome_iff_exists.1 (hnames value hvalue)
        exact ⟨lane, hlane, hlanes lane ((hmem lane).2 ⟨value, hvalue, hlane⟩)⟩
    rw [hall]
    have hunknown : (requested.filter fun r =>
        !(bpmnLaneNames.filterMap fun name => normalizeLaneName env (.str name)).contains r.1).map (·.2) = [] ↔
        ∀ lane ∈ requested.map (·.1), ∃ name ∈ bpmnLaneNames, normalizeLaneName env (.str name) = some lane := by
      simp [List.filter_eq_nil_iff]
    have hconflicting : (requested.filter fun r =>
        ((laneOwnerIdentifiers env (propertiesJson.get laneOwnersKey)).map (·.1)).contains r.1).map (·.2) = [] ↔
        ∀ lane ∈ requested.map (·.1), lane ∉ (laneOwnerIdentifiers env (propertiesJson.get laneOwnersKey)).map (·.1) := by
      simp [List.filter_eq_nil_iff]
    dsimp only
    split
    · rename_i hne
      refine iff_of_false (by simp) fun hgood => ?_
      exact (by simpa using hne : _ ≠ []) (hunknown.2 fun lane hlane => (hgood lane hlane).1)
    · rename_i hknown
      split
      · rename_i hne
        refine iff_of_false (by simp) fun hgood => ?_
        exact (by simpa using hne : _ ≠ []) (hconflicting.2 fun lane hlane => (hgood lane hlane).2)
      · rename_i hfree
        refine iff_of_true rfl fun lane hlane => ⟨hunknown.1 ?_ lane hlane, hconflicting.1 ?_ lane hlane⟩
        · simpa using hknown
        · simpa using hfree

/-- What is neither absent, null nor a list is refused. -/
theorem validateInitiatorLanes_cases {propertiesJson : Dict} {bpmnLaneNames : List String}
    (h : validateInitiatorLanes env propertiesJson bpmnLaneNames = .ok ()) :
    propertiesJson.get initiatorLanesKey = none ∨ propertiesJson.get initiatorLanesKey = some .none ∨
      ∃ lanes, propertiesJson.get initiatorLanesKey = some (.list lanes) := by
  unfold validateInitiatorLanes at h
  split at h
  · rename_i hget
    exact .inl hget
  · rename_i hget
    exact .inr (.inl hget)
  · rename_i lanes hget
    exact .inr (.inr ⟨lanes, hget⟩)
  · simp at h

/-- One entry of `initiator_lanes`, as the import checks it. -/
theorem usable_iff {propertiesJson : Dict} {bpmnLaneNames : List String} {value : PyVal} :
    (∃ lane, normalizeLaneName env value = some lane ∧
      (∃ name ∈ bpmnLaneNames, normalizeLaneName env (.str name) = some lane) ∧
      lane ∉ (laneOwnerIdentifiers env (propertiesJson.get laneOwnersKey)).map (·.1)) ↔
      ∃ text, value = .str text ∧ strip text ≠ "" ∧ (∃ name ∈ bpmnLaneNames, SameLane env text name) ∧
        ∀ entry ∈ laneOwnerEntries propertiesJson, entry.2.asList.isSome = true →
          ∀ key, entry.1 = .str key → ¬ SameLane env text key := by
  constructor
  · rintro ⟨lane, hlane, ⟨name, hname, hknown⟩, hfree⟩
    obtain ⟨text, rfl, hne, -⟩ := normalizeLaneName_eq_some.1 hlane
    refine ⟨text, rfl, hne, ⟨name, hname, sameLane_iff.2 ⟨lane, hlane, hknown⟩⟩, fun entry hentry hlist key hkey hsame => ?_⟩
    obtain ⟨lane', hlane', hkey'⟩ := sameLane_iff.1 hsame
    rw [hlane] at hlane'
    cases hlane'
    exact hfree (mem_laneOwnerIdentifiers.2 ⟨entry, hentry, hlist, by rw [hkey]; exact hkey'⟩)
  · rintro ⟨text, rfl, hne, ⟨name, hname, hsame⟩, hfree⟩
    obtain ⟨lane, hlane, hknown⟩ := sameLane_iff.1 hsame
    refine ⟨lane, hlane, ⟨name, hname, hknown⟩, fun hmem => ?_⟩
    obtain ⟨entry, hentry, hlist, hkey⟩ := mem_laneOwnerIdentifiers.1 hmem
    obtain ⟨key, hstr, -, -⟩ := normalizeLaneName_eq_some.1 hkey
    exact hfree entry hentry hlist key hstr (sameLane_iff.2 ⟨lane, hlane, by rw [← hstr]; exact hkey⟩)

/-- The import accepts exactly the usable `initiator_lanes`, where an entry of
`lane_owners` counts when its value is a list; and in what it accepts the
initiator lanes and the lanes with owners are disjoint, as the run-time readers
see them. -/
theorem initiator_lanes_validated (propertiesJson : Dict) (bpmnLaneNames : List String) :
    (validateInitiatorLanes env propertiesJson bpmnLaneNames = .ok () ↔
      InitiatorLanesUsable env (·.asList.isSome) propertiesJson bpmnLaneNames) ∧
    (validateInitiatorLanes env propertiesJson bpmnLaneNames = .ok () →
      (configuredInitiatorLanes env (some propertiesJson)).Disjoint
        ((laneOwnerIdentifiers env (propertiesJson.get laneOwnersKey)).map (·.1))) := by
  refine ⟨⟨fun hok => ?_, ?_⟩, fun hok lane hconfigured howned => ?_⟩
  · rcases validateInitiatorLanes_cases hok with hget | hget | ⟨lanes, hget⟩
    · exact .inl hget
    · exact .inr (.inl hget)
    · exact .inr (.inr ⟨lanes, hget, fun value hvalue => usable_iff.1 ((validateInitiatorLanes_list hget).1 hok value hvalue)⟩)
  · rintro (hget | hget | ⟨lanes, hget, husable⟩)
    · unfold validateInitiatorLanes
      rw [hget]
    · unfold validateInitiatorLanes
      rw [hget]
    · exact (validateInitiatorLanes_list hget).2 fun value hvalue => usable_iff.2 (husable value hvalue)
  · -- only a list configures initiator lanes
    rcases validateInitiatorLanes_cases hok with hget | hget | ⟨lanes, hget⟩
    · simp [configuredInitiatorLanes, hget] at hconfigured
    · simp [configuredInitiatorLanes, hget, PyVal.asList] at hconfigured
    · simp only [configuredInitiatorLanes, Option.bind_some, hget, PyVal.asList, List.mem_filterMap] at hconfigured
      obtain ⟨value, hvalue, hlane⟩ := hconfigured
      obtain ⟨lane', hlane', -, hfree⟩ := (validateInitiatorLanes_list hget).1 hok value hvalue
      rw [hlane] at hlane'
      cases hlane'
      exact hfree howned

end

namespace Sample

/-- A lane listed as initiator lane, and among the owners with no list. -/
def ownerlessLane : Dict :=
  [(initiatorLanesKey, .list [.str "Review"]), (laneOwnersKey, .dict [(.str "Review", .str "bob")])]

end Sample

/-- An owner entry whose value is no list is ignored: the lane it names may be
an initiator lane. -/
theorem ownerless_lane_accepted :
    ¬ (validateInitiatorLanes Sample.env Sample.ownerlessLane ["Review"] = .ok () ↔
      InitiatorLanesUsable Sample.env (fun _ => true) Sample.ownerlessLane ["Review"]) := by
  have haccepted : validateInitiatorLanes Sample.env Sample.ownerlessLane ["Review"] = .ok () := by rfl
  intro h
  rcases h.1 haccepted with hget | hget | ⟨lanes, hget, husable⟩
  · simp [Sample.ownerlessLane, Dict.get] at hget
  · simp [Sample.ownerlessLane, Dict.get] at hget
  · have hlanes : lanes = [.str "Review"] := by
      simpa [Sample.ownerlessLane, Dict.get] using hget.symm
    subst hlanes
    obtain ⟨text, htext, -, -, hfree⟩ := husable (.str "Review") (by simp)
    cases htext
    exact hfree (.str "Review", .str "bob") (by simp [laneOwnerEntries, Sample.ownerlessLane, Dict.get, laneOwnersKey,
      initiatorLanesKey, PyVal.asMapping]) rfl "Review" rfl ⟨by decide, by decide, rfl⟩

end M8flowCore
