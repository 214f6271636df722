import M8flowCore.Configuration
import M8flowCore.Rollbacks
/-!
# Importing a source again

An import over a stored definition keeps what it is not given: its name, its
version control fields, its properties. The DMN source is one of the properties,
and an import that is given others drops it.
-/
open M8flowCore.Lib M8flowCore.Session

namespace M8flowCore

section
variable {W Ω : Type} {env : Env W Ω} {tenantId : TenantId}

/-- The value of the latest import that gave one. -/
def latest (field : ImportArgs → Option String) (imports : List ImportArgs) : Option String :=
  imports.foldl (fun value args => (field args).or value) none

theorem latest_append (field : ImportArgs → Option String) (imports : List ImportArgs) (args : ImportArgs) :
    latest field (imports ++ [args]) = (field args).or (latest field imports) := by simp [latest]

/-- The DMN source in some properties. -/
def dmnOf (properties : Dict) : Option String := (properties.get BpmnProcessDefinition.sourceDmnXmlPropertyKey).bind PyVal.asStr

/-- The imports of one source that were committed, each allowed by `P` in the
store it was made on, among any other operations. -/
inductive ImportRun (env : Env W Ω) (tenantId : TenantId) (digest : String) (P : Store → ImportArgs → Prop) (st₀ : Store) :
    List ImportArgs → Store → Prop
  | start : ImportRun env tenantId digest P st₀ [] st₀
  | imported {imports : List ImportArgs} {st : Store} {userId : Nat} {args : ImportArgs} {world : Ω} {id : Nat} {s : Tx Ω}
      (hrun : ImportRun env tenantId digest P st₀ imports st) (hdigest : args.digest env = digest)
      (hgiven : ∀ properties, args.propertiesJson = some properties → properties.Distinct) (hallowed : P st args)
      (himport : (importBpmnProcessDefinition env tenantId userId args).run (st.session world) = (.ok id, s)) :
      ImportRun env tenantId digest P st₀ (imports ++ [args]) ⟨s.seq, s.commit⟩
  | undone {imports : List ImportArgs} {st : Store} {userId : Nat} {args : ImportArgs} {world : Ω} {r : Except Error Nat} {s : Tx Ω}
      (hrun : ImportRun env tenantId digest P st₀ imports st)
      (himport : (importBpmnProcessDefinition env tenantId userId args).run (st.session world) = (r, s)) :
      ImportRun env tenantId digest P st₀ imports ⟨s.seq, s.committed⟩
  | step {imports : List ImportArgs} {op : Operation} {st st' : Store} (hrun : ImportRun env tenantId digest P st₀ imports st)
      (hop : op.NoImport) (hstep : Step env op st st') : ImportRun env tenantId digest P st₀ imports st'

/-- An import that gives no DMN source gives no properties either, or gives
properties that carry the stored one. -/
def CarriesDmn (env : Env W Ω) (tenantId : TenantId) (st : Store) (args : ImportArgs) : Prop :=
  args.sourceDmnXml = none → ∀ properties, args.propertiesJson = some properties →
    dmnOf properties = (st.db.importTarget tenantId (args.digest env)).bind (·.sourceDmnXml)

/-- The definition's optional fields are the latest given ones. -/
structure Latest (imports : List ImportArgs) (found : Option BpmnProcessDefinition) : Prop where
  present : found.isSome = true ↔ imports ≠ []
  explicit : ∀ d, found = some d → d.explicitProcessModelIdentifier.isSome
  distinct : ∀ d, found = some d → d.propertiesJson.Distinct
  sourceDmnXml : found.bind (·.sourceDmnXml) = latest (·.sourceDmnXml) imports
  bpmnName : found.bind (·.bpmnName) = latest (·.bpmnName) imports
  versionControlType : found.bind (·.bpmnVersionControlType) = latest (·.bpmnVersionControlType) imports
  versionControlIdentifier : found.bind (·.bpmnVersionControlIdentifier) = latest (·.bpmnVersionControlIdentifier) imports

theorem Latest.configured (hspecs : env.PlainSpecs) {imports : List ImportArgs} {d₀ d : BpmnProcessDefinition}
    (h : Latest imports (some d₀)) (hd : Configured env d₀ d) : Latest imports (some d) where
  present := h.present
  explicit := by
    rintro _ ⟨⟩
    rw [hd.explicit hspecs]
    exact h.explicit d₀ rfl
  distinct := by
    rintro _ ⟨⟩
    exact hd.distinct
  sourceDmnXml := by
    rw [← h.sourceDmnXml]
    exact hd.sourceDmnXml hspecs
  bpmnName := by
    rw [← h.bpmnName]
    exact hd.bpmnName
  versionControlType := by
    rw [← h.versionControlType]
    exact hd.versionControlType
  versionControlIdentifier := by
    rw [← h.versionControlIdentifier]
    exact hd.versionControlIdentifier

theorem BpmnProcessDefinition.syncFromSpec_key (d : BpmnProcessDefinition) (spec : SerializedSpec) (modelIdentifier : String)
    (occurredAt : Time) :
    (d.syncFromSpec spec modelIdentifier occurredAt).m8fTenantId = d.m8fTenantId ∧
      (d.syncFromSpec spec modelIdentifier occurredAt).processXmlDigest = d.processXmlDigest := by
  unfold BpmnProcessDefinition.syncFromSpec
  split <;> exact ⟨rfl, rfl⟩

/-- Operations that import nothing keep what the imports gave. -/
theorem Latest.step (hspecs : env.PlainSpecs) {imports : List ImportArgs} {digest : String} {op : Operation} {st st' : Store}
    (hop : op.NoImport) (hstep : Step env op st st') (h : Latest imports (st.db.importTarget tenantId digest)) :
    Latest imports (st'.db.importTarget tenantId digest) := by
  refine hstep.definitions_inv (P := fun rows => Latest imports (rows.find? fun d =>
    d.m8fTenantId == tenantId && d.processXmlDigest == digest)) hop (fun rows definitionId w modelIdentifier occurredAt hrows => ?_) h
  rw [find?_updateWhere fun row _ _ => by
    simp only [row.syncFromSpec_key (env.toDict w).spec modelIdentifier occurredAt]]
  cases hfound : rows.find? fun d => d.m8fTenantId == tenantId && d.processXmlDigest == digest with
  | none =>
    rw [hfound] at hrows
    exact hrows
  | some d =>
    rw [hfound] at hrows
    dsimp only [Option.map_some]
    split
    · exact hrows.configured hspecs ((Configured.refl (hrows.distinct d rfl)).sync hspecs (hrows.explicit d rfl) _ _ _)
    · exact hrows

theorem Db.DefinitionIds.step {op : Operation} {st st' : Store} (hop : op.NoImport) (hstep : Step env op st st')
    (h : st.db.DefinitionIds st.seq) : st'.db.DefinitionIds st'.seq := by
  have hseq : st.seq ≤ st'.seq := by
    cases hstep with
    | @commit world r s hrun =>
      have hleft := op.left env (st.session world)
      rw [hrun] at hleft
      exact hleft.seq
    | @rollback world r s hrun =>
      have hleft := op.left env (st.session world)
      rw [hrun] at hleft
      exact hleft.seq
  have hids : st'.db.DefinitionIds st.seq := by
    have hkept := hstep.definitions_inv (P := fun rows => (∀ d ∈ rows, ∀ d' ∈ rows, d.id = d'.id → d = d') ∧ ∀ d ∈ rows, d.id < st.seq)
      hop (fun rows definitionId w modelIdentifier occurredAt hrows => ?_) ⟨h.unique, h.below⟩
    · exact ⟨hkept.1, hkept.2⟩
    have hid : ∀ d : BpmnProcessDefinition, (if (d.id == definitionId) = true then
        d.syncFromSpec (env.toDict w).spec modelIdentifier occurredAt else d).id = d.id := by
      intro d
      split
      · exact d.syncFromSpec_id _ _ _
      · rfl
    constructor
    · intro d hd d' hd' heq
      obtain ⟨r, hr, rfl⟩ := mem_updateWhere.1 hd
      obtain ⟨r', hr', rfl⟩ := mem_updateWhere.1 hd'
      rw [hid, hid] at heq
      rw [hrows.1 r hr r' hr' heq]
    · intro d hd
      obtain ⟨r, hr, rfl⟩ := mem_updateWhere.1 hd
      rw [hid]
      exact hrows.2 r hr
  exact ⟨hids.unique, fun d hd => (hids.below d hd).trans_le hseq⟩

theorem CheckedImport.importTarget_definitions {db : Db} {seq : Nat} {args : ImportArgs} {c : CheckedImport} (hids : db.DefinitionIds seq)
    (hdigest : c.digest = args.digest env) (hexisting : c.existing = db.importTarget tenantId (args.digest env)) (newId : Nat) :
    (c.definitions tenantId args newId db.definitions).find? (fun d =>
      d.m8fTenantId == tenantId && d.processXmlDigest == args.digest env) = some (c.row tenantId args newId) := by
  unfold CheckedImport.definitions CheckedImport.row
  cases hc : c.existing with
  | none =>
    rw [hexisting] at hc
    rw [find?_append_of_none hc, List.find?_singleton, if_pos]
    unfold ImportArgs.newRow ImportArgs.stamp
    cases args.sourceDmnXml <;> simp [BpmnProcessDefinition.setProperty, hdigest]
  | some d =>
    rw [hexisting] at hc
    have hkey := List.find?_some hc
    dsimp only
    rw [find?_updateWhere, show db.definitions.find? _ = some d from hc]
    · simp
    · intro d' hd' hid
      rw [hids.unique d' hd' d (List.mem_of_find?_eq_some hc) (by simpa using hid), hkey]
      unfold ImportArgs.overRow ImportArgs.stamp ImportArgs.applyTo
      simp only [Bool.and_eq_true, beq_iff_eq] at hkey
      cases args.sourceDmnXml <;> simp [BpmnProcessDefinition.setProperty, hdigest, hkey.1]

/-- An import under the condition keeps the latest values. -/
theorem Latest.imported {imports : List ImportArgs} {st : Store} {args : ImportArgs} {c : CheckedImport}
    (hgiven : ∀ properties, args.propertiesJson = some properties → properties.Distinct) (hcarries : CarriesDmn env tenantId st args)
    (hexisting : c.existing = st.db.importTarget tenantId (args.digest env))
    (h : Latest imports (st.db.importTarget tenantId (args.digest env))) :
    Latest (imports ++ [args]) (some (c.row tenantId args st.seq)) := by
  obtain ⟨d, hrow, hproperties, hname, htype, hidentifier⟩ := c.row_eq tenantId args st.seq
  rw [hexisting] at hname htype hidentifier
  rw [hrow]
  have hcolumns : ∀ {α : Type} (f : BpmnProcessDefinition → α), (∀ d key value, f (d.setProperty key value) = f d) →
      f (args.stamp d) = f d := by
    intro α f hf
    unfold ImportArgs.stamp
    cases args.sourceDmnXml <;> simp only [hf]
  refine ⟨by simp, ?_, ?_, ?_, ?_, ?_, ?_⟩
  · rintro _ ⟨⟩
    rw [args.explicitProcessModelIdentifier_stamp]
    rfl
  · rintro _ ⟨⟩
    refine args.distinct_stamp d ?_
    rw [hproperties, CheckedImport.properties]
    cases hargs : args.propertiesJson with
    | some properties => exact hgiven properties hargs
    | none =>
      cases hc : c.existing with
      | none => exact List.nodup_nil
      | some d' => exact h.distinct d' (hexisting ▸ hc)
  · rw [latest_append, ← h.sourceDmnXml]
    refine (args.sourceDmnXml_stamp d).trans ?_
    cases hdmn : args.sourceDmnXml with
    | some dmn => rfl
    | none =>
      rw [Option.none_or, Option.none_or]
      have hd : d.sourceDmnXml = dmnOf (c.properties args) := by rw [← hproperties]; rfl
      rw [hd, CheckedImport.properties]
      cases hargs : args.propertiesJson with
      | some properties => exact hcarries hdmn properties hargs
      | none =>
        rw [Option.getD_none, ← hexisting]
        cases c.existing <;> rfl
  · rw [latest_append, ← h.bpmnName]
    exact (hcolumns (·.bpmnName) fun _ _ _ => rfl).trans hname
  · rw [latest_append, ← h.versionControlType]
    exact (hcolumns (·.bpmnVersionControlType) fun _ _ _ => rfl).trans htype
  · rw [latest_append, ← h.versionControlIdentifier]
    exact (hcolumns (·.bpmnVersionControlIdentifier) fun _ _ _ => rfl).trans hidentifier

theorem Db.DefinitionIds.imported {db : Db} {seq seq' : Nat} {args : ImportArgs} {c : CheckedImport} (h : db.DefinitionIds seq)
    (hseq : (if c.existing.isSome then seq else seq + 1) ≤ seq') {db' : Db}
    (hdefinitions : db'.definitions = c.definitions tenantId args seq db.definitions) : db'.DefinitionIds seq' := by
  unfold CheckedImport.definitions at hdefinitions
  cases hc : c.existing with
  | none =>
    simp only [hc, Option.isSome_none, Bool.false_eq_true, if_false] at hdefinitions hseq
    have hid : (args.newRow tenantId c seq).id = seq := args.stamp_id _
    refine ⟨fun d hd d' hd' heq => ?_, fun d hd => ?_⟩
    · rw [hdefinitions, List.mem_append, List.mem_singleton] at hd hd'
      rcases hd with hd | rfl <;> rcases hd' with hd' | rfl
      · exact h.unique d hd d' hd' heq
      · exact absurd (heq.trans hid) (h.below d hd).ne
      · exact absurd (heq.symm.trans hid) (h.below d' hd').ne
      · rfl
    · rw [hdefinitions, List.mem_append, List.mem_singleton] at hd
      rcases hd with hd | rfl
      · have := h.below d hd
        omega
      · omega
  | some d₀ =>
    simp only [hc, Option.isSome_some, if_true] at hdefinitions hseq
    have hid : ∀ d : BpmnProcessDefinition, (if (d.id == d₀.id) = true then args.overRow c d else d).id = d.id := by
      intro d
      split
      · exact args.stamp_id _
      · rfl
    refine ⟨fun d hd d' hd' heq => ?_, fun d hd => ?_⟩
    · rw [hdefinitions] at hd hd'
      obtain ⟨r, hr, rfl⟩ := mem_updateWhere.1 hd
      obtain ⟨r', hr', rfl⟩ := mem_updateWhere.1 hd'
      rw [hid, hid] at heq
      rw [h.unique r hr r' hr' heq]
    · rw [hdefinitions] at hd
      obtain ⟨r, hr, rfl⟩ := mem_updateWhere.1 hd
      rw [hid]
      exact (h.below r hr).trans_le hseq

/-- In a run whose imports all carry the DMN source, the definition has the
latest values. -/
theorem ImportRun.latest_kept (hspecs : env.PlainSpecs) {digest : String} {st₀ st : Store} {imports : List ImportArgs}
    (hids : st₀.db.DefinitionIds st₀.seq) (hnone : st₀.db.importTarget tenantId digest = none)
    (h : ImportRun env tenantId digest (CarriesDmn env tenantId) st₀ imports st) :
    st.db.DefinitionIds st.seq ∧ Latest imports (st.db.importTarget tenantId digest) := by
  induction h with
  | start =>
    refine ⟨hids, ?_⟩
    rw [hnone]
    exact ⟨by simp, by simp, by simp, rfl, rfl, rfl, rfl⟩
  | imported hrun hdigest hgiven hcarries himport ih =>
    subst hdigest
    obtain ⟨hids, hlatest⟩ := ih
    obtain ⟨c, hc, hexisting, -, hseq, hdefinitions⟩ := committed_import himport
    refine ⟨hids.imported hseq hdefinitions, ?_⟩
    unfold Db.importTarget
    rw [hdefinitions, c.importTarget_definitions hids hc hexisting]
    exact hlatest.imported hgiven hcarries hexisting
  | undone hrun himport ih =>
    obtain ⟨hids, hlatest⟩ := ih
    have hwrote : Wrote env (fun _ => True) _ _ := (importBpmnProcessDefinition_wrote trivial trivial trivial _).of_ok himport
    have hcommitted := hwrote.committed
    refine ⟨?_, ?_⟩
    · rw [hcommitted]
      exact ⟨hids.unique, fun d hd => (hids.below d hd).trans_le hwrote.seq⟩
    · rw [hcommitted]
      exact hlatest
  | step hrun hop hstep ih =>
    obtain ⟨hids, hlatest⟩ := ih
    exact ⟨hids.step hop hstep, hlatest.step hspecs hop hstep⟩

/-- In a run whose imports of a source all carry the DMN source, the definition
has the latest DMN source, name and version control fields that an import gave,
and it is the one that instances are started from. -/
theorem omitted_fields_are_kept (hspecs : env.PlainSpecs) {digest : String} {st₀ st : Store} {imports : List ImportArgs}
    (hids : st₀.db.DefinitionIds st₀.seq) (hnone : st₀.db.importTarget tenantId digest = none) (himports : imports ≠ [])
    (h : ImportRun env tenantId digest (CarriesDmn env tenantId) st₀ imports st) :
    ∃ d, st.db.importTarget tenantId digest = some d ∧ st.db.tenantDefinition? tenantId d.id = some d ∧
      d.sourceDmnXml = latest (·.sourceDmnXml) imports ∧ d.bpmnName = latest (·.bpmnName) imports ∧
      d.bpmnVersionControlType = latest (·.bpmnVersionControlType) imports ∧
      d.bpmnVersionControlIdentifier = latest (·.bpmnVersionControlIdentifier) imports := by
  obtain ⟨hids', hlatest⟩ := h.latest_kept hspecs hids hnone
  obtain ⟨d, hd⟩ := Option.isSome_iff_exists.1 (hlatest.present.2 himports)
  rw [hd] at hlatest
  refine ⟨d, hd, ?_, hlatest.sourceDmnXml, hlatest.bpmnName, hlatest.versionControlType, hlatest.versionControlIdentifier⟩
  have hmem := List.mem_of_find?_eq_some hd
  have hkey := List.find?_some hd
  simp only [Bool.and_eq_true, beq_iff_eq] at hkey
  unfold Db.tenantDefinition?
  cases hfound : st.db.definitions.find? fun d' => d'.m8fTenantId == tenantId && d'.id == d.id with
  | none => simpa [hkey.1] using List.find?_eq_none.1 hfound d hmem
  | some d' =>
    have hkey' := List.find?_some hfound
    simp only [Bool.and_eq_true, beq_iff_eq] at hkey'
    rw [hids'.unique d' (List.mem_of_find?_eq_some hfound) d hmem hkey'.2]

end
namespace Sample

/-- The reviews under a new digest, with some of the optional fields. -/
def importOther (dmn name : Option String) (properties : Option Dict) : ImportArgs :=
  ⟨"review", "reviews", dmn, name, properties, none, none, some "e", none, none⟩

/-- The first import gives a DMN source. -/
def withRules : ImportArgs := importOther (some "rules") none none

theorem first_import (P : Store → ImportArgs → Prop) (h : P store withRules) :
    ImportRun env "t" "e" P store [withRules] (imported env store withRules) := by
  have himport : (importBpmnProcessDefinition env "t" 1 withRules).run (store.session true) =
      (.ok 10, importSession env store withRules) := Prod.ext (by decide) rfl
  refine .imported .start rfl ?_ h himport
  intro properties heq
  simp [withRules, importOther] at heq

end Sample

/-- A second import that gives a name. -/
theorem omitted_fields_are_kept_named :
    ∃ d, (Sample.imported Sample.env (Sample.imported Sample.env Sample.store Sample.withRules)
        (Sample.importOther none (some "Reviews") none)).db.importTarget "t" "e" = some d ∧
      d.sourceDmnXml = some "rules" ∧ d.bpmnName = some "Reviews" := by
  have himport : (importBpmnProcessDefinition Sample.env "t" 1 (Sample.importOther none (some "Reviews") none)).run
      ((Sample.imported Sample.env Sample.store Sample.withRules).session true) = (.ok 10, Sample.importSession Sample.env
        (Sample.imported Sample.env Sample.store Sample.withRules) (Sample.importOther none (some "Reviews") none)) :=
    Prod.ext (by decide) rfl
  have hrun : ImportRun Sample.env "t" "e" (CarriesDmn Sample.env "t") Sample.store
      [Sample.withRules, Sample.importOther none (some "Reviews") none] (Sample.imported Sample.env
        (Sample.imported Sample.env Sample.store Sample.withRules) (Sample.importOther none (some "Reviews") none)) := by
    refine .imported (Sample.first_import _ ?_) rfl ?_ ?_ himport
    · intro hnone
      simp [Sample.withRules, Sample.importOther] at hnone
    · intro properties heq
      simp [Sample.importOther] at heq
    · intro _ properties heq
      simp [Sample.importOther] at heq
  obtain ⟨d, hd, -, hdmn, hname, -, -⟩ := omitted_fields_are_kept Sample.env_plainSpecs ⟨by decide, by decide⟩ (by decide)
    (by simp) hrun
  exact ⟨d, hd, hdmn, hname⟩

/-- A second import that gives properties and no DMN source drops the source the
first one gave. -/
theorem reimport_drops_dmn :
    ∃ st, ImportRun Sample.env "t" "e" (fun _ _ => True) Sample.store
        [Sample.withRules, Sample.importOther none none (some [("color", .str "red")])] st ∧
      latest (·.sourceDmnXml) [Sample.withRules, Sample.importOther none none (some [("color", .str "red")])] = some "rules" ∧
      (st.db.importTarget "t" "e").map (·.sourceDmnXml) = some none := by
  have himport : (importBpmnProcessDefinition Sample.env "t" 1 (Sample.importOther none none (some [("color", .str "red")]))).run
      ((Sample.imported Sample.env Sample.store Sample.withRules).session true) = (.ok 10, Sample.importSession Sample.env
        (Sample.imported Sample.env Sample.store Sample.withRules) (Sample.importOther none none (some [("color", .str "red")]))) :=
    Prod.ext (by decide) rfl
  refine ⟨_, .imported (Sample.first_import _ trivial) rfl ?_ trivial himport, by decide, by decide⟩
  intro properties heq
  obtain rfl := Option.some.inj heq
  exact List.nodup_singleton _

end M8flowCore
