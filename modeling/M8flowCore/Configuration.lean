import M8flowCore.Deeds
import M8flowCore.ImportFailures
import M8flowCore.StatusMachine
/-!
# The configuration of a definition

A definition keeps its sources, its identifier and whatever properties it was
imported with in one dictionary. Imports replace the dictionary, and every save
of an instance merges the spec of its workflow into it.
-/
open M8flowCore.Lib M8flowCore.Session

namespace M8flowCore

/-! ## Dictionaries -/

namespace Dict

/-- A dictionary has each key once. -/
def Distinct (d : Dict) : Prop := (d.map (·.1)).Nodup

instance (d : Dict) : Decidable d.Distinct := inferInstanceAs (Decidable (List.Nodup _))

theorem distinct_set {d : Dict} (h : d.Distinct) (key : String) (value : PyVal) : (d.set key value).Distinct := by
  unfold Distinct Dict.set
  split
  · have hkeys : (d.map fun kv => if kv.1 == key then (key, value) else kv).map (·.1) = d.map (·.1) := by
      rw [List.map_map]
      refine List.map_congr_left fun kv _ => ?_
      simp only [Function.comp_apply]
      split
      · rename_i hkey
        exact (beq_iff_eq.1 hkey).symm
      · rfl
    rw [hkeys]
    exact h
  · rename_i hnone
    rw [List.map_append]
    refine List.Nodup.append h (List.nodup_singleton _) ?_
    intro k hk hk'
    obtain rfl : k = key := by simpa using hk'
    obtain ⟨kv, hkv, hkey⟩ := List.mem_map.1 hk
    exact hnone (List.any_eq_true.2 ⟨kv, hkv, by simpa using hkey⟩)

end Dict

/-- The library's own keys. -/
def reservedKey (key : String) : Bool := "__m8f_".toList.isPrefixOf key.toList

/-- The merge of `_sync_process_definition_from_workflow`: a spec and, over it,
what a definition has under the library's keys and under keys the spec lacks. -/
def mergedProperties (existing spec : Dict) : Dict :=
  existing.foldl (fun merged kv => if reservedKey kv.1 || !(merged.any (·.1 == kv.1)) then merged.set kv.1 kv.2 else merged) spec

theorem mergedProperties_cons (kv : String × PyVal) (existing spec : Dict) :
    mergedProperties (kv :: existing) spec =
      mergedProperties existing (if reservedKey kv.1 || !(spec.any (·.1 == kv.1)) then spec.set kv.1 kv.2 else spec) := rfl

theorem distinct_mergedProperties {existing spec : Dict} (h : spec.Distinct) : (mergedProperties existing spec).Distinct := by
  induction existing generalizing spec with
  | nil => exact h
  | cons kv existing ih =>
    rw [mergedProperties_cons]
    refine ih ?_
    split
    · exact Dict.distinct_set h _ _
    · exact h

/-- Under a key of the library's the definition's value wins, under any other
the spec's. -/
theorem get_mergedProperties {existing spec : Dict} (h : existing.Distinct) (key : String) :
    (mergedProperties existing spec).get key =
      if reservedKey key then (existing.get key).or (spec.get key) else (spec.get key).or (existing.get key) := by
  induction existing generalizing spec with
  | nil =>
    have hnil : Dict.get ([] : Dict) key = none := rfl
    rw [hnil, Option.none_or, Option.or_none, ite_self]
    rfl
  | cons kv existing ih =>
    obtain ⟨hnew, hrest⟩ := List.nodup_cons.1 h
    rw [mergedProperties_cons, ih hrest]
    by_cases hkey : kv.1 = key
    · subst hkey
      have hlater : Dict.get existing kv.1 = none := by
        rw [Dict.get_eq_none]
        intro kv' hkv' heq
        exact hnew (List.mem_map.2 ⟨kv', hkv', heq⟩)
      have hhere : Dict.get (kv :: existing) kv.1 = some kv.2 := by simp [Dict.get]
      rw [hlater, hhere, Option.none_or, Option.or_none]
      by_cases hreserved : reservedKey kv.1 = true
      · simp [hreserved, Dict.get_set_self]
      · simp only [hreserved, Bool.false_or, Bool.false_eq_true, if_false]
        cases hspec : Dict.get spec kv.1 with
        | none =>
          have hany : spec.any (·.1 == kv.1) = false := by
            rw [List.any_eq_false]
            intro kv' hkv'
            simpa using Dict.get_eq_none.1 hspec kv' hkv'
          simp [hany, Dict.get_set_self]
        | some v =>
          obtain ⟨kv', hkv', heq⟩ := Dict.get_isSome.1 (by rw [hspec]; rfl)
          have hany : spec.any (·.1 == kv.1) = true := List.any_eq_true.2 ⟨kv', hkv', by simpa using heq⟩
          simp [hany, hspec]
    · have hskip : Dict.get (kv :: existing) key = Dict.get existing key := by
        have hf : (kv.1 == key) = false := by simpa using hkey
        simp only [Dict.get, List.find?_cons, hf]
      have hsame : Dict.get (if reservedKey kv.1 || !(spec.any (·.1 == kv.1)) then spec.set kv.1 kv.2 else spec) key =
          Dict.get spec key := by
        split
        · exact Dict.get_set_of_ne _ _ (Ne.symm hkey)
        · rfl
      rw [hskip, hsame]

namespace BpmnProcessDefinition
variable {d : BpmnProcessDefinition} {spec : SerializedSpec}

/-- A save of an instance of a definition with an identifier of its own. -/
theorem syncFromSpec_propertiesJson (h : d.explicitProcessModelIdentifier.isSome) (spec : SerializedSpec) (modelIdentifier : String)
    (occurredAt : Time) :
    (d.syncFromSpec spec modelIdentifier occurredAt).propertiesJson = mergedProperties d.propertiesJson spec.properties := by
  unfold syncFromSpec
  rw [if_neg (by simp [Option.isSome_iff_ne_none.1 h])]
  rfl

end BpmnProcessDefinition

section
variable {W Ω : Type} {env : Env W Ω}

/-! ## The writes to definitions -/

/-- Only saves and imports write to the definitions. -/
theorem Write.definitions {deed : Deed} {db db' : Db} (h : Write env deed db db') :
    db'.definitions = db.definitions ∨
      (∃ definitionId w modelIdentifier occurredAt, deed = .sync definitionId ∧
        db'.definitions = updateWhere (·.id == definitionId)
          (·.syncFromSpec (env.toDict w).spec modelIdentifier occurredAt) db.definitions) ∨
      ∃ tenantId args, deed = .store tenantId args := by
  cases h with
  | elsewhere hsame =>
    have hdefinitions : db'.tracked.definitions = db.tracked.definitions := congrArg Db.definitions hsame
    exact .inl hdefinitions
  | sync => exact .inr (.inl ⟨_, _, _, _, rfl, rfl⟩)
  | store => exact .inr (.inr ⟨_, _, rfl⟩)
  | _ => exact .inl rfl

theorem Db.merge_definitions {base view committed : Db} (h : base.definitions = committed.definitions) :
    (Db.merge base view committed).definitions = view.definitions := by
  have hsame := congrArg Db.definitions (Db.merge_current base view)
  simp only [Db.merge] at hsame ⊢
  rw [← h]
  exact hsame

/-- The operation imports nothing. -/
def Operation.NoImport (op : Operation) : Prop := ∀ tenantId userId args, op ≠ .command (.importDefinition tenantId userId args)

theorem Operation.NoImport.not_store {op : Operation} (h : op.NoImport) {tenantId : TenantId} {args : ImportArgs} :
    ¬ op.Does (.store tenantId args) := fun ⟨userId, heq⟩ => h tenantId userId args heq

/-- What a save of an instance keeps of the definitions holds after any
operation that is not an import. -/
theorem Step.definitions_inv {P : List BpmnProcessDefinition → Prop} {op : Operation} {st st' : Store} (hop : op.NoImport)
    (hP : ∀ rows definitionId w modelIdentifier occurredAt, P rows → P (updateWhere (·.id == definitionId)
      (·.syncFromSpec (env.toDict w).spec modelIdentifier occurredAt) rows))
    (h : Step env op st st') (hst : P st.db.definitions) : P st'.db.definitions := by
  -- Beside the session nobody writes to the definitions.
  refine h.inv (P := fun _ base view committed => base.definitions = committed.definitions ∧ P view.definitions ∧
    P committed.definitions) (Q := fun _ db => P db.definitions) ⟨fun _ h => h, ?_, ?_, ?_⟩ ⟨rfl, hst, hst⟩ ?_
  · rintro n n' base view view' committed d hd hwrite - ⟨hbase, hview, hcommitted⟩
    refine ⟨hbase, ?_, hcommitted⟩
    rcases hwrite.definitions with hsame | ⟨definitionId, w, modelIdentifier, occurredAt, -, hsync⟩ | ⟨tenantId, args, rfl⟩
    · rwa [hsame]
    · rw [hsync]
      exact hP _ _ _ _ _ hview
    · exact absurd hd hop.not_store
  · rintro n base view committed committed' d - hbeside hwrite ⟨hbase, hview, hcommitted⟩
    have hsame : committed'.definitions = committed.definitions := by
      rcases hwrite.definitions with hsame | ⟨_, _, _, _, rfl, -⟩ | ⟨_, _, rfl⟩
      · exact hsame
      · exact absurd hbeside id
      · exact absurd hbeside id
    rw [hsame]
    exact ⟨hbase, hview, hcommitted⟩
  · rintro n base view committed ⟨hbase, hview, hcommitted⟩
    rw [Db.merge_definitions hbase]
    exact ⟨rfl, hview, hcommitted⟩
  · rintro n base view committed ⟨hbase, hview, hcommitted⟩
    rw [Db.merge_definitions hbase]
    exact ⟨hview, hcommitted⟩

/-! ## What running instances keep -/

/-- The serialized specs are dictionaries and do not know the library's keys. -/
structure Env.PlainSpecs (env : Env W Ω) : Prop where
  distinct : ∀ w, (env.toDict w).spec.properties.Distinct
  unreserved : ∀ w key, reservedKey key = true → (env.toDict w).spec.properties.get key = none

/-- The definition is configured as `d₀` is, under every key that no spec has. -/
structure Configured (env : Env W Ω) (d₀ d : BpmnProcessDefinition) : Prop where
  distinct : d.propertiesJson.Distinct
  kept : ∀ key, (∀ w, (env.toDict w).spec.properties.get key = none) → d.propertiesJson.get key = d₀.propertiesJson.get key
  bpmnName : d.bpmnName = d₀.bpmnName
  versionControlType : d.bpmnVersionControlType = d₀.bpmnVersionControlType
  versionControlIdentifier : d.bpmnVersionControlIdentifier = d₀.bpmnVersionControlIdentifier

variable {d₀ d : BpmnProcessDefinition}

theorem Configured.refl (h : d.propertiesJson.Distinct) : Configured env d d := ⟨h, fun _ _ => rfl, rfl, rfl, rfl⟩

theorem Configured.reserved (hspecs : env.PlainSpecs) (h : Configured env d₀ d) {key : String} (hkey : reservedKey key = true) :
    (d.propertiesJson.get key).bind PyVal.asStr = (d₀.propertiesJson.get key).bind PyVal.asStr := by
  rw [h.kept key fun w => hspecs.unreserved w key hkey]

theorem Configured.explicit (hspecs : env.PlainSpecs) (h : Configured env d₀ d) :
    d.explicitProcessModelIdentifier = d₀.explicitProcessModelIdentifier := h.reserved hspecs (by decide)

theorem Configured.sourceBpmnXml (hspecs : env.PlainSpecs) (h : Configured env d₀ d) : d.sourceBpmnXml = d₀.sourceBpmnXml :=
  h.reserved hspecs (by decide)

theorem Configured.sourceDmnXml (hspecs : env.PlainSpecs) (h : Configured env d₀ d) : d.sourceDmnXml = d₀.sourceDmnXml :=
  h.reserved hspecs (by decide)

/-- A save keeps the configuration of a definition that has an identifier of its
own. -/
theorem Configured.sync (hspecs : env.PlainSpecs) (hexplicit : d₀.explicitProcessModelIdentifier.isSome)
    (h : Configured env d₀ d) (w : W) (modelIdentifier : String) (occurredAt : Time) :
    Configured env d₀ (d.syncFromSpec (env.toDict w).spec modelIdentifier occurredAt) := by
  have hown : d.explicitProcessModelIdentifier.isSome := by
    rw [h.explicit hspecs]
    exact hexplicit
  have hproperties := BpmnProcessDefinition.syncFromSpec_propertiesJson hown (env.toDict w).spec modelIdentifier occurredAt
  have hcolumns : ∀ {α : Type} (f : BpmnProcessDefinition → α), (∀ key value, f (d.setProperty key value) = f d) →
      f (if d.explicitProcessModelIdentifier.isNone then
        d.setProperty BpmnProcessDefinition.processModelIdentifierPropertyKey modelIdentifier else d) = f d := by
    intro α f hf
    split
    · exact hf _ _
    · rfl
  refine ⟨?_, fun key hkey => ?_, ?_, ?_, ?_⟩
  · rw [hproperties]
    exact distinct_mergedProperties (hspecs.distinct w)
  · rw [hproperties, get_mergedProperties h.distinct, hkey w, Option.or_none, Option.none_or, ite_self]
    exact h.kept key hkey
  · exact (hcolumns (·.bpmnName) fun _ _ => rfl).trans h.bpmnName
  · exact (hcolumns (·.bpmnVersionControlType) fun _ _ => rfl).trans h.versionControlType
  · exact (hcolumns (·.bpmnVersionControlIdentifier) fun _ _ => rfl).trans h.versionControlIdentifier

theorem BpmnProcessDefinition.syncFromSpec_id (d : BpmnProcessDefinition) (spec : SerializedSpec) (modelIdentifier : String)
    (occurredAt : Time) : (d.syncFromSpec spec modelIdentifier occurredAt).id = d.id := by
  unfold BpmnProcessDefinition.syncFromSpec
  split <;> rfl

/-- In a run without imports a stored definition keeps its configuration. -/
theorem Run.configured (hspecs : env.PlainSpecs) {st₀ st : Store} {ops : List Operation} (hops : ∀ op ∈ ops, op.NoImport)
    (hrun : Run env st₀ ops st) {id : Nat} (hexplicit : d₀.explicitProcessModelIdentifier.isSome)
    (hdistinct : d₀.propertiesJson.Distinct) (h₀ : st₀.db.definition? id = some d₀) :
    ∃ d, st.db.definition? id = some d ∧ Configured env d₀ d := by
  induction hrun with
  | nil => exact ⟨d₀, h₀, .refl hdistinct⟩
  | @snoc ops op st st' hrun hstep ih =>
    have hst := ih fun op' hop' => hops op' (by simp [hop'])
    refine hstep.definitions_inv (P := fun rows => ∃ d, rows.find? (·.id == id) = some d ∧ Configured env d₀ d)
      (hops op (by simp)) (fun rows definitionId w modelIdentifier occurredAt hrows => ?_) hst
    obtain ⟨d, hfound, hd⟩ := hrows
    rw [find?_updateWhere (fun row _ _ => by simp only [BpmnProcessDefinition.syncFromSpec_id]), hfound]
    refine ⟨_, rfl, ?_⟩
    dsimp only
    split
    · exact hd.sync hspecs hexplicit _ _ _
    · exact hd

/-! ## What an import stores -/

variable {tenantId : TenantId} {userId : Nat} {args : ImportArgs} {st₀ : Store} {world : Ω} {s : Tx Ω} {id : Nat}

theorem finishImport_ok {c : CheckedImport} {newId : Nat} {s s' : Tx Ω}
    (h : (finishImport env tenantId args c newId).run s = (.ok id, s')) : id = newId := by
  unfold finishImport at h
  simp only [resolveTimestamp, Prog.gets_bind_run] at h
  obtain ⟨_, s₁, -, h₁⟩ := Prog.bind_ok.1 h
  obtain ⟨_, s₂, -, h₂⟩ := Prog.bind_ok.1 h₁
  obtain ⟨_, s₃, -, h₃⟩ := Prog.bind_ok.1 h₂
  exact (Prog.pure_ok.1 h₃).1.symm

/-- The definitions after a committed import. -/
theorem committed_import (h : (importBpmnProcessDefinition env tenantId userId args).run (st₀.session world) = (.ok id, s)) :
    ∃ c : CheckedImport, c.digest = args.digest env ∧ c.existing = st₀.db.importTarget tenantId (args.digest env) ∧
      id = c.id st₀.seq ∧ (c.stored tenantId args (st₀.session world)).seq ≤ s.seq ∧
      s.commit.definitions = c.definitions tenantId args st₀.seq st₀.db.definitions := by
  rcases importBpmnProcessDefinition_cases h with ⟨e, -, hresult, -⟩ | ⟨c, hchecks, hfinish⟩
  · simp at hresult
  obtain ⟨hdigest, hexisting⟩ := importChecks_ok hchecks
  have hwrote : Wrote env (fun _ => True) (st₀.session world) s :=
    (importBpmnProcessDefinition_wrote trivial trivial trivial userId).of_ok h
  have hcommit : s.commit = s.view := by
    unfold Tx.commit
    rw [hwrote.base, hwrote.committed]
    exact Db.merge_current _ _
  have hrest : Wrote env (fun _ => True) (c.stored tenantId args (st₀.session world)) s :=
    (finishImport_wrote trivial trivial _ _ _ _).of_ok hfinish
  refine ⟨c, hdigest, hexisting, finishImport_ok hfinish, hrest.seq, ?_⟩
  rw [hcommit, ((finishImport_besides env tenantId args c _).of_ok hfinish).definitions]
  rfl

/-- The keys an import stores its identifier and its sources under. -/
def stampedKeys : List String :=
  [BpmnProcessDefinition.processModelIdentifierPropertyKey, BpmnProcessDefinition.sourceBpmnXmlPropertyKey,
    BpmnProcessDefinition.sourceDmnXmlPropertyKey]

namespace ImportArgs
variable (args : ImportArgs) (d : BpmnProcessDefinition)

theorem get_stamp {key : String} (h : key ∉ stampedKeys) : (args.stamp d).propertiesJson.get key = d.propertiesJson.get key := by
  simp only [stampedKeys, List.mem_cons, List.not_mem_nil, or_false, not_or] at h
  unfold ImportArgs.stamp
  cases args.sourceDmnXml <;>
    simp [BpmnProcessDefinition.setProperty, Dict.get_set, h.1, h.2.1, h.2.2]

theorem explicitProcessModelIdentifier_stamp : (args.stamp d).explicitProcessModelIdentifier = some args.bpmnIdentifier := by
  unfold ImportArgs.stamp BpmnProcessDefinition.explicitProcessModelIdentifier
  cases args.sourceDmnXml <;> simp [BpmnProcessDefinition.setProperty, Dict.get_set,
    BpmnProcessDefinition.processModelIdentifierPropertyKey, BpmnProcessDefinition.sourceBpmnXmlPropertyKey,
    BpmnProcessDefinition.sourceDmnXmlPropertyKey, PyVal.asStr]

theorem sourceBpmnXml_stamp : (args.stamp d).sourceBpmnXml = some args.sourceBpmnXml := by
  unfold ImportArgs.stamp BpmnProcessDefinition.sourceBpmnXml
  cases args.sourceDmnXml <;> simp [BpmnProcessDefinition.setProperty, Dict.get_set,
    BpmnProcessDefinition.processModelIdentifierPropertyKey, BpmnProcessDefinition.sourceBpmnXmlPropertyKey,
    BpmnProcessDefinition.sourceDmnXmlPropertyKey, PyVal.asStr]

/-- An import without a DMN source keeps the one in the properties it stores. -/
theorem sourceDmnXml_stamp : (args.stamp d).sourceDmnXml = args.sourceDmnXml.or d.sourceDmnXml := by
  unfold ImportArgs.stamp BpmnProcessDefinition.sourceDmnXml
  cases args.sourceDmnXml <;> simp [BpmnProcessDefinition.setProperty, Dict.get_set,
    BpmnProcessDefinition.processModelIdentifierPropertyKey, BpmnProcessDefinition.sourceBpmnXmlPropertyKey,
    BpmnProcessDefinition.sourceDmnXmlPropertyKey, PyVal.asStr]

theorem distinct_stamp (h : d.propertiesJson.Distinct) : (args.stamp d).propertiesJson.Distinct := by
  unfold ImportArgs.stamp
  cases args.sourceDmnXml with
  | none => exact Dict.distinct_set (Dict.distinct_set h _ _) _ _
  | some dmn => exact Dict.distinct_set (Dict.distinct_set (Dict.distinct_set h _ _) _ _) _ _

end ImportArgs

/-- The properties an import stores, before the library adds its own. -/
def CheckedImport.properties (c : CheckedImport) (args : ImportArgs) : Dict :=
  args.propertiesJson.getD ((c.existing.map (·.propertiesJson)).getD [])

theorem CheckedImport.row_eq (c : CheckedImport) (tenantId : TenantId) (args : ImportArgs) (newId : Nat) :
    ∃ d : BpmnProcessDefinition, c.row tenantId args newId = args.stamp d ∧ d.propertiesJson = c.properties args ∧
      d.bpmnName = args.bpmnName.or (c.existing.bind (·.bpmnName)) ∧
      d.bpmnVersionControlType = args.bpmnVersionControlType.or (c.existing.bind (·.bpmnVersionControlType)) ∧
      d.bpmnVersionControlIdentifier = args.bpmnVersionControlIdentifier.or (c.existing.bind (·.bpmnVersionControlIdentifier)) := by
  unfold CheckedImport.row CheckedImport.properties
  cases c.existing with
  | none => exact ⟨_, rfl, rfl, by simp, by simp, by simp⟩
  | some d => exact ⟨_, rfl, rfl, by simp [ImportArgs.applyTo], by simp [ImportArgs.applyTo], by simp [ImportArgs.applyTo]⟩

/-- After an import its definition is configured by its arguments, and a run
without imports keeps it so: every key that no serialized spec has, the sources,
and the identifier. -/
theorem running_keeps_configuration (hspecs : env.PlainSpecs) (hids : st₀.db.DefinitionIds st₀.seq)
    (hstored : ∀ d ∈ st₀.db.definitions, d.propertiesJson.Distinct)
    (hgiven : ∀ properties, args.propertiesJson = some properties → properties.Distinct)
    (himport : (importBpmnProcessDefinition env tenantId userId args).run (st₀.session world) = (.ok id, s))
    {ops : List Operation} {st : Store} (hops : ∀ op ∈ ops, op.NoImport) (hrun : Run env ⟨s.seq, s.commit⟩ ops st) :
    ∃ d₁ d, s.commit.definition? id = some d₁ ∧ st.db.definition? id = some d ∧
      (∀ properties, args.propertiesJson = some properties → ∀ key ∉ stampedKeys,
        d₁.propertiesJson.get key = properties.get key) ∧
      (∀ key, (∀ w, (env.toDict w).spec.properties.get key = none) → d.propertiesJson.get key = d₁.propertiesJson.get key) ∧
      d.sourceBpmnXml = some args.sourceBpmnXml ∧ d.sourceDmnXml = d₁.sourceDmnXml ∧
      (args.bpmnIdentifier ≠ "" → d.processModelIdentifier = args.bpmnIdentifier) := by
  obtain ⟨c, -, hexisting, rfl, -, hdefinitions⟩ := committed_import himport
  have hfound : ∀ d, c.existing = some d → d ∈ st₀.db.definitions := by
    intro d hd
    rw [hexisting] at hd
    exact List.mem_of_find?_eq_some hd
  have hrow : s.commit.definition? (c.id st₀.seq) = some (c.row tenantId args st₀.seq) := by
    unfold Db.definition?
    rw [hdefinitions]
    exact c.find?_definitions hids hfound
  obtain ⟨d₁, hstamp, hproperties, -, -, -⟩ := c.row_eq tenantId args st₀.seq
  rw [hstamp] at hrow
  have hdistinct : d₁.propertiesJson.Distinct := by
    rw [hproperties]
    unfold CheckedImport.properties
    cases hargs : args.propertiesJson with
    | some properties => exact hgiven properties hargs
    | none =>
      cases hc : c.existing with
      | none => exact List.nodup_nil
      | some d => exact hstored d (hfound d hc)
  obtain ⟨d, hd, hconfigured⟩ := hrun.configured hspecs hops (by rw [args.explicitProcessModelIdentifier_stamp]; rfl)
    (args.distinct_stamp d₁ hdistinct) hrow
  refine ⟨args.stamp d₁, d, hrow, hd, fun properties hargs key hkey => ?_, hconfigured.kept, ?_, hconfigured.sourceDmnXml hspecs, ?_⟩
  · rw [args.get_stamp d₁ hkey, hproperties, CheckedImport.properties, hargs]
    rfl
  · rw [hconfigured.sourceBpmnXml hspecs, args.sourceBpmnXml_stamp]
  · intro hnamed
    have hexplicit := (hconfigured.explicit hspecs).trans (args.explicitProcessModelIdentifier_stamp d₁)
    simp [BpmnProcessDefinition.processModelIdentifier, hexplicit, Option.filter, hnamed]

end

namespace Sample

/-- The session of an import, and the store once it is committed. -/
def importSession (env : Env Review Bool) (st : Store) (args : ImportArgs) : Tx Bool :=
  ((importBpmnProcessDefinition env "t" 1 args).run (st.session true)).2

def imported (env : Env Review Bool) (st : Store) (args : ImportArgs) : Store :=
  ⟨(importSession env st args).seq, (importSession env st args).commit⟩

/-- An import of the reviews with properties. -/
def importReviews (identifier : String) (properties : Dict) : ImportArgs :=
  ⟨identifier, "reviews", none, none, some properties, none, none, some "d", none, none⟩

theorem env_plainSpecs : env.PlainSpecs where
  distinct _ := List.nodup_singleton _
  unreserved _ key hkey := by
    have hne : ("name" == key) = false := by
      rw [beq_eq_false_iff_ne]
      rintro rfl
      exact absurd hkey (by decide)
    simp [env, toDict, Dict.get, hne]

/-- An engine with two processes, each with a name of its own. -/
def twoProcesses : Env Review Bool :=
  { env with
    processIds := fun xml => .ok [if xml = "reviews in sequence" then "sequence" else "review"]
    toDict := fun w =>
      let name := if w.legal = .future then "sequence" else "review"
      { toDict w with spec := ⟨name, specs, [("name", .str name)]⟩ } }

/-- An instance of the reviews that is not started yet. -/
def waitingStore : Store :=
  ⟨10, { db₀ with
    bpmnProcesses := [⟨7, "t", 2, [], "", none, none⟩]
    processInstances := [⟨8, "t", "review", "review", none, 1, some 2, some 7, none, .notStarted, none, none, none, none, none,
      none, none, none, none⟩] }⟩

/-- It is started with the other process. -/
def startOther : Operation := .command (.initializeWorkflow "t" 8 ⟨"reviews in sequence", none, none, false⟩ none)

end Sample

theorem running_keeps_configuration_started :
    ∃ d, ((Sample.imported Sample.env Sample.store (Sample.importReviews "review" [("color", .str "red")])).after
        Sample.env Sample.start true).db.definition? 2 = some d ∧ d.propertiesJson.get "color" = some (.str "red") ∧
      d.sourceBpmnXml = some "reviews" ∧ d.processModelIdentifier = "review" := by
  have himport : (importBpmnProcessDefinition Sample.env "t" 1 (Sample.importReviews "review" [("color", .str "red")])).run
      (Sample.store.session true) =
        (.ok 2, Sample.importSession Sample.env Sample.store (Sample.importReviews "review" [("color", .str "red")])) :=
    Prod.ext (by decide) rfl
  have hrun : Run Sample.env (Sample.imported Sample.env Sample.store (Sample.importReviews "review" [("color", .str "red")]))
      [Sample.start] ((Sample.imported Sample.env Sample.store (Sample.importReviews "review" [("color", .str "red")])).after
        Sample.env Sample.start true) := .snoc .nil (CleanStep.after (by decide +kernel)).step
  have hgiven : ∀ properties, (Sample.importReviews "review" [("color", .str "red")]).propertiesJson = some properties →
      properties.Distinct := by
    intro properties heq
    obtain rfl := Option.some.inj heq
    exact List.nodup_singleton _
  obtain ⟨d₁, d, -, hd, hstored, hkept, hbpmn, -, hidentifier⟩ := running_keeps_configuration Sample.env_plainSpecs
    ⟨by decide, by decide⟩ (by decide) hgiven himport (by simp [Sample.start, Operation.NoImport]) hrun
  refine ⟨d, hd, ?_, hbpmn, hidentifier (by decide)⟩
  rw [hkept "color" fun _ => rfl, hstored _ rfl "color" (by decide)]
  rfl

/-- A property under a key of the engine's specs is lost at the first start, and
a definition imported under the empty identifier is renamed by an instance that
is started with another process. -/
theorem running_changes_configuration :
    ((Sample.imported Sample.env Sample.store (Sample.importReviews "review" [("name", .str "mine")])).db.definition? 2).map
        (fun d => (d.propertiesJson.get "name").bind PyVal.asStr) = some (some "mine") ∧
      (((Sample.imported Sample.env Sample.store (Sample.importReviews "review" [("name", .str "mine")])).after
        Sample.env Sample.start true).db.definition? 2).map (fun d => (d.propertiesJson.get "name").bind PyVal.asStr) =
          some (some "review") ∧
      ((Sample.imported Sample.twoProcesses Sample.waitingStore (Sample.importReviews "" [])).db.definition? 2).map
        (·.processModelIdentifier) = some "review" ∧
      (((Sample.imported Sample.twoProcesses Sample.waitingStore (Sample.importReviews "" [])).after
        Sample.twoProcesses Sample.startOther true).db.definition? 2).map (·.processModelIdentifier) = some "sequence" := by
  decide +kernel

end M8flowCore
