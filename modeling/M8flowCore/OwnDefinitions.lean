import M8flowCore.DefinitionSaves
import M8flowCore.Sample
/-!
# Whose definition a task row points at

A save points the row of each task at the row made of the task's own spec
exactly where the glued names of the workflow can be read back. A top-level task
may have the name of a subprocess and of one of its tasks, glued, and then the
two specs take turns in one row; a subprocess without a name is told from the
top level by its specs but not by its live tasks.
-/
open M8flowCore.Lib M8flowCore.Session

namespace M8flowCore

section
variable {W Ω : Type} {env : Env W Ω} {definitionId : Nat} {s s' : Tx Ω} {pi : ProcessInstance} {w : W} {occurredAt : Time}

/-- Every task of the workflow has a row, and the row points at a definition made
of the task's own spec. -/
def OwnDefinitions (pi : ProcessInstance) (serialized : SerializedWorkflow) (db : Db) : Prop :=
  ∀ r ∈ iterSerializedTaskRows serialized, ∃ e ∈ serialized.entries, e.SpecOf r ∧
    ∃ guid row d, payloadGuid r.2.2 = some guid ∧ db.task? guid = some row ∧ d ∈ db.taskDefinitions ∧
      d.id = row.taskDefinitionId ∧ d.m8fTenantId = pi.m8fTenantId ∧
      pi.bpmnProcessDefinitionId = some d.bpmnProcessDefinitionId ∧ d.Describes e

/-- The lookup of `_sync_task_models_from_workflow`. -/
def Db.definitionFor (db : Db) (tenantId : TenantId) (definitionId : Nat) (identifier : String) : Option TaskDefinition :=
  (db.taskDefinitions.filter fun t => t.m8fTenantId == tenantId && t.bpmnProcessDefinitionId == definitionId).find?
    (·.bpmnIdentifier == identifier)

theorem definitionFor_isSome {db : Db} {tenantId : TenantId} {identifier : String}
    (h : db.definitionsOf tenantId definitionId identifier ≠ []) :
    (db.definitionFor tenantId definitionId identifier).isSome := by
  obtain ⟨d, hd⟩ := List.exists_mem_of_ne_nil _ h
  obtain ⟨hmem, hkey⟩ := List.mem_filter.1 hd
  simp only [Bool.and_eq_true, beq_iff_eq] at hkey
  exact List.find?_isSome.2 ⟨d, List.mem_filter.2 ⟨hmem, by simp [hkey.1]⟩, by simp [hkey.2]⟩

/-- What a save is to do with the specs of the workflow: the three ways to an
identifier agree on a spec and part different ones, no definition is missing when
it is looked up, and afterwards no spec was overwritten and every task points at
its own. -/
structure Env.KeepsSpecs (env : Env W Ω) (pi : ProcessInstance) (w : W) : Prop where
  rows : serializedTaskRows (iterSerializedTaskRows (env.toDict w)) =
    .ok ((iterSerializedTaskRows (env.toDict w)).map fun r => (rowIdentifier r, r.2.2))
  agree : ∀ r ∈ iterSerializedTaskRows (env.toDict w), ∀ e ∈ (env.toDict w).entries, e.SpecOf r → rowIdentifier r = e.identifier
  distinguishes : env.Distinguishes w
  found : ∀ {s s' : Tx Ω} {definition : BpmnProcessDefinition} {occurredAt : Time},
    pi.bpmnProcessDefinitionId.bind s.view.definition? = some definition →
    (persistBeforeTaskRows env pi w occurredAt).run s = (.ok (), s') →
    ∀ r ∈ iterSerializedTaskRows (env.toDict w), (s'.view.definitionFor pi.m8fTenantId definition.id (rowIdentifier r)).isSome
  saved : ∀ {s s' : Tx Ω} {definition : BpmnProcessDefinition} {occurredAt : Time} {starting : Bool},
    pi.bpmnProcessDefinitionId.bind s.view.definition? = some definition →
    (saveWorkflow env pi w occurredAt starting).run s = (.ok (), s') →
    (∀ e ∈ (env.toDict w).entries, Represented pi.m8fTenantId definition.id e s'.view) ∧
      OwnDefinitions pi (env.toDict w) s'.view

theorem serializedTaskRows_specified (henv : env.Specifies) (w : W) :
    serializedTaskRows (iterSerializedTaskRows (env.toDict w)) =
      .ok ((iterSerializedTaskRows (env.toDict w)).map fun r => (rowIdentifier r, r.2.2)) := by
  refine serializedTaskRows_eq fun r hr => ?_
  obtain ⟨e, -, -, hname⟩ := henv.row_spec hr
  simp [hname]

/-- No save finds a definition missing, whatever the names. -/
theorem persistBeforeTaskRows_found (henv : env.Specifies) {definition : BpmnProcessDefinition}
    (hdefinition : pi.bpmnProcessDefinitionId.bind s.view.definition? = some definition)
    (h : (persistBeforeTaskRows env pi w occurredAt).run s = (.ok (), s')) {r : Guid × Option String × Dict}
    (hr : r ∈ iterSerializedTaskRows (env.toDict w)) :
    (s'.view.definitionFor pi.m8fTenantId definition.id (rowIdentifier r)).isSome := by
  obtain ⟨e, he, hof⟩ := henv.row_spec hr
  obtain ⟨s₁, s₂, -, hloop, hsteady⟩ := persistBeforeTaskRows_loop hdefinition h
  refine definitionFor_isSome ?_
  rw [hof.identifier, definitionsOf_congr hsteady.definitions]
  exact forEach_upsertEntry_ne hloop e he

theorem Arranged.ownDefinitions (henv : env.Specifies) (hid : pi.bpmnProcessDefinitionId = some definitionId) {db : Db}
    (h : Arranged env pi definitionId w db) : OwnDefinitions pi (env.toDict w) db := by
  intro r hr
  obtain ⟨e, he, hof⟩ := henv.row_spec hr
  obtain ⟨guid, hguid, row, hrow, d, hd, hrowid⟩ := h.pointed r hr
  rw [hof.identifier] at hd
  have hdescribes := (h.represented e he).2 d hd
  obtain ⟨hmem, hkey⟩ := List.mem_filter.1 hd
  simp only [Bool.and_eq_true, beq_iff_eq] at hkey
  exact ⟨e, he, hof, guid, row, d, hguid, hrow, hmem, hrowid, hkey.1.1, by rw [hid, hkey.1.2], hdescribes⟩

/-- The identifiers keep the specs of a workflow apart exactly if its names are,
and none of those a live task is identified by is empty. -/
theorem distinguishes_iff (henv : env.Specifies) :
    env.Distinguishes w ↔
      (env.toDict w).NamesApart ∧ ∀ t ∈ env.readyManualTasks w, t.specName ≠ "" ∧ t.subprocess ≠ some "" := by
  have hspec : ∀ t ∈ env.readyManualTasks w, ∃ e ∈ (env.toDict w).entries, e.subprocess = t.subprocess ∧ e.name = t.specName := by
    intro t ht
    obtain ⟨e, he, hsub, hname, -⟩ := henv.task_spec (List.mem_filter.1 ht).1
    exact ⟨e, he, hsub, hname⟩
  constructor
  · rintro ⟨hapart, hlive⟩
    refine ⟨(identifiers_apart_iff (henv.keyed w)).1 hapart, fun t ht => ?_⟩
    obtain ⟨e, he, hsub, hname⟩ := hspec t ht
    exact (taskIdentifier_iff hsub hname).1 (hlive t ht e he hsub hname)
  · rintro ⟨hapart, hlive⟩
    refine ⟨(identifiers_apart_iff (henv.keyed w)).2 hapart, fun t ht e he hsub hname => ?_⟩
    exact (taskIdentifier_iff hsub hname).2 (hlive t ht)

/-- Task rows point at their own definitions exactly where the names of the
workflow can be told apart. -/
theorem keeps_specs_iff (henv : env.Specifies) (pi : ProcessInstance) (w : W) :
    env.KeepsSpecs pi w ↔
      (env.toDict w).NamesApart ∧ ∀ t ∈ env.readyManualTasks w, t.specName ≠ "" ∧ t.subprocess ≠ some "" := by
  rw [← distinguishes_iff henv]
  refine ⟨fun h => h.distinguishes, fun hdist => ?_⟩
  refine ⟨serializedTaskRows_specified henv w, fun r _ e _ hof => hof.identifier, hdist,
    fun hdefinition h r hr => persistBeforeTaskRows_found henv hdefinition h hr, fun {s s' definition _ _} hdefinition h => ?_⟩
  have harranged := saveWorkflow_arranged henv hdist hdefinition h
  exact ⟨harranged.represented, harranged.ownDefinitions henv (definition_found hdefinition)⟩

end

namespace Sample

/-- A manual task of the top level, the task that runs the subprocess `sub` next
to it, and the script of that. -/
def nestedTask (id : Guid) (state : TaskState) (manual : Bool) (spec specType : String) (subprocess : Option String) : SpiffTask :=
  { id := id, state := state, manual := manual, specName := spec, specType := specType, lane := .none, timer := none,
    topLevel := subprocess.isNone, subprocess := subprocess, internalData := [], data := [],
    payload := payload id state spec, specPayload := [("typename", .str specType)] }

def nestedTasks (name : String) : List SpiffTask :=
  [nestedTask "a" .ready true name "ManualTask" none, nestedTask "b" .started false "run" "CallActivity" none,
    nestedTask "c" .completed false "t" "ScriptTask" (some "sub")]

def nestedDict (name : String) : SerializedWorkflow :=
  { spec := ⟨"review", [(name, [("typename", .str "ManualTask")]), ("run", [("typename", .str "CallActivity")])],
      [("name", .str "review")]⟩,
    subprocessSpecs := [("sub", ⟨"sub", [("t", [("typename", .str "ScriptTask")])], []⟩)],
    tasks := [("a", payload "a" .ready name), ("b", payload "b" .started "run")],
    subprocesses := [("b", .mk "sub" [("c", payload "c" .completed "t")] [])], data := [], properties := [] }

/-- The engine with one workflow, whose manual task has the name given. -/
def nestedEnv (name : String) : Env Review Bool :=
  { env with tasks := fun _ => nestedTasks name, toDict := fun _ => nestedDict name }

def nestedReview : Review := ⟨4, .ready, .ready, .ready, .ready⟩

def nestedInstance : ProcessInstance :=
  { id := 4, m8fTenantId := "t", processModelIdentifier := "d", processModelDisplayName := "d", summary := none,
    processInitiatorId := 1, bpmnProcessDefinitionId := some 2, bpmnProcessId := some 3, workflowEngineVersion := none,
    status := .notStarted, startedAt := none, endedAt := none, taskUpdatedAt := none, updatedAt := none, createdAt := none,
    bpmnVersionControlType := none, bpmnVersionControlIdentifier := none, lastMilestoneBpmnName := none, bpmnVersionId := none }

def nestedState : Tx Bool :=
  Tx.begin 10 { db₀ with processInstances := [nestedInstance], bpmnProcesses := [⟨3, "t", 2, [], "", none, none⟩] } true

theorem nestedDict_entries (name : String) : (nestedDict name).entries =
    [⟨none, name, [("typename", .str "ManualTask")]⟩, ⟨none, "run", [("typename", .str "CallActivity")]⟩,
      ⟨some "sub", "t", [("typename", .str "ScriptTask")]⟩] := rfl

theorem nestedDict_rows (name : String) : iterSerializedTaskRows (nestedDict name) =
    [("a", none, payload "a" .ready name), ("b", none, payload "b" .started "run"),
      ("c", some "sub", payload "c" .completed "t")] := rfl

theorem nestedEnv_specifies {name : String} (hname : name ≠ "run") : (nestedEnv name).Specifies where
  keyed _ := ⟨by simp [nestedEnv, nestedDict, hname], by simp [nestedEnv, nestedDict], by simp [nestedEnv, nestedDict]⟩
  row_guids _ := by
    have hguids : (iterSerializedTaskRows (nestedDict name)).map (fun r => payloadGuid r.2.2) =
        [some "a", some "b", some "c"] := rfl
    change ((iterSerializedTaskRows (nestedDict name)).map fun r => payloadGuid r.2.2).Nodup
    rw [hguids]
    decide
  row_spec {_ r} hr := by
    change r ∈ iterSerializedTaskRows (nestedDict name) at hr
    change ∃ e ∈ (nestedDict name).entries, e.SpecOf r
    rw [nestedDict_rows] at hr
    rw [nestedDict_entries]
    simp only [List.mem_cons, List.not_mem_nil, or_false] at hr
    rcases hr with rfl | rfl | rfl
    · exact ⟨_, List.mem_cons_self, rfl, rfl⟩
    · exact ⟨_, List.mem_cons_of_mem _ List.mem_cons_self, rfl, rfl⟩
    · exact ⟨_, List.mem_cons_of_mem _ (List.mem_cons_of_mem _ List.mem_cons_self), rfl, rfl⟩
  task_row {_ t} ht := by
    change t ∈ nestedTasks name at ht
    change ∃ r ∈ iterSerializedTaskRows (nestedDict name), _
    rw [nestedDict_rows]
    simp only [nestedTasks, List.mem_cons, List.not_mem_nil, or_false] at ht
    rcases ht with rfl | rfl | rfl
    · exact ⟨_, List.mem_cons_self, rfl, rfl, rfl⟩
    · exact ⟨_, List.mem_cons_of_mem _ List.mem_cons_self, rfl, rfl, rfl⟩
    · exact ⟨_, List.mem_cons_of_mem _ (List.mem_cons_of_mem _ List.mem_cons_self), rfl, rfl, rfl⟩
  task_spec {_ t} ht := by
    change t ∈ nestedTasks name at ht
    change ∃ e ∈ (nestedDict name).entries, _
    rw [nestedDict_entries]
    simp only [nestedTasks, List.mem_cons, List.not_mem_nil, or_false] at ht
    rcases ht with rfl | rfl | rfl
    · exact ⟨_, List.mem_cons_self, rfl, rfl, rfl⟩
    · exact ⟨_, List.mem_cons_of_mem _ List.mem_cons_self, rfl, rfl, rfl⟩
    · exact ⟨_, List.mem_cons_of_mem _ (List.mem_cons_of_mem _ List.mem_cons_self), rfl, rfl, rfl⟩

end Sample

open Sample in
/-- Two tasks called `t`, one of them in a subprocess, keep a definition each. -/
theorem keeps_specs_nested :
    ((nestedEnv "t").toDict nestedReview).NamesApart ∧ (nestedEnv "t").KeepsSpecs nestedInstance nestedReview := by
  have hapart : ((nestedEnv "t").toDict nestedReview).NamesApart := by
    refine (identifiers_apart_iff ((nestedEnv_specifies (by decide)).keyed nestedReview)).1 fun e he e' he' => ?_
    have hidentifiers : ((nestedDict "t").entries.map (·.identifier)).Nodup := by decide
    exact List.inj_on_of_nodup_map hidentifiers he he'
  have hready : (nestedEnv "t").readyManualTasks nestedReview = [nestedTask "a" .ready true "t" "ManualTask" none] := by rfl
  refine ⟨hapart, (keeps_specs_iff (nestedEnv_specifies (by decide)) nestedInstance nestedReview).2 ⟨hapart, fun t ht => ?_⟩⟩
  rw [hready, List.mem_singleton] at ht
  subst ht
  exact ⟨by decide, by decide⟩

/-- The save of the workflow with a top-level task `sub::t`. -/
def Sample.gluedSave : Except Error Unit × Tx Bool :=
  (saveWorkflow (nestedEnv "sub::t") nestedInstance nestedReview 0 true).run nestedState

open Sample in
/-- The top-level task `sub::t` and the task `t` of `sub` share one definition. -/
theorem glued_spec_overwritten : (nestedEnv "sub::t").Specifies ∧ gluedSave.1 = .ok () ∧
    ¬ OwnDefinitions nestedInstance ((nestedEnv "sub::t").toDict nestedReview) gluedSave.2.view := by
  refine ⟨nestedEnv_specifies (by decide), by decide +kernel, fun h => ?_⟩
  have hnone : ∀ d ∈ gluedSave.2.view.taskDefinitions, d.typename ≠ "ScriptTask" := by decide +kernel
  have hrow : ("c", some "sub", payload "c" .completed "t") ∈ iterSerializedTaskRows (nestedDict "sub::t") := by
    rw [nestedDict_rows]
    simp
  obtain ⟨e, he, ⟨hsub, -⟩, -, -, d, -, -, hd, -, -, -, hdescribes⟩ := h _ hrow
  change e ∈ (nestedDict "sub::t").entries at he
  rw [nestedDict_entries] at he
  simp only [List.mem_cons, List.not_mem_nil, or_false] at he
  rcases he with rfl | rfl | rfl
  · cases hsub
  · cases hsub
  · exact hnone d hd (Option.some.inj hdescribes.typename).symm

end M8flowCore
