import M8flowCore.Lib.Segments
import M8flowCore.Saving
/-!
# The definitions of task rows

A save gives every task spec of the workflow a row, and points the row of every
task at the row of the task's own spec. The rows are told apart by an identifier
that is glued from the name of the subprocess and the name of the task, and that
is computed in three places: from the spec maps, from the serialized tasks and
from the live tasks.
-/
open M8flowCore.Lib M8flowCore.Session

namespace M8flowCore

/-! ## Task specs -/

/-- A task spec of a serialized workflow, with the subprocess it is in. -/
structure TaskSpecEntry where
  subprocess : Option String
  name : String
  payload : Dict

namespace TaskSpecEntry

/-- The identifier of the row of the spec. -/
def identifier (e : TaskSpecEntry) : String := qualifiedTaskIdentifier e.subprocess e.name

/-- What the row of the spec holds. -/
def properties (e : TaskSpecEntry) : Dict := e.payload.set "__m8f_task_identifier" (.str e.name)

/-- What tells two specs of a workflow apart. -/
def key (e : TaskSpecEntry) : Option String × String := (e.subprocess, e.name)

end TaskSpecEntry

def SerializedSpec.entries (subprocess : Option String) (spec : SerializedSpec) : List TaskSpecEntry :=
  spec.taskSpecs.map fun t => ⟨subprocess, t.1, t.2⟩

/-- The task specs of a workflow, the top level first. -/
def SerializedWorkflow.entries (serialized : SerializedWorkflow) : List TaskSpecEntry :=
  serialized.spec.entries none ++ serialized.subprocessSpecs.flatMap fun sub => sub.2.entries (some sub.1)

/-- The specs of a workflow are dictionaries. -/
structure SerializedWorkflow.Keyed (serialized : SerializedWorkflow) : Prop where
  top : (serialized.spec.taskSpecs.map (·.1)).Nodup
  subprocesses : (serialized.subprocessSpecs.map (·.1)).Nodup
  nested : ∀ sub ∈ serialized.subprocessSpecs, (sub.2.taskSpecs.map (·.1)).Nodup

theorem SerializedSpec.keys_nodup {subprocess : Option String} {spec : SerializedSpec} (h : (spec.taskSpecs.map (·.1)).Nodup) :
    ((spec.entries subprocess).map (·.key)).Nodup := by
  have hkeys : (spec.entries subprocess).map (·.key) = (spec.taskSpecs.map (·.1)).map fun name => (subprocess, name) := by
    unfold SerializedSpec.entries
    rw [List.map_map, List.map_map]
    rfl
  rw [hkeys]
  exact h.map fun _ _ heq => (Prod.mk.inj heq).2

theorem SerializedSpec.subprocess_of_mem {subprocess : Option String} {spec : SerializedSpec} {key : Option String × String}
    (h : key ∈ (spec.entries subprocess).map (·.key)) : key.1 = subprocess := by
  obtain ⟨e, he, rfl⟩ := List.mem_map.1 h
  obtain ⟨t, -, rfl⟩ := List.mem_map.1 he
  rfl

theorem SerializedWorkflow.Keyed.keys_nodup {serialized : SerializedWorkflow} (h : serialized.Keyed) :
    (serialized.entries.map (·.key)).Nodup := by
  unfold SerializedWorkflow.entries
  rw [List.map_append, List.map_flatMap]
  refine (SerializedSpec.keys_nodup h.top).append (List.nodup_flatMap.2 ⟨fun sub hsub => ?_, ?_⟩) ?_
  · exact SerializedSpec.keys_nodup (h.nested sub hsub)
  · refine (List.pairwise_map.1 h.subprocesses).imp fun hne key hkey hkey' => hne ?_
    exact Option.some.inj ((SerializedSpec.subprocess_of_mem hkey).symm.trans (SerializedSpec.subprocess_of_mem hkey'))
  · intro key hkey hkey'
    obtain ⟨sub, -, hsub⟩ := List.mem_flatMap.1 hkey'
    have hnone := SerializedSpec.subprocess_of_mem hkey
    rw [SerializedSpec.subprocess_of_mem hsub] at hnone
    cases hnone

/-! ## Names -/

/-- The text `n::m` is also `n'::m'`, with its colons read further to the right. -/
def Shifted (n m n' m' : String) : Prop :=
  (n' = n ++ ":" ∧ m = ":" ++ m') ∨ ∃ part, n' = n ++ "::" ++ part ∧ m = part ++ "::" ++ m'

theorem shifted_iff {n m n' m' : String} : Shifted n m n' m' ↔ Shifts ':' n.toList m.toList n'.toList m'.toList := by
  unfold Shifted Shifts
  simp only [← String.toList_inj, String.toList_append]
  refine or_congr (by simp) ⟨?_, ?_⟩
  · rintro ⟨part, h, h'⟩
    exact ⟨part.toList, by simpa using h, by simpa using h'⟩
  · rintro ⟨part, h, h'⟩
    exact ⟨String.ofList part, by simpa using h, by simpa using h'⟩

theorem glued_eq_iff {n m n' m' : String} :
    n ++ "::" ++ m = n' ++ "::" ++ m' ↔ (n = n' ∧ m = m') ∨ Shifted n m n' m' ∨ Shifted n' m' n m := by
  have hglue : ∀ n m : String, (n ++ "::" ++ m).toList = n.toList ++ ':' :: ':' :: m.toList := fun n m => by simp
  rw [shifted_iff, shifted_iff, ← String.toList_inj, hglue, hglue, glue_eq_iff, String.toList_inj, String.toList_inj]

theorem Shifted.ne {n m n' m' : String} (h : Shifted n m n' m') : n ≠ n' := by
  rintro rfl
  rcases h with ⟨h, -⟩ | ⟨part, h, -⟩
  · have hlength := congrArg String.length h
    simp at hlength
  · have hlength := congrArg String.length h
    have htwo : "::".length = 2 := by decide
    rw [String.length_append, String.length_append, htwo] at hlength
    omega

/-- No top-level task has the name of a subprocess and of one of its tasks, glued,
and no subprocess and task are those of another read with its colons elsewhere. -/
structure SerializedWorkflow.NamesApart (serialized : SerializedWorkflow) : Prop where
  top : ∀ e ∈ serialized.entries, ∀ e' ∈ serialized.entries, ∀ n, e.subprocess = none → e'.subprocess = some n →
    e.name ≠ n ++ "::" ++ e'.name
  nested : ∀ e ∈ serialized.entries, ∀ e' ∈ serialized.entries, ∀ n n', e.subprocess = some n → e'.subprocess = some n' →
    ¬ Shifted n e.name n' e'.name

/-- The specs of a workflow have different identifiers exactly if their names are
apart. -/
theorem identifiers_apart_iff {serialized : SerializedWorkflow} (hkeyed : serialized.Keyed) :
    (∀ e ∈ serialized.entries, ∀ e' ∈ serialized.entries, e.identifier = e'.identifier → e = e') ↔ serialized.NamesApart := by
  have hkey : ∀ e ∈ serialized.entries, ∀ e' ∈ serialized.entries, e.subprocess = e'.subprocess → e.name = e'.name → e = e' := by
    intro e he e' he' hsub hname
    exact List.inj_on_of_nodup_map hkeyed.keys_nodup he he' (by rw [TaskSpecEntry.key, TaskSpecEntry.key, hsub, hname])
  constructor
  · refine fun h => ⟨fun e he e' he' n hsub hsub' hname => ?_, fun e he e' he' n n' hsub hsub' hshift => ?_⟩
    · have heq := h e he e' he' (by simp only [TaskSpecEntry.identifier, qualifiedTaskIdentifier, hsub, hsub', hname])
      rw [heq, hsub'] at hsub
      cases hsub
    · have hsame : e.identifier = e'.identifier := by
        simp only [TaskSpecEntry.identifier, qualifiedTaskIdentifier, hsub, hsub']
        exact glued_eq_iff.2 (.inr (.inl hshift))
      have heq := h e he e' he' hsame
      rw [heq, hsub'] at hsub
      cases hsub
      exact hshift.ne rfl
  · intro hapart e he e' he' hid
    unfold TaskSpecEntry.identifier qualifiedTaskIdentifier at hid
    cases hsub : e.subprocess with
    | none =>
      cases hsub' : e'.subprocess with
      | none =>
        simp only [hsub, hsub'] at hid
        exact hkey e he e' he' (hsub.trans hsub'.symm) hid
      | some n' =>
        simp only [hsub, hsub'] at hid
        exact absurd hid (hapart.top e he e' he' n' hsub hsub')
    | some n =>
      cases hsub' : e'.subprocess with
      | none =>
        simp only [hsub, hsub'] at hid
        exact absurd hid.symm (hapart.top e' he' e he n hsub' hsub)
      | some n' =>
        simp only [hsub, hsub'] at hid
        rcases glued_eq_iff.1 hid with ⟨rfl, hname⟩ | hshift | hshift
        · exact hkey e he e' he' (hsub.trans hsub'.symm) hname
        · exact absurd hshift (hapart.nested e he e' he' n n' hsub hsub')
        · exact absurd hshift (hapart.nested e' he' e he n' n hsub' hsub)

/-- The identifier `_upsert_task_definition` computes from a live task. -/
def SpiffTask.taskIdentifier (t : SpiffTask) : Except Error String :=
  if t.specName == "" then .error (.validation "Task spec is missing its serialized identifier")
  else .ok (qualifiedTaskIdentifier (t.subprocess.filter (· != "")) t.specName)

/-- From a live task it is the one of the task's spec, unless a name is empty. -/
theorem taskIdentifier_iff {t : SpiffTask} {e : TaskSpecEntry} (hsub : e.subprocess = t.subprocess) (hname : e.name = t.specName) :
    t.taskIdentifier = .ok e.identifier ↔ t.specName ≠ "" ∧ t.subprocess ≠ some "" := by
  unfold SpiffTask.taskIdentifier TaskSpecEntry.identifier
  rw [hsub, hname]
  by_cases hempty : t.specName = ""
  · simp [hempty]
  · have hbeq : (t.specName == "") = false := by simpa using hempty
    simp only [hbeq, Bool.false_eq_true, if_false, Except.ok.injEq, ne_eq, hempty, not_false_eq_true, true_and]
    cases hn : t.subprocess with
    | none => simp [qualifiedTaskIdentifier]
    | some n =>
      by_cases hnil : n = ""
      · subst hnil
        simp only [qualifiedTaskIdentifier, Option.filter_some, bne_self_eq_false, Bool.false_eq_true, if_false,
          not_true_eq_false, iff_false]
        intro h
        have hlength := congrArg String.length h
        simp at hlength
      · have hbne : (n != "") = true := by simpa using hnil
        simp [qualifiedTaskIdentifier, Option.filter_some, hbne, hnil]

/-! ## Rows of definitions -/

/-- The rows of a definition under an identifier. -/
def Db.definitionsOf (db : Db) (tenantId : TenantId) (definitionId : Nat) (identifier : String) : List TaskDefinition :=
  db.taskDefinitions.filter fun t =>
    t.m8fTenantId == tenantId && t.bpmnProcessDefinitionId == definitionId && t.bpmnIdentifier == identifier

/-- The row was created from the spec. -/
structure TaskDefinition.Describes (d : TaskDefinition) (e : TaskSpecEntry) : Prop where
  identifier : d.bpmnIdentifier = e.identifier
  properties : d.propertiesJson = e.properties
  name : d.bpmnName = (e.properties.get "bpmn_name").bind PyVal.asStr
  typename : (e.properties.get "typename").bind PyVal.asStr = some d.typename

theorem setDefault_set (d : Dict) (key : String) (value other : PyVal) : (d.set key value).setDefault key other = d.set key value := by
  have hfound := Dict.get_set_self d key value
  have hany : (d.set key value).any (·.1 == key) = true := by
    unfold Dict.get at hfound
    obtain ⟨kv, hkv, -⟩ := Option.map_eq_some_iff.1 hfound
    have hmatch := List.find?_some hkv
    exact List.any_eq_true.2 ⟨kv, List.mem_of_find?_eq_some hkv, hmatch⟩
  unfold Dict.setDefault
  rw [if_pos hany]

section
variable {W Ω : Type} {env : Env W Ω} {tenantId : TenantId} {definitionId : Nat} {e : TaskSpecEntry} {d : TaskDefinition}
  {occurredAt : Time} {s s' : Tx Ω}

/-- The spec has a row, and every row under its identifier was created from it. -/
def Represented (tenantId : TenantId) (definitionId : Nat) (e : TaskSpecEntry) (db : Db) : Prop :=
  db.definitionsOf tenantId definitionId e.identifier ≠ [] ∧
    ∀ d ∈ db.definitionsOf tenantId definitionId e.identifier, d.Describes e

/-- What the upsert of a spec leaves: rows of the spec under its identifier, each
row that was there among them, and the other identifiers as they were. -/
structure Upserted (tenantId : TenantId) (definitionId : Nat) (e : TaskSpecEntry) (d : TaskDefinition) (db db' : Db) : Prop where
  tasks : db'.tasks = db.tasks
  mem : d ∈ db'.definitionsOf tenantId definitionId e.identifier
  describes : ∀ d' ∈ db'.definitionsOf tenantId definitionId e.identifier, d'.Describes e
  kept : ∀ d₀ ∈ db.definitionsOf tenantId definitionId e.identifier,
    ∃ d' ∈ db'.definitionsOf tenantId definitionId e.identifier, d'.id = d₀.id
  others : ∀ identifier, identifier ≠ e.identifier →
    db'.definitionsOf tenantId definitionId identifier = db.definitionsOf tenantId definitionId identifier

theorem upsertTaskDefinition_upserted
    (h : (upsertTaskDefinitionFromPayload tenantId definitionId e.identifier e.properties occurredAt).run s = (.ok d, s')) :
    Upserted tenantId definitionId e d s.view s'.view := by
  unfold upsertTaskDefinitionFromPayload at h
  simp only [query, Prog.gets_bind_run] at h
  rw [show e.properties.setDefault "__m8f_task_identifier" (.str e.identifier) = e.properties from setDefault_set _ _ _ _] at h
  split at h
  · simp at h
  · simp at h
  · rename_i typename hempty htypename
    cases hfound : s.view.taskDefinitions.find? fun t =>
        t.m8fTenantId == tenantId && t.bpmnProcessDefinitionId == definitionId && t.bpmnIdentifier == e.identifier with
    | none =>
      rw [hfound] at h
      cases h
      have hnone : s.view.definitionsOf tenantId definitionId e.identifier = [] := by
        refine List.filter_eq_nil_iff.2 fun t ht => ?_
        simpa using List.find?_eq_none.1 hfound t ht
      refine ⟨rfl, ?_, fun d' hd' => ?_, fun d₀ hd₀ => ?_, fun identifier hne => ?_⟩
      · unfold Db.definitionsOf
        rw [List.filter_append]
        simp
      · unfold Db.definitionsOf at hd' hnone
        rw [List.filter_append, hnone, List.nil_append] at hd'
        rw [List.mem_singleton.1 (List.mem_filter.1 hd').1]
        exact ⟨rfl, rfl, rfl, htypename⟩
      · rw [hnone] at hd₀
        simp at hd₀
      · unfold Db.definitionsOf
        rw [List.filter_append]
        simp [Ne.symm hne]
    | some row =>
      rw [hfound] at h
      cases h
      have hrow := List.find?_some hfound
      refine ⟨rfl, ?_, fun d' hd' => ?_, fun d₀ hd₀ => ?_, fun identifier hne => ?_⟩
      · refine List.mem_filter.2 ⟨mem_updateWhere.2 ⟨row, List.mem_of_find?_eq_some hfound, ?_⟩, hrow⟩
        rw [if_pos hrow]
      · obtain ⟨hd', hmatch⟩ := List.mem_filter.1 hd'
        obtain ⟨d₀, -, rfl⟩ := mem_updateWhere.1 hd'
        split
        · rename_i hd₀
          simp only [Bool.and_eq_true, beq_iff_eq] at hd₀
          exact ⟨hd₀.2, rfl, rfl, htypename⟩
        · rename_i hd₀
          rw [if_neg hd₀] at hmatch
          exact absurd hmatch hd₀
      · obtain ⟨hmem, hmatch⟩ := List.mem_filter.1 hd₀
        refine ⟨_, List.mem_filter.2 ⟨mem_updateWhere.2 ⟨d₀, hmem, rfl⟩, ?_⟩, ?_⟩
        · rw [if_pos hmatch]
          exact hmatch
        · rw [if_pos hmatch]
      · refine filter_updateWhere fun t _ ht => ?_
        simp only [Bool.and_eq_true, beq_iff_eq] at ht
        simp [ht.2, Ne.symm hne]

end

end M8flowCore
