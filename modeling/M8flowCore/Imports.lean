import M8flowCore.Operations
import M8flowCore.Sample
/-!
# What an import writes

An import checks its arguments, stores the definition, keeps a version of the
source, schedules the timer start events and enrols the lane owners, in this
order. The definition it stores over is found by its digest.
-/
open M8flowCore.Lib M8flowCore.Session

namespace M8flowCore

/-- What the checks of an import have found. -/
structure CheckedImport where
  digest : String
  processIdentifier : String
  existing : Option BpmnProcessDefinition
  effective : Dict

section
variable {W Ω : Type} (env : Env W Ω)

/-- The digest an import stores its definition under. -/
def ImportArgs.digest (args : ImportArgs) : String := args.processXmlDigest.getD (env.sha256 args.sourceBpmnXml)

/-- The definition an import stores over. -/
def Db.importTarget (db : Db) (tenantId : TenantId) (digest : String) : Option BpmnProcessDefinition :=
  db.definitions.find? fun d => d.m8fTenantId == tenantId && d.processXmlDigest == digest

/-- The part of `import_bpmn_process_definition` that only reads. -/
def importChecks (tenantId : TenantId) (userId : Nat) (args : ImportArgs) : M Ω CheckedImport := do
  let _ ← ensureUserBelongsToTenant tenantId userId
  requireCommandAuthorization env tenantId userId processDefinitionImportCommand .processDefinition
    args.bpmnIdentifier []
  ofExcept (env.validateBpmnSource args.sourceBpmnXml args.sourceDmnXml)
  let processIdentifier ← ofExcept (extractProcessIdentifier env args.sourceBpmnXml)
  let existing ← query (·.importTarget tenantId (args.digest env))
  let effective := args.propertiesJson.getD ((existing.map (·.propertiesJson)).getD [])
  let laneNames ← ofExcept (env.bpmnLaneNames args.sourceBpmnXml)
  ofExcept (validateInitiatorLanes env effective laneNames)
  pure ⟨args.digest env, processIdentifier, existing, effective⟩

/-- The row of a definition that is imported for the first time. -/
def ImportArgs.newRow (args : ImportArgs) (tenantId : TenantId) (c : CheckedImport) (id : Nat) : BpmnProcessDefinition :=
  args.stamp
    { id := id, m8fTenantId := tenantId, processXmlDigest := c.digest, bpmnIdentifier := c.processIdentifier,
      bpmnName := args.bpmnName, propertiesJson := args.propertiesJson.getD [],
      bpmnVersionControlType := args.bpmnVersionControlType,
      bpmnVersionControlIdentifier := args.bpmnVersionControlIdentifier,
      updatedAt := args.updatedAt.orElse fun _ => args.createdAt, createdAt := args.createdAt }

/-- The stored row of a definition after an import over it. -/
def ImportArgs.overRow (args : ImportArgs) (c : CheckedImport) (d : BpmnProcessDefinition) : BpmnProcessDefinition :=
  args.stamp (args.applyTo c.digest c.processIdentifier d)

/-- The part of an import that stores its definition. -/
def storeImport (tenantId : TenantId) (args : ImportArgs) (c : CheckedImport) : M Ω Nat :=
  match c.existing with
  | some d => do
    write fun db => { db with definitions := updateWhere (·.id == d.id) (args.overRow c) db.definitions }
    pure d.id
  | none => insert fun id db => { db with definitions := db.definitions ++ [args.newRow tenantId c id] }

/-- The definitions after an import, which gives a new one the id `newId`. -/
def CheckedImport.definitions (c : CheckedImport) (tenantId : TenantId) (args : ImportArgs) (newId : Nat)
    (definitions : List BpmnProcessDefinition) : List BpmnProcessDefinition :=
  match c.existing with
  | some d => updateWhere (·.id == d.id) (args.overRow c) definitions
  | none => definitions ++ [args.newRow tenantId c newId]

/-- The id of the imported definition. -/
def CheckedImport.id (c : CheckedImport) (newId : Nat) : Nat := (c.existing.map (·.id)).getD newId

/-- The session once the definition is stored. -/
def CheckedImport.stored (c : CheckedImport) (tenantId : TenantId) (args : ImportArgs) (s : Tx Ω) : Tx Ω :=
  { s with seq := if c.existing.isSome then s.seq else s.seq + 1,
           view := { s.view with definitions := c.definitions tenantId args s.seq s.view.definitions } }

theorem storeImport_run (tenantId : TenantId) (args : ImportArgs) (c : CheckedImport) (s : Tx Ω) :
    (storeImport tenantId args c).run s = (.ok (c.id s.seq), c.stored tenantId args s) := by
  rcases c with ⟨digest, processIdentifier, _ | d, effective⟩ <;> rfl

/-- The part of an import that follows: version, timer start jobs, lane owners. -/
def finishImport (tenantId : TenantId) (args : ImportArgs) (c : CheckedImport) (id : Nat) : M Ω Nat := do
  let timestamp ← resolveTimestamp env (args.updatedAt.orElse fun _ => args.createdAt)
  let _ ← ensureBpmnVersionSnapshot env tenantId args.bpmnIdentifier args.sourceBpmnXml timestamp
  syncTimerStartSchedulerJobs env id tenantId timestamp
  enrollDefinitionLaneOwners env tenantId c.effective
  pure id

theorem importBpmnProcessDefinition_eq (tenantId : TenantId) (userId : Nat) (args : ImportArgs) :
    importBpmnProcessDefinition env tenantId userId args = (do
      let c ← importChecks env tenantId userId args
      let id ← storeImport tenantId args c
      finishImport env tenantId args c id) := by
  unfold importBpmnProcessDefinition importChecks
  simp only [Prog.bind_assoc, Prog.pure_bind]
  refine congrArg _ (funext fun _ => congrArg _ (funext fun _ => congrArg _ (funext fun _ => congrArg _ (funext fun pid => ?_))))
  refine congrArg _ (funext fun existing => congrArg _ (funext fun names => congrArg _ (funext fun _ => ?_)))
  cases existing with
  | none => rfl
  | some d =>
    unfold storeImport
    simp only [Prog.bind_assoc, Prog.pure_bind]
    rfl

theorem importChecks_readOnly (tenantId : TenantId) (userId : Nat) (args : ImportArgs) :
    (importChecks env tenantId userId args).ReadOnly := by
  refine Prog.keeps_bind Prog.frame_eq (ensureUserBelongsToTenant_readOnly _ _) fun _ => ?_
  refine Prog.keeps_bind Prog.frame_eq (requireCommandAuthorization_readOnly _ _ _ _ _ _ _) fun _ => ?_
  refine Prog.keeps_bind Prog.frame_eq (ofExcept_readOnly _) fun _ => ?_
  refine Prog.keeps_bind Prog.frame_eq (ofExcept_readOnly _) fun processIdentifier => ?_
  refine Prog.keeps_bind Prog.frame_eq (Prog.keeps_gets Prog.frame_eq _) fun existing => ?_
  refine Prog.keeps_bind Prog.frame_eq (ofExcept_readOnly _) fun laneNames => ?_
  exact Prog.keeps_bind Prog.frame_eq (ofExcept_readOnly _) fun _ => Prog.keeps_pure Prog.frame_eq _

variable {env} {tenantId : TenantId} {userId : Nat} {args : ImportArgs} {c : CheckedImport} {s s' : Tx Ω}

/-- The checks find the definition under the import's digest. -/
theorem importChecks_ok (h : (importChecks env tenantId userId args).run s = (.ok c, s')) :
    c.digest = args.digest env ∧ c.existing = s.view.importTarget tenantId (args.digest env) := by
  unfold importChecks at h
  obtain ⟨_, s₁, hmember, h₁⟩ := Prog.bind_ok.1 h
  obtain rfl := (ensureUserBelongsToTenant_readOnly _ _).state hmember
  obtain ⟨_, s₂, hallowed, h₂⟩ := Prog.bind_ok.1 h₁
  obtain rfl := (requireCommandAuthorization_readOnly _ _ _ _ _ _ _).state hallowed
  obtain ⟨_, s₃, hvalid, h₃⟩ := Prog.bind_ok.1 h₂
  obtain ⟨-, rfl⟩ := ofExcept_ok hvalid
  obtain ⟨_, s₄, hextract, h₄⟩ := Prog.bind_ok.1 h₃
  obtain ⟨-, rfl⟩ := ofExcept_ok hextract
  simp only [query, Prog.gets_bind_run] at h₄
  obtain ⟨_, s₅, hnames, h₅⟩ := Prog.bind_ok.1 h₄
  obtain ⟨-, rfl⟩ := ofExcept_ok hnames
  obtain ⟨_, s₆, hlanes, h₆⟩ := Prog.bind_ok.1 h₅
  obtain ⟨-, rfl⟩ := ofExcept_ok hlanes
  obtain ⟨rfl, rfl⟩ := Prog.pure_ok.1 h₆
  exact ⟨rfl, rfl⟩

/-- An import is refused by its checks, with nothing written, or goes on to
store its definition. -/
theorem importBpmnProcessDefinition_cases {r : Except Error Nat}
    (h : (importBpmnProcessDefinition env tenantId userId args).run s = (r, s')) :
    (∃ e, (importChecks env tenantId userId args).run s = (.error e, s) ∧ r = .error e ∧ s' = s) ∨
      ∃ c, (importChecks env tenantId userId args).run s = (.ok c, s) ∧
        (finishImport env tenantId args c (c.id s.seq)).run (c.stored tenantId args s) = (r, s') := by
  rw [importBpmnProcessDefinition_eq] at h
  rcases (importChecks_readOnly env tenantId userId args).bind_cases h with hrefused | ⟨c, hchecks, h₁⟩
  · exact .inl hrefused
  · rw [Prog.bind_run_ok (storeImport_run tenantId args c s)] at h₁
    exact .inr ⟨c, hchecks, h₁⟩

/-! ## Other definitions -/

/-- The job is of a timer start event of the definition, under the key the
library gives such a job. -/
def SchedulerJob.StartsFor (definitionId : Nat) (j : SchedulerJob) : Prop :=
  j.jobType = .timerStart ∧ j.bpmnProcessDefinitionId = some definitionId ∧ ∃ specName, j.jobKey = startJobKey definitionId specName

theorem startJobKey_injective {id id' : Nat} {name name' : String} (h : startJobKey id name = startJobKey id' name') :
    id = id' := by
  have hbar : ∀ n : Nat, ∀ c ∈ Nat.toDigits 10 n, (c != '|') = true := by
    intro n c hc
    have hdigit := Nat.isDigit_of_mem_toDigits (by decide) (by decide) hc
    rw [bne_iff_ne]
    rintro rfl
    simp [Char.isDigit] at hdigit
  have htake : ∀ (n : Nat) (rest : List Char), (Nat.toDigits 10 n ++ '|' :: rest).takeWhile (· != '|') = Nat.toDigits 10 n := by
    intro n rest
    rw [List.takeWhile_append_of_pos (hbar n)]
    simp
  have hlist := congrArg String.toList h
  simp only [startJobKey, joinWith, String.toList_append, List.append_assoc] at hlist
  have hdigits : Nat.toDigits 10 id = Nat.toDigits 10 id' := by
    have hrest : Nat.toDigits 10 id ++ '|' :: ("q:".toList ++ name.toList) =
        Nat.toDigits 10 id' ++ '|' :: ("q:".toList ++ name'.toList) := by simpa [Nat.repr] using hlist
    rw [← htake id, hrest, htake]
  rw [← Nat.ofDigitChars_ten_toDigits (n := id), hdigits, Nat.ofDigitChars_ten_toDigits]

/-- No definition is changed, and no timer start job of a definition other than
`id`. -/
structure BesidesDefinition (id : Nat) (s s' : Tx Ω) : Prop where
  definitions : s'.view.definitions = s.view.definitions
  jobs : ∀ id' ≠ id, ∀ j : SchedulerJob, j.StartsFor id' → (j ∈ s'.view.schedulerJobs ↔ j ∈ s.view.schedulerJobs)

theorem frame_besidesDefinition (id : Nat) : Prog.Frame (BesidesDefinition (Ω := Ω) id) where
  refl _ := ⟨rfl, fun _ _ _ _ => Iff.rfl⟩
  trans h₁ h₂ := ⟨h₂.definitions.trans h₁.definitions,
    fun id' hid j hj => (h₂.jobs id' hid j hj).trans (h₁.jobs id' hid j hj)⟩

theorem upsertSchedulerJob_besides (tenantId : TenantId) {id : Nat} {specName : String} {v : JobValues} (occurredAt : Time)
    (createdAt : Option Time) (hv : v.bpmnProcessDefinitionId = some id) :
    (upsertSchedulerJob (Ω := Ω) tenantId (startJobKey id specName) v occurredAt createdAt).Keeps (BesidesDefinition id) := by
  refine Prog.keeps_bind (frame_besidesDefinition id) (Prog.keeps_gets (frame_besidesDefinition id) _) fun found => ?_
  cases found with
  | none =>
    intro s
    refine ⟨rfl, fun id' hid j hj => ?_⟩
    refine List.mem_append.trans (or_iff_left fun hnew => hid ?_)
    rw [List.mem_singleton] at hnew
    have hdefinition := hj.2.1
    rw [hnew] at hdefinition
    exact Option.some.inj (hdefinition.symm.trans hv)
  | some job =>
    intro s
    refine ⟨rfl, fun id' hid j hj => ?_⟩
    refine mem_updateWhere.trans ⟨?_, fun hmem => ⟨j, hmem, ?_⟩⟩
    · rintro ⟨j₀, hmem, rfl⟩
      split at hj
      · exact absurd (Option.some.inj (hj.2.1.symm.trans hv)) hid
      · rename_i hkey
        rwa [if_neg hkey]
    · rw [if_neg]
      obtain ⟨-, -, name, hkey⟩ := hj
      simp only [Bool.and_eq_true, beq_iff_eq, not_and]
      intro _ hsame
      exact hid (startJobKey_injective (hkey.symm.trans hsame))

theorem buildSchedulerJobKey_start {id : Nat} {qualifier key : String}
    (h : buildSchedulerJobKey .timerStart none (some id) (some qualifier) = .ok key) :
    key = startJobKey id (strip qualifier) := by
  unfold buildSchedulerJobKey at h
  simp only [Option.map_some] at h
  split at h
  · simp at h
  · rename_i q _ hq
    obtain rfl := Option.some.inj hq
    simpa [startJobKey] using (Except.ok.inj h).symm
  · simp at *

theorem scheduleTimerStart_besides (id : Nat) (tenantId : TenantId) (occurredAt : Time) (p : TimerPayload) :
    (scheduleTimerStart (Ω := Ω) id tenantId occurredAt p).Keeps (BesidesDefinition id) := by
  unfold scheduleTimerStart
  dsimp only
  split
  · exact Prog.keeps_raise (frame_besidesDefinition id) _
  · cases hkey : buildSchedulerJobKey .timerStart none (some id) (some (strip p.taskSpecName)) with
    | error e => exact Prog.keeps_raise (frame_besidesDefinition id) e
    | ok key =>
      obtain rfl := buildSchedulerJobKey_start hkey
      simp only [ofExcept, Prog.pure_bind]
      exact Prog.keeps_bind (frame_besidesDefinition id) (upsertSchedulerJob_besides _ _ _ rfl) fun _ =>
        Prog.keeps_pure (frame_besidesDefinition id) _

theorem syncTimerStartSchedulerJobs_besides (env : Env W Ω) (id : Nat) (tenantId : TenantId) (occurredAt : Time) :
    (syncTimerStartSchedulerJobs env id tenantId occurredAt).Keeps (BesidesDefinition id) := by
  have hR := frame_besidesDefinition (Ω := Ω) id
  refine Prog.keeps_bind hR (Prog.keeps_gets hR _) fun found => ?_
  refine Prog.keeps_bind hR (Prog.keeps_orRaise hR _ _) fun definition => ?_
  refine Prog.keeps_bind hR (collectTimerStartPayloadsForDefinition_keeps hR (fun _ _ => ⟨rfl, fun _ _ _ _ => Iff.rfl⟩) _) fun payloads => ?_
  refine Prog.keeps_bind hR (Prog.keeps_mapEach hR fun p _ => scheduleTimerStart_besides id _ _ p) fun expected => ?_
  refine fun s => ⟨rfl, fun id' hid j hj => List.mem_filter.trans (and_iff_left ?_)⟩
  have hother : (j.bpmnProcessDefinitionId == some id) = false := by simpa [hj.2.1] using hid
  simp [hother]

/-- What follows the storing of a definition changes no definition and no timer
start job of another one. -/
theorem finishImport_besides (env : Env W Ω) (tenantId : TenantId) (args : ImportArgs) (c : CheckedImport) (id : Nat) :
    (finishImport env tenantId args c id).Keeps (BesidesDefinition id) := by
  have hR := frame_besidesDefinition (Ω := Ω) id
  refine Prog.keeps_bind hR (Prog.keeps_gets hR _) fun timestamp => ?_
  refine Prog.keeps_bind hR ?_ fun _ => ?_
  · refine Prog.keeps_bind hR (Prog.keeps_gets hR _) fun existing => ?_
    cases existing with
    | some version => exact Prog.keeps_pure hR _
    | none => exact fun _ => ⟨rfl, fun _ _ _ _ => Iff.rfl⟩
  refine Prog.keeps_bind hR (syncTimerStartSchedulerJobs_besides env id _ _) fun _ => ?_
  refine Prog.keeps_bind hR ?_ fun _ => Prog.keeps_pure hR _
  refine Prog.keeps_bind hR (Prog.keeps_gets hR _) fun ownersByLane => ?_
  refine Prog.keeps_bind hR ?_ fun _ => Prog.keeps_pure hR _
  exact enrollLaneOwners_keeps hR (fun _ _ _ => ⟨rfl, fun _ _ _ _ => Iff.rfl⟩) (fun _ => ⟨rfl, fun _ _ _ _ => Iff.rfl⟩) _ _

/-- The ids of the definitions are a primary key, handed out by the session. -/
structure Db.DefinitionIds (db : Db) (seq : Nat) : Prop where
  unique : ∀ d ∈ db.definitions, ∀ d' ∈ db.definitions, d.id = d'.id → d = d'
  below : ∀ d ∈ db.definitions, d.id < seq

/-- Every definition of another process model is as it was, with the jobs of its
timer start events. -/
def OthersKept (processModelIdentifier : String) (s s' : Tx Ω) : Prop :=
  ∀ d ∈ s.view.definitions, d.processModelIdentifier ≠ processModelIdentifier →
    d ∈ s'.view.definitions ∧ ∀ j : SchedulerJob, j.StartsFor d.id → (j ∈ s'.view.schedulerJobs ↔ j ∈ s.view.schedulerJobs)

theorem ImportArgs.processModelIdentifier_stamp (args : ImportArgs) (d : BpmnProcessDefinition)
    (h : args.bpmnIdentifier ≠ "") : (args.stamp d).processModelIdentifier = args.bpmnIdentifier := by
  have hkey : (args.stamp d).explicitProcessModelIdentifier = some args.bpmnIdentifier := by
    unfold ImportArgs.stamp BpmnProcessDefinition.explicitProcessModelIdentifier
    cases args.sourceDmnXml <;> simp [BpmnProcessDefinition.setProperty, Dict.get_set,
      BpmnProcessDefinition.processModelIdentifierPropertyKey, BpmnProcessDefinition.sourceBpmnXmlPropertyKey,
      BpmnProcessDefinition.sourceDmnXmlPropertyKey, PyVal.asStr]
  simp [BpmnProcessDefinition.processModelIdentifier, hkey, Option.filter, h]

/-- A stored definition survives an import that is not over it. -/
theorem CheckedImport.mem_definitions {newId : Nat} {definitions : List BpmnProcessDefinition} {d : BpmnProcessDefinition}
    (hd : d ∈ definitions) (hid : ∀ d₀, c.existing = some d₀ → d.id ≠ d₀.id) :
    d ∈ c.definitions tenantId args newId definitions := by
  unfold CheckedImport.definitions
  cases hexisting : c.existing with
  | none => exact List.mem_append_left _ hd
  | some d₀ => exact mem_updateWhere.2 ⟨d, hd, by simp [hid d₀ hexisting]⟩

/-- An import under an identifier leaves every definition of another identifier
alone exactly when it is refused or when the definition stored under its digest,
if there is one, has this identifier. -/
theorem import_keeps_others_iff {r : Except Error Nat} (hids : s.view.DefinitionIds s.seq) (hnamed : args.bpmnIdentifier ≠ "")
    (h : (importBpmnProcessDefinition env tenantId userId args).run s = (r, s')) :
    OthersKept args.bpmnIdentifier s s' ↔
      (∃ e, (importChecks env tenantId userId args).run s = (.error e, s)) ∨
        ∀ d, s.view.importTarget tenantId (args.digest env) = some d → d.processModelIdentifier = args.bpmnIdentifier := by
  rcases importBpmnProcessDefinition_cases h with ⟨e, hrefused, -, rfl⟩ | ⟨c, hchecks, hfinish⟩
  · exact iff_of_true (fun d hd _ => ⟨hd, fun _ _ => Iff.rfl⟩) (.inl ⟨e, hrefused⟩)
  obtain ⟨-, htarget⟩ := importChecks_ok hchecks
  have hrest := (finishImport_besides env tenantId args c _).of_ok hfinish
  constructor
  · intro hkept
    refine .inr fun d hd => by_contra fun hother => ?_
    -- the stored row was found by its digest and now carries the import's identifier
    have hstored : d ∈ s.view.definitions := List.mem_of_find?_eq_some hd
    have hmem := (hkept d hstored hother).1
    rw [hrest.definitions] at hmem
    simp only [CheckedImport.stored, CheckedImport.definitions, htarget, hd] at hmem
    obtain ⟨d₀, -, heq⟩ := mem_updateWhere.1 hmem
    split at heq
    · exact hother (heq ▸ args.processModelIdentifier_stamp _ hnamed)
    · rename_i hid
      exact hid (heq ▸ beq_self_eq_true _)
  · rintro (⟨e, hrefused⟩ | hsame)
    · simp [hchecks] at hrefused
    · intro d hd hother
      have hid : ∀ d₀, c.existing = some d₀ → d.id ≠ d₀.id := by
        intro d₀ hd₀ hid
        rw [htarget] at hd₀
        exact hother (hids.unique d hd d₀ (List.mem_of_find?_eq_some hd₀) hid ▸ hsame d₀ hd₀)
      refine ⟨hrest.definitions ▸ c.mem_definitions hd hid, fun j hj => hrest.jobs d.id ?_ j hj⟩
      unfold CheckedImport.id
      cases hexisting : c.existing with
      | none => exact (hids.below d hd).ne
      | some d₀ => exact hid d₀ hexisting

end

namespace Sample

/-- The sample's engine under the database policy. -/
def guardedEnv : Env Review Bool := { env with authorize := databaseAuthorizationPolicy }

/-- The user may import the definition `x` and nothing else. -/
def importerDb : Db :=
  { db₀ with
    principals := [⟨3, some 1, none⟩]
    permissionTargets := [⟨4, some processDefinitionImportCommand, .processDefinition, some "x"⟩]
    permissionAssignments := [⟨5, 3, 4, .permit, .create⟩] }

/-- An import of `x` under a given digest. -/
def importX (digest : String) : ImportArgs := ⟨"x", "reviews", none, none, none, none, none, some digest, none, none⟩

def importer : Tx Bool := .begin 10 importerDb false

def importRequest (identifier : String) : AuthorizationRequest :=
  ⟨"t", 1, processDefinitionImportCommand, .create, .processDefinition, identifier, []⟩

end Sample

theorem import_keeps_others_iff_new_digest :
    OthersKept "x" Sample.importer ((importBpmnProcessDefinition Sample.guardedEnv "t" 1 (Sample.importX "e")).run Sample.importer).2 := by
  have hrun := (Prod.mk.eta (p := (importBpmnProcessDefinition Sample.guardedEnv "t" 1 (Sample.importX "e")).run Sample.importer)).symm
  exact (import_keeps_others_iff ⟨by decide, by decide⟩ (by decide) hrun).2 (.inr (by decide))

/-- A user who may import `x` and not `review` renames the definition `review`,
by importing `x` under its digest. -/
theorem import_renames_other :
    (databaseAuthorizationPolicy Sample.importerDb (Sample.importRequest "x")).toOption.map (·.allowed) = some true ∧
      (databaseAuthorizationPolicy Sample.importerDb (Sample.importRequest "review")).toOption.map (·.allowed) = some false ∧
      ¬ OthersKept "x" Sample.importer
        ((importBpmnProcessDefinition Sample.guardedEnv "t" 1 (Sample.importX "d")).run Sample.importer).2 := by
  refine ⟨by decide, by decide, fun hkept => ?_⟩
  have hmem := (hkept ⟨2, "t", "d", "review", none,
    [(BpmnProcessDefinition.sourceBpmnXmlPropertyKey, .str "reviews")], none, none, none, none⟩ (by decide) (by decide)).1
  revert hmem
  decide

end M8flowCore
