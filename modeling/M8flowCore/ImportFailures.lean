import Mathlib.Data.List.TakeWhile
import M8flowCore.Imports
/-!
# Imports that fail

The checks of an import come before its first write, but the timer start events
of the source are collected after the definition and its version are stored. If
that fails, what the import has stored stays in the session.
-/
open M8flowCore.Lib M8flowCore.Session

namespace M8flowCore

/-- `ValidationError` or one of its subclasses. -/
def Error.isValidation : Error → Bool
  | .validation _ | .invalidState _ | .callActivityResolution _ => true
  | _ => false

/-! ## Scheduling as a function on the jobs -/

/-- `upsert_scheduler_job` on the jobs, with the id the next row gets. -/
def putSchedulerJob (tenantId : TenantId) (jobKey : String) (v : JobValues) (occurredAt : Time) (createdAt : Option Time)
    (state : Nat × List SchedulerJob) : Nat × List SchedulerJob :=
  match state.2.find? fun j => j.m8fTenantId == tenantId && j.jobKey == jobKey with
  | none => (state.1 + 1, state.2 ++
      [{ id := state.1, m8fTenantId := tenantId, jobKey := jobKey, jobType := v.jobType,
         processInstanceId := v.processInstanceId, bpmnProcessDefinitionId := v.bpmnProcessDefinitionId,
         lockedBy := none, lockedAt := none, runAt := v.runAt, payloadJson := v.payloadJson,
         updatedAt := occurredAt, createdAt := createdAt.getD occurredAt }])
  | some _ => (state.1, updateWhere (fun j => j.m8fTenantId == tenantId && j.jobKey == jobKey)
      (fun j => { j with
        jobType := v.jobType, processInstanceId := v.processInstanceId,
        bpmnProcessDefinitionId := v.bpmnProcessDefinitionId, lockedBy := none, lockedAt := none,
        runAt := v.runAt, payloadJson := v.payloadJson, updatedAt := occurredAt,
        createdAt := createdAt.getD j.createdAt }) state.2)

/-- The timer start event has a name to schedule it under. -/
def TimerPayload.named (p : TimerPayload) : Bool := strip p.taskSpecName != ""

/-- The jobs once the timer start events `payloads` are scheduled. -/
def putStartJobs (definitionId : Nat) (tenantId : TenantId) (occurredAt : Time) (payloads : List TimerPayload)
    (state : Nat × List SchedulerJob) : Nat × List SchedulerJob :=
  payloads.foldl (fun state p =>
    putSchedulerJob tenantId (startJobKey definitionId (strip (strip p.taskSpecName)))
      { jobType := .timerStart, runAt := p.runAtInSeconds * 1000000, processInstanceId := none,
        bpmnProcessDefinitionId := some definitionId,
        payloadJson := [("scheduled_from", .str "process_definition_import"), ("timer_task", p.toDict.toVal)] }
      occurredAt (some occurredAt) state) state

theorem strip_strip_ne {s : String} (h : strip s ≠ "") : strip (strip s) ≠ "" := by
  have hempty : ∀ cs : List Char, (cs.dropWhile isSpace).reverse.dropWhile isSpace = [] → ∀ c ∈ cs, isSpace c = true := by
    intro cs hcs
    have hall : ∀ c ∈ cs.dropWhile isSpace, isSpace c = true := by
      intro c hc
      exact List.dropWhile_eq_nil_iff.1 hcs c (by simpa using hc)
    refine List.dropWhile_eq_nil_iff.1 (by_contra fun hne => ?_)
    have hhead := List.head_dropWhile_not isSpace hne
    rw [hall _ (List.head_mem hne)] at hhead
    simp at hhead
  intro hstrip
  have hspaces := hempty (strip s).toList (by simpa [strip] using congrArg String.toList hstrip)
  apply h
  -- the last character of a stripped text is no space
  have hnil : (s.toList.dropWhile isSpace).reverse.dropWhile isSpace = [] := by
    refine by_contra fun hne => ?_
    have hhead := List.head_dropWhile_not isSpace hne
    rw [hspaces _ (by simp [strip, List.head_mem])] at hhead
    simp at hhead
  simp [strip, hnil]

section
variable {W Ω : Type} {env : Env W Ω} {tenantId : TenantId} {userId : Nat} {args : ImportArgs} {c : CheckedImport}
  {s s' : Tx Ω}

/-- The session with other jobs and another counter. -/
def Tx.withJobs (s : Tx Ω) (state : Nat × List SchedulerJob) : Tx Ω :=
  { s with seq := state.1, view := { s.view with schedulerJobs := state.2 } }

/-- The counter and the jobs of a session. -/
def Tx.jobs (s : Tx Ω) : Nat × List SchedulerJob := (s.seq, s.view.schedulerJobs)

theorem upsertSchedulerJob_run (jobKey : String) (v : JobValues) (occurredAt : Time) (createdAt : Option Time) (s : Tx Ω) :
    (upsertSchedulerJob tenantId jobKey v occurredAt createdAt).run s =
      (.ok (), s.withJobs (putSchedulerJob tenantId jobKey v occurredAt createdAt s.jobs)) := by
  unfold upsertSchedulerJob query
  simp only [Prog.gets_bind_run, Db.schedulerJob?, putSchedulerJob, Tx.jobs]
  cases s.view.schedulerJobs.find? fun j => j.m8fTenantId == tenantId && j.jobKey == jobKey <;> rfl

theorem scheduleTimerStart_run (definitionId : Nat) (occurredAt : Time) {p : TimerPayload} (hp : p.named = true) (s : Tx Ω) :
    (scheduleTimerStart definitionId tenantId occurredAt p).run s =
      (.ok (startJobKey definitionId (strip (strip p.taskSpecName))),
        s.withJobs (putStartJobs definitionId tenantId occurredAt [p] s.jobs)) := by
  have hname : strip p.taskSpecName ≠ "" := by simpa [TimerPayload.named] using hp
  have hkey : buildSchedulerJobKey .timerStart none (some definitionId) (some (strip p.taskSpecName)) =
      .ok (startJobKey definitionId (strip (strip p.taskSpecName))) := by
    have hname' := strip_strip_ne hname
    unfold buildSchedulerJobKey
    simp [startJobKey]
  unfold scheduleTimerStart
  simp only [beq_iff_eq, hname, if_false, hkey, ofExcept, Prog.pure_bind]
  rw [Prog.bind_run_ok (upsertSchedulerJob_run _ _ _ _ s)]
  rfl

theorem scheduleTimerStart_unnamed (definitionId : Nat) (occurredAt : Time) {p : TimerPayload} (hp : p.named = false)
    (s : Tx Ω) : (scheduleTimerStart definitionId tenantId occurredAt p).run s =
      (.error (.validation "Timer start payload is missing its task spec name"), s) := by
  have hname : strip p.taskSpecName = "" := by simpa [TimerPayload.named] using hp
  unfold scheduleTimerStart
  simp [hname]

/-- The events up to the first one without a name are scheduled, and that one
raises. -/
theorem mapEach_scheduleTimerStart (definitionId : Nat) (tenantId : TenantId) (occurredAt : Time)
    (payloads : List TimerPayload) (s : Tx Ω) :
    if payloads.all TimerPayload.named then
      ∃ keys s', (Prog.mapEach payloads (scheduleTimerStart definitionId tenantId occurredAt)).run s = (.ok keys, s')
    else
      (Prog.mapEach payloads (scheduleTimerStart definitionId tenantId occurredAt)).run s =
        (.error (.validation "Timer start payload is missing its task spec name"),
          s.withJobs (putStartJobs definitionId tenantId occurredAt (payloads.takeWhile TimerPayload.named) s.jobs)) := by
  induction payloads generalizing s with
  | nil => simp
  | cons p rest ih =>
    cases hp : p.named with
    | false =>
      simp only [List.all_cons, hp, Bool.false_and, Bool.false_eq_true, if_false, Prog.mapEach_cons]
      rw [Prog.bind_run_error (scheduleTimerStart_unnamed _ _ hp s), List.takeWhile_cons_of_neg (by simp [hp])]
      rfl
    | true =>
      have hrest := ih (s.withJobs (putStartJobs definitionId tenantId occurredAt [p] s.jobs))
      simp only [List.all_cons, hp, Bool.true_and, Prog.mapEach_cons]
      rw [Prog.bind_run_ok (scheduleTimerStart_run _ _ hp s)]
      split
      · rename_i hall
        rw [if_pos hall] at hrest
        obtain ⟨keys, s', hkeys⟩ := hrest
        exact ⟨_, s', by rw [Prog.bind_run_ok hkeys, Prog.pure_run]⟩
      · rename_i hall
        rw [if_neg hall] at hrest
        rw [Prog.bind_run_error hrest, List.takeWhile_cons_of_pos hp]
        rfl

/-! ## Collecting the timer start events -/

variable (env) in
/-- What collecting the timer start events of a definition gives, with the world
it leaves. -/
def timerStartPayloads (definition : BpmnProcessDefinition) (world : Ω) : Except Error (List TimerPayload) × Ω :=
  match definition.sourceBpmnXml with
  | none => (.ok [], world)
  | some bpmnXml =>
    match env.containsTimerStartEvent bpmnXml with
    | .error e => (.error e, world)
    | .ok false => (.ok [], world)
    | .ok true =>
      let built := env.buildWorkflow
        { bpmnXml := bpmnXml, dmnXml := definition.sourceDmnXml, bpmnProcessId := none, context := none,
          resolver := false, callContext := none } world
      match built.1 with
      | .error e => (.error e, built.2)
      | .ok w =>
        let ran := env.runAll none w built.2
        match ran.1.1 with
        | some e => (.error e, ran.2)
        | none => (collectWaitingTimerPayloads env ran.1.2 true, ran.2)

theorem collectTimerStartPayloads_run (env : Env W Ω) (definition : BpmnProcessDefinition) (s : Tx Ω) :
    (collectTimerStartPayloadsForDefinition env definition).run s =
      ((timerStartPayloads env definition s.world).1, { s with world := (timerStartPayloads env definition s.world).2 }) := by
  unfold collectTimerStartPayloadsForDefinition timerStartPayloads
  cases definition.sourceBpmnXml with
  | none => rfl
  | some bpmnXml =>
    dsimp only
    rcases env.containsTimerStartEvent bpmnXml with e | _ | _
    · rfl
    · rfl
    · simp only [ofExcept, Prog.pure_bind, Bool.not_true, Bool.false_eq_true, if_false, ask, Prog.bind_run]
      generalize env.buildWorkflow _ s.world = built
      rcases built with ⟨e | w, world⟩
      · rfl
      · simp only [Prog.pure_run, orRaised]
        generalize env.runAll none w world = ran
        rcases ran with ⟨⟨_ | e, w'⟩, world'⟩
        · simp only [Prog.pure_run]
          cases collectWaitingTimerPayloads env w' true <;> rfl
        · rfl

variable (env) in
/-- Scheduling the timer start events of the definition raises no
`ValidationError`: none of collecting them, and each has a name. -/
def Schedulable (definition : BpmnProcessDefinition) (world : Ω) : Prop :=
  match (timerStartPayloads env definition world).1 with
  | .error e => e.isValidation = false
  | .ok payloads => payloads.all TimerPayload.named = true

variable (env) in
/-- The timer start events that are scheduled before the first one without a
name. -/
def scheduledStarts (definition : BpmnProcessDefinition) (world : Ω) : List TimerPayload :=
  match (timerStartPayloads env definition world).1 with
  | .error _ => []
  | .ok payloads => payloads.takeWhile TimerPayload.named

/-- Synchronizing the timer start jobs of a stored definition raises a
`ValidationError` exactly when they cannot be scheduled, and has then written
the jobs before the first event without a name. -/
theorem syncTimerStartSchedulerJobs_run (env : Env W Ω) (tenantId : TenantId) {definitionId : Nat}
    {definition : BpmnProcessDefinition} (occurredAt : Time) (hfound : s.view.definition? definitionId = some definition) :
    (Schedulable env definition s.world →
      (∃ s', (syncTimerStartSchedulerJobs env definitionId tenantId occurredAt).run s = (.ok (), s')) ∨
        ∃ e s', e.isValidation = false ∧
          (syncTimerStartSchedulerJobs env definitionId tenantId occurredAt).run s = (.error e, s')) ∧
    (¬ Schedulable env definition s.world → ∃ e world, e.isValidation = true ∧
      (syncTimerStartSchedulerJobs env definitionId tenantId occurredAt).run s = (.error e,
        { s.withJobs (putStartJobs definitionId tenantId occurredAt (scheduledStarts env definition s.world) s.jobs) with
          world := world })) := by
  have hcollect := collectTimerStartPayloads_run env definition s
  unfold Schedulable scheduledStarts
  unfold syncTimerStartSchedulerJobs query
  simp only [Prog.gets_bind_run, hfound, Prog.orRaise_some, Prog.pure_bind]
  cases hpayloads : (timerStartPayloads env definition s.world).1 with
  | error e =>
    rw [hpayloads] at hcollect
    rw [Prog.bind_run_error hcollect]
    refine ⟨fun he => .inr ⟨e, _, he, rfl⟩, fun he => ⟨e, _, by simpa using he, rfl⟩⟩
  | ok payloads =>
    rw [hpayloads] at hcollect
    rw [Prog.bind_run_ok hcollect]
    have hschedule := mapEach_scheduleTimerStart definitionId tenantId occurredAt payloads
      { s with world := (timerStartPayloads env definition s.world).2 }
    refine ⟨fun hall => .inl ?_, fun hall => ?_⟩
    · rw [if_pos hall] at hschedule
      obtain ⟨keys, s', hkeys⟩ := hschedule
      exact ⟨_, by rw [Prog.bind_run_ok hkeys]; rfl⟩
    · rw [if_neg hall] at hschedule
      exact ⟨_, _, rfl, by rw [Prog.bind_run_error hschedule]; rfl⟩

/-! ## What a failed import leaves -/

/-- The row an import stores. -/
def CheckedImport.row (c : CheckedImport) (tenantId : TenantId) (args : ImportArgs) (newId : Nat) : BpmnProcessDefinition :=
  match c.existing with
  | some d => args.overRow c d
  | none => args.newRow tenantId c newId

theorem ImportArgs.stamp_id (args : ImportArgs) (d : BpmnProcessDefinition) : (args.stamp d).id = d.id := by
  unfold ImportArgs.stamp
  cases args.sourceDmnXml <;> rfl

/-- The definition an import has stored is found again. -/
theorem CheckedImport.find?_definitions {db : Db} {seq : Nat} (hids : db.DefinitionIds seq)
    (hexisting : ∀ d, c.existing = some d → d ∈ db.definitions) :
    (c.definitions tenantId args seq db.definitions).find? (·.id == c.id seq) = some (c.row tenantId args seq) := by
  unfold CheckedImport.definitions CheckedImport.id CheckedImport.row
  cases hc : c.existing with
  | none =>
    have hnone : db.definitions.find? (·.id == seq) = none := by
      rw [List.find?_eq_none]
      intro d hd
      simpa using (hids.below d hd).ne
    have hid : (args.newRow tenantId c seq).id = seq := args.stamp_id _
    simp [List.find?_append, hnone, hid]
  | some d =>
    have hfind : db.definitions.find? (·.id == d.id) = some d := by
      cases hfound : db.definitions.find? (·.id == d.id) with
      | none => exact absurd (beq_self_eq_true d.id) (by simpa using List.find?_eq_none.1 hfound d (hexisting d hc))
      | some d' =>
        have hid : d'.id = d.id := by simpa using List.find?_some hfound
        rw [hids.unique d' (List.mem_of_find?_eq_some hfound) d (hexisting d hc) hid]
    simp only [Option.map_some, Option.getD_some]
    rw [find?_updateWhere fun d' _ _ => by rw [show (args.overRow c d').id = d'.id from args.stamp_id _], hfind]
    simp

/-- Storing the row changes the definitions unless it is stored as it is. -/
theorem CheckedImport.definitions_eq_iff (tenantId : TenantId) (args : ImportArgs) {db : Db} {seq : Nat} (newId : Nat) (hids : db.DefinitionIds seq)
    (hexisting : ∀ d, c.existing = some d → d ∈ db.definitions) :
    c.definitions tenantId args newId db.definitions = db.definitions ↔ ∃ d, c.existing = some d ∧ args.overRow c d = d := by
  unfold CheckedImport.definitions
  cases hc : c.existing with
  | none => simp
  | some d =>
    simp only [Option.some.injEq, exists_eq_left', updateWhere_eq_self, beq_iff_eq]
    constructor
    · exact fun h => h d (hexisting d hc) rfl
    · intro hover d' hd' hid
      rw [hids.unique d' hd' d (hexisting d hc) hid]
      exact hover

/-- The version snapshot of a source. -/
def Db.version? (db : Db) (tenantId : TenantId) (processModelIdentifier hash : String) : Option ProcessModelBpmnVersion :=
  db.versions.find? fun v =>
    v.m8fTenantId == tenantId && v.processModelIdentifier == processModelIdentifier && v.bpmnXmlHash == hash

theorem ensureBpmnVersionSnapshot_run (env : Env W Ω) (tenantId : TenantId) (identifier bpmnXml : String) (occurredAt : Time)
    (s : Tx Ω) :
    (∃ id, (ensureBpmnVersionSnapshot env tenantId identifier bpmnXml occurredAt).run s = (.ok id, s) ∧
      (s.view.version? tenantId identifier (env.sha256 bpmnXml)).isSome) ∨
    ∃ id row, (ensureBpmnVersionSnapshot env tenantId identifier bpmnXml occurredAt).run s =
        (.ok id, { s with seq := s.seq + 1, view := { s.view with versions := s.view.versions ++ [row] } }) ∧
      s.view.version? tenantId identifier (env.sha256 bpmnXml) = none := by
  unfold ensureBpmnVersionSnapshot query
  simp only [Prog.gets_bind_run]
  cases hfound : s.view.version? tenantId identifier (env.sha256 bpmnXml) with
  | some version =>
    unfold Db.version? at hfound
    simp only [hfound]
    exact .inl ⟨version.id, rfl, rfl⟩
  | none =>
    unfold Db.version? at hfound
    simp only [hfound]
    exact .inr ⟨_, _, rfl, trivial⟩

/-- Enrolling lane owners raises nothing. -/
theorem enrollDefinitionLaneOwners_total (env : Env W Ω) (tenantId : TenantId) (propertiesJson : Dict) :
    Total (enrollDefinitionLaneOwners env tenantId propertiesJson) := by
  have hgroup : ∀ lane, Total (findOrCreateLaneGroup env tenantId lane) := by
    intro lane
    refine .bind (total_query _) fun found => ?_
    cases found with
    | some group =>
      dsimp only
      split
      · exact total_pure _
      · split
        · exact .bind (total_write _) fun _ => total_pure _
        · exact total_pure _
    | none =>
      refine .bind (total_query _) fun legacy => ?_
      cases legacy with
      | some group => exact total_pure _
      | none => exact .bind (total_write _) fun _ => total_pure _
  refine .bind (total_query _) fun ownersByLane => .bind ?_ fun _ => total_pure _
  refine .mapEach fun entry _ => .bind (hgroup _) fun group => ?_
  cases group with
  | none => exact total_pure _
  | some group =>
    refine .bind (.bind (total_query _) fun existing => .forEach fun userId _ => ?_) fun _ => total_pure _
    exact .bind (fun s _ => ⟨_, _, rfl, trivial⟩) fun _ => total_pure _

variable (env) in
/-- The moment an import stamps its version and its jobs with. -/
def ImportArgs.timestamp (args : ImportArgs) (world : Ω) : Time :=
  (args.updatedAt.orElse fun _ => args.createdAt).getD (env.now world)

/-- No definition, version, job, group or membership is created, changed or
deleted. -/
structure NothingStored (s s' : Tx Ω) : Prop where
  definitions : s'.view.definitions = s.view.definitions
  versions : s'.view.versions = s.view.versions
  schedulerJobs : s'.view.schedulerJobs = s.view.schedulerJobs
  groups : s'.view.groups = s.view.groups
  userGroupAssignments : s'.view.userGroupAssignments = s.view.userGroupAssignments

variable (env) in
/-- The import stores again what is stored: the row of its definition, the
version, and the jobs of the timer start events it comes to. -/
structure CheckedImport.Repeats (c : CheckedImport) (tenantId : TenantId) (args : ImportArgs) (s : Tx Ω) : Prop where
  row : ∃ d, c.existing = some d ∧ args.overRow c d = d
  version : (s.view.version? tenantId args.bpmnIdentifier (env.sha256 args.sourceBpmnXml)).isSome
  jobs : (putStartJobs (c.id s.seq) tenantId (args.timestamp env s.world)
    (scheduledStarts env (c.row tenantId args s.seq) s.world) s.jobs).2 = s.view.schedulerJobs

/-- The version an import keeps leaves the definitions, the jobs, the groups and
the world alone. -/
theorem ensureBpmnVersionSnapshot_aside_definitions {identifier bpmnXml : String} {occurredAt : Time} {id : Nat}
    (h : (ensureBpmnVersionSnapshot env tenantId identifier bpmnXml occurredAt).run s = (.ok id, s')) :
    s'.view = { s.view with versions := s'.view.versions } ∧ s'.world = s.world := by
  rcases ensureBpmnVersionSnapshot_run env tenantId identifier bpmnXml occurredAt s with ⟨_, hrun, -⟩ | ⟨_, row, hrun, -⟩
  all_goals
    rw [hrun] at h
    obtain rfl := (Prod.mk.inj h).2
    exact ⟨rfl, rfl⟩

/-- After its definition is stored, an import that can be scheduled raises no
`ValidationError`, and one that cannot has kept the version and the first jobs. -/
theorem finishImport_run {id : Nat} {d : BpmnProcessDefinition} {r : Except Error Nat} (hfound : s.view.definition? id = some d)
    (h : (finishImport env tenantId args c id).run s = (r, s')) :
    (Schedulable env d s.world → ∀ e, r = .error e → e.isValidation = false) ∧
    (¬ Schedulable env d s.world → ∃ e s₁ version, r = .error e ∧ e.isValidation = true ∧
      (ensureBpmnVersionSnapshot env tenantId args.bpmnIdentifier args.sourceBpmnXml (args.timestamp env s.world)).run s =
        (.ok version, s₁) ∧
      s'.view = { s₁.view with schedulerJobs := (putStartJobs id tenantId (args.timestamp env s.world)
        (scheduledStarts env d s.world) s₁.jobs).2 }) := by
  unfold finishImport at h
  rw [resolveTimestamp, Prog.gets_bind_run] at h
  obtain ⟨version, s₁, hversion⟩ : ∃ version s₁, (ensureBpmnVersionSnapshot env tenantId args.bpmnIdentifier args.sourceBpmnXml
      (args.timestamp env s.world)).run s = (.ok version, s₁) := by
    rcases ensureBpmnVersionSnapshot_run env tenantId args.bpmnIdentifier args.sourceBpmnXml (args.timestamp env s.world) s
      with ⟨_, hrun, -⟩ | ⟨_, _, hrun, -⟩
    · exact ⟨_, _, hrun⟩
    · exact ⟨_, _, hrun⟩
  obtain ⟨hview, hworld⟩ := ensureBpmnVersionSnapshot_aside_definitions hversion
  have hfound₁ : s₁.view.definition? id = some d := by rw [hview]; exact hfound
  obtain ⟨hgood, hbad⟩ := syncTimerStartSchedulerJobs_run env tenantId (args.timestamp env s.world) hfound₁
  rw [hworld] at hgood hbad
  unfold ImportArgs.timestamp at *
  rw [Prog.bind_run_ok hversion] at h
  refine ⟨fun hs e he => ?_, fun hs => ?_⟩
  · rcases hgood hs with ⟨s₂, hsync⟩ | ⟨e', s₂, he', hsync⟩
    · rw [Prog.bind_run_ok hsync] at h
      obtain ⟨_, s₃, henroll, -⟩ := enrollDefinitionLaneOwners_total env tenantId c.effective s₂ trivial
      rw [Prog.bind_run_ok henroll, Prog.pure_run, he] at h
      simp at h
    · rw [Prog.bind_run_error hsync, he] at h
      obtain rfl := Except.error.inj (Prod.mk.inj h).1
      exact he'
  · obtain ⟨e, world, he, hsync⟩ := hbad hs
    rw [Prog.bind_run_error hsync] at h
    obtain ⟨rfl, rfl⟩ := Prod.mk.inj h
    exact ⟨e, s₁, version, rfl, he, hversion, rfl⟩

/-- What an unschedulable import has written is nothing new exactly when it
repeats what is stored. -/
theorem nothingStored_iff_repeats {s₁ : Tx Ω} {version : Nat} (hids : s.view.DefinitionIds s.seq)
    (hexisting : ∀ d, c.existing = some d → d ∈ s.view.definitions)
    (hversion : (ensureBpmnVersionSnapshot env tenantId args.bpmnIdentifier args.sourceBpmnXml (args.timestamp env s.world)).run
      (c.stored tenantId args s) = (.ok version, s₁))
    (hview : s'.view = { s₁.view with schedulerJobs := (putStartJobs (c.id s.seq) tenantId (args.timestamp env s.world)
      (scheduledStarts env (c.row tenantId args s.seq) s.world) s₁.jobs).2 }) :
    NothingStored s s' ↔ c.Repeats env tenantId args s := by
  rcases ensureBpmnVersionSnapshot_run env tenantId args.bpmnIdentifier args.sourceBpmnXml (args.timestamp env s.world)
    (c.stored tenantId args s) with ⟨_, hrun, hsome⟩ | ⟨_, row, hrun, hnone⟩
  · rw [hrun] at hversion
    obtain rfl := (Prod.mk.inj hversion).2
    have hrow := c.definitions_eq_iff tenantId args s.seq hids hexisting
    -- a row that is stored already takes no id, so that the jobs are written over the same state
    have hjobs : ∀ d, c.existing = some d → (c.stored tenantId args s).jobs = s.jobs := by
      intro d hd
      simp [CheckedImport.stored, Tx.jobs, hd]
    constructor
    · intro h
      obtain ⟨d, hd, hover⟩ := hrow.1 (by simpa [hview, CheckedImport.stored] using h.definitions)
      refine ⟨⟨d, hd, hover⟩, hsome, ?_⟩
      simpa [hview, hjobs d hd] using h.schedulerJobs
    · rintro ⟨⟨d, hd, hover⟩, -, hsame⟩
      rw [← hjobs d hd] at hsame
      constructor <;> rw [hview]
      · exact hrow.2 ⟨d, hd, hover⟩
      · rfl
      · exact hsame
      · rfl
      · rfl
  · rw [hrun] at hversion
    obtain rfl := (Prod.mk.inj hversion).2
    refine iff_of_false (fun h => ?_) fun h => ?_
    · simpa [hview, CheckedImport.stored] using h.versions
    · have hstored : s.view.version? tenantId args.bpmnIdentifier (env.sha256 args.sourceBpmnXml) = none := hnone
      simpa [hstored] using h.version

/-- An import that raises a `ValidationError` has stored nothing exactly when,
its checks passed, its timer start events can be scheduled, or when it only
stores again what is stored. -/
theorem import_all_or_nothing_iff {r : Except Error Nat} (hids : s.view.DefinitionIds s.seq)
    (h : (importBpmnProcessDefinition env tenantId userId args).run s = (r, s')) :
    (∀ e, r = .error e → e.isValidation = true → NothingStored s s') ↔
      ∀ c, (importChecks env tenantId userId args).run s = (.ok c, s) →
        Schedulable env (c.row tenantId args s.seq) s.world ∨ c.Repeats env tenantId args s := by
  rcases importBpmnProcessDefinition_cases h with ⟨e, hrefused, -, rfl⟩ | ⟨c, hchecks, hfinish⟩
  · refine iff_of_true (fun _ _ _ => ⟨rfl, rfl, rfl, rfl, rfl⟩) fun c hc => ?_
    simp [hrefused] at hc
  have hexisting : ∀ d, c.existing = some d → d ∈ s.view.definitions := by
    intro d hd
    rw [(importChecks_ok hchecks).2] at hd
    exact List.mem_of_find?_eq_some hd
  have hfound : (c.stored tenantId args s).view.definition? (c.id s.seq) = some (c.row tenantId args s.seq) :=
    c.find?_definitions hids hexisting
  obtain ⟨hgood, hbad⟩ := finishImport_run hfound hfinish
  have hc : (∀ c', (importChecks env tenantId userId args).run s = (.ok c', s) →
      Schedulable env (c'.row tenantId args s.seq) s.world ∨ c'.Repeats env tenantId args s) ↔
      Schedulable env (c.row tenantId args s.seq) s.world ∨ c.Repeats env tenantId args s := by
    simp [hchecks]
  rw [hc]
  by_cases hs : Schedulable env (c.row tenantId args s.seq) s.world
  · refine iff_of_true (fun e he hvalidation => ?_) (.inl hs)
    rw [hgood hs e he] at hvalidation
    cases hvalidation
  · obtain ⟨e, s₁, version, rfl, he, hversion, hview⟩ := hbad hs
    rw [or_iff_right hs, ← nothingStored_iff_repeats hids hexisting hversion hview]
    exact ⟨fun hnothing => hnothing e rfl he, fun hnothing _ _ _ => hnothing⟩

end

namespace Sample

/-- The sample's engine on a source with a timer start event and a call activity
of a process outside it. -/
def callingEnv : Env Review Bool :=
  { env with
    containsTimerStartEvent := fun _ => .ok true
    buildWorkflow := fun r up => (if r.resolver then .ok ⟨0, .ready, .ready, .completed, .completed⟩
      else .error (.callActivityResolution "Call activity references 'sub', but no call_activity_resolver was supplied"), up) }

/-- A session on what that import has stored, committed though it raised. -/
def importedOnce : Tx Bool :=
  let s := ((importBpmnProcessDefinition callingEnv "t" 1 (importX "e")).run importer).2
  .begin s.seq s.commit false

end Sample

/-- Imported once more, the definition is refused once more, and nothing new is
stored. -/
theorem import_all_or_nothing_iff_again :
    ((importBpmnProcessDefinition Sample.callingEnv "t" 1 (Sample.importX "e")).run Sample.importedOnce).1 =
      .error (.callActivityResolution "Call activity references 'sub', but no call_activity_resolver was supplied") ∧
    NothingStored Sample.importedOnce
      ((importBpmnProcessDefinition Sample.callingEnv "t" 1 (Sample.importX "e")).run Sample.importedOnce).2 := by
  have hraised : ((importBpmnProcessDefinition Sample.callingEnv "t" 1 (Sample.importX "e")).run Sample.importedOnce).1 =
      .error (.callActivityResolution "Call activity references 'sub', but no call_activity_resolver was supplied") := rfl
  rcases hrun : (importBpmnProcessDefinition Sample.callingEnv "t" 1 (Sample.importX "e")).run Sample.importedOnce with ⟨r, s'⟩
  rw [hrun] at hraised
  have hids : Sample.importedOnce.view.DefinitionIds Sample.importedOnce.seq := ⟨by decide, by decide⟩
  refine ⟨hraised, (import_all_or_nothing_iff hids hrun).2 (fun c hc => .inr ?_) _ hraised rfl⟩
  obtain ⟨c₀, hchecks, hrepeats⟩ : ∃ c₀, (importChecks Sample.callingEnv "t" 1 (Sample.importX "e")).run Sample.importedOnce =
      (.ok c₀, Sample.importedOnce) ∧ c₀.Repeats Sample.callingEnv "t" (Sample.importX "e") Sample.importedOnce :=
    ⟨_, rfl, ⟨_, rfl, rfl⟩, rfl, rfl⟩
  obtain rfl := Except.ok.inj (Prod.mk.inj (hchecks.symm.trans hc)).1
  exact hrepeats

/-- An import that cannot resolve a call activity raises a
`CallActivityResolutionError` and leaves its definition in the session. -/
theorem unresolved_import_stays_stored :
    ∃ e, ((importBpmnProcessDefinition Sample.callingEnv "t" 1 (Sample.importX "e")).run Sample.importer).1 = .error e ∧
      e.isValidation = true ∧ ¬ NothingStored Sample.importer
        ((importBpmnProcessDefinition Sample.callingEnv "t" 1 (Sample.importX "e")).run Sample.importer).2 := by
  refine ⟨_, rfl, rfl, fun h => ?_⟩
  have hlength := congrArg List.length h.definitions
  revert hlength
  decide

end M8flowCore
