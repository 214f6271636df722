import Std.Data.String.ToInt
import M8flowCore.JobMoves
import M8flowCore.Lib.Segments
import M8flowCore.Sample
import M8flowCore.Strings
/-!
# Keys of scheduler jobs

A key is made of the type of a job and of what the job is about, each part
opened by a bar and a tag. Neither a type nor a number holds a bar, and the
qualifier comes last, so that a key says what it was built from.
-/
open M8flowCore.Lib M8flowCore.Session

namespace M8flowCore

/-- `SchedulerJobType(job_type)`. -/
def SchedulerJobType.ofText (text : String) : Except Error SchedulerJobType :=
  match [SchedulerJobType.intermediateTimer, .processRetry, .timerStart].find? (·.value == text) with
  | some jobType => .ok jobType
  | none => .error (.other "ValueError" (pyRepr text ++ " is not a valid SchedulerJobType"))

/-- The arguments of `build_scheduler_job_key`. -/
structure JobKeyArgs where
  jobType : String
  processInstanceId : Option Int
  bpmnProcessDefinitionId : Option Int
  qualifier : Option String
  deriving DecidableEq

/-- `build_scheduler_job_key`, for any integers and any text. -/
def JobKeyArgs.build (a : JobKeyArgs) : Except Error String :=
  match SchedulerJobType.ofText a.jobType with
  | .error e => .error e
  | .ok jobType =>
    let parts := [jobType.value] ++ (a.processInstanceId.map fun id => s!"pi:{id}").toList ++
      (a.bpmnProcessDefinitionId.map fun id => s!"pd:{id}").toList
    match a.qualifier.map strip with
    | some "" => .error (.validation "Scheduler job qualifier cannot be blank")
    | some q => .ok (joinWith "|" (parts ++ ["q:" ++ q]))
    | none =>
      if parts.length == 1 then .error (.validation
        "Scheduler job key requires a process instance, process definition, or non-blank qualifier")
      else .ok (joinWith "|" parts)

/-- The arguments with the qualifier trimmed. -/
def JobKeyArgs.trimmed (a : JobKeyArgs) : JobKeyArgs := { a with qualifier := a.qualifier.map strip }

theorem SchedulerJobType.ofText_value (jobType : SchedulerJobType) : ofText jobType.value = .ok jobType := by
  cases jobType <;> rfl

theorem SchedulerJobType.ofText_ok {text : String} {jobType : SchedulerJobType} (h : ofText text = .ok jobType) :
    jobType.value = text := by
  unfold ofText at h
  split at h
  · rename_i found hfound
    cases h
    simpa using List.find?_some hfound
  · cases h

/-- The keys of the rows are keys of this kind. -/
theorem buildSchedulerJobKey_build (jobType : SchedulerJobType) (processInstanceId bpmnProcessDefinitionId : Option Nat)
    (qualifier : Option String) :
    buildSchedulerJobKey jobType processInstanceId bpmnProcessDefinitionId qualifier =
      JobKeyArgs.build ⟨jobType.value, processInstanceId.map Int.ofNat, bpmnProcessDefinitionId.map Int.ofNat, qualifier⟩ := by
  unfold buildSchedulerJobKey JobKeyArgs.build
  rw [SchedulerJobType.ofText_value]
  cases processInstanceId <;> cases bpmnProcessDefinitionId <;> rfl

/-! ## Reading a key -/

/-- Joined parts, the first apart. -/
theorem toList_joinWith (sep part : String) (parts : List String) :
    (joinWith sep (part :: parts)).toList = part.toList ++ parts.flatMap fun p => sep.toList ++ p.toList := by
  induction parts generalizing part with
  | nil => simp [joinWith]
  | cons q parts ih => simp [joinWith, ih]

/-- An optional part of a key. -/
def keySegment (tag : String) (part : Option String) : List Char := segment '|' tag.toList (part.map String.toList)

theorem keySegment_eq (tag : String) (part : Option String) :
    ((part.map fun p => tag ++ p).toList.flatMap fun p => "|".toList ++ p.toList) = keySegment tag part := by
  cases part <;> simp [keySegment]

/-- The text of a key, by its parts. -/
def JobKeyArgs.text (a : JobKeyArgs) : List Char :=
  a.jobType.toList ++ (keySegment "pi:" (a.processInstanceId.map Int.repr) ++
    (keySegment "pd:" (a.bpmnProcessDefinitionId.map Int.repr) ++ keySegment "q:" (a.qualifier.map strip)))

/-- A key that is built is the text of its arguments. -/
theorem JobKeyArgs.toList_build {a : JobKeyArgs} {key : String} (h : a.build = .ok key) :
    key.toList = a.text ∧ ∃ jobType : SchedulerJobType, jobType.value = a.jobType := by
  unfold build at h
  cases htype : SchedulerJobType.ofText a.jobType with
  | error e =>
    rw [htype] at h
    cases h
  | ok jobType =>
    rw [htype] at h
    dsimp only at h
    have hvalue := SchedulerJobType.ofText_ok htype
    refine ⟨?_, jobType, hvalue⟩
    have hpart : ∀ (tag : String) (part : Option Int),
        (part.map fun id => toString tag ++ toString id) = (part.map Int.repr).map fun p => tag ++ p := by
      intro tag part
      cases part <;> rfl
    rw [hpart, hpart] at h
    unfold text
    rw [← hvalue]
    split at h
    · cases h
    · rename_i q hq
      cases h
      rw [hq, ← keySegment_eq "pi:", ← keySegment_eq "pd:", ← keySegment_eq "q:"]
      simp only [List.cons_append, toList_joinWith, List.flatMap_append, List.append_assoc]
      simp
    · rename_i hq
      split at h
      · cases h
      · cases h
        rw [hq, ← keySegment_eq "pi:", ← keySegment_eq "pd:"]
        simp only [List.cons_append, toList_joinWith, List.flatMap_append, List.append_assoc]
        simp [keySegment]

theorem bar_not_mem_value (jobType : SchedulerJobType) : '|' ∉ jobType.value.toList := by
  cases jobType <;> decide

theorem bar_not_mem_repr (i : Int) : '|' ∉ i.repr.toList := by
  have hnat : ∀ n : Nat, '|' ∉ n.repr.toList := by
    intro n h
    have hdigit := Nat.isDigit_of_mem_toDigits (b := 10) (by omega) (by omega) (by simpa [Nat.repr] using h)
    revert hdigit
    decide
  rw [Int.repr_eq_if]
  split
  · exact hnat _
  · rw [String.toList_append, List.mem_append, not_or]
    exact ⟨by decide, hnat _⟩

theorem bar_not_mem_id {id : Option Int} : ∀ l ∈ (id.map Int.repr).map String.toList, '|' ∉ l := by
  cases id with
  | none => simp
  | some i => simpa using bar_not_mem_repr i

theorem repr_segment_inj {x y : Option Int}
    (h : (x.map Int.repr).map String.toList = (y.map Int.repr).map String.toList) : x = y :=
  Option.map_injective (fun _ _ => Int.repr_injective) (Option.map_injective (fun _ _ => String.toList_inj.1) h)

theorem stops_keySegment (tag : String) (part : Option String) : Stops '|' (keySegment tag part) := by
  cases part with
  | none => exact stops_nil
  | some p => exact stops_cons

/-- The text tells the arguments, up to blanks around the qualifier. -/
theorem JobKeyArgs.text_inj {a b : JobKeyArgs} (ha : '|' ∉ a.jobType.toList) (hb : '|' ∉ b.jobType.toList)
    (h : a.text = b.text) : a.trimmed = b.trimmed := by
  have hqualifier : ∀ part, Other '|' "pd:".toList (keySegment "q:" part) := fun part => by
    simpa [keySegment] using other_segment (by simp) (part.map String.toList) (other_nil (c := '|'))
  have hlater : ∀ part part', Other '|' "pi:".toList (keySegment "pd:" part ++ keySegment "q:" part') := fun part part' =>
    other_segment (by simp) _ (by simpa [keySegment] using other_segment (by simp) (part'.map String.toList) (other_nil (c := '|')))
  have hstops : ∀ part part', Stops '|' (keySegment "pd:" part ++ keySegment "q:" part') := fun part part' =>
    stops_segment _ (stops_keySegment _ _)
  -- the parts are read from left to right
  obtain ⟨htype, h⟩ := append_inj_of_stops ha hb (stops_segment _ (hstops _ _)) (stops_segment _ (hstops _ _)) h
  obtain ⟨hpi, h⟩ := segment_append_inj bar_not_mem_id bar_not_mem_id (hstops _ _) (hstops _ _) (hlater _ _) (hlater _ _) h
  obtain ⟨hpd, h⟩ := segment_append_inj bar_not_mem_id bar_not_mem_id (stops_keySegment _ _) (stops_keySegment _ _)
    (hqualifier _) (hqualifier _) h
  have hq := Option.map_injective (fun _ _ => String.toList_inj.1) (segment_inj h)
  unfold trimmed
  obtain ⟨aType, aInstance, aDefinition, aQualifier⟩ := a
  obtain ⟨bType, bInstance, bDefinition, bQualifier⟩ := b
  simp only [JobKeyArgs.mk.injEq]
  exact ⟨String.toList_inj.1 htype, repr_segment_inj hpi, repr_segment_inj hpd, hq⟩

/-- Two keys that are the same were built from the same arguments. -/
theorem JobKeyArgs.build_inj {a b : JobKeyArgs} {key : String} (ha : a.build = .ok key) (hb : b.build = .ok key) :
    a.trimmed = b.trimmed := by
  obtain ⟨hakey, jobType, hatype⟩ := toList_build ha
  obtain ⟨hbkey, jobType', hbtype⟩ := toList_build hb
  refine text_inj ?_ ?_ (hakey.symm.trans hbkey)
  · rw [← hatype]
    exact bar_not_mem_value jobType
  · rw [← hbtype]
    exact bar_not_mem_value jobType'

/-! ## Calls by key -/

/-- A call that writes the job of a tenant under the key of its arguments, or
takes it out. -/
inductive JobCall where
  | upsert (tenantId : TenantId) (args : JobKeyArgs) (values : JobValues) (occurredAt : Time) (createdAt : Option Time)
  | delete (tenantId : TenantId) (args : JobKeyArgs)

namespace JobCall

def tenantId : JobCall → TenantId
  | upsert tenantId .. | delete tenantId _ => tenantId

def args : JobCall → JobKeyArgs
  | upsert _ args .. | delete _ args => args

section
variable {Ω : Type}

/-- The key is built first; arguments that make none are refused. -/
def run : JobCall → M Ω Unit
  | upsert tenantId args values occurredAt createdAt => do
    let jobKey ← ofExcept args.build
    upsertSchedulerJob tenantId jobKey values occurredAt createdAt
  | delete tenantId args => do
    let jobKey ← ofExcept args.build
    deleteSchedulerJob tenantId jobKey

/-- The session after some calls, each made whether or not the one before was
refused. -/
def runAll (calls : List JobCall) (s : Tx Ω) : Tx Ω := calls.foldl (fun s call => (call.run.run s).2) s

/-- One call leaves every job that other arguments name. -/
theorem run_kept (call : JobCall) {a : JobKeyArgs} {job : SchedulerJob} (hjob : a.build = .ok job.jobKey)
    (hother : call.tenantId = job.m8fTenantId → call.args.trimmed ≠ a.trimmed) (s : Tx Ω) :
    job ∈ (call.run.run s).2.view.schedulerJobs ↔ job ∈ s.view.schedulerJobs := by
  have hname : ∀ {jobKey}, call.args.build = .ok jobKey → job.name ≠ (call.tenantId, jobKey) := by
    intro jobKey hbuild heq
    obtain ⟨htenant, rfl⟩ := Prod.mk.inj heq
    exact hother htenant.symm (JobKeyArgs.build_inj hbuild hjob)
  cases call with
  | upsert tenantId args values occurredAt createdAt =>
    unfold run
    dsimp only
    cases hbuild : args.build with
    | error e => rfl
    | ok jobKey =>
      exact (upsertSchedulerJob_moved (K := fun job => job.name = (tenantId, jobKey)) (fun _ => id) values occurredAt createdAt
        s).mem (hname hbuild)
  | delete tenantId args =>
    unfold run
    dsimp only
    cases hbuild : args.build with
    | error e => rfl
    | ok jobKey =>
      exact (deleteSchedulerJob_moved (K := fun job => job.name = (tenantId, jobKey)) (fun _ => id) s).mem (hname hbuild)

end
end JobCall

/-- Keys never collide: the arguments of a key are known up to blanks around the
qualifier, and whatever calls are made by tenant and key, the job of another
tenant or of other arguments stays what it was. -/
theorem job_keys_apart :
    (∀ (a b : JobKeyArgs) (key : String), a.build = .ok key → b.build = .ok key → a.trimmed = b.trimmed) ∧
    ∀ {Ω : Type} (calls : List JobCall) (s : Tx Ω) (a : JobKeyArgs) (job : SchedulerJob), a.build = .ok job.jobKey →
      (∀ call ∈ calls, call.tenantId = job.m8fTenantId → call.args.trimmed ≠ a.trimmed) →
      (job ∈ (JobCall.runAll calls s).view.schedulerJobs ↔ job ∈ s.view.schedulerJobs) := by
  refine ⟨fun a b key => JobKeyArgs.build_inj, fun {Ω} calls s a job hjob hother => ?_⟩
  induction calls generalizing s with
  | nil => rfl
  | cons call calls ih =>
    refine (ih _ fun call' hmem => hother call' (by simp [hmem])).trans ?_
    exact call.run_kept hjob (hother call (by simp)) s

namespace Sample

/-- A timer whose name reads like parts of a key, next to the timer `A` of the
same definition and the job of an instance. -/
def oddTimer : JobKeyArgs := ⟨"timer_start", none, some 2, some " A|pi:1 "⟩

def oddJob : SchedulerJob :=
  { id := 1, m8fTenantId := "acme", jobKey := "timer_start|pd:2|q:A|pi:1", jobType := .timerStart, processInstanceId := none,
    bpmnProcessDefinitionId := some 2, lockedBy := none, lockedAt := none, runAt := 5, payloadJson := [], updatedAt := 0,
    createdAt := 0 }

end Sample

open Sample in
theorem job_keys_apart_odd_timer :
    oddTimer.trimmed = JobKeyArgs.trimmed ⟨"timer_start", none, some 2, some "A|pi:1"⟩ ∧
    oddJob ∈ (JobCall.runAll
      [.delete "acme" ⟨"timer_start", none, some 2, some "A"⟩, .delete "acme" ⟨"timer_start", some 1, some 2, some "A"⟩,
        .upsert "acme" ⟨"process_retry", some 1, none, none⟩ ⟨.processRetry, 7, some 1, none, []⟩ 1 none]
      (Tx.begin 2 { db₀ with schedulerJobs := [oddJob] } ())).view.schedulerJobs := by
  refine ⟨job_keys_apart.1 _ _ "timer_start|pd:2|q:A|pi:1" (by decide +kernel) (by decide +kernel), ?_⟩
  refine (job_keys_apart.2 _ _ oddTimer oddJob (by decide +kernel) ?_).2 (by simp [Tx.begin])
  decide +kernel

end M8flowCore
