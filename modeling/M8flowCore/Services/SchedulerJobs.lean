import Mathlib.Data.List.Sort
import M8flowCore.Engine
/-!
# Scheduler jobs

Jobs are kept by tenant and key. An upsert always leaves the job unlocked.
-/
open M8flowCore.Lib M8flowCore.Session

namespace M8flowCore

/-- `build_scheduler_job_key`. -/
def buildSchedulerJobKey (jobType : SchedulerJobType) (processInstanceId bpmnProcessDefinitionId : Option Nat)
    (qualifier : Option String) : Except Error String :=
  let parts := [jobType.value] ++ (processInstanceId.map fun id => s!"pi:{id}").toList ++
    (bpmnProcessDefinitionId.map fun id => s!"pd:{id}").toList
  match qualifier.map strip with
  | some "" => .error (.validation "Scheduler job qualifier cannot be blank")
  | some q => .ok (joinWith "|" (parts ++ ["q:" ++ q]))
  | none =>
    if parts.length == 1 then .error (.validation
      "Scheduler job key requires a process instance, process definition, or non-blank qualifier")
    else .ok (joinWith "|" parts)

/-- The key of an instance's own job of a type. -/
def instanceJobKey (jobType : SchedulerJobType) (processInstanceId : Nat) : String :=
  joinWith "|" [jobType.value, s!"pi:{processInstanceId}"]

theorem buildSchedulerJobKey_instance (jobType : SchedulerJobType) (processInstanceId : Nat) :
    buildSchedulerJobKey jobType (some processInstanceId) none none =
      .ok (instanceJobKey jobType processInstanceId) := by
  simp [buildSchedulerJobKey, instanceJobKey]

theorem instanceJobKey_injective {jobType jobType' : SchedulerJobType} {i i' : Nat}
    (h : instanceJobKey jobType i = instanceJobKey jobType' i') : jobType = jobType' ∧ i = i' := by
  have htype : jobType = jobType' := by
    have hchars := congrArg String.toList h
    cases jobType <;> cases jobType' <;> simp [instanceJobKey, joinWith, SchedulerJobType.value] at hchars ⊢
  subst htype
  refine ⟨rfl, ?_⟩
  simp only [instanceJobKey, joinWith, String.append_assoc] at h
  have hrepr : i.repr = i'.repr := by simpa using h
  have hdigits : Nat.toDigits 10 i = Nat.toDigits 10 i' := by simpa [Nat.repr] using congrArg String.toList hrepr
  rw [← Nat.ofDigitChars_ten_toDigits (n := i), hdigits, Nat.ofDigitChars_ten_toDigits]

/-- `_resolve_timestamp`. -/
def resolveTimestamp {W Ω : Type} (env : Env W Ω) (timestamp : Option Time) : M Ω Time :=
  Prog.gets fun s => timestamp.getD (env.now s.world)

section
variable {Ω : Type}

/-- The job of a tenant under a key. -/
def Db.schedulerJob? (db : Db) (tenantId : TenantId) (jobKey : String) : Option SchedulerJob :=
  db.schedulerJobs.find? fun j => j.m8fTenantId == tenantId && j.jobKey == jobKey

/-- What `upsert_scheduler_job` is given for a job. -/
structure JobValues where
  jobType : SchedulerJobType
  runAt : Time
  processInstanceId : Option Nat
  bpmnProcessDefinitionId : Option Nat
  payloadJson : Dict

/-- `upsert_scheduler_job`. -/
def upsertSchedulerJob (tenantId : TenantId) (jobKey : String) (v : JobValues) (occurredAt : Time)
    (createdAt : Option Time) : M Ω Unit := do
  match ← query (·.schedulerJob? tenantId jobKey) with
  | none =>
    let _ ← insert fun id db =>
      { db with
        schedulerJobs := db.schedulerJobs ++
          [{ id := id, m8fTenantId := tenantId, jobKey := jobKey, jobType := v.jobType,
             processInstanceId := v.processInstanceId, bpmnProcessDefinitionId := v.bpmnProcessDefinitionId,
             lockedBy := none, lockedAt := none, runAt := v.runAt, payloadJson := v.payloadJson,
             updatedAt := occurredAt, createdAt := createdAt.getD occurredAt }] }
    pure ()
  | some _ =>
    write fun db =>
      { db with
        schedulerJobs := updateWhere (fun j => j.m8fTenantId == tenantId && j.jobKey == jobKey)
          (fun j => { j with
            jobType := v.jobType, processInstanceId := v.processInstanceId,
            bpmnProcessDefinitionId := v.bpmnProcessDefinitionId, lockedBy := none, lockedAt := none,
            runAt := v.runAt, payloadJson := v.payloadJson, updatedAt := occurredAt,
            createdAt := createdAt.getD j.createdAt })
          db.schedulerJobs }

/-- `delete_scheduler_job`. -/
def deleteSchedulerJob (tenantId : TenantId) (jobKey : String) : M Ω Unit :=
  write fun db =>
    { db with schedulerJobs := db.schedulerJobs.filter fun j => !(j.m8fTenantId == tenantId && j.jobKey == jobKey) }

/-- `(run_at, id)` order. -/
def SchedulerJob.before (a b : SchedulerJob) : Prop := a.runAt < b.runAt ∨ (a.runAt = b.runAt ∧ a.id ≤ b.id)

instance : DecidableRel SchedulerJob.before := fun _ _ => inferInstanceAs (Decidable (_ ∨ _))

/-- The unlocked jobs due at `now`, in order, at most `limit` of them. -/
def dueSchedulerJobs (db : Db) (now : Time) (limit : Nat) (tenantId : Option TenantId) : List SchedulerJob :=
  ((db.schedulerJobs.filter fun j => j.lockedBy.isNone && decide (j.runAt ≤ now) &&
    tenantId.all (· == j.m8fTenantId)).insertionSort SchedulerJob.before).take limit

/-- `list_due_scheduler_jobs`. -/
def listDueSchedulerJobs (now : Time) (limit : Int) (tenantId : Option TenantId) : M Ω (List SchedulerJob) :=
  if limit ≤ 0 then Prog.raise (.validation "Scheduler job limit must be greater than zero")
  else query fun db => dueSchedulerJobs db now limit.toNat tenantId

end
end M8flowCore
