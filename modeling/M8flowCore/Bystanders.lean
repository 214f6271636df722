import M8flowCore.Tales
import M8flowCore.History
import M8flowCore.JobTable
/-!
# Runs of operations

What holds of the stored rows in every run of a host: they are in order
(`Sorted`), an operation leaves the instances it is not about as they are, and
the snapshot of an instance is the one stored last.
-/
open M8flowCore.Lib M8flowCore.Session

namespace M8flowCore

/-! ## Stores in order -/

/-- A store in which no process has been started. Users, groups, definitions and
permissions may be there. -/
structure Store.Unused (st : Store) : Prop where
  bpmnProcesses : st.db.bpmnProcesses = []
  jsonData : st.db.jsonData = []
  processInstances : st.db.processInstances = []
  tasks : st.db.tasks = []
  workItems : st.db.workItems = []
  schedulerJobs : st.db.schedulerJobs = []

section
variable {W Ω : Type}

/-- The rows of the store are in order, and every snapshot was taken of a
workflow with the tasks of its instance. -/
structure Sorted (env : Env W Ω) (owner : Guid → Nat) (st : Store) : Prop where
  kept : Kept env owner st.seq st.db
  jobs : JobKeys st.seq st.db.schedulerJobs
  taken : ∀ i text, st.db.stateOf i = some text → ∃ w, env.serializeJson w = .ok text ∧ env.TasksOf owner i w

variable {env : Env W Ω} {owner : Guid → Nat} {I : Nat → Prop} {st st₀ : Store} {ops : List Operation} {op : Operation}
  {s s₀ : Tx Ω} {texts own durable : List (Nat × String)} {i j : Nat}

theorem Store.Unused.sorted (h : st.Unused) : Sorted env owner st := by
  have hinstances : instanceIds [st.db] = [] := by simp [instanceIds, h.processInstances]
  have hprocesses : processIds [st.db] = [] := by simp [processIds, h.bpmnProcesses]
  have hitems : itemIds [st.db] = [] := by simp [itemIds, h.workItems]
  refine ⟨⟨⟨?_, ?_, ?_⟩, by simp [hinstances], by simp [h.schedulerJobs]⟩, ?_, fun i text htext => ?_⟩
  · constructor <;> simp [hinstances, hprocesses, hitems, h.processInstances, h.workItems]
  · constructor <;> simp [h.jsonData, h.bpmnProcesses, h.processInstances]
  · simp [TasksOwned, h.tasks]
  · rw [h.schedulerJobs]
    exact ⟨by simp, by simp, by simp⟩
  · rw [stateOf_none (by simp [Db.processInstance?, h.processInstances])] at htext
    exact absurd htext (by simp)

/-! ## The texts of a story -/

theorem Act.taken (ha : Act env owner I A texts s₀ s) :
    ∀ x ∈ texts, ∃ w, env.serializeJson w = .ok x.2 ∧ env.TasksOf owner x.1 w := by
  cases ha with
  | change => simp
  | lane => simp
  | lock => simp
  | @store _ _ pi w text hI hA hpi hw htext hrun =>
    intro x hx
    obtain rfl := List.mem_singleton.1 hx
    exact ⟨w, htext, hw⟩

theorem Acts.taken (h : Acts env owner I A s₀ texts s) :
    ∀ x ∈ texts, ∃ w, env.serializeJson w = .ok x.2 ∧ env.TasksOf owner x.1 w := by
  induction h with
  | refl => simp
  | snoc _ ha ih => exact fun x hx => (List.mem_append.1 hx).elim (ih x) (ha.taken x)

/-- Whatever a story stores was taken of a workflow of the instance. -/
theorem Story.taken (h : Story env owner I s₀ own durable s) :
    ∀ x ∈ own ++ durable, ∃ w, env.serializeJson w = .ok x.2 ∧ env.TasksOf owner x.1 w := by
  induction h with
  | start => simp
  | act _ ha ih =>
    intro x hx
    simp only [List.mem_append] at hx ih
    rcases hx with (hx | hx) | hx
    · exact ih x (.inl hx)
    · exact ha.taken x hx
    · exact ih x (.inr hx)
  | failed _ _ hacts _ _ ih =>
    intro x hx
    simp only [List.mem_append] at hx ih
    rcases hx with hx | hx | hx
    · exact ih x (.inl hx)
    · exact ih x (.inr hx)
    · exact hacts.taken x hx
  | dropped _ _ ih => exact ih
  | baseline _ _ _ ih => exact ih

/-- Second sessions leave the jobs alone. -/
theorem Story.committed_jobs (henv : env.Engine owner) (h : Story env owner I s₀ own durable s) :
    s.committed.schedulerJobs = s₀.committed.schedulerJobs := by
  induction h with
  | start => rfl
  | act _ ha ih => rw [(ha.committed henv).2, ih]
  | failed _ _ hacts _ _ ih => exact (hacts.beside henv).2.trans ih
  | dropped _ _ ih => exact ih
  | baseline _ _ hacts ih => exact (hacts.beside_of_preparing.beside henv).2.trans ih

/-! ## One call -/

/-- What a call has done when it ends: its session's texts are read back after a
commit, the texts stored beside it after a rollback. -/
structure Done (env : Env W Ω) (owner : Guid → Nat) (op : Operation) (s₀ : Tx Ω) (own durable : List (Nat × String))
    (s : Tx Ω) : Prop where
  story : Story env owner (op.Reaches env s₀) s₀ own durable s
  firm : Firm env owner [] s

section
variable (henv : env.Engine owner) (hkeys : env.AddsNoKeys) (hrooted : op.Rooted) (hst : Sorted env owner st)
include henv hkeys hrooted hst

/-- Every call tells its story, however it ends. One that returns has left
nothing beside its session. -/
theorem Operation.done {world : Ω} {r : Except Error Unit} (h : (op.run env).run (st.session world) = (r, s)) :
    ∃ own durable, Done env owner op (st.session world) own durable s ∧ (r = .ok () → durable = []) := by
  have hfirm : Firm env owner [] (st.session world) := Firm.begin hst.kept world
  have hids : ((st.session world).view.schedulerJobs.map (·.id)).Nodup := hst.jobs.ids
  have hstart : Tale env owner (op.Reaches env (st.session world)) (st.session world) [] (st.session world) :=
    ⟨hfirm, [], .start⟩
  obtain ⟨hok, herror⟩ := Operation.retells henv hids hkeys hrooted hfirm (st.session world) ⟨hstart, rfl⟩
  cases r with
  | ok u =>
    obtain ⟨⟨hfirm', own, hstory⟩, -⟩ := hok u s h
    exact ⟨own, [], ⟨hstory, hfirm'⟩, fun _ => rfl⟩
  | error e =>
    obtain ⟨durable, hfirm', own, hstory⟩ := herror e s h
    exact ⟨own, durable, ⟨hstory, hfirm'⟩, by simp⟩

end

variable {st' : Store}

/-- After a commit the session's texts are read back. -/
theorem Done.stateOf (henv : env.Engine owner) {world : Ω} (h : Done env owner op (st.session world) own [] s)
    (hst : Sorted env owner st) (i : Nat) : s.commit.stateOf i = (heard own i).or (st.db.stateOf i) := by
  have hfirm : Firm env owner [] (st.session world) := Firm.begin hst.kept world
  have hbase : s.base = s.committed := h.story.current henv rfl rfl
  have hview := h.story.stateOf henv rfl hfirm rfl i
  exact (h.firm.untouched_merge henv.lawful (.of_current hbase)).stateOf.trans hview

/-- After a rollback those stored beside it are. -/
theorem Done.stateOf_committed (henv : env.Engine owner) {world : Ω} (h : Done env owner op (st.session world) own durable s)
    (hst : Sorted env owner st) (i : Nat) : s.committed.stateOf i = (heard durable i).or (st.db.stateOf i) :=
  h.story.stateOf_committed henv (Firm.begin hst.kept world) i

/-- The instances a call does not reach are left alone in its session, and in
what is committed, with or without the session's work. -/
theorem Done.untouched (henv : env.Engine owner) {world : Ω} (h : Done env owner op (st.session world) own durable s)
    (hst : Sorted env owner st) (hj : j < st.seq) (hother : ¬ op.Concerns st.db (env.now world) j) :
    Untouched owner j st.db s.view ∧ Untouched owner j st.db s.committed ∧ Untouched owner j st.db s.commit := by
  have hfirm : Firm env owner [] (st.session world) := Firm.begin hst.kept world
  have hreach : ¬ op.Reaches env (st.session world) j := by
    rintro (hconcerns | hnew)
    · exact hother hconcerns
    · exact absurd hj (not_lt.2 hnew)
  obtain ⟨hagrees, hview⟩ := h.story.untouched henv hreach hj hfirm rfl
  exact ⟨hview, h.story.untouched_committed henv hreach hfirm, hview.trans (h.firm.untouched_merge henv.lawful hagrees)⟩

/-- However a call ends, what holds of the snapshots before it and of the texts
it stores holds of the snapshots after it. -/
theorem Done.reads (henv : env.Engine owner) {world : Ω} (h : Done env owner op (st.session world) own durable s)
    (hst : Sorted env owner st) {P : Nat → Option String → Prop} (hstart : ∀ i, P i (st.db.stateOf i))
    (htexts : ∀ x ∈ own ++ durable, P x.1 (some x.2)) (i : Nat) : P i (s.commit.stateOf i) ∧ P i (s.committed.stateOf i) := by
  have hfirm : Firm env owner [] (st.session world) := Firm.begin hst.kept world
  have hhome : Home (st.session world) := .begin _ _ _
  obtain ⟨hview, hcommitted⟩ := h.story.reads henv hfirm hhome (fun i => ⟨hstart i, hstart i⟩) htexts i
  refine ⟨?_, hcommitted⟩
  have hmerged : s.commit.stateOf i = s.view.stateOf i ∨ s.commit.stateOf i = s.committed.stateOf i :=
    h.firm.stateOf_merge_or henv.lawful (h.story.home henv hfirm hhome) i
  rcases hmerged with hsame | hsame
  · exact hsame ▸ hview
  · exact hsame ▸ hcommitted

/-- Every snapshot read back was taken of a workflow of the instance. -/
theorem Done.taken (henv : env.Engine owner) {world : Ω} (h : Done env owner op (st.session world) own durable s)
    (hst : Sorted env owner st) {db : Db} (hdb : db = s.commit ∨ db = s.committed) {text : String} (htext : db.stateOf i = some text) :
    ∃ w, env.serializeJson w = .ok text ∧ env.TasksOf owner i w := by
  have hreads := h.reads henv hst
    (P := fun i state => ∀ text, state = some text → ∃ w, env.serializeJson w = .ok text ∧ env.TasksOf owner i w) hst.taken ?_ i
  · rcases hdb with rfl | rfl
    · exact hreads.1 text htext
    · exact hreads.2 text htext
  · intro x hx text hsome
    obtain rfl := Option.some.inj hsome
    exact h.story.taken x hx

theorem Step.sorted (henv : env.Engine owner) (hkeys : env.AddsNoKeys) (hrooted : op.Rooted) (hst : Sorted env owner st)
    (hstep : Step env op st st') : Sorted env owner st' := by
  cases hstep with
  | @commit world r s h =>
    obtain ⟨own, durable, hdone, -⟩ := Operation.done henv hkeys hrooted hst h
    have hkeyed := op.keys env (st.session world)
    rw [h] at hkeyed
    refine ⟨hdone.firm.commit, ?_, fun i text htext => hdone.taken henv hst (.inl rfl) htext⟩
    have hjobs : s.commit.schedulerJobs = s.view.schedulerJobs := hdone.firm.merged_jobs
    dsimp only
    rw [hjobs]
    exact hkeyed.keyed rfl hst.jobs
  | @rollback world r s h =>
    obtain ⟨own, durable, hdone, -⟩ := Operation.done henv hkeys hrooted hst h
    refine ⟨hdone.firm.rollback, ?_, fun i text htext => hdone.taken henv hst (.inr rfl) htext⟩
    have hjobs : s.committed.schedulerJobs = st.db.schedulerJobs := hdone.story.committed_jobs henv
    have hseq : st.seq ≤ s.seq := hdone.story.seq henv
    dsimp only
    rw [hjobs]
    exact hst.jobs.mono hseq

/-- A snapshot is replaced, never removed. -/
theorem Step.keeps_snapshot (henv : env.Engine owner) (hkeys : env.AddsNoKeys) (hrooted : op.Rooted)
    (hst : Sorted env owner st) (hstep : Step env op st st') (h : (st.db.stateOf i).isSome) : (st'.db.stateOf i).isSome := by
  cases hstep with
  | commit hrun =>
    obtain ⟨own, durable, hdone, -⟩ := Operation.done henv hkeys hrooted hst hrun
    exact (hdone.reads henv hst (P := fun i state => (st.db.stateOf i).isSome → state.isSome) (fun _ h => h) (fun _ _ _ => rfl) i).1 h
  | rollback hrun =>
    obtain ⟨own, durable, hdone, -⟩ := Operation.done henv hkeys hrooted hst hrun
    exact (hdone.reads henv hst (P := fun i state => (st.db.stateOf i).isSome → state.isSome) (fun _ h => h) (fun _ _ _ => rfl) i).2 h

/-! ## Runs -/

theorem Run.sorted (henv : env.Engine owner) (hkeys : env.AddsNoKeys) (hrooted : ∀ op ∈ ops, op.Rooted)
    (hst : Sorted env owner st₀) (hrun : Run env st₀ ops st) : Sorted env owner st := by
  induction hrun with
  | nil => exact hst
  | snoc _ hstep ih =>
    exact hstep.sorted henv hkeys (hrooted _ (by simp)) (ih fun op hop => hrooted op (by simp [hop]))

theorem Run.keeps_snapshot (henv : env.Engine owner) (hkeys : env.AddsNoKeys) (hrooted : ∀ op ∈ ops, op.Rooted)
    (hst : Sorted env owner st₀) (hrun : Run env st₀ ops st) (h : (st₀.db.stateOf i).isSome) : (st.db.stateOf i).isSome := by
  induction hrun with
  | nil => exact h
  | @snoc ops _ _ _ hrun hstep ih =>
    have hbefore : ∀ op ∈ ops, op.Rooted := fun op hop => hrooted op (List.mem_append_left _ hop)
    exact hstep.keeps_snapshot henv hkeys (hrooted _ (by simp)) (hrun.sorted henv hkeys hbefore hst) (ih hbefore)

variable (env) in
/-- The stores a host may come to, when it has the library create the runtime
process of each instance. -/
def Reachable (st : Store) : Prop :=
  ∃ st₀ ops, st₀.Unused ∧ Run env st₀ ops st ∧ ∀ op ∈ ops, op.Rooted

theorem Reachable.sorted (henv : env.Engine owner) (hkeys : env.AddsNoKeys) (h : Reachable env st) : Sorted env owner st := by
  obtain ⟨st₀, ops, hunused, hrun, hrooted⟩ := h
  exact hrun.sorted henv hkeys hrooted hunused.sorted

variable (env) in
/-- What a maintainer can rely on when reading the tables. -/
structure Consistent (owner : Guid → Nat) (db : Db) : Prop where
  instance_ids : (db.processInstances.map (·.id)).Nodup
  /-- Every instance has a runtime process of its tenant, which no other instance has, with its payload. -/
  own_process : ∀ p ∈ db.processInstances, ∃ q process, p.bpmnProcessId = some q ∧ db.bpmnProcess? q = some process ∧
    process.m8fTenantId = p.m8fTenantId ∧ (db.jsonData? process.m8fTenantId process.jsonDataHash).isSome ∧
    ∀ p' ∈ db.processInstances, p'.bpmnProcessId = some q → p' = p
  payload_digest : ∀ r ∈ db.jsonData, r.hash = env.payloadDigest r.data
  task_owner : ∀ t ∈ db.tasks, owner t.guid = t.processInstanceId
  item_ids : (db.workItems.map (·.id)).Nodup
  /-- Every item is for a task of its instance, and no other item is for that task. -/
  item_task : ∀ w ∈ db.workItems, ∃ g, w.taskGuid = some g ∧ owner g = w.processInstanceId ∧
    ∀ w' ∈ db.workItems, w'.taskGuid = some g → w' = w
  item_tenant : ∀ w ∈ db.workItems, ∀ p ∈ db.processInstances, p.id = w.processInstanceId → p.m8fTenantId = w.m8fTenantId
  job_ids : (db.schedulerJobs.map (·.id)).Nodup
  job_names : (db.schedulerJobs.map fun job => (job.m8fTenantId, job.jobKey)).Nodup
  /-- A job starts instances, or it is kept for one under the instance's key. -/
  job_filed : ∀ job ∈ db.schedulerJobs, (job.jobType = .timerStart ∧ ∀ i, ¬ job.isOf i) ∨
    ∃ i, job.jobType ≠ .timerStart ∧ job.jobKey = instanceJobKey job.jobType i ∧ job.processInstanceId = some i

/-- **The rows of every reachable store are consistent.** -/
theorem rows_consistent (henv : env.Engine owner) (hkeys : env.AddsNoKeys) (h : Reachable env st) :
    Consistent env owner st.db := by
  have hst := h.sorted henv hkeys
  have hkeyed := hst.kept.integral.keyed
  have hstored := hst.kept.integral.stored
  have hinstance : ∀ p ∈ st.db.processInstances, p.identity ∈ instanceIds [st.db] := fun p hp =>
    mem_instanceIds.2 ⟨st.db, by simp, p, hp, rfl⟩
  have hitem : ∀ w ∈ st.db.workItems, w.identity ∈ itemIds [st.db] := fun w hw =>
    mem_itemIds.2 ⟨st.db, by simp, w, hw, rfl⟩
  have hinstances : (st.db.processInstances.map (·.id)).Nodup := by
    have hnodup := hkeyed.instances_nodup st.db (by simp)
    rwa [List.map_map] at hnodup
  have hitems : (st.db.workItems.map (·.id)).Nodup := by
    have hnodup := hkeyed.items_nodup st.db (by simp)
    rwa [List.map_map] at hnodup
  refine ⟨hinstances, fun p hp => ?_, fun r hr => (hstored.json_hash st.db (by simp) r hr).1, hst.kept.integral.tasks st.db (by simp), hitems,
    fun w hw => ?_, fun w hw p hp hid => ?_, hst.jobs.ids, hst.jobs.names, hst.kept.filed⟩
  · obtain ⟨q, hq⟩ := Option.isSome_iff_exists.1 (hst.kept.processed _ (hinstance p hp))
    have hq : p.bpmnProcessId = some q := hq
    obtain ⟨process, hprocess⟩ := Option.isSome_iff_exists.1 (hstored.has_process st.db (by simp) p hp q hq)
    have hmem := List.mem_of_find?_eq_some hprocess
    have hqid : process.id = q := by simpa using List.find?_some hprocess
    refine ⟨q, process, hq, hprocess, ?_, hstored.has_json st.db (by simp) process hmem, fun p' hp' hq' => ?_⟩
    · have hx := mem_processIds.2 ⟨st.db, List.mem_singleton_self _, process, hmem, rfl⟩
      exact hkeyed.process_tenant _ hx _ (hinstance p hp) (by rw [ProcessInstance.identity, hq, ← hqid]; rfl)
    · have hone := hkeyed.own_process _ (hinstance p' hp') _ (hinstance p hp) q hq' hq
      exact eq_of_nodup_map hinstances hp' hp (congrArg InstanceIdentity.id hone)
  · obtain ⟨g, hg, hown⟩ := hkeyed.item_guid _ (hitem w hw)
    refine ⟨g, hg, hown, fun w' hw' hg' => ?_⟩
    have hone := hkeyed.item_unique _ (hitem w' hw') _ (hitem w hw) (hg'.trans hg.symm)
    exact eq_of_nodup_map hitems hw' hw (congrArg ItemIdentity.id hone)
  · exact hkeyed.item_tenant _ (hitem w hw) _ (hinstance p hp) hid

/-- **Once an instance has a snapshot it always has one, and one that restores
to a workflow with the tasks of the instance.** -/
theorem snapshots_restore (henv : env.Engine owner) (hkeys : env.AddsNoKeys) (h : Reachable env st₀)
    (hrun : Run env st₀ ops st) (hrooted : ∀ op ∈ ops, op.Rooted) (hstate : (st₀.db.stateOf i).isSome) :
    ∃ text w, st.db.stateOf i = some text ∧ env.deserializeJson text = .ok w ∧ env.TasksOf owner i w := by
  have hst := h.sorted henv hkeys
  obtain ⟨text, htext⟩ := Option.isSome_iff_exists.1 (hrun.keeps_snapshot henv hkeys hrooted hst hstate)
  obtain ⟨w, hw, hown⟩ := (hrun.sorted henv hkeys hrooted hst).taken i text htext
  obtain ⟨w', hw', hcores, -⟩ := henv.lawful.restore hw
  refine ⟨text, w', htext, hw', fun t ht => ?_⟩
  have hcore : t.core ∈ (env.tasks w).map (·.core) := hcores ▸ List.mem_map_of_mem ht
  obtain ⟨t', ht', hsame⟩ := List.mem_map.1 hcore
  have hid : t'.id = t.id := congrArg TaskCore.id hsame
  exact hid ▸ hown t' ht'

/-- **After a call that returns, the snapshot of each instance is the last one
the call has stored for it, or the one that was there; after any call that is
rolled back, it is the last one stored beside the session, or the one that was
there.** -/
theorem last_snapshot_read_back (henv : env.Engine owner) (hkeys : env.AddsNoKeys) (h : Reachable env st) (hrooted : op.Rooted)
    {world : Ω} {r : Except Error Unit} (hrun : (op.run env).run (st.session world) = (r, s)) :
    ∃ own durable, Story env owner (op.Reaches env (st.session world)) (st.session world) own durable s ∧
      (∀ i, s.committed.stateOf i = (heard durable i).or (st.db.stateOf i)) ∧
      (r = .ok () → durable = [] ∧ ∀ i, s.commit.stateOf i = (heard own i).or (st.db.stateOf i)) := by
  have hst := h.sorted henv hkeys
  obtain ⟨own, durable, hdone, hnone⟩ := Operation.done henv hkeys hrooted hst hrun
  refine ⟨own, durable, hdone.story, hdone.stateOf_committed henv hst, fun hr => ?_⟩
  obtain rfl := hnone hr
  exact ⟨rfl, hdone.stateOf henv hst⟩

variable (env) in
/-- A run of which no operation is about instance `j` at the time it is called. -/
inductive Bypasses (j : Nat) (st₀ : Store) : Store → Prop
  | nil : Bypasses j st₀ st₀
  | commit {st : Store} {op : Operation} {world : Ω} {r : Except Error Unit} {s : Tx Ω} (h : Bypasses j st₀ st)
      (hrooted : op.Rooted) (hother : ¬ op.Concerns st.db (env.now world) j)
      (hrun : (op.run env).run (st.session world) = (r, s)) : Bypasses j st₀ ⟨s.seq, s.commit⟩
  | rollback {st : Store} {op : Operation} {world : Ω} {r : Except Error Unit} {s : Tx Ω} (h : Bypasses j st₀ st)
      (hrooted : op.Rooted) (hother : ¬ op.Concerns st.db (env.now world) j)
      (hrun : (op.run env).run (st.session world) = (r, s)) : Bypasses j st₀ ⟨s.seq, s.committed⟩

/-- **What is not about an instance leaves it alone**: its row, its snapshot, its
tasks, its work items and its jobs, whatever else happens and fails. -/
theorem bystanders_untouched (henv : env.Engine owner) (hkeys : env.AddsNoKeys) (h : Reachable env st₀) (hj : j < st₀.seq)
    (hrun : Bypasses env j st₀ st) : Untouched owner j st₀.db st.db := by
  have hst₀ := h.sorted henv hkeys
  have hall : Sorted env owner st ∧ st₀.seq ≤ st.seq ∧ Untouched owner j st₀.db st.db := by
    induction hrun with
    | nil => exact ⟨hst₀, le_refl _, .refl _ _ _⟩
    | commit _ hrooted hother hrun ih =>
      obtain ⟨hst, hseq, hsame⟩ := ih
      obtain ⟨own, durable, hdone, -⟩ := Operation.done henv hkeys hrooted hst hrun
      have hle : _ ≤ _ := hdone.story.seq henv
      exact ⟨Step.sorted henv hkeys hrooted hst (.commit hrun), hseq.trans hle,
        hsame.trans (hdone.untouched henv hst (hj.trans_le hseq) hother).2.2⟩
    | rollback _ hrooted hother hrun ih =>
      obtain ⟨hst, hseq, hsame⟩ := ih
      obtain ⟨own, durable, hdone, -⟩ := Operation.done henv hkeys hrooted hst hrun
      have hle : _ ≤ _ := hdone.story.seq henv
      exact ⟨Step.sorted henv hkeys hrooted hst (.rollback hrun), hseq.trans hle,
        hsame.trans (hdone.untouched henv hst (hj.trans_le hseq) hother).2.1⟩
  exact hall.2.2

end

/-! ## The review engine -/

namespace Sample

/-- The instance a guid was made for: its letter is followed by the id in unary. -/
def owner (g : Guid) : Nat := g.length - 1

theorem length_unary (n : Nat) : (unary n).length = n := by simp [unary]

theorem owner_guid {letter : String} (h : letter.length = 1) (w : Review) : owner (guid letter w) = w.owner := by
  simp [owner, guid, h, length_unary]

theorem tasksOf_iff {i : Nat} {w : Review} : env.TasksOf owner i w ↔ w.owner = i := by
  have htasks : env.tasks w = tasks w := rfl
  constructor
  · intro h
    have hfinance := h (task w "f" "finance" "ManualTask" w.finance true none) (by simp [htasks, tasks])
    rwa [task, owner_guid rfl] at hfinance
  · rintro rfl t ht
    rw [htasks] at ht
    simp only [tasks, List.mem_cons, List.not_mem_nil, or_false] at ht
    rcases ht with rfl | rfl | rfl | rfl <;> exact owner_guid rfl w

theorem guid_ne {a b : String} (h : a ≠ b) (w : Review) : guid a w ≠ guid b w :=
  fun hsame => h ((String.append_left_inj _).1 hsame)

theorem payload_of_task {w : Review} {t : SpiffTask} (ht : t ∈ tasks w) :
    payloadGuid t.payload = some t.id ∧ payloadState t.payload = some t.state := by
  have hguid : ∀ {letter : String} {state : TaskState} {spec : String}, letter ≠ "" →
      payloadGuid (payload (guid letter w) state spec) = some (guid letter w) := by
    intro letter state spec hletter
    have hne : guid letter w ≠ "" := fun h => hletter (String.append_eq_empty_iff.1 h).1
    simp [payloadGuid, payload, Dict.get, PyVal.asStr, hne]
  have hstate : ∀ {letter : String} {state : TaskState} {spec : String},
      payloadState (payload (guid letter w) state spec) = some state := by
    intro letter state spec
    cases state <;> rfl
  simp only [tasks, List.mem_cons, List.not_mem_nil, or_false] at ht
  rcases ht with rfl | rfl | rfl | rfl <;> exact ⟨hguid (by decide), hstate⟩

theorem rows_of_tasks (w : Review) : iterSerializedTaskRows (toDict w) = (tasks w).map fun t => (t.id, none, t.payload) := by
  simp [iterSerializedTaskRows, toDict, iterSerializedSubprocessRows]

theorem env_serializes : env.Serializes where
  task_ids w := by
    simp only [env, tasks, task, List.map_cons, List.map_nil, List.nodup_cons, List.mem_cons, List.not_mem_nil, or_false,
      not_or, not_false_eq_true, List.nodup_nil, and_true]
    exact ⟨⟨guid_ne (by decide) w, guid_ne (by decide) w, guid_ne (by decide) w⟩,
      ⟨guid_ne (by decide) w, guid_ne (by decide) w⟩, guid_ne (by decide) w⟩
  task_payload ht := payload_of_task ht
  task_row := by
    intro w t ht
    have hrows : iterSerializedTaskRows (env.toDict w) = _ := rows_of_tasks w
    rw [hrows]
    exact ⟨_, List.mem_map_of_mem ht, (payload_of_task ht).1⟩
  row_task := by
    intro w r hr
    have hrows : iterSerializedTaskRows (env.toDict w) = _ := rows_of_tasks w
    rw [hrows] at hr
    obtain ⟨t, ht, rfl⟩ := List.mem_map.1 hr
    exact ⟨t, ht, payload_of_task ht⟩

theorem env_separates : env.Separates owner where
  build := by
    intro request ω w ω' i h hi
    simp only [env, Prod.mk.injEq] at h
    cases hsource : processText request.bpmnXml with
    | none => simp [hsource] at h
    | some w₀ =>
      simp only [hsource, Except.ok.injEq] at h
      rw [tasksOf_iff, ← h.1]
      simp [hi]
  updateData _ h := h
  updateTaskTreeData _ h := h
  setTaskData _ _ h := h
  setEventValue _ _ h := h
  complete := by
    intro i w context g ω h
    have hsame : (completeReview w g).2.owner = w.owner := by
      unfold completeReview
      split
      · rfl
      · split <;> rfl
    exact tasksOf_iff.2 (hsame.trans (tasksOf_iff.1 h))
  runAll := by
    intro i w context ω h
    have hsame : (runReview w ω).2.owner = w.owner := by
      unfold runReview
      split
      · split <;> rfl
      · split <;> rfl
    exact tasksOf_iff.2 (hsame.trans (tasksOf_iff.1 h))
  refreshWaitingTasks := by
    intro i w context ω h
    have hsame : (if w.timer = .waiting then { w with timer := .completed } else w).owner = w.owner := by
      split <;> rfl
    exact tasksOf_iff.2 (hsame.trans (tasksOf_iff.1 h))
  resetFromTaskId := by
    intro i w g d h
    have hsame : (resetReview w g).2.owner = w.owner := by
      unfold resetReview
      split <;> rfl
    exact tasksOf_iff.2 (hsame.trans (tasksOf_iff.1 h))

theorem env_engine : env.Engine owner := ⟨env_lawful, env_serializes, env_separates⟩

theorem env_addsNoKeys : env.AddsNoKeys := by
  intro d d' key h hnone
  simp only [env, normalize] at h
  split at h
  · obtain rfl := Except.ok.inj h
    exact hnone
  · simp at h

theorem store_unused : store.Unused := ⟨rfl, rfl, rfl, rfl, rfl, rfl⟩

theorem started_run : CleanRun env store [start] started := .snoc .nil (.after (by decide +kernel))

theorem started_reachable : Reachable env started :=
  ⟨store, [start], store_unused, started_run.run, by simp [start, Operation.Rooted]⟩

/-- Two instances, one of them with a claimed task. -/
def startedTwice : Store := started.after env start true

end Sample

open Sample in
theorem rows_consistent_review : Consistent env owner started.db ∧ started.db.workItems.length = 2 :=
  ⟨rows_consistent env_engine env_addsNoKeys started_reachable, by decide +kernel⟩

open Sample in
theorem snapshots_restore_claimed :
    ∃ text w, financeClaimed.db.stateOf 11 = some text ∧ env.deserializeJson text = .ok w ∧ env.TasksOf owner 11 w :=
  snapshots_restore env_engine env_addsNoKeys started_reachable (.snoc .nil (CleanStep.after (by decide +kernel)).step : Run env started [claim 17] financeClaimed)
    (by simp [claim, Operation.Rooted]) (by decide +kernel)

open Sample in
theorem last_snapshot_read_back_started : ∃ s own, (start.run env).run (store.session true) = (.ok (), s) ∧
    Story env owner (start.Reaches env (store.session true)) (store.session true) own [] s ∧
    ∀ i, s.commit.stateOf i = (heard own i).or (store.db.stateOf i) := by
  have hok : ((start.run env).run (store.session true)).1 = .ok () := by decide +kernel
  rcases hrun : (start.run env).run (store.session true) with ⟨r, s⟩
  rw [hrun] at hok
  obtain rfl : r = .ok () := hok
  obtain ⟨own, durable, hstory, -, hcommit⟩ := last_snapshot_read_back env_engine env_addsNoKeys
    ⟨store, [], store_unused, .nil, by simp⟩ (by simp [start, Operation.Rooted]) hrun
  obtain ⟨rfl, hread⟩ := hcommit rfl
  exact ⟨s, own, rfl, hstory, hread⟩

open Sample in
/-- A second review starts and leaves the first alone. -/
theorem bystanders_untouched_twice : Untouched owner 11 started.db startedTwice.db ∧
    (started.db.workItems.filter (·.processInstanceId == 11)).length = 2 := by
  have hok : ((start.run env).run (started.session true)).1 = .ok () := by decide +kernel
  have hrun : Bypasses env 11 started startedTwice := by
    unfold startedTwice Store.after
    rcases hrun : (start.run env).run (started.session true) with ⟨r, s⟩
    rw [hrun] at hok
    obtain rfl : r = .ok () := hok
    exact .commit .nil (by simp [start, Operation.Rooted]) (by simp [start, Operation.Concerns, Command.Concerns]) hrun
  exact ⟨bystanders_untouched env_engine env_addsNoKeys started_reachable (by decide +kernel) hrun, by decide +kernel⟩

end M8flowCore
