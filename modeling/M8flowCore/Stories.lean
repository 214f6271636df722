import M8flowCore.Isolation
/-!
# The story of a call

What a call does to the database, told in acts. In the caller's session an act
is a change made for one instance, a snapshot stored for one, a lane group set
on one's item or a lock on jobs. Beside the caller's session, a failure is
stored for an instance, or the rows of a new instance are.

Every call tells such a story, however it ends (`Telling`). What a story leaves
alone, and which snapshots are read after it, is shown here once.
-/
open M8flowCore.Lib M8flowCore.Session

namespace M8flowCore

/-! ## Texts -/

/-- The last of the texts stored for instance `i`. -/
def heard (texts : List (Nat × String)) (i : Nat) : Option String := (texts.reverse.find? (·.1 == i)).map (·.2)

theorem heard_append (texts texts' : List (Nat × String)) (i : Nat) :
    heard (texts ++ texts') i = (heard texts' i).or (heard texts i) := by
  unfold heard
  rw [List.reverse_append, List.find?_append]
  cases texts'.reverse.find? (·.1 == i) <;> rfl

/-- The snapshot that is read back for instance `i`. -/
def Db.stateOf (db : Db) (i : Nat) : Option String := (db.processInstance? i).bind db.workflowStateJson

section
variable {W Ω : Type}

/-! ## Acts -/

/-- One act in a session, on instances of `I` and with changes of `A`, and the
texts it stores. -/
inductive Act (env : Env W Ω) (owner : Guid → Nat) (I : Nat → Prop) (A : Touch → Prop) :
    List (Nat × String) → Tx Ω → Tx Ω → Prop
  | change {s s' : Tx Ω} {F : Focus} {l : Touch} (hI : I F.instanceId) (hA : A l)
      (hl : l ≠ .lane ∧ l ≠ .lock ∧ l ≠ .snapshot) (hF : F.Suits owner [l] s) (hc : Change env F l s s') :
      Act env owner I A [] s s'
  | lane (s : Tx Ω) (id : Nat) (groupId : Option Nat) (hA : A .lane)
      (hitem : ∀ w ∈ s.view.workItems, w.id = id → I w.processInstanceId) :
      Act env owner I A [] s { s with view := { s.view with
        workItems := updateWhere (·.id == id) ({ · with laneAssignmentId := groupId }) s.view.workItems } }
  | lock (s : Tx Ω) (p : SchedulerJob → Bool) (f : SchedulerJob → SchedulerJob) (hA : A .lock)
      (hf : ∀ j, (f j).unlocked = j.unlocked)
      (hjob : ∀ job ∈ s.view.schedulerJobs, p job = true → ∀ i, job.isOf i → I i) :
      Act env owner I A [] s { s with view := { s.view with
        schedulerJobs := updateWhere p f s.view.schedulerJobs } }
  -- `_sync_bpmn_process_from_workflow` has returned.
  | store {s s' : Tx Ω} {pi : ProcessInstance} {w : W} {text : String} (hI : I pi.id)
      (hA : A .json ∧ A .snapshot) (hpi : Present pi s) (hw : env.TasksOf owner pi.id w)
      (htext : env.serializeJson w = .ok text)
      (hrun : (syncBpmnProcessFromWorkflow env pi (env.toDict w) text).run s = (.ok (), s')) :
      Act env owner I A [(pi.id, text)] s s'

/-- Acts one after the other, with the texts they store. -/
inductive Acts (env : Env W Ω) (owner : Guid → Nat) (I : Nat → Prop) (A : Touch → Prop) (s₀ : Tx Ω) :
    List (Nat × String) → Tx Ω → Prop
  | refl : Acts env owner I A s₀ [] s₀
  | snoc {texts texts' : List (Nat × String)} {s s' : Tx Ω} (h : Acts env owner I A s₀ texts s)
      (ha : Act env owner I A texts' s s') : Acts env owner I A s₀ (texts ++ texts') s'

variable {env : Env W Ω} {owner : Guid → Nat} {I : Nat → Prop} {A : Touch → Prop} {F : Focus} {l : Touch} {L : List Touch}
  {s s' s₀ : Tx Ω} {i j : Nat} {texts : List (Nat × String)} {others : List Db}

theorem store_steps (henv : env.Engine owner) {pi : ProcessInstance} {w : W} {text : String}
    (hw : env.TasksOf owner pi.id w) (htext : env.serializeJson w = .ok text) {r : Except Error Unit}
    (hrun : (syncBpmnProcessFromWorkflow env pi (env.toDict w) text).run s = (r, s')) :
    Steps (Change env (pi.focusOn owner)) [.json, .snapshot] s s' :=
  (syncBpmnProcessFromWorkflow_touches (pi.focusOn_of owner) ((hw.covers henv).stored _ · htext) (by decide)).steps hrun

/-- An act is a few changes. -/
theorem Act.steps (henv : env.Engine owner) (ha : Act env owner I A texts s s') :
    ∃ F L, (∀ l ∈ L, A l) ∧ F.Suits owner L s ∧ Steps (Change env F) L s s' := by
  cases ha with
  | @change _ _ F l hI hA hl hF hc => exact ⟨F, [l], by simpa using hA, hF, .one (by simp) hc⟩
  | lane _ id groupId hA hitem =>
    refine ⟨⟨"", 0, none, fun _ => False⟩, [.lane], by simpa using hA, ?_, .one (by simp) (.lane s id groupId)⟩
    exact Focus.suits_of (by simp) (by simp [Touch.rooted])
  | lock _ p f hA hf hjob =>
    refine ⟨⟨"", 0, none, fun _ => False⟩, [.lock], by simpa using hA, ?_, .one (by simp) (.lock s p f hf)⟩
    exact Focus.suits_of (by simp) (by simp [Touch.rooted])
  | @store _ _ pi w text hI hA hpi hw htext hrun =>
    exact ⟨pi.focusOn owner, [.json, .snapshot], by simpa using hA, hpi.fits.suits _, store_steps henv hw htext hrun⟩

theorem Act.committed (henv : env.Engine owner) (ha : Act env owner I A texts s s') :
    s'.base = s.base ∧ s'.committed = s.committed := by
  obtain ⟨F, L, -, -, hsteps⟩ := ha.steps henv
  exact committed_of_steps hsteps

theorem Act.seq (henv : env.Engine owner) (ha : Act env owner I A texts s s') : s.seq ≤ s'.seq := by
  obtain ⟨F, L, -, -, hsteps⟩ := ha.steps henv
  exact seq_of_steps hsteps

theorem Act.firm (henv : env.Engine owner) (hitem : A .newItem → others = []) (ha : Act env owner I A texts s s')
    (h : Firm env owner others s) : Firm env owner others s' := by
  obtain ⟨F, L, hA, hF, hsteps⟩ := ha.steps henv
  exact h.steps henv.lawful hF (fun hL => hitem (hA _ hL)) hsteps

theorem Act.old_or_new (henv : env.Engine owner) {x : InstanceIdentity} (ha : Act env owner I A texts s s')
    (hx : x ∈ instanceIds [s'.view]) : x ∈ instanceIds [s.view] ∨ Newer s.seq x := by
  obtain ⟨F, L, -, -, hsteps⟩ := ha.steps henv
  exact old_or_new_of_steps hsteps hx

/-- What an act leaves of the instances it is not about. -/
theorem Act.untouched (henv : env.Engine owner) (hitem : A .newItem → others = []) (hj : ¬ I j)
    (ha : Act env owner I A texts s s') (h : Firm env owner others s) : Untouched owner j s.view s'.view := by
  have hsame := Untouched.refl owner j s.view
  cases ha with
  | @change _ _ F l hI hA hl hF hc =>
    refine untouched_of_steps (L := [l]) henv.lawful (by rintro rfl; exact hj hI) ?_ ?_ hF ?_ h (.one (by simp) hc)
    · simpa using Ne.symm hl.2.1
    · simpa using Ne.symm hl.1
    · intro hl'
      rw [List.mem_singleton] at hl'
      exact hitem (hl' ▸ hA)
  | lane _ id groupId hA hitem =>
    refine ⟨rfl, hsame.state, hsame.tasks, filter_updateWhere fun w hw hid => ?_, hsame.jobs⟩
    have hne : w.processInstanceId ≠ j := by
      rintro rfl
      exact hj (hitem w hw (by simpa using hid))
    simp [hne]
  | lock _ p f hA hf hjob =>
    refine ⟨rfl, hsame.state, hsame.tasks, rfl, fun q hq => filter_updateWhere fun job hmem hp => ?_⟩
    -- A job of the instance is not among those locked, before or after.
    have hnone : ∀ job' : SchedulerJob, job'.jobKey = job.jobKey → q job' = false := by
      intro job' hkey
      by_contra hq'
      obtain ⟨-, jobType, hof⟩ := hq job' (by simpa using hq')
      exact hj (hjob job hmem hp j ⟨jobType, hkey.symm.trans hof⟩)
    have hkey : (f job).unlocked.jobKey = job.unlocked.jobKey := congrArg SchedulerJob.jobKey (hf job)
    exact ⟨hnone job rfl, hnone _ hkey⟩
  | @store _ _ pi w text hI hA hpi hw htext hrun =>
    exact untouched_of_steps henv.lawful (by rintro rfl; exact hj hI) (by decide) (by decide) (hpi.fits.suits _)
      (by simp) h (store_steps henv hw htext hrun)

/-- Nor does it change their runtime processes. -/
theorem Act.process_of_other (henv : env.Engine owner) {x : InstanceIdentity} {q : Nat} (hj : ¬ I x.id)
    (hx : x ∈ instanceIds (s.view :: s.committed :: s.base :: others)) (hq : x.processId = some q)
    (ha : Act env owner I A texts s s') (h : Firm env owner others s) :
    s'.view.bpmnProcess? q = s.view.bpmnProcess? q := by
  have hlt : q < s.seq := (h.integral.keyed.instance_lt x hx).2 q hq
  -- A known focus with this process is on the instance itself.
  have hown : ∀ {F : Focus}, I F.instanceId → F.Known [s.view, s.committed] → F.processId ≠ some q := by
    rintro F hI ⟨y, hy, hyid, -, hyprocess⟩ hF
    have hy' : y ∈ instanceIds (s.view :: s.committed :: s.base :: others) :=
      instanceIds_subset (fun db hdb => by
        simp only [List.mem_cons, List.not_mem_nil, or_false] at hdb
        rcases hdb with rfl | rfl <;> simp) hy
    have hyx := h.integral.keyed.own_process y hy' x hx q (hyprocess.trans hF) hq
    rw [← hyid, hyx] at hI
    exact hj hI
  cases ha with
  | @change _ _ F l hI hA hl hF hc =>
    refine hc.process_of_other hlt fun hl' => hown hI (hF.known l (by simp) ?_)
    rcases hl' with rfl | rfl <;> rfl
  | lane => rfl
  | lock => rfl
  | @store _ _ pi w text hI hA hpi hw htext hrun =>
    have hfits : (pi.focusOn owner).Fits owner s := hpi.fits
    have hprocess := hown hI hfits.known
    have hboth := (store_steps henv hw htext hrun).inv
      (P := fun s₁ => q < s₁.seq ∧ s₁.view.bpmnProcess? q = s.view.bpmnProcess? q) ?_ ⟨hlt, rfl⟩
    · exact hboth.2
    · rintro l hl s₁ s₂ hc ⟨hlt₁, hsame⟩
      have hle := seq_of_steps (Steps.one (L := [l]) (by simp) hc)
      exact ⟨by omega, (hc.process_of_other hlt₁ fun _ => hprocess).trans hsame⟩

/-! ## Snapshots -/

theorem workflowStateJson_congr {db : Db} {p p' : ProcessInstance} (h : p.bpmnProcessId = p'.bpmnProcessId) :
    db.workflowStateJson p = db.workflowStateJson p' := by
  unfold Db.workflowStateJson
  rw [h]

/-- The snapshot of an instance that is in one of the copies. -/
theorem Firm.stateOf_of_mem (h : Firm env owner others s) {db : Db} (hdb : db ∈ s.view :: s.committed :: s.base :: others)
    {p : ProcessInstance} (hp : p.identity ∈ instanceIds [db]) : db.stateOf p.id = db.workflowStateJson p := by
  obtain ⟨db', hdb', p', hp', hid⟩ := mem_instanceIds.1 hp
  obtain rfl := List.mem_singleton.1 hdb'
  have hpid : p'.id = p.id := congrArg InstanceIdentity.id hid
  have hsome : (db'.processInstance? p.id).isSome := by
    rw [Db.processInstance?, List.find?_isSome]
    exact ⟨p', hp', by simpa using hpid⟩
  obtain ⟨p₁, hp₁⟩ := Option.isSome_iff_exists.1 hsome
  have hid₁ : p₁.id = p.id := by simpa using List.find?_some hp₁
  have hsame := h.integral.keyed.instance_key _ (mem_instanceIds.2 ⟨db', hdb, p₁, List.mem_of_find?_eq_some hp₁, rfl⟩) _
    (mem_instanceIds.2 ⟨db', hdb, p', hp', rfl⟩) (hid₁.trans hpid.symm)
  unfold Db.stateOf
  rw [hp₁, Option.bind_some]
  exact workflowStateJson_congr (congrArg InstanceIdentity.processId (hsame.trans hid))

/-- The snapshot of an instance that is there. -/
theorem Firm.stateOf (h : Firm env owner others s) {pi : ProcessInstance} (hpi : Present pi s) :
    s.view.stateOf pi.id = s.view.workflowStateJson pi := by
  obtain ⟨p, hp, hid⟩ := hpi
  exact h.stateOf_of_mem (by simp) (hid ▸ mem_instanceIds.2 ⟨s.view, by simp, p, hp, rfl⟩)

theorem stateOf_none {db : Db} (h : db.processInstance? i = none) : db.stateOf i = none := by
  rw [Db.stateOf, h]
  rfl

theorem present_of_found {db : Db} {pi : ProcessInstance} (hdb : s.view = db) (h : db.processInstance? i = some pi) :
    Present pi s ∧ pi.id = i := by
  subst hdb
  exact ⟨⟨pi, List.mem_of_find?_eq_some h, rfl⟩, by simpa using List.find?_some h⟩

/-- An instance that appears has no snapshot. -/
theorem Change.stateOf_of_new (hlaw : env.Lawful) (hc : Change env F l s s') (h : Firm env owner others s)
    (hnone : s.view.processInstance? i = none) : s'.view.stateOf i = none := by
  have hsame : ∀ db' : Db, db'.processInstances.map (·.identity) = s.view.processInstances.map (·.identity) →
      db'.stateOf i = none := by
    intro db' hids
    refine stateOf_none (List.find?_eq_none.2 fun p hp => ?_)
    have hmem : p.identity ∈ s.view.processInstances.map (·.identity) := by
      rw [← hids]
      exact List.mem_map_of_mem hp
    obtain ⟨p₀, hp₀, hid⟩ := List.mem_map.1 hmem
    have hid : p₀.id = p.id := congrArg InstanceIdentity.id hid
    rw [← hid]
    exact List.find?_eq_none.1 hnone p₀ hp₀
  cases hc with
  | shared hdb => exact hsame _ (by rw [hdb.processInstances])
  | details _ f hf => exact hsame _ (map_updateWhere fun p => (hf p).1)
  | status _ f hf => exact hsame _ (map_updateWhere hf)
  | @newInstance _ process row hpid hid _ hprocess _ _ data hhash hdata hjson =>
    by_cases hi : row.id = i
    · have hrow : ({ s.view with
          bpmnProcesses := s.view.bpmnProcesses ++ [process]
          processInstances := s.view.processInstances ++ [row] } : Db).processInstance? i = some row := by
        unfold Db.processInstance? at hnone ⊢
        rw [List.find?_append, hnone]
        simp [hi]
      have hfound : ({ s.view with
          bpmnProcesses := s.view.bpmnProcesses ++ [process]
          processInstances := s.view.processInstances ++ [row] } : Db).bpmnProcess? s.seq = some process := by
        have hold : s.view.bpmnProcesses.find? (·.id == s.seq) = none := by
          refine List.find?_eq_none.2 fun p hp => ?_
          have := h.integral.keyed.process_lt _ (mem_processIds.2 ⟨s.view, by simp, p, hp, rfl⟩)
          simp only [BpmnProcess.identity] at this
          simp only [beq_iff_eq]
          omega
        unfold Db.bpmnProcess?
        dsimp only
        rw [List.find?_append, hold]
        simp [hpid]
      obtain ⟨r, hr⟩ := Option.isSome_iff_exists.1 hjson
      have hr' : ({ s.view with
          bpmnProcesses := s.view.bpmnProcesses ++ [process]
          processInstances := s.view.processInstances ++ [row] } : Db).jsonData? process.m8fTenantId process.jsonDataHash =
            some r := hr
      have hpayload : r.data = data := by
        have hkey := List.find?_some hr
        simp only [Bool.and_eq_true, beq_iff_eq] at hkey
        have hdigest := h.integral.stored.json_hash s.view (by simp) r (List.mem_of_find?_eq_some hr)
        rw [hkey.2] at hdigest
        exact hlaw.digest_injective hdigest hhash
      rw [Db.stateOf, hrow, Option.bind_some]
      simp only [Db.workflowStateJson, hprocess, bind, Option.bind_some, hfound, Db.snapshotOf, hr', hpayload, hdata,
        Option.bind_none]
    · refine stateOf_none ?_
      unfold Db.processInstance? at hnone ⊢
      rw [List.find?_append, hnone]
      simp [hi]
  | _ => exact hsame _ rfl

/-- Only storing a snapshot changes what is read back. -/
theorem Change.stateOf (hlaw : env.Lawful) (hl : l ≠ .snapshot) (hF : F.Suits owner [l] s)
    (hitem : l = .newItem → others = []) (hc : Change env F l s s') (h : Firm env owner others s) :
    s'.view.stateOf i = s.view.stateOf i := by
  cases hfound : s.view.processInstance? i with
  | none => rw [hc.stateOf_of_new hlaw h hfound, stateOf_none hfound]
  | some pi =>
    obtain ⟨hpi, rfl⟩ := present_of_found rfl hfound
    rw [h.stateOf hpi, (h.change hlaw hF hitem hc).stateOf (hpi.change hc)]
    refine hc.workflowStateJson hlaw h.sound (fun q hq => ?_) fun hl' => absurd hl' hl
    obtain ⟨process, hprocess, -⟩ := h.sound.process hpi hq
    rw [hprocess]
    rfl

/-- After an act, the last text it stored is read back, or what was read before. -/
theorem Act.stateOf (henv : env.Engine owner) (hitem : A .newItem → others = []) (ha : Act env owner I A texts s s')
    (h : Firm env owner others s) (i : Nat) : s'.view.stateOf i = (heard texts i).or (s.view.stateOf i) := by
  have hfirm := ha.firm henv hitem h
  cases ha with
  | @change _ _ F l hI hA hl hF hc =>
    exact hc.stateOf henv.lawful hl.2.2 hF (by rintro rfl; exact hitem hA) h
  | lane => rfl
  | lock => rfl
  | @store _ _ pi w text hI hA hpi hw htext hrun =>
    have hsteps := store_steps henv hw htext hrun
    by_cases hi : pi.id = i
    · obtain ⟨q, hq⟩ : ∃ q, pi.bpmnProcessId = some q := by
        obtain ⟨p, hp, hid⟩ := hpi
        have := h.processed _ (mem_instanceIds.2 ⟨s.view, by simp, p, hp, rfl⟩)
        rw [hid] at this
        exact Option.isSome_iff_exists.1 this
      subst hi
      rw [hfirm.stateOf (hpi.steps hsteps), syncBpmnProcess_stores henv.lawful h.sound hpi hq hrun]
      simp [heard]
    · have hheard : heard [(pi.id, text)] i = none := by simp [heard, hi]
      rw [hheard, Option.none_or]
      cases hfound : s.view.processInstance? i with
      | none =>
        -- A store adds no instance.
        rw [stateOf_none hfound]
        refine stateOf_none (List.find?_eq_none.2 fun p hp => ?_)
        have hkept := hsteps.keeps (R := fun s s' : Tx Ω => s'.view.processInstances = s.view.processInstances)
          ⟨fun _ => rfl, fun h₁ h₂ => h₂.trans h₁⟩ ?_
        · rw [hkept] at hp
          exact List.find?_eq_none.1 hfound p hp
        · intro l hl s₁ s₂ hc
          cases hc <;> first | rfl | simp at hl
      | some p =>
        obtain ⟨hp, rfl⟩ := present_of_found rfl hfound
        rw [h.stateOf hp, hfirm.stateOf (hp.steps hsteps)]
        refine h.sound.keeps_state henv.lawful hpi.fits hp (fun _ hprocess => hi ?_) hsteps
        -- One process, one instance.
        obtain ⟨p₁, hp₁, hid₁⟩ := hpi
        obtain ⟨p₂, hp₂, hid₂⟩ := hp
        have hmem₁ := mem_instanceIds.2 ⟨s.view, List.mem_cons_self (l := s.committed :: s.base :: others), p₁, hp₁, rfl⟩
        have hmem₂ := mem_instanceIds.2 ⟨s.view, List.mem_cons_self (l := s.committed :: s.base :: others), p₂, hp₂, rfl⟩
        obtain ⟨q, hq⟩ := Option.isSome_iff_exists.1 (h.processed _ (mem_instanceIds.2 ⟨s.view, by simp, p₁, hp₁, rfl⟩))
        have hq₁ : pi.bpmnProcessId = some q := (congrArg InstanceIdentity.processId hid₁).symm.trans hq
        have hq₂ : p₂.identity.processId = some q := by
          rw [hid₂]
          exact hprocess.symm.trans hq₁
        have hone := h.integral.keyed.own_process _ hmem₁ _ hmem₂ q hq hq₂
        rw [hid₁, hid₂] at hone
        exact congrArg InstanceIdentity.id hone

/-! ## Acts in a row -/

theorem Acts.trans {texts' : List (Nat × String)} (h : Acts env owner I A s₀ texts s) (h' : Acts env owner I A s texts' s') :
    Acts env owner I A s₀ (texts ++ texts') s' := by
  induction h' with
  | refl => simpa using h
  | snoc _ ha ih => exact List.append_assoc texts _ _ ▸ ih.snoc ha

theorem Act.acts (ha : Act env owner I A texts s s') : Acts env owner I A s texts s' := by
  simpa using Acts.refl.snoc ha

/-- What every act keeps, a row of them keeps. -/
theorem Acts.keeps {R : Tx Ω → Tx Ω → Prop} (hR : Prog.Frame R)
    (hact : ∀ {texts s s'}, Act env owner I A texts s s' → R s s') (h : Acts env owner I A s texts s') : R s s' := by
  induction h with
  | refl => exact hR.refl s
  | snoc _ ha ih => exact hR.trans ih (hact ha)

theorem Acts.committed (henv : env.Engine owner) (h : Acts env owner I A s texts s') :
    s'.base = s.base ∧ s'.committed = s.committed := h.keeps frame_committed fun ha => ha.committed henv

theorem Acts.seq (henv : env.Engine owner) (h : Acts env owner I A s texts s') : s.seq ≤ s'.seq :=
  h.keeps (R := fun s s' : Tx Ω => s.seq ≤ s'.seq) ⟨fun _ => le_refl _, fun h₁ h₂ => h₁.trans h₂⟩ fun ha => ha.seq henv

theorem Acts.firm (henv : env.Engine owner) (hitem : A .newItem → others = []) (h : Acts env owner I A s texts s')
    (hfirm : Firm env owner others s) : Firm env owner others s' := by
  induction h with
  | refl => exact hfirm
  | snoc _ ha ih => exact ha.firm henv hitem ih

theorem Acts.old_or_new (henv : env.Engine owner) {x : InstanceIdentity} (h : Acts env owner I A s texts s')
    (hx : x ∈ instanceIds [s'.view]) : x ∈ instanceIds [s.view] ∨ Newer s.seq x := by
  induction h generalizing x with
  | refl => exact .inl hx
  | snoc h' ha ih =>
    rcases ha.old_or_new henv hx with hx | ⟨hid, hprocess⟩
    · exact ih hx
    · have hle := h'.seq henv
      exact .inr ⟨hle.trans hid, fun q hq => hle.trans (hprocess q hq)⟩

theorem Acts.untouched (henv : env.Engine owner) (hitem : A .newItem → others = []) (hj : ¬ I j)
    (h : Acts env owner I A s texts s') (hfirm : Firm env owner others s) : Untouched owner j s.view s'.view := by
  induction h with
  | refl => exact .refl owner j s.view
  | snoc h' ha ih => exact ih.trans (ha.untouched henv hitem hj (h'.firm henv hitem hfirm))

theorem Acts.process_of_other (henv : env.Engine owner) (hitem : A .newItem → others = []) {x : InstanceIdentity} {q : Nat}
    (hj : ¬ I x.id) (hx : x ∈ instanceIds (s.committed :: s.base :: others)) (hq : x.processId = some q)
    (h : Acts env owner I A s texts s') (hfirm : Firm env owner others s) :
    s'.view.bpmnProcess? q = s.view.bpmnProcess? q := by
  induction h with
  | refl => rfl
  | @snoc _ _ s₁ s₂ h' ha ih =>
    obtain ⟨hbase, hcommitted⟩ := h'.committed henv
    rw [ha.process_of_other henv hj ?_ hq (h'.firm henv hitem hfirm), ih]
    rw [hbase, hcommitted]
    exact instanceIds_subset (List.subset_cons_self _ _) hx

theorem Acts.stateOf (henv : env.Engine owner) (hitem : A .newItem → others = []) (h : Acts env owner I A s texts s')
    (hfirm : Firm env owner others s) (i : Nat) : s'.view.stateOf i = (heard texts i).or (s.view.stateOf i) := by
  induction h with
  | refl => rfl
  | snoc h' ha ih =>
    rw [ha.stateOf henv hitem (h'.firm henv hitem hfirm) i, ih, heard_append, Option.or_assoc]

/-- A footprint in acts. -/
theorem acts_of_steps (hI : I F.instanceId) (hA : ∀ l ∈ L, A l) (hlane : .lane ∉ L) (hlock : .lock ∉ L)
    (hsnapshot : .snapshot ∉ L) (hF : F.Suits owner L s) (hsteps : Steps (Change env F) L s s') :
    Acts env owner I A s [] s' := by
  have hall := hsteps.inv (P := fun s₁ => Acts env owner I A s [] s₁ ∧ F.Suits owner L s₁) ?_ ⟨.refl, hF⟩
  · exact hall.1
  · rintro l hl s₁ s₂ hc ⟨hacts, hF₁⟩
    have hl' : l ≠ .lane ∧ l ≠ .lock ∧ l ≠ .snapshot :=
      ⟨by rintro rfl; exact hlane hl, by rintro rfl; exact hlock hl, by rintro rfl; exact hsnapshot hl⟩
    exact ⟨hacts.snoc (.change hI (hA l hl) hl' (hF₁.sub (by simpa using hl)) hc), hF₁.change hc⟩

/-! ## Beside the caller's session -/

/-- The changes of a second session: no items, no lanes and no jobs. -/
def Touch.beside (l : Touch) : Prop := l ≠ .newItem ∧ l ≠ .lane ∧ l ≠ .job ∧ l ≠ .startJob ∧ l ≠ .lock

instance (l : Touch) : Decidable l.beside := inferInstanceAs (Decidable (_ ∧ _))

theorem Change.itemIdentities (hl : l ≠ .newItem) (hc : Change env F l s s') :
    s'.view.workItems.map (·.identity) = s.view.workItems.map (·.identity) := by
  cases hc with
  | shared hdb => rw [hdb.workItems]
  | lane => exact map_updateWhere fun _ => rfl
  | item _ p f hp hf => exact map_updateWhere hf
  | newItem => exact absurd rfl hl
  | _ => rfl

theorem Acts.beside (henv : env.Engine owner) (h : Acts env owner I Touch.beside s texts s') :
    s'.view.workItems.map (·.identity) = s.view.workItems.map (·.identity) ∧
      s'.view.schedulerJobs = s.view.schedulerJobs := by
  refine h.keeps (R := fun s s' : Tx Ω => s'.view.workItems.map (·.identity) = s.view.workItems.map (·.identity) ∧
    s'.view.schedulerJobs = s.view.schedulerJobs)
    ⟨fun _ => ⟨rfl, rfl⟩, fun h₁ h₂ => ⟨h₂.1.trans h₁.1, h₂.2.trans h₁.2⟩⟩ fun ha => ?_
  obtain ⟨F, L, hL, -, hsteps⟩ := ha.steps henv
  refine hsteps.keeps (R := fun s s' : Tx Ω => s'.view.workItems.map (·.identity) = s.view.workItems.map (·.identity) ∧
    s'.view.schedulerJobs = s.view.schedulerJobs)
    ⟨fun _ => ⟨rfl, rfl⟩, fun h₁ h₂ => ⟨h₂.1.trans h₁.1, h₂.2.trans h₁.2⟩⟩ fun l hl _ _ hc => ?_
  obtain ⟨hitem, -, hjob, hstart, hlock⟩ := hL l hl
  exact ⟨hc.itemIdentities hitem, hc.schedulerJobs hjob hstart hlock⟩

/-- Once a second session has committed. -/
def Tx.joined (s s₁ : Tx Ω) : Tx Ω := { s₁ with base := s.base, view := s.view, committed := s₁.view }

/-- Once a second session has been dropped. -/
def Tx.parted (s s₁ : Tx Ω) : Tx Ω := { s₁ with base := s.base, view := s.view, committed := s.committed }

/-- Once the session sees what is committed. -/
def Tx.refreshed (s : Tx Ω) : Tx Ω := { s with base := s.committed, view := Db.merge s.base s.view s.committed }

variable {s₁ : Tx Ω}

theorem not_beside_newItem : Touch.beside .newItem → others = [] := fun h => absurd rfl h.1

theorem Firm.joined (henv : env.Engine owner) (h : Firm env owner [] s)
    (hacts : Acts env owner I Touch.beside s.fork texts s₁) : Firm env owner [] (s.joined s₁) := by
  obtain ⟨hitems, hjobs⟩ := hacts.beside henv
  exact h.committed (hacts.firm henv not_beside_newItem h.fork) (hacts.committed henv).1 hitems hjobs

/-- A second session on other instances leaves what the caller read of this one. -/
theorem Agrees.joined (henv : env.Engine owner) (hj : ¬ I j) (hfresh : s.seq ≤ j → I j) (h : Firm env owner [] s)
    (hacts : Acts env owner I Touch.beside s.fork texts s₁) (ha : Agrees owner j s) : Agrees owner j (s.joined s₁) := by
  have hsame := hacts.untouched henv not_beside_newItem hj h.fork
  refine ⟨hsame.instances.trans ha.instances, fun x hx hid q hq => ?_, fun g hg => (hsame.tasks g hg).trans (ha.tasks g hg),
    hsame.items.trans ha.items⟩
  have hold : x ∈ instanceIds [s.view, s.committed, s.base] := by
    obtain ⟨db, hdb, p, hp, rfl⟩ := mem_instanceIds.1 hx
    simp only [Tx.joined, List.mem_cons, List.not_mem_nil, or_false] at hdb
    rcases hdb with rfl | rfl | rfl
    · exact mem_instanceIds.2 ⟨s.view, by simp, p, hp, rfl⟩
    · rcases hacts.old_or_new henv (mem_instanceIds.2 ⟨s₁.view, by simp, p, hp, rfl⟩) with hold | hnew
      · exact instanceIds_subset (by simp [Tx.fork]) hold
      · exact absurd (hfresh (hid ▸ hnew.1)) hj
    · exact mem_instanceIds.2 ⟨s.base, by simp, p, hp, rfl⟩
  have hprocess : s₁.view.bpmnProcess? q = s.committed.bpmnProcess? q := by
    refine hacts.process_of_other henv not_beside_newItem (x := x) (by rw [hid]; exact hj) ?_ hq h.fork
    refine instanceIds_subset (fun db hdb => ?_) hold
    simp only [List.mem_cons, List.not_mem_nil, or_false] at hdb
    rcases hdb with rfl | rfl | rfl <;> simp [Tx.fork]
  exact hprocess.trans (ha.process x hold hid q hq)

/-! ## Stories -/

/-- A service task has raised and left the engine with this workflow. -/
def Env.Raised (env : Env W Ω) (w : W) : Prop :=
  ∃ context w₀ ω message ω', env.runAll context w₀ ω = ((some (.serviceTaskExecution message), w), ω')

/-- Instance `i` as a stored failure leaves it: in `error`, without an open item
and with the workflow of the failure. -/
structure Broken (env : Env W Ω) (owner : Guid → Nat) (i : Nat) (db : Db) : Prop where
  status : ∀ p ∈ db.processInstances, p.id = i → p.status = .error
  closed : db.opened i = false
  state : ∃ text w, db.stateOf i = some text ∧ env.serializeJson w = .ok text ∧ env.TasksOf owner i w ∧ env.Raised w

/-- The changes that prepare an instance. -/
def preparing : List Touch := [.json, .newProcess, .newInstance, .seq, .shared, .details]

/-- What a call does from `s₀` on: the texts its session stores, and the texts
stored beside it. -/
inductive Story (env : Env W Ω) (owner : Guid → Nat) (I : Nat → Prop) (s₀ : Tx Ω) :
    List (Nat × String) → List (Nat × String) → Tx Ω → Prop
  | start : Story env owner I s₀ [] [] s₀
  | act {own durable texts : List (Nat × String)} {s s' : Tx Ω} (h : Story env owner I s₀ own durable s)
      (ha : Act env owner I (fun _ => True) texts s s') : Story env owner I s₀ (own ++ texts) durable s'
  | failed {own durable texts : List (Nat × String)} {s s₁ : Tx Ω} {k : Nat} (h : Story env owner I s₀ own durable s)
      (hI : I k) (hacts : Acts env owner (· = k) Touch.beside s.fork texts s₁) (htexts : texts ≠ [])
      (hbroken : Broken env owner k s₁.view) : Story env owner I s₀ own (durable ++ texts) (s.joined s₁)
  | dropped {own durable : List (Nat × String)} {s s₁ : Tx Ω} (h : Story env owner I s₀ own durable s)
      (hseq : s.seq ≤ s₁.seq) : Story env owner I s₀ own durable (s.parted s₁)
  -- The rows of a new instance are committed, and the caller's session sees them.
  | baseline {own durable : List (Nat × String)} {s s₁ : Tx Ω} (h : Story env owner I s₀ own durable s)
      (hfresh : ∀ i, s.seq ≤ i → I i) (hacts : Acts env owner (s.seq ≤ ·) (· ∈ preparing) s.fork [] s₁) :
      Story env owner I s₀ own durable (s.joined s₁).refreshed

variable {own durable : List (Nat × String)}

theorem Act.mono {I' : Nat → Prop} (hI : ∀ i, I i → I' i) (ha : Act env owner I A texts s s') :
    Act env owner I' A texts s s' := by
  cases ha with
  | change hF hA hl hsuits hc => exact .change (hI _ hF) hA hl hsuits hc
  | lane _ id groupId hA hitem => exact .lane _ id groupId hA fun w hw hid => hI _ (hitem w hw hid)
  | lock _ p f hA hf hjob => exact .lock _ p f hA hf fun job hmem hp i hi => hI _ (hjob job hmem hp i hi)
  | store hpi hA hpresent hw htext hrun => exact .store (hI _ hpi) hA hpresent hw htext hrun

theorem Acts.mono {I' : Nat → Prop} (hI : ∀ i, I i → I' i) (h : Acts env owner I A s texts s') : Acts env owner I' A s texts s' := by
  induction h with
  | refl => exact .refl
  | snoc _ ha ih => exact ih.snoc (ha.mono hI)

theorem Acts.of_one {k : Nat} (hI : I k) (h : Acts env owner (· = k) A s texts s') : Acts env owner I A s texts s' :=
  h.mono (by rintro i rfl; exact hI)

theorem Act.sub {A' : Touch → Prop} (hA : ∀ l, A l → A' l) (ha : Act env owner I A texts s s') :
    Act env owner I A' texts s s' := by
  cases ha with
  | change hF hl hplain hsuits hc => exact .change hF (hA _ hl) hplain hsuits hc
  | lane _ id groupId hl hitem => exact .lane _ id groupId (hA _ hl) hitem
  | lock _ p f hl hf hjob => exact .lock _ p f (hA _ hl) hf hjob
  | store hpi hl hpresent hw htext hrun => exact .store hpi ⟨hA _ hl.1, hA _ hl.2⟩ hpresent hw htext hrun

theorem Acts.beside_of_preparing (h : Acts env owner I (· ∈ preparing) s texts s') :
    Acts env owner I Touch.beside s texts s' := by
  have hbeside : ∀ l ∈ preparing, l.beside := by decide
  induction h with
  | refl => exact .refl
  | snoc _ ha ih => exact ih.snoc (ha.sub hbeside)

theorem Story.acts (h : Story env owner I s₀ own durable s) (ha : Acts env owner I (fun _ => True) s texts s') :
    Story env owner I s₀ (own ++ texts) durable s' := by
  induction ha with
  | refl => simpa using h
  | snoc _ ha ih => exact List.append_assoc own _ _ ▸ ih.act ha

theorem Story.seq (henv : env.Engine owner) (h : Story env owner I s₀ own durable s) : s₀.seq ≤ s.seq := by
  induction h with
  | start => exact le_refl _
  | act _ ha ih => exact ih.trans (ha.seq henv)
  | failed _ _ hacts _ _ ih =>
    have hle := hacts.seq henv
    exact ih.trans hle
  | dropped _ hseq ih => exact ih.trans hseq
  | baseline _ _ hacts ih =>
    have hle := hacts.seq henv
    exact ih.trans hle

theorem Story.firm (henv : env.Engine owner) (h : Story env owner I s₀ own durable s) (hfirm : Firm env owner [] s₀) :
    Firm env owner [] s := by
  induction h with
  | start => exact hfirm
  | act _ ha ih => exact ha.firm henv (fun _ => rfl) ih
  | failed _ _ hacts _ _ ih => exact ih.joined henv hacts
  | dropped _ hseq ih => exact ih.dropped hseq
  | baseline _ _ hacts ih => exact (ih.joined henv hacts.beside_of_preparing).refresh

/-! ## Whose instances there are -/

theorem Change.process_of_none {q : Nat} (hq : q < s.seq) (hc : Change env F l s s')
    (h : s.view.bpmnProcess? q = none) : s'.view.bpmnProcess? q = none := by
  have happend : ∀ row : BpmnProcess, row.id = s.seq → (s.view.bpmnProcesses ++ [row]).find? (·.id == q) = none := by
    intro row hid
    have hne : row.id ≠ q := by omega
    unfold Db.bpmnProcess? at h
    simp [List.find?_append, h, hne]
  have hupdate : ∀ id (f : BpmnProcess → BpmnProcess), (∀ p, (f p).identity = p.identity) →
      (s.view.updateBpmnProcess id f).bpmnProcess? q = none := by
    intro id f hf
    rw [bpmnProcess?_updateBpmnProcess hf, h]
    rfl
  cases hc with
  | shared hdb =>
    unfold Db.bpmnProcess?
    rw [hdb.bpmnProcesses]
    exact h
  | process _ _ f hf => exact hupdate _ f fun p => (hf p).1
  | snapshot => exact hupdate _ _ fun _ => rfl
  | newProcess _ row hid => exact happend row hid
  | newInstance _ process _ hpid => exact happend process hpid
  | _ => exact h

/-- No runtime process comes back under an id handed out before. -/
theorem Acts.process_of_none (henv : env.Engine owner) {q : Nat} (hq : q < s.seq) (h : Acts env owner I A s texts s')
    (hnone : s.view.bpmnProcess? q = none) : s'.view.bpmnProcess? q = none := by
  induction h with
  | refl => exact hnone
  | snoc h' ha ih =>
    have hle := h'.seq henv
    obtain ⟨F, L, -, -, hsteps⟩ := ha.steps henv
    refine (hsteps.inv (P := fun s₁ => q < s₁.seq ∧ s₁.view.bpmnProcess? q = none) ?_ ⟨by omega, ih⟩).2
    rintro l hl s₁ s₂ hc ⟨hlt, hnone₁⟩
    have hle₁ := seq_of_steps (Steps.one (L := [l]) (by simp) hc)
    exact ⟨by omega, hc.process_of_none hlt hnone₁⟩

/-- Of an instance that one side has added, the other has no runtime process. -/
structure Home (s : Tx Ω) : Prop where
  mine : ∀ x ∈ instanceIds [s.view], x ∉ instanceIds [s.base] → ∀ q, x.processId = some q → s.committed.bpmnProcess? q = none
  theirs : ∀ x ∈ instanceIds [s.committed], x ∉ instanceIds [s.base] → ∀ q, x.processId = some q → s.view.bpmnProcess? q = none

theorem Home.begin (seq : Nat) (db : Db) (world : Ω) : Home (Tx.begin seq db world) :=
  ⟨fun _ hx hnew => absurd hx hnew, fun _ hx hnew => absurd hx hnew⟩

/-- What was read is on both sides. -/
theorem Firm.identity_of_base (h : Firm env owner others s) {x : InstanceIdentity} (hx : x ∈ instanceIds [s.base]) :
    x ∈ instanceIds [s.view] ∧ x ∈ instanceIds [s.committed] := by
  have hside : ∀ db, db ∈ s.view :: s.committed :: s.base :: others → Grows s.base db → x ∈ instanceIds [db] := by
    intro db hdb hgrows
    obtain ⟨base, hbase, p, hp, rfl⟩ := mem_instanceIds.1 hx
    obtain rfl := List.mem_singleton.1 hbase
    obtain ⟨p', hp', hid⟩ := hgrows.instances p hp
    have hsame := h.integral.keyed.instance_key _ (mem_instanceIds.2 ⟨db, hdb, p', hp', rfl⟩) _
      (mem_instanceIds.2 ⟨s.base, by simp, p, hp, rfl⟩) hid
    exact mem_instanceIds.2 ⟨db, by simp, p', hp', hsame⟩
  exact ⟨hside _ (by simp) h.grows_view, hside _ (by simp) h.grows_committed⟩

theorem Firm.no_process (h : Firm env owner others s) {db : Db} (hdb : db ∈ s.view :: s.committed :: s.base :: others) {q : Nat}
    (hq : s.seq ≤ q) : db.bpmnProcess? q = none := by
  refine List.find?_eq_none.2 fun r hr => ?_
  have hlt := h.integral.keyed.process_lt _ (mem_processIds.2 ⟨db, hdb, r, hr, rfl⟩)
  simp only [BpmnProcess.identity] at hlt
  simp only [beq_iff_eq]
  omega

theorem Firm.finds_process (h : Firm env owner others s) {db : Db} (hdb : db ∈ s.view :: s.committed :: s.base :: others)
    {x : InstanceIdentity} (hx : x ∈ instanceIds [db]) {q : Nat} (hq : x.processId = some q) : (db.bpmnProcess? q).isSome := by
  obtain ⟨db', hdb', p, hp, rfl⟩ := mem_instanceIds.1 hx
  obtain rfl := List.mem_singleton.1 hdb'
  exact h.integral.stored.has_process db' hdb p hp q hq

theorem Home.act (henv : env.Engine owner) (hfirm : Firm env owner others s) (ha : Act env owner I A texts s s')
    (h : Home s) : Home s' := by
  obtain ⟨hbase, hcommitted⟩ := ha.committed henv
  constructor
  · intro x hx hnew q hq
    rw [hbase] at hnew
    rw [hcommitted]
    rcases ha.old_or_new henv hx with hold | ⟨-, hprocess⟩
    · exact h.mine x hold hnew q hq
    · exact hfirm.no_process (by simp) (hprocess q hq)
  · intro x hx hnew q hq
    rw [hbase] at hnew
    rw [hcommitted] at hx
    have hlt := (hfirm.integral.keyed.instance_lt x (instanceIds_subset (by simp) hx)).2 q hq
    exact ha.acts.process_of_none henv hlt (h.theirs x hx hnew q hq)

theorem Home.joined (henv : env.Engine owner) (hfirm : Firm env owner [] s) {s₁ : Tx Ω}
    (hacts : Acts env owner I A s.fork texts s₁) (h : Home s) : Home (s.joined s₁) := by
  constructor
  · intro x hx hnew q hq
    have hnone : s.fork.view.bpmnProcess? q = none := h.mine x hx hnew q hq
    have hlt := (hfirm.integral.keyed.instance_lt x (instanceIds_subset (by simp [Tx.joined]) hx)).2 q hq
    exact hacts.process_of_none (s := s.fork) henv hlt hnone
  · intro x hx hnew q hq
    rcases hacts.old_or_new henv hx with hold | ⟨-, hprocess⟩
    · exact h.theirs x hold hnew q hq
    · exact hfirm.no_process List.mem_cons_self (hprocess q hq)

theorem Home.refreshed (hfirm : Firm env owner [] s) (h : Home s) : Home s.refreshed := by
  refine ⟨fun x hx hnew q hq => ?_, fun x hx hnew => absurd hx hnew⟩
  obtain ⟨db, hdb, p, hp, rfl⟩ := mem_instanceIds.1 hx
  obtain rfl := List.mem_singleton.1 hdb
  obtain ⟨db', hdb', p', hp', hid⟩ := merge_instanceIds hfirm.sound.integral.keyed hp
  rw [← hid] at hnew hq
  simp only [List.mem_cons, List.not_mem_nil, or_false] at hdb'
  rcases hdb' with rfl | rfl
  · refine h.mine _ (mem_instanceIds.2 ⟨s.view, by simp, p', hp', rfl⟩) (fun hbase => hnew ?_) q hq
    exact (hfirm.identity_of_base hbase).2
  · exact absurd (mem_instanceIds.2 ⟨s.refreshed.base, by simp, p', hp', rfl⟩) hnew

theorem Story.home (henv : env.Engine owner) (h : Story env owner I s₀ own durable s) (hfirm : Firm env owner [] s₀)
    (hhome : Home s₀) : Home s := by
  induction h with
  | start => exact hhome
  | act h' ha ih => exact ih.act henv (h'.firm henv hfirm) ha
  | failed h' _ hacts _ _ ih => exact ih.joined henv (h'.firm henv hfirm) hacts
  | dropped _ _ ih => exact ⟨ih.mine, ih.theirs⟩
  | baseline h' _ hacts ih =>
    have hs := h'.firm henv hfirm
    exact (ih.joined henv hs hacts).refreshed (hs.joined henv hacts.beside_of_preparing)

/-- The merged copy shows the snapshot of an instance as one of its sides does. -/
theorem Firm.stateOf_merge_or (hlaw : env.Lawful) (h : Firm env owner [] s) (hhome : Home s) (i : Nat) :
    (Db.merge s.base s.view s.committed).stateOf i = s.view.stateOf i ∨
      (Db.merge s.base s.view s.committed).stateOf i = s.committed.stateOf i := by
  have hmerged : Firm env owner [] s.refreshed := h.refresh
  cases hfound : (Db.merge s.base s.view s.committed).processInstance? i with
  | none =>
    -- The session has no such instance either.
    refine .inl ((stateOf_none hfound).trans (stateOf_none (List.find?_eq_none.2 fun p hp => ?_)).symm)
    have hkeys : ∃ p' ∈ (Db.merge s.base s.view s.committed).processInstances, p'.id = p.id := by
      refine mergeTable_keys ?_ h.grows_view.instances h.grows_committed.instances (.inl ⟨p, hp, rfl⟩)
      exact fun _ _ _ _ => rfl
    obtain ⟨p', hp', hid⟩ := hkeys
    rw [← hid]
    exact List.find?_eq_none.1 hfound p' hp'
  | some p =>
    have hp := List.mem_of_find?_eq_some hfound
    obtain rfl : p.id = i := by simpa using List.find?_some hfound
    have hx : p.identity ∈ instanceIds [s.refreshed.view] := mem_instanceIds.2 ⟨s.refreshed.view, by simp, p, hp, rfl⟩
    obtain ⟨q, hq⟩ := Option.isSome_iff_exists.1 (hmerged.processed _ (instanceIds_subset (by simp) hx))
    have hstate : s.refreshed.view.stateOf p.id = _ := hmerged.stateOf_of_mem (by simp) hx
    change s.refreshed.view.stateOf p.id = _ ∨ s.refreshed.view.stateOf p.id = _
    rw [hstate]
    obtain ⟨db, hdb, p', hp', hsame⟩ := merge_instanceIds h.sound.integral.keyed hp
    have hx' : p.identity ∈ instanceIds [db] := mem_instanceIds.2 ⟨db, by simp, p', hp', hsame⟩
    have hkey : ∀ b r c : BpmnProcess, b.id = r.id → c.id = r.id → (BpmnProcess.merge b r c).id = r.id := fun _ _ _ _ _ => rfl
    simp only [List.mem_cons, List.not_mem_nil, or_false] at hdb
    by_cases hbase : p.identity ∈ instanceIds [s.base]
    · -- Both sides have the instance; the merged process has its hash from one of them.
      obtain ⟨hview, hcommitted⟩ := h.identity_of_base hbase
      obtain ⟨process, hprocess⟩ := Option.isSome_iff_exists.1 (h.finds_process (by simp) hview hq)
      have hkept := h.grows_committed.processes
      obtain ⟨process', hprocess', hcases⟩ : ∃ process', (Db.merge s.base s.view s.committed).bpmnProcess? q = some process' ∧
          (process' = process ∨ ∃ c, s.committed.bpmnProcess? q = some c ∧
            (process' = c ∨ ∃ b, process' = BpmnProcess.merge b process c)) :=
        rowAt_mergeTable_of_shared hkey hprocess hkept
      have hleft := fun hhash => (h.state_of_hash hlaw (by simp) hq hprocess hprocess' hhash).trans
        (h.stateOf_of_mem (by simp) hview).symm
      have hright := fun c (hc : s.committed.bpmnProcess? q = some c) hhash =>
        (h.state_of_hash hlaw (by simp) hq hc hprocess' hhash).trans (h.stateOf_of_mem (by simp) hcommitted).symm
      rcases hcases with rfl | ⟨c, hc, rfl | ⟨b, rfl⟩⟩
      · exact .inl (hleft rfl)
      · exact .inr (hright _ hc rfl)
      · exact (pick_or b.jsonDataHash process.jsonDataHash c.jsonDataHash).imp hleft (hright c hc)
    · -- One side has added the instance, and the merged process is that side's.
      have hnone : ∀ side : Db, Grows s.base side → side.bpmnProcess? q = none → ∀ r ∈ s.base.bpmnProcesses, r.id ≠ q := by
        rintro side hgrows hnone r hr rfl
        obtain ⟨r', hr', hid⟩ := hgrows.processes r hr
        exact absurd (List.find?_eq_none.1 hnone r' hr') (by simp [hid])
      have hone : (Db.merge s.base s.view s.committed).bpmnProcess? q = db.bpmnProcess? q := by
        rcases hdb with rfl | rfl
        · have hfree := hhome.mine _ hx' hbase q hq
          refine rowAt_mergeTable_of_agree (by simp [BpmnProcess.merge, pick_base]) hkey (Eq.trans hfree (Eq.symm ?_))
          exact List.find?_eq_none.2 fun r hr => by simpa using hnone _ h.grows_committed hfree r hr
        · have hfree := hhome.theirs _ hx' hbase q hq
          refine rowAt_mergeTable_of_new hkey (hnone _ h.grows_view hfree) fun r hr => ?_
          simpa using List.find?_eq_none.1 hfree r hr
      have hside : db ∈ s.view :: s.committed :: s.base :: [] := by
        rcases hdb with rfl | rfl <;> simp
      obtain ⟨process, hprocess⟩ := Option.isSome_iff_exists.1 (h.finds_process hside hx' hq)
      have hsame := (h.state_of_hash hlaw (by rcases hdb with rfl | rfl <;> simp) hq hprocess (hone.trans hprocess) rfl).trans
        (h.stateOf_of_mem hside hx').symm
      rcases hdb with rfl | rfl
      · exact .inl hsame
      · exact .inr hsame

theorem mem_of_heard {text : String} (h : heard texts i = some text) : (i, text) ∈ texts := by
  unfold heard at h
  obtain ⟨x, hx, rfl⟩ := Option.map_eq_some_iff.1 h
  have hmem := List.mem_of_find?_eq_some hx
  have hid := List.find?_some hx
  obtain rfl := beq_iff_eq.1 hid
  exact List.mem_reverse.1 hmem

/-- What holds of the snapshots before and of every stored text holds of the
snapshots after. -/
theorem reads_of_heard {P : Nat → Option String → Prop} (htexts : ∀ x ∈ texts, P x.1 (some x.2)) {state : Option String}
    (h : P i state) : P i ((heard texts i).or state) := by
  cases hheard : heard texts i with
  | none => rwa [Option.none_or]
  | some text =>
    rw [Option.some_or]
    exact htexts _ (mem_of_heard hheard)

/-- So it does of a session and of what is committed, and of the two merged. -/
theorem Story.reads (henv : env.Engine owner) (h : Story env owner I s₀ own durable s) (hfirm : Firm env owner [] s₀)
    (hhome : Home s₀) {P : Nat → Option String → Prop}
    (hstart : ∀ i, P i (s₀.view.stateOf i) ∧ P i (s₀.committed.stateOf i)) (htexts : ∀ x ∈ own ++ durable, P x.1 (some x.2))
    (i : Nat) : P i (s.view.stateOf i) ∧ P i (s.committed.stateOf i) := by
  induction h generalizing i with
  | start => exact hstart i
  | @act own durable texts s s' h' ha ih =>
    have hbefore := ih fun x hx => htexts x (by simp only [List.mem_append] at hx ⊢; tauto)
    rw [(ha.committed henv).2, ha.stateOf henv (fun _ => rfl) (h'.firm henv hfirm) i]
    exact ⟨reads_of_heard (fun x hx => htexts x (by simp [hx])) (hbefore i).1, (hbefore i).2⟩
  | @failed own durable texts s s₁ k h' _ hacts _ _ ih =>
    have hbefore := ih fun x hx => htexts x (by simp only [List.mem_append] at hx ⊢; tauto)
    have hstate : (s.joined s₁).committed.stateOf i = (heard texts i).or (s.committed.stateOf i) :=
      hacts.stateOf henv not_beside_newItem (h'.firm henv hfirm).fork i
    rw [hstate]
    exact ⟨(hbefore i).1, reads_of_heard (fun x hx => htexts x (by simp [hx])) (hbefore i).2⟩
  | dropped _ _ ih => exact ih htexts i
  | @baseline own durable s s₁ h' _ hacts ih =>
    have hbeside := hacts.beside_of_preparing
    have hstate : s₁.view.stateOf i = s.committed.stateOf i := by
      have hsame := hbeside.stateOf henv not_beside_newItem (h'.firm henv hfirm).fork i
      simpa [heard, Tx.fork] using hsame
    have hcommitted : P i (s₁.view.stateOf i) := hstate ▸ (ih htexts i).2
    refine ⟨?_, hcommitted⟩
    have hs := h'.firm henv hfirm
    have hjoined := (h'.home henv hfirm hhome).joined henv hs hbeside
    have hmerged : (s.joined s₁).refreshed.view.stateOf i = s.view.stateOf i ∨
        (s.joined s₁).refreshed.view.stateOf i = s₁.view.stateOf i :=
      (hs.joined henv hbeside).stateOf_merge_or henv.lawful hjoined i
    rcases hmerged with hview | hcommit
    · rw [hview]
      exact (ih htexts i).1
    · rw [hcommit]
      exact hcommitted

/-- A job that an act has written is not kept for another instance. -/
theorem Act.jobs (henv : env.Engine owner) (ha : Act env owner I A texts s s') :
    ∀ job ∈ s'.view.schedulerJobs, job ∈ s.view.schedulerJobs ∨ ∀ i, job.isOf i → I i := by
  intro job hjob
  cases ha with
  | change hI hA hl hF hc =>
    cases hc with
    | shared hdb => exact .inl (hdb.schedulerJobs ▸ hjob)
    | job _ jobs _ hnew =>
      refine (hnew job hjob).imp id ?_
      rintro ⟨-, hkey, -⟩ i ⟨jobType, hof⟩
      rw [← (instanceJobKey_injective (hkey.symm.trans hof)).2]
      exact hI
    | startJob _ jobs _ hnew =>
      refine (hnew job hjob).imp id ?_
      rintro ⟨-, hnone⟩ i hof
      exact absurd hof (hnone i)
    | lock => exact absurd rfl hl.2.1
    | _ => exact .inl hjob
  | lane => exact .inl hjob
  | lock _ p f hA hf hown =>
    obtain ⟨job₀, hjob₀, rfl⟩ := mem_updateWhere.1 hjob
    split
    · rename_i hp
      refine .inr fun i hof => hown job₀ hjob₀ hp i ?_
      obtain ⟨jobType, hkey⟩ := hof
      have hsame : (f job₀).unlocked.jobKey = job₀.unlocked.jobKey := congrArg SchedulerJob.jobKey (hf job₀)
      exact ⟨jobType, hsame.symm.trans hkey⟩
    · exact .inl hjob₀
  | @store _ _ pi w text hI hA hpi hw htext hrun =>
    have hsame : s'.view.schedulerJobs = s.view.schedulerJobs :=
      schedulerJobs_of_steps (by decide) (by decide) (by decide) (store_steps henv hw htext hrun)
    exact .inl (hsame ▸ hjob)

/-- Nor does a story write one. -/
theorem Story.jobs (henv : env.Engine owner) (h : Story env owner I s₀ own durable s) (hfirm : Firm env owner [] s₀) :
    ∀ job ∈ s.view.schedulerJobs, job ∈ s₀.view.schedulerJobs ∨ ∀ i, job.isOf i → I i := by
  induction h with
  | start => exact fun _ hjob => .inl hjob
  | act _ ha ih =>
    intro job hjob
    rcases ha.jobs henv job hjob with hold | hown
    · exact ih job hold
    · exact .inr hown
  | failed _ _ _ _ _ ih => exact ih
  | dropped _ _ ih => exact ih
  | baseline h' _ hacts ih =>
    intro job hjob
    refine ih job ?_
    have hmerged := ((h'.firm henv hfirm).joined henv hacts.beside_of_preparing).merged_jobs
    exact hmerged ▸ hjob

/-- What is committed of the instances the story is not about. -/
theorem Story.untouched_committed (henv : env.Engine owner) (hj : ¬ I j) (h : Story env owner I s₀ own durable s)
    (hfirm : Firm env owner [] s₀) : Untouched owner j s₀.committed s.committed := by
  induction h with
  | start => exact .refl owner j s₀.committed
  | act _ ha ih =>
    rw [(ha.committed henv).2]
    exact ih
  | failed h' hI hacts _ _ ih =>
    refine ih.trans (hacts.untouched henv not_beside_newItem ?_ (h'.firm henv hfirm).fork)
    rintro rfl
    exact hj hI
  | dropped _ _ ih => exact ih
  | baseline h' hfresh hacts ih =>
    refine ih.trans (hacts.beside_of_preparing.untouched henv not_beside_newItem ?_ (h'.firm henv hfirm).fork)
    exact fun hle => hj (hfresh j hle)

/-- What the session shows of them, when it starts from what is committed. -/
theorem Story.untouched (henv : env.Engine owner) (hj : ¬ I j) (hlt : j < s₀.seq) (h : Story env owner I s₀ own durable s)
    (hfirm : Firm env owner [] s₀) (hcurrent : s₀.base = s₀.committed) :
    Agrees owner j s ∧ Untouched owner j s₀.view s.view := by
  induction h with
  | start => exact ⟨.of_current hcurrent, .refl owner j s₀.view⟩
  | @act _ _ _ s _ h' ha ih =>
    have hle := h'.seq henv
    obtain ⟨F, L, -, -, hsteps⟩ := ha.steps henv
    exact ⟨ih.1.steps (by omega) hsteps, ih.2.trans (ha.untouched henv (fun _ => rfl) hj (h'.firm henv hfirm))⟩
  | @failed _ _ _ s _ _ h' hI hacts _ _ ih =>
    have hle := h'.seq henv
    exact ⟨ih.1.joined henv hj (fun h => by omega) (h'.firm henv hfirm) (hacts.of_one hI), ih.2⟩
  | dropped _ _ ih => exact ⟨⟨ih.1.instances, ih.1.process, ih.1.tasks, ih.1.items⟩, ih.2⟩
  | @baseline _ _ s s₁ h' hfresh hacts ih =>
    have hle := h'.seq henv
    have hacts := hacts.beside_of_preparing
    have hjoined := ih.1.joined henv (fun hle' => hj (hfresh j hle')) (fun h => by omega) (h'.firm henv hfirm) hacts
    refine ⟨.of_current rfl, ih.2.trans ?_⟩
    exact ((h'.firm henv hfirm).joined henv hacts).untouched_merge henv.lawful hjoined

/-! ## The snapshots after a story -/

/-- A session beside which nothing failed has seen everything that is committed. -/
theorem Story.current (henv : env.Engine owner) (h : Story env owner I s₀ own durable s) (hnone : durable = [])
    (hcurrent : s₀.base = s₀.committed) : s.base = s.committed := by
  induction h with
  | start => exact hcurrent
  | act _ ha ih => rw [(ha.committed henv).1, (ha.committed henv).2, ih hnone]
  | failed _ _ _ htexts => exact absurd (List.append_eq_nil_iff.1 hnone).2 htexts
  | dropped _ _ ih => exact ih hnone
  | baseline => rfl

theorem Story.stateOf_committed (henv : env.Engine owner) (h : Story env owner I s₀ own durable s)
    (hfirm : Firm env owner [] s₀) (i : Nat) : s.committed.stateOf i = (heard durable i).or (s₀.committed.stateOf i) := by
  induction h with
  | start => rfl
  | act _ ha ih =>
    rw [(ha.committed henv).2]
    exact ih
  | failed h' _ hacts _ _ ih =>
    have hstate := hacts.stateOf henv not_beside_newItem (h'.firm henv hfirm).fork i
    rw [heard_append, Option.or_assoc, ← ih]
    exact hstate
  | dropped _ _ ih => exact ih
  | baseline h' _ hacts ih =>
    have hstate := hacts.beside_of_preparing.stateOf henv not_beside_newItem (h'.firm henv hfirm).fork i
    rw [← ih]
    exact hstate

/-- The snapshot of an instance on which the two sides agree, in the merged copy. -/
theorem Untouched.stateOf {db db' : Db} (h : Untouched owner i db db') : db'.stateOf i = db.stateOf i := by
  have hfound : db'.processInstance? i = db.processInstance? i := by
    unfold Db.processInstance?
    rw [← List.head?_filter, ← List.head?_filter, h.instances]
  unfold Db.stateOf
  rw [hfound]
  cases hp : db.processInstance? i with
  | none => rfl
  | some p => exact h.state p (List.mem_of_find?_eq_some hp) (by simpa using List.find?_some hp)

/-- An instance that only others have made is shown with the snapshot they see. -/
theorem Firm.stateOf_merge (hlaw : env.Lawful) (h : Firm env owner [] s) {n : Nat}
    (hview : ∀ x ∈ instanceIds [s.view, s.base], x.id < n) (hprocess : ∀ x ∈ processIds [s.view, s.base], x.id < n)
    (hnew : ∀ x ∈ instanceIds [s.committed], x.id = i → Newer n x) (hi : n ≤ i) :
    (Db.merge s.base s.view s.committed).stateOf i = s.committed.stateOf i := by
  have hfound : (Db.merge s.base s.view s.committed).processInstance? i = s.committed.processInstance? i := by
    have hkey : ∀ b r c : ProcessInstance, b.id = r.id → c.id = r.id → (ProcessInstance.merge b r c).id = r.id :=
      fun _ _ _ _ _ => rfl
    refine rowAt_mergeTable_of_new hkey (fun p hp => ?_) fun p hp => ?_
    · have := hview _ (mem_instanceIds.2 ⟨s.base, by simp, p, hp, rfl⟩)
      simp only [ProcessInstance.identity] at this
      omega
    · have := hview _ (mem_instanceIds.2 ⟨s.view, by simp, p, hp, rfl⟩)
      simp only [ProcessInstance.identity] at this
      omega
  unfold Db.stateOf
  rw [hfound]
  cases hp : s.committed.processInstance? i with
  | none => rfl
  | some p =>
    rw [Option.bind_some, Option.bind_some]
    have hmem := List.mem_of_find?_eq_some hp
    have hid : p.id = i := by simpa using List.find?_some hp
    have hx := hnew _ (mem_instanceIds.2 ⟨s.committed, by simp, p, hmem, rfl⟩) hid
    cases hq : p.bpmnProcessId with
    | none => simp [Db.workflowStateJson, hq]
    | some q =>
      have hle : n ≤ q := hx.2 q hq
      have hsame : (Db.merge s.base s.view s.committed).bpmnProcess? q = s.committed.bpmnProcess? q := by
        have hkey : ∀ b r c : BpmnProcess, b.id = r.id → c.id = r.id → (BpmnProcess.merge b r c).id = r.id :=
          fun _ _ _ _ _ => rfl
        refine rowAt_mergeTable_of_new hkey (fun r hr => ?_) fun r hr => ?_
        · have := hprocess _ (mem_processIds.2 ⟨s.base, by simp, r, hr, rfl⟩)
          simp only [BpmnProcess.identity] at this
          omega
        · have := hprocess _ (mem_processIds.2 ⟨s.view, by simp, r, hr, rfl⟩)
          simp only [BpmnProcess.identity] at this
          omega
      exact h.state_of_process hlaw (by simp) hmem hq hsame

/-- A session beside which nothing failed reads back what it stored last. -/
theorem Story.stateOf (henv : env.Engine owner) (h : Story env owner I s₀ own durable s) (hnone : durable = [])
    (hfirm : Firm env owner [] s₀) (hcurrent : s₀.base = s₀.committed) (i : Nat) :
    s.view.stateOf i = (heard own i).or (s₀.view.stateOf i) := by
  induction h with
  | start => rfl
  | act h' ha ih =>
    rw [ha.stateOf henv (fun _ => rfl) (h'.firm henv hfirm) i, ih hnone, heard_append, Option.or_assoc]
  | failed _ _ _ htexts => exact absurd (List.append_eq_nil_iff.1 hnone).2 htexts
  | dropped _ _ ih => exact ih hnone
  | @baseline _ _ s s₁ h' hfresh hacts ih =>
    have hs := h'.firm henv hfirm
    have hacts := hacts.beside_of_preparing
    have hjoined := hs.joined henv hacts
    have hbase := h'.current henv hnone hcurrent
    rw [← ih hnone]
    by_cases hi : s.seq ≤ i
    · -- The session had no such instance, and the new one has no snapshot.
      have hmerged := hjoined.stateOf_merge (i := i) (n := s.seq) henv.lawful ?_ ?_ ?_ hi
      · have hstate := hacts.stateOf henv not_beside_newItem hs.fork i
        have hold : ∀ db ∈ [s.view, s.committed], db.stateOf i = none := by
          intro db hdb
          refine stateOf_none (List.find?_eq_none.2 fun p hp => ?_)
          have hlt := (hs.integral.keyed.instance_lt p.identity (mem_instanceIds.2 ⟨db, ?_, p, hp, rfl⟩)).1
          · simp only [ProcessInstance.identity] at hlt
            simp only [beq_iff_eq]
            omega
          · simp only [List.mem_cons, List.not_mem_nil, or_false] at hdb
            rcases hdb with rfl | rfl <;> simp
        rw [hold s.view (by simp)]
        refine hmerged.trans (hstate.trans ?_)
        exact hold s.committed (by simp)
      · intro x hx
        exact (hs.integral.keyed.instance_lt x (instanceIds_subset (by simp [Tx.joined]) hx)).1
      · intro x hx
        obtain ⟨db, hdb, r, hr, rfl⟩ := mem_processIds.1 hx
        refine hs.integral.keyed.process_lt _ (mem_processIds.2 ⟨db, ?_, r, hr, rfl⟩)
        simp only [Tx.joined, List.mem_cons, List.not_mem_nil, or_false] at hdb
        rcases hdb with rfl | rfl <;> simp
      · intro x hx hid
        rcases hacts.old_or_new henv hx with hold | hnew
        · have := (hs.integral.keyed.instance_lt x (instanceIds_subset (by simp [Tx.fork]) hold)).1
          omega
        · exact hnew
    · have hcurrent : Agrees owner i s := .of_current hbase
      have hagrees := hcurrent.joined henv hi (fun h => absurd h hi) hs hacts
      exact (hjoined.untouched_merge henv.lawful hagrees).stateOf

end
end M8flowCore
