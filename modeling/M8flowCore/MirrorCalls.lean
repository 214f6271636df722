import M8flowCore.Mirrors
/-!
# Calls keep the mirror

A call that returns leaves the rows a mirror of the workflow. The host's own
`error` is the exception: it closes the rows and leaves the workflow as it is.
-/
open M8flowCore.Lib M8flowCore.Session

namespace M8flowCore

/-! ## Instances that are not there -/

section
variable {W Ω : Type} {env : Env W Ω} {owner : Guid → Nat} {I : Nat → Prop} {A : Touch → Prop} {F : Focus} {l : Touch}
  {L : List Touch} {s s' s₀ s₁ : Tx Ω} {i : Nat} {texts own durable : List (Nat × String)}

/-- No row of instance `i`. -/
def Db.Lacks (db : Db) (i : Nat) : Prop := ∀ p ∈ db.processInstances, p.id ≠ i

theorem Db.Lacks.standing {db : Db} (h : db.Lacks i) : db.standing i = none := by
  unfold Db.standing Db.processInstance?
  rw [Option.map_eq_none_iff, List.find?_eq_none]
  intro p hp
  simpa using h p hp

theorem lacks_congr {db db' : Db} (h : db'.processInstances.map (·.identity) = db.processInstances.map (·.identity)) :
    db'.Lacks i ↔ db.Lacks i := by
  have hids : ∀ d : Db, d.Lacks i ↔ ∀ x ∈ d.processInstances.map (·.identity), x.id ≠ i := by
    intro d
    simp [Db.Lacks, ProcessInstance.identity]
  rw [hids, hids, h]

/-- An instance only appears as the one the change is for. -/
theorem Change.lacks (hi : F.instanceId ≠ i) (hc : Change env F l s s') (h : s.view.Lacks i) : s'.view.Lacks i := by
  cases hc with
  | shared hdb => exact (lacks_congr (by rw [hdb.processInstances])).2 h
  | details _ f hf => exact (lacks_congr (map_updateWhere fun p => (hf p).1)).2 h
  | status _ f hf => exact (lacks_congr (map_updateWhere hf)).2 h
  | newInstance _ process row _ _ hF =>
    intro p hp
    rcases List.mem_append.1 hp with hp | hp
    · exact h p hp
    · rw [List.mem_singleton.1 hp, hF]
      exact hi
  | _ => exact h

theorem Act.lacks (henv : env.Engine owner) (hi : ¬ I i) (ha : Act env owner I A texts s s') (h : s.view.Lacks i) :
    s'.view.Lacks i := by
  cases ha with
  | change hI _ _ _ hc => exact hc.lacks (by rintro rfl; exact hi hI) h
  | lane => exact h
  | lock => exact h
  | store hI hA hpi hw htext hrun =>
    refine (store_steps henv hw htext hrun).inv (P := fun s => s.view.Lacks i) (fun _ _ _ _ hc => hc.lacks ?_) h
    rintro rfl
    exact hi hI

theorem Acts.lacks (henv : env.Engine owner) (hi : ¬ I i) (h : Acts env owner I A s texts s') (hs : s.view.Lacks i) :
    s'.view.Lacks i := by
  induction h with
  | refl => exact hs
  | snoc _ ha ih => exact ha.lacks henv hi ih

theorem Firm.lacks_merge (h : Firm env owner [] s) (hview : s.view.Lacks i) (hcommitted : s.committed.Lacks i) :
    (Db.merge s.base s.view s.committed).Lacks i := by
  intro p hp
  obtain ⟨db, hdb, p', hp', hid⟩ := merge_instanceIds h.sound.integral.keyed hp
  have hid : p'.id = p.id := congrArg InstanceIdentity.id hid
  rw [← hid]
  simp only [List.mem_cons, List.not_mem_nil, or_false] at hdb
  rcases hdb with rfl | rfl
  · exact hview p' hp'
  · exact hcommitted p' hp'

/-- A story does not make the instances it is not about. -/
theorem Story.lacks (henv : env.Engine owner) (hi : ¬ I i) (h : Story env owner I s₀ own durable s)
    (hfirm : Firm env owner [] s₀) (hview : s₀.view.Lacks i) (hcommitted : s₀.committed.Lacks i) :
    s.view.Lacks i ∧ s.committed.Lacks i := by
  induction h with
  | start => exact ⟨hview, hcommitted⟩
  | act _ ha ih => exact ⟨ha.lacks henv hi ih.1, (ha.committed henv).2 ▸ ih.2⟩
  | failed _ hI hacts _ _ ih =>
    refine ⟨ih.1, hacts.lacks henv ?_ ih.2⟩
    rintro rfl
    exact hi hI
  | dropped _ _ ih => exact ih
  | @baseline _ _ s s₁ h' hfresh hacts ih =>
    have hnew : s₁.view.Lacks i := hacts.lacks henv (fun hle => hi (hfresh i hle)) ih.2
    exact ⟨((h'.firm henv hfirm).joined henv hacts.beside_of_preparing).lacks_merge ih.1 hnew, hnew⟩

end

/-! ## Sessions in order -/

section
variable {W Ω α : Type} {env : Env W Ω} {owner : Guid → Nat} {I : Nat → Prop} {F : Focus} {L : List Touch}
  {s s' : Tx Ω} {i k : Nat} {own durable : List (Nat × String)} {pi : ProcessInstance} {w w' : W} {tenantId : TenantId}

/-- A session in order that nobody overtakes, and in which the rows of instance
`i` mirror its workflow. -/
structure Fair (env : Env W Ω) (owner : Guid → Nat) (i : Nat) (s : Tx Ω) : Prop where
  firm : Firm env owner [] s
  serial : Serial s
  mirrors : Mirrors env owner i s.view

/-- What is told of other instances leaves the mirror of this one. -/
theorem Fair.other (henv : env.Engine owner) (h : Fair env owner i s) (hi : ¬ I i)
    (hstory : Story env owner I s own durable s') (hserial : Serial s') : Fair env owner i s' := by
  refine ⟨hstory.firm henv h.firm, hserial, ?_⟩
  by_cases hlt : i < s.seq
  · exact h.mirrors.still (hstory.untouched henv hi hlt h.firm h.serial.current).2.still
  · have hlacks : ∀ db ∈ [s.view, s.committed], db.Lacks i := by
      intro db hdb p hp
      have hpi := (h.firm.integral.keyed.instance_lt p.identity (mem_instanceIds.2 ⟨db, ?_, p, hp, rfl⟩)).1
      · simp only [ProcessInstance.identity] at hpi
        omega
      · simp only [List.mem_cons, List.not_mem_nil, or_false] at hdb ⊢
        exact hdb.imp_right .inl
    exact .absent (hstory.lacks henv hi h.firm (hlacks _ (by simp)) (hlacks _ (by simp))).1.standing

/-- A call about instance `k` that returns. -/
theorem Fair.after {m : M Ω α} {a : α} {Q : α → Tx Ω → Prop} (henv : env.Engine owner) (h : Fair env owner i s)
    (hretells : Retells env owner (· = k) s [] (· = s) m Q) (hrun : m.run s = (.ok a, s')) (hserial : Serial s')
    (hmine : Firm env owner [] s' → i = k → Mirrors env owner i s'.view) : Fair env owner i s' := by
  obtain ⟨⟨hfirm, own, hstory⟩, -⟩ := (hretells s ⟨⟨h.firm, [], .start⟩, rfl⟩).1 a s' hrun
  by_cases hi : i = k
  · exact ⟨hfirm, hserial, hmine hfirm hi⟩
  · exact h.other henv hi hstory hserial

/-- Changes that show in no instance. -/
theorem Fair.of_mild (henv : env.Engine owner) (h : Fair env owner i s) (hL : L ⊆ mild) (hrooted : ∀ l ∈ L, l.rooted = false)
    (hF : ∀ g, F.guids g → owner g = F.instanceId) (hfiled : Filed s'.seq s'.view)
    (hsteps : Steps (Change env F) L s s') : Fair env owner i s' := by
  have hsuits : F.Suits owner L s := Focus.suits_of hF hrooted
  obtain ⟨hbase, hcommitted⟩ := committed_of_steps hsteps
  refine ⟨h.firm.steps henv.lawful hsuits (fun hitem => ?_) hsteps, ⟨?_, hfiled, ?_⟩, ?_⟩
  · exact absurd (hL hitem) (by decide)
  · rw [hbase, hcommitted, h.serial.current]
  · rw [hcommitted]
    exact h.serial.committed.mono (seq_of_steps hsteps)
  · exact h.mirrors.still (still_of_steps henv.lawful hL hsuits h.firm hsteps i)

/-- The same changes, for a focus that is nowhere needed. -/
theorem Fair.touched (henv : env.Engine owner) (h : Fair env owner i s) {m : M Ω α} {r : Except Error α}
    (htouches : Touches (Change env ⟨"", k, none, fun _ => False⟩) L m) (hL : L ⊆ mild)
    (hrooted : ∀ l ∈ L, l.rooted = false) (hrun : m.run s = (r, s')) (hfiled : Filed s'.seq s'.view) : Fair env owner i s' :=
  h.of_mild henv hL hrooted (by simp) hfiled (htouches.steps hrun)

/-- The same changes, in a session where something is still to be saved. -/
theorem Firm.mildly (henv : env.Engine owner) (h : Firm env owner [] s) {m : M Ω α} {r : Except Error α}
    (htouches : Touches (Change env ⟨"", k, none, fun _ => False⟩) L m) (hL : L ⊆ mild)
    (hrooted : ∀ l ∈ L, l.rooted = false) (hrun : m.run s = (r, s')) :
    Firm env owner [] s' ∧ Still owner i s.view s'.view := by
  have hsuits : Focus.Suits ⟨"", k, none, fun _ => False⟩ owner L s := Focus.suits_of (by simp) hrooted
  have hsteps := htouches.steps hrun
  exact ⟨h.steps henv.lawful hsuits (fun _ => rfl) hsteps, still_of_steps henv.lawful hL hsuits h hsteps i⟩

/-! ## Saves -/

theorem Firm.asked (hlaw : env.Lawful) (h : Firm env owner [] s) (ω : Ω) : Firm env owner [] { s with world := ω } :=
  h.change (F := ⟨"", 0, none, fun _ => False⟩) hlaw (Focus.suits_of (by simp) (by simp [Touch.rooted])) (by simp) (.world s ω)

theorem Firm.has_process (h : Firm env owner [] s) (hpi : Present pi s) : ∃ q, pi.bpmnProcessId = some q := by
  obtain ⟨p, hp, hid⟩ := hpi
  have hsome := h.processed _ (mem_instanceIds.2 ⟨s.view, by simp, p, hp, rfl⟩)
  rw [hid] at hsome
  exact Option.isSome_iff_exists.1 hsome

/-- A save that returns leaves the mirror. -/
theorem saveWorkflow_mirrors (henv : env.Engine owner) (hfirm : Firm env owner [] s) (hpi : Present pi s)
    (hw : env.TasksOf owner pi.id w) {occurredAt : Time} {starting : Bool}
    (hrun : (saveWorkflow env pi w occurredAt starting).run s = (.ok (), s')) :
    Firm env owner [] s' ∧ Present pi s' ∧ Mirrors env owner pi.id s'.view := by
  have hsteps : Steps (Change env (pi.focusOn owner)) saving s s' :=
    (saveWorkflow_touches (pi.focusOn_of owner) (hw.covers henv) _ _ (List.Subset.refl _)).steps hrun
  have hfirm' := hfirm.steps henv.lawful (hpi.fits.suits _) (fun _ => rfl) hsteps
  obtain ⟨q, hq⟩ := hfirm.has_process hpi
  have hsaved := saveWorkflow_saved henv hw hfirm.sound hpi hq hrun
  exact ⟨hfirm', hpi.steps hsteps, hsaved.mirrors henv hfirm' (hpi.steps hsteps) hw⟩

theorem Completed.tasksOf (hsep : env.Separates owner) {guid : Guid} (hw : env.TasksOf owner i w)
    (h : Completed env tenantId pi w guid w') : env.TasksOf owner i w' := by
  obtain ⟨metadata, w₁, ω₁, ω₂, ω₃, ω₄, -, hcomplete, hrun⟩ := h
  have h₁ := hsep.complete (pi.serviceContext tenantId) guid ω₁ (applyMetadataToTask_tasksOf hsep guid metadata hw)
  rw [hcomplete] at h₁
  have h₂ := hsep.runAll (some (pi.serviceContext tenantId)) ω₃ h₁
  rwa [hrun] at h₂

theorem Woken.tasksOf (hsep : env.Separates owner) (hw : env.TasksOf owner i w) (h : Woken env tenantId pi w w') :
    env.TasksOf owner i w' := by
  obtain ⟨w₁, ω₁, ω₂, ω₃, ω₄, hrefresh, hrun⟩ := h
  have h₁ := hsep.refreshWaitingTasks (pi.serviceContext tenantId) ω₁ hw
  rw [hrefresh] at h₁
  have h₂ := hsep.runAll (some (pi.serviceContext tenantId)) ω₃ h₁
  rwa [hrun] at h₂

theorem Rerun.tasksOf (hsep : env.Separates owner) (hw : env.TasksOf owner i w) (h : Rerun env tenantId pi w w') :
    env.TasksOf owner i w' := by
  obtain ⟨metadata, w₁, ω₁, ω₂, -, hreset, hrun⟩ := h
  have h₁ := resetFromTaskIds_tasksOf hsep
    (Dict.update (env.data (applyMetadataToWorkflow env w metadata)) metadata)
    ((env.erroredServiceTasks (applyMetadataToWorkflow env w metadata)).map (·.id))
    (applyMetadataToWorkflow_tasksOf hsep metadata hw)
  rw [hreset] at h₁
  have h₂ := hsep.runAll (some (pi.serviceContext tenantId)) ω₁ h₁
  rwa [hrun] at h₂

theorem RunAndSaved.mirrors (henv : env.Engine owner) (hfirm : Firm env owner [] s) (hpi : pi ∈ s.view.processInstances)
    {next : W → W → Prop} (hnext : ∀ {w w'}, next w w' → env.TasksOf owner pi.id w → env.TasksOf owner pi.id w')
    (h : RunAndSaved env pi next s s') : Firm env owner [] s' ∧ Mirrors env owner pi.id s'.view := by
  obtain ⟨state, w, w', occurredAt, ω, hstate, hrestore, hstep, hsave⟩ := h
  have hw := hfirm.sound.restored hpi hstate hrestore
  obtain ⟨hfirm', -, hmirrors⟩ := saveWorkflow_mirrors henv (hfirm.asked henv.lawful ω) ⟨pi, hpi, rfl⟩ (hnext hstep hw) hsave
  exact ⟨hfirm', hmirrors⟩

/-! ## Advancing and waking -/

theorem advanceProcessInstanceWorkflow_fair (henv : env.Engine owner) (h : Fair env owner i s) {guid : Guid}
    {completedAt : Option Time}
    (hrun : (advanceProcessInstanceWorkflow env tenantId k guid completedAt).run s = (.ok (), s')) : Fair env owner i s' := by
  have hmoved := advanceProcessInstanceWorkflow_moved henv.lawful h.serial.view hrun
  refine h.after henv (advanceProcessInstanceWorkflow_retells (I := (· = k)) henv rfl _ _ _) hrun (hmoved.travels h.serial).serial ?_
  rintro - rfl
  obtain ⟨pi, hpi, -, rfl, ⟨rfl, -⟩ | ⟨-, hsaved⟩⟩ := advanceProcessInstanceWorkflow_ok hrun
  · exact h.mirrors
  · exact (hsaved.mirrors henv h.firm hpi fun hnext hw => Completed.tasksOf henv.separates hw hnext).2

theorem refreshWaitingProcessInstanceWorkflow_fair (henv : env.Engine owner) (h : Fair env owner i s) {occurredAt : Option Time}
    (hrun : (refreshWaitingProcessInstanceWorkflow env tenantId k occurredAt).run s = (.ok (), s')) : Fair env owner i s' := by
  have hmoved := refreshWaitingProcessInstanceWorkflow_moved henv.lawful h.serial.view hrun
  refine h.after henv (refreshWaitingProcessInstanceWorkflow_retells (I := (· = k)) henv rfl _ _) hrun (hmoved.travels h.serial).serial ?_
  rintro - rfl
  obtain ⟨pi, hpi, -, rfl, ⟨rfl, -⟩ | ⟨-, hsaved⟩⟩ := refreshWaitingProcessInstanceWorkflow_ok hrun
  · exact h.mirrors
  · exact (hsaved.mirrors henv h.firm hpi fun hnext hw => Woken.tasksOf henv.separates hw hnext).2

/-! ## Lifecycle commands -/

theorem standing_updateInstance (status : ProcessInstanceStatus) {db : Db} {f : ProcessInstance → ProcessInstance}
    (hf : ∀ p, (f p).identity = p.identity ∧ (f p).status = status) :
    (db.updateInstance i f).standing i = (db.standing i).map fun x => (x.1, status) := by
  unfold Db.standing
  rw [processInstance?_updateInstance fun p => (hf p).1, Option.map_map, Option.map_map]
  cases hfound : db.processInstance? i with
  | none => rfl
  | some p =>
    have hid := processInstance?_id hfound
    have htenant : (f p).m8fTenantId = p.m8fTenantId := congrArg InstanceIdentity.tenantId (hf p).1
    simp [hid, htenant, (hf p).2]

theorem standing_closeRuntimeState (db : Db) (i : Nat) (t : Time) (userId : Option Nat) :
    (db.closeRuntimeState i t userId).standing i = db.standing i := by
  change ((db.updateInstance i ({ · with taskUpdatedAt := some t })).processInstance? i).map _ = _
  rw [processInstance?_updateInstance (by intro _; rfl), Option.map_map]
  refine congrArg (Option.map · _) (funext fun p => ?_)
  simp only [Function.comp_apply]
  split <;> rfl

theorem Filed.standing {seq : Nat} {db : Db} (h : Filed seq db) (hpi : pi ∈ db.processInstances) :
    db.standing pi.id = some (pi.m8fTenantId, pi.status) := by
  unfold Db.standing
  rw [h.found hpi]
  rfl

/-- From one status that is not over to another, which no timer wakes. -/
theorem Mirrors.restatus {db db' : Db} {status status' : ProcessInstanceStatus} (h : Mirrors env owner i db)
    (hbefore : db.standing i = some (tenantId, status)) (hopen : status.isTerminal = false)
    (hafter : db'.standing i = some (tenantId, status')) (hopen' : status'.isTerminal = false)
    (hasleep : status' ≠ .waiting ∧ status' ≠ .userInputRequired) (hstate : db'.stateOf i = db.stateOf i)
    (htasks : ∀ g, owner g = i → db'.task? g = db.task? g) (hitems : db'.openGuids i = db.openGuids i) :
    Mirrors env owner i db' := by
  refine ⟨fun hstanding _ htext => ?_, fun hstanding hover => ?_, fun hstanding => ?_⟩ <;>
    rw [hafter, Option.some.injEq, Prod.mk.injEq] at hstanding <;> obtain ⟨rfl, rfl⟩ := hstanding
  · rw [hstate] at htext
    obtain ⟨w, htext, hw, hpictured, -⟩ := h.live hbefore hopen htext
    refine ⟨w, htext, hw, ⟨fun t ht => ?_, hitems ▸ hpictured.items⟩, fun hstatus => ?_⟩
    · rw [htasks t.id (hw t ht)]
      exact hpictured.rows t ht
    · exact absurd hstatus (not_or.2 hasleep)
  · rw [hopen', hstate] at hover
    rw [hitems]
    exact h.closed hbefore (.inr (hover.resolve_left (by simp)))
  · simp [ProcessInstanceStatus.isTerminal] at hopen'

/-- So do `suspend` and `resume`, with what follows the new status. -/
theorem Fair.restatus (henv : env.Engine owner) (h : Fair env owner pi.id s) (hpi : pi ∈ s.view.processInstances)
    (hopen : pi.status.isTerminal = false) {f : ProcessInstance → ProcessInstance} {status : ProcessInstanceStatus}
    (hf : ∀ p, (f p).identity = p.identity ∧ (f p).status = status) (hstatus : status = .suspended ∨ status = .running)
    (hL : L ⊆ mild) (hrooted : ∀ l ∈ L, l.rooted = false)
    (hsteps : Steps (Change env ⟨"", pi.id, none, fun _ => False⟩) L { s with view := s.view.updateInstance pi.id f } s') :
    Mirrors env owner pi.id s'.view := by
  have hc : Change env ⟨"", pi.id, none, fun _ => False⟩ .status s { s with view := s.view.updateInstance pi.id f } :=
    .status s f fun p => (hf p).1
  have hsuits : ∀ {L : List Touch} {s : Tx Ω}, (∀ l ∈ L, l.rooted = false) →
      Focus.Suits ⟨"", pi.id, none, fun _ => False⟩ owner L s := fun hL => Focus.suits_of (by simp) hL
  have hfirm := h.firm.change henv.lawful (hsuits (by simp [Touch.rooted])) (by simp) hc
  have hbefore := h.serial.view.standing hpi
  have hafter : (s.view.updateInstance pi.id f).standing pi.id = some (pi.m8fTenantId, status) := by
    rw [standing_updateInstance status hf, hbefore]
    rfl
  refine Mirrors.still (still_of_steps henv.lawful hL (hsuits hrooted) hfirm hsteps pi.id) ?_
  refine h.mirrors.restatus hbefore hopen hafter ?_ ?_ ?_ (fun _ _ => rfl) rfl
  · rcases hstatus with rfl | rfl <;> rfl
  · rcases hstatus with rfl | rfl <;> simp
  · exact hc.stateOf henv.lawful (by simp) (hsuits (by simp [Touch.rooted])) (by simp) h.firm

theorem suspendProcessInstance_fair (henv : env.Engine owner) (h : Fair env owner i s) {userId : Nat} {at_ : Option Time}
    (hrun : (suspendProcessInstance env tenantId k userId at_).run s = (.ok (), s')) : Fair env owner i s' := by
  have hserial := ((suspendProcessInstance_moved h.serial.view hrun).travels h.serial).serial
  refine h.after (Q := fun _ _ => True) henv (k := k) ?_ hrun hserial ?_
  · exact retells_apart henv rfl (suspendProcessInstance_touches _ rfl _ _ (List.Subset.refl _)) (by decide) (by decide)
  rintro - rfl
  unfold suspendProcessInstance at hrun
  obtain ⟨pi, s₁, hopen, h₁⟩ := Prog.bind_ok.1 hrun
  obtain ⟨rfl, hpi, -, rfl⟩ := openProcessInstanceCommand_ok hopen
  split at h₁
  · obtain ⟨-, rfl⟩ := Prog.pure_ok.1 h₁
    exact h.mirrors
  split at h₁
  · simp at h₁
  rename_i hterminal
  simp only [resolveTimestamp, updateInstance, write, Prog.gets_bind_run, Prog.modify_bind_run] at h₁
  refine h.restatus henv hpi (Bool.eq_false_iff.2 hterminal) ?_ (.inl rfl) (L := [.seq, .event]) (by decide) (by decide)
    ((recordProcessInstanceEvent_touches _ rfl _ _ _ _ (List.Subset.refl _)).steps h₁)
  exact fun _ => ⟨rfl, rfl⟩

theorem resumeProcessInstance_fair (henv : env.Engine owner) (h : Fair env owner i s) {userId : Nat} {at_ : Option Time}
    (hrun : (resumeProcessInstance env tenantId k userId at_).run s = (.ok (), s')) : Fair env owner i s' := by
  have hserial := ((resumeProcessInstance_moved h.serial.view hrun).travels h.serial).serial
  refine h.after henv (resumeProcessInstance_retells (I := (· = k)) henv rfl _ _ _) hrun hserial ?_
  rintro - rfl
  unfold resumeProcessInstance at hrun
  obtain ⟨pi, s₁, hopen, h₁⟩ := Prog.bind_ok.1 hrun
  obtain ⟨rfl, hpi, -, rfl⟩ := openProcessInstanceCommand_ok hopen
  split at h₁
  · obtain ⟨-, rfl⟩ := Prog.pure_ok.1 h₁
    exact h.mirrors
  split at h₁
  · simp at h₁
  rename_i hterminal
  split at h₁
  · simp at h₁
  simp only [resolveTimestamp, updateInstance, write, Prog.gets_bind_run, Prog.modify_bind_run] at h₁
  obtain ⟨_, s₂, hsync, hrecord⟩ := Prog.bind_ok.1 h₁
  have hsynced : Steps (Change env ⟨"", pi.id, none, fun _ => False⟩) [.seq, .shared, .lane, .event] _ s₂ :=
    (syncOpenWorkItemPotentialOwners_touches _ _ _ (by decide)).steps hsync
  refine h.restatus henv hpi (Bool.eq_false_iff.2 hterminal) ?_ (.inr rfl) (by decide) (by decide)
    (hsynced.trans ((recordProcessInstanceEvent_touches _ rfl _ _ _ _ (by decide)).steps hrecord))
  exact fun _ => ⟨rfl, rfl⟩

/-- An instance that is over and has no open item. -/
theorem Mirrors.over {db : Db} {status : ProcessInstanceStatus} (hstanding : db.standing i = some (tenantId, status))
    (hstatus : status = .complete ∨ status = .terminated) (hitems : db.openGuids i = []) : Mirrors env owner i db := by
  refine ⟨fun h hlive => ?_, fun _ _ => hitems, fun h => ?_⟩ <;>
    rw [hstanding, Option.some.injEq, Prod.mk.injEq] at h <;> obtain ⟨rfl, rfl⟩ := h
  · rcases hstatus with rfl | rfl <;> simp [ProcessInstanceStatus.isTerminal] at hlive
  · simp at hstatus

theorem terminateProcessInstance_fair (henv : env.Engine owner) (h : Fair env owner i s) {userId : Nat} {at_ : Option Time}
    (hrun : (terminateProcessInstance env tenantId k userId at_).run s = (.ok (), s')) : Fair env owner i s' := by
  have hserial := ((terminateProcessInstance_moved env h.serial.view hrun).travels h.serial).serial
  refine h.after (Q := fun _ _ => True) henv (k := k) ?_ hrun hserial ?_
  · exact retells_apart henv rfl (terminateProcessInstance_touches _ rfl _ _ (List.Subset.refl _)) (by decide) (by decide)
  rintro hfirm rfl
  unfold terminateProcessInstance at hrun
  obtain ⟨pi, s₁, hopen, h₁⟩ := Prog.bind_ok.1 hrun
  obtain ⟨rfl, hpi, -, rfl⟩ := openProcessInstanceCommand_ok hopen
  split at h₁
  · obtain ⟨-, rfl⟩ := Prog.pure_ok.1 h₁
    exact h.mirrors
  split at h₁
  · simp at h₁
  simp only [resolveTimestamp, updateInstance, write, Prog.gets_bind_run, Prog.modify_bind_run] at h₁
  obtain ⟨row, -, -, rfl⟩ := recordProcessInstanceEvent_ok h₁
  refine Mirrors.over (?_ : Db.standing _ pi.id = some (pi.m8fTenantId, .terminated)) (.inr rfl) ?_
  · refine (standing_closeRuntimeState _ pi.id _ (some userId)).trans ?_
    refine (standing_updateInstance .terminated ?_).trans ?_
    · exact fun _ => ⟨rfl, rfl⟩
    · rw [h.serial.view.standing hpi]
      rfl
  · exact opened_eq_false.1 (opened_closeRuntimeState _ _ _ _)

/-! ## Jobs -/

/-- The instance's timer jobs. -/
def isTimerJobOf (tenantId : TenantId) (i : Nat) (job : SchedulerJob) : Bool :=
  job.jobType == .intermediateTimer && job.m8fTenantId == tenantId && job.jobKey == instanceJobKey .intermediateTimer i

theorem Still.of_jobs {db : Db} {jobs : List SchedulerJob}
    (h : ∀ tenantId, jobs.filter (isTimerJobOf tenantId i) = db.schedulerJobs.filter (isTimerJobOf tenantId i)) :
    Still owner i db { db with schedulerJobs := jobs } :=
  ⟨rfl, rfl, fun _ _ => rfl, rfl, fun tenantId => congrArg (List.map _) (h tenantId)⟩

theorem ne_of_isTimerJobOf {job : SchedulerJob} (h : isTimerJobOf tenantId i job = true) :
    job.jobKey ≠ instanceJobKey .processRetry k := by
  intro hkey
  simp only [isTimerJobOf, Bool.and_eq_true, beq_iff_eq] at h
  have := (instanceJobKey_injective (h.2.symm.trans hkey)).1
  simp at this

theorem deleteSchedulerJob_ok {jobKey : String} {u : Unit} (h : (deleteSchedulerJob tenantId jobKey).run s = (.ok u, s')) :
    s' = { s with view := { s.view with
      schedulerJobs := s.view.schedulerJobs.filter fun j => !(j.m8fTenantId == tenantId && j.jobKey == jobKey) } } :=
  (Prod.mk.inj h).2.symm

/-- A retry job is none of the timer jobs. -/
theorem deleteRetryJob_still (owner : Guid → Nat) (i : Nat)
    (h : (deleteSchedulerJob tenantId (instanceJobKey .processRetry k)).run s = (.ok (), s')) : Still owner i s.view s'.view := by
  rw [deleteSchedulerJob_ok h]
  refine .of_jobs fun tenantId' => ?_
  rw [List.filter_filter]
  refine List.filter_congr fun job _ => ?_
  cases hjob : isTimerJobOf tenantId' i job with
  | false => rfl
  | true =>
    have hne := ne_of_isTimerJobOf (k := k) hjob
    simp [hne]

theorem upsertRetryJob_still (owner : Guid → Nat) (i : Nat) {v : JobValues} {occurredAt : Time} {createdAt : Option Time}
    (h : (upsertSchedulerJob tenantId (instanceJobKey .processRetry k) v occurredAt createdAt).run s = (.ok (), s')) :
    Still owner i s.view s'.view := by
  unfold upsertSchedulerJob at h
  simp only [query, Prog.gets_bind_run] at h
  cases hfound : s.view.schedulerJob? tenantId (instanceJobKey .processRetry k) with
  | none =>
    simp only [hfound, Session.insert, nextId, write] at h
    obtain ⟨-, rfl⟩ := Prod.mk.inj h
    refine .of_jobs fun tenantId' => ?_
    rw [List.filter_append, List.filter_cons_of_neg, List.filter_nil, List.append_nil]
    exact fun hjob => ne_of_isTimerJobOf hjob rfl
  | some job =>
    simp only [hfound, write] at h
    obtain ⟨-, rfl⟩ := Prod.mk.inj h
    refine .of_jobs fun tenantId' => filter_updateWhere fun job _ hmatch => ?_
    simp only [Bool.and_eq_true, beq_iff_eq] at hmatch
    exact ⟨Bool.eq_false_iff.2 fun hjob => ne_of_isTimerJobOf hjob hmatch.2,
      Bool.eq_false_iff.2 fun hjob => ne_of_isTimerJobOf hjob hmatch.2⟩

theorem scheduleProcessInstanceRetry_fair (henv : env.Engine owner) (h : Fair env owner i s) {userId : Nat} {retryAt : Time}
    {at_ : Option Time}
    (hrun : (scheduleProcessInstanceRetry env tenantId k userId retryAt at_).run s = (.ok (), s')) : Fair env owner i s' := by
  have hmoved := scheduleProcessInstanceRetry_moved (C := fun _ => False) h.serial.view hrun
  refine h.after (Q := fun _ _ => True) henv (k := k) ?_ hrun (hmoved.travels h.serial).serial ?_
  · exact retells_apart henv rfl (scheduleProcessInstanceRetry_touches _ rfl _ _ _ (List.Subset.refl _)) (by decide) (by decide)
  rintro - rfl
  unfold scheduleProcessInstanceRetry at hrun
  obtain ⟨pi, s₁, hopen, h₁⟩ := Prog.bind_ok.1 hrun
  obtain ⟨rfl, -, -, rfl⟩ := openProcessInstanceCommand_ok hopen
  split at h₁
  · simp at h₁
  · simp only [resolveTimestamp, Prog.gets_bind_run] at h₁
    exact h.mirrors.still (upsertRetryJob_still owner _ h₁)

/-- Without its timer job, an instance that no timer job is asked for. -/
theorem Mirrors.unasked {db : Db} {jobs : List SchedulerJob} (h : Mirrors env owner i db)
    (hasleep : ∀ tenantId status, db.standing i = some (tenantId, status) → status = .waiting ∨ status = .userInputRequired →
      db.stateOf i = none) : Mirrors env owner i { db with schedulerJobs := jobs } := by
  refine ⟨fun hstanding hlive hstate => ?_, fun hstanding hover => h.closed hstanding hover, fun hstanding => h.failed hstanding⟩
  obtain ⟨w, htext, hw, hpictured, -⟩ := h.live hstanding hlive hstate
  refine ⟨w, htext, hw, ⟨hpictured.rows, hpictured.items⟩, fun hstatus => ?_⟩
  have hnone := (hstate : db.stateOf i = some _).symm.trans (hasleep _ _ hstanding hstatus)
  simp at hnone

/-! ## Claims and completions -/

theorem claimTask_fair (henv : env.Engine owner) (h : Fair env owner i s) {workItemId userId : Nat}
    (hrun : (claimTask env tenantId workItemId userId).run s = (.ok (), s')) : Fair env owner i s' := by
  have hserial := ((claimTask_moved (C := fun _ => False) (i := 0) h.serial.view hrun).travels h.serial).serial
  have hrun' := hrun
  unfold claimTask at hrun'
  obtain ⟨item, s₁, hchecks, h₁⟩ := Prog.bind_ok.1 hrun'
  obtain rfl := (claimTaskChecks_readOnly env _ _ _).state hchecks
  obtain ⟨hitem, -, -⟩ := claimTaskChecks_ok env hchecks
  refine h.after (k := item.processInstanceId) henv (claimTask_retells henv userId ?_) hrun hserial fun _ _ => ?_
  · rintro _ item' rfl hitem'
    rw [Option.some.inj (hitem'.symm.trans hitem)]
  refine h.mirrors.still ?_
  rw [claimTaskUpdate_run] at h₁
  split at h₁
  swap
  · simp at h₁
  obtain ⟨-, rfl⟩ := Prod.mk.inj h₁
  -- The owner is not what is looked at.
  refine ⟨?_, ?_, fun _ _ => rfl, ?_, fun _ => rfl⟩
  · change ((Db.updateInstance _ item.processInstanceId _).processInstance? i).map _ = _
    rw [processInstance?_updateInstance (by intro _; rfl), Option.map_map]
    refine congrArg (Option.map · _) (funext fun p => ?_)
    simp only [Function.comp_apply]
    split <;> rfl
  · unfold Db.stateOf Db.claimWrites
    rw [processInstance?_updateInstance (by intro _; rfl)]
    change ((s₁.view.processInstance? i).map _).bind _ = _
    cases s₁.view.processInstance? i with
    | none => rfl
    | some p =>
      simp only [Option.map_some, Option.bind_some]
      split <;> rfl
  · exact openGuids_congr (map_updateWhere fun _ => rfl)

/-- What a footprint without snapshots leaves of the standing and the snapshot. -/
theorem Firm.posed (henv : env.Engine owner) (h : Firm env owner [] s) (hF : F.Suits owner L s)
    (hplain : ∀ l ∈ L, l ≠ .lane ∧ l ≠ .lock ∧ l ≠ .snapshot) (hnew : .newInstance ∉ L)
    (hsteps : Steps (Change env F) L s s') :
    Firm env owner [] s' ∧ s'.view.stateOf i = s.view.stateOf i ∧ (.status ∉ L → s'.view.standing i = s.view.standing i) := by
  have hacts : Acts env owner (· = F.instanceId) (fun _ => True) s [] s' :=
    acts_of_steps rfl (fun _ _ => trivial) (fun hl => (hplain _ hl).1 rfl) (fun hl => (hplain _ hl).2.1 rfl)
      (fun hl => (hplain _ hl).2.2 rfl) hF hsteps
  refine ⟨hacts.firm henv (fun _ => rfl) h, hacts.stateOf henv (fun _ => rfl) h i, fun hstatus => ?_⟩
  refine hsteps.keeps (R := fun s s' : Tx Ω => s'.view.standing i = s.view.standing i)
    ⟨fun _ => rfl, fun h₁ h₂ => h₂.trans h₁⟩ fun l hl _ _ hc => hc.standing ?_ ?_ i
  · rintro rfl
    exact hstatus hl
  · rintro rfl
    exact hnew hl

/-- An open item is one of a live workflow, so a completion that returns has
saved what has become of it. -/
theorem completeTask_fair (henv : env.Engine owner) (h : Fair env owner i s) {workItemId userId : Nat}
    {completedAt : Option Time} {payload : Dict}
    (hrun : (completeTask env tenantId workItemId userId completedAt payload).run s = (.ok (), s')) : Fair env owner i s' := by
  obtain ⟨_, hmoved⟩ := completeTask_moved henv.lawful h.serial.view hrun
  have hrun' := hrun
  unfold completeTask at hrun'
  obtain ⟨item, s₀, hchecks, h₀⟩ := Prog.bind_ok.1 hrun'
  obtain ⟨rfl, hitem, -, hopen⟩ := completeTaskChecks_ok hchecks
  have hmem := (tenantWorkItem?_mem hitem).1
  refine h.after (k := item.processInstanceId) henv (completeTask_retells henv userId _ _ ?_) hrun
    (hmoved.travels h.serial).serial ?_
  · rintro _ item' rfl hitem'
    rw [Option.some.inj (hitem'.symm.trans hitem)]
  rintro - rfl
  have hguid : ∀ g, item.taskGuid = some g → owner g = item.processInstanceId := by
    intro g hg
    obtain ⟨g', hg', hown⟩ := h.firm.integral.keyed.item_guid _ (mem_itemIds.2 ⟨s₀.view, by simp, item, hmem, rfl⟩)
    obtain rfl := Option.some.inj (hg'.symm.trans hg)
    exact hown
  -- So the instance is not over, and it has a snapshot.
  have hlive : ∀ {tenantId status}, s₀.view.standing item.processInstanceId = some (tenantId, status) →
      ¬ (status.isTerminal = true ∨ s₀.view.stateOf item.processInstanceId = none) := by
    intro tenantId status hstanding hover
    have hnone := h.mirrors.closed hstanding hover
    have hguids : item.taskGuid ∈ s₀.view.openGuids item.processInstanceId := mem_openGuids.2 ⟨item, hmem, rfl, hopen, rfl⟩
    rw [hnone] at hguids
    simp at hguids
  simp only [resolveTimestamp, Prog.gets_bind_run] at h₀
  obtain ⟨_, s₁, hpayload, h₁⟩ := Prog.bind_ok.1 h₀
  simp only [write, query, Prog.gets_bind_run, Prog.modify_bind_run] at h₁
  generalize hs₂ : ({ s₁ with view := s₁.view.completeRows item userId (completedAt.getD (env.now s₀.world)) } : Tx Ω) = s₂ at h₁
  let F : Focus := ⟨"", item.processInstanceId, none, fun g => owner g = item.processInstanceId⟩
  have hsteps : Steps (Change env F) [.seq, .item, .task, .shared, .details] s₀ s₂ := by
    refine .trans ((persistTaskPayload_touches _ _ _ _ (by decide)).steps hpayload) ?_
    rw [← hs₂]
    exact completeRows_touches rfl hguid userId _ (by decide) s₁
  obtain ⟨hfirm₂, hstate₂, hstanding₂⟩ := h.firm.posed (i := item.processInstanceId) henv
    (Focus.suits_of (fun _ hg => hg) (by decide)) (by decide) (by decide) hsteps
  have hstanding₂ := hstanding₂ (by decide)
  have hview : s₂.view = s₁.view.completeRows item userId (completedAt.getD (env.now s₀.world)) := by rw [← hs₂]
  rw [← hview] at h₁
  split at h₁
  · rename_i hnone
    obtain ⟨-, rfl⟩ := Prog.pure_ok.1 h₁
    cases hstanding : s₀.view.standing item.processInstanceId with
    | none => exact .absent (hstanding₂.trans hstanding)
    | some x => exact absurd (.inr (hstate₂.symm.trans hnone)) (@hlive x.1 x.2 hstanding)
  · rename_i state hstate
    obtain ⟨_, s₃, hadvance, h₃⟩ := Prog.bind_ok.1 h₁
    obtain ⟨_, s₄, hrecord, h₄⟩ := Prog.bind_ok.1 h₃
    have hmirrors₃ : Firm env owner [] s₃ ∧ Mirrors env owner item.processInstanceId s₃.view := by
      obtain ⟨pi, hpi, -, hid, ⟨-, hover⟩ | ⟨-, hsaved⟩⟩ := advanceProcessInstanceWorkflow_ok hadvance
      · have hfound := (h.serial.view.quiet (by decide) (by decide) (by decide) hsteps).standing hpi
        rw [hid, hstanding₂] at hfound
        refine absurd (hover.symm.imp id fun hnone => ?_) (hlive hfound)
        rw [← hstate₂, ← hid, hfirm₂.stateOf (present_of_mem hpi), hnone]
      · rw [← hid]
        exact hsaved.mirrors henv hfirm₂ hpi fun hnext hw => Completed.tasksOf henv.separates hw hnext
    obtain ⟨hfirm₃, hmirrors₃⟩ := hmirrors₃
    obtain ⟨hfirm₄, hstill₄⟩ := hfirm₃.mildly (i := item.processInstanceId) (k := item.processInstanceId) henv
      (recordProcessInstanceEvent_touches _ rfl _ _ _ _ (List.Subset.refl _)) (by decide) (by decide) hrecord
    have hmirrors₄ := hmirrors₃.still hstill₄
    simp only [Prog.gets_bind_run] at h₄
    split at h₄
    · refine hmirrors₄.still (hfirm₄.mildly (k := item.processInstanceId) henv ?_ (L := [.seq, .event]) (by decide) (by decide) h₄).2
      exact recordProcessInstanceEvent_touches _ rfl _ _ _ _ (List.Subset.refl _)
    · obtain ⟨-, rfl⟩ := Prog.pure_ok.1 h₄
      exact hmirrors₄

/-! ## Retries -/

/-- A service task that fails is left in `ERROR`, and new data leave the tasks
as they are. -/
structure Env.Faults (env : Env W Ω) : Prop where
  raised : ∀ {w}, env.Raised w → ∃ t ∈ env.tasks w, t.state = .error ∧ t.specType = "ServiceTask"
  updateData : ∀ w d, (env.tasks (env.updateData w d)).map (·.core) = (env.tasks w).map (·.core)
  updateTaskTreeData : ∀ w d, (env.tasks (env.updateTaskTreeData w d)).map (·.core) = (env.tasks w).map (·.core)

theorem applyMetadataToWorkflow_cores (hfaults : env.Faults) (w : W) (metadata : Dict) :
    (env.tasks (applyMetadataToWorkflow env w metadata)).map (·.core) = (env.tasks w).map (·.core) := by
  unfold applyMetadataToWorkflow
  split
  · rfl
  · rw [hfaults.updateTaskTreeData, hfaults.updateData]

/-- The workflow of a failure has, once it is restored, a failed service task. -/
theorem erroredServiceTasks_restored (hlaw : env.Lawful) (hfaults : env.Faults) (hraised : env.Raised w) {text : String}
    (htext : env.serializeJson w = .ok text) (hrestore : env.deserializeJson text = .ok w') (metadata : Dict) :
    env.erroredServiceTasks (applyMetadataToWorkflow env w' metadata) ≠ [] := by
  obtain ⟨t, ht, hstate, htype⟩ := hfaults.raised hraised
  have hcores : (env.tasks (applyMetadataToWorkflow env w' metadata)).map (·.core) = (env.tasks w).map (·.core) := by
    rw [applyMetadataToWorkflow_cores hfaults]
    exact (hlaw.restored htext hrestore).1
  have hcore : t.core ∈ (env.tasks (applyMetadataToWorkflow env w' metadata)).map (·.core) := by
    rw [hcores]
    exact List.mem_map_of_mem ht
  obtain ⟨t', ht', hsame⟩ := List.mem_map.1 hcore
  have hstate' : t'.state = .error := (congrArg TaskCore.state hsame).trans hstate
  have htype' : t'.specType = "ServiceTask" := (congrArg TaskCore.specType hsame).trans htype
  exact List.ne_nil_of_mem (List.mem_filter.2 ⟨ht', by simp [hstate', htype']⟩)

theorem retryErrored_mirrors (henv : env.Engine owner) (hfirm : Firm env owner [] s) {occurredAt : Option Time}
    (hrun : (retryErroredServiceTaskWorkflowIfNeeded env tenantId k occurredAt).run s = (.ok (), s'))
    (h : s' = s → Mirrors env owner k s.view) : Firm env owner [] s' ∧ Mirrors env owner k s'.view := by
  obtain ⟨pi, hpi, -, rfl, ⟨rfl, -⟩ | hsaved⟩ := retryErroredServiceTaskWorkflowIfNeeded_ok hrun
  · exact ⟨hfirm, h rfl⟩
  · exact hsaved.mirrors henv hfirm hpi fun hnext hw => Rerun.tasksOf henv.separates hw hnext

/-- A retry runs the failed service tasks again and saves what becomes of them. -/
theorem retryProcessInstance_fair (henv : env.Engine owner) (hfaults : env.Faults) (h : Fair env owner i s) {userId : Nat}
    {at_ : Option Time} (hrun : (retryProcessInstance env tenantId k userId at_).run s = (.ok (), s')) :
    Fair env owner i s' := by
  have hserial := ((retryProcessInstance_moved henv.lawful h.serial.view hrun).travels h.serial).serial
  refine h.after henv (retryProcessInstance_retells (I := (· = k)) henv rfl _ _ _) hrun hserial ?_
  rintro - rfl
  unfold retryProcessInstance at hrun
  obtain ⟨pi, s₁, hopen, h₁⟩ := Prog.bind_ok.1 hrun
  obtain ⟨rfl, hpi, -, rfl⟩ := openProcessInstanceCommand_ok hopen
  split at h₁
  · simp at h₁
  rename_i herror
  have hstanding := h.serial.view.standing hpi
  rw [not_not.1 herror] at hstanding
  obtain ⟨text, w, hstate, htext, hraised⟩ := h.mirrors.failed hstanding
  simp only [resolveTimestamp, query, updateInstance, write, Prog.gets_bind_run, Prog.modify_bind_run] at h₁
  let F : Focus := ⟨"", pi.id, none, fun _ => False⟩
  -- The rows are opened again, whatever the snapshot says of them.
  generalize hs₂ : ({ s₁ with view := Db.reopenRuntimeState _ pi.id _ } : Tx Ω) = s₂ at h₁
  have hsteps : Steps (Change env F) [.status, .shared, .details, .task, .item] s₁ s₂ := by
    rw [← hs₂]
    refine .trans (.one (by decide) (.status s₁ ({ · with
      status := .running, endedAt := none, updatedAt := some (at_.getD (env.now s₁.world)) }) fun _ => rfl)) ?_
    exact (reopenRuntimeState_touches (F := F) _ (by decide)) _
  obtain ⟨hfirm₂, hstate₂, -⟩ := h.firm.posed (i := pi.id) henv (Focus.suits_of (by simp [F]) (by decide)) (by decide)
    (by decide) hsteps
  obtain ⟨_, s₃, hfirst, h₃⟩ := Prog.bind_ok.1 h₁
  obtain ⟨_, s₄, hdelete, h₄⟩ := Prog.bind_ok.1 h₃
  obtain ⟨_, s₅, hrecord, h₅⟩ := Prog.bind_ok.1 h₄
  obtain ⟨_, s₆, hsecond, hsync⟩ := Prog.bind_ok.1 h₅
  have hmirrors₃ : Firm env owner [] s₃ ∧ Mirrors env owner pi.id s₃.view := by
    obtain ⟨p, hp, -, hid, ⟨rfl, hnone | ⟨state, w', metadata, hfound, hrestore, hnone⟩⟩ | hsaved⟩ :=
      retryErroredServiceTaskWorkflowIfNeeded_ok hfirst
    · rw [← hfirm₂.stateOf (present_of_mem hp), hid, hstate₂, hstate] at hnone
      simp at hnone
    · rw [← hfirm₂.stateOf (present_of_mem hp), hid, hstate₂, hstate] at hfound
      obtain rfl := Option.some.inj hfound
      exact absurd hnone (erroredServiceTasks_restored henv.lawful hfaults hraised htext hrestore metadata)
    · rw [← hid]
      exact hsaved.mirrors henv hfirm₂ hp fun hnext hw => Rerun.tasksOf henv.separates hw hnext
  obtain ⟨hfirm₃, hmirrors₃⟩ := hmirrors₃
  have hdeleted : Steps (Change env F) [.job] s₃ s₄ := (deleteSchedulerJob_touches _ ⟨_, rfl⟩ (List.Subset.refl _)).steps hdelete
  have hfirm₄ := hfirm₃.steps henv.lawful (Focus.suits_of (by simp [F]) (by decide)) (fun _ => rfl) hdeleted
  obtain ⟨hfirm₅, hstill₅⟩ := hfirm₄.mildly (i := pi.id) (k := pi.id) henv
    (recordProcessInstanceEvent_touches _ rfl _ _ _ _ (List.Subset.refl _)) (by decide) (by decide) hrecord
  obtain ⟨hfirm₆, hmirrors₆⟩ := retryErrored_mirrors henv hfirm₅ hsecond fun _ =>
    (hmirrors₃.still (deleteRetryJob_still owner _ hdelete)).still hstill₅
  refine hmirrors₆.still (hfirm₆.mildly (k := pi.id) henv ?_ (L := [.seq, .shared, .lane]) (by decide) (by decide) hsync).2
  exact syncOpenWorkItemPotentialOwners_touches _ _ _ (List.Subset.refl _)

/-! ## Starts -/

/-- A life that is only created. -/
theorem Path.created {C : Cause → Prop} {b : Option Life} (h : Path C none b) (hC : ∀ c, C c → c = .create) :
    ∀ l, b = some l → l.phase.status = .notStarted ∧ l.opened = false := by
  obtain ⟨stages, hjourney, hcauses⟩ := h
  generalize ha : (none : Option Life) = a at hjourney
  induction hjourney with
  | nil =>
    subst ha
    simp
  | @snoc _ _ _ _ _ cause hmove ih =>
    obtain rfl := hC cause (hcauses ⟨_, _, _⟩ (List.mem_append_right _ (List.mem_singleton.2 rfl)))
    cases hmove with
    | create =>
      rintro l hl
      obtain rfl := Option.some.inj hl
      exact ⟨rfl, rfl⟩
    | save hc => simp at hc

theorem Mirrors.of_life {db : Db} (hlife : ∀ l, db.life i = some l → l.phase.status = .notStarted ∧ l.opened = false)
    (hstate : db.stateOf i = none) : Mirrors env owner i db := by
  cases hfound : db.processInstance? i with
  | none => exact .absent (by rw [Db.standing, hfound]; rfl)
  | some p =>
    have hl := hlife ⟨p.phase, db.history i, db.opened i⟩ (by rw [Db.life, hfound]; rfl)
    refine .unstarted (fun tenantId status hstanding => ?_) hstate (opened_eq_false.1 hl.2)
    rw [Db.standing, hfound, Option.map_some, Option.some.injEq, Prod.mk.injEq] at hstanding
    exact hstanding.2.symm.trans hl.1

section
variable (henv : env.Engine owner) (hkeys : env.AddsNoKeys)
include henv hkeys

/-- Preparing an instance tells of the instances that are new. -/
theorem prepareProcessInstance_story {definition : BpmnProcessDefinition} {modelIdentifier : String} {args : StartArgs}
    {selected : String}
    (h : (prepareProcessInstance env tenantId definition modelIdentifier args).run s = (.ok (pi, selected), s')) :
    Story env owner (s.seq ≤ ·) s [] [] s' := by
  unfold prepareProcessInstance at h
  obtain ⟨baseline, s₁, hbaseline, h₁⟩ := Prog.bind_ok.1 h
  have hstory : Story env owner (s.seq ≤ ·) s [] [] s₁ := by
    unfold prepareProcessInstanceBaseline at hbaseline
    rcases hrun : (prepareCommittedProcessInstance env tenantId definition.id modelIdentifier args).run s.fork with ⟨e | a, s₂⟩
    · rw [Prog.bind_run_ok (independently_error hrun)] at hbaseline
      simp at hbaseline
    · rw [Prog.bind_run_ok (independently_ok hrun)] at hbaseline
      have hacts : Acts env owner (s.seq ≤ ·) (· ∈ preparing) s.fork [] s₂ := by
        rcases prepareCommittedProcessInstance_ok hrun with ⟨-, rfl⟩ | ⟨committed, result, -, -, hprepare⟩
        · exact .refl
        · exact (prepareProcessInstanceInSession_acts (A := (· ∈ preparing)) hkeys (fun _ h => h) hprepare).1
      obtain ⟨-, rfl⟩ := Prod.mk.inj hbaseline
      exact Story.start.baseline (fun _ hi => hi) hacts
  have hload : ∀ {result : Nat × String} {s₂ : Tx Ω}, (do
      let pi ← loadProcessInstance (Ω := Ω) tenantId result.1
      pure (pi, result.2)).run s₂ = (.ok (pi, selected), s') → s' = s₂ := by
    intro result s₂ hrun
    obtain ⟨_, s₃, hread, hpure⟩ := Prog.bind_ok.1 hrun
    obtain ⟨-, rfl⟩ := Prog.pure_ok.1 hpure
    exact (loadProcessInstance_readOnly _ _).state hread
  cases baseline with
  | some result => exact hload h₁ ▸ hstory
  | none =>
    obtain ⟨result, s₂, hprepare, h₂⟩ := Prog.bind_ok.1 h₁
    have hseq := hstory.seq henv
    have hacts : Acts env owner (s₁.seq ≤ ·) (fun _ => True) s₁ [] s₂ :=
      (prepareProcessInstanceInSession_acts hkeys (fun _ _ => trivial) hprepare).1
    exact hload h₂ ▸ hstory.acts (hacts.mono fun i hi => hseq.trans hi)

theorem prepareProcessInstance_fair (h : Fair env owner i s) {definition : BpmnProcessDefinition} {modelIdentifier : String}
    {args : StartArgs} {selected : String}
    (hrun : (prepareProcessInstance env tenantId definition modelIdentifier args).run s = (.ok (pi, selected), s')) :
    Fair env owner i s' ∧ pi ∈ s'.view.processInstances := by
  have hstory := prepareProcessInstance_story henv hkeys hrun
  obtain ⟨htravels, hpi, -⟩ := prepareProcessInstance_travels h.serial hrun
  refine ⟨?_, hpi⟩
  by_cases hi : s.seq ≤ i
  swap
  · exact h.other henv hi hstory htravels.serial
  refine ⟨hstory.firm henv h.firm, htravels.serial, ?_⟩
  have hnone : s.view.processInstance? i = none := by
    refine List.find?_eq_none.2 fun p hp => ?_
    have := h.serial.view.instance_lt p hp
    simp only [beq_iff_eq]
    omega
  have hpath := htravels.paths i
  rw [Db.life, hnone] at hpath
  refine .of_life (hpath.created fun _ hc => hc.2) ?_
  rw [hstory.stateOf henv rfl h.firm h.serial.current, stateOf_none hnone]
  rfl

omit hkeys in
theorem finalizeInitializedWorkflow_mirrors (hfirm : Firm env owner [] s) (hpi : Present pi s) (hw : env.TasksOf owner pi.id w)
    {occurredAt : Time} (hrun : (finalizeInitializedWorkflow env tenantId pi w occurredAt).run s = (.ok (), s')) :
    Mirrors env owner pi.id s'.view := by
  unfold finalizeInitializedWorkflow at hrun
  obtain ⟨_, s₁, hsave, h₁⟩ := Prog.bind_ok.1 hrun
  simp only [query, Prog.gets_bind_run] at h₁
  obtain ⟨hfirm₁, -, hmirrors⟩ := saveWorkflow_mirrors henv hfirm hpi hw hsave
  refine hmirrors.still (hfirm₁.mildly (k := pi.id) henv ?_ (L := [.seq, .event]) (by decide) (by decide) h₁).2
  exact recordProcessInstanceEvent_touches _ rfl _ _ _ _ (List.Subset.refl _)

omit hkeys in
theorem initializeProcessInstanceWorkflow_fair (h : Fair env owner i s) {source : WorkflowSource} {startedAt : Option Time}
    (hrun : (initializeProcessInstanceWorkflow env tenantId k source startedAt).run s = (.ok (), s')) :
    Fair env owner i s' := by
  have hserial := ((initializeProcessInstanceWorkflow_moved henv.lawful h.serial.view hrun).travels h.serial).serial
  refine h.after henv (initializeProcessInstanceWorkflow_retells (I := (· = k)) henv rfl _ _ _) hrun hserial ?_
  rintro - rfl
  unfold initializeProcessInstanceWorkflow at hrun
  obtain ⟨pi, s₁, hload, h₁⟩ := Prog.bind_ok.1 hrun
  obtain ⟨rfl, hpi, -, rfl⟩ := loadProcessInstance_ok hload
  split at h₁
  · simp at h₁
  simp only [query, resolveTimestamp, Prog.gets_bind_run] at h₁
  split at h₁
  · simp at h₁
  simp only [Prog.gets_bind_run] at h₁
  obtain ⟨w, s₂, hbuild, h₂⟩ := Prog.bind_ok.1 h₁
  obtain ⟨w', s₃, hran, hfinal⟩ := Prog.bind_ok.1 h₂
  obtain ⟨htale₂, hw, hp₂⟩ := (buildInstanceWorkflow_retells (I := (· = pi.id)) henv rfl rfl _ s₁
    ⟨⟨h.firm, [], .start⟩, present_of_mem hpi⟩).1 w s₂ hbuild
  obtain ⟨htale₃, hw', hp₃⟩ := (runWorkflow_goes (I := (· = pi.id)) henv rfl hw _ true s₂ ⟨htale₂, hp₂⟩).1 w' s₃ hran
  exact finalizeInitializedWorkflow_mirrors henv htale₃.1 hp₃ hw' hfinal

theorem initializeProcessInstanceFromDefinition_fair (h : Fair env owner i s) {definitionId : Nat} {args : StartArgs}
    {resolver : Bool}
    (hrun : (initializeProcessInstanceFromDefinition env tenantId definitionId args resolver).run s = (.ok (), s')) :
    Fair env owner i s' := by
  unfold initializeProcessInstanceFromDefinition at hrun
  obtain ⟨_, s₁, hmember, h₁⟩ := Prog.bind_ok.1 hrun
  obtain rfl := (ensureUserBelongsToTenant_readOnly _ _).state hmember
  obtain ⟨definition, s₂, hload, h₂⟩ := Prog.bind_ok.1 h₁
  obtain rfl := (loadProcessDefinition_readOnly _ _).state hload
  obtain ⟨_, s₃, hallowed, h₃⟩ := Prog.bind_ok.1 h₂
  obtain rfl := (requireCommandAuthorization_readOnly _ _ _ _ _ _ _).state hallowed
  obtain ⟨⟨pi, selected⟩, s₄, hprepare, h₄⟩ := Prog.bind_ok.1 h₃
  exact initializeProcessInstanceWorkflow_fair henv (prepareProcessInstance_fair henv hkeys h hprepare).1 h₄

theorem initializeProcessInstanceFromTimerStart_fair (h : Fair env owner i s) {definitionId userId : Nat} {specName : String}
    {startedAt : Option Time}
    (hrun : (initializeProcessInstanceFromTimerStart env tenantId definitionId userId specName startedAt).run s = (.ok (), s')) :
    Fair env owner i s' := by
  have hserial := (initializeProcessInstanceFromTimerStart_travels henv.lawful h.serial hrun).serial
  unfold initializeProcessInstanceFromTimerStart at hrun
  obtain ⟨_, s₁, hmember, h₁⟩ := Prog.bind_ok.1 hrun
  obtain rfl := (ensureUserBelongsToTenant_readOnly _ _).state hmember
  obtain ⟨definition, s₂, hload, h₂⟩ := Prog.bind_ok.1 h₁
  obtain rfl := (loadProcessDefinition_readOnly _ _).state hload
  obtain ⟨⟨pi, selected⟩, s₃, hprepare, h₃⟩ := Prog.bind_ok.1 h₂
  obtain ⟨hfair, hpi⟩ := prepareProcessInstance_fair henv hkeys h hprepare
  simp only [resolveTimestamp, Prog.gets_bind_run] at h₃
  obtain ⟨w, s₄, hbuild, h₄⟩ := Prog.bind_ok.1 h₃
  obtain ⟨w₁, s₅, hran, h₅⟩ := Prog.bind_ok.1 h₄
  obtain ⟨forced, s₆, hforce, h₆⟩ := Prog.bind_ok.1 h₅
  obtain ⟨hforced, rfl⟩ := ofExcept_ok hforce
  let I : Nat → Prop := (· = pi.id)
  obtain ⟨htale₄, hw, hp₄⟩ := (buildInstanceWorkflow_retells (I := I) henv rfl rfl _ s₃
    ⟨⟨hfair.firm, [], .start⟩, present_of_mem hpi⟩).1 w s₄ hbuild
  obtain ⟨htale₅, hw₁, hp₅⟩ := (runWorkflow_goes (I := I) henv rfl hw _ true s₄ ⟨htale₄, hp₄⟩).1 w₁ s₆ hran
  -- However the timer is made due, a workflow of the instance is saved at the end.
  have hlast : ∃ w₂ s₇, Tale env owner I s₃ [] s₇ ∧ Present pi s₇ ∧ env.TasksOf owner pi.id w₂ ∧
      (finalizeInitializedWorkflow env tenantId pi w₂ (startedAt.getD (env.now s₃.world))).run s₇ = (.ok (), s') := by
    cases forced with
    | none => exact ⟨w₁, s₆, htale₅, hp₅, hw₁, h₆⟩
    | some due =>
      have hT : Follow env owner I (fun _ => True) [] (Tale env owner I s₃ []) (Told env owner I s₃) := tale_follow henv
      have hdue := forceWaitingTimerStartTaskDue_tasksOf henv.separates hw₁ hforced
      obtain ⟨refreshed, s₈, hask, h₈⟩ := Prog.bind_ok.1 h₆
      obtain ⟨w₄, s₉, hraised, h₉⟩ := Prog.bind_ok.1 h₈
      obtain ⟨htale₈, ⟨ω, rfl⟩, hp₈⟩ := (goes_ask (P := Present pi) hT (rfl : I pi.id) trivial _ (fun _ _ h => h) s₆
        ⟨htale₅, hp₅⟩).1 _ _ hask
      obtain ⟨hrefreshed, rfl⟩ := orRaised_ok hraised
      have hw₄ := henv.separates.refreshWaitingTasks (pi.serviceContext tenantId) ω hdue
      rw [hrefreshed] at hw₄
      split at h₉
      · obtain ⟨w₅, s₁₀, hrerun, hfinal⟩ := Prog.bind_ok.1 h₉
        obtain ⟨htale, hw₅, hp⟩ := (runWorkflow_goes (I := I) henv rfl hw₄ _ true s₉ ⟨htale₈, hp₈⟩).1 w₅ s₁₀ hrerun
        exact ⟨w₅, s₁₀, htale, hp, hw₅, hfinal⟩
      · exact ⟨w₄, _, htale₈, hp₈, hw₄, h₉⟩
  obtain ⟨w₂, s₇, htale₇, hp₇, hw₂, hfinal⟩ := hlast
  obtain ⟨⟨hfirm, own, hstory⟩, -⟩ := (finalizeInitializedWorkflow_retells (I := I) henv rfl hw₂ _ s₇ ⟨htale₇, hp₇⟩).1 _ _ hfinal
  by_cases hi : i = pi.id
  · subst hi
    exact ⟨hfirm, hserial, finalizeInitializedWorkflow_mirrors henv htale₇.1 hp₇ hw₂ hfinal⟩
  · exact hfair.other henv hi hstory hserial

end

end
end M8flowCore
