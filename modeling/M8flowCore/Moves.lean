import M8flowCore.Lifecycle
import M8flowCore.Preparing
/-!
# The moves of the operations that return

For each service function, the moves that a call which returns makes in the
session's copy.
-/
open M8flowCore.Lib M8flowCore.Session

namespace M8flowCore

section
variable {W Ω : Type} {env : Env W Ω} {F : Focus} {L : List Touch} {s s' : Tx Ω} {i j : Nat} {pi : ProcessInstance} {w : W}
  {tenantId : TenantId}

/-! ## Lives under single writes -/

theorem life_of_mem {seq : Nat} {db : Db} (h : Filed seq db) (hpi : pi ∈ db.processInstances) :
    db.life pi.id = some ⟨pi.phase, db.history pi.id, db.opened pi.id⟩ := by
  unfold Db.life
  rw [h.found hpi]
  rfl

theorem life_updateInstance {db : Db} {f : ProcessInstance → ProcessInstance} (φ : Phase → Phase)
    (hf : ∀ p, (f p).identity = p.identity) (hφ : ∀ p, (f p).phase = φ p.phase) :
    (db.updateInstance i f).life i = (db.life i).map fun l => { l with phase := φ l.phase } := by
  unfold Db.life
  rw [processInstance?_updateInstance hf]
  cases hrow : db.processInstance? i with
  | none => rfl
  | some p =>
    have hid : (p.id == i) = true := by simpa using processInstance?_id hrow
    simp only [Option.map_some, hid, if_true, hφ]
    rfl

theorem life_event {db : Db} {row : ProcessInstanceEvent} (hrow : row.processInstanceId = i)
    (htype : row.eventType.isLifecycle = true) :
    { db with events := db.events ++ [row] }.life i =
      (db.life i).map fun l => { l with history := l.history ++ [row.eventType] } := by
  have hhistory : ({ db with events := db.events ++ [row] } : Db).history i = db.history i ++ [row.eventType] := by
    unfold Db.history
    simp [hrow, htype]
  unfold Db.life
  rw [Option.map_map, hhistory]
  rfl

/-- Whatever happens to the items. -/
theorem life_items {db db' : Db} (hrow : db'.processInstance? i = db.processInstance? i)
    (hevents : db'.events = db.events) : db'.life i = (db.life i).map fun l => { l with opened := db'.opened i } := by
  unfold Db.life Db.history
  rw [Option.map_map, hrow, hevents]
  rfl

theorem opened_closeRuntimeState (db : Db) (i : Nat) (t : Time) (userId : Option Nat) :
    (db.closeRuntimeState i t userId).opened i = false := by
  unfold Db.opened Db.closeRuntimeState
  rw [List.any_eq_false]
  intro w hw
  obtain ⟨w₀, -, rfl⟩ := mem_updateWhere.1 hw
  split
  · simp [WorkItem.close]
  · rename_i hne
    simpa using hne

/-- Closing an instance's rows closes its items. -/
theorem life_closeRuntimeState (db : Db) (i : Nat) (t : Time) (userId : Option Nat) :
    (db.closeRuntimeState i t userId).life i = (db.life i).map fun l => { l with opened := false } := by
  have hrow : (db.closeRuntimeState i t userId).life i =
      ((db.updateInstance i ({ · with taskUpdatedAt := some t })).life i).map fun l => { l with opened := false } := by
    rw [← opened_closeRuntimeState db i t userId]
    exact life_items rfl rfl
  rw [hrow, life_updateInstance (fun p => p) (by intro _; rfl) (by intro _; rfl), Option.map_map]
  rfl

/-! ## Operations on one instance -/

theorem seq_of_steps (h : Steps (Change env F) L s s') : s.seq ≤ s'.seq := by
  refine Steps.keeps (R := fun s s' : Tx Ω => s.seq ≤ s'.seq) ⟨fun _ => le_refl _, fun h₁ h₂ => h₁.trans h₂⟩ ?_ h
  intro l _ s₁ s₂ hc
  cases hc <;> simp

/-- A call that returned made moves of instance `i` only. -/
structure Moved (C : Cause → Prop) (i : Nat) (s s' : Tx Ω) : Prop where
  path : Path C (s.view.life i) (s'.view.life i)
  others : ∀ j, j ≠ i → s'.view.life j = s.view.life j
  base : s'.base = s.base
  committed : s'.committed = s.committed
  filed : Filed s'.seq s'.view
  seq : s.seq ≤ s'.seq

theorem Moved.refl {C : Cause → Prop} (h : Filed s.seq s.view) : Moved C i s s :=
  ⟨.refl _, fun _ _ => rfl, rfl, rfl, h, le_refl _⟩

theorem Moved.trans {C : Cause → Prop} {s₁ s₂ s₃ : Tx Ω} (h₁ : Moved C i s₁ s₂) (h₂ : Moved C i s₂ s₃) :
    Moved C i s₁ s₃ :=
  ⟨h₁.path.trans h₂.path, fun j hj => (h₂.others j hj).trans (h₁.others j hj), h₂.base.trans h₁.base,
    h₂.committed.trans h₁.committed, h₂.filed, h₁.seq.trans h₂.seq⟩

theorem Moved.mono {C C' : Cause → Prop} (hC : ∀ c, C c → C' c) (h : Moved C i s s') : Moved C' i s s' :=
  ⟨h.path.mono hC, h.others, h.base, h.committed, h.filed, h.seq⟩

/-- The session after some changes made for an instance, given where its life went. -/
theorem Moved.of_steps {C : Cause → Prop} (hfiled : Filed s.seq s.view) (hF : F.Stands s.view)
    (hsteps : Steps (Change env F) L s s') (hpath : Path C (s.view.life F.instanceId) (s'.view.life F.instanceId)) :
    Moved C F.instanceId s s' :=
  have hcommitted := committed_of_steps hsteps
  ⟨hpath, fun _ hj => life_of_steps (Ne.symm hj) hsteps, hcommitted.1, hcommitted.2, hfiled.steps hF hsteps,
    seq_of_steps hsteps⟩

theorem Moved.of_calm {C : Cause → Prop} (hfiled : Filed s.seq s.view) (hF : F.Stands s.view) (hL : L ⊆ calm)
    (hsteps : Steps (Change env F) L s s') : Moved C F.instanceId s s' := by
  refine .of_steps hfiled hF hsteps ?_
  rw [life_of_calm hL hsteps]
  exact .refl _

theorem stands_of_mem (hpi : pi ∈ s.view.processInstances) : pi.focus.Stands s.view := ⟨pi, hpi, rfl, rfl⟩

/-- Some changes and an event that records them. -/
theorem moved_recorded (env : Env W Ω) {C : Cause → Prop} {s₁ : Tx Ω} (hfiled : Filed s.seq s.view)
    (hpi : pi ∈ s.view.processInstances)
    {eventType : EventType} {occurredAt : Time} {taskGuid : Option Guid} {userId : Option Nat}
    (hrun : (recordProcessInstanceEvent tenantId pi.id eventType occurredAt taskGuid userId).run s₁ = (.ok (), s'))
    (hsteps : Steps (Change env pi.focus) L s s₁) (htype : eventType.isLifecycle = true)
    (hpath : Path C (s.view.life pi.id) ((s₁.view.life pi.id).map fun l => { l with history := l.history ++ [eventType] })) :
    Moved C pi.id s s' := by
  have hall : Steps (Change env pi.focus) (.seq :: .event :: L) s s' :=
    .trans (hsteps.mono (by simp)) ((recordProcessInstanceEvent_touches _ rfl _ _ _ _ (by simp)).steps hrun)
  refine .of_steps hfiled (stands_of_mem hpi) hall ?_
  obtain ⟨row, hrow, hrowtype, rfl⟩ := recordProcessInstanceEvent_ok hrun
  change Path C (s.view.life pi.id) (Db.life _ pi.id)
  rw [life_event hrow (hrowtype ▸ htype), hrowtype]
  exact hpath

theorem suspendProcessInstance_moved (hfiled : Filed s.seq s.view) {processInstanceId userId : Nat} {at_ : Option Time}
    (h : (suspendProcessInstance env tenantId processInstanceId userId at_).run s = (.ok (), s')) :
    Moved (· = .suspend) processInstanceId s s' := by
  unfold suspendProcessInstance at h
  obtain ⟨pi, s₁, hopen, h₁⟩ := Prog.bind_ok.1 h
  obtain ⟨rfl, hpi, -, rfl⟩ := openProcessInstanceCommand_ok hopen
  split at h₁
  · obtain ⟨-, rfl⟩ := Prog.pure_ok.1 h₁
    exact .refl hfiled
  · rename_i hne
    split at h₁
    · simp at h₁
    · rename_i hterminal
      simp only [resolveTimestamp, updateInstance, write, Prog.gets_bind_run, Prog.modify_bind_run] at h₁
      refine moved_recorded env hfiled hpi h₁ (.one (L := [.status]) (by decide) (.status _ _ fun _ => rfl)) rfl ?_
      change Path _ _ (Option.map _ ((Db.updateInstance _ pi.id _).life pi.id))
      rw [life_updateInstance (fun p => ⟨.suspended, p.endedAt⟩) (by intro _; rfl) (by intro _; rfl), life_of_mem hfiled hpi]
      refine .one ?_ (.suspend _ ?_ ?_)
      · rfl
      · exact Bool.eq_false_iff.2 hterminal
      · exact hne

/-- Closing an instance: the status, the end, the rows and the event. `g`
closes the items of the instance. -/
theorem moved_closed (env : Env W Ω) {C : Cause → Prop} {c : Cause} (hc : C c) (hfiled : Filed s.seq s.view)
    (hpi : pi ∈ s.view.processInstances) {f : ProcessInstance → ProcessInstance} {g : Db → Db}
    {status : ProcessInstanceStatus} {t : Time} {userId : Option Nat} {eventType : EventType} {occurredAt : Time}
    {taskGuid : Option Guid}
    (hrun : (recordProcessInstanceEvent tenantId pi.id eventType occurredAt taskGuid userId).run { s with
      view := g (s.view.updateInstance pi.id f) } = (.ok (), s'))
    (hclose : Touches (Change env pi.focus) closing (write g))
    (hlife : (g (s.view.updateInstance pi.id f)).life pi.id =
      ((s.view.updateInstance pi.id f).life pi.id).map fun l => { l with opened := false })
    (hf : ∀ p, (f p).identity = p.identity ∧ (f p).phase = ⟨status, some t⟩) (htype : eventType.isLifecycle = true)
    (hmove : ∀ l : Life, l.phase = pi.phase →
      Move c (some l) (some ⟨⟨status, some t⟩, l.history ++ [eventType], false⟩)) : Moved C pi.id s s' := by
  have hsteps : Steps (Change env pi.focus) closing s { s with view := g (s.view.updateInstance pi.id f) } := by
    refine .trans (.one (by decide) (.status s f fun p => (hf p).1)) ?_
    exact hclose { s with view := s.view.updateInstance pi.id f }
  refine moved_recorded env hfiled hpi hrun hsteps htype ?_
  change Path _ _ (Option.map _ ((g (s.view.updateInstance pi.id f)).life pi.id))
  rw [hlife, life_updateInstance (fun _ => ⟨status, some t⟩) (fun p => (hf p).1) fun p => (hf p).2, life_of_mem hfiled hpi]
  exact .one hc (hmove _ rfl)

theorem terminateProcessInstance_moved (env : Env W Ω) (hfiled : Filed s.seq s.view) {processInstanceId userId : Nat}
    {at_ : Option Time} (h : (terminateProcessInstance env tenantId processInstanceId userId at_).run s = (.ok (), s')) :
    Moved (· = .terminate) processInstanceId s s' := by
  unfold terminateProcessInstance at h
  obtain ⟨pi, s₁, hopen, h₁⟩ := Prog.bind_ok.1 h
  obtain ⟨rfl, hpi, -, rfl⟩ := openProcessInstanceCommand_ok hopen
  split at h₁
  · obtain ⟨-, rfl⟩ := Prog.pure_ok.1 h₁
    exact .refl hfiled
  · rename_i hne
    split at h₁
    · simp at h₁
    · rename_i hended
      simp only [resolveTimestamp, updateInstance, write, Prog.gets_bind_run, Prog.modify_bind_run] at h₁
      refine moved_closed env (c := .terminate)
        (g := fun db => db.closeRuntimeState pi.id (at_.getD (env.now s₁.world)) (some userId)) rfl hfiled hpi h₁
        (closeRuntimeState_touches _ _ (by decide))
        (life_closeRuntimeState _ _ _ _) (fun _ => ⟨rfl, rfl⟩) rfl fun l hphase => ?_
      refine .terminate l ?_ _
      rw [hphase]
      have hstatus : pi.phase.status = pi.status := rfl
      simp [ProcessInstanceStatus.isTerminal, hstatus] at hended ⊢
      exact ⟨hended, hne⟩

/-- An instance is in `error` already, or may be taken there and is. -/
theorem errorProcessInstance_ok {processInstanceId : Nat} {userId : Option Nat} {at_ : Option Time}
    (h : (errorProcessInstance env tenantId processInstanceId userId at_).run s = (.ok (), s')) :
    ∃ pi ∈ s.view.processInstances, pi.id = processInstanceId ∧ (pi.status = .error ∧ s' = s ∨
      pi.hasTerminalStatus = false ∧
        (recordProcessInstanceEvent tenantId pi.id .processInstanceError (at_.getD (env.now s.world)) none userId).run { s with
          view := (s.view.updateInstance pi.id ({ · with
            status := .error, endedAt := some (at_.getD (env.now s.world)),
            updatedAt := some (at_.getD (env.now s.world)) })).closeRuntimeState pi.id (at_.getD (env.now s.world)) userId } =
          (.ok (), s')) := by
  have hrest : ∀ {s s' : Tx Ω}, (do
      let pi ← loadProcessInstance tenantId processInstanceId
      if pi.status = .error then pure ()
      else if pi.status = .complete then
        Prog.raise (.invalidState "Cannot mark a completed process instance as errored")
      else if pi.status = .terminated then
        Prog.raise (.invalidState "Cannot mark a terminated process instance as errored")
      else do
        let occurredAt ← resolveTimestamp env at_
        updateInstance processInstanceId
          ({ · with status := .error, endedAt := some occurredAt, updatedAt := some occurredAt })
        write (·.closeRuntimeState processInstanceId occurredAt userId)
        recordProcessInstanceEvent tenantId processInstanceId .processInstanceError occurredAt none userId :
        M Ω Unit).run s = (.ok (), s') →
      ∃ pi ∈ s.view.processInstances, pi.id = processInstanceId ∧ (pi.status = .error ∧ s' = s ∨
        pi.hasTerminalStatus = false ∧
          (recordProcessInstanceEvent tenantId pi.id .processInstanceError (at_.getD (env.now s.world)) none userId).run { s with
            view := (s.view.updateInstance pi.id ({ · with
              status := .error, endedAt := some (at_.getD (env.now s.world)),
              updatedAt := some (at_.getD (env.now s.world)) })).closeRuntimeState pi.id (at_.getD (env.now s.world)) userId } =
            (.ok (), s')) := by
    intro s s' h
    obtain ⟨pi, s₁, hload, h₁⟩ := Prog.bind_ok.1 h
    obtain ⟨rfl, hpi, -, rfl⟩ := loadProcessInstance_ok hload
    refine ⟨pi, hpi, rfl, ?_⟩
    split at h₁
    · rename_i herror
      exact .inl ⟨herror, (Prog.pure_ok.1 h₁).2.symm⟩
    · rename_i herror
      split at h₁
      · simp at h₁
      · rename_i hcomplete
        split at h₁
        · simp at h₁
        · rename_i hterminated
          exact .inr ⟨by simp [ProcessInstance.hasTerminalStatus, herror, hcomplete, hterminated], h₁⟩
  unfold errorProcessInstance at h
  dsimp only at h
  cases userId with
  | none => exact hrest h
  | some userId =>
    obtain ⟨_, s₁, hmember, h₁⟩ := Prog.bind_ok.1 h
    obtain rfl := (ensureUserBelongsToTenant_readOnly _ _).state hmember
    exact hrest h₁

theorem errorProcessInstance_moved (env : Env W Ω) (hfiled : Filed s.seq s.view) {processInstanceId : Nat}
    {userId : Option Nat} {at_ : Option Time}
    (h : (errorProcessInstance env tenantId processInstanceId userId at_).run s = (.ok (), s')) :
    Moved (· = .error) processInstanceId s s' := by
  obtain ⟨pi, hpi, rfl, ⟨-, rfl⟩ | ⟨hopen, hrecord⟩⟩ := errorProcessInstance_ok h
  · exact .refl hfiled
  · refine moved_closed env (c := .error)
      (g := fun db => db.closeRuntimeState pi.id (at_.getD (env.now s.world)) userId) rfl hfiled hpi hrecord
      (closeRuntimeState_touches _ _ (by decide))
      (life_closeRuntimeState _ _ _ _) (fun _ => ⟨rfl, rfl⟩) rfl fun l hphase => ?_
    refine .error l ?_ _
    rw [hphase]
    exact hopen

/-- The rest of a resume, once its checks are done. -/
theorem resumed_moved (hfiled : Filed s.seq s.view) (hpi : pi ∈ s.view.processInstances) (hsuspended : pi.status = .suspended)
    {f : ProcessInstance → ProcessInstance}
    (hf : ∀ p, (f p).identity = p.identity ∧ (f p).phase = ⟨.running, p.phase.endedAt⟩) {loaded : Option (List Nat)}
    {occurredAt : Time} {userId : Option Nat}
    (h : (do
      syncOpenWorkItemPotentialOwners env tenantId pi.id loaded
      recordProcessInstanceEvent tenantId pi.id .processInstanceResumed occurredAt none userId : M Ω Unit).run
        { s with view := s.view.updateInstance pi.id f } = (.ok (), s')) : Moved (· = .resume) pi.id s s' := by
  obtain ⟨_, s₂, hsync, h₂⟩ := Prog.bind_ok.1 h
  have hcalm : Steps (Change env pi.focus) [.seq, .shared, .lane] _ s₂ :=
    (syncOpenWorkItemPotentialOwners_touches _ _ _ (by decide)).steps hsync
  have hsteps : Steps (Change env pi.focus) [.status, .seq, .shared, .lane] s s₂ := by
    refine .trans ?_ (hcalm.mono (by decide))
    exact .one (by decide) (.status _ _ fun p => (hf p).1)
  refine moved_recorded env hfiled hpi h₂ hsteps rfl ?_
  rw [life_of_calm (by decide) hcalm]
  change Path _ _ (Option.map _ ((Db.updateInstance _ pi.id _).life pi.id))
  rw [life_updateInstance (fun p => ⟨.running, p.endedAt⟩) (fun p => (hf p).1) (fun p => (hf p).2), life_of_mem hfiled hpi]
  exact .one (C := (· = .resume)) rfl (.resume _ hsuspended)

theorem resumeProcessInstance_moved (hfiled : Filed s.seq s.view) {processInstanceId userId : Nat} {at_ : Option Time}
    (h : (resumeProcessInstance env tenantId processInstanceId userId at_).run s = (.ok (), s')) :
    Moved (· = .resume) processInstanceId s s' := by
  unfold resumeProcessInstance at h
  obtain ⟨pi, s₁, hopen, h₁⟩ := Prog.bind_ok.1 h
  obtain ⟨rfl, hpi, -, rfl⟩ := openProcessInstanceCommand_ok hopen
  split at h₁
  · obtain ⟨-, rfl⟩ := Prog.pure_ok.1 h₁
    exact .refl hfiled
  split at h₁
  · simp at h₁
  split at h₁
  · simp at h₁
  rename_i hsuspended
  simp only [resolveTimestamp, updateInstance, write, Prog.gets_bind_run, Prog.modify_bind_run] at h₁
  refine resumed_moved hfiled hpi (not_not.1 hsuspended) ?_ h₁
  exact fun _ => ⟨rfl, rfl⟩

theorem scheduleProcessInstanceRetry_moved (hfiled : Filed s.seq s.view) {processInstanceId userId : Nat} {retryAt : Time}
    {at_ : Option Time} {C : Cause → Prop}
    (h : (scheduleProcessInstanceRetry env tenantId processInstanceId userId retryAt at_).run s = (.ok (), s')) :
    Moved C processInstanceId s s' := by
  have hopen := h
  unfold scheduleProcessInstanceRetry at hopen
  obtain ⟨pi, s₁, hopen, -⟩ := Prog.bind_ok.1 hopen
  obtain ⟨-, hpi, -, rfl⟩ := openProcessInstanceCommand_ok hopen
  have hsteps : Steps (Change env pi.focus) [.seq, .job] s s' :=
    (scheduleProcessInstanceRetry_touches tenantId rfl userId retryAt at_ (by decide)).steps h
  exact .of_calm hfiled (stands_of_mem hpi) (by decide) hsteps

/-! ## Saves -/

theorem Change.history {l : Touch} (hevent : l ≠ .event) (hc : Change env F l s s') :
    s'.view.history j = s.view.history j := by
  cases hc with
  | shared hdb =>
    unfold Db.history
    rw [hdb.events]
  | note _ row hrow htype =>
    unfold Db.history
    simp [htype]
  | event => exact absurd rfl hevent
  | _ => rfl

theorem history_of_steps (hevent : Touch.event ∉ L) (h : Steps (Change env F) L s s') :
    s'.view.history j = s.view.history j :=
  Steps.keeps (R := fun s s' : Tx Ω => s'.view.history j = s.view.history j) ⟨fun _ => rfl, fun h₁ h₂ => h₂.trans h₁⟩
    (fun _ hl _ _ hc => hc.history (by rintro rfl; exact hevent hl)) h

theorem Change.phase {l : Touch} (hstatus : l ≠ .status) (hnew : l ≠ .newInstance) (hc : Change env F l s s') :
    (s'.view.processInstance? j).map (·.phase) = (s.view.processInstance? j).map (·.phase) := by
  cases hc with
  | shared hdb =>
    unfold Db.processInstance?
    rw [hdb.processInstances]
  | details _ f hf =>
    rw [processInstance?_updateInstance fun p => (hf p).1, Option.map_map]
    refine congrArg (Option.map · _) (funext fun p => ?_)
    simp only [Function.comp_apply]
    split
    · exact (hf p).2
    · rfl
  | status => exact absurd rfl hstatus
  | newInstance => exact absurd rfl hnew
  | _ => rfl

theorem phase_of_steps (hstatus : Touch.status ∉ L) (hnew : Touch.newInstance ∉ L) (h : Steps (Change env F) L s s') :
    (s'.view.processInstance? j).map (·.phase) = (s.view.processInstance? j).map (·.phase) :=
  Steps.keeps (R := fun s s' : Tx Ω =>
    (s'.view.processInstance? j).map (·.phase) = (s.view.processInstance? j).map (·.phase))
    ⟨fun _ => rfl, fun h₁ h₂ => h₂.trans h₁⟩
    (fun _ hl _ _ hc => hc.phase (by rintro rfl; exact hstatus hl) (by rintro rfl; exact hnew hl)) h

/-- Changes of the items alone show in `opened` alone. -/
theorem life_of_items (hstatus : Touch.status ∉ L) (hevent : Touch.event ∉ L) (hnew : Touch.newInstance ∉ L)
    (h : Steps (Change env F) L s s') :
    s'.view.life j = (s.view.life j).map fun l => { l with opened := s'.view.opened j } := by
  rw [s'.view.life_eq, s.view.life_eq, phase_of_steps hstatus hnew h, history_of_steps hevent h]
  cases s.view.processInstance? j <;> rfl

/-- A save, seen from the instance's life. -/
structure Resaved (l l' : Life) : Prop where
  phase : l'.phase.OfWorkflow
  history : l'.history = l.history
  closed : l'.phase.status = .complete → l'.opened = false

theorem statusOf_ofWorkflow {p : Phase} (hstatus : p.status = statusOf env w)
    (hended : p.endedAt.isSome ↔ env.completed w = true) : p.OfWorkflow := by
  unfold Phase.OfWorkflow
  unfold statusOf at hstatus
  cases hcompleted : env.completed w with
  | true =>
    rw [hcompleted, if_pos rfl] at hstatus
    exact .inl ⟨hstatus, hended.2 hcompleted⟩
  | false =>
    have hnone : p.endedAt = none := by
      rw [← Option.not_isSome_iff_eq_none, hended, hcompleted]
      simp
    rw [hcompleted] at hstatus
    simp only [Bool.false_eq_true, if_false] at hstatus
    refine .inr ⟨?_, hnone⟩
    split at hstatus
    · exact .inl hstatus
    · split at hstatus
      · exact .inr (.inl hstatus)
      · exact .inr (.inr hstatus)

theorem complete_of_statusOf (h : statusOf env w = .complete) : env.completed w = true := by
  unfold statusOf at h
  split at h
  · assumption
  · split at h
    · simp at h
    · split at h <;> simp at h

theorem readyManualTasks_of_completed (hlaw : env.Lawful) (h : env.completed w = true) : env.readyManualTasks w = [] := by
  unfold Env.readyManualTasks
  rw [List.filter_eq_nil_iff]
  intro t ht hready
  simp only [Bool.and_eq_true, beq_iff_eq] at hready
  exact hlaw.completed_idle h t ht hready.1

/-- No item stays open when a completed workflow is saved. -/
theorem closed_of_completed (hlaw : env.Lawful) (hcompleted : env.completed w = true) (hfiled : Filed s.seq s.view)
    (hstands : pi.focus.Stands s.view) {occurredAt : Time} {s₁ : Tx Ω}
    (hinactive : (syncInactiveWorkItems env pi w occurredAt).run s = (.ok (), s₁))
    (hready : (materializeReadyManualTasks env pi w occurredAt).run s₁ = (.ok (), s')) : s'.view.opened pi.id = false := by
  have hnone : ∀ db : Db, currentReadyManualTasks env db pi.id w = [] := by
    intro db
    unfold currentReadyManualTasks
    rw [readyManualTasks_of_completed hlaw hcompleted]
    rfl
  obtain ⟨p, hp, hpid, hptenant⟩ := hstands
  have honly := syncInactiveWorkItems_openOnly
    (fun item hitem hid => (hfiled.item_tenant item hitem p hp (hpid.trans hid.symm)).symm.trans hptenant) hinactive
  rw [hnone] at honly
  have hsame : s' = s₁ := by
    unfold materializeReadyManualTasks at hready
    simp only [query, Prog.gets_bind_run, hnone, Prog.forEach_nil] at hready
    exact (Prog.pure_ok.1 hready).2.symm
  subst hsame
  unfold Db.opened
  rw [List.any_eq_false]
  intro item hitem hopen
  simp only [Bool.and_eq_true, beq_iff_eq, Bool.not_eq_true'] at hopen
  obtain ⟨g, hg, -⟩ := honly item hitem hopen.1 hopen.2
  simp at hg

/-- A save that returns, for the instance's life. -/
theorem saveWorkflow_resaved (hlaw : env.Lawful) (hfiled : Filed s.seq s.view) (hstands : pi.focus.Stands s.view)
    {occurredAt : Time} {starting : Bool} {l : Life} (hlife : s.view.life pi.id = some l)
    (hrun : (saveWorkflow env pi w occurredAt starting).run s = (.ok (), s')) :
    ∃ l', s'.view.life pi.id = some l' ∧ Resaved l l' := by
  have hF := pi.focus_of
  have hcovers : pi.focus.Covers env w := pi.focus_covers w
  unfold saveWorkflow at hrun
  obtain ⟨_, s₁, hpersist, hrun₁⟩ := Prog.bind_ok.1 hrun
  obtain ⟨_, s₂, hinactive, hrun₂⟩ := Prog.bind_ok.1 hrun₁
  obtain ⟨_, s₃, hready, hrun₃⟩ := Prog.bind_ok.1 hrun₂
  have hstart : ∃ s₄, Steps (Change env pi.focus) [.details] s₃ s₄ ∧
      (updateProcessInstanceStatusFromWorkflow env pi w occurredAt).run s₄ = (.ok (), s') := by
    cases starting with
    | false => exact ⟨s₃, .refl s₃, hrun₃⟩
    | true =>
      obtain ⟨_, s₄, hstarted, hstatus⟩ := Prog.bind_ok.1 hrun₃
      refine ⟨s₄, Touches.steps ?_ hstarted, hstatus⟩
      exact updateInstance_touches hF.id (by decide) fun _ => ⟨rfl, rfl⟩
  obtain ⟨s₄, h₄, hstatus⟩ := hstart
  have h₁ : Steps (Change env pi.focus) persisting s s₁ :=
    (persistWorkflowState_touches hF hcovers _ (List.Subset.refl _)).steps hpersist
  have h₂ : Steps (Change env pi.focus) [.item, .shared, .seq, .note] s₁ s₂ :=
    (syncInactiveWorkItems_touches hF _ _ (by decide)).steps hinactive
  have h₃ : Steps (Change env pi.focus) materializing s₂ s₃ :=
    (materializeReadyManualTasks_touches hF hcovers _ (List.Subset.refl _)).steps hready
  have hlife₄ : s₄.view.life pi.id = some { l with opened := s₄.view.opened pi.id } := by
    have h₀₄ : Steps (Change env pi.focus) (persisting ++ materializing ++ [.note]) s s₄ :=
      (h₁.mono (by decide)).trans ((h₂.mono (by decide)).trans ((h₃.mono (by decide)).trans (h₄.mono (by decide))))
    rw [life_of_items (by decide) (by decide) (by decide) h₀₄, hlife]
    rfl
  obtain ⟨f, hf, hrow⟩ := updateProcessInstanceStatusFromWorkflow_rows hstatus
  have h₅ : Steps (Change env pi.focus) [.status, .process, .shared] s₄ s' :=
    (updateProcessInstanceStatusFromWorkflow_touches hF w occurredAt (by decide)).steps hstatus
  have hopened : s'.view.opened pi.id = s₄.view.opened pi.id := by
    unfold Db.opened
    rw [workItems_of_steps (by decide) (by decide) (by decide) h₅]
  -- The status update finds the row and gives it the workflow's phase.
  obtain ⟨p, hp, -⟩ := Option.map_eq_some_iff.1 hlife₄
  have hfound : s'.view.processInstance? pi.id = some (f p) := by
    have hid : (p.id == pi.id) = true := by simpa using processInstance?_id hp
    have hupdate : s'.view.processInstance? pi.id = (s₄.view.updateInstance pi.id f).processInstance? pi.id := by
      unfold Db.processInstance? Db.updateInstance
      rw [hf]
    rw [hupdate, processInstance?_updateInstance fun p => (hrow p).1, hp, Option.map_some, if_pos hid]
  refine ⟨⟨(f p).phase, s'.view.history pi.id, s'.view.opened pi.id⟩, ?_, ?_, ?_, ?_⟩
  · rw [s'.view.life_eq, hfound]
    rfl
  · exact statusOf_ofWorkflow (hrow p).2.1 (hrow p).2.2
  · have h₀₅ : Steps (Change env pi.focus) saving s s' :=
      (h₁.mono (by decide)).trans ((h₂.mono (by decide)).trans ((h₃.mono (by decide)).trans
        ((h₄.mono (by decide)).trans (h₅.mono (by decide)))))
    obtain ⟨_, -, rfl⟩ := Option.map_eq_some_iff.1 hlife
    exact history_of_steps (by decide) h₀₅
  · intro hcomplete
    have hcompleted := complete_of_statusOf ((hrow p).2.1.symm.trans hcomplete)
    have hclosed := closed_of_completed hlaw hcompleted (hfiled.steps hstands h₁) (hstands.steps h₁) hinactive hready
    have h₃₄ : s₄.view.opened pi.id = s₃.view.opened pi.id := by
      unfold Db.opened
      rw [workItems_of_steps (by decide) (by decide) (by decide) h₄]
    change s'.view.opened pi.id = false
    rw [hopened, h₃₄, hclosed]

end
end M8flowCore
