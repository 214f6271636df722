import M8flowCore.Stories
/-!
# Every call tells a story

The service functions, followed from the session they start in. A function
that works on one instance `Goes` on with acts on that instance: `T` is what is
followed in the session, `E` what is left when the function raises. The
operations of the library are told from these.
-/
open M8flowCore.Lib M8flowCore.Session

namespace M8flowCore

section
variable {W Ω : Type} {env : Env W Ω} {owner : Guid → Nat} {I : Nat → Prop} {A : Touch → Prop} {others : List Db}
  {T E P P' : Tx Ω → Prop} {α β : Type} {F : Focus} {L : List Touch} {s s' : Tx Ω} {pi : ProcessInstance} {w : W}

/-! ## Following a session -/

variable (env owner I A others) in
/-- `T` is kept by every act on instances of `I` with changes of `A`. -/
structure Follow (T E : Tx Ω → Prop) : Prop where
  firm : ∀ s, T s → Firm env owner others s
  act : ∀ {texts s s'}, Act env owner I A texts s s' → T s → T s'
  left : ∀ s, T s → E s

/-- Started where `P` holds, `m` goes on as `T` says, and returns where `Q` holds. -/
def Goes (T E P : Tx Ω → Prop) (m : M Ω α) (Q : α → Tx Ω → Prop) : Prop :=
  Prog.Ends (fun s => T s ∧ P s) m (fun a s => T s ∧ Q a s) fun _ => E

theorem goes_bind {m : M Ω α} {f : α → M Ω β} {Q : α → Tx Ω → Prop} {R : β → Tx Ω → Prop} (hm : Goes T E P m Q)
    (hf : ∀ a, Goes T E (Q a) (f a) R) : Goes T E P (m >>= f) R := Prog.ends_bind hm hf

theorem Goes.pre {m : M Ω α} {Q : α → Tx Ω → Prop} (h : Goes T E P m Q) (hP : ∀ s, T s → P' s → P s) : Goes T E P' m Q :=
  Prog.Ends.weaken h (fun s hs => ⟨hs.1, hP s hs.1 hs.2⟩) (fun _ _ h => h) fun _ _ h => h

theorem Goes.post {m : M Ω α} {Q Q' : α → Tx Ω → Prop} (h : Goes T E P m Q) (hQ : ∀ a s, T s → Q a s → Q' a s) :
    Goes T E P m Q' := Prog.Ends.weaken h (fun _ hs => hs) (fun a s hs => ⟨hs.1, hQ a s hs.1 hs.2⟩) fun _ _ h => h

/-- What is known once and for all may be used for the rest. -/
theorem goes_of_fact {p : Prop} {m : M Ω α} {Q : α → Tx Ω → Prop} (h : p → Goes T E P m Q) :
    Goes T E (fun s => p ∧ P s) m Q := fun s hs => h hs.2.1 s ⟨hs.1, hs.2.2⟩

theorem goes_pure (a : α) : Goes T E P (pure a) fun b s => b = a ∧ P s := Prog.ends_pure a fun _ hs => ⟨hs.1, rfl, hs.2⟩

theorem goes_raise (hE : ∀ s, T s → E s) (e : Error) {Q : α → Tx Ω → Prop} : Goes T E P (Prog.raise e) Q :=
  Prog.ends_raise e fun s hs => hE s hs.1

/-- Reading leaves everything as it was. -/
theorem goes_readOnly (hE : ∀ s, T s → E s) {m : M Ω α} (h : m.ReadOnly) :
    Goes T E P m fun a s => m.run s = (.ok a, s) ∧ P s := by
  refine fun s hs => ⟨fun a s' hm => ?_, fun e s' hm => ?_⟩
  · obtain rfl := h.state hm
    exact ⟨hs.1, hm, hs.2⟩
  · obtain rfl := h.state hm
    exact hE s' hs.1

theorem goes_query (f : Db → α) : Goes T E P (query f) fun a s => a = f s.view ∧ P s :=
  Prog.ends_gets _ fun _ hs => ⟨hs.1, rfl, hs.2⟩

theorem goes_resolveTimestamp (t : Option Time) : Goes T E P (resolveTimestamp env t) fun _ => P :=
  Prog.ends_gets _ fun _ hs => hs

theorem goes_ofExcept (hE : ∀ s, T s → E s) (r : Except Error α) :
    Goes T E P (ofExcept r) fun a s => r = .ok a ∧ P s :=
  (goes_readOnly hE (ofExcept_readOnly r)).post fun _ _ _ h => ⟨(ofExcept_ok h.1).1, h.2⟩

theorem goes_orRaise (hE : ∀ s, T s → E s) (e : Error) (o : Option α) :
    Goes T E P (Prog.orRaise e o) fun a s => o = some a ∧ P s :=
  (goes_readOnly hE (Prog.keeps_orRaise Prog.frame_eq e o)).post fun _ _ _ h => ⟨(Prog.orRaise_ok.1 h.1).1, h.2⟩

theorem goes_forEach {g : α → M Ω Unit} {xs : List α} (hg : ∀ x ∈ xs, Goes T E P (g x) fun _ => P) :
    Goes T E P (Prog.forEach xs g) fun _ => P := by
  induction xs with
  | nil => exact Prog.ends_pure () fun _ hs => hs
  | cons x xs ih =>
    rw [Prog.forEach_cons]
    exact goes_bind (hg x (by simp)) fun _ => ih fun y hy => hg y (by simp [hy])

/-- A program that keeps what is followed, however it ends. -/
theorem goes_of_keeps (hE : ∀ s, T s → E s) {m : M Ω α} (h : m.Keeps fun s s' => T s ∧ P s → T s' ∧ P s') :
    Goes T E P m fun _ => P :=
  fun _ hs => ⟨fun _ _ hm => h.of_ok hm hs, fun _ s' hm => hE s' (h.of_ok hm hs).1⟩

/-- A footprint without lanes, locks and snapshots. -/
theorem goes_touches (hT : Follow env owner I A others T E) {m : M Ω α} (htouches : Touches (Change env F) L m)
    (hI : I F.instanceId) (hA : ∀ l ∈ L, A l) (hplain : ∀ l ∈ L, l ≠ .lane ∧ l ≠ .lock ∧ l ≠ .snapshot)
    (hF : ∀ s, T s → P s → F.Suits owner L s) (hP : ∀ l ∈ L, ∀ s s', Change env F l s s' → P s → P s') :
    Goes T E P m fun _ => P := by
  refine goes_of_keeps hT.left fun s hs => ?_
  have hall := (htouches s).inv (P := fun s₁ => T s₁ ∧ P s₁ ∧ F.Suits owner L s₁) ?_ ⟨hs.1, hs.2, hF s hs.1 hs.2⟩
  · exact ⟨hall.1, hall.2.1⟩
  · rintro l hl s₁ s₂ hc ⟨hs₁, hP₁, hF₁⟩
    have ha : Act env owner I A [] s₁ s₂ := .change hI (hA l hl) (hplain l hl) (hF₁.sub (by simpa using hl)) hc
    exact ⟨hT.act ha hs₁, hP l hl s₁ s₂ hc hP₁, hF₁.change hc⟩

/-- Changes that need no instance to be there. -/
theorem goes_apart (hT : Follow env owner I A others T E) {m : M Ω α} {i : Nat}
    (htouches : Touches (Change env ⟨"", i, none, fun _ => False⟩) L m) (hI : I i) (hA : ∀ l ∈ L, A l)
    (hplain : ∀ l ∈ L, l ≠ .lane ∧ l ≠ .lock ∧ l ≠ .snapshot) (hrooted : ∀ l ∈ L, l.rooted = false)
    (hP : ∀ l ∈ L, ∀ s s', Change env ⟨"", i, none, fun _ => False⟩ l s s' → P s → P s') : Goes T E P m fun _ => P :=
  goes_touches hT htouches hI hA hplain (fun _ _ _ => Focus.suits_of (by simp) hrooted) hP

/-- Changes of one instance that is there. -/
theorem goes_own (hT : Follow env owner I A others T E) {m : M Ω α}
    (htouches : Touches (Change env (pi.focusOn owner)) L m) (hI : I pi.id) (hA : ∀ l ∈ L, A l)
    (hplain : ∀ l ∈ L, l ≠ .lane ∧ l ≠ .lock ∧ l ≠ .snapshot) : Goes T E (Present pi) m fun _ => Present pi :=
  goes_touches hT htouches hI hA hplain (fun _ _ hpi => hpi.fits.suits _) fun _ _ _ _ hc hpi => hpi.change hc

/-! ## Saving a workflow -/

/-- A stored snapshot. Where the function raises, it has written nothing. -/
theorem syncBpmnProcessFromWorkflow_goes (hT : Follow env owner I A others T E) (henv : env.Engine owner) (hI : I pi.id)
    (hA : A .json ∧ A .snapshot) (hw : env.TasksOf owner pi.id w) {text : String} (htext : env.serializeJson w = .ok text)
    {T' : Tx Ω → Prop} (hstored : ∀ s s', T s → Act env owner I A [(pi.id, text)] s s' → T' s') :
    Prog.Ends (fun s => T s ∧ Present pi s) (syncBpmnProcessFromWorkflow env pi (env.toDict w) text)
      (fun _ s => T' s ∧ Present pi s) fun _ => E := by
  rintro s ⟨hs, hpi⟩
  refine ⟨fun u s' hrun => ?_, fun e s' hrun => ?_⟩
  · exact ⟨hstored s s' hs (.store hI hA hpi hw htext hrun), hpi.steps (store_steps henv hw htext hrun)⟩
  · have hsame : s' = s := by
      unfold syncBpmnProcessFromWorkflow createOrUpdateFromPayload Env.hashPayload at hrun
      simp only [query, Prog.gets_bind_run] at hrun
      cases hprocess : pi.bpmnProcessId.bind s.view.bpmnProcess? with
      | none => simp [hprocess] at hrun
      | some process =>
        cases hdata : env.normalizedPayload ((env.toDict w).data.set workflowStateJsonDataKey (.str text)) with
        | error e =>
          simp only [hprocess, hdata, Except.map, ofExcept, Prog.raise_bind, Prog.raise_run, Prod.mk.injEq] at hrun
          exact hrun.2.symm
        | ok data =>
          simp [hprocess, hdata, Except.map, ofExcept, write, Prog.bind_assoc] at hrun
    exact hT.left s' (hsame ▸ hs)

theorem persistWorkflowRecoveryState_goes (hT : Follow env owner I A others T E) (henv : env.Engine owner) (hI : I pi.id)
    (hA : A .details ∧ A .json ∧ A .snapshot) (hw : env.TasksOf owner pi.id w) {T' : Tx Ω → Prop}
    (hstored : ∀ text s s', T s → Act env owner I A [(pi.id, text)] s s' → T' s') :
    Prog.Ends (fun s => T s ∧ Present pi s) (persistWorkflowRecoveryState env pi w)
      (fun _ s => T' s ∧ Present pi s) fun _ => E := by
  refine Prog.ends_bind (goes_ofExcept hT.left _) fun text => ?_
  refine Prog.ends_bind (Q := fun _ s => T s ∧ env.serializeJson w = .ok text ∧ Present pi s) ?_ fun _ => ?_
  · refine goes_of_fact fun htext => (goes_own hT ?_ hI (L := [.details]) (by simpa using hA.1) (by decide)).post
      fun _ _ _ h => ⟨htext, h⟩
    exact updateInstance_touches rfl (List.Subset.refl _) fun _ => ⟨rfl, rfl⟩
  · rintro s ⟨hs, htext, hpi⟩
    exact syncBpmnProcessFromWorkflow_goes hT henv hI hA.2 hw htext (hstored text) s ⟨hs, hpi⟩

end

section
variable {W Ω : Type} {env : Env W Ω} {owner : Guid → Nat} {I : Nat → Prop} {T E P : Tx Ω → Prop} {L : List Touch}
  {pi : ProcessInstance} {w : W} (hT : Follow env owner I (fun _ => True) [] T E) (henv : env.Engine owner) (hI : I pi.id)
  (hw : env.TasksOf owner pi.id w)
include hT hI

/-- In the caller's session, what is done to one instance. -/
theorem goes_session {α : Type} {m : M Ω α} (htouches : Touches (Change env (pi.focusOn owner)) L m)
    (hplain : ∀ l ∈ L, l ≠ .lane ∧ l ≠ .lock ∧ l ≠ .snapshot) : Goes T E (Present pi) m fun _ => Present pi :=
  goes_own hT htouches hI (fun _ _ => trivial) hplain

include henv hw

theorem persistWorkflowState_goes (occurredAt : Time) :
    Goes T E (Present pi) (persistWorkflowState env pi w occurredAt) fun _ => Present pi := by
  have hF := pi.focusOn_of owner
  have hcovers := hw.covers henv
  refine goes_bind (goes_ofExcept hT.left _) fun text => goes_of_fact fun htext => ?_
  refine goes_bind (goes_session hT hI (L := [.details]) ?_ (by decide)) fun _ => ?_
  · exact updateInstance_touches rfl (List.Subset.refl _) fun _ => ⟨rfl, rfl⟩
  refine goes_bind (goes_session hT hI (L := [.seq, .shared]) ?_ (by decide)) fun _ => ?_
  · exact syncProcessDefinitionFromWorkflow_touches _ _ _ (List.Subset.refl _)
  refine goes_bind (Q := fun _ => Present pi) ?_ fun _ => ?_
  · exact syncBpmnProcessFromWorkflow_goes hT henv hI ⟨trivial, trivial⟩ hw htext fun s s' hs ha => hT.act ha hs
  refine goes_bind (goes_session hT hI (L := [.json, .task]) ?_ (by decide)) fun _ => ?_
  · exact syncTaskModelsFromWorkflow_touches hF _ _ hcovers.rows (List.Subset.refl _)
  refine goes_session hT hI (L := [.seq, .job]) ?_ (by decide)
  exact syncIntermediateTimerSchedulerJob_touches hF _ _ (List.Subset.refl _)

/-- The items with these ids are of the instance. -/
def Itemized (pi : ProcessInstance) (ids : List Nat) (s : Tx Ω) : Prop :=
  ∀ item ∈ s.view.workItems, item.id ∈ ids → item.processInstanceId = pi.id

omit hT hI henv hw in
theorem Itemized.same {ids : List Nat} {s s' : Tx Ω}
    (hitems : s'.view.workItems.map (·.identity) = s.view.workItems.map (·.identity)) (h : Itemized pi ids s) :
    Itemized pi ids s' := by
  intro item' hitem' hid
  have hmem : item'.identity ∈ s.view.workItems.map (·.identity) := by
    rw [← hitems]
    exact List.mem_map_of_mem hitem'
  obtain ⟨item, hitem, hsame⟩ := List.mem_map.1 hmem
  have hinstance : item.processInstanceId = item'.processInstanceId := congrArg ItemIdentity.instanceId hsame
  have hitemid : item.id = item'.id := congrArg ItemIdentity.id hsame
  exact hinstance ▸ h item hitem (hitemid ▸ hid)

omit hT hI henv hw in
/-- The items of an instance's own ids, while the keys are in order. -/
theorem Follow.itemized (hT : Follow env owner I (fun _ => True) [] T E) {s : Tx Ω} (hs : T s) {ids : List Nat}
    (hids : ∀ id ∈ ids, ∃ item ∈ s.view.workItems, item.id = id ∧ item.processInstanceId = pi.id) : Itemized pi ids s := by
  intro item' hitem' hid'
  obtain ⟨item, hitem, hid, hinstance⟩ := hids _ hid'
  have hsame := (hT.firm s hs).integral.keyed.item_key _ (mem_itemIds.2 ⟨s.view, by simp, item', hitem', rfl⟩) _
    (mem_itemIds.2 ⟨s.view, by simp, item, hitem, rfl⟩) hid.symm
  exact (congrArg ItemIdentity.instanceId hsame).trans hinstance

omit hI henv hw in
theorem upsertWorkItem_goes {guid : Guid} (hI : I pi.id) (hguid : owner guid = pi.id) (occurredAt : Time) :
    Goes T E (Present pi) (upsertWorkItem pi guid occurredAt) fun id s => Present pi s ∧ Itemized pi [id] s := by
  have hgoes := goes_session hT hI (L := [.item, .newItem, .details])
    (upsertWorkItem_touches (pi.focusOn_of owner) hguid occurredAt (List.Subset.refl _)) (by decide)
  rintro s ⟨hs, hpi⟩
  refine ⟨fun id s' hrun => ?_, fun e s' hrun => (hgoes s ⟨hs, hpi⟩).2 e s' hrun⟩
  obtain ⟨hs', hpi'⟩ := (hgoes s ⟨hs, hpi⟩).1 id s' hrun
  have hrow : ∃ item ∈ s'.view.workItems, item.id = id ∧ item.processInstanceId = pi.id := by
    unfold upsertWorkItem at hrun
    simp only [query, Prog.gets_bind_run] at hrun
    cases hfound : s.view.workItems.find? fun item =>
        item.m8fTenantId == pi.m8fTenantId && item.processInstanceId == pi.id && item.taskGuid == some guid with
    | none =>
      simp only [hfound, Session.insert, nextId, write, updateInstance] at hrun
      obtain ⟨hid, rfl⟩ := Prod.mk.inj hrun
      obtain rfl := Except.ok.inj hid
      exact ⟨_, List.mem_append_right _ (List.mem_singleton_self _), rfl, rfl⟩
    | some item =>
      simp only [hfound, write, updateInstance] at hrun
      obtain ⟨hid, rfl⟩ := Prod.mk.inj hrun
      obtain rfl := Except.ok.inj hid
      have hkey := List.find?_some hfound
      simp only [Bool.and_eq_true, beq_iff_eq] at hkey
      refine ⟨_, mem_updateWhere.2 ⟨item, List.mem_of_find?_eq_some hfound, rfl⟩, ?_⟩
      simp [WorkItem.prepareForReadyState, WorkItem.reopen, hkey.1.2]
  exact ⟨hs', hpi', hT.itemized hs' (by simpa using hrow)⟩

omit henv hw in
/-- The lane of an item of the instance may be set. -/
theorem assignWorkItemPotentialOwners_goes {ids : List Nat} {workItemId : Nat} (hid : workItemId ∈ ids) (laneName : PyVal)
    (taskData : Dict) (definitionProperties : Option Dict) :
    Goes T E (fun s => Present pi s ∧ Itemized pi ids s)
      (assignWorkItemPotentialOwners env pi workItemId laneName taskData definitionProperties)
      fun _ s => Present pi s ∧ Itemized pi ids s := by
  let F : Focus := ⟨"", pi.id, none, fun _ => False⟩
  have hplain : ∀ {l : Touch} {s s' : Tx Ω}, l.rooted = false → l ≠ .lane ∧ l ≠ .lock ∧ l ≠ .snapshot → l ≠ .newItem →
      Change env F l s s' → T s ∧ Present pi s ∧ Itemized pi ids s → T s' ∧ Present pi s' ∧ Itemized pi ids s' := by
    rintro l s s' hrooted hl hnew hc ⟨hs, hpi, hitem⟩
    have hF : F.Suits owner [l] s := Focus.suits_of (by simp [F]) (by simpa using hrooted)
    exact ⟨hT.act (.change hI trivial hl hF hc) hs, hpi.change hc, hitem.same (hc.itemIdentities hnew)⟩
  refine goes_of_keeps hT.left (assignWorkItemPotentialOwners_keeps ⟨fun _ h => h, fun h₁ h₂ h => h₂ (h₁ h)⟩
    (fun s g a => ?_) (fun s => ?_) pi workItemId laneName taskData definitionProperties (fun s row => ?_)
    fun groupId s => ?_)
  · exact hplain (l := .shared) rfl (by decide) (by decide) (.shared ⟨rfl, rfl, rfl, rfl, rfl, rfl, rfl⟩)
  · exact hplain (l := .seq) rfl (by decide) (by decide) (.nextId s)
  · exact hplain (l := .shared) rfl (by decide) (by decide) (.shared ⟨rfl, rfl, rfl, rfl, rfl, rfl, rfl⟩)
  · rintro ⟨hs, hpi, hitem⟩
    refine ⟨hT.act (.lane s workItemId groupId trivial fun item hmem heq => ?_) hs, hpi, hitem.same ?_⟩
    · rw [hitem item hmem (heq ▸ hid)]
      exact hI
    · exact map_updateWhere fun _ => rfl

theorem materializeSingleManualTask_goes {t : SpiffTask} (ht : t ∈ env.tasks w) (occurredAt : Time) :
    Goes T E (Present pi) (materializeSingleManualTask env pi t occurredAt) fun _ => Present pi := by
  have hF := pi.focusOn_of owner
  obtain ⟨hguid, -⟩ := henv.serializes.task_payload ht
  unfold materializeSingleManualTask
  refine goes_bind (goes_query _) fun process => Goes.pre (P := Present pi) ?_ fun _ _ h => h.2
  refine goes_bind (goes_orRaise hT.left _ _) fun _ => Goes.pre (P := Present pi) ?_ fun _ _ h => h.2
  refine goes_bind (goes_orRaise hT.left _ _) fun definitionId => Goes.pre (P := Present pi) ?_ fun _ _ h => h.2
  split
  · exact goes_raise hT.left _
  refine goes_bind (goes_session hT hI (L := [.seq, .shared]) ?_ (by decide)) fun definition => ?_
  · exact upsertTaskDefinitionFromPayload_touches _ _ _ _ _ (List.Subset.refl _)
  refine goes_bind (Q := fun guid s => owner guid = pi.id ∧ Present pi s) ?_ fun guid => goes_of_fact fun hown => ?_
  · have htouches : Touches (Change env (pi.focusOn owner)) [.json, .task]
        (upsertTaskModelFromPayload env pi definition t.payload occurredAt) := by
      refine upsertTaskModelFromPayload_touches hF definition occurredAt (fun g hg => ?_) (List.Subset.refl _)
      obtain rfl := Option.some.inj (hguid.symm.trans hg)
      exact hw t ht
    rintro s hs
    refine ⟨fun guid s' hrun => ?_, (goes_session hT hI htouches (by decide) s hs).2⟩
    obtain ⟨hs', hpi⟩ := (goes_session hT hI htouches (by decide) s hs).1 guid s' hrun
    obtain rfl := Option.some.inj (hguid.symm.trans (upsertTaskModelFromPayload_guid hrun))
    exact ⟨hs', hw t ht, hpi⟩
  refine goes_bind (upsertWorkItem_goes hT hI hown occurredAt) fun workItemId => ?_
  refine goes_bind (goes_query _) fun properties => Goes.pre (P := fun s => Present pi s ∧ Itemized pi [workItemId] s) ?_
    fun _ _ h => h.2
  refine goes_bind (assignWorkItemPotentialOwners_goes hT hI (List.mem_singleton_self _) _ _ _) fun _ => Goes.pre (P := Present pi) ?_ fun _ _ h => h.1
  refine goes_session hT hI (L := [.shared]) (write_shared (by decide) fun db => ?_) (by decide)
  split <;> exact ⟨rfl, rfl, rfl, rfl, rfl, rfl, rfl⟩

theorem saveWorkflow_goes (occurredAt : Time) (starting : Bool) :
    Goes T E (Present pi) (saveWorkflow env pi w occurredAt starting) fun _ => Present pi := by
  have hF := pi.focusOn_of owner
  refine goes_bind (persistWorkflowState_goes hT henv hI hw occurredAt) fun _ => ?_
  refine goes_bind (goes_session hT hI (L := [.item, .shared, .seq, .note]) ?_ (by decide)) fun _ => ?_
  · exact syncInactiveWorkItems_touches hF _ _ (List.Subset.refl _)
  refine goes_bind (Q := fun _ => Present pi) ?_ fun _ => ?_
  · refine goes_bind (goes_query _) fun ready => ?_
    refine Goes.pre (P := fun s => (∀ t ∈ ready, t ∈ env.tasks w) ∧ Present pi s) (goes_of_fact fun hready => ?_) ?_
    · exact goes_forEach fun t ht => materializeSingleManualTask_goes hT henv hI hw (hready t ht) occurredAt
    · rintro s - ⟨rfl, hpi⟩
      exact ⟨fun t ht => (List.mem_filter.1 (List.mem_filter.1 ht).1).1, hpi⟩
  have hstatus : Goes T E (Present pi) (updateProcessInstanceStatusFromWorkflow env pi w occurredAt) fun _ => Present pi := by
    refine goes_session hT hI (L := [.status, .process, .shared]) ?_ (by decide)
    exact updateProcessInstanceStatusFromWorkflow_touches hF _ _ (List.Subset.refl _)
  cases starting with
  | false => exact goes_bind ((goes_pure ()).post fun _ _ _ h => h.2) fun _ => hstatus
  | true =>
    refine goes_bind (goes_session hT hI (L := [.details]) ?_ (by decide)) fun _ => hstatus
    exact updateInstance_touches rfl (List.Subset.refl _) fun _ => ⟨rfl, rfl⟩

end

/-! ## Asking the engine -/

section
variable {W Ω α : Type} {env : Env W Ω} {owner : Guid → Nat} {I : Nat → Prop} {A : Touch → Prop} {others : List Db}
  {T E P : Tx Ω → Prop} {i : Nat} {tenantId : TenantId} {pi : ProcessInstance} {w : W}

/-- The engine may do to the world what it likes. -/
theorem goes_ask (hT : Follow env owner I A others T E) (hI : I i) (hA : A .world) (f : Ω → α × Ω)
    (hP : ∀ s world, P s → P { s with world := world }) : Goes T E P (ask f) fun a s => (∃ ω, a = (f ω).1) ∧ P s := by
  rintro s ⟨hs, hPs⟩
  have hF : (⟨"", i, none, fun _ => False⟩ : Focus).Suits owner [.world] s := Focus.suits_of (by simp) (by simp [Touch.rooted])
  refine ⟨?_, ?_⟩
  · rintro a s' hrun
    obtain ⟨ha, rfl⟩ := Prod.mk.inj hrun
    refine ⟨hT.act (.change hI hA (by decide) hF (.world s _)) hs, ⟨s.world, (Except.ok.inj ha).symm⟩, hP _ _ hPs⟩
  · intro e s' hrun
    cases hrun

theorem goes_orRaised (hE : ∀ s, T s → E s) (r : Option Error × W) :
    Goes T E P (orRaised r) fun w s => w = r.2 ∧ P s := by
  unfold orRaised
  split
  · exact (goes_pure r.2).post fun _ _ _ h => h
  · exact goes_raise hE _

theorem goes_loadProcessInstance (hE : ∀ s, T s → E s) (tenantId : TenantId) (id : Nat) :
    Goes T E P (loadProcessInstance tenantId id) fun pi s =>
      pi.id = id ∧ pi.m8fTenantId = tenantId ∧ pi ∈ s.view.processInstances ∧ P s :=
  (goes_readOnly hE (loadProcessInstance_readOnly tenantId id)).post fun _ _ _ h =>
    have hload := loadProcessInstance_ok h.1
    ⟨hload.2.2.2, hload.2.2.1, hload.2.1, h.2⟩

theorem present_of_mem {s : Tx Ω} (h : pi ∈ s.view.processInstances) : Present pi s := ⟨pi, h, rfl⟩

/-! ## Failing service tasks -/

/-- What follows once a failure is stored. -/
theorem enterError_goes (hT : Follow env owner I A others T E) (hI : I pi.id)
    (hA : ∀ l ∈ Touch.note :: Touch.process :: closing, A l) (occurredAt : Time) (failedTaskGuid : Option Guid) :
    Goes T E (Present pi) (do
      recordTaskFailed tenantId pi occurredAt failedTaskGuid
      enterError env tenantId pi occurredAt) fun _ => Present pi :=
  goes_own hT (.bind (recordTaskFailed_notes rfl _ (by decide)) fun _ =>
    enterError_touches tenantId (pi.focusOn_of owner) occurredAt (by decide)) hI hA (by decide)

/-- A failure stored in the session that ran the workflow. -/
theorem transitionToError_goes (hT : Follow env owner I (fun _ => True) [] T E) (henv : env.Engine owner) (hI : I pi.id)
    (hw : env.TasksOf owner pi.id w) (occurredAt : Time) :
    Goes T E (Present pi) (transitionToErrorForServiceTaskFailure env tenantId pi w occurredAt false) fun _ => Present pi := by
  rw [transitionToErrorForServiceTaskFailure_eq]
  refine goes_bind (goes_bind (persistWorkflowState_goes hT henv hI hw occurredAt) fun _ => ?_) fun _ =>
    enterError_goes hT hI (fun _ _ => trivial) _ _
  exact goes_session hT hI (L := [.item, .shared, .seq, .note])
    (syncInactiveWorkItems_touches (pi.focusOn_of owner) _ _ (List.Subset.refl _)) (by decide)

/-- A failure stored in a session of its own: the snapshot alone. -/
theorem transitionToError_recovers {T' : Tx Ω → Prop} (hT : Follow env owner I A others T E)
    (hT' : Follow env owner I A others T' E) (henv : env.Engine owner) (hI : I pi.id) (hA : ∀ l ∈ failing, A l)
    (hw : env.TasksOf owner pi.id w)
    (hstored : ∀ text s s', T s → Act env owner I A [(pi.id, text)] s s' → T' s') (occurredAt : Time) :
    Prog.Ends (fun s => T s ∧ Present pi s) (transitionToErrorForServiceTaskFailure env tenantId pi w occurredAt true)
      (fun _ s => T' s ∧ Present pi s) fun _ => E := by
  have hrest : ∀ l ∈ Touch.note :: Touch.process :: closing, l ∈ failing := by decide
  rw [transitionToErrorForServiceTaskFailure_eq]
  refine Prog.ends_bind (persistWorkflowRecoveryState_goes hT henv hI ⟨hA _ (by decide), hA _ (by decide), hA _ (by decide)⟩
    hw hstored) fun _ => ?_
  exact enterError_goes hT' hI (fun l hl => hA l (hrest l hl)) _ _

end

/-- The instance's own row after an update of it. -/
theorem mem_updateInstance {db : Db} {f : ProcessInstance → ProcessInstance} {p : ProcessInstance}
    (hp : p ∈ (db.updateInstance i f).processInstances) (hid : p.id = i) :
    ∃ p₀ ∈ db.processInstances, p₀.id = i ∧ p = f p₀ := by
  obtain ⟨p₀, hp₀, rfl⟩ := mem_updateWhere.1 hp
  split at hid
  · rename_i hmatch
    rw [if_pos hmatch]
    exact ⟨p₀, hp₀, by simpa using hmatch, rfl⟩
  · rename_i hne
    simp [hid] at hne

/-- An instance that has entered `error` is closed. -/
theorem enterError_closes {s s' : Tx Ω} {occurredAt : Time}
    (h : (enterError env tenantId pi occurredAt).run s = (.ok (), s')) :
    (∀ p ∈ s'.view.processInstances, p.id = pi.id → p.status = .error) ∧ s'.view.opened pi.id = false := by
  unfold enterError at h
  simp only [updateInstance, updateProcessOf, write, Prog.modify_bind_run] at h
  generalize hdb : Db.updateInstance _ pi.id (fun p => if p.status = .error then { p with status := .running } else p) =
    db at h
  obtain ⟨pi', hpi', hid, ⟨herror, -⟩ | ⟨-, hrecord⟩⟩ := errorProcessInstance_ok h
  · -- It has just been taken out of `error`.
    rw [← hdb] at hpi'
    obtain ⟨p, -, -, rfl⟩ := mem_updateInstance hpi' hid
    split at herror
    · simp at herror
    · rename_i hne
      exact absurd herror hne
  · rw [hid] at hrecord
    obtain ⟨row, -, -, rfl⟩ := recordProcessInstanceEvent_ok hrecord
    refine ⟨fun p hp hpid => ?_, opened_closeRuntimeState _ _ _ _⟩
    obtain ⟨p₁, hp₁, hid₁, rfl⟩ := mem_updateInstance hp hpid
    obtain ⟨p₀, -, -, rfl⟩ := mem_updateInstance hp₁ hid₁
    rfl

/-- A stored failure leaves its instance broken. -/
theorem storeServiceTaskFailure_broken (henv : env.Engine owner) (hw : env.TasksOf owner i w) (hraised : env.Raised w)
    {s s' : Tx Ω} (hfirm : Firm env owner others s) {occurredAt : Time}
    (hrun : (storeServiceTaskFailure env tenantId i w occurredAt).run s = (.ok (), s')) : Broken env owner i s'.view := by
  unfold storeServiceTaskFailure at hrun
  obtain ⟨pi, s₁, hload, hrun₁⟩ := Prog.bind_ok.1 hrun
  obtain ⟨rfl, hmem, -, rfl⟩ := loadProcessInstance_ok hload
  have hpi := present_of_mem hmem
  have hF := pi.focusOn_of owner
  rw [transitionToErrorForServiceTaskFailure_eq] at hrun₁
  obtain ⟨_, s₂, hpersist, hrun₂⟩ := Prog.bind_ok.1 hrun₁
  obtain ⟨_, s₃, hevent, hclose⟩ := Prog.bind_ok.1 hrun₂
  have hsteps₂ : Steps (Change env (pi.focusOn owner)) failing s₁ s₂ :=
    (persistWorkflowRecoveryState_touches hF (hw.covers henv) (by decide)).steps hpersist
  have hsteps₃ : Steps (Change env (pi.focusOn owner)) (.note :: .process :: closing) s₂ s₃ :=
    (recordTaskFailed_notes rfl _ (by decide)).steps hevent
  have hsteps' : Steps (Change env (pi.focusOn owner)) (.note :: .process :: closing) s₂ s' :=
    hsteps₃.trans ((enterError_touches tenantId hF occurredAt (by decide)).steps hclose)
  have hitem : .newItem ∉ failing ∧ .newItem ∉ Touch.note :: Touch.process :: closing := by decide
  have hfirm₂ := hfirm.steps henv.lawful (hpi.fits.suits _) (absurd · hitem.1) hsteps₂
  have hpi₂ := hpi.steps hsteps₂
  have hfirm' := hfirm₂.steps henv.lawful (hpi₂.fits.suits _) (absurd · hitem.2) hsteps'
  have hprocess := hfirm.processed _ (mem_instanceIds.2 ⟨s₁.view, by simp, pi, hmem, rfl⟩)
  obtain ⟨q, hq⟩ := Option.isSome_iff_exists.1 hprocess
  -- The snapshot is stored first; nothing that follows replaces it.
  obtain ⟨text, s₄, hserialize, hrun₄⟩ := Prog.bind_ok.1 hpersist
  obtain ⟨htext, rfl⟩ := ofExcept_ok hserialize
  obtain ⟨_, s₅, hversion, hsync⟩ := Prog.bind_ok.1 hrun₄
  have hsteps₅ : Steps (Change env (pi.focusOn owner)) [.details] s₄ s₅ := by
    refine Touches.steps ?_ hversion
    exact updateInstance_touches hF.id (by decide) fun _ => ⟨rfl, rfl⟩
  have hstored := syncBpmnProcess_stores henv.lawful (hfirm.sound.steps henv.lawful hpi.fits hsteps₅) (hpi.steps hsteps₅) hq hsync
  obtain ⟨hstatus, hclosed⟩ := enterError_closes hclose
  refine ⟨hstatus, hclosed, text, w, ?_, htext, hw, hraised⟩
  rw [hfirm'.stateOf (hpi₂.steps hsteps'), hfirm₂.sound.same_state henv.lawful hpi₂.fits hpi₂ (by decide) hsteps', hstored]

/-! ## The caller's session and a second one -/

section
variable {W Ω : Type} (env : Env W Ω) (owner : Guid → Nat) (I : Nat → Prop) (s₀ : Tx Ω)

/-- What is told from `s₀` on, when these texts are stored beside the session. -/
def Tale (durable : List (Nat × String)) (s : Tx Ω) : Prop :=
  Firm env owner [] s ∧ ∃ own, Story env owner I s₀ own durable s

/-- Something is told from `s₀` on. -/
def Told (s : Tx Ω) : Prop := ∃ durable, Tale env owner I s₀ durable s

/-- A second session has come as far as `s₁`, with texts for which `p` holds. -/
def Alongside (p : List (Nat × String) → Prop) (s₁ : Tx Ω) : Prop :=
  Firm env owner [s₀.view, s₀.base] s₁ ∧ ∃ texts, p texts ∧ Acts env owner I Touch.beside s₀.fork texts s₁

variable {env owner I s₀} {durable : List (Nat × String)} {s s' : Tx Ω} {texts : List (Nat × String)}

theorem Tale.act (henv : env.Engine owner) (ha : Act env owner I (fun _ => True) texts s s')
    (h : Tale env owner I s₀ durable s) : Tale env owner I s₀ durable s' := by
  obtain ⟨hfirm, own, hstory⟩ := h
  exact ⟨ha.firm henv (fun _ => rfl) hfirm, _, hstory.act ha⟩

theorem tale_follow (henv : env.Engine owner) :
    Follow env owner I (fun _ => True) [] (Tale env owner I s₀ durable) (Told env owner I s₀) where
  firm _ h := h.1
  act := Tale.act henv
  left _ h := ⟨durable, h⟩

theorem alongside_follow (henv : env.Engine owner) {p : List (Nat × String) → Prop} (hp : ∀ t t', p t → p (t ++ t')) :
    Follow env owner I Touch.beside [s₀.view, s₀.base] (Alongside env owner I s₀ p) fun s₁ => s₀.seq ≤ s₁.seq where
  firm _ h := h.1
  act ha := by
    rintro ⟨hfirm, texts, hpt, hacts⟩
    exact ⟨ha.firm henv not_beside_newItem hfirm, _, hp _ _ hpt, hacts.snoc ha⟩
  left s₁ h := by
    obtain ⟨-, texts, -, hacts⟩ := h
    have hle := hacts.seq henv
    exact hle

theorem Tale.failed (henv : env.Engine owner) {s₁ : Tx Ω} {k : Nat} (hI : I k) (h : Tale env owner I s₀ durable s)
    (h₁ : Alongside env owner (· = k) s (· ≠ []) s₁) (hbroken : Broken env owner k s₁.view) :
    Told env owner I s₀ (s.joined s₁) := by
  obtain ⟨hfirm, own, hstory⟩ := h
  obtain ⟨-, texts, htexts, hacts⟩ := h₁
  exact ⟨_, hfirm.joined henv hacts, own, hstory.failed hI hacts htexts hbroken⟩

theorem Tale.dropped {s₁ : Tx Ω} (h : Tale env owner I s₀ durable s) (hseq : s.seq ≤ s₁.seq) :
    Tale env owner I s₀ durable (s.parted s₁) := by
  obtain ⟨hfirm, own, hstory⟩ := h
  exact ⟨hfirm.dropped hseq, own, hstory.dropped hseq⟩

theorem Tale.baseline (henv : env.Engine owner) {s₁ : Tx Ω} (hfresh : ∀ i, s₀.seq ≤ i → I i)
    (h : Tale env owner I s₀ durable s) (hacts : Acts env owner (s.seq ≤ ·) (· ∈ preparing) s.fork [] s₁) :
    Tale env owner I s₀ durable (s.joined s₁).refreshed := by
  obtain ⟨hfirm, own, hstory⟩ := h
  have hle := hstory.seq henv
  exact ⟨(hfirm.joined henv hacts.beside_of_preparing).refresh, own,
    hstory.baseline (fun i hi => hfresh i (hle.trans hi)) hacts⟩

variable {pi : ProcessInstance} {w : W} {tenantId : TenantId} (henv : env.Engine owner) (hI : I pi.id)
  (hw : env.TasksOf owner pi.id w)
include henv hI hw

/-- Either the failure is stored beside the session, or the session is where it was. -/
theorem persistServiceTaskFailureState_told (tenantId : TenantId) (occurredAt : Time) (hraised : env.Raised w)
    (h : Tale env owner I s₀ durable s) (hpi : Present pi s) :
    ∃ s', ((persistServiceTaskFailureState env tenantId pi.id w occurredAt).run s = (.ok true, s') ∧ Told env owner I s₀ s') ∨
      ((persistServiceTaskFailureState env tenantId pi.id w occurredAt).run s = (.ok false, s') ∧
        Tale env owner I s₀ durable s' ∧ Present pi s') := by
  let I₁ : Nat → Prop := (· = pi.id)
  have hstart : Alongside env owner I₁ s (fun _ => True) s.fork := ⟨h.1.fork, [], trivial, .refl⟩
  have hends : Prog.Ends (fun s₁ => Alongside env owner I₁ s (fun _ => True) s₁ ∧ True)
      (storeServiceTaskFailure env tenantId pi.id w occurredAt) (fun _ => Alongside env owner I₁ s (· ≠ []))
      fun _ s₁ => s.seq ≤ s₁.seq := by
    have hT : Follow env owner I₁ Touch.beside [s.view, s.base] (Alongside env owner I₁ s fun _ => True) _ :=
      alongside_follow henv fun _ _ h => h
    refine Prog.ends_bind (goes_loadProcessInstance hT.left tenantId pi.id) fun p => ?_
    rintro s₁ ⟨hs₁, hid, -, hp, -⟩
    have hT' : Follow env owner I₁ Touch.beside [s.view, s.base] (Alongside env owner I₁ s (· ≠ [])) fun s₁ => s.seq ≤ s₁.seq :=
      alongside_follow henv fun t t' ht => by simp [ht]
    have hrecovers : Prog.Ends (fun s₁ => Alongside env owner I₁ s (fun _ => True) s₁ ∧ Present p s₁)
        (transitionToErrorForServiceTaskFailure env tenantId p w occurredAt true)
        (fun _ s₁ => Alongside env owner I₁ s (· ≠ []) s₁ ∧ Present p s₁) fun _ s₁ => s.seq ≤ s₁.seq := by
      refine transitionToError_recovers hT hT' henv hid (by decide) (hid ▸ hw) ?_ occurredAt
      rintro text s₁ s₂ ⟨hfirm, texts, -, hacts⟩ ha
      exact ⟨ha.firm henv not_beside_newItem hfirm, _, by simp, hacts.snoc ha⟩
    exact (hrecovers.weaken (fun _ h => h) (fun _ _ h => h.1) fun _ _ h => h) s₁ ⟨hs₁, present_of_mem hp⟩
  obtain ⟨hok, herror⟩ := hends s.fork ⟨hstart, trivial⟩
  rcases hrun : (storeServiceTaskFailure env tenantId pi.id w occurredAt).run s.fork with ⟨e | u, s₁⟩
  · refine ⟨_, .inr ⟨persistServiceTaskFailureState_unsaved env hrun, h.dropped (herror e s₁ hrun), hpi⟩⟩
  · have hbroken := storeServiceTaskFailure_broken henv hw hraised h.1.fork hrun
    exact ⟨_, .inl ⟨persistServiceTaskFailureState_saved env hrun, h.failed henv hI (hok u s₁ hrun) hbroken⟩⟩

theorem runWorkflow_goes (occurredAt : Time) (autonomous : Bool) :
    Goes (Tale env owner I s₀ durable) (Told env owner I s₀) (Present pi)
      (runWorkflowWithServiceTaskFailureHandling env tenantId pi w occurredAt autonomous)
      fun w' s => env.TasksOf owner pi.id w' ∧ Present pi s := by
  have hT : Follow env owner I (fun _ => True) [] (Tale env owner I s₀ durable) (Told env owner I s₀) := tale_follow henv
  refine goes_bind (goes_ask hT hI trivial _ fun _ _ h => h) ?_
  rintro ⟨raised, w'⟩
  refine goes_of_fact fun hran => ?_
  obtain ⟨ω, hω⟩ := hran
  have hw' : env.TasksOf owner pi.id w' := by
    have hkept := henv.separates.runAll (some (pi.serviceContext tenantId)) ω hw
    rwa [← hω] at hkept
  have htransition : ∀ message, Goes (Tale env owner I s₀ durable) (Told env owner I s₀) (Present pi) (do
      transitionToErrorForServiceTaskFailure env tenantId pi w' occurredAt false
      Prog.raise (.serviceTaskExecution message) : M Ω W) fun w' s => env.TasksOf owner pi.id w' ∧ Present pi s :=
    fun message => goes_bind (transitionToError_goes hT henv hI hw' occurredAt) fun _ => goes_raise hT.left _
  dsimp only
  split
  · exact (goes_pure w').post fun _ _ _ h => ⟨h.1 ▸ hw', h.2⟩
  · rename_i message
    cases autonomous with
    | false => exact htransition message
    | true =>
      rintro s ⟨hs, hpi⟩
      obtain ⟨s₁, ⟨hrun, htold⟩ | ⟨hrun, htale, hpi₁⟩⟩ :=
        persistServiceTaskFailureState_told henv hI hw' tenantId occurredAt ⟨_, w, ω, message, _, Prod.ext hω.symm rfl⟩ hs hpi
      · refine ⟨fun a s' h => ?_, fun e s' h => ?_⟩
        · simp [Prog.bind_run_ok hrun] at h
        · simp only [if_true, Prog.bind_run_ok hrun, Prog.raise_run, Prod.mk.injEq] at h
          exact h.2 ▸ htold
      · have hrest := htransition message s₁ ⟨htale, hpi₁⟩
        refine ⟨fun a s' h => ?_, fun e s' h => ?_⟩
        · simp only [if_true, Prog.bind_run_ok hrun] at h
          exact hrest.1 a s' h
        · simp only [if_true, Prog.bind_run_ok hrun] at h
          exact hrest.2 e s' h
  · exact goes_raise hT.left _

end

/-! ## The workflow runtime -/

section
variable {W Ω α : Type} {env : Env W Ω} {owner : Guid → Nat} {I : Nat → Prop} {s₀ : Tx Ω} {durable : List (Nat × String)}
  {P : Tx Ω → Prop} {pi : ProcessInstance} {w : W}

variable (env owner I s₀ durable) in
/-- The program goes on with the tale; if it raises, something is told. -/
abbrev Retells (P : Tx Ω → Prop) (m : M Ω α) (Q : α → Tx Ω → Prop) : Prop :=
  Goes (Tale env owner I s₀ durable) (Told env owner I s₀) P m Q

theorem retells_left (s : Tx Ω) (h : Tale env owner I s₀ durable s) : Told env owner I s₀ s := ⟨durable, h⟩

/-- The workflow restored from an instance's snapshot has the instance's tasks. -/
theorem restoreWorkflow_retells (state : String) :
    Retells env owner I s₀ durable (fun s => some state = s.view.workflowStateJson pi ∧ pi ∈ s.view.processInstances)
      (restoreWorkflow env state) fun w s => env.TasksOf owner pi.id w ∧ Present pi s := by
  have hleft : ∀ s, Tale env owner I s₀ durable s → Told env owner I s₀ s := retells_left
  exact (goes_ofExcept hleft (env.deserializeJson state)).post fun w s hs h =>
    ⟨hs.1.sound.restored h.2.2 h.2.1.symm h.1, present_of_mem h.2.2⟩

variable (henv : env.Engine owner)
include henv

/-- Running a workflow and saving what it has become. -/
theorem runAndSave_retells (hI : I pi.id) (hw : env.TasksOf owner pi.id w) (tenantId : TenantId) (occurredAt : Time)
    (autonomous : Bool) :
    Retells env owner I s₀ durable (Present pi) (do
      let w ← runWorkflowWithServiceTaskFailureHandling env tenantId pi w occurredAt autonomous
      saveWorkflow env pi w occurredAt false) fun _ _ => True :=
  goes_bind (runWorkflow_goes henv hI hw occurredAt autonomous) fun _ => goes_of_fact fun hw' =>
    (saveWorkflow_goes (tale_follow henv) henv hI hw' occurredAt false).post fun _ _ _ _ => trivial

theorem advanceProcessInstanceWorkflow_retells {processInstanceId : Nat} (hI : I processInstanceId) (tenantId : TenantId)
    (guid : Guid) (completedAt : Option Time) :
    Retells env owner I s₀ durable P (advanceProcessInstanceWorkflow env tenantId processInstanceId guid completedAt)
      fun _ _ => True := by
  have hT : Follow env owner I (fun _ => True) [] (Tale env owner I s₀ durable) (Told env owner I s₀) := tale_follow henv
  refine goes_bind (goes_loadProcessInstance hT.left _ _) fun pi => goes_of_fact fun hid => ?_
  subst hid
  refine goes_bind (goes_query _) fun state => ?_
  cases state with
  | none => exact (goes_pure ()).post fun _ _ _ _ => trivial
  | some state =>
    dsimp only
    split
    · exact (goes_pure ()).post fun _ _ _ _ => trivial
    refine goes_bind (goes_resolveTimestamp _) fun occurredAt => ?_
    refine goes_bind ((restoreWorkflow_retells state).pre fun s _ h => ⟨h.1, h.2.2.1⟩) fun w => goes_of_fact fun hw => ?_
    split
    · refine goes_bind (goes_readOnly hT.left (loadProcessInstanceMetadataPayload_readOnly _ _)) fun metadata => ?_
      refine Goes.pre (P := Present pi) ?_ fun _ _ h => h.2
      refine goes_bind (goes_ask hT hI trivial _ fun _ _ h => h) fun completed => goes_of_fact fun hcompleted => ?_
      refine goes_bind (goes_orRaised hT.left _) fun w' => goes_of_fact fun hw' => ?_
      refine runAndSave_retells henv hI ?_ tenantId occurredAt false
      obtain ⟨ω, rfl⟩ := hcompleted
      rw [hw']
      exact henv.separates.complete _ _ _ (applyMetadataToTask_tasksOf henv.separates _ _ hw)
    · exact goes_raise hT.left _

theorem refreshWaitingProcessInstanceWorkflow_retells {processInstanceId : Nat} (hI : I processInstanceId)
    (tenantId : TenantId) (occurredAt : Option Time) :
    Retells env owner I s₀ durable P (refreshWaitingProcessInstanceWorkflow env tenantId processInstanceId occurredAt)
      fun _ _ => True := by
  have hT : Follow env owner I (fun _ => True) [] (Tale env owner I s₀ durable) (Told env owner I s₀) := tale_follow henv
  refine goes_bind (goes_loadProcessInstance hT.left _ _) fun pi => goes_of_fact fun hid => ?_
  subst hid
  refine goes_bind (goes_query _) fun state => ?_
  cases state with
  | none => exact (goes_pure ()).post fun _ _ _ _ => trivial
  | some state =>
    dsimp only
    split
    · exact (goes_pure ()).post fun _ _ _ _ => trivial
    refine goes_bind (goes_resolveTimestamp _) fun timestamp => ?_
    refine goes_bind ((restoreWorkflow_retells state).pre fun s _ h => ⟨h.1, h.2.2.1⟩) fun w => goes_of_fact fun hw => ?_
    refine goes_bind (goes_ask hT hI trivial _ fun _ _ h => h) fun refreshed => goes_of_fact fun hrefreshed => ?_
    refine goes_bind (goes_orRaised hT.left _) fun w' => goes_of_fact fun hw' => ?_
    refine runAndSave_retells henv hI ?_ tenantId timestamp true
    obtain ⟨ω, rfl⟩ := hrefreshed
    rw [hw']
    exact henv.separates.refreshWaitingTasks _ _ hw

theorem retryErroredServiceTaskWorkflowIfNeeded_retells {processInstanceId : Nat} (hI : I processInstanceId)
    (tenantId : TenantId) (occurredAt : Option Time) :
    Retells env owner I s₀ durable P (retryErroredServiceTaskWorkflowIfNeeded env tenantId processInstanceId occurredAt)
      fun _ _ => True := by
  have hT : Follow env owner I (fun _ => True) [] (Tale env owner I s₀ durable) (Told env owner I s₀) := tale_follow henv
  refine goes_bind (goes_loadProcessInstance hT.left _ _) fun pi => goes_of_fact fun hid => ?_
  subst hid
  refine goes_bind (goes_query _) fun state => ?_
  cases state with
  | none => exact (goes_pure ()).post fun _ _ _ _ => trivial
  | some state =>
    refine goes_bind (goes_resolveTimestamp _) fun timestamp => ?_
    refine goes_bind ((restoreWorkflow_retells state).pre fun s _ h => ⟨h.1, h.2.2.1⟩) fun w => goes_of_fact fun hw => ?_
    refine goes_bind (goes_readOnly hT.left (loadProcessInstanceMetadataPayload_readOnly _ _)) fun metadata => ?_
    refine Goes.pre (P := Present pi) ?_ fun _ _ h => h.2
    dsimp only
    split
    · exact (goes_pure ()).post fun _ _ _ _ => trivial
    refine goes_bind (goes_orRaised hT.left _) fun w' => goes_of_fact fun hw' => ?_
    refine runAndSave_retells henv hI ?_ tenantId timestamp true
    rw [hw']
    exact resetFromTaskIds_tasksOf henv.separates _ _ (applyMetadataToWorkflow_tasksOf henv.separates _ hw)

/-- The lanes that are set are of the instance's own items. -/
theorem syncOpenWorkItemPotentialOwners_retells {processInstanceId : Nat} (hI : I processInstanceId) (tenantId : TenantId)
    (loaded : Option (List Nat)) :
    Retells env owner I s₀ durable P (syncOpenWorkItemPotentialOwners env tenantId processInstanceId loaded)
      fun _ _ => True := by
  have hT : Follow env owner I (fun _ => True) [] (Tale env owner I s₀ durable) (Told env owner I s₀) := tale_follow henv
  refine goes_bind (goes_loadProcessInstance hT.left _ _) fun pi => goes_of_fact fun hid => ?_
  subst hid
  refine goes_bind (goes_query _) fun state => ?_
  cases state with
  | none => exact (goes_pure ()).post fun _ _ _ _ => trivial
  | some state =>
    refine goes_bind (goes_query _) fun items => ?_
    split
    · exact (goes_pure ()).post fun _ _ _ _ => trivial
    refine goes_bind (Q := fun w s => env.TasksOf owner pi.id w ∧ Present pi s ∧ Itemized pi (items.map (·.id)) s) ?_ fun w => ?_
    · rintro s ⟨hs, hitems, hrest⟩
      have hown : Itemized pi (items.map (·.id)) s := by
        refine hT.itemized hs fun id hid => ?_
        obtain ⟨item, hitem, rfl⟩ := List.mem_map.1 hid
        rw [hitems] at hitem
        have hopen := List.mem_filter.1 (List.mem_filter.1 hitem).1
        simp only [Bool.and_eq_true, beq_iff_eq] at hopen
        exact ⟨item, hopen.1, rfl, hopen.2.1⟩
      have hrestored := restoreWorkflow_retells state s ⟨hs, hrest.1, hrest.2.2.1⟩
      refine ⟨fun w s' hrun => ?_, hrestored.2⟩
      obtain ⟨hs', hw, hpi⟩ := hrestored.1 w s' hrun
      obtain rfl := (ofExcept_readOnly _).state hrun
      exact ⟨hs', hw, hpi, hown⟩
    · refine goes_of_fact fun hw => goes_bind (goes_query _) fun properties => ?_
      refine Goes.pre (P := fun s => Present pi s ∧ Itemized pi (items.map (·.id)) s) ?_ fun _ _ h => h.2
      refine (goes_forEach fun item hitem => ?_).post fun _ _ _ _ => trivial
      split
      · exact (goes_pure ()).post fun _ _ _ h => h.2
      · exact assignWorkItemPotentialOwners_goes hT hI (List.mem_map_of_mem hitem) _ _ _

end

/-! ## Starting an instance -/

/-- A JSON round trip adds no keys. -/
def Env.AddsNoKeys {W Ω : Type} (env : Env W Ω) : Prop :=
  ∀ {d d' : Dict} {key : String}, env.normalizedPayload d = .ok d' → Dict.get d key = none → Dict.get d' key = none

section
variable {W Ω α : Type} {env : Env W Ω} {owner : Guid → Nat} {A : Touch → Prop} {s s' : Tx Ω} {tenantId : TenantId}
  {definition : BpmnProcessDefinition} {modelIdentifier : String} {args : StartArgs}

/-- A change that needs no instance to be there, as an act on new instances. -/
theorem act_of_change (tenantId : TenantId) {n i : Nat} {l : Touch} (hi : n ≤ i) (hA : A l)
    (hl : l ≠ .lane ∧ l ≠ .lock ∧ l ≠ .snapshot) (hrooted : l.rooted = false)
    (hc : Change env ⟨tenantId, i, none, fun _ => False⟩ l s s') : Act env owner (n ≤ ·) A [] s s' :=
  .change hi hA hl (Focus.suits_of (by simp) (by simpa using hrooted)) hc

/-- Without a process to select nothing is written. -/
theorem prepareProcessInstanceInSession_unselectable (hselectable : ¬ Selectable env definition args.bpmnProcessId)
    {r : Except Error (Nat × String)}
    (h : (prepareProcessInstanceInSession env tenantId definition modelIdentifier args).run s = (r, s')) :
    s' = s ∧ ∃ e, r = .error e := by
  unfold prepareProcessInstanceInSession at h
  rcases Prog.ReadOnly.bind_cases (Prog.keeps_orRaise Prog.frame_eq _ _) h with ⟨e, -, rfl, rfl⟩ | ⟨bpmnXml, hxml, h₁⟩
  · exact ⟨rfl, e, rfl⟩
  obtain ⟨hxml, -⟩ := Prog.orRaise_ok.1 hxml
  rcases (ofExcept_readOnly _).bind_cases h₁ with ⟨e, -, rfl, rfl⟩ | ⟨selected, hselected, h₂⟩
  · exact ⟨rfl, e, rfl⟩
  obtain ⟨hselected, -⟩ := ofExcept_ok hselected
  cases hdata : env.normalizedPayload (newProcessPayload definition.id selected) with
  | ok data => exact absurd ⟨bpmnXml, selected, data, hxml, hselected, hdata⟩ hselectable
  | error e =>
    unfold resolveOrCreateBpmnProcess createOrUpdateFromPayload Env.hashPayload at h₂
    simp only [hdata, Except.map, ofExcept, Prog.raise_bind, Prog.raise_run, Prod.mk.injEq] at h₂
    exact ⟨h₂.2.symm, e, h₂.1.symm⟩

/-- However it ends, the program has only made new rows. -/
theorem prepareProcessInstanceInSession_acts (hkeys : env.AddsNoKeys) (hA : ∀ l ∈ preparing, A l) {r : Except Error (Nat × String)}
    (h : (prepareProcessInstanceInSession env tenantId definition modelIdentifier args).run s = (r, s')) :
    Acts env owner (s.seq ≤ ·) A s [] s' ∧ ∀ result, r = .ok result → s.seq ≤ result.1 := by
  by_cases hselectable : Selectable env definition args.bpmnProcessId
  swap
  · obtain ⟨rfl, e, rfl⟩ := prepareProcessInstanceInSession_unselectable hselectable h
    exact ⟨.refl, by simp⟩
  obtain ⟨bpmnXml, selected, data, hxml, hselected, hdata⟩ := hselectable
  have hjson : Act env owner (s.seq ≤ ·) A [] s
      { s with view := s.view.putJsonData tenantId (env.payloadDigest data) data } :=
    act_of_change tenantId (le_refl _) (hA _ (by decide)) (by decide) rfl (.json s tenantId ⟨_, hdata⟩)
  have hstored := jsonData?_putJsonData s.view tenantId (env.payloadDigest data) data
  by_cases hmember : s.view.isMember tenantId args.processInitiatorId = true
  · obtain ⟨s₁, hrun, hsteps⟩ := prepareProcessInstanceInSession_run (F := ⟨tenantId, s.seq + 1, none, fun _ => False⟩)
      modelIdentifier hxml hselected hdata hmember rfl
    rw [hrun] at h
    obtain ⟨rfl, rfl⟩ := Prod.mk.inj h
    refine ⟨?_, fun result hresult => ?_⟩
    · have hnew : Act env owner (s.seq ≤ ·) A []
          { s with view := s.view.putJsonData tenantId (env.payloadDigest data) data }
          (preparedTx env tenantId definition modelIdentifier args selected data s) := by
        refine act_of_change (l := .newInstance) tenantId (Nat.le_succ _) (hA _ (by decide)) (by decide) rfl ?_
        exact .newInstance _ (newProcessRow tenantId definition.id selected (env.payloadDigest data) s.seq)
          ((args.newInstance definition modelIdentifier s.seq).row tenantId (s.seq + 1)
            (args.startedAt.getD (env.now s.world))) rfl rfl rfl rfl rfl rfl ⟨rfl, _, hdata⟩ (hkeys hdata rfl) hstored
      have hrest : Acts env owner (s.seq ≤ ·) A (preparedTx env tenantId definition modelIdentifier args selected data s) [] s₁ := by
        have hsub : ∀ l ∈ [Touch.seq, .shared, .details], l ∈ preparing := by decide
        exact acts_of_steps (Nat.le_succ _) (fun l hl => hA l (hsub l hl)) (by decide) (by decide) (by decide)
          (Focus.suits_of (by simp) (by simp [Touch.rooted])) hsteps
      exact (hjson.acts.snoc hnew).trans hrest
    · obtain rfl := Except.ok.inj hresult
      exact Nat.le_succ _
  · -- The initiator is looked up once more when the process is there.
    unfold prepareProcessInstanceInSession at h
    rw [hxml] at h
    simp only [Prog.orRaise_some, Prog.pure_bind, hselected, ofExcept] at h
    rw [Prog.bind_run_ok (resolveOrCreateBpmnProcess_run env hdata)] at h
    unfold createProcessInstance at h
    rw [Prog.bind_assoc] at h
    rcases (ensureUserBelongsToTenant_readOnly _ _).bind_cases h with ⟨e, -, rfl, rfl⟩ | ⟨user, huser, -⟩
    · refine ⟨hjson.acts.snoc (?_ : Act env owner (s.seq ≤ ·) A [] _ _), by simp⟩
      refine act_of_change (l := .newProcess) tenantId (le_refl _) (hA _ (by decide)) (by decide) rfl ?_
      exact .newProcess { s with view := s.view.putJsonData tenantId (env.payloadDigest data) data }
        (newProcessRow tenantId definition.id selected (env.payloadDigest data) s.seq) rfl hstored
    · exact absurd (ensureUserBelongsToTenant_ok.1 huser).2.1 hmember

end

section
variable {W Ω α : Type} {env : Env W Ω} {owner : Guid → Nat} {I : Nat → Prop} {s₀ s s' : Tx Ω}
  {durable texts : List (Nat × String)} {P : Tx Ω → Prop} {pi : ProcessInstance} {w : W} {tenantId : TenantId}
  (henv : env.Engine owner)
include henv

theorem Tale.acts (ha : Acts env owner I (fun _ => True) s texts s') (h : Tale env owner I s₀ durable s) :
    Tale env owner I s₀ durable s' := by
  obtain ⟨hfirm, own, hstory⟩ := h
  exact ⟨ha.firm henv (fun _ => rfl) hfirm, _, hstory.acts ha⟩

variable (hkeys : env.AddsNoKeys) (hfresh : ∀ i, s₀.seq ≤ i → I i)

omit henv in
include hfresh in
theorem Tale.fresh (henv : env.Engine owner) (h : Tale env owner I s₀ durable s) {i : Nat} (hi : s.seq ≤ i) : I i := by
  obtain ⟨-, own, hstory⟩ := h
  exact hfresh i ((hstory.seq henv).trans hi)

include hkeys hfresh

/-- The rows of a new instance, committed and seen by the caller's session. -/
theorem prepareProcessInstanceBaseline_retells (definition : BpmnProcessDefinition) (modelIdentifier : String) (args : StartArgs) :
    Retells env owner I s₀ durable P (prepareProcessInstanceBaseline env tenantId definition modelIdentifier args)
      fun baseline _ => ∀ result, baseline = some result → I result.1 := by
  rintro s ⟨hs, -⟩
  unfold prepareProcessInstanceBaseline
  rcases hrun : (prepareCommittedProcessInstance env tenantId definition.id modelIdentifier args).run s.fork with ⟨e | baseline, s₁⟩
  · have hseq := ((prepareCommittedProcessInstance_inside env _ _ _ _).of_ok hrun).seq
    have htold := retells_left _ (hs.dropped hseq)
    simp only [Prog.bind_run_ok (independently_error hrun)]
    exact ⟨fun a s' h => by simp at h, fun e' s' h => (Prod.mk.inj h).2 ▸ htold⟩
  · have hacts : Acts env owner (s.seq ≤ ·) (· ∈ preparing) s.fork [] s₁ ∧
        ∀ result, baseline = some result → s.seq ≤ result.1 := by
      rcases prepareCommittedProcessInstance_ok hrun with ⟨rfl, rfl⟩ | ⟨committed, result, rfl, -, hprepare⟩
      · exact ⟨.refl, by simp⟩
      · obtain ⟨hacts, hid⟩ := prepareProcessInstanceInSession_acts (A := (· ∈ preparing)) hkeys (fun _ h => h) hprepare
        exact ⟨hacts, fun r hr => Option.some.inj hr ▸ hid result rfl⟩
    simp only [Prog.bind_run_ok (independently_ok hrun)]
    refine ⟨fun a s' h => ?_, fun e s' h => by cases h⟩
    obtain ⟨ha, rfl⟩ := Prod.mk.inj h
    obtain rfl := Except.ok.inj ha
    exact ⟨hs.baseline henv hfresh hacts.1, fun result hresult => hs.fresh hfresh henv (hacts.2 result hresult)⟩

theorem prepareProcessInstanceInSession_retells (definition : BpmnProcessDefinition) (modelIdentifier : String) (args : StartArgs) :
    Retells env owner I s₀ durable P (prepareProcessInstanceInSession env tenantId definition modelIdentifier args)
      fun result _ => I result.1 := by
  rintro s ⟨hs, -⟩
  have hacts : ∀ {r s'}, (prepareProcessInstanceInSession env tenantId definition modelIdentifier args).run s = (r, s') →
      Tale env owner I s₀ durable s' ∧ ∀ result, r = .ok result → I result.1 := by
    intro r s' hrun
    obtain ⟨hacts, hid⟩ := prepareProcessInstanceInSession_acts hkeys (fun _ _ => trivial) hrun
    exact ⟨hs.acts henv (hacts.mono fun i hi => hs.fresh hfresh henv hi), fun result hr => hs.fresh hfresh henv (hid result hr)⟩
  exact ⟨fun result s' hrun => ⟨(hacts hrun).1, (hacts hrun).2 result rfl⟩, fun e s' hrun => retells_left _ (hacts hrun).1⟩

theorem prepareProcessInstance_retells (definition : BpmnProcessDefinition) (modelIdentifier : String) (args : StartArgs) :
    Retells env owner I s₀ durable P (prepareProcessInstance env tenantId definition modelIdentifier args)
      fun prepared s => I prepared.1.id ∧ prepared.1 ∈ s.view.processInstances := by
  have hleft : ∀ s, Tale env owner I s₀ durable s → Told env owner I s₀ s := retells_left
  have hload : ∀ result : Nat × String, Retells env owner I s₀ durable (fun _ => I result.1) (do
      let pi ← loadProcessInstance (Ω := Ω) tenantId result.1
      pure (pi, result.2)) fun prepared s => I prepared.1.id ∧ prepared.1 ∈ s.view.processInstances := by
    intro result
    refine goes_bind (goes_loadProcessInstance hleft _ _) fun pi => ?_
    refine (goes_pure (pi, result.2)).post ?_
    rintro prepared s - ⟨rfl, hid, -, hpi, hI⟩
    exact ⟨hid ▸ hI, hpi⟩
  refine goes_bind (prepareProcessInstanceBaseline_retells henv hkeys hfresh definition modelIdentifier args) fun baseline => ?_
  cases baseline with
  | some result => exact (hload result).pre fun _ _ h => h result rfl
  | none => exact goes_bind (prepareProcessInstanceInSession_retells henv hkeys hfresh definition modelIdentifier args) hload

omit henv hkeys hfresh in
theorem forceWaitingTimerStartTaskDue_tasksOf (hsep : env.Separates owner) (hw : env.TasksOf owner pi.id w) {specName : String}
    {due : W} (h : forceWaitingTimerStartTaskDue env w specName = .ok (some due)) : env.TasksOf owner pi.id due := by
  unfold forceWaitingTimerStartTaskDue at h
  split at h
  · simp at h
  · split at h
    · simp at h
    · rename_i t _
      cases hvalue : forcedDueEventValue (t.internalData.get "event_value") with
      | error e => simp [hvalue, Except.map] at h
      | ok value =>
        simp only [hvalue, Except.map, Except.ok.injEq, Option.some.injEq] at h
        exact h ▸ hsep.setEventValue _ _ hw

omit hkeys hfresh in
/-- The workflow that is built has the instance's tasks. -/
theorem buildInstanceWorkflow_retells (hI : I pi.id) {request : BuildRequest}
    (hrequest : request.context.bind (·.processInstanceId) = some pi.id) (occurredAt : Time) :
    Retells env owner I s₀ durable (Present pi) (buildInstanceWorkflow env tenantId pi request occurredAt)
      fun w s => env.TasksOf owner pi.id w ∧ Present pi s := by
  have hT : Follow env owner I (fun _ => True) [] (Tale env owner I s₀ durable) (Told env owner I s₀) := tale_follow henv
  refine goes_bind (goes_ask hT hI trivial _ fun _ _ h => h) fun built => goes_of_fact fun hbuilt => ?_
  refine goes_bind (goes_ofExcept hT.left _) fun w => goes_of_fact fun hw => ?_
  have hown : env.TasksOf owner pi.id w := by
    obtain ⟨ω, rfl⟩ := hbuilt
    exact henv.separates.build (Prod.ext hw rfl) hrequest
  refine goes_bind (goes_session hT hI (L := [.seq, .shared]) ?_ (by decide)) fun _ => ?_
  · unfold seedRuntimeDefinitions
    split
    · exact .raise _
    · exact syncProcessDefinitionFromWorkflow_touches _ _ _ (List.Subset.refl _)
  refine goes_bind (goes_readOnly hT.left (loadProcessInstanceMetadataPayload_readOnly _ _)) fun metadata => ?_
  refine (goes_pure _).post ?_
  rintro w' s - ⟨rfl, -, hpi⟩
  exact ⟨applyMetadataToWorkflow_tasksOf henv.separates _ hown, hpi⟩

omit hkeys hfresh in
theorem finalizeInitializedWorkflow_retells (hI : I pi.id) (hw : env.TasksOf owner pi.id w) (occurredAt : Time) :
    Retells env owner I s₀ durable (Present pi) (finalizeInitializedWorkflow env tenantId pi w occurredAt) fun _ _ => True := by
  have hT : Follow env owner I (fun _ => True) [] (Tale env owner I s₀ durable) (Told env owner I s₀) := tale_follow henv
  refine goes_bind (saveWorkflow_goes hT henv hI hw occurredAt true) fun _ => ?_
  refine goes_bind (goes_query _) fun readyGuid => Goes.pre (P := Present pi) ?_ fun _ _ h => h.2
  refine (goes_session hT hI (L := [.seq, .event]) ?_ (by decide)).post fun _ _ _ _ => trivial
  exact recordProcessInstanceEvent_touches _ rfl _ _ _ _ (List.Subset.refl _)

omit hkeys hfresh in
theorem initializeProcessInstanceWorkflow_retells {processInstanceId : Nat} (hI : I processInstanceId) (tenantId : TenantId)
    (source : WorkflowSource) (startedAt : Option Time) :
    Retells env owner I s₀ durable P (initializeProcessInstanceWorkflow env tenantId processInstanceId source startedAt)
      fun _ _ => True := by
  have hT : Follow env owner I (fun _ => True) [] (Tale env owner I s₀ durable) (Told env owner I s₀) := tale_follow henv
  refine goes_bind (goes_loadProcessInstance hT.left _ _) fun pi => goes_of_fact fun hid => ?_
  subst hid
  split
  · exact goes_raise hT.left _
  refine goes_bind (goes_query _) fun state => ?_
  split
  · exact goes_raise hT.left _
  refine goes_bind (goes_resolveTimestamp _) fun occurredAt => Goes.pre (P := Present pi) ?_ fun _ _ h => present_of_mem h.2.2.1
  refine goes_bind (buildInstanceWorkflow_retells henv hI rfl occurredAt) fun w => goes_of_fact fun hw => ?_
  refine goes_bind (runWorkflow_goes henv hI hw occurredAt true) fun w' => goes_of_fact fun hw' => ?_
  exact finalizeInitializedWorkflow_retells henv hI hw' occurredAt

theorem initializeProcessInstanceFromDefinition_retells (tenantId : TenantId) (definitionId : Nat) (args : StartArgs)
    (resolver : Bool) :
    Retells env owner I s₀ durable P (initializeProcessInstanceFromDefinition env tenantId definitionId args resolver)
      fun _ _ => True := by
  have hleft : ∀ s, Tale env owner I s₀ durable s → Told env owner I s₀ s := retells_left
  refine goes_bind (goes_readOnly hleft (ensureUserBelongsToTenant_readOnly _ _)) fun _ => ?_
  refine goes_bind (goes_readOnly hleft (loadProcessDefinition_readOnly _ _)) fun definition => ?_
  refine goes_bind (goes_readOnly hleft (requireCommandAuthorization_readOnly _ _ _ _ _ _ _)) fun _ => ?_
  refine goes_bind (prepareProcessInstance_retells henv hkeys hfresh _ _ _) ?_
  rintro ⟨pi, selected⟩
  exact goes_of_fact fun hI => initializeProcessInstanceWorkflow_retells henv hI _ _ _

theorem initializeProcessInstanceFromTimerStart_retells (tenantId : TenantId) (definitionId userId : Nat) (specName : String)
    (startedAt : Option Time) :
    Retells env owner I s₀ durable P (initializeProcessInstanceFromTimerStart env tenantId definitionId userId specName startedAt)
      fun _ _ => True := by
  have hT : Follow env owner I (fun _ => True) [] (Tale env owner I s₀ durable) (Told env owner I s₀) := tale_follow henv
  refine goes_bind (goes_readOnly hT.left (ensureUserBelongsToTenant_readOnly _ _)) fun _ => ?_
  refine goes_bind (goes_readOnly hT.left (loadProcessDefinition_readOnly _ _)) fun definition => ?_
  refine goes_bind (prepareProcessInstance_retells henv hkeys hfresh _ _ _) ?_
  rintro ⟨pi, selected⟩
  refine goes_of_fact fun hI => ?_
  refine goes_bind (goes_resolveTimestamp _) fun occurredAt => Goes.pre (P := Present pi) ?_ fun _ _ h => present_of_mem h
  refine goes_bind (buildInstanceWorkflow_retells henv hI rfl occurredAt) fun w => goes_of_fact fun hw => ?_
  refine goes_bind (runWorkflow_goes henv hI hw occurredAt true) fun w' => goes_of_fact fun hw' => ?_
  refine goes_bind (goes_ofExcept hT.left _) fun forced => goes_of_fact fun hforced => ?_
  cases forced with
  | none => exact finalizeInitializedWorkflow_retells henv hI hw' occurredAt
  | some due =>
    have hdue := forceWaitingTimerStartTaskDue_tasksOf henv.separates hw' hforced
    refine goes_bind (goes_ask hT hI trivial _ fun _ _ h => h) fun refreshed => goes_of_fact fun hrefreshed => ?_
    refine goes_bind (goes_orRaised hT.left _) fun w₁ => goes_of_fact fun hw₁ => ?_
    have hown : env.TasksOf owner pi.id w₁ := by
      obtain ⟨ω, rfl⟩ := hrefreshed
      rw [hw₁]
      exact henv.separates.refreshWaitingTasks _ _ hdue
    split
    · refine goes_bind (runWorkflow_goes henv hI hown occurredAt true) fun w₂ => goes_of_fact fun hw₂ => ?_
      exact finalizeInitializedWorkflow_retells henv hI hw₂ occurredAt
    · exact finalizeInitializedWorkflow_retells henv hI hown occurredAt

end

section
end
end M8flowCore
