import M8flowCore.Dispatcher
/-!
# A parallel review

The process of the parallel-review test as a small engine: two manual review
tasks, in parallel or one after the other, a timer, and a service task that runs
once both reviews are done. A workflow is the state of each task together with the instance it was
built for. Concrete runs elsewhere in the development are runs of this engine.
-/
open M8flowCore.Lib M8flowCore.Session

namespace M8flowCore.Sample

/-- The states of the four tasks of instance `owner`. -/
structure Review where
  owner : Nat
  finance : TaskState
  legal : TaskState
  timer : TaskState
  service : TaskState
  deriving DecidableEq

def unary (n : Nat) : String := String.ofList (List.replicate n 'x')

def guid (letter : String) (w : Review) : Guid := letter ++ unary w.owner

def payload (id : Guid) (state : TaskState) (spec : String) : Dict :=
  [("id", .str id), ("state", .int state.value), ("task_spec", .str spec)]

def task (w : Review) (letter spec specType : String) (state : TaskState) (manual : Bool) (timer : Option String) :
    SpiffTask :=
  { id := guid letter w, state := state, manual := manual, specName := spec, specType := specType, lane := .none,
    timer := timer, topLevel := true, subprocess := none, internalData := [("event_value", .str "due")], data := [],
    payload := payload (guid letter w) state spec, specPayload := [("typename", .str specType)] }

def tasks (w : Review) : List SpiffTask :=
  [task w "f" "finance" "ManualTask" w.finance true none, task w "l" "legal" "ManualTask" w.legal true none,
    task w "t" "timer" "IntermediateCatchEvent" w.timer false (some "TimeDateEventDefinition"),
    task w "s" "service" "ServiceTask" w.service false none]

def stateChar : TaskState → Char
  | .maybe => 'm'
  | .likely => 'l'
  | .future => 'f'
  | .waiting => 'w'
  | .ready => 'r'
  | .started => 's'
  | .completed => 'c'
  | .error => 'e'
  | .cancelled => 'x'

def charState : Char → TaskState
  | 'm' => .maybe
  | 'l' => .likely
  | 'f' => .future
  | 'w' => .waiting
  | 'r' => .ready
  | 's' => .started
  | 'c' => .completed
  | 'e' => .error
  | _ => .cancelled

def serialize (w : Review) : String :=
  String.ofList ([stateChar w.finance, stateChar w.legal, stateChar w.timer, stateChar w.service] ++
    List.replicate w.owner 'x')

def deserialize (s : String) : Except Error Review :=
  match s.toList with
  | f :: l :: t :: s :: rest => .ok ⟨rest.length, charState f, charState l, charState t, charState s⟩
  | _ => .error (.other "JSONDecodeError" "")

def specs : List (String × Dict) :=
  [("finance", [("typename", .str "ManualTask")]), ("legal", [("typename", .str "ManualTask")]),
    ("timer", [("typename", .str "IntermediateCatchEvent")]), ("service", [("typename", .str "ServiceTask")])]

def toDict (w : Review) : SerializedWorkflow :=
  { spec := ⟨"review", specs, [("name", .str "review")]⟩, subprocessSpecs := [],
    tasks := (tasks w).map fun t => (t.id, t.payload), subprocesses := [], data := [],
    properties := [("typename", .str "BpmnWorkflow")] }

/-- Complete a ready review. -/
def completeReview (w : Review) (g : Guid) : Option Error × Review :=
  if g = guid "f" w ∧ w.finance = .ready then (none, { w with finance := .completed })
  else if g = guid "l" w ∧ w.legal = .ready then (none, { w with legal := .completed })
  else (some (.other "WorkflowException" "task is not ready"), w)

/-- Run the service task when its turn has come: it succeeds if the connector
is up and ends in `ERROR` otherwise. A legal review that has waited for the
finance review becomes ready after it. -/
def runReview (w : Review) (up : Bool) : Option Error × Review :=
  if w.service = .future ∧ w.finance = .completed ∧ w.legal = .completed then
    if up then (none, { w with service := .completed })
    else (some (.serviceTaskExecution "connector is down"), { w with service := .error })
  else if w.legal = .future ∧ w.finance = .completed then (none, { w with legal := .ready })
  else (none, w)

def resetReview (w : Review) (g : Guid) : Option Error × Review :=
  if g = guid "s" w then (none, { w with service := .future }) else (none, w)

/-- The text of a payload with string and integer values. -/
def valueText : PyVal → Option (List String)
  | .str s => some ["s", s]
  | .int n => some ["i", if 0 ≤ n then "+" else "-", unary n.natAbs]
  | _ => none

def escape (s : String) : List Char := s.toList.flatMap (fun c => [' ', c]) ++ ['|']

/-- A number in unary, with its end marked. -/
def tally (n : Nat) : List Char := List.replicate n 'x' ++ ['|']

def tallyInt (n : Int) : List Char := (if 0 ≤ n then '+' else '-') :: tally n.natAbs

def tallyRat (q : Rat) : List Char := tallyInt q.num ++ tally q.den

def tallyBytes : List UInt8 → List Char
  | [] => [']']
  | b :: bs => ',' :: tally b.toNat ++ tallyBytes bs

mutual

/-- The text of a value: no text begins another. -/
def text : PyVal → List Char
  | .none => ['n']
  | .bool b => ['b', if b then '1' else '0']
  | .int n => 'i' :: tallyInt n
  | .float q => 'f' :: tallyRat q
  | .complex re im => 'c' :: (tallyRat re ++ tallyRat im)
  | .str s => 's' :: escape s
  | .bytes bs => 'y' :: tallyBytes bs
  | .ellipsis => ['e']
  | .tuple xs => 't' :: textList xs
  | .list xs => 'l' :: textList xs
  | .set xs => 'S' :: textList xs
  | .dict kvs => 'd' :: textPairs kvs

def textList : List PyVal → List Char
  | [] => [']']
  | x :: xs => ',' :: (text x ++ textList xs)

def textPairs : List (PyVal × PyVal) → List Char
  | [] => [']']
  | (k, v) :: kvs => ',' :: (text k ++ (text v ++ textPairs kvs))

end

def digest (d : Dict) : String := String.ofList (text d.toVal)

def normalize (d : Dict) : Except Error Dict :=
  if d.all fun kv => (valueText kv.2).isSome then .ok d else .error (.other "TypeError" "")

def processText (xml : String) : Option Review :=
  match xml with
  | "reviews" => some ⟨0, .ready, .ready, .completed, .completed⟩
  | "reviews in sequence" => some ⟨0, .ready, .future, .completed, .completed⟩
  | "reviews with timer" => some ⟨0, .ready, .ready, .waiting, .completed⟩
  | "service" => some ⟨0, .completed, .completed, .completed, .future⟩
  | _ => none

def env : Env Review Bool where
  processIds _ := .ok ["review"]
  buildWorkflow r up := (match processText r.bpmnXml with
    | some w => .ok { w with owner := ((r.context.bind (·.processInstanceId)).getD 0) }
    | none => .error (.validation "not a process"), up)
  containsTimerStartEvent _ := .ok false
  bpmnLaneNames _ := .ok []
  validateBpmnSource _ _ := .ok ()
  tasks := tasks
  completed w := (tasks w).all fun t => t.state == .completed || t.state == .cancelled
  data _ := []
  updateData w _ := w
  updateTaskTreeData w _ := w
  setTaskData w _ _ := w
  setEventValue w _ _ := w
  complete _ w g up := (completeReview w g, up)
  runAll _ w up := (runReview w up, up)
  refreshWaitingTasks _ w up := ((none, if w.timer = .waiting then { w with timer := .completed } else w), up)
  resetFromTaskId w g _ := resetReview w g
  toDict := toDict
  serializeJson w := .ok (serialize w)
  deserializeJson := deserialize
  authorize _ _ := .ok ⟨true, none⟩
  normalizedPayload := normalize
  payloadDigest := digest
  sha256 s := s
  lower s := s
  sqlLower s := s
  literalEval _ := none
  str _ := ""
  repr _ := ""
  fromisoformat s := if s = "due" then some 5000000 else none
  isoformat _ := "due"
  ceilTimestamp t := -(-t / 1000000)
  now _ := 0

def db₀ : Db :=
  { tenants := [⟨"t", "t"⟩]
    users := [⟨1, "u", none, "t", "u", none, none, none, none, none, none⟩]
    groups := [], userGroupAssignments := [], principals := [], permissionTargets := [], permissionAssignments := []
    definitions := [⟨2, "t", "d", "review", none,
      [(BpmnProcessDefinition.sourceBpmnXmlPropertyKey, .str "reviews")], none, none, none, none⟩]
    versions := [], taskDefinitions := [], bpmnProcesses := [], jsonData := [], processInstances := [], metadata := []
    events := [], tasks := [], futureTasks := [], workItems := [], workItemUsers := [], schedulerJobs := [] }

def startArgs : StartArgs := ⟨1, [], none, none, none⟩

/-- `db₀` with another source for its definition. -/
def dbOf (source : String) : Db :=
  { db₀ with
    definitions := [⟨2, "t", "d", "review", none,
      [(BpmnProcessDefinition.sourceBpmnXmlPropertyKey, .str source)], none, none, none, none⟩] }

/-- `db₀` with a source the engine cannot build. -/
def brokenDb : Db := dbOf "nothing"

def store : Store := ⟨10, db₀⟩

/-! Operations on the instance of the first start, which is `11`. -/

def start : Operation := .command (.initializeFromDefinition "t" 2 startArgs false)

def claim (workItemId : Nat) : Operation := .command (.claimTask "t" workItemId 1)

def complete (workItemId : Nat) : Operation := .command (.completeTask "t" workItemId 1 none [])

def suspend : Operation := .command (.suspend "t" 11 1 none)

def terminate : Operation := .command (.terminate "t" 11 1 none)

/-- An open item of the tenant that two members may claim. -/
def sharedItem : WorkItem := ⟨5, "t", 4, none, none, none, none, .ready, false, none, none⟩

def sharedDb : Db :=
  { db₀ with
    users := db₀.users ++ [⟨3, "v", none, "t", "v", none, none, none, none, none, none⟩]
    workItems := [sharedItem]
    workItemUsers := [⟨"t", 5, 1, none⟩, ⟨"t", 5, 3, none⟩] }

/-! ## The engine keeps the rules -/

theorem escape_inj {s s' : String} {r r' : List Char} (h : escape s ++ r = escape s' ++ r') : s = s' ∧ r = r' := by
  have hchars : ∀ cs cs' : List Char, cs.flatMap (fun c => [' ', c]) ++ '|' :: r = cs'.flatMap (fun c => [' ', c]) ++ '|' :: r' →
      cs = cs' ∧ r = r' := by
    intro cs
    induction cs with
    | nil =>
      intro cs' h
      cases cs' with
      | nil => simpa using h
      | cons c cs' => simp at h
    | cons c cs ih =>
      intro cs' h
      cases cs' with
      | nil => simp at h
      | cons c' cs' =>
        simp only [List.flatMap_cons, List.cons_append, List.nil_append, List.cons.injEq, true_and] at h
        obtain ⟨hrest, hr⟩ := ih cs' h.2
        exact ⟨by rw [h.1, hrest], hr⟩
  unfold escape at h
  simp only [List.append_assoc, List.cons_append, List.nil_append] at h
  obtain ⟨hlist, hr⟩ := hchars _ _ h
  exact ⟨String.toList_inj.1 hlist, hr⟩

theorem tally_inj {n n' : Nat} {r r' : List Char} (h : tally n ++ r = tally n' ++ r') : n = n' ∧ r = r' := by
  unfold tally at h
  simp only [List.append_assoc, List.cons_append, List.nil_append] at h
  induction n generalizing n' with
  | zero =>
    cases n' with
    | zero => simpa using h
    | succ n' => simp [List.replicate_succ] at h
  | succ n ih =>
    cases n' with
    | zero => simp [List.replicate_succ] at h
    | succ n' =>
      simp only [List.replicate_succ, List.cons_append, List.cons.injEq, true_and] at h
      obtain ⟨hn, hr⟩ := ih h
      exact ⟨by rw [hn], hr⟩

theorem tallyInt_inj {n n' : Int} {r r' : List Char} (h : tallyInt n ++ r = tallyInt n' ++ r') : n = n' ∧ r = r' := by
  unfold tallyInt at h
  simp only [List.cons_append, List.cons.injEq] at h
  obtain ⟨habs, hr⟩ := tally_inj h.2
  refine ⟨?_, hr⟩
  have hsign := h.1
  split at hsign <;> split at hsign <;> simp at hsign <;> omega

theorem tallyRat_inj {q q' : Rat} {r r' : List Char} (h : tallyRat q ++ r = tallyRat q' ++ r') : q = q' ∧ r = r' := by
  unfold tallyRat at h
  simp only [List.append_assoc] at h
  obtain ⟨hnum, hrest⟩ := tallyInt_inj h
  obtain ⟨hden, hr⟩ := tally_inj hrest
  exact ⟨Rat.ext hnum hden, hr⟩

theorem tallyBytes_inj : ∀ {bs bs' : List UInt8} {r r' : List Char}, tallyBytes bs ++ r = tallyBytes bs' ++ r' →
    bs = bs' ∧ r = r'
  | [], [], r, r', h => by simpa [tallyBytes] using h
  | [], _ :: _, r, r', h => by simp [tallyBytes] at h
  | _ :: _, [], r, r', h => by simp [tallyBytes] at h
  | b :: bs, b' :: bs', r, r', h => by
    simp only [tallyBytes, List.cons_append, List.append_assoc, List.cons.injEq, true_and] at h
    obtain ⟨hb, hrest⟩ := tally_inj h
    obtain ⟨hbs, hr⟩ := tallyBytes_inj hrest
    exact ⟨by rw [UInt8.toNat_inj.1 hb, hbs], hr⟩

mutual

theorem text_inj : ∀ {a b : PyVal} {r r' : List Char}, text a ++ r = text b ++ r' → a = b ∧ r = r'
  | .none, b, r, r', h => by cases b <;> simp [text] at h ⊢; exact h
  | .bool a, b, r, r', h => by cases b <;> simp [text] at h ⊢; rename_i b; cases a <;> cases b <;> simp at h ⊢ <;> exact h
  | .int n, b, r, r', h => by cases b <;> simp [text] at h ⊢; exact tallyInt_inj h
  | .float q, b, r, r', h => by cases b <;> simp [text] at h ⊢; exact tallyRat_inj h
  | .complex re im, b, r, r', h => by
    cases b <;> simp [text] at h ⊢
    obtain ⟨hre, hrest⟩ := tallyRat_inj h
    obtain ⟨him, hr⟩ := tallyRat_inj hrest
    exact ⟨⟨hre, him⟩, hr⟩
  | .str s, b, r, r', h => by cases b <;> simp [text] at h ⊢; exact escape_inj h
  | .bytes bs, b, r, r', h => by cases b <;> simp [text] at h ⊢; exact tallyBytes_inj h
  | .ellipsis, b, r, r', h => by cases b <;> simp [text] at h ⊢; exact h
  | .tuple xs, b, r, r', h => by cases b <;> simp [text] at h ⊢; exact textList_inj h
  | .list xs, b, r, r', h => by cases b <;> simp [text] at h ⊢; exact textList_inj h
  | .set xs, b, r, r', h => by cases b <;> simp [text] at h ⊢; exact textList_inj h
  | .dict kvs, b, r, r', h => by cases b <;> simp [text] at h ⊢; exact textPairs_inj h

theorem textList_inj : ∀ {as bs : List PyVal} {r r' : List Char}, textList as ++ r = textList bs ++ r' → as = bs ∧ r = r'
  | [], [], r, r', h => by simpa [textList] using h
  | [], _ :: _, r, r', h => by simp [textList] at h
  | _ :: _, [], r, r', h => by simp [textList] at h
  | a :: as, b :: bs, r, r', h => by
    simp only [textList, List.cons_append, List.append_assoc, List.cons.injEq, true_and] at h
    obtain ⟨hab, hrest⟩ := text_inj h
    obtain ⟨hbs, hr⟩ := textList_inj hrest
    exact ⟨by rw [hab, hbs], hr⟩

theorem textPairs_inj : ∀ {as bs : List (PyVal × PyVal)} {r r' : List Char}, textPairs as ++ r = textPairs bs ++ r' →
    as = bs ∧ r = r'
  | [], [], r, r', h => by simpa [textPairs] using h
  | [], _ :: _, r, r', h => by simp [textPairs] at h
  | _ :: _, [], r, r', h => by simp [textPairs] at h
  | (k, v) :: as, (k', v') :: bs, r, r', h => by
    simp only [textPairs, List.cons_append, List.append_assoc, List.cons.injEq, true_and] at h
    obtain ⟨hk, hrest⟩ := text_inj h
    obtain ⟨hv, hrest⟩ := text_inj hrest
    obtain ⟨hbs, hr⟩ := textPairs_inj hrest
    exact ⟨by rw [hk, hv, hbs], hr⟩

end

theorem charState_stateChar (t : TaskState) : charState (stateChar t) = t := by cases t <;> rfl

theorem deserialize_serialize (w : Review) : deserialize (serialize w) = .ok w := by
  simp [deserialize, serialize, charState_stateChar]

theorem toVal_injective {d d' : Dict} (h : d.toVal = d'.toVal) : d = d' := by
  refine List.map_injective_iff.2 ?_ (PyVal.dict.inj h)
  rintro ⟨k, v⟩ ⟨k', v'⟩ hkv
  simpa using hkv

theorem env_lawful : env.Lawful where
  restore := by
    intro w s h
    obtain rfl := Except.ok.inj h
    exact ⟨w, deserialize_serialize w, rfl, rfl⟩
  normalized_str := by
    intro d d' key s h hget
    simp only [env, normalize] at h
    split at h
    · obtain rfl := Except.ok.inj h
      exact hget
    · simp at h
  ceilTimestamp_exact := fun _ _ => rfl
  completed_idle := by
    intro w h t ht hready
    have := List.all_eq_true.1 h t ht
    simp [hready] at this
  digest_injective := by
    rintro hash d d' ⟨hd, -⟩ ⟨hd', -⟩
    have hlist : text d.toVal = text d'.toVal := String.ofList_injective (hd.symm.trans hd')
    exact toVal_injective (text_inj (congrArg (· ++ []) hlist)).1

theorem env_decides : env.Decides := fun _ _ _ => ⟨_, rfl⟩

end M8flowCore.Sample
