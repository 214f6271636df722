import M8flowCore.Services.CallActivities
import Mathlib.Data.Set.Card
import Mathlib.Logic.Relation
/-!
# What is loaded for call activities

The graph the loader follows is discovered while it runs: every source that is
added brings processes and calls of its own. What is said of a run is said of
the parser it leaves.
-/
open M8flowCore.Lib

namespace M8flowCore

section
variable {Xml : Type}

namespace BpmnParser

/-- A process of the parser calls an element. -/
def Calls (p : BpmnParser Xml) (processId calledElement : String) : Prop :=
  ∃ processParser, p.getProcessParser processId = some processParser ∧ some calledElement ∈ processParser.calledElementIds

/-- The ids a root reaches through `calledElement` references. -/
def Reaches (p : BpmnParser Xml) : String → String → Prop := Relation.ReflTransGen p.Calls

/-- A process that is reached has a call activity without a called element. -/
def BlankCall (p : BpmnParser Xml) (root : String) : Prop :=
  ∃ processId processParser, p.Reaches root processId ∧ p.getProcessParser processId = some processParser ∧
    ∃ called ∈ processParser.calledElementIds, called = none ∨ ∃ calledElement, called = some calledElement ∧
      strip calledElement = ""

/-- A process that is reached calls an element the parser lacks. -/
def External (p : BpmnParser Xml) (root calledElement : String) : Prop :=
  ∃ processId, p.Reaches root processId ∧ p.Calls processId calledElement ∧ p.getProcessParser calledElement = none

/-- Every process of `p` is a process of `q`, with the same calls. -/
def Extends (p q : BpmnParser Xml) : Prop :=
  ∀ processId processParser, p.getProcessParser processId = some processParser →
    q.getProcessParser processId = some processParser

end BpmnParser

variable (spiff : Spiff Xml) (resolver : Option (CallActivityResolver Xml)) (context : Option CallActivityContext)

/-- The resolver returns one definition for an element, with its id. -/
def Resolves (calledElement : String) (d : CallActivityDefinition Xml) : Prop :=
  ∃ resolve request, resolver = some resolve ∧ context = some request ∧ d.processId = calledElement ∧
    (resolve { request with calledElement := calledElement } = .ok (.definition d) ∨
      resolve { request with calledElement := calledElement } = .ok (.sequence [some d]))

/-- The ways in which an element has no definition. -/
inductive Unresolved (calledElement : String) : Prop
  | noResolver (h : resolver = none)
  | noContext (h : context = none)
  | raised {resolve : CallActivityResolver Xml} {request : CallActivityContext} {e : Error} (hr : resolver = some resolve)
      (hc : context = some request) (h : resolve { request with calledElement := calledElement } = .error e)
  | missing {resolve : CallActivityResolver Xml} {request : CallActivityContext} (hr : resolver = some resolve)
      (hc : context = some request) (h : resolve { request with calledElement := calledElement } = .ok .none ∨
        resolve { request with calledElement := calledElement } = .ok (.sequence []))
  | several {resolve : CallActivityResolver Xml} {request : CallActivityContext}
      {ds : List (Option (CallActivityDefinition Xml))} (hr : resolver = some resolve) (hc : context = some request)
      (h : resolve { request with calledElement := calledElement } = .ok (.sequence ds)) (hlen : 2 ≤ ds.length)
  | wrongType {resolve : CallActivityResolver Xml} {request : CallActivityContext} (hr : resolver = some resolve)
      (hc : context = some request) (h : resolve { request with calledElement := calledElement } = .ok .other ∨
        resolve { request with calledElement := calledElement } = .ok (.sequence [none]))
  | mismatch {resolve : CallActivityResolver Xml} {request : CallActivityContext} {d : CallActivityDefinition Xml}
      (hr : resolver = some resolve) (hc : context = some request)
      (h : resolve { request with calledElement := calledElement } = .ok (.definition d) ∨
        resolve { request with calledElement := calledElement } = .ok (.sequence [some d]))
      (hne : d.processId ≠ calledElement)

/-- The parser raises on one of the sources of a definition. -/
def Rejected (p : BpmnParser Xml) (d : CallActivityDefinition Xml) : Prop :=
  (∃ e, addBpmnStr spiff p d.bpmnXml = .error e) ∨
    ∃ p' xml e, addBpmnStr spiff p d.bpmnXml = .ok p' ∧ d.dmnXml = some xml ∧ addDmnStr spiff p' xml = .error e

/-- The BPMN source of a definition is accepted and does not hold its process. -/
def Lacking (p : BpmnParser Xml) (d : CallActivityDefinition Xml) : Prop :=
  ∃ p', addBpmnStr spiff p d.bpmnXml = .ok p' ∧ d.processId ∉ p'.getProcessIds

/-- A call that cannot be loaded into the parser. -/
def Fault (p : BpmnParser Xml) (root : String) : Prop :=
  p.BlankCall root ∨ ∃ calledElement, p.External root calledElement ∧
    (Unresolved resolver context calledElement ∨
      ∃ d, Resolves resolver context calledElement d ∧ (Rejected spiff p d ∨ Lacking spiff p d))

/-- The parser with the definition of one more element that is reached. -/
def Gains (root : String) (p q : BpmnParser Xml) : Prop :=
  ∃ calledElement d, p.External root calledElement ∧ Resolves resolver context calledElement d ∧
    addDefinition spiff calledElement d p = .ok q

/-- The ids a root reaches, with whatever the resolver may add. -/
def reachable (root : String) (p : BpmnParser Xml) : Set String :=
  {processId | ∃ q, Relation.ReflTransGen (Gains spiff resolver context root) p q ∧ q.Reaches root processId}

/-! ## Adding a definition -/

namespace BpmnParser
variable {p q : BpmnParser Xml} {root processId : String}

theorem mem_getProcessIds : processId ∈ p.getProcessIds ↔ (p.getProcessParser processId).isSome = true := by
  simp [getProcessIds, getProcessParser]

theorem extends_of_append {entries : List (String × ProcessParser)} (h : q.processes = p.processes ++ entries) :
    p.Extends q := by
  intro processId processParser hget
  unfold getProcessParser at hget ⊢
  obtain ⟨entry, hfind, hentry⟩ := Option.map_eq_some_iff.1 hget
  rw [h, List.find?_append, hfind]
  simp [hentry]

theorem Calls.named {calledElement : String} (h : p.Calls processId calledElement) :
    ∃ entry ∈ p.processes, some calledElement ∈ entry.2.calledElementIds := by
  obtain ⟨processParser, hget, hmem⟩ := h
  obtain ⟨entry, hfind, rfl⟩ := Option.map_eq_some_iff.1 hget
  exact ⟨entry, List.mem_of_find?_eq_some hfind, hmem⟩

theorem Extends.mem (h : p.Extends q) (hmem : processId ∈ p.getProcessIds) : processId ∈ q.getProcessIds := by
  rw [mem_getProcessIds] at *
  obtain ⟨processParser, hget⟩ := Option.isSome_iff_exists.1 hmem
  simp [h _ _ hget]

theorem Extends.reaches (h : p.Extends q) (hreach : p.Reaches root processId) : q.Reaches root processId := by
  refine Relation.ReflTransGen.mono ?_ _ _ hreach
  rintro x y ⟨processParser, hget, hmem⟩
  exact ⟨processParser, h _ _ hget, hmem⟩

end BpmnParser

section
variable {spiff} {resolver context} {p q : BpmnParser Xml} {calledElement : String} {d : CallActivityDefinition Xml} {e : Error}

theorem addProcesses_ok {known entries processes : List (String × ProcessParser)}
    (h : addProcesses spiff known entries = .ok processes) : processes = known ++ entries := by
  induction entries generalizing known with
  | nil => simpa [addProcesses] using h.symm
  | cons entry entries ih =>
    rw [addProcesses] at h
    split at h
    · cases h
    · simpa using ih h

theorem addBpmnStr_ok {xml : Xml} (h : addBpmnStr spiff p xml = .ok q) :
    ∃ entries, spiff.bpmn xml = .ok entries ∧ q.processes = p.processes ++ entries := by
  unfold addBpmnStr at h
  cases hparse : spiff.bpmn xml with
  | error e => simp [hparse] at h
  | ok entries =>
    cases hadd : addProcesses spiff p.processes entries with
    | error e => simp [hparse, hadd] at h
    | ok processes =>
      simp only [hparse, hadd, Except.ok.injEq] at h
      refine ⟨entries, rfl, ?_⟩
      rw [← h]
      exact addProcesses_ok hadd

theorem addDmnStr_processes {xml : Xml} (h : addDmnStr spiff p xml = .ok q) : q.processes = p.processes := by
  unfold addDmnStr at h
  cases hdmn : spiff.dmn p.decisions xml with
  | some e => simp [hdmn] at h
  | none =>
    simp only [hdmn, Except.ok.injEq] at h
    rw [← h]

/-- A definition that was added is in the parser, and all that is new comes from
its source. -/
theorem addDefinition_ok (h : addDefinition spiff calledElement d p = .ok q) :
    d.processId ∈ q.getProcessIds ∧ ∃ entries, spiff.bpmn d.bpmnXml = .ok entries ∧ q.processes = p.processes ++ entries := by
  unfold addDefinition at h
  cases hadd : addBpmnStr spiff p d.bpmnXml with
  | error e => simp [hadd] at h
  | ok p' =>
    simp only [hadd] at h
    split at h
    · cases h
    · rename_i hmem
      rw [not_not] at hmem
      cases hdmn : d.dmnXml with
      | none =>
        simp only [hdmn, Except.ok.injEq] at h
        subst h
        exact ⟨hmem, addBpmnStr_ok hadd⟩
      | some xml =>
        cases hadd' : addDmnStr spiff p' xml with
        | error e => simp [hdmn, hadd'] at h
        | ok p'' =>
          simp only [hdmn, hadd', Except.ok.injEq] at h
          subst h
          have hprocesses := addDmnStr_processes hadd'
          rw [BpmnParser.getProcessIds, hprocesses]
          exact ⟨hmem, addBpmnStr_ok hadd⟩

theorem addDefinition_error (h : addDefinition spiff calledElement d p = .error e) :
    Rejected spiff p d ∨ Lacking spiff p d := by
  unfold addDefinition at h
  cases hadd : addBpmnStr spiff p d.bpmnXml with
  | error e' => exact .inl (.inl ⟨e', hadd⟩)
  | ok p' =>
    simp only [hadd] at h
    split at h
    · rename_i hmem
      exact .inr ⟨p', hadd, hmem⟩
    · cases hdmn : d.dmnXml with
      | none => simp [hdmn] at h
      | some xml =>
        cases hadd' : addDmnStr spiff p' xml with
        | error e' => exact .inl (.inr ⟨p', xml, e', hadd, hdmn, hadd'⟩)
        | ok p'' => simp [hdmn, hadd'] at h

/-- What the checks on a resolver's answer come to. -/
theorem resolvedDefinition_cases {resolve : CallActivityResolver Xml} {request : CallActivityContext}
    (hr : resolver = some resolve) (hc : context = some request) (calledElement : String) :
    (∃ e, resolvedDefinition request.tenantId calledElement (resolve { request with calledElement := calledElement }) =
        .error e ∧ Unresolved resolver context calledElement) ∨
      ∃ d, resolvedDefinition request.tenantId calledElement (resolve { request with calledElement := calledElement }) =
        .ok d ∧ Resolves resolver context calledElement d := by
  have hone : ∀ d, (resolve { request with calledElement := calledElement } = .ok (.definition d) ∨
      resolve { request with calledElement := calledElement } = .ok (.sequence [some d])) →
      (∃ e, onlyDefinition request.tenantId calledElement [some d] = .error e ∧ Unresolved resolver context calledElement) ∨
        ∃ d', onlyDefinition request.tenantId calledElement [some d] = .ok d' ∧
          Resolves resolver context calledElement d' := by
    intro d h
    by_cases hid : d.processId = calledElement
    · exact .inr ⟨d, by simp [onlyDefinition, hid], resolve, request, hr, hc, hid, h⟩
    · exact .inl ⟨_, by simp [onlyDefinition, hid]; rfl, .mismatch hr hc h hid⟩
  cases hres : resolve { request with calledElement := calledElement } with
  | error e =>
    refine .inl ?_
    cases e <;> exact ⟨_, rfl, .raised hr hc hres⟩
  | ok r =>
    cases r with
    | none => exact .inl ⟨_, rfl, .missing hr hc (.inl hres)⟩
    | other => exact .inl ⟨_, rfl, .wrongType hr hc (.inl hres)⟩
    | definition d => exact hone d (.inl hres)
    | sequence ds =>
      match ds, hres with
      | [], hres => exact .inl ⟨_, rfl, .missing hr hc (.inr hres)⟩
      | [none], hres => exact .inl ⟨_, rfl, .wrongType hr hc (.inr hres)⟩
      | [some d], hres => exact hone d (.inr hres)
      | none :: _ :: _, hres => exact .inl ⟨_, rfl, .several hr hc hres (by simp)⟩
      | some _ :: _ :: _, hres => exact .inl ⟨_, rfl, .several hr hc hres (by simp)⟩

/-- One element that the parser lacks: refused before the resolver is called, or
asked for once and then refused or added. -/
theorem resolveCalledElement_cases (spiff : Spiff Xml) (resolver : Option (CallActivityResolver Xml))
    (context : Option CallActivityContext) (calledElement : String) (s : Loading Xml) :
    (∃ e, (resolveCalledElement spiff resolver context calledElement).run s = (.error e, s) ∧
      Unresolved resolver context calledElement) ∨
    ∃ call : CallActivityContext × List String, call.1.calledElement = calledElement ∧ call.2 = s.parser.getProcessIds ∧
      ((∃ e, (resolveCalledElement spiff resolver context calledElement).run s =
          (.error e, { s with asked := s.asked ++ [call] }) ∧ (Unresolved resolver context calledElement ∨
            ∃ d, Resolves resolver context calledElement d ∧ (Rejected spiff s.parser d ∨ Lacking spiff s.parser d))) ∨
        ∃ d q, (resolveCalledElement spiff resolver context calledElement).run s =
          (.ok (), { s with parser := q, asked := s.asked ++ [call] }) ∧ Resolves resolver context calledElement d ∧
            addDefinition spiff calledElement d s.parser = .ok q) := by
  unfold resolveCalledElement
  cases hr : resolver with
  | none => exact .inl ⟨_, rfl, .noResolver rfl⟩
  | some resolve =>
    cases hc : context with
    | none => exact .inl ⟨_, rfl, .noContext rfl⟩
    | some request =>
      refine .inr ⟨({ request with calledElement := calledElement }, s.parser.getProcessIds), rfl, rfl, ?_⟩
      simp only [Prog.modify_bind_run]
      have hcases := resolvedDefinition_cases (rfl : some resolve = some resolve) (rfl : some request = some request) calledElement
      rcases hcases with ⟨e, hres, hun⟩ | ⟨d, hres, hd⟩
      · refine .inl ⟨e, ?_, .inl hun⟩
        rw [hres]
        rfl
      · rw [hres]
        simp only [Prog.gets_bind_run]
        cases hadd : addDefinition spiff calledElement d s.parser with
        | error e => exact .inl ⟨_, rfl, .inr ⟨d, hd, addDefinition_error hadd⟩⟩
        | ok q => exact .inr ⟨d, q, rfl, hd, hadd⟩

end

/-! ## The invariant of the loop -/

/-- No element was asked for twice, and none that the parser held. -/
structure Loading.AskedOnce (s : Loading Xml) : Prop where
  once : (s.asked.map (·.1.calledElement)).Nodup
  lacked : ∀ call ∈ s.asked, call.1.calledElement ∉ call.2

/-- A call was followed: its element is inspected or will be. -/
def Loading.Covers (s : Loading Xml) (called : Option String) : Prop :=
  ∃ calledElement, called = some calledElement ∧ strip calledElement ≠ "" ∧
    (calledElement ∈ s.inspected ∨ calledElement ∈ s.pending)

/-- Between two turns, or in the middle of one: the calls in `rest` of the
process `current` are still to be followed. -/
structure Loading.Sound (root : String) (p : BpmnParser Xml) (current : String) (rest : List (Option String))
    (s : Loading Xml) : Prop extends s.AskedOnce where
  grown : Relation.ReflTransGen (Gains spiff resolver context root) p s.parser
  asked_loaded : ∀ call ∈ s.asked, call.1.calledElement ∈ s.parser.getProcessIds
  covers_root : root ∈ s.inspected ∨ root ∈ s.pending
  met : ∀ processId, processId ∈ s.inspected ∨ processId ∈ s.pending →
    s.parser.Reaches root processId ∧ processId ∈ s.parser.getProcessIds
  covers : ∀ processId ∈ s.inspected, ∀ processParser, s.parser.getProcessParser processId = some processParser →
    ∀ called ∈ processParser.calledElementIds, s.Covers called ∨ (processId = current ∧ called ∈ rest)

/-- In the middle of a turn. -/
structure Loading.Inspecting (root : String) (p : BpmnParser Xml) (current : String) (rest : List (Option String))
    (s : Loading Xml) : Prop extends s.Sound spiff resolver context root p current rest where
  inspected : current ∈ s.inspected
  calls : ∀ called ∈ rest, ∃ processParser, s.parser.getProcessParser current = some processParser ∧
    called ∈ processParser.calledElementIds

/-- Where a raise leaves the loader. -/
structure Loading.Stopped (root : String) (p : BpmnParser Xml) (s : Loading Xml) : Prop extends s.AskedOnce where
  grown : Relation.ReflTransGen (Gains spiff resolver context root) p s.parser
  fault : Fault spiff resolver context s.parser root

section
variable {spiff} {resolver context} {p : BpmnParser Xml} {root current : String} {s : Loading Xml}
  {rest : List (Option String)}

/-- Another call of the resolver, for an element that is not loaded. -/
theorem Loading.Sound.ask (h : s.Sound spiff resolver context root p current rest)
    {call : CallActivityContext × List String} (hids : call.2 = s.parser.getProcessIds)
    (hlacks : s.parser.getProcessParser call.1.calledElement = none) :
    Loading.AskedOnce { s with asked := s.asked ++ [call] } := by
  have hnot : call.1.calledElement ∉ s.parser.getProcessIds := by
    rw [BpmnParser.mem_getProcessIds, hlacks]
    simp
  constructor
  · simp only [List.map_append, List.map_cons, List.map_nil, List.nodup_append, List.mem_map]
    refine ⟨h.once, by simp, ?_⟩
    rintro _ ⟨call', hcall', rfl⟩ _ hmem heq
    rw [List.mem_singleton] at hmem
    exact hnot (by rw [← hmem, ← heq]; exact h.asked_loaded call' hcall')
  · intro call' hcall'
    rcases List.mem_append.1 hcall' with hmem | hmem
    · exact h.lacked call' hmem
    · rw [List.mem_singleton.1 hmem, hids]
      exact hnot

/-- A source was added for an element that was asked for. -/
theorem Loading.Inspecting.add (h : s.Inspecting spiff resolver context root p current rest)
    {call : CallActivityContext × List String} {d : CallActivityDefinition Xml} {q : BpmnParser Xml}
    (hids : call.2 = s.parser.getProcessIds) (hexternal : s.parser.External root call.1.calledElement)
    (hres : Resolves resolver context call.1.calledElement d)
    (hadd : addDefinition spiff call.1.calledElement d s.parser = .ok q) :
    Loading.Inspecting spiff resolver context root p current rest { s with parser := q, asked := s.asked ++ [call] } := by
  obtain ⟨hmem, entries, -, hprocesses⟩ := addDefinition_ok hadd
  have hextends := BpmnParser.extends_of_append hprocesses
  obtain ⟨processId, hreach, hcalls, hlacks⟩ := hexternal
  have hask := h.ask hids hlacks
  -- an inspected process was loaded before, so that its calls are the same now
  have hkept : ∀ processId ∈ s.inspected, ∀ processParser, q.getProcessParser processId = some processParser →
      s.parser.getProcessParser processId = some processParser := by
    intro processId hin processParser hget
    have hloaded := (h.met processId (.inl hin)).2
    obtain ⟨processParser', hget'⟩ := Option.isSome_iff_exists.1 (BpmnParser.mem_getProcessIds.1 hloaded)
    rw [hextends _ _ hget'] at hget
    rw [hget', hget]
  refine { hask with grown := ?_, asked_loaded := ?_, covers_root := h.covers_root, met := ?_, covers := ?_,
                     inspected := h.inspected, calls := ?_ }
  · exact h.grown.tail ⟨call.1.calledElement, d, ⟨processId, hreach, hcalls, hlacks⟩, hres, hadd⟩
  · intro call' hcall'
    rcases List.mem_append.1 hcall' with hcall' | hcall'
    · exact hextends.mem (h.asked_loaded call' hcall')
    · obtain ⟨_, _, -, -, hid, -⟩ := hres
      rw [List.mem_singleton.1 hcall', ← hid]
      exact hmem
  · intro processId hin
    exact ⟨hextends.reaches (h.met processId hin).1, hextends.mem (h.met processId hin).2⟩
  · intro processId hin processParser hget
    exact h.covers processId hin processParser (hkept processId hin processParser hget)
  · intro called hcalled
    obtain ⟨processParser, hget, hin⟩ := h.calls called hcalled
    exact ⟨processParser, hextends _ _ hget, hin⟩

/-- The element of a call is in the parser: it is left for a later turn. -/
theorem Loading.Inspecting.push {calledElement : String}
    (h : s.Inspecting spiff resolver context root p current (some calledElement :: rest))
    (hblank : strip calledElement ≠ "") (hloaded : calledElement ∈ s.parser.getProcessIds) :
    Loading.Inspecting spiff resolver context root p current rest { s with pending := calledElement :: s.pending } := by
  have hreach : s.parser.Reaches root calledElement := by
    obtain ⟨processParser, hget, hin⟩ := h.calls (some calledElement) List.mem_cons_self
    exact (h.met current (.inl h.inspected)).1.tail ⟨processParser, hget, hin⟩
  have hcovers : ∀ called, s.Covers called → Loading.Covers { s with pending := calledElement :: s.pending } called := by
    rintro called ⟨t, rfl, ht, hin⟩
    exact ⟨t, rfl, ht, hin.imp id (List.mem_cons_of_mem _)⟩
  refine { h with covers_root := h.covers_root.imp id (List.mem_cons_of_mem _), met := ?_, covers := ?_, calls := ?_ }
  · rintro processId (hin | hin)
    · exact h.met processId (.inl hin)
    · rcases List.mem_cons.1 hin with rfl | hin
      · exact ⟨hreach, hloaded⟩
      · exact h.met processId (.inr hin)
  · intro processId hin processParser hget called hcalled
    rcases h.covers processId hin processParser hget called hcalled with hcov | ⟨rfl, hrest⟩
    · exact .inl (hcovers called hcov)
    · rcases List.mem_cons.1 hrest with rfl | hrest
      · exact .inl ⟨calledElement, rfl, hblank, .inr List.mem_cons_self⟩
      · exact .inr ⟨rfl, hrest⟩
  · exact fun called hcalled => h.calls called (List.mem_cons_of_mem _ hcalled)

theorem Loading.Inspecting.stopped {called : Option String}
    (h : s.Inspecting spiff resolver context root p current (called :: rest))
    (hblank : called = none ∨ ∃ calledElement, called = some calledElement ∧ strip calledElement = "") :
    s.Stopped spiff resolver context root p := by
  obtain ⟨processParser, hget, hin⟩ := h.calls called List.mem_cons_self
  refine { h with fault := .inl ⟨current, processParser, (h.met current (.inl h.inspected)).1, hget, called, hin, hblank⟩ }

/-- A call is followed, or the loader stops at it. -/
theorem followCall_ends (called : Option String) :
    Prog.Ends (Loading.Inspecting spiff resolver context root p current (called :: rest))
      (followCall spiff resolver context current called)
      (fun _ => Loading.Inspecting spiff resolver context root p current rest)
      (fun _ => Loading.Stopped spiff resolver context root p) := by
  cases called with
  | none => exact Prog.ends_raise _ fun s h => h.stopped (.inl rfl)
  | some calledElement =>
    rw [followCall]
    split
    · rename_i hblank
      exact Prog.ends_raise _ fun s h => h.stopped (.inr ⟨calledElement, rfl, by simpa using hblank⟩)
    · rename_i hblank
      have hblank : strip calledElement ≠ "" := by simpa using hblank
      intro s h
      simp only [Prog.gets_bind_run]
      split
      · rename_i hlacks
        have hexternal : s.parser.External root calledElement := by
          obtain ⟨processParser, hget, hin⟩ := h.calls (some calledElement) List.mem_cons_self
          exact ⟨current, (h.met current (.inl h.inspected)).1, ⟨processParser, hget, hin⟩, by simpa using hlacks⟩
        rcases resolveCalledElement_cases spiff resolver context calledElement s with
          ⟨e, hrun, hun⟩ | ⟨call, rfl, hids, ⟨e, hrun, hun⟩ | ⟨d, q, hrun, hres, hadd⟩⟩
        · rw [Prog.bind_run_error hrun]
          refine ⟨by simp, ?_⟩
          rintro e' s' ⟨⟩
          exact { h with fault := .inr ⟨calledElement, hexternal, .inl hun⟩ }
        · rw [Prog.bind_run_error hrun]
          refine ⟨by simp, ?_⟩
          rintro e' s' ⟨⟩
          exact { h.ask hids (by simpa using hlacks) with
                  grown := h.grown, fault := .inr ⟨call.1.calledElement, hexternal, hun⟩ }
        · rw [Prog.bind_run_ok hrun]
          refine ⟨?_, by simp⟩
          rintro u s' ⟨⟩
          obtain ⟨_, _, -, -, hid, -⟩ := id hres
          exact (h.add hids hexternal hres hadd).push hblank (hid ▸ (addDefinition_ok hadd).1)
      · rename_i hlacks
        refine ⟨?_, by simp⟩
        rintro u s' ⟨⟩
        exact h.push hblank (BpmnParser.mem_getProcessIds.2 (by simpa [Option.isSome_iff_ne_none] using hlacks))

variable (spiff resolver context current) in
theorem followCall_inspected (called : Option String) :
    Prog.Keeps (fun s s' : Loading Xml => s'.inspected = s.inspected) (followCall spiff resolver context current called) := by
  intro s
  cases called with
  | none => rfl
  | some calledElement =>
    rw [followCall]
    split
    · rfl
    · simp only [Prog.gets_bind_run]
      split
      · rcases resolveCalledElement_cases spiff resolver context calledElement s with
          ⟨e, hrun, -⟩ | ⟨call, -, -, ⟨e, hrun, -⟩ | ⟨d, q, hrun, -, -⟩⟩
        · rw [Prog.bind_run_error hrun]
        · rw [Prog.bind_run_error hrun]
        · rw [Prog.bind_run_ok hrun]
          rfl
      · rfl

/-- The calls of a process are followed one after the other. -/
theorem forEach_followCall_ends : ∀ rest : List (Option String),
    Prog.Ends (Loading.Inspecting spiff resolver context root p current rest)
      (Prog.forEach rest (followCall spiff resolver context current))
      (fun _ => Loading.Inspecting spiff resolver context root p current [])
      (fun _ => Loading.Stopped spiff resolver context root p)
  | [] => Prog.ends_pure () fun _ h => h
  | called :: rest => Prog.ends_bind (followCall_ends called) fun _ => forEach_followCall_ends rest

/-- A turn for an id that was not inspected begins. -/
theorem Loading.Sound.begin {processId : String} {pending : List String} {processParser : ProcessParser}
    (h : s.Sound spiff resolver context root p current []) (hpending : s.pending = processId :: pending)
    (hget : s.parser.getProcessParser processId = some processParser) :
    Loading.Inspecting spiff resolver context root p processId processParser.calledElementIds
      { s with pending := pending, inspected := processId :: s.inspected } := by
  have hmoved : ∀ x, x ∈ s.inspected ∨ x ∈ s.pending ↔ x ∈ processId :: s.inspected ∨ x ∈ pending := by
    intro x
    rw [hpending, List.mem_cons, List.mem_cons]
    tauto
  refine { h with covers_root := (hmoved root).1 h.covers_root, met := fun x hx => h.met x ((hmoved x).2 hx),
                  covers := ?_, inspected := List.mem_cons_self, calls := fun called hin => ⟨processParser, hget, hin⟩ }
  intro x hx processParser' hget' called hcalled
  rcases List.mem_cons.1 hx with rfl | hx
  · refine .inr ⟨rfl, ?_⟩
    have heq : processParser' = processParser := Option.some.inj (hget'.symm.trans hget)
    exact heq ▸ hcalled
  · rcases h.covers x hx processParser' hget' called hcalled with ⟨t, rfl, ht, hin⟩ | ⟨-, hnil⟩
    · exact .inl ⟨t, rfl, ht, (hmoved t).1 hin⟩
    · cases hnil

/-- A turn: the id was inspected before, or it is inspected now, or the loader
stops. -/
theorem inspect_cases {processId : String} {pending : List String}
    (h : s.Sound spiff resolver context root p current []) (hpending : s.pending = processId :: pending) :
    (processId ∈ s.inspected ∧ (inspect spiff resolver context processId).run { s with pending := pending } =
      (.ok (), { s with pending := pending }) ∧
        Loading.Sound spiff resolver context root p current [] { s with pending := pending }) ∨
    processId ∉ s.inspected ∧ ((∃ s', (inspect spiff resolver context processId).run { s with pending := pending } =
        (.ok (), s') ∧ s'.inspected = processId :: s.inspected ∧ s'.Sound spiff resolver context root p processId []) ∨
      ∃ e s', (inspect spiff resolver context processId).run { s with pending := pending } = (.error e, s') ∧
        s'.Stopped spiff resolver context root p) := by
  unfold inspect
  simp only [Prog.gets_bind_run]
  by_cases hin : processId ∈ s.inspected
  · refine .inl ⟨hin, by rw [if_pos hin]; rfl, ?_⟩
    have hmoved : ∀ x, x ∈ s.inspected ∨ x ∈ s.pending → x ∈ s.inspected ∨ x ∈ pending := by
      intro x hx
      rw [hpending, List.mem_cons] at hx
      rcases hx with hx | rfl | hx
      exacts [.inl hx, .inl hin, .inr hx]
    refine { h with covers_root := hmoved root h.covers_root, met := fun x hx => h.met x (hx.imp id ?_), covers := ?_ }
    · rw [hpending]
      exact List.mem_cons_of_mem _
    · intro x hx processParser hget called hcalled
      rcases h.covers x hx processParser hget called hcalled with ⟨t, rfl, ht, ht'⟩ | ⟨-, hnil⟩
      · exact .inl ⟨t, rfl, ht, hmoved t ht'⟩
      · cases hnil
  · refine .inr ⟨hin, ?_⟩
    rw [if_neg hin]
    simp only [Prog.modify_bind_run, Prog.gets_bind_run]
    have hloaded := (h.met processId (.inr (by rw [hpending]; exact List.mem_cons_self))).2
    obtain ⟨processParser, hget⟩ := Option.isSome_iff_exists.1 (BpmnParser.mem_getProcessIds.1 hloaded)
    rw [hget]
    dsimp only
    obtain ⟨hok, herror⟩ := forEach_followCall_ends processParser.calledElementIds _ (h.begin hpending hget)
    have hframe : Prog.Frame fun s s' : Loading Xml => s'.inspected = s.inspected :=
      ⟨fun _ => rfl, fun h₁ h₂ => h₂.trans h₁⟩
    have hkeeps := Prog.keeps_forEach hframe fun called (_ : called ∈ processParser.calledElementIds) =>
      followCall_inspected spiff resolver context processId called
    rcases hrun : (Prog.forEach processParser.calledElementIds (followCall spiff resolver context processId)).run
      { s with pending := pending, inspected := processId :: s.inspected } with ⟨e | u, s'⟩
    · exact .inr ⟨e, s', rfl, herror e s' hrun⟩
    · exact .inl ⟨s', rfl, hkeeps.of_ok hrun, (hok u s' hrun).toSound⟩

/-! ## The loop ends -/

variable (spiff resolver context root p) in
/-- With enough turns the loop ends, with everything inspected or at a fault. -/
def Loading.Settles (s : Loading Xml) : Prop :=
  ∃ fuel result s', (∀ more, inspectPending spiff resolver context (fuel + more) s = some (result, s')) ∧
    ((result = .ok () ∧ s'.pending = [] ∧ ∃ current, s'.Sound spiff resolver context root p current []) ∨
      ∃ e, result = .error e ∧ s'.Stopped spiff resolver context root p)

theorem Loading.settles_of_error {processId : String} {pending : List String} {e : Error} {s' : Loading Xml}
    (hpending : s.pending = processId :: pending)
    (hrun : (inspect spiff resolver context processId).run { s with pending := pending } = (.error e, s'))
    (hstopped : s'.Stopped spiff resolver context root p) : s.Settles spiff resolver context p root := by
  refine ⟨1, .error e, s', fun more => ?_, .inr ⟨e, rfl, hstopped⟩⟩
  rw [Nat.add_comm, inspectPending]
  simp only [hpending, hrun]

theorem Loading.settles_of_ok {processId : String} {pending : List String} {s' : Loading Xml}
    (hpending : s.pending = processId :: pending)
    (hrun : (inspect spiff resolver context processId).run { s with pending := pending } = (.ok (), s'))
    (h : s'.Settles spiff resolver context p root) : s.Settles spiff resolver context p root := by
  obtain ⟨fuel, result, s'', hfuel, hend⟩ := h
  refine ⟨fuel + 1, result, s'', fun more => ?_, hend⟩
  rw [Nat.add_right_comm, inspectPending]
  simp only [hpending, hrun]
  exact hfuel more

/-- The induction is on the ids not yet inspected, of which there are finitely
many, and for each number of them on the pending ids. -/
theorem Loading.Sound.settles (hfinite : (reachable spiff resolver context root p).Finite)
    (h : s.Sound spiff resolver context root p current []) : s.Settles spiff resolver context p root := by
  induction hn : (reachable spiff resolver context root p \ {x | x ∈ s.inspected}).ncard using Nat.strong_induction_on
    generalizing s current with
  | _ n ih =>
    induction hpending : s.pending generalizing s with
    | nil =>
      refine ⟨0, .ok (), s, fun more => ?_, .inl ⟨rfl, hpending, current, h⟩⟩
      rw [inspectPending]
      simp only [hpending]
    | cons processId pending ihp =>
      rcases inspect_cases h hpending with ⟨hin, hrun, hsound⟩ | ⟨hin, ⟨s', hrun, hinspected, hsound⟩ | ⟨e, s', hrun, hstop⟩⟩
      · exact settles_of_ok hpending hrun (ihp hsound hn rfl)
      · refine settles_of_ok hpending hrun (ih _ ?_ hsound rfl)
        have hreach : processId ∈ reachable spiff resolver context root p :=
          ⟨s.parser, h.grown, (h.met processId (.inr (by rw [hpending]; exact List.mem_cons_self))).1⟩
        rw [← hn, hinspected]
        refine Set.ncard_lt_ncard (Set.ssubset_iff_of_subset ?_ |>.2 ⟨processId, ⟨hreach, hin⟩, ?_⟩) (hfinite.subset Set.sdiff_subset)
        · rintro x ⟨hx, hnot⟩
          exact ⟨hx, fun hmem => hnot (List.mem_cons_of_mem _ hmem)⟩
        · rintro ⟨-, hnot⟩
          exact hnot List.mem_cons_self
      · exact settles_of_error hpending hrun hstop

/-- With nothing pending, whatever the root reaches was inspected. -/
theorem Loading.Sound.inspected_of_reaches (h : s.Sound spiff resolver context root p current [])
    (hpending : s.pending = []) {processId : String} (hreach : s.parser.Reaches root processId) :
    processId ∈ s.inspected := by
  induction hreach with
  | refl => exact h.covers_root.resolve_right (by simp [hpending])
  | @tail x y _ hcalls ih =>
    obtain ⟨processParser, hget, hmem⟩ := hcalls
    rcases h.covers x ih processParser hget _ hmem with ⟨t, ht, -, hin⟩ | ⟨-, hnil⟩
    · cases ht
      exact hin.resolve_right (by simp [hpending])
    · cases hnil

/-- With nothing pending there is no fault. -/
theorem Loading.Sound.not_fault (h : s.Sound spiff resolver context root p current []) (hpending : s.pending = []) :
    ¬ Fault spiff resolver context s.parser root := by
  rintro (⟨x, processParser, hreach, hget, called, hcalled, hblank⟩ | ⟨calledElement, ⟨x, hreach, ⟨processParser, hget, hcalled⟩, hlacks⟩, -⟩)
  · have hx := h.inspected_of_reaches hpending hreach
    rcases h.covers x hx processParser hget called hcalled with ⟨t, rfl, ht, -⟩ | ⟨-, hnil⟩
    · rcases hblank with hblank | ⟨t', ht', hblank⟩
      · cases hblank
      · cases ht'
        exact ht hblank
    · cases hnil
  · have hreach' := hreach.tail ⟨processParser, hget, hcalled⟩
    have hloaded := (h.met calledElement (.inl (h.inspected_of_reaches hpending hreach'))).2
    rw [BpmnParser.mem_getProcessIds, hlacks] at hloaded
    cases hloaded

/-- No more is reached than the sources name. -/
theorem reachable_subset {S : Set String} (hroot : root ∈ S)
    (hinitial : ∀ entry ∈ p.processes, ∀ calledElement, some calledElement ∈ entry.2.calledElementIds → calledElement ∈ S)
    (hadded : ∀ calledElement d entries, Resolves resolver context calledElement d → spiff.bpmn d.bpmnXml = .ok entries →
      ∀ entry ∈ entries, ∀ called, some called ∈ entry.2.calledElementIds → called ∈ S) :
    reachable spiff resolver context root p ⊆ S := by
  rintro processId ⟨q, hgrows, hreach⟩
  have hnamed : ∀ entry ∈ q.processes, ∀ called, some called ∈ entry.2.calledElementIds → called ∈ S := by
    clear hreach
    induction hgrows with
    | refl => exact hinitial
    | tail _ hgrow ih =>
      obtain ⟨calledElement, d, -, hres, hadd⟩ := hgrow
      obtain ⟨-, entries, hparse, hprocesses⟩ := addDefinition_ok hadd
      intro entry hentry
      rw [hprocesses] at hentry
      rcases List.mem_append.1 hentry with hentry | hentry
      · exact ih entry hentry
      · exact hadded calledElement d entries hres hparse entry hentry
  cases hreach with
  | refl => exact hroot
  | tail _ hcalls =>
    obtain ⟨entry, hentry, hmem⟩ := hcalls.named
    exact hnamed entry hentry _ hmem

/-- The root is the process that is asked for, or the only one there is. -/
def BpmnParser.IsRoot (p : BpmnParser Xml) (rootProcessId : Option String) (root : String) : Prop :=
  root ∈ p.getProcessIds ∧ (rootProcessId = some root ∨ rootProcessId = none ∧ p.getProcessIds = [root])

theorem Loading.sound_initial (hroot : root ∈ p.getProcessIds) :
    Loading.Sound spiff resolver context root p root [] { parser := p, pending := [root] } where
  once := List.nodup_nil
  lacked := by simp
  grown := .refl
  asked_loaded := by simp
  covers_root := .inr List.mem_cons_self
  met processId h := by
    obtain rfl : processId = root := by simpa using h
    exact ⟨.refl, hroot⟩
  covers := by simp

/-- When finitely many ids are reachable the loader ends. It asks the resolver
at most once for an element and only for one the parser lacks. If it returns,
all that the root reaches is in the parser, and it raises just when the parser
it leaves has a call that cannot be loaded. -/
theorem called_processes_loaded {rootProcessId : Option String} (hroot : p.IsRoot rootProcessId root)
    (hfinite : (reachable spiff resolver context root p).Finite) :
    ∃ fuel result s', (∀ more, loadCalledProcessDefinitions spiff resolver context (fuel + more) rootProcessId p =
        some (result, s')) ∧
      Relation.ReflTransGen (Gains spiff resolver context root) p s'.parser ∧ s'.AskedOnce ∧
      (result = .ok () → ∀ processId, s'.parser.Reaches root processId → processId ∈ s'.parser.getProcessIds) ∧
      ((∃ e, result = .error e) ↔ Fault spiff resolver context s'.parser root) := by
  obtain ⟨hmem, hchosen⟩ := hroot
  obtain ⟨fuel, result, s', hrun, hend⟩ := (Loading.sound_initial hmem).settles hfinite
  refine ⟨fuel, result, s', fun more => ?_, ?_⟩
  · rw [← hrun more]
    rcases hchosen with rfl | ⟨rfl, hids⟩
    · rfl
    · unfold loadCalledProcessDefinitions
      simp only [hids]
  · rcases hend with ⟨rfl, hpending, current, hsound⟩ | ⟨e, rfl, hstopped⟩
    · refine ⟨hsound.grown, hsound.toAskedOnce, fun _ processId hreach => ?_, ?_⟩
      · exact (hsound.met processId (.inl (hsound.inspected_of_reaches hpending hreach))).2
      · simpa using hsound.not_fault hpending
    · refine ⟨hstopped.grown, hstopped.toAskedOnce, by simp, ?_⟩
      simpa using hstopped.fault

end

end

namespace Sample

/-- A parser whose sources are the processes they hold. -/
def spiff : Spiff (List (String × ProcessParser)) where
  bpmn := .ok
  duplicate id := .other "ValidationException" s!"Duplicate process ID: {id}"
  dmn _ _ := none

/-- A parent that calls a child. -/
def parentParser : BpmnParser (List (String × ProcessParser)) where
  processes := [("parent", ⟨[some "child"]⟩)]

def callContext : CallActivityContext where
  tenantId := "acme"
  calledElement := ""
  parentProcessInstanceId := some 1
  parentProcessDefinitionId := some 1

/-- The child calls itself and its parent. -/
def resolveRecursive : CallActivityResolver (List (String × ProcessParser)) := fun _ =>
  .ok (.definition { processId := "child", bpmnXml := [("child", ⟨[some "child", some "parent"]⟩)] })

/-- A definition under the child's id whose source holds another process. -/
def resolveOther : CallActivityResolver (List (String × ProcessParser)) := fun _ =>
  .ok (.definition { processId := "child", bpmnXml := [("orphan", ⟨[]⟩)] })

theorem finite_of_definition {d : CallActivityDefinition (List (String × ProcessParser))}
    (hnamed : ∀ entry ∈ d.bpmnXml, ∀ calledElement, some calledElement ∈ entry.2.calledElementIds →
      calledElement ∈ ({"parent", "child"} : Set String)) :
    (reachable spiff (some fun _ => .ok (.definition d)) (some callContext) "parent" parentParser).Finite := by
  refine Set.Finite.subset (Set.toFinite {"parent", "child"}) (reachable_subset (by simp) (by simp [parentParser]) ?_)
  rintro calledElement d' entries ⟨resolve, request, hr, -, -, hres⟩ hparse
  cases hr
  rcases hres with hres | hres
  · cases hres
    cases hparse
    exact hnamed
  · cases hres

end Sample

theorem called_processes_loaded_recursive : ∃ fuel result s',
    loadCalledProcessDefinitions Sample.spiff (some Sample.resolveRecursive) (some Sample.callContext) fuel none
        Sample.parentParser = some (result, s') ∧ s'.AskedOnce ∧
      (result = .ok () → ∀ processId, s'.parser.Reaches "parent" processId → processId ∈ s'.parser.getProcessIds) := by
  have hfinite : (reachable Sample.spiff (some Sample.resolveRecursive) (some Sample.callContext) "parent"
      Sample.parentParser).Finite := Sample.finite_of_definition (by simp)
  obtain ⟨fuel, result, s', hrun, -, hasked, hloaded, -⟩ := called_processes_loaded
    (⟨by decide, .inr ⟨rfl, rfl⟩⟩ : Sample.parentParser.IsRoot none "parent") hfinite
  exact ⟨fuel, result, s', hrun 0, hasked, hloaded⟩

/-- The resolver returns one definition with the right id and the parser accepts
its source, but the process is not in it: the loader raises. -/
theorem resolved_source_lacks_process :
    (reachable Sample.spiff (some Sample.resolveOther) (some Sample.callContext) "parent" Sample.parentParser).Finite ∧
    ∃ e s', loadCalledProcessDefinitions Sample.spiff (some Sample.resolveOther) (some Sample.callContext) 2 none
        Sample.parentParser = some (.error e, s') ∧ ¬ s'.parser.BlankCall "parent" ∧
      ∀ calledElement, s'.parser.External "parent" calledElement →
        ¬ Unresolved (some Sample.resolveOther) (some Sample.callContext) calledElement ∧
        ∀ d, Resolves (some Sample.resolveOther) (some Sample.callContext) calledElement d →
          ¬ Rejected Sample.spiff s'.parser d := by
  have hcalled : ∀ processId processParser, Sample.parentParser.getProcessParser processId = some processParser →
      processParser.calledElementIds = [some "child"] := by
    intro processId processParser hget
    obtain ⟨entry, hfind, rfl⟩ := Option.map_eq_some_iff.1 hget
    obtain rfl : entry = ("parent", ⟨[some "child"]⟩) := by
      simpa [Sample.parentParser] using List.mem_of_find?_eq_some hfind
    rfl
  refine ⟨Sample.finite_of_definition (by simp), _, _, rfl, ?_, ?_⟩
  · rintro ⟨processId, processParser, -, hget, called, hin, hblank⟩
    rw [hcalled _ _ hget, List.mem_singleton] at hin
    subst hin
    rcases hblank with hblank | ⟨calledElement, heq, hblank⟩
    · cases hblank
    · cases heq
      exact absurd hblank (by decide)
  · rintro calledElement ⟨processId, -, ⟨processParser, hget, hin⟩, -⟩
    rw [hcalled _ _ hget, List.mem_singleton] at hin
    cases hin
    constructor
    · intro h
      cases h with
      | noResolver h | noContext h => cases h
      | raised hr _ h => cases hr; cases h
      | missing hr _ h | wrongType hr _ h => cases hr; rcases h with h | h <;> cases h
      | several hr _ h _ => cases hr; cases h
      | mismatch hr _ h hne =>
        cases hr
        rcases h with h | h
        · cases h
          exact hne rfl
        · cases h
    · rintro d ⟨resolve, request, hr, hc, -, hres⟩
      cases hr
      rcases hres with hres | hres
      · cases hres
        rintro (⟨e, h⟩ | ⟨p', xml, e, -, h, -⟩)
        · cases h
        · cases h
      · cases hres

end M8flowCore
