import M8flowCore.Session
/-!
# Loading called processes

A process names the processes its call activities run. Before a workflow is
built, the definitions it may need are brought into the parser: the ones that
are missing are asked of the host's resolver, one call for each, and what they
call in turn is followed until nothing new turns up.

The BPMN parser is a map from process ids to process parsers. What it makes of
a source is a parameter, as are the resolver and the context it is given.
-/
open M8flowCore.Lib

namespace M8flowCore

/-- What the loader reads of a process: the `calledElement` of each of its call
activities, `none` where that is not a string. -/
structure ProcessParser where
  calledElementIds : List (Option String)
  deriving DecidableEq

/-- The parser: its processes in the order they were added, and the DMN sources
it holds. -/
structure BpmnParser (Xml : Type) where
  processes : List (String × ProcessParser) := []
  decisions : List Xml := []

/-- What the parser makes of sources: the processes of a BPMN source, the error
of a process id that is taken, and the error of a DMN source, if any. -/
structure Spiff (Xml : Type) where
  bpmn : Xml → Except Error (List (String × ProcessParser))
  duplicate : String → Error
  dmn : List Xml → Xml → Option Error

structure CallActivityContext where
  tenantId : TenantId
  calledElement : String
  parentProcessInstanceId : Option Nat
  parentProcessDefinitionId : Option Nat
  deriving DecidableEq

structure CallActivityDefinition (Xml : Type) where
  processId : String
  bpmnXml : Xml
  dmnXml : Option Xml := none

/-- What a resolver returns: nothing, one definition, a sequence (`none` for an
entry that is no definition), or something else. -/
inductive Resolution (Xml : Type) where
  | none
  | definition (d : CallActivityDefinition Xml)
  | sequence (ds : List (Option (CallActivityDefinition Xml)))
  | other

/-- The host's resolver. It is asked at most once for an element, so that what
it remembers between calls does not matter. -/
abbrev CallActivityResolver (Xml : Type) := CallActivityContext → Except Error (Resolution Xml)

section
variable {Xml : Type}

namespace BpmnParser
variable (p : BpmnParser Xml)

def getProcessIds : List String := p.processes.map (·.1)

def getProcessParser (processId : String) : Option ProcessParser := (p.processes.find? (·.1 == processId)).map (·.2)

end BpmnParser

variable (spiff : Spiff Xml)

/-- Add processes one after the other; an id that is taken raises. -/
def addProcesses : List (String × ProcessParser) → List (String × ProcessParser) → Except Error (List (String × ProcessParser))
  | known, [] => .ok known
  | known, entry :: entries =>
    if known.any (·.1 == entry.1) then .error (spiff.duplicate entry.1) else addProcesses (known ++ [entry]) entries

/-- `parser.add_bpmn_str`. Nobody reads the parser again after a raise, so what
it holds then is left as it was. -/
def addBpmnStr (p : BpmnParser Xml) (xml : Xml) : Except Error (BpmnParser Xml) :=
  match spiff.bpmn xml with
  | .error e => .error e
  | .ok entries =>
    match addProcesses spiff p.processes entries with
    | .error e => .error e
    | .ok processes => .ok { p with processes := processes }

/-- `parser.add_dmn_str`. -/
def addDmnStr (p : BpmnParser Xml) (xml : Xml) : Except Error (BpmnParser Xml) :=
  match spiff.dmn p.decisions xml with
  | some e => .error e
  | none => .ok { p with decisions := p.decisions ++ [xml] }

/-- The loader's state: the parser, the inspected ids, the pending ids with the
next one first, and the calls of the resolver, each with the process ids the
parser held. -/
structure Loading (Xml : Type) where
  parser : BpmnParser Xml
  inspected : List String := []
  pending : List String := []
  asked : List (CallActivityContext × List String) := []

/-! ## The loader -/

/-- The checks on the definitions a resolver returned. -/
def onlyDefinition (tenantId : TenantId) (calledElement : String) :
    List (Option (CallActivityDefinition Xml)) → Except Error (CallActivityDefinition Xml)
  | [] => .error (.callActivityResolution
      s!"No child process definition for calledElement {pyRepr calledElement} in tenant {pyRepr tenantId}")
  | [none] => .error (.callActivityResolution
      s!"Resolver returned an invalid definition for calledElement {pyRepr calledElement}")
  | [some d] =>
    if d.processId != calledElement then
      .error (.callActivityResolution
        s!"Resolved process id {pyRepr d.processId} does not match calledElement {pyRepr calledElement}")
    else .ok d
  | ds => .error (.callActivityResolution
      (s!"Ambiguous child process definition for calledElement {pyRepr calledElement} in tenant {pyRepr tenantId}: " ++
        s!"resolver returned {ds.length} definitions"))

/-- The definition in what a resolver returned or raised. -/
def resolvedDefinition (tenantId : TenantId) (calledElement : String) :
    Except Error (Resolution Xml) → Except Error (CallActivityDefinition Xml)
  | .error (.callActivityResolution message) => .error (.callActivityResolution message)
  | .error e => .error (.callActivityResolution
      s!"Resolver failed for calledElement {pyRepr calledElement} in tenant {pyRepr tenantId}: {e.message}")
  | .ok .none => .error (.callActivityResolution
      s!"No child process definition for calledElement {pyRepr calledElement} in tenant {pyRepr tenantId}")
  | .ok (.definition d) => onlyDefinition tenantId calledElement [some d]
  | .ok (.sequence ds) => onlyDefinition tenantId calledElement ds
  | .ok .other => .error (.callActivityResolution
      (s!"Resolver returned an invalid result for calledElement {pyRepr calledElement}; " ++
        "return one definition or a sequence"))

/-- An exception while a definition is added, as the loader raises it. -/
def invalidDefinition (calledElement : String) : Error → Error
  | .callActivityResolution message => .callActivityResolution message
  | e => .callActivityResolution s!"Resolved definition for calledElement {pyRepr calledElement} is invalid: {e.message}"

/-- Add a resolved definition to the parser. -/
def addDefinition (calledElement : String) (d : CallActivityDefinition Xml) (p : BpmnParser Xml) :
    Except Error (BpmnParser Xml) :=
  match addBpmnStr spiff p d.bpmnXml with
  | .error e => .error (invalidDefinition calledElement e)
  | .ok p' =>
    if d.processId ∉ p'.getProcessIds then
      .error (.callActivityResolution s!"Resolved BPMN does not contain executable process {pyRepr d.processId}")
    else
      match d.dmnXml with
      | none => .ok p'
      | some xml =>
        match addDmnStr spiff p' xml with
        | .error e => .error (invalidDefinition calledElement e)
        | .ok p'' => .ok p''

variable (resolver : Option (CallActivityResolver Xml)) (context : Option CallActivityContext)

/-- The body of the loop for an element the parser lacks. -/
def resolveCalledElement (calledElement : String) : Prog (Loading Xml) Error Unit :=
  match resolver, context with
  | none, _ => .raise (.callActivityResolution
      s!"Call activity references {pyRepr calledElement}, but no call_activity_resolver was supplied")
  | some _, none => .raise (.validation "Call-activity resolver requires tenant and parent context")
  | some resolve, some context => do
    let request := { context with calledElement := calledElement }
    Prog.modify fun s => { s with asked := s.asked ++ [(request, s.parser.getProcessIds)] }
    match resolvedDefinition context.tenantId calledElement (resolve request) with
    | .error e => .raise e
    | .ok d =>
      let p ← Prog.gets Loading.parser
      match addDefinition spiff calledElement d p with
      | .error e => .raise e
      | .ok p' => Prog.modify fun s => { s with parser := p' }

/-- The body of the loop over the call activities of a process. -/
def followCall (processId : String) : Option String → Prog (Loading Xml) Error Unit
  | none => .raise (.callActivityResolution s!"Call activity in process {pyRepr processId} has no calledElement")
  | some calledElement =>
    if strip calledElement == "" then
      .raise (.callActivityResolution s!"Call activity in process {pyRepr processId} has no calledElement")
    else do
      let p ← Prog.gets Loading.parser
      if (p.getProcessParser calledElement).isNone then resolveCalledElement spiff resolver context calledElement
      Prog.modify fun s => { s with pending := calledElement :: s.pending }

/-- Inspect a process id that was taken from the pending ones. -/
def inspect (processId : String) : Prog (Loading Xml) Error Unit := do
  let inspected ← Prog.gets Loading.inspected
  if processId ∈ inspected then pure ()
  else do
    Prog.modify fun s => { s with inspected := processId :: s.inspected }
    let p ← Prog.gets Loading.parser
    match p.getProcessParser processId with
    | none => .raise (.callActivityResolution
        s!"Called process {pyRepr processId} was not found in the resolved BPMN")
    | some processParser => Prog.forEach processParser.calledElementIds (followCall spiff resolver context processId)

/-- The loop over the pending ids, for at most `fuel` turns; `none` when they do
not suffice. -/
def inspectPending : Nat → Loading Xml → Option (Except Error Unit × Loading Xml)
  | fuel, s =>
    match s.pending with
    | [] => some (.ok (), s)
    | processId :: pending =>
      match fuel with
      | 0 => none
      | fuel + 1 =>
        match (inspect spiff resolver context processId).run { s with pending := pending } with
        | (.error e, s') => some (.error e, s')
        | (.ok (), s') => inspectPending fuel s'

/-- `_load_called_process_definitions`. -/
def loadCalledProcessDefinitions (fuel : Nat) (rootProcessId : Option String) (p : BpmnParser Xml) :
    Option (Except Error Unit × Loading Xml) :=
  match rootProcessId, p.getProcessIds with
  | some root, _ => inspectPending spiff resolver context fuel { parser := p, pending := [root] }
  | none, [root] => inspectPending spiff resolver context fuel { parser := p, pending := [root] }
  | none, _ => some (.error (.validation
      "A BPMN process id must be supplied when the file contains multiple executable processes"), { parser := p })

end
end M8flowCore
