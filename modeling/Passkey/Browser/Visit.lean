/-
Passkey/Browser/Visit.lean

A visit to a page, step by step.

Everything that happens to a page from outside is a step: the program is
started, the visitor clicks and types, time passes, the platform and the
server answer, and other scripts change the document.  After a step the tasks
that it left are done.  Its answer lists the calls that could be observed and
the elements that look different from before.
-/
import Passkey.Browser.Loading

namespace Passkey.Browser

/-! ### Steps -/

/-- What a step is about. -/
inductive Target where
  | document
  /-- The element with a number, in the page or taken out. -/
  | number (n : Nat)
  /-- The first element of the page with an id. -/
  | id (s : String)
deriving DecidableEq, Repr

/-- A step of a visit. -/
inductive Step where
  /-- The program starts. -/
  | start
  /-- A script asks for the load hook. -/
  | refresh
  /-- An event happens, with a key if it is one of the keyboard. -/
  | event (target : Target) (type : String) (key : Option String) (detail : ScriptValue)
  /-- Keys are pressed. -/
  | keys (strokes : List Keystrokes.Keystroke)
  /-- Time passes. -/
  | advance (milliseconds : Float)
  /-- The platform answers. -/
  | answer (answer : PlatformAnswer)
  /-- The platform rejects. -/
  | reject (thrown : ScriptValue)
  /-- The server answers. -/
  | respond (response : Response)
  /-- A request comes to nothing. -/
  | breakRequest (fault : FetchFault)
  /-- A script writes an attribute. -/
  | setAttribute (target : Target) (args : List ScriptValue)
  /-- A script applies a style text. -/
  | applyStyle (target : Target) (style : String)
  /-- A script adds elements. -/
  | insert (target : Target) (trees : Forest)
  /-- A script takes an element out. -/
  | remove (target : Target)
  /-- The visitor fills an input. -/
  | fill (target : Target) (files : List String) (value : String)
  /-- A script sets a global object. -/
  | setGlobal (name : String) (value : ScriptValue)

/-- The result of a step. -/
inductive Result where
  /-- The step has no result. -/
  | nothing
  /-- There is no such element. -/
  | noElement
  /-- Whether anybody waited for the answer. -/
  | delivered (waiting : Bool)
  /-- Whether the browser is kept from what it would do by itself, and what the event carries
  in the end. -/
  | event (prevented : Bool) (detail : ScriptValue)
  /-- A call of a script came back. -/
  | returned
  /-- A call of a script threw. -/
  | threw (thrown : ScriptValue)

/-- Where a target is, if it exists. -/
def place? (b : Browser) (target : Target) : Option Place :=
  if b.surroundings.hasDocument then
    match target with
    | .document => some .document
    | .number n => (b.document.element? n).map fun e => .element e.number
    | .id s => (b.document.byId? s).map fun e => .element e.number
  else none

/-- Does something at a target. -/
def atTarget (target : Target) (action : Place → StateM Browser Result) : StateM Browser Result := do
  match (← get).place? target with
  | none => return .noElement
  | some place => action place

/-- Changes the document at an element; the document itself is left alone. -/
def edit (change : Nat → Document → Document) : Place → StateM Browser Result
  | .document => return .nothing
  | .element n => do
    modify fun b => { b with document := change n b.document }
    return .nothing

/-- Presses keys, each at its own time. -/
def press : List Keystrokes.Keystroke → StateM Browser Unit
  | [] => pure ()
  | k :: rest => do
    modify fun b => { b with clock := k.time }
    let _ ← dispatch .document "keydown" (some k.key) .undefined
    press rest

/-- Applies a style text at a place, if it is an element of the page's language. -/
def applyStyleAt (style : String) (place : Place) : StateM Browser Result := do
  match (place.element? (← get).document).filter (·.isHtml) with
  | none => return .noElement
  | some e =>
    applyStyle e.number style
    return .nothing

/-- Does what a step says. -/
def act : Step → StateM Browser Result
  | .start => do
    start
    return .nothing
  | .refresh => do
    refresh
    return .nothing
  | .event target type key detail =>
    atTarget target fun place => do
      let ev ← dispatch place type key detail
      return .event ev.prevented ev.detail
  | .keys strokes => do
    press strokes
    return .nothing
  | .advance milliseconds => do
    advance milliseconds
    return .nothing
  | .answer answer => return .delivered (← answerPlatform (.ok answer))
  | .reject thrown => return .delivered (← answerPlatform (.error thrown))
  | .respond response => return .delivered (← answerRequest response)
  | .breakRequest fault => return .delivered (← breakRequest fault)
  | .setAttribute target args =>
    atTarget target fun place =>
      return ((← callSetAttribute place args).map Result.threw).getD .returned
  | .applyStyle target style => atTarget target (applyStyleAt style)
  | .insert target trees =>
    atTarget target fun place => do
      let parent := match place with
        | .document => none
        | .element n => some n
      modify fun b => { b with document := b.document.insert parent trees }
      return .nothing
  | .remove target => atTarget target (edit fun n d => d.remove n)
  | .fill target files value =>
    atTarget target (edit fun n d => d.update n fun e => { e with files, value })
  | .setGlobal name value => do
    if name = Config.globalName then
      modify fun b => { b with overrides := value }
    return .nothing

/-! ### Answers -/

/-- Whether two tables hold the same entries. -/
def sameEntries (a b : List (String × String)) : Bool :=
  a.length == b.length && a.all fun (name, value) => b.lookup name == some value

/-- Whether two elements look the same, each by itself. -/
def Element.same (a b : Element) : Bool :=
  sameEntries a.attributes b.attributes && sameEntries a.style b.style &&
    a.ownText == b.ownText && a.value == b.value && a.checked == b.checked && a.files == b.files

/-- All elements in the order of their numbers. -/
def Document.inOrder (d : Document) : List Element :=
  d.elements.mergeSort fun a b => a.number ≤ b.number

/-- The elements that look different from before, or that are new. -/
def changedSince (before after : Document) : List Element :=
  after.inOrder.filter fun e => !(before.element? e.number).any e.same

/-- The answer to a step, with the calls made during it and the elements that look different behind
it. -/
structure Answer where
  result : Result
  calls : List Call
  changed : List Element

/-- Takes a step, at a new time if one is given. -/
def step (now : Option Float) (s : Step) (b : Browser) : Answer × Browser :=
  let before := { b with clock := now.getD b.clock, calls := [] }
  let (result, after) := (do
    let result ← act s
    settle
    return result).run before
  (⟨result, after.calls, changedSince before.document after.document⟩, after)

/-- Takes steps one after the other. -/
def visit : List (Option Float × Step) → Browser → List Answer
  | [], _ => []
  | (now, s) :: rest, b =>
    let (answer, b) := step now s b
    answer :: visit rest b

end Passkey.Browser
