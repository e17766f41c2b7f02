/-
Passkey/Browser/Attribute.lean

Writing attributes.

All scripts write attributes through one function that elements share.  A
strict content security policy blocks the style attribute, so the page puts a
diversion in front of that function: a text for the style attribute becomes
assignments of style properties, and everything else goes through unchanged.
-/
import Passkey.Browser
import Passkey.Widget.InlineStyle

namespace Passkey.Browser

/-- Assigns the properties of a style text, one after the other. -/
def assignDeclarations (n : Nat) : List Widget.Declaration → StateM Browser Unit
  | [] => pure ()
  | d :: rest => do
    if let some thrown ← change n (·.setStyle d.property d.value) then
      log .widgets .warn ("Failed to apply style: " ++ thrown.display) [("property", d.property)]
    assignDeclarations n rest

/-- Applies a style text to an element. -/
def applyStyle (n : Nat) (style : String) : StateM Browser Unit :=
  assignDeclarations n (Widget.declarations style)

/-- The shared function itself. -/
def setAttributeDirectly (place : Place) (args : List ScriptValue) :
    StateM Browser (Option ScriptValue) :=
  match place with
  | .document => pure (some (.typeError "Illegal invocation"))
  | .element n => change n (·.setAttribute args)

/-- The style text that a call is about to write to an element, if it is one. -/
def divertedStyle? (place : Place) (args : List ScriptValue) : Option (Nat × String) :=
  match place, args with
  | .element n, name :: value :: _ =>
    if Widget.isStyleAttribute (name.text?.getD "") then value.text?.map fun s => (n, s) else none
  | _, _ => none

/-- Whether elements have the shared function. -/
def hasSetAttribute (b : Browser) : Bool :=
  !b.lacks .noElementClass && !b.lacks .noSetAttribute

/-- Calls the shared function as a script does; answers what was thrown, if anything. -/
def callSetAttribute (place : Place) (args : List ScriptValue) :
    StateM Browser (Option ScriptValue) := do
  let b ← get
  if !b.hasSetAttribute then
    return some (.typeError "not a function")
  else if b.diverted then
    match divertedStyle? place args with
    | some (n, style) =>
      applyStyle n style
      return none
    | none => setAttributeDirectly place args
  else setAttributeDirectly place args

/-- Writes an attribute of an element. -/
def writeAttribute (n : Nat) (name value : String) : StateM Browser (Option ScriptValue) :=
  callSetAttribute (.element n) [.text name, .text value]

/-- Puts the diversion in front of the shared function. -/
def divertStyle : StateM Browser Unit := do
  let b ← get
  let refusal : Option ScriptValue :=
    if b.lacks .noElementClass then some (.typeError "Reflect.get called on non-object")
    else if b.lacks .noSetAttribute then some .undefined
    else none
  match refusal with
  | some thrown =>
    log .loading .warn ("Inline style shim not installed: " ++ thrown.display) []
  | none =>
    set { b with diverted := true }
    log .widgets .debug "setAttribute style shim installed" []

end Passkey.Browser
