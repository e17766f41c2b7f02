/-
Passkey/Browser/Page.lean

The page of a ceremony, as the document shows it.

The settings say by which ids and classes the parts of the page are known.
They are looked up whenever they are needed, so a ceremony goes on with
whatever the document holds at that moment.
-/
import Passkey.Browser.Attribute

namespace Passkey.Browser

/-! ### Looking up -/

/-- The entry that marks what was claimed. -/
def claimEntry : String := "initialized"

/-- The value of the mark. -/
def claimMark : String := "true"

/-- Whether an element was claimed. -/
def Element.isClaimed (e : Element) : Bool :=
  e.data? claimEntry == some claimMark

/-- Claims an element; false if it was claimed before or cannot be marked. -/
def claim (e : Element) : StateM Browser Bool := do
  if e.isClaimed then return false
  else return (← change e.number (·.setData claimEntry claimMark)).isNone

/-- The button of a mode. -/
def buttonSetting : Mode → TextSetting
  | .registration => .registerButton
  | .authentication => .authenticateButton

/-- The button of a mode, if the document has it. -/
def Document.button? (d : Document) (config : Config) (mode : Mode) : Option Element :=
  (d.byId? (config.text (buttonSetting mode))).filter (·.isHtml)

/-- The trigger: the button of a registration before that of an authentication. -/
def Document.trigger? (d : Document) (config : Config) : Option (Mode × Element) :=
  [Mode.registration, Mode.authentication].findSome? fun mode =>
    (d.button? config mode).map fun e => (mode, e)

/-- The element that a setting names; the console is told if there is none. -/
def named? (config : Config) (setting : TextSetting) : StateM Browser (Option Element) := do
  let id := config.text setting
  let element := (← get).document.byId? id
  if element.isNone then
    log .document .debug "Element not found" [("id", id)]
  return element

/-! ### Showing and hiding -/

/-- Hides an element or shows it. -/
def setHidden (config : Config) (hidden : Bool) (n : Nat) : StateM Browser Unit := do
  let name := config.text .hiddenClass
  let operation (e : Element) := if hidden then e.addClass name else e.removeClass name
  if let some thrown ← change n operation then
    log .document .warn ("Failed to toggle visibility: " ++ thrown.display) []

/-- The selector of the error elements. -/
def errorSelector (config : Config) : String :=
  "." ++ config.text .errorClass

/-- Hides every error element. -/
def hideErrors (config : Config) : StateM Browser Unit := do
  match Selector.read? (errorSelector config) with
  | none => log .document .warn "Invalid error selector" [("selector", errorSelector config)]
  | some s =>
    let b ← get
    (b.document.select s).forM fun e => setHidden config true e.number

/-- Hides the instruction message or shows it. -/
def setMessageHidden (config : Config) (hidden : Bool) : StateM Browser Unit := do
  if let some e ← named? config .message then
    setHidden config hidden e.number

/-- Reveals the error element with an id; false if there is none. -/
def revealError (config : Config) (key : String) : StateM Browser Bool := do
  match (← get).document.byId? key with
  | none => return false
  | some e =>
    setHidden config false e.number
    return true

/-- Shows a text in the generic error area. -/
def showGenericError (config : Config) (text : String) : StateM Browser Unit := do
  if let some e ← named? config .errorMessage then
    modify fun b => { b with document := b.document.setText e.number text }
  match ← named? config .errorArea with
  | some e => setHidden config false e.number
  | none => log .document .warn ("No error area to show the message in " ++ text) []

/-! ### Trigger, options and address -/

/-- Disables the trigger and marks it busy, or the reverse. -/
def setBusy (config : Config) (busy : Bool) : StateM Browser Unit := do
  match (← get).document.trigger? config with
  | none => return
  | some (_, e) =>
    let disabling ← if busy then writeAttribute e.number "disabled" ""
      else change e.number (·.removeAttribute "disabled")
    let name := config.text .busyClass
    let marking ← change e.number fun e => if busy then e.addClass name else e.removeClass name
    if let some thrown := disabling.or marking then
      log .document .warn ("Failed to update trigger state: " ++ thrown.display) []

/-- The text of the options: what an input holds, or the text of another element. -/
def optionsText (config : Config) : StateM Browser (Option String) := do
  let element ← named? config .optionsInput
  let b ← get
  return element.map fun e => if e.isInput then e.value else b.document.textOf e

/-- Claims the trigger; false if there is none to claim. -/
def claimTrigger (config : Config) : StateM Browser Bool := do
  match (← get).document.trigger? config with
  | none => return false
  | some (_, e) => claim e

/-- The address of the page; empty if it cannot be read. -/
def location : StateM Browser String := do
  let b ← get
  return if b.lacks .readLocation then "" else b.surroundings.url

/-- Leaves the page. -/
def navigate (target : String) : StateM Browser Unit := do
  record (.navigate target)
  if (← get).lacks .writeLocation then
    let thrown := ScriptValue.exception "SyntaxError" "location.set"
    log .document .warn ("Navigation failed: " ++ thrown.display) [("target", target)]

/-- What a ceremony tells the console. -/
def note (notice : Notice) : StateM Browser Unit :=
  let log := log .ceremony
  match notice with
  | .noTrigger => log .debug "No WebAuthn trigger on this page" []
  | .claimedBefore mode => log .debug "WebAuthn trigger already initialized" [("mode", mode.name)]
  | .undecodable mode failure =>
    log .error ("Failed to decode WebAuthn options: " ++ failure.message) [("mode", mode.name)]
  | .ready mode => log .info "WebAuthn ceremony ready" [("mode", mode.name)]
  | .burst => log .warn "Keystroke burst detected, security key is probably in OTP mode" []
  | .inFlight => log .debug "Ceremony already in flight" []
  | .submitting location => log .debug "Submitting credential" [("location", location)]
  | .accepted target => log .info "Ceremony accepted, redirecting" [("target", target)]
  | .failed failure =>
    log .warn ("Ceremony failed: " ++ failure.message) [("key", failure.key)]

/-- The page of a ceremony with the given settings. -/
def page (config : Config) : Page Browser where
  trigger := return ((← get).document.trigger? config).map (·.1)
  claimTrigger := claimTrigger config
  optionsText := optionsText config
  clearErrors := do
    hideErrors config
    setMessageHidden config false
  hideMessages := do
    hideErrors config
    setMessageHidden config true
  revealError := revealError config
  showGenericError := showGenericError config
  setBusy := setBusy config
  location := location
  navigate := navigate
  note := note

end Passkey.Browser
