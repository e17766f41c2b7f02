/-
Passkey/Browser/Widgets.lean

The widgets of a page.

Every element that plays a part is bound once: it is claimed before its
listeners are attached, and what was claimed is passed over when the load hook
comes again.  What the listeners do is written here, too.
-/
import Passkey.Browser.Page
import Passkey.Widget.ErrorSwap
import Passkey.Widget.Password
import Passkey.Widget.Photo
import Passkey.Widget.Resend

namespace Passkey.Browser

open Widget

/-! ### Who plays a part -/

/-- The parts that elements play by a class. -/
inductive Role where
  | passwordToggle
  | copyButton
  | copyText
  | captchaAudio
  | photoDelete
  | photoField
deriving DecidableEq, Repr

/-- All parts, in the order in which they are bound. -/
def Role.all : List Role :=
  [passwordToggle, copyButton, copyText, captchaAudio, photoDelete, photoField]

/-- The class of a part. -/
def Role.className : Role → String
  | passwordToggle => "toggle-password-visibility"
  | copyButton => "copy-button"
  | copyText => "copy-text"
  | captchaAudio => "captcha-audio-button"
  | photoDelete => "photo-delete-icon"
  | photoField => "photo-field"

/-- Elements with a class. -/
def ofClass (name : String) : Selector := [[[.className name]]]

/-- Elements of the page's language that fit a selector. -/
def Document.selectHtml (d : Document) (s : Selector) : List Element :=
  (d.select s).filter (·.isHtml)

/-- What the listeners of a part hear, and what they do for an element. -/
def Role.listeners (n : Nat) : Role → List (String × Handler)
  | passwordToggle => [("click", .toggle n), ("keydown", .press n)]
  | copyButton => [("click", .copy)]
  | copyText => [("focus", .copy)]
  | captchaAudio => [("click", .play n)]
  | photoDelete => [("click", .deletePhoto)]
  | photoField => [("change", .previewPhoto)]

/-- Claims elements; answers the numbers of those that were not claimed before. -/
def claimAll : List Element → StateM Browser (List Nat)
  | [] => pure []
  | e :: rest => do
    let fresh ← claim e
    let others ← claimAll rest
    return if fresh then e.number :: others else others

/-- Attaches the listeners of a part to an element. -/
def bindElement (role : Role) (n : Nat) : StateM Browser Unit :=
  (role.listeners n).forM fun (event, handler) => listen (.element n) event handler

/-- Binds the elements that play a part and were not bound before. -/
def bindRole (role : Role) : StateM Browser Unit := do
  let b ← get
  let fresh ← claimAll (b.document.selectHtml (ofClass role.className))
  fresh.forM (bindElement role)

/-- The id of the resend button. -/
def resendButtonId : String := "resend-button"

/-- The id of the icon of the resend button. -/
def resendIconId : String := "resend-icon"

/-- Arms the timer of the resend button, once. -/
def bindResend : StateM Browser Unit := do
  match ((← get).document.byId? resendButtonId).filter (·.isHtml) with
  | none => return
  | some e =>
    if ← claim e then
      match resendDelay (e.data? "delay") with
      | none => return
      | some delay =>
        let icon := ((← get).document.byId? resendIconId).map (·.number)
        log .widgets .debug "Resend button armed" [("delay", toString delay)]
        let _ ← arm delay (.enableResend e.number icon)

/-- Binds all widgets. -/
def bindAll : StateM Browser Unit := do
  Role.all.forM bindRole
  bindResend

/-- Takes classes from an element and gives it others. -/
def swapClasses (n : Nat) (removed added : List String) :
    List (Nat × (Element → Except ScriptValue Element)) :=
  removed.map (fun name => (n, fun e => e.removeClass name)) ++
    added.map fun name => (n, fun e => e.addClass name)

/-! ### Password fields -/

/-- The fields that a toggle acts on. -/
def passwordFields : Selector :=
  [[[.tag "input", .attributeIs "type" "password"]], [[.tag "input", .attributeIs "type" "text"]]]

/-- The field beside an icon. -/
def Document.fieldBeside? (d : Document) (icon : Nat) : Option Element :=
  (d.parent? icon).bind fun e => d.selectBelow? e.number passwordFields

/-- Toggles the field beside an icon. -/
def togglePassword (icon : Nat) : StateM Browser Unit := do
  match (← get).document.fieldBeside? icon with
  | none => log .widgets .debug "Password toggle without a sibling input" []
  | some field =>
    let next := (Visibility.ofInputType ((field.attribute? "type").getD "")).toggled
    let written ← writeAttribute field.number "type" next.inputType
    let thrown ← match written with
      | some v => pure (some v)
      | none => changeAll (swapClasses icon next.removedClasses next.addedClasses)
    if let some v := thrown then
      log .widgets .warn ("Failed to toggle password visibility: " ++ v.display) []

/-! ### Copying -/

/-- The element at a place. -/
def Place.element? (d : Document) : Place → Option Element
  | .document => none
  | .element n => d.element? n

/-- Selects the input that an element names and leaves its text for the clipboard. -/
def copyFrom (target : Place) : StateM Browser Unit := do
  let d := (← get).document
  match (target.element? d).filter (·.isHtml) with
  | none => return
  | some e =>
    match e.data? "copy" with
    | none => log .widgets .debug "Copy widget without data-copy" []
    | some id =>
      match (d.byId? id).filter (·.isInput) with
      | none => log .widgets .warn "Copy target not found" [("input_id", id)]
      | some input =>
        record (.select input.number)
        spawn (.copy input.value)

/-- Writes a text to the clipboard; answers what was thrown, if anything. -/
def writeClipboard (text : String) : StateM Browser (Option ScriptValue) := do
  let kind := (← get).surroundings.clipboard
  match kind with
  | .missing | .null => return some (.text "navigator.clipboard is undefined")
  | .unreadable => return some .getterFailed
  | .noFunction => return some .undefined
  | .works | .throws | .noPromise | .rejects =>
    record (.writeClipboard text)
    return match kind with
      | .throws => some (.typeError "writeText")
      | .noPromise => some .undefined
      | .rejects => some (.exception "NotAllowedError" "writeText")
      | _ => none

/-- Copies the selection by a command. -/
def commandCopy : StateM Browser Unit := do
  let s := (← get).surroundings
  if s.hasCommands then record .copyCommand
  if !(s.hasCommands && s.copyCommand == .succeeds) then
    log .widgets .warn "Copy to clipboard failed" []

/-- Copies a text: to the clipboard, or by a command if that fails. -/
def copyText (text : String) : StateM Browser Unit := do
  if let some thrown ← writeClipboard text then
    log .widgets .debug
      ("Clipboard API unavailable, falling back to execCommand: " ++ thrown.display) []
    commandCopy

/-! ### Captcha -/

/-- Plays the sound that a button names. -/
def playCaptcha (button : Nat) : StateM Browser Unit := do
  let d := (← get).document
  match (d.element? button).bind (·.data? "audioId") with
  | none => return
  | some id =>
    match (d.byId? id).filter (·.isMedia) with
    | none => return
    | some audio =>
      record (.play audio.number)
      if audio.faults.contains .play then
        log .widgets .warn ("Captcha audio failed: " ++ (Element.broken .play).display)
          [("audio_id", id)]

/-! ### Resending -/

/-- Makes the resend button usable. -/
def enableResend (button : Nat) (icon : Option Nat) : StateM Browser Unit := do
  let onIcon := match icon with
    | none => []
    | some n => swapClasses n waitingIconClasses [readyIconClass]
  if let some thrown ← changeAll (swapClasses button ["disabled"] [] ++ onIcon) then
    log .widgets .warn ("Failed to enable resend button: " ++ thrown.display) []

/-! ### Photos -/

/-- Displays an element or not. -/
def setDisplayed (displayed : Bool) (e : Element) : StateM Browser Unit := do
  let operation (e : Element) :=
    if displayed then e.removeStyle "display" else e.setStyle "display" "none"
  if let some thrown ← change e.number operation then
    log .widgets .warn ("Failed to toggle photo element: " ++ thrown.display) []

/-- Changes inputs of a class. -/
def changeInputs (name : String) (operation : Element → Element) : StateM Browser Unit := do
  let b ← get
  (b.document.selectHtml (ofClass name)).forM fun e => do
    if e.isInput then
      let _ ← change e.number fun e => .ok (operation e)

/-- Displays elements of a class or not. -/
def setClassDisplayed (name : String) (displayed : Bool) : StateM Browser Unit := do
  let b ← get
  (b.document.selectHtml (ofClass name)).forM (setDisplayed displayed)

/-- Shows a state of the photo field. -/
def showPhoto (state : PhotoState) : StateM Browser Unit := do
  setClassDisplayed "photo-content" state.contentVisible
  setClassDisplayed "photo-placeholder" state.placeholderVisible
  if state.clearsField then
    changeInputs Role.photoField.className Element.emptied
  changeInputs "photo-delete-button" fun e => { e with checked := state.deleteChecked }

/-- The pictures inside the photo. -/
def photoPreviews : Selector := [[[.tag "img"], [.className "photo-content"]]]

/-- Lets the pictures inside the photo show an address. -/
def setPreviews (address : String) : StateM Browser Unit := do
  let b ← get
  (b.document.selectHtml photoPreviews).forM fun e => do
    if let some thrown ← writeAttribute e.number "src" address then
      log .widgets .warn ("Failed to set photo preview: " ++ thrown.display) []

/-- Shows the photo that was picked, if the target of the event holds one. -/
def previewPhoto (target : Place) : StateM Browser Unit := do
  let file := (target.element? (← get).document).bind (·.firstFile?)
  match file, PhotoState.afterChange file.isSome with
  | some name, some state =>
    record (.createObjectUrl name)
    if (← get).lacks .objectUrl then
      let thrown := ScriptValue.typeError "createObjectURL"
      log .widgets .warn ("Failed to read picked photo: " ++ thrown.display) []
    else
      setPreviews ("blob:" ++ name)
    showPhoto state
  | _, _ => log .widgets .debug "Photo field cleared" []

/-! ### Error pages -/

/-- The status of the response that an event is about, if it can be read and is a number. -/
def responseStatus? (detail : ScriptValue) : Option Float :=
  match (detail.get "xhr").bind (·.get "status") with
  | .ok v => v.number?
  | .error _ => none

/-- Lets an error page be swapped in: answers the detail of the event afterwards. -/
def swapErrors (detail : ScriptValue) : StateM Browser ScriptValue := do
  if !(responseStatus? detail).any forcesErrorSwap then return detail
  match detail.set "shouldSwap" (.bool true) with
  | .error thrown =>
    log .widgets .warn ("Failed to swap error response: " ++ thrown.display) []
    return detail
  | .ok swapped =>
    match swapped.set "isError" (.bool false) with
    | .error thrown =>
      log .widgets .warn ("Failed to swap error response: " ++ thrown.display) []
      return swapped
    | .ok settled => return settled

end Passkey.Browser
