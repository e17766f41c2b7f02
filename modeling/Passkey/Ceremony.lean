/-
Passkey/Ceremony.lean

One ceremony per page view.

A ceremony is set up when the page is loaded: its trigger is claimed once and
the options are decoded.  Until it is started, keystrokes are watched for a
security key that types.  A run asks the platform for a credential, posts it
to the page's own address, and either follows the redirect of the reply or
shows the error and hands the trigger back.

A run is suspended twice, while the platform and while the server are asked,
and anything may happen on the page in between.  So it comes in three pieces,
each of which goes from one suspension to the next, and what a run has to
remember across a suspension is data.  The page is described by what a
ceremony asks of it, over an arbitrary state.
-/
import Passkey.Credential
import Passkey.Keystrokes
import Passkey.Reply
import Passkey.Url.Join

namespace Passkey

/-! ### The page -/

/-- What a ceremony tells the console. -/
inductive Notice where
  /-- The page offers no ceremony. -/
  | noTrigger
  /-- The trigger was claimed by an earlier load. -/
  | claimedBefore (mode : Mode)
  /-- The options cannot be used. -/
  | undecodable (mode : Mode) (failure : Failure)
  /-- The ceremony can be started. -/
  | ready (mode : Mode)
  /-- A security key is typing. -/
  | burst
  /-- The ceremony is running already. -/
  | inFlight
  /-- The credential goes to an address. -/
  | submitting (location : String)
  /-- The server accepted the credential. -/
  | accepted (target : String)
  /-- The run failed. -/
  | failed (failure : Failure)
deriving DecidableEq, Repr

/-- What a ceremony asks of a page with state `σ`.  Claiming the trigger is refused if it carries
the mark already.  Errors are hidden before the instruction message is shown (`clearErrors`) or
hidden (`hideMessages`); an error that has no element of its own cannot be revealed by its key, and
is spelled out in the generic area instead. -/
structure Page (σ : Type) where
  trigger : StateM σ (Option Mode)
  claimTrigger : StateM σ Bool
  optionsText : StateM σ (Option String)
  clearErrors : StateM σ Unit
  hideMessages : StateM σ Unit
  revealError : String → StateM σ Bool
  showGenericError : String → StateM σ Unit
  setBusy : Bool → StateM σ Unit
  location : StateM σ String
  navigate : String → StateM σ Unit
  note : Notice → StateM σ Unit

/-- Shows an error by its key: an element of that id wins, and the generic
area with the key as its text is the fallback. -/
def Page.displayError {σ : Type} (page : Page σ) (key : String) : StateM σ Unit := do
  page.hideMessages
  if !(← page.revealError key) then
    page.showGenericError key

/-! ### Setup -/

/-- A ceremony that can be started, with the options as they were decoded at setup, the watch for
security keys that type, and a flag that a run raises while it holds the trigger. -/
structure Ceremony where
  options : Options
  monitor : Keystrokes.Monitor
  inFlight : Bool

/-- The result of a setup. -/
inductive Setup where
  /-- The page offers no ceremony. -/
  | absent
  /-- The trigger was claimed by an earlier load. -/
  | skipped
  /-- The options cannot be used. -/
  | failed (failure : Failure)
  /-- The ceremony can be started. -/
  | ready (ceremony : Ceremony)

namespace Ceremony

/-- The options of a mode in a text that may be missing. -/
def decodeOptions (mode : Mode) : Option String → Except Failure Options
  | some text => Options.parse mode text
  | none => .error (.badOptions "options input not found")

/-- A ceremony that nobody has touched. -/
def fresh (options : Options) : Ceremony :=
  ⟨options, Keystrokes.Monitor.fresh, false⟩

/-- Sets up the ceremony that the page offers. -/
def setUp {σ : Type} (page : Page σ) : StateM σ Setup := do
  match ← page.trigger with
  | none =>
    page.note .noTrigger
    return .absent
  | some mode =>
    if ← page.claimTrigger then
      match decodeOptions mode (← page.optionsText) with
      | .error failure =>
        page.note (.undecodable mode failure)
        page.displayError failure.key
        return .failed failure
      | .ok options =>
        page.note (.ready mode)
        return .ready (fresh options)
    else
      page.note (.claimedBefore mode)
      return .skipped

variable {σ : Type} (page : Page σ) (c : Ceremony)

/-- The mode of the ceremony. -/
def mode : Mode := c.options.mode

/-- Records a keystroke; a burst is shown as an error and reported. -/
def keydown (key : String) (now : Float) : StateM σ (Bool × Ceremony) := do
  let (warned, monitor) := c.monitor.record key now
  if warned then
    page.note .burst
    page.displayError Failure.typing.key
  return (warned, { c with monitor })

/-! ### Runs -/

/-- The result of a run. -/
inductive Outcome where
  /-- The server accepted the credential; the page is being left. -/
  | redirected (target : String)
  /-- The run failed, and the trigger is usable again. -/
  | failed (failure : Failure)
  /-- Another run holds the trigger. -/
  | ignored
deriving DecidableEq, Repr

/-- The first piece of a run, up to the question to the platform.  It answers
whether the run goes on: while another one holds the trigger it does not. -/
def start : StateM σ (Bool × Ceremony) := do
  if c.inFlight then
    page.note .inFlight
    return (false, c)
  else
    page.clearErrors
    page.setBusy true
    return (true, { c with monitor := c.monitor.disable, inFlight := true })

/-- Ends a run that was accepted. -/
def accept (target : String) : StateM σ (Outcome × Ceremony) := do
  page.note (.accepted target)
  page.navigate target
  return (.redirected target, c)

/-- Ends a run that failed: shows the error and hands the trigger back. -/
def fail (failure : Failure) : StateM σ (Outcome × Ceremony) := do
  page.note (.failed failure)
  page.displayError failure.key
  page.setBusy false
  return (.failed failure, { c with inFlight := false })

/-- The second piece of a run that got a credential: the address to which it is posted. -/
def submission : StateM σ String := do
  let location ← page.location
  page.note (.submitting location)
  return location

/-- Where a reply leads, or the failure that it states.  The target is
resolved against the address to which the credential was posted. -/
def verdict (location : String) (reply : Reply) : Except Failure String :=
  match reply.target? with
  | some target => .ok (Url.resolve location target)
  | none => .error (.server (reply.error.getD ""))

theorem verdict_eq_ok_iff {location target : String} {reply : Reply} :
    verdict location reply = .ok target ↔
      ∃ t, reply.target? = some t ∧ target = Url.resolve location t := by
  rcases h : reply.target? with - | t
  · simp [verdict, h]
  · simp [verdict, h, eq_comm]

theorem verdict_eq_error_iff {location : String} {reply : Reply} {f : Failure} :
    verdict location reply = .error f ↔
      reply.target? = none ∧ f = .server (reply.error.getD "") := by
  rcases h : reply.target? with - | t
  · simp [verdict, h, eq_comm]
  · simp [verdict, h]

/-- The last piece of a run, from the answer of the server to its end. -/
def conclude (location : String) (answer : Except Failure Reply) :
    StateM σ (Outcome × Ceremony) :=
  match answer.bind (verdict location) with
  | .ok target => c.accept page target
  | .error failure => c.fail page failure

end Ceremony

end Passkey
