/-
Passkey/Browser/Runs.lean

Runs of ceremonies in a browser.

A run goes through stages: it is spawned by a click, asks the platform, posts
the credential and reads the reply.  It waits at every stage but the first
and the last for somebody to answer; the oldest run at a stage is answered
first.  What the run and the ceremony were is kept by number, so that a run
goes on with its own ceremony when another one has taken its place.
-/
import Passkey.Browser.Page
import Passkey.Browser.Platform
import Passkey.Browser.Submission

namespace Passkey.Browser

/-! ### Runs and their ceremonies -/

/-- The run with a number and the ceremony that it belongs to. -/
def run? (b : Browser) (n : Nat) : Option (Run × Offer) :=
  (b.runs[n]?).bind fun r => (b.offers[r.ceremony]?).map fun o => (r, o)

/-- Puts a run at another stage. -/
def setStage (n : Nat) (stage : Stage) : StateM Browser Unit :=
  modify fun b => { b with runs := b.runs.modify n fun r => { r with stage } }

/-- Puts a ceremony into its place. -/
def setCeremony (n : Nat) (c : Ceremony) : StateM Browser Unit :=
  modify fun b => { b with offers := b.offers.modify n fun o => { o with ceremony := c } }

/-- The oldest run at a stage. -/
def oldest? {α : Type} (b : Browser) (stage : Stage → Option α) : Option (Nat × Run × Offer × α) :=
  (List.range b.runs.length).findSome? fun n =>
    match b.run? n with
    | none => none
    | some (r, o) => (stage r.stage).map fun a => (n, r, o, a)

/-- Does something on behalf of a run, whose lines on the console may name it. -/
def within {α : Type} (named : Bool) (mode : Mode) (action : StateM Browser α) :
    StateM Browser α := do
  modify fun b => { b with span := if named then some mode else none }
  let a ← action
  modify fun b => { b with span := none }
  return a

/-! ### Ending -/

/-- Ends a run in one of the ways that a ceremony knows. -/
def endRun (n : Nat) (r : Run) (ending : StateM Browser (Ceremony.Outcome × Ceremony)) :
    StateM Browser Unit := do
  let (outcome, c) ← ending
  setCeremony r.ceremony c
  setStage n (.done outcome)

/-- Ends a run that failed. -/
def failRun (n : Nat) (r : Run) (o : Offer) (failure : Failure) : StateM Browser Unit :=
  endRun n r (o.ceremony.fail (page o.config) failure)

/-! ### The platform -/

/-- What the platform is called to do in a mode. -/
def operationName : Mode → String
  | .registration => "create"
  | .authentication => "get"

/-- Asks the platform for a credential. -/
def askPlatform (n : Nat) (r : Run) (o : Offer) : StateM Browser Unit := do
  let mode := o.ceremony.mode
  match question o.ceremony.options with
  | .error rejection => failRun n r o (.ofRejection rejection)
  | .ok options =>
    log .platform .debug ("Calling navigator.credentials." ++ operationName mode) []
    record (.credentials mode options)
    if (← get).lacks .credentials then
      failRun n r o (.ofRejection (readRejection (.typeError "credentials")))
    else
      setStage n .asking

/-- Begins a run that was spawned. -/
def beginRun (n : Nat) : StateM Browser Unit := do
  let b ← get
  match b.run? n with
  | none => return
  | some (r, o) =>
    let mode := o.ceremony.mode
    let named := b.shows .ceremony .info
    modify fun b => { b with runs := b.runs.modify n fun r => { r with named } }
    within named mode do
      let (goesOn, c) ← o.ceremony.start (page o.config)
      setCeremony r.ceremony c
      if goesOn then
        askPlatform n { r with named } { o with ceremony := c }
      else
        setStage n (.done .ignored)

/-- A run that asks the platform. -/
def asking? : Stage → Option Unit
  | .asking => some ()
  | _ => none

/-- Posts the credential of a run. -/
def submit (n : Nat) (r : Run) (o : Offer) (credential : Credential) : StateM Browser Unit := do
  let location ← Ceremony.submission (page o.config)
  match ← post n o.config.requestTimeout location credential.body with
  | .error failure => failRun n r o failure
  | .ok timer => setStage n (.submitting location timer)

/-- Answers the oldest question to the platform; false if nobody asked. -/
def answerPlatform (answer : Except ScriptValue PlatformAnswer) : StateM Browser Bool := do
  match (← get).oldest? asking? with
  | none => return false
  | some (n, r, o, _) =>
    let mode := o.ceremony.mode
    within r.named mode do
      match (answer.mapError readRejection).bind (readAnswer mode) with
      | .error rejection => failRun n r o (.ofRejection rejection)
      | .ok credential => submit n r o credential
    return true

/-! ### The server -/

/-- A run that waits for the server. -/
def submitting? : Stage → Option (String × Nat)
  | .submitting location timer => some (location, timer)
  | _ => none

/-- A run whose response has come. -/
def reading? : Stage → Option (String × Response)
  | .reading location response => some (location, response)
  | _ => none

/-- Ends a run whose request came to nothing. -/
def failRequest (n : Nat) (r : Run) (o : Offer) (timer : Nat) (fault : FetchFault) :
    StateM Browser Unit := do
  disarm timer
  within r.named o.ceremony.mode (failRun n r o fault.failure)

/-- Hands a response to the oldest run that waits for one; false if nobody waits.  The
request is over then, and so is its timer. -/
def receive (response : Response) : StateM Browser Bool := do
  match (← get).oldest? submitting? with
  | none => return false
  | some (n, _, _, location, timer) =>
    disarm timer
    setStage n (.reading location response)
    return true

/-- Lets the oldest run whose response has come read it and end. -/
def finishReading : StateM Browser Unit := do
  match (← get).oldest? reading? with
  | none => return
  | some (n, r, o, location, response) =>
    within r.named o.ceremony.mode do
      let answer ← readReply response
      endRun n r (o.ceremony.conclude (page o.config) location answer)

/-- Answers the oldest request; false if there is none. -/
def answerRequest (response : Response) : StateM Browser Bool := do
  let heard ← receive response
  finishReading
  return heard

/-- Lets the oldest request come to nothing; false if there is none. -/
def breakRequest (fault : FetchFault) : StateM Browser Bool := do
  match (← get).oldest? submitting? with
  | none => return false
  | some (n, r, o, _, timer) =>
    failRequest n r o timer fault
    return true

/-- Aborts the request of a run. -/
def abortRequest (n : Nat) : StateM Browser Unit := do
  record .abort
  match (← get).run? n with
  | some (r, o) =>
    match submitting? r.stage with
    | some (_, timer) => failRequest n r o timer aborted
    | none => return
  | none => return

end Passkey.Browser
