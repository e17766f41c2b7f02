/-
Passkey/Ceremony/Rehearsal.lean

Ceremonies rehearsed on a page that only records what it is asked.

The page, the platform and the server are played by a script of steps: it
loads the page again, changes it, presses keys, starts runs, and answers the
questions that suspended runs have asked.  Ceremonies that were set up again
keep their old runs, so runs of several ceremonies may be suspended at once.

A step of a script gives its answer to the run that has waited longest.  What
happens on the page is an event, and there an answer names its run, so events
come in any order; a step is the event that it stands for.  An event moves at
most one run, and its answer lists the calls that were made.
-/
import Passkey.Ceremony

namespace Passkey.Rehearsal

/-! ### The page -/

/-- A call that the page, the platform or the server received. -/
inductive Call where
  | trigger
  | claimTrigger
  | optionsText
  | clearErrors
  | hideMessages
  | location
  | revealError (key : String) (found : Bool)
  | showGenericError (text : String)
  | setBusy (busy : Bool)
  | navigate (target : String)
  | create (options : CreationOptions)
  | get (options : RequestOptions)
  | submit (url : String) (credential : Credential)
deriving Repr

/-- The page of a rehearsal, and the calls of the current step.  Errors are declared by the ids of
their elements. -/
structure Scene where
  trigger : Option Mode
  initialized : Bool
  options : Option String
  declared : List String
  location : String
  calls : List Call
deriving Repr

/-- Adds a call. -/
def Scene.record (call : Call) : StateM Scene Unit :=
  modify fun s => { s with calls := s.calls ++ [call] }

/-- What a ceremony asks of the page is recorded and answered. -/
def scenePage : Page Scene where
  trigger := do
    Scene.record .trigger
    return (← get).trigger
  claimTrigger := do
    Scene.record .claimTrigger
    let claimed := (← get).initialized
    modify fun s => { s with initialized := true }
    return !claimed
  optionsText := do
    Scene.record .optionsText
    return (← get).options
  clearErrors := Scene.record .clearErrors
  hideMessages := Scene.record .hideMessages
  revealError key := do
    let found := (← get).declared.contains key
    Scene.record (.revealError key found)
    return found
  showGenericError text := Scene.record (.showGenericError text)
  setBusy busy := Scene.record (.setBusy busy)
  location := do
    Scene.record .location
    return (← get).location
  navigate target := Scene.record (.navigate target)
  note _ := pure ()

/-- A change of the page; what is absent stays.  The new trigger and the new options may be none. -/
structure Change where
  trigger : Option (Option Mode)
  initialized : Option Bool
  options : Option (Option String)
  declared : Option (List String)
  location : Option String
deriving Repr

/-- Applies a change. -/
def Change.apply (c : Change) (s : Scene) : Scene :=
  { s with
    trigger := c.trigger.getD s.trigger
    initialized := c.initialized.getD s.initialized
    options := c.options.getD s.options
    declared := c.declared.getD s.declared
    location := c.location.getD s.location }

/-! ### The script -/

/-- What the platform would answer in either mode. -/
structure Supply where
  attestation : Envelope Attestation
  assertion : Envelope Assertion
deriving Repr

/-- The credential that is supplied in a mode. -/
def Supply.credential (s : Supply) : Mode → Credential
  | .registration => .registration s.attestation
  | .authentication => .authentication s.assertion

/-- A step of the script. -/
inductive Step where
  /-- The page is loaded. -/
  | setup
  /-- The page changes. -/
  | page (change : Change)
  /-- Keys are pressed. -/
  | keys (strokes : List Keystrokes.Keystroke)
  /-- The current ceremony is started. -/
  | run
  /-- The platform answers the oldest question with a credential. -/
  | credential (supply : Supply)
  /-- The platform rejects the oldest question. -/
  | reject (rejection : Rejection)
  /-- The server answers the oldest submission with a body. -/
  | reply (body : String)
  /-- The oldest submission fails. -/
  | fail (failure : Failure)
  /-- An error is shown on the page. -/
  | displayError (key : String)
deriving Repr

/-- What happens on the page.  The answers of the platform and of the server
name the run to which they go, so that any run may be answered next. -/
inductive Event where
  /-- The page is loaded. -/
  | setup
  /-- The page changes. -/
  | page (change : Change)
  /-- Keys are pressed. -/
  | keys (strokes : List Keystrokes.Keystroke)
  /-- The current ceremony is started. -/
  | run
  /-- The platform answers the question of a run. -/
  | platform (run : Nat) (answer : Except Rejection Supply)
  /-- The server answers the submission of a run. -/
  | server (run : Nat) (answer : Except Failure Reply)
  /-- An error is shown on the page. -/
  | displayError (key : String)

/-- What a setup came to. -/
inductive SetupResult where
  | absent
  | skipped
  | failed (failure : Failure)
  | ready (mode : Mode)
deriving DecidableEq, Repr

/-- The result of a step. -/
inductive Result where
  /-- The step has no result. -/
  | nothing
  /-- What a setup came to. -/
  | setup (result : SetupResult)
  /-- The indices of the keystrokes that warned. -/
  | warned (indices : List Nat)
  /-- The number of a run. -/
  | run (number : Nat)
  /-- Whether anybody waited for the answer. -/
  | delivered (waiting : Bool)
  /-- There is no current ceremony. -/
  | noCeremony
deriving DecidableEq, Repr

/-- Where a run stands. -/
inductive Stage where
  /-- The platform was asked. -/
  | asking
  /-- The credential was posted to an address. -/
  | submitting (location : String)
  /-- The run has ended. -/
  | done (outcome : Ceremony.Outcome)
deriving DecidableEq, Repr

/-- A run of a ceremony, which is given by its number. -/
structure Run where
  ceremony : Nat
  stage : Stage
deriving DecidableEq, Repr

/-- The answer to a step: its result and its calls, the run that moved, the run that ended, and
whether a run of the current ceremony holds the trigger. -/
structure Answer where
  result : Result
  calls : List Call
  moved : Option Nat
  ended : Option (Nat × Ceremony.Outcome)
  inFlight : Option Bool
deriving Repr

/-! ### Rehearsing -/

/-- A rehearsal under way.  Ceremonies and runs are known by their numbers; one ceremony at most is
the current one. -/
structure State where
  scene : Scene
  ceremonies : List Ceremony
  current : Option Nat
  runs : List Run

/-- A rehearsal on a page, before its first step. -/
def State.initial (scene : Scene) : State :=
  ⟨scene, [], none, []⟩

namespace State

/-- The current ceremony and its number. -/
def current? (s : State) : Option (Nat × Ceremony) :=
  s.current.bind fun n => (s.ceremonies[n]?).map fun c => (n, c)

/-- A run and its ceremony. -/
def run? (s : State) (n : Nat) : Option (Run × Ceremony) :=
  (s.runs[n]?).bind fun r => (s.ceremonies[r.ceremony]?).map fun c => (r, c)

/-- Lets the page do something. -/
def act {α : Type} (s : State) (action : StateM Scene α) : α × State :=
  let (a, scene) := action.run s.scene
  (a, { s with scene })

/-- Puts a ceremony into its place. -/
def withCeremony (s : State) (n : Nat) (c : Ceremony) : State :=
  { s with ceremonies := s.ceremonies.set n c }

/-- Puts a run at another stage. -/
def withStage (s : State) (n : Nat) (r : Run) (stage : Stage) : State :=
  { s with runs := s.runs.set n { r with stage } }

/-- What a step came to, before it is reported: the state behind it, the run that moved, and the run
that ended. -/
structure Progress where
  state : State
  result : Result
  moved : Option Nat := none
  ended : Option (Nat × Ceremony.Outcome) := none

/-- Loads the page.  A ceremony that is ready becomes the current one, and a
setup that was skipped keeps the current one. -/
def setUp (s : State) : Progress :=
  match s.act (Ceremony.setUp scenePage) with
  | (.absent, s) => { state := { s with current := none }, result := .setup .absent }
  | (.skipped, s) => { state := s, result := .setup .skipped }
  | (.failed f, s) => { state := { s with current := none }, result := .setup (.failed f) }
  | (.ready c, s) =>
    { state := { s with ceremonies := s.ceremonies ++ [c], current := some s.ceremonies.length },
      result := .setup (.ready c.mode) }

/-- Presses keys one after the other; answers the indices of those that warned. -/
def pressKeys (c : Ceremony) : Nat → List Keystrokes.Keystroke → StateM Scene (List Nat × Ceremony)
  | _, [] => pure ([], c)
  | i, k :: rest => do
    let (warned, c) ← c.keydown scenePage k.key k.time
    let (indices, c) ← pressKeys c (i + 1) rest
    return (if warned then i :: indices else indices, c)

/-- The question that a run asks the platform. -/
def question : Options → Call
  | .registration o => .create o
  | .authentication o => .get o

/-- Starts a run of a ceremony. -/
def startRun (s : State) (n : Nat) (c : Ceremony) : Progress :=
  let number := s.runs.length
  match s.act (c.start scenePage) with
  | ((false, _), s) =>
    { state := { s with runs := s.runs ++ [⟨n, .done .ignored⟩] }, result := .run number,
      moved := some number, ended := some (number, .ignored) }
  | ((true, c), s) =>
    let s := (s.act (Scene.record (question c.options))).2
    { state := { s.withCeremony n c with runs := s.runs ++ [⟨n, .asking⟩] }, result := .run number,
      moved := some number }

/-- Ends a run. -/
def endRun (s : State) (n : Nat) (r : Run)
    (ending : StateM Scene (Ceremony.Outcome × Ceremony)) : Progress :=
  let ((outcome, c), s) := s.act ending
  { state := (s.withCeremony r.ceremony c).withStage n r (.done outcome),
    result := .delivered true, moved := some n, ended := some (n, outcome) }

/-- Nobody waited for an answer. -/
def unheard (s : State) : Progress :=
  { state := s, result := .delivered false }

/-- Answers the question of a run to the platform. -/
def answerPlatform (s : State) (n : Nat) (answer : Except Rejection Supply) : Progress :=
  match s.run? n with
  | some (r@⟨_, .asking⟩, c) =>
    match answer with
    | .error rejection => s.endRun n r (c.fail scenePage (.ofRejection rejection))
    | .ok supply =>
      let (location, s) := s.act (Ceremony.submission scenePage)
      let s := (s.act (Scene.record (.submit location (supply.credential c.mode)))).2
      { state := s.withStage n r (.submitting location), result := .delivered true,
        moved := some n }
  | _ => s.unheard

/-- Answers the submission of a run. -/
def answerServer (s : State) (n : Nat) (answer : Except Failure Reply) : Progress :=
  match s.run? n with
  | some (r@⟨_, .submitting location⟩, c) => s.endRun n r (c.conclude scenePage location answer)
  | _ => s.unheard

/-- What an event comes to. -/
def progress (s : State) : Event → Progress
  | .setup => s.setUp
  | .page change => { state := { s with scene := change.apply s.scene }, result := .nothing }
  | .keys strokes =>
    match s.current? with
    | none => { state := s, result := .noCeremony }
    | some (n, c) =>
      let ((indices, c), s) := s.act (pressKeys c 0 strokes)
      { state := s.withCeremony n c, result := .warned indices }
  | .run =>
    match s.current? with
    | none => { state := s, result := .noCeremony }
    | some (n, c) => s.startRun n c
  | .platform n answer => s.answerPlatform n answer
  | .server n answer => s.answerServer n answer
  | .displayError key =>
    match s.current? with
    | none => { state := s, result := .noCeremony }
    | some _ => { state := (s.act (scenePage.displayError key)).2, result := .nothing }

/-- Forgets the calls of earlier events. -/
def quiet (s : State) : State :=
  { s with scene := { s.scene with calls := [] } }

/-- Lets an event happen. -/
def occur (s : State) (e : Event) : Answer × State :=
  let p := s.quiet.progress e
  (⟨p.result, p.state.scene.calls, p.moved, p.ended,
    p.state.current?.map fun (_, c) => c.inFlight⟩, p.state)

/-- Lets events happen one after the other. -/
def events (s : State) : List Event → List Answer × State
  | [] => ([], s)
  | e :: rest =>
    let (answer, s) := s.occur e
    let (answers, s) := s.events rest
    (answer :: answers, s)

/-! ### Scripts -/

/-- The number of the oldest run that asks the platform; if none does, the
number of a run that is still to come. -/
def asker (s : State) : Nat :=
  s.runs.findIdx fun r => match r.stage with
    | .asking => true
    | _ => false

/-- The number of the oldest run that waits for the server; if none does, the
number of a run that is still to come. -/
def submitter (s : State) : Nat :=
  s.runs.findIdx fun r => match r.stage with
    | .submitting _ => true
    | _ => false

/-- The reply of a body; a body that says none is a failure of the transport. -/
def readBody (body : String) : Except Failure Reply :=
  (Reply.parse body).mapError fun f => .transport none (f.report body.toList)

/-- The event that a step stands for. -/
def event (s : State) : Step → Event
  | .setup => .setup
  | .page change => .page change
  | .keys strokes => .keys strokes
  | .run => .run
  | .credential supply => .platform s.asker (.ok supply)
  | .reject rejection => .platform s.asker (.error rejection)
  | .reply body => .server s.submitter (readBody body)
  | .fail failure => .server s.submitter (.error failure)
  | .displayError key => .displayError key

/-- Takes a step. -/
def step (s : State) (step : Step) : Answer × State :=
  s.occur (s.event step)

/-- Takes steps one after the other. -/
def steps (s : State) : List Step → List Answer × State
  | [] => ([], s)
  | t :: rest =>
    let (answer, s) := s.step t
    let (answers, s) := s.steps rest
    (answer :: answers, s)

end State

end Passkey.Rehearsal
