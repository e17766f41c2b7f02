/-
Passkey/Browser.lean

A browser that shows one page.

The browser holds the document and everything that happens around it:
listeners, timers, ceremonies and their runs, and the calls that can be
observed from outside.  Nothing happens by itself.  A run that was started by
a click is a task; tasks take their turn when the current action is over, and
a run that waits for the platform or the server stays at its stage until
somebody answers.
-/
import Passkey.Browser.Console
import Passkey.Browser.Document
import Passkey.Ceremony

namespace Passkey

namespace Browser

/-! ### What the page finds -/

/-- Something that fails on the whole page. -/
inductive PageFault where
  /-- The class of elements is unknown to scripts. -/
  | noElementClass
  /-- Elements have no function that sets attributes. -/
  | noSetAttribute
  /-- The platform refuses every call. -/
  | credentials
  /-- Requests cannot be aborted. -/
  | abortController
  /-- Requests cannot be built. -/
  | request
  /-- The address cannot be read. -/
  | readLocation
  /-- The page cannot be left. -/
  | writeLocation
  /-- Files have no address. -/
  | objectUrl
deriving DecidableEq, Repr

/-- What the clipboard of the page is. -/
inductive Clipboard where
  | works
  | missing
  | null
  | unreadable
  /-- It has no function that writes. -/
  | noFunction
  | throws
  /-- Its function answers nothing. -/
  | noPromise
  | rejects
deriving DecidableEq, Repr

/-- How a command to copy ends. -/
inductive CopyCommand where
  | succeeds
  | fails
  | throws
deriving DecidableEq, Repr

/-- What does not change while the page is shown: the address, the log filter that the build gives,
whether there is a window with a document and whether that is still being loaded and knows commands,
what fails, the clipboard, and how a command to copy ends. -/
structure Surroundings where
  url : String
  builtFilter : Option String := none
  hasWindow : Bool
  hasDocument : Bool
  isLoading : Bool
  hasCommands : Bool
  faults : List PageFault
  clipboard : Clipboard
  copyCommand : CopyCommand
deriving Repr

/-! ### What goes on -/

/-- Where listeners are attached and events arrive. -/
inductive Place where
  | document
  | element (number : Nat)
deriving DecidableEq, Repr

/-- What a listener does. -/
inductive Handler where
  /-- Runs the load hook. -/
  | load (config : Config)
  /-- Runs the load hook, the first time only. -/
  | firstLoad (config : Config)
  /-- Lets error pages be swapped in. -/
  | swapErrors
  /-- Feeds a key to the monitor of a ceremony. -/
  | watch (ceremony : Nat)
  /-- Starts a run of a ceremony. -/
  | activate (ceremony : Nat)
  /-- Toggles the password field beside an icon. -/
  | toggle (icon : Nat)
  /-- Toggles the password field beside an icon if the key is one that does. -/
  | press (icon : Nat)
  /-- Copies the text that the target of the event names. -/
  | copy
  /-- Plays what a button names. -/
  | play (button : Nat)
  /-- Marks the photo as deleted. -/
  | deletePhoto
  /-- Shows the photo that was picked. -/
  | previewPhoto

/-- A listener: where it is attached, the type of the events that it hears, and what it does. -/
structure Listener where
  place : Place
  event : String
  handler : Handler

/-- Whether a listener belongs to a ceremony. -/
def Listener.serves (l : Listener) (ceremony : Nat) : Bool :=
  match l.handler with
  | .watch c => c == ceremony
  | .activate c => c == ceremony
  | _ => false

/-- Why a request came to nothing. -/
inductive FetchFault where
  /-- An error with a name. -/
  | named (name : String) (message : String)
  /-- Anything else. -/
  | other (message : String)
deriving DecidableEq, Repr

/-- What came back from the server; the body may turn out to be unreadable. -/
structure Response where
  status : Nat
  body : Except FetchFault String

/-- Where a run stands. -/
inductive Stage where
  /-- It has not begun. -/
  | spawned
  /-- The platform was asked. -/
  | asking
  /-- The credential was posted to an address, and a timer will abort the request. -/
  | submitting (location : String) (timer : Nat)
  /-- The server has answered, and the body is being read. -/
  | reading (location : String) (response : Response)
  /-- It has ended. -/
  | done (outcome : Ceremony.Outcome)

/-- A run of a ceremony, which is given by its number.  The lines of a named run name it on the
console. -/
structure Run where
  ceremony : Nat
  named : Bool
  stage : Stage

/-- What happens when a timer is due. -/
inductive Alarm where
  /-- The request of a run is aborted. -/
  | abort (run : Nat)
  /-- The resend button becomes usable. -/
  | enableResend (button : Nat) (icon : Option Nat)
deriving DecidableEq, Repr

/-- A timer that is armed, numbered in the order of creation. -/
structure Timer where
  number : Nat
  due : Float
  alarm : Alarm
deriving Repr

/-- What waits for its turn. -/
inductive Task where
  /-- A run that has not begun. -/
  | run (number : Nat)
  /-- A text for the clipboard. -/
  | copy (text : String)
deriving DecidableEq, Repr

/-- A ceremony that the page offered, with the settings of that time. -/
structure Offer where
  ceremony : Ceremony
  config : Config

/-- A call that can be observed from outside. -/
inductive Call where
  /-- A line of the console. -/
  | console (level : Level) (line : String)
  /-- A question to the platform. -/
  | credentials (mode : Mode) (options : ScriptValue)
  /-- A request. -/
  | fetch (url : String) (body : String)
  /-- A request is aborted. -/
  | abort
  /-- A timer is armed. -/
  | setTimeout (milliseconds : Nat)
  /-- The page is left. -/
  | navigate (target : String)
  /-- The text of an input is selected. -/
  | select (number : Nat)
  /-- A sound is played. -/
  | play (number : Nat)
  /-- A text is written to the clipboard. -/
  | writeClipboard (text : String)
  /-- The selection is copied by a command. -/
  | copyCommand
  /-- A file gets an address. -/
  | createObjectUrl (file : String)

end Browser

/-- A browser with its page.  Ceremonies, runs and timers are known by their numbers: `offers` holds
every ceremony that was ever ready and `runs` every run, and the listeners of one ceremony are
attached at most, that of the `session`.  The console has a filter once that is installed, and its
lines are part of a `span` while a run goes on.  `calls` are those of the current step. -/
structure Browser where
  surroundings : Browser.Surroundings
  document : Browser.Document
  clock : Float
  overrides : Browser.ScriptValue
  diverted : Bool
  filter : Option Browser.Filter
  span : Option Mode
  listeners : List Browser.Listener
  session : Option Nat
  offers : List Browser.Offer
  runs : List Browser.Run
  timers : List Browser.Timer
  nextTimer : Nat
  tasks : List Browser.Task
  calls : List Browser.Call

namespace Browser

/-- A browser that has just got its page. -/
def fresh (surroundings : Surroundings) (trees : Forest) (overrides : ScriptValue)
    (clock : Float) : Browser where
  surroundings
  document := .ofTrees trees
  clock
  overrides
  diverted := false
  filter := none
  span := none
  listeners := []
  session := none
  offers := []
  runs := []
  timers := []
  nextTimer := 0
  tasks := []
  calls := []

/-! ### Small actions -/

/-- Adds a call. -/
def record (call : Call) : StateM Browser Unit :=
  modify fun b => { b with calls := b.calls ++ [call] }

/-- What a run is called on the console. -/
def spanText (mode : Mode) : String :=
  "run\x7bmode=" ++ mode.name ++ "\x7d"

/-- Whether lines of a level from a source are shown. -/
def shows (b : Browser) (source : Source) (level : Level) : Bool :=
  b.filter.any (·.allows source level)

/-- Writes a line if the filter allows it. -/
def log (source : Source) (level : Level) (message : String)
    (details : List (String × String)) : StateM Browser Unit :=
  modify fun b =>
    if b.shows source level then
      let line := Entry.line ⟨level, source, message, details⟩ (b.span.map spanText)
      { b with calls := b.calls ++ [.console level line] }
    else b

/-- Whether something fails on the whole page. -/
def lacks (b : Browser) (fault : PageFault) : Bool :=
  b.surroundings.faults.contains fault

/-- Does something to an element; answers what was thrown, if anything. -/
def change (n : Nat) (operation : Element → Except ScriptValue Element) :
    StateM Browser (Option ScriptValue) := fun b =>
  match b.document.element? n with
  | none => (none, b)
  | some e =>
    match operation e with
    | .error v => (some v, b)
    | .ok e => (none, { b with document := b.document.put e })

/-- Does several things to elements until one throws. -/
def changeAll : List (Nat × (Element → Except ScriptValue Element)) →
    StateM Browser (Option ScriptValue)
  | [] => pure none
  | (n, operation) :: rest => do
    match ← change n operation with
    | some v => pure (some v)
    | none => changeAll rest

/-- Attaches a listener. -/
def listen (place : Place) (event : String) (handler : Handler) : StateM Browser Unit :=
  modify fun b => { b with listeners := b.listeners ++ [⟨place, event, handler⟩] }

/-- A delay as a timer takes it: a number of 32 bits with a sign, of which the negative half
counts as nothing. -/
def timerDelay (milliseconds : Nat) : Nat :=
  if milliseconds < 0x80000000 then milliseconds else 0

/-- Arms a timer and answers its number. -/
def arm (milliseconds : Nat) (alarm : Alarm) : StateM Browser Nat := do
  let delay := timerDelay milliseconds
  record (.setTimeout delay)
  modifyGet fun b =>
    (b.nextTimer,
      { b with
        timers := b.timers ++ [⟨b.nextTimer, b.clock + Float.ofNat delay, alarm⟩]
        nextTimer := b.nextTimer + 1 })

/-- Disarms a timer. -/
def disarm (number : Nat) : StateM Browser Unit :=
  modify fun b => { b with timers := b.timers.filter (·.number ≠ number) }

/-- Leaves something for when the current action is over. -/
def spawn (task : Task) : StateM Browser Unit :=
  modify fun b => { b with tasks := b.tasks ++ [task] }

end Browser

end Passkey
