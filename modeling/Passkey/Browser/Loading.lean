/-
Passkey/Browser/Loading.lean

Loading the page, and what listeners do.

The load hook runs when the document is there and whenever a fragment was
swapped in.  It offers the ceremony of the page and binds the widgets.  At
most one ceremony has its listeners attached: a new one takes the place of the
old one, and a page without a usable trigger ends it.
-/
import Passkey.Browser.Runs
import Passkey.Browser.Widgets

namespace Passkey.Browser

/-! ### Settings -/

/-- The text of a setting: a text, or a number in digits. -/
def settingText? (v : ScriptValue) : Option String :=
  match v with
  | .text s => some s
  | .number x => some (Decimal.Layout.plain.text x)
  | _ => none

/-- The overrides in a global object. -/
def readOverrides (v : ScriptValue) : Overrides :=
  let read (name : String) : Option String :=
    match v.get name with
    | .ok w => (settingText? w).bind Text.nonBlank?
    | .error _ => none
  Overrides.ofMembers read

/-- The settings of the page at this moment. -/
def settings (b : Browser) : Config :=
  let builtIn := Config.builtIn b.surroundings.builtFilter
  if b.surroundings.hasWindow then builtIn.override (readOverrides b.overrides) else builtIn

/-! ### The session -/

/-- Takes the listeners of a ceremony off. -/
def dropSession (b : Browser) : Browser :=
  match b.session with
  | none => b
  | some c => { b with session := none, listeners := b.listeners.filter (!·.serves c) }

/-- Ends the session, if there is one. -/
def endSession : StateM Browser Unit := do
  let b ← get
  set b.dropSession
  if b.session.isSome then
    log .loading .debug "Previous ceremony listeners removed" []

/-- Begins the session of a ceremony, whose trigger is the given element. -/
def beginSession (c : Ceremony) (config : Config) (trigger : Nat) : StateM Browser Unit :=
  modify fun b =>
    let number := b.offers.length
    let b := b.dropSession
    { b with
      offers := b.offers ++ [⟨c, config⟩]
      session := some number
      listeners := b.listeners ++
        [⟨.document, "keydown", .watch number⟩, ⟨.element trigger, "click", .activate number⟩] }

/-- Offers the ceremony of the page. -/
def offerCeremony (config : Config) : StateM Browser (Option Failure) := do
  match ← Ceremony.setUp (page config) with
  | .skipped => return none
  | .absent =>
    endSession
    return none
  | .failed failure =>
    log .loading .debug "Ceremony not offered" [("key", failure.key)]
    endSession
    return none
  | .ready c =>
    match (← get).document.trigger? config with
    | none => return some (.page "Trigger button disappeared")
    | some (_, e) =>
      beginSession c config e.number
      return none

/-! ### The load hook -/

/-- What a page without a window or a document lacks. -/
def missingPart? (b : Browser) : Option Failure :=
  if !b.surroundings.hasWindow then some (.page "Window not found")
  else if !b.surroundings.hasDocument then some (.page "Document not found")
  else none

/-- The failure of a page that has no document. -/
def noDocument : Failure := .page "Document not found"

/-- Runs the load hook. -/
def load (config : Config) : StateM Browser Unit := do
  let missing := (← get).missingPart?
  let failure ← match missing with
    | some failure => pure (some failure)
    | none => offerCeremony config
  if let some failure := failure then
    log .loading .error ("WebAuthn setup failed: " ++ failure.message) []
  match missing with
  | none => bindAll
  | some _ => log .loading .error ("Widget setup failed: " ++ noDocument.message) []

/-- The version of this program. -/
def version : String := "0.1.0"

/-- Installs the filter of the console.  Later ones are not heard. -/
def installConsole (config : Config) : StateM Browser Unit := do
  match (← get).filter with
  | some _ => record (.console .debug "tracing subscriber already installed")
  | none => modify fun b => { b with filter := some (.read (config.text .logFilter)) }

/-- Attaches the listeners that the page has from the start, and runs the load hook when the
document is there. -/
def boot (config : Config) : StateM Browser Unit := do
  let b ← get
  if b.missingPart?.isSome then
    log .loading .error ("Failed to start: " ++ noDocument.message) []
  else
    listen .document "htmx:load" (.load config)
    listen .document "htmx:beforeOnLoad" .swapErrors
    if b.surroundings.isLoading then
      listen .document "DOMContentLoaded" (.firstLoad config)
    else
      load config

/-- Starts. -/
def start : StateM Browser Unit := do
  let config := (← get).settings
  installConsole config
  log .loading .info "webauthn-bridge loaded"
    [("version", Text.quoted version), ("commit", Text.quoted "unknown")]
  divertStyle
  boot config

/-- Runs the load hook with the settings of this moment. -/
def refresh : StateM Browser Unit := do
  load (← get).settings

/-! ### Events -/

/-- An event on its way from the place where it arrived.  It has a key if it is one of the keyboard,
and once it is prevented the browser does not do what it would do by itself. -/
structure Event where
  target : Place
  key : Option String
  detail : ScriptValue
  prevented : Bool

/-- Does what a listener does; answers the event afterwards. -/
def handle (ev : Event) : Handler → StateM Browser Event
  | .load config => do
    load config
    return ev
  | .firstLoad config => do
    load config
    return ev
  | .swapErrors => do
    return { ev with detail := ← swapErrors ev.detail }
  | .watch c => do
    let b ← get
    match ev.key, b.offers[c]? with
    | some key, some o =>
      let (_, ceremony) ← o.ceremony.keydown (page o.config) key b.clock
      setCeremony c ceremony
      return ev
    | _, _ => return ev
  | .activate c => do
    let n := (← get).runs.length
    modify fun b => { b with runs := b.runs ++ [⟨c, false, .spawned⟩] }
    spawn (.run n)
    return { ev with prevented := true }
  | .toggle icon => do
    togglePassword icon
    return ev
  | .press icon =>
    match ev.key with
    | none => return ev
    | some key =>
      if Widget.activatesToggle key then do
        togglePassword icon
        return { ev with prevented := true }
      else return ev
  | .copy => do
    copyFrom ev.target
    return ev
  | .play button => do
    playCaptcha button
    return ev
  | .deletePhoto => do
    showPhoto .removed
    return { ev with prevented := true }
  | .previewPhoto => do
    previewPhoto ev.target
    return ev

/-- Whether a listener hears one event only. -/
def Handler.isOnce : Handler → Bool
  | .firstLoad _ => true
  | _ => false

/-- Whether a listener at a place hears events of a type. -/
def Listener.hears (l : Listener) (place : Place) (type : String) : Bool :=
  l.place == place && l.event == type

/-- Lets listeners hear an event, one after the other. -/
def tell : List Listener → Event → StateM Browser Event
  | [], ev => pure ev
  | l :: rest, ev => do
    let ev ← handle ev l.handler
    tell rest ev

/-- Takes the listeners off that hear one event only and hear it now. -/
def takeOnce (place : Place) (type : String) : StateM Browser Unit :=
  modify fun b =>
    { b with listeners := b.listeners.filter fun l => !(l.handler.isOnce && l.hears place type) }

/-- Lets the listeners at places hear an event, place by place. -/
def bubble (type : String) : List Place → Event → StateM Browser Event
  | [], ev => pure ev
  | place :: rest, ev => do
    let hearing := (← get).listeners.filter (·.hears place type)
    takeOnce place type
    let ev ← tell hearing ev
    bubble type rest ev

/-- The places that an event passes: where it arrives and, if it rises, what that lies in up to
the document. -/
def route (d : Document) (type : String) : Place → List Place
  | .document => [.document]
  | .element n =>
    if type = "focus" then [.element n]
    else
      let (es, inPage) := d.path n
      es.map (fun e => .element e.number) ++ if inPage then [.document] else []

/-- Lets an event happen. -/
def dispatch (target : Place) (type : String) (key : Option String) (detail : ScriptValue) :
    StateM Browser Event := do
  bubble type (route (← get).document type target) ⟨target, key, detail, false⟩

/-! ### Tasks and timers -/

/-- Does a task. -/
def perform : Task → StateM Browser Unit
  | .run n => beginRun n
  | .copy text => copyText text

/-- Does the tasks that wait. -/
def settle : StateM Browser Unit := do
  let tasks := (← get).tasks
  modify fun b => { b with tasks := [] }
  tasks.forM perform

/-- Does what a timer is for. -/
def ring : Alarm → StateM Browser Unit
  | .abort run => abortRequest run
  | .enableResend button icon => enableResend button icon

/-- The earliest timer that is due, of several the one that was armed first. -/
def dueTimer? (b : Browser) (time : Float) : Option Timer :=
  (b.timers.filter fun t => t.due ≤ time).foldl
    (fun best t =>
      match best with
      | none => some t
      | some u => if t.due < u.due then some t else some u)
    none

/-- Lets at most `count` timers that are due ring. -/
def ringDue (time : Float) : Nat → StateM Browser Unit
  | 0 => pure ()
  | count + 1 => do
    match (← get).dueTimer? time with
    | none => return
    | some t =>
      disarm t.number
      ring t.alarm
      settle
      ringDue time count

/-- Lets time pass.  Timers that are due ring; none is armed meanwhile. -/
def advance (milliseconds : Float) : StateM Browser Unit := do
  let b ← get
  let time := b.clock + milliseconds
  ringDue time b.timers.length
  modify fun b => { b with clock := time }

end Passkey.Browser
