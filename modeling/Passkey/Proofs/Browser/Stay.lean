/-
Passkey/Proofs/Browser/Stay.lean

A stay on a page and what it leaves behind.

A stay is a sequence of happenings that run load hooks or change the document:
elements may come and go, move and come back, but nobody touches their marks.
The load hooks have verdicts, and the verdicts of a stay are a record of it.
One hook adds one verdict, an event of loading those of the hooks that hear it,
and a happening adds them whatever went before (`Kept.after_happening`).  So
the verdicts alone say to which trigger the session belongs (`Stay.wired`), and
no trigger is claimed twice (`Stay.kept`).
-/
import Passkey.Browser.Visit
import Passkey.Proofs.Browser.Hook

namespace Passkey.Browser

/-! ### Stays on a page -/

/-- A step that runs load hooks, or that changes the page without touching marks. -/
inductive Step.IsPlain : Step → Prop
  | start : IsPlain .start
  | refresh : IsPlain .refresh
  | event (target : Target) (type : String) (key : Option String) (detail : ScriptValue)
    (h : type = "htmx:load" ∨ type = "DOMContentLoaded") : IsPlain (.event target type key detail)
  | insert (target : Target) (trees : Forest) : IsPlain (.insert target trees)
  | remove (target : Target) : IsPlain (.remove target)
  | fill (target : Target) (files : List String) (value : String) :
    IsPlain (.fill target files value)
  | setGlobal (name : String) (value : ScriptValue) : IsPlain (.setGlobal name value)

/-- The settings of the load hooks that hear events of a type at the document. -/
def hooks (b : Browser) (type : String) : List Config :=
  (b.listeners.filter (·.hears .document type)).filterMap (·.handler.hook?)

/-- The verdicts of load hooks that run one after the other. -/
def verdicts (b : Browser) : List Config → List Verdict
  | [] => []
  | config :: rest => b.verdict config :: ((load config).run b).2.verdicts rest

/-- The verdicts of the load hooks that a step runs. -/
def Step.verdicts (b : Browser) : Step → List Verdict
  | .start =>
    if b.missingPart?.isSome || b.surroundings.isLoading then [] else [b.verdict b.settings]
  | .refresh => [b.verdict b.settings]
  | .event target type _ _ =>
    match b.place? target with
    | none => []
    | some place =>
      if .document ∈ route b.document type place then
        ((takeOnce .document type).run b).2.verdicts (b.hooks type)
      else []
  | _ => []

/-- What happens to a page. -/
inductive Happening where
  /-- A step, at a new time if one is given. -/
  | step (now : Option Float) (s : Step)
  /-- A script moves elements, takes them out or puts them back. -/
  | rearrange (change : Document → Document)

/-- Whether a happening leaves marks alone: steps do it by themselves, and whatever is rearranged
stays what it is. -/
def Happening.IsPlain : Happening → Prop
  | step _ s => s.IsPlain
  | rearrange change => ∀ d : Document, d.WellNumbered →
    (change d).elements.Perm d.elements ∧ (change d).next = d.next

/-- The browser after a happening. -/
def happen (b : Browser) : Happening → Browser
  | .step now s => (step now s b).2
  | .rearrange change => { b with document := change b.document }

/-- The verdicts of the load hooks that a happening runs. -/
def Happening.verdicts (b : Browser) : Happening → List Verdict
  | step now s => s.verdicts { b with clock := now.getD b.clock, calls := [] }
  | rearrange _ => []

/-- The browser after happenings. -/
def after (b : Browser) : List Happening → Browser
  | [] => b
  | h :: rest => (b.happen h).after rest

/-- The verdicts of the load hooks that happenings run, in order. -/
def verdictsAlong (b : Browser) : List Happening → List Verdict
  | [] => []
  | h :: rest => h.verdicts b ++ (b.happen h).verdictsAlong rest

/-- A stay on a page, from its first moment on. -/
structure Stay where
  surroundings : Surroundings
  trees : Forest
  overrides : ScriptValue
  clock : Float
  happenings : List Happening
  plain : ∀ h ∈ happenings, h.IsPlain

namespace Stay

/-- The browser at first. -/
def arrival (s : Stay) : Browser :=
  fresh s.surroundings s.trees s.overrides s.clock

/-- The browser in the end. -/
def browser (s : Stay) : Browser :=
  s.arrival.after s.happenings

/-- The verdicts of all load hooks. -/
def verdicts (s : Stay) : List Verdict :=
  s.arrival.verdictsAlong s.happenings

end Stay

/-! ### What a stay leaves behind -/

/-- The trigger to which the session belongs after verdicts. -/
def wiredAfter (vs : List Verdict) : Option Nat :=
  vs.foldl Verdict.effect none

theorem wiredAfter_snoc (vs : List Verdict) (v : Verdict) :
    wiredAfter (vs ++ [v]) = v.effect (wiredAfter vs) := by
  rw [wiredAfter, List.foldl_append]
  rfl

/-- The triggers that verdicts claim, in order. -/
def claimedBy (vs : List Verdict) : List Nat :=
  vs.filterMap Verdict.claimed?

/-- What a stay with verdicts leaves behind. -/
structure Kept (vs : List Verdict) (b : Browser) : Prop where
  sound : b.Sound
  attended : b.Attended (wiredAfter vs)
  once : (claimedBy vs).Nodup
  marked : ∀ n ∈ claimedBy vs, b.document.Marked n
  idle : b.runs = [] ∧ b.tasks = []

section Kept

variable {vs vs' : List Verdict} {b b' b'' : Browser}

theorem sound_fresh (surroundings : Surroundings) (trees : Forest) (overrides : ScriptValue)
    (clock : Float) : Sound (fresh surroundings trees overrides clock) :=
  ⟨Document.wellNumbered_ofTrees trees, nofun⟩

theorem Kept.quiet (h : Kept vs b) (hq : b.Quiet b') : Kept vs b' where
  sound := hq.sound
  attended := hq.attended h.attended
  once := h.once
  marked n hn := hq.edit.marked_of (h.marked n hn)
  idle := ⟨hq.runs.trans h.idle.1, hq.tasks.trans h.idle.2⟩

/-- **One load hook keeps the record**: what it claims was never claimed before. -/
theorem Kept.hooked {v : Verdict} (h : Kept vs b) (hv : b.Hooked v b') : Kept (vs ++ [v]) b' where
  sound := hv.sound
  attended := by
    rw [wiredAfter_snoc]
    exact hv.attended _ h.attended
  once := by
    -- what is claimed now bore no mark before, and whatever was claimed before bears one
    rw [claimedBy, List.filterMap_append, List.nodup_append]
    refine ⟨h.once, ?_, ?_⟩
    · rcases hc : v.claimed? with - | n
      · rw [List.filterMap_cons_none hc]
        exact .nil
      · rw [List.filterMap_cons_some hc]
        exact List.pairwise_singleton _ _
    · rintro n hn m hm rfl
      rw [List.mem_filterMap] at hm
      obtain ⟨v', hv', hclaimed⟩ := hm
      rw [List.mem_singleton.mp hv'] at hclaimed
      exact (hv.claimed n hclaimed).1 (h.marked n hn)
  marked := by
    intro n hn
    rw [claimedBy, List.filterMap_append] at hn
    rcases List.mem_append.mp hn with hn | hn
    · exact hv.edit.marked_of (h.marked n hn)
    · obtain ⟨v', hv', hclaimed⟩ := List.mem_filterMap.mp hn
      rw [List.mem_singleton.mp hv'] at hclaimed
      exact (hv.claimed n hclaimed).2
  idle := ⟨hv.runs.trans h.idle.1, hv.tasks.trans h.idle.2⟩

/-- A record of verdicts: every quiet change keeps it, and every load hook adds its verdict. -/
structure IsRecord (R : List Verdict → Browser → Prop) : Prop where
  sound : ∀ {vs : List Verdict} {b : Browser}, R vs b → b.Sound
  quiet : ∀ {vs : List Verdict} {b b' : Browser}, R vs b → b.Quiet b' → R vs b'
  hooked : ∀ {vs : List Verdict} {v : Verdict} {b b' : Browser}, R vs b → b.Hooked v b' →
    R (vs ++ [v]) b'

theorem isRecord_kept : IsRecord Kept :=
  ⟨fun h => h.sound, fun h hq => h.quiet hq, fun h hv => h.hooked hv⟩

/-- What happens from one moment to another adds verdicts to every record. -/
def Adds (b : Browser) (vs : List Verdict) (b' : Browser) : Prop :=
  ∀ R, IsRecord R → ∀ before, R before b → R (before ++ vs) b'

theorem Adds.trans (h : b.Adds vs b') (h' : b'.Adds vs' b'') : b.Adds (vs ++ vs') b'' := by
  intro R hR before hk
  rw [← List.append_assoc]
  exact h' R hR _ (h R hR before hk)

/-- The record matters only where there is one. -/
theorem adds_of_sound (h : b.Sound → b.Adds vs b') : b.Adds vs b' :=
  fun R hR before hk => h (hR.sound hk) R hR before hk

theorem Quietly.adds {α : Type} {m : StateM Browser α} (hm : Quietly m) (b : Browser) :
    b.Adds [] (m.run b).2 := by
  intro R hR before hk
  rw [List.append_nil]
  exact hR.quiet hk (hm b (hR.sound hk))

theorem adds_load (b : Browser) (config : Config) :
    b.Adds [b.verdict config] ((load config).run b).2 :=
  fun _ hR _ hk => hR.hooked hk (hooked_load (hR.sound hk) config)

end Kept

/-! ### Events of loading -/

section Events

variable {b : Browser} {type : String}

/-- Whoever hears the events of loading runs a load hook. -/
theorem isSome_hook?_of_mem_events {k : Handler} (hk : type ∈ k.events)
    (htype : type = "htmx:load" ∨ type = "DOMContentLoaded") : k.hook?.isSome = true := by
  cases k
  case load => rfl
  case firstLoad => rfl
  all_goals
    rcases htype with rfl | rfl <;> simp [Handler.events] at hk

/-- A handler that runs a load hook runs that alone. -/
theorem run_handle_of_hook? {k : Handler} {config : Config} (hk : k.hook? = some config)
    (ev : Event) (b : Browser) : (handle ev k).run b = (ev, ((load config).run b).2) := by
  cases k
  case load =>
    cases hk
    rfl
  case firstLoad =>
    cases hk
    rfl
  all_goals cases hk

/-- Listeners that run load hooks do nothing else. -/
theorem adds_tell {ls : List Listener} (hl : ∀ l ∈ ls, l.handler.hook?.isSome = true)
    (ev : Event) (b : Browser) :
    b.Adds (b.verdicts (ls.filterMap (·.handler.hook?))) ((tell ls ev).run b).2 := by
  induction ls generalizing ev b with
  | nil => exact (quietly_pure ev).adds b
  | cons l ls ih =>
    -- the next hook judges the page that this one leaves behind
    obtain ⟨config, hconfig⟩ := Option.isSome_iff_exists.mp (hl l List.mem_cons_self)
    have hcons : (l :: ls).filterMap (·.handler.hook?)
        = config :: ls.filterMap (·.handler.hook?) := List.filterMap_cons_some hconfig
    rw [hcons, tell, StateT.run_bind, run_handle_of_hook? hconfig ev b]
    exact (adds_load b config).trans (ih (fun k hk => hl k (List.mem_cons_of_mem l hk)) ev _)

theorem hook_of_hears (h : b.Sound) (htype : type = "htmx:load" ∨ type = "DOMContentLoaded")
    {place : Place} {l : Listener} (hl : l ∈ b.listeners) (hhears : l.hears place type = true) :
    l.handler.hook?.isSome = true ∧ place = .document := by
  rw [Listener.hears, Bool.and_eq_true, beq_iff_eq, beq_iff_eq] at hhears
  obtain ⟨rfl, rfl⟩ := hhears
  have hhook := isSome_hook?_of_mem_events (h.made l hl).event htype
  exact ⟨hhook, (h.made l hl).hook hhook⟩

/-- On the way to the document nobody hears the events of loading. -/
theorem run_bubble_elements (h : b.Sound)
    (htype : type = "htmx:load" ∨ type = "DOMContentLoaded") (ns : List Nat)
    (places : List Place) (ev : Event) :
    (bubble type (ns.map .element ++ places) ev).run b = (bubble type places ev).run b := by
  induction ns with
  | nil => rfl
  | cons n ns ih =>
    -- nobody hears it here, and no listener is taken off, so nothing happens at all
    have hdeaf : ∀ l ∈ b.listeners, l.hears (.element n) type = false := by
      intro l hl
      rcases hhears : l.hears (.element n) type with - | -
      · rfl
      · cases (hook_of_hears h htype hl hhears).2
    have hnone : b.listeners.filter (·.hears (.element n) type) = [] :=
      List.filter_eq_nil_iff.mpr fun l hl => by simp [hdeaf l hl]
    have hall : b.listeners.filter (fun l => !(l.handler.isOnce && l.hears (.element n) type))
        = b.listeners :=
      List.filter_eq_self.mpr fun l hl => by simp [hdeaf l hl]
    have htake : (takeOnce (.element n) type).run b = ((), b) := by
      show ((), { b with listeners := _ }) = _
      rw [hall]
    rw [List.map_cons, List.cons_append, bubble, StateT.run_bind, StateT.run_get, pure_bind,
      StateT.run_bind, htake, hnone]
    exact ih

/-- An event of loading that reaches the document runs the load hooks there. -/
theorem adds_bubble_document (htype : type = "htmx:load" ∨ type = "DOMContentLoaded")
    (ev : Event) (b : Browser) :
    b.Adds (((takeOnce .document type).run b).2.verdicts (b.hooks type))
      ((bubble type [.document] ev).run b).2 := by
  refine adds_of_sound fun hsound => ?_
  have hhearing : ∀ l ∈ b.listeners.filter (·.hears .document type),
      l.handler.hook?.isSome = true := by
    intro l hl
    obtain ⟨hmem, hhears⟩ := List.mem_filter.mp hl
    exact (hook_of_hears hsound htype hmem hhears).1
  exact ((quietly_takeOnce .document type).adds b).trans (adds_tell hhearing ev _)

/-- An event passes elements, and then the document if it gets that far. -/
theorem exists_route_eq (d : Document) (type : String) (place : Place) :
    ∃ ns : List Nat, route d type place = ns.map .element ∨
      route d type place = ns.map .element ++ [.document] := by
  cases place with
  | document => exact ⟨[], .inr rfl⟩
  | element n =>
    rw [route]
    split
    · exact ⟨[n], .inl rfl⟩
    · obtain ⟨es, inPage⟩ := d.path n
      refine ⟨es.map (·.number), ?_⟩
      rw [List.map_map]
      cases inPage
      · exact .inl (List.append_nil _)
      · exact .inr rfl

/-- **An event of loading runs the load hooks if it reaches the document**, and nothing
otherwise. -/
theorem adds_dispatch (htype : type = "htmx:load" ∨ type = "DOMContentLoaded") (place : Place)
    (key : Option String) (detail : ScriptValue) (b : Browser) :
    b.Adds
      (if .document ∈ route b.document type place then
        ((takeOnce .document type).run b).2.verdicts (b.hooks type)
      else [])
      ((dispatch place type key detail).run b).2 := by
  refine adds_of_sound fun hsound => ?_
  show b.Adds _ ((bubble type (route b.document type place) _).run b).2
  obtain ⟨ns, hroute | hroute⟩ := exists_route_eq b.document type place
  · rw [hroute, if_neg (by simp), ← List.append_nil (ns.map Place.element),
      run_bubble_elements hsound htype]
    exact (quietly_pure _).adds b
  · rw [hroute, if_pos (by simp), run_bubble_elements hsound htype]
    exact adds_bubble_document htype _ b

end Events

/-! ### Plain steps -/

section Steps

variable {vs : List Verdict} {b b' : Browser} {config : Config}

theorem verdict_congr (hdocument : b'.document = b.document)
    (hsurroundings : b'.surroundings = b.surroundings) (config : Config) :
    b'.verdict config = b.verdict config := by
  rw [verdict, verdict, missingPart?, missingPart?, hdocument, hsurroundings]

theorem quietly_edit {change : Nat → Document → Document}
    (hchange : ∀ n (d : Document), d.WellNumbered → d.Edit (change n d)) (place : Place) :
    Quietly (edit change place) := by
  cases place with
  | document => exact quietly_pure _
  | element n =>
    have hmodify : Quietly (modify fun b => { b with document := change n b.document }) :=
      fun b h => h.quiet_edit (hchange n b.document h.numbered)
    exact hmodify.bind fun _ => quietly_pure _

theorem quietly_atTarget {action : Place → StateM Browser Result}
    (h : ∀ place, Quietly (action place)) (target : Target) : Quietly (atTarget target action) := by
  refine quietly_get.bind fun b => ?_
  split
  · exact quietly_pure _
  · exact h _

/-- What the program does before it attaches its first listener. -/
def prepare (config : Config) : StateM Browser Unit := do
  installConsole config
  log .loading .info "webauthn-bridge loaded"
    [("version", Text.quoted version), ("commit", Text.quoted "unknown")]
  divertStyle

theorem quietly_prepare (config : Config) : Quietly (prepare config) :=
  (quietly_installConsole config).bind fun _ => (quietly_log _ _ _ _).bind fun _ =>
    quietly_divertStyle

theorem document_installConsole (config : Config) (b : Browser) :
    ((installConsole config).run b).2.document = b.document := by
  simp only [installConsole, StateT.run_bind, StateT.run_get, pure_bind]
  split <;> rfl

theorem document_divertStyle (b : Browser) : ((divertStyle).run b).2.document = b.document := by
  simp only [divertStyle, StateT.run_bind, StateT.run_get, pure_bind]
  split
  · exact document_log _ _ _ _ b
  · exact document_log _ _ _ _ _

theorem document_prepare (config : Config) (b : Browser) :
    ((prepare config).run b).2.document = b.document :=
  (document_divertStyle _).trans
    ((document_log _ _ _ _ _).trans (document_installConsole config b))

theorem quietly_listenDocument {event : String} {handler : Handler} (he : event ∈ handler.events)
    (hno : handler.attends? = none) : Quietly (listen .document event handler) :=
  quietly_listen ⟨he, fun _ => rfl⟩ hno

/-- The program runs the load hook unless the document is missing or still being loaded. -/
theorem adds_boot (config : Config) (b : Browser) :
    b.Adds
      (if b.missingPart?.isSome || b.surroundings.isLoading then [] else [b.verdict config])
      ((boot config).run b).2 := by
  have hlisten : Quietly (do
      listen .document "htmx:load" (.load config)
      listen .document "htmx:beforeOnLoad" .swapErrors) :=
    (quietly_listenDocument List.mem_cons_self rfl).bind fun _ =>
      quietly_listenDocument List.mem_cons_self rfl
  rcases hmissing : b.missingPart?.isSome with - | -
  · rcases hloading : b.surroundings.isLoading with - | -
    · have hrun : (boot config).run b = (do
          listen .document "htmx:load" (.load config)
          listen .document "htmx:beforeOnLoad" .swapErrors
          load config : StateM Browser Unit).run b := by
        simp only [boot, StateT.run_bind, StateT.run_get, pure_bind, hmissing, hloading]
        rfl
      rw [hrun]
      exact (hlisten.adds b).trans (adds_load _ config)
    · have hrun : (boot config).run b = (do
          listen .document "htmx:load" (.load config)
          listen .document "htmx:beforeOnLoad" .swapErrors
          listen .document "DOMContentLoaded" (.firstLoad config) :
          StateM Browser Unit).run b := by
        simp only [boot, StateT.run_bind, StateT.run_get, pure_bind, hmissing, hloading]
        rfl
      have hfirst : Quietly (listen .document "DOMContentLoaded" (.firstLoad config)) :=
        quietly_listenDocument List.mem_cons_self rfl
      rw [hrun]
      exact (hlisten.bind fun _ => hfirst).adds b
  · have hrun : (boot config).run b
        = (log .loading .error ("Failed to start: " ++ noDocument.message) []).run b := by
      simp only [boot, StateT.run_bind, StateT.run_get, pure_bind, hmissing]
      rfl
    rw [hrun]
    exact (quietly_log _ _ _ _).adds b

theorem adds_start (b : Browser) :
    b.Adds (Step.start.verdicts b) ((start).run b).2 := by
  refine adds_of_sound fun hsound => ?_
  -- the preparations leave the document alone, so the hook finds what was there at the start
  have hq := quietly_prepare b.settings b hsound
  have hboot := adds_boot b.settings ((prepare b.settings).run b).2
  rw [missingPart?, hq.surroundings, verdict_congr (document_prepare _ _) hq.surroundings] at hboot
  exact ((quietly_prepare b.settings).adds b).trans hboot

/-- **What a plain step does adds its verdicts to the record.** -/
theorem adds_act {s : Step} (hs : s.IsPlain) (b : Browser) :
    b.Adds (s.verdicts b) ((act s).run b).2 := by
  cases hs with
  | start => exact adds_start b
  | refresh => exact adds_load b b.settings
  | event target type key detail htype =>
    rw [act, atTarget, StateT.run_bind, StateT.run_get, pure_bind, Step.verdicts]
    cases b.place? target with
    | none => exact (quietly_pure _).adds b
    | some place => exact adds_dispatch htype place key detail b
  | insert target trees =>
    refine (quietly_atTarget (fun place => ?_) target).adds b
    have hmodify (parent : Option Nat) :
        Quietly (modify fun b => { b with document := b.document.insert parent trees }) :=
      fun b h => h.quiet_edit (Document.edit_insert h.numbered parent trees)
    exact (hmodify _).bind fun _ => quietly_pure _
  | remove target =>
    exact (quietly_atTarget (quietly_edit fun n d h => Document.edit_remove h n) target).adds b
  | fill target files value =>
    refine (quietly_atTarget (quietly_edit fun n d h => ?_) target).adds b
    exact Document.edit_update h fun e _ hn => ⟨hn, id⟩
  | setGlobal name value =>
    have hmodify : Quietly (modify fun b => { b with overrides := value }) :=
      fun _ h => h.quiet_of_same rfl rfl rfl rfl rfl rfl rfl
    rw [act]
    split
    · exact (hmodify.bind fun _ => quietly_pure _).adds b
    · exact (quietly_pure _).adds b

/-- **A plain step adds its verdicts to the record**: no task waits for its end. -/
theorem Kept.after_step (h : Kept vs b) {s : Step} (hs : s.IsPlain) (now : Option Float) :
    Kept (vs ++ s.verdicts { b with clock := now.getD b.clock, calls := [] }) (step now s b).2 := by
  -- a step starts its clock, acts and does the tasks, of which there are none
  have hbegun : Kept vs { b with clock := now.getD b.clock, calls := [] } :=
    h.quiet (h.sound.quiet_of_same rfl rfl rfl rfl rfl rfl rfl)
  have hacted := adds_act hs _ Kept isRecord_kept vs hbegun
  have hsettled : (step now s b).2 = (settle.run ((act s).run
    { b with clock := now.getD b.clock, calls := [] }).2).2 := rfl
  rw [hsettled, settle, StateT.run_bind, StateT.run_get, pure_bind, hacted.idle.2]
  exact hacted.quiet (hacted.sound.quiet_of_same rfl rfl rfl rfl rfl rfl hacted.idle.2.symm)

/-- **What happens adds its verdicts to the record.** -/
theorem Kept.after_happening (h : Kept vs b) {a : Happening} (ha : a.IsPlain) :
    Kept (vs ++ a.verdicts b) (b.happen a) := by
  cases a with
  | step now s => exact h.after_step ha now
  | rearrange change =>
    obtain ⟨hperm, hnext⟩ := ha b.document h.sound.numbered
    rw [Happening.verdicts, List.append_nil]
    exact h.quiet (h.sound.quiet_edit (Document.edit_of_rearranged h.sound.numbered hperm hnext))

/-- **What every happening adds to a record, all of them add.** -/
theorem record_after {R : List Verdict → Browser → Prop} {P : Happening → Prop}
    (hR : ∀ {vs b a}, R vs b → P a → R (vs ++ a.verdicts b) (b.happen a)) (h : R vs b)
    {as : List Happening} (ha : ∀ a ∈ as, P a) : R (vs ++ b.verdictsAlong as) (b.after as) := by
  induction as generalizing vs b with
  | nil =>
    rw [verdictsAlong, List.append_nil]
    exact h
  | cons a rest ih =>
    rw [verdictsAlong, ← List.append_assoc]
    exact ih (hR h (ha a List.mem_cons_self)) fun a' ha' => ha a' (List.mem_cons_of_mem a ha')

theorem Stay.kept (s : Stay) : Kept s.verdicts s.browser := by
  have hfresh : Kept [] s.arrival :=
    ⟨sound_fresh s.surroundings s.trees s.overrides s.clock, ⟨rfl, rfl⟩, .nil, nofun, rfl, rfl⟩
  exact record_after (fun h ha => h.after_happening ha) hfresh s.plain

/-- **The verdicts say to which trigger the session belongs.** -/
theorem Stay.wired (s : Stay) : s.browser.Wired (wiredAfter s.verdicts) :=
  s.kept.attended.wired

end Steps

end Passkey.Browser
