/-
Passkey/Proofs/Browser/Handback.lean

Which button a run hands back.

A run takes the trigger when it begins, and hands back a trigger when it fails.
In between it waits for others, and elements come and go.  The trigger is
looked up anew when the run fails, so the button that was taken is handed back
if it is the trigger then, and stays taken if another one is.
-/
import Passkey.Proofs.Browser.Deadline
import Passkey.Proofs.Browser.Standing

namespace Passkey.Browser

/-! ### Pieces of a run -/

/-- The settings by which a run goes. -/
def config? (b : Browser) (n : Nat) : Option Config :=
  (b.runs[n]?).bind fun r => (b.offers[r.ceremony]?).map (·.config)

/-- The failure of a run that failed. -/
def failed? : Stage → Option Failure
  | .done (.failed failure) => some failure
  | _ => none

/-- Whether a run failed. -/
def hasFailed (b : Browser) (n : Nat) : Bool :=
  (b.course? n).any fun c => (failed? c.2).isSome

/-- Whether a run waits for the platform. -/
def asks (b : Browser) (n : Nat) : Bool :=
  (b.course? n).any fun c => (asking? c.2).isSome

/-- A run begins and asks the platform. -/
structure Begins (n : Nat) (config : Config) (b b' : Browser) : Prop where
  config : b.config? n = some config
  begun : b' = ((beginRun n).run b).2
  asks : b'.asks n = true

/-- A piece of a run that has begun, from one wait to the next or to its end. -/
inductive Piece (n : Nat) (b : Browser) : Browser → Prop
  /-- The platform answers it. -/
  | answered (answer : Except ScriptValue PlatformAnswer)
      (h : (b.oldest? asking?).map (·.1) = some n) : Piece n b ((answerPlatform answer).run b).2
  /-- The server responds to it. -/
  | received (response : Response)
      (h : (b.oldest? submitting?).map (·.1) = some n) : Piece n b ((receive response).run b).2
  /-- It has read the response. -/
  | read (h : (b.oldest? reading?).map (·.1) = some n) : Piece n b (finishReading.run b).2
  /-- Its request comes to nothing. -/
  | broken (fault : FetchFault)
      (h : (b.oldest? submitting?).map (·.1) = some n) : Piece n b ((breakRequest fault).run b).2
  /-- Its request is aborted. -/
  | aborted {r : Run} {o : Offer} {location : String} {k : Nat} (hrun : b.run? n = some (r, o))
      (hstage : r.stage = .submitting location k) : Piece n b ((abortRequest n).run b).2

/-- Something happens elsewhere: elements come, go or are replaced, or whatever else leaves a
run alone and the way in which one element stands. -/
structure Elsewhere (n m : Nat) (mark : String) (b b' : Browser) : Prop where
  course : b'.course? n = b.course? n
  config : b'.config? n = b.config? n
  numbered : b.document.WellNumbered → b'.document.WellNumbered
  standing : ∀ e' ∈ b'.document.elements, e'.number = m →
    ∃ e ∈ b.document.elements, e.number = m ∧ e'.standing mark = e.standing mark

/-- What happens while a run is under way. -/
inductive Meanwhile (n m : Nat) (mark : String) (b : Browser) : Browser → Prop
  | refl : Meanwhile n m mark b b
  | piece {b' b'' : Browser} (h : Meanwhile n m mark b b') (hp : Piece n b' b'') :
      Meanwhile n m mark b b''
  | elsewhere {b' b'' : Browser} (h : Meanwhile n m mark b b') (he : Elsewhere n m mark b' b'') :
      Meanwhile n m mark b b''

/-- A run takes a button and fails in the end. -/
structure Attempt (n m : Nat) (config : Config) (b₀ b₁ b₂ b₃ : Browser) : Prop where
  marks : Marks config
  numbered : b₀.document.WellNumbered
  settable : b₀.hasSetAttribute = true
  /-- The run begins. -/
  begins : Begins n config b₀ b₁
  /-- The button is the trigger at that moment. -/
  taken : b₀.document.triggerNumber? config = some m
  /-- The button can be taken. -/
  obeys : b₀.document.TriggerObeys config
  meanwhile : Meanwhile n m (config.text .busyClass) b₁ b₂
  /-- The run ends, and it fails. -/
  ends : Piece n b₂ b₃
  failed : b₃.hasFailed n = true
  /-- The trigger at that moment can be handed back. -/
  obeys' : b₃.document.TriggerObeys config

section Pieces

variable {α : Type} {n m : Nat} {mark : String} {config : Config} {b b' b'' : Browser}
  {r : Run} {o : Offer}

/-! ### What a piece does -/

/-- Nothing happens to the document, to runs and to what they go by. -/
structure Unmoved (b b' : Browser) : Prop where
  document : b'.document = b.document
  course : b'.course? = b.course?
  config : b'.config? = b.config?

/-- A piece leaves the document as it is and the run goes on, or the run fails and hands back
the trigger of that moment. -/
def Effect (n : Nat) (config : Config) (b b' : Browser) : Prop :=
  (b'.hasFailed n = false ∧ b'.document = b.document ∧ b'.config? n = b.config? n) ∨
    (b'.hasFailed n = true ∧ (b.document.WellNumbered → b'.document.TriggerObeys config →
      b.document.Restood (config.text .busyClass) (b'.document.triggerNumber? config)
        (false, false) b'.document))

theorem isFrame_unmoved : IsFrame Unmoved (fun _ _ => False) where
  refl _ := ⟨rfl, rfl, rfl⟩
  trans h h' := ⟨h'.document.trans h.document, h'.course.trans h.course, h'.config.trans h.config⟩
  calls _ _ _ := ⟨rfl, rfl, rfl⟩
  change h := h.elim

theorem Unmoved.trans (h : Unmoved b b') (h' : Unmoved b' b'') : Unmoved b b'' :=
  isFrame_unmoved.trans h h'

/-- What is done on behalf of a run. -/
theorem effect_within {action : StateM Browser α} (named : Bool) (mode : Mode)
    (haction : ∀ b', Unmoved b b' → Effect n config b (action.run b').2) (h : Unmoved b b') :
    Effect n config b ((within named mode action).run b').2 :=
  haction { b' with span := if named then some mode else none } (h.trans ⟨rfl, rfl, rfl⟩)

theorem config?_setStage (n : Nat) (s : Stage) (b : Browser) :
    ((setStage n s).run b).2.config? = b.config? := by
  funext m
  show ((b.runs.modify n fun r => { r with stage := s })[m]?).bind _ = _
  rw [List.getElem?_modify, config?]
  cases b.runs[m]? with
  | none => rfl
  | some r =>
    show Option.map _ (b.offers[(if n = m then { r with stage := s } else r).ceremony]?) = _
    split <;> rfl

/-- A run that goes on. -/
theorem effect_setStage {s : Stage} (hs : failed? s = none) (h : Unmoved b b') :
    Effect n config b ((setStage n s).run b').2 := by
  refine .inl ⟨?_, h.document, ?_⟩
  · rw [hasFailed, course?_setStage, if_pos rfl]
    cases b'.course? n with
    | none => rfl
    | some c =>
      show (failed? s).isSome = false
      rw [hs]
      rfl
  · rw [config?_setStage, h.config]

theorem config_of_run? (h : b.run? n = some (r, o)) : b.config? n = some o.config := by
  obtain ⟨r', hr', hrest⟩ := Option.bind_eq_some_iff.mp h
  obtain ⟨o', ho', heq⟩ := Option.map_eq_some_iff.mp hrest
  cases heq
  rw [config?, hr', Option.bind_some, ho']
  rfl

/-- **A run that fails** hands back the trigger of that moment. -/
theorem effect_failRun (hmark : Marks o.config) {c : Nat × Stage} (hcourse : b.course? n = some c)
    (failure : Failure) (h : Unmoved b b') :
    Effect n o.config b ((failRun n r o failure).run b').2 := by
  refine .inr ⟨?_, fun hb hobeys => ?_⟩
  · rw [hasFailed, course?_failRun, if_pos rfl, h.course, hcourse]
    rfl
  · have hrun : ((failRun n r o failure).run b').2.document
        = ((o.ceremony.fail (page o.config) failure).run b').2.document := rfl
    rw [hrun] at hobeys ⊢
    have hfreed := restood_fail hmark (h.document ▸ hb) o.ceremony failure hobeys
    rw [h.document] at hfreed
    exact hfreed

theorem unmoved_setCeremony (k : Nat) (c : Ceremony) (b : Browser) :
    Unmoved b ((setCeremony k c).run b).2 := by
  refine ⟨rfl, rfl, funext fun m => ?_⟩
  refine congrArg (Option.bind b.runs[m]?) (funext fun r => ?_)
  show ((b.offers.modify k fun o => { o with ceremony := c })[r.ceremony]?).map Offer.config = _
  rw [List.getElem?_modify]
  cases b.offers[r.ceremony]? with
  | none => rfl
  | some o =>
    show some (if k = r.ceremony then { o with ceremony := c } else o).config = some o.config
    split <;> rfl

/-- **A credential is posted**: the run waits, or it fails. -/
theorem effect_submit (hmark : Marks o.config) {c : Nat × Stage} (hcourse : b.course? n = some c)
    (credential : Credential) (h : Unmoved b b') :
    Effect n o.config b ((submit n r o credential).run b').2 := by
  have hposted : Stays Unmoved (Ceremony.submission (page o.config)) :=
    stays_submission isFrame_unmoved
  have hsubmission := h.trans (hposted b')
  rw [submit, run_then]
  generalize (Ceremony.submission (page o.config)).run b' = passed at hsubmission ⊢
  rw [StateT.run_bind, run_post]
  split
  · exact effect_failRun hmark hcourse _ hsubmission
  · split
    · exact effect_failRun hmark hcourse _ (hsubmission.trans ⟨rfl, rfl, rfl⟩)
    · exact effect_setStage rfl (hsubmission.trans ⟨rfl, rfl, rfl⟩)

/-- **The answer of the server is read**: the page is left, or the run fails. -/
theorem effect_conclude (hmark : Marks o.config) {c : Nat × Stage} (hcourse : b.course? n = some c)
    (location : String) (answer : Except Failure Reply) (h : Unmoved b b') :
    Effect n o.config b
      ((endRun n r (o.ceremony.conclude (page o.config) location answer)).run b').2 := by
  rw [Ceremony.conclude]
  split
  · next target _ =>
    have hleft : Stays Unmoved (note (.accepted target) >>= fun _ => navigate target) :=
      stays_bind isFrame_unmoved (stays_note isFrame_unmoved _) fun _ =>
        stays_navigate isFrame_unmoved target
    exact effect_setStage (s := .done (.redirected target)) rfl
      ((h.trans (hleft b')).trans (unmoved_setCeremony r.ceremony o.ceremony _))
  · exact effect_failRun hmark hcourse _ h

/-- **A request comes to nothing**, and its run fails. -/
theorem effect_failRequest (hmark : Marks o.config) {c : Nat × Stage}
    (hcourse : b.course? n = some c) (k : Nat) (fault : FetchFault) (h : Unmoved b b') :
    Effect n o.config b ((failRequest n r o k fault).run b').2 := by
  have hdisarmed : Unmoved b ((disarm k).run b').2 := h.trans ⟨rfl, rfl, rfl⟩
  rw [failRequest, run_seq]
  exact effect_within r.named o.ceremony.mode (fun _ h' => effect_failRun hmark hcourse _ h')
    hdisarmed

theorem exists_of_oldest? {stage : Stage → Option α} (h : (b.oldest? stage).map (·.1) = some n) :
    ∃ r o a, b.oldest? stage = some (n, r, o, a) ∧ b.run? n = some (r, o) ∧
      stage r.stage = some a := by
  obtain ⟨⟨n', r, o, a⟩, holdest, rfl⟩ := Option.map_eq_some_iff.mp h
  exact ⟨r, o, a, holdest, oldest?_eq_some holdest⟩

/-- **A piece of a run** leaves the document as it is, or the run fails and hands back the trigger
of that moment. -/
theorem Piece.effect (hmark : Marks config) (hconfig : b.config? n = some config)
    (h : Piece n b b') : Effect n config b b' := by
  have hsame {r : Run} {o : Offer} (hrun : b.run? n = some (r, o)) : config = o.config :=
    Option.some.inj (hconfig.symm.trans (config_of_run? hrun))
  have hrefl : Unmoved b b := isFrame_unmoved.refl b
  cases h with
  | answered answer h =>
    obtain ⟨r, o, a, holdest, hrun, -⟩ := exists_of_oldest? h
    obtain rfl := hsame hrun
    have hcourse := (run?_eq_some hrun).1
    rw [answerPlatform, StateT.run_bind, StateT.run_get, pure_bind]
    dsimp only
    rw [holdest]
    refine effect_within r.named o.ceremony.mode (fun b' h' => ?_) hrefl
    split
    · exact effect_failRun hmark hcourse _ h'
    · exact effect_submit hmark hcourse _ h'
  | received response h =>
    obtain ⟨r, o, ⟨location, k⟩, holdest, -, -⟩ := exists_of_oldest? h
    rw [receive, StateT.run_bind, StateT.run_get, pure_bind]
    dsimp only
    rw [holdest]
    have hdisarmed : Unmoved b ((disarm k).run b).2 := ⟨rfl, rfl, rfl⟩
    exact effect_setStage (s := .reading location response) rfl hdisarmed
  | read h =>
    obtain ⟨r, o, ⟨location, response⟩, holdest, hrun, -⟩ := exists_of_oldest? h
    obtain rfl := hsame hrun
    have hcourse := (run?_eq_some hrun).1
    rw [finishReading, StateT.run_bind, StateT.run_get, pure_bind]
    dsimp only
    rw [holdest]
    refine effect_within r.named o.ceremony.mode (fun b' h' => ?_) hrefl
    have hreply : Stays Unmoved (readReply response) := by
      rw [readReply]
      split
      · exact stays_bind isFrame_unmoved (stays_log isFrame_unmoved _ _ _ _) fun _ =>
          stays_pure isFrame_unmoved _
      · exact stays_pure isFrame_unmoved _
    exact effect_conclude hmark hcourse location _ (h'.trans (hreply b'))
  | broken fault h =>
    obtain ⟨r, o, ⟨location, k⟩, holdest, hrun, -⟩ := exists_of_oldest? h
    obtain rfl := hsame hrun
    rw [breakRequest, StateT.run_bind, StateT.run_get, pure_bind]
    dsimp only
    rw [holdest]
    exact effect_failRequest hmark (run?_eq_some hrun).1 k fault hrefl
  | aborted hrun hstage =>
    obtain rfl := hsame hrun
    rw [run_abortRequest hrun hstage]
    exact effect_failRequest hmark (run?_eq_some hrun).1 _ Browser.aborted
      (stays_record isFrame_unmoved _ b)

/-- A run that failed does nothing more. -/
theorem Piece.hasFailed (h : Piece n b b') : b.hasFailed n = false := by
  have hwaits {r : Run} {o : Offer} (hrun : b.run? n = some (r, o)) (hs : failed? r.stage = none) :
      b.hasFailed n = false := by
    rw [Browser.hasFailed, (run?_eq_some hrun).1]
    show (failed? r.stage).isSome = false
    rw [hs]
    rfl
  have hstage {β : Type} {stage : Stage → Option β} (h : (b.oldest? stage).map (·.1) = some n)
      (hs : ∀ s, (stage s).isSome → failed? s = none) : b.hasFailed n = false := by
    obtain ⟨r, o, a, -, hrun, ha⟩ := exists_of_oldest? h
    exact hwaits hrun (hs r.stage (Option.isSome_of_eq_some ha))
  cases h with
  | answered _ h => exact hstage h fun s hs => by cases s <;> first | rfl | cases hs
  | received _ h => exact hstage h fun s hs => by cases s <;> first | rfl | cases hs
  | read h => exact hstage h fun s hs => by cases s <;> first | rfl | cases hs
  | broken _ h => exact hstage h fun s hs => by cases s <;> first | rfl | cases hs
  | aborted hrun hs => exact hwaits hrun (by rw [hs]; rfl)

/-! ### Beginning -/

theorem asks_setStage (n : Nat) (s : Stage) (b : Browser) :
    ((setStage n s).run b).2.asks n = ((b.course? n).isSome && (asking? s).isSome) := by
  rw [asks, course?_setStage, if_pos rfl]
  cases b.course? n <;> rfl

/-- A run that failed at once asks nobody. -/
theorem asks_failRun (r : Run) (o : Offer) (failure : Failure) (b : Browser) :
    ((failRun n r o failure).run b).2.asks n = false := by
  rw [asks, course?_failRun, if_pos rfl]
  cases b.course? n <;> rfl

/-- A run that asks the platform leaves the document to do so. -/
theorem askPlatform_asks (h : ((askPlatform n r o).run b).2.asks n = true) :
    ((askPlatform n r o).run b).2.document = b.document ∧
      ((askPlatform n r o).run b).2.config? = b.config? := by
  rw [askPlatform] at h ⊢
  split at h
  · rw [asks_failRun] at h
    cases h
  · next options _ =>
    have hcalled : Stays Unmoved
        (log .platform .debug ("Calling navigator.credentials." ++ operationName o.ceremony.mode) []
          >>= fun _ => record (.credentials o.ceremony.mode options)) :=
      stays_bind isFrame_unmoved (stays_log isFrame_unmoved _ _ _ _) fun _ =>
        stays_record isFrame_unmoved _
    have hb := hcalled b
    rw [← bind_assoc, run_seq] at h ⊢
    generalize (StateT.run (log .platform _ _ _ >>= fun _ => record _) b).2 = b₁ at h hb ⊢
    rw [StateT.run_bind, StateT.run_get, pure_bind] at h ⊢
    dsimp only at h ⊢
    split at h
    · rw [asks_failRun] at h
      cases h
    · next hcredentials =>
      rw [if_neg hcredentials]
      exact ⟨hb.document, (config?_setStage n .asking b₁).trans hb.config⟩

/-- The settings stay whatever happens to the document. -/
theorem isFrame_config : IsFrame (fun b b' => b'.config? = b.config?) (fun _ _ => True) where
  refl _ := rfl
  trans h h' := h'.trans h
  calls _ _ _ := rfl
  change := by
    intro n operation _ b
    have hrun : change n operation b = (change n operation).run b := rfl
    rw [← hrun, change]
    split
    · rfl
    · split <;> rfl

theorem exists_of_config? (h : b.config? n = some config) :
    ∃ r o, b.run? n = some (r, o) ∧ o.config = config := by
  obtain ⟨r, hr, hrest⟩ := Option.bind_eq_some_iff.mp h
  obtain ⟨o, ho, rfl⟩ := Option.map_eq_some_iff.mp hrest
  refine ⟨r, o, ?_, rfl⟩
  rw [run?, hr, Option.bind_some, ho]
  rfl

/-- How a run begins once it is known what it is called. -/
def starting (n : Nat) (r : Run) (o : Offer) : StateM Browser Unit := do
  let (goesOn, c) ← o.ceremony.start (page o.config)
  setCeremony r.ceremony c
  if goesOn then askPlatform n r { o with ceremony := c }
  else setStage n (.done .ignored)

theorem run_beginRun (hrun : b.run? n = some (r, o)) :
    ∃ r' b₁, Unmoved b b₁ ∧ b₁.surroundings = b.surroundings ∧
      ((beginRun n).run b).2 = { ((starting n r' o).run b₁).2 with span := none } := by
  have hconfig (named : Bool) :
      config? { b with runs := b.runs.modify n fun r => { r with named } } = b.config? := by
    funext m
    show ((b.runs.modify n _)[m]?).bind _ = _
    rw [List.getElem?_modify, config?]
    cases b.runs[m]? with
    | none => rfl
    | some r =>
      show Option.map _ (b.offers[(if n = m then { r with named } else r).ceremony]?) = _
      split <;> rfl
  let named := b.shows .ceremony .info
  refine ⟨{ r with named }, { b with
    runs := b.runs.modify n fun r => { r with named }
    span := if named then some o.ceremony.mode else none },
    ⟨rfl, course?_named n named b, hconfig named⟩, rfl, ?_⟩
  rw [beginRun, StateT.run_bind, StateT.run_get, pure_bind]
  dsimp only
  rw [hrun]
  rfl

/-- A run that asks the platform has taken the trigger, and every other element stands as it
did. -/
theorem starting_asks (hmark : Marks o.config) (hb : b.document.WellNumbered)
    (hobeys : b.document.TriggerObeys o.config) (hset : b.hasSetAttribute = true)
    (hasks : ((starting n r o).run b).2.asks n = true) :
    b.document.Restood (o.config.text .busyClass) (b.document.triggerNumber? o.config) (true, true)
        ((starting n r o).run b).2.document ∧
      ((starting n r o).run b).2.document.WellNumbered ∧
      ((starting n r o).run b).2.config? = b.config? := by
  have hgoes : ((o.ceremony.start (page o.config)).run b).1.1 = !o.ceremony.inFlight := by
    rw [Ceremony.start]
    cases o.ceremony.inFlight <;> rfl
  have hconfig := stays_start isFrame_config (mayServe_true o.config) o.ceremony b
  have htaken := restood_start hmark hb hobeys hset (c := o.ceremony)
  rw [starting, run_then] at hasks ⊢
  generalize (o.ceremony.start (page o.config)).run b = started at hasks hgoes hconfig htaken ⊢
  obtain ⟨⟨goesOn, c⟩, b₁⟩ := started
  dsimp only at hasks hgoes hconfig htaken ⊢
  subst hgoes
  rw [run_seq] at hasks ⊢
  cases hfree : o.ceremony.inFlight with
  | true =>
    rw [hfree, if_neg (by decide), asks_setStage, Bool.and_eq_true] at hasks
    cases hasks.2
  | false =>
    obtain ⟨hrestood, hb₁⟩ := htaken hfree
    have hasked : (!o.ceremony.inFlight) = true := by rw [hfree]; rfl
    rw [if_pos hasked] at hasks
    rw [← hfree, if_pos hasked]
    obtain ⟨hdocument, hsame⟩ := askPlatform_asks hasks
    have hplaced := unmoved_setCeremony r.ceremony c b₁
    rw [hplaced.document] at hdocument
    rw [hplaced.config, hconfig] at hsame
    rw [← hdocument] at hrestood hb₁
    exact ⟨hrestood, hb₁, hsame⟩

/-- **A run that begins** takes the trigger, and every other element stands as it did. -/
theorem Begins.restood (h : Begins n config b b') (hmark : Marks config)
    (hb : b.document.WellNumbered) (hobeys : b.document.TriggerObeys config)
    (hset : b.hasSetAttribute = true) :
    b.document.Restood (config.text .busyClass) (b.document.triggerNumber? config) (true, true)
        b'.document ∧
      b'.document.WellNumbered ∧ b'.config? n = some config := by
  obtain ⟨hconfig, rfl, hasks⟩ := h
  obtain ⟨r, o, hrun, rfl⟩ := exists_of_config? hconfig
  obtain ⟨r', b₁, hunmoved, hsurroundings, hbegun⟩ := run_beginRun hrun
  have hset₁ : b₁.hasSetAttribute = true := by
    rw [hasSetAttribute, lacks, lacks, hsurroundings]
    exact hset
  rw [← hunmoved.document] at hb hobeys ⊢
  rw [hbegun] at hasks ⊢
  obtain ⟨hrestood, hb', hsame⟩ := starting_asks hmark hb hobeys hset₁ hasks
  refine ⟨hrestood, hb', ?_⟩
  show ((starting n r' o).run b₁).2.config? n = _
  rw [hsame, hunmoved.config, hconfig]

/-! ### From the beginning to the end -/

/-- The document may change in whatever way leaves a button as it stands. -/
theorem elsewhere_edit {d : Document} (hd : b.document.WellNumbered → d.WellNumbered)
    (hstands : ∀ e' ∈ d.elements, e'.number = m → ∃ e ∈ b.document.elements, e.number = m ∧
      e'.standing mark = e.standing mark) :
    Elsewhere n m mark b { b with document := d } :=
  ⟨rfl, rfl, hd, hstands⟩

/-- **While a run is under way** it leaves its button as it stands. -/
theorem Meanwhile.stood (h : Meanwhile n m (config.text .busyClass) b b') (hmark : Marks config)
    (hb : b.document.WellNumbered) (hconfig : b.config? n = some config)
    (hgoes : b'.hasFailed n = false) :
    b'.document.WellNumbered ∧ b'.config? n = some config ∧
      ∀ e' ∈ b'.document.elements, e'.number = m → ∃ e ∈ b.document.elements, e.number = m ∧
        e'.standing (config.text .busyClass) = e.standing (config.text .busyClass) := by
  induction h with
  | refl => exact ⟨hb, hconfig, fun e he hn => ⟨e, he, hn, rfl⟩⟩
  | piece _ hp ih =>
    obtain ⟨hb', hconfig', hstood⟩ := ih hp.hasFailed
    rcases hp.effect hmark hconfig' with ⟨-, hdocument, hsame⟩ | ⟨hfailed, -⟩
    · rw [hdocument, hsame]
      exact ⟨hb', hconfig', hstood⟩
    · rw [hfailed] at hgoes
      cases hgoes
  | elsewhere _ he ih =>
    rw [hasFailed, he.course] at hgoes
    obtain ⟨hb', hconfig', hstood⟩ := ih hgoes
    refine ⟨he.numbered hb', he.config.trans hconfig', fun e'' he'' hn => ?_⟩
    obtain ⟨e', he', hn', hsame⟩ := he.standing e'' he'' hn
    obtain ⟨e, he, hn, hstanding⟩ := hstood e' he' hn'
    exact ⟨e, he, hn, hsame.trans hstanding⟩

/-- **A run that fails hands back the trigger of that moment.**  When it began it took the
trigger of that moment and changed how no other element stands; up to its end it left the
document as it was, and at its end it changed at most how the trigger stands.  So the button
that it took is handed back if it is the trigger when the run fails, and it stays disabled
and marked if it is not. -/
theorem run_hands_back_trigger {b₀ b₁ b₂ b₃ : Browser} (h : Attempt n m config b₀ b₁ b₂ b₃) :
    b₀.document.Restood (config.text .busyClass) (some m) (true, true) b₁.document ∧
    (∀ b b', b.config? n = some config → Piece n b b' → b'.hasFailed n = false →
      b'.document = b.document) ∧
    b₂.document.Restood (config.text .busyClass) (b₃.document.triggerNumber? config)
      (false, false) b₃.document ∧
    ∀ e ∈ b₃.document.elements, e.number = m → e.standing (config.text .busyClass)
      = if b₃.document.triggerNumber? config = some m then (false, false) else (true, true) := by
  obtain ⟨htaken, hb₁, hconfig₁⟩ := h.begins.restood h.marks h.numbered h.obeys h.settable
  rw [h.taken] at htaken
  obtain ⟨hb₂, hconfig₂, hstood⟩ := h.meanwhile.stood h.marks hb₁ hconfig₁ h.ends.hasFailed
  have hended : b₂.document.Restood (config.text .busyClass)
      (b₃.document.triggerNumber? config) (false, false) b₃.document := by
    rcases h.ends.effect h.marks hconfig₂ with ⟨hgoes, -⟩ | ⟨-, hfreed⟩
    · rw [h.failed] at hgoes
      cases hgoes
    · exact hfreed hb₂ h.obeys'
  refine ⟨htaken, fun b b' hconfig hp hgoes => ?_, hended, fun e₃ he₃ hn₃ => ?_⟩
  · rcases hp.effect h.marks hconfig with ⟨-, hdocument, -⟩ | ⟨hfailed, -⟩
    · exact hdocument
    · rw [hfailed] at hgoes
      cases hgoes
  · obtain ⟨e₂, he₂, hn₂, hstanding₃⟩ := hended e₃ he₃
    obtain ⟨e₁, he₁, hn₁, hstanding₂⟩ := hstood e₂ he₂ (hn₂.trans hn₃)
    obtain ⟨e₀, -, -, hstanding₁⟩ := htaken e₁ he₁
    rw [if_pos (by rw [hn₁])] at hstanding₁
    rw [hstanding₃, hn₃, hstanding₂, hstanding₁]

end Pieces

/-! ### A button that comes meanwhile -/

/-- A click on the trigger was heard, and its run is about to begin. -/
def heardClick : Browser :=
  let loaded :=
    (fresh goodSurroundings authenticationPage .undefined 0).happen (.step none .refresh)
  { ((act (.event (.number 1) "click" none .undefined)).run loaded).2 with tasks := [] }

/-- The settings of that run. -/
def heardConfig : Config :=
  (heardClick.config? 0).getD Config.default

/-- The run asks the platform. -/
def atPlatform : Browser :=
  ((beginRun 0).run heardClick).2

/-- An element comes to the page. -/
def joinedBy (e : Element) : Browser :=
  { atPlatform with document := atPlatform.document.insert none (.tree e .empty .empty) }

/-- The platform refuses. -/
def refusedAfter (e : Element) : Browser :=
  ((answerPlatform (.error .undefined)).run (joinedBy e)).2

/-- The run begins as it should. -/
theorem begins_atPlatform :
    Marks heardConfig ∧ heardClick.document.WellNumbered ∧ heardClick.hasSetAttribute = true ∧
      Begins 0 heardConfig heardClick atPlatform ∧
      heardClick.document.triggerNumber? heardConfig = some 1 ∧
      heardClick.document.TriggerObeys heardConfig := by
  have hchecked : Marks heardConfig ∧ heardClick.document.WellNumbered ∧
      heardClick.hasSetAttribute = true ∧ (heardClick.config? 0).isSome = true ∧
      atPlatform.asks 0 = true ∧ heardClick.document.triggerNumber? heardConfig = some 1 ∧
      heardClick.document.TriggerObeys heardConfig := by decide +kernel
  obtain ⟨hmarks, hnumbered, hset, hsome, hasks, htaken, hobeys⟩ := hchecked
  have hconfig : heardClick.config? 0 = some heardConfig := by
    rw [heardConfig]
    cases hfound : heardClick.config? 0 with
    | none =>
      rw [hfound] at hsome
      cases hsome
    | some config => rfl
  exact ⟨hmarks, hnumbered, hset, ⟨hconfig, rfl, hasks⟩, htaken, hobeys⟩

/-- The run fails with an element on the page that came meanwhile. -/
theorem attempt_joined {e : Element}
    (h : (joinedBy e).document.WellNumbered ∧
      (∀ e' ∈ (joinedBy e).document.elements, e'.number = 1 →
        ∃ e ∈ atPlatform.document.elements, e.number = 1 ∧
          e'.standing (heardConfig.text .busyClass) = e.standing (heardConfig.text .busyClass)) ∧
      ((joinedBy e).oldest? asking?).map (·.1) = some 0 ∧
      (refusedAfter e).hasFailed 0 = true ∧
      (refusedAfter e).document.TriggerObeys heardConfig) :
    Attempt 0 1 heardConfig heardClick atPlatform (joinedBy e) (refusedAfter e) := by
  obtain ⟨hmarks, hnumbered, hset, hbegins, htaken, hobeys⟩ := begins_atPlatform
  obtain ⟨hnumbered', hstands, hasks, hfailed, hobeys'⟩ := h
  exact ⟨hmarks, hnumbered, hset, hbegins, htaken, hobeys,
    .elsewhere .refl (elsewhere_edit (fun _ => hnumbered') hstands), .answered _ hasks, hfailed,
    hobeys'⟩

/-- A button is handed back when a paragraph came meanwhile. -/
theorem run_hands_back_trigger_joined :
    let e : Element := ⟨0, "p", [], [], "", "", false, [], []⟩
    Attempt 0 1 heardConfig heardClick atPlatform (joinedBy e) (refusedAfter e) ∧
      ∀ e' ∈ (refusedAfter e).document.elements, e'.number = 1 →
        e'.standing (heardConfig.text .busyClass) = (false, false) := by
  intro e
  have hattempt : Attempt 0 1 heardConfig heardClick atPlatform (joinedBy e) (refusedAfter e) :=
    attempt_joined (by decide +kernel)
  have htrigger : (refusedAfter e).document.triggerNumber? heardConfig = some 1 := by
    decide +kernel
  obtain ⟨-, -, -, hback⟩ := run_hands_back_trigger hattempt
  rw [htrigger] at hback
  exact ⟨hattempt, fun e' he' hn => (hback e' he' hn).trans (if_pos rfl)⟩

/-- **A run can hand back another button**: the button of a registration came meanwhile, and it
is the trigger when the run fails, so the button that the run took stays disabled and marked. -/
theorem misplaced_handback :
    ¬ ∀ (n m : Nat) (config : Config) (b₀ b₁ b₂ b₃ : Browser), Attempt n m config b₀ b₁ b₂ b₃ →
      ∀ e ∈ b₃.document.tree.elements, e.number = m →
        e.standing (config.text .busyClass) = (false, false) := by
  intro hall
  have hattempt : Attempt 0 1 heardConfig heardClick atPlatform (joinedBy (buttonOf .registration))
      (refusedAfter (buttonOf .registration)) := attempt_joined (by decide +kernel)
  have hfreed := hall _ _ _ _ _ _ _ hattempt
  revert hfreed
  decide +kernel

end Passkey.Browser
