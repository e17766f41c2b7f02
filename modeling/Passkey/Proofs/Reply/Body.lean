/-
Passkey/Proofs/Reply/Body.lean

What the body of a response says.

A body that is the text of an object is read as a reply exactly if its members
say one (`Says`), and a body that is no JSON text at all is never read.  What the
members say depends neither on their order nor on members of other names
(`SameParts`), and the status of the response is not looked at.  A reply is
followed exactly if it says success and a redirect with a character that is not
blank.

JSON lets an escape name half a surrogate pair, and no text is denoted then.  A
value that nobody asked for may do so, for it is not decoded; a name may not,
even if nobody asked for it (`half_pair_refused`).
-/
import Mathlib.Data.Bool.AllAny
import Passkey.Browser.Submission
import Passkey.Ceremony
import Passkey.Proofs.Reply.Drafting
import Passkey.Proofs.Text.Trim

namespace Passkey.Reply

open Json Outcome

/-! ### Order and other members -/

section Order

variable {α : Type} {ms ms' known others others' : List Entry} {name : String}
  {means : List Char → α → Prop} {nothing a : α} {r : Reply}

theorem Absent.perm (h : Absent ms name) (hperm : ms.Perm ms') : Absent ms' name :=
  fun m hm => h m (hperm.mem_iff.mpr hm)

theorem absent_append_iff :
    Absent (known ++ others) name ↔ Absent known name ∧ Absent others name :=
  List.forall_mem_append

/-- It does not matter where the only member of a name stands. -/
theorem said_iff_perm :
    Said ms name means nothing a
      ↔ (Absent ms name ∧ a = nothing)
        ∨ ∃ m others, ms.Perm (m :: others) ∧ Absent others name ∧ Named m name ∧
            means m.value a := by
  apply or_congr_right
  constructor
  · rintro ⟨before, m, after, rfl, hbefore, hafter, hm, ha⟩
    exact ⟨m, before ++ after, List.perm_middle, absent_append_iff.mpr ⟨hbefore, hafter⟩, hm, ha⟩
  · rintro ⟨m, others, hperm, habsent, hm, ha⟩
    obtain ⟨before, after, rfl⟩ := List.append_of_mem (hperm.mem_iff.mpr List.mem_cons_self)
    have hothers : (before ++ after).Perm others := (List.perm_middle.symm.trans hperm).cons_inv
    obtain ⟨hbefore, hafter⟩ := absent_append_iff.mp (habsent.perm hothers.symm)
    exact ⟨before, m, after, rfl, hbefore, hafter, hm, ha⟩

/-- What is said does not depend on the order of the members. -/
theorem Said.perm (h : Said ms name means nothing a) (hperm : ms.Perm ms') :
    Said ms' name means nothing a := by
  rw [said_iff_perm] at h ⊢
  rcases h with ⟨habsent, ha⟩ | ⟨m, others, hms, h⟩
  · exact .inl ⟨habsent.perm hperm, ha⟩
  · exact .inr ⟨m, others, hperm.symm.trans hms, h⟩

/-- What is said under a name does not depend on members of other names. -/
theorem said_append_iff (hothers : Absent others name) :
    Said (known ++ others) name means nothing a ↔ Said known name means nothing a := by
  rw [said_iff_perm, said_iff_perm]
  constructor
  · rintro (⟨habsent, ha⟩ | ⟨m, rest, hperm, habsent, hm, ha⟩)
    · exact .inl ⟨(absent_append_iff.mp habsent).1, ha⟩
    -- the only member of the name is none of the others
    rcases List.mem_append.mp (hperm.mem_iff.mpr List.mem_cons_self) with hknown | hother
    · obtain ⟨before, after, rfl⟩ := List.append_of_mem hknown
      have hmiddle : (m :: (before ++ after ++ others)).Perm (m :: rest) :=
        (List.perm_middle.symm.append_right others).trans hperm
      have hrest := habsent.perm hmiddle.cons_inv.symm
      exact .inr ⟨m, before ++ after, List.perm_middle, (absent_append_iff.mp hrest).1, hm, ha⟩
    · exact absurd hm (hothers m hother)
  · rintro (⟨habsent, ha⟩ | ⟨m, rest, hperm, habsent, h⟩)
    · exact .inl ⟨absent_append_iff.mpr ⟨habsent, hothers⟩, ha⟩
    · exact .inr ⟨m, rest ++ others, hperm.append_right others,
        absent_append_iff.mpr ⟨habsent, hothers⟩, h⟩

/-- The name of a member is none that a reply has a part for. -/
def Foreign (m : Entry) : Prop :=
  ∃ name, Named m name ∧ name ∉ ["success", "redirect", "error"]

/-- Members that differ in their order and in foreign ones only. -/
def SameParts (ms ms' : List Entry) : Prop :=
  ∃ known others others', ms.Perm (known ++ others) ∧ ms'.Perm (known ++ others') ∧
    (∀ m ∈ others, Foreign m) ∧ ∀ m ∈ others', Foreign m

theorem SameParts.symm (h : SameParts ms ms') : SameParts ms' ms := by
  obtain ⟨known, others, others', hms, hms', hothers, hothers'⟩ := h
  exact ⟨known, others', others, hms', hms, hothers', hothers⟩

theorem absent_of_named (h : ∀ m ∈ ms, ∃ name', Named m name' ∧ name' ≠ name) : Absent ms name := by
  intro m hm hnamed
  obtain ⟨name', hname', hne⟩ := h m hm
  exact hne (hname'.unique hnamed)

theorem absent_of_foreign (h : ∀ m ∈ others, Foreign m)
    (hname : name ∈ ["success", "redirect", "error"]) : Absent others name := by
  refine absent_of_named fun m hm => ?_
  obtain ⟨name', hname', hne⟩ := h m hm
  exact ⟨name', hname', fun heq => hne (heq ▸ hname)⟩

/-- **What members say depends on their parts only.** -/
theorem Says.sameParts (hs : Says ms r) (h : SameParts ms ms') : Says ms' r := by
  obtain ⟨known, others, others', hms, hms', hothers, hothers'⟩ := h
  have part {α : Type} {name : String} {means : List Char → α → Prop} {nothing a : α}
      (hname : name ∈ ["success", "redirect", "error"]) (hsaid : Said ms name means nothing a) :
      Said ms' name means nothing a := by
    have hknown := (said_append_iff (absent_of_foreign hothers hname)).mp (hsaid.perm hms)
    exact ((said_append_iff (absent_of_foreign hothers' hname)).mpr hknown).perm hms'.symm
  refine ⟨?_, part (by decide) hs.success, part (by decide) hs.redirect, part (by decide) hs.error⟩
  intro m hm
  rcases List.mem_append.mp (hms'.mem_iff.mp hm) with hm | hm
  · exact hs.named m (hms.mem_iff.mpr (List.mem_append_left _ hm))
  · obtain ⟨name, hname, -⟩ := hothers' m hm
    exact ⟨name, hname⟩

end Order

/-! ### Reading a body -/

section Reading

variable {cs rest : List Char} {ms : List Entry} {d : Draft} {r : Reply}

/-- From here on items of an array follow, and its closer before the rest. -/
def ItemsFollow (first : Bool) (cs rest : List Char) : Prop :=
  ∃ es ds, Container.array.IsItems first es ds ∧ (∀ e ∈ es, IsValue e.value) ∧
    cs = ds ++ ']' :: rest

section Arrays

variable {α : Type} {reader : Reader α} {means : List Char → α → Prop} {first : Bool}
  {left : Tail cs}

theorem readOptionalItem_eq_none (h : readOptionalItem first reader cs = .ok (none, left)) :
    left.val = cs ∧ ∃ ws rest, AllSpace ws ∧ cs = ws ++ ']' :: rest := by
  rw [readOptionalItem] at h
  split at h
  · cases h
  next hnext =>
    cases h
    exact ⟨rfl, nextItem_eq_none hnext⟩
  · obtain ⟨p, -, heq⟩ := map_eq_ok_iff.mp h
    cases heq

/-- Where the array ends no item is read, whether or not it would be the first one. -/
theorem readOptionalItem_closer {a : Option α}
    (hclose : ∃ ws rest, AllSpace ws ∧ cs = ws ++ ']' :: rest)
    (h : readOptionalItem first reader cs = .ok (a, left)) : left.val = cs := by
  obtain ⟨ws, rest, hws, rfl⟩ := hclose
  rw [readOptionalItem, nextItem_closer hws] at h
  cases h
  rfl

theorem ItemsFollow.of_some {a : α} (ht : Takes reader means)
    (h : readOptionalItem first reader cs = .ok (some a, left))
    (hleft : ItemsFollow false left.val rest) : ItemsFollow first cs rest := by
  rw [readOptionalItem] at h
  split at h
  · cases h
  · cases h
  next start hnext =>
    obtain ⟨p, hp, heq⟩ := map_eq_ok_iff.mp h
    cases heq
    obtain ⟨es, ds, hitems, hvalues, hds⟩ := hleft
    obtain ⟨ws, ws', hws, hws', hcs⟩ := nextItem_eq_some hnext
    obtain ⟨front, v, hfront, hv, -, hstart⟩ := ht.value ⟨p.shorter, hp⟩
    have hentries : ∀ e ∈ ⟨[], v⟩ :: es, IsValue e.value := List.forall_mem_cons.mpr ⟨hv, hvalues⟩
    dsimp only at hds
    rw [hds] at hstart
    cases first
    · refine ⟨_, _, .comma hws .array (hws'.append hfront) hitems, hentries, ?_⟩
      simpa [hstart] using hcs
    · refine ⟨_, _, .first .array ((hws.append hws').append hfront) hitems, hentries, ?_⟩
      simpa [hstart] using hcs

theorem ItemsFollow.of_item {a : Option α} (ht : Takes reader means)
    (h : readOptionalItem false reader cs = .ok (a, left))
    (hleft : ItemsFollow false left.val rest) : ItemsFollow false cs rest := by
  rcases a with - | a
  · rwa [(readOptionalItem_eq_none h).1] at hleft
  · exact .of_some ht h hleft

theorem itemsFollow_of_closeArray {p : Parsed Unit cs} (h : closeArray cs = .ok p) (first : Bool) :
    ItemsFollow first cs p.rest := by
  obtain ⟨ws, hws, hcs⟩ := exists_of_closeArray ⟨p.shorter, h⟩
  exact ⟨[], ws, .nil hws, fun _ he => absurd he List.not_mem_nil, hcs⟩

end Arrays

/-- What was read as a reply behind an opening bracket is an array of values. -/
theorem itemsFollow_of_readArray (h : Reads readArray cs r rest) : ItemsFollow true cs rest := by
  obtain ⟨hlt, h⟩ := h
  rw [readArray] at h
  split at h
  · cases h
  next success r₁ hsuccess =>
    split at h
    · cases h
    next redirect r₂ hredirect =>
      split at h
      · cases h
      next error r₃ herror =>
        obtain ⟨p, hp, heq⟩ := map_eq_ok_iff.mp h
        cases heq
        rcases success with - | success
        · -- the array is empty, and nothing is taken up to its closer
          obtain ⟨hr₁, hclose⟩ := readOptionalItem_eq_none hsuccess
          have hr₂ := readOptionalItem_closer (by rwa [hr₁]) hredirect
          have hr₃ := readOptionalItem_closer (by rwa [hr₂, hr₁]) herror
          have hfollow := itemsFollow_of_closeArray hp true
          simpa only [hr₃, hr₂, hr₁] using hfollow
        · have hfollow := itemsFollow_of_closeArray hp false
          exact .of_some takes_readBool hsuccess
            (.of_item takes_readNullable hredirect (.of_item takes_readNullable herror hfollow))

/-- **A reply was read from an object whose members say it**, or from an array. -/
theorem exists_of_read (h : Reads Reply.read cs r rest) :
    ∃ front k es ds, AllSpace front ∧ Container.IsItems k true es ds ∧ (∀ e ∈ es, IsValue e.value) ∧
      cs = front ++ k.opener :: (ds ++ k.closer :: rest) ∧ (k = .object → Says es r) := by
  obtain ⟨hlt, h⟩ := h
  rw [Reply.read.eq_def] at h
  split at h
  · cases h
  next c left hspace =>
    obtain ⟨-, ws, hws, rfl⟩ := skipSpace_eq_cons_iff.mp hspace
    dsimp only at h
    split at h
    · obtain ⟨p, hp, heq⟩ := map_eq_ok_iff.mp h
      cases heq
      obtain ⟨es, ds, hitems, hvalues, hleft⟩ := itemsFollow_of_readArray ⟨p.shorter, hp⟩
      refine ⟨ws, .array, es, ds, hws, hitems, hvalues, congrArg (ws ++ '[' :: ·) hleft, ?_⟩
      intro hk
      cases hk
    · obtain ⟨p, hp, heq⟩ := map_eq_ok_iff.mp h
      cases heq
      obtain ⟨ms, ds, hitems, hvalues, hgathered, hleft⟩ :=
        gathers_readMember.items ⟨p.shorter, hp⟩
      exact ⟨ws, .object, ms, ds, hws, hitems, hvalues, congrArg (ws ++ '{' :: ·) hleft,
        fun _ => gathered_iff_says.mp ⟨_, hgathered, rfl⟩⟩
    · exact absurd h refuseKind_ne_ok

theorem reads_read {front ds : List Char} (hfront : AllSpace front)
    (hitems : Container.object.IsItems true ms ds) (hvalues : ∀ m ∈ ms, IsValue m.value)
    (h : Gathered Draft.Adds .blank ms d) (rest : List Char) :
    Reads Reply.read (front ++ '{' :: (ds ++ '}' :: rest)) d.finish rest := by
  have hspace : skipSpace (front ++ '{' :: (ds ++ '}' :: rest)) = '{' :: (ds ++ '}' :: rest) :=
    skipSpace_of_eq hfront rfl _
  obtain ⟨hlt, hfold⟩ := gathers_readMember.reads_items hitems hvalues h rest
  refine ⟨Nat.lt_trans hlt (lt_of_skipSpace hspace), ?_⟩
  rw [Reply.read.eq_def]
  split
  next h => cases h.symm.trans hspace
  next h =>
    cases h.symm.trans hspace
    dsimp only
    rw [hfold]
    rfl

theorem parse_eq_ok_iff {body : String} :
    Reply.parse body = .ok r ↔ ∃ rest, Reads Reply.read body.toList r rest ∧ AllSpace rest :=
  readAll_eq_ok_iff

/-- **A body that was read is JSON text.** -/
theorem isText_of_parse {body : String} (h : Reply.parse body = .ok r) : IsText body.toList := by
  obtain ⟨rest, hread, hrest⟩ := parse_eq_ok_iff.mp h
  obtain ⟨front, k, es, ds, hfront, hitems, hvalues, hcs, -⟩ := exists_of_read hread
  refine ⟨front, _, rest, hfront, .container hitems hvalues, hrest, ?_⟩
  rw [hcs]
  simp

/-- **The text of an object is read as what its members say.** -/
theorem parse_object_iff {body : String} (h : IsObject ms body.toList) :
    Reply.parse body = .ok r ↔ Says ms r := by
  rw [parse_eq_ok_iff]
  constructor
  · rintro ⟨rest, hread, hrest⟩
    obtain ⟨front, k, es, ds, hfront, hitems, hvalues, hcs, hsays⟩ := exists_of_read hread
    cases k with
    | array =>
      -- an object does not start like an array
      obtain ⟨front', ds', back, hfront', -, -, -, hcs'⟩ := h
      have hopener := eq_of_space hfront hfront' rfl rfl (hcs.symm.trans hcs')
      exact absurd hopener.1 (by decide)
    | object =>
      have hobject : IsObject es body.toList :=
        ⟨front, ds, rest, hfront, hitems, hvalues, hrest, hcs⟩
      rw [h.unique hobject]
      exact hsays rfl
  · intro hsays
    obtain ⟨front, ds, back, hfront, hitems, hvalues, hback, hcs⟩ := h
    obtain ⟨d, hgathered, rfl⟩ := gathered_iff_says.mpr hsays
    refine ⟨back, ?_, hback⟩
    rw [hcs]
    exact reads_read hfront hitems hvalues hgathered back

end Reading

end Passkey.Reply

namespace Passkey.Browser

open Json Outcome Reply Text

/-! ### Responses -/

section Responses

variable {status : Nat} {body : String} {r : Reply}

/-- The answer is a failure of the transport without a name. -/
def IsNameless (answer : Except Failure Reply) : Prop :=
  ∃ message, answer = .error (.transport none message) ∧
    (Failure.transport none message).key = Failure.unknownKey

theorem reply_eq_ok_iff : Response.reply ⟨status, .ok body⟩ = .ok r ↔ Reply.parse body = .ok r :=
  mapError_eq_ok_iff

theorem isNameless_reply (h : ∀ r, Reply.parse body ≠ .ok r) :
    IsNameless (Response.reply ⟨status, .ok body⟩) := by
  rcases hparse : Reply.parse body with f | r
  · rw [IsNameless, Response.reply]
    dsimp only
    rw [hparse]
    exact ⟨_, rfl, rfl⟩
  · exact absurd hparse (h r)

/-- **A run is redirected** exactly if it is answered with success and somewhere to go. -/
theorem conclude_redirected_iff {σ : Type} (page : Page σ) (c : Ceremony) (location : String)
    (answer : Except Failure Reply) (s : σ) :
    (∃ target, ((c.conclude page location answer).run s).1.1 = .redirected target)
      ↔ ∃ r redirect, answer = .ok r ∧ r.success = true ∧ r.redirect = some redirect ∧
          ¬ AllBlank redirect.toList := by
  rcases hv : answer.bind (Ceremony.verdict location) with failure | target
  · have hfail : ((c.conclude page location answer).run s).1.1 = .failed failure := by
      rw [Ceremony.conclude, hv]
      rfl
    rw [hfail]
    constructor
    · nofun
    · rintro ⟨r, redirect, rfl, hsuccess, hredirect, hblank⟩
      have htarget : r.target? = some (trim redirect) :=
        target?_eq_some_iff.mpr ⟨hsuccess, redirect, hredirect, mt trim_eq_empty_iff.mp hblank, rfl⟩
      have hok : Ceremony.verdict location r = .ok (Url.resolve location (trim redirect)) :=
        Ceremony.verdict_eq_ok_iff.mpr ⟨_, htarget, rfl⟩
      cases hok.symm.trans hv
  · have haccept : ((c.conclude page location answer).run s).1.1 = .redirected target := by
      rw [Ceremony.conclude, hv]
      rfl
    obtain ⟨r, rfl, hverdict⟩ := bind_eq_ok_iff.mp hv
    obtain ⟨t, htarget, -⟩ := Ceremony.verdict_eq_ok_iff.mp hverdict
    obtain ⟨hsuccess, redirect, hredirect, hblank, -⟩ := target?_eq_some_iff.mp htarget
    exact ⟨fun _ => ⟨r, redirect, rfl, hsuccess, hredirect, mt trim_eq_empty_iff.mpr hblank⟩,
      fun _ => ⟨target, haccept⟩⟩

end Responses

/-! ### Two bodies -/

/-- A body with given members. -/
def bodyOf (ms : List Json.Entry) : String :=
  String.ofList (objectOf ms)

/-- The member that says where to go. -/
def goingEntry : Json.Entry := ⟨"redirect".toList, "\"/done\"".toList⟩

/-- The member that says success. -/
def acceptingEntry : Json.Entry := ⟨"success".toList, "true".toList⟩

/-- A foreign member. -/
def extraEntry : Json.Entry := ⟨"extra".toList, "[]".toList⟩

/-- A member whose name is half a surrogate pair. -/
def halfPairEntry : Json.Entry := ⟨"\\ud800".toList, "1".toList⟩

example : bodyOf [goingEntry, extraEntry, acceptingEntry]
    = "\x7b\"redirect\":\"/done\",\"extra\":[],\"success\":true\x7d" := by decide

section Bodies

variable {ms : List Json.Entry} {m : Json.Entry}

theorem isObject_bodyOf (h : ∀ m ∈ ms, IsBody m.name) (hvalues : ∀ m ∈ ms, IsValue m.value) :
    IsObject ms (bodyOf ms).toList := by
  rw [bodyOf, String.toList_ofList]
  exact isObject_objectOf h hvalues

theorem named_goingEntry : Named goingEntry "redirect" :=
  denotes_self (List.all_iff_forall_prop.mp (by decide))

theorem named_acceptingEntry : Named acceptingEntry "success" :=
  denotes_self (List.all_iff_forall_prop.mp (by decide))

theorem named_extraEntry : Named extraEntry "extra" :=
  denotes_self (List.all_iff_forall_prop.mp (by decide))

theorem isValue_extraEntry : IsValue extraEntry.value :=
  .container (k := .array) (.nil allSpace_nil) nofun

theorem isString_goingEntry : IsString goingEntry.value "/done" :=
  ⟨"/done".toList, denotes_self (List.all_iff_forall_prop.mp (by decide)), by decide⟩

theorem isBody_halfPairEntry : IsBody halfPairEntry.name := by
  have hbody : IsBody ('\\' :: (['u', 'd', '8', '0', '0'] ++ [])) :=
    .escape (.code (n := 0xD800) (by decide)) .nil
  exact hbody

/-- No text is denoted by half a surrogate pair. -/
theorem not_named_halfPairEntry (name : String) : ¬ Named halfPairEntry name := by
  intro h
  have hscan : scanString ('\\' :: ['u', 'd', '8', '0', '0', '"']) = .ok (name.toList, []) :=
    scanString_eq_ok_iff.mpr ⟨_, h, rfl⟩
  -- behind the first half a backslash is due
  have hescape : ∃ f, scanEscape ['u', 'd', '8', '0', '0', '"'] = .error f := ⟨_, rfl⟩
  obtain ⟨f, hf⟩ := hescape
  rw [scanString] at hscan
  split at hscan
  · cases hscan
  next he =>
    rw [hf] at he
    cases he

theorem isObject_around (hm : IsBody m.name) (hvalue : IsValue m.value) :
    IsObject [goingEntry, m, acceptingEntry] (bodyOf [goingEntry, m, acceptingEntry]).toList := by
  apply isObject_bodyOf
  · rw [List.forall_mem_cons, List.forall_mem_cons, List.forall_mem_singleton]
    exact ⟨named_goingEntry.isBody, hm, named_acceptingEntry.isBody⟩
  · rw [List.forall_mem_cons, List.forall_mem_cons, List.forall_mem_singleton]
    exact ⟨isString_goingEntry.isValue, hvalue, isValue_bool true⟩

/-- Success and somewhere to go are said around a member that says nothing. -/
theorem said_around (hm : ∀ name ∈ ["success", "redirect", "error"], ¬ Named m name) :
    Said [goingEntry, m, acceptingEntry] "success" IsBool false true ∧
      Said [goingEntry, m, acceptingEntry] "redirect" IsStringOrNull none (some "/done") ∧
      Said [goingEntry, m, acceptingEntry] "error" IsStringOrNull none none := by
  have going {name : String} (hne : "redirect" ≠ name) : ¬ Named goingEntry name :=
    fun h => hne (named_goingEntry.unique h)
  have accepting {name : String} (hne : "success" ≠ name) : ¬ Named acceptingEntry name :=
    fun h => hne (named_acceptingEntry.unique h)
  refine ⟨.inr ⟨[goingEntry, m], acceptingEntry, [], rfl, ?_, nofun, named_acceptingEntry, rfl⟩,
    .inr ⟨[], goingEntry, [m, acceptingEntry], rfl, nofun, ?_, named_goingEntry,
      .inr ⟨_, isString_goingEntry, rfl⟩⟩, .inl ⟨?_, rfl⟩⟩
  · rw [Absent, List.forall_mem_cons, List.forall_mem_singleton]
    exact ⟨going (by decide), hm _ (by decide)⟩
  · rw [Absent, List.forall_mem_cons, List.forall_mem_singleton]
    exact ⟨hm _ (by decide), accepting (by decide)⟩
  · rw [Absent, List.forall_mem_cons, List.forall_mem_cons, List.forall_mem_singleton]
    exact ⟨going (by decide), hm _ (by decide), accepting (by decide)⟩

theorem says_around_extraEntry :
    Says [goingEntry, extraEntry, acceptingEntry] ⟨true, some "/done", none⟩ := by
  obtain ⟨hsuccess, hredirect, herror⟩ := said_around fun name hname h =>
    absurd (named_extraEntry.unique h ▸ hname) (by decide)
  refine ⟨?_, hsuccess, hredirect, herror⟩
  rw [List.forall_mem_cons, List.forall_mem_cons, List.forall_mem_singleton]
  exact ⟨⟨_, named_goingEntry⟩, ⟨_, named_extraEntry⟩, ⟨_, named_acceptingEntry⟩⟩

/-- Success that is said twice is not said. -/
theorem not_says_twice (r : Reply) : ¬ Says [acceptingEntry, acceptingEntry] r := by
  intro h
  rcases said_iff_perm.mp h.success with ⟨habsent, -⟩ | ⟨m, others, hperm, habsent, -⟩
  · exact habsent _ List.mem_cons_self named_acceptingEntry
  · obtain ⟨m', rfl⟩ := List.length_eq_one_iff.mp (Nat.succ.inj hperm.length_eq.symm)
    have hm' : m' ∈ [acceptingEntry, acceptingEntry] := hperm.mem_iff.mpr (by simp)
    obtain rfl : m' = acceptingEntry := by simpa using hm'
    exact habsent _ List.mem_cons_self named_acceptingEntry

theorem sameParts_around_extraEntry :
    SameParts [goingEntry, extraEntry, acceptingEntry] [acceptingEntry, goingEntry] := by
  have hforeign : ∀ m ∈ [extraEntry], Foreign m :=
    List.forall_mem_singleton.mpr ⟨_, named_extraEntry, by decide⟩
  exact ⟨[goingEntry, acceptingEntry], [extraEntry], [], by decide, by decide, hforeign, nofun⟩

end Bodies

/-! ### Answers -/

/-- **A response is answered with what the members of its body say**, if the body
is the text of an object, whatever the status, the order of the members and the
members that no part of a reply is named by.  It is answered with a nameless
failure if the members say no reply and if the body is no JSON text.  And a run
is redirected by it exactly if the reply says success and a redirect that is not
blank. -/
theorem reply_heeds_members (status : Nat) (body : String) :
    (∀ ms, IsObject ms body.toList →
      (∀ r, Response.reply ⟨status, .ok body⟩ = .ok r ↔ Says ms r) ∧
      ((¬ ∃ r, Says ms r) → IsNameless (Response.reply ⟨status, .ok body⟩)) ∧
      ∀ status' body' ms', IsObject ms' body'.toList → SameParts ms ms' →
        ∀ r, Response.reply ⟨status', .ok body'⟩ = .ok r ↔ Response.reply ⟨status, .ok body⟩ = .ok r) ∧
    (¬ IsText body.toList → IsNameless (Response.reply ⟨status, .ok body⟩)) ∧
    ∀ {σ : Type} (page : Page σ) (c : Ceremony) (location : String) (s : σ),
      (∃ target, ((c.conclude page location (Response.reply ⟨status, .ok body⟩)).run s).1.1
          = .redirected target)
        ↔ ∃ r redirect, Response.reply ⟨status, .ok body⟩ = .ok r ∧ r.success = true ∧
            r.redirect = some redirect ∧ ¬ AllBlank redirect.toList := by
  refine ⟨?_, ?_, fun page c location s => conclude_redirected_iff page c location _ s⟩
  · intro ms hms
    refine ⟨fun r => reply_eq_ok_iff.trans (parse_object_iff hms), ?_, ?_⟩
    · intro hnone
      exact isNameless_reply fun r h => hnone ⟨r, (parse_object_iff hms).mp h⟩
    · intro status' body' ms' hms' hparts r
      rw [reply_eq_ok_iff, reply_eq_ok_iff, parse_object_iff hms, parse_object_iff hms']
      exact ⟨fun h => h.sameParts hparts.symm, fun h => h.sameParts hparts⟩
  · intro htext
    exact isNameless_reply fun r h => htext (isText_of_parse h)

theorem reply_heeds_members_forbidden :
    (Says [goingEntry, extraEntry, acceptingEntry] ⟨true, some "/done", none⟩ ∧
      Response.reply ⟨403, .ok (bodyOf [goingEntry, extraEntry, acceptingEntry])⟩
        = .ok ⟨true, some "/done", none⟩) ∧
    (SameParts [goingEntry, extraEntry, acceptingEntry] [acceptingEntry, goingEntry] ∧
      Response.reply ⟨200, .ok (bodyOf [acceptingEntry, goingEntry])⟩
        = .ok ⟨true, some "/done", none⟩) ∧
    ((¬ ∃ r, Says [acceptingEntry, acceptingEntry] r) ∧
      IsNameless (Response.reply ⟨200, .ok (bodyOf [acceptingEntry, acceptingEntry])⟩)) ∧
    (¬ IsText "".toList ∧ IsNameless (Response.reply ⟨200, .ok ""⟩)) := by
  have hobject := isObject_around named_extraEntry.isBody isValue_extraEntry
  have hobject' : IsObject [acceptingEntry, goingEntry]
      (bodyOf [acceptingEntry, goingEntry]).toList := by
    apply isObject_bodyOf
    · exact List.forall_mem_cons.mpr
        ⟨named_acceptingEntry.isBody, List.forall_mem_singleton.mpr named_goingEntry.isBody⟩
    · exact List.forall_mem_cons.mpr
        ⟨isValue_bool true, List.forall_mem_singleton.mpr isString_goingEntry.isValue⟩
  have htwice : IsObject [acceptingEntry, acceptingEntry]
      (bodyOf [acceptingEntry, acceptingEntry]).toList := by
    apply isObject_bodyOf
    · exact List.forall_mem_cons.mpr
        ⟨named_acceptingEntry.isBody, List.forall_mem_singleton.mpr named_acceptingEntry.isBody⟩
    · exact List.forall_mem_cons.mpr
        ⟨isValue_bool true, List.forall_mem_singleton.mpr (isValue_bool true)⟩
  have hnone : ¬ ∃ r, Says [acceptingEntry, acceptingEntry] r := fun ⟨r, h⟩ => not_says_twice r h
  obtain ⟨hreply, -, hsame⟩ := (reply_heeds_members 403 _).1 _ hobject
  have haccepted := (hreply _).mpr says_around_extraEntry
  refine ⟨⟨says_around_extraEntry, haccepted⟩, ⟨sameParts_around_extraEntry, ?_⟩, ⟨hnone, ?_⟩,
    not_isText_nil, ?_⟩
  · exact (hsame 200 _ _ hobject' sameParts_around_extraEntry _).mpr haccepted
  · exact ((reply_heeds_members 200 _).1 _ htwice).2.1 hnone
  · exact (reply_heeds_members 200 "").2.1 not_isText_nil

/-- The members say success and where to go, but no reply is read: one of them is
named by half a surrogate pair. -/
theorem half_pair_refused :
    IsObject [goingEntry, halfPairEntry, acceptingEntry]
        "\x7b\"redirect\":\"/done\",\"\\ud800\":1,\"success\":true\x7d".toList ∧
      Said [goingEntry, halfPairEntry, acceptingEntry] "success" IsBool false true ∧
      Said [goingEntry, halfPairEntry, acceptingEntry] "redirect" IsStringOrNull none (some "/done") ∧
      Said [goingEntry, halfPairEntry, acceptingEntry] "error" IsStringOrNull none none ∧
      ∀ r, Response.reply ⟨200, .ok "\x7b\"redirect\":\"/done\",\"\\ud800\":1,\"success\":true\x7d"⟩
        ≠ .ok r := by
  have hone : IsValue halfPairEntry.value :=
    .scalar (.unsigned ⟨['1'], [], .digits rfl (by decide) nofun, .none .none, rfl⟩)
  have hobject := isObject_around isBody_halfPairEntry hone
  have hbody : bodyOf [goingEntry, halfPairEntry, acceptingEntry]
      = "\x7b\"redirect\":\"/done\",\"\\ud800\":1,\"success\":true\x7d" := by decide
  rw [hbody] at hobject
  obtain ⟨hsuccess, hredirect, herror⟩ := said_around fun name _ => not_named_halfPairEntry name
  refine ⟨hobject, hsuccess, hredirect, herror, ?_⟩
  intro r h
  have hsays : Says [goingEntry, halfPairEntry, acceptingEntry] r :=
    (parse_object_iff hobject).mp (reply_eq_ok_iff.mp h)
  obtain ⟨name, hname⟩ := hsays.named halfPairEntry (by decide)
  exact not_named_halfPairEntry name hname

end Passkey.Browser
