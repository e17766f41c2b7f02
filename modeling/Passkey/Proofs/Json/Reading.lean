/-
Passkey/Proofs/Json/Reading.lean

Readers of values of one kind, and of the members of an object.

A reader of one kind takes a value exactly if the value means something of that
kind (`Takes`), be it a boolean, a string or null.  The loop over the members of
an object knows nothing of what they add up to: if each member adds to what was
read in the way of a relation (`Gathers`), the object is read exactly if its
members add up one after the other (`Gathered`), in the order in which they are
written.
-/
import Passkey.Json.Typed
import Passkey.Proofs.Json.Skipping

namespace Passkey.Json

open Outcome

/-! ### Kinds of values -/

/-- The text of a boolean. -/
def IsBool (v : List Char) (b : Bool) : Prop :=
  v = (if b then "true" else "false").toList

/-- The text of a string that denotes a text. -/
def IsString (v : List Char) (s : String) : Prop :=
  ∃ raw, Denotes raw s.toList ∧ v = '"' :: (raw ++ ['"'])

/-- The text of null, or of a string that denotes a text. -/
def IsStringOrNull (v : List Char) (s : Option String) : Prop :=
  (v = "null".toList ∧ s = none) ∨ ∃ t, IsString v t ∧ s = some t

/-- A reader takes the values that mean something, and where a value may end it
takes all of them. -/
structure Takes {α : Type} (reader : Reader α) (means : List Char → α → Prop) : Prop where
  value {cs rest : List Char} {a : α} (h : Reads reader cs a rest) :
    ∃ front v, AllSpace front ∧ IsValue v ∧ means v a ∧ cs = front ++ (v ++ rest)
  reads {front v rest : List Char} {a : α} (hfront : AllSpace front) (hv : IsValue v)
    (hrest : Stops rest) (ha : means v a) : Reads reader (front ++ (v ++ rest)) a rest

theorem takes_skipValue : Takes skipValue fun _ _ => True where
  value h := by
    obtain ⟨front, v, hfront, hv, hcs⟩ := exists_of_skipValue h
    exact ⟨front, v, hfront, hv, trivial, hcs⟩
  reads hfront hv hrest _ := reads_skipValue hfront hv hrest

section Kinds

variable {cs rest raw s : List Char}

theorem Denotes.isBody (h : Denotes raw s) : IsBody raw := by
  induction h with
  | nil => exact .nil
  | plain hc hquote hslash _ ih => exact .plain hc hquote hslash ih
  | escape hcode _ ih =>
    cases hcode with
    | short h => exact .escape (.short h) ih
    | code h => exact .escape (.code h) ih
    | pair h _ h' =>
      have hbody := IsBody.escape (.code h) (IsBody.escape (.code h') ih)
      exact hbody

/-- **A string denotes one text.** -/
theorem Denotes.unique {s' : List Char} (h : Denotes raw s) (h' : Denotes raw s') : s = s' := by
  have hs : scanString (raw ++ ['"']) = .ok (s, []) := scanString_eq_ok_iff.mpr ⟨raw, h, rfl⟩
  have hs' : scanString (raw ++ ['"']) = .ok (s', []) := scanString_eq_ok_iff.mpr ⟨raw, h', rfl⟩
  rw [hs] at hs'
  exact congrArg Prod.fst (Except.ok.inj hs')

/-- Characters that need no escape denote themselves. -/
theorem denotes_self (h : ∀ c ∈ s, ¬ c < ' ' ∧ c ≠ '"' ∧ c ≠ '\\') : Denotes s s := by
  induction s with
  | nil => exact .nil
  | cons c s ih =>
    obtain ⟨⟨hc, hquote, hslash⟩, hs⟩ := List.forall_mem_cons.mp h
    exact .plain hc hquote hslash (ih hs)

theorem IsString.isValue {v : List Char} {t : String} (h : IsString v t) : IsValue v := by
  obtain ⟨raw, hraw, rfl⟩ := h
  exact .scalar (.string hraw.isBody)

theorem reads_readString_iff {t : String} :
    Reads readString cs t rest ↔ ∃ raw, Denotes raw t.toList ∧ cs = raw ++ '"' :: rest := by
  rw [← scanString_eq_ok_iff]
  constructor
  · rintro ⟨hlt, h⟩
    rw [readString] at h
    split at h
    · cases h
    next hs =>
      cases h
      rw [String.toList_ofList]
      exact hs
  · intro h
    have hreads := readString_of_scanString h
    rwa [String.ofList_toList] at hreads

theorem refuseKind_ne_ok {α : Type} {expected : String} {c : Char} {a : α} :
    refuseKind expected c rest ≠ .ok a := by
  intro h
  rw [refuseKind.eq_def] at h
  split at h
  · cases h
  · cases h
  · split at h
    · cases h
    · cases h

theorem readWord_eq_ok {word : String} {v : Value} {c : Char} {p : Parsed Value (c :: cs)}
    (h : readWord word v c cs = .ok p) : cs = word.toList ++ p.rest := by
  rw [readWord] at h
  split at h
  · cases h
  next hs =>
    cases h
    exact scanWord_eq_ok_iff.mp hs

theorem isValue_bool (b : Bool) : IsValue (if b then "true" else "false").toList := by
  cases b
  · exact .scalar (.word (by decide))
  · exact .scalar (.word (by decide))

theorem isValue_null : IsValue "null".toList :=
  .scalar (.word (by decide))

/-- **A boolean is read** as the word that it is. -/
theorem takes_readBool : Takes readBool IsBool where
  value := by
    rintro cs rest b ⟨hlt, h⟩
    rw [readBool.eq_def] at h
    split at h
    · cases h
    next c left hspace =>
      obtain ⟨-, ws, hws, rfl⟩ := skipSpace_eq_cons_iff.mp hspace
      dsimp only at h
      split at h
      · obtain ⟨p, hp, heq⟩ := map_eq_ok_iff.mp h
        cases heq
        exact ⟨ws, _, hws, isValue_bool true, rfl, congrArg (ws ++ 't' :: ·) (readWord_eq_ok hp)⟩
      · obtain ⟨p, hp, heq⟩ := map_eq_ok_iff.mp h
        cases heq
        exact ⟨ws, _, hws, isValue_bool false, rfl, congrArg (ws ++ 'f' :: ·) (readWord_eq_ok hp)⟩
      · exact absurd h refuseKind_ne_ok
  reads := by
    rintro front v rest b hfront - - rfl
    cases b
    · have hspace :
          skipSpace (front ++ ("false".toList ++ rest)) = 'f' :: ("alse".toList ++ rest) :=
        skipSpace_of_eq hfront rfl _
      obtain ⟨hlt, hword⟩ := readWord_append "alse" .null 'f' rest
      refine ⟨Nat.lt_of_lt_of_le hlt (le_of_skipSpace hspace), ?_⟩
      rw [readBool.eq_def]
      split
      next h => cases h.symm.trans hspace
      next h =>
        cases h.symm.trans hspace
        dsimp only
        rw [hword]
        rfl
    · have hspace : skipSpace (front ++ ("true".toList ++ rest)) = 't' :: ("rue".toList ++ rest) :=
        skipSpace_of_eq hfront rfl _
      obtain ⟨hlt, hword⟩ := readWord_append "rue" .null 't' rest
      refine ⟨Nat.lt_of_lt_of_le hlt (le_of_skipSpace hspace), ?_⟩
      rw [readBool.eq_def]
      split
      next h => cases h.symm.trans hspace
      next h =>
        cases h.symm.trans hspace
        dsimp only
        rw [hword]
        rfl

/-- **A string is read** as the text that it denotes. -/
theorem takes_readText : Takes readText IsString where
  value := by
    rintro cs rest s ⟨hlt, h⟩
    rw [readText.eq_def] at h
    split at h
    · cases h
    next c left hspace =>
      obtain ⟨-, ws, hws, rfl⟩ := skipSpace_eq_cons_iff.mp hspace
      dsimp only at h
      split at h
      · obtain ⟨p, hp, heq⟩ := map_eq_ok_iff.mp h
        cases heq
        obtain ⟨raw, hraw, hleft⟩ := reads_readString_iff.mp ⟨p.shorter, hp⟩
        have hstring : IsString ('"' :: (raw ++ ['"'])) p.value := ⟨raw, hraw, rfl⟩
        refine ⟨ws, _, hws, hstring.isValue, hstring, ?_⟩
        rw [congrArg (ws ++ '"' :: ·) hleft]
        simp
      · exact absurd h refuseKind_ne_ok
  reads := by
    rintro front v rest s hfront - - ⟨raw, hraw, rfl⟩
    have hspace : skipSpace (front ++ ('"' :: (raw ++ ['"']) ++ rest))
        = '"' :: (raw ++ '"' :: rest) :=
      skipSpace_eq_cons_iff.mpr ⟨rfl, front, hfront, by simp⟩
    have hstring : Reads readString (raw ++ '"' :: rest) s rest :=
      reads_readString_iff.mpr ⟨raw, hraw, rfl⟩
    obtain ⟨hlt, hstring⟩ := hstring
    refine ⟨Nat.lt_of_lt_of_le (Nat.lt_succ_of_lt hlt) (le_of_skipSpace hspace), ?_⟩
    rw [readText.eq_def]
    split
    next h => cases h.symm.trans hspace
    next h =>
      cases h.symm.trans hspace
      dsimp only
      rw [hstring]
      rfl

/-- **Null or a string is read** as nothing or the text. -/
theorem takes_readNullable : Takes (readNullable readText) IsStringOrNull where
  value := by
    rintro cs rest s ⟨hlt, h⟩
    rw [readNullable.eq_def] at h
    split at h
    next left hspace =>
      obtain ⟨-, ws, hws, rfl⟩ := skipSpace_eq_cons_iff.mp hspace
      obtain ⟨p, hp, heq⟩ := map_eq_ok_iff.mp h
      cases heq
      exact ⟨ws, _, hws, isValue_null, .inl ⟨rfl, rfl⟩,
        congrArg (ws ++ 'n' :: ·) (readWord_eq_ok hp)⟩
    · obtain ⟨p, hp, heq⟩ := map_eq_ok_iff.mp h
      cases heq
      obtain ⟨front, v, hfront, hv, hs, hcs⟩ := takes_readText.value ⟨p.shorter, hp⟩
      obtain ⟨ws, hws, hsplit⟩ := exists_allSpace cs
      refine ⟨ws ++ front, v, hws.append hfront, hv, .inr ⟨_, hs, rfl⟩, hsplit.trans ?_⟩
      rw [congrArg (ws ++ ·) hcs, List.append_assoc]
  reads := by
    rintro front v rest s hfront hv hrest (⟨rfl, rfl⟩ | ⟨t, ht, rfl⟩)
    · have hspace : skipSpace (front ++ ("null".toList ++ rest)) = 'n' :: ("ull".toList ++ rest) :=
        skipSpace_of_eq hfront rfl _
      obtain ⟨hlt, hword⟩ := readWord_append "ull" .null 'n' rest
      refine ⟨Nat.lt_of_lt_of_le hlt (le_of_skipSpace hspace), ?_⟩
      rw [readNullable.eq_def]
      split
      next h =>
        cases h.symm.trans hspace
        rw [hword]
        rfl
      next h => exact absurd hspace (h _)
    · -- a string does not start like null, and the reader of texts goes on at its quote
      obtain ⟨raw, hraw, rfl⟩ := ht
      have hspace : skipSpace (front ++ ('"' :: (raw ++ ['"']) ++ rest))
          = '"' :: (raw ++ '"' :: rest) :=
        skipSpace_eq_cons_iff.mpr ⟨rfl, front, hfront, by simp⟩
      have htext :
          Reads readText (skipSpace (front ++ ('"' :: (raw ++ ['"']) ++ rest))) t rest := by
        have hreads := takes_readText.reads allSpace_nil hv hrest ⟨raw, hraw, rfl⟩
        rw [hspace]
        simpa using hreads
      obtain ⟨hlt, htext⟩ := htext
      refine ⟨Nat.lt_of_lt_of_le hlt (length_skipSpace _), ?_⟩
      rw [readNullable.eq_def]
      split
      next h => cases h.symm.trans hspace
      next h =>
        rw [htext]
        rfl

end Kinds

/-! ### Members of objects -/

section Members

variable {α σ : Type} {ws ws' cs rest : List Char}

theorem reads_readMemberValue_iff {value : Reader α} {a : α} :
    Reads (readMemberValue value) cs a rest
      ↔ ∃ ws left, AllSpace ws ∧ cs = ws ++ ':' :: left ∧ Reads value left a rest := by
  constructor
  · rintro ⟨hlt, h⟩
    rw [readMemberValue] at h
    rcases hcolon : readColon cs with f | colon
    · simp only [hcolon] at h
      cases h
    · simp only [hcolon] at h
      obtain ⟨p, hp, heq⟩ := map_eq_ok_iff.mp h
      cases heq
      obtain ⟨ws, hws, hcs⟩ := reads_readColon_iff.mp ⟨colon.shorter, hcolon⟩
      exact ⟨ws, colon.rest, hws, hcs, p.shorter, hp⟩
  · rintro ⟨ws, left, hws, rfl, hlt, hvalue⟩
    have hcolon : Reads readColon (ws ++ ':' :: left) () left :=
      reads_readColon_iff.mpr ⟨ws, hws, rfl⟩
    obtain ⟨hlt', hcolon⟩ := hcolon
    refine ⟨Nat.lt_trans hlt hlt', ?_⟩
    rw [readMemberValue, hcolon]
    dsimp only
    rw [hvalue]
    rfl

/-- Reading a member behind the quote of its name adds to what was read before,
and where a value may end every member that can be added is read. -/
structure Gathers (member : σ → Reader σ) (adds : σ → Entry → σ → Prop) : Prop where
  entry {s s' : σ} {cs rest : List Char} (h : Reads (member s) cs s' rest) :
    ∃ m ws front, IsBody m.name ∧ AllSpace ws ∧ AllSpace front ∧ IsValue m.value ∧ adds s m s' ∧
      cs = m.name ++ '"' :: (ws ++ ':' :: (front ++ (m.value ++ rest)))
  reads {s s' : σ} {m : Entry} {ws front rest : List Char} (hws : AllSpace ws)
    (hfront : AllSpace front) (hvalue : IsValue m.value) (hrest : Stops rest)
    (hadds : adds s m s') :
    Reads (member s) (m.name ++ '"' :: (ws ++ ':' :: (front ++ (m.value ++ rest)))) s' rest

/-- Members are added one after the other. -/
inductive Gathered (adds : σ → Entry → σ → Prop) : σ → List Entry → σ → Prop
  | nil {s : σ} : Gathered adds s [] s
  | cons {s s' t : σ} {m : Entry} {ms : List Entry} (hm : adds s m s')
      (hms : Gathered adds s' ms t) : Gathered adds s (m :: ms) t

theorem gathered_nil_iff {adds : σ → Entry → σ → Prop} {s t : σ} :
    Gathered adds s [] t ↔ t = s := by
  constructor
  · intro h
    cases h
    rfl
  · rintro rfl
    exact .nil

theorem gathered_cons_iff {adds : σ → Entry → σ → Prop} {s t : σ} {m : Entry} {ms : List Entry} :
    Gathered adds s (m :: ms) t ↔ ∃ s', adds s m s' ∧ Gathered adds s' ms t := by
  constructor
  · intro h
    cases h with
    | cons hm hms => exact ⟨_, hm, hms⟩
  · rintro ⟨s', hm, hms⟩
    exact .cons hm hms

/-- Where a member was found: behind the opener, or else behind a comma. -/
theorem nextMember_eq_some {first : Bool} {start : Tail cs}
    (h : nextMember first cs = .ok (some start)) :
    ∃ ws ws', AllSpace ws ∧ AllSpace ws' ∧
      cs = ws ++ ((if first then [] else [',']) ++ (ws' ++ '"' :: start.val)) := by
  rw [nextMember.eq_def] at h
  split at h
  · cases h
  · cases h
  next c left _ hspace =>
    obtain ⟨-, ws, hws, hcs⟩ := skipSpace_eq_cons_iff.mp hspace
    dsimp only at h
    split at h
    next hfirst =>
      split at h
      next hc =>
        cases h
        exact ⟨ws, [], hws, allSpace_nil, by simp [hcs, hfirst, hc]⟩
      · cases h
    next hfirst =>
      split at h
      next hc =>
        split at h
        · cases h
        next more hspace' =>
          cases h
          obtain ⟨-, ws', hws', hleft⟩ := skipSpace_eq_cons_iff.mp hspace'
          exact ⟨ws, ws', hws, hws', by simp [hcs, hfirst, hc, hleft]⟩
        · cases h
        · cases h
      · cases h

theorem reads_closeObject_iff :
    Reads closeObject cs () rest ↔ ∃ ws, AllSpace ws ∧ cs = ws ++ '}' :: rest := by
  constructor
  · rintro ⟨hlt, h⟩
    rw [closeObject.eq_def] at h
    split at h
    · cases h
    next left hspace =>
      cases h
      exact (skipSpace_eq_cons_iff.mp hspace).2
    · cases h
    · cases h
  · rintro ⟨ws, hws, hcs⟩
    have hspace : skipSpace cs = '}' :: rest := skipSpace_eq_cons_iff.mpr ⟨rfl, ws, hws, hcs⟩
    refine ⟨lt_of_skipSpace hspace, ?_⟩
    rw [closeObject.eq_def]
    split
    next h => cases h.symm.trans hspace
    next h =>
      cases h.symm.trans hspace
      rfl
    next h => cases h.symm.trans hspace
    next _ h _ => exact (h rest hspace).elim

theorem nextMember_closer (hws : AllSpace ws) (first : Bool) (rest : List Char) :
    nextMember first (ws ++ '}' :: rest) = .ok none := by
  have hspace : skipSpace (ws ++ '}' :: rest) = '}' :: rest := skipSpace_of_eq hws rfl rest
  rw [nextMember.eq_def]
  split
  next h => cases h.symm.trans hspace
  next h => rfl
  next c left hne h =>
    cases h.symm.trans hspace
    exact absurd rfl hne

theorem nextMember_first (hws : AllSpace ws) (cs : List Char) :
    ∃ hle, nextMember true (ws ++ '"' :: cs) = .ok (some ⟨cs, hle⟩) := by
  have hspace : skipSpace (ws ++ '"' :: cs) = '"' :: cs := skipSpace_of_eq hws rfl cs
  refine ⟨Nat.le_of_lt (lt_of_skipSpace hspace), ?_⟩
  rw [nextMember.eq_def]
  split
  next h => cases h.symm.trans hspace
  next h => cases h.symm.trans hspace
  next h =>
    cases h.symm.trans hspace
    rfl

theorem nextMember_comma (hws : AllSpace ws) (hws' : AllSpace ws') (cs : List Char) :
    ∃ hle, nextMember false (ws ++ ',' :: (ws' ++ '"' :: cs)) = .ok (some ⟨cs, hle⟩) := by
  have hspace : skipSpace (ws ++ ',' :: (ws' ++ '"' :: cs)) = ',' :: (ws' ++ '"' :: cs) :=
    skipSpace_of_eq hws rfl _
  have hspace' : skipSpace (ws' ++ '"' :: cs) = '"' :: cs := skipSpace_of_eq hws' rfl cs
  refine ⟨Nat.le_of_lt (Nat.lt_trans (lt_of_skipSpace hspace') (lt_of_skipSpace hspace)), ?_⟩
  rw [nextMember.eq_def]
  split
  next h => cases h.symm.trans hspace
  next h => cases h.symm.trans hspace
  next h =>
    cases h.symm.trans hspace
    dsimp only
    rw [if_neg Bool.false_ne_true, if_pos rfl]
    split
    next h' => cases h'.symm.trans hspace'
    next h' =>
      cases h'.symm.trans hspace'
      rfl
    next h' => cases h'.symm.trans hspace'
    next hne _ h' =>
      cases h'.symm.trans hspace'
      exact absurd rfl hne

variable {member : σ → Reader σ} {adds : σ → Entry → σ → Prop} {s t : σ} {first : Bool}
  {ms : List Entry} {ds : List Char}

/-- A member in front of others, behind the opener or behind a comma. -/
theorem Container.IsItems.behind {m : Entry} {vs front : List Char} (hws : AllSpace ws)
    (hws' : AllSpace ws') (hname : IsBody m.name) (hvs : AllSpace vs) (hfront : AllSpace front)
    (h : Container.object.IsItems false ms ds) :
    Container.object.IsItems first (m :: ms)
      (ws ++ ((if first then [] else [',']) ++ (ws' ++ '"' ::
        (m.name ++ '"' :: (vs ++ ':' :: (front ++ (m.value ++ ds))))))) := by
  cases first
  · have hitems := IsItems.comma hws (.object hws' hname hvs) hfront h
    simpa using hitems
  · have hitems := IsItems.first (.object (hws.append hws') hname hvs) hfront h
    simpa using hitems

/-- **An object that was read has members that were added** one after the other. -/
theorem Gathers.items (hg : Gathers member adds)
    (h : Reads (foldMembers member s first) cs t rest) :
    ∃ ms ds, Container.object.IsItems first ms ds ∧ (∀ m ∈ ms, IsValue m.value) ∧
      Gathered adds s ms t ∧ cs = ds ++ '}' :: rest := by
  obtain ⟨hlt, h⟩ := h
  fun_induction foldMembers member s first cs with
  | case1 => cases h
  | case2 s first cs hnext =>
    obtain ⟨p, hp, heq⟩ := map_eq_ok_iff.mp h
    cases heq
    obtain ⟨ws, hws, hcs⟩ := reads_closeObject_iff.mp ⟨p.shorter, hp⟩
    exact ⟨[], ws, .nil hws, fun _ hm => absurd hm List.not_mem_nil, .nil, hcs⟩
  | case3 => cases h
  | case4 => cases h
  | case5 s first cs start hnext p hp hlt' q hq ih =>
    cases h
    obtain ⟨ws, ws', hws, hws', hcs⟩ := nextMember_eq_some hnext
    obtain ⟨m, vs, front, hname, hvs, hfront, hvalue, hadds, hstart⟩ := hg.entry ⟨p.shorter, hp⟩
    obtain ⟨ms, ds, hitems, hvalues, hgathered, hrest⟩ := ih q.shorter hq
    refine ⟨m :: ms, _, .behind hws hws' hname hvs hfront hitems,
      List.forall_mem_cons.mpr ⟨hvalue, hvalues⟩, .cons hadds hgathered, ?_⟩
    rw [hrest] at hstart
    simpa [hstart] using hcs

theorem reads_foldMembers_closer (hws : AllSpace ws) (member : σ → Reader σ) (s : σ) (first : Bool)
    (rest : List Char) : Reads (foldMembers member s first) (ws ++ '}' :: rest) s rest := by
  have hclose : Reads closeObject (ws ++ '}' :: rest) () rest :=
    reads_closeObject_iff.mpr ⟨ws, hws, rfl⟩
  obtain ⟨hlt, hclose⟩ := hclose
  refine ⟨hlt, ?_⟩
  rw [foldMembers, nextMember_closer hws]
  dsimp only
  rw [hclose]
  rfl

theorem reads_foldMembers_member {s' : σ} {start mid : List Char}
    (hnext : ∃ hle, nextMember first cs = .ok (some ⟨start, hle⟩))
    (hmember : Reads (member s) start s' mid)
    (hrest : Reads (foldMembers member s' false) mid t rest) :
    Reads (foldMembers member s first) cs t rest := by
  obtain ⟨hle, hnext⟩ := hnext
  obtain ⟨hlt, hmember⟩ := hmember
  obtain ⟨hlt', hrest⟩ := hrest
  refine ⟨Nat.lt_of_lt_of_le (Nat.lt_trans hlt' hlt) hle, ?_⟩
  rw [foldMembers, hnext]
  simp only [hmember, hrest]

/-- **Members that can be added one after the other are read.** -/
theorem Gathers.reads_items (hg : Gathers member adds)
    (hitems : Container.object.IsItems first ms ds) (hvalues : ∀ m ∈ ms, IsValue m.value)
    (h : Gathered adds s ms t) (rest : List Char) :
    Reads (foldMembers member s first) (ds ++ '}' :: rest) t rest := by
  induction hitems generalizing s with
  | nil hws =>
    cases h
    exact reads_foldMembers_closer hws member _ _ rest
  | @first m ms label front cs hlabel hfront hitems ih =>
    obtain ⟨hvalue, hvalues⟩ := List.forall_mem_cons.mp hvalues
    cases h with
    | cons hadds h =>
      cases hlabel with
      | object hws hname hws' =>
        have hm := hg.reads hws' hfront hvalue (hitems.stops rest) hadds
        have hreads := reads_foldMembers_member (nextMember_first hws _) hm (ih hvalues h)
        simpa [Container.closer] using hreads
  | @comma m ms vs label front cs hvs hlabel hfront hitems ih =>
    obtain ⟨hvalue, hvalues⟩ := List.forall_mem_cons.mp hvalues
    cases h with
    | cons hadds h =>
      cases hlabel with
      | object hws hname hws' =>
        have hm := hg.reads hws' hfront hvalue (hitems.stops rest) hadds
        have hreads := reads_foldMembers_member (nextMember_comma hvs hws _) hm (ih hvalues h)
        simpa [Container.closer] using hreads

end Members

/-! ### Items of arrays -/

section Items

variable {ws cs rest : List Char} {first : Bool}

theorem nextItem_eq_none (h : nextItem first cs = .ok none) :
    ∃ ws left, AllSpace ws ∧ cs = ws ++ ']' :: left := by
  rw [nextItem.eq_def] at h
  split at h
  · cases h
  next left hspace =>
    obtain ⟨-, ws, hws, hcs⟩ := skipSpace_eq_cons_iff.mp hspace
    exact ⟨ws, left, hws, hcs⟩
  · dsimp only at h
    split at h
    · cases h
    · split at h
      · split at h
        all_goals cases h
      · cases h

theorem nextItem_eq_some {start : Tail cs} (h : nextItem first cs = .ok (some start)) :
    ∃ ws ws', AllSpace ws ∧ AllSpace ws' ∧
      cs = ws ++ ((if first then [] else [',']) ++ (ws' ++ start.val)) := by
  rw [nextItem.eq_def] at h
  split at h
  · cases h
  · cases h
  next c left _ hspace =>
    obtain ⟨-, ws, hws, hcs⟩ := skipSpace_eq_cons_iff.mp hspace
    dsimp only at h
    split at h
    next hfirst =>
      cases h
      exact ⟨ws, [], hws, allSpace_nil, by simp [hcs, hfirst]⟩
    next hfirst =>
      split at h
      next hc =>
        split at h
        · cases h
        · cases h
        next c' more _ hspace' =>
          cases h
          obtain ⟨-, ws', hws', hleft⟩ := skipSpace_eq_cons_iff.mp hspace'
          exact ⟨ws, ws', hws, hws', by simp [hcs, hfirst, hc, hleft]⟩
      · cases h

theorem nextItem_closer (hws : AllSpace ws) (first : Bool) (rest : List Char) :
    nextItem first (ws ++ ']' :: rest) = .ok none := by
  have hspace : skipSpace (ws ++ ']' :: rest) = ']' :: rest := skipSpace_of_eq hws rfl rest
  rw [nextItem.eq_def]
  split
  next h => cases h.symm.trans hspace
  next h => rfl
  next c left hne h =>
    cases h.symm.trans hspace
    exact absurd rfl hne

theorem exists_of_closeArray (h : Reads closeArray cs () rest) :
    ∃ ws, AllSpace ws ∧ cs = ws ++ ']' :: rest := by
  obtain ⟨hlt, h⟩ := h
  rw [closeArray.eq_def] at h
  split at h
  · cases h
  next left hspace =>
    cases h
    exact (skipSpace_eq_cons_iff.mp hspace).2
  · split at h
    all_goals cases h
  · cases h

end Items

/-! ### Whole texts -/

theorem readAll_eq_ok_iff {α : Type} {reader : Reader α} {cs : List Char} {a : α} :
    readAll reader cs = .ok a ↔ ∃ rest, Reads reader cs a rest ∧ AllSpace rest := by
  rw [readAll]
  rcases hp : reader cs with f | p
  · constructor
    · intro h
      cases h
    · rintro ⟨rest, ⟨hlt, h⟩, -⟩
      rw [hp] at h
      cases h
  · dsimp only
    rw [map_eq_ok_iff, checkEnd]
    constructor
    · rintro ⟨_, hend, rfl⟩
      split at hend
      next hspace => exact ⟨p.rest, ⟨p.shorter, hp⟩, skipSpace_eq_nil_iff.mp hspace⟩
      · cases hend
    · rintro ⟨rest, ⟨hlt, h⟩, hrest⟩
      rw [hp] at h
      cases h
      exact ⟨(), by rw [skipSpace_eq_nil_iff.mpr hrest], rfl⟩

end Passkey.Json
