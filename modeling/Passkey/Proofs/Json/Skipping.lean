/-
Passkey/Proofs/Json/Skipping.lean

A value is passed over exactly if it is one.

Skipping keeps the open containers in a list and goes from character to
character, so neither direction follows the recursion of the grammar.  What is
left behind a value within open containers has to close them all, from the
innermost outwards (`Closes`), and every step of an accepting run is one step of
a derivation (`passes_of_skipFrom`).  The other way round the induction is on the
value: a value is passed over whatever is open around it (`IsValue.passed`), for
its entries are, each with one more container around it.
-/
import Passkey.Proofs.Json.Scanning

namespace Passkey.Json

open Outcome

variable {cs rest : List Char}

/-! ### Words, labels and scalars -/

theorem scanWord_eq_ok_iff {word : List Char} :
    scanWord word cs = .ok rest ↔ cs = word ++ rest := by
  constructor
  · intro h
    induction word generalizing cs with
    | nil =>
      cases h
      rfl
    | cons w word ih =>
      rcases cs with - | ⟨c, cs⟩
      · cases h
      · rw [scanWord] at h
        split at h
        next hc => rw [hc, ih h, List.cons_append]
        · cases h
  · rintro rfl
    exact scanWord_append word rest

theorem reads_readColon_iff :
    Reads readColon cs () rest ↔ ∃ ws, AllSpace ws ∧ cs = ws ++ ':' :: rest := by
  constructor
  · rintro ⟨hlt, h⟩
    rw [readColon.eq_def] at h
    split at h
    · cases h
    next left hspace =>
      cases h
      exact (skipSpace_eq_cons_iff.mp hspace).2
    · cases h
  · rintro ⟨ws, hws, hcs⟩
    have hspace : skipSpace cs = ':' :: rest := skipSpace_eq_cons_iff.mpr ⟨rfl, ws, hws, hcs⟩
    refine ⟨lt_of_skipSpace hspace, ?_⟩
    rw [readColon.eq_def]
    split
    next h =>
      rw [hspace] at h
      cases h
    next h =>
      rw [hspace] at h
      cases h
      rfl
    next _ hcolon => exact (hcolon rest hspace).elim

namespace Container

/-- **What stands before the value of an entry is passed over.** -/
theorem skipLabel_eq_ok_iff {k : Container} :
    k.skipLabel cs = .ok rest ↔ ∃ name label, k.IsLabel name label ∧ cs = label ++ rest := by
  rcases k with - | -
  · constructor
    · intro h
      cases h
      exact ⟨[], [], .array, rfl⟩
    · rintro ⟨name, label, hlabel, rfl⟩
      cases hlabel
      rfl
  · constructor
    · intro h
      rw [skipLabel.eq_def] at h
      dsimp only at h
      split at h
      · cases h
      next left hspace =>
        split at h
        · cases h
        next left' hname =>
          obtain ⟨p, hp, rfl⟩ := map_eq_ok_iff.mp h
          obtain ⟨-, ws, hws, rfl⟩ := skipSpace_eq_cons_iff.mp hspace
          obtain ⟨name, hbody, rfl⟩ := skipString_eq_ok_iff.mp hname
          obtain ⟨ws', hws', hleft⟩ := reads_readColon_iff.mp ⟨p.shorter, hp⟩
          refine ⟨name, _, .object hws hbody hws', ?_⟩
          rw [congrArg (fun left => ws ++ '"' :: (name ++ '"' :: left)) hleft]
          simp
      · cases h
    · rintro ⟨name, label, hlabel, rfl⟩
      cases hlabel with
      | @object name ws ws' hws hname hws' =>
        have hspace : skipSpace (ws ++ '"' :: (name ++ '"' :: (ws' ++ [':'])) ++ rest)
            = '"' :: (name ++ '"' :: (ws' ++ ':' :: rest)) :=
          skipSpace_eq_cons_iff.mpr ⟨rfl, ws, hws, by simp⟩
        have hcolon : Reads readColon (ws' ++ ':' :: rest) () rest :=
          reads_readColon_iff.mpr ⟨ws', hws', rfl⟩
        obtain ⟨hlt, hcolon⟩ := hcolon
        rw [skipLabel.eq_def]
        simp only [hspace, skipString_eq_ok_iff.mpr ⟨name, hname, rfl⟩, hcolon]
        rfl

end Container

theorem exists_of_skipScalar {c : Char} (h : skipScalar c cs = .ok rest) :
    ∃ v, IsScalar (c :: v) ∧ cs = v ++ rest := by
  rw [skipScalar.eq_def] at h
  split at h
  · exact ⟨_, .word (by decide), scanWord_eq_ok_iff.mp h⟩
  · exact ⟨_, .word (by decide), scanWord_eq_ok_iff.mp h⟩
  · exact ⟨_, .word (by decide), scanWord_eq_ok_iff.mp h⟩
  · obtain ⟨body, hbody, rfl⟩ := skipString_eq_ok_iff.mp h
    exact ⟨_, .string hbody, by simp⟩
  · obtain ⟨number, hnumber, rfl⟩ := exists_of_skipNumber h
    exact ⟨_, .negative hnumber, rfl⟩
  · split at h
    · obtain ⟨number, hnumber, hcs⟩ := exists_of_skipNumber h
      obtain ⟨whole, fraction, hwhole, hfraction, rfl⟩ := hnumber
      -- a number has a first character
      obtain ⟨d, ds, rfl⟩ : ∃ d ds, whole = d :: ds := by
        cases hwhole
        · exact ⟨_, _, rfl⟩
        · exact ⟨_, _, rfl⟩
      rw [List.cons_append, List.cons_append, List.cons.injEq] at hcs
      obtain ⟨rfl, hcs⟩ := hcs
      exact ⟨_, .unsigned ⟨_, _, hwhole, hfraction, rfl⟩, hcs⟩
    · cases h

/-- A scalar starts with a character that neither opens nor closes anything. -/
theorem IsScalar.exists_cons {v : List Char} (h : IsScalar v) :
    ∃ c v', v = c :: v' ∧ isSpace c = false ∧ c ≠ '[' ∧ c ≠ '{' ∧ c ≠ ']' := by
  have digit {c : Char} (hc : c.isDigit = true) :
      isSpace c = false ∧ c ≠ '[' ∧ c ≠ '{' ∧ c ≠ ']' :=
    ⟨isSpace_of_isDigit hc, ne_of_isDigit hc (by decide), ne_of_isDigit hc (by decide),
      ne_of_isDigit hc (by decide)⟩
  cases h with
  | word h =>
    simp only [List.mem_cons, List.not_mem_nil, or_false] at h
    rcases h with rfl | rfl | rfl
    all_goals exact ⟨_, _, rfl, by decide⟩
  | unsigned h =>
    obtain ⟨whole, fraction, hwhole, -, rfl⟩ := h
    cases hwhole with
    | zero => exact ⟨_, _, rfl, by decide⟩
    | digits hc => exact ⟨_, _, rfl, digit hc⟩
  | negative => exact ⟨_, _, rfl, by decide⟩
  | string => exact ⟨_, _, rfl, by decide⟩

theorem skipScalar_append {c : Char} {v : List Char} (h : IsScalar (c :: v))
    (hrest : Stops rest) : skipScalar c (v ++ rest) = .ok rest := by
  generalize hcs : c :: v = cs at h
  cases h with
  | word h =>
    simp only [List.mem_cons, List.not_mem_nil, or_false] at h
    rcases h with rfl | rfl | rfl
    all_goals
      obtain ⟨rfl, rfl⟩ := List.cons.inj hcs
      exact scanWord_append _ rest
  | unsigned h =>
    subst hcs
    have hskip := skipNumber_append h hrest
    obtain ⟨whole, fraction, hwhole, -, heq⟩ := h
    have hc : c.isDigit = true := by
      cases hwhole with
      | zero =>
        obtain rfl := List.head_eq_of_cons_eq heq
        rfl
      | digits hc =>
        obtain rfl := List.head_eq_of_cons_eq heq
        exact hc
    rw [skipScalar.eq_def]
    split
    all_goals first
      | cases hc
      | rw [isSome_digit?, if_pos hc]
        exact hskip
  | negative h =>
    obtain ⟨rfl, rfl⟩ := List.cons.inj hcs
    exact skipNumber_append h hrest
  | @string body h =>
    obtain ⟨rfl, rfl⟩ := List.cons.inj hcs
    exact skipString_eq_ok_iff.mpr ⟨body, h, by simp⟩

/-! ### What was passed over -/

/-- What is left of open containers, the innermost one first, when a text has
closed them all. -/
inductive Closes : List Container → List Char → List Char → Prop
  | done {rest : List Char} : Closes [] rest rest
  | close {k : Container} {stack : List Container} {es : List Entry} {ds cs rest : List Char}
      (hitems : k.IsItems false es ds) (hvalues : ∀ e ∈ es, IsValue e.value)
      (h : Closes stack cs rest) : Closes (k :: stack) (ds ++ k.closer :: cs) rest

/-- What was passed over between a point of a skip and its end. -/
def Passes : SkipPoint → List Container → List Char → List Char → Prop
  | .beforeValue, stack, cs, rest =>
    ∃ front v left, AllSpace front ∧ IsValue v ∧ Closes stack left rest ∧ cs = front ++ (v ++ left)
  | .behindValue, stack, cs, rest => Closes stack cs rest
  | .behindOpener, [], cs, rest => cs = rest
  | .behindOpener, k :: stack, cs, rest =>
    ∃ es ds left, k.IsItems true es ds ∧ (∀ e ∈ es, IsValue e.value) ∧ Closes stack left rest ∧
      cs = ds ++ k.closer :: left

section Steps

variable {k : Container} {stack : List Container} {ws : List Char} {es : List Entry}

/-- A container that was opened is a value once it is closed. -/
theorem passes_opener (hws : AllSpace ws) (h : Passes .behindOpener (k :: stack) cs rest) :
    Passes .beforeValue stack (ws ++ k.opener :: cs) rest := by
  obtain ⟨es, ds, left, hitems, hvalues, hclose, rfl⟩ := h
  exact ⟨ws, _, left, hws, .container hitems hvalues, hclose, by simp⟩

/-- White space in front of an entry belongs to it, with a name or without. -/
theorem Container.IsLabel.space_append {name label front : List Char} (h : k.IsLabel name label)
    (hws : AllSpace ws) (hfront : AllSpace front) (cs : List Char) :
    ∃ label' front', k.IsLabel name label' ∧ AllSpace front' ∧
      ws ++ (label ++ (front ++ cs)) = label' ++ (front' ++ cs) := by
  cases h with
  | array => exact ⟨[], ws ++ front, .array, hws.append hfront, by simp⟩
  | object hws' hname hws'' =>
    exact ⟨_, front, .object (hws.append hws') hname hws'', hfront, by simp⟩

theorem Container.IsItems.space_append (h : k.IsItems true es cs) (hws : AllSpace ws) :
    k.IsItems true es (ws ++ cs) := by
  cases h with
  | nil hws' => exact .nil (hws.append hws')
  | first hlabel hfront h =>
    obtain ⟨label', front', hlabel', hfront', heq⟩ := hlabel.space_append hws hfront _
    rw [heq]
    exact .first hlabel' hfront' h

/-- The first entry of a container, behind the opener. -/
theorem passes_first {name label : List Char} (hlabel : k.IsLabel name label)
    (h : Passes .beforeValue (k :: stack) cs rest) :
    Passes .behindOpener (k :: stack) (label ++ cs) rest := by
  obtain ⟨front, v, left, hfront, hv, hclose, rfl⟩ := h
  cases hclose with
  | @close _ _ es ds left _ hitems hvalues hclose =>
    refine ⟨⟨name, v⟩ :: es, _, left, .first hlabel hfront hitems, ?_, hclose, by simp⟩
    exact List.forall_mem_cons.mpr ⟨hv, hvalues⟩

/-- A further entry of a container, behind its comma. -/
theorem closes_comma {name label : List Char} (hws : AllSpace ws)
    (hlabel : k.IsLabel name label) (h : Passes .beforeValue (k :: stack) cs rest) :
    Closes (k :: stack) (ws ++ ',' :: (label ++ cs)) rest := by
  obtain ⟨front, v, left, hfront, hv, hclose, rfl⟩ := h
  cases hclose with
  | @close _ _ es ds left _ hitems hvalues hclose =>
    have hentries : ∀ e ∈ ⟨name, v⟩ :: es, IsValue e.value :=
      List.forall_mem_cons.mpr ⟨hv, hvalues⟩
    have hcloses := Closes.close (.comma hws hlabel hfront hitems) hentries hclose
    simpa using hcloses

/-- The closer of a container. -/
theorem closes_closer (hws : AllSpace ws) (h : Closes stack cs rest) :
    Closes (k :: stack) (ws ++ k.closer :: cs) rest :=
  .close (.nil hws) (fun _ he => absurd he List.not_mem_nil) h

end Steps

/-- **What a skip passed over closes all that was open.** -/
theorem passes_of_skipFrom {point : SkipPoint} {stack : List Container}
    (h : skipFrom point stack cs = .ok rest) : Passes point stack cs rest := by
  fun_induction skipFrom point stack cs with
  | case1 => cases h
  | case2 stack cs left hspace hlt ih =>
    obtain ⟨-, ws, hws, rfl⟩ := skipSpace_eq_cons_iff.mp hspace
    exact passes_opener hws (ih h)
  | case3 stack cs left hspace hlt hne ih =>
    obtain ⟨-, ws, hws, rfl⟩ := skipSpace_eq_cons_iff.mp hspace
    exact passes_opener hws (ih h)
  | case4 => cases h
  | case5 stack cs c left hspace hlt harr hobj left' hscalar hle ih =>
    obtain ⟨-, ws, hws, rfl⟩ := skipSpace_eq_cons_iff.mp hspace
    obtain ⟨v, hv, rfl⟩ := exists_of_skipScalar hscalar
    exact ⟨ws, c :: v, left', hws, .scalar hv, ih h, rfl⟩
  | case6 =>
    cases h
    exact .done
  | case7 => cases h
  | case8 => cases h
  | case9 cs k stack left left' hlabel hle hspace hlt ih =>
    obtain ⟨-, ws, hws, rfl⟩ := skipSpace_eq_cons_iff.mp hspace
    obtain ⟨name, label, hname, rfl⟩ := Container.skipLabel_eq_ok_iff.mp hlabel
    exact closes_comma hws hname (ih h)
  | case10 cs k stack left hspace hlt hne ih =>
    obtain ⟨-, ws, hws, rfl⟩ := skipSpace_eq_cons_iff.mp hspace
    exact closes_closer hws (ih h)
  | case11 => cases h
  | case12 =>
    cases h
    rfl
  | case13 => cases h
  | case14 cs k stack left hspace hle hlt ih =>
    obtain ⟨-, ws, hws, rfl⟩ := skipSpace_eq_cons_iff.mp hspace
    exact ⟨[], ws, left, .nil hws, fun _ he => absurd he List.not_mem_nil, ih h, rfl⟩
  | case15 => cases h
  | case16 cs k stack c left hspace hle hne left' hlabel hlt ih =>
    obtain ⟨-, ws, hws, rfl⟩ := skipSpace_eq_cons_iff.mp hspace
    obtain ⟨name, label, hlabel, heq⟩ := Container.skipLabel_eq_ok_iff.mp hlabel
    obtain ⟨es, ds, left, hitems, hvalues, hclose, hds⟩ := passes_first hlabel (ih h)
    refine ⟨es, ws ++ ds, left, hitems.space_append hws, hvalues, hclose, ?_⟩
    rw [heq, hds, List.append_assoc]

/-! ### What is passed over -/

section Steps

variable {k : Container} {stack : List Container} {ws left : List Char} {c : Char}

theorem skipFrom_beforeValue (h : skipSpace cs = c :: left) :
    skipFrom .beforeValue stack cs
      = if c = '[' then skipFrom .behindOpener (.array :: stack) left
        else if c = '{' then skipFrom .behindOpener (.object :: stack) left
        else (skipScalar c left).bind (skipFrom .behindValue stack) := by
  conv_lhs => rw [skipFrom]
  split
  next h' =>
    rw [h] at h'
    cases h'
  next h' =>
    rw [h] at h'
    cases h'
    congr 2
    split
    next hs => exact (congrArg (Except.bind · _) hs).symm
    next hs => exact (congrArg (Except.bind · _) hs).symm

theorem skipFrom_behindValue (h : skipSpace cs = c :: left) :
    skipFrom .behindValue (k :: stack) cs
      = if c = ',' then (k.skipLabel left).bind (skipFrom .beforeValue (k :: stack))
        else if c = k.closer then skipFrom .behindValue stack left
        else .error (.at k.separatorDue (c :: left)) := by
  conv_lhs => rw [skipFrom]
  split
  next h' =>
    rw [h] at h'
    cases h'
  next h' =>
    rw [h] at h'
    cases h'
    congr 1
    split
    next hl => exact (congrArg (Except.bind · _) hl).symm
    next hl => exact (congrArg (Except.bind · _) hl).symm

theorem skipFrom_behindOpener (h : skipSpace cs = c :: left) :
    skipFrom .behindOpener (k :: stack) cs
      = if c = k.closer then skipFrom .behindValue stack left
        else (k.skipLabel (c :: left)).bind (skipFrom .beforeValue (k :: stack)) := by
  conv_lhs => rw [skipFrom]
  split
  next h' =>
    rw [h] at h'
    cases h'
  next h' =>
    rw [h] at h'
    cases h'
    dsimp only
    congr 1
    split
    next hl => exact (congrArg (Except.bind · _) hl).symm
    next hl => exact (congrArg (Except.bind · _) hl).symm

theorem Container.isSpace_opener (k : Container) : isSpace k.opener = false := by
  cases k
  · rfl
  · rfl

theorem Container.isSpace_closer (k : Container) : isSpace k.closer = false := by
  cases k
  · rfl
  · rfl

theorem Container.closer_ne_comma (k : Container) : k.closer ≠ ',' := by
  cases k
  · decide
  · decide

theorem skipSpace_of_eq (hws : AllSpace ws) (hc : isSpace c = false) (left : List Char) :
    skipSpace (ws ++ c :: left) = c :: left :=
  skipSpace_eq_cons_iff.mpr ⟨hc, ws, hws, rfl⟩

theorem skipFrom_opener (hws : AllSpace ws) (cs : List Char) :
    skipFrom .beforeValue stack (ws ++ k.opener :: cs)
      = skipFrom .behindOpener (k :: stack) cs := by
  rw [skipFrom_beforeValue (skipSpace_of_eq hws k.isSpace_opener cs)]
  cases k
  · rfl
  · rfl

theorem skipFrom_scalar (h : skipSpace cs = c :: left) (harr : c ≠ '[') (hobj : c ≠ '{')
    (hscalar : skipScalar c left = .ok rest) :
    skipFrom .beforeValue stack cs = skipFrom .behindValue stack rest := by
  rw [skipFrom_beforeValue h, if_neg harr, if_neg hobj, hscalar]
  rfl

theorem skipFrom_comma {name label : List Char} (hws : AllSpace ws) (hlabel : k.IsLabel name label)
    (cs : List Char) :
    skipFrom .behindValue (k :: stack) (ws ++ ',' :: (label ++ cs))
      = skipFrom .beforeValue (k :: stack) cs := by
  rw [skipFrom_behindValue (skipSpace_of_eq hws rfl _), if_pos rfl,
    Container.skipLabel_eq_ok_iff.mpr ⟨name, label, hlabel, rfl⟩]
  rfl

/-- The closer behind an entry. -/
theorem skipFrom_closer (hws : AllSpace ws) (cs : List Char) :
    skipFrom .behindValue (k :: stack) (ws ++ k.closer :: cs) = skipFrom .behindValue stack cs := by
  rw [skipFrom_behindValue (skipSpace_of_eq hws k.isSpace_closer cs), if_neg k.closer_ne_comma,
    if_pos rfl]

/-- The closer behind the opener. -/
theorem skipFrom_empty (hws : AllSpace ws) (cs : List Char) :
    skipFrom .behindOpener (k :: stack) (ws ++ k.closer :: cs)
      = skipFrom .behindValue stack cs := by
  rw [skipFrom_behindOpener (skipSpace_of_eq hws k.isSpace_closer cs), if_pos rfl]

theorem skipFrom_space (h : skipSpace cs = c :: left) :
    skipFrom .beforeValue stack (c :: left) = skipFrom .beforeValue stack cs := by
  obtain ⟨hc, -⟩ := skipSpace_eq_cons_iff.mp h
  rw [skipFrom_beforeValue h, skipFrom_beforeValue (skipSpace_cons hc left)]

/-- The first entry behind the opener: its value does not start like the closer of an array. -/
theorem skipFrom_first {name label : List Char} (hlabel : k.IsLabel name label)
    (h : skipSpace cs = c :: left) (hc : c ≠ ']') :
    skipFrom .behindOpener (k :: stack) (label ++ cs) = skipFrom .beforeValue (k :: stack) cs := by
  cases hlabel with
  | array =>
    have hne : c ≠ Container.array.closer := hc
    rw [List.nil_append, skipFrom_behindOpener h, if_neg hne, ← skipFrom_space h]
    rfl
  | @object name ws ws' hws hname hws' =>
    have hskip : Container.object.skipLabel ('"' :: (name ++ '"' :: (ws' ++ ':' :: cs))) = .ok cs :=
      Container.skipLabel_eq_ok_iff.mpr ⟨name, _, .object allSpace_nil hname hws', by simp⟩
    have hspace : skipSpace (ws ++ '"' :: (name ++ '"' :: (ws' ++ [':'])) ++ cs)
        = '"' :: (name ++ '"' :: (ws' ++ ':' :: cs)) := by
      refine skipSpace_eq_cons_iff.mpr ⟨rfl, ws, hws, ?_⟩
      simp
    rw [skipFrom_behindOpener hspace, if_neg (by decide), hskip]
    rfl

end Steps

/-- A value starts with a character that is neither white space nor the closer of an array. -/
theorem IsValue.exists_cons {v : List Char} (h : IsValue v) :
    ∃ c v', v = c :: v' ∧ isSpace c = false ∧ c ≠ ']' := by
  cases h with
  | scalar h =>
    obtain ⟨c, v', rfl, hc, -, -, hne⟩ := h.exists_cons
    exact ⟨c, v', rfl, hc, hne⟩
  | @container k es ds h hvalues =>
    refine ⟨_, _, rfl, k.isSpace_opener, ?_⟩
    cases k
    all_goals decide

/-- The text of a value is not empty. -/
theorem not_isText_nil : ¬ IsText [] := by
  rintro ⟨front, v, back, -, hv, -, h⟩
  obtain ⟨c, v', rfl, -⟩ := hv.exists_cons
  simp at h

/-- The value is passed over whatever is open around it, where a value may end. -/
def IsPassed (v : List Char) : Prop :=
  ∀ {front rest : List Char} (stack : List Container), AllSpace front → Stops rest →
    skipFrom .beforeValue stack (front ++ (v ++ rest)) = skipFrom .behindValue stack rest

section Items

variable {k : Container} {es : List Entry} {ds : List Char}

theorem Container.stops_closer (k : Container) (rest : List Char) : Stops (k.closer :: rest) := by
  cases k
  · exact .inr (.inr (.inl rfl))
  · exact .inr (.inr (.inr rfl))

/-- Behind an entry a value may end. -/
theorem Container.IsItems.stops (h : k.IsItems false es ds) (rest : List Char) :
    Stops (ds ++ k.closer :: rest) := by
  cases h with
  | nil hws => exact hws.stops (k.stops_closer rest)
  | comma hws =>
    rw [List.append_assoc]
    exact hws.stops (.inr (.inl rfl))

theorem Container.IsItems.passed_behind (h : k.IsItems false es ds)
    (hvalues : ∀ e ∈ es, IsPassed e.value) (stack : List Container) (rest : List Char) :
    skipFrom .behindValue (k :: stack) (ds ++ k.closer :: rest)
      = skipFrom .behindValue stack rest := by
  induction es generalizing ds with
  | nil =>
    cases h with
    | nil hws => exact skipFrom_closer hws rest
  | cons e es ih =>
    obtain ⟨hvalue, hvalues⟩ := List.forall_mem_cons.mp hvalues
    cases h with
    | @comma _ _ ws label front cs hws hlabel hfront h =>
      calc skipFrom .behindValue (k :: stack)
            (ws ++ ',' :: (label ++ (front ++ (e.value ++ cs))) ++ k.closer :: rest)
          = skipFrom .behindValue (k :: stack)
              (ws ++ ',' :: (label ++ (front ++ (e.value ++ (cs ++ k.closer :: rest))))) := by
            simp
        _ = skipFrom .beforeValue (k :: stack)
              (front ++ (e.value ++ (cs ++ k.closer :: rest))) := skipFrom_comma hws hlabel _
        _ = skipFrom .behindValue (k :: stack) (cs ++ k.closer :: rest) :=
            hvalue (k :: stack) hfront (h.stops rest)
        _ = skipFrom .behindValue stack rest := ih h hvalues

theorem Container.IsItems.passed (h : k.IsItems true es ds)
    (hvalues : ∀ e ∈ es, IsValue e.value ∧ IsPassed e.value) (stack : List Container)
    (rest : List Char) :
    skipFrom .behindOpener (k :: stack) (ds ++ k.closer :: rest)
      = skipFrom .behindValue stack rest := by
  cases h with
  | nil hws => exact skipFrom_empty hws rest
  | @first e es label front cs hlabel hfront h =>
    obtain ⟨⟨hvalue, hpassed⟩, hvalues⟩ := List.forall_mem_cons.mp hvalues
    obtain ⟨c, v, hv, hc, hne⟩ := hvalue.exists_cons
    have hspace : skipSpace (front ++ (e.value ++ (cs ++ k.closer :: rest)))
        = c :: (v ++ (cs ++ k.closer :: rest)) := by
      rw [hv]
      exact skipSpace_of_eq hfront hc _
    calc skipFrom .behindOpener (k :: stack)
          (label ++ (front ++ (e.value ++ cs)) ++ k.closer :: rest)
        = skipFrom .behindOpener (k :: stack)
            (label ++ (front ++ (e.value ++ (cs ++ k.closer :: rest)))) := by
          simp
      _ = skipFrom .beforeValue (k :: stack) (front ++ (e.value ++ (cs ++ k.closer :: rest))) :=
          skipFrom_first hlabel hspace hne
      _ = skipFrom .behindValue (k :: stack) (cs ++ k.closer :: rest) :=
          hpassed (k :: stack) hfront (h.stops rest)
      _ = skipFrom .behindValue stack rest :=
          h.passed_behind (fun e he => (hvalues e he).2) stack rest

end Items

theorem IsScalar.passed {v : List Char} (h : IsScalar v) : IsPassed v := by
  intro front rest stack hfront hrest
  obtain ⟨c, v, rfl, hc, harr, hobj, -⟩ := h.exists_cons
  exact skipFrom_scalar (skipSpace_of_eq hfront hc _) harr hobj (skipScalar_append h hrest)

/-- **A value is passed over**, whatever is open around it. -/
theorem IsValue.passed {v : List Char} (h : IsValue v) : IsPassed v := by
  induction h with
  | scalar h => exact h.passed
  | @container k es ds h hvalues ih =>
    intro front rest stack hfront hrest
    rw [List.cons_append, List.append_assoc, List.singleton_append, skipFrom_opener hfront]
    exact h.passed (fun e he => ⟨hvalues e he, ih e he⟩) stack rest

/-! ### Skipped values -/

theorem reads_skipValue_iff :
    Reads skipValue cs () rest ↔ skipFrom .beforeValue [] cs = .ok rest := by
  constructor
  · rintro ⟨hlt, h⟩
    rw [skipValue] at h
    split at h
    · cases h
    next hskip =>
      cases h
      exact hskip
  · intro h
    refine ⟨(length_skipFrom h).2 rfl, ?_⟩
    rw [skipValue]
    split
    next h' =>
      rw [h] at h'
      cases h'
    next h' =>
      rw [h] at h'
      cases h'
      rfl

/-- **What was skipped is a value.** -/
theorem exists_of_skipValue (h : Reads skipValue cs () rest) :
    ∃ front v, AllSpace front ∧ IsValue v ∧ cs = front ++ (v ++ rest) := by
  obtain ⟨front, v, left, hfront, hv, hclose, rfl⟩ := passes_of_skipFrom (reads_skipValue_iff.mp h)
  cases hclose
  exact ⟨front, v, hfront, hv, rfl⟩

/-- **A value is skipped** where a value may end. -/
theorem reads_skipValue {front v : List Char} (hfront : AllSpace front) (hv : IsValue v)
    (hrest : Stops rest) : Reads skipValue (front ++ (v ++ rest)) () rest := by
  rw [reads_skipValue_iff, hv.passed [] hfront hrest, skipFrom]

/-! ### One way to read a text -/

section Unique

variable {ws ws' front front' v v' body body' rest' : List Char} {c c' : Char}

theorem eq_of_space (hws : AllSpace ws) (hws' : AllSpace ws') (hc : isSpace c = false)
    (hc' : isSpace c' = false) (h : ws ++ c :: rest = ws' ++ c' :: rest') :
    c = c' ∧ rest = rest' := by
  have hspace := skipSpace_of_eq hws hc rest
  rw [h, skipSpace_of_eq hws' hc' rest', List.cons.injEq] at hspace
  exact ⟨hspace.1.symm, hspace.2.symm⟩

theorem IsBody.unique (h : IsBody body) (h' : IsBody body')
    (heq : body ++ '"' :: rest = body' ++ '"' :: rest') : body = body' ∧ rest = rest' := by
  have hskip : skipString (body ++ '"' :: rest) = .ok rest :=
    skipString_eq_ok_iff.mpr ⟨body, h, rfl⟩
  rw [heq, skipString_eq_ok_iff.mpr ⟨body', h', rfl⟩] at hskip
  obtain rfl := Except.ok.inj hskip
  exact ⟨List.append_cancel_right heq, rfl⟩

/-- **Where a value may end, it ends in one place.** -/
theorem IsValue.unique (hv : IsValue v) (hv' : IsValue v') (hfront : AllSpace front)
    (hfront' : AllSpace front') (hrest : Stops rest) (hrest' : Stops rest')
    (h : front ++ (v ++ rest) = front' ++ (v' ++ rest')) : v = v' ∧ rest = rest' := by
  have hskip := hv.passed [] hfront hrest
  rw [h, hv'.passed [] hfront' hrest', skipFrom, skipFrom] at hskip
  obtain rfl := Except.ok.inj hskip
  refine ⟨?_, rfl⟩
  obtain ⟨c, u, rfl, hc, -⟩ := hv.exists_cons
  obtain ⟨c', u', rfl, hc', -⟩ := hv'.exists_cons
  obtain ⟨rfl, htail⟩ := eq_of_space hfront hfront' hc hc' h
  exact congrArg _ (List.append_cancel_right htail)

/-- A member ends in one place, and its name and its value stand in one place each. -/
theorem member_unique {m m' : Entry} {vs vs' : List Char} (hws : AllSpace ws)
    (hws' : AllSpace ws') (hname : IsBody m.name) (hname' : IsBody m'.name) (hvs : AllSpace vs)
    (hvs' : AllSpace vs') (hfront : AllSpace front) (hfront' : AllSpace front')
    (hvalue : IsValue m.value) (hvalue' : IsValue m'.value) (hrest : Stops rest)
    (hrest' : Stops rest')
    (h : ws ++ '"' :: (m.name ++ '"' :: (vs ++ ':' :: (front ++ (m.value ++ rest))))
      = ws' ++ '"' :: (m'.name ++ '"' :: (vs' ++ ':' :: (front' ++ (m'.value ++ rest'))))) :
    m = m' ∧ rest = rest' := by
  obtain ⟨-, hnamed⟩ := eq_of_space hws hws' rfl rfl h
  obtain ⟨hn, hcolon⟩ := hname.unique hname' hnamed
  obtain ⟨-, hvalued⟩ := eq_of_space hvs hvs' rfl rfl hcolon
  obtain ⟨hv, heq⟩ := hvalue.unique hvalue' hfront hfront' hrest hrest' hvalued
  obtain ⟨name, value⟩ := m
  obtain ⟨name', value'⟩ := m'
  exact ⟨congrArg₂ _ hn hv, heq⟩

theorem Container.IsItems.unique {first : Bool} {ms ms' : List Entry} {ds ds' : List Char}
    (h : Container.object.IsItems first ms ds) (hvalues : ∀ m ∈ ms, IsValue m.value)
    (h' : Container.object.IsItems first ms' ds') (hvalues' : ∀ m ∈ ms', IsValue m.value)
    (heq : ds ++ '}' :: rest = ds' ++ '}' :: rest') : ms = ms' := by
  induction h generalizing ms' ds' with
  | nil hws =>
    cases h' with
    | nil => rfl
    | first hlabel' =>
      cases hlabel' with
      | object hws' =>
        simp only [List.append_assoc, List.cons_append] at heq
        exact absurd (eq_of_space hws hws' rfl rfl heq).1 (by decide)
    | comma hws' =>
      simp only [List.append_assoc, List.cons_append] at heq
      exact absurd (eq_of_space hws hws' rfl rfl heq).1 (by decide)
  | first hlabel hfront hitems ih =>
    obtain ⟨hvalue, hothers⟩ := List.forall_mem_cons.mp hvalues
    cases hlabel with
    | object hws hname hvs =>
      simp only [List.append_assoc, List.cons_append, List.nil_append] at heq
      cases h' with
      | nil hws' => exact absurd (eq_of_space hws hws' rfl rfl heq).1 (by decide)
      | first hlabel' hfront' hitems' =>
        obtain ⟨hvalue', hothers'⟩ := List.forall_mem_cons.mp hvalues'
        cases hlabel' with
        | object hws' hname' hvs' =>
          simp only [List.append_assoc, List.cons_append, List.nil_append] at heq
          obtain ⟨rfl, hbehind⟩ := member_unique hws hws' hname hname' hvs hvs' hfront hfront'
            hvalue hvalue' (hitems.stops rest) (hitems'.stops rest') heq
          exact congrArg _ (ih hothers hitems' hothers' hbehind)
  | comma hus hlabel hfront hitems ih =>
    obtain ⟨hvalue, hothers⟩ := List.forall_mem_cons.mp hvalues
    cases hlabel with
    | object hws hname hvs =>
      simp only [List.append_assoc, List.cons_append, List.nil_append] at heq
      cases h' with
      | nil hus' => exact absurd (eq_of_space hus hus' rfl rfl heq).1 (by decide)
      | comma hus' hlabel' hfront' hitems' =>
        obtain ⟨hvalue', hothers'⟩ := List.forall_mem_cons.mp hvalues'
        cases hlabel' with
        | object hws' hname' hvs' =>
          simp only [List.append_assoc, List.cons_append, List.nil_append] at heq
          obtain ⟨-, hcomma⟩ := eq_of_space hus hus' rfl rfl heq
          obtain ⟨rfl, hbehind⟩ := member_unique hws hws' hname hname' hvs hvs' hfront hfront'
            hvalue hvalue' (hitems.stops rest) (hitems'.stops rest') hcomma
          exact congrArg _ (ih hothers hitems' hothers' hbehind)

/-- **The text of an object has one list of members.** -/
theorem IsObject.unique {ms ms' : List Entry} (h : IsObject ms cs) (h' : IsObject ms' cs) :
    ms = ms' := by
  obtain ⟨front, inside, back, hfront, hinside, hvalues, -, rfl⟩ := h
  obtain ⟨front', inside', back', hfront', hinside', hvalues', -, heq⟩ := h'
  obtain ⟨-, heq⟩ := eq_of_space hfront hfront' rfl rfl heq
  exact hinside.unique hvalues hinside' hvalues' heq

end Unique

end Passkey.Json
