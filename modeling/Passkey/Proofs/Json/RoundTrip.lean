/-
Passkey/Proofs/Json/RoundTrip.lean

The text of a value reads back as its normal form.

A writer may list the members of an object in any order; a reader keeps them
in the order of their names, and of several with one name only the last.  The
normal form of a value does this to every object in it, so

    parse (text v)  =  normal v

for every value whose numbers are integers of a machine word and which is not
nested more deeply than a reader goes (`parse_text`).  The proof follows the
nesting: what stands inside comes back, hence the items and members around it,
whatever follows them in the text.
-/
import Passkey.Proofs.Json.Members
import Passkey.Proofs.Json.Scalars

namespace Passkey.Json

/-! ### Normal forms -/

mutual

/-- The value with the members of every object in order. -/
def Value.normal : Value → Value
  | .null => .null
  | .bool b => .bool b
  | .num n => .num n
  | .str s => .str s
  | .arr items => .arr (normalItems items)
  | .obj members => .obj (Members.ordered (normalMembers members))

/-- Items in normal form. -/
def normalItems : List Value → List Value
  | [] => []
  | v :: rest => v.normal :: normalItems rest

/-- Members with their values in normal form, in the order in which they are written. -/
def normalMembers : Members → Members
  | [] => []
  | (name, v) :: rest => (name, v.normal) :: normalMembers rest

end

theorem normalItems_eq (items : List Value) : normalItems items = items.map Value.normal := by
  induction items with
  | nil => rfl
  | cons v items ih => rw [normalItems, ih, List.map_cons]

theorem normal_ofTexts (texts : List String) :
    (Value.ofTexts texts).normal = .ofTexts texts := by
  rw [Value.ofTexts, Value.normal, normalItems_eq, List.map_map]
  rfl

theorem normalMembers_eq (ms : Members) :
    normalMembers ms = ms.map fun m => (m.1, m.2.normal) := by
  induction ms with
  | nil => rfl
  | cons m ms ih => rw [normalMembers, ih, List.map_cons]

theorem map_fst_normalMembers (ms : Members) :
    (normalMembers ms).map (·.1) = ms.map (·.1) := by
  rw [normalMembers_eq, List.map_map]
  rfl

theorem get?_normalMembers (ms : Members) (name : String) :
    (normalMembers ms).get? name = (ms.get? name).map Value.normal := by
  induction ms with
  | nil => rfl
  | cons m ms ih =>
    rw [normalMembers, Members.get?_cons, Members.get?_cons, ih]
    by_cases h : m.1 = name
    · rw [if_pos h, if_pos h]
      rfl
    · rw [if_neg h, if_neg h]

/-- Members with different names are looked up in normal form as they were before. -/
theorem get?_ordered_normalMembers {ms : Members} (h : (ms.map (·.1)).Nodup) (name : String) :
    (Members.ordered (normalMembers ms)).get? name = (ms.get? name).map Value.normal := by
  rw [Members.get?_ordered_of_nodup (by rwa [map_fst_normalMembers]), get?_normalMembers]

/-- A value whose numbers are integers of a machine word, and whose arrays and
objects are nested at most `depth` deep. -/
inductive Value.Fits : Nat → Value → Prop
  | null {depth : Nat} : Fits depth .null
  | bool {depth : Nat} (b : Bool) : Fits depth (.bool b)
  | int {depth : Nat} {i : Int} (h : IsWord i) : Fits depth (.num (.int i))
  | str {depth : Nat} (s : String) : Fits depth (.str s)
  | arr {depth : Nat} {items : List Value} (h : ∀ v ∈ items, Fits depth v) :
    Fits (depth + 1) (.arr items)
  | obj {depth : Nat} {members : Members} (h : ∀ m ∈ members, Fits depth m.2) :
    Fits (depth + 1) (.obj members)

theorem Value.fits_ofTexts (texts : List String) (depth : Nat) :
    (Value.ofTexts texts).Fits (depth + 1) := by
  refine .arr fun v hv => ?_
  obtain ⟨t, -, rfl⟩ := List.mem_map.mp hv
  exact .str t

/-! ### Where a value starts -/

/-- A value starts here: no blank, and not the end of an array. -/
def Starts (cs : List Char) : Prop :=
  ∃ c rest, cs = c :: rest ∧ isSpace c = false ∧ c ≠ ']'

theorem starts_cons {c : Char} (hc : isSpace c = false) (hne : c ≠ ']') (cs : List Char) :
    Starts (c :: cs) :=
  ⟨c, cs, rfl, hc, hne⟩

theorem Starts.append {cs : List Char} (h : Starts cs) (ds : List Char) : Starts (cs ++ ds) := by
  obtain ⟨c, rest, rfl, hc, hne⟩ := h
  exact starts_cons hc hne _

theorem isSpace_of_isDigit {c : Char} (h : c.isDigit = true) : isSpace c = false := by
  rw [isSpace, Bool.or_eq_false_iff, Bool.or_eq_false_iff, Bool.or_eq_false_iff]
  refine ⟨⟨⟨?_, ?_⟩, ?_⟩, ?_⟩
  all_goals
    rw [beq_eq_false_iff_ne]
    rintro rfl
    exact absurd h (by decide)

theorem ne_of_isDigit {c d : Char} (h : c.isDigit = true) (hd : d.isDigit = false) : c ≠ d := by
  rintro rfl
  rw [h] at hd
  cases hd

/-- The digits of a number, the first one apart. -/
theorem exists_toDigits (n : Nat) :
    ∃ c cs, Nat.toDigits 10 n = c :: cs ∧ c.isDigit = true := by
  rcases h : Nat.toDigits 10 n with - | ⟨c, cs⟩
  · exact absurd h Nat.toDigits_ne_nil
  · refine ⟨c, cs, rfl, Nat.isDigit_of_mem_toDigits (b := 10) (n := n) (by decide) (by decide) ?_⟩
    rw [h]
    exact List.mem_cons_self

theorem starts_intChars (i : Int) : Starts (intChars i) := by
  rw [intChars]
  split
  · exact starts_cons (by decide) (by decide) _
  · obtain ⟨c, cs, hcs, hc⟩ := exists_toDigits i.natAbs
    rw [hcs]
    exact starts_cons (isSpace_of_isDigit hc) (ne_of_isDigit hc (by decide)) _

theorem Value.Fits.starts {depth : Nat} {v : Value} (h : v.Fits depth) : Starts v.chars := by
  cases h with
  | null => exact starts_cons (by decide) (by decide) _
  | bool b =>
    cases b
    · exact starts_cons (by decide) (by decide) _
    · exact starts_cons (by decide) (by decide) _
  | int => exact starts_intChars _
  | str => exact starts_cons (by decide) (by decide) _
  | arr => exact starts_cons (by decide) (by decide) _
  | obj => exact starts_cons (by decide) (by decide) _

/-! ### Scalars -/

section Scalars

variable {c : Char} {cs rest : List Char} {v : Value}

theorem skipSpace_cons (hc : isSpace c = false) (cs : List Char) :
    skipSpace (c :: cs) = c :: cs :=
  List.dropWhile_cons_of_neg (by rw [hc]; exact Bool.false_ne_true)

/-- A value that is neither array nor object is read as a scalar at every depth. -/
theorem readValue_scalar (hc : isSpace c = false) (harr : c ≠ '[') (hobj : c ≠ '{')
    (depth : Nat) (cs : List Char) : readValue depth (c :: cs) = readScalar c cs := by
  rw [readValue.eq_def]
  split
  · next h =>
    rw [skipSpace_cons hc] at h
    cases h
  · next c' cs' h =>
    rw [skipSpace_cons hc] at h
    cases h
    rcases depth with - | depth
    · dsimp only
      split
      · exact absurd rfl harr
      · exact absurd rfl hobj
      · rcases readScalar c cs with f | p
        · rfl
        · rfl
    · dsimp only
      split
      · exact absurd rfl harr
      · exact absurd rfl hobj
      · rcases readScalar c cs with f | p
        · rfl
        · rfl

theorem reads_of_readScalar (hc : isSpace c = false) (harr : c ≠ '[') (hobj : c ≠ '{')
    (h : ∃ hlt, readScalar c cs = .ok ⟨v, rest, hlt⟩) (depth : Nat) :
    Reads (readValue depth) (c :: cs) v rest := by
  obtain ⟨hlt, hs⟩ := h
  exact ⟨hlt, (readValue_scalar hc harr hobj depth cs).trans hs⟩

theorem scanWord_append (word rest : List Char) : scanWord word (word ++ rest) = .ok rest := by
  induction word with
  | nil => rfl
  | cons w word ih => rw [List.cons_append, scanWord, if_pos rfl, ih]

theorem readWord_append (word : String) (v : Value) (c : Char) (rest : List Char) :
    ∃ h, readWord word v c (word.toList ++ rest) = .ok ⟨v, rest, h⟩ := by
  have hs := scanWord_append word.toList rest
  refine ⟨Nat.lt_succ_of_le (length_scanWord hs), ?_⟩
  rw [readWord]
  split
  · next f hf =>
    rw [hs] at hf
    cases hf
  · next left hl =>
    rw [hs] at hl
    cases hl
    rfl

theorem reads_null (depth : Nat) (rest : List Char) :
    Reads (readValue depth) (Value.null.chars ++ rest) .null rest :=
  reads_of_readScalar (c := 'n') (by decide) (by decide) (by decide)
    (readWord_append "ull" .null 'n' rest) depth

theorem reads_bool (depth : Nat) (b : Bool) (rest : List Char) :
    Reads (readValue depth) ((Value.bool b).chars ++ rest) (.bool b) rest := by
  rcases b with - | -
  · exact reads_of_readScalar (c := 'f') (by decide) (by decide) (by decide)
      (readWord_append "alse" (.bool false) 'f' rest) depth
  · exact reads_of_readScalar (c := 't') (by decide) (by decide) (by decide)
      (readWord_append "rue" (.bool true) 't' rest) depth

theorem stringChars_append (s : String) (rest : List Char) :
    stringChars s ++ rest = '"' :: (s.toList.flatMap escapeChar ++ '"' :: rest) := by
  simp [stringChars]

theorem reads_stringChars (depth : Nat) (s : String) (rest : List Char) :
    Reads (readValue depth) (stringChars s ++ rest) (.str s) rest := by
  obtain ⟨h, hr⟩ := reads_string s rest
  rw [stringChars_append]
  refine reads_of_readScalar (by decide) (by decide) (by decide) ⟨Nat.lt_succ_of_lt h, ?_⟩ depth
  show (readString _).map _ = _
  rw [hr]
  rfl

theorem readScalar_digit (hc : c.isDigit = true) (cs : List Char) :
    readScalar c cs = readUnsigned false (c :: cs) := by
  rw [readScalar.eq_def]
  split
  · cases hc
  · cases hc
  · cases hc
  · cases hc
  · cases hc
  · rw [digit?_of_isDigit hc]
    exact if_pos rfl

/-- **An integer of a machine word comes back** where a value may end. -/
theorem reads_intChars {i : Int} (hi : IsWord i) (hr : Ends rest) (depth : Nat) :
    Reads (readValue depth) (intChars i ++ rest) (.num (.int i)) rest := by
  obtain ⟨hlo, hhi⟩ := hi
  have hle : i.natAbs ≤ maxSignificand := by
    rw [maxSignificand]
    omega
  rw [intChars]
  split
  · next hneg =>
    have hint : integerOf true i.natAbs = .int i := by
      rw [integerOf, if_pos rfl, if_neg (by omega)]
      exact congrArg Number.int (by omega)
    have hu := reads_unsigned true hle hr
    rw [hint] at hu
    obtain ⟨h, hu⟩ := hu
    rw [List.cons_append]
    refine reads_of_readScalar (by decide) (by decide) (by decide) ⟨Nat.lt_succ_of_lt h, ?_⟩ depth
    show (readUnsigned true _).map _ = _
    rw [hu]
    rfl
  · next hpos =>
    have hint : integerOf false i.natAbs = .int i := congrArg Number.int (by omega)
    have hu := reads_unsigned false hle hr
    obtain ⟨c, cs, hcs, hc⟩ := exists_toDigits i.natAbs
    rw [hint, hcs, List.cons_append] at hu
    rw [hcs, List.cons_append]
    obtain ⟨h, hu⟩ := hu
    refine reads_of_readScalar (isSpace_of_isDigit hc) (ne_of_isDigit hc (by decide))
      (ne_of_isDigit hc (by decide)) ⟨h, ?_⟩ depth
    exact (readScalar_digit hc _).trans hu

end Scalars

/-! ### Arrays -/

section Arrays

variable {item : Reader Value} {cs rest : List Char} {v : Value} {vs : List Value}

theorem reads_items_nil (item : Reader Value) (first : Bool) (rest : List Char) :
    Reads (readItems item first) (']' :: rest) [] rest := by
  refine ⟨Nat.lt_succ_self _, ?_⟩
  rw [readItems]
  rfl

theorem nextItem_first (h : Starts cs) :
    nextItem true cs = .ok (some ⟨cs, Nat.le_refl _⟩) := by
  obtain ⟨c, cs, rfl, hc, hne⟩ := h
  rw [nextItem]
  split
  · next h =>
    rw [skipSpace_cons hc] at h
    cases h
  · next h =>
    rw [skipSpace_cons hc] at h
    cases h
    exact absurd rfl hne
  · next h =>
    rw [skipSpace_cons hc] at h
    cases h
    rfl

theorem nextItem_comma (h : Starts cs) :
    nextItem false (',' :: cs) = .ok (some ⟨cs, Nat.le_succ _⟩) := by
  obtain ⟨c, cs, rfl, hc, hne⟩ := h
  have hs : skipSpace (',' :: c :: cs) = ',' :: c :: cs := rfl
  rw [nextItem]
  split
  · next h => cases h
  · next h => cases h
  · next h =>
    cases h
    dsimp only
    rw [if_neg Bool.false_ne_true, if_pos rfl]
    split
    · next h =>
      rw [skipSpace_cons hc] at h
      cases h
    · next h =>
      rw [skipSpace_cons hc] at h
      cases h
      exact absurd rfl hne
    · next h =>
      rw [skipSpace_cons hc] at h
      cases h
      rfl

/-- The first item, and what the items behind it give. -/
theorem reads_items_first (hs : Starts cs) (hv : Reads item cs v rest)
    {left : List Char} (hvs : Reads (readItems item false) rest vs left) :
    Reads (readItems item true) cs (v :: vs) left := by
  obtain ⟨hlt, hv⟩ := hv
  obtain ⟨hlt', hvs⟩ := hvs
  refine ⟨Nat.lt_trans hlt' hlt, ?_⟩
  rw [readItems, nextItem_first hs]
  simp only [hv, hvs]

/-- A further item behind its comma, and what the items behind it give. -/
theorem reads_items_comma (hs : Starts cs) (hv : Reads item cs v rest)
    {left : List Char} (hvs : Reads (readItems item false) rest vs left) :
    Reads (readItems item false) (',' :: cs) (v :: vs) left := by
  obtain ⟨hlt, hv⟩ := hv
  obtain ⟨hlt', hvs⟩ := hvs
  refine ⟨Nat.lt_succ_of_lt (Nat.lt_trans hlt' hlt), ?_⟩
  rw [readItems, nextItem_comma hs]
  simp only [hv, hvs]

end Arrays

/-! ### Objects -/

section Objects

variable {σ : Type} {member : σ → Reader σ} {s t : σ} {cs rest left : List Char}

theorem reads_members_nil (member : σ → Reader σ) (s : σ) (first : Bool) (rest : List Char) :
    Reads (foldMembers member s first) ('}' :: rest) s rest := by
  refine ⟨Nat.lt_succ_self _, ?_⟩
  rw [foldMembers]
  rfl

/-- The first member, and what the members behind it give. -/
theorem reads_members_first {s' : σ} (hm : Reads (member s) cs s' rest)
    (hms : Reads (foldMembers member s' false) rest t left) :
    Reads (foldMembers member s true) ('"' :: cs) t left := by
  obtain ⟨hlt, hm⟩ := hm
  obtain ⟨hlt', hms⟩ := hms
  have hnext : nextMember true ('"' :: cs) = .ok (some ⟨cs, Nat.le_succ _⟩) := rfl
  refine ⟨Nat.lt_succ_of_lt (Nat.lt_trans hlt' hlt), ?_⟩
  rw [foldMembers, hnext]
  simp only [hm, hms]

/-- A further member behind its comma, and what the members behind it give. -/
theorem reads_members_comma {s' : σ} (hm : Reads (member s) cs s' rest)
    (hms : Reads (foldMembers member s' false) rest t left) :
    Reads (foldMembers member s false) (',' :: '"' :: cs) t left := by
  obtain ⟨hlt, hm⟩ := hm
  obtain ⟨hlt', hms⟩ := hms
  have hnext : nextMember false (',' :: '"' :: cs)
      = .ok (some ⟨cs, Nat.le_succ_of_le (Nat.le_succ _)⟩) := rfl
  refine ⟨Nat.lt_succ_of_lt (Nat.lt_succ_of_lt (Nat.lt_trans hlt' hlt)), ?_⟩
  rw [foldMembers, hnext]
  simp only [hm, hms]

theorem reads_memberValue {value : Reader Value} {v : Value} (hv : Reads value cs v rest) :
    Reads (readMemberValue value) (':' :: cs) v rest := by
  obtain ⟨hlt, hv⟩ := hv
  refine ⟨Nat.lt_succ_of_lt hlt, ?_⟩
  show (value cs).map _ = _
  rw [hv]
  rfl

/-- A member comes back behind the quote of its name and is put into its place. -/
theorem reads_insertMember {value : Reader Value} {v : Value} (name : String) (ms : Members)
    (hv : Reads value cs v rest) :
    Reads (insertMember value ms) (name.toList.flatMap escapeChar ++ '"' :: ':' :: cs)
      (ms.insert name v) rest := by
  obtain ⟨hlt, hn⟩ := reads_string name (':' :: cs)
  obtain ⟨hlt', hv⟩ := reads_memberValue hv
  refine ⟨Nat.lt_trans hlt' hlt, ?_⟩
  rw [insertMember, hn]
  simp only [hv]
  rfl

end Objects

/-! ### Values -/

/-- An item of an array with everything behind it, commas included. -/
theorem itemsChars_cons (v : Value) (vs : List Value) :
    itemsChars (v :: vs) = v.chars ++ vs.flatMap fun w => ',' :: w.chars := by
  induction vs generalizing v with
  | nil => rw [itemsChars, List.flatMap_nil, List.append_nil]
  | cons w vs ih => rw [itemsChars, ih w, List.flatMap_cons, List.cons_append]; exact nofun

/-- A member of an object with everything behind it, commas included. -/
theorem membersChars_cons (m : String × Value) (ms : Members) :
    membersChars (m :: ms) = stringChars m.1 ++ ':' :: m.2.chars
      ++ ms.flatMap fun k => ',' :: (stringChars k.1 ++ ':' :: k.2.chars) := by
  induction ms generalizing m with
  | nil => rw [membersChars, List.flatMap_nil, List.append_nil]
  | cons k ms ih =>
    rw [membersChars, ih k, List.flatMap_cons, List.cons_append]
    exact nofun

/-- A value comes back from a reader, whatever ends it. -/
def Value.Returns (reader : Reader Value) (v : Value) : Prop :=
  Starts v.chars ∧ ∀ rest, Ends rest → Reads reader (v.chars ++ rest) v.normal rest

section Values

variable {reader : Reader Value} {vs : List Value} {ms : Members}

theorem reads_items_behind (h : ∀ v ∈ vs, v.Returns reader) (rest : List Char) :
    Reads (readItems reader false) (vs.flatMap (fun v => ',' :: v.chars) ++ ']' :: rest)
      (vs.map Value.normal) rest := by
  induction vs with
  | nil => exact reads_items_nil reader false rest
  | cons v vs ih =>
    obtain ⟨hstart, hv⟩ := h v List.mem_cons_self
    have hrest := ih fun w hw => h w (List.mem_cons_of_mem v hw)
    rw [List.flatMap_cons, List.cons_append, List.cons_append, List.append_assoc]
    refine reads_items_comma (hstart.append _) (hv _ ?_) hrest
    rcases vs with - | ⟨w, vs⟩
    · exact .inr (.inl rfl)
    · exact .inl rfl

/-- **The items of an array come back.** -/
theorem reads_itemsChars (h : ∀ v ∈ vs, v.Returns reader) (rest : List Char) :
    Reads (readItems reader true) (itemsChars vs ++ ']' :: rest) (vs.map Value.normal) rest := by
  rcases vs with - | ⟨v, vs⟩
  · exact reads_items_nil reader true rest
  · obtain ⟨hstart, hv⟩ := h v List.mem_cons_self
    have hrest := reads_items_behind (fun w hw => h w (List.mem_cons_of_mem v hw)) rest
    rw [itemsChars_cons, List.append_assoc]
    refine reads_items_first (hstart.append _) (hv _ ?_) hrest
    rcases vs with - | ⟨w, vs⟩
    · exact .inr (.inl rfl)
    · exact .inl rfl

theorem reads_members_behind (h : ∀ m ∈ ms, m.2.Returns reader) (acc : Members)
    (rest : List Char) :
    Reads (foldMembers (insertMember reader) acc false)
      (ms.flatMap (fun m => ',' :: (stringChars m.1 ++ ':' :: m.2.chars)) ++ '}' :: rest)
      ((normalMembers ms).foldl (fun acc m => Members.insert acc m.1 m.2) acc) rest := by
  induction ms generalizing acc with
  | nil => exact reads_members_nil _ acc false rest
  | cons m ms ih =>
    obtain ⟨-, hv⟩ := h m List.mem_cons_self
    have hrest := ih (fun k hk => h k (List.mem_cons_of_mem m hk)) (acc.insert m.1 m.2.normal)
    rw [List.flatMap_cons, List.cons_append, List.cons_append, List.append_assoc,
      List.append_assoc, List.cons_append, stringChars_append]
    refine reads_members_comma (reads_insertMember m.1 acc (hv _ ?_)) hrest
    rcases ms with - | ⟨k, ms⟩
    · exact .inr (.inr rfl)
    · exact .inl rfl

/-- **The members of an object come back**, each in its place. -/
theorem reads_membersChars (h : ∀ m ∈ ms, m.2.Returns reader) (rest : List Char) :
    Reads (foldMembers (insertMember reader) [] true) (membersChars ms ++ '}' :: rest)
      (Members.ordered (normalMembers ms)) rest := by
  rcases ms with - | ⟨m, ms⟩
  · exact reads_members_nil _ [] true rest
  · obtain ⟨-, hv⟩ := h m List.mem_cons_self
    have hrest := reads_members_behind (fun k hk => h k (List.mem_cons_of_mem m hk))
      (Members.insert [] m.1 m.2.normal) rest
    rw [membersChars_cons, List.append_assoc, List.append_assoc, List.cons_append,
      stringChars_append]
    refine reads_members_first (reads_insertMember m.1 [] (hv _ ?_)) hrest
    rcases ms with - | ⟨k, ms⟩
    · exact .inr (.inr rfl)
    · exact .inl rfl

end Values

theorem reads_arr {depth : Nat} {items : List Value} {cs rest : List Char}
    (h : Reads (readItems (readValue depth) true) cs items rest) :
    Reads (readValue (depth + 1)) ('[' :: cs) (.arr items) rest := by
  obtain ⟨hlt, h⟩ := h
  refine ⟨Nat.lt_succ_of_lt hlt, ?_⟩
  show (readItems (readValue depth) true cs).map _ = _
  rw [h]
  rfl

theorem reads_obj {depth : Nat} {ms : Members} {cs rest : List Char}
    (h : Reads (foldMembers (insertMember (readValue depth)) [] true) cs ms rest) :
    Reads (readValue (depth + 1)) ('{' :: cs) (.obj ms) rest := by
  obtain ⟨hlt, h⟩ := h
  refine ⟨Nat.lt_succ_of_lt hlt, ?_⟩
  show (foldMembers (insertMember (readValue depth)) [] true cs).map _ = _
  rw [h]
  rfl

/-- **A value comes back in its normal form**, whatever ends it. -/
theorem Value.Fits.returns {depth : Nat} {v : Value} (h : v.Fits depth) :
    v.Returns (readValue depth) := by
  refine ⟨h.starts, ?_⟩
  induction h with
  | null => exact fun rest _ => reads_null _ rest
  | bool b => exact fun rest _ => reads_bool _ b rest
  | int hi => exact fun rest hr => reads_intChars hi hr _
  | str s => exact fun rest _ => reads_stringChars _ s rest
  | arr h ih =>
    intro rest _
    rw [chars, normal, normalItems_eq, List.cons_append, List.cons_append, List.append_assoc]
    exact reads_arr (reads_itemsChars (fun v hv => ⟨(h v hv).starts, ih v hv⟩) rest)
  | obj h ih =>
    intro rest _
    rw [chars, normal, List.cons_append, List.cons_append, List.append_assoc]
    exact reads_obj (reads_membersChars (fun m hm => ⟨(h m hm).starts, ih m hm⟩) rest)

/-- **The text of a value reads as its normal form.** -/
theorem parse_text {v : Value} (h : v.Fits maxDepth) : Value.parse v.text = .ok v.normal := by
  have hr := h.returns.2 [] trivial
  rw [List.append_nil] at hr
  obtain ⟨hlt, hr⟩ := hr
  rw [Value.parse, Value.text, String.toList_ofList, readAll, hr]
  rfl

end Passkey.Json
