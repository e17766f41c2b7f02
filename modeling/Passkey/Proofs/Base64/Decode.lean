/-
Passkey/Proofs/Base64/Decode.lean

What is read as base64, and what is not.

A byte string has four writings: its URL-safe text, that text filled up with
`=` signs, and both in the standard alphabet.  The decoder tries four readers
one after the other, and yet their order does not matter: without its padding
and in the URL-safe alphabet a writing is the text that is sent, and that one
determines the bytes.

Main result: a text is decoded exactly if it is a writing between blanks, and
refused exactly if it is malformed in one of six ways
(`decode_inverts_encode`).
-/
import Passkey.Proofs.Base64.Spelling

namespace Passkey.Base64

open Text

/-! ### Writings -/

/-- A text filled up with `=` signs to groups of four. -/
def filledUp (u : String) : String :=
  String.ofList (u.toList ++ padding u.toList.length)

/-- A text in the standard alphabet. -/
def inStandard (u : String) : String :=
  String.ofList (u.toList.map standardChar)

/-- The writings of a byte string. -/
def writings (bytes : Bytes) : List String :=
  [encode bytes, filledUp (encode bytes), inStandard (encode bytes),
    inStandard (filledUp (encode bytes))]

/-- A text in the URL-safe alphabet, without `=` signs. -/
def canonical (u : String) : String :=
  String.ofList (plain u.toList)

section Writings

variable {bytes : Bytes} {u : String}

theorem toList_encode (bytes : Bytes) :
    (encode bytes).toList = Spelling.write ⟨.urlSafe, false⟩ bytes := by
  rw [encode, String.toList_ofList]

theorem toList_filledUp (bytes : Bytes) :
    (filledUp (encode bytes)).toList = Spelling.write ⟨.urlSafe, true⟩ bytes := by
  rw [filledUp, String.toList_ofList, toList_encode, Spelling.write_unpadded, List.length_map,
    Spelling.write_padded]

theorem map_standardChar (ds : List (Fin 64)) :
    (ds.map Alphabet.urlSafe.symbol).map standardChar = ds.map Alphabet.standard.symbol := by
  rw [List.map_map]
  exact List.map_congr_left fun d _ => standardChar_symbol d

theorem toList_inStandard (bytes : Bytes) :
    (inStandard (encode bytes)).toList = Spelling.write ⟨.standard, false⟩ bytes := by
  rw [inStandard, String.toList_ofList, toList_encode]
  exact map_standardChar _

theorem toList_inStandard_filledUp (bytes : Bytes) :
    (inStandard (filledUp (encode bytes))).toList = Spelling.write ⟨.standard, true⟩ bytes := by
  have hpad (n : Nat) : (padding n).map standardChar = padding n := by
    rw [padding, List.map_replicate]
    rfl
  rw [inStandard, String.toList_ofList, toList_filledUp, Spelling.write_padded, List.map_append,
    map_standardChar, hpad, Spelling.write_padded]

theorem mem_writings_iff : u ∈ writings bytes ↔ ∃ s : Spelling, u.toList = s.write bytes := by
  simp only [writings, List.mem_cons, List.not_mem_nil, or_false, ← String.toList_inj,
    toList_encode, toList_filledUp, toList_inStandard, toList_inStandard_filledUp]
  constructor
  · rintro (h | h | h | h)
    · exact ⟨_, h⟩
    · exact ⟨_, h⟩
    · exact ⟨_, h⟩
    · exact ⟨_, h⟩
  · rintro ⟨⟨- | -, - | -⟩, h⟩
    · exact .inl h
    · exact .inr (.inl h)
    · exact .inr (.inr (.inl h))
    · exact .inr (.inr (.inr h))

/-- A text is a writing of one byte string at most. -/
theorem writings_inj {bytes' : Bytes} (h : u ∈ writings bytes) (h' : u ∈ writings bytes') :
    bytes = bytes' := by
  obtain ⟨s, hs⟩ := mem_writings_iff.mp h
  obtain ⟨s', hs'⟩ := mem_writings_iff.mp h'
  exact Spelling.write_inj (hs.symm.trans hs')

theorem canonical_of_mem_writings (h : u ∈ writings bytes) : canonical u = encode bytes := by
  obtain ⟨s, hs⟩ := mem_writings_iff.mp h
  rw [canonical, hs, plain_write]
  rfl

end Writings

/-! ### Decoding -/

theorem mem_spellings (s : Spelling) : s ∈ spellings := by
  obtain ⟨- | -, - | -⟩ := s <;> decide

/-- **The decoder reads the writings between blanks.** -/
theorem decode?_eq_some_iff {t : String} {bytes : Bytes} :
    decode? t = some bytes ↔ trim t ∈ writings bytes := by
  rw [mem_writings_iff, trim, String.toList_ofList]
  have sound {bytes : Bytes} (h : decode? t = some bytes) :
      ∃ s : Spelling, trimBlank t.toList = s.write bytes := by
    obtain ⟨s, -, hs⟩ := List.exists_of_findSome?_eq_some h
    exact ⟨s, Spelling.read?_eq_some_iff.mp hs⟩
  constructor
  · exact sound
  · rintro ⟨s, hs⟩
    -- some reader accepts, and whichever is the first reads the same bytes
    have hsome : (decode? t).isSome := by
      rw [decode?, List.findSome?_isSome_iff]
      exact ⟨s, mem_spellings s, by rw [Spelling.read?_eq_some_iff.mpr hs]; rfl⟩
    obtain ⟨bytes', hb⟩ := Option.isSome_iff_exists.mp hsome
    obtain ⟨s', hs'⟩ := sound hb
    rw [hb, Spelling.write_inj (hs.symm.trans hs')]

theorem decode_eq_ok_iff {t : String} {bytes : Bytes} :
    decode t = .ok bytes ↔ trim t ∈ writings bytes := by
  rw [← decode?_eq_some_iff, decode]
  rcases decode? t with - | b
  · simp
  · simp

theorem decode_eq_error_iff {t : String} {f : Failure} :
    decode t = .error f ↔ f = .badBase64 ∧ ∀ bytes, trim t ∉ writings bytes := by
  simp only [← decode?_eq_some_iff, decode]
  rcases decode? t with - | b
  · simp [eq_comm]
  · simp

/-! ### Malformed texts -/

/-- The ways in which a text fails to be a writing. -/
inductive Malformed (cs : List Char) : Prop
  /-- The last group has a single symbol. -/
  | length (h : cs.length % 4 = 1)
  /-- A bit is set behind the last octet. -/
  | bits {a : Alphabet} {ds : List (Fin 64)}
      (spelled : cs = ds.map a.symbol ∨ cs = ds.map a.symbol ++ padding ds.length)
      (h : true ∈ leftover ds)
  /-- There are `=` signs, and not just those that fill a last group of two or three up. -/
  | padding (sign : '=' ∈ cs)
      (h : ∀ front, '=' ∉ front → front.length % 4 ≠ 1 → cs ≠ front ++ padding front.length)
  /-- The alphabets are mixed. -/
  | mixed (urlSafe : '-' ∈ cs ∨ '_' ∈ cs) (standard : '+' ∈ cs ∨ '/' ∈ cs)
  /-- There is a blank. -/
  | blank {c : Char} (mem : c ∈ cs) (h : isBlank c = true)
  /-- There is a character of neither alphabet. -/
  | stranger {c : Char} (mem : c ∈ cs) (ne : c ≠ '=')
      (h : ∀ (a : Alphabet) (d : Fin 64), c ≠ a.symbol d)

section Malformed

variable {cs : List Char}

theorem Malformed.ne_write (h : Malformed cs) (s : Spelling) (bytes : Bytes) :
    cs ≠ s.write bytes := by
  rintro rfl
  cases h with
  | length h => exact s.length_write bytes h
  | @bits a ds spelled h =>
    -- the plain text has the sextets of the bytes, and those leave nothing over
    have hplain : plain (s.write bytes) = ds.map Alphabet.urlSafe.symbol := by
      rcases spelled with hs | hs
      · rw [hs, ← List.append_nil (ds.map a.symbol)]
        exact plain_symbols a ds 0
      · rw [hs, plain_symbols]
    rw [plain_write, Spelling.write_unpadded] at hplain
    exact leftover_sextets bytes (Alphabet.map_symbol_inj hplain ▸ h)
  | padding sign h =>
    obtain ⟨a, - | -⟩ := s
    · exact pad_notMem_symbols a _ sign
    · refine h _ (pad_notMem_symbols a (sextets bytes)) ?_ ?_
      · rw [List.length_map]
        exact length_sextets bytes
      · rw [List.length_map, Spelling.write_padded]
  | mixed urlSafe standard =>
    obtain ⟨- | -, padded⟩ := s
    · rcases standard with h | h
      · exact Spelling.notMem_write (by decide) (fun d => (symbol_urlSafe_ne d).1) h
      · exact Spelling.notMem_write (by decide) (fun d => (symbol_urlSafe_ne d).2) h
    · rcases urlSafe with h | h
      · exact Spelling.notMem_write (by decide) (fun d => (symbol_standard_ne d).1) h
      · exact Spelling.notMem_write (by decide) (fun d => (symbol_standard_ne d).2) h
  | blank mem h =>
    rw [s.noBlank_write bytes _ mem] at h
    cases h
  | stranger mem ne h =>
    exact Spelling.notMem_write ne (fun d hd => h s.alphabet d hd.symm) mem

theorem exists_sextets {a : Alphabet} (h : ∀ c ∈ cs, ∃ d, c = a.symbol d) :
    ∃ ds : List (Fin 64), cs = ds.map a.symbol := by
  induction cs with
  | nil => exact ⟨[], rfl⟩
  | cons c cs ih =>
    obtain ⟨d, rfl⟩ := h c (by simp)
    obtain ⟨ds, rfl⟩ := ih fun c hc => h c (by simp [hc])
    exact ⟨d :: ds, rfl⟩

/-- The characters of a text that is not malformed are of one alphabet. -/
theorem exists_alphabet (h : ¬ Malformed cs) :
    ∃ a : Alphabet, ∀ c ∈ cs, c ≠ '=' → ∃ d, c = a.symbol d := by
  have hsymbol {c : Char} (hc : c ∈ cs) (ne : c ≠ '=') :
      ∃ (a : Alphabet) (d : Fin 64), c = a.symbol d := by
    refine Classical.byContradiction fun hno => h (.stranger hc ne ?_)
    intro a d hd
    exact hno ⟨a, d, hd⟩
  -- one symbol of its own decides for an alphabet, and without any either would do
  by_cases hu : '-' ∈ cs ∨ '_' ∈ cs
  · refine ⟨.urlSafe, fun c hc ne => ?_⟩
    obtain ⟨- | -, d, rfl⟩ := hsymbol hc ne
    · exact ⟨d, rfl⟩
    · refine ⟨d, symbol_standard_eq ?_ ?_⟩
      · rintro hd
        exact h (.mixed hu (.inl (hd ▸ hc)))
      · rintro hd
        exact h (.mixed hu (.inr (hd ▸ hc)))
  · refine ⟨.standard, fun c hc ne => ?_⟩
    obtain ⟨- | -, d, rfl⟩ := hsymbol hc ne
    · refine ⟨d, symbol_urlSafe_eq ?_ ?_⟩
      · rintro hd
        exact hu (.inl (hd ▸ hc))
      · rintro hd
        exact hu (.inr (hd ▸ hc))
    · exact ⟨d, rfl⟩

/-- **What is not malformed is written.** -/
theorem exists_write (h : ¬ Malformed cs) :
    ∃ (s : Spelling) (bytes : Bytes), cs = s.write bytes := by
  obtain ⟨a, ha⟩ := exists_alphabet h
  have symbols {front : List Char} (hfront : ∀ c ∈ front, c ∈ cs) (hsign : '=' ∉ front) :
      ∃ ds : List (Fin 64), front = ds.map a.symbol := by
    refine exists_sextets fun c hc => ha c (hfront c hc) ?_
    rintro rfl
    exact hsign hc
  by_cases hsign : '=' ∈ cs
  · -- the text ends with its padding
    have hpad : ∃ front,
        '=' ∉ front ∧ front.length % 4 ≠ 1 ∧ cs = front ++ padding front.length := by
      refine Classical.byContradiction fun hno => h (.padding hsign ?_)
      intro front hfront hlen hcs
      exact hno ⟨front, hfront, hlen, hcs⟩
    obtain ⟨front, hfront, hlen, rfl⟩ := hpad
    obtain ⟨ds, rfl⟩ := symbols (fun c hc => List.mem_append_left _ hc) hfront
    rw [List.length_map] at hlen h ⊢
    obtain ⟨bytes, hb⟩ := exists_octets? hlen fun hover => h (.bits (.inr rfl) hover)
    refine ⟨⟨a, true⟩, bytes, ?_⟩
    rw [Spelling.write_padded, octets?_eq_some_iff.mp hb]
  · obtain ⟨ds, rfl⟩ := symbols (fun _ hc => hc) hsign
    have hlen : ds.length % 4 ≠ 1 := by
      intro hlen
      exact h (.length (by rw [List.length_map, hlen]))
    obtain ⟨bytes, hb⟩ := exists_octets? hlen fun hover => h (.bits (.inl rfl) hover)
    refine ⟨⟨a, false⟩, bytes, ?_⟩
    rw [Spelling.write_unpadded, octets?_eq_some_iff.mp hb]

end Malformed

/-! ### The law of the decoder -/

/-- Nothing but the malformed texts is refused. -/
theorem malformed_iff {u : String} : Malformed u.toList ↔ ∀ bytes, u ∉ writings bytes := by
  constructor
  · intro h bytes hu
    obtain ⟨s, hs⟩ := mem_writings_iff.mp hu
    exact h.ne_write s bytes hs
  · intro h
    refine Classical.byContradiction fun hno => ?_
    obtain ⟨s, bytes, hs⟩ := exists_write hno
    exact h bytes (mem_writings_iff.mpr ⟨s, hs⟩)

/-- A byte string comes back from its text, whatever blanks stand around it. -/
theorem decode_surround {front back : String} (hfront : AllBlank front.toList)
    (hback : AllBlank back.toList) (bytes : Bytes) :
    decode (front ++ encode bytes ++ back) = .ok bytes := by
  have htrim : trim (front ++ encode bytes ++ back) = encode bytes := by
    -- a symbol is never blank, so trimming stops at the text
    have hno : NoBlank (encode bytes).toList := by
      rw [toList_encode]
      exact Spelling.noBlank_write _ bytes
    rw [trim, String.toList_append, String.toList_append, trimBlank_surround hfront hno hback,
      String.ofList_toList]
  rw [decode_eq_ok_iff, htrim]
  exact List.mem_cons_self

/-- **The decoder inverts the encoder.**  The text that is sent is the bits of
the bytes, six to a symbol; a text is decoded to the bytes of which it is a
writing, and writes them when it is brought back to the form that is sent; and
every other text, which is to say every malformed one, is refused. -/
theorem decode_inverts_encode :
    (String.ofList ((List.finRange 64).map Alphabet.urlSafe.symbol)
        = "ABCDEFGHIJKLMNOPQRSTUVWXYZabcdefghijklmnopqrstuvwxyz0123456789-_" ∧
      ∀ bytes, ∃ ds, (encode bytes).toList = ds.map Alphabet.urlSafe.symbol ∧
        ∃ z < 6, bitsOfSextets ds = bitsOfOctets bytes ++ List.replicate z false) ∧
    (∀ t bytes, decode t = .ok bytes ↔ trim t ∈ writings bytes) ∧
    (∀ front back bytes, AllBlank front.toList → AllBlank back.toList →
      decode (front ++ encode bytes ++ back) = .ok bytes) ∧
    (∀ u bytes bytes', u ∈ writings bytes → u ∈ writings bytes' → bytes = bytes') ∧
    (∀ t bytes, decode t = .ok bytes → encode bytes = canonical (trim t)) ∧
    (∀ t, (∀ bytes, trim t ∉ writings bytes) → decode t = .error .badBase64) ∧
    (∀ t, Malformed (trim t).toList ↔ decode t = .error .badBase64) := by
  refine ⟨⟨symbols_urlSafe, ?_⟩, fun _ _ => decode_eq_ok_iff,
    fun _ _ bytes hfront hback => decode_surround hfront hback bytes,
    fun _ _ _ => writings_inj, ?_, ?_, ?_⟩
  · intro bytes
    exact ⟨sextets bytes, toList_encode bytes, bits_sextets bytes⟩
  · intro t bytes h
    exact (canonical_of_mem_writings (decode_eq_ok_iff.mp h)).symm
  · intro t h
    exact decode_eq_error_iff.mpr ⟨rfl, h⟩
  · intro t
    rw [malformed_iff, decode_eq_error_iff]
    exact (and_iff_right rfl).symm

/-- A padded text between blanks. -/
theorem decode_inverts_encode_padded : decode " -_8=\n" = .ok [0xfb, 0xff] :=
  (decode_inverts_encode.2.1 _ _).mpr (by decide)

end Passkey.Base64
