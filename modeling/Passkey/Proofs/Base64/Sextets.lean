/-
Passkey/Proofs/Base64/Sextets.lean

Octets and sextets are two cuts of the same bits.

Three octets and four sextets are the same 24 bits.  A short last group is
filled up with zero bits, four after one octet and two after two:

    octets:   aaaaaaaa bbbbbbbb cccccccc   aaaaaaaa
    sextets:  aaaaaa aabbbb bbbbcc cccccc   aaaaaa aa0000

Main results: the sextets of a byte string are its bits filled up with fewer
than six zeros (`bits_sextets`), and a list of sextets is joined to octets
exactly if it is cut from them (`octets?_eq_some_iff`).
-/
import Passkey.Base64

namespace Passkey.Base64

/-! ### Bits -/

/-- The lowest bits of a number, the highest of them first. -/
def bits : Nat → Nat → List Bool
  | 0, _ => []
  | width + 1, n => n.testBit width :: bits width n

/-- The bits of sextets, one after the other. -/
def bitsOfSextets (ds : List (Fin 64)) : List Bool :=
  ds.flatMap fun d => bits 6 d.val

/-- The bits of a byte string, one octet after the other. -/
def bitsOfOctets (bytes : Bytes) : List Bool :=
  bytes.flatMap fun a => bits 8 a.toNat

theorem length_bits (width n : Nat) : (bits width n).length = width := by
  induction width with
  | zero => rfl
  | succ width ih => rw [bits, List.length_cons, ih]

theorem length_bitsOfSextets (ds : List (Fin 64)) : (bitsOfSextets ds).length = 6 * ds.length := by
  induction ds with
  | nil => rfl
  | cons d ds ih =>
    rw [bitsOfSextets, List.flatMap_cons, List.length_append, length_bits, List.length_cons]
    show 6 + (bitsOfSextets ds).length = _
    omega

theorem length_bitsOfOctets (bytes : Bytes) :
    (bitsOfOctets bytes).length = 8 * bytes.length := by
  induction bytes with
  | nil => rfl
  | cons a bytes ih =>
    rw [bitsOfOctets, List.flatMap_cons, List.length_append, length_bits, List.length_cons]
    show 8 + (bitsOfOctets bytes).length = _
    omega

/-! ### Numbers that fit -/

theorem val_ofNat {n : Nat} (h : n < 64) : (Fin.ofNat 64 n).val = n :=
  Nat.mod_eq_of_lt h

theorem toNat_ofNat {n : Nat} (h : n < 256) : (UInt8.ofNat n).toNat = n := by
  rw [UInt8.toNat_ofNat']
  exact Nat.mod_eq_of_lt h

theorem ofNat_eq {n : Nat} {a : UInt8} (h : n = a.toNat) : UInt8.ofNat n = a := by
  rw [h, UInt8.ofNat_toNat]

theorem fin_ofNat_eq {n : Nat} {d : Fin 64} (h : n = d.val) : Fin.ofNat 64 n = d := by
  rw [h]
  exact Fin.ext (val_ofNat d.isLt)

/-! ### Cutting bits -/

theorem bits_mod {u v : Nat} (h : u ≤ v) (n : Nat) : bits u (n % Nat.pow 2 v) = bits u n := by
  induction u with
  | zero => rfl
  | succ u ih =>
    have hbit : (n % Nat.pow 2 v).testBit u = n.testBit u := by
      refine (Nat.testBit_mod_two_pow n v u).trans ?_
      rw [decide_eq_true (Nat.lt_of_succ_le h), Bool.true_and]
    rw [bits, bits, hbit, ih (Nat.le_of_succ_le h)]

/-- The higher bits of a number, and then the lower ones. -/
theorem bits_cut (w v : Nat) {m : Nat} (hm : Nat.pow 2 v = m) (n : Nat) :
    bits (w + v) n = bits w (n / m) ++ bits v (n % m) := by
  subst hm
  induction w with
  | zero =>
    rw [Nat.zero_add, bits_mod (Nat.le_refl v)]
    rfl
  | succ w ih =>
    have hbit : n.testBit (w + v) = (n / Nat.pow 2 v).testBit w :=
      (Nat.testBit_div_two_pow n w).symm
    rw [Nat.succ_add, bits, bits, hbit, ih]
    rfl

section Group

variable {a b c : Nat}

/-- An octet is six bits and two, four and four, or two and six. -/
theorem bits_octet (a : Nat) :
    bits 8 a = bits 6 (a / 4) ++ bits 2 (a % 4) ∧ bits 8 a = bits 4 (a / 16) ++ bits 4 (a % 16) ∧
      bits 8 a = bits 2 (a / 64) ++ bits 6 (a % 64) :=
  ⟨bits_cut 6 2 rfl a, bits_cut 4 4 rfl a, bits_cut 2 6 rfl a⟩

/-- The second sextet ends the first octet and begins the second one. -/
theorem bits_second (hb : b < 16) : bits 6 (a % 4 * 16 + b) = bits 2 (a % 4) ++ bits 4 b := by
  have hdiv : (a % 4 * 16 + b) / 16 = a % 4 := by omega
  have hmod : (a % 4 * 16 + b) % 16 = b := by omega
  rw [show 6 = 2 + 4 from rfl, bits_cut 2 4 rfl, hdiv, hmod]

/-- The third sextet ends the second octet and begins the third one. -/
theorem bits_third (hc : c < 4) : bits 6 (b % 16 * 4 + c) = bits 4 (b % 16) ++ bits 2 c := by
  have hdiv : (b % 16 * 4 + c) / 4 = b % 16 := by omega
  have hmod : (b % 16 * 4 + c) % 4 = c := by omega
  rw [show 6 = 4 + 2 from rfl, bits_cut 4 2 rfl, hdiv, hmod]

/-- One octet and four zeros are two sextets. -/
theorem bits_one :
    bits 6 (a / 4) ++ bits 6 (a % 4 * 16) = bits 8 a ++ List.replicate 4 false := by
  have hsecond : bits 6 (a % 4 * 16 + 0) = bits 2 (a % 4) ++ bits 4 0 := bits_second (by decide)
  rw [Nat.add_zero] at hsecond
  rw [hsecond, (bits_octet a).1, List.append_assoc]
  rfl

/-- Two octets and two zeros are three sextets. -/
theorem bits_two (hb : b < 256) :
    bits 6 (a / 4) ++ bits 6 (a % 4 * 16 + b / 16) ++ bits 6 (b % 16 * 4)
      = bits 8 a ++ bits 8 b ++ List.replicate 2 false := by
  have hthird : bits 6 (b % 16 * 4 + 0) = bits 4 (b % 16) ++ bits 2 0 := bits_third (by decide)
  rw [Nat.add_zero] at hthird
  rw [hthird, bits_second (by omega), (bits_octet a).1, (bits_octet b).2.1]
  simp only [List.append_assoc]
  rfl

/-- Three octets are four sextets. -/
theorem bits_three (hb : b < 256) (hc : c < 256) :
    bits 6 (a / 4) ++ bits 6 (a % 4 * 16 + b / 16) ++ bits 6 (b % 16 * 4 + c / 64)
        ++ bits 6 (c % 64)
      = bits 8 a ++ bits 8 b ++ bits 8 c := by
  rw [bits_second (by omega), bits_third (by omega), (bits_octet a).1, (bits_octet b).2.1,
    (bits_octet c).2.2]
  simp only [List.append_assoc]

end Group

/-! ### Byte strings -/

/-- **The sextets of a byte string are its bits**, filled up with fewer than
six zeros. -/
theorem bits_sextets (bytes : Bytes) :
    ∃ z < 6, bitsOfSextets (sextets bytes) = bitsOfOctets bytes ++ List.replicate z false := by
  fun_induction sextets bytes with
  | case1 => exact ⟨0, by decide, rfl⟩
  | case2 a =>
    have ha := a.toNat_lt
    refine ⟨4, by decide, ?_⟩
    simp only [bitsOfSextets, bitsOfOctets, List.flatMap_cons, List.flatMap_nil, List.append_nil]
    rw [val_ofNat (by omega), val_ofNat (by omega)]
    exact bits_one
  | case3 a b =>
    have ha := a.toNat_lt
    have hb := b.toNat_lt
    refine ⟨2, by decide, ?_⟩
    simp only [bitsOfSextets, bitsOfOctets, List.flatMap_cons, List.flatMap_nil, List.append_nil]
    rw [val_ofNat (by omega), val_ofNat (by omega), val_ofNat (by omega), ← List.append_assoc]
    exact bits_two hb
  | case4 a b c rest ih =>
    have ha := a.toNat_lt
    have hb := b.toNat_lt
    have hc := c.toNat_lt
    -- a whole group fills nothing up, so the zeros are those of the rest
    obtain ⟨z, hz, ih⟩ := ih
    refine ⟨z, hz, ?_⟩
    simp only [bitsOfSextets, bitsOfOctets, List.flatMap_cons] at ih ⊢
    rw [val_ofNat (by omega), val_ofNat (by omega), val_ofNat (by omega), val_ofNat (by omega),
      ih, ← List.append_assoc, ← List.append_assoc, ← List.append_assoc, bits_three hb hc]
    simp only [List.append_assoc]

theorem length_sextets (bytes : Bytes) : (sextets bytes).length % 4 ≠ 1 := by
  fun_induction sextets bytes with
  | case1 => decide
  | case2 a => exact (by decide : 2 % 4 ≠ 1)
  | case3 a b => exact (by decide : 3 % 4 ≠ 1)
  | case4 a b c rest ih =>
    simp only [List.length_cons]
    omega

/-! ### Joining -/

theorem octets?_sextets (bytes : Bytes) : octets? (sextets bytes) = some bytes := by
  fun_induction sextets bytes with
  | case1 => rfl
  | case2 a =>
    have ha := a.toNat_lt
    rw [octets?, val_ofNat (by omega), val_ofNat (by omega), if_pos (by omega),
      ofNat_eq (a := a) (by omega)]
  | case3 a b =>
    have ha := a.toNat_lt
    have hb := b.toNat_lt
    rw [octets?, val_ofNat (by omega), val_ofNat (by omega), val_ofNat (by omega),
      if_pos (by omega), ofNat_eq (a := a) (by omega), ofNat_eq (a := b) (by omega)]
  | case4 a b c rest ih =>
    have ha := a.toNat_lt
    have hb := b.toNat_lt
    have hc := c.toNat_lt
    rw [octets?, ih, val_ofNat (by omega), val_ofNat (by omega), val_ofNat (by omega),
      val_ofNat (by omega), Option.map_some, ofNat_eq (a := a) (by omega),
      ofNat_eq (a := b) (by omega), ofNat_eq (a := c) (by omega)]

theorem sextets_of_octets? {ds : List (Fin 64)} {bytes : Bytes} (h : octets? ds = some bytes) :
    sextets bytes = ds := by
  fun_induction octets? ds generalizing bytes with
  | case1 =>
    cases h
    rfl
  | case2 p => cases h
  | case3 p q hq =>
    cases h
    have hp := p.isLt
    have hq' := q.isLt
    rw [sextets, toNat_ofNat (by omega), fin_ofNat_eq (d := p) (by omega),
      fin_ofNat_eq (d := q) (by omega)]
  | case4 p q hq => cases h
  | case5 p q r hr =>
    cases h
    have hp := p.isLt
    have hq := q.isLt
    have hr' := r.isLt
    rw [sextets, toNat_ofNat (by omega), toNat_ofNat (by omega), fin_ofNat_eq (d := p) (by omega),
      fin_ofNat_eq (d := q) (by omega), fin_ofNat_eq (d := r) (by omega)]
  | case6 p q r hr => cases h
  | case7 p q r s rest ih =>
    obtain ⟨tail, ht, rfl⟩ := Option.map_eq_some_iff.mp h
    have hp := p.isLt
    have hq := q.isLt
    have hr := r.isLt
    have hs := s.isLt
    rw [sextets, toNat_ofNat (by omega), toNat_ofNat (by omega), toNat_ofNat (by omega),
      fin_ofNat_eq (d := p) (by omega), fin_ofNat_eq (d := q) (by omega),
      fin_ofNat_eq (d := r) (by omega), fin_ofNat_eq (d := s) (by omega), ih ht]

/-- **Sextets are joined exactly if they are cut from octets.** -/
theorem octets?_eq_some_iff {ds : List (Fin 64)} {bytes : Bytes} :
    octets? ds = some bytes ↔ ds = sextets bytes := by
  constructor
  · exact fun h => (sextets_of_octets? h).symm
  · rintro rfl
    exact octets?_sextets bytes

/-! ### What is left over -/

/-- The bits behind the last whole octet. -/
def leftover (ds : List (Fin 64)) : List Bool :=
  (bitsOfSextets ds).drop (6 * ds.length / 8 * 8)

/-- A byte string leaves nothing over but zeros. -/
theorem leftover_sextets (bytes : Bytes) : true ∉ leftover (sextets bytes) := by
  obtain ⟨z, hz, hbits⟩ := bits_sextets bytes
  -- the zeros are fewer than an octet, so the last whole octet is the last of the bytes
  have hlen : 6 * (sextets bytes).length = 8 * bytes.length + z := by
    rw [← length_bitsOfSextets, hbits, List.length_append, List.length_replicate,
      length_bitsOfOctets]
  have hdrop : 6 * (sextets bytes).length / 8 * 8 = (bitsOfOctets bytes).length := by
    rw [length_bitsOfOctets]
    omega
  rw [leftover, hdrop, hbits, List.drop_left]
  intro h
  cases List.eq_of_mem_replicate h

/-- Four sextets are three octets, so they leave nothing over. -/
theorem leftover_group (p q r s : Fin 64) (rest : List (Fin 64)) :
    leftover (p :: q :: r :: s :: rest) = leftover rest := by
  have hdrop : 6 * (p :: q :: r :: s :: rest).length / 8 * 8
      = (bitsOfSextets [p, q, r, s]).length + 6 * rest.length / 8 * 8 := by
    rw [length_bitsOfSextets]
    simp only [List.length_cons, List.length_nil]
    omega
  have hbits : bitsOfSextets (p :: q :: r :: s :: rest)
      = bitsOfSextets [p, q, r, s] ++ bitsOfSextets rest := by
    rw [bitsOfSextets, bitsOfSextets, bitsOfSextets, ← List.flatMap_append]
    rfl
  rw [leftover, hdrop, hbits, List.drop_length_add_append, leftover]

/-- **Sextets are cut from octets unless they are one too many or leave a bit
over.** -/
theorem exists_octets? {ds : List (Fin 64)} (hlen : ds.length % 4 ≠ 1)
    (hover : true ∉ leftover ds) : ∃ bytes, octets? ds = some bytes := by
  fun_induction octets? ds with
  | case1 => exact ⟨_, rfl⟩
  | case2 p => exact absurd rfl hlen
  | case3 p q hq => exact ⟨_, rfl⟩
  | case4 p q hq =>
    -- the last four bits are left over
    refine absurd ?_ hq
    simp [leftover, bitsOfSextets, bits, Nat.testBit_eq_decide_div_mod_eq] at hover
    omega
  | case5 p q r hr => exact ⟨_, rfl⟩
  | case6 p q r hr =>
    -- the last two bits are left over
    refine absurd ?_ hr
    simp [leftover, bitsOfSextets, bits, Nat.testBit_eq_decide_div_mod_eq] at hover
    omega
  | case7 p q r s rest ih =>
    have hrest : rest.length % 4 ≠ 1 := by
      simp only [List.length_cons] at hlen
      omega
    obtain ⟨tail, ht⟩ := ih hrest (leftover_group p q r s rest ▸ hover)
    exact ⟨_, by rw [ht]; rfl⟩

end Passkey.Base64
