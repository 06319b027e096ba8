import Mathlib.Data.List.Induction
import PcbuDesktop.Lib.BitStream
import PcbuDesktop.Basic.Text

set_option autoImplicit false

/-! # Base32 texts

`StringUtils::ToBase32String` and `StringUtils::WithSeperators` (`utils/StringUtils.cpp`), and the
decoding of RFC 4648 without padding, which the phone is meant to use.

The encoder never masks its accumulator. What stands in the text so far, followed by the lowest
`bitsLeft` bits of the accumulator, is the stream of bits of the bytes read so far (`Encodes`). A
byte shifts at most four such bits to the left by eight, so that the 32 bits suffice, and what the
wrapping cuts off has been emitted before.
-/

namespace PcbuDesktop

open BitStream

/-! ## The encoder -/

/-- `BASE32_ALPHABET`. -/
def base32Alphabet : Str := str "ABCDEFGHIJKLMNOPQRSTUVWXYZ234567"

/-- `BASE32_ALPHABET[i]`. -/
def base32Char (i : UInt32) : UInt8 := base32Alphabet.getD i.toNat 0

/-- The local variables of `ToBase32String`. -/
structure Base32State where
  encodedStr : Str := []
  buffer : UInt32 := 0
  bitsLeft : UInt32 := 0

/-- The inner loop, which takes five bits in every round; as many rounds as there are bits are
enough. -/
def emitGroups : Nat → Base32State → Base32State
  | 0, s => s
  | fuel + 1, s =>
      if s.bitsLeft ≥ 5 then
        emitGroups fuel { s with
          encodedStr := s.encodedStr ++ [base32Char ((s.buffer >>> (s.bitsLeft - 5)) &&& 0x1F)]
          bitsLeft := s.bitsLeft - 5 }
      else s

/-- One round of the outer loop. -/
def encodeByte (s : Base32State) (c : UInt8) : Base32State :=
  let s := { s with buffer := (s.buffer <<< 8) ||| c.toUInt32, bitsLeft := s.bitsLeft + 8 }
  emitGroups s.bitsLeft.toNat s

/-- `StringUtils::ToBase32String`. -/
def toBase32String (s : Str) : Str :=
  let last := s.foldl encodeByte {}
  if last.bitsLeft > 0 then
    last.encodedStr ++ [base32Char ((last.buffer <<< (5 - last.bitsLeft)) &&& 0x1F)]
  else last.encodedStr

/-- The chunks of `WithSeperators`, from the position on that the loop has reached. -/
def chunks (groupSize : Nat) : Nat → Str → List Str
  | 0, _ => []
  | fuel + 1, s =>
      if s = [] then [] else s.take groupSize :: chunks groupSize fuel (s.drop groupSize)

/-- `StringUtils::WithSeperators`. For a group size of zero the loop of the source does not end. -/
def withSeperators (s seperator : Str) (groupSize : Nat) : Str :=
  seperator.intercalate (chunks groupSize s.length s)

/-! ## The decoder -/

/-- The value of a character of the alphabet. -/
def base32Value (c : UInt8) : Option Nat :=
  if 65 ≤ c ∧ c ≤ 90 then some (c.toNat - 65)
  else if 50 ≤ c ∧ c ≤ 55 then some (c.toNat - 24)
  else none

/-- The stream of bits of a text, five for every character. -/
def codeBits (code : Str) : List Bool := code.flatMap (fun c => bits 5 ((base32Value c).getD 0))

/-- The stream of bits of bytes. -/
def byteBits (data : Bytes) : List Bool := data.flatMap (fun b => bits 8 b.toNat)

/-- Decoding as in RFC 4648, without padding: every character is of the alphabet, and what is left
after the last full byte is less than a character, and zeros. -/
def base32Decode (code : Str) : Option Bytes :=
  let (octets, rest) := groups 8 (codeBits code).length (codeBits code)
  if (code.all fun c => (base32Value c).isSome) ∧ rest.length < 5 ∧ true ∉ rest then
    some (octets.map fun bs => UInt8.ofNat (ofBits bs))
  else none

/-! ## Characters -/

theorem base32Value_base32Char {i : UInt32} (h : i.toNat < 32) :
    base32Value (base32Char i) = some i.toNat := by
  have hall : ∀ n : Fin 32, base32Value (base32Alphabet.getD n.val 0) = some n.val := by decide
  exact hall ⟨i.toNat, h⟩

theorem toNat_and_mask (x : UInt32) : (x &&& 0x1F).toNat = x.toNat % 2 ^ 5 := by
  rw [UInt32.toNat_and]
  exact Nat.and_two_pow_sub_one_eq_mod x.toNat 5

theorem toNat_and_mask_lt (x : UInt32) : (x &&& 0x1F).toNat < 32 := by
  rw [toNat_and_mask]
  exact Nat.mod_lt _ (by decide)

/-- The five bits of a character are the lowest ones of the number it was made from. -/
theorem codeBits_char (x : UInt32) : codeBits [base32Char (x &&& 0x1F)] = bits 5 x.toNat := by
  rw [codeBits, List.flatMap_singleton, base32Value_base32Char (toNat_and_mask_lt x),
    Option.getD_some, toNat_and_mask, bits_mod (Nat.le_refl 5)]

theorem codeBits_append (code code' : Str) :
    codeBits (code ++ code') = codeBits code ++ codeBits code' := List.flatMap_append

theorem byteBits_append (data data' : Bytes) :
    byteBits (data ++ data') = byteBits data ++ byteBits data' := List.flatMap_append

theorem byteBits_singleton (c : UInt8) : byteBits [c] = bits 8 c.toNat := List.flatMap_singleton ..

theorem length_byteBits (data : Bytes) : (byteBits data).length = 8 * data.length := by
  induction data with
  | nil => rfl
  | cons b data ih =>
      rw [byteBits, List.flatMap_cons, List.length_append, length_bits, List.length_cons,
        ← byteBits, ih]
      omega

/-- The text consists of characters of the alphabet. -/
def IsBase32 (code : Str) : Prop := ∀ c ∈ code, (base32Value c).isSome = true

theorem isBase32_char (x : UInt32) : IsBase32 [base32Char (x &&& 0x1F)] := by
  intro c hc
  rw [List.mem_singleton.mp hc, base32Value_base32Char (toNat_and_mask_lt x)]
  rfl

theorem IsBase32.append {code code' : Str} (h : IsBase32 code) (h' : IsBase32 code') :
    IsBase32 (code ++ code') := by
  intro c hc
  rcases List.mem_append.mp hc with hc | hc
  · exact h c hc
  · exact h' c hc

/-! ## The invariant -/

/-- The text and the lowest bits of the accumulator are the stream of the bytes. -/
structure Encodes (s : Base32State) (data : Bytes) : Prop where
  isBase32 : IsBase32 s.encodedStr
  stream : codeBits s.encodedStr ++ bits s.bitsLeft.toNat s.buffer.toNat = byteBits data

theorem emitGroups_encodes {data : Bytes} {fuel : Nat} {s : Base32State} (h : Encodes s data)
    (hfuel : s.bitsLeft.toNat ≤ fuel) (hwidth : s.bitsLeft.toNat ≤ 32) :
    Encodes (emitGroups fuel s) data ∧ (emitGroups fuel s).bitsLeft.toNat < 5 := by
  induction fuel generalizing s with
  | zero =>
      refine ⟨h, ?_⟩
      show s.bitsLeft.toNat < 5
      omega
  | succ fuel ih =>
      rw [emitGroups]
      by_cases hfive : s.bitsLeft ≥ 5
      · rw [if_pos hfive]
        have hle : 5 ≤ s.bitsLeft.toNat := UInt32.le_iff_toNat_le.mp hfive
        have hsub : (s.bitsLeft - 5).toNat = s.bitsLeft.toNat - 5 :=
          UInt32.toNat_sub_of_le _ _ hfive
        -- the five highest of the bits that are left become a character
        have hsplit : bits s.bitsLeft.toNat s.buffer.toNat =
            bits 5 (s.buffer >>> (s.bitsLeft - 5)).toNat ++
              bits (s.bitsLeft - 5).toNat s.buffer.toNat := by
          rw [UInt32.toNat_shiftRight, hsub, Nat.mod_eq_of_lt (by omega), ← bits_add]
          congr 1
          omega
        refine ih ⟨h.isBase32.append (isBase32_char _), ?_⟩ ?_ ?_
        · show codeBits (s.encodedStr ++ [base32Char ((s.buffer >>> (s.bitsLeft - 5)) &&& 0x1F)]) ++
            bits (s.bitsLeft - 5).toNat s.buffer.toNat = byteBits data
          rw [codeBits_append, codeBits_char, List.append_assoc, ← hsplit]
          exact h.stream
        · show (s.bitsLeft - 5).toNat ≤ fuel
          omega
        · show (s.bitsLeft - 5).toNat ≤ 32
          omega
      · rw [if_neg hfive]
        refine ⟨h, ?_⟩
        have hlt := UInt32.lt_iff_toNat_lt.mp (UInt32.not_le.mp hfive)
        exact hlt

/-- One byte is read, although the accumulator may wrap. -/
theorem encodeByte_encodes {data : Bytes} {s : Base32State} (h : Encodes s data)
    (hfew : s.bitsLeft.toNat < 5) (c : UInt8) :
    Encodes (encodeByte s c) (data ++ [c]) ∧ (encodeByte s c).bitsLeft.toNat < 5 := by
  have height : (8 : UInt32).toNat = 8 := rfl
  have hleft : (s.bitsLeft + 8).toNat = s.bitsLeft.toNat + 8 := by
    rw [UInt32.toNat_add, height, Nat.mod_eq_of_lt (by omega)]
  have hbuffer : ((s.buffer <<< 8) ||| c.toUInt32).toNat =
      (s.buffer.toNat <<< 8) % 2 ^ 32 ||| c.toNat := by
    rw [UInt32.toNat_or, UInt32.toNat_shiftLeft, UInt8.toNat_toUInt32]
    rfl
  -- the bits that are left move up by eight; nothing of them is cut off
  have hbits : bits (s.bitsLeft + 8).toNat ((s.buffer <<< 8) ||| c.toUInt32).toNat =
      bits s.bitsLeft.toNat s.buffer.toNat ++ bits 8 c.toNat := by
    rw [hleft, hbuffer, ← bits_shiftLeft_or _ _ c.toNat_lt]
    refine bits_congr ?_
    intro i hi
    rw [Nat.testBit_or, Nat.testBit_or, Nat.testBit_mod_two_pow, decide_eq_true (by omega),
      Bool.true_and]
  refine emitGroups_encodes ⟨h.isBase32, ?_⟩ (Nat.le_refl _) ?_
  · show codeBits s.encodedStr ++
      bits (s.bitsLeft + 8).toNat ((s.buffer <<< 8) ||| c.toUInt32).toNat = byteBits (data ++ [c])
    rw [hbits, ← List.append_assoc, h.stream, byteBits_append, byteBits_singleton]
  · show (s.bitsLeft + 8).toNat ≤ 32
    omega

theorem foldl_encodeByte_encodes (data : Bytes) :
    Encodes (data.foldl encodeByte {}) data ∧ (data.foldl encodeByte {}).bitsLeft.toNat < 5 := by
  induction data using List.reverseRecOn with
  | nil =>
      refine ⟨⟨?_, rfl⟩, by decide⟩
      intro c hc
      cases hc
  | append_singleton data c ih =>
      rw [List.foldl_concat]
      exact encodeByte_encodes ih.1 ih.2 c

/-- The stream of the code is that of the bytes, filled up with fewer than five zeros. -/
theorem codeBits_toBase32String (data : Bytes) :
    IsBase32 (toBase32String data) ∧
      ∃ k, k < 5 ∧ codeBits (toBase32String data) = byteBits data ++ List.replicate k false := by
  obtain ⟨henc, hfew⟩ := foldl_encodeByte_encodes data
  unfold toBase32String
  generalize data.foldl encodeByte {} = last at henc hfew
  dsimp only
  by_cases hleft : last.bitsLeft > 0
  · have hpos := UInt32.lt_iff_toNat_lt.mp hleft
    have hzero : (0 : UInt32).toNat = 0 := rfl
    have hfive : (5 : UInt32).toNat = 5 := rfl
    have hle : last.bitsLeft ≤ 5 := UInt32.le_iff_toNat_le.mpr (by omega)
    have hsub : (5 - last.bitsLeft).toNat = 5 - last.bitsLeft.toNat :=
      UInt32.toNat_sub_of_le _ _ hle
    -- the last character: the bits that are left, and zeros behind them
    have hlast : bits 5 (last.buffer <<< (5 - last.bitsLeft)).toNat =
        bits last.bitsLeft.toNat last.buffer.toNat ++
          List.replicate (5 - last.bitsLeft.toNat) false := by
      have hwidth : last.bitsLeft.toNat + (5 - last.bitsLeft.toNat) = 5 := by omega
      rw [UInt32.toNat_shiftLeft, bits_mod (by decide), hsub, Nat.mod_eq_of_lt (by omega),
        ← bits_zero, ← bits_shiftLeft_or _ _ (Nat.two_pow_pos _), Nat.or_zero, hwidth]
    rw [if_pos hleft]
    refine ⟨henc.isBase32.append (isBase32_char _), 5 - last.bitsLeft.toNat, by omega, ?_⟩
    rw [codeBits_append, codeBits_char, hlast, ← List.append_assoc, henc.stream]
  · have hnone : last.bitsLeft.toNat = 0 := by
      have hle := UInt32.le_iff_toNat_le.mp (UInt32.not_lt.mp hleft)
      exact Nat.le_zero.mp hle
    rw [if_neg hleft]
    refine ⟨henc.isBase32, 0, by decide, ?_⟩
    have hstream := henc.stream
    rw [hnone, bits, List.append_nil] at hstream
    rw [hstream, List.replicate_zero, List.append_nil]

/-! ## Decoding -/

/-- The bytes of a stream that is filled up with zeros are read back. -/
theorem base32Decode_eq {code : Str} {data : Bytes} {k : Nat} (h : IsBase32 code) (hk : k < 5)
    (hbits : codeBits code = byteBits data ++ List.replicate k false) :
    base32Decode code = some data := by
  have hgroups : groups 8 (codeBits code).length (codeBits code) =
      (data.map (fun b => bits 8 b.toNat), List.replicate k false) := by
    have hlen : (data.map (fun b => bits 8 b.toNat)).length ≤ (codeBits code).length := by
      rw [List.length_map, hbits, List.length_append, length_byteBits]
      omega
    have hwidth : ∀ g ∈ data.map (fun b => bits 8 b.toNat), g.length = 8 := by
      intro g hg
      obtain ⟨b, -, rfl⟩ := List.mem_map.mp hg
      exact length_bits 8 _
    have hrest : (List.replicate k false).length < 8 := by
      rw [List.length_replicate]
      omega
    have hcut := groups_flatten hwidth hrest hlen
    rwa [← List.flatMap_def, ← byteBits, ← hbits] at hcut
  have hall : (code.all fun c => (base32Value c).isSome) = true := List.all_eq_true.mpr h
  have hoctets : (data.map (fun b => bits 8 b.toNat)).map (fun bs => UInt8.ofNat (ofBits bs)) =
      data := by
    rw [List.map_map]
    conv_rhs => rw [← List.map_id data]
    refine List.map_congr_left ?_
    intro b _
    show UInt8.ofNat (ofBits (bits 8 b.toNat)) = b
    rw [ofBits_bits, Nat.mod_eq_of_lt b.toNat_lt, UInt8.ofNat_toNat]
  unfold base32Decode
  rw [hgroups]
  dsimp only
  rw [if_pos ⟨hall, by rw [List.length_replicate]; exact hk, by simp⟩, hoctets]

theorem base32Decode_toBase32String (data : Bytes) :
    base32Decode (toBase32String data) = some data := by
  obtain ⟨hbase32, k, hk, hbits⟩ := codeBits_toBase32String data
  exact base32Decode_eq hbase32 hk hbits

/-! ## Separators -/

theorem flatten_chunks {groupSize fuel : Nat} (hsize : 0 < groupSize) {s : Str}
    (hfuel : s.length ≤ fuel) : (chunks groupSize fuel s).flatten = s := by
  induction fuel generalizing s with
  | zero =>
      have hnil : s = [] := List.length_eq_zero_iff.mp (by omega)
      rw [hnil]
      rfl
  | succ fuel ih =>
      rw [chunks]
      by_cases hnil : s = []
      · rw [if_pos hnil, hnil]
        rfl
      · have hpos := List.length_pos_of_ne_nil hnil
        rw [if_neg hnil, List.flatten_cons, ih (by rw [List.length_drop]; omega),
          List.take_append_drop]

theorem filter_intercalate {p : UInt8 → Bool} {sep : Str} (hsep : ∀ c ∈ sep, p c = false)
    {ps : List Str} (hps : ∀ c ∈ ps.flatten, p c = true) :
    (sep.intercalate ps).filter p = ps.flatten := by
  have hsepNil : sep.filter p = [] := by
    rw [List.filter_eq_nil_iff]
    intro c hc
    rw [hsep c hc]
    exact Bool.false_ne_true
  induction ps with
  | nil => rfl
  | cons s ps ih =>
      rw [List.flatten_cons] at hps ⊢
      have hs : s.filter p = s :=
        List.filter_eq_self.mpr (fun c hc => hps c (List.mem_append_left _ hc))
      by_cases hnil : ps = []
      · subst hnil
        rw [List.intercalate_singleton, hs, List.flatten_nil, List.append_nil]
      · rw [List.intercalate_cons_of_ne_nil hnil, List.filter_append, List.filter_append, hs,
          hsepNil, List.append_nil, ih (fun c hc => hps c (List.mem_append_right _ hc))]

/-- Taking the separators out again. -/
theorem filter_withSeperators {c : UInt8} {groupSize : Nat} (hsize : 0 < groupSize) {s : Str}
    (hs : c ∉ s) : (withSeperators s [c] groupSize).filter (· ≠ c) = s := by
  have hflatten : (chunks groupSize s.length s).flatten = s :=
    flatten_chunks hsize (Nat.le_refl _)
  unfold withSeperators
  rw [filter_intercalate, hflatten]
  · intro d hd
    simpa using hd
  · rw [hflatten]
    intro d hd
    simp only [ne_eq, decide_not, Bool.not_eq_eq_eq_not, Bool.not_true, decide_eq_false_iff_not]
    rintro rfl
    exact hs hd

theorem IsBase32.not_mem_dash {code : Str} (h : IsBase32 code) : (45 : UInt8) ∉ code := by
  intro hmem
  exact absurd (h 45 hmem) (by decide)

end PcbuDesktop
