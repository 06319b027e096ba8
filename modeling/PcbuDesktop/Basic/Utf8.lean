import PcbuDesktop.Basic.StringUtils

set_option autoImplicit false

/-! # UTF-8

`validUtf8` is the check of the JSON library. A valid text is a sequence of characters of one to four
bytes, of which only the first is no continuation byte. A text may therefore be cut in front of every
byte that is none, and nowhere else (`validUtf8_take_append_iff`).
-/

namespace PcbuDesktop

/-- A byte that continues a sequence. -/
def isTail (b : UInt8) : Bool := 0x80 ≤ b && b ≤ 0xBF

/-- A second byte: no overlong form, no surrogate, nothing above U+10FFFF. -/
def isSecond (a b : UInt8) : Bool :=
  isTail b && (a != 0xE0 || 0xA0 ≤ b) && (a != 0xED || b ≤ 0x9F) && (a != 0xF0 || 0x90 ≤ b) &&
    (a != 0xF4 || b ≤ 0x8F)

def validUtf8 : Str → Bool
  | [] => true
  | a :: as =>
      if a < 0x80 then validUtf8 as
      else match as with
        | [] => false
        | b :: bs =>
            if 0xC2 ≤ a ∧ a ≤ 0xDF then isTail b && validUtf8 bs
            else match bs with
              | [] => false
              | c :: cs =>
                  if 0xE0 ≤ a ∧ a ≤ 0xEF then isSecond a b && isTail c && validUtf8 cs
                  else match cs with
                    | [] => false
                    | d :: ds =>
                        0xF0 ≤ a && a ≤ 0xF4 && isSecond a b && isTail c && isTail d && validUtf8 ds

example : validUtf8 (str "caf" ++ [0xC3, 0xA9]) = true ∧ validUtf8 [0x66, 0xFF] = false := by decide

/-! ## Characters -/

/-- The bytes of one character. -/
inductive Utf8Char : Str → Prop
  | one {a : UInt8} : a < 0x80 → Utf8Char [a]
  | two {a b : UInt8} : 0xC2 ≤ a ∧ a ≤ 0xDF → isTail b = true → Utf8Char [a, b]
  | three {a b c : UInt8} : 0xE0 ≤ a ∧ a ≤ 0xEF → isSecond a b = true → isTail c = true →
      Utf8Char [a, b, c]
  | four {a b c d : UInt8} : 0xF0 ≤ a ∧ a ≤ 0xF4 → isSecond a b = true → isTail c = true →
      isTail d = true → Utf8Char [a, b, c, d]

theorem isTail_iff {b : UInt8} : isTail b = true ↔ 0x80 ≤ b.toNat ∧ b.toNat ≤ 0xBF := by
  simp [isTail, UInt8.le_iff_toNat_le]

theorem isTail_of_isSecond {a b : UInt8} (h : isSecond a b = true) : isTail b = true := by
  simp only [isSecond, Bool.and_eq_true] at h
  exact h.1.1.1.1

theorem isSecond_eq_false {a b : UInt8} (h : isTail b = false) : isSecond a b = false := by
  rw [← Bool.not_eq_true]
  intro hsecond
  rw [isTail_of_isSecond hsecond] at h
  cases h

theorem isTail_of_lt {a : UInt8} (h : a < 0x80) : isTail a = false := by
  rw [UInt8.lt_iff_toNat_lt] at h
  rw [← Bool.not_eq_true, isTail_iff]
  intro htail
  have hlt : a.toNat < 128 := h
  omega

/-- The first byte of a character is no continuation byte, all others are. -/
theorem Utf8Char.eq_cons {c : Str} (h : Utf8Char c) :
    ∃ a r, c = a :: r ∧ isTail a = false ∧ ∀ b ∈ r, isTail b = true := by
  have hlead {a : UInt8} {lo hi : UInt8} (ha : lo ≤ a ∧ a ≤ hi) (hlo : 0xBF < lo.toNat) :
      isTail a = false := by
    rw [UInt8.le_iff_toNat_le] at ha
    rw [← Bool.not_eq_true, isTail_iff]
    omega
  cases h with
  | one ha => exact ⟨_, _, rfl, isTail_of_lt ha, nofun⟩
  | two ha hb => exact ⟨_, _, rfl, hlead ha (by decide), by simpa using hb⟩
  | three ha hb hc =>
      exact ⟨_, _, rfl, hlead ha (by decide), by simpa using ⟨isTail_of_isSecond hb, hc⟩⟩
  | four ha hb hc hd =>
      exact ⟨_, _, rfl, hlead ha (by decide), by simpa using ⟨isTail_of_isSecond hb, hc, hd⟩⟩

/-- A byte from `lo` on is in no range that ends below. -/
theorem not_in_range {a lo : UInt8} (hi : UInt8) (ha : lo ≤ a) (h : hi.toNat < lo.toNat) :
    ¬ a < hi ∧ ¬ a ≤ hi := by
  rw [UInt8.le_iff_toNat_le] at ha
  rw [UInt8.lt_iff_toNat_lt, UInt8.le_iff_toNat_le]
  omega

/-! ### What the first byte decides -/

theorem validUtf8_one {a : UInt8} (ha : a < 0x80) (s : Str) : validUtf8 (a :: s) = validUtf8 s := by
  rw [validUtf8.eq_def]
  exact if_pos ha

theorem validUtf8_two {a : UInt8} (ha : 0xC2 ≤ a ∧ a ≤ 0xDF) (s : Str) :
    validUtf8 (a :: s) = match s with
      | b :: t => isTail b && validUtf8 t
      | [] => false := by
  have h80 := not_in_range 0x80 ha.1 (by decide)
  rw [validUtf8.eq_def]
  dsimp only
  rw [if_neg h80.1]
  cases s with
  | nil => rfl
  | cons b t => exact if_pos ha

theorem validUtf8_three {a : UInt8} (ha : 0xE0 ≤ a ∧ a ≤ 0xEF) (s : Str) :
    validUtf8 (a :: s) = match s with
      | b :: c :: t => isSecond a b && isTail c && validUtf8 t
      | _ => false := by
  have h80 := not_in_range 0x80 ha.1 (by decide)
  have hdf := not_in_range 0xDF ha.1 (by decide)
  rw [validUtf8.eq_def]
  dsimp only
  rw [if_neg h80.1]
  match s with
  | [] => rfl
  | [b] => simp [hdf.2]
  | b :: c :: t => simp [hdf.2, ha]

theorem validUtf8_four {a : UInt8} (ha : 0xF0 ≤ a ∧ a ≤ 0xF4) (s : Str) :
    validUtf8 (a :: s) = match s with
      | b :: c :: d :: t => isSecond a b && isTail c && isTail d && validUtf8 t
      | _ => false := by
  have h80 := not_in_range 0x80 ha.1 (by decide)
  have hdf := not_in_range 0xDF ha.1 (by decide)
  have hef := not_in_range 0xEF ha.1 (by decide)
  rw [validUtf8.eq_def]
  dsimp only
  rw [if_neg h80.1]
  match s with
  | [] => rfl
  | [b] => simp [hdf.2]
  | [b, c] => simp [hdf.2, hef.2]
  | b :: c :: d :: t => simp [hdf.2, hef.2, ha]

/-- A character in front of a text does not matter. -/
theorem Utf8Char.validUtf8_append {c : Str} (h : Utf8Char c) (t : Str) :
    validUtf8 (c ++ t) = validUtf8 t := by
  cases h with
  | one ha => exact validUtf8_one ha t
  | @two a b ha hb =>
      show validUtf8 (a :: b :: t) = _
      rw [validUtf8_two ha]
      simp [hb]
  | @three a b c ha hb hc =>
      show validUtf8 (a :: b :: c :: t) = _
      rw [validUtf8_three ha]
      simp [hb, hc]
  | @four a b c d ha hb hc hd =>
      show validUtf8 (a :: b :: c :: d :: t) = _
      rw [validUtf8_four ha]
      simp [hb, hc, hd]

/-- A valid text is empty, or begins with a character. -/
theorem exists_utf8Char {s : Str} (h : validUtf8 s = true) (hne : s ≠ []) :
    ∃ c t, Utf8Char c ∧ s = c ++ t ∧ validUtf8 t = true := by
  cases s with
  | nil => exact absurd rfl hne
  | cons a s =>
      rw [validUtf8.eq_def] at h
      dsimp only at h
      split at h
      · next ha => exact ⟨[a], s, .one ha, rfl, h⟩
      cases s with
      | nil => cases h
      | cons b s =>
          dsimp only at h
          split at h
          · next ha =>
              rw [Bool.and_eq_true] at h
              exact ⟨[a, b], s, .two ha h.1, rfl, h.2⟩
          cases s with
          | nil => cases h
          | cons c s =>
              dsimp only at h
              split at h
              · next ha =>
                  simp only [Bool.and_eq_true] at h
                  exact ⟨[a, b, c], s, .three ha h.1.1 h.1.2, rfl, h.2⟩
              cases s with
              | nil => cases h
              | cons d s =>
                  simp only [Bool.and_eq_true, decide_eq_true_iff] at h
                  exact ⟨[a, b, c, d], s, .four ⟨h.1.1.1.1.1, h.1.1.1.1.2⟩ h.1.1.1.2 h.1.1.2 h.1.2,
                    rfl, h.2⟩

/-- Induction over the characters of a valid text. -/
theorem validUtf8_induction {P : Str → Prop} (nil : P [])
    (char : ∀ c t, Utf8Char c → validUtf8 t = true → P t → P (c ++ t)) {s : Str}
    (h : validUtf8 s = true) : P s := by
  induction hn : s.length using Nat.strongRecOn generalizing s with
  | ind n ih =>
      by_cases hs : s = []
      · rw [hs]
        exact nil
      · obtain ⟨c, t, hc, rfl, ht⟩ := exists_utf8Char h hs
        obtain ⟨a, r, rfl, -, -⟩ := hc.eq_cons
        rw [List.length_append, List.length_cons] at hn
        exact char _ t hc ht (ih t.length (by omega) ht rfl)

/-! ## Cutting -/

/-- The beginning of a text that is no continuation. -/
def NoTail (s : Str) : Prop := ∀ b, s.head? = some b → isTail b = false

/-- A character that is broken off, in front of something that does not complete it. -/
theorem Utf8Char.broken {c : Str} (h : Utf8Char c) {n : Nat} (hn : 0 < n) (hlt : n < c.length)
    {r : Str} (hr : NoTail r) : validUtf8 (c.take n ++ r) = false := by
  have hhead {b : UInt8} {r' : Str} (heq : r = b :: r') : isTail b = false := hr b (by rw [heq]; rfl)
  cases h with
  | one ha => simp at hlt; omega
  | @two a b ha hb =>
      have hone : n = 1 := by simp at hlt; omega
      subst hone
      show validUtf8 (a :: r) = false
      rw [validUtf8_two ha]
      match r with
      | [] => rfl
      | x :: r' => simp [hhead rfl]
  | @three a b c ha hb hc =>
      have hn' : n = 1 ∨ n = 2 := by simp at hlt; omega
      rcases hn' with rfl | rfl
      · show validUtf8 (a :: r) = false
        rw [validUtf8_three ha]
        match r with
        | [] => rfl
        | [x] => rfl
        | x :: y :: r' => simp [isSecond_eq_false (hhead rfl)]
      · show validUtf8 (a :: b :: r) = false
        rw [validUtf8_three ha]
        match r with
        | [] => rfl
        | x :: r' => simp [hhead rfl]
  | @four a b c d ha hb hc hd =>
      have hn' : n = 1 ∨ n = 2 ∨ n = 3 := by simp at hlt; omega
      rcases hn' with rfl | rfl | rfl
      · show validUtf8 (a :: r) = false
        rw [validUtf8_four ha]
        match r with
        | [] => rfl
        | [x] => rfl
        | [x, y] => rfl
        | x :: y :: z :: r' => simp [isSecond_eq_false (hhead rfl)]
      · show validUtf8 (a :: b :: r) = false
        rw [validUtf8_four ha]
        match r with
        | [] => rfl
        | [x] => rfl
        | x :: y :: r' => simp [hhead rfl]
      · show validUtf8 (a :: b :: c :: r) = false
        rw [validUtf8_four ha]
        match r with
        | [] => rfl
        | x :: r' => simp [hhead rfl]

/-- A valid text does not begin with a continuation byte. -/
theorem noTail_of_validUtf8 {s : Str} (h : validUtf8 s = true) : NoTail s := by
  intro b hb
  by_cases hs : s = []
  · rw [hs] at hb
    cases hb
  · obtain ⟨c, t, hc, rfl, -⟩ := exists_utf8Char h hs
    obtain ⟨a, r, rfl, ha, -⟩ := hc.eq_cons
    cases hb
    exact ha

/-- **Where a valid text may be cut**: in front of a byte that is no continuation byte, or at its
end. -/
theorem validUtf8_take_append_iff {s r : Str} (hs : validUtf8 s = true) (hr : validUtf8 r = true)
    (n : Nat) : validUtf8 (s.take n ++ r) = true ↔ NoTail (s.drop n) := by
  have hr' := noTail_of_validUtf8 hr
  refine validUtf8_induction (P := fun s => ∀ n, validUtf8 (s.take n ++ r) = true ↔
    NoTail (s.drop n)) ?_ ?_ hs n
  · intro n
    rw [List.take_nil, List.drop_nil, List.nil_append]
    exact iff_of_true hr nofun
  · intro c t hc ht ih n
    by_cases hn : c.length ≤ n
    · -- the character is kept
      have htake : (c ++ t).take n = c ++ t.take (n - c.length) := by
        rw [List.take_append, List.take_of_length_le hn]
      have hdrop : (c ++ t).drop n = t.drop (n - c.length) := by
        rw [List.drop_append, List.drop_of_length_le hn, List.nil_append]
      rw [htake, hdrop, List.append_assoc, hc.validUtf8_append]
      exact ih (n - c.length)
    · obtain ⟨a, tail, hcons, ha, htail⟩ := hc.eq_cons
      have htake : (c ++ t).take n = c.take n := List.take_append_of_le_length (by omega)
      rw [htake]
      by_cases hzero : n = 0
      · -- the cut is in front of the character
        subst hzero
        rw [List.take_zero, List.nil_append, List.drop_zero, hcons]
        refine iff_of_true hr ?_
        intro b hb
        cases hb
        exact ha
      · -- the cut goes through the character
        rw [hc.broken (by omega) (by omega) hr']
        refine iff_of_false nofun ?_
        intro hno
        obtain ⟨m, rfl⟩ : ∃ m, n = m + 1 := ⟨n - 1, by omega⟩
        have hlt : m < tail.length := by
          rw [hcons, List.length_cons] at hn
          omega
        have hhead : ((c ++ t).drop (m + 1)).head? = some tail[m] := by
          rw [List.head?_drop, hcons, List.cons_append, List.getElem?_cons_succ,
            List.getElem?_append_left hlt, List.getElem?_eq_getElem hlt]
        have hbyte := hno _ hhead
        rw [htail _ (List.getElem_mem hlt)] at hbyte
        cases hbyte

theorem validUtf8_take_iff {s : Str} (hs : validUtf8 s = true) (n : Nat) :
    validUtf8 (s.take n) = true ↔ NoTail (s.drop n) := by
  have h := validUtf8_take_append_iff hs (r := []) rfl n
  rwa [List.append_nil] at h

/-! ## Leaving ASCII bytes out -/

/-- Only bytes of one-byte characters are left out. -/
def DropsAscii (keep : UInt8 → Bool) : Prop := ∀ b, keep b = false → b < 0x80

theorem DropsAscii.keeps {keep : UInt8 → Bool} (h : DropsAscii keep) {b : UInt8}
    (hb : 0x80 ≤ b.toNat) : keep b = true := by
  rw [← Bool.not_eq_false]
  intro hdrop
  have hlt := h b hdrop
  rw [UInt8.lt_iff_toNat_lt] at hlt
  have hlt' : b.toNat < 128 := hlt
  omega

/-- A character is kept or left out as a whole. -/
theorem Utf8Char.filter {c : Str} (h : Utf8Char c) {keep : UInt8 → Bool} (hkeep : DropsAscii keep) :
    c.filter keep = c ∨ c.filter keep = [] := by
  have hlead {a lo hi : UInt8} (ha : lo ≤ a ∧ a ≤ hi) (hlo : 0x80 ≤ lo.toNat) : keep a = true := by
    rw [UInt8.le_iff_toNat_le] at ha
    exact hkeep.keeps (by omega)
  have htail {b : UInt8} (hb : isTail b = true) : keep b = true := hkeep.keeps (isTail_iff.mp hb).1
  cases h with
  | @one a ha =>
      by_cases hk : keep a = true
      · exact Or.inl (by simp [hk])
      · exact Or.inr (by simp [hk])
  | two ha hb => exact Or.inl (by simp [hlead ha (by decide), htail hb])
  | three ha hb hc =>
      exact Or.inl (by simp [hlead ha (by decide), htail (isTail_of_isSecond hb), htail hc])
  | four ha hb hc hd =>
      exact Or.inl (by simp [hlead ha (by decide), htail (isTail_of_isSecond hb), htail hc, htail hd])

theorem validUtf8_filter {s : Str} (hs : validUtf8 s = true) {keep : UInt8 → Bool}
    (hkeep : DropsAscii keep) : validUtf8 (s.filter keep) = true := by
  refine validUtf8_induction (P := fun s => validUtf8 (s.filter keep) = true) rfl ?_ hs
  intro c t hc _ ih
  rw [List.filter_append]
  rcases hc.filter hkeep with h | h
  · rw [h, hc.validUtf8_append]
    exact ih
  · rw [h]
    exact ih

/-! ## Trimming -/

theorem isSpace_lt {b : UInt8} (h : isSpace b = true) : b < 0x80 := by
  rw [UInt8.lt_iff_toNat_lt]
  show b.toNat < 128
  simp only [isSpace, Bool.or_eq_true, Bool.and_eq_true, decide_eq_true_iff,
    UInt8.le_iff_toNat_le] at h
  rcases h with rfl | ⟨-, h⟩
  · decide
  · have h' : b.toNat ≤ 13 := h
    omega

theorem validUtf8_ascii_append {s : Str} (hs : ∀ b ∈ s, b < 0x80) (t : Str) :
    validUtf8 (s ++ t) = validUtf8 t := by
  induction s with
  | nil => rfl
  | cons b s ih =>
      obtain ⟨hb, hs⟩ := List.forall_mem_cons.mp hs
      rw [← ih hs]
      exact (Utf8Char.one hb).validUtf8_append (s ++ t)

theorem validUtf8_of_append {s t : Str} (h : validUtf8 (s ++ t) = true) (ht : NoTail t) :
    validUtf8 s = true := by
  have htake := validUtf8_take_iff h s.length
  rw [List.take_left, List.drop_left] at htake
  exact htake.mpr ht

theorem validUtf8_trim {s : Str} (hs : validUtf8 s = true) : validUtf8 (trim s) = true := by
  have hright : validUtf8 (s.rdropWhile isSpace) = true := by
    rw [← List.rdropWhile_append_rtakeWhile (p := isSpace) (l := s)] at hs
    refine validUtf8_of_append hs ?_
    intro b hb
    exact isTail_of_lt (isSpace_lt (List.mem_rtakeWhile_imp (List.mem_of_head? hb)))
  unfold trim
  rw [← List.takeWhile_append_dropWhile (p := isSpace) (l := s.rdropWhile isSpace),
    validUtf8_ascii_append] at hright
  · exact hright
  · intro b hb
    exact isSpace_lt (List.mem_takeWhile_imp hb)

end PcbuDesktop
