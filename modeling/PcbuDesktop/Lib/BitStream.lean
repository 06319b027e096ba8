import Mathlib.Data.List.Basic
import Mathlib.Data.Nat.Bitwise

set_option autoImplicit false

/-! # Numbers as streams of bits

The `w` lowest bits of a number, the highest first. Numbers of one width that are written behind
each other make a stream, and a stream can be cut into groups of another width: this is what
encodings like base32 do. An accumulator that has bits shifted in from the right holds the end of
the stream in its lowest bits, whatever stands above them.
-/

namespace PcbuDesktop

namespace BitStream

/-- The `w` lowest bits of `n`, the highest first. -/
def bits : Nat → Nat → List Bool
  | 0, _ => []
  | w + 1, n => n.testBit w :: bits w n

/-- The number that is written in binary. -/
def ofBits (bs : List Bool) : Nat := bs.foldl (fun n b => 2 * n + b.toNat) 0

/-- The stream cut into groups of `w` bits, as long as there are so many, and what is left. -/
def groups (w : Nat) : Nat → List Bool → List (List Bool) × List Bool
  | 0, bs => ([], bs)
  | fuel + 1, bs =>
      if bs.length < w then ([], bs)
      else (bs.take w :: (groups w fuel (bs.drop w)).1, (groups w fuel (bs.drop w)).2)

/-! ## Bits of a number -/

@[simp] theorem length_bits (w n : Nat) : (bits w n).length = w := by
  induction w with
  | zero => rfl
  | succ w ih => rw [bits, List.length_cons, ih]

theorem bits_congr {w m n : Nat} (h : ∀ i, i < w → m.testBit i = n.testBit i) :
    bits w m = bits w n := by
  induction w with
  | zero => rfl
  | succ w ih =>
      rw [bits, bits, h w (Nat.lt_succ_self w), ih (fun i hi => h i (Nat.lt_succ_of_lt hi))]

/-- The higher bits and the lower ones. -/
theorem bits_add (v w n : Nat) : bits (v + w) n = bits v (n >>> w) ++ bits w n := by
  induction v with
  | zero => rw [Nat.zero_add, bits, List.nil_append]
  | succ v ih =>
      rw [show v + 1 + w = (v + w) + 1 by omega, bits, bits, ih, Nat.testBit_shiftRight,
        Nat.add_comm w v, List.cons_append]

theorem bits_zero (w : Nat) : bits w 0 = List.replicate w false := by
  induction w with
  | zero => rfl
  | succ w ih => rw [bits, ih, Nat.zero_testBit, List.replicate_succ]

/-- Bits that are cut off above do not matter. -/
theorem bits_mod {w W n : Nat} (h : w ≤ W) : bits w (n % 2 ^ W) = bits w n := by
  refine bits_congr ?_
  intro i hi
  rw [Nat.testBit_mod_two_pow, decide_eq_true (by omega), Bool.true_and]

/-- A number shifted in from the right. -/
theorem bits_shiftLeft_or {w n : Nat} (v m : Nat) (h : n < 2 ^ w) :
    bits (v + w) (m <<< w ||| n) = bits v m ++ bits w n := by
  rw [bits_add]
  congr 1
  · refine bits_congr ?_
    intro i _
    rw [Nat.testBit_shiftRight, Nat.testBit_or, Nat.testBit_shiftLeft,
      Nat.testBit_lt_two_pow (lt_of_lt_of_le h (Nat.pow_le_pow_right (by decide) (by omega)))]
    simp
  · refine bits_congr ?_
    intro i hi
    rw [Nat.testBit_or, Nat.testBit_shiftLeft]
    simp [show ¬ w ≤ i by omega]

theorem ofBits_foldl (bs : List Bool) (n : Nat) :
    bs.foldl (fun n b => 2 * n + b.toNat) n = n * 2 ^ bs.length + ofBits bs := by
  unfold ofBits
  induction bs generalizing n with
  | nil => simp
  | cons b bs ih =>
      rw [List.foldl_cons, List.foldl_cons, ih, ih (2 * 0 + b.toNat), List.length_cons,
        Nat.pow_succ, Nat.mul_zero, Nat.zero_add, Nat.add_mul, Nat.mul_comm (2 ^ bs.length),
        ← Nat.mul_assoc, Nat.mul_comm n 2, Nat.add_assoc]

theorem ofBits_cons (b : Bool) (bs : List Bool) :
    ofBits (b :: bs) = b.toNat * 2 ^ bs.length + ofBits bs := by
  rw [ofBits, List.foldl_cons, ofBits_foldl, Nat.mul_zero, Nat.zero_add]

/-- Writing a number in binary and reading it. -/
theorem ofBits_bits (w n : Nat) : ofBits (bits w n) = n % 2 ^ w := by
  induction w with
  | zero => simp [bits, ofBits, Nat.mod_one]
  | succ w ih =>
      rw [bits, ofBits_cons, length_bits, ih, Nat.toNat_testBit, Nat.mod_pow_succ, Nat.add_comm,
        Nat.mul_comm]

/-! ## Cutting a stream -/

theorem groups_flatten {w : Nat} {gs : List (List Bool)} (hgs : ∀ g ∈ gs, g.length = w)
    {rest : List Bool} (hrest : rest.length < w) {fuel : Nat} (hfuel : gs.length ≤ fuel) :
    groups w fuel (gs.flatten ++ rest) = (gs, rest) := by
  induction gs generalizing fuel with
  | nil =>
      cases fuel with
      | zero => rfl
      | succ fuel =>
          rw [groups, List.flatten_nil, List.nil_append, if_pos hrest]
  | cons g gs ih =>
      cases fuel with
      | zero => simp at hfuel
      | succ fuel =>
          have hg : g.length = w := hgs g List.mem_cons_self
          have hlong : ¬ (g ++ (gs.flatten ++ rest)).length < w := by
            rw [List.length_append]
            omega
          have hfuel' : gs.length ≤ fuel := Nat.le_of_succ_le_succ hfuel
          have htail := ih (fun g' hg' => hgs g' (List.mem_cons_of_mem _ hg')) hfuel'
          rw [groups, List.flatten_cons, List.append_assoc, if_neg hlong, List.take_left' hg,
            List.drop_left' hg, htail]

end BitStream

end PcbuDesktop
