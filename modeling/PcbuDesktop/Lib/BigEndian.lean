import Mathlib.Algebra.Group.Nat.Defs
import Mathlib.Data.List.Induction

set_option autoImplicit false

/-! # Numbers in network byte order

`toBE w n` writes `n` in exactly `w` bytes, most significant first, and `ofBE` reads such a
byte string. The two are inverse to each other on numbers below `256 ^ w` and on byte strings
of length `w`.
-/

namespace BigEndian

/-- The last `w` bytes of `n`, most significant first. -/
def toBE : Nat → Nat → List UInt8
  | 0, _ => []
  | w + 1, n => toBE w (n / 256) ++ [UInt8.ofNat n]

/-- The number a byte string denotes. -/
def ofBE (bytes : List UInt8) : Nat := bytes.foldl (fun acc b => acc * 256 + b.toNat) 0

@[simp] theorem length_toBE (w n : Nat) : (toBE w n).length = w := by
  induction w generalizing n with
  | zero => rfl
  | succ w ih => rw [toBE, List.length_append, ih]; rfl

@[simp] theorem ofBE_nil : ofBE [] = 0 := rfl

theorem ofBE_concat (bytes : List UInt8) (b : UInt8) :
    ofBE (bytes ++ [b]) = ofBE bytes * 256 + b.toNat := by
  unfold ofBE
  rw [List.foldl_append]
  rfl

theorem ofBE_append (a b : List UInt8) : ofBE (a ++ b) = ofBE a * 256 ^ b.length + ofBE b := by
  induction b using List.reverseRecOn with
  | nil => simp
  | append_singleton b x ih =>
      rw [← List.append_assoc, ofBE_concat, ih, ofBE_concat, List.length_append,
        List.length_singleton, Nat.pow_succ, Nat.add_mul, Nat.mul_assoc]
      omega

theorem ofBE_toBE {w n : Nat} (h : n < 256 ^ w) : ofBE (toBE w n) = n := by
  induction w generalizing n with
  | zero =>
      rw [Nat.pow_zero] at h
      have hn : n = 0 := by omega
      subst hn
      rfl
  | succ w ih =>
      have hdiv : n / 256 < 256 ^ w := by
        rw [Nat.div_lt_iff_lt_mul (by decide)]
        rwa [Nat.pow_succ] at h
      rw [toBE, ofBE_concat, ih hdiv, UInt8.toNat_ofNat']
      omega

theorem ofBE_lt (bytes : List UInt8) : ofBE bytes < 256 ^ bytes.length := by
  induction bytes using List.reverseRecOn with
  | nil => decide
  | append_singleton bytes b ih =>
      have hb := b.toNat_lt
      rw [ofBE_concat, List.length_append, List.length_singleton, Nat.pow_succ]
      omega

theorem toBE_ofBE (bytes : List UInt8) : toBE bytes.length (ofBE bytes) = bytes := by
  induction bytes using List.reverseRecOn with
  | nil => rfl
  | append_singleton bytes b ih =>
      have hb := b.toNat_lt
      have hdiv : (ofBE bytes * 256 + b.toNat) / 256 = ofBE bytes := by omega
      have hlast : UInt8.ofNat (ofBE bytes * 256 + b.toNat) = b := by
        apply UInt8.toNat_inj.mp
        rw [UInt8.toNat_ofNat']
        omega
      rw [List.length_append, List.length_singleton, ofBE_concat, toBE, hdiv, ih, hlast]

/-- The bytes of a number put together from two halves. -/
theorem toBE_append (v w a b : Nat) (hb : b < 256 ^ w) :
    toBE (v + w) (a * 256 ^ w + b) = toBE v a ++ toBE w b := by
  induction w generalizing b with
  | zero =>
      have hb₀ : b = 0 := by omega
      subst hb₀
      simp [toBE]
  | succ w ih =>
      have hpow : 256 ^ (w + 1) = 256 ^ w * 256 := Nat.pow_succ ..
      have hdiv : (a * 256 ^ (w + 1) + b) / 256 = a * 256 ^ w + b / 256 := by
        rw [hpow, ← Nat.mul_assoc]
        omega
      have hlast : UInt8.ofNat (a * 256 ^ (w + 1) + b) = UInt8.ofNat b := by
        apply UInt8.toNat_inj.mp
        rw [UInt8.toNat_ofNat', UInt8.toNat_ofNat', hpow, ← Nat.mul_assoc]
        omega
      show toBE (v + w) ((a * 256 ^ (w + 1) + b) / 256) ++ [UInt8.ofNat (a * 256 ^ (w + 1) + b)] =
        toBE v a ++ (toBE w (b / 256) ++ [UInt8.ofNat b])
      rw [hdiv, ih (b / 256) (by omega), hlast, List.append_assoc]

end BigEndian
