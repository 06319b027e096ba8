import Mathlib.Data.List.GetD
import Mathlib.Data.List.Lex
import Mathlib.Order.PiLex

set_option autoImplicit false

/-! # The lexicographic order on lists of different lengths

Lists of which the shorter one is filled up with a default are compared here as what they stand
for: the sequence that goes on with the default forever. The order of these sequences is Mathlib's
`Pi.Lex`, so that it is linear from the start; the two theorems at the end say that it is the
order of the lists once both have the same length.
-/

namespace PcbuDesktop

namespace PaddedOrder

variable {α : Type} (d : α)

/-- The list, continued with `d`. -/
def padded (xs : List α) : Lex (Nat → α) := toLex (fun i => xs.getD i d)

theorem padded_eq_iff {xs ys : List α} :
    padded d xs = padded d ys ↔ ∀ i, xs.getD i d = ys.getD i d := by
  constructor
  · intro h i
    exact congrFun (toLex.injective h) i
  · intro h
    exact congrArg toLex (funext h)

theorem padded_lt_iff [LinearOrder α] {xs ys : List α} :
    padded d xs < padded d ys ↔
      ∃ i, (∀ j, j < i → xs.getD j d = ys.getD j d) ∧ xs.getD i d < ys.getD i d := Iff.rfl

/-- Both sequences are constant from the end of the longer list on. -/
theorem lt_max_of_getD_ne {xs ys : List α} {i : Nat} (h : xs.getD i d ≠ ys.getD i d) :
    i < max xs.length ys.length := by
  by_contra hi
  have hx : xs.length ≤ i := by omega
  have hy : ys.length ≤ i := by omega
  rw [List.getD_eq_default xs d hx, List.getD_eq_default ys d hy] at h
  exact h rfl

theorem padded_append_replicate (xs : List α) (k : Nat) :
    padded d (xs ++ List.replicate k d) = padded d xs := by
  rw [padded_eq_iff]
  intro i
  by_cases hi : i < xs.length
  · rw [List.getD_append _ _ _ _ hi]
  · have hi' : xs.length ≤ i := by omega
    rw [List.getD_append_right _ _ _ _ hi', List.getD_eq_default xs d hi']
    exact List.getElem?_getD_replicate_default_eq ..

/-! ## Lists of the same length -/

theorem padded_rightpad (xs : List α) (n : Nat) : padded d (xs.rightpad n d) = padded d xs :=
  padded_append_replicate d xs (n - xs.length)

theorem length_rightpad {xs : List α} {n : Nat} (h : xs.length ≤ n) :
    (xs.rightpad n d).length = n := by
  rw [List.rightpad, List.length_append, List.length_replicate]
  omega

theorem eq_iff_padded_eq {xs ys : List α} (h : xs.length = ys.length) :
    xs = ys ↔ padded d xs = padded d ys := by
  constructor
  · rintro rfl
    rfl
  · intro heq
    refine List.ext_getElem h ?_
    intro i hx hy
    have hi := (padded_eq_iff d).mp heq i
    rwa [List.getD_eq_getElem xs d hx, List.getD_eq_getElem ys d hy] at hi

theorem lt_iff_padded_lt [LinearOrder α] {xs ys : List α} (h : xs.length = ys.length) :
    xs < ys ↔ padded d xs < padded d ys := by
  rw [List.lt_iff_exists, padded_lt_iff]
  constructor
  · rintro (⟨-, hlen⟩ | ⟨i, hx, hy, hbefore, hlt⟩)
    · omega
    · refine ⟨i, ?_, ?_⟩
      · intro j hj
        rw [List.getD_eq_getElem xs d (hj.trans hx), List.getD_eq_getElem ys d (hj.trans hy)]
        exact hbefore j hj
      · rwa [List.getD_eq_getElem xs d hx, List.getD_eq_getElem ys d hy]
  · rintro ⟨i, hbefore, hlt⟩
    have hmax := lt_max_of_getD_ne d hlt.ne
    have hx : i < xs.length := by omega
    have hy : i < ys.length := by omega
    refine Or.inr ⟨i, hx, hy, ?_, ?_⟩
    · intro j hj
      have hj' := hbefore j hj
      rwa [List.getD_eq_getElem xs d (hj.trans hx), List.getD_eq_getElem ys d (hj.trans hy)] at hj'
    · rwa [List.getD_eq_getElem xs d hx, List.getD_eq_getElem ys d hy] at hlt

/-- Filled up to the same length, two lists are equal when their sequences are. -/
theorem rightpad_eq_iff {xs ys : List α} {n : Nat} (hx : xs.length ≤ n) (hy : ys.length ≤ n) :
    xs.rightpad n d = ys.rightpad n d ↔ padded d xs = padded d ys := by
  have hlen : (xs.rightpad n d).length = (ys.rightpad n d).length := by
    rw [length_rightpad d hx, length_rightpad d hy]
  rw [eq_iff_padded_eq d hlen, padded_rightpad, padded_rightpad]

/-- Filled up to the same length, two lists are ordered as their sequences are. -/
theorem rightpad_lt_iff [LinearOrder α] {xs ys : List α} {n : Nat} (hx : xs.length ≤ n)
    (hy : ys.length ≤ n) :
    xs.rightpad n d < ys.rightpad n d ↔ padded d xs < padded d ys := by
  have hlen : (xs.rightpad n d).length = (ys.rightpad n d).length := by
    rw [length_rightpad d hx, length_rightpad d hy]
  rw [lt_iff_padded_lt d hlen, padded_rightpad, padded_rightpad]

end PaddedOrder

end PcbuDesktop
