import Mathlib.Algebra.BigOperators.Group.Finset.Basic

set_option autoImplicit false

/-! # Counting threads

A thread map `f : ι → Option α` gives the program point of every thread that exists. `count l f p` is
the number of threads, of those named in `l`, at a program point with the property `p`. A name may stand
in `l` more than once. When one thread moves, the count changes by what that thread counts before and
after (`count_update`).
-/

namespace ThreadCount

variable {ι α : Type} [DecidableEq ι]

/-- What one thread adds to the count. -/
def one (x : Option α) (p : α → Bool) : Nat := if x.any p = true then 1 else 0

def count (l : List ι) (f : ι → Option α) (p : α → Bool) : Nat := ∑ t ∈ l.toFinset, one (f t) p

section

variable {l : List ι} {f : ι → Option α} {p : α → Bool} {t : ι}

theorem count_update (ht : t ∈ l) (x : Option α) :
    count l (Function.update f t x) p + one (f t) p = count l f p + one x p := by
  have hmem : t ∈ l.toFinset := List.mem_toFinset.mpr ht
  have hrest : ∑ u ∈ l.toFinset.erase t, one (Function.update f t x u) p =
      ∑ u ∈ l.toFinset.erase t, one (f u) p := by
    refine Finset.sum_congr rfl ?_
    intro u hu
    rw [Function.update_of_ne (Finset.ne_of_mem_erase hu)]
  unfold count
  rw [← Finset.add_sum_erase _ _ hmem, ← Finset.add_sum_erase _ _ hmem, hrest, Function.update_self]
  omega

/-- A name without a thread can be added. -/
theorem count_append (ht : f t = none) : count (l ++ [t]) f p = count l f p := by
  have hset : (l ++ [t]).toFinset = insert t l.toFinset := by
    ext u
    simp
  unfold count
  rw [hset]
  by_cases hmem : t ∈ l.toFinset
  · rw [Finset.insert_eq_of_mem hmem]
  · rw [Finset.sum_insert hmem, ht]
    exact Nat.zero_add _

theorem count_eq_zero (h : ∀ t, f t = none) : count l f p = 0 := by
  refine Finset.sum_eq_zero ?_
  intro u _
  rw [h u]
  rfl

theorem count_add_not (l : List ι) (f : ι → Option α) (p : α → Bool) :
    count l f p + count l f (fun a => !p a) = count l f (fun _ => true) := by
  unfold count
  rw [← Finset.sum_add_distrib]
  refine Finset.sum_congr rfl ?_
  intro u _
  unfold one
  cases f u with
  | none => rfl
  | some a => cases h : p a <;> simp [h]

end

end ThreadCount
