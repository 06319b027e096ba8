import Mathlib.Computability.RegularExpressions

set_option autoImplicit false

/-! # Regular expressions as they are written

The operators of the usual notation (a literal text, a class of characters, a repetition with
bounds) over Mathlib's `RegularExpression`, and expressions of fields with a separator between them:
such an expression matches a text of fields when each of its parts matches the field.
-/

namespace PcbuDesktop

namespace Regex

variable {α : Type}

/-- `abc`. -/
def literal (w : List α) : RegularExpression α :=
  w.foldr (fun a P => RegularExpression.char a * P) 1

/-- `[abc]`. -/
def oneOf (cs : List α) : RegularExpression α := cs.foldr (fun a P => RegularExpression.char a + P) 0

/-- At most `n` times. -/
def atMost (P : RegularExpression α) : Nat → RegularExpression α
  | 0 => 1
  | n + 1 => 1 + P * atMost P n

/-- `P{m,n}`. -/
def between (P : RegularExpression α) (m n : Nat) : RegularExpression α :=
  P ^ m * atMost P (n - m)

/-! ## What an expression matches -/

theorem mem_literal_iff {v w : List α} : v ∈ (literal w).matches' ↔ v = w := by
  induction w generalizing v with
  | nil => exact Iff.rfl
  | cons a w ih =>
      show v ∈ (RegularExpression.char a * literal w).matches' ↔ _
      rw [RegularExpression.matches'_mul, Language.mem_mul]
      constructor
      · rintro ⟨u, hu, x, hx, rfl⟩
        rw [ih.mp hx, Set.mem_singleton_iff.mp hu, List.singleton_append]
      · rintro rfl
        exact ⟨[a], rfl, w, ih.mpr rfl, rfl⟩

theorem mem_oneOf_iff {cs w : List α} : w ∈ (oneOf cs).matches' ↔ ∃ c ∈ cs, w = [c] := by
  induction cs with
  | nil => exact ⟨fun h => h.elim, fun ⟨c, hc, _⟩ => absurd hc List.not_mem_nil⟩
  | cons a cs ih =>
      show w ∈ (RegularExpression.char a + oneOf cs).matches' ↔ _
      rw [RegularExpression.matches'_add, Language.mem_add, ih, List.exists_mem_cons_iff]
      exact Iff.rfl

theorem mem_once_iff {P : RegularExpression α} {w : List α} :
    w ∈ (between P 1 1).matches' ↔ w ∈ P.matches' := by
  show w ∈ (P ^ 1 * 1).matches' ↔ _
  rw [RegularExpression.matches'_mul, RegularExpression.matches'_pow,
    RegularExpression.matches'_epsilon, pow_one, mul_one]

theorem mem_optional_iff {P : RegularExpression α} {w : List α} :
    w ∈ (between P 0 1).matches' ↔ w = [] ∨ w ∈ P.matches' := by
  show w ∈ (P ^ 0 * (1 + P * 1)).matches' ↔ _
  rw [RegularExpression.matches'_mul, RegularExpression.matches'_pow, pow_zero, one_mul,
    RegularExpression.matches'_add, RegularExpression.matches'_mul,
    RegularExpression.matches'_epsilon, mul_one, Language.mem_add, Language.mem_one]

theorem mem_atMost {P : RegularExpression α} {ws : List (List α)} (h : ∀ w ∈ ws, w ∈ P.matches')
    {n : Nat} (hn : ws.length ≤ n) : ws.flatten ∈ (atMost P n).matches' := by
  induction n generalizing ws with
  | zero =>
      rw [List.length_eq_zero_iff.mp (Nat.le_zero.mp hn)]
      exact Language.nil_mem_one
  | succ n ih =>
      show ws.flatten ∈ (1 + P * atMost P n).matches'
      rw [RegularExpression.matches'_add, RegularExpression.matches'_mul, Language.mem_add]
      cases ws with
      | nil => exact .inl Language.nil_mem_one
      | cons w ws =>
          have htail := ih (fun v hv => h v (List.mem_cons_of_mem w hv)) (Nat.le_of_succ_le_succ hn)
          exact .inr (Language.mem_mul.mpr ⟨w, h w List.mem_cons_self, _, htail, rfl⟩)

/-- A repetition matches words one behind the other, when there are neither too few nor too many. -/
theorem mem_between {P : RegularExpression α} {ws : List (List α)} (h : ∀ w ∈ ws, w ∈ P.matches')
    {m n : Nat} (hm : m ≤ ws.length) (hn : ws.length ≤ n) :
    ws.flatten ∈ (between P m n).matches' := by
  have hfirst : (ws.take m).flatten ∈ P.matches' ^ m :=
    Language.mem_pow.mpr ⟨ws.take m, rfl, List.length_take_of_le hm,
      fun w hw => h w (List.mem_of_mem_take hw)⟩
  have hrest : (ws.drop m).flatten ∈ (atMost P (n - m)).matches' :=
    mem_atMost (fun w hw => h w (List.mem_of_mem_drop hw)) (by rw [List.length_drop]; omega)
  rw [between, RegularExpression.matches'_mul, RegularExpression.matches'_pow, Language.mem_mul]
  refine ⟨_, hfirst, _, hrest, ?_⟩
  rw [← List.flatten_append, List.take_append_drop]

/-! ## Separators -/

/-- Where the first field ends. -/
theorem append_cons_inj {c : α} {u w x y : List α} (hu : c ∉ u) (hw : c ∉ w)
    (h : u ++ c :: x = w ++ c :: y) : u = w ∧ x = y := by
  induction u generalizing w with
  | nil =>
      cases w with
      | nil => exact ⟨rfl, (List.cons.inj h).2⟩
      | cons b w => exact absurd ((List.cons.inj h).1 ▸ List.mem_cons_self) hw
  | cons a u ih =>
      cases w with
      | nil => exact absurd ((List.cons.inj h).1 ▸ List.mem_cons_self) hu
      | cons b w =>
          obtain ⟨rfl, htail⟩ := List.cons.inj h
          obtain ⟨rfl, rfl⟩ := ih (fun hm => hu (List.mem_cons_of_mem _ hm))
            (fun hm => hw (List.mem_cons_of_mem _ hm)) htail
          exact ⟨rfl, rfl⟩

/-- `c` does not occur in what the expression matches. -/
def Avoids (P : RegularExpression α) (c : α) : Prop := ∀ w ∈ P.matches', c ∉ w

/-- A field, a separator and the rest. -/
theorem mem_separated {P Q : RegularExpression α} {c : α} (hP : Avoids P c) {w t : List α}
    (hw : c ∉ w) :
    w ++ c :: t ∈ (P * (RegularExpression.char c * Q)).matches' ↔
      w ∈ P.matches' ∧ t ∈ Q.matches' := by
  rw [RegularExpression.matches'_mul, RegularExpression.matches'_mul,
    RegularExpression.matches'_char, Language.mem_mul]
  constructor
  · rintro ⟨u, hu, v, hv, heq⟩
    obtain ⟨s, hs, x, hx, rfl⟩ := Language.mem_mul.mp hv
    rw [Set.mem_singleton_iff.mp hs, List.singleton_append] at heq
    obtain ⟨rfl, rfl⟩ := append_cons_inj (hP u hu) hw heq
    exact ⟨hu, hx⟩
  · rintro ⟨hmem, ht⟩
    exact ⟨w, hmem, c :: t, Language.mem_mul.mpr ⟨[c], rfl, t, ht, rfl⟩, rfl⟩

/-! ## What an expression avoids -/

theorem avoids_one (c : α) : Avoids (1 : RegularExpression α) c := by
  intro w hw
  rw [RegularExpression.matches'_epsilon, Language.mem_one] at hw
  rw [hw]
  exact List.not_mem_nil

theorem avoids_char {a c : α} (h : c ≠ a) : Avoids (RegularExpression.char a) c := by
  intro w hw
  rw [RegularExpression.matches'_char] at hw
  rw [Set.mem_singleton_iff.mp hw, List.mem_singleton]
  exact h

theorem Avoids.mul {P Q : RegularExpression α} {c : α} (hP : Avoids P c) (hQ : Avoids Q c) :
    Avoids (P * Q) c := by
  intro w hw
  rw [RegularExpression.matches'_mul] at hw
  obtain ⟨u, hu, v, hv, rfl⟩ := Language.mem_mul.mp hw
  rw [List.mem_append, not_or]
  exact ⟨hP u hu, hQ v hv⟩

theorem Avoids.add {P Q : RegularExpression α} {c : α} (hP : Avoids P c) (hQ : Avoids Q c) :
    Avoids (P + Q) c := by
  intro w hw
  rw [RegularExpression.matches'_add, Language.mem_add] at hw
  rcases hw with hw | hw
  · exact hP w hw
  · exact hQ w hw

theorem Avoids.pow {P : RegularExpression α} {c : α} (hP : Avoids P c) (n : Nat) :
    Avoids (P ^ n) c := by
  induction n with
  | zero => exact avoids_one c
  | succ n ih => exact ih.mul hP

theorem avoids_literal {v : List α} {c : α} (h : c ∉ v) : Avoids (literal v) c := by
  induction v with
  | nil => exact avoids_one c
  | cons a v ih =>
      rw [List.mem_cons, not_or] at h
      exact (avoids_char h.1).mul (ih h.2)

theorem avoids_oneOf {cs : List α} {c : α} (h : c ∉ cs) : Avoids (oneOf cs) c := by
  induction cs with
  | nil =>
      intro w hw
      exact hw.elim
  | cons a cs ih =>
      rw [List.mem_cons, not_or] at h
      exact (avoids_char h.1).add (ih h.2)

theorem Avoids.atMost {P : RegularExpression α} {c : α} (hP : Avoids P c) (n : Nat) :
    Avoids (atMost P n) c := by
  induction n with
  | zero => exact avoids_one c
  | succ n ih => exact (avoids_one c).add (hP.mul ih)

theorem Avoids.between {P : RegularExpression α} {c : α} (hP : Avoids P c) (m n : Nat) :
    Avoids (between P m n) c := (hP.pow m).mul (hP.atMost (n - m))

end Regex

end PcbuDesktop
