import PcbuDesktop.Lib.PaddedOrder
import PcbuDesktop.Basic.Version

set_option autoImplicit false

/-! # The order of versions

What `AppInfo::CompareVersion` (`utils/AppInfo.cpp`) computes on versions it can read: the
lexicographic order of the lists of numbers, the shorter one filled up with zeros. The result is
1 where the *second* version is the greater one, as the update check uses it. Everything else here
(antisymmetry, transitivity, what is ignored) is read off from that order, which is linear.
-/

namespace PcbuDesktop

open PaddedOrder

/-- A text `CompareVersion` can read: dotted decimal numbers that fit into an `int`, possibly with
a suffix behind a `-`. -/
structure IsVersion (version : Str) (numbers : List Nat) : Prop where
  dotted : Dotted version numbers
  inRange : ∀ n ∈ numbers, n ≤ 2147483647

/-- What stands behind a `-` does not change the numbers. -/
theorem IsVersion.withSuffix {version : Str} {numbers : List Nat} (h : IsVersion version numbers)
    (suffix : Str) : IsVersion (version ++ str "-" ++ suffix) numbers := by
  obtain ⟨parts, hne, hparts, hnumbers, hversion⟩ := h.dotted
  refine ⟨⟨parts, hne, hparts, hnumbers, Or.inr ?_⟩, h.inRange⟩
  rcases hversion with rfl | ⟨other, rfl⟩
  · exact ⟨suffix, rfl⟩
  · exact ⟨other ++ str "-" ++ suffix, by simp only [List.append_assoc]⟩

/-- The numbers, filled up with zeros to the length of the longer one of two lists. -/
def filledUp (numbers others : List Nat) : List Nat :=
  numbers.rightpad (max numbers.length others.length) 0

theorem filledUp_lt_iff {xs ys : List Nat} :
    filledUp xs ys < filledUp ys xs ↔ padded 0 xs < padded 0 ys := by
  unfold filledUp
  rw [Nat.max_comm ys.length]
  exact rightpad_lt_iff 0 (Nat.le_max_left ..) (Nat.le_max_right ..)

theorem filledUp_eq_iff {xs ys : List Nat} :
    filledUp xs ys = filledUp ys xs ↔ padded 0 xs = padded 0 ys := by
  unfold filledUp
  rw [Nat.max_comm ys.length]
  exact rightpad_eq_iff 0 (Nat.le_max_left ..) (Nat.le_max_right ..)

/-! ## The loop -/

theorem findSome_range {f : Nat → Option Int} {n i : Nat} {r : Int} (hi : i < n)
    (hbefore : ∀ j, j < i → f j = none) (hround : f i = some r) :
    (List.range n).findSome? f = some r := by
  induction n with
  | zero => omega
  | succ n ih =>
      rw [List.range_succ, List.findSome?_append]
      by_cases hn : i < n
      · rw [ih hn]
        rfl
      · have hin : i = n := by omega
        subst hin
        have hnone : (List.range i).findSome? f = none := by
          rw [List.findSome?_eq_none_iff]
          intro j hj
          exact hbefore j (List.mem_range.mp hj)
        rw [hnone, List.findSome?_singleton, hround]
        rfl

/-- The first place where the numbers differ decides. -/
theorem compareNumbers_of_ne {a b : List Int} {i : Nat}
    (hbefore : ∀ j, j < i → a.getD j 0 = b.getD j 0) (hne : a.getD i 0 ≠ b.getD i 0) :
    compareNumbers a b = if a.getD i 0 < b.getD i 0 then 1 else -1 := by
  unfold compareNumbers
  have hfind := findSome_range (f := fun i =>
      if a.getD i 0 < b.getD i 0 then some (1 : Int)
      else if a.getD i 0 > b.getD i 0 then some (-1) else none)
    (r := if a.getD i 0 < b.getD i 0 then 1 else -1) (lt_max_of_getD_ne 0 hne) ?_ ?_
  · rw [hfind]
    rfl
  · intro j hj
    rw [hbefore j hj, if_neg (lt_irrefl _), if_neg (lt_irrefl _)]
  · by_cases hlt : a.getD i 0 < b.getD i 0
    · rw [if_pos hlt, if_pos hlt]
    · rw [if_neg hlt, if_pos (by omega), if_neg hlt]

theorem compareNumbers_of_lt {a b : List Int} (h : padded 0 a < padded 0 b) :
    compareNumbers a b = 1 := by
  obtain ⟨i, hbefore, hlt⟩ := (padded_lt_iff 0).mp h
  rw [compareNumbers_of_ne hbefore hlt.ne, if_pos hlt]

theorem compareNumbers_of_gt {a b : List Int} (h : padded 0 b < padded 0 a) :
    compareNumbers a b = -1 := by
  obtain ⟨i, hbefore, hlt⟩ := (padded_lt_iff 0).mp h
  rw [compareNumbers_of_ne (fun j hj => (hbefore j hj).symm) hlt.ne', if_neg hlt.le.not_gt]

/-! ## Versions -/

theorem padded_map_ofNat_eq {xs ys : List Nat} :
    padded 0 (xs.map Int.ofNat) = padded 0 (ys.map Int.ofNat) ↔ padded 0 xs = padded 0 ys := by
  rw [padded_eq_iff, padded_eq_iff]
  simp only [getD_map_ofNat, Int.natCast_inj]

theorem padded_map_ofNat_lt {xs ys : List Nat} :
    padded 0 (xs.map Int.ofNat) < padded 0 (ys.map Int.ofNat) ↔ padded 0 xs < padded 0 ys := by
  rw [padded_lt_iff, padded_lt_iff]
  simp only [getD_map_ofNat, Int.natCast_inj, Int.ofNat_lt]

theorem compareVersion_isVersion {a b : Str} {xs ys : List Nat} (ha : IsVersion a xs)
    (hb : IsVersion b ys) :
    compareVersion a b = compareNumbers (xs.map Int.ofNat) (ys.map Int.ofNat) := by
  unfold compareVersion
  rw [versionNumbers_dotted ha.dotted ha.inRange, versionNumbers_dotted hb.dotted hb.inRange]

/-- The three results, by the order of the sequences. -/
theorem compareVersion_cases {a b : Str} {xs ys : List Nat} (ha : IsVersion a xs)
    (hb : IsVersion b ys) :
    (padded 0 xs < padded 0 ys ∧ compareVersion a b = 1) ∨
    (padded 0 xs = padded 0 ys ∧ compareVersion a b = 0) ∨
    (padded 0 ys < padded 0 xs ∧ compareVersion a b = -1) := by
  rw [compareVersion_isVersion ha hb]
  rcases lt_trichotomy (padded 0 xs) (padded 0 ys) with hlt | heq | hgt
  · exact Or.inl ⟨hlt, compareNumbers_of_lt (padded_map_ofNat_lt.mpr hlt)⟩
  · refine Or.inr (Or.inl ⟨heq, ?_⟩)
    rw [compareNumbers_eq_zero_iff]
    exact (padded_eq_iff 0).mp (padded_map_ofNat_eq.mpr heq)
  · exact Or.inr (Or.inr ⟨hgt, compareNumbers_of_gt (padded_map_ofNat_lt.mpr hgt)⟩)

theorem compareVersion_eq_one {a b : Str} {xs ys : List Nat} (ha : IsVersion a xs)
    (hb : IsVersion b ys) : compareVersion a b = 1 ↔ padded 0 xs < padded 0 ys := by
  rcases compareVersion_cases ha hb with ⟨h, hr⟩ | ⟨h, hr⟩ | ⟨h, hr⟩
  · exact iff_of_true hr h
  · exact iff_of_false (by rw [hr]; decide) h.not_lt
  · exact iff_of_false (by rw [hr]; decide) h.not_gt

theorem compareVersion_eq_zero {a b : Str} {xs ys : List Nat} (ha : IsVersion a xs)
    (hb : IsVersion b ys) : compareVersion a b = 0 ↔ padded 0 xs = padded 0 ys := by
  rcases compareVersion_cases ha hb with ⟨h, hr⟩ | ⟨h, hr⟩ | ⟨h, hr⟩
  · exact iff_of_false (by rw [hr]; decide) h.ne
  · exact iff_of_true hr h
  · exact iff_of_false (by rw [hr]; decide) h.ne'

theorem compareVersion_eq_neg_one {a b : Str} {xs ys : List Nat} (ha : IsVersion a xs)
    (hb : IsVersion b ys) : compareVersion a b = -1 ↔ padded 0 ys < padded 0 xs := by
  rcases compareVersion_cases ha hb with ⟨h, hr⟩ | ⟨h, hr⟩ | ⟨h, hr⟩
  · exact iff_of_false (by rw [hr]; decide) h.not_gt
  · exact iff_of_false (by rw [hr]; decide) h.symm.not_lt
  · exact iff_of_true hr h

theorem compareVersion_swap {a b : Str} {xs ys : List Nat} (ha : IsVersion a xs)
    (hb : IsVersion b ys) : compareVersion b a = -compareVersion a b := by
  rcases compareVersion_cases ha hb with ⟨h, hr⟩ | ⟨h, hr⟩ | ⟨h, hr⟩
  · rw [hr, (compareVersion_eq_neg_one hb ha).mpr h]
  · rw [hr, (compareVersion_eq_zero hb ha).mpr h.symm]
    rfl
  · rw [hr, (compareVersion_eq_one hb ha).mpr h]
    rfl

theorem compareVersion_nonneg {a b : Str} {xs ys : List Nat} (ha : IsVersion a xs)
    (hb : IsVersion b ys) : 0 ≤ compareVersion a b ↔ padded 0 xs ≤ padded 0 ys := by
  rcases compareVersion_cases ha hb with ⟨h, hr⟩ | ⟨h, hr⟩ | ⟨h, hr⟩
  · exact iff_of_true (by rw [hr]; decide) h.le
  · exact iff_of_true (by rw [hr]) h.le
  · exact iff_of_false (by rw [hr]; decide) h.not_ge

/-- Only the sequences matter. -/
theorem compareVersion_congr {a a' b : Str} {xs xs' ys : List Nat} (ha : IsVersion a xs)
    (ha' : IsVersion a' xs') (hb : IsVersion b ys) (h : padded 0 xs = padded 0 xs') :
    compareVersion a' b = compareVersion a b := by
  rcases compareVersion_cases ha hb with ⟨hlt, hr⟩ | ⟨heq, hr⟩ | ⟨hgt, hr⟩
  · rw [hr, compareVersion_eq_one ha' hb, ← h]
    exact hlt
  · rw [hr, compareVersion_eq_zero ha' hb, ← h]
    exact heq
  · rw [hr, compareVersion_eq_neg_one ha' hb, ← h]
    exact hgt

/-- **Version comparison is a total preorder.** On versions it can read, `CompareVersion` is the
lexicographic order of the numbers, filled up with zeros to the same length; it changes its sign
when the arguments are swapped, it is transitive, and neither a suffix nor zeros at the end change
anything. -/
theorem compareVersion_preorder {a b c : Str} {xs ys zs : List Nat} (ha : IsVersion a xs)
    (hb : IsVersion b ys) (hc : IsVersion c zs) :
    ((compareVersion a b = 1 ↔ filledUp xs ys < filledUp ys xs) ∧
      (compareVersion a b = 0 ↔ filledUp xs ys = filledUp ys xs) ∧
      (compareVersion a b = -1 ↔ filledUp xs ys > filledUp ys xs) ∧
      (compareVersion a b = 1 ∨ compareVersion a b = 0 ∨ compareVersion a b = -1)) ∧
    compareVersion b a = -compareVersion a b ∧
    (0 ≤ compareVersion a b → 0 ≤ compareVersion b c →
      0 ≤ compareVersion a c ∧
      (compareVersion a b = 1 ∨ compareVersion b c = 1 → compareVersion a c = 1)) ∧
    (∀ suffix, compareVersion (a ++ str "-" ++ suffix) b = compareVersion a b ∧
      compareVersion b (a ++ str "-" ++ suffix) = compareVersion b a) ∧
    (∀ a' k, IsVersion a' (xs ++ List.replicate k 0) →
      compareVersion a' b = compareVersion a b ∧ compareVersion b a' = compareVersion b a) := by
  have hcongr : ∀ a' xs', IsVersion a' xs' → padded 0 xs = padded 0 xs' →
      compareVersion a' b = compareVersion a b ∧ compareVersion b a' = compareVersion b a := by
    intro a' xs' ha' h
    have heq := compareVersion_congr ha ha' hb h
    exact ⟨heq, by rw [compareVersion_swap ha' hb, compareVersion_swap ha hb, heq]⟩
  refine ⟨⟨?_, ?_, ?_, ?_⟩, compareVersion_swap ha hb, ?_, ?_, ?_⟩
  · rw [compareVersion_eq_one ha hb, filledUp_lt_iff]
  · rw [compareVersion_eq_zero ha hb, filledUp_eq_iff]
  · rw [compareVersion_eq_neg_one ha hb, gt_iff_lt, filledUp_lt_iff]
  · rcases compareVersion_cases ha hb with ⟨-, hr⟩ | ⟨-, hr⟩ | ⟨-, hr⟩
    · exact Or.inl hr
    · exact Or.inr (Or.inl hr)
    · exact Or.inr (Or.inr hr)
  · rw [compareVersion_nonneg ha hb, compareVersion_nonneg hb hc, compareVersion_nonneg ha hc,
      compareVersion_eq_one ha hb, compareVersion_eq_one hb hc, compareVersion_eq_one ha hc]
    intro hab hbc
    refine ⟨hab.trans hbc, ?_⟩
    rintro (hlt | hlt)
    · exact hlt.trans_le hbc
    · exact hab.trans_lt hlt
  · intro suffix
    exact hcongr _ xs (ha.withSuffix suffix) rfl
  · intro a' k ha'
    exact hcongr a' _ ha' (padded_append_replicate 0 xs k).symm

namespace Sample

theorem isVersion_digits (digits : List UInt8) (hne : digits ≠ [])
    (hdigits : ∀ c ∈ digits, isDigit c = true) :
    IsVersion ((str ".").intercalate (digits.map fun c => [c]))
      (digits.map fun c => decimalValue [c]) := by
  refine ⟨⟨digits.map fun c => [c], by simpa using hne, ?_, by rw [List.map_map]; rfl,
    Or.inl rfl⟩, ?_⟩
  · intro part hpart
    obtain ⟨c, hc, rfl⟩ := List.mem_map.mp hpart
    refine ⟨List.cons_ne_nil _ _, ?_⟩
    intro e he
    rw [List.mem_singleton.mp he]
    exact hdigits c hc
  · intro n hn
    obtain ⟨c, -, rfl⟩ := List.mem_map.mp hn
    have hlt := c.toNat_lt
    show 10 * 0 + (c.toNat - 48) ≤ 2147483647
    omega

end Sample

/-- `2.9`, `3.0.1` and `3.1`. -/
theorem compareVersion_preorder_sample :
    compareVersion (str "2.9") (str "3.0.1") = 1 ∧
    compareVersion (str "3.0.1") (str "2.9") = -1 ∧
    compareVersion (str "2.9-beta") (str "3.1") = 1 := by
  have h29 : IsVersion (str "2.9") [2, 9] :=
    Sample.isVersion_digits [50, 57] (by decide) (List.all_eq_true.mp (by decide))
  have h301 : IsVersion (str "3.0.1") [3, 0, 1] :=
    Sample.isVersion_digits [51, 48, 49] (by decide) (List.all_eq_true.mp (by decide))
  have h31 : IsVersion (str "3.1") [3, 1] :=
    Sample.isVersion_digits [51, 49] (by decide) (List.all_eq_true.mp (by decide))
  obtain ⟨⟨hone, -⟩, hswap, -⟩ := compareVersion_preorder h29 h301 h31
  obtain ⟨⟨hone', -⟩, -, -, hsuffix, -⟩ := compareVersion_preorder h29 h31 h301
  have hless : compareVersion (str "2.9") (str "3.0.1") = 1 := hone.mpr (by decide)
  refine ⟨hless, by rw [hswap, hless], ?_⟩
  have hbeta : str "2.9-beta" = str "2.9" ++ str "-" ++ str "beta" := by decide
  rw [hbeta, (hsuffix (str "beta")).1]
  exact hone'.mpr (by decide)

end PcbuDesktop
