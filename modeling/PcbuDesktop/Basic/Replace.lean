import Mathlib.Algebra.GroupWithZero.Nat
import PcbuDesktop.Basic.StringUtils

set_option autoImplicit false

/-! # Replacing as splitting and joining

`StringUtils::Replace` searches in the text it is changing, and goes on behind the replacement.
Here it is compared with `StringUtils::Split`: the pieces that the loop leaves as they are, joined
with the replacement, are its result (`replaceLoop_eq_intercalate`), so that the question is
whether these are the pieces of `Split`. With a replacement that is not empty they always are. With
an empty one the loop steps over one byte after every removal, and an occurrence that begins with
this byte stays.
-/

namespace PcbuDesktop

open Rewriting

/-! ## The loop, with what it leaves -/

/-- The loop of `StringUtils::Replace` comes to its end within `fuel` rounds. -/
def replaceEnds (pattern by' : Str) : Nat → Str → Nat → Bool
  | 0, result, startPos => (find pattern (result.drop startPos)).isNone
  | fuel + 1, result, startPos =>
      match find pattern (result.drop startPos) with
      | none => true
      | some pos =>
          let found := startPos + pos
          let toLen := if by' = [] then 1 else by'.length
          replaceEnds pattern by' fuel
            (result.take found ++ by' ++ result.drop (found + pattern.length)) (found + toLen)

/-- The loop of `StringUtils::Replace`, with the pieces of the text between the replacements as its
value; `done` is the end of the last replacement. -/
def keptLoop (pattern by' : Str) : Nat → Str → Nat → Nat → List Str
  | 0, result, _, done => [result.drop done]
  | fuel + 1, result, startPos, done =>
      match find pattern (result.drop startPos) with
      | none => [result.drop done]
      | some pos =>
          let found := startPos + pos
          let toLen := if by' = [] then 1 else by'.length
          (result.take found).drop done :: keptLoop pattern by' fuel
            (result.take found ++ by' ++ result.drop (found + pattern.length)) (found + toLen)
            (found + by'.length)

/-- The pieces of the text that `StringUtils::Replace` leaves as they are. -/
def kept (s pattern by' : Str) : List Str := keptLoop pattern by' s.length s 0 0

/-- The occurrences of the pattern found from the left are replaced, all of them and nothing
else, and the loop that does it comes to its end. -/
structure ReplacesAll (s pattern by' : Str) : Prop where
  terminates : replaceEnds pattern by' s.length s 0 = true
  joined : replace s pattern by' = by'.intercalate (split s pattern)
  nothingElse : kept s pattern by' = split s pattern

/-- Of the occurrences found from the left, none stands directly behind another one. -/
def NoneAdjacent (s pattern : Str) : Prop := ∀ piece ∈ (split s pattern).tail.dropLast, piece ≠ []

instance (s pattern : Str) : Decidable (NoneAdjacent s pattern) :=
  inferInstanceAs (Decidable (∀ piece ∈ (split s pattern).tail.dropLast, piece ≠ []))

/-- No end of the pattern is a beginning of it. -/
def BorderFree (pattern : Str) : Prop := Avoids pattern pattern.tail

/-! ## Searching -/

theorem find_eq_some {pattern s : Str} {pos : Nat} (hne : pattern ≠ [])
    (h : find pattern s = some pos) :
    pos + pattern.length ≤ s.length ∧
      s.take pos ++ (pattern ++ s.drop (pos + pattern.length)) = s := by
  induction s generalizing pos with
  | nil => simp [find, hne] at h
  | cons c s ih =>
      rw [find] at h
      by_cases hpre : pattern <+: c :: s
      · rw [if_pos (List.isPrefixOf_iff_prefix.mpr hpre), Option.some.injEq] at h
        obtain ⟨t, ht⟩ := hpre
        rw [← ht, ← h, Nat.zero_add, List.drop_left, List.length_append]
        exact ⟨Nat.le_add_right _ _, rfl⟩
      · rw [if_neg (fun hp => hpre (List.isPrefixOf_iff_prefix.mp hp))] at h
        obtain ⟨n, hn, rfl⟩ := Option.map_eq_some_iff.mp h
        obtain ⟨hle, heq⟩ := ih hn
        have hdrop : (c :: s).drop (n + 1 + pattern.length) = s.drop (n + pattern.length) := by
          rw [show n + 1 + pattern.length = (n + pattern.length) + 1 by omega, List.drop_succ_cons]
        rw [hdrop]
        exact ⟨by simp only [List.length_cons]; omega, congrArg (c :: ·) heq⟩

/-- Where no occurrence begins, the search goes on behind. -/
theorem find_append {pattern w t : Str} (h : ∀ z, z <:+ w → z ≠ [] → ¬ pattern <+: z ++ t) :
    find pattern (w ++ t) = (find pattern t).map (w.length + ·) := by
  induction w with
  | nil => simp
  | cons c w ih =>
      have hpre : ¬ pattern.isPrefixOf (c :: (w ++ t)) = true := fun hp =>
        h _ (List.suffix_refl _) (List.cons_ne_nil c w) (List.isPrefixOf_iff_prefix.mp hp)
      have hrest := ih (fun z hz => h z (hz.trans (List.suffix_cons c w)))
      rw [List.cons_append, find, if_neg hpre, hrest, Option.map_map]
      congr 1
      funext n
      show w.length + n + 1 = w.length + 1 + n
      omega

theorem find_append_of_avoids {pattern w : Str} (h : Avoids pattern w) (t : Str) :
    find pattern (w ++ t) = (find pattern t).map (w.length + ·) := by
  refine find_append ?_
  intro z hz hne hpre
  obtain ⟨hnot, hnot'⟩ := h z ((List.mem_tails z w).mpr hz) hne
  rcases List.prefix_or_prefix_of_prefix hpre (List.prefix_append z t) with hp | hp
  · exact hnot hp
  · exact hnot' hp

theorem find_self_append {pattern : Str} (hne : pattern ≠ []) (t : Str) :
    find pattern (pattern ++ t) = some 0 := by
  obtain ⟨c, rest, rfl⟩ := List.exists_cons_of_ne_nil hne
  have hpre : (c :: rest).isPrefixOf (c :: (rest ++ t)) = true :=
    List.isPrefixOf_iff_prefix.mpr (List.prefix_append (c :: rest) t)
  rw [List.cons_append, find, if_pos hpre]

/-! ## The pieces, without what has been done -/

/-- The pieces the loop leaves of a text when the search begins `skip` bytes behind its beginning,
and `step` bytes behind every replacement. With `step = 0` this is the loop of `Split`. -/
def pieces (pattern : Str) (step : Nat) : Nat → Nat → Str → List Str
  | 0, _, s => [s]
  | fuel + 1, skip, s =>
      match find pattern (s.drop skip) with
      | none => [s]
      | some pos =>
          s.take (skip + pos) ::
            pieces pattern step fuel step (s.drop (skip + pos + pattern.length))

/-- After an empty replacement the search begins one byte later. -/
def stepAfter (by' : Str) : Nat := if by' = [] then 1 else 0

theorem toLen_eq (by' : Str) :
    (if by' = [] then 1 else by'.length) = by'.length + stepAfter by' := by
  unfold stepAfter
  by_cases h : by' = []
  · rw [if_pos h, if_pos h, h]
    rfl
  · rw [if_neg h, if_neg h, Nat.add_zero]

theorem pieces_zero (pattern : Str) (fuel : Nat) (s : Str) :
    pieces pattern 0 fuel 0 s = splitLoop pattern fuel s := by
  induction fuel generalizing s with
  | zero => rfl
  | succ fuel ih =>
      rw [pieces, splitLoop, List.drop_zero]
      cases find pattern s with
      | none => rfl
      | some pos =>
          dsimp only
          rw [Nat.zero_add, ih]

theorem pieces_ne_nil (pattern : Str) (step fuel skip : Nat) (s : Str) :
    pieces pattern step fuel skip s ≠ [] := by
  cases fuel with
  | zero => exact List.cons_ne_nil _ _
  | succ fuel =>
      rw [pieces]
      cases find pattern (s.drop skip) with
      | none => exact List.cons_ne_nil _ _
      | some pos => exact List.cons_ne_nil _ _

theorem splitLoop_ne_nil (pattern : Str) (fuel : Nat) (s : Str) :
    splitLoop pattern fuel s ≠ [] := by
  rw [← pieces_zero]
  exact pieces_ne_nil _ _ _ _ _

/-- One round, with what has been done standing in front of the rest. -/
theorem round_eq {pattern s : Str} {skip pos : Nat} (by' done : Str) (hne : pattern ≠ [])
    (hpos : find pattern (s.drop skip) = some pos) :
    (done ++ s).take (done.length + skip + pos) = done ++ s.take (skip + pos) ∧
    (done ++ s).drop (done.length + skip + pos + pattern.length) =
      s.drop (skip + pos + pattern.length) ∧
    done.length + skip + pos + by'.length = (done ++ s.take (skip + pos) ++ by').length := by
  have hle := (find_eq_some hne hpos).1
  have hlen := List.length_pos_of_ne_nil hne
  rw [List.length_drop] at hle
  refine ⟨?_, ?_, ?_⟩
  · rw [Nat.add_assoc, List.take_length_add_append]
  · rw [Nat.add_assoc, Nat.add_assoc, List.drop_length_add_append, Nat.add_assoc]
  · rw [List.length_append, List.length_append, List.length_take]
    omega

theorem keptLoop_eq {pattern by' : Str} (hne : pattern ≠ []) (fuel skip : Nat) (done s : Str) :
    keptLoop pattern by' fuel (done ++ s) (done.length + skip) done.length =
      pieces pattern (stepAfter by') fuel skip s := by
  induction fuel generalizing skip done s with
  | zero =>
      rw [keptLoop, pieces, List.drop_left]
  | succ fuel ih =>
      rw [keptLoop, pieces, List.drop_length_add_append]
      cases hpos : find pattern (s.drop skip) with
      | none =>
          dsimp only
          rw [List.drop_left]
      | some pos =>
          obtain ⟨htake, hdrop, hlen⟩ := round_eq by' done hne hpos
          dsimp only
          rw [toLen_eq, htake, hdrop, ← Nat.add_assoc, hlen, ih, List.drop_left]

/-- The result is what was done, and the pieces that are left joined with the replacement. -/
theorem replaceLoop_eq_intercalate {pattern by' : Str} (hne : pattern ≠ []) (fuel skip : Nat)
    (done s : Str) :
    replaceLoop pattern by' fuel (done ++ s) (done.length + skip) =
      done ++ by'.intercalate (pieces pattern (stepAfter by') fuel skip s) := by
  induction fuel generalizing skip done s with
  | zero =>
      rw [replaceLoop, pieces, List.intercalate_singleton]
  | succ fuel ih =>
      rw [replaceLoop, pieces, List.drop_length_add_append]
      cases hpos : find pattern (s.drop skip) with
      | none =>
          dsimp only
          rw [List.intercalate_singleton]
      | some pos =>
          obtain ⟨htake, hdrop, hlen⟩ := round_eq by' done hne hpos
          dsimp only
          rw [toLen_eq, htake, hdrop, ← Nat.add_assoc, hlen, ih,
            List.intercalate_cons_of_ne_nil (pieces_ne_nil _ _ _ _ _)]
          simp only [List.append_assoc]

theorem replaceEnds_eq_true {pattern by' : Str} (hne : pattern ≠ []) {fuel : Nat} (skip : Nat)
    (done : Str) {s : Str} (hfuel : s.length ≤ fuel) :
    replaceEnds pattern by' fuel (done ++ s) (done.length + skip) = true := by
  induction fuel generalizing skip done s with
  | zero =>
      have hnil : s = [] := List.length_eq_zero_iff.mp (by omega)
      rw [replaceEnds, List.drop_length_add_append, hnil, List.drop_nil, find, if_neg hne]
      rfl
  | succ fuel ih =>
      rw [replaceEnds, List.drop_length_add_append]
      cases hpos : find pattern (s.drop skip) with
      | none => rfl
      | some pos =>
          obtain ⟨htake, hdrop, hlen⟩ := round_eq by' done hne hpos
          have hpattern := List.length_pos_of_ne_nil hne
          dsimp only
          rw [toLen_eq, htake, hdrop, ← Nat.add_assoc, hlen]
          exact ih _ _ (by rw [List.length_drop]; omega)

theorem kept_eq {s pattern : Str} (by' : Str) (hne : pattern ≠ []) :
    kept s pattern by' = pieces pattern (stepAfter by') s.length 0 s :=
  keptLoop_eq hne s.length 0 [] s

/-- The result of `Replace`, from what it leaves. -/
theorem replace_eq_intercalate {s pattern : Str} (by' : Str) (hne : pattern ≠ []) :
    replace s pattern by' = by'.intercalate (kept s pattern by') := by
  unfold replace
  rw [if_neg hne, kept_eq by' hne]
  exact replaceLoop_eq_intercalate hne s.length 0 [] s

/-! ## Adjacent occurrences -/

theorem stepAfter_of_ne_nil {by' : Str} (h : by' ≠ []) : stepAfter by' = 0 := if_neg h

theorem kept_of_ne_nil {s pattern by' : Str} (hne : pattern ≠ []) (hby : by' ≠ []) :
    kept s pattern by' = split s pattern := by
  rw [kept_eq by' hne, stepAfter_of_ne_nil hby]
  exact pieces_zero ..

/-- Where the first byte is stepped over, the pieces are those of `Split` as long as no occurrence
begins with such a byte, that is, no piece in front of an occurrence is empty. -/
theorem pieces_one_iff {pattern : Str} (hne : pattern ≠ []) (fuel : Nat) (s : Str) :
    pieces pattern 1 fuel 1 s = splitLoop pattern fuel s ↔
      ∀ piece ∈ (splitLoop pattern fuel s).dropLast, piece ≠ [] := by
  induction fuel generalizing s with
  | zero => simp [pieces, splitLoop]
  | succ fuel ih =>
      rw [pieces, splitLoop]
      cases s with
      | nil => simp [find, hne]
      | cons c s =>
          rw [List.drop_succ_cons, List.drop_zero, find]
          by_cases hpre : pattern.isPrefixOf (c :: s) = true
          · -- the occurrence at the front is missed, and the first piece is not empty
            rw [if_pos hpre]
            refine iff_of_false ?_ ?_
            · cases find pattern s with
              | none => simp
              | some pos => simp [Nat.add_comm 1 pos]
            · intro h
              refine h [] ?_ rfl
              dsimp only
              rw [List.dropLast_cons_of_ne_nil (splitLoop_ne_nil _ _ _)]
              exact List.mem_cons_self
          · rw [if_neg hpre]
            cases find pattern s with
            | none => simp
            | some pos =>
                dsimp only [Option.map_some]
                rw [Nat.add_comm 1 pos, List.dropLast_cons_of_ne_nil (splitLoop_ne_nil _ _ _),
                  List.cons_inj_right, ih, List.forall_mem_cons]
                simp

theorem pieces_skip_iff {pattern : Str} (hne : pattern ≠ []) (fuel : Nat) (s : Str) :
    pieces pattern 1 fuel 0 s = splitLoop pattern fuel s ↔
      ∀ piece ∈ (splitLoop pattern fuel s).tail.dropLast, piece ≠ [] := by
  cases fuel with
  | zero => simp [pieces, splitLoop]
  | succ fuel =>
      rw [pieces, splitLoop, List.drop_zero]
      cases find pattern s with
      | none => simp
      | some pos =>
          dsimp only
          rw [Nat.zero_add, List.cons_inj_right, pieces_one_iff hne, List.tail_cons]

theorem kept_eq_split_iff {s pattern by' : Str} (hne : pattern ≠ []) :
    kept s pattern by' = split s pattern ↔ by' ≠ [] ∨ NoneAdjacent s pattern := by
  by_cases hby : by' = []
  · rw [kept_eq by' hne, stepAfter, if_pos hby]
    refine (pieces_skip_iff hne s.length s).trans ?_
    exact ⟨Or.inr, fun h => h.resolve_left (not_not_intro hby)⟩
  · exact iff_of_true (kept_of_ne_nil hne hby) (Or.inl hby)

/-! ## Patterns without a border -/

/-- The pieces and the pattern between them are the text. -/
theorem intercalate_pieces {pattern : Str} (hne : pattern ≠ []) (step fuel skip : Nat) (s : Str) :
    pattern.intercalate (pieces pattern step fuel skip s) = s := by
  induction fuel generalizing skip s with
  | zero => rw [pieces, List.intercalate_singleton]
  | succ fuel ih =>
      rw [pieces]
      cases hpos : find pattern (s.drop skip) with
      | none => exact List.intercalate_singleton
      | some pos =>
          have heq := (find_eq_some hne hpos).2
          dsimp only
          rw [List.intercalate_cons_of_ne_nil (pieces_ne_nil _ _ _ _ _), ih, List.take_add,
            Nat.add_assoc, ← List.drop_drop, List.append_assoc, List.append_assoc, heq,
            List.take_append_drop]

theorem length_intercalate (sep : Str) (ps : List Str) :
    (sep.intercalate ps).length = (ps.map List.length).sum + sep.length * (ps.length - 1) := by
  induction ps with
  | nil => rfl
  | cons p ps ih =>
      by_cases hnil : ps = []
      · simp [hnil]
      · have hpos := List.length_pos_of_ne_nil hnil
        obtain ⟨n, hn⟩ : ∃ n, ps.length = n + 1 := ⟨ps.length - 1, by omega⟩
        rw [List.intercalate_cons_of_ne_nil hnil, List.length_append, List.length_append, ih,
          List.map_cons, List.sum_cons, List.length_cons, hn, Nat.add_sub_cancel,
          Nat.add_sub_cancel, Nat.mul_add]
        omega

/-! ### `Split` by its first piece -/

theorem splitLoop_eq_split {pattern : Str} (hne : pattern ≠ []) {fuel : Nat} {s : Str}
    (hfuel : s.length ≤ fuel) : splitLoop pattern fuel s = split s pattern := by
  have hmore : ∀ (fuel more : Nat) (s : Str), s.length ≤ fuel →
      splitLoop pattern (fuel + more) s = splitLoop pattern fuel s := by
    intro fuel more
    induction fuel with
    | zero =>
        intro s hs
        have hnil : s = [] := List.length_eq_zero_iff.mp (by omega)
        subst hnil
        cases more with
        | zero => rfl
        | succ more => simp [splitLoop, find, hne]
    | succ fuel ih =>
        intro s hs
        rw [show fuel + 1 + more = (fuel + more) + 1 by omega, splitLoop, splitLoop]
        cases hpos : find pattern s with
        | none => rfl
        | some pos =>
            have hle := (find_eq_some hne hpos).1
            have hpattern := List.length_pos_of_ne_nil hne
            dsimp only
            rw [ih _ (by rw [List.length_drop]; omega)]
  obtain ⟨more, rfl⟩ := Nat.exists_eq_add_of_le hfuel
  exact hmore s.length more s (Nat.le_refl _)

theorem split_of_find_none {s pattern : Str} (h : find pattern s = none) :
    split s pattern = [s] := by
  unfold split
  cases s with
  | nil => rfl
  | cons c s =>
      rw [List.length_cons, splitLoop, h]

theorem split_of_find_some {s pattern : Str} {pos : Nat} (hne : pattern ≠ [])
    (h : find pattern s = some pos) :
    split s pattern = s.take pos :: split (s.drop (pos + pattern.length)) pattern := by
  have hle := (find_eq_some hne h).1
  have hpattern := List.length_pos_of_ne_nil hne
  obtain ⟨n, hn⟩ : ∃ n, s.length = n + 1 := ⟨s.length - 1, by omega⟩
  have hrest : (s.drop (pos + pattern.length)).length ≤ n := by
    rw [List.length_drop]
    omega
  rw [split, hn, splitLoop, h]
  dsimp only
  rw [splitLoop_eq_split hne hrest]

/-! ### Counting the pieces -/

/-- When no occurrence begins inside another one, one that is missed makes the pieces fewer. -/
theorem length_pieces {pattern : Str} (hne : pattern ≠ []) (hborder : BorderFree pattern)
    {fuel : Nat} {s : Str} (hfuel : s.length ≤ fuel) :
    (pieces pattern 1 fuel 1 s).length ≤ (split s pattern).length ∧
      ((∃ piece ∈ (split s pattern).dropLast, piece = []) →
        (pieces pattern 1 fuel 1 s).length < (split s pattern).length) := by
  have hpattern := List.length_pos_of_ne_nil hne
  induction fuel generalizing s with
  | zero =>
      have hnil : s = [] := List.length_eq_zero_iff.mp (by omega)
      simp [hnil, pieces, split, splitLoop]
  | succ fuel ih =>
      rw [pieces]
      cases s with
      | nil => simp [find, hne, split, splitLoop]
      | cons c s =>
          rw [List.drop_succ_cons, List.drop_zero]
          by_cases hpre : pattern <+: c :: s
          · -- `Split` finds the occurrence at the front, and then the next one; the loop only that
            suffices hlt : (match find pattern s with
                | none => [c :: s]
                | some pos => (c :: s).take (1 + pos) :: pieces pattern 1 fuel 1
                    ((c :: s).drop (1 + pos + pattern.length))).length <
                  (split (c :: s) pattern).length from ⟨hlt.le, fun _ => hlt⟩
            obtain ⟨t, ht⟩ := hpre
            have hfront : find pattern (c :: s) = some 0 := by
              rw [find, if_pos (List.isPrefixOf_iff_prefix.mpr ⟨t, ht⟩)]
            have hs : s = pattern.tail ++ t := by
              rw [← List.tail_append_of_ne_nil hne, ht, List.tail_cons]
            rw [split_of_find_some hne hfront, Nat.zero_add, ← ht, List.drop_left, ht,
              List.length_cons, hs, find_append_of_avoids hborder, ← hs]
            cases hpos : find pattern t with
            | none =>
                rw [split_of_find_none hpos]
                exact Nat.lt_succ_self 1
            | some pos =>
                have hrest : (c :: s).drop (1 + (pattern.tail.length + pos) + pattern.length) =
                    t.drop (pos + pattern.length) := by
                  rw [← ht, List.length_tail,
                    show 1 + (pattern.length - 1 + pos) + pattern.length =
                      pattern.length + (pos + pattern.length) by omega,
                    List.drop_length_add_append]
                have hlen := congrArg List.length ht
                rw [List.length_append] at hlen
                rw [split_of_find_some hne hpos, Option.map_some]
                dsimp only
                rw [hrest, List.length_cons, List.length_cons]
                have hle := (ih (s := t.drop (pos + pattern.length))
                  (by rw [List.length_drop]; omega)).1
                omega
          · have hfind : find pattern (c :: s) = (find pattern s).map (· + 1) := by
              rw [find, if_neg (fun hp => hpre (List.isPrefixOf_iff_prefix.mp hp))]
            cases hpos : find pattern s with
            | none =>
                rw [hpos] at hfind
                rw [split_of_find_none hfind]
                simp
            | some pos =>
                rw [hpos, Option.map_some] at hfind
                rw [split_of_find_some hne hfind]
                dsimp only
                rw [Nat.add_comm 1 pos, List.dropLast_cons_of_ne_nil (split_ne_nil _ _), List.length_cons,
                  List.length_cons]
                obtain ⟨hle, hlt⟩ := ih (s := (c :: s).drop (pos + 1 + pattern.length))
                  (by rw [List.length_drop]; omega)
                refine ⟨by omega, ?_⟩
                rintro ⟨piece, hpiece, hempty⟩
                rcases List.mem_cons.mp hpiece with rfl | hpiece
                · cases hempty
                · have := hlt ⟨piece, hpiece, hempty⟩
                  omega

theorem length_kept_lt {s pattern : Str} (hne : pattern ≠ []) (hborder : BorderFree pattern)
    (h : ¬ NoneAdjacent s pattern) : (kept s pattern []).length < (split s pattern).length := by
  rw [kept_eq [] hne, stepAfter, if_pos rfl]
  cases hpos : find pattern s with
  | none =>
      refine absurd ?_ h
      intro piece hpiece
      rw [split_of_find_none hpos] at hpiece
      cases hpiece
  | some pos =>
      have hle := (find_eq_some hne hpos).1
      have hpattern := List.length_pos_of_ne_nil hne
      obtain ⟨n, hn⟩ : ∃ n, s.length = n + 1 := ⟨s.length - 1, by omega⟩
      unfold NoneAdjacent at h
      rw [hn, pieces, List.drop_zero, hpos]
      rw [split_of_find_some hne hpos] at h ⊢
      dsimp only
      rw [Nat.zero_add, List.length_cons, List.length_cons]
      refine Nat.succ_lt_succ ((length_pieces hne hborder ?_).2 ?_)
      · rw [List.length_drop]
        omega
      · by_contra hnone
        exact h (fun piece hpiece hempty => hnone ⟨piece, hpiece, hempty⟩)

/-- For a pattern without a border the result alone tells whether an occurrence was missed. -/
theorem joined_iff_of_borderFree {s pattern by' : Str} (hne : pattern ≠ [])
    (hborder : BorderFree pattern) :
    replace s pattern by' = by'.intercalate (split s pattern) ↔
      by' ≠ [] ∨ NoneAdjacent s pattern := by
  constructor
  · intro hjoined
    by_cases hby : by' = []
    · right
      by_contra hadjacent
      subst hby
      have hfewer := length_kept_lt hne hborder hadjacent
      -- the text has the same length, counted with either list of pieces
      have hkept := intercalate_pieces hne (stepAfter []) s.length 0 s
      have hsplit : pattern.intercalate (split s pattern) = s := by
        rw [split, ← pieces_zero]
        exact intercalate_pieces hne 0 s.length 0 s
      rw [← kept_eq [] hne] at hkept
      have hlen := congrArg List.length (hkept.trans hsplit.symm)
      have hsum := congrArg List.length ((replace_eq_intercalate [] hne).symm.trans hjoined)
      rw [length_intercalate, length_intercalate, List.length_nil, Nat.zero_mul, Nat.zero_mul,
        Nat.add_zero, Nat.add_zero] at hsum
      rw [length_intercalate, length_intercalate, hsum, Nat.add_left_cancel_iff] at hlen
      have heq := Nat.eq_of_mul_eq_mul_left (List.length_pos_of_ne_nil hne) hlen
      have hpos : (kept s pattern []).length ≠ 0 := by
        rw [kept_eq [] hne]
        exact fun h0 => pieces_ne_nil _ _ _ _ _ (List.length_eq_zero_iff.mp h0)
      omega
    · exact Or.inl hby
  · intro h
    rw [replace_eq_intercalate by' hne, (kept_eq_split_iff hne).mpr h]

/-- **Where `Replace` is split-and-join.** The loop always ends. It replaces the occurrences that
`Split` finds, all of them and nothing else, exactly when the replacement is not empty or none of
these occurrences stands directly behind another one; then the result is the pieces of `Split`,
joined. For a pattern without a border the result is that in no other case. -/
theorem replacesAll_iff (s pattern by' : Str) (hne : pattern ≠ []) :
    (ReplacesAll s pattern by' ↔ by' ≠ [] ∨ NoneAdjacent s pattern) ∧
    replaceEnds pattern by' s.length s 0 = true ∧
    (BorderFree pattern →
      (replace s pattern by' = by'.intercalate (split s pattern) ↔
        by' ≠ [] ∨ NoneAdjacent s pattern)) := by
  have hends : replaceEnds pattern by' s.length s 0 = true :=
    replaceEnds_eq_true hne 0 [] (Nat.le_refl _)
  refine ⟨⟨?_, ?_⟩, hends, joined_iff_of_borderFree hne⟩
  · intro h
    exact (kept_eq_split_iff hne).mp h.nothingElse
  · intro h
    have hkept := (kept_eq_split_iff hne).mpr h
    exact ⟨hends, by rw [replace_eq_intercalate by' hne, hkept], hkept⟩

/-- Replacing `/` by `, ` in `a//b`, and removing `-` from `a-b-c`. -/
theorem replacesAll_iff_sample :
    ReplacesAll (str "a//b") (str "/") (str ", ") ∧ ReplacesAll (str "a-b-c") (str "-") [] := by
  have hslash := (replacesAll_iff (str "a//b") (str "/") (str ", ") (by decide)).1
  have hdash := (replacesAll_iff (str "a-b-c") (str "-") [] (by decide)).1
  exact ⟨hslash.mpr (by decide), hdash.mpr (by decide)⟩

/-- Of two `a`s, the second one stays when they are to be removed. -/
theorem replace_adjacent_removed :
    replace (str "aa") (str "a") [] = str "a" ∧
    ([] : Str).intercalate (split (str "aa") (str "a")) = [] ∧
    ¬ ∀ s pattern by' : Str, pattern ≠ [] →
      replaceEnds pattern by' s.length s 0 = true ∧
        replace s pattern by' = by'.intercalate (split s pattern) := by
  have hcode : replace (str "aa") (str "a") [] = str "a" := by decide
  have hjoin : ([] : Str).intercalate (split (str "aa") (str "a")) = [] := by decide
  refine ⟨hcode, hjoin, ?_⟩
  intro h
  have heq := (h (str "aa") (str "a") [] (by decide)).2
  rw [hcode, hjoin] at heq
  exact absurd heq (by decide)

end PcbuDesktop
