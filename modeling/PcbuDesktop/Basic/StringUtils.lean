import Mathlib.Data.List.DropRight
import Mathlib.Data.List.Infix
import PcbuDesktop.Lib.Lines
import PcbuDesktop.Lib.Rewriting
import PcbuDesktop.Basic.Version

set_option autoImplicit false

/-! # Searching and replacing in texts

`std::string::contains` and the functions of `StringUtils` (`utils/StringUtils.cpp`) that edit a
text.
-/

namespace PcbuDesktop

open Rewriting

/-- `str.contains(pattern)`. -/
def contains (s pattern : Str) : Bool := decide (pattern <:+: s)

theorem contains_iff {s pattern : Str} : contains s pattern = true ↔ pattern <:+: s := by
  rw [contains, decide_eq_true_iff]

/-- The byte `'\n'`. -/
def newline : UInt8 := 10

theorem split_newline (s : Str) : split s [newline] = s.splitOn newline := split_singleton s newline

/-- The loop of `StringUtils::Replace` from `startPos` on. Every round leaves fewer bytes after
`startPos`, so that the length of the text is enough fuel. -/
def replaceLoop (pattern by' : Str) : Nat → Str → Nat → Str
  | 0, result, _ => result
  | fuel + 1, result, startPos =>
      match find pattern (result.drop startPos) with
      | none => result
      | some pos =>
          let found := startPos + pos
          -- after an empty replacement the loop steps over one byte
          let toLen := if by' = [] then 1 else by'.length
          replaceLoop pattern by' fuel
            (result.take found ++ by' ++ result.drop (found + pattern.length)) (found + toLen)

/-- `StringUtils::Replace`. -/
def replace (s pattern by' : Str) : Str :=
  if pattern = [] then s else replaceLoop pattern by' s.length s 0

/-- The first occurrence, and what the replacement does from there on. -/
theorem rep_find {pattern : Str} (by' : Str) (hne : pattern ≠ []) (s : Str) :
    match find pattern s with
    | none => rep pattern by' s = s
    | some pos => pos + pattern.length ≤ s.length ∧
        rep pattern by' s = s.take pos ++ by' ++ rep pattern by' (s.drop (pos + pattern.length)) := by
  induction s with
  | nil => simp [find, hne]
  | cons c s ih =>
      rw [find]
      by_cases hpre : pattern <+: c :: s
      · rw [if_pos (List.isPrefixOf_iff_prefix.mpr hpre)]
        obtain ⟨t, ht⟩ := hpre
        dsimp only
        rw [← ht, Nat.zero_add, List.drop_left, rep_match hne, List.length_append]
        exact ⟨Nat.le_add_right _ _, rfl⟩
      · rw [if_neg (fun h => hpre (List.isPrefixOf_iff_prefix.mp h)), rep_cons hpre]
        cases hfind : find pattern s with
        | none =>
            rw [hfind] at ih
            exact congrArg (c :: ·) ih
        | some pos =>
            rw [hfind] at ih
            obtain ⟨hle, hrep⟩ := ih
            show pos + 1 + pattern.length ≤ s.length + 1 ∧ _
            refine ⟨by omega, ?_⟩
            have hdrop : (c :: s).drop (pos + 1 + pattern.length) = s.drop (pos + pattern.length) := by
              rw [show pos + 1 + pattern.length = (pos + pattern.length) + 1 by omega,
                List.drop_succ_cons]
            rw [hdrop, hrep]
            rfl

/-- The loop leaves what stands before `startPos`, and replaces every occurrence behind it. -/
theorem replaceLoop_eq {pattern by' : Str} (hne : pattern ≠ []) (hby : by' ≠ []) {fuel : Nat}
    {s : Str} (hfuel : s.length ≤ fuel) (done : Str) :
    replaceLoop pattern by' fuel (done ++ s) done.length = done ++ rep pattern by' s := by
  induction fuel generalizing s done with
  | zero =>
      have hnil : s = [] := List.length_eq_zero_iff.mp (by omega)
      rw [hnil]
      rfl
  | succ fuel ih =>
      have hfind := rep_find by' hne s
      unfold replaceLoop
      rw [List.drop_left]
      cases hpos : find pattern s with
      | none =>
          rw [hpos] at hfind
          dsimp only at hfind ⊢
          rw [hfind]
      | some pos =>
          rw [hpos] at hfind
          obtain ⟨hle, hrep⟩ := hfind
          have hpos' := List.length_pos_of_ne_nil hne
          have htake : (done ++ s).take (done.length + pos) = done ++ s.take pos :=
            List.take_length_add_append ..
          have hdrop : (done ++ s).drop (done.length + pos + pattern.length) =
              s.drop (pos + pattern.length) := by
            rw [Nat.add_assoc, List.drop_length_add_append]
          have hlen : done.length + pos + by'.length = (done ++ s.take pos ++ by').length := by
            rw [List.length_append, List.length_append, List.length_take]
            omega
          dsimp only
          rw [if_neg hby, htake, hdrop, hlen, ih (by rw [List.length_drop]; omega), hrep]
          simp only [List.append_assoc]

theorem replace_eq_rep {pattern by' : Str} (hne : pattern ≠ []) (hby : by' ≠ []) (s : Str) :
    replace s pattern by' = rep pattern by' s := by
  unfold replace
  rw [if_neg hne]
  exact replaceLoop_eq hne hby (Nat.le_refl _) []

/-- `StringUtils::Trim`. -/
def trim (s : Str) : Str := (s.rdropWhile isSpace).dropWhile isSpace

/-- `StringUtils::Truncate`. -/
def truncate (s : Str) (maxLen : Nat) (ellipsis : Str) : Str :=
  if s.length > maxLen then
    if maxLen > ellipsis.length then s.take (maxLen - ellipsis.length) ++ ellipsis else s.take maxLen
  else s

/-- A part without white space survives trimming. -/
theorem infix_trim {s m : Str} (hne : m ≠ []) (hm : ∀ c ∈ m, isSpace c = false) (h : m <:+: s) :
    m <:+: trim s := by
  have hspace {t : Str} (hsub : ∀ c ∈ t, isSpace c = true) {u : Str} (hu : u ≠ [])
      (hum : ∀ c ∈ u, c ∈ m) (hut : ∀ c ∈ u, c ∈ t) : False := by
    obtain ⟨c, hc⟩ := List.exists_mem_of_ne_nil u hu
    have hno := hm c (hum c hc)
    rw [hsub c (hut c hc)] at hno
    cases hno
  have hright : m <:+: s.rdropWhile isSpace := by
    rw [← List.rdropWhile_append_rtakeWhile (p := isSpace) (l := s)] at h
    have htail : ∀ c ∈ s.rtakeWhile isSpace, isSpace c = true := fun c hc =>
      List.mem_rtakeWhile_imp hc
    rcases List.infix_append_iff_ne_nil.mp h with hl | hr | ⟨m₁, m₂, -, hm₂, rfl, -, hprefix⟩
    · exact hl
    · exact (hspace htail hne (fun _ hc => hc) hr.subset).elim
    · exact (hspace htail hm₂ (fun c hc => List.mem_append_right m₁ hc) hprefix.subset).elim
  unfold trim
  rw [← List.takeWhile_append_dropWhile (p := isSpace) (l := s.rdropWhile isSpace)] at hright
  have hfront : ∀ c ∈ (s.rdropWhile isSpace).takeWhile isSpace, isSpace c = true := fun c hc =>
    List.mem_takeWhile_imp hc
  rcases List.infix_append_iff_ne_nil.mp hright with hl | hr | ⟨m₁, m₂, hm₁, -, rfl, hsuffix, -⟩
  · exact (hspace hfront hne (fun _ hc => hc) hl.subset).elim
  · exact hr
  · exact (hspace hfront hm₁ (fun c hc => List.mem_append_left m₂ hc) hsuffix.subset).elim

end PcbuDesktop
