import Mathlib.Data.List.Basic
import Mathlib.Data.List.DropRight
import Mathlib.Data.List.Infix

set_option autoImplicit false

/-! # Text as lines

A text over any alphabet, with a symbol `c` that ends a line. Its lines are `s.splitOn c`;
`unlines` writes lines back with their ends. A program that edits lines usually does not keep the
empty lines at the end of a text, so two texts are compared by the `body` of their lines.
-/

namespace Lines

variable {α : Type}

/-! ## Contiguous parts -/

theorem infix_of_infix_concat {xs ys : List α} {a : α} (h : xs <:+: ys ++ [a])
    (hlast : xs.getLast? ≠ some a) : xs <:+: ys := by
  rcases List.infix_concat_iff.mp h with hsuffix | hinfix
  · -- a suffix is empty, or ends in `a`
    by_cases hnil : xs = []
    · subst hnil
      exact List.nil_infix
    · obtain ⟨t, ht⟩ := hsuffix
      have hsame : (t ++ xs).getLast? = some a := by rw [ht, List.getLast?_concat]
      rw [List.getLast?_append_of_ne_nil t hnil] at hsame
      exact absurd hsame hlast
  · exact hinfix

theorem infix_of_infix_append_replicate {xs ys : List α} {a : α} (k : Nat)
    (h : xs <:+: ys ++ List.replicate k a) (hlast : xs.getLast? ≠ some a) : xs <:+: ys := by
  induction k with
  | zero => simpa using h
  | succ k ih =>
      rw [List.replicate_succ', ← List.append_assoc] at h
      exact ih (infix_of_infix_concat h hlast)

/-! ## The body of a list of lines -/

/-- The lines up to the last one that is not empty. -/
def body (ls : List (List α)) : List (List α) := ls.rdropWhile List.isEmpty

theorem body_append_replicate (ls : List (List α)) (k : Nat) :
    body (ls ++ List.replicate k []) = body ls := by
  induction k with
  | zero => simp
  | succ k ih =>
      rw [List.replicate_succ', ← List.append_assoc]
      unfold body
      rw [List.rdropWhile_concat_pos _ _ _ rfl]
      exact ih

theorem eq_body_append (ls : List (List α)) : ∃ k, ls = body ls ++ List.replicate k [] := by
  refine ⟨(ls.rtakeWhile List.isEmpty).length, ?_⟩
  have hempty : ls.rtakeWhile List.isEmpty =
      List.replicate (ls.rtakeWhile List.isEmpty).length [] := by
    rw [List.eq_replicate_iff]
    refine ⟨rfl, ?_⟩
    intro l hl
    exact List.isEmpty_iff.mp (List.mem_rtakeWhile_imp hl)
  rw [← hempty]
  exact List.rdropWhile_append_rtakeWhile.symm

theorem mem_of_mem_body {ls : List (List α)} {l : List α} (h : l ∈ body ls) : l ∈ ls :=
  (List.rdropWhile_prefix _ ls).subset h

theorem mem_body {ls : List (List α)} {l : List α} (h : l ∈ ls) (hne : l ≠ []) : l ∈ body ls := by
  obtain ⟨k, hk⟩ := eq_body_append ls
  rw [hk, List.mem_append] at h
  rcases h with h | h
  · exact h
  · exact absurd (List.eq_of_mem_replicate h) hne

theorem body_cons {l : List α} (hne : l ≠ []) (ls : List (List α)) :
    body (l :: ls) = l :: body ls := by
  obtain ⟨k, hk⟩ := eq_body_append ls
  have hself : body (l :: body ls) = l :: body ls := by
    unfold body
    rw [List.rdropWhile_eq_self_iff]
    intro _
    by_cases hnil : ls.rdropWhile List.isEmpty = []
    · simpa [hnil] using hne
    · rw [List.getLast_cons hnil]
      exact List.rdropWhile_last_not _ _ hnil
  rw [← hself]
  conv_lhs => rw [hk, ← List.cons_append, body_append_replicate]

/-- Lines that end in one that is not empty stand in the body. -/
theorem infix_body {es ls : List (List α)} (h : es <:+: ls) (hlast : es.getLast? ≠ some []) :
    es <:+: body ls := by
  obtain ⟨k, hk⟩ := eq_body_append ls
  rw [hk] at h
  exact infix_of_infix_append_replicate k h hlast

theorem infix_of_infix_body {es ls : List (List α)} (h : es <:+: body ls) : es <:+: ls :=
  h.trans (List.rdropWhile_prefix _ ls).isInfix

/-- Dropping lines that are not empty respects the body. -/
theorem body_filter_body {p : List α → Bool} (hp : p [] = true) (ls : List (List α)) :
    body ((body ls).filter p) = body (ls.filter p) := by
  obtain ⟨k, hk⟩ := eq_body_append ls
  have hkeep : (List.replicate k ([] : List α)).filter p = List.replicate k [] := by
    rw [List.filter_replicate, if_pos hp]
  conv_rhs => rw [hk, List.filter_append, hkeep, body_append_replicate]

/-! ## Lines and text -/

/-- The lines, each with its end. -/
def unlines (c : α) (ls : List (List α)) : List α := ls.flatMap (fun l => l ++ [c])

section

variable {c : α}

theorem unlines_append (ls ms : List (List α)) :
    unlines c (ls ++ ms) = unlines c ls ++ unlines c ms := by
  unfold unlines
  exact List.flatMap_append

theorem intercalate_cons (l : List α) (ls : List (List α)) :
    [c].intercalate (l :: ls) = l ++ ls.flatMap (fun m => c :: m) := by
  induction ls generalizing l with
  | nil => simp
  | cons m ls ih =>
      rw [List.intercalate_cons_of_ne_nil (List.cons_ne_nil m ls), ih, List.flatMap_cons]
      simp

theorem unlines_eq_intercalate {ls : List (List α)} (h : ls ≠ []) :
    unlines c ls = [c].intercalate ls ++ [c] := by
  induction ls with
  | nil => exact absurd rfl h
  | cons l ls ih =>
      by_cases hls : ls = []
      · subst hls
        simp [unlines]
      · rw [List.intercalate_cons_of_ne_nil hls]
        show l ++ [c] ++ unlines c ls = _
        rw [ih hls]
        simp

/-- Text without a line end stands in one line. -/
theorem infix_unlines {m : List α} {ls : List (List α)} (hne : m ≠ []) (hc : c ∉ m)
    (h : m <:+: unlines c ls) : ∃ l ∈ ls, m <:+: l := by
  induction ls with
  | nil => exact absurd (List.infix_nil.mp h) hne
  | cons l ls ih =>
      have hline : m <:+: l ++ [c] → m <:+: l := by
        intro hm
        refine infix_of_infix_concat hm ?_
        intro hlast
        exact hc (List.mem_of_getLast? hlast)
      rcases List.infix_append_iff_ne_nil.mp (show m <:+: (l ++ [c]) ++ unlines c ls from h) with
        hl | hls | ⟨m₁, m₂, hm₁, -, rfl, hsuffix, -⟩
      · exact ⟨l, List.mem_cons_self, hline hl⟩
      · obtain ⟨k, hk, hm⟩ := ih hls
        exact ⟨k, List.mem_cons_of_mem _ hk, hm⟩
      · -- the part in the first line would have its end
        obtain ⟨t, ht⟩ := hsuffix
        have hlast : (t ++ m₁).getLast? = some c := by rw [ht, List.getLast?_concat]
        rw [List.getLast?_append_of_ne_nil t hm₁] at hlast
        exact absurd (List.mem_append_left m₂ (List.mem_of_getLast? hlast)) hc

variable [DecidableEq α]

theorem unlines_splitOn (s : List α) : unlines c (s.splitOn c) = s ++ [c] := by
  rw [unlines_eq_intercalate (List.splitOn_ne_nil c s), List.intercalate_splitOn]

theorem not_mem_of_mem_splitOn {s l : List α} (h : l ∈ s.splitOn c) : c ∉ l := by
  induction s generalizing l with
  | nil =>
      rw [List.splitOn_nil, List.mem_singleton] at h
      subst h
      simp
  | cons x s ih =>
      rw [List.splitOn_cons_eq_if_modifyHead] at h
      by_cases hx : x = c
      · rw [if_pos (by simpa using hx), List.mem_cons] at h
        rcases h with rfl | h
        · simp
        · exact ih h
      · rw [if_neg (by simpa using hx)] at h
        -- `x` goes to the front of the first line
        cases hsplit : s.splitOn c with
        | nil => exact absurd hsplit (List.splitOn_ne_nil c s)
        | cons m ms =>
            rw [hsplit, List.modifyHead_cons, List.mem_cons] at h
            rcases h with rfl | h
            · intro hc
              rcases List.mem_cons.mp hc with rfl | hc
              · exact hx rfl
              · exact ih (by rw [hsplit]; exact List.mem_cons_self) hc
            · exact ih (by rw [hsplit]; exact List.mem_cons_of_mem _ h)

theorem splitOn_unlines_append {ls : List (List α)} (h : ∀ l ∈ ls, c ∉ l) (t : List α) :
    (unlines c ls ++ t).splitOn c = ls ++ t.splitOn c := by
  induction ls with
  | nil => rfl
  | cons l ls ih =>
      have htext : unlines c (l :: ls) ++ t = l ++ c :: (unlines c ls ++ t) := by
        simp [unlines]
      rw [htext, List.splitOn_append_cons_self_of_not_mem (h l List.mem_cons_self),
        ih (fun m hm => h m (List.mem_cons_of_mem _ hm)), List.cons_append]

theorem splitOn_append_replicate (s : List α) (k : Nat) :
    (s ++ List.replicate k c).splitOn c = s.splitOn c ++ List.replicate k [] := by
  induction k generalizing s with
  | zero => simp
  | succ k ih =>
      rw [List.replicate_succ, List.splitOn_append_cons_self]
      have hrest := ih ([] : List α)
      rw [List.nil_append, List.splitOn_nil] at hrest
      rw [hrest]
      rfl

/-! ## Text that arrives in pieces -/

/-- The lines that have ended. -/
def complete (c : α) (s : List α) : List (List α) := (s.splitOn c).dropLast

/-- The line that has not ended yet. -/
def rest (c : α) (s : List α) : List α := (s.splitOn c).getLastD []

theorem complete_append_rest (s : List α) : complete c s ++ [rest c s] = s.splitOn c := by
  have hne := List.splitOn_ne_nil c s
  unfold complete rest
  rw [List.getLastD_eq_getLast?, List.getLast?_eq_some_getLast hne, Option.getD_some,
    List.dropLast_concat_getLast hne]

theorem unlines_complete_append_rest (s : List α) : unlines c (complete c s) ++ rest c s = s := by
  have h := unlines_splitOn (c := c) s
  rw [← complete_append_rest, unlines_append] at h
  have hlast : unlines c [rest c s] = rest c s ++ [c] := by simp [unlines]
  rw [hlast, ← List.append_assoc] at h
  exact List.append_cancel_right h

theorem not_mem_of_mem_complete {s l : List α} (h : l ∈ complete c s) : c ∉ l :=
  not_mem_of_mem_splitOn (List.mem_of_mem_dropLast h)

theorem not_mem_rest (s : List α) : c ∉ rest c s := by
  have hmem : rest c s ∈ s.splitOn c := by
    rw [← complete_append_rest]
    exact List.mem_append_right _ List.mem_cons_self
  exact not_mem_of_mem_splitOn hmem

theorem complete_of_not_mem {s : List α} (h : c ∉ s) : complete c s = [] := by
  rw [complete, List.splitOn_eq_singleton h]
  rfl

theorem complete_unlines_append {ls : List (List α)} (h : ∀ l ∈ ls, c ∉ l) (t : List α) :
    complete c (unlines c ls ++ t) = ls ++ complete c t := by
  unfold complete
  rw [splitOn_unlines_append h, List.dropLast_append_of_ne_nil (List.splitOn_ne_nil c t)]

/-- The body of the lines of a text. -/
def bodyOf (c : α) (s : List α) : List (List α) := body (s.splitOn c)

theorem bodyOf_append_replicate (s : List α) (k : Nat) :
    bodyOf c (s ++ List.replicate k c) = bodyOf c s := by
  unfold bodyOf
  rw [splitOn_append_replicate, body_append_replicate]

theorem bodyOf_unlines {ls : List (List α)} (h : ∀ l ∈ ls, c ∉ l) :
    bodyOf c (unlines c ls) = body ls := by
  have hsplit := splitOn_unlines_append h []
  rw [List.append_nil, List.splitOn_nil] at hsplit
  unfold bodyOf
  rw [hsplit]
  exact body_append_replicate ls 1

/-- A text that ends in no line end, and whose lines stand among the lines of another, is part of
it. -/
theorem infix_of_splitOn_infix {e s : List α} (h : e.splitOn c <:+: s.splitOn c)
    (hlast : e.getLast? ≠ some c) : e <:+: s := by
  obtain ⟨before, after, heq⟩ := h
  have htext : unlines c before ++ (e ++ [c]) ++ unlines c after = s ++ [c] := by
    rw [← unlines_splitOn, ← unlines_splitOn, ← heq, unlines_append, unlines_append]
  have hinfix : e <:+: s ++ [c] := by
    rw [← htext]
    exact ⟨unlines c before, [c] ++ unlines c after, by simp⟩
  exact infix_of_infix_concat hinfix hlast

/-- A text without empty lines ends in no line end. -/
theorem getLast?_ne_of_splitOn {e : List α} (h : [] ∉ e.splitOn c) : e.getLast? ≠ some c := by
  intro hlast
  obtain ⟨t, rfl⟩ := List.getLast?_eq_some_iff.mp hlast
  have hsplit := splitOn_append_replicate (c := c) t 1
  rw [List.replicate_one, List.replicate_one] at hsplit
  rw [hsplit] at h
  simp at h

theorem infix_iff_line {m s : List α} (hne : m ≠ []) (hc : c ∉ m) :
    m <:+: s ↔ ∃ l ∈ s.splitOn c, m <:+: l := by
  constructor
  · intro h
    refine infix_unlines hne hc ?_
    rw [unlines_splitOn]
    exact List.infix_append_of_infix_left h
  · rintro ⟨l, hl, hm⟩
    have hinfix : m <:+: s ++ [c] := by
      rw [← unlines_splitOn]
      have hmem : l ++ [c] ∈ (s.splitOn c).map (fun l => l ++ [c]) := List.mem_map_of_mem hl
      exact (List.infix_append_of_infix_left hm).trans (List.infix_of_mem_flatten hmem)
    refine infix_of_infix_concat hinfix ?_
    intro hlast
    exact hc (List.mem_of_getLast? hlast)

end

/-! ## Trimming the end -/

variable [DecidableEq α]

/-- Of a reversed text: the symbol `c` at the front is dropped as long as another one follows. -/
def popRepeated (c : α) : List α → List α
  | a :: b :: s => if a = c ∧ b = c then popRepeated c (b :: s) else a :: b :: s
  | s => s

/-- `while(s.ends_with(cc)) s.pop_back()`. -/
def trimEnd (c : α) (s : List α) : List α := (popRepeated c s.reverse).reverse

theorem popRepeated_spec (c : α) (s : List α) :
    ∃ k, s = List.replicate k c ++ popRepeated c s := by
  induction s with
  | nil => exact ⟨0, rfl⟩
  | cons a s ih =>
      cases s with
      | nil => exact ⟨0, rfl⟩
      | cons b s =>
          unfold popRepeated
          by_cases hpop : a = c ∧ b = c
          · rw [if_pos hpop]
            obtain ⟨k, hk⟩ := ih
            refine ⟨k + 1, ?_⟩
            rw [List.replicate_succ, List.cons_append, ← hk, hpop.1]
          · rw [if_neg hpop]
            exact ⟨0, rfl⟩

theorem trimEnd_append (c : α) (s : List α) : ∃ k, s = trimEnd c s ++ List.replicate k c := by
  obtain ⟨k, hk⟩ := popRepeated_spec c s.reverse
  refine ⟨k, ?_⟩
  have hrev := congrArg List.reverse hk
  rw [List.reverse_reverse, List.reverse_append, List.reverse_replicate] at hrev
  exact hrev

theorem popRepeated_length_le (c : α) (s : List α) : (popRepeated c s).length ≤ s.length := by
  obtain ⟨k, hk⟩ := popRepeated_spec c s
  have hlength := congrArg List.length hk
  rw [List.length_append] at hlength
  omega

/-- A line with its end keeps it. -/
theorem infix_popRepeated {c : α} {m s : List α} (h : c :: m <:+: s) (hne : m ≠ [])
    (hhead : m.head? ≠ some c) : c :: m <:+: popRepeated c s := by
  induction s with
  | nil => exact h
  | cons a s ih =>
      cases s with
      | nil => exact h
      | cons b s =>
          unfold popRepeated
          by_cases hpop : a = c ∧ b = c
          · rw [if_pos hpop]
            apply ih
            rcases List.infix_cons_iff.mp h with hprefix | hinfix
            · -- the symbol after the dropped one would be the first of `m`
              obtain ⟨-, hm⟩ := List.cons_prefix_cons.mp hprefix
              obtain ⟨d, m, rfl⟩ := List.exists_cons_of_ne_nil hne
              obtain ⟨rfl, -⟩ := List.cons_prefix_cons.mp hm
              exact absurd (congrArg some hpop.2) hhead
            · exact hinfix
          · rw [if_neg hpop]
            exact h

theorem infix_trimEnd {c : α} {m s : List α} (h : m ++ [c] <:+: s) (hne : m ≠ [])
    (hlast : m.getLast? ≠ some c) : m ++ [c] <:+: trimEnd c s := by
  unfold trimEnd
  rw [← List.reverse_infix, List.reverse_reverse, List.reverse_append, List.reverse_singleton,
    List.singleton_append]
  apply infix_popRepeated
  · rw [← List.reverse_infix] at h
    simpa using h
  · simpa using hne
  · rw [List.head?_reverse]
    exact hlast

/-- One more line end changes nothing exactly if the text ended in a single one. -/
theorem trimEnd_concat_eq_self_iff (c : α) (s : List α) :
    trimEnd c (s ++ [c]) = s ↔ ∃ t, s = t ++ [c] ∧ t.getLast? ≠ some c := by
  unfold trimEnd
  rw [List.reverse_append, List.reverse_singleton, List.singleton_append, List.reverse_eq_iff]
  constructor
  · intro h
    cases hs : s.reverse with
    | nil =>
        rw [hs] at h
        cases h
    | cons a r =>
        have hac : a = c := by
          by_contra hne
          rw [hs, popRepeated, if_neg (fun hboth => hne hboth.2)] at h
          exact absurd (congrArg List.length h) (by simp)
        subst hac
        refine ⟨r.reverse, ?_, ?_⟩
        · rw [← List.reverse_cons, ← hs, List.reverse_reverse]
        · intro hlast
          rw [List.getLast?_reverse] at hlast
          cases r with
          | nil => cases hlast
          | cons b r =>
              rw [List.head?_cons, Option.some.injEq] at hlast
              subst hlast
              -- two line ends at the end are one too many
              rw [hs, popRepeated, if_pos ⟨rfl, rfl⟩, popRepeated, if_pos ⟨rfl, rfl⟩] at h
              have hshort := popRepeated_length_le b (b :: r)
              rw [h, List.length_cons, List.length_cons] at hshort
              omega
  · rintro ⟨t, rfl, hlast⟩
    rw [List.reverse_append, List.reverse_singleton, List.singleton_append, popRepeated,
      if_pos ⟨rfl, rfl⟩]
    cases ht : t.reverse with
    | nil => rfl
    | cons b r =>
        have hb : b ≠ c := by
          rintro rfl
          rw [List.getLast?_eq_head?_reverse, ht] at hlast
          exact hlast rfl
        rw [popRepeated, if_neg (fun hboth => hb hboth.2)]

theorem bodyOf_trimEnd (c : α) (s : List α) : bodyOf c (trimEnd c s) = bodyOf c s := by
  obtain ⟨k, hk⟩ := trimEnd_append c s
  conv_rhs => rw [hk, bodyOf_append_replicate]

end Lines
