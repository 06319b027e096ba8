import Mathlib.Data.List.Infix

set_option autoImplicit false

/-! # Replacing every occurrence of a pattern

`rep a b s` is `s` with every occurrence of `a`, from the left and without overlaps, replaced by `b`.
To follow several replacements after each other, a text is taken as a list of tokens: single elements,
and words from a fixed stock. `render f` is the text in which word `k` reads `f k`. When a pattern can
meet a word only as a whole, the replacement acts on the words alone (`rep_render`), and a sequence of
replacements can be computed on each word by itself.
-/

namespace Rewriting

variable {α : Type}

/-! ## Replacing -/

section

variable [DecidableEq α]

/-- The next `skip` elements belong to an occurrence that has been replaced. -/
def repFrom (a b : List α) : Nat → List α → List α
  | _, [] => []
  | skip + 1, _ :: s => repFrom a b skip s
  | 0, c :: s =>
      if a.isPrefixOf (c :: s) then b ++ repFrom a b (a.length - 1) s else c :: repFrom a b 0 s

def rep (a b s : List α) : List α := repFrom a b 0 s

variable {a b : List α}

theorem repFrom_eq (skip : Nat) (s : List α) : repFrom a b skip s = rep a b (s.drop skip) := by
  induction s generalizing skip with
  | nil => cases skip <;> rfl
  | cons c s ih =>
      cases skip with
      | zero => rfl
      | succ skip => exact ih skip

@[simp] theorem rep_nil : rep a b [] = [] := rfl

theorem rep_cons {c : α} {s : List α} (h : ¬ a <+: c :: s) : rep a b (c :: s) = c :: rep a b s := by
  show (if a.isPrefixOf (c :: s) then _ else c :: repFrom a b 0 s) = _
  rw [if_neg]
  · rfl
  · rw [List.isPrefixOf_iff_prefix]
    exact h

theorem rep_match (ha : a ≠ []) (t : List α) : rep a b (a ++ t) = b ++ rep a b t := by
  cases a with
  | nil => exact absurd rfl ha
  | cons c a =>
      have hpre : (c :: a).isPrefixOf (c :: (a ++ t)) = true := by
        rw [List.isPrefixOf_iff_prefix]
        exact ⟨t, rfl⟩
      show (if (c :: a).isPrefixOf (c :: (a ++ t)) then
        b ++ repFrom (c :: a) b ((c :: a).length - 1) (a ++ t) else _) = _
      rw [if_pos hpre, repFrom_eq, List.length_cons, Nat.add_sub_cancel, List.drop_left]

end

/-! ## Patterns and words apart -/

/-- No occurrence of `a` begins inside `w`, whatever stands behind `w`. -/
def Avoids (a w : List α) : Prop := ∀ z ∈ w.tails, z ≠ [] → ¬ a <+: z ∧ ¬ z <+: a

instance [DecidableEq α] (a w : List α) : Decidable (Avoids a w) :=
  inferInstanceAs (Decidable (∀ z ∈ w.tails, z ≠ [] → ¬ a <+: z ∧ ¬ z <+: a))

theorem avoids_cons {a w : List α} {c : α} :
    Avoids a (c :: w) ↔ (¬ a <+: c :: w ∧ ¬ c :: w <+: a) ∧ Avoids a w := by
  unfold Avoids
  rw [List.tails_cons]
  constructor
  · intro h
    exact ⟨h _ List.mem_cons_self (List.cons_ne_nil c w),
      fun z hz => h z (List.mem_cons_of_mem _ hz)⟩
  · rintro ⟨hhead, htail⟩ z hz hne
    rcases List.mem_cons.mp hz with rfl | hz
    · exact hhead
    · exact htail z hz hne

theorem Avoids.not_prefix_append {a w : List α} {c : α} (h : Avoids a (c :: w)) (t : List α) :
    ¬ a <+: c :: (w ++ t) := by
  intro hpre
  have hself : c :: w <+: c :: (w ++ t) := ⟨t, rfl⟩
  have hapart := (avoids_cons.mp h).1
  rcases List.prefix_or_prefix_of_prefix hpre hself with h | h
  · exact hapart.1 h
  · exact hapart.2 h

theorem rep_append_of_avoids [DecidableEq α] {a b w : List α} (h : Avoids a w) (t : List α) :
    rep a b (w ++ t) = w ++ rep a b t := by
  induction w with
  | nil => rfl
  | cons c w ih =>
      rw [List.cons_append, rep_cons (h.not_prefix_append t), ih (avoids_cons.mp h).2]
      rfl

theorem infix_of_avoids {a w t : List α} (h : Avoids a w) (hoccurs : a <:+: w ++ t) : a <:+: t := by
  induction w with
  | nil => exact hoccurs
  | cons c w ih =>
      rw [List.cons_append] at hoccurs
      rcases List.infix_cons_iff.mp hoccurs with hpre | hoccurs
      · exact absurd hpre (h.not_prefix_append t)
      · exact ih (avoids_cons.mp h).2 hoccurs

/-! ## Tokens -/

inductive Token (α κ : Type) where
  | elem (c : α)
  | word (k : κ)

variable {κ : Type}

def Token.text (f : κ → List α) : Token α κ → List α
  | .elem c => [c]
  | .word k => f k

/-- The text of a list of tokens, where word `k` reads `f k`. -/
def render (f : κ → List α) (ts : List (Token α κ)) : List α := ts.flatMap (Token.text f)

theorem render_elem (f : κ → List α) (c : α) (ts : List (Token α κ)) :
    render f (.elem c :: ts) = c :: render f ts := rfl

theorem render_word (f : κ → List α) (k : κ) (ts : List (Token α κ)) :
    render f (.word k :: ts) = f k ++ render f ts := rfl

theorem render_append (f : κ → List α) (ts us : List (Token α κ)) :
    render f (ts ++ us) = render f ts ++ render f us := List.flatMap_append

theorem render_map_elem (f : κ → List α) (a : List α) : render f (a.map Token.elem) = a := by
  induction a with
  | nil => rfl
  | cons c a ih =>
      rw [List.map_cons, render_elem, ih]

/-- Every text is one of tokens in which no word is spelled by single elements. -/
theorem exists_tokens {f : κ → List α} (hne : ∀ k, f k ≠ []) (s : List α) :
    ∃ ts, render f ts = s ∧ ∀ k, ¬ (f k).map Token.elem <:+: ts := by
  induction hn : s.length using Nat.strongRecOn generalizing s with
  | ind n ih =>
      by_cases hword : ∃ k, f k <+: s
      · -- a word stands at the front
        obtain ⟨k, t, rfl⟩ := hword
        have hpos := List.length_pos_of_ne_nil (hne k)
        rw [List.length_append] at hn
        obtain ⟨ts, hts, hclean⟩ := ih t.length (by omega) t rfl
        refine ⟨.word k :: ts, by rw [render_word, hts], ?_⟩
        intro j hoccurs
        rcases List.infix_cons_iff.mp hoccurs with hpre | hoccurs
        · obtain ⟨c, w, hw⟩ := List.exists_cons_of_ne_nil (hne j)
          rw [hw, List.map_cons, List.cons_prefix_cons] at hpre
          cases hpre.1
        · exact hclean j hoccurs
      · cases s with
        | nil =>
            refine ⟨[], rfl, ?_⟩
            intro k hoccurs
            exact hne k (List.map_eq_nil_iff.mp (List.infix_nil.mp hoccurs))
        | cons c s =>
            rw [List.length_cons] at hn
            obtain ⟨ts, hts, hclean⟩ := ih s.length (by omega) s rfl
            refine ⟨.elem c :: ts, by rw [render_elem, hts], ?_⟩
            intro k hoccurs
            rcases List.infix_cons_iff.mp hoccurs with ⟨us, hus⟩ | hoccurs
            · refine hword ⟨k, render f us, ?_⟩
              rw [← hts, ← render_elem, ← hus, render_append, render_map_elem]
            · exact hclean k hoccurs

/-- What is not spelled by single elements, and is cut short by every word, is no beginning of the
text. -/
theorem not_prefix_render {f : κ → List α} {a : List α} {ts : List (Token α κ)}
    (hclear : ∀ k, .word k ∈ ts → Avoids (f k) a) (hspell : ¬ a.map Token.elem <+: ts) :
    ¬ a <+: render f ts := by
  induction ts generalizing a with
  | nil =>
      intro hpre
      have hnil : a = [] := List.prefix_nil.mp hpre
      subst hnil
      exact hspell List.nil_prefix
  | cons t ts ih =>
      cases a with
      | nil => exact absurd List.nil_prefix hspell
      | cons x a =>
          intro hpre
          cases t with
          | elem c =>
              rw [render_elem, List.cons_prefix_cons] at hpre
              obtain ⟨rfl, hpre⟩ := hpre
              refine ih ?_ ?_ hpre
              · intro k hk
                exact (avoids_cons.mp (hclear k (List.mem_cons_of_mem _ hk))).2
              · intro hspelled
                exact hspell (List.cons_prefix_cons.mpr ⟨rfl, hspelled⟩)
          | word k =>
              have hapart := (avoids_cons.mp (hclear k List.mem_cons_self)).1
              have hself : f k <+: render f (.word k :: ts) := ⟨render f ts, rfl⟩
              rcases List.prefix_or_prefix_of_prefix hpre hself with h | h
              · exact hapart.2 h
              · exact hapart.1 h

section

variable {f : κ → List α} {a : List α} {ts : List (Token α κ)}

/-- No occurrence of the pattern begins at a single element. -/
theorem not_prefix_elem {c : α} (hclear : ∀ k, .word k ∈ ts → Avoids (f k) a.tail)
    (hspell : ¬ a.map Token.elem <:+: Token.elem c :: ts) : ¬ a <+: c :: render f ts := by
  cases a with
  | nil => exact absurd List.nil_infix hspell
  | cons x a =>
      intro hpre
      rw [List.cons_prefix_cons] at hpre
      obtain ⟨rfl, hpre⟩ := hpre
      refine not_prefix_render hclear ?_ hpre
      intro hspelled
      exact hspell (List.cons_prefix_cons.mpr ⟨rfl, hspelled⟩).isInfix

/-- **Replacing in a text of tokens.** When the pattern is not spelled by single elements, and no
occurrence of it reaches into a word from the front, the replacement acts on the words alone. -/
theorem rep_render [DecidableEq α] {b : List α} {g : κ → List α}
    (hwords : ∀ k, .word k ∈ ts → ∀ t, rep a b (f k ++ t) = g k ++ rep a b t)
    (hclear : ∀ k, .word k ∈ ts → Avoids (f k) a.tail) (hspell : ¬ a.map Token.elem <:+: ts) :
    rep a b (render f ts) = render g ts := by
  induction ts with
  | nil => rfl
  | cons t ts ih =>
      have hrest : rep a b (render f ts) = render g ts :=
        ih (fun k hk => hwords k (List.mem_cons_of_mem t hk))
          (fun k hk => hclear k (List.mem_cons_of_mem t hk))
          (fun h => hspell (h.trans (List.suffix_cons t ts).isInfix))
      cases t with
      | elem c =>
          rw [render_elem, render_elem, ← hrest]
          exact rep_cons (not_prefix_elem (fun k hk => hclear k (List.mem_cons_of_mem _ hk)) hspell)
      | word k => rw [render_word, render_word, hwords k List.mem_cons_self, hrest]

/-- A word that the others keep apart from stands in the text only as a token. -/
theorem word_mem_of_infix {k : κ} (hne : f k ≠ []) (hapart : ∀ j, j ≠ k → Avoids (f k) (f j))
    (hclear : ∀ j, Avoids (f j) (f k).tail) (hspell : ¬ (f k).map Token.elem <:+: ts)
    (hoccurs : f k <:+: render f ts) : .word k ∈ ts := by
  induction ts with
  | nil => exact absurd (List.infix_nil.mp hoccurs) hne
  | cons t ts ih =>
      have hspell' : ¬ (f k).map Token.elem <:+: ts := fun h =>
        hspell (h.trans (List.suffix_cons t ts).isInfix)
      cases t with
      | elem c =>
          rw [render_elem] at hoccurs
          rcases List.infix_cons_iff.mp hoccurs with hpre | hoccurs
          · exact absurd hpre (not_prefix_elem (fun j _ => hclear j) hspell)
          · exact List.mem_cons_of_mem _ (ih hspell' hoccurs)
      | word j =>
          by_cases hj : j = k
          · rw [hj]
            exact List.mem_cons_self
          · rw [render_word] at hoccurs
            exact List.mem_cons_of_mem _ (ih hspell' (infix_of_avoids (hapart j hj) hoccurs))

theorem infix_of_word_mem {k : κ} (h : .word k ∈ ts) : f k <:+: render f ts := by
  obtain ⟨us, vs, rfl⟩ := List.append_of_mem h
  refine ⟨render f us, render f vs, ?_⟩
  rw [render_append, render_word, List.append_assoc]

theorem length_render_le {g : κ → List α} (hle : ∀ k, (g k).length ≤ (f k).length) :
    (render g ts).length ≤ (render f ts).length := by
  induction ts with
  | nil => exact Nat.le_refl _
  | cons t ts ih =>
      cases t with
      | elem c =>
          rw [render_elem, render_elem, List.length_cons, List.length_cons]
          omega
      | word k =>
          have := hle k
          rw [render_word, render_word, List.length_append, List.length_append]
          omega

/-- Where no word has become shorter, a text is the same again only if every word in it is. -/
theorem render_eq_iff {g : κ → List α} (hle : ∀ k, (g k).length ≤ (f k).length)
    (heq : ∀ k, (f k).length = (g k).length → f k = g k) :
    render f ts = render g ts ↔ ∀ k, .word k ∈ ts → f k = g k := by
  induction ts with
  | nil => simp [render]
  | cons t ts ih =>
      cases t with
      | elem c =>
          rw [render_elem, render_elem, List.cons_inj_right, ih]
          simp
      | word k =>
          rw [render_word, render_word]
          constructor
          · intro h j hj
            have hlen := congrArg List.length h
            rw [List.length_append, List.length_append] at hlen
            have hrest : (render g ts).length ≤ (render f ts).length := length_render_le hle
            have hk := heq k (by have := hle k; omega)
            rw [hk] at h
            rcases List.mem_cons.mp hj with hj | hj
            · cases hj
              exact hk
            · exact ih.mp (List.append_cancel_left h) j hj
          · intro h
            rw [h k List.mem_cons_self,
              ih.mpr (fun j hj => h j (List.mem_cons_of_mem _ hj))]

end

end Rewriting
