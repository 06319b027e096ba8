import PcbuDesktop.Installer.PAMHelper

set_option autoImplicit false

/-! # The restrictions of the polkit agent helper

`PAMHelper::SetPolkitRestrictions` weakens the unit file of polkit's helper so that the PAM module can
work in it, and is to restore the file when the entry of the module is removed. Four settings are
changed from `yes` to `no` and back. Three directives are commented out and in: one more call puts one
more `#` in front of each of them, and a restoring call takes one away.
-/

namespace PcbuDesktop

open Rewriting

namespace PAMHelper

/-! ## The rules -/

/-- One of the replacements: a setting with two values, or a directive that is commented out. -/
inductive PolkitRule where
  | flag (no yes : Str)
  | comment (directive : Str)

namespace PolkitRule

def weak : PolkitRule → Str
  | flag no _ => no
  | comment directive => 35 :: directive

def strong : PolkitRule → Str
  | flag _ yes => yes
  | comment directive => directive

def apply (enabled : Bool) (text : Str) (r : PolkitRule) : Str :=
  if enabled then replace text r.weak r.strong else replace text r.strong r.weak

/-- The words that the rule is about. -/
def words : PolkitRule → List Str
  | flag no yes => [no, yes]
  | comment directive => [directive]

end PolkitRule

open PolkitRule

def polkitRules : List PolkitRule :=
  [flag (str "NoNewPrivileges=no") (str "NoNewPrivileges=yes"),
    flag (str "PrivateDevices=no") (str "PrivateDevices=yes"),
    flag (str "PrivateNetwork=no") (str "PrivateNetwork=yes"),
    comment (str "RestrictAddressFamilies=AF_UNIX"),
    flag (str "RestrictSUIDSGID=no") (str "RestrictSUIDSGID=yes"),
    comment (str "DeviceAllow="),
    comment (str "DevicePolicy=strict")]

theorem polkitRestrictions_eq (enabled : Bool) (fileStr : Str) :
    polkitRestrictions enabled fileStr = polkitRules.foldl (apply enabled) fileStr := by
  have hrules : [(str "NoNewPrivileges=no", str "NoNewPrivileges=yes"),
      (str "PrivateDevices=no", str "PrivateDevices=yes"),
      (str "PrivateNetwork=no", str "PrivateNetwork=yes"),
      (str "#RestrictAddressFamilies=AF_UNIX", str "RestrictAddressFamilies=AF_UNIX"),
      (str "RestrictSUIDSGID=no", str "RestrictSUIDSGID=yes"),
      (str "#DeviceAllow=", str "DeviceAllow="),
      (str "#DevicePolicy=strict", str "DevicePolicy=strict")] =
      polkitRules.map (fun r => (r.weak, r.strong)) := by decide +kernel
  unfold polkitRestrictions
  dsimp only
  rw [hrules, List.foldl_map]
  rfl

/-- All words of the rules. -/
def stock : List Str := polkitRules.flatMap words

/-! ### How the words lie -/

/-- No word has a `#`, none begins inside another one, and none overlaps itself. -/
theorem stock_apart : (∀ p ∈ stock, p ≠ [] ∧ 35 ∉ p) ∧
    (∀ p ∈ stock, ∀ q ∈ stock, p ≠ q → Avoids p q) ∧
    ∀ p ∈ stock, ∀ q ∈ stock, Avoids q p.tail := by
  decide +kernel

section

variable {p q : Str}

theorem not_prefix_hash (hne : p ≠ []) (hhash : 35 ∉ p) (t : Str) : ¬ p <+: 35 :: t := by
  cases p with
  | nil => exact absurd rfl hne
  | cons c p =>
      intro hpre
      have hc := (List.cons_prefix_cons.mp hpre).1
      exact hhash (by rw [hc]; exact List.mem_cons_self)

/-- What begins with a `#` is apart from everything without one. -/
theorem avoids_hash (hhash : 35 ∉ p) (w : Str) : Avoids (35 :: w) p := by
  intro z hz hne
  have hsub : z ⊆ p := ((List.mem_tails z p).mp hz).subset
  have hz' : 35 ∉ z := fun h => hhash (hsub h)
  refine ⟨?_, not_prefix_hash hne hz' w⟩
  rintro ⟨t, rfl⟩
  exact hz' List.mem_cons_self

/-- A word behind a number of `#`. -/
def hashed (x : Nat × Str) : Str := List.replicate x.1 35 ++ x.2

theorem hashed_succ (m : Nat) (p : Str) : hashed (m + 1, p) = 35 :: hashed (m, p) := rfl

theorem hashed_tail (hp : p ∈ stock) (hq : q ∈ stock) (m : Nat) :
    Avoids (hashed (m, p)) q.tail := by
  cases m with
  | zero => exact stock_apart.2.2 q hq p hp
  | succ m =>
      rw [hashed_succ]
      exact avoids_hash (fun h => (stock_apart.1 q hq).2 (List.mem_of_mem_tail h)) _

/-- A word is replaced behind any number of `#`, and no other word is. -/
theorem rep_hashed (hp : p ∈ stock) (hq : q ∈ stock) (b : Str) (m : Nat) (t : Str) :
    rep q b (hashed (m, p) ++ t) = hashed (m, if p = q then b else p) ++ rep q b t := by
  obtain ⟨hne, hhash⟩ := stock_apart.1 q hq
  induction m with
  | zero =>
      show rep q b (p ++ t) = (if p = q then b else p) ++ rep q b t
      by_cases heq : p = q
      · rw [if_pos heq, heq, rep_match hne]
      · rw [if_neg heq]
        exact rep_append_of_avoids (stock_apart.2.1 q hq p hp (Ne.symm heq)) t
  | succ m ih =>
      rw [hashed_succ, hashed_succ, List.cons_append, rep_cons (not_prefix_hash hne hhash _), ih]
      rfl

/-- One `#` is taken away, if there is one. -/
theorem rep_commented (hp : p ∈ stock) (hq : q ∈ stock) (m : Nat) (t : Str) :
    rep (35 :: q) q (hashed (m, p) ++ t) =
      hashed (if p = q then m - 1 else m, p) ++ rep (35 :: q) q t := by
  obtain ⟨hne, hhash⟩ := stock_apart.1 q hq
  induction m with
  | zero =>
      have hsame : (if p = q then 0 - 1 else 0) = 0 := by split <;> rfl
      rw [hsame]
      exact rep_append_of_avoids (avoids_hash (stock_apart.1 p hp).2 q) t
  | succ m ih =>
      rw [hashed_succ, List.cons_append]
      cases m with
      | succ m =>
          -- two signs: the first one stays
          have hno : ¬ 35 :: q <+: 35 :: (hashed (m + 1, p) ++ t) := by
            intro hpre
            exact not_prefix_hash hne hhash _ (List.cons_prefix_cons.mp hpre).2
          rw [rep_cons hno, ih]
          by_cases heq : p = q
          · rw [if_pos heq, if_pos heq]
            rfl
          · rw [if_neg heq, if_neg heq]
            rfl
      | zero =>
          by_cases heq : p = q
          · rw [if_pos heq, heq]
            exact rep_match (List.cons_ne_nil 35 q) t
          · obtain ⟨c, w, hw⟩ := List.exists_cons_of_ne_nil (stock_apart.1 p hp).1
            have hno : ¬ 35 :: q <+: 35 :: (hashed (0, p) ++ t) := by
              intro hpre
              have hapart := stock_apart.2.1 q hq p hp (Ne.symm heq)
              rw [hw] at hapart
              refine hapart.not_prefix_append t ?_
              rw [← List.cons_append, ← hw]
              exact (List.cons_prefix_cons.mp hpre).2
            rw [rep_cons hno, ih, if_neg heq, if_neg heq]
            rfl

/-- A commented directive does not reach into another word from the front. -/
theorem hashed_clear (hp : p ∈ stock) (hq : q ∈ stock) {m : Nat} (hm : p = q → 1 ≤ m) :
    Avoids (hashed (m, p)) q := by
  cases m with
  | zero =>
      refine stock_apart.2.1 p hp q hq ?_
      intro heq
      have := hm heq
      omega
  | succ m => exact avoids_hash (stock_apart.1 q hq).2 _

end

/-! ## One rule, one call -/

namespace PolkitRule

/-- What the rule does to a word behind a number of `#`. -/
def step (enabled : Bool) (x : Nat × Str) : PolkitRule → Nat × Str
  | flag no yes =>
      if enabled then (x.1, if x.2 = no then yes else x.2) else (x.1, if x.2 = yes then no else x.2)
  | comment directive =>
      if enabled then (if x.2 = directive then x.1 - 1 else x.1, x.2)
      else (if x.2 = directive then x.1 + 1 else x.1, x.2)

end PolkitRule

/-- The words of the stock, as they stand in a text. -/
abbrev Word := { p : Str // p ∈ stock }

/-- None of the words is spelled by single bytes. -/
def Clean (ts : List (Token UInt8 Word)) : Prop := ∀ p ∈ stock, ¬ p.map Token.elem <:+: ts

theorem words_subset {r : PolkitRule} (hr : r ∈ polkitRules) {p : Str} (hp : p ∈ r.words) :
    p ∈ stock := List.mem_flatMap.mpr ⟨r, hr, hp⟩

section

variable {ts : List (Token UInt8 Word)} {σ : Word → Nat × Str}

/-- A rule acts on the words alone. Before it takes a `#` away there must be one. -/
theorem apply_render (hclean : Clean ts) (hσ : ∀ w, (σ w).2 ∈ stock) {enabled : Bool}
    {r : PolkitRule} (hr : r ∈ polkitRules)
    (hready : enabled = true → ∀ d, r = .comment d → ∀ w, (σ w).2 = d → 1 ≤ (σ w).1) :
    apply enabled (render (fun w => hashed (σ w)) ts) r =
      render (fun w => hashed (r.step enabled (σ w))) ts := by
  cases r with
  | flag no yes =>
      have hno : no ∈ stock := words_subset hr List.mem_cons_self
      have hyes : yes ∈ stock := words_subset hr (List.mem_cons_of_mem _ List.mem_cons_self)
      have hne₁ := (stock_apart.1 no hno).1
      have hne₂ := (stock_apart.1 yes hyes).1
      cases enabled with
      | true =>
          show replace _ no yes = _
          rw [replace_eq_rep hne₁ hne₂]
          exact rep_render (fun w _ t => rep_hashed (hσ w) hno yes _ t)
            (fun w _ => hashed_tail (hσ w) hno _) (hclean no hno)
      | false =>
          show replace _ yes no = _
          rw [replace_eq_rep hne₂ hne₁]
          exact rep_render (fun w _ t => rep_hashed (hσ w) hyes no _ t)
            (fun w _ => hashed_tail (hσ w) hyes _) (hclean yes hyes)
  | comment d =>
      have hd : d ∈ stock := words_subset hr List.mem_cons_self
      have hne := (stock_apart.1 d hd).1
      cases enabled with
      | true =>
          show replace _ (35 :: d) d = _
          rw [replace_eq_rep (List.cons_ne_nil 35 d) hne]
          refine rep_render (fun w _ t => rep_commented (hσ w) hd _ t)
            (fun w _ => hashed_clear (hσ w) hd (hready rfl d rfl w)) ?_
          intro hspelled
          exact hclean d hd ((List.suffix_cons _ _).isInfix.trans hspelled)
      | false =>
          show replace _ d (35 :: d) = _
          rw [replace_eq_rep hne (List.cons_ne_nil 35 d)]
          refine rep_render (fun w _ t => ?_) (fun w _ => hashed_tail (hσ w) hd _) (hclean d hd)
          rw [rep_hashed (hσ w) hd]
          show _ = hashed (if (σ w).2 = d then (σ w).1 + 1 else (σ w).1, (σ w).2) ++ _
          by_cases heq : (σ w).2 = d
          · rw [if_pos heq, if_pos heq, heq, hashed_succ]
            show List.replicate (σ w).1 35 ++ 35 :: d ++ _ = 35 :: (List.replicate (σ w).1 35 ++ d) ++ _
            rw [← List.singleton_append, ← List.append_assoc, ← List.replicate_succ',
              List.replicate_succ]
            rfl
          · rw [if_neg heq, if_neg heq]

end

/-- The words of different rules are different. -/
theorem rules_disjoint :
    polkitRules.Pairwise (fun r r' => ∀ p ∈ r.words, p ∉ r'.words) := by
  decide +kernel

theorem step_mem {enabled : Bool} {x : Nat × Str} (hx : x.2 ∈ stock) {r : PolkitRule}
    (hr : r ∈ polkitRules) : (r.step enabled x).2 ∈ stock := by
  cases r with
  | flag no yes =>
      have hno : no ∈ stock := words_subset hr List.mem_cons_self
      have hyes : yes ∈ stock := words_subset hr (List.mem_cons_of_mem _ List.mem_cons_self)
      cases enabled with
      | true =>
          show (if x.2 = no then yes else x.2) ∈ stock
          split
          · exact hyes
          · exact hx
      | false =>
          show (if x.2 = yes then no else x.2) ∈ stock
          split
          · exact hno
          · exact hx
  | comment d => cases enabled <;> exact hx

/-- A rule does not touch the `#` in front of a directive of another rule. -/
theorem step_other {x : Nat × Str} {r : PolkitRule} {d : Str} (hd : d ∉ r.words)
    (h : (r.step true x).2 = d) : x.2 = d ∧ (r.step true x).1 = x.1 := by
  cases r with
  | flag no yes =>
      have h' : (if x.2 = no then yes else x.2) = d := h
      split at h'
      · rw [← h'] at hd
        exact absurd (List.mem_cons_of_mem _ List.mem_cons_self) hd
      · exact ⟨h', rfl⟩
  | comment e =>
      have hx : x.2 = d := h
      have hne : d ≠ e := fun heq => hd (by rw [heq]; exact List.mem_cons_self)
      refine ⟨hx, ?_⟩
      show (if x.2 = e then x.1 - 1 else x.1) = x.1
      rw [if_neg (by rw [hx]; exact hne)]

theorem foldl_render {ts : List (Token UInt8 Word)} (hclean : Clean ts) (enabled : Bool)
    {rs : List PolkitRule} (hrs : ∀ r ∈ rs, r ∈ polkitRules)
    (hdisjoint : rs.Pairwise (fun r r' => ∀ p ∈ r.words, p ∉ r'.words)) {σ : Word → Nat × Str}
    (hσ : ∀ w, (σ w).2 ∈ stock)
    (hready : enabled = true → ∀ d, .comment d ∈ rs → ∀ w, (σ w).2 = d → 1 ≤ (σ w).1) :
    rs.foldl (apply enabled) (render (fun w => hashed (σ w)) ts) =
      render (fun w => hashed (rs.foldl (step enabled) (σ w))) ts := by
  induction rs generalizing σ with
  | nil => rfl
  | cons r rs ih =>
      obtain ⟨hfirst, hdisjoint⟩ := List.pairwise_cons.mp hdisjoint
      have hr := hrs r List.mem_cons_self
      rw [List.foldl_cons, apply_render hclean hσ hr
        (fun htrue d hd w => hready htrue d (by rw [hd]; exact List.mem_cons_self) w)]
      refine ih (fun r' hr' => hrs r' (List.mem_cons_of_mem r hr')) hdisjoint
        (fun w => step_mem (hσ w) hr) ?_
      intro htrue d hd w hw
      subst htrue
      have hother : d ∉ r.words := fun h => hfirst _ hd d h List.mem_cons_self
      obtain ⟨hsame, hcount⟩ := step_other hother hw
      rw [hcount]
      exact hready rfl d (List.mem_cons_of_mem r hd) w hsame

/-- What a call does to a word. -/
def pass (enabled : Bool) (x : Nat × Str) : Nat × Str := polkitRules.foldl (step enabled) x

theorem pass_mem {enabled : Bool} {x : Nat × Str} (hx : x.2 ∈ stock) :
    (pass enabled x).2 ∈ stock := by
  have hall : ∀ rs : List PolkitRule, (∀ r ∈ rs, r ∈ polkitRules) → ∀ y : Nat × Str, y.2 ∈ stock →
      (rs.foldl (step enabled) y).2 ∈ stock := by
    intro rs
    induction rs with
    | nil => exact fun _ _ hy => hy
    | cons r rs ih =>
        intro hrs y hy
        exact ih (fun r' hr' => hrs r' (List.mem_cons_of_mem r hr')) _
          (step_mem hy (hrs r List.mem_cons_self))
  exact hall polkitRules (fun _ hr => hr) x hx

theorem polkitRestrictions_render {ts : List (Token UInt8 Word)} (hclean : Clean ts) (enabled : Bool)
    {σ : Word → Nat × Str} (hσ : ∀ w, (σ w).2 ∈ stock)
    (hready : enabled = true → ∀ d, .comment d ∈ polkitRules → ∀ w, (σ w).2 = d → 1 ≤ (σ w).1) :
    polkitRestrictions enabled (render (fun w => hashed (σ w)) ts) =
      render (fun w => hashed (pass enabled (σ w))) ts := by
  rw [polkitRestrictions_eq]
  exact foldl_render hclean enabled (fun _ hr => hr) rules_disjoint hσ hready

/-! ## Weakened and restored -/

/-- The word after `n` weakening calls. -/
def weakened (n : Nat) (w : Word) : Nat × Str := (pass false)^[n] (0, w.1)

theorem weakened_mem (n : Nat) (w : Word) : (weakened n w).2 ∈ stock := by
  induction n with
  | zero => exact w.2
  | succ n ih =>
      unfold weakened
      rw [Function.iterate_succ_apply']
      exact pass_mem ih

theorem weakened_render {ts : List (Token UInt8 Word)} (hclean : Clean ts) (n : Nat) :
    (polkitRestrictions false)^[n] (render Subtype.val ts) =
      render (fun w => hashed (weakened n w)) ts := by
  induction n with
  | zero => rfl
  | succ n ih =>
      rw [Function.iterate_succ_apply', ih, polkitRestrictions_render hclean false (weakened_mem n)
        nofun]
      unfold weakened
      simp only [Function.iterate_succ_apply']

/-- What a call does to the words of each rule. -/
theorem pass_word : ∀ r ∈ polkitRules, ∀ m, match r with
    | .flag no yes => pass false (m, yes) = (m, no) ∧ pass false (m, no) = (m, no) ∧
        pass true (m, no) = (m, yes)
    | .comment d => pass false (m, d) = (m + 1, d) ∧ pass true (m, d) = (m - 1, d) := by
  intro r hr m
  simp only [polkitRules, List.mem_cons, List.not_mem_nil, or_false] at hr
  rcases hr with rfl | rfl | rfl | rfl | rfl | rfl | rfl
  · exact ⟨rfl, rfl, rfl⟩
  · exact ⟨rfl, rfl, rfl⟩
  · exact ⟨rfl, rfl, rfl⟩
  · exact ⟨rfl, rfl⟩
  · exact ⟨rfl, rfl, rfl⟩
  · exact ⟨rfl, rfl⟩
  · exact ⟨rfl, rfl⟩

theorem weakened_flag {no yes : Str} (hr : .flag no yes ∈ polkitRules) (n : Nat) {w : Word}
    (hw : w.1 = no ∨ w.1 = yes) : weakened (n + 1) w = (0, no) := by
  have hpass := pass_word _ hr 0
  induction n with
  | zero =>
      show pass false (0, w.1) = _
      rcases hw with hw | hw
      · rw [hw]
        exact hpass.2.1
      · rw [hw]
        exact hpass.1
  | succ n ih =>
      show (pass false)^[n + 1 + 1] (0, w.1) = _
      rw [Function.iterate_succ_apply']
      show pass false (weakened (n + 1) w) = _
      rw [ih]
      exact hpass.2.1

theorem weakened_comment {d : Str} (hr : .comment d ∈ polkitRules) (n : Nat) {w : Word}
    (hw : w.1 = d) : weakened n w = (n, d) := by
  induction n with
  | zero =>
      show (0, w.1) = _
      rw [hw]
  | succ n ih =>
      show (pass false)^[n + 1] (0, w.1) = _
      rw [Function.iterate_succ_apply']
      show pass false (weakened n w) = _
      rw [ih]
      exact (pass_word _ hr n).1

/-- A word belongs to a setting or to a directive. -/
theorem word_cases (w : Word) : (∃ no yes, .flag no yes ∈ polkitRules ∧ (w.1 = no ∨ w.1 = yes)) ∨
    .comment w.1 ∈ polkitRules := by
  obtain ⟨r, hr, hw⟩ := List.mem_flatMap.mp w.2
  cases r with
  | flag no yes =>
      refine Or.inl ⟨no, yes, hr, ?_⟩
      simpa [words] using hw
  | comment d =>
      have hd : w.1 = d := by simpa [words] using hw
      rw [hd]
      exact Or.inr hr

/-- A value of a setting is no directive. -/
theorem flag_ne_comment {no yes d : Str} (hr : .flag no yes ∈ polkitRules)
    (hd : .comment d ∈ polkitRules) : no ≠ d := by
  have hwords : ∀ r ∈ polkitRules, ∀ r' ∈ polkitRules, r.words.length = 2 →
      r'.words.length = 1 → ∀ p ∈ r.words, p ∉ r'.words := by
    decide +kernel
  intro heq
  refine hwords _ hr _ hd rfl rfl no List.mem_cons_self ?_
  rw [heq]
  exact List.mem_cons_self

theorem length_no_lt {no yes : Str} (hr : .flag no yes ∈ polkitRules) : no.length < yes.length := by
  have hlength : ∀ r ∈ polkitRules, r.words.length = 2 → r.weak.length < r.strong.length := by
    decide +kernel
  exact hlength _ hr rfl

/-- The word after `n + 1` weakening calls and a restoring one. -/
def restoredWord (n : Nat) (w : Word) : Str := hashed (pass true (weakened (n + 1) w))

theorem restored_render {ts : List (Token UInt8 Word)} (hclean : Clean ts) (n : Nat) :
    polkitRestrictions true ((polkitRestrictions false)^[n + 1] (render Subtype.val ts)) =
      render (restoredWord n) ts := by
  rw [weakened_render hclean]
  refine polkitRestrictions_render hclean true (weakened_mem (n + 1)) ?_
  intro _ d hd w hw
  rcases word_cases w with ⟨no, yes, hr, hword⟩ | hr
  · rw [weakened_flag hr n hword] at hw
    exact absurd hw (flag_ne_comment hr hd)
  · rw [weakened_comment hr (n + 1) rfl]
    exact Nat.le_add_left 1 n

theorem restoredWord_flag {no yes : Str} (hr : .flag no yes ∈ polkitRules) (n : Nat) {w : Word}
    (hw : w.1 = no ∨ w.1 = yes) : restoredWord n w = yes := by
  unfold restoredWord
  rw [weakened_flag hr n hw, (pass_word _ hr 0).2.2]
  rfl

theorem restoredWord_comment {w : Word} (hr : .comment w.1 ∈ polkitRules) (n : Nat) :
    restoredWord n w = List.replicate n 35 ++ w.1 := by
  unfold restoredWord
  rw [weakened_comment hr (n + 1) rfl, (pass_word _ hr (n + 1)).2]
  rfl

theorem length_restoredWord (n : Nat) (w : Word) : w.1.length ≤ (restoredWord n w).length := by
  rcases word_cases w with ⟨no, yes, hr, hword⟩ | hr
  · have hlt : no.length < yes.length := length_no_lt hr
    rw [restoredWord_flag hr n hword]
    rcases hword with hword | hword
    · rw [hword]
      omega
    · rw [hword]
  · rw [restoredWord_comment hr, List.length_append]
    omega

theorem restoredWord_eq {n : Nat} {w : Word} (h : (restoredWord n w).length = w.1.length) :
    restoredWord n w = w.1 := by
  rcases word_cases w with ⟨no, yes, hr, hword⟩ | hr
  · have hlt : no.length < yes.length := length_no_lt hr
    rw [restoredWord_flag hr n hword] at h ⊢
    rcases hword with hword | hword
    · rw [hword] at h
      omega
    · exact hword.symm
  · rw [restoredWord_comment hr, List.length_append, List.length_replicate] at h
    have hzero : n = 0 := by omega
    rw [restoredWord_comment hr, hzero]
    rfl

/-- The words of a text are the tokens. -/
theorem mem_tokens_iff {ts : List (Token UInt8 Word)} (hclean : Clean ts) (w : Word) :
    .word w ∈ ts ↔ w.1 <:+: render Subtype.val ts := by
  constructor
  · exact infix_of_word_mem (f := Subtype.val)
  · refine word_mem_of_infix (f := Subtype.val) (stock_apart.1 w.1 w.2).1 ?_ ?_ (hclean w.1 w.2)
    · intro v hv
      exact stock_apart.2.1 w.1 w.2 v.1 v.2 (fun heq => hv (Subtype.ext heq.symm))
    · intro v
      exact stock_apart.2.2 w.1 w.2 v.1 v.2

/-- A text is restored from `n + 1` weakening calls exactly when no setting was weak before, and no
directive has more than one `#` to lose. -/
theorem restored_iff (n : Nat) (s : Str) :
    polkitRestrictions true ((polkitRestrictions false)^[n + 1] s) = s ↔
      (∀ no yes, .flag no yes ∈ polkitRules → ¬ no <:+: s) ∧
        (n = 0 ∨ ∀ d, .comment d ∈ polkitRules → ¬ d <:+: s) := by
  obtain ⟨ts, rfl, hspell⟩ :=
    exists_tokens (f := (Subtype.val : Word → Str)) (fun w => (stock_apart.1 w.1 w.2).1) s
  have hclean : Clean ts := fun p hp => hspell ⟨p, hp⟩
  have hmem := mem_tokens_iff hclean
  rw [restored_render hclean, render_eq_iff (length_restoredWord n) (fun w h => restoredWord_eq h)]
  constructor
  · intro h
    constructor
    · intro no yes hr hoccurs
      have hno : no ∈ stock := words_subset hr List.mem_cons_self
      have hsame := h ⟨no, hno⟩ ((hmem ⟨no, hno⟩).mpr hoccurs)
      rw [restoredWord_flag hr n (Or.inl rfl)] at hsame
      have hlt : no.length < yes.length := length_no_lt hr
      rw [hsame] at hlt
      exact Nat.lt_irrefl _ hlt
    · by_cases hzero : n = 0
      · exact Or.inl hzero
      · right
        intro d hr hoccurs
        have hd : d ∈ stock := words_subset hr List.mem_cons_self
        have hsame := h ⟨d, hd⟩ ((hmem ⟨d, hd⟩).mpr hoccurs)
        rw [restoredWord_comment hr] at hsame
        have hlen := congrArg List.length hsame
        rw [List.length_append, List.length_replicate] at hlen
        dsimp only at hlen
        omega
  · rintro ⟨hflags, hcomments⟩ w hw
    rw [hmem] at hw
    rcases word_cases w with ⟨no, yes, hr, hword⟩ | hr
    · rw [restoredWord_flag hr n hword]
      rcases hword with hword | hword
      · rw [hword] at hw
        exact absurd hw (hflags no yes hr)
      · exact hword.symm
    · rw [restoredWord_comment hr]
      rcases hcomments with hzero | hcomments
      · rw [hzero]
        rfl
      · exact absurd hw (hcomments w.1 hr)

/-! ## The unit file -/

/-- The places of the unit file, in the order in which they are looked at. -/
def servicePaths : List Str :=
  [str "/lib64/systemd/system/", str "/lib/systemd/system/", str "/usr/lib64/systemd/system/",
    str "/usr/lib/systemd/system/", str "/etc/systemd/system/"].flatMap (fun dir =>
    [dir ++ str "polkit-agent-helper@.service", dir ++ str "polkit-agent-helper.service"])

/-- The unit file that is edited. -/
def servicePath (files : Str → Option Bytes) : Option Str :=
  servicePaths.find? (fun path => (files path).isSome)

/-- `PAMHelper::SetPolkitRestrictions` on the files; `written` is what `Shell::WriteBytes` returns. -/
def setPolkitRestrictions (written enabled : Bool) (files : Str → Option Bytes) :
    Bool × (Str → Option Bytes) :=
  match servicePath files with
  | none => (false, files)
  | some path =>
      let fileStr := polkitRestrictions enabled ((files path).getD [])
      if written then (true, Function.update files path (some fileStr)) else (false, files)

/-- The files after a call that can write. -/
def afterCall (enabled : Bool) (files : Str → Option Bytes) : Str → Option Bytes :=
  (setPolkitRestrictions true enabled files).2

theorem servicePath_update {files : Str → Option Bytes} {path : Str} {s : Bytes}
    (hfile : files path = some s) (t : Bytes) :
    servicePath (Function.update files path (some t)) = servicePath files := by
  unfold servicePath
  congr 1
  funext p
  by_cases hp : p = path
  · rw [hp, Function.update_self, hfile]
    rfl
  · rw [Function.update_of_ne hp]

theorem afterCall_eq {files : Str → Option Bytes} {path : Str} {s : Bytes}
    (hpath : servicePath files = some path) (hfile : files path = some s) (enabled : Bool) :
    afterCall enabled files =
      Function.update files path (some (polkitRestrictions enabled s)) := by
  unfold afterCall setPolkitRestrictions
  rw [hpath]
  dsimp only
  rw [hfile]
  rfl

theorem afterCalls_eq {files : Str → Option Bytes} {path : Str} {s : Bytes}
    (hpath : servicePath files = some path) (hfile : files path = some s) (n : Nat) :
    (afterCall false)^[n] files =
      Function.update files path (some ((polkitRestrictions false)^[n] s)) := by
  induction n with
  | zero => exact (Function.update_eq_self_iff.mpr hfile.symm).symm
  | succ n ih =>
      rw [Function.iterate_succ_apply', Function.iterate_succ_apply', ih,
        afterCall_eq ((servicePath_update hfile _).trans hpath) (Function.update_self ..),
        Function.update_idem]

/-- **Polkit hardening is restored exactly**, after weakening calls and one restoring call, when no
setting was weak before and either there was one weakening call only, or the file has none of the
directives that are commented out. -/
theorem polkit_restored_iff (files : Str → Option Bytes) (path : Str) (s : Bytes)
    (hpath : servicePath files = some path) (hfile : files path = some s) (n : Nat) (hn : 1 ≤ n) :
    afterCall true ((afterCall false)^[n] files) = files ↔
      (∀ no yes, .flag no yes ∈ polkitRules → ¬ no <:+: s) ∧
        (n = 1 ∨ ∀ d, .comment d ∈ polkitRules → ¬ d <:+: s) := by
  obtain ⟨m, rfl⟩ : ∃ m, n = m + 1 := ⟨n - 1, by omega⟩
  have hone : m + 1 = 1 ↔ m = 0 := by omega
  rw [afterCalls_eq hpath hfile,
    afterCall_eq ((servicePath_update hfile _).trans hpath) (Function.update_self ..),
    Function.update_idem, hone, ← restored_iff, Function.update_eq_self_iff, hfile]
  simp

namespace Sample

/-- One unit file, of the given text. -/
def unitFiles (s : Bytes) : Str → Option Bytes := fun path =>
  if path = str "/usr/lib/systemd/system/polkit-agent-helper@.service" then some s else none

/-- A hardened unit file. -/
def unitFile : Bytes := str "[Service]\nNoNewPrivileges=yes\nDeviceAllow=/dev/null rw\n"

end Sample

theorem polkit_restored_sample :
    afterCall true (afterCall false (Sample.unitFiles Sample.unitFile)) =
      Sample.unitFiles Sample.unitFile := by
  have h := polkit_restored_iff (Sample.unitFiles Sample.unitFile)
    (str "/usr/lib/systemd/system/polkit-agent-helper@.service") Sample.unitFile
    (by decide +kernel) (by decide +kernel) 1 (Nat.le_refl 1)
  have hweak : ∀ r ∈ polkitRules, ¬ r.weak <:+: Sample.unitFile := by
    decide +kernel
  exact h.mpr ⟨fun no yes hr => hweak _ hr, Or.inl rfl⟩

/-- After two weakening calls a directive stays commented out. -/
theorem polkit_comment_left :
    (∀ r ∈ polkitRules, ¬ r.weak <:+: Sample.unitFile) ∧
      ¬ afterCall true (afterCall false (afterCall false (Sample.unitFiles Sample.unitFile))) =
        Sample.unitFiles Sample.unitFile := by
  refine ⟨by decide +kernel, ?_⟩
  intro h
  have hpath := congrFun h (str "/usr/lib/systemd/system/polkit-agent-helper@.service")
  revert hpath
  decide +kernel

end PAMHelper

end PcbuDesktop
