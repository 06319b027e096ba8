import Mathlib.Data.List.Chain
import PcbuDesktop.Lib.ShellLexer

set_option autoImplicit false

/-! # Texts in double quotes

In double quotes most bytes stand for themselves. A text there is read as it is exactly when nothing
in it begins or ends something (`Inert`) and its last byte does not take the meaning from the quote
behind it (`lex_doubleQuoted_iff`). That this is necessary is a matter of counting: every byte of a
text makes at most one byte of a word, so that one of them that makes none is missed in the end.
-/

namespace PcbuDesktop

namespace ShellLexer

/-! ## Reading -/

/-- In double quotes the byte `c` does not change the meaning of `d` behind it. -/
def Apart (sh : Dialect) (c d : UInt8) : Prop :=
  (c = backslash → isEscapable d = false ∧ d ≠ lineFeed) ∧
    (c = dollar → startsExpansion sh d = false)

instance (sh : Dialect) (c d : UInt8) : Decidable (Apart sh c d) :=
  inferInstanceAs (Decidable ((_ → _) ∧ (_ → _)))

/-- Nothing in the text begins an expansion, is escaped or ends the quotes. -/
structure Inert (sh : Dialect) (s : List UInt8) : Prop where
  noQuote : dquote ∉ s
  noBackquote : backquote ∉ s
  apart : s.IsChain (Apart sh)

instance (sh : Dialect) (s : List UInt8) : Decidable (Inert sh s) :=
  decidable_of_iff (dquote ∉ s ∧ backquote ∉ s ∧ s.IsChain (Apart sh))
    ⟨fun h => ⟨h.1, h.2.1, h.2.2⟩, fun h => ⟨h.noQuote, h.noBackquote, h.apart⟩⟩

variable {sh : Dialect}

theorem inert_append_iff {s t : List UInt8}
    (h : ∀ c ∈ s.getLast?, ∀ d ∈ t.head?, Apart sh c d) :
    Inert sh (s ++ t) ↔ Inert sh s ∧ Inert sh t := by
  constructor
  · rintro ⟨hquote, hback, hapart⟩
    obtain ⟨hs, ht, _⟩ := List.isChain_append.mp hapart
    exact ⟨⟨fun hmem => hquote (List.mem_append_left t hmem),
        fun hmem => hback (List.mem_append_left t hmem), hs⟩,
      ⟨fun hmem => hquote (List.mem_append_right s hmem),
        fun hmem => hback (List.mem_append_right s hmem), ht⟩⟩
  · rintro ⟨hs, ht⟩
    refine ⟨?_, ?_, List.isChain_append.mpr ⟨hs.apart, ht.apart, h⟩⟩
    · rw [List.mem_append]
      exact not_or.mpr ⟨hs.noQuote, ht.noQuote⟩
    · rw [List.mem_append]
      exact not_or.mpr ⟨hs.noBackquote, ht.noBackquote⟩

/-- A byte that waits for the next one. -/
def waits (c : UInt8) : Option UInt8 := if c = backslash ∨ c = dollar then some c else none

/-- The state in double quotes, with the byte that waits for the next one. -/
def inDouble (cmd : Command) : Option UInt8 → List Context
  | none => [.double, .command cmd]
  | some c => [if c = dollar then .dollar true else .escape true, .double, .command cmd]

/-- Neither the beginning of a word is at stake in the command nor a here-document. -/
structure Command.InWord (cmd : Command) : Prop where
  inWord : cmd.inWord = true
  angles : cmd.angles = 0
  here : cmd.here = none

theorem Command.InWord.add {cmd : Command} (h : cmd.InWord) (s : List UInt8) (quoted : Bool) :
    cmd.add s quoted = cmd := by
  obtain ⟨hword, hangles, hhere⟩ := h
  cases cmd with
  | mk substitution depth inWord angles here pending =>
      simp only at hword hangles hhere
      simp [Command.add, hword, hangles, hhere]

theorem Command.InWord.put_double {cmd : Command} (h : cmd.InWord) (c : UInt8) :
    put [.double, .command cmd] c true = ([.double, .command cmd], [.byte c true]) := by
  simp [put, h.add, Command.begins, h.inWord]

/-- A `$` in double quotes that begins no expansion stands for itself. -/
theorem step_dollar {c : UInt8} (h : startsExpansion sh c = false) (rest : List Context) :
    step sh (.dollar true :: rest) c =
      ((step sh rest c).1, (put rest dollar true).2 ++ (step sh rest c).2) := by
  simp only [startsExpansion, Bool.or_eq_false_iff, beq_eq_false_iff_ne] at h
  obtain ⟨⟨⟨⟨⟨⟨hparen, hbrace⟩, hbracket⟩, hname⟩, hdigit⟩, hspecial⟩, hflag⟩ := h
  rw [step, if_neg hparen, if_neg hbrace, if_neg hbracket, if_neg (by simp [hname]),
    if_neg (by simp [hdigit, hspecial]), if_neg (by simp [hflag]), if_neg (by simp),
    if_neg (by simp)]

/-- A quote behind a `$` ends or begins double quotes as it does without the `$`, but for `$"…"` of
bash. -/
theorem step_dollar_dquote {inDouble : Bool} (h : ¬ (inDouble = false ∧ sh = .bash))
    (rest : List Context) :
    step sh (.dollar inDouble :: rest) dquote =
      ((step sh rest dquote).1, (put rest dollar inDouble).2 ++ (step sh rest dquote).2) := by
  cases sh with
  | zsh => cases inDouble <;> rfl
  | bash =>
      cases inDouble with
      | true => rfl
      | false => exact absurd ⟨rfl, rfl⟩ h

/-- One byte that is read as it is: it is reported together with the one before it, or waits. -/
theorem step_inDouble {cmd : Command} (hcmd : cmd.InWord) {p : Option UInt8} {c : UInt8}
    (hp : p = none ∨ p = some backslash ∨ p = some dollar) (hapart : ∀ x ∈ p, Apart sh x c)
    (hquote : c ≠ dquote) (hback : c ≠ backquote) :
    step sh (inDouble cmd p) c = (inDouble cmd (waits c),
      quotedBytes (p.toList ++ if c = backslash ∨ c = dollar then [] else [c])) := by
  have hdouble : step sh [.double, .command cmd] c = (inDouble cmd (waits c),
      quotedBytes (if c = backslash ∨ c = dollar then [] else [c])) := by
    by_cases hslash : c = backslash
    · subst hslash
      rfl
    · by_cases hdollar : c = dollar
      · subst hdollar
        have hnot : isDelimiter [.command cmd] = false := by simp [isDelimiter, hcmd.here]
        rw [step, if_neg (by decide), if_neg (by decide), if_pos ⟨rfl, hnot⟩]
        rfl
      · simp [step, hquote, hback, hslash, hdollar, hcmd.put_double, inDouble, waits, quotedBytes]
  rcases hp with rfl | rfl | rfl
  · exact hdouble
  · obtain ⟨hescapable, hfeed⟩ := (hapart backslash rfl).1 rfl
    have hslash : c ≠ backslash := by
      rintro rfl
      cases hescapable
    have hdollar : c ≠ dollar := by
      rintro rfl
      cases hescapable
    show step sh [.escape true, .double, .command cmd] c = _
    simp [step, hfeed, hescapable, hcmd.put_double, waits, hslash, hdollar, inDouble, quotedBytes]
  · show step sh [.dollar true, .double, .command cmd] c = _
    rw [step_dollar ((hapart dollar rfl).2 rfl), hcmd.put_double, hdouble]
    rfl

/-- The byte that waits at the end of the text `s`, when `p` has waited at its beginning. -/
def lastWaiting (p : Option UInt8) : List UInt8 → Option UInt8
  | [] => p
  | c :: s => lastWaiting (waits c) s

theorem waits_cases (c : UInt8) :
    waits c = none ∨ waits c = some backslash ∨ waits c = some dollar := by
  unfold waits
  split
  next h =>
    rcases h with rfl | rfl
    · exact .inr (.inl rfl)
    · exact .inr (.inr rfl)
  · exact .inl rfl

theorem waits_toList (c : UInt8) :
    (if c = backslash ∨ c = dollar then [] else [c]) ++ (waits c).toList = [c] := by
  unfold waits
  split <;> rfl

/-- Only a byte that waits matters to the next one. -/
theorem apart_waits_iff (c : UInt8) (s : List UInt8) :
    ((waits c).toList ++ s).IsChain (Apart sh) ↔ (c :: s).IsChain (Apart sh) := by
  unfold waits
  split
  · rfl
  · rename_i hnot
    rw [List.isChain_cons]
    have hfree : ∀ d, Apart sh c d := fun d =>
      ⟨fun h => absurd (.inl h) hnot, fun h => absurd (.inr h) hnot⟩
    exact ⟨fun h => ⟨fun d _ => hfree d, h⟩, fun h => h.2⟩

/-- A text in which nothing begins or ends is read as it is. -/
theorem run_inDouble {cmd : Command} (hcmd : cmd.InWord) {p : Option UInt8} {s : List UInt8}
    (hp : p = none ∨ p = some backslash ∨ p = some dollar)
    (hapart : (p.toList ++ s).IsChain (Apart sh)) (hquote : dquote ∉ s) (hback : backquote ∉ s) :
    ∃ e, run sh (inDouble cmd p) s = (inDouble cmd (lastWaiting p s), quotedBytes e) ∧
      e ++ (lastWaiting p s).toList = p.toList ++ s := by
  induction s generalizing p with
  | nil => exact ⟨[], rfl, by simp [lastWaiting]⟩
  | cons c s ih =>
      have hfirst : ∀ x ∈ p, Apart sh x c := by
        intro x hx
        cases hx
        exact (List.isChain_cons_cons.mp hapart).1
      have hrest := (apart_waits_iff c s).mpr hapart.right_of_append
      have hstep := step_inDouble hcmd hp hfirst (fun h => hquote (h ▸ List.mem_cons_self))
        (fun h => hback (h ▸ List.mem_cons_self))
      obtain ⟨e, hrun, heq⟩ := ih (waits_cases c) hrest
        (fun h => hquote (List.mem_cons_of_mem _ h)) (fun h => hback (List.mem_cons_of_mem _ h))
      refine ⟨(p.toList ++ if c = backslash ∨ c = dollar then [] else [c]) ++ e, ?_, ?_⟩
      · rw [run_cons, hstep, hrun, ← quotedBytes_append]
        rfl
      · show _ ++ e ++ (lastWaiting (waits c) s).toList = _
        rw [List.append_assoc, heq, List.append_assoc, ← List.append_assoc _ _ s, waits_toList]
        rfl

/-! ## Counting -/

@[simp] def Event.isByte : Event → Bool
  | .byte _ _ => true
  | _ => false

@[simp] def Context.isWaiting : Context → Bool
  | .escape _ => true
  | .dollar _ => true
  | _ => false

/-- How many bytes of words are reported. -/
def byteCount (events : List Event) : Nat := events.countP Event.isByte

/-- How many bytes wait. -/
def owed (stack : List Context) : Nat := stack.countP Context.isWaiting

@[simp] theorem byteCount_nil : byteCount [] = 0 := rfl

@[simp] theorem byteCount_cons (event : Event) (events : List Event) :
    byteCount (event :: events) = byteCount events + if event.isByte then 1 else 0 :=
  List.countP_cons

@[simp] theorem byteCount_append (events events' : List Event) :
    byteCount (events ++ events') = byteCount events + byteCount events' := List.countP_append

@[simp] theorem owed_nil : owed [] = 0 := rfl

@[simp] theorem owed_cons (context : Context) (rest : List Context) :
    owed (context :: rest) = owed rest + if context.isWaiting then 1 else 0 := List.countP_cons

@[simp] theorem byteCount_begins (cmd : Command) : byteCount cmd.begins = 0 := by
  unfold Command.begins
  split <;> rfl

@[simp] theorem byteCount_ends (cmd : Command) : byteCount cmd.ends = 0 := by
  unfold Command.ends
  split <;> rfl

theorem byteCount_quotedBytes (s : List UInt8) : byteCount (quotedBytes s) = s.length := by
  induction s with
  | nil => rfl
  | cons c s ih =>
      show byteCount (.byte c true :: quotedBytes s) = _
      rw [byteCount_cons, ih]
      rfl

theorem put_count (stack : List Context) (c : UInt8) (quoted : Bool) :
    byteCount (put stack c quoted).2 ≤ 1 ∧ owed (put stack c quoted).1 = owed stack := by
  induction stack with
  | nil => exact ⟨Nat.zero_le 1, rfl⟩
  | cons context rest ih =>
      cases context with
      | command cmd => simp [put, Event.isByte, Context.isWaiting]
      | single => simpa [put, Context.isWaiting] using ih
      | double => simpa [put, Context.isWaiting] using ih
      | _ => exact ⟨Nat.zero_le 1, rfl⟩

/-- At most `n` bytes are reported or wait. -/
def Counted (n : Nat) (r : List Context × List Event) : Prop := byteCount r.2 + owed r.1 ≤ n

theorem Counted.mono {m n : Nat} {r : List Context × List Event} (h : Counted m r) (hmn : m ≤ n) :
    Counted n r := Nat.le_trans h hmn

theorem counted_put (stack : List Context) (c : UInt8) (quoted : Bool) :
    Counted (owed stack + 1) (put stack c quoted) := by
  have h := put_count stack c quoted
  unfold Counted
  omega

/-- No byte is reported. -/
theorem counted_of_owed {n : Nat} {stack : List Context} {events : List Event}
    (howed : owed stack ≤ n) (hevents : byteCount events = 0) : Counted n (stack, events) := by
  show byteCount events + owed stack ≤ n
  omega

theorem owed_nextLine (cmd : Command) (rest : List Context) :
    owed (cmd.nextLine rest) = owed rest := by
  unfold Command.nextLine
  split <;> simp

theorem counted_commandStep (cmd : Command) (rest : List Context) (c : UInt8) :
    Counted (owed rest + 1) (commandStep cmd rest c) := by
  unfold commandStep
  repeat' refine iteInduction (fun _ => ?_) (fun _ => ?_)
  all_goals
    first
    | exact counted_put (.command cmd :: rest) c false
    | exact counted_of_owed (by simp [owed_nextLine]) (by simp)

/-- One byte is read, and at most one is reported or begins to wait. -/
theorem counted_step (stack : List Context) (c : UInt8) :
    Counted (owed stack + 1) (step sh stack c) := by
  induction stack with
  | nil => exact Nat.zero_le _
  | cons context rest ih =>
      cases context with
      | command cmd => exact counted_commandStep cmd rest c
      | single =>
          unfold step
          refine iteInduction (fun _ => ?_) (fun _ => counted_put _ c true)
          exact counted_of_owed (by simp) rfl
      | double =>
          unfold step
          repeat' refine iteInduction (fun _ => ?_) (fun _ => ?_)
          all_goals
            first
            | exact counted_put _ c true
            | exact counted_of_owed (by simp) rfl
      | escape inDouble =>
          have hfirst := put_count rest backslash true
          have hsecond := put_count (put rest backslash true).1 c true
          unfold step
          refine iteInduction (fun _ => ?_) (fun _ => iteInduction (fun _ => ?_) (fun _ => ?_))
          · exact counted_of_owed (by simp; omega) rfl
          · exact (counted_put rest c true).mono (by simp)
          · simp only [Counted, byteCount_append, owed_cons, Context.isWaiting, if_true]
            omega
      | comment =>
          unfold step
          refine iteInduction (fun _ => by simpa using ih) (fun _ => ?_)
          exact counted_of_owed (by simp) rfl
      | dollar inDouble =>
          have hput := put_count rest dollar inDouble
          unfold Counted at ih
          unfold step
          repeat' refine iteInduction (fun _ => ?_) (fun _ => ?_)
          all_goals
            first
            | exact counted_of_owed (by simp; omega) rfl
            | simp only [Counted, byteCount_append, owed_cons, Context.isWaiting, if_true]
              omega
      | flags =>
          unfold step
          refine iteInduction (fun _ => ?_) (fun _ => iteInduction (fun _ => ?_) (fun _ =>
            iteInduction (fun _ => ?_) (fun _ => by simpa using ih)))
          all_goals exact counted_of_owed (by simp) rfl
      | name =>
          unfold step
          refine iteInduction (fun _ => ?_) (fun _ => by simpa using ih)
          exact counted_of_owed (by simp) rfl
      | paren =>
          have hcommand := counted_commandStep { substitution := true } rest c
          unfold step
          refine iteInduction (fun _ => ?_) (fun _ => ?_)
          · exact counted_of_owed (by simp) rfl
          · simpa [Counted] using hcommand
      | arithmetic brackets depth =>
          unfold step
          refine iteInduction (fun _ => ?_) (fun _ => iteInduction (fun _ => ?_) (fun _ => ?_))
          · exact counted_of_owed (by simp) rfl
          · exact counted_of_owed (by split <;> simp) rfl
          · repeat' refine iteInduction (fun _ => ?_) (fun _ => ?_)
            all_goals exact counted_of_owed (by simp) rfl
      | hereDoc docs line =>
          unfold step
          refine iteInduction (fun _ => ?_) (fun _ => ?_)
          · cases endLine docs line with
            | none => exact counted_of_owed (by simp) rfl
            | some next => exact counted_of_owed (by simp) rfl
          · exact counted_of_owed (by simp) rfl
      | _ =>
          unfold step
          repeat' refine iteInduction (fun _ => ?_) (fun _ => ?_)
          all_goals exact counted_of_owed (by simp) rfl

theorem counted_run (stack : List Context) (t : List UInt8) :
    Counted (owed stack + t.length) (run sh stack t) := by
  induction t generalizing stack with
  | nil => exact Nat.le_of_eq (Nat.zero_add _)
  | cons c t ih =>
      have hstep : Counted _ (step sh stack c) := counted_step stack c
      have hrest := ih (step sh stack c).1
      unfold Counted at hstep hrest ⊢
      rw [run_cons, List.length_cons]
      dsimp only
      rw [byteCount_append]
      omega

/-- At the end of the text no more is reported than what waits. -/
theorem finish_count {stack : List Context} {events : List Event} (h : finish stack = some events) :
    byteCount events ≤ owed stack := by
  fun_induction finish stack generalizing events with
  | case1 cmd hsubstitution => cases h
  | case2 cmd hsubstitution =>
      cases h
      exact Nat.le_of_eq (byteCount_ends cmd)
  | case3 rest ih => simpa using ih h
  | case4 rest ih => simpa using ih h
  | case5 rest ih => simpa using ih h
  | case6 docs line rest ih => simpa using ih h
  | case7 inDouble rest ih =>
      obtain ⟨last, hlast, rfl⟩ := Option.map_eq_some_iff.mp h
      have hput := put_count rest dollar inDouble
      have hle := ih hlast
      simp only [byteCount_append, owed_cons, Context.isWaiting, if_true]
      omega
  | case8 => cases h

/-- A quote that is the last byte of a text is no byte of a word itself, or the one in front of it
is none. -/
theorem finish_quote_count {stack : List Context} {events : List Event}
    (h : finish (step sh stack dquote).1 = some events) :
    byteCount (step sh stack dquote).2 + byteCount events ≤ owed stack := by
  induction stack generalizing events with
  | nil => cases h
  | cons context rest ih =>
      cases context with
      | command cmd => cases h
      | single => cases h
      | double =>
          show 0 + byteCount events ≤ owed rest
          rw [Nat.zero_add]
          exact finish_count h
      | ansi escaped => cases h
      | escape inDouble =>
          have hstep : step sh (.escape inDouble :: rest) dquote = put rest dquote true := by
            unfold step
            rw [if_neg (by decide), if_pos (.inr rfl)]
          rw [hstep] at h ⊢
          have hput := put_count rest dquote true
          have hle := finish_count h
          simp only [owed_cons, Context.isWaiting, if_true]
          omega
      | comment =>
          show 0 + byteCount events ≤ owed (.comment :: rest)
          rw [Nat.zero_add]
          exact finish_count h
      | dollar inDouble =>
          by_cases hquotes : inDouble = false ∧ sh = .bash
          · obtain ⟨rfl, rfl⟩ := hquotes
            cases h
          · rw [step_dollar_dquote hquotes] at h ⊢
            have hput := put_count rest dollar inDouble
            have hle := ih h
            simp only [byteCount_append, owed_cons, Context.isWaiting, if_true]
            omega
      | flags =>
          cases sh with
          | bash => exact ih h
          | zsh => exact ih h
      | name => exact ih h
      | paren => cases h
      | braces inDouble => cases h
      | arithmetic brackets depth => cases brackets <;> cases h
      | backquote escaped => cases h
      | hereDoc docs line =>
          show 0 + byteCount events ≤ owed (.hereDoc docs line :: rest)
          rw [Nat.zero_add]
          exact finish_count h

theorem owed_inDouble (cmd : Command) (p : Option UInt8) :
    owed (inDouble cmd p) = p.toList.length := by
  cases p with
  | none => rfl
  | some c =>
      show owed [if c = dollar then Context.dollar true else .escape true, _, _] = 1
      split <;> rfl

/-- Directly in double quotes, the end of the quotes and a backquote are no bytes of a word. -/
theorem counted_step_double {cmd : Command} (hcmd : cmd.InWord) {c : UInt8}
    (h : c = dquote ∨ c = backquote) : Counted 0 (step sh [.double, .command cmd] c) := by
  rcases h with rfl | rfl
  · exact counted_of_owed (Nat.le_refl 0) rfl
  · have hnot : isDelimiter [.command cmd] = false := by simp [isDelimiter, hcmd.here]
    rw [step, if_neg (by decide), if_neg (by decide), if_neg (fun h => absurd h.1 (by decide)),
      if_pos ⟨rfl, hnot⟩]
    exact counted_of_owed (Nat.le_refl 0) rfl

/-- The byte with which a `$` begins an expansion, and the `$`, are no bytes of a word. -/
theorem counted_step_dollar {c : UInt8} (h : startsExpansion sh c = true) (rest : List Context) :
    Counted (owed rest) (step sh (.dollar true :: rest) c) := by
  unfold step
  repeat' refine iteInduction (fun _ => ?_) (fun _ => ?_)
  case refine_2.refine_2.refine_2.refine_2.refine_2.refine_2.refine_2.refine_2
      hparen hbrace hbracket hname hrest hflag _ _ =>
    simp [startsExpansion, hparen, hbrace, hbracket, hname, not_or.mp hrest, hflag] at h
  all_goals exact counted_of_owed (by simp) rfl

/-- A byte that begins or ends something, or that is escaped, is lost. -/
theorem counted_step_inDouble {cmd : Command} (hcmd : cmd.InWord) {p : Option UInt8} {c : UInt8}
    (hp : p = none ∨ p = some backslash ∨ p = some dollar)
    (h : c = dquote ∨ c = backquote ∨ ∃ x ∈ p, ¬ Apart sh x c) :
    Counted (owed (inDouble cmd p)) (step sh (inDouble cmd p) c) := by
  rw [owed_inDouble]
  rcases hp with rfl | rfl | rfl
  · refine counted_step_double hcmd ?_
    rcases h with h | h | ⟨x, hx, _⟩
    · exact .inl h
    · exact .inr h
    · cases hx
  · have hspecial : c = lineFeed ∨ isEscapable c = true := by
      rcases h with rfl | rfl | ⟨x, hx, hapart⟩
      · exact .inr rfl
      · exact .inr rfl
      · cases hx
        by_contra hnot
        obtain ⟨hfeed, hescapable⟩ := not_or.mp hnot
        exact hapart ⟨fun _ => ⟨by simpa using hescapable, hfeed⟩, fun h => absurd h (by decide)⟩
    show Counted 1 (step sh [.escape true, .double, .command cmd] c)
    unfold step
    refine iteInduction (fun _ => ?_) (fun hfeed => ?_)
    · exact counted_of_owed (Nat.zero_le 1) rfl
    · rw [if_pos (.inr (hspecial.resolve_left hfeed))]
      exact counted_put _ c true
  · show Counted 1 (step sh [.dollar true, .double, .command cmd] c)
    cases hstarts : startsExpansion sh c with
    | true => exact (counted_step_dollar hstarts _).mono (Nat.zero_le 1)
    | false =>
        have hend : c = dquote ∨ c = backquote := by
          rcases h with h | h | ⟨x, hx, hapart⟩
          · exact .inl h
          · exact .inr h
          · cases hx
            exact absurd ⟨fun h => absurd h (by decide), fun _ => hstarts⟩ hapart
        have hdouble : Counted 0 (step sh _ c) := counted_step_double hcmd hend
        rw [step_dollar hstarts, hcmd.put_double]
        unfold Counted at hdouble ⊢
        simp only [List.cons_append, List.nil_append, byteCount_cons, Event.isByte, if_true]
        omega

/-- A text in double quotes of which no byte is lost is read as it is. -/
theorem inert_of_count {cmd : Command} (hcmd : cmd.InWord) {p : Option UInt8} {s : List UInt8}
    (hp : p = none ∨ p = some backslash ∨ p = some dollar)
    (h : owed (inDouble cmd p) + s.length ≤
      byteCount (run sh (inDouble cmd p) s).2 + owed (run sh (inDouble cmd p) s).1) :
    (p.toList ++ s).IsChain (Apart sh) ∧ dquote ∉ s ∧ backquote ∉ s := by
  induction s generalizing p with
  | nil =>
      refine ⟨?_, List.not_mem_nil, List.not_mem_nil⟩
      rcases hp with rfl | rfl | rfl
      · exact .nil
      · exact .singleton _
      · exact .singleton _
  | cons c s ih =>
      rw [run_cons, List.length_cons] at h
      dsimp only at h
      rw [byteCount_append] at h
      by_cases hbad : c = dquote ∨ c = backquote ∨ ∃ x ∈ p, ¬ Apart sh x c
      · have hlost := counted_step_inDouble hcmd hp hbad
        have hrest : Counted _ (run sh _ s) := counted_run (step sh (inDouble cmd p) c).1 s
        unfold Counted at hlost hrest
        omega
      · push Not at hbad
        obtain ⟨hquote, hback, hapart⟩ := hbad
        have hlength := congrArg List.length (waits_toList c)
        rw [step_inDouble hcmd hp hapart hquote hback, owed_inDouble] at h
        dsimp only at h
        rw [byteCount_quotedBytes, List.length_append] at h
        rw [List.length_append, List.length_singleton] at hlength
        obtain ⟨hchain, hquote', hback'⟩ := ih (waits_cases c) (by rw [owed_inDouble]; omega)
        have hcs := (apart_waits_iff c s).mp hchain
        refine ⟨?_, ?_, ?_⟩
        · cases p with
          | none => exact hcs
          | some x => exact List.isChain_cons_cons.mpr ⟨hapart x rfl, hcs⟩
        · exact List.not_mem_cons_of_ne_of_not_mem hquote.symm hquote'
        · exact List.not_mem_cons_of_ne_of_not_mem hback.symm hback'

theorem lastWaiting_concat (p : Option UInt8) (s : List UInt8) (c : UInt8) :
    lastWaiting p (s ++ [c]) = waits c := by
  induction s generalizing p with
  | nil => rfl
  | cons d s ih => exact ih (waits d)

theorem lastWaiting_eq_backslash_iff (s : List UInt8) :
    lastWaiting none s = some backslash ↔ s.getLast? = some backslash := by
  rcases List.eq_nil_or_concat s with rfl | ⟨s, c, rfl⟩
  · simp [lastWaiting]
  · rw [List.concat_eq_append, lastWaiting_concat, List.getLast?_concat]
    unfold waits
    split
    · rfl
    next hnot => simpa using fun h => hnot (.inl h)

/-- The quote behind a text that is read as it is. -/
theorem finish_inDouble {cmd : Command} (hcmd : cmd.InWord) (hsubst : cmd.substitution = false)
    {p : Option UInt8} (hp : p = none ∨ p = some backslash ∨ p = some dollar) :
    (finish (step sh (inDouble cmd p) dquote).1).map ((step sh (inDouble cmd p) dquote).2 ++ ·) =
      if p = some backslash then none else some (quotedBytes p.toList ++ [.wordEnd]) := by
  have hends : cmd.ends = [.wordEnd] := by rw [Command.ends, if_pos hcmd.inWord]
  have hfinish : finish [.command cmd] = some [.wordEnd] := by
    rw [finish, if_neg (by simp [hsubst]), hends]
  rcases hp with rfl | rfl | rfl
  · show (finish [.command cmd]).map _ = _
    rw [hfinish]
    rfl
  · show (finish (put [.double, .command cmd] dquote true).1).map _ = none
    rw [hcmd.put_double]
    rfl
  · show (finish (step sh [.dollar true, .double, .command cmd] dquote).1).map
      ((step sh [.dollar true, .double, .command cmd] dquote).2 ++ ·) = _
    rw [step_dollar_dquote (by simp), hcmd.put_double]
    show (finish [.command cmd]).map _ = _
    rw [hfinish]
    rfl

theorem lex_doubleQuoted {front : List UInt8} {cmd : Command} {events : List Event}
    (hfront : run sh start front = ([.double, .command cmd], events)) (hcmd : cmd.InWord)
    (hsubst : cmd.substitution = false) {s : List UInt8} (hs : Inert sh s) :
    lex sh (front ++ (s ++ [dquote])) =
      if s.getLast? = some backslash then none
      else some (events ++ (quotedBytes s ++ [.wordEnd])) := by
  obtain ⟨e, hrun, heq⟩ := run_inDouble hcmd (.inl rfl) hs.apart hs.noQuote hs.noBackquote
  have hwaiting : lastWaiting none s = none ∨ lastWaiting none s = some backslash ∨
      lastWaiting none s = some dollar := by
    rcases List.eq_nil_or_concat s with rfl | ⟨s, c, rfl⟩
    · exact .inl rfl
    · rw [List.concat_eq_append, lastWaiting_concat]
      exact waits_cases c
  have hfinish := @finish_inDouble sh _ hcmd hsubst _ hwaiting
  rw [lex_append hfront, run_append,
    show run sh [.double, .command cmd] s = (_, quotedBytes e) from hrun]
  show Option.map (fun last => events ++ (quotedBytes e ++
    ((step sh (inDouble cmd (lastWaiting none s)) dquote).2 ++ []) ++ last))
      (finish (step sh (inDouble cmd (lastWaiting none s)) dquote).1) = _
  rw [if_congr (lastWaiting_eq_backslash_iff s).symm rfl rfl, List.append_nil]
  have hbytes : quotedBytes e ++ quotedBytes (lastWaiting none s).toList = quotedBytes s := by
    rw [← quotedBytes_append, heq]
    rfl
  by_cases hlast : lastWaiting none s = some backslash
  · rw [if_pos hlast] at hfinish ⊢
    rw [Option.map_eq_none_iff.mp hfinish]
    rfl
  · rw [if_neg hlast] at hfinish ⊢
    obtain ⟨last, hfinal, hevents⟩ := Option.map_eq_some_iff.mp hfinish
    rw [hfinal, Option.map_some, List.append_assoc (quotedBytes e), hevents,
      ← List.append_assoc (quotedBytes e), hbytes]

theorem inert_of_lex {front : List UInt8} {cmd : Command} {events : List Event}
    (hfront : run sh start front = ([.double, .command cmd], events)) (hcmd : cmd.InWord)
    {s : List UInt8}
    (h : lex sh (front ++ (s ++ [dquote])) = some (events ++ (quotedBytes s ++ [.wordEnd]))) :
    Inert sh s := by
  rw [lex_append hfront, run_append] at h
  obtain ⟨last, hlast, heq⟩ := Option.map_eq_some_iff.mp h
  have hquote : byteCount (step sh (run sh [.double, .command cmd] s).1 dquote).2 + byteCount last ≤
      owed (run sh [.double, .command cmd] s).1 := finish_quote_count hlast
  have hcount := congrArg byteCount (List.append_cancel_left heq)
  simp only [run, byteCount_append, byteCount_quotedBytes, byteCount_nil, byteCount_cons,
    Event.isByte, Bool.false_eq_true, if_false, Nat.add_zero] at hcount
  have hall : owed (inDouble cmd none) + s.length ≤
      byteCount (run sh (inDouble cmd none) s).2 + owed (run sh (inDouble cmd none) s).1 := by
    rw [owed_inDouble]
    show 0 + s.length ≤ byteCount (run sh [.double, .command cmd] s).2 +
      owed (run sh [.double, .command cmd] s).1
    omega
  obtain ⟨hchain, hdquote, hback⟩ := inert_of_count hcmd (.inl rfl) hall
  exact ⟨hdquote, hback, hchain⟩

/-- **A text in double quotes is one word with every byte quoted exactly when nothing in it begins
or ends something and its last byte is no backslash.** -/
theorem lex_doubleQuoted_iff {front : List UInt8} {cmd : Command} {events : List Event}
    (hfront : run sh start front = ([.double, .command cmd], events)) (hcmd : cmd.InWord)
    (hsubst : cmd.substitution = false) (s : List UInt8) :
    lex sh (front ++ (s ++ [dquote])) = some (events ++ (quotedBytes s ++ [.wordEnd])) ↔
      Inert sh s ∧ s.getLast? ≠ some backslash := by
  constructor
  · intro h
    have hs := inert_of_lex hfront hcmd h
    refine ⟨hs, fun hlast => ?_⟩
    rw [lex_doubleQuoted hfront hcmd hsubst hs, if_pos hlast] at h
    cases h
  · rintro ⟨hs, hlast⟩
    rw [lex_doubleQuoted hfront hcmd hsubst hs, if_neg hlast]

end ShellLexer

end PcbuDesktop
