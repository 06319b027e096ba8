import Mathlib.Logic.Function.Basic

set_option autoImplicit false

/-! # Lists of shell commands

The and-or lists of the POSIX shell over any simple commands: `a && b`, `a || b`, `a; b`,
`{ a; }` and `exit`. What a simple command does is a parameter, which may leave several outcomes
open, and a run may be stopped in the middle of one. `wp` says what has to hold before a command
for all its outcomes to be as wanted; its rules are equivalences, one for each form of command.
-/

namespace ShellList

/-! ## Syntax -/

inductive Level where
  | element
  | andOr
  | list

/-- The grammar of the shell. `&&` and `||` bind equally and to the left, `;` binds less. -/
inductive Cmd (α ε : Type) : Level → Type
  | simple (a : α) : Cmd α ε .element
  | exit (e : ε) : Cmd α ε .element
  | group (body : Cmd α ε .list) : Cmd α ε .element
  | one (c : Cmd α ε .element) : Cmd α ε .andOr
  | and (a : Cmd α ε .andOr) (b : Cmd α ε .element) : Cmd α ε .andOr
  | or (a : Cmd α ε .andOr) (b : Cmd α ε .element) : Cmd α ε .andOr
  | first (a : Cmd α ε .andOr) : Cmd α ε .list
  | seq (a : Cmd α ε .list) (b : Cmd α ε .andOr) : Cmd α ε .list

/-- The text of a command, from the texts of its simple commands and of the arguments of `exit`,
the word `exit` included. -/
def Cmd.text {α ε τ : Type} (ofString : String → List τ) (simple : α → List τ) (exit : ε → List τ) :
    {l : Level} → Cmd α ε l → List τ
  | _, .simple a => simple a
  | _, .exit e => exit e
  | _, .group body => ofString "\x7b " ++ body.text ofString simple exit ++ ofString "; \x7d"
  | _, .one c => c.text ofString simple exit
  | _, .and a b => a.text ofString simple exit ++ ofString " && " ++ b.text ofString simple exit
  | _, .or a b => a.text ofString simple exit ++ ofString " || " ++ b.text ofString simple exit
  | _, .first a => a.text ofString simple exit
  | _, .seq a b => a.text ofString simple exit ++ ofString "; " ++ b.text ofString simple exit

/-! ## Meaning -/

/-- What the simple commands do. `$?` is the status of the command before. -/
structure Semantics (α ε σ : Type) where
  /-- run with this `$?` in this state, the command can end with this status in this state -/
  ends : α → Nat → σ → Nat → σ → Prop
  /-- the states in between -/
  passes : α → Nat → σ → σ → Prop
  exitStatus : ε → σ → Nat

inductive Ended (σ : Type) where
  /-- the command has ended with this status -/
  | done (status : Nat) (s : σ)
  /-- the shell has -/
  | exited (status : Nat) (s : σ)
  /-- the shell was stopped from outside -/
  | stopped (s : σ)

def Ended.state {σ : Type} : Ended σ → σ
  | .done _ s => s
  | .exited _ s => s
  | .stopped s => s

/-- The status, if there is one. -/
def Ended.status {σ : Type} : Ended σ → Option Nat
  | .done n _ => some n
  | .exited n _ => some n
  | .stopped _ => none

/-- The shell has not ended itself. -/
def Ended.GoesOn {σ : Type} : Ended σ → Prop
  | .exited _ _ => False
  | _ => True

section

variable {α ε σ : Type}

/-- After an outcome of the first command comes one of the second, if the first has ended. -/
def followedBy (first : Ended σ → Prop) (second : Nat → σ → Ended σ → Prop) (o : Ended σ) :
    Prop :=
  ∃ m, first m ∧ match m with
    | .done n s => second n s o
    | m => o = m

/-- The outcomes of a command. -/
def Outcomes (sem : Semantics α ε σ) : {l : Level} → Cmd α ε l → Nat → σ → Ended σ → Prop
  | _, .simple a, last, s, o => match o with
    | .done n s' => sem.ends a last s n s'
    | .exited _ _ => False
    | .stopped s' => sem.passes a last s s'
  | _, .exit e, _, s, o => o = .exited (sem.exitStatus e s) s
  | _, .group body, last, s, o => Outcomes sem body last s o
  | _, .one c, last, s, o => Outcomes sem c last s o
  | _, .and a b, last, s, o => followedBy (Outcomes sem a last s)
      (fun n s' o => if n = 0 then Outcomes sem b n s' o else o = .done n s') o
  | _, .or a b, last, s, o => followedBy (Outcomes sem a last s)
      (fun n s' o => if n = 0 then o = .done n s' else Outcomes sem b n s' o) o
  | _, .first a, last, s, o => Outcomes sem a last s o
  | _, .seq a b, last, s, o => followedBy (Outcomes sem a last s) (Outcomes sem b) o

/-! ## Runs put together -/

section

variable {sem : Semantics α ε σ} {last n : Nat} {s m : σ} {o : Ended σ}

theorem outcomes_and {a : Cmd α ε .andOr} {b : Cmd α ε .element}
    (ha : Outcomes sem a last s (.done 0 m)) (hb : Outcomes sem b 0 m o) :
    Outcomes sem (.and a b) last s o :=
  ⟨.done 0 m, ha, (if_pos rfl).mpr hb⟩

/-- The second command is for the failure of the first. -/
theorem outcomes_or {a : Cmd α ε .andOr} {b : Cmd α ε .element}
    (ha : Outcomes sem a last s (.done 0 m)) : Outcomes sem (.or a b) last s (.done 0 m) :=
  ⟨.done 0 m, ha, (if_pos rfl).mpr rfl⟩

theorem outcomes_seq {a : Cmd α ε .list} {b : Cmd α ε .andOr}
    (ha : Outcomes sem a last s (.done n m)) (hb : Outcomes sem b n m o) :
    Outcomes sem (.seq a b) last s o :=
  ⟨.done n m, ha, hb⟩

end

/-! ## Preconditions -/

/-- All outcomes are as wanted. -/
def wp (sem : Semantics α ε σ) {l : Level} (c : Cmd α ε l) (Q : Ended σ → Prop) (last : Nat)
    (s : σ) : Prop :=
  ∀ o, Outcomes sem c last s o → Q o

/-- `Q`, but `P` of the status and the state where the command has ended. -/
def Ended.ifDone (P : Nat → σ → Prop) (Q : Ended σ → Prop) : Ended σ → Prop
  | .done n s => P n s
  | o => Q o

variable {sem : Semantics α ε σ} {last : Nat} {s : σ} {Q : Ended σ → Prop}

theorem wp_mono {l : Level} {c : Cmd α ε l} {Q' : Ended σ → Prop} (h : wp sem c Q last s)
    (hQ : ∀ o, Q o → Q' o) : wp sem c Q' last s :=
  fun o ho => hQ o (h o ho)

@[simp] theorem wp_simple {a : α} : wp sem (.simple a) Q last s ↔
    (∀ n s', sem.ends a last s n s' → Q (.done n s')) ∧
      ∀ s', sem.passes a last s s' → Q (.stopped s') := by
  constructor
  · intro h
    exact ⟨fun n s' hends => h (.done n s') hends, fun s' hpasses => h (.stopped s') hpasses⟩
  · rintro ⟨hdone, hstopped⟩ o ho
    cases o with
    | done n s' => exact hdone n s' ho
    | exited n s' => exact ho.elim
    | stopped s' => exact hstopped s' ho

@[simp] theorem wp_exit {e : ε} :
    wp sem (.exit e) Q last s ↔ Q (.exited (sem.exitStatus e s) s) := by
  constructor
  · intro h
    exact h _ rfl
  · rintro h o rfl
    exact h

@[simp] theorem wp_group {body : Cmd α ε .list} :
    wp sem (.group body) Q last s ↔ wp sem body Q last s := Iff.rfl

@[simp] theorem wp_one {c : Cmd α ε .element} :
    wp sem (.one c) Q last s ↔ wp sem c Q last s := Iff.rfl

@[simp] theorem wp_first {a : Cmd α ε .andOr} :
    wp sem (.first a) Q last s ↔ wp sem a Q last s := Iff.rfl

/-- The rule behind those of the lists: the second command is asked for what is wanted in the
states in which the first one ends. -/
theorem followedBy_iff {first : Ended σ → Prop} {second : Nat → σ → Ended σ → Prop} :
    (∀ o, followedBy first second o → Q o) ↔
      ∀ m, first m → m.ifDone (fun n s => ∀ o, second n s o → Q o) Q := by
  constructor
  · intro h m hm
    cases m with
    | done n s => exact fun o ho => h o ⟨_, hm, ho⟩
    | exited n s => exact h _ ⟨_, hm, rfl⟩
    | stopped s => exact h _ ⟨_, hm, rfl⟩
  · rintro h o ⟨m, hm, ho⟩
    have hQ := h m hm
    cases m with
    | done n s => exact hQ o ho
    | exited n s => exact ho ▸ hQ
    | stopped s => exact ho ▸ hQ

@[simp] theorem wp_seq {a : Cmd α ε .list} {b : Cmd α ε .andOr} :
    wp sem (.seq a b) Q last s ↔
      wp sem a (Ended.ifDone (wp sem b Q) Q) last s :=
  followedBy_iff

@[simp] theorem wp_and {a : Cmd α ε .andOr} {b : Cmd α ε .element} :
    wp sem (.and a b) Q last s ↔ wp sem a
      (Ended.ifDone (fun n s' => if n = 0 then wp sem b Q n s' else Q (.done n s')) Q) last s := by
  refine followedBy_iff.trans (forall_congr' fun m => imp_congr_right fun _ => ?_)
  cases m with
  | done n s' =>
      show (∀ o, (if n = 0 then Outcomes sem b n s' o else o = .done n s') → Q o) ↔
        if n = 0 then wp sem b Q n s' else Q (.done n s')
      split
      · exact Iff.rfl
      · exact forall_eq
  | exited n s' => exact Iff.rfl
  | stopped s' => exact Iff.rfl

@[simp] theorem wp_or {a : Cmd α ε .andOr} {b : Cmd α ε .element} :
    wp sem (.or a b) Q last s ↔ wp sem a
      (Ended.ifDone (fun n s' => if n = 0 then Q (.done n s') else wp sem b Q n s') Q) last s := by
  refine followedBy_iff.trans (forall_congr' fun m => imp_congr_right fun _ => ?_)
  cases m with
  | done n s' =>
      show (∀ o, (if n = 0 then o = .done n s' else Outcomes sem b n s' o) → Q o) ↔
        if n = 0 then Q (.done n s') else wp sem b Q n s'
      split
      · exact forall_eq
      · exact Iff.rfl
  | exited n s' => exact Iff.rfl
  | stopped s' => exact Iff.rfl

/-! ## Chains and invariants -/

/-- `Q`, but `P` of the state where the command has ended with status zero. -/
def Ended.ifOk (P : σ → Prop) (Q : Ended σ → Prop) : Ended σ → Prop :=
  Ended.ifDone (fun n s => if n = 0 then P s else Q (.done n s)) Q

/-- One more command in a chain of `&&`: it finds what the chain before it has established. -/
theorem wp_and_ifOk {a : Cmd α ε .andOr} {b : Cmd α ε .element} {P R : σ → Prop}
    (ha : wp sem a (Ended.ifOk P Q) last s)
    (hb : ∀ s', P s' → wp sem b (Ended.ifOk R Q) 0 s') :
    wp sem (.and a b) (Ended.ifOk R Q) last s := by
  rw [wp_and]
  refine wp_mono ha ?_
  intro o ho
  cases o with
  | done n s' =>
      by_cases hn : n = 0
      · subst hn
        exact hb s' ho
      · have hQ : Q (.done n s') := (if_neg hn).mp ho
        show if n = 0 then _ else _
        rw [if_neg hn]
        exact (if_neg hn).mpr hQ
  | exited n s' => exact ho
  | stopped s' => exact ho

/-- `p` holds of every simple command in this one. -/
def Cmd.All (p : α → Prop) : {l : Level} → Cmd α ε l → Prop
  | _, .simple a => p a
  | _, .exit _ => True
  | _, .group body => body.All p
  | _, .one c => c.All p
  | _, .and a b => a.All p ∧ b.All p
  | _, .or a b => a.All p ∧ b.All p
  | _, .first a => a.All p
  | _, .seq a b => a.All p ∧ b.All p

/-- What every simple command keeps, however it ends and whenever it is stopped, the whole
command keeps. -/
theorem wp_invariant {J : σ → Prop} {p : α → Prop}
    (hstep : ∀ a, p a → ∀ last s, J s →
      (∀ n s', sem.ends a last s n s' → J s') ∧ ∀ s', sem.passes a last s s' → J s')
    {l : Level} (c : Cmd α ε l) (hc : c.All p) (last : Nat) {s : σ} (hs : J s) :
    wp sem c (fun o => J o.state) last s := by
  induction c generalizing last s with
  | simple a => exact wp_simple.mpr (hstep a hc last s hs)
  | exit e => exact wp_exit.mpr hs
  | group body ih => exact ih hc last hs
  | one c ih => exact ih hc last hs
  | first a ih => exact ih hc last hs
  | and a b iha ihb =>
      rw [wp_and]
      refine wp_mono (iha hc.1 last hs) ?_
      intro o ho
      cases o with
      | done n s' =>
          show if n = 0 then _ else _
          split
          · exact ihb hc.2 n ho
          · exact ho
      | exited n s' => exact ho
      | stopped s' => exact ho
  | or a b iha ihb =>
      rw [wp_or]
      refine wp_mono (iha hc.1 last hs) ?_
      intro o ho
      cases o with
      | done n s' =>
          show if n = 0 then _ else _
          split
          · exact ho
          · exact ihb hc.2 n ho
      | exited n s' => exact ho
      | stopped s' => exact ho
  | seq a b iha ihb =>
      rw [wp_seq]
      refine wp_mono (iha hc.1 last hs) ?_
      intro o ho
      cases o with
      | done n s' => exact ihb hc.2 n ho
      | exited n s' => exact ho
      | stopped s' => exact ho

end

end ShellList
