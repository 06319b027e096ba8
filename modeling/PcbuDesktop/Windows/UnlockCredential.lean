import PcbuDesktop.Handler.Aggregate

set_option autoImplicit false

/-! # The unlock result in the Windows credential

`CUnlockCredential` (`win_pulseunlock/src/CUnlockCredential.cpp`) keeps the result of the last
listener with a sequence number. Listener threads publish a result and let it expire; the thread of
LogonUI reads the password in `GetSerialization`, packs it without the lock and then consumes the
result. One step is one critical section of `_mutex`; what runs between two sections of the same call
cannot be seen by another thread.

The events are the log of what took effect, the latest first. Sequence numbers are natural numbers
here. The code counts in 64 bits, so this is about runs in which fewer than 2^64 results are published.
-/

namespace PcbuDesktop

open Runs

namespace UnlockCredential

/-! ## The state -/

inductive Event where
  /-- `SetUnlockData` returned this number for a result with this state. -/
  | published (sequence : Nat) (state : UnlockState)
  /-- `ExpireUnlockSuccess` took effect. -/
  | expired (sequence : Nat)
  /-- `CommandLinkClicked` on the retry button. -/
  | retried
  /-- `ReportResult`. -/
  | reported
  /-- `GetSerialization` has copied the password of this result. -/
  | read (sequence : Nat)
  /-- `GetSerialization` returned the credential made from this result as finished. -/
  | submitted (sequence : Nat)
  /-- The credential of this result could not be packed, and the result was dropped. -/
  | dropped (sequence : Nat)
  deriving DecidableEq, Repr

/-- `GetSerialization` is between its two sections, with the sequence number of the result that the
password is from; a typed password has none. -/
inductive LogonUI where
  | idle
  | packing (source : Option Nat)
  deriving DecidableEq, Repr

structure CUnlockCredential where
  unlockResult : UnlockResult := {}
  unlockSequence : Nat := 0
  isAutoStartBlocked : Bool := false
  /-- `_rgFieldStrings[SFI_PASSWORD]`. -/
  passwordField : Str := []
  logonUI : LogonUI := .idle
  events : List Event := []
  deriving DecidableEq, Repr

/-- The critical sections. A listener passes the number that it got from `SetUnlockData`; any number
is allowed here. -/
inductive Step where
  | setUnlockData (thread : Nat) (result : UnlockResult) (isRunning : Option Bool)
  | isUnlockPending (thread : Nat) (sequence : Nat)
  | expireUnlockSuccess (thread : Nat) (sequence : Nat)
  | setSelected
  | setDeselected
  | setStringValue (text : Str)
  /-- The first section of `GetSerialization`; the password may not be convertible. -/
  | readPassword (converts : Bool)
  /-- The second one, with whether the credential could be packed. -/
  | finishSerialization (isFinished : Bool)
  | commandLinkClicked (isRetryButton : Bool)
  | reportResult (hasLogonFailed : Bool)
  deriving DecidableEq, Repr

/-! ## The sections -/

section

variable (isCredUI : Bool) (c : CUnlockCredential)

/-- `IsUnlockPending`, and the guard of the two sections below. -/
def isUnlockPending (sequence : Nat) : Bool :=
  sequence = c.unlockSequence && c.unlockResult.state = .success

/-- `SetUnlockData`: no number is given to a listener that has been stopped. -/
def setUnlockData (result : UnlockResult) (isRunning : Option Bool) : CUnlockCredential :=
  if isRunning = some false then c
  else { c with
    unlockResult := result
    unlockSequence := c.unlockSequence + 1
    events := .published (c.unlockSequence + 1) result.state :: c.events }

/-- `ExpireUnlockSuccess`. -/
def expireUnlockSuccess (sequence : Nat) : CUnlockCredential :=
  if isUnlockPending c sequence then
    { c with unlockResult := .ofState .timeout, events := .expired sequence :: c.events }
  else c

/-- `FinishUnlockSubmission`. -/
def finishUnlockSubmission (sequence : Nat) (isSubmitted : Bool) : CUnlockCredential :=
  if isUnlockPending c sequence then
    { c with
      unlockResult := if isSubmitted then {} else .ofState .unkError
      isAutoStartBlocked := isSubmitted && !isCredUI
      events := if isSubmitted then c.events else .dropped sequence :: c.events }
  else c

/-- The first section of `GetSerialization`. -/
def readPassword (converts : Bool) : CUnlockCredential :=
  if c.unlockResult.state = .success then
    if converts then
      { c with
        logonUI := .packing (some c.unlockSequence)
        events := .read c.unlockSequence :: c.events }
    else c
  else if c.passwordField ≠ [] then { c with logonUI := .packing none }
  else c

/-- The end of `GetSerialization`. -/
def finishSerialization (source : Option Nat) (isFinished : Bool) : CUnlockCredential :=
  match source with
  | none => { c with logonUI := .idle }
  | some sequence =>
      let c' := finishUnlockSubmission isCredUI c sequence isFinished
      { c' with
        logonUI := .idle
        events := if isFinished then .submitted sequence :: c'.events else c'.events }

/-- `CommandLinkClicked` on the retry button. -/
def retry : CUnlockCredential :=
  { c with unlockResult := {}, isAutoStartBlocked := false, events := .retried :: c.events }

/-- `ReportResult`. -/
def reportResult (hasLogonFailed : Bool) : CUnlockCredential :=
  let hasUnlockFailed := hasLogonFailed && c.isAutoStartBlocked
  { c with
    unlockResult := if hasUnlockFailed then .ofState .unkError else {}
    isAutoStartBlocked := hasUnlockFailed
    events := .reported :: c.events }

/-- The calls of LogonUI come from one thread: none begins while `GetSerialization` packs. -/
def whenIdle (c' : CUnlockCredential) : Option CUnlockCredential :=
  if c.logonUI = .idle then some c' else none

def step : Step → Option CUnlockCredential
  | .setUnlockData _ result isRunning => some (setUnlockData c result isRunning)
  | .isUnlockPending _ _ => some c
  | .expireUnlockSuccess _ sequence => some (expireUnlockSuccess c sequence)
  | .setSelected => whenIdle c c
  | .setDeselected => whenIdle c { c with passwordField := [] }
  | .setStringValue text => whenIdle c { c with passwordField := text }
  | .readPassword converts => whenIdle c (readPassword c converts)
  | .finishSerialization isFinished =>
      match c.logonUI with
      | .packing source => some (finishSerialization isCredUI c source isFinished)
      | .idle => none
  | .commandLinkClicked isRetryButton => whenIdle c (if isRetryButton then retry c else c)
  | .reportResult hasLogonFailed => whenIdle c (reportResult c hasLogonFailed)

end

/-! ## The log -/

/-- The last result that was published is the one with this number, a success, and since then it has
not expired, no retry or report came, and it has not been used. -/
def Pending (n : Nat) : List Event → Prop
  | [] => False
  | .published m state :: _ => m = n ∧ state = .success
  | .expired m :: events => m ≠ n ∧ Pending n events
  | .retried :: _ => False
  | .reported :: _ => False
  | .read _ :: events => Pending n events
  | .submitted m :: events => m ≠ n ∧ Pending n events
  | .dropped m :: events => m ≠ n ∧ Pending n events

/-- What a listener does. -/
def Event.FromListener : Event → Prop
  | .published _ _ => True
  | .expired _ => True
  | _ => False

/-- The password of this result was read while it was pending, and since then only listeners have done
something. -/
def ReadPending (n : Nat) (events : List Event) : Prop :=
  ∃ since before, events = since ++ .read n :: before ∧ (∀ e ∈ since, e.FromListener) ∧ Pending n before

/-- What holds of a credential at any time. -/
structure Inv (c : CUnlockCredential) : Prop where
  pending : c.unlockResult.state = .success →
    Pending c.unlockSequence c.events ∧ .submitted c.unlockSequence ∉ c.events
  packing : ∀ n, c.logonUI = .packing (some n) →
    ReadPending n c.events ∧ .submitted n ∉ c.events ∧ n ≤ c.unlockSequence
  known : ∀ n, .submitted n ∈ c.events → n ≤ c.unlockSequence
  once : ∀ n, c.events.count (.submitted n) ≤ 1
  valid : ∀ n newer older, c.events = newer ++ .submitted n :: older → ReadPending n older

section

variable {isCredUI : Bool} {c c' : CUnlockCredential}

theorem ReadPending.of_listener {n : Nat} {e : Event} {events : List Event} (h : ReadPending n events)
    (he : e.FromListener) : ReadPending n (e :: events) := by
  obtain ⟨since, before, rfl, hsince, hpending⟩ := h
  refine ⟨e :: since, before, rfl, ?_, hpending⟩
  intro e' he'
  rcases List.mem_cons.mp he' with rfl | he'
  · exact he
  · exact hsince e' he'

/-! ## Steps -/

/-- A section that logs an event, other than a submission. -/
theorem Inv.log (h : Inv c) {e : Event} (hevents : c'.events = e :: c.events)
    (he : ∀ n, e ≠ .submitted n) (hsequence : c.unlockSequence ≤ c'.unlockSequence)
    (hpending : c'.unlockResult.state = .success →
      Pending c'.unlockSequence (e :: c.events) ∧ .submitted c'.unlockSequence ∉ c.events)
    (hpacking : ∀ n, c'.logonUI = .packing (some n) →
      ReadPending n (e :: c.events) ∧ .submitted n ∉ c.events ∧ n ≤ c'.unlockSequence) : Inv c' := by
  have hmem : ∀ n, .submitted n ∈ e :: c.events ↔ .submitted n ∈ c.events := by
    intro n
    rw [List.mem_cons, or_iff_right (he n).symm]
  constructor
  · intro hsuccess
    rw [hevents, hmem]
    exact hpending hsuccess
  · intro n hn
    rw [hevents, hmem]
    exact hpacking n hn
  · intro n hn
    rw [hevents, hmem] at hn
    exact (h.known n hn).trans hsequence
  · intro n
    rw [hevents, List.count_cons_of_ne (he n)]
    exact h.once n
  · intro n newer older heq
    rw [hevents] at heq
    cases newer with
    | nil =>
        rw [List.nil_append] at heq
        exact absurd (List.cons.inj heq).1 (he n)
    | cons e' newer =>
        rw [List.cons_append] at heq
        exact h.valid n newer older (List.cons.inj heq).2

/-- A section that leaves the result and the log as they are. -/
theorem Inv.of_eq (h : Inv c) (hresult : c'.unlockResult = c.unlockResult)
    (hsequence : c'.unlockSequence = c.unlockSequence) (hevents : c'.events = c.events)
    (hpacking : ∀ n, c'.logonUI = .packing (some n) → c.logonUI = .packing (some n)) : Inv c' := by
  constructor
  · rw [hresult, hsequence, hevents]
    exact h.pending
  · intro n hn
    rw [hsequence, hevents]
    exact h.packing n (hpacking n hn)
  · rw [hsequence, hevents]
    exact h.known
  · rw [hevents]
    exact h.once
  · rw [hevents]
    exact h.valid

theorem Inv.setUnlockData (h : Inv c) (result : UnlockResult) (isRunning : Option Bool) :
    Inv (setUnlockData c result isRunning) := by
  unfold UnlockCredential.setUnlockData
  split
  · exact h
  · have hnew : .submitted (c.unlockSequence + 1) ∉ c.events := by
      intro hmem
      have hle := h.known _ hmem
      omega
    refine h.log rfl (fun n hn => by cases hn) (Nat.le_succ _) ?_ ?_
    · intro hsuccess
      exact ⟨⟨rfl, hsuccess⟩, hnew⟩
    · intro n hn
      obtain ⟨hread, hnot, hle⟩ := h.packing n hn
      exact ⟨hread.of_listener trivial, hnot, Nat.le_succ_of_le hle⟩

theorem Inv.expireUnlockSuccess (h : Inv c) (sequence : Nat) :
    Inv (expireUnlockSuccess c sequence) := by
  unfold UnlockCredential.expireUnlockSuccess
  split
  · refine h.log rfl (fun n hn => by cases hn) (Nat.le_refl _) ?_ ?_
    · intro hsuccess
      cases hsuccess
    · intro n hn
      obtain ⟨hread, hrest⟩ := h.packing n hn
      exact ⟨hread.of_listener trivial, hrest⟩
  · exact h

theorem Inv.readPassword (h : Inv c) (converts : Bool) :
    Inv (readPassword c converts) := by
  unfold UnlockCredential.readPassword
  split
  · rename_i hsuccess
    obtain ⟨hpending, hnot⟩ := h.pending hsuccess
    split
    · refine h.log rfl (fun n hn => by cases hn) (Nat.le_refl _) ?_ ?_
      · intro _
        exact ⟨hpending, hnot⟩
      · intro n hn
        cases hn
        exact ⟨⟨[], c.events, rfl, fun e he => absurd he List.not_mem_nil, hpending⟩, hnot, Nat.le_refl _⟩
    · exact h
  · split
    · refine h.of_eq rfl rfl rfl ?_
      intro n hn
      cases hn
    · exact h

/-- `FinishUnlockSubmission` without a submission. -/
theorem Inv.finishUnlockSubmission_false (h : Inv c) (sequence : Nat) :
    Inv { finishUnlockSubmission isCredUI c sequence false with logonUI := .idle } := by
  unfold UnlockCredential.finishUnlockSubmission
  split
  · refine h.log rfl (fun n hn => by cases hn) (Nat.le_refl _) ?_ ?_
    · intro hsuccess
      cases hsuccess
    · intro n hn
      cases hn
  · refine h.of_eq rfl rfl rfl ?_
    intro n hn
    cases hn

/-- After a submission the result with that number is no longer a success. -/
theorem finishUnlockSubmission_true (isCredUI : Bool) (c : CUnlockCredential) (sequence : Nat) :
    let c' := finishUnlockSubmission isCredUI c sequence true
    c'.events = c.events ∧ c'.unlockSequence = c.unlockSequence ∧
      (c'.unlockResult.state = .success →
        c.unlockResult.state = .success ∧ sequence ≠ c.unlockSequence) := by
  unfold UnlockCredential.finishUnlockSubmission isUnlockPending
  split
  · refine ⟨rfl, rfl, ?_⟩
    intro hsuccess
    cases hsuccess
  · rename_i hnot
    refine ⟨rfl, rfl, ?_⟩
    intro hsuccess
    refine ⟨hsuccess, ?_⟩
    intro heq
    exact hnot (by rw [Bool.and_eq_true, decide_eq_true_iff, decide_eq_true_iff]; exact ⟨heq, hsuccess⟩)

/-- A submission: the result was read while it was pending, and had not been submitted. -/
theorem Inv.submit (h : Inv c) {n : Nat} (hpacking : c.logonUI = .packing (some n)) :
    Inv { finishUnlockSubmission isCredUI c n true with
      logonUI := .idle
      events := .submitted n :: c.events } := by
  obtain ⟨hread, hnot, hle⟩ := h.packing n hpacking
  obtain ⟨-, hsequence, hsuccess'⟩ := finishUnlockSubmission_true isCredUI c n
  constructor
  · intro hsuccess
    show Pending (finishUnlockSubmission isCredUI c n true).unlockSequence _ ∧ _
    rw [hsequence]
    obtain ⟨hstate, hne⟩ := hsuccess' hsuccess
    obtain ⟨hpending, hfresh⟩ := h.pending hstate
    refine ⟨⟨hne, hpending⟩, ?_⟩
    intro hmem
    rcases List.mem_cons.mp hmem with heq | hmem
    · cases heq
      exact hne rfl
    · exact hfresh hmem
  · intro m hm
    cases hm
  · intro m hm
    show m ≤ (finishUnlockSubmission isCredUI c n true).unlockSequence
    rw [hsequence]
    rcases List.mem_cons.mp hm with heq | hm
    · cases heq
      exact hle
    · exact h.known m hm
  · intro m
    by_cases hm : m = n
    · subst hm
      show (Event.submitted m :: c.events).count (.submitted m) ≤ 1
      rw [List.count_cons_self, List.count_eq_zero_of_not_mem hnot]
    · show (Event.submitted n :: c.events).count (.submitted m) ≤ 1
      rw [List.count_cons_of_ne (fun heq => hm (Event.submitted.inj heq).symm)]
      exact h.once m
  · intro m newer older heq
    cases newer with
    | nil =>
        obtain ⟨hevent, rfl⟩ := List.cons.inj heq
        cases hevent
        exact hread
    | cons e newer => exact h.valid m newer older (List.cons.inj heq).2

theorem Inv.finishSerialization (h : Inv c) {source : Option Nat}
    (hpacking : c.logonUI = .packing source) (isFinished : Bool) :
    Inv (finishSerialization isCredUI c source isFinished) := by
  unfold UnlockCredential.finishSerialization
  cases source with
  | none =>
      refine h.of_eq rfl rfl rfl ?_
      intro n hn
      cases hn
  | some n =>
      cases isFinished with
      | false => exact h.finishUnlockSubmission_false n
      | true =>
          have hevents := (finishUnlockSubmission_true isCredUI c n).1
          simp only [if_true, hevents]
          exact h.submit hpacking

/-- A section that drops the result. -/
theorem Inv.reset (h : Inv c) {e : Event} (hevents : c'.events = e :: c.events)
    (he : ∀ n, e ≠ .submitted n) (hsequence : c'.unlockSequence = c.unlockSequence)
    (hstate : c'.unlockResult.state ≠ .success) (hidle : c'.logonUI = .idle) : Inv c' := by
  refine h.log hevents he (Nat.le_of_eq hsequence.symm) (fun hsuccess => absurd hsuccess hstate) ?_
  intro n hn
  rw [hidle] at hn
  cases hn

theorem whenIdle_eq_some {d : CUnlockCredential} (h : whenIdle c d = some c') :
    c.logonUI = .idle ∧ d = c' := by
  unfold whenIdle at h
  split at h
  · rename_i hlogon
    exact ⟨hlogon, Option.some.inj h⟩
  · cases h

theorem step_inv (c : CUnlockCredential) (l : Step) (c' : CUnlockCredential) (h : Inv c)
    (hstep : step isCredUI c l = some c') : Inv c' := by
  cases l with
  | setUnlockData thread result isRunning =>
      cases hstep
      exact h.setUnlockData result isRunning
  | isUnlockPending thread sequence =>
      cases hstep
      exact h
  | expireUnlockSuccess thread sequence =>
      cases hstep
      exact h.expireUnlockSuccess sequence
  | setSelected =>
      obtain ⟨-, rfl⟩ := whenIdle_eq_some hstep
      exact h
  | setDeselected =>
      obtain ⟨-, rfl⟩ := whenIdle_eq_some hstep
      exact h.of_eq rfl rfl rfl (fun n hn => hn)
  | setStringValue text =>
      obtain ⟨-, rfl⟩ := whenIdle_eq_some hstep
      exact h.of_eq rfl rfl rfl (fun n hn => hn)
  | readPassword converts =>
      obtain ⟨-, rfl⟩ := whenIdle_eq_some hstep
      exact h.readPassword converts
  | finishSerialization isFinished =>
      simp only [step] at hstep
      split at hstep
      · rename_i source hpacking
        cases hstep
        exact h.finishSerialization hpacking isFinished
      · cases hstep
  | commandLinkClicked isRetryButton =>
      obtain ⟨hlogon, rfl⟩ := whenIdle_eq_some hstep
      split
      · exact h.reset rfl (fun n hn => by cases hn) rfl (fun hsuccess => by cases hsuccess) hlogon
      · exact h
  | reportResult hasLogonFailed =>
      obtain ⟨hlogon, rfl⟩ := whenIdle_eq_some hstep
      refine h.reset rfl (fun n hn => by cases hn) rfl ?_ hlogon
      unfold UnlockCredential.reportResult
      simp only
      split
      · decide
      · decide

theorem init_inv : Inv {} where
  pending := by
    intro h
    cases h
  packing := by
    intro n h
    cases h
  known := by
    intro n h
    cases h
  once := fun n => Nat.zero_le _
  valid := by
    intro n newer older h
    cases newer <;> cases h

end

/-! ## Submitted once, and only while valid -/

/-- What a credential keeps: each result is submitted at most once; it was read by the same
`GetSerialization` while it was pending; and a section for an older number leaves the result of a newer
one as it is. -/
structure SubmittedWhileValid (isCredUI : Bool) (c : CUnlockCredential) : Prop where
  once : ∀ n, c.events.count (.submitted n) ≤ 1
  valid : ∀ n newer older, c.events = newer ++ .submitted n :: older → ReadPending n older
  expire_older : ∀ thread sequence, sequence < c.unlockSequence →
    step isCredUI c (.expireUnlockSuccess thread sequence) = some c
  finish_older : ∀ n isFinished c', c.logonUI = .packing (some n) → n < c.unlockSequence →
    step isCredUI c (.finishSerialization isFinished) = some c' →
    c'.unlockResult = c.unlockResult ∧ c'.unlockSequence = c.unlockSequence

theorem not_isUnlockPending_of_lt {c : CUnlockCredential} {sequence : Nat}
    (h : sequence < c.unlockSequence) : ¬ isUnlockPending c sequence = true := by
  unfold isUnlockPending
  rw [Bool.and_eq_true, decide_eq_true_iff]
  omega

/-- **A result is submitted at most once and only while valid**, in every interleaving of the sections
of the listeners and of LogonUI. -/
theorem submitted_while_valid (isCredUI : Bool) (steps : List Step) (c : CUnlockCredential)
    (h : exec (step isCredUI) {} steps = some c) : SubmittedWhileValid isCredUI c := by
  have hinv : Inv c := exec_inv step_inv init_inv h
  refine ⟨hinv.once, hinv.valid, ?_, ?_⟩
  · intro thread sequence hlt
    show some (expireUnlockSuccess c sequence) = some c
    unfold expireUnlockSuccess
    rw [if_neg (not_isUnlockPending_of_lt hlt)]
  · intro n isFinished c' hpacking hlt hstep
    simp only [step, hpacking] at hstep
    have hsame : finishUnlockSubmission isCredUI c n isFinished = c := by
      unfold finishUnlockSubmission
      rw [if_neg (not_isUnlockPending_of_lt hlt)]
    rw [← Option.some.inj hstep]
    unfold finishSerialization
    simp only [hsame]
    exact ⟨trivial, trivial⟩

end UnlockCredential

namespace Sample

open UnlockCredential

def phoneResult (password : Str) : UnlockResult := { state := .success, password := password }

/-- A second result arrives while the first one is packed; the first one's listener lets its number
expire afterwards. -/
def overtakenSteps : List Step :=
  [.setUnlockData 1 (phoneResult (str "a")) (some true), .readPassword true,
    .setUnlockData 2 (phoneResult (str "b")) (some true), .finishSerialization true,
    .expireUnlockSuccess 1 1, .readPassword true, .finishSerialization true, .readPassword true]

end Sample

namespace UnlockCredential

theorem submitted_while_valid_sample :
    ∃ c, exec (step false) {} Sample.overtakenSteps = some c ∧ SubmittedWhileValid false c ∧
      c.events = [.submitted 2, .read 2, .submitted 1, .published 2 .success, .read 1,
        .published 1 .success] := by
  obtain ⟨c, hc, hevents⟩ : ∃ c, exec (step false) {} Sample.overtakenSteps = some c ∧
      c.events = [.submitted 2, .read 2, .submitted 1, .published 2 .success, .read 1,
        .published 1 .success] := exec_of_test (by decide +kernel)
  exact ⟨c, hc, submitted_while_valid false _ c hc, hevents⟩

end UnlockCredential

end PcbuDesktop
