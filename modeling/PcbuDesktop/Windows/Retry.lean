import PcbuDesktop.Windows.UnlockListener

set_option autoImplicit false

/-! # The retry button and automatic starts

`CommandLinkClicked` resets the result in one section and stops the listener in a later one. The
listener's flag is still on in between, so its result can come after the reset. `FinishUnlockSubmission`
blocks automatic starts only if the result that was packed is still the one that is stored, which it is
not when its listener has let it expire in the meantime.

Both results here say that nothing else can go wrong: without a publication between the two sections a
retry starts clean, and with the block set at every submission no listener is started automatically
after it.
-/

namespace PcbuDesktop

open Runs

namespace UnlockListener

open UnlockCredential

/-! ## What holds of the threads -/

/-- The thread is in `SetUnlockData`, past the load of the flag. -/
def Writing (s : State) (i : Nat) : Prop := ∃ l r, s.listeners i = some l ∧ l.pc = .writing r

/-- The stored result is empty unless somebody has set it, and LogonUI sets no other than its error. -/
def SetBy (result : UnlockResult) : Option Origin → Prop
  | none => result = {}
  | some (.listener _) => True
  | some (.error _) => result = .ofState .unkError

/-- The flag of a listener is on only while LogonUI holds it; a number that a listener waits for is the
current one only if the result is its own. -/
structure Inv (s : State) : Prop where
  index : ∀ i l, s.listeners i = some l → i < s.started
  flag : ∀ i, isRunning s i = true → s.state = some i
  writing : ∀ i, Writing s i → s.mutex = some i
  waiting : ∀ i l n, s.listeners i = some l → l.pc = .waiting n → n ≤ s.credential.unlockSequence ∧
    (n = s.credential.unlockSequence → s.credential.unlockResult.state = .success →
      s.setBy = some (.listener i))
  origin : SetBy s.credential.unlockResult s.setBy
  blocked : s.credential.isAutoStartBlocked = true → ∃ i, s.submittedOf = some i

section

variable {s s' : State}

theorem isRunning_eq_true {i : Nat} :
    isRunning s i = true ↔ ∃ l, s.listeners i = some l ∧ l.isRunning = true := by
  unfold isRunning
  rw [Option.any_eq_true]

theorem not_writing_of_free (h : Inv s) (hfree : s.mutex = none) (i : Nat) : ¬ Writing s i := by
  intro hw
  have hmutex := h.writing i hw
  rw [hfree] at hmutex
  cases hmutex

theorem origin_of_success (h : Inv s) (hsuccess : s.credential.unlockResult.state = .success) :
    ∃ o, s.setBy = some o := by
  have horigin := h.origin
  cases ho : s.setBy with
  | none =>
      rw [ho] at horigin
      rw [show s.credential.unlockResult = {} from horigin] at hsuccess
      cases hsuccess
  | some o => exact ⟨o, rfl⟩

/-- A listener map in which every listener comes from an old one: no flag goes on, and no thread begins
to write or to wait. -/
def Quieter (old new : Nat → Option Listener) : Prop :=
  ∀ j l', new j = some l' → ∃ l, old j = some l ∧ (l'.isRunning = true → l.isRunning = true) ∧
    (l'.pc = l.pc ∨ l'.pc = .ending ∨ l'.pc = .failing ∨ l'.pc = .done)

theorem Quieter.running {ls : Nat → Option Listener} (h : Quieter s.listeners ls) {t : State}
    (ht : t.listeners = ls) {i : Nat} (hi : isRunning t i = true) : isRunning s i = true := by
  obtain ⟨l', hl', hon⟩ := isRunning_eq_true.mp hi
  rw [ht] at hl'
  obtain ⟨l, hl, hflag, -⟩ := h i l' hl'
  exact isRunning_eq_true.mpr ⟨l, hl, hflag hon⟩

theorem Quieter.writing {ls : Nat → Option Listener} (h : Quieter s.listeners ls) {t : State}
    (ht : t.listeners = ls) {i : Nat} (hi : Writing t i) : Writing s i := by
  obtain ⟨l', r, hl', hpc⟩ := hi
  rw [ht] at hl'
  obtain ⟨l, hl, -, hsame | hquiet⟩ := h i l' hl'
  · exact ⟨l, r, hl, hsame ▸ hpc⟩
  · rw [hpc] at hquiet
    rcases hquiet with hq | hq | hq <;> cases hq

theorem Quieter.waiting {ls : Nat → Option Listener} (h : Quieter s.listeners ls) {i n : Nat}
    {l' : Listener} (hl' : ls i = some l') (hpc : l'.pc = .waiting n) :
    ∃ l, s.listeners i = some l ∧ l.pc = .waiting n := by
  obtain ⟨l, hl, -, hsame | hquiet⟩ := h i l' hl'
  · exact ⟨l, hl, hsame ▸ hpc⟩
  · rw [hpc] at hquiet
    rcases hquiet with hq | hq | hq <;> cases hq

theorem quieter_setListener {i : Nat} {l l' : Listener} (hl : s.listeners i = some l)
    (hpc : l'.pc = .ending ∨ l'.pc = .failing ∨ l'.pc = .done)
    (hflag : l'.isRunning = true → l.isRunning = true) :
    Quieter s.listeners (setListener s i l').listeners := by
  intro j k hk
  rcases update_eq_some hk with ⟨rfl, heq⟩ | ⟨-, hold⟩
  · cases heq
    exact ⟨l, hl, hflag, Or.inr hpc⟩
  · exact ⟨k, hold, fun h => h, Or.inl rfl⟩

section

variable {t : State} {i j : Nat} {l l' : Listener}

theorem running_of_update (ht : t.listeners = Function.update s.listeners i (some l'))
    (hl : s.listeners i = some l) (hflag : l'.isRunning = true → l.isRunning = true)
    (hj : isRunning t j = true) : isRunning s j = true := by
  obtain ⟨k, hk, hon⟩ := isRunning_eq_true.mp hj
  rw [ht] at hk
  rcases update_eq_some hk with ⟨rfl, heq⟩ | ⟨-, hold⟩
  · cases heq
    exact isRunning_eq_true.mpr ⟨l, hl, hflag hon⟩
  · exact isRunning_eq_true.mpr ⟨k, hold, hon⟩

theorem writing_of_update (ht : t.listeners = Function.update s.listeners i (some l'))
    (hj : Writing t j) : (j = i ∧ ∃ r, l'.pc = .writing r) ∨ (j ≠ i ∧ Writing s j) := by
  obtain ⟨k, r, hk, hpc⟩ := hj
  rw [ht] at hk
  rcases update_eq_some hk with ⟨rfl, heq⟩ | ⟨hne, hold⟩
  · cases heq
    exact Or.inl ⟨rfl, r, hpc⟩
  · exact Or.inr ⟨hne, k, r, hold, hpc⟩

theorem Inv.index_of_update (h : Inv s) (ht : t.listeners = Function.update s.listeners i (some l'))
    (hl : s.listeners i = some l) {k : Listener} (hk : t.listeners j = some k) : j < s.started := by
  rw [ht] at hk
  rcases update_eq_some hk with ⟨rfl, -⟩ | ⟨-, hold⟩
  · exact h.index j l hl
  · exact h.index j k hold

end

/-- `Stop` turns the flag off that LogonUI holds, and lets go of it. -/
theorem stop_eq (s : State) : ∃ ls, stop s = { s with listeners := ls, state := none } ∧
    Quieter s.listeners ls ∧ ∀ i l, s.state = some i → ls i = some l → l.isRunning = false := by
  cases hstate : s.state with
  | none =>
      refine ⟨s.listeners, ?_, ?_, ?_⟩
      · unfold stop
        rw [hstate]
        simp only
        rw [← hstate]
      · exact fun j l hl => ⟨l, hl, fun h => h, Or.inl rfl⟩
      · intro i l hi
        cases hi
  | some i =>
      refine ⟨Function.update s.listeners i
        ((s.listeners i).map (fun l => { l with isRunning := false })), ?_, ?_, ?_⟩
      · unfold stop
        rw [hstate]
      · intro j l hl
        rcases update_eq_some hl with ⟨rfl, heq⟩ | ⟨-, hold⟩
        · obtain ⟨l₀, hl₀, rfl⟩ := Option.map_eq_some_iff.mp heq
          exact ⟨l₀, hl₀, fun h => absurd h Bool.false_ne_true, Or.inl rfl⟩
        · exact ⟨l, hold, fun h => h, Or.inl rfl⟩
      · intro j l hj hl
        cases hj
        rw [Function.update_self] at hl
        obtain ⟨l₀, -, rfl⟩ := Option.map_eq_some_iff.mp hl
        rfl

/-- `Start` does nothing, or starts the next thread; the flag that LogonUI held is off then. -/
theorem start_cases (s : State) (created : Bool) : start s created = s ∨
    start s created =
        { setListener s s.started {} with started := s.started + 1, state := some s.started } ∧
      ∀ i, s.state = some i → isRunning s i = false := by
  unfold start
  split
  · exact Or.inl rfl
  · rename_i hnot
    refine Or.inr ⟨rfl, ?_⟩
    intro i hi
    rw [hi, Option.any_some] at hnot
    by_contra hon
    rw [Bool.not_eq_false] at hon
    rw [hon] at hnot
    simp at hnot

/-! ## Steps -/

theorem Inv.quieter (h : Inv s) {ls : Nat → Option Listener} {state : Option Nat}
    (hls : Quieter s.listeners ls) (hstate : ∀ i l, ls i = some l → l.isRunning = true →
      s.state = some i → state = some i) :
    Inv { s with listeners := ls, state := state } where
  index := by
    intro i l hl
    obtain ⟨l₀, hl₀, -⟩ := hls i l hl
    exact h.index i l₀ hl₀
  flag := by
    intro i hi
    obtain ⟨l, hl, hon⟩ := isRunning_eq_true.mp hi
    exact hstate i l hl hon (h.flag i (hls.running rfl hi))
  writing := fun i hi => h.writing i (hls.writing rfl hi)
  waiting := by
    intro i l n hl hpc
    obtain ⟨l₀, hl₀, hpc₀⟩ := hls.waiting hl hpc
    exact h.waiting i l₀ n hl₀ hpc₀
  origin := h.origin
  blocked := h.blocked

/-- A section of LogonUI that changes the result only to another one than a success. -/
theorem Inv.logon (h : Inv s) {c : CUnlockCredential} {call : LogonCall} {setBy : Option Origin}
    {submittedOf retriedAt : Option Nat} {marks : List Mark}
    (hsequence : c.unlockSequence = s.credential.unlockSequence)
    (hsuccess : c.unlockResult.state = .success →
      s.credential.unlockResult.state = .success ∧ setBy = s.setBy)
    (horigin : SetBy c.unlockResult setBy)
    (hblocked : c.isAutoStartBlocked = true → ∃ i, submittedOf = some i) :
    Inv { s with
      credential := c, call := call, setBy := setBy, submittedOf := submittedOf
      retriedAt := retriedAt, marks := marks } where
  index := h.index
  flag := h.flag
  writing := h.writing
  waiting := by
    intro i l n hl hpc
    obtain ⟨hle, hown⟩ := h.waiting i l n hl hpc
    refine ⟨hle.trans (Nat.le_of_eq hsequence.symm), ?_⟩
    intro hn hstate
    obtain ⟨hstate', hsetBy⟩ := hsuccess hstate
    exact hsetBy.trans (hown (hn.trans hsequence) hstate')
  origin := horigin
  blocked := hblocked

theorem Inv.start (h : Inv s) (created : Bool) : Inv (start s created) := by
  rcases start_cases s created with heq | ⟨heq, hoff⟩
  · rw [heq]
    exact h
  · rw [heq]
    constructor
    · intro i l hl
      rcases update_eq_some hl with ⟨rfl, -⟩ | ⟨-, hold⟩
      · exact Nat.lt_succ_self _
      · exact Nat.lt_succ_of_lt (h.index i l hold)
    · intro i hi
      obtain ⟨l, hl, hon⟩ := isRunning_eq_true.mp hi
      rcases update_eq_some hl with ⟨rfl, -⟩ | ⟨-, hold⟩
      · rfl
      · have hrunning : isRunning s i = true := isRunning_eq_true.mpr ⟨l, hold, hon⟩
        rw [hoff i (h.flag i hrunning)] at hrunning
        cases hrunning
    · rintro i ⟨l, r, hl, hpc⟩
      rcases update_eq_some hl with ⟨rfl, heq⟩ | ⟨-, hold⟩
      · cases heq
        cases hpc
      · exact h.writing i ⟨l, r, hold, hpc⟩
    · intro i l n hl hpc
      rcases update_eq_some hl with ⟨rfl, heq⟩ | ⟨-, hold⟩
      · cases heq
        cases hpc
      · exact h.waiting i l n hold hpc
    · exact h.origin
    · exact h.blocked

theorem Inv.stop (h : Inv s) : Inv (stop s) := by
  obtain ⟨ls, heq, hls, hoff⟩ := stop_eq s
  rw [heq]
  refine h.quieter hls ?_
  intro i l hl hon hi
  rw [hoff i l hi hl] at hon
  cases hon

theorem success_of_pending {c : CUnlockCredential} {n : Nat} (h : isUnlockPending c n = true) :
    c.unlockResult.state = .success := by
  unfold isUnlockPending at h
  rw [Bool.and_eq_true, decide_eq_true_iff, decide_eq_true_iff] at h
  exact h.2

theorem Inv.listenMove (h : Inv s) {i : Nat} {l : Listener} {a : ListenStep}
    (hl : s.listeners i = some l) (hmove : ListenMove s i l a s') : Inv s' := by
  cases hmove with
  | enter result hfree hon hpc =>
      constructor
      · exact fun j k hk => h.index_of_update rfl hl hk
      · intro j hj
        refine h.flag j (running_of_update rfl hl ?_ hj)
        exact fun hflag => hflag
      · intro j hj
        rcases writing_of_update rfl hj with ⟨rfl, -⟩ | ⟨-, hold⟩
        · rfl
        · exact absurd hold (not_writing_of_free h hfree j)
      · intro j k n hk hkpc
        rcases update_eq_some hk with ⟨rfl, heq⟩ | ⟨-, hold⟩
        · cases heq
          cases hkpc
        · exact h.waiting j k n hold hkpc
      · exact h.origin
      · exact h.blocked
  | publish result hpc =>
      have hmutex := h.writing i ⟨l, result, hl, hpc⟩
      constructor
      · exact fun j k hk => h.index_of_update rfl hl hk
      · intro j hj
        refine h.flag j (running_of_update rfl hl ?_ hj)
        exact fun hflag => hflag
      · -- only one thread was in the section
        intro j hj
        rcases writing_of_update rfl hj with ⟨-, r, hkpc⟩ | ⟨hne, hold⟩
        · simp only at hkpc
          split at hkpc <;> cases hkpc
        · have hj := h.writing j hold
          rw [hmutex] at hj
          cases hj
          exact absurd rfl hne
      · intro j k n hk hkpc
        rcases update_eq_some hk with ⟨rfl, heq⟩ | ⟨-, hold⟩
        · cases heq
          simp only at hkpc
          split at hkpc
          · cases hkpc
            exact ⟨Nat.le_refl _, fun _ _ => rfl⟩
          · cases hkpc
        · obtain ⟨hle, -⟩ := h.waiting j k n hold hkpc
          refine ⟨Nat.le_succ_of_le hle, ?_⟩
          intro hn
          exact absurd hn (Nat.ne_of_lt (Nat.lt_succ_of_le hle))
      · exact trivial
      · exact h.blocked
  | expire sequence hpc hfree =>
      have hinv : Inv (setListener s i { l with pc := .ending }) := by
        refine h.quieter (quieter_setListener hl (Or.inl rfl) (fun hon => hon)) ?_
        exact fun _ _ _ _ hstate => hstate
      unfold expireUnlockSuccess
      by_cases hpending : isUnlockPending s.credential sequence = true
      · rw [if_pos hpending, if_pos hpending]
        refine hinv.logon rfl ?_ trivial h.blocked
        intro hsuccess
        cases hsuccess
      · rw [if_neg hpending, if_neg hpending]
        exact hinv
  | quiet a l' hpc hpc' hflag =>
      exact h.quieter (quieter_setListener hl hpc' hflag) (fun _ _ _ _ hstate => hstate)

theorem Inv.logonMove (h : Inv s) {isCredUI : Bool} {a : LogonStep}
    (hmove : LogonMove isCredUI s a s') : Inv s' := by
  cases hmove with
  | setSelected hcall hfree hstart => exact h.logon rfl (fun hs => ⟨hs, rfl⟩) h.origin h.blocked
  | startSelected created hcall =>
      exact (h.start created).logon rfl (fun hs => ⟨hs, rfl⟩) (h.start created).origin
        (h.start created).blocked
  | setDeselected hcall =>
      exact h.stop.logon rfl (fun hs => ⟨hs, rfl⟩) h.stop.origin h.stop.blocked
  | typed a c hcall hresult hsequence hblocked =>
      refine h.logon hsequence (fun hs => ⟨hresult ▸ hs, rfl⟩) ?_ ?_
      · rw [hresult]
        exact h.origin
      · rw [hblocked]
        exact h.blocked
  | finish sequence isFinished hcall hfree hpacking =>
      by_cases hpending : isUnlockPending s.credential sequence = true
      · obtain ⟨hresult, hsequence, hblocked⟩ :=
          finishSerialization_pending isCredUI isFinished hpending
        obtain ⟨o, ho⟩ := origin_of_success h (success_of_pending hpending)
        refine h.logon hsequence ?_ ?_ ?_
        · intro hsuccess
          rw [hresult] at hsuccess
          cases isFinished <;> cases hsuccess
        · rw [hresult, if_pos hpending, ho]
          cases isFinished with
          | true => exact rfl
          | false => exact rfl
        · intro hon
          rw [hblocked, Bool.and_eq_true] at hon
          rw [hpending, hon.1, ho]
          exact ⟨_, rfl⟩
      · obtain ⟨hresult, hsequence, hblocked⟩ :=
          finishSerialization_not_pending isCredUI isFinished hpending
        refine h.logon hsequence ?_ ?_ ?_
        · intro hsuccess
          exact ⟨hresult ▸ hsuccess, if_neg hpending⟩
        · rw [hresult, if_neg hpending]
          exact h.origin
        · intro hon
          rw [Bool.not_eq_true] at hpending
          rw [hpending, Bool.false_and]
          exact h.blocked (hblocked ▸ hon)
  | retry hcall hfree =>
      refine h.logon rfl ?_ rfl ?_
      · intro hsuccess
        cases hsuccess
      · intro hblocked
        cases hblocked
  | retryStop hcall =>
      exact h.stop.logon rfl (fun hs => ⟨hs, rfl⟩) h.stop.origin h.stop.blocked
  | retryStart created hcall =>
      exact (h.start created).logon rfl (fun hs => ⟨hs, rfl⟩) (h.start created).origin
        (h.start created).blocked
  | report hasLogonFailed hcall =>
      refine h.logon rfl ?_ ?_ ?_
      · intro hsuccess
        unfold reportResult at hsuccess
        simp only at hsuccess
        split at hsuccess <;> cases hsuccess
      · unfold reportResult
        simp only
        by_cases hfailed : (hasLogonFailed && s.credential.isAutoStartBlocked) = true
        · obtain ⟨i, hi⟩ := h.blocked (Bool.and_eq_true_iff.mp hfailed).2
          rw [if_pos hfailed, if_pos hfailed, hi]
          exact rfl
        · rw [if_neg hfailed, if_neg hfailed]
          exact rfl
      · intro hon
        exact h.blocked (Bool.and_eq_true_iff.mp hon).2
  | shutdown hcall =>
      have hstop := h.stop
      exact ⟨hstop.index, hstop.flag, hstop.writing, hstop.waiting, hstop.origin, hstop.blocked⟩

/-! ## A retry starts clean -/

/-- No listener whose flag is on enters `SetUnlockData` between the two sections of
`CommandLinkClicked`. -/
def BetweenSections (s : State) : Step → Prop
  | .listener i (.setUnlockData _) => s.call = .retryStop → isRunning s i = false
  | _ => True

/-- All that can still have an effect comes from the listener with number `k` or a later one. -/
structure SinceRetry (s : State) (k : Nat) : Prop where
  le_started : k ≤ s.started
  running : ∀ i, isRunning s i = true → k ≤ i
  writing : ∀ i, Writing s i → k ≤ i
  setBy : ∀ o, s.setBy = some o → k ≤ o.of
  submitted : s.credential.isAutoStartBlocked = true → ∀ i, s.submittedOf = some i → k ≤ i

structure RetryInv (s : State) : Prop where
  inv : Inv s
  resetting : s.call = .retryStop ∨ s.call = .retryStart → s.credential.unlockResult = {} ∧
    s.setBy = none ∧ s.credential.isAutoStartBlocked = false ∧ s.mutex = none
  stopped : s.call = .retryStart → s.state = none
  since : ∀ k, s.retriedAt = some k → SinceRetry s k

theorem RetryInv.not_writing (h : RetryInv s) {i : Nat} (hi : Writing s i) :
    s.call ≠ .retryStop ∧ s.call ≠ .retryStart := by
  constructor
  · intro hcall
    exact not_writing_of_free h.inv (h.resetting (Or.inl hcall)).2.2.2 i hi
  · intro hcall
    exact not_writing_of_free h.inv (h.resetting (Or.inr hcall)).2.2.2 i hi

/-- A change of the listeners by which no flag goes on and no thread begins to write. -/
theorem SinceRetry.of_quieter {k : Nat} (h : SinceRetry s k) {t : State}
    (hls : Quieter s.listeners t.listeners) (hstarted : t.started = s.started)
    (hsetBy : ∀ o, t.setBy = some o → k ≤ o.of)
    (hsubmitted : t.credential.isAutoStartBlocked = true → ∀ i, t.submittedOf = some i → k ≤ i) :
    SinceRetry t k where
  le_started := h.le_started.trans (Nat.le_of_eq hstarted.symm)
  running := fun i hi => h.running i (hls.running rfl hi)
  writing := fun i hi => h.writing i (hls.writing rfl hi)
  setBy := hsetBy
  submitted := hsubmitted

theorem Quieter.refl (ls : Nat → Option Listener) : Quieter ls ls :=
  fun _ l hl => ⟨l, hl, fun h => h, Or.inl rfl⟩

theorem SinceRetry.start {k : Nat} (h : SinceRetry s k) (created : Bool) :
    SinceRetry (start s created) k := by
  rcases start_cases s created with heq | ⟨heq, -⟩
  · rw [heq]
    exact h
  · rw [heq]
    constructor
    · exact Nat.le_succ_of_le h.le_started
    · intro i hi
      obtain ⟨l, hl, hon⟩ := isRunning_eq_true.mp hi
      rcases update_eq_some hl with ⟨rfl, -⟩ | ⟨-, hold⟩
      · exact h.le_started
      · exact h.running i (isRunning_eq_true.mpr ⟨l, hold, hon⟩)
    · rintro i ⟨l, r, hl, hpc⟩
      rcases update_eq_some hl with ⟨rfl, -⟩ | ⟨-, hold⟩
      · exact h.le_started
      · exact h.writing i ⟨l, r, hold, hpc⟩
    · exact h.setBy
    · exact h.submitted

theorem RetryInv.listenMove (h : RetryInv s) {i : Nat} {l : Listener} {a : ListenStep}
    (hcond : BetweenSections s (.listener i a)) (hl : s.listeners i = some l)
    (hmove : ListenMove s i l a s') : RetryInv s' := by
  have hinv := h.inv.listenMove hl hmove
  cases hmove with
  | enter result hfree hon hpc =>
      have hrunning : isRunning s i = true := isRunning_eq_true.mpr ⟨l, hl, hon⟩
      have hcall : ¬ (s.call = .retryStop ∨ s.call = .retryStart) := by
        rintro (hcall | hcall)
        · rw [hcond hcall] at hrunning
          cases hrunning
        · -- `Stop` has taken the flag of the only listener that had it
          have hstate := h.inv.flag i hrunning
          rw [h.stopped hcall] at hstate
          cases hstate
      refine ⟨hinv, fun hc => absurd hc hcall, h.stopped, ?_⟩
      intro k hk
      have hsince := h.since k hk
      refine ⟨hsince.le_started, ?_, ?_, hsince.setBy, hsince.submitted⟩
      · intro j hj
        refine hsince.running j (running_of_update rfl hl ?_ hj)
        exact fun hflag => hflag
      · intro j hj
        rcases writing_of_update rfl hj with ⟨rfl, -⟩ | ⟨-, hold⟩
        · exact hsince.running j hrunning
        · exact hsince.writing j hold
  | publish result hpc =>
      have hwriting : Writing s i := ⟨l, result, hl, hpc⟩
      obtain ⟨hstop, hstart⟩ := h.not_writing hwriting
      refine ⟨hinv, ?_, h.stopped, ?_⟩
      · rintro (hc | hc)
        · exact absurd hc hstop
        · exact absurd hc hstart
      · intro k hk
        have hsince := h.since k hk
        refine ⟨hsince.le_started, ?_, ?_, ?_, hsince.submitted⟩
        · intro j hj
          refine hsince.running j (running_of_update rfl hl ?_ hj)
          exact fun hflag => hflag
        · intro j hj
          rcases writing_of_update rfl hj with ⟨rfl, -⟩ | ⟨-, hold⟩
          · exact hsince.writing j hwriting
          · exact hsince.writing j hold
        · intro o ho
          cases ho
          exact hsince.writing i hwriting
  | expire sequence hpc hfree =>
      have hls : Quieter s.listeners (setListener s i { l with pc := .ending }).listeners :=
        quieter_setListener hl (Or.inl rfl) (fun hon => hon)
      by_cases hpending : isUnlockPending s.credential sequence = true
      · have hsuccess := success_of_pending hpending
        refine ⟨hinv, ?_, h.stopped, ?_⟩
        · intro hc
          rw [(h.resetting hc).1] at hsuccess
          cases hsuccess
        · intro k hk
          have hsince := h.since k hk
          refine hsince.of_quieter hls rfl ?_ ?_
          · intro o ho
            rw [if_pos hpending] at ho
            cases ho
            -- the number was the listener's own
            have hown := (h.inv.waiting i l sequence hl hpc).2
            unfold isUnlockPending at hpending
            rw [Bool.and_eq_true, decide_eq_true_iff] at hpending
            exact hsince.setBy _ (hown hpending.1 hsuccess)
          · unfold expireUnlockSuccess
            rw [if_pos hpending]
            exact hsince.submitted
      · have hsame : expireUnlockSuccess s.credential sequence = s.credential := by
          unfold expireUnlockSuccess
          rw [if_neg hpending]
        rw [hsame, if_neg hpending] at hinv ⊢
        refine ⟨hinv, h.resetting, h.stopped, ?_⟩
        intro k hk
        exact (h.since k hk).of_quieter hls rfl (h.since k hk).setBy (h.since k hk).submitted
  | quiet a l' hpc hpc' hflag =>
      refine ⟨hinv, h.resetting, h.stopped, ?_⟩
      intro k hk
      exact (h.since k hk).of_quieter (quieter_setListener hl hpc' hflag) rfl (h.since k hk).setBy
        (h.since k hk).submitted

theorem SinceRetry.stop {k : Nat} (h : SinceRetry s k) : SinceRetry (stop s) k := by
  obtain ⟨ls, heq, hls, -⟩ := stop_eq s
  rw [heq]
  exact h.of_quieter hls rfl h.setBy h.submitted

/-- A section of LogonUI that starts and stops nothing. -/
theorem SinceRetry.logon {k : Nat} (h : SinceRetry s k) {c : CUnlockCredential} {call : LogonCall}
    {setBy : Option Origin} {submittedOf retriedAt : Option Nat} {marks : List Mark}
    (hsetBy : ∀ o, setBy = some o → k ≤ o.of)
    (hsubmitted : c.isAutoStartBlocked = true → ∀ i, submittedOf = some i → k ≤ i) :
    SinceRetry { s with
      credential := c, call := call, setBy := setBy, submittedOf := submittedOf
      retriedAt := retriedAt, marks := marks } k :=
  h.of_quieter (Quieter.refl _) rfl hsetBy hsubmitted

/-- When the retry button has stopped the listener, nothing is left that could have an effect. -/
theorem RetryInv.since_retryStart (h : RetryInv s) (hcall : s.call = .retryStart) :
    SinceRetry s s.started := by
  obtain ⟨-, hsetBy, hblocked, hfree⟩ := h.resetting (Or.inr hcall)
  constructor
  · exact Nat.le_refl _
  · intro i hi
    have hstate := h.inv.flag i hi
    rw [h.stopped hcall] at hstate
    cases hstate
  · exact fun i hi => absurd hi (not_writing_of_free h.inv hfree i)
  · intro o ho
    rw [hsetBy] at ho
    cases ho
  · intro hon
    rw [hblocked] at hon
    cases hon

theorem SinceRetry.finish {k : Nat} (h : SinceRetry s k) (isCredUI : Bool) (sequence : Nat)
    (isFinished : Bool) : SinceRetry (finish s isCredUI (some sequence) isFinished) k := by
  by_cases hpending : isUnlockPending s.credential sequence = true
  · obtain ⟨-, -, hblocked⟩ := finishSerialization_pending isCredUI isFinished hpending
    refine h.logon ?_ ?_
    · intro o ho
      rw [if_pos hpending] at ho
      cases isFinished with
      | true => cases ho
      | false =>
          obtain ⟨o', ho', rfl⟩ := Option.map_eq_some_iff.mp ho
          exact h.setBy o' ho'
    · intro hon i hi
      rw [hblocked, Bool.and_eq_true] at hon
      rw [hpending, hon.1] at hi
      obtain ⟨o', ho', rfl⟩ := Option.map_eq_some_iff.mp hi
      exact h.setBy o' ho'
  · obtain ⟨-, -, hblocked⟩ := finishSerialization_not_pending isCredUI isFinished hpending
    refine h.logon ?_ ?_
    · rw [if_neg hpending]
      exact h.setBy
    · rw [hblocked]
      rw [Bool.not_eq_true] at hpending
      rw [hpending, Bool.false_and]
      exact h.submitted

theorem SinceRetry.report {k : Nat} (h : SinceRetry s k) (hasLogonFailed : Bool) :
    SinceRetry (report s hasLogonFailed) k := by
  refine h.logon ?_ ?_
  · intro o ho
    split at ho
    · rename_i hfailed
      obtain ⟨i, hi, rfl⟩ := Option.map_eq_some_iff.mp ho
      exact h.submitted (Bool.and_eq_true_iff.mp hfailed).2 i hi
    · cases ho
  · intro hon
    exact h.submitted (Bool.and_eq_true_iff.mp hon).2

theorem RetryInv.logonMove (h : RetryInv s) {isCredUI : Bool} {a : LogonStep}
    (hmove : LogonMove isCredUI s a s') : RetryInv s' := by
  have hinv := h.inv.logonMove hmove
  -- but for the retry button's own sections, LogonUI is not in a retry before or after
  have hother : s'.call ≠ .retryStop → s'.call ≠ .retryStart →
      (∀ k, s'.retriedAt = some k → SinceRetry s' k) → RetryInv s' := by
    intro hstop hstart hsince
    refine ⟨hinv, ?_, fun hc => absurd hc hstart, hsince⟩
    rintro (hc | hc)
    · exact absurd hc hstop
    · exact absurd hc hstart
  cases hmove with
  | setSelected hcall hfree hstart =>
      refine hother (by simp) (by simp) ?_
      intro k hk
      exact (h.since k hk).logon (h.since k hk).setBy (h.since k hk).submitted
  | startSelected created hcall =>
      refine hother (by simp) (by simp) ?_
      intro k hk
      have hsince := (h.since k (by simpa using hk)).start created
      exact hsince.logon hsince.setBy hsince.submitted
  | setDeselected hcall =>
      refine hother (by simp) (by simp) ?_
      intro k hk
      have hsince := (h.since k (by simpa using hk)).stop
      exact hsince.logon hsince.setBy hsince.submitted
  | typed a c hcall hresult hsequence hblocked =>
      refine hother (by simp) (by simp) ?_
      intro k hk
      refine (h.since k hk).logon (h.since k hk).setBy ?_
      rw [hblocked]
      exact (h.since k hk).submitted
  | finish sequence isFinished hcall hfree hpacking =>
      refine hother (by simp [finish, hcall]) (by simp [finish, hcall]) ?_
      intro k hk
      exact (h.since k hk).finish isCredUI sequence isFinished
  | retry hcall hfree =>
      refine ⟨hinv, fun _ => ⟨rfl, rfl, rfl, hfree⟩, nofun, ?_⟩
      intro k hk
      refine (h.since k hk).logon ?_ ?_
      · intro o ho
        cases ho
      · intro hon
        cases hon
  | retryStop hcall =>
      obtain ⟨ls, heq, hls, -⟩ := stop_eq s
      rw [heq] at hinv ⊢
      refine ⟨hinv, fun _ => h.resetting (Or.inl hcall), fun _ => rfl, ?_⟩
      intro k hk
      exact (h.since k hk).of_quieter hls rfl (h.since k hk).setBy (h.since k hk).submitted
  | retryStart created hcall =>
      refine hother (by simp) (by simp) ?_
      intro k hk
      cases hk
      have hsince := (h.since_retryStart hcall).start created
      exact hsince.logon hsince.setBy hsince.submitted
  | report hasLogonFailed hcall =>
      refine hother (by simp [report, hcall]) (by simp [report, hcall]) ?_
      intro k hk
      exact (h.since k hk).report hasLogonFailed
  | shutdown hcall =>
      have hnone : (stop s).call = .none := by
        obtain ⟨ls, heq, -⟩ := stop_eq s
        rw [heq]
        exact hcall
      refine hother (by simp [hnone]) (by simp [hnone]) ?_
      intro k hk
      have hsince := (h.since k (by simpa using hk)).stop
      exact hsince.of_quieter (Quieter.refl _) rfl hsince.setBy hsince.submitted

theorem retryInv_init : RetryInv {} where
  inv :=
    { index := by
        intro i l hl
        cases hl
      flag := fun i hi => absurd hi Bool.false_ne_true
      writing := by
        rintro i ⟨l, r, hl, -⟩
        cases hl
      waiting := by
        intro i l n hl
        cases hl
      origin := rfl
      blocked := nofun }
  resetting := nofun
  stopped := nofun
  since := nofun

theorem RetryInv.step (h : RetryInv s) {isCredUI : Bool} {l : Step} (hcond : BetweenSections s l)
    (hstep : step isCredUI s l = some s') : RetryInv s' := by
  cases l with
  | listener i a =>
      obtain ⟨l, hl, hmove⟩ := Option.bind_eq_some_iff.mp hstep
      exact h.listenMove hcond hl (listenStep_move hmove)
  | logonUI a => exact h.logonMove (logonStep_move hstep)

/-- What a retry promises: the result is empty while the listener is replaced, and later it is empty
or was set by a listener that this retry started or by a later one. LogonUI puts its error, without a
password, only in the place of the result of such a listener. -/
structure RetryClean (s : State) : Prop where
  resetting : s.call = .retryStop ∨ s.call = .retryStart → s.credential.unlockResult = {}
  returned : ∀ k, s.retriedAt = some k → s.credential.unlockResult = {} ∨
    (∃ i, s.setBy = some (.listener i) ∧ k ≤ i) ∨
    ∃ i, s.setBy = some (.error i) ∧ k ≤ i ∧ s.credential.unlockResult = .ofState .unkError

theorem RetryInv.clean (h : RetryInv s) : RetryClean s where
  resetting := fun hc => (h.resetting hc).1
  returned := by
    intro k hk
    have horigin := h.inv.origin
    have hsince := (h.since k hk).setBy
    cases ho : s.setBy with
    | none =>
        rw [ho] at horigin
        exact Or.inl horigin
    | some o =>
        have hle := hsince o ho
        cases o with
        | listener i => exact Or.inr (Or.inl ⟨i, rfl, hle⟩)
        | error i =>
            rw [ho] at horigin
            exact Or.inr (Or.inr ⟨i, rfl, hle, horigin⟩)

/-- If no running listener enters `SetUnlockData` between the reset and the stop of a retry, every
retry starts clean. -/
theorem retry_clean (isCredUI : Bool) (ls : List Step) (h : exec (step isCredUI) {} ls = some s)
    (hcond : Along (step isCredUI) BetweenSections {} ls) : RetryClean s := by
  have hinv : RetryInv s :=
    exec_inv_along (fun _ _ _ hi hc hs => hi.step hc hs) retryInv_init hcond h
  exact hinv.clean

/-- A retry while the listener that it replaces is busy, and a result of the new one. -/
def retried : List Step :=
  [.logonUI .setSelected, .logonUI (.startSelected true),
    .logonUI (.commandLinkClicked true), .logonUI .retryStop,
    .listener 0 (.setUnlockData (.ofState .success)),
    .logonUI (.retryStart true), .listener 1 (.setUnlockData (.ofState .canceled)), .listener 1 .publish]

instance (s : State) (l : Step) : Decidable (BetweenSections s l) := by
  unfold BetweenSections
  split <;> infer_instance

theorem retry_clean_retried : ∃ s, exec (step false) {} retried = some s ∧
    s.credential.unlockResult = .ofState .canceled ∧ s.retriedAt = some 1 ∧ RetryClean s := by
  have hrun : (exec (step false) {} retried).any (fun s => decide
      (s.credential.unlockResult = .ofState .canceled ∧ s.retriedAt = some 1)) = true := by decide
  obtain ⟨s, hs, hresult, hat⟩ := exec_of_test hrun
  refine ⟨s, hs, hresult, hat, retry_clean false retried hs ?_⟩
  exact along_of_check (p := fun s l => decide (BetweenSections s l))
    (fun _ _ h => of_decide_eq_true h) (by decide)

/-- The listener publishes its success between the two sections of the retry button. -/
def publishedLate : List Step :=
  [.logonUI .setSelected, .logonUI (.startSelected true), .logonUI (.commandLinkClicked true),
    .listener 0 (.setUnlockData (.ofState .success)), .listener 0 .publish,
    .logonUI .retryStop, .logonUI (.retryStart true)]

/-- The success of the stopped listener stays. -/
theorem retry_not_clean : ¬ ∀ (isCredUI : Bool) (ls : List Step) (s : State),
    exec (step isCredUI) {} ls = some s → RetryClean s := by
  intro h
  have hrun : (exec (step false) {} publishedLate).any (fun s => decide
      (s.credential.unlockResult = .ofState .success ∧ s.retriedAt = some 1 ∧
        s.setBy = some (.listener 0))) = true := by decide
  obtain ⟨s, hs, hresult, hat, hby⟩ := exec_of_test hrun
  rcases (h _ _ s hs).returned 1 hat with hempty | ⟨i, hi, hle⟩ | ⟨i, hi, -⟩
  · rw [hresult] at hempty
    cases hempty
  · rw [hby] at hi
    cases hi
    exact absurd hle (by decide)
  · rw [hby] at hi
    cases hi

/-! ## Automatic starts -/

/-- A credential from the phone has been submitted, and since then neither a retry nor the report of a
success has come (the latest mark is first). -/
def Blocked : List Mark → Prop
  | [] => False
  | .submitted :: _ => True
  | .retried :: _ => False
  | .reported hasLogonFailed :: marks => hasLogonFailed = true ∧ Blocked marks
  | .autoStarted _ :: marks => Blocked marks

/-- A result that is submitted is still stored, or automatic starts are blocked already; and while
they are, no stored result is dropped because it could not be packed. -/
def KeepsBlock (s : State) (l : Step) : Prop :=
  match s.credential.logonUI, l with
  | .packing (some sequence), .logonUI (.finishSerialization true) =>
      isUnlockPending s.credential sequence = true ∨ s.credential.isAutoStartBlocked = true
  | .packing (some sequence), .logonUI (.finishSerialization false) =>
      ¬ (isUnlockPending s.credential sequence = true ∧ s.credential.isAutoStartBlocked = true)
  | _, _ => True

/-- No listener was started automatically while a submission stood. -/
def NoAutoStart (marks : List Mark) : Prop :=
  ∀ i newer older, marks = newer ++ .autoStarted i :: older → ¬ Blocked older

structure BlockInv (s : State) : Prop where
  blocked : Blocked s.marks → s.credential.isAutoStartBlocked = true
  selecting : s.call = .selecting → ¬ Blocked s.marks
  started : NoAutoStart s.marks

theorem NoAutoStart.cons {m : Mark} {marks : List Mark} (h : NoAutoStart marks)
    (hm : ∀ i, m = .autoStarted i → ¬ Blocked marks) : NoAutoStart (m :: marks) := by
  intro i newer older heq
  cases newer with
  | nil =>
      obtain ⟨hhead, rfl⟩ := List.cons.inj heq
      exact hm i hhead
  | cons m' newer => exact h i newer older (List.cons.inj heq).2

/-- A step that leaves the marks and the block as they are. -/
theorem BlockInv.of_eq (h : BlockInv s) (hmarks : s'.marks = s.marks)
    (hblocked : s'.credential.isAutoStartBlocked = s.credential.isAutoStartBlocked)
    (hcall : s'.call = .selecting → s.call = .selecting) : BlockInv s' where
  blocked := by
    rw [hmarks, hblocked]
    exact h.blocked
  selecting := by
    intro hselecting
    rw [hmarks]
    exact h.selecting (hcall hselecting)
  started := by
    rw [hmarks]
    exact h.started

theorem BlockInv.listenMove (h : BlockInv s) {i : Nat} {l : Listener} {a : ListenStep}
    (hmove : ListenMove s i l a s') : BlockInv s' := by
  cases hmove with
  | enter result hfree hon hpc => exact h.of_eq rfl rfl (fun hc => hc)
  | publish result hpc => exact h.of_eq rfl rfl (fun hc => hc)
  | expire sequence hpc hfree =>
      refine h.of_eq rfl ?_ (fun hc => hc)
      unfold expireUnlockSuccess
      split <;> rfl
  | quiet a l' hpc hpc' hflag => exact h.of_eq rfl rfl (fun hc => hc)

/-- The end of `GetSerialization` sets the block with every submission. -/
theorem BlockInv.finish (h : BlockInv s) {sequence : Nat} {isFinished : Bool} (hcall : s.call = .none)
    (hpacking : s.credential.logonUI = .packing (some sequence))
    (hcond : KeepsBlock s (.logonUI (.finishSerialization isFinished))) :
    BlockInv (finish s false (some sequence) isFinished) := by
  unfold KeepsBlock at hcond
  have hnot : ∀ {t : State}, t.call = s.call → t.call = .selecting → ¬ Blocked t.marks := by
    intro t ht hselecting
    rw [ht, hcall] at hselecting
    cases hselecting
  cases isFinished with
  | true =>
      simp only [hpacking] at hcond
      refine ⟨fun _ => ?_, hnot rfl, h.started.cons nofun⟩
      by_cases hpending : isUnlockPending s.credential sequence = true
      · exact (finishSerialization_pending false true hpending).2.2
      · rw [or_iff_right hpending] at hcond
        exact (finishSerialization_not_pending false true hpending).2.2.trans hcond
  | false =>
      simp only [hpacking] at hcond
      refine ⟨fun hb => ?_, hnot rfl, h.started⟩
      have hon : s.credential.isAutoStartBlocked = true := h.blocked hb
      have hpending : ¬ isUnlockPending s.credential sequence = true := fun hp => hcond ⟨hp, hon⟩
      exact (finishSerialization_not_pending false false hpending).2.2.trans hon

theorem BlockInv.logonMove (h : BlockInv s) {a : LogonStep} (hcond : KeepsBlock s (.logonUI a))
    (hmove : LogonMove false s a s') : BlockInv s' := by
  cases hmove with
  | setSelected hcall hfree hstart =>
      refine ⟨h.blocked, fun _ hb => ?_, h.started⟩
      exact hstart (Or.inr (h.blocked hb))
  | startSelected created hcall =>
      have hfree : ¬ Blocked s.marks := h.selecting hcall
      -- a mark of the start changes nothing about what is blocked
      refine ⟨fun hb => ?_, nofun, ?_⟩
      · split at hb
        · exact absurd hb hfree
        · exact absurd hb hfree
      · show NoAutoStart (if _ then _ else _)
        split
        · exact h.started
        · exact h.started.cons (fun _ _ => hfree)
  | setDeselected hcall =>
      obtain ⟨ls, heq, -⟩ := stop_eq s
      rw [heq]
      exact h.of_eq rfl rfl nofun
  | typed a c hcall hresult hsequence hblocked => exact h.of_eq rfl hblocked nofun
  | finish sequence isFinished hcall hfree hpacking => exact h.finish hcall hpacking hcond
  | retry hcall hfree => exact ⟨False.elim, nofun, h.started.cons nofun⟩
  | retryStop hcall =>
      obtain ⟨ls, heq, -⟩ := stop_eq s
      rw [heq]
      exact h.of_eq rfl rfl nofun
  | retryStart created hcall =>
      rcases start_cases s created with heq | ⟨heq, -⟩
      · rw [heq]
        exact h.of_eq rfl rfl nofun
      · rw [heq]
        exact h.of_eq rfl rfl nofun
  | report hasLogonFailed hcall =>
      refine ⟨?_, ?_, h.started.cons nofun⟩
      · rintro ⟨hfailed, hb⟩
        exact Bool.and_eq_true_iff.mpr ⟨hfailed, h.blocked hb⟩
      · intro hselecting
        rw [show (report s hasLogonFailed).call = .none from hcall] at hselecting
        cases hselecting
  | shutdown hcall =>
      obtain ⟨ls, heq, -⟩ := stop_eq s
      rw [heq]
      refine h.of_eq rfl rfl ?_
      intro hselecting
      rw [show s.call = .selecting from hselecting] at hcall
      cases hcall

theorem BlockInv.step (h : BlockInv s) {l : Step} (hcond : KeepsBlock s l)
    (hstep : step false s l = some s') : BlockInv s' := by
  cases l with
  | listener i a =>
      obtain ⟨l, hl, hmove⟩ := Option.bind_eq_some_iff.mp hstep
      exact h.listenMove (listenStep_move hmove)
  | logonUI a => exact h.logonMove hcond (logonStep_move hstep)

/-- If every result is still stored when it is submitted, `SetSelected` starts no listener from a
submission on until a retry or the report of a success. -/
theorem no_auto_start (ls : List Step) (h : exec (step false) {} ls = some s)
    (hcond : Along (step false) KeepsBlock {} ls) : NoAutoStart s.marks := by
  have hinit : BlockInv {} := by
    refine ⟨False.elim, nofun, ?_⟩
    intro i newer older heq
    cases newer <;> cases heq
  have hinv : BlockInv s := exec_inv_along (fun _ _ _ hi hc hs => hi.step hc hs) hinit hcond h
  exact hinv.started

/-- The logon with the phone's password fails, and the tile is selected again and then retried. -/
def wrongPassword : List Step :=
  [.logonUI .setSelected, .logonUI (.startSelected true),
    .listener 0 (.setUnlockData (.ofState .success)), .listener 0 .publish,
    .logonUI (.readPassword true), .logonUI (.finishSerialization true), .listener 0 .expire,
    .listener 0 .ends, .logonUI (.reportResult true), .logonUI .setSelected,
    .logonUI (.commandLinkClicked true), .logonUI .retryStop, .logonUI (.retryStart true)]

instance (s : State) (l : Step) : Decidable (KeepsBlock s l) := by
  unfold KeepsBlock
  split <;> infer_instance

theorem no_auto_start_wrongPassword : ∃ s, exec (step false) {} wrongPassword = some s ∧
    s.marks = [.retried, .reported true, .submitted, .autoStarted 0] ∧ NoAutoStart s.marks := by
  have hrun : (exec (step false) {} wrongPassword).any (fun s => decide
      (s.marks = [.retried, .reported true, .submitted, .autoStarted 0])) = true := by decide
  obtain ⟨s, hs, hmarks⟩ := exec_of_test hrun
  refine ⟨s, hs, hmarks, no_auto_start wrongPassword hs ?_⟩
  exact along_of_check (p := fun s l => decide (KeepsBlock s l))
    (fun _ _ h => of_decide_eq_true h) (by decide)

/-- The success expires while its credential is packed, and the logon fails. -/
def expiredWhilePacking : List Step :=
  [.logonUI .setSelected, .logonUI (.startSelected true),
    .listener 0 (.setUnlockData (.ofState .success)), .listener 0 .publish,
    .logonUI (.readPassword true), .listener 0 .expire, .logonUI (.finishSerialization true),
    .logonUI (.reportResult true), .listener 0 .ends,
    .logonUI .setSelected, .logonUI (.startSelected true)]

/-- The block is not set, and the next selection starts a listener again. -/
theorem auto_start_again : ¬ ∀ (ls : List Step) (s : State),
    exec (step false) {} ls = some s → NoAutoStart s.marks := by
  intro h
  have hrun : (exec (step false) {} expiredWhilePacking).any (fun s => decide
      (s.marks = [.autoStarted 1, .reported true, .submitted, .autoStarted 0])) = true := by decide
  obtain ⟨s, hs, hmarks⟩ := exec_of_test hrun
  exact h _ s hs 1 [] _ hmarks ⟨rfl, trivial⟩

end

end UnlockListener

end PcbuDesktop
