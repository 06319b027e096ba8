import PcbuDesktop.Windows.UnlockCredential

set_option autoImplicit false

/-! # The listeners of the Windows credential

`CUnlockListener` (`win_pulseunlock/src/CUnlockListener.cpp`) starts a thread that asks the phone and
publishes the result in `CUnlockCredential`. LogonUI starts and stops it: in `SetSelected`, in
`SetDeselected` and on the retry button. A thread that has been stopped goes on; it has only its flag
`isRunning` to know it by, which `SetUnlockData` reads under `_mutex`, while `Stop` stores to it under
`_listenerMutex`.

One step is one section of a mutex, but for `SetUnlockData`, in which the load of the flag and the rest
of the section are two, and for the retry button, in which `Stop` and `Start` are two. LogonUI's calls
come from one thread, so `_listenerMutex` is never contended. The credential's part of every step is a
step of `UnlockCredential` (`UnlockListener.credential_run`).
-/

namespace PcbuDesktop

open Runs

namespace UnlockListener

open UnlockCredential

/-! ## The state -/

/-- The program points of `ListenThread`. -/
inductive ListenPc where
  /-- `Listen` up to `SetUnlockData` -/
  | listening
  /-- in `SetUnlockData`, with `_mutex` and after a load of the flag that was on -/
  | writing (result : UnlockResult)
  /-- the wait for the submission of a success -/
  | waiting (sequence : Nat)
  /-- the handler in `ListenThread` -/
  | failing
  /-- `context->state->isRunning = false` -/
  | ending
  | done
  deriving DecidableEq, Repr

/-- A started thread with its `ListenState`. -/
structure Listener where
  isRunning : Bool := true
  pc : ListenPc := .listening
  deriving DecidableEq, Repr

/-- Where LogonUI's thread is between two sections of one call; `GetSerialization` is in the
credential. -/
inductive LogonCall where
  | none
  /-- `SetSelected` will call `Start` -/
  | selecting
  /-- `SetDeselected` after `Stop` -/
  | deselecting
  /-- `CommandLinkClicked` after the reset -/
  | retryStop
  /-- and after `Stop` -/
  | retryStart
  deriving DecidableEq, Repr

/-- Who has set `_unlockResult`: a listener, or LogonUI with an error in the place of a listener's
result. -/
inductive Origin where
  | listener (i : Nat)
  | error (i : Nat)
  deriving DecidableEq, Repr

def Origin.of : Origin → Nat
  | .listener i => i
  | .error i => i

/-- What LogonUI has done, as far as automatic starts depend on it. -/
inductive Mark where
  /-- `GetSerialization` has returned a credential from the phone as finished. -/
  | submitted
  | retried
  | reported (hasLogonFailed : Bool)
  /-- `SetSelected` has started this listener. -/
  | autoStarted (i : Nat)
  deriving DecidableEq, Repr

/-- The credential with its listeners, numbered in the order of their starts. The last four fields are
never read. -/
structure State where
  credential : CUnlockCredential := {}
  listeners : Nat → Option Listener := fun _ => Option.none
  started : Nat := 0
  /-- `m_State` -/
  state : Option Nat := Option.none
  /-- `_pUnlockListener == nullptr` -/
  isShutdown : Bool := false
  /-- the listener that holds `_mutex` -/
  mutex : Option Nat := Option.none
  call : LogonCall := .none
  setBy : Option Origin := Option.none
  /-- the listener whose result was submitted last -/
  submittedOf : Option Nat := Option.none
  /-- the number of listeners that the last retry found -/
  retriedAt : Option Nat := Option.none
  marks : List Mark := []

inductive ListenStep where
  | setUnlockData (result : UnlockResult)
  | publish
  /-- `Listen` returns without a result. -/
  | returns
  | throws
  | expire
  | ends
  deriving DecidableEq, Repr

/-- `created` says whether the thread could be created. -/
inductive LogonStep where
  | setSelected
  | startSelected (created : Bool)
  | setDeselected
  | clearPassword
  | setStringValue (text : Str)
  | readPassword (converts : Bool)
  | finishSerialization (isFinished : Bool)
  | commandLinkClicked (isRetryButton : Bool)
  | retryStop
  | retryStart (created : Bool)
  | reportResult (hasLogonFailed : Bool)
  | shutdown
  deriving DecidableEq, Repr

inductive Step where
  | listener (i : Nat) (l : ListenStep)
  | logonUI (l : LogonStep)
  deriving DecidableEq, Repr

/-! ## The functions -/

section

variable (s : State)

/-- `m_State->isRunning` of a listener. -/
def isRunning (i : Nat) : Bool := (s.listeners i).any Listener.isRunning

def setListener (i : Nat) (l : Listener) : State :=
  { s with listeners := Function.update s.listeners i (some l) }

/-- `CUnlockListener::Start`. -/
def start (created : Bool) : State :=
  if s.isShutdown || s.state.any (isRunning s) || !created then s
  else { setListener s s.started {} with started := s.started + 1, state := some s.started }

/-- `CUnlockListener::Stop`. -/
def stop : State :=
  match s.state with
  | none => s
  | some i =>
      { s with
        listeners := Function.update s.listeners i
          ((s.listeners i).map (fun l => { l with isRunning := false }))
        state := none }

/-- A section under `_mutex` can be entered only while no listener holds it. -/
def locked (s' : State) : Option State := if s.mutex = none then some s' else none

/-- The beginning of `SetUnlockData`: a listener that has been stopped gets no number. -/
def enterSetUnlockData (i : Nat) (l : Listener) (result : UnlockResult) : Option State :=
  locked s (if l.isRunning then { setListener s i { l with pc := .writing result } with mutex := some i }
    else setListener s i { l with pc := .ending })

/-- One step of the thread of listener `i`. -/
def listenStep (i : Nat) (l : Listener) (a : ListenStep) : Option State :=
  match l.pc, a with
  | .listening, .setUnlockData result => enterSetUnlockData s i l result
  | .failing, .setUnlockData result =>
      if result = .ofState .unkError then enterSetUnlockData s i l result else none
  | .writing result, .publish =>
      let credential := setUnlockData s.credential result (some true)
      some { setListener s i { l with
          pc := if result.state = .success then .waiting credential.unlockSequence else .ending } with
        credential := credential
        mutex := none
        setBy := some (.listener i) }
  | .listening, .returns => some (setListener s i { l with pc := .ending })
  | .listening, .throws => some (setListener s i { l with pc := .failing })
  | .waiting _, .throws => some (setListener s i { l with pc := .failing })
  | .waiting sequence, .expire =>
      locked s { setListener s i { l with pc := .ending } with
        credential := expireUnlockSuccess s.credential sequence
        setBy := if isUnlockPending s.credential sequence then some (.listener i) else s.setBy }
  | .ending, .ends => some (setListener s i { isRunning := false, pc := .done })
  | _, _ => none

/-- The end of `GetSerialization`. -/
def finish (isCredUI : Bool) (source : Option Nat) (isFinished : Bool) : State :=
  let credential := UnlockCredential.finishSerialization isCredUI s.credential source isFinished
  match source with
  | none => { s with credential := credential }
  | some sequence =>
      let pending := isUnlockPending s.credential sequence
      { s with
        credential := credential
        setBy := if pending then
            if isFinished then none else s.setBy.map (fun o => .error o.of)
          else s.setBy
        submittedOf := if pending && isFinished then s.setBy.map Origin.of else s.submittedOf
        marks := if isFinished then .submitted :: s.marks else s.marks }

/-- `ReportResult`. -/
def report (hasLogonFailed : Bool) : State :=
  { s with
    credential := UnlockCredential.reportResult s.credential hasLogonFailed
    setBy := if hasLogonFailed && s.credential.isAutoStartBlocked then s.submittedOf.map .error
      else none
    marks := .reported hasLogonFailed :: s.marks }

/-- One step of LogonUI's thread. -/
def logonStep (isCredUI : Bool) (a : LogonStep) : Option State :=
  match s.credential.logonUI, s.call, a with
  | .packing none, .none, .finishSerialization isFinished => some (finish s isCredUI none isFinished)
  | .packing (some sequence), .none, .finishSerialization isFinished =>
      locked s (finish s isCredUI (some sequence) isFinished)
  | .idle, .none, .setSelected =>
      locked s { s with call := if s.credential.unlockResult.state = .success ∨
          s.credential.isAutoStartBlocked = true then .none else .selecting }
  | .idle, .selecting, .startSelected created =>
      let s' := start s created
      some { s' with
        call := .none
        marks := if s'.started = s.started then s.marks else .autoStarted s.started :: s.marks }
  | .idle, .none, .setDeselected => some { stop s with call := .deselecting }
  | .idle, .deselecting, .clearPassword =>
      locked s { s with credential := { s.credential with passwordField := [] }, call := .none }
  | .idle, .none, .setStringValue text =>
      locked s { s with credential := { s.credential with passwordField := text } }
  | .idle, .none, .readPassword converts =>
      locked s { s with credential := UnlockCredential.readPassword s.credential converts }
  | .idle, .none, .commandLinkClicked true =>
      locked s { s with
        credential := retry s.credential
        call := .retryStop
        setBy := none
        marks := .retried :: s.marks }
  | .idle, .retryStop, .retryStop => some { stop s with call := .retryStart }
  | .idle, .retryStart, .retryStart created =>
      some { start s created with call := .none, retriedAt := some s.started }
  -- another field than the retry button
  | .idle, .none, .commandLinkClicked false => some s
  | .idle, .none, .reportResult hasLogonFailed => locked s (report s hasLogonFailed)
  | .idle, .none, .shutdown => some { stop s with isShutdown := true }
  | _, _, _ => none

end

def step (isCredUI : Bool) (s : State) : Step → Option State
  | .listener i a => (s.listeners i).bind (fun l => listenStep s i l a)
  | .logonUI a => logonStep s isCredUI a

/-! ## What one step can do -/

section

variable {s s' : State}

theorem locked_eq_some {t : State} (h : locked s t = some s') : s.mutex = none ∧ t = s' := by
  unfold locked at h
  split at h
  · rename_i hfree
    exact ⟨hfree, Option.some.inj h⟩
  · cases h

/-- The moves of a listener's thread. -/
inductive ListenMove (s : State) (i : Nat) (l : Listener) : ListenStep → State → Prop
  /-- the flag was on -/
  | enter (result : UnlockResult) (hfree : s.mutex = none) (hon : l.isRunning = true)
      (hpc : ∀ r, l.pc ≠ .writing r) : ListenMove s i l (.setUnlockData result)
        { setListener s i { l with pc := .writing result } with mutex := some i }
  | publish (result : UnlockResult) (hpc : l.pc = .writing result) : ListenMove s i l .publish
      { setListener s i { l with
          pc := if result.state = .success then .waiting (s.credential.unlockSequence + 1) else .ending } with
        credential := setUnlockData s.credential result (some true)
        mutex := none
        setBy := some (.listener i) }
  | expire (sequence : Nat) (hpc : l.pc = .waiting sequence) (hfree : s.mutex = none) :
      ListenMove s i l .expire { setListener s i { l with pc := .ending } with
        credential := expireUnlockSuccess s.credential sequence
        setBy := if isUnlockPending s.credential sequence then some (.listener i) else s.setBy }
  /-- nothing but the thread's own state changes -/
  | quiet (a : ListenStep) (l' : Listener) (hpc : ∀ r, l.pc ≠ .writing r)
      (hpc' : l'.pc = .ending ∨ l'.pc = .failing ∨ l'.pc = .done)
      (hflag : l'.isRunning = true → l.isRunning = true) : ListenMove s i l a (setListener s i l')

theorem enterSetUnlockData_move {i : Nat} {l : Listener} {result : UnlockResult}
    (hpc : ∀ r, l.pc ≠ .writing r) (h : enterSetUnlockData s i l result = some s') :
    ListenMove s i l (.setUnlockData result) s' := by
  unfold enterSetUnlockData at h
  obtain ⟨hfree, h⟩ := locked_eq_some h
  by_cases hon : l.isRunning = true
  · rw [if_pos hon] at h
    exact h ▸ .enter result hfree hon hpc
  · rw [if_neg hon] at h
    exact h ▸ .quiet _ _ hpc (Or.inl rfl) (fun h => h)

theorem listenStep_move {i : Nat} {l : Listener} {a : ListenStep}
    (h : listenStep s i l a = some s') : ListenMove s i l a s' := by
  unfold listenStep at h
  split at h
  · rename_i result hpc
    exact enterSetUnlockData_move (by simp [hpc]) h
  · rename_i result hpc
    split at h
    · exact enterSetUnlockData_move (by simp [hpc]) h
    · cases h
  · rename_i result hpc
    cases h
    exact .publish result hpc
  · rename_i hpc
    cases h
    exact .quiet _ _ (by simp [hpc]) (Or.inl rfl) (fun h => h)
  · rename_i hpc
    cases h
    exact .quiet _ _ (by simp [hpc]) (Or.inr (Or.inl rfl)) (fun h => h)
  · rename_i n hpc
    cases h
    exact .quiet _ _ (by simp [hpc]) (Or.inr (Or.inl rfl)) (fun h => h)
  · rename_i sequence hpc
    obtain ⟨hfree, rfl⟩ := locked_eq_some h
    exact .expire sequence hpc hfree
  · rename_i hpc
    cases h
    exact .quiet _ _ (by simp [hpc]) (Or.inr (Or.inr rfl)) (fun h => absurd h Bool.false_ne_true)
  · cases h

/-- The moves of LogonUI's thread. -/
inductive LogonMove (isCredUI : Bool) (s : State) : LogonStep → State → Prop
  | setSelected (hcall : s.call = .none) (hfree : s.mutex = none)
      (hstart : ¬ (s.credential.unlockResult.state = .success ∨ s.credential.isAutoStartBlocked = true)) :
      LogonMove isCredUI s .setSelected { s with call := .selecting }
  | startSelected (created : Bool) (hcall : s.call = .selecting) :
      LogonMove isCredUI s (.startSelected created) { start s created with
        call := .none
        marks := if (start s created).started = s.started then s.marks
          else .autoStarted s.started :: s.marks }
  | setDeselected (hcall : s.call = .none) :
      LogonMove isCredUI s .setDeselected { stop s with call := .deselecting }
  /-- the result, its number and the block stay as they are -/
  | typed (a : LogonStep) (c : CUnlockCredential) (hcall : s.call = .none ∨ s.call = .deselecting)
      (hresult : c.unlockResult = s.credential.unlockResult)
      (hsequence : c.unlockSequence = s.credential.unlockSequence)
      (hblocked : c.isAutoStartBlocked = s.credential.isAutoStartBlocked) :
      LogonMove isCredUI s a { s with credential := c, call := .none }
  | finish (sequence : Nat) (isFinished : Bool) (hcall : s.call = .none) (hfree : s.mutex = none)
      (hpacking : s.credential.logonUI = .packing (some sequence)) :
      LogonMove isCredUI s (.finishSerialization isFinished) (finish s isCredUI (some sequence) isFinished)
  | retry (hcall : s.call = .none) (hfree : s.mutex = none) :
      LogonMove isCredUI s (.commandLinkClicked true) { s with
        credential := retry s.credential
        call := .retryStop
        setBy := none
        marks := .retried :: s.marks }
  | retryStop (hcall : s.call = .retryStop) :
      LogonMove isCredUI s .retryStop { stop s with call := .retryStart }
  | retryStart (created : Bool) (hcall : s.call = .retryStart) :
      LogonMove isCredUI s (.retryStart created)
        { start s created with call := .none, retriedAt := some s.started }
  | report (hasLogonFailed : Bool) (hcall : s.call = .none) :
      LogonMove isCredUI s (.reportResult hasLogonFailed) (report s hasLogonFailed)
  | shutdown (hcall : s.call = .none) :
      LogonMove isCredUI s .shutdown { stop s with isShutdown := true }

theorem readPassword_keeps (c : CUnlockCredential) (converts : Bool) :
    (readPassword c converts).unlockResult = c.unlockResult ∧
      (readPassword c converts).unlockSequence = c.unlockSequence ∧
      (readPassword c converts).isAutoStartBlocked = c.isAutoStartBlocked := by
  unfold readPassword
  split
  · split
    · exact ⟨rfl, rfl, rfl⟩
    · exact ⟨rfl, rfl, rfl⟩
  · split
    · exact ⟨rfl, rfl, rfl⟩
    · exact ⟨rfl, rfl, rfl⟩

theorem finishSerialization_pending (isCredUI : Bool) {c : CUnlockCredential} {n : Nat}
    (isFinished : Bool) (h : isUnlockPending c n = true) :
    (finishSerialization isCredUI c (some n) isFinished).unlockResult =
        (if isFinished then {} else .ofState .unkError) ∧
      (finishSerialization isCredUI c (some n) isFinished).unlockSequence = c.unlockSequence ∧
      (finishSerialization isCredUI c (some n) isFinished).isAutoStartBlocked =
        (isFinished && !isCredUI) := by
  unfold finishSerialization finishUnlockSubmission
  simp only [if_pos h, and_self]

theorem finishSerialization_not_pending (isCredUI : Bool) {c : CUnlockCredential} {n : Nat}
    (isFinished : Bool) (h : ¬ isUnlockPending c n = true) :
    (finishSerialization isCredUI c (some n) isFinished).unlockResult = c.unlockResult ∧
      (finishSerialization isCredUI c (some n) isFinished).unlockSequence = c.unlockSequence ∧
      (finishSerialization isCredUI c (some n) isFinished).isAutoStartBlocked = c.isAutoStartBlocked := by
  unfold finishSerialization finishUnlockSubmission
  simp only [if_neg h, and_self]

theorem logonStep_move {isCredUI : Bool} {a : LogonStep} (h : logonStep s isCredUI a = some s') :
    LogonMove isCredUI s a s' := by
  have htyped : ∀ (a : LogonStep) (c : CUnlockCredential), s.call = .none →
      c.unlockResult = s.credential.unlockResult → c.unlockSequence = s.credential.unlockSequence →
      c.isAutoStartBlocked = s.credential.isAutoStartBlocked →
      LogonMove isCredUI s a { s with credential := c } := by
    intro a c hcall hresult hsequence hblocked
    have hsame : { s with credential := c } = { s with credential := c, call := .none } := by
      rw [← hcall]
    rw [hsame]
    exact .typed a c (Or.inl hcall) hresult hsequence hblocked
  unfold logonStep at h
  split at h
  · rename_i isFinished hlogon hcall
    cases h
    exact htyped _ _ hcall rfl rfl rfl
  · rename_i sequence isFinished hpacking hcall
    obtain ⟨hfree, rfl⟩ := locked_eq_some h
    exact .finish sequence isFinished hcall hfree hpacking
  · rename_i hlogon hcall
    obtain ⟨hfree, rfl⟩ := locked_eq_some h
    split
    · have hsame : { s with call := .none } = { s with credential := s.credential } := by
        rw [← hcall]
      rw [hsame]
      exact htyped _ _ hcall rfl rfl rfl
    · rename_i hstart
      exact .setSelected hcall hfree hstart
  · rename_i created hlogon hcall
    cases h
    exact .startSelected created hcall
  · rename_i hlogon hcall
    cases h
    exact .setDeselected hcall
  · rename_i hlogon hcall
    obtain ⟨-, rfl⟩ := locked_eq_some h
    exact .typed _ _ (Or.inr hcall) rfl rfl rfl
  · rename_i text hlogon hcall
    obtain ⟨-, rfl⟩ := locked_eq_some h
    exact htyped _ _ hcall rfl rfl rfl
  · rename_i converts hlogon hcall
    obtain ⟨-, rfl⟩ := locked_eq_some h
    obtain ⟨hresult, hsequence, hblocked⟩ := readPassword_keeps s.credential converts
    exact htyped _ _ hcall hresult hsequence hblocked
  · rename_i hlogon hcall
    obtain ⟨hfree, rfl⟩ := locked_eq_some h
    exact .retry hcall hfree
  · rename_i hlogon hcall
    cases h
    exact .retryStop hcall
  · rename_i created hlogon hcall
    cases h
    exact .retryStart created hcall
  · rename_i hlogon hcall
    cases h
    exact htyped _ s.credential hcall rfl rfl rfl
  · rename_i hasLogonFailed hlogon hcall
    obtain ⟨-, rfl⟩ := locked_eq_some h
    exact .report _ hcall
  · rename_i hlogon hcall
    cases h
    exact .shutdown hcall
  · cases h

/-! ## The credential below -/

@[simp] theorem start_credential (s : State) (created : Bool) :
    (start s created).credential = s.credential := by
  unfold start
  split <;> rfl

@[simp] theorem stop_credential (s : State) : (stop s).credential = s.credential := by
  unfold stop
  split <;> rfl

@[simp] theorem start_retriedAt (s : State) (created : Bool) :
    (start s created).retriedAt = s.retriedAt := by
  unfold start
  split <;> rfl

@[simp] theorem stop_retriedAt (s : State) : (stop s).retriedAt = s.retriedAt := by
  unfold stop
  split <;> rfl

theorem listenStep_credential {isCredUI : Bool} {i : Nat} {l : Listener} {a : ListenStep}
    (h : listenStep s i l a = some s') :
    ∃ ks, exec (UnlockCredential.step isCredUI) s.credential ks = some s'.credential := by
  cases listenStep_move h with
  | enter result hfree hon hpc => exact ⟨[], rfl⟩
  | publish result hpc => exact ⟨[.setUnlockData i result (some true)], rfl⟩
  | expire sequence hpc hfree => exact ⟨[.expireUnlockSuccess i sequence], rfl⟩
  | quiet a l' hpc hpc' hflag => exact ⟨[], rfl⟩

theorem logonStep_credential {isCredUI : Bool} {a : LogonStep}
    (h : logonStep s isCredUI a = some s') :
    ∃ ks, exec (UnlockCredential.step isCredUI) s.credential ks = some s'.credential := by
  -- a section of LogonUI is a step of the credential where the credential is idle
  have hidle : ∀ {k c}, s.credential.logonUI = .idle →
      UnlockCredential.step isCredUI s.credential k = whenIdle s.credential c →
      ∃ ks, exec (UnlockCredential.step isCredUI) s.credential ks = some c := by
    intro k c hlogon hstep
    refine ⟨[k], exec_singleton.trans (hstep.trans ?_)⟩
    unfold whenIdle
    rw [if_pos hlogon]
  unfold logonStep at h
  split at h
  · rename_i isFinished hlogon hcall
    cases h
    refine ⟨[.finishSerialization isFinished], exec_singleton.trans ?_⟩
    simp only [UnlockCredential.step, hlogon]
    rfl
  · rename_i sequence isFinished hlogon hcall
    obtain ⟨-, rfl⟩ := locked_eq_some h
    refine ⟨[.finishSerialization isFinished], exec_singleton.trans ?_⟩
    simp only [UnlockCredential.step, hlogon]
    rfl
  · obtain ⟨-, rfl⟩ := locked_eq_some h
    exact ⟨[], rfl⟩
  · cases h
    exact ⟨[], congrArg some (start_credential s _).symm⟩
  · cases h
    exact ⟨[], congrArg some (stop_credential s).symm⟩
  · rename_i hlogon hcall
    obtain ⟨-, rfl⟩ := locked_eq_some h
    exact hidle (k := .setDeselected) hlogon rfl
  · rename_i text hlogon hcall
    obtain ⟨-, rfl⟩ := locked_eq_some h
    exact hidle (k := .setStringValue text) hlogon rfl
  · rename_i converts hlogon hcall
    obtain ⟨-, rfl⟩ := locked_eq_some h
    exact hidle (k := .readPassword converts) hlogon rfl
  · rename_i hlogon hcall
    obtain ⟨-, rfl⟩ := locked_eq_some h
    exact hidle (k := .commandLinkClicked true) hlogon rfl
  · cases h
    exact ⟨[], congrArg some (stop_credential s).symm⟩
  · cases h
    exact ⟨[], congrArg some (start_credential s _).symm⟩
  · cases h
    exact ⟨[], rfl⟩
  · rename_i hasLogonFailed hlogon hcall
    obtain ⟨-, rfl⟩ := locked_eq_some h
    exact hidle (k := .reportResult hasLogonFailed) hlogon rfl
  · cases h
    exact ⟨[], congrArg some (stop_credential s).symm⟩
  · cases h

/-- The runs of the credential with its listeners are runs of the credential. -/
theorem credential_run {isCredUI : Bool} {ls : List Step} (h : exec (step isCredUI) s ls = some s') :
    ∃ ks, exec (UnlockCredential.step isCredUI) s.credential ks = some s'.credential := by
  refine exec_sim State.credential ?_ h
  intro s l s' hstep
  cases l with
  | listener i a =>
      obtain ⟨l, -, hl⟩ := Option.bind_eq_some_iff.mp hstep
      exact listenStep_credential hl
  | logonUI a => exact logonStep_credential hstep

end

end UnlockListener

end PcbuDesktop
