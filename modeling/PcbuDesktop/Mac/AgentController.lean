import PcbuDesktop.Basic.UnlockState
import PcbuDesktop.Lib.Runs
import PcbuDesktop.Storage.AppSettings

set_option autoImplicit false

/-! # The agent of the macOS lock screen and login window

`AgentController` (`mac_pulseunlock/src/AgentController.mm`) runs `pcbu_auth` for the user at the
screen and types the password it returns. All of its state belongs to the main queue: a step is one
event on that queue, or something that another thread does to post the next one. What has been posted
waits in `mainQueue` and is taken from it in any order, since a block can be delayed.

`m_Generation` counts the changes of what the agent is doing. It is a natural number here. The code
counts in 64 bits, so this is about runs with fewer than 2^64 changes. The timers are not modelled; a
tick and an activity can come at any time.
-/

namespace PcbuDesktop

open Runs

namespace AgentController

/-! ## The state -/

inductive AgentMode where
  | lockScreen
  | loginWindow
  deriving DecidableEq, Repr

inductive AgentState where
  | idle
  | armed
  | running
  | injecting
  | failed
  deriving DecidableEq, Repr

inductive OverlayStyle where
  | waiting
  | running
  | success
  | canceled
  | error
  deriving DecidableEq, Repr

/-- What an `AuthProcess` gives to its callback. -/
structure AuthResult where
  exitCode : Int := -1
  lastStatus : Str := []
  password : Str := []
  isCanceled : Bool := false
  deriving DecidableEq, Repr

/-- An auth run, with what its callbacks have captured. -/
structure AuthProcess where
  userName : Str
  generation : Nat
  isFinished : Bool := false
  deriving DecidableEq, Repr

/-- The blocks that are posted to the main queue. The password of a run is shared by its blocks, so
they only name the run; the result comes without it. -/
inductive Callback where
  | authStatus (run generation : Nat) (status : Str)
  | authFinished (run generation : Nat) (result : AuthResult)
  /-- the delayed `Inject` -/
  | inject (run generation attempt : Nat)
  /-- the password could not be put into the field -/
  | injectFailed (run generation : Nat)
  | unlockTimeout (run generation : Nat)
  deriving DecidableEq, Repr

def Callback.run : Callback → Nat
  | .authStatus run _ _ | .authFinished run _ _ | .inject run _ _ | .injectFailed run _
  | .unlockTimeout run _ => run

def Callback.generation : Callback → Nat
  | .authStatus _ generation _ | .authFinished _ generation _ | .inject _ generation _
  | .injectFailed _ generation | .unlockTimeout _ generation => generation

/-- The run whose password the block has captured. -/
def Callback.password : Callback → Option Nat
  | .authStatus _ _ _ => none
  | .authFinished run _ _ | .inject run _ _ | .injectFailed run _ | .unlockTimeout run _ => some run

inductive Event where
  /-- `StartAuth` has launched this run. -/
  | launched (run generation : Nat) (userName : Str)
  /-- `SetState(INJECTING)` with the password of this run, and with `m_Generation` and `m_UserName`. -/
  | injecting (run generation : Nat) (userName : Str)
  deriving DecidableEq, Repr

/-- The controller, its processes, and what is queued; `log` is never read. -/
structure State where
  state : AgentState := .idle
  settings : PCBUAppStorage := {}
  userName : Str := []
  generation : Nat := 0
  tickCount : Nat := 0
  /-- what is shown, if anything -/
  overlay : Option (Str × OverlayStyle) := none
  /-- `m_LockMonitor.m_IsLocked` -/
  isLocked : Bool := false
  /-- `m_AuthProcess` -/
  authProcess : Option Nat := none
  processes : Nat → Option AuthProcess := fun _ => none
  started : Nat := 0
  isCanceled : Nat → Bool := fun _ => false
  passwords : Nat → Str := fun _ => []
  mainQueue : List Callback := []
  /-- the blocks on `m_InjectQueue`: run and generation -/
  injectQueue : List (Nat × Nat) := []
  log : List Event := []

/-- What `Inject` and the timeout find when they look at the screen. -/
structure Screen where
  isGranted : Bool := true
  isSessionLocked : Bool := true
  selectedUser : Str := []
  isOtherElementFocused : Bool := false
  /-- a key press is less than `TYPING_QUIET_TIME` ago -/
  isTyping : Bool := false
  hasPasswordField : Bool := true
  deriving DecidableEq, Repr

inductive Step where
  /-- `Start` at the login window, with the settings and the user that `Activate` reads -/
  | start (settings : PCBUAppStorage) (user : Str)
  /-- `SetLocked` of the lock monitor -/
  | setLocked (isLocked : Bool) (settings : PCBUAppStorage) (user : Str)
  | activity
  | retry
  | cancel
  | tick (isCancelChordPressed : Bool) (selectedUser : Str)
  | stop
  | callback (c : Callback) (screen : Screen)
  /-- a status line of `pcbu_auth` -/
  | authStatus (run : Nat) (status : Str)
  | authFinished (run : Nat) (result : AuthResult)
  /-- a block on `m_InjectQueue` -/
  | typePassword (run generation : Nat) (succeeded : Bool)
  deriving DecidableEq, Repr

/-! ## The functions -/

def typingMaxAttempts : Nat := 30

def userCheckTicks : Nat := 4

/-- The states from `SUCCESS` to `UNK_ERROR`, in order. -/
def unlockStates : List UnlockState :=
  [.success, .canceled, .timeout, .connectError, .timeError, .dataError, .notPairedError, .appError,
    .startError, .portError, .protocolError, .cloudServerUnreachable, .cloudPhoneUnreachable,
    .cloudRateLimited, .cloudPairingGone, .cloudDeviceStale, .cloudNoSubscription,
    .cloudSubscriptionStale, .cloudSubscriptionOnHold, .cloudSubscriptionPaused, .unkError]

section

variable (mode : AgentMode) (i18n : String → Str) (s : State)

/-- `ParseUnlockState`. -/
def parseUnlockState (status : Str) : UnlockState :=
  (unlockStates.find? (fun state => decide (status = state.toText i18n))).getD .unknown

/-- `WipePassword`. -/
def wipePassword (run : Nat) : State := { s with passwords := Function.update s.passwords run [] }

/-- `StopAuth`. -/
def stopAuth : State :=
  match s.authProcess with
  | none => s
  | some run => { s with authProcess := none, isCanceled := Function.update s.isCanceled run true }

/-- `Fail`. -/
def fail (message : Str) : State :=
  { stopAuth s with
    generation := s.generation + 1
    state := .failed
    overlay := some (message,
      if parseUnlockState i18n message = .canceled then .canceled else .error) }

/-- `Reset`. -/
def reset : State :=
  { stopAuth s with generation := s.generation + 1, overlay := none, state := .idle }

/-- `WaitForUser`. -/
def waitForUser : State :=
  { stopAuth s with
    generation := s.generation + 1
    userName := []
    state := .armed
    overlay := some (i18n "wait_select_user", .waiting) }

/-- `Arm`. -/
def arm : State :=
  { stopAuth s with
    generation := s.generation + 1
    state := .armed
    overlay := some (i18n "wait_key_press", .waiting) }

/-- `StartAuth`. -/
def startAuth : State :=
  if s.userName = [] then s
  else { stopAuth s with
    generation := s.generation + 1
    state := .running
    overlay := some (i18n "initializing", .running)
    authProcess := some s.started
    processes := Function.update s.processes s.started
      (some { userName := s.userName, generation := s.generation + 1 })
    started := s.started + 1
    log := .launched s.started (s.generation + 1) s.userName :: s.log }

/-- Whether `BeginForUser` waits for a key. -/
def waitForKey (settings : PCBUAppStorage) : Bool :=
  match mode with
  | .lockScreen => decide (settings.unlockBehavior ≠ str "none")
  | .loginWindow => decide (settings.unlockBehavior = str "key_press")

/-- `BeginForUser`. -/
def beginForUser : State := if waitForKey mode s.settings then arm i18n s else startAuth i18n s

/-- `Activate`, with what it reads. -/
def activate (settings : PCBUAppStorage) (user : Str) : State :=
  if !settings.macLoginScreen then { s with settings := settings }
  else if user = [] then waitForUser i18n { s with settings := settings, userName := user }
  else beginForUser mode i18n { s with settings := settings, userName := user }

/-- `SetLocked` of the lock monitor, which calls `OnLockChanged`. -/
def setLocked (isLocked : Bool) (settings : PCBUAppStorage) (user : Str) : State :=
  if s.isLocked = isLocked then s
  else if isLocked then activate mode i18n { s with isLocked := isLocked } settings user
  else reset { s with isLocked := isLocked }

/-- `OnActivity`. -/
def onActivity : State := if s.state = .armed then startAuth i18n s else s

/-- `OnRetry`. -/
def onRetry : State := if s.state = .failed ∨ s.state = .armed then startAuth i18n s else s

/-- `OnCancel`. -/
def onCancel : State :=
  if s.state ≠ .running ∧ s.state ≠ .armed then s else fail i18n s (i18n "unlock_canceled")

/-- `TrackSelectedUser`. -/
def trackSelectedUser (selectedUser : Str) : State :=
  if s.state = .idle ∨ s.state = .injecting then s
  else if selectedUser = s.userName then s
  else if selectedUser = [] then waitForUser i18n s
  else beginForUser mode i18n { s with userName := selectedUser }

/-- The chord in `OnTick`. -/
def cancelOnChord (isCancelChordPressed : Bool) : State :=
  if s.state = .running ∧ isCancelChordPressed = true then onCancel i18n s else s

/-- `OnTick`. -/
def onTick (isCancelChordPressed : Bool) (selectedUser : Str) : State :=
  let s := cancelOnChord i18n { s with tickCount := s.tickCount + 1 } isCancelChordPressed
  if mode = .loginWindow ∧ s.tickCount % userCheckTicks = 0 then
    trackSelectedUser mode i18n s selectedUser
  else s

/-- `OnAuthStatus`. -/
def onAuthStatus (generation : Nat) (status : Str) : State :=
  if generation ≠ s.generation ∨ s.state ≠ .running then s
  else { s with overlay := some (status,
    if parseUnlockState i18n status = .success then .success else .running) }

/-- `Inject`. -/
def inject (run generation attempt : Nat) (screen : Screen) : State :=
  if generation ≠ s.generation then wipePassword s run
  else if !screen.isGranted then fail i18n (wipePassword s run) (i18n "error_accessibility_missing")
  else if mode = .lockScreen ∧ (!s.isLocked || !screen.isSessionLocked) = true then
    reset (wipePassword s run)
  else if mode = .loginWindow ∧ screen.selectedUser ≠ s.userName then
    fail i18n (wipePassword s run) (i18n "wait_select_user")
  else if screen.isOtherElementFocused then
    fail i18n (wipePassword s run) (i18n "error_password_field")
  else if screen.isTyping then
    if typingMaxAttempts ≤ attempt then
      fail i18n (wipePassword s run) (i18n "error_typing_detected")
    else { s with mainQueue := .inject run generation (attempt + 1) :: s.mainQueue }
  else { s with
    state := .injecting
    overlay := some (i18n "unlock_success", .success)
    injectQueue := (run, generation) :: s.injectQueue
    log := .injecting run s.generation s.userName :: s.log }

/-- `OnAuthFinished`. -/
def onAuthFinished (run generation : Nat) (result : AuthResult) (screen : Screen) : State :=
  if generation ≠ s.generation ∨ s.state ≠ .running ∨ result.isCanceled = true then wipePassword s run
  else
    let s := stopAuth s
    if result.exitCode = 0 ∧ s.passwords run ≠ [] then inject mode i18n s run generation 0 screen
    else
      let s := wipePassword s run
      if result.exitCode = 0 then fail i18n s (i18n "error_unknown")
      else fail i18n s (if result.lastStatus = [] then
        i18n (if result.exitCode = 1 then "unlock_canceled" else "error_unknown") else result.lastStatus)

/-- The block that a failed injection posts. -/
def onInjectFailed (generation : Nat) : State :=
  if generation = s.generation ∧ s.state = .injecting then fail i18n s (i18n "error_password_field")
  else s

/-- The block that is posted for `UNLOCK_TIMEOUT_MS` after the password was typed. -/
def onUnlockTimeout (generation : Nat) (screen : Screen) : State :=
  if generation ≠ s.generation ∨ s.state ≠ .injecting then s
  else if mode = .loginWindow ∧ screen.hasPasswordField = false then reset s
  else fail i18n s (i18n "error_password")

/-- The main queue without a block that is about to run. -/
def dequeue (c : Callback) : State := { s with mainQueue := s.mainQueue.erase c }

def runCallback (c : Callback) (screen : Screen) : State :=
  match c with
  | .authStatus _ generation status => onAuthStatus i18n s generation status
  | .authFinished run generation result => onAuthFinished mode i18n s run generation result screen
  | .inject run generation attempt => inject mode i18n s run generation attempt screen
  | .injectFailed _ generation => onInjectFailed i18n s generation
  | .unlockTimeout _ generation => onUnlockTimeout mode i18n s generation screen

/-- The end of `AuthProcess::Run`: the password moves into the callback. A run that was canceled may
not have noticed. -/
def finishAuth (run : Nat) (p : AuthProcess) (result : AuthResult) : Option State :=
  if p.isFinished = false ∧ (result.isCanceled = true → s.isCanceled run = true) then
    some { s with
      processes := Function.update s.processes run (some { p with isFinished := true })
      passwords := Function.update s.passwords run result.password
      mainQueue := .authFinished run p.generation { result with password := [] } :: s.mainQueue }
  else none

/-- A block on `m_InjectQueue`. -/
def typePassword (run generation : Nat) (succeeded : Bool) : State :=
  let s := wipePassword s run
  { s with
    injectQueue := s.injectQueue.erase (run, generation)
    mainQueue := (if succeeded then .unlockTimeout run generation else .injectFailed run generation) ::
      s.mainQueue }

def step : Step → Option State
  | .start settings user =>
      if mode = .loginWindow then some (activate mode i18n s settings user) else none
  | .setLocked isLocked settings user =>
      if mode = .lockScreen then some (setLocked mode i18n s isLocked settings user) else none
  | .activity => some (onActivity i18n s)
  | .retry => some (onRetry i18n s)
  | .cancel => some (onCancel i18n s)
  | .tick isCancelChordPressed selectedUser =>
      some (onTick mode i18n s isCancelChordPressed selectedUser)
  | .stop => some (reset s)
  | .callback c screen =>
      if c ∈ s.mainQueue then
        some (runCallback mode i18n (dequeue s c) c screen)
      else none
  | .authStatus run status =>
      (s.processes run).bind (fun p => if p.isFinished then none
        else some { s with mainQueue := .authStatus run p.generation status :: s.mainQueue })
  | .authFinished run result => (s.processes run).bind (fun p => finishAuth s run p result)
  | .typePassword run generation succeeded =>
      if (run, generation) ∈ s.injectQueue then some (typePassword s run generation succeeded) else none

end

end AgentController

end PcbuDesktop
