import PcbuDesktop.Handler.Aggregate
import PcbuDesktop.Unlock.Acceptance
import PcbuDesktop.Unlock.Stability

set_option autoImplicit false

/-! # `RunServer`

`UnlockHandler::RunServer` (`handler/UnlockHandler.cpp`) starts a connection, polls it until
there is a result, the user cancels, another connection succeeds or the time is over, stops
it, and decrypts the password. `runStep` is the function by itself: the values that it reads
come in with the step, and what it does to others goes out as effects. `Serving` runs it
against a connection whose own threads go on until `Stop` has joined them.

The state of the result is sampled in the loop, while the device and the response are read
after `Stop`. A response that is accepted in between gives a result that is not `SUCCESS` and
still carries the decrypted password. Only for a Bluetooth client on Windows is the state
polled once more when the threads are joined.
-/

namespace PcbuDesktop

open Runs

/-! ## The function -/

inductive RunPc where
  /-- `connection->Start()` -/
  | start
  /-- the load of `currentResult` -/
  | loop
  /-- the load of `*isRunning` -/
  | running
  /-- `connection->GetPhase()` -/
  | phase
  /-- `PrintStatus(connection, phase)` -/
  | status
  | broadcast
  /-- `connection->PollResult()` -/
  | poll
  /-- `connection->IsRunning()`, after `CONNECT_ERROR` -/
  | connRunning
  /-- the message and the delay before the next poll -/
  | retry
  /-- `if(state != UnlockState::UNKNOWN) break` -/
  | test
  | time
  | keys
  | rebroadcast
  /-- after the loop -/
  | leave
  /-- the first second, after `CONNECT_ERROR` -/
  | netDown
  | netDownWait
  /-- `PrintStatus(connection, UnlockPhase::FINISHED)` -/
  | finish
  /-- `connection->Stop()`: the store and the join -/
  | stop
  | join
  /-- on Windows: `connection->GetDevice().pairingMethod` -/
  | repoll
  /-- on Windows: the second `connection->PollResult()` -/
  | latest
  /-- `CryptUtils::DecryptAES` of the stored password -/
  | decrypt
  | decryptFailed
  | returned (result : UnlockResult)
  deriving DecidableEq, Repr

/-- The local variables of `RunServer`. -/
structure Runner where
  pc : RunPc := .start
  state : UnlockState := .unknown
  phase : UnlockPhase := .starting
  isBroadcasting : Bool := true
  deriving DecidableEq, Repr

/-- The value that a step reads. -/
inductive RunInput where
  | tau
  | flag (value : Bool)
  | state (state : UnlockState)
  | phase (phase : UnlockPhase)
  /-- the device and the response data of the connection, and the decrypted password -/
  | secret (device : PairedDevice) (data : PacketUnlockResponseData) (pwDec : Option Str)
  deriving DecidableEq, Repr

/-- What a step does to others. -/
inductive RunEffect where
  /-- `PrintStatus(connection, phase)` -/
  | status (phase : UnlockPhase)
  /-- `m_PrintMessage(I18n::Get(key))` -/
  | message (key : String)
  /-- `PrintStatus(I18n::Get(key))` -/
  | final (key : String)
  /-- the broadcaster of a server is stopped or started again -/
  | broadcast (on : Bool)
  /-- a store to `otherClientConnectedFirst` -/
  | otherFirst (value : Bool)
  /-- a store to `netDownError` -/
  | netDown (value : Bool)
  /-- `m_IsRunning = false` in `Stop` -/
  | stop
  | join
  deriving DecidableEq, Repr

/-- One step of `RunServer`. -/
def runStep (windows isOtherClient : Bool) (r : Runner) (input : RunInput) :
    Option (Runner × List RunEffect) :=
  match r.pc, input with
  | .start, .flag ok =>
      some ({ r with pc := if ok then .loop else .returned (UnlockResult.ofState .startError) }, [])
  | .loop, .state current =>
      if current = .success then some ({ r with pc := .leave, state := .canceled }, [])
      else some ({ r with pc := .running }, [])
  | .running, .flag isRunning =>
      if isRunning then some ({ r with pc := .phase }, [])
      else some ({ r with pc := .leave, state := .canceled }, [])
  | .phase, .phase phase => some ({ r with pc := .status, phase := phase }, [])
  | .status, .tau => some ({ r with pc := .broadcast }, [.status r.phase])
  | .broadcast, .tau =>
      if r.phase = .phoneUnlocking ∧ r.isBroadcasting = true then
        some ({ r with pc := .poll, isBroadcasting := false },
          (if isOtherClient then [.otherFirst true] else []) ++ [.broadcast false])
      else some ({ r with pc := .poll }, [])
  | .poll, .state state =>
      some ({ r with pc := if state = .connectError then .connRunning else .test, state := state }, [])
  | .connRunning, .flag isRunning =>
      some ({ r with pc := if isRunning then .retry else .test }, [])
  -- printed past `PrintStatus`; the state is polled again afterwards
  | .retry, .flag otherClientConnectedFirst =>
      some ({ r with pc := .test, state := .unknown },
        if isOtherClient = false ∧ otherClientConnectedFirst = false then
          [.message "unlock_error_connect_retry"]
        else [])
  | .test, .tau =>
      if r.state ≠ .unknown then some ({ r with pc := .leave }, [])
      else some ({ r with pc := if r.phase = .phoneUnlocking then .keys else .time }, [])
  | .time, .flag timeout =>
      if timeout then some ({ r with pc := .leave, state := .timeout }, [])
      else some ({ r with pc := .keys }, [])
  | .keys, .flag pressed =>
      if pressed then some ({ r with pc := .leave, state := .canceled }, [])
      else some ({ r with pc := .rebroadcast }, [])
  | .rebroadcast, .tau =>
      if r.phase ≠ .phoneUnlocking ∧ r.isBroadcasting = false then
        some ({ r with pc := .loop, isBroadcasting := true }, [.broadcast true])
      else some ({ r with pc := .loop }, [])
  | .leave, .flag otherClientConnectedFirst =>
      some ({ r with pc := if r.state = .connectError then .netDown else .netDownWait },
        if isOtherClient = false ∧ otherClientConnectedFirst = true then [.otherFirst false]
        else [])
  | .netDown, .flag early =>
      some ({ r with pc := .netDownWait },
        if early then [.netDown true, .message "unlock_error_netdown"] else [])
  | .netDownWait, .flag netDownError =>
      some ({ r with pc := .finish }, if netDownError then [.netDown false] else [])
  | .finish, .tau =>
      some ({ r with pc := .stop }, if r.state ≠ .success then [.status .finished] else [])
  | .stop, .tau => some ({ r with pc := .join }, [.stop])
  | .join, .tau =>
      some ({ r with pc := if windows = true ∧ r.state ≠ .success then .repoll else .decrypt },
        [.join])
  | .repoll, .flag isBluetooth =>
      some ({ r with pc := if isBluetooth then .latest else .decrypt }, [])
  | .latest, .state latestState =>
      some ({ r with
        pc := .decrypt
        state := if latestState ≠ .unknown then latestState else r.state }, [])
  -- device and response are those of now, the state is the one that was sampled
  | .decrypt, .secret device data pwDec =>
      if pwDec = none ∧ r.state = .success then some ({ r with pc := .decryptFailed }, [])
      else
        let result : UnlockResult :=
          { state := r.state
            device := device
            -- only the key is kept back when the state is not `SUCCESS`
            password := pwDec.getD []
            passwordKey := if r.state = .success then data.passwordKey else [] }
        some ({ r with pc := .returned result }, [])
  | .decryptFailed, .tau =>
      some ({ r with pc := .returned (UnlockResult.ofState .dataError) }, [.final "error_password_decrypt"])
  | _, _ => none

/-! ## `PollResult` -/

/-- `BTUnlockClient::IsPhoneError`. -/
def isPhoneError (state : UnlockState) : Bool :=
  state = .timeError || state = .notPairedError || state = .appError || state = .dataError ||
    state = .protocolError

/-- `PollResult`. A Bluetooth client also looks at `pairErrors`, where `shared` is the state
that the device's other client has stored since this one was started, and at `m_HasConnected`. -/
def pollResult (isBluetooth : Bool) (c : Conn) (shared : Option UnlockState) (hasConnected : Bool) :
    UnlockState :=
  if isBluetooth = false then c.unlockState
  else if isPhoneError c.unlockState = true ∨ c.unlockState = .success then c.unlockState
  else
    match shared with
    | some state => state
    | none =>
        if c.otherClient = true ∧ c.unlockState = .connectError ∧ hasConnected = false ∧
            c.isRunning = false then .canceled
        else c.unlockState

/-- `pairErrors` holds phone errors only. -/
def sharedError (shared : Option UnlockState) : Option UnlockState :=
  shared.filter isPhoneError

theorem pollResult_eq_success {b hasConnected : Bool} {c : Conn} {shared : Option UnlockState}
    (h : pollResult b c (sharedError shared) hasConnected = .success) :
    c.unlockState = .success := by
  unfold pollResult at h
  split at h
  · exact h
  · split at h
    · exact h
    · split at h
      · next st hst =>
          have hphone : isPhoneError st = true := by
            simp only [sharedError, Option.filter_eq_some_iff] at hst
            exact hst.2
          rw [h] at hphone
          cases hphone
      · split at h
        · cases h
        · exact h

/-! ## `RunServer` with its connection -/

/-- A connection and the `RunServer` that polls it. `windows` is the platform, `isBluetooth`
the class of the connection, `joined` says that `Stop` has joined the connection's threads. -/
structure Serving where
  base : System
  windows : Bool
  isBluetooth : Bool
  run : Runner := {}
  joined : Bool := false

inductive ServingLabel where
  /-- a step of the connection's own threads -/
  | conn (label : Label)
  /-- a step of `RunServer`; `answer` is what it reads from elsewhere, `shared` and
  `hasConnected` are what a Bluetooth client's `PollResult` finds -/
  | run (answer : RunInput) (shared : Option UnlockState) (hasConnected : Bool)
  deriving DecidableEq, Repr

namespace Serving

/-- What the step reads: a member of the connection, or something else. -/
def input (env : Env) (s : Serving) (answer : RunInput) (shared : Option UnlockState)
    (hasConnected : Bool) : RunInput :=
  match s.run.pc with
  | .phase => .phase s.base.conn.getPhase
  | .poll | .latest => .state (pollResult s.isBluetooth s.base.conn (sharedError shared) hasConnected)
  | .connRunning => .flag s.base.conn.isRunning
  | .repoll => .flag (s.base.conn.pairedDevice.pairingMethod = .bluetooth)
  | .decrypt =>
      .secret s.base.conn.pairedDevice s.base.conn.responseData
        (env.crypt.decryptAES s.base.conn.pairedDevice.passwordEnc
          s.base.conn.responseData.passwordKey)
  | _ => answer

/-- The effects on the connection: `Stop` stores to `m_IsRunning`, and joins the threads, which
takes until all of them are done. -/
def effect (s : Serving) : RunEffect → Option Serving
  | .stop => some { s with base := { s.base with conn := { s.base.conn with isRunning := false } } }
  | .join => if s.base.live = [] then some { s with joined := true } else none
  | _ => some s

def step (env : Env) (s : Serving) : ServingLabel → Option Serving
  | .conn l =>
      if s.run.pc = .start ∨ s.joined = true then none
      else (s.base.step env l).map (fun base => { s with base := base })
  | .run answer shared hasConnected =>
      match runStep s.windows s.base.conn.otherClient s.run (s.input env answer shared hasConnected) with
      | none => none
      | some (run, effects) => (effects.foldlM effect s).map (fun s' => { s' with run := run })

/-- A connection of `GetResult` before `RunServer`. -/
structure Fresh (s : Serving) : Prop where
  base : Initial s.base
  run : s.run = {}
  joined : s.joined = false

end Serving

/-! ## What one step of `RunServer` can do -/

/-- The program points after the loop. -/
def RunPc.left : RunPc → Bool
  | .leave | .netDown | .netDownWait | .finish | .stop | .join | .repoll | .latest | .decrypt
  | .decryptFailed | .returned _ => true
  | _ => false

/-- The program points of the second poll, which comes only after another state than
`SUCCESS`. -/
def RunPc.repolling : RunPc → Bool
  | .repoll | .latest => true
  | _ => false

/-- Effects that nobody but `RunServer`'s own connection and the static flags see. -/
def RunEffect.silent : RunEffect → Bool
  | .status _ | .message _ | .final _ => false
  | _ => true

/-- The result that is built from the connection's device and response data. -/
def Runner.result (r : Runner) (device : PairedDevice) (data : PacketUnlockResponseData)
    (pwDec : Option Str) : UnlockResult :=
  { state := r.state
    device := device
    password := pwDec.getD []
    passwordKey := if r.state = .success then data.passwordKey else [] }

/-- The moves of `RunServer`. -/
inductive RunMove (r : Runner) : RunInput → Runner → List RunEffect → Prop
  | startFailed (hpc : r.pc = .start) :
      RunMove r (.flag false) { r with pc := .returned (.ofState .startError) } []
  /-- on the way through the loop -/
  | inside (input : RunInput) (r' : Runner) (effects : List RunEffect) (hold : r.pc.left = false)
      (hnew : r'.pc.left = false) (hstate : r'.state = r.state)
      (hsilent : ∀ e ∈ effects, e.silent = true) : RunMove r input r' effects
  | status (hpc : r.pc = .status) :
      RunMove r .tau { r with pc := .broadcast } [.status r.phase]
  | poll (state : UnlockState) (pc : RunPc) (hpc : r.pc = .poll) (hnew : pc.left = false) :
      RunMove r (.state state) { r with pc := pc, state := state } []
  | retry (input : RunInput) (effects : List RunEffect) (hpc : r.pc = .retry)
      (heff : effects = [] ∨ effects = [.message "unlock_error_connect_retry"]) :
      RunMove r input { r with pc := .test, state := .unknown } effects
  /-- the end of the loop: by a result, or for another reason -/
  | result (input : RunInput) (hpc : r.pc = .test) (hne : r.state ≠ .unknown) :
      RunMove r input { r with pc := .leave } []
  | giveUp (input : RunInput) (state : UnlockState) (hold : r.pc.left = false)
      (hstate : state = .canceled ∨ state = .timeout) :
      RunMove r input { r with pc := .leave, state := state } []
  /-- after the loop -/
  | after (input : RunInput) (pc : RunPc) (effects : List RunEffect) (hold : r.pc.left = true)
      (hnew : pc.left = true) (hret : ∀ result, pc ≠ .returned result) (hdec : pc ≠ .decryptFailed)
      (hrepoll : pc.repolling = true → r.pc.repolling = true ∨ r.state ≠ .success)
      (hsilent : ∀ e ∈ effects, e.silent = true) :
      RunMove r input { r with pc := pc } effects
  | netDown (input : RunInput) (hpc : r.pc = .netDown) :
      RunMove r input { r with pc := .netDownWait }
        [.netDown true, .message "unlock_error_netdown"]
  | finish (hpc : r.pc = .finish) :
      RunMove r .tau { r with pc := .stop } (if r.state ≠ .success then [.status .finished] else [])
  | latest (state : UnlockState) (hpc : r.pc = .latest) :
      RunMove r (.state state)
        { r with pc := .decrypt, state := if state ≠ .unknown then state else r.state } []
  | decryptFails (device : PairedDevice) (data : PacketUnlockResponseData)
      (hpc : r.pc = .decrypt) (hs : r.state = .success) :
      RunMove r (.secret device data none) { r with pc := .decryptFailed } []
  | returned (device : PairedDevice) (data : PacketUnlockResponseData) (pwDec : Option Str)
      (hpc : r.pc = .decrypt) (hnot : ¬ (pwDec = none ∧ r.state = .success)) :
      RunMove r (.secret device data pwDec)
        { r with pc := .returned (r.result device data pwDec) } []
  | returnedFailed (hpc : r.pc = .decryptFailed) :
      RunMove r .tau { r with pc := .returned (.ofState .dataError) }
        [.final "error_password_decrypt"]

theorem runStep_move {windows other : Bool} {r r' : Runner} {input : RunInput}
    {effects : List RunEffect} (h : runStep windows other r input = some (r', effects)) :
    RunMove r input r' effects := by
  unfold runStep at h
  split at h
  · next ok hpc =>
      cases ok with
      | true => cases h; exact .inside _ _ _ (by rw [hpc]; rfl) rfl rfl (by simp)
      | false => cases h; exact .startFailed hpc
  · next st hpc =>
      split at h
      · cases h; exact .giveUp _ _ (by rw [hpc]; rfl) (Or.inl rfl)
      · cases h; exact .inside _ _ _ (by rw [hpc]; rfl) rfl rfl (by simp)
  · next b hpc =>
      split at h
      · cases h; exact .inside _ _ _ (by rw [hpc]; rfl) rfl rfl (by simp)
      · cases h; exact .giveUp _ _ (by rw [hpc]; rfl) (Or.inl rfl)
  · next ph hpc => cases h; exact .inside _ _ _ (by rw [hpc]; rfl) rfl rfl (by simp)
  · next hpc => cases h; exact .status hpc
  · next hpc =>
      split at h
      · cases h
        refine .inside _ _ _ (by rw [hpc]; rfl) rfl rfl ?_
        cases other <;> simp [RunEffect.silent]
      · cases h; exact .inside _ _ _ (by rw [hpc]; rfl) rfl rfl (by simp)
  · next st hpc => cases h; exact .poll _ _ hpc (by split <;> rfl)
  · next b hpc =>
      cases h
      refine .inside _ _ _ (by rw [hpc]; rfl) ?_ rfl (by simp)
      cases b <;> rfl
  · next b hpc =>
      cases h
      refine .retry _ _ hpc ?_
      split
      · exact Or.inr rfl
      · exact Or.inl rfl
  · next hpc =>
      split at h
      · next hne => cases h; exact .result _ hpc hne
      · cases h
        refine .inside _ _ _ (by rw [hpc]; rfl) ?_ rfl (by simp)
        dsimp only
        split <;> rfl
  · next b hpc =>
      split at h
      · cases h; exact .giveUp _ _ (by rw [hpc]; rfl) (Or.inr rfl)
      · cases h; exact .inside _ _ _ (by rw [hpc]; rfl) rfl rfl (by simp)
  · next b hpc =>
      split at h
      · cases h; exact .giveUp _ _ (by rw [hpc]; rfl) (Or.inl rfl)
      · cases h; exact .inside _ _ _ (by rw [hpc]; rfl) rfl rfl (by simp)
  · next hpc =>
      split at h
      · cases h; exact .inside _ _ _ (by rw [hpc]; rfl) rfl rfl (by simp [RunEffect.silent])
      · cases h; exact .inside _ _ _ (by rw [hpc]; rfl) rfl rfl (by simp)
  · next b hpc =>
      cases h
      refine .after _ _ _ (by rw [hpc]; rfl) (by split <;> rfl) ?_ (by split <;> simp) ?_ ?_
      · intro result; split <;> simp
      · split <;> simp [RunPc.repolling]
      · split <;> simp [RunEffect.silent]
  · next b hpc =>
      cases b with
      | true => cases h; exact .netDown _ hpc
      | false =>
          cases h
          exact .after _ _ _ (by rw [hpc]; rfl) rfl (by simp) (by simp) (by simp [RunPc.repolling])
            (by simp)
  · next b hpc =>
      cases h
      refine .after _ _ _ (by rw [hpc]; rfl) rfl (by simp) (by simp) (by simp [RunPc.repolling]) ?_
      cases b <;> simp [RunEffect.silent]
  · next hpc => cases h; exact .finish hpc
  · next hpc =>
      cases h
      exact .after _ _ _ (by rw [hpc]; rfl) rfl (by simp) (by simp) (by simp [RunPc.repolling])
        (by simp [RunEffect.silent])
  · next hpc =>
      cases h
      refine .after _ _ _ (by rw [hpc]; rfl) (by split <;> rfl) ?_ (by split <;> simp) ?_
        (by simp [RunEffect.silent])
      · intro result; split <;> simp
      · split
        · next hw => exact fun _ => Or.inr hw.2
        · simp [RunPc.repolling]
  · next b hpc =>
      cases h
      refine .after _ _ _ (by rw [hpc]; rfl) (by split <;> rfl) ?_ (by split <;> simp) ?_ (by simp)
      · intro result; split <;> simp
      · exact fun _ => Or.inl (by rw [hpc]; rfl)
  · next st hpc => cases h; exact .latest _ hpc
  · next device data pwDec hpc =>
      split at h
      · next hfail =>
          obtain ⟨rfl, hs⟩ := hfail
          cases h
          exact .decryptFails _ _ hpc hs
      · next hnot => cases h; exact .returned _ _ _ hpc hnot
  · next hpc => cases h; exact .returnedFailed hpc
  · cases h

/-- How a result comes about. -/
theorem RunMove.returned_cases {r r' : Runner} {input : RunInput} {effects : List RunEffect}
    {result : UnlockResult} (h : RunMove r input r' effects) (hret : r'.pc = .returned result) :
    result = .ofState .startError ∨
    (∃ device data pwDec, r.pc = .decrypt ∧ input = .secret device data pwDec ∧
      ¬ (pwDec = none ∧ r.state = .success) ∧ result = r.result device data pwDec) ∨
    (r.pc = .decryptFailed ∧ result = .ofState .dataError) := by
  cases h with
  | startFailed hpc => cases hret; exact Or.inl rfl
  | inside input r' effects hold hnew hstate hsilent => rw [hret] at hnew; cases hnew
  | poll st pc hpc hnew =>
      have hpc' : pc = .returned result := hret
      rw [hpc'] at hnew
      cases hnew
  | after input pc effects hold hnew hret' hdec hrepoll hsilent => exact absurd hret (hret' _)
  | returned device data pwDec hpc hnot =>
      cases hret
      exact Or.inr (Or.inl ⟨device, data, pwDec, hpc, rfl, hnot, rfl⟩)
  | returnedFailed hpc => cases hret; exact Or.inr (Or.inr ⟨hpc, rfl⟩)
  | _ => cases hret

/-- Only the failed decryption of a `SUCCESS` leads to the message about it. -/
theorem RunMove.state_of_decryptFailed {r r' : Runner} {input : RunInput} {effects : List RunEffect}
    (h : RunMove r input r' effects) (hpc : r'.pc = .decryptFailed) :
    r.state = .success ∧ r'.state = .success := by
  cases h with
  | inside input r' effects hold hnew hstate hsilent => rw [hpc] at hnew; cases hnew
  | poll st pc hpc' hnew =>
      have hpc'' : pc = .decryptFailed := hpc
      rw [hpc''] at hnew
      cases hnew
  | after input pc effects hold hnew hret hdec hrepoll hsilent => exact absurd hpc hdec
  | decryptFails device data hpc' hs => exact ⟨hs, hs⟩
  | _ => cases hpc

/-- The program points between the join and the result. -/
def RunPc.afterJoin : RunPc → Bool
  | .repoll | .latest | .decrypt => true
  | _ => false

/-- How `RunServer` gets there: the decryption follows at once unless another poll comes
first. -/
theorem runStep_afterJoin {windows other : Bool} {r r' : Runner} {input : RunInput}
    {effects : List RunEffect} (h : runStep windows other r input = some (r', effects))
    (hpc : r'.pc.afterJoin = true) :
    (r.pc = .join ∧ r'.state = r.state ∧ effects = [.join] ∧
      (r'.pc = .decrypt → windows = true → r.state = .success)) ∨
    (r.pc = .repoll ∧ r'.state = r.state ∧ (r'.pc = .decrypt → input = .flag false)) ∨
    (r.pc = .latest ∧ ∃ st, input = .state st ∧ r'.state = if st ≠ .unknown then st else r.state) := by
  have hnot : ∀ pc : RunPc, r'.pc = pc → pc.afterJoin = false → False := by
    rintro pc rfl hf
    rw [hpc] at hf
    cases hf
  unfold runStep at h
  split at h
  case h_19 hj =>
      cases h
      refine Or.inl ⟨hj, rfl, rfl, ?_⟩
      intro hd hw
      by_contra hne
      simp [hw, hne] at hd
  case h_20 b hj =>
      cases h
      refine Or.inr (Or.inl ⟨hj, rfl, ?_⟩)
      intro hd
      cases b with
      | true => simp at hd
      | false => rfl
  case h_21 st hj =>
      cases h
      exact Or.inr (Or.inr ⟨hj, st, rfl, rfl⟩)
  -- every other statement leads somewhere else
  all_goals
    exfalso
    (try split_ifs at h) <;> cases h <;> exact hnot _ rfl rfl

/-! ## Runs of `RunServer` with its connection -/

section

variable {env : Env} {d₀ : PairedDevice}

/-- The effects change nothing of the connection but `m_IsRunning`. -/
theorem Serving.effects_base {s s' : Serving} {effects : List RunEffect}
    (h : effects.foldlM Serving.effect s = some s') :
    (∃ b, s'.base = { s.base with conn := { s.base.conn with isRunning := b } }) ∧
      s'.windows = s.windows ∧ s'.isBluetooth = s.isBluetooth ∧
      (s.joined = true → s'.joined = true) := by
  induction effects generalizing s with
  | nil => cases h; exact ⟨⟨_, rfl⟩, rfl, rfl, id⟩
  | cons e effects ih =>
      simp only [List.foldlM_cons, Option.bind_eq_bind, Option.bind_eq_some_iff] at h
      obtain ⟨m, hm, hrest⟩ := h
      obtain ⟨⟨b, hb⟩, hw, hbt, hj⟩ := ih hrest
      have hone : (∃ b, m.base = { s.base with conn := { s.base.conn with isRunning := b } }) ∧
          m.windows = s.windows ∧ m.isBluetooth = s.isBluetooth ∧
          (s.joined = true → m.joined = true) := by
        cases e with
        | stop => cases hm; exact ⟨⟨false, rfl⟩, rfl, rfl, id⟩
        | join =>
            simp only [Serving.effect] at hm
            split at hm
            · cases hm; exact ⟨⟨s.base.conn.isRunning, rfl⟩, rfl, rfl, fun _ => rfl⟩
            · cases hm
        | _ => cases hm; exact ⟨⟨s.base.conn.isRunning, rfl⟩, rfl, rfl, id⟩
      obtain ⟨⟨b', hb'⟩, hw', hbt', hj'⟩ := hone
      exact ⟨⟨b, by rw [hb, hb']⟩, hw.trans hw', hbt.trans hbt', fun h => hj (hj' h)⟩

/-- A step of `RunServer`, seen from the connection, is at most a store to `m_IsRunning`. -/
theorem Serving.step_run {s s' : Serving} {answer : RunInput} {shared : Option UnlockState}
    {hasConnected : Bool} (h : s.step env (.run answer shared hasConnected) = some s') :
    ∃ effects, RunMove s.run (s.input env answer shared hasConnected) s'.run effects ∧
      (∃ b, s.base.step env (.running b) = some s'.base) ∧ s'.isBluetooth = s.isBluetooth := by
  simp only [Serving.step] at h
  split at h
  · cases h
  · next run effects hrun =>
      obtain ⟨m, hm, rfl⟩ := Option.map_eq_some_iff.mp h
      obtain ⟨⟨b, hb⟩, -, hbt, -⟩ := Serving.effects_base hm
      exact ⟨effects, runStep_move hrun, ⟨b, by rw [hb]; rfl⟩, hbt⟩

theorem Serving.step_conn {s s' : Serving} {l : Label} (h : s.step env (.conn l) = some s') :
    s.base.step env l = some s'.base ∧ s'.run = s.run ∧ s'.isBluetooth = s.isBluetooth ∧
      s.joined = false := by
  simp only [Serving.step] at h
  split at h
  · cases h
  · next hnot =>
      obtain ⟨base, hb, rfl⟩ := Option.map_eq_some_iff.mp h
      exact ⟨hb, rfl, rfl, by simpa using (not_or.mp hnot).2⟩

theorem Serving.step_windows {s s' : Serving} {l : ServingLabel} (h : s.step env l = some s') :
    s'.windows = s.windows := by
  cases l with
  | conn l =>
      simp only [Serving.step] at h
      split at h
      · cases h
      · obtain ⟨base, hb, rfl⟩ := Option.map_eq_some_iff.mp h
        rfl
  | run answer shared hasConnected =>
      simp only [Serving.step] at h
      split at h
      · cases h
      · next run effects hrun =>
          obtain ⟨m, hm, rfl⟩ := Option.map_eq_some_iff.mp h
          exact (Serving.effects_base hm).2.1

/-- Every step is a step of the connection. -/
theorem Serving.step_base {s s' : Serving} {l : ServingLabel} (h : s.step env l = some s') :
    ∃ k, s.base.step env k = some s'.base := by
  cases l with
  | conn l => exact ⟨l, (Serving.step_conn h).1⟩
  | run answer shared hasConnected =>
      obtain ⟨-, -, ⟨b, hb⟩, -⟩ := Serving.step_run h
      exact ⟨.running b, hb⟩

/-- The log of a connection only grows. -/
theorem System.log_mono {s s' : System} {l : Label} (h : s.step env l = some s') {e : Event}
    (he : e ∈ s.log) : e ∈ s'.log := by
  cases System.step_move h with
  | flow t i f c n evs hf hmove => exact List.mem_append_left _ he
  | _ => exact he

/-- The result carries the device and the key of an authenticated response, and the password
that they decrypt to. -/
def Authenticated (env : Env) (s : System) (result : UnlockResult) : Prop :=
  result.device ∈ s.conn.allowedDevices ∧
  env.crypt.decryptAES result.device.passwordEnc result.passwordKey = some result.password ∧
  ∃ t q r pre mid post,
    s.log = pre ++ .sent t q :: (mid ++ .accepted t r :: post) ∧
    RequestFor env s.conn result.device q ∧ ResponseFor env s.conn r ∧
    r.device = result.device ∧ r.data.passwordKey = result.passwordKey

theorem Authenticated.step {s s' : System} {l : Label} {result : UnlockResult}
    (h : Authenticated env s result) (hs : s.step env l = some s') :
    Authenticated env s' result := by
  obtain ⟨hmem, hpw, t, q, r, pre, mid, post, hlog, hq, hr, hd, hk⟩ := h
  have hc := (step_config hs).2
  have hext : ∃ evs, s'.log = s.log ++ evs := by
    cases System.step_move hs with
    | flow t i f c n evs hf hmove => exact ⟨evs, rfl⟩
    | _ => exact ⟨[], by simp⟩
  obtain ⟨evs, hevs⟩ := hext
  refine ⟨hc.allowedDevices ▸ hmem, hpw, t, q, r, pre, mid, post ++ evs, ?_, hq.congr hc,
    hr.congr hc, hd, hk⟩
  rw [hevs, hlog]
  simp

/-- What holds in every run. -/
structure ServingInv (env : Env) (d₀ : PairedDevice) (s : Serving) : Prop where
  inv : Inv env s.base
  accepted : Sealed env d₀ s.base
  sampled : s.run.state = .success → ∃ t r, Event.accepted t r ∈ s.base.log
  repolling : s.run.pc.repolling = true → s.run.state ≠ .success
  result : ∀ result, s.run.pc = .returned result → result.state = .success →
    Authenticated env s.base result

theorem servingInv_fresh {s : Serving} (h : s.Fresh) :
    ServingInv env s.base.conn.pairedDevice s := by
  refine ⟨inv_initial h.base, sealed_initial h.base, ?_, ?_, ?_⟩
  · intro hs; rw [h.run] at hs; cases hs
  · intro hp; rw [h.run] at hp; cases hp
  · intro result hr; rw [h.run] at hr; cases hr

/-- After an acceptance, what the decryption reads belongs to the accepted response. -/
theorem ServingInv.authenticated {s : Serving} (h : ServingInv env d₀ s)
    (hs : s.run.state = .success) {password : Str}
    (hpw : env.crypt.decryptAES s.base.conn.pairedDevice.passwordEnc
      s.base.conn.responseData.passwordKey = some password) :
    Authenticated env s.base (s.run.result s.base.conn.pairedDevice s.base.conn.responseData
      (some password)) := by
  obtain ⟨t, r, hr⟩ := h.sampled hs
  obtain ⟨-, -, hmem, t', q, r', pre, mid, post, hlog, hq, hresp, hd, hdata⟩ :=
    h.accepted.after t r hr
  have hkey : (s.run.result s.base.conn.pairedDevice s.base.conn.responseData
      (some password)).passwordKey = s.base.conn.responseData.passwordKey := by
    simp [Runner.result, hs]
  refine ⟨hmem, ?_, t', q, r', pre, mid, post, hlog, hq, hresp, hd, ?_⟩
  · rw [hkey]; exact hpw
  · rw [hkey, hdata]

theorem RunPc.left_of_repolling {pc : RunPc} (h : pc.repolling = true) : pc.left = true := by
  cases pc <;> first | rfl | cases h

/-- The sampled state changes by a poll, or to a state that no connection reported. -/
theorem Serving.state_move {s : Serving} {answer : RunInput} {shared : Option UnlockState}
    {hasConnected : Bool} {r' : Runner} {effects : List RunEffect}
    (hmove : RunMove s.run (s.input env answer shared hasConnected) r' effects) :
    r'.state = s.run.state ∨ r'.state = .unknown ∨ r'.state = .canceled ∨ r'.state = .timeout ∨
    ((s.run.pc = .poll ∨ s.run.pc = .latest) ∧
      r'.state = pollResult s.isBluetooth s.base.conn (sharedError shared) hasConnected) := by
  have hpolled : ∀ st, (s.run.pc = .poll ∨ s.run.pc = .latest) →
      s.input env answer shared hasConnected = .state st →
      st = pollResult s.isBluetooth s.base.conn (sharedError shared) hasConnected := by
    rintro st (hpc | hpc) hin
    · simpa [Serving.input, hpc] using hin.symm
    · simpa [Serving.input, hpc] using hin.symm
  generalize hin : s.input env answer shared hasConnected = input at hmove
  cases hmove with
  | inside input r' effects hold hnew hstate hsilent => exact Or.inl hstate
  | poll st pc hpc hnew =>
      exact Or.inr (Or.inr (Or.inr (Or.inr ⟨Or.inl hpc, hpolled st (Or.inl hpc) hin⟩)))
  | retry input effects hpc heff => exact Or.inr (Or.inl rfl)
  | giveUp input st hold hst =>
      rcases hst with rfl | rfl
      · exact Or.inr (Or.inr (Or.inl rfl))
      · exact Or.inr (Or.inr (Or.inr (Or.inl rfl)))
  | latest st hpc =>
      by_cases hu : st = .unknown
      · exact Or.inl (by simp [hu])
      · have hst := hpolled st (Or.inr hpc) hin
        exact Or.inr (Or.inr (Or.inr (Or.inr ⟨Or.inr hpc, by simp [hu, ← hst]⟩)))
  | _ => exact Or.inl rfl

/-- A state that is sampled as `SUCCESS` was reached by accepting a response. -/
theorem ServingInv.sampled_move {s : Serving} (h : ServingInv env d₀ s) {answer : RunInput}
    {shared : Option UnlockState} {hasConnected : Bool} {r' : Runner} {effects : List RunEffect}
    (hmove : RunMove s.run (s.input env answer shared hasConnected) r' effects)
    (hs : r'.state = .success) : ∃ t r, Event.accepted t r ∈ s.base.log := by
  rcases Serving.state_move hmove with hold | hst | hst | hst | ⟨-, hpoll⟩
  · exact h.sampled (hold ▸ hs)
  · rw [hs] at hst; cases hst
  · rw [hs] at hst; cases hst
  · rw [hs] at hst; cases hst
  · rw [hs] at hpoll
    exact h.inv.accepted_of_success (pollResult_eq_success hpoll.symm)

theorem servingInv_step {s s' : Serving} {l : ServingLabel} (h : ServingInv env d₀ s)
    (hs : s.step env l = some s') : ServingInv env d₀ s' := by
  obtain ⟨k, hk⟩ := Serving.step_base hs
  have hinv := inv_step h.inv hk
  have hsealed := sealed_step h.inv h.accepted hk
  cases l with
  | conn l =>
      obtain ⟨-, hrun, -⟩ := Serving.step_conn hs
      refine ⟨hinv, hsealed, ?_, ?_, ?_⟩
      · intro hst
        obtain ⟨t, r, hr⟩ := h.sampled (hrun ▸ hst)
        exact ⟨t, r, System.log_mono hk hr⟩
      · rw [hrun]; exact h.repolling
      · intro result hr hst
        exact (h.result result (hrun ▸ hr) hst).step hk
  | run answer shared hasConnected =>
      obtain ⟨effects, hmove, -, -⟩ := Serving.step_run hs
      refine ⟨hinv, hsealed, ?_, ?_, ?_⟩
      · intro hst
        obtain ⟨t, r, hr⟩ := h.sampled_move hmove hst
        exact ⟨t, r, System.log_mono hk hr⟩
      · intro hpc
        have hleft := RunPc.left_of_repolling hpc
        generalize s.input env answer shared hasConnected = input at hmove
        generalize s'.run = r' at hmove hpc hleft
        cases hmove with
        | inside input r' effects hold hnew hstate hsilent => rw [hnew] at hleft; cases hleft
        | poll st pc hpc' hnew => rw [hnew] at hleft; cases hleft
        | after input pc effects hold hnew hret hdec hrepoll hsilent =>
            rcases hrepoll hpc with hrep | hne
            · exact h.repolling hrep
            · exact hne
        | _ => cases hpc
      · intro result hret hst
        rcases hmove.returned_cases hret with rfl | ⟨device, data, pwDec, hpc, hin, hnot, rfl⟩ | ⟨-, rfl⟩
        · cases hst
        · have hsucc : s.run.state = .success := hst
          cases pwDec with
          | none => exact absurd ⟨rfl, hsucc⟩ hnot
          | some password =>
              simp only [Serving.input, hpc, RunInput.secret.injEq] at hin
              obtain ⟨rfl, rfl, hpw⟩ := hin
              exact (h.authenticated hsucc hpw).step hk
        · cases hst

/-! ## The password -/

/-- The step of `RunServer` leaves the loop, and not with `SUCCESS`. -/
def Serving.leaves (env : Env) (s : Serving) (answer : RunInput) (shared : Option UnlockState)
    (hasConnected : Bool) : Bool :=
  match runStep s.windows s.base.conn.otherClient s.run (s.input env answer shared hasConnected) with
  | none => false
  | some (r, _) => !s.run.pc.left && r.pc.left && r.state ≠ .success

/-- On Windows, `RunServer` polls a client of a Bluetooth device again after `Stop`. -/
def Serving.pollsAgain (s : Serving) : Bool :=
  s.windows && !s.base.needsDeviceID && s.base.conn.pairedDevice.pairingMethod = .bluetooth

/-- `RunServer` does not leave its loop without `SUCCESS` once a response was or is being
accepted, and no response is accepted after it did, unless it polls again. -/
def NoLateResponse (env : Env) (s : Serving) : ServingLabel → Prop
  | .conn (.flow t .tau) => s.pollsAgain = false → (∃ r, s.base.flows t = some (.accept r)) →
      s.run.pc.left = false ∨ s.run.state = .success
  | .run answer shared hasConnected => s.pollsAgain = false →
      s.leaves env answer shared hasConnected = true → NotAccepted s.base
  | _ => True

theorem NotAccepted.step {s s' : System} {l : Label} (h : NotAccepted s)
    (hl : ∀ t r, l = .flow t .tau → s.flows t ≠ some (.accept r)) (hs : s.step env l = some s') :
    NotAccepted s' := by
  cases System.step_move hs with
  | spawn t hf hmode =>
      refine ⟨h.1, ?_⟩
      intro u g hg
      rcases update_eq_some hg with ⟨rfl, he⟩ | ⟨-, hold⟩
      · cases he; rfl
      · exact h.2 u g hold
  | flow t i f c n evs hf hmove =>
      have hfa := h.2 t f hf
      refine ⟨?_, ?_⟩
      · intro u r hr
        rcases List.mem_append.mp hr with hr | hr
        · exact h.1 u r hr
        · exact (hmove.result_eq hfa).2.2 u r hr
      · intro u g hg
        rcases update_eq_some hg with ⟨rfl, rfl⟩ | ⟨-, hold⟩
        · by_contra hga
          rcases hmove.accepting_next (by simpa using hga) with ha | ⟨-, r, rfl, rfl⟩
          · rw [hfa] at ha; cases ha
          · exact hl u r rfl hf
        · exact h.2 u g hold
  | _ => exact h

/-- Without an accepted response a result has no password, so that it is enough to know what was
accepted before the decryption. -/
theorem ServingInv.password_move {s : Serving} (hI : ServingInv env d₀ s)
    (hsecret : ∀ text, env.crypt.decryptAES d₀.passwordEnc [] = some text → text = [])
    (hdecrypt : s.run.pc = .decrypt → s.run.state ≠ .success → NotAccepted s.base)
    {answer : RunInput} {shared : Option UnlockState} {hasConnected : Bool} {r' : Runner}
    {effects : List RunEffect} {result : UnlockResult}
    (hmove : RunMove s.run (s.input env answer shared hasConnected) r' effects)
    (hret : r'.pc = .returned result) (hpw : result.password ≠ []) : result.state = .success := by
  rcases hmove.returned_cases hret with rfl | ⟨device, data, pwDec, hpc, hin, -, rfl⟩ | ⟨-, rfl⟩
  · exact absurd rfl hpw
  · by_contra hne
    obtain ⟨hd, hdata⟩ := hI.accepted.before (hdecrypt hpc hne)
    simp only [Serving.input, hpc, RunInput.secret.injEq] at hin
    obtain ⟨rfl, rfl, hdec⟩ := hin
    rw [hd, hdata] at hdec
    have hempty : pwDec.getD [] = [] := by
      cases pwDec with
      | none => rfl
      | some text => exact hsecret text hdec
    exact hpw hempty
  · exact absurd rfl hpw

/-- What holds in addition while no response is late. -/
structure Guarded (s : Serving) : Prop where
  notAccepted : s.run.pc.left = true → s.run.state ≠ .success → NotAccepted s.base
  password : ∀ result, s.run.pc = .returned result → result.password ≠ [] →
    result.state = .success

theorem Guarded.conn {s s' : Serving} {l : Label} (hG : Guarded s) (hagain : s.pollsAgain = false)
    (hl : NoLateResponse env s (.conn l)) (hs : s.step env (.conn l) = some s') : Guarded s' := by
  obtain ⟨hbase, hrun, -⟩ := Serving.step_conn hs
  refine ⟨?_, ?_⟩
  · rw [hrun]
    intro hleft hne
    refine (hG.notAccepted hleft hne).step ?_ hbase
    rintro t r rfl hf
    rcases hl hagain ⟨r, hf⟩ with hin | hsucc
    · rw [hleft] at hin; cases hin
    · exact hne hsucc
  · rw [hrun]; exact hG.password

/-- Where `RunServer` stands after the loop without `SUCCESS`, no response was accepted. -/
theorem Guarded.notAccepted_move {s : Serving} (hG : Guarded s) (hI : ServingInv env d₀ s)
    (hagain : s.pollsAgain = false) {answer : RunInput} {shared : Option UnlockState}
    {hasConnected : Bool} {r' : Runner} {effects : List RunEffect}
    (hl : NoLateResponse env s (.run answer shared hasConnected))
    (hstep : runStep s.windows s.base.conn.otherClient s.run
      (s.input env answer shared hasConnected) = some (r', effects))
    (hleft : r'.pc.left = true) (hne : r'.state ≠ .success) : NotAccepted s.base := by
  cases hold : s.run.pc.left with
  | false =>
      have hleaves : s.leaves env answer shared hasConnected = true := by
        simp [Serving.leaves, hstep, hold, hleft, hne]
      exact hl hagain hleaves
  | true =>
      -- after the loop only the second poll changes the state, and it replaces no `SUCCESS`
      refine hG.notAccepted hold ?_
      intro hsucc
      have hmove := runStep_move hstep
      generalize s.input env answer shared hasConnected = input at hmove
      cases hmove with
      | inside input r' effects hold' hnew hstate hsilent => rw [hold] at hold'; cases hold'
      | poll st pc hpc hnew => rw [hpc] at hold; cases hold
      | retry input effects hpc heff => rw [hpc] at hold; cases hold
      | giveUp input st hold' hst => rw [hold] at hold'; cases hold'
      | latest st hpc => exact hI.repolling (by rw [hpc]; rfl) hsucc
      | _ => exact hne hsucc

theorem Guarded.run {s s' : Serving} (hG : Guarded s) (hI : ServingInv env d₀ s)
    (hsecret : ∀ text, env.crypt.decryptAES d₀.passwordEnc [] = some text → text = [])
    (hagain : s.pollsAgain = false) {answer : RunInput} {shared : Option UnlockState}
    {hasConnected : Bool} (hl : NoLateResponse env s (.run answer shared hasConnected))
    (hs : s.step env (.run answer shared hasConnected) = some s') : Guarded s' := by
  obtain ⟨-, -, ⟨b, hbase⟩, -⟩ := Serving.step_run hs
  simp only [Serving.step] at hs
  split at hs
  · cases hs
  · next run effects hstep =>
      obtain ⟨m, hm, rfl⟩ := Option.map_eq_some_iff.mp hs
      refine ⟨?_, ?_⟩
      · intro hleft hne
        exact (hG.notAccepted_move hI hagain hl hstep hleft hne).step (by rintro t r ⟨⟩) hbase
      · intro result hret hpw
        have hdecrypt : s.run.pc = .decrypt → s.run.state ≠ .success → NotAccepted s.base :=
          fun hpc => hG.notAccepted (by rw [hpc]; rfl)
        exact hI.password_move hsecret hdecrypt (runStep_move hstep) hret hpw

/-! ## The second poll

A client of a Bluetooth device on Windows is polled again when its thread is joined. A response
that was accepted before is then found, because nothing changes a client's `SUCCESS`. -/

/-- Accepting a response is the store of `SUCCESS`, which a client keeps. -/
theorem client_accepted_step {s s' : System} {l : Label} (hb : s.needsDeviceID = false)
    (hC : ClientInv s)
    (hkept : ∀ t r, Event.accepted t r ∈ s.log → s.conn.unlockState = .success)
    (h : s.step env l = some s') (t : StreamId) (r : Response)
    (hr : Event.accepted t r ∈ s'.log) : s'.conn.unlockState = .success := by
  by_cases hold : ∃ u q, Event.accepted u q ∈ s.log
  · obtain ⟨u, q, hq⟩ := hold
    exact (client_step_keeps hb hC (hkept u q hq) h).1
  · have hnew : Event.accepted t r ∉ s.log := fun hmem => hold ⟨t, r, hmem⟩
    cases System.step_move h with
    | flow u i f c n evs hf hmove =>
        have hmem : Event.accepted t r ∈ evs := (List.mem_append.mp hr).resolve_left hnew
        cases hmove with
        | acceptState q => rfl
        | requestSent d seed q hq => cases List.mem_singleton.mp hmem
        | answerSent d seed q hq => cases List.mem_singleton.mp hmem
        | readPacket p hp => cases List.mem_singleton.mp hmem
        | _ => cases hmem
    | _ => exact absurd hr hnew

theorem pollResult_success {b hasConnected : Bool} {c : Conn} {shared : Option UnlockState}
    (h : c.unlockState = .success) : pollResult b c shared hasConnected = .success := by
  unfold pollResult
  cases b with
  | false => simpa using h
  | true => simp [h]

/-- What holds in addition when `RunServer` polls again. -/
structure PolledAgain (s : Serving) : Prop where
  threads : ThreadInv s.base
  client : ClientInv s.base
  kept : ∀ t r, Event.accepted t r ∈ s.base.log → s.base.conn.unlockState = .success
  joined : s.run.pc.afterJoin = true → s.joined = true ∧ s.base.live = []
  decrypt : s.run.pc = .decrypt → s.run.state ≠ .success → NotAccepted s.base
  password : ∀ result, s.run.pc = .returned result → result.password ≠ [] →
    result.state = .success

theorem PolledAgain.conn {s s' : Serving} {l : Label} (hP : PolledAgain s)
    (hI : ServingInv env d₀ s) (hb : s.base.needsDeviceID = false)
    (hs : s.step env (.conn l) = some s') : PolledAgain s' := by
  obtain ⟨hbase, hrun, -, hjoined⟩ := Serving.step_conn hs
  -- the thread moves, so that it is not joined yet
  have hbefore : s.run.pc.afterJoin = true → False := by
    intro hafter
    rw [(hP.joined hafter).1] at hjoined
    cases hjoined
  refine ⟨threadInv_step hP.threads hbase, clientInv_step hb hI.inv hP.threads hP.client hbase,
    client_accepted_step hb hP.client hP.kept hbase, ?_, ?_, ?_⟩
  · rw [hrun]; exact fun hafter => (hbefore hafter).elim
  · rw [hrun]
    intro hpc
    exact (hbefore (by rw [hpc]; rfl)).elim
  · rw [hrun]; exact hP.password

/-- At the second poll an accepted response shows. -/
theorem PolledAgain.decrypt_move {s : Serving} (hP : PolledAgain s) (hagain : s.pollsAgain = true)
    {answer : RunInput} {shared : Option UnlockState} {hasConnected : Bool} {r' : Runner}
    {effects : List RunEffect}
    (hstep : runStep s.windows s.base.conn.otherClient s.run
      (s.input env answer shared hasConnected) = some (r', effects))
    (hpc : r'.pc = .decrypt) (hne : r'.state ≠ .success) : NotAccepted s.base := by
  simp only [Serving.pollsAgain, Bool.and_eq_true, decide_eq_true_eq] at hagain
  obtain ⟨⟨hwindows, -⟩, hbluetooth⟩ := hagain
  rcases runStep_afterJoin hstep (by rw [hpc]; rfl) with
    ⟨-, hstate, -, hsucc⟩ | ⟨hrepoll, -, hflag⟩ | ⟨hlatest, st, hin, hstate⟩
  · rw [hstate] at hne
    exact absurd (hsucc hpc hwindows) hne
  · have hin := hflag hpc
    simp [Serving.input, hrepoll, hbluetooth] at hin
  -- no thread is left, so what was accepted shows in the state, and nothing is being accepted
  · have hlive := (hP.joined (by rw [hlatest]; rfl)).2
    refine ⟨?_, ?_⟩
    · intro t r hr
      simp only [Serving.input, hlatest, RunInput.state.injEq] at hin
      rw [pollResult_success (hP.kept t r hr)] at hin
      refine hne ?_
      rw [hstate, ← hin]
      simp
    · intro t f hf
      have hmem := hP.threads.live t f hf
      rw [hlive] at hmem
      cases hmem

theorem PolledAgain.run {s s' : Serving} (hP : PolledAgain s) (hI : ServingInv env d₀ s)
    (hsecret : ∀ text, env.crypt.decryptAES d₀.passwordEnc [] = some text → text = [])
    (hagain : s.pollsAgain = true) (hb : s.base.needsDeviceID = false) {answer : RunInput}
    {shared : Option UnlockState} {hasConnected : Bool}
    (hs : s.step env (.run answer shared hasConnected) = some s') : PolledAgain s' := by
  obtain ⟨-, -, ⟨b, hbase⟩, -⟩ := Serving.step_run hs
  simp only [Serving.step] at hs
  split at hs
  · cases hs
  · next run effects hstep =>
      obtain ⟨m, hm, rfl⟩ := Option.map_eq_some_iff.mp hs
      obtain ⟨⟨b', hb'⟩, -, -, hmono⟩ := Serving.effects_base hm
      have hlive : m.base.live = s.base.live := by rw [hb']
      refine ⟨threadInv_step hP.threads hbase, clientInv_step hb hI.inv hP.threads hP.client hbase,
        client_accepted_step hb hP.client hP.kept hbase, ?_, ?_, ?_⟩
      · intro hafter
        show m.joined = true ∧ m.base.live = []
        rw [hlive]
        rcases runStep_afterJoin hstep hafter with ⟨-, -, rfl, -⟩ | ⟨hpc, -⟩ | ⟨hpc, -⟩
        · simp only [List.foldlM_cons, List.foldlM_nil, Serving.effect] at hm
          split at hm
          · next hnil => cases hm; exact ⟨rfl, hnil⟩
          · cases hm
        · obtain ⟨hj, hnil⟩ := hP.joined (by rw [hpc]; rfl)
          exact ⟨hmono hj, hnil⟩
        · obtain ⟨hj, hnil⟩ := hP.joined (by rw [hpc]; rfl)
          exact ⟨hmono hj, hnil⟩
      · intro hpc hne
        exact (hP.decrypt_move hagain hstep hpc hne).step (by rintro t r ⟨⟩) hbase
      · intro result hret hpw
        exact hI.password_move hsecret hP.decrypt (runStep_move hstep) hret hpw

/-! ## Every run -/

/-- A client has one device, so whether it is polled again does not change. -/
theorem Serving.pollsAgain_step {s s' : Serving} {l : ServingLabel} (hI : Inv env s.base)
    (hone : s.base.needsDeviceID = false → s.base.conn.allowedDevices = [d₀])
    (hs : s.step env l = some s') : s'.pollsAgain = s.pollsAgain := by
  obtain ⟨k, hk⟩ := Serving.step_base hs
  obtain ⟨hmode, hconfig⟩ := step_config hk
  have hI' := inv_step hI hk
  cases hb : s.base.needsDeviceID with
  | true => simp [Serving.pollsAgain, hmode, hb]
  | false =>
      have hd : s.base.conn.pairedDevice = d₀ := by
        have hmem := hI.client hb
        rw [hone hb] at hmem
        exact List.mem_singleton.mp hmem
      have hd' : s'.base.conn.pairedDevice = d₀ := by
        have hmem := hI'.client (hmode.trans hb)
        rw [hconfig.allowedDevices, hone hb] at hmem
        exact List.mem_singleton.mp hmem
      simp [Serving.pollsAgain, Serving.step_windows hs, hmode, hd, hd']

/-- What every run keeps, whatever the network does. -/
structure ServingFrame (env : Env) (d₀ : PairedDevice) (again : Bool) (s : Serving) : Prop where
  inv : ServingInv env d₀ s
  one : s.base.needsDeviceID = false → s.base.conn.allowedDevices = [d₀]
  again : s.pollsAgain = again

theorem ServingFrame.fresh {s : Serving} (h : s.Fresh) :
    ServingFrame env s.base.conn.pairedDevice s.pollsAgain s :=
  ⟨servingInv_fresh h, h.base.one_device, rfl⟩

theorem ServingFrame.step {again : Bool} {s s' : Serving} {l : ServingLabel}
    (h : ServingFrame env d₀ again s) (hs : s.step env l = some s') :
    ServingFrame env d₀ again s' := by
  obtain ⟨k, hk⟩ := Serving.step_base hs
  obtain ⟨hmode, hconfig⟩ := step_config hk
  refine ⟨servingInv_step h.inv hs, ?_, ?_⟩
  · intro hb
    rw [hconfig.allowedDevices]
    exact h.one (hmode ▸ hb)
  · rw [Serving.pollsAgain_step h.inv.inv h.one hs]
    exact h.again

/-- **The password leaves `RunServer` only with `SUCCESS`, unless a response is late.** In
every run of `RunServer` with its connection: a returned `SUCCESS` carries the device and the
key of one authenticated response and the password they decrypt to; and a returned password is
not empty only with `SUCCESS`, if no response is accepted after the last poll and the stored
password does not decrypt with an empty key. -/
theorem password_only_with_success {s₀ s : Serving} {ls : List ServingLabel} {result : UnlockResult}
    (h₀ : s₀.Fresh) (hrun : exec (Serving.step env) s₀ ls = some s)
    (hret : s.run.pc = .returned result) :
    (result.state = .success → Authenticated env s.base result) ∧
    (Along (Serving.step env) (NoLateResponse env) s₀ ls →
      (∀ text, env.crypt.decryptAES s₀.base.conn.pairedDevice.passwordEnc [] = some text →
        text = []) →
      result.password ≠ [] → result.state = .success) := by
  refine ⟨?_, ?_⟩
  · exact (exec_inv (fun _ _ _ hI hs => servingInv_step hI hs) (servingInv_fresh h₀)
      hrun).result result hret
  · intro hcond hsecret
    have hF₀ : ServingFrame env s₀.base.conn.pairedDevice s₀.pollsAgain s₀ := .fresh h₀
    cases hagain : s₀.pollsAgain with
    | false =>
        rw [hagain] at hF₀
        have hG₀ : Guarded s₀ := by
          refine ⟨?_, ?_⟩
          · intro hleft; rw [h₀.run] at hleft; cases hleft
          · intro result hr; rw [h₀.run] at hr; cases hr
        refine (exec_inv_along
          (I := fun a => ServingFrame env s₀.base.conn.pairedDevice false a ∧ Guarded a)
          ?_ ⟨hF₀, hG₀⟩ hcond hrun).2.password result hret
        rintro a l b ⟨hF, hG⟩ hl hab
        refine ⟨hF.step hab, ?_⟩
        cases l with
        | conn l => exact hG.conn hF.again hl hab
        | run answer shared hasConnected => exact hG.run hF.inv hsecret hF.again hl hab
    | true =>
        rw [hagain] at hF₀
        have hP₀ : PolledAgain s₀ := by
          refine ⟨threadInv_initial h₀.base, clientInv_initial h₀.base, ?_, ?_, ?_, ?_⟩
          · intro t r hr
            rw [h₀.base.log_nil] at hr
            cases hr
          · intro hafter; rw [h₀.run] at hafter; cases hafter
          · intro hpc; rw [h₀.run] at hpc; cases hpc
          · intro result hr; rw [h₀.run] at hr; cases hr
        refine (exec_inv
          (I := fun a => ServingFrame env s₀.base.conn.pairedDevice true a ∧ PolledAgain a)
          ?_ ⟨hF₀, hP₀⟩ hrun).2.password result hret
        rintro a l b ⟨hF, hP⟩ hab
        refine ⟨hF.step hab, ?_⟩
        have hb : a.base.needsDeviceID = false := by
          have htrue := hF.again
          simp only [Serving.pollsAgain, Bool.and_eq_true, Bool.not_eq_true'] at htrue
          exact htrue.1.2
        cases l with
        | conn l => exact hP.conn hF.inv hb hab
        | run answer shared hasConnected => exact hP.run hF.inv hsecret hF.again hb hab

end

namespace Sample

/-- A device whose stored password is `pw`, under the key that the phone sends. -/
def lockedDevice : PairedDevice :=
  { device with passwordEnc := toHexString (str "P" ++ 0 :: str "pw") }

/-- A client for it, with its `RunServer`. -/
def serving : Serving :=
  { base :=
      { conn := { (Conn.ofDevice token lockedDevice).setUnlockInfo (str "u") (str "p") with
          otherClient := false }
        needsDeviceID := false }
    windows := false
    isBluetooth := false }

theorem serving_fresh : serving.Fresh :=
  ⟨.client token (str "u") (str "p") lockedDevice false, rfl, rfl⟩

def thread (is : List Input) : List ServingLabel := is.map (fun i => .conn (.flow 0 i))

def run (answers : List RunInput) : List ServingLabel := answers.map (fun a => .run a none false)

/-- The client is started, connects and sends its request. -/
def requests : List ServingLabel :=
  run [.flag true] ++ [ServingLabel.conn (.running true), .conn (.spawn 0)] ++
    thread [.tau, .tau, .write 0 .none, .tau]

/-- The phone's response is accepted. -/
def phoneResponds : List ServingLabel :=
  thread [.packet ⟨.none, PACKET_ID_UNLOCK_RESPONSE, responseText⟩, .tau, .clock 0, .tau, .tau, .tau,
    .tau, .tau]

/-- One pass through the loop, up to the test of the polled state. -/
def polls : List ServingLabel := run [.state .unknown, .flag true, .tau, .tau, .tau, .tau, .tau]

/-- From the end of the loop to the result; the thread ends when the stream is closed. -/
def returns : List ServingLabel :=
  run [.flag false, .flag false, .tau, .tau] ++
    thread [.packet ⟨.closedConnection, 0, []⟩, .tau, .tau] ++ run [.tau, .tau]

/-- A test for `NoLateResponse`. -/
def isInTime (s : Serving) : ServingLabel → Bool
  | .conn _ => !s.run.pc.left || s.run.state = .success
  | .run answer shared hasConnected => !s.leaves env answer shared hasConnected

theorem noLateResponse_of_test (s : Serving) (l : ServingLabel) (h : isInTime s l = true) :
    NoLateResponse env s l := by
  cases l with
  | conn l =>
      have hin : s.run.pc.left = false ∨ s.run.state = .success := by simpa [isInTime] using h
      cases l with
      | flow t i => cases i <;> first | exact trivial | exact fun _ _ => hin
      | _ => exact trivial
  | run answer shared hasConnected =>
      intro _ hleaves
      simp [isInTime, hleaves] at h

end Sample

/-- The user cancels after a poll, and the response is accepted before the thread is joined. -/
theorem password_without_success : ∃ s result,
    Sample.serving.Fresh ∧
    exec (Serving.step Sample.env) Sample.serving (Sample.requests ++ Sample.polls ++
      Sample.run [.flag false, .tau, .state .unknown, .flag false] ++ Sample.phoneResponds ++
      Sample.returns) = some s ∧
    s.run.pc = .returned result ∧ result.password = str "pw" ∧ result.state = .canceled := by
  have hrun : (exec (Serving.step Sample.env) Sample.serving (Sample.requests ++ Sample.polls ++
      Sample.run [.flag false, .tau, .state .unknown, .flag false] ++ Sample.phoneResponds ++
      Sample.returns)).map (·.run.pc) =
      some (.returned ⟨.canceled, Sample.lockedDevice, str "pw", []⟩) := by
    decide +kernel
  obtain ⟨s, hs, hpc⟩ := Option.map_eq_some_iff.mp hrun
  exact ⟨s, _, Sample.serving_fresh, hs, hpc, rfl, rfl⟩

/-- The response is accepted before the poll. -/
theorem password_only_with_success_sample : ∃ s result,
    exec (Serving.step Sample.env) Sample.serving (Sample.requests ++ Sample.phoneResponds ++
      Sample.polls ++ Sample.returns) = some s ∧
    s.run.pc = .returned result ∧ result.password = str "pw" ∧ result.state = .success ∧
    Authenticated Sample.env s.base result := by
  have hrun : (exec (Serving.step Sample.env) Sample.serving (Sample.requests ++
      Sample.phoneResponds ++ Sample.polls ++ Sample.returns)).map (·.run.pc) =
      some (.returned ⟨.success, Sample.lockedDevice, str "pw", str "P"⟩) := by
    decide +kernel
  obtain ⟨s, hs, hpc⟩ := Option.map_eq_some_iff.mp hrun
  have hmain := password_only_with_success Sample.serving_fresh hs hpc
  have hcond : Along (Serving.step Sample.env) (NoLateResponse Sample.env) Sample.serving
      (Sample.requests ++ Sample.phoneResponds ++ Sample.polls ++ Sample.returns) :=
    along_of_check Sample.noLateResponse_of_test (by decide +kernel)
  have hsecret : ∀ text, Sample.env.crypt.decryptAES
      Sample.serving.base.conn.pairedDevice.passwordEnc [] = some text → text = [] := by
    have hnone : Sample.env.crypt.decryptAES Sample.serving.base.conn.pairedDevice.passwordEnc [] =
        none := by decide +kernel
    intro text ht
    rw [hnone] at ht
    cases ht
  have hstate := hmain.2 hcond hsecret (by decide)
  exact ⟨s, _, hs, hpc, rfl, hstate, hmain.1 hstate⟩

end PcbuDesktop
