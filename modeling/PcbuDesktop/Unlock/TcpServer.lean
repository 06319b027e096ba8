import PcbuDesktop.Unlock.Stability

set_option autoImplicit false

/-! # `TCPUnlockServer`

The server of `connection/unlock/servers/TCPUnlockServer.cpp`: an accept thread, and a client
thread for every accepted socket, which calls `PerformAuthFlow`. Every access of these threads
to the members of the base class is a step of `System`, so that the server's runs are runs of
`System` (`TCPUnlockServer.base_run`); what is added is which steps the threads can take, and
when.

The result of this file is about peers that cannot encrypt under the key of a paired device.
`HandleUnverifiedError` is there so that such a peer ends only its own connection. It does so
for everything but the plain text error of a response, which is not verified either.
-/

namespace PcbuDesktop

open Runs

/-! ## The threads -/

def MAX_CLIENTS : Int := 10

/-- The calls of `AcceptThread` before its loop. -/
inductive SetupCall where
  | settings
  | socket
  | reuseAddr
  | noDelay
  | bind
  | listen
  | nonBlocking
  deriving DecidableEq, Repr

/-- The program points of the accept thread. -/
inductive AcceptPc where
  /-- `Start` was not called -/
  | idle
  | setup (call : SetupCall)
  /-- the test of `m_IsRunning` -/
  | loop
  /-- the test of `m_NumConnections` -/
  | count
  | accept
  /-- `SetSocketBlocking(clientSocket, false)` -/
  | configure (t : StreamId)
  /-- `clientThreads.emplace_back` -/
  | start (t : StreamId)
  /-- a store to `m_UnlockState` before `threadEnd` -/
  | fail (store : OuterStore)
  /-- `socket()` failed: the thread returns without `threadEnd` -/
  | abort
  | abortStore
  /-- the handler in `Start` -/
  | caught
  | caughtStop
  | threadEnd
  | join
  | done
  deriving DecidableEq, Repr

def SetupCall.next : SetupCall → AcceptPc
  | .settings => .setup .socket
  | .socket => .setup .reuseAddr
  | .reuseAddr => .setup .noDelay
  | .noDelay => .setup .bind
  | .bind => .setup .listen
  | .listen => .setup .nonBlocking
  | .nonBlocking => .loop

def SetupCall.failed : SetupCall → AcceptPc
  | .settings => .caught
  | .socket => .abort
  | .bind => .fail .portError
  | _ => .fail .localError

/-- The program points of `ClientThread`. -/
inductive ClientPc where
  /-- `++m_NumConnections` -/
  | count
  /-- inside `PerformAuthFlow` or its handler -/
  | flow
  /-- `--m_NumConnections` -/
  | uncount
  /-- `PollResult() == UnlockState::UNKNOWN` -/
  | poll
  /-- `m_NumConnections > 0` -/
  | recount
  | setPhase (phase : UnlockPhase)
  | close
  deriving DecidableEq, Repr

/-- The server: the members of the base class with the threads inside `PerformAuthFlow`, and
the program points outside of it. -/
structure TCPUnlockServer where
  base : System
  accept : AcceptPc := .idle
  numConnections : Int := 0
  clients : StreamId → Option ClientPc := fun _ => none
  clientThreads : List StreamId := []

/-- What the environment answers to the accept thread. -/
inductive AcceptInput where
  | tau
  /-- a call returned, with or without success (an exception counts as a failure) -/
  | result (ok : Bool)
  | wouldBlock
  /-- a connection, for whose stream the new thread uses the name `t` -/
  | socket (t : StreamId)
  deriving DecidableEq, Repr

inductive ServerLabel where
  /-- `Start()` -/
  | start
  /-- the store of `Stop()` -/
  | stop
  | accept (input : AcceptInput)
  | client (t : StreamId) (input : Input)
  deriving DecidableEq, Repr

namespace TCPUnlockServer

/-- One step of the accept thread: the server after it, and the accesses to the members of the
base class. -/
def acceptStep (s : TCPUnlockServer) (input : AcceptInput) :
    Option (TCPUnlockServer × List Label) :=
  match s.accept, input with
  | .setup call, .result true => some ({ s with accept := call.next }, [])
  | .setup call, .result false => some ({ s with accept := call.failed }, [])
  | .loop, .tau =>
      some ({ s with accept := if s.base.conn.isRunning then .count else .threadEnd }, [])
  | .count, .tau =>
      some ({ s with accept := if s.numConnections ≥ MAX_CLIENTS then .loop else .accept }, [])
  | .accept, .wouldBlock => some ({ s with accept := .loop }, [])
  -- a failing `accept` ends the loop and leaves the state as it is
  | .accept, .result false => some ({ s with accept := .threadEnd }, [])
  | .accept, .socket t =>
      -- the name of a stream is not in use when a new stream gets it
      if s.clients t = none then some ({ s with accept := .configure t }, []) else none
  | .configure t, .result true => some ({ s with accept := .start t }, [])
  | .configure _, .result false => some ({ s with accept := .fail .localError }, [])
  | .start t, .result true =>
      some ({ s with
        accept := .loop
        clients := Function.update s.clients t (some .count)
        clientThreads := s.clientThreads ++ [t] }, [])
  | .start _, .result false => some ({ s with accept := .fail .localError }, [])
  | .fail store, .tau => some ({ s with accept := .threadEnd }, [.outer store])
  | .abort, .tau => some ({ s with accept := .abortStore }, [.running false])
  | .abortStore, .tau => some ({ s with accept := .done }, [.outer .localError])
  | .caught, .tau => some ({ s with accept := .caughtStop }, [.outer .localError])
  | .caughtStop, .tau => some ({ s with accept := .done }, [.running false])
  | .threadEnd, .tau => some ({ s with accept := .join }, [.running false])
  | .join, .tau =>
      if ∀ t ∈ s.clientThreads, s.clients t = none then some ({ s with accept := .done }, [])
      else none
  | _, _ => none

/-- One step of the client thread of stream `t`. -/
def clientStep (s : TCPUnlockServer) (t : StreamId) (input : Input) :
    Option (TCPUnlockServer × List Label) :=
  let goto (pc : Option ClientPc) := { s with clients := Function.update s.clients t pc }
  match s.clients t, input with
  | some .count, .tau =>
      some ({ goto (some .flow) with numConnections := s.numConnections + 1 }, [.spawn t])
  | some .flow, input =>
      -- the thread is inside `PerformAuthFlow` as long as the base class has a program point for it
      if s.base.flows t ≠ none then some (s, [.flow t input])
      else if input = .tau then some (goto (some .uncount), [])
      else none
  | some .uncount, .tau =>
      some ({ goto (some .poll) with numConnections := s.numConnections - 1 }, [])
  | some .poll, .tau =>
      some (goto (some (if s.base.conn.unlockState = .unknown then .recount else .close)), [])
  | some .recount, .tau =>
      some (goto (some (.setPhase (if s.numConnections > 0 then .phoneUnlocking
        else .serverWaiting))), [])
  | some (.setPhase phase), .tau => some (goto (some .close), [.phase phase])
  | some .close, .tau => some (goto none, [])
  | _, _ => none

/-- The program points after a step, and the accesses to the base class. `Start` does nothing
while the server runs; `RunServer`, its only caller, starts a server once. -/
def localStep (s : TCPUnlockServer) : ServerLabel → Option (TCPUnlockServer × List Label)
  | .start =>
      if s.base.conn.isRunning then some (s, [])
      else if s.accept = .idle then
        some ({ s with accept := .setup .settings }, [.running true, .phase .serverWaiting])
      else none
  | .stop => some (s, [.running false])
  | .accept input => s.acceptStep input
  | .client t input => s.clientStep t input

def step (env : Env) : TCPUnlockServer → ServerLabel → Option TCPUnlockServer :=
  layer TCPUnlockServer.base (fun s base => { s with base := base }) (System.step env) localStep

/-- The server that `GetResult` makes, before `Start`. -/
def create (token authUser authProgram : Str) (devices : List PairedDevice) : TCPUnlockServer :=
  { base :=
      { conn := ((Conn.ofServer token).setUnlockInfo authUser authProgram).setAllowedDevices devices
        needsDeviceID := true } }

variable {env : Env}

/-- The server's runs are runs of the connection. -/
theorem base_run {s s' : TCPUnlockServer} {ls : List ServerLabel}
    (h : exec (step env) s ls = some s') : ∃ ks, exec (System.step env) s.base ks = some s'.base :=
  layer_run (fun _ _ => rfl) h

end TCPUnlockServer

/-! ## Undecided servers -/

section

variable {env : Env}

/-- The thread is on its way to a store to `m_UnlockState`. -/
def Flow.deciding : Flow → Bool
  | .requestFailed _ | .store _ | .fail _ | .caught => true
  | .accept _ | .acceptDevice _ | .acceptData _ | .acceptState _ => true
  | _ => false

/-- The encrypted part of the response opens under the key of no allowed device, not even with
an expired timestamp. -/
def Undecryptable (env : Env) (c : Conn) (p : Packet) (now : Int) : Prop :=
  ∀ resp, PacketUnlockResponse.fromJson env.json p.data = some resp → ∀ d ∈ c.allowedDevices,
    (env.crypt.decryptAESPacket now (fromHexString resp.encData) d.encryptionKey).result ≠ .ok ∧
    (env.crypt.decryptAESPacket now (fromHexString resp.encData) d.encryptionKey).result
      ≠ .invalidTimestamp

/-- The response has no error text. -/
def Errorless (env : Env) (p : Packet) : Prop :=
  ∀ resp, PacketUnlockResponse.fromJson env.json p.data = some resp → resp.error = []

instance (env : Env) (c : Conn) (p : Packet) (now : Int) : Decidable (Undecryptable env c p now) :=
  inferInstanceAs (Decidable (∀ resp ∈ PacketUnlockResponse.fromJson env.json p.data,
    ∀ d ∈ c.allowedDevices, _ ∧ _))

instance (env : Env) (p : Packet) : Decidable (Errorless env p) :=
  inferInstanceAs (Decidable (∀ resp ∈ PacketUnlockResponse.fromJson env.json p.data, _ = _))

/-- The step examines no response that could decide the result, prints every request, and is no
failure of the accept thread. -/
def Undeciding (env : Env) (s : System) : Label → Prop
  | .flow t (.clock now) => ∀ p d, s.flows t = some (.respond p d) →
      Undecryptable env s.conn p now ∧ Errorless env p
  | .flow t (.write seed _) => ∀ d, s.flows t = some (.answer d) →
      buildUnlockRequest env s.conn d seed ≠ .threw
  | .outer _ => False
  | _ => True

theorem onResponseReceived_undeciding {c : Conn} {p : Packet} {d : PairedDevice} {now : Int}
    (hd : d ∈ c.allowedDevices) (hp : Undecryptable env c p now) (he : Errorless env p) :
    (onResponseReceived env c true p d now).deciding = false := by
  unfold onResponseReceived
  split
  · rfl
  · next resp hresp =>
      obtain ⟨hok, htime⟩ := hp resp hresp d hd
      -- without an error text the response is decrypted, and what follows is a failed decryption
      rw [if_neg (not_not.mpr (he resp hresp))]
      simp only
      rw [if_pos hok, if_neg htime]
      rfl

/-- A server whose state is `UNKNOWN` and none of whose threads is about to change that. -/
structure Undecided (env : Env) (s : System) : Prop where
  mode : s.needsDeviceID = true
  inv : Inv env s
  threads : ThreadInv s
  state : s.conn.unlockState = .unknown
  flows : ∀ t f, s.flows t = some f → f.deciding = false

theorem undecided_server (token user program : Str) (devices : List PairedDevice) :
    Undecided env (TCPUnlockServer.create token user program devices).base :=
  ⟨rfl, inv_initial (.server token user program devices),
    threadInv_initial (.server token user program devices), rfl, fun _ _ hf => by cases hf⟩

theorem undecided_step {s s' : System} {l : Label} (hU : Undecided env s)
    (hl : Undeciding env s l) (h : s.step env l = some s') : Undecided env s' := by
  refine ⟨(step_config h).1.trans hU.mode, inv_step hU.inv h, threadInv_step hU.threads h, ?_, ?_⟩
  · cases System.step_move h with
    | flow t i f c n evs hf hmove =>
        have hself := hU.flows t f hf
        cases hmove with
        | requestFailed e => cases hself
        | store st => cases hself
        | acceptState r => cases hself
        | fail e => cases hself
        | caught => cases hself
        | _ => exact hU.state
    | outer store hen => exact hl.elim
    | _ => exact hU.state
  · cases System.step_move h with
    | spawn t hf hmode =>
        intro u g hg
        rcases update_eq_some hg with ⟨rfl, he⟩ | ⟨-, hold⟩
        · cases he; rfl
        · exact hU.flows u g hold
    | flow t i f c n evs hf hmove =>
        have hself := hU.flows t f hf
        have hclient := hU.threads.server hU.mode t f hf
        have hok := hU.inv.flows t f hf
        intro u g hg
        rcases update_eq_some hg with ⟨rfl, rfl⟩ | ⟨-, hold⟩
        · rw [hU.mode] at hmove
          cases hmove with
          | enterClient hb hm => cases hb
          -- a server thread never stands at the client's request
          | requestThrew d seed r hq => cases hclient
          | requestError d seed r e he => cases hclient
          | lookup p hm =>
              rcases onPacketReceived_cases (s.conn.info u) p with he | he | ⟨he, -, -⟩ <;>
                rw [he] <;> rfl
          | answerThrew d seed r hq => exact absurd hq (hl d hf)
          | respond p d now =>
              obtain ⟨hp, he⟩ := hl p d hf
              exact onResponseReceived_undeciding hok.1 hp he
          | acceptLock r hm hu => cases hself
          | acceptDevice r => cases hself
          | acceptData r => cases hself
          | finishFail e he hu hb => cases hb
          | _ => rfl
        · exact hU.flows u g hold
    | outer store hen => exact hl.elim
    | _ => exact hU.flows

/-! ## Runs of the server -/

/-- A run in which no response decrypts under the key of an allowed device and no socket call
of the accept thread fails. -/
def Unauthenticated (env : Env) (s : TCPUnlockServer) : ServerLabel → Prop
  | .client t (.clock now) => ∀ p d, s.base.flows t = some (.respond p d) →
      Undecryptable env s.base.conn p now
  | .accept (.result false) =>
      (∀ call, s.accept = .setup call → call = .settings) ∧ ∀ t, s.accept ≠ .configure t
  | _ => True

/-- A run in which no examined response has an error text, every request can be printed, and
neither reading the settings nor starting a thread throws. -/
def Unprovoked (env : Env) (s : TCPUnlockServer) : ServerLabel → Prop
  | .client t (.clock _) => ∀ p d, s.base.flows t = some (.respond p d) → Errorless env p
  | .client t (.write seed _) => ∀ d, s.base.flows t = some (.answer d) →
      buildUnlockRequest env s.base.conn d seed ≠ .threw
  | .accept (.result false) => s.accept ≠ .setup .settings ∧ ∀ t, s.accept ≠ .start t
  | _ => True

/-- The accept thread is on its way to a store to `m_UnlockState`. -/
def AcceptPc.failing : AcceptPc → Bool
  | .fail _ | .abort | .abortStore | .caught => true
  | _ => false

theorem SetupCall.next_failing (call : SetupCall) : call.next.failing = false := by
  cases call <;> rfl

/-- The accept thread stores nothing in such a run. -/
theorem acceptStep_undeciding {s m : TCPUnlockServer} {input : AcceptInput} {ks : List Label}
    (hs : s.accept.failing = false) (h₁ : Unauthenticated env s (.accept input))
    (h₂ : Unprovoked env s (.accept input)) (h : s.acceptStep input = some (m, ks)) :
    m.accept.failing = false ∧ Along (System.step env) (Undeciding env) s.base ks := by
  unfold TCPUnlockServer.acceptStep at h
  split at h
  · cases h; exact ⟨SetupCall.next_failing _, trivial⟩
  · next call hpc =>
      -- no socket call fails, so it is the settings that threw, which is excluded as well
      have hcall := h₁.1 call hpc
      subst hcall
      exact absurd hpc h₂.1
  · cases h
    refine ⟨?_, trivial⟩
    dsimp only
    split <;> rfl
  · cases h
    refine ⟨?_, trivial⟩
    dsimp only
    split <;> rfl
  · cases h; exact ⟨rfl, trivial⟩
  · cases h; exact ⟨rfl, trivial⟩
  · split at h
    · cases h; exact ⟨rfl, trivial⟩
    · cases h
  · cases h; exact ⟨rfl, trivial⟩
  · next t hpc => exact absurd hpc (h₁.2 t)
  · cases h; exact ⟨rfl, trivial⟩
  · next t hpc => exact absurd hpc (h₂.2 t)
  · next store hpc => rw [hpc] at hs; cases hs
  · next hpc => rw [hpc] at hs; cases hs
  · next hpc => rw [hpc] at hs; cases hs
  · next hpc => rw [hpc] at hs; cases hs
  · cases h; exact ⟨rfl, trivial, fun _ _ => trivial⟩
  · cases h; exact ⟨rfl, trivial, fun _ _ => trivial⟩
  · split at h
    · cases h; exact ⟨rfl, trivial⟩
    · cases h
  · cases h

/-- A client thread's accesses decide nothing in such a run. -/
theorem clientStep_undeciding {s m : TCPUnlockServer} {t : StreamId} {input : Input}
    {ks : List Label} (h₁ : Unauthenticated env s (.client t input))
    (h₂ : Unprovoked env s (.client t input)) (h : s.clientStep t input = some (m, ks)) :
    m.accept = s.accept ∧ Along (System.step env) (Undeciding env) s.base ks := by
  have hflow : Undeciding env s.base (.flow t input) := by
    cases input with
    | write seed r => exact h₂
    | clock now => exact fun p d hf => ⟨h₁ p d hf, h₂ p d hf⟩
    | _ => exact trivial
  unfold TCPUnlockServer.clientStep at h
  dsimp only at h
  split at h
  · cases h; exact ⟨rfl, trivial, fun _ _ => trivial⟩
  · split at h
    · cases h
      exact ⟨rfl, hflow, fun _ _ => trivial⟩
    · split at h
      · cases h; exact ⟨rfl, trivial⟩
      · cases h
  · cases h; exact ⟨rfl, trivial⟩
  · cases h; exact ⟨rfl, trivial⟩
  · cases h; exact ⟨rfl, trivial⟩
  · cases h; exact ⟨rfl, trivial, fun _ _ => trivial⟩
  · cases h; exact ⟨rfl, trivial⟩
  · cases h

/-- The server is undecided and its accept thread has not failed. -/
def Quiet (env : Env) (s : TCPUnlockServer) : Prop :=
  Undecided env s.base ∧ s.accept.failing = false

theorem quiet_step {s s' : TCPUnlockServer} {l : ServerLabel} (hQ : Quiet env s)
    (h₁ : Unauthenticated env s l) (h₂ : Unprovoked env s l) (h : s.step env l = some s') :
    Quiet env s' := by
  obtain ⟨m, ks, base, hl, hbase, rfl⟩ := layer_eq_some h
  have hboth : m.accept.failing = false ∧
      Along (System.step env) (Undeciding env) s.base ks := by
    cases l with
    | start =>
        simp only [TCPUnlockServer.localStep] at hl
        split at hl
        · cases hl; exact ⟨hQ.2, trivial⟩
        · split at hl
          · cases hl; exact ⟨rfl, trivial, fun _ _ => ⟨trivial, fun _ _ => trivial⟩⟩
          · cases hl
    | stop => cases hl; exact ⟨hQ.2, trivial, fun _ _ => trivial⟩
    | accept input => exact acceptStep_undeciding hQ.2 h₁ h₂ hl
    | client t input =>
        obtain ⟨hpc, hal⟩ := clientStep_undeciding h₁ h₂ hl
        exact ⟨hpc ▸ hQ.2, hal⟩
  have hU : Undecided env base :=
    exec_inv_along (fun _ _ _ hU hk hs => undecided_step hU hk hs) hQ.1 hboth.2 hbase
  exact ⟨hU, hboth.1⟩

/-- A client thread leaves the entries and the threads of the other streams alone. -/
theorem clientStep_other {s s' : TCPUnlockServer} {t u : StreamId} {input : Input}
    (h : s.step env (.client t input) = some s') (hu : u ≠ t) :
    s'.base.flows u = s.base.flows u ∧
      s'.base.conn.connections u = s.base.conn.connections u ∧ s'.clients u = s.clients u := by
  obtain ⟨m, ks, base, hl, hbase, rfl⟩ := layer_eq_some h
  have hks : m.clients u = s.clients u ∧
      ∀ k ∈ ks, k = .spawn t ∨ k = .flow t input ∨ ∃ ph, k = .phase ph := by
    simp only [TCPUnlockServer.localStep, TCPUnlockServer.clientStep] at hl
    split at hl
    · cases hl; exact ⟨Function.update_of_ne hu _ _, by simp⟩
    · split at hl
      · cases hl; exact ⟨rfl, by simp⟩
      · split at hl
        · cases hl; exact ⟨Function.update_of_ne hu _ _, by simp⟩
        · cases hl
    · cases hl; exact ⟨Function.update_of_ne hu _ _, by simp⟩
    · cases hl; exact ⟨Function.update_of_ne hu _ _, by simp⟩
    · cases hl; exact ⟨Function.update_of_ne hu _ _, by simp⟩
    · cases hl; exact ⟨Function.update_of_ne hu _ _, by simp⟩
    · cases hl; exact ⟨Function.update_of_ne hu _ _, by simp⟩
    · cases hl
  have hframe : base.flows u = s.base.flows u ∧
      base.conn.connections u = s.base.conn.connections u := by
    refine exec_inv_along (I := fun a => a.flows u = s.base.flows u ∧
      a.conn.connections u = s.base.conn.connections u)
      (P := fun _ k => k = .spawn t ∨ k = .flow t input ∨ ∃ ph, k = .phase ph) ?_ ⟨rfl, rfl⟩
      (along_of_forall (fun _ => hks.2)) hbase
    rintro a k b ⟨hfa, hca⟩ hk hab
    rcases hk with rfl | rfl | ⟨ph, rfl⟩
    · cases System.step_move hab with
      | spawn t hf hmode => exact ⟨(Function.update_of_ne hu _ _).trans hfa, hca⟩
    · cases System.step_move hab with
      | flow t i f c n evs hf hmove =>
          exact ⟨(Function.update_of_ne hu _ _).trans hfa, (hmove.connections_ne hu).trans hca⟩
    · cases hab; exact ⟨hfa, hca⟩
  exact ⟨hframe.1, hframe.2, hks.1⟩

/-- **Unauthenticated peers do not decide a server's result, except by an error text.** In a
run of the server in which no response decrypts under the key of an allowed device and no
local socket call fails, the state stays `UNKNOWN`, provided that no examined response carries
an error text and nothing throws; and a client thread never touches another stream. -/
theorem server_stays_unknown {token user program : Str} {devices : List PairedDevice}
    {s : TCPUnlockServer} {ls : List ServerLabel}
    (hrun : exec (TCPUnlockServer.step env)
      (TCPUnlockServer.create token user program devices) ls = some s)
    (hclaim : Along (TCPUnlockServer.step env) (Unauthenticated env)
      (TCPUnlockServer.create token user program devices) ls)
    (hcond : Along (TCPUnlockServer.step env) (Unprovoked env)
      (TCPUnlockServer.create token user program devices) ls) :
    s.base.conn.unlockState = .unknown ∧
    ∀ t input s', s.step env (.client t input) = some s' → ∀ u, u ≠ t →
      s'.base.flows u = s.base.flows u ∧
      s'.base.conn.connections u = s.base.conn.connections u ∧ s'.clients u = s.clients u := by
  have hQ : Quiet env s :=
    exec_inv_along (fun a l b hQ hl hab => quiet_step hQ hl.1 hl.2 hab)
      ⟨undecided_server token user program devices, rfl⟩ (along_and hclaim hcond) hrun
  exact ⟨hQ.1.state, fun t input s' h u hu => clientStep_other h hu⟩

end

namespace Sample

def tcpServer : TCPUnlockServer := TCPUnlockServer.create token (str "u") (str "p") [device]

/-- The server starts to listen, accepts a connection, and its peer names a paired device. -/
def invited : List ServerLabel :=
  ServerLabel.start :: List.replicate 7 (ServerLabel.accept (.result true)) ++
    [ServerLabel.accept .tau, .accept .tau, .accept (.socket 0), .accept (.result true),
      .accept (.result true), .client 0 .tau, .client 0 .tau, .client 0 .tau,
      .client 0 (.packet ⟨.none, PACKET_ID_DEVICE_ID, str "d"⟩), .client 0 .tau, .client 0 .tau]

/-- It gets the unlock request and answers with the text `data`. -/
def responds (data : Str) : List ServerLabel :=
  [.client 0 .tau, .client 0 (.packet ⟨.none, PACKET_ID_UNLOCK_RESPONSE, data⟩), .client 0 .tau]

def requestedBy (data : Str) : List ServerLabel := .client 0 (.write 0 .none) :: responds data

/-- A test for `Unauthenticated`. -/
def isUnauthenticated (s : TCPUnlockServer) : ServerLabel → Bool
  | .client t (.clock now) =>
      match s.base.flows t with
      | some (.respond p _) => decide (Undecryptable env s.base.conn p now)
      | _ => true
  | .accept (.result false) => false
  | _ => true

theorem unauthenticated_of_test (s : TCPUnlockServer) (l : ServerLabel)
    (h : isUnauthenticated s l = true) : Unauthenticated env s l := by
  cases l with
  | client t input =>
      cases input with
      | clock now =>
          intro p d hf
          simpa [isUnauthenticated, hf] using h
      | _ => exact trivial
  | accept input =>
      cases input with
      | result ok =>
          cases ok with
          | true => exact trivial
          | false => cases h
      | _ => exact trivial
  | _ => exact trivial

/-- A test for `Unprovoked`. -/
def isUnprovoked (s : TCPUnlockServer) : ServerLabel → Bool
  | .client t (.clock _) =>
      match s.base.flows t with
      | some (.respond p _) => decide (Errorless env p)
      | _ => true
  | .client t (.write seed _) =>
      match s.base.flows t with
      | some (.answer d) =>
          match buildUnlockRequest env s.base.conn d seed with
          | .threw => false
          | _ => true
      | _ => true
  | .accept (.result false) => false
  | _ => true

theorem unprovoked_of_test (s : TCPUnlockServer) (l : ServerLabel)
    (h : isUnprovoked s l = true) : Unprovoked env s l := by
  cases l with
  | client t input =>
      cases input with
      | clock now =>
          intro p d hf
          simpa [isUnprovoked, hf] using h
      | write seed r =>
          intro d hf hthrew
          simp [isUnprovoked, hf, hthrew] at h
      | _ => exact trivial
  | accept input =>
      cases input with
      | result ok =>
          cases ok with
          | true => exact trivial
          | false => cases h
      | _ => exact trivial
  | _ => exact trivial

end Sample

/-- A peer without any key cancels the unlock by a plain text error. -/
theorem server_decided_by_error_text : ∃ s,
    exec (TCPUnlockServer.step Sample.env) Sample.tcpServer (Sample.invited ++
      Sample.requestedBy Sample.cancelText ++ [.client 0 (.clock 0), .client 0 .tau]) = some s ∧
    Along (TCPUnlockServer.step Sample.env) (Unauthenticated Sample.env) Sample.tcpServer
      (Sample.invited ++ Sample.requestedBy Sample.cancelText ++
        [.client 0 (.clock 0), .client 0 .tau]) ∧
    s.base.conn.unlockState = .canceled := by
  have hrun : (exec (TCPUnlockServer.step Sample.env) Sample.tcpServer (Sample.invited ++
      Sample.requestedBy Sample.cancelText ++ [.client 0 (.clock 0), .client 0 .tau])).map
        (·.base.conn.unlockState) = some .canceled := by decide +kernel
  obtain ⟨s, hs, hu⟩ := Option.map_eq_some_iff.mp hrun
  exact ⟨s, hs, along_of_check Sample.unauthenticated_of_test (by decide +kernel), hu⟩

/-- A peer that names a paired device and answers with an unreadable response. -/
theorem server_stays_unknown_sample : ∃ s,
    exec (TCPUnlockServer.step Sample.env) Sample.tcpServer (Sample.invited ++
      Sample.requestedBy (str "x") ++ [.client 0 (.clock 0), .client 0 .tau]) = some s ∧
    s.base.conn.unlockState = .unknown := by
  have hrun : (exec (TCPUnlockServer.step Sample.env) Sample.tcpServer (Sample.invited ++
      Sample.requestedBy (str "x") ++ [.client 0 (.clock 0), .client 0 .tau])).isSome = true := by
    decide +kernel
  obtain ⟨s, hs⟩ := Option.isSome_iff_exists.mp hrun
  refine ⟨s, hs, (server_stays_unknown hs ?_ ?_).1⟩
  · exact along_of_check Sample.unauthenticated_of_test (by decide +kernel)
  · exact along_of_check Sample.unprovoked_of_test (by decide +kernel)

end PcbuDesktop
