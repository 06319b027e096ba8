import PcbuDesktop.Unlock.Stability

set_option autoImplicit false

/-! # `TCPUnlockClient`

The client of `connection/unlock/clients/TCPUnlockClient.cpp`: one thread connects to the
phone, with retries, and then calls `PerformAuthFlow`. As for the server, every access to the
members of the base class is a step of `System`.

`OnResponseReceived` accepts a response only while `m_UnlockState` is `UNKNOWN`. An attempt
that ended because `WaitForConnection` failed leaves `CONNECT_ERROR` there, and nothing resets
it before the next attempt (`BTUnlockClient` does, at the same place of the same loop). So an
attempt that succeeds afterwards still unlocks if and only if no attempt failed in this way.
-/

namespace PcbuDesktop

open Runs

/-! ## The connecting thread -/

/-- The calls of `ConnectThread` before `connect`; a retry starts again at `socket`. -/
inductive ConnectCall where
  | settings
  | address
  | socket
  | rwTimeout
  | nonBlocking
  | noDelay
  deriving DecidableEq, Repr

/-- The program points of `ConnectThread`. -/
inductive ConnectPc where
  /-- `Start` was not called -/
  | idle
  | setup (call : ConnectCall)
  | connect
  /-- `WaitForConnection` -/
  | wait
  /-- the test for a retry after `WaitForConnection` failed -/
  | waitRetry
  /-- `m_UnlockState = UnlockState::CONNECT_ERROR` before the retry -/
  | waitStore
  /-- `getsockopt(SO_ERROR)` -/
  | option
  /-- the test for a retry after a non-zero `SO_ERROR` -/
  | optionRetry
  | established
  | flow
  /-- a store to `m_UnlockState` before `threadEnd` -/
  | fail (store : OuterStore)
  /-- a return without `threadEnd` -/
  | abort
  | abortStore
  /-- the handler in `Start` -/
  | caught
  | threadEnd
  | done
  deriving DecidableEq, Repr

def ConnectCall.next : ConnectCall → ConnectPc
  | .settings => .setup .address
  | .address => .setup .socket
  | .socket => .setup .rwTimeout
  | .rwTimeout => .setup .nonBlocking
  | .nonBlocking => .setup .noDelay
  | .noDelay => .connect

def ConnectCall.failed : ConnectCall → ConnectPc
  | .settings => .caught
  | .address | .socket => .abort
  | _ => .fail .localError

/-- How an attempt ended, other than by giving up. -/
inductive Attempt where
  /-- `WaitForConnection` timed out or failed, and the loop went on -/
  | waitFailed
  /-- `SO_ERROR` was not zero, and the loop went on -/
  | soError
  | established
  deriving DecidableEq, Repr

/-- The client. `attempts`, `packets` and `clocks` are the history of the run: the attempts
that ended, the packets that were read without error, and the times at which one was
decrypted. `clientConnectRetries` is the setting, which does not change. -/
structure TCPUnlockClient where
  base : System
  pc : ConnectPc := .idle
  clientConnectRetries : Nat
  numRetries : Nat := 0
  attempts : List Attempt := []
  packets : List Packet := []
  clocks : List Int := []

/-- The stream of the client. -/
def clientStream : StreamId := 0

inductive ConnectInput where
  | tau
  | result (ok : Bool)
  /-- the value of `SO_ERROR`, zero or not -/
  | soError (nonzero : Bool)
  | flow (input : Input)
  deriving DecidableEq, Repr

inductive ClientLabel where
  /-- `Start()` -/
  | start
  /-- the store of `Stop()` -/
  | stop
  | thread (input : ConnectInput)
  deriving DecidableEq, Repr

/-- The packet of an answer to `ReadPacket`, unless it is an error. -/
def Input.packets : Input → List Packet
  | .packet p => if p.error = .none then [p] else []
  | _ => []

def Input.clocks : Input → List Int
  | .clock now => [now]
  | _ => []

namespace TCPUnlockClient

/-- `numRetries < settings.clientConnectRetries && m_IsRunning` -/
def canRetry (s : TCPUnlockClient) : Bool :=
  s.numRetries < s.clientConnectRetries && s.base.conn.isRunning

/-- One step of the connecting thread: the client after it, and the accesses to the members of
the base class. -/
def threadStep (s : TCPUnlockClient) (input : ConnectInput) :
    Option (TCPUnlockClient × List Label) :=
  match s.pc, input with
  | .setup call, .result true => some ({ s with pc := call.next }, [])
  | .setup call, .result false => some ({ s with pc := call.failed }, [])
  | .connect, .result true => some ({ s with pc := .wait }, [])
  | .connect, .result false => some ({ s with pc := .fail .connectError }, [])
  | .wait, .result true => some ({ s with pc := .option }, [])
  | .wait, .result false => some ({ s with pc := .waitRetry }, [])
  | .waitRetry, .tau =>
      some ({ s with pc := if s.canRetry then .waitStore else .fail .connectError }, [])
  -- the store stays when the loop goes on, as `BTUnlockClient` resets it and this class does not
  | .waitStore, .tau =>
      some ({ s with
        pc := .setup .socket
        numRetries := s.numRetries + 1
        attempts := s.attempts ++ [.waitFailed] }, [.outer .connectError])
  | .option, .result false => some ({ s with pc := .fail .localError }, [])
  | .option, .soError true => some ({ s with pc := .optionRetry }, [])
  | .option, .soError false =>
      some ({ s with pc := .established, attempts := s.attempts ++ [.established] }, [])
  -- the same retry without a store
  | .optionRetry, .tau =>
      if s.canRetry then
        some ({ s with
          pc := .setup .socket
          numRetries := s.numRetries + 1
          attempts := s.attempts ++ [.soError] }, [])
      else some ({ s with pc := .fail .connectError }, [])
  | .established, .tau => some ({ s with pc := .flow }, [.spawn clientStream])
  | .flow, .flow input =>
      if s.base.flows clientStream ≠ none then
        some ({ s with
          packets := s.packets ++ input.packets
          clocks := s.clocks ++ input.clocks }, [.flow clientStream input])
      else none
  | .flow, .tau =>
      if s.base.flows clientStream = none then some ({ s with pc := .threadEnd }, []) else none
  | .fail store, .tau => some ({ s with pc := .threadEnd }, [.outer store])
  | .abort, .tau => some ({ s with pc := .abortStore }, [.running false])
  | .abortStore, .tau => some ({ s with pc := .done }, [.outer .localError])
  | .caught, .tau => some ({ s with pc := .threadEnd }, [.outer .localError])
  | .threadEnd, .tau => some ({ s with pc := .done }, [.running false])
  | _, _ => none

def localStep (s : TCPUnlockClient) : ClientLabel → Option (TCPUnlockClient × List Label)
  | .start =>
      if s.base.conn.isRunning then some (s, [])
      else if s.pc = .idle then
        some ({ s with pc := .setup .settings }, [.running true, .phase .clientConnecting])
      else none
  | .stop => some (s, [.running false])
  | .thread input => s.threadStep input

def step (env : Env) : TCPUnlockClient → ClientLabel → Option TCPUnlockClient :=
  layer TCPUnlockClient.base (fun s base => { s with base := base }) (System.step env) localStep

/-- The client that `GetResult` makes for a device, before `Start`. -/
def create (token authUser authProgram : Str) (device : PairedDevice) (retries : Nat) :
    TCPUnlockClient :=
  { base :=
      { conn := { (Conn.ofDevice token device).setUnlockInfo authUser authProgram with
          otherClient := false }
        needsDeviceID := false }
    clientConnectRetries := retries }

end TCPUnlockClient

/-! ## The exchange after the connection is established -/

/-- `m_UnlockState` when the next attempt starts. -/
def stateAfter (attempts : List Attempt) : UnlockState :=
  if .waitFailed ∈ attempts then .connectError else .unknown

/-- A response without error that decrypts, at the times it is decrypted, to `data` with the
connection's token. -/
structure GoodResponse (env : Env) (token : Str) (device : PairedDevice) (p : Packet)
    (data : PacketUnlockResponseData) (clocks : List Int) : Prop where
  id : p.id = PACKET_ID_UNLOCK_RESPONSE
  decrypted : ∃ resp, PacketUnlockResponse.fromJson env.json p.data = some resp ∧
    resp.error = [] ∧ ∀ now ∈ clocks,
      (env.crypt.decryptAESPacket now (fromHexString resp.encData)
        device.encryptionKey).result = .ok ∧
      PacketUnlockResponseData.fromJson env.json
        (env.crypt.decryptAESPacket now (fromHexString resp.encData)
          device.encryptionKey).data = some data
  token : data.unlockToken = token

/-- The state is `SUCCESS`, with the device and the data of the response. -/
def Unlocked (c : Conn) (device : PairedDevice) (data : PacketUnlockResponseData) : Prop :=
  c.unlockState = .success ∧ c.pairedDevice = device ∧ c.responseData = data

section

variable {env : Env} {token : Str} {device : PairedDevice} {p : Packet}
  {data : PacketUnlockResponseData}

/-- What the response led to, when the attempts left the state `st`. -/
def Outcome (st : UnlockState) (device : PairedDevice) (data : PacketUnlockResponseData)
    (c : Conn) : Prop :=
  if st = .unknown then Unlocked c device data else c.unlockState = st

/-- The progress of the thread up to the end of the handling of its first packet, which is
`p`: `st` is the state the attempts left. Nothing is said from the second packet on. -/
def Exchange (env : Env) (token : Str) (device : PairedDevice) (p : Packet)
    (data : PacketUnlockResponseData) (st : UnlockState) (c : Conn) (packets : List Packet)
    (clocks : List Int) : Flow → Prop
  | .setPhase | .enter => packets = [] ∧ clocks = [] ∧ c.unlockState = st
  | .request _ =>
      packets = [] ∧ clocks = [] ∧ c.unlockState = st ∧ (c.info clientStream).device = device
  | .requested =>
      packets = [] ∧ clocks = [] ∧ c.unlockState = st ∧ (c.info clientStream).device = device
  | .read =>
      (packets = [] → clocks = [] ∧ c.unlockState = st ∧
        c.info clientStream = ⟨.hasUnlockRequest, device⟩) ∧
      (packets = [p] → GoodResponse env token device p data clocks → Outcome st device data c)
  | .lookup q =>
      packets ≠ [] ∧ (packets = [p] → q = p ∧ clocks = [] ∧ c.unlockState = st ∧
        c.info clientStream = ⟨.hasUnlockRequest, device⟩)
  | .respond q d =>
      packets ≠ [] ∧ (packets = [p] → q = p ∧ d = device ∧ clocks = [] ∧ c.unlockState = st)
  | .accept r =>
      packets ≠ [] ∧ (packets = [p] → GoodResponse env token device p data clocks →
        r.device = device ∧ r.data = data ∧ c.unlockState = st)
  | .acceptDevice r =>
      packets ≠ [] ∧ (packets = [p] → GoodResponse env token device p data clocks →
        r.device = device ∧ r.data = data ∧ st = .unknown)
  | .acceptData r =>
      packets ≠ [] ∧ (packets = [p] → GoodResponse env token device p data clocks →
        r.data = data ∧ st = .unknown ∧ c.pairedDevice = device)
  | .acceptState _ =>
      packets ≠ [] ∧ (packets = [p] → GoodResponse env token device p data clocks →
        st = .unknown ∧ c.pairedDevice = device ∧ c.responseData = data)
  | .acceptInfo =>
      packets ≠ [] ∧ (packets = [p] → GoodResponse env token device p data clocks →
        Outcome st device data c)
  | .find _ | .answer _ | .answered _ | .store _ =>
      packets ≠ [] ∧ (packets = [p] → ¬ GoodResponse env token device p data clocks)
  | .requestFailed _ | .erase _ | .finish _ | .fail _ | .caught => True

/-- A good response passes every check of `OnResponseReceived`. -/
theorem onResponseReceived_good {c : Conn} {now : Int} (htok : c.unlockToken = token)
    (h : GoodResponse env token device p data [now]) :
    ∃ r, onResponseReceived env c false p device now = .accept r ∧ r.device = device ∧
      r.data = data := by
  obtain ⟨resp, hresp, herr, hdec⟩ := h.decrypted
  obtain ⟨hok, hdata⟩ := hdec now (by simp)
  have htoken : data.unlockToken = c.unlockToken := h.token.trans htok.symm
  refine ⟨⟨p, device, now, (env.crypt.decryptAESPacket now (fromHexString resp.encData)
    device.encryptionKey).data, data⟩, ?_, rfl, rfl⟩
  simp only [onResponseReceived, hresp, herr, hok, hdata, htoken]
  simp

theorem onPacketReceived_response (d : PairedDevice) (h : p.id = PACKET_ID_UNLOCK_RESPONSE) :
    onPacketReceived ⟨.hasUnlockRequest, d⟩ p = .respond p d := by
  have hid : ¬ PACKET_ID_UNLOCK_RESPONSE = PACKET_ID_DEVICE_ID := by decide
  simp [onPacketReceived, h, hid]

/-- The lookup in the table of handlers: a good first packet can only lead to `OnResponseReceived`. -/
theorem Exchange.lookup {st : UnlockState} {c : Conn} {q : Packet} {packets : List Packet}
    {clocks : List Int} (hx : Exchange env token device p data st c packets clocks (.lookup q)) :
    Exchange env token device p data st c packets clocks
      (onPacketReceived (c.info clientStream) q) := by
  obtain ⟨hne, hone⟩ := hx
  have hgood : packets = [p] → GoodResponse env token device p data clocks →
      onPacketReceived (c.info clientStream) q = .respond p device := by
    intro hp hg
    obtain ⟨rfl, -, -, hi⟩ := hone hp
    rw [hi]
    exact onPacketReceived_response device hg.id
  rcases onPacketReceived_cases (c.info clientStream) q with he | he | ⟨he, -, -⟩
  · rw [he]
    refine ⟨fun hnil => absurd hnil hne, fun hp hg => ?_⟩
    have hrespond := hgood hp hg
    rw [he] at hrespond
    cases hrespond
  · rw [he]
    refine ⟨hne, fun hp hg => ?_⟩
    have hrespond := hgood hp hg
    rw [he] at hrespond
    cases hrespond
  · rw [he]
    refine ⟨hne, fun hp => ?_⟩
    obtain ⟨rfl, hc, hu, hi⟩ := hone hp
    exact ⟨rfl, by rw [hi], hc, hu⟩

/-- `OnResponseReceived` accepts a good first packet. -/
theorem Exchange.respond {st : UnlockState} {c : Conn} {q : Packet} {d : PairedDevice} {now : Int}
    {packets : List Packet} {clocks : List Int}
    (hx : Exchange env token device p data st c packets clocks (.respond q d))
    (htok : c.unlockToken = token) :
    Exchange env token device p data st c packets (clocks ++ [now])
      (onResponseReceived env c false q d now) := by
  obtain ⟨hne, hone⟩ := hx
  have hgood : packets = [p] → GoodResponse env token device p data (clocks ++ [now]) →
      ∃ r, onResponseReceived env c false q d now = .accept r ∧ r.device = device ∧
        r.data = data := by
    intro hp hg
    obtain ⟨rfl, rfl, rfl, -⟩ := hone hp
    exact onResponseReceived_good htok hg
  rcases onResponseReceived_client env c q d now with ⟨s, he⟩ | ⟨r, he⟩
  · rw [he]
    refine ⟨hne, fun hp hg => ?_⟩
    obtain ⟨r, hr, -⟩ := hgood hp hg
    rw [he] at hr
    cases hr
  · rw [he]
    refine ⟨hne, fun hp hg => ?_⟩
    obtain ⟨r', hr, hd, hdata⟩ := hgood hp hg
    rw [he] at hr
    cases hr
    exact ⟨hd, hdata, (hone hp).2.2.2⟩

/-- One step of the thread keeps its progress. -/
theorem FlowMove.exchange_next {st : UnlockState} {c c' : Conn} {f n : Flow} {i : Input}
    {evs : List Event} {packets : List Packet} {clocks : List Int}
    (h : FlowMove env false clientStream c f i c' (some n) evs)
    (hx : Exchange env token device p data st c packets clocks f)
    (hdev : c.pairedDevice = device) (htok : c.unlockToken = token) :
    Exchange env token device p data st c' (packets ++ i.packets) (clocks ++ i.clocks) n := by
  cases h with
  | setPhase =>
      simp only [Input.packets, Input.clocks, List.append_nil]
      exact hx
  | enterServer hb hm => cases hb
  | enterClient hb hm =>
      obtain ⟨hp, hc, hu⟩ := hx
      refine ⟨by simp [hp, Input.packets], by simp [hc, Input.clocks], hu, ?_⟩
      rw [Conn.info_setInfo]
      exact hdev
  | requestThrew d seed r hq => exact trivial
  | requestSent d seed q hq =>
      simp only [Input.packets, Input.clocks, List.append_nil]
      exact hx
  | requestError d seed r e he => exact trivial
  | requested hm =>
      obtain ⟨hp, hc, hu, hi⟩ := hx
      refine ⟨fun _ => ⟨by simp [hc, Input.clocks], hu, ?_⟩, ?_⟩
      · rw [Conn.info_setInfo, ← hi]
      · intro hone
        simp [hp, Input.packets] at hone
  | requestFailed e => exact trivial
  | readPacket q hq =>
      refine ⟨by simp [Input.packets, hq], ?_⟩
      intro hone
      -- this packet is the first one
      have hsplit : packets = [] ∧ q = p := by
        cases packets with
        | nil => simpa [Input.packets, hq] using hone
        | cons a as => simp [Input.packets, hq] at hone
      obtain ⟨hc, hu, hi⟩ := hx.1 hsplit.1
      exact ⟨hsplit.2, by simp [hc, Input.clocks], hu, hi⟩
  | readError q hq => exact trivial
  | lookup q hm =>
      simp only [Input.packets, Input.clocks, List.append_nil]
      exact hx.lookup
  | findNone id hm hnone =>
      simp only [Input.packets, Input.clocks, List.append_nil]
      exact hx
  | findSome id d hm hd =>
      simp only [Input.packets, Input.clocks, List.append_nil]
      exact hx
  | answerThrew d seed r hq => exact trivial
  | answerSent d seed q hq =>
      simp only [Input.packets, Input.clocks, List.append_nil]
      exact hx
  | answerError d seed r e =>
      simp only [Input.packets, Input.clocks, List.append_nil]
      exact hx
  | answered d hm =>
      simp only [Input.packets, Input.clocks, List.append_nil]
      exact ⟨fun hnil => absurd hnil hx.1, fun hp hg => absurd hg (hx.2 hp)⟩
  | respond q d now =>
      simp only [Input.packets, Input.clocks, List.append_nil]
      exact hx.respond htok
  | store s =>
      simp only [Input.packets, Input.clocks, List.append_nil]
      exact ⟨fun hnil => absurd hnil hx.1, fun hp hg => absurd hg (hx.2 hp)⟩
  | acceptLate r hm hu =>
      simp only [Input.packets, Input.clocks, List.append_nil]
      refine ⟨fun hnil => absurd hnil hx.1, fun hp hg => ?_⟩
      -- the state the attempts left is not `UNKNOWN`, and the response is dropped
      have hst := (hx.2 hp hg).2.2
      rw [Outcome, if_neg (hst ▸ hu)]
      exact hst
  | acceptLock r hm hu =>
      simp only [Input.packets, Input.clocks, List.append_nil]
      refine ⟨hx.1, fun hp hg => ?_⟩
      obtain ⟨hd, hdata, hst⟩ := hx.2 hp hg
      exact ⟨hd, hdata, hst.symm.trans hu⟩
  | acceptDevice r =>
      simp only [Input.packets, Input.clocks, List.append_nil]
      refine ⟨hx.1, fun hp hg => ?_⟩
      obtain ⟨hd, hdata, hst⟩ := hx.2 hp hg
      exact ⟨hdata, hst, hd⟩
  | acceptData r =>
      simp only [Input.packets, Input.clocks, List.append_nil]
      refine ⟨hx.1, fun hp hg => ?_⟩
      obtain ⟨hdata, hst, hd⟩ := hx.2 hp hg
      exact ⟨hst, hd, hdata⟩
  | acceptState r =>
      simp only [Input.packets, Input.clocks, List.append_nil]
      refine ⟨hx.1, fun hp hg => ?_⟩
      obtain ⟨hst, hd, hdata⟩ := hx.2 hp hg
      rw [Outcome, if_pos hst]
      exact ⟨rfl, hd, hdata⟩
  | acceptInfo =>
      simp only [Input.packets, Input.clocks, List.append_nil]
      exact ⟨fun hnil => absurd hnil hx.1, hx.2⟩
  | erase e hm => exact trivial
  | finishFail e he hu hb => exact trivial

/-! ## Runs of the client -/

/-- What is known at each program point of the connecting thread. -/
def Progress (env : Env) (token : Str) (device : PairedDevice) (p : Packet)
    (data : PacketUnlockResponseData) (s : TCPUnlockClient) : Prop :=
  match s.pc with
  | .flow => ∀ f, s.base.flows clientStream = some f →
      Exchange env token device p data (stateAfter s.attempts) s.base.conn s.packets s.clocks f
  | .fail _ | .abort | .abortStore | .caught | .threadEnd | .done =>
      s.base.flows clientStream = none
  | _ => s.base.flows clientStream = none ∧ s.packets = [] ∧ s.clocks = [] ∧
      s.base.conn.unlockState = stateAfter s.attempts

/-- The invariant of a client for `device`. -/
structure ClientRun (env : Env) (token : Str) (device : PairedDevice) (p : Packet)
    (data : PacketUnlockResponseData) (s : TCPUnlockClient) : Prop where
  inv : Inv env s.base
  mode : s.base.needsDeviceID = false
  allowed : s.base.conn.allowedDevices = [device]
  sameToken : s.base.conn.unlockToken = token
  progress : Progress env token device p data s

theorem ClientRun.pairedDevice {s : TCPUnlockClient} (h : ClientRun env token device p data s) :
    s.base.conn.pairedDevice = device := by
  have hmem := h.inv.client h.mode
  rw [h.allowed] at hmem
  exact List.mem_singleton.mp hmem

theorem clientRun_create (user program : Str) (retries : Nat) :
    ClientRun env token device p data
      (TCPUnlockClient.create token user program device retries) :=
  ⟨inv_initial (.client token user program device false), rfl, rfl, rfl, rfl, rfl, rfl, rfl⟩

/-- The calls before `connect` leave everything as it is. -/
theorem Progress.setup {s : TCPUnlockClient} {pc : ConnectPc}
    (h : s.base.flows clientStream = none ∧ s.packets = [] ∧ s.clocks = [] ∧
      s.base.conn.unlockState = stateAfter s.attempts) (hpc : pc ≠ .flow) :
    Progress env token device p data { s with pc := pc } := by
  cases pc with
  | flow => exact absurd rfl hpc
  | fail store => exact h.1
  | abort => exact h.1
  | abortStore => exact h.1
  | caught => exact h.1
  | threadEnd => exact h.1
  | done => exact h.1
  | _ => exact h

theorem ConnectCall.next_ne_flow (call : ConnectCall) : call.next ≠ .flow := by
  cases call <;> simp [ConnectCall.next]

theorem ConnectCall.failed_ne_flow (call : ConnectCall) : call.failed ≠ .flow := by
  cases call <;> simp [ConnectCall.failed]

theorem stateAfter_waitFailed (attempts : List Attempt) :
    stateAfter (attempts ++ [.waitFailed]) = .connectError := by
  simp [stateAfter]

theorem stateAfter_other {a : Attempt} (attempts : List Attempt) (h : a ≠ .waitFailed) :
    stateAfter (attempts ++ [a]) = stateAfter attempts := by
  simp [stateAfter, Ne.symm h]

theorem step_outer {s s' : System} {store : OuterStore}
    (h : s.step env (.outer store) = some s') :
    s'.flows = s.flows ∧ s'.conn.unlockState = store.state := by
  cases System.step_move h with
  | outer store hen => exact ⟨rfl, rfl⟩

theorem progress_threadStep {s m : TCPUnlockClient} {base : System} {input : ConnectInput}
    {ks : List Label} (hs : ClientRun env token device p data s)
    (hl : s.threadStep input = some (m, ks))
    (hbase : exec (System.step env) s.base ks = some base) :
    Progress env token device p data { m with base := base } := by
  have hprog := hs.progress
  unfold Progress at hprog
  unfold TCPUnlockClient.threadStep at hl
  split at hl
  · next call hpc =>
      rw [hpc] at hprog
      cases hl; cases hbase
      exact Progress.setup hprog call.next_ne_flow
  · next call hpc =>
      rw [hpc] at hprog
      cases hl; cases hbase
      exact Progress.setup hprog call.failed_ne_flow
  · next hpc =>
      rw [hpc] at hprog
      cases hl; cases hbase
      exact hprog
  · next hpc =>
      rw [hpc] at hprog
      cases hl; cases hbase
      exact hprog.1
  · next hpc =>
      rw [hpc] at hprog
      cases hl; cases hbase
      exact hprog
  · next hpc =>
      rw [hpc] at hprog
      cases hl; cases hbase
      exact hprog
  · next hpc =>
      rw [hpc] at hprog
      cases hl; cases hbase
      exact Progress.setup hprog (by split <;> simp)
  · next hpc =>
      rw [hpc] at hprog
      cases hl
      -- the store of the failed attempt, which the next attempts find
      obtain ⟨hflows, hu⟩ := step_outer (exec_singleton ▸ hbase)
      refine ⟨?_, hprog.2.1, hprog.2.2.1, ?_⟩
      · rw [hflows]; exact hprog.1
      · rw [stateAfter_waitFailed]; exact hu
  · next hpc =>
      rw [hpc] at hprog
      cases hl; cases hbase
      exact hprog.1
  · next hpc =>
      rw [hpc] at hprog
      cases hl; cases hbase
      exact hprog
  · next hpc =>
      rw [hpc] at hprog
      cases hl; cases hbase
      refine ⟨hprog.1, hprog.2.1, hprog.2.2.1, ?_⟩
      rw [stateAfter_other _ (by simp)]
      exact hprog.2.2.2
  · next hpc =>
      rw [hpc] at hprog
      split at hl
      · cases hl; cases hbase
        refine ⟨hprog.1, hprog.2.1, hprog.2.2.1, ?_⟩
        rw [stateAfter_other _ (by simp)]
        exact hprog.2.2.2
      · cases hl; cases hbase
        exact hprog.1
  · next hpc =>
      rw [hpc] at hprog
      cases hl
      -- the exchange begins in the state that the attempts left
      cases System.step_move (exec_singleton ▸ hbase) with
      | spawn t hf hmode =>
          intro f hfl
          simp only [Function.update_self, Option.some.injEq] at hfl
          subst hfl
          exact ⟨hprog.2.1, hprog.2.2.1, hprog.2.2.2⟩
  · next input' hpc =>
      rw [hpc] at hprog
      split at hl
      · cases hl
        cases System.step_move (exec_singleton ▸ hbase) with
        | flow t i f c n evs hf hmove =>
            simp only [Progress, hpc]
            intro g hg
            have hg' : n = some g := by simpa [System.advance] using hg
            subst hg'
            rw [hs.mode] at hmove
            exact hmove.exchange_next (hprog f hf) hs.pairedDevice hs.sameToken
      · cases hl
  · next hpc =>
      rw [hpc] at hprog
      split at hl
      · next hnone => cases hl; cases hbase; exact hnone
      · cases hl
  · next hpc =>
      rw [hpc] at hprog
      cases hl
      exact (congrFun (step_outer (exec_singleton ▸ hbase)).1 clientStream).trans hprog
  · next hpc =>
      rw [hpc] at hprog
      cases hl; cases hbase
      exact hprog
  · next hpc =>
      rw [hpc] at hprog
      cases hl
      exact (congrFun (step_outer (exec_singleton ▸ hbase)).1 clientStream).trans hprog
  · next hpc =>
      rw [hpc] at hprog
      cases hl
      exact (congrFun (step_outer (exec_singleton ▸ hbase)).1 clientStream).trans hprog
  · next hpc =>
      rw [hpc] at hprog
      cases hl; cases hbase
      exact hprog
  · cases hl

theorem clientRun_step {s s' : TCPUnlockClient} {l : ClientLabel}
    (hs : ClientRun env token device p data s)
    (h : TCPUnlockClient.step env s l = some s') : ClientRun env token device p data s' := by
  obtain ⟨m, ks, base, hl, hbase, rfl⟩ := layer_eq_some h
  obtain ⟨hinv, hmode, hallowed, htoken⟩ :
      Inv env base ∧ base.needsDeviceID = false ∧ base.conn.allowedDevices = [device] ∧
        base.conn.unlockToken = token := by
    refine exec_inv (I := fun b => Inv env b ∧ b.needsDeviceID = false ∧
      b.conn.allowedDevices = [device] ∧ b.conn.unlockToken = token) ?_
      ⟨hs.inv, hs.mode, hs.allowed, hs.sameToken⟩ hbase
    rintro a k b ⟨hia, hma, hda, hta⟩ hab
    obtain ⟨hb, hc⟩ := step_config hab
    exact ⟨inv_step hia hab, hb.trans hma, hc.allowedDevices.trans hda, hc.unlockToken.trans hta⟩
  refine ⟨hinv, hmode, hallowed, htoken, ?_⟩
  cases l with
  | start =>
      simp only [TCPUnlockClient.localStep] at hl
      split at hl
      · cases hl; cases hbase; exact hs.progress
      · split at hl
        · next hpc =>
            have hprog := hs.progress
            rw [Progress, hpc] at hprog
            cases hl; cases hbase
            exact hprog
        · cases hl
  | stop =>
      cases hl; cases hbase
      exact hs.progress
  | thread input => exact progress_threadStep hs hl hbase

/-- **When a retried connect still unlocks.** In every run of the client whose last attempt was
established after the failed attempts `fails`, once the first packet was handled and if it is a
good response, the state is `SUCCESS` with the response's device and data if and only if none
of the attempts failed in `WaitForConnection`. -/
theorem retried_client_unlocks_iff {user program : Str} {retries : Nat} {s : TCPUnlockClient}
    {fails : List Attempt}
    (hrun : Reachable (TCPUnlockClient.step env)
      (TCPUnlockClient.create token user program device retries) s)
    (hattempts : s.attempts = fails ++ [.established])
    (hread : s.base.flows clientStream = some .read) (hpackets : s.packets = [p])
    (hgood : GoodResponse env token device p data s.clocks) :
    Unlocked s.base.conn device data ↔ .waitFailed ∉ fails := by
  have hs : ClientRun env token device p data s :=
    hrun.inv (fun _ _ _ hI h => clientRun_step hI h) (clientRun_create user program retries)
  have hprog := hs.progress
  have hout : Outcome (stateAfter s.attempts) device data s.base.conn := by
    unfold Progress at hprog
    split at hprog
    · exact (hprog _ hread).2 hpackets hgood
    -- at every other program point the stream has no thread
    all_goals simp [hread] at hprog
  rw [hattempts, stateAfter_other _ (by simp)] at hout
  by_cases hw : Attempt.waitFailed ∈ fails
  · have hu : s.base.conn.unlockState = .connectError := by
      simpa [Outcome, stateAfter, hw] using hout
    simp [Unlocked, hu, hw]
  · have hu : Unlocked s.base.conn device data := by
      simpa [Outcome, stateAfter, hw] using hout
    simp [hu, hw]

end

namespace Sample

def tcpClient : TCPUnlockClient := TCPUnlockClient.create token (str "u") (str "p") device 2

/-- One attempt, from `socket` on. -/
def attempt : Attempt → List ClientLabel
  | .waitFailed =>
      List.replicate 5 (ClientLabel.thread (.result true)) ++
        [ClientLabel.thread (.result false), .thread .tau, .thread .tau]
  | .soError =>
      List.replicate 6 (ClientLabel.thread (.result true)) ++
        [ClientLabel.thread (.soError true), .thread .tau]
  | .established =>
      List.replicate 6 (ClientLabel.thread (.result true)) ++
        [ClientLabel.thread (.soError false), .thread .tau]

def response : Packet := ⟨.none, PACKET_ID_UNLOCK_RESPONSE, responseText⟩

def responseData : PacketUnlockResponseData := { unlockToken := token, passwordKey := str "P" }

/-- The answers to the exchange; `n` steps handle the response. -/
def exchange (n : Nat) : List Input :=
  [Input.tau, .tau, .write 0 .none, .tau, .packet response, .tau, .clock 0] ++
    List.replicate n Input.tau

/-- The attempts, then the request and the phone's response. -/
def connectsAfter (fails : List Attempt) (n : Nat) : List ClientLabel :=
  [ClientLabel.start, .thread (.result true), .thread (.result true)] ++
    (fails ++ [Attempt.established]).flatMap attempt ++
    (exchange n).map (fun i => ClientLabel.thread (.flow i))

theorem response_good : GoodResponse env token device response responseData [0] := by
  refine ⟨rfl, ⟨⟨[], responseHex⟩, rfl, rfl, ?_⟩, rfl⟩
  intro now hnow
  rw [List.mem_singleton.mp hnow]
  exact ⟨by decide +kernel, by decide +kernel⟩

end Sample

/-- After one attempt that timed out, the phone's valid response is not accepted. -/
theorem retried_client_stays_locked : ∃ s,
    Reachable (TCPUnlockClient.step Sample.env) Sample.tcpClient s ∧
    s.attempts = [.waitFailed] ++ [.established] ∧ s.base.flows clientStream = some .read ∧
    s.packets = [Sample.response] ∧
    GoodResponse Sample.env Sample.token Sample.device Sample.response Sample.responseData
      s.clocks ∧
    ¬ Unlocked s.base.conn Sample.device Sample.responseData := by
  have hrun : (exec (TCPUnlockClient.step Sample.env) Sample.tcpClient
      (Sample.connectsAfter [.waitFailed] 1)).map (fun s =>
        (s.attempts, s.base.flows clientStream, s.packets, s.clocks, s.base.conn.unlockState)) =
      some ([.waitFailed, .established], some .read, [Sample.response], [0], .connectError) := by
    decide +kernel
  obtain ⟨s, hs, he⟩ := Option.map_eq_some_iff.mp hrun
  simp only [Prod.mk.injEq] at he
  obtain ⟨hatt, hread, hpack, hclock, hu⟩ := he
  refine ⟨s, ⟨_, hs⟩, hatt, hread, hpack, hclock ▸ Sample.response_good, ?_⟩
  simp [Unlocked, hu]

/-- After one attempt that ended with a non-zero `SO_ERROR`, it is. -/
theorem retried_client_unlocks_sample : ∃ s,
    Reachable (TCPUnlockClient.step Sample.env) Sample.tcpClient s ∧
    s.attempts = [.soError] ++ [.established] ∧
    Unlocked s.base.conn Sample.device Sample.responseData := by
  have hrun : (exec (TCPUnlockClient.step Sample.env) Sample.tcpClient
      (Sample.connectsAfter [.soError] 5)).map (fun s =>
        (s.attempts, s.base.flows clientStream, s.packets, s.clocks)) =
      some ([.soError, .established], some .read, [Sample.response], [0]) := by
    decide +kernel
  obtain ⟨s, hs, he⟩ := Option.map_eq_some_iff.mp hrun
  simp only [Prod.mk.injEq] at he
  obtain ⟨hatt, hread, hpack, hclock⟩ := he
  have hatt' : s.attempts = [.soError] ++ [.established] := hatt
  exact ⟨s, ⟨_, hs⟩, hatt', (retried_client_unlocks_iff ⟨_, hs⟩ hatt' hread hpack
    (hclock ▸ Sample.response_good)).mpr (by simp)⟩

end PcbuDesktop
