import Mathlib.Logic.Function.Basic
import PcbuDesktop.Lib.Runs
import PcbuDesktop.Basic.Packets
import PcbuDesktop.Basic.UnlockState

set_option autoImplicit false

/-! # `BaseUnlockConnection`

The unlock exchange with a phone (`connection/unlock/BaseUnlockConnection.cpp`). A connection
object is shared by the threads that call `PerformAuthFlow`, one for every stream: a client
has one stream, a server one for every phone (or other peer) that connects.

`Conn` holds the members of the object. `Flow` is the program point of one thread inside
`PerformAuthFlow` with the local variables that are alive there, and `flowStep` moves one
thread by one atomic step: one section locked by `m_StateMutex`, one access to the atomic
`m_UnlockState`, or one call of the stream. The locked section that ends an accepted response
is split further, because other threads store to `m_UnlockState` without the lock. `System`
puts any number of these threads together, with the stores of the subclasses' own threads.
-/

namespace PcbuDesktop

/-- A `ConnectionStream *`, the key of `m_Connections`. -/
abbrev StreamId := Nat

/-- The functions of `CryptUtils`. The first argument of an encryption stands for the clock
and the random bytes of that call, the first argument of `decryptAESPacket` for the clock. -/
structure CryptLib where
  encryptAESPacket : Nat → Bytes → Str → CryptPacket
  decryptAESPacket : Int → Bytes → Str → CryptPacket
  encryptAES : Nat → Str → Str → Option Str
  decryptAES : Str → Str → Option Str
  sha256 : Str → Str

structure Env where
  json : JsonLib
  crypt : CryptLib

/-! ## The object -/

inductive UnlockConnectionState where
  | none
  | hasDeviceId
  | hasUnlockRequest
  | hasUnlockResponse
  deriving DecidableEq, Repr

structure ConnectionInfo where
  state : UnlockConnectionState := .none
  device : PairedDevice := {}
  deriving DecidableEq, Repr

/-- The members of a `BaseUnlockConnection`; `stateMutex` is the thread that holds
`m_StateMutex`. -/
structure Conn where
  isRunning : Bool := false
  phase : UnlockPhase := .starting
  otherClient : Bool := false
  unlockState : UnlockState := .unknown
  pairedDevice : PairedDevice := {}
  responseData : PacketUnlockResponseData := {}
  connections : StreamId → Option ConnectionInfo := fun _ => none
  allowedDevices : List PairedDevice := []
  stateMutex : Option StreamId := none
  authUser : Str := []
  authProgram : Str := []
  unlockToken : Str := []

namespace Conn

/-- `BaseUnlockConnection()`, with the random token it draws. -/
def ofServer (token : Str) : Conn := { unlockToken := token }

/-- `BaseUnlockConnection(device)`. -/
def ofDevice (token : Str) (device : PairedDevice) : Conn :=
  { unlockToken := token, pairedDevice := device, allowedDevices := [device] }

def setUnlockInfo (c : Conn) (authUser authProgram : Str) : Conn :=
  { c with authUser := authUser, authProgram := authProgram }

def setAllowedDevices (c : Conn) (devices : List PairedDevice) : Conn :=
  { c with allowedDevices := devices }

def getPhase (c : Conn) : UnlockPhase := if c.isRunning then c.phase else .finished

/-- `m_Connections[&stream]`: a missing entry is created with the default values. -/
def info (c : Conn) (t : StreamId) : ConnectionInfo := (c.connections t).getD {}

def setInfo (c : Conn) (t : StreamId) (info : ConnectionInfo) : Conn :=
  { c with connections := Function.update c.connections t (some info) }

def eraseInfo (c : Conn) (t : StreamId) : Conn :=
  { c with connections := Function.update c.connections t none }

def findAllowedDevice (c : Conn) (deviceId : Str) : Option PairedDevice :=
  c.allowedDevices.find? (fun device => device.id = deviceId)

end Conn

def mapPacketError (error : PacketError) (fallback : UnlockState) : UnlockState :=
  match error with
  | .closedConnection => .connectError
  | .timeout => .timeout
  | .unsupportedVersion => .protocolError
  | .peerUnavailable => .cloudPhoneUnreachable
  | _ => fallback

/-! ## Sending the unlock request -/

/-- An encrypted unlock request: the key and the plaintext it was made from, the ciphertext,
and the packet data that carries it. -/
structure UnlockRequest where
  key : Str
  plain : Str
  cipher : Bytes
  packet : Bytes
  deriving DecidableEq, Repr

/-- `AppInfo::GetUnlockProtocolVersion`. -/
def unlockProtocolVersion : Str := str "3.0.0"

/-- The plaintext of the request: user, program and token. -/
def Conn.requestData (c : Conn) : PacketUnlockRequestData :=
  { user := c.authUser, program := c.authProgram, unlockToken := c.unlockToken }

inductive BuildResult where
  | threw
  | failed
  | built (request : UnlockRequest)

/-- `SendUnlockRequest` up to the write: `dump` throws on text that is not valid UTF-8, and
the encryption can fail. -/
def buildUnlockRequest (env : Env) (c : Conn) (device : PairedDevice) (seed : Nat) : BuildResult :=
  match env.json.dump c.requestData.toJson with
  | none => .threw
  | some encDataStr =>
      let cryptResult := env.crypt.encryptAESPacket seed encDataStr device.encryptionKey
      if cryptResult.result ≠ .ok then .failed
      else
        let requestPacket : PacketUnlockRequest :=
          { protoVersion := unlockProtocolVersion, deviceId := device.id,
            encData := toHexString cryptResult.data }
        match env.json.dump requestPacket.toJson with
        | none => .threw
        | some requestStr => .built ⟨device.encryptionKey, encDataStr, cryptResult.data, requestStr⟩

/-! ## One thread -/

/-- A response that passed every check, with the local variables of `OnResponseReceived` and
the time at which it was decrypted. -/
structure Response where
  packet : Packet
  device : PairedDevice
  now : Int
  payload : Bytes
  data : PacketUnlockResponseData
  deriving DecidableEq, Repr

/-- The program points of `PerformAuthFlow` and of the functions it calls. -/
inductive Flow where
  /-- `SetPhase(UnlockPhase::PHONE_UNLOCKING)` -/
  | setPhase
  /-- the first locked section, which creates the stream's entry -/
  | enter
  /-- the client's `SendUnlockRequest` -/
  | request (device : PairedDevice)
  | requested
  | requestFailed (error : PacketError)
  | read
  /-- `OnPacketReceived`: the copy of the stream's entry -/
  | lookup (packet : Packet)
  /-- `FindAllowedDevice` -/
  | find (deviceId : Str)
  /-- the server's `SendUnlockRequest` -/
  | answer (device : PairedDevice)
  | answered (device : PairedDevice)
  /-- `OnResponseReceived` with the device of the copied entry -/
  | respond (packet : Packet) (device : PairedDevice)
  /-- a store to `m_UnlockState` that does not look at the old value -/
  | store (state : UnlockState)
  /-- the last locked section of `OnResponseReceived`, statement by statement -/
  | accept (response : Response)
  | acceptDevice (response : Response)
  | acceptData (response : Response)
  | acceptState (response : Response)
  | acceptInfo
  /-- after the loop, with the error of the last packet -/
  | erase (error : PacketError)
  | finish (error : PacketError)
  | fail (error : PacketError)
  /-- an exception left `PerformAuthFlow`: the handler of the thread -/
  | caught
  deriving DecidableEq, Repr

/-- What the environment answers in a step. -/
inductive Input where
  | tau
  /-- the clock and random bytes of the encryption, and the result of `WritePacket` -/
  | write (seed : Nat) (result : PacketError)
  /-- the result of `ReadPacket` -/
  | packet (packet : Packet)
  | clock (now : Int)
  deriving DecidableEq, Repr

/-- What is remembered about a run. -/
inductive Event where
  /-- the request was written without error -/
  | sent (t : StreamId) (request : UnlockRequest)
  | received (t : StreamId) (packet : Packet)
  | accepted (t : StreamId) (response : Response)
  deriving DecidableEq, Repr

/-- `HandleUnverifiedError`: a server drops the stream (the loop of `PerformAuthFlow` ends
with the last packet's error, `NONE`), a client takes the state. -/
def handleUnverifiedError (state : UnlockState) (isServerConnection : Bool) : Flow :=
  if isServerConnection then .erase .none else .store state

/-- The state for the plain text error of a response. -/
def responseErrorState (error : Str) : UnlockState :=
  if error = str "CANCEL" then .canceled
  else if error = str "NOT_PAIRED" then .notPairedError
  else if error = str "APP_ERROR" then .appError
  else if error = str "TIME_ERROR" then .timeError
  else if error = str "DATA_ERROR" then .dataError
  else if error = str "PROTOCOL_ERROR" then .protocolError
  else .unkError

/-- `OnResponseReceived` up to its locked section. It reads no member but the token. -/
def onResponseReceived (env : Env) (c : Conn) (isServerConnection : Bool) (packet : Packet)
    (device : PairedDevice) (now : Int) : Flow :=
  match PacketUnlockResponse.fromJson env.json packet.data with
  | none => handleUnverifiedError .dataError isServerConnection
  | some responsePacket =>
      -- the error text is neither encrypted nor checked, and a server stores it as well
      if responsePacket.error ≠ [] then .store (responseErrorState responsePacket.error)
      else
        let cryptData := fromHexString responsePacket.encData
        let cryptResult := env.crypt.decryptAESPacket now cryptData device.encryptionKey
        if cryptResult.result ≠ .ok then
          if cryptResult.result = .invalidTimestamp then .store .timeError
          else handleUnverifiedError .dataError isServerConnection
        else
          match PacketUnlockResponseData.fromJson env.json cryptResult.data with
          -- from here on the sender knows the key of the device
          | none => .store .dataError
          | some data =>
              if data.unlockToken ≠ c.unlockToken then
                handleUnverifiedError .unkError isServerConnection
              else .accept ⟨packet, device, now, cryptResult.data, data⟩

/-- `OnPacketReceived` after the copy of the entry: unexpected packets are ignored. -/
def onPacketReceived (info : ConnectionInfo) (packet : Packet) : Flow :=
  if packet.id = PACKET_ID_DEVICE_ID ∧ info.state ≠ .none then .read
  else if packet.id = PACKET_ID_UNLOCK_RESPONSE ∧ info.state ≠ .hasUnlockRequest then .read
  else if packet.id = PACKET_ID_DEVICE_ID then .find packet.data
  else if packet.id = PACKET_ID_UNLOCK_RESPONSE then .respond packet info.device
  else .read

/-- A section under `m_StateMutex` can be entered only while no thread holds it. -/
def Conn.locked {α : Type} (c : Conn) (body : α) : Option α :=
  if c.stateMutex = none then some body else none

/-- One atomic step of the thread of stream `t`: the object after it, the next program point
(`none` when the thread is done) and the events. -/
def flowStep (env : Env) (needsDeviceID : Bool) (t : StreamId) (c : Conn) :
    Flow → Input → Option (Conn × Option Flow × List Event)
  -- `PerformAuthFlow` up to the client's request
  | .setPhase, .tau => some ({ c with phase := .phoneUnlocking }, some .enter, [])
  | .enter, .tau =>
      let info : ConnectionInfo :=
        if needsDeviceID then {} else { state := .hasDeviceId, device := c.pairedDevice }
      c.locked (c.setInfo t info,
        some (if needsDeviceID then .read else .request info.device), [])
  | .request device, .write seed result =>
      match buildUnlockRequest env c device seed with
      | .threw => some (c, some .caught, [])
      | .failed => some (c, some (.requestFailed .unknown), [])
      | .built request =>
          if result = .none then some (c, some .requested, [.sent t request])
          else some (c, some (.requestFailed result), [])
  | .requested, .tau =>
      c.locked (c.setInfo t { c.info t with state := .hasUnlockRequest }, some .read, [])
  | .requestFailed error, .tau =>
      some ({ c with unlockState := mapPacketError error .unkError }, some (.erase .none), [])
  -- the loop; `OnPacketReceived` works on a copy of the stream's entry
  | .read, .packet packet =>
      if packet.error = .none then some (c, some (.lookup packet), [.received t packet])
      else some (c, some (.erase packet.error), [])
  -- `m_Connections[&stream]` makes the entry if there is none
  | .lookup packet, .tau =>
      c.locked (c.setInfo t (c.info t), some (onPacketReceived (c.info t) packet), [])
  | .find deviceId, .tau =>
      match c.findAllowedDevice deviceId with
      | none => c.locked (c, some (handleUnverifiedError .dataError needsDeviceID), [])
      | some device => c.locked (c, some (.answer device), [])
  | .answer device, .write seed result =>
      match buildUnlockRequest env c device seed with
      | .threw => some (c, some .caught, [])
      | .failed =>
          some (c, some (handleUnverifiedError (mapPacketError .unknown .unkError) needsDeviceID), [])
      | .built request =>
          if result = .none then some (c, some (.answered device), [.sent t request])
          else some (c, some (handleUnverifiedError (mapPacketError result .unkError)
            needsDeviceID), [])
  | .answered device, .tau =>
      c.locked (c.setInfo t { state := .hasUnlockRequest, device := device }, some .read, [])
  | .respond packet device, .clock now =>
      some (c, some (onResponseReceived env c needsDeviceID packet device now), [])
  | .store state, .tau => some ({ c with unlockState := state }, some .read, [])
  -- the only store that looks at the old value; the lock is held until `acceptInfo`
  | .accept response, .tau =>
      if c.unlockState ≠ .unknown then c.locked (c, some .read, [])
      else c.locked ({ c with stateMutex := some t }, some (.acceptDevice response), [])
  | .acceptDevice response, .tau =>
      some ({ c with pairedDevice := response.device }, some (.acceptData response), [])
  | .acceptData response, .tau =>
      some ({ c with responseData := response.data }, some (.acceptState response), [])
  | .acceptState response, .tau =>
      some ({ c with unlockState := .success }, some .acceptInfo, [.accepted t response])
  | .acceptInfo, .tau =>
      some ({ c with
        connections := Function.update c.connections t
          ((c.connections t).map (fun info => { info with state := .hasUnlockResponse }))
        stateMutex := none }, some .read, [])
  -- after the loop; only a client turns the last read error into a state
  | .erase error, .tau => c.locked (c.eraseInfo t, some (.finish error), [])
  | .finish error, .tau =>
      if error = .none ∨ c.unlockState ≠ .unknown then some (c, none, [])
      else if needsDeviceID then some (c, none, [])
      else some (c, some (.fail error), [])
  | .fail error, .tau =>
      some ({ c with unlockState := mapPacketError error .dataError }, none, [])
  | .caught, .tau => some ({ c with unlockState := .unkError }, none, [])
  | _, _ => none

/-! ## The whole connection -/

inductive CloudUnlockStatus where
  | ok
  | rateLimited
  | invalidToken
  | deviceUnknown
  | pairingRevoked
  | noSubscription
  | subscriptionStale
  | subscriptionOnHold
  | subscriptionPaused
  | deviceStale
  | phoneUnreachable
  | serverUnreachable
  | unsupportedVersion
  | error
  deriving DecidableEq, Repr

/-- `CloudUnlockClient::MapRequestError`. -/
def mapRequestError : CloudUnlockStatus → UnlockState
  | .rateLimited => .cloudRateLimited
  | .invalidToken => .notPairedError
  | .deviceUnknown | .pairingRevoked => .cloudPairingGone
  | .subscriptionStale => .cloudSubscriptionStale
  | .subscriptionOnHold => .cloudSubscriptionOnHold
  | .subscriptionPaused => .cloudSubscriptionPaused
  | .deviceStale => .cloudDeviceStale
  | .phoneUnreachable => .cloudPhoneUnreachable
  | .serverUnreachable => .cloudServerUnreachable
  | .noSubscription => .cloudNoSubscription
  | .unsupportedVersion => .protocolError
  | .ok | .error => .unkError

/-- A store to `m_UnlockState` by the subclass's own thread, outside `PerformAuthFlow`. -/
inductive OuterStore where
  /-- a local call failed (`UNK_ERROR`), in every subclass -/
  | localError
  /-- the server's `bind` failed (`PORT_ERROR`) -/
  | portError
  /-- a client could not connect (`CONNECT_ERROR`) -/
  | connectError
  /-- the Bluetooth client starts a new attempt after `CONNECT_ERROR` (`UNKNOWN`) -/
  | reset
  /-- a Bluetooth client whose twin was faster (`CANCELED`) -/
  | canceled
  /-- the cloud server refused the request -/
  | cloud (status : CloudUnlockStatus)
  deriving DecidableEq, Repr

def OuterStore.state : OuterStore → UnlockState
  | .localError => .unkError
  | .portError => .portError
  | .connectError => .connectError
  | .reset => .unknown
  | .canceled => .canceled
  | .cloud status => mapRequestError status

/-- A connection object with its threads: `flows t` is the program point of the thread of
stream `t` (`none` when there is none), `live` lists the streams with a thread, `started`
says whether `PerformAuthFlow` was ever called, `log` is the history. -/
structure System where
  conn : Conn
  needsDeviceID : Bool
  flows : StreamId → Option Flow := fun _ => none
  live : List StreamId := []
  started : Bool := false
  log : List Event := []

inductive Label where
  /-- a thread calls `PerformAuthFlow` on the new stream `t` -/
  | spawn (t : StreamId)
  | flow (t : StreamId) (input : Input)
  | outer (store : OuterStore)
  /-- a store to `m_Phase` or `m_IsRunning` by a thread of the subclass -/
  | phase (phase : UnlockPhase)
  | running (isRunning : Bool)
  deriving DecidableEq, Repr

/-- Which stores the subclass's own thread can make. The accept thread of a server runs beside
the client threads; the thread of a client calls `PerformAuthFlow` once and stores nothing
afterwards. The reset is guarded by the old value. -/
def System.outerEnabled (s : System) (store : OuterStore) : Bool :=
  if s.needsDeviceID then store = .localError || store = .portError
  else !s.started && store ≠ .portError &&
    (store ≠ .reset || s.conn.unlockState = .connectError)

/-- The state after thread `t` moved. -/
def System.advance (s : System) (t : StreamId) (conn : Conn) (next : Option Flow)
    (events : List Event) : System :=
  { s with
    conn := conn
    flows := Function.update s.flows t next
    live := if next = none then s.live.erase t else s.live
    log := s.log ++ events }

/-- One step of the connection. -/
def System.step (env : Env) (s : System) : Label → Option System
  | .spawn t =>
      if s.flows t = none ∧ (s.needsDeviceID = true ∨ s.started = false) then
        some { s with
          flows := Function.update s.flows t (some .setPhase)
          live := t :: s.live
          started := true }
      else none
  | .flow t input =>
      match s.flows t with
      | none => none
      | some f =>
          match flowStep env s.needsDeviceID t s.conn f input with
          | none => none
          | some (conn, next, events) => some (s.advance t conn next events)
  | .outer store =>
      if s.outerEnabled store then
        some { s with conn := { s.conn with unlockState := store.state } }
      else none
  | .phase phase => some { s with conn := { s.conn with phase := phase } }
  | .running isRunning => some { s with conn := { s.conn with isRunning := isRunning } }

/-- The connections as they are before `Start`: a server with its allowed devices, and a
client for one device. -/
inductive Initial : System → Prop
  | server (token authUser authProgram : Str) (devices : List PairedDevice) :
      Initial
        { conn := ((Conn.ofServer token).setUnlockInfo authUser authProgram).setAllowedDevices devices
          needsDeviceID := true }
  | client (token authUser authProgram : Str) (device : PairedDevice) (otherClient : Bool) :
      Initial
        { conn := { (Conn.ofDevice token device).setUnlockInfo authUser authProgram with
            otherClient := otherClient }
          needsDeviceID := false }

theorem Initial.log_nil {s : System} (h : Initial s) : s.log = [] := by
  cases h <;> rfl

theorem Initial.flows_none {s : System} (h : Initial s) (t : StreamId) : s.flows t = none := by
  cases h <;> rfl

theorem Initial.one_device {s : System} (h : Initial s) (hb : s.needsDeviceID = false) :
    s.conn.allowedDevices = [s.conn.pairedDevice] := by
  cases h with
  | server token authUser authProgram devices => cases hb
  | client token authUser authProgram device otherClient => rfl

/-! ## What one step can do

`FlowMove` lists the moves of a thread with their guards. Every invariant of the connection
is a case analysis over it. -/

inductive FlowMove (env : Env) (b : Bool) (t : StreamId) (c : Conn) :
    Flow → Input → Conn → Option Flow → List Event → Prop
  | setPhase : FlowMove env b t c .setPhase .tau { c with phase := .phoneUnlocking } (some .enter) []
  | enterServer (hb : b = true) (hm : c.stateMutex = none) :
      FlowMove env b t c .enter .tau (c.setInfo t {}) (some .read) []
  | enterClient (hb : b = false) (hm : c.stateMutex = none) :
      FlowMove env b t c .enter .tau (c.setInfo t ⟨.hasDeviceId, c.pairedDevice⟩)
        (some (.request c.pairedDevice)) []
  | requestThrew (d : PairedDevice) (seed : Nat) (r : PacketError)
      (h : buildUnlockRequest env c d seed = .threw) :
      FlowMove env b t c (.request d) (.write seed r) c (some .caught) []
  | requestSent (d : PairedDevice) (seed : Nat) (q : UnlockRequest)
      (h : buildUnlockRequest env c d seed = .built q) :
      FlowMove env b t c (.request d) (.write seed .none) c (some .requested) [.sent t q]
  | requestError (d : PairedDevice) (seed : Nat) (r e : PacketError)
      (h : e = .unknown ∨ e = r) :
      FlowMove env b t c (.request d) (.write seed r) c (some (.requestFailed e)) []
  | requested (hm : c.stateMutex = none) :
      FlowMove env b t c .requested .tau (c.setInfo t { c.info t with state := .hasUnlockRequest })
        (some .read) []
  | requestFailed (e : PacketError) :
      FlowMove env b t c (.requestFailed e) .tau
        { c with unlockState := mapPacketError e .unkError } (some (.erase .none)) []
  | readPacket (p : Packet) (h : p.error = .none) :
      FlowMove env b t c .read (.packet p) c (some (.lookup p)) [.received t p]
  | readError (p : Packet) (h : p.error ≠ .none) :
      FlowMove env b t c .read (.packet p) c (some (.erase p.error)) []
  | lookup (p : Packet) (hm : c.stateMutex = none) :
      FlowMove env b t c (.lookup p) .tau (c.setInfo t (c.info t))
        (some (onPacketReceived (c.info t) p)) []
  | findNone (id : Str) (hm : c.stateMutex = none) (h : c.findAllowedDevice id = none) :
      FlowMove env b t c (.find id) .tau c (some (handleUnverifiedError .dataError b)) []
  | findSome (id : Str) (d : PairedDevice) (hm : c.stateMutex = none)
      (h : c.findAllowedDevice id = some d) :
      FlowMove env b t c (.find id) .tau c (some (.answer d)) []
  | answerThrew (d : PairedDevice) (seed : Nat) (r : PacketError)
      (h : buildUnlockRequest env c d seed = .threw) :
      FlowMove env b t c (.answer d) (.write seed r) c (some .caught) []
  | answerSent (d : PairedDevice) (seed : Nat) (q : UnlockRequest)
      (h : buildUnlockRequest env c d seed = .built q) :
      FlowMove env b t c (.answer d) (.write seed .none) c (some (.answered d)) [.sent t q]
  | answerError (d : PairedDevice) (seed : Nat) (r e : PacketError) :
      FlowMove env b t c (.answer d) (.write seed r) c
        (some (handleUnverifiedError (mapPacketError e .unkError) b)) []
  | answered (d : PairedDevice) (hm : c.stateMutex = none) :
      FlowMove env b t c (.answered d) .tau (c.setInfo t ⟨.hasUnlockRequest, d⟩) (some .read) []
  | respond (p : Packet) (d : PairedDevice) (now : Int) :
      FlowMove env b t c (.respond p d) (.clock now) c
        (some (onResponseReceived env c b p d now)) []
  | store (st : UnlockState) :
      FlowMove env b t c (.store st) .tau { c with unlockState := st } (some .read) []
  | acceptLate (r : Response) (hm : c.stateMutex = none) (h : c.unlockState ≠ .unknown) :
      FlowMove env b t c (.accept r) .tau c (some .read) []
  | acceptLock (r : Response) (hm : c.stateMutex = none) (h : c.unlockState = .unknown) :
      FlowMove env b t c (.accept r) .tau { c with stateMutex := some t }
        (some (.acceptDevice r)) []
  | acceptDevice (r : Response) :
      FlowMove env b t c (.acceptDevice r) .tau { c with pairedDevice := r.device }
        (some (.acceptData r)) []
  | acceptData (r : Response) :
      FlowMove env b t c (.acceptData r) .tau { c with responseData := r.data }
        (some (.acceptState r)) []
  | acceptState (r : Response) :
      FlowMove env b t c (.acceptState r) .tau { c with unlockState := .success }
        (some .acceptInfo) [.accepted t r]
  | acceptInfo :
      FlowMove env b t c .acceptInfo .tau
        { c with
          connections := Function.update c.connections t
            ((c.connections t).map (fun info => { info with state := .hasUnlockResponse }))
          stateMutex := none } (some .read) []
  | erase (e : PacketError) (hm : c.stateMutex = none) :
      FlowMove env b t c (.erase e) .tau (c.eraseInfo t) (some (.finish e)) []
  | finishDone (e : PacketError) (h : e = .none ∨ c.unlockState ≠ .unknown ∨ b = true) :
      FlowMove env b t c (.finish e) .tau c none []
  | finishFail (e : PacketError) (he : e ≠ .none) (hu : c.unlockState = .unknown) (hb : b = false) :
      FlowMove env b t c (.finish e) .tau c (some (.fail e)) []
  | fail (e : PacketError) :
      FlowMove env b t c (.fail e) .tau { c with unlockState := mapPacketError e .dataError } none []
  | caught : FlowMove env b t c .caught .tau { c with unlockState := .unkError } none []

theorem Conn.locked_eq_some {α : Type} {c : Conn} {x y : α} (h : c.locked x = some y) :
    c.stateMutex = none ∧ x = y := by
  unfold Conn.locked at h
  split at h
  · exact ⟨by assumption, by simpa using h⟩
  · cases h

theorem flowStep_move {env : Env} {b : Bool} {t : StreamId} {c c' : Conn} {f : Flow} {i : Input}
    {next : Option Flow} {evs : List Event}
    (h : flowStep env b t c f i = some (c', next, evs)) : FlowMove env b t c f i c' next evs := by
  unfold flowStep at h
  split at h
  · cases h; exact .setPhase
  · obtain ⟨hm, he⟩ := Conn.locked_eq_some h
    cases b with
    | true => cases he; exact .enterServer rfl hm
    | false => cases he; exact .enterClient rfl hm
  · split at h
    · next hb => cases h; exact .requestThrew _ _ _ hb
    · cases h; exact .requestError _ _ _ _ (Or.inl rfl)
    · next hb =>
        split at h
        · next hr => subst hr; cases h; exact .requestSent _ _ _ hb
        · cases h; exact .requestError _ _ _ _ (Or.inr rfl)
  · obtain ⟨hm, he⟩ := Conn.locked_eq_some h
    cases he; exact .requested hm
  · cases h; exact .requestFailed _
  · split at h
    · next hp => cases h; exact .readPacket _ hp
    · next hp => cases h; exact .readError _ hp
  · obtain ⟨hm, he⟩ := Conn.locked_eq_some h
    cases he; exact .lookup _ hm
  · split at h
    · next hf =>
        obtain ⟨hm, he⟩ := Conn.locked_eq_some h
        cases he; exact .findNone _ hm hf
    · next hf =>
        obtain ⟨hm, he⟩ := Conn.locked_eq_some h
        cases he; exact .findSome _ _ hm hf
  · split at h
    · next hb => cases h; exact .answerThrew _ _ _ hb
    · cases h; exact .answerError _ _ _ _
    · next hb =>
        split at h
        · next hr => subst hr; cases h; exact .answerSent _ _ _ hb
        · cases h; exact .answerError _ _ _ _
  · obtain ⟨hm, he⟩ := Conn.locked_eq_some h
    cases he; exact .answered _ hm
  · cases h; exact .respond _ _ _
  · cases h; exact .store _
  · split at h
    · next hu =>
        obtain ⟨hm, he⟩ := Conn.locked_eq_some h
        cases he; exact .acceptLate _ hm hu
    · next hu =>
        obtain ⟨hm, he⟩ := Conn.locked_eq_some h
        cases he; exact .acceptLock _ hm (by simpa using hu)
  · cases h; exact .acceptDevice _
  · cases h; exact .acceptData _
  · cases h; exact .acceptState _
  · cases h; exact .acceptInfo
  · obtain ⟨hm, he⟩ := Conn.locked_eq_some h
    cases he; exact .erase _ hm
  · split at h
    · next hd => cases h; exact .finishDone _ (by tauto)
    · next hd =>
        rw [not_or, not_not] at hd
        split at h
        · next hb => cases h; exact .finishDone _ (Or.inr (Or.inr hb))
        · next hb => cases h; exact .finishFail _ hd.1 hd.2 (by simpa using hb)
  · cases h; exact .fail _
  · cases h; exact .caught
  · cases h

/-- The moves of the whole connection. -/
inductive SystemMove (env : Env) (s : System) : Label → System → Prop
  | spawn (t : StreamId) (hf : s.flows t = none)
      (h : s.needsDeviceID = true ∨ s.started = false) :
      SystemMove env s (.spawn t)
        { s with
          flows := Function.update s.flows t (some .setPhase)
          live := t :: s.live
          started := true }
  | flow (t : StreamId) (i : Input) (f : Flow) (c : Conn) (next : Option Flow) (evs : List Event)
      (hf : s.flows t = some f) (h : FlowMove env s.needsDeviceID t s.conn f i c next evs) :
      SystemMove env s (.flow t i) (s.advance t c next evs)
  | outer (store : OuterStore) (h : s.outerEnabled store = true) :
      SystemMove env s (.outer store) { s with conn := { s.conn with unlockState := store.state } }
  | phase (ph : UnlockPhase) :
      SystemMove env s (.phase ph) { s with conn := { s.conn with phase := ph } }
  | running (r : Bool) :
      SystemMove env s (.running r) { s with conn := { s.conn with isRunning := r } }

theorem System.step_move {env : Env} {s s' : System} {l : Label} (h : s.step env l = some s') :
    SystemMove env s l s' := by
  cases l with
  | spawn t =>
      simp only [System.step] at h
      split at h
      · next hc => cases h; exact .spawn t hc.1 hc.2
      · cases h
  | flow t i =>
      simp only [System.step] at h
      split at h
      · cases h
      · next f hf =>
          split at h
          · cases h
          · next c n e hs => cases h; exact .flow t i f c n e hf (flowStep_move hs)
  | outer store =>
      simp only [System.step] at h
      split at h
      · next hc => cases h; exact .outer store hc
      · cases h
  | phase ph => cases h; exact .phase ph
  | running r => cases h; exact .running r

/-! ## What the handlers answer

One lemma for each handler of `PerformAuthFlow` says where it can lead; the invariants use
these and do not look into the handlers again. -/

theorem mapPacketError_ne_success {e : PacketError} {f : UnlockState} (hf : f ≠ .success) :
    mapPacketError e f ≠ .success := by
  cases e <;> simp [mapPacketError, hf]

theorem responseErrorState_ne_success (error : Str) : responseErrorState error ≠ .success := by
  unfold responseErrorState
  split_ifs <;> simp

theorem mapPacketError_ne_unknown {e : PacketError} {f : UnlockState} (hf : f ≠ .unknown) :
    mapPacketError e f ≠ .unknown := by
  cases e <;> simp [mapPacketError, hf]

theorem responseErrorState_ne_unknown (error : Str) : responseErrorState error ≠ .unknown := by
  unfold responseErrorState
  split_ifs <;> simp

theorem onPacketReceived_cases (info : ConnectionInfo) (p : Packet) :
    onPacketReceived info p = .read ∨ onPacketReceived info p = .find p.data ∨
      (onPacketReceived info p = .respond p info.device ∧ info.state = .hasUnlockRequest ∧
        p.id = PACKET_ID_UNLOCK_RESPONSE) := by
  unfold onPacketReceived
  split_ifs with h1 h2 h3 h4
  · exact Or.inl rfl
  · exact Or.inl rfl
  · exact Or.inr (Or.inl rfl)
  -- the second test let the packet pass, so the stream waits for a response
  · refine Or.inr (Or.inr ⟨rfl, ?_, h4⟩)
    by_contra hne
    exact h2 ⟨h4, hne⟩
  · exact Or.inl rfl

/-- `OnResponseReceived` reports an unverified error, stores an error, or goes on to its locked
section with the response. -/
theorem onResponseReceived_cases (env : Env) (c : Conn) (b : Bool) (p : Packet) (d : PairedDevice)
    (now : Int) :
    (∃ st, st ≠ .unknown ∧ st ≠ .success ∧
      onResponseReceived env c b p d now = handleUnverifiedError st b) ∨
    (∃ st, st ≠ .unknown ∧ st ≠ .success ∧ onResponseReceived env c b p d now = .store st) ∨
    ∃ r, onResponseReceived env c b p d now = .accept r := by
  unfold onResponseReceived
  split
  · exact Or.inl ⟨.dataError, by simp, by simp, rfl⟩
  · split
    · exact Or.inr (Or.inl ⟨_, responseErrorState_ne_unknown _, responseErrorState_ne_success _, rfl⟩)
    · simp only
      split
      · split
        · exact Or.inr (Or.inl ⟨.timeError, by simp, by simp, rfl⟩)
        · exact Or.inl ⟨.dataError, by simp, by simp, rfl⟩
      · split
        · exact Or.inr (Or.inl ⟨.dataError, by simp, by simp, rfl⟩)
        · split
          · exact Or.inl ⟨.unkError, by simp, by simp, rfl⟩
          · exact Or.inr (Or.inr ⟨_, rfl⟩)

/-- A client's `OnResponseReceived` stores an error or goes on to its locked section. -/
theorem onResponseReceived_client (env : Env) (c : Conn) (p : Packet) (d : PairedDevice)
    (now : Int) :
    (∃ st, onResponseReceived env c false p d now = .store st) ∨
      ∃ r, onResponseReceived env c false p d now = .accept r := by
  rcases onResponseReceived_cases env c false p d now with ⟨st, -, -, he⟩ | ⟨st, -, -, he⟩ | ⟨r, he⟩
  · exact Or.inl ⟨st, he⟩
  · exact Or.inl ⟨st, he⟩
  · exact Or.inr ⟨r, he⟩

/-! ## Frame conditions -/

/-- The members that nothing changes after `Start`. -/
structure Conn.SameConfig (c c' : Conn) : Prop where
  allowedDevices : c'.allowedDevices = c.allowedDevices
  authUser : c'.authUser = c.authUser
  authProgram : c'.authProgram = c.authProgram
  unlockToken : c'.unlockToken = c.unlockToken

theorem FlowMove.sameConfig {env : Env} {b : Bool} {t : StreamId} {c c' : Conn} {f : Flow}
    {i : Input} {n : Option Flow} {evs : List Event} (h : FlowMove env b t c f i c' n evs) :
    c.SameConfig c' := by
  cases h <;> exact ⟨rfl, rfl, rfl, rfl⟩

@[simp] theorem Conn.info_setInfo (c : Conn) (t : StreamId) (i : ConnectionInfo) :
    (c.setInfo t i).info t = i := by
  simp [Conn.setInfo, Conn.info]

/-- A thread touches the entry of its own stream only. -/
theorem FlowMove.connections_ne {env : Env} {b : Bool} {t u : StreamId} {c c' : Conn} {f : Flow}
    {i : Input} {n : Option Flow} {evs : List Event} (h : FlowMove env b t c f i c' n evs)
    (hu : u ≠ t) : c'.connections u = c.connections u := by
  cases h <;> simp [Conn.setInfo, Conn.eraseInfo, Function.update_of_ne hu]

theorem Conn.SameConfig.requestData {c c' : Conn} (h : c.SameConfig c') :
    c'.requestData = c.requestData := by
  simp [Conn.requestData, h.authUser, h.authProgram, h.unlockToken]

end PcbuDesktop
