import Mathlib.Algebra.Group.Nat.Defs
import PcbuDesktop.Basic.Packets
import PcbuDesktop.Basic.StringUtils
import PcbuDesktop.Lib.Runs

set_option autoImplicit false

/-! # The Bluetooth relay of macOS

`pcbu_auth` runs outside the session of the user and has no Bluetooth there, so it asks a helper in the
session (`connection/BluetoothRelay.Mac.cpp`, `bthelpermac/src/main.Mac.cpp`). On a Unix socket it sends a
line with the address of the phone; the helper connects, answers with a line, and from then on two threads
of the helper copy bytes, one in each direction.

The processes, the socket, the phone and the delegate that collects what comes from the phone are one
system. A label says who moves, and what the operating system answers: a call may move a part of the bytes
only, be interrupted, or fail.
-/

namespace PcbuDesktop

/-- `std::stoul`, of 64 bits: a sign is allowed, and negates modulo `2 ^ 64`. -/
def stoul (s : Str) : Option UInt64 :=
  let trimmed := s.dropWhile isSpace
  let isNegative := trimmed.head? = some 45
  let digits :=
    (if trimmed.head? = some 45 ∨ trimmed.head? = some 43 then trimmed.tail else trimmed).takeWhile
      isDigit
  let value := decimalValue digits
  if digits = [] then none
  else if 2 ^ 64 ≤ value then none
  else some (if isNegative then 0 - UInt64.ofNat value else UInt64.ofNat value)

namespace BluetoothRelay

def MAX_LINE_LENGTH : Nat := 256

def RELAY_BUFFER_SIZE : Nat := 4096

def FALLBACK_MTU : Nat := 127

/-- A loop after one round: at its head again, or behind its `return`. -/
inductive Round (σ ρ : Type) where
  | goes (s : σ)
  | returns (r : ρ)

/-! ## `ReadLine` and `WriteAll` -/

/-- A round of `ReadLine`: nothing is there yet or the call is interrupted; a byte is there; or the time is
over, the caller has stopped, or the socket fails. -/
inductive LineAnswer where
  | again
  | ready
  | fails
  deriving DecidableEq, Repr

/-- `BluetoothRelay::ReadLine`: the round, the bytes that it takes, and those that stay in the socket. -/
def readLineRound (line : Str) (socket : Bytes) (answer : LineAnswer) :
    Option (Round Str (Option Str) × Bytes × Bytes) :=
  if line.length < MAX_LINE_LENGTH then
    match answer, socket with
    | .fails, _ => some (.returns none, [], socket)
    | .again, _ => some (.goes line, [], socket)
    | .ready, [] => none
    | .ready, c :: socket =>
        if c = newline then some (.returns (some line), [c], socket)
        else some (.goes (line ++ [c]), [c], socket)
  else some (.returns none, [], socket)

/-- What `write` answers. -/
inductive WriteAnswer where
  | interrupted
  | fails
  | takes (count : Nat)
  deriving DecidableEq, Repr

/-- `BluetoothRelay::WriteAll`: the round, and the bytes that the socket takes. -/
def writeAllRound (data : Bytes) (written : Nat) (answer : WriteAnswer) :
    Option (Round Nat Bool × Bytes) :=
  if written < data.length then
    match answer with
    | .interrupted => some (.goes written, [])
    | .fails => some (.returns false, [])
    | .takes count =>
        if 0 < count ∧ count ≤ data.length - written then
          some (.goes (written + count), (data.drop written).take count)
        else none
  else some (.returns true, [])

/-! ## `RFCOMMStream` -/

structure RFCOMMDelegate where
  readBuffer : Bytes := []
  isClosed : Bool := false
  deriving DecidableEq, Repr

/-- `RFCOMMStream::Read`, when it has stopped waiting; `sawStop` is what `IsStopped` gave before, and
`idle` what `IsIdleTimedOut` gives. -/
def rfcommRead (length : Nat) (sawStop idle : Bool) (delegate : RFCOMMDelegate) :
    (Bytes × PacketError) × RFCOMMDelegate :=
  if delegate.readBuffer ≠ [] then
    let count := min length delegate.readBuffer.length
    ((delegate.readBuffer.take count, .none),
      { delegate with readBuffer := delegate.readBuffer.drop count })
  else if sawStop = true then (([], .closedConnection), delegate)
  else if delegate.isClosed = true then (([], .closedConnection), delegate)
  else if idle = true then (([], .timeout), delegate)
  else (([], .none), delegate)

/-- A write to the phone: the channel is closed, it refuses the write, the write completes, or it fails
after some of its bytes have reached the phone. -/
inductive RawAnswer where
  | closed
  | refused
  | completes (mtu : UInt16)
  | breaks (mtu : UInt16) (reached : Nat) (error : PacketError)
  deriving DecidableEq, Repr

/-- `RFCOMMStream::WriteRaw`: the result, and the bytes that reach the phone. -/
def rfcommWriteRaw (buffer : Bytes) (answer : RawAnswer) : (Nat × PacketError) × Bytes :=
  let chunkSize (mtu : UInt16) := min buffer.length (if 0 < mtu then mtu.toNat else FALLBACK_MTU)
  match answer with
  | .closed => ((0, .closedConnection), [])
  | .refused => ((0, .unknown), [])
  | .completes mtu => ((chunkSize mtu, .none), buffer.take (chunkSize mtu))
  | .breaks mtu reached error => ((0, error), buffer.take (min reached (chunkSize mtu)))

/-! ## The state -/

/-- `BluetoothRelay::Connect`, from the writing of the request on, and what follows in `pcbu_auth`. -/
inductive AuthPhase where
  | request (data : Bytes) (written : Nat)
  | response (line : Str)
  | connected
  | failed (status : Int)
  deriving DecidableEq, Repr

/-- `RelayClient`. -/
inductive HelperPhase where
  | request (line : Str)
  | connecting (address : Str) (timeoutSecs : UInt32)
  | refusing (response : Bytes) (written : Nat)
  | accepting (response : Bytes) (written : Nat)
  /-- at the head of the loop to the phone -/
  | relaying
  | polling
  | forwarding (buffer : Bytes) (written : Nat)
  /-- behind the loop; the other thread is joined -/
  | closing
  | closed
  deriving DecidableEq, Repr

/-- `phoneThread`. -/
inductive PhoneThread where
  | notStarted
  | looping
  | reading
  | forwarding (buffer : Bytes) (written : Nat)
  | ended
  deriving DecidableEq, Repr

structure Relay where
  auth : AuthPhase
  /-- what `pcbu_auth` has sent, and what it has read -/
  authSent : Bytes := []
  authRead : Bytes := []
  /-- what it has read since `Connect` returned -/
  authData : Bytes := []
  toHelper : Bytes := []
  toAuth : Bytes := []
  helper : HelperPhase := .request []
  /-- what `ReadLine` has returned to `RelayClient` -/
  request : Option Str := none
  phoneThread : PhoneThread := .notStarted
  isRunning : Bool := true
  delegate : RFCOMMDelegate := {}
  /-- what the phone has sent, what `Read` has returned of it, and what the phone has got -/
  phoneSent : Bytes := []
  phoneRead : Bytes := []
  phoneReceived : Bytes := []
  deriving DecidableEq, Repr

/-- The request of `Connect`. -/
def connectRequest (deviceAddress : Str) (timeoutSecs : UInt32) : Bytes :=
  str "CONNECT " ++ deviceAddress ++ str " " ++ str (toString timeoutSecs.toNat) ++ [newline]

/-- `pcbu_auth` is about to write a request. -/
def start (request : Bytes) : Relay := { auth := .request request 0 }

def okLine : Bytes := str "OK\n"

def errLine (status : Int) : Bytes := str "ERR " ++ str (toString status) ++ [newline]

/-! ## The steps -/

inductive AuthEvent where
  | writes (answer : WriteAnswer)
  | line (answer : LineAnswer)
  | sends (data : Bytes)
  | receives (count : Nat)

/-- What `Connect` makes of the response. -/
def response (line : Option Str) : AuthPhase :=
  match line with
  | none => .failed (-1)
  | some line =>
      if line = str "OK" then .connected
      else if (str "ERR ").isPrefixOf line = true then .failed ((stoi (line.drop 4)).getD (-1))
      else .failed (-1)

def authStep (s : Relay) : AuthEvent → Option Relay
  | .writes answer =>
      match s.auth with
      | .request data written =>
          (writeAllRound data written answer).map (fun r => { s with
            auth := match r.1 with
              | .goes written => .request data written
              | .returns true => .response []
              | .returns false => .failed (-1)
            authSent := s.authSent ++ r.2
            toHelper := s.toHelper ++ r.2 })
      | _ => none
  | .line answer =>
      match s.auth with
      | .response line =>
          (readLineRound line s.toAuth answer).map (fun r => { s with
            auth := match r.1 with
              | .goes line => .response line
              | .returns line => response line
            authRead := s.authRead ++ r.2.1
            toAuth := r.2.2 })
      | _ => none
  | .sends data =>
      match s.auth with
      | .connected => some { s with authSent := s.authSent ++ data, toHelper := s.toHelper ++ data }
      | _ => none
  | .receives count =>
      match s.auth with
      | .connected =>
          if 0 < count ∧ count ≤ s.toAuth.length then
            some { s with
              authRead := s.authRead ++ s.toAuth.take count
              authData := s.authData ++ s.toAuth.take count
              toAuth := s.toAuth.drop count }
          else none
      | _ => none

/-- `poll` and `read` in the loop to the phone. -/
inductive PollAnswer where
  | again
  | fails
  | reads (count : Nat)

inductive HelperEvent where
  | line (answer : LineAnswer)
  | connects (status : Int)
  | writes (answer : WriteAnswer)
  | checks
  | polls (answer : PollAnswer)
  | forwards (answer : RawAnswer)
  | joins

/-- What `RelayClient` makes of the request. -/
def parseRequest (request : Option Str) : HelperPhase :=
  match request with
  | none => .closed
  | some request =>
      match split request (str " ") with
      | [command, address, timeout] =>
          if command = str "CONNECT" then
            match stoul timeout with
            | some timeoutSecs => .connecting address timeoutSecs.toUInt32
            | none => .closed
          else .closed
      | _ => .closed

def helperStep (s : Relay) : HelperEvent → Option Relay
  | .line answer =>
      match s.helper with
      | .request line =>
          (readLineRound line s.toHelper answer).map (fun r =>
            match r.1 with
            | .goes line => { s with helper := .request line, toHelper := r.2.2 }
            | .returns request =>
                { s with helper := parseRequest request, request := request, toHelper := r.2.2 })
      | _ => none
  | .connects status =>
      match s.helper with
      | .connecting _ _ =>
          some { s with helper := if status ≠ 0 then .refusing (errLine status) 0 else .accepting okLine 0 }
      | _ => none
  | .writes answer =>
      match s.helper with
      | .refusing response written =>
          (writeAllRound response written answer).map (fun r => { s with
            helper := match r.1 with
              | .goes written => .refusing response written
              | .returns _ => .closed
            toAuth := s.toAuth ++ r.2 })
      | .accepting response written =>
          (writeAllRound response written answer).map (fun r =>
            match r.1 with
            | .goes written =>
                { s with helper := .accepting response written, toAuth := s.toAuth ++ r.2 }
            | .returns true => { s with helper := .relaying, phoneThread := .looping }
            | .returns false => { s with helper := .closed })
      | _ => none
  | .checks =>
      match s.helper with
      | .relaying =>
          some { s with helper := if s.isRunning = true then .polling else .closing }
      | _ => none
  | .polls answer =>
      match s.helper, answer with
      | .polling, .again => some { s with helper := .relaying }
      | .polling, .fails => some { s with helper := .closing, isRunning := false }
      | .polling, .reads count =>
          if 0 < count ∧ count ≤ min RELAY_BUFFER_SIZE s.toHelper.length then
            some { s with
              helper := .forwarding (s.toHelper.take count) 0
              toHelper := s.toHelper.drop count }
          else none
      | _, _ => none
  | .forwards answer =>
      match s.helper with
      | .forwarding buffer written =>
          if written < buffer.length then
            let result := rfcommWriteRaw (buffer.drop written) answer
            let s := { s with phoneReceived := s.phoneReceived ++ result.2 }
            if result.1.1 = 0 then some { s with helper := .closing, isRunning := false }
            else some { s with helper := .forwarding buffer (written + result.1.1) }
          else some { s with helper := .relaying }
      | _ => none
  | .joins =>
      match s.helper, s.phoneThread with
      | .closing, .ended =>
          some { s with helper := .closed, delegate := { s.delegate with isClosed := true } }
      | _, _ => none

inductive ThreadEvent where
  | checks
  | reads (sawStop idle : Bool)
  | writes (answer : WriteAnswer)

def threadStep (s : Relay) : ThreadEvent → Option Relay
  | .checks =>
      match s.phoneThread with
      | .looping => some { s with phoneThread := if s.isRunning = true then .reading else .ended }
      | _ => none
  | .reads sawStop idle =>
      match s.phoneThread with
      | .reading =>
          -- what has stopped does not run again
          if sawStop = true ∧ s.isRunning = true then none
          else
            let result := rfcommRead RELAY_BUFFER_SIZE sawStop idle s.delegate
            let s := { s with delegate := result.2, phoneRead := s.phoneRead ++ result.1.1 }
            if result.1.1 ≠ [] then some { s with phoneThread := .forwarding result.1.1 0 }
            else if result.1.2 ≠ .none then some { s with phoneThread := .ended, isRunning := false }
            else some { s with phoneThread := .looping }
      | _ => none
  | .writes answer =>
      match s.phoneThread with
      | .forwarding buffer written =>
          (writeAllRound buffer written answer).map (fun r =>
            match r.1 with
            | .goes written =>
                { s with phoneThread := .forwarding buffer written, toAuth := s.toAuth ++ r.2 }
            | .returns true => { s with phoneThread := .looping }
            | .returns false => { s with phoneThread := .ended, isRunning := false })
      | _ => none

inductive Event where
  | auth (event : AuthEvent)
  | helper (event : HelperEvent)
  | thread (event : ThreadEvent)
  /-- `rfcommChannelData` and `rfcommChannelClosed` -/
  | phoneSends (data : Bytes)
  | phoneCloses

def step (s : Relay) : Event → Option Relay
  | .auth event => authStep s event
  | .helper event => helperStep s event
  | .thread event => threadStep s event
  | .phoneSends data =>
      some { s with
        delegate := { s.delegate with readBuffer := s.delegate.readBuffer ++ data }
        phoneSent := s.phoneSent ++ data }
  | .phoneCloses => some { s with delegate := { s.delegate with isClosed := true } }

end BluetoothRelay

end PcbuDesktop
