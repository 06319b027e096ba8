import PcbuDesktop.Stream.Framing
import PcbuDesktop.Lib.Transport

set_option autoImplicit false

/-! # Packets through the cloud relay

`WebSocketStream` is a `ConnectionStream` over a websocket. Messages arrive whole; `Read` hands them out
in pieces of the length that it is asked for, from a buffer with an offset, and waits for the next message
when the buffer is used up. How the other side has cut its bytes into messages cannot be seen: what the
reads return are the bytes of the messages, and `ReadPacket` finds the packets that it would find on a TCP
stream. A message of more than `MAX_MESSAGE_SIZE` bytes (128 KiB) does not arrive: `async_read` fails on it.
-/

namespace PcbuDesktop

open Polling

/-! ## `ReadPacket` over any stream -/

section

variable {τ : Type} (read : ReadOp τ UInt8 PacketError) (fuel : Nat)

def readHeaderOver (t : τ) : Option (PacketError × τ) :=
  (pollOver read .none (fun c => if c < headerBE.length then 1 else 0)
    (fun c (got : Bytes) => got.foldl scanByte c) fuel t 0).map (fun r => (r.1.1, r.2))

def readDataOver (size : Nat) (t : τ) : Option ((PacketError × Bytes) × τ) :=
  (pollOver read .none (fun buffer => size - buffer.length) (fun (buffer got : Bytes) => buffer ++ got)
    fuel t []).map (fun r => ((r.1.1, if r.1.1 = .none then r.1.2 else []), r.2))

/-- `BaseConnection::ReadPacket` over a stream with any read operation; `fuel` bounds the calls of each
loop. -/
def readPacketOver (t : τ) : Option (Packet × τ) := do
  let (error, t) ← readHeaderOver read fuel t
  if error ≠ .none then
    return ({ error := error }, t)
  let ((error, idBytes), t) ← readDataOver read fuel 2 t
  if error ≠ .none ∨ idBytes.length ≠ 2 then
    return ({ error := error }, t)
  let packetId := UInt16.ofNat (BigEndian.ofBE idBytes)
  let ((error, lengthBytes), t) ← readDataOver read fuel 2 t
  if error ≠ .none ∨ lengthBytes.length ≠ 2 then
    return ({ error := error }, t)
  let packetLength := BigEndian.ofBE lengthBytes
  if packetLength = 0 then
    return ({ error := .unknown }, t)
  let ((error, data), t) ← readDataOver read fuel packetLength t
  if error ≠ .none ∨ data.length ≠ packetLength then
    return ({ error := error }, t)
  return ({ error := .none, id := packetId, data := data }, t)

def readPacketsOver : Nat → τ → Option (List Packet × τ)
  | 0, t => some ([], t)
  | n + 1, t => do
      let (p, t) ← readPacketOver read fuel t
      let (ps, t) ← readPacketsOver n t
      return (p :: ps, t)

/-! ### A script is such a stream -/

theorem readHeader_eq_over {s : Incoming} (h : s.script.length < fuel) :
    readHeader s = readHeaderOver Source.read fuel s := by
  unfold readHeaderOver
  rw [← poll_eq_pollOver h, polled, Option.map_map]
  rfl

theorem readHeader_script_le {s s' : Incoming} {error : PacketError} (h : readHeader s = some (error, s')) :
    s'.script.length ≤ s.script.length := by
  obtain ⟨r, hr, heq⟩ := Option.map_eq_some_iff.mp h
  cases heq
  exact (polled_script (Option.map_eq_some_iff.mpr ⟨r, hr, rfl⟩)).1.length_le

theorem readData_eq_over (size : Nat) {s : Incoming} (h : s.script.length < fuel) :
    readData size s = readDataOver Source.read fuel size s := by
  unfold readDataOver
  rw [← poll_eq_pollOver h, polled, Option.map_map]
  rfl

theorem readData_script_le {size : Nat} {s s' : Incoming} {r : PacketError × Bytes}
    (h : readData size s = some (r, s')) : s'.script.length ≤ s.script.length := by
  obtain ⟨p, hp, heq⟩ := Option.map_eq_some_iff.mp h
  cases heq
  exact (polled_script (Option.map_eq_some_iff.mpr ⟨p, hp, rfl⟩)).1.length_le

/-- `readPacket` is `ReadPacket` over a source. -/
theorem readPacket_eq_over {s : Incoming} (h : s.script.length < fuel) :
    readPacket s = readPacketOver Source.read fuel s := by
  unfold readPacket readPacketOver
  rw [← readHeader_eq_over fuel h]
  refine Option.bind_congr ?_
  rintro ⟨error, s₁⟩ h₁
  have hs₁ : s₁.script.length < fuel := Nat.lt_of_le_of_lt (readHeader_script_le h₁) h
  dsimp only
  split
  · rfl
  rw [← readData_eq_over fuel 2 hs₁]
  refine Option.bind_congr ?_
  rintro ⟨r₂, s₂⟩ h₂
  have hs₂ : s₂.script.length < fuel := Nat.lt_of_le_of_lt (readData_script_le h₂) hs₁
  dsimp only
  split
  · rfl
  rw [← readData_eq_over fuel 2 hs₂]
  refine Option.bind_congr ?_
  rintro ⟨r₃, s₃⟩ h₃
  have hs₃ : s₃.script.length < fuel := Nat.lt_of_le_of_lt (readData_script_le h₃) hs₂
  dsimp only
  split
  · rfl
  split
  · rfl
  rw [← readData_eq_over fuel _ hs₃]

/-! ### Any transport behaves like one -/

variable {read} {unread ahead : τ → Bytes}

/-- The loop of the header search over a source. -/
def headerLoop : Incoming → Option ((PacketError × Nat) × Incoming) :=
  polled .none (fun c => if c < headerBE.length then 1 else 0) (fun c (got : Bytes) => got.foldl scanByte c)
    0

/-- The loop of `ReadData` over a source. -/
def dataLoop (size : Nat) : Incoming → Option ((PacketError × Bytes) × Incoming) :=
  polled .none (fun buffer => size - buffer.length) (fun (buffer got : Bytes) => buffer ++ got) []

theorem readHeader_eq_map : readHeader = fun s => (headerLoop s).map (fun r => (r.1.1, r.2)) := by
  funext s
  unfold readHeader headerLoop polled
  rw [Option.map_map]
  rfl

theorem readData_eq_map (size : Nat) : readData size =
    fun s => (dataLoop size s).map (fun r => ((r.1.1, if r.1.1 = .none then r.1.2 else []), r.2)) := by
  funext s
  unfold readData dataLoop polled fill
  rw [Option.map_map]
  rfl

theorem readHeaderOver_simulates (h : Transport read .none unread ahead) :
    Simulates .none fuel unread ahead (readHeaderOver read fuel) readHeader := by
  have hloop : Simulates .none fuel unread ahead _ headerLoop := pollOver_simulates h fuel 0
  rw [readHeader_eq_map]
  exact hloop.map Prod.fst

theorem readDataOver_simulates (h : Transport read .none unread ahead) (size : Nat) :
    Simulates .none fuel unread ahead (readDataOver read fuel size) (readData size) := by
  have hloop : Simulates .none fuel unread ahead _ (dataLoop size) := pollOver_simulates h fuel []
  rw [readData_eq_map]
  exact hloop.map (fun r => (r.1, if r.1 = .none then r.2 else []))

/-- `ReadPacket` over a transport does what it does over a script. -/
theorem readPacketOver_simulates (h : Transport read .none unread ahead) :
    Simulates .none fuel unread ahead (readPacketOver read fuel) readPacket := by
  refine (readHeaderOver_simulates fuel h).bind (fun error => ?_)
  refine Simulates.ite (Simulates.pure _) ?_
  refine (readDataOver_simulates fuel h 2).bind (fun r => ?_)
  refine Simulates.ite (Simulates.pure _) ?_
  refine (readDataOver_simulates fuel h 2).bind (fun r => ?_)
  refine Simulates.ite (Simulates.pure _) ?_
  refine Simulates.ite (Simulates.pure _) ?_
  refine (readDataOver_simulates fuel h _).bind (fun r => ?_)
  exact Simulates.ite (Simulates.pure _) (Simulates.pure _)

theorem readPacketsOver_simulates (h : Transport read .none unread ahead) (n : Nat) :
    Simulates .none fuel unread ahead (readPacketsOver read fuel n) (readPackets n) := by
  induction n with
  | zero => exact Simulates.pure []
  | succ n ih =>
      refine (readPacketOver_simulates fuel h).bind (fun p => ?_)
      exact ih.bind (fun ps => Simulates.pure _)

end

/-! ### The cuts of the stream do not matter -/

theorem readHeader_steady : Steady .none readHeader := by
  have hdivisible : Divisible (fun c => if c < headerBE.length then 1 else 0)
      (fun c (got : Bytes) => got.foldl scanByte c) := by
    refine ⟨fun c => rfl, fun c a b => List.foldl_append, ?_⟩
    intro c got hlt
    split at hlt
    · next hmissing =>
        rw [List.length_eq_zero_iff.mp (Nat.lt_one_iff.mp hlt), List.foldl_nil, if_pos hmissing]
        exact Nat.one_ne_zero
    · exact absurd hlt (Nat.not_lt_zero _)
  have hloop : Steady .none headerLoop := polled_steady hdivisible 0
  rw [readHeader_eq_map]
  exact hloop.map Prod.fst

theorem readData_steady (size : Nat) : Steady .none (readData size) := by
  have hdivisible : Divisible (fun buffer : Bytes => size - buffer.length)
      (fun (buffer got : Bytes) => buffer ++ got) := by
    refine ⟨List.append_nil, fun s a b => (List.append_assoc s a b).symm, ?_⟩
    intro s got hlt
    rw [List.length_append]
    omega
  have hloop : Steady .none (dataLoop size) := polled_steady hdivisible []
  rw [readData_eq_map]
  exact hloop.map (fun r => (r.1, if r.1 = .none then r.2 else []))

/-- On a stream that does not fail, what `ReadPacket` returns does not depend on the cuts. -/
theorem readPacket_steady : Steady .none readPacket := by
  refine readHeader_steady.bind (fun error => ?_)
  refine Steady.ite (Steady.pure _) ?_
  refine (readData_steady 2).bind (fun r => ?_)
  refine Steady.ite (Steady.pure _) ?_
  refine (readData_steady 2).bind (fun r => ?_)
  refine Steady.ite (Steady.pure _) ?_
  refine Steady.ite (Steady.pure _) ?_
  refine (readData_steady _).bind (fun r => ?_)
  exact Steady.ite (Steady.pure _) (Steady.pure _)

theorem readPackets_steady (n : Nat) : Steady .none (readPackets n) := by
  induction n with
  | zero => exact Steady.pure []
  | succ n ih =>
      refine readPacket_steady.bind (fun p => ?_)
      exact ih.bind (fun ps => Steady.pure _)

/-! ## `WebSocketStream` -/

/-- `beast::error_code`, as far as `MapError` compares it. -/
inductive RelayErrorCode where
  | timeout
  | timedOut
  | other
  deriving DecidableEq, Repr

def RELAY_VERSION_CLOSE_CODE : UInt16 := 4001
def RELAY_SESSION_TIMEOUT_CLOSE_CODE : UInt16 := 4002
def RELAY_PEER_UNAVAILABLE_CLOSE_CODE : UInt16 := 4003

/-- What an `async_read` brings: a whole message, or an error, as for one that is too large. A message that
breaks off leaves what has arrived of it in the buffer. -/
inductive Arrival where
  | message (data : Bytes)
  | failure (part : Bytes) (ec : RelayErrorCode) (closeCode : UInt16)

structure WebSocketStream where
  /-- one of `m_Wss` and `m_Ws` is there -/
  connected : Bool := true
  closed : Bool := false
  readBuffer : Bytes := []
  readOffset : Nat := 0
  /-- what the coming `async_read`s will bring -/
  arrivals : List Arrival := []

namespace WebSocketStream

def mapError (ec : RelayErrorCode) (closeCode : UInt16) : PacketError :=
  if ec = .timeout ∨ ec = .timedOut then .timeout
  else if closeCode = RELAY_VERSION_CLOSE_CODE then .unsupportedVersion
  else if closeCode = RELAY_SESSION_TIMEOUT_CLOSE_CODE then .timeout
  else if closeCode = RELAY_PEER_UNAVAILABLE_CLOSE_CODE then .peerUnavailable
  else .closedConnection

/-- The loop of `ReadFrom`: messages are read until there is something in the buffer. -/
def fetch (s : WebSocketStream) : List Arrival → Option (Option PacketError × WebSocketStream)
  | [] => if s.readBuffer.length ≤ s.readOffset then none else some (none, { s with arrivals := [] })
  | arrival :: arrivals =>
      if s.readBuffer.length ≤ s.readOffset then
        -- `consume` has emptied the buffer
        match arrival with
        | .message data => fetch { s with readBuffer := data, readOffset := 0 } arrivals
        | .failure part ec closeCode =>
            some (some (mapError ec closeCode),
              { s with readBuffer := part, readOffset := 0, arrivals := arrivals })
      else some (none, { s with arrivals := arrival :: arrivals })

/-- `ReadFrom`: the bytes that are copied, and the error. -/
def readFrom : ReadOp WebSocketStream UInt8 PacketError := fun s length =>
  match fetch s s.arrivals with
  | none => none
  | some (some error, s) => some (([], error), s)
  | some (none, s) =>
      let available := s.readBuffer.length - s.readOffset
      let count := min available length
      some (((s.readBuffer.drop s.readOffset).take count, .none),
        { s with readOffset := s.readOffset + count })

/-- `WebSocketStream::Read`. -/
def read : ReadOp WebSocketStream UInt8 PacketError := fun s length =>
  if s.closed = true then some (([], .closedConnection), s)
  else if s.connected = true then readFrom s length
  else some (([], .closedConnection), s)

/-- A call of the stream's user, or of another thread. -/
inductive Op where
  | read (length : Nat)
  | close

/-- One call; what `Read` returns, and the stream behind it. -/
def step (s : WebSocketStream) : Op → Option (List (Bytes × PacketError) × WebSocketStream)
  | .read length => (read s length).map (fun r => ([r.1], r.2))
  | .close => some ([], { s with closed := true })

/-- A sequence of calls that all return. -/
def run : List Op → WebSocketStream → Option (List (Bytes × PacketError) × WebSocketStream)
  | [], s => some ([], s)
  | op :: ops, s => do
      let (result, s) ← step s op
      let (results, s) ← run ops s
      return (result ++ results, s)

/-- The bytes that arrive. -/
def sent (arrivals : List Arrival) : Bytes :=
  arrivals.flatMap (fun arrival => match arrival with
    | .message data => data
    | .failure part _ _ => part)

/-- What has not been returned by a `Read`. -/
def unread (s : WebSocketStream) : Bytes := s.readBuffer.drop s.readOffset ++ sent s.arrivals

/-- The bytes of the messages in front of the first failure. -/
def leading : List Arrival → Bytes
  | .message data :: arrivals => data ++ leading arrivals
  | _ => []

/-- What can be read before something fails or has to be waited for. -/
def ahead (s : WebSocketStream) : Bytes :=
  if s.closed = true ∨ s.connected = false then [] else s.readBuffer.drop s.readOffset ++ leading s.arrivals

/-! ## Reading -/

theorem mapError_ne_none (ec : RelayErrorCode) (closeCode : UInt16) : mapError ec closeCode ≠ .none := by
  unfold mapError
  repeat' split
  all_goals nofun

/-- The loop loses nothing. It ends with something to read, or with an error. -/
theorem fetch_spec {arrivals : List Arrival} {s s' : WebSocketStream} {error : Option PacketError}
    (h : fetch s arrivals = some (error, s')) :
    s'.unread = s.readBuffer.drop s.readOffset ++ sent arrivals ∧
      (error = none → s'.readOffset < s'.readBuffer.length) ∧ error ≠ some .none := by
  induction arrivals generalizing s with
  | nil =>
      rw [fetch] at h
      split at h
      · cases h
      · next hleft =>
          cases h
          exact ⟨rfl, fun _ => Nat.lt_of_not_le hleft, nofun⟩
  | cons arrival arrivals ih =>
      unfold fetch at h
      split at h
      · next hempty =>
          -- the buffer is used up
          rw [List.drop_eq_nil_iff.mpr hempty, List.nil_append]
          cases arrival with
          | message data => exact ih h
          | failure part ec closeCode =>
              cases h
              refine ⟨rfl, nofun, ?_⟩
              intro heq
              exact mapError_ne_none ec closeCode (Option.some_inj.mp heq)
      · next hleft =>
          cases h
          exact ⟨rfl, fun _ => Nat.lt_of_not_le hleft, nofun⟩

/-- If there are bytes ahead, the loop ends with something to read. -/
theorem fetch_ahead {arrivals : List Arrival} {s : WebSocketStream}
    (h : s.readBuffer.drop s.readOffset ++ leading arrivals ≠ []) :
    ∃ s', fetch s arrivals = some (none, s') ∧ s'.closed = s.closed ∧ s'.connected = s.connected ∧
      s'.readBuffer.drop s'.readOffset ++ leading s'.arrivals =
        s.readBuffer.drop s.readOffset ++ leading arrivals := by
  induction arrivals generalizing s with
  | nil =>
      have hleft : ¬ s.readBuffer.length ≤ s.readOffset := by
        intro hempty
        rw [List.drop_eq_nil_iff.mpr hempty] at h
        exact h rfl
      rw [fetch, if_neg hleft]
      exact ⟨_, rfl, rfl, rfl, rfl⟩
  | cons arrival arrivals ih =>
      unfold fetch
      by_cases hempty : s.readBuffer.length ≤ s.readOffset
      · rw [if_pos hempty]
        rw [List.drop_eq_nil_iff.mpr hempty, List.nil_append] at h ⊢
        cases arrival with
        | message data => exact ih h
        | failure part ec closeCode => exact absurd rfl h
      · rw [if_neg hempty]
        exact ⟨_, rfl, rfl, rfl, rfl⟩

/-- The piece that is copied is the front of the rest of the buffer. -/
theorem copied_append (buffer rest : Bytes) (offset length : Nat) :
    (buffer.drop offset).take (min (buffer.length - offset) length) ++
      (buffer.drop (offset + min (buffer.length - offset) length) ++ rest) = buffer.drop offset ++ rest := by
  rw [← List.drop_drop, ← List.append_assoc, List.take_append_drop]

/-- A `Read` returns the next bytes, and never nothing without an error. -/
theorem read_spec {s s' : WebSocketStream} {length : Nat} {got : Bytes} {error : PacketError}
    (h : read s length = some ((got, error), s')) :
    s.unread = got ++ s'.unread ∧ got.length ≤ length ∧ (error = .none → 1 ≤ length → got ≠ []) := by
  unfold read readFrom at h
  split at h
  · cases h
    exact ⟨rfl, Nat.zero_le _, nofun⟩
  · split at h
    · split at h
      · cases h
      · next error' s₁ hfetch =>
          cases h
          obtain ⟨hunread, -, herror⟩ := fetch_spec hfetch
          exact ⟨hunread.symm, Nat.zero_le _, fun hnone => absurd (by rw [hnone]) herror⟩
      · next s₁ hfetch =>
          cases h
          obtain ⟨hunread, hleft, -⟩ := fetch_spec hfetch
          have hlt := hleft rfl
          refine ⟨?_, ?_, fun _ hlength => ?_⟩
          · refine hunread.symm.trans (Eq.symm ?_)
            exact copied_append s₁.readBuffer (sent s₁.arrivals) s₁.readOffset length
          · rw [List.length_take]
            omega
          · apply List.ne_nil_of_length_pos
            rw [List.length_take, List.length_drop]
            omega
    · cases h
      exact ⟨rfl, Nat.zero_le _, nofun⟩

/-- A websocket is a transport. -/
theorem read_transport : Transport read .none unread ahead := by
  constructor
  · intro s n got error s' _ h
    obtain ⟨hunread, hlen, -⟩ := read_spec h
    exact ⟨hunread, hlen⟩
  · intro s n hn hahead
    have hopen : ¬ (s.closed = true ∨ s.connected = false) := by
      intro h
      rw [ahead, if_pos h] at hahead
      exact hahead rfl
    have hbytes : s.ahead = s.readBuffer.drop s.readOffset ++ leading s.arrivals := if_neg hopen
    rw [hbytes] at hahead
    rw [not_or, Bool.not_eq_true, Bool.not_eq_false] at hopen
    obtain ⟨s₁, hfetch, hclosed, hconnected, hsame⟩ := fetch_ahead hahead
    have hread : read s n = some (((s₁.readBuffer.drop s₁.readOffset).take
        (min (s₁.readBuffer.length - s₁.readOffset) n), .none),
        { s₁ with readOffset := s₁.readOffset + min (s₁.readBuffer.length - s₁.readOffset) n }) := by
      rw [read, hopen.1, hopen.2, if_neg Bool.false_ne_true, if_pos rfl, readFrom, hfetch]
    obtain ⟨-, hlen, hne⟩ := read_spec hread
    refine ⟨_, _, hread, hne rfl hn, hlen, ?_⟩
    have hopen₁ : ¬ (s₁.closed = true ∨ s₁.connected = false) := by
      rw [hclosed, hconnected, hopen.1, hopen.2]
      decide
    rw [hbytes, ahead, if_neg hopen₁, ← hsame]
    exact (copied_append s₁.readBuffer (leading s₁.arrivals) s₁.readOffset n).symm

/-- Any calls return the bytes in their order, and leave the rest. -/
theorem run_spec {ops : List Op} {s s' : WebSocketStream} {results : List (Bytes × PacketError)}
    (h : run ops s = some (results, s')) :
    results.flatMap Prod.fst ++ s'.unread = s.unread ∧
      ((∀ length, .read length ∈ ops → 1 ≤ length) → ∀ r ∈ results, r.2 = .none → r.1 ≠ []) := by
  induction ops generalizing s results with
  | nil =>
      cases h
      exact ⟨rfl, fun _ _ hr => nomatch hr⟩
  | cons op ops ih =>
      obtain ⟨⟨result, s₁⟩, hstep, h⟩ := Option.bind_eq_some_iff.mp h
      obtain ⟨⟨rest, s₂⟩, hrun, heq⟩ := Option.bind_eq_some_iff.mp h
      cases heq
      obtain ⟨hunread, hsome⟩ := ih hrun
      -- one step
      have hone : result.flatMap Prod.fst ++ s₁.unread = s.unread ∧
          ((∀ length, op = .read length → 1 ≤ length) → ∀ r ∈ result, r.2 = .none → r.1 ≠ []) := by
        cases op with
        | close =>
            cases hstep
            exact ⟨rfl, fun _ _ hr => nomatch hr⟩
        | read length =>
            obtain ⟨⟨⟨got, error⟩, s₃⟩, hread, heq⟩ := Option.map_eq_some_iff.mp hstep
            cases heq
            obtain ⟨hnext, -, hne⟩ := read_spec hread
            refine ⟨?_, ?_⟩
            · rw [List.flatMap_singleton]
              exact hnext.symm
            · intro hlength r hr hnone
              rw [List.mem_singleton.mp hr] at hnone ⊢
              exact hne hnone (hlength length rfl)
      refine ⟨?_, ?_⟩
      · rw [List.flatMap_append, List.append_assoc, hunread]
        exact hone.1
      · intro hlength r hr
        rcases List.mem_append.mp hr with hr | hr
        · exact hone.2 (fun length heq => hlength length (by rw [heq]; exact List.mem_cons_self)) r hr
        · exact hsome (fun length hmem => hlength length (List.mem_cons_of_mem op hmem)) r hr

/-! ## Messages -/

/-- What arrives of the messages: some of them, and a beginning of the next one if an error breaks it off;
after an error nothing more. -/
def Carried : List Bytes → List Arrival → Prop
  | _, [] => True
  | [], .message _ :: _ => False
  | m :: messages, .message data :: arrivals => data = m ∧ Carried messages arrivals
  | messages, .failure part _ _ :: arrivals => part <+: messages.headD [] ∧ sent arrivals = []

theorem sent_of_carried {messages : List Bytes} {arrivals : List Arrival} (h : Carried messages arrivals) :
    sent arrivals <+: messages.flatten := by
  induction arrivals generalizing messages with
  | nil => exact List.nil_prefix
  | cons arrival arrivals ih =>
      cases arrival with
      | message data =>
          cases messages with
          | nil => exact h.elim
          | cons m messages =>
              obtain ⟨rfl, h⟩ := h
              exact (List.prefix_append_right_inj data).mpr (ih h)
      | failure part ec closeCode =>
          have hpart : part <+: messages.headD [] ∧ sent arrivals = [] := by
            cases messages <;> exact h
          show part ++ sent arrivals <+: _
          rw [hpart.2, List.append_nil]
          cases messages with
          | nil => exact hpart.1
          | cons m messages => exact hpart.1.trans (List.prefix_append m messages.flatten)

theorem leading_messages (messages : List Bytes) (more : List Arrival) :
    leading (messages.map .message ++ more) = messages.flatten ++ leading more := by
  induction messages with
  | nil => rfl
  | cons m messages ih =>
      show m ++ leading (messages.map .message ++ more) = m ++ messages.flatten ++ leading more
      rw [ih, List.append_assoc]

theorem leading_length_le (arrivals : List Arrival) : (leading arrivals).length ≤ (sent arrivals).length := by
  induction arrivals with
  | nil => exact Nat.le_refl 0
  | cons arrival arrivals ih =>
      cases arrival with
      | failure part ec closeCode => exact Nat.zero_le _
      | message data =>
          show (data ++ leading arrivals).length ≤ (data ++ sent arrivals).length
          rw [List.length_append, List.length_append]
          omega

/-- **The WebSocket stream is a transparent byte stream.** What the reads return are the first bytes of the
messages, in order and without a gap, and never nothing without an error. Whatever `ReadPacket` returns, it
returns on a TCP stream with the same bytes; what it returns on a TCP stream that does not fail, it returns
for messages with the same bytes, cut in any way; and so it returns the packets that were written. -/
theorem websocket_transparent (messages : List Bytes) :
    (∀ arrivals ops results s, Carried messages arrivals → (∀ length, .read length ∈ ops → 1 ≤ length) →
      run ops { arrivals := arrivals } = some (results, s) →
        results.flatMap Prod.fst ++ s.unread = sent arrivals ∧
        results.flatMap Prod.fst <+: messages.flatten ∧ ∀ r ∈ results, r.2 = .none → r.1 ≠ []) ∧
    (∀ fuel s p s', readPacketOver read fuel s = some (p, s') →
      ∃ script, readPacket ⟨script, s.unread⟩ = some (p, ⟨[], s'.unread⟩)) ∧
    (∀ rs fuel k got s, Calm .none rs → messages.flatten.length < fuel →
      readPackets k ⟨rs, messages.flatten⟩ = some (got, s) →
        ∃ s', readPacketsOver read fuel k { arrivals := messages.map .message } = some (got, s')) ∧
    (∀ (packets : List (UInt16 × Bytes)) (rest : Bytes) (more : List Arrival) (fuel k : Nat),
      (∀ p ∈ packets, 1 ≤ p.2.length ∧ p.2.length ≤ 65535) →
      messages.flatten = frames packets ++ rest →
      (sent (messages.map .message ++ more)).length < fuel → k ≤ packets.length →
        ∃ s, readPacketsOver read fuel k { arrivals := messages.map .message ++ more } =
          some ((packets.take k).map received, s)) := by
  refine ⟨?_, ?_, ?_, ?_⟩
  · intro arrivals ops results s hcarried hlength hrun
    obtain ⟨hall, hne⟩ := run_spec hrun
    refine ⟨hall, ?_, hne hlength⟩
    exact List.IsPrefix.trans ⟨s.unread, hall⟩ (sent_of_carried hcarried)
  · intro fuel s p s' h
    obtain ⟨script, hscript⟩ := (readPacketOver_simulates fuel read_transport).follows s p s' h
    have hnow := hscript []
    rw [List.append_nil] at hnow
    exact ⟨script, hnow⟩
  · intro rs fuel k got s hcalm hfuel hrun
    have hahead : ahead { arrivals := messages.map .message } = messages.flatten := by
      have h := leading_messages messages []
      rw [List.append_nil] at h
      exact h.trans (List.append_nil _)
    refine (readPackets_steady k).returns (readPacketsOver_simulates fuel read_transport k) hcalm hrun
      hahead ?_
    rw [hahead]
    exact hfuel
  · intro packets rest more fuel k hsize hbytes hfuel hk
    have hgets := readPackets_gets (packets.take k) (fun p hp => hsize p (List.mem_of_mem_take hp))
    rw [List.length_take, Nat.min_eq_left hk] at hgets
    have hsplit : frames packets = frames (packets.take k) ++ frames (packets.drop k) := by
      rw [frames, frames, frames, ← List.flatMap_append, List.take_append_drop]
    have hahead : ahead { arrivals := messages.map .message ++ more } =
        frames (packets.take k) ++ (frames (packets.drop k) ++ rest ++ leading more) := by
      show leading (messages.map .message ++ more) = _
      rw [leading_messages, hbytes, hsplit]
      simp only [List.append_assoc]
    have hle : (ahead { arrivals := messages.map .message ++ more }).length < fuel :=
      Nat.lt_of_le_of_lt (leading_length_le (messages.map .message ++ more)) hfuel
    obtain ⟨s, hs, -⟩ := (readPacketsOver_simulates fuel read_transport k).gets hgets hahead hle
    exact ⟨s, hs⟩

end WebSocketStream

namespace Sample

/-- The bytes of the two packets and one more, in messages of which two are empty. -/
def messages : List Bytes := [[], (frames packets).take 3, [], (frames packets).drop 3 ++ [9]]

/-- A TCP stream that moves at most three bytes. -/
def threes : List StreamResult := List.replicate 20 ⟨3, .none⟩

end Sample

namespace WebSocketStream

theorem websocket_transparent_sample :
    (∃ results s, run [.read 2, .read 5, .read 4, .close, .read 1]
        { arrivals := Sample.messages.map .message } = some (results, s) ∧
      results.flatMap Prod.fst <+: Sample.messages.flatten) ∧
    (∃ s, readPacketsOver read 100 2 { arrivals := Sample.messages.map .message } =
      some (Sample.packets.map received, s)) ∧
    ∃ s p, readPackets 1 ⟨Sample.threes, Sample.messages.flatten⟩ = some ([p], s) ∧
      ∃ s', readPacketsOver read 100 1 { arrivals := Sample.messages.map .message } = some ([p], s') := by
  obtain ⟨htransparent, -, htcp, hpackets⟩ := websocket_transparent Sample.messages
  have hcarried : Carried Sample.messages (Sample.messages.map .message) := by
    exact ⟨rfl, rfl, rfl, rfl, trivial⟩
  refine ⟨?_, ?_, ?_⟩
  · obtain ⟨results, s, hrun⟩ : ∃ results s, run [.read 2, .read 5, .read 4, .close, .read 1]
        { arrivals := Sample.messages.map .message } = some (results, s) := ⟨_, _, rfl⟩
    have hlength : ∀ length, Op.read length ∈ [.read 2, .read 5, .read 4, .close, .read 1] →
        1 ≤ length := by
      intro length hmem
      simp only [List.mem_cons, Op.read.injEq, reduceCtorEq, false_or, List.not_mem_nil, or_false] at hmem
      omega
    exact ⟨results, s, hrun, (htransparent _ _ results s hcarried hlength hrun).2.1⟩
  · have h := hpackets Sample.packets [9] [] 100 2 (by decide) (by decide) (by decide) (by decide)
    rw [List.append_nil] at h
    exact h
  · have hcalm : Calm .none Sample.threes := by
      intro o ho
      rw [List.eq_of_mem_replicate ho]
    obtain ⟨s, p, hrun⟩ : ∃ s p, readPackets 1 ⟨Sample.threes, Sample.messages.flatten⟩ = some ([p], s) :=
      ⟨_, _, rfl⟩
    exact ⟨s, p, hrun, htcp Sample.threes 100 1 [p] s hcalm (by decide) hrun⟩

end WebSocketStream

end PcbuDesktop
