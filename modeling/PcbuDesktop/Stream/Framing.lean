import PcbuDesktop.Basic.Packets
import PcbuDesktop.Lib.BigEndian
import PcbuDesktop.Lib.Polling

set_option autoImplicit false

/-! # Packet framing

`BaseConnection::ReadPacket` and `WritePacket` over a `ConnectionStream`. A packet on the wire
is the eight header bytes, the id and the data length in two bytes each, all in network byte
order, and the data. The sender collects these bytes in a buffer and `Flush` hands them to the
transport; the receiver looks for the header byte by byte and then reads the three fields with
`ReadData`. All loops poll the transport (`Lib/Polling.lean`): a `StreamResult` with a positive
byte count is used, one without bytes is retried unless it carries an error.
-/

namespace PcbuDesktop

open BigEndian Polling

def PACKET_HEADER : Nat := 0xDB065AC7AFDFA4CC

/-- The bytes of `htonll(PACKET_HEADER)` in memory. -/
def headerBE : Bytes := toBE 8 PACKET_HEADER

/-- A `StreamResult`: how many bytes the transport moves at most, and the error it reports. A
negative byte count is treated like zero everywhere. -/
abbrev StreamResult := Outcome PacketError

/-! ## The receiving side -/

/-- The receiving end of a stream: the answers of the coming `Read` calls and the bytes that
have not been read yet. Bytes that have not arrived yet are in `pending` too; a read that comes
before them is an answer with no bytes. -/
abbrev Incoming := Source UInt8 PacketError

/-- One byte of the header search: the number of header bytes matched so far. -/
def scanByte (correctHeaderBytes : Nat) (headerByte : UInt8) : Nat :=
  if headerBE[correctHeaderBytes]? = some headerByte then correctHeaderBytes + 1 else 0

/-- The loop of `ReadPacket` that looks for the header, one byte a call. -/
def readHeader (s : Incoming) : Option (PacketError × Incoming) :=
  (poll .none (fun c => if c < headerBE.length then 1 else 0) (fun c got => got.foldl scanByte c)
    s.script 0 s.pending).map (fun r => (r.error, ⟨r.script, r.pending⟩))

/-- `BaseConnection::ReadData`: an error drops what has been read. -/
def readData (size : Nat) (s : Incoming) : Option ((PacketError × Bytes) × Incoming) :=
  (fill .none size s.script s.pending).map (fun r =>
    ((r.error, if r.error = .none then r.state else []), ⟨r.script, r.pending⟩))

/-- `BaseConnection::ReadPacket`; `none` as long as the call has not returned. -/
def readPacket (s : Incoming) : Option (Packet × Incoming) := do
  let (error, s) ← readHeader s
  if error ≠ .none then
    return ({ error := error }, s)
  let ((error, idBytes), s) ← readData 2 s
  if error ≠ .none ∨ idBytes.length ≠ 2 then
    return ({ error := error }, s)
  let packetId := UInt16.ofNat (ofBE idBytes)
  let ((error, lengthBytes), s) ← readData 2 s
  if error ≠ .none ∨ lengthBytes.length ≠ 2 then
    return ({ error := error }, s)
  let packetLength := ofBE lengthBytes
  if packetLength = 0 then
    return ({ error := .unknown }, s)
  let ((error, data), s) ← readData packetLength s
  if error ≠ .none ∨ data.length ≠ packetLength then
    return ({ error := error }, s)
  return ({ error := .none, id := packetId, data := data }, s)

/-- Successive `ReadPacket` calls. -/
def readPackets : Nat → Incoming → Option (List Packet × Incoming)
  | 0, s => some ([], s)
  | n + 1, s => do
      let (p, s) ← readPacket s
      let (ps, s) ← readPackets n s
      return (p :: ps, s)

/-! ## The sending side -/

/-- The sending end of a stream: the answers of the coming `WriteRaw` calls, `m_WriteBuffer`,
and the bytes the transport has taken. -/
structure Outgoing where
  script : List StreamResult
  writeBuffer : Bytes := []
  wire : Bytes := []

/-- `ConnectionStream::Write`. -/
def Outgoing.write (s : Outgoing) (buffer : Bytes) : Outgoing :=
  { s with writeBuffer := s.writeBuffer ++ buffer }

/-- `ConnectionStream::Flush`; the buffer is cleared whether the flush succeeds or not. -/
def Outgoing.flush (s : Outgoing) : Option (PacketError × Outgoing) :=
  (fill .none s.writeBuffer.length s.script s.writeBuffer).map (fun r =>
    (r.error, { script := r.script, writeBuffer := [], wire := s.wire ++ r.state }))

/-- `BaseConnection::WritePacket`. The data length is cast to 16 bits. -/
def writePacket (packetId : UInt16) (data : Bytes) (s : Outgoing) :
    Option (PacketError × Outgoing) :=
  let s := s.write headerBE
  let s := s.write (toBE 2 packetId.toNat)
  let s := s.write (toBE 2 (data.length % 65536))
  let s := s.write data
  s.flush

/-- Successive `WritePacket` calls. -/
def writePackets : List (UInt16 × Bytes) → Outgoing → Option (List PacketError × Outgoing)
  | [], s => some ([], s)
  | p :: ps, s => do
      let (e, s) ← writePacket p.1 p.2 s
      let (es, s) ← writePackets ps s
      return (e :: es, s)

/-! ## What a call consumes -/

theorem scanByte_take {c : Nat} {b : UInt8} {consumed : Bytes}
    (h : headerBE.take c <:+ consumed) :
    headerBE.take (scanByte c b) <:+ consumed ++ [b] := by
  unfold scanByte
  by_cases hb : headerBE[c]? = some b
  · rw [if_pos hb, List.take_add_one, hb]
    obtain ⟨junk, hjunk⟩ := h
    exact ⟨junk, by rw [← hjunk, List.append_assoc]; rfl⟩
  · rw [if_neg hb]
    exact List.nil_suffix

theorem scanByte_le {c : Nat} (b : UInt8) : scanByte c b ≤ headerBE.length := by
  unfold scanByte
  split
  · next h =>
      obtain ⟨hc, -⟩ := List.getElem?_eq_some_iff.mp h
      omega
  · exact Nat.zero_le _

/-- After a scan the bytes matched so far are the last ones consumed. -/
theorem scan_suffix (consumed : Bytes) :
    headerBE.take (consumed.foldl scanByte 0) <:+ consumed ∧
      consumed.foldl scanByte 0 ≤ headerBE.length := by
  induction consumed using List.reverseRecOn with
  | nil => exact ⟨List.nil_suffix, Nat.zero_le _⟩
  | append_singleton consumed b ih =>
      rw [List.foldl_append]
      exact ⟨scanByte_take ih.1, scanByte_le b⟩

/-- The header search that ends without an error has just counted all header bytes. -/
theorem readHeader_sound {s s' : Incoming} {error : PacketError}
    (h : readHeader s = some (error, s')) :
    ∃ c, s.pending = c ++ s'.pending ∧
      (error = .none → c.foldl scanByte 0 = headerBE.length) := by
  unfold readHeader at h
  obtain ⟨r, hr, heq⟩ := Option.map_eq_some_iff.mp h
  cases heq
  -- the invariant: the state is the scan of what has been consumed
  have hI : ∀ (c : Nat) (consumed chunk : Bytes), c = consumed.foldl scanByte 0 → chunk ≠ [] →
      chunk.length ≤ (if c < headerBE.length then 1 else 0) →
      chunk.foldl scanByte c = (consumed ++ chunk).foldl scanByte 0 := by
    intro c consumed chunk hc _ _
    rw [List.foldl_append, hc]
  obtain ⟨⟨c, hc, hstate⟩, hok⟩ :=
    poll_sound (I := fun c consumed => c = consumed.foldl scanByte 0) hI (c := []) rfl hr
  rw [List.nil_append] at hstate
  refine ⟨c, hc, ?_⟩
  intro he
  have hfull : ¬ r.state < headerBE.length := by
    have hw := hok.mp he
    intro hlt
    rw [if_pos hlt] at hw
    omega
  have hle := (scan_suffix c).2
  omega

theorem readData_sound {size : Nat} {s s' : Incoming} {error : PacketError} {data : Bytes}
    (h : readData size s = some ((error, data), s')) :
    (∃ c, s.pending = c ++ s'.pending) ∧
      (error = .none → s.pending = data ++ s'.pending ∧ data.length = size) := by
  unfold readData at h
  obtain ⟨r, hr, heq⟩ := Option.map_eq_some_iff.mp h
  cases heq
  obtain ⟨hpending, hok⟩ := fill_sound hr
  refine ⟨⟨r.state, hpending⟩, ?_⟩
  intro he
  rw [if_pos he]
  exact ⟨hpending, hok.mp he⟩

/-- What a `ReadPacket` that returns `NONE` has consumed: the bytes of the header search, the id
it returns, the length of the data it returns, and these data. -/
theorem readPacket_consumed {s s' : Incoming} {p : Packet} (h : readPacket s = some (p, s'))
    (hp : p.error = .none) :
    (∃ c, c.foldl scanByte 0 = headerBE.length ∧ s.pending =
      c ++ toBE 2 p.id.toNat ++ toBE 2 p.data.length ++ p.data ++ s'.pending) ∧
    0 < p.data.length ∧ p.data.length < 65536 := by
  unfold readPacket at h
  obtain ⟨⟨e₁, s₁⟩, h₁, h⟩ := Option.bind_eq_some_iff.mp h
  obtain ⟨c, hc, hheader⟩ := readHeader_sound h₁
  dsimp only at h
  split at h
  · next he => cases h; exact absurd hp he
  next he₁ =>
  obtain ⟨⟨⟨e₂, idBytes⟩, s₂⟩, h₂, h⟩ := Option.bind_eq_some_iff.mp h
  dsimp only at h
  split at h
  · -- an error of `ReadData` is returned; a short buffer without one does not occur
    next he => cases h; exact absurd ((readData_sound h₂).2 hp).2 (by tauto)
  next he₂ =>
  obtain ⟨⟨⟨e₃, lengthBytes⟩, s₃⟩, h₃, h⟩ := Option.bind_eq_some_iff.mp h
  dsimp only at h
  split at h
  · next he => cases h; exact absurd ((readData_sound h₃).2 hp).2 (by tauto)
  next he₃ =>
  split at h
  · cases h; cases hp
  next hlen =>
  obtain ⟨⟨⟨e₄, data⟩, s₄⟩, h₄, h⟩ := Option.bind_eq_some_iff.mp h
  dsimp only at h
  split at h
  · next he => cases h; exact absurd ((readData_sound h₄).2 hp).2 (by tauto)
  next he₄ =>
  cases h
  have hscan := hheader (by tauto)
  obtain ⟨hid, hid2⟩ := (readData_sound h₂).2 (by tauto)
  obtain ⟨hl, hl2⟩ := (readData_sound h₃).2 (by tauto)
  obtain ⟨hdata, hdata2⟩ := (readData_sound h₄).2 (by tauto)
  have hidlt : ofBE idBytes < 65536 := by
    have := ofBE_lt idBytes
    rwa [hid2] at this
  have hidval : (UInt16.ofNat (ofBE idBytes)).toNat = ofBE idBytes :=
    UInt16.toNat_ofNat_of_lt hidlt
  have hlenlt : ofBE lengthBytes < 65536 := by
    have := ofBE_lt lengthBytes
    rwa [hl2] at this
  have hidBE : toBE 2 (UInt16.ofNat (ofBE idBytes)).toNat = idBytes := by
    rw [hidval, ← hid2, toBE_ofBE]
  have hlenBE : toBE 2 data.length = lengthBytes := by
    rw [hdata2, ← hl2, toBE_ofBE]
  refine ⟨⟨c, hscan, ?_⟩, ?_, ?_⟩
  · dsimp only
    rw [hc, hid, hl, hdata, hidBE, hlenBE]
    simp only [List.append_assoc]
  · show 0 < data.length
    omega
  · show data.length < 65536
    omega

/-- **A packet without an error is complete.** Whatever bytes arrive and wherever the reads
fail: a `ReadPacket` that returns `NONE` has consumed some bytes, the header, the id it returns,
the length of the data it returns, and these data, and nothing more. -/
theorem readPacket_sound {s s' : Incoming} {p : Packet} (h : readPacket s = some (p, s'))
    (hp : p.error = .none) :
    (∃ junk, s.pending =
      junk ++ headerBE ++ toBE 2 p.id.toNat ++ toBE 2 p.data.length ++ p.data ++ s'.pending) ∧
    0 < p.data.length ∧ p.data.length < 65536 := by
  obtain ⟨⟨c, hscan, hc⟩, hsize⟩ := readPacket_consumed h hp
  have hsuffix := (scan_suffix c).1
  rw [hscan, List.take_length] at hsuffix
  obtain ⟨junk, hjunk⟩ := hsuffix
  exact ⟨⟨junk, by rw [hc, ← hjunk]⟩, hsize⟩

/-! ## Frames -/

/-- The bytes of a packet on the wire. -/
def frame (p : UInt16 × Bytes) : Bytes :=
  headerBE ++ (toBE 2 p.1.toNat ++ (toBE 2 (p.2.length % 65536) ++ p.2))

def frames (packets : List (UInt16 × Bytes)) : Bytes := packets.flatMap frame

/-- What the receiver is to return for a packet. -/
def received (p : UInt16 × Bytes) : Packet := { error := .none, id := p.1, data := p.2 }

/-- The header search takes exactly the bytes after which it has counted all header bytes for
the first time. -/
theorem readHeader_gets_of_scan {bytes : Bytes} (hscan : bytes.foldl scanByte 0 = headerBE.length)
    (hfirst : ∀ gone left, bytes = gone ++ left → left ≠ [] →
      gone.foldl scanByte 0 < headerBE.length) :
    Gets .none readHeader bytes .none := by
  intro script rest hq
  -- the search has taken `gone`, and `left` is still to be taken
  have hJ : ∀ (k c : Nat) (p : Bytes) (n : Nat),
      (∃ gone left, bytes = gone ++ left ∧ c = gone.foldl scanByte 0 ∧ k = left.length ∧
        p = left ++ rest) → 0 < n → n ≤ (if c < headerBE.length then 1 else 0) →
      ∃ k', k = k' + n ∧ n ≤ p.length ∧ (∃ gone left, bytes = gone ++ left ∧
        (p.take n).foldl scanByte c = gone.foldl scanByte 0 ∧ k' = left.length ∧
        p.drop n = left ++ rest) := by
    rintro k c p n ⟨gone, left, hbytes, hc, hk, hp⟩ hn hle
    have hmissing : c < headerBE.length := by
      by_contra hge
      rw [if_neg hge] at hle
      omega
    rw [if_pos hmissing] at hle
    have hone : n = 1 := by omega
    subst hone
    cases left with
    | nil =>
        rw [List.append_nil] at hbytes
        rw [← hbytes] at hc
        omega
    | cons b left =>
        subst hp
        refine ⟨left.length, by rw [hk]; rfl, by simp, gone ++ [b], left, ?_, ?_, rfl, rfl⟩
        · rw [hbytes, List.append_assoc]
          rfl
        · rw [List.foldl_append, ← hc]
          rfl
  unfold readHeader
  rcases poll_quiet (fun c => if c < headerBE.length then 1 else 0)
      (fun c (got : Bytes) => got.foldl scanByte c)
      (J := fun k c p => ∃ gone left, bytes = gone ++ left ∧ c = gone.foldl scanByte 0 ∧
        k = left.length ∧ p = left ++ rest) hJ
      (k := bytes.length) (s := 0) (p := bytes ++ rest) ⟨[], bytes, rfl, rfl, rfl, rfl⟩ hq with h | h
  · obtain ⟨hnone, hlt⟩ := h
    exact Or.inl ⟨by rw [hnone]; rfl, hlt⟩
  · obtain ⟨⟨e, c, script', p⟩, k', hr, he, hw, ⟨gone, left, hbytes, hc, hk, hp⟩, -, hq', hcredit⟩ := h
    dsimp only at he hw hc hp hq' hcredit
    subst he hp
    have hfull : ¬ c < headerBE.length := by
      intro hlt
      rw [if_pos hlt] at hw
      omega
    -- nothing can be left behind a complete header
    have hleft : left = [] := by
      by_contra hne
      have := hfirst gone left hbytes hne
      omega
    subst hleft
    refine Or.inr ⟨script', ?_, hq', by omega⟩
    rw [hr]
    rfl

theorem readHeader_gets : Gets .none readHeader headerBE .none := by
  refine readHeader_gets_of_scan (by decide) ?_
  intro gone left hbytes hne
  have hlt : gone.length < headerBE.length := by
    have hpos := List.length_pos_of_ne_nil hne
    rw [hbytes, List.length_append]
    omega
  have hgone : gone = headerBE.take gone.length := by
    rw [hbytes, List.take_left]
  have hall : ∀ k < headerBE.length, (headerBE.take k).foldl scanByte 0 < headerBE.length := by
    decide
  rw [hgone]
  exact hall _ hlt

theorem readData_gets (data : Bytes) : Gets .none (readData data.length) data (.none, data) := by
  intro script rest hq
  unfold readData
  rcases fill_quiet hq data rest with ⟨hnone, hlt⟩ | ⟨script', hsome, hq', hcredit⟩
  · exact Or.inl ⟨by rw [hnone]; rfl, hlt⟩
  · exact Or.inr ⟨script', by rw [hsome]; rfl, hq', hcredit⟩

/-- `ReadPacket` takes what the header search takes and the fields of the packet behind it. -/
theorem readPacket_gets_of_header {bytes : Bytes} {p : UInt16 × Bytes}
    (hheader : Gets .none readHeader bytes .none) (h₁ : 1 ≤ p.2.length) (h₂ : p.2.length ≤ 65535) :
    Gets .none readPacket (bytes ++ (toBE 2 p.1.toNat ++ (toBE 2 (p.2.length % 65536) ++ p.2)))
      (received p) := by
  have hmod : p.2.length % 65536 = p.2.length := Nat.mod_eq_of_lt (by omega)
  have hid : ofBE (toBE 2 p.1.toNat) = p.1.toNat := ofBE_toBE p.1.toNat_lt
  have hlen : ofBE (toBE 2 p.2.length) = p.2.length := ofBE_toBE (by omega)
  have hne : p.2.length ≠ 0 := by omega
  rw [hmod]
  refine Gets.bind hheader ?_
  simp only [ne_eq, not_true_eq_false, if_false]
  refine Gets.bind (readData_gets (toBE 2 p.1.toNat)) ?_
  simp only [length_toBE, not_true_eq_false, or_self, if_false, hid]
  refine Gets.bind (readData_gets (toBE 2 p.2.length)) ?_
  simp only [length_toBE, not_true_eq_false, or_self, if_false, hlen, hne]
  refine Gets.map (readData_gets p.2) ?_
  intro s
  simp only [not_true_eq_false, or_self, if_false, UInt16.ofNat_toNat]
  rfl

theorem readPacket_gets {p : UInt16 × Bytes} (h₁ : 1 ≤ p.2.length) (h₂ : p.2.length ≤ 65535) :
    Gets .none readPacket (frame p) (received p) :=
  readPacket_gets_of_header readHeader_gets h₁ h₂

theorem readPackets_gets (packets : List (UInt16 × Bytes))
    (h : ∀ p ∈ packets, 1 ≤ p.2.length ∧ p.2.length ≤ 65535) :
    Gets .none (readPackets packets.length) (frames packets) (packets.map received) := by
  induction packets with
  | nil => exact Gets.pure []
  | cons p ps ih =>
      obtain ⟨h₁, h₂⟩ := h p (by simp)
      have ih := ih (fun q hq => h q (by simp [hq]))
      show Gets .none (readPackets (ps.length + 1)) (frame p ++ frames ps) _
      refine Gets.bind (readPacket_gets h₁ h₂) ?_
      exact Gets.map ih (fun s => rfl)

/-! ## Sending -/

/-- On a quiet transport a `Flush` that returns has handed over the whole buffer; it returns
once the transport has taken bytes often enough. -/
theorem flush_quiet {s : Outgoing} (hq : Quiet .none s.script) :
    (s.flush = none ∧ credit s.script < s.writeBuffer.length) ∨
    (∃ script', s.flush = some (.none, ⟨script', [], s.wire ++ s.writeBuffer⟩) ∧
      Quiet .none script' ∧ credit s.script ≤ credit script' + s.writeBuffer.length) := by
  unfold Outgoing.flush
  have h := fill_quiet hq s.writeBuffer []
  rw [List.append_nil] at h
  rcases h with ⟨hnone, hlt⟩ | ⟨script', hsome, hq', hcredit⟩
  · exact Or.inl ⟨by rw [hnone]; rfl, hlt⟩
  · exact Or.inr ⟨script', by rw [hsome]; rfl, hq', hcredit⟩

theorem writePacket_quiet {script : List StreamResult} {wire : Bytes} (p : UInt16 × Bytes)
    (hq : Quiet .none script) :
    (writePacket p.1 p.2 ⟨script, [], wire⟩ = none ∧ credit script < (frame p).length) ∨
    (∃ script', writePacket p.1 p.2 ⟨script, [], wire⟩ =
        some (.none, ⟨script', [], wire ++ frame p⟩) ∧
      Quiet .none script' ∧ credit script ≤ credit script' + (frame p).length) := by
  have hbuffer : (((([] ++ headerBE) ++ toBE 2 p.1.toNat) ++ toBE 2 (p.2.length % 65536)) ++ p.2) =
      frame p := by
    simp only [frame, List.nil_append, List.append_assoc]
  have h := flush_quiet (s := ⟨script, [] ++ headerBE ++ toBE 2 p.1.toNat ++
    toBE 2 (p.2.length % 65536) ++ p.2, wire⟩) hq
  rw [hbuffer] at h
  simpa only [writePacket, Outgoing.write, hbuffer] using h

theorem writePackets_quiet {script : List StreamResult} (wire : Bytes)
    (packets : List (UInt16 × Bytes)) (hq : Quiet .none script) :
    (writePackets packets ⟨script, [], wire⟩ = none ∧ credit script < (frames packets).length) ∨
    (∃ script', writePackets packets ⟨script, [], wire⟩ =
        some (packets.map (fun _ => .none), ⟨script', [], wire ++ frames packets⟩) ∧
      Quiet .none script' ∧ credit script ≤ credit script' + (frames packets).length) := by
  induction packets generalizing script wire with
  | nil => exact Or.inr ⟨script, by simp [writePackets, frames], hq, Nat.le_add_right _ _⟩
  | cons p ps ih =>
      have hframes : frames (p :: ps) = frame p ++ frames ps := rfl
      have hlen : (frames (p :: ps)).length = (frame p).length + (frames ps).length := by
        rw [hframes, List.length_append]
      rw [hlen]
      unfold writePackets
      rcases writePacket_quiet p hq with ⟨hnone, hlt⟩ | ⟨script₁, hsome, hq₁, hc₁⟩
      · exact Or.inl ⟨by rw [hnone]; rfl, by omega⟩
      · rw [hsome]
        rcases ih (wire ++ frame p) hq₁ with ⟨hnone, hlt⟩ | ⟨script₂, hsome₂, hq₂, hc₂⟩
        · refine Or.inl ⟨?_, by omega⟩
          show (writePackets ps ⟨script₁, [], wire ++ frame p⟩).bind _ = none
          rw [hnone]
          rfl
        · refine Or.inr ⟨script₂, ?_, hq₂, by omega⟩
          show (writePackets ps ⟨script₁, [], wire ++ frame p⟩).bind _ = _
          rw [hsome₂, hframes, ← List.append_assoc]
          rfl

/-! ## Round trip -/

/-- **Packet framing.** Packets written through a quiet transport arrive as they were sent, in
order, however writes and reads are cut: every call that returns has the right result, the
calls do return once the transport has moved bytes often enough, and after `k` calls exactly the
bytes of the first `k` packets are gone. On any stream, with any errors, a packet that is
returned without an error is complete. -/
theorem framing_round_trip :
    (∀ (packets : List (UInt16 × Bytes)) (ws rs : List StreamResult) (rest : Bytes),
      (∀ p ∈ packets, 1 ≤ p.2.length ∧ p.2.length ≤ 65535) → Quiet .none ws → Quiet .none rs →
      ((frames packets).length ≤ credit ws → ∃ r, writePackets packets ⟨ws, [], []⟩ = some r) ∧
      ∀ errors out, writePackets packets ⟨ws, [], []⟩ = some (errors, out) →
        errors = packets.map (fun _ => .none) ∧ out.writeBuffer = [] ∧
        ∀ k ≤ packets.length,
          ((frames (packets.take k)).length ≤ credit rs →
            ∃ r, readPackets k ⟨rs, out.wire ++ rest⟩ = some r) ∧
          ∀ got s', readPackets k ⟨rs, out.wire ++ rest⟩ = some (got, s') →
            got = (packets.take k).map received ∧
            s'.pending = frames (packets.drop k) ++ rest) ∧
    (∀ (s s' : Incoming) (p : Packet), readPacket s = some (p, s') → p.error = .none →
      (∃ junk, s.pending = junk ++ headerBE ++ toBE 2 p.id.toNat ++ toBE 2 p.data.length ++ p.data ++
        s'.pending) ∧ 0 < p.data.length ∧ p.data.length < 65536) := by
  refine ⟨?_, fun s s' p h hp => readPacket_sound h hp⟩
  intro packets ws rs rest hsize hws hrs
  rcases writePackets_quiet [] packets hws with ⟨hnone, hlt⟩ | ⟨ws', hsome, -, -⟩
  · -- the transport has not taken everything yet: nothing has returned
    refine ⟨fun hc => by omega, ?_⟩
    intro errors out h
    rw [hnone] at h
    cases h
  refine ⟨fun _ => ⟨_, hsome⟩, ?_⟩
  intro errors out h
  rw [hsome] at h
  cases h
  refine ⟨rfl, rfl, ?_⟩
  intro k hk
  have htake : (packets.take k).length = k := by
    rw [List.length_take]
    omega
  have hgets := readPackets_gets (packets.take k)
    (fun p hp => hsize p (List.mem_of_mem_take hp))
  rw [htake] at hgets
  have hsplit : [] ++ frames packets ++ rest =
      frames (packets.take k) ++ (frames (packets.drop k) ++ rest) := by
    rw [List.nil_append, ← List.append_assoc, frames, frames, frames, ← List.flatMap_append,
      List.take_append_drop]
  dsimp only
  rw [hsplit]
  exact ⟨hgets.returns _ hrs, fun got s' hr => hgets.result hrs hr⟩

namespace Sample

/-- Two packets; the data of the first contain the header. -/
def packets : List (UInt16 × Bytes) := [(0x50, 7 :: headerBE ++ [8]), (0xB0, [1, 2, 3])]

/-- A transport that has nothing to move, then moves at most three bytes, and so on. -/
def chunked : List StreamResult :=
  (List.replicate 50 [Outcome.mk 0 PacketError.none, Outcome.mk 3 PacketError.timeout]).flatten

theorem quiet_chunked : Quiet .none chunked := by
  intro o ho
  obtain ⟨l, hl, hol⟩ := List.mem_flatten.mp ho
  have hmem : o ∈ [Outcome.mk 0 PacketError.none, Outcome.mk 3 PacketError.timeout] := by
    rw [List.eq_of_mem_replicate hl] at hol
    exact hol
  intro hlim
  simp only [List.mem_cons, List.not_mem_nil, or_false] at hmem
  rcases hmem with rfl | rfl
  · rfl
  · cases hlim

end Sample

theorem framing_round_trip_sample :
    ∃ out s', writePackets Sample.packets ⟨Sample.chunked, [], []⟩ = some ([.none, .none], out) ∧
      readPackets 2 ⟨Sample.chunked, out.wire ++ [9]⟩ =
        some (Sample.packets.map received, s') ∧
      s'.pending = [9] ∧
      ∃ p s'', readPacket ⟨Sample.chunked, [5] ++ frame (0x51, [6])⟩ = some (p, s'') ∧
        p.error = .none ∧ 0 < p.data.length := by
  have hsize : ∀ p ∈ Sample.packets, 1 ≤ p.2.length ∧ p.2.length ≤ 65535 := by decide
  obtain ⟨hreturns, hresult⟩ := framing_round_trip.1 Sample.packets Sample.chunked Sample.chunked [9]
    hsize Sample.quiet_chunked Sample.quiet_chunked
  obtain ⟨⟨errors, out⟩, hw⟩ := hreturns (by decide)
  obtain ⟨rfl, -, hread⟩ := hresult errors out hw
  obtain ⟨hreturns₂, hresult₂⟩ := hread 2 (by decide)
  obtain ⟨⟨got, s'⟩, hr⟩ := hreturns₂ (by decide)
  obtain ⟨hgot, hpending⟩ := hresult₂ got s' hr
  rw [hgot] at hr
  -- a stray byte before the header is skipped
  obtain ⟨p, s'', hp, he⟩ : ∃ p s'', readPacket ⟨Sample.chunked, [5] ++ frame (0x51, [6])⟩ =
      some (p, s'') ∧ p.error = .none := ⟨received (0x51, [6]), _, rfl, rfl⟩
  exact ⟨out, s', hw, hr, hpending, p, s'', hp, he, (framing_round_trip.2 _ _ p hp he).2.1⟩

end PcbuDesktop
