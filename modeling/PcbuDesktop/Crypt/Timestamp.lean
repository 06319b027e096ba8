import PcbuDesktop.Crypt.Envelope

set_option autoImplicit false

/-! # The timestamp under an advancing clock

`EncryptAESPacket` writes `htonll(Utils::GetCurrentTimeMs())` in front of the payload. On Linux
`htonll` is a macro that names its argument in both halves, so a little-endian machine reads the
clock twice and puts the low half of one reading under the high half of the other. The file
follows the macro down to the bytes in memory and says at which instants the result is a time the
clock has shown.
-/

namespace PcbuDesktop

open BigEndian Buffer

/-! ## The macro -/

/-- The byte order of the machine. -/
inductive Host
  | littleEndian
  | bigEndian
deriving DecidableEq, Repr

/-- The operand of `|` in the macro that is evaluated first; C++ leaves it open. -/
inductive OperandOrder
  | lowFirst
  | highFirst
deriving DecidableEq, Repr

/-- The `w` bytes of an unsigned integer in memory. -/
def Host.memory (host : Host) (w n : Nat) : Bytes :=
  match host with
  | .littleEndian => (toBE w n).reverse
  | .bigEndian => toBE w n

/-- `htonl`: the value whose bytes in memory are those of `x`, most significant first. -/
def htonl (host : Host) (x : Nat) : Nat :=
  match host with
  | .littleEndian => ofBE (toBE 4 x).reverse
  | .bigEndian => x % 2 ^ 32

/-- The readings of the clock that the low and the high half of the macro's value come from. -/
def htonllReadings (host : Host) (order : OperandOrder) (clock : Nat → Int) : Int × Int :=
  match host, order with
  | .bigEndian, _ => (clock 0, clock 0)
  | .littleEndian, .lowFirst => (clock 0, clock 1)
  | .littleEndian, .highFirst => (clock 1, clock 0)

/-- How often the macro evaluates its argument. -/
def htonllEvaluations (host : Host) : Nat :=
  if 1 = htonl host 1 then 1 else 2

/-- The value of the macro, where its argument reads `low` and `high` in the two halves. Where
`htonl` changes nothing, the argument stands there once. -/
def htonll (host : Host) (low high : Int) : Nat :=
  if 1 = htonl host 1 then
    (low % 2 ^ 64).toNat
  else
    (htonl host (low % 2 ^ 32).toNat) <<< 32 ||| htonl host ((high / 2 ^ 32) % 2 ^ 32).toNat

/-- The bytes of `htonll(Utils::GetCurrentTimeMs())` in memory, where evaluation `k` of the
argument gives `clock k`. -/
def stampBytes (host : Host) (order : OperandOrder) (clock : Nat → Int) : Bytes :=
  host.memory 8 (htonll host (htonllReadings host order clock).1 (htonllReadings host order clock).2)

/-! ## Its bytes -/

theorem htonl_lt (x : Nat) : htonl .littleEndian x < 2 ^ 32 := by
  have h := ofBE_lt (toBE 4 x).reverse
  rw [List.length_reverse, length_toBE] at h
  exact h

theorem memory_htonl (x : Nat) : (toBE 4 (htonl .littleEndian x)).reverse = toBE 4 x := by
  have h := toBE_ofBE (toBE 4 x).reverse
  rw [List.length_reverse, length_toBE] at h
  show (toBE 4 (ofBE (toBE 4 x).reverse)).reverse = _
  rw [h, List.reverse_reverse]

/-- A big-endian machine stores the one reading as it is. -/
theorem memory_htonll_bigEndian (time : Int) :
    Host.bigEndian.memory 8 (htonll .bigEndian time time) = timeBytes time time := by
  have hone : (1 : Nat) = htonl .bigEndian 1 := by decide
  have hsplit : (time % 2 ^ 64).toNat =
      ((time / 2 ^ 32) % 2 ^ 32).toNat * 256 ^ 4 + (time % 2 ^ 32).toNat := by
    omega
  show toBE 8 (htonll .bigEndian time time) = timeBytes time time
  unfold htonll
  rw [if_pos hone, hsplit]
  exact toBE_append 4 4 _ _ (by omega)

/-- A little-endian machine stores the high half of one reading, then the low half of the other. -/
theorem memory_htonll_littleEndian (low high : Int) :
    Host.littleEndian.memory 8 (htonll .littleEndian low high) = timeBytes low high := by
  have hone : ¬ (1 : Nat) = htonl .littleEndian 1 := by decide
  have hlt := htonl_lt ((high / 2 ^ 32) % 2 ^ 32).toNat
  show (toBE 8 (htonll .littleEndian low high)).reverse = timeBytes low high
  unfold htonll
  rw [if_neg hone, ← Nat.shiftLeft_add_eq_or_of_lt hlt, Nat.shiftLeft_eq]
  have hbytes := toBE_append 4 4 (htonl .littleEndian (low % 2 ^ 32).toNat) _ hlt
  rw [show (256 : Nat) ^ 4 = 2 ^ 32 by decide] at hbytes
  rw [hbytes, List.reverse_append, memory_htonl, memory_htonl]
  rfl

theorem stampBytes_eq (host : Host) (order : OperandOrder) (clock : Nat → Int) :
    stampBytes host order clock =
      timeBytes (htonllReadings host order clock).1 (htonllReadings host order clock).2 := by
  cases host with
  | littleEndian => exact memory_htonll_littleEndian _ _
  | bigEndian => exact memory_htonll_bigEndian _

/-! ## The time they denote -/

/-- Two readings are written as the number whose high half is that of `high` and whose low half
is that of `low`. -/
theorem timestampOf_timeBytes_halves {low high : Int} (h₀ : -2 ^ 63 ≤ high) (h₁ : high < 2 ^ 63) :
    timestampOf (timeBytes low high) = high / 2 ^ 32 * 2 ^ 32 + low % 2 ^ 32 := by
  have hhigh : ofBE (toBE 4 ((high / 2 ^ 32) % 2 ^ 32).toNat) = ((high / 2 ^ 32) % 2 ^ 32).toNat :=
    ofBE_toBE (by omega)
  have hlow : ofBE (toBE 4 (low % 2 ^ 32).toNat) = (low % 2 ^ 32).toNat := ofBE_toBE (by omega)
  unfold timestampOf timeBytes
  rw [ofBE_append, length_toBE, hhigh, hlow, Int.bmod_def]
  split <;> omega

/-- The stamp lies between the first and the last reading the macro makes. -/
def StampBetween (host : Host) (order : OperandOrder) (clock : Nat → Int) : Prop :=
  clock 0 ≤ timestampOf (stampBytes host order clock) ∧
    timestampOf (stampBytes host order clock) ≤ clock (htonllEvaluations host - 1)

/-- With one reading there is nothing to mix up. -/
theorem stampBetween_bigEndian (order : OperandOrder) {clock : Nat → Int}
    (hrange : ∀ k, -2 ^ 63 ≤ clock k ∧ clock k < 2 ^ 63) :
    StampBetween .bigEndian order clock := by
  have hstamp : timestampOf (stampBytes .bigEndian order clock) = clock 0 := by
    rw [stampBytes_eq]
    show timestampOf (timeBytes (clock 0) (clock 0)) = clock 0
    rw [timestampOf_timeBytes_halves (hrange 0).1 (hrange 0).2]
    omega
  show clock 0 ≤ _ ∧ _ ≤ clock 0
  rw [hstamp]
  exact ⟨Int.le_refl _, Int.le_refl _⟩

/-- With two readings the halves fit together as long as the low half does not wrap between them.
Read first, the low half may be too large for the later high half; read last, too small for the
earlier one. -/
theorem stampBetween_littleEndian (order : OperandOrder) {clock : Nat → Int}
    (hrange : ∀ k, -2 ^ 63 ≤ clock k ∧ clock k < 2 ^ 63) (hmono : clock 0 ≤ clock 1) :
    StampBetween .littleEndian order clock ↔ clock 0 % 2 ^ 32 ≤ clock 1 % 2 ^ 32 := by
  show clock 0 ≤ _ ∧ _ ≤ clock 1 ↔ _
  rw [stampBytes_eq]
  cases order with
  | lowFirst =>
      show clock 0 ≤ timestampOf (timeBytes (clock 0) (clock 1)) ∧
        timestampOf (timeBytes (clock 0) (clock 1)) ≤ clock 1 ↔ _
      rw [timestampOf_timeBytes_halves (hrange 1).1 (hrange 1).2]
      omega
  | highFirst =>
      show clock 0 ≤ timestampOf (timeBytes (clock 1) (clock 0)) ∧
        timestampOf (timeBytes (clock 1) (clock 0)) ≤ clock 1 ↔ _
      rw [timestampOf_timeBytes_halves (hrange 0).1 (hrange 0).2]
      omega

/-! ## The packet -/

/-- `EncryptAESPacket` in front of a clock: its two readings are those of the macro. -/
def EncryptCall.Reads (call : EncryptCall) (host : Host) (order : OperandOrder)
    (clock : Nat → Int) : Prop :=
  (call.timeLow, call.timeHigh) = htonllReadings host order clock

/-- The bytes of the macro stand in front of the payload. -/
theorem encryptAESPacket_stamp {evp : Evp} (hs : evp.Sized) {call : EncryptCall} {host : Host}
    {order : OperandOrder} {clock : Nat → Int} (hreads : call.Reads host order clock) {data : Bytes}
    {pwd : Str} {envelope : Bytes}
    (h : encryptAESPacket evp call data pwd = .ok { result := .ok, data := envelope }) :
    ∃ iv salt : Bytes, iv.length = 16 ∧ salt.length = 16 ∧
      sealEnvelope evp pwd iv salt (stampBytes host order clock ++ data) = some envelope := by
  have hstamp : timeBytes call.timeLow call.timeHigh = stampBytes host order clock := by
    rw [stampBytes_eq, ← hreads]
  rw [encryptAESPacket_eq hs] at h
  cases hp : packetEnvelope evp call data pwd with
  | none =>
      rw [hp] at h
      cases h
  | some e =>
      rw [hp] at h
      cases h
      obtain ⟨dataBuf, -, hp⟩ := Option.bind_eq_some_iff.mp hp
      obtain ⟨encBuffer, -, hp⟩ := Option.bind_eq_some_iff.mp hp
      rw [hstamp] at hp
      exact (envelopeOf_eq_some hp).2

/-- **A packet's timestamp is a time between the readings of the clock.** That holds exactly when
the machine is big-endian or the low 32 bits of the clock do not wrap between the two readings. -/
theorem packet_stamp_between_iff (evp : Evp) (hs : evp.Sized) (host : Host) (order : OperandOrder)
    (clock : Nat → Int) (hrange : ∀ k, -2 ^ 63 ≤ clock k ∧ clock k < 2 ^ 63)
    (hmono : ∀ i j, i ≤ j → clock i ≤ clock j) :
    (StampBetween host order clock ↔
      (host = .bigEndian ∨ clock 0 % 2 ^ 32 ≤ clock 1 % 2 ^ 32)) ∧
    ∀ (call : EncryptCall) (data : Bytes) (pwd : Str) (envelope : Bytes),
      call.Reads host order clock →
      encryptAESPacket evp call data pwd = .ok { result := .ok, data := envelope } →
      ∃ iv salt : Bytes, iv.length = 16 ∧ salt.length = 16 ∧
        sealEnvelope evp pwd iv salt (stampBytes host order clock ++ data) = some envelope := by
  constructor
  · cases host with
    | bigEndian =>
        have h := stampBetween_bigEndian order hrange
        exact ⟨fun _ => Or.inl rfl, fun _ => h⟩
    | littleEndian =>
        rw [stampBetween_littleEndian order hrange (hmono 0 1 (by omega))]
        constructor
        · exact Or.inr
        · intro h
          rcases h with h | h
          · cases h
          · exact h
  · intro call data pwd envelope hreads h
    exact encryptAESPacket_stamp hs hreads h

namespace Sample

/-- The clock passes a multiple of 2 ^ 32 milliseconds between its first two readings. -/
def wrappingClock (k : Nat) : Int := if k = 0 then 1700807049215 else 1700807049216

end Sample

theorem packet_stamp_between_sample :
    StampBetween .littleEndian .lowFirst (fun k => if k = 0 then 1700807049216 else 1700807049217) := by
  have h := packet_stamp_between_iff Sample.evp Sample.evp_sized .littleEndian .lowFirst
    (fun k => if k = 0 then 1700807049216 else 1700807049217)
    (by intro k; split <;> omega)
    (by intro i j hij; split <;> split <;> omega)
  exact h.1.mpr (Or.inr (by decide))

/-- Neither order of evaluation helps against a clock that wraps between the readings. -/
theorem packet_stamp_wraps :
    (∀ i j, i ≤ j → Sample.wrappingClock i ≤ Sample.wrappingClock j) ∧
      ∀ order, ¬ StampBetween .littleEndian order Sample.wrappingClock := by
  have hrange : ∀ k, -2 ^ 63 ≤ Sample.wrappingClock k ∧ Sample.wrappingClock k < 2 ^ 63 := by
    intro k
    unfold Sample.wrappingClock
    split <;> omega
  have hmono : ∀ i j, i ≤ j → Sample.wrappingClock i ≤ Sample.wrappingClock j := by
    intro i j hij
    unfold Sample.wrappingClock
    split <;> split <;> omega
  refine ⟨hmono, ?_⟩
  intro order
  rw [stampBetween_littleEndian order hrange (hmono 0 1 (by omega))]
  decide

end PcbuDesktop
