import PcbuDesktop.Basic.Text
import PcbuDesktop.Lib.BigEndian
import PcbuDesktop.Lib.Pipe

set_option autoImplicit false

/-! # Messages between the desktop and the elevator

`IPCHelper` (`shell/IPCHelper.cpp`) sends a message as the length of its JSON text, the text, the
length of its blob and the blob, each with one `WriteExact`, and reads it with one `ReadExact` for
each of them. Lengths are `uint32_t` in the byte order of the machine, which is little-endian.
-/

namespace PcbuDesktop

open BigEndian Pipes

structure IPCMessage where
  json : Str
  blob : Bytes
  deriving DecidableEq, Repr

namespace IPCHelper

/-- `MAX_JSON_SIZE`. -/
def maxJsonSize : Nat := 1024 * 1024

/-- `MAX_BLOB_SIZE`. -/
def maxBlobSize : Nat := 64 * 1024 * 1024

/-- `IPCHelper::IsTooLarge`. -/
def isTooLarge (msg : IPCMessage) : Bool :=
  msg.json.length > maxJsonSize || msg.blob.length > maxBlobSize

theorem isTooLarge_eq_false {msg : IPCMessage} :
    isTooLarge msg = false ↔ msg.json.length ≤ maxJsonSize ∧ msg.blob.length ≤ maxBlobSize := by
  unfold isTooLarge
  simp

/-! ## Writing -/

/-- The four bytes of a length. -/
def lenBytes (n : Nat) : Bytes := (toBE 4 n).reverse

/-- The length in four bytes. -/
def readLen (bytes : Bytes) : Nat := ofBE bytes.reverse

@[simp] theorem length_lenBytes (n : Nat) : (lenBytes n).length = 4 := by
  unfold lenBytes
  rw [List.length_reverse, length_toBE]

theorem readLen_lenBytes {n : Nat} (h : n < 256 ^ 4) : readLen (lenBytes n) = n := by
  unfold readLen lenBytes
  rw [List.reverse_reverse, ofBE_toBE h]

theorem lenBytes_readLen {bytes : Bytes} (h : bytes.length = 4) : lenBytes (readLen bytes) = bytes := by
  have hbytes := toBE_ofBE bytes.reverse
  rw [List.length_reverse, h] at hbytes
  unfold lenBytes readLen
  rw [hbytes, List.reverse_reverse]

/-- What `IPCHelper::WriteMessage` writes; nothing is written for an empty blob. -/
def wire (msg : IPCMessage) : Bytes :=
  lenBytes msg.json.length ++ msg.json ++ lenBytes msg.blob.length ++ msg.blob

theorem wire_ne_nil (msg : IPCMessage) : wire msg ≠ [] := by
  intro h
  have hlen := congrArg List.length h
  unfold wire at hlen
  simp only [List.length_append, length_lenBytes, List.length_nil] at hlen
  omega

/-- A text that begins with another one, both with their lengths in front, is the same text. -/
theorem append_inj_of_len {a b x y : Bytes} (ha : a.length < 256 ^ 4) (hb : b.length < 256 ^ 4)
    (h : lenBytes a.length ++ (a ++ x) <+: lenBytes b.length ++ (b ++ y)) : a = b ∧ x <+: y := by
  obtain ⟨rest, hrest⟩ := h
  rw [List.append_assoc] at hrest
  obtain ⟨hlen, htext⟩ := List.append_inj hrest (by rw [length_lenBytes, length_lenBytes])
  have hlength : a.length = b.length := by
    rw [← readLen_lenBytes ha, hlen, readLen_lenBytes hb]
  rw [List.append_assoc] at htext
  obtain ⟨hab, hxy⟩ := List.append_inj htext hlength
  exact ⟨hab, ⟨rest, hxy⟩⟩

/-- No message begins with another one. -/
theorem wire_code : PrefixCode (fun msg => isTooLarge msg = false) wire where
  eq_of_isPrefix := by
    intro a b ha hb h
    obtain ⟨haj, hab⟩ := isTooLarge_eq_false.mp ha
    obtain ⟨hbj, hbb⟩ := isTooLarge_eq_false.mp hb
    unfold maxJsonSize at haj hbj
    unfold maxBlobSize at hab hbb
    unfold wire at h
    rw [List.append_assoc, List.append_assoc, List.append_assoc, List.append_assoc] at h
    obtain ⟨hjson, hrest⟩ := append_inj_of_len (by omega) (by omega) h
    have hblob : a.blob = b.blob := by
      exact (append_inj_of_len (x := []) (y := []) (by omega) (by omega)
        (by rwa [List.append_nil, List.append_nil])).1
    cases a
    cases b
    cases hjson
    cases hblob
    rfl
  ne_nil := wire_ne_nil

/-! ## Reading -/

/-- The `ReadExact` calls of `IPCHelper::ReadMessage`, with what the earlier ones have read. -/
inductive ReadStage where
  | jsonLen
  | json (n : Nat)
  | blobLen (text : Bytes)
  | blob (text : Bytes) (n : Nat)
  deriving DecidableEq, Repr

/-- The number of bytes that a `ReadExact` waits for. -/
def ReadStage.size : ReadStage → Nat
  | .jsonLen => 4
  | .json n => n
  | .blobLen _ => 4
  | .blob _ n => n

/-- A `ReadMessage` under way; `buf` is what the present `ReadExact` has got. -/
structure ReadState where
  stage : ReadStage
  buf : Bytes
  deriving DecidableEq, Repr

def ReadState.start : ReadState := ⟨.jsonLen, []⟩

inductive ReadResult where
  | more (s : ReadState)
  | done (msg : IPCMessage)
  | invalid
  deriving DecidableEq, Repr

/-- What follows a `ReadExact`: the checks of the lengths. -/
def ReadStage.next (stage : ReadStage) (buf : Bytes) : ReadResult :=
  match stage with
  | .jsonLen =>
      if readLen buf = 0 ∨ readLen buf > maxJsonSize then .invalid else .more ⟨.json (readLen buf), []⟩
  | .json _ => .more ⟨.blobLen buf, []⟩
  | .blobLen text =>
      if readLen buf > maxBlobSize then .invalid
      else if readLen buf > 0 then .more ⟨.blob text (readLen buf), []⟩
      else .done ⟨text, []⟩
  | .blob text _ => .done ⟨text, buf⟩

/-- One more byte arrives. -/
def readByte (s : ReadState) (b : UInt8) : ReadResult :=
  if s.buf.length + 1 < s.stage.size then .more ⟨s.stage, s.buf ++ [b]⟩
  else s.stage.next (s.buf ++ [b])

/-- The bytes of the message that have been read. -/
def ReadState.consumed (s : ReadState) : Bytes :=
  match s.stage with
  | .jsonLen => s.buf
  | .json n => lenBytes n ++ s.buf
  | .blobLen text => lenBytes text.length ++ text ++ s.buf
  | .blob text n => lenBytes text.length ++ text ++ lenBytes n ++ s.buf

/-- The lengths that have been read are within the limits. -/
def ReadStage.Valid : ReadStage → Prop
  | .jsonLen => True
  | .json n => 0 < n ∧ n ≤ maxJsonSize
  | .blobLen text => text.length ≤ maxJsonSize
  | .blob text n => text.length ≤ maxJsonSize ∧ 0 < n ∧ n ≤ maxBlobSize

structure ReadState.Valid (s : ReadState) : Prop where
  stage : s.stage.Valid
  buf : s.buf.length < s.stage.size

theorem ReadState.start_valid : ReadState.start.Valid := ⟨trivial, by decide⟩

/-- A reader knows what it has read: each byte is added to that, and a message is returned when the
bytes are those of the message. -/
def ReadResult.After (bytes : Bytes) : ReadResult → Prop
  | .more s => s.Valid ∧ s.consumed = bytes
  | .done msg => isTooLarge msg = false ∧ wire msg = bytes
  | .invalid => True

theorem next_after {s : ReadState} {b : UInt8} (h : s.Valid) (hlast : s.buf.length + 1 = s.stage.size) :
    (s.stage.next (s.buf ++ [b])).After (s.consumed ++ [b]) := by
  obtain ⟨stage, buf⟩ := s
  have hlen : (buf ++ [b]).length = stage.size := by
    rw [List.length_append, List.length_singleton]
    exact hlast
  unfold ReadState.consumed ReadStage.next
  cases stage with
  | jsonLen =>
      simp only
      split
      · exact trivial
      · rename_i hvalid
        have hpos : 0 < readLen (buf ++ [b]) ∧ readLen (buf ++ [b]) ≤ maxJsonSize := by omega
        refine ⟨⟨hpos, hpos.1⟩, ?_⟩
        show lenBytes (readLen (buf ++ [b])) ++ [] = buf ++ [b]
        rw [List.append_nil, lenBytes_readLen hlen]
  | json n =>
      have hn : (buf ++ [b]).length = n := hlen
      refine ⟨⟨?_, Nat.zero_lt_succ 3⟩, ?_⟩
      · show (buf ++ [b]).length ≤ maxJsonSize
        rw [hn]
        exact h.stage.2
      · show lenBytes (buf ++ [b]).length ++ (buf ++ [b]) ++ [] = lenBytes n ++ buf ++ [b]
        rw [hn, List.append_nil, List.append_assoc]
  | blobLen text =>
      have hbuf : lenBytes (readLen (buf ++ [b])) = buf ++ [b] := lenBytes_readLen hlen
      simp only
      split
      · exact trivial
      · rename_i hmax
        split
        · rename_i hpos
          refine ⟨⟨⟨h.stage, hpos, by omega⟩, hpos⟩, ?_⟩
          show lenBytes text.length ++ text ++ lenBytes (readLen (buf ++ [b])) ++ [] = _
          rw [hbuf, List.append_nil, List.append_assoc _ buf]
        · rename_i hpos
          have hzero : readLen (buf ++ [b]) = 0 := by omega
          refine ⟨isTooLarge_eq_false.mpr ⟨h.stage, Nat.zero_le _⟩, ?_⟩
          show lenBytes text.length ++ text ++ lenBytes 0 ++ [] = _
          rw [← hzero, hbuf, List.append_nil, List.append_assoc _ buf]
  | blob text n =>
      have hn : (buf ++ [b]).length = n := hlen
      refine ⟨isTooLarge_eq_false.mpr ⟨h.stage.1, ?_⟩, ?_⟩
      · show (buf ++ [b]).length ≤ maxBlobSize
        rw [hn]
        exact h.stage.2.2
      · show lenBytes text.length ++ text ++ lenBytes (buf ++ [b]).length ++ (buf ++ [b]) = _
        rw [hn, List.append_assoc _ buf]

theorem readByte_after {s : ReadState} (b : UInt8) (h : s.Valid) :
    (readByte s b).After (s.consumed ++ [b]) := by
  unfold readByte
  split
  · rename_i hmore
    refine ⟨⟨h.stage, ?_⟩, ?_⟩
    · show (s.buf ++ [b]).length < s.stage.size
      rw [List.length_append, List.length_singleton]
      exact hmore
    · unfold ReadState.consumed
      cases s.stage with
      | jsonLen => rfl
      | json n => simp only [List.append_assoc]
      | blobLen text => simp only [List.append_assoc]
      | blob text n => simp only [List.append_assoc]
  · rename_i hlast
    have hbuf := h.buf
    exact next_after h (by omega)

/-- The bytes lead a reader from a state to a message, which the last of them completes. -/
inductive Reads : ReadState → Bytes → IPCMessage → Prop where
  | last {s : ReadState} {b : UInt8} {msg : IPCMessage} (h : readByte s b = .done msg) :
      Reads s [b] msg
  | more {s s' : ReadState} {b : UInt8} {bs : Bytes} {msg : IPCMessage} (h : readByte s b = .more s')
      (hrest : Reads s' bs msg) : Reads s (b :: bs) msg

/-- What follows the bytes of a `ReadExact`: they complete the message, or the reader goes on. -/
def ReadResult.Continues (rest : Bytes) (msg : IPCMessage) : ReadResult → Prop
  | .more s => Reads s rest msg
  | .done msg' => rest = [] ∧ msg' = msg
  | .invalid => False

/-- The bytes of one `ReadExact`, and the rest. -/
theorem reads_stage {stage : ReadStage} {rest : Bytes} {msg : IPCMessage} (bs : Bytes) :
    ∀ buf, bs ≠ [] → buf.length + bs.length = stage.size →
      (stage.next (buf ++ bs)).Continues rest msg → Reads ⟨stage, buf⟩ (bs ++ rest) msg := by
  induction bs with
  | nil => exact fun _ hne => absurd rfl hne
  | cons b bs ih =>
      intro buf _ hlen hnext
      rw [List.length_cons] at hlen
      by_cases hbs : bs = []
      · subst hbs
        have hread : readByte ⟨stage, buf⟩ b = stage.next (buf ++ [b]) := by
          unfold readByte
          rw [if_neg (show ¬ buf.length + 1 < stage.size by rw [List.length_nil] at hlen; omega)]
        cases hresult : stage.next (buf ++ [b]) with
        | more s' =>
            rw [hresult] at hread hnext
            exact Reads.more hread hnext
        | done msg' =>
            rw [hresult] at hread hnext
            obtain ⟨rfl, rfl⟩ := hnext
            exact Reads.last hread
        | invalid =>
            rw [hresult] at hnext
            exact absurd hnext id
      · have hpos : 0 < bs.length := List.length_pos_iff.mpr hbs
        have hread : readByte ⟨stage, buf⟩ b = .more ⟨stage, buf ++ [b]⟩ := by
          unfold readByte
          rw [if_pos (show buf.length + 1 < stage.size by omega)]
        refine Reads.more hread (ih (buf ++ [b]) hbs ?_ ?_)
        · rw [List.length_append, List.length_singleton]
          omega
        · rwa [List.append_assoc, List.singleton_append]

/-- A reader reads what `WriteMessage` has written. -/
theorem reads_wire {msg : IPCMessage} (hfit : isTooLarge msg = false) (hjson : msg.json ≠ []) :
    Reads .start (wire msg) msg := by
  obtain ⟨hj, hb⟩ := isTooLarge_eq_false.mp hfit
  have hpos : 0 < msg.json.length := List.length_pos_iff.mpr hjson
  have hlenJson : readLen (lenBytes msg.json.length) = msg.json.length :=
    readLen_lenBytes (by unfold maxJsonSize at hj; omega)
  have hlenBlob : readLen (lenBytes msg.blob.length) = msg.blob.length :=
    readLen_lenBytes (by unfold maxBlobSize at hb; omega)
  have hne : ∀ n, lenBytes n ≠ [] := by
    intro n h
    have hlen := length_lenBytes n
    rw [h] at hlen
    cases hlen
  have hsize : ∀ n, ([] : Bytes).length + (lenBytes n).length = 4 := by
    intro n
    rw [length_lenBytes]
    rfl
  unfold wire
  rw [List.append_assoc, List.append_assoc]
  refine reads_stage (lenBytes msg.json.length) [] (hne _) (hsize _) ?_
  unfold ReadStage.next
  simp only [List.nil_append, hlenJson]
  rw [if_neg (by omega)]
  refine reads_stage msg.json [] hjson (Nat.zero_add _) ?_
  refine reads_stage (lenBytes msg.blob.length) [] (hne _) (hsize _) ?_
  unfold ReadStage.next
  simp only [List.nil_append, hlenBlob]
  rw [if_neg (by omega)]
  by_cases hblob : msg.blob = []
  · rw [if_neg (by rw [hblob]; exact Nat.not_lt_zero 0), hblob]
    refine ⟨rfl, ?_⟩
    rw [← hblob]
  · rw [if_pos (List.length_pos_iff.mpr hblob)]
    have hreads : Reads ⟨.blob msg.json msg.blob.length, []⟩ (msg.blob ++ []) msg :=
      reads_stage msg.blob [] hblob (Nat.zero_add _) ⟨rfl, rfl⟩
    rwa [List.append_nil] at hreads

end IPCHelper

end PcbuDesktop
