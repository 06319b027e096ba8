import PcbuDesktop.Crypt.CryptUtils

set_option autoImplicit false

/-! # Envelopes and encrypted packets

What the buffer functions of `CryptUtils` compute, without buffers: `sealEnvelope` puts IV, salt,
ciphertext and tag behind each other, `openEnvelope` takes them apart. The buffer functions are
equal to these (`encryptAESBuffer_eq`, `decryptAESBuffer_eq`), in particular no access leaves a
buffer; everything about packets and texts is then a fact about envelopes.
-/

namespace PcbuDesktop

open BigEndian Buffer

/-! ## Envelopes -/

def sealEnvelope (evp : Evp) (pwd : Str) (iv salt plain : Bytes) : Option Bytes := do
  let key ← evp.generateKey (cStr pwd) salt
  let cipher ← evp.encryptUpdate key iv plain
  let tag ← evp.encryptFinal key iv plain
  return iv ++ salt ++ cipher ++ tag

def openEnvelope (evp : Evp) (pwd : Str) (envelope : Bytes) : Option Bytes :=
  if envelope.length < 48 then none
  else do
    let iv := envelope.take 16
    let salt := (envelope.drop 16).take 16
    let cipher := (envelope.drop 32).take (envelope.length - 48)
    let tag := (envelope.drop (envelope.length - 16)).take 16
    let key ← evp.generateKey (cStr pwd) salt
    let plain ← evp.decryptUpdate key iv cipher
    if evp.decryptFinal key iv cipher tag then return plain else none

/-- The envelope a call makes with the random bytes it gets, when the destination has room. -/
def envelopeOf (evp : Evp) (pwd : Str) (ivRand saltRand : RandBytes) (room : Nat)
    (plain : Bytes) : Option Bytes :=
  if room < plain.length + 48 then none
  else do
    let iv ← ivRand
    let salt ← saltRand
    sealEnvelope evp pwd iv.toList salt.toList plain

section

variable {evp : Evp}

theorem encryptAESBuffer_eq (hs : evp.Sized) (ivRand saltRand : RandBytes) (src dst : Bytes)
    (pwd : Str) :
    encryptAESBuffer evp ivRand saltRand src src.length dst dst.length pwd =
      .ok (match envelopeOf evp pwd ivRand saltRand dst.length src with
        | none => (0, dst)
        | some envelope => (envelope.length, envelope ++ dst.drop envelope.length)) := by
  unfold encryptAESBuffer envelopeOf
  by_cases hlen : dst.length < src.length + 48
  · rw [if_pos hlen, if_pos (by simp only [SALT_SIZE, IV_SIZE, GCM_TAG_SIZE]; omega)]
    rfl
  rw [if_neg hlen, if_neg (by simp only [SALT_SIZE, IV_SIZE, GCM_TAG_SIZE]; omega)]
  -- the four pieces are written one behind the other
  cases ivRand with
  | none => rfl
  | some iv =>
  have hiv : iv.toList.length = 16 := Vector.length_toList
  have hw₁ : write dst 0 iv.toList = .ok (iv.toList ++ dst.drop 16) := by
    rw [write_zero (by omega), hiv]
  cases saltRand with
  | none =>
      simp only [orFail_some, orFail_none, ok_bind, error_bind, hw₁]
      rfl
  | some salt =>
  have hsalt : salt.toList.length = 16 := Vector.length_toList
  have hw₂ : write (iv.toList ++ dst.drop 16) IV_SIZE salt.toList =
      .ok (iv.toList ++ salt.toList ++ dst.drop 32) := by
    rw [write_append _ _ _ (show IV_SIZE = _ from hiv.symm) (by rw [List.length_drop]; omega), List.drop_drop, hsalt]
  simp only [orFail_some, ok_bind, hw₁, hw₂, sealEnvelope, Option.bind_eq_bind, Option.bind_some]
  cases hkey : evp.generateKey (cStr pwd) salt.toList with
  | none => rfl
  | some key =>
  simp only [orFail_some, ok_bind, read_all, Option.bind_some]
  cases hout : evp.encryptUpdate key iv.toList src with
  | none => rfl
  | some out =>
  have hlen₁ := hs.encryptUpdate _ _ _ _ hout
  have hw₃ : write (iv.toList ++ salt.toList ++ dst.drop 32) (IV_SIZE + SALT_SIZE) out =
      .ok (iv.toList ++ salt.toList ++ out ++ dst.drop (32 + out.length)) := by
    have hoff : IV_SIZE + SALT_SIZE = (iv.toList ++ salt.toList).length := by
      rw [List.length_append, hiv, hsalt]
      rfl
    rw [write_append _ _ _ hoff (by rw [List.length_drop]; omega), List.drop_drop]
  simp only [orFail_some, ok_bind, hw₃, Option.bind_some]
  cases htag : evp.encryptFinal key iv.toList src with
  | none => rfl
  | some tag =>
  have hlen₂ : tag.length = 16 := hs.encryptFinal _ _ _ _ htag
  have hw₄ : write (iv.toList ++ salt.toList ++ out ++ dst.drop (32 + out.length))
      (IV_SIZE + SALT_SIZE + out.length) tag =
      .ok (iv.toList ++ salt.toList ++ out ++ tag ++ dst.drop (32 + out.length + 16)) := by
    have hoff : IV_SIZE + SALT_SIZE + out.length = (iv.toList ++ salt.toList ++ out).length := by
      rw [List.length_append, List.length_append, hiv, hsalt]
      rfl
    rw [write_append _ _ _ hoff (by rw [List.length_drop]; omega), List.drop_drop, hlen₂]
  have htotal : (iv.toList ++ salt.toList ++ out ++ tag).length = 32 + out.length + 16 := by
    simp only [List.length_append, hiv, hsalt, hlen₂]
  simp only [orFail_some, ok_bind, hw₄]
  show Except.ok (16 + 16 + out.length + 16, _) = Except.ok ((iv.toList ++ salt.toList ++ out ++
    tag).length, _)
  rw [htotal]

/-- With `Sized`, decryption into a large enough buffer is `openEnvelope`. -/
theorem decryptAESBuffer_eq (hs : evp.Sized) (src dst : Bytes) (pwd : Str)
    (hroom : src.length - 48 ≤ dst.length) :
    decryptAESBuffer evp src src.length dst dst.length pwd =
      .ok (match openEnvelope evp pwd src with
        | none => (0, dst)
        | some plain => (plain.length, plain ++ dst.drop plain.length)) := by
  unfold decryptAESBuffer openEnvelope
  by_cases hlen : src.length < 48
  · rw [if_pos hlen, if_pos (by simp only [SALT_SIZE, IV_SIZE, GCM_TAG_SIZE]; omega)]
    rfl
  rw [if_neg hlen, if_neg (by simp only [SALT_SIZE, IV_SIZE, GCM_TAG_SIZE]; omega)]
  have hr₁ : read src 0 IV_SIZE = .ok (src.take 16) := read_of_le (by simp [IV_SIZE]; omega)
  have hr₂ : read src IV_SIZE SALT_SIZE = .ok ((src.drop 16).take 16) :=
    read_of_le (by simp only [IV_SIZE, SALT_SIZE]; omega)
  have hr₃ : read src (IV_SIZE + SALT_SIZE) (src.length - IV_SIZE - SALT_SIZE - GCM_TAG_SIZE) =
      .ok ((src.drop 32).take (src.length - 48)) := by
    have hsub : src.length - IV_SIZE - SALT_SIZE - GCM_TAG_SIZE = src.length - 48 := by
      simp only [IV_SIZE, SALT_SIZE, GCM_TAG_SIZE]
      omega
    rw [hsub]
    exact read_of_le (by simp only [IV_SIZE, SALT_SIZE]; omega)
  have hr₄ : read src (src.length - GCM_TAG_SIZE) GCM_TAG_SIZE =
      .ok ((src.drop (src.length - 16)).take 16) :=
    read_of_le (by simp only [GCM_TAG_SIZE]; omega)
  simp only [hr₁, hr₂, hr₃, hr₄, ok_bind, Option.bind_eq_bind]
  cases hkey : evp.generateKey (cStr pwd) ((src.drop 16).take 16) with
  | none => rfl
  | some key =>
  simp only [orFail_some, ok_bind, Option.bind_some]
  cases hout : evp.decryptUpdate key (src.take 16) ((src.drop 32).take (src.length - 48)) with
  | none => rfl
  | some out =>
  have hlen₁ := hs.decryptUpdate _ _ _ _ hout
  rw [List.length_take, List.length_drop] at hlen₁
  have hw : write dst 0 out = .ok (out ++ dst.drop out.length) := write_zero (by omega)
  simp only [orFail_some, ok_bind, hw, Option.bind_some]
  by_cases htag : evp.decryptFinal key (src.take 16) ((src.drop 32).take (src.length - 48))
      ((src.drop (src.length - 16)).take 16) = true
  · rw [if_pos htag, if_pos htag]
    rfl
  · rw [if_neg htag, if_neg htag]
    rfl

/-! ## Opening what was sealed -/

theorem sealEnvelope_eq_some {pwd : Str} {iv salt plain envelope : Bytes}
    (h : sealEnvelope evp pwd iv salt plain = some envelope) :
    ∃ key cipher tag, evp.generateKey (cStr pwd) salt = some key ∧
      evp.encryptUpdate key iv plain = some cipher ∧ evp.encryptFinal key iv plain = some tag ∧
      envelope = iv ++ salt ++ cipher ++ tag := by
  unfold sealEnvelope at h
  obtain ⟨key, hkey, h⟩ := Option.bind_eq_some_iff.mp h
  obtain ⟨cipher, hcipher, h⟩ := Option.bind_eq_some_iff.mp h
  obtain ⟨tag, htag, h⟩ := Option.bind_eq_some_iff.mp h
  cases h
  exact ⟨key, cipher, tag, hkey, hcipher, htag, rfl⟩

theorem length_sealEnvelope (hs : evp.Sized) {pwd : Str} {iv salt plain envelope : Bytes}
    (hiv : iv.length = 16) (hsalt : salt.length = 16)
    (h : sealEnvelope evp pwd iv salt plain = some envelope) :
    envelope.length = plain.length + 48 := by
  obtain ⟨key, cipher, tag, -, hcipher, htag, rfl⟩ := sealEnvelope_eq_some h
  have h₁ := hs.encryptUpdate _ _ _ _ hcipher
  have h₂ : tag.length = 16 := hs.encryptFinal _ _ _ _ htag
  simp only [List.length_append]
  omega

/-- **Opening inverts sealing.** The pieces of the envelope are found at their places. -/
theorem openEnvelope_sealEnvelope (hs : evp.Sized) (hi : evp.Inverts) {pwd : Str}
    {iv salt plain envelope : Bytes} (hiv : iv.length = 16) (hsalt : salt.length = 16)
    (h : sealEnvelope evp pwd iv salt plain = some envelope) :
    openEnvelope evp pwd envelope = some plain := by
  have hlen := length_sealEnvelope hs hiv hsalt h
  obtain ⟨key, cipher, tag, hkey, hcipher, htag, rfl⟩ := sealEnvelope_eq_some h
  have hc := hs.encryptUpdate _ _ _ _ hcipher
  have ht : tag.length = 16 := hs.encryptFinal _ _ _ _ htag
  have h₁ : (iv ++ salt ++ cipher ++ tag).take 16 = iv := by
    rw [List.append_assoc, List.append_assoc, ← hiv, List.take_left]
  have h₂ : ((iv ++ salt ++ cipher ++ tag).drop 16).take 16 = salt := by
    rw [List.append_assoc, List.append_assoc, ← hiv, List.drop_left, hiv, ← hsalt, List.take_left]
  have h₃ : ((iv ++ salt ++ cipher ++ tag).drop 32).take
      ((iv ++ salt ++ cipher ++ tag).length - 48) = cipher := by
    have hoff : 32 = (iv ++ salt).length := by rw [List.length_append, hiv, hsalt]
    rw [hlen, List.append_assoc, hoff, List.drop_left, Nat.add_sub_cancel, ← hc, List.take_left]
  have h₄ : ((iv ++ salt ++ cipher ++ tag).drop ((iv ++ salt ++ cipher ++ tag).length - 16)).take
      16 = tag := by
    have hoff : (iv ++ salt ++ cipher ++ tag).length - 16 = (iv ++ salt ++ cipher).length := by
      rw [List.length_append, ht, Nat.add_sub_cancel]
    rw [hoff, List.drop_left, ← ht, List.take_length]
  obtain ⟨hplain, hfinal⟩ := (hi.decrypts key iv plain cipher tag).mpr ⟨hcipher, htag⟩
  unfold openEnvelope
  rw [if_neg (by omega), h₁, h₂, h₃, h₄]
  simp only [hkey, hplain, hfinal, if_true, Option.bind_eq_bind, Option.bind_some]
  rfl

/-! ## Timestamps -/

theorem length_timeBytes (timeLow timeHigh : Int) : (timeBytes timeLow timeHigh).length = 8 := by
  simp [timeBytes]

/-- A time that does not change between the two readings is written as it is. -/
theorem timestampOf_timeBytes {t : Int} (h₀ : 0 ≤ t) (h₁ : t ≤ 2 ^ 62) :
    timestampOf (timeBytes t t) = t := by
  have hhigh : ofBE (toBE 4 ((t / 2 ^ 32) % 2 ^ 32).toNat) = ((t / 2 ^ 32) % 2 ^ 32).toNat :=
    ofBE_toBE (by omega)
  have hlow : ofBE (toBE 4 (t % 2 ^ 32).toNat) = (t % 2 ^ 32).toNat :=
    ofBE_toBE (by omega)
  unfold timestampOf timeBytes
  rw [ofBE_append, length_toBE, hhigh, hlow, Int.bmod_def]
  split <;> omega

theorem timestampOf_bounds (bytes : Bytes) :
    -2 ^ 63 ≤ timestampOf bytes ∧ timestampOf bytes < 2 ^ 63 := by
  unfold timestampOf
  rw [Int.bmod_def]
  split <;> omega

/-- The wrap-around of the subtraction never turns a distant time into a near one. -/
theorem timestampExpired_iff {now timestamp : Int} (h₀ : 0 ≤ now) (h₁ : now ≤ 2 ^ 62)
    (hlow : -2 ^ 63 ≤ timestamp) (hhigh : timestamp < 2 ^ 63) :
    timestampExpired now timestamp = true ↔
      ¬ ((now - timestamp).natAbs : Int) ≤ CRYPT_PACKET_TIMEOUT := by
  unfold timestampExpired CRYPT_PACKET_TIMEOUT
  rw [decide_eq_true_iff, Int.bmod_def]
  split <;> omega

/-! ## Packets -/

/-- The envelope of a packet: timestamp and payload, when all the call asks for is there. -/
def packetEnvelope (evp : Evp) (call : EncryptCall) (data : Bytes) (pwd : Str) : Option Bytes := do
  let _ ← call.dataBuf.region (data.length + 8)
  let _ ← call.encBuffer.region CRYPT_BUFFER_SIZE
  envelopeOf evp pwd call.iv call.salt CRYPT_BUFFER_SIZE
    (timeBytes call.timeLow call.timeHigh ++ data)

theorem envelopeOf_eq_some {pwd : Str} {ivRand saltRand : RandBytes} {room : Nat}
    {plain envelope : Bytes} (h : envelopeOf evp pwd ivRand saltRand room plain = some envelope) :
    plain.length + 48 ≤ room ∧ ∃ iv salt : Bytes, iv.length = 16 ∧ salt.length = 16 ∧
      sealEnvelope evp pwd iv salt plain = some envelope := by
  unfold envelopeOf at h
  split at h
  · cases h
  · obtain ⟨iv, -, h⟩ := Option.bind_eq_some_iff.mp h
    obtain ⟨salt, -, h⟩ := Option.bind_eq_some_iff.mp h
    exact ⟨by omega, iv.toList, salt.toList, Vector.length_toList, Vector.length_toList, h⟩

theorem encryptAESPacket_eq (hs : evp.Sized) (call : EncryptCall) (data : Bytes) (pwd : Str) :
    encryptAESPacket evp call data pwd =
      .ok (match packetEnvelope evp call data pwd with
        | none => { result := .otherError }
        | some envelope => { result := .ok, data := envelope }) := by
  have htime := length_timeBytes call.timeLow call.timeHigh
  unfold encryptAESPacket packetEnvelope
  by_cases hsize : CRYPT_BUFFER_SIZE < data.length
  · -- the later check of the room is stricter
    have hroom : envelopeOf evp pwd call.iv call.salt CRYPT_BUFFER_SIZE
        (timeBytes call.timeLow call.timeHigh ++ data) = none := by
      unfold envelopeOf
      rw [if_pos (by rw [List.length_append]; omega)]
    rw [if_pos hsize, hroom]
    cases call.dataBuf.region (data.length + 8) with
    | none => rfl
    | some dataBuf =>
        cases call.encBuffer.region CRYPT_BUFFER_SIZE with
        | none => rfl
        | some encBuffer => rfl
  rw [if_neg hsize]
  cases hdata : call.dataBuf.region (data.length + 8) with
  | none => rfl
  | some dataBuf =>
  have hlen := call.dataBuf.length_region _ _ hdata
  have hw₁ : write dataBuf 0 (timeBytes call.timeLow call.timeHigh) =
      .ok (timeBytes call.timeLow call.timeHigh ++ dataBuf.drop 8) := by
    rw [write_zero (by omega), htime]
  have hw₂ : write (timeBytes call.timeLow call.timeHigh ++ dataBuf.drop 8) 8 data =
      .ok (timeBytes call.timeLow call.timeHigh ++ data) := by
    rw [write_append _ _ _ htime.symm (by rw [List.length_drop]; omega), List.drop_drop,
      List.drop_eq_nil_of_le (by omega), List.append_nil]
  simp only [hw₁, hw₂, ok_bind, Option.bind_eq_bind, Option.bind_some]
  cases henc : call.encBuffer.region CRYPT_BUFFER_SIZE with
  | none => rfl
  | some encBuffer =>
  have hlen₂ := call.encBuffer.length_region _ _ henc
  have hsrc : (timeBytes call.timeLow call.timeHigh ++ data).length = data.length + 8 := by
    rw [List.length_append]
    omega
  have heq := encryptAESBuffer_eq hs call.iv call.salt
    (timeBytes call.timeLow call.timeHigh ++ data) encBuffer pwd
  rw [hsrc, hlen₂] at heq
  simp only [heq, ok_bind, Option.bind_some]
  cases henv : envelopeOf evp pwd call.iv call.salt CRYPT_BUFFER_SIZE
      (timeBytes call.timeLow call.timeHigh ++ data) with
  | none => rfl
  | some envelope =>
      obtain ⟨-, iv, salt, hiv, hsalt, hseal⟩ := envelopeOf_eq_some henv
      have hlen₃ := length_sealEnvelope hs hiv hsalt hseal
      dsimp only
      rw [if_neg (by omega), read_left]
      rfl

/-- What `DecryptAESPacket` makes of an opened envelope. -/
def judgePacket (now : Int) (plain : Bytes) : CryptPacket :=
  if plain.length ≤ 8 then { result := .otherError }
  else if timestampExpired now (timestampOf (plain.take 8)) then { result := .invalidTimestamp }
  else { result := .ok, data := plain.drop 8 }

theorem length_openEnvelope (hs : evp.Sized) {pwd : Str} {envelope plain : Bytes}
    (h : openEnvelope evp pwd envelope = some plain) : plain.length + 48 = envelope.length := by
  unfold openEnvelope at h
  split at h
  · cases h
  · obtain ⟨key, -, h⟩ := Option.bind_eq_some_iff.mp h
    obtain ⟨out, hout, h⟩ := Option.bind_eq_some_iff.mp h
    have hlen := hs.decryptUpdate _ _ _ _ hout
    rw [List.length_take, List.length_drop] at hlen
    split at h
    · cases h
      omega
    · cases h

theorem decryptAESPacket_eq (hs : evp.Sized) (decBuffer : Malloc) (now : Int) (data : Bytes)
    (pwd : Str) :
    decryptAESPacket evp decBuffer now data pwd =
      .ok (if CRYPT_BUFFER_SIZE < data.length ∨ decBuffer.region CRYPT_BUFFER_SIZE = none then
          { result := .otherError }
        else match openEnvelope evp pwd data with
        | none => { result := .otherError }
        | some plain => judgePacket now plain) := by
  unfold decryptAESPacket
  by_cases hsize : CRYPT_BUFFER_SIZE < data.length
  · rw [if_pos hsize, if_pos (Or.inl hsize)]
  rw [if_neg hsize]
  cases hdec : decBuffer.region CRYPT_BUFFER_SIZE with
  | none => rw [if_pos (Or.inr rfl)]
  | some buffer =>
  rw [if_neg (by simp [hsize])]
  have hlen := decBuffer.length_region _ _ hdec
  have heq := decryptAESBuffer_eq hs data buffer pwd (by omega)
  rw [hlen] at heq
  simp only [heq, ok_bind]
  cases hopen : openEnvelope evp pwd data with
  | none => rfl
  | some plain =>
  have hplain := length_openEnvelope hs hopen
  dsimp only
  unfold judgePacket
  by_cases hshort : plain.length ≤ 8
  · rw [if_pos hshort, if_pos hshort]
    rfl
  rw [if_neg hshort, if_neg hshort]
  have hr₁ : read (plain ++ buffer.drop plain.length) 0 8 = .ok (plain.take 8) := by
    rw [read_of_le (by rw [List.length_append]; omega), List.drop_zero,
      List.take_append_of_le_length (by omega)]
  have hr₂ : read (plain ++ buffer.drop plain.length) 8 (plain.length - 8) =
      .ok (plain.drop 8) := by
    have hlast : (plain.drop 8).length = plain.length - 8 := List.length_drop
    rw [read_of_le (by rw [List.length_append]; omega), List.drop_append_of_le_length (by omega),
      ← hlast, List.take_left]
  simp only [hr₁, hr₂, ok_bind]
  by_cases hexp : timestampExpired now (timestampOf (plain.take 8)) = true
  · rw [if_pos hexp, if_pos hexp]
    rfl
  · rw [if_neg hexp, if_neg hexp]
    rfl

/-- Memory that is filled with zeros. -/
def Malloc.zeroed : Malloc where
  region := fun n => some (List.replicate n 0)
  length_region := by
    intro n b h
    cases h
    exact List.length_replicate

/-- Every allocation succeeds. -/
def Malloc.Succeeds (m : Malloc) : Prop := ∀ n, (m.region n).isSome = true

/-- All a call asks of its environment succeeds. -/
structure EncryptCall.Succeeds (call : EncryptCall) : Prop where
  dataBuf : call.dataBuf.Succeeds
  encBuffer : call.encBuffer.Succeeds
  iv : call.iv.isSome = true
  salt : call.salt.isSome = true

theorem sealEnvelope_isSome (hi : evp.Inverts) (pwd : Str) (iv salt plain : Bytes) :
    ∃ envelope, sealEnvelope evp pwd iv salt plain = some envelope := by
  obtain ⟨key, hkey⟩ := hi.key (cStr pwd) salt
  obtain ⟨cipher, tag, hcipher, htag⟩ := hi.encrypts key iv plain
  exact ⟨iv ++ salt ++ cipher ++ tag, by simp [sealEnvelope, hkey, hcipher, htag]⟩

theorem packetEnvelope_isSome (hi : evp.Inverts) {call : EncryptCall} (hcall : call.Succeeds)
    {data : Bytes} (pwd : Str) (hlen : data.length ≤ 1992) :
    ∃ envelope, packetEnvelope evp call data pwd = some envelope := by
  obtain ⟨dataBuf, hdata⟩ := Option.isSome_iff_exists.mp (hcall.dataBuf (data.length + 8))
  obtain ⟨encBuffer, henc⟩ := Option.isSome_iff_exists.mp (hcall.encBuffer CRYPT_BUFFER_SIZE)
  obtain ⟨iv, hiv⟩ := Option.isSome_iff_exists.mp hcall.iv
  obtain ⟨salt, hsalt⟩ := Option.isSome_iff_exists.mp hcall.salt
  obtain ⟨envelope, hseal⟩ := sealEnvelope_isSome hi pwd iv.toList salt.toList
    (timeBytes call.timeLow call.timeHigh ++ data)
  have hroom : ¬ CRYPT_BUFFER_SIZE <
      (timeBytes call.timeLow call.timeHigh ++ data).length + 48 := by
    rw [List.length_append, length_timeBytes, CRYPT_BUFFER_SIZE]
    omega
  refine ⟨envelope, ?_⟩
  unfold packetEnvelope envelopeOf
  rw [if_neg hroom, hdata, henc, hiv, hsalt]
  exact hseal

/-- An opened packet is accepted exactly when its timestamp is near the clock. -/
theorem decryptAESPacket_opened (hs : evp.Sized) {decBuffer : Malloc} (hdec : decBuffer.Succeeds)
    {now : Int} (h₀ : 0 ≤ now) (h₁ : now ≤ 2 ^ 62) {pwd : Str} {envelope stamp payload : Bytes}
    (hlen : envelope.length ≤ CRYPT_BUFFER_SIZE) (hstamp : stamp.length = 8) (hne : payload ≠ [])
    (hopen : openEnvelope evp pwd envelope = some (stamp ++ payload)) :
    decryptAESPacket evp decBuffer now envelope pwd =
      .ok (if ((now - timestampOf stamp).natAbs : Int) ≤ CRYPT_PACKET_TIMEOUT then
          { result := .ok, data := payload }
        else { result := .invalidTimestamp }) := by
  obtain ⟨buffer, hbuffer⟩ := Option.isSome_iff_exists.mp (hdec CRYPT_BUFFER_SIZE)
  obtain ⟨hlow, hhigh⟩ := timestampOf_bounds stamp
  have hpos := List.length_pos_of_ne_nil hne
  have htake : (stamp ++ payload).take 8 = stamp := by rw [← hstamp, List.take_left]
  have hdrop : (stamp ++ payload).drop 8 = payload := by rw [← hstamp, List.drop_left]
  have hiff := timestampExpired_iff h₀ h₁ hlow hhigh
  rw [decryptAESPacket_eq hs, if_neg (by simp [hbuffer]; omega), hopen]
  dsimp only
  unfold judgePacket
  rw [if_neg (by rw [List.length_append]; omega), htake, hdrop]
  by_cases hexp : timestampExpired now (timestampOf stamp) = true
  · rw [if_pos hexp, if_neg (hiff.mp hexp)]
  · rw [if_neg hexp, if_pos (not_not.mp (fun hn => hexp (hiff.mpr hn)))]

/-- **Encrypted packets.** An encrypted packet is decrypted to its payload within the timeout and
refused outside; payloads of 1 to 1992 bytes are encrypted; whatever eight bytes an authentic
packet has as its timestamp, it is accepted exactly when they are near the clock as integers; and
for no input, and whatever allocation and random generation answer, does an access leave its
buffer. The cipher is any whose output has the sizes of AES-GCM and which opens what it has sealed;
the last two parts use of it only the sizes. -/
theorem encrypted_packet_round_trip (evp : Evp) (hs : evp.Sized) (hi : evp.Inverts) :
    (∀ (call : EncryptCall) (decBuffer : Malloc) (t₁ t₂ : Int) (data : Bytes) (pwd : Str)
        (packet : CryptPacket),
      data ≠ [] → decBuffer.Succeeds → call.timeLow = t₁ → call.timeHigh = t₁ →
      0 ≤ t₁ → t₁ ≤ 2 ^ 62 → 0 ≤ t₂ → t₂ ≤ 2 ^ 62 →
      encryptAESPacket evp call data pwd = .ok packet → packet.result = .ok →
      decryptAESPacket evp decBuffer t₂ packet.data pwd =
        .ok (if ((t₂ - t₁).natAbs : Int) ≤ CRYPT_PACKET_TIMEOUT then
            { result := .ok, data := data }
          else { result := .invalidTimestamp })) ∧
    (∀ (call : EncryptCall) (data : Bytes) (pwd : Str), call.Succeeds →
      1 ≤ data.length → data.length ≤ 1992 →
      ∃ envelope, encryptAESPacket evp call data pwd =
        .ok { result := .ok, data := envelope }) ∧
    (∀ (decBuffer : Malloc) (now : Int) (iv salt stamp payload : Bytes) (pwd : Str),
      decBuffer.Succeeds → 0 ≤ now → now ≤ 2 ^ 62 → iv.length = 16 → salt.length = 16 →
      stamp.length = 8 → payload ≠ [] → payload.length ≤ 1992 →
      ∃ envelope, sealEnvelope evp pwd iv salt (stamp ++ payload) = some envelope ∧
        decryptAESPacket evp decBuffer now envelope pwd =
          .ok (if ((now - timestampOf stamp).natAbs : Int) ≤ CRYPT_PACKET_TIMEOUT then
              { result := .ok, data := payload }
            else { result := .invalidTimestamp })) ∧
    (∀ (call : EncryptCall) (data : Bytes) (pwd : Str),
      encryptAESPacket evp call data pwd ≠ .error .fault) ∧
    (∀ (decBuffer : Malloc) (now : Int) (data : Bytes) (pwd : Str),
      decryptAESPacket evp decBuffer now data pwd ≠ .error .fault) := by
  refine ⟨?_, ?_, ?_, ?_, ?_⟩
  · intro call decBuffer t₁ t₂ data pwd packet hne hdec hlow hhigh h₀ h₁ h₂ h₃ henc hok
    rw [encryptAESPacket_eq hs] at henc
    cases henv : packetEnvelope evp call data pwd with
    | none =>
        rw [henv] at henc
        cases henc
        cases hok
    | some envelope =>
        rw [henv] at henc
        cases henc
        obtain ⟨dataBuf, -, henv⟩ := Option.bind_eq_some_iff.mp henv
        obtain ⟨encBuffer, -, henv⟩ := Option.bind_eq_some_iff.mp henv
        rw [hlow, hhigh] at henv
        obtain ⟨hroom, iv, salt, hiv, hsalt, hseal⟩ := envelopeOf_eq_some henv
        have hlen := length_sealEnvelope hs hiv hsalt hseal
        have hopened := decryptAESPacket_opened hs hdec h₂ h₃ (by omega)
          (length_timeBytes t₁ t₁) hne (openEnvelope_sealEnvelope hs hi hiv hsalt hseal)
        rwa [timestampOf_timeBytes h₀ h₁] at hopened
  · intro call data pwd hcall _ hlen
    obtain ⟨envelope, henv⟩ := packetEnvelope_isSome hi hcall pwd hlen
    exact ⟨envelope, by rw [encryptAESPacket_eq hs, henv]⟩
  · intro decBuffer now iv salt stamp payload pwd hdec h₀ h₁ hiv hsalt hstamp hne hlen
    obtain ⟨envelope, hseal⟩ := sealEnvelope_isSome hi pwd iv salt (stamp ++ payload)
    have henvelope := length_sealEnvelope hs hiv hsalt hseal
    rw [List.length_append] at henvelope
    refine ⟨envelope, hseal, ?_⟩
    exact decryptAESPacket_opened hs hdec h₀ h₁ (by rw [CRYPT_BUFFER_SIZE]; omega) hstamp hne
      (openEnvelope_sealEnvelope hs hi hiv hsalt hseal)
  · intro call data pwd h
    rw [encryptAESPacket_eq hs] at h
    cases h
  · intro decBuffer now data pwd h
    rw [decryptAESPacket_eq hs] at h
    cases h

end

/-! ## A cipher -/

namespace Sample

/-- The byte a toy cipher adds to each byte of the text. -/
def pad (key iv : Bytes) : UInt8 := (key ++ iv).foldl (fun acc b => 31 * acc + b) 7

def checksum (key iv plain : Bytes) : UInt8 := (key ++ iv ++ plain).foldl (fun acc b => 33 * acc + b) 5

/-- A toy cipher with the shape of AES-256-GCM. -/
def evp : Evp where
  generateKey := fun pwd salt => some (pwd ++ salt)
  encryptUpdate := fun key iv plain => some (plain.map (fun b => b + pad key iv))
  encryptFinal := fun key iv plain => some (List.replicate 16 (checksum key iv plain))
  decryptUpdate := fun key iv cipher => some (cipher.map (fun b => b - pad key iv))
  decryptFinal := fun key iv cipher tag =>
    decide (tag = List.replicate 16 (checksum key iv (cipher.map (fun b => b - pad key iv))))

theorem evp_sized : evp.Sized where
  encryptUpdate := by
    intro key iv plain out h
    cases h
    exact List.length_map _
  encryptFinal := by
    intro key iv plain tag h
    cases h
    exact List.length_replicate
  decryptUpdate := by
    intro key iv cipher out h
    cases h
    exact List.length_map _

theorem evp_inverts : evp.Inverts where
  key := fun pwd salt => ⟨_, rfl⟩
  encrypts := fun key iv plain => ⟨_, _, rfl, rfl⟩
  decrypts := by
    intro key iv plain cipher tag
    constructor
    · rintro ⟨h₁, h₂⟩
      cases h₁
      have htag : tag = List.replicate 16 (checksum key iv (cipher.map (fun b => b - pad key iv))) :=
        of_decide_eq_true h₂
      refine ⟨?_, by rw [htag]; rfl⟩
      simp [evp, Function.comp_def]
    · rintro ⟨h₁, h₂⟩
      cases h₁
      cases h₂
      simp [evp, Function.comp_def]

def encryptCall (t : Int) : EncryptCall where
  dataBuf := .zeroed
  encBuffer := .zeroed
  timeLow := t
  timeHigh := t
  iv := some (Vector.replicate 16 3)
  salt := some (Vector.replicate 16 4)

end Sample

theorem encrypted_packet_round_trip_sample :
    ∃ envelope, encryptAESPacket Sample.evp (Sample.encryptCall 1700000000000) [1, 2, 3] (str "key") =
        .ok { result := .ok, data := envelope } ∧
      decryptAESPacket Sample.evp Malloc.zeroed 1700000120000 envelope (str "key") =
        .ok { result := .ok, data := [1, 2, 3] } ∧
      decryptAESPacket Sample.evp Malloc.zeroed 1700000120001 envelope (str "key") =
        .ok { result := .invalidTimestamp } := by
  have hall := encrypted_packet_round_trip Sample.evp Sample.evp_sized Sample.evp_inverts
  obtain ⟨hround, hencrypts, -, -, -⟩ := hall
  have hcall : (Sample.encryptCall 1700000000000).Succeeds :=
    ⟨fun _ => rfl, fun _ => rfl, rfl, rfl⟩
  obtain ⟨envelope, henc⟩ := hencrypts (Sample.encryptCall 1700000000000) [1, 2, 3] (str "key") hcall
    (by decide) (by decide)
  have hzeros : Malloc.zeroed.Succeeds := fun _ => rfl
  refine ⟨envelope, henc, ?_, ?_⟩
  · exact hround (Sample.encryptCall 1700000000000) Malloc.zeroed 1700000000000 1700000120000
      [1, 2, 3] (str "key") _ (by decide) hzeros rfl rfl (by decide) (by decide) (by decide)
      (by decide) henc rfl
  · exact hround (Sample.encryptCall 1700000000000) Malloc.zeroed 1700000000000 1700000120001
      [1, 2, 3] (str "key") _ (by decide) hzeros rfl rfl (by decide) (by decide) (by decide)
      (by decide) henc rfl

end PcbuDesktop
