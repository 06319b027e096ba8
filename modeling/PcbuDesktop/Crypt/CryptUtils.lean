import Mathlib.Algebra.Group.Int.Defs
import PcbuDesktop.Basic.Packets
import PcbuDesktop.Lib.BigEndian
import PcbuDesktop.Lib.Buffer

set_option autoImplicit false

/-! # Encryption of packets and secrets

`CryptUtils`: AES-256-GCM under a key derived from a password, on buffers of a fixed size. An
envelope is the IV, the salt, the ciphertext and the tag. The packet functions put a timestamp
before the payload; the text functions write the envelope in hexadecimal.

Every access to a buffer is a checked one (`Lib/Buffer.lean`). The OpenSSL functions are the
parameter `Evp`; what `malloc`, `RAND_bytes` and the clock answer is an argument of each call.
-/

namespace PcbuDesktop

open BigEndian Buffer

def IV_SIZE : Nat := 16
def SALT_SIZE : Nat := 16
def GCM_TAG_SIZE : Nat := 16
def CRYPT_BUFFER_SIZE : Nat := 2048
def CRYPT_PACKET_TIMEOUT : Int := 60000 * 2

/-- The OpenSSL functions, `none` or `false` where they report a failure: `PKCS5_PBKDF2_HMAC`
on a password and a salt, and the AES-256-GCM streaming interface on a key and an IV.
`encryptFinal` is the tag, `decryptFinal` the check of the tag. -/
structure Evp where
  generateKey : Str → Bytes → Option Bytes
  encryptUpdate : Bytes → Bytes → Bytes → Option Bytes
  encryptFinal : Bytes → Bytes → Bytes → Option Bytes
  decryptUpdate : Bytes → Bytes → Bytes → Option Bytes
  decryptFinal : Bytes → Bytes → Bytes → Bytes → Bool

/-- GCM is a stream mode: the output is as long as the input. The tag has the length asked
for. -/
structure Evp.Sized (evp : Evp) : Prop where
  encryptUpdate : ∀ key iv plain out, evp.encryptUpdate key iv plain = some out →
    out.length = plain.length
  encryptFinal : ∀ key iv plain tag, evp.encryptFinal key iv plain = some tag →
    tag.length = GCM_TAG_SIZE
  decryptUpdate : ∀ key iv cipher out, evp.decryptUpdate key iv cipher = some out →
    out.length = cipher.length

/-- Key derivation and encryption succeed; decryption under the same key and IV inverts
encryption and fails on everything else. -/
structure Evp.Inverts (evp : Evp) : Prop where
  key : ∀ pwd salt, ∃ key, evp.generateKey pwd salt = some key
  encrypts : ∀ key iv plain, ∃ cipher tag, evp.encryptUpdate key iv plain = some cipher ∧
    evp.encryptFinal key iv plain = some tag
  decrypts : ∀ key iv plain cipher tag,
    (evp.decryptUpdate key iv cipher = some plain ∧ evp.decryptFinal key iv cipher tag = true) ↔
    (evp.encryptUpdate key iv plain = some cipher ∧ evp.encryptFinal key iv plain = some tag)

/-- What a call of `malloc` gives: `none`, or a region of the asked size whose content is
arbitrary. -/
structure Malloc where
  region : Nat → Option Bytes
  length_region : ∀ n b, region n = some b → b.length = n

/-- What `RAND_bytes` gives on an array of sixteen bytes. -/
abbrev RandBytes := Option (Vector UInt8 16)

/-- `pwd.c_str()` ends at the first NUL. -/
def cStr (s : Str) : Str := s.takeWhile (fun c => c ≠ 0)

/-! ## The buffer functions -/

/-- A function that returns its length or, on failure, zero. No caller looks at the destination
after a failure. -/
def lengthOrZero (dst : Bytes) : Except Stop (Nat × Bytes) → Except Stop (Nat × Bytes)
  | .error .failed => .ok (0, dst)
  | r => r

/-- `CryptUtils::EncryptAES` on buffers: the returned length and the destination. -/
def encryptAESBuffer (evp : Evp) (ivRand saltRand : RandBytes) (src : Bytes) (srcLen : Nat)
    (dst : Bytes) (dstLen : Nat) (pwd : Str) : Except Stop (Nat × Bytes) :=
  lengthOrZero dst do
    if dstLen < srcLen + SALT_SIZE + IV_SIZE + GCM_TAG_SIZE then
      throw .failed
    let iv ← orFail ivRand
    let dst ← write dst 0 iv.toList
    let salt ← orFail saltRand
    let dst ← write dst IV_SIZE salt.toList
    let key ← orFail (evp.generateKey (cStr pwd) salt.toList)
    let plain ← read src 0 srcLen
    let out ← orFail (evp.encryptUpdate key iv.toList plain)
    let dst ← write dst (IV_SIZE + SALT_SIZE) out
    let encryptedLen := out.length
    let tag ← orFail (evp.encryptFinal key iv.toList plain)
    let dst ← write dst (IV_SIZE + SALT_SIZE + encryptedLen) tag
    return (IV_SIZE + SALT_SIZE + encryptedLen + GCM_TAG_SIZE, dst)

/-- `CryptUtils::DecryptAES` on buffers. The plain text is written before the tag is
checked. -/
def decryptAESBuffer (evp : Evp) (src : Bytes) (srcLen : Nat) (dst : Bytes) (dstLen : Nat)
    (pwd : Str) : Except Stop (Nat × Bytes) :=
  lengthOrZero dst do
    if srcLen < IV_SIZE + SALT_SIZE + GCM_TAG_SIZE ∨
        dstLen < srcLen - IV_SIZE - SALT_SIZE - GCM_TAG_SIZE then
      throw .failed
    let iv ← read src 0 IV_SIZE
    let salt ← read src IV_SIZE SALT_SIZE
    let key ← orFail (evp.generateKey (cStr pwd) salt)
    let cipher ← read src (IV_SIZE + SALT_SIZE) (srcLen - IV_SIZE - SALT_SIZE - GCM_TAG_SIZE)
    let out ← orFail (evp.decryptUpdate key iv cipher)
    let dst ← write dst 0 out
    let tag ← read src (srcLen - GCM_TAG_SIZE) GCM_TAG_SIZE
    if evp.decryptFinal key iv cipher tag then
      return (out.length, dst)
    throw .failed

/-! ## Packets -/

/-- The environment of one `EncryptAESPacket` call: its two allocations, the two readings of the
clock and the random bytes. The macro `htonll` evaluates its argument twice: one reading gives
the low half of the timestamp, the other the high half. -/
structure EncryptCall where
  dataBuf : Malloc
  encBuffer : Malloc
  timeLow : Int
  timeHigh : Int
  iv : RandBytes
  salt : RandBytes

/-- The bytes of `htonll(GetCurrentTimeMs())` in memory. -/
def timeBytes (timeLow timeHigh : Int) : Bytes :=
  toBE 4 ((timeHigh / 2 ^ 32) % 2 ^ 32).toNat ++ toBE 4 (timeLow % 2 ^ 32).toNat

/-- `CryptUtils::EncryptAESPacket`. -/
def encryptAESPacket (evp : Evp) (call : EncryptCall) (data : Bytes) (pwd : Str) :
    Except Stop CryptPacket :=
  if CRYPT_BUFFER_SIZE < data.length then
    .ok { result := .otherError }
  else match call.dataBuf.region (data.length + 8) with
  | none => .ok { result := .otherError }
  | some dataBuf => do
      let dataBuf ← write dataBuf 0 (timeBytes call.timeLow call.timeHigh)
      let dataBuf ← write dataBuf 8 data
      match call.encBuffer.region CRYPT_BUFFER_SIZE with
      | none => return { result := .otherError }
      | some encBuffer =>
          let (encLen, encBuffer) ← encryptAESBuffer evp call.iv call.salt dataBuf
            (data.length + 8) encBuffer CRYPT_BUFFER_SIZE pwd
          if encLen ≤ 8 then
            return { result := .otherError }
          let resultVec ← read encBuffer 0 encLen
          return { result := .ok, data := resultVec }

/-- Eight bytes in network byte order as an `int64_t`. -/
def timestampOf (bytes : Bytes) : Int := Int.bmod (ofBE bytes) (2 ^ 64)

/-- The comparison of a timestamp with the clock, in 64-bit arithmetic that wraps around. -/
def timestampExpired (now timestamp : Int) : Bool :=
  let timeDiff := Int.bmod (now - timestamp) (2 ^ 64)
  decide (timeDiff < -CRYPT_PACKET_TIMEOUT ∨ timeDiff > CRYPT_PACKET_TIMEOUT)

/-- `CryptUtils::DecryptAESPacket` at the time `now`. -/
def decryptAESPacket (evp : Evp) (decBuffer : Malloc) (now : Int) (data : Bytes) (pwd : Str) :
    Except Stop CryptPacket :=
  if CRYPT_BUFFER_SIZE < data.length then
    .ok { result := .otherError }
  else match decBuffer.region CRYPT_BUFFER_SIZE with
  | none => .ok { result := .otherError }
  | some decBuffer => do
      let (decLen, decBuffer) ← decryptAESBuffer evp data data.length decBuffer CRYPT_BUFFER_SIZE pwd
      if decLen ≤ 8 then
        return { result := .otherError }
      let decLen := decLen - 8
      let timestamp ← read decBuffer 0 8
      if timestampExpired now (timestampOf timestamp) then
        return { result := .invalidTimestamp }
      let resultVec ← read decBuffer 8 decLen
      return { result := .ok, data := resultVec }

/-! ## Texts -/

/-- `CryptUtils::EncryptAES` on strings; `none` where it returns no value. -/
def encryptAESText (evp : Evp) (encBuffer : Malloc) (iv salt : RandBytes) (data pwd : Str) :
    Except Stop (Option Str) :=
  if CRYPT_BUFFER_SIZE < data.length then
    .ok none
  else match encBuffer.region CRYPT_BUFFER_SIZE with
  | none => .ok none
  | some encBuffer => do
      let (encLen, encBuffer) ← encryptAESBuffer evp iv salt data data.length encBuffer
        CRYPT_BUFFER_SIZE pwd
      if encLen ≤ 0 then
        return none
      let resultVec ← read encBuffer 0 encLen
      return some (toHexString resultVec)

/-- `CryptUtils::DecryptAES` on strings. -/
def decryptAESText (evp : Evp) (decBuffer : Malloc) (data pwd : Str) : Except Stop (Option Str) :=
  if CRYPT_BUFFER_SIZE < data.length then
    .ok none
  else
    let decVec := fromHexString data
    if decVec = [] then
      .ok none
    else match decBuffer.region CRYPT_BUFFER_SIZE with
    | none => .ok none
    | some decBuffer => do
        let (decLen, decBuffer) ← decryptAESBuffer evp decVec decVec.length decBuffer
          CRYPT_BUFFER_SIZE pwd
        if decLen ≤ 0 then
          return none
        let result ← read decBuffer 0 decLen
        return some result

end PcbuDesktop
