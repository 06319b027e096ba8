import Mathlib.Data.List.TakeWhile
import PcbuDesktop.Crypt.CryptUtils

set_option autoImplicit false

/-! # The packed credential of the Windows logon

`win_pulseunlock/src/helpers.cpp` makes a `KERB_INTERACTIVE_UNLOCK_LOGON` of a domain, a user name and a
password, and packs it into one block of memory: the structure, and behind it the characters, with offsets
into the block in the place of the pointers.

The structure in the block is a record here, as the code reads and writes its fields only; the bytes behind
it are a region of memory.
-/

namespace PcbuDesktop

open Buffer

namespace KerbLogon

/-- The failing results. -/
inductive HRESULT where
  | E_FAIL
  | E_INVALIDARG
  | E_OUTOFMEMORY
  | E_UNEXPECTED
  /-- `HRESULT_FROM_WIN32(ERROR_ARITHMETIC_OVERFLOW)` -/
  | arithmeticOverflow
  /-- `STRSAFE_E_INVALID_PARAMETER` -/
  | invalidParameter
  /-- `STRSAFE_E_INSUFFICIENT_BUFFER` -/
  | insufficientBuffer
  /-- the last error of a call into Windows -/
  | win32 (error : Nat)
  deriving DecidableEq, Repr

/-- `CREDENTIAL_PROVIDER_USAGE_SCENARIO`. -/
inductive UsageScenario where
  | invalid
  | logon
  | unlockWorkstation
  | changePassword
  | credUI
  | plap
  deriving DecidableEq, Repr

/-! ## Wide strings -/

/-- A string of wide characters that ends at the first NUL. -/
structure PWSTR where
  chars : List UInt16
  ends : 0 ∉ chars
  deriving DecidableEq

/-- The string at the beginning of a buffer. -/
def PWSTR.ofBuffer (buffer : List UInt16) : PWSTR where
  chars := buffer.takeWhile (fun c => c ≠ 0)
  ends := fun h => by simpa using List.mem_takeWhile_imp h

/-- `wcslen`. -/
def PWSTR.length (s : PWSTR) : Nat := s.chars.length

@[ext] theorem PWSTR.ext {s t : PWSTR} (h : s.chars = t.chars) : s = t := by
  cases s
  cases t
  cases h
  rfl

theorem PWSTR.ofBuffer_chars {cs : List UInt16} (h : 0 ∉ cs) : (PWSTR.ofBuffer cs).chars = cs := by
  refine List.takeWhile_eq_self_iff.mpr fun c hc => ?_
  simpa using fun hzero : c = 0 => h (hzero ▸ hc)

/-- The bytes of a wide character in memory. -/
def wcharBytes (c : UInt16) : Bytes := [UInt8.ofNat c.toNat, UInt8.ofNat (c.toNat / 256)]

def wideBytes (cs : List UInt16) : Bytes := cs.flatMap wcharBytes

/-- The wide characters in memory. -/
def wideOf : Bytes → List UInt16
  | low :: high :: bytes => UInt16.ofNat (low.toNat + 256 * high.toNat) :: wideOf bytes
  | _ => []

theorem length_wideBytes (cs : List UInt16) : (wideBytes cs).length = 2 * cs.length := by
  induction cs with
  | nil => rfl
  | cons c cs ih =>
      show (wcharBytes c ++ wideBytes cs).length = _
      rw [List.length_append, ih, List.length_cons]
      show 2 + 2 * cs.length = _
      omega

theorem wideBytes_append (cs ds : List UInt16) : wideBytes (cs ++ ds) = wideBytes cs ++ wideBytes ds :=
  List.flatMap_append

theorem wideOf_wideBytes (cs : List UInt16) : wideOf (wideBytes cs) = cs := by
  induction cs with
  | nil => rfl
  | cons c cs ih =>
      have hc : UInt16.ofNat ((UInt8.ofNat c.toNat).toNat + 256 * (UInt8.ofNat (c.toNat / 256)).toNat) =
          c := by
        have hlt := c.toNat_lt
        apply UInt16.toNat_inj.mp
        rw [UInt16.toNat_ofNat', UInt8.toNat_ofNat', UInt8.toNat_ofNat']
        omega
      show UInt16.ofNat _ :: wideOf (wideBytes cs) = c :: cs
      rw [hc, ih]

/-! ## The structures -/

/-- `UNICODE_STRING`; the lengths are in bytes. The buffer is a string before the packing, and then an
offset or an address. -/
structure UnicodeString (Ptr : Type) where
  length : UInt16
  maximumLength : UInt16
  buffer : Ptr

inductive MessageType where
  | kerbInteractiveLogon
  | kerbWorkstationUnlockLogon
  deriving DecidableEq, Repr

/-- `KERB_INTERACTIVE_LOGON`. -/
structure KerbInteractiveLogon (Ptr : Type) where
  messageType : MessageType
  logonDomainName : UnicodeString Ptr
  userName : UnicodeString Ptr
  password : UnicodeString Ptr

/-- `KERB_INTERACTIVE_UNLOCK_LOGON`. -/
structure KerbInteractiveUnlockLogon (Ptr : Type) where
  logon : KerbInteractiveLogon Ptr
  logonId : UInt64

/-- Its size: the type of the message with its padding, three strings of sixteen bytes, and the
identifier. -/
def sizeofKerbInteractiveUnlockLogon : Nat := 8 + 3 * 16 + 8

/-- `SizeTToUShort`. -/
def sizeTToUShort (n : Nat) : Except HRESULT UInt16 :=
  if n ≤ 0xFFFF then .ok (UInt16.ofNat n) else .error .arithmeticOverflow

/-- `UShortMult`. -/
def uShortMult (a b : UInt16) : Except HRESULT UInt16 :=
  if a.toNat * b.toNat ≤ 0xFFFF then .ok (a * b) else .error .arithmeticOverflow

/-- `UnicodeStringInitWithString`. -/
def unicodeStringInitWithString : Option PWSTR → Except HRESULT (UnicodeString PWSTR)
  | none => .error .E_INVALIDARG
  | some pwz => do
      let usCharCount ← sizeTToUShort pwz.length
      let usSize ← sizeTToUShort 2
      let length ← uShortMult usCharCount usSize
      return { length, maximumLength := length, buffer := pwz }

/-- The `switch` of `KerbInteractiveUnlockLogonInit`. -/
def messageTypeFor : UsageScenario → Except HRESULT MessageType
  | .unlockWorkstation => .ok .kerbWorkstationUnlockLogon
  | .logon | .credUI => .ok .kerbInteractiveLogon
  | _ => .error .E_FAIL

/-- `KerbInteractiveUnlockLogonInit`. -/
def kerbInteractiveUnlockLogonInit (pwzDomain pwzUsername pwzPassword : Option PWSTR)
    (cpus : UsageScenario) : Except HRESULT (KerbInteractiveUnlockLogon PWSTR) := do
  let logonDomainName ← unicodeStringInitWithString pwzDomain
  let userName ← unicodeStringInitWithString pwzUsername
  let password ← unicodeStringInitWithString pwzPassword
  let messageType ← messageTypeFor cpus
  return { logon := { messageType, logonDomainName, userName, password }, logonId := 0 }

/-! ## Packing -/

/-- The block that is handed to Windows. -/
structure PackedLogon where
  head : KerbInteractiveUnlockLogon Nat
  /-- the bytes behind the structure -/
  extra : Bytes

/-- `_UnicodeStringPackedUnicodeStringCopy` to a place behind the structure, and then the offset of that
place in the block as the pointer. -/
def unicodeStringPackedUnicodeStringCopy (rus : UnicodeString PWSTR) (pbBuffer : Nat) (extra : Bytes) :
    Except Stop (UnicodeString Nat × Bytes) := do
  let chars ← read (wideBytes (rus.buffer.chars ++ [0])) 0 rus.length.toNat
  let extra ← write extra pbBuffer chars
  return ({ length := rus.length, maximumLength := rus.length,
            buffer := sizeofKerbInteractiveUnlockLogon + pbBuffer }, extra)

/-- The size of the block. -/
def packedSize (pkilIn : KerbInteractiveLogon PWSTR) : Nat :=
  sizeofKerbInteractiveUnlockLogon + pkilIn.logonDomainName.length.toNat + pkilIn.userName.length.toNat +
    pkilIn.password.length.toNat

/-- `KerbInteractiveUnlockLogonPack`. -/
def kerbInteractiveUnlockLogonPack (coTaskMemAlloc : Malloc)
    (rkiulIn : KerbInteractiveUnlockLogon PWSTR) : Except Stop (Except HRESULT (PackedLogon × Nat)) :=
  let pkilIn := rkiulIn.logon
  let cb := packedSize pkilIn
  match coTaskMemAlloc.region cb with
  | none => .ok (.error .E_OUTOFMEMORY)
  | some pkiulOut => do
      let extra := pkiulOut.drop sizeofKerbInteractiveUnlockLogon
      let pbBuffer := 0
      let (logonDomainName, extra) ←
        unicodeStringPackedUnicodeStringCopy pkilIn.logonDomainName pbBuffer extra
      let pbBuffer := pbBuffer + logonDomainName.length.toNat
      let (userName, extra) ← unicodeStringPackedUnicodeStringCopy pkilIn.userName pbBuffer extra
      let pbBuffer := pbBuffer + userName.length.toNat
      let (password, extra) ← unicodeStringPackedUnicodeStringCopy pkilIn.password pbBuffer extra
      let logon := { messageType := pkilIn.messageType, logonDomainName, userName, password }
      return .ok ({ head := { logon, logonId := 0 }, extra }, cb)

/-! ## Unpacking -/

/-- The sanity check on one string. The sum is one of `ULONG_PTR`. -/
def UnicodeString.Within (us : UnicodeString Nat) (cb : Nat) : Prop :=
  (us.buffer + us.maximumLength.toNat) % 2 ^ 64 ≤ cb

instance (us : UnicodeString Nat) (cb : Nat) : Decidable (us.Within cb) :=
  inferInstanceAs (Decidable (_ ≤ _))

/-- A pointer for an offset. -/
def UnicodeString.rebase (us : UnicodeString Nat) (pkiul : Nat) : UnicodeString Nat :=
  { us with buffer := if us.buffer ≠ 0 then (pkiul + us.buffer) % 2 ^ 64 else 0 }

/-- `KerbInteractiveUnlockLogonUnpackInPlace`, on a structure at the address `pkiul`. -/
def kerbInteractiveUnlockLogonUnpackInPlace (pkiul cb : Nat) (head : KerbInteractiveUnlockLogon Nat) :
    KerbInteractiveUnlockLogon Nat :=
  let pkil := head.logon
  if sizeofKerbInteractiveUnlockLogon ≤ cb ∧ pkil.logonDomainName.Within cb ∧ pkil.userName.Within cb ∧
      pkil.password.Within cb then
    { head with
      logon := { pkil with
        logonDomainName := pkil.logonDomainName.rebase pkiul
        userName := pkil.userName.rebase pkiul
        password := pkil.password.rebase pkiul } }
  else head

/-- The characters at a pointer into a block at the address `pkiul`; offsets are pointers into a block at
zero. -/
def PackedLogon.textAt (block : PackedLogon) (pkiul : Nat) (us : UnicodeString Nat) :
    Except Stop (List UInt16) :=
  if pkiul + sizeofKerbInteractiveUnlockLogon ≤ us.buffer then do
    let bytes ← read block.extra (us.buffer - (pkiul + sizeofKerbInteractiveUnlockLogon)) us.length.toNat
    return wideOf bytes
  else .error .fault

/-! ## Lengths -/

/-- The structure for a string that is not too long. -/
def PWSTR.unicode (s : PWSTR) : UnicodeString PWSTR where
  length := UInt16.ofNat (2 * s.length)
  maximumLength := UInt16.ofNat (2 * s.length)
  buffer := s

theorem PWSTR.toNat_length_unicode {s : PWSTR} (h : s.length ≤ 0x7FFF) :
    s.unicode.length.toNat = 2 * s.length := by
  show (UInt16.ofNat (2 * s.length)).toNat = _
  rw [UInt16.toNat_ofNat']
  omega

/-- The length in bytes has to fit into a `USHORT`. -/
theorem unicodeStringInitWithString_some (s : PWSTR) : unicodeStringInitWithString (some s) =
    if s.length ≤ 0x7FFF then .ok s.unicode else .error .arithmeticOverflow := by
  have htwo : sizeTToUShort 2 = .ok 2 := rfl
  have hchars : s.length ≤ 0xFFFF → (UInt16.ofNat s.length).toNat = s.length := fun h => by
    rw [UInt16.toNat_ofNat']
    omega
  by_cases hchar : s.length ≤ 0xFFFF
  · have hcount : sizeTToUShort s.length = .ok (UInt16.ofNat s.length) := if_pos hchar
    have hmult : uShortMult (UInt16.ofNat s.length) 2 =
        if s.length ≤ 0x7FFF then .ok (UInt16.ofNat (2 * s.length)) else .error .arithmeticOverflow := by
      have hprod : UInt16.ofNat s.length * 2 = UInt16.ofNat (2 * s.length) := by
        apply UInt16.toNat_inj.mp
        rw [UInt16.toNat_mul, UInt16.toNat_ofNat', UInt16.toNat_ofNat']
        have h2 : (2 : UInt16).toNat = 2 := rfl
        rw [h2]
        omega
      have hle : (UInt16.ofNat s.length).toNat * (2 : UInt16).toNat ≤ 0xFFFF ↔ s.length ≤ 0x7FFF := by
        have h2 : (2 : UInt16).toNat = 2 := rfl
        rw [hchars hchar, h2]
        omega
      unfold uShortMult
      simp only [hle, hprod]
    show (sizeTToUShort s.length >>= fun usCharCount => sizeTToUShort 2 >>= fun usSize =>
      uShortMult usCharCount usSize >>= fun length => pure _) = _
    rw [hcount, htwo]
    show (uShortMult (UInt16.ofNat s.length) 2 >>= fun length => pure _) = _
    rw [hmult]
    by_cases h : s.length ≤ 0x7FFF
    · rw [if_pos h, if_pos h]
      rfl
    · rw [if_neg h, if_neg h]
      rfl
  · have hcount : sizeTToUShort s.length = .error .arithmeticOverflow := if_neg hchar
    show (sizeTToUShort s.length >>= fun usCharCount => sizeTToUShort 2 >>= fun usSize =>
      uShortMult usCharCount usSize >>= fun length => pure _) = _
    rw [hcount, if_neg (by omega)]
    rfl

/-- The structure is made exactly for strings that are not too long, in a scenario that it is meant
for. -/
theorem kerbInteractiveUnlockLogonInit_eq_ok {domain user password : PWSTR} {cpus : UsageScenario}
    {kiul : KerbInteractiveUnlockLogon PWSTR} :
    kerbInteractiveUnlockLogonInit (some domain) (some user) (some password) cpus = .ok kiul ↔
      (domain.length ≤ 0x7FFF ∧ user.length ≤ 0x7FFF ∧ password.length ≤ 0x7FFF) ∧
      ∃ messageType, messageTypeFor cpus = .ok messageType ∧
        kiul = ⟨⟨messageType, domain.unicode, user.unicode, password.unicode⟩, 0⟩ := by
  unfold kerbInteractiveUnlockLogonInit
  rw [unicodeStringInitWithString_some, unicodeStringInitWithString_some,
    unicodeStringInitWithString_some]
  by_cases hd : domain.length ≤ 0x7FFF
  · by_cases hu : user.length ≤ 0x7FFF
    · by_cases hp : password.length ≤ 0x7FFF
      · rw [if_pos hd, if_pos hu, if_pos hp]
        cases hm : messageTypeFor cpus with
        | error e => simp [bind, Except.bind]
        | ok m => simp [bind, Except.bind, pure, Except.pure, hd, hu, hp, eq_comm]
      · simp [hd, hu, hp, bind, Except.bind]
    · simp [hd, hu, bind, Except.bind]
  · simp [hd, bind, Except.bind]

/-! ## What is packed -/

/-- A string is copied behind what has been copied before. -/
theorem unicodeStringPackedUnicodeStringCopy_eq {s : PWSTR} (hs : s.length ≤ 0x7FFF) (before region : Bytes)
    (pbBuffer : Nat) (hplace : pbBuffer = before.length) (hroom : 2 * s.length ≤ region.length) :
    unicodeStringPackedUnicodeStringCopy s.unicode pbBuffer (before ++ region) =
      .ok (⟨s.unicode.length, s.unicode.length, sizeofKerbInteractiveUnlockLogon + pbBuffer⟩,
        before ++ wideBytes s.chars ++ region.drop (2 * s.length)) := by
  have hlength : (wideBytes s.chars).length = 2 * s.length := length_wideBytes s.chars
  have hread : read (wideBytes (s.chars ++ [0])) 0 s.unicode.length.toNat = .ok (wideBytes s.chars) := by
    rw [wideBytes_append, PWSTR.toNat_length_unicode hs, ← hlength]
    exact read_left _ _
  have hwrite : write (before ++ region) pbBuffer (wideBytes s.chars) =
      .ok (before ++ wideBytes s.chars ++ region.drop (2 * s.length)) := by
    rw [write_append before region _ hplace (by omega), hlength]
  show (read (wideBytes (s.chars ++ [0])) 0 s.unicode.length.toNat >>= fun chars =>
    write (before ++ region) pbBuffer chars >>= fun extra => pure _) = _
  rw [hread, ok_bind, hwrite, ok_bind]
  rfl

/-- The place of a string in the block. -/
def PWSTR.packedAt (s : PWSTR) (pbBuffer : Nat) : UnicodeString Nat where
  length := s.unicode.length
  maximumLength := s.unicode.length
  buffer := sizeofKerbInteractiveUnlockLogon + pbBuffer

/-- The block of three strings. -/
def packedLogon (messageType : MessageType) (domain user password : PWSTR) : PackedLogon where
  head := {
    logon := {
      messageType
      logonDomainName := domain.packedAt 0
      userName := user.packedAt (2 * domain.length)
      password := password.packedAt (2 * domain.length + 2 * user.length) }
    logonId := 0 }
  extra := wideBytes domain.chars ++ wideBytes user.chars ++ wideBytes password.chars

section

variable (messageType : MessageType) {domain user password : PWSTR}

theorem packedSize_eq (hd : domain.length ≤ 0x7FFF) (hu : user.length ≤ 0x7FFF)
    (hp : password.length ≤ 0x7FFF) :
    packedSize ⟨messageType, domain.unicode, user.unicode, password.unicode⟩ =
      sizeofKerbInteractiveUnlockLogon + 2 * domain.length + 2 * user.length + 2 * password.length := by
  unfold packedSize
  rw [PWSTR.toNat_length_unicode hd, PWSTR.toNat_length_unicode hu, PWSTR.toNat_length_unicode hp]

/-- The copies stay in the block and fill it. -/
theorem kerbInteractiveUnlockLogonPack_eq (hd : domain.length ≤ 0x7FFF) (hu : user.length ≤ 0x7FFF)
    (hp : password.length ≤ 0x7FFF) (coTaskMemAlloc : Malloc) :
    kerbInteractiveUnlockLogonPack coTaskMemAlloc
        ⟨⟨messageType, domain.unicode, user.unicode, password.unicode⟩, 0⟩ =
      .ok (if (coTaskMemAlloc.region (packedSize
          ⟨messageType, domain.unicode, user.unicode, password.unicode⟩)).isSome then
        .ok (packedLogon messageType domain user password,
          packedSize ⟨messageType, domain.unicode, user.unicode, password.unicode⟩)
      else .error .E_OUTOFMEMORY) := by
  have hsize := packedSize_eq messageType hd hu hp
  unfold kerbInteractiveUnlockLogonPack
  dsimp only
  generalize packedSize ⟨messageType, domain.unicode, user.unicode, password.unicode⟩ = cb at hsize ⊢
  cases hregion : coTaskMemAlloc.region cb with
  | none => rfl
  | some pkiulOut =>
      have hlength := coTaskMemAlloc.length_region cb pkiulOut hregion
      obtain ⟨region, hextra⟩ : ∃ region, pkiulOut.drop sizeofKerbInteractiveUnlockLogon = region := ⟨_, rfl⟩
      have hroom : region.length = 2 * domain.length + 2 * user.length + 2 * password.length := by
        rw [← hextra, List.length_drop]
        omega
      have hdomain := unicodeStringPackedUnicodeStringCopy_eq hd [] region 0 rfl (by omega)
      have huser := unicodeStringPackedUnicodeStringCopy_eq hu (wideBytes domain.chars)
        (region.drop (2 * domain.length)) (0 + domain.unicode.length.toNat)
        (by rw [PWSTR.toNat_length_unicode hd, length_wideBytes, Nat.zero_add]; rfl)
        (by rw [List.length_drop]; omega)
      have hpassword := unicodeStringPackedUnicodeStringCopy_eq hp
        (wideBytes domain.chars ++ wideBytes user.chars)
        ((region.drop (2 * domain.length)).drop (2 * user.length))
        (0 + domain.unicode.length.toNat + user.unicode.length.toNat)
        (by rw [PWSTR.toNat_length_unicode hd, PWSTR.toNat_length_unicode hu, List.length_append,
              length_wideBytes, length_wideBytes, Nat.zero_add]; rfl)
        (by rw [List.length_drop, List.length_drop]; omega)
      -- behind the last string nothing is left
      have hrest : ((region.drop (2 * domain.length)).drop (2 * user.length)).drop (2 * password.length) =
          [] := by
        apply List.drop_eq_nil_of_le
        rw [List.length_drop, List.length_drop]
        omega
      rw [hrest, List.append_nil] at hpassword
      have hlens : 0 + domain.unicode.length.toNat = 2 * domain.length ∧
          2 * domain.length + user.unicode.length.toNat = 2 * domain.length + 2 * user.length := by
        rw [PWSTR.toNat_length_unicode hd, PWSTR.toNat_length_unicode hu, Nat.zero_add]
        exact ⟨rfl, rfl⟩
      dsimp only
      rw [hextra]
      have hstart : region = [] ++ region := rfl
      rw [hstart, hdomain, ok_bind]
      dsimp only
      rw [List.nil_append, huser, ok_bind]
      dsimp only
      rw [hpassword, ok_bind, hlens.1, hlens.2]
      rfl

/-- A pointer to a string behind the structure. -/
theorem PackedLogon.textAt_eq {s : PWSTR} (hs : s.length ≤ 0x7FFF) {block : PackedLogon}
    (before rest : Bytes) (hextra : block.extra = before ++ wideBytes s.chars ++ rest) {pkiul : Nat}
    {us : UnicodeString Nat} (hlength : us.length = s.unicode.length)
    (hbuffer : us.buffer = pkiul + sizeofKerbInteractiveUnlockLogon + before.length) :
    block.textAt pkiul us = .ok s.chars := by
  have hread : read block.extra (us.buffer - (pkiul + sizeofKerbInteractiveUnlockLogon)) us.length.toNat =
      .ok (wideBytes s.chars) := by
    have hplace : us.buffer - (pkiul + sizeofKerbInteractiveUnlockLogon) = before.length := by omega
    have hbytes : us.length.toNat = (wideBytes s.chars).length := by
      rw [hlength, PWSTR.toNat_length_unicode hs, length_wideBytes]
      rfl
    rw [hplace, hbytes, hextra, read_of_le (by simp only [List.length_append]; omega), List.append_assoc,
      List.drop_left, List.take_left]
  unfold PackedLogon.textAt
  rw [if_pos (by omega), hread]
  show Except.ok (wideOf (wideBytes s.chars)) = _
  rw [wideOf_wideBytes]

/-- Through these pointers, a reader of the block finds this message. -/
structure PackedLogon.Carries (block : PackedLogon) (pkiul : Nat) (head : KerbInteractiveUnlockLogon Nat)
    (messageType : MessageType) (domain user password : PWSTR) : Prop where
  messageType : head.logon.messageType = messageType
  logonId : head.logonId = 0
  domain : block.textAt pkiul head.logon.logonDomainName = .ok domain.chars
  user : block.textAt pkiul head.logon.userName = .ok user.chars
  password : block.textAt pkiul head.logon.password = .ok password.chars

/-- Any pointers to the three places will do. -/
theorem packedLogon_carries (hd : domain.length ≤ 0x7FFF) (hu : user.length ≤ 0x7FFF)
    (hp : password.length ≤ 0x7FFF) (pkiul : Nat) {head : KerbInteractiveUnlockLogon Nat}
    (hmessage : head.logon.messageType = messageType) (hid : head.logonId = 0)
    (hdomain : head.logon.logonDomainName =
      { domain.packedAt 0 with buffer := pkiul + (domain.packedAt 0).buffer })
    (huser : head.logon.userName = { user.packedAt (2 * domain.length) with
      buffer := pkiul + (user.packedAt (2 * domain.length)).buffer })
    (hpassword : head.logon.password = { password.packedAt (2 * domain.length + 2 * user.length) with
      buffer := pkiul + (password.packedAt (2 * domain.length + 2 * user.length)).buffer }) :
    (packedLogon messageType domain user password).Carries pkiul head messageType domain user
      password := by
  refine ⟨hmessage, hid, ?_, ?_, ?_⟩
  · rw [hdomain]
    refine PackedLogon.textAt_eq hd [] (wideBytes user.chars ++ wideBytes password.chars) ?_ rfl ?_
    · simp [packedLogon]
    · simp [PWSTR.packedAt]
  · rw [huser]
    refine PackedLogon.textAt_eq hu (wideBytes domain.chars) (wideBytes password.chars) rfl rfl ?_
    rw [length_wideBytes]
    simp [PWSTR.packedAt, PWSTR.length, Nat.add_assoc]
  · rw [hpassword]
    refine PackedLogon.textAt_eq hp (wideBytes domain.chars ++ wideBytes user.chars) []
      (by simp [packedLogon]) rfl ?_
    rw [List.length_append, length_wideBytes, length_wideBytes]
    simp [PWSTR.packedAt, PWSTR.length, Nat.add_assoc]

theorem packedLogon_offsets (hd : domain.length ≤ 0x7FFF) (hu : user.length ≤ 0x7FFF)
    (hp : password.length ≤ 0x7FFF) :
    (packedLogon messageType domain user password).Carries 0
      (packedLogon messageType domain user password).head messageType domain user password :=
  packedLogon_carries messageType hd hu hp 0 rfl rfl (by rw [Nat.zero_add]; rfl) (by rw [Nat.zero_add]; rfl)
    (by rw [Nat.zero_add]; rfl)

/-- The strings fill the block. -/
theorem packedLogon_size (hd : domain.length ≤ 0x7FFF) (hu : user.length ≤ 0x7FFF)
    (hp : password.length ≤ 0x7FFF) :
    sizeofKerbInteractiveUnlockLogon + (packedLogon messageType domain user password).extra.length =
      packedSize ⟨messageType, domain.unicode, user.unicode, password.unicode⟩ := by
  have hextra : (packedLogon messageType domain user password).extra.length =
      2 * domain.length + 2 * user.length + 2 * password.length := by
    show (wideBytes domain.chars ++ wideBytes user.chars ++ wideBytes password.chars).length = _
    rw [List.length_append, List.length_append, length_wideBytes, length_wideBytes, length_wideBytes]
    rfl
  rw [packedSize_eq messageType hd hu hp, hextra]
  omega

/-- The pointer for an offset in a block that ends before the address space does. -/
theorem PWSTR.rebase_packedAt (s : PWSTR) {pbBuffer pkiul : Nat}
    (h : pkiul + sizeofKerbInteractiveUnlockLogon + pbBuffer < 2 ^ 64) :
    (s.packedAt pbBuffer).rebase pkiul =
      { s.packedAt pbBuffer with buffer := pkiul + (s.packedAt pbBuffer).buffer } := by
  have hne : sizeofKerbInteractiveUnlockLogon + pbBuffer ≠ 0 := by
    unfold sizeofKerbInteractiveUnlockLogon
    omega
  unfold UnicodeString.rebase PWSTR.packedAt
  dsimp only
  rw [if_pos hne, Nat.mod_eq_of_lt (by omega)]

theorem PWSTR.packedAt_within {s : PWSTR} (hs : s.length ≤ 0x7FFF) {pbBuffer cb : Nat}
    (h : sizeofKerbInteractiveUnlockLogon + pbBuffer + 2 * s.length ≤ cb) :
    (s.packedAt pbBuffer).Within cb := by
  unfold UnicodeString.Within
  refine (Nat.mod_le _ _).trans ?_
  show sizeofKerbInteractiveUnlockLogon + pbBuffer + s.unicode.length.toNat ≤ cb
  rw [PWSTR.toNat_length_unicode hs]
  exact h

/-- **Packing and unpacking in place.** Whatever the strings are: once the structure is made and its block
is allocated, the copies stay in the block and fill it behind the structure, one behind the other. The
offsets lead to the three strings, and so do the pointers that the unpacking puts into their place. -/
theorem kerb_pack_unpack {cpus : UsageScenario} {kiul : KerbInteractiveUnlockLogon PWSTR}
    (hinit : kerbInteractiveUnlockLogonInit (some domain) (some user) (some password) cpus = .ok kiul)
    (coTaskMemAlloc : Malloc) (halloc : (coTaskMemAlloc.region (packedSize kiul.logon)).isSome) (pkiul : Nat)
    (haddress : pkiul + packedSize kiul.logon < 2 ^ 64) :
    ∃ messageType block, messageTypeFor cpus = .ok messageType ∧
      kerbInteractiveUnlockLogonPack coTaskMemAlloc kiul = .ok (.ok (block, packedSize kiul.logon)) ∧
      sizeofKerbInteractiveUnlockLogon + block.extra.length = packedSize kiul.logon ∧
      block.extra = wideBytes domain.chars ++ wideBytes user.chars ++ wideBytes password.chars ∧
      block.Carries 0 block.head messageType domain user password ∧
      block.Carries pkiul
        (kerbInteractiveUnlockLogonUnpackInPlace pkiul (packedSize kiul.logon) block.head) messageType domain
        user password := by
  obtain ⟨⟨hd, hu, hp⟩, messageType, hmessage, rfl⟩ := kerbInteractiveUnlockLogonInit_eq_ok.mp hinit
  have hsize := packedSize_eq messageType hd hu hp
  have hpack := kerbInteractiveUnlockLogonPack_eq messageType hd hu hp coTaskMemAlloc
  have hfill := packedLogon_size messageType hd hu hp
  dsimp only at halloc haddress ⊢
  rw [if_pos halloc] at hpack
  generalize packedSize ⟨messageType, domain.unicode, user.unicode, password.unicode⟩ = cb at *
  refine ⟨messageType, packedLogon messageType domain user password, hmessage, hpack, hfill, rfl,
    packedLogon_offsets messageType hd hu hp, ?_⟩
  have hunpack : kerbInteractiveUnlockLogonUnpackInPlace pkiul cb
      (packedLogon messageType domain user password).head =
      ⟨⟨messageType, (domain.packedAt 0).rebase pkiul,
        (user.packedAt (2 * domain.length)).rebase pkiul,
        (password.packedAt (2 * domain.length + 2 * user.length)).rebase pkiul⟩, 0⟩ :=
    if_pos ⟨by omega, PWSTR.packedAt_within hd (by omega), PWSTR.packedAt_within hu (by omega),
      PWSTR.packedAt_within hp (by omega)⟩
  rw [hunpack]
  exact packedLogon_carries messageType hd hu hp pkiul rfl rfl (PWSTR.rebase_packedAt _ (by omega))
    (PWSTR.rebase_packedAt _ (by omega)) (PWSTR.rebase_packedAt _ (by omega))

end

/-! ## A logon -/

theorem kerb_pack_unpack_sample : ∃ kiul block,
    kerbInteractiveUnlockLogonInit (some (.ofBuffer [80, 67])) (some (.ofBuffer [117]))
      (some (.ofBuffer [0x20AC, 112])) .unlockWorkstation = .ok kiul ∧
    kerbInteractiveUnlockLogonPack ⟨fun n => some (List.replicate n 0xCD), by simp⟩ kiul =
      .ok (.ok (block, 74)) ∧
    block.Carries 4096 (kerbInteractiveUnlockLogonUnpackInPlace 4096 74 block.head)
      .kerbWorkstationUnlockLogon (.ofBuffer [80, 67]) (.ofBuffer [117]) (.ofBuffer [0x20AC, 112]) := by
  obtain ⟨kiul, hinit⟩ : ∃ kiul, kerbInteractiveUnlockLogonInit (some (.ofBuffer [80, 67]))
      (some (.ofBuffer [117])) (some (.ofBuffer [0x20AC, 112])) .unlockWorkstation = .ok kiul := ⟨_, rfl⟩
  have hsize : packedSize kiul.logon = 74 := by
    obtain ⟨-, m, -, rfl⟩ := kerbInteractiveUnlockLogonInit_eq_ok.mp hinit
    rfl
  obtain ⟨m, block, hm, hpack, -, -, -, hcarries⟩ := kerb_pack_unpack hinit
    ⟨fun n => some (List.replicate n 0xCD), by simp⟩ rfl 4096
    (by rw [hsize]; decide)
  rw [hsize] at hpack hcarries
  obtain rfl : m = .kerbWorkstationUnlockLogon := (Except.ok.inj hm).symm
  exact ⟨kiul, block, hinit, hpack, hcarries⟩

end KerbLogon

end PcbuDesktop
