import PcbuDesktop.Basic.Base32
import PcbuDesktop.Storage.AppSettings
import PcbuDesktop.Pairing.PairingServer

set_option autoImplicit false

/-! # The pairing code

`PairingSession::GetPayload` is the text of the QR code, and `PairingSession::GetPairingCode` the
same text to be typed in (`pairing/PairingSession.cpp`): base32, a `-` after every five characters.
-/

namespace PcbuDesktop

/-- The members of `PairingSession` that its payload is made of; `useLegacy` is one of `m_Data`. -/
structure PairingSession where
  serverId : Str
  data : PairingUIData
  useLegacy : Bool := false

/-- `PairingQRData::ToJson`. -/
def pairingQRDataToJson (serverId : Str) (port : UInt16) (method : PairingMethod) (encKey : Str) :
    Json :=
  .obj [("encKey", .str encKey), ("method", .str method.toText), ("port", .int port.toNat),
    ("serverId", .str serverId)]

/-- `LegacyPairingQRData::ToJson`. -/
def legacyPairingQRDataToJson (ip : Str) (port : UInt16) (method : PairingMethod) (encKey : Str) :
    Json :=
  .obj [("encKey", .str encKey), ("ip", .str ip), ("method", .str method.toText),
    ("port", .int port.toNat)]

/-- `PairingSession::GetPayload`, where `ipAddress` is the one of the saved network interface;
`none` where `dump` throws. -/
def getPayload (lib : JsonLib) (settings : PCBUAppStorage) (ipAddress : Str)
    (session : PairingSession) : Option Str :=
  if session.useLegacy = true ∧ session.data.method ≠ .cloud then
    lib.dump (legacyPairingQRDataToJson ipAddress settings.pairingServerPort session.data.method
      session.data.encKey)
  else
    lib.dump (pairingQRDataToJson session.serverId settings.pairingDiscoveryPort
      session.data.method session.data.encKey)

/-- The code of a payload. -/
def pairingCode (payload : Str) : Str := withSeperators (toBase32String payload) (str "-") 5

/-- `PairingSession::GetPairingCode`. -/
def getPairingCode (lib : JsonLib) (settings : PCBUAppStorage) (ipAddress : Str)
    (session : PairingSession) : Option Str :=
  (getPayload lib settings ipAddress session).map pairingCode

/-- What the phone does with a code. -/
def readPairingCode (code : Str) : Option Str := base32Decode (code.filter (· ≠ 45))

theorem readPairingCode_pairingCode (payload : Str) :
    readPairingCode (pairingCode payload) = some payload := by
  have hdash : (45 : UInt8) ∉ toBase32String payload :=
    (codeBits_toBase32String payload).1.not_mem_dash
  have hsep : str "-" = [45] := by decide
  unfold readPairingCode pairingCode
  rw [hsep, filter_withSeperators (by decide) hdash]
  exact base32Decode_toBase32String payload

/-- **A pairing code gives back its payload.** Without the separators the code is the base32 text
of the payload, of whatever length this is; so payloads with the same code are the same, and the
code of a session says what its QR code says. -/
theorem pairingCode_roundTrip (payload payload' : Str) :
    base32Decode ((withSeperators (toBase32String payload) (str "-") 5).filter (· ≠ 45)) =
      some payload ∧
    (pairingCode payload = pairingCode payload' → payload = payload') ∧
    ∀ (lib : JsonLib) (settings : PCBUAppStorage) (ipAddress : Str) (session : PairingSession),
      (getPairingCode lib settings ipAddress session).map readPairingCode =
        (getPayload lib settings ipAddress session).map some := by
  refine ⟨readPairingCode_pairingCode payload, ?_, ?_⟩
  · intro h
    have hread := congrArg readPairingCode h
    rw [readPairingCode_pairingCode, readPairingCode_pairingCode] at hread
    exact Option.some.inj hread
  · intro lib settings ipAddress session
    unfold getPairingCode
    rw [Option.map_map]
    congr 1
    funext payload
    exact readPairingCode_pairingCode payload

/-- The code of seven bytes. -/
example : pairingCode (str "pairing") = str "OBQWS-4TJNZ-TQ" := by decide

end PcbuDesktop
