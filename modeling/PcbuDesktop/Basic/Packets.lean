import PcbuDesktop.Basic.Text

set_option autoImplicit false

/-! # Devices, packets and messages

The records of `storage/PairedDevicesStorage.h`, the packet ids and the message types of
`connection/Packets.h` with their JSON forms, and the results of the stream and crypt layers
that the connections look at.
-/

namespace PcbuDesktop

/-! ## Paired devices -/

inductive PairingMethod where
  | tcp
  | bluetooth
  | cloud
  | udp
  | manualUdp
  deriving DecidableEq, Repr

/-- `PairingMethodUtils::ToString`. -/
def PairingMethod.toText : PairingMethod → Str
  | .tcp => str "TCP"
  | .bluetooth => str "BLUETOOTH"
  | .cloud => str "CLOUD"
  | .udp => str "UDP"
  | .manualUdp => str "MANUAL_UDP"

structure SshServer where
  host : Str := []
  user : Str := []
  keyPath : Str := []
  passwordEnc : Str := []
  deriving DecidableEq, Repr

structure PairedDevice where
  id : Str := []
  pairingMethod : PairingMethod := .tcp
  deviceName : Str := []
  userName : Str := []
  passwordEnc : Str := []
  encryptionKey : Str := []
  ipAddress : Str := []
  tcpPort : UInt16 := 0
  udpPort : UInt16 := 0
  udpManualPort : UInt16 := 0
  bluetoothAddress : Str := []
  cloudToken : Str := []
  sshServers : List SshServer := []
  deriving DecidableEq, Repr

/-! ## Packets -/

inductive PacketError where
  | unknown
  | none
  | closedConnection
  | timeout
  | unsupportedVersion
  | peerUnavailable
  deriving DecidableEq, Repr

/-- What `ReadPacket` returns. -/
structure Packet where
  error : PacketError := .unknown
  id : UInt16 := 0
  data : Bytes := []
  deriving DecidableEq, Repr

def PACKET_ID_PAIR_INIT : UInt16 := 0x50
def PACKET_ID_PAIR_RESPONSE : UInt16 := 0x51
def PACKET_ID_DEVICE_ID : UInt16 := 0xB0
def PACKET_ID_UNLOCK_REQUEST : UInt16 := 0xB1
def PACKET_ID_UNLOCK_RESPONSE : UInt16 := 0xB2

inductive PacketCryptResult where
  | ok
  | invalidTimestamp
  | packetError
  | otherError
  deriving DecidableEq, Repr

structure CryptPacket where
  result : PacketCryptResult := .ok
  error : PacketError := .unknown
  data : Bytes := []
  deriving DecidableEq, Repr

/-! ## Messages -/

structure PacketPairInit where
  protoVersion : Str := []
  deviceUUID : Str := []
  deviceName : Str := []
  ipAddress : Str := []
  tcpPort : UInt16 := 0
  udpPort : UInt16 := 0
  udpManualPort : UInt16 := 0
  cloudToken : Str := []
  deriving DecidableEq, Repr

/-- A read of one field in the inner `try` of `PacketPairInit::FromJson`: after a failed one the
rest is not read any more. -/
def PacketPairInit.readField {α : Type} (value : Option α) (set : PacketPairInit → α → PacketPairInit)
    (state : PacketPairInit × Bool) : PacketPairInit × Bool :=
  match state, value with
  | (packet, true), some v => (set packet v, true)
  | (packet, _), _ => (packet, false)

/-- `PacketPairInit::FromJson`. Only the version has to be there. -/
def PacketPairInit.fromJson (lib : JsonLib) (jsonStr : Str) : Option PacketPairInit := do
  let json ← lib.parse jsonStr
  let protoVersion ← json.stringMember "protoVersion"
  let read := ({ protoVersion := protoVersion }, true)
    |> readField (json.stringMember "deviceUUID") (fun p v => { p with deviceUUID := v })
    |> readField (json.stringMember "deviceName") (fun p v => { p with deviceName := v })
    |> readField (json.stringMember "ipAddress") (fun p v => { p with ipAddress := v })
    |> readField (json.uint16Member "tcpPort") (fun p v => { p with tcpPort := v })
    |> readField (json.uint16Member "udpPort") (fun p v => { p with udpPort := v })
    |> readField (json.uint16Member "udpManualPort") (fun p v => { p with udpManualPort := v })
    |> readField (json.stringMember "cloudToken") (fun p v => { p with cloudToken := v })
  return read.1

structure PacketPairResponseData where
  pairingMethod : PairingMethod := .tcp
  deviceId : Str := []
  deviceName : Str := []
  deviceOS : Str := []
  unlockServerPort : UInt16 := 0
  macAddresses : List Str := []
  userName : Str := []
  passwordKey : Str := []
  deriving DecidableEq, Repr

def PacketPairResponseData.toJson (p : PacketPairResponseData) : Json :=
  .obj [("deviceId", .str p.deviceId), ("deviceName", .str p.deviceName),
    ("deviceOS", .str p.deviceOS), ("macAddresses", .arr (p.macAddresses.map .str)),
    ("pairingMethod", .str p.pairingMethod.toText), ("passwordKey", .str p.passwordKey),
    ("unlockServerPort", .int p.unlockServerPort.toNat), ("userName", .str p.userName)]

structure PacketPairResponse where
  errMsg : Str := []
  data : PacketPairResponseData := {}
  deriving DecidableEq, Repr

def PacketPairResponse.toJson (p : PacketPairResponse) : Json :=
  .obj [("data", p.data.toJson), ("errMsg", .str p.errMsg)]

structure PacketUnlockRequest where
  protoVersion : Str
  deviceId : Str
  encData : Str
  deriving DecidableEq, Repr

def PacketUnlockRequest.toJson (p : PacketUnlockRequest) : Json :=
  .obj [("deviceId", .str p.deviceId), ("encData", .str p.encData),
    ("protoVersion", .str p.protoVersion)]

structure PacketUnlockRequestData where
  user : Str
  program : Str
  unlockToken : Str
  deriving DecidableEq, Repr

def PacketUnlockRequestData.toJson (p : PacketUnlockRequestData) : Json :=
  .obj [("program", .str p.program), ("unlockToken", .str p.unlockToken), ("user", .str p.user)]

structure PacketUnlockResponse where
  error : Str := []
  encData : Str := []
  deriving DecidableEq, Repr

/-- `PacketUnlockResponse::FromJson`; every exception inside becomes `nullopt`. -/
def PacketUnlockResponse.fromJson (lib : JsonLib) (jsonStr : Str) :
    Option PacketUnlockResponse := do
  let json ← lib.parse jsonStr
  let error ← json.stringMember "error"
  let encData ← json.stringMember "encData"
  return { error, encData }

structure PacketUnlockResponseData where
  unlockToken : Str := []
  passwordKey : Str := []
  deriving DecidableEq, Repr

/-- `PacketUnlockResponseData::FromJson`. -/
def PacketUnlockResponseData.fromJson (lib : JsonLib) (jsonStr : Str) :
    Option PacketUnlockResponseData := do
  let json ← lib.parse jsonStr
  let unlockToken ← json.stringMember "unlockToken"
  let passwordKey ← json.stringMember "passwordKey"
  return { unlockToken, passwordKey }

structure PacketUDPPairBeacon where
  serverId : Str
  ip : Str
  port : UInt16
  deriving DecidableEq, Repr

def PacketUDPPairBeacon.toJson (p : PacketUDPPairBeacon) : Json :=
  .obj [("ip", .str p.ip), ("port", .int p.port.toNat), ("serverId", .str p.serverId)]

/-! ## Telling the messages apart

Requests, responses, the pairing answer and the pairing beacon are encrypted under one key. What distinguishes
them is only which members they have. -/

/-- A printed value without the member `passwordKey` is no response data. -/
theorem PacketUnlockResponseData.fromJson_eq_none {lib : JsonLib} {s : Str} {j : Json}
    (hp : lib.parse s = some j)
    (h : j.stringMember "unlockToken" = none ∨ j.stringMember "passwordKey" = none) :
    fromJson lib s = none := by
  simp only [fromJson, hp, Option.bind_eq_bind, Option.bind_some]
  rcases h with h | h
  · simp [h]
  · cases j.stringMember "unlockToken" <;> simp [h]

theorem PacketUnlockRequestData.not_response {lib : JsonLib} (hlib : lib.RoundTrips)
    (r : PacketUnlockRequestData) {s : Str} (hs : lib.dump r.toJson = some s) :
    PacketUnlockResponseData.fromJson lib s = none :=
  PacketUnlockResponseData.fromJson_eq_none (hlib _ _ hs) (Or.inr (by rfl))

theorem PacketPairResponse.not_response {lib : JsonLib} (hlib : lib.RoundTrips)
    (r : PacketPairResponse) {s : Str} (hs : lib.dump r.toJson = some s) :
    PacketUnlockResponseData.fromJson lib s = none :=
  PacketUnlockResponseData.fromJson_eq_none (hlib _ _ hs) (Or.inl (by rfl))

theorem PacketUDPPairBeacon.not_response {lib : JsonLib} (hlib : lib.RoundTrips)
    (r : PacketUDPPairBeacon) {s : Str} (hs : lib.dump r.toJson = some s) :
    PacketUnlockResponseData.fromJson lib s = none :=
  PacketUnlockResponseData.fromJson_eq_none (hlib _ _ hs) (Or.inl (by rfl))

end PcbuDesktop
