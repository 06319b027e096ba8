import PcbuDesktop.Basic.Version
import PcbuDesktop.Unlock.Connection

set_option autoImplicit false

/-! # `PairingServer`

`PairingServer::HandleClient` (`connection/pairing/PairingServer.cpp`) reads the phone's
encrypted `PacketPairInit`, answers with a new device id and password key, and stores the
device. Everything after the decryption stands in a `try` block: an exception is answered by a
response that carries its text. The beacon of `UDPPairingBroadcaster` is encrypted under the
same key.

`Pairing` is one call of `HandleClient`, stopped at its stream and storage calls.
-/

namespace PcbuDesktop

/-- A result of `EncryptAESPacket`, with the key and the plaintext it was made from. -/
structure Ciphertext where
  key : Str
  plain : Str
  cipher : Bytes
  deriving DecidableEq, Repr

/-- What `EncryptAESPacket` leaves behind: nothing if it fails. -/
def Env.encrypted (env : Env) (seed : Nat) (plain key : Str) : List Ciphertext :=
  let encRes := env.crypt.encryptAESPacket seed plain key
  if encRes.result = .ok then [⟨key, plain, encRes.data⟩] else []

theorem Env.mem_encrypted {env : Env} {seed : Nat} {plain key : Str} {m : Ciphertext}
    (h : m ∈ env.encrypted seed plain key) :
    m.key = key ∧ m.plain = plain ∧ (env.crypt.encryptAESPacket seed m.plain m.key).result = .ok ∧
      (env.crypt.encryptAESPacket seed m.plain m.key).data = m.cipher := by
  unfold Env.encrypted at h
  dsimp only at h
  split at h
  · next hok =>
      rw [List.mem_singleton.mp h]
      exact ⟨rfl, rfl, hok, rfl⟩
  · cases h

/-! ## One client -/

/-- The members of `PairingUIData` that `HandleClient` reads. -/
structure PairingUIData where
  userName : Str := []
  password : Str := []
  encKey : Str := []
  method : PairingMethod := .tcp
  btAddress : Str := []
  deriving DecidableEq, Repr

/-- What `HandleClient` finds when it reads its packet: the packet, the clock, random values
and the settings of the machine. -/
structure PairingInput where
  packet : Packet
  now : Int := 0
  fallbackId : Str := []
  passwordKey : Str := []
  seed : Nat := 0
  machineID : Str := []
  hostName : Str := []
  deviceOS : Str := []
  unlockServerPort : UInt16 := 0
  macAddresses : List Str := []

/-- `ReadEncryptedPacket`. -/
def readEncryptedPacket (env : Env) (uiData : PairingUIData) (input : PairingInput) : CryptPacket :=
  if input.packet.error ≠ .none then { result := .packetError, error := input.packet.error }
  else env.crypt.decryptAESPacket input.now input.packet.data uiData.encKey

/-- The calls of `HandleClient` that others see. -/
inductive PairingEffect where
  | encrypted (ciphertext : Ciphertext)
  | addDevice (device : PairedDevice)
  | reportSuccess
  | reportError (message : Str)
  deriving DecidableEq, Repr

inductive PairingPc where
  /-- `ReadEncryptedPacket` -/
  | read
  /-- `WriteEncryptedPacket` of the response -/
  | respond (device : PairedDevice) (respPacket : PacketPairResponse)
  /-- `PairedDevicesStorage::AddDevice` -/
  | store (device : PairedDevice)
  /-- the `catch` block -/
  | reject (what : Str)
  | done
  /-- an exception left `HandleClient` -/
  | escaped
  deriving DecidableEq, Repr

/-- The report when nothing was read: a packet error or a failed decryption. -/
def readFailed (i18n : String → Str) (isCloud : Bool) (packetRes : CryptPacket) :
    List PairingEffect :=
  if packetRes.result = .invalidTimestamp then [.reportError (i18n "error_aes_time_mismatch")]
  else if packetRes.result = .packetError ∧ packetRes.error = .unsupportedVersion then
    [.reportError (i18n "error_protocol_mismatch")]
  else if packetRes.result = .packetError ∧
      (packetRes.error = .timeout ∨ packetRes.error = .peerUnavailable) then
    [.reportError (i18n "error_pairing_timeout")]
  else if isCloud then [.reportError (i18n "error_cloud_pairing")]
  else []

/-- The device and the response for a client, or the text of the exception. -/
def buildPairResponse (env : Env) (i18n : String → Str) (uiData : PairingUIData)
    (input : PairingInput) (data : Bytes) : Except Str (PairedDevice × PacketPairResponse) :=
  match PacketPairInit.fromJson env.json data with
  | none => .error (i18n "error_pairing_packet_parse")
  | some initPacket =>
      if compareVersion pairingProtocolVersion initPacket.protoVersion ≠ 0 then
        .error (i18n "error_protocol_mismatch")
      else
        let deviceUUID :=
          if initPacket.deviceUUID = [] then input.fallbackId else initPacket.deviceUUID
        match env.crypt.encryptAES input.seed uiData.password input.passwordKey with
        | none => .error (i18n "error_password_encrypt")
        | some pwEnc =>
            let device : PairedDevice :=
              { id := env.crypt.sha256 (input.machineID ++ deviceUUID ++ uiData.userName)
                pairingMethod := uiData.method
                deviceName := initPacket.deviceName
                userName := uiData.userName
                passwordEnc := pwEnc
                encryptionKey := uiData.encKey
                ipAddress := initPacket.ipAddress
                tcpPort := initPacket.tcpPort
                udpPort := initPacket.udpPort
                udpManualPort := initPacket.udpManualPort
                bluetoothAddress := uiData.btAddress
                cloudToken := initPacket.cloudToken }
            let respPacket : PacketPairResponse :=
              { data :=
                  { deviceId := device.id
                    deviceName := input.hostName
                    deviceOS := input.deviceOS
                    unlockServerPort := input.unlockServerPort
                    pairingMethod := device.pairingMethod
                    macAddresses := input.macAddresses
                    userName := uiData.userName
                    passwordKey := input.passwordKey } }
            .ok (device, respPacket)

/-- `WriteEncryptedPacket`: whether it succeeded, and the ciphertext. -/
def writeEncryptedPacket (env : Env) (uiData : PairingUIData) (seed : Nat) (result : PacketError)
    (data : Str) : Bool × List PairingEffect :=
  ((env.crypt.encryptAESPacket seed data uiData.encKey).result = .ok ∧ result = .none,
    (env.encrypted seed data uiData.encKey).map .encrypted)

/-- One call of `HandleClient` with the server's `m_UIData`. -/
structure Pairing where
  uiData : PairingUIData
  pc : PairingPc := .read
  deriving DecidableEq, Repr

/-- What the environment answers. -/
inductive PairingAnswer where
  | packet (input : PairingInput)
  /-- the clock and random bytes of the encryption, the result of `WritePacket`, and the text of
  the exception when the response cannot be printed -/
  | write (seed : Nat) (result : PacketError) (what : Str)
  /-- `AddDevice` returned, or threw -/
  | stored (what : Option Str)

/-- One step of `HandleClient`. -/
def pairingStep (env : Env) (i18n : String → Str) (p : Pairing) :
    PairingAnswer → Option (PairingPc × List PairingEffect)
  | .packet input =>
      match p.pc with
      | .read =>
          let packetRes := readEncryptedPacket env p.uiData input
          -- the source asks for the data and not for the result
          if packetRes.data = [] then
            some (.done, readFailed i18n (p.uiData.method = .cloud) packetRes)
          else
            match buildPairResponse env i18n p.uiData input packetRes.data with
            | .error what => some (.reject what, [])
            | .ok (device, respPacket) => some (.respond device respPacket, [])
      | _ => none
  | .write seed result what =>
      match p.pc with
      | .respond device respPacket =>
          match env.json.dump respPacket.toJson with
          | none => some (.reject what, [])
          | some data =>
              let (written, effects) := writeEncryptedPacket env p.uiData seed result data
              if written then some (.store device, effects)
              else some (.done, effects ++ [.reportError (i18n "error_pairing_failed")])
      | .reject message =>
          match env.json.dump (PacketPairResponse.toJson { errMsg := message }) with
          | none => some (.escaped, [])
          | some data =>
              let (written, effects) := writeEncryptedPacket env p.uiData seed result data
              some (.done, if written then effects else effects ++ [.reportError message])
      | _ => none
  | .stored what =>
      match p.pc with
      | .store device =>
          match what with
          | none => some (.done, [.addDevice device, .reportSuccess])
          -- an exception after the response was written sends a second response
          | some message => some (.reject message, [.addDevice device])
      | _ => none

/-- What a step of `HandleClient` can do. -/
inductive PairingStep (env : Env) (i18n : String → Str) (uiData : PairingUIData) :
    PairingPc → PairingAnswer → PairingPc → List PairingEffect → Prop
  | unread {input : PairingInput} (hdata : (readEncryptedPacket env uiData input).data = []) :
      PairingStep env i18n uiData .read (.packet input) .done
        (readFailed i18n (uiData.method = .cloud) (readEncryptedPacket env uiData input))
  | refused {input : PairingInput} {what : Str}
      (hdata : (readEncryptedPacket env uiData input).data ≠ [])
      (hbuild : buildPairResponse env i18n uiData input
        (readEncryptedPacket env uiData input).data = .error what) :
      PairingStep env i18n uiData .read (.packet input) (.reject what) []
  | built {input : PairingInput} {device : PairedDevice} {respPacket : PacketPairResponse}
      (hdata : (readEncryptedPacket env uiData input).data ≠ [])
      (hbuild : buildPairResponse env i18n uiData input
        (readEncryptedPacket env uiData input).data = .ok (device, respPacket)) :
      PairingStep env i18n uiData .read (.packet input) (.respond device respPacket) []
  | unprinted {device : PairedDevice} {respPacket : PacketPairResponse} {seed : Nat}
      {result : PacketError} {what : Str} (hdump : env.json.dump respPacket.toJson = none) :
      PairingStep env i18n uiData (.respond device respPacket) (.write seed result what)
        (.reject what) []
  | responded {device : PairedDevice} {respPacket : PacketPairResponse} {seed : Nat}
      {result : PacketError} {what data : Str}
      (hdump : env.json.dump respPacket.toJson = some data)
      (hwritten : (writeEncryptedPacket env uiData seed result data).1 = true) :
      PairingStep env i18n uiData (.respond device respPacket) (.write seed result what)
        (.store device) (writeEncryptedPacket env uiData seed result data).2
  | unwritten {device : PairedDevice} {respPacket : PacketPairResponse} {seed : Nat}
      {result : PacketError} {what data : Str}
      (hdump : env.json.dump respPacket.toJson = some data)
      (hwritten : (writeEncryptedPacket env uiData seed result data).1 = false) :
      PairingStep env i18n uiData (.respond device respPacket) (.write seed result what) .done
        ((writeEncryptedPacket env uiData seed result data).2 ++
          [.reportError (i18n "error_pairing_failed")])
  | escaped {message what : Str} {seed : Nat} {result : PacketError}
      (hdump : env.json.dump (PacketPairResponse.toJson { errMsg := message }) = none) :
      PairingStep env i18n uiData (.reject message) (.write seed result what) .escaped []
  | rejected {message what data : Str} {seed : Nat} {result : PacketError}
      (hdump : env.json.dump (PacketPairResponse.toJson { errMsg := message }) = some data) :
      PairingStep env i18n uiData (.reject message) (.write seed result what) .done
        ((writeEncryptedPacket env uiData seed result data).2 ++
          if (writeEncryptedPacket env uiData seed result data).1 then []
          else [.reportError message])
  | stored {device : PairedDevice} :
      PairingStep env i18n uiData (.store device) (.stored none) .done
        [.addDevice device, .reportSuccess]
  | threw {device : PairedDevice} {message : Str} :
      PairingStep env i18n uiData (.store device) (.stored (some message)) (.reject message)
        [.addDevice device]

theorem pairingStep_cases {env : Env} {i18n : String → Str} {uiData : PairingUIData}
    {pc pc' : PairingPc} {answer : PairingAnswer} {effects : List PairingEffect}
    (h : pairingStep env i18n ⟨uiData, pc⟩ answer = some (pc', effects)) :
    PairingStep env i18n uiData pc answer pc' effects := by
  cases answer with
  | packet input =>
      cases pc with
      | read =>
          simp only [pairingStep] at h
          split at h
          · next hdata => cases h; exact .unread hdata
          · next hdata =>
              split at h
              · next what hbuild => cases h; exact .refused hdata hbuild
              · next device respPacket hbuild => cases h; exact .built hdata hbuild
      | _ => cases h
  | write seed result what =>
      cases pc with
      | respond device respPacket =>
          simp only [pairingStep] at h
          split at h
          · next hdump => cases h; exact .unprinted hdump
          · next data hdump =>
              split at h
              · next hwritten => cases h; exact .responded hdump hwritten
              · next hwritten => cases h; exact .unwritten hdump (by simpa using hwritten)
      | reject message =>
          simp only [pairingStep] at h
          split at h
          · next hdump => cases h; exact .escaped hdump
          · next data hdump =>
              have hrejected : PairingStep env i18n uiData (.reject message)
                  (.write seed result what) .done _ := .rejected hdump
              cases h
              split
              · next hwritten => simpa [hwritten] using hrejected
              · next hwritten => simpa [hwritten] using hrejected
      | _ => cases h
  | stored what =>
      cases pc with
      | store device =>
          cases what with
          | none => cases h; exact .stored
          | some message => cases h; exact .threw
      | _ => cases h

/-! ## The beacon -/

/-- `UDPPairingBroadcaster::SendToTarget` up to the broadcast; `none` where `dump` throws. -/
def sendToTarget (env : Env) (encKey : Str) (seed : Nat) (beacon : PacketUDPPairBeacon) :
    Option (List Ciphertext) :=
  (env.json.dump beacon.toJson).map (fun plain => env.encrypted seed plain encKey)

/-! ## What is encrypted -/

theorem mem_writeEncryptedPacket {env : Env} {uiData : PairingUIData} {seed : Nat}
    {result : PacketError} {data : Str} {m : Ciphertext}
    (h : .encrypted m ∈ (writeEncryptedPacket env uiData seed result data).2) :
    m ∈ env.encrypted seed data uiData.encKey := by
  obtain ⟨x, hx, he⟩ := List.mem_map.mp h
  cases he
  exact hx

theorem not_encrypted_readFailed {i18n : String → Str} {isCloud : Bool} {packetRes : CryptPacket}
    {m : Ciphertext} : .encrypted m ∉ readFailed i18n isCloud packetRes := by
  unfold readFailed
  split_ifs <;> simp

/-- `HandleClient` encrypts nothing but responses, and only under the key of the pairing. -/
theorem pairingStep_encrypted {env : Env} {i18n : String → Str} {p : Pairing}
    {answer : PairingAnswer} {pc : PairingPc} {effects : List PairingEffect} {m : Ciphertext}
    (h : pairingStep env i18n p answer = some (pc, effects)) (hm : .encrypted m ∈ effects) :
    ∃ respPacket : PacketPairResponse, ∃ data seed,
      env.json.dump respPacket.toJson = some data ∧ m ∈ env.encrypted seed data p.uiData.encKey := by
  have hstep : PairingStep env i18n p.uiData p.pc answer pc effects := pairingStep_cases h
  generalize p.pc = pc₀ at hstep
  cases hstep with
  | unread hdata => exact absurd hm not_encrypted_readFailed
  | refused hdata hbuild => cases hm
  | built hdata hbuild => cases hm
  | unprinted hdump => cases hm
  | @responded device respPacket seed result what data hdump hwritten =>
      exact ⟨respPacket, data, seed, hdump, mem_writeEncryptedPacket hm⟩
  | @unwritten device respPacket seed result what data hdump hwritten =>
      rcases List.mem_append.mp hm with hm | hm
      · exact ⟨respPacket, data, seed, hdump, mem_writeEncryptedPacket hm⟩
      · cases List.mem_singleton.mp hm
  | escaped hdump => cases hm
  | @rejected message what data seed result hdump =>
      rcases List.mem_append.mp hm with hm | hm
      · exact ⟨{ errMsg := message }, data, seed, hdump, mem_writeEncryptedPacket hm⟩
      · split at hm
        · cases hm
        · cases List.mem_singleton.mp hm
  | stored => simp at hm
  | threw => simp at hm

end PcbuDesktop
