import PcbuDesktop.Pairing.Client

set_option autoImplicit false

/-! # The ids of paired devices

The id that `HandleClient` gives to a phone is the hash of the machine's id, the UUID the phone has
sent and the user name, one behind the other (`pairing/PairingServer.cpp`). `AddDevice` takes the
stored devices with this id out of the list. Nothing stands between the UUID and the user name, so
that the end of the one and the beginning of the other cannot be told apart: two pairings get the
same id exactly when one is the other with this border moved.
-/

namespace PcbuDesktop

open KeyedList

/-- The UUID that `HandleClient` goes on with: an empty one is replaced by random text. -/
def pairedUUID (input : PairingInput) (initPacket : PacketPairInit) : Str :=
  if initPacket.deviceUUID = [] then input.fallbackId else initPacket.deviceUUID

/-- A piece of text moved from the front of the user name to the end of the UUID makes the first
pair the second one. -/
def MovedBorder (uuid userName uuid' userName' : Str) : Prop :=
  ∃ moved, uuid' = uuid ++ moved ∧ userName = moved ++ userName'

/-- Neither pair is the other one with the border between UUID and user name moved. -/
def ToldApart (uuid userName uuid' userName' : Str) : Prop :=
  ¬ MovedBorder uuid userName uuid' userName' ∧ ¬ MovedBorder uuid' userName' uuid userName

theorem append_eq_append_iff_movedBorder {uuid userName uuid' userName' : Str} :
    uuid ++ userName = uuid' ++ userName' ↔
      MovedBorder uuid userName uuid' userName' ∨ MovedBorder uuid' userName' uuid userName := by
  rw [List.append_eq_append_iff]
  rfl

/-- Pairs with UUIDs of the same length are told apart. -/
theorem toldApart_of_length {uuid userName uuid' userName' : Str}
    (hlen : uuid.length = uuid'.length) (hne : (uuid, userName) ≠ (uuid', userName')) :
    ToldApart uuid userName uuid' userName' := by
  have happend : ¬ uuid ++ userName = uuid' ++ userName' := by
    intro h
    obtain ⟨rfl, rfl⟩ := List.append_inj h hlen
    exact hne rfl
  rw [append_eq_append_iff_movedBorder, not_or] at happend
  exact happend

/-- The id of the device that `HandleClient` builds. -/
theorem buildPairResponse_id {env : Env} {i18n : String → Str} {uiData : PairingUIData}
    {input : PairingInput} {data : Bytes} {initPacket : PacketPairInit} {device : PairedDevice}
    {respPacket : PacketPairResponse} (hinit : PacketPairInit.fromJson env.json data = some initPacket)
    (h : buildPairResponse env i18n uiData input data = .ok (device, respPacket)) :
    device.id =
      env.crypt.sha256 (input.machineID ++ pairedUUID input initPacket ++ uiData.userName) := by
  unfold buildPairResponse at h
  rw [hinit] at h
  dsimp only at h
  by_cases hversion : compareVersion pairingProtocolVersion initPacket.protoVersion ≠ 0
  · rw [if_pos hversion] at h
    cases h
  · rw [if_neg hversion] at h
    cases hencrypt : env.crypt.encryptAES input.seed uiData.password input.passwordKey with
    | none =>
        rw [hencrypt] at h
        cases h
    | some pwEnc =>
        rw [hencrypt] at h
        cases h
        rfl

/-- What a successful `AddDevice` leaves in the list. -/
theorem addDevice_cache {lib : JsonLib} {isRead : Bool} {device : PairedDevice} {s : Store}
    {text : Str}
    (hdump : lib.dump (devicesToJson (insert PairedDevice.id device (getDevices lib isRead s).1)) =
      some text) :
    (addDevice lib isRead {} device s).cache =
      insert PairedDevice.id device (getDevices lib isRead s).1 := by
  show (saveDevices lib {} (insert PairedDevice.id device (getDevices lib isRead s).1)
    (getDevices lib isRead s).2).cache = _
  unfold saveDevices
  rw [if_neg (by simp)]
  dsimp only
  rw [hdump]

/-- **Where pairings get different ids.** With an injective hash, two pairings on the same machine
get different ids exactly when neither of the pairs of UUID and user name is the other one with the
border moved. Exactly then the one device stays in the list when the other one is stored. -/
theorem deviceIds_differ_iff {env : Env} (hsha : Function.Injective env.crypt.sha256)
    {i18n : String → Str} {uiData uiData' : PairingUIData} {input input' : PairingInput}
    {data data' : Bytes} {initPacket initPacket' : PacketPairInit} {device device' : PairedDevice}
    {respPacket respPacket' : PacketPairResponse} (hmachine : input.machineID = input'.machineID)
    (hinit : PacketPairInit.fromJson env.json data = some initPacket)
    (hinit' : PacketPairInit.fromJson env.json data' = some initPacket')
    (h : buildPairResponse env i18n uiData input data = .ok (device, respPacket))
    (h' : buildPairResponse env i18n uiData' input' data' = .ok (device', respPacket')) :
    (device.id ≠ device'.id ↔
      ToldApart (pairedUUID input initPacket) uiData.userName (pairedUUID input' initPacket')
        uiData'.userName) ∧
    (∀ stored, device ∈ stored →
      (device ∈ erase PairedDevice.id device'.id stored ↔
        ToldApart (pairedUUID input initPacket) uiData.userName (pairedUUID input' initPacket')
          uiData'.userName)) ∧
    (∀ lib isRead s text, device ∈ (getDevices lib isRead s).1 →
      lib.dump (devicesToJson (insert PairedDevice.id device' (getDevices lib isRead s).1)) =
        some text →
      (device ∈ (addDevice lib isRead {} device' s).cache ↔
        device = device' ∨ ToldApart (pairedUUID input initPacket) uiData.userName
          (pairedUUID input' initPacket') uiData'.userName)) := by
  have hids : device.id ≠ device'.id ↔
      ToldApart (pairedUUID input initPacket) uiData.userName (pairedUUID input' initPacket')
        uiData'.userName := by
    rw [buildPairResponse_id hinit h, buildPairResponse_id hinit' h', hmachine, ne_eq, hsha.eq_iff,
      List.append_assoc, List.append_assoc, List.append_cancel_left_eq,
      append_eq_append_iff_movedBorder, not_or]
    rfl
  refine ⟨hids, ?_, ?_⟩
  · intro stored hmem
    rw [mem_erase, ← hids]
    exact and_iff_right hmem
  · intro lib isRead s text hmem hdump
    rw [addDevice_cache hdump, mem_insert, ← hids, and_iff_right hmem]
    exact Or.comm

namespace Sample

def uuidJson (uuid : Str) : Json :=
  .obj [("cloudToken", .str []), ("deviceName", .str (str "Pixel")), ("deviceUUID", .str uuid),
    ("ipAddress", .str []), ("protoVersion", .str (str "4.0.0")), ("tcpPort", .int 43299),
    ("udpManualPort", .int 0), ("udpPort", .int 0)]

def uuidText (uuid : Str) : Str :=
  objectText [memberText "cloudToken" (quoted []), memberText "deviceName" (quoted (str "Pixel")),
    memberText "deviceUUID" (quoted uuid), memberText "ipAddress" (quoted []),
    memberText "protoVersion" (quoted (str "4.0.0")), memberText "tcpPort" (numberText 43299),
    memberText "udpManualPort" (numberText 0), memberText "udpPort" (numberText 0)]

/-- Phones that send the UUIDs `a` and `ab`. -/
def uuidEnv : Env :=
  ⟨.ofTable [(uuidJson (str "a"), uuidText (str "a")), (uuidJson (str "ab"), uuidText (str "ab"))],
    crypt⟩

theorem uuidEnv_injective : Function.Injective uuidEnv.crypt.sha256 := fun _ _ h => h

/-- `PairingUIData` and the input for this user. -/
def uuidPairing (userName : Str) : PairingUIData := { userName := userName, password := str "pw" }

def uuidInput : PairingInput :=
  { packet := ⟨.none, PACKET_ID_PAIR_INIT, []⟩, passwordKey := str "K", machineID := str "m" }

def uuidInit (uuid : Str) : PacketPairInit :=
  { protoVersion := str "4.0.0", deviceUUID := uuid, deviceName := str "Pixel", tcpPort := 43299 }

/-- The device that is built. -/
def uuidDevice (uuid userName : Str) : PairedDevice :=
  { id := str "m" ++ uuid ++ userName, deviceName := str "Pixel", userName := userName
    passwordEnc := toHexString (str "K" ++ 0 :: str "pw"), tcpPort := 43299 }

end Sample

/-- The phones `a` and `ab` for the user `c` are told apart. -/
theorem deviceIds_differ_iff_sample :
    (Sample.uuidDevice (str "a") (str "c")).id ≠ (Sample.uuidDevice (str "ab") (str "c")).id := by
  have hinit : ∀ uuid ∈ [str "a", str "ab"],
      PacketPairInit.fromJson Sample.uuidEnv.json (Sample.uuidText uuid) =
        some (Sample.uuidInit uuid) := by
    decide +kernel
  have hbuild : ∀ uuid ∈ [str "a", str "ab"],
      (buildPairResponse Sample.uuidEnv str (Sample.uuidPairing (str "c")) Sample.uuidInput
        (Sample.uuidText uuid)).map Prod.fst = .ok (Sample.uuidDevice uuid (str "c")) := by
    decide +kernel
  have hok : ∀ uuid ∈ [str "a", str "ab"], ∃ respPacket,
      buildPairResponse Sample.uuidEnv str (Sample.uuidPairing (str "c")) Sample.uuidInput
        (Sample.uuidText uuid) = .ok (Sample.uuidDevice uuid (str "c"), respPacket) := by
    intro uuid hmem
    have hfst := hbuild uuid hmem
    cases hr : buildPairResponse Sample.uuidEnv str (Sample.uuidPairing (str "c")) Sample.uuidInput
        (Sample.uuidText uuid) with
    | error what =>
        rw [hr] at hfst
        cases hfst
    | ok built =>
        rw [hr] at hfst
        exact ⟨built.2, congrArg Except.ok (Prod.ext (Except.ok.inj hfst) rfl)⟩
  obtain ⟨respPacket, hfirst⟩ := hok (str "a") (by decide)
  obtain ⟨respPacket', hsecond⟩ := hok (str "ab") (by decide)
  refine (deviceIds_differ_iff Sample.uuidEnv_injective rfl (hinit _ (by decide))
    (hinit _ (by decide)) hfirst hsecond).1.mpr ⟨?_, ?_⟩
  · rintro ⟨moved, huuid, huser⟩
    have htext : str "a" ++ [98] = str "a" ++ moved := huuid
    have hmoved := List.append_cancel_left htext
    rw [← hmoved] at huser
    exact absurd huser (by decide)
  · rintro ⟨moved, huuid, -⟩
    have hlen := congrArg List.length huuid
    rw [List.length_append] at hlen
    have hlong : (str "ab").length = 2 := by decide
    have hshort : (str "a").length = 1 := by decide
    have hshort' : (pairedUUID Sample.uuidInput (Sample.uuidInit (str "a"))).length = 1 := by decide
    have hlong' : (pairedUUID Sample.uuidInput (Sample.uuidInit (str "ab"))).length = 2 := by decide
    omega

/-- The phone `a` for the user `bc` is replaced by the phone `ab` for the user `c`. -/
theorem deviceIds_collide :
    (buildPairResponse Sample.uuidEnv str (Sample.uuidPairing (str "bc")) Sample.uuidInput
      (Sample.uuidText (str "a"))).map Prod.fst = .ok (Sample.uuidDevice (str "a") (str "bc")) ∧
    (buildPairResponse Sample.uuidEnv str (Sample.uuidPairing (str "c")) Sample.uuidInput
      (Sample.uuidText (str "ab"))).map Prod.fst = .ok (Sample.uuidDevice (str "ab") (str "c")) ∧
    (str "a", str "bc") ≠ (str "ab", str "c") ∧
    (Sample.uuidDevice (str "a") (str "bc")).id = (Sample.uuidDevice (str "ab") (str "c")).id ∧
    insert PairedDevice.id (Sample.uuidDevice (str "ab") (str "c"))
      [Sample.uuidDevice (str "a") (str "bc")] = [Sample.uuidDevice (str "ab") (str "c")] := by
  decide +kernel

end PcbuDesktop
