import PcbuDesktop.Basic.JsonTable
import PcbuDesktop.Basic.Packets
import PcbuDesktop.Lib.KeyedList

set_option autoImplicit false

/-! # The store of paired devices

`PairedDevicesStorage`: the list of paired devices is kept in `paired_devices.json` as a JSON array
and, once read, in the static `g_Cache`. `Load` skips the entries it does not understand, `SaveDevices`
writes a whole list and replaces the cache when that succeeded. The cache is read whenever it is
not empty, so an empty one stands both for "not loaded" and for "no devices".

What the file system answers is an argument of each operation.
-/

namespace PcbuDesktop

open KeyedList

/-- `PairingMethodUtils::FromString`: an unknown text is `TCP`. -/
def PairingMethod.fromText (methodStr : Str) : PairingMethod :=
  if methodStr = str "TCP" then .tcp
  else if methodStr = str "BLUETOOTH" then .bluetooth
  else if methodStr = str "CLOUD" then .cloud
  else if methodStr = str "UDP" then .udp
  else if methodStr = str "MANUAL_UDP" then .manualUdp
  else .tcp

/-! ## Reading -/

/-- What a range-based `for` over a JSON value visits: the elements of an array, the values of an
object, nothing for `null`, and any other value itself. -/
def Json.items : Json → List Json
  | .arr xs => xs
  | .obj fields => fields.map Prod.snd
  | .null => []
  | j => [j]

/-- `value(key, "")` on an object: the default where the key is missing; a value that is no string
throws. -/
def stringValue (fields : List (String × Json)) (key : String) : Option Str :=
  match fields.lookup key with
  | none => some []
  | some v => v.asString

/-- The servers of an `sshServers` array: entries that are no objects and servers with neither
host nor key path are skipped, a member that is no string throws. -/
def sshServersFromJson : List Json → Option (List SshServer)
  | [] => some []
  | .obj fields :: rest => do
      let host ← stringValue fields "host"
      let user ← stringValue fields "user"
      let keyPath ← stringValue fields "keyPath"
      let passwordEnc ← stringValue fields "passwordEnc"
      let servers ← sshServersFromJson rest
      if host = [] ∧ keyPath = [] then
        return servers
      return { host, user, keyPath, passwordEnc } :: servers
  | _ :: rest => sshServersFromJson rest

/-- The part of `Load` that looks at `sshServers`. -/
def sshMember : Json → Option (List SshServer)
  | .obj fields =>
      match fields.lookup "sshServers" with
      | some (.arr xs) => sshServersFromJson xs
      | _ => some []
  | _ => some []

/-- One entry of the array; `none` where an exception makes `Load` skip it. -/
def deviceFromJson (entry : Json) : Option PairedDevice := do
  let id ← entry.stringMember "id"
  let pairingMethod ← entry.stringMember "pairingMethod"
  let deviceName ← entry.stringMember "deviceName"
  let userName ← entry.stringMember "userName"
  let passwordEnc ← entry.stringMember "passwordEnc"
  let encryptionKey ← entry.stringMember "encryptionKey"
  let ipAddress ← entry.stringMember "ipAddress"
  let bluetoothAddress ← entry.stringMember "bluetoothAddress"
  let cloudToken ← entry.stringMember "cloudToken"
  let tcpPort ← entry.uint16Member "tcpPort"
  let udpPort ← entry.uint16Member "udpPort"
  let udpManualPort ← entry.uint16Member "udpManualPort"
  let sshServers ← sshMember entry
  return { id, pairingMethod := .fromText pairingMethod, deviceName, userName, passwordEnc,
           encryptionKey, ipAddress, tcpPort, udpPort, udpManualPort, bluetoothAddress, cloudToken,
           sshServers }

/-- `PairedDevicesStorage::Load` on the bytes that were read. -/
def load (lib : JsonLib) (jsonData : Bytes) : List PairedDevice :=
  if jsonData = [] then []
  else match lib.parse jsonData with
  | none => []
  | some json => json.items.filterMap deviceFromJson

/-! ## Writing -/

def SshServer.toJson (server : SshServer) : Json :=
  .obj [("host", .str server.host), ("keyPath", .str server.keyPath),
    ("passwordEnc", .str server.passwordEnc), ("user", .str server.user)]

def PairedDevice.toJson (device : PairedDevice) : Json :=
  .obj [("bluetoothAddress", .str device.bluetoothAddress), ("cloudToken", .str device.cloudToken),
    ("deviceName", .str device.deviceName), ("encryptionKey", .str device.encryptionKey),
    ("id", .str device.id), ("ipAddress", .str device.ipAddress),
    ("pairingMethod", .str device.pairingMethod.toText), ("passwordEnc", .str device.passwordEnc),
    ("sshServers", .arr (device.sshServers.map SshServer.toJson)), ("tcpPort", .int device.tcpPort.toNat),
    ("udpManualPort", .int device.udpManualPort.toNat), ("udpPort", .int device.udpPort.toNat),
    ("userName", .str device.userName)]

/-- The value `SaveDevices` dumps. It starts as `null` and becomes an array with the first
device. -/
def devicesToJson (devices : List PairedDevice) : Json :=
  if devices = [] then .null else .arr (devices.map PairedDevice.toJson)

/-! ## The store -/

/-- `paired_devices.json` (`none` while it does not exist) and `g_Cache`. -/
structure Store where
  file : Option Bytes := none
  cache : List PairedDevice := []
  deriving DecidableEq

/-- What `Shell::ReadBytes` returns; a file that is absent or cannot be read gives no bytes. -/
def Store.readBytes (s : Store) (isRead : Bool) : Bytes := if isRead then s.file.getD [] else []

/-- What `Shell::WriteBytes` does: nothing when the file cannot be opened; opening truncates the
file, and the writing can stop after any number of bytes. -/
inductive WriteOutcome where
  | untouched
  | stopped (n : Nat)
  | written
  deriving DecidableEq, Repr

/-- What the file system answers to one `SaveDevices`. `CreateDir` is missing: its result is not
looked at, and without the directory the file cannot be created. -/
structure SaveIO where
  existsThrows : Bool := false
  isCreated : Bool := true
  write : WriteOutcome := .written
  deriving DecidableEq, Repr

/-- `PairedDevicesStorage::GetDevices`, one section of `g_Mutex`. -/
def getDevices (lib : JsonLib) (isRead : Bool) (s : Store) : List PairedDevice × Store :=
  if s.cache ≠ [] then (s.cache, s)
  else
    let devices := load lib (s.readBytes isRead)
    (devices, { s with cache := devices })

/-- `PairedDevicesStorage::SaveDevices`, one section of `g_Mutex`. All exceptions end in the
handler, which only logs: the caller does not learn of a failure. -/
def saveDevices (lib : JsonLib) (io : SaveIO) (devices : List PairedDevice) (s : Store) : Store :=
  if io.existsThrows = true ∨ (s.file = none ∧ io.isCreated = false) then s
  else
    -- a new file is created before the text is there
    let s := { s with file := some (s.file.getD []) }
    match lib.dump (devicesToJson devices) with
    | none => s
    | some jsonStr =>
        match io.write with
        | .untouched => s
        | .stopped n => { s with file := some (jsonStr.take n) }
        | .written => { file := some jsonStr, cache := devices }

/-- `PairedDevicesStorage::AddDevice`. -/
def addDevice (lib : JsonLib) (isRead : Bool) (io : SaveIO) (device : PairedDevice) (s : Store) :
    Store :=
  let (devices, s) := getDevices lib isRead s
  saveDevices lib io (insert PairedDevice.id device devices) s

/-- `PairedDevicesStorage::RemoveDevice`. -/
def removeDevice (lib : JsonLib) (isRead : Bool) (io : SaveIO) (id : Str) (s : Store) : Store :=
  let (devices, s) := getDevices lib isRead s
  saveDevices lib io (erase PairedDevice.id id devices) s

/-- `PairedDevicesStorage::RemoveDevicesWithMethod`. -/
def removeDevicesWithMethod (lib : JsonLib) (isRead : Bool) (io : SaveIO) (method : PairingMethod)
    (s : Store) : Store :=
  let (devices, s) := getDevices lib isRead s
  saveDevices lib io (devices.filter (fun d => !(d.pairingMethod == method))) s

/-- `PairedDevicesStorage::InvalidateCache`. -/
def invalidateCache (s : Store) : Store := { s with cache := [] }

/-- `PairedDevicesStorage::GetDeviceByID`. -/
def getDeviceByID (lib : JsonLib) (isRead : Bool) (id : Str) (s : Store) :
    Option PairedDevice × Store :=
  let (devices, s) := getDevices lib isRead s
  (devices.find? (fun d => d.id = id), s)

theorem getDevices_of_cache {lib : JsonLib} {s : Store} (h : s.cache ≠ []) (isRead : Bool) :
    getDevices lib isRead s = (s.cache, s) := by
  unfold getDevices
  rw [if_pos h]

theorem getDevices_of_empty {lib : JsonLib} {s : Store} (h : s.cache = []) (isRead : Bool) :
    getDevices lib isRead s =
      (load lib (s.readBytes isRead), { s with cache := load lib (s.readBytes isRead) }) := by
  unfold getDevices
  rw [if_neg (not_not.mpr h)]

/-! ## What is written is read back

A server with neither host nor key path is written but not read. -/

def SshServer.Loadable (server : SshServer) : Prop := ¬ (server.host = [] ∧ server.keyPath = [])

instance (server : SshServer) : Decidable server.Loadable := inferInstanceAs (Decidable (¬ _))

/-- A device as `Load` gives it back. -/
def PairedDevice.reloaded (device : PairedDevice) : PairedDevice :=
  { device with sshServers := device.sshServers.filter (fun s => decide s.Loadable) }

theorem PairingMethod.fromText_toText (method : PairingMethod) :
    PairingMethod.fromText method.toText = method := by
  cases method <;> decide

theorem asUInt16_toNat (n : UInt16) : (Json.int n.toNat).asUInt16 = some n := by
  have h := n.toNat_lt
  have hmod : ((n.toNat : Int) % 65536).toNat = n.toNat := by omega
  rw [Json.asUInt16, hmod, UInt16.ofNat_toNat]

theorem sshServersFromJson_toJson (servers : List SshServer) :
    sshServersFromJson (servers.map SshServer.toJson) =
      some (servers.filter (fun s => decide s.Loadable)) := by
  induction servers with
  | nil => rfl
  | cons server servers ih =>
      rw [List.map_cons, SshServer.toJson, sshServersFromJson]
      simp only [stringValue, List.lookup_cons, Json.asString, ih, Option.bind_eq_bind, Option.bind_some,
        String.reduceBEq]
      by_cases h : server.Loadable
      · rw [if_neg h, List.filter_cons_of_pos (by simp [h])]
        rfl
      · rw [if_pos (not_not.mp h), List.filter_cons_of_neg (by simp [h])]
        rfl

theorem deviceFromJson_toJson (device : PairedDevice) :
    deviceFromJson device.toJson = some device.reloaded := by
  unfold deviceFromJson PairedDevice.toJson
  simp only [Json.stringMember, Json.uint16Member, Json.member, sshMember, List.lookup_cons,
    String.reduceBEq, Option.getD_some, Option.bind_some, Json.asString, asUInt16_toNat,
    sshServersFromJson_toJson, PairingMethod.fromText_toText, Option.bind_eq_bind]
  rfl

theorem items_devicesToJson (devices : List PairedDevice) :
    (devicesToJson devices).items = devices.map PairedDevice.toJson := by
  unfold devicesToJson
  by_cases h : devices = []
  · rw [if_pos h, h]
    rfl
  · rw [if_neg h]
    rfl

/-- What the JSON library has to do for the store: read what it printed, and refuse an empty
text. -/
structure JsonLib.Reads (lib : JsonLib) : Prop where
  roundTrips : lib.RoundTrips
  parse_nil : lib.parse [] = none

theorem JsonLib.Reads.ne_nil {lib : JsonLib} (h : lib.Reads) {j : Json} {text : Str}
    (hdump : lib.dump j = some text) : text ≠ [] := by
  intro hnil
  subst hnil
  have hparse := h.roundTrips j [] hdump
  rw [h.parse_nil] at hparse
  cases hparse

theorem load_dump {lib : JsonLib} (h : lib.Reads) {devices : List PairedDevice} {text : Str}
    (hdump : lib.dump (devicesToJson devices) = some text) :
    load lib text = devices.map PairedDevice.reloaded := by
  unfold load
  rw [if_neg (h.ne_nil hdump), h.roundTrips _ _ hdump]
  show (devicesToJson devices).items.filterMap deviceFromJson = _
  have hcomp : deviceFromJson ∘ PairedDevice.toJson = some ∘ PairedDevice.reloaded :=
    funext deviceFromJson_toJson
  rw [items_devicesToJson, List.filterMap_map, hcomp, List.filterMap_eq_map]

/-- A list that `dump` prints, with servers that `Load` reads. `dump` throws only on strings
that are not valid UTF-8. -/
structure Writable (lib : JsonLib) (devices : List PairedDevice) : Prop where
  printed : ∃ text, lib.dump (devicesToJson devices) = some text
  servers : ∀ d ∈ devices, ∀ s ∈ d.sshServers, s.Loadable

theorem PairedDevice.reloaded_eq {device : PairedDevice}
    (h : ∀ s ∈ device.sshServers, s.Loadable) : device.reloaded = device := by
  have hfilter : device.sshServers.filter (fun s => decide s.Loadable) = device.sshServers :=
    List.filter_eq_self.mpr (fun s hs => decide_eq_true (h s hs))
  unfold PairedDevice.reloaded
  rw [hfilter]

theorem Writable.load_eq {lib : JsonLib} (h : lib.Reads) {devices : List PairedDevice}
    (hw : Writable lib devices) {text : Str} (hdump : lib.dump (devicesToJson devices) = some text) :
    load lib text = devices := by
  rw [load_dump h hdump]
  conv_rhs => rw [← List.map_id devices]
  exact List.map_congr_left (fun d hd => PairedDevice.reloaded_eq (hw.servers d hd))

theorem Writable.of_test {lib : JsonLib} {devices : List PairedDevice}
    (h : ((lib.dump (devicesToJson devices)).isSome &&
      devices.all (fun d => d.sshServers.all (fun s => decide s.Loadable))) = true) :
    Writable lib devices := by
  obtain ⟨hdump, hservers⟩ := Bool.and_eq_true_iff.mp h
  refine ⟨Option.isSome_iff_exists.mp hdump, ?_⟩
  intro d hd s hs
  have hall := List.all_eq_true.mp hservers d hd
  exact of_decide_eq_true (List.all_eq_true.mp hall s hs)

/-! ## Two devices -/

namespace Sample

/-- A phone with an SSH server, and a tablet. -/
def phone : PairedDevice :=
  { id := str "p", pairingMethod := .udp, deviceName := str "Phone", userName := str "u"
    passwordEnc := str "00", encryptionKey := str "k", ipAddress := str "10.0.0.2", udpPort := 43298
    sshServers := [{ host := str "h", user := str "r", passwordEnc := str "01" }] }

def tablet : PairedDevice := { id := str "t", deviceName := str "Tablet", tcpPort := 43299 }

def quoted (s : Str) : Str := str "\"" ++ s ++ str "\""

def memberText (key : String) (value : Str) : Str := quoted (str key) ++ str ":" ++ value

def joined (texts : List Str) : Str := (str ",").intercalate texts

def objectText (members : List Str) : Str := str "\x7b" ++ joined members ++ str "\x7d"

def arrayText (elements : List Str) : Str := str "[" ++ joined elements ++ str "]"

def numberText (n : Nat) : Str := (Nat.toDigits 10 n).map (fun c => c.toNat.toUInt8)

/-- The text of a server, and of a device, whose strings need no escapes. -/
def serverText (s : SshServer) : Str :=
  objectText [memberText "host" (quoted s.host), memberText "keyPath" (quoted s.keyPath),
    memberText "passwordEnc" (quoted s.passwordEnc), memberText "user" (quoted s.user)]

def deviceText (d : PairedDevice) : Str :=
  objectText [memberText "bluetoothAddress" (quoted d.bluetoothAddress),
    memberText "cloudToken" (quoted d.cloudToken), memberText "deviceName" (quoted d.deviceName),
    memberText "encryptionKey" (quoted d.encryptionKey), memberText "id" (quoted d.id),
    memberText "ipAddress" (quoted d.ipAddress),
    memberText "pairingMethod" (quoted d.pairingMethod.toText),
    memberText "passwordEnc" (quoted d.passwordEnc),
    memberText "sshServers" (arrayText (d.sshServers.map serverText)),
    memberText "tcpPort" (numberText d.tcpPort.toNat),
    memberText "udpManualPort" (numberText d.udpManualPort.toNat),
    memberText "udpPort" (numberText d.udpPort.toNat), memberText "userName" (quoted d.userName)]

def phoneText : Str := deviceText phone

def tabletText : Str := deviceText tablet

/-- The lists of these devices that occur, and their texts. -/
def storeTable : List (Json × Str) :=
  [(devicesToJson [], str "null"),
    (devicesToJson [phone], arrayText [phoneText]),
    (devicesToJson [tablet], arrayText [tabletText]),
    (devicesToJson [phone, tablet], arrayText [phoneText, tabletText]),
    (devicesToJson [tablet, phone], arrayText [tabletText, phoneText])]

def storeJson : JsonLib := .ofTable storeTable

theorem storeJson_reads : storeJson.Reads where
  roundTrips := JsonLib.ofTable_roundTrips (by decide +kernel)
  parse_nil := by decide +kernel

end Sample

end PcbuDesktop
