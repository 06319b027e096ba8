import PcbuDesktop.Lib.Runs
import PcbuDesktop.Basic.JsonTable
import PcbuDesktop.Storage.PairedDevices

set_option autoImplicit false

/-! # The settings and their cache

`AppSettings` (`storage/AppSettings.cpp`) keeps the settings in `app_settings.json` and in
`g_Cache`; the cache counts as filled when its `machineID` is not empty. `Load` gives the settings
of the file. Where there is no file, or none that can be read, it gives defaults with a new random
`machineID`, which it writes only if there was no file.

`apple` is the platform the program is compiled for. What the file system answers and what
`RandomString` draws are arguments of each operation.
-/

namespace PcbuDesktop

open Runs

structure PCBUAppStorage where
  machineID : Str := []
  installedVersion : Str := []
  language : Str := []
  serverIP : Str := []
  serverMAC : Str := []
  pairingDiscoveryPort : UInt16 := 0
  pairingServerPort : UInt16 := 0
  unlockServerPort : UInt16 := 0
  clientSocketTimeout : UInt32 := 0
  clientConnectTimeout : UInt32 := 0
  clientConnectRetries : UInt32 := 0
  unlockBehavior : Str := []
  winHidePasswordField : Bool := false
  winForceDefaultCredProv : Bool := false
  unixSetPasswordPAM : Bool := false
  macLoginScreen : Bool := false
  deriving DecidableEq, Repr

/-! ## Members with defaults -/

/-- The conversion to `uint32_t`: a number or a truth value is cast, anything else throws. -/
def Json.asUInt32 : Json → Option UInt32
  | .int i => some (UInt32.ofNat (i % 4294967296).toNat)
  | .float q => some (UInt32.ofNat ((if 0 ≤ q then q.floor else q.ceil) % 4294967296).toNat)
  | .bool b => some (if b then 1 else 0)
  | _ => none

/-- `json.value(key, default)`: the default where the key is missing; a value of another type, and
a JSON value that is no object, throw. -/
def Json.value {α : Type} (convert : Json → Option α) (key : String) (default : α) :
    Json → Option α
  | .obj fields =>
      match fields.lookup key with
      | none => some default
      | some v => convert v
  | _ => none

/-- `json.contains(key)`. -/
def Json.contains (key : String) : Json → Bool
  | .obj fields => (fields.lookup key).isSome
  | _ => false

namespace AppSettings

/-! ## Loading -/

/-- `AppSettings::LoadDefaults`, with the text `RandomString(32)` draws. -/
def loadDefaults (apple : Bool) (machineID : Str) : PCBUAppStorage :=
  { machineID := machineID
    language := str "auto"
    serverIP := str "auto"
    pairingDiscoveryPort := 43297
    pairingServerPort := 43295
    unlockServerPort := 43296
    clientSocketTimeout := 120
    clientConnectTimeout := 5
    clientConnectRetries := 2
    unlockBehavior := str "key_press_lock_only"
    winHidePasswordField := false
    winForceDefaultCredProv := true
    unixSetPasswordPAM := apple
    macLoginScreen := true }

/-- The `try` block of `Load` up to the write: the settings of a parsed file, `none` where a member
throws. -/
def settingsFromJson (apple : Bool) (defaults : PCBUAppStorage) (json : Json) :
    Option PCBUAppStorage := do
  let machineID ← json.value Json.asString "machineID" defaults.machineID
  let installedVersion ← json.value Json.asString "installedVersion" defaults.installedVersion
  let language ← json.value Json.asString "language" defaults.language
  let serverIP ← json.value Json.asString "serverIP" defaults.serverIP
  let serverMAC ← json.value Json.asString "serverMAC" defaults.serverMAC
  let pairingDiscoveryPort ←
    json.value Json.asUInt16 "pairingDiscoveryPort" defaults.pairingDiscoveryPort
  let pairingServerPort ← json.value Json.asUInt16 "pairingServerPort" defaults.pairingServerPort
  let unlockServerPort ← json.value Json.asUInt16 "unlockServerPort" defaults.unlockServerPort
  let clientSocketTimeout ←
    json.value Json.asUInt32 "clientSocketTimeout" defaults.clientSocketTimeout
  let clientConnectTimeout ←
    json.value Json.asUInt32 "clientConnectTimeout" defaults.clientConnectTimeout
  let clientConnectRetries ←
    json.value Json.asUInt32 "clientConnectRetries" defaults.clientConnectRetries
  -- the default of the new member is the value of the old one
  let winUnlockBehavior ← json.value Json.asString "winUnlockBehavior" defaults.unlockBehavior
  let unlockBehavior ← json.value Json.asString "unlockBehavior" winUnlockBehavior
  let winHidePasswordField ←
    json.value Json.asBool "winHidePasswordField" defaults.winHidePasswordField
  let winForceDefaultCredProv ←
    json.value Json.asBool "winForceDefaultCredProv" defaults.winForceDefaultCredProv
  let unixSetPasswordPAM ←
    if apple then some true
    else json.value Json.asBool "unixSetPasswordPAM" defaults.unixSetPasswordPAM
  let macLoginScreen ← json.value Json.asBool "macLoginScreen" defaults.macLoginScreen
  return { machineID, installedVersion, language, serverIP, serverMAC, pairingDiscoveryPort,
           pairingServerPort, unlockServerPort, clientSocketTimeout, clientConnectTimeout,
           clientConnectRetries, unlockBehavior, winHidePasswordField, winForceDefaultCredProv,
           unixSetPasswordPAM, macLoginScreen }

/-- The value that `Write` dumps. -/
def toJson (storage : PCBUAppStorage) : Json :=
  .obj [("clientConnectRetries", .int storage.clientConnectRetries.toNat),
    ("clientConnectTimeout", .int storage.clientConnectTimeout.toNat),
    ("clientSocketTimeout", .int storage.clientSocketTimeout.toNat),
    ("installedVersion", .str storage.installedVersion), ("language", .str storage.language),
    ("macLoginScreen", .bool storage.macLoginScreen), ("machineID", .str storage.machineID),
    ("pairingDiscoveryPort", .int storage.pairingDiscoveryPort.toNat),
    ("pairingServerPort", .int storage.pairingServerPort.toNat),
    ("serverIP", .str storage.serverIP), ("serverMAC", .str storage.serverMAC),
    ("unixSetPasswordPAM", .bool storage.unixSetPasswordPAM),
    ("unlockBehavior", .str storage.unlockBehavior),
    ("unlockServerPort", .int storage.unlockServerPort.toNat),
    ("winForceDefaultCredProv", .bool storage.winForceDefaultCredProv),
    ("winHidePasswordField", .bool storage.winHidePasswordField)]

/-- `AppSettings::Write`: the file afterwards. Neither an exception nor the result of `WriteBytes`
reaches the caller. -/
def write (lib : JsonLib) (outcome : WriteOutcome) (storage : PCBUAppStorage)
    (file : Option Bytes) : Option Bytes :=
  match lib.dump (toJson storage) with
  | none => file
  | some jsonStr =>
      match outcome with
      | .untouched => file
      | .stopped n => some (jsonStr.take n)
      | .written => some jsonStr

/-- What `Load` meets: the texts its two calls of `LoadDefaults` draw, whether the file can be
read, and what becomes of a write. -/
structure LoadInput where
  machineID : Str
  fallbackID : Str
  isRead : Bool := true
  write : WriteOutcome := .written
  deriving DecidableEq, Repr

/-- `AppSettings::Load`: the settings, and the file afterwards. -/
def load (apple : Bool) (lib : JsonLib) (input : LoadInput) (file : Option Bytes) :
    PCBUAppStorage × Option Bytes :=
  let defaults := loadDefaults apple input.machineID
  match file with
  | none => (defaults, write lib input.write defaults none)
  | some bytes =>
      let jsonData := if input.isRead then bytes else []
      if jsonData = [] then (defaults, some bytes)
      else
        match lib.parse jsonData with
        | none => (loadDefaults apple input.fallbackID, some bytes)
        | some json =>
            match settingsFromJson apple defaults json with
            | none => (loadDefaults apple input.fallbackID, some bytes)
            | some settings =>
                (settings, if json.contains "machineID" then some bytes
                  else write lib input.write settings (some bytes))

end AppSettings

/-! ## The cache -/

/-- `app_settings.json` (`none` while it does not exist) and `g_Cache`. -/
structure AppSettings where
  file : Option Bytes := none
  cache : PCBUAppStorage := {}
  deriving DecidableEq

namespace AppSettings

/-- `AppSettings::Get`. -/
def get (apple : Bool) (lib : JsonLib) (input : LoadInput) (s : AppSettings) :
    PCBUAppStorage × AppSettings :=
  if s.cache.machineID ≠ [] then (s.cache, s)
  else
    let (settings, file) := load apple lib input s.file
    (settings, { file := file, cache := settings })

/-- `AppSettings::Save`. -/
def save (lib : JsonLib) (outcome : WriteOutcome) (storage : PCBUAppStorage) (s : AppSettings) :
    AppSettings :=
  { file := write lib outcome storage s.file, cache := storage }

/-- `AppSettings::InvalidateCache`. -/
def invalidateCache (s : AppSettings) : AppSettings := { s with cache := {} }

inductive Call where
  | get (input : LoadInput)
  | save (storage : PCBUAppStorage) (outcome : WriteOutcome)
  | invalidateCache

/-- One call. -/
def step (apple : Bool) (lib : JsonLib) (s : AppSettings) : Call → Option AppSettings
  | .get input => some (s.get apple lib input).2
  | .save storage outcome => some (s.save lib outcome storage)
  | .invalidateCache => some s.invalidateCache

/-! ## What is written is read back -/

theorem asUInt32_toNat (n : UInt32) : (Json.int n.toNat).asUInt32 = some n := by
  have h := n.toNat_lt
  have hmod : ((n.toNat : Int) % 4294967296).toNat = n.toNat := by omega
  rw [Json.asUInt32, hmod, UInt32.ofNat_toNat]

/-- On Apple systems the PAM switch is always on when settings are loaded. -/
def reloaded (apple : Bool) (storage : PCBUAppStorage) : PCBUAppStorage :=
  { storage with unixSetPasswordPAM := apple || storage.unixSetPasswordPAM }

theorem settingsFromJson_toJson (apple : Bool) (defaults storage : PCBUAppStorage) :
    settingsFromJson apple defaults (toJson storage) = some (reloaded apple storage) := by
  unfold settingsFromJson toJson
  simp only [Json.value, List.lookup_cons, String.reduceBEq, Json.asString, asUInt16_toNat,
    asUInt32_toNat, Json.asBool, Option.bind_eq_bind, Option.bind_some]
  cases apple <;> rfl

/-- Only a missing `machineID` makes the settings depend on the draw. -/
theorem settingsFromJson_eq {apple : Bool} {json : Json} (h : json.contains "machineID" = true)
    (r r' : Str) : settingsFromJson apple (loadDefaults apple r) json =
      settingsFromJson apple (loadDefaults apple r') json := by
  have hvalue : json.value Json.asString "machineID" r =
      json.value Json.asString "machineID" r' := by
    unfold Json.contains at h
    unfold Json.value
    split at h
    · next fields =>
        obtain ⟨v, hv⟩ := Option.isSome_iff_exists.mp h
        simp only [hv]
    · cases h
  unfold settingsFromJson
  simp only [loadDefaults, hvalue]

/-- The settings in a file whose JSON value is known. -/
theorem load_parsed {apple : Bool} {lib : JsonLib} {bytes : Bytes} {json : Json}
    {settings : PCBUAppStorage} (hne : bytes ≠ []) (hparse : lib.parse bytes = some json)
    {input : LoadInput} (hread : input.isRead = true)
    (hsettings : settingsFromJson apple (loadDefaults apple input.machineID) json = some settings) :
    load apple lib input (some bytes) = (settings, if json.contains "machineID" then some bytes
      else write lib input.write settings (some bytes)) := by
  unfold load
  simp only [hread, if_true, if_neg hne, hparse, hsettings]

/-- A fresh `Load`, whatever it draws. -/
def FreshLoad (apple : Bool) (lib : JsonLib) (file : Option Bytes) (storage : PCBUAppStorage) :
    Prop :=
  ∀ input : LoadInput, input.isRead = true → (load apple lib input file).1 = storage

/-- The write gets the settings into the file. -/
def WriteSucceeds (lib : JsonLib) (outcome : WriteOutcome) (storage : PCBUAppStorage) : Prop :=
  outcome = .written ∧ ∃ text, lib.dump (toJson storage) = some text

theorem freshLoad_write {apple : Bool} {lib : JsonLib} (hl : lib.Reads) {outcome : WriteOutcome}
    {storage : PCBUAppStorage} (hwrite : WriteSucceeds lib outcome storage)
    (happle : apple = true → storage.unixSetPasswordPAM = true) (file : Option Bytes) :
    FreshLoad apple lib (write lib outcome storage file) storage := by
  obtain ⟨rfl, text, hdump⟩ := hwrite
  have hfile : write lib .written storage file = some text := by
    unfold write
    rw [hdump]
  have hsame : reloaded apple storage = storage := by
    cases apple with
    | false => rfl
    | true =>
        show { storage with unixSetPasswordPAM := true } = storage
        rw [← happle rfl]
  intro input hread
  rw [hfile, load_parsed (hl.ne_nil hdump) (hl.roundTrips _ _ hdump) hread
    (settingsFromJson_toJson apple _ storage), hsame]

/-- What `Load` gives has the switch on, on Apple systems. -/
theorem settingsFromJson_apple {defaults settings : PCBUAppStorage} {json : Json}
    (h : settingsFromJson true defaults json = some settings) :
    settings.unixSetPasswordPAM = true := by
  unfold settingsFromJson at h
  iterate 16 obtain ⟨_, -, h⟩ := Option.bind_eq_some_iff.mp h
  cases h
  rfl

/-! ## Cache and file -/

/-- `Load` finds settings it can read, or gets what it makes up into the file. -/
def LoadSucceeds (apple : Bool) (lib : JsonLib) (input : LoadInput) : Option Bytes → Prop
  | none => WriteSucceeds lib input.write (loadDefaults apple input.machineID)
  | some bytes => input.isRead = true ∧ ∃ json settings, lib.parse bytes = some json ∧
      settingsFromJson apple (loadDefaults apple input.machineID) json = some settings ∧
      (json.contains "machineID" = true ∨ WriteSucceeds lib input.write settings)

/-- The calls after which cache and file agree: a `Save` that is written (with the switch on, on
Apple systems), and a `Get` that finds the cache filled or succeeds to load. -/
def Succeeds (apple : Bool) (lib : JsonLib) (s : AppSettings) : Call → Prop
  | .get input => s.cache.machineID = [] → LoadSucceeds apple lib input s.file
  | .save storage outcome => WriteSucceeds lib outcome storage ∧
      (apple = true → storage.unixSetPasswordPAM = true)
  | .invalidateCache => True

/-- A filled cache is what a fresh `Load` gives. -/
def Agrees (apple : Bool) (lib : JsonLib) (s : AppSettings) : Prop :=
  s.cache.machineID ≠ [] → FreshLoad apple lib s.file s.cache

section

variable {apple : Bool} {lib : JsonLib} {s s' : AppSettings}

/-- After a `Load` that succeeds, every fresh one gives the same. -/
theorem freshLoad_load (hl : lib.Reads) {input : LoadInput} {file : Option Bytes}
    (h : LoadSucceeds apple lib input file) :
    FreshLoad apple lib (load apple lib input file).2 (load apple lib input file).1 := by
  cases file with
  | none =>
      refine freshLoad_write hl h ?_ none
      intro happle
      exact happle
  | some bytes =>
      obtain ⟨hread, json, settings, hparse, hsettings, hkeep⟩ := h
      have hne : bytes ≠ [] := by
        rintro rfl
        rw [hl.parse_nil] at hparse
        cases hparse
      rw [load_parsed hne hparse hread hsettings]
      by_cases hid : json.contains "machineID" = true
      · -- the file is kept, and nothing in it depends on the draw
        rw [if_pos hid]
        intro input' hread'
        rw [settingsFromJson_eq hid _ input'.machineID] at hsettings
        rw [load_parsed hne hparse hread' hsettings]
      · rw [if_neg hid]
        refine freshLoad_write hl (hkeep.resolve_left hid) ?_ (some bytes)
        rintro rfl
        exact settingsFromJson_apple hsettings

theorem agrees_step (hl : lib.Reads) {call : Call} (hs : Agrees apple lib s)
    (hcall : Succeeds apple lib s call) (h : step apple lib s call = some s') :
    Agrees apple lib s' := by
  cases call with
  | get input =>
      cases h
      unfold AppSettings.get
      by_cases hfilled : s.cache.machineID = []
      · rw [if_neg (not_not.mpr hfilled)]
        intro _
        exact freshLoad_load hl (hcall hfilled)
      · rw [if_pos hfilled]
        exact hs
  | save storage outcome =>
      cases h
      intro _
      exact freshLoad_write hl hcall.1 hcall.2 s.file
  | invalidateCache =>
      cases h
      intro hfilled
      exact absurd rfl hfilled

end

/-- **Cache and file agree.** In every run of `Get`, `Save` and `InvalidateCache` from any file and
an empty cache in which the saves are written and the loads succeed, a filled cache is what a fresh
`Load` of the file gives, whatever that draws. -/
theorem settings_cache_agrees (apple : Bool) (lib : JsonLib) (hl : lib.Reads)
    (file : Option Bytes) (calls : List Call) (s : AppSettings)
    (hcalls : Along (step apple lib) (Succeeds apple lib) { file := file } calls)
    (h : exec (step apple lib) { file := file } calls = some s)
    (hfilled : s.cache.machineID ≠ []) (input : LoadInput) (hread : input.isRead = true) :
    (load apple lib input s.file).1 = s.cache := by
  have hstart : Agrees apple lib { file := file } := fun hfilled => absurd rfl hfilled
  have hagrees : Agrees apple lib s :=
    exec_inv_along (fun _ _ _ hs hc hstep => agrees_step hl hs hc hstep) hstart hcalls h
  exact hagrees hfilled input hread

end AppSettings

namespace Sample

open AppSettings

def settings : PCBUAppStorage := loadDefaults false (str "id")

/-- The user changes a port. -/
def editedSettings : PCBUAppStorage := { settings with unlockServerPort := 5000 }

def boolText (b : Bool) : Str := if b then str "true" else str "false"

/-- The text of settings whose strings need no escapes. -/
def settingsText (p : PCBUAppStorage) : Str :=
  objectText [memberText "clientConnectRetries" (numberText p.clientConnectRetries.toNat),
    memberText "clientConnectTimeout" (numberText p.clientConnectTimeout.toNat),
    memberText "clientSocketTimeout" (numberText p.clientSocketTimeout.toNat),
    memberText "installedVersion" (quoted p.installedVersion),
    memberText "language" (quoted p.language),
    memberText "macLoginScreen" (boolText p.macLoginScreen),
    memberText "machineID" (quoted p.machineID),
    memberText "pairingDiscoveryPort" (numberText p.pairingDiscoveryPort.toNat),
    memberText "pairingServerPort" (numberText p.pairingServerPort.toNat),
    memberText "serverIP" (quoted p.serverIP), memberText "serverMAC" (quoted p.serverMAC),
    memberText "unixSetPasswordPAM" (boolText p.unixSetPasswordPAM),
    memberText "unlockBehavior" (quoted p.unlockBehavior),
    memberText "unlockServerPort" (numberText p.unlockServerPort.toNat),
    memberText "winForceDefaultCredProv" (boolText p.winForceDefaultCredProv),
    memberText "winHidePasswordField" (boolText p.winHidePasswordField)]

def settingsTable : List (Json × Str) :=
  [(toJson settings, settingsText settings), (toJson editedSettings, settingsText editedSettings)]

def settingsJson : JsonLib := .ofTable settingsTable

theorem settingsJson_reads : settingsJson.Reads where
  roundTrips := JsonLib.ofTable_roundTrips (by decide +kernel)
  parse_nil := by decide +kernel

/-- Another process, which draws other texts. -/
def freshInput : LoadInput := { machineID := str "r", fallbackID := str "q" }

/-- The settings are read, changed and saved. -/
def editCalls (outcome : WriteOutcome) : List Call :=
  [.get { machineID := str "a", fallbackID := str "b" }, .save editedSettings outcome]

end Sample

namespace AppSettings

/-- The write of a `Save` fails: the cache has the new port, a fresh `Load` the old one. -/
theorem settings_cache_ahead :
    exec (step false Sample.settingsJson) { file := some (Sample.settingsText Sample.settings) }
        (Sample.editCalls .untouched) =
      some ⟨some (Sample.settingsText Sample.settings), Sample.editedSettings⟩ ∧
    Sample.editedSettings.machineID ≠ [] ∧
    (load false Sample.settingsJson Sample.freshInput
      (some (Sample.settingsText Sample.settings))).1 ≠ Sample.editedSettings := by
  decide +kernel

theorem settings_cache_agrees_sample :
    ∃ s, exec (step false Sample.settingsJson)
        { file := some (Sample.settingsText Sample.settings) } (Sample.editCalls .written) = some s ∧
      (load false Sample.settingsJson Sample.freshInput s.file).1 = s.cache := by
  have hfile : Sample.settingsJson.dump (toJson Sample.settings) =
      some (Sample.settingsText Sample.settings) := by decide +kernel
  have hedited : Sample.settingsJson.dump (toJson Sample.editedSettings) =
      some (Sample.settingsText Sample.editedSettings) := by decide +kernel
  have hrun : exec (step false Sample.settingsJson)
      { file := some (Sample.settingsText Sample.settings) } (Sample.editCalls .written) =
        some ⟨some (Sample.settingsText Sample.editedSettings), Sample.editedSettings⟩ := by
    decide +kernel
  refine ⟨_, hrun, settings_cache_agrees false Sample.settingsJson Sample.settingsJson_reads _ _ _
    ?_ hrun (by decide) Sample.freshInput rfl⟩
  refine ⟨?_, fun s hs => ⟨⟨⟨rfl, _, hedited⟩, fun h => by cases h⟩, fun _ _ => trivial⟩⟩
  intro _
  exact ⟨rfl, _, _, Sample.settingsJson_reads.roundTrips _ _ hfile,
    settingsFromJson_toJson false _ _, Or.inl rfl⟩

end AppSettings

end PcbuDesktop
