import PcbuDesktop.Storage.AppSettings

set_option autoImplicit false

/-! # The machine id

The ids of all paired devices are hashed from `machineID`, so it must not change. `Load` reads
sixteen members of the settings file in one `try` block: a single member of another type makes it
give up all of them, and a new random `machineID` stands in the cache, from where the next `Save`
puts it into the file.
-/

namespace PcbuDesktop

open Runs

namespace AppSettings

/-! ## What `Load` reads besides the machine id -/

def stringMembers : List String :=
  ["installedVersion", "language", "serverIP", "serverMAC", "winUnlockBehavior", "unlockBehavior"]

def uint16Members : List String := ["pairingDiscoveryPort", "pairingServerPort", "unlockServerPort"]

def uint32Members : List String :=
  ["clientSocketTimeout", "clientConnectTimeout", "clientConnectRetries"]

/-- On Apple systems the PAM switch is not read. -/
def boolMembers (apple : Bool) : List String :=
  ["winHidePasswordField", "winForceDefaultCredProv", "macLoginScreen"] ++
    (if apple then [] else ["unixSetPasswordPAM"])

/-- The members with these names are missing or can be converted. -/
def MembersConvert {α : Type} (convert : Json → Option α) (keys : List String)
    (fields : List (String × Json)) : Prop :=
  ∀ key ∈ keys, ∀ v, fields.lookup key = some v → (convert v).isSome

/-- Every member besides the machine id is missing or has the type it is read with. -/
structure OthersConvert (apple : Bool) (fields : List (String × Json)) : Prop where
  strings : MembersConvert Json.asString stringMembers fields
  uint16s : MembersConvert Json.asUInt16 uint16Members fields
  uint32s : MembersConvert Json.asUInt32 uint32Members fields
  bools : MembersConvert Json.asBool (boolMembers apple) fields

section

variable {α : Type} {convert : Json → Option α} {keys : List String} {fields : List (String × Json)}

theorem value_eq_some_of_converts (h : MembersConvert convert keys fields) {key : String}
    (hkey : key ∈ keys) (default : α) : ∃ a, (Json.obj fields).value convert key default = some a := by
  cases hlookup : fields.lookup key with
  | none => exact ⟨default, by simp only [Json.value, hlookup]⟩
  | some v =>
      obtain ⟨a, ha⟩ := Option.isSome_iff_exists.mp (h key hkey v hlookup)
      exact ⟨a, by simp only [Json.value, hlookup, ha]⟩

theorem isSome_of_value {key : String} {v : Json} {default a : α}
    (h : (Json.obj fields).value convert key default = some a) (hv : fields.lookup key = some v) :
    (convert v).isSome := by
  have hconvert : convert v = some a := by
    unfold Json.value at h
    simpa only [hv] using h
  rw [hconvert]
  rfl

/-- The machine id of a file that has one as a string. -/
theorem value_machineID {id : Str} (h : fields.lookup "machineID" = some (.str id)) (default : Str) :
    (Json.obj fields).value Json.asString "machineID" default = some id := by
  unfold Json.value
  simp only [h, Json.asString]

end

section

variable {apple : Bool} {fields : List (String × Json)} {id : Str}

theorem settingsFromJson_of_convert (hid : fields.lookup "machineID" = some (.str id))
    (h : OthersConvert apple fields) (defaults : PCBUAppStorage) :
    ∃ settings, settingsFromJson apple defaults (.obj fields) = some settings ∧
      settings.machineID = id := by
  have hstr (key : String) (hkey : key ∈ stringMembers) (default : Str) :=
    value_eq_some_of_converts h.strings hkey default
  have hport (key : String) (hkey : key ∈ uint16Members) (default : UInt16) :=
    value_eq_some_of_converts h.uint16s hkey default
  have htime (key : String) (hkey : key ∈ uint32Members) (default : UInt32) :=
    value_eq_some_of_converts h.uint32s hkey default
  have hbool (key : String) (hkey : key ∈ boolMembers apple) (default : Bool) :=
    value_eq_some_of_converts h.bools hkey default
  obtain ⟨a1, h1⟩ := hstr "installedVersion" (by decide) defaults.installedVersion
  obtain ⟨a2, h2⟩ := hstr "language" (by decide) defaults.language
  obtain ⟨a3, h3⟩ := hstr "serverIP" (by decide) defaults.serverIP
  obtain ⟨a4, h4⟩ := hstr "serverMAC" (by decide) defaults.serverMAC
  obtain ⟨a5, h5⟩ := hport "pairingDiscoveryPort" (by decide) defaults.pairingDiscoveryPort
  obtain ⟨a6, h6⟩ := hport "pairingServerPort" (by decide) defaults.pairingServerPort
  obtain ⟨a7, h7⟩ := hport "unlockServerPort" (by decide) defaults.unlockServerPort
  obtain ⟨a8, h8⟩ := htime "clientSocketTimeout" (by decide) defaults.clientSocketTimeout
  obtain ⟨a9, h9⟩ := htime "clientConnectTimeout" (by decide) defaults.clientConnectTimeout
  obtain ⟨a10, h10⟩ := htime "clientConnectRetries" (by decide) defaults.clientConnectRetries
  obtain ⟨a11, h11⟩ := hstr "winUnlockBehavior" (by decide) defaults.unlockBehavior
  obtain ⟨a12, h12⟩ := hstr "unlockBehavior" (by decide) a11
  obtain ⟨a13, h13⟩ := hbool "winHidePasswordField" (by simp [boolMembers])
    defaults.winHidePasswordField
  obtain ⟨a14, h14⟩ := hbool "winForceDefaultCredProv" (by simp [boolMembers])
    defaults.winForceDefaultCredProv
  obtain ⟨a16, h16⟩ := hbool "macLoginScreen" (by simp [boolMembers]) defaults.macLoginScreen
  unfold settingsFromJson
  simp only [value_machineID hid, h1, h2, h3, h4, h5, h6, h7, h8, h9, h10, h11, h12, h13, h14, h16,
    Option.bind_eq_bind, Option.bind_some]
  cases apple with
  | true => exact ⟨_, rfl, rfl⟩
  | false =>
      obtain ⟨b, hb⟩ := hbool "unixSetPasswordPAM" (by decide) defaults.unixSetPasswordPAM
      simp only [Bool.false_eq_true, if_false, hb, Option.bind_some]
      exact ⟨_, rfl, rfl⟩

theorem convert_of_settingsFromJson {defaults settings : PCBUAppStorage}
    (h : settingsFromJson apple defaults (.obj fields) = some settings) :
    OthersConvert apple fields := by
  unfold settingsFromJson at h
  obtain ⟨_, -, h⟩ := Option.bind_eq_some_iff.mp h
  obtain ⟨_, h1, h⟩ := Option.bind_eq_some_iff.mp h
  obtain ⟨_, h2, h⟩ := Option.bind_eq_some_iff.mp h
  obtain ⟨_, h3, h⟩ := Option.bind_eq_some_iff.mp h
  obtain ⟨_, h4, h⟩ := Option.bind_eq_some_iff.mp h
  obtain ⟨_, h5, h⟩ := Option.bind_eq_some_iff.mp h
  obtain ⟨_, h6, h⟩ := Option.bind_eq_some_iff.mp h
  obtain ⟨_, h7, h⟩ := Option.bind_eq_some_iff.mp h
  obtain ⟨_, h8, h⟩ := Option.bind_eq_some_iff.mp h
  obtain ⟨_, h9, h⟩ := Option.bind_eq_some_iff.mp h
  obtain ⟨_, h10, h⟩ := Option.bind_eq_some_iff.mp h
  obtain ⟨_, h11, h⟩ := Option.bind_eq_some_iff.mp h
  obtain ⟨_, h12, h⟩ := Option.bind_eq_some_iff.mp h
  obtain ⟨_, h13, h⟩ := Option.bind_eq_some_iff.mp h
  obtain ⟨_, h14, h⟩ := Option.bind_eq_some_iff.mp h
  have hpam : apple = false → ∃ b, (Json.obj fields).value Json.asBool "unixSetPasswordPAM"
      defaults.unixSetPasswordPAM = some b := by
    rintro rfl
    obtain ⟨b, hb, -⟩ := Option.bind_eq_some_iff.mp h
    exact ⟨b, hb⟩
  have hmac : ∃ b, (Json.obj fields).value Json.asBool "macLoginScreen" defaults.macLoginScreen =
      some b := by
    cases apple with
    | true =>
        obtain ⟨b, hb, -⟩ := Option.bind_eq_some_iff.mp h
        exact ⟨b, hb⟩
    | false =>
        obtain ⟨_, -, h⟩ := Option.bind_eq_some_iff.mp h
        obtain ⟨b, hb, -⟩ := Option.bind_eq_some_iff.mp h
        exact ⟨b, hb⟩
  constructor
  · intro key hkey v hv
    simp only [stringMembers, List.mem_cons, List.not_mem_nil, or_false] at hkey
    rcases hkey with rfl | rfl | rfl | rfl | rfl | rfl
    · exact isSome_of_value h1 hv
    · exact isSome_of_value h2 hv
    · exact isSome_of_value h3 hv
    · exact isSome_of_value h4 hv
    · exact isSome_of_value h11 hv
    · exact isSome_of_value h12 hv
  · intro key hkey v hv
    simp only [uint16Members, List.mem_cons, List.not_mem_nil, or_false] at hkey
    rcases hkey with rfl | rfl | rfl
    · exact isSome_of_value h5 hv
    · exact isSome_of_value h6 hv
    · exact isSome_of_value h7 hv
  · intro key hkey v hv
    simp only [uint32Members, List.mem_cons, List.not_mem_nil, or_false] at hkey
    rcases hkey with rfl | rfl | rfl
    · exact isSome_of_value h8 hv
    · exact isSome_of_value h9 hv
    · exact isSome_of_value h10 hv
  · intro key hkey v hv
    simp only [boolMembers, List.cons_append, List.nil_append, List.mem_cons] at hkey
    rcases hkey with rfl | rfl | rfl | hswitch
    · exact isSome_of_value h13 hv
    · exact isSome_of_value h14 hv
    · obtain ⟨b, hb⟩ := hmac
      exact isSome_of_value hb hv
    · by_cases happle : apple = true
      · rw [if_pos happle] at hswitch
        cases hswitch
      · rw [if_neg happle, List.mem_singleton] at hswitch
        subst hswitch
        obtain ⟨b, hb⟩ := hpam (by simpa using happle)
        exact isSome_of_value hb hv

end

/-! ## Runs that keep the machine id -/

/-- A user of the settings: reads them, saves what it read with other fields changed, or drops the
cache. Nothing fails: the file is read and writes are made. -/
inductive Use where
  | get (machineID fallbackID : Str)
  | edit (machineID fallbackID : Str) (change : PCBUAppStorage → PCBUAppStorage)
  | invalidateCache

/-- What a `Load` meets when nothing fails. -/
def readable (machineID fallbackID : Str) : LoadInput := { machineID, fallbackID }

/-- The settings with other fields changed. -/
def changed (change : PCBUAppStorage → PCBUAppStorage) (storage : PCBUAppStorage) : PCBUAppStorage :=
  { change storage with machineID := storage.machineID }

/-- The calls of a use, in the state in which it begins. -/
def useCalls (apple : Bool) (lib : JsonLib) (s : AppSettings) : Use → List Call
  | .get machineID fallbackID => [.get (readable machineID fallbackID)]
  | .edit machineID fallbackID change =>
      let input := readable machineID fallbackID
      [.get input, .save (changed change (s.get apple lib input).1) .written]
  | .invalidateCache => [.invalidateCache]

def useStep (apple : Bool) (lib : JsonLib) (s : AppSettings) (u : Use) : Option AppSettings :=
  exec (step apple lib) s (useCalls apple lib s u)

/-- The file has the id, and `Load` reads it: this is what a use keeps. -/
def Stores (apple : Bool) (lib : JsonLib) (id : Str) (file : Option Bytes) : Prop :=
  ∃ bytes fields, file = some bytes ∧ lib.parse bytes = some (.obj fields) ∧
    fields.lookup "machineID" = some (.str id) ∧ OthersConvert apple fields

/-- The cache is empty or has the id. -/
def Keeps (apple : Bool) (lib : JsonLib) (id : Str) (s : AppSettings) : Prop :=
  Stores apple lib id s.file ∧ (s.cache.machineID = [] ∨ s.cache.machineID = id)

section

variable {apple : Bool} {lib : JsonLib} {id : Str} {s s' : AppSettings}

theorem load_stores (hl : lib.Reads) {file : Option Bytes} (h : Stores apple lib id file)
    (r q : Str) : (load apple lib (readable r q) file).1.machineID = id ∧
      (load apple lib (readable r q) file).2 = file := by
  obtain ⟨bytes, fields, rfl, hparse, hid, hothers⟩ := h
  have hne : bytes ≠ [] := by
    rintro rfl
    rw [hl.parse_nil] at hparse
    cases hparse
  obtain ⟨settings, hsettings, hsame⟩ := settingsFromJson_of_convert hid hothers (loadDefaults apple r)
  have hcontains : (Json.obj fields).contains "machineID" = true := by
    show (fields.lookup "machineID").isSome = true
    rw [hid]
    rfl
  have hread : (readable r q).isRead = true := rfl
  rw [load_parsed hne hparse hread hsettings, if_pos hcontains]
  exact ⟨hsame, rfl⟩

theorem get_keeps (hl : lib.Reads) (h : Keeps apple lib id s) (r q : Str) :
    (s.get apple lib (readable r q)).1.machineID = id ∧
      Keeps apple lib id (s.get apple lib (readable r q)).2 := by
  obtain ⟨hid, hfile⟩ := load_stores hl h.1 r q
  unfold AppSettings.get
  by_cases hcache : s.cache.machineID = []
  · rw [if_neg (not_not.mpr hcache)]
    refine ⟨hid, ?_, Or.inr hid⟩
    show Stores apple lib id (load apple lib (readable r q) s.file).2
    rw [hfile]
    exact h.1
  · rw [if_pos hcache]
    exact ⟨h.2.resolve_left hcache, h⟩

/-- The members that `Write` dumps can all be read. -/
theorem stores_dump (hl : lib.Reads) {storage : PCBUAppStorage} (hid : storage.machineID = id)
    {text : Bytes} (h : lib.dump (toJson storage) = some text) : Stores apple lib id (some text) := by
  have hread : settingsFromJson apple {} (toJson storage) = some (reloaded apple storage) :=
    settingsFromJson_toJson apple {} storage
  refine ⟨text, _, rfl, hl.roundTrips _ _ h, ?_, convert_of_settingsFromJson hread⟩
  rw [← hid]
  rfl

theorem save_keeps (hl : lib.Reads) {storage : PCBUAppStorage} (h : Stores apple lib id s.file)
    (hid : storage.machineID = id) : Keeps apple lib id (s.save lib .written storage) := by
  refine ⟨?_, Or.inr hid⟩
  show Stores apple lib id (write lib .written storage s.file)
  unfold write
  cases hdump : lib.dump (toJson storage) with
  | none => exact h -- an exception of `dump` leaves the file
  | some text => exact stores_dump hl hid hdump

theorem use_keeps (hl : lib.Reads) {u : Use} (h : Keeps apple lib id s)
    (hstep : useStep apple lib s u = some s') : Keeps apple lib id s' := by
  cases u with
  | get r q =>
      cases hstep
      exact (get_keeps hl h r q).2
  | edit r q change =>
      cases hstep
      obtain ⟨hid, hkeeps⟩ := get_keeps hl h r q
      exact save_keeps hl hkeeps.1 hid
  | invalidateCache =>
      cases hstep
      exact ⟨h.1, Or.inl rfl⟩

end

/-- **The machine id is stable exactly if all other members can be read.** For a file that has the
id as a string: every `Get` of every run gives that id, whatever is drawn, if and only if every
other member that `Load` reads is missing or has its type. -/
theorem machineID_stable_iff (apple : Bool) (lib : JsonLib) (hl : lib.Reads) (bytes : Bytes)
    (fields : List (String × Json)) (id : Str) (hparse : lib.parse bytes = some (.obj fields))
    (hid : fields.lookup "machineID" = some (.str id)) :
    (∀ (uses : List Use) (s : AppSettings),
        exec (useStep apple lib) { file := some bytes } uses = some s →
        ∀ r q, (s.get apple lib (readable r q)).1.machineID = id) ↔
      OthersConvert apple fields := by
  constructor
  · intro hstable
    -- the first `Get`, with a draw other than the id
    have hne : bytes ≠ [] := by
      rintro rfl
      rw [hl.parse_nil] at hparse
      cases hparse
    have hget := hstable [] _ rfl [] (0 :: id)
    cases hsettings : settingsFromJson apple (loadDefaults apple []) (.obj fields) with
    | some settings => exact convert_of_settingsFromJson hsettings
    | none =>
        have hload : load apple lib (readable [] (0 :: id)) (some bytes) =
            (loadDefaults apple (0 :: id), some bytes) := by
          unfold load
          simp only [readable, if_true, if_neg hne, hparse, hsettings]
        have hdrawn : (0 :: id : Str) = id := by
          unfold AppSettings.get at hget
          rw [if_neg (fun h => h rfl), hload] at hget
          exact hget
        exact absurd (congrArg List.length hdrawn) (by simp)
  · intro hothers uses s hrun r q
    have hstart : Keeps apple lib id { file := some bytes } :=
      ⟨⟨bytes, fields, rfl, hparse, hid, hothers⟩, Or.inl rfl⟩
    have hkeeps : Keeps apple lib id s :=
      exec_inv (fun _ _ _ h hstep => use_keeps hl h hstep) hstart hrun
    exact (get_keeps hl hkeeps r q).1

end AppSettings

namespace Sample

open AppSettings

/-- A file in which the language is a number. -/
def mistypedFields : List (String × Json) := [("language", .int 5), ("machineID", .str (str "id"))]

def mistypedText : Str :=
  objectText [memberText "language" (numberText 5), memberText "machineID" (quoted (str "id"))]

/-- The defaults that stand in for the file, with what was drawn. -/
def drawnSettings : PCBUAppStorage := loadDefaults false (str "q")

def mistypedJson : JsonLib :=
  .ofTable [(.obj mistypedFields, mistypedText), (toJson drawnSettings, settingsText drawnSettings)]

theorem mistypedJson_reads : mistypedJson.Reads where
  roundTrips := JsonLib.ofTable_roundTrips (by decide +kernel)
  parse_nil := by decide +kernel

/-- The settings are read and saved as they are, and the cache is dropped. -/
def saveUses : List Use := [.edit (str "r") (str "q") id, .invalidateCache]

end Sample

namespace AppSettings

/-- A language that is no string: the first `Get` gives the random id that was drawn, and once that
has been saved the file's own id is gone for good. -/
theorem machineID_drawn :
    Sample.mistypedJson.parse Sample.mistypedText = some (.obj Sample.mistypedFields) ∧
    Sample.mistypedFields.lookup "machineID" = some (.str (str "id")) ∧
    (get false Sample.mistypedJson (readable (str "r") (str "q"))
      { file := some Sample.mistypedText }).1.machineID ≠ str "id" ∧
    ∃ s, exec (useStep false Sample.mistypedJson) { file := some Sample.mistypedText }
        Sample.saveUses = some s ∧
      (s.get false Sample.mistypedJson (readable (str "x") (str "y"))).1.machineID = str "q" := by
  have hdump : Sample.mistypedJson.dump (.obj Sample.mistypedFields) = some Sample.mistypedText := by
    decide +kernel
  exact ⟨Sample.mistypedJson_reads.roundTrips _ _ hdump, rfl, by decide +kernel,
    exec_of_test (by decide +kernel)⟩

theorem machineID_stable_sample :
    ∃ s, exec (useStep false Sample.settingsJson)
        { file := some (Sample.settingsText Sample.settings) }
        [.edit (str "r") (str "q") (fun p => { p with unlockServerPort := 5000 }),
          .invalidateCache] = some s ∧
      ∀ r q, (s.get false Sample.settingsJson (readable r q)).1.machineID = str "id" := by
  have hdump : Sample.settingsJson.dump (toJson Sample.settings) =
      some (Sample.settingsText Sample.settings) := by decide +kernel
  have hothers := convert_of_settingsFromJson (settingsFromJson_toJson false {} Sample.settings)
  obtain ⟨s, hs, -⟩ : ∃ s, exec (useStep false Sample.settingsJson)
      { file := some (Sample.settingsText Sample.settings) }
      [.edit (str "r") (str "q") (fun p => { p with unlockServerPort := 5000 }),
        .invalidateCache] = some s ∧ True := exec_of_test (by decide +kernel)
  exact ⟨s, hs, (machineID_stable_iff false Sample.settingsJson Sample.settingsJson_reads _ _ _
    (Sample.settingsJson_reads.roundTrips _ _ hdump) rfl).mpr hothers _ _ hs⟩

end AppSettings

end PcbuDesktop
