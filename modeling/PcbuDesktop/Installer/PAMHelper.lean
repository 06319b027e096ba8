import Mathlib.Logic.Function.Basic
import PcbuDesktop.Lib.KeyedList
import PcbuDesktop.Lib.Lines
import PcbuDesktop.Basic.StringUtils
import PcbuDesktop.Storage.PairedDevices

set_option autoImplicit false

/-! # Editing the PAM configuration

`PAMHelper` (`installer/helpers/PAMHelper.cpp`) adds entries to the files in `/etc/pam.d` and removes
them. Its calls only record what shall become of a file, in `m_PendingChanges`; `Commit` writes.

The calls are written over a `ConfigStore`, the four operations they use to look at the files and to
change them. For the program these go through the pending changes (`overlay`). `apple` is the
platform the program is compiled for.
-/

namespace PcbuDesktop

open Lines KeyedList

/-! ## Texts -/

namespace PAMHelper

/-- The first line of a PAM configuration. -/
def header : Str := str "#%PAM-1.0"

/-- `PAM_CONFIG_GEN_ENTRY`. -/
def genEntry : Str := str "## Generated by PulseUnlock"

/-- `PAM_CONFIG_GEN_ENTRY_OLD`. -/
def genEntryOld : Str := str "## Generated by PC Bio Unlock"

/-- The lines that `PAM_CONFIG_GEN_COMMON` ends with. -/
def commonIncludes : List Str :=
  [str "auth include common-auth", str "account include common-account",
    str "password include common-password", str "session include common-session"]

/-- The lines that `PAM_CONFIG_GEN_SYSTEM` ends with. -/
def systemIncludes : List Str :=
  [str "auth include system-auth", str "account include system-auth",
    str "password include system-auth", str "session include system-auth"]

/-- The text of a new file: an empty line, the header, the entry, the mark, an empty line and the
includes. -/
def genConfig (includes : List Str) (entry : Str) : Str :=
  [newline] ++ header ++ [newline] ++ entry ++ [newline] ++ genEntry ++ [newline] ++ [newline] ++
    unlines newline includes

/-- The text of a new file on Apple systems. -/
def genConfigApple (entry : Str) : Str := genEntry ++ [newline] ++ entry ++ [newline]

/-- `PAMHelper::AddEntryToFile`: the new text of the file. -/
def addEntryToFile (fileStr entry : Str) : Str :=
  let hasBegin := contains fileStr (header ++ [newline])
  let begin := if hasBegin then [] else header ++ [newline] ++ (entry ++ [newline])
  let resultStr := (split fileStr [newline]).foldl
    (fun result line =>
      if line = header ∧ hasBegin = true then result ++ (line ++ [newline]) ++ (entry ++ [newline])
      else result ++ (line ++ [newline])) begin
  trimEnd newline resultStr

/-- `PAMHelper::RemoveEntryFromFile`: the new text of the file. -/
def removeEntryFromFile (fileStr entry : Str) : Str :=
  let entries := split entry [newline]
  let resultStr := (split fileStr [newline]).foldl
    (fun result line =>
      if entries.any (fun lineEntry => line = lineEntry) then result
      else result ++ (line ++ [newline])) []
  trimEnd newline resultStr

/-- The test of `PAMHelper::IsConfigGenerated`. -/
def isGenerated (fileStr : Str) : Bool := contains fileStr genEntry || contains fileStr genEntryOld

/-- The edits of `PAMHelper::MigrateConfigEntry`: the new text, `none` where nothing is migrated. -/
def migratedText (oldEntry newEntry fileStr : Str) : Option Str :=
  let marked := contains fileStr genEntryOld
  let fileStr := if marked then replace fileStr genEntryOld genEntry else fileStr
  let hasOld := contains fileStr oldEntry
  let fileStr := if hasOld then replace fileStr oldEntry newEntry else fileStr
  if marked || hasOld then some fileStr else none

/-- `PAMHelper::SetPolkitRestrictions`: the new text of the unit file. -/
def polkitRestrictions (enabled : Bool) (fileStr : Str) : Str :=
  let rules : List (Str × Str) :=
    [(str "NoNewPrivileges=no", str "NoNewPrivileges=yes"),
      (str "PrivateDevices=no", str "PrivateDevices=yes"),
      (str "PrivateNetwork=no", str "PrivateNetwork=yes"),
      (str "#RestrictAddressFamilies=AF_UNIX", str "RestrictAddressFamilies=AF_UNIX"),
      (str "RestrictSUIDSGID=no", str "RestrictSUIDSGID=yes"),
      (str "#DeviceAllow=", str "DeviceAllow="),
      (str "#DevicePolicy=strict", str "DevicePolicy=strict")]
  rules.foldl (fun text rule =>
    if enabled then replace text rule.1 rule.2 else replace text rule.2 rule.1) fileStr

end PAMHelper

/-! ## The calls -/

/-- The operations that `PAMHelper` uses on the configurations. -/
structure ConfigStore (σ : Type) where
  /-- `ConfigExists`. -/
  configExists : σ → Str → Bool
  /-- `ReadConfig`. -/
  readConfig : σ → Str → Str
  /-- `m_PendingChanges[path] = …`; `none` stands for a removal. -/
  setConfig : σ → Str → Option Str → σ
  /-- `std::filesystem::exists`, which does not look at the pending changes. -/
  existsOnDisk : σ → Str → Bool
  /-- `SetPolkitRestrictions`, which writes at once. -/
  setPolkitRestrictions : σ → Bool → σ

/-- The calls of `PAMHelper` that edit. -/
inductive PAMCall where
  | setConfigEntry (configName entry : Str) (enabled : Bool)
  | migrateConfigEntry (configName oldEntry newEntry : Str)

/-- The configuration that a call edits. -/
def PAMCall.configName : PAMCall → Str
  | .setConfigEntry configName _ _ => configName
  | .migrateConfigEntry configName _ _ => configName

namespace ConfigStore

open PAMHelper

variable {σ : Type} (st : ConfigStore σ) (apple : Bool)

/-- `PAMHelper::AddToConfig`. -/
def addToConfig (s : σ) (configName entry : Str) : σ :=
  if st.configExists s configName then
    st.setConfig s configName (some (addEntryToFile (st.readConfig s configName) entry))
  else if apple then st.setConfig s configName (some (genConfigApple entry))
  else if st.existsOnDisk s (str "system-auth") then
    st.setConfig s configName (some (genConfig systemIncludes entry))
  else st.setConfig s configName (some (genConfig commonIncludes entry))

/-- `PAMHelper::RemoveFromConfig`. -/
def removeFromConfig (s : σ) (configName entry : Str) : σ :=
  if st.configExists s configName = false then s
  else if apple then
    let s' := st.setConfig s configName (some (removeEntryFromFile (st.readConfig s configName) entry))
    if isGenerated (st.readConfig s' configName) = true ∧
        trim (st.readConfig s' configName) = genEntry then st.setConfig s' configName none
    else s'
  else if isGenerated (st.readConfig s configName) then st.setConfig s configName none
  else st.setConfig s configName (some (removeEntryFromFile (st.readConfig s configName) entry))

/-- `PAMHelper::SetConfigEntry`. -/
def setConfigEntry (s : σ) (configName entry : Str) (enabled : Bool) : σ :=
  let hasEntry := st.configExists s configName && contains (st.readConfig s configName) entry
  if enabled = true ∧ hasEntry = false then
    let s' := if configName = str "polkit-1" then st.setPolkitRestrictions s false else s
    st.addToConfig apple s' configName entry
  else if enabled = false ∧ hasEntry = true then
    let s' := st.removeFromConfig apple s configName entry
    if configName = str "polkit-1" then st.setPolkitRestrictions s' true else s'
  else s

/-- `PAMHelper::MigrateConfigEntry`. -/
def migrateConfigEntry (s : σ) (configName oldEntry newEntry : Str) : σ :=
  if st.configExists s configName = false then s
  else
    match migratedText oldEntry newEntry (st.readConfig s configName) with
    | some fileStr => st.setConfig s configName (some fileStr)
    | none => s

/-- One call. -/
def call (s : σ) : PAMCall → σ
  | .setConfigEntry configName entry enabled => st.setConfigEntry apple s configName entry enabled
  | .migrateConfigEntry configName oldEntry newEntry =>
      st.migrateConfigEntry s configName oldEntry newEntry

/-! ### What a call can do -/

section

variable {st : ConfigStore σ} {apple : Bool} {s : σ} {n : Str} {R : σ → Prop}

theorem addToConfig_keeps (hset : ∀ s d, R s → R (st.setConfig s n d)) (hs : R s) (entry : Str) :
    R (st.addToConfig apple s n entry) := by
  unfold addToConfig
  split
  · exact hset _ _ hs
  · split
    · exact hset _ _ hs
    · split
      · exact hset _ _ hs
      · exact hset _ _ hs

theorem removeFromConfig_keeps (hset : ∀ s d, R s → R (st.setConfig s n d)) (hs : R s)
    (entry : Str) : R (st.removeFromConfig apple s n entry) := by
  unfold removeFromConfig
  simp only
  split
  · exact hs
  · split
    · split
      · exact hset _ _ (hset _ _ hs)
      · exact hset _ _ hs
    · split
      · exact hset _ _ hs
      · exact hset _ _ hs

/-- A call changes its own configuration and the polkit restrictions, and nothing else. -/
theorem call_keeps {c : PAMCall} (hset : ∀ s d, R s → R (st.setConfig s c.configName d))
    (hpolkit : ∀ s b, R s → R (st.setPolkitRestrictions s b)) (hs : R s) :
    R (st.call apple s c) := by
  cases c with
  | setConfigEntry configName entry enabled =>
      show R (st.setConfigEntry apple s configName entry enabled)
      unfold setConfigEntry
      simp only
      split
      · split
        · exact addToConfig_keeps hset (hpolkit _ _ hs) entry
        · exact addToConfig_keeps hset hs entry
      · split
        · split
          · exact hpolkit _ _ (removeFromConfig_keeps hset hs entry)
          · exact removeFromConfig_keeps hset hs entry
        · exact hs
  | migrateConfigEntry configName oldEntry newEntry =>
      show R (st.migrateConfigEntry s configName oldEntry newEntry)
      unfold migrateConfigEntry
      split
      · exact hs
      · split
        · exact hset _ _ hs
        · exact hs

end

end ConfigStore

/-! ## The pending changes -/

/-- The files in `/etc/pam.d` by their names, and the unit file of the polkit agent helper, if one is
found. -/
structure PAMFiles where
  pamDir : Str → Option Str
  polkitService : Option Str := none

/-- `m_PendingChanges`, in the order of the paths. -/
abbrev PendingChanges := OrderedMap (fun change : Str × Option Str => change.1)

def PendingChanges.set (pending : PendingChanges) (configName : Str) (data : Option Str) :
    PendingChanges :=
  pending.insertSorted (fun a b => decide (a < b)) (configName, data)

/-- The files and a helper that works on them. Of the files that are there, those in `unreadable` cannot
be opened, or the elevator does not answer. -/
structure PAMHelper where
  files : PAMFiles
  pending : PendingChanges := .empty
  unreadable : Str → Bool := fun _ => false

namespace PAMHelper

/-- `PAMHelper::ConfigExists`. -/
def configExists (h : PAMHelper) (configName : Str) : Bool :=
  match h.pending.lookup configName with
  | some change => change.2.isSome
  | none => (h.files.pamDir configName).isSome

/-- `PAMHelper::ReadConfig`. `Shell::ReadBytes` gives no bytes of a file that cannot be opened. -/
def readConfig (h : PAMHelper) (configName : Str) : Str :=
  match h.pending.lookup configName with
  | some change => change.2.getD []
  | none => if h.unreadable configName then [] else (h.files.pamDir configName).getD []

/-- The operations of the program. -/
def overlay : ConfigStore PAMHelper where
  configExists := configExists
  readConfig := readConfig
  setConfig h configName data := { h with pending := h.pending.set configName data }
  existsOnDisk h configName := (h.files.pamDir configName).isSome
  setPolkitRestrictions h enabled :=
    { h with files := { h.files with
        polkitService := h.files.polkitService.map (polkitRestrictions enabled) } }

/-- `PAMHelper::HasConfigEntry`, which does not look at pending changes, on files that can be read. -/
def hasConfigEntry (files : PAMFiles) (configName entry : Str) : Bool :=
  match files.pamDir configName with
  | some fileStr => contains fileStr entry
  | none => false

/-! ## Commit -/

/-- What becomes of `Shell::ReadBytes` for a file that is there. -/
inductive ReadOutcome where
  | done
  /-- It cannot be opened, or the elevator does not answer: no bytes. -/
  | failed
  /-- The stream of the opened file throws, as the ones of the standard library do when the system
  reports an error. -/
  | throws
  deriving DecidableEq, Repr

/-- What `Commit` meets: the paths whose existence test throws, what becomes of each read of the
comparison, and of each write or removal. -/
structure CommitInput where
  existsThrows : Str → Bool := fun _ => false
  read : Str → ReadOutcome := fun _ => .done
  write : Str → WriteOutcome := fun _ => .written

/-- The first loop of `Commit` throws at the change: in the existence test, or in the read, which a
removal and a file that is not there do not need. -/
def CommitInput.throwsAt (input : CommitInput) (pamDir : Str → Option Str)
    (change : Str × Option Str) : Bool :=
  input.existsThrows change.1 ||
    (change.2.isSome && (pamDir change.1).isSome && input.read change.1 == .throws)

/-- What the comparison of `Commit` reads. -/
def CommitInput.readFile (input : CommitInput) (pamDir : Str → Option Str) (path : Str) :
    Option Str :=
  if input.read path = .failed then (pamDir path).map (fun _ => []) else pamDir path

/-- The state after `Commit`, the files that it wrote or removed, and whether it threw. -/
structure CommitResult where
  helper : PAMHelper
  written : List Str
  threw : Bool

/-- The test of the first loop of `Commit`: what is pending differs from the file. -/
def isChange (file data : Option Str) : Bool :=
  match data, file with
  | none, none => false
  | some text, some fileData => fileData ≠ text
  | _, _ => true

/-- The second loop of `Commit`: the files, those written, and whether it threw. -/
def applyChanges (input : CommitInput) :
    List (Str × Option Str) → (Str → Option Str) → (Str → Option Str) × List Str × Bool
  | [], pamDir => (pamDir, [], false)
  | (path, data) :: changes, pamDir =>
      match input.write path with
      | .written =>
          let (pamDir', written, threw) :=
            applyChanges input changes (Function.update pamDir path data)
          (pamDir', path :: written, threw)
      | .untouched => (pamDir, [], true)
      | .stopped n =>
          -- a removal has no halves
          match data with
          | some text => (Function.update pamDir path (some (text.take n)), [path], true)
          | none => (pamDir, [], true)

/-- `PAMHelper::Commit`. The pending changes are cleared between the two loops. -/
def commit (input : CommitInput) (h : PAMHelper) : CommitResult :=
  if h.pending.entries.any (input.throwsAt h.files.pamDir) then ⟨h, [], true⟩
  else
    let changes := h.pending.entries.filter
      (fun change => isChange (input.readFile h.files.pamDir change.1) change.2)
    let (pamDir, written, threw) := applyChanges input changes h.files.pamDir
    ⟨{ h with files := { h.files with pamDir := pamDir }, pending := .empty }, written, threw⟩

end PAMHelper

end PcbuDesktop
