import PcbuDesktop.Installer.PAMEntry

set_option autoImplicit false

/-! # Installing the modules

`ServiceInstaller::Install` on Linux and on macOS (`installer/service/ServiceInstaller.Linux.cpp`,
`ServiceInstaller.Mac.cpp`) writes three module files, removes what an older version has installed
under another name, and then runs tasks that concern other files. On macOS the constant for the old
name of the SSH module is its present name.

What a write, a removal or a task does is decided by an `InstallEnv`; `none` stands for an exception.
-/

namespace PcbuDesktop

open Lines PAMHelper

inductive Platform where
  | linux
  | mac
  deriving DecidableEq, Repr

/-- Files by their paths, and the directories that exist. -/
structure FileSystem where
  files : Str → Option Bytes
  dirs : Str → Bool

/-- A file is written, or removed. -/
def FileSystem.set (fs : FileSystem) (path : Str) (data : Option Bytes) : FileSystem :=
  { fs with files := Function.update fs.files path data }

@[simp] theorem FileSystem.set_dirs (fs : FileSystem) (path : Str) (data : Option Bytes) :
    (fs.set path data).dirs = fs.dirs := rfl

@[simp] theorem FileSystem.set_files_self (fs : FileSystem) (path : Str) (data : Option Bytes) :
    (fs.set path data).files path = data := Function.update_self _ _ _

theorem FileSystem.set_files_ne (fs : FileSystem) {path q : Str} (h : q ≠ path)
    (data : Option Bytes) : (fs.set path data).files q = fs.files q := Function.update_of_ne h _ _

theorem FileSystem.set_of_eq (fs : FileSystem) {path : Str} {data : Option Bytes}
    (h : fs.files path = data) : fs.set path data = fs := by
  subst h
  unfold set
  rw [Function.update_eq_self]

namespace ServiceInstaller

/-! ## Names -/

/-- `EXE_MODULE_DIR / EXE_MODULE_FILE`. -/
def exePath : Str := str "/usr/local/sbin/pcbu_auth"

/-- `EXE_MODULE_DIR / SSH_MODULE_FILE`. -/
def askpassPath : Str := str "/usr/local/sbin/pcbu_ssh_askpass"

/-- `EXE_MODULE_DIR / SSH_MODULE_FILE_OLD`, of macOS. -/
def oldAskpassPath : Str := str "/usr/local/sbin/pcbu_ssh_askpass"

/-- `PAM_MODULE_DIRS`, or `PAM_MODULE_DIR`. -/
def pamModuleDirs : Platform → List Str
  | .linux => [str "/lib/security/", str "/lib64/security/"]
  | .mac => [str "/usr/local/lib/pam/"]

/-- `PAM_MODULE_FILE`. -/
def pamModuleFile : Platform → Str
  | .linux => str "pam_pulseunlock.so"
  | .mac => str "pam_pulseunlock.dylib"

/-- `PAM_MODULE_FILE_OLD`. -/
def pamModuleFileOld : Platform → Str
  | .linux => str "pam_pcbiounlock.so"
  | .mac => str "pam_pcbiounlock.dylib"

/-- `PAM_CONFIG_DIR`. -/
def pamConfigDir : Str := str "/etc/pam.d/"

/-- The paths of the modules, old names included. -/
def modulePaths (p : Platform) : List Str :=
  [exePath, askpassPath] ++
    (pamModuleDirs p).flatMap (fun dir => [dir ++ pamModuleFile p, dir ++ pamModuleFileOld p])

/-! ## The operations -/

/-- What `Install` runs besides its own file operations: shell commands, and calls that keep files of
their own. -/
inductive Task where
  | setuid (path : Str)
  | installCli
  | appSettings
  | ufwAllow (port : Nat)
  | firewalldAdd (port : Nat)
  | firewalldReload
  | semodule
  | sshEnv
  | registerBTHelper
  | bluetoothUsers
  | copyAgent
  | resetAccessibility
  | plistOwner
  | startAgent
  deriving DecidableEq, Repr

/-- What the installer meets. -/
structure InstallEnv where
  /-- `ResourceHelper::GetResource`. -/
  resource : Str → Bytes
  write : Str → WriteOutcome
  remove : Str → Bool
  createDir : Str → Bool
  /-- The PAM configurations that are there and cannot be opened. -/
  unreadable : Str → Bool := fun _ => false
  /-- The state after a task, and whether it succeeded. -/
  task : Task → FileSystem → FileSystem × Bool
  commit : CommitInput := {}
  /-- `IsProgramInstalled`. -/
  installed : Str → Bool := fun _ => false
  isSshEnabled : Bool := false
  hasAgent : Bool := true

section

variable (env : InstallEnv) (fs : FileSystem)

/-- `Shell::WriteBytes`. -/
def writeBytes (path : Str) (data : Bytes) : FileSystem × Bool :=
  match env.write path with
  | .written => (fs.set path (some data), true)
  | .untouched => (fs, false)
  | .stopped n => (fs.set path (some (data.take n)), false)

/-- `Shell::Remove`. -/
def remove (path : Str) : FileSystem × Bool :=
  if env.remove path then (fs.set path none, true)
  else (fs, false)

/-- `Shell::CreateDir`, whose result is not looked at. -/
def createDir (path : Str) : FileSystem :=
  if env.createDir path then { fs with dirs := Function.update fs.dirs path true } else fs

/-- The result is checked: `none` stands for the exception. -/
def orThrow (r : FileSystem × Bool) : Option FileSystem := if r.2 then some r.1 else none

/-- A file of an older version is removed if it is there. -/
def removeOld (path : Str) : Option FileSystem :=
  if (fs.files path).isSome then orThrow (remove env fs path) else some fs

/-- The calls of `MigrateConfigEntry` and `Commit`, on the files below `/etc/pam.d`. -/
def migratePam (apple : Bool) (calls : List PAMCall) : Option FileSystem :=
  let helper : PAMHelper :=
    { files := { pamDir := fun name => fs.files (pamConfigDir ++ name) }, unreadable := env.unreadable }
  let result := commit env.commit (calls.foldl (overlay.call apple) helper)
  let files := fun path =>
    if pamConfigDir.isPrefixOf path then
      result.helper.files.pamDir (path.drop pamConfigDir.length)
    else fs.files path
  if result.threw then none else some { fs with files := files }

end

/-! ## Linux -/

/-- One round of the loop over `PAM_MODULE_DIRS`. -/
def installPamModule (env : InstallEnv) (fs : FileSystem) (pamDir : Str) : Option FileSystem :=
  if fs.dirs pamDir = false then some fs
  else do
    let fs ← orThrow (writeBytes env fs (pamDir ++ pamModuleFile .linux)
      (env.resource (pamModuleFile .linux)))
    removeOld env fs (pamDir ++ pamModuleFileOld .linux)

/-- The migrations of the entries. -/
def linuxMigrations : List PAMCall :=
  [.migrateConfigEntry (str "sudo") pamConfigEntryOld pamConfigEntry,
    .migrateConfigEntry (str "polkit-1") pamConfigEntryOld pamConfigEntry,
    .migrateConfigEntry (str "gdm-password") pamConfigEntryOld pamConfigEntry,
    .migrateConfigEntry (str "sddm") pamConfigEntrySddmOld pamConfigEntrySddm,
    .migrateConfigEntry (str "sddm") pamConfigEntryOld pamConfigEntry,
    .migrateConfigEntry (str "kde") pamConfigEntryOld pamConfigEntry,
    .migrateConfigEntry (str "lightdm") pamConfigEntryOld pamConfigEntry,
    .migrateConfigEntry (str "cinnamon-screensaver") pamConfigEntryOld pamConfigEntry,
    .migrateConfigEntry (str "hyprlock") pamConfigEntryOld pamConfigEntry]

/-- Commands joined by `&&`, whose result is only logged. -/
def runAll (env : InstallEnv) : List Task → FileSystem → FileSystem
  | [], fs => fs
  | t :: ts, fs => if (env.task t fs).2 then runAll env ts (env.task t fs).1 else (env.task t fs).1

/-- The parts for `ufw` and `firewalld`; the ports are those of the settings. -/
def addFirewallRules (env : InstallEnv) (udp pairing unlock : Nat) (fs : FileSystem) : FileSystem :=
  let fs := if env.installed (str "ufw") then
    runAll env [.ufwAllow udp, .ufwAllow pairing, .ufwAllow unlock] fs else fs
  if env.installed (str "firewall-cmd") then
    runAll env [.firewalldAdd udp, .firewalldAdd pairing, .firewalldAdd unlock, .firewalldReload] fs
  else fs

/-- The part for SELinux. -/
def installPolicy (env : InstallEnv) (fs : FileSystem) : Option FileSystem := do
  let tmpPath := str "/tmp/pcbu_auth_policy.pp"
  let fs := (writeBytes env fs tmpPath (env.resource (str "pcbu_auth_policy.pp"))).1
  let fs ← orThrow (env.task .semodule fs)
  return (remove env fs tmpPath).1

/-- `ServiceInstaller::Install` on Linux. -/
def installLinux (env : InstallEnv) (udp pairing unlock : Nat) (fs : FileSystem) :
    Option FileSystem := do
  let fs ← orThrow (writeBytes env fs exePath (env.resource (str "pcbu_auth")))
  let fs ← orThrow (env.task (.setuid exePath) fs)
  let fs := createDir env fs (str "/lib/security/")
  let fs ← (pamModuleDirs .linux).foldlM (installPamModule env) fs
  let fs ← orThrow (writeBytes env fs askpassPath (env.resource (str "pcbu_ssh_askpass")))
  let fs ← orThrow (env.task (.setuid askpassPath) fs)
  let fs := (env.task .installCli fs).1
  let fs ← migratePam env fs false linuxMigrations
  let fs := addFirewallRules env udp pairing unlock (env.task .appSettings fs).1
  if env.installed (str "semodule") then installPolicy env fs else some fs

/-! ## macOS -/

/-- A line of an older version in the user's environment is set to the new module. -/
def repointSsh (env : InstallEnv) (fs : FileSystem) : Option FileSystem :=
  if env.isSshEnabled then orThrow (env.task .sshEnv fs) else some fs

/-- The lock screen agent. -/
def installAgent (env : InstallEnv) (fs : FileSystem) : Option FileSystem := do
  let agentPath := str "/Library/Application Support/PulseUnlock/PulseUnlockAgent.app"
  let plistPath := str "/Library/LaunchAgents/com.meisapps.PulseUnlock.agent.plist"
  let fs ← orThrow (fs, env.hasAgent)
  let fs ← orThrow (remove env fs agentPath)
  let fs ← orThrow (env.task .copyAgent fs)
  let fs := (env.task .resetAccessibility fs).1
  let fs ← orThrow (writeBytes env fs plistPath
    (env.resource (str "com.meisapps.PulseUnlock.agent.plist")))
  let fs := (env.task .plistOwner fs).1
  return (env.task .startAgent fs).1

/-- `ServiceInstaller::Install` on macOS. -/
def installMac (env : InstallEnv) (fs : FileSystem) : Option FileSystem := do
  let pamDir := str "/usr/local/lib/pam/"
  let fs := createDir env fs (str "/usr/local/sbin/")
  let fs ← orThrow (writeBytes env fs exePath (env.resource (str "pcbu_auth")))
  let fs ← orThrow (env.task (.setuid exePath) fs)
  let fs := createDir env fs pamDir
  let fs ← orThrow (writeBytes env fs (pamDir ++ pamModuleFile .mac)
    (env.resource (pamModuleFile .mac)))
  let fs ← orThrow (writeBytes env fs askpassPath (env.resource (str "pcbu_ssh_askpass")))
  let fs ← orThrow (env.task (.setuid askpassPath) fs)
  let fs ← removeOld env fs oldAskpassPath
  let fs ← repointSsh env fs
  let fs := (env.task .registerBTHelper fs).1
  let fs := (env.task .bluetoothUsers fs).1
  let fs ← installAgent env fs
  let fs := (env.task .installCli fs).1
  let fs ← migratePam env fs true
    [.migrateConfigEntry (str "authorization") pamConfigEntryAppleOld pamConfigEntryApple]
  removeOld env fs (pamDir ++ pamModuleFileOld .mac)

/-- `ServiceInstaller::Install`. -/
def install (p : Platform) (env : InstallEnv) (udp pairing unlock : Nat) (fs : FileSystem) :
    Option FileSystem :=
  match p with
  | .linux => installLinux env udp pairing unlock fs
  | .mac => installMac env fs

/-! ## What the steps leave alone -/

/-- The tasks concern other files: none of them changes a module or makes or removes a directory for
PAM modules. -/
structure InstallEnv.Frames (p : Platform) (env : InstallEnv) : Prop where
  files : ∀ t fs, ∀ q ∈ modulePaths p, (env.task t fs).1.files q = fs.files q
  dirs : ∀ t fs, ∀ d ∈ pamModuleDirs p, (env.task t fs).1.dirs d = fs.dirs d

/-- The modules and their directories are as before. -/
def Keep (p : Platform) (fs fs' : FileSystem) : Prop :=
  (∀ q ∈ modulePaths p, fs'.files q = fs.files q) ∧ ∀ d ∈ pamModuleDirs p, fs'.dirs d = fs.dirs d

theorem Keep.refl (p : Platform) (fs : FileSystem) : Keep p fs fs :=
  ⟨fun _ _ => rfl, fun _ _ => rfl⟩

theorem Keep.trans {p : Platform} {fs fs' fs'' : FileSystem} (h : Keep p fs fs')
    (h' : Keep p fs' fs'') : Keep p fs fs'' :=
  ⟨fun q hq => (h'.1 q hq).trans (h.1 q hq), fun d hd => (h'.2 d hd).trans (h.2 d hd)⟩

section

variable {p : Platform} {env : InstallEnv} {fs fs' : FileSystem}

theorem orThrow_eq_some {r : FileSystem × Bool} (h : orThrow r = some fs') :
    r.2 = true ∧ fs' = r.1 := by
  unfold orThrow at h
  split at h
  · next hr =>
      cases h
      exact ⟨hr, rfl⟩
  · cases h

/-- A write that is checked puts the data into the file and leaves the rest. -/
theorem writeBytes_eq_some {path : Str} {data : Bytes}
    (h : orThrow (writeBytes env fs path data) = some fs') :
    fs' = fs.set path (some data) := by
  obtain ⟨hok, rfl⟩ := orThrow_eq_some h
  unfold writeBytes at hok ⊢
  split at hok
  · rfl
  · cases hok
  · cases hok

theorem remove_eq_some {path : Str} (h : orThrow (remove env fs path) = some fs') :
    fs' = fs.set path none := by
  obtain ⟨hok, rfl⟩ := orThrow_eq_some h
  unfold remove at hok ⊢
  by_cases hremove : env.remove path = true
  · rw [if_pos hremove]
  · rw [if_neg hremove] at hok
    cases hok

theorem removeOld_eq_some {path : Str} (h : removeOld env fs path = some fs') :
    fs' = fs.set path none := by
  unfold removeOld at h
  split at h
  · exact remove_eq_some h
  · next hnone =>
      cases h
      exact (fs.set_of_eq (by simpa using hnone)).symm

theorem keep_update {path : Str} (hpath : path ∉ modulePaths p) (data : Option Bytes) :
    Keep p fs (fs.set path data) := by
  refine ⟨?_, fun _ _ => rfl⟩
  intro q hq
  refine fs.set_files_ne ?_ data
  rintro rfl
  exact hpath hq

theorem keep_writeBytes {path : Str} (hpath : path ∉ modulePaths p) (data : Bytes) :
    Keep p fs (writeBytes env fs path data).1 := by
  unfold writeBytes
  split
  · exact keep_update hpath _
  · exact Keep.refl p fs
  · exact keep_update hpath _

theorem keep_remove {path : Str} (hpath : path ∉ modulePaths p) :
    Keep p fs (remove env fs path).1 := by
  unfold remove
  split
  · exact keep_update hpath _
  · exact Keep.refl p fs

theorem keep_task (hf : env.Frames p) (t : Task) : Keep p fs (env.task t fs).1 :=
  ⟨fun q hq => hf.files t fs q hq, fun d hd => hf.dirs t fs d hd⟩

theorem keep_taskOrThrow (hf : env.Frames p) {t : Task} (h : orThrow (env.task t fs) = some fs') :
    Keep p fs fs' := by
  obtain ⟨-, rfl⟩ := orThrow_eq_some h
  exact keep_task hf t

theorem keep_runAll (hf : env.Frames p) (ts : List Task) : Keep p fs (runAll env ts fs) := by
  induction ts generalizing fs with
  | nil => exact Keep.refl p fs
  | cons t ts ih =>
      unfold runAll
      split
      · exact (keep_task hf t).trans ih
      · exact keep_task hf t

theorem keep_addFirewallRules (hf : env.Frames p) (udp pairing unlock : Nat) :
    Keep p fs (addFirewallRules env udp pairing unlock fs) := by
  unfold addFirewallRules
  simp only
  split
  · split
    · exact (keep_runAll hf _).trans (keep_runAll hf _)
    · exact keep_runAll hf _
  · split
    · exact keep_runAll hf _
    · exact Keep.refl p fs

/-- The PAM configurations are no modules. -/
theorem keep_migratePam {apple : Bool} {calls : List PAMCall}
    (h : migratePam env fs apple calls = some fs') : Keep p fs fs' := by
  have hall : ∀ q ∈ modulePaths .linux ++ modulePaths .mac, pamConfigDir.isPrefixOf q = false := by
    decide +kernel
  have hpath : ∀ q ∈ modulePaths p, pamConfigDir.isPrefixOf q = false := by
    intro q hq
    refine hall q (List.mem_append.mpr ?_)
    cases p with
    | linux => exact Or.inl hq
    | mac => exact Or.inr hq
  unfold migratePam at h
  simp only at h
  split at h
  · cases h
  · cases h
    refine ⟨?_, fun _ _ => rfl⟩
    intro q hq
    simp only [hpath q hq, Bool.false_eq_true, if_false]

theorem keep_installPolicy (hf : env.Frames p)
    (htmp : str "/tmp/pcbu_auth_policy.pp" ∉ modulePaths p) (h : installPolicy env fs = some fs') :
    Keep p fs fs' := by
  unfold installPolicy at h
  obtain ⟨fs₁, h₁, h⟩ := Option.bind_eq_some_iff.mp h
  cases h
  exact ((keep_writeBytes htmp _).trans (keep_taskOrThrow hf h₁)).trans (keep_remove htmp)

/-! ## Linux -/

/-- One directory: the module is written and the old one is gone, and nothing else changes. -/
theorem installPamModule_spec {dir : Str} (h : installPamModule env fs dir = some fs') :
    fs'.dirs = fs.dirs ∧
    (fs.dirs dir = true →
      fs'.files (dir ++ pamModuleFile .linux) = some (env.resource (pamModuleFile .linux)) ∧
      fs'.files (dir ++ pamModuleFileOld .linux) = none) ∧
    ∀ q, q ≠ dir ++ pamModuleFile .linux → q ≠ dir ++ pamModuleFileOld .linux →
      fs'.files q = fs.files q := by
  have hne : dir ++ pamModuleFile .linux ≠ dir ++ pamModuleFileOld .linux := by
    intro hsame
    exact absurd (List.append_cancel_left hsame) (by decide +kernel)
  unfold installPamModule at h
  split at h
  · next hdir =>
      cases h
      refine ⟨rfl, ?_, fun _ _ _ => rfl⟩
      intro hexists
      rw [hdir] at hexists
      cases hexists
  · obtain ⟨fs₁, h₁, h₂⟩ := Option.bind_eq_some_iff.mp h
    have hfs₁ := writeBytes_eq_some h₁
    have hfs' := removeOld_eq_some h₂
    subst hfs₁ hfs'
    refine ⟨rfl, ?_, ?_⟩
    · intro _
      rw [FileSystem.set_files_ne _ hne, FileSystem.set_files_self, FileSystem.set_files_self]
      exact ⟨rfl, rfl⟩
    · intro q hnew hold
      rw [FileSystem.set_files_ne _ hold, FileSystem.set_files_ne _ hnew]

end

/-- What `Install` is for: the modules have the bytes of the resources, and no old-named PAM module is
left. -/
structure ModulesInPlace (p : Platform) (env : InstallEnv) (fs : FileSystem) : Prop where
  exe : fs.files exePath = some (env.resource (str "pcbu_auth"))
  pam : ∀ dir ∈ pamModuleDirs p, fs.dirs dir = true →
    fs.files (dir ++ pamModuleFile p) = some (env.resource (pamModuleFile p))
  askpass : fs.files askpassPath = some (env.resource (str "pcbu_ssh_askpass"))
  noOld : ∀ dir ∈ pamModuleDirs p, fs.dirs dir = true →
    fs.files (dir ++ pamModuleFileOld p) = none

section

variable {p : Platform} {env : InstallEnv} {fs fs' : FileSystem}

theorem ModulesInPlace.keep (h : ModulesInPlace p env fs) (hk : Keep p fs fs') :
    ModulesInPlace p env fs' := by
  have hmem {dir : Str} (hdir : dir ∈ pamModuleDirs p) (q : Str)
      (hq : q ∈ [dir ++ pamModuleFile p, dir ++ pamModuleFileOld p]) : q ∈ modulePaths p :=
    List.mem_append_right _ (List.mem_flatMap.mpr ⟨dir, hdir, hq⟩)
  constructor
  · rw [hk.1 exePath (by simp [modulePaths])]
    exact h.exe
  · intro dir hdir hexists
    rw [hk.2 dir hdir] at hexists
    rw [hk.1 _ (hmem hdir _ (by simp))]
    exact h.pam dir hdir hexists
  · rw [hk.1 askpassPath (by simp [modulePaths])]
    exact h.askpass
  · intro dir hdir hexists
    rw [hk.2 dir hdir] at hexists
    rw [hk.1 _ (hmem hdir _ (by simp))]
    exact h.noOld dir hdir hexists

/-- The loop over both directories. -/
theorem installPamModules_spec
    (h : (pamModuleDirs .linux).foldlM (installPamModule env) fs = some fs') :
    fs'.dirs = fs.dirs ∧ (∀ dir ∈ pamModuleDirs .linux, fs.dirs dir = true →
        fs'.files (dir ++ pamModuleFile .linux) = some (env.resource (pamModuleFile .linux)) ∧
        fs'.files (dir ++ pamModuleFileOld .linux) = none) ∧
      fs'.files exePath = fs.files exePath := by
  have hexe : ∀ dir ∈ pamModuleDirs .linux, exePath ≠ dir ++ pamModuleFile .linux ∧
      exePath ≠ dir ++ pamModuleFileOld .linux := by decide +kernel
  have hdistinct : ∀ q ∈ [str "/lib/security/" ++ pamModuleFile .linux,
      str "/lib/security/" ++ pamModuleFileOld .linux],
      q ≠ str "/lib64/security/" ++ pamModuleFile .linux ∧
      q ≠ str "/lib64/security/" ++ pamModuleFileOld .linux := by decide +kernel
  unfold pamModuleDirs at h ⊢
  obtain ⟨fs₁, h₁, h⟩ := Option.bind_eq_some_iff.mp h
  obtain ⟨fs₂, h₂, h⟩ := Option.bind_eq_some_iff.mp h
  cases h
  obtain ⟨hdirs₁, hdir₁, hother₁⟩ := installPamModule_spec h₁
  obtain ⟨hdirs₂, hdir₂, hother₂⟩ := installPamModule_spec h₂
  refine ⟨hdirs₂.trans hdirs₁, ?_, ?_⟩
  · intro dir hdir hexists
    rcases List.mem_cons.mp hdir with rfl | hdir
    · -- the second round leaves the files of the first directory
      obtain ⟨hnew, hold⟩ := hdir₁ hexists
      have hkeep {q : Str} (hq : q ∈ [str "/lib/security/" ++ pamModuleFile .linux,
          str "/lib/security/" ++ pamModuleFileOld .linux]) : fs'.files q = fs₁.files q :=
        hother₂ q (hdistinct q hq).1 (hdistinct q hq).2
      rw [hkeep (by simp), hkeep (by simp)]
      exact ⟨hnew, hold⟩
    · rw [List.mem_singleton] at hdir
      subst hdir
      rw [← hdirs₁] at hexists
      exact hdir₂ hexists
  · have h64 := hexe (str "/lib64/security/") (by simp [pamModuleDirs])
    have h32 := hexe (str "/lib/security/") (by simp [pamModuleDirs])
    rw [hother₂ _ h64.1 h64.2, hother₁ _ h32.1 h32.2]

theorem installLinux_inPlace (hf : env.Frames .linux) {udp pairing unlock : Nat}
    (h : installLinux env udp pairing unlock fs = some fs') : ModulesInPlace .linux env fs' := by
  unfold installLinux at h
  obtain ⟨fs₁, h₁, h⟩ := Option.bind_eq_some_iff.mp h
  obtain ⟨fs₂, h₂, h⟩ := Option.bind_eq_some_iff.mp h
  obtain ⟨fs₃, h₃, h⟩ := Option.bind_eq_some_iff.mp h
  obtain ⟨fs₄, h₄, h⟩ := Option.bind_eq_some_iff.mp h
  obtain ⟨fs₅, h₅, h⟩ := Option.bind_eq_some_iff.mp h
  obtain ⟨fs₆, h₆, h⟩ := Option.bind_eq_some_iff.mp h
  have hplaced : ModulesInPlace .linux env fs₅ := by
    obtain ⟨hdirs, hmodules, hexe⟩ := installPamModules_spec h₃
    have hfs₄ := writeBytes_eq_some h₄
    have hother : ∀ q ∈ exePath :: (pamModuleDirs .linux).flatMap (fun dir =>
        [dir ++ pamModuleFile .linux, dir ++ pamModuleFileOld .linux]), q ≠ askpassPath := by
      decide +kernel
    have hmem {dir q : Str} (hdir : dir ∈ pamModuleDirs .linux)
        (hq : q ∈ [dir ++ pamModuleFile .linux, dir ++ pamModuleFileOld .linux]) :
        q ≠ askpassPath :=
      hother q (List.mem_cons_of_mem _ (List.mem_flatMap.mpr ⟨dir, hdir, hq⟩))
    refine ModulesInPlace.keep ?_ (keep_taskOrThrow hf h₅)
    subst hfs₄
    constructor
    · -- the executable was written first
      rw [FileSystem.set_files_ne _ (hother _ List.mem_cons_self), hexe]
      have hfs₂ := (keep_taskOrThrow hf h₂).1 exePath (by simp [modulePaths])
      have hcreate : (createDir env fs₂ (str "/lib/security/")).files = fs₂.files := by
        unfold createDir
        split
        · rfl
        · rfl
      rw [hcreate, hfs₂, writeBytes_eq_some h₁, FileSystem.set_files_self]
    · intro dir hdir hexists
      rw [FileSystem.set_files_ne _ (hmem hdir (by simp))]
      rw [FileSystem.set_dirs, hdirs] at hexists
      exact (hmodules dir hdir hexists).1
    · exact FileSystem.set_files_self _ _ _
    · intro dir hdir hexists
      rw [FileSystem.set_files_ne _ (hmem hdir (by simp))]
      rw [FileSystem.set_dirs, hdirs] at hexists
      exact (hmodules dir hdir hexists).2
  have hrest : Keep .linux fs₆ fs' := by
    have hrules : Keep .linux fs₆
        (addFirewallRules env udp pairing unlock (env.task .appSettings fs₆).1) :=
      (keep_task hf _).trans (keep_addFirewallRules hf _ _ _)
    simp only at h
    split at h
    · exact hrules.trans (keep_installPolicy hf (by decide +kernel) h)
    · cases h
      exact hrules
  exact hplaced.keep (((keep_task hf _).trans (keep_migratePam h₆)).trans hrest)

/-! ## macOS -/

theorem keep_installAgent (hf : env.Frames .mac) (h : installAgent env fs = some fs') :
    Keep .mac fs fs' := by
  have hagent : str "/Library/Application Support/PulseUnlock/PulseUnlockAgent.app" ∉
      modulePaths .mac := by decide +kernel
  have hplist : str "/Library/LaunchAgents/com.meisapps.PulseUnlock.agent.plist" ∉
      modulePaths .mac := by decide +kernel
  unfold installAgent at h
  obtain ⟨fs₁, h₁, h⟩ := Option.bind_eq_some_iff.mp h
  obtain ⟨fs₂, h₂, h⟩ := Option.bind_eq_some_iff.mp h
  obtain ⟨fs₃, h₃, h⟩ := Option.bind_eq_some_iff.mp h
  obtain ⟨fs₄, h₄, h⟩ := Option.bind_eq_some_iff.mp h
  cases h
  have hkeep₁ : Keep .mac fs fs₁ := by
    rw [(orThrow_eq_some h₁).2]
    exact Keep.refl .mac fs
  have hkeep₂ : Keep .mac fs₁ fs₂ := by
    rw [remove_eq_some h₂]
    exact keep_update hagent none
  have hkeep₄ : Keep .mac (env.task .resetAccessibility fs₃).1 fs₄ := by
    rw [writeBytes_eq_some h₄]
    exact keep_update hplist _
  have hstart : Keep .mac fs₃ fs₄ := (keep_task hf _).trans hkeep₄
  have hlast : Keep .mac fs₄ (env.task .startAgent (env.task .plistOwner fs₄).1).1 :=
    (keep_task hf _).trans (keep_task hf _)
  exact (((hkeep₁.trans hkeep₂).trans (keep_taskOrThrow hf h₃)).trans hstart).trans hlast

/-- On macOS the SSH module is removed right after it has been written. -/
theorem installMac_askpass (hf : env.Frames .mac) (h : installMac env fs = some fs') :
    fs'.files askpassPath = none := by
  have hmem : askpassPath ∈ modulePaths .mac := by simp [modulePaths]
  unfold installMac at h
  obtain ⟨fs₁, -, h⟩ := Option.bind_eq_some_iff.mp h
  obtain ⟨fs₂, -, h⟩ := Option.bind_eq_some_iff.mp h
  obtain ⟨fs₃, -, h⟩ := Option.bind_eq_some_iff.mp h
  obtain ⟨fs₄, -, h⟩ := Option.bind_eq_some_iff.mp h
  obtain ⟨fs₅, -, h⟩ := Option.bind_eq_some_iff.mp h
  obtain ⟨fs₆, h₆, h⟩ := Option.bind_eq_some_iff.mp h
  obtain ⟨fs₇, h₇, h⟩ := Option.bind_eq_some_iff.mp h
  obtain ⟨fs₈, h₈, h⟩ := Option.bind_eq_some_iff.mp h
  obtain ⟨fs₉, h₉, h⟩ := Option.bind_eq_some_iff.mp h
  -- the old name is the present one
  have hgone : fs₆.files askpassPath = none := by
    rw [removeOld_eq_some h₆]
    exact FileSystem.set_files_self _ oldAskpassPath none
  have hssh : Keep .mac fs₆ fs₇ := by
    unfold repointSsh at h₇
    split at h₇
    · exact keep_taskOrThrow hf h₇
    · cases h₇
      exact Keep.refl .mac fs₆
  have hbluetooth : Keep .mac fs₇ (env.task .bluetoothUsers (env.task .registerBTHelper fs₇).1).1 :=
    (keep_task hf _).trans (keep_task hf _)
  have hagent : Keep .mac fs₇ fs₈ := hbluetooth.trans (keep_installAgent hf h₈)
  have hpam : Keep .mac fs₈ fs₉ := (keep_task hf _).trans (keep_migratePam h₉)
  rw [removeOld_eq_some h, FileSystem.set_files_ne _ (by decide +kernel),
    ((hssh.trans hagent).trans hpam).1 _ hmem]
  exact hgone

/-- **Where `Install` leaves the modules in place.** Whatever was installed before and whatever the
file operations do: if `Install` returns, the modules are in place on Linux, and never on macOS. -/
theorem modules_in_place_iff (p : Platform) (env : InstallEnv) (hf : env.Frames p)
    (udp pairing unlock : Nat) (fs fs' : FileSystem)
    (h : install p env udp pairing unlock fs = some fs') :
    ModulesInPlace p env fs' ↔ p = .linux := by
  cases p with
  | linux => exact iff_of_true (installLinux_inPlace hf h) rfl
  | mac =>
      refine iff_of_false ?_ (by decide)
      intro hplaced
      have hgone := installMac_askpass hf h
      rw [hplaced.askpass] at hgone
      cases hgone

end

end ServiceInstaller

namespace Sample

open ServiceInstaller

/-- Every operation succeeds, and the tasks do nothing to the files. -/
def installEnv : InstallEnv where
  resource name := name
  write _ := .written
  remove _ := true
  createDir _ := true
  task _ fs := (fs, true)

/-- A computer on which nothing is installed. -/
def freshFs : FileSystem where
  files _ := none
  dirs _ := false

theorem installEnv_frames (p : Platform) : installEnv.Frames p where
  files _ _ _ _ := rfl
  dirs _ _ _ _ := rfl

end Sample

namespace ServiceInstaller

/-- A fresh installation on macOS: every step succeeds, and the SSH module is missing. -/
theorem install_removes_askpass :
    ∃ fs, install .mac Sample.installEnv 1 2 3 Sample.freshFs = some fs ∧
      ¬ ModulesInPlace .mac Sample.installEnv fs := by
  have hmissing : (install .mac Sample.installEnv 1 2 3 Sample.freshFs).any
      (fun fs => fs.files askpassPath = none) = true := by decide +kernel
  obtain ⟨fs, hfs, hnone⟩ := (Option.any_eq_true _ _).mp hmissing
  refine ⟨fs, hfs, ?_⟩
  intro hplaced
  rw [decide_eq_true_iff, hplaced.askpass] at hnone
  cases hnone

theorem modules_in_place_sample :
    ∃ fs, install .linux Sample.installEnv 1 2 3 Sample.freshFs = some fs ∧
      ModulesInPlace .linux Sample.installEnv fs := by
  have hsome : (install .linux Sample.installEnv 1 2 3 Sample.freshFs).isSome = true := by
    decide +kernel
  obtain ⟨fs, hfs⟩ := Option.isSome_iff_exists.mp hsome
  exact ⟨fs, hfs, (modules_in_place_iff .linux Sample.installEnv (Sample.installEnv_frames .linux)
    1 2 3 Sample.freshFs fs hfs).mpr rfl⟩

end ServiceInstaller

end PcbuDesktop
