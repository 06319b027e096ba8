import PcbuDesktop.Installer.Install
import PcbuDesktop.Installer.Polkit
import PcbuDesktop.Installer.ServiceSettings
import PcbuDesktop.Lib.Runs

set_option autoImplicit false

/-! # Uninstalling on Linux

`ServiceInstaller::Uninstall` (`installer/service/ServiceInstaller.Linux.cpp`) removes the modules and
the firewall rules. A full uninstall also takes the entries out of the PAM configurations, those of
older versions included, and removes the command `pulseunlock` (`ServiceInstaller.Unix.cpp`).

What a removal or another task does is decided by an `UninstallEnv`. An error carries the state in which
the exception is thrown.
-/

namespace PcbuDesktop

open Runs Lines KeyedList PAMHelper

namespace ServiceInstaller

/-! ## The operations -/

/-- What `Uninstall` runs besides its own file operations. -/
inductive UndoTask where
  | disableSsh
  | appSettings
  | ufwDelete (port : Nat)
  | firewalldRemove (port : Nat)
  | firewalldReload
  | semoduleRemove
  deriving DecidableEq, Repr

/-- What becomes of a removal. Where the elevator is lost, one that has been done is reported as
failed. -/
inductive RemoveOutcome where
  | removed
  | failed (gone : Bool)
  deriving DecidableEq, Repr

/-- What `Uninstall` meets. -/
structure UninstallEnv where
  remove : Str → RemoveOutcome
  /-- The PAM configurations that are there and cannot be opened. -/
  unreadable : Str → Bool := fun _ => false
  commit : CommitInput := {}
  /-- The state after a task, and whether it succeeded. -/
  undo : UndoTask → FileSystem → FileSystem × Bool
  /-- `IsProgramInstalled`. -/
  installed : Str → Bool := fun _ => false
  isSshEnabled : FileSystem → Bool := fun _ => false

section

variable (env : UninstallEnv) (fs : FileSystem)

/-- `Shell::Remove`. -/
def removePath (path : Str) : FileSystem × Bool :=
  match env.remove path with
  | .removed => (fs.set path none, true)
  | .failed gone => (if gone then fs.set path none else fs, false)

/-- The result is checked. -/
def orError (r : FileSystem × Bool) : Except FileSystem FileSystem :=
  if r.2 then .ok r.1 else .error r.1

/-- A module is removed if it is there. -/
def removeModule (path : Str) : Except FileSystem FileSystem :=
  if (fs.files path).isSome then orError (removePath env fs path) else .ok fs

/-- The services whose configurations are cleared. -/
def uninstallServices : List Str :=
  [str "sudo", str "polkit-1", str "gdm-password", str "sddm", str "kde", str "lightdm",
    str "cinnamon-screensaver", str "hyprlock"]

/-- The calls of a full uninstall. -/
def uninstallEdits : List Edit :=
  [pamConfigEntrySddm, pamConfigEntrySddmOld].map (fun entry => ⟨str "sddm", entry, false⟩) ++
    [pamConfigEntry, pamConfigEntryOld].flatMap (fun entry =>
      uninstallServices.map (fun configName => ⟨configName, entry, false⟩))

/-- The files as `PAMHelper` finds them. -/
def pamFiles : PAMFiles where
  pamDir configName := fs.files (pamConfigDir ++ configName)
  polkitService := (servicePath fs.files).bind fs.files

/-- The files as `PAMHelper` leaves them. -/
def setPamFiles (pam : PAMFiles) : FileSystem :=
  { fs with files := fun path =>
      if pamConfigDir.isPrefixOf path then pam.pamDir (path.drop pamConfigDir.length)
      else if servicePath fs.files = some path then pam.polkitService
      else fs.files path }

/-- The calls, and `Commit`. -/
def commitEntries : CommitResult :=
  commit env.commit ((uninstallEdits.map Edit.call).foldl (overlay.call false)
    { files := pamFiles fs, unreadable := env.unreadable })

/-- The part for the PAM configurations. -/
def removeEntries : Except FileSystem FileSystem :=
  orError (setPamFiles fs (commitEntries env fs).helper.files, !(commitEntries env fs).threw)

/-- The part for SSH. -/
def removeSsh : Except FileSystem FileSystem :=
  if env.isSshEnabled fs then orError (env.undo .disableSsh fs) else .ok fs

/-- The parts that only a full uninstall has, but for the command. -/
def removeIntegration (fullUninstall : Bool) : Except FileSystem FileSystem :=
  if fullUninstall then removeEntries env fs >>= removeSsh env else .ok fs

/-- Commands joined by `&&`, whose result is only logged. -/
def undoAll : List UndoTask → FileSystem → FileSystem
  | [], fs => fs
  | t :: ts, fs => if (env.undo t fs).2 then undoAll ts (env.undo t fs).1 else (env.undo t fs).1

/-- The parts for `ufw` and `firewalld`; the ports are those of the settings. -/
def removeFirewallRules (udp pairing unlock : Nat) : FileSystem :=
  let fs := if env.installed (str "ufw") then
    undoAll env [.ufwDelete udp, .ufwDelete pairing, .ufwDelete unlock] fs else fs
  if env.installed (str "firewall-cmd") then
    undoAll env [.firewalldRemove udp, .firewalldRemove pairing, .firewalldRemove unlock,
      .firewalldReload] fs
  else fs

/-- The part for SELinux. -/
def removePolicy : Except FileSystem FileSystem :=
  if env.installed (str "semodule") then orError (env.undo .semoduleRemove fs) else .ok fs

/-- `ServiceInstaller::UninstallCli`. -/
def uninstallCli : FileSystem :=
  let cliPath := str "/usr/bin/pulseunlock"
  if (fs.files cliPath).isSome then (removePath env fs cliPath).1 else fs

end

/-- `ServiceInstaller::Uninstall` on Linux. -/
def uninstall (env : UninstallEnv) (udp pairing unlock : Nat) (fullUninstall : Bool) (fs : FileSystem) :
    Except FileSystem FileSystem := do
  let fs ← removeModule env fs exePath
  let fs ← ((pamModuleDirs .linux).flatMap (fun dir => [dir ++ pamModuleFile .linux,
    dir ++ pamModuleFileOld .linux])).foldlM (removeModule env) fs
  let fs ← removeModule env fs askpassPath
  let fs ← removeIntegration env fs fullUninstall
  let fs := removeFirewallRules env (env.undo .appSettings fs).1 udp pairing unlock
  let fs ← removePolicy env fs
  return if fullUninstall then uninstallCli env fs else fs

/-- What the calls of a full uninstall make of a file, for the entries that they name. -/
def removals (entries : List Str) (file : Option Str) : Option Str :=
  entries.foldl (fun file entry => setContent false false entry false file) file

/-- Removing an entry brings no text up that stands in one line. -/
theorem contains_removeEntryFromFile (entry : Str) {mark text : Str} (hne : mark ≠ [])
    (hnewline : newline ∉ mark) (hmark : contains text mark = false) :
    contains (removeEntryFromFile text entry) mark = false := by
  apply Bool.eq_false_iff.mpr
  intro hcontains
  obtain ⟨l, hl, hinfix⟩ := (infix_iff_line hne hnewline).mp (contains_iff.mp hcontains)
  have hbody : l ∈ bodyOf newline (removeEntryFromFile text entry) := by
    apply mem_body hl
    rintro rfl
    exact hne (List.infix_nil.mp hinfix)
  rw [bodyOf_removeEntryFromFile] at hbody
  have hold : contains text mark = true := contains_iff.mpr ((infix_iff_line hne hnewline).mpr
    ⟨l, (List.mem_filter.mp (mem_of_mem_body hbody)).1, hinfix⟩)
  rw [hmark] at hold
  cases hold

theorem isGenerated_removeEntryFromFile (entry : Str) {text : Str} (hmark : isGenerated text = false) :
    isGenerated (removeEntryFromFile text entry) = false := by
  have hboth : contains text genEntry = false ∧ contains text genEntryOld = false := by
    simpa [isGenerated] using hmark
  unfold isGenerated
  rw [contains_removeEntryFromFile entry (by decide) (by decide) hboth.1,
    contains_removeEntryFromFile entry (by decide) (by decide) hboth.2]
  rfl

/-- What disabling an entry makes of a file that is not marked as generated. -/
theorem setContent_disabled_eq (entry : Str) (b : Bool) {text : Str} (hmark : isGenerated text = false) :
    setContent false b entry false (some text) =
      some (if contains text entry then removeEntryFromFile text entry else text) := by
  unfold setContent removedContent
  simp only [Bool.false_eq_true, if_false, hmark]
  split
  · rfl
  · rfl

theorem applyChanges_of_not_threw {input : CommitInput} {changes : List (Str × Option Str)}
    {pamDir : Str → Option Str} (h : (applyChanges input changes pamDir).2.2 = false) :
    applyChanges input changes pamDir = applyChanges {} changes pamDir := by
  induction changes generalizing pamDir with
  | nil => rfl
  | cons change changes ih =>
      obtain ⟨path, data⟩ := change
      unfold applyChanges at h ⊢
      cases hwrite : input.write path with
      | written =>
          simp only [hwrite] at h ⊢
          rw [ih h]
      | untouched => simp [hwrite] at h
      | stopped n => cases data <;> simp [hwrite] at h

/-- A `Commit` that can read the files and does not throw makes the files what the helper shows. -/
theorem commit_of_not_threw {input : CommitInput} (hi : input.Reads) {h : PAMHelper}
    (hthrew : (commit input h).threw = false) : (commit input h).helper.files = h.view := by
  have hdefault : CommitInput.Succeeds {} := CommitInput.succeeds_default
  have hsame : commit input h = commit {} h := by
    unfold commit at hthrew ⊢
    by_cases hthrows : h.pending.entries.any (input.throwsAt h.files.pamDir) = true
    · rw [if_pos hthrows] at hthrew
      cases hthrew
    · rw [if_neg hthrows] at hthrew ⊢
      rw [if_neg (by simp [hdefault.throwsAt])]
      dsimp only at hthrew ⊢
      simp only [hi.readFile, hdefault.reads.readFile] at hthrew ⊢
      rw [applyChanges_of_not_threw hthrew]
  rw [hsame, (commit_eq_view hdefault h).1]

/-- The edits of one file, by induction on all edits: those of other files do not matter. -/
theorem direct_edits_file (edits : List Edit) {files : PAMFiles}
    (hsystem : ∀ e ∈ edits, str "system-auth" ≠ e.configName) (n : Str) :
    ((edits.map Edit.call).foldl (direct.call false) files).pamDir n =
      (edits.filter (fun e => e.configName = n)).foldl (fun file e => e.content files file)
        (files.pamDir n) := by
  induction edits generalizing files with
  | nil => rfl
  | cons e edits ih =>
      obtain ⟨he, hedits⟩ := List.forall_mem_cons.mp hsystem
      have hcontent : (fun (file : Option Str) (d : Edit) =>
          d.content (direct.call false files e.call) file) = fun file d => d.content files file := by
        funext file d
        unfold Edit.content
        rw [direct_call_other false files e.call he]
      rw [List.map_cons, List.foldl_cons, ih hedits, hcontent]
      by_cases hn : e.configName = n
      · subst hn
        rw [List.filter_cons_of_pos (by simp), List.foldl_cons]
        congr 1
        exact direct_setConfigEntry e.enabled
      · rw [List.filter_cons_of_neg (by simpa using hn)]
        congr 1
        exact direct_call_other false files e.call (Ne.symm hn)

/-- What a helper that can read the files shows of one of them after edits. -/
theorem overlay_edits_view {edits : List Edit} (files : PAMFiles) {unreadable : Str → Bool}
    (hread : ∀ n, unreadable n = false) (hsystem : ∀ e ∈ edits, str "system-auth" ≠ e.configName)
    (n : Str) :
    ((edits.map Edit.call).foldl (overlay.call false)
        { files := files, unreadable := unreadable }).view.pamDir n =
      (edits.filter (fun e => e.configName = n)).foldl (fun file e => e.content files file)
        (files.pamDir n) := by
  have hview : ((edits.map Edit.call).foldl (overlay.call false)
      { files := files, unreadable := unreadable }).view =
      (edits.map Edit.call).foldl (direct.call false) files := by
    refine overlay_shows.calls false _ ⟨OrderedMap.lookup_empty _, hread⟩ ?_
    intro c hc
    obtain ⟨e, he, rfl⟩ := List.mem_map.mp hc
    exact Ne.symm (hsystem e he)
  rw [hview]
  exact direct_edits_file edits hsystem n

/-- The entries that a full uninstall removes from a configuration, in their order. -/
def removedEntries (configName : Str) : List Str :=
  (uninstallEdits.filter (fun e => e.configName = configName)).map Edit.entry

theorem uninstallEdits_spec : ∀ e ∈ uninstallEdits, e.enabled = false ∧
    str "system-auth" ≠ e.configName ∧ e.configName ∈ uninstallServices ∧
      e.entry ∈ serviceEntries false := by
  decide +kernel

theorem isEntry_removedEntries {configName : Str} : ∀ entry ∈ removedEntries configName, IsEntry entry := by
  intro entry hentry
  obtain ⟨e, he, rfl⟩ := List.mem_map.mp hentry
  exact isEntry_of_mem (uninstallEdits_spec e (List.mem_filter.mp he).1).2.2.2

theorem removedEntries_other {configName : Str} (h : configName ∉ uninstallServices) :
    removedEntries configName = [] := by
  unfold removedEntries
  rw [List.map_eq_nil_iff, List.filter_eq_nil_iff]
  intro e he hsame
  rw [decide_eq_true_eq] at hsame
  exact h (hsame ▸ (uninstallEdits_spec e he).2.2.1)

/-- Every PAM configuration that is there can be read, when it is edited and when it is compared. -/
structure UninstallEnv.Reads (env : UninstallEnv) : Prop where
  readable : ∀ n, env.unreadable n = false
  commit : env.commit.Reads

section

variable {env : UninstallEnv} {fs fs' : FileSystem}

theorem orError_eq_ok {r : FileSystem × Bool} (h : orError r = .ok fs') : r.2 = true ∧ fs' = r.1 := by
  unfold orError at h
  split at h
  · next hr =>
      cases h
      exact ⟨hr, rfl⟩
  · cases h

theorem isPrefixOf_pamConfig (n : Str) : pamConfigDir.isPrefixOf (pamConfigDir ++ n) = true :=
  List.isPrefixOf_iff_prefix.mpr (List.prefix_append _ _)

theorem setPamFiles_pamDir (pam : PAMFiles) (n : Str) :
    (setPamFiles fs pam).files (pamConfigDir ++ n) = pam.pamDir n := by
  unfold setPamFiles
  simp only [isPrefixOf_pamConfig, if_true, List.drop_left]

/-- The part for the PAM configurations takes the entries out of each of them and makes no file that is
not there. -/
theorem removeEntries_eq_ok (hread : env.Reads) (h : removeEntries env fs = .ok fs') :
    (∀ n, fs'.files (pamConfigDir ++ n) = removals (removedEntries n) (fs.files (pamConfigDir ++ n))) ∧
      ∀ q, pamConfigDir.isPrefixOf q = false → servicePath fs.files ≠ some q →
        fs'.files q = fs.files q := by
  unfold removeEntries at h
  obtain ⟨hreturned, rfl⟩ := orError_eq_ok h
  have hthrew : (commitEntries env fs).threw = false := by simpa using hreturned
  have hsystem : ∀ e ∈ uninstallEdits, str "system-auth" ≠ e.configName :=
    fun e he => (uninstallEdits_spec e he).2.1
  refine ⟨?_, ?_⟩
  · intro n
    rw [setPamFiles_pamDir]
    unfold commitEntries at hthrew ⊢
    rw [commit_of_not_threw hread.commit hthrew, overlay_edits_view _ hread.readable hsystem]
    show List.foldl _ (fs.files (pamConfigDir ++ n)) _ = _
    unfold removals removedEntries
    rw [List.foldl_map]
    -- whether there is a `system-auth` does not matter for removing
    apply List.foldl_ext
    intro file e he
    unfold Edit.content
    rw [(uninstallEdits_spec e (List.mem_filter.mp he).1).1]
    cases file <;> rfl
  · intro q hq hpolkit
    show (if pamConfigDir.isPrefixOf q then _ else if servicePath fs.files = some q then _ else _) = _
    rw [hq, if_neg (by decide), if_neg hpolkit]

/-- A module that is removed, and the other files. -/
theorem removeModule_eq_ok {path : Str} (h : removeModule env fs path = .ok fs') :
    fs' = fs.set path none := by
  unfold removeModule at h
  split at h
  · obtain ⟨hok, rfl⟩ := orError_eq_ok h
    unfold removePath at hok ⊢
    split at hok
    · rfl
    · cases hok
  · next hnone =>
      cases h
      exact (fs.set_of_eq (by simpa using hnone)).symm

theorem removeModules_eq_ok {paths : List Str} (h : paths.foldlM (removeModule env) fs = .ok fs') :
    (∀ q ∈ paths, fs'.files q = none) ∧ ∀ q ∉ paths, fs'.files q = fs.files q := by
  induction paths generalizing fs with
  | nil =>
      cases h
      refine ⟨?_, fun _ _ => rfl⟩
      intro q hq
      cases hq
  | cons path paths ih =>
      rw [List.foldlM_cons] at h
      cases hpath : removeModule env fs path with
      | error e =>
          rw [hpath] at h
          cases h
      | ok middle =>
          rw [hpath] at h
          obtain ⟨hgone, hother⟩ := ih h
          rw [removeModule_eq_ok hpath] at hother
          refine ⟨?_, ?_⟩
          · intro q hq
            by_cases hlater : q ∈ paths
            · exact hgone q hlater
            · rw [hother q hlater]
              rcases List.mem_cons.mp hq with rfl | hq
              · exact FileSystem.set_files_self fs q none
              · exact absurd hq hlater
          · intro q hq
            rw [List.mem_cons, not_or] at hq
            rw [hother q hq.2, FileSystem.set_files_ne fs hq.1]

end

/-! ## The whole uninstall -/

/-- The tasks concern other files: none of them changes a module or a PAM configuration. -/
def UninstallEnv.Frames (env : UninstallEnv) : Prop :=
  ∀ t fs q, q ∈ modulePaths .linux ∨ pamConfigDir.isPrefixOf q = true →
    (env.undo t fs).1.files q = fs.files q

/-- No module is there, and the PAM configurations are as given. -/
structure Cleared (pamDir : Str → Option Str) (fs : FileSystem) : Prop where
  modules : ∀ q ∈ modulePaths .linux, fs.files q = none
  pam : ∀ n, fs.files (pamConfigDir ++ n) = pamDir n

theorem isPrefixOf_modulePaths : ∀ q ∈ modulePaths .linux, pamConfigDir.isPrefixOf q = false := by
  decide +kernel

/-- A PAM configuration is none of the files outside their directory. -/
theorem pamConfig_ne {q : Str} (hq : pamConfigDir.isPrefixOf q = false) (n : Str) :
    pamConfigDir ++ n ≠ q := by
  rintro rfl
  rw [isPrefixOf_pamConfig] at hq
  cases hq

section

variable {env : UninstallEnv} {fs fs' : FileSystem} {pamDir : Str → Option Str}

theorem Cleared.undo (h : Cleared pamDir fs) (hf : env.Frames) (t : UndoTask) :
    Cleared pamDir (env.undo t fs).1 where
  modules q hq := (hf t fs q (Or.inl hq)).trans (h.modules q hq)
  pam n := (hf t fs _ (Or.inr (isPrefixOf_pamConfig n))).trans (h.pam n)

theorem Cleared.undoOrError (h : Cleared pamDir fs) (hf : env.Frames) {t : UndoTask}
    (hreturned : orError (env.undo t fs) = .ok fs') : Cleared pamDir fs' := by
  obtain ⟨-, rfl⟩ := orError_eq_ok hreturned
  exact h.undo hf t

theorem Cleared.undoAll (h : Cleared pamDir fs) (hf : env.Frames) (ts : List UndoTask) :
    Cleared pamDir (undoAll env ts fs) := by
  induction ts generalizing fs with
  | nil => exact h
  | cons t ts ih =>
      unfold ServiceInstaller.undoAll
      split
      · exact ih (h.undo hf t)
      · exact h.undo hf t

theorem Cleared.removeFirewallRules (h : Cleared pamDir fs) (hf : env.Frames)
    (udp pairing unlock : Nat) :
    Cleared pamDir (removeFirewallRules env fs udp pairing unlock) := by
  unfold ServiceInstaller.removeFirewallRules
  simp only
  split
  · split
    · exact (h.undoAll hf _).undoAll hf _
    · exact h.undoAll hf _
  · split
    · exact h.undoAll hf _
    · exact h

/-- The command is neither a module nor a PAM configuration. -/
theorem Cleared.uninstallCli (h : Cleared pamDir fs) : Cleared pamDir (uninstallCli env fs) := by
  have hset : Cleared pamDir (fs.set (str "/usr/bin/pulseunlock") none) := by
    constructor
    · intro q hq
      rw [FileSystem.set_files_ne fs (by rintro rfl; exact absurd hq (by decide +kernel))]
      exact h.modules q hq
    · intro n
      rw [FileSystem.set_files_ne fs (pamConfig_ne (by decide +kernel) n)]
      exact h.pam n
  unfold ServiceInstaller.uninstallCli removePath
  simp only
  split
  · split
    · exact hset
    · next gone _ =>
        cases gone with
        | true => exact hset
        | false => exact h
  · exact h

/-- The first part: the modules are gone, and nothing else has changed. -/
theorem removeModules_cleared {fs₁ fs₂ fs₃ : FileSystem} (h₁ : removeModule env fs exePath = .ok fs₁)
    (h₂ : ((pamModuleDirs .linux).flatMap (fun dir => [dir ++ pamModuleFile .linux,
      dir ++ pamModuleFileOld .linux])).foldlM (removeModule env) fs₁ = .ok fs₂)
    (h₃ : removeModule env fs₂ askpassPath = .ok fs₃) :
    Cleared (fun n => fs.files (pamConfigDir ++ n)) fs₃ := by
  obtain ⟨hgone, hother⟩ := removeModules_eq_ok h₂
  rw [removeModule_eq_ok h₃]
  rw [removeModule_eq_ok h₁] at hother
  constructor
  · intro q hq
    by_cases haskpass : q = askpassPath
    · subst haskpass
      exact FileSystem.set_files_self fs₂ askpassPath none
    · rw [FileSystem.set_files_ne fs₂ haskpass]
      by_cases hpam : q ∈ (pamModuleDirs .linux).flatMap (fun dir => [dir ++ pamModuleFile .linux,
        dir ++ pamModuleFileOld .linux])
      · exact hgone q hpam
      · have hexe : q = exePath := by
          rcases List.mem_append.mp hq with hq | hq
          · rcases List.mem_cons.mp hq with hq | hq
            · exact hq
            · exact absurd (List.mem_singleton.mp hq) haskpass
          · exact absurd hq hpam
        subst hexe
        rw [hother exePath hpam]
        exact FileSystem.set_files_self fs exePath none
  · intro n
    have hne : ∀ q ∈ modulePaths .linux, pamConfigDir ++ n ≠ q :=
      fun q hq => pamConfig_ne (isPrefixOf_modulePaths q hq) n
    rw [FileSystem.set_files_ne fs₂ (hne askpassPath (by simp [modulePaths])),
      hother _ (fun hpam => hne _ (List.mem_append_right _ hpam) rfl),
      FileSystem.set_files_ne fs (hne exePath (by simp [modulePaths]))]

/-- The part for the PAM configurations brings no module back. -/
theorem Cleared.removeEntries (h : Cleared pamDir fs) (hread : env.Reads)
    (hreturned : removeEntries env fs = .ok fs') :
    Cleared (fun n => removals (removedEntries n) (pamDir n)) fs' := by
  obtain ⟨hpam, hother⟩ := removeEntries_eq_ok hread hreturned
  constructor
  · intro q hq
    rw [hother q (isPrefixOf_modulePaths q hq), h.modules q hq]
    -- the unit file of the polkit agent helper is a file that is there
    intro hpath
    have hsome := List.find?_some hpath
    rw [h.modules q hq] at hsome
    cases hsome
  · intro n
    rw [hpam n, h.pam n]

/-- What an uninstall that returns has made of the files. -/
theorem uninstall_cleared (hf : env.Frames) {udp pairing unlock : Nat} {fullUninstall : Bool}
    (hread : fullUninstall = true → env.Reads)
    (h : uninstall env udp pairing unlock fullUninstall fs = .ok fs') :
    Cleared (fun n => if fullUninstall then removals (removedEntries n) (fs.files (pamConfigDir ++ n))
      else fs.files (pamConfigDir ++ n)) fs' := by
  unfold uninstall at h
  obtain ⟨fs₁, h₁, h⟩ := bind_eq_ok.mp h
  obtain ⟨fs₂, h₂, h⟩ := bind_eq_ok.mp h
  obtain ⟨fs₃, h₃, h⟩ := bind_eq_ok.mp h
  obtain ⟨fs₄, h₄, h⟩ := bind_eq_ok.mp h
  obtain ⟨fs₅, h₅, h⟩ := bind_eq_ok.mp h
  cases h
  have hmodules := removeModules_cleared h₁ h₂ h₃
  have hrest {dir : Str → Option Str} (h₄ : Cleared dir fs₄) : Cleared dir fs₅ := by
    have hrules := (h₄.undo hf .appSettings).removeFirewallRules hf udp pairing unlock
    unfold removePolicy at h₅
    split at h₅
    · exact hrules.undoOrError hf h₅
    · cases h₅
      exact hrules
  cases fullUninstall with
  | false =>
      cases h₄
      exact hrest hmodules
  | true =>
      refine (hrest ?_).uninstallCli
      obtain ⟨middle, hentries, hssh⟩ := bind_eq_ok.mp h₄
      have hcleared := hmodules.removeEntries (hread rfl) hentries
      unfold removeSsh at hssh
      split at hssh
      · exact hcleared.undoOrError hf hssh
      · cases hssh
        exact hcleared

end

end ServiceInstaller

namespace Sample

open ServiceInstaller

end Sample

namespace ServiceInstaller

end ServiceInstaller

end PcbuDesktop
