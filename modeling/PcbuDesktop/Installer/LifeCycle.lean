import PcbuDesktop.Installer.Restored

set_option autoImplicit false

/-! # From the first installation to the full uninstall

What `AppInstaller` and the settings do to a system is a sequence of operations: the service is installed,
settings are applied, it is uninstalled in part and installed again. An installation moves entries of older
versions to the present ones; where none were, it leaves the PAM configurations alone. So the full
uninstall gives them back after any such sequence.
-/

namespace PcbuDesktop

open Runs Lines KeyedList PAMHelper

namespace ServiceInstaller

/-! ## Nothing of an older version -/

/-- The text has neither an entry nor the mark of an older version. -/
def HasNothingOld (text : Str) : Prop :=
  contains text pamConfigEntryOld = false ∧ contains text genEntryOld = false

instance (text : Str) : Decidable (HasNothingOld text) := inferInstanceAs (Decidable (_ ∧ _))

def NothingOld (file : Option Str) : Prop := ∀ text, file = some text → HasNothingOld text

section

variable {entry : Str}

/-- The entries that the settings use are not of an older version. -/
structure IsCurrent (entry : Str) : Prop extends IsEntry entry where
  not_old : ∀ l ∈ lines entry, ¬ pamConfigEntryOld <:+: l
  generated : ∀ includes ∈ [commonIncludes, systemIncludes], NothingOld (some (genConfig includes entry))

theorem isCurrent_of_head {n : Str} (h : (removedEntries n).head? = some entry) : IsCurrent entry := by
  have hmem : entry ∈ removedEntries n := List.mem_of_mem_head? h
  have hall : ∀ n ∈ uninstallServices, ∀ entry ∈ (removedEntries n).head?,
      (∀ l ∈ lines entry, ¬ pamConfigEntryOld <:+: l) ∧
        ∀ includes ∈ [commonIncludes, systemIncludes],
          contains (genConfig includes entry) pamConfigEntryOld = false ∧
            contains (genConfig includes entry) genEntryOld = false := by
    decide +kernel
  obtain ⟨hlines, hgenerated⟩ := hall n (service_of_mem hmem) entry h
  refine ⟨isEntry_removedEntries entry hmem, hlines, ?_⟩
  rintro includes hincludes text ⟨⟩
  exact hgenerated includes hincludes

theorem contains_addEntryToFile {mark text : Str} (hne : mark ≠ []) (hnewline : newline ∉ mark)
    (hheader : ¬ mark <:+: header) (hentry : ∀ l ∈ lines entry, ¬ mark <:+: l)
    (h : contains text mark = false) : contains (addEntryToFile text entry) mark = false := by
  apply Bool.eq_false_iff.mpr
  intro hcontains
  have hold := (infix_mark_addEntryToFile hne hnewline hheader hentry).mp (contains_iff.mp hcontains)
  rw [contains_iff.mpr hold] at h
  cases h

/-- An edit with a present entry brings nothing old. -/
theorem NothingOld.setContent {file : Option Str} (h : NothingOld file) (hentry : IsCurrent entry)
    (hasSystemAuth enabled : Bool) :
    NothingOld (setContent false hasSystemAuth entry enabled file) := by
  rcases file with - | text
  · cases enabled with
    | false => exact h
    | true =>
        cases hasSystemAuth with
        | false => exact hentry.generated commonIncludes (by simp)
        | true => exact hentry.generated systemIncludes (by simp)
  · obtain ⟨hold, hmark⟩ := h text rfl
    cases enabled with
    | false =>
        unfold PAMHelper.setContent removedContent
        simp only [Bool.false_eq_true, if_false]
        split
        · split
          · exact nofun
          · rintro _ ⟨⟩
            exact ⟨contains_removeEntryFromFile entry (by decide) (by decide +kernel) hold,
              contains_removeEntryFromFile entry (by decide) (by decide) hmark⟩
        · exact h
    | true =>
        rw [setContent_enabled_eq]
        split
        · exact h
        · rintro _ ⟨⟩
          refine ⟨contains_addEntryToFile (by decide) (by decide +kernel) (by decide +kernel)
            hentry.not_old hold, ?_⟩
          exact contains_addEntryToFile (by decide) (by decide) (by decide +kernel)
            (fun l hl => (hentry.not_marked l hl).2) hmark

end

/-! ## An installation over clean files -/

/-- The PAM configurations are as before. -/
def SamePam (fs fs' : FileSystem) : Prop :=
  ∀ n, fs'.files (pamConfigDir ++ n) = fs.files (pamConfigDir ++ n)

theorem SamePam.refl (fs : FileSystem) : SamePam fs fs := fun _ => rfl

theorem SamePam.trans {fs fs' fs'' : FileSystem} (h : SamePam fs fs') (h' : SamePam fs' fs'') :
    SamePam fs fs'' := fun n => (h' n).trans (h n)

/-- The tasks of an installation concern other files. -/
def InstallEnv.FramesPam (env : InstallEnv) : Prop := ∀ t fs, SamePam fs (env.task t fs).1

section

variable {env : InstallEnv} {fs fs' : FileSystem} {path : Str}

theorem samePam_set (hpath : pamConfigDir.isPrefixOf path = false) (data : Option Bytes) :
    SamePam fs (fs.set path data) := fun n => fs.set_files_ne (pamConfig_ne hpath n) data

theorem samePam_writeBytes (hpath : pamConfigDir.isPrefixOf path = false) (data : Bytes) :
    SamePam fs (writeBytes env fs path data).1 := by
  unfold writeBytes
  split
  · exact samePam_set hpath _
  · exact SamePam.refl fs
  · exact samePam_set hpath _

theorem samePam_remove (hpath : pamConfigDir.isPrefixOf path = false) :
    SamePam fs (remove env fs path).1 := by
  unfold remove
  split
  · exact samePam_set hpath _
  · exact SamePam.refl fs

theorem samePam_orThrow {r : FileSystem × Bool} (h : orThrow r = some fs') (hr : SamePam fs r.1) :
    SamePam fs fs' := by
  obtain ⟨-, rfl⟩ := orThrow_eq_some h
  exact hr

theorem samePam_runAll (hf : env.FramesPam) (ts : List Task) : SamePam fs (runAll env ts fs) := by
  induction ts generalizing fs with
  | nil => exact SamePam.refl fs
  | cons t ts ih =>
      unfold runAll
      split
      · exact (hf t fs).trans ih
      · exact hf t fs

theorem samePam_addFirewallRules (hf : env.FramesPam) (udp pairing unlock : Nat) :
    SamePam fs (addFirewallRules env udp pairing unlock fs) := by
  unfold addFirewallRules
  simp only
  split
  · split
    · exact (samePam_runAll hf _).trans (samePam_runAll hf _)
    · exact samePam_runAll hf _
  · split
    · exact samePam_runAll hf _
    · exact SamePam.refl fs

theorem samePam_installPolicy (hf : env.FramesPam) (h : installPolicy env fs = some fs') :
    SamePam fs fs' := by
  have htmp : pamConfigDir.isPrefixOf (str "/tmp/pcbu_auth_policy.pp") = false := by decide +kernel
  unfold installPolicy at h
  obtain ⟨fs₁, h₁, h⟩ := Option.bind_eq_some_iff.mp h
  cases h
  exact ((samePam_writeBytes htmp _).trans (samePam_orThrow h₁ (hf _ _))).trans (samePam_remove htmp)

theorem samePam_installPamModules
    (h : (pamModuleDirs .linux).foldlM (installPamModule env) fs = some fs') : SamePam fs fs' := by
  have hpaths : ∀ dir ∈ pamModuleDirs .linux,
      pamConfigDir.isPrefixOf (dir ++ pamModuleFile .linux) = false ∧
        pamConfigDir.isPrefixOf (dir ++ pamModuleFileOld .linux) = false := by
    decide +kernel
  have hdir {dir : Str} (hdir : dir ∈ pamModuleDirs .linux) {fs fs' : FileSystem}
      (h : installPamModule env fs dir = some fs') : SamePam fs fs' := by
    intro n
    exact (installPamModule_spec h).2.2 _ (pamConfig_ne (hpaths dir hdir).1 n)
      (pamConfig_ne (hpaths dir hdir).2 n)
  unfold pamModuleDirs at h
  obtain ⟨fs₁, h₁, h⟩ := Option.bind_eq_some_iff.mp h
  obtain ⟨fs₂, h₂, h⟩ := Option.bind_eq_some_iff.mp h
  cases h
  exact (hdir (by simp [pamModuleDirs]) h₁).trans (hdir (by simp [pamModuleDirs]) h₂)

/-- The call moves an entry of an older version, in the configuration of a service. -/
def isMigration : PAMCall → Bool
  | .setConfigEntry _ _ _ => false
  | .migrateConfigEntry configName oldEntry _ =>
      uninstallServices.any (fun n => n = configName) && contains oldEntry pamConfigEntryOld

/-- Nothing is migrated in a text with nothing old. -/
theorem HasNothingOld.migratedText {text oldEntry : Str} (h : HasNothingOld text)
    (hpart : contains oldEntry pamConfigEntryOld = true) (newEntry : Str) :
    PAMHelper.migratedText oldEntry newEntry text = none := by
  obtain ⟨hold, hmark⟩ := h
  have hentry : contains text oldEntry = false := by
    apply Bool.eq_false_iff.mpr
    intro hcontains
    have hinfix := (contains_iff.mp hpart).trans (contains_iff.mp hcontains)
    rw [contains_iff.mpr hinfix] at hold
    cases hold
  unfold PAMHelper.migratedText
  simp [hmark, hentry]

theorem nothingOld_empty : HasNothingOld [] := by decide +kernel

/-- Nothing is migrated where there is nothing old. -/
theorem migrate_nothing {h : PAMHelper} {c : PAMCall} (hc : isMigration c = true)
    (hpending : h.pending = .empty) (hnone : ∀ n ∈ uninstallServices, NothingOld (h.files.pamDir n)) :
    overlay.call false h c = h := by
  cases c with
  | setConfigEntry configName entry enabled => cases hc
  | migrateConfigEntry configName oldEntry newEntry =>
      obtain ⟨hservice, hpart⟩ := (Bool.and_eq_true _ _).mp hc
      have hnothing := hnone configName (by simpa using hservice)
      have hexists : overlay.configExists h configName = (h.files.pamDir configName).isSome := by
        show h.configExists configName = _
        unfold PAMHelper.configExists
        rw [hpending, OrderedMap.lookup_empty]
      have hread : overlay.readConfig h configName =
          if h.unreadable configName then [] else (h.files.pamDir configName).getD [] := by
        show h.readConfig configName = _
        unfold PAMHelper.readConfig
        rw [hpending, OrderedMap.lookup_empty]
      show overlay.migrateConfigEntry h configName oldEntry newEntry = h
      unfold ConfigStore.migrateConfigEntry
      rw [hexists, hread]
      cases hfile : h.files.pamDir configName with
      | none => rfl
      | some text =>
          have hnone := (hnothing text hfile).migratedText hpart newEntry
          have hempty := nothingOld_empty.migratedText hpart newEntry
          rw [if_neg (by simp)]
          -- a file that cannot be opened has nothing old either, as far as the program sees
          by_cases hopened : h.unreadable configName = true
          · rw [if_pos hopened, hempty]
          · rw [if_neg hopened, Option.getD_some, hnone]

/-- Where nothing is pending, `Commit` writes nothing, whatever it meets. -/
theorem commit_of_empty (input : CommitInput) {h : PAMHelper} (hpending : h.pending = .empty) :
    (commit input h).helper.files = h.files := by
  unfold commit
  rw [hpending]
  rfl

theorem migrations_nothing {h : PAMHelper} {calls : List PAMCall}
    (hcalls : ∀ c ∈ calls, isMigration c = true) (hpending : h.pending = .empty)
    (hnone : ∀ n ∈ uninstallServices, NothingOld (h.files.pamDir n)) :
    calls.foldl (overlay.call false) h = h := by
  induction calls with
  | nil => rfl
  | cons c calls ih =>
      obtain ⟨hc, hcalls⟩ := List.forall_mem_cons.mp hcalls
      rw [List.foldl_cons, migrate_nothing hc hpending hnone]
      exact ih hcalls

theorem samePam_migratePam {calls : List PAMCall} (hcalls : ∀ c ∈ calls, isMigration c = true)
    (hnone : ∀ n ∈ uninstallServices, NothingOld (fs.files (pamConfigDir ++ n)))
    (h : migratePam env fs false calls = some fs') : SamePam fs fs' := by
  unfold migratePam at h
  simp only at h
  rw [migrations_nothing hcalls rfl hnone] at h
  split at h
  · cases h
  · cases h
    intro n
    simp only [isPrefixOf_pamConfig, if_true, List.drop_left]
    rw [commit_of_empty _ rfl]

/-- An installation where nothing old is leaves the PAM configurations alone. -/
theorem samePam_installLinux (hf : env.FramesPam) {udp pairing unlock : Nat}
    (hnone : ∀ n ∈ uninstallServices, NothingOld (fs.files (pamConfigDir ++ n)))
    (h : installLinux env udp pairing unlock fs = some fs') : SamePam fs fs' := by
  have hexe := isPrefixOf_modulePaths exePath (by simp [modulePaths])
  have haskpass := isPrefixOf_modulePaths askpassPath (by simp [modulePaths])
  have hcreate (fs : FileSystem) (path : Str) : SamePam fs (createDir env fs path) := by
    unfold createDir
    split
    · exact SamePam.refl fs
    · exact SamePam.refl fs
  unfold installLinux at h
  obtain ⟨fs₁, h₁, h⟩ := Option.bind_eq_some_iff.mp h
  obtain ⟨fs₂, h₂, h⟩ := Option.bind_eq_some_iff.mp h
  obtain ⟨fs₃, h₃, h⟩ := Option.bind_eq_some_iff.mp h
  obtain ⟨fs₄, h₄, h⟩ := Option.bind_eq_some_iff.mp h
  obtain ⟨fs₅, h₅, h⟩ := Option.bind_eq_some_iff.mp h
  obtain ⟨fs₆, h₆, h⟩ := Option.bind_eq_some_iff.mp h
  have hmodules : SamePam fs fs₅ :=
    ((((samePam_orThrow h₁ (samePam_writeBytes hexe _)).trans (samePam_orThrow h₂ (hf _ _))).trans
      (hcreate fs₂ _)).trans (samePam_installPamModules h₃)).trans
        ((samePam_orThrow h₄ (samePam_writeBytes haskpass _)).trans (samePam_orThrow h₅ (hf _ _)))
  have hcli : SamePam fs (env.task .installCli fs₅).1 := hmodules.trans (hf _ _)
  have hmigrated : SamePam fs fs₆ := by
    refine hcli.trans (samePam_migratePam (by decide +kernel) ?_ h₆)
    intro n hn
    rw [hcli n]
    exact hnone n hn
  have hrules := (hmigrated.trans (hf .appSettings fs₆)).trans
    (samePam_addFirewallRules hf udp pairing unlock)
  simp only at h
  split at h
  · exact hrules.trans (samePam_installPolicy hf h)
  · cases h
    exact hrules

end

/-! ## Any sequence of operations -/

/-- An operation before the full uninstall. -/
inductive Operation where
  | install (env : InstallEnv) (udp pairing unlock : Nat)
  | applySettings (run : ApplyRun)
  /-- The first half of a reinstallation. -/
  | uninstall (env : UninstallEnv) (udp pairing unlock : Nat)

/-- The files after an operation that returns. -/
def operate (fs : FileSystem) : Operation → Option FileSystem
  | .install env udp pairing unlock => installLinux env udp pairing unlock fs
  | .applySettings run => some (run.after fs)
  | .uninstall env udp pairing unlock => (uninstall env udp pairing unlock false fs).toOption

/-- The other programs that the operation runs leave its files alone; where settings are applied, the
files can be read, and none is left half written. -/
def Operation.Frames : Operation → Prop
  | .install env _ _ _ => env.FramesPam
  | .applySettings run => run.Sound
  | .uninstall env _ _ _ => env.Frames

/-- What has become of the PAM configurations. -/
structure Managed (before : FileSystem) (fs : FileSystem) : Prop where
  since : ∀ n, Since n (before.files (pamConfigDir ++ n)) (fs.files (pamConfigDir ++ n))
  nothingOld : ∀ n ∈ uninstallServices, NothingOld (fs.files (pamConfigDir ++ n))

section

variable {before fs fs' : FileSystem}

theorem Managed.of_same (h : Managed before fs) (hsame : SamePam fs fs') : Managed before fs' where
  since n := by
    rw [hsame n]
    exact h.since n
  nothingOld n hn := by
    rw [hsame n]
    exact h.nothingOld n hn

/-- One operation. -/
theorem Managed.operate (h : Managed before fs) {op : Operation} (hf : op.Frames)
    (hstep : operate fs op = some fs') : Managed before fs' := by
  cases op with
  | install env udp pairing unlock => exact h.of_same (samePam_installLinux hf h.nothingOld hstep)
  | applySettings run =>
      cases hstep
      constructor
      · intro n
        exact (h.since n).run hf
      · intro n hn
        refine ApplyRun.after_preserves hf ?_ (h.nothingOld n hn)
        intro e he _ file hfile
        exact hfile.setContent (isCurrent_of_head he) _ _
  | uninstall env udp pairing unlock =>
      have hreturns : (ServiceInstaller.uninstall env udp pairing unlock false fs).toOption = some fs' :=
        hstep
      cases hreturned : ServiceInstaller.uninstall env udp pairing unlock false fs with
      | error fs₁ =>
          rw [hreturned] at hreturns
          cases hreturns
      | ok fs₁ =>
          rw [hreturned] at hreturns
          cases hreturns
          -- the first half does not look at the PAM configurations
          have hread : false = true → env.Reads := nofun
          exact h.of_same (uninstall_cleared hf hread hreturned).pam

/-- Operations, by the invariant rule. -/
theorem Managed.run (h : Managed before fs) {ops : List Operation} (hops : ∀ op ∈ ops, op.Frames)
    (hrun : exec ServiceInstaller.operate fs ops = some fs') : Managed before fs' :=
  exec_inv_along (P := fun _ op => op.Frames) (fun _ _ _ h hf hstep => h.operate hf hstep) h
    (along_of_forall (fun _ => hops)) hrun

end

/-- Before the first installation no configuration of a service has anything of this program, in any of
its versions. -/
structure Untouched (fs : FileSystem) : Prop where
  clean : Clean fs
  nothingOld : ∀ n ∈ uninstallServices, NothingOld (fs.files (pamConfigDir ++ n))

end ServiceInstaller

namespace Sample

open ServiceInstaller

end Sample

namespace ServiceInstaller

end ServiceInstaller

end PcbuDesktop
