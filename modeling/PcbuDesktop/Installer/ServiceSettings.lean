import PcbuDesktop.Installer.PAMEntry

set_option autoImplicit false

/-! # The service settings on Linux

`ServiceInstaller` (`installer/service/ServiceInstaller.Linux.cpp`) shows the PAM configurations as
three switches and applies switches to the configurations. The switch for logins stands for six
display managers and lock screens: it is on if one of their files has the entry, and it is applied
to those that are installed. Reading the settings and applying them again is therefore not always
without effect.
-/

namespace PcbuDesktop

open Lines KeyedList PAMHelper

namespace ServiceInstaller

/-! ## The settings -/

/-- `ServiceSetting`, a switch. Its name for the user is left out. -/
structure ServiceSetting where
  id : Str
  enabled : Bool
  defaultVal : Bool
  deriving DecidableEq, Repr

/-- A program with its PAM configuration. -/
structure LoginManager where
  program : Str
  configName : Str
  entry : Str
  deriving DecidableEq, Repr

/-- The display managers and lock screens behind the setting `login`. -/
def loginManagers : List LoginManager :=
  [⟨str "gdm", str "gdm-password", pamConfigEntry⟩,
    ⟨str "sddm", str "sddm", pamConfigEntrySddm⟩,
    ⟨str "kde-open", str "kde", pamConfigEntry⟩,
    ⟨str "lightdm", str "lightdm", pamConfigEntry⟩,
    ⟨str "cinnamon", str "cinnamon-screensaver", pamConfigEntry⟩,
    ⟨str "hyprlock", str "hyprlock", pamConfigEntry⟩]

/-- What the settings are read from and applied to: the PAM files with the helper, the switch in the
settings file, and whether the environment file has the SSH block. -/
structure ServiceState where
  helper : PAMHelper
  unixSetPasswordPAM : Bool
  isSshEnabled : Bool

def isLoginEnabled (files : PAMFiles) : Bool :=
  loginManagers.any (fun m => hasConfigEntry files m.configName m.entry)

/-- `ServiceInstaller::GetSettings`; `installed` is `IsProgramInstalled`. -/
def getSettings (installed : Str → Bool) (s : ServiceState) : List ServiceSetting :=
  let files := s.helper.files
  [⟨str "sudo", hasConfigEntry files (str "sudo") pamConfigEntry, installed (str "sudo")⟩,
    ⟨str "polkit", hasConfigEntry files (str "polkit-1") pamConfigEntry, installed (str "pkexec")⟩,
    ⟨str "login", isLoginEnabled files, loginManagers.any (fun m => installed m.program)⟩,
    ⟨str "pamSetPassword", s.unixSetPasswordPAM, false⟩,
    ⟨str "ssh", s.isSshEnabled, false⟩]

/-- What `ApplySettings` meets: whether the settings file or the environment file makes it throw, and
what `Commit` meets. -/
structure ApplyInput where
  storeThrows : Bool := false
  sshThrows : Bool := false
  commit : CommitInput := {}

/-- The calls for the setting `login`. -/
def loginCalls (installed : Str → Bool) (isEnabled : Bool) : List PAMCall :=
  (loginManagers.filter (fun m => installed m.program)).map
    (fun m => .setConfigEntry m.configName m.entry isEnabled)

/-- One round of the loop of `ApplySettings`; an error carries the state in which it throws. -/
def applySetting (input : ApplyInput) (installed : Str → Bool) (useDefault : Bool)
    (s : ServiceState) (setting : ServiceSetting) : Except ServiceState ServiceState :=
  let isEnabled := if useDefault then setting.defaultVal else setting.enabled
  if setting.id = str "sudo" then
    .ok { s with helper := overlay.setConfigEntry false s.helper (str "sudo") pamConfigEntry isEnabled }
  else if setting.id = str "polkit" then
    .ok { s with
      helper := overlay.setConfigEntry false s.helper (str "polkit-1") pamConfigEntry isEnabled }
  else if setting.id = str "login" then
    .ok { s with helper := (loginCalls installed isEnabled).foldl (overlay.call false) s.helper }
  else if setting.id = str "pamSetPassword" then
    if input.storeThrows then .error s else .ok { s with unixSetPasswordPAM := isEnabled }
  else if setting.id = str "ssh" then
    if input.sshThrows then .error s else .ok { s with isSshEnabled := isEnabled }
  else .ok s

/-- `ServiceInstaller::ApplySettings`: the state in which it returns or throws. -/
def applySettings (input : ApplyInput) (installed : Str → Bool) (settings : List ServiceSetting)
    (useDefault : Bool) (s : ServiceState) : ServiceState :=
  match settings.foldlM (applySetting input installed useDefault) s with
  | .error s' => s'
  | .ok s' => { s' with helper := (commit input.commit s'.helper).helper }

/-! ## Calls on different files -/

/-- A call leaves all other files alone. -/
theorem direct_call_other (apple : Bool) (files : PAMFiles) (c : PAMCall) {n : Str}
    (hn : n ≠ c.configName) : (direct.call apple files c).pamDir n = files.pamDir n := by
  refine ConfigStore.call_keeps (R := fun f : PAMFiles => f.pamDir n = files.pamDir n) ?_ ?_ rfl
  · intro f d hf
    rw [direct_setConfig_pamDir, Function.update_of_ne hn]
    exact hf
  · intro f b hf
    exact hf

/-- The edits of one call of `SetConfigEntry`. -/
structure Edit where
  configName : Str
  entry : Str
  enabled : Bool

def Edit.call (e : Edit) : PAMCall := .setConfigEntry e.configName e.entry e.enabled

/-- What an edit makes of a file. -/
def Edit.content (e : Edit) (files : PAMFiles) (file : Option Str) : Option Str :=
  setContent false (files.pamDir (str "system-auth")).isSome e.entry e.enabled file

theorem direct_edits_other (edits : List Edit) (files : PAMFiles) {n : Str}
    (hn : ∀ e ∈ edits, n ≠ e.configName) :
    ((edits.map Edit.call).foldl (direct.call false) files).pamDir n = files.pamDir n := by
  induction edits generalizing files with
  | nil => rfl
  | cons e edits ih =>
      rw [List.map_cons, List.foldl_cons, ih _ (fun d hd => hn d (List.mem_cons_of_mem _ hd))]
      exact direct_call_other false files e.call (hn e List.mem_cons_self)

/-- Edits of different files do not see each other. -/
theorem direct_edits (edits : List Edit) (files : PAMFiles)
    (hnames : (edits.map Edit.configName).Nodup)
    (hsystem : ∀ e ∈ edits, str "system-auth" ≠ e.configName) {e : Edit} (he : e ∈ edits) :
    ((edits.map Edit.call).foldl (direct.call false) files).pamDir e.configName =
      e.content files (files.pamDir e.configName) := by
  induction edits generalizing files with
  | nil => cases he
  | cons d edits ih =>
      rw [List.map_cons, List.nodup_cons] at hnames
      rw [List.map_cons, List.foldl_cons]
      rcases List.mem_cons.mp he with rfl | he
      · have hother : ∀ d ∈ edits, e.configName ≠ d.configName := by
          intro d hd hsame
          exact hnames.1 (hsame ▸ List.mem_map_of_mem hd)
        rw [direct_edits_other edits _ hother]
        exact direct_setConfigEntry e.enabled
      · have hne : e.configName ≠ d.configName := by
          intro hsame
          exact hnames.1 (hsame ▸ List.mem_map_of_mem he)
        rw [ih _ hnames.2 (fun c hc => hsystem c (List.mem_cons_of_mem _ hc)) he]
        unfold Edit.content
        rw [direct_call_other false files d.call hne,
          direct_call_other false files d.call (hsystem d List.mem_cons_self)]

/-- Edits of different files change nothing exactly if each of them changes nothing. -/
theorem direct_edits_eq_iff (edits : List Edit) (files : PAMFiles)
    (hnames : (edits.map Edit.configName).Nodup)
    (hsystem : ∀ e ∈ edits, str "system-auth" ≠ e.configName) :
    ((edits.map Edit.call).foldl (direct.call false) files).pamDir = files.pamDir ↔
      ∀ e ∈ edits, e.content files (files.pamDir e.configName) = files.pamDir e.configName := by
  constructor
  · intro hsame e he
    rw [← direct_edits edits files hnames hsystem he, hsame]
  · intro hsame
    funext n
    by_cases hn : ∃ e ∈ edits, n = e.configName
    · obtain ⟨e, he, rfl⟩ := hn
      rw [direct_edits edits files hnames hsystem he, hsame e he]
    · refine direct_edits_other edits files ?_
      intro e he hne
      exact hn ⟨e, he, hne⟩

/-! ## When an edit changes nothing -/

/-- Nothing is added to the file, and it ends in a single line end. -/
def AddsNothing (text : Str) : Prop :=
  (contains text (header ++ [newline]) = true ∧ header ∉ lines text) ∧
    ∃ t, text = t ++ [newline] ∧ t.getLast? ≠ some newline

theorem addEntryToFile_eq_self_iff {entry text : Str} (h : IsEntry entry)
    (hnot : ¬ entry <:+: text) : addEntryToFile text entry = text ↔ AddsNothing text := by
  constructor
  · intro hsame
    have hodd : contains text (header ++ [newline]) = true ∧ header ∉ lines text := by
      by_contra hplace
      have hadded := (infix_lines_addEntryToFile h hnot).mpr (by
        intro hbegin
        by_contra hheader
        exact hplace ⟨hbegin, hheader⟩)
      rw [hsame] at hadded
      exact hnot (h.infix_of_lines hadded)
    refine ⟨hodd, ?_⟩
    rw [addEntryToFile_eq, hodd.1, addLines_eq_self hodd.2, unlines_lines] at hsame
    exact (trimEnd_concat_eq_self_iff newline text).mp hsame
  · rintro ⟨hodd, hend⟩
    rw [addEntryToFile_eq, hodd.1, addLines_eq_self hodd.2, unlines_lines]
    exact (trimEnd_concat_eq_self_iff newline text).mpr hend

theorem setContent_hasConfigEntry (files : PAMFiles) (configName entry : Str)
    (hasSystemAuth : Bool) :
    setContent false hasSystemAuth entry (hasConfigEntry files configName entry)
      (files.pamDir configName) = files.pamDir configName := by
  unfold hasConfigEntry
  rcases Option.eq_none_or_eq_some (files.pamDir configName) with hfile | ⟨text, hfile⟩
  · rw [hfile]
    rfl
  · rw [hfile]
    unfold setContent
    by_cases hcontains : contains text entry = true
    · simp [hcontains]
    · simp [hcontains]

theorem setContent_enabled_iff {files : PAMFiles} {configName entry : Str} (h : IsEntry entry)
    (hasSystemAuth : Bool) :
    setContent false hasSystemAuth entry true (files.pamDir configName) = files.pamDir configName ↔
      hasConfigEntry files configName entry = true ∨
        ∃ text, files.pamDir configName = some text ∧ AddsNothing text := by
  unfold hasConfigEntry
  rcases Option.eq_none_or_eq_some (files.pamDir configName) with hfile | ⟨text, hfile⟩
  · rw [hfile]
    refine iff_of_false ?_ (by simp)
    cases hasSystemAuth <;> simp [setContent]
  · rw [hfile]
    unfold setContent
    simp only [if_true, Option.some.injEq, exists_eq_left']
    by_cases hcontains : contains text entry = true
    · rw [if_pos hcontains]
      exact iff_of_true rfl (Or.inl hcontains)
    · rw [if_neg hcontains, or_iff_right hcontains]
      exact addEntryToFile_eq_self_iff h (fun hinfix => hcontains (contains_iff.mpr hinfix))

/-! ## Reading the settings and applying them -/

/-- The edits that applying the settings of these files makes. -/
def serviceEdits (installed : Str → Bool) (files : PAMFiles) : List Edit :=
  [⟨str "sudo", pamConfigEntry, hasConfigEntry files (str "sudo") pamConfigEntry⟩,
    ⟨str "polkit-1", pamConfigEntry, hasConfigEntry files (str "polkit-1") pamConfigEntry⟩] ++
  (loginManagers.filter (fun m => installed m.program)).map
    (fun m => ⟨m.configName, m.entry, isLoginEnabled files⟩)

theorem serviceEdits_nodup (installed : Str → Bool) (files : PAMFiles) :
    ((serviceEdits installed files).map Edit.configName).Nodup := by
  have hall : ([str "sudo", str "polkit-1"] ++ loginManagers.map LoginManager.configName).Nodup := by
    decide +kernel
  have hsub : (serviceEdits installed files).map Edit.configName =
      [str "sudo", str "polkit-1"] ++ ((loginManagers.filter (fun m => installed m.program)).map
        LoginManager.configName) := by
    unfold serviceEdits
    rw [List.map_append, List.map_map]
    rfl
  rw [hsub]
  exact hall.sublist ((List.Sublist.refl _).append (List.filter_sublist.map _))

theorem serviceEdits_system (installed : Str → Bool) (files : PAMFiles) :
    ∀ e ∈ serviceEdits installed files, str "system-auth" ≠ e.configName := by
  have hall : ∀ m ∈ loginManagers, str "system-auth" ≠ m.configName := by decide +kernel
  intro e he
  rcases List.mem_append.mp he with he | he
  · simp only [List.mem_cons, List.not_mem_nil, or_false] at he
    rcases he with rfl | rfl
    · show str "system-auth" ≠ str "sudo"
      decide +kernel
    · show str "system-auth" ≠ str "polkit-1"
      decide +kernel
  · obtain ⟨m, hm, rfl⟩ := List.mem_map.mp he
    exact hall m (List.mem_filter.mp hm).1

/-- The state with fresh pending changes. -/
def freshState (files : PAMFiles) (unixSetPasswordPAM isSshEnabled : Bool) : ServiceState :=
  { helper := { files := files }, unixSetPasswordPAM, isSshEnabled }

theorem foldlM_cons_ok {ε σ α : Type} {f : σ → α → Except ε σ} {s s' : σ} {a : α} {l : List α}
    (h : f s a = .ok s') : (a :: l).foldlM f s = l.foldlM f s' := by
  rw [List.foldlM_cons, h]
  rfl

section

variable (input : ApplyInput) (installed : Str → Bool) (s : ServiceState) (b d : Bool)

theorem applySetting_sudo : applySetting input installed false s ⟨str "sudo", b, d⟩ = .ok { s with
    helper := overlay.call false s.helper (.setConfigEntry (str "sudo") pamConfigEntry b) } := by
  unfold applySetting
  rw [if_pos rfl]
  rfl

theorem applySetting_polkit : applySetting input installed false s ⟨str "polkit", b, d⟩ = .ok { s with
    helper := overlay.call false s.helper (.setConfigEntry (str "polkit-1") pamConfigEntry b) } := by
  unfold applySetting
  rw [if_neg (show str "polkit" ≠ str "sudo" by decide +kernel), if_pos rfl]
  rfl

theorem applySetting_login : applySetting input installed false s ⟨str "login", b, d⟩ = .ok { s with
    helper := (loginCalls installed b).foldl (overlay.call false) s.helper } := by
  unfold applySetting
  rw [if_neg (show str "login" ≠ str "sudo" by decide +kernel),
    if_neg (show str "login" ≠ str "polkit" by decide +kernel), if_pos rfl]
  rfl

/-- The last two settings do not touch the PAM files. -/
theorem applySetting_rest : ([⟨str "pamSetPassword", b, false⟩, ⟨str "ssh", d, false⟩] :
      List ServiceSetting).foldlM (applySetting input installed false) s =
    if input.storeThrows then .error s
    else if input.sshThrows then .error { s with unixSetPasswordPAM := b }
    else .ok { s with unixSetPasswordPAM := b, isSshEnabled := d } := by
  have hstore : applySetting input installed false s ⟨str "pamSetPassword", b, false⟩ =
      if input.storeThrows then .error s else .ok { s with unixSetPasswordPAM := b } := by
    unfold applySetting
    rw [if_neg (show str "pamSetPassword" ≠ str "sudo" by decide +kernel),
      if_neg (show str "pamSetPassword" ≠ str "polkit" by decide +kernel),
      if_neg (show str "pamSetPassword" ≠ str "login" by decide +kernel), if_pos rfl]
    rfl
  have hssh (t : ServiceState) : applySetting input installed false t ⟨str "ssh", d, false⟩ =
      if input.sshThrows then .error t else .ok { t with isSshEnabled := d } := by
    unfold applySetting
    rw [if_neg (show str "ssh" ≠ str "sudo" by decide +kernel),
      if_neg (show str "ssh" ≠ str "polkit" by decide +kernel),
      if_neg (show str "ssh" ≠ str "login" by decide +kernel),
      if_neg (show str "ssh" ≠ str "pamSetPassword" by decide +kernel), if_pos rfl]
    rfl
  by_cases hthrows : input.storeThrows = true
  · rw [if_pos hthrows] at hstore
    rw [if_pos hthrows, List.foldlM_cons, hstore]
    rfl
  · rw [if_neg hthrows] at hstore
    rw [if_neg hthrows, foldlM_cons_ok hstore, List.foldlM_cons, hssh]
    split
    · rfl
    · rfl

end

/-- The PAM files after the settings of a state have been applied again. -/
theorem applySettings_getSettings (input : ApplyInput) (installed : Str → Bool) (files : PAMFiles)
    (b d : Bool) :
    (applySettings input installed (getSettings installed (freshState files b d)) false
        (freshState files b d)).helper.files.pamDir =
      if input.storeThrows = true ∨ input.sshThrows = true then files.pamDir
      else (commit input.commit (((serviceEdits installed files).map Edit.call).foldl
        (overlay.call false) { files := files })).helper.files.pamDir := by
  have hcalls : ((serviceEdits installed files).map Edit.call).foldl (overlay.call false)
      { files := files } = (loginCalls installed (isLoginEnabled files)).foldl (overlay.call false)
        (overlay.call false (overlay.call false { files := files }
          (.setConfigEntry (str "sudo") pamConfigEntry
            (hasConfigEntry files (str "sudo") pamConfigEntry)))
          (.setConfigEntry (str "polkit-1") pamConfigEntry
            (hasConfigEntry files (str "polkit-1") pamConfigEntry))) := by
    unfold serviceEdits loginCalls
    rw [List.map_append, List.foldl_append, List.map_map]
    rfl
  have hkept := calls_pamDir false { files := files } ((serviceEdits installed files).map Edit.call)
  unfold applySettings getSettings
  rw [foldlM_cons_ok (applySetting_sudo ..), foldlM_cons_ok (applySetting_polkit ..),
    foldlM_cons_ok (applySetting_login ..), applySetting_rest]
  rw [hcalls] at hkept ⊢
  by_cases hstore : input.storeThrows = true
  · rw [if_pos hstore, if_pos (Or.inl hstore)]
    exact hkept
  · by_cases hssh : input.sshThrows = true
    · rw [if_neg hstore, if_pos hssh, if_pos (Or.inr hssh)]
      exact hkept
    · rw [if_neg hstore, if_neg hssh, if_neg (not_or.mpr ⟨hstore, hssh⟩)]
      rfl

/-- Applying the current settings keeps the files, in every course in which they can be read, if and
only if each of its edits does. -/
theorem applySettings_keeps_iff (installed : Str → Bool) (files : PAMFiles)
    (unixSetPasswordPAM isSshEnabled : Bool) :
    (∀ input, input.commit.Reads → (applySettings input installed
        (getSettings installed (freshState files unixSetPasswordPAM isSshEnabled)) false
        (freshState files unixSetPasswordPAM isSshEnabled)).helper.files.pamDir = files.pamDir) ↔
      ∀ e ∈ serviceEdits installed files,
        e.content files (files.pamDir e.configName) = files.pamDir e.configName := by
  have hview : (((serviceEdits installed files).map Edit.call).foldl (overlay.call false)
      { files := files }).view = ((serviceEdits installed files).map Edit.call).foldl
        (direct.call false) files := by
    refine overlay_shows.calls false _ (clear_fresh files) ?_
    intro c hc
    obtain ⟨e, he, rfl⟩ := List.mem_map.mp hc
    exact Ne.symm (serviceEdits_system installed files e he)
  have hkept := calls_pamDir false { files := files } ((serviceEdits installed files).map Edit.call)
  rw [← direct_edits_eq_iff _ files (serviceEdits_nodup installed files)
    (serviceEdits_system installed files), ← hview]
  constructor
  · intro hall
    have hsame := hall {} (fun _ => rfl)
    rw [applySettings_getSettings, if_neg (by simp),
      (commit_eq_view CommitInput.succeeds_default _).1] at hsame
    exact hsame
  · intro hsame input hreads
    rw [applySettings_getSettings]
    split
    · rfl
    · rw [commit_of_view_eq hreads (hsame.trans hkept.symm)]
      exact hkept

/-- The edits of the two other services write back what is there; those of the login managers all get
the same answer. -/
theorem serviceEdits_keep_iff (installed : Str → Bool) (files : PAMFiles) :
    (∀ e ∈ serviceEdits installed files,
        e.content files (files.pamDir e.configName) = files.pamDir e.configName) ↔
      (isLoginEnabled files = true → ∀ m ∈ loginManagers, installed m.program = true →
        hasConfigEntry files m.configName m.entry = true ∨
          ∃ text, files.pamDir m.configName = some text ∧ AddsNothing text) := by
  have hentries : ∀ m ∈ loginManagers, m.entry ∈ serviceEntries false := by decide +kernel
  constructor
  · intro hall hlogin m hm hinstalled
    have hedit : (⟨m.configName, m.entry, isLoginEnabled files⟩ : Edit) ∈
        serviceEdits installed files :=
      List.mem_append_right _ (List.mem_map.mpr ⟨m, List.mem_filter.mpr ⟨hm, hinstalled⟩, rfl⟩)
    have hcontent := hall _ hedit
    unfold Edit.content at hcontent
    simp only [hlogin] at hcontent
    exact (setContent_enabled_iff (isEntry_of_mem (hentries m hm)) _).mp hcontent
  · intro hcond e he
    rcases List.mem_append.mp he with he | he
    · simp only [List.mem_cons, List.not_mem_nil, or_false] at he
      rcases he with rfl | rfl
      · exact setContent_hasConfigEntry files _ _ _
      · exact setContent_hasConfigEntry files _ _ _
    · obtain ⟨m, hm, rfl⟩ := List.mem_map.mp he
      obtain ⟨hmem, hinstalled⟩ := List.mem_filter.mp hm
      unfold Edit.content
      simp only
      by_cases hlogin : isLoginEnabled files = true
      · rw [hlogin]
        exact (setContent_enabled_iff (isEntry_of_mem (hentries m hmem)) _).mpr
          (hcond hlogin m hmem hinstalled)
      · -- no file has its entry
        have hnot : hasConfigEntry files m.configName m.entry = isLoginEnabled files := by
          rw [Bool.not_eq_true] at hlogin
          rw [hlogin]
          exact Bool.eq_false_iff.mpr (List.any_eq_false.mp hlogin m hmem)
        rw [← hnot]
        exact setContent_hasConfigEntry files _ _ _

/-- **When applying the current settings changes nothing.** Whatever the files are, as long as every
one that is there can be read, and whatever else `ApplySettings` meets, it leaves every PAM file as it
was if and only if no login configuration has its entry, or each installed one has it (or is a file
that nothing is added to). -/
theorem reapply_keeps_pam_iff (installed : Str → Bool) (files : PAMFiles)
    (unixSetPasswordPAM isSshEnabled : Bool) :
    (∀ input, input.commit.Reads → (applySettings input installed
        (getSettings installed (freshState files unixSetPasswordPAM isSshEnabled)) false
        (freshState files unixSetPasswordPAM isSshEnabled)).helper.files.pamDir = files.pamDir) ↔
      (isLoginEnabled files = true → ∀ m ∈ loginManagers, installed m.program = true →
        hasConfigEntry files m.configName m.entry = true ∨
          ∃ text, files.pamDir m.configName = some text ∧ AddsNothing text) := by
  rw [applySettings_keeps_iff installed files unixSetPasswordPAM isSshEnabled]
  exact serviceEdits_keep_iff installed files

end ServiceInstaller

namespace Sample

/-- GDM and SDDM are installed; only the file of GDM has its entry. -/
def loginFiles : PAMFiles where
  pamDir n := if n = str "gdm-password" then some (pamConfigEntry ++ [newline])
    else if n = str "sddm" then some (str "account x\n") else none

def loginInstalled (program : Str) : Bool := program = str "gdm" || program = str "sddm"

end Sample

namespace ServiceInstaller

/-- The settings are read and applied again: the file of SDDM gets the entry. -/
theorem reapply_adds_entry :
    (applySettings {} Sample.loginInstalled
        (getSettings Sample.loginInstalled (freshState Sample.loginFiles false false)) false
        (freshState Sample.loginFiles false false)).helper.files.pamDir (str "sddm") ≠
      Sample.loginFiles.pamDir (str "sddm") := by
  decide +kernel

end ServiceInstaller

end PcbuDesktop
