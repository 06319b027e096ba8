import PcbuDesktop.Installer.Uninstall

set_option autoImplicit false

/-! # What a full uninstall gives back

Between an installation and its removal the service settings are applied any number of times, each time
with other switches and other programs installed. A full uninstall then gives back every PAM
configuration as it was, but for a header line that the first entry in it has needed.
-/

namespace PcbuDesktop

open Runs Lines KeyedList PAMHelper

namespace ServiceInstaller

/-! ## One file, from the first edit to the last -/

/-- A header line, with its end. -/
def Headed (text : Str) : Prop := header ∈ lines text ∧ contains text (header ++ [newline]) = true

/-- The text has come from the text `t` by enabling and disabling the entry. Without the lines of the
entry it is `t`, or `t` below a header; then no further header will be added. -/
structure Edited (entry t text : Str) : Prop where
  notGenerated : isGenerated text = false
  allOrNone : (∀ l ∈ lines text, l ∉ lines entry) ∨ lines entry <:+: lines text
  rest : bodyOf newline (removeEntryFromFile text entry) = bodyOf newline t ∨
    Headed text ∧ bodyOf newline (removeEntryFromFile text entry) = header :: bodyOf newline t

/-- What has become of a file. One that was not there may have been generated for the entry. -/
def FileOf (entry : Str) : Option Str → Option Str → Prop
  | none, none => True
  | none, some text => isGenerated text = true ∧ contains text entry = true
  | some _, none => False
  | some t, some text => Edited entry t text

section

variable {entry text t : Str}

/-- A text that is put together from lines. -/
theorem headed_trimEnd {ls : List Str} (hno : ∀ l ∈ ls, newline ∉ l) (h : header ∈ ls) :
    Headed (trimEnd newline (unlines newline ls)) := by
  have hbody : header ∈ bodyOf newline (trimEnd newline (unlines newline ls)) := by
    rw [bodyOf_trimEnd, bodyOf_unlines hno]
    exact mem_body h (by decide)
  refine ⟨mem_of_mem_body hbody, contains_iff.mpr ?_⟩
  -- of the line ends at the end of a text, trimming leaves the first
  apply infix_trimEnd _ (by decide) (by decide)
  obtain ⟨before, after, rfl⟩ := List.append_of_mem h
  exact ⟨unlines newline before, unlines newline after, by rw [unlines_append]; simp [unlines]⟩

theorem Headed.addEntryToFile (h : Headed text) (entry : Str) :
    Headed (addEntryToFile text entry) := by
  rw [addEntryToFile_eq]
  exact headed_trimEnd (fun l hl => newline_not_mem_addLines hl) (mem_addLines h.1)

/-- A text without a header gets one. -/
theorem headed_addEntryToFile (h : contains text (header ++ [newline]) = false) (entry : Str) :
    Headed (addEntryToFile text entry) := by
  rw [addEntryToFile_eq]
  refine headed_trimEnd (fun l hl => newline_not_mem_addLines hl) ?_
  rw [h]
  exact List.mem_cons_self

theorem Headed.removeEntryFromFile (h : Headed text) (hentry : IsEntry entry) :
    Headed (removeEntryFromFile text entry) := by
  rw [removeEntryFromFile_eq]
  refine headed_trimEnd (fun l hl => not_mem_of_mem_splitOn (List.mem_filter.mp hl).1) ?_
  exact List.mem_filter.mpr ⟨h.1, by simpa using hentry.not_header⟩

/-- Where no line is of the entry, removing it keeps the lines. -/
theorem bodyOf_remove_of_not_mem (h : ∀ l ∈ lines text, l ∉ lines entry) :
    bodyOf newline (removeEntryFromFile text entry) = bodyOf newline text := by
  have hlines : removeLines (lines entry) (lines text) = lines text := by
    unfold removeLines
    rw [List.filter_eq_self]
    intro l hl
    simpa using h l hl
  rw [bodyOf_removeEntryFromFile, hlines]
  rfl

theorem bodyOf_remove_remove (h : IsEntry entry) (text : Str) :
    bodyOf newline (removeEntryFromFile (removeEntryFromFile text entry) entry) =
      bodyOf newline (removeEntryFromFile text entry) :=
  bodyOf_remove_of_not_mem (fun _ hl => not_mem_lines_removeEntryFromFile h hl)

theorem Edited.refl (hmark : isGenerated text = false) (hnot : ∀ l ∈ lines text, l ∉ lines entry) :
    Edited entry text text where
  notGenerated := hmark
  allOrNone := Or.inl hnot
  rest := Or.inl (bodyOf_remove_of_not_mem hnot)

theorem Edited.addEntryToFile (h : Edited entry t text) (hentry : IsEntry entry)
    (hnot : contains text entry = false) : Edited entry t (addEntryToFile text entry) := by
  have hinfix : ¬ entry <:+: text := by
    intro hinfix
    rw [contains_iff.mpr hinfix] at hnot
    cases hnot
  have hnone : ∀ l ∈ lines text, l ∉ lines entry := by
    rcases h.allOrNone with hnone | hall
    · exact hnone
    · exact absurd (hentry.infix_of_lines hall) hinfix
  have hbody := bodyOf_remove_add hentry text
  rw [← bodyOf_removeEntryFromFile] at hbody
  refine ⟨(isGenerated_addEntryToFile hentry text).trans h.notGenerated, ?_, ?_⟩
  · by_cases hplace : contains text (header ++ [newline]) = true → header ∈ lines text
    · exact Or.inr ((infix_lines_addEntryToFile hentry hinfix).mpr hplace)
    · -- there is no line to add the entry at
      left
      rw [Classical.not_imp] at hplace
      intro l hl hmem
      have hadded : l ∈ bodyOf newline (PAMHelper.addEntryToFile text entry) :=
        mem_body hl (hentry.ne_nil hmem)
      rw [bodyOf_addEntryToFile, hplace.1, addLines_eq_self hplace.2] at hadded
      exact hnone l (mem_of_mem_body hadded) hmem
  · -- a header is added at most once: afterwards the text is headed
    rcases h.rest with hrest | ⟨hheaded, hrest⟩
    · by_cases hbegin : contains text (header ++ [newline]) = true
      · rw [hbody, if_pos hbegin]
        exact Or.inl hrest
      · rw [hbody, if_neg hbegin, hrest]
        exact Or.inr ⟨headed_addEntryToFile (Bool.eq_false_iff.mpr hbegin) entry, rfl⟩
    · rw [hbody, if_pos hheaded.2]
      exact Or.inr ⟨hheaded.addEntryToFile entry, hrest⟩

theorem Edited.removeEntryFromFile (h : Edited entry t text) (hentry : IsEntry entry) :
    Edited entry t (removeEntryFromFile text entry) where
  notGenerated := isGenerated_removeEntryFromFile entry h.notGenerated
  allOrNone := Or.inl (fun _ hl => not_mem_lines_removeEntryFromFile hentry hl)
  rest := by
    rw [bodyOf_remove_remove hentry]
    rcases h.rest with hrest | ⟨hheaded, hrest⟩
    · exact Or.inl hrest
    · exact Or.inr ⟨hheaded.removeEntryFromFile hentry, hrest⟩

/-- Disabling the entry takes all its lines out. -/
theorem Edited.disabled (h : Edited entry t text) (hentry : IsEntry entry) (hasSystemAuth : Bool) :
    ∃ text', setContent false hasSystemAuth entry false (some text) = some text' ∧
      Edited entry t text' ∧ ∀ l ∈ lines text', l ∉ lines entry := by
  refine ⟨_, setContent_disabled_eq entry hasSystemAuth h.notGenerated, ?_⟩
  split
  · exact ⟨h.removeEntryFromFile hentry, fun _ hl => not_mem_lines_removeEntryFromFile hentry hl⟩
  · next hnot =>
      refine ⟨h, ?_⟩
      rcases h.allOrNone with hnone | hall
      · exact hnone
      · exact absurd (contains_iff.mpr (hentry.infix_of_lines hall)) hnot

/-- A generated text has the entry it was generated for. -/
theorem genConfig_spec (includes : List Str) (entry : Str) :
    isGenerated (genConfig includes entry) = true ∧ contains (genConfig includes entry) entry = true := by
  have hmark : genEntry <:+: genConfig includes entry :=
    ⟨[newline] ++ header ++ [newline] ++ entry ++ [newline],
      [newline] ++ [newline] ++ unlines newline includes, by simp [genConfig]⟩
  have hentry : entry <:+: genConfig includes entry :=
    ⟨[newline] ++ header ++ [newline],
      [newline] ++ genEntry ++ [newline] ++ [newline] ++ unlines newline includes, by simp [genConfig]⟩
  unfold isGenerated
  rw [contains_iff.mpr hmark, contains_iff.mpr hentry]
  exact ⟨rfl, rfl⟩

/-- Disabling the entry removes a file that was generated for it. -/
theorem setContent_disabled_generated (h : isGenerated text = true ∧ contains text entry = true)
    (hasSystemAuth : Bool) : setContent false hasSystemAuth entry false (some text) = none := by
  unfold setContent removedContent
  simp only [Bool.false_eq_true, if_false]
  rw [if_pos h.2, if_pos h.1]

theorem setContent_enabled_eq (hasSystemAuth : Bool) (entry text : Str) :
    setContent false hasSystemAuth entry true (some text) =
      some (if contains text entry then text else addEntryToFile text entry) := rfl

/-- One edit: the entry is enabled or disabled. -/
theorem FileOf.edit {before file : Option Str} (h : FileOf entry before file)
    (hentry : IsEntry entry) (hasSystemAuth enabled : Bool) :
    FileOf entry before (setContent false hasSystemAuth entry enabled file) := by
  rcases before with - | t <;> rcases file with - | text
  · cases enabled with
    | false => exact True.intro
    | true =>
        cases hasSystemAuth with
        | false => exact genConfig_spec commonIncludes entry
        | true => exact genConfig_spec systemIncludes entry
  · cases enabled with
    | false =>
        rw [setContent_disabled_generated h]
        exact True.intro
    | true =>
        rw [setContent_enabled_eq, if_pos h.2]
        exact h
  · exact h.elim
  · cases enabled with
    | false =>
        obtain ⟨text', htext', hedited, -⟩ := Edited.disabled h hentry hasSystemAuth
        rw [htext']
        exact hedited
    | true =>
        rw [setContent_enabled_eq]
        split
        · exact h
        · next hnot => exact Edited.addEntryToFile h hentry (Bool.eq_false_iff.mpr hnot)

/-! ## The removal -/

end

/-! ## Applying the settings -/

/-- The edit is one of those of the settings: each configuration has its entry. -/
def IsServiceEdit (e : Edit) : Prop := (removedEntries e.configName).head? = some e.entry

/-- The state in which a round of the loop returns or throws. -/
def stateOf : Except ServiceState ServiceState → ServiceState
  | .ok s => s
  | .error s => s

/-- The helper has been called for service edits. -/
def CalledFor (h h' : PAMHelper) : Prop :=
  ∃ edits : List Edit, (∀ e ∈ edits, IsServiceEdit e) ∧
    h' = (edits.map Edit.call).foldl (overlay.call false) h

theorem CalledFor.refl (h : PAMHelper) : CalledFor h h := ⟨[], nofun, rfl⟩

theorem CalledFor.trans {h h' h'' : PAMHelper} (h₁ : CalledFor h h') (h₂ : CalledFor h' h'') :
    CalledFor h h'' := by
  obtain ⟨edits, hedits, rfl⟩ := h₁
  obtain ⟨edits', hedits', rfl⟩ := h₂
  refine ⟨edits ++ edits', ?_, ?_⟩
  · intro e he
    rcases List.mem_append.mp he with he | he
    · exact hedits e he
    · exact hedits' e he
  · rw [List.map_append, List.foldl_append]

/-- The entry of each configuration is the first one that is removed from it. -/
theorem removedEntries_head :
    (removedEntries (str "sudo")).head? = some pamConfigEntry ∧
    (removedEntries (str "polkit-1")).head? = some pamConfigEntry ∧
    ∀ m ∈ loginManagers, (removedEntries m.configName).head? = some m.entry := by
  decide +kernel

theorem service_of_mem {n entry : Str} (h : entry ∈ removedEntries n) : n ∈ uninstallServices := by
  by_contra hnot
  rw [removedEntries_other hnot] at h
  cases h

theorem IsServiceEdit.mem {e : Edit} (h : IsServiceEdit e) : e.entry ∈ removedEntries e.configName :=
  List.mem_of_mem_head? h

section

variable (input : ApplyInput) (installed : Str → Bool) (useDefault : Bool)

/-- One setting. -/
theorem applySetting_called (s : ServiceState) (setting : ServiceSetting) :
    CalledFor s.helper (stateOf (applySetting input installed useDefault s setting)).helper := by
  obtain ⟨hsudo, hpolkit, hlogin⟩ := removedEntries_head
  have hone {configName : Str} (enabled : Bool)
      (h : (removedEntries configName).head? = some pamConfigEntry) :
      CalledFor s.helper (overlay.setConfigEntry false s.helper configName pamConfigEntry enabled) := by
    refine ⟨[⟨configName, pamConfigEntry, enabled⟩], ?_, rfl⟩
    intro e he
    rw [List.mem_singleton.mp he]
    exact h
  unfold applySetting
  simp only
  split
  · exact hone _ hsudo
  · split
    · exact hone _ hpolkit
    · split
      · refine ⟨(loginManagers.filter (fun m => installed m.program)).map
          (fun m => ⟨m.configName, m.entry, if useDefault then setting.defaultVal else setting.enabled⟩),
          ?_, ?_⟩
        · intro e he
          obtain ⟨m, hm, rfl⟩ := List.mem_map.mp he
          exact hlogin m (List.mem_filter.mp hm).1
        · rw [List.map_map]
          rfl
      · -- the settings file and the SSH block are not the helper's
        split
        · split
          · exact CalledFor.refl s.helper
          · exact CalledFor.refl s.helper
        · split
          · split
            · exact CalledFor.refl s.helper
            · exact CalledFor.refl s.helper
          · exact CalledFor.refl s.helper

/-- All settings, by induction on them. -/
theorem applySetting_all_called (settings : List ServiceSetting) (s : ServiceState) :
    CalledFor s.helper
      (stateOf (settings.foldlM (applySetting input installed useDefault) s)).helper := by
  induction settings generalizing s with
  | nil => exact CalledFor.refl s.helper
  | cons setting settings ih =>
      have hcalled := applySetting_called input installed useDefault s setting
      rw [List.foldlM_cons]
      cases happlied : applySetting input installed useDefault s setting with
      | error s' =>
          rw [happlied] at hcalled
          exact hcalled
      | ok s' =>
          rw [happlied] at hcalled
          exact hcalled.trans (ih s')

end

/-! ## A commit that may fail -/

/-- No file is left half written. -/
def WholeWrites (input : CommitInput) : Prop := ∀ n k, input.write n ≠ .stopped k

/-- Each file is as it was, or as it should become. -/
theorem applyChanges_whole {input : CommitInput} (hw : WholeWrites input)
    {changes : List (Str × Option Str)} (hkeys : (changes.map Prod.fst).Nodup)
    (pamDir : Str → Option Str) (n : Str) :
    (applyChanges input changes pamDir).1 n = pamDir n ∨
      (applyChanges input changes pamDir).1 n =
        ((KeyedList.lookup Prod.fst n changes).map Prod.snd).getD (pamDir n) := by
  induction changes generalizing pamDir with
  | nil => exact Or.inl rfl
  | cons change changes ih =>
      obtain ⟨path, data⟩ := change
      rw [List.map_cons, List.nodup_cons] at hkeys
      unfold applyChanges
      cases hwrite : input.write path with
      | written =>
          simp only
          have hrest := ih hkeys.2 (Function.update pamDir path data)
          by_cases hn : path = n
          · -- no later change has the same path
            subst hn
            have hnone : KeyedList.lookup Prod.fst path changes = none := by
              rw [KeyedList.lookup_eq_none]
              exact hkeys.1
            rw [hnone, Function.update_self] at hrest
            rw [KeyedList.lookup_cons, if_pos rfl]
            exact Or.inr (hrest.elim id id)
          · rw [Function.update_of_ne (Ne.symm hn)] at hrest
            rw [KeyedList.lookup_cons, if_neg hn]
            exact hrest
      | untouched => exact Or.inl rfl
      | stopped k => exact absurd hwrite (hw path k)

/-- Of some of the changes, a file has its own or none. -/
theorem lookup_filter {changes : List (Str × Option Str)} (hkeys : (changes.map Prod.fst).Nodup)
    (p : Str × Option Str → Bool) (n : Str) :
    KeyedList.lookup Prod.fst n (changes.filter p) = none ∨
      KeyedList.lookup Prod.fst n (changes.filter p) = KeyedList.lookup Prod.fst n changes := by
  cases hlookup : KeyedList.lookup Prod.fst n (changes.filter p) with
  | none => exact Or.inl rfl
  | some change =>
      obtain ⟨hmem, hkey⟩ := (KeyedList.lookup_eq_some (keys_filter_nodup p hkeys)).mp hlookup
      have hfull : KeyedList.lookup Prod.fst n changes = some change :=
        (KeyedList.lookup_eq_some hkeys).mpr ⟨(List.mem_filter.mp hmem).1, hkey⟩
      exact Or.inr hfull.symm

/-- Whatever is compared, each file is as it was, or as the helper shows it. -/
theorem commit_whole {input : CommitInput} (hw : WholeWrites input) (h : PAMHelper) (n : Str) :
    (commit input h).helper.files.pamDir n = h.files.pamDir n ∨
      (commit input h).helper.files.pamDir n = h.view.pamDir n := by
  let isWritten := fun change : Str × Option Str =>
    isChange (input.readFile h.files.pamDir change.1) change.2
  have hkeys := keys_filter_nodup isWritten h.pending.unique
  have happlied := applyChanges_whole hw hkeys h.files.pamDir n
  unfold commit
  split
  · -- the comparison has thrown before the first write
    exact Or.inl rfl
  · refine happlied.elim Or.inl (fun hwritten => ?_)
    rcases lookup_filter h.pending.unique isWritten n with hnone | hsame
    · rw [hnone] at hwritten
      exact Or.inl hwritten
    · rw [hsame] at hwritten
      exact Or.inr hwritten

/-! ## Any number of runs -/

/-- A run of `ApplySettings`, and what it meets. -/
structure ApplyRun where
  input : ApplyInput := {}
  /-- The PAM configurations that are there and cannot be opened. -/
  unreadable : Str → Bool := fun _ => false
  installed : Str → Bool
  settings : List ServiceSetting
  useDefault : Bool := false
  unixSetPasswordPAM : Bool := false
  isSshEnabled : Bool := false

/-- The state in which the run begins. -/
def ApplyRun.before (run : ApplyRun) (fs : FileSystem) : ServiceState where
  helper := { files := pamFiles fs, unreadable := run.unreadable }
  unixSetPasswordPAM := run.unixSetPasswordPAM
  isSshEnabled := run.isSshEnabled

/-- The files afterwards. -/
def ApplyRun.after (fs : FileSystem) (run : ApplyRun) : FileSystem :=
  setPamFiles fs (applySettings run.input run.installed run.settings run.useDefault
    (run.before fs)).helper.files

/-- The run can read every PAM configuration that is there and leaves none half written. -/
structure ApplyRun.Sound (run : ApplyRun) : Prop where
  readable : ∀ n, run.unreadable n = false
  whole : WholeWrites run.input.commit

/-- A run makes service edits, of each file all or none. -/
theorem ApplyRun.after_pamDir {run : ApplyRun} (hsound : run.Sound) (fs : FileSystem) :
    ∃ edits : List Edit, (∀ e ∈ edits, IsServiceEdit e) ∧
      ∀ n, (run.after fs).files (pamConfigDir ++ n) = fs.files (pamConfigDir ++ n) ∨
        (run.after fs).files (pamConfigDir ++ n) =
          (edits.filter (fun e => e.configName = n)).foldl (fun file e => e.content (pamFiles fs) file)
            (fs.files (pamConfigDir ++ n)) := by
  obtain ⟨edits, hedits, hhelper⟩ := applySetting_all_called run.input run.installed run.useDefault
    run.settings (run.before fs)
  have hsystem : ∀ e ∈ edits, str "system-auth" ≠ e.configName := by
    intro e he hsame
    have hservice := service_of_mem (hedits e he).mem
    rw [← hsame] at hservice
    exact absurd hservice (by decide +kernel)
  refine ⟨edits, hedits, ?_⟩
  intro n
  unfold ApplyRun.after applySettings
  rw [setPamFiles_pamDir]
  cases happlied : run.settings.foldlM (applySetting run.input run.installed run.useDefault)
      (run.before fs) with
  | error s' =>
      -- the run has thrown, and the pending changes are lost with the installer
      have hcalls : s'.helper = _ := happlied ▸ hhelper
      left
      show s'.helper.files.pamDir n = _
      rw [hcalls, calls_pamDir]
      rfl
  | ok s' =>
      have hcalls : s'.helper = _ := happlied ▸ hhelper
      have hcommit := commit_whole hsound.whole s'.helper n
      rw [hcalls, calls_pamDir] at hcommit
      show (commit run.input.commit s'.helper).helper.files.pamDir n = _ ∨
        (commit run.input.commit s'.helper).helper.files.pamDir n = _
      rw [hcalls]
      refine hcommit.imp id fun hview => ?_
      exact hview.trans (overlay_edits_view (pamFiles fs) hsound.readable hsystem n)

/-- What the service edits of a file preserve, a run preserves. -/
theorem ApplyRun.after_preserves {P : Option Str → Prop} {n : Str} {run : ApplyRun}
    (hsound : run.Sound) {fs : FileSystem}
    (hedit : ∀ e, IsServiceEdit e → e.configName = n → ∀ file, P file →
      P (e.content (pamFiles fs) file))
    (h : P (fs.files (pamConfigDir ++ n))) : P ((run.after fs).files (pamConfigDir ++ n)) := by
  obtain ⟨edits, hedits, hfile⟩ := ApplyRun.after_pamDir hsound fs
  rcases hfile n with hsame | hedited
  · rw [hsame]
    exact h
  · rw [hedited]
    apply List.foldlRecOn (motive := P) _ _ h
    intro file hp e he
    obtain ⟨hmem, hn⟩ := List.mem_filter.mp he
    exact hedit e (hedits e hmem) (by simpa using hn) file hp

/-- What has become of a PAM configuration: only the services have entries. -/
structure Since (n : Str) (before file : Option Str) : Prop where
  edited : ∀ entry, (removedEntries n).head? = some entry → FileOf entry before file
  others : removedEntries n = [] → file = before

section

variable {n : Str} {before file : Option Str}

theorem Since.content {e : Edit} (h : Since e.configName before file) (he : IsServiceEdit e)
    (files : PAMFiles) : Since e.configName before (e.content files file) where
  edited entry hentry := by
    have hsame : entry = e.entry := Option.some.inj (hentry.symm.trans he)
    subst hsame
    exact (h.edited _ he).edit (isEntry_removedEntries _ he.mem) _ _
  others hnil := by
    have hmem := he.mem
    rw [hnil] at hmem
    cases hmem

theorem Since.run {run : ApplyRun} (hsound : run.Sound) {fs : FileSystem}
    (h : Since n before (fs.files (pamConfigDir ++ n))) :
    Since n before ((run.after fs).files (pamConfigDir ++ n)) := by
  refine ApplyRun.after_preserves hsound ?_ h
  rintro e he rfl file hfile
  exact hfile.content he (pamFiles fs)

/-- Runs, by induction on them. -/
theorem Since.runs {runs : List ApplyRun} (hruns : ∀ run ∈ runs, run.Sound)
    {fs : FileSystem} (h : Since n before (fs.files (pamConfigDir ++ n))) :
    Since n before ((runs.foldl ApplyRun.after fs).files (pamConfigDir ++ n)) := by
  induction runs generalizing fs with
  | nil => exact h
  | cons run runs ih =>
      obtain ⟨hrun, hruns⟩ := List.forall_mem_cons.mp hruns
      exact ih hruns (h.run hrun)

end

/-- Before the installation no configuration of a service is marked as generated, and none has a line of
an entry. -/
def Clean (fs : FileSystem) : Prop :=
  ∀ n ∈ uninstallServices, ∀ text, fs.files (pamConfigDir ++ n) = some text →
    isGenerated text = false ∧ ∀ entry ∈ removedEntries n, ∀ l ∈ lines text, l ∉ lines entry

theorem Clean.since {fs : FileSystem} (h : Clean fs) (n : Str) :
    Since n (fs.files (pamConfigDir ++ n)) (fs.files (pamConfigDir ++ n)) where
  edited entry hentry := by
    have hmem : entry ∈ removedEntries n := List.mem_of_mem_head? hentry
    cases hfile : fs.files (pamConfigDir ++ n) with
    | none => exact True.intro
    | some text =>
        obtain ⟨hmark, hnot⟩ := h n (service_of_mem hmem) text hfile
        exact Edited.refl hmark (hnot entry hmem)
  others _ := rfl

end ServiceInstaller

namespace Sample

open ServiceInstaller

end Sample

namespace ServiceInstaller

end ServiceInstaller

end PcbuDesktop
