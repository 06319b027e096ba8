import PcbuDesktop.Installer.PAMOverlay

set_option autoImplicit false

/-! # Entries in PAM configurations

`SetConfigEntry` looks for the text of an entry anywhere in the file, but adds and removes it line
by line. Where the two views differ, an entry is not added that is not there, or lines stay behind
that are. This module says exactly when an entry is established, and when disabling undoes enabling.
-/

namespace PcbuDesktop

open Lines KeyedList

namespace PAMHelper

/-- The lines of a text. -/
def lines (text : Str) : List Str := text.splitOn newline

/-! ## The entries of `ServiceInstaller` -/

/-- `PAM_CONFIG_ENTRY` of Linux. -/
def pamConfigEntry : Str := str "auth sufficient pam_pulseunlock.so"

/-- `PAM_CONFIG_ENTRY_OLD` of Linux. -/
def pamConfigEntryOld : Str := str "auth sufficient pam_pcbiounlock.so"

/-- The first line of the entries for SDDM. -/
def sddmLine : Str :=
  str "auth [success=1 new_authtok_reqd=1 default=ignore] " ++
    str "pam_unix.so try_first_pass likeauth nullok"

/-- `PAM_CONFIG_ENTRY_SDDM`. -/
def pamConfigEntrySddm : Str := sddmLine ++ [newline] ++ pamConfigEntry

/-- `PAM_CONFIG_ENTRY_SDDM_OLD`. -/
def pamConfigEntrySddmOld : Str := sddmLine ++ [newline] ++ pamConfigEntryOld

/-- `PAM_CONFIG_ENTRY` of Apple systems. -/
def pamConfigEntryApple : Str := str "auth sufficient /usr/local/lib/pam/pam_pulseunlock.dylib"

/-- `PAM_CONFIG_ENTRY_OLD` of Apple systems. -/
def pamConfigEntryAppleOld : Str := str "auth sufficient /usr/local/lib/pam/pam_pcbiounlock.dylib"

def serviceEntries (apple : Bool) : List Str :=
  if apple then [pamConfigEntryApple, pamConfigEntryAppleOld]
  else [pamConfigEntry, pamConfigEntrySddm, pamConfigEntryOld, pamConfigEntrySddmOld]

/-- What the proofs need of an entry: none of its lines is empty, the header, or marked as
generated. -/
structure IsEntry (entry : Str) : Prop where
  not_empty : [] ∉ lines entry
  not_header : header ∉ lines entry
  not_marked : ∀ l ∈ lines entry, ¬ genEntry <:+: l ∧ ¬ genEntryOld <:+: l

theorem isEntry_of_mem {apple : Bool} {entry : Str} (h : entry ∈ serviceEntries apple) :
    IsEntry entry := by
  -- no line of an entry has the number sign, which the header and the marks begin with
  have hall : ∀ e ∈ serviceEntries false ++ serviceEntries true,
      [] ∉ lines e ∧ ∀ l ∈ lines e, (35 : UInt8) ∉ l := by
    decide +kernel
  have hmem : entry ∈ serviceEntries false ++ serviceEntries true := by
    rw [List.mem_append]
    cases apple with
    | false => exact Or.inl h
    | true => exact Or.inr h
  obtain ⟨hempty, hsign⟩ := hall entry hmem
  refine ⟨hempty, fun hheader => hsign header hheader (by decide), ?_⟩
  intro l hl
  constructor
  · intro hmark
    exact hsign l hl (hmark.subset (by decide))
  · intro hmark
    exact hsign l hl (hmark.subset (by decide))

/-! ## The edits as operations on lines -/

/-- The lines after the entry has been added. -/
def addLines (hasBegin : Bool) (entries ls : List Str) : List Str :=
  if hasBegin then ls.flatMap (fun l => if l = header then header :: entries else [l])
  else header :: entries ++ ls

/-- The lines after the entry has been removed. -/
def removeLines (entries ls : List Str) : List Str := ls.filter (fun l => l ∉ entries)

theorem unlines_flatMap {α : Type} (f : α → List Str) (l : List α) :
    unlines newline (l.flatMap f) = l.flatMap (fun a => unlines newline (f a)) := by
  unfold unlines
  exact List.flatMap_assoc

theorem unlines_lines (text : Str) : unlines newline (lines text) = text ++ [newline] :=
  unlines_splitOn text

theorem addEntryToFile_eq (fileStr entry : Str) : addEntryToFile fileStr entry =
    trimEnd newline (unlines newline
      (addLines (contains fileStr (header ++ [newline])) (lines entry) (lines fileStr))) := by
  have hloop (hasBegin : Bool) (l : Str) (result : Str) :
      (if l = header ∧ hasBegin = true then
          result ++ (l ++ [newline]) ++ (entry ++ [newline]) else result ++ (l ++ [newline])) =
        result ++ (if l = header ∧ hasBegin = true then
          (l ++ [newline]) ++ (entry ++ [newline]) else l ++ [newline]) := by
    split
    · rw [List.append_assoc]
    · rfl
  unfold addEntryToFile
  simp only [hloop, List.foldl_append_eq_append, ← List.flatMap_def, split_newline]
  congr 1
  cases contains fileStr (header ++ [newline]) with
  | false =>
      simp only [Bool.false_eq_true, and_false, if_false, addLines]
      rw [List.cons_append, ← unlines_lines entry]
      show _ = (header ++ [newline]) ++ unlines newline (lines entry ++ lines fileStr)
      rw [unlines_append, ← List.append_assoc]
      rfl
  | true =>
      simp only [and_true, if_true, List.nil_append, addLines, unlines_flatMap]
      congr 1
      funext l
      split
      · next hl =>
          subst hl
          show _ = (header ++ [newline]) ++ unlines newline (lines entry)
          rw [unlines_lines]
      · simp [unlines]

theorem removeEntryFromFile_eq (fileStr entry : Str) : removeEntryFromFile fileStr entry =
    trimEnd newline (unlines newline (removeLines (lines entry) (lines fileStr))) := by
  have hloop (l : Str) (result : Str) :
      (if (lines entry).any (fun lineEntry => decide (l = lineEntry)) then result
        else result ++ (l ++ [newline])) =
      result ++ (if (lines entry).any (fun lineEntry => decide (l = lineEntry)) then []
        else l ++ [newline]) := by
    split
    · rw [List.append_nil]
    · rfl
  unfold removeEntryFromFile
  simp only [split_newline]
  show trimEnd newline ((lines fileStr).foldl (fun result l =>
    if (lines entry).any (fun lineEntry => decide (l = lineEntry)) then result
    else result ++ (l ++ [newline])) []) = _
  simp only [hloop, List.foldl_append_eq_append, ← List.flatMap_def, List.nil_append]
  congr 1
  unfold removeLines
  induction lines fileStr with
  | nil => rfl
  | cons l ls ih =>
      rw [List.flatMap_cons, ih, List.filter_cons]
      by_cases hl : l ∈ lines entry
      · rw [if_pos (by simpa using hl), if_neg (by simpa using hl)]
        rfl
      · rw [if_neg (by simpa using hl), if_pos (by simpa using hl)]
        rfl

theorem newline_not_mem_header : newline ∉ header := by decide

theorem newline_not_mem_addLines {hasBegin : Bool} {entry text l : Str}
    (h : l ∈ addLines hasBegin (lines entry) (lines text)) : newline ∉ l := by
  have hentry : l ∈ lines entry → newline ∉ l := not_mem_of_mem_splitOn
  have htext : l ∈ lines text → newline ∉ l := not_mem_of_mem_splitOn
  have hheader : l = header → newline ∉ l := fun hl => hl ▸ newline_not_mem_header
  unfold addLines at h
  split at h
  · obtain ⟨m, hm, hl⟩ := List.mem_flatMap.mp h
    split at hl
    · rcases List.mem_cons.mp hl with hl | hl
      · exact hheader hl
      · exact hentry hl
    · rw [List.mem_singleton] at hl
      subst hl
      exact htext hm
  · rw [List.cons_append, List.mem_cons, List.mem_append] at h
    rcases h with hl | hl | hl
    · exact hheader hl
    · exact hentry hl
    · exact htext hl

theorem bodyOf_addEntryToFile (fileStr entry : Str) :
    bodyOf newline (addEntryToFile fileStr entry) =
      body (addLines (contains fileStr (header ++ [newline])) (lines entry) (lines fileStr)) := by
  rw [addEntryToFile_eq, bodyOf_trimEnd]
  exact bodyOf_unlines (fun l hl => newline_not_mem_addLines hl)

theorem bodyOf_removeEntryFromFile (fileStr entry : Str) :
    bodyOf newline (removeEntryFromFile fileStr entry) =
      body (removeLines (lines entry) (lines fileStr)) := by
  rw [removeEntryFromFile_eq, bodyOf_trimEnd]
  exact bodyOf_unlines (fun l hl => not_mem_of_mem_splitOn (List.mem_filter.mp hl).1)

/-! ## What the edits do to the lines -/

section

variable {entry : Str}

theorem IsEntry.getLast?_ne (h : IsEntry entry) : (lines entry).getLast? ≠ some [] :=
  fun hlast => h.not_empty (List.mem_of_getLast? hlast)

theorem IsEntry.ne_nil (h : IsEntry entry) {l : Str} (hl : l ∈ lines entry) : l ≠ [] :=
  fun hnil => h.not_empty (hnil ▸ hl)

/-- An entry whose lines stand in a file is part of its text. -/
theorem IsEntry.infix_of_lines (h : IsEntry entry) {text : Str} (hl : lines entry <:+: lines text) :
    entry <:+: text :=
  infix_of_splitOn_infix hl (getLast?_ne_of_splitOn h.not_empty)

/-- Adding goes by lines only if there is a line to add the entry at. -/
theorem infix_addLines {hasBegin : Bool} {entries ls : List Str}
    (h : hasBegin = true → header ∈ ls) : entries <:+: addLines hasBegin entries ls := by
  cases hasBegin with
  | false => exact ⟨[header], ls, rfl⟩
  | true =>
      obtain ⟨before, after, rfl⟩ := List.append_of_mem (h rfl)
      have hblock : header :: entries <:+:
          addLines true entries (before ++ header :: after) := by
        unfold addLines
        rw [if_pos rfl, List.flatMap_append, List.flatMap_cons, if_pos rfl]
        exact List.infix_append' _ _ _
      exact (List.suffix_cons header entries).isInfix.trans hblock

theorem addLines_eq_self {entries ls : List Str} (h : header ∉ ls) :
    addLines true entries ls = ls := by
  unfold addLines
  rw [if_pos rfl]
  induction ls with
  | nil => rfl
  | cons l ls ih =>
      rw [List.mem_cons, not_or] at h
      rw [List.flatMap_cons, if_neg (Ne.symm h.1), ih h.2]
      rfl

/-- Adding establishes the entry exactly if the file has a header line, or has not the header's text
before a line end either. -/
theorem infix_lines_addEntryToFile (h : IsEntry entry) {text : Str} (hnot : ¬ entry <:+: text) :
    lines entry <:+: lines (addEntryToFile text entry) ↔
      (contains text (header ++ [newline]) = true → header ∈ lines text) := by
  constructor
  · intro hlines hbegin
    by_contra hheader
    -- nothing is added, so the entry would stand in the old text
    have hbody : lines entry <:+: bodyOf newline (addEntryToFile text entry) :=
      infix_body hlines h.getLast?_ne
    rw [bodyOf_addEntryToFile, hbegin, addLines_eq_self hheader] at hbody
    exact hnot (h.infix_of_lines (infix_of_infix_body hbody))
  · intro hplace
    have hbody : lines entry <:+: bodyOf newline (addEntryToFile text entry) := by
      rw [bodyOf_addEntryToFile]
      exact infix_body (infix_addLines hplace) h.getLast?_ne
    exact infix_of_infix_body hbody

/-- Removing leaves no line of the entry. -/
theorem not_mem_lines_removeEntryFromFile (h : IsEntry entry) {text l : Str}
    (hl : l ∈ lines (removeEntryFromFile text entry)) : l ∉ lines entry := by
  by_cases hempty : l = []
  · subst hempty
    exact h.not_empty
  · have hbody : l ∈ bodyOf newline (removeEntryFromFile text entry) := mem_body hl hempty
    rw [bodyOf_removeEntryFromFile] at hbody
    simpa using (List.mem_filter.mp (mem_of_mem_body hbody)).2

end

/-! ## One call on one file -/

/-- What `RemoveFromConfig` makes of a file. -/
def removedContent (apple : Bool) (entry text : Str) : Option Str :=
  let removed := removeEntryFromFile text entry
  if apple then
    if isGenerated removed = true ∧ trim removed = genEntry then none else some removed
  else if isGenerated text then none
  else some removed

/-- What `SetConfigEntry` makes of a file. -/
def setContent (apple hasSystemAuth : Bool) (entry : Str) (enabled : Bool) :
    Option Str → Option Str
  | none =>
      if enabled = false then none
      else if apple then some (genConfigApple entry)
      else if hasSystemAuth then some (genConfig systemIncludes entry)
      else some (genConfig commonIncludes entry)
  | some text =>
      if enabled then some (if contains text entry then text else addEntryToFile text entry)
      else if contains text entry then removedContent apple entry text
      else some text

section

variable {apple : Bool} {files : PAMFiles} {configName entry : Str}

theorem direct_addToConfig_none (hfile : files.pamDir configName = none) :
    (direct.addToConfig apple files configName entry).pamDir configName =
      setContent apple (files.pamDir (str "system-auth")).isSome entry true none := by
  unfold ConfigStore.addToConfig
  rw [if_neg (by simp [hfile])]
  show _ = if true = false then none else if apple then some (genConfigApple entry) else
    if (files.pamDir (str "system-auth")).isSome then some (genConfig systemIncludes entry) else
      some (genConfig commonIncludes entry)
  rw [if_neg (show ¬ true = false by decide)]
  by_cases happle : apple = true
  · rw [if_pos happle, if_pos happle]
    simp
  · rw [if_neg happle, if_neg happle, direct_existsOnDisk]
    by_cases hsystem : (files.pamDir (str "system-auth")).isSome = true
    · rw [if_pos hsystem, if_pos hsystem]
      simp
    · rw [if_neg hsystem, if_neg hsystem]
      simp

theorem direct_addToConfig_some {text : Str} (hfile : files.pamDir configName = some text) :
    (direct.addToConfig apple files configName entry).pamDir configName =
      some (addEntryToFile text entry) := by
  unfold ConfigStore.addToConfig
  rw [if_pos (by simp [hfile])]
  simp [hfile]

theorem direct_removeFromConfig {text : Str} (hfile : files.pamDir configName = some text) :
    (direct.removeFromConfig apple files configName entry).pamDir configName =
      removedContent apple entry text := by
  unfold ConfigStore.removeFromConfig removedContent
  rw [if_neg (by simp [hfile])]
  by_cases happle : apple = true
  · rw [if_pos happle, if_pos happle]
    simp only [direct_readConfig, direct_setConfig_pamDir, Function.update_self, hfile,
      Option.getD_some]
    split
    · simp
    · simp
  · rw [if_neg happle, if_neg happle]
    simp only [direct_readConfig, hfile, Option.getD_some]
    split
    · simp
    · simp

theorem direct_setConfigEntry (enabled : Bool) :
    (direct.setConfigEntry apple files configName entry enabled).pamDir configName =
      setContent apple (files.pamDir (str "system-auth")).isSome entry enabled
        (files.pamDir configName) := by
  -- the polkit restrictions do not touch the directory
  have hpolkit (f : PAMFiles) (b : Bool) : (if configName = str "polkit-1" then
      direct.setPolkitRestrictions f b else f).pamDir = f.pamDir := by
    split
    · exact direct_setPolkitRestrictions_pamDir f b
    · rfl
  unfold ConfigStore.setConfigEntry
  rcases Option.eq_none_or_eq_some (files.pamDir configName) with hfile | ⟨text, hfile⟩
  · have hhas : (direct.configExists files configName &&
        contains (direct.readConfig files configName) entry) = false := by simp [hfile]
    simp only [hhas, and_true, Bool.false_eq_true, and_false, if_false, hfile]
    cases enabled with
    | false => exact hfile
    | true =>
        rw [if_pos rfl, direct_addToConfig_none (by rw [hpolkit, hfile]), hpolkit]
  · have hhas : (direct.configExists files configName &&
        contains (direct.readConfig files configName) entry) = contains text entry := by simp [hfile]
    simp only [hhas, hfile]
    unfold setContent
    by_cases hcontains : contains text entry = true
    · simp only [hcontains, Bool.true_eq_false, and_false, if_false, and_true, if_true]
      cases enabled with
      | true => exact hfile
      | false =>
          rw [if_pos rfl, hpolkit, direct_removeFromConfig hfile,
            if_neg (show ¬ false = true by decide)]
    · rw [Bool.not_eq_true] at hcontains
      simp only [hcontains, and_true, Bool.false_eq_true, and_false, if_false]
      cases enabled with
      | true =>
          have hsame : (if configName = str "polkit-1" then direct.setPolkitRestrictions files false
              else files).pamDir configName = some text := by rw [hpolkit, hfile]
          rw [if_pos rfl, if_pos rfl, direct_addToConfig_some hsame]
      | false => exact hfile

end

/-- `SetConfigEntry` on a helper without pending changes, and `Commit` without I/O errors. -/
def setAndCommit (apple : Bool) (files : PAMFiles) (configName entry : Str) (enabled : Bool) :
    PAMFiles :=
  (commit {} (overlay.setConfigEntry apple { files := files } configName entry enabled)).helper.files

theorem setAndCommit_eq (apple : Bool) (files : PAMFiles) (configName entry : Str) (enabled : Bool) :
    setAndCommit apple files configName entry enabled =
      direct.setConfigEntry apple files configName entry enabled := by
  have hview : (overlay.setConfigEntry apple { files := files } configName entry enabled).view =
      direct.setConfigEntry apple files configName entry enabled :=
    overlay_shows.setConfigEntry apple (clear_fresh files) entry enabled
  unfold setAndCommit
  rw [(commit_eq_view CommitInput.succeeds_default _).1, hview]

/-! ## The postcondition -/

/-- After enabling, the lines of the entry stand in the file one after the other; after disabling, no
line of the file is one of the entry, or there is no file. -/
def Established (entry : Str) (enabled : Bool) (file : Option Str) : Prop :=
  match enabled with
  | true => ∃ text, file = some text ∧ lines entry <:+: lines text
  | false => ∀ text, file = some text → ∀ l ∈ lines text, l ∉ lines entry

/-- The two views of a file agree on an entry. To enable it: a file with the entry's text has the
entry's lines, and a file without it that has the header's text before a line end has a header line.
To disable it: a file without the entry's text has none of its lines. -/
def ViewsAgree (entry : Str) (enabled : Bool) (text : Str) : Prop :=
  match enabled with
  | true => if contains text entry then lines entry <:+: lines text
      else contains text (header ++ [newline]) = true → header ∈ lines text
  | false => contains text entry = true ∨ ∀ l ∈ lines text, l ∉ lines entry

/-- The generated text has the lines of the entry. -/
theorem infix_lines_genConfig (includes : List Str) (entry : Str) :
    lines entry <:+: lines (genConfig includes entry) := by
  have htext : genConfig includes entry = unlines newline ([[], header] ++ lines entry) ++
      (genEntry ++ [newline] ++ [newline] ++ unlines newline includes) := by
    rw [unlines_append, unlines_lines]
    simp [genConfig, unlines]
  have hno : ∀ l ∈ [[], header] ++ lines entry, newline ∉ l := by
    intro l hl
    rcases List.mem_append.mp hl with hl | hl
    · rcases List.mem_cons.mp hl with rfl | hl
      · simp
      · rw [List.mem_singleton] at hl
        subst hl
        exact newline_not_mem_header
    · exact not_mem_of_mem_splitOn hl
  rw [htext]
  unfold lines at hno ⊢
  rw [splitOn_unlines_append hno]
  exact List.infix_append _ _ _

theorem infix_lines_genConfigApple (entry : Str) : lines entry <:+: lines (genConfigApple entry) := by
  have htext : genConfigApple entry = unlines newline ([genEntry] ++ lines entry) ++ [] := by
    rw [unlines_append, unlines_lines]
    simp [genConfigApple, unlines]
  have hno : ∀ l ∈ [genEntry] ++ lines entry, newline ∉ l := by
    intro l hl
    rcases List.mem_append.mp hl with hl | hl
    · rw [List.mem_singleton] at hl
      subst hl
      decide
    · exact not_mem_of_mem_splitOn hl
  rw [htext]
  unfold lines at hno ⊢
  rw [splitOn_unlines_append hno]
  exact List.infix_append _ _ _

theorem established_none {entry : Str} (enabled apple hasSystemAuth : Bool) :
    Established entry enabled (setContent apple hasSystemAuth entry enabled none) := by
  cases enabled with
  | false =>
      intro text htext
      cases htext
  | true =>
      unfold setContent
      simp only [Bool.true_eq_false, if_false]
      split
      · exact ⟨_, rfl, infix_lines_genConfigApple entry⟩
      · split
        · exact ⟨_, rfl, infix_lines_genConfig _ entry⟩
        · exact ⟨_, rfl, infix_lines_genConfig _ entry⟩

theorem established_removedContent {entry : Str} (h : IsEntry entry) (apple : Bool) (text : Str) :
    Established entry false (removedContent apple entry text) := by
  have hremoved : Established entry false (some (removeEntryFromFile text entry)) := by
    rintro _ ⟨⟩ l hl
    exact not_mem_lines_removeEntryFromFile h hl
  have hgone : Established entry false none := by
    rintro _ ⟨⟩
  unfold removedContent
  simp only
  split
  · split
    · exact hgone
    · exact hremoved
  · split
    · exact hgone
    · exact hremoved

theorem established_some_iff {entry : Str} (h : IsEntry entry) (apple hasSystemAuth enabled : Bool)
    (text : Str) : Established entry enabled (setContent apple hasSystemAuth entry enabled (some text)) ↔
      ViewsAgree entry enabled text := by
  cases enabled with
  | true =>
      unfold setContent ViewsAgree
      simp only [if_true]
      by_cases hcontains : contains text entry = true
      · rw [if_pos hcontains, if_pos hcontains]
        constructor
        · rintro ⟨_, ⟨⟩, hlines⟩
          exact hlines
        · intro hlines
          exact ⟨text, rfl, hlines⟩
      · rw [if_neg hcontains, if_neg hcontains,
          ← infix_lines_addEntryToFile h (fun hinfix => hcontains (contains_iff.mpr hinfix))]
        constructor
        · rintro ⟨_, ⟨⟩, hlines⟩
          exact hlines
        · intro hlines
          exact ⟨_, rfl, hlines⟩
  | false =>
      unfold setContent ViewsAgree
      simp only [Bool.false_eq_true, if_false]
      by_cases hcontains : contains text entry = true
      · rw [if_pos hcontains]
        exact iff_of_true (established_removedContent h apple text) (Or.inl hcontains)
      · rw [if_neg hcontains, or_iff_right hcontains]
        constructor
        · intro hest
          exact hest text rfl
        · rintro hlines _ ⟨⟩
          exact hlines

/-- **When an entry is established.** For every entry of `ServiceInstaller` and every file, or none:
after `SetConfigEntry` and `Commit` the entry's lines stand in the file (or none of them does, when
it was disabled) if and only if there was no file, or its text and its lines agree on the entry. -/
theorem entry_established_iff (apple : Bool) (entry : Str) (hentry : entry ∈ serviceEntries apple)
    (files : PAMFiles) (configName : Str) (enabled : Bool) :
    Established entry enabled
        ((setAndCommit apple files configName entry enabled).pamDir configName) ↔
      ∀ text, files.pamDir configName = some text → ViewsAgree entry enabled text := by
  rw [setAndCommit_eq, direct_setConfigEntry]
  rcases Option.eq_none_or_eq_some (files.pamDir configName) with hfile | ⟨text, hfile⟩
  · rw [hfile]
    exact iff_of_true (established_none enabled apple _) (fun text htext => by cases htext)
  · rw [hfile, established_some_iff (isEntry_of_mem hentry)]
    constructor
    · rintro hagree _ ⟨⟩
      exact hagree
    · intro hagree
      exact hagree text rfl

end PAMHelper

namespace Sample

open PAMHelper

/-- A directory with one file. -/
def oneFile (name text : Str) : PAMFiles where
  pamDir n := if n = name then some text else none

/-- The entry has been commented out by hand. -/
def commentedText : Str := str "#" ++ pamConfigEntry ++ [newline]

/-- One of the two lines of the entry for SDDM. -/
def halfText : Str := pamConfigEntry ++ str "\naccount x\n"

end Sample

namespace PAMHelper

/-- A commented-out entry keeps the entry from being added; the half of an entry stays when the
entry is disabled. -/
theorem entry_not_established :
    ¬ Established pamConfigEntry true ((setAndCommit false
        (Sample.oneFile (str "sudo") Sample.commentedText) (str "sudo") pamConfigEntry true).pamDir
      (str "sudo")) ∧
    ¬ Established pamConfigEntrySddm false ((setAndCommit false
        (Sample.oneFile (str "sddm") Sample.halfText) (str "sddm") pamConfigEntrySddm false).pamDir
      (str "sddm")) := by
  constructor
  · have hfile : (setAndCommit false (Sample.oneFile (str "sudo") Sample.commentedText) (str "sudo")
        pamConfigEntry true).pamDir (str "sudo") = some Sample.commentedText := by decide +kernel
    rw [hfile]
    rintro ⟨_, ⟨⟩, hlines⟩
    revert hlines
    decide +kernel
  · have hfile : (setAndCommit false (Sample.oneFile (str "sddm") Sample.halfText) (str "sddm")
        pamConfigEntrySddm false).pamDir (str "sddm") = some Sample.halfText := by decide +kernel
    rw [hfile]
    intro hest
    exact hest _ rfl pamConfigEntry (by decide +kernel) (by decide +kernel)

theorem entry_established_sample :
    Established pamConfigEntry true ((setAndCommit false
        (Sample.oneFile (str "sudo") (str "account x\n")) (str "sudo") pamConfigEntry true).pamDir
      (str "sudo")) := by
  refine (entry_established_iff false pamConfigEntry (by decide) _ _ true).mpr ?_
  rintro _ ⟨⟩
  unfold ViewsAgree
  rw [if_neg (by decide +kernel)]
  decide +kernel

/-! ## Disabling after enabling -/

section

variable {entry text : Str}

theorem mem_of_mem_addLines {hasBegin : Bool} {entries ls : List Str} {l : Str}
    (h : l ∈ addLines hasBegin entries ls) : l = header ∨ l ∈ entries ∨ l ∈ ls := by
  unfold addLines at h
  split at h
  · obtain ⟨m, hm, hl⟩ := List.mem_flatMap.mp h
    split at hl
    · rcases List.mem_cons.mp hl with hl | hl
      · exact Or.inl hl
      · exact Or.inr (Or.inl hl)
    · rw [List.mem_singleton] at hl
      subst hl
      exact Or.inr (Or.inr hm)
  · rw [List.cons_append, List.mem_cons, List.mem_append] at h
    exact h

theorem mem_addLines {hasBegin : Bool} {entries ls : List Str} {l : Str} (h : l ∈ ls) :
    l ∈ addLines hasBegin entries ls := by
  unfold addLines
  split
  · refine List.mem_flatMap.mpr ⟨l, h, ?_⟩
    split
    · next hl => rw [hl]; exact List.mem_cons_self
    · exact List.mem_singleton_self l
  · exact List.mem_append_right _ h

theorem header_mem_addLines {hasBegin : Bool} {entries ls : List Str}
    (h : hasBegin = true → header ∈ ls) : header ∈ addLines hasBegin entries ls := by
  cases hasBegin with
  | false => exact List.mem_cons_self
  | true => exact mem_addLines (h rfl)

/-- Removing the entry from the lines it was added to leaves what removing it from the old lines
leaves, after a new header if there was none. -/
theorem removeLines_addLines (h : IsEntry entry) (hasBegin : Bool) (ls : List Str) :
    removeLines (lines entry) (addLines hasBegin (lines entry) ls) =
      if hasBegin then removeLines (lines entry) ls else header :: removeLines (lines entry) ls := by
  have hself : removeLines (lines entry) (lines entry) = [] := by
    unfold removeLines
    rw [List.filter_eq_nil_iff]
    intro l hl
    simpa using hl
  have hheader (ms : List Str) : removeLines (lines entry) (header :: ms) =
      header :: removeLines (lines entry) ms := by
    unfold removeLines
    rw [List.filter_cons_of_pos (by simpa using h.not_header)]
  have happend (ms ns : List Str) : removeLines (lines entry) (ms ++ ns) =
      removeLines (lines entry) ms ++ removeLines (lines entry) ns := by
    unfold removeLines
    exact List.filter_append ms ns
  cases hasBegin with
  | false =>
      rw [if_neg (by decide)]
      show removeLines (lines entry) (header :: (lines entry ++ ls)) = _
      rw [hheader, happend, hself, List.nil_append]
  | true =>
      rw [if_pos rfl]
      unfold addLines
      rw [if_pos rfl]
      induction ls with
      | nil => rfl
      | cons l ls ih =>
          rw [List.flatMap_cons, happend, ih]
          by_cases hl : l = header
          · rw [if_pos hl, hl, hheader, hheader, hself, List.cons_append, List.nil_append]
          · rw [if_neg hl, ← happend]
            rfl

theorem body_removeLines_body (h : IsEntry entry) (ls : List Str) :
    body (removeLines (lines entry) (body ls)) = body (removeLines (lines entry) ls) := by
  unfold removeLines
  exact body_filter_body (by simpa using h.not_empty) ls

/-- The body of the file after enabling and removing the entry again. -/
theorem bodyOf_remove_add (h : IsEntry entry) (text : Str) :
    bodyOf newline (removeEntryFromFile (addEntryToFile text entry) entry) =
      if contains text (header ++ [newline]) then body (removeLines (lines entry) (lines text))
      else header :: body (removeLines (lines entry) (lines text)) := by
  have hadded : body (lines (addEntryToFile text entry)) =
      body (addLines (contains text (header ++ [newline])) (lines entry) (lines text)) :=
    bodyOf_addEntryToFile text entry
  rw [bodyOf_removeEntryFromFile, ← body_removeLines_body h, hadded, body_removeLines_body h,
    removeLines_addLines h]
  split
  · rfl
  · exact body_cons (by decide) _

/-- Where nothing is added, the new text does not contain the entry either. -/
theorem not_infix_addEntryToFile (h : IsEntry entry) (hnot : ¬ entry <:+: text)
    (hbegin : contains text (header ++ [newline]) = true) (hheader : header ∉ lines text) :
    ¬ entry <:+: addEntryToFile text entry := by
  intro hinfix
  rw [addEntryToFile_eq, hbegin, addLines_eq_self hheader, unlines_lines] at hinfix
  obtain ⟨k, hk⟩ := trimEnd_append newline (text ++ [newline])
  have hlong : entry <:+: text ++ [newline] := by
    rw [hk]
    exact List.infix_append_of_infix_left hinfix
  exact hnot (infix_of_infix_concat hlong (getLast?_ne_of_splitOn h.not_empty))

/-- Adding an entry does not mark a file. -/
theorem infix_mark_addEntryToFile {mark : Str} (hne : mark ≠ [])
    (hnewline : newline ∉ mark) (hheader : ¬ mark <:+: header)
    (hentry : ∀ l ∈ lines entry, ¬ mark <:+: l) :
    mark <:+: addEntryToFile text entry ↔ mark <:+: text := by
  have hline {l : Str} (hl : mark <:+: l) : l ≠ [] := by
    rintro rfl
    exact hne (List.infix_nil.mp hl)
  rw [infix_iff_line hne hnewline, infix_iff_line hne hnewline]
  constructor
  · rintro ⟨l, hl, hmark⟩
    have hbody : l ∈ bodyOf newline (addEntryToFile text entry) := mem_body hl (hline hmark)
    rw [bodyOf_addEntryToFile] at hbody
    rcases mem_of_mem_addLines (mem_of_mem_body hbody) with rfl | hl | hl
    · exact absurd hmark hheader
    · exact absurd hmark (hentry l hl)
    · exact ⟨l, hl, hmark⟩
  · rintro ⟨l, hl, hmark⟩
    have hbody : l ∈ bodyOf newline (addEntryToFile text entry) := by
      rw [bodyOf_addEntryToFile]
      exact mem_body (mem_addLines hl) (hline hmark)
    exact ⟨l, mem_of_mem_body hbody, hmark⟩

theorem isGenerated_addEntryToFile (h : IsEntry entry) (text : Str) :
    isGenerated (addEntryToFile text entry) = isGenerated text := by
  have hmark : genEntry <:+: addEntryToFile text entry ↔ genEntry <:+: text :=
    infix_mark_addEntryToFile (by decide) (by decide) (by decide +kernel)
      (fun l hl => (h.not_marked l hl).1)
  have hmarkOld : genEntryOld <:+: addEntryToFile text entry ↔ genEntryOld <:+: text :=
    infix_mark_addEntryToFile (by decide) (by decide) (by decide +kernel)
      (fun l hl => (h.not_marked l hl).2)
  unfold isGenerated contains
  simp only [hmark, hmarkOld]

/-- On Apple systems a file that has been enabled keeps its header, so it is not removed. -/
theorem trim_ne_genEntry (h : IsEntry entry) (text : Str)
    (hplace : contains text (header ++ [newline]) = true → header ∈ lines text) :
    trim (removeEntryFromFile (addEntryToFile text entry) entry) ≠ genEntry := by
  intro htrim
  have hadded : header ∈ lines (addEntryToFile text entry) := by
    have hbody : header ∈ bodyOf newline (addEntryToFile text entry) := by
      rw [bodyOf_addEntryToFile]
      exact mem_body (header_mem_addLines hplace) (by decide)
    exact mem_of_mem_body hbody
  have hremoved : header ∈ lines (removeEntryFromFile (addEntryToFile text entry) entry) := by
    have hbody : header ∈ bodyOf newline
        (removeEntryFromFile (addEntryToFile text entry) entry) := by
      rw [bodyOf_removeEntryFromFile]
      exact mem_body (List.mem_filter.mpr ⟨hadded, by simpa using h.not_header⟩) (by decide)
    exact mem_of_mem_body hbody
  have hinfix : header <:+: removeEntryFromFile (addEntryToFile text entry) entry :=
    (infix_iff_line (by decide) newline_not_mem_header).mpr ⟨header, hremoved, List.infix_rfl⟩
  have hspace : ∀ c ∈ header, isSpace c = false := by
    have hall : header.all (fun c => !isSpace c) = true := by decide
    intro c hc
    simpa using List.all_eq_true.mp hall c hc
  have hgen : header <:+: genEntry := by
    rw [← htrim]
    exact infix_trim (by decide) hspace hinfix
  -- the header's percent sign is not in the mark
  have hpercent : (37 : UInt8) ∈ genEntry := hgen.subset (by decide)
  exact absurd hpercent (by decide)

end

/-- The same lines, but for a header line that may have been added at the front and empty lines at
the end; a file that did not exist still does not. -/
def SameLines (before after : Option Str) : Prop :=
  match before, after with
  | none, none => True
  | some text, some text' => bodyOf newline text' = bodyOf newline text ∨
      bodyOf newline text' = header :: bodyOf newline text
  | _, _ => False

/-- Nothing is added to the file because it has the header's text before a line end but no header
line; or none of its lines is one of the entry, and on Linux it is not marked as generated. -/
def Undone (apple : Bool) (entry text : Str) : Prop :=
  (contains text (header ++ [newline]) = true ∧ header ∉ lines text) ∨
    ((apple = true ∨ isGenerated text = false) ∧ ∀ l ∈ lines text, l ∉ lines entry)

section

variable {apple : Bool} {entry text : Str}

/-- The two bodies agree exactly if the file had no line of the entry. -/
theorem sameLines_remove_add_iff (h : IsEntry entry) :
    SameLines (some text) (some (removeEntryFromFile (addEntryToFile text entry) entry)) ↔
      ∀ l ∈ lines text, l ∉ lines entry := by
  unfold SameLines
  simp only
  rw [bodyOf_remove_add h]
  constructor
  · intro hsame l hl hentry
    have hne : l ≠ [] := by
      rintro rfl
      exact h.not_empty hentry
    have hnot : l ∉ body (removeLines (lines entry) (lines text)) := by
      intro hmem
      have hkept := (List.mem_filter.mp (mem_of_mem_body hmem)).2
      simp only [decide_eq_true_eq] at hkept
      exact hkept hentry
    have hnot' : l ∉ header :: body (removeLines (lines entry) (lines text)) := by
      rw [List.mem_cons, not_or]
      refine ⟨?_, hnot⟩
      rintro rfl
      exact h.not_header hentry
    have hbody : l ∈ bodyOf newline text := mem_body hl hne
    rcases hsame with hsame | hsame
    · rw [← hsame] at hbody
      split at hbody
      · exact hnot hbody
      · exact hnot' hbody
    · have hlong : l ∈ header :: bodyOf newline text := List.mem_cons_of_mem _ hbody
      rw [← hsame] at hlong
      split at hlong
      · exact hnot hlong
      · exact hnot' hlong
  · intro hnone
    have hself : removeLines (lines entry) (lines text) = lines text := by
      unfold removeLines
      rw [List.filter_eq_self]
      intro l hl
      simpa using hnone l hl
    rw [hself]
    split
    · exact Or.inl rfl
    · exact Or.inr rfl

/-- An existing file without the entry's text. -/
theorem sameLines_some_iff (h : IsEntry entry) (hnot : contains text entry = false)
    (hasSystemAuth hasSystemAuth' : Bool) :
    SameLines (some text) (setContent apple hasSystemAuth' entry false
        (setContent apple hasSystemAuth entry true (some text))) ↔ Undone apple entry text := by
  have hnot' : ¬ entry <:+: text := fun hinfix => by
    rw [contains_iff.mpr hinfix] at hnot
    cases hnot
  have henabled : setContent apple hasSystemAuth entry true (some text) =
      some (addEntryToFile text entry) := by
    unfold setContent
    simp only [if_true, hnot, Bool.false_eq_true, if_false]
  rw [henabled]
  unfold setContent
  simp only [Bool.false_eq_true, if_false]
  by_cases hodd : contains text (header ++ [newline]) = true ∧ header ∉ lines text
  · -- nothing is added, and so nothing is removed
    have hstill : ¬ contains (addEntryToFile text entry) entry = true := fun hc =>
      not_infix_addEntryToFile h hnot' hodd.1 hodd.2 (contains_iff.mp hc)
    rw [if_neg hstill]
    refine iff_of_true (Or.inl ?_) (Or.inl hodd)
    rw [bodyOf_addEntryToFile, hodd.1, addLines_eq_self hodd.2]
    rfl
  · have hplace : contains text (header ++ [newline]) = true → header ∈ lines text := by
      intro hbegin
      by_contra hheader
      exact hodd ⟨hbegin, hheader⟩
    have hadded : contains (addEntryToFile text entry) entry = true :=
      contains_iff.mpr (h.infix_of_lines ((infix_lines_addEntryToFile h hnot').mpr hplace))
    rw [if_pos hadded]
    unfold removedContent Undone
    rw [or_iff_right hodd]
    simp only
    by_cases happle : apple = true
    · rw [if_pos happle, if_neg (fun hgone => trim_ne_genEntry h text hplace hgone.2),
        sameLines_remove_add_iff h]
      exact (and_iff_right (Or.inl happle)).symm
    · rw [if_neg happle, isGenerated_addEntryToFile h]
      by_cases hgenerated : isGenerated text = true
      · rw [if_pos hgenerated]
        refine iff_of_false (fun hsame => hsame) ?_
        rintro ⟨hcase | hcase, -⟩
        · exact happle hcase
        · rw [hgenerated] at hcase
          cases hcase
      · rw [if_neg hgenerated, sameLines_remove_add_iff h]
        exact (and_iff_right (Or.inr (by simpa using hgenerated))).symm

/-- A file that is generated on enabling is removed on disabling. -/
theorem setContent_generated (hentry : entry ∈ serviceEntries apple)
    (hasSystemAuth hasSystemAuth' : Bool) :
    setContent apple hasSystemAuth' entry false (setContent apple hasSystemAuth entry true none) =
      none := by
  have hall : ∀ b ∈ [false, true], ∀ b' ∈ [false, true], ∀ b'' ∈ [false, true],
      ∀ e ∈ serviceEntries b, setContent b b' e false (setContent b b'' e true none) = none := by
    decide +kernel
  exact hall apple (by simp) hasSystemAuth' (by simp) hasSystemAuth (by simp) entry hentry

end

/-- **When disabling undoes enabling.** For every entry of `ServiceInstaller` and every file without
the entry's text, or none: enabling and disabling the entry, each with a `Commit`, gives back the
lines of the file (and no file where there was none) if and only if the file is `Undone`. -/
theorem disable_undoes_enable_iff (apple : Bool) (entry : Str)
    (hentry : entry ∈ serviceEntries apple) (files : PAMFiles) (configName : Str)
    (hnot : ∀ text, files.pamDir configName = some text → contains text entry = false) :
    SameLines (files.pamDir configName)
        ((setAndCommit apple (setAndCommit apple files configName entry true)
          configName entry false).pamDir configName) ↔
      ∀ text, files.pamDir configName = some text → Undone apple entry text := by
  rw [setAndCommit_eq, direct_setConfigEntry, setAndCommit_eq, direct_setConfigEntry]
  rcases Option.eq_none_or_eq_some (files.pamDir configName) with hfile | ⟨text, hfile⟩
  · rw [hfile, setContent_generated hentry]
    exact iff_of_true trivial (fun text htext => by cases htext)
  · rw [hfile, sameLines_some_iff (isEntry_of_mem hentry) (hnot text hfile)]
    constructor
    · rintro hundone _ ⟨⟩
      exact hundone
    · intro hundone
      exact hundone text rfl

/-- A line of the file that is also a line of the entry for SDDM is lost, and a file marked as
generated is removed. -/
theorem disable_loses_line :
    contains Sample.halfText pamConfigEntrySddm = false ∧
    ¬ SameLines (some Sample.halfText) ((setAndCommit false (setAndCommit false
        (Sample.oneFile (str "sddm") Sample.halfText) (str "sddm") pamConfigEntrySddm true)
      (str "sddm") pamConfigEntrySddm false).pamDir (str "sddm")) ∧
    (setAndCommit false (setAndCommit false (Sample.oneFile (str "sudo") genEntry) (str "sudo")
      pamConfigEntry true) (str "sudo") pamConfigEntry false).pamDir (str "sudo") = none := by
  refine ⟨by decide +kernel, ?_, by decide +kernel⟩
  have hfile : (setAndCommit false (setAndCommit false
        (Sample.oneFile (str "sddm") Sample.halfText) (str "sddm") pamConfigEntrySddm true)
      (str "sddm") pamConfigEntrySddm false).pamDir (str "sddm") =
        some (str "#%PAM-1.0\naccount x\n") := by decide +kernel
  rw [hfile]
  rintro (hsame | hsame)
  · revert hsame
    decide +kernel
  · revert hsame
    decide +kernel

theorem disable_undoes_enable_sample :
    SameLines (some (str "account x\n")) ((setAndCommit false (setAndCommit false
        (Sample.oneFile (str "sddm") (str "account x\n")) (str "sddm") pamConfigEntrySddm true)
      (str "sddm") pamConfigEntrySddm false).pamDir (str "sddm")) := by
  have hfile : (Sample.oneFile (str "sddm") (str "account x\n")).pamDir (str "sddm") =
      some (str "account x\n") := by decide +kernel
  rw [← hfile]
  refine (disable_undoes_enable_iff false pamConfigEntrySddm (by decide +kernel) _ _ ?_).mpr ?_
  · intro text htext
    rw [hfile] at htext
    cases htext
    decide +kernel
  · intro text htext
    rw [hfile] at htext
    cases htext
    exact Or.inr ⟨Or.inr (by decide +kernel), by decide +kernel⟩

end PAMHelper

end PcbuDesktop
