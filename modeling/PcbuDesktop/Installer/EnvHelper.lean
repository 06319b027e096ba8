import PcbuDesktop.Basic.Replace
import PcbuDesktop.Installer.Install

set_option autoImplicit false

/-! # The SSH lines of the environment file

`EnvHelper::SetSshEnabled` (`installer/helpers/EnvHelper.cpp`) adds two lines to a file of the user,
or takes them out again with `StringUtils::Replace`. On macOS the file is the user's own `.zshenv`.
A call is a function of the state of the user's files and of what the system answers (`EnvOs`); paths
are lists of parts below the home directory.

The block is found where it has been added because its second line does not begin as its first one
does: an occurrence that begins earlier would have the newline of the block at the end of the text
in front of it.
-/

namespace PcbuDesktop

namespace EnvHelper

/-! ## The operations -/

/-- The two lines of `SSH_ENV_LINE_LINUX` and of `SSH_ENV_LINE_MAC`. -/
def sshEnvLines : Platform → Str × Str
  | .linux => (str "SSH_ASKPASS=/usr/local/sbin/pcbu_ssh_askpass", str "SSH_ASKPASS_REQUIRE=force")
  | .mac => (str "export SSH_ASKPASS=/usr/local/sbin/pcbu_ssh_askpass",
      str "export SSH_ASKPASS_REQUIRE=force")

/-- `SSH_ENV_LINE_LINUX` or `SSH_ENV_LINE_MAC`. -/
def sshEnvLine (p : Platform) : Str := (sshEnvLines p).1 ++ newline :: (sshEnvLines p).2

/-- `GetEnvFile`, below the home directory. -/
def envFile : Platform → List Str
  | .linux => [str ".config", str "environment.d", str "pulseunlock-ssh.conf"]
  | .mac => [str ".zshenv"]

/-- The environment file, if there is one, and the directories that exist. -/
structure UserFiles where
  file : Option Str
  dirs : List Str → Bool

/-- The text of the file; one that does not exist has none. -/
def UserFiles.content (s : UserFiles) : Str := s.file.getD []

/-- What the system answers during one call. -/
structure EnvOs where
  /-- `getpwnam` finds the user. -/
  hasUserInfo : Bool := true
  homeDir : Str
  homeExists : Bool := true
  isSymlink : List Str → Bool := fun _ => false
  /-- `ReadBytes` can open the file. When it cannot, it returns no bytes and only logs it. -/
  opens : Bool := true
  createDir : List Str → Bool := fun _ => true
  isAdmin : Bool := true
  chown : List Str → Bool := fun _ => true
  write : WriteOutcome := .written
  chmod : Bool := true

/-- The exceptions: `I18n::Get("error_file_write", arg)` and `"Error setting file permissions."`. -/
inductive EnvError where
  | fileWrite (arg : Str)
  | filePermissions
  deriving DecidableEq, Repr

/-- `homeDir / part / …`. -/
def pathString (homeDir : Str) (parts : List Str) : Str :=
  parts.foldl (fun path part =>
    if path.getLast? = some 47 then path ++ part else path ++ str "/" ++ part) homeDir

/-- `EnvHelper::HasSymlinkBelow`. -/
def hasSymlinkBelow (os : EnvOs) : List Str → List Str → Bool
  | _, [] => false
  | currPath, part :: parts =>
      if os.isSymlink (currPath ++ [part]) then true
      else hasSymlinkBelow os (currPath ++ [part]) parts

/-- `EnvHelper::SetUserOwner`. -/
def setUserOwner (os : EnvOs) (path : List Str) : Except EnvError Unit :=
  if os.isAdmin = false then .ok ()
  else if os.chown path then .ok () else .error .filePermissions

/-- `EnvHelper::CreateUserDirs`. For a file in the home directory itself the loop of the source has
one round, on the directory `.`, which exists. -/
def createUserDirs (os : EnvOs) : List Str → List Str → UserFiles → Except EnvError Unit × UserFiles
  | _, [], s => (.ok (), s)
  | currDir, part :: parts, s =>
      let currDir := currDir ++ [part]
      if s.dirs currDir then createUserDirs os currDir parts s
      else if os.createDir currDir = false then
        (.error (.fileWrite (pathString os.homeDir currDir)), s)
      else
        let s := { s with dirs := Function.update s.dirs currDir true }
        match setUserOwner os currDir with
        | .error e => (.error e, s)
        | .ok _ => createUserDirs os currDir parts s

/-- The text with the block. -/
def addLines (p : Platform) (fileStr : Str) : Str :=
  let fileStr :=
    if fileStr ≠ [] ∧ fileStr.getLast? ≠ some newline then fileStr ++ [newline] else fileStr
  fileStr ++ sshEnvLine p ++ [newline]

/-- The text without the block. -/
def removeLines (p : Platform) (fileStr : Str) : Str :=
  let fileStr := replace fileStr (sshEnvLine p) []
  if fileStr.getLast? = some newline then fileStr.dropLast else fileStr

/-- The end of `SetSshEnabled`: the text is written to the file. -/
def writeFile (p : Platform) (os : EnvOs) (fileStr : Str) (s : UserFiles) :
    Except EnvError Unit × UserFiles :=
  match createUserDirs os [] (envFile p).dropLast s with
  | (.error e, s) => (.error e, s)
  | (.ok _, s) =>
      let failed := EnvError.fileWrite (pathString os.homeDir (envFile p))
      match os.write with
      | .untouched => (.error failed, s)
      | .stopped n => (.error failed, { s with file := some (fileStr.take n) })
      | .written =>
          let s := { s with file := some fileStr }
          match setUserOwner os (envFile p) with
          | .error e => (.error e, s)
          | .ok _ => if os.chmod then (.ok (), s) else (.error .filePermissions, s)

/-- `EnvHelper::SetSshEnabled`. -/
def setSshEnabled (p : Platform) (os : EnvOs) (enabled : Bool) (s : UserFiles) :
    Except EnvError Unit × UserFiles :=
  if os.hasUserInfo = false ∨ os.homeDir = [] ∨ os.homeExists = false then
    (.error (.fileWrite (str "SSH-Env")), s)
  else if hasSymlinkBelow os [] (envFile p) then
    (.error (.fileWrite (pathString os.homeDir (envFile p))), s)
  else
    let fileStr := if s.file.isSome ∧ os.opens then s.content else []
    let hasLine := contains fileStr (sshEnvLine p)
    if enabled = hasLine then (.ok (), s)
    else if enabled then writeFile p os (addLines p fileStr) s
    else writeFile p os (removeLines p fileStr) s

/-- Calls one after the other; `none` when one of them throws. -/
def setAll (p : Platform) : List (EnvOs × Bool) → UserFiles → Option UserFiles
  | [], s => some s
  | (os, enabled) :: calls, s =>
      match setSshEnabled p os enabled s with
      | (.ok _, s) => setAll p calls s
      | (.error _, _) => none

/-! ## The text a call leaves -/

/-- `F'`: a newline is appended when there is text and it does not end with one. -/
def terminated (text : Str) : Str :=
  if text ≠ [] ∧ text.getLast? ≠ some newline then text ++ [newline] else text

/-- The text after a call on a text. -/
def editText (p : Platform) (text : Str) (enabled : Bool) : Str :=
  if enabled = contains text (sshEnvLine p) then text
  else if enabled then addLines p text else removeLines p text

theorem writeFile_ok {p : Platform} {os : EnvOs} {fileStr : Str} {s s' : UserFiles}
    (h : writeFile p os fileStr s = (.ok (), s')) : s'.content = fileStr := by
  unfold writeFile at h
  cases hdirs : createUserDirs os [] (envFile p).dropLast s with
  | mk r s₁ =>
      rw [hdirs] at h
      cases r with
      | error e => cases h
      | ok u =>
          dsimp only at h
          cases hwrite : os.write with
          | untouched =>
              rw [hwrite] at h
              cases h
          | stopped n =>
              rw [hwrite] at h
              cases h
          | written =>
              rw [hwrite] at h
              cases howner : setUserOwner os (envFile p) with
              | error e =>
                  rw [howner] at h
                  cases h
              | ok u =>
                  rw [howner] at h
                  dsimp only at h
                  by_cases hchmod : os.chmod = true
                  · rw [if_pos hchmod] at h
                    cases h
                    rfl
                  · rw [if_neg hchmod] at h
                    cases h

/-- A call that returns has written the edited text, if it was able to read the text. -/
theorem setSshEnabled_content {p : Platform} {os : EnvOs} {enabled : Bool} {s s' : UserFiles}
    (hopens : os.opens = true) (h : setSshEnabled p os enabled s = (.ok (), s')) :
    s'.content = editText p s.content enabled := by
  have hread : (if s.file.isSome ∧ os.opens then s.content else []) = s.content := by
    cases hfile : s.file with
    | none => simp [UserFiles.content, hfile]
    | some text => simp [hopens]
  unfold setSshEnabled at h
  dsimp only at h
  rw [hread] at h
  unfold editText
  split_ifs at h with huser hlink hsame hadd
  · cases h
  · cases h
  · cases h
    rw [if_pos hsame]
  · rw [if_neg hsame, if_pos hadd]
    exact writeFile_ok h
  · rw [if_neg hsame, if_neg hadd]
    exact writeFile_ok h

/-! ## The block and the text -/

theorem sshEnvLines_newline (p : Platform) :
    newline ∉ (sshEnvLines p).1 ∧ newline ∉ (sshEnvLines p).2 := by
  cases p with
  | linux => decide
  | mac => decide

/-- The second line is not how the block begins. -/
theorem sshEnvLines_apart (p : Platform) : ¬ (sshEnvLines p).2 <+: sshEnvLine p := by
  cases p with
  | linux => decide
  | mac => decide

theorem sshEnvLine_getLast (p : Platform) : (sshEnvLine p).getLast? ≠ some newline := by
  cases p with
  | linux => decide
  | mac => decide

theorem sshEnvLine_ne_nil (p : Platform) : sshEnvLine p ≠ [] := by
  unfold sshEnvLine
  simp

theorem terminated_cases (text : Str) :
    terminated text = [] ∨ ∃ init, terminated text = init ++ [newline] := by
  unfold terminated
  by_cases h : text ≠ [] ∧ text.getLast? ≠ some newline
  · rw [if_pos h]
    exact Or.inr ⟨text, rfl⟩
  · rw [if_neg h]
    by_cases hnil : text = []
    · exact Or.inl hnil
    · have hlast : text.getLast? = some newline := by
        by_contra hne
        exact h ⟨hnil, hne⟩
      exact Or.inr ⟨text.dropLast, (List.dropLast_append_getLast? newline hlast).symm⟩

theorem terminated_terminated (text : Str) : terminated (terminated text) = terminated text := by
  rcases terminated_cases text with h | ⟨init, h⟩
  · rw [h]
    rfl
  · rw [h]
    unfold terminated
    rw [if_neg (by simp)]

theorem contains_terminated {p : Platform} {text : Str}
    (h : contains text (sshEnvLine p) = false) : contains (terminated text) (sshEnvLine p) = false := by
  have hno : ¬ sshEnvLine p <:+: text := by
    rw [← contains_iff, h]
    exact Bool.false_ne_true
  rw [← Bool.not_eq_true, contains_iff]
  unfold terminated
  by_cases hnewline : text ≠ [] ∧ text.getLast? ≠ some newline
  · rw [if_pos hnewline]
    intro hinfix
    rcases List.infix_concat_iff.mp hinfix with hsuffix | hinfix
    · -- the block does not end with a newline
      rcases List.suffix_concat_iff.mp hsuffix with hnil | ⟨init, hblock, -⟩
      · exact sshEnvLine_ne_nil p hnil
      · exact sshEnvLine_getLast p (by rw [hblock, List.getLast?_concat])
    · exact hno hinfix
  · rwa [if_neg hnewline]

/-- The block begins where it was added, and nowhere in front of it. -/
theorem find_added {p : Platform} {text : Str} (h : contains text (sshEnvLine p) = false)
    (t : Str) :
    find (sshEnvLine p) (terminated text ++ (sshEnvLine p ++ t)) =
      some (terminated text).length := by
  have hno : ¬ sshEnvLine p <:+: terminated text := by
    rw [← contains_iff, contains_terminated h]
    exact Bool.false_ne_true
  rw [find_append, find_self_append (sshEnvLine_ne_nil p), Option.map_some, Nat.add_zero]
  intro z hz hne hpre
  have hself : z <+: z ++ (sshEnvLine p ++ t) := List.prefix_append ..
  rcases List.prefix_or_prefix_of_prefix hpre hself with hin | hout
  · exact hno (hin.isInfix.trans hz.isInfix)
  · -- an occurrence that begins in the text and ends in the block: `z` ends with a newline
    obtain ⟨rest, hrest⟩ := hout
    obtain ⟨init, hinit⟩ : ∃ init, z = init ++ [newline] := by
      rcases terminated_cases text with hnil | ⟨all, hall⟩
      · rw [hnil] at hz
        exact absurd (List.suffix_nil.mp hz) hne
      · rw [hall] at hz
        rcases List.suffix_concat_iff.mp hz with hnil | ⟨init, hinit, -⟩
        · exact absurd hnil hne
        · exact ⟨init, hinit⟩
    obtain ⟨hfirst, hsecond⟩ := sshEnvLines_newline p
    have hlines : (sshEnvLines p).1 ++ newline :: (sshEnvLines p).2 = init ++ newline :: rest := by
      show sshEnvLine p = _
      rw [← hrest, hinit, List.append_assoc, List.singleton_append]
    have heq : (sshEnvLines p).2 = rest :=
      ((List.append_cons_inj_of_notMem hfirst hsecond).mp hlines).2.2
    refine sshEnvLines_apart p ?_
    rw [heq]
    have hbehind : rest <+: sshEnvLine p ++ t := by
      rwa [← List.prefix_append_right_inj z, hrest]
    have hlen : rest.length ≤ (sshEnvLine p).length := by
      rw [← hrest, List.length_append]
      omega
    exact List.prefix_of_prefix_length_le hbehind (List.prefix_append ..) hlen

/-! ## One call -/

theorem contains_addLines (p : Platform) (text : Str) :
    contains (addLines p text) (sshEnvLine p) = true := by
  rw [contains_iff]
  exact ⟨terminated text, [newline], rfl⟩

/-- Removing the block leaves its newline, which is dropped. -/
theorem removeLines_addLines {p : Platform} {text : Str}
    (h : contains text (sshEnvLine p) = false) :
    removeLines p (addLines p text) = terminated text := by
  have hfind := find_added h [newline]
  have hadded : addLines p text = terminated text ++ (sshEnvLine p ++ [newline]) :=
    List.append_assoc ..
  have hkept : kept (addLines p text) (sshEnvLine p) [] = [terminated text, [newline]] := by
    rw [kept_eq [] (sshEnvLine_ne_nil p), stepAfter, if_pos rfl, hadded]
    obtain ⟨n, hn⟩ : ∃ n, (terminated text ++ (sshEnvLine p ++ [newline])).length = n + 1 := by
      refine ⟨(terminated text ++ sshEnvLine p).length, ?_⟩
      rw [← List.append_assoc, List.length_append, List.length_singleton]
    rw [hn, pieces, List.drop_zero, hfind]
    dsimp only
    rw [Nat.zero_add, List.take_left, List.drop_length_add_append, List.drop_left]
    cases n with
    | zero => rfl
    | succ n =>
        have hnone : find (sshEnvLine p) [] = none := by
          rw [find, if_neg (sshEnvLine_ne_nil p)]
        rw [pieces, List.drop_succ_cons, List.drop_nil, hnone]
  unfold removeLines
  rw [replace_eq_intercalate [] (sshEnvLine_ne_nil p), hkept]
  have hjoin : ([] : Str).intercalate [terminated text, [newline]] = terminated text ++ [newline] := by
    simp [List.intercalate]
  dsimp only
  rw [hjoin, if_pos (by simp), List.dropLast_concat]

theorem addLines_terminated (p : Platform) (text : Str) :
    addLines p (terminated text) = addLines p text := by
  show terminated (terminated text) ++ sshEnvLine p ++ [newline] = _
  rw [terminated_terminated]
  rfl

theorem editText_absent {p : Platform} {text : Str} (h : contains text (sshEnvLine p) = false)
    (enabled : Bool) : editText p text enabled = if enabled then addLines p text else text := by
  unfold editText
  rw [h]
  cases enabled with
  | true => rfl
  | false => rfl

theorem editText_added {p : Platform} {text : Str} (h : contains text (sshEnvLine p) = false)
    (enabled : Bool) :
    editText p (addLines p text) enabled =
      if enabled then addLines p text else terminated text := by
  unfold editText
  rw [contains_addLines]
  cases enabled with
  | true => rfl
  | false => exact removeLines_addLines h

/-! ## Any number of calls -/

/-- The text after calls on a text without the block. -/
def contentAfter (p : Platform) (text : Str) (enabled : List Bool) : Str :=
  if true ∉ enabled then text
  else if enabled.getLast? = some true then terminated text ++ sshEnvLine p ++ [newline]
  else terminated text

theorem contentAfter_concat (p : Platform) (text : Str) (before : List Bool) (last : Bool) :
    contentAfter p text (before ++ [last]) =
      if last then addLines p text
      else if true ∉ before then text else terminated text := by
  unfold contentAfter
  cases last with
  | true =>
      rw [if_neg (by simp), if_pos (by simp), if_pos rfl]
      rfl
  | false =>
      by_cases h : true ∈ before
      · simp [h]
      · simp [h]

/-- A text without the block is as before, or with the block, or terminated. -/
theorem foldl_editText {p : Platform} {text : Str} (h : contains text (sshEnvLine p) = false)
    (enabled : List Bool) : enabled.foldl (editText p) text = contentAfter p text enabled := by
  induction enabled using List.reverseRecOn with
  | nil => rfl
  | append_singleton before last ih =>
      rw [List.foldl_concat, ih, contentAfter_concat]
      unfold contentAfter
      by_cases hnever : true ∈ before
      · rw [if_neg (not_not_intro hnever), if_neg (not_not_intro hnever)]
        by_cases hlast : before.getLast? = some true
        · rw [if_pos hlast]
          exact editText_added h last
        · rw [if_neg hlast, editText_absent (contains_terminated h), addLines_terminated]
      · rw [if_pos hnever, if_pos hnever]
        exact editText_absent h last

theorem setAll_content {p : Platform} {calls : List (EnvOs × Bool)} {s s' : UserFiles}
    (hopens : ∀ call ∈ calls, call.1.opens = true) (h : setAll p calls s = some s') :
    s'.content = (calls.map Prod.snd).foldl (editText p) s.content := by
  induction calls generalizing s with
  | nil =>
      cases h
      rfl
  | cons call calls ih =>
      obtain ⟨os, enabled⟩ := call
      rw [setAll] at h
      cases hcall : setSshEnabled p os enabled s with
      | mk r s₁ =>
          rw [hcall] at h
          cases r with
          | error e => cases h
          | ok u =>
              have hfirst := setSshEnabled_content (hopens _ List.mem_cons_self) hcall
              rw [ih (fun c hc => hopens c (List.mem_cons_of_mem _ hc)) h, List.map_cons,
                List.foldl_cons, hfirst]

/-- **Toggling the SSH lines is reversible.** Starting with a text that does not contain the block,
calls that succeed leave the text unchanged as long as none of them was with `true`; after that the
text is the terminated one, with the block and a newline behind it exactly when the last call was
with `true`. The terminated text is the first one with at most one newline appended. -/
theorem setSshEnabled_reversible (p : Platform) {calls : List (EnvOs × Bool)} {s s' : UserFiles}
    (hfirst : contains s.content (sshEnvLine p) = false)
    (hopens : ∀ call ∈ calls, call.1.opens = true) (h : setAll p calls s = some s') :
    (s'.content =
      if true ∉ calls.map Prod.snd then s.content
      else if (calls.map Prod.snd).getLast? = some true then
        terminated s.content ++ sshEnvLine p ++ [newline]
      else terminated s.content) ∧
    (terminated s.content = s.content ∨ terminated s.content = s.content ++ [newline]) := by
  constructor
  · rw [setAll_content hopens h]
    exact foldl_editText hfirst _
  · unfold terminated
    by_cases hnewline : s.content ≠ [] ∧ s.content.getLast? ≠ some newline
    · rw [if_pos hnewline]
      exact Or.inr rfl
    · rw [if_neg hnewline]
      exact Or.inl rfl

namespace Sample

def zshenv : UserFiles where
  file := some (str "export EDITOR=vi")
  dirs := fun _ => true

def os : EnvOs where
  homeDir := str "/Users/me"

end Sample

/-- Switched on, on again, off and on. -/
theorem setSshEnabled_reversible_sample :
    ∃ s', setAll .mac [(Sample.os, true), (Sample.os, true), (Sample.os, false), (Sample.os, true)]
        Sample.zshenv = some s' ∧
      s'.content = str "export EDITOR=vi" ++ [newline] ++ sshEnvLine .mac ++ [newline] := by
  have hsome : (setAll .mac
      [(Sample.os, true), (Sample.os, true), (Sample.os, false), (Sample.os, true)]
      Sample.zshenv).isSome = true := by decide +kernel
  obtain ⟨s', hs'⟩ := Option.isSome_iff_exists.mp hsome
  have hopens : ∀ call ∈ [(Sample.os, true), (Sample.os, true), (Sample.os, false),
      (Sample.os, true)], call.1.opens = true := by simp [Sample.os]
  have hcontent := (setSshEnabled_reversible .mac (by decide +kernel) hopens hs').1
  refine ⟨s', hs', ?_⟩
  rw [hcontent, if_neg (by decide), if_pos (by decide)]
  decide +kernel

end EnvHelper

end PcbuDesktop
