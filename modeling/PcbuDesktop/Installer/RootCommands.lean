import PcbuDesktop.Lib.DoubleQuotes
import PcbuDesktop.Lib.ShellTemplate
import PcbuDesktop.Shell.ShellQuote
import PcbuDesktop.Installer.EnvHelper

set_option autoImplicit false

/-! # The commands that are run as root

The texts of the shell commands with which `LocalShell::ProtectFile`, `PAMHelper::CommitWithTerminal`
and the installer act as root. Most of them have their words from `ShellQuote`, each where a command
reads words, so that no path and no text changes what is run. `EnvHelper` writes its two commands
with double quotes around the path instead: they are the intended ones exactly when nothing in the
user's home directory begins or ends something there for the shell of the platform.
-/

namespace PcbuDesktop

open ShellLexer
open EnvHelper (pathString envFile)

/-- `SHELL_NAME`, which runs a command with the options it starts with. -/
def shellName : Platform → Dialect
  | .linux => .bash
  | .mac => .zsh

/-! ## `ProtectFile` -/

/-- `CHOWN_USER`. -/
def chownUser : Platform → Str
  | .linux => str "root:root"
  | .mac => str "root"

/-- The command of `LocalShell::ProtectFile`. -/
def protectFileCommand (p : Platform) (path : Str) : Str :=
  str "chown " ++ chownUser p ++ str " " ++ shellQuote path ++ str " && chmod 600 " ++
    shellQuote path

theorem protectFile_fixed (p : Platform) :
    Fixed (shellName p) (protectFileCommand p) (fun path (_ : Unit) => path) := by
  refine fixed_of_template quotes_shellQuote
    [.text (str "chown " ++ chownUser p ++ str " "), .word (), .text (str " && chmod 600 "),
      .word ()] ?_ ?_
  · cases p <;> decide +kernel
  · intro path
    simp [protectFileCommand, fill, Piece.fill]

/-! ## The update of the PAM configuration -/

/-- `fmt::format` of a number. -/
def decimalText (n : Nat) : Str := (Nat.toDigits 10 n).map (fun c => c.toNat.toUInt8)

/-- What `CommitWithTerminal` writes its scripts from: the base directory, the directory for
temporary files, the random `id`, the texts of `I18n` and the changes. A change without data removes
the file. -/
structure PamUpdate where
  baseDir : Str
  tempDir : Str
  id : Str
  intro : Str
  instructions : Str
  success : Str
  failed : Str
  changes : List (Str × Option Bytes)

namespace PamUpdate

/-- `stagingDir.parent_path()`. -/
def stagingParent (u : PamUpdate) : Str := pathString u.baseDir [str "pam-staging"]

def stagingDir (u : PamUpdate) : Str := pathString u.baseDir [str "pam-staging", u.id]

def applyFile (u : PamUpdate) : Str := pathString u.stagingDir [str "apply.sh"]

def commandFile (u : PamUpdate) : Str := pathString u.stagingDir [str "update.command"]

def statusFile (u : PamUpdate) : Str :=
  pathString u.tempDir [str "pcbu-pam-" ++ u.id ++ str ".status"]

def stagedFile (u : PamUpdate) (fileIdx : Nat) : Str :=
  pathString u.stagingDir [str "file" ++ decimalText fileIdx]

/-- The lines of `applyScript` from a change on. -/
def applyLines (u : PamUpdate) : Nat → List (Str × Option Bytes) → Str
  | _, [] => []
  | fileIdx, (path, some _) :: changes =>
      str "/usr/bin/install -S -m 0644 -o root -g wheel " ++
        shellQuote (u.stagedFile fileIdx) ++ str " " ++ shellQuote path ++ str "\n" ++
        applyLines u (fileIdx + 1) changes
  | fileIdx, (path, none) :: changes =>
      str "/bin/rm -f " ++ shellQuote path ++ str "\n" ++ applyLines u fileIdx changes

/-- `applyScript`, which is run with `sudo`. -/
def applyScript (u : PamUpdate) : Str := str "#!/bin/bash\nset -e\n" ++ u.applyLines 0 u.changes

def fileList (u : PamUpdate) : Str :=
  u.changes.flatMap fun change => str "printf '  %s\\n' " ++ shellQuote change.1 ++ str "\n"

/-- The lines of `commandScript` that close the window of Terminal. -/
def closeTerminal : Str :=
  str "  TTY_PATH=\"$(tty)\"\n" ++
  str "  (/usr/bin/osascript -e 'on run argv' -e 'tell application \"Terminal\"' " ++
  str "-e 'repeat with w in windows' \\\n" ++
  str "    -e 'if tty of selected tab of w is item 1 of argv then' -e 'close w' " ++
  str "-e 'exit repeat' -e 'end if' \\\n" ++
  str "    -e 'end repeat' -e 'if (count of windows) is 0 then quit' -e 'end tell' " ++
  str "-e 'end run' \"$TTY_PATH\" >/dev/null 2>&1 &)\n"

/-- `commandScript`, which Terminal runs. -/
def commandScript (u : PamUpdate) : Str :=
  str "#!/bin/bash\nSTATUS_FILE=" ++ shellQuote u.statusFile ++
  str "\ntrap 'echo failed > \"$STATUS_FILE\"; exit 1' HUP INT TERM\nclear\n" ++
  str "printf '%s\\n\\n' " ++ shellQuote u.intro ++ str "\n" ++ u.fileList ++ str "\n" ++
  str "printf '\\n%s\\n\\n' " ++ shellQuote u.instructions ++ str "\n" ++
  str "if /usr/bin/sudo /bin/bash " ++ shellQuote u.applyFile ++ str "; then\n" ++
  str "  echo ok > \"$STATUS_FILE\"\n" ++
  str "  printf '\\n%s\\n' " ++ shellQuote u.success ++ str "\n" ++
  closeTerminal ++
  str "  exit 0\nfi\necho failed > \"$STATUS_FILE\"\n" ++
  str "printf '\\n%s\\n' " ++ shellQuote u.failed ++ str "\nexit 1\n"

/-- The command that hands the staging directory over to root, for the shell of macOS. -/
def stagingCommand (u : PamUpdate) : Str :=
  str "chown -R root:wheel " ++ shellQuote u.stagingDir ++ str " && chmod 755 " ++
    shellQuote u.stagingParent ++ str " " ++ shellQuote u.stagingDir ++ str " && chmod 644 " ++
    shellQuote u.stagingDir ++ str "/* && chmod 755 " ++ shellQuote u.commandFile

inductive StagingWord where
  | stagingDir
  | stagingParent
  | commandFile

def stagingWords (u : PamUpdate) : StagingWord → Str
  | .stagingDir => u.stagingDir
  | .stagingParent => u.stagingParent
  | .commandFile => u.commandFile

theorem stagingCommand_fixed : Fixed .zsh stagingCommand stagingWords := by
  refine fixed_of_template quotes_shellQuote
    [.text (str "chown -R root:wheel "), .word .stagingDir, .text (str " && chmod 755 "),
      .word .stagingParent, .text (str " "), .word .stagingDir, .text (str " && chmod 644 "),
      .word .stagingDir, .text (str "/* && chmod 755 "), .word .commandFile]
    (by decide +kernel) ?_
  intro u
  simp [stagingCommand, fill, Piece.fill, stagingWords]

/-- The words in a line of `applyScript`. -/
inductive ApplyWord where
  | stagedFile
  | target

/-- A line of `applyScript`, for a change with data or without. -/
def applyLine : Bool → List (Piece ApplyWord)
  | true => [.text (str "/usr/bin/install -S -m 0644 -o root -g wheel "), .word .stagedFile,
      .text (str " "), .word .target, .text (str "\n")]
  | false => [.text (str "/bin/rm -f "), .word .target, .text (str "\n")]

def applyLineWords (u : PamUpdate) (fileIdx : Nat) (path : Str) : ApplyWord → Str
  | .stagedFile => u.stagedFile fileIdx
  | .target => path

/-- The words of `applyScript`, line by line. -/
def applyWords (u : PamUpdate) : Nat → List (Str × Option Bytes) → List (ApplyWord → Str)
  | _, [] => []
  | fileIdx, (path, data) :: changes =>
      u.applyLineWords fileIdx path ::
        applyWords u (if data.isSome then fileIdx + 1 else fileIdx) changes

/-- Which changes have data. -/
def kinds (u : PamUpdate) : List Bool := u.changes.map (·.2.isSome)

theorem applyLines_eq (u : PamUpdate) (fileIdx : Nat) (changes : List (Str × Option Bytes)) :
    u.applyLines fileIdx changes =
      (List.zipWith (fill shellQuote) (u.applyWords fileIdx changes)
        (changes.map fun change => applyLine change.2.isSome)).flatten := by
  induction changes generalizing fileIdx with
  | nil => rfl
  | cons change changes ih =>
      obtain ⟨path, data⟩ := change
      cases data with
      | none =>
          rw [applyLines, ih]
          simp [applyWords, applyLine, fill, Piece.fill, applyLineWords]
      | some bytes =>
          rw [applyLines, ih]
          simp [applyWords, applyLine, fill, Piece.fill, applyLineWords]

theorem applyWords_length (u : PamUpdate) (fileIdx : Nat) (changes : List (Str × Option Bytes)) :
    (u.applyWords fileIdx changes).length = changes.length := by
  induction changes generalizing fileIdx with
  | nil => rfl
  | cons change changes ih => simp [applyWords, ih]

/-- The script for the changes has one command for each of them, whatever their paths are. -/
theorem applyScript_fixed (kinds : List Bool) :
    Fixed .bash (fun u : { u : PamUpdate // u.kinds = kinds } => u.1.applyScript)
      (fun u => wordsAt (u.1.applyWords 0 u.1.changes)) := by
  refine fixed_of_template quotes_shellQuote
    ([.text (str "#!/bin/bash\nset -e\n")] ++ numbered 0 (kinds.map applyLine)) ?_ ?_
  · refine isReadable_of_isLine (isLine_append (by decide +kernel) (isLine_numbered ?_ 0))
    intro line hline
    obtain ⟨hasData, _, rfl⟩ := List.mem_map.mp hline
    cases hasData <;> decide +kernel
  · rintro ⟨u, rfl⟩
    have hlines : u.kinds.map applyLine = u.changes.map fun change => applyLine change.2.isSome :=
      List.map_map
    rw [hlines, fill_append, fill_numbered _ _ (by simp [applyWords_length]), ← applyLines_eq]
    simp [applyScript, fill, Piece.fill]

/-- The words of `commandScript` but the paths of the changes. -/
inductive ScriptWord where
  | statusFile
  | intro
  | instructions
  | applyFile
  | success
  | failed

def scriptWords (u : PamUpdate) : ScriptWord → Str
  | .statusFile => u.statusFile
  | .intro => u.intro
  | .instructions => u.instructions
  | .applyFile => u.applyFile
  | .success => u.success
  | .failed => u.failed

/-- A line of `fileList`. -/
def fileLine : List (Piece Unit) := [.text (str "printf '  %s\\n' "), .word (), .text (str "\n")]

/-- `commandScript` up to `fileList`. -/
def scriptFront : List (Piece ScriptWord) :=
  [.text (str "#!/bin/bash\nSTATUS_FILE="), .word .statusFile,
    .text (str "\ntrap 'echo failed > \"$STATUS_FILE\"; exit 1' HUP INT TERM\nclear\n"),
    .text (str "printf '%s\\n\\n' "), .word .intro, .text (str "\n")]

/-- `commandScript` from `fileList` on. -/
def scriptBack : List (Piece ScriptWord) :=
  [.text (str "\n"), .text (str "printf '\\n%s\\n\\n' "), .word .instructions, .text (str "\n"),
    .text (str "if /usr/bin/sudo /bin/bash "), .word .applyFile, .text (str "; then\n"),
    .text (str "  echo ok > \"$STATUS_FILE\"\n"),
    .text (str "  printf '\\n%s\\n' "), .word .success, .text (str "\n"), .text closeTerminal,
    .text (str "  exit 0\nfi\necho failed > \"$STATUS_FILE\"\n"),
    .text (str "printf '\\n%s\\n' "), .word .failed, .text (str "\nexit 1\n")]

theorem fileList_eq (u : PamUpdate) :
    u.fileList = fill shellQuote (wordsAt (u.changes.map fun change _ => change.1))
      (numbered 0 (List.replicate u.changes.length fileLine)) := by
  rw [fill_numbered _ _ (by simp), fileList]
  induction u.changes with
  | nil => rfl
  | cons change changes ih =>
      rw [List.flatMap_cons, ih]
      simp [List.replicate_succ, fileLine, fill, Piece.fill]

theorem commandScript_eq (u : PamUpdate) :
    u.commandScript = fill shellQuote u.scriptWords scriptFront ++
      (u.fileList ++ fill shellQuote u.scriptWords scriptBack) := by
  unfold commandScript fill scriptFront scriptBack
  simp only [List.flatMap_cons, List.flatMap_nil, List.append_assoc, List.append_nil, Piece.fill,
    scriptWords]

/-- The words of `commandScript`. -/
def commandWords (u : PamUpdate) : ScriptWord ⊕ Nat × Unit → Str :=
  Sum.elim u.scriptWords (wordsAt (u.changes.map fun change _ => change.1))

/-- `commandScript` for `n` changes. -/
def commandTemplate (n : Nat) : List (Piece (ScriptWord ⊕ Nat × Unit)) :=
  scriptFront.map (Piece.map .inl) ++
    ((numbered 0 (List.replicate n fileLine)).map (Piece.map .inr) ++
      scriptBack.map (Piece.map .inl))

theorem isLine_commandTemplate (n : Nat) : isLine .bash start (commandTemplate n) = true := by
  have hline : isLine .bash start fileLine = true := by decide +kernel
  have hfront : isLine .bash start scriptFront = true := by decide +kernel
  have hback : isLine .bash start scriptBack = true := by decide +kernel
  have hlines : isLine .bash start (numbered 0 (List.replicate n fileLine)) = true :=
    isLine_numbered (fun line h => List.eq_of_mem_replicate h ▸ hline) 0
  exact isLine_append (isLine_map hfront _)
    (isLine_append (isLine_map hlines _) (isLine_map hback _))

/-- The script for Terminal has the same commands whatever the paths and the texts are. -/
theorem commandScript_fixed (n : Nat) :
    Fixed .bash (fun u : { u : PamUpdate // u.changes.length = n } => u.1.commandScript)
      (fun u => u.1.commandWords) := by
  refine fixed_of_template quotes_shellQuote (commandTemplate n)
    (isReadable_of_isLine (isLine_commandTemplate n)) ?_
  rintro ⟨u, rfl⟩
  have hback : fill shellQuote u.commandWords (scriptBack.map (Piece.map .inl)) =
      fill shellQuote u.scriptWords scriptBack := fill_map ..
  have hfront : fill shellQuote u.commandWords (scriptFront.map (Piece.map .inl)) =
      fill shellQuote u.scriptWords scriptFront := fill_map ..
  have hlist : fill shellQuote u.commandWords
      ((numbered 0 (List.replicate u.changes.length fileLine)).map (Piece.map .inr)) =
        fill shellQuote (wordsAt (u.changes.map fun change _ => change.1))
          (numbered 0 (List.replicate u.changes.length fileLine)) := fill_map ..
  rw [commandTemplate, fill_append, fill_append, hfront, hlist, hback, ← fileList_eq]
  exact commandScript_eq u

end PamUpdate

/-! ## The installer -/

/-- `CLI_DIR`. -/
def cliDir : Platform → Str
  | .linux => str "/usr/bin/"
  | .mac => str "/usr/local/bin/"

/-- What the commands of `Install` are written from: the directory of the program and the random
part of a name. -/
structure InstallInput where
  programDir : Str
  random : Str

inductive CliWord where
  | cliDir
  | cliSrc
  | stagingPath
  | cliPath

def cliWords (p : Platform) (input : InstallInput) : CliWord → Str
  | .cliDir => cliDir p
  | .cliSrc => pathString input.programDir [str "pulseunlock"]
  | .stagingPath => pathString (cliDir p) [str ".pulseunlock-" ++ input.random]
  | .cliPath => pathString (cliDir p) [str "pulseunlock"]

/-- The command of `ServiceInstaller::InstallCli`. -/
def installCliCommand (p : Platform) (input : InstallInput) : Str :=
  let word (w : CliWord) := shellQuote (cliWords p input w)
  str "mkdir -p " ++ word .cliDir ++ str " && cp " ++ word .cliSrc ++ str " " ++
    word .stagingPath ++ str " && chown 0:0 " ++ word .stagingPath ++ str " && chmod 755 " ++
    word .stagingPath ++ str " && mv -f " ++ word .stagingPath ++ str " " ++ word .cliPath ++
    str " || \x7b rm -f " ++ word .stagingPath ++ str "; exit 1; \x7d"

theorem installCli_fixed (p : Platform) :
    Fixed (shellName p) (installCliCommand p) (cliWords p) := by
  refine fixed_of_template quotes_shellQuote
    [.text (str "mkdir -p "), .word .cliDir, .text (str " && cp "), .word .cliSrc,
      .text (str " "), .word .stagingPath, .text (str " && chown 0:0 "), .word .stagingPath,
      .text (str " && chmod 755 "), .word .stagingPath, .text (str " && mv -f "),
      .word .stagingPath, .text (str " "), .word .cliPath, .text (str " || \x7b rm -f "),
      .word .stagingPath, .text (str "; exit 1; \x7d")]
    (by cases p <;> decide +kernel) ?_
  intro input
  simp [installCliCommand, fill, Piece.fill]

inductive AgentWord where
  | agentSrc
  | agentPath
  | agentDir

/-- `agentSrc`, `agentPath` and `AGENT_INSTALL_DIR`. -/
def agentWords (input : InstallInput) : AgentWord → Str
  | .agentSrc =>
      pathString input.programDir [str "..", str "Library", str "PulseUnlockAgent.app"]
  | .agentPath =>
      pathString (str "/Library/Application Support/PulseUnlock/") [str "PulseUnlockAgent.app"]
  | .agentDir => str "/Library/Application Support/PulseUnlock/"

/-- The command with which `ServiceInstaller::Install` copies the agent on macOS. -/
def copyAgentCommand (input : InstallInput) : Str :=
  let word (w : AgentWord) := shellQuote (agentWords input w)
  str "mkdir -p " ++ word .agentDir ++ str " && ditto " ++ word .agentSrc ++ str " " ++
    word .agentPath ++ str " && chown -R root:wheel " ++ word .agentPath ++
    str " && chmod -R go-w " ++ word .agentPath

theorem copyAgent_fixed : Fixed .zsh copyAgentCommand agentWords := by
  refine fixed_of_template quotes_shellQuote
    [.text (str "mkdir -p "), .word .agentDir, .text (str " && ditto "), .word .agentSrc,
      .text (str " "), .word .agentPath, .text (str " && chown -R root:wheel "), .word .agentPath,
      .text (str " && chmod -R go-w "), .word .agentPath]
    (by decide +kernel) ?_
  intro input
  simp [copyAgentCommand, fill, Piece.fill]

/-! ## The environment file -/

/-- `{0}:{1}` in the command of `SetUserOwner`. -/
def ownerText (uid gid : UInt32) : Str :=
  decimalText uid.toNat ++ str ":" ++ decimalText gid.toNat

/-- The command of `EnvHelper::SetUserOwner`. -/
def setUserOwnerCommand (uid gid : UInt32) (path : Str) : Str :=
  str "chown " ++ ownerText uid gid ++ str " \"" ++ path ++ str "\""

/-- The command at the end of `EnvHelper::SetSshEnabled`. -/
def setModeCommand (path : Str) : Str := str "chmod 644 \"" ++ path ++ str "\""

/-- What the shell should read of `SetUserOwner`: three words, the path one of them. -/
def setUserOwnerEvents (uid gid : UInt32) (path : Str) : List Event :=
  plainWord (str "chown") ++ .blank ::
    (plainWord (ownerText uid gid) ++ .blank :: quotedWord path)

def setModeEvents (path : Str) : List Event :=
  plainWord (str "chmod") ++ .blank :: (plainWord (str "644") ++ .blank :: quotedWord path)

variable {sh : Dialect}

theorem setMode_iff (path : Str) :
    lex sh (setModeCommand path) = some (setModeEvents path) ↔
      Inert sh path ∧ path.getLast? ≠ some backslash := by
  have hfront : run sh start (str "chmod 644 \"") = ([.double, .command { inWord := true }],
      plainWord (str "chmod") ++ .blank :: (plainWord (str "644") ++ [.blank, .wordBegin])) := by
    cases sh <;> decide +kernel
  have h := lex_doubleQuoted_iff hfront ⟨rfl, rfl, rfl⟩ rfl path
  have hevents : setModeEvents path = plainWord (str "chmod") ++ .blank ::
      (plainWord (str "644") ++ [.blank, .wordBegin]) ++ (quotedBytes path ++ [.wordEnd]) := by
    simp [setModeEvents, quotedWord]
  rw [hevents, setModeCommand, List.append_assoc]
  exact h

theorem isPlainByte_decimalText (n : Nat) : ∀ c ∈ decimalText n, isPlainByte c = true := by
  have hdigits : ∀ d : Fin 58, 48 ≤ d.val → isPlainByte d.val.toUInt8 = true := by decide +kernel
  intro b hb
  obtain ⟨c, hc, rfl⟩ := List.mem_map.mp hb
  have hdigit := Nat.isDigit_of_mem_toDigits (by decide) (by decide) hc
  simp only [Char.isDigit, Bool.and_eq_true, decide_eq_true_iff] at hdigit
  have hle : c.toNat ≤ 57 := UInt32.le_iff_toNat_le.mp hdigit.2
  have hge : 48 ≤ c.toNat := UInt32.le_iff_toNat_le.mp hdigit.1
  exact hdigits ⟨c.toNat, by omega⟩ hge

theorem isPlainByte_ownerText (uid gid : UInt32) :
    ∀ c ∈ ownerText uid gid, isPlainByte c = true := by
  have hcolon : ∀ c ∈ str ":", isPlainByte c = true :=
    List.all_eq_true.mp (by decide)
  intro c hc
  rcases List.mem_append.mp hc with hc | hc
  · rcases List.mem_append.mp hc with hc | hc
    · exact isPlainByte_decimalText _ c hc
    · exact hcolon c hc
  · exact isPlainByte_decimalText _ c hc

theorem run_ownerText (uid gid : UInt32) (cmd : Command) :
    run sh [.command cmd] (ownerText uid gid) = ([.command (cmd.add (ownerText uid gid) false)],
      cmd.begins ++ (ownerText uid gid).map (.byte · false)) := by
  have hplain := isPlainByte_ownerText uid gid
  cases hlist : ownerText uid gid with
  | nil =>
      obtain ⟨hfirst, _⟩ := List.append_eq_nil_iff.mp hlist
      exact absurd (List.append_eq_nil_iff.mp hfirst).2 (List.cons_ne_nil _ _)
  | cons c t => exact run_plain (hlist ▸ hplain) cmd []

theorem setUserOwner_iff (uid gid : UInt32) (path : Str) :
    lex sh (setUserOwnerCommand uid gid path) = some (setUserOwnerEvents uid gid path) ↔
      Inert sh path ∧ path.getLast? ≠ some backslash := by
  have hchown : run sh start (str "chown ") =
      ([.command {}], plainWord (str "chown") ++ [.blank]) := by cases sh <;> decide +kernel
  have hquote : run sh [.command (({} : Command).add (ownerText uid gid) false)] (str " \"") =
      ([.double, .command { inWord := true }], [.wordEnd, .blank, .wordBegin]) := rfl
  have hfront : run sh start (str "chown " ++ (ownerText uid gid ++ str " \"")) =
      ([.double, .command { inWord := true }], plainWord (str "chown") ++ .blank ::
        (plainWord (ownerText uid gid) ++ [.blank, .wordBegin])) := by
    rw [run_append, hchown, run_append, run_ownerText, hquote]
    simp [plainWord, Command.begins]
  have h := lex_doubleQuoted_iff hfront ⟨rfl, rfl, rfl⟩ rfl path
  have htext : setUserOwnerCommand uid gid path =
      str "chown " ++ (ownerText uid gid ++ str " \"") ++ (path ++ [dquote]) := by
    simp [setUserOwnerCommand]
    rfl
  have hevents : setUserOwnerEvents uid gid path = plainWord (str "chown") ++ .blank ::
      (plainWord (ownerText uid gid) ++ [.blank, .wordBegin]) ++
        (quotedBytes path ++ [.wordEnd]) := by
    simp [setUserOwnerEvents, quotedWord]
  rw [hevents, htext]
  exact h

/-! ### Paths below the home directory -/

/-- A `/` does not change the byte behind it, and no byte changes a `/`. -/
theorem apart_slash (c : UInt8) : Apart sh 47 c ∧ Apart sh c 47 :=
  ⟨⟨fun h => absurd h (by decide), fun h => absurd h (by decide)⟩,
    ⟨fun _ => ⟨by decide, by decide⟩, fun _ => by cases sh <;> decide⟩⟩

theorem inert_slash : Inert sh [47] := ⟨by decide, by decide, .singleton 47⟩

/-- One part more. -/
theorem inert_join_iff (path : Str) {part : Str} (h : Inert sh part) :
    Inert sh (pathString path [part]) ↔ Inert sh path := by
  show Inert sh (if path.getLast? = some 47 then path ++ part else path ++ str "/" ++ part) ↔ _
  split
  next hslash =>
    rw [inert_append_iff]
    · exact and_iff_left h
    · intro c hc d _
      rw [hslash] at hc
      cases hc
      exact (apart_slash d).1
  · rw [inert_append_iff, inert_append_iff]
    · exact ⟨fun hall => hall.1.1, fun hpath => ⟨⟨hpath, inert_slash⟩, h⟩⟩
    · intro c _ d hd
      cases hd
      exact (apart_slash c).2
    · intro c hc d _
      have hlast : (path ++ str "/").getLast? = some 47 := List.getLast?_concat
      rw [hlast] at hc
      cases hc
      exact (apart_slash d).1

theorem inert_pathString_iff (homeDir : Str) {parts : List Str}
    (h : ∀ part ∈ parts, Inert sh part) :
    Inert sh (pathString homeDir parts) ↔ Inert sh homeDir := by
  induction parts generalizing homeDir with
  | nil => rfl
  | cons part parts ih =>
      show Inert sh (pathString (pathString homeDir [part]) parts) ↔ _
      rw [ih _ (fun q hq => h q (List.mem_cons_of_mem part hq))]
      exact inert_join_iff homeDir (h part List.mem_cons_self)

theorem getLast?_pathString (homeDir : Str) (parts : List Str) {part : Str} (h : part ≠ []) :
    (pathString homeDir (parts ++ [part])).getLast? = part.getLast? := by
  have hsome : part.getLast?.isSome := List.getLast?_isSome.mpr h
  obtain ⟨last, hlast⟩ := Option.isSome_iff_exists.mp hsome
  unfold EnvHelper.pathString
  rw [List.foldl_append, List.foldl_cons, List.foldl_nil]
  split
  · rw [List.getLast?_append, hlast, Option.some_or]
  · rw [List.getLast?_append, hlast, Option.some_or]

/-- The parts of the path of the environment file are read as they are. -/
theorem inert_envFile (sh : Dialect) (p : Platform) :
    ∀ part ∈ envFile p, Inert sh part ∧ part ≠ [] ∧ part.getLast? ≠ some backslash := by
  cases sh <;> cases p <;> decide +kernel

/-- The paths that `EnvHelper` writes between double quotes are read as they are when the home
directory is. -/
theorem inert_envPath_iff (sh : Dialect) (p : Platform) (homeDir : Str) {parts : List Str}
    (hparts : parts <+: envFile p) (hne : parts ≠ []) :
    Inert sh (pathString homeDir parts) ∧ (pathString homeDir parts).getLast? ≠ some backslash ↔
      Inert sh homeDir := by
  have hmem : ∀ part ∈ parts, part ∈ envFile p := fun part h => hparts.subset h
  have hiff := inert_pathString_iff homeDir
    (fun part h => (inert_envFile sh p part (hmem part h)).1)
  rcases List.eq_nil_or_concat parts with rfl | ⟨init, last, rfl⟩
  · exact absurd rfl hne
  · rw [List.concat_eq_append] at hiff hmem ⊢
    obtain ⟨_, hlast, hslash⟩ := inert_envFile sh p last (hmem last (by simp))
    rw [hiff, getLast?_pathString homeDir init hlast]
    exact and_iff_left hslash

/-! ## All of them -/

/-- What `ShellQuote` returns is one word for the shell, the text itself; and no path and no text
changes the commands that are run as root, with the user `uid`, the group `gid` and the home
directory `homeDir` of the user whose environment file is written. -/
structure CommandsFixed (p : Platform) (uid gid : UInt32) (homeDir : Str) : Prop where
  isWord : ∀ sh s, IsWord sh (shellQuote s) s
  protectFile : ∀ q, Fixed (shellName q) (protectFileCommand q) (fun path (_ : Unit) => path)
  applyScript : ∀ kinds,
    Fixed .bash (fun u : { u : PamUpdate // u.kinds = kinds } => u.1.applyScript)
      (fun u => wordsAt (u.1.applyWords 0 u.1.changes))
  commandScript : ∀ n,
    Fixed .bash (fun u : { u : PamUpdate // u.changes.length = n } => u.1.commandScript)
      (fun u => u.1.commandWords)
  stagingCommand : Fixed .zsh PamUpdate.stagingCommand PamUpdate.stagingWords
  installCli : ∀ q, Fixed (shellName q) (installCliCommand q) (cliWords q)
  copyAgent : Fixed .zsh copyAgentCommand agentWords
  setUserOwner : ∀ parts, parts <+: envFile p → parts ≠ [] →
    lex (shellName p) (setUserOwnerCommand uid gid (pathString homeDir parts)) =
      some (setUserOwnerEvents uid gid (pathString homeDir parts))
  setMode : lex (shellName p) (setModeCommand (pathString homeDir (envFile p))) =
    some (setModeEvents (pathString homeDir (envFile p)))

/-- **The commands that are run as root are the intended ones exactly when nothing in the home
directory begins or ends something in double quotes.** -/
theorem commandsFixed_iff (p : Platform) (uid gid : UInt32) (homeDir : Str) :
    CommandsFixed p uid gid homeDir ↔ Inert (shellName p) homeDir := by
  have hne : envFile p ≠ [] := by cases p <;> decide
  constructor
  · intro h
    exact (inert_envPath_iff _ p homeDir List.prefix_rfl hne).mp ((setMode_iff _).mp h.setMode)
  · intro h
    exact
      { isWord := fun _ s => (quotes_shellQuote s).isWord
        protectFile := protectFile_fixed
        applyScript := PamUpdate.applyScript_fixed
        commandScript := PamUpdate.commandScript_fixed
        stagingCommand := PamUpdate.stagingCommand_fixed
        installCli := installCli_fixed
        copyAgent := copyAgent_fixed
        setUserOwner := fun parts hparts hparts' =>
          (setUserOwner_iff uid gid _).mpr ((inert_envPath_iff _ p homeDir hparts hparts').mpr h)
        setMode := (setMode_iff _).mpr ((inert_envPath_iff _ p homeDir List.prefix_rfl hne).mpr h) }

-- `$[1+1]` is arithmetic for both shells, `$=` and what is behind it only for zsh
example : ¬ Inert .bash (str "/home/$[1+1]") := by decide +kernel

example : Inert .bash (str "/home/$=x") ∧ ¬ Inert .zsh (str "/home/$=x") := by decide +kernel

namespace Sample

/-- A home directory with a command substitution in its name. -/
def homeDirReboot : Str := str "/home/$(reboot)"

/-- As root, `chown` is run with what `reboot` prints, and `reboot` before it. -/
theorem setUserOwner_reboot :
    lex .bash (setUserOwnerCommand 1000 1000 (pathString homeDirReboot [str ".config"])) =
        some (plainWord (str "chown") ++ .blank :: (plainWord (str "1000:1000") ++ .blank ::
          .wordBegin :: (quotedBytes (str "/home/") ++ .substitutionBegin ::
            (plainWord (str "reboot") ++ .substitutionEnd ::
              (quotedBytes (str "/.config") ++ [.wordEnd]))))) ∧
      ¬ CommandsFixed .linux 1000 1000 homeDirReboot := by
  refine ⟨by decide +kernel, fun h => ?_⟩
  have hmode := h.setMode
  exact absurd hmode (by decide +kernel)

end Sample

end PcbuDesktop
