import PcbuDesktop.Lib.ShellList
import PcbuDesktop.Shell.ShellQuote

set_option autoImplicit false

/-! # The commands of an update

The programs with which the updaters and `InstallCli` put a new version in place: what they do to
the files when they succeed, what they may leave when they fail or are stopped, and how they are
written in a command. `mv` is only used within one directory, where it is a `rename`: it is done or
it is not.
-/

namespace PcbuDesktop

open ShellList

/-! ## Files -/

/-- What is at a path: a file, or a directory with all that is in it. -/
structure Entry (δ : Type) where
  isDir : Bool
  data : δ
  owner : UInt32 × UInt32
  mode : UInt32
  deriving DecidableEq

abbrev Files (δ : Type) := Str → Option (Entry δ)

/-- `path` is `dir` or below it. -/
def AtOrBelow (dir path : Str) : Prop := path = dir ∨ dir ++ str "/" <+: path

/-- Nothing has changed but at `dir` and below. -/
def SameOutside {δ : Type} (dir : Str) (files files' : Files δ) : Prop :=
  ∀ path, ¬ AtOrBelow dir path → files' path = files path

theorem AtOrBelow.isPrefix {dir path : Str} (h : AtOrBelow dir path) : dir <+: path := by
  rcases h with rfl | h
  · exact List.prefix_rfl
  · exact (List.prefix_append dir (str "/")).trans h

/-- The files, and the variables of the shell. -/
structure ShellState (δ : Type) where
  files : Files δ
  src : Str := []
  status : Nat := 0

section

variable {δ : Type}

def ShellState.set (s : ShellState δ) (path : Str) (entry : Option (Entry δ)) : ShellState δ :=
  { s with files := Function.update s.files path entry }

@[simp] theorem ShellState.set_self (s : ShellState δ) (path : Str) (entry : Option (Entry δ)) :
    (s.set path entry).files path = entry := Function.update_self ..

theorem ShellState.set_of_ne (s : ShellState δ) {path q : Str} (entry : Option (Entry δ))
    (h : q ≠ path) : (s.set path entry).files q = s.files q := Function.update_of_ne h ..

@[simp] theorem ShellState.set_src (s : ShellState δ) (path : Str) (entry : Option (Entry δ)) :
    (s.set path entry).src = s.src := rfl

theorem sameOutside_set (s : ShellState δ) (dir : Str) (entry : Option (Entry δ)) :
    SameOutside dir s.files (s.set dir entry).files :=
  fun _ hpath => s.set_of_ne entry fun h => hpath (.inl h)

end

/-! ## Commands -/

inductive FileCmd where
  /-- `cp` of a file, `ditto` of a directory with all that is in it -/
  | cp (src dst : Str)
  | ditto (src dst : Str)
  /-- `cp` of what `$src` names -/
  | cpFound (dst : Str)
  | chownReference (ref path : Str)
  | chownStat (ref path : Str)
  | chownRoot (path : Str)
  | chmodReference (ref path : Str)
  | chmodX (path : Str)
  | chmod755 (path : Str)
  | mv (force : Bool) (src dst : Str)
  | rm (recursive : Bool) (paths : List Str)
  | mkdir (path : Str)
  | tar (archive dir : Str)
  /-- `src=$(find ..)` -/
  | find (dir : Str)
  /-- `[ -n "$src" ]` -/
  | isFound
  | trap
  /-- `status=$?` -/
  | saveStatus
  | true
  | false

/-- The argument of `exit`. -/
inductive ExitArg where
  | one
  | status

def FileCmd.text : FileCmd → Str
  | .cp src dst => str "cp " ++ shellQuote src ++ str " " ++ shellQuote dst
  | .ditto src dst => str "ditto " ++ shellQuote src ++ str " " ++ shellQuote dst
  | .cpFound dst => str "cp \"$src\" " ++ shellQuote dst
  | .chownReference ref path =>
      str "chown --reference=" ++ shellQuote ref ++ str " " ++ shellQuote path
  | .chownStat ref path =>
      str "chown -R \"$(stat -f %u:%g " ++ shellQuote ref ++ str ")\" " ++ shellQuote path
  | .chownRoot path => str "chown 0:0 " ++ shellQuote path
  | .chmodReference ref path =>
      str "chmod --reference=" ++ shellQuote ref ++ str " " ++ shellQuote path
  | .chmodX path => str "chmod +x " ++ shellQuote path
  | .chmod755 path => str "chmod 755 " ++ shellQuote path
  | .mv force src dst =>
      str "mv " ++ (if force then str "-f " else []) ++ shellQuote src ++ str " " ++ shellQuote dst
  | .rm recursive paths =>
      str "rm " ++ (if recursive then str "-rf" else str "-f") ++
        paths.flatMap (fun path => str " " ++ shellQuote path)
  | .mkdir path => str "mkdir -p " ++ shellQuote path
  | .tar archive dir => str "tar -xzf " ++ shellQuote archive ++ str " -C " ++ shellQuote dir
  | .find dir =>
      str "src=$(find " ++ shellQuote dir ++ str " -type f -name pulseunlock | head -n 1)"
  | .isFound => str "[ -n \"$src\" ]"
  | .trap => str "trap '' INT"
  | .saveStatus => str "status=$?"
  | .true => str "true"
  | .false => str "false"

def ExitArg.text : ExitArg → Str
  | .one => str "exit 1"
  | .status => str "exit $status"

/-- The text of a command, as it is given to `Shell::RunCommand`. -/
def shellText {l : Level} (c : Cmd FileCmd ExitArg l) : Str := c.text str FileCmd.text ExitArg.text

/-- Texts that stand side by side are one text. -/
theorem str_append_str (a b : String) : str a ++ str b = str (a ++ b) := by
  simp [str, String.toList_append]

theorem str_append_str_append (a b : String) (rest : Str) :
    str a ++ (str b ++ rest) = str (a ++ b) ++ rest := by
  rw [← List.append_assoc, str_append_str]

/-- What the commands depend on besides the files: the bits that `chmod +x` sets, and what is in an
archive. -/
structure CommandEnv (δ : Type) where
  umask : UInt32 := 0o022
  unpack : δ → Str → Option δ

section

variable {δ : Type}

/-- A copy to a path at which nothing is. Where something is, the copy goes over it or into it. -/
def CopySucceeds (tree : Bool) (src dst : Str) (s s' : ShellState δ) : Prop :=
  ∃ entry, s.files src = some entry ∧ (tree = Bool.false → entry.isDir = Bool.false) ∧
    s'.src = s.src ∧ s'.status = s.status ∧ SameOutside dst s.files s'.files ∧
    (s.files dst = none → ∃ copy, s'.files dst = some copy ∧ copy.isDir = entry.isDir ∧
      copy.data = entry.data)

/-- A change of the owner or of the mode of what is at a path. -/
def Alters (path : Str) (change : Entry δ → Entry δ) (s s' : ShellState δ) : Prop :=
  ∃ entry, s.files path = some entry ∧ s' = s.set path (some (change entry))

/-- A rename. Where there is a directory already, the file would go into it. -/
def Moves (src dst : Str) (s s' : ShellState δ) : Prop :=
  ∃ entry, s.files src = some entry ∧ s'.src = s.src ∧ s'.status = s.status ∧
    (∀ q, ¬ AtOrBelow src q → ¬ AtOrBelow dst q → s'.files q = s.files q) ∧
    ((∀ d, s.files dst = some d → d.isDir = Bool.false) →
      s'.files src = none ∧ s'.files dst = some entry)

/-- The command has ended with status zero. -/
def FileCmd.Succeeds (env : CommandEnv δ) (last : Nat) (s s' : ShellState δ) : FileCmd → Prop
  | .cp src dst => CopySucceeds Bool.false src dst s s'
  | .ditto src dst => CopySucceeds Bool.true src dst s s'
  | .cpFound dst => CopySucceeds Bool.false s.src dst s s'
  | .chownReference ref path | .chownStat ref path =>
      ∃ r, s.files ref = some r ∧ Alters path (fun entry => { entry with owner := r.owner }) s s'
  | .chownRoot path => Alters path (fun entry => { entry with owner := (0, 0) }) s s'
  | .chmodReference ref path =>
      ∃ r, s.files ref = some r ∧ Alters path (fun entry => { entry with mode := r.mode }) s s'
  | .chmodX path =>
      Alters path (fun entry => { entry with mode := entry.mode ||| (0o111 &&& ~~~env.umask) }) s s'
  | .chmod755 path => Alters path (fun entry => { entry with mode := 0o755 }) s s'
  | .mv _ src dst => Moves src dst s s'
  | .rm _ paths =>
      s'.src = s.src ∧ s'.status = s.status ∧
        (∀ path ∈ paths, ∀ q, AtOrBelow path q → s'.files q = none) ∧
        ∀ q, (∀ path ∈ paths, ¬ AtOrBelow path q) → s'.files q = s.files q
  | .mkdir path =>
      s'.src = s.src ∧ s'.status = s.status ∧
        (∀ q entry, s.files q = some entry → s'.files q = some entry) ∧
        ∀ q, ¬ AtOrBelow q path → s'.files q = s.files q
  | .tar archive dir =>
      s'.src = s.src ∧ s'.status = s.status ∧ SameOutside dir s.files s'.files ∧
        ∃ a, s.files archive = some a ∧ ∀ r entry, s'.files (dir ++ str "/" ++ r) = some entry →
          entry.isDir = Bool.false →
          s.files (dir ++ str "/" ++ r) = some entry ∨ env.unpack a.data r = some entry.data
  -- a line of the output begins with the directory
  | .find dir =>
      ∃ src, s' = { s with src := src } ∧
        (10 ∉ dir → src = [] ∨ ∃ r, src = dir ++ str "/" ++ r)
  | .isFound => s.src ≠ [] ∧ s' = s
  | .trap | .true => s' = s
  | .saveStatus => s' = { s with status := last }
  | .false => False

/-- The command has ended with another status. What it has written by then is open. -/
def FileCmd.Fails (s s' : ShellState δ) : FileCmd → Prop
  | .cp _ dst | .ditto _ dst | .cpFound dst =>
      s'.src = s.src ∧ s'.status = s.status ∧ SameOutside dst s.files s'.files
  | .chownReference _ path | .chownStat _ path | .chownRoot path | .chmodReference _ path
  | .chmodX path | .chmod755 path =>
      s' = s ∨ ∃ owner mode, Alters path (fun entry => { entry with owner, mode }) s s'
  | .mv _ _ _ => s' = s
  | .rm _ paths =>
      s'.src = s.src ∧ s'.status = s.status ∧
        ∀ q, (∀ path ∈ paths, ¬ AtOrBelow path q) → s'.files q = s.files q
  | .mkdir path =>
      s'.src = s.src ∧ s'.status = s.status ∧
        (∀ q entry, s.files q = some entry → s'.files q = some entry) ∧
        ∀ q, ¬ AtOrBelow q path → s'.files q = s.files q
  | .tar _ dir => s'.src = s.src ∧ s'.status = s.status ∧ SameOutside dir s.files s'.files
  | .find _ => ∃ src, s' = { s with src := src }
  | .isFound => s.src = [] ∧ s' = s
  | .false => s' = s
  | .trap | .true | .saveStatus => False

/-- A command that is stopped has not begun, is through, or leaves what a failing one may leave. -/
def fileSemantics (env : CommandEnv δ) : Semantics FileCmd ExitArg (ShellState δ) where
  ends a last s n s' := if n = 0 then a.Succeeds env last s s' else a.Fails s s'
  passes a last s s' := s' = s ∨ a.Succeeds env last s s' ∨ a.Fails s s'
  exitStatus e s := match e with
    | .one => 1
    | .status => s.status

/-! ## Runs that succeed -/

theorem outcomes_simple {env : CommandEnv δ} {a : FileCmd} {last : Nat} {s s' : ShellState δ}
    (h : a.Succeeds env last s s') :
    Outcomes (fileSemantics env) (.simple a) last s (.done 0 s') := h

theorem outcomes_and_simple {env : CommandEnv δ} {chain : Cmd FileCmd ExitArg .andOr} {a : FileCmd}
    {last : Nat} {s m s' : ShellState δ} (hchain : Outcomes (fileSemantics env) chain last s (.done 0 m))
    (h : a.Succeeds env 0 m s') :
    Outcomes (fileSemantics env) (.and chain (.simple a)) last s (.done 0 s') :=
  outcomes_and hchain (outcomes_simple h)

theorem outcomes_seq_simple {env : CommandEnv δ} {list : Cmd FileCmd ExitArg .list} {a : FileCmd}
    {last n : Nat} {s m s' : ShellState δ} (hlist : Outcomes (fileSemantics env) list last s (.done n m))
    (h : a.Succeeds env n m s') :
    Outcomes (fileSemantics env) (.seq list (.one (.simple a))) last s (.done 0 s') :=
  outcomes_seq hlist (outcomes_simple h)

theorem copySucceeds_set {tree : Bool} {src dst : Str} {entry : Entry δ} {s : ShellState δ}
    (hsrc : s.files src = some entry) (hfile : tree = Bool.false → entry.isDir = Bool.false) :
    CopySucceeds tree src dst s (s.set dst (some entry)) :=
  ⟨entry, hsrc, hfile, rfl, rfl, sameOutside_set s dst _, fun _ => ⟨entry, s.set_self dst _, rfl, rfl⟩⟩

theorem alters_set {path : Str} {entry : Entry δ} {s : ShellState δ} (change : Entry δ → Entry δ) :
    Alters path change (s.set path (some entry))
      ((s.set path (some entry)).set path (some (change entry))) :=
  ⟨entry, s.set_self path _, rfl⟩

theorem moves_set {src dst : Str} {entry : Entry δ} {s : ShellState δ} (hne : src ≠ dst)
    (hsrc : s.files src = some entry) :
    Moves src dst s ((s.set src none).set dst (some entry)) := by
  refine ⟨entry, hsrc, rfl, rfl, fun q hs hd => ?_, fun _ => ⟨?_, ShellState.set_self ..⟩⟩
  · rw [ShellState.set_of_ne _ _ fun h => hd (.inl h), s.set_of_ne _ fun h => hs (.inl h)]
  · rw [ShellState.set_of_ne _ _ hne, s.set_self]

/-- `rm` can always succeed. -/
theorem rm_succeeds (env : CommandEnv δ) (recursive : Bool) (paths : List Str) (last : Nat)
    (s : ShellState δ) : ∃ s', (FileCmd.rm recursive paths).Succeeds env last s s' := by
  classical
  refine ⟨{ s with files := fun q => if ∃ path ∈ paths, AtOrBelow path q then none else s.files q },
    rfl, rfl, fun path hpath q hq => if_pos ⟨path, hpath, hq⟩, fun q hq => if_neg ?_⟩
  rintro ⟨path, hpath, hbelow⟩
  exact hq path hpath hbelow

end

end PcbuDesktop
