import PcbuDesktop.Updater.Replace
import PcbuDesktop.Installer.RootCommands

set_option autoImplicit false

/-! # The commands that put an update in place

`Updater::InstallUpdate` on Linux, `Updater::InstallCliUpdate` and `ServiceInstaller::InstallCli`
run one command each, which ends in a rename over the version that is there.
-/

namespace PcbuDesktop

open ShellList

/-! ## The AppImage -/

/-- The format string of `Updater::InstallUpdate` on Linux. -/
def appImageReplaceCmd (download staging target : Str) : Str :=
  str "cp " ++ shellQuote download ++ str " " ++ shellQuote staging ++
    str " && chown --reference=" ++ shellQuote target ++ str " " ++ shellQuote staging ++
    str " && chmod --reference=" ++ shellQuote target ++ str " " ++ shellQuote staging ++
    str " && chmod +x " ++ shellQuote staging ++
    str " && mv -f " ++ shellQuote staging ++ str " " ++ shellQuote target ++
    str " || \x7b rm -f " ++ shellQuote staging ++ str "; exit 1; \x7d"

/-- `{ rm -f staging; exit 1; }`. -/
def dropStaging (recursive : Bool) (staging : Str) : Cmd FileCmd ExitArg .element :=
  .group (.seq (.first (.one (.simple (.rm recursive [staging])))) (.one (.exit .one)))

def appImageStage (download staging target : Str) : Cmd FileCmd ExitArg .andOr :=
  .and (.and (.and (.one (.simple (.cp download staging)))
    (.simple (.chownReference target staging)))
    (.simple (.chmodReference target staging)))
    (.simple (.chmodX staging))

def appImageReplace (download staging target : Str) : Cmd FileCmd ExitArg .andOr :=
  .or (.and (appImageStage download staging target) (.simple (.mv true staging target)))
    (dropStaging false staging)

theorem shellText_appImageReplace (download staging target : Str) :
    shellText (appImageReplace download staging target) =
      appImageReplaceCmd download staging target := by
  unfold shellText appImageReplace appImageStage dropStaging appImageReplaceCmd
  simp only [Cmd.text, FileCmd.text, ExitArg.text, List.flatMap_cons, List.flatMap_nil,
    List.append_assoc, List.append_nil, if_true, Bool.false_eq_true, if_false, str_append_str,
    str_append_str_append, String.reduceAppend]

section

variable {δ : Type} {env : CommandEnv δ}

/-- There are a new version and an old one, and `entry` has come from them. -/
def MadeFrom (s : ShellState δ) (download target : Str) (R : Entry δ → Entry δ → Entry δ → Prop)
    (entry : Entry δ) : Prop :=
  ∃ new old, s.files download = some new ∧ s.files target = some old ∧ R new old entry

/-- The downloaded version, with the owner and the mode of the version before, and executable. -/
def Upgraded (env : CommandEnv δ) (new old entry : Entry δ) : Prop :=
  entry.isDir = new.isDir ∧ entry.data = new.data ∧ entry.owner = old.owner ∧
    entry.mode = old.mode ||| (0o111 &&& ~~~env.umask)

theorem appImageStage_staged {download staging target : Str} {last : Nat} {s : ShellState δ}
    (hfresh : s.files staging = none) (htarget : ¬ AtOrBelow staging target) :
    wp (fileSemantics env) (appImageStage download staging target)
      (Ended.ifOk (Staged s staging target (MadeFrom s download target (Upgraded env)))
        Ended.GoesOn) last s := by
  -- each command finds what the ones before it have prepared
  have hcopied : wp (fileSemantics env) (.one (.simple (.cp download staging)))
      (Ended.ifOk (Staged s staging target fun copy => ∃ new, s.files download = some new ∧
        (false = false → new.isDir = false) ∧ copy.isDir = new.isDir ∧ copy.data = new.data)
        Ended.GoesOn) last s :=
    wp_simple_ifOk fun m h => staged_of_copy hfresh htarget h
  have howned := wp_and_alters (a := .chownReference target staging)
    (R := MadeFrom s download target fun new old entry => entry.isDir = new.isDir ∧
      entry.data = new.data ∧ entry.owner = old.owner) hcopied htarget <| by
    rintro m m' ⟨old, hold, h⟩ hm
    refine ⟨_, h, ?_⟩
    rintro entry ⟨new, hnew, -, hdir, hdata⟩
    exact ⟨new, old, hnew, hm ▸ hold, hdir, hdata, rfl⟩
  have hmode := wp_and_alters (a := .chmodReference target staging)
    (R := MadeFrom s download target fun new old entry => entry.isDir = new.isDir ∧
      entry.data = new.data ∧ entry.owner = old.owner ∧ entry.mode = old.mode) howned htarget <| by
    rintro m m' ⟨old, hold, h⟩ hm
    refine ⟨_, h, ?_⟩
    rintro entry ⟨new, old', hnew, hold', hdir, hdata, howner⟩
    have hsame : old' = old := Option.some.inj (hold'.symm.trans (hm.symm.trans hold))
    exact ⟨new, old', hnew, hold', hdir, hdata, howner, by rw [hsame]⟩
  refine wp_and_alters hmode htarget ?_
  intro m m' h _
  refine ⟨_, h, ?_⟩
  rintro entry ⟨new, old, hnew, hold, hdir, hdata, howner, hmode⟩
  exact ⟨new, old, hnew, hold, hdir, hdata, howner, by rw [hmode]⟩

/-- What is written at one path only, or below it. -/
def Region.below (path : Str) : Region := { changes := AtOrBelow path }

theorem appImageStage_writesIn {download staging target : Str}
    (htarget : ¬ AtOrBelow staging target) :
    (appImageStage download staging target).All
      (fun a => a.WritesIn env (Region.below staging) target) :=
  have hwrites {a : FileCmd} (ha : a.writesTo = some staging) :
      a.WritesIn env (Region.below staging) target :=
    writesIn_of_writesTo ha (fun _ h => h) htarget
  ⟨⟨⟨hwrites rfl, hwrites rfl⟩, hwrites rfl⟩, hwrites rfl⟩

/-- The end of a command, when the renaming or something before it has failed. -/
theorem dropStaging_whole {region : Region} {recursive : Bool} {staging target : Str}
    {New : Entry δ → Prop} {last : Nat} {s m : ShellState δ}
    (hstaging : ∀ q, AtOrBelow staging q → region.changes q) (htarget : ¬ AtOrBelow staging target)
    (hm : Untouched region target s m) :
    wp (fileSemantics env) (dropStaging recursive staging) (Whole region target New s) last m := by
  have hrm : (FileCmd.rm recursive [staging]).WritesIn env region target := by
    refine writesIn_rm ?_ ?_
    · intro path hpath q hq
      exact hstaging q (List.mem_singleton.mp hpath ▸ hq)
    · intro path hpath hbelow
      exact htarget (List.mem_singleton.mp hpath ▸ hbelow)
  have hbody := wp_untouched (.first (.one (.simple (.rm recursive [staging])))) hrm last m
  rw [dropStaging, wp_group, wp_seq]
  refine fun o ho => ?_
  have ho' := hm.trans (hbody o ho)
  cases o with
  | done n m' => exact wp_one.mpr (wp_exit.mpr ho')
  | exited n m' => exact ho.elim
  | stopped m' => exact .inr ho'

/-- **A chain that prepares a new version, the rename and the removal of what is left.** -/
theorem wp_replace {region : Region} {chain : Cmd FileCmd ExitArg .andOr} {recursive : Bool}
    {staging target : Str} {New : Entry δ → Prop} {last : Nat} {s : ShellState δ}
    (hstaging : ∀ q, AtOrBelow staging q → region.changes q) (htarget : ¬ AtOrBelow staging target)
    (hfile : ∀ d, s.files target = some d → d.isDir = false)
    (hchain : chain.All (fun a => a.WritesIn env region target))
    (hready : wp (fileSemantics env) chain
      (Ended.ifOk (Staged s staging target New) Ended.GoesOn) last s) :
    wp (fileSemantics env)
      (.or (.and chain (.simple (.mv true staging target))) (dropStaging recursive staging))
      (Whole region target New s) last s := by
  rw [wp_or]
  refine wp_mono (wp_chain_mv hchain hstaging hfile hready) ?_
  intro o ho
  cases o with
  | done n m =>
      show if n = 0 then _ else _
      by_cases hn : n = 0
      · subst hn
        exact ho
      · rw [if_neg hn]
        exact dropStaging_whole hstaging htarget ((if_neg hn).mp ho)
  | exited n m => exact ho
  | stopped m => exact ho

theorem appImageReplace_whole {download staging target : Str} {last : Nat} {s : ShellState δ}
    (hfresh : s.files staging = none) (htarget : ¬ AtOrBelow staging target)
    (hfile : ∀ d, s.files target = some d → d.isDir = false) :
    wp (fileSemantics env) (appImageReplace download staging target)
      (Whole (Region.below staging) target (MadeFrom s download target (Upgraded env)) s) last s :=
  wp_replace (fun _ h => h) htarget hfile (appImageStage_writesIn htarget)
    (appImageStage_staged hfresh htarget)

/-- The command can do what it is for. -/
theorem appImageReplace_completes {download staging target : Str} {new old : Entry δ} {s : ShellState δ}
    (hnew : s.files download = some new) (hfile : new.isDir = false) (hold : s.files target = some old)
    (hne : staging ≠ target) :
    ∃ s', Outcomes (fileSemantics env) (appImageReplace download staging target) 0 s (.done 0 s') := by
  have hthere (entry : Entry δ) : (s.set staging (some entry)).files target = some old :=
    (s.set_of_ne _ hne.symm).trans hold
  have hagain (entry entry' : Entry δ) :
      (s.set staging (some entry)).set staging (some entry') = s.set staging (some entry') := by
    unfold ShellState.set
    simp only [Function.update_idem]
  -- the copy, its owner and its mode
  have hcopied : Outcomes (fileSemantics env) (.one (.simple (.cp download staging))) 0 s
      (.done 0 (s.set staging (some new))) := outcomes_simple (copySucceeds_set hnew fun _ => hfile)
  have howned := outcomes_and_simple (a := .chownReference target staging) hcopied
    ⟨old, hthere _, alters_set _⟩
  rw [hagain] at howned
  have hmode := outcomes_and_simple (a := .chmodReference target staging) howned
    ⟨old, hthere _, alters_set _⟩
  rw [hagain] at hmode
  have hexecutable := outcomes_and_simple (a := .chmodX staging) hmode (alters_set _)
  exact ⟨_, outcomes_or (outcomes_and_simple hexecutable (moves_set hne (ShellState.set_self ..)))⟩

/-! ## The CLI -/

/-- The two paths to which the update of the CLI writes; `mkdir -p` makes the directories above the
first. -/
def cliRegion (extract staging : Str) : Region where
  changes q := AtOrBelow extract q ∨ AtOrBelow staging q
  makes q := AtOrBelow q extract

section

variable {extract archive staging target : Str} {download : Entry δ} {s : ShellState δ}

/-- What `rm -rf` removes at the end is not what has been put in place. -/
theorem Whole.rm {New : Entry δ → Prop} {n : Nat} {m m' : ShellState δ}
    (hm : Whole (cliRegion extract staging) target New s (.done n m))
    (hrm : Untouched (cliRegion extract staging) target m m') :
    Whole (cliRegion extract staging) target New s (.exited n m') ∧
      Whole (cliRegion extract staging) target New s (.stopped m') := by
  by_cases hn : n = 0
  · subst hn
    have hplaced : InPlace (cliRegion extract staging) target New s m := hm
    exact ⟨hplaced.trans_untouched hrm, .inl (hplaced.trans_untouched hrm)⟩
  · have huntouched : Untouched (cliRegion extract staging) target s m := (if_neg hn).mp hm
    exact ⟨(if_neg hn).mpr (huntouched.trans hrm), .inr (huntouched.trans hrm)⟩

end

/-! ## `InstallCli` -/

def installCliStage (dir src staging : Str) : Cmd FileCmd ExitArg .andOr :=
  .and (.and (.and (.one (.simple (.mkdir dir))) (.simple (.cp src staging)))
    (.simple (.chownRoot staging)))
    (.simple (.chmod755 staging))

def installCliReplace (p : Platform) (input : InstallInput) : Cmd FileCmd ExitArg .andOr :=
  .or (.and (installCliStage (cliDir p) (cliWords p input .cliSrc) (cliWords p input .stagingPath))
    (.simple (.mv true (cliWords p input .stagingPath) (cliWords p input .cliPath))))
    (dropStaging false (cliWords p input .stagingPath))

theorem shellText_installCliReplace (p : Platform) (input : InstallInput) :
    shellText (installCliReplace p input) = installCliCommand p input := by
  unfold shellText installCliReplace installCliStage dropStaging installCliCommand
  simp only [Cmd.text, FileCmd.text, ExitArg.text, List.flatMap_cons, List.flatMap_nil,
    List.append_assoc, List.append_nil, if_true, Bool.false_eq_true, if_false, str_append_str,
    str_append_str_append, String.reduceAppend]
  rfl

/-- The program, owned by root. -/
def Installed (src entry : Entry δ) : Prop :=
  entry.isDir = false ∧ entry.data = src.data ∧ entry.owner = (0, 0) ∧ entry.mode = 0o755

theorem cliStaging_eq (p : Platform) (input : InstallInput) :
    cliWords p input .stagingPath = cliDir p ++ str ".pulseunlock-" ++ input.random := by
  have hlast : (cliDir p).getLast? = some 47 := by cases p <;> decide
  simp only [cliWords, EnvHelper.pathString, List.foldl_cons, List.foldl_nil, if_pos hlast,
    List.append_assoc]

theorem cliStaging_outside (p : Platform) (input : InstallInput) {q : Str}
    (hq : ¬ cliDir p ++ str "." <+: q) : ¬ AtOrBelow (cliWords p input .stagingPath) q := by
  intro h
  refine hq (List.IsPrefix.trans ?_ h.isPrefix)
  have hname : str "." ++ (str "pulseunlock-" ++ input.random) = str ".pulseunlock-" ++ input.random :=
    str_append_str_append ..
  rw [cliStaging_eq, List.append_assoc, ← hname, ← List.append_assoc]
  exact List.prefix_append ..

theorem cliPath_outside (p : Platform) (input : InstallInput) :
    ¬ AtOrBelow (cliWords p input .stagingPath) (cliWords p input .cliPath) := by
  refine cliStaging_outside p input ?_
  show ¬ cliDir p ++ str "." <+: EnvHelper.pathString (cliDir p) [str "pulseunlock"]
  cases p <;> decide

theorem cliPath_below (p : Platform) (input : InstallInput) :
    ¬ AtOrBelow (cliWords p input .cliPath) (cliDir p) := by
  have hprefix : ¬ EnvHelper.pathString (cliDir p) [str "pulseunlock"] <+: cliDir p := by
    cases p <;> decide
  exact fun h => hprefix h.isPrefix

/-- The paths to which `InstallCli` writes. -/
def installCliRegion (p : Platform) (input : InstallInput) : Region where
  changes := AtOrBelow (cliWords p input .stagingPath)
  makes q := AtOrBelow q (cliDir p)

section

variable {p : Platform} {input : InstallInput} {src : Entry δ} {s : ShellState δ}

theorem installCliStage_staged (hsrc : s.files (cliWords p input .cliSrc) = some src)
    (hfresh : s.files (cliWords p input .stagingPath) = none) (last : Nat) :
    wp (fileSemantics env)
      (installCliStage (cliDir p) (cliWords p input .cliSrc) (cliWords p input .stagingPath))
      (Ended.ifOk (Staged s (cliWords p input .stagingPath) (cliWords p input .cliPath)
        (Installed src)) Ended.GoesOn) last s := by
  have houtside := cliPath_outside p input
  have hmade : wp (fileSemantics env) (.one (.simple (.mkdir (cliDir p))))
      (Ended.ifOk (fun m => m.files (cliWords p input .cliPath) = s.files (cliWords p input .cliPath) ∧
        m.files (cliWords p input .stagingPath) = none ∧
        m.files (cliWords p input .cliSrc) = some src) Ended.GoesOn) last s := by
    refine wp_simple_ifOk fun m ⟨_, _, hkept, hsame⟩ => ⟨hsame _ ?_, ?_, hkept _ _ hsrc⟩
    · exact cliPath_below p input
    · rw [hsame _ (cliStaging_outside p input (by cases p <;> decide)), hfresh]
  have hcopied := wp_and_ifOk (b := .simple (.cp (cliWords p input .cliSrc)
      (cliWords p input .stagingPath)))
    (R := Staged s (cliWords p input .stagingPath) (cliWords p input .cliPath) fun entry =>
      entry.isDir = false ∧ entry.data = src.data) hmade fun m ⟨htarget, hstaging, hm⟩ =>
    wp_simple_ifOk <| by
      rintro m' hcopy
      obtain ⟨htarget', copy, hplace, new, hnew, hfile, hdir, hdata⟩ :=
        staged_of_copy hstaging houtside hcopy
      cases hm.symm.trans hnew
      exact ⟨htarget'.trans htarget, copy, hplace, hdir.trans (hfile rfl), hdata⟩
  have howned := wp_and_alters (a := .chownRoot (cliWords p input .stagingPath))
    (R := fun entry => entry.isDir = false ∧ entry.data = src.data ∧ entry.owner = (0, 0)) hcopied
    houtside fun m m' h _ => ⟨_, h, fun entry ⟨hdir, hdata⟩ => ⟨hdir, hdata, rfl⟩⟩
  exact wp_and_alters howned houtside fun m m' h _ =>
    ⟨_, h, fun entry ⟨hdir, hdata, howner⟩ => ⟨hdir, hdata, howner, rfl⟩⟩

theorem installCliReplace_whole (hsrc : s.files (cliWords p input .cliSrc) = some src)
    (hfresh : s.files (cliWords p input .stagingPath) = none)
    (hfile : ∀ d, s.files (cliWords p input .cliPath) = some d → d.isDir = false) (last : Nat) :
    wp (fileSemantics env) (installCliReplace p input)
      (Whole (installCliRegion p input) (cliWords p input .cliPath) (Installed src) s) last s := by
  have houtside := cliPath_outside p input
  have hwrites {a : FileCmd} (ha : a.writesTo = some (cliWords p input .stagingPath)) :
      a.WritesIn env (installCliRegion p input) (cliWords p input .cliPath) :=
    writesIn_of_writesTo ha (fun _ hq => hq) houtside
  exact wp_replace (fun _ hq => hq) houtside hfile
    ⟨⟨⟨writesIn_mkdir (fun _ hq => hq) (cliPath_below p input), hwrites rfl⟩, hwrites rfl⟩, hwrites rfl⟩
    (installCliStage_staged hsrc hfresh last)

end

end

end PcbuDesktop
