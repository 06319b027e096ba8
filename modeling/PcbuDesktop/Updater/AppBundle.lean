import PcbuDesktop.Updater.InstallUpdate

set_option autoImplicit false

/-! # The update of the app bundle

`Updater::InstallUpdate` on macOS replaces a directory, which no rename can do: the old bundle is
renamed first, and then the new one to its place. Between the two there is no app at all, but the
old one is beside it, and it comes back when the second rename fails.
-/

namespace PcbuDesktop

open ShellList

/-- The format string of `Updater::InstallUpdate` on macOS. -/
def bundleReplaceCmd (newApp staging bundle old : Str) : Str :=
  str "ditto " ++ shellQuote newApp ++ str " " ++ shellQuote staging ++
    str " && chown -R \"$(stat -f %u:%g " ++ shellQuote bundle ++ str ")\" " ++ shellQuote staging ++
    str " && mv " ++ shellQuote bundle ++ str " " ++ shellQuote old ++
    str " && \x7b mv " ++ shellQuote staging ++ str " " ++ shellQuote bundle ++
    str " || \x7b mv " ++ shellQuote old ++ str " " ++ shellQuote bundle ++ str "; false; \x7d; \x7d " ++
    str "|| \x7b rm -rf " ++ shellQuote staging ++ str "; exit 1; \x7d; rm -rf " ++ shellQuote old ++
    str "; true"

/-- `{ mv staging bundle || { mv old bundle; false; }; }`. -/
def bundleSwap (staging bundle old : Str) : Cmd FileCmd ExitArg .element :=
  .group (.first (.or (.one (.simple (.mv false staging bundle)))
    (.group (.seq (.first (.one (.simple (.mv false old bundle)))) (.one (.simple .false))))))

def bundleStage (newApp staging bundle : Str) : Cmd FileCmd ExitArg .andOr :=
  .and (.one (.simple (.ditto newApp staging))) (.simple (.chownStat bundle staging))

def bundleChain (newApp staging bundle old : Str) : Cmd FileCmd ExitArg .andOr :=
  .and (.and (bundleStage newApp staging bundle) (.simple (.mv false bundle old)))
    (bundleSwap staging bundle old)

def bundleReplace (newApp staging bundle old : Str) : Cmd FileCmd ExitArg .list :=
  .seq (.seq (.first (.or (bundleChain newApp staging bundle old) (dropStaging true staging)))
    (.one (.simple (.rm true [old]))))
    (.one (.simple .true))

theorem shellText_bundleReplace (newApp staging bundle old : Str) :
    shellText (bundleReplace newApp staging bundle old) =
      bundleReplaceCmd newApp staging bundle old := by
  unfold shellText bundleReplace bundleChain bundleStage bundleSwap dropStaging bundleReplaceCmd
  simp only [Cmd.text, FileCmd.text, ExitArg.text, List.flatMap_cons, List.flatMap_nil,
    List.append_assoc, List.append_nil, if_true, Bool.false_eq_true, if_false,
    str_append_str, str_append_str_append, String.reduceAppend]

section

variable {δ : Type} {env : CommandEnv δ}

/-- Neither path is below the other. -/
def Apart (a b : Str) : Prop := ¬ AtOrBelow a b ∧ ¬ AtOrBelow b a

/-- The three paths are in one directory, and nothing has the random names. -/
structure BundlePaths (s : ShellState δ) (staging bundle old : Str) (app : Entry δ) : Prop where
  installed : s.files bundle = some app
  staging_fresh : s.files staging = none
  old_fresh : s.files old = none
  staging_bundle : Apart staging bundle
  staging_old : Apart staging old
  bundle_old : Apart bundle old

/-- Elsewhere nothing has changed. -/
def KeptElsewhere (s : ShellState δ) (staging bundle old : Str) (m : ShellState δ) : Prop :=
  ∀ q, ¬ AtOrBelow staging q → ¬ AtOrBelow bundle q → ¬ AtOrBelow old q → m.files q = s.files q

/-- The old app is in place, or has been put aside, or the new one is in place. -/
inductive AppState where
  | old
  | aside
  | new

def AppState.Holds (app : Entry δ) (New : Entry δ → Prop) (bundle old : Str) (m : ShellState δ) :
    AppState → Prop
  | .old => m.files bundle = some app
  | .aside => m.files bundle = none ∧ m.files old = some app
  | .new => ∃ entry, m.files bundle = some entry ∧ New entry

/-- The new app, with the owner of the old one. -/
def Replaced (s : ShellState δ) (newApp : Str) (app entry : Entry δ) : Prop :=
  ∃ new, s.files newApp = some new ∧ entry.isDir = new.isDir ∧ entry.data = new.data ∧
    entry.owner = app.owner

/-- After status zero the new app is in place. After another one the old app is there, at its place
or beside it. A shell that was stopped leaves one of the two. -/
def Swapped (s : ShellState δ) (newApp staging bundle old : Str) (app : Entry δ)
    (o : Ended (ShellState δ)) : Prop :=
  KeptElsewhere s staging bundle old o.state ∧
    ∃ state : AppState, state.Holds app (Replaced s newApp app) bundle old o.state ∧
      ∀ n, o.status = some n → (n = 0 ↔ state = .new)

variable {newApp staging bundle old : Str} {app : Entry δ} {s m m' : ShellState δ}

theorem KeptElsewhere.sameOutside (hm : KeptElsewhere s staging bundle old m)
    (h : ∀ q, ¬ AtOrBelow staging q → ¬ AtOrBelow bundle q → ¬ AtOrBelow old q →
      m'.files q = m.files q) : KeptElsewhere s staging bundle old m' :=
  fun q hs hb ho => (h q hs hb ho).trans (hm q hs hb ho)

theorem swapped_of_old (hm : KeptElsewhere s staging bundle old m) (hold : m.files bundle = some app)
    {o : Ended (ShellState δ)} (ho : o.state = m) (hstatus : o.status ≠ some 0) :
    Swapped s newApp staging bundle old app o := by
  refine ⟨ho ▸ hm, .old, ho ▸ hold, fun n hn => ⟨?_, nofun⟩⟩
  rintro rfl
  exact absurd hn hstatus

/-- The new app has been copied, and the old one is still in place. -/
structure BundleReady (s : ShellState δ) (newApp staging bundle old : Str) (app : Entry δ)
    (m : ShellState δ) : Prop where
  kept : KeptElsewhere s staging bundle old m
  installed : m.files bundle = some app
  old_fresh : m.files old = none
  copied : ∃ entry, m.files staging = some entry ∧ Replaced s newApp app entry

/-- The old app has been put aside. -/
structure BundleAside (s : ShellState δ) (newApp staging bundle old : Str) (app : Entry δ)
    (m : ShellState δ) : Prop where
  kept : KeptElsewhere s staging bundle old m
  removed : m.files bundle = none
  aside : m.files old = some app
  copied : ∃ entry, m.files staging = some entry ∧ Replaced s newApp app entry

theorem bundleStage_ready (h : BundlePaths s staging bundle old app) (last : Nat) :
    wp (fileSemantics env) (bundleStage newApp staging bundle)
      (Ended.ifOk (BundleReady s newApp staging bundle old app)
        (Swapped s newApp staging bundle old app)) last s := by
  have hwrites (target : Str) (ht : ¬ AtOrBelow staging target) :
      (bundleStage newApp staging bundle).All
        (fun a => a.WritesIn env (Region.below staging) target) :=
    ⟨writesIn_of_writesTo rfl (fun _ hq => hq) ht, writesIn_of_writesTo rfl (fun _ hq => hq) ht⟩
  have hcopied : wp (fileSemantics env) (.one (.simple (.ditto newApp staging)))
      (Ended.ifOk (Staged s staging bundle fun copy => ∃ new, s.files newApp = some new ∧
        (true = false → new.isDir = false) ∧ copy.isDir = new.isDir ∧ copy.data = new.data)
        Ended.GoesOn) last s :=
    wp_simple_ifOk fun m hm => staged_of_copy h.staging_fresh h.staging_bundle.1 hm
  have hready : wp (fileSemantics env) (bundleStage newApp staging bundle)
      (Ended.ifOk (Staged s staging bundle (Replaced s newApp app)) Ended.GoesOn) last s := by
    refine wp_and_alters hcopied h.staging_bundle.1 ?_
    rintro m m' ⟨r, hr, hm⟩ hsame
    refine ⟨_, hm, ?_⟩
    rintro entry ⟨new, hnew, -, hdir, hdata⟩
    have happ : r = app := Option.some.inj (hr.symm.trans (hsame.trans h.installed))
    exact ⟨new, hnew, hdir, hdata, by rw [happ]⟩
  intro o ho
  have hbundle := wp_untouched _ (hwrites bundle h.staging_bundle.1) last s o ho
  have hold := wp_untouched _ (hwrites old h.staging_old.1) last s o ho
  have hthen := hready o ho
  have hkept : KeptElsewhere s staging bundle old o.state :=
    fun q hs _ _ => (hbundle.kept q hs).same id
  have happ : o.state.files bundle = some app := hbundle.target.trans h.installed
  cases o with
  | done n m =>
      show if n = 0 then _ else _
      by_cases hn : n = 0
      · subst hn
        have hstaged : Staged s staging bundle (Replaced s newApp app) m := hthen
        exact ⟨hkept, happ, hold.target.trans h.old_fresh, hstaged.2⟩
      · rw [if_neg hn]
        exact swapped_of_old hkept happ rfl fun hstatus => hn (Option.some.inj hstatus)
  | exited n m => exact hthen.elim
  | stopped m => exact swapped_of_old hkept happ rfl nofun

theorem bundleReady_mv (h : BundlePaths s staging bundle old app)
    (hm : BundleReady s newApp staging bundle old app m) (hmv : Moves bundle old m m') :
    BundleAside s newApp staging bundle old app m' := by
  obtain ⟨entry, hentry, -, -, hsame, hplace⟩ := hmv
  cases hm.installed.symm.trans hentry
  have hnone : ∀ d, m.files old = some d → d.isDir = false := by
    intro d hd
    cases hm.old_fresh.symm.trans hd
  obtain ⟨hremoved, haside⟩ := hplace hnone
  refine ⟨hm.kept.sameOutside fun q _ hb ho => hsame q hb ho, hremoved, haside, ?_⟩
  rw [hsame staging h.staging_bundle.2 h.staging_old.2]
  exact hm.copied

theorem bundleAside_mv (hm : BundleAside s newApp staging bundle old app m)
    (hmv : Moves staging bundle m m') :
    KeptElsewhere s staging bundle old m' ∧
      ∃ entry, m'.files bundle = some entry ∧ Replaced s newApp app entry := by
  obtain ⟨entry, hentry, -, -, hsame, hplace⟩ := hmv
  have hnone : ∀ d, m.files bundle = some d → d.isDir = false := by
    intro d hd
    cases hm.removed.symm.trans hd
  obtain ⟨new, hnew, hreplaced⟩ := hm.copied
  cases hnew.symm.trans hentry
  exact ⟨hm.kept.sameOutside fun q hs hb _ => hsame q hs hb, _, (hplace hnone).2, hreplaced⟩

theorem bundleAside_back (hm : BundleAside s newApp staging bundle old app m)
    (hmv : Moves old bundle m m') :
    KeptElsewhere s staging bundle old m' ∧ m'.files bundle = some app := by
  obtain ⟨entry, hentry, -, -, hsame, hplace⟩ := hmv
  have hnone : ∀ d, m.files bundle = some d → d.isDir = false := by
    intro d hd
    cases hm.removed.symm.trans hd
  cases hm.aside.symm.trans hentry
  exact ⟨hm.kept.sameOutside fun q _ hb ho => hsame q ho hb, (hplace hnone).2⟩

theorem swapped_of_aside (hm : BundleAside s newApp staging bundle old app m)
    {o : Ended (ShellState δ)} (ho : o.state = m) (hstatus : o.status ≠ some 0) :
    Swapped s newApp staging bundle old app o := by
  refine ⟨ho ▸ hm.kept, .aside, ho ▸ ⟨hm.removed, hm.aside⟩, fun n hn => ⟨?_, nofun⟩⟩
  rintro rfl
  exact absurd hn hstatus

theorem swapped_of_new (hkept : KeptElsewhere s staging bundle old m)
    (hnew : ∃ entry, m.files bundle = some entry ∧ Replaced s newApp app entry)
    {o : Ended (ShellState δ)} (ho : o.state = m) (hstatus : ∀ n, o.status = some n → n = 0) :
    Swapped s newApp staging bundle old app o :=
  ⟨ho ▸ hkept, .new, ho ▸ hnew, fun n hn => ⟨fun _ => rfl, fun _ => hstatus n hn⟩⟩

/-- The new app could not be renamed, and the old one goes back. -/
theorem bundleBack_swapped (hm : BundleAside s newApp staging bundle old app m) (last : Nat) :
    wp (fileSemantics env) (.seq (.first (.one (.simple (.mv false old bundle)))) (.one (.simple .false)))
      (Swapped s newApp staging bundle old app) last m := by
  have hthere : ∀ m', Moves old bundle m m' ∨ m' = m → ∀ o : Ended (ShellState δ), o.state = m' →
      o.status ≠ some 0 → Swapped s newApp staging bundle old app o := by
    rintro m' (hmv | rfl) o ho hstatus
    · obtain ⟨hkept, hold⟩ := bundleAside_back hm hmv
      exact swapped_of_old hkept hold ho hstatus
    · exact swapped_of_aside hm ho hstatus
  refine wp_seq.mpr (wp_simple.mpr ⟨fun n m' hends => ?_, fun m' hpasses => ?_⟩)
  · have hmv : Moves old bundle m m' ∨ m' = m := succeeds_or_fails hends
    refine wp_one.mpr (wp_simple.mpr ⟨fun k m'' hfalse => ?_, fun m'' hstop => ?_⟩)
    · have hne : k ≠ 0 := by
        rintro rfl
        exact hfalse
      have hsame : m'' = m' := (if_neg hne).mp hfalse
      exact hthere m' hmv _ hsame fun hstatus => hne (Option.some.inj hstatus)
    · have hsame : m'' = m' := by
        rcases hstop with rfl | hfalse | rfl
        · rfl
        · exact hfalse.elim
        · rfl
      exact hthere m' hmv _ hsame nofun
  · rcases hpasses with rfl | hmv
    · exact hthere _ (.inr rfl) _ rfl nofun
    · exact hthere _ hmv _ rfl nofun

theorem bundleSwap_swapped (hm : BundleAside s newApp staging bundle old app m) (last : Nat) :
    wp (fileSemantics env) (bundleSwap staging bundle old)
      (Swapped s newApp staging bundle old app) last m := by
  refine wp_group.mpr (wp_first.mpr (wp_or.mpr (wp_simple.mpr
    ⟨fun n m' hends => ?_, fun m' hpasses => ?_⟩)))
  · show if n = 0 then _ else _
    by_cases hn : n = 0
    · subst hn
      obtain ⟨hkept, hnew⟩ := bundleAside_mv hm hends
      exact swapped_of_new hkept hnew rfl fun n hstatus => (Option.some.inj hstatus).symm
    · rw [if_neg hn]
      obtain rfl : m' = m := (if_neg hn).mp hends
      exact bundleBack_swapped hm n
  · rcases hpasses with rfl | hmv | rfl
    · exact swapped_of_aside hm rfl nofun
    · obtain ⟨hkept, hnew⟩ := bundleAside_mv hm hmv
      exact swapped_of_new hkept hnew rfl nofun
    · exact swapped_of_aside hm rfl nofun

theorem bundleChain_swapped (h : BundlePaths s staging bundle old app) (last : Nat) :
    wp (fileSemantics env) (bundleChain newApp staging bundle old)
      (Swapped s newApp staging bundle old app) last s := by
  have haside : wp (fileSemantics env)
      (.and (bundleStage newApp staging bundle) (.simple (.mv false bundle old)))
      (Ended.ifOk (BundleAside s newApp staging bundle old app)
        (Swapped s newApp staging bundle old app)) last s := by
    refine wp_and_ifOk (bundleStage_ready h last) fun m hm => wp_simple.mpr
      ⟨fun n m' hends => ?_, fun m' hpasses => ?_⟩
    · show if n = 0 then _ else _
      by_cases hn : n = 0
      · subst hn
        exact bundleReady_mv h hm hends
      · rw [if_neg hn]
        obtain rfl : m' = m := (if_neg hn).mp hends
        exact swapped_of_old hm.kept hm.installed rfl fun hstatus => hn (Option.some.inj hstatus)
    · rcases hpasses with rfl | hmv | rfl
      · exact swapped_of_old hm.kept hm.installed rfl nofun
      · exact swapped_of_aside (bundleReady_mv h hm hmv) rfl nofun
      · exact swapped_of_old hm.kept hm.installed rfl nofun
  refine wp_and.mpr (wp_mono haside fun o ho => ?_)
  cases o with
  | done n m =>
      show if n = 0 then _ else _
      by_cases hn : n = 0
      · subst hn
        exact bundleSwap_swapped ho 0
      · rw [if_neg hn]
        exact (if_neg hn).mp ho
  | exited n m => exact ho
  | stopped m => exact ho

theorem rm_sameOutside {recursive : Bool} {path : Str} {last : Nat}
    (h : (FileCmd.rm recursive [path]).Succeeds env last m m' ∨ (FileCmd.rm recursive [path]).Fails m m') :
    SameOutside path m.files m'.files := by
  intro q hq
  have hout : ∀ p ∈ [path], ¬ AtOrBelow p q := fun p hp => List.mem_singleton.mp hp ▸ hq
  rcases h with ⟨-, -, -, hsame⟩ | ⟨-, -, hsame⟩
  · exact hsame q hout
  · exact hsame q hout

/-- Without the copy that could not be put in place, the old app is where it was. -/
theorem Swapped.rm_staging (h : BundlePaths s staging bundle old app) {n : Nat} (hn : n ≠ 0)
    (hm : Swapped s newApp staging bundle old app (.done n m)) (hrm : SameOutside staging m.files m'.files)
    {o : Ended (ShellState δ)} (ho : o.state = m') (hstatus : o.status ≠ some 0) :
    Swapped s newApp staging bundle old app o := by
  obtain ⟨hkept, state, hholds, hiff⟩ := hm
  have hkept' : KeptElsewhere s staging bundle old m' :=
    KeptElsewhere.sameOutside hkept fun q hs _ _ => hrm q hs
  have hbundle : m'.files bundle = m.files bundle := hrm _ h.staging_bundle.1
  have hold : m'.files old = m.files old := hrm _ h.staging_old.1
  cases state with
  | new => exact absurd ((hiff n rfl).mpr rfl) hn
  | old => exact swapped_of_old hkept' (hbundle.trans hholds) ho hstatus
  | aside =>
      refine ⟨ho ▸ hkept', .aside, ho ▸ ⟨hbundle.trans hholds.1, hold.trans hholds.2⟩,
        fun n hn => ⟨?_, nofun⟩⟩
      rintro rfl
      exact absurd hn hstatus

/-- **The command that replaces the bundle never leaves the machine without an app.** -/
theorem bundleReplace_swapped (h : BundlePaths s staging bundle old app) (last : Nat) :
    wp (fileSemantics env) (bundleReplace newApp staging bundle old)
      (Swapped s newApp staging bundle old app) last s := by
  have hfirst : wp (fileSemantics env)
      (.or (bundleChain newApp staging bundle old) (dropStaging true staging))
      (Ended.ifDone (fun _ m => Swapped s newApp staging bundle old app (.done 0 m))
        (Swapped s newApp staging bundle old app)) last s := by
    refine wp_or.mpr (wp_mono (bundleChain_swapped h last) fun o ho => ?_)
    cases o with
    | exited n m => exact ho
    | stopped m => exact ho
    | done n m =>
        show if n = 0 then _ else _
        by_cases hn : n = 0
        · subst hn
          exact ho
        · rw [if_neg hn]
          refine wp_group.mpr (wp_seq.mpr (wp_simple.mpr ⟨fun k m' hends => ?_, fun m' hpasses => ?_⟩))
          · exact wp_one.mpr (wp_exit.mpr
              (ho.rm_staging h hn (rm_sameOutside (succeeds_or_fails hends)) rfl nofun))
          · rcases hpasses with rfl | hrm
            · exact ho.rm_staging h hn (fun _ _ => rfl) rfl nofun
            · exact ho.rm_staging h hn (rm_sameOutside hrm) rfl nofun
  refine wp_seq.mpr (wp_seq.mpr (wp_mono hfirst fun o ho => ?_))
  cases o with
  | exited n m => exact ho
  | stopped m => exact ho
  | done n m =>
      obtain ⟨hkept, state, hholds, hiff⟩ : Swapped s newApp staging bundle old app (.done 0 m) := ho
      obtain rfl := (hiff 0 rfl).mp rfl
      -- only now is the old app removed
      have hnew (m' : ShellState δ) (hrm : SameOutside old m.files m'.files)
          {o : Ended (ShellState δ)} (ho : o.state = m') (hstatus : ∀ n, o.status = some n → n = 0) :
          Swapped s newApp staging bundle old app o := by
        refine swapped_of_new (hkept.sameOutside fun q _ _ hq => hrm q hq) ?_ ho hstatus
        rw [hrm bundle h.bundle_old.2]
        exact hholds
      refine wp_one.mpr (wp_simple.mpr ⟨fun k m' hends => ?_, fun m' hpasses => ?_⟩)
      · have hrm := rm_sameOutside (succeeds_or_fails hends)
        refine wp_one.mpr (wp_simple.mpr ⟨fun k m'' htrue => ?_, fun m'' hstop => ?_⟩)
        · by_cases hk : k = 0
          · subst hk
            obtain rfl : m'' = m' := htrue
            exact hnew m'' hrm rfl fun n hstatus => (Option.some.inj hstatus).symm
          · exact ((if_neg hk).mp htrue : False).elim
        · obtain rfl : m'' = m' := by
            rcases hstop with rfl | rfl | hfails
            · rfl
            · rfl
            · exact hfails.elim
          exact hnew m'' hrm rfl nofun
      · rcases hpasses with rfl | hrm
        · exact hnew m' (fun _ _ => rfl) rfl nofun
        · exact hnew m' (rm_sameOutside hrm) rfl nofun

/-- The command can do what it is for. -/
theorem bundleReplace_completes {new : Entry δ} (h : BundlePaths s staging bundle old app)
    (hnew : s.files newApp = some new) :
    ∃ s', Outcomes (fileSemantics env) (bundleReplace newApp staging bundle old) 0 s (.done 0 s') := by
  have hbundle : bundle ≠ staging := fun he => h.staging_bundle.1 (.inl he)
  have hold : bundle ≠ old := fun he => h.bundle_old.2 (.inl he)
  have hstaging : staging ≠ old := fun he => h.staging_old.2 (.inl he)
  have hthere (entry : Entry δ) : (s.set staging (some entry)).files bundle = some app :=
    (s.set_of_ne _ hbundle).trans h.installed
  have hagain (entry entry' : Entry δ) :
      (s.set staging (some entry)).set staging (some entry') = s.set staging (some entry') := by
    unfold ShellState.set
    simp only [Function.update_idem]
  have hcopied : Outcomes (fileSemantics env) (.one (.simple (.ditto newApp staging))) 0 s
      (.done 0 (s.set staging (some new))) := outcomes_simple (copySucceeds_set hnew nofun)
  have howned := outcomes_and_simple (a := .chownStat bundle staging) hcopied
    ⟨app, hthere _, alters_set _⟩
  rw [hagain] at howned
  have haside := outcomes_and_simple (a := .mv false bundle old) howned (moves_set hold (hthere _))
  -- what has been copied is still at the staging path
  have hcopy (entry : Entry δ) : (((s.set staging (some entry)).set bundle none).set old
      (some app)).files staging = some entry := by
    rw [ShellState.set_of_ne _ _ hstaging, ShellState.set_of_ne _ _ hbundle.symm, ShellState.set_self]
  have hswap (entry : Entry δ) : ∃ m, Outcomes (fileSemantics env) (bundleSwap staging bundle old) 0
      (((s.set staging (some entry)).set bundle none).set old (some app)) (.done 0 m) :=
    ⟨_, outcomes_or (outcomes_simple (moves_set hbundle.symm (hcopy entry)))⟩
  obtain ⟨m, hswapped⟩ := hswap { new with owner := app.owner }
  have hfirst : Outcomes (fileSemantics env)
      (.first (.or (bundleChain newApp staging bundle old) (dropStaging true staging))) 0 s (.done 0 m) :=
    outcomes_or (outcomes_and haside hswapped)
  obtain ⟨s', hrm⟩ := rm_succeeds env true [old] 0 m
  exact ⟨s', outcomes_seq_simple (outcomes_seq_simple hfirst hrm) rfl⟩

end

end PcbuDesktop
