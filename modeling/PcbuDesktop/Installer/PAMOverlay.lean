import PcbuDesktop.Installer.PAMHelper

set_option autoImplicit false

/-! # The pending changes are transparent

`direct` is a helper that reads and writes the files at each call. The program's helper shows the
same files through its pending changes (`view`), call by call, and `Commit` makes that view the
content of the directory.
-/

namespace PcbuDesktop

open Lines KeyedList

/-! ## Stores that show the same -/

/-- Every operation of `st` is the one of `st'` on what `view` shows. The reads, and the existence
tests that bypass the pending changes, agree while `Inv` holds. -/
structure ConfigStore.Shows {σ τ : Type} (st : ConfigStore σ) (st' : ConfigStore τ) (view : σ → τ)
    (Inv : σ → Prop) : Prop where
  configExists_eq : ∀ s n, st.configExists s n = st'.configExists (view s) n
  readConfig_eq : ∀ s n, Inv s → st.readConfig s n = st'.readConfig (view s) n
  /-- What has just been set is read. -/
  readConfig_set : ∀ s n d,
    st.readConfig (st.setConfig s n d) n = st'.readConfig (st'.setConfig (view s) n d) n
  setConfig_eq : ∀ s n d, view (st.setConfig s n d) = st'.setConfig (view s) n d
  polkit_eq : ∀ s b, view (st.setPolkitRestrictions s b) = st'.setPolkitRestrictions (view s) b
  existsOnDisk_eq : ∀ s, Inv s →
    st.existsOnDisk s (str "system-auth") = st'.existsOnDisk (view s) (str "system-auth")
  setConfig_inv : ∀ s n d, n ≠ str "system-auth" → Inv s → Inv (st.setConfig s n d)
  polkit_inv : ∀ s b, Inv s → Inv (st.setPolkitRestrictions s b)

namespace ConfigStore.Shows

variable {σ τ : Type} {st : ConfigStore σ} {st' : ConfigStore τ} {view : σ → τ} {Inv : σ → Prop}
  {s : σ} {n : Str}

theorem addToConfig (hv : st.Shows st' view Inv) (apple : Bool) (hs : Inv s) (entry : Str) :
    view (st.addToConfig apple s n entry) = st'.addToConfig apple (view s) n entry := by
  unfold ConfigStore.addToConfig
  rw [hv.configExists_eq, hv.readConfig_eq s n hs, hv.existsOnDisk_eq s hs]
  split
  · exact hv.setConfig_eq _ _ _
  · split
    · exact hv.setConfig_eq _ _ _
    · split
      · exact hv.setConfig_eq _ _ _
      · exact hv.setConfig_eq _ _ _

theorem removeFromConfig (hv : st.Shows st' view Inv) (apple : Bool) (hs : Inv s) (entry : Str) :
    view (st.removeFromConfig apple s n entry) = st'.removeFromConfig apple (view s) n entry := by
  unfold ConfigStore.removeFromConfig
  simp only [hv.configExists_eq, hv.readConfig_eq s n hs, hv.readConfig_set]
  split
  · rfl
  · split
    · split
      · rw [hv.setConfig_eq, hv.setConfig_eq]
      · exact hv.setConfig_eq _ _ _
    · split
      · exact hv.setConfig_eq _ _ _
      · exact hv.setConfig_eq _ _ _

theorem setConfigEntry (hv : st.Shows st' view Inv) (apple : Bool) (hs : Inv s) (entry : Str)
    (enabled : Bool) : view (st.setConfigEntry apple s n entry enabled) =
      st'.setConfigEntry apple (view s) n entry enabled := by
  unfold ConfigStore.setConfigEntry
  simp only [hv.configExists_eq, hv.readConfig_eq s n hs]
  split
  · -- the polkit restrictions come before the entry
    by_cases hpolkit : n = str "polkit-1"
    · rw [if_pos hpolkit, if_pos hpolkit, ← hv.polkit_eq]
      exact hv.addToConfig apple (hv.polkit_inv _ _ hs) entry
    · rw [if_neg hpolkit, if_neg hpolkit]
      exact hv.addToConfig apple hs entry
  · split
    · by_cases hpolkit : n = str "polkit-1"
      · rw [if_pos hpolkit, if_pos hpolkit, hv.polkit_eq, hv.removeFromConfig apple hs entry]
      · rw [if_neg hpolkit, if_neg hpolkit]
        exact hv.removeFromConfig apple hs entry
    · rfl

theorem migrateConfigEntry (hv : st.Shows st' view Inv) (hs : Inv s) (oldEntry newEntry : Str) :
    view (st.migrateConfigEntry s n oldEntry newEntry) =
      st'.migrateConfigEntry (view s) n oldEntry newEntry := by
  unfold ConfigStore.migrateConfigEntry
  rw [hv.configExists_eq, hv.readConfig_eq s n hs]
  split
  · rfl
  · split
    · exact hv.setConfig_eq _ _ _
    · rfl

theorem call (hv : st.Shows st' view Inv) (apple : Bool) (hs : Inv s) (c : PAMCall) :
    view (st.call apple s c) = st'.call apple (view s) c := by
  cases c with
  | setConfigEntry configName entry enabled => exact hv.setConfigEntry apple hs entry enabled
  | migrateConfigEntry configName oldEntry newEntry => exact hv.migrateConfigEntry hs _ _

/-- Any sequence of calls, by induction on it. -/
theorem calls (hv : st.Shows st' view Inv) (apple : Bool) (cs : List PAMCall) (hs : Inv s)
    (hn : ∀ c ∈ cs, c.configName ≠ str "system-auth") :
    view (cs.foldl (st.call apple) s) = cs.foldl (st'.call apple) (view s) := by
  induction cs generalizing s with
  | nil => rfl
  | cons c cs ih =>
      have hinv : Inv (st.call apple s c) :=
        call_keeps (fun s d => hv.setConfig_inv s _ d (hn c List.mem_cons_self)) hv.polkit_inv hs
      rw [List.foldl_cons, List.foldl_cons, ← hv.call apple hs c]
      exact ih hinv (fun d hd => hn d (List.mem_cons_of_mem _ hd))

end ConfigStore.Shows

/-! ## Direct files and the overlay -/

namespace PAMHelper

/-- A helper that works on the files at each call. -/
def direct : ConfigStore PAMFiles where
  configExists files configName := (files.pamDir configName).isSome
  readConfig files configName := (files.pamDir configName).getD []
  setConfig files configName data :=
    { files with pamDir := Function.update files.pamDir configName data }
  existsOnDisk files configName := (files.pamDir configName).isSome
  setPolkitRestrictions files enabled :=
    { files with polkitService := files.polkitService.map (polkitRestrictions enabled) }

section

variable (files : PAMFiles) (n : Str)

@[simp] theorem direct_configExists : direct.configExists files n = (files.pamDir n).isSome := rfl

@[simp] theorem direct_readConfig : direct.readConfig files n = (files.pamDir n).getD [] := rfl

@[simp] theorem direct_existsOnDisk : direct.existsOnDisk files n = (files.pamDir n).isSome := rfl

@[simp] theorem direct_setConfig_pamDir (data : Option Str) :
    (direct.setConfig files n data).pamDir = Function.update files.pamDir n data := rfl

@[simp] theorem direct_setPolkitRestrictions_pamDir (enabled : Bool) :
    (direct.setPolkitRestrictions files enabled).pamDir = files.pamDir := rfl

end

/-- The files as a helper shows them. -/
def view (h : PAMHelper) : PAMFiles where
  pamDir configName := ((h.pending.lookup configName).map Prod.snd).getD (h.files.pamDir configName)
  polkitService := h.files.polkitService

theorem view_pamDir_some {h : PAMHelper} {n : Str} {change : Str × Option Str}
    (hc : h.pending.lookup n = some change) : h.view.pamDir n = change.2 := by
  simp [view, hc]

theorem view_pamDir_none {h : PAMHelper} {n : Str} (hc : h.pending.lookup n = none) :
    h.view.pamDir n = h.files.pamDir n := by
  simp [view, hc]

/-- Nothing is pending for `system-auth`, and every file that is there can be read. -/
structure Clear (h : PAMHelper) : Prop where
  system : h.pending.lookup (str "system-auth") = none
  readable : ∀ n, h.unreadable n = false

/-- Nothing is pending at all. -/
theorem clear_fresh (files : PAMFiles) : Clear { files := files } :=
  ⟨OrderedMap.lookup_empty _, fun _ => rfl⟩

theorem overlay_shows : overlay.Shows direct view Clear where
  configExists_eq h n := by
    show h.configExists n = (h.view.pamDir n).isSome
    unfold configExists
    split
    · next change hc => rw [view_pamDir_some hc]
    · next hc => rw [view_pamDir_none hc]
  readConfig_eq h n hs := by
    show h.readConfig n = (h.view.pamDir n).getD []
    unfold readConfig
    split
    · next change hc => rw [view_pamDir_some hc]
    · next hc => rw [view_pamDir_none hc, if_neg (by simp [hs.readable])]
  readConfig_set h n d := by
    have hlookup : OrderedMap.lookup (h.pending.set n d) n = some (n, d) := by
      unfold PendingChanges.set
      rw [OrderedMap.lookup_insertSorted, if_pos rfl]
    show readConfig { h with pending := h.pending.set n d } n =
      (Function.update h.view.pamDir n d n).getD []
    unfold readConfig
    rw [Function.update_self]
    simp only [hlookup]
  setConfig_eq h n d := by
    have hdir : (view { h with pending := h.pending.set n d }).pamDir =
        Function.update h.view.pamDir n d := by
      funext m
      show ((OrderedMap.lookup (h.pending.set n d) m).map Prod.snd).getD _ = _
      unfold PendingChanges.set
      rw [OrderedMap.lookup_insertSorted]
      by_cases hm : m = n
      · subst hm
        rw [if_pos rfl, Function.update_self]
        rfl
      · rw [if_neg hm, Function.update_of_ne hm]
        rfl
    show (⟨_, _⟩ : PAMFiles) = ⟨_, _⟩
    rw [PAMFiles.mk.injEq]
    exact ⟨hdir, rfl⟩
  polkit_eq h b := rfl
  existsOnDisk_eq h hs := by
    show (h.files.pamDir _).isSome = (h.view.pamDir _).isSome
    rw [view_pamDir_none hs.system]
  setConfig_inv h n d hn hs := by
    refine ⟨?_, hs.readable⟩
    show OrderedMap.lookup (h.pending.set n d) (str "system-auth") = none
    unfold PendingChanges.set
    rw [OrderedMap.lookup_insertSorted, if_neg (Ne.symm hn)]
    exact hs.system
  polkit_inv h b hs := ⟨hs.system, hs.readable⟩

/-! ## Commit -/

theorem isChange_eq_false {file data : Option Str} : isChange file data = false ↔ file = data := by
  cases file <;> cases data <;> simp [isChange]

/-- The writes of `Commit` all succeed. -/
theorem applyChanges_written {input : CommitInput} (hw : ∀ n, input.write n = .written)
    {changes : List (Str × Option Str)} (hkeys : (changes.map Prod.fst).Nodup)
    (pamDir : Str → Option Str) :
    applyChanges input changes pamDir =
      (fun n => ((KeyedList.lookup Prod.fst n changes).map Prod.snd).getD (pamDir n),
        changes.map Prod.fst, false) := by
  induction changes generalizing pamDir with
  | nil => rfl
  | cons change changes ih =>
      obtain ⟨path, data⟩ := change
      rw [List.map_cons, List.nodup_cons] at hkeys
      unfold applyChanges
      simp only [hw, ih hkeys.2, List.map_cons, Prod.mk.injEq, and_true]
      funext n
      by_cases hn : path = n
      · -- no later change has the same path
        subst hn
        have hnone : KeyedList.lookup Prod.fst path changes = none := by
          rw [KeyedList.lookup_eq_none]
          exact hkeys.1
        rw [KeyedList.lookup_cons, if_pos rfl, hnone, Function.update_self]
        rfl
      · rw [KeyedList.lookup_cons, if_neg hn, Function.update_of_ne (Ne.symm hn)]

/-- Every read of the comparison succeeds. -/
def CommitInput.Reads (input : CommitInput) : Prop := ∀ n, input.read n = .done

theorem CommitInput.Reads.readFile {input : CommitInput} (h : input.Reads)
    (pamDir : Str → Option Str) (n : Str) : input.readFile pamDir n = pamDir n := by
  unfold CommitInput.readFile
  rw [if_neg (by simp [h n])]

/-- `Commit` meets no I/O error. -/
structure CommitInput.Succeeds (input : CommitInput) : Prop where
  noThrow : ∀ n, input.existsThrows n = false
  reads : input.Reads
  writes : ∀ n, input.write n = .written

theorem CommitInput.succeeds_default : CommitInput.Succeeds {} :=
  ⟨fun _ => rfl, fun _ => rfl, fun _ => rfl⟩

theorem CommitInput.Succeeds.throwsAt {input : CommitInput} (h : input.Succeeds)
    (pamDir : Str → Option Str) (change : Str × Option Str) :
    input.throwsAt pamDir change = false := by
  unfold CommitInput.throwsAt
  simp [h.noThrow, h.reads change.1]

/-- Dropping the changes that change nothing does not alter what the files become. -/
theorem lookup_changes {pamDir : Str → Option Str} {changes : List (Str × Option Str)}
    (hkeys : (changes.map Prod.fst).Nodup) (n : Str) :
    ((KeyedList.lookup Prod.fst n (changes.filter (fun change =>
        isChange (pamDir change.1) change.2))).map Prod.snd).getD (pamDir n) =
      ((KeyedList.lookup Prod.fst n changes).map Prod.snd).getD (pamDir n) := by
  have hfiltered := keys_filter_nodup (fun change : Str × Option Str =>
    isChange (pamDir change.1) change.2) hkeys
  cases hfull : KeyedList.lookup Prod.fst n changes with
  | none =>
      have hnone : KeyedList.lookup Prod.fst n (changes.filter (fun change =>
          isChange (pamDir change.1) change.2)) = none := by
        rw [KeyedList.lookup_eq_none] at hfull ⊢
        intro hmem
        exact hfull ((List.filter_sublist.map Prod.fst).subset hmem)
      rw [hnone]
  | some change =>
      obtain ⟨hmem, rfl⟩ := (KeyedList.lookup_eq_some hkeys).mp hfull
      by_cases hchange : isChange (pamDir change.1) change.2 = true
      · have hsome : KeyedList.lookup Prod.fst change.1 (changes.filter (fun change =>
            isChange (pamDir change.1) change.2)) = some change :=
          (KeyedList.lookup_eq_some hfiltered).mpr ⟨List.mem_filter.mpr ⟨hmem, hchange⟩, rfl⟩
        rw [hsome]
      · -- the file already is what is pending
        have hsame : pamDir change.1 = change.2 := isChange_eq_false.mp (by simpa using hchange)
        cases hlookup : KeyedList.lookup Prod.fst change.1 (changes.filter (fun change =>
            isChange (pamDir change.1) change.2)) with
        | none => exact hsame
        | some other =>
            obtain ⟨hother, hkey⟩ := (KeyedList.lookup_eq_some hfiltered).mp hlookup
            have heq : other = change :=
              List.inj_on_of_nodup_map hkeys (List.mem_filter.mp hother).1 hmem hkey
            rw [heq]

/-- `Commit` makes the files what the helper shows, and writes those that change. -/
theorem commit_eq_view {input : CommitInput} (hi : input.Succeeds) (h : PAMHelper) :
    (commit input h).helper = { h with files := h.view, pending := .empty } ∧
      (commit input h).threw = false ∧
      ∀ n ∈ (commit input h).written, h.view.pamDir n ≠ h.files.pamDir n := by
  have hnot : h.pending.entries.any (input.throwsAt h.files.pamDir) = false := by
    simp [hi.throwsAt]
  have hkeys := keys_filter_nodup (fun change : Str × Option Str =>
    isChange (h.files.pamDir change.1) change.2) h.pending.unique
  unfold commit
  rw [if_neg (by rw [hnot]; decide)]
  simp only [hi.reads.readFile, applyChanges_written hi.writes hkeys, true_and]
  refine ⟨?_, ?_⟩
  · have hdir : (fun n => ((KeyedList.lookup Prod.fst n (h.pending.entries.filter (fun change =>
        isChange (h.files.pamDir change.1) change.2))).map Prod.snd).getD (h.files.pamDir n)) =
          h.view.pamDir := by
      funext n
      exact lookup_changes h.pending.unique n
    simp only [hdir]
    rfl
  · intro n hn
    obtain ⟨change, hchange, rfl⟩ := List.mem_map.mp hn
    obtain ⟨hmem, hdiffers⟩ := List.mem_filter.mp hchange
    have hlookup : h.pending.lookup change.1 = some change :=
      (KeyedList.lookup_eq_some h.pending.unique).mpr ⟨hmem, rfl⟩
    rw [view_pamDir_some hlookup]
    intro hsame
    rw [isChange_eq_false.mpr hsame.symm] at hdiffers
    cases hdiffers

/-- Where the helper shows the files as they are, a `Commit` that can read them writes nothing,
whatever else it meets. -/
theorem commit_of_view_eq {input : CommitInput} (hi : input.Reads) {h : PAMHelper}
    (hview : h.view.pamDir = h.files.pamDir) :
    (commit input h).helper.files.pamDir = h.files.pamDir := by
  have hnone : h.pending.entries.filter
      (fun change => isChange (h.files.pamDir change.1) change.2) = [] := by
    rw [List.filter_eq_nil_iff]
    intro change hmem
    have hlookup : h.pending.lookup change.1 = some change :=
      (KeyedList.lookup_eq_some h.pending.unique).mpr ⟨hmem, rfl⟩
    have hsame : h.files.pamDir change.1 = change.2 := by
      rw [← hview, view_pamDir_some hlookup]
    rw [isChange_eq_false.mpr hsame]
    decide
  unfold commit
  split
  · rfl
  · simp only [hi.readFile, hnone, applyChanges]

/-- The pending changes are gone unless the comparison throws. -/
theorem commit_pending {input : CommitInput} {h : PAMHelper}
    (hnot : ∀ change ∈ h.pending.entries, input.throwsAt h.files.pamDir change = false) :
    (commit input h).helper.pending = .empty := by
  have hany : h.pending.entries.any (input.throwsAt h.files.pamDir) = false := by
    rw [List.any_eq_false]
    intro change hmem
    rw [hnot change hmem]
    decide
  unfold commit
  rw [if_neg (by rw [hany]; decide)]

/-- The files of a helper are only written by `Commit`. -/
theorem call_pamDir (apple : Bool) (h : PAMHelper) (c : PAMCall) :
    (overlay.call apple h c).files.pamDir = h.files.pamDir :=
  ConfigStore.call_keeps (R := fun h' : PAMHelper => h'.files.pamDir = h.files.pamDir) (fun _ _ hs => hs)
    (fun _ _ hs => hs) rfl

theorem calls_pamDir (apple : Bool) (h : PAMHelper) (calls : List PAMCall) :
    (calls.foldl (overlay.call apple) h).files.pamDir = h.files.pamDir := by
  induction calls generalizing h with
  | nil => rfl
  | cons c calls ih => rw [List.foldl_cons, ih, call_pamDir]

/-- **The overlay is transparent.** For every directory and every sequence of calls that do not
edit `system-auth` itself: a `Commit` without I/O errors makes the directory what the direct helper
makes it and writes only files that change, and no change stays pending after a `Commit`, whatever
it meets, if and only if no existence test of the comparison throws, and no read. -/
theorem overlay_transparent_iff (apple : Bool) (files : PAMFiles) (calls : List PAMCall)
    (hnames : ∀ c ∈ calls, c.configName ≠ str "system-auth") (input : CommitInput) :
    let h := calls.foldl (overlay.call apple) { files := files }
    let result := commit input h
    ((input.Succeeds →
        result.helper.files.pamDir = (calls.foldl (direct.call apple) files).pamDir ∧
        ∀ n ∈ result.written, result.helper.files.pamDir n ≠ files.pamDir n) ∧
      result.helper.pending = .empty) ↔
    ∀ change ∈ h.pending.entries, input.throwsAt files.pamDir change = false := by
  intro h result
  have hview : h.view = calls.foldl (direct.call apple) files :=
    overlay_shows.calls apple calls (clear_fresh files) hnames
  have hdir : h.files.pamDir = files.pamDir := calls_pamDir apple { files := files } calls
  rw [← hdir]
  constructor
  · rintro ⟨-, hempty⟩ change hmem
    by_contra hthrows
    -- `Commit` has stopped in its first loop
    have hany : h.pending.entries.any (input.throwsAt h.files.pamDir) = true := by
      rw [List.any_eq_true]
      exact ⟨change, hmem, by simpa using hthrows⟩
    have hkept : result.helper = h := by
      show (commit input h).helper = h
      unfold commit
      rw [if_pos hany]
    rw [hkept] at hempty
    rw [hempty] at hmem
    cases hmem
  · intro hnot
    refine ⟨?_, commit_pending hnot⟩
    intro hi
    obtain ⟨hhelper, -, hwritten⟩ := commit_eq_view hi h
    have hfiles : result.helper.files.pamDir = h.view.pamDir := by
      show (commit input h).helper.files.pamDir = _
      rw [hhelper]
    refine ⟨by rw [hfiles, hview], ?_⟩
    intro n hn
    rw [hfiles]
    exact hwritten n hn

end PAMHelper

namespace Sample

open PAMHelper

/-- `/etc/pam.d` with a `sudo` configuration of one line. -/
def sudoFiles : PAMFiles where
  pamDir name := if name = str "sudo" then some (str "account x") else none

/-- An entry is added to `sudo`. -/
def sudoCalls : List PAMCall := [.setConfigEntry (str "sudo") (str "auth y") true]

def sudoHelper : PAMHelper := sudoCalls.foldl (overlay.call false) { files := sudoFiles }

/-- The directory can no longer be searched when `Commit` runs. -/
def lockedInput : CommitInput := { existsThrows := fun _ => true }

end Sample

namespace PAMHelper

/-- The existence test in the first loop of `Commit` throws: the change stays pending. -/
theorem commit_keeps_pending :
    (∀ c ∈ Sample.sudoCalls, c.configName ≠ str "system-auth") ∧
    (commit Sample.lockedInput Sample.sudoHelper).threw = true ∧
    (commit Sample.lockedInput Sample.sudoHelper).helper.pending.entries =
      [(str "sudo", some (str "#%PAM-1.0\nauth y\naccount x\n"))] := by
  decide +kernel

theorem overlay_transparent_sample :
    (commit {} Sample.sudoHelper).helper.files.pamDir =
        (Sample.sudoCalls.foldl (direct.call false) Sample.sudoFiles).pamDir ∧
      (commit {} Sample.sudoHelper).helper.files.pamDir (str "sudo") =
        some (str "#%PAM-1.0\nauth y\naccount x\n") ∧
      (commit {} Sample.sudoHelper).helper.pending = .empty := by
  obtain ⟨hfiles, hempty⟩ := (overlay_transparent_iff false Sample.sudoFiles Sample.sudoCalls
    (by decide +kernel) {}).mpr (fun change _ => CommitInput.succeeds_default.throwsAt _ change)
  exact ⟨(hfiles CommitInput.succeeds_default).1, by decide +kernel, hempty⟩

end PAMHelper

end PcbuDesktop
