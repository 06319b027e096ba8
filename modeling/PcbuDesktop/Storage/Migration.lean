import PcbuDesktop.Basic.Text
import PcbuDesktop.Lib.KeyedList

set_option autoImplicit false

/-! # Moving the base directory

`AppSettings::MigrateBaseDir` gives the data directory of an older version its new name: what stands
at the new name (at most the log directory) is moved into the old directory, the empty new directory
is removed, and the old one is moved to its place. A `mv` moves everything or nothing; any step can
fail, as a `MigrateInput` says. A result is an `Except` of two states: `error` stands for an
exception, with what it has left on disk.

`α` is the content of an entry, a file or a directory.
-/

namespace PcbuDesktop

open KeyedList

variable {α : Type}

/-- The entries of a directory. -/
abbrev Entries (α : Type) := OrderedMap (Prod.fst : Str × α → Str)

/-- What stands at a path. -/
inductive Node (α : Type) where
  | missing
  | file (content : α)
  | dir (entries : Entries α)

namespace Node

def entries : Node α → List (Str × α)
  | .dir m => m.entries
  | _ => []

/-- The entry is there, with this content. -/
def Has (n : Node α) (name : Str) (c : α) : Prop := (name, c) ∈ n.entries

/-- `std::filesystem::exists` of a path below. -/
def contains (n : Node α) (name : Str) : Bool := n.entries.any (fun e => e.1 = name)

/-- A directory without an entry. -/
def erase (n : Node α) (name : Str) : Node α :=
  match n with
  | .dir m => .dir (m.erase name)
  | n => n

/-- A directory with one more entry. -/
def insert (n : Node α) (e : Str × α) : Node α :=
  match n with
  | .dir m => .dir (m.insert e)
  | n => n

theorem contains_iff {n : Node α} {name : Str} : n.contains name = true ↔ ∃ c, n.Has name c := by
  unfold contains Has
  simp

theorem contains_of_has {n : Node α} {name : Str} {c : α} (h : n.Has name c) :
    n.contains name = true := contains_iff.mpr ⟨c, h⟩

@[simp] theorem contains_missing (name : Str) : (missing : Node α).contains name = false := rfl

@[simp] theorem not_has_missing (name : Str) (c : α) : ¬ (missing : Node α).Has name c :=
  List.not_mem_nil

theorem has_erase {n : Node α} {k name : Str} {c : α} :
    (n.erase k).Has name c ↔ n.Has name c ∧ name ≠ k := by
  unfold Has
  cases n with
  | dir m =>
      show (name, c) ∈ KeyedList.erase Prod.fst k m.entries ↔ _
      exact mem_erase
  | missing => simp [erase, entries]
  | file b => simp [erase, entries]

/-- An entry is added to a directory that has none with its name. -/
theorem has_insert {m : Entries α} {e : Str × α} (h : (dir m).contains e.1 = false) {name : Str}
    {c : α} : ((dir m).insert e).Has name c ↔ (dir m).Has name c ∨ (name, c) = e := by
  unfold Has
  show (name, c) ∈ KeyedList.insert Prod.fst e m.entries ↔ (name, c) ∈ m.entries ∨ (name, c) = e
  rw [mem_insert]
  constructor
  · rintro (⟨hmem, -⟩ | heq)
    · exact Or.inl hmem
    · exact Or.inr heq
  · rintro (hmem | heq)
    · refine Or.inl ⟨hmem, ?_⟩
      rintro rfl
      exact Bool.false_ne_true (h.symm.trans (contains_of_has (c := c) hmem))
    · exact Or.inr heq

end Node

namespace AppSettings

/-- The directories with the new and with the old name. -/
structure BaseDirs (α : Type) where
  newDir : Node α
  oldDir : Node α

inductive BaseDir where
  | new
  | old
  deriving DecidableEq, Repr

/-- `SETTINGS_FILE_NAME`. -/
def settingsFileName : Str := str "app_settings.json"

def devicesFileName : Str := str "paired_devices.json"

/-- `AppSettings::GetBaseDir`. -/
def getBaseDir (d : BaseDirs α) : BaseDir :=
  if d.newDir.contains settingsFileName then .new
  else if d.oldDir.contains settingsFileName then .old
  else .new

/-- What the two tests of `AppSettings::NeedsMigration` find. -/
def needsMigration (d : BaseDirs α) : Bool :=
  !d.newDir.contains settingsFileName && d.oldDir.contains settingsFileName

theorem getBaseDir_of_needsMigration {d : BaseDirs α} (h : needsMigration d = true) :
    getBaseDir d = .old := by
  unfold needsMigration at h
  rw [Bool.and_eq_true, Bool.not_eq_true'] at h
  unfold getBaseDir
  rw [h.1, h.2]
  rfl

/-! ## The steps -/

/-- `Shell::Remove` of an empty directory. Through the elevator it can fail although the directory
is gone. -/
inductive RemoveOutcome where
  | done
  | failed (removed : Bool)
  deriving DecidableEq, Repr

/-- How the steps end: whether a test or a call throws, whether a `mv` succeeds. -/
structure MigrateInput where
  newSettingsThrows : Bool := false
  oldSettingsThrows : Bool := false
  newDirThrows : Bool := false
  listingThrows : Bool := false
  entryThrows : Str → Bool := fun _ => false
  moveEntry : Str → Bool := fun _ => true
  remove : RemoveOutcome := .done
  protectOldThrows : Bool := false
  moveBase : Bool := true
  newDevicesThrows : Bool := false
  protectNewThrows : Bool := false

section

variable (logsName : Option Str) (input : MigrateInput)

/-- `AppSettings::NeedsMigration`; `none` stands for an exception. -/
def testNeedsMigration (d : BaseDirs α) : Option Bool :=
  if input.newSettingsThrows then none
  else if d.newDir.contains settingsFileName then some false
  else if input.oldSettingsThrows then none
  else some (d.oldDir.contains settingsFileName)

/-- The test of the first loop. `logsName` is the name of the log directory, where it lies in the
new base directory. -/
def entryAllowed (d : BaseDirs α) (name : Str) : Bool :=
  logsName = some name && !input.entryThrows name && !d.oldDir.contains name

/-- The second loop: `MovePath` for each entry. -/
def moveEntries : List (Str × α) → BaseDirs α → Except (BaseDirs α) (BaseDirs α)
  | [], d => .ok d
  | e :: es, d =>
      if input.moveEntry e.1 then
        moveEntries es ⟨d.newDir.erase e.1, d.oldDir.insert e⟩
      else .error d

/-- `Shell::Remove(newDir)`, which removes an empty directory only. -/
def removeNewDir (d : BaseDirs α) : Except (BaseDirs α) (BaseDirs α) :=
  if d.newDir.entries.isEmpty then
    match input.remove with
    | .done => .ok { d with newDir := .missing }
    | .failed true => .error { d with newDir := .missing }
    | .failed false => .error d
  else .error d

/-- The block for a new directory that exists. Listing what is not a directory throws. -/
def clearNewDir (d : BaseDirs α) : Except (BaseDirs α) (BaseDirs α) :=
  if input.newDirThrows then .error d
  else match d.newDir with
    | .missing => .ok d
    | .file _ => .error d
    | .dir m =>
        if input.listingThrows then .error d
        else if m.entries.all (fun e => entryAllowed logsName input d e.1) then
          (moveEntries input m.entries d).bind (removeNewDir input)
        else .error d

def throwIf (b : Bool) (d : BaseDirs α) : Except (BaseDirs α) (BaseDirs α) :=
  if b then .error d else .ok d

/-- `MovePath(oldDir, newDir)`; nothing stands at the new name. -/
def moveBase (d : BaseDirs α) : Except (BaseDirs α) (BaseDirs α) :=
  if input.moveBase then .ok ⟨d.oldDir, .missing⟩ else .error d

/-- The permissions of the devices file, after the move. -/
def protectDevices (d : BaseDirs α) : Except (BaseDirs α) (BaseDirs α) :=
  throwIf (input.newDevicesThrows ||
    (d.newDir.contains devicesFileName && input.protectNewThrows)) d

/-- `AppSettings::MigrateBaseDir`. -/
def migrateBaseDir (d : BaseDirs α) : Except (BaseDirs α) (BaseDirs α) :=
  match testNeedsMigration input d with
  | none => .error d
  | some false => .ok d
  | some true => do
      let d ← clearNewDir logsName input d
      let d ← throwIf input.protectOldThrows d
      let d ← moveBase input d
      protectDevices input d

end

/-- The state on disk, whatever the result. -/
def onDisk : Except (BaseDirs α) (BaseDirs α) → BaseDirs α
  | .ok d => d
  | .error d => d

/-- Later calls, one after the other. -/
def laterCalls (logsName : Option Str) (inputs : List MigrateInput) (d : BaseDirs α) : BaseDirs α :=
  inputs.foldl (fun d input => onDisk (migrateBaseDir logsName input d)) d

/-! ## What happens before the move -/

/-- A state before the last move: the old directory keeps its entries, and those of the new one are in
one of both. -/
structure Between (pre d : BaseDirs α) : Prop where
  kept : ∀ name c, pre.oldDir.Has name c → d.oldDir.Has name c
  old_from : ∀ name c, d.oldDir.Has name c → pre.oldDir.Has name c ∨ pre.newDir.Has name c
  new_from : ∀ name c, d.newDir.Has name c → pre.newDir.Has name c
  new_kept : ∀ name c, pre.newDir.Has name c → d.newDir.Has name c ∨ d.oldDir.Has name c

namespace Between

theorem refl (d : BaseDirs α) : Between d d :=
  ⟨fun _ _ h => h, fun _ _ h => Or.inl h, fun _ _ h => h, fun _ _ h => Or.inl h⟩

theorem trans {a b d : BaseDirs α} (hab : Between a b) (hbd : Between b d) : Between a d := by
  constructor
  · intro name c h
    exact hbd.kept name c (hab.kept name c h)
  · intro name c h
    rcases hbd.old_from name c h with hold | hnew
    · exact hab.old_from name c hold
    · exact Or.inr (hab.new_from name c hnew)
  · intro name c h
    exact hab.new_from name c (hbd.new_from name c h)
  · intro name c h
    rcases hab.new_kept name c h with hnew | hold
    · exact hbd.new_kept name c hnew
    · exact Or.inr (hbd.kept name c hold)

/-- A settings file that is only in the old directory is still only there: the new directory has
got nothing. -/
theorem needsMigration {pre d : BaseDirs α} (h : Between pre d)
    (hneeds : needsMigration pre = true) : AppSettings.needsMigration d = true := by
  unfold AppSettings.needsMigration at hneeds ⊢
  rw [Bool.and_eq_true, Bool.not_eq_true'] at hneeds ⊢
  constructor
  · rw [← Bool.not_eq_true, Node.contains_iff]
    rintro ⟨c, hc⟩
    have hpre := Node.contains_of_has (h.new_from _ _ hc)
    rw [hneeds.1] at hpre
    exact absurd hpre Bool.false_ne_true
  · obtain ⟨c, hc⟩ := Node.contains_iff.mp hneeds.2
    exact Node.contains_of_has (h.kept _ _ hc)

end Between

section

variable {logsName : Option Str} {input : MigrateInput} {d : BaseDirs α}

/-- One `mv` from a new directory whose first entry it is. -/
theorem between_moveEntry {mn : Entries α} (mo : Entries α) {e : Str × α} {es : List (Str × α)}
    (hentries : mn.entries = e :: es) (hfree : (Node.dir mo).contains e.1 = false) :
    Between ⟨.dir mn, .dir mo⟩ ⟨(Node.dir mn).erase e.1, (Node.dir mo).insert e⟩ := by
  constructor
  · intro name c h
    exact (Node.has_insert hfree).mpr (Or.inl h)
  · intro name c h
    rcases (Node.has_insert hfree).mp h with hold | rfl
    · exact Or.inl hold
    · refine Or.inr ?_
      show (name, c) ∈ mn.entries
      rw [hentries]
      exact List.mem_cons_self
  · intro name c h
    exact (Node.has_erase.mp h).1
  · intro name c h
    by_cases hname : name = e.1
    · -- the names in a directory are distinct
      have hmem : e ∈ mn.entries := by
        rw [hentries]
        exact List.mem_cons_self
      have heq : (name, c) = e := List.inj_on_of_nodup_map mn.unique h hmem hname
      exact Or.inr ((Node.has_insert hfree).mpr (Or.inr heq))
    · exact Or.inl (Node.has_erase.mpr ⟨h, hname⟩)

theorem erase_first {mn : Entries α} {e : Str × α} {es : List (Str × α)}
    (hentries : mn.entries = e :: es) : (mn.erase e.1).entries = es := by
  have hunique := mn.unique
  rw [hentries, List.map_cons, List.nodup_cons] at hunique
  show KeyedList.erase Prod.fst e.1 mn.entries = es
  unfold KeyedList.erase
  rw [hentries, List.filter_cons_of_neg (by simp), List.filter_eq_self]
  intro b hb
  have hne : b.1 ≠ e.1 := by
    intro heq
    exact hunique.1 (heq ▸ List.mem_map_of_mem hb)
  exact decide_eq_true hne

/-- The second loop, over all that the new directory has: it ends in an intermediate state, and with
an empty new directory if every `mv` succeeds. -/
theorem moveEntries_spec (input : MigrateInput) (es : List (Str × α)) :
    ∀ (mn mo : Entries α), mn.entries = es → (∀ e ∈ es, (Node.dir mo).contains e.1 = false) →
    Between ⟨.dir mn, .dir mo⟩ (onDisk (moveEntries input es ⟨.dir mn, .dir mo⟩)) ∧
      (if es.all (fun e => input.moveEntry e.1) then
        ∃ d, moveEntries input es ⟨.dir mn, .dir mo⟩ = .ok d ∧ d.newDir.entries = []
      else ∃ d, moveEntries input es ⟨.dir mn, .dir mo⟩ = .error d) := by
  induction es with
  | nil =>
      intro mn mo hentries _
      exact ⟨Between.refl _, ⟨_, rfl, hentries⟩⟩
  | cons e es ih =>
      intro mn mo hentries hfree
      have hstep := between_moveEntry mo hentries (hfree e List.mem_cons_self)
      have hfree' : ∀ b ∈ es, ((Node.dir mo).insert e).contains b.1 = false := by
        intro b hb
        rw [← Bool.not_eq_true, Node.contains_iff]
        rintro ⟨c, hc⟩
        rcases (Node.has_insert (hfree e List.mem_cons_self)).mp hc with hold | heq
        · have hcontains := Node.contains_of_has hold
          rw [hfree b (List.mem_cons_of_mem e hb)] at hcontains
          exact Bool.false_ne_true hcontains
        · have hunique := mn.unique
          rw [hentries, List.map_cons, List.nodup_cons] at hunique
          have hkey : (b.1, c).1 = e.1 := congrArg Prod.fst heq
          exact hunique.1 (List.mem_map.mpr ⟨b, hb, hkey⟩)
      unfold moveEntries
      by_cases hmove : input.moveEntry e.1 = true
      · rw [if_pos hmove, List.all_cons, hmove, Bool.true_and]
        have hrest := ih (mn.erase e.1) (mo.insert e) (erase_first hentries) hfree'
        exact ⟨hstep.trans hrest.1, hrest.2⟩
      · rw [if_neg hmove, List.all_cons, Bool.eq_false_iff.mpr hmove, Bool.false_and]
        exact ⟨Between.refl _, ⟨_, rfl⟩⟩

theorem between_removed (h : d.newDir.entries = []) : Between d { d with newDir := .missing } := by
  refine ⟨fun _ _ hold => hold, fun _ _ hold => Or.inl hold, ?_, ?_⟩
  · intro name c hnew
    exact absurd hnew (Node.not_has_missing name c)
  · intro name c hnew
    unfold Node.Has at hnew
    rw [h] at hnew
    exact absurd hnew List.not_mem_nil

theorem removeNewDir_spec (input : MigrateInput) (h : d.newDir.entries = []) :
    Between d (onDisk (removeNewDir input d)) ∧
      (if input.remove = .done then removeNewDir input d = .ok { d with newDir := .missing }
      else ∃ d', removeNewDir input d = .error d') := by
  unfold removeNewDir
  rw [if_pos (by rw [h]; rfl)]
  rcases input.remove with _ | (_ | _)
  · exact ⟨between_removed h, rfl⟩
  · exact ⟨Between.refl d, ⟨d, rfl⟩⟩
  · exact ⟨between_removed h, ⟨_, rfl⟩⟩

/-- All entries are moved and the new directory is removed, once the first loop has let them pass. -/
theorem moveAndRemove_spec (input : MigrateInput) (m mo : Entries α)
    (hfree : ∀ e ∈ m.entries, (Node.dir mo).contains e.1 = false) :
    Between ⟨.dir m, .dir mo⟩
        (onDisk ((moveEntries input m.entries ⟨.dir m, .dir mo⟩).bind (removeNewDir input))) ∧
      (if m.entries.all (fun e => input.moveEntry e.1) = true ∧ input.remove = .done then
        ∃ d, (moveEntries input m.entries ⟨.dir m, .dir mo⟩).bind (removeNewDir input) = .ok d ∧
          d.newDir = .missing
      else ∃ d, (moveEntries input m.entries ⟨.dir m, .dir mo⟩).bind (removeNewDir input) =
        .error d) := by
  obtain ⟨hmoved, hend⟩ := moveEntries_spec input m.entries m mo rfl hfree
  by_cases hmove : m.entries.all (fun e => input.moveEntry e.1) = true
  · rw [if_pos hmove] at hend
    obtain ⟨d, hd, hempty⟩ := hend
    obtain ⟨hremoved, hresult⟩ := removeNewDir_spec input hempty
    rw [hd] at hmoved ⊢
    refine ⟨hmoved.trans hremoved, ?_⟩
    by_cases hremove : input.remove = .done
    · rw [if_pos hremove] at hresult
      rw [if_pos ⟨hmove, hremove⟩]
      exact ⟨_, hresult, rfl⟩
    · rw [if_neg hremove] at hresult
      rw [if_neg (fun h => hremove h.2)]
      exact hresult
  · rw [if_neg hmove] at hend
    obtain ⟨d, hd⟩ := hend
    rw [hd] at hmoved ⊢
    rw [if_neg (fun h => hmove h.1)]
    exact ⟨hmoved, d, rfl⟩

/-- No step of the block for an existing new directory fails: it has nothing but the log directory, and
the old directory has no entry of that name. -/
def Clears (logsName : Option Str) (input : MigrateInput) (d : BaseDirs α) : Prop :=
  input.newDirThrows = false ∧
    match d.newDir with
    | .missing => True
    | .file _ => False
    | .dir m => input.listingThrows = false ∧
        (m.entries.all (fun e => entryAllowed logsName input d e.1) = true) ∧
        (m.entries.all (fun e => input.moveEntry e.1) = true) ∧ input.remove = .done

theorem entryAllowed_spec {name : Str} (h : entryAllowed logsName input d name = true) :
    logsName = some name ∧ d.oldDir.contains name = false := by
  unfold entryAllowed at h
  simp only [Bool.and_eq_true, decide_eq_true_eq, Bool.not_eq_true'] at h
  exact ⟨h.1.1, h.2⟩

theorem clearNewDir_between (logsName : Option Str) (input : MigrateInput) (mn : Node α)
    (mo : Entries α) :
    Between ⟨mn, .dir mo⟩ (onDisk (clearNewDir logsName input ⟨mn, .dir mo⟩)) := by
  unfold clearNewDir
  split
  · exact Between.refl _
  · cases mn with
    | missing => exact Between.refl _
    | file b => exact Between.refl _
    | dir m =>
        simp only
        split
        · exact Between.refl _
        · split
          · rename_i hall
            have hfree : ∀ e ∈ m.entries, (Node.dir mo).contains e.1 = false :=
              fun e he => (entryAllowed_spec (List.all_eq_true.mp hall e he)).2
            exact (moveAndRemove_spec input m mo hfree).1
          · exact Between.refl _

theorem clearNewDir_of_clears {mn : Node α} {mo : Entries α}
    (h : Clears logsName input ⟨mn, .dir mo⟩) :
    (∃ d', clearNewDir logsName input ⟨mn, .dir mo⟩ = .ok d' ∧ d'.newDir = .missing) ∧
      ∀ name c, mn.Has name c → logsName = some name := by
  obtain ⟨hthrows, h⟩ := h
  unfold clearNewDir
  rw [if_neg (by rw [hthrows]; exact Bool.false_ne_true)]
  cases mn with
  | missing => exact ⟨⟨_, rfl, rfl⟩, fun name c hc => absurd hc (Node.not_has_missing name c)⟩
  | file b => exact absurd h id
  | dir m =>
      obtain ⟨hlist, hall, hmove, hremove⟩ := h
      have hallowed := fun e he => entryAllowed_spec (List.all_eq_true.mp hall e he)
      have hend := (moveAndRemove_spec input m mo (fun e he => (hallowed e he).2)).2
      rw [if_pos ⟨hmove, hremove⟩] at hend
      constructor
      · simp only [hlist, Bool.false_eq_true, if_false, if_pos hall]
        exact hend
      · intro name c hc
        exact (hallowed (name, c) hc).1

theorem clearNewDir_of_not_clears {mn : Node α} {mo : Entries α}
    (h : ¬ Clears logsName input ⟨mn, .dir mo⟩) :
    ∃ d', clearNewDir logsName input ⟨mn, .dir mo⟩ = .error d' := by
  unfold clearNewDir
  by_cases hthrows : input.newDirThrows = true
  · rw [if_pos hthrows]
    exact ⟨_, rfl⟩
  rw [if_neg hthrows]
  rw [Bool.not_eq_true] at hthrows
  cases mn with
  | missing => exact absurd ⟨hthrows, trivial⟩ h
  | file b => exact ⟨_, rfl⟩
  | dir m =>
      simp only
      by_cases hlist : input.listingThrows = true
      · rw [if_pos hlist]
        exact ⟨_, rfl⟩
      rw [if_neg hlist]
      rw [Bool.not_eq_true] at hlist
      split
      · rename_i hall
        have hfree : ∀ e ∈ m.entries, (Node.dir mo).contains e.1 = false :=
          fun e he => (entryAllowed_spec (List.all_eq_true.mp hall e he)).2
        have hend := (moveAndRemove_spec input m mo hfree).2
        rw [if_neg (fun hdone => h ⟨hthrows, hlist, hall, hdone⟩)] at hend
        exact hend
      · exact ⟨_, rfl⟩

end

/-! ## All or nothing -/

/-- The new directory has the entries of both, of its own only the log directory; the old one is
gone. -/
structure Completed (logsName : Option Str) (pre post : BaseDirs α) : Prop where
  old_gone : post.oldDir = .missing
  entries : ∀ name c, post.newDir.Has name c ↔ pre.oldDir.Has name c ∨ pre.newDir.Has name c
  only_logs : ∀ name c, pre.newDir.Has name c → logsName = some name

/-- Every entry is still in one of the directories, with its content. -/
def NoneLost (pre post : BaseDirs α) : Prop :=
  ∀ name c, pre.newDir.Has name c ∨ pre.oldDir.Has name c →
    post.newDir.Has name c ∨ post.oldDir.Has name c

/-- What an exception must leave: the old directory with all its entries, the same base directory, and
a state from which no later calls lose an entry. -/
structure Retryable (logsName : Option Str) (pre post : BaseDirs α) : Prop where
  kept : ∀ name c, pre.oldDir.Has name c → post.oldDir.Has name c
  base : getBaseDir post = getBaseDir pre
  needed : needsMigration post = needsMigration pre
  later : ∀ inputs, NoneLost pre (laterCalls logsName inputs post)

def AllOrNothing (logsName : Option Str) (pre : BaseDirs α) :
    Except (BaseDirs α) (BaseDirs α) → Prop
  | .ok post => if needsMigration pre then Completed logsName pre post else post = pre
  | .error post => Retryable logsName pre post

/-- The old directory is moved, and then the test for the devices file or the call that sets its
permissions throws. -/
structure ThrowsAfterMove (logsName : Option Str) (input : MigrateInput) (pre : BaseDirs α) : Prop where
  needed : needsMigration pre = true
  tested : input.newSettingsThrows = false ∧ input.oldSettingsThrows = false
  cleared : Clears logsName input pre
  unprotected : input.protectOldThrows = false
  moved : input.moveBase = true
  throws : input.newDevicesThrows = true ∨ (input.protectNewThrows = true ∧
    (pre.oldDir.contains devicesFileName = true ∨ pre.newDir.contains devicesFileName = true))

section

variable {logsName : Option Str} {input : MigrateInput} {pre d : BaseDirs α}

theorem NoneLost.trans {a b d : BaseDirs α} (hab : NoneLost a b) (hbd : NoneLost b d) :
    NoneLost a d := fun name c h => hbd name c (hab name c h)

theorem Between.noneLost (h : Between pre d) : NoneLost pre d := by
  rintro name c (hnew | hold)
  · exact h.new_kept name c hnew
  · exact Or.inr (h.kept name c hold)

/-- The two tests let the migration begin. -/
theorem testNeedsMigration_eq_true : testNeedsMigration input d = some true ↔
    needsMigration d = true ∧ input.newSettingsThrows = false ∧ input.oldSettingsThrows = false := by
  unfold testNeedsMigration needsMigration
  cases input.newSettingsThrows <;> cases input.oldSettingsThrows <;>
    cases d.newDir.contains settingsFileName <;> simp

theorem testNeedsMigration_eq_false (h : testNeedsMigration input d = some false) :
    needsMigration d = false := by
  unfold testNeedsMigration at h
  unfold needsMigration
  cases hnew : d.newDir.contains settingsFileName with
  | true => rfl
  | false =>
      rw [hnew] at h
      split at h
      · exact absurd h (by simp)
      · rw [if_neg Bool.false_ne_true] at h
        split at h
        · exact absurd h (by simp)
        · rw [Option.some.inj h]
          rfl

theorem oldDir_of_needsMigration (h : needsMigration d = true) : ∃ mo, d.oldDir = .dir mo := by
  unfold needsMigration at h
  rw [Bool.and_eq_true] at h
  obtain ⟨-, hold⟩ := h
  cases hd : d.oldDir with
  | dir mo => exact ⟨mo, rfl⟩
  | missing =>
      rw [hd] at hold
      exact absurd hold Bool.false_ne_true
  | file b =>
      rw [hd] at hold
      exact absurd hold Bool.false_ne_true

/-- The state just after the last move. -/
theorem completed_of_between (h : Between pre d) (hgone : d.newDir = .missing)
    (hlogs : ∀ name c, pre.newDir.Has name c → logsName = some name) :
    Completed logsName pre ⟨d.oldDir, .missing⟩ := by
  refine ⟨rfl, ?_, hlogs⟩
  intro name c
  constructor
  · exact h.old_from name c
  · rintro (hold | hnew)
    · exact h.kept name c hold
    · rcases h.new_kept name c hnew with hnew' | hold
      · rw [hgone] at hnew'
        exact absurd hnew' (Node.not_has_missing name c)
      · exact hold

/-- The last steps, from a state in which the new directory is gone. -/
def moveAndProtect (input : MigrateInput) (d : BaseDirs α) : Except (BaseDirs α) (BaseDirs α) := do
  let d ← throwIf input.protectOldThrows d
  let d ← moveBase input d
  protectDevices input d

theorem migrateBaseDir_eq (h : testNeedsMigration input d = some true) :
    migrateBaseDir logsName input d =
      (clearNewDir logsName input d).bind (moveAndProtect input) := by
  unfold migrateBaseDir
  rw [h]
  rfl

theorem migrateBaseDir_of_not_tested (h : testNeedsMigration input d ≠ some true) :
    onDisk (migrateBaseDir logsName input d) = d := by
  unfold migrateBaseDir
  rcases htest : testNeedsMigration input d with _ | (_ | _)
  · rfl
  · rfl
  · exact absurd htest h

theorem moveAndProtect_of_stopped (h : ¬ (input.protectOldThrows = false ∧ input.moveBase = true)) :
    moveAndProtect input d = .error d := by
  unfold moveAndProtect throwIf moveBase
  cases hp : input.protectOldThrows with
  | true => rfl
  | false =>
      cases hm : input.moveBase with
      | true => exact absurd ⟨hp, hm⟩ h
      | false => rfl

theorem moveAndProtect_of_moved (hp : input.protectOldThrows = false) (hm : input.moveBase = true) :
    moveAndProtect input d = protectDevices input ⟨d.oldDir, .missing⟩ := by
  unfold moveAndProtect throwIf moveBase
  rw [hp, hm]
  rfl

theorem onDisk_protectDevices : onDisk (protectDevices input d) = d := by
  unfold protectDevices throwIf
  split <;> rfl

/-- What a call with a needed migration does: it stops before the last move, or makes it and sets the
permissions. -/
theorem migrateBaseDir_cases (logsName : Option Str)
    (h : testNeedsMigration input pre = some true) :
    (∃ d, migrateBaseDir logsName input pre = .error d ∧ Between pre d ∧
      ¬ (Clears logsName input pre ∧ input.protectOldThrows = false ∧ input.moveBase = true)) ∨
    (∃ d, migrateBaseDir logsName input pre = protectDevices input d ∧ Completed logsName pre d ∧
      Clears logsName input pre ∧ input.protectOldThrows = false ∧ input.moveBase = true) := by
  obtain ⟨mn, old⟩ := pre
  obtain ⟨mo, rfl⟩ := oldDir_of_needsMigration (testNeedsMigration_eq_true.mp h).1
  have hbetween := clearNewDir_between logsName input mn mo
  rw [migrateBaseDir_eq h]
  by_cases hclears : Clears logsName input ⟨mn, .dir mo⟩
  · obtain ⟨⟨d, hd, hgone⟩, hlogs⟩ := clearNewDir_of_clears hclears
    rw [hd] at hbetween ⊢
    by_cases hlast : input.protectOldThrows = false ∧ input.moveBase = true
    · refine Or.inr ⟨⟨d.oldDir, .missing⟩, ?_, completed_of_between hbetween hgone hlogs, hclears,
        hlast⟩
      exact moveAndProtect_of_moved hlast.1 hlast.2
    · exact Or.inl ⟨d, moveAndProtect_of_stopped hlast, hbetween, fun hall => hlast hall.2⟩
  · obtain ⟨d, hd⟩ := clearNewDir_of_not_clears hclears
    rw [hd] at hbetween ⊢
    exact Or.inl ⟨d, rfl, hbetween, fun hall => hclears hall.1⟩

theorem Completed.noneLost (h : Completed logsName pre d) : NoneLost pre d := by
  intro name c hc
  exact Or.inl ((h.entries name c).mpr hc.symm)

/-- No call loses an entry, whatever fails in it. -/
theorem migrateBaseDir_noneLost : NoneLost pre (onDisk (migrateBaseDir logsName input pre)) := by
  by_cases h : testNeedsMigration input pre = some true
  · rcases migrateBaseDir_cases logsName h with ⟨d, hd, hbetween, -⟩ | ⟨d, hd, hcompleted, -⟩
    · rw [hd]
      exact hbetween.noneLost
    · rw [hd, onDisk_protectDevices]
      exact hcompleted.noneLost
  · rw [migrateBaseDir_of_not_tested h]
    exact fun _ _ hc => hc

theorem laterCalls_noneLost (inputs : List MigrateInput) :
    ∀ d : BaseDirs α, NoneLost d (laterCalls logsName inputs d) := by
  induction inputs with
  | nil => exact fun d name c hc => hc
  | cons input inputs ih => exact fun d => migrateBaseDir_noneLost.trans (ih _)

theorem retryable_of_between (h : Between pre d) (hneeds : needsMigration pre = true) :
    Retryable logsName pre d where
  kept := h.kept
  base := by
    rw [getBaseDir_of_needsMigration hneeds,
      getBaseDir_of_needsMigration (h.needsMigration hneeds)]
  needed := by rw [hneeds, h.needsMigration hneeds]
  later := fun inputs => h.noneLost.trans (laterCalls_noneLost inputs d)

theorem retryable_refl : Retryable logsName pre pre where
  kept := fun _ _ hc => hc
  base := rfl
  needed := rfl
  later := fun inputs => laterCalls_noneLost inputs pre

/-- Once moved, the settings are no more in the old directory. -/
theorem not_retryable_of_completed (h : Completed logsName pre d)
    (hneeds : needsMigration pre = true) : ¬ Retryable logsName pre d := by
  intro hretry
  have hneeded := hretry.needed
  rw [hneeds] at hneeded
  unfold needsMigration at hneeded
  rw [h.old_gone, Node.contains_missing, Bool.and_false] at hneeded
  exact Bool.false_ne_true hneeded

/-- The devices file is in the moved directory if it was in one of both. -/
theorem contains_devices_of_completed (h : Completed logsName pre d) :
    d.newDir.contains devicesFileName = true ↔
      pre.oldDir.contains devicesFileName = true ∨ pre.newDir.contains devicesFileName = true := by
  rw [Node.contains_iff, Node.contains_iff, Node.contains_iff, ← exists_or]
  exact exists_congr (fun c => h.entries devicesFileName c)

theorem protectDevices_eq (h : Completed logsName pre d) :
    protectDevices input d = throwIf (input.newDevicesThrows || (input.protectNewThrows &&
      (pre.oldDir.contains devicesFileName || pre.newDir.contains devicesFileName))) d := by
  have hdevices : d.newDir.contains devicesFileName =
      (pre.oldDir.contains devicesFileName || pre.newDir.contains devicesFileName) := by
    rw [Bool.eq_iff_iff, Bool.or_eq_true]
    exact contains_devices_of_completed h
  unfold protectDevices
  rw [hdevices, Bool.and_comm]

/-- The migration is all or nothing exactly if no exception comes after the old directory has been
moved: every other failure leaves the old directory with its entries as the base directory, from
where later calls lose nothing. -/
theorem migrateBaseDir_allOrNothing_iff (logsName : Option Str) (input : MigrateInput)
    (pre : BaseDirs α) : AllOrNothing logsName pre (migrateBaseDir logsName input pre) ↔
      ¬ ThrowsAfterMove logsName input pre := by
  by_cases htest : testNeedsMigration input pre = some true
  · obtain ⟨hneeds, htested⟩ := testNeedsMigration_eq_true.mp htest
    rcases migrateBaseDir_cases logsName htest with
      ⟨d, hd, hbetween, hstopped⟩ | ⟨d, hd, hcompleted, hclears, hp, hm⟩
    · rw [hd]
      refine iff_of_true (retryable_of_between hbetween hneeds) ?_
      intro hthrows
      exact hstopped ⟨hthrows.cleared, hthrows.unprotected, hthrows.moved⟩
    · rw [hd, protectDevices_eq hcompleted]
      unfold throwIf
      split
      · rename_i hthrow
        rw [Bool.or_eq_true, Bool.and_eq_true, Bool.or_eq_true] at hthrow
        refine iff_of_false (not_retryable_of_completed hcompleted hneeds) ?_
        exact not_not_intro ⟨hneeds, htested, hclears, hp, hm, hthrow⟩
      · rename_i hthrow
        rw [Bool.or_eq_true, Bool.and_eq_true, Bool.or_eq_true] at hthrow
        refine iff_of_true ?_ (fun h => hthrow h.throws)
        show if needsMigration pre = true then Completed logsName pre d else d = pre
        rw [if_pos hneeds]
        exact hcompleted
  · have hnot : ¬ ThrowsAfterMove logsName input pre := by
      intro h
      exact htest (testNeedsMigration_eq_true.mpr ⟨h.needed, h.tested⟩)
    refine iff_of_true ?_ hnot
    unfold migrateBaseDir
    rcases hresult : testNeedsMigration input pre with _ | (_ | _)
    · exact retryable_refl
    · unfold AllOrNothing
      rw [testNeedsMigration_eq_false hresult]
      rfl
    · exact absurd hresult htest

end

/-- Settings and a paired device in the old directory, nothing at the new name. -/
def oldDirs : BaseDirs Bytes where
  newDir := .missing
  oldDir := .dir ⟨[(settingsFileName, str "\x7b\x7d"), (devicesFileName, str "[]")], by decide⟩

/-- The shell for `chown` cannot be started after the move: an exception, and no old directory. -/
theorem migrateBaseDir_throws_moved :
    ¬ AllOrNothing none oldDirs (migrateBaseDir none { protectNewThrows := true } oldDirs) := by
  intro h
  have hbase : BaseDir.new = BaseDir.old := h.base
  exact absurd hbase (by decide)

end AppSettings

end PcbuDesktop
