import PcbuDesktop.Updater.FileCommands

set_option autoImplicit false

/-! # Replacing a file as a whole

`InstallCli` and the updaters write the new version to a path of their own beside the old one,
give it its owner and its mode there, and then rename it. Whatever fails and whenever the shell is
stopped, the old version is in place or the new one with owner and mode, and the status says which.
-/

namespace PcbuDesktop

open ShellList

section

variable {δ : Type} {env : CommandEnv δ}

/-! ## What is left alone -/

/-- Where a command writes: the paths that it changes, and those at which it makes a directory if
nothing is there. -/
structure Region where
  changes : Str → Prop
  makes : Str → Prop := fun _ => False

/-- At `q` nothing has changed, but for a directory that has been made. -/
def Region.Keeps (region : Region) (s s' : ShellState δ) (q : Str) : Prop :=
  s'.files q = s.files q ∨ region.makes q ∧ s.files q = none

theorem Region.Keeps.trans {region : Region} {s s' s'' : ShellState δ} {q : Str}
    (h : region.Keeps s s' q) (h' : region.Keeps s' s'' q) : region.Keeps s s'' q := by
  rcases h with hsame | hmade
  · rcases h' with hsame' | ⟨hmakes, hnone⟩
    · exact .inl (hsame'.trans hsame)
    · exact .inr ⟨hmakes, hsame ▸ hnone⟩
  · exact .inr hmade

/-- Where no directory is made, nothing has changed. -/
theorem Region.Keeps.same {region : Region} {s s' : ShellState δ} {q : Str}
    (h : region.Keeps s s' q) (hmakes : ¬ region.makes q) : s'.files q = s.files q :=
  h.resolve_right fun hmade => hmakes hmade.1

/-- Outside of `region` nothing has changed, and at `target` nothing has. -/
structure Untouched (region : Region) (target : Str) (s s' : ShellState δ) : Prop where
  target : s'.files target = s.files target
  kept : ∀ q, ¬ region.changes q → region.Keeps s s' q

theorem Untouched.refl (region : Region) (target : Str) (s : ShellState δ) :
    Untouched region target s s := ⟨rfl, fun _ _ => .inl rfl⟩

theorem Untouched.trans {region : Region} {target : Str} {s s' s'' : ShellState δ}
    (h : Untouched region target s s') (h' : Untouched region target s' s'') :
    Untouched region target s s'' :=
  ⟨h'.target.trans h.target, fun q hq => (h.kept q hq).trans (h'.kept q hq)⟩

/-- A command that writes in `region` only, and not to `target`. -/
def FileCmd.WritesIn (env : CommandEnv δ) (region : Region) (target : Str) (a : FileCmd) : Prop :=
  ∀ last s s', a.Succeeds env last s s' ∨ a.Fails s s' → Untouched region target s s'

variable {region : Region} {target : Str}

theorem untouched_of_sameOutside {dir : Str} {s s' : ShellState δ}
    (hdir : ∀ q, AtOrBelow dir q → region.changes q) (ht : ¬ AtOrBelow dir target)
    (h : SameOutside dir s.files s'.files) : Untouched region target s s' where
  target := h target ht
  kept := fun q hq => .inl (h q fun hbelow => hq (hdir q hbelow))

theorem untouched_of_alters {path : Str} {change : Entry δ → Entry δ} {s s' : ShellState δ}
    (hpath : ∀ q, AtOrBelow path q → region.changes q) (ht : ¬ AtOrBelow path target)
    (h : Alters path change s s') : Untouched region target s s' := by
  obtain ⟨entry, -, rfl⟩ := h
  exact untouched_of_sameOutside hpath ht (sameOutside_set s path _)

/-- The commands that write to one path or below it. -/
def FileCmd.writesTo : FileCmd → Option Str
  | .cp _ path | .ditto _ path | .cpFound path | .chownReference _ path | .chownStat _ path
  | .chownRoot path | .chmodReference _ path | .chmodX path | .chmod755 path | .tar _ path =>
      some path
  | _ => none

theorem writesIn_of_writesTo {a : FileCmd} {path : Str} (h : a.writesTo = some path)
    (hpath : ∀ q, AtOrBelow path q → region.changes q) (ht : ¬ AtOrBelow path target) :
    a.WritesIn env region target := by
  intro last s s' hstep
  have hout : SameOutside path s.files s'.files → Untouched region target s s' :=
    untouched_of_sameOutside hpath ht
  have halters : ∀ change, Alters path change s s' → Untouched region target s s' :=
    fun change => untouched_of_alters hpath ht
  have hfails : (s' = s ∨ ∃ owner mode,
      Alters path (fun entry => { entry with owner, mode }) s s') → Untouched region target s s' := by
    rintro (rfl | ⟨owner, mode, h⟩)
    · exact Untouched.refl ..
    · exact halters _ h
  cases a with
  | cp src dst | ditto src dst | cpFound dst =>
      cases h
      rcases hstep with ⟨entry, -, -, -, -, hsame, -⟩ | ⟨-, -, hsame⟩
      · exact hout hsame
      · exact hout hsame
  | chownReference ref dst | chownStat ref dst | chmodReference ref dst =>
      cases h
      rcases hstep with ⟨r, -, h⟩ | h
      · exact halters _ h
      · exact hfails h
  | chownRoot dst | chmodX dst | chmod755 dst =>
      cases h
      exact hstep.elim (halters _) hfails
  | tar archive dir =>
      cases h
      exact hout (hstep.elim (fun h => h.2.2.1) (fun h => h.2.2))
  | _ => cases h

theorem writesIn_rm {recursive : Bool} {paths : List Str}
    (hpaths : ∀ path ∈ paths, ∀ q, AtOrBelow path q → region.changes q)
    (ht : ∀ path ∈ paths, ¬ AtOrBelow path target) :
    (FileCmd.rm recursive paths).WritesIn env region target := by
  intro last s s' hstep
  have hsame : ∀ q, (∀ path ∈ paths, ¬ AtOrBelow path q) → s'.files q = s.files q :=
    hstep.elim (fun h => h.2.2.2) (fun h => h.2.2)
  exact ⟨hsame target ht, fun q hq =>
    .inl (hsame q fun path hpath hbelow => hq (hpaths path hpath q hbelow))⟩

theorem writesIn_mkdir {path : Str} (hmakes : ∀ q, AtOrBelow q path → region.makes q)
    (ht : ¬ AtOrBelow target path) : (FileCmd.mkdir path).WritesIn env region target := by
  intro last s s' hstep
  have hdirs : (∀ q entry, s.files q = some entry → s'.files q = some entry) ∧
      ∀ q, ¬ AtOrBelow q path → s'.files q = s.files q :=
    hstep.elim (fun h => h.2.2) (fun h => h.2.2)
  refine ⟨hdirs.2 target ht, fun q _ => ?_⟩
  by_cases habove : AtOrBelow q path
  · -- a directory that is there stays
    cases hq : s.files q with
    | none => exact .inr ⟨hmakes q habove, hq⟩
    | some entry => exact .inl ((hdirs.1 q entry hq).trans hq.symm)
  · exact .inl (hdirs.2 q habove)

theorem succeeds_or_fails {a : FileCmd} {last n : Nat} {s s' : ShellState δ}
    (h : (fileSemantics env).ends a last s n s') : a.Succeeds env last s s' ∨ a.Fails s s' := by
  by_cases hn : n = 0
  · exact .inl ((if_pos hn).mp h)
  · exact .inr ((if_neg hn).mp h)

/-- A command all of whose parts write in `region` leaves the rest alone, whenever it is stopped. -/
theorem wp_untouched {l : Level} (c : Cmd FileCmd ExitArg l)
    (hc : c.All (fun a => a.WritesIn env region target)) (last : Nat) (s : ShellState δ) :
    wp (fileSemantics env) c (fun o => Untouched region target s o.state) last s := by
  refine wp_invariant (J := Untouched region target s) ?_ c hc last (Untouched.refl ..)
  intro a ha last' m hm
  constructor
  · intro n s' hends
    exact hm.trans (ha last' m s' (succeeds_or_fails hends))
  · rintro s' (rfl | hstep)
    · exact hm
    · exact hm.trans (ha last' m s' hstep)

/-! ## The rename -/

/-- At `target` nothing has changed, and what is at `staging` is as wanted. -/
def Staged (s : ShellState δ) (staging target : Str) (P : Entry δ → Prop) (m : ShellState δ) : Prop :=
  m.files target = s.files target ∧ ∃ entry, m.files staging = some entry ∧ P entry

/-- The new version is in place, and outside of `region` nothing else has changed. -/
structure InPlace (region : Region) (target : Str) (New : Entry δ → Prop) (s s' : ShellState δ) :
    Prop where
  placed : ∃ entry, s'.files target = some entry ∧ New entry
  kept : ∀ q, ¬ region.changes q → ¬ AtOrBelow target q → region.Keeps s s' q

/-- The status says which version is in place. A shell that was stopped says nothing, but one of
them is. -/
def Whole (region : Region) (target : Str) (New : Entry δ → Prop) (s : ShellState δ) :
    Ended (ShellState δ) → Prop
  | .done n s' => if n = 0 then InPlace region target New s s' else Untouched region target s s'
  | .exited n s' => if n = 0 then InPlace region target New s s' else Untouched region target s s'
  | .stopped s' => InPlace region target New s s' ∨ Untouched region target s s'

variable {staging : Str} {New : Entry δ → Prop}

theorem Whole.inPlace {s : ShellState δ} {o : Ended (ShellState δ)} (h : Whole region target New s o)
    (hstatus : o.status = some 0) : InPlace region target New s o.state := by
  cases o with
  | done n s' =>
      cases hstatus
      exact h
  | exited n s' =>
      cases hstatus
      exact h
  | stopped s' => cases hstatus

theorem Whole.mono {New' : Entry δ → Prop} {s : ShellState δ} {o : Ended (ShellState δ)}
    (h : Whole region target New s o) (hnew : ∀ entry, New entry → New' entry) :
    Whole region target New' s o := by
  have himp {s' : ShellState δ} (hs : InPlace region target New s s') :
      InPlace region target New' s s' :=
    ⟨hs.placed.imp fun entry he => ⟨he.1, hnew entry he.2⟩, hs.kept⟩
  cases o with
  | done n s' =>
      by_cases hn : n = 0
      · subst hn
        exact himp h
      · exact (if_neg hn).mpr ((if_neg hn).mp h)
  | exited n s' =>
      by_cases hn : n = 0
      · subst hn
        exact himp h
      · exact (if_neg hn).mpr ((if_neg hn).mp h)
  | stopped s' => exact h.imp himp id

/-- Whether there is a status or not, one of the versions is in place. -/
theorem Whole.inPlace_or_untouched {s : ShellState δ} {o : Ended (ShellState δ)}
    (h : Whole region target New s o) :
    InPlace region target New s o.state ∨ Untouched region target s o.state := by
  have hboth {n : Nat} {s' : ShellState δ}
      (hs : if n = 0 then InPlace region target New s s' else Untouched region target s s') :
      InPlace region target New s s' ∨ Untouched region target s s' := by
    by_cases hn : n = 0
    · exact .inl ((if_pos hn).mp hs)
    · exact .inr ((if_neg hn).mp hs)
  cases o with
  | done n s' => exact hboth h
  | exited n s' => exact hboth h
  | stopped s' => exact h

/-- Where no directory is made, nothing has changed but in the region and at the target. -/
theorem Whole.same {s : ShellState δ} {o : Ended (ShellState δ)} (h : Whole region target New s o)
    {q : Str} (hmakes : ¬ region.makes q) (hregion : ¬ region.changes q)
    (htarget : ¬ AtOrBelow target q) : o.state.files q = s.files q := by
  rcases h.inPlace_or_untouched with hplaced | huntouched
  · exact (hplaced.kept q hregion htarget).same hmakes
  · exact (huntouched.kept q hregion).same hmakes

theorem inPlace_of_moves {s m s' : ShellState δ} {entry : Entry δ}
    (hstaging : ∀ q, AtOrBelow staging q → region.changes q)
    (hfile : ∀ d, s.files target = some d → d.isDir = false) (hm : Untouched region target s m)
    (hready : m.files staging = some entry) (hnew : New entry)
    (h : Moves staging target m s') : InPlace region target New s s' := by
  obtain ⟨moved, hmoved, -, -, hsame, hplace⟩ := h
  rw [hready] at hmoved
  cases hmoved
  have hfile' : ∀ d, m.files target = some d → d.isDir = false := by
    intro d hd
    exact hfile d (hm.target ▸ hd)
  refine ⟨⟨entry, (hplace hfile').2, hnew⟩, fun q hq hbelow => (hm.kept q hq).trans ?_⟩
  exact .inl (hsame q (fun h => hq (hstaging q h)) hbelow)

/-- **A chain that writes in a region of its own, with a rename at its end.** -/
theorem wp_chain_mv {chain : Cmd FileCmd ExitArg .andOr} {force : Bool} {last : Nat} {s : ShellState δ}
    (hchain : chain.All (fun a => a.WritesIn env region target))
    (hstaging : ∀ q, AtOrBelow staging q → region.changes q)
    (hfile : ∀ d, s.files target = some d → d.isDir = false)
    (hready : wp (fileSemantics env) chain
      (Ended.ifOk (Staged s staging target New) Ended.GoesOn) last s) :
    wp (fileSemantics env) (chain.and (.simple (.mv force staging target)))
      (Whole region target New s) last s := by
  rw [wp_and]
  intro o ho
  have huntouched := wp_untouched chain hchain last s o ho
  have hthen := hready o ho
  cases o with
  | done n m =>
      show if n = 0 then _ else _
      split
      · rename_i hn
        subst hn
        obtain ⟨-, entry, hentry, hnew⟩ : Staged s staging target New m := hthen
        -- the rename is done or not; there is nothing between
        refine wp_simple.mpr ⟨fun n s' hends => ?_, fun s' hpasses => ?_⟩
        · by_cases hn : n = 0
          · subst hn
            exact inPlace_of_moves hstaging hfile huntouched hentry hnew hends
          · have hsame : s' = m := (if_neg hn).mp hends
            exact (if_neg hn).mpr (hsame ▸ huntouched)
        · rcases hpasses with rfl | hdone | rfl
          · exact .inr huntouched
          · exact .inl (inPlace_of_moves hstaging hfile huntouched hentry hnew hdone)
          · exact .inr huntouched
      · rename_i hn
        exact (if_neg hn).mpr huntouched
  | exited n m => exact hthen.elim
  | stopped m => exact .inr huntouched

/-- After the rename only files in the region have changed. -/
theorem InPlace.trans_untouched {s m s' : ShellState δ} (h : InPlace region target New s m)
    (h' : Untouched region target m s') : InPlace region target New s s' where
  placed := h'.target ▸ h.placed
  kept := fun q hq hbelow => (h.kept q hq hbelow).trans (h'.kept q hq)

/-! ## What a chain prepares -/

variable {last : Nat} {s m m' : ShellState δ}

theorem wp_simple_ifOk {a : FileCmd} {P : ShellState δ → Prop}
    (h : ∀ s', a.Succeeds env last s s' → P s') :
    wp (fileSemantics env) (.simple a) (Ended.ifOk P Ended.GoesOn) last s := by
  refine wp_simple.mpr ⟨fun n s' hends => ?_, fun s' _ => trivial⟩
  show if n = 0 then _ else _
  split
  · rename_i hn
    exact h s' ((if_pos hn).mp hends)
  · trivial

theorem staged_of_copy {tree : Bool} {src : Str} (hfresh : s.files staging = none)
    (htarget : ¬ AtOrBelow staging target) (h : CopySucceeds tree src staging s m) :
    Staged s staging target (fun copy => ∃ new, s.files src = some new ∧
      (tree = false → new.isDir = false) ∧ copy.isDir = new.isDir ∧ copy.data = new.data) m := by
  obtain ⟨new, hnew, hfile, -, -, hsame, hcopy⟩ := h
  obtain ⟨copy, hplace, hdir, hdata⟩ := hcopy hfresh
  exact ⟨hsame target htarget, copy, hplace, new, hnew, hfile, hdir, hdata⟩

theorem Staged.alters {P P' : Entry δ → Prop} {change : Entry δ → Entry δ}
    (hm : Staged s staging target P m) (htarget : ¬ AtOrBelow staging target)
    (h : Alters staging change m m') (hP : ∀ entry, P entry → P' (change entry)) :
    Staged s staging target P' m' := by
  obtain ⟨htarget', entry, hentry, hp⟩ := hm
  obtain ⟨entry', hentry', rfl⟩ := h
  rw [hentry] at hentry'
  cases hentry'
  refine ⟨?_, change entry, m.set_self staging _, hP entry hp⟩
  rw [m.set_of_ne _ fun h => htarget (.inl h), htarget']

/-- One more command in the chain, which gives the entry at `staging` its owner or its mode. -/
theorem wp_and_alters {chain : Cmd FileCmd ExitArg .andOr} {a : FileCmd} {P R : Entry δ → Prop}
    (hchain : wp (fileSemantics env) chain (Ended.ifOk (Staged s staging target P) Ended.GoesOn)
      last s)
    (htarget : ¬ AtOrBelow staging target)
    (ha : ∀ m m', a.Succeeds env 0 m m' → m.files target = s.files target →
      ∃ change, Alters staging change m m' ∧ ∀ entry, P entry → R (change entry)) :
    wp (fileSemantics env) (.and chain (.simple a))
      (Ended.ifOk (Staged s staging target R) Ended.GoesOn) last s := by
  refine wp_and_ifOk hchain fun m hm => wp_simple_ifOk fun m' h => ?_
  obtain ⟨change, halters, hP⟩ := ha m m' h hm.1
  exact hm.alters htarget halters hP

end

end PcbuDesktop
