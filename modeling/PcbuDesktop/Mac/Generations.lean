import PcbuDesktop.Mac.AgentController

set_option autoImplicit false

/-! # Stale work of the macOS agent

A run of `pcbu_auth` belongs to the generation it was launched in. Whatever ends its work takes the next
generation, so the blocks of older runs find another number and do nothing but wipe the password. The
password of a run is a token: it is with the process, in one block, or it has been used, and only once.
-/

namespace PcbuDesktop

open Runs

namespace AgentController

/-! ## The invariant -/

/-- The block still has the password to decide about. -/
def Callback.holds (r : Nat) : Callback → Bool
  | .authFinished run _ _ | .inject run _ _ => decide (run = r)
  | .authStatus _ _ _ | .injectFailed _ _ | .unlockTimeout _ _ => false

/-- The block was posted after the password had been wiped. -/
def Callback.isWiped : Callback → Bool
  | .injectFailed _ _ | .unlockTimeout _ _ => true
  | .authStatus _ _ _ | .authFinished _ _ _ | .inject _ _ _ => false

def Event.injects (r : Nat) : Event → Bool
  | .injecting run _ _ => decide (run = r)
  | .launched _ _ _ => false

/-- The process of the run has its password still to give. -/
def unfinished : Option AuthProcess → Nat
  | some p => if p.isFinished then 0 else 1
  | none => 0

/-- Where the password of a run is or has been used. -/
def tokens (s : State) (r : Nat) : Nat :=
  unfinished (s.processes r) + s.mainQueue.countP (Callback.holds r) + s.log.countP (Event.injects r)

/-- Only what belongs to the current generation is for the user at the screen, and while there is such
a run the agent is running or injecting. -/
structure Inv (s : State) : Prop where
  process : ∀ r p, s.processes r = some p →
    r < s.started ∧ p.generation ≤ s.generation ∧ .launched r p.generation p.userName ∈ s.log
  current : ∀ r p, s.processes r = some p → p.generation = s.generation →
    p.userName = s.userName ∧ (s.state = .running ∨ s.state = .injecting)
  launched : ∀ r g u, .launched r g u ∈ s.log → r < s.started
  queued : ∀ c ∈ s.mainQueue, ∃ p, s.processes c.run = some p ∧ p.generation = c.generation ∧
    (c.password = none ∨ p.isFinished = true)
  jobs : ∀ j ∈ s.injectQueue, ∃ p, s.processes j.1 = some p ∧ p.generation = j.2 ∧
    p.isFinished = true
  wiped : ∀ c ∈ s.mainQueue, c.isWiped = true → s.passwords c.run = []
  token : ∀ r, tokens s r ≤ 1
  injected : ∀ newer older r g u, s.log = newer ++ .injecting r g u :: older → .launched r g u ∈ older

section

variable {s s' : State}

theorem holds_run {c : Callback} {r : Nat} (h : c.holds r = true) : c.run = r := by
  cases c with
  | authFinished run generation result => exact of_decide_eq_true h
  | inject run generation attempt => exact of_decide_eq_true h
  | authStatus run generation status => cases h
  | injectFailed run generation => cases h
  | unlockTimeout run generation => cases h

theorem password_of_isWiped {c : Callback} (h : c.isWiped = true) : c.password = some c.run := by
  cases c with
  | injectFailed run generation => rfl
  | unlockTimeout run generation => rfl
  | authStatus run generation status => cases h
  | authFinished run generation result => cases h
  | inject run generation attempt => cases h

theorem inv_init : Inv {} where
  process := nofun
  current := nofun
  launched := nofun
  queued := nofun
  jobs := nofun
  wiped := nofun
  token := fun _ => Nat.zero_le _
  injected := by
    intro newer older r g u heq
    cases newer <;> cases heq

/-! ## Changes of the controller -/

/-- The processes, the passwords, the queues and the log stay as they are. -/
def SameWork (s s' : State) : Prop :=
  s'.processes = s.processes ∧ s'.started = s.started ∧ s'.passwords = s.passwords ∧
    s'.mainQueue = s.mainQueue ∧ s'.injectQueue = s.injectQueue ∧ s'.log = s.log

theorem stopAuth_eq (s : State) :
    ∃ a c, stopAuth s = { s with authProcess := a, isCanceled := c } := by
  unfold stopAuth
  split
  · exact ⟨s.authProcess, s.isCanceled, rfl⟩
  · exact ⟨_, _, rfl⟩

theorem Inv.of_same (h : Inv s) (hsame : SameWork s s') (hgeneration : s.generation ≤ s'.generation)
    (hcurrent : s'.generation = s.generation → s'.userName = s.userName ∧
      (s.state = .running ∨ s.state = .injecting → s'.state = .running ∨ s'.state = .injecting)) :
    Inv s' := by
  obtain ⟨hprocesses, hstarted, hpasswords, hmain, hinject, hlog⟩ := hsame
  constructor
  · rw [hprocesses, hstarted, hlog]
    intro r p hp
    obtain ⟨hlt, hle, hmem⟩ := h.process r p hp
    exact ⟨hlt, Nat.le_trans hle hgeneration, hmem⟩
  · rw [hprocesses]
    intro r p hp hgen
    -- a run of the new generation is one of the old generation too
    have hle := (h.process r p hp).2.1
    have heq : s'.generation = s.generation := by omega
    obtain ⟨huser, hstate⟩ := hcurrent heq
    obtain ⟨hpuser, hrunning⟩ := h.current r p hp (hgen.trans heq)
    exact ⟨hpuser.trans huser.symm, hstate hrunning⟩
  · rw [hlog, hstarted]
    exact h.launched
  · rw [hmain, hprocesses]
    exact h.queued
  · rw [hinject, hprocesses]
    exact h.jobs
  · rw [hmain, hpasswords]
    exact h.wiped
  · intro r
    have htoken := h.token r
    unfold tokens at htoken ⊢
    rw [hprocesses, hmain, hlog]
    exact htoken
  · rw [hlog]
    exact h.injected

/-- The next generation has no run yet. -/
theorem Inv.bump (h : Inv s) (hsame : SameWork s s') (hgeneration : s'.generation = s.generation + 1) :
    Inv s' := by
  refine h.of_same hsame (by omega) ?_
  intro heq
  omega

/-- A change of what is shown, or of what only other parts read. -/
theorem Inv.keep (h : Inv s) (hsame : SameWork s s') (hgeneration : s'.generation = s.generation)
    (huser : s'.userName = s.userName) (hstate : s'.state = s.state) : Inv s' := by
  refine h.of_same hsame (Nat.le_of_eq hgeneration.symm) (fun _ => ⟨huser, ?_⟩)
  rw [hstate]
  exact fun hs => hs

theorem Inv.stopAuth (h : Inv s) : Inv (stopAuth s) := by
  obtain ⟨a, c, heq⟩ := stopAuth_eq s
  rw [heq]
  exact h.keep ⟨rfl, rfl, rfl, rfl, rfl, rfl⟩ rfl rfl rfl

theorem fail_same (i18n : String → Str) (s : State) (message : Str) :
    SameWork s (fail i18n s message) := by
  obtain ⟨a, c, heq⟩ := stopAuth_eq s
  unfold fail
  rw [heq]
  exact ⟨rfl, rfl, rfl, rfl, rfl, rfl⟩

theorem reset_same (s : State) : SameWork s (reset s) := by
  obtain ⟨a, c, heq⟩ := stopAuth_eq s
  unfold reset
  rw [heq]
  exact ⟨rfl, rfl, rfl, rfl, rfl, rfl⟩

theorem waitForUser_same (i18n : String → Str) (s : State) : SameWork s (waitForUser i18n s) := by
  obtain ⟨a, c, heq⟩ := stopAuth_eq s
  unfold waitForUser
  rw [heq]
  exact ⟨rfl, rfl, rfl, rfl, rfl, rfl⟩

theorem arm_same (i18n : String → Str) (s : State) : SameWork s (arm i18n s) := by
  obtain ⟨a, c, heq⟩ := stopAuth_eq s
  unfold arm
  rw [heq]
  exact ⟨rfl, rfl, rfl, rfl, rfl, rfl⟩

theorem Inv.fail (h : Inv s) (i18n : String → Str) (message : Str) : Inv (fail i18n s message) :=
  h.bump (fail_same i18n s message) rfl

theorem Inv.reset (h : Inv s) : Inv (reset s) := h.bump (reset_same s) rfl

/-- The run that `StartAuth` launches gets a number and a generation that nothing has yet; who the user
was before does not matter. -/
theorem Inv.startAuth (h : Inv s) (i18n : String → Str) {settings : PCBUAppStorage} {user : Str}
    {isLocked : Bool} (huser : user ≠ []) :
    Inv (startAuth i18n { s with settings := settings, userName := user, isLocked := isLocked }) := by
  obtain ⟨a, c, heq⟩ := stopAuth_eq { s with settings := settings, userName := user, isLocked := isLocked }
  unfold AgentController.startAuth
  rw [if_neg huser, heq]
  have hnew : ∀ r p, s.processes r = some p → r ≠ s.started := by
    intro r p hp
    exact Nat.ne_of_lt (h.process r p hp).1
  have hkept : ∀ {r p}, s.processes r = some p →
      Function.update s.processes s.started
        (some { userName := user, generation := s.generation + 1 : AuthProcess }) r = some p := by
    intro r p hp
    rw [Function.update_of_ne (hnew r p hp)]
    exact hp
  constructor
  · intro r p hp
    rcases update_eq_some hp with ⟨rfl, hnewp⟩ | ⟨-, hold⟩
    · cases hnewp
      exact ⟨Nat.lt_succ_self _, Nat.le_refl _, List.mem_cons_self⟩
    · obtain ⟨hlt, hle, hmem⟩ := h.process r p hold
      exact ⟨Nat.lt_succ_of_lt hlt, Nat.le_succ_of_le hle, List.mem_cons_of_mem _ hmem⟩
  · intro r p hp hgen
    rcases update_eq_some hp with ⟨rfl, hnewp⟩ | ⟨-, hold⟩
    · cases hnewp
      exact ⟨rfl, Or.inl rfl⟩
    · have hle := (h.process r p hold).2.1
      have hgen' : p.generation = s.generation + 1 := hgen
      omega
  · intro r g u hmem
    rcases List.mem_cons.mp hmem with hhead | htail
    · cases hhead
      exact Nat.lt_succ_self _
    · exact Nat.lt_succ_of_lt (h.launched r g u htail)
  · intro k hk
    obtain ⟨p, hp, hrest⟩ := h.queued k hk
    exact ⟨p, hkept hp, hrest⟩
  · intro j hj
    obtain ⟨p, hp, hrest⟩ := h.jobs j hj
    exact ⟨p, hkept hp, hrest⟩
  · exact h.wiped
  · intro r
    by_cases hr : r = s.started
    · -- nothing knows the new run yet
      subst hr
      have hqueue : s.mainQueue.countP (Callback.holds s.started) = 0 := by
        rw [List.countP_eq_zero]
        intro k hk hholds
        obtain ⟨p, hp, -⟩ := h.queued k hk
        exact hnew _ p hp (holds_run hholds)
      have hlog : s.log.countP (Event.injects s.started) = 0 := by
        rw [List.countP_eq_zero]
        intro e he hinjects
        obtain ⟨newer, older, heq⟩ := List.append_of_mem he
        cases e with
        | launched r g u => cases hinjects
        | injecting r g u =>
            have hmem : .launched r g u ∈ s.log := by
              rw [heq]
              exact List.mem_append_right _ (List.mem_cons_of_mem _ (h.injected newer older r g u heq))
            have hlt := h.launched r g u hmem
            have hr : r = s.started := of_decide_eq_true hinjects
            omega
      unfold tokens
      simp only [Function.update_self, List.countP_cons_of_neg (p := Event.injects s.started)
        (a := .launched s.started (s.generation + 1) user) Bool.false_ne_true, hqueue, hlog]
      exact Nat.le_refl _
    · have htoken := h.token r
      unfold tokens at htoken ⊢
      simp only [Function.update_of_ne hr, List.countP_cons_of_neg (p := Event.injects r)
        (a := .launched s.started (s.generation + 1) user) Bool.false_ne_true]
      exact htoken
  · intro newer older r g u hlog
    cases newer with
    | nil => cases hlog
    | cons e newer => exact h.injected newer older r g u (List.cons.inj hlog).2

theorem Inv.startAuth_same (h : Inv s) (i18n : String → Str) : Inv (AgentController.startAuth i18n s) := by
  by_cases huser : s.userName = []
  · unfold AgentController.startAuth
    rw [if_pos huser]
    exact h
  · exact h.startAuth i18n huser

/-! ## Events of the user and the screen -/

section

variable {mode : AgentMode} {i18n : String → Str}

/-- `BeginForUser` for a user that may be another one than before. -/
theorem Inv.beginForUser (h : Inv s) {settings : PCBUAppStorage} {user : Str} {isLocked : Bool}
    (huser : user ≠ []) : Inv (beginForUser mode i18n
      { s with settings := settings, userName := user, isLocked := isLocked }) := by
  unfold AgentController.beginForUser
  split
  · refine h.bump ?_ rfl
    exact arm_same i18n { s with settings := settings, userName := user, isLocked := isLocked }
  · exact h.startAuth i18n huser

theorem Inv.activate (h : Inv s) (settings : PCBUAppStorage) (user : Str) (isLocked : Bool) :
    Inv (activate mode i18n { s with isLocked := isLocked } settings user) := by
  unfold AgentController.activate
  split
  · exact h.keep ⟨rfl, rfl, rfl, rfl, rfl, rfl⟩ rfl rfl rfl
  · split
    · refine h.bump ?_ rfl
      exact waitForUser_same i18n { s with settings := settings, userName := user, isLocked := isLocked }
    · rename_i huser
      exact h.beginForUser huser

theorem Inv.setLocked (h : Inv s) (isLocked : Bool) (settings : PCBUAppStorage) (user : Str) :
    Inv (setLocked mode i18n s isLocked settings user) := by
  unfold AgentController.setLocked
  split
  · exact h
  · split
    · exact h.activate settings user isLocked
    · exact h.bump (reset_same { s with isLocked := isLocked }) rfl

theorem Inv.onCancel (h : Inv s) : Inv (onCancel i18n s) := by
  unfold AgentController.onCancel
  split
  · exact h
  · exact h.fail i18n _

theorem Inv.trackSelectedUser (h : Inv s) (selectedUser : Str) :
    Inv (trackSelectedUser mode i18n s selectedUser) := by
  unfold AgentController.trackSelectedUser
  split
  · exact h
  · split
    · exact h
    · split
      · exact h.bump (waitForUser_same i18n s) rfl
      · rename_i huser
        exact h.beginForUser huser

theorem Inv.onTick (h : Inv s) (isCancelChordPressed : Bool) (selectedUser : Str) :
    Inv (onTick mode i18n s isCancelChordPressed selectedUser) := by
  have hcounted : Inv { s with tickCount := s.tickCount + 1 } :=
    h.keep ⟨rfl, rfl, rfl, rfl, rfl, rfl⟩ rfl rfl rfl
  -- the chord may cancel before the selected user is looked at
  have hcanceled : Inv (cancelOnChord i18n { s with tickCount := s.tickCount + 1 }
      isCancelChordPressed) := by
    unfold cancelOnChord
    split
    · exact hcounted.onCancel
    · exact hcounted
  unfold AgentController.onTick
  dsimp only
  split
  · exact hcanceled.trackSelectedUser selectedUser
  · exact hcanceled

/-! ## Blocks -/

/-- `WipePassword` takes no token away and adds none. -/
theorem Inv.wipePassword (h : Inv s) (run : Nat) : Inv (wipePassword s run) where
  process := h.process
  current := h.current
  launched := h.launched
  queued := h.queued
  jobs := h.jobs
  wiped := by
    intro c hc hwiped
    show Function.update s.passwords run [] c.run = []
    by_cases hrun : c.run = run
    · rw [hrun, Function.update_self]
    · rw [Function.update_of_ne hrun]
      exact h.wiped c hc hwiped
  token := h.token
  injected := h.injected

theorem Inv.dequeue (h : Inv s) (c : Callback) : Inv (dequeue s c) where
  process := h.process
  current := h.current
  launched := h.launched
  queued := fun k hk => h.queued k (List.mem_of_mem_erase hk)
  jobs := h.jobs
  wiped := fun k hk => h.wiped k (List.mem_of_mem_erase hk)
  token := by
    intro r
    have htoken := h.token r
    have hle : (s.mainQueue.erase c).countP (Callback.holds r) ≤
        s.mainQueue.countP (Callback.holds r) := List.Sublist.countP_le List.erase_sublist
    unfold tokens at htoken ⊢
    unfold AgentController.dequeue
    dsimp only
    omega
  injected := h.injected

/-- A block that is taken from the queue takes its token along. -/
theorem Inv.tokens_dequeue (h : Inv s) {c : Callback} {r : Nat} (hc : c ∈ s.mainQueue)
    (hholds : c.holds r = true) : tokens (AgentController.dequeue s c) r = 0 := by
  have htoken := h.token r
  have hperm := (List.perm_cons_erase hc).countP_eq (Callback.holds r)
  rw [List.countP_cons_of_pos hholds] at hperm
  unfold tokens at htoken ⊢
  unfold AgentController.dequeue
  dsimp only
  omega

theorem Inv.enqueue (h : Inv s) {c : Callback} {p : AuthProcess} (hp : s.processes c.run = some p)
    (hgeneration : p.generation = c.generation) (hfinished : c.password = none ∨ p.isFinished = true)
    (hwiped : c.isWiped = true → s.passwords c.run = [])
    (htoken : ∀ r, c.holds r = true → tokens s r = 0) :
    Inv { s with mainQueue := c :: s.mainQueue } where
  process := h.process
  current := h.current
  launched := h.launched
  queued := by
    intro k hk
    rcases List.mem_cons.mp hk with rfl | hk
    · exact ⟨p, hp, hgeneration, hfinished⟩
    · exact h.queued k hk
  jobs := h.jobs
  wiped := by
    intro k hk hkw
    rcases List.mem_cons.mp hk with rfl | hk
    · exact hwiped hkw
    · exact h.wiped k hk hkw
  token := by
    intro r
    have hold := h.token r
    have hnew := htoken r
    unfold tokens at hold hnew ⊢
    dsimp only
    by_cases hholds : c.holds r = true
    · rw [List.countP_cons_of_pos hholds]
      have hzero := hnew hholds
      omega
    · rw [List.countP_cons_of_neg hholds]
      exact hold
  injected := h.injected

/-- `SetState(INJECTING)` uses the token up. -/
theorem Inv.injecting (h : Inv s) {run : Nat} {p : AuthProcess} {shown : Option (Str × OverlayStyle)}
    (hp : s.processes run = some p) (hgeneration : p.generation = s.generation)
    (hfinished : p.isFinished = true) (htoken : tokens s run = 0) :
    Inv { s with
      state := .injecting
      overlay := shown
      injectQueue := (run, s.generation) :: s.injectQueue
      log := .injecting run s.generation s.userName :: s.log } where
  process := by
    intro r q hq
    obtain ⟨hlt, hle, hmem⟩ := h.process r q hq
    exact ⟨hlt, hle, List.mem_cons_of_mem _ hmem⟩
  current := by
    intro r q hq hgen
    exact ⟨(h.current r q hq hgen).1, Or.inr rfl⟩
  launched := by
    intro r g u hmem
    rcases List.mem_cons.mp hmem with hhead | htail
    · cases hhead
    · exact h.launched r g u htail
  queued := h.queued
  jobs := by
    intro j hj
    rcases List.mem_cons.mp hj with rfl | hj
    · exact ⟨p, hp, hgeneration, hfinished⟩
    · exact h.jobs j hj
  wiped := h.wiped
  token := by
    intro r
    have hold := h.token r
    unfold tokens at hold htoken ⊢
    dsimp only
    by_cases hr : (Event.injecting run s.generation s.userName).injects r = true
    · rw [List.countP_cons_of_pos hr]
      rw [show run = r from of_decide_eq_true hr] at htoken
      omega
    · rw [List.countP_cons_of_neg hr]
      exact hold
  injected := by
    intro newer older r g u heq
    cases newer with
    | nil =>
        obtain ⟨hhead, rfl⟩ := List.cons.inj heq
        cases hhead
        -- the run is one of this generation, and so for this user
        have huser := (h.current run p hp hgeneration).1
        have hmem := (h.process run p hp).2.2
        rw [hgeneration, huser] at hmem
        exact hmem
    | cons e newer => exact h.injected newer older r g u (List.cons.inj heq).2

theorem Inv.inject (h : Inv s) {run generation : Nat} {p : AuthProcess} (attempt : Nat)
    (screen : Screen) (hp : s.processes run = some p) (hgeneration : p.generation = generation)
    (hfinished : p.isFinished = true) (htoken : tokens s run = 0) :
    Inv (inject mode i18n s run generation attempt screen) := by
  have hwiped := h.wipePassword run
  unfold AgentController.inject
  split
  · exact hwiped
  · rename_i hcurrent
    rw [not_not] at hcurrent
    split
    · exact hwiped.fail i18n _
    · split
      · exact hwiped.reset
      · split
        · exact hwiped.fail i18n _
        · split
          · exact hwiped.fail i18n _
          · split
            · split
              · exact hwiped.fail i18n _
              · refine h.enqueue (c := .inject run generation (attempt + 1)) hp hgeneration
                  (Or.inr hfinished) nofun ?_
                intro r hholds
                rw [← show run = r from of_decide_eq_true hholds]
                exact htoken
            · subst hcurrent
              exact h.injecting hp hgeneration hfinished htoken

theorem Inv.onAuthFinished (h : Inv s) {run generation : Nat} {p : AuthProcess} (result : AuthResult)
    (screen : Screen) (hp : s.processes run = some p) (hgeneration : p.generation = generation)
    (hfinished : p.isFinished = true) (htoken : tokens s run = 0) :
    Inv (onAuthFinished mode i18n s run generation result screen) := by
  obtain ⟨a, c, heq⟩ := stopAuth_eq s
  have hstopped := h.stopAuth
  unfold AgentController.onAuthFinished
  split
  · exact h.wipePassword run
  · dsimp only
    split
    · rw [heq] at hstopped ⊢
      exact hstopped.inject 0 screen hp hgeneration hfinished htoken
    · split
      · exact (hstopped.wipePassword run).fail i18n _
      · exact (hstopped.wipePassword run).fail i18n _

theorem Inv.runCallback (h : Inv s) {c : Callback} (screen : Screen) (hc : c ∈ s.mainQueue) :
    Inv (runCallback mode i18n (AgentController.dequeue s c) c screen) := by
  have htaken := h.dequeue c
  obtain ⟨p, hp, hgeneration, hfinished⟩ := h.queued c hc
  cases c with
  | authStatus run generation status =>
      show Inv (onAuthStatus _ _ _ _)
      unfold onAuthStatus
      split
      · exact htaken
      · exact htaken.keep ⟨rfl, rfl, rfl, rfl, rfl, rfl⟩ rfl rfl rfl
  | authFinished run generation result =>
      refine htaken.onAuthFinished result screen hp hgeneration (Or.resolve_left hfinished nofun) ?_
      exact h.tokens_dequeue hc (decide_eq_true rfl)
  | inject run generation attempt =>
      refine htaken.inject attempt screen hp hgeneration (Or.resolve_left hfinished nofun) ?_
      exact h.tokens_dequeue hc (decide_eq_true rfl)
  | injectFailed run generation =>
      show Inv (onInjectFailed _ _ _)
      unfold onInjectFailed
      split
      · exact htaken.fail i18n _
      · exact htaken
  | unlockTimeout run generation =>
      show Inv (onUnlockTimeout _ _ _ _ _)
      unfold onUnlockTimeout
      split
      · exact htaken
      · split
        · exact htaken.reset
        · exact htaken.fail i18n _

end

/-! ## Other threads -/

/-- The process hands its token to the block that it posts. -/
theorem Inv.finishAuth (h : Inv s) {run : Nat} {p : AuthProcess} {result : AuthResult}
    (hp : s.processes run = some p) (hfinish : finishAuth s run p result = some s') : Inv s' := by
  unfold AgentController.finishAuth at hfinish
  split at hfinish
  · rename_i hguard
    obtain ⟨hunfinished, -⟩ := hguard
    cases hfinish
    -- a process keeps its generation and its user
    have hkept : ∀ r q, s.processes r = some q → ∃ q', Function.update s.processes run
        (some { p with isFinished := true }) r = some q' ∧ q'.generation = q.generation ∧
          (q.isFinished = true → q'.isFinished = true) := by
      intro r q hq
      by_cases hr : r = run
      · subst hr
        rw [hp] at hq
        cases hq
        exact ⟨_, Function.update_self _ _ _, rfl, fun _ => rfl⟩
      · rw [Function.update_of_ne hr]
        exact ⟨q, hq, rfl, fun hf => hf⟩
    have hprocess : ∀ r q', Function.update s.processes run (some { p with isFinished := true }) r =
        some q' → ∃ q, s.processes r = some q ∧ q'.generation = q.generation ∧
          q'.userName = q.userName := by
      intro r q' hq'
      rcases update_eq_some hq' with ⟨rfl, heq⟩ | ⟨-, hold⟩
      · cases heq
        exact ⟨p, hp, rfl, rfl⟩
      · exact ⟨q', hold, rfl, rfl⟩
    constructor
    · intro r q' hq'
      obtain ⟨q, hq, hgen, huser⟩ := hprocess r q' hq'
      rw [hgen, huser]
      exact h.process r q hq
    · intro r q' hq'
      obtain ⟨q, hq, hgen, huser⟩ := hprocess r q' hq'
      rw [hgen, huser]
      exact h.current r q hq
    · exact h.launched
    · intro c hc
      rcases List.mem_cons.mp hc with rfl | hc
      · exact ⟨_, Function.update_self _ _ _, rfl, Or.inr rfl⟩
      · obtain ⟨q, hq, hgen, hfin⟩ := h.queued c hc
        obtain ⟨q', hq', hgen', hfin'⟩ := hkept c.run q hq
        exact ⟨q', hq', hgen'.trans hgen, hfin.imp (fun hn => hn) hfin'⟩
    · intro j hj
      obtain ⟨q, hq, hgen, hfin⟩ := h.jobs j hj
      obtain ⟨q', hq', hgen', hfin'⟩ := hkept j.1 q hq
      exact ⟨q', hq', hgen'.trans hgen, hfin' hfin⟩
    · intro c hc hwiped
      rcases List.mem_cons.mp hc with rfl | hc
      · cases hwiped
      · have hne : c.run ≠ run := by
          intro hrun
          obtain ⟨q, hq, -, hfin⟩ := h.queued c hc
          rw [hrun, hp] at hq
          cases hq
          rw [hunfinished, password_of_isWiped hwiped] at hfin
          rcases hfin with hfin | hfin
          · cases hfin
          · cases hfin
        show Function.update s.passwords run result.password c.run = []
        rw [Function.update_of_ne hne]
        exact h.wiped c hc hwiped
    · intro r
      have htoken := h.token r
      unfold tokens at htoken ⊢
      dsimp only
      by_cases hr : (Callback.authFinished run p.generation { result with password := [] }).holds r = true
      · rw [List.countP_cons_of_pos hr]
        have hrun : run = r := of_decide_eq_true hr
        subst hrun
        have hbefore : unfinished (s.processes run) = 1 := by
          rw [hp]
          simp only [unfinished, hunfinished, Bool.false_eq_true, if_false]
        rw [Function.update_self, show unfinished (some { p with isFinished := true }) = 0 from rfl]
        omega
      · rw [List.countP_cons_of_neg hr, Function.update_of_ne (fun hrun => hr (decide_eq_true hrun.symm))]
        exact htoken
    · exact h.injected
  · cases hfinish

theorem Inv.typePassword (h : Inv s) {run generation : Nat} (succeeded : Bool)
    (hj : (run, generation) ∈ s.injectQueue) : Inv (typePassword s run generation succeeded) := by
  obtain ⟨p, hp, hgeneration, hfinished⟩ := h.jobs _ hj
  have hwiped := h.wipePassword run
  have htaken : Inv { AgentController.wipePassword s run with
      injectQueue := s.injectQueue.erase (run, generation) } :=
    ⟨hwiped.process, hwiped.current, hwiped.launched, hwiped.queued,
      fun j hj => h.jobs j (List.mem_of_mem_erase hj), hwiped.wiped, hwiped.token, hwiped.injected⟩
  have hempty : (AgentController.wipePassword s run).passwords run = [] := Function.update_self _ _ _
  cases succeeded with
  | true =>
      exact htaken.enqueue (c := .unlockTimeout run generation) hp hgeneration (Or.inr hfinished)
        (fun _ => hempty) nofun
  | false =>
      exact htaken.enqueue (c := .injectFailed run generation) hp hgeneration (Or.inr hfinished)
        (fun _ => hempty) nofun

theorem Inv.step (h : Inv s) {mode : AgentMode} {i18n : String → Str} {l : Step}
    (hstep : step mode i18n s l = some s') : Inv s' := by
  cases l with
  | start settings user =>
      simp only [AgentController.step] at hstep
      split at hstep
      · cases hstep
        exact h.activate settings user s.isLocked
      · cases hstep
  | setLocked isLocked settings user =>
      simp only [AgentController.step] at hstep
      split at hstep
      · cases hstep
        exact h.setLocked isLocked settings user
      · cases hstep
  | activity =>
      cases hstep
      unfold onActivity
      split
      · exact h.startAuth_same i18n
      · exact h
  | retry =>
      cases hstep
      unfold onRetry
      split
      · exact h.startAuth_same i18n
      · exact h
  | cancel =>
      cases hstep
      exact h.onCancel
  | tick isCancelChordPressed selectedUser =>
      cases hstep
      exact h.onTick isCancelChordPressed selectedUser
  | stop =>
      cases hstep
      exact h.reset
  | callback c screen =>
      simp only [AgentController.step] at hstep
      split at hstep
      · rename_i hc
        cases hstep
        exact h.runCallback screen hc
      · cases hstep
  | authStatus run status =>
      obtain ⟨p, hp, hposted⟩ := Option.bind_eq_some_iff.mp hstep
      split at hposted
      · cases hposted
      · cases hposted
        exact h.enqueue (c := .authStatus run p.generation status) hp rfl (Or.inl rfl) nofun nofun
  | authFinished run result =>
      obtain ⟨p, hp, hfinish⟩ := Option.bind_eq_some_iff.mp hstep
      exact h.finishAuth hp hfinish
  | typePassword run generation succeeded =>
      simp only [AgentController.step] at hstep
      split at hstep
      · rename_i hj
        cases hstep
        exact h.typePassword succeeded hj
      · cases hstep

/-! ## Stale blocks -/

section

variable {mode : AgentMode} {i18n : String → Str}

/-- A block of another generation wipes the password that it still has, and does nothing else. -/
theorem runCallback_stale (s : State) {c : Callback} (screen : Screen)
    (hstale : c.generation ≠ s.generation) :
    runCallback mode i18n s c screen = if c.holds c.run then wipePassword s c.run else s := by
  cases c with
  | authStatus run generation status => exact if_pos (Or.inl hstale)
  | authFinished run generation result =>
      have hholds : (Callback.authFinished run generation result).holds run = true := decide_eq_true rfl
      exact (if_pos (Or.inl hstale)).trans (if_pos hholds).symm
  | inject run generation attempt =>
      have hholds : (Callback.inject run generation attempt).holds run = true := decide_eq_true rfl
      exact (if_pos hstale).trans (if_pos hholds).symm
  | injectFailed run generation => exact if_neg (fun hcurrent => hstale hcurrent.1)
  | unlockTimeout run generation => exact if_pos (Or.inl hstale)

theorem Inv.passwords_stale (h : Inv s) {c : Callback} {screen : Screen} {r : Nat}
    (hc : c ∈ s.mainQueue) (hstale : c.generation ≠ s.generation) (hr : c.password = some r) :
    (AgentController.runCallback mode i18n (AgentController.dequeue s c) c screen).passwords r = [] := by
  have hrun : c.run = r := by
    cases c with
    | authStatus run generation status => cases hr
    | authFinished run generation result => exact Option.some.inj hr
    | inject run generation attempt => exact Option.some.inj hr
    | injectFailed run generation => exact Option.some.inj hr
    | unlockTimeout run generation => exact Option.some.inj hr
  rw [runCallback_stale (AgentController.dequeue s c) screen hstale, ← hrun]
  split
  · exact Function.update_self _ _ _
  · rename_i hnot
    refine h.wiped c hc ?_
    cases c with
    | authStatus run generation status => cases hr
    | authFinished run generation result => exact absurd (decide_eq_true rfl) hnot
    | inject run generation attempt => exact absurd (decide_eq_true rfl) hnot
    | injectFailed run generation => rfl
    | unlockTimeout run generation => rfl

/-! ## After a failure -/

/-- The retry button, an activation, and a selected user who is another one than before. -/
def Restarts (mode : AgentMode) (s : State) : Step → Prop
  | .retry => True
  | .start _ _ => True
  | .setLocked isLocked _ _ => isLocked = true
  | .tick _ selectedUser => mode = .loginWindow ∧ selectedUser ≠ s.userName
  | _ => False

/-- The agent has stopped, and has launched no other run than the first `k`. -/
structure Stopped (k : Nat) (s : State) : Prop where
  inv : Inv s
  state : s.state = .failed ∨ s.state = .idle
  started : s.started = k

theorem Stopped.reset {k : Nat} (h : Stopped k s) (isLocked : Bool) :
    Stopped k (reset { s with isLocked := isLocked }) := by
  have hsame := reset_same { s with isLocked := isLocked }
  exact ⟨h.inv.bump hsame rfl, Or.inr rfl, hsame.2.1.trans h.started⟩

theorem Stopped.onTick {k : Nat} (h : Stopped k s) (isCancelChordPressed : Bool) {selectedUser : Str}
    (hsame : ¬ (mode = .loginWindow ∧ selectedUser ≠ s.userName)) :
    onTick mode i18n s isCancelChordPressed selectedUser = { s with tickCount := s.tickCount + 1 } := by
  have hnot : ¬ (s.state = .running ∧ isCancelChordPressed = true) := by
    rintro ⟨hrunning, -⟩
    rcases h.state with hs | hs <;> rw [hrunning] at hs <;> cases hs
  unfold AgentController.onTick cancelOnChord
  rw [if_neg hnot]
  dsimp only
  split
  · rename_i htracks
    have huser : selectedUser = s.userName := by
      by_contra hne
      exact hsame ⟨htracks.1, hne⟩
    unfold trackSelectedUser
    split
    · rfl
    · rfl
  · rfl

/-- In a stopped agent every block is stale. -/
theorem Stopped.stale {k : Nat} (h : Stopped k s) {c : Callback} (hc : c ∈ s.mainQueue) :
    c.generation ≠ s.generation := by
  intro hcurrent
  obtain ⟨p, hp, hgeneration, -⟩ := h.inv.queued c hc
  have hstate := (h.inv.current c.run p hp (hgeneration.trans hcurrent)).2
  rcases h.state with hs | hs <;> rw [hs] at hstate <;> rcases hstate with hst | hst <;> cases hst

theorem Stopped.step {k : Nat} (h : Stopped k s) {l : Step} (hno : ¬ Restarts mode s l)
    (hstep : step mode i18n s l = some s') : Stopped k s' := by
  have hinv := h.inv.step hstep
  cases l with
  | start settings user => exact absurd trivial hno
  | setLocked isLocked settings user =>
      have hunlock : isLocked = false := (Bool.not_eq_true _).mp hno
      subst hunlock
      simp only [AgentController.step] at hstep
      split at hstep
      · cases hstep
        unfold AgentController.setLocked
        split
        · exact h
        · exact h.reset false
      · cases hstep
  | activity =>
      cases hstep
      have hnot : ¬ s.state = .armed := by
        intro harmed
        rcases h.state with hs | hs <;> rw [harmed] at hs <;> cases hs
      rw [show onActivity i18n s = s from if_neg hnot]
      exact h
  | retry => exact absurd trivial hno
  | cancel =>
      cases hstep
      have hquiet : s.state ≠ .running ∧ s.state ≠ .armed := by
        rcases h.state with hs | hs <;> rw [hs] <;> exact ⟨nofun, nofun⟩
      rw [show AgentController.onCancel i18n s = s from if_pos hquiet]
      exact h
  | tick isCancelChordPressed selectedUser =>
      cases hstep
      rw [h.onTick isCancelChordPressed hno] at hinv ⊢
      exact ⟨hinv, h.state, h.started⟩
  | stop =>
      cases hstep
      exact h.reset s.isLocked
  | callback c screen =>
      simp only [AgentController.step] at hstep
      split at hstep
      · rename_i hc
        cases hstep
        refine ⟨hinv, ?_, ?_⟩
        · rw [runCallback_stale (dequeue s c) screen (h.stale hc)]
          split <;> exact h.state
        · rw [runCallback_stale (dequeue s c) screen (h.stale hc)]
          split <;> exact h.started
      · cases hstep
  | authStatus run status =>
      obtain ⟨p, hp, hposted⟩ := Option.bind_eq_some_iff.mp hstep
      split at hposted
      · cases hposted
      · cases hposted
        exact ⟨hinv, h.state, h.started⟩
  | authFinished run result =>
      obtain ⟨p, hp, hfinish⟩ := Option.bind_eq_some_iff.mp hstep
      unfold AgentController.finishAuth at hfinish
      split at hfinish
      · cases hfinish
        exact ⟨hinv, h.state, h.started⟩
      · cases hfinish
  | typePassword run generation succeeded =>
      simp only [AgentController.step] at hstep
      split at hstep
      · cases hstep
        exact ⟨hinv, h.state, h.started⟩
      · cases hstep

/-- The agent ignores stale work: a block of an older generation changes nothing that can be seen and
leaves no password behind; a password is used at most once, in the generation and for the user that its
run was launched for; and after a failure nothing is launched until a restart. -/
theorem ignores_stale_work (mode : AgentMode) (i18n : String → Str) (s : State)
    (h : Reachable (AgentController.step mode i18n) {} s) :
    (∀ c screen s', c.generation < s.generation →
        AgentController.step mode i18n s (.callback c screen) = some s' →
        s'.state = s.state ∧ s'.overlay = s.overlay ∧ ∀ r, c.password = some r → s'.passwords r = []) ∧
      (∀ r, s.log.countP (Event.injects r) ≤ 1) ∧
      (∀ newer older r g u, s.log = newer ++ .injecting r g u :: older → .launched r g u ∈ older) ∧
      (s.state = .failed → ∀ ls s', exec (AgentController.step mode i18n) s ls = some s' →
        Along (AgentController.step mode i18n) (fun t l => ¬ Restarts mode t l) s ls →
        s'.started = s.started) := by
  have hinv : Inv s := h.inv (fun _ _ _ hi hs => hi.step hs) inv_init
  refine ⟨?_, ?_, hinv.injected, ?_⟩
  · intro c screen s' hold hstep
    have hstale : c.generation ≠ s.generation := Nat.ne_of_lt hold
    simp only [AgentController.step] at hstep
    split at hstep
    · rename_i hc
      cases hstep
      refine ⟨?_, ?_, fun r hr => hinv.passwords_stale hc hstale hr⟩
      · rw [runCallback_stale (dequeue s c) screen hstale]
        split <;> rfl
      · rw [runCallback_stale (dequeue s c) screen hstale]
        split <;> rfl
    · cases hstep
  · intro r
    have htoken := hinv.token r
    unfold tokens at htoken
    omega
  · intro hfailed ls s' hexec hno
    have hstopped : Stopped s.started s := ⟨hinv, Or.inl hfailed, rfl⟩
    have hend : Stopped s.started s' :=
      exec_inv_along (fun _ _ _ hi hc hs => hi.step hc hs) hstopped hno hexec
    exact hend.started

/-- A password that could not be typed, a retry, and a cancel after the phone has answered again. -/
def canceledLate : List Step :=
  [.start { macLoginScreen := true } (str "user"),
    .authFinished 0 { exitCode := 0, password := str "secret" },
    .callback (.authFinished 0 1 { exitCode := 0 }) { selectedUser := str "user" },
    .typePassword 0 1 false, .callback (.injectFailed 0 1) {}, .retry,
    .authFinished 1 { exitCode := 0, password := str "secret" }, .cancel]

theorem ignores_stale_work_canceledLate :
    ∃ s, exec (AgentController.step .loginWindow str) {} canceledLate = some s ∧ s.state = .failed ∧
      s.passwords 1 = str "secret" ∧
      s.log = [.launched 1 3 (str "user"), .injecting 0 1 (str "user"), .launched 0 1 (str "user")] ∧
      s.log.countP (Event.injects 0) ≤ 1 ∧
      ∃ s', AgentController.step .loginWindow str s (.callback (.authFinished 1 3 { exitCode := 0 }) {}) =
          some s' ∧ s'.state = .failed ∧ s'.passwords 1 = [] ∧ s'.started = 2 := by
  have hrun : (exec (AgentController.step .loginWindow str) {} canceledLate).any (fun s => decide
      (s.state = .failed ∧ s.passwords 1 = str "secret" ∧
        s.log = [.launched 1 3 (str "user"), .injecting 0 1 (str "user"), .launched 0 1 (str "user")] ∧
        3 < s.generation ∧ s.started = 2 ∧ (AgentController.step .loginWindow str s
          (.callback (.authFinished 1 3 { exitCode := 0 }) {})).isSome = true)) = true := by
    decide +kernel
  obtain ⟨s, hs, hfailed, hpassword, hlog, hold, hstarted, hsome⟩ := exec_of_test hrun
  obtain ⟨s', hstep⟩ := Option.isSome_iff_exists.mp hsome
  obtain ⟨hstale, honce, -, hstopped⟩ := ignores_stale_work .loginWindow str s ⟨_, hs⟩
  obtain ⟨hstate, -, hwiped⟩ := hstale (.authFinished 1 3 { exitCode := 0 }) _ s' hold hstep
  refine ⟨s, hs, hfailed, hpassword, hlog, honce 0, s', hstep, hstate.trans hfailed, hwiped 1 rfl, ?_⟩
  have hsame := hstopped hfailed [_] s' (exec_singleton.trans hstep) ⟨not_false, fun _ _ => trivial⟩
  exact hsame.trans hstarted

end

end

end AgentController

end PcbuDesktop
