import PcbuDesktop.Handler.RunServer

set_option autoImplicit false

/-! # The discovery broadcast

A server is found by the broadcasts of a `UDPUnlockBroadcaster`. Two threads control it: `GetResult`
starts it after the connection threads and stops it at the end, and `RunServer` of the server stops it
when it sees a phone and starts it again when the phone is gone. `RunServer` keeps in `isBroadcasting`
what it takes the broadcaster to do, and begins with `true`, as if `GetResult` had started it already.

A phone that is seen before `GetResult` comes to its `Start` is broadcast to afterwards: the start then
is the last word, and `RunServer` does not stop the broadcaster a second time. In every other order the
broadcaster follows the phase, and `GetResult` never leaves a thread behind.
-/

namespace PcbuDesktop

open Runs

/-! ## `UDPBroadcaster` -/

/-- `connection/UDPBroadcaster.cpp`; `thread` says that `m_Thread` is joinable. Both functions hold
`m_ControlMutex`. -/
structure UDPBroadcaster where
  isRunning : Bool := false
  thread : Bool := false
  deriving DecidableEq, Repr

namespace UDPBroadcaster

/-- `Start()`; `created` says whether the thread can be created. -/
def start (b : UDPBroadcaster) (created : Bool) : UDPBroadcaster :=
  if b.isRunning = true then b
  -- a thread that has ended is joined before the new one
  else if created = true then { isRunning := true, thread := true }
  else { isRunning := false, thread := false }

/-- `Stop()` waits until the thread has ended. -/
def stop (_ : UDPBroadcaster) : UDPBroadcaster := { isRunning := false, thread := false }

/-- What `RunServer` does to the broadcaster. -/
def effect (created : Bool) (b : UDPBroadcaster) : RunEffect → UDPBroadcaster
  | .broadcast true => b.start created
  | .broadcast false => b.stop
  | _ => b

/-- The broadcaster runs, and has a thread to do so. -/
def On (b : UDPBroadcaster) : Prop := b.isRunning = true ∧ b.thread = true

def Off (b : UDPBroadcaster) : Prop := b.isRunning = false ∧ b.thread = false

instance (b : UDPBroadcaster) : Decidable b.On := inferInstanceAs (Decidable (_ ∧ _))

instance (b : UDPBroadcaster) : Decidable b.Off := inferInstanceAs (Decidable (_ ∧ _))

end UDPBroadcaster

/-! ## The two threads -/

/-- The program points of `GetResult` from the threads on. -/
inductive ResultPc where
  /-- `threads.emplace_back` -/
  | threads
  /-- `udpBroadcaster->Start()` -/
  | start
  /-- `cv.wait` -/
  | wait
  /-- `udpBroadcaster->Stop()` -/
  | stop
  /-- `delete udpBroadcaster` -/
  | delete
  /-- the threads are joined, the connections stopped -/
  | join
  | returned
  deriving DecidableEq, Repr

/-- `Start` of `GetResult` is over. -/
def ResultPc.started : ResultPc → Bool
  | .threads | .start => false
  | _ => true

/-- The wait is over. -/
def ResultPc.waited : ResultPc → Bool
  | .stop | .delete | .join | .returned => true
  | _ => false

/-- The broadcaster is stopped for good. -/
def ResultPc.stopped : ResultPc → Bool
  | .delete | .join | .returned => true
  | _ => false

/-- `GetResult` and `RunServer` of its server. `handled` is the phase that `RunServer` has acted on
last, and `completed` says that the server's thread has added itself to `completed`. -/
structure Broadcasting where
  main : ResultPc := .threads
  run : Runner := {}
  handled : Option UnlockPhase := none
  completed : Bool := false
  broadcaster : UDPBroadcaster := {}
  deriving DecidableEq, Repr

inductive BroadcastLabel where
  /-- a step of `GetResult` -/
  | main (created : Bool)
  /-- a step of `RunServer` that reads `answer` -/
  | run (answer : RunInput) (created : Bool)
  /-- `RunServer` throws, and its thread catches the exception -/
  | throws
  /-- `completed.fetch_add(1)` -/
  | complete
  deriving DecidableEq, Repr

/-- The phase that `RunServer` acts on with its next step: `PHONE_UNLOCKING` where the broadcaster is
stopped, any other one where it is started again. -/
def Runner.handles (r : Runner) : Option UnlockPhase :=
  match r.pc with
  | .broadcast => if r.phase = .phoneUnlocking then some r.phase else none
  | .rebroadcast => if r.phase ≠ .phoneUnlocking then some r.phase else none
  | _ => none

def RunPc.isReturned : RunPc → Bool
  | .returned _ => true
  | _ => false

namespace Broadcasting

/-- One step of `GetResult`. The wait is over when all threads have completed, the server's among them. -/
def mainStep (s : Broadcasting) (created : Bool) : Option Broadcasting :=
  match s.main with
  | .threads => some { s with main := .start }
  | .start => some { s with main := .wait, broadcaster := s.broadcaster.start created }
  | .wait => if s.completed = true then some { s with main := .stop } else none
  | .stop => some { s with main := .delete, broadcaster := s.broadcaster.stop }
  -- the destructor calls `Stop()`
  | .delete => some { s with main := .join, broadcaster := s.broadcaster.stop }
  | .join => some { s with main := .returned }
  | .returned => none

def step (windows other : Bool) (s : Broadcasting) : BroadcastLabel → Option Broadcasting
  | .main created => s.mainStep created
  | .run answer created =>
      if s.main = .threads then none
      else
        match runStep windows other s.run answer with
        | none => none
        | some (run, effects) => some { s with
            run := run
            handled := s.run.handles <|> s.handled
            broadcaster := effects.foldl (UDPBroadcaster.effect created) s.broadcaster }
  | .throws =>
      if s.main = .threads ∨ s.run.pc.isReturned = true then none
      else some { s with run := { s.run with pc := .returned (UnlockResult.ofState .unkError) } }
  | .complete =>
      if s.run.pc.isReturned = true then some { s with completed := true } else none

/-- `RunServer` has not left its loop. -/
def Looping (s : Broadcasting) : Prop := s.run.pc.left = false

/-- `RunServer` has handled an observed `PHONE_UNLOCKING`, and has not observed another phase. -/
def Unlocking (s : Broadcasting) : Prop :=
  s.Looping ∧ s.run.phase = .phoneUnlocking ∧ s.handled = some .phoneUnlocking

/-- `RunServer` observes another phase, and has no handled `PHONE_UNLOCKING` to take back. -/
def Waiting (s : Broadcasting) : Prop :=
  s.Looping ∧ s.run.phase ≠ .phoneUnlocking ∧ s.handled ≠ some .phoneUnlocking

/-- The broadcaster follows the phase, and has no thread when `GetResult` returns. -/
structure Follows (s : Broadcasting) : Prop where
  unlocking : s.Unlocking → s.broadcaster.Off
  waiting : s.main.started = true → s.Waiting → s.broadcaster.On
  returned : s.main = .returned → s.broadcaster.Off

/-- `GetResult` does not start the broadcaster under a handled `PHONE_UNLOCKING`, and every start that
needs a thread gets one. -/
def StartsInTime (s : Broadcasting) : BroadcastLabel → Prop
  | .main created => s.main = .start → (created = true ∨ s.broadcaster.isRunning = true) ∧ ¬ s.Unlocking
  | .run _ created => s.run.pc = .rebroadcast → created = true ∨ s.broadcaster.isRunning = true
  | _ => True

instance (s : Broadcasting) : Decidable s.Looping := inferInstanceAs (Decidable (_ = _))

instance (s : Broadcasting) : Decidable s.Unlocking := inferInstanceAs (Decidable (_ ∧ _))

instance (s : Broadcasting) : Decidable s.Waiting := inferInstanceAs (Decidable (_ ∧ _))

instance (s : Broadcasting) (l : BroadcastLabel) : Decidable (StartsInTime s l) :=
  match l with
  | .main _ => inferInstanceAs (Decidable (_ → _))
  | .run _ _ => inferInstanceAs (Decidable (_ → _))
  | .throws => inferInstanceAs (Decidable True)
  | .complete => inferInstanceAs (Decidable True)

end Broadcasting

/-! ## What one step of `RunServer` does to the broadcast -/

/-- The program points from the end of one pass to the next look at the phase. -/
def RunPc.between : RunPc → Bool
  | .start | .loop | .running | .phase => true
  | _ => false

/-- The moves of `RunServer`, as far as the phase and the broadcaster are concerned. -/
inductive PhaseMove (r : Runner) : Runner → List RunEffect → Prop
  | observe (phase : UnlockPhase) (hpc : r.pc = .phase) :
      PhaseMove r { r with pc := .status, phase := phase } []
  | stop (effects : List RunEffect) (hpc : r.pc = .broadcast) (hphase : r.phase = .phoneUnlocking)
      (heff : ∀ created b, effects.foldl (UDPBroadcaster.effect created) b = b.stop) :
      PhaseMove r { r with pc := .poll, isBroadcasting := false } effects
  | restart (hpc : r.pc = .rebroadcast) (hphase : r.phase ≠ .phoneUnlocking) :
      PhaseMove r { r with pc := .loop, isBroadcasting := true } [.broadcast true]
  | pass (pc : RunPc) (state : UnlockState) (effects : List RunEffect)
      (heff : ∀ created b, effects.foldl (UDPBroadcaster.effect created) b = b)
      (hleft : r.pc.left = true → pc.left = true)
      (hbetween : pc.between = true → r.pc.between = true ∨
        (r.isBroadcasting = false → r.phase = .phoneUnlocking))
      (hhandles : ∀ phase, r.handles = some phase →
        (r.isBroadcasting = false ↔ phase = .phoneUnlocking)) :
      PhaseMove r { r with pc := pc, state := state } effects

section

variable {windows other : Bool} {r r' : Runner} {input : RunInput} {effects : List RunEffect}

/-- The step from `old` to `new` is none of the two that look at the phase. -/
def RunPc.passes : RunPc → RunPc → Bool
  | .broadcast, _ | .rebroadcast, _ => false
  | old, new => (!old.left || new.left) && (!new.between || old.between)

theorem phaseMove_of_passes {old new : RunPc} {state : UnlockState} (hpc : r.pc = old)
    (hpasses : RunPc.passes old new = true)
    (heff : ∀ created b, effects.foldl (UDPBroadcaster.effect created) b = b) :
    PhaseMove r { r with pc := new, state := state } effects := by
  have hmove : r.handles = none ∧ (!old.left || new.left) = true ∧
      (!new.between || old.between) = true := by
    unfold RunPc.passes at hpasses
    split at hpasses
    · cases hpasses
    · cases hpasses
    · rename_i hstop hstart
      rw [Bool.and_eq_true] at hpasses
      refine ⟨?_, hpasses⟩
      unfold Runner.handles
      rw [hpc]
      split
      · exact absurd rfl hstop
      · exact absurd rfl hstart
      · rfl
  obtain ⟨hhandles, hleft, hbetween⟩ := hmove
  refine .pass new state effects heff ?_ ?_ ?_
  · intro hold
    rw [hpc] at hold
    rw [hold] at hleft
    exact hleft
  · intro hnew
    rw [hnew] at hbetween
    rw [hpc]
    exact Or.inl hbetween
  · intro phase hphase
    rw [hhandles] at hphase
    cases hphase

/-- An observed `PHONE_UNLOCKING` that does not stop the broadcaster was handled before. -/
theorem phaseMove_not_stopped (hpc : r.pc = .broadcast)
    (hnot : ¬ (r.phase = .phoneUnlocking ∧ r.isBroadcasting = true)) :
    PhaseMove r { r with pc := .poll } [] := by
  refine .pass .poll r.state [] (fun _ _ => rfl) ?_ nofun ?_
  · rw [hpc]
    exact nofun
  · intro phase hphase
    simp only [Runner.handles, hpc] at hphase
    split at hphase
    · next hunlocking =>
        cases hphase
        have hflag : r.isBroadcasting = false := by
          rw [Bool.eq_false_iff]
          exact fun htrue => hnot ⟨hunlocking, htrue⟩
        exact ⟨fun _ => hunlocking, fun _ => hflag⟩
    · cases hphase

/-- Another phase that does not restart the broadcaster was handled before. -/
theorem phaseMove_not_restarted (hpc : r.pc = .rebroadcast)
    (hnot : ¬ (r.phase ≠ .phoneUnlocking ∧ r.isBroadcasting = false)) :
    PhaseMove r { r with pc := .loop } [] := by
  have hphase : r.isBroadcasting = false → r.phase = .phoneUnlocking := by
    intro hflag
    by_contra hne
    exact hnot ⟨hne, hflag⟩
  refine .pass .loop r.state [] (fun _ _ => rfl) ?_ (fun _ => Or.inr hphase) ?_
  · rw [hpc]
    exact nofun
  · intro phase hhandles
    simp only [Runner.handles, hpc] at hhandles
    split at hhandles
    · next hne =>
        cases hhandles
        exact ⟨fun hflag => hphase hflag, fun heq => absurd heq hne⟩
    · cases hhandles

theorem runStep_phaseMove (h : runStep windows other r input = some (r', effects)) :
    PhaseMove r r' effects := by
  unfold runStep at h
  split at h
  · next ok hpc =>
      cases h
      refine phaseMove_of_passes hpc ?_ (fun _ _ => rfl)
      split <;> rfl
  · next st hpc =>
      split at h
      · cases h; exact phaseMove_of_passes hpc rfl (fun _ _ => rfl)
      · cases h; exact phaseMove_of_passes hpc rfl (fun _ _ => rfl)
  · next b hpc =>
      split at h
      · cases h; exact phaseMove_of_passes hpc rfl (fun _ _ => rfl)
      · cases h; exact phaseMove_of_passes hpc rfl (fun _ _ => rfl)
  · next ph hpc => cases h; exact .observe ph hpc
  · next hpc => cases h; exact phaseMove_of_passes hpc rfl (fun _ _ => rfl)
  · next hpc =>
      split at h
      · next hstop =>
          cases h
          refine .stop _ hpc hstop.1 ?_
          intro created b
          cases other <;> rfl
      · next hnot => cases h; exact phaseMove_not_stopped hpc hnot
  · next st hpc =>
      cases h
      refine phaseMove_of_passes hpc ?_ (fun _ _ => rfl)
      split <;> rfl
  · next b hpc =>
      cases h
      refine phaseMove_of_passes hpc ?_ (fun _ _ => rfl)
      split <;> rfl
  · next b hpc =>
      cases h
      refine phaseMove_of_passes hpc rfl ?_
      intro created br
      split <;> rfl
  · next hpc =>
      split at h
      · cases h; exact phaseMove_of_passes hpc rfl (fun _ _ => rfl)
      · cases h
        refine phaseMove_of_passes hpc ?_ (fun _ _ => rfl)
        split <;> rfl
  · next b hpc =>
      split at h
      · cases h; exact phaseMove_of_passes hpc rfl (fun _ _ => rfl)
      · cases h; exact phaseMove_of_passes hpc rfl (fun _ _ => rfl)
  · next b hpc =>
      split at h
      · cases h; exact phaseMove_of_passes hpc rfl (fun _ _ => rfl)
      · cases h; exact phaseMove_of_passes hpc rfl (fun _ _ => rfl)
  · next hpc =>
      split at h
      · next hstart => cases h; exact .restart hpc hstart.1
      · next hnot => cases h; exact phaseMove_not_restarted hpc hnot
  · next b hpc =>
      cases h
      refine phaseMove_of_passes hpc ?_ ?_
      · split <;> rfl
      · intro created br
        split <;> rfl
  · next b hpc =>
      cases h
      refine phaseMove_of_passes hpc rfl ?_
      intro created br
      split <;> rfl
  · next b hpc =>
      cases h
      refine phaseMove_of_passes hpc rfl ?_
      intro created br
      split <;> rfl
  · next hpc =>
      cases h
      refine phaseMove_of_passes hpc rfl ?_
      intro created br
      split <;> rfl
  · next hpc => cases h; exact phaseMove_of_passes hpc rfl (fun _ _ => rfl)
  · next hpc =>
      cases h
      refine phaseMove_of_passes hpc ?_ (fun _ _ => rfl)
      split <;> rfl
  · next b hpc =>
      cases h
      refine phaseMove_of_passes hpc ?_ (fun _ _ => rfl)
      split <;> rfl
  · next st hpc => cases h; exact phaseMove_of_passes hpc rfl (fun _ _ => rfl)
  · next device data pwDec hpc =>
      split at h
      · cases h; exact phaseMove_of_passes hpc rfl (fun _ _ => rfl)
      · cases h; exact phaseMove_of_passes hpc rfl (fun _ _ => rfl)
  · next hpc => cases h; exact phaseMove_of_passes hpc rfl (fun _ _ => rfl)
  · cases h

end

/-! ## The broadcaster over a run -/

theorem UDPBroadcaster.start_isRunning {b : UDPBroadcaster} {created : Bool}
    (h : created = true ∨ b.isRunning = true) : (b.start created).isRunning = true := by
  unfold start
  split
  · assumption
  · next hnot => rw [if_pos (h.resolve_right hnot)]

theorem UDPBroadcaster.start_thread {b : UDPBroadcaster} (created : Bool)
    (h : b.thread = b.isRunning) : (b.start created).thread = (b.start created).isRunning := by
  unfold start
  split
  · exact h
  · split <;> rfl

namespace Broadcasting

/-- What holds in every run. -/
structure Inv (s : Broadcasting) : Prop where
  /-- `isBroadcasting` says which phase was handled last -/
  flag : s.run.isBroadcasting = false ↔ s.handled = some .phoneUnlocking
  between : s.run.pc.between = true → s.run.isBroadcasting = false → s.run.phase = .phoneUnlocking
  thread : s.broadcaster.thread = s.broadcaster.isRunning
  completed : s.completed = true → s.run.pc.left = true
  left : s.main.waited = true → s.run.pc.left = true
  stopped : s.main.stopped = true → s.broadcaster.isRunning = false

/-- What holds in addition if every start is in time. -/
structure InTime (s : Broadcasting) : Prop where
  unlocking : s.run.pc.left = false → s.run.isBroadcasting = false → s.run.phase = .phoneUnlocking →
    s.broadcaster.isRunning = false
  waiting : s.main.started = true → s.run.pc.left = false → s.run.isBroadcasting = true →
    s.broadcaster.isRunning = true

section

variable {windows other : Bool} {s s' : Broadcasting}

/-- The moves of the two threads. -/
inductive Move (s : Broadcasting) : BroadcastLabel → Broadcasting → Prop
  | spawn (created : Bool) (hpc : s.main = .threads) : Move s (.main created) { s with main := .start }
  | start (created : Bool) (hpc : s.main = .start) :
      Move s (.main created) { s with main := .wait, broadcaster := s.broadcaster.start created }
  | wait (created : Bool) (hpc : s.main = .wait) (hdone : s.completed = true) :
      Move s (.main created) { s with main := .stop }
  | stop (created : Bool) (pc : ResultPc) (hpc : s.main.waited = true) (hnew : pc.waited = true) :
      Move s (.main created) { s with main := pc, broadcaster := s.broadcaster.stop }
  | join (created : Bool) (hpc : s.main = .join) : Move s (.main created) { s with main := .returned }
  | run (answer : RunInput) (created : Bool) (r : Runner) (effects : List RunEffect)
      (hmove : PhaseMove s.run r effects) : Move s (.run answer created) { s with
        run := r
        handled := s.run.handles <|> s.handled
        broadcaster := effects.foldl (UDPBroadcaster.effect created) s.broadcaster }
  | throws (pc : RunPc) (hpc : pc.isReturned = true) :
      Move s .throws { s with run := { s.run with pc := pc } }
  | complete (hpc : s.run.pc.isReturned = true) : Move s .complete { s with completed := true }

theorem step_move {l : BroadcastLabel} (h : step windows other s l = some s') : Move s l s' := by
  cases l with
  | main created =>
      simp only [step, mainStep] at h
      split at h
      · next hpc => cases h; exact .spawn created hpc
      · next hpc => cases h; exact .start created hpc
      · next hpc =>
          split at h
          · next hdone => cases h; exact .wait created hpc hdone
          · cases h
      · next hpc => cases h; exact .stop created .delete (by rw [hpc]; rfl) rfl
      · next hpc => cases h; exact .stop created .join (by rw [hpc]; rfl) rfl
      · next hpc => cases h; exact .join created hpc
      · cases h
  | run answer created =>
      simp only [step] at h
      split at h
      · cases h
      · split at h
        · cases h
        · next r effects hrun =>
            cases h
            exact .run answer created r effects (runStep_phaseMove hrun)
  | throws =>
      simp only [step] at h
      split at h
      · cases h
      · cases h
        exact .throws _ rfl
  | complete =>
      simp only [step] at h
      split at h
      · next hpc => cases h; exact .complete hpc
      · cases h

theorem left_of_isReturned {pc : RunPc} (h : pc.isReturned = true) : pc.left = true := by
  cases pc with
  | returned result => rfl
  | _ => cases h

/-- `RunServer` passes the phase and the broadcaster by. -/
theorem Inv.pass (h : Inv s) {created : Bool} {pc : RunPc} {state : UnlockState}
    {effects : List RunEffect}
    (heff : ∀ created b, effects.foldl (UDPBroadcaster.effect created) b = b)
    (hleft : s.run.pc.left = true → pc.left = true)
    (hbetween : pc.between = true → s.run.pc.between = true ∨
      (s.run.isBroadcasting = false → s.run.phase = .phoneUnlocking))
    (hhandles : ∀ phase, s.run.handles = some phase →
      (s.run.isBroadcasting = false ↔ phase = .phoneUnlocking)) :
    Inv { s with
      run := { s.run with pc := pc, state := state }
      handled := s.run.handles <|> s.handled
      broadcaster := effects.foldl (UDPBroadcaster.effect created) s.broadcaster } := by
  rw [heff]
  refine ⟨?_, ?_, h.thread, fun hc => hleft (h.completed hc), fun hw => hleft (h.left hw), h.stopped⟩
  · show s.run.isBroadcasting = false ↔ (s.run.handles <|> s.handled) = some .phoneUnlocking
    cases hphase : s.run.handles with
    | none => exact h.flag
    | some phase =>
        rw [hhandles phase hphase]
        exact ⟨fun heq => congrArg some heq, fun heq => Option.some.inj heq⟩
  · intro hpc hflag
    rcases hbetween hpc with hold | hphase
    · exact h.between hold hflag
    · exact hphase hflag

theorem Inv.move (h : Inv s) {l : BroadcastLabel} (hmove : Move s l s') : Inv s' := by
  -- behind the wait of `GetResult`, `RunServer` is not in its loop any more
  have hrunning : ∀ {pc : RunPc}, s.run.pc = pc → pc.left = false →
      ¬ s.completed = true ∧ ¬ s.main.waited = true := by
    intro pc hpc hleft
    refine ⟨?_, ?_⟩
    · intro hc
      have hl := h.completed hc
      rw [hpc, hleft] at hl
      cases hl
    · intro hw
      have hl := h.left hw
      rw [hpc, hleft] at hl
      cases hl
  have hstopped : ∀ {pc : ResultPc}, pc.stopped = true → pc.waited = true := by
    intro pc hpc
    cases pc with
    | delete => rfl
    | join => rfl
    | returned => rfl
    | _ => cases hpc
  cases hmove with
  | spawn created hpc => exact ⟨h.flag, h.between, h.thread, h.completed, nofun, nofun⟩
  | start created hpc =>
      exact ⟨h.flag, h.between, UDPBroadcaster.start_thread created h.thread, h.completed, nofun, nofun⟩
  | wait created hpc hdone =>
      exact ⟨h.flag, h.between, h.thread, h.completed, fun _ => h.completed hdone, nofun⟩
  | stop created pc hpc hnew =>
      exact ⟨h.flag, h.between, rfl, h.completed, fun _ => h.left hpc, fun _ => rfl⟩
  | join created hpc =>
      refine ⟨h.flag, h.between, h.thread, h.completed, fun _ => h.left ?_, fun _ => h.stopped ?_⟩
      · rw [hpc]
        rfl
      · rw [hpc]
        rfl
  | run answer created r effects hm =>
      cases hm with
      | observe phase hpc =>
          have hin := hrunning hpc rfl
          have hnone : s.run.handles = none := by
            unfold Runner.handles
            rw [hpc]
          refine ⟨?_, nofun, h.thread, fun hc => absurd hc hin.1, fun hw => absurd hw hin.2, h.stopped⟩
          show s.run.isBroadcasting = false ↔ (s.run.handles <|> s.handled) = some .phoneUnlocking
          rw [hnone]
          exact h.flag
      | stop effects hpc hphase heff =>
          have hin := hrunning hpc rfl
          have hsome : s.run.handles = some .phoneUnlocking := by
            unfold Runner.handles
            rw [hpc]
            dsimp only
            rw [if_pos hphase, hphase]
          rw [heff]
          refine ⟨?_, nofun, rfl, fun hc => absurd hc hin.1, fun hw => absurd hw hin.2, fun _ => rfl⟩
          show false = false ↔ (s.run.handles <|> s.handled) = some .phoneUnlocking
          rw [hsome]
          exact ⟨fun _ => rfl, fun _ => rfl⟩
      | restart hpc hphase =>
          have hin := hrunning hpc rfl
          have hsome : s.run.handles = some s.run.phase := by
            unfold Runner.handles
            rw [hpc]
            exact if_pos hphase
          refine ⟨?_, fun _ => nofun, UDPBroadcaster.start_thread created h.thread,
            fun hc => absurd hc hin.1, fun hw => absurd hw hin.2,
            fun hst => absurd (hstopped hst) hin.2⟩
          show true = false ↔ (s.run.handles <|> s.handled) = some .phoneUnlocking
          rw [hsome]
          exact ⟨nofun, fun heq => absurd (Option.some.inj heq) hphase⟩
      | pass pc state effects heff hleft hbetween hhandles => exact h.pass heff hleft hbetween hhandles
  | throws pc hpc =>
      have hleft := left_of_isReturned hpc
      refine ⟨h.flag, ?_, h.thread, fun _ => hleft, fun _ => hleft, h.stopped⟩
      intro hbetween
      cases pc with
      | returned result => cases hbetween
      | _ => cases hpc
  | complete hpc =>
      exact ⟨h.flag, h.between, h.thread, fun _ => left_of_isReturned hpc, h.left, h.stopped⟩

/-- Starts in time keep the broadcaster and the flag together. -/
theorem InTime.move (h : InTime s) (hinv : Inv s) {l : BroadcastLabel} (hcond : StartsInTime s l)
    (hmove : Move s l s') : InTime s' := by
  -- a step of `GetResult` behind its wait
  have hafter : s.main.waited = true → ¬ s.run.pc.left = false := by
    intro hw hleft
    rw [hinv.left hw] at hleft
    cases hleft
  cases hmove with
  | spawn created hpc => exact ⟨h.unlocking, nofun⟩
  | start created hpc =>
      have hstart := hcond hpc
      refine ⟨?_, fun _ _ _ => UDPBroadcaster.start_isRunning hstart.1⟩
      intro hleft hflag hphase
      exact absurd ⟨hleft, hphase, hinv.flag.mp hflag⟩ hstart.2
  | wait created hpc hdone =>
      refine ⟨h.unlocking, fun _ => h.waiting ?_⟩
      rw [hpc]
      rfl
  | stop created pc hpc hnew =>
      exact ⟨fun hleft => absurd hleft (hafter hpc), fun _ hleft => absurd hleft (hafter hpc)⟩
  | join created hpc =>
      have hw : s.main.waited = true := by
        rw [hpc]
        rfl
      exact ⟨fun hleft => absurd hleft (hafter hw), fun _ hleft => absurd hleft (hafter hw)⟩
  | run answer created r effects hm =>
      cases hm with
      | observe phase hpc =>
          have hleft : s.run.pc.left = false := by
            rw [hpc]
            rfl
          refine ⟨?_, fun hs _ => h.waiting hs hleft⟩
          intro _ hflag _
          exact h.unlocking hleft hflag (hinv.between (by rw [hpc]; rfl) hflag)
      | stop effects hpc hphase heff =>
          rw [heff]
          exact ⟨fun _ _ _ => rfl, fun _ _ => nofun⟩
      | restart hpc hphase =>
          exact ⟨fun _ => nofun, fun _ _ _ => UDPBroadcaster.start_isRunning (hcond hpc)⟩
      | pass pc state effects heff hleft hbetween hhandles =>
          rw [heff]
          have hin : pc.left = false → s.run.pc.left = false := by
            intro hpc
            rw [Bool.eq_false_iff]
            intro hold
            rw [hleft hold] at hpc
            cases hpc
          exact ⟨fun hpc => h.unlocking (hin hpc), fun hs hpc => h.waiting hs (hin hpc)⟩
  | throws pc hpc =>
      have hleft : ¬ pc.left = false := by
        rw [left_of_isReturned hpc]
        exact nofun
      exact ⟨fun hin => absurd hin hleft, fun _ hin => absurd hin hleft⟩
  | complete hpc => exact ⟨h.unlocking, h.waiting⟩

theorem Inv.follows (h : Inv s) (htime : InTime s) : Follows s where
  unlocking := by
    rintro ⟨hleft, hphase, hhandled⟩
    have hoff := htime.unlocking hleft (h.flag.mpr hhandled) hphase
    exact ⟨hoff, h.thread.trans hoff⟩
  waiting := by
    rintro hstarted ⟨hleft, -, hhandled⟩
    have hflag : s.run.isBroadcasting = true := by
      rw [← Bool.not_eq_false]
      exact fun hfalse => hhandled (h.flag.mp hfalse)
    have hon := htime.waiting hstarted hleft hflag
    exact ⟨hon, h.thread.trans hon⟩
  returned := by
    intro hpc
    have hoff := h.stopped (by rw [hpc]; rfl)
    exact ⟨hoff, h.thread.trans hoff⟩

end

end Broadcasting

namespace Sample

end Sample

namespace Broadcasting

end Broadcasting

end PcbuDesktop
