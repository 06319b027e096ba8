import PcbuDesktop.Basic.Text
import PcbuDesktop.Lib.Runs

set_option autoImplicit false

/-! # The poll thread of a cloud pairing

`PairingSession::CloudPollThread` (`common_desktop/src/pairing/PairingSession.cpp`) asks the server once
a second whether a phone has joined. It gives up after five minutes, after five polls in a row that do
not reach the server, and at any other answer that is neither a relay nor "pending".

The thread has one step for every statement that depends on the clock, the server or the other threads.
`results` are the answers so far, the last one first.
-/

namespace PcbuDesktop

open Runs

/-! ## The thread -/

structure CloudRelayInfo where
  sessionId : Str := []
  relayUrl : Str := []
  joinToken : Str := []
  deriving DecidableEq, Repr

inductive CloudPairingStatus where
  | ok
  | pending
  | serverUnreachable
  | unsupportedVersion
  | error
  deriving DecidableEq, Repr

/-- `CloudPairingTimeoutSecs` and `CloudPollInterval`, in nanoseconds of the steady clock. -/
def cloudPairingTimeout : Int := 300000000000
def cloudPollInterval : Int := 1000000000

inductive CloudPollPc where
  /-- copies `m_PollSecret` and reads the clock -/
  | start
  /-- `while(m_IsCloudPollRunning)` -/
  | test
  /-- has the pairing expired? -/
  | timeout
  /-- is the next poll due? -/
  | due
  /-- `lastPollTime` is set -/
  | stamp
  /-- `RestClient::PollCloudPairing` -/
  | request
  /-- `if(m_CloudPairingServer)` -/
  | connect (info : CloudRelayInfo)
  /-- `ConnectRelay` -/
  | join (info : CloudRelayInfo)
  /-- `if(m_IsCloudPollRunning)` in front of the report -/
  | failing (key : String)
  /-- `errorCallback` -/
  | callback (key : String)
  | done
  deriving DecidableEq, Repr

/-- The thread with its variables; `now` is the last time that it has read. -/
structure CloudPoll where
  pc : CloudPollPc := .start
  pollSecret : Str := []
  now : Int := 0
  startTime : Int := 0
  lastPollTime : Int := 0
  failures : Nat := 0
  results : List CloudPairingStatus := []
  deriving DecidableEq, Repr

/-- What the environment answers: the clock, the server, or that the thread goes on. -/
inductive CloudPollAnswer where
  | time (now : Int)
  | result (status : CloudPairingStatus) (info : CloudRelayInfo)
  | go
  deriving DecidableEq, Repr

/-- The text that is shown for a status. -/
def pollErrorKey (status : CloudPairingStatus) : String :=
  match status with
  | .serverUnreachable => "error_cloud_unreachable"
  | .unsupportedVersion => "error_protocol_mismatch"
  | _ => "error_cloud_pairing"

/-- What follows an answer of the server. -/
def CloudPoll.answered (p : CloudPoll) (status : CloudPairingStatus) (info : CloudRelayInfo) :
    CloudPoll :=
  let p := { p with results := status :: p.results }
  match status with
  | .ok => { p with pc := .connect info }
  | .pending => { p with pc := .test, failures := 0 }
  | .serverUnreachable =>
      if p.failures + 1 ≥ 5 then { p with pc := .failing (pollErrorKey status), failures := p.failures + 1 }
      else { p with pc := .test, failures := p.failures + 1 }
  | status => { p with pc := .failing (pollErrorKey status) }

/-- One step of `CloudPollThread`, while `m_PollSecret` and `m_IsCloudPollRunning` are as given, and
`m_CloudPairingServer` is there or not. -/
def CloudPoll.step (pollSecret : Str) (isRunning hasServer : Bool) (p : CloudPoll) :
    CloudPollAnswer → Option CloudPoll
  | .time now =>
      if p.now ≤ now then
        match p.pc with
        | .start =>
            some { p with pc := .test, pollSecret := pollSecret, now := now, startTime := now,
                          lastPollTime := now - cloudPollInterval }
        | .timeout =>
            if now - p.startTime > cloudPairingTimeout then
              some { p with pc := .callback "error_cloud_pairing_expired", now := now }
            else some { p with pc := .due, now := now }
        | .due =>
            if now - p.lastPollTime ≥ cloudPollInterval then some { p with pc := .stamp, now := now }
            -- the thread sleeps and begins again
            else some { p with pc := .test, now := now }
        | .stamp => some { p with pc := .request, now := now, lastPollTime := now }
        | _ => none
      else none
  | .result status info =>
      match p.pc with
      | .request => some (p.answered status info)
      | _ => none
  | .go =>
      match p.pc with
      | .test => some { p with pc := if isRunning then .timeout else .done }
      | .connect info => some { p with pc := if hasServer then .join info else .done }
      | .join _ => some { p with pc := .done }
      | .failing key => some { p with pc := if isRunning then .callback key else .done }
      | .callback _ => some { p with pc := .done }
      | _ => none

/-! ## What one step can do -/

inductive CloudPollMove (pollSecret : Str) (isRunning hasServer : Bool) (p : CloudPoll) :
    CloudPoll → Prop
  | begin (now : Int) (hpc : p.pc = .start) :
      CloudPollMove pollSecret isRunning hasServer p
        { p with pc := .test, pollSecret := pollSecret, now := now, startTime := now,
                 lastPollTime := now - cloudPollInterval }
  | expire (now : Int) (hpc : p.pc = .timeout) (hnow : p.now ≤ now)
      (hlate : now - p.startTime > cloudPairingTimeout) :
      CloudPollMove pollSecret isRunning hasServer p
        { p with pc := .callback "error_cloud_pairing_expired", now := now }
  | inTime (now : Int) (hpc : p.pc = .timeout) (hnow : p.now ≤ now)
      (htime : now - p.startTime ≤ cloudPairingTimeout) :
      CloudPollMove pollSecret isRunning hasServer p { p with pc := .due, now := now }
  | isDue (now : Int) (hpc : p.pc = .due) (hnow : p.now ≤ now)
      (hdue : now - p.lastPollTime ≥ cloudPollInterval) :
      CloudPollMove pollSecret isRunning hasServer p { p with pc := .stamp, now := now }
  | sleep (now : Int) (hpc : p.pc = .due) (hnow : p.now ≤ now) :
      CloudPollMove pollSecret isRunning hasServer p { p with pc := .test, now := now }
  | stamp (now : Int) (hpc : p.pc = .stamp) (hnow : p.now ≤ now) :
      CloudPollMove pollSecret isRunning hasServer p
        { p with pc := .request, now := now, lastPollTime := now }
  | answer (status : CloudPairingStatus) (info : CloudRelayInfo) (hpc : p.pc = .request) :
      CloudPollMove pollSecret isRunning hasServer p (p.answered status info)
  | test (hpc : p.pc = .test) :
      CloudPollMove pollSecret isRunning hasServer p
        { p with pc := if isRunning then .timeout else .done }
  | connect (info : CloudRelayInfo) (hpc : p.pc = .connect info) :
      CloudPollMove pollSecret isRunning hasServer p
        { p with pc := if hasServer then .join info else .done }
  | join (info : CloudRelayInfo) (hpc : p.pc = .join info) :
      CloudPollMove pollSecret isRunning hasServer p { p with pc := .done }
  | failing (key : String) (hpc : p.pc = .failing key) :
      CloudPollMove pollSecret isRunning hasServer p
        { p with pc := if isRunning then .callback key else .done }
  | callback (key : String) (hpc : p.pc = .callback key) :
      CloudPollMove pollSecret isRunning hasServer p { p with pc := .done }

section

variable {pollSecret : Str} {isRunning hasServer : Bool} {p p' : CloudPoll}

theorem CloudPoll.step_move {answer : CloudPollAnswer}
    (h : p.step pollSecret isRunning hasServer answer = some p') :
    CloudPollMove pollSecret isRunning hasServer p p' := by
  cases answer with
  | time now =>
      simp only [CloudPoll.step] at h
      split at h
      · next hnow =>
          split at h
          · next hpc => cases h; exact .begin now hpc
          · next hpc =>
              split at h
              · next hlate => cases h; exact .expire now hpc hnow hlate
              · next htime => cases h; exact .inTime now hpc hnow (Int.not_lt.mp htime)
          · next hpc =>
              split at h
              · next hdue => cases h; exact .isDue now hpc hnow hdue
              · cases h; exact .sleep now hpc hnow
          · next hpc => cases h; exact .stamp now hpc hnow
          · cases h
      · cases h
  | result status info =>
      simp only [CloudPoll.step] at h
      split at h
      · next hpc => cases h; exact .answer status info hpc
      · cases h
  | go =>
      simp only [CloudPoll.step] at h
      split at h
      · next hpc => cases h; exact .test hpc
      · next info hpc => cases h; exact .connect info hpc
      · next info hpc => cases h; exact .join info hpc
      · next key hpc => cases h; exact .failing key hpc
      · next key hpc => cases h; exact .callback key hpc
      · cases h

/-- A thread that is done takes no step. -/
theorem CloudPoll.step_alive {answer : CloudPollAnswer}
    (h : p.step pollSecret isRunning hasServer answer = some p') : p.pc ≠ .done := by
  intro hdone
  cases CloudPoll.step_move h <;> simp_all

/-- A report and the connection of the relay are the last things that it does. -/
theorem CloudPoll.step_last {answer : CloudPollAnswer}
    (h : p.step pollSecret isRunning hasServer answer = some p')
    (hpc : (∃ key, p.pc = .callback key) ∨ ∃ info, p.pc = .join info) : p'.pc = .done := by
  cases CloudPoll.step_move h with
  | join info hjoin => rfl
  | callback key hkey => rfl
  | _ => simp_all

/-! ## How often it polls -/

/-- The polls that have been stamped; the one that is running has no answer yet. -/
def CloudPoll.polls (p : CloudPoll) : Int :=
  p.results.length + if p.pc = .request then 1 else 0

/-- Two polls are a second apart, and none begins behind the end of the pairing. -/
structure CloudPoll.Paced (p : CloudPoll) : Prop where
  bound : p.polls ≤ 302
  apart : p.pc ≠ .start → p.startTime + (p.polls - 1) * cloudPollInterval ≤ p.lastPollTime
  read : p.pc ≠ .start → p.lastPollTime ≤ p.now
  fresh : p.pc = .start → p.results = []
  inTime : p.pc = .due ∨ p.pc = .stamp → p.lastPollTime ≤ p.startTime + cloudPairingTimeout
  due : p.pc = .stamp → p.lastPollTime + cloudPollInterval ≤ p.now

/-- A step that is no poll, and changes at most the program point and the time. -/
theorem CloudPoll.Paced.goOn (hp : p.Paced) {pc : CloudPollPc} {now : Int} (hstart : p.pc ≠ .start)
    (hnow : p.now ≤ now) (hold : p.pc ≠ .request) (hpc : pc ≠ .request) (hnew : pc ≠ .start)
    (hin : pc = .due ∨ pc = .stamp → p.lastPollTime ≤ p.startTime + cloudPairingTimeout)
    (hdue : pc = .stamp → p.lastPollTime + cloudPollInterval ≤ now) :
    CloudPoll.Paced { p with pc := pc, now := now } := by
  have hpolls : CloudPoll.polls { p with pc := pc, now := now } = p.polls := by
    simp [CloudPoll.polls, hold, hpc]
  exact ⟨hpolls ▸ hp.bound, fun _ => hpolls ▸ hp.apart hstart, fun _ => Int.le_trans (hp.read hstart) hnow,
    fun h => absurd h hnew, hin, hdue⟩

/-- The answer to a poll leaves the number of polls as it is. -/
theorem CloudPoll.polls_answered (p : CloudPoll) (hpc : p.pc = .request) (status : CloudPairingStatus)
    (info : CloudRelayInfo) :
    (p.answered status info).polls = p.polls ∧ (p.answered status info).now = p.now ∧
      (p.answered status info).startTime = p.startTime ∧
      (p.answered status info).lastPollTime = p.lastPollTime ∧
      (p.answered status info).pc ≠ .start ∧ (p.answered status info).pc ≠ .due ∧
      (p.answered status info).pc ≠ .stamp := by
  cases status with
  | serverUnreachable =>
      unfold CloudPoll.answered CloudPoll.polls
      dsimp only
      split
      · simp
      · simp
  | _ => simp [CloudPoll.answered, CloudPoll.polls, hpc]

theorem CloudPoll.Paced.step (hp : p.Paced) {answer : CloudPollAnswer}
    (h : p.step pollSecret isRunning hasServer answer = some p') : p'.Paced := by
  cases CloudPoll.step_move h with
  | begin now hpc =>
      have hnone : p.results = [] := hp.fresh hpc
      have hzero : CloudPoll.polls
          { p with pc := .test, pollSecret := pollSecret, now := now, startTime := now,
                   lastPollTime := now - cloudPollInterval } = 0 := by
        simp [CloudPoll.polls, hnone]
      refine ⟨?_, fun _ => ?_, fun _ => ?_, fun _ => hnone, nofun, nofun⟩
      · rw [hzero]
        decide
      · rw [hzero]
        show now + (0 - 1) * 1000000000 ≤ now - 1000000000
        omega
      · show now - 1000000000 ≤ now
        omega
  | expire now hpc hnow hlate =>
      exact hp.goOn (by simp [hpc]) hnow (by simp [hpc]) nofun nofun nofun nofun
  | inTime now hpc hnow htime =>
      have hread := hp.read (by simp [hpc])
      exact hp.goOn (by simp [hpc]) hnow (by simp [hpc]) nofun nofun (fun _ => by omega) nofun
  | isDue now hpc hnow hdue =>
      exact hp.goOn (by simp [hpc]) hnow (by simp [hpc]) nofun nofun (fun _ => hp.inTime (.inl hpc))
        (fun _ => by omega)
  | sleep now hpc hnow =>
      exact hp.goOn (by simp [hpc]) hnow (by simp [hpc]) nofun nofun nofun nofun
  | stamp now hpc hnow =>
      have hbefore : p.polls = p.results.length := by simp [CloudPoll.polls, hpc]
      have hafter : CloudPoll.polls { p with pc := .request, now := now, lastPollTime := now } =
          p.polls + 1 := by simp [CloudPoll.polls, hpc]
      have hapart := hp.apart (by simp [hpc])
      have hin := hp.inTime (.inr hpc)
      have hdue := hp.due hpc
      unfold cloudPollInterval cloudPairingTimeout at *
      -- the poll before was in time, so that there were at most 301 before this one
      refine ⟨?_, fun _ => ?_, fun _ => Int.le_refl _, nofun, nofun, nofun⟩
      · rw [hafter]
        omega
      · rw [hafter]
        show p.startTime + (p.polls + 1 - 1) * 1000000000 ≤ now
        omega
  | answer status info hpc =>
      obtain ⟨hpolls, hnow, hstart, hlast, h₁, h₂, h₃⟩ := p.polls_answered hpc status info
      have hne : p.pc ≠ .start := by simp [hpc]
      refine ⟨hpolls ▸ hp.bound, fun _ => ?_, fun _ => ?_, fun h => absurd h h₁,
        fun h => absurd h (by simp [h₂, h₃]), fun h => absurd h h₃⟩
      · rw [hstart, hpolls, hlast]
        exact hp.apart hne
      · rw [hlast, hnow]
        exact hp.read hne
  | test hpc =>
      refine hp.goOn (by simp [hpc]) (Int.le_refl _) (by simp [hpc]) ?_ ?_ ?_ ?_ <;>
        cases isRunning <;> simp
  | connect info hpc =>
      refine hp.goOn (by simp [hpc]) (Int.le_refl _) (by simp [hpc]) ?_ ?_ ?_ ?_ <;>
        cases hasServer <;> simp
  | join info hpc =>
      exact hp.goOn (by simp [hpc]) (Int.le_refl _) (by simp [hpc]) nofun nofun nofun nofun
  | failing key hpc =>
      refine hp.goOn (by simp [hpc]) (Int.le_refl _) (by simp [hpc]) ?_ ?_ ?_ ?_ <;>
        cases isRunning <;> simp
  | callback key hpc =>
      exact hp.goOn (by simp [hpc]) (Int.le_refl _) (by simp [hpc]) nofun nofun nofun nofun

/-! ## Why it gives up -/

/-- Answers that let it go on: no others than "pending" and "unreachable", and nowhere five of the
latter in a row. -/
structure Patient (results : List CloudPairingStatus) (failures : Nat) : Prop where
  others : ∀ status ∈ results, status = .pending ∨ status = .serverUnreachable
  runs : ¬ List.replicate 5 .serverUnreachable <:+: results
  last : (results.takeWhile (· = .serverUnreachable)).length = failures
  few : failures < 5

/-- The answers behind a text that is shown. -/
def GivenUp (p : CloudPoll) (key : String) : Prop :=
  (key = "error_cloud_pairing_expired" ∧ p.now - p.startTime > cloudPairingTimeout ∧
      Patient p.results p.failures) ∨
    ∃ status results failures, p.results = status :: results ∧ key = pollErrorKey status ∧
      Patient results failures ∧
      (status = .unsupportedVersion ∨ status = .error ∨ status = .serverUnreachable ∧ failures = 4)

/-- Why the thread is where it is. -/
def CloudPoll.Reason (p : CloudPoll) : Prop :=
  match p.pc with
  | .start => p.results = [] ∧ p.failures = 0
  | .connect _ | .join _ => ∃ results failures, p.results = .ok :: results ∧ Patient results failures
  | .failing key => key ≠ "error_cloud_pairing_expired" ∧ GivenUp p key
  | .callback key => GivenUp p key
  | .done => True
  | _ => Patient p.results p.failures

theorem Patient.pending {results : List CloudPairingStatus} {failures : Nat}
    (h : Patient results failures) : Patient (.pending :: results) 0 := by
  refine ⟨fun status hmem => ?_, fun hrun => ?_, by simp, by decide⟩
  · rcases List.mem_cons.mp hmem with rfl | hmem
    · exact .inl rfl
    · exact h.others status hmem
  · rcases List.infix_cons_iff.mp hrun with hfront | hbefore
    · cases (List.cons_prefix_cons.mp hfront).1
    · exact h.runs hbefore

/-- The failures in front are counted. -/
theorem le_takeWhile_of_replicate_prefix {n : Nat} {results : List CloudPairingStatus}
    (h : List.replicate n .serverUnreachable <+: results) :
    n ≤ (results.takeWhile (· = .serverUnreachable)).length := by
  obtain ⟨rest, rfl⟩ := h
  rw [List.takeWhile_append_of_pos fun status hmem => decide_eq_true (List.eq_of_mem_replicate hmem),
    List.length_append, List.length_replicate]
  exact Nat.le_add_right ..

theorem Patient.unreachable {results : List CloudPairingStatus} {failures : Nat}
    (h : Patient results failures) (hfew : failures + 1 < 5) :
    Patient (.serverUnreachable :: results) (failures + 1) := by
  refine ⟨fun status hmem => ?_, fun hrun => ?_, by simp [h.last], hfew⟩
  · rcases List.mem_cons.mp hmem with rfl | hmem
    · exact .inr rfl
    · exact h.others status hmem
  · rcases List.infix_cons_iff.mp hrun with hfront | hbefore
    · have hfour := le_takeWhile_of_replicate_prefix (n := 4) (List.cons_prefix_cons.mp hfront).2
      rw [h.last] at hfour
      omega
    · exact h.runs hbefore

theorem CloudPoll.Reason.answered (hp : Patient p.results p.failures) (status : CloudPairingStatus)
    (info : CloudRelayInfo) : (p.answered status info).Reason := by
  cases status with
  | ok => exact ⟨_, _, rfl, hp⟩
  | pending => exact hp.pending
  | serverUnreachable =>
      unfold CloudPoll.answered
      dsimp only
      split
      · next hmany =>
          have hfour : p.failures = 4 := by
            have := hp.few
            omega
          exact ⟨by decide, .inr ⟨_, _, _, rfl, rfl, hp, .inr (.inr ⟨rfl, hfour⟩)⟩⟩
      · next hfew => exact hp.unreachable (by omega)
  | unsupportedVersion => exact ⟨by decide, .inr ⟨_, _, _, rfl, rfl, hp, .inl rfl⟩⟩
  | error => exact ⟨by decide, .inr ⟨_, _, _, rfl, rfl, hp, .inr (.inl rfl)⟩⟩

theorem CloudPoll.Reason.step (hp : p.Reason) {answer : CloudPollAnswer}
    (h : p.step pollSecret isRunning hasServer answer = some p') : p'.Reason := by
  unfold CloudPoll.Reason at hp
  cases CloudPoll.step_move h with
  | begin now hpc =>
      rw [hpc] at hp
      obtain ⟨hnone, hzero⟩ := hp
      show Patient p.results p.failures
      rw [hnone, hzero]
      exact ⟨nofun, by decide, rfl, by decide⟩
  | expire now hpc hnow hlate =>
      rw [hpc] at hp
      exact .inl ⟨rfl, hlate, hp⟩
  | answer status info hpc =>
      rw [hpc] at hp
      exact CloudPoll.Reason.answered hp status info
  | test hpc =>
      rw [hpc] at hp
      cases isRunning with
      | true => exact hp
      | false => exact trivial
  | connect info hpc =>
      rw [hpc] at hp
      cases hasServer with
      | true => exact hp
      | false => exact trivial
  | failing key hpc =>
      rw [hpc] at hp
      cases isRunning with
      | true => exact hp.2
      | false => exact trivial
  | join info hpc => exact trivial
  | callback key hpc => exact trivial
  | inTime now hpc hnow htime => rw [hpc] at hp; exact hp
  | isDue now hpc hnow hdue => rw [hpc] at hp; exact hp
  | sleep now hpc hnow => rw [hpc] at hp; exact hp
  | stamp now hpc hnow => rw [hpc] at hp; exact hp

end

end PcbuDesktop
