import PcbuDesktop.Handler.RunServer

set_option autoImplicit false

/-! # The status messages

`UnlockHandler` shows its progress through `m_PrintMessage`. The two functions `PrintStatus`
(`handler/UnlockHandler.cpp`) share `m_StatusDone`: the first final message closes the gate for
every later one. `RunServer` has two more messages, for a failed connect, which it passes to
`m_PrintMessage` itself, and it reports a failed decryption as final before the results are
merged.

`Handling` is one call of `GetResult`: the threads of `Aggregation`, each inside its
`RunServer` until that returns, and the members of the handler that the messages go through.
What a connection answers to its `RunServer`, the keys, the clock and the static flags, which
every handler of the process shares, are inputs of a step.
-/

namespace PcbuDesktop

open Runs

/-! ## `PrintStatus` -/

/-- The status members of `UnlockHandler`. The last field is history: the arguments of
`m_PrintMessage`, in order. -/
structure Status where
  statusPhase : UnlockPhase := .finished
  /-- the connection, as a number; `nullptr` is `none` -/
  statusOwner : Option Nat := none
  statusMessage : Str := []
  statusDone : Bool := false
  printed : List Str := []
  deriving DecidableEq, Repr

namespace Status

/-- `m_PrintMessage(message)`. -/
def printMessage (s : Status) (message : Str) : Status := { s with printed := s.printed ++ [message] }

/-- `PrintStatus(owner, phase)`. -/
def printPhase (i18n : String → Str) (s : Status) (owner : Nat) (phase : UnlockPhase) : Status :=
  if s.statusDone = true then s
  -- another connection is further on
  else if phase.rank < s.statusPhase.rank ∧ some owner ≠ s.statusOwner then s
  else
    let s' := { s with statusPhase := phase, statusOwner := some owner }
    let message := phase.toText i18n
    if message = [] ∨ message = s.statusMessage then s'
    else { s' with statusMessage := message }.printMessage message

/-- `PrintStatus(message)`. -/
def printStatus (s : Status) (message : Str) : Status :=
  if s.statusDone = true then s
  else { s with statusDone := true, statusMessage := message }.printMessage message

/-- What `RunServer` of the connection `owner` does to the status. -/
def effect (i18n : String → Str) (owner : Nat) (s : Status) : RunEffect → Status
  | .status phase => s.printPhase i18n owner phase
  -- the two messages of a failed connect do not look at `m_StatusDone`
  | .message key => s.printMessage (i18n key)
  | .final key => s.printStatus (i18n key)
  | _ => s

end Status

/-! ## One call of `GetResult` -/

structure Handling where
  windows : Bool
  agg : Aggregation
  runners : Nat → Runner := fun _ => {}
  status : Status := {}

inductive HandlingLabel where
  /-- a step of `RunServer` in thread `i` -/
  | run (i : Nat) (answer : RunInput)
  /-- `RunServer` of thread `i` returns -/
  | ret (i : Nat)
  /-- a statement of `RunServer` in thread `i` throws -/
  | throws (i : Nat)
  /-- a step of thread `i` after `RunServer` -/
  | worker (i : Nat)
  | main
  deriving DecidableEq, Repr

namespace Handling

/-- What the step of `RunServer` reads: the loop condition reads `currentResult`. -/
def input (s : Handling) (i : Nat) (answer : RunInput) : RunInput :=
  match (s.runners i).pc with
  | .loop => .state s.agg.currentResult.state
  | _ => answer

/-- The step of `RunServer` in thread `i`, with its effects. -/
def runner (s : Handling) (i : Nat) (answer : RunInput) : Option (Runner × List RunEffect) :=
  if i < s.agg.numServers ∧ s.agg.workers i = .running then
    runStep s.windows (s.agg.isOtherClient i) (s.runners i) (s.input i answer)
  else none

def step (i18n : String → Str) (s : Handling) : HandlingLabel → Option Handling
  | .run i answer =>
      (s.runner i answer).map (fun (r, effects) =>
        { s with
          runners := Function.update s.runners i r
          status := effects.foldl (Status.effect i18n i) s.status })
  | .ret i =>
      match (s.runners i).pc with
      | .returned result =>
          (s.agg.step (.ret i (some result))).map (fun agg => { s with agg := agg })
      | _ => none
  | .throws i =>
      match (s.runners i).pc with
      | .returned _ => none
      | _ => (s.agg.step (.ret i none)).map (fun agg => { s with agg := agg })
  | .worker i =>
      (s.agg.step (.worker i)).map (fun agg =>
        { s with
          agg := agg
          -- printed after the section, when the lock is free again
          status := match s.agg.workers i with
            | .print true finalState _ => s.status.printStatus (finalState.toText i18n)
            | _ => s.status })
  | .main => (s.agg.step .main).map (fun agg => { s with agg := agg })

/-- `GetResult` of a new handler when it starts its threads. -/
def start (windows : Bool) (numServers : Nat) (isOtherClient : Nat → Bool) : Handling :=
  { windows := windows, agg := Aggregation.start numServers isOtherClient }

end Handling

/-! ## Which result is stored -/

/-- The phone's answer that was merged last, with its thread. -/
def lastAnswer (order : List (Nat × UnlockResult)) : Option (Nat × UnlockResult) :=
  (order.filter (fun o => isPhoneAnswer o.2.state)).getLast?

theorem lastAnswer_append (order : List (Nat × UnlockResult)) (o : Nat × UnlockResult) :
    lastAnswer (order ++ [o]) = if isPhoneAnswer o.2.state then some o else lastAnswer order := by
  cases h : isPhoneAnswer o.2.state <;> simp [lastAnswer, List.filter_append, h]

theorem lastAnswer_mem {order : List (Nat × UnlockResult)} {o : Nat × UnlockResult}
    (h : lastAnswer order = some o) : o ∈ order :=
  (List.mem_filter.mp (List.mem_of_getLast? h)).1

/-- Without a success, the last answer of a phone is what is stored. -/
theorem mergedResult_lastAnswer {isOther : Nat → Bool} {order : List (Nat × UnlockResult)}
    {o : Nat × UnlockResult} (hno : ∀ x ∈ order, x.2.state ≠ .success)
    (ho : lastAnswer order = some o) :
    mergedResult isOther order = o.2 ∧ isPhoneAnswer o.2.state = true := by
  induction order using List.reverseRecOn with
  | nil => cases ho
  | append_singleton order x ih =>
      have hno' : ∀ y ∈ order, y.2.state ≠ .success :=
        fun y hy => hno y (List.mem_append_left _ hy)
      have hx : x.2.state ≠ .success := hno x (by simp)
      rw [mergedResult_append]
      rw [lastAnswer_append] at ho
      by_cases hxa : isPhoneAnswer x.2.state = true
      · rw [if_pos hxa] at ho
        cases ho
        -- an answer replaces everything but a success
        have hne : (mergedResult isOther order).state ≠ .success := (mergeSpec order).ne_success hno'
        exact ⟨by simp [mergeResult, hxa, hne], hxa⟩
      · rw [if_neg hxa] at ho
        obtain ⟨hm, ha⟩ := ih hno' ho
        exact ⟨by simp [mergeResult, hx, hxa, hm, ha], ha⟩

theorem finalResult_lastAnswer {isOther : Nat → Bool} {order : List (Nat × UnlockResult)}
    {o : Nat × UnlockResult} (hno : ∀ x ∈ order, x.2.state ≠ .success)
    (ho : lastAnswer order = some o) : finalResult isOther order = o.2 := by
  obtain ⟨hm, ha⟩ := (mergedResult_lastAnswer hno ho : mergedResult isOther order = o.2 ∧ _)
  have hne : o.2.state ≠ .unknown := by
    intro hu
    rw [hu] at ha
    cases ha
  rw [finalResult, hm, if_neg hne]

section

variable {s s' : Aggregation} {l : AggregateLabel} {st : UnlockState}

/-- A merged success is the stored result, also between the two stores of the section. -/
theorem AggregateInv.stored_success (h : AggregateInv s)
    (hs : ∃ o ∈ s.order, o.2.state = .success) : s.currentResult.state = .success := by
  have hm : (mergedResult s.isOtherClient s.order).state = .success := (mergeSpec s.order).success hs
  have hshared := h.shared
  unfold Aggregation.SectionInv at hshared
  split at hshared
  · rw [hshared.2, Aggregation.expected]
    split
    · rw [finalResult, if_neg (by rw [hm]; simp), hm]
    · exact hm
  · rw [hshared.1, hm]

/-- Nobody is going to enter the section when all threads have left it. -/
theorem AggregateInv.merged_of_complete (h : AggregateInv s) (hc : s.completed = s.numServers)
    (i : Nat) (hi : i < s.numServers) : (s.workers i).hasMerged = true := by
  by_contra hm
  have hlt := h.length_lt hi (by simpa using hm)
  have hle := h.completed_le
  omega

/-- The state of the stored result does not change any more. -/
def Settled (s : Aggregation) (st : UnlockState) : Prop :=
  s.currentResult.state = st ∧
    (st = .success ∨ (s.completed = s.numServers ∧ s.resultMutex = none))

theorem Settled.step (hI : AggregateInv s) (h : Settled s st) (hs : s.step l = some s') :
    Settled s' st := by
  obtain ⟨hcur, hwhy⟩ := h
  -- in the section there is a holder, so the state is settled because it is `SUCCESS`
  have hsection : ∀ i, (s.workers i).inSection = true → st = .success := by
    intro i hin
    have hmx := hI.holder i hin
    rcases hwhy with hst | ⟨-, hfree⟩
    · exact hst
    · rw [hfree] at hmx
      cases hmx
  cases Aggregation.step_move hs with
  | ret i outcome r hr hi hpc => exact ⟨hcur, hwhy⟩
  | enter i r hpc hfree =>
      refine ⟨hcur, Or.inl ?_⟩
      rcases hwhy with hst | ⟨hc, -⟩
      · exact hst
      · have hm := hI.merged_of_complete hc i (hI.bound i (by simp [hpc]))
        rw [hpc] at hm
        cases hm
  | merge i r hpc =>
      have hst := hsection i (by rw [hpc]; rfl)
      refine ⟨?_, Or.inl hst⟩
      show (mergeResult (s.isOtherClient i) s.currentResult r).state = st
      rw [hst] at hcur ⊢
      by_cases hr : r.state = .success
      · simp [mergeResult, hr]
      · simp [mergeResult, hr, hcur]
  | count i r hpc => exact ⟨hcur, Or.inl (hsection i (by rw [hpc]; rfl))⟩
  | close i r isLast hpc =>
      have hst := hsection i (by rw [hpc]; rfl)
      refine ⟨?_, Or.inl hst⟩
      rw [hst] at hcur ⊢
      simp [Aggregation.close, hcur]
  | print i f st' isLast hpc => exact ⟨hcur, hwhy⟩
  | notify i isLast hpc => exact ⟨hcur, hwhy⟩
  | wake hall => exact ⟨hcur, hwhy⟩
  | returns hall => exact ⟨hcur, hwhy⟩

/-- The thread is going to call `PrintStatus` with the final state. -/
def WorkerPc.owesPrint : WorkerPc → Bool
  | .count r => r.state = .success
  | .close r isLast => r.state = .success || isLast
  | .print isFinalResult _ _ => isFinalResult
  | _ => false

/-- What a thread is going to print is settled. -/
def PrintsSettled (s : Aggregation) : Prop :=
  ∀ i st isLast, s.workers i = .print true st isLast → Settled s st

/-- As long as no final message was printed, some thread still owes it: every thread that
merged a success, and one of them when all are counted. -/
structure Owing (s : Aggregation) : Prop where
  success : ∀ o ∈ s.order, o.2.state = .success → (s.workers o.1).owesPrint = true
  last : s.completed = s.numServers → ∃ i, (s.workers i).owesPrint = true

theorem PrintsSettled.of_goto (hI : AggregateInv s) (h : PrintsSettled s) (hs : s.step l = some s')
    {i : Nat} {pc : WorkerPc} (hw : s'.workers = Function.update s.workers i pc)
    (hpc : ∀ st isLast, pc = .print true st isLast → Settled s' st) : PrintsSettled s' := by
  intro j st isLast hj
  rw [hw] at hj
  by_cases hji : j = i
  · subst hji
    rw [Function.update_self] at hj
    exact hpc st isLast hj
  · rw [Function.update_of_ne hji] at hj
    exact (h j st isLast hj).step hI hs

/-- The result that a thread prints when it leaves the section is settled. -/
theorem AggregateInv.settled_close (hI : AggregateInv s) {i : Nat} {r : UnlockResult}
    {isLast : Bool} (hpc : s.workers i = .close r isLast) {isLast' : Bool}
    (hprint : (s.close i r isLast).workers i = .print true st isLast') :
    Settled (s.close i r isLast) st := by
  obtain ⟨-, -, ⟨init, ho⟩, -, hlast⟩ := hI.at_close hpc
  simp only [Aggregation.close, Aggregation.goto, Function.update_self, WorkerPc.print.injEq,
    decide_eq_true_eq] at hprint
  obtain ⟨hfinal, hst, -⟩ := hprint
  refine ⟨hst, ?_⟩
  rcases hfinal with hr | ⟨hl, -⟩
  · -- the thread's own success is the stored one
    left
    have hsucc := hI.stored_success ⟨(i, r), by simp [ho], hr⟩
    rw [← hst]
    simp [hsucc]
  · exact Or.inr ⟨hlast.mp hl, rfl⟩

theorem PrintsSettled.step (hI : AggregateInv s) (h : PrintsSettled s) (hs : s.step l = some s') :
    PrintsSettled s' := by
  cases Aggregation.step_move hs with
  | close i r isLast hpc =>
      refine h.of_goto hI hs rfl ?_
      rintro st isLast' hprint
      exact hI.settled_close hpc (by rw [← hprint]; simp [Aggregation.close, Aggregation.goto])
  | wake hall => exact h
  | returns hall => exact h
  | _ => exact h.of_goto hI hs rfl (by rintro st isLast ⟨⟩)

theorem Owing.of_goto (h : Owing s) {i : Nat} {pc : WorkerPc}
    (hw : s'.workers = Function.update s.workers i pc) (ho : s'.order = s.order)
    (hc : s'.completed = s'.numServers → s.completed = s.numServers)
    (hpc : (s.workers i).owesPrint = true → pc.owesPrint = true) : Owing s' := by
  -- only thread `i` moved, and it keeps its debt
  have hkeep : ∀ j, (s.workers j).owesPrint = true → (s'.workers j).owesPrint = true := by
    intro j hj
    rw [hw]
    by_cases hji : j = i
    · subst hji
      rw [Function.update_self]
      exact hpc hj
    · rw [Function.update_of_ne hji]
      exact hj
  refine ⟨?_, ?_⟩
  · intro o hmem hsucc
    exact hkeep o.1 (h.success o (ho ▸ hmem) hsucc)
  · intro hall
    obtain ⟨j, hj⟩ := h.last (hc hall)
    exact ⟨j, hkeep j hj⟩

/-- A success that is stored while a thread without one leaves the section is another
thread's. -/
theorem AggregateInv.others_success (hI : AggregateInv s) {i : Nat} {r : UnlockResult}
    {isLast : Bool} (hpc : s.workers i = .close r isLast)
    (hcur : s.currentResult.state = .success) (hr : r.state ≠ .success) :
    (∃ o ∈ s.order, o.2.state = .success) ∧ ∀ o ∈ s.order, o.2.state = .success → o.1 ≠ i := by
  obtain ⟨-, hmerged, ⟨init, ho⟩, -, -⟩ := hI.at_close hpc
  rw [hmerged] at hcur
  have hown : s.outcomes i = some r := hI.recorded (i, r) (by simp [ho])
  refine ⟨?_, ?_⟩
  · by_contra hno
    refine (mergeSpec s.order).ne_success ?_ hcur
    intro o hmem hsucc
    exact hno ⟨o, hmem, hsucc⟩
  · rintro o hmem hsucc rfl
    have hsame := hI.recorded o hmem
    rw [hown] at hsame
    rw [Option.some.inj hsame] at hr
    exact hr hsucc

theorem Owing.step (hI : AggregateInv s) (h : Owing s) (hs : s.step l = some s')
    (hl : ∀ i st isLast, l = .worker i → s.workers i ≠ .print true st isLast) : Owing s' := by
  cases Aggregation.step_move hs with
  | ret i outcome r hr hi hpc => exact h.of_goto rfl rfl id (by rw [hpc]; exact id)
  | enter i r hpc hfree => exact h.of_goto rfl rfl id (by rw [hpc]; exact id)
  | merge i r hpc =>
      have hi : i < s.numServers := hI.bound i (by simp [hpc])
      have hnot := hI.not_mem_order (i := i) (by rw [hpc]; rfl)
      refine ⟨?_, ?_⟩
      · intro o ho hsucc
        rcases List.mem_append.mp ho with hold | hnew
        · have hoi : o.1 ≠ i := by
            rintro rfl
            exact hnot (List.mem_map_of_mem hold)
          show (Function.update s.workers i (.count r) o.1).owesPrint = true
          rw [Function.update_of_ne hoi]
          exact h.success o hold hsucc
        · rw [List.mem_singleton.mp hnew] at hsucc ⊢
          simpa [Aggregation.goto, WorkerPc.owesPrint] using hsucc
      · intro hc
        have hm := hI.merged_of_complete hc i hi
        rw [hpc] at hm
        cases hm
  | count i r hpc =>
      -- the thread that completes the count owes the message as the last one
      by_cases hlast : s.completed + 1 = s.numServers
      · have howes : ((s.goto i (.close r true)).workers i).owesPrint = true := by
          simp [Aggregation.goto, WorkerPc.owesPrint]
        refine ⟨?_, fun _ => ⟨i, by simpa [hlast] using howes⟩⟩
        intro o ho hsucc
        by_cases hoi : o.1 = i
        · simpa [hoi, hlast] using howes
        · show (Function.update s.workers i _ o.1).owesPrint = true
          rw [Function.update_of_ne hoi]
          exact h.success o ho hsucc
      · refine h.of_goto rfl rfl (fun hall => absurd hall hlast) ?_
        rw [hpc]
        intro hr
        have hsucc : r.state = .success := by simpa [WorkerPc.owesPrint] using hr
        simp [WorkerPc.owesPrint, hsucc]
  | close i r isLast hpc =>
      by_cases hkeep : r.state = .success ∨ s.currentResult.state ≠ .success
      · refine h.of_goto rfl rfl id ?_
        rw [hpc]
        intro howes
        have hor : r.state = .success ∨ isLast = true := by simpa [WorkerPc.owesPrint] using howes
        rcases hor with hr | hl
        · simp [WorkerPc.owesPrint, hr]
        · rcases hkeep with hr | hne
          · simp [WorkerPc.owesPrint, hr]
          · simp [WorkerPc.owesPrint, hl, hne]
      · -- the success of another thread is stored, which prints it itself
        obtain ⟨hr, hcur⟩ := not_or.mp hkeep
        have hother := hI.others_success hpc (not_not.mp hcur) hr
        have hkept : ∀ o ∈ s.order, o.2.state = .success →
            ((s.close i r isLast).workers o.1).owesPrint = true := by
          intro o ho hsucc
          show (Function.update s.workers i _ o.1).owesPrint = true
          rw [Function.update_of_ne (hother.2 o ho hsucc)]
          exact h.success o ho hsucc
        obtain ⟨o, ho, hsucc⟩ := hother.1
        exact ⟨hkept, fun _ => ⟨o.1, hkept o ho hsucc⟩⟩
  | print i f st isLast hpc =>
      -- a thread that prints pays its debt, which `hl` excludes
      have hf : f ≠ true := by
        rintro rfl
        exact hl i st isLast rfl hpc
      refine h.of_goto rfl rfl id ?_
      rw [hpc]
      exact fun hf' => absurd hf' hf
  | notify i isLast hpc => exact h.of_goto rfl rfl id (by rw [hpc]; exact id)
  | wake hall => exact ⟨h.success, h.last⟩
  | returns hall => exact ⟨h.success, h.last⟩

end

/-! ## What one step can do -/

/-- `RunServer` returned the `DATA_ERROR` of a failed decryption: the sampled state is still
`SUCCESS`. -/
def Runner.decryptFailed (r : Runner) : Bool :=
  r.pc = .returned (.ofState .dataError) && r.state = .success

theorem Runner.decryptFailed_iff {r : Runner} :
    r.decryptFailed = true ↔ r.pc = .returned (.ofState .dataError) ∧ r.state = .success := by
  simp [Runner.decryptFailed]

theorem Runner.not_decryptFailed {r : Runner} (h : ∀ result, r.pc ≠ .returned result) :
    r.decryptFailed = false := by
  simp [Runner.decryptFailed, h]

/-- The step that returns after a failed decryption is the only one with a final message. -/
theorem runStep_final {windows other : Bool} {r r' : Runner} {input : RunInput}
    {effects : List RunEffect} (h : runStep windows other r input = some (r', effects))
    (hfail : r.pc = .decryptFailed → r.state = .success) :
    (r.pc = .decryptFailed ∧ r'.decryptFailed = true ∧
      effects = [.final "error_password_decrypt"]) ∨
    (r'.decryptFailed = false ∧ ∀ e ∈ effects, ∀ key, e ≠ .final key) := by
  have hsilent : ∀ effects : List RunEffect, (∀ e ∈ effects, e.silent = true) →
      ∀ e ∈ effects, ∀ key, e ≠ .final key := by
    rintro effects hall e he key rfl
    exact Bool.noConfusion (hall _ he)
  cases runStep_move h with
  | startFailed hpc => exact Or.inr ⟨rfl, by simp⟩
  | inside input r' effects hold hnew hstate hs =>
      refine Or.inr ⟨Runner.not_decryptFailed ?_, hsilent _ hs⟩
      intro result hret
      rw [hret] at hnew
      cases hnew
  | status hpc => exact Or.inr ⟨rfl, by simp⟩
  | poll state pc hpc hnew =>
      refine Or.inr ⟨Runner.not_decryptFailed ?_, by simp⟩
      rintro result rfl
      cases hnew
  | retry input effects hpc heff =>
      refine Or.inr ⟨rfl, ?_⟩
      rcases heff with rfl | rfl
      · simp
      · simp
  | result input hpc hne => exact Or.inr ⟨rfl, by simp⟩
  | giveUp input state hold hst => exact Or.inr ⟨rfl, by simp⟩
  | after input pc effects hold hnew hret hdec hrepoll hs =>
      exact Or.inr ⟨Runner.not_decryptFailed hret, hsilent _ hs⟩
  | netDown input hpc => exact Or.inr ⟨rfl, by simp⟩
  | finish hpc =>
      refine Or.inr ⟨rfl, ?_⟩
      split
      · simp
      · simp
  | latest state hpc => exact Or.inr ⟨rfl, by simp⟩
  | decryptFails device data hpc hs => exact Or.inr ⟨rfl, by simp⟩
  | returned device data pwDec hpc hnot =>
      refine Or.inr ⟨?_, by simp⟩
      -- the result has the sampled state, which cannot be both
      by_contra hd
      obtain ⟨hret, hsucc⟩ := Runner.decryptFailed_iff.mp (by simpa using hd)
      have hstate : r.state = .dataError := congrArg UnlockResult.state (RunPc.returned.inj hret)
      rw [show r.state = .success from hsucc] at hstate
      cases hstate
  | returnedFailed hpc =>
      exact Or.inl ⟨hpc, Runner.decryptFailed_iff.mpr ⟨rfl, hfail hpc⟩, rfl⟩

namespace Status

variable {i18n : String → Str} {s : Status} {owner : Nat} {effects : List RunEffect}

/-- Behind the closed gate only the direct messages are printed. -/
theorem effects_done (hdone : s.statusDone = true)
    (hmsg : ∀ e ∈ effects, ∀ key, e ≠ .message key) :
    effects.foldl (Status.effect i18n owner) s = s := by
  induction effects with
  | nil => rfl
  | cons e effects ih =>
      have hone : s.effect i18n owner e = s := by
        cases e with
        | status phase => simp [effect, printPhase, hdone]
        | message key => exact absurd rfl (hmsg (.message key) (by simp) key)
        | final key => simp [effect, printStatus, hdone]
        | _ => rfl
      rw [List.foldl_cons, hone]
      exact ih (fun e he => hmsg e (by simp [he]))

theorem printPhase_done (phase : UnlockPhase) :
    (s.printPhase i18n owner phase).statusDone = s.statusDone := by
  unfold printPhase
  split
  · rfl
  · split
    · rfl
    · dsimp only
      split
      · rfl
      · rfl

/-- Only a final message closes the gate. -/
theorem effects_statusDone (hfinal : ∀ e ∈ effects, ∀ key, e ≠ .final key) :
    (effects.foldl (Status.effect i18n owner) s).statusDone = s.statusDone := by
  induction effects generalizing s with
  | nil => rfl
  | cons e effects ih =>
      have hone : (s.effect i18n owner e).statusDone = s.statusDone := by
        cases e with
        | status phase => exact printPhase_done phase
        | final key => exact absurd rfl (hfinal (.final key) (by simp) key)
        | _ => rfl
      rw [List.foldl_cons, ih (fun e he => hfinal e (by simp [he])), hone]

theorem printStatus_statusDone (message : Str) : (s.printStatus message).statusDone = true := by
  unfold printStatus
  split
  · next hdone => exact hdone
  · rfl

theorem printStatus_last (hopen : s.statusDone = false) (message : Str) :
    (s.printStatus message).printed.getLast? = some message := by
  simp [printStatus, hopen, printMessage]

end Status

/-- The moves of one call of `GetResult`. -/
inductive HandlingMove (i18n : String → Str) (s : Handling) : HandlingLabel → Handling → Prop
  | run (i : Nat) (answer : RunInput) (r : Runner) (effects : List RunEffect)
      (hi : i < s.agg.numServers) (hpc : s.agg.workers i = .running)
      (hrun : s.runner i answer = some (r, effects)) :
      HandlingMove i18n s (.run i answer)
        { s with
          runners := Function.update s.runners i r
          status := effects.foldl (Status.effect i18n i) s.status }
  /-- `RunServer` returned or threw -/
  | ret (l : HandlingLabel) (i : Nat) (outcome : Option UnlockResult) (agg : Aggregation)
      (hstep : s.agg.step (.ret i outcome) = some agg)
      (hout : ∀ result, (s.runners i).pc = .returned result → outcome = some result) :
      HandlingMove i18n s l { s with agg := agg }
  | print (i : Nat) (finalState : UnlockState) (isLast : Bool) (agg : Aggregation)
      (hpc : s.agg.workers i = .print true finalState isLast)
      (hstep : s.agg.step (.worker i) = some agg) :
      HandlingMove i18n s (.worker i)
        { s with agg := agg, status := s.status.printStatus (finalState.toText i18n) }
  | worker (i : Nat) (agg : Aggregation) (hstep : s.agg.step (.worker i) = some agg)
      (hnot : ∀ finalState isLast, s.agg.workers i ≠ .print true finalState isLast) :
      HandlingMove i18n s (.worker i) { s with agg := agg }
  | main (agg : Aggregation) (hstep : s.agg.step .main = some agg) :
      HandlingMove i18n s .main { s with agg := agg }

theorem Handling.step_move {i18n : String → Str} {s s' : Handling} {l : HandlingLabel}
    (h : s.step i18n l = some s') : HandlingMove i18n s l s' := by
  cases l with
  | run i answer =>
      obtain ⟨⟨r, effects⟩, hrun, rfl⟩ := Option.map_eq_some_iff.mp h
      have henabled : i < s.agg.numServers ∧ s.agg.workers i = .running := by
        by_contra hnot
        simp [Handling.runner, hnot] at hrun
      exact .run i answer r effects henabled.1 henabled.2 hrun
  | ret i =>
      simp only [Handling.step] at h
      split at h
      · next result hpc =>
          obtain ⟨agg, hagg, rfl⟩ := Option.map_eq_some_iff.mp h
          refine .ret _ i _ agg hagg ?_
          intro result' hpc'
          rw [hpc] at hpc'
          cases hpc'
          rfl
      · cases h
  | throws i =>
      simp only [Handling.step] at h
      split at h
      · cases h
      · next hnot =>
          obtain ⟨agg, hagg, rfl⟩ := Option.map_eq_some_iff.mp h
          exact .ret _ i _ agg hagg (fun result hpc => absurd hpc (hnot result))
  | worker i =>
      obtain ⟨agg, hagg, rfl⟩ := Option.map_eq_some_iff.mp h
      split
      · next finalState isLast hpc => exact .print i finalState isLast agg hpc hagg
      · next hnot => exact .worker i agg hagg hnot
  | main =>
      obtain ⟨agg, hagg, rfl⟩ := Option.map_eq_some_iff.mp h
      exact .main agg hagg

/-! ## The last message -/

/-- The messages of a failed connect come only before the final one; a failed decryption is
not shown as final while a success is stored; and after it was shown, no success is merged, and
no other answer of a phone unless a failed decryption is still to be merged. -/
def Truthful (s : Handling) : HandlingLabel → Prop
  | .run i answer =>
      (s.status.statusDone = true → ∀ r effects, s.runner i answer = some (r, effects) →
        ∀ e ∈ effects, ∀ key, e ≠ .message key) ∧
      (s.status.statusDone = false → (s.runners i).pc = .decryptFailed →
        s.agg.currentResult.state ≠ .success)
  | .worker i => ∀ r, s.agg.workers i = .merge r → s.agg.currentResult.state ≠ .success →
      (∃ k, (s.runners k).decryptFailed = true) →
      r.state ≠ .success ∧ (isPhoneAnswer r.state = true →
        ∃ k, (s.runners k).decryptFailed = true ∧ (k = i ∨ k ∉ s.agg.order.map Prod.fst))
  | _ => True

/-- A failed decryption is or is going to be the stored result. -/
structure Undecrypted (s : Handling) : Prop where
  noSuccess : ∀ o ∈ s.agg.order, o.2.state ≠ .success
  stored : ∃ k, (s.runners k).decryptFailed = true ∧
    (k ∉ s.agg.order.map Prod.fst ∨ ∃ r, lastAnswer s.agg.order = some (k, r))

/-- What the last message is after the gate was closed. -/
def Concluded (i18n : String → Str) (s : Handling) : Prop :=
  (∃ st, Settled s.agg st ∧ s.status.printed.getLast? = some (st.toText i18n)) ∨
  (Undecrypted s ∧ s.status.printed.getLast? = some (i18n "error_password_decrypt"))

/-- The threads: what a failed decryption returns, and what is going to be printed. -/
structure HandlingInv (s : Handling) : Prop where
  agg : AggregateInv s.agg
  prints : PrintsSettled s.agg
  fresh : ∀ i, s.agg.workers i = .running → s.agg.outcomes i = none
  failing : ∀ i, (s.runners i).pc = .decryptFailed → (s.runners i).state = .success
  failed : ∀ i, (s.runners i).decryptFailed = true → i < s.agg.numServers ∧
    ∀ r, s.agg.outcomes i = some r → r = .ofState .dataError

/-- The gate is open and the final message still owed, or it is closed and was the last. -/
inductive Shown (i18n : String → Str) (s : Handling) : Prop
  | owed (hopen : s.status.statusDone = false) (howing : Owing s.agg)
      (hnone : ∀ i, (s.runners i).decryptFailed = false)
  | closed (hdone : s.status.statusDone = true) (hlast : Concluded i18n s)

section

variable {i18n : String → Str} {s s' : Handling}

theorem handlingInv_start (windows : Bool) {n : Nat} (isOther : Nat → Bool) (hn : 0 < n) :
    HandlingInv (Handling.start windows n isOther) := by
  refine ⟨AggregateInv.start n isOther hn, ?_, fun _ _ => rfl, ?_, ?_⟩
  · intro i st isLast hpc; cases hpc
  · intro i hpc; cases hpc
  · intro i hd; cases hd

theorem shown_start (windows : Bool) {n : Nat} (isOther : Nat → Bool) (hn : 0 < n) :
    Shown i18n (Handling.start windows n isOther) := by
  refine .owed rfl ⟨?_, ?_⟩ (fun _ => rfl)
  · intro o ho; cases ho
  · intro hc
    have hzero : 0 = n := hc
    omega

/-- The step of `RunServer` behind a step of thread `i`. -/
theorem Handling.runStep_of_runner {i : Nat} {answer : RunInput} {r : Runner}
    {effects : List RunEffect} (h : s.runner i answer = some (r, effects)) :
    runStep s.windows (s.agg.isOtherClient i) (s.runners i) (s.input i answer) =
      some (r, effects) := by
  unfold Handling.runner at h
  split at h
  · exact h
  · cases h

theorem HandlingInv.run (h : HandlingInv s) {i : Nat} {answer : RunInput} {r : Runner}
    {effects : List RunEffect} (hi : i < s.agg.numServers) (hpc : s.agg.workers i = .running)
    (hrun : s.runner i answer = some (r, effects)) (status : Status) :
    HandlingInv { s with runners := Function.update s.runners i r, status := status } := by
  refine ⟨h.agg, h.prints, h.fresh, ?_, ?_⟩
  · intro j hj
    by_cases hji : j = i
    · subst hji
      simp only [Function.update_self] at hj ⊢
      exact ((runStep_move (Handling.runStep_of_runner hrun)).state_of_decryptFailed hj).2
    · simp only [Function.update_of_ne hji] at hj ⊢
      exact h.failing j hj
  · intro j hj
    by_cases hji : j = i
    · subst hji
      refine ⟨hi, ?_⟩
      intro res hres
      have hnone := h.fresh j hpc
      rw [show s.agg.outcomes j = some res from hres] at hnone
      cases hnone
    · simp only [Function.update_of_ne hji] at hj
      exact h.failed j hj

/-- A runner that returned takes no step. -/
theorem not_decryptFailed_of_runStep {windows other : Bool} {r : Runner} {input : RunInput}
    {next : Runner × List RunEffect} (h : runStep windows other r input = some next) :
    r.decryptFailed = false := by
  refine Runner.not_decryptFailed ?_
  intro result hret
  unfold runStep at h
  rw [hret] at h
  cases h

theorem Shown.run (hI : HandlingInv s) (h : Shown i18n s) {i : Nat} {answer : RunInput} {r : Runner}
    {effects : List RunEffect} (hpc : s.agg.workers i = .running)
    (hrun : s.runner i answer = some (r, effects)) (hl : Truthful s (.run i answer)) :
    Shown i18n { s with
      runners := Function.update s.runners i r
      status := effects.foldl (Status.effect i18n i) s.status } := by
  obtain ⟨hmsg, hdec⟩ := hl
  have hstep := Handling.runStep_of_runner hrun
  have hnot := hI.agg.not_mem_order (i := i) (by rw [hpc]; rfl)
  cases h with
  | closed hdone hlast =>
      -- nothing is printed any more, and the stored failure is another thread's
      have heq : effects.foldl (Status.effect i18n i) s.status = s.status :=
        Status.effects_done hdone (hmsg hdone r effects hrun)
      rw [heq]
      refine .closed hdone ?_
      rcases hlast with hsettled | ⟨⟨hno, k, hk, hstored⟩, htext⟩
      · exact Or.inl hsettled
      · have hki : k ≠ i := by
          rintro rfl
          rw [not_decryptFailed_of_runStep hstep] at hk
          cases hk
        refine Or.inr ⟨⟨hno, k, ?_, hstored⟩, htext⟩
        show (Function.update s.runners i r k).decryptFailed = true
        rwa [Function.update_of_ne hki]
  | owed hopen howing hnone =>
      rcases runStep_final hstep (hI.failing i) with ⟨hdf, hr, rfl⟩ | ⟨hr, hnofinal⟩
      · -- the failed decryption is shown
        refine .closed (Status.printStatus_statusDone _)
          (Or.inr ⟨⟨?_, i, ?_, Or.inl hnot⟩, Status.printStatus_last hopen _⟩)
        · intro o ho hsucc
          exact hdec hopen hdf (hI.agg.stored_success ⟨o, ho, hsucc⟩)
        · show (Function.update s.runners i r i).decryptFailed = true
          rwa [Function.update_self]
      · refine .owed ?_ howing ?_
        · show (effects.foldl (Status.effect i18n i) s.status).statusDone = false
          rw [Status.effects_statusDone hnofinal]
          exact hopen
        · intro j
          show (Function.update s.runners i r j).decryptFailed = false
          by_cases hji : j = i
          · rw [hji, Function.update_self]; exact hr
          · rw [Function.update_of_ne hji]; exact hnone j

/-- `RunServer` of a thread that failed to decrypt returns what the failure says. -/
theorem HandlingInv.ret (h : HandlingInv s) {i : Nat} {outcome : Option UnlockResult}
    {agg : Aggregation} (hstep : s.agg.step (.ret i outcome) = some agg)
    (hout : ∀ result, (s.runners i).pc = .returned result → outcome = some result) :
    HandlingInv { s with agg := agg } := by
  have hinv := h.agg.step hstep
  have hprints := h.prints.step h.agg hstep
  cases Aggregation.step_move hstep with
  | ret _ _ r hr hi hpc =>
      refine ⟨hinv, hprints, ?_, h.failing, ?_⟩
      · intro j hj
        by_cases hji : j = i
        · subst hji
          simp [Aggregation.goto] at hj
        · simp only [Aggregation.goto, Function.update_of_ne hji] at hj ⊢
          exact h.fresh j hj
      · intro j hj
        refine ⟨(h.failed j hj).1, ?_⟩
        by_cases hji : j = i
        · subst hji
          simp only [Function.update_self, Option.some.injEq, forall_eq']
          rw [hr, hout _ (Runner.decryptFailed_iff.mp hj).1]
          rfl
        · simp only [Function.update_of_ne hji]
          exact (h.failed j hj).2

/-- A step after `RunServer` changes no outcome. -/
theorem Aggregation.step_outcomes {a a' : Aggregation} {l : AggregateLabel}
    (h : a.step l = some a') (hl : ∀ i outcome, l ≠ .ret i outcome) :
    a'.outcomes = a.outcomes ∧ ∀ j, a'.workers j = .running → a.workers j = .running := by
  have hgoto : ∀ (i : Nat) (pc : WorkerPc) (j : Nat), pc ≠ .running →
      Function.update a.workers i pc j = .running → a.workers j = .running := by
    intro i pc j hpc hj
    by_cases hji : j = i
    · subst hji
      rw [Function.update_self] at hj
      exact absurd hj hpc
    · rwa [Function.update_of_ne hji] at hj
  cases Aggregation.step_move h with
  | ret i outcome r hr hi hpc => exact absurd rfl (hl i outcome)
  | wake hall => exact ⟨rfl, fun j hj => hj⟩
  | returns hall => exact ⟨rfl, fun j hj => hj⟩
  | _ => exact ⟨rfl, fun j hj => hgoto _ _ j (by simp) hj⟩

theorem HandlingInv.after (h : HandlingInv s) {l : AggregateLabel} {agg : Aggregation}
    (hstep : s.agg.step l = some agg) (hl : ∀ i outcome, l ≠ .ret i outcome) (status : Status) :
    HandlingInv { s with agg := agg, status := status } := by
  obtain ⟨hout, hrunning⟩ := Aggregation.step_outcomes hstep hl
  obtain ⟨hnum, -⟩ := Aggregation.step_config hstep
  refine ⟨h.agg.step hstep, h.prints.step h.agg hstep, ?_, h.failing, ?_⟩
  · intro j hj
    show agg.outcomes j = none
    rw [hout]
    exact h.fresh j (hrunning j hj)
  · intro j hj
    show j < agg.numServers ∧ ∀ r, agg.outcomes j = some r → r = .ofState .dataError
    rw [hnum, hout]
    exact h.failed j hj

/-- Only the merge of a result changes the order. -/
theorem Aggregation.step_order {a a' : Aggregation} {l : AggregateLabel} (h : a.step l = some a') :
    a'.order = a.order ∨
    ∃ i r, l = .worker i ∧ a.workers i = .merge r ∧ a'.order = a.order ++ [(i, r)] := by
  cases Aggregation.step_move h with
  | merge i r hpc => exact Or.inr ⟨i, r, rfl, hpc, rfl⟩
  | _ => exact Or.inl rfl

/-- While no success is merged, none is stored in the section. -/
theorem AggregateInv.stored_ne_success {a : Aggregation} (h : AggregateInv a) {i : Nat}
    {r : UnlockResult} (hpc : a.workers i = .merge r) (hno : ∀ o ∈ a.order, o.2.state ≠ .success) :
    a.currentResult.state ≠ .success := by
  obtain ⟨-, hmerged, -⟩ := h.at_merge hpc
  rw [hmerged]
  exact (mergeSpec a.order).ne_success hno

theorem Undecrypted.after (hI : HandlingInv s) (h : Undecrypted s) {l : AggregateLabel}
    {agg : Aggregation} (hstep : s.agg.step l = some agg)
    (hl : ∀ i, l = .worker i → Truthful s (.worker i)) (status : Status) :
    Undecrypted { s with agg := agg, status := status } := by
  obtain ⟨hno, k, hk, hstored⟩ := h
  rcases Aggregation.step_order hstep with horder | ⟨i, r, rfl, hpc, horder⟩
  · refine ⟨?_, k, hk, ?_⟩
    · show ∀ o ∈ agg.order, o.2.state ≠ .success
      rw [horder]
      exact hno
    · show k ∉ agg.order.map Prod.fst ∨ ∃ r, lastAnswer agg.order = some (k, r)
      rw [horder]
      exact hstored
  · obtain ⟨hr, hanswer⟩ :=
      hl i rfl r hpc (hI.agg.stored_ne_success hpc hno) ⟨k, hk⟩
    have hpending : s.agg.outcomes i = some r := hI.agg.pending i r (by rw [hpc]; rfl)
    refine ⟨?_, ?_⟩
    · intro o ho
      rw [show agg.order = s.agg.order ++ [(i, r)] from horder] at ho
      rcases List.mem_append.mp ho with ho | ho
      · exact hno o ho
      · rw [List.mem_singleton.mp ho]
        exact hr
    · show ∃ k, (s.runners k).decryptFailed = true ∧
        (k ∉ agg.order.map Prod.fst ∨ ∃ r, lastAnswer agg.order = some (k, r))
      rw [horder, lastAnswer_append, List.map_append, List.map_singleton]
      by_cases ha : isPhoneAnswer r.state = true
      · -- an answer replaces the stored one: it is a failure itself, or one is still to come
        rw [if_pos ha]
        obtain ⟨k', hk', hwhich⟩ := hanswer ha
        by_cases hki : k' = i
        · exact ⟨k', hk', Or.inr ⟨r, by rw [hki]⟩⟩
        · have hnot : k' ∉ s.agg.order.map Prod.fst := hwhich.resolve_left hki
          refine ⟨k', hk', Or.inl ?_⟩
          rw [List.mem_append, List.mem_singleton]
          exact not_or.mpr ⟨hnot, hki⟩
      · rw [if_neg ha]
        -- the failure itself is an answer, so this result is another thread's
        have hki : k ≠ i := by
          rintro rfl
          rw [(hI.failed k hk).2 r hpending] at ha
          exact ha rfl
        refine ⟨k, hk, ?_⟩
        rcases hstored with hnot | hlast
        · left
          rw [List.mem_append, List.mem_singleton]
          exact not_or.mpr ⟨hnot, hki⟩
        · exact Or.inr hlast

/-- A step of the aggregation that prints nothing new. -/
theorem Shown.after (hI : HandlingInv s) (h : Shown i18n s) {l : AggregateLabel}
    {agg : Aggregation} (hstep : s.agg.step l = some agg)
    (hl : ∀ i, l = .worker i → Truthful s (.worker i))
    (hnot : s.status.statusDone = true ∨
      ∀ i st isLast, l = .worker i → s.agg.workers i ≠ .print true st isLast) :
    Shown i18n { s with agg := agg } := by
  cases h with
  | owed hopen howing hnone =>
      refine .owed hopen (howing.step hI.agg hstep (hnot.resolve_left ?_)) hnone
      rw [hopen]
      simp
  | closed hdone hlast =>
      refine .closed hdone ?_
      rcases hlast with ⟨st, hsettled, htext⟩ | ⟨hund, htext⟩
      · exact Or.inl ⟨st, hsettled.step hI.agg hstep, htext⟩
      · exact Or.inr ⟨hund.after hI hstep hl s.status, htext⟩

theorem Shown.print (hI : HandlingInv s) (h : Shown i18n s) {i : Nat} {finalState : UnlockState}
    {isLast : Bool} {agg : Aggregation} (hpc : s.agg.workers i = .print true finalState isLast)
    (hstep : s.agg.step (.worker i) = some agg) (hl : Truthful s (.worker i)) :
    Shown i18n { s with
      agg := agg, status := s.status.printStatus (finalState.toText i18n) } := by
  by_cases hdone : s.status.statusDone = true
  · have heq : s.status.printStatus (finalState.toText i18n) = s.status := by
      simp [Status.printStatus, hdone]
    rw [heq]
    exact h.after hI hstep (by rintro j ⟨⟩; exact hl) (Or.inl hdone)
  -- the first final message: the state it names is settled
  · have hsettled := (hI.prints i finalState isLast hpc).step hI.agg hstep
    refine .closed (Status.printStatus_statusDone _) (Or.inl ⟨finalState, hsettled, ?_⟩)
    exact Status.printStatus_last (by simpa using hdone) _

theorem status_step {l : HandlingLabel} (hI : HandlingInv s) (h : Shown i18n s)
    (hl : Truthful s l) (hs : s.step i18n l = some s') : HandlingInv s' ∧ Shown i18n s' := by
  cases Handling.step_move hs with
  | run i answer r effects hi hpc hrun =>
      exact ⟨hI.run hi hpc hrun _, h.run hI hpc hrun hl⟩
  | ret l i outcome agg hstep hout =>
      exact ⟨hI.ret hstep hout, h.after hI hstep (by rintro j ⟨⟩) (Or.inr (by rintro j st b ⟨⟩))⟩
  | print i finalState isLast agg hpc hstep =>
      exact ⟨hI.after hstep (by rintro j o ⟨⟩) _, h.print hI hpc hstep hl⟩
  | worker i agg hstep hnot =>
      refine ⟨hI.after hstep (by rintro j o ⟨⟩) _, h.after hI hstep ?_ (Or.inr ?_)⟩
      · rintro j ⟨⟩; exact hl
      · rintro j st b ⟨⟩; exact hnot st b
  | main agg hstep =>
      exact ⟨hI.after hstep (by rintro j o ⟨⟩) _,
        h.after hI hstep (by rintro j ⟨⟩) (Or.inr (by rintro j st b ⟨⟩))⟩

/-- Behind the closed gate nothing is printed. -/
theorem printed_step {l : HandlingLabel} (hdone : s.status.statusDone = true) (hl : Truthful s l)
    (hs : s.step i18n l = some s') : s'.status = s.status := by
  cases Handling.step_move hs with
  | run i answer r effects hi hpc hrun =>
      exact Status.effects_done hdone (hl.1 hdone r effects hrun)
  | print i finalState isLast agg hpc hstep => simp [Status.printStatus, hdone]
  | _ => rfl

/-- The message that `GetResult` ends with, by the result it returns. -/
theorem HandlingInv.last_message (hI : HandlingInv s) (h : Shown i18n s) {result : UnlockResult}
    (hr : s.agg.main = .returned result) :
    s.status.printed.getLast? = some (result.state.toText i18n) ∨
    (s.status.printed.getLast? = some (i18n "error_password_decrypt") ∧
      result = .ofState .dataError ∧
      ∃ k, (s.runners k).decryptFailed = true ∧ lastAnswer s.agg.order = some (k, result)) := by
  obtain ⟨hall, hlen, hcompleted, hresult⟩ := hI.agg.returned result hr
  cases h with
  | owed hopen howing hnone =>
      -- somebody would still have to print, but all threads are done
      obtain ⟨i, hi⟩ := howing.last hcompleted
      have hlt : i < s.agg.numServers := hI.agg.bound i (by intro hrun; rw [hrun] at hi; cases hi)
      rw [hall i hlt] at hi
      cases hi
  | closed hdone hlast =>
      rcases hlast with ⟨st, ⟨hcur, -⟩, htext⟩ | ⟨⟨hno, k, hk, hstored⟩, htext⟩
      · left
        have hs := hI.agg.shared
        simp only [Aggregation.SectionInv, hI.agg.free_of_done hall, Aggregation.expected, hlen,
          if_true] at hs
        rw [hresult, ← hs.2, hcur]
        exact htext
      · right
        obtain ⟨hlt, hout⟩ := hI.failed k hk
        -- all results are merged, so the failure that was shown is the stored answer
        have hmem : k ∈ s.agg.order.map Prod.fst := by
          rw [hI.agg.mem k, hall k hlt]
          rfl
        obtain ⟨r, hanswer⟩ := hstored.resolve_left (not_not.mpr hmem)
        have hres : result = r := by rw [hresult, finalResult_lastAnswer hno hanswer]
        have hr := hout r (hI.agg.recorded _ (lastAnswer_mem hanswer))
        exact ⟨htext, hres.trans hr, k, hk, hres ▸ hanswer⟩

/-- **The final message is the last one and tells the result, as long as no message goes around
the gate and no failed decryption is shown beside another answer.** -/
theorem final_message_truthful {windows : Bool} {n : Nat} {isOther : Nat → Bool}
    {ls : List HandlingLabel} (hn : 0 < n)
    (hrun : exec (Handling.step i18n) (Handling.start windows n isOther) ls = some s)
    (hcond : Along (Handling.step i18n) Truthful (Handling.start windows n isOther) ls) :
    (∀ pre post m, ls = pre ++ post →
      exec (Handling.step i18n) (Handling.start windows n isOther) pre = some m →
      m.status.statusDone = true → s.status.printed = m.status.printed) ∧
    (∀ result, s.agg.main = .returned result →
      s.status.printed.getLast? = some (result.state.toText i18n) ∨
      (s.status.printed.getLast? = some (i18n "error_password_decrypt") ∧
        result = .ofState .dataError ∧
        ∃ k, (s.runners k).decryptFailed = true ∧ lastAnswer s.agg.order = some (k, result))) := by
  refine ⟨?_, ?_⟩
  · rintro pre post m rfl hpre hdone
    obtain ⟨m', hm', hpost⟩ := exec_append_eq_some.mp hrun
    rw [hpre] at hm'
    cases hm'
    have hkept : s.status = m.status := by
      refine exec_inv_along (I := fun a => a.status = m.status) ?_ rfl (along_drop hcond hpre) hpost
      intro a l b ha hl hab
      rw [printed_step (by rw [ha]; exact hdone) hl hab, ha]
    rw [hkept]
  · intro result hret
    have hend := exec_inv_along (I := fun a => HandlingInv a ∧ Shown i18n a)
      (fun a l b ha hl hab => status_step ha.1 ha.2 hl hab)
      ⟨handlingInv_start windows isOther hn, shown_start windows isOther hn⟩ hcond hrun
    exact hend.1.last_message hend.2 hret

end

namespace Sample

/-- `RunServer` of connection `i`. -/
def runServer (i : Nat) (answers : List RunInput) : List HandlingLabel := answers.map (.run i)

/-- One pass through the loop, up to the polled state. -/
def pass (phase : UnlockPhase) (state : UnlockState) : List RunInput :=
  [.tau, .flag true, .phase phase, .tau, .tau, .state state]

/-- From the end of the loop to the result. -/
def finishes (pwDec : Option Str) : List RunInput :=
  [.flag false, .flag false, .tau, .tau, .tau, .secret device { passwordKey := str "P" } pwDec]

/-- The result is merged, and the thread ends. -/
def merges (i : Nat) : List HandlingLabel := .ret i :: List.replicate 6 (.worker i)

/-- The second client polled a failed connect that it is going to retry; the first one
succeeds. -/
def succeedsFirst : List HandlingLabel :=
  runServer 1
    ([RunInput.flag true] ++ pass .clientConnecting .connectError ++ [RunInput.flag true]) ++
    runServer 0 ([RunInput.flag true] ++ pass .phoneUnlocking .success ++ [RunInput.tau] ++
      finishes (some (str "pw"))) ++
    merges 0

/-- The second client goes on: its message, the end of its loop, and its result. -/
def retriesLate : List HandlingLabel :=
  runServer 1 ([RunInput.flag false, .tau, .flag false, .flag false, .tau, .tau] ++ finishes none) ++
    merges 1 ++ [HandlingLabel.main, .main]

/-- The password of the first connection cannot be decrypted, and the second one times out. -/
def failsToDecrypt : List HandlingLabel :=
  runServer 0 ([RunInput.flag true] ++ pass .phoneUnlocking .success ++ [RunInput.tau] ++
      finishes none ++ [RunInput.tau]) ++
    merges 0 ++
    runServer 1 ([RunInput.flag true] ++ pass .clientConnecting .unknown ++
      [RunInput.tau, .flag true] ++ finishes none) ++
    merges 1 ++ [HandlingLabel.main, .main]

/-- A test for `Truthful`. -/
def isTruthful (s : Handling) : HandlingLabel → Bool
  | .run i answer =>
      (!s.status.statusDone || match s.runner i answer with
        | some (_, effects) => effects.all (fun e => match e with
            | .message _ => false
            | _ => true)
        | none => true) &&
      s.agg.currentResult.state ≠ .success
  | .worker i => (match s.agg.workers i with
      | .merge r => r.state ≠ .success &&
          (!isPhoneAnswer r.state || (s.runners i).decryptFailed)
      | _ => true)
  | _ => true

theorem truthful_of_test (s : Handling) (l : HandlingLabel) (h : isTruthful s l = true) :
    Truthful s l := by
  cases l with
  | run i answer =>
      obtain ⟨hmsg, hcur⟩ := Bool.and_eq_true_iff.mp h
      refine ⟨?_, fun _ _ => by simpa using hcur⟩
      rintro hdone r effects hstep e he key rfl
      simp only [hdone, hstep, Bool.not_true, Bool.false_or, List.all_eq_true] at hmsg
      cases hmsg _ he
  | worker i =>
      intro r hpc _ _
      simp only [isTruthful, hpc, Bool.and_eq_true, decide_eq_true_eq, Bool.or_eq_true] at h
      refine ⟨h.1, ?_⟩
      intro ha
      refine ⟨i, ?_, Or.inl rfl⟩
      rcases h.2 with hna | hfailed
      · rw [ha] at hna; cases hna
      · exact hfailed
  | _ => exact trivial

end Sample

/-- The message of a failed connect is the last one, although `GetResult` returns `SUCCESS` and
its text was printed before. -/
theorem message_after_final : ∃ m s result,
    exec (Handling.step str) (Handling.start false 2 (fun _ => false)) Sample.succeedsFirst = some m ∧
    exec (Handling.step str) (Handling.start false 2 (fun _ => false))
      (Sample.succeedsFirst ++ Sample.retriesLate) = some s ∧
    m.status.statusDone = true ∧ s.status.printed ≠ m.status.printed ∧
    s.agg.main = .returned result ∧ result.state = .success ∧
    s.status.printed.getLast? ≠ some (result.state.toText str) ∧
    s.status.printed.getLast? ≠ some (str "error_password_decrypt") := by
  have hpre : (exec (Handling.step str) (Handling.start false 2 (fun _ => false))
      Sample.succeedsFirst).map (fun m => (m.status.statusDone, m.status.printed)) =
      some (true, [str "wait_client_phone_connect", str "wait_phone_unlock",
        str "unlock_success"]) := by decide +kernel
  have hrun : (exec (Handling.step str) (Handling.start false 2 (fun _ => false))
      (Sample.succeedsFirst ++ Sample.retriesLate)).map
        (fun s => (s.agg.main, s.status.printed)) =
      some (.returned ⟨.success, Sample.device, str "pw", str "P"⟩,
        [str "wait_client_phone_connect", str "wait_phone_unlock", str "unlock_success",
          str "unlock_error_connect_retry"]) := by decide +kernel
  obtain ⟨m, hm, hmval⟩ := Option.map_eq_some_iff.mp hpre
  obtain ⟨s, hs, hsval⟩ := Option.map_eq_some_iff.mp hrun
  obtain ⟨hdone, hprinted⟩ := Prod.mk.inj hmval
  obtain ⟨hmain, hprinted'⟩ := Prod.mk.inj hsval
  refine ⟨m, s, _, hm, hs, hdone, ?_, hmain, rfl, ?_, ?_⟩
  · rw [hprinted, hprinted']; decide
  · rw [hprinted']; decide
  · rw [hprinted']; decide

-- a failed decryption beside a success: the user is told of the failure and unlocked
example : (exec (Handling.step str) (Handling.start false 2 (fun _ => false))
    (Sample.runServer 1 ([RunInput.flag true] ++ Sample.pass .phoneUnlocking .success ++
        [RunInput.tau] ++ Sample.finishes none ++ [RunInput.tau]) ++
      Sample.runServer 0 ([RunInput.flag true] ++ Sample.pass .phoneUnlocking .success ++
        [RunInput.tau] ++ Sample.finishes (some (str "pw"))) ++
      Sample.merges 0 ++ Sample.merges 1 ++ [HandlingLabel.main, .main])).map
        (fun s => (s.agg.currentResult.state, s.status.printed.getLast?)) =
    some (.success, some (str "error_password_decrypt")) := by decide +kernel

/-- The failed decryption is shown last, and it is what `GetResult` returns. -/
theorem final_message_truthful_sample : ∃ s result,
    exec (Handling.step str) (Handling.start false 2 (fun _ => false)) Sample.failsToDecrypt =
      some s ∧
    s.agg.main = .returned result ∧
    (s.status.printed.getLast? = some (result.state.toText str) ∨
      (s.status.printed.getLast? = some (str "error_password_decrypt") ∧
        result = .ofState .dataError ∧
        ∃ k, (s.runners k).decryptFailed = true ∧ lastAnswer s.agg.order = some (k, result))) := by
  have hrun : (exec (Handling.step str) (Handling.start false 2 (fun _ => false))
      Sample.failsToDecrypt).map (·.agg.main) = some (.returned (.ofState .dataError)) := by
    decide +kernel
  obtain ⟨s, hs, hmain⟩ := Option.map_eq_some_iff.mp hrun
  have hcond : Along (Handling.step str) Truthful (Handling.start false 2 (fun _ => false))
      Sample.failsToDecrypt := along_of_check Sample.truthful_of_test (by decide +kernel)
  exact ⟨s, _, hs, hmain, (final_message_truthful (by decide) hs hcond).2 _ hmain⟩

end PcbuDesktop
