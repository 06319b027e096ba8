import Mathlib.Data.List.Range
import Mathlib.Data.List.Perm.Subperm
import Mathlib.Data.Finset.Card
import PcbuDesktop.Lib.Runs
import PcbuDesktop.Basic.Packets
import PcbuDesktop.Basic.UnlockState

set_option autoImplicit false

/-! # How `GetResult` merges the results of its connections

The second part of `UnlockHandler::GetResult` (`handler/UnlockHandler.cpp`): one thread for
every connection runs `RunServer` and merges its result into `currentResult` under
`resultMutex`; the main thread waits until all of them are counted, joins them and returns the
merged result.

The model has one step for every statement that another thread can see. What the merged result
is, is said about the order in which the threads entered the section: `mergedResult` folds the
code's rule over that order, and `AggregateSpec` says which outcome comes out.
-/

namespace PcbuDesktop

open Runs

/-! ## Results -/

structure UnlockResult where
  state : UnlockState := .unknown
  device : PairedDevice := {}
  password : Str := []
  passwordKey : Str := []
  deriving DecidableEq, Repr

/-- `UnlockResult(state)`. -/
def UnlockResult.ofState (state : UnlockState) : UnlockResult := { state := state }

/-- `IsPhoneAnswer`. -/
def isPhoneAnswer (state : UnlockState) : Bool :=
  state = .timeError || state = .notPairedError || state = .appError || state = .dataError ||
    state = .protocolError

/-- The first store of the locked section, if there is one: what `currentResult` is after it. -/
def mergeResult (isOtherClient : Bool) (stored serverResult : UnlockResult) : UnlockResult :=
  if serverResult.state = .success ∨
      (isPhoneAnswer serverResult.state ∧ stored.state ≠ .success) then serverResult
  else if isOtherClient = false ∧ stored.state ≠ .success ∧ ¬ isPhoneAnswer stored.state then
    serverResult
  else stored

/-! ## The threads -/

inductive WorkerPc where
  /-- inside `RunServer` -/
  | running
  /-- `RunServer` returned or threw; before `resultMutex` is locked -/
  | lock (serverResult : UnlockResult)
  /-- the load and the first store of the section -/
  | merge (serverResult : UnlockResult)
  /-- `completed.fetch_add(1)` -/
  | count (serverResult : UnlockResult)
  /-- the second store and the end of the section -/
  | close (serverResult : UnlockResult) (isLast : Bool)
  /-- `PrintStatus(UnlockStateUtils::ToString(finalState))` if the result is final -/
  | print (isFinalResult : Bool) (finalState : UnlockState) (isLast : Bool)
  /-- `cv.notify_one()` if this thread was the last -/
  | notify (isLast : Bool)
  | done
  deriving DecidableEq, Repr

inductive MainPc where
  | waiting
  | joining
  | returned (result : UnlockResult)
  deriving DecidableEq, Repr

/-- The local variables of `GetResult` that its threads share. The rest is history: the outcome
of every `RunServer`, the order in which the threads merged theirs, and the threads that found
`isLast` true. -/
structure Aggregation where
  numServers : Nat
  isOtherClient : Nat → Bool
  currentResult : UnlockResult := {}
  completed : Nat := 0
  resultMutex : Option Nat := none
  workers : Nat → WorkerPc := fun _ => .running
  main : MainPc := .waiting
  outcomes : Nat → Option UnlockResult := fun _ => none
  order : List (Nat × UnlockResult) := []
  lasts : List Nat := []

inductive AggregateLabel where
  /-- `RunServer` of thread `i` returned, or threw (`none`) -/
  | ret (i : Nat) (serverResult : Option UnlockResult)
  | worker (i : Nat)
  | main
  deriving DecidableEq, Repr

namespace Aggregation

def goto (s : Aggregation) (i : Nat) (pc : WorkerPc) : Aggregation :=
  { s with workers := Function.update s.workers i pc }

/-- The section after `isLast` is known: the last thread replaces an `UNKNOWN` result, and its
result is final unless there is a success. -/
def close (s : Aggregation) (i : Nat) (serverResult : UnlockResult) (isLast : Bool) :
    Aggregation :=
  let closing := isLast = true ∧ s.currentResult.state ≠ .success
  let current :=
    if closing ∧ s.currentResult.state = .unknown then serverResult else s.currentResult
  let isFinalResult := decide (serverResult.state = .success ∨ closing)
  { s.goto i (.print isFinalResult current.state isLast) with
    currentResult := current
    resultMutex := none }

/-- One step of thread `i` after `RunServer`. -/
def workerStep (s : Aggregation) (i : Nat) : Option Aggregation :=
  match s.workers i with
  | .running => none
  | .lock r =>
      if s.resultMutex = none then some { s.goto i (.merge r) with resultMutex := some i } else none
  -- only the holder of `resultMutex` is at one of the next three points
  | .merge r =>
      some { s.goto i (.count r) with
        currentResult := mergeResult (s.isOtherClient i) s.currentResult r
        order := s.order ++ [(i, r)] }
  | .count r =>
      let isLast := decide (s.completed + 1 = s.numServers)
      some { s.goto i (.close r isLast) with
        completed := s.completed + 1
        lasts := if isLast then s.lasts ++ [i] else s.lasts }
  | .close r isLast => some (s.close i r isLast)
  | .print _ _ isLast => some (s.goto i (.notify isLast))
  | .notify _ => some (s.goto i .done)
  | .done => none

def step (s : Aggregation) : AggregateLabel → Option Aggregation
  | .ret i serverResult =>
      if i < s.numServers ∧ s.workers i = .running then
        -- the handler of the thread turns an exception into `UNK_ERROR`
        let result := serverResult.getD (UnlockResult.ofState .unkError)
        some { s.goto i (.lock result) with outcomes := Function.update s.outcomes i (some result) }
      else none
  | .worker i => s.workerStep i
  | .main =>
      match s.main with
      | .waiting =>
          -- `cv.wait` returns only when its predicate holds; a wake-up that finds it false changes nothing
          if s.completed = s.numServers then some { s with main := .joining } else none
      | .joining =>
          if ∀ i < s.numServers, s.workers i = .done then
            some { s with main := .returned s.currentResult }
          else none
      | .returned _ => none

/-- `GetResult` when it starts its threads. -/
def start (numServers : Nat) (isOtherClient : Nat → Bool) : Aggregation :=
  { numServers := numServers, isOtherClient := isOtherClient }

end Aggregation

/-! ## What one step can do -/

/-- The moves of the threads. -/
inductive AggregateMove (s : Aggregation) : AggregateLabel → Aggregation → Prop
  | ret (i : Nat) (outcome : Option UnlockResult) (r : UnlockResult)
      (hr : r = outcome.getD (UnlockResult.ofState .unkError)) (hi : i < s.numServers)
      (hpc : s.workers i = .running) :
      AggregateMove s (.ret i outcome)
        { s.goto i (.lock r) with outcomes := Function.update s.outcomes i (some r) }
  | enter (i : Nat) (r : UnlockResult) (hpc : s.workers i = .lock r) (hfree : s.resultMutex = none) :
      AggregateMove s (.worker i) { s.goto i (.merge r) with resultMutex := some i }
  | merge (i : Nat) (r : UnlockResult) (hpc : s.workers i = .merge r) :
      AggregateMove s (.worker i)
        { s.goto i (.count r) with
          currentResult := mergeResult (s.isOtherClient i) s.currentResult r
          order := s.order ++ [(i, r)] }
  | count (i : Nat) (r : UnlockResult) (hpc : s.workers i = .count r) :
      AggregateMove s (.worker i)
        { s.goto i (.close r (decide (s.completed + 1 = s.numServers))) with
          completed := s.completed + 1
          lasts := if decide (s.completed + 1 = s.numServers) then s.lasts ++ [i] else s.lasts }
  | close (i : Nat) (r : UnlockResult) (isLast : Bool) (hpc : s.workers i = .close r isLast) :
      AggregateMove s (.worker i) (s.close i r isLast)
  | print (i : Nat) (isFinalResult : Bool) (finalState : UnlockState) (isLast : Bool)
      (hpc : s.workers i = .print isFinalResult finalState isLast) :
      AggregateMove s (.worker i) (s.goto i (.notify isLast))
  | notify (i : Nat) (isLast : Bool) (hpc : s.workers i = .notify isLast) :
      AggregateMove s (.worker i) (s.goto i .done)
  | wake (hall : s.completed = s.numServers) : AggregateMove s .main { s with main := .joining }
  | returns (hall : ∀ i < s.numServers, s.workers i = .done) :
      AggregateMove s .main { s with main := .returned s.currentResult }

theorem Aggregation.step_move {s s' : Aggregation} {l : AggregateLabel} (h : s.step l = some s') :
    AggregateMove s l s' := by
  cases l with
  | ret i outcome =>
      simp only [Aggregation.step] at h
      split at h
      · next hc => cases h; exact .ret i outcome _ rfl hc.1 hc.2
      · cases h
  | worker i =>
      simp only [Aggregation.step, Aggregation.workerStep] at h
      split at h
      · cases h
      · next r hpc =>
          split at h
          · next hfree => cases h; exact .enter i r hpc hfree
          · cases h
      · next r hpc => cases h; exact .merge i r hpc
      · next r hpc => cases h; exact .count i r hpc
      · next r isLast hpc => cases h; exact .close i r isLast hpc
      · next f st isLast hpc => cases h; exact .print i f st isLast hpc
      · next isLast hpc => cases h; exact .notify i isLast hpc
      · cases h
  | main =>
      simp only [Aggregation.step] at h
      split at h
      · split at h
        · next hall => cases h; exact .wake hall
        · cases h
      · split at h
        · next hall => cases h; exact .returns hall
        · cases h
      · cases h

/-! ## The rule, over an order of results -/

section

variable (isOther : Nat → Bool)

/-- `currentResult` after the results were merged in the given order. -/
def mergedResult (order : List (Nat × UnlockResult)) : UnlockResult :=
  order.foldl (fun stored o => mergeResult (isOther o.1) stored o.2) {}

/-- The result of the connection that is not an other client and finished last. -/
def lastOwnResult (order : List (Nat × UnlockResult)) : Option UnlockResult :=
  (order.filter (fun o => !isOther o.1)).getLast?.map Prod.snd

/-- `currentResult` after the last thread closed its section. -/
def finalResult (order : List (Nat × UnlockResult)) : UnlockResult :=
  if (mergedResult isOther order).state = .unknown then
    (order.getLast?.map Prod.snd).getD (mergedResult isOther order)
  else mergedResult isOther order

theorem mergedResult_append (order : List (Nat × UnlockResult)) (o : Nat × UnlockResult) :
    mergedResult isOther (order ++ [o]) =
      mergeResult (isOther o.1) (mergedResult isOther order) o.2 := by
  simp [mergedResult]

theorem lastOwnResult_append (order : List (Nat × UnlockResult)) (o : Nat × UnlockResult) :
    lastOwnResult isOther (order ++ [o]) =
      if isOther o.1 then lastOwnResult isOther order else some o.2 := by
  cases h : isOther o.1 <;> simp [lastOwnResult, List.filter_append, h]

/-- Which of the merged results is the stored one. -/
structure MergeSpec (order : List (Nat × UnlockResult)) (stored : UnlockResult) : Prop where
  source : stored = {} ∨ ∃ o ∈ order, stored = o.2
  success : (∃ o ∈ order, o.2.state = .success) → stored.state = .success
  answer : (∀ o ∈ order, o.2.state ≠ .success) → (∃ o ∈ order, isPhoneAnswer o.2.state) →
    isPhoneAnswer stored.state
  other : (∀ o ∈ order, o.2.state ≠ .success) → (∀ o ∈ order, ¬ isPhoneAnswer o.2.state) →
    stored = (lastOwnResult isOther order).getD {}

variable {isOther}

theorem MergeSpec.ne_success {order : List (Nat × UnlockResult)} {stored : UnlockResult}
    (h : MergeSpec isOther order stored) (hno : ∀ o ∈ order, o.2.state ≠ .success) :
    stored.state ≠ .success := by
  rcases h.source with rfl | ⟨o, ho, rfl⟩
  · simp
  · exact hno o ho

theorem MergeSpec.not_answer {order : List (Nat × UnlockResult)} {stored : UnlockResult}
    (h : MergeSpec isOther order stored) (hno : ∀ o ∈ order, ¬ isPhoneAnswer o.2.state) :
    ¬ isPhoneAnswer stored.state := by
  rcases h.source with rfl | ⟨o, ho, rfl⟩
  · simp [isPhoneAnswer]
  · exact hno o ho

/-- The store takes the new result or keeps the old one. -/
theorem mergeResult_eq_or (b : Bool) (stored r : UnlockResult) :
    mergeResult b stored r = r ∨ mergeResult b stored r = stored := by
  unfold mergeResult
  split
  · exact Or.inl rfl
  · split
    · exact Or.inl rfl
    · exact Or.inr rfl

/-- Merging one more result. -/
theorem MergeSpec.append {order : List (Nat × UnlockResult)} {stored : UnlockResult}
    (h : MergeSpec isOther order stored) (o : Nat × UnlockResult) :
    MergeSpec isOther (order ++ [o]) (mergeResult (isOther o.1) stored o.2) := by
  refine ⟨?_, ?_, ?_, ?_⟩
  · rcases mergeResult_eq_or (isOther o.1) stored o.2 with he | he
    · exact Or.inr ⟨o, by simp, he⟩
    · rw [he]
      rcases h.source with hs | ⟨x, hx, hs⟩
      · exact Or.inl hs
      · exact Or.inr ⟨x, List.mem_append_left _ hx, hs⟩
  · rintro ⟨x, hx, hxs⟩
    by_cases ho : o.2.state = .success
    · simp [mergeResult, ho]
    · -- the success was merged before, and stays
      have hmem : x ∈ order := by
        rcases List.mem_append.mp hx with hx | hx
        · exact hx
        · rw [List.mem_singleton.mp hx] at hxs
          exact absurd hxs ho
      have hstored := h.success ⟨x, hmem, hxs⟩
      simp [mergeResult, ho, hstored]
  · rintro hno ⟨x, hx, hxa⟩
    have ho : o.2.state ≠ .success := hno o (by simp)
    have hstored : stored.state ≠ .success :=
      h.ne_success (fun y hy => hno y (List.mem_append_left _ hy))
    by_cases hoa : isPhoneAnswer o.2.state = true
    · simp [mergeResult, hoa, hstored]
    · have hmem : x ∈ order := by
        rcases List.mem_append.mp hx with hx | hx
        · exact hx
        · rw [List.mem_singleton.mp hx] at hxa
          exact absurd hxa hoa
      have hanswer := h.answer (fun y hy => hno y (List.mem_append_left _ hy)) ⟨x, hmem, hxa⟩
      simp [mergeResult, ho, hoa, hanswer]
  · intro hno hna
    have ho : o.2.state ≠ .success := hno o (by simp)
    have hoa : ¬ isPhoneAnswer o.2.state := hna o (by simp)
    have hno' : ∀ y ∈ order, y.2.state ≠ .success := fun y hy => hno y (List.mem_append_left _ hy)
    have hna' : ∀ y ∈ order, ¬ isPhoneAnswer y.2.state :=
      fun y hy => hna y (List.mem_append_left _ hy)
    rw [lastOwnResult_append]
    cases hother : isOther o.1 with
    -- an other client changes nothing here, any other connection is the last one so far
    | true => simpa [mergeResult, ho, hoa] using h.other hno' hna'
    | false => simp [mergeResult, ho, hoa, h.ne_success hno', h.not_answer hna']

theorem mergeSpec (order : List (Nat × UnlockResult)) :
    MergeSpec isOther order (mergedResult isOther order) := by
  induction order using List.reverseRecOn with
  | nil =>
      refine ⟨Or.inl rfl, ?_, ?_, fun _ _ => rfl⟩
      · rintro ⟨o, ho, -⟩; cases ho
      · rintro - ⟨o, ho, -⟩; cases ho
  | append_singleton order o ih =>
      rw [mergedResult_append]
      exact ih.append o

/-- Which outcome `GetResult` returns, by the order in which the threads merged theirs. -/
structure AggregateSpec (isOther : Nat → Bool) (order : List (Nat × UnlockResult))
    (result : UnlockResult) : Prop where
  success : result.state = .success ↔ ∃ o ∈ order, o.2.state = .success
  single : ∃ o ∈ order, result = o.2
  answer : (∀ o ∈ order, o.2.state ≠ .success) → (∃ o ∈ order, isPhoneAnswer o.2.state) →
    isPhoneAnswer result.state
  own : (∀ o ∈ order, o.2.state ≠ .success) → (∀ o ∈ order, ¬ isPhoneAnswer o.2.state) →
    ∀ r, lastOwnResult isOther order = some r → r.state ≠ .unknown → result = r
  last : (∀ o ∈ order, o.2.state ≠ .success) → (∀ o ∈ order, ¬ isPhoneAnswer o.2.state) →
    (∀ r, lastOwnResult isOther order = some r → r.state = .unknown) →
    order.getLast?.map Prod.snd = some result

theorem aggregateSpec {order : List (Nat × UnlockResult)} (hne : order ≠ []) :
    AggregateSpec isOther order (finalResult isOther order) := by
  have hm : MergeSpec isOther order (mergedResult isOther order) := mergeSpec order
  -- the last thread of the order is the one that closes an `UNKNOWN` result
  obtain ⟨init, o, rfl⟩ : ∃ init o, order = init ++ [o] :=
    ⟨order.dropLast, order.getLast hne, (List.dropLast_append_getLast hne).symm⟩
  generalize hres : mergedResult isOther (init ++ [o]) = stored at hm
  have hfinal : finalResult isOther (init ++ [o]) = if stored.state = .unknown then o.2 else stored := by
    simp [finalResult, hres]
  -- the initial `currentResult` counts as no result, because its state is `UNKNOWN`
  have hunk : stored = {} → stored.state = .unknown := by rintro rfl; rfl
  have hnosucc : stored.state = .unknown → ∀ x ∈ init ++ [o], x.2.state ≠ .success := by
    intro hu x hx hxs
    have := hm.success ⟨x, hx, hxs⟩
    rw [hu] at this
    cases this
  rw [hfinal]
  by_cases hu : stored.state = .unknown
  · rw [if_pos hu]
    have hno := hnosucc hu
    refine ⟨?_, ⟨o, by simp, rfl⟩, ?_, ?_, ?_⟩
    · exact ⟨fun hs => absurd hs (hno o (by simp)), fun ⟨x, hx, hxs⟩ => absurd hxs (hno x hx)⟩
    · intro _ hans
      have := hm.answer hno hans
      rw [hu] at this
      cases this
    · intro _ hna r hr hru
      have hst := hm.other hno hna
      rw [hr] at hst
      rw [hst] at hu
      exact absurd hu hru
    · intro _ _ _
      simp
  · rw [if_neg hu]
    have hsrc : ∃ x ∈ init ++ [o], stored = x.2 := by
      rcases hm.source with hs | hs
      · exact absurd (hunk hs) hu
      · exact hs
    refine ⟨⟨?_, hm.success⟩, hsrc, hm.answer, ?_, ?_⟩
    · intro hs
      obtain ⟨x, hx, rfl⟩ := hsrc
      exact ⟨x, hx, hs⟩
    · intro hno hna r hr _
      simpa [hr] using hm.other hno hna
    · intro hno hna hall
      have hst := hm.other hno hna
      cases hl : lastOwnResult isOther (init ++ [o]) with
      | none => rw [hl] at hst; exact absurd (hunk hst) hu
      | some r =>
          rw [hl] at hst
          rw [hst] at hu
          exact absurd (hall r hl) hu

end

/-! ## Every interleaving -/

/-- The thread holds `resultMutex`. -/
def WorkerPc.inSection : WorkerPc → Bool
  | .merge _ | .count _ | .close _ _ => true
  | _ => false

/-- The outcome of the thread while it is not yet merged. -/
def WorkerPc.pending : WorkerPc → Option UnlockResult
  | .lock r | .merge r => some r
  | _ => none

/-- The thread's result was merged. -/
def WorkerPc.hasMerged : WorkerPc → Bool
  | .running | .lock _ | .merge _ => false
  | _ => true

/-- What `currentResult` has to be outside the section. -/
def Aggregation.expected (s : Aggregation) : UnlockResult :=
  if s.order.length = s.numServers then finalResult s.isOtherClient s.order
  else mergedResult s.isOtherClient s.order

/-- The shared variables, by what the holder of the lock is doing. -/
def Aggregation.SectionInv (s : Aggregation) : Prop :=
  match s.resultMutex with
  | none => s.completed = s.order.length ∧ s.currentResult = s.expected
  | some i =>
      s.currentResult = mergedResult s.isOtherClient s.order ∧
      match s.workers i with
      | .merge _ => s.completed = s.order.length
      | .count r => ∃ init, s.order = init ++ [(i, r)] ∧ s.completed = init.length
      | .close r isLast => (∃ init, s.order = init ++ [(i, r)]) ∧ s.completed = s.order.length ∧
          (isLast = true ↔ s.completed = s.numServers)
      | _ => False

structure AggregateInv (s : Aggregation) : Prop where
  bound : ∀ i, s.workers i ≠ .running → i < s.numServers
  nodup : (s.order.map Prod.fst).Nodup
  mem : ∀ i, i ∈ s.order.map Prod.fst ↔ (s.workers i).hasMerged = true
  holder : ∀ i, (s.workers i).inSection = true → s.resultMutex = some i
  pending : ∀ i r, (s.workers i).pending = some r → s.outcomes i = some r
  recorded : ∀ o ∈ s.order, s.outcomes o.1 = some o.2
  shared : s.SectionInv
  lasts : s.lasts.length = if s.completed = s.numServers then 1 else 0
  returned : ∀ result, s.main = .returned result →
    (∀ i < s.numServers, s.workers i = .done) ∧ s.order.length = s.numServers ∧
      s.completed = s.numServers ∧ result = finalResult s.isOtherClient s.order

namespace AggregateInv

variable {s : Aggregation}

theorem order_lt (h : AggregateInv s) : ∀ i ∈ s.order.map Prod.fst, i < s.numServers := by
  intro i hi
  refine h.bound i ?_
  intro hrun
  have := (h.mem i).mp hi
  rw [hrun] at this
  cases this

/-- The merged threads are among the started ones. -/
theorem subperm (h : AggregateInv s) : (s.order.map Prod.fst).Subperm (List.range s.numServers) :=
  h.nodup.subperm (fun i hi => List.mem_range.mpr (h.order_lt i hi))

theorem length_le (h : AggregateInv s) : s.order.length ≤ s.numServers := by
  have := h.subperm.length_le
  rwa [List.length_map, List.length_range] at this

/-- A thread that has not merged its result yet is missing in the order. -/
theorem not_mem_order (h : AggregateInv s) {i : Nat} (hm : (s.workers i).hasMerged = false) :
    i ∉ s.order.map Prod.fst := by
  rw [h.mem i, hm]
  simp

theorem length_lt (h : AggregateInv s) {i : Nat} (hi : i < s.numServers)
    (hm : (s.workers i).hasMerged = false) : s.order.length < s.numServers := by
  have hnot := h.not_mem_order hm
  -- with it there would still be room among the started threads
  have hcons : (i :: s.order.map Prod.fst).Subperm (List.range s.numServers) := by
    refine (List.nodup_cons.mpr ⟨hnot, h.nodup⟩).subperm ?_
    intro j hj
    rcases List.mem_cons.mp hj with rfl | hj
    · exact List.mem_range.mpr hi
    · exact List.mem_range.mpr (h.order_lt j hj)
  have := hcons.length_le
  rw [List.length_cons, List.length_map, List.length_range] at this
  omega

theorem completed_le (h : AggregateInv s) : s.completed ≤ s.order.length := by
  have hs := h.shared
  unfold Aggregation.SectionInv at hs
  split at hs
  · omega
  · obtain ⟨-, hs⟩ := hs
    split at hs
    · omega
    · obtain ⟨init, ho, hc⟩ := hs
      rw [ho, hc]
      simp
    · omega
    · exact hs.elim

theorem start (n : Nat) (isOther : Nat → Bool) (hn : 0 < n) :
    AggregateInv (Aggregation.start n isOther) := by
  have hne : ¬ 0 = n := by omega
  refine ⟨?_, List.nodup_nil, ?_, ?_, ?_, ?_, ?_, ?_, ?_⟩
  · intro i hi; exact absurd rfl hi
  · intro i; simp [Aggregation.start, WorkerPc.hasMerged]
  · intro i hi; cases hi
  · intro i r hr; cases hr
  · intro o ho; cases ho
  · refine ⟨rfl, ?_⟩
    simp [Aggregation.start, Aggregation.expected, hne, mergedResult]
  · simp [Aggregation.start, hne]
  · intro result hr; cases hr

/-- The shared variables when a thread is about to merge its result. -/
theorem at_merge (h : AggregateInv s) {i : Nat} {r : UnlockResult} (hpc : s.workers i = .merge r) :
    s.resultMutex = some i ∧ s.currentResult = mergedResult s.isOtherClient s.order ∧
      s.completed = s.order.length := by
  have hmx := h.holder i (by rw [hpc]; rfl)
  have hs := h.shared
  simp only [Aggregation.SectionInv, hmx, hpc] at hs
  exact ⟨hmx, hs⟩

/-- The shared variables when a thread is about to leave the section. -/
theorem at_close (h : AggregateInv s) {i : Nat} {r : UnlockResult} {isLast : Bool}
    (hpc : s.workers i = .close r isLast) :
    s.resultMutex = some i ∧ s.currentResult = mergedResult s.isOtherClient s.order ∧
      (∃ init, s.order = init ++ [(i, r)]) ∧ s.completed = s.order.length ∧
      (isLast = true ↔ s.completed = s.numServers) := by
  have hmx := h.holder i (by rw [hpc]; rfl)
  have hs := h.shared
  simp only [Aggregation.SectionInv, hmx, hpc] at hs
  exact ⟨hmx, hs⟩

/-- The holder of the lock is in its section. -/
theorem inSection_of_holder (h : AggregateInv s) {i : Nat} (hi : s.resultMutex = some i) :
    (s.workers i).inSection = true := by
  have hs := h.shared
  simp only [Aggregation.SectionInv, hi] at hs
  obtain ⟨-, hs⟩ := hs
  split at hs
  · next hpc => rw [hpc]; rfl
  · next hpc => rw [hpc]; rfl
  · next hpc => rw [hpc]; rfl
  · exact hs.elim

/-- A thread that can still move shows that `GetResult` has not returned. -/
theorem not_returned (h : AggregateInv s) {i : Nat} (hi : i < s.numServers)
    (hd : s.workers i ≠ .done) (result : UnlockResult) : s.main ≠ .returned result :=
  fun hr => hd ((h.returned result hr).1 i hi)

/-- Bookkeeping of a step of thread `i` that does not merge. -/
theorem mem_goto (h : AggregateInv s) {i : Nat} {pc : WorkerPc}
    (hm : pc.hasMerged = (s.workers i).hasMerged) (j : Nat) :
    j ∈ s.order.map Prod.fst ↔ ((s.goto i pc).workers j).hasMerged = true := by
  by_cases hj : j = i
  · subst hj
    simp only [Aggregation.goto, Function.update_self, hm]
    exact h.mem j
  · simp only [Aggregation.goto, Function.update_of_ne hj]
    exact h.mem j

theorem bound_goto (h : AggregateInv s) {i : Nat} {pc : WorkerPc} (hi : i < s.numServers)
    (j : Nat) (hj : (s.goto i pc).workers j ≠ .running) : j < s.numServers := by
  by_cases hji : j = i
  · rw [hji]; exact hi
  · simp only [Aggregation.goto, Function.update_of_ne hji] at hj
    exact h.bound j hj

/-- A step of a thread outside the section does not disturb the holder of the lock. -/
theorem shared_goto (h : AggregateInv s) {i : Nat} {pc : WorkerPc}
    (hold : (s.workers i).inSection = false) : (s.goto i pc).SectionInv := by
  have hs := h.shared
  unfold Aggregation.SectionInv at hs ⊢
  cases hmx : s.resultMutex with
  | none =>
      rw [hmx] at hs
      simp only [Aggregation.goto, hmx]
      exact hs
  | some j =>
      -- the holder is another thread, whose program point did not change
      have hji : j ≠ i := by
        rintro rfl
        rw [h.inSection_of_holder hmx] at hold
        cases hold
      rw [hmx] at hs
      simpa [Aggregation.goto, hmx, Function.update_of_ne hji] using hs

/-- A step that leaves nothing pending keeps what is pending. -/
theorem pending_goto (h : AggregateInv s) {i : Nat} {pc : WorkerPc}
    (hp : pc.pending = none ∨ pc.pending = (s.workers i).pending) (j : Nat) (r : UnlockResult)
    (hj : ((s.goto i pc).workers j).pending = some r) : s.outcomes j = some r := by
  by_cases hji : j = i
  · subst hji
    simp only [Aggregation.goto, Function.update_self] at hj
    rcases hp with hp | hp
    · rw [hp] at hj; cases hj
    · exact h.pending j r (hp ▸ hj)
  · simp only [Aggregation.goto, Function.update_of_ne hji] at hj
    exact h.pending j r hj

/-- A step outside the section. -/
theorem goto_outside (h : AggregateInv s) {i : Nat} {pc : WorkerPc} (hi : i < s.numServers)
    (hd : s.workers i ≠ .done) (hm : pc.hasMerged = (s.workers i).hasMerged)
    (hold : (s.workers i).inSection = false) (hnew : pc.inSection = false)
    (hp : pc.pending = none) : AggregateInv (s.goto i pc) := by
  refine ⟨h.bound_goto hi, h.nodup, h.mem_goto hm, ?_, h.pending_goto (Or.inl hp), h.recorded, ?_,
    h.lasts, ?_⟩
  · intro j hj
    by_cases hji : j = i
    · subst hji
      simp [Aggregation.goto, hnew] at hj
    · simp only [Aggregation.goto, Function.update_of_ne hji] at hj
      exact h.holder j hj
  · exact h.shared_goto hold
  · exact fun result hr => absurd hr (h.not_returned hi hd result)

/-- `RunServer` of thread `i` ends with `r`. -/
theorem ret (h : AggregateInv s) {i : Nat} (hi : i < s.numServers) (hrun : s.workers i = .running)
    (r : UnlockResult) :
    AggregateInv { s.goto i (.lock r) with
      outcomes := Function.update s.outcomes i (some r) } := by
  have hnot := h.not_mem_order (i := i) (by rw [hrun]; rfl)
  refine ⟨h.bound_goto hi, h.nodup, h.mem_goto (by rw [hrun]; rfl), ?_, ?_, ?_, ?_, h.lasts, ?_⟩
  · intro j hj
    by_cases hji : j = i
    · subst hji
      simp [Aggregation.goto, WorkerPc.inSection] at hj
    · simp only [Aggregation.goto, Function.update_of_ne hji] at hj
      exact h.holder j hj
  · intro j r' hj
    by_cases hji : j = i
    · subst hji
      simpa [Aggregation.goto, WorkerPc.pending] using hj
    · simp only [Aggregation.goto, Function.update_of_ne hji] at hj ⊢
      exact h.pending j r' hj
  · intro o ho
    have hoi : o.1 ≠ i := by
      rintro rfl
      exact hnot (List.mem_map_of_mem ho)
    show Function.update s.outcomes i (some r) o.1 = some o.2
    rw [Function.update_of_ne hoi]
    exact h.recorded o ho
  · exact h.shared_goto (by rw [hrun]; rfl)
  · exact fun result hr => absurd hr (h.not_returned hi (by simp [hrun]) result)

/-- Thread `i` enters the section. -/
theorem enter (h : AggregateInv s) {i : Nat} {r : UnlockResult} (hpc : s.workers i = .lock r)
    (hfree : s.resultMutex = none) :
    AggregateInv { s.goto i (.merge r) with resultMutex := some i } := by
  have hi : i < s.numServers := h.bound i (by simp [hpc])
  have hlt : s.order.length < s.numServers := h.length_lt hi (by simp [hpc, WorkerPc.hasMerged])
  refine ⟨h.bound_goto hi, h.nodup, h.mem_goto (by rw [hpc]; rfl), ?_,
    h.pending_goto (Or.inr (by rw [hpc]; rfl)), h.recorded, ?_, h.lasts, ?_⟩
  · intro j hj
    by_cases hji : j = i
    · rw [hji]
    · simp only [Aggregation.goto, Function.update_of_ne hji] at hj
      have := h.holder j hj
      rw [hfree] at this
      cases this
  · have hs := h.shared
    simp only [Aggregation.SectionInv, hfree] at hs
    obtain ⟨hc, hcur⟩ := hs
    -- this thread is not merged yet, so that the last one has not closed the result
    have hne : s.order.length ≠ s.numServers := by omega
    simp only [Aggregation.expected, hne, if_false] at hcur
    simpa [Aggregation.SectionInv, Aggregation.goto] using ⟨hcur, hc⟩
  · exact fun result hr => absurd hr (h.not_returned hi (by simp [hpc]) result)

/-- A step inside the section keeps the other threads out of it. -/
theorem holder_goto (h : AggregateInv s) {i : Nat} {pc : WorkerPc}
    (hin : (s.workers i).inSection = true) (j : Nat)
    (hj : ((s.goto i pc).workers j).inSection = true) : s.resultMutex = some j := by
  by_cases hji : j = i
  · rw [hji]; exact h.holder i hin
  · simp only [Aggregation.goto, Function.update_of_ne hji] at hj
    exact h.holder j hj

/-- Thread `i` merges its result. -/
theorem merge (h : AggregateInv s) {i : Nat} {r : UnlockResult} (hpc : s.workers i = .merge r) :
    AggregateInv { s.goto i (.count r) with
      currentResult := mergeResult (s.isOtherClient i) s.currentResult r
      order := s.order ++ [(i, r)] } := by
  have hi : i < s.numServers := h.bound i (by simp [hpc])
  have hin : (s.workers i).inSection = true := by rw [hpc]; rfl
  obtain ⟨hmx, hcur, hc⟩ := h.at_merge hpc
  have hnot := h.not_mem_order (i := i) (by rw [hpc]; rfl)
  refine ⟨h.bound_goto hi, ?_, ?_, h.holder_goto hin, h.pending_goto (Or.inl rfl), ?_, ?_,
    h.lasts, ?_⟩
  · rw [List.map_append, List.map_singleton]
    exact List.Nodup.append h.nodup (List.nodup_singleton i) (by simpa using hnot)
  · intro j
    rw [List.map_append, List.mem_append, List.map_singleton, List.mem_singleton]
    by_cases hji : j = i
    · simp [hji, Aggregation.goto, WorkerPc.hasMerged]
    · simp only [Aggregation.goto, Function.update_of_ne hji, hji, or_false]
      exact h.mem j
  · intro o ho
    rcases List.mem_append.mp ho with ho | ho
    · exact h.recorded o ho
    · rw [List.mem_singleton.mp ho]
      exact h.pending i r (by rw [hpc]; rfl)
  · simp [Aggregation.SectionInv, Aggregation.goto, hmx, mergedResult_append, hcur, hc]
  · exact fun result hr => absurd hr (h.not_returned hi (by simp [hpc]) result)

/-- Thread `i` counts itself; it is the last one if all others have merged. -/
theorem count (h : AggregateInv s) {i : Nat} {r : UnlockResult} (hpc : s.workers i = .count r) :
    AggregateInv { s.goto i (.close r (decide (s.completed + 1 = s.numServers))) with
      completed := s.completed + 1
      lasts := if decide (s.completed + 1 = s.numServers) then s.lasts ++ [i] else s.lasts } := by
  have hi : i < s.numServers := h.bound i (by simp [hpc])
  have hin : (s.workers i).inSection = true := by rw [hpc]; rfl
  have hmx := h.holder i hin
  have hs := h.shared
  simp only [Aggregation.SectionInv, hmx, hpc] at hs
  obtain ⟨hcur, init, ho, hc⟩ := hs
  have hlen : s.order.length = s.completed + 1 := by rw [ho, hc]; simp
  have hle := h.length_le
  refine ⟨h.bound_goto hi, h.nodup, h.mem_goto (by rw [hpc]; rfl), h.holder_goto hin,
    h.pending_goto (Or.inl rfl), h.recorded, ?_, ?_, ?_⟩
  · simp only [Aggregation.SectionInv, Aggregation.goto, hmx, Function.update_self]
    exact ⟨hcur, ⟨init, ho⟩, hlen.symm, by simp⟩
  · have hold := h.lasts
    -- nobody was the last before this thread
    rw [if_neg (by omega)] at hold
    by_cases hlast : s.completed + 1 = s.numServers
    · simp [Aggregation.goto, hlast, hold]
    · simp [Aggregation.goto, hlast, hold]
  · exact fun result hr => absurd hr (h.not_returned hi (by simp [hpc]) result)

/-- Thread `i` leaves the section. -/
theorem close (h : AggregateInv s) {i : Nat} {r : UnlockResult} {isLast : Bool}
    (hpc : s.workers i = .close r isLast) : AggregateInv (s.close i r isLast) := by
  have hi : i < s.numServers := h.bound i (by simp [hpc])
  obtain ⟨hmx, hcur, ⟨init, ho⟩, hc, hlast⟩ := h.at_close hpc
  refine ⟨h.bound_goto hi, h.nodup, h.mem_goto (by rw [hpc]; rfl), ?_,
    h.pending_goto (Or.inl rfl), h.recorded, ?_, h.lasts, ?_⟩
  · intro j hj
    by_cases hji : j = i
    · subst hji
      simp [Aggregation.close, Aggregation.goto, WorkerPc.inSection] at hj
    · simp only [Aggregation.close, Aggregation.goto, Function.update_of_ne hji] at hj
      have hmx' := h.holder j hj
      rw [hmx] at hmx'
      exact absurd (Option.some.inj hmx').symm hji
  · refine ⟨hc, ?_⟩
    have hmerged : s.order.getLast?.map Prod.snd = some r := by rw [ho]; simp
    show (if (isLast = true ∧ s.currentResult.state ≠ .success) ∧ s.currentResult.state = .unknown
      then r else s.currentResult) = if s.order.length = s.numServers
        then finalResult s.isOtherClient s.order else mergedResult s.isOtherClient s.order
    rw [hcur, ← hc]
    -- the last thread stores what `finalResult` says, every other one leaves the merged result
    by_cases hfull : s.completed = s.numServers
    · have hl : isLast = true := hlast.mpr hfull
      rw [if_pos hfull]
      by_cases hu : (mergedResult s.isOtherClient s.order).state = .unknown
      · rw [if_pos ⟨⟨hl, by simp [hu]⟩, hu⟩, finalResult, if_pos hu, hmerged]
        rfl
      · rw [if_neg (fun hc => hu hc.2), finalResult, if_neg hu]
    · have hl : ¬ isLast = true := fun hl => hfull (hlast.mp hl)
      rw [if_neg (fun hc => hl hc.1.1), if_neg hfull]
  · exact fun result hr => absurd hr (h.not_returned hi (by simp [hpc]) result)

/-- When every thread is done, nobody is in the section. -/
theorem free_of_done (h : AggregateInv s) (hall : ∀ i < s.numServers, s.workers i = .done) :
    s.resultMutex = none := by
  cases hmx : s.resultMutex with
  | none => rfl
  | some j =>
      have hin := h.inSection_of_holder hmx
      have hj : j < s.numServers := h.bound j (by intro hr; rw [hr] at hin; cases hin)
      rw [hall j hj] at hin
      cases hin

/-- The main thread returns when every thread is done. -/
theorem returns (h : AggregateInv s) (hall : ∀ i < s.numServers, s.workers i = .done) :
    AggregateInv { s with main := .returned s.currentResult } := by
  refine ⟨h.bound, h.nodup, h.mem, h.holder, h.pending, h.recorded, h.shared, h.lasts, ?_⟩
  intro result hr
  cases hr
  have hfree := h.free_of_done hall
  have hlen : s.order.length = s.numServers := by
    -- every started thread is done, so each of them merged its result
    have hsub : (List.range s.numServers).Subperm (s.order.map Prod.fst) := by
      refine List.nodup_range.subperm ?_
      intro i hi
      rw [h.mem i, hall i (List.mem_range.mp hi)]
      rfl
    have hge := hsub.length_le
    rw [List.length_range, List.length_map] at hge
    exact le_antisymm h.length_le hge
  have hs := h.shared
  simp only [Aggregation.SectionInv, hfree, Aggregation.expected, hlen, if_true] at hs
  exact ⟨hall, hlen, hs.1, hs.2⟩

theorem step {s' : Aggregation} {l : AggregateLabel} (h : AggregateInv s)
    (hs : s.step l = some s') : AggregateInv s' := by
  cases Aggregation.step_move hs with
  | ret i outcome r hr hi hpc => exact h.ret hi hpc r
  | enter i r hpc hfree => exact h.enter hpc hfree
  | merge i r hpc => exact h.merge hpc
  | count i r hpc => exact h.count hpc
  | close i r isLast hpc => exact h.close hpc
  | print i f st isLast hpc =>
      exact h.goto_outside (h.bound i (by simp [hpc])) (by simp [hpc]) (by rw [hpc]; rfl)
        (by rw [hpc]; rfl) rfl rfl
  | notify i isLast hpc =>
      exact h.goto_outside (h.bound i (by simp [hpc])) (by simp [hpc]) (by rw [hpc]; rfl)
        (by rw [hpc]; rfl) rfl rfl
  | wake hall =>
      exact ⟨h.bound, h.nodup, h.mem, h.holder, h.pending, h.recorded, h.shared, h.lasts,
        fun _ hr => by cases hr⟩
  | returns hall => exact h.returns hall

end AggregateInv

theorem Aggregation.step_config {s s' : Aggregation} {l : AggregateLabel}
    (h : s.step l = some s') :
    s'.numServers = s.numServers ∧ s'.isOtherClient = s.isOtherClient := by
  cases Aggregation.step_move h <;> exact ⟨rfl, rfl⟩

theorem aggregateInv_of_reachable {n : Nat} {isOther : Nat → Bool} {s : Aggregation} (hn : 0 < n)
    (h : Reachable Aggregation.step (Aggregation.start n isOther) s) :
    AggregateInv s ∧ s.numServers = n ∧ s.isOtherClient = isOther := by
  refine h.inv (I := fun s => AggregateInv s ∧ s.numServers = n ∧ s.isOtherClient = isOther) ?_
    ⟨.start n isOther hn, rfl, rfl⟩
  rintro a l b ⟨hI, hnum, hother⟩ hs
  obtain ⟨h₁, h₂⟩ := Aggregation.step_config hs
  exact ⟨hI.step hs, h₁.trans hnum, h₂.trans hother⟩

/-- **The results are aggregated correctly in every order.** When `GetResult` has returned,
every thread merged the outcome of its `RunServer` exactly once, exactly one thread found itself
the last, and the result is the one that `AggregateSpec` gives for the order of the merges. -/
theorem aggregation_correct {n : Nat} {isOther : Nat → Bool} {s : Aggregation}
    {result : UnlockResult} (hn : 0 < n)
    (h : Reachable Aggregation.step (Aggregation.start n isOther) s)
    (hr : s.main = .returned result) :
    (s.order.map Prod.fst).Perm (List.range n) ∧ (∀ o ∈ s.order, s.outcomes o.1 = some o.2) ∧
      s.lasts.length = 1 ∧ AggregateSpec isOther s.order result := by
  obtain ⟨hI, rfl, rfl⟩ := aggregateInv_of_reachable hn h
  obtain ⟨hall, hlen, hcompleted, hres⟩ := hI.returned result hr
  have hperm : (s.order.map Prod.fst).Perm (List.range s.numServers) :=
    hI.subperm.perm_of_length_le (by simp [hlen])
  have hne : s.order ≠ [] := by
    intro hnil
    rw [hnil] at hlen
    simp only [List.length_nil] at hlen
    omega
  have hlast : s.lasts.length = 1 := by rw [hI.lasts, if_pos hcompleted]
  exact ⟨hperm, hI.recorded, hlast, hres ▸ aggregateSpec hne⟩

namespace Sample

/-- Two connections: the second succeeds while the first reports a phone's error, and the first
one merges its result last. -/
def twoResults : List AggregateLabel :=
  [AggregateLabel.ret 1 (some { state := .success, password := str "pw" }),
    .ret 0 (some { state := .appError })] ++
    List.replicate 6 (AggregateLabel.worker 1) ++ List.replicate 6 (AggregateLabel.worker 0) ++
    [AggregateLabel.main, .main]

end Sample

theorem aggregation_correct_sample : ∃ s result,
    exec Aggregation.step (Aggregation.start 2 (fun _ => false)) Sample.twoResults = some s ∧
    s.main = .returned result ∧ s.lasts.length = 1 ∧
    AggregateSpec (fun _ => false) s.order result := by
  have hrun : (exec Aggregation.step (Aggregation.start 2 (fun _ => false))
      Sample.twoResults).map (·.main) =
      some (.returned { state := .success, password := str "pw" }) := by decide +kernel
  obtain ⟨s, hs, hmain⟩ := Option.map_eq_some_iff.mp hrun
  obtain ⟨-, -, hlast, hspec⟩ := aggregation_correct (by decide) ⟨_, hs⟩ hmain
  exact ⟨s, _, hs, hmain, hlast, hspec⟩

end PcbuDesktop
