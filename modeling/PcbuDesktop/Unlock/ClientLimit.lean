import Mathlib.Data.Fintype.EquivFin
import PcbuDesktop.Lib.ThreadCount
import PcbuDesktop.Unlock.ServerPhase

set_option autoImplicit false

/-! # The limit of clients

The accept loop of `TCPUnlockServer` compares `m_NumConnections` with `MAX_CLIENTS` before it accepts a
connection. A thread raises the counter itself, after it was started, and lowers it before it closes its
socket: the counter is smaller than the number of open sockets by the threads outside of these two
points (`uncounted`). The limit is kept as long as a passed test would have passed with them, too, and
a test for which this fails can be followed by one connection too many.
-/

namespace PcbuDesktop

open Runs ThreadCount

/-- The thread is counted in `m_NumConnections`. -/
def ClientPc.counted : ClientPc → Bool
  | .flow | .uncount => true
  | _ => false

/-- The accept thread has a client socket: accepted and not yet given to a thread, or not closed after
a failure (a failure before the loop counts, too, where there is no other socket). -/
def AcceptPc.openSocket : AcceptPc → Nat
  | .configure _ | .start _ | .fail _ => 1
  | _ => 0

theorem AcceptPc.holding_le_one (pc : AcceptPc) : pc.holding ≤ 1 := by
  cases pc <;> simp [holding]

theorem AcceptPc.openSocket_le (pc : AcceptPc) : pc.openSocket ≤ pc.holding := by
  cases pc <;> simp [openSocket, holding]

namespace TCPUnlockServer

/-- The client threads, each of which has a socket. -/
def threads (s : TCPUnlockServer) : Nat := count s.clientThreads s.clients (fun _ => true)

/-- The accepted sockets that are not closed. -/
def openSockets (s : TCPUnlockServer) : Nat := s.threads + s.accept.openSocket

/-- The client threads before `++m_NumConnections` and after `--m_NumConnections`. -/
def uncounted (s : TCPUnlockServer) : Nat :=
  count s.clientThreads s.clients (fun pc => !pc.counted)

/-- The test of the accept loop does not pass because of uncounted threads. -/
def CountsAll (s : TCPUnlockServer) (l : ServerLabel) : Prop :=
  s.accept = .count → l = .accept .tau → s.numConnections < MAX_CLIENTS →
    s.numConnections + s.uncounted < MAX_CLIENTS

instance (s : TCPUnlockServer) (l : ServerLabel) : Decidable (CountsAll s l) :=
  inferInstanceAs (Decidable (_ → _))

structure LimitInv (s : TCPUnlockServer) : Prop where
  inv : ThreadsInv s
  counter : s.numConnections = (count s.clientThreads s.clients ClientPc.counted : Int)
  limit : (s.threads + s.accept.holding : Int) ≤ MAX_CLIENTS

section

variable {env : Env} {s s' : TCPUnlockServer}

/-- The counter is smaller than the number of threads by the uncounted ones. -/
theorem LimitInv.counter_add (h : LimitInv s) : s.numConnections + s.uncounted = s.threads := by
  have hsum := count_add_not s.clientThreads s.clients ClientPc.counted
  rw [h.counter]
  unfold uncounted threads
  omega

/-- The accept thread moves: it goes on to `accept()` only below the limit. -/
theorem LimitInv.acceptMove (h : LimitInv s) {l : ServerLabel} {pc : AcceptPc}
    (hcond : CountsAll s l) (hmove : AcceptMove s l pc) :
    (s.threads + pc.holding : Int) ≤ MAX_CLIENTS := by
  have hlimit := h.limit
  have hone := pc.holding_le_one
  rcases hmove.holding with hle | hbefore | ⟨hpc, hl, hfew⟩
  · omega
  · have hnone : s.threads = 0 := count_eq_zero (h.inv.before hbefore)
    have hmax : (1 : Int) ≤ MAX_CLIENTS := by decide
    omega
  · have hroom := hcond hpc hl hfew
    rw [h.counter_add] at hroom
    omega

/-- A client thread moves: the number of threads and the counter change by its own share. -/
theorem LimitInv.client (h : LimitInv s) {t : StreamId} {pc : ClientPc} (next : Option ClientPc) (n : Int)
    (hpc : s.clients t = some pc)
    (hn : n + one (some pc) ClientPc.counted = s.numConnections + one next ClientPc.counted) :
    n = (count s.clientThreads (Function.update s.clients t next) ClientPc.counted : Int) ∧
    (count s.clientThreads (Function.update s.clients t next) (fun _ => true) + s.accept.holding : Int)
      ≤ MAX_CLIENTS := by
  have hmem : t ∈ s.clientThreads := h.inv.known t pc hpc
  constructor
  · have hcount := count_update (f := s.clients) (p := ClientPc.counted) hmem next
    rw [hpc] at hcount
    have hcounter := h.counter
    omega
  · have hall := count_update (f := s.clients) (p := fun _ => true) hmem next
    have hnext : one next (fun _ => true) ≤ 1 := by
      unfold one
      split <;> decide
    have hold : one (s.clients t) (fun _ => true) = 1 := by
      rw [hpc]
      rfl
    have hlimit := h.limit
    unfold threads at hlimit
    omega

theorem LimitInv.move (h : LimitInv s) {l : ServerLabel} (hcond : CountsAll s l)
    (hmove : ServerMove env s l s') : LimitInv s' := by
  have hinv := h.inv.move hmove
  cases hmove with
  | start hpc =>
      have hlimit := h.limit
      rw [hpc] at hlimit
      exact ⟨hinv, h.counter, hlimit⟩
  | accept l pc hm => exact ⟨hinv, h.counter, h.acceptMove hcond hm⟩
  | halt l pc hm => exact ⟨hinv, h.counter, h.acceptMove hcond hm⟩
  | store l pc state hm hstate => exact ⟨hinv, h.counter, h.acceptMove hcond hm⟩
  | spawn l t hpc =>
      have hnone : s.clients t = none := h.inv.socket t (by rw [hpc]; rfl)
      have hmem : t ∈ s.clientThreads ++ [t] := List.mem_append_right _ (List.mem_singleton.mpr rfl)
      -- the socket of the accept thread becomes the socket of the new thread
      have hmoved : ∀ p : ClientPc → Bool,
          count (s.clientThreads ++ [t]) (Function.update s.clients t (some .count)) p =
            count s.clientThreads s.clients p + one (some .count) p := by
        intro p
        have hupdate := count_update (f := s.clients) (p := p) hmem (some .count)
        rw [count_append hnone, hnone] at hupdate
        exact hupdate
      refine ⟨hinv, ?_, ?_⟩
      · show s.numConnections = _
        rw [hmoved, h.counter]
        rfl
      · have hlimit := h.limit
        rw [hpc] at hlimit
        unfold threads
        dsimp only
        rw [hmoved]
        exact hlimit
  | count t hpc =>
      have hc := h.client (some .flow) (s.numConnections + 1) hpc (Int.add_zero _)
      exact ⟨hinv, hc.1, hc.2⟩
  | flow t i f c next evs hpc hf hm => exact ⟨hinv, h.counter, h.limit⟩
  | leave t hpc hf =>
      have hc := h.client (some .uncount) s.numConnections hpc rfl
      exact ⟨hinv, hc.1, hc.2⟩
  | uncount t hpc =>
      have hn : s.numConnections - 1 + 1 = s.numConnections + 0 := by omega
      have hc := h.client (some .poll) (s.numConnections - 1) hpc hn
      exact ⟨hinv, hc.1, hc.2⟩
  | poll t hpc =>
      have hc := h.client (some (if s.base.conn.unlockState = .unknown then .recount else .close))
        s.numConnections hpc (by split <;> rfl)
      exact ⟨hinv, hc.1, hc.2⟩
  | recount t hpc =>
      have hc := h.client
        (some (.setPhase (if s.numConnections > 0 then .phoneUnlocking else .serverWaiting)))
        s.numConnections hpc rfl
      exact ⟨hinv, hc.1, hc.2⟩
  | setPhase t phase hpc =>
      have hc := h.client (some .close) s.numConnections hpc rfl
      exact ⟨hinv, hc.1, hc.2⟩
  | close t hpc =>
      have hc := h.client none s.numConnections hpc rfl
      exact ⟨hinv, hc.1, hc.2⟩

theorem LimitInv.openSockets_le (h : LimitInv s) : (s.openSockets : Int) ≤ MAX_CLIENTS := by
  have hlimit := h.limit
  have hle := s.accept.openSocket_le
  unfold openSockets
  omega

/-- Behind a test that passed because of uncounted threads, the next connection is too many. -/
theorem exceeds_of_not_countsAll (h : LimitInv s) {l : ServerLabel} (hl : ¬ CountsAll s l) :
    ∃ t s', exec (step env) s [.accept .tau, .accept (.socket t)] = some s' ∧
      MAX_CLIENTS < s'.openSockets := by
  unfold CountsAll at hl
  push Not at hl
  obtain ⟨hpc, -, hfew, hmany⟩ := hl
  rw [h.counter_add] at hmany
  obtain ⟨t, ht⟩ := Infinite.exists_notMem_finset s.clientThreads.toFinset
  have hnew : s.clients t = none := by
    cases hc : s.clients t with
    | none => rfl
    | some pc => exact absurd (List.mem_toFinset.mpr (h.inv.known t pc hc)) ht
  refine ⟨t, { s with accept := .configure t }, ?_, ?_⟩
  · have hpass : ¬ s.numConnections ≥ MAX_CLIENTS := by omega
    have hlocal : s.localStep (.accept .tau) = some ({ s with accept := .accept }, []) := by
      unfold localStep acceptStep
      rw [hpc]
      dsimp only
      rw [if_neg hpass]
    have hlocal' : localStep { s with accept := .accept } (.accept (.socket t)) =
        some ({ s with accept := .configure t }, []) := by
      unfold localStep acceptStep
      exact if_pos hnew
    have htest : step env s (.accept .tau) = some { s with accept := .accept } := by
      unfold step layer
      rw [hlocal]
      rfl
    have haccept : step env { s with accept := .accept } (.accept (.socket t)) =
        some { s with accept := .configure t } := by
      unfold step layer
      rw [hlocal']
      rfl
    exact exec_cons_eq_some.mpr ⟨_, htest, by rw [exec_singleton]; exact haccept⟩
  · show MAX_CLIENTS < ((s.threads + 1 : Nat) : Int)
    omega

/-- As long as no test of the accept loop passes because of uncounted threads, the limit holds, and
where one would, it can be exceeded. -/
theorem client_limit (env : Env) (token user program : Str) (devices : List PairedDevice)
    (ls : List ServerLabel) (h : exec (step env) (create token user program devices) ls = some s)
    (hcond : Along (step env) CountsAll (create token user program devices) ls) :
    (s.openSockets : Int) ≤ MAX_CLIENTS ∧
    ∀ l, ¬ CountsAll s l → ∃ t s', exec (step env) s [.accept .tau, .accept (.socket t)] = some s' ∧
      MAX_CLIENTS < s'.openSockets := by
  have hinit : LimitInv (create token user program devices) :=
    ⟨threadsInv_create token user program devices, rfl, (by decide : (0 : Int) ≤ MAX_CLIENTS)⟩
  have hinv : LimitInv s :=
    exec_inv_along (fun _ _ _ hi hc hs => hi.move hc (step_move hi.inv.mode hi.inv.socket hs))
      hinit hcond h
  exact ⟨hinv.openSockets_le, fun l hl => exceeds_of_not_countsAll hinv hl⟩

end

end TCPUnlockServer

namespace Sample

/-- The accept thread starts the thread of a connection. -/
def accepts (t : StreamId) : List ServerLabel :=
  [.accept .tau, .accept .tau, .accept (.socket t), .accept (.result true), .accept (.result true)]

end Sample

namespace TCPUnlockServer

/-- Ten phones come, each thread counts itself before the next one, and the eleventh has to wait. -/
theorem client_limit_tenPhones : ∃ s, exec (step Sample.env) Sample.tcpServer (Sample.listening ++
      (List.range 10).flatMap Sample.phoneConnects ++
      [ServerLabel.accept .tau, ServerLabel.accept .tau]) = some s ∧
    s.accept = .loop ∧ s.openSockets = 10 ∧ (s.openSockets : Int) ≤ MAX_CLIENTS := by
  have hrun : (exec (step Sample.env) Sample.tcpServer (Sample.listening ++
      (List.range 10).flatMap Sample.phoneConnects ++
      [ServerLabel.accept .tau, ServerLabel.accept .tau])).any
        (fun s => decide (s.accept = .loop ∧ s.openSockets = 10)) = true := by
    decide +kernel
  obtain ⟨s, hs, hloop, hopen⟩ := exec_of_test hrun
  have hlimit := client_limit Sample.env _ _ _ _ _ hs
    (along_of_check (p := fun s l => decide (CountsAll s l)) (fun _ _ h => of_decide_eq_true h)
      (by decide +kernel))
  exact ⟨s, hs, hloop, hopen, hlimit.1⟩

/-- Eleven connections are accepted before one of their threads has run. -/
theorem client_limit_exceeded : ¬ ∀ (env : Env) (token user program : Str)
    (devices : List PairedDevice) (ls : List ServerLabel) (s : TCPUnlockServer),
    exec (step env) (create token user program devices) ls = some s →
      (s.openSockets : Int) ≤ MAX_CLIENTS := by
  intro h
  have hrun : (exec (step Sample.env) Sample.tcpServer (Sample.listening ++
      (List.range 11).flatMap Sample.accepts)).any (fun s => decide (s.openSockets = 11)) = true := by
    decide +kernel
  obtain ⟨s, hs, hopen⟩ := exec_of_test hrun
  have hlimit := h Sample.env _ _ _ _ _ s hs
  rw [hopen] at hlimit
  exact absurd hlimit (by decide)

end TCPUnlockServer

end PcbuDesktop
