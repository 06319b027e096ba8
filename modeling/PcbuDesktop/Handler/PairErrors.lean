import PcbuDesktop.Handler.RunServer

set_option autoImplicit false

/-! # Errors that the Bluetooth clients of a device share

A phone answers one of the two clients of a device; the other one reports the same error instead of a
timeout. The errors are in the static map `BTUnlockClient::pairErrors`, which is never cleared: an entry
counts only if it was stamped after the start of the client that looks at it
(`connection/unlock/clients/BTUnlockClient.cpp`).

Here rounds of `GetResult` follow each other, with any number of Bluetooth clients each. The steady clock
moves on between two rounds; inside a round it may stand still. `PollResult` is two steps, the load of
the client's own state and the section under `pairErrorsMutex`, and the state of a client may change in
between. What a client can find in the map is the parameter `shared` of `pollResult`.
-/

namespace PcbuDesktop

open Runs

namespace PairErrors

/-! ## The state -/

structure PairError where
  state : UnlockState
  time : Nat
  deriving DecidableEq, Repr

/-- A `BTUnlockClient` with the `RunServer` that polls it; `reached` is never read. -/
structure BtClient where
  deviceAddress : Str
  conn : Conn
  hasConnected : Bool := false
  /-- `m_StartTime`, once `Start` has been called -/
  startTime : Option Nat := none
  /-- `PollResult` has loaded this state and waits for the mutex -/
  loaded : Option UnlockState := none
  /-- what `PollResult` returned last -/
  returned : Option UnlockState := none
  /-- the states that `m_UnlockState` has had -/
  reached : List UnlockState := []

/-- The map and the clients of the current round; `roundStart` is never read. -/
structure State where
  pairErrors : Str → Option PairError := fun _ => none
  /-- `steady_clock::now()` -/
  now : Nat := 0
  numClients : Nat := 0
  clients : Nat → Option BtClient := fun _ => none
  roundStart : Nat := 0

inductive Step where
  /-- the next round creates these clients -/
  | getResult (elapsed : Nat) (created : List (Str × Conn))
  | elapse (d : Nat)
  | start (i : Nat)
  /-- a client's own thread works -/
  | work (i : Nat) (conn : Conn) (hasConnected : Bool)
  | pollLoad (i : Nat)
  | pollSection (i : Nat)

/-! ## The functions -/

section

variable (s : State)

def setClient (i : Nat) (c : BtClient) : State :=
  { s with clients := Function.update s.clients i (some c) }

/-- What `PollResult` finds in the map for this client. -/
def shared (c : BtClient) : Option UnlockState :=
  match s.pairErrors c.deviceAddress with
  | none => none
  | some e => if c.startTime.getD 0 ≤ e.time then some e.state else none

/-- What `PollResult` returns after it has loaded this state. -/
def polled (c : BtClient) (state : UnlockState) : UnlockState :=
  pollResult true { c.conn with unlockState := state } (shared s c) c.hasConnected

/-- The section of `PollResult`. -/
def pollSection (i : Nat) (c : BtClient) (state : UnlockState) : State :=
  let s' := setClient s i { c with loaded := none, returned := some (polled s c state) }
  if isPhoneError state then
    { s' with pairErrors :=
        Function.update s.pairErrors c.deviceAddress (some { state := state, time := s.now }) }
  else s'

/-- No thread of the round is in `PollResult`. -/
def quiet : Bool :=
  (List.range s.numClients).all (fun i => (s.clients i).all (fun c => c.loaded.isNone))

def createClient (spec : Str × Conn) : BtClient :=
  { deviceAddress := spec.1
    conn := { spec.2 with unlockState := .unknown }
    reached := [.unknown] }

def step : Step → Option State
  | .getResult elapsed created =>
      if quiet s then
        some { s with
          now := s.now + elapsed + 1
          roundStart := s.now + elapsed + 1
          numClients := created.length
          clients := fun i => created[i]?.map createClient }
      else none
  | .elapse d => some { s with now := s.now + d }
  | .start i => (s.clients i).map (fun c => setClient s i { c with startTime := some s.now })
  | .work i conn hasConnected => (s.clients i).map (fun c => setClient s i { c with
      conn := conn, hasConnected := hasConnected, reached := conn.unlockState :: c.reached })
  | .pollLoad i => (s.clients i).bind (fun c =>
      -- `RunServer` polls after `Start`, and one poll after the other
      if c.startTime.isSome ∧ c.loaded = none then
        some (setClient s i { c with loaded := some c.conn.unlockState })
      else none)
  | .pollSection i => (s.clients i).bind (fun c => c.loaded.map (fun state => pollSection s i c state))

end

/-! ## Entries of the round -/

/-- Some client of the round with this address has had this state. -/
def Reached (s : State) (address : Str) (state : UnlockState) : Prop :=
  ∃ i c, s.clients i = some c ∧ c.deviceAddress = address ∧ state ∈ c.reached

/-- Entries that were stamped in this round, and whatever was returned in it, come from its clients. -/
structure Inv (s : State) : Prop where
  clock : s.roundStart ≤ s.now
  entry : ∀ address e, s.pairErrors address = some e → s.roundStart ≤ e.time → Reached s address e.state
  stamped : ∀ address e, s.pairErrors address = some e → e.time ≤ s.now
  started : ∀ i c t, s.clients i = some c → c.startTime = some t → s.roundStart ≤ t
  polling : ∀ i c state, s.clients i = some c → c.loaded = some state →
    c.startTime.isSome = true ∧ state ∈ c.reached
  own : ∀ i c, s.clients i = some c → c.conn.unlockState ∈ c.reached
  returned : ∀ i c state, s.clients i = some c → c.returned = some state → isPhoneError state = true →
    Reached s c.deviceAddress state

section

variable {s s' : State}

/-- A client keeps its address and what it has reached. -/
theorem Reached.setClient {i : Nat} {c c' : BtClient} {address : Str} {state : UnlockState}
    (h : Reached s address state) (hc : s.clients i = some c)
    (haddress : c'.deviceAddress = c.deviceAddress) (hreached : c.reached ⊆ c'.reached) :
    Reached (setClient s i c') address state := by
  obtain ⟨j, d, hd, hda, hds⟩ := h
  by_cases hj : j = i
  · subst hj
    rw [hc] at hd
    cases hd
    exact ⟨j, c', Function.update_self _ _ _, haddress.trans hda, hreached hds⟩
  · refine ⟨j, d, ?_, hda, hds⟩
    exact (Function.update_of_ne hj _ _).trans hd

/-- A step of one client that leaves the map and the clock alone. -/
theorem Inv.setClient (h : Inv s) {i : Nat} {c c' : BtClient} (hc : s.clients i = some c)
    (haddress : c'.deviceAddress = c.deviceAddress) (hreached : c.reached ⊆ c'.reached)
    (hstarted : ∀ t, c'.startTime = some t → c.startTime = some t ∨ s.roundStart ≤ t)
    (hpolling : ∀ state, c'.loaded = some state → c'.startTime.isSome = true ∧ state ∈ c'.reached)
    (hown : c'.conn.unlockState ∈ c'.reached)
    (hreturned : ∀ state, c'.returned = some state → isPhoneError state = true →
      Reached s c.deviceAddress state) : Inv (setClient s i c') where
  clock := h.clock
  entry := by
    intro address e he htime
    exact (h.entry address e he htime).setClient hc haddress hreached
  stamped := h.stamped
  started := by
    intro j d t hd ht
    rcases update_eq_some hd with ⟨rfl, heq⟩ | ⟨-, hold⟩
    · cases heq
      rcases hstarted t ht with hbefore | hnow
      · exact h.started j c t hc hbefore
      · exact hnow
    · exact h.started j d t hold ht
  polling := by
    intro j d state hd hstate
    rcases update_eq_some hd with ⟨rfl, heq⟩ | ⟨-, hold⟩
    · cases heq
      exact hpolling state hstate
    · exact h.polling j d state hold hstate
  own := by
    intro j d hd
    rcases update_eq_some hd with ⟨rfl, heq⟩ | ⟨-, hold⟩
    · cases heq
      exact hown
    · exact h.own j d hold
  returned := by
    intro j d state hd hstate herror
    rcases update_eq_some hd with ⟨rfl, heq⟩ | ⟨-, hold⟩
    · cases heq
      rw [haddress]
      exact (hreturned state hstate herror).setClient hc haddress hreached
    · exact (h.returned j d state hold hstate herror).setClient hc haddress hreached

/-! ## `PollResult` -/

/-- `PollResult` reports another state than the client's own only as an entry of the map, or as
`CANCELED`. -/
theorem polled_cases (s : State) (c : BtClient) (state : UnlockState) :
    polled s c state = state ∨ polled s c state = .canceled ∨
      shared s c = some (polled s c state) := by
  unfold polled pollResult
  simp only [Bool.true_eq_false, if_false]
  by_cases hown : isPhoneError state = true ∨ state = .success
  · exact Or.inl (if_pos hown)
  · rw [if_neg hown]
    split
    · rename_i st hshared
      exact Or.inr (Or.inr hshared)
    · split
      · exact Or.inr (Or.inl rfl)
      · exact Or.inl rfl

theorem polled_success (s : State) (c : BtClient) : polled s c .success = .success := by
  unfold polled pollResult
  simp only [Bool.true_eq_false, if_false, or_true, if_true]

/-- An entry that a started client sees was stamped in its round. -/
theorem Inv.shared_reached (h : Inv s) {i : Nat} {c : BtClient} {state : UnlockState}
    (hc : s.clients i = some c) (hstarted : c.startTime.isSome = true)
    (hshared : shared s c = some state) : Reached s c.deviceAddress state := by
  obtain ⟨t, ht⟩ := Option.isSome_iff_exists.mp hstarted
  unfold shared at hshared
  split at hshared
  · cases hshared
  · rename_i e he
    rw [ht, Option.getD_some] at hshared
    split at hshared
    · rename_i htime
      cases hshared
      exact h.entry c.deviceAddress e he ((h.started i c t hc ht).trans htime)
    · cases hshared

theorem Inv.polled_reached (h : Inv s) {i : Nat} {c : BtClient} {state : UnlockState}
    (hc : s.clients i = some c) (hloaded : c.loaded = some state)
    (herror : isPhoneError (polled s c state) = true) :
    Reached s c.deviceAddress (polled s c state) := by
  obtain ⟨hstarted, hreached⟩ := h.polling i c state hc hloaded
  rcases polled_cases s c state with hown | hcanceled | hshared
  · rw [hown]
    exact ⟨i, c, hc, rfl, hreached⟩
  · rw [hcanceled] at herror
    cases herror
  · exact h.shared_reached hc hstarted hshared

theorem Inv.pollSection (h : Inv s) {i : Nat} {c : BtClient} {state : UnlockState}
    (hc : s.clients i = some c) (hloaded : c.loaded = some state) :
    Inv (pollSection s i c state) := by
  have hreached := (h.polling i c state hc hloaded).2
  have hinv : Inv (PairErrors.setClient s i
      { c with loaded := none, returned := some (polled s c state) }) := by
    refine h.setClient hc rfl (List.Subset.refl _) (fun t ht => Or.inl ht) nofun (h.own i c hc) ?_
    intro st hst herror
    cases hst
    exact h.polled_reached hc hloaded herror
  unfold PairErrors.pollSection
  dsimp only
  split
  · refine ⟨hinv.clock, ?_, ?_, hinv.started, hinv.polling, hinv.own, hinv.returned⟩
    · intro address e he htime
      rcases update_eq_some he with ⟨rfl, heq⟩ | ⟨-, hold⟩
      · cases heq
        exact ⟨i, _, Function.update_self _ _ _, rfl, hreached⟩
      · exact hinv.entry address e hold htime
    · intro address e he
      rcases update_eq_some he with ⟨rfl, heq⟩ | ⟨-, hold⟩
      · cases heq
        exact Nat.le_refl _
      · exact hinv.stamped address e hold
  · exact hinv

/-! ## Rounds -/

/-- All entries are older than a new round. -/
theorem Inv.getResult (h : Inv s) (elapsed : Nat) (created : List (Str × Conn)) :
    Inv { s with
      now := s.now + elapsed + 1
      roundStart := s.now + elapsed + 1
      numClients := created.length
      clients := fun i => created[i]?.map createClient } := by
  have hnew : ∀ (i : Nat) (c : BtClient), created[i]?.map createClient = some c →
      ∃ spec, c = createClient spec := by
    intro i c hc
    obtain ⟨spec, -, rfl⟩ := Option.map_eq_some_iff.mp hc
    exact ⟨spec, rfl⟩
  constructor
  · exact Nat.le_refl _
  · intro address e he htime
    have hold := h.stamped address e he
    have hround : s.now + elapsed + 1 ≤ e.time := htime
    omega
  · intro address e he
    have hold := h.stamped address e he
    show e.time ≤ s.now + elapsed + 1
    omega
  · intro i c t hc ht
    obtain ⟨spec, rfl⟩ := hnew i c hc
    cases ht
  · intro i c state hc hstate
    obtain ⟨spec, rfl⟩ := hnew i c hc
    cases hstate
  · intro i c hc
    obtain ⟨spec, rfl⟩ := hnew i c hc
    exact List.mem_cons_self
  · intro i c state hc hstate
    obtain ⟨spec, rfl⟩ := hnew i c hc
    cases hstate

theorem Inv.step (h : Inv s) {l : Step} (hstep : step s l = some s') : Inv s' := by
  cases l with
  | getResult elapsed created =>
      simp only [PairErrors.step] at hstep
      split at hstep
      · cases hstep
        exact h.getResult elapsed created
      · cases hstep
  | elapse d =>
      cases hstep
      refine ⟨?_, h.entry, ?_, h.started, h.polling, h.own, h.returned⟩
      · exact h.clock.trans (Nat.le_add_right _ _)
      · exact fun address e he => (h.stamped address e he).trans (Nat.le_add_right _ _)
  | start i =>
      obtain ⟨c, hc, rfl⟩ := Option.map_eq_some_iff.mp hstep
      refine h.setClient hc rfl (List.Subset.refl _) ?_ ?_ (h.own i c hc) (h.returned i c · hc)
      · intro t ht
        cases ht
        exact Or.inr h.clock
      · intro state hstate
        exact ⟨rfl, (h.polling i c state hc hstate).2⟩
  | work i conn hasConnected =>
      obtain ⟨c, hc, rfl⟩ := Option.map_eq_some_iff.mp hstep
      refine h.setClient hc rfl (List.subset_cons_self _ _) (fun t ht => Or.inl ht) ?_
        List.mem_cons_self (h.returned i c · hc)
      intro state hstate
      obtain ⟨hstarted, hreached⟩ := h.polling i c state hc hstate
      exact ⟨hstarted, List.mem_cons_of_mem _ hreached⟩
  | pollLoad i =>
      obtain ⟨c, hc, hload⟩ := Option.bind_eq_some_iff.mp hstep
      split at hload
      · rename_i hready
        cases hload
        refine h.setClient hc rfl (List.Subset.refl _) (fun t ht => Or.inl ht) ?_ (h.own i c hc)
          (h.returned i c · hc)
        intro state hstate
        cases hstate
        exact ⟨hready.1, h.own i c hc⟩
      · cases hload
  | pollSection i =>
      obtain ⟨c, hc, hsection⟩ := Option.bind_eq_some_iff.mp hstep
      obtain ⟨state, hloaded, rfl⟩ := Option.map_eq_some_iff.mp hsection
      exact h.pollSection hc hloaded

theorem inv_init : Inv {} where
  clock := Nat.le_refl _
  entry := fun _ _ he => absurd he (Option.some_ne_none _).symm
  stamped := fun _ _ he => absurd he (Option.some_ne_none _).symm
  started := fun _ _ _ hc => absurd hc (Option.some_ne_none _).symm
  polling := fun _ _ _ hc => absurd hc (Option.some_ne_none _).symm
  own := fun _ _ hc => absurd hc (Option.some_ne_none _).symm
  returned := fun _ _ _ hc => absurd hc (Option.some_ne_none _).symm

/-- A phone error that `PollResult` has returned was reached by a client of the same round with the same
address, and a client that has loaded its own success returns it. A success that is set between the load
and the section is not this one's: the next call returns it. -/
theorem shared_errors_of_round (h : Reachable PairErrors.step {} s) :
    (∀ i c state, s.clients i = some c → c.returned = some state → isPhoneError state = true →
        Reached s c.deviceAddress state) ∧
      ∀ i c s', s.clients i = some c → c.loaded = some .success →
        PairErrors.step s (.pollSection i) = some s' →
        ∃ c', s'.clients i = some c' ∧ c'.returned = some .success := by
  have hinv : Inv s := h.inv (fun _ _ _ hi hs => hi.step hs) inv_init
  refine ⟨hinv.returned, ?_⟩
  intro i c s' hc hloaded hstep
  have hs' : s' = PairErrors.pollSection s i c .success := by
    simp only [PairErrors.step, hc, hloaded, Option.bind_some, Option.map_some] at hstep
    exact (Option.some.inj hstep).symm
  rw [hs']
  refine ⟨_, Function.update_self _ _ _, ?_⟩
  rw [polled_success]

/-- A round that ends with an error, and the next one, in which the second client first finds nothing,
then its twin's error, and then has a success of its own. -/
def twoRounds : List Step :=
  [.getResult 0 [(str "00:11", {})], .start 0, .work 0 { unlockState := .timeError } true,
    .pollLoad 0, .pollSection 0,
    .getResult 0 [(str "00:11", {}), (str "00:11", { otherClient := true })], .start 0, .start 1,
    .pollLoad 1, .pollSection 1, .work 0 { unlockState := .appError } true, .pollLoad 0,
    .pollSection 0, .pollLoad 1, .pollSection 1, .work 1 { unlockState := .success } true, .pollLoad 1]

theorem shared_errors_of_round_twoRounds : ∃ s c s' c', exec PairErrors.step {} twoRounds = some s ∧
    s.clients 1 = some c ∧ c.returned = some .appError ∧ Reached s c.deviceAddress .appError ∧
    PairErrors.step s (.pollSection 1) = some s' ∧ s'.clients 1 = some c' ∧
    c'.returned = some .success := by
  have hrun : (exec PairErrors.step {} twoRounds).any (fun s => decide
      ((s.clients 1).any (fun c => decide (c.returned = some .appError ∧ c.loaded = some .success)) = true ∧
        (PairErrors.step s (.pollSection 1)).isSome = true)) = true := by
    decide +kernel
  obtain ⟨s, hs, hclient, hsome⟩ := exec_of_test hrun
  obtain ⟨c, hc, hboth⟩ := (Option.any_eq_true _ _).mp hclient
  obtain ⟨hreturned, hloaded⟩ := of_decide_eq_true hboth
  obtain ⟨s', hstep⟩ := Option.isSome_iff_exists.mp hsome
  obtain ⟨herrors, hsuccess⟩ := shared_errors_of_round ⟨_, hs⟩
  obtain ⟨c', hc', hr'⟩ := hsuccess 1 c s' hc hloaded hstep
  exact ⟨s, c, s', c', hs, hc, hreturned, herrors 1 c _ hc hreturned rfl, hstep, hc', hr'⟩

end

end PairErrors

end PcbuDesktop
