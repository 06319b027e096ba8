import PcbuDesktop.Unlock.TcpServer

set_option autoImplicit false

/-! # The phase of a server and its clients

A client thread of `TCPUnlockServer` stores `PHONE_UNLOCKING` when it begins, and when it ends it stores
a phase that it takes from `m_NumConnections`. The load of the counter and the store of the phase are two
steps, so that the stored phase can be out of date: `SERVER_WAITING` over the exchange of a thread that
has come in between, or `PHONE_UNLOCKING` after the last thread has gone.
-/

namespace PcbuDesktop

open Runs

/-! ## What one step can do -/

/-- The accept thread has not come to its loop yet. -/
def AcceptPc.beforeLoop : AcceptPc → Bool
  | .idle | .setup _ => true
  | _ => false

/-- The accepted socket that has no thread yet. -/
def AcceptPc.socket : AcceptPc → Option StreamId
  | .configure t | .start t => some t
  | _ => none

/-- The accept thread has, or is about to have, a socket of its own: a socket that could not be given to
a thread is closed after the store to `m_UnlockState`. -/
def AcceptPc.holding : AcceptPc → Nat
  | .accept | .configure _ | .start _ | .fail _ => 1
  | _ => 0

namespace TCPUnlockServer

/-- How the program point of the accept thread can change where no thread is started. -/
structure AcceptMove (s : TCPUnlockServer) (l : ServerLabel) (pc : AcceptPc) : Prop where
  beforeLoop : pc.beforeLoop = true → s.accept.beforeLoop = true
  socket : ∀ t, pc.socket = some t → s.clients t = none
  holding : pc.holding ≤ s.accept.holding ∨ s.accept.beforeLoop = true ∨
    (s.accept = .count ∧ l = .accept .tau ∧ s.numConnections < MAX_CLIENTS)

/-- The moves of a server. -/
inductive ServerMove (env : Env) (s : TCPUnlockServer) : ServerLabel → TCPUnlockServer → Prop
  | start (hpc : s.accept = .idle) : ServerMove env s .start { s with
      accept := .setup .settings
      base := { s.base with conn := { s.base.conn with isRunning := true, phase := .serverWaiting } } }
  | accept (l : ServerLabel) (pc : AcceptPc) (hmove : AcceptMove s l pc) :
      ServerMove env s l { s with accept := pc }
  | halt (l : ServerLabel) (pc : AcceptPc) (hmove : AcceptMove s l pc) : ServerMove env s l { s with
      accept := pc
      base := { s.base with conn := { s.base.conn with isRunning := false } } }
  | store (l : ServerLabel) (pc : AcceptPc) (state : UnlockState) (hmove : AcceptMove s l pc)
      (hstate : state ≠ .unknown) : ServerMove env s l { s with
        accept := pc
        base := { s.base with conn := { s.base.conn with unlockState := state } } }
  | spawn (l : ServerLabel) (t : StreamId) (hpc : s.accept = .start t) : ServerMove env s l { s with
      accept := .loop
      clients := Function.update s.clients t (some .count)
      clientThreads := s.clientThreads ++ [t] }
  | count (t : StreamId) (hpc : s.clients t = some .count) :
      ServerMove env s (.client t .tau) { s with
        clients := Function.update s.clients t (some .flow)
        numConnections := s.numConnections + 1
        base := { s.base with
          flows := Function.update s.base.flows t (some .setPhase)
          live := t :: s.base.live
          started := true } }
  | flow (t : StreamId) (i : Input) (f : Flow) (c : Conn) (next : Option Flow) (evs : List Event)
      (hpc : s.clients t = some .flow) (hf : s.base.flows t = some f)
      (hmove : FlowMove env s.base.needsDeviceID t s.base.conn f i c next evs) :
      ServerMove env s (.client t i) { s with base := s.base.advance t c next evs }
  | leave (t : StreamId) (hpc : s.clients t = some .flow) (hf : s.base.flows t = none) :
      ServerMove env s (.client t .tau) { s with clients := Function.update s.clients t (some .uncount) }
  | uncount (t : StreamId) (hpc : s.clients t = some .uncount) :
      ServerMove env s (.client t .tau) { s with
        clients := Function.update s.clients t (some .poll)
        numConnections := s.numConnections - 1 }
  | poll (t : StreamId) (hpc : s.clients t = some .poll) :
      ServerMove env s (.client t .tau) { s with
        clients := Function.update s.clients t
          (some (if s.base.conn.unlockState = .unknown then .recount else .close)) }
  | recount (t : StreamId) (hpc : s.clients t = some .recount) :
      ServerMove env s (.client t .tau) { s with
        clients := Function.update s.clients t
          (some (.setPhase (if s.numConnections > 0 then .phoneUnlocking else .serverWaiting))) }
  | setPhase (t : StreamId) (phase : UnlockPhase) (hpc : s.clients t = some (.setPhase phase)) :
      ServerMove env s (.client t .tau) { s with
        clients := Function.update s.clients t (some .close)
        base := { s.base with conn := { s.base.conn with phase := phase } } }
  | close (t : StreamId) (hpc : s.clients t = some .close) :
      ServerMove env s (.client t .tau) { s with clients := Function.update s.clients t none }

section

variable {env : Env} {s s' : TCPUnlockServer}

/-- A step of the accept thread to a program point without a socket of its own. -/
theorem acceptMove_of_free {l : ServerLabel} {pc : AcceptPc} (hloop : pc.beforeLoop = false) (hsocket : pc.socket = none)
    (hholding : pc.holding = 0) : AcceptMove s l pc where
  beforeLoop := by
    intro h
    rw [hloop] at h
    cases h
  socket := by
    intro t ht
    rw [hsocket] at ht
    cases ht
  holding := Or.inl (by omega)

theorem outer_known {b : System} {store : OuterStore} (hmode : b.needsDeviceID = true)
    (h : b.outerEnabled store = true) : store.state ≠ .unknown := by
  unfold System.outerEnabled at h
  rw [if_pos hmode, Bool.or_eq_true, decide_eq_true_iff, decide_eq_true_iff] at h
  rcases h with rfl | rfl <;> exact nofun

/-- The only effect of a store by the accept thread. -/
theorem outer_exec {b b' : System} {store : OuterStore} (hmode : b.needsDeviceID = true)
    (h : exec (System.step env) b [.outer store] = some b') :
    b' = { b with conn := { b.conn with unlockState := store.state } } ∧ store.state ≠ .unknown := by
  rw [exec_singleton] at h
  cases System.step_move h with
  | outer store hen => exact ⟨rfl, outer_known hmode hen⟩

theorem acceptStep_move {m : TCPUnlockServer} {input : AcceptInput} {ks : List Label} {b : System}
    (hmode : s.base.needsDeviceID = true)
    (hsocket : ∀ t, s.accept.socket = some t → s.clients t = none)
    (h : s.acceptStep input = some (m, ks)) (hb : exec (System.step env) s.base ks = some b) :
    ServerMove env s (.accept input) { m with base := b } := by
  unfold acceptStep at h
  split at h
  · rename_i call hpc
    cases h
    cases hb
    refine .accept _ _ ⟨?_, ?_, Or.inr (Or.inl ?_)⟩
    · intro _
      rw [hpc]
      rfl
    · intro t ht
      cases call <;> cases ht
    · rw [hpc]
      rfl
  · rename_i call hpc
    cases h
    cases hb
    refine .accept _ _ ⟨?_, ?_, Or.inr (Or.inl ?_)⟩
    · intro hb
      cases call <;> cases hb
    · intro t ht
      cases call <;> cases ht
    · rw [hpc]
      rfl
  · cases h
    cases hb
    refine .accept _ _ ?_
    split
    · exact acceptMove_of_free rfl rfl rfl
    · exact acceptMove_of_free rfl rfl rfl
  · rename_i hpc
    cases h
    cases hb
    refine .accept _ _ ?_
    split
    · exact acceptMove_of_free rfl rfl rfl
    · rename_i hfew
      exact ⟨nofun, nofun, Or.inr (Or.inr ⟨hpc, rfl, by omega⟩)⟩
  · cases h
    cases hb
    exact .accept _ _ (acceptMove_of_free rfl rfl rfl)
  · cases h
    cases hb
    exact .accept _ _ (acceptMove_of_free rfl rfl rfl)
  · rename_i t hpc
    split at h
    · rename_i hnew
      cases h
      cases hb
      refine .accept _ _ ⟨nofun, ?_, Or.inl ?_⟩
      · intro u hu
        cases hu
        exact hnew
      · rw [hpc]
        exact Nat.le_refl _
    · cases h
  · rename_i t hpc
    cases h
    cases hb
    refine .accept _ _ ⟨nofun, ?_, Or.inl ?_⟩
    · intro u hu
      cases hu
      exact hsocket t (by rw [hpc]; rfl)
    · rw [hpc]
      exact Nat.le_refl _
  · rename_i t hpc
    cases h
    cases hb
    refine .accept _ _ ⟨nofun, nofun, Or.inl ?_⟩
    rw [hpc]
    exact Nat.le_refl _
  · rename_i t hpc
    cases h
    cases hb
    exact .spawn _ t hpc
  · rename_i t hpc
    cases h
    cases hb
    refine .accept _ _ ⟨nofun, nofun, Or.inl ?_⟩
    rw [hpc]
    exact Nat.le_refl _
  · cases h
    obtain ⟨rfl, hstate⟩ := outer_exec hmode hb
    exact .store _ _ _ (acceptMove_of_free rfl rfl rfl) hstate
  · cases h
    cases hb
    exact .halt _ _ (acceptMove_of_free rfl rfl rfl)
  · cases h
    obtain ⟨rfl, hstate⟩ := outer_exec hmode hb
    exact .store _ _ _ (acceptMove_of_free rfl rfl rfl) hstate
  · cases h
    obtain ⟨rfl, hstate⟩ := outer_exec hmode hb
    exact .store _ _ _ (acceptMove_of_free rfl rfl rfl) hstate
  · cases h
    cases hb
    exact .halt _ _ (acceptMove_of_free rfl rfl rfl)
  · cases h
    cases hb
    exact .halt _ _ (acceptMove_of_free rfl rfl rfl)
  · split at h
    · cases h
      cases hb
      exact .accept _ _ (acceptMove_of_free rfl rfl rfl)
    · cases h
  · cases h

theorem clientStep_move {m : TCPUnlockServer} {t : StreamId} {input : Input} {ks : List Label}
    {b : System} (h : s.clientStep t input = some (m, ks))
    (hb : exec (System.step env) s.base ks = some b) :
    ServerMove env s (.client t input) { m with base := b } := by
  unfold clientStep at h
  dsimp only at h
  split at h
  · rename_i hpc
    cases h
    rw [exec_singleton] at hb
    cases System.step_move hb with
    | spawn t hf hnew => exact .count t hpc
  · rename_i hpc
    split at h
    · cases h
      rw [exec_singleton] at hb
      cases System.step_move hb with
      | flow t i f c next evs hf hmove => exact .flow t _ f c next evs hpc hf hmove
    · rename_i hnone
      rw [not_not] at hnone
      split at h
      · rename_i htau
        cases h
        cases hb
        rw [htau]
        exact .leave t hpc hnone
      · cases h
  · rename_i hpc
    cases h
    cases hb
    exact .uncount t hpc
  · rename_i hpc
    cases h
    cases hb
    exact .poll t hpc
  · rename_i hpc
    cases h
    cases hb
    exact .recount t hpc
  · rename_i phase hpc
    cases h
    cases hb
    exact .setPhase t phase hpc
  · rename_i hpc
    cases h
    cases hb
    exact .close t hpc
  · cases h

theorem step_move {l : ServerLabel} (hmode : s.base.needsDeviceID = true)
    (hsocket : ∀ t, s.accept.socket = some t → s.clients t = none) (h : s.step env l = some s') :
    ServerMove env s l s' := by
  obtain ⟨m, ks, b, hl, hb, rfl⟩ := layer_eq_some h
  have hstay : AcceptMove s l s.accept := ⟨fun hb => hb, hsocket, Or.inl (Nat.le_refl _)⟩
  cases l with
  | start =>
      simp only [localStep] at hl
      split at hl
      · cases hl
        cases hb
        exact .accept _ s.accept hstay
      · split at hl
        · rename_i hpc
          cases hl
          cases hb
          exact .start hpc
        · cases hl
  | stop =>
      cases hl
      cases hb
      exact .halt _ s.accept hstay
  | accept input => exact acceptStep_move hmode hsocket hl hb
  | client t input => exact clientStep_move hl hb

/-! ## Moves of a client thread -/

/-- Between `SetPhase(PHONE_UNLOCKING)` and the end of `PerformAuthFlow`. -/
def inExchange : Option Flow → Bool
  | none | some .setPhase | some .caught => false
  | some _ => true

section

variable {b : Bool} {t : StreamId} {c c' : Conn} {f : Flow} {i : Input} {next : Option Flow}
  {evs : List Event}

theorem flowMove_isRunning (h : FlowMove env b t c f i c' next evs) : c'.isRunning = c.isRunning := by
  cases h <;> rfl

theorem flowMove_phase (h : FlowMove env b t c f i c' next evs) :
    f = .setPhase ∧ c'.phase = .phoneUnlocking ∨ f ≠ .setPhase ∧ c'.phase = c.phase := by
  cases h with
  | setPhase => exact Or.inl ⟨rfl, rfl⟩
  | _ => exact Or.inr ⟨nofun, rfl⟩

theorem flowMove_inExchange (h : FlowMove env b t c f i c' next evs) (hf : f ≠ .setPhase)
    (hnext : inExchange next = true) : inExchange (some f) = true := by
  cases h with
  | setPhase => exact absurd rfl hf
  | caught => cases hnext
  | _ => rfl

/-- A thread stores no `UNKNOWN`. -/
def Stores (f : Option Flow) : Prop := ∀ state, f = some (.store state) → state ≠ .unknown

theorem stores_handleUnverifiedError {state : UnlockState} (b : Bool) (hstate : state ≠ .unknown) :
    Stores (some (handleUnverifiedError state b)) := by
  intro st hst
  cases b with
  | true => cases hst
  | false =>
      cases hst
      exact hstate

theorem flowMove_stores (h : FlowMove env b t c f i c' next evs) : Stores next := by
  cases h with
  | lookup p hm =>
      rcases onPacketReceived_cases (c.info t) p with he | he | ⟨he, -, -⟩
      · rw [he]
        exact nofun
      · rw [he]
        exact nofun
      · rw [he]
        exact nofun
  | findNone id hm h => exact stores_handleUnverifiedError b nofun
  | answerError d seed r e => exact stores_handleUnverifiedError b (mapPacketError_ne_unknown nofun)
  | respond p d now =>
      rcases onResponseReceived_cases env c b p d now with
        ⟨st, hst, -, he⟩ | ⟨st, hst, -, he⟩ | ⟨r, he⟩
      · rw [he]
        exact stores_handleUnverifiedError b hst
      · rw [he]
        intro st' hst'
        cases hst'
        exact hst
      · rw [he]
        exact nofun
  | _ => exact nofun

theorem flowMove_unlockState (h : FlowMove env b t c f i c' next evs) (hf : Stores (some f))
    (hunknown : c'.unlockState = .unknown) : c.unlockState = .unknown := by
  cases h with
  | requestFailed e => exact absurd hunknown (mapPacketError_ne_unknown nofun)
  | store st => exact absurd hunknown (hf st rfl)
  | acceptState r => cases hunknown
  | fail e => exact absurd hunknown (mapPacketError_ne_unknown nofun)
  | caught => cases hunknown
  | _ => exact hunknown

end

/-! ## The phase -/

/-- The server runs and has no result yet. -/
def Watched (s : TCPUnlockServer) : Prop :=
  s.base.conn.isRunning = true ∧ s.base.conn.unlockState = .unknown

/-- The thread has its last store to the phase still to come. -/
def unsettled : Option ClientPc → Bool
  | none | some .close => false
  | some _ => true

/-- The phase that a thread stores at its end is not out of date: `SERVER_WAITING` is not stored over
the exchange of another thread, and `PHONE_UNLOCKING` not after the last store of all the others. -/
def StoresPhase (s : TCPUnlockServer) (l : ServerLabel) : Prop :=
  match l with
  | .client t _ =>
      match s.clients t with
      | some (.setPhase .phoneUnlocking) => Watched s →
          ∃ u ∈ s.clientThreads, u ≠ t ∧ unsettled (s.clients u) = true
      | some (.setPhase _) => Watched s → ∀ u ∈ s.clientThreads, inExchange (s.base.flows u) = false
      | _ => True
  | _ => True

/-- What holds of the threads of a server. -/
structure ThreadsInv (s : TCPUnlockServer) : Prop where
  mode : s.base.needsDeviceID = true
  socket : ∀ t, s.accept.socket = some t → s.clients t = none
  before : s.accept.beforeLoop = true → ∀ t, s.clients t = none
  known : ∀ t pc, s.clients t = some pc → t ∈ s.clientThreads
  flows : ∀ t f, s.base.flows t = some f → s.clients t = some .flow
  stores : ∀ t, Stores (s.base.flows t)
  phases : ∀ t phase, s.clients t = some (.setPhase phase) →
    phase = .phoneUnlocking ∨ phase = .serverWaiting

theorem threadsInv_create (token user program : Str) (devices : List PairedDevice) :
    ThreadsInv (create token user program devices) where
  mode := rfl
  socket := nofun
  before := fun _ _ => rfl
  known := nofun
  flows := by
    intro t f hf
    cases hf
  stores := by
    intro t state hstate
    cases hstate
  phases := nofun

/-- Only the program points and the mode count. -/
theorem ThreadsInv.congr (h : ThreadsInv s) (hmode : s'.base.needsDeviceID = s.base.needsDeviceID)
    (haccept : s'.accept = s.accept) (hclients : s'.clients = s.clients)
    (hthreads : s'.clientThreads = s.clientThreads) (hflows : s'.base.flows = s.base.flows) :
    ThreadsInv s' where
  mode := hmode.trans h.mode
  socket := by
    rw [haccept, hclients]
    exact h.socket
  before := by
    rw [haccept, hclients]
    exact h.before
  known := by
    rw [hclients, hthreads]
    exact h.known
  flows := by
    rw [hflows, hclients]
    exact h.flows
  stores := by
    rw [hflows]
    exact h.stores
  phases := by
    rw [hclients]
    exact h.phases

/-- The accept thread moves, and does not touch the threads. -/
theorem ThreadsInv.acceptMove (h : ThreadsInv s) {l : ServerLabel} {pc : AcceptPc} (hmove : AcceptMove s l pc) :
    ThreadsInv { s with accept := pc } where
  mode := h.mode
  socket := hmove.socket
  before := fun hb => h.before (hmove.beforeLoop hb)
  known := h.known
  flows := h.flows
  stores := h.stores
  phases := h.phases

/-- A client thread that exists goes to another program point. -/
theorem ThreadsInv.setClient (h : ThreadsInv s) {t : StreamId} {pc : ClientPc} {next : Option ClientPc}
    (hpc : s.clients t = some pc) (hflow : ∀ f, s.base.flows t = some f → next = some .flow)
    (hphase : ∀ phase, next = some (.setPhase phase) → phase = .phoneUnlocking ∨ phase = .serverWaiting) :
    ThreadsInv { s with clients := Function.update s.clients t next } where
  mode := h.mode
  socket := by
    intro u hu
    have hnone := h.socket u hu
    have hne : u ≠ t := by
      rintro rfl
      rw [hpc] at hnone
      cases hnone
    exact (Function.update_of_ne hne _ _).trans hnone
  before := by
    intro hb
    have hnone := h.before hb t
    rw [hpc] at hnone
    cases hnone
  known := by
    intro u k hu
    rcases update_eq_some hu with ⟨rfl, -⟩ | ⟨-, hold⟩
    · exact h.known u pc hpc
    · exact h.known u k hold
  flows := by
    intro u f hf
    by_cases hne : u = t
    · subst hne
      exact (Function.update_self _ _ _).trans (hflow f hf)
    · exact (Function.update_of_ne hne _ _).trans (h.flows u f hf)
  stores := h.stores
  phases := by
    intro u phase hu
    rcases update_eq_some hu with ⟨rfl, heq⟩ | ⟨-, hold⟩
    · exact hphase phase heq
    · exact h.phases u phase hold

theorem ThreadsInv.move (h : ThreadsInv s) {l : ServerLabel} (hmove : ServerMove env s l s') :
    ThreadsInv s' := by
  -- outside of `PerformAuthFlow` the base class has no program point for the thread
  have hleft : ∀ {t pc}, s.clients t = some pc → pc ≠ .flow → ∀ {next : Option ClientPc} f,
      s.base.flows t = some f → next = some .flow := by
    intro t pc hpc hne next f hf
    have hflow := h.flows t f hf
    rw [hpc] at hflow
    cases hflow
    exact absurd rfl hne
  cases hmove with
  | start hpc =>
      have hnone := h.before (by rw [hpc]; rfl)
      exact ⟨h.mode, nofun, fun _ => hnone, h.known, h.flows, h.stores, h.phases⟩
  | accept l pc hm => exact h.acceptMove hm
  | halt l pc hm => exact (h.acceptMove hm).congr rfl rfl rfl rfl rfl
  | store l pc state hm hstate => exact (h.acceptMove hm).congr rfl rfl rfl rfl rfl
  | spawn l t hpc =>
      have hnone := h.socket t (by rw [hpc]; rfl)
      refine ⟨h.mode, nofun, nofun, ?_, ?_, h.stores, ?_⟩
      · intro u k hu
        rcases update_eq_some hu with ⟨rfl, -⟩ | ⟨-, hold⟩
        · exact List.mem_append_right _ (List.mem_singleton.mpr rfl)
        · exact List.mem_append_left _ (h.known u k hold)
      · intro u f hf
        have hflow := h.flows u f hf
        have hne : u ≠ t := by
          rintro rfl
          rw [hnone] at hflow
          cases hflow
        exact (Function.update_of_ne hne _ _).trans hflow
      · intro u phase hu
        rcases update_eq_some hu with ⟨rfl, heq⟩ | ⟨-, hold⟩
        · cases heq
        · exact h.phases u phase hold
  | count t hpc =>
      have hinv : ThreadsInv { s with clients := Function.update s.clients t (some .flow) } :=
        h.setClient hpc (fun _ _ => rfl) nofun
      refine ⟨h.mode, hinv.socket, hinv.before, hinv.known, ?_, ?_, hinv.phases⟩
      · intro u f hf
        rcases update_eq_some hf with ⟨rfl, -⟩ | ⟨-, hold⟩
        · exact Function.update_self _ _ _
        · exact hinv.flows u f hold
      · intro u state hu
        rcases update_eq_some hu with ⟨rfl, heq⟩ | ⟨-, hold⟩
        · cases heq
        · exact h.stores u state hold
  | flow t i f c next evs hpc hf hm =>
      refine ⟨h.mode, h.socket, h.before, h.known, ?_, ?_, h.phases⟩
      · intro u g hg
        rcases update_eq_some hg with ⟨rfl, -⟩ | ⟨-, hold⟩
        · exact hpc
        · exact h.flows u g hold
      · intro u state hu
        rcases update_eq_some hu with ⟨rfl, heq⟩ | ⟨-, hold⟩
        · exact flowMove_stores hm state heq
        · exact h.stores u state hold
  | leave t hpc hf =>
      refine h.setClient hpc ?_ nofun
      intro f hsome
      rw [hf] at hsome
      cases hsome
  | uncount t hpc =>
      have hinv : ThreadsInv { s with clients := Function.update s.clients t (some .poll) } :=
        h.setClient hpc (hleft hpc nofun) nofun
      exact hinv.congr rfl rfl rfl rfl rfl
  | poll t hpc =>
      refine h.setClient hpc (hleft hpc nofun) ?_
      intro phase hphase
      split at hphase <;> cases hphase
  | recount t hpc =>
      refine h.setClient hpc (hleft hpc nofun) ?_
      intro phase hphase
      split at hphase
      · cases hphase
        exact Or.inl rfl
      · cases hphase
        exact Or.inr rfl
  | setPhase t phase hpc =>
      have hinv : ThreadsInv { s with clients := Function.update s.clients t (some .close) } :=
        h.setClient hpc (hleft hpc nofun) nofun
      exact hinv.congr rfl rfl rfl rfl rfl
  | close t hpc => exact h.setClient hpc (hleft hpc nofun) nofun

/-- The phase follows the clients: while a thread is in its exchange, it is `PHONE_UNLOCKING`, and without
any thread it is `SERVER_WAITING`. -/
def PhaseFollows (s : TCPUnlockServer) : Prop :=
  Watched s →
    ((∃ t, inExchange (s.base.flows t) = true) → s.base.conn.getPhase = .phoneUnlocking) ∧
    ((∀ t, s.clients t = none) → s.base.conn.getPhase = .serverWaiting)

structure PhaseInv (s : TCPUnlockServer) : Prop where
  threads : ThreadsInv s
  waiting : Watched s → s.base.conn.phase = .serverWaiting ∨ ∃ t, unsettled (s.clients t) = true
  exchange : Watched s → ∀ t, inExchange (s.base.flows t) = true → s.base.conn.phase = .phoneUnlocking

/-- A thread moves on before its last store to the phase. -/
theorem exists_unsettled (clients : StreamId → Option ClientPc) (t : StreamId) {pc : ClientPc}
    (hpc : unsettled (some pc) = true) :
    ∃ u, unsettled (Function.update clients t (some pc) u) = true := by
  refine ⟨t, ?_⟩
  rw [Function.update_self]
  exact hpc

/-- A thread that was settled, or did not exist, is not missed. -/
theorem unsettled_update {clients : StreamId → Option ClientPc} {t : StreamId}
    (ht : unsettled (clients t) = false) (next : Option ClientPc)
    (h : ∃ u, unsettled (clients u) = true) :
    ∃ u, unsettled (Function.update clients t next u) = true := by
  obtain ⟨u, hu⟩ := h
  have hne : u ≠ t := by
    rintro rfl
    rw [ht] at hu
    cases hu
  refine ⟨u, ?_⟩
  rw [Function.update_of_ne hne]
  exact hu

theorem mem_of_inExchange (h : ThreadsInv s) {t : StreamId} (ht : inExchange (s.base.flows t) = true) :
    t ∈ s.clientThreads := by
  cases hf : s.base.flows t with
  | none =>
      rw [hf] at ht
      cases ht
  | some f => exact h.known t _ (h.flows t f hf)

theorem inExchange_update {flows : StreamId → Option Flow} {t u : StreamId} {next : Option Flow}
    (h : inExchange (Function.update flows t next u) = true) :
    u = t ∧ inExchange next = true ∨ inExchange (flows u) = true := by
  by_cases hut : u = t
  · subst hut
    rw [Function.update_self] at h
    exact Or.inl ⟨rfl, h⟩
  · rw [Function.update_of_ne hut] at h
    exact Or.inr h

/-- The store of the phase at the end of a thread. -/
theorem PhaseInv.setPhase (h : PhaseInv s) {t : StreamId} {phase : UnlockPhase}
    (hpc : s.clients t = some (.setPhase phase)) (hcond : StoresPhase s (.client t .tau))
    (hthreads : ThreadsInv { s with
      clients := Function.update s.clients t (some .close)
      base := { s.base with conn := { s.base.conn with phase := phase } } }) :
    PhaseInv { s with
      clients := Function.update s.clients t (some .close)
      base := { s.base with conn := { s.base.conn with phase := phase } } } := by
  unfold StoresPhase at hcond
  rcases h.threads.phases t phase hpc with rfl | rfl
  · simp only [hpc] at hcond
    refine ⟨hthreads, ?_, fun _ _ _ => rfl⟩
    intro hw
    obtain ⟨u, -, hne, hu⟩ := hcond hw
    refine Or.inr ⟨u, ?_⟩
    exact (congrArg unsettled (Function.update_of_ne hne _ _)).trans hu
  · simp only [hpc] at hcond
    refine ⟨hthreads, fun _ => Or.inl rfl, ?_⟩
    intro hw u hu
    rw [hcond hw u (mem_of_inExchange h.threads hu)] at hu
    cases hu

/-- The moves of a thread inside `PerformAuthFlow`. -/
theorem PhaseInv.flow (h : PhaseInv s) {t : StreamId} {i : Input} {f : Flow} {c : Conn}
    {next : Option Flow} {evs : List Event} (hpc : s.clients t = some .flow)
    (hf : s.base.flows t = some f) (hmove : FlowMove env s.base.needsDeviceID t s.base.conn f i c next evs)
    (hthreads : ThreadsInv { s with base := s.base.advance t c next evs }) :
    PhaseInv { s with base := s.base.advance t c next evs } := by
  have hstores : Stores (some f) := by
    rw [← hf]
    exact h.threads.stores t
  have hbefore : Watched { s with base := s.base.advance t c next evs } → Watched s := by
    rintro ⟨hrunning, hunknown⟩
    exact ⟨(flowMove_isRunning hmove).symm.trans hrunning, flowMove_unlockState hmove hstores hunknown⟩
  refine ⟨hthreads, ?_, ?_⟩
  · intro _
    refine Or.inr ⟨t, ?_⟩
    rw [hpc]
    rfl
  · intro hw u hu
    rcases flowMove_phase hmove with ⟨-, hphase⟩ | ⟨hne, hphase⟩
    · exact hphase
    · refine hphase.trans (h.exchange (hbefore hw) u ?_)
      have hafter : inExchange (Function.update s.base.flows t next u) = true := hu
      rcases inExchange_update hafter with ⟨rfl, hnext⟩ | hold
      · rw [hf]
        exact flowMove_inExchange hmove hne hnext
      · exact hold

theorem PhaseInv.move (h : PhaseInv s) {l : ServerLabel} (hcond : StoresPhase s l)
    (hmove : ServerMove env s l s') : PhaseInv s' := by
  have hthreads := h.threads.move hmove
  cases hmove with
  | start hpc =>
      refine ⟨hthreads, fun _ => Or.inl rfl, ?_⟩
      intro _ t ht
      -- there is no thread before `Start`
      have hin : inExchange (s.base.flows t) = true := ht
      cases hf : s.base.flows t with
      | none =>
          rw [hf] at hin
          cases hin
      | some f =>
          have hnone := h.threads.before (by rw [hpc]; rfl) t
          rw [h.threads.flows t f hf] at hnone
          cases hnone
  | accept l pc hm => exact ⟨hthreads, h.waiting, h.exchange⟩
  | halt l pc hm => exact ⟨hthreads, fun hw => absurd hw.1 nofun, fun hw => absurd hw.1 nofun⟩
  | store l pc state hm hstate =>
      exact ⟨hthreads, fun hw => absurd hw.2 hstate, fun hw => absurd hw.2 hstate⟩
  | spawn l t hpc => exact ⟨hthreads, fun _ => Or.inr (exists_unsettled s.clients t rfl), h.exchange⟩
  | count t hpc =>
      refine ⟨hthreads, fun _ => Or.inr (exists_unsettled s.clients t rfl), ?_⟩
      intro hw u hu
      refine h.exchange hw u ?_
      have hafter : inExchange (Function.update s.base.flows t (some .setPhase) u) = true := hu
      rcases inExchange_update hafter with ⟨-, hnext⟩ | hold
      · cases hnext
      · exact hold
  | flow t i f c next evs hpc hf hm => exact h.flow hpc hf hm hthreads
  | leave t hpc hf => exact ⟨hthreads, fun _ => Or.inr (exists_unsettled s.clients t rfl), h.exchange⟩
  | uncount t hpc => exact ⟨hthreads, fun _ => Or.inr (exists_unsettled s.clients t rfl), h.exchange⟩
  | poll t hpc =>
      refine ⟨hthreads, ?_, h.exchange⟩
      intro hw
      refine Or.inr (exists_unsettled s.clients t ?_)
      rw [if_pos hw.2]
      rfl
  | recount t hpc => exact ⟨hthreads, fun _ => Or.inr (exists_unsettled s.clients t rfl), h.exchange⟩
  | setPhase t phase hpc => exact h.setPhase hpc hcond hthreads
  | close t hpc =>
      have hsettled : unsettled (s.clients t) = false := by
        rw [hpc]
        rfl
      exact ⟨hthreads, fun hw => (h.waiting hw).imp (fun hp => hp) (unsettled_update hsettled none),
        h.exchange⟩

theorem PhaseInv.follows (h : PhaseInv s) : PhaseFollows s := by
  intro hw
  have hphase : s.base.conn.getPhase = s.base.conn.phase := if_pos hw.1
  rw [hphase]
  constructor
  · rintro ⟨t, ht⟩
    exact h.exchange hw t ht
  · intro hnone
    rcases h.waiting hw with hwaiting | ⟨t, ht⟩
    · exact hwaiting
    · rw [hnone t] at ht
      cases ht

/-- If no thread stores a phase that is out of date, the server's phase follows its clients. -/
theorem phase_follows_clients (env : Env) (token user program : Str) (devices : List PairedDevice)
    (ls : List ServerLabel) (h : exec (step env) (create token user program devices) ls = some s)
    (hcond : Along (step env) StoresPhase (create token user program devices) ls) : PhaseFollows s := by
  have hinit : PhaseInv (create token user program devices) :=
    ⟨threadsInv_create token user program devices, fun hw => absurd hw.1 nofun,
      fun hw => absurd hw.1 nofun⟩
  have hinv : PhaseInv s :=
    exec_inv_along (fun _ _ _ hi hc hs => hi.move hc (step_move hi.threads.mode hi.threads.socket hs))
      hinit hcond h
  exact hinv.follows

instance (s : TCPUnlockServer) : Decidable (Watched s) := inferInstanceAs (Decidable (_ ∧ _))

instance (s : TCPUnlockServer) (l : ServerLabel) : Decidable (StoresPhase s l) := by
  unfold StoresPhase
  split
  · split <;> infer_instance
  · infer_instance

end

end TCPUnlockServer

namespace Sample

/-- The server starts to listen. -/
def listening : List ServerLabel :=
  ServerLabel.start :: List.replicate 7 (ServerLabel.accept (.result true))

/-- It accepts a connection, whose thread enters its exchange. -/
def phoneConnects (t : StreamId) : List ServerLabel :=
  [.accept .tau, .accept .tau, .accept (.socket t), .accept (.result true), .accept (.result true),
    .client t .tau, .client t .tau]

/-- The peer closes the connection, and the thread goes on until it has read the counter. -/
def phoneDisconnects (t : StreamId) : List ServerLabel :=
  [.client t .tau, .client t (.packet ⟨.closedConnection, 0, []⟩)] ++
    List.replicate 6 (ServerLabel.client t .tau)

end Sample

namespace TCPUnlockServer

/-- One phone comes and goes, and then another one comes. -/
theorem phase_follows_clients_sample : ∃ s, exec (step Sample.env) Sample.tcpServer
      (Sample.listening ++ Sample.phoneConnects 0 ++ Sample.phoneDisconnects 0 ++
        List.replicate 2 (ServerLabel.client 0 .tau) ++ Sample.phoneConnects 1) = some s ∧
    Watched s ∧ s.base.conn.getPhase = .phoneUnlocking := by
  have hrun : (exec (step Sample.env) Sample.tcpServer (Sample.listening ++ Sample.phoneConnects 0 ++
      Sample.phoneDisconnects 0 ++ List.replicate 2 (ServerLabel.client 0 .tau) ++
      Sample.phoneConnects 1)).any (fun s => decide (Watched s ∧ inExchange (s.base.flows 1) = true)) = true := by
    decide +kernel
  obtain ⟨s, hs, hw, hexchange⟩ := exec_of_test hrun
  have hfollows : PhaseFollows s := phase_follows_clients Sample.env _ _ _ _ _ hs
    (along_of_check (p := fun s l => decide (StoresPhase s l)) (fun _ _ h => of_decide_eq_true h)
      (by decide +kernel))
  exact ⟨s, hs, hw, (hfollows hw).1 ⟨1, hexchange⟩⟩

/-- A thread reads the counter before the next phone comes, and stores its phase afterwards. -/
theorem phase_out_of_date : ¬ ∀ (env : Env) (token user program : Str) (devices : List PairedDevice)
    (ls : List ServerLabel) (s : TCPUnlockServer),
    exec (step env) (create token user program devices) ls = some s → PhaseFollows s := by
  intro h
  have hrun : (exec (step Sample.env) Sample.tcpServer (Sample.listening ++ Sample.phoneConnects 0 ++
      Sample.phoneDisconnects 0 ++ Sample.phoneConnects 1 ++ [ServerLabel.client 0 .tau])).any
      (fun s => decide (Watched s ∧ inExchange (s.base.flows 1) = true ∧ s.base.conn.getPhase = .serverWaiting)) =
      true := by
    decide +kernel
  obtain ⟨s, hs, hw, hexchange, hphase⟩ := exec_of_test hrun
  have hunlocking := (h Sample.env _ _ _ _ _ s hs hw).1 ⟨1, hexchange⟩
  rw [hphase] at hunlocking
  cases hunlocking

end TCPUnlockServer

end PcbuDesktop
