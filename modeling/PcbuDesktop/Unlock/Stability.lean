import PcbuDesktop.Unlock.Authenticity

set_option autoImplicit false

/-! # What can follow a success

After `m_UnlockState` became `SUCCESS`, the stores that can still change it are the ones that
do not look at the old value: the plain text error, the expired timestamp and the unreadable
payload of a response on another stream, an exception in another thread, and a local failure
of the server's accept thread. A client has one stream, whose entry is then in the state
`HAS_UNLOCK_RESPONSE`, so nothing changes its result any more; a server keeps its result as
long as none of these stores happens.
-/

namespace PcbuDesktop

open Runs

section

variable {env : Env}

/-! ## Threads of servers and of clients -/

/-- The program points that only a client's thread visits. -/
def Flow.clientOnly : Flow → Bool
  | .request _ | .requested | .requestFailed _ | .fail _ => true
  | _ => false

/-- The program points between `enter` and `erase`, where the stream has an entry. -/
def Flow.hasEntry : Flow → Bool
  | .setPhase | .enter | .finish _ | .fail _ | .caught => false
  | _ => true

theorem clientOnly_handleUnverifiedError (st : UnlockState) (b : Bool) :
    (handleUnverifiedError st b).clientOnly = false := by
  cases b <;> rfl

theorem clientOnly_onResponseReceived (c : Conn) (b : Bool) (p : Packet) (d : PairedDevice)
    (now : Int) : (onResponseReceived env c b p d now).clientOnly = false := by
  rcases onResponseReceived_cases env c b p d now with ⟨st, -, -, he⟩ | ⟨st, -, -, he⟩ | ⟨r, he⟩
  · rw [he]; exact clientOnly_handleUnverifiedError st b
  · rw [he]; rfl
  · rw [he]; rfl

theorem FlowMove.clientOnly_next {t : StreamId} {c c' : Conn} {f n : Flow} {i : Input}
    {evs : List Event} (h : FlowMove env true t c f i c' (some n) evs)
    (hf : f.clientOnly = false) : n.clientOnly = false := by
  cases h with
  | enterClient hb hm => cases hb
  | requestSent d seed q hq => cases hf
  | requestError d seed r e he => cases hf
  | lookup p hm =>
      rcases onPacketReceived_cases (c.info t) p with he | he | ⟨he, -, -⟩ <;> rw [he] <;> rfl
  | findNone id hm hnone => exact clientOnly_handleUnverifiedError _ _
  | answerError d seed r e => exact clientOnly_handleUnverifiedError _ _
  | respond p d now => exact clientOnly_onResponseReceived _ _ _ _ _
  | finishFail e he hu hb => cases hb
  | _ => rfl

theorem FlowMove.hasEntry_next {b : Bool} {t : StreamId} {c c' : Conn} {f n : Flow} {i : Input}
    {evs : List Event} (h : FlowMove env b t c f i c' (some n) evs)
    (hf : f.hasEntry = true → (c.connections t).isSome = true) (hn : n.hasEntry = true) :
    (c'.connections t).isSome = true := by
  cases h with
  | setPhase => cases hn
  | acceptInfo => simpa using hf rfl
  | erase e hm => cases hn
  | finishFail e he hu hb => cases hn
  | _ => first | exact hf rfl | simp [Conn.setInfo]

/-- Bookkeeping of the threads: the streams with a thread are the listed ones, a server's
thread is at no client's program point, and a thread inside the exchange has its entry. -/
structure ThreadInv (s : System) : Prop where
  live : ∀ t f, s.flows t = some f → t ∈ s.live
  server : s.needsDeviceID = true → ∀ t f, s.flows t = some f → f.clientOnly = false
  entry : ∀ t f, s.flows t = some f → f.hasEntry = true → (s.conn.connections t).isSome = true

theorem threadInv_initial {s : System} (h : Initial s) : ThreadInv s := by
  refine ⟨?_, ?_, ?_⟩
  · intro t f hf; rw [h.flows_none t] at hf; cases hf
  · intro _ t f hf; rw [h.flows_none t] at hf; cases hf
  · intro t f hf; rw [h.flows_none t] at hf; cases hf

theorem threadInv_step {s s' : System} {l : Label} (hI : ThreadInv s)
    (h : s.step env l = some s') : ThreadInv s' := by
  cases System.step_move h with
  | spawn t hf hmode =>
      refine ⟨?_, ?_, ?_⟩
      · intro u g hg
        rcases update_eq_some hg with ⟨rfl, -⟩ | ⟨hu, hold⟩
        · exact List.mem_cons_self
        · exact List.mem_cons_of_mem _ (hI.live u g hold)
      · intro hb u g hg
        rcases update_eq_some hg with ⟨rfl, hs⟩ | ⟨hu, hold⟩
        · cases hs; rfl
        · exact hI.server hb u g hold
      · intro u g hg he
        rcases update_eq_some hg with ⟨rfl, hs⟩ | ⟨hu, hold⟩
        · cases hs; cases he
        · exact hI.entry u g hold he
  | flow t i f c n evs hf hmove =>
      refine ⟨?_, ?_, ?_⟩
      · intro u g hg
        rcases update_eq_some hg with ⟨rfl, rfl⟩ | ⟨hu, hold⟩
        · exact hI.live u f hf
        · show u ∈ if n = none then s.live.erase t else s.live
          split
          · exact (List.mem_erase_of_ne hu).mpr (hI.live u g hold)
          · exact hI.live u g hold
      · intro hb u g hg
        rcases update_eq_some hg with ⟨rfl, rfl⟩ | ⟨hu, hold⟩
        · have hb' : s.needsDeviceID = true := hb
          rw [hb'] at hmove
          exact hmove.clientOnly_next (hI.server hb u f hf)
        · exact hI.server hb u g hold
      · intro u g hg he
        rcases update_eq_some hg with ⟨rfl, rfl⟩ | ⟨hu, hold⟩
        · exact hmove.hasEntry_next (hI.entry u f hf) he
        · show (c.connections u).isSome = true
          rw [hmove.connections_ne hu]
          exact hI.entry u g hold he
  | _ => exact ⟨hI.live, hI.server, hI.entry⟩

theorem threadInv_of_reachable {s₀ s : System} (h₀ : Initial s₀)
    (h : Reachable (System.step env) s₀ s) : ThreadInv s :=
  h.inv (fun _ _ _ hI hs => threadInv_step hI hs) (threadInv_initial h₀)

/-! ## A client -/

/-- What a client's thread can still be doing after the success. -/
def Finished (c : Conn) (t : StreamId) : Flow → Prop
  | .acceptInfo | .erase _ | .finish _ => True
  | .read | .lookup _ => (c.info t).state = .hasUnlockResponse
  | _ => False

theorem onPacketReceived_finished {info : ConnectionInfo} (p : Packet)
    (h : info.state = .hasUnlockResponse) : onPacketReceived info p = .read := by
  unfold onPacketReceived
  rw [h]
  split_ifs with h1 h2 h3 h4
  · rfl
  · rfl
  · exact absurd ⟨h3, by simp⟩ h1
  · exact absurd ⟨h4, by simp⟩ h2
  · rfl

theorem FlowMove.finished_next {b : Bool} {t : StreamId} {c c' : Conn} {f n : Flow} {i : Input}
    {log evs : List Event} (h : FlowMove env b t c f i c' (some n) evs)
    (hok : FlowOk env c log t f) (hentry : f.hasEntry = true → (c.connections t).isSome = true)
    (hfin : c.unlockState = .success → Finished c t f) (hs : c'.unlockState = .success) :
    Finished c' t n := by
  cases h with
  | requestFailed e => exact absurd hs (mapPacketError_ne_success (by simp))
  | readPacket p hp => exact hfin hs
  | readError p hp => exact trivial
  | lookup p hm =>
      have hst : (c.info t).state = .hasUnlockResponse := hfin hs
      rw [onPacketReceived_finished p hst]
      show ((c.setInfo t (c.info t)).info t).state = .hasUnlockResponse
      rw [← hst]
      simp [Conn.setInfo, Conn.info]
  | store st => exact absurd hs hok
  | acceptState r => exact trivial
  | acceptInfo =>
      -- the entry is still there, so that the store of the new state finds it
      obtain ⟨info, hinfo⟩ := Option.isSome_iff_exists.mp (hentry rfl)
      simp [Finished, Conn.info, hinfo]
  | erase e hm => exact trivial
  -- the store at the end looks at the old value
  | finishFail e he hu hb => rw [hu] at hs; cases hs
  | _ => exact (hfin hs).elim

/-- A client has at most one thread, none before `PerformAuthFlow` is called, and after the
success that thread examines no response. -/
structure ClientInv (s : System) : Prop where
  idle : s.started = false → (∀ t, s.flows t = none) ∧ s.conn.unlockState ≠ .success
  single : ∀ t u f g, s.flows t = some f → s.flows u = some g → t = u
  finished : s.conn.unlockState = .success → ∀ t f, s.flows t = some f → Finished s.conn t f

/-- The thread of a client stores nothing on its own after `PerformAuthFlow` was called. -/
theorem not_started_of_outerEnabled {s : System} {store : OuterStore}
    (hb : s.needsDeviceID = false) (h : s.outerEnabled store = true) : s.started = false := by
  simp only [System.outerEnabled, hb] at h
  simpa using (Bool.and_eq_true_iff.mp (Bool.and_eq_true_iff.mp h).1).1

theorem clientInv_initial {s : System} (h : Initial s) : ClientInv s := by
  have hu : s.conn.unlockState ≠ .success := by cases h <;> exact UnlockState.noConfusion
  refine ⟨fun _ => ⟨h.flows_none, hu⟩, ?_, fun hs => absurd hs hu⟩
  intro t u f g hf
  rw [h.flows_none t] at hf
  cases hf

theorem clientInv_step {s s' : System} {l : Label} (hb : s.needsDeviceID = false)
    (hI : Inv env s) (hT : ThreadInv s) (hC : ClientInv s) (h : s.step env l = some s') :
    ClientInv s' := by
  cases System.step_move h with
  | spawn t hf hmode =>
      have hstart : s.started = false := by
        rcases hmode with hm | hm
        · rw [hb] at hm; cases hm
        · exact hm
      obtain ⟨hnone, hu⟩ := hC.idle hstart
      refine ⟨?_, ?_, fun hs => absurd hs hu⟩
      · intro he; cases he
      · intro a b f g hfa hgb
        rcases update_eq_some hfa with ⟨rfl, -⟩ | ⟨-, hold⟩
        · rcases update_eq_some hgb with ⟨rfl, -⟩ | ⟨-, hold⟩
          · rfl
          · rw [hnone b] at hold; cases hold
        · rw [hnone a] at hold; cases hold
  | flow t i f c n evs hf hmove =>
      refine ⟨?_, ?_, ?_⟩
      · intro hstart
        have := (hC.idle hstart).1 t
        rw [hf] at this
        cases this
      · intro a b fa gb hfa hgb
        -- every other thread would already have been a second one before the step
        have hself : ∀ u g, Function.update s.flows t n u = some g → u = t := by
          intro u g hg
          rcases update_eq_some hg with ⟨rfl, -⟩ | ⟨-, hold⟩
          · rfl
          · exact hC.single u t g f hold hf
        rw [hself a fa hfa, hself b gb hgb]
      · intro hs u g hg
        rcases update_eq_some hg with ⟨rfl, rfl⟩ | ⟨hu, hold⟩
        · exact hmove.finished_next (hI.flows u f hf) (hT.entry u f hf)
            (fun hc => hC.finished hc u f hf) hs
        · exact absurd (hC.single u t g f hold hf) hu
  | outer store hen =>
      have hstart := not_started_of_outerEnabled hb hen
      exact ⟨fun _ => ⟨(hC.idle hstart).1, store.state_ne_success⟩, hC.single,
        fun hs => absurd hs store.state_ne_success⟩
  | _ => exact ⟨hC.idle, hC.single, hC.finished⟩

/-- A client that reached `SUCCESS` is left alone by every step. -/
theorem client_step_keeps {s s' : System} {l : Label} (hb : s.needsDeviceID = false)
    (hC : ClientInv s) (hs : s.conn.unlockState = .success) (h : s.step env l = some s') :
    s'.conn.unlockState = .success ∧ s'.conn.pairedDevice = s.conn.pairedDevice ∧
      s'.conn.responseData = s.conn.responseData := by
  cases System.step_move h with
  | flow t i f c n evs hf hmove =>
      have hfin := hC.finished hs t f hf
      cases hmove with
      | requestFailed e => exact hfin.elim
      | store st => exact hfin.elim
      | acceptDevice r => exact hfin.elim
      | acceptData r => exact hfin.elim
      | acceptState r => exact hfin.elim
      | fail e => exact hfin.elim
      | caught => exact hfin.elim
      | _ => exact ⟨hs, rfl, rfl⟩
  | outer store hen =>
      -- what the thread stores outside `PerformAuthFlow` it stores before
      have hstart := not_started_of_outerEnabled hb hen
      exact absurd hs (hC.idle hstart).2
  | _ => exact ⟨hs, rfl, rfl⟩

/-! ## A server -/

/-- The thread is about to store to `m_UnlockState` without looking at the old value. -/
def Flow.storing : Flow → Bool
  | .requestFailed _ | .store _ | .fail _ | .caught => true
  | _ => false

/-- No thread is about to make an unguarded store. -/
def System.unhurried (s : System) : Bool :=
  s.live.all (fun t => match s.flows t with
    | some f => !f.storing
    | none => true)

/-- The response is none of those whose handling stores to `m_UnlockState` without a look at
the old value: it is malformed, or it has no error text, its timestamp is not expired, and its
payload can be read if it can be decrypted. -/
def Harmless (env : Env) (p : Packet) (d : PairedDevice) (now : Int) : Prop :=
  ∀ resp, PacketUnlockResponse.fromJson env.json p.data = some resp →
    resp.error = [] ∧
    (env.crypt.decryptAESPacket now (fromHexString resp.encData) d.encryptionKey).result
      ≠ .invalidTimestamp ∧
    ((env.crypt.decryptAESPacket now (fromHexString resp.encData) d.encryptionKey).result = .ok →
      (PacketUnlockResponseData.fromJson env.json
        (env.crypt.decryptAESPacket now (fromHexString resp.encData)
          d.encryptionKey).data).isSome = true)

/-- The step examines no response that ends in an unguarded store, sends no request that
cannot be printed, and is no local failure of the accept thread. -/
def Undisturbed (env : Env) (s : System) : Label → Prop
  | .flow t (.clock now) => ∀ p d, s.flows t = some (.respond p d) → Harmless env p d now
  | .flow t (.write seed _) => ∀ d, s.flows t = some (.answer d) →
      buildUnlockRequest env s.conn d seed ≠ .threw
  | .outer _ => False
  | _ => True

theorem onResponseReceived_not_storing {c : Conn} {p : Packet} {d : PairedDevice} {now : Int}
    (h : Harmless env p d now) : (onResponseReceived env c true p d now).storing = false := by
  unfold onResponseReceived
  split
  · rfl
  · next resp hresp =>
      obtain ⟨herr, htime, hdata⟩ := h resp hresp
      rw [if_neg (not_not.mpr herr)]
      simp only
      split
      · rfl
      · next hok =>
          obtain ⟨data, hd⟩ := Option.isSome_iff_exists.mp (hdata (not_not.mp hok))
          rw [hd]
          simp only
          split <;> rfl

theorem storing_of_unhurried {s : System} {t : StreamId} {f : Flow} (hT : ThreadInv s)
    (h : s.unhurried = true) (hf : s.flows t = some f) : f.storing = false := by
  have hall := List.all_eq_true.mp h t (hT.live t f hf)
  simpa [hf] using hall

/-- No thread of the server is about to make an unguarded store. -/
def Calm (s : System) : Prop := ∀ t f, s.flows t = some f → f.storing = false

/-- A server that reached `SUCCESS` keeps its result in an undisturbed step, and no thread
comes closer to an unguarded store. -/
theorem server_step_keeps {s s' : System} {l : Label} (hb : s.needsDeviceID = true)
    (hI : Inv env s) (hT : ThreadInv s) (hcalm : Calm s) (hl : Undisturbed env s l)
    (hs : s.conn.unlockState = .success) (h : s.step env l = some s') :
    (s'.conn.unlockState = .success ∧ s'.conn.pairedDevice = s.conn.pairedDevice ∧
      s'.conn.responseData = s.conn.responseData) ∧ Calm s' := by
  cases System.step_move h with
  | spawn t hf hmode =>
      refine ⟨⟨hs, rfl, rfl⟩, ?_⟩
      intro u g hg
      rcases update_eq_some hg with ⟨rfl, he⟩ | ⟨-, hold⟩
      · cases he; rfl
      · exact hcalm u g hold
  | flow t i f c n evs hf hmove =>
      have hok := hI.flows t f hf
      have hself := hcalm t f hf
      have hclient := hT.server hb t f hf
      have hothers : (∀ g, n = some g → g.storing = false) →
          Calm (s.advance t c n evs) := by
        intro hn u g hg
        rcases update_eq_some hg with ⟨rfl, he⟩ | ⟨-, hold⟩
        · exact hn g he
        · exact hcalm u g hold
      rw [hb] at hmove
      cases hmove with
      | enterClient hb' hm => cases hb'
      | requestThrew d seed r hq => cases hclient
      | requestSent d seed q hq => cases hclient
      | requestError d seed r e he => cases hclient
      | requested hm => cases hclient
      | requestFailed e => cases hself
      | lookup p hm =>
          refine ⟨⟨hs, rfl, rfl⟩, hothers ?_⟩
          rintro g ⟨⟩
          rcases onPacketReceived_cases (s.conn.info t) p with he | he | ⟨he, -, -⟩ <;>
            rw [he] <;> rfl
      | findNone id hm hnone => exact ⟨⟨hs, rfl, rfl⟩, hothers (by rintro g ⟨⟩; rfl)⟩
      | answerThrew d seed r hq => exact absurd hq (hl d hf)
      | answerError d seed r e => exact ⟨⟨hs, rfl, rfl⟩, hothers (by rintro g ⟨⟩; rfl)⟩
      | respond p d now =>
          refine ⟨⟨hs, rfl, rfl⟩, hothers ?_⟩
          rintro g ⟨⟩
          exact onResponseReceived_not_storing (hl p d hf)
      | store st => cases hself
      -- a second acceptance finds the state changed, or would be inside the section already
      | acceptLock r hm hu => rw [hs] at hu; cases hu
      | acceptDevice r => exact absurd hs hok.2.2
      | acceptData r => exact absurd hs hok.2.2.1
      | acceptState r => exact absurd hs hok.2.2.1
      | finishDone e he => exact ⟨⟨hs, rfl, rfl⟩, hothers (by rintro g ⟨⟩)⟩
      | finishFail e he hu hb' => cases hb'
      | fail e => cases hself
      | caught => cases hself
      | _ => exact ⟨⟨hs, rfl, rfl⟩, hothers (by rintro g ⟨⟩; rfl)⟩
  | outer store hen => exact hl.elim
  | _ => exact ⟨⟨hs, rfl, rfl⟩, hcalm⟩

/-! ## The result -/

/-- What a state after the success is compared with. -/
def SameResult (s s' : System) : Prop :=
  s'.conn.unlockState = s.conn.unlockState ∧ s'.conn.pairedDevice = s.conn.pairedDevice ∧
    s'.conn.responseData = s.conn.responseData

/-- **When `SUCCESS` is absorbing.** A client keeps state, device and response data in every
continuation after the success. A server keeps them in every continuation that starts while no
thread is about to make an unguarded store, and in which no step examines a response with an
error text, an expired timestamp or an unreadable payload, no request fails to be printed, and
the accept thread has no local failure. -/
theorem success_absorbing {env : Env} {s₀ s s' : System} {ls : List Label} (h₀ : Initial s₀)
    (h : Reachable (System.step env) s₀ s) (hs : s.conn.unlockState = .success)
    (hcond : s.needsDeviceID = true →
      s.unhurried = true ∧ Along (System.step env) (Undisturbed env) s ls)
    (hrun : exec (System.step env) s ls = some s') : SameResult s s' := by
  have hI := inv_of_reachable h₀ h
  have hT := threadInv_of_reachable h₀ h
  cases hb : s.needsDeviceID with
  | false =>
      -- the invariant of a client holds from the start of the run, not only from here on
      have hC : ClientInv s := by
        obtain ⟨ks, hks⟩ := h
        have hb₀ : s₀.needsDeviceID = false := (reachable_config ⟨ks, hks⟩).1 ▸ hb
        refine (exec_inv (I := fun s => s.needsDeviceID = false ∧ Inv env s ∧ ThreadInv s ∧
          ClientInv s) ?_ ⟨hb₀, inv_initial h₀, threadInv_initial h₀, clientInv_initial h₀⟩
          hks).2.2.2
        rintro a l b ⟨hba, hIa, hTa, hCa⟩ hstep
        exact ⟨(step_config hstep).1.trans hba, inv_step hIa hstep, threadInv_step hTa hstep,
          clientInv_step hba hIa hTa hCa hstep⟩
      refine (exec_inv (I := fun a => a.needsDeviceID = false ∧ Inv env a ∧ ThreadInv a ∧
        ClientInv a ∧ SameResult s a) ?_ ⟨hb, hI, hT, hC, rfl, rfl, rfl⟩ hrun).2.2.2.2
      rintro a l b ⟨hba, hIa, hTa, hCa, hu, hd, hr⟩ hstep
      obtain ⟨hu', hd', hr'⟩ := client_step_keeps hba hCa (hu.trans hs) hstep
      exact ⟨(step_config hstep).1.trans hba, inv_step hIa hstep, threadInv_step hTa hstep,
        clientInv_step hba hIa hTa hCa hstep, hu'.trans hs.symm, hd'.trans hd, hr'.trans hr⟩
  | true =>
      obtain ⟨hquiet, halong⟩ := hcond hb
      have hcalm : Calm s := fun t f hf => storing_of_unhurried hT hquiet hf
      refine (exec_inv_along (I := fun a => a.needsDeviceID = true ∧ Inv env a ∧ ThreadInv a ∧
        Calm a ∧ SameResult s a) ?_ ⟨hb, hI, hT, hcalm, rfl, rfl, rfl⟩ halong hrun).2.2.2.2
      rintro a l b ⟨hba, hIa, hTa, hCa, hu, hd, hr⟩ hl hstep
      obtain ⟨⟨hu', hd', hr'⟩, hC'⟩ := server_step_keeps hba hIa hTa hCa hl (hu.trans hs) hstep
      exact ⟨(step_config hstep).1.trans hba, inv_step hIa hstep, threadInv_step hTa hstep, hC',
        hu'.trans hs.symm, hd'.trans hd, hr'.trans hr⟩

end

namespace Sample

/-- A peer that named the device answers with the plain text error `CANCEL`. -/
def cancels (t : StreamId) : List Label :=
  [.flow t (.packet ⟨.none, PACKET_ID_UNLOCK_RESPONSE, cancelText⟩), .flow t .tau,
    .flow t (.clock 0), .flow t .tau]

/-- A peer that connects and closes the connection. -/
def leaves (t : StreamId) : List Label :=
  [.spawn t, .flow t .tau, .flow t .tau, .flow t (.packet ⟨.closedConnection, 0, []⟩),
    .flow t .tau, .flow t .tau]

end Sample

/-- The success on stream 0 is overwritten by an error text that stream 1 sends afterwards. -/
theorem success_overwritten : ∃ s s',
    exec (System.step Sample.env) Sample.server
      (Sample.connects 0 ++ Sample.connects 1 ++ Sample.answers 0) = some s ∧
    s.conn.unlockState = .success ∧
    exec (System.step Sample.env) s (Sample.cancels 1) = some s' ∧
    s'.conn.unlockState = .canceled := by
  have hrun : (exec (System.step Sample.env) Sample.server
      (Sample.connects 0 ++ Sample.connects 1 ++ Sample.answers 0)).map (fun s =>
        (s.conn.unlockState, (exec (System.step Sample.env) s (Sample.cancels 1)).map
          (·.conn.unlockState))) = some (.success, some .canceled) := by decide +kernel
  obtain ⟨s, hs, he⟩ := Option.map_eq_some_iff.mp hrun
  obtain ⟨hu, hrest⟩ := Prod.mk.inj he
  obtain ⟨s', hs', hu'⟩ := Option.map_eq_some_iff.mp hrest
  exact ⟨s, s', hs, hu, hs', hu'⟩

theorem success_absorbing_sample : ∃ s s',
    exec (System.step Sample.env) Sample.server (Sample.connects 0 ++ Sample.answers 0) = some s ∧
    s.conn.unlockState = .success ∧
    exec (System.step Sample.env) s (Sample.leaves 1) = some s' ∧ SameResult s s' := by
  have hrun : (exec (System.step Sample.env) Sample.server
      (Sample.connects 0 ++ Sample.answers 0)).map (fun s =>
        (s.conn.unlockState, s.unhurried,
          (exec (System.step Sample.env) s (Sample.leaves 1)).isSome)) =
      some (.success, true, true) := by decide +kernel
  obtain ⟨s, hs, he⟩ := Option.map_eq_some_iff.mp hrun
  obtain ⟨hu, hrest⟩ := Prod.mk.inj he
  obtain ⟨hquiet, hsome⟩ := Prod.mk.inj hrest
  obtain ⟨s', hs'⟩ := Option.isSome_iff_exists.mp hsome
  refine ⟨s, s', hs, hu, hs', success_absorbing (.server _ _ _ _) ⟨_, hs⟩ hu ?_ hs'⟩
  intro _
  refine ⟨hquiet, along_of_forall ?_⟩
  intro a l hl
  simp only [Sample.leaves, List.mem_cons, List.not_mem_nil, or_false] at hl
  rcases hl with rfl | rfl | rfl | rfl | rfl | rfl <;> exact trivial

end PcbuDesktop
