import PcbuDesktop.Handler.RunServer
import PcbuDesktop.Unlock.Stability

set_option autoImplicit false

/-! # Answers of the phone

`IsPhoneAnswer` is documented as the states that only come from an answer of the phone itself,
and the aggregation of `GetResult` prefers them. Three other places store such a state.
`PerformAuthFlow` stores `DATA_ERROR` for a read error that `MapPacketError` does not know, and
`PROTOCOL_ERROR` for an unsupported version; the cloud client maps two refusals of the server
to them; and a Bluetooth client takes over what the device's other client reported. When none
of them is reached before a response was received, the documentation is right.
-/

namespace PcbuDesktop

open Runs

/-- An unlock response was received on the connection. -/
def ResponseReceived (log : List Event) : Prop :=
  ∃ t p, Event.received t p ∈ log ∧ p.id = PACKET_ID_UNLOCK_RESPONSE

theorem ResponseReceived.append {log : List Event} (h : ResponseReceived log) (evs : List Event) :
    ResponseReceived (log ++ evs) := by
  obtain ⟨t, p, hp, hid⟩ := h
  exact ⟨t, p, List.mem_append_left _ hp, hid⟩

/-- The errors of a read that end in a state of `IsPhoneAnswer`. -/
def PacketError.unmapped : PacketError → Bool
  | .unknown | .unsupportedVersion => true
  | _ => false

/-- The refusals of the cloud server that end in a state of `IsPhoneAnswer`. -/
def CloudUnlockStatus.refusal : CloudUnlockStatus → Bool
  | .invalidToken | .unsupportedVersion => true
  | _ => false

/-- The thread is not about to store a phone's state for an error of the stream before a
response was received. -/
def StoreOk (log : List Event) : Flow → Prop
  | .fail error => error.unmapped = true → ResponseReceived log
  | .requestFailed error => error = .unsupportedVersion → ResponseReceived log
  | _ => True

/-- The poll returns what the device's other client has stored in `pairErrors`. -/
def Serving.takesOver (s : Serving) (shared : Option UnlockState) : Bool :=
  s.isBluetooth && (s.run.pc = .poll || s.run.pc = .latest) &&
    !(isPhoneError s.base.conn.unlockState || s.base.conn.unlockState = .success) &&
    (sharedError shared).isSome

/-- No step ends in a phone's state before a response was received: by an error of the stream,
by a refusal of the cloud server, or by the error of another client. -/
def PhoneOnly (s : Serving) : ServingLabel → Prop
  | .conn (.flow t _) => ∀ f, s.base.flows t = some f → StoreOk s.base.log f
  | .conn (.outer (.cloud status)) => status.refusal = false
  | .run _ shared _ => s.takesOver shared = true → ResponseReceived s.base.log
  | _ => True

/-! ## The client's thread -/

section

variable {env : Env}

/-- What the thread of a client knows about the packets received so far. -/
def PhoneOk (log : List Event) (t : StreamId) : Flow → Prop
  | .lookup p => Event.received t p ∈ log
  | .find _ | .answer _ | .answered _ => False
  | .respond _ _ | .store _ | .accept _ | .acceptDevice _ | .acceptData _ | .acceptState _
  | .acceptInfo => ResponseReceived log
  | .fail e => e ≠ .none
  | _ => True

theorem PhoneOk.append {log : List Event} {t : StreamId} {f : Flow} (h : PhoneOk log t f)
    (evs : List Event) : PhoneOk (log ++ evs) t f := by
  cases f with
  | lookup p => exact List.mem_append_left _ h
  | find id => exact h
  | answer d => exact h
  | answered d => exact h
  | fail e => exact h
  | requestFailed e => exact trivial
  | erase e => exact trivial
  | finish e => exact trivial
  | setPhase => exact trivial
  | enter => exact trivial
  | request d => exact trivial
  | requested => exact trivial
  | read => exact trivial
  | caught => exact trivial
  | _ => exact ResponseReceived.append h evs

theorem mapPacketError_answer {e : PacketError} {f : UnlockState}
    (h : isPhoneAnswer (mapPacketError e f) = true) :
    e = .unsupportedVersion ∨ (isPhoneAnswer f = true ∧ (e = .unknown ∨ e = .none)) := by
  cases e with
  | unknown => exact Or.inr ⟨h, Or.inl rfl⟩
  | none => exact Or.inr ⟨h, Or.inr rfl⟩
  | unsupportedVersion => exact Or.inl rfl
  | _ => cases h

/-- A state that counts as an answer of the phone, or as its success. -/
def Answered (state : UnlockState) : Prop := isPhoneAnswer state = true ∨ state = .success

/-- The entry of a client's stream is past the device ID. -/
theorem FlowMove.entry_next {t : StreamId} {c c' : Conn} {f n : Flow} {i : Input}
    {evs : List Event} (h : FlowMove env false t c f i c' (some n) evs)
    (hf : f.hasEntry = true → (c.info t).state ≠ .none) (hn : n.hasEntry = true) :
    (c'.info t).state ≠ .none := by
  cases h with
  | setPhase => cases hn
  | enterServer hb hm => cases hb
  | lookup p hm => rw [Conn.info_setInfo]; exact hf rfl
  | acceptInfo =>
      obtain ⟨info, hinfo⟩ : ∃ info, c.connections t = some info :=
        ⟨_, Conn.connections_of_state rfl (hf rfl)⟩
      simp [Conn.info, hinfo]
  | erase e hm => cases hn
  | finishFail e he hu hb => cases hn
  | _ => first | exact hf rfl | simp

theorem FlowMove.phoneOk_next {t : StreamId} {c c' : Conn} {f n : Flow} {i : Input}
    {log evs : List Event} (h : FlowMove env false t c f i c' (some n) evs)
    (hok : PhoneOk log t f) (hentry : f.hasEntry = true → (c.info t).state ≠ .none) :
    PhoneOk (log ++ evs) t n := by
  cases h with
  | enterServer hb hm => cases hb
  | readPacket p hp => exact List.mem_append_right _ (List.mem_singleton_self _)
  | lookup p hm =>
      rcases onPacketReceived_cases (c.info t) p with he | he | ⟨he, -, hid⟩
      · rw [he]; exact trivial
      · -- a device ID is ignored, because the entry is past it
        exfalso
        have hst := hentry rfl
        unfold onPacketReceived at he
        split_ifs at he with h1 h2 h3
        exact h1 ⟨h3, hst⟩
      · rw [he]
        exact ResponseReceived.append ⟨t, p, hok, hid⟩ []
  | findNone id hm hnone => exact hok.elim
  | findSome id d hm hd => exact hok.elim
  | answerThrew d seed r hq => exact hok.elim
  | answerSent d seed q hq => exact hok.elim
  | answerError d seed r e => exact hok.elim
  | answered d hm => exact hok.elim
  | respond p d now =>
      have hres : ResponseReceived (log ++ []) := ResponseReceived.append hok []
      rcases onResponseReceived_client env c p d now with ⟨st, he⟩ | ⟨r, he⟩
      · rw [he]; exact hres
      · rw [he]; exact hres
  | acceptLock r hm hu => exact ResponseReceived.append hok []
  | acceptDevice r => exact ResponseReceived.append hok []
  | acceptData r => exact ResponseReceived.append hok []
  | acceptState r => exact ResponseReceived.append hok _
  | finishFail e he hu hb => exact he
  | _ => exact trivial

/-- A store of a phone's state, or of `SUCCESS`, comes after a response. -/
theorem FlowMove.response_of_answered {b : Bool} {t : StreamId} {c c' : Conn} {f : Flow} {i : Input}
    {n : Option Flow} {log evs : List Event} (h : FlowMove env b t c f i c' n evs)
    (hok : PhoneOk log t f) (hstore : StoreOk log f)
    (hc : Answered c.unlockState → ResponseReceived log) (ha : Answered c'.unlockState) :
    ResponseReceived (log ++ evs) := by
  cases h with
  | requestFailed e =>
      rcases ha with ha | ha
      · rcases mapPacketError_answer ha with rfl | ⟨hf, -⟩
        · exact (hstore rfl).append []
        · cases hf
      · exact absurd ha (mapPacketError_ne_success (by simp))
  | store st => exact ResponseReceived.append hok []
  | acceptState r => exact ResponseReceived.append hok _
  | fail e =>
      rcases ha with ha | ha
      · rcases mapPacketError_answer ha with rfl | ⟨-, rfl | rfl⟩
        · exact (hstore rfl).append []
        · exact (hstore rfl).append []
        · exact absurd rfl hok
      · exact absurd ha (mapPacketError_ne_success (by simp))
  | caught => rcases ha with ha | ha <;> cases ha
  | _ => exact (hc ha).append _

/-! ## The connection and its `RunServer` -/

/-- The invariant of a client. -/
structure PhoneInv (s : System) : Prop where
  mode : s.needsDeviceID = false
  entry : ∀ t f, s.flows t = some f → f.hasEntry = true → (s.conn.info t).state ≠ .none
  flows : ∀ t f, s.flows t = some f → PhoneOk s.log t f
  state : Answered s.conn.unlockState → ResponseReceived s.log

theorem phoneInv_initial {s : System} (h : Initial s) (hb : s.needsDeviceID = false) :
    PhoneInv s := by
  refine ⟨hb, ?_, ?_, ?_⟩
  · intro t f hf; rw [h.flows_none t] at hf; cases hf
  · intro t f hf; rw [h.flows_none t] at hf; cases hf
  · intro ha
    have hu : s.conn.unlockState = .unknown := by cases h <;> rfl
    rw [hu] at ha
    rcases ha with ha | ha <;> cases ha

theorem OuterStore.not_answered {store : OuterStore}
    (h : ∀ status, store = .cloud status → status.refusal = false) : ¬ Answered store.state := by
  cases store with
  | cloud status =>
      have hr := h status rfl
      rintro (ha | ha)
      · cases status with
        | invalidToken => cases hr
        | unsupportedVersion => cases hr
        | _ => cases ha
      · cases status <;> cases ha
  | _ => rintro (ha | ha) <;> cases ha

/-- The condition on a step of the connection. -/
def ConnOk (s : System) : Label → Prop
  | .flow t _ => ∀ f, s.flows t = some f → StoreOk s.log f
  | .outer store => ∀ status, store = .cloud status → status.refusal = false
  | _ => True

theorem phoneInv_step {s s' : System} {l : Label} (hI : PhoneInv s) (hl : ConnOk s l)
    (h : s.step env l = some s') : PhoneInv s' := by
  refine ⟨(step_config h).1.trans hI.mode, ?_, ?_, ?_⟩
  · cases System.step_move h with
    | spawn t hf hmode =>
        intro u g hg he
        rcases update_eq_some hg with ⟨rfl, hs⟩ | ⟨-, hold⟩
        · cases hs; cases he
        · exact hI.entry u g hold he
    | flow t i f c n evs hf hmove =>
        rw [hI.mode] at hmove
        intro u g hg he
        rcases update_eq_some hg with ⟨rfl, rfl⟩ | ⟨hu, hold⟩
        · exact hmove.entry_next (hI.entry u f hf) he
        · have hinfo : c.info u = s.conn.info u := by simp [Conn.info, hmove.connections_ne hu]
          show (c.info u).state ≠ .none
          rw [hinfo]
          exact hI.entry u g hold he
    | _ => exact hI.entry
  · cases System.step_move h with
    | spawn t hf hmode =>
        intro u g hg
        rcases update_eq_some hg with ⟨rfl, hs⟩ | ⟨-, hold⟩
        · cases hs; exact trivial
        · exact hI.flows u g hold
    | flow t i f c n evs hf hmove =>
        rw [hI.mode] at hmove
        intro u g hg
        rcases update_eq_some hg with ⟨rfl, rfl⟩ | ⟨-, hold⟩
        · exact hmove.phoneOk_next (hI.flows u f hf) (hI.entry u f hf)
        · exact (hI.flows u g hold).append evs
    | _ => exact hI.flows
  · cases System.step_move h with
    | flow t i f c n evs hf hmove =>
        exact fun ha => hmove.response_of_answered (hI.flows t f hf) (hl f hf) hI.state ha
    | outer store hen => exact fun ha => absurd ha (OuterStore.not_answered hl)
    | _ => exact hI.state

/-- A poll returns a phone's state or a success only if it is the connection's own, or the other
client's. -/
theorem pollResult_answered {b hasConnected : Bool} {c : Conn} {shared : Option UnlockState}
    (h : Answered (pollResult b c shared hasConnected)) :
    Answered c.unlockState ∨ (b = true ∧ isPhoneError c.unlockState = false ∧
      c.unlockState ≠ .success ∧ shared.isSome = true) := by
  unfold pollResult at h
  split at h
  · exact Or.inl h
  · next hb =>
      split at h
      · exact Or.inl h
      · next hown =>
          obtain ⟨herr, hsucc⟩ := not_or.mp hown
          split at h
          · exact Or.inr ⟨by simpa using hb, by simpa using herr, hsucc, rfl⟩
          · split at h
            · rcases h with h | h <;> cases h
            · exact Or.inl h

/-- `RunServer` samples a phone's state only after a response. -/
structure AnswerInv (s : Serving) : Prop where
  base : PhoneInv s.base
  sampled : Answered s.run.state → ResponseReceived s.base.log
  failed : s.run.pc = .decryptFailed → ResponseReceived s.base.log
  result : ∀ result, s.run.pc = .returned result → isPhoneAnswer result.state = true →
    ResponseReceived s.base.log

theorem connOk_of_phoneOnly {s : Serving} {l : Label} (h : PhoneOnly s (.conn l)) :
    ConnOk s.base l := by
  cases l with
  | flow t i => exact h
  | outer store =>
      rintro status rfl
      exact h
  | _ => exact trivial

theorem ResponseReceived.step {s s' : System} {l : Label} (h : ResponseReceived s.log)
    (hs : s.step env l = some s') : ResponseReceived s'.log := by
  obtain ⟨t, p, hp, hid⟩ := h
  exact ⟨t, p, System.log_mono hs hp, hid⟩

theorem AnswerInv.sampled_move {s : Serving} (hI : AnswerInv s) {answer : RunInput}
    {shared : Option UnlockState} {hasConnected : Bool} {r' : Runner} {effects : List RunEffect}
    (hl : s.takesOver shared = true → ResponseReceived s.base.log)
    (hmove : RunMove s.run (s.input env answer shared hasConnected) r' effects)
    (ha : Answered r'.state) : ResponseReceived s.base.log := by
  have hnot : ∀ st, (st = .unknown ∨ st = .canceled ∨ st = .timeout) → ¬ Answered st := by
    rintro st (rfl | rfl | rfl) (h | h) <;> cases h
  rcases Serving.state_move hmove with hold | hst | hst | hst | ⟨hpc, hpoll⟩
  · exact hI.sampled (hold ▸ ha)
  · exact absurd ha (hnot _ (Or.inl hst))
  · exact absurd ha (hnot _ (Or.inr (Or.inl hst)))
  · exact absurd ha (hnot _ (Or.inr (Or.inr hst)))
  · rw [hpoll] at ha
    rcases pollResult_answered ha with hown | ⟨hb, herr, hsucc, hshared⟩
    · exact hI.base.state hown
    · exact hl (by simp [Serving.takesOver, hb, hpc, herr, hsucc, hshared])

theorem answerInv_step {s s' : Serving} {l : ServingLabel} (hI : AnswerInv s)
    (hl : PhoneOnly s l) (h : s.step env l = some s') : AnswerInv s' := by
  cases l with
  | conn l =>
      obtain ⟨hbase, hrun, -⟩ := Serving.step_conn h
      refine ⟨phoneInv_step hI.base (connOk_of_phoneOnly hl) hbase, ?_, ?_, ?_⟩
      · rw [hrun]; exact fun ha => (hI.sampled ha).step hbase
      · rw [hrun]; exact fun hf => (hI.failed hf).step hbase
      · rw [hrun]; exact fun result hr ha => (hI.result result hr ha).step hbase
  | run answer shared hasConnected =>
      obtain ⟨effects, hmove, ⟨b, hbase⟩, -⟩ := Serving.step_run h
      have hsampled : Answered s'.run.state → ResponseReceived s.base.log :=
        fun ha => hI.sampled_move hl hmove ha
      refine ⟨phoneInv_step (l := .running b) hI.base trivial hbase,
        fun ha => (hsampled ha).step hbase, ?_, ?_⟩
      · intro hf
        exact (hI.sampled (Or.inr (hmove.state_of_decryptFailed hf).1)).step hbase
      · intro result hret ha
        refine ResponseReceived.step ?_ hbase
        rcases hmove.returned_cases hret with rfl | ⟨device, data, pwDec, -, -, -, rfl⟩ | ⟨hpc, -⟩
        · cases ha
        · exact hI.sampled (Or.inl ha)
        · exact hI.failed hpc

/-- **A phone's answer comes from the phone.** In every run of a client in which, before a
response is received, no error of the stream and no refusal of the cloud server is stored as a
phone's state and none is taken over from another client: if `RunServer` returns one of the
states of `IsPhoneAnswer`, an unlock response was received on the connection. -/
theorem phone_answer_received {s₀ s : Serving} {ls : List ServingLabel} {result : UnlockResult}
    (h₀ : s₀.Fresh) (hclient : s₀.base.needsDeviceID = false)
    (hrun : exec (Serving.step env) s₀ ls = some s)
    (hcond : Along (Serving.step env) PhoneOnly s₀ ls)
    (hret : s.run.pc = .returned result) (hans : isPhoneAnswer result.state = true) :
    ResponseReceived s.base.log := by
  have hI₀ : AnswerInv s₀ := by
    refine ⟨phoneInv_initial h₀.base hclient, ?_, ?_, ?_⟩
    · rw [h₀.run]
      rintro (ha | ha) <;> cases ha
    · rw [h₀.run]; intro hf; cases hf
    · rw [h₀.run]; intro result hr; cases hr
  exact (exec_inv_along (fun _ _ _ hI hl hs => answerInv_step hI hl hs) hI₀ hcond hrun).result
    result hret hans

end

namespace Sample

/-- The read fails, and the thread ends. -/
def readFails (error : PacketError) : List ServingLabel :=
  thread [.packet ⟨error, 0, []⟩, .tau, .tau, .tau]

/-- The phone answers with a response that cannot be read. -/
def phoneMumbles : List ServingLabel :=
  thread [.packet ⟨.none, PACKET_ID_UNLOCK_RESPONSE, str "x"⟩, .tau, .clock 0, .tau]

/-- From the end of the loop to the result, when the thread has ended. -/
def ends : List ServingLabel := run [.flag false, .flag false, .tau, .tau, .tau, .tau]

/-- The flow is about to store an error of the stream or of a request. -/
def fails : Flow → Bool
  | .fail _ | .requestFailed _ => true
  | _ => false

/-- A test for `PhoneOnly`. -/
def isPhoneOnly (s : Serving) : ServingLabel → Bool
  | .conn (.flow t _) => (s.base.flows t).all (fun f => !fails f)
  | .conn (.outer _) => false
  | .run _ shared _ => !s.takesOver shared
  | _ => true

theorem phoneOnly_of_test (s : Serving) (l : ServingLabel) (h : isPhoneOnly s l = true) :
    PhoneOnly s l := by
  cases l with
  | conn l =>
      cases l with
      | flow t i =>
          intro f hf
          simp only [isPhoneOnly, hf, Option.all_some] at h
          cases f with
          | fail e => cases h
          | requestFailed e => cases h
          | _ => exact trivial
      | outer store => cases h
      | _ => exact trivial
  | run answer shared hasConnected =>
      intro htakes
      simp [isPhoneOnly, htakes] at h

/-- No packet was received. -/
def silent (log : List Event) : Bool :=
  log.all (fun e => match e with
    | .received _ _ => false
    | _ => true)

theorem not_received {log : List Event} (h : silent log = true) : ¬ ResponseReceived log := by
  rintro ⟨t, p, hp, -⟩
  have := List.all_eq_true.mp h _ hp
  cases this

end Sample

/-- The socket fails before the phone has answered, and `RunServer` returns `DATA_ERROR`. -/
theorem phone_answer_without_phone : ∃ s result,
    Sample.serving.Fresh ∧ Sample.serving.base.needsDeviceID = false ∧
    exec (Serving.step Sample.env) Sample.serving (Sample.requests ++ Sample.readFails .unknown ++
      Sample.polls ++ Sample.ends) = some s ∧
    s.run.pc = .returned result ∧ isPhoneAnswer result.state = true ∧
    ¬ ResponseReceived s.base.log := by
  have hrun : (exec (Serving.step Sample.env) Sample.serving (Sample.requests ++
      Sample.readFails .unknown ++ Sample.polls ++ Sample.ends)).map (fun s =>
        (s.run.pc, Sample.silent s.base.log)) =
      some (.returned ⟨.dataError, Sample.lockedDevice, [], []⟩, true) := by decide +kernel
  obtain ⟨s, hs, he⟩ := Option.map_eq_some_iff.mp hrun
  obtain ⟨hpc, hlog⟩ := Prod.mk.inj he
  exact ⟨s, _, Sample.serving_fresh, rfl, hs, hpc, rfl, Sample.not_received hlog⟩

/-- An unreadable response of the phone gives `DATA_ERROR`. -/
theorem phone_answer_received_sample : ∃ s result,
    exec (Serving.step Sample.env) Sample.serving (Sample.requests ++ Sample.phoneMumbles ++
      Sample.polls ++ Sample.returns) = some s ∧
    s.run.pc = .returned result ∧ isPhoneAnswer result.state = true ∧
    ResponseReceived s.base.log := by
  have hrun : (exec (Serving.step Sample.env) Sample.serving (Sample.requests ++
      Sample.phoneMumbles ++ Sample.polls ++ Sample.returns)).map (·.run.pc) =
      some (.returned ⟨.dataError, Sample.lockedDevice, [], []⟩) := by decide +kernel
  obtain ⟨s, hs, hpc⟩ := Option.map_eq_some_iff.mp hrun
  refine ⟨s, _, hs, hpc, rfl, phone_answer_received Sample.serving_fresh rfl hs ?_ hpc rfl⟩
  exact along_of_check Sample.phoneOnly_of_test (by decide +kernel)

end PcbuDesktop
