import PcbuDesktop.Unlock.Connection

set_option autoImplicit false

/-! # A successful connection was authenticated

`m_UnlockState == SUCCESS` is reached only through a response that was decrypted under the key
of an allowed device and carries the token of this connection, on a stream on which the
request for that device was written before. The invariant `Inv` says, for every thread, what
the local variables at its program point are known to be. It holds for any number of streams,
any packets and any interleaving.
-/

namespace PcbuDesktop

open Runs

section

variable {env : Env}

/-! ## Requests and responses -/

/-- `q` is an unlock request of the connection for the device `d`: it carries the user, the
program and the token, encrypted under the device's key. -/
structure RequestFor (env : Env) (c : Conn) (d : PairedDevice) (q : UnlockRequest) : Prop where
  key : q.key = d.encryptionKey
  plain : env.json.dump c.requestData.toJson = some q.plain
  cipher : ∃ seed, (env.crypt.encryptAESPacket seed q.plain q.key).result = .ok ∧
    (env.crypt.encryptAESPacket seed q.plain q.key).data = q.cipher
  packet : env.json.dump (PacketUnlockRequest.toJson
    ⟨unlockProtocolVersion, d.id, toHexString q.cipher⟩) = some q.packet

/-- `r` is a response without error whose encrypted part decrypts under the key of `r.device`
to a payload with the connection's token. -/
structure ResponseFor (env : Env) (c : Conn) (r : Response) : Prop where
  decrypted : ∃ resp, PacketUnlockResponse.fromJson env.json r.packet.data = some resp ∧
    resp.error = [] ∧
    (env.crypt.decryptAESPacket r.now (fromHexString resp.encData)
      r.device.encryptionKey).result = .ok ∧
    (env.crypt.decryptAESPacket r.now (fromHexString resp.encData)
      r.device.encryptionKey).data = r.payload
  parsed : PacketUnlockResponseData.fromJson env.json r.payload = some r.data
  token : r.data.unlockToken = c.unlockToken

theorem requestFor_of_built {c : Conn} {d : PairedDevice} {seed : Nat} {q : UnlockRequest}
    (h : buildUnlockRequest env c d seed = .built q) : RequestFor env c d q := by
  unfold buildUnlockRequest at h
  split at h
  · cases h
  · next plain hplain =>
      simp only at h
      split at h
      · cases h
      · next hok =>
          split at h
          · cases h
          · next packet hpacket =>
              cases h
              exact ⟨rfl, hplain, ⟨seed, not_not.mp hok, rfl⟩, hpacket⟩

/-- The only way out of `OnResponseReceived` towards success. -/
theorem responseFor_of_accept {c : Conn} {b : Bool} {p : Packet} {d : PairedDevice} {now : Int}
    {r : Response} (h : onResponseReceived env c b p d now = .accept r) :
    r.packet = p ∧ r.device = d ∧ ResponseFor env c r := by
  unfold onResponseReceived handleUnverifiedError at h
  split at h
  · split at h <;> cases h
  · next resp hresp =>
      split at h
      · cases h
      · next herr =>
          simp only at h
          split at h
          · split at h
            · cases h
            · split at h <;> cases h
          · next hok =>
              split at h
              · cases h
              · next data hdata =>
                  split at h
                  · split at h <;> cases h
                  · next htok =>
                      cases h
                      exact ⟨rfl, rfl, ⟨resp, hresp, not_not.mp herr, not_not.mp hok, rfl⟩, hdata,
                        not_not.mp htok⟩

theorem OuterStore.state_ne_success (o : OuterStore) : o.state ≠ .success := by
  cases o with
  | cloud status => cases status <;> simp [OuterStore.state, mapRequestError]
  | _ => simp [OuterStore.state]

/-! ## The invariant -/

/-- The device is allowed, and a request for it was written on the stream. -/
def Trusted (env : Env) (c : Conn) (log : List Event) (t : StreamId) (d : PairedDevice) : Prop :=
  d ∈ c.allowedDevices ∧ ∃ q, Event.sent t q ∈ log ∧ RequestFor env c d q

/-- What is known at each program point of the thread of stream `t`. The thread holds the lock
from `acceptDevice` to `acceptInfo`, and the state is not yet `SUCCESS` before `acceptInfo`. -/
def FlowOk (env : Env) (c : Conn) (log : List Event) (t : StreamId) : Flow → Prop
  | .request d => d ∈ c.allowedDevices ∧ c.connections t = some ⟨.hasDeviceId, d⟩
  | .requested => Trusted env c log t (c.info t).device
  | .answer d => d ∈ c.allowedDevices
  | .answered d => Trusted env c log t d
  | .respond _ d => Trusted env c log t d
  | .store st => st ≠ .success
  | .accept r => Trusted env c log t r.device ∧ ResponseFor env c r
  | .acceptDevice r =>
      (Trusted env c log t r.device ∧ ResponseFor env c r) ∧
        c.stateMutex = some t ∧ c.unlockState ≠ .success
  | .acceptData r =>
      (Trusted env c log t r.device ∧ ResponseFor env c r) ∧
        c.stateMutex = some t ∧ c.unlockState ≠ .success ∧ c.pairedDevice = r.device
  | .acceptState r =>
      (Trusted env c log t r.device ∧ ResponseFor env c r) ∧
        c.stateMutex = some t ∧ c.unlockState ≠ .success ∧ c.pairedDevice = r.device ∧
        c.responseData = r.data
  | .acceptInfo => c.stateMutex = some t
  | _ => True

/-- The result fields come from a response accepted on a stream after the request for the
same device was written on it. -/
def Authentic (env : Env) (c : Conn) (log : List Event) : Prop :=
  c.pairedDevice ∈ c.allowedDevices ∧
  ∃ t q r pre mid post,
    log = pre ++ .sent t q :: (mid ++ .accepted t r :: post) ∧
    RequestFor env c c.pairedDevice q ∧
    ResponseFor env c r ∧ r.device = c.pairedDevice ∧ r.data = c.responseData

structure Inv (env : Env) (s : System) : Prop where
  infos : ∀ t info, s.conn.connections t = some info → info.state = .hasUnlockRequest →
    Trusted env s.conn s.log t info.device
  flows : ∀ t f, s.flows t = some f → FlowOk env s.conn s.log t f
  client : s.needsDeviceID = false → s.conn.pairedDevice ∈ s.conn.allowedDevices
  success : s.conn.unlockState = .success → Authentic env s.conn s.log

/-! ## Frames -/

theorem RequestFor.congr {c c' : Conn} {d : PairedDevice} {q : UnlockRequest}
    (h : RequestFor env c d q) (hc : c.SameConfig c') : RequestFor env c' d q :=
  ⟨h.key, hc.requestData ▸ h.plain, h.cipher, h.packet⟩

theorem ResponseFor.congr {c c' : Conn} {r : Response}
    (h : ResponseFor env c r) (hc : c.SameConfig c') : ResponseFor env c' r :=
  ⟨h.decrypted, h.parsed, hc.unlockToken ▸ h.token⟩

theorem Trusted.mono {c c' : Conn} {log evs : List Event} {t : StreamId} {d : PairedDevice}
    (h : Trusted env c log t d) (hc : c.SameConfig c') : Trusted env c' (log ++ evs) t d := by
  obtain ⟨hd, q, hq, hr⟩ := h
  exact ⟨hc.allowedDevices ▸ hd, q, List.mem_append_left _ hq, hr.congr hc⟩

theorem Authentic.mono {c c' : Conn} {log evs : List Event} (h : Authentic env c log)
    (hc : c.SameConfig c') (hd : c'.pairedDevice = c.pairedDevice)
    (hr : c'.responseData = c.responseData) : Authentic env c' (log ++ evs) := by
  obtain ⟨hmem, t, q, r, pre, mid, post, hlog, hq, hresp, hdev, hdata⟩ := h
  refine ⟨by rw [hd, hc.allowedDevices]; exact hmem, t, q, r, pre, mid, post ++ evs, ?_, ?_,
    hresp.congr hc, ?_, ?_⟩
  · simp [hlog]
  · rw [hd]; exact hq.congr hc
  · rw [hd]; exact hdev
  · rw [hr]; exact hdata

/-- The other fields of the connection do not matter. -/
theorem Authentic.congr {c c' : Conn} {log : List Event} (h : Authentic env c log)
    (hc : c.SameConfig c') (hd : c'.pairedDevice = c.pairedDevice)
    (hr : c'.responseData = c.responseData) : Authentic env c' log := by
  have hmono : Authentic env c' (log ++ []) := h.mono hc hd hr
  rwa [List.append_nil] at hmono

/-- A thread whose facts do not mention the fields that changed keeps them. The last four
premises are needed only inside the locked section. -/
theorem FlowOk.frame {c c' : Conn} {log evs : List Event} {t : StreamId} {f : Flow}
    (h : FlowOk env c log t f) (hc : c.SameConfig c') (hi : c'.connections t = c.connections t)
    (hsec : c.stateMutex = some t → c'.stateMutex = some t ∧
      (c.unlockState ≠ .success → c'.unlockState ≠ .success) ∧
      c'.pairedDevice = c.pairedDevice ∧ c'.responseData = c.responseData) :
    FlowOk env c' (log ++ evs) t f := by
  cases f with
  | request d => exact ⟨hc.allowedDevices ▸ h.1, hi ▸ h.2⟩
  | requested =>
      have hinfo : c'.info t = c.info t := by simp [Conn.info, hi]
      show Trusted env c' (log ++ evs) t (c'.info t).device
      rw [hinfo]
      exact Trusted.mono h hc
  | answer d =>
      show d ∈ c'.allowedDevices
      rw [hc.allowedDevices]
      exact h
  | answered d => exact Trusted.mono h hc
  | respond p d => exact Trusted.mono h hc
  | store st => exact h
  | accept r => exact ⟨h.1.mono hc, h.2.congr hc⟩
  | acceptDevice r =>
      obtain ⟨hr, hm, hu⟩ := h
      obtain ⟨hm', hu', -, -⟩ := hsec hm
      exact ⟨⟨hr.1.mono hc, hr.2.congr hc⟩, hm', hu' hu⟩
  | acceptData r =>
      obtain ⟨hr, hm, hu, hd⟩ := h
      obtain ⟨hm', hu', hd', -⟩ := hsec hm
      exact ⟨⟨hr.1.mono hc, hr.2.congr hc⟩, hm', hu' hu, hd'.trans hd⟩
  | acceptState r =>
      obtain ⟨hr, hm, hu, hd, hdata⟩ := h
      obtain ⟨hm', hu', hd', hdata'⟩ := hsec hm
      exact ⟨⟨hr.1.mono hc, hr.2.congr hc⟩, hm', hu' hu, hd'.trans hd, hdata'.trans hdata⟩
  | acceptInfo => exact (hsec h).1
  | _ => trivial

/-! ## One step of a thread -/

/-- An entry that is not in the default state exists in the map. -/
theorem Conn.connections_of_state {c : Conn} {t : StreamId} {st : UnlockConnectionState}
    (h : (c.info t).state = st) (hst : st ≠ .none) : c.connections t = some (c.info t) := by
  cases hct : c.connections t with
  | none =>
      have hdef : (c.info t).state = .none := by simp [Conn.info, hct]
      exact absurd (h.symm.trans hdef) hst
  | some info => simp [Conn.info, hct]

theorem flowOk_handleUnverifiedError {c : Conn} {log : List Event} {t : StreamId} {b : Bool}
    {st : UnlockState} (hst : st ≠ .success) :
    FlowOk env c log t (handleUnverifiedError st b) := by
  cases b with
  | true => exact trivial
  | false => exact hst

theorem flowOk_onResponseReceived {c : Conn} {log : List Event} {t : StreamId} {b : Bool}
    {p : Packet} {d : PairedDevice} {now : Int} (hd : Trusted env c log t d) :
    FlowOk env c log t (onResponseReceived env c b p d now) := by
  rcases onResponseReceived_cases env c b p d now with ⟨st, -, hst, he⟩ | ⟨st, -, hst, he⟩ | ⟨r, he⟩
  · rw [he]; exact flowOk_handleUnverifiedError hst
  · rw [he]; exact hst
  · obtain ⟨-, hdev, hresp⟩ := responseFor_of_accept he
    rw [he]
    exact ⟨hdev ▸ hd, hresp⟩

/-- The thread that moved knows what its next program point asks for. -/
theorem FlowMove.flowOk_next {b : Bool} {t : StreamId} {c c' : Conn} {f n : Flow} {i : Input}
    {log evs : List Event} (h : FlowMove env b t c f i c' (some n) evs)
    (hok : FlowOk env c log t f)
    (hinfo : ∀ info, c.connections t = some info → info.state = .hasUnlockRequest →
      Trusted env c log t info.device)
    (hclient : b = false → c.pairedDevice ∈ c.allowedDevices) :
    FlowOk env c' (log ++ evs) t n := by
  have hc := h.sameConfig
  cases h with
  | enterClient hb hm => exact ⟨hclient hb, by simp [Conn.setInfo]⟩
  -- the client's own request, for the device its entry was made with
  | requestSent d seed q hq =>
      have hdev : (c.info t).device = d := by simp [Conn.info, hok.2]
      show Trusted env c (log ++ [.sent t q]) t (c.info t).device
      rw [hdev]
      exact ⟨hok.1, q, by simp, requestFor_of_built hq⟩
  | lookup p hm =>
      rcases onPacketReceived_cases (c.info t) p with he | he | ⟨he, hstate, -⟩
      · rw [he]; exact trivial
      · rw [he]; exact trivial
      -- the device of the copied entry is trusted, since the entry waits for a response
      · rw [he]
        exact (hinfo _ (Conn.connections_of_state hstate (by simp)) hstate).mono hc
  | findNone id hm hnone => exact flowOk_handleUnverifiedError (by simp)
  | findSome id d hm hd => exact List.mem_of_find?_eq_some hd
  | answerSent d seed q hq => exact ⟨hok, q, by simp, requestFor_of_built hq⟩
  | answerError d seed r e =>
      exact flowOk_handleUnverifiedError (mapPacketError_ne_success (by simp))
  | respond p d now => exact flowOk_onResponseReceived (hok.mono hc)
  | acceptLock r hm hu =>
      refine ⟨⟨hok.1.mono hc, hok.2.congr hc⟩, rfl, ?_⟩
      show c.unlockState ≠ .success
      simp [hu]
  | acceptDevice r =>
      obtain ⟨hr, hm, hu⟩ := hok
      exact ⟨⟨hr.1.mono hc, hr.2.congr hc⟩, hm, hu, rfl⟩
  | acceptData r =>
      obtain ⟨hr, hm, hu, hd⟩ := hok
      exact ⟨⟨hr.1.mono hc, hr.2.congr hc⟩, hm, hu, hd, rfl⟩
  | acceptState r => exact hok.2.1
  | _ => trivial

/-- Another thread's locked section is not disturbed: whoever moves does not hold the lock. -/
theorem FlowMove.section_frame {b : Bool} {t u : StreamId} {c c' : Conn} {f : Flow} {i : Input}
    {n : Option Flow} {log evs : List Event} (h : FlowMove env b t c f i c' n evs)
    (hok : FlowOk env c log t f) (hut : u ≠ t) (hm : c.stateMutex = some u) :
    c'.stateMutex = some u ∧ (c.unlockState ≠ .success → c'.unlockState ≠ .success) ∧
      c'.pairedDevice = c.pairedDevice ∧ c'.responseData = c.responseData := by
  -- the thread that moves stands at no point of the locked section, since `u` holds the lock
  have hne : c.stateMutex ≠ some t := by
    rw [hm]
    intro he
    exact hut (Option.some.inj he)
  cases h with
  | requestFailed e => exact ⟨hm, fun _ => mapPacketError_ne_success (by simp), rfl, rfl⟩
  | store st => exact ⟨hm, fun _ => hok, rfl, rfl⟩
  | acceptLock r hnone => rw [hnone] at hm; cases hm
  | acceptDevice r => exact absurd hok.2.1 hne
  | acceptData r => exact absurd hok.2.1 hne
  | acceptState r => exact absurd hok.2.1 hne
  | acceptInfo => exact absurd hok hne
  | fail e => exact ⟨hm, fun _ => mapPacketError_ne_success (by simp), rfl, rfl⟩
  | caught => exact ⟨hm, fun _ => by simp, rfl, rfl⟩
  | _ => exact ⟨hm, id, rfl, rfl⟩

/-- The entry a thread writes is trusted if it waits for a response. -/
theorem FlowMove.info_trusted {b : Bool} {t : StreamId} {c c' : Conn} {f : Flow} {i : Input}
    {n : Option Flow} {log evs : List Event} (h : FlowMove env b t c f i c' n evs)
    (hok : FlowOk env c log t f)
    (hinfo : ∀ info, c.connections t = some info → info.state = .hasUnlockRequest →
      Trusted env c log t info.device)
    {info : ConnectionInfo} (hct : c'.connections t = some info)
    (hst : info.state = .hasUnlockRequest) : Trusted env c' (log ++ evs) t info.device := by
  have hc := h.sameConfig
  cases h with
  | enterServer hb hm => simp [Conn.setInfo] at hct; subst hct; cases hst
  | enterClient hb hm => simp [Conn.setInfo] at hct; subst hct; cases hst
  | requested hm => simp [Conn.setInfo] at hct; subst hct; exact Trusted.mono hok hc
  | lookup p hm =>
      simp only [Conn.setInfo, Function.update_self, Option.some.injEq] at hct
      subst hct
      exact (hinfo _ (Conn.connections_of_state hst (by simp)) hst).mono hc
  | answered d hm => simp [Conn.setInfo] at hct; subst hct; exact Trusted.mono hok hc
  | acceptInfo =>
      simp only [Function.update_self, Option.map_eq_some_iff] at hct
      obtain ⟨old, -, rfl⟩ := hct
      cases hst
  | erase e hm => simp [Conn.eraseInfo] at hct
  | _ => exact (hinfo info hct hst).mono hc

/-- A step that leaves the state at `SUCCESS` keeps the result fields authentic: either they
did not change, or the step is the last store of an accepted response. -/
theorem FlowMove.authentic {b : Bool} {t : StreamId} {c c' : Conn} {f : Flow} {i : Input}
    {n : Option Flow} {log evs : List Event} (h : FlowMove env b t c f i c' n evs)
    (hok : FlowOk env c log t f) (hauth : c.unlockState = .success → Authentic env c log)
    (hs : c'.unlockState = .success) : Authentic env c' (log ++ evs) := by
  have hc := h.sameConfig
  cases h with
  | requestFailed e => exact absurd hs (mapPacketError_ne_success (by simp))
  | store st => exact absurd hs hok
  | acceptDevice r => exact absurd hs hok.2.2
  | acceptData r => exact absurd hs hok.2.2.1
  | acceptState r =>
      obtain ⟨⟨⟨hmem, q, hq, hreq⟩, hresp⟩, -, -, hdev, hdata⟩ := hok
      -- the request stands in the log before this acceptance, on the same stream
      obtain ⟨pre, mid, rfl⟩ := List.append_of_mem hq
      rw [← hdev] at hmem hreq
      exact ⟨hmem, t, q, r, pre, mid, [], by simp, hreq.congr hc, hresp.congr hc, hdev.symm,
        hdata.symm⟩
  | fail e => exact absurd hs (mapPacketError_ne_success (by simp))
  | caught => cases hs
  | _ => exact (hauth hs).mono hc rfl rfl

/-! ## Every run -/

theorem inv_initial {s : System} (h : Initial s) : Inv env s := by
  cases h with
  | server token user program devices =>
      refine ⟨?_, ?_, ?_, ?_⟩
      · intro t info hct; cases hct
      · intro t f hf; cases hf
      · intro hb; cases hb
      · intro hs; cases hs
  | client token user program device other =>
      refine ⟨?_, ?_, ?_, ?_⟩
      · intro t info hct; cases hct
      · intro t f hf; cases hf
      · intro _; simp [Conn.ofDevice, Conn.setUnlockInfo]
      · intro hs; cases hs

/-- A store to a field that the invariant does not mention, or of a state that is not
`SUCCESS`, keeps the invariant. -/
theorem Inv.set_conn {s : System} {c' : Conn} (hI : Inv env s) (hc : s.conn.SameConfig c')
    (hcon : c'.connections = s.conn.connections) (hm : c'.stateMutex = s.conn.stateMutex)
    (hd : c'.pairedDevice = s.conn.pairedDevice) (hr : c'.responseData = s.conn.responseData)
    (hu : c'.unlockState = .success → s.conn.unlockState = .success) :
    Inv env { s with conn := c' } := by
  have hnil : s.log = s.log ++ [] := by simp
  refine ⟨?_, ?_, ?_, ?_⟩
  · intro t info hct hst
    show Trusted env c' s.log t info.device
    rw [hnil]
    exact (hI.infos t info (hcon ▸ hct) hst).mono hc
  · intro t f hf
    show FlowOk env c' s.log t f
    rw [hnil]
    refine (hI.flows t f hf).frame hc (by rw [hcon]) (fun hmt => ⟨hm ▸ hmt, ?_, hd, hr⟩)
    exact fun hne he => hne (hu he)
  · intro hb
    show c'.pairedDevice ∈ c'.allowedDevices
    rw [hd, hc.allowedDevices]
    exact hI.client hb
  · intro hs
    show Authentic env c' s.log
    rw [hnil]
    exact (hI.success (hu hs)).mono hc hd hr

theorem Inv.advance {s : System} {t : StreamId} {i : Input} {f : Flow} {c : Conn}
    {n : Option Flow} {evs : List Event} (hI : Inv env s) (hf : s.flows t = some f)
    (h : FlowMove env s.needsDeviceID t s.conn f i c n evs) : Inv env (s.advance t c n evs) := by
  have hok := hI.flows t f hf
  have hc := h.sameConfig
  refine ⟨?_, ?_, ?_, ?_⟩
  · intro u info hct hst
    by_cases hu : u = t
    · subst hu
      exact h.info_trusted hok (fun info => hI.infos u info) hct hst
    · have hold : s.conn.connections u = some info := by
        rw [← h.connections_ne hu]; exact hct
      exact (hI.infos u info hold hst).mono hc
  · intro u g hg
    rcases update_eq_some hg with ⟨rfl, rfl⟩ | ⟨hu, hold⟩
    · exact h.flowOk_next hok (fun info => hI.infos u info) hI.client
    · exact (hI.flows u g hold).frame hc (h.connections_ne hu)
        (fun hm => h.section_frame hok hu hm)
  · intro hb
    have hold := hI.client hb
    show c.pairedDevice ∈ c.allowedDevices
    rw [hc.allowedDevices]
    cases h with
    -- only an acceptance changes the paired device, to one that is allowed
    | acceptDevice r => exact hok.1.1.1
    | _ => exact hold
  · intro hs
    exact h.authentic hok hI.success hs

theorem inv_step {s s' : System} {l : Label} (hI : Inv env s) (h : s.step env l = some s') :
    Inv env s' := by
  cases System.step_move h with
  | spawn t hf hmode =>
      refine ⟨hI.infos, ?_, hI.client, hI.success⟩
      intro u g hg
      rcases update_eq_some hg with ⟨rfl, hs⟩ | ⟨hu, hold⟩
      · cases hs; exact trivial
      · exact hI.flows u g hold
  | flow t i f c n evs hf hmove => exact hI.advance hf hmove
  | outer store hen =>
      exact hI.set_conn ⟨rfl, rfl, rfl, rfl⟩ rfl rfl rfl rfl
        (fun he => absurd he store.state_ne_success)
  | phase ph => exact hI.set_conn ⟨rfl, rfl, rfl, rfl⟩ rfl rfl rfl rfl id
  | running r => exact hI.set_conn ⟨rfl, rfl, rfl, rfl⟩ rfl rfl rfl rfl id

theorem inv_of_reachable {s₀ s : System} (h₀ : Initial s₀) (h : Reachable (System.step env) s₀ s) :
    Inv env s :=
  h.inv (fun _ _ _ hI hs => inv_step hI hs) (inv_initial h₀)

/-! ## The result -/

/-- Nothing changes the configuration and the mode of a connection. -/
theorem step_config {s s' : System} {l : Label} (h : s.step env l = some s') :
    s'.needsDeviceID = s.needsDeviceID ∧ s.conn.SameConfig s'.conn := by
  cases System.step_move h with
  | flow t i f c n evs hf hmove => exact ⟨rfl, hmove.sameConfig⟩
  | _ => exact ⟨rfl, rfl, rfl, rfl, rfl⟩

theorem Conn.SameConfig.trans {a b c : Conn} (h : a.SameConfig b) (h' : b.SameConfig c) :
    a.SameConfig c :=
  ⟨h'.allowedDevices.trans h.allowedDevices, h'.authUser.trans h.authUser,
    h'.authProgram.trans h.authProgram, h'.unlockToken.trans h.unlockToken⟩

theorem reachable_config {s₀ s : System} (h : Reachable (System.step env) s₀ s) :
    s.needsDeviceID = s₀.needsDeviceID ∧ s₀.conn.SameConfig s.conn := by
  refine h.inv (I := fun s => s.needsDeviceID = s₀.needsDeviceID ∧ s₀.conn.SameConfig s.conn)
    ?_ ⟨rfl, rfl, rfl, rfl, rfl⟩
  intro s l s' hI hs
  obtain ⟨hb, hc⟩ := step_config hs
  exact ⟨hb.trans hI.1, hI.2.trans hc⟩

/-- The device that a response on stream `t` is checked against: the one `OnResponseReceived`
was called with, or else the one in the stream's entry. -/
def System.checkedDevice (s : System) (t : StreamId) : PairedDevice :=
  match s.flows t with
  | some (.respond _ d) => d
  | some (.accept r) | some (.acceptDevice r) | some (.acceptData r) | some (.acceptState r) =>
      r.device
  | _ => (s.conn.info t).device

/-- The label is a step of the thread of stream `t`, or its start. -/
def Label.onStream (t : StreamId) : Label → Prop
  | .spawn u => u = t
  | .flow u _ => u = t
  | _ => False

theorem checkedDevice_step {s s' : System} {l : Label} (h : s.step env l = some s') (u : StreamId)
    (hl : ¬ l.onStream u) : s'.checkedDevice u = s.checkedDevice u := by
  cases System.step_move h with
  | spawn t hf hmode =>
      have hu : u ≠ t := fun he => hl he.symm
      simp [System.checkedDevice, Function.update_of_ne hu]
  | flow t i f c n evs hf hmove =>
      have hu : u ≠ t := fun he => hl he.symm
      have hi : c.info u = s.conn.info u := by simp [Conn.info, hmove.connections_ne hu]
      simp [System.checkedDevice, System.advance, Function.update_of_ne hu, hi]
  | _ => rfl

/-- **`SUCCESS` is authentic.** In every reachable state of a connection whose state is
`SUCCESS`, the paired device is an allowed one (for a client the one it was made for), a
request with the connection's token under that device's key was written on the stream on
which a response was accepted later, and the response data are the parse of a payload that
was decrypted under the same key and carries the token. No step of one stream changes the
device that another stream's response is checked against. -/
theorem success_authentic {s₀ s : System} (h₀ : Initial s₀)
    (h : Reachable (System.step env) s₀ s) :
    (s.conn.unlockState = .success →
      s.conn.pairedDevice ∈ s₀.conn.allowedDevices ∧
      (s.needsDeviceID = false → s.conn.pairedDevice = s₀.conn.pairedDevice) ∧
      ∃ t q r pre mid post,
        s.log = pre ++ .sent t q :: (mid ++ .accepted t r :: post) ∧
        RequestFor env s₀.conn s.conn.pairedDevice q ∧
        ResponseFor env s₀.conn r ∧ r.device = s.conn.pairedDevice ∧
        r.data = s.conn.responseData) ∧
    ∀ l s', s.step env l = some s' → ∀ u, ¬ l.onStream u →
      s'.checkedDevice u = s.checkedDevice u := by
  refine ⟨?_, fun l s' hs u hu => checkedDevice_step hs u hu⟩
  intro hs
  obtain ⟨hb, hc⟩ := reachable_config h
  have hc' : s.conn.SameConfig s₀.conn :=
    ⟨hc.allowedDevices.symm, hc.authUser.symm, hc.authProgram.symm, hc.unlockToken.symm⟩
  obtain ⟨hmem, t, q, r, pre, mid, post, hlog, hq, hr, hdev, hdata⟩ :=
    (inv_of_reachable h₀ h).success hs
  rw [hc.allowedDevices] at hmem
  refine ⟨hmem, ?_, t, q, r, pre, mid, post, hlog, hq.congr hc', hr.congr hc', hdev, hdata⟩
  intro hclient
  cases h₀ with
  | server token user program devices => rw [hb] at hclient; cases hclient
  | client token user program device other =>
      simpa [Conn.ofDevice, Conn.setUnlockInfo] using hmem

end

/-! ## A concrete exchange

A phone that connects to a server, names its device and answers. The cipher opens exactly
what was sealed under the same key, and the JSON library is given on the texts exchanged. -/

namespace Sample

def device : PairedDevice := { id := str "d", encryptionKey := str "k" }

def token : Str := str "T"

/-- A cipher that opens exactly what was sealed under the same key. -/
def crypt : CryptLib where
  encryptAESPacket _ plain key := { data := key ++ 0 :: plain }
  decryptAESPacket _ data key :=
    if (key ++ [0]).isPrefixOf data then { data := data.drop (key.length + 1) }
    else { result := .otherError }
  encryptAES _ data key := some (toHexString (key ++ 0 :: data))
  decryptAES data key :=
    if (key ++ [0]).isPrefixOf (fromHexString data) then
      some ((fromHexString data).drop (key.length + 1))
    else none
  sha256 text := text

/-- The plaintext of the request and the packet that carries it. -/
def requestPlain : Str := str "\x7b\"program\":\"p\",\"unlockToken\":\"T\",\"user\":\"u\"\x7d"
def requestHex : Str := toHexString (str "k" ++ 0 :: requestPlain)
def requestText : Str :=
  str "\x7b\"deviceId\":\"d\",\"encData\":\"" ++ requestHex ++ str "\",\"protoVersion\":\"3.0.0\"\x7d"

/-- The phone's answer. -/
def responsePlain : Str := str "\x7b\"passwordKey\":\"P\",\"unlockToken\":\"T\"\x7d"
def responseHex : Str := toHexString (str "k" ++ 0 :: responsePlain)
def responseText : Str := str "\x7b\"encData\":\"" ++ responseHex ++ str "\",\"error\":\"\"\x7d"

def cancelText : Str := str "\x7b\"encData\":\"\",\"error\":\"CANCEL\"\x7d"

/-- The JSON library on the texts of the exchange. -/
def json : JsonLib where
  parse s :=
    if s = responseText then some (.obj [("encData", .str responseHex), ("error", .str [])])
    else if s = responsePlain then
      some (.obj [("passwordKey", .str (str "P")), ("unlockToken", .str (str "T"))])
    else if s = cancelText then
      some (.obj [("encData", .str []), ("error", .str (str "CANCEL"))])
    else if s = requestPlain then
      some (PacketUnlockRequestData.toJson ⟨str "u", str "p", str "T"⟩)
    else if s = requestText then
      some (PacketUnlockRequest.toJson ⟨unlockProtocolVersion, str "d", requestHex⟩)
    else none
  dump
    | .obj [("program", .str p), ("unlockToken", .str t), ("user", .str u)] =>
        if p = str "p" ∧ t = str "T" ∧ u = str "u" then some requestPlain else none
    | .obj [("deviceId", .str d), ("encData", .str e), ("protoVersion", .str v)] =>
        if d = str "d" ∧ e = requestHex ∧ v = unlockProtocolVersion then some requestText else none
    | _ => none

def env : Env := ⟨json, crypt⟩

def server : System :=
  { conn := ((Conn.ofServer token).setUnlockInfo (str "u") (str "p")).setAllowedDevices [device]
    needsDeviceID := true }

/-- A phone connects on stream `t` and names its device. -/
def connects (t : StreamId) : List Label :=
  [.spawn t, .flow t .tau, .flow t .tau,
    .flow t (.packet ⟨.none, PACKET_ID_DEVICE_ID, str "d"⟩), .flow t .tau, .flow t .tau,
    .flow t (.write 0 .none), .flow t .tau]

/-- It answers, and the answer is accepted. -/
def answers (t : StreamId) : List Label :=
  [.flow t (.packet ⟨.none, PACKET_ID_UNLOCK_RESPONSE, responseText⟩), .flow t .tau,
    .flow t (.clock 0), .flow t .tau, .flow t .tau, .flow t .tau, .flow t .tau, .flow t .tau]

theorem server_success :
    (exec (System.step env) server (connects 0 ++ answers 0)).map (·.conn.unlockState)
      = some .success := by
  decide +kernel
end Sample

theorem success_authentic_sample : ∃ s,
    exec (System.step Sample.env) Sample.server (Sample.connects 0 ++ Sample.answers 0) = some s ∧
    s.conn.unlockState = .success ∧ s.conn.pairedDevice ∈ Sample.server.conn.allowedDevices := by
  obtain ⟨s, hrun, hs⟩ := Option.map_eq_some_iff.mp Sample.server_success
  exact ⟨s, hrun, hs, ((success_authentic (.server _ _ _ _) ⟨_, hrun⟩).1 hs).1⟩

end PcbuDesktop
