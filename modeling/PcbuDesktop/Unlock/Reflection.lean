import PcbuDesktop.Pairing.PairingServer
import PcbuDesktop.Unlock.Authenticity

set_option autoImplicit false

/-! # No reflection

Requests, responses and the messages of a pairing are encrypted under the same key and carry no
direction. `World` is a PC with any number of unlock connections and pairings, before a network
that does not know the keys of the devices: a packet that reaches a connection may hold any
bytes, but a ciphertext under a device's key is one that the PC produced itself. Such a
ciphertext is never taken for a response of the phone, because its plaintext lacks a member that
`PacketUnlockResponseData::FromJson` asks for.
-/

namespace PcbuDesktop

open Runs

/-! ## The cipher -/

/-- The bytes are a ciphertext under the key. -/
def CryptLib.Encrypts (crypt : CryptLib) (key : Str) (data : Bytes) : Prop :=
  ∃ seed plain, (crypt.encryptAESPacket seed plain key).result = .ok ∧
    (crypt.encryptAESPacket seed plain key).data = data

/-- `DecryptAESPacket` opens nothing but ciphertexts under its key, and gives back the
plaintext. -/
structure CryptLib.Authenticated (crypt : CryptLib) : Prop where
  opens : ∀ now data key, (crypt.decryptAESPacket now data key).result = .ok →
    crypt.Encrypts key data
  plain : ∀ now seed plain key, (crypt.encryptAESPacket seed plain key).result = .ok →
    (crypt.decryptAESPacket now (crypt.encryptAESPacket seed plain key).data key).result = .ok →
    (crypt.decryptAESPacket now (crypt.encryptAESPacket seed plain key).data key).data = plain

/-! ## The PC -/

/-- The constructors of the connections, with what `GetResult` sets before `Start`. -/
inductive ConnConfig where
  | server (token authUser authProgram : Str) (devices : List PairedDevice)
  | client (token authUser authProgram : Str) (device : PairedDevice) (otherClient : Bool)
  deriving DecidableEq, Repr

def ConnConfig.system : ConnConfig → System
  | .server token authUser authProgram devices =>
      { conn := ((Conn.ofServer token).setUnlockInfo authUser authProgram).setAllowedDevices devices
        needsDeviceID := true }
  | .client token authUser authProgram device otherClient =>
      { conn := { (Conn.ofDevice token device).setUnlockInfo authUser authProgram with
          otherClient := otherClient }
        needsDeviceID := false }

theorem ConnConfig.initial (config : ConnConfig) : Initial config.system := by
  cases config with
  | server token authUser authProgram devices => exact .server token authUser authProgram devices
  | client token authUser authProgram device otherClient =>
      exact .client token authUser authProgram device otherClient

/-- What a step of a connection encrypts: the data of `SendUnlockRequest`, also when the write
fails afterwards. -/
def System.encrypts (env : Env) (s : System) : Label → List Ciphertext
  | .flow t (.write seed _) =>
      match s.flows t with
      | some (.request device) | some (.answer device) =>
          match env.json.dump s.conn.requestData.toJson with
          | none => []
          | some encDataStr => env.encrypted seed encDataStr device.encryptionKey
      | _ => []
  | _ => []

/-- The connections and pairings of a PC; `produced` is history: every ciphertext it made. -/
structure World where
  conns : Nat → Option System := fun _ => none
  pairings : Nat → Option Pairing := fun _ => none
  produced : List Ciphertext := []

inductive WorldLabel where
  /-- a connection is created -/
  | create (i : Nat) (config : ConnConfig)
  | conn (i : Nat) (label : Label)
  /-- a client connects to a pairing server -/
  | accept (j : Nat) (uiData : PairingUIData)
  | pairing (j : Nat) (answer : PairingAnswer)
  /-- a beacon of `UDPPairingBroadcaster` -/
  | beacon (encKey : Str) (seed : Nat) (packet : PacketUDPPairBeacon)

def PairingEffect.ciphertext? : PairingEffect → Option Ciphertext
  | .encrypted ciphertext => some ciphertext
  | _ => none

namespace World

def step (env : Env) (i18n : String → Str) (w : World) : WorldLabel → Option World
  | .create i config =>
      if w.conns i = none then
        some { w with conns := Function.update w.conns i (some config.system) }
      else none
  | .conn i l =>
      match w.conns i with
      | none => none
      | some s => (s.step env l).map (fun s' =>
          { w with
            conns := Function.update w.conns i (some s')
            produced := w.produced ++ s.encrypts env l })
  | .accept j uiData =>
      if w.pairings j = none then
        some { w with pairings := Function.update w.pairings j (some { uiData := uiData }) }
      else none
  | .pairing j answer =>
      match w.pairings j with
      | none => none
      | some p => (pairingStep env i18n p answer).map (fun (pc, effects) =>
          { w with
            pairings := Function.update w.pairings j (some { p with pc := pc })
            produced := w.produced ++ effects.filterMap PairingEffect.ciphertext? })
  | .beacon encKey seed packet =>
      (sendToTarget env encKey seed packet).map (fun made =>
        { w with produced := w.produced ++ made })

end World

/-! ## The network -/

/-- A ciphertext under the key of an allowed device that stands in the packet is one of the
given ones. -/
def Replayed (env : Env) (produced : List Ciphertext) (c : Conn) (p : Packet) : Prop :=
  ∀ resp, PacketUnlockResponse.fromJson env.json p.data = some resp →
    ∀ device ∈ c.allowedDevices,
      env.crypt.Encrypts device.encryptionKey (fromHexString resp.encData) →
      ∃ m ∈ produced, m.key = device.encryptionKey ∧ m.cipher = fromHexString resp.encData

/-- The network sends any bytes, and of the ciphertexts under the keys of the devices only
those that the PC has produced. -/
def KnowsNoKey (env : Env) (w : World) : WorldLabel → Prop
  | .conn i (.flow _ (.packet p)) =>
      ∀ s, w.conns i = some s → Replayed env w.produced s.conn p
  | _ => True

section

variable {env : Env} {i18n : String → Str} {w w' : World}

theorem Replayed.mono {produced made : List Ciphertext} {c c' : Conn} {p : Packet}
    (h : Replayed env produced c p) (hc : c.SameConfig c') :
    Replayed env (produced ++ made) c' p := by
  intro resp hresp device hdev henc
  rw [hc.allowedDevices] at hdev
  obtain ⟨m, hm, hkey, hcipher⟩ := h resp hresp device hdev henc
  exact ⟨m, List.mem_append_left _ hm, hkey, hcipher⟩

/-! ## What the PC encrypts -/

/-- The ciphertext is a result of `EncryptAESPacket`, and its plaintext is no response. -/
def Unresponsive (env : Env) (m : Ciphertext) : Prop :=
  (∃ seed, (env.crypt.encryptAESPacket seed m.plain m.key).result = .ok ∧
    (env.crypt.encryptAESPacket seed m.plain m.key).data = m.cipher) ∧
  PacketUnlockResponseData.fromJson env.json m.plain = none

theorem unresponsive_of_encrypted {seed : Nat} {plain key : Str} {m : Ciphertext}
    (hm : m ∈ env.encrypted seed plain key)
    (hplain : PacketUnlockResponseData.fromJson env.json plain = none) : Unresponsive env m := by
  obtain ⟨-, heq, hok, hdata⟩ := Env.mem_encrypted hm
  exact ⟨⟨seed, hok, hdata⟩, heq ▸ hplain⟩

/-- The requests of every connection, for every user, program and token. -/
theorem System.unresponsive_encrypts (hjson : env.json.RoundTrips) {s : System} {l : Label}
    {m : Ciphertext} (hm : m ∈ s.encrypts env l) : Unresponsive env m := by
  have hdata : ∀ (device : PairedDevice) (seed : Nat),
      m ∈ (match env.json.dump s.conn.requestData.toJson with
        | none => []
        | some encDataStr => env.encrypted seed encDataStr device.encryptionKey) →
      Unresponsive env m := by
    intro device seed hmem
    split at hmem
    · cases hmem
    · next encDataStr hdump =>
        exact unresponsive_of_encrypted hmem (PacketUnlockRequestData.not_response hjson _ hdump)
  unfold System.encrypts at hm
  split at hm
  · next t seed result =>
      split at hm
      · next device hf => exact hdata device seed hm
      · next device hf => exact hdata device seed hm
      · cases hm
  · cases hm

/-- The answers of every pairing. -/
theorem unresponsive_pairing (hjson : env.json.RoundTrips) {p : Pairing} {answer : PairingAnswer}
    {pc : PairingPc} {effects : List PairingEffect} {m : Ciphertext}
    (h : pairingStep env i18n p answer = some (pc, effects))
    (hm : m ∈ effects.filterMap PairingEffect.ciphertext?) : Unresponsive env m := by
  obtain ⟨e, he, hem⟩ := List.mem_filterMap.mp hm
  have hmem : .encrypted m ∈ effects := by
    cases e with
    | encrypted ciphertext => cases hem; exact he
    | _ => cases hem
  obtain ⟨respPacket, data, seed, hdump, hmade⟩ := pairingStep_encrypted h hmem
  exact unresponsive_of_encrypted hmade (PacketPairResponse.not_response hjson _ hdump)

theorem unresponsive_beacon (hjson : env.json.RoundTrips) {encKey : Str} {seed : Nat}
    {packet : PacketUDPPairBeacon} {made : List Ciphertext} {m : Ciphertext}
    (h : sendToTarget env encKey seed packet = some made) (hm : m ∈ made) : Unresponsive env m := by
  obtain ⟨plain, hdump, rfl⟩ := Option.map_eq_some_iff.mp h
  exact unresponsive_of_encrypted hm (PacketUDPPairBeacon.not_response hjson _ hdump)

/-! ## What the connections receive -/

/-- The packet that a thread is working on. -/
def Flow.packet? : Flow → Option Packet
  | .lookup p | .respond p _ => some p
  | .accept r | .acceptDevice r | .acceptData r | .acceptState r => some r.packet
  | _ => none

theorem packet_handleUnverifiedError (st : UnlockState) (b : Bool) :
    (handleUnverifiedError st b).packet? = none := by
  cases b <;> rfl

theorem packet_onResponseReceived {c : Conn} {b : Bool} {p q : Packet} {d : PairedDevice} {now : Int}
    (h : (onResponseReceived env c b p d now).packet? = some q) : q = p := by
  rcases onResponseReceived_cases env c b p d now with ⟨st, -, -, he⟩ | ⟨st, -, -, he⟩ | ⟨r, he⟩
  · rw [he, packet_handleUnverifiedError] at h; cases h
  · rw [he] at h; cases h
  · rw [he] at h
    cases h
    exact (responseFor_of_accept he).1

/-- A thread works on packets that it received. -/
theorem FlowMove.packet_next {b : Bool} {t : StreamId} {c c' : Conn} {f n : Flow} {i : Input}
    {evs : List Event} {p : Packet} (h : FlowMove env b t c f i c' (some n) evs)
    (hn : n.packet? = some p) : f.packet? = some p ∨ i = .packet p := by
  cases h with
  | readPacket q hq => cases hn; exact Or.inr rfl
  | lookup q hm =>
      left
      rcases onPacketReceived_cases (c.info t) q with he | he | ⟨he, -, -⟩
      · rw [he] at hn; cases hn
      · rw [he] at hn; cases hn
      · rw [he] at hn; exact hn
  | respond q d now => left; rw [packet_onResponseReceived hn]; rfl
  | findNone id hm hnone => rw [packet_handleUnverifiedError] at hn; cases hn
  | answerError d seed r e => rw [packet_handleUnverifiedError] at hn; cases hn
  | acceptLock r hm hu => exact Or.inl hn
  | acceptDevice r => exact Or.inl hn
  | acceptData r => exact Or.inl hn
  | _ => cases hn

/-- An accepted response came in the packet that the thread was working on. -/
theorem FlowMove.packet_accepted {b : Bool} {t u : StreamId} {c c' : Conn} {f : Flow}
    {n : Option Flow} {i : Input} {evs : List Event} {r : Response}
    (h : FlowMove env b t c f i c' n evs) (hr : .accepted u r ∈ evs) :
    f.packet? = some r.packet := by
  cases h with
  | acceptState r' =>
      cases List.mem_singleton.mp hr
      rfl
  | requestSent d seed q hq => cases List.mem_singleton.mp hr
  | answerSent d seed q hq => cases List.mem_singleton.mp hr
  | readPacket p hp => cases List.mem_singleton.mp hr
  | _ => cases hr

/-- What a connection works on and has accepted is replayed. -/
structure ConnReplayed (env : Env) (produced : List Ciphertext) (s : System) : Prop where
  inv : Inv env s
  flows : ∀ t f p, s.flows t = some f → f.packet? = some p → Replayed env produced s.conn p
  accepted : ∀ t r, .accepted t r ∈ s.log → Replayed env produced s.conn r.packet

theorem ConnReplayed.create (produced : List Ciphertext) (config : ConnConfig) :
    ConnReplayed env produced config.system := by
  refine ⟨inv_initial config.initial, ?_, ?_⟩
  · intro t f p hf
    cases config <;> cases hf
  · intro t r hr
    cases config <;> cases hr

theorem ConnReplayed.mono {produced : List Ciphertext} {s : System}
    (h : ConnReplayed env produced s) (made : List Ciphertext) :
    ConnReplayed env (produced ++ made) s :=
  ⟨h.inv, fun t f p hf hp => (h.flows t f p hf hp).mono ⟨rfl, rfl, rfl, rfl⟩,
    fun t r hr => (h.accepted t r hr).mono ⟨rfl, rfl, rfl, rfl⟩⟩

theorem ConnReplayed.step {produced : List Ciphertext} {s s' : System} {l : Label}
    (h : ConnReplayed env produced s) (hs : s.step env l = some s')
    (hl : ∀ t p, l = .flow t (.packet p) → Replayed env produced s.conn p)
    (made : List Ciphertext) : ConnReplayed env (produced ++ made) s' := by
  have hc := (step_config hs).2
  have hinv := inv_step h.inv hs
  cases System.step_move hs with
  | spawn t hf hmode =>
      refine ⟨hinv, ?_, fun u r hr => (h.accepted u r hr).mono hc⟩
      intro u f p hf hp
      rcases update_eq_some hf with ⟨rfl, he⟩ | ⟨-, hold⟩
      · cases he; cases hp
      · exact (h.flows u f p hold hp).mono hc
  | flow t i f c n evs hf hmove =>
      refine ⟨hinv, ?_, ?_⟩
      · intro u g p hg hp
        rcases update_eq_some hg with ⟨rfl, rfl⟩ | ⟨-, hold⟩
        · rcases hmove.packet_next hp with hold | rfl
          · exact (h.flows u f p hf hold).mono hc
          · exact (hl u p rfl).mono hc
        · exact (h.flows u g p hold hp).mono hc
      -- an acceptance of this step is that of the packet the thread was working on
      · intro u r hr
        rcases List.mem_append.mp hr with hr | hr
        · exact (h.accepted u r hr).mono hc
        · exact (h.flows t f r.packet hf (hmove.packet_accepted hr)).mono hc
  | _ => exact ⟨hinv, fun t f p hf hp => (h.flows t f p hf hp).mono hc,
      fun t r hr => (h.accepted t r hr).mono hc⟩

/-- A connection with only replayed packets does not succeed: the accepted plaintext would be
one that the PC encrypted itself. -/
theorem ConnReplayed.not_success (hcrypt : env.crypt.Authenticated) {produced : List Ciphertext}
    {s : System} (h : ConnReplayed env produced s)
    (hmade : ∀ m ∈ produced, Unresponsive env m) : s.conn.unlockState ≠ .success := by
  intro hs
  obtain ⟨hmem, t, q, r, pre, mid, post, hlog, -, hresp, hdev, -⟩ := h.inv.success hs
  have hacc : Event.accepted t r ∈ s.log := by rw [hlog]; simp
  obtain ⟨resp, hparse, -, hok, hpayload⟩ := hresp.decrypted
  -- what was accepted is a ciphertext under the device's key, so it was replayed
  have henc := hcrypt.opens _ _ _ hok
  rw [hdev] at henc hok hpayload
  obtain ⟨m, hm, hkey, hcipher⟩ := h.accepted t r hacc resp hparse _ hmem henc
  obtain ⟨⟨seed, hmok, hmdata⟩, hnone⟩ := hmade m hm
  rw [← hkey, ← hcipher, ← hmdata] at hok hpayload
  have hplain := hcrypt.plain _ _ _ _ hmok hok
  -- the payload is the plaintext of one of the PC's own messages
  have hsame : r.payload = m.plain := hpayload.symm.trans hplain
  have hparsed := hresp.parsed
  rw [hsame, hnone] at hparsed
  cases hparsed

/-! ## Every run -/

structure WorldInv (env : Env) (w : World) : Prop where
  produced : ∀ m ∈ w.produced, Unresponsive env m
  conns : ∀ i s, w.conns i = some s → ConnReplayed env w.produced s

theorem WorldInv.of_made (h : WorldInv env w) {made : List Ciphertext}
    (hmade : ∀ m ∈ made, Unresponsive env m) : ∀ m ∈ w.produced ++ made, Unresponsive env m := by
  intro m hm
  rcases List.mem_append.mp hm with hm | hm
  · exact h.produced m hm
  · exact hmade m hm

theorem WorldInv.step (hjson : env.json.RoundTrips) {l : WorldLabel} (h : WorldInv env w)
    (hl : KnowsNoKey env w l) (hs : w.step env i18n l = some w') : WorldInv env w' := by
  cases l with
  | create i config =>
      simp only [World.step] at hs
      split at hs
      · cases hs
        refine ⟨h.produced, ?_⟩
        intro j s hj
        rcases update_eq_some hj with ⟨rfl, he⟩ | ⟨-, hold⟩
        · cases he; exact .create _ config
        · exact h.conns j s hold
      · cases hs
  | conn i l =>
      simp only [World.step] at hs
      split at hs
      · cases hs
      · next s hi =>
          obtain ⟨s', hstep, rfl⟩ := Option.map_eq_some_iff.mp hs
          refine ⟨h.of_made (fun m hm => s.unresponsive_encrypts hjson hm), ?_⟩
          intro j x hj
          rcases update_eq_some hj with ⟨rfl, he⟩ | ⟨-, hold⟩
          · cases he
            refine (h.conns j s hi).step hstep ?_ _
            rintro t p rfl
            exact hl s hi
          · exact (h.conns j x hold).mono _
  | accept j uiData =>
      simp only [World.step] at hs
      split at hs
      · cases hs; exact ⟨h.produced, h.conns⟩
      · cases hs
  | pairing j answer =>
      simp only [World.step] at hs
      split at hs
      · cases hs
      · next p hp =>
          obtain ⟨⟨pc, effects⟩, hstep, rfl⟩ := Option.map_eq_some_iff.mp hs
          exact ⟨h.of_made (fun m hm => unresponsive_pairing hjson hstep hm),
            fun i s hi => (h.conns i s hi).mono _⟩
  | beacon encKey seed packet =>
      obtain ⟨made, hmade, rfl⟩ := Option.map_eq_some_iff.mp hs
      exact ⟨h.of_made (fun m hm => unresponsive_beacon hjson hmade hm),
        fun i s hi => (h.conns i s hi).mono _⟩

/-- **No reflection.** In every run of the PC's connections and pairings before a network that
knows no device key, no plaintext that the PC encrypted is response data, and no connection
succeeds. -/
theorem no_reflection (hjson : env.json.RoundTrips) (hcrypt : env.crypt.Authenticated)
    {ls : List WorldLabel} (hrun : exec (World.step env i18n) {} ls = some w)
    (hnet : Along (World.step env i18n) (KnowsNoKey env) {} ls) :
    (∀ m ∈ w.produced, PacketUnlockResponseData.fromJson env.json m.plain = none) ∧
    ∀ i s, w.conns i = some s → s.conn.unlockState ≠ .success := by
  have hstart : WorldInv env {} := by
    refine ⟨?_, ?_⟩
    · intro m hm; cases hm
    · intro i s hi; cases hi
  have hend : WorldInv env w :=
    exec_inv_along (fun a l b ha hl hab => ha.step hjson hl hab) hstart hnet hrun
  refine ⟨fun m hm => (hend.produced m hm).2, ?_⟩
  intro i s hi
  exact (hend.conns i s hi).not_success hcrypt hend.produced

end

namespace Sample

/-- The request, sent back as a response. -/
def reflectedText : Str := str "\x7b\"encData\":\"" ++ requestHex ++ str "\",\"error\":\"\"\x7d"

def reflectingEnv : Env :=
  { env with
    json :=
      { json with
        parse := fun s =>
          if s = reflectedText then some (.obj [("encData", .str requestHex), ("error", .str [])])
          else json.parse s } }

/-- A client sends its request and gets it back. -/
def reflects : List WorldLabel :=
  .create 0 (.client token (str "u") (str "p") device false) ::
    ([.spawn 0, .flow 0 .tau, .flow 0 .tau, .flow 0 (.write 0 .none), .flow 0 .tau,
      .flow 0 (.packet ⟨.none, PACKET_ID_UNLOCK_RESPONSE, reflectedText⟩), .flow 0 .tau,
      .flow 0 (.clock 0), .flow 0 .tau] : List Label).map (.conn 0)

theorem reflecting_roundTrips : reflectingEnv.json.RoundTrips := by
  intro j s hs
  have hdump : json.dump j = some s := hs
  simp only [json] at hdump
  split at hdump
  · split at hdump
    · next hc =>
        obtain ⟨rfl, rfl, rfl⟩ := hc
        cases hdump
        have h₁ : ¬ requestPlain = reflectedText := by decide +kernel
        have h₂ : ¬ requestPlain = responseText := by decide +kernel
        have h₃ : ¬ requestPlain = responsePlain := by decide +kernel
        have h₄ : ¬ requestPlain = cancelText := by decide +kernel
        simp only [reflectingEnv, json, h₁, h₂, h₃, h₄, if_false, if_true]
        rfl
    · cases hdump
  · split at hdump
    · next hc =>
        obtain ⟨rfl, rfl, rfl⟩ := hc
        cases hdump
        have h₁ : ¬ requestText = reflectedText := by decide +kernel
        have h₂ : ¬ requestText = responseText := by decide +kernel
        have h₃ : ¬ requestText = responsePlain := by decide +kernel
        have h₄ : ¬ requestText = cancelText := by decide +kernel
        have h₅ : ¬ requestText = requestPlain := by decide +kernel
        simp only [reflectingEnv, json, h₁, h₂, h₃, h₄, h₅, if_false, if_true]
        rfl
    · cases hdump
  · cases hdump

theorem crypt_authenticated : reflectingEnv.crypt.Authenticated := by
  refine ⟨?_, ?_⟩
  · intro now data key hok
    have hprefix : (key ++ [0]) <+: data := by
      by_contra hnot
      simp [reflectingEnv, env, crypt, hnot] at hok
    obtain ⟨plain, rfl⟩ := hprefix
    exact ⟨0, plain, rfl, by simp [reflectingEnv, env, crypt]⟩
  · intro now seed plain key _ _
    simp [reflectingEnv, env, crypt]

/-- A test for `KnowsNoKey`. -/
def isReplay (w : World) : WorldLabel → Bool
  | .conn i (.flow _ (.packet p)) =>
      match w.conns i, PacketUnlockResponse.fromJson reflectingEnv.json p.data with
      | some s, some resp => s.conn.allowedDevices.all (fun device =>
          w.produced.any (fun m => m.key = device.encryptionKey &&
            m.cipher = fromHexString resp.encData))
      | _, _ => true
  | _ => true

theorem knowsNoKey_of_test (w : World) (l : WorldLabel) (h : isReplay w l = true) :
    KnowsNoKey reflectingEnv w l := by
  cases l with
  | conn i l =>
      cases l with
      | flow t input =>
          cases input with
          | packet p =>
              intro s hs resp hresp device hdev _
              simp only [isReplay, hs, hresp, List.all_eq_true, List.any_eq_true] at h
              obtain ⟨m, hm, heq⟩ := h device hdev
              exact ⟨m, hm, by simpa using heq⟩
          | _ => exact trivial
      | _ => exact trivial
  | _ => exact trivial

end Sample

/-- The replayed request is opened and turned down. -/
theorem no_reflection_sample : ∃ w s,
    exec (World.step Sample.reflectingEnv str) {} Sample.reflects = some w ∧
    w.conns 0 = some s ∧ s.conn.unlockState = .dataError ∧ w.produced.length = 1 ∧
    s.conn.unlockState ≠ .success := by
  have hrun : (exec (World.step Sample.reflectingEnv str) {} Sample.reflects).map
      (fun w => ((w.conns 0).map (·.conn.unlockState), w.produced.length)) =
      some (some .dataError, 1) := by decide +kernel
  obtain ⟨w, hw, hval⟩ := Option.map_eq_some_iff.mp hrun
  obtain ⟨hconn, hlen⟩ := Prod.mk.inj hval
  obtain ⟨s, hs, hstate⟩ := Option.map_eq_some_iff.mp hconn
  have hnet : Along (World.step Sample.reflectingEnv str) (KnowsNoKey Sample.reflectingEnv) {}
      Sample.reflects := along_of_check Sample.knowsNoKey_of_test (by decide +kernel)
  exact ⟨w, s, hw, hs, hstate, hlen,
    (no_reflection Sample.reflecting_roundTrips Sample.crypt_authenticated hw hnet).2 0 s hs⟩

end PcbuDesktop
