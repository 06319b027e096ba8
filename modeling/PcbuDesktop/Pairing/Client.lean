import PcbuDesktop.Lib.Runs
import PcbuDesktop.Pairing.PairingServer
import PcbuDesktop.Storage.Updates
import PcbuDesktop.Unlock.Authenticity

set_option autoImplicit false

/-! # A client and the store

`HandleClient` changes the store by its call of `AddDevice`, which returns nothing. A
`PairingClient` is a call of `HandleClient` together with the store and with all that the call
did.
-/

namespace PcbuDesktop

open Runs

structure PairingClient where
  pairing : Pairing
  store : Store
  effects : List PairingEffect := []

/-- An answer to `HandleClient`; where it is the one to `AddDevice`, also what the file system
answers there. -/
structure PairingClientLabel where
  answer : PairingAnswer
  isRead : Bool := true
  io : SaveIO := {}

/-- What a call does to the store. An exception that leaves `AddDevice` before the save is for the
store a save that does not begin. -/
def storeEffect (lib : JsonLib) (l : PairingClientLabel) (s : Store) : PairingEffect → Store
  | .addDevice device => addDevice lib l.isRead l.io device s
  | _ => s

def pairingClientStep (env : Env) (i18n : String → Str) (c : PairingClient)
    (l : PairingClientLabel) : Option PairingClient :=
  match pairingStep env i18n c.pairing l.answer with
  | none => none
  | some (pc, effects) =>
      some { pairing := { c.pairing with pc := pc }
             store := effects.foldl (storeEffect env.json l) c.store
             effects := c.effects ++ effects }

/-- A new client of a server with this `m_UIData`. -/
def PairingClient.start (uiData : PairingUIData) (s : Store) : PairingClient :=
  ⟨{ uiData := uiData }, s, []⟩

section

variable {env : Env} {i18n : String → Str} {uiData : PairingUIData} {s₀ : Store}
  {c c' : PairingClient} {l : PairingClientLabel}

theorem pairingClientStep_cases (h : pairingClientStep env i18n c l = some c') :
    ∃ pc effects, PairingStep env i18n c.pairing.uiData c.pairing.pc l.answer pc effects ∧
      c' = ⟨{ c.pairing with pc := pc }, effects.foldl (storeEffect env.json l) c.store,
        c.effects ++ effects⟩ := by
  unfold pairingClientStep at h
  split at h
  · cases h
  · next pc effects hstep =>
      cases h
      exact ⟨pc, effects, pairingStep_cases hstep, rfl⟩

/-- Effects without a call of `AddDevice` leave the store alone. -/
theorem foldl_storeEffect {lib : JsonLib} {effects : List PairingEffect}
    (h : ∀ device, .addDevice device ∉ effects) (s : Store) :
    effects.foldl (storeEffect lib l) s = s := by
  induction effects with
  | nil => rfl
  | cons effect effects ih =>
      have hrest := ih (fun device hmem => h device (List.mem_cons_of_mem _ hmem))
      cases effect with
      | addDevice device => exact absurd List.mem_cons_self (h device)
      | _ => exact hrest

/-! ## What the effects are -/

/-- An effect that is neither a call of `AddDevice` nor one of `ReportSuccess`. -/
def PairingEffect.Harmless : PairingEffect → Prop
  | .addDevice _ => False
  | .reportSuccess => False
  | _ => True

theorem harmless_readFailed {isCloud : Bool} {packetRes : CryptPacket} {effect : PairingEffect}
    (h : effect ∈ readFailed i18n isCloud packetRes) : effect.Harmless := by
  have hreport : ∃ message, effect = .reportError message := by
    unfold readFailed at h
    split_ifs at h <;> first | exact ⟨_, List.mem_singleton.mp h⟩ | cases h
  obtain ⟨message, rfl⟩ := hreport
  exact trivial

theorem harmless_writeEncryptedPacket {seed : Nat} {result : PacketError} {data : Str}
    {effect : PairingEffect} (h : effect ∈ (writeEncryptedPacket env uiData seed result data).2) :
    effect.Harmless := by
  obtain ⟨m, -, rfl⟩ := List.mem_map.mp h
  exact trivial

theorem harmless_reportError {message : Str} {effect : PairingEffect}
    (h : effect ∈ [PairingEffect.reportError message]) : effect.Harmless := by
  rw [List.mem_singleton.mp h]
  exact trivial

/-- Only the answer to `AddDevice` brings a call that is not harmless. -/
theorem PairingStep.harmless {pc pc' : PairingPc} {answer : PairingAnswer}
    {effects : List PairingEffect} (h : PairingStep env i18n uiData pc answer pc' effects)
    (hpc : ∀ device, pc ≠ .store device) : ∀ effect ∈ effects, effect.Harmless := by
  cases h with
  | unread hdata => exact fun _ => harmless_readFailed
  | refused hdata hbuild => exact fun _ h => by cases h
  | built hdata hbuild => exact fun _ h => by cases h
  | unprinted hdump => exact fun _ h => by cases h
  | responded hdump hwritten => exact fun _ => harmless_writeEncryptedPacket
  | unwritten hdump hwritten =>
      intro effect h
      rcases List.mem_append.mp h with h | h
      · exact harmless_writeEncryptedPacket h
      · exact harmless_reportError h
  | escaped hdump => exact fun _ h => by cases h
  | rejected hdump =>
      intro effect h
      rcases List.mem_append.mp h with h | h
      · exact harmless_writeEncryptedPacket h
      · split at h
        · cases h
        · exact harmless_reportError h
  | @stored device => exact absurd rfl (hpc device)
  | @threw device message => exact absurd rfl (hpc device)

/-! ## Before the device is stored -/

/-- The device that `HandleClient` has built and not yet stored. -/
def PairingPc.pending : PairingPc → Option PairedDevice
  | .respond device _ => some device
  | .store device => some device
  | _ => none

theorem buildPairResponse_sshServers {input : PairingInput} {data : Bytes} {device : PairedDevice}
    {respPacket : PacketPairResponse}
    (h : buildPairResponse env i18n uiData input data = .ok (device, respPacket)) :
    device.sshServers = [] := by
  unfold buildPairResponse at h
  split at h
  · cases h
  · split at h
    · cases h
    · dsimp only at h
      split at h
      · cases h
      · cases h
        rfl

/-- Until `AddDevice` is called the store is as it was and no success is reported. The device has
no servers. -/
structure PairingClient.Inv (uiData : PairingUIData) (s₀ : Store) (c : PairingClient) : Prop where
  uiData : c.pairing.uiData = uiData
  servers : ∀ device, c.pairing.pc.pending = some device → device.sshServers = []
  store : c.pairing.pc = .read ∨ c.pairing.pc.pending.isSome = true →
    c.store = s₀ ∧ ∀ effect ∈ c.effects, effect.Harmless

theorem PairingClient.inv_start : (PairingClient.start uiData s₀).Inv uiData s₀ where
  uiData := rfl
  servers := fun _ h => by cases h
  store := fun _ => ⟨rfl, fun _ h => by cases h⟩

/-- A step that only has harmless effects leaves store and reports as they were. -/
theorem harmless_step {effects : List PairingEffect} (hc : ∀ effect ∈ c.effects, effect.Harmless)
    (h : ∀ effect ∈ effects, effect.Harmless) :
    effects.foldl (storeEffect env.json l) c.store = c.store ∧
      ∀ effect ∈ c.effects ++ effects, effect.Harmless := by
  constructor
  · exact foldl_storeEffect (fun device hmem => h _ hmem) c.store
  · intro effect hmem
    rcases List.mem_append.mp hmem with hmem | hmem
    · exact hc effect hmem
    · exact h effect hmem

theorem PairingClient.Inv.step (hc : c.Inv uiData s₀)
    (h : pairingClientStep env i18n c l = some c') : c'.Inv uiData s₀ := by
  obtain ⟨pc, effects, hstep, rfl⟩ := pairingClientStep_cases h
  have hkeep : (∀ device, c.pairing.pc ≠ .store device) →
      c.pairing.pc = .read ∨ c.pairing.pc.pending.isSome = true →
      effects.foldl (storeEffect env.json l) c.store = s₀ ∧
        ∀ effect ∈ c.effects ++ effects, effect.Harmless := by
    intro hpc hbefore
    obtain ⟨hstore, heffects⟩ := hc.store hbefore
    rw [← hstore]
    exact harmless_step heffects (hstep.harmless hpc)
  obtain ⟨huiData, hservers, -⟩ := hc
  obtain ⟨answer, isRead, io⟩ := l
  generalize c.pairing.pc = pc₀ at hstep hkeep hservers
  refine ⟨huiData, ?_, ?_⟩
  · intro device hpending
    cases hstep with
    | built hdata hbuild =>
        cases hpending
        exact buildPairResponse_sshServers hbuild
    | responded hdump hwritten =>
        cases hpending
        exact hservers _ rfl
    | _ => cases hpending
  · intro hbefore
    cases hstep with
    | built hdata hbuild => exact hkeep (fun _ h => by cases h) (Or.inl rfl)
    | responded hdump hwritten => exact hkeep (fun _ h => by cases h) (Or.inr rfl)
    | _ => simp [PairingPc.pending] at hbefore

/-- **A reported success.** It comes with the last answer, and the store is then what one call of
`AddDevice` made of it. -/
theorem pairingClient_success {ls : List PairingClientLabel} {w : PairingClient}
    (h : exec (pairingClientStep env i18n) (PairingClient.start uiData s₀) ls = some w)
    (hreport : .reportSuccess ∈ w.effects) :
    ∃ device isRead io, ls.getLast? = some ⟨.stored none, isRead, io⟩ ∧ device.sshServers = [] ∧
      (∀ d, .addDevice d ∈ w.effects ↔ d = device) ∧
      w.store = addDevice env.json isRead io device s₀ := by
  obtain ⟨ls₁, l, ls₂, m, m', rfl, hm, hstep, hrest, hnot, hyes⟩ :=
    exec_begins (P := fun c => .reportSuccess ∈ c.effects) h (by simp [PairingClient.start])
      hreport
  have hinv : m.Inv uiData s₀ :=
    exec_inv (fun _ _ _ hc hs => hc.step hs) PairingClient.inv_start hm
  obtain ⟨pc, effects, hpairing, rfl⟩ := pairingClientStep_cases hstep
  obtain ⟨answer, isRead, io⟩ := l
  have hnew : .reportSuccess ∈ effects := (List.mem_append.mp hyes).resolve_left hnot
  -- the report stands beside a call of `AddDevice`
  have hstored : ∃ device, m.pairing.pc = .store device ∧ answer = .stored none ∧ pc = .done ∧
      effects = [.addDevice device, .reportSuccess] := by
    by_cases hpc : ∃ device, m.pairing.pc = .store device
    · obtain ⟨device, hpc⟩ := hpc
      rw [hpc] at hpairing
      cases hpairing with
      | stored => exact ⟨device, hpc, rfl, rfl, rfl⟩
      | threw => simp at hnew
    · exact (hpairing.harmless (fun device hd => hpc ⟨device, hd⟩) _ hnew).elim
  obtain ⟨device, hpc, rfl, rfl, rfl⟩ := hstored
  obtain ⟨hstore, heffects⟩ := hinv.store (by simp [hpc, PairingPc.pending])
  have hlast : ls₂ = [] ∧ w = ⟨{ m.pairing with pc := .done },
      addDevice env.json isRead io device m.store,
      m.effects ++ [.addDevice device, .reportSuccess]⟩ := by
    cases ls₂ with
    | nil => exact ⟨rfl, (Option.some.inj hrest).symm⟩
    | cons k ks =>
        obtain ⟨n, hn, -⟩ := exec_cons_eq_some.mp hrest
        obtain ⟨pc, effects, hdone, -⟩ := pairingClientStep_cases hn
        cases k with
        | mk answer isRead io => cases hdone
  obtain ⟨rfl, rfl⟩ := hlast
  refine ⟨device, isRead, io, by simp, hinv.servers device (by rw [hpc]; rfl), ?_, by rw [hstore]⟩
  intro d
  constructor
  · intro hd
    rcases List.mem_append.mp hd with hd | hd
    · exact (heffects _ hd).elim
    · simpa using hd
  · rintro rfl
    exact List.mem_append_right _ List.mem_cons_self

end

/-! ## A client -/

namespace Sample

def pairingData : PairingUIData :=
  { userName := str "u", password := str "pw", encKey := str "k" }

/-- The packet of a phone with this protocol version. -/
def initJson (protoVersion : Str) : Json :=
  .obj [("cloudToken", .str []), ("deviceName", .str (str "Pixel")), ("deviceUUID", .str (str "d")),
    ("ipAddress", .str (str "10.0.0.3")), ("protoVersion", .str protoVersion),
    ("tcpPort", .int 43299), ("udpManualPort", .int 0), ("udpPort", .int 0)]

def initText (protoVersion : Str) : Str :=
  objectText [memberText "cloudToken" (quoted []), memberText "deviceName" (quoted (str "Pixel")),
    memberText "deviceUUID" (quoted (str "d")), memberText "ipAddress" (quoted (str "10.0.0.3")),
    memberText "protoVersion" (quoted protoVersion), memberText "tcpPort" (numberText 43299),
    memberText "udpManualPort" (numberText 0), memberText "udpPort" (numberText 0)]

def pairingInput (protoVersion : Str) : PairingInput :=
  { packet := ⟨.none, PACKET_ID_PAIR_INIT, str "k" ++ 0 :: initText protoVersion⟩
    passwordKey := str "K", machineID := str "m", hostName := str "pc" }

def pairedPhone : PairedDevice :=
  { id := str "mdu", deviceName := str "Pixel", userName := str "u"
    passwordEnc := toHexString (str "K" ++ 0 :: str "pw"), encryptionKey := str "k"
    ipAddress := str "10.0.0.3", tcpPort := 43299 }

/-- The phone with an SSH server, whose password is encrypted under the phone's key. -/
def sshServer : SshServer :=
  { host := str "h", user := str "r", passwordEnc := toHexString (str "K" ++ 0 :: str "s") }

def servingPhone : PairedDevice := { pairedPhone with sshServers := [sshServer] }

def pairResponse : PacketPairResponse :=
  { data := { deviceId := str "mdu", deviceName := str "pc", userName := str "u"
              passwordKey := str "K" } }

def pairResponseText (r : PacketPairResponse) : Str :=
  objectText [memberText "data" (objectText [memberText "deviceId" (quoted r.data.deviceId),
      memberText "deviceName" (quoted r.data.deviceName),
      memberText "deviceOS" (quoted r.data.deviceOS), memberText "macAddresses" (arrayText []),
      memberText "pairingMethod" (quoted r.data.pairingMethod.toText),
      memberText "passwordKey" (quoted r.data.passwordKey),
      memberText "unlockServerPort" (numberText r.data.unlockServerPort.toNat),
      memberText "userName" (quoted r.data.userName)]),
    memberText "errMsg" (quoted r.errMsg)]

/-- The answer to a phone that is refused; the texts are the keys here. -/
def mismatchResponse : PacketPairResponse := { errMsg := str "error_protocol_mismatch" }

def pairingTable : List (Json × Str) :=
  [(initJson (str "4.0"), initText (str "4.0")), (initJson (str "3.0"), initText (str "3.0")),
    (initJson (str "x"), initText (str "x")),
    (pairResponse.toJson, pairResponseText pairResponse),
    (mismatchResponse.toJson, pairResponseText mismatchResponse),
    (devicesToJson [pairedPhone], arrayText [deviceText pairedPhone]),
    (devicesToJson [servingPhone], arrayText [deviceText servingPhone])]

def pairingEnv : Env := ⟨.ofTable pairingTable, crypt⟩

theorem pairingEnv_reads : pairingEnv.json.Reads where
  roundTrips := JsonLib.ofTable_roundTrips (by decide +kernel)
  parse_nil := by decide +kernel

theorem pairingEnv_cutOff : pairingEnv.json.CutOff := by
  intro devices text n hdump hn
  exact JsonLib.ofTable_parse_take (by decide +kernel) hdump hn

/-- The phone is read, answered and stored, with this outcome of the save. -/
def pairingRun (protoVersion : Str) (io : SaveIO) : List PairingClientLabel :=
  [{ answer := .packet (pairingInput protoVersion) }, { answer := .write 0 .none [] },
    { answer := .stored none, io := io }]

end Sample

end PcbuDesktop
