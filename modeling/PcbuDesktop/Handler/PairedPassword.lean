import PcbuDesktop.Auth.PamChain
import PcbuDesktop.Crypt.Secrets
import PcbuDesktop.Pairing.Client
import PcbuDesktop.Storage.OrderedStore

set_option autoImplicit false

/-! # The password from the pairing to the unlock

A pairing encrypts the password under a key that it keeps nowhere: the device that is stored has the
cipher, the phone gets the key (`PairingServer::HandleClient`). An unlock reads the device from the store,
and the phone sends the key (`BaseUnlockConnection`, `UnlockHandler::GetResult`). Here the three models
are put together: what `GetResult` returns is the password of the pairing.
-/

namespace PcbuDesktop

open Runs KeyedList

/-! ## The cipher -/

/-- What is encrypted under a password key is decrypted with it. -/
structure CryptLib.KeepsSecrets (crypt : CryptLib) : Prop where
  round_trip : ∀ {seed : Nat} {data pwd c : Str}, crypt.encryptAES seed data pwd = some c →
    1 ≤ data.length → data.length ≤ 976 → crypt.decryptAES c pwd = some data

/-- `CryptUtils` as the library of the protocols: an encryption has its memory, its clock and its random
bytes. A call that leaves its buffers has no result. -/
def CryptLib.ofEvp (evp : Evp) (calls : Nat → EncryptCall) (decBuffer : Malloc) (sha256 : Str → Str) :
    CryptLib where
  encryptAESPacket seed data pwd :=
    (PcbuDesktop.encryptAESPacket evp (calls seed) data pwd).toOption.getD { result := .otherError }
  decryptAESPacket now data pwd :=
    (PcbuDesktop.decryptAESPacket evp decBuffer now data pwd).toOption.getD { result := .otherError }
  encryptAES seed data pwd :=
    (encryptAESText evp (calls seed).encBuffer (calls seed).iv (calls seed).salt data pwd).toOption.join
  decryptAES data pwd := (decryptAESText evp decBuffer data pwd).toOption.join
  sha256 := sha256

/-- The code's own functions keep secrets, with a cipher as OpenSSL's interface describes it and memory
for the decoder. -/
theorem CryptLib.keepsSecrets_ofEvp {evp : Evp} (hs : evp.Sized) (hi : evp.Inverts)
    (calls : Nat → EncryptCall) {decBuffer : Malloc} (hdec : decBuffer.Succeeds) (sha256 : Str → Str) :
    (CryptLib.ofEvp evp calls decBuffer sha256).KeepsSecrets where
  round_trip := by
    intro seed data pwd c hc h₁ h₂
    have henc : encryptAESText evp (calls seed).encBuffer (calls seed).iv (calls seed).salt data pwd =
        .ok (some c) := by
      have hjoin : (encryptAESText evp (calls seed).encBuffer (calls seed).iv (calls seed).salt data
        pwd).toOption.join = some c := hc
      cases hresult : encryptAESText evp (calls seed).encBuffer (calls seed).iv (calls seed).salt data
        pwd with
      | error e =>
          rw [hresult] at hjoin
          cases hjoin
      | ok text =>
          rw [hresult] at hjoin
          exact congrArg Except.ok hjoin
    show (decryptAESText evp decBuffer c pwd).toOption.join = some data
    rw [decryptAESText_of_encrypted hs hi decBuffer henc, if_pos ⟨h₁, h₂, hdec _⟩]
    rfl

/-! ## What a pairing hands out -/

/-- The device has the password under the key of the response, which names the device. -/
structure Given (env : Env) (uiData : PairingUIData) (device : PairedDevice)
    (respPacket : PacketPairResponse) : Prop where
  secret : ∃ seed, env.crypt.encryptAES seed uiData.password respPacket.data.passwordKey =
    some device.passwordEnc
  deviceId : respPacket.data.deviceId = device.id
  key : device.encryptionKey = uiData.encKey
  user : device.userName = uiData.userName

/-- The response was encrypted for the phone. -/
def Told (env : Env) (uiData : PairingUIData) (effects : List PairingEffect)
    (respPacket : PacketPairResponse) : Prop :=
  ∃ plain cipher, env.json.dump respPacket.toJson = some plain ∧
    PairingEffect.encrypted ⟨uiData.encKey, plain, cipher⟩ ∈ effects

section

variable {env : Env} {i18n : String → Str} {uiData : PairingUIData}

theorem Told.append {effects : List PairingEffect} {respPacket : PacketPairResponse}
    (h : Told env uiData effects respPacket) (more : List PairingEffect) :
    Told env uiData (effects ++ more) respPacket := by
  obtain ⟨plain, cipher, hdump, hmem⟩ := h
  exact ⟨plain, cipher, hdump, List.mem_append_left _ hmem⟩

theorem buildPairResponse_given {input : PairingInput} {data : Bytes} {device : PairedDevice}
    {respPacket : PacketPairResponse}
    (h : buildPairResponse env i18n uiData input data = .ok (device, respPacket)) :
    Given env uiData device respPacket := by
  unfold buildPairResponse at h
  split at h
  · cases h
  · split at h
    · cases h
    · dsimp only at h
      split at h
      · cases h
      · next pwEnc henc =>
          cases h
          exact ⟨⟨input.seed, henc⟩, rfl, rfl, rfl⟩

/-- What is written without an error was encrypted. -/
theorem encrypted_of_written {seed : Nat} {result : PacketError} {data : Str}
    (h : (writeEncryptedPacket env uiData seed result data).1 = true) :
    ∃ cipher, PairingEffect.encrypted ⟨uiData.encKey, data, cipher⟩ ∈
      (writeEncryptedPacket env uiData seed result data).2 := by
  unfold writeEncryptedPacket at h ⊢
  have hok := (of_decide_eq_true h).1
  unfold Env.encrypted
  dsimp only
  rw [if_pos hok]
  exact ⟨_, List.mem_singleton.mpr rfl⟩

/-- A device is only stored when its response has been encrypted for the phone. -/
structure PairingClient.Kept (env : Env) (uiData : PairingUIData) (c : PairingClient) : Prop where
  data : c.pairing.uiData = uiData
  respond : ∀ device respPacket, c.pairing.pc = .respond device respPacket →
    Given env uiData device respPacket
  store : ∀ device, c.pairing.pc = .store device →
    ∃ respPacket, Given env uiData device respPacket ∧ Told env uiData c.effects respPacket
  added : ∀ device, .addDevice device ∈ c.effects →
    ∃ respPacket, Given env uiData device respPacket ∧ Told env uiData c.effects respPacket

theorem PairingClient.Kept.step {c c' : PairingClient} {l : PairingClientLabel}
    (hc : c.Kept env uiData) (h : pairingClientStep env i18n c l = some c') : c'.Kept env uiData := by
  obtain ⟨pc, effects, hstep, rfl⟩ := pairingClientStep_cases h
  obtain ⟨huiData, hrespond, hstore, hadded⟩ := hc
  rw [huiData] at hstep
  have hold : ∀ device, .addDevice device ∈ c.effects → ∃ respPacket,
      Given env uiData device respPacket ∧ Told env uiData (c.effects ++ effects) respPacket := by
    intro device hmem
    obtain ⟨respPacket, hgiven, htold⟩ := hadded device hmem
    exact ⟨respPacket, hgiven, htold.append effects⟩
  -- without a call of `AddDevice` nothing is to be shown of the new effects
  have hharmless : (∀ device, c.pairing.pc ≠ .store device) → ∀ device,
      .addDevice device ∈ c.effects ++ effects → ∃ respPacket, Given env uiData device respPacket ∧
        Told env uiData (c.effects ++ effects) respPacket := by
    intro hpc device hmem
    rcases List.mem_append.mp hmem with hmem | hmem
    · exact hold device hmem
    · exact absurd (hstep.harmless hpc _ hmem) id
  have hstored : ∀ device, c.pairing.pc = .store device →
      (∀ d, .addDevice d ∈ effects → d = device) → ∀ d, .addDevice d ∈ c.effects ++ effects →
      ∃ respPacket, Given env uiData d respPacket ∧ Told env uiData (c.effects ++ effects) respPacket := by
    intro device hpc hone d hmem
    rcases List.mem_append.mp hmem with hmem | hmem
    · exact hold d hmem
    · obtain ⟨respPacket, hgiven, htold⟩ := hstore device hpc
      exact ⟨respPacket, hone d hmem ▸ hgiven, htold.append effects⟩
  obtain ⟨answer, isRead, io⟩ := l
  generalize c.pairing.pc = pc₀ at hstep hrespond hstore hharmless hstored
  cases hstep with
  | unread hdata => exact ⟨huiData, nofun, nofun, hharmless nofun⟩
  | refused hdata hbuild => exact ⟨huiData, nofun, nofun, hharmless nofun⟩
  | built hdata hbuild =>
      refine ⟨huiData, ?_, nofun, hharmless nofun⟩
      rintro device respPacket ⟨⟩
      exact buildPairResponse_given hbuild
  | unprinted hdump => exact ⟨huiData, nofun, nofun, hharmless nofun⟩
  | @responded device respPacket seed result what data hdump hwritten =>
      refine ⟨huiData, nofun, ?_, hharmless nofun⟩
      rintro device' ⟨⟩
      obtain ⟨cipher, hmem⟩ := encrypted_of_written hwritten
      exact ⟨respPacket, hrespond _ _ rfl, data, cipher, hdump, List.mem_append_right _ hmem⟩
  | unwritten hdump hwritten => exact ⟨huiData, nofun, nofun, hharmless nofun⟩
  | escaped hdump => exact ⟨huiData, nofun, nofun, hharmless nofun⟩
  | rejected hdump => exact ⟨huiData, nofun, nofun, hharmless nofun⟩
  | @stored device =>
      exact ⟨huiData, nofun, nofun, hstored device rfl (fun d hd => by simpa using hd)⟩
  | @threw device message =>
      exact ⟨huiData, nofun, nofun, hstored device rfl (fun d hd => by simpa using hd)⟩

theorem PairingClient.kept_start (s₀ : Store) : (PairingClient.start uiData s₀).Kept env uiData where
  data := rfl
  respond := nofun
  store := nofun
  added := fun _ h => by cases h

end

/-! ## What the store keeps -/

/-- The operation neither removes the device nor adds another one with its id. -/
def StoreOp.Spares (device : PairedDevice) : StoreOp → Prop
  | .addDevice other => other.id ≠ device.id
  | .removeDevice id => id ≠ device.id
  | .removeDevicesWithMethod method => device.pairingMethod ≠ method
  | .invalidateCache => True
  | .getDevices => True

theorem mem_mapRun {device : PairedDevice} {ops : List StoreOp} (hops : ∀ op ∈ ops, op.Spares device)
    {m : DeviceMap} (h : device ∈ m.entries) : device ∈ (mapRun ops m).entries := by
  induction ops generalizing m with
  | nil => exact h
  | cons op ops ih =>
      obtain ⟨hop, hops⟩ := List.forall_mem_cons.mp hops
      refine ih hops ?_
      cases op with
      | addDevice other => exact mem_insert.mpr (.inl ⟨h, fun heq => hop heq.symm⟩)
      | removeDevice id => exact mem_erase.mpr ⟨h, fun heq => hop heq.symm⟩
      | removeDevicesWithMethod method =>
          refine List.mem_filter.mpr ⟨h, ?_⟩
          have hne : device.pairingMethod ≠ method := hop
          simpa using hne
      | invalidateCache => exact h
      | getDevices => exact h

theorem mem_of_mem_filterDevices {deviceIds : List Str} {devices : List PairedDevice} {d : PairedDevice}
    (h : d ∈ filterDevices deviceIds devices) : d ∈ devices := by
  unfold filterDevices at h
  split at h
  · exact h
  · exact (List.mem_filter.mp h).1

/-! ## The whole way -/

/-- **The password that was paired is the one that unlocks.** Take any successful pairing, any operations
on the store after it that spare the device, and any unlock of `GetResult` with the devices of the store:
if it succeeds with this device and the phone has sent the key of its pairing response, its result has
the password that was typed in at the pairing. The store begins with what its file says, all reads and
writes of it succeed, during the pairing and after it, and its lists can be printed. -/
theorem paired_password_returns {env : Env} {i18n : String → Str} {uiData : PairingUIData}
    (hl : env.json.Reads) (hcrypt : env.crypt.KeepsSecrets)
    (hlength : 1 ≤ uiData.password.length ∧ uiData.password.length ≤ 976)
    {m : DeviceMap} {s₀ : Store} (hs₀ : Holds env.json m s₀)
    {ls : List PairingClientLabel} {w : PairingClient}
    (hpair : exec (pairingClientStep env i18n) (PairingClient.start uiData s₀) ls = some w)
    (hio : ∀ l ∈ ls, l.isRead = true ∧ l.io = {}) (hreport : .reportSuccess ∈ w.effects) :
    ∃ device respPacket, .addDevice device ∈ w.effects ∧ Told env uiData w.effects respPacket ∧
      respPacket.data.deviceId = device.id ∧
      ∀ ops : List StoreOp, (∀ op ∈ ops, op.Spares device) →
        (∀ before, before <+: .addDevice device :: ops →
          Writable env.json (mapRun before m).entries) →
        ∀ info notPairedText deviceIds result,
          GetResultRun env info notPairedText deviceIds
            (getDevicesForUser (getDevices env.json true (storeRun env.json ops w.store)).1
              info.authUser) result →
          result.state = .success → result.device.id = device.id →
          result.passwordKey = respPacket.data.passwordKey →
          result.device = device ∧ result.password = uiData.password := by
  obtain ⟨device, isRead, io, hlast, -, hadd, hstore⟩ := pairingClient_success hpair hreport
  obtain ⟨hread, hio⟩ := hio _ (List.mem_of_getLast? hlast)
  have hkept : w.Kept env uiData :=
    exec_inv (fun _ _ _ hc hstep => hc.step hstep) (PairingClient.kept_start s₀) hpair
  have hadded : .addDevice device ∈ w.effects := (hadd device).mpr rfl
  obtain ⟨respPacket, hgiven, htold⟩ := hkept.added device hadded
  refine ⟨device, respPacket, hadded, htold, hgiven.deviceId,
    fun ops hops hw info notPairedText deviceIds result hrun hs hid hkey => ?_⟩
  -- the store after the pairing and the operations
  have hholds := hs₀.storeRun hl (.addDevice device :: ops) hw
  have hsame : storeRun env.json ops w.store = storeRun env.json (.addDevice device :: ops) s₀ := by
    have hr : isRead = true := hread
    have hi : io = {} := hio
    rw [hstore, hr, hi]
    rfl
  rw [hsame, hholds.getDevices_fst] at hrun
  -- the unlock
  obtain ⟨sys, hby⟩ := hrun.unlockedBy hs
  have huser := mem_of_mem_filterDevices hby.paired
  have hmem : result.device ∈ (mapRun (.addDevice device :: ops) m).entries :=
    (List.mem_filter.mp huser).1
  have hdevice : device ∈ (mapRun (.addDevice device :: ops) m).entries :=
    mem_mapRun hops (mem_insert.mpr (.inr rfl))
  have heq : result.device = device :=
    List.inj_on_of_nodup_map (mapRun (.addDevice device :: ops) m).unique hmem hdevice hid
  obtain ⟨seed, henc⟩ := hgiven.secret
  have hdec := hby.authenticated.2.1
  rw [heq, hkey, hcrypt.round_trip henc hlength.1 hlength.2] at hdec
  exact ⟨heq, (Option.some.inj hdec).symm⟩

namespace Sample

/-- The request for `pairedPhone`, and the answer with the key of its pairing. -/
def pairedRequestText : Str :=
  str "\x7b\"deviceId\":\"mdu\",\"encData\":\"" ++ requestHex ++ str "\",\"protoVersion\":\"3.0.0\"\x7d"

def pairedResponsePlain : Str := str "\x7b\"passwordKey\":\"K\",\"unlockToken\":\"T\"\x7d"
def pairedResponseHex : Str := toHexString (str "k" ++ 0 :: pairedResponsePlain)
def pairedResponseText : Str :=
  str "\x7b\"encData\":\"" ++ pairedResponseHex ++ str "\",\"error\":\"\"\x7d"

def journeyTable : List (Json × Str) :=
  pairingTable ++
    [(devicesToJson [], arrayText []),
      (PacketUnlockRequestData.toJson ⟨str "u", str "p", str "T"⟩, requestPlain),
      (PacketUnlockRequest.toJson ⟨unlockProtocolVersion, str "mdu", requestHex⟩, pairedRequestText),
      (.obj [("passwordKey", .str (str "K")), ("unlockToken", .str (str "T"))], pairedResponsePlain),
      (.obj [("encData", .str pairedResponseHex), ("error", .str [])], pairedResponseText)]

def journeyEnv : Env := ⟨.ofTable journeyTable, crypt⟩

/-- `unlocks`, with this answer. -/
def pairedUnlocks : List UnlockingLabel :=
  (requests ++
      thread [.packet ⟨.none, PACKET_ID_UNLOCK_RESPONSE, pairedResponseText⟩, .tau, .clock 0, .tau, .tau,
        .tau, .tau, .tau] ++
      polls ++ returns).map (.serve 0) ++ [UnlockingLabel.returns 0] ++
    List.replicate 6 (UnlockingLabel.worker 0) ++ [UnlockingLabel.main, .main]

theorem journeyEnv_reads : journeyEnv.json.Reads where
  roundTrips := JsonLib.ofTable_roundTrips (by decide +kernel)
  parse_nil := by decide +kernel

theorem crypt_keepsSecrets : crypt.KeepsSecrets where
  round_trip := by
    intro seed data pwd c hc h₁ h₂
    obtain rfl : toHexString (pwd ++ 0 :: data) = c := Option.some.inj hc
    have happ : pwd ++ 0 :: data = (pwd ++ [0]) ++ data := by simp
    have hpre : (pwd ++ [0]).isPrefixOf (pwd ++ 0 :: data) = true := by
      rw [List.isPrefixOf_iff_prefix, happ]
      exact List.prefix_append _ _
    show (if (pwd ++ [0]).isPrefixOf (fromHexString (toHexString (pwd ++ 0 :: data))) = true then _
      else none) = some data
    rw [fromHexString_toHexString, if_pos hpre, happ]
    have hlen : (pwd ++ [0]).length = pwd.length + 1 := by simp
    rw [← hlen, List.drop_left]

/-- What the pairing of `pairedPhone` leaves behind. -/
def pairedEffects : List PairingEffect :=
  [.encrypted ⟨str "k", pairResponseText pairResponse, str "k" ++ 0 :: pairResponseText pairResponse⟩,
    .addDevice pairedPhone, .reportSuccess]

theorem pairedEffects_told {respPacket : PacketPairResponse}
    (h : Told journeyEnv pairingData pairedEffects respPacket) :
    respPacket.data.passwordKey = str "K" := by
  obtain ⟨plain, cipher, hdump, hmem⟩ := h
  obtain rfl : plain = pairResponseText pairResponse := by
    have hcipher : (⟨pairingData.encKey, plain, cipher⟩ : Ciphertext) =
        ⟨str "k", pairResponseText pairResponse, str "k" ++ 0 :: pairResponseText pairResponse⟩ := by
      simpa [pairedEffects] using hmem
    exact congrArg Ciphertext.plain hcipher
  -- the text is read as one packet only
  have hparse := journeyEnv_reads.roundTrips _ _ hdump
  have hprinted : journeyEnv.json.parse (pairResponseText pairResponse) = some pairResponse.toJson :=
    journeyEnv_reads.roundTrips _ _ (by decide +kernel)
  have hjson : respPacket.toJson = pairResponse.toJson := Option.some.inj (hparse.symm.trans hprinted)
  have hkey := congrArg (fun j => (j.member "data").bind (Json.stringMember "passwordKey")) hjson
  exact Option.some.inj hkey

end Sample

theorem paired_password_returns_sample : ∃ w result,
    exec (pairingClientStep Sample.journeyEnv (fun _ => []))
      (PairingClient.start Sample.pairingData {}) (Sample.pairingRun (str "4.0") {}) = some w ∧
    GetResultRun Sample.journeyEnv Sample.unlockInfo id []
      (getDevicesForUser (getDevices Sample.journeyEnv.json true w.store).1 (str "u")) result ∧
    result.state = .success ∧ result.device = Sample.pairedPhone ∧ result.password = str "pw" := by
  have hfound : Holds Sample.journeyEnv.json .empty {} := ⟨by decide +kernel, .inl rfl⟩
  obtain ⟨w, hpair, heffects, hdevices⟩ : ∃ w, exec (pairingClientStep Sample.journeyEnv (fun _ => []))
      (PairingClient.start Sample.pairingData {}) (Sample.pairingRun (str "4.0") {}) = some w ∧
      w.effects = Sample.pairedEffects ∧
      (getDevices Sample.journeyEnv.json true w.store).1 = [Sample.pairedPhone] :=
    exec_of_test (by decide +kernel)
  obtain ⟨s, hunlock, hmain⟩ : ∃ s,
      exec (Unlocking.step Sample.journeyEnv)
        (.start Sample.unlockInfo [.tcpClient (str "10.0.0.3") 43299 Sample.pairedPhone])
        Sample.pairedUnlocks = some s ∧
      s.agg.main = .returned ⟨.success, Sample.pairedPhone, str "pw", str "K"⟩ := by
    exact Option.map_eq_some_iff.mp (by decide +kernel)
  have hrun : GetResultRun Sample.journeyEnv Sample.unlockInfo id []
      (getDevicesForUser (getDevices Sample.journeyEnv.json true w.store).1 (str "u"))
      ⟨.success, Sample.pairedPhone, str "pw", str "K"⟩ := by
    rw [hdevices]
    exact .merged [.tcpClient (str "10.0.0.3") 43299 Sample.pairedPhone] none (by decide +kernel) s
      ⟨_, hunlock⟩ _ hmain
  obtain ⟨device, respPacket, hadded, htold, -, hreturns⟩ := paired_password_returns
    Sample.journeyEnv_reads Sample.crypt_keepsSecrets (by decide) hfound hpair (by decide)
    (by rw [heffects]; decide)
  rw [heffects] at hadded htold
  obtain rfl : device = Sample.pairedPhone := by simpa [Sample.pairedEffects] using hadded
  have hwritable : ∀ before, before <+: [StoreOp.addDevice Sample.pairedPhone] →
      Writable Sample.journeyEnv.json (mapRun before .empty).entries := by
    intro before hbefore
    rcases List.prefix_cons_iff.mp hbefore with rfl | ⟨rest, rfl, hrest⟩
    · exact .of_test (by decide +kernel)
    · obtain rfl := List.prefix_nil.mp hrest
      exact .of_test (by decide +kernel)
  exact ⟨w, _, hpair, hrun, rfl, rfl, (hreturns [] (by simp) hwritable Sample.unlockInfo id [] _ hrun rfl
    rfl (Sample.pairedEffects_told htold).symm).2⟩

end PcbuDesktop
