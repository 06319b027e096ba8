import PcbuDesktop.Pairing.Client

set_option autoImplicit false

/-! # The version gate of the pairing server

`HandleClient` goes on with a client whose protocol version compares as equal to its own one, and
answers every other one by the error of a protocol mismatch. The comparison returns 0 also when it
fails, so that a version in which `std::stoi` finds no number passes too.
-/

namespace PcbuDesktop

open Runs

/-- The client is refused with this text: the error response is still to be written, or it was
written, or writing it failed and the error was reported. Nothing is stored. -/
def Refused (env : Env) (uiData : PairingUIData) (what data : Str) (s₀ : Store)
    (c : PairingClient) : Prop :=
  c.pairing.uiData = uiData ∧ c.store = s₀ ∧
    ((c.pairing.pc = .reject what ∧ c.effects = []) ∨
      (c.pairing.pc = .done ∧ ∃ seed result, c.effects =
        (writeEncryptedPacket env uiData seed result data).2 ++
          if (writeEncryptedPacket env uiData seed result data).1 then []
          else [.reportError what]))

section

variable {env : Env} {i18n : String → Str} {uiData : PairingUIData} {input : PairingInput}
  {initPacket : PacketPairInit} {what data : Str} {s₀ : Store} {c c' : PairingClient}
  {l : PairingClientLabel}

theorem Refused.step
    (hdata : env.json.dump (PacketPairResponse.toJson { errMsg := what }) = some data)
    (hc : Refused env uiData what data s₀ c) (h : pairingClientStep env i18n c l = some c') :
    Refused env uiData what data s₀ c' := by
  obtain ⟨huiData, hstore, hpc⟩ := hc
  obtain ⟨pc, effects, hstep, rfl⟩ := pairingClientStep_cases h
  obtain ⟨answer, isRead, io⟩ := l
  rw [huiData] at hstep
  rcases hpc with ⟨hpc, heffects⟩ | ⟨hpc, -⟩
  · have hharmless := hstep.harmless (by rw [hpc]; exact fun _ h => by cases h)
    have hkeep : effects.foldl (storeEffect env.json ⟨answer, isRead, io⟩) c.store = s₀ := by
      rw [← hstore]
      exact foldl_storeEffect (fun device hmem => hharmless _ hmem) c.store
    rw [hpc] at hstep
    cases hstep with
    | escaped hdump =>
        rw [hdata] at hdump
        cases hdump
    | @rejected _ _ text seed result hdump =>
        have htext : text = data := by
          rw [hdata] at hdump
          exact (Option.some.inj hdump).symm
        subst htext
        refine ⟨huiData, hkeep, Or.inr ⟨rfl, seed, result, ?_⟩⟩
        show c.effects ++ _ = _
        rw [heffects]
        rfl
  · rw [hpc] at hstep
    cases hstep

/-- Where the packet leads to. -/
def afterPacket : Except Str (PairedDevice × PacketPairResponse) → PairingPc
  | .error what => .reject what
  | .ok (device, respPacket) => .respond device respPacket

theorem pairingClientStep_packet (i18n : String → Str) (s₀ : Store)
    (hread : (readEncryptedPacket env uiData input).data ≠ []) (hl : l.answer = .packet input) :
    pairingClientStep env i18n (PairingClient.start uiData s₀) l =
      some ⟨⟨uiData, afterPacket (buildPairResponse env i18n uiData input
        (readEncryptedPacket env uiData input).data)⟩, s₀, []⟩ := by
  unfold pairingClientStep PairingClient.start
  rw [hl]
  simp only [pairingStep, if_neg hread]
  split
  · next hnone =>
      split at hnone
      · cases hnone
      · cases hnone
  · next pc effects hsome =>
      split at hsome
      · next what hbuild =>
          cases hsome
          rw [hbuild]
          rfl
      · next device respPacket hbuild =>
          cases hsome
          rw [hbuild]
          rfl

/-- A version that differs ends in the error of a mismatch, and no other one does. -/
theorem buildPairResponse_mismatch_iff (uiData : PairingUIData) (input : PairingInput)
    (htexts : i18n "error_protocol_mismatch" ≠ i18n "error_password_encrypt")
    (hinit : PacketPairInit.fromJson env.json data = some initPacket) :
    buildPairResponse env i18n uiData input data = .error (i18n "error_protocol_mismatch") ↔
      compareVersion pairingProtocolVersion initPacket.protoVersion ≠ 0 := by
  unfold buildPairResponse
  rw [hinit]
  dsimp only
  by_cases heq : compareVersion pairingProtocolVersion initPacket.protoVersion = 0
  · rw [if_neg (not_not.mpr heq)]
    refine ⟨fun h => ?_, fun h => absurd heq h⟩
    split at h
    · exact absurd (Except.error.inj h).symm htexts
    · cases h
  · rw [if_pos heq]
    exact ⟨fun _ => heq, fun _ => rfl⟩

end

/-- **The version gate.** Every run of a client with this packet keeps to the gate (the version
matches, or the client is refused with the error of a mismatch and nothing is stored) exactly when
the version matches, or `CompareVersion` finds numbers in all of its parts and these are not the
numbers of the pairing protocol. -/
theorem version_gate_iff (env : Env) (i18n : String → Str) (uiData : PairingUIData)
    (input : PairingInput) (initPacket : PacketPairInit) (data : Str)
    (htexts : i18n "error_protocol_mismatch" ≠ i18n "error_password_encrypt")
    (hdata : env.json.dump
      (PacketPairResponse.toJson { errMsg := i18n "error_protocol_mismatch" }) = some data)
    (hread : (readEncryptedPacket env uiData input).data ≠ [])
    (hinit : PacketPairInit.fromJson env.json (readEncryptedPacket env uiData input).data =
      some initPacket) :
    (∀ s₀ l ls w, l.answer = .packet input →
      exec (pairingClientStep env i18n) (PairingClient.start uiData s₀) (l :: ls) = some w →
      MatchesPairingProtocol initPacket.protoVersion ∨
        Refused env uiData (i18n "error_protocol_mismatch") data s₀ w) ↔
    MatchesPairingProtocol initPacket.protoVersion ∨
      ∃ numbers, versionNumbers initPacket.protoVersion = some numbers ∧
        ¬ ∀ i, numbers.getD i 0 = ([4, 0, 0] : List Int).getD i 0 := by
  have hdiffers : (∃ numbers, versionNumbers initPacket.protoVersion = some numbers ∧
      ¬ ∀ i, numbers.getD i 0 = ([4, 0, 0] : List Int).getD i 0) ↔
        compareVersion pairingProtocolVersion initPacket.protoVersion ≠ 0 := by
    rw [Ne, compareVersion_eq_zero_iff]
    push Not
    rfl
  rw [hdiffers]
  rw [← buildPairResponse_mismatch_iff uiData input htexts hinit]
  constructor
  · -- the step that reads the packet already shows it
    intro hall
    by_cases hmatch : MatchesPairingProtocol initPacket.protoVersion
    · exact Or.inl hmatch
    have hrun : exec (pairingClientStep env i18n) (PairingClient.start uiData {})
        [⟨.packet input, true, {}⟩] = _ :=
      exec_singleton.trans (pairingClientStep_packet i18n {} hread rfl)
    obtain ⟨-, -, hpc⟩ := (hall {} _ [] _ rfl hrun).resolve_left hmatch
    cases hbuild : buildPairResponse env i18n uiData input
        (readEncryptedPacket env uiData input).data with
    | error what =>
        rw [hbuild] at hpc
        rcases hpc with ⟨hpc, -⟩ | ⟨hpc, -⟩
        · exact Or.inr (by rw [PairingPc.reject.inj hpc])
        · cases hpc
    | ok built =>
        rw [hbuild] at hpc
        rcases hpc with ⟨hpc, -⟩ | ⟨hpc, -⟩
        · cases hpc
        · cases hpc
  · rintro (hmatch | hbuild) s₀ l ls w hl hrun
    · exact Or.inl hmatch
    refine Or.inr ?_
    obtain ⟨c, hc, hrest⟩ := exec_cons_eq_some.mp hrun
    refine exec_inv (fun _ _ _ hr hs => hr.step hdata hs) ?_ hrest
    rw [pairingClientStep_packet i18n s₀ hread hl, hbuild] at hc
    cases hc
    exact ⟨rfl, rfl, Or.inl ⟨rfl, rfl⟩⟩

/-- The version `x` has no number: the comparison fails, and the phone is paired. -/
theorem malformed_version_paired :
    ¬ MatchesPairingProtocol (str "x") ∧
    (PacketPairInit.fromJson Sample.pairingEnv.json (readEncryptedPacket Sample.pairingEnv
      Sample.pairingData (Sample.pairingInput (str "x"))).data).map PacketPairInit.protoVersion =
        some (str "x") ∧
    ∃ w, exec (pairingClientStep Sample.pairingEnv str) (PairingClient.start Sample.pairingData {})
        (Sample.pairingRun (str "x") {}) = some w ∧
      .addDevice Sample.pairedPhone ∈ w.effects ∧ .reportSuccess ∈ w.effects ∧
      Sample.pairedPhone ∈ w.store.cache := by
  refine ⟨?_, by decide +kernel, ?_⟩
  · rintro ⟨numbers, others, ⟨parts, hne, hparts, -, hversion⟩, -, -⟩
    have hsplit : parts = [str "x"] :=
      (split_dotted hne hparts hversion).symm.trans (by decide)
    have hdecimal := hparts (str "x") (by rw [hsplit]; exact List.mem_cons_self)
    exact absurd (hdecimal.2 120 (by decide)) (by decide)
  · have hrun : (exec (pairingClientStep Sample.pairingEnv str)
        (PairingClient.start Sample.pairingData {}) (Sample.pairingRun (str "x") {})).any (fun w =>
          decide (.addDevice Sample.pairedPhone ∈ w.effects ∧ .reportSuccess ∈ w.effects ∧
            Sample.pairedPhone ∈ w.store.cache)) = true := by
      decide +kernel
    exact exec_of_test hrun

theorem version_gate_sample :
    ∃ w, exec (pairingClientStep Sample.pairingEnv str) (PairingClient.start Sample.pairingData {})
        [{ answer := .packet (Sample.pairingInput (str "3.0")) },
          { answer := .write 0 .none [] }] = some w ∧
      Refused Sample.pairingEnv Sample.pairingData (str "error_protocol_mismatch")
        (Sample.pairResponseText Sample.mismatchResponse) {} w := by
  have hsome : (exec (pairingClientStep Sample.pairingEnv str)
      (PairingClient.start Sample.pairingData {})
      [{ answer := .packet (Sample.pairingInput (str "3.0")) },
        { answer := .write 0 .none [] }]).isSome = true := by
    decide +kernel
  obtain ⟨w, hw⟩ := Option.isSome_iff_exists.mp hsome
  have hmatch : ¬ MatchesPairingProtocol (str "3.0") := by
    intro h
    exact absurd h.compareVersion_eq_zero (by decide)
  have hgate := version_gate_iff Sample.pairingEnv str Sample.pairingData
    (Sample.pairingInput (str "3.0"))
    { protoVersion := str "3.0", deviceUUID := str "d", deviceName := str "Pixel"
      ipAddress := str "10.0.0.3", tcpPort := 43299 }
    (Sample.pairResponseText Sample.mismatchResponse) (by decide +kernel) (by decide +kernel)
    (by decide +kernel) (by decide +kernel)
  have hdiffers : ∃ numbers, versionNumbers (str "3.0") = some numbers ∧
      ¬ ∀ i, numbers.getD i 0 = ([4, 0, 0] : List Int).getD i 0 :=
    ⟨[3, 0], by decide, fun h => absurd (h 0) (by decide)⟩
  exact ⟨w, hw, (hgate.mpr (Or.inr hdiffers) {} _ _ w rfl hw).resolve_left hmatch⟩

end PcbuDesktop
