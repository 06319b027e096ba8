import PcbuDesktop.Handler.Aggregate
import PcbuDesktop.Pairing.Client
import PcbuDesktop.Storage.Updates

set_option autoImplicit false

/-! # What is reported and what is stored

`HandleClient` reports a success, and `SshServerHelper::AddServer` (`ssh/SshServerHelper.cpp`)
returns the empty string, after `AddDevice` returned. `AddDevice` does not say whether it wrote
anything.
-/

namespace PcbuDesktop

open KeyedList Runs

/-! ## What is in the file after a save -/

section

variable {lib : JsonLib} {io : SaveIO} {devices : List PairedDevice} {s : Store}

theorem mem_load_saveDevices (hl : lib.Reads) (hcut : lib.CutOff) {d : PairedDevice} :
    d ∈ load lib ((saveDevices lib io devices s).readBytes true) ↔
      (io.Skips lib devices s ∧ d ∈ load lib (s.readBytes true)) ∨
      (io.Completes lib devices s ∧ d ∈ devices.map PairedDevice.reloaded) := by
  by_cases hcompletes : io.Completes lib devices s
  · rw [load_saveDevices_of_completes hl hcompletes]
    have hskips := hcompletes.not_skips
    simp [hcompletes, hskips]
  · by_cases hskips : io.Skips lib devices s
    · rw [load_saveDevices_of_skips hskips]
      simp [hcompletes, hskips]
    · have hfail : ¬ Saves lib io devices s := by
        rintro ⟨hopens, hdump, hwrite⟩
        obtain ⟨text, htext⟩ := Option.isSome_iff_exists.mp hdump
        exact hcompletes ⟨hopens, text, htext, Or.inl hwrite⟩
      obtain ⟨text, n, hopens, hdump, hwrite⟩ := stopped_of_not_saves hfail hskips
      have hn : n < text.length := by
        by_contra hle
        exact hcompletes ⟨hopens, text, hdump, Or.inr ⟨n, hwrite, by omega⟩⟩
      rw [load_saveDevices_of_cut hcut hopens hdump hwrite hn]
      simp [hcompletes, hskips]

/-- A read that found devices is not repeated. -/
theorem getDevices_again {isRead : Bool} (h : (getDevices lib isRead s).1 ≠ [])
    (isReadAgain : Bool) :
    getDevices lib isReadAgain (getDevices lib isRead s).2 = getDevices lib isRead s := by
  by_cases hc : s.cache = []
  · rw [getDevices_of_empty hc] at h ⊢
    exact getDevices_of_cache h isReadAgain
  · rw [getDevices_of_cache hc isRead]
    exact getDevices_of_cache hc isReadAgain

theorem mem_load_addDevice (hl : lib.Reads) (hcut : lib.CutOff) {isRead : Bool}
    {device d : PairedDevice} :
    d ∈ load lib ((addDevice lib isRead io device s).readBytes true) ↔
      (io.Skips lib (insert PairedDevice.id device (getDevices lib isRead s).1) s ∧
        d ∈ load lib (s.readBytes true)) ∨
      (io.Completes lib (insert PairedDevice.id device (getDevices lib isRead s).1) s ∧
        d ∈ (insert PairedDevice.id device (getDevices lib isRead s).1).map
          PairedDevice.reloaded) := by
  have hadd : addDevice lib isRead io device s = saveDevices lib io
      (insert PairedDevice.id device (getDevices lib isRead s).1) (getDevices lib isRead s).2 := rfl
  rw [hadd, mem_load_saveDevices hl hcut]
  unfold SaveIO.Skips SaveIO.Completes SaveIO.Opens Store.readBytes
  rw [getDevices_file]

end

/-! ## Adding an SSH server -/

/-- What `AddServer` meets: the result of the unlock, the random values of the encryption, whether
its two reads of the store succeed, and what becomes of its write. -/
structure AddServerInput where
  result : UnlockResult
  seed : Nat := 0
  isRead : Bool := true
  isReadAgain : Bool := true
  io : SaveIO := {}

/-- `SshServerHelper::AddServer`; the empty text is success. -/
def addServer (env : Env) (i18n : String → Str) (input : AddServerInput) (device : PairedDevice)
    (server : SshServer) (password : Str) (s : Store) : Str × Store :=
  if input.result.state ≠ .success then (input.result.state.toText i18n, s)
  else if input.result.device.id ≠ device.id ∨ input.result.passwordKey = [] then
    (i18n "error_ssh_wrong_device", s)
  else
    match env.crypt.encryptAES input.seed password input.result.passwordKey with
    | none => (i18n "error_ssh_encrypt", s)
    | some enc =>
        let (newDevice, s) := getDeviceByID env.json input.isRead device.id s
        match newDevice with
        | none => (i18n "error_unknown", s)
        | some newDevice =>
            let newServer := { server with passwordEnc := enc }
            let newDevice :=
              { newDevice with sshServers := newDevice.sshServers ++ [newServer] }
            ([], addDevice env.json input.isReadAgain input.io newDevice s)

/-- The stored device with this id has the server. -/
def StoresServer (lib : JsonLib) (id : Str) (server : SshServer) (s : Store) : Prop :=
  ∃ d ∈ load lib (s.readBytes true), d.id = id ∧ server ∈ d.sshServers

section

variable {env : Env} {i18n : String → Str} {input : AddServerInput} {device : PairedDevice}
  {server : SshServer} {password : Str} {s : Store}

theorem UnlockState.key_ne_empty (state : UnlockState) : state.key ≠ "" := by
  cases state <;> decide

/-- Without a failure `AddServer` ends in a call of `AddDevice` on the list it has read. -/
theorem addServer_success (hi18n : ∀ key, key ≠ "" → i18n key ≠ [])
    (h : (addServer env i18n input device server password s).1 = []) :
    ∃ enc old, env.crypt.encryptAES input.seed password input.result.passwordKey = some enc ∧
      (getDevices env.json input.isRead s).1.find? (fun d => d.id = device.id) = some old ∧
      (addServer env i18n input device server password s).2 =
        addDevice env.json input.isRead input.io
          { old with sshServers := old.sshServers ++ [{ server with passwordEnc := enc }] } s := by
  unfold addServer at h ⊢
  split at h
  · exact absurd h (hi18n _ input.result.state.key_ne_empty)
  · split at h
    · exact absurd h (hi18n _ (by decide))
    · next hstate hdevice =>
        rw [if_neg hstate, if_neg hdevice]
        cases henc : env.crypt.encryptAES input.seed password input.result.passwordKey with
        | none =>
            rw [henc] at h
            exact absurd h (hi18n _ (by decide))
        | some enc =>
            rw [henc] at h
            cases hold : (getDevices env.json input.isRead s).1.find?
                (fun d => d.id = device.id) with
            | none =>
                simp only [getDeviceByID, hold] at h
                exact absurd h (hi18n _ (by decide))
            | some old =>
                have hne : (getDevices env.json input.isRead s).1 ≠ [] :=
                  List.ne_nil_of_mem (List.mem_of_find?_eq_some hold)
                refine ⟨enc, old, rfl, rfl, ?_⟩
                simp only [getDeviceByID, hold, addDevice, getDevices_again hne]

/-- In a list with the changed device, that is the one with the id, and it is read with the new
server unless that has neither host nor key path. -/
theorem exists_reloaded_insert {devices : List PairedDevice} {old : PairedDevice}
    {newServer : SshServer} :
    (∃ d ∈ (insert PairedDevice.id
        { old with sshServers := old.sshServers ++ [newServer] } devices).map
          PairedDevice.reloaded, d.id = old.id ∧ newServer ∈ d.sshServers) ↔
      newServer.Loadable := by
  constructor
  · rintro ⟨d, hd, -, hserver⟩
    obtain ⟨d, -, rfl⟩ := List.mem_map.mp hd
    exact of_decide_eq_true (List.mem_filter.mp hserver).2
  · intro hload
    refine ⟨_, List.mem_map.mpr ⟨_, mem_insert.mpr (Or.inr rfl), rfl⟩, rfl, ?_⟩
    exact List.mem_filter.mpr ⟨List.mem_append_right _ List.mem_cons_self, decide_eq_true hload⟩

end

/-- **Reported success and the store.** After a success that `HandleClient` reports, the device is
in the stored list exactly when the whole list got into the file, or nothing did and the device
was there before. After a success of `AddServer` the stored device has the server exactly when the
whole list got into the file and the server has a host or a key path, or nothing did and the
stored device had the server before. Nobody else changes the store during the call. -/
theorem reported_success_stored_iff (env : Env) (hl : env.json.Reads) (hcut : env.json.CutOff)
    (i18n : String → Str) (hi18n : ∀ key, key ≠ "" → i18n key ≠ []) :
    (∀ (uiData : PairingUIData) (s₀ : Store) (ls : List PairingClientLabel) (w : PairingClient),
      exec (pairingClientStep env i18n) (PairingClient.start uiData s₀) ls = some w →
      .reportSuccess ∈ w.effects →
      ∃ device isRead io, ls.getLast? = some ⟨.stored none, isRead, io⟩ ∧
        (∀ d, .addDevice d ∈ w.effects ↔ d = device) ∧
        (device ∈ load env.json (w.store.readBytes true) ↔
          (io.Skips env.json (insert PairedDevice.id device (getDevices env.json isRead s₀).1) s₀ ∧
            device ∈ load env.json (s₀.readBytes true)) ∨
          io.Completes env.json
            (insert PairedDevice.id device (getDevices env.json isRead s₀).1) s₀)) ∧
    (∀ (input : AddServerInput) (device : PairedDevice) (server : SshServer) (password : Str)
      (s : Store), (addServer env i18n input device server password s).1 = [] →
      ∃ enc old, env.crypt.encryptAES input.seed password input.result.passwordKey = some enc ∧
        (getDevices env.json input.isRead s).1.find? (fun d => d.id = device.id) = some old ∧
        (StoresServer env.json device.id { server with passwordEnc := enc }
            (addServer env i18n input device server password s).2 ↔
          (input.io.Skips env.json (insert PairedDevice.id
              { old with sshServers := old.sshServers ++ [{ server with passwordEnc := enc }] }
              (getDevices env.json input.isRead s).1) s ∧
            StoresServer env.json device.id { server with passwordEnc := enc } s) ∨
          (input.io.Completes env.json (insert PairedDevice.id
              { old with sshServers := old.sshServers ++ [{ server with passwordEnc := enc }] }
              (getDevices env.json input.isRead s).1) s ∧
            server.Loadable))) := by
  constructor
  · intro uiData s₀ ls w hrun hreport
    obtain ⟨device, isRead, io, hlast, hservers, hadded, hstore⟩ := pairingClient_success hrun hreport
    refine ⟨device, isRead, io, hlast, hadded, ?_⟩
    have hreloaded : device ∈ (insert PairedDevice.id device
        (getDevices env.json isRead s₀).1).map PairedDevice.reloaded := by
      refine List.mem_map.mpr ⟨device, mem_insert.mpr (Or.inr rfl), ?_⟩
      exact PairedDevice.reloaded_eq (by simp [hservers])
    rw [hstore, mem_load_addDevice hl hcut]
    simp [hreloaded]
  · intro input device server password s hsuccess
    obtain ⟨enc, old, henc, hold, hstore⟩ := addServer_success hi18n hsuccess
    refine ⟨enc, old, henc, hold, ?_⟩
    have hid : old.id = device.id := by simpa using List.find?_some hold
    have hnew : _ ↔ server.Loadable := @exists_reloaded_insert
      (getDevices env.json input.isRead s).1 old { server with passwordEnc := enc }
    rw [hstore, ← hnew, hid]
    unfold StoresServer
    constructor
    · rintro ⟨d, hd, hserver⟩
      rcases (mem_load_addDevice hl hcut).mp hd with ⟨hskips, hmem⟩ | ⟨hcompletes, hmem⟩
      · exact Or.inl ⟨hskips, d, hmem, hserver⟩
      · exact Or.inr ⟨hcompletes, d, hmem, hserver⟩
    · rintro (⟨hskips, d, hmem, hserver⟩ | ⟨hcompletes, d, hmem, hserver⟩)
      · exact ⟨d, (mem_load_addDevice hl hcut).mpr (Or.inl ⟨hskips, hmem⟩), hserver⟩
      · exact ⟨d, (mem_load_addDevice hl hcut).mpr (Or.inr ⟨hcompletes, hmem⟩), hserver⟩

/-- The file cannot be written: the success is reported all the same, and the device is not
stored. -/
theorem success_without_device :
    ∃ w, exec (pairingClientStep Sample.pairingEnv str) (PairingClient.start Sample.pairingData {})
        (Sample.pairingRun (str "4.0") { write := .untouched }) = some w ∧
      .reportSuccess ∈ w.effects ∧ .addDevice Sample.pairedPhone ∈ w.effects ∧
      Sample.pairedPhone ∉ load Sample.pairingEnv.json (w.store.readBytes true) := by
  have hrun : (exec (pairingClientStep Sample.pairingEnv str)
      (PairingClient.start Sample.pairingData {})
      (Sample.pairingRun (str "4.0") { write := .untouched })).any (fun w =>
        decide (.reportSuccess ∈ w.effects ∧ .addDevice Sample.pairedPhone ∈ w.effects ∧
          Sample.pairedPhone ∉ load Sample.pairingEnv.json (w.store.readBytes true))) = true := by
    decide +kernel
  exact exec_of_test hrun

namespace Sample

/-- The phone is stored, and the user unlocks with it to add a server. -/
def pairedStore : Store := { file := some (arrayText [deviceText pairedPhone]) }

def serverInput : AddServerInput :=
  { result := { state := .success, device := pairedPhone, passwordKey := str "K" } }

theorem str_ne_nil {key : String} (h : key ≠ "") : str key ≠ [] := by
  intro hnil
  exact h (String.toList_eq_nil_iff.mp (List.map_eq_nil_iff.mp hnil))

end Sample

theorem reported_success_stored_sample :
    (∃ w, exec (pairingClientStep Sample.pairingEnv str) (PairingClient.start Sample.pairingData {})
        (Sample.pairingRun (str "4.0") {}) = some w ∧
      Sample.pairedPhone ∈ load Sample.pairingEnv.json (w.store.readBytes true)) ∧
    StoresServer Sample.pairingEnv.json Sample.pairedPhone.id Sample.sshServer
      (addServer Sample.pairingEnv str Sample.serverInput Sample.pairedPhone
        { Sample.sshServer with passwordEnc := [] } (str "s") Sample.pairedStore).2 := by
  have hstored := reported_success_stored_iff Sample.pairingEnv Sample.pairingEnv_reads
    Sample.pairingEnv_cutOff str (fun _ => Sample.str_ne_nil)
  constructor
  · have hrun : (exec (pairingClientStep Sample.pairingEnv str)
        (PairingClient.start Sample.pairingData {}) (Sample.pairingRun (str "4.0") {})).any (fun w =>
          decide (.reportSuccess ∈ w.effects ∧ .addDevice Sample.pairedPhone ∈ w.effects)) =
            true := by
      decide +kernel
    obtain ⟨w, hw, hreport, hadded⟩ := exec_of_test hrun
    obtain ⟨device, isRead, io, hlast, honly, hiff⟩ :=
      hstored.1 Sample.pairingData {} _ w hw hreport
    cases hlast
    rw [← (honly Sample.pairedPhone).mp hadded] at hiff
    have hdump : Sample.pairingEnv.json.dump (devicesToJson [Sample.pairedPhone]) =
        some (Sample.arrayText [Sample.deviceText Sample.pairedPhone]) := by
      decide +kernel
    exact ⟨w, hw, hiff.mpr (Or.inr ⟨⟨rfl, Or.inr rfl⟩, _, hdump, Or.inl rfl⟩)⟩
  · obtain ⟨enc, old, henc, hold, hiff⟩ := hstored.2 Sample.serverInput Sample.pairedPhone
      { Sample.sshServer with passwordEnc := [] } (str "s") Sample.pairedStore (by decide +kernel)
    have hfound : (getDevices Sample.pairingEnv.json true Sample.pairedStore).1 =
        [Sample.pairedPhone] := by
      decide +kernel
    have hread : Sample.serverInput.isRead = true := rfl
    rw [hread, hfound] at hold hiff
    cases henc
    cases hold
    have hdump : Sample.pairingEnv.json.dump (devicesToJson [Sample.servingPhone]) =
        some (Sample.arrayText [Sample.deviceText Sample.servingPhone]) := by
      decide +kernel
    exact hiff.mpr (Or.inr ⟨⟨⟨rfl, Or.inr rfl⟩, _, hdump, Or.inl rfl⟩, by decide⟩)

end PcbuDesktop
