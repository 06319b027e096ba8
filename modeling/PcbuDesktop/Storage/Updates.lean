import PcbuDesktop.Storage.PairedDevices

set_option autoImplicit false

/-! # Updates of the store when something goes wrong

`AddDevice` and `RemoveDevice` read the list, change it and write the whole list back. What
becomes of the entries they are not about depends on the read: an entry that is not read is not
written either. What a save that fails leaves behind depends on where it fails: the file is
overwritten in place, the cache only changes at the end.
-/

namespace PcbuDesktop

open KeyedList

/-! ## What a save leaves behind -/

/-- The file can be opened for writing: nothing throws before, and it is there or is created. -/
def SaveIO.Opens (io : SaveIO) (s : Store) : Prop :=
  io.existsThrows = false ∧ (s.file ≠ none ∨ io.isCreated = true)

instance (io : SaveIO) (s : Store) : Decidable (io.Opens s) := inferInstanceAs (Decidable (_ ∧ _))

/-- The bytes a save puts into the file; `none` when it does not touch what is there. -/
def writtenText (lib : JsonLib) (io : SaveIO) (devices : List PairedDevice) (s : Store) :
    Option Str :=
  if io.Opens s then
    match lib.dump (devicesToJson devices), io.write with
    | some text, .stopped n => some (text.take n)
    | some text, .written => some text
    | _, _ => none
  else none

/-- The save runs to its end. -/
def Saves (lib : JsonLib) (io : SaveIO) (devices : List PairedDevice) (s : Store) : Prop :=
  io.Opens s ∧ (lib.dump (devicesToJson devices)).isSome = true ∧ io.write = .written

section

variable {lib : JsonLib} {io : SaveIO} {devices : List PairedDevice} {s : Store}

theorem saveDevices_not_opens (h : ¬ io.Opens s) : saveDevices lib io devices s = s := by
  unfold saveDevices
  rw [if_pos]
  by_cases hthrows : io.existsThrows = true
  · exact Or.inl hthrows
  · refine Or.inr ⟨?_, ?_⟩
    · by_contra hfile
      exact h ⟨by simpa using hthrows, Or.inl hfile⟩
    · by_contra hcreated
      exact h ⟨by simpa using hthrows, Or.inr (by simpa using hcreated)⟩

theorem saveDevices_opens (h : io.Opens s) :
    saveDevices lib io devices s =
      match lib.dump (devicesToJson devices), io.write with
      | some text, .stopped n => { s with file := some (text.take n) }
      | some text, .written => { file := some text, cache := devices }
      | _, _ => { s with file := some (s.file.getD []) } := by
  obtain ⟨hthrows, hfile⟩ := h
  unfold saveDevices
  rw [if_neg]
  · cases lib.dump (devicesToJson devices) with
    | none => rfl
    | some text => cases io.write <;> rfl
  · rintro (h | ⟨hnone, hcreated⟩)
    · rw [hthrows] at h
      cases h
    · rcases hfile with h | h
      · exact h hnone
      · rw [hcreated] at h
        cases h

/-- A fresh `Load` after a save. -/
theorem load_saveDevices :
    load lib ((saveDevices lib io devices s).readBytes true) =
      match writtenText lib io devices s with
      | none => load lib (s.readBytes true)
      | some text => load lib text := by
  unfold writtenText
  by_cases h : io.Opens s
  · rw [saveDevices_opens h, if_pos h]
    cases lib.dump (devicesToJson devices) with
    | none => rfl
    | some text => cases io.write <;> rfl
  · rw [saveDevices_not_opens h, if_neg h]

/-- The cache is replaced only at the end. -/
theorem cache_saveDevices (h : ¬ Saves lib io devices s) :
    (saveDevices lib io devices s).cache = s.cache := by
  by_cases hopens : io.Opens s
  · rw [saveDevices_opens hopens]
    cases hdump : lib.dump (devicesToJson devices) with
    | none => rfl
    | some text =>
        cases hwrite : io.write with
        | untouched => rfl
        | stopped n => rfl
        | written => exact absurd ⟨hopens, by rw [hdump]; rfl, hwrite⟩ h
  · rw [saveDevices_not_opens hopens]

/-- Nothing gets into the file. -/
def SaveIO.Skips (io : SaveIO) (lib : JsonLib) (devices : List PairedDevice) (s : Store) : Prop :=
  ¬ io.Opens s ∨ lib.dump (devicesToJson devices) = none ∨ io.write = .untouched

/-- The whole text of the list gets into the file. -/
def SaveIO.Completes (io : SaveIO) (lib : JsonLib) (devices : List PairedDevice) (s : Store) :
    Prop :=
  io.Opens s ∧ ∃ text, lib.dump (devicesToJson devices) = some text ∧
    (io.write = .written ∨ ∃ n, io.write = .stopped n ∧ text.length ≤ n)

theorem SaveIO.Completes.not_skips (h : io.Completes lib devices s) :
    ¬ io.Skips lib devices s := by
  obtain ⟨hopens, text, hdump, hwrite⟩ := h
  rintro (h | h | h)
  · exact h hopens
  · rw [hdump] at h
    cases h
  · rw [h] at hwrite
    rcases hwrite with hw | ⟨n, hw, -⟩
    · cases hw
    · cases hw

theorem load_saveDevices_of_skips (h : io.Skips lib devices s) :
    load lib ((saveDevices lib io devices s).readBytes true) = load lib (s.readBytes true) := by
  have hnone : writtenText lib io devices s = none := by
    unfold writtenText
    by_cases hopens : io.Opens s
    · rw [if_pos hopens]
      rcases h with h | h | h
      · exact absurd hopens h
      · rw [h]
      · rw [h]
        cases lib.dump (devicesToJson devices) <;> rfl
    · rw [if_neg hopens]
  rw [load_saveDevices, hnone]

theorem load_saveDevices_of_completes (hl : lib.Reads) (h : io.Completes lib devices s) :
    load lib ((saveDevices lib io devices s).readBytes true) =
      devices.map PairedDevice.reloaded := by
  obtain ⟨hopens, text, hdump, hwrite⟩ := h
  have htext : writtenText lib io devices s = some text := by
    unfold writtenText
    rw [if_pos hopens, hdump]
    rcases hwrite with hw | ⟨n, hw, hn⟩
    · rw [hw]
    · rw [hw]
      exact congrArg some (List.take_of_length_le hn)
  rw [load_saveDevices, htext]
  exact load_dump hl hdump

/-- A save that began and did not run to its end stopped in the write. -/
theorem stopped_of_not_saves (hfail : ¬ Saves lib io devices s)
    (hskips : ¬ io.Skips lib devices s) :
    ∃ text n, io.Opens s ∧ lib.dump (devicesToJson devices) = some text ∧ io.write = .stopped n := by
  have hopens : io.Opens s := by
    by_contra hnot
    exact hskips (Or.inl hnot)
  cases hdump : lib.dump (devicesToJson devices) with
  | none => exact absurd (Or.inr (Or.inl hdump)) hskips
  | some text =>
      cases hwrite : io.write with
      | untouched => exact absurd (Or.inr (Or.inr hwrite)) hskips
      | written => exact absurd ⟨hopens, by rw [hdump]; rfl, hwrite⟩ hfail
      | stopped n => exact ⟨text, n, hopens, rfl, rfl⟩

end

/-! ## Failed saves -/

/-- The text of an array or of `null` is no JSON text before its last character. -/
def JsonLib.CutOff (lib : JsonLib) : Prop :=
  ∀ devices text n, lib.dump (devicesToJson devices) = some text → n < text.length →
    lib.parse (text.take n) = none

theorem load_cut {lib : JsonLib} (hcut : lib.CutOff) {devices : List PairedDevice} {text : Str}
    (hdump : lib.dump (devicesToJson devices) = some text) {n : Nat} (hn : n < text.length) :
    load lib (text.take n) = [] := by
  unfold load
  rw [hcut devices text n hdump hn]
  split <;> rfl

/-- A list whose text is cut is read as no devices at all. -/
theorem load_saveDevices_of_cut {lib : JsonLib} (hcut : lib.CutOff) {io : SaveIO}
    {devices : List PairedDevice} {s : Store} {text : Str} {n : Nat} (hopens : io.Opens s)
    (hdump : lib.dump (devicesToJson devices) = some text) (hwrite : io.write = .stopped n)
    (hn : n < text.length) :
    load lib ((saveDevices lib io devices s).readBytes true) = [] := by
  rw [saveDevices_opens hopens, hdump, hwrite]
  exact load_cut hcut hdump hn

/-- **A failed save.** The next `Load` gives the previous list and a filled cache is equal to it
exactly when the cache agreed with the file before and the write, if it was begun, did no harm:
it stopped within the text of a list while there were no devices, or it stopped after the last
byte of a list that is read as the previous one. -/
theorem failed_save_keeps_store_iff (lib : JsonLib) (hl : lib.Reads) (hcut : lib.CutOff)
    (io : SaveIO) (devices : List PairedDevice) (s : Store) (hfail : ¬ Saves lib io devices s) :
    (load lib ((saveDevices lib io devices s).readBytes true) = load lib (s.readBytes true) ∧
      ((saveDevices lib io devices s).cache = [] ∨
        (saveDevices lib io devices s).cache = load lib (s.readBytes true))) ↔
    (s.cache = [] ∨ s.cache = load lib (s.readBytes true)) ∧
      ∀ text n, io.Opens s → lib.dump (devicesToJson devices) = some text → io.write = .stopped n →
        (n < text.length → load lib (s.readBytes true) = []) ∧
        (text.length ≤ n → load lib (s.readBytes true) = devices.map PairedDevice.reloaded) := by
  rw [cache_saveDevices hfail, and_comm]
  refine and_congr_right (fun _ => ?_)
  by_cases hskips : io.Skips lib devices s
  · rw [load_saveDevices_of_skips hskips]
    refine ⟨fun _ text n hopens hdump hwrite => ?_, fun _ => rfl⟩
    rcases hskips with h | h | h
    · exact absurd hopens h
    · rw [hdump] at h
      cases h
    · rw [hwrite] at h
      cases h
  -- the write stopped, and the two lengths decide
  obtain ⟨text, n, hopens, hdump, hwrite⟩ := stopped_of_not_saves hfail hskips
  by_cases hn : n < text.length
  · rw [load_saveDevices_of_cut hcut hopens hdump hwrite hn]
    constructor
    · intro h text' n' _ hdump' hwrite'
      rw [hdump] at hdump'
      rw [hwrite] at hwrite'
      cases hdump'
      cases hwrite'
      exact ⟨fun _ => h.symm, fun hle => by omega⟩
    · intro h
      exact ((h text n hopens hdump hwrite).1 hn).symm
  · have hle : text.length ≤ n := by omega
    rw [load_saveDevices_of_completes hl ⟨hopens, text, hdump, Or.inr ⟨n, hwrite, hle⟩⟩]
    constructor
    · intro h text' n' _ hdump' hwrite'
      rw [hdump] at hdump'
      rw [hwrite] at hwrite'
      cases hdump'
      cases hwrite'
      exact ⟨fun hlt => by omega, fun _ => h.symm⟩
    · intro h
      exact ((h text n hopens hdump hwrite).2 hle).symm

namespace Sample

theorem storeJson_cutOff : storeJson.CutOff := by
  intro devices text n hdump hn
  exact JsonLib.ofTable_parse_take (by decide +kernel) hdump hn

/-- The store with the phone, in the file and in the cache. -/
def phoneStore : Store := { file := some (arrayText [phoneText]), cache := [phone] }

end Sample

/-- The write of a longer list stops before its first byte: the file is empty, and the next
process finds no device. -/
theorem failed_save_loses_devices :
    load Sample.storeJson (Sample.phoneStore.readBytes true) = [Sample.phone] ∧
    ¬ Saves Sample.storeJson { write := .stopped 0 } [Sample.phone, Sample.tablet]
      Sample.phoneStore ∧
    load Sample.storeJson ((saveDevices Sample.storeJson { write := .stopped 0 }
      [Sample.phone, Sample.tablet] Sample.phoneStore).readBytes true) = [] := by
  refine ⟨by decide +kernel, ?_, by decide +kernel⟩
  rintro ⟨-, -, hwrite⟩
  cases hwrite

theorem failed_save_keeps_store_sample :
    load Sample.storeJson ((saveDevices Sample.storeJson { write := .untouched }
      [Sample.phone, Sample.tablet] Sample.phoneStore).readBytes true) = [Sample.phone] := by
  have hfail : ¬ Saves Sample.storeJson { write := .untouched } [Sample.phone, Sample.tablet]
      Sample.phoneStore := by
    rintro ⟨-, -, hwrite⟩
    cases hwrite
  have hiff := failed_save_keeps_store_iff Sample.storeJson Sample.storeJson_reads
    Sample.storeJson_cutOff { write := .untouched } [Sample.phone, Sample.tablet]
    Sample.phoneStore hfail
  have hkept := hiff.mpr ⟨Or.inr (by decide +kernel), fun _ _ _ _ h => by cases h⟩
  rw [hkept.1]
  decide +kernel

/-! ## Entries of other devices -/

/-- A change of one device. -/
inductive DeviceUpdate where
  | add (device : PairedDevice)
  | remove (id : Str)

/-- The id the update is about. -/
def DeviceUpdate.id : DeviceUpdate → Str
  | .add device => device.id
  | .remove id => id

/-- What it makes of a list. -/
def DeviceUpdate.apply : DeviceUpdate → List PairedDevice → List PairedDevice
  | .add device, devices => insert PairedDevice.id device devices
  | .remove id, devices => erase PairedDevice.id id devices

/-- The call. -/
def DeviceUpdate.run (lib : JsonLib) (isRead : Bool) (io : SaveIO) (u : DeviceUpdate) (s : Store) :
    Store :=
  match u with
  | .add device => addDevice lib isRead io device s
  | .remove id => removeDevice lib isRead io id s

/-- The id of an entry, when it has one. -/
def entryId (entry : Json) : Option Str := entry.stringMember "id"

/-- The entries of an array that an update is not about. -/
def otherEntries (id : Str) (entries : List Json) : List Json :=
  entries.filter (fun x => entryId x ≠ some id)

/-- An entry as `SaveDevices` writes it, for a device that `Load` reads back. -/
def WrittenEntry (x : Json) : Prop :=
  ∃ d : PairedDevice, (∀ s ∈ d.sshServers, s.Loadable) ∧ x = d.toJson

theorem DeviceUpdate.run_eq (lib : JsonLib) (isRead : Bool) (io : SaveIO) (u : DeviceUpdate)
    (s : Store) :
    u.run lib isRead io s =
      saveDevices lib io (u.apply (getDevices lib isRead s).1) (getDevices lib isRead s).2 := by
  cases u <;> rfl

theorem entryId_toJson (d : PairedDevice) : entryId d.toJson = some d.id := rfl

theorem sshServersFromJson_loadable {xs : List Json} {servers : List SshServer}
    (h : sshServersFromJson xs = some servers) : ∀ s ∈ servers, s.Loadable := by
  induction xs generalizing servers with
  | nil =>
      cases h
      simp
  | cons x xs ih =>
      by_cases hobj : ∃ fields, x = .obj fields
      · obtain ⟨fields, rfl⟩ := hobj
        rw [sshServersFromJson] at h
        obtain ⟨host, -, h⟩ := Option.bind_eq_some_iff.mp h
        obtain ⟨user, -, h⟩ := Option.bind_eq_some_iff.mp h
        obtain ⟨keyPath, -, h⟩ := Option.bind_eq_some_iff.mp h
        obtain ⟨passwordEnc, -, h⟩ := Option.bind_eq_some_iff.mp h
        obtain ⟨rest, hrest, h⟩ := Option.bind_eq_some_iff.mp h
        have ihrest := ih hrest
        split at h
        · cases h
          exact ihrest
        · next hload =>
            cases h
            intro s hs
            rcases List.mem_cons.mp hs with rfl | hs
            · exact hload
            · exact ihrest s hs
      · have hskip : sshServersFromJson (x :: xs) = sshServersFromJson xs := by
          cases x with
          | obj fields => exact absurd ⟨fields, rfl⟩ hobj
          | _ => rfl
        rw [hskip] at h
        exact ih h

theorem sshMember_loadable {x : Json} {servers : List SshServer} (h : sshMember x = some servers) :
    ∀ s ∈ servers, s.Loadable := by
  unfold sshMember at h
  split at h
  · split at h
    · exact sshServersFromJson_loadable h
    · cases h
      simp
  · cases h
    simp

/-- A device that was read has its id in the entry, and servers that are read again. -/
theorem deviceFromJson_spec {x : Json} {d : PairedDevice} (h : deviceFromJson x = some d) :
    entryId x = some d.id ∧ ∀ s ∈ d.sshServers, s.Loadable := by
  unfold deviceFromJson at h
  obtain ⟨id, hid, h⟩ := Option.bind_eq_some_iff.mp h
  iterate 11 obtain ⟨_, -, h⟩ := Option.bind_eq_some_iff.mp h
  obtain ⟨servers, hservers, h⟩ := Option.bind_eq_some_iff.mp h
  cases h
  exact ⟨hid, sshMember_loadable hservers⟩

theorem mem_load {lib : JsonLib} {bytes : Bytes} {d : PairedDevice} (h : d ∈ load lib bytes) :
    ∀ s ∈ d.sshServers, s.Loadable := by
  unfold load at h
  split at h
  · cases h
  · split at h
    · cases h
    · obtain ⟨x, -, hx⟩ := List.mem_filterMap.mp h
      exact (deviceFromJson_spec hx).2

/-- Where every other entry is one the program writes, the devices that are read and not replaced
are exactly these entries. -/
theorem toJson_erase_filterMap {id : Str} {xs : List Json}
    (h : ∀ x ∈ otherEntries id xs, WrittenEntry x) :
    (erase PairedDevice.id id (xs.filterMap deviceFromJson)).map PairedDevice.toJson =
      otherEntries id xs := by
  induction xs with
  | nil => rfl
  | cons x xs ih =>
      by_cases hx : entryId x = some id
      · -- the entry is not another one: it is not read, or what is read is replaced
        have hother : otherEntries id (x :: xs) = otherEntries id xs := by
          simp [otherEntries, hx]
        rw [hother] at h ⊢
        rw [← ih h]
        congr 1
        cases hd : deviceFromJson x with
        | none => rw [List.filterMap_cons_none hd]
        | some d =>
            have hid := (deviceFromJson_spec hd).1
            rw [hx] at hid
            cases hid
            rw [List.filterMap_cons_some hd]
            simp [erase]
      · have hother : otherEntries id (x :: xs) = x :: otherEntries id xs := by
          simp [otherEntries, hx]
        rw [hother] at h ⊢
        obtain ⟨d, hload, rfl⟩ := h x List.mem_cons_self
        have hd : deviceFromJson d.toJson = some d := by
          rw [deviceFromJson_toJson, PairedDevice.reloaded_eq hload]
        have hne : d.id ≠ id := by
          intro heq
          exact hx (by rw [entryId_toJson, heq])
        rw [List.filterMap_cons_some hd, ← ih (fun y hy => h y (List.mem_cons_of_mem _ hy))]
        simp [erase, hne]

theorem otherEntries_append (id : Str) (xs ys : List Json) :
    otherEntries id (xs ++ ys) = otherEntries id xs ++ otherEntries id ys := List.filter_append ..

theorem otherEntries_otherEntries (id : Str) (xs : List Json) :
    otherEntries id (otherEntries id xs) = otherEntries id xs := by
  simp [otherEntries]

/-- An update changes no entry it is not about. -/
theorem otherEntries_apply (u : DeviceUpdate) (devices : List PairedDevice) :
    otherEntries u.id ((u.apply devices).map PairedDevice.toJson) =
      otherEntries u.id (devices.map PairedDevice.toJson) := by
  have herase : otherEntries u.id ((erase PairedDevice.id u.id devices).map PairedDevice.toJson) =
      otherEntries u.id (devices.map PairedDevice.toJson) := by
    unfold otherEntries erase
    rw [List.filter_map, List.filter_map, List.filter_filter]
    congr 1
    refine List.filter_congr fun d _ => ?_
    simp [entryId_toJson]
  cases u with
  | remove id => exact herase
  | add device =>
      have hdevice : otherEntries device.id [device.toJson] = [] := by
        simp [otherEntries, entryId_toJson]
      show otherEntries device.id ((erase PairedDevice.id device.id devices ++ [device]).map
        PairedDevice.toJson) = _
      rw [List.map_append, otherEntries_append, List.map_singleton, hdevice, List.append_nil]
      exact herase

/-- Among the entries of a list, the other entries of an array are among the other ones. -/
theorem otherEntries_sublist_iff {id : Str} {xs ys : List Json} :
    (otherEntries id xs).Sublist ys ↔ (otherEntries id xs).Sublist (otherEntries id ys) := by
  refine ⟨fun h => ?_, fun h => h.trans List.filter_sublist⟩
  rw [← otherEntries_otherEntries]
  exact h.filter _

/-- The new list has the entries the update is not about when the old one has them. -/
theorem sublist_apply_iff {u : DeviceUpdate} {devices : List PairedDevice} {xs : List Json} :
    (otherEntries u.id xs).Sublist ((u.apply devices).map PairedDevice.toJson) ↔
      (otherEntries u.id xs).Sublist (devices.map PairedDevice.toJson) := by
  rw [otherEntries_sublist_iff, otherEntries_apply, ← otherEntries_sublist_iff]

theorem load_array {lib : JsonLib} (hl : lib.Reads) {bytes : Bytes} {xs : List Json}
    (hparse : lib.parse bytes = some (.arr xs)) : load lib bytes = xs.filterMap deviceFromJson := by
  have hne : bytes ≠ [] := by
    rintro rfl
    rw [hl.parse_nil] at hparse
    cases hparse
  unfold load
  rw [if_neg hne, hparse]
  rfl

/-- The devices of an array hold its other entries when each is one the program writes. -/
theorem sublist_load_iff {lib : JsonLib} (hl : lib.Reads) {bytes : Bytes} {id : Str}
    {xs : List Json} (hparse : lib.parse bytes = some (.arr xs)) :
    (otherEntries id xs).Sublist ((load lib bytes).map PairedDevice.toJson) ↔
      ∀ x ∈ otherEntries id xs, WrittenEntry x := by
  constructor
  · intro h x hx
    obtain ⟨d, hd, rfl⟩ := List.mem_map.mp (h.mem hx)
    exact ⟨d, mem_load hd, rfl⟩
  · intro h
    rw [load_array hl hparse, ← toJson_erase_filterMap h]
    exact List.filter_sublist.map _

/-- The list that is read: a read that fails is an empty list. -/
theorem sublist_read_iff {lib : JsonLib} (hl : lib.Reads) {isRead : Bool} {s : Store}
    {bytes : Bytes} {id : Str} {xs : List Json} (hfile : s.file = some bytes)
    (hparse : lib.parse bytes = some (.arr xs)) :
    (otherEntries id xs).Sublist ((load lib (s.readBytes isRead)).map PairedDevice.toJson) ↔
      (∀ x ∈ otherEntries id xs, WrittenEntry x) ∧ (isRead = true ∨ otherEntries id xs = []) := by
  cases isRead with
  | true =>
      have hread : s.readBytes true = bytes := by
        unfold Store.readBytes
        rw [if_pos rfl, hfile, Option.getD_some]
      rw [hread, sublist_load_iff hl hparse]
      exact ⟨fun h => ⟨h, Or.inl rfl⟩, fun h => h.1⟩
  | false =>
      have hload : load lib (s.readBytes false) = [] := rfl
      rw [hload, List.map_nil, List.sublist_nil]
      constructor
      · intro h
        exact ⟨by simp [h], Or.inr h⟩
      · rintro ⟨-, h | h⟩
        · cases h
        · exact h

/-- Reading the store does not change the file. -/
theorem getDevices_file {lib : JsonLib} {s : Store} (isRead : Bool) :
    (getDevices lib isRead s).2.file = s.file := by
  by_cases hc : s.cache = []
  · rw [getDevices_of_empty hc]
  · rw [getDevices_of_cache hc]

/-- The file after an update of a store whose file is there, when no write fails. -/
theorem DeviceUpdate.run_file (lib : JsonLib) (isRead : Bool) (u : DeviceUpdate) {s : Store}
    {bytes : Bytes} (hfile : s.file = some bytes) :
    (u.run lib isRead {} s).file =
      some ((lib.dump (devicesToJson (u.apply (getDevices lib isRead s).1))).getD bytes) := by
  rw [DeviceUpdate.run_eq, saveDevices_opens ⟨rfl, Or.inr rfl⟩]
  cases lib.dump (devicesToJson (u.apply (getDevices lib isRead s).1)) with
  | none =>
      show some ((getDevices lib isRead s).2.file.getD []) = _
      rw [getDevices_file, hfile]
      rfl
  | some text => rfl

/-- **Updates and the entries of other devices.** An `AddDevice` or `RemoveDevice` leaves every
entry with another id in the file, in their order, exactly when the new list cannot be printed
(then nothing is written), or nothing is cached, every such entry is one that `SaveDevices` writes
and the read succeeded or there is no such entry, or the cache is filled, the file is not read and
the cached devices have these entries. A cache that agrees with the file has them exactly when each
is one that `SaveDevices` writes (`sublist_load_iff`); one that another process made stale may not. -/
theorem update_keeps_entries_iff (lib : JsonLib) (hl : lib.Reads) (u : DeviceUpdate)
    (isRead : Bool) (s : Store) (bytes : Bytes) (xs : List Json)
    (hfile : s.file = some bytes) (hparse : lib.parse bytes = some (.arr xs)) :
    (∃ bytes' json, (u.run lib isRead {} s).file = some bytes' ∧ lib.parse bytes' = some json ∧
      (otherEntries u.id xs).Sublist json.items) ↔
    lib.dump (devicesToJson (u.apply (getDevices lib isRead s).1)) = none ∨
      (s.cache = [] ∧ (∀ x ∈ otherEntries u.id xs, WrittenEntry x) ∧
        (isRead = true ∨ otherEntries u.id xs = [])) ∨
      (s.cache ≠ [] ∧ (otherEntries u.id xs).Sublist (s.cache.map PairedDevice.toJson)) := by
  have hrun := DeviceUpdate.run_file lib isRead u hfile
  cases hdump : lib.dump (devicesToJson (u.apply (getDevices lib isRead s).1)) with
  | none =>
      rw [hdump] at hrun
      exact ⟨fun _ => Or.inl rfl, fun _ => ⟨bytes, .arr xs, hrun, hparse, List.filter_sublist⟩⟩
  | some text =>
  rw [hdump, Option.getD_some] at hrun
  have htext := hl.roundTrips _ _ hdump
  -- what is kept is among the entries of the list the update starts from
  have hkeeps : (∃ bytes' json, (u.run lib isRead {} s).file = some bytes' ∧
      lib.parse bytes' = some json ∧ (otherEntries u.id xs).Sublist json.items) ↔
        (otherEntries u.id xs).Sublist ((getDevices lib isRead s).1.map PairedDevice.toJson) := by
    rw [← sublist_apply_iff, ← items_devicesToJson]
    constructor
    · rintro ⟨bytes', json, hfile', hparse', hsub⟩
      rw [hrun] at hfile'
      cases hfile'
      rw [htext] at hparse'
      cases hparse'
      exact hsub
    · intro hsub
      exact ⟨text, _, hrun, htext, hsub⟩
  rw [hkeeps]
  by_cases hcache : s.cache = []
  · rw [getDevices_of_empty hcache, sublist_read_iff hl hfile hparse]
    simp [hcache]
  · rw [getDevices_of_cache hcache]
    simp [hcache]

/-- The tablet is stored, the read fails, the phone is added: the tablet is gone. -/
theorem update_drops_entry :
    entryId Sample.tablet.toJson ≠ some Sample.phone.id ∧
    Sample.storeJson.parse (Sample.arrayText [Sample.tabletText]) =
      some (.arr [Sample.tablet.toJson]) ∧
    (addDevice Sample.storeJson false {} Sample.phone
      { file := some (Sample.arrayText [Sample.tabletText]) }).file =
        some (Sample.arrayText [Sample.phoneText]) ∧
    Sample.storeJson.parse (Sample.arrayText [Sample.phoneText]) =
      some (.arr [Sample.phone.toJson]) ∧
    Sample.tablet.toJson ∉ (Json.arr [Sample.phone.toJson]).items := by
  refine ⟨by decide, ?_, by decide +kernel, ?_, ?_⟩
  · exact Sample.storeJson_reads.roundTrips (devicesToJson [Sample.tablet]) _ (by decide +kernel)
  · exact Sample.storeJson_reads.roundTrips (devicesToJson [Sample.phone]) _ (by decide +kernel)
  · intro h
    have heq : Sample.tablet.toJson = Sample.phone.toJson := List.mem_singleton.mp h
    have hid : entryId Sample.tablet.toJson = entryId Sample.phone.toJson := by rw [heq]
    exact absurd hid (by decide)

theorem update_keeps_entries_sample :
    ∃ bytes' json, (DeviceUpdate.run Sample.storeJson true {} (.add Sample.phone)
        { file := some (Sample.arrayText [Sample.tabletText]) }).file = some bytes' ∧
      Sample.storeJson.parse bytes' = some json ∧ [Sample.tablet.toJson].Sublist json.items := by
  have hiff := update_keeps_entries_iff Sample.storeJson Sample.storeJson_reads
    (.add Sample.phone) true { file := some (Sample.arrayText [Sample.tabletText]) }
    (Sample.arrayText [Sample.tabletText]) [Sample.tablet.toJson] rfl
    (Sample.storeJson_reads.roundTrips (devicesToJson [Sample.tablet]) _ (by decide +kernel))
  have hother : otherEntries (DeviceUpdate.add Sample.phone).id [Sample.tablet.toJson] =
      [Sample.tablet.toJson] := rfl
  rw [hother] at hiff
  refine hiff.mpr (Or.inr (Or.inl ⟨rfl, ?_, Or.inl rfl⟩))
  intro x hx
  rw [List.mem_singleton.mp hx]
  exact ⟨Sample.tablet, by decide, rfl⟩

end PcbuDesktop
