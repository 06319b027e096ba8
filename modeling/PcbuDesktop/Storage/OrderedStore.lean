import Mathlib.Data.List.Infix
import PcbuDesktop.Storage.PairedDevices

set_option autoImplicit false

/-! # The store as an ordered map

One caller, no failing I/O. The abstract store is an ordered map from device ids to devices
(`Lib/KeyedList.lean`); every operation of `PairedDevicesStorage` does to the file and the cache
what its abstract counterpart does to the map.
-/

namespace PcbuDesktop

open KeyedList

/-- The paired devices, with distinct ids, in the order in which they were added. -/
abbrev DeviceMap := OrderedMap PairedDevice.id

inductive StoreOp where
  | addDevice (device : PairedDevice)
  | removeDevice (id : Str)
  | removeDevicesWithMethod (method : PairingMethod)
  | invalidateCache
  | getDevices

/-- The operation as the program executes it, when no I/O fails. -/
def StoreOp.run (lib : JsonLib) (op : StoreOp) (s : Store) : Store :=
  match op with
  | .addDevice device => PcbuDesktop.addDevice lib true {} device s
  | .removeDevice id => PcbuDesktop.removeDevice lib true {} id s
  | .removeDevicesWithMethod method => PcbuDesktop.removeDevicesWithMethod lib true {} method s
  | .invalidateCache => PcbuDesktop.invalidateCache s
  | .getDevices => (PcbuDesktop.getDevices lib true s).2

/-- What the operation is for. -/
def StoreOp.onMap (op : StoreOp) (m : DeviceMap) : DeviceMap :=
  match op with
  | .addDevice device => m.insert device
  | .removeDevice id => m.erase id
  | .removeDevicesWithMethod method => m.eraseWhere (fun d => d.pairingMethod == method)
  | .invalidateCache => m
  | .getDevices => m

def storeRun (lib : JsonLib) (ops : List StoreOp) (s : Store) : Store :=
  ops.foldl (fun s op => op.run lib s) s

def mapRun (ops : List StoreOp) (m : DeviceMap) : DeviceMap :=
  ops.foldl (fun m op => op.onMap m) m

/-- The store holds the map: the file is read as its entries, and so is a cache that is filled. -/
structure Holds (lib : JsonLib) (m : DeviceMap) (s : Store) : Prop where
  file : load lib (s.readBytes true) = m.entries
  cache : s.cache = [] ∨ s.cache = m.entries

section

variable {lib : JsonLib} {m m' : DeviceMap} {s : Store}

theorem Holds.getDevices_fst (h : Holds lib m s) : (getDevices lib true s).1 = m.entries := by
  by_cases hc : s.cache = []
  · rw [getDevices_of_empty hc]
    exact h.file
  · rw [getDevices_of_cache hc]
    exact h.cache.resolve_left hc

theorem Holds.getDevices_snd (h : Holds lib m s) : Holds lib m (getDevices lib true s).2 := by
  by_cases hc : s.cache = []
  · rw [getDevices_of_empty hc]
    exact ⟨h.file, Or.inr h.file⟩
  · rw [getDevices_of_cache hc]
    exact h

/-- A save replaces file and cache by the saved list. -/
theorem holds_saveDevices (hl : lib.Reads) (hw : Writable lib m'.entries) (s : Store) :
    Holds lib m' (saveDevices lib {} m'.entries s) := by
  obtain ⟨text, htext⟩ := hw.printed
  have hsaved : saveDevices lib {} m'.entries s = { file := some text, cache := m'.entries } := by
    unfold saveDevices
    rw [if_neg (by simp), htext]
  rw [hsaved]
  exact ⟨hw.load_eq hl htext, Or.inr rfl⟩

theorem Holds.run (hl : lib.Reads) (op : StoreOp) (hw : Writable lib (op.onMap m).entries)
    (h : Holds lib m s) : Holds lib (op.onMap m) (op.run lib s) := by
  have hget := h.getDevices_fst
  cases op with
  | addDevice device =>
      show Holds lib _ (saveDevices lib {} (insert _ device (getDevices lib true s).1) _)
      rw [hget]
      exact holds_saveDevices hl hw _
  | removeDevice id =>
      show Holds lib _ (saveDevices lib {} (erase _ id (getDevices lib true s).1) _)
      rw [hget]
      exact holds_saveDevices hl hw _
  | removeDevicesWithMethod method =>
      show Holds lib _ (saveDevices lib {} ((getDevices lib true s).1.filter _) _)
      rw [hget]
      exact holds_saveDevices hl hw _
  | invalidateCache => exact ⟨h.file, Or.inl rfl⟩
  | getDevices => exact h.getDevices_snd

theorem Holds.storeRun (hl : lib.Reads) (h : Holds lib m s) (ops : List StoreOp)
    (hw : ∀ before, before <+: ops → Writable lib (mapRun before m).entries) :
    Holds lib (mapRun ops m) (storeRun lib ops s) := by
  induction ops generalizing m s with
  | nil => exact h
  | cons op ops ih =>
      have hop : Writable lib (op.onMap m).entries := hw [op] (List.prefix_append [op] ops)
      refine ih (h.run hl op hop) ?_
      intro before hbefore
      exact hw (op :: before) (List.cons_prefix_cons.mpr ⟨rfl, hbefore⟩)

end

/-- A store as a process finds it: nothing cached, and a file that is absent or was written by
`SaveDevices` for the entries of `m`. -/
def Found (lib : JsonLib) (m : DeviceMap) (s : Store) : Prop :=
  s.cache = [] ∧
    ((s.file = none ∧ m = .empty) ∨
      (Writable lib m.entries ∧ ∃ text, lib.dump (devicesToJson m.entries) = some text ∧
        s.file = some text))

theorem Found.holds {lib : JsonLib} {m : DeviceMap} {s : Store} (hl : lib.Reads)
    (h : Found lib m s) : Holds lib m s := by
  obtain ⟨hcache, ⟨hfile, rfl⟩ | ⟨hw, text, hdump, hfile⟩⟩ := h
  · refine ⟨?_, Or.inl hcache⟩
    unfold Store.readBytes
    rw [hfile]
    rfl
  · refine ⟨?_, Or.inl hcache⟩
    unfold Store.readBytes
    rw [hfile]
    exact hw.load_eq hl hdump

/-- **The store refines an ordered map.** After any sequence of operations `GetDevices` returns
the entries of the map to which the abstract operations were applied, and the cache is empty or
what a `Load` of the file gives. -/
theorem store_refines_map (lib : JsonLib) (hl : lib.Reads) (m : DeviceMap) (s : Store)
    (hs : Found lib m s) (ops : List StoreOp)
    (hw : ∀ before, before <+: ops → Writable lib (mapRun before m).entries) :
    (getDevices lib true (storeRun lib ops s)).1 = (mapRun ops m).entries ∧
      ((storeRun lib ops s).cache = [] ∨
        (storeRun lib ops s).cache = load lib ((storeRun lib ops s).readBytes true)) := by
  have h := (hs.holds hl).storeRun hl ops hw
  refine ⟨h.getDevices_fst, ?_⟩
  rw [h.file]
  exact h.cache

namespace Sample

/-- The phone is added, then the tablet; the phone is added again and goes to the end. -/
def storeOps : List StoreOp :=
  [.addDevice phone, .addDevice tablet, .invalidateCache, .addDevice phone, .getDevices,
    .removeDevice (str "t"), .removeDevicesWithMethod .tcp]

end Sample

theorem store_refines_map_sample :
    (getDevices Sample.storeJson true (storeRun Sample.storeJson Sample.storeOps {})).1 =
      [Sample.phone] := by
  have hw : ∀ before, before <+: Sample.storeOps →
      Writable Sample.storeJson (mapRun before .empty).entries := by
    intro before hbefore
    apply Writable.of_test
    have hall : ∀ l ∈ Sample.storeOps.inits, ((Sample.storeJson.dump
        (devicesToJson (mapRun l .empty).entries)).isSome && (mapRun l .empty).entries.all
          (fun d => d.sshServers.all (fun s => decide s.Loadable))) = true := by
      decide +kernel
    exact hall before (List.mem_inits _ _ |>.mpr hbefore)
  have h := store_refines_map Sample.storeJson Sample.storeJson_reads .empty {}
    ⟨rfl, Or.inl ⟨rfl, rfl⟩⟩ Sample.storeOps hw
  rw [h.1]
  decide +kernel

end PcbuDesktop
