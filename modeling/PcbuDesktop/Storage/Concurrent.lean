import Mathlib.Data.List.Permutation
import PcbuDesktop.Lib.ReadModifyWrite
import PcbuDesktop.Storage.Updates

set_option autoImplicit false

/-! # Concurrent updates of the store

The client threads of a pairing server and the user interface call `AddDevice` and `RemoveDevice`
at the same time. `GetDevices` and `SaveDevices` each hold `g_Mutex`, but a call releases it in
between: it is a read-modify-write on a cell (`Lib/ReadModifyWrite.lean`) whose value is the list
that `GetDevices` returns. So the calls are serial as long as nobody else changes the devices of
others between a call's two sections, and otherwise an update can be lost.
-/

namespace PcbuDesktop

open KeyedList ReadModifyWrite Runs

/-- A store is as a read leaves it exactly when an empty cache stands for an empty list. -/
theorem getDevices_snd_eq_iff {lib : JsonLib} {s : Store} :
    (getDevices lib true s).2 = s ↔ (s.cache = [] → load lib (s.readBytes true) = []) := by
  by_cases hc : s.cache = []
  · rw [getDevices_of_empty hc true]
    constructor
    · intro h _
      have hcache := congrArg Store.cache h
      rwa [hc] at hcache
    · intro h
      dsimp only
      rw [h hc, ← hc]
  · rw [getDevices_of_cache hc true]
    exact ⟨fun _ h => absurd h hc, fun _ => rfl⟩

/-- The store as a cell: `GetDevices` reads it, `SaveDevices` writes it, and no I/O fails. -/
def deviceCell (lib : JsonLib) (hl : lib.Reads) : Cell Store (List PairedDevice) where
  view := fun s => (getDevices lib true s).1
  fill := fun s => (getDevices lib true s).2
  commit := fun devices s => saveDevices lib {} devices s
  view_fill := by
    intro s
    by_cases hc : s.cache = []
    · rw [getDevices_of_empty hc true]
      by_cases hload : load lib (s.readBytes true) = []
      · rw [getDevices_of_empty hload true]
        rfl
      · rw [getDevices_of_cache hload true]
    · rw [getDevices_of_cache hc true, getDevices_of_cache hc true]
  fill_fill := by
    intro s
    by_cases hc : s.cache = []
    · rw [getDevices_of_empty hc true]
      exact getDevices_snd_eq_iff.mpr (fun h => h)
    · rw [getDevices_of_cache hc true, getDevices_of_cache hc true]
  fill_commit := by
    intro devices s hs
    rw [getDevices_snd_eq_iff] at hs ⊢
    rw [saveDevices_opens ⟨rfl, Or.inr rfl⟩]
    cases hdump : lib.dump (devicesToJson devices) with
    | none => exact hs
    | some text =>
        intro (hc : devices = [])
        show load lib text = []
        rw [load_dump hl hdump, hc]
        rfl

/-! ## Calls -/

/-- The updates one after the other. -/
def serialUpdates (lib : JsonLib) (us : List DeviceUpdate) (s : Store) : Store :=
  us.foldl (fun s u => u.run lib true {} s) s

/-- The `i`-th of the concurrent calls. -/
def callAt (calls : List DeviceUpdate) (i : Nat) : DeviceUpdate := calls.getD i (.remove [])

/-- One section of one of the calls. -/
def updateStep (lib : JsonLib) (hl : lib.Reads) (calls : List DeviceUpdate) :
    State Store (List PairedDevice) → Label → Option (State Store (List PairedDevice)) :=
  step (deviceCell lib hl) calls.length (fun i => (callAt calls i).apply)

/-- When a call saves, the stored devices with other ids are those it has read. -/
def OthersUnchanged (lib : JsonLib) (calls : List DeviceUpdate)
    (s : State Store (List PairedDevice)) : Label → Prop
  | .read _ => True
  | .write i => ∀ devices, s.snapshot i = some devices →
      erase PairedDevice.id (callAt calls i).id devices =
        erase PairedDevice.id (callAt calls i).id (getDevices lib true s.shared).1

/-- When a call saves, `dump` prints the list. -/
def Printed (lib : JsonLib) (calls : List DeviceUpdate) (s : State Store (List PairedDevice)) :
    Label → Prop
  | .read _ => True
  | .write i => ∀ devices, s.snapshot i = some devices →
      ∃ text, lib.dump (devicesToJson ((callAt calls i).apply devices)) = some text

theorem DeviceUpdate.apply_eq (u : DeviceUpdate) {devices devices' : List PairedDevice}
    (h : erase PairedDevice.id u.id devices = erase PairedDevice.id u.id devices') :
    u.apply devices = u.apply devices' := by
  cases u with
  | add device =>
      show erase PairedDevice.id device.id devices ++ [device] =
        erase PairedDevice.id device.id devices' ++ [device]
      rw [show erase PairedDevice.id device.id devices = _ from h]
      rfl
  | remove id => exact h

theorem undisturbed_of_othersUnchanged {lib : JsonLib} {hl : lib.Reads} {calls : List DeviceUpdate}
    {s : State Store (List PairedDevice)} {l : Label} (h : OthersUnchanged lib calls s l) :
    Undisturbed (deviceCell lib hl) (fun i => (callAt calls i).apply) s l := by
  cases l with
  | read i => exact trivial
  | write i =>
      intro devices hd
      exact (callAt calls i).apply_eq (h devices hd)

theorem map_callAt_range (calls : List DeviceUpdate) :
    (List.range calls.length).map (callAt calls) = calls := by
  apply List.ext_getElem
  · simp
  · intro i h₁ h₂
    simp [callAt, h₂]

theorem serial_eq_serialUpdates (lib : JsonLib) (hl : lib.Reads) (calls : List DeviceUpdate)
    (order : List Nat) (s : Store) :
    (deviceCell lib hl).serial (fun i => (callAt calls i).apply) order s =
      serialUpdates lib (order.map (callAt calls)) s := by
  unfold Cell.serial serialUpdates
  rw [List.foldl_map]
  congr 1
  funext s i
  exact (DeviceUpdate.run_eq lib true {} (callAt calls i) s).symm

/-! ## What becomes of a device -/

/-- The updates on a list, one after the other. -/
def foldUpdates (us : List DeviceUpdate) (devices : List PairedDevice) : List PairedDevice :=
  us.foldl (fun devices u => u.apply devices) devices

/-- A device with this id is in the list. -/
def HasId (id : Str) (devices : List PairedDevice) : Prop := ∃ d ∈ devices, d.id = id

theorem HasId.apply {id : Str} {devices : List PairedDevice} {u : DeviceUpdate}
    (hu : u ≠ .remove id) (h : HasId id devices) : HasId id (u.apply devices) := by
  obtain ⟨d, hd, rfl⟩ := h
  cases u with
  | add device =>
      by_cases heq : d.id = device.id
      · exact ⟨device, mem_insert.mpr (Or.inr rfl), heq.symm⟩
      · exact ⟨d, mem_insert.mpr (Or.inl ⟨hd, heq⟩), rfl⟩
  | remove other =>
      refine ⟨d, mem_erase.mpr ⟨hd, ?_⟩, rfl⟩
      intro (heq : d.id = other)
      exact hu (by rw [heq])

theorem hasId_of_apply {id : Str} {devices : List PairedDevice} {u : DeviceUpdate}
    (h : HasId id (u.apply devices)) :
    (∃ d, u = .add d ∧ d.id = id) ∨ (u ≠ .remove id ∧ HasId id devices) := by
  obtain ⟨d, hd, rfl⟩ := h
  cases u with
  | add device =>
      rcases mem_insert.mp hd with ⟨hmem, -⟩ | rfl
      · refine Or.inr ⟨?_, d, hmem, rfl⟩
        intro heq
        cases heq
      · exact Or.inl ⟨d, rfl, rfl⟩
  | remove other =>
      obtain ⟨hmem, hne⟩ := mem_erase.mp hd
      refine Or.inr ⟨?_, d, hmem, rfl⟩
      intro heq
      exact hne (DeviceUpdate.remove.inj heq).symm

/-- A device that is there or is added by some update, and that no update removes, is there
afterwards. -/
theorem hasId_foldUpdates {id : Str} {us : List DeviceUpdate} {devices : List PairedDevice}
    (hadd : HasId id devices ∨ ∃ d, .add d ∈ us ∧ d.id = id) (hrem : .remove id ∉ us) :
    HasId id (foldUpdates us devices) := by
  induction us generalizing devices with
  | nil =>
      rcases hadd with h | ⟨d, hd, -⟩
      · exact h
      · cases hd
  | cons u us ih =>
      refine ih ?_ (fun h => hrem (List.mem_cons_of_mem _ h))
      have hu : u ≠ .remove id := fun h => hrem (by rw [h]; exact List.mem_cons_self)
      rcases hadd with h | ⟨d, hd, hid⟩
      · exact Or.inl (h.apply hu)
      · rcases List.mem_cons.mp hd with rfl | hd
        · exact Or.inl ⟨d, mem_insert.mpr (Or.inr rfl), hid⟩
        · exact Or.inr ⟨d, hd, hid⟩

/-- A device that is not there or is removed by some update, and that no update adds, is not there
afterwards. -/
theorem not_hasId_foldUpdates {id : Str} {us : List DeviceUpdate} {devices : List PairedDevice}
    (hrem : ¬ HasId id devices ∨ .remove id ∈ us) (hadd : ∀ d, .add d ∈ us → d.id ≠ id) :
    ¬ HasId id (foldUpdates us devices) := by
  induction us generalizing devices with
  | nil =>
      rcases hrem with h | h
      · exact h
      · cases h
  | cons u us ih =>
      refine ih ?_ (fun d hd => hadd d (List.mem_cons_of_mem _ hd))
      have hgone : ¬ HasId id devices ∨ u = .remove id → ¬ HasId id (u.apply devices) := by
        intro hor hhas
        rcases hasId_of_apply hhas with ⟨d, rfl, hid⟩ | ⟨hne, hold⟩
        · exact hadd d List.mem_cons_self hid
        · rcases hor with h | h
          · exact h hold
          · exact hne h
      rcases hrem with h | h
      · exact Or.inl (hgone (Or.inl h))
      · rcases List.mem_cons.mp h with h | h
        · exact Or.inl (hgone (Or.inr h.symm))
        · exact Or.inr h

/-- A printed list is the value of the cell afterwards. -/
theorem view_saveDevices {lib : JsonLib} (hl : lib.Reads) {devices : List PairedDevice} {text : Str}
    (hdump : lib.dump (devicesToJson devices) = some text) (s : Store) :
    (getDevices lib true (saveDevices lib {} devices s)).1 = devices := by
  rw [saveDevices_opens ⟨rfl, Or.inr rfl⟩, hdump]
  by_cases hc : devices = []
  · subst hc
    rw [getDevices_of_empty rfl true]
    exact load_dump hl hdump
  · rw [getDevices_of_cache hc true]

/-- As long as every list is printed, the value of the cell is that of the updates in the order of
their saves. -/
theorem view_foldUpdates {lib : JsonLib} {hl : lib.Reads} {calls : List DeviceUpdate} {s₀ : Store}
    {ls : List Label} {w : State Store (List PairedDevice)}
    (hu : Along (updateStep lib hl calls)
      (fun s l => OthersUnchanged lib calls s l ∧ Printed lib calls s l) ⟨s₀, fun _ => none, []⟩ ls)
    (h : exec (updateStep lib hl calls) ⟨s₀, fun _ => none, []⟩ ls = some w) :
    (getDevices lib true w.shared).1 =
      foldUpdates (w.order.map (callAt calls)) (getDevices lib true s₀).1 := by
  refine exec_inv_along (I := fun w => (getDevices lib true w.shared).1 =
    foldUpdates (w.order.map (callAt calls)) (getDevices lib true s₀).1) ?_ rfl hu h
  rintro s l s' hs ⟨hothers, hprinted⟩ hstep
  rcases step_cases hstep with ⟨i, rfl, -, rfl⟩ | ⟨i, devices, rfl, hd, -, rfl⟩
  · exact ((deviceCell lib hl).view_fill s.shared).trans hs
  · obtain ⟨text, htext⟩ := hprinted devices hd
    have happly := (callAt calls i).apply_eq (hothers devices hd)
    show (getDevices lib true (saveDevices lib {} _ s.shared)).1 = _
    rw [view_saveDevices hl htext, happly, hs, List.map_append]
    unfold foldUpdates
    rw [List.foldl_append]
    rfl

/-- **Concurrent updates.** In every run in which, whenever a call saves, the stored devices with
other ids are those it has read, the file and the cache are in the end what the calls give one
after the other in the order of their saves. When every list is printed, an id that some call adds
and none removes is in the list, and one that some call removes and none adds is not. -/
theorem updates_serializable (lib : JsonLib) (hl : lib.Reads) (calls : List DeviceUpdate)
    (s₀ : Store) (ls : List Label) (w : State Store (List PairedDevice))
    (hu : Along (updateStep lib hl calls) (OthersUnchanged lib calls) ⟨s₀, fun _ => none, []⟩ ls)
    (h : exec (updateStep lib hl calls) ⟨s₀, fun _ => none, []⟩ ls = some w)
    (hall : ∀ i < calls.length, i ∈ w.order) :
    (∃ us : List DeviceUpdate, us.Perm calls ∧ w.shared = serialUpdates lib us s₀) ∧
    (Along (updateStep lib hl calls) (Printed lib calls) ⟨s₀, fun _ => none, []⟩ ls →
      ∀ id, ((∃ d, .add d ∈ calls ∧ d.id = id) → .remove id ∉ calls →
          HasId id (getDevices lib true w.shared).1) ∧
        (.remove id ∈ calls → (∀ d, .add d ∈ calls → d.id ≠ id) →
          ¬ HasId id (getDevices lib true w.shared).1)) := by
  have hinv := serial_of_undisturbed
    (along_imp (fun _ _ => undisturbed_of_othersUnchanged) hu) h
  obtain ⟨hperm, hshared⟩ := hinv.complete hall
  have hcalls : (w.order.map (callAt calls)).Perm calls := by
    have hmap := hperm.map (callAt calls)
    rwa [map_callAt_range] at hmap
  refine ⟨⟨w.order.map (callAt calls), hcalls, ?_⟩, ?_⟩
  · rw [hshared, serial_eq_serialUpdates]
  · intro hprinted id
    rw [view_foldUpdates (along_and hu hprinted) h]
    constructor
    · rintro ⟨d, hd, hid⟩ hrem
      exact hasId_foldUpdates (Or.inr ⟨d, hcalls.mem_iff.mpr hd, hid⟩)
        (fun hmem => hrem (hcalls.mem_iff.mp hmem))
    · intro hrem hadd
      exact not_hasId_foldUpdates (Or.inr (hcalls.mem_iff.mpr hrem))
        (fun d hd => hadd d (hcalls.mem_iff.mp hd))

namespace Sample

/-- Two phones are paired at the same time. -/
def pairings : List DeviceUpdate := [.add phone, .add tablet]

def othersUnchanged (s : State Store (List PairedDevice)) : Label → Bool
  | .read _ => true
  | .write i => (s.snapshot i).all (fun devices =>
      erase PairedDevice.id (callAt pairings i).id devices ==
        erase PairedDevice.id (callAt pairings i).id (getDevices storeJson true s.shared).1)

theorem othersUnchanged_spec {s : State Store (List PairedDevice)} {l : Label}
    (h : othersUnchanged s l = true) : OthersUnchanged storeJson pairings s l := by
  cases l with
  | read i => exact trivial
  | write i =>
      intro devices hd
      simp only [othersUnchanged] at h
      rw [hd] at h
      exact eq_of_beq h

end Sample

/-- Both calls read the empty list before either saves: the phone is lost, in whatever order the
calls are thought to have been made. -/
theorem update_lost :
    ((exec (updateStep Sample.storeJson Sample.storeJson_reads Sample.pairings)
      ⟨{}, fun _ => none, []⟩ [.read 0, .read 1, .write 0, .write 1]).map
        (fun w => (w.shared, w.order))) =
      some ({ file := some (Sample.arrayText [Sample.tabletText]), cache := [Sample.tablet] },
        [0, 1]) ∧
    ∀ us : List DeviceUpdate, us.Perm Sample.pairings →
      serialUpdates Sample.storeJson us {} ≠
        { file := some (Sample.arrayText [Sample.tabletText]), cache := [Sample.tablet] } := by
  refine ⟨by decide +kernel, ?_⟩
  intro us hus
  rcases List.perm_pair.mp hus with rfl | rfl
  · decide +kernel
  · decide +kernel

/-- Each call saves before the next one reads. -/
theorem updates_serializable_sample :
    ∃ w, exec (updateStep Sample.storeJson Sample.storeJson_reads Sample.pairings)
        ⟨{}, fun _ => none, []⟩ [.read 1, .write 1, .read 0, .write 0] = some w ∧
      ∃ us : List DeviceUpdate, us.Perm Sample.pairings ∧
        w.shared = serialUpdates Sample.storeJson us {} := by
  have hrun : ((exec (updateStep Sample.storeJson Sample.storeJson_reads Sample.pairings)
      ⟨{}, fun _ => none, []⟩ [.read 1, .write 1, .read 0, .write 0]).map State.order) =
        some [1, 0] := by decide +kernel
  obtain ⟨w, hw, horder⟩ := Option.map_eq_some_iff.mp hrun
  refine ⟨w, hw, (updates_serializable Sample.storeJson Sample.storeJson_reads Sample.pairings {}
    _ w ?_ hw ?_).1⟩
  · exact along_of_check (fun _ _ => Sample.othersUnchanged_spec) (by decide +kernel)
  · rw [horder]
    decide

end PcbuDesktop
