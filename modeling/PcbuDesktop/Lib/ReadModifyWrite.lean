import Mathlib.Data.List.Perm.Basic
import Mathlib.Data.List.Range
import PcbuDesktop.Lib.Runs

set_option autoImplicit false

/-! # Concurrent read-modify-write calls

A shared cell is read in one atomic section and written in another; a call reads the cell,
computes a new value from what it read and writes that. Between the two sections other calls may
write. Reading may change the representation of the cell (a cache is filled) but not its value.

Calls that interleave in this way can undo each other's work. They do not when each call, at the
moment it writes, would write the same had it read just then (`Undisturbed`): then the cell is
always what the calls give when they are executed one after the other in the order of their
writes (`serial_of_undisturbed`).
-/

namespace ReadModifyWrite

open Runs

/-- A cell with states `σ` that holds a value of type `α`. -/
structure Cell (σ α : Type) where
  view : σ → α
  fill : σ → σ
  commit : α → σ → σ
  view_fill : ∀ s, view (fill s) = view s
  fill_fill : ∀ s, fill (fill s) = fill s
  fill_commit : ∀ a s, fill s = s → fill (commit a s) = commit a s

variable {σ α : Type}

/-- A call that is not interrupted. -/
def Cell.call (c : Cell σ α) (f : α → α) (s : σ) : σ := c.commit (f (c.view s)) (c.fill s)

/-- The calls one after the other. -/
def Cell.serial (c : Cell σ α) (upd : Nat → α → α) (order : List Nat) (s : σ) : σ :=
  order.foldl (fun s i => c.call (upd i) s) s

/-- The cell, what each call has read, and the calls that have written, in the order of their
writes. -/
structure State (σ α : Type) where
  shared : σ
  snapshot : Nat → Option α := fun _ => none
  order : List Nat := []

inductive Label where
  | read (i : Nat)
  | write (i : Nat)
  deriving DecidableEq, Repr

/-- One atomic section of one of `n` calls. -/
def step (c : Cell σ α) (n : Nat) (upd : Nat → α → α) (s : State σ α) :
    Label → Option (State σ α)
  | .read i =>
      if i < n ∧ (s.snapshot i).isNone then
        some { s with shared := c.fill s.shared
                      snapshot := Function.update s.snapshot i (some (c.view s.shared)) }
      else none
  | .write i =>
      match s.snapshot i with
      | none => none
      | some a =>
          if i ∈ s.order then none
          else some { s with shared := c.commit (upd i a) s.shared, order := s.order ++ [i] }

/-- A call that writes would write the same if it read now. -/
def Undisturbed (c : Cell σ α) (upd : Nat → α → α) (s : State σ α) : Label → Prop
  | .read _ => True
  | .write i => ∀ a, s.snapshot i = some a → upd i a = upd i (c.view s.shared)

section

variable {c : Cell σ α} {n : Nat} {upd : Nat → α → α} {s s' : State σ α} {s₀ : σ}

theorem Cell.call_fill (c : Cell σ α) (f : α → α) (s : σ) : c.call f (c.fill s) = c.call f s := by
  unfold Cell.call
  rw [c.view_fill, c.fill_fill]

theorem Cell.fill_call (c : Cell σ α) (f : α → α) (s : σ) : c.fill (c.call f s) = c.call f s :=
  c.fill_commit _ _ (c.fill_fill s)

theorem Cell.serial_concat (c : Cell σ α) (upd : Nat → α → α) (order : List Nat) (i : Nat) (s : σ) :
    c.serial upd (order ++ [i]) s = c.call (upd i) (c.serial upd order s) := by
  unfold Cell.serial
  rw [List.foldl_append]
  rfl

theorem Cell.fill_serial (c : Cell σ α) (upd : Nat → α → α) {order : List Nat} (h : order ≠ [])
    (s : σ) : c.fill (c.serial upd order s) = c.serial upd order s := by
  rw [← List.dropLast_concat_getLast h, c.serial_concat, c.fill_call]

/-- What a step can do. -/
theorem step_cases {l : Label} (h : step c n upd s l = some s') :
    (∃ i, l = .read i ∧ i < n ∧ s' = { s with
      shared := c.fill s.shared
      snapshot := Function.update s.snapshot i (some (c.view s.shared)) }) ∨
    (∃ i a, l = .write i ∧ s.snapshot i = some a ∧ i ∉ s.order ∧ s' = { s with
      shared := c.commit (upd i a) s.shared, order := s.order ++ [i] }) := by
  cases l with
  | read i =>
      simp only [step] at h
      split at h
      · next hi => exact Or.inl ⟨i, rfl, hi.1, by simpa using h.symm⟩
      · cases h
  | write i =>
      simp only [step] at h
      split at h
      · cases h
      · next a ha =>
          split at h
          · cases h
          · next hi => exact Or.inr ⟨i, a, rfl, ha, hi, by simpa using h.symm⟩

/-- The calls that have written are distinct and have read before; the cell is what they give in
their order, except that a read may have changed its representation. -/
structure Inv (c : Cell σ α) (n : Nat) (upd : Nat → α → α) (s₀ : σ) (s : State σ α) : Prop where
  nodup : s.order.Nodup
  read : ∀ i a, s.snapshot i = some a → i < n
  written : ∀ i ∈ s.order, ∃ a, s.snapshot i = some a
  filled : (∃ i a, s.snapshot i = some a) → c.fill s.shared = s.shared
  fresh : (∀ i, s.snapshot i = none) → s.shared = s₀
  serial : s.shared = c.serial upd s.order s₀ ∨ s.shared = c.fill (c.serial upd s.order s₀)

theorem inv_start : Inv c n upd s₀ ⟨s₀, fun _ => none, []⟩ where
  nodup := List.nodup_nil
  read := fun i a h => by cases h
  written := fun i h => by cases h
  filled := fun ⟨i, a, h⟩ => by cases h
  fresh := fun _ => rfl
  serial := Or.inl rfl

theorem Inv.read_step (h : Inv c n upd s₀ s) {i : Nat} (hi : i < n) :
    Inv c n upd s₀ { s with
      shared := c.fill s.shared
      snapshot := Function.update s.snapshot i (some (c.view s.shared)) } where
  nodup := h.nodup
  read := by
    intro j a hj
    rcases update_eq_some hj with ⟨rfl, -⟩ | ⟨-, hj⟩
    · exact hi
    · exact h.read j a hj
  written := by
    intro j hj
    by_cases hji : j = i
    · exact ⟨c.view s.shared, by rw [hji]; exact Function.update_self ..⟩
    · obtain ⟨a, ha⟩ := h.written j hj
      exact ⟨a, by rw [← ha]; exact Function.update_of_ne hji ..⟩
  filled := fun _ => c.fill_fill _
  fresh := by
    intro hnone
    have hself : Function.update s.snapshot i (some (c.view s.shared)) i = none := hnone i
    rw [Function.update_self] at hself
    cases hself
  serial := by
    -- a second fill changes nothing
    refine Or.inr ?_
    rcases h.serial with hs | hs
    · show c.fill s.shared = _
      rw [hs]
    · show c.fill s.shared = _
      rw [hs, c.fill_fill]

theorem Inv.write_step (h : Inv c n upd s₀ s) {i : Nat} {a : α} (ha : s.snapshot i = some a)
    (hi : i ∉ s.order) (hsame : upd i a = upd i (c.view s.shared)) :
    Inv c n upd s₀ { s with shared := c.commit (upd i a) s.shared, order := s.order ++ [i] } where
  nodup := by
    show (s.order ++ [i]).Nodup
    rw [List.nodup_append]
    refine ⟨h.nodup, by simp, ?_⟩
    rintro j hj k hk rfl
    exact hi (by rw [List.mem_singleton] at hk; rwa [← hk])
  read := h.read
  written := by
    intro j hj
    rcases List.mem_append.mp hj with hj | hj
    · exact h.written j hj
    · rw [List.mem_singleton] at hj
      exact ⟨a, by rw [hj]; exact ha⟩
  filled := fun _ => c.fill_commit _ _ (h.filled ⟨i, a, ha⟩)
  fresh := fun hnone => by rw [hnone i] at ha; cases ha
  serial := by
    -- the write is the whole call, executed now
    have hcall : c.commit (upd i a) s.shared = c.call (upd i) s.shared := by
      unfold Cell.call
      rw [h.filled ⟨i, a, ha⟩, hsame]
    refine Or.inl ?_
    show c.commit (upd i a) s.shared = _
    rw [hcall, c.serial_concat]
    rcases h.serial with hs | hs
    · rw [hs]
    · rw [hs, c.call_fill]

theorem inv_step {l : Label} (h : Inv c n upd s₀ s) (hu : Undisturbed c upd s l)
    (hstep : step c n upd s l = some s') : Inv c n upd s₀ s' := by
  rcases step_cases hstep with ⟨i, rfl, hi, rfl⟩ | ⟨i, a, rfl, ha, hi, rfl⟩
  · exact h.read_step hi
  · exact h.write_step ha hi (hu a ha)

/-- Once every call has written, the order of the writes is a permutation of the calls, and the
cell is what they give in that order. -/
theorem Inv.complete (h : Inv c n upd s₀ s) (hall : ∀ i < n, i ∈ s.order) :
    s.order.Perm (List.range n) ∧ s.shared = c.serial upd s.order s₀ := by
  have hmem : ∀ i, i ∈ s.order ↔ i ∈ List.range n := by
    intro i
    rw [List.mem_range]
    constructor
    · intro hi
      obtain ⟨a, ha⟩ := h.written i hi
      exact h.read i a ha
    · exact hall i
  refine ⟨(List.perm_ext_iff_of_nodup h.nodup List.nodup_range).mpr hmem, ?_⟩
  by_cases hne : s.order = []
  · -- no calls at all
    have hnone : ∀ i, s.snapshot i = none := by
      intro i
      by_contra hsome
      obtain ⟨a, ha⟩ := Option.ne_none_iff_exists'.mp hsome
      have := hall i (h.read i a ha)
      rw [hne] at this
      cases this
    rw [hne]
    exact h.fresh hnone
  · rcases h.serial with hs | hs
    · exact hs
    · rw [hs, c.fill_serial upd hne]

/-- **Undisturbed calls are serial.** -/
theorem serial_of_undisturbed {ls : List Label}
    (hu : Along (step c n upd) (Undisturbed c upd) ⟨s₀, fun _ => none, []⟩ ls)
    (h : exec (step c n upd) ⟨s₀, fun _ => none, []⟩ ls = some s) : Inv c n upd s₀ s :=
  exec_inv_along (fun _ _ _ hi hp hs => inv_step hi hp hs) inv_start hu h

end

end ReadModifyWrite
