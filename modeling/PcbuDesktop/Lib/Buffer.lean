import Mathlib.Data.List.Basic

set_option autoImplicit false

/-! # Checked access to memory regions

A region of memory is the list of its bytes; its length is the number of bytes that may be
accessed. Code that works on regions is an `Except Stop` computation: an access outside a region
is a `fault`, which no caller can observe or handle, while `failed` is the failure value the
code itself returns. Memory safety is that a computation is never `fault`.
-/

namespace Buffer

variable {α : Type}

inductive Stop where
  | fault
  | failed
  deriving DecidableEq, Repr

/-- `len` bytes from position `off`. -/
def read (region : List α) (off len : Nat) : Except Stop (List α) :=
  if off + len ≤ region.length then .ok ((region.drop off).take len) else .error .fault

/-- Overwrite the bytes from position `off` on. -/
def write (region : List α) (off : Nat) (data : List α) : Except Stop (List α) :=
  if off + data.length ≤ region.length then
    .ok (region.take off ++ data ++ region.drop (off + data.length))
  else .error .fault

/-- The elements up to the next `c`, which is read too. -/
def readUntil [DecidableEq α] (c : α) : List α → Except Stop (List α)
  | [] => .error .fault
  | x :: region =>
      if x = c then .ok []
      else match readUntil c region with
        | .ok xs => .ok (x :: xs)
        | .error e => .error e

/-- The code returns its failure value where the value is missing. -/
def orFail {β : Type} : Option β → Except Stop β
  | some b => .ok b
  | none => .error .failed

@[simp] theorem orFail_some {β : Type} (b : β) : orFail (some b) = .ok b := rfl

@[simp] theorem orFail_none {β : Type} : orFail (none : Option β) = .error .failed := rfl

@[simp] theorem ok_bind {β γ : Type} (b : β) (f : β → Except Stop γ) :
    ((Except.ok b : Except Stop β) >>= f) = f b := rfl

@[simp] theorem error_bind {β γ : Type} (e : Stop) (f : β → Except Stop γ) :
    ((Except.error e : Except Stop β) >>= f) = .error e := rfl

theorem read_of_le {region : List α} {off len : Nat} (h : off + len ≤ region.length) :
    read region off len = .ok ((region.drop off).take len) := by
  unfold read
  rw [if_pos h]

theorem read_left (a b : List α) : read (a ++ b) 0 a.length = .ok a := by
  rw [read_of_le (by rw [List.length_append]; omega), List.drop_zero, List.take_left]

theorem read_all (region : List α) : read region 0 region.length = .ok region := by
  rw [read_of_le (by omega), List.drop_zero, List.take_length]

theorem readUntil_append [DecidableEq α] {c : α} {xs : List α} (h : c ∉ xs) (region : List α) :
    readUntil c (xs ++ c :: region) = .ok xs := by
  induction xs with
  | nil => simp [readUntil]
  | cons x xs ih =>
      have hx : x ≠ c := fun heq => h (by rw [heq]; exact List.mem_cons_self)
      rw [List.cons_append, readUntil, if_neg hx, ih (fun hc => h (List.mem_cons_of_mem x hc))]

/-- Without a `c` the read runs out of the region. -/
theorem readUntil_of_not_mem [DecidableEq α] {c : α} {region : List α} (h : c ∉ region) :
    readUntil c region = .error .fault := by
  induction region with
  | nil => rfl
  | cons x region ih =>
      have hx : x ≠ c := fun heq => h (by rw [heq]; exact List.mem_cons_self)
      rw [readUntil, if_neg hx, ih (fun hc => h (List.mem_cons_of_mem x hc))]

/-- Writing behind what has been written before: the written part grows, the rest of the region
shrinks. -/
theorem write_append (a region data : List α) {off : Nat} (hoff : off = a.length)
    (h : data.length ≤ region.length) :
    write (a ++ region) off data = .ok ((a ++ data) ++ region.drop data.length) := by
  subst hoff
  unfold write
  rw [if_pos (by rw [List.length_append]; omega), List.take_left]
  rw [← List.drop_drop, List.drop_left]

theorem write_zero {region data : List α} (h : data.length ≤ region.length) :
    write region 0 data = .ok (data ++ region.drop data.length) :=
  write_append [] region data rfl h

end Buffer
