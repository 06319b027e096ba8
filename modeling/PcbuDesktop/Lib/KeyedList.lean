import Mathlib.Data.List.Basic
import Mathlib.Data.List.Nodup

set_option autoImplicit false

/-! # Ordered maps as lists

Entries with a key, in the order of their insertion. `insert` replaces the entry with the same
key and puts the new one at the end, `insertSorted` puts it in the order of the keys, `erase` drops
an entry, `eraseWhere` all that meet a test; what is not touched keeps its place. `OrderedMap`
carries the proof that the keys are distinct.
-/

namespace KeyedList

variable {α κ : Type}

theorem keys_filter_nodup {key : α → κ} (p : α → Bool) {l : List α} (h : (l.map key).Nodup) :
    ((l.filter p).map key).Nodup :=
  h.sublist (List.filter_sublist.map key)

/-- Put an entry before the first one that it precedes. -/
def place (key : α → κ) (precedes : κ → κ → Bool) (a : α) : List α → List α
  | [] => [a]
  | b :: l => if precedes (key a) (key b) then a :: b :: l else b :: place key precedes a l

theorem place_perm (key : α → κ) (precedes : κ → κ → Bool) (a : α) (l : List α) :
    (place key precedes a l).Perm (a :: l) := by
  induction l with
  | nil => exact List.Perm.refl _
  | cons b l ih =>
      unfold place
      by_cases h : precedes (key a) (key b) = true
      · rw [if_pos h]
      · rw [if_neg h]
        exact (ih.cons b).trans (List.Perm.swap a b l)

variable [DecidableEq κ]

section

variable (key : α → κ)

def erase (k : κ) (l : List α) : List α := l.filter (fun a => key a ≠ k)

def insert (a : α) (l : List α) : List α := erase key (key a) l ++ [a]

variable {key}

theorem mem_erase {k : κ} {l : List α} {a : α} : a ∈ erase key k l ↔ a ∈ l ∧ key a ≠ k := by
  simp [erase]

theorem mem_insert {l : List α} {a b : α} :
    b ∈ insert key a l ↔ (b ∈ l ∧ key b ≠ key a) ∨ b = a := by
  rw [insert, List.mem_append, mem_erase, List.mem_singleton]

theorem keys_insert_nodup (a : α) {l : List α} (h : (l.map key).Nodup) :
    ((insert key a l).map key).Nodup := by
  unfold insert
  rw [List.map_append, List.nodup_append]
  refine ⟨keys_filter_nodup _ h, by simp, ?_⟩
  rintro k hk k' hk' rfl
  obtain ⟨b, hb, rfl⟩ := List.mem_map.mp hk
  rw [List.map_singleton, List.mem_singleton] at hk'
  exact (mem_erase.mp hb).2 hk'

/-- `map[key] = …` on a map that keeps its entries in the order of their keys. -/
def insertSorted (key : α → κ) (precedes : κ → κ → Bool) (a : α) (l : List α) : List α :=
  place key precedes a (erase key (key a) l)

theorem mem_insertSorted {precedes : κ → κ → Bool} {l : List α} {a b : α} :
    b ∈ insertSorted key precedes a l ↔ b = a ∨ (b ∈ l ∧ key b ≠ key a) := by
  unfold insertSorted
  rw [(place_perm key precedes a _).mem_iff, List.mem_cons, mem_erase]

theorem keys_insertSorted_nodup (precedes : κ → κ → Bool) (a : α) {l : List α}
    (h : (l.map key).Nodup) : ((insertSorted key precedes a l).map key).Nodup := by
  have hperm := (place_perm key precedes a (erase key (key a) l)).map key
  unfold insertSorted
  rw [hperm.nodup_iff, List.map_cons, List.nodup_cons]
  refine ⟨?_, keys_filter_nodup _ h⟩
  intro hmem
  obtain ⟨b, hb, hkey⟩ := List.mem_map.mp hmem
  exact (mem_erase.mp hb).2 hkey

/-- The entry with a key. -/
def lookup (key : α → κ) (k : κ) (l : List α) : Option α := l.find? (fun a => key a = k)

theorem lookup_cons (a : α) (l : List α) (k : κ) :
    lookup key k (a :: l) = if key a = k then some a else lookup key k l := by
  unfold lookup
  by_cases h : key a = k
  · rw [if_pos h, List.find?_cons_of_pos (by simpa using h)]
  · rw [if_neg h, List.find?_cons_of_neg (by simpa using h)]

theorem lookup_eq_none {l : List α} {k : κ} : lookup key k l = none ↔ k ∉ l.map key := by
  unfold lookup
  rw [List.find?_eq_none]
  simp [eq_comm]

theorem lookup_eq_some {l : List α} (h : (l.map key).Nodup) {k : κ} {a : α} :
    lookup key k l = some a ↔ a ∈ l ∧ key a = k := by
  constructor
  · intro hfind
    exact ⟨List.mem_of_find?_eq_some hfind, by simpa using List.find?_some hfind⟩
  · rintro ⟨hmem, rfl⟩
    cases hfind : lookup key (key a) l with
    | none =>
        have hnone := List.find?_eq_none.mp hfind a hmem
        exact absurd (decide_eq_true rfl) hnone
    | some b =>
        have hb : key b = key a := by simpa using List.find?_some hfind
        rw [List.inj_on_of_nodup_map h (List.mem_of_find?_eq_some hfind) hmem hb]

theorem lookup_insertSorted {precedes : κ → κ → Bool} {l : List α} (h : (l.map key).Nodup) (a : α)
    (k : κ) : lookup key k (insertSorted key precedes a l) =
      if k = key a then some a else lookup key k l := by
  ext b
  rw [lookup_eq_some (keys_insertSorted_nodup precedes a h), mem_insertSorted]
  by_cases hk : k = key a
  · rw [if_pos hk]
    constructor
    · rintro ⟨rfl | ⟨-, hne⟩, hb⟩
      · rfl
      · exact absurd (hb.trans hk) hne
    · intro hab
      cases hab
      exact ⟨Or.inl rfl, hk.symm⟩
  · rw [if_neg hk, lookup_eq_some h]
    constructor
    · rintro ⟨rfl | ⟨hmem, -⟩, hb⟩
      · exact absurd hb.symm hk
      · exact ⟨hmem, hb⟩
    · rintro ⟨hmem, rfl⟩
      exact ⟨Or.inr ⟨hmem, hk⟩, rfl⟩

end

/-- Entries with distinct keys. -/
structure OrderedMap (key : α → κ) where
  entries : List α
  unique : (entries.map key).Nodup

namespace OrderedMap

variable {key : α → κ}

def empty : OrderedMap key := ⟨[], List.nodup_nil⟩

def insert (m : OrderedMap key) (a : α) : OrderedMap key :=
  ⟨KeyedList.insert key a m.entries, keys_insert_nodup a m.unique⟩

def erase (m : OrderedMap key) (k : κ) : OrderedMap key :=
  ⟨KeyedList.erase key k m.entries, keys_filter_nodup _ m.unique⟩

def eraseWhere (m : OrderedMap key) (p : α → Bool) : OrderedMap key :=
  ⟨m.entries.filter (fun a => !p a), keys_filter_nodup _ m.unique⟩

def insertSorted (precedes : κ → κ → Bool) (m : OrderedMap key) (a : α) : OrderedMap key :=
  ⟨KeyedList.insertSorted key precedes a m.entries, keys_insertSorted_nodup precedes a m.unique⟩

/-- The entry with a key. -/
def lookup (m : OrderedMap key) (k : κ) : Option α := KeyedList.lookup key k m.entries

theorem lookup_insertSorted (precedes : κ → κ → Bool) (m : OrderedMap key) (a : α) (k : κ) :
    (m.insertSorted precedes a).lookup k = if k = key a then some a else m.lookup k :=
  KeyedList.lookup_insertSorted m.unique a k

@[simp] theorem lookup_empty (k : κ) : (empty : OrderedMap key).lookup k = none := rfl

end OrderedMap

end KeyedList
