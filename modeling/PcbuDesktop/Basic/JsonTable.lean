import Mathlib.Data.List.Nodup
import PcbuDesktop.Basic.Text

set_option autoImplicit false

/-! # JSON libraries given by a table

A finite table of values and their texts is a JSON library that prints and parses exactly these.
It round-trips when no text stands in the table twice.
-/

namespace PcbuDesktop

/-! ## Comparing values -/

mutual

def Json.beq : Json → Json → Bool
  | .null, .null => true
  | .bool a, .bool b => a == b
  | .int a, .int b => a == b
  | .float a, .float b => a == b
  | .str a, .str b => a == b
  | .arr a, .arr b => Json.beqList a b
  | .obj a, .obj b => Json.beqFields a b
  | _, _ => false

def Json.beqList : List Json → List Json → Bool
  | [], [] => true
  | a :: as, b :: bs => Json.beq a b && Json.beqList as bs
  | _, _ => false

def Json.beqField : String × Json → String × Json → Bool
  | (k, a), (l, b) => k == l && Json.beq a b

def Json.beqFields : List (String × Json) → List (String × Json) → Bool
  | [], [] => true
  | a :: as, b :: bs => Json.beqField a b && Json.beqFields as bs
  | _, _ => false

end

mutual

theorem Json.eq_of_beq : ∀ {a b : Json}, Json.beq a b = true → a = b
  | .null, b, h => by cases b <;> first | rfl | (simp [Json.beq] at h)
  | .bool a, b, h => by cases b <;> simp_all [Json.beq]
  | .int a, b, h => by cases b <;> simp_all [Json.beq]
  | .float a, b, h => by cases b <;> simp_all [Json.beq]
  | .str a, b, h => by cases b <;> simp_all [Json.beq]
  | .arr a, b, h => by
      cases b with
      | arr b =>
          rw [Json.beq] at h
          rw [Json.eq_of_beqList h]
      | _ => simp [Json.beq] at h
  | .obj a, b, h => by
      cases b with
      | obj b =>
          rw [Json.beq] at h
          rw [Json.eq_of_beqFields h]
      | _ => simp [Json.beq] at h

theorem Json.eq_of_beqList : ∀ {a b : List Json}, Json.beqList a b = true → a = b
  | [], [], _ => rfl
  | [], _ :: _, h => by simp [Json.beqList] at h
  | _ :: _, [], h => by simp [Json.beqList] at h
  | a :: as, b :: bs, h => by
      rw [Json.beqList, Bool.and_eq_true] at h
      rw [Json.eq_of_beq h.1, Json.eq_of_beqList h.2]

theorem Json.eq_of_beqField : ∀ {a b : String × Json}, Json.beqField a b = true → a = b
  | (k, a), (l, b), h => by
      rw [Json.beqField, Bool.and_eq_true] at h
      have hkey : k = l := by simpa using h.1
      rw [hkey, Json.eq_of_beq h.2]

theorem Json.eq_of_beqFields : ∀ {a b : List (String × Json)}, Json.beqFields a b = true → a = b
  | [], [], _ => rfl
  | [], _ :: _, h => by simp [Json.beqFields] at h
  | _ :: _, [], h => by simp [Json.beqFields] at h
  | a :: as, b :: bs, h => by
      rw [Json.beqFields, Bool.and_eq_true] at h
      rw [Json.eq_of_beqField h.1, Json.eq_of_beqFields h.2]

end

/-! ## Tables -/

def JsonLib.ofTable (table : List (Json × Str)) : JsonLib where
  parse s := (table.find? (fun e => e.2 == s)).map Prod.fst
  dump j := (table.find? (fun e => e.1.beq j)).map Prod.snd

theorem JsonLib.ofTable_roundTrips {table : List (Json × Str)} (h : (table.map Prod.snd).Nodup) :
    (JsonLib.ofTable table).RoundTrips := by
  intro j s hdump
  obtain ⟨e, he, rfl⟩ := Option.map_eq_some_iff.mp hdump
  have hmem : e ∈ table := List.mem_of_find?_eq_some he
  have hj : e.1 = j := Json.eq_of_beq (by simpa using List.find?_some he)
  -- the entry that the text leads to is the same, since texts are distinct
  have hsome : (table.find? (fun e' => e'.2 == e.2)).isSome = true := by
    rw [List.find?_isSome]
    exact ⟨e, hmem, by simp⟩
  obtain ⟨e', he'⟩ := Option.isSome_iff_exists.mp hsome
  have htext : e'.2 = e.2 := by simpa using List.find?_some he'
  have hsame : e' = e := List.inj_on_of_nodup_map h (List.mem_of_find?_eq_some he') hmem htext
  show (table.find? _).map Prod.fst = some j
  rw [he', hsame, ← hj]
  rfl

/-- Where no text is the beginning of another one, a text that is cut is no text. -/
theorem JsonLib.ofTable_parse_take {table : List (Json × Str)}
    (h : ∀ e ∈ table, ∀ e' ∈ table, e'.2 <+: e.2 → e'.2 = e.2) {j : Json} {s : Str}
    (hdump : (JsonLib.ofTable table).dump j = some s) {n : Nat} (hn : n < s.length) :
    (JsonLib.ofTable table).parse (s.take n) = none := by
  obtain ⟨e, he, rfl⟩ := Option.map_eq_some_iff.mp hdump
  have hmem : e ∈ table := List.mem_of_find?_eq_some he
  refine Option.map_eq_none_iff.mpr (List.find?_eq_none.mpr ?_)
  intro e' he' heq
  have hcut : e'.2 = e.2.take n := by simpa using heq
  have hwhole := h e hmem e' he' (by rw [hcut]; exact List.take_prefix n e.2)
  have hlen : (e.2.take n).length = e.2.length := by rw [← hcut, hwhole]
  rw [List.length_take] at hlen
  omega

end PcbuDesktop
