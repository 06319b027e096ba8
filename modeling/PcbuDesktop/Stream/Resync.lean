import PcbuDesktop.Stream.Framing

set_option autoImplicit false

/-! # Finding the header again

The header search of `ReadPacket` keeps one counter. A byte that does not continue the header sets
it to zero and is not looked at again, although it may be the first byte of the header itself. So
the search finds a header behind other bytes exactly when these bytes do not end inside a false
start (`Skipped`).
-/

namespace PcbuDesktop

open BigEndian Polling

/-- The first occurrence of the header in a stream is at position `n`. -/
def FirstHeaderAt (n : Nat) (stream : Bytes) : Prop :=
  headerBE <+: stream.drop n ∧ ∀ i < n, ¬ headerBE <+: stream.drop i

instance (n : Nat) (stream : Bytes) : Decidable (FirstHeaderAt n stream) :=
  inferInstanceAs (Decidable (headerBE <+: stream.drop n ∧ ∀ i < n, ¬ headerBE <+: stream.drop i))

/-- Bytes made of whole false starts: a byte that cannot begin the header, or the beginning of the
header together with the byte that breaks it off. -/
inductive Skipped : Bytes → Prop
  | nil : Skipped []
  | other {b : UInt8} {j : Bytes} : headerBE[0]? ≠ some b → Skipped j → Skipped (b :: j)
  | falseStart {c : Nat} {b : UInt8} {j : Bytes} : 0 < c → c < headerBE.length →
      headerBE[c]? ≠ some b → Skipped j → Skipped (headerBE.take c ++ b :: j)

/-! ## The counter -/

theorem scanByte_of_ne {c : Nat} {b : UInt8} (h : headerBE[c]? ≠ some b) : scanByte c b = 0 :=
  if_neg h

theorem scan_take {c : Nat} (hc : c ≤ headerBE.length) :
    (headerBE.take c).foldl scanByte 0 = c := by
  have hall : ∀ k ≤ headerBE.length, (headerBE.take k).foldl scanByte 0 = k := by decide
  exact hall c hc

/-- Only from zero does the counter go through the whole header: the first byte of the header
stands nowhere else in it. -/
theorem scan_header {c : Nat} (hc : c ≤ headerBE.length) :
    headerBE.foldl scanByte c = headerBE.length ↔ c = 0 := by
  have hall : ∀ k ≤ headerBE.length, (headerBE.foldl scanByte k = headerBE.length ↔ k = 0) := by
    decide
  exact hall c hc

/-- Bytes without the header leave the counter at zero exactly when they are whole false starts.
The bytes matched so far stand in front of the bytes to come. -/
theorem scan_eq_zero_iff_of_matched {c : Nat} {j : Bytes} (hc : c < headerBE.length)
    (hnone : ¬ headerBE <:+: headerBE.take c ++ j) (hscan : j.foldl scanByte c = 0) :
    Skipped (headerBE.take c ++ j) := by
  induction j generalizing c with
  | nil =>
      have hzero : c = 0 := hscan
      subst hzero
      exact Skipped.nil
  | cons b j ih =>
      rw [List.foldl_cons] at hscan
      by_cases hb : headerBE[c]? = some b
      · -- the byte continues the header, which is not complete yet
        have hmore : headerBE.take (c + 1) ++ j = headerBE.take c ++ b :: j := by
          rw [List.take_add_one, hb, List.append_assoc]
          rfl
        have hlt : c + 1 < headerBE.length := by
          by_contra hge
          refine hnone ⟨[], j, ?_⟩
          rw [← hmore, List.take_of_length_le (by omega)]
          rfl
        have hstep : scanByte c b = c + 1 := if_pos hb
        rw [hstep] at hscan
        rw [← hmore] at hnone ⊢
        exact ih hlt hnone hscan
      · -- the byte breaks off the match, and the search begins anew behind it
        rw [scanByte_of_ne hb] at hscan
        have hrest : Skipped j := by
          refine ih (c := 0) (by omega) ?_ hscan
          intro h
          exact hnone (h.trans ⟨headerBE.take c ++ [b], [], by simp⟩)
        by_cases hzero : c = 0
        · subst hzero
          exact Skipped.other hb hrest
        · exact Skipped.falseStart (by omega) hc hb hrest

theorem scan_of_skipped {j : Bytes} (h : Skipped j) : j.foldl scanByte 0 = 0 := by
  induction h with
  | nil => rfl
  | other hb _ ih =>
      rw [List.foldl_cons, scanByte_of_ne hb]
      exact ih
  | falseStart _ hc hb _ ih =>
      rw [List.foldl_append, scan_take (by omega), List.foldl_cons, scanByte_of_ne hb]
      exact ih

theorem scan_eq_zero_iff {j : Bytes} (hnone : ¬ headerBE <:+: j) :
    j.foldl scanByte 0 = 0 ↔ Skipped j := by
  constructor
  · intro hscan
    exact scan_eq_zero_iff_of_matched (c := 0) (by decide) hnone hscan
  · exact scan_of_skipped

/-- The search has counted the whole header at its end exactly when it began to count there. -/
theorem scan_append_header (j : Bytes) :
    (j ++ headerBE).foldl scanByte 0 = headerBE.length ↔ j.foldl scanByte 0 = 0 := by
  rw [List.foldl_append]
  exact scan_header (scan_suffix j).2

/-! ## The first occurrence -/

/-- In front of the first occurrence there is no whole header, not even one that overlaps it. -/
theorem FirstHeaderAt.no_header {j rest gone left : Bytes}
    (h : FirstHeaderAt j.length (j ++ headerBE ++ rest)) (hgone : j ++ headerBE = gone ++ left)
    (hleft : left ≠ []) : ¬ headerBE <:+ gone := by
  rintro ⟨pre, rfl⟩
  have hpos := List.length_pos_of_ne_nil hleft
  have hlen := congrArg List.length hgone
  simp only [List.length_append] at hlen
  refine h.2 pre.length (by omega) ⟨left ++ rest, ?_⟩
  rw [hgone, List.append_assoc, List.append_assoc, List.drop_left]

theorem FirstHeaderAt.not_infix {j rest : Bytes}
    (h : FirstHeaderAt j.length (j ++ headerBE ++ rest)) : ¬ headerBE <:+: j := by
  rintro ⟨pre, post, rfl⟩
  have hgone : pre ++ headerBE ++ post ++ headerBE = pre ++ headerBE ++ (post ++ headerBE) :=
    List.append_assoc ..
  refine h.no_header hgone ?_ ⟨pre, rfl⟩
  intro hnil
  have := congrArg List.length hnil
  rw [List.length_append] at this
  have hheader : headerBE.length = 8 := rfl
  simp only [List.length_nil] at this
  omega

/-- Behind whole false starts the search takes everything up to the end of the header. -/
theorem readHeader_gets_behind {j rest : Bytes} (h : FirstHeaderAt j.length (j ++ headerBE ++ rest))
    (hj : Skipped j) : Gets .none readHeader (j ++ headerBE) .none := by
  refine readHeader_gets_of_scan ((scan_append_header j).mpr (scan_of_skipped hj)) ?_
  intro gone left hgone hleft
  have hle := (scan_suffix gone).2
  by_contra hge
  have hfull : gone.foldl scanByte 0 = headerBE.length := by omega
  have hsuffix := (scan_suffix gone).1
  rw [hfull, List.take_length] at hsuffix
  exact h.no_header hgone hleft hsuffix

/-! ## Resynchronisation -/

/-- `ReadPacket` on `j` and a packet behind it returns the packet: on every transport without
errors the call returns once the transport has moved bytes often enough, and what it returns is
the packet, with nothing more taken. -/
def Resyncs (j : Bytes) (p : UInt16 × Bytes) (rest : Bytes) : Prop :=
  ∀ rs : List StreamResult, Quiet .none rs →
    ((j ++ frame p).length ≤ credit rs → ∃ r, readPacket ⟨rs, j ++ frame p ++ rest⟩ = some r) ∧
    ∀ got s', readPacket ⟨rs, j ++ frame p ++ rest⟩ = some (got, s') →
      got = received p ∧ s'.pending = rest

/-- The header search on `j` and a header behind it stops at the end of that header. -/
def HeaderFound (j rest : Bytes) : Prop :=
  ∀ rs : List StreamResult, Quiet .none rs →
    ((j ++ headerBE).length ≤ credit rs → ∃ r, readHeader ⟨rs, j ++ headerBE ++ rest⟩ = some r) ∧
    ∀ error s', readHeader ⟨rs, j ++ headerBE ++ rest⟩ = some (error, s') →
      error = .none ∧ s'.pending = rest

/-- A transport that moves one byte a call, `n` times. -/
def singly (n : Nat) : List StreamResult := List.replicate n ⟨1, .none⟩

theorem quiet_singly (n : Nat) : Quiet .none (singly n) := by
  intro o ho _
  rw [List.eq_of_mem_replicate ho]

theorem credit_singly (n : Nat) : credit (singly n) = n := by
  simp [credit, singly]

theorem skipped_of_headerFound {j rest : Bytes}
    (h : FirstHeaderAt j.length (j ++ headerBE ++ rest)) (hfound : HeaderFound j rest) :
    Skipped j := by
  obtain ⟨hreturns, hresult⟩ := hfound _ (quiet_singly (j ++ headerBE).length)
  obtain ⟨⟨error, s'⟩, hr⟩ := hreturns (Nat.le_of_eq (credit_singly _).symm)
  obtain ⟨rfl, hpending⟩ := hresult error s' hr
  obtain ⟨c, hc, hscan⟩ := readHeader_sound hr
  -- what was taken is `j` and the header, so the counter was at zero behind `j`
  have hc' : j ++ headerBE = c := by
    rw [hpending] at hc
    exact List.append_cancel_right hc
  have hscan' := hscan rfl
  rw [← hc', scan_append_header] at hscan'
  exact (scan_eq_zero_iff h.not_infix).mp hscan'

theorem skipped_of_resyncs {j rest : Bytes} {p : UInt16 × Bytes} (h₂ : p.2.length ≤ 65535)
    (h : FirstHeaderAt j.length (j ++ frame p ++ rest)) (hresync : Resyncs j p rest) :
    Skipped j := by
  obtain ⟨hreturns, hresult⟩ := hresync _ (quiet_singly (j ++ frame p).length)
  obtain ⟨⟨got, s'⟩, hr⟩ := hreturns (Nat.le_of_eq (credit_singly _).symm)
  obtain ⟨rfl, hpending⟩ := hresult got s' hr
  obtain ⟨⟨c, hscan, hc⟩, -⟩ := readPacket_consumed hr rfl
  have hmod : p.2.length % 65536 = p.2.length := Nat.mod_eq_of_lt (by omega)
  have hstream : j ++ frame p ++ rest = j ++ headerBE ++
      (toBE 2 p.1.toNat ++ toBE 2 p.2.length ++ p.2 ++ rest) := by
    simp only [frame, hmod, List.append_assoc]
  have hc' : j ++ headerBE = c := by
    dsimp only [received] at hc
    rw [hpending, hstream] at hc
    have hboth : j ++ headerBE ++ (toBE 2 p.1.toNat ++ toBE 2 p.2.length ++ p.2 ++ rest) =
        c ++ (toBE 2 p.1.toNat ++ toBE 2 p.2.length ++ p.2 ++ rest) := by
      rw [hc]
      simp only [List.append_assoc]
    exact List.append_cancel_right hboth
  rw [← hc', scan_append_header] at hscan
  rw [hstream] at h
  exact (scan_eq_zero_iff h.not_infix).mp hscan

/-- **Header resynchronisation.** Behind bytes in front of the first header the search stops at the
end of that header, and `ReadPacket` returns the packet there, exactly when these bytes are whole
false starts. -/
theorem resyncs_iff_skipped (j rest : Bytes) :
    (FirstHeaderAt j.length (j ++ headerBE ++ rest) → (HeaderFound j rest ↔ Skipped j)) ∧
    ∀ p : UInt16 × Bytes, 1 ≤ p.2.length → p.2.length ≤ 65535 →
      FirstHeaderAt j.length (j ++ frame p ++ rest) → (Resyncs j p rest ↔ Skipped j) := by
  constructor
  · intro h
    refine ⟨skipped_of_headerFound h, ?_⟩
    intro hj rs hrs
    have hgets := readHeader_gets_behind h hj
    exact ⟨hgets.returns rest hrs, fun error s' hr => hgets.result hrs hr⟩
  · intro p h₁ h₂ h
    refine ⟨skipped_of_resyncs h₂ h, ?_⟩
    intro hj rs hrs
    have hframe : j ++ frame p = j ++ headerBE ++ (toBE 2 p.1.toNat ++
        (toBE 2 (p.2.length % 65536) ++ p.2)) := by
      simp only [frame, List.append_assoc]
    have hfirst : FirstHeaderAt j.length (j ++ headerBE ++ (toBE 2 p.1.toNat ++
        (toBE 2 (p.2.length % 65536) ++ p.2) ++ rest)) := by
      rw [hframe, List.append_assoc] at h
      exact h
    have hgets := readPacket_gets_of_header (readHeader_gets_behind hfirst hj) h₁ h₂
    rw [← hframe] at hgets
    exact ⟨hgets.returns rest hrs, fun got s' hr => hgets.result hrs hr⟩

/-- A false start of three bytes, broken off by a byte that is not the first of the header. -/
theorem resyncs_iff_skipped_sample :
    Resyncs [7, 0xDB, 0x06, 0x5A, 0] (0x51, [6]) [9] ∧ HeaderFound [0xDB, 0xDB] [9] := by
  have hj : Skipped [7, 0xDB, 0x06, 0x5A, 0] :=
    Skipped.other (by decide) (Skipped.falseStart (c := 3) (b := 0) (j := []) (by decide) (by decide)
      (by decide) Skipped.nil)
  have hj₂ : Skipped [0xDB, 0xDB] :=
    Skipped.falseStart (c := 1) (b := 0xDB) (j := []) (by decide) (by decide) (by decide) Skipped.nil
  exact ⟨((resyncs_iff_skipped _ _).2 _ (by decide) (by decide) (by decide)).mpr hj,
    ((resyncs_iff_skipped _ _).1 (by decide)).mpr hj₂⟩

/-- One stray first byte of the header in front of a packet: the header search runs past the
packet, and `ReadPacket` never returns. -/
theorem resync_lost :
    FirstHeaderAt 1 ([0xDB] ++ frame (0x51, [6]) ++ []) ∧ ¬ Resyncs [0xDB] (0x51, [6]) [] := by
  refine ⟨by decide, ?_⟩
  intro h
  obtain ⟨⟨p, s'⟩, hr⟩ := (h (singly 14) (quiet_singly 14)).1 (by decide)
  have hnone : readPacket ⟨singly 14, [0xDB] ++ frame (0x51, [6]) ++ []⟩ = none := by decide
  rw [hnone] at hr
  cases hr

end PcbuDesktop
