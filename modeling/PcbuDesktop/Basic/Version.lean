import Mathlib.Data.List.TakeWhile
import PcbuDesktop.Basic.Text

set_option autoImplicit false

/-! # Splitting text and comparing versions

`StringUtils::Split` (`utils/StringUtils.cpp`) and `AppInfo::CompareVersion`
(`utils/AppInfo.cpp`), with the parts of the standard library they use.
-/

namespace PcbuDesktop

/-- `str.find(pattern)`: the position of the first occurrence. -/
def find (pattern : Str) : Str → Option Nat
  | [] => if pattern = [] then some 0 else none
  | c :: s => if pattern.isPrefixOf (c :: s) then some 0 else (find pattern s).map (· + 1)

/-- The loop of `StringUtils::Split` on the rest of the text. Every round takes at least one
byte as long as the delimiter is not empty, so that the length of the text is enough fuel; with
an empty delimiter the loop of the source does not end. -/
def splitLoop (delim : Str) : Nat → Str → List Str
  | 0, s => [s]
  | fuel + 1, s =>
      match find delim s with
      | none => [s]
      | some pos => s.take pos :: splitLoop delim fuel (s.drop (pos + delim.length))

/-- `StringUtils::Split`. -/
def split (s delim : Str) : List Str := splitLoop delim s.length s

/-- There is always a first piece, which `CompareVersion` takes. -/
theorem split_ne_nil (s delim : Str) : split s delim ≠ [] := by
  unfold split
  cases s with
  | nil => simp [splitLoop]
  | cons c s =>
      rw [List.length_cons, splitLoop]
      split
      · simp
      · simp

/-- `isspace` in the C locale. -/
def isSpace (c : UInt8) : Bool := c = 32 || (9 ≤ c && c ≤ 13)

def isDigit (c : UInt8) : Bool := 48 ≤ c && c ≤ 57

/-- `std::stoi`: leading white space, a sign, and as many digits as there are; what follows is
ignored. `none` where it throws: there is no digit, or the value does not fit into an `int`. -/
def stoi (s : Str) : Option Int :=
  let trimmed := s.dropWhile isSpace
  let isNegative := trimmed.head? = some 45
  let digits :=
    (if trimmed.head? = some 45 ∨ trimmed.head? = some 43 then trimmed.tail else trimmed).takeWhile
      isDigit
  let value : Int := digits.foldl (fun n c => 10 * n + ((c.toNat : Int) - 48)) 0
  let result := if isNegative then -value else value
  if digits = [] then none
  else if -2147483648 ≤ result ∧ result ≤ 2147483647 then some result
  else none

/-- The numbers of a version: the text before the first `-`, split at the dots. -/
def versionNumbers (version : Str) : Option (List Int) :=
  let text := (split version (str "-")).headD []
  (split text (str ".")).mapM stoi

/-- The loop of `CompareVersion`: a missing number counts as zero. -/
def compareNumbers (thisVersions otherVersions : List Int) : Int :=
  ((List.range (max thisVersions.length otherVersions.length)).findSome? (fun i =>
    let thisNum := thisVersions.getD i 0
    let otherNum := otherVersions.getD i 0
    if thisNum < otherNum then some 1
    else if thisNum > otherNum then some (-1)
    else none)).getD 0

/-- `AppInfo::CompareVersion`; every exception ends in the result 0. -/
def compareVersion (thisVersion otherVersion : Str) : Int :=
  match versionNumbers thisVersion, versionNumbers otherVersion with
  | some thisVersions, some otherVersions => compareNumbers thisVersions otherVersions
  | _, _ => 0

/-- `AppInfo::GetPairingProtocolVersion`. -/
def pairingProtocolVersion : Str := str "4.0.0"

/-! ## Splitting at one byte -/

theorem find_singleton_eq_none {c : UInt8} {s : Str} : find [c] s = none ↔ c ∉ s := by
  induction s with
  | nil => simp [find]
  | cons d s ih =>
      rw [find]
      by_cases h : c = d
      · simp [h]
      · simp [h, ih]

theorem find_singleton_eq_some {c : UInt8} {s : Str} {pos : Nat} (h : find [c] s = some pos) :
    s = s.take pos ++ c :: s.drop (pos + 1) ∧ c ∉ s.take pos := by
  induction s generalizing pos with
  | nil => simp [find] at h
  | cons d s ih =>
      rw [find] at h
      by_cases hd : c = d
      · have hpos : pos = 0 := by simpa [hd] using h.symm
        subst hpos
        simp [hd]
      · have htail : (find [c] s).map (· + 1) = some pos := by simpa [hd] using h
        obtain ⟨n, hn, rfl⟩ := Option.map_eq_some_iff.mp htail
        obtain ⟨heq, hnot⟩ := ih hn
        constructor
        · rw [List.take_succ_cons, List.drop_succ_cons, List.cons_append, ← heq]
        · rw [List.take_succ_cons]
          intro hmem
          rcases List.mem_cons.mp hmem with h | h
          · exact hd h
          · exact hnot h

theorem find_singleton {c : UInt8} {s t : Str} (h : c ∉ s) :
    find [c] (s ++ c :: t) = some s.length := by
  induction s with
  | nil => simp [find]
  | cons d s ih =>
      have hne : c ≠ d := by
        intro heq
        exact h (by rw [heq]; exact List.mem_cons_self)
      have hrest : c ∉ s := fun hc => h (List.mem_cons_of_mem d hc)
      have hpre : List.isPrefixOf [c] (d :: (s ++ c :: t)) = false := by
        simp [List.isPrefixOf, hne]
      show (if List.isPrefixOf [c] (d :: (s ++ c :: t)) then some 0
        else (find [c] (s ++ c :: t)).map (· + 1)) = _
      rw [hpre, ih hrest]
      rfl

theorem splitLoop_singleton (c : UInt8) (fuel : Nat) (s : Str) (h : s.length ≤ fuel) :
    splitLoop [c] fuel s = s.splitOn c := by
  induction fuel generalizing s with
  | zero =>
      have hnil : s = [] := List.length_eq_zero_iff.mp (by omega)
      rw [hnil]
      simp [splitLoop]
  | succ fuel ih =>
      rw [splitLoop]
      cases hfind : find [c] s with
      | none => exact (List.splitOn_eq_singleton (find_singleton_eq_none.mp hfind)).symm
      | some pos =>
          obtain ⟨heq, hnot⟩ := find_singleton_eq_some hfind
          have hlen : (s.drop (pos + 1)).length ≤ fuel := by
            have := congrArg List.length heq
            simp only [List.length_append, List.length_cons, List.length_take,
              List.length_drop] at this ⊢
            omega
          dsimp only
          conv_rhs => rw [heq, List.splitOn_append_cons_self_of_not_mem hnot]
          rw [List.length_singleton, ih _ hlen]

/-- On a delimiter of one byte `StringUtils::Split` is the list function. -/
theorem split_singleton (s : Str) (c : UInt8) : split s [c] = s.splitOn c :=
  splitLoop_singleton c s.length s (Nat.le_refl _)

/-! ## Dotted decimal numbers -/

/-- The value of a text of digits. -/
def decimalValue (s : Str) : Nat := s.foldl (fun n c => 10 * n + (c.toNat - 48)) 0

/-- At least one digit, and nothing else. -/
def IsDecimal (s : Str) : Prop := s ≠ [] ∧ ∀ c ∈ s, isDigit c = true

/-- The text is a list of decimal numbers with dots between them, possibly followed by `-` and a
suffix. -/
def Dotted (version : Str) (numbers : List Nat) : Prop :=
  ∃ parts : List Str, parts ≠ [] ∧ (∀ part ∈ parts, IsDecimal part) ∧
    numbers = parts.map decimalValue ∧
    (version = (str ".").intercalate parts ∨
      ∃ suffix, version = (str ".").intercalate parts ++ str "-" ++ suffix)

/-- Equal when the shorter list is filled up with zeros. -/
def SamePadded (numbers others : List Nat) : Prop :=
  ∀ i, numbers.getD i 0 = others.getD i 0

theorem str_dot : str "." = [46] := by decide

theorem str_dash : str "-" = [45] := by decide

theorem digits_foldl (digits : Str) (h : ∀ c ∈ digits, isDigit c = true) (n : Nat) :
    digits.foldl (fun n c => 10 * n + ((c.toNat : Int) - 48)) (n : Int) =
      ((digits.foldl (fun n c => 10 * n + (c.toNat - 48)) n : Nat) : Int) := by
  induction digits generalizing n with
  | nil => rfl
  | cons c digits ih =>
      have hc : 48 ≤ c.toNat := by
        have hdigit := h c List.mem_cons_self
        simp only [isDigit, Bool.and_eq_true, decide_eq_true_eq] at hdigit
        exact UInt8.le_iff_toNat_le.mp hdigit.1
      have hstep : 10 * (n : Int) + ((c.toNat : Int) - 48) =
          ((10 * n + (c.toNat - 48) : Nat) : Int) := by omega
      rw [List.foldl_cons, List.foldl_cons, hstep]
      exact ih (fun d hd => h d (List.mem_cons_of_mem _ hd)) _

/-- `stoi` on a decimal number that fits into an `int`. -/
theorem stoi_decimal {s : Str} (h : IsDecimal s) (hmax : decimalValue s ≤ 2147483647) :
    stoi s = some (decimalValue s : Int) := by
  obtain ⟨hne, hdigits⟩ := h
  obtain ⟨c, rest, rfl⟩ := List.exists_cons_of_ne_nil hne
  -- the text begins with a digit, so that there is neither white space nor a sign
  have hc : 48 ≤ c.toNat ∧ c.toNat ≤ 57 := by
    have hdigit := hdigits c List.mem_cons_self
    simp only [isDigit, Bool.and_eq_true, decide_eq_true_eq] at hdigit
    exact ⟨UInt8.le_iff_toNat_le.mp hdigit.1, UInt8.le_iff_toNat_le.mp hdigit.2⟩
  have hspace : isSpace c = false := by
    simp only [isSpace, Bool.or_eq_false_iff, Bool.and_eq_false_iff, decide_eq_false_iff_not]
    refine ⟨?_, Or.inr ?_⟩
    · rintro rfl
      exact absurd hc.1 (by decide)
    · intro hle
      have hle' := UInt8.le_iff_toNat_le.mp hle
      have h13 : (13 : UInt8).toNat = 13 := rfl
      omega
  have hminus : c ≠ 45 := by
    rintro rfl
    exact absurd hc.1 (by decide)
  have hplus : c ≠ 43 := by
    rintro rfl
    exact absurd hc.1 (by decide)
  have htrim : (c :: rest).dropWhile isSpace = c :: rest := by
    rw [List.dropWhile_cons_of_neg (by simp [hspace])]
  have htake : (c :: rest).takeWhile isDigit = c :: rest :=
    List.takeWhile_eq_self_iff.mpr hdigits
  have hvalue := digits_foldl (c :: rest) hdigits 0
  unfold stoi
  simp only [htrim, List.head?_cons, Option.some.injEq, hminus, hplus, or_self, if_false, htake]
  rw [if_neg (List.cons_ne_nil _ _)]
  have hfold : ((c :: rest).foldl (fun n c => 10 * n + ((c.toNat : Int) - 48)) 0) =
      (decimalValue (c :: rest) : Int) := hvalue
  rw [hfold, if_pos ⟨by omega, by omega⟩]

theorem mapM_stoi {parts : List Str} (h : ∀ part ∈ parts, IsDecimal part)
    (hmax : ∀ n ∈ parts.map decimalValue, n ≤ 2147483647) :
    parts.mapM stoi = some ((parts.map decimalValue).map Int.ofNat) := by
  induction parts with
  | nil => rfl
  | cons part parts ih =>
      have hpart := stoi_decimal (h part List.mem_cons_self)
        (hmax _ (List.mem_map_of_mem List.mem_cons_self))
      have hrest := ih (fun p hp => h p (List.mem_cons_of_mem _ hp))
        (fun n hn => hmax n (List.mem_cons_of_mem _ hn))
      rw [List.mapM_cons, hpart, hrest]
      rfl

theorem IsDecimal.not_mem {part : Str} (h : IsDecimal part) {c : UInt8} (hc : isDigit c = false) :
    c ∉ part := by
  intro hmem
  rw [h.2 c hmem] at hc
  cases hc

theorem not_mem_intercalate {c : UInt8} {sep : Str} (hsep : c ∉ sep) {parts : List Str}
    (h : ∀ part ∈ parts, c ∉ part) : c ∉ sep.intercalate parts := by
  induction parts with
  | nil => simp
  | cons part parts ih =>
      have hpart := h part List.mem_cons_self
      have hrest := ih (fun p hp => h p (List.mem_cons_of_mem _ hp))
      by_cases hnil : parts = []
      · simpa [hnil] using hpart
      · rw [List.intercalate_cons_of_ne_nil hnil]
        simp [hpart, hsep, hrest]

/-- The parts that `CompareVersion` sees are those of the text. -/
theorem split_dotted {version : Str} {parts : List Str} (hne : parts ≠ [])
    (hparts : ∀ part ∈ parts, IsDecimal part)
    (hversion : version = (str ".").intercalate parts ∨
      ∃ suffix, version = (str ".").intercalate parts ++ str "-" ++ suffix) :
    split ((split version (str "-")).headD []) (str ".") = parts := by
  have hdash : (45 : UInt8) ∉ (str ".").intercalate parts :=
    not_mem_intercalate (by decide) (fun part hp => (hparts part hp).not_mem (by decide))
  have hhead : (split version (str "-")).headD [] = (str ".").intercalate parts := by
    rw [str_dash, split_singleton]
    rcases hversion with rfl | ⟨suffix, rfl⟩
    · rw [List.splitOn_eq_singleton hdash]
      rfl
    · rw [str_dash, List.append_assoc, List.singleton_append,
        List.splitOn_append_cons_self_of_not_mem hdash]
      rfl
  rw [hhead, str_dot, split_singleton]
  exact List.splitOn_intercalate 46 (fun part hp => (hparts part hp).not_mem (by decide)) hne

theorem versionNumbers_dotted {version : Str} {numbers : List Nat} (h : Dotted version numbers)
    (hmax : ∀ n ∈ numbers, n ≤ 2147483647) :
    versionNumbers version = some (numbers.map Int.ofNat) := by
  obtain ⟨parts, hne, hparts, rfl, hversion⟩ := h
  show (split ((split version (str "-")).headD []) (str ".")).mapM stoi = _
  rw [split_dotted hne hparts hversion]
  exact mapM_stoi hparts hmax

theorem Dotted.unique {version : Str} {numbers others : List Nat} (h : Dotted version numbers)
    (h' : Dotted version others) : numbers = others := by
  obtain ⟨parts, hne, hparts, rfl, hversion⟩ := h
  obtain ⟨parts', hne', hparts', rfl, hversion'⟩ := h'
  rw [← split_dotted hne hparts hversion, ← split_dotted hne' hparts' hversion']

/-! ## Comparing -/

theorem compareNumbers_eq_zero_iff (a b : List Int) :
    compareNumbers a b = 0 ↔ ∀ i, a.getD i 0 = b.getD i 0 := by
  unfold compareNumbers
  constructor
  · intro h i
    by_cases hi : i < max a.length b.length
    · -- no round of the loop returned, since a returned value is not zero
      by_contra hne
      cases hfind : (List.range (max a.length b.length)).findSome? (fun i =>
          if a.getD i 0 < b.getD i 0 then some (1 : Int)
          else if a.getD i 0 > b.getD i 0 then some (-1)
          else none) with
      | none =>
          have hround := List.findSome?_eq_none_iff.mp hfind i (List.mem_range.mpr hi)
          split_ifs at hround
          omega
      | some r =>
          rw [hfind] at h
          obtain ⟨k, -, hk⟩ := List.exists_of_findSome?_eq_some hfind
          have hr : r = 0 := h
          split_ifs at hk
          · cases hk
            omega
          · cases hk
            omega
    · have ha : a.getD i 0 = 0 := by simp [List.getD, show a.length ≤ i by omega]
      have hb : b.getD i 0 = 0 := by simp [List.getD, show b.length ≤ i by omega]
      rw [ha, hb]
  · intro h
    have hnone : (List.range (max a.length b.length)).findSome? (fun i =>
        if a.getD i 0 < b.getD i 0 then some (1 : Int)
        else if a.getD i 0 > b.getD i 0 then some (-1)
        else none) = none := by
      rw [List.findSome?_eq_none_iff]
      intro i _
      rw [if_neg (by rw [h i]; omega), if_neg (by rw [h i]; omega)]
    rw [hnone]
    rfl

theorem versionNumbers_pairingProtocolVersion :
    versionNumbers pairingProtocolVersion = some [4, 0, 0] := by decide

/-- The versions that pass the comparison of `HandleClient`: the numbers are the same, or some
part is none. -/
theorem compareVersion_eq_zero_iff (version : Str) :
    compareVersion pairingProtocolVersion version = 0 ↔
      ∀ numbers, versionNumbers version = some numbers →
        ∀ i, numbers.getD i 0 = ([4, 0, 0] : List Int).getD i 0 := by
  unfold compareVersion
  rw [versionNumbers_pairingProtocolVersion]
  cases versionNumbers version with
  | none => simp
  | some numbers =>
      rw [compareNumbers_eq_zero_iff]
      constructor
      · intro h others heq i
        rw [← Option.some.inj heq]
        exact (h i).symm
      · intro h i
        exact (h numbers rfl i).symm

/-- A dotted version whose numbers, filled up with zeros, are those of the pairing protocol. -/
def MatchesPairingProtocol (version : Str) : Prop :=
  ∃ numbers others, Dotted version numbers ∧ Dotted pairingProtocolVersion others ∧
    SamePadded numbers others

theorem getD_map_ofNat (numbers : List Nat) (i : Nat) :
    (numbers.map Int.ofNat).getD i 0 = ((numbers.getD i 0 : Nat) : Int) := by
  simp only [List.getD, List.getElem?_map]
  cases numbers[i]? <;> rfl

theorem dotted_pairingProtocolVersion : Dotted pairingProtocolVersion [4, 0, 0] := by
  refine ⟨[[52], [48], [48]], by decide, ?_, rfl, Or.inl rfl⟩
  have hdecimal : ∀ c : UInt8, isDigit c = true → IsDecimal [c] := by
    intro c hc
    refine ⟨List.cons_ne_nil _ _, ?_⟩
    intro d hd
    rwa [List.mem_singleton.mp hd]
  intro part hpart
  have hcases : part = [52] ∨ part = [48] := by simpa using hpart
  rcases hcases with rfl | rfl
  · exact hdecimal 52 (by decide)
  · exact hdecimal 48 (by decide)

/-- A version that matches passes the comparison. -/
theorem MatchesPairingProtocol.compareVersion_eq_zero {version : Str}
    (h : MatchesPairingProtocol version) : compareVersion pairingProtocolVersion version = 0 := by
  obtain ⟨numbers, others, hdotted, hothers, hsame⟩ := h
  rw [hothers.unique dotted_pairingProtocolVersion] at hsame
  have hmax : ∀ n ∈ numbers, n ≤ 2147483647 := by
    intro n hn
    obtain ⟨i, hi, rfl⟩ := List.getElem_of_mem hn
    have hget : numbers.getD i 0 = numbers[i] := by simp [List.getD, hi]
    have hle : ([4, 0, 0] : List Nat).getD i 0 ≤ 4 := by
      match i with
      | 0 => decide
      | 1 => decide
      | 2 => decide
      | i + 3 => exact Nat.zero_le _
    rw [← hget, hsame i]
    omega
  rw [compareVersion_eq_zero_iff, versionNumbers_dotted hdotted hmax]
  intro ints heq i
  rw [← Option.some.inj heq, getD_map_ofNat, hsame i, ← getD_map_ofNat]
  rfl

end PcbuDesktop
