import PcbuDesktop.Lib.Regex
import PcbuDesktop.Basic.StringUtils

set_option autoImplicit false

/-! # Network interfaces and private addresses

The parts of `NetworkHelper` (`platform/NetworkHelper.cpp`) that look at addresses: the regular
expression for private IPv4 addresses, the filter and the order of the interfaces, and the targets
of the broadcasts. What the operating system lists as interfaces is an argument.

The expression has three alternatives for `172.16.0.0/12`, by the first digits of the second number;
each of them allows one more digit behind the two it asks for.
-/

namespace PcbuDesktop

open Regex

/-! ## Addresses -/

/-- An IPv4 address. -/
structure Address where
  a : UInt8
  b : UInt8
  c : UInt8
  d : UInt8
  deriving DecidableEq, Repr

/-- The decimal text of an octet, without leading zeros. -/
def octetText (n : UInt8) : Str :=
  if n < 10 then [48 + n]
  else if n < 100 then [48 + n / 10, 48 + n % 10]
  else [48 + n / 100, 48 + n / 10 % 10, 48 + n % 10]

/-- The byte `'.'`. -/
def dot : UInt8 := 46

/-- The dotted-quad notation. -/
def dottedQuad (addr : Address) : Str :=
  octetText addr.a ++ dot :: (octetText addr.b ++ dot :: (octetText addr.c ++ dot ::
    octetText addr.d))

/-- The address as a number of 32 bits. -/
def Address.value (addr : Address) : Nat :=
  ((addr.a.toNat * 256 + addr.b.toNat) * 256 + addr.c.toNat) * 256 + addr.d.toNat

/-- The address lies in the network with a prefix of `len` bits. -/
def InNetwork (addr net : Address) (len : Nat) : Prop :=
  addr.value / 2 ^ (32 - len) = net.value / 2 ^ (32 - len)

/-- `10.0.0.0/8`, `172.16.0.0/12` and `192.168.0.0/16`. -/
def IsPrivate (addr : Address) : Prop :=
  InNetwork addr ⟨10, 0, 0, 0⟩ 8 ∨ InNetwork addr ⟨172, 16, 0, 0⟩ 12 ∨
    InNetwork addr ⟨192, 168, 0, 0⟩ 16

/-- `169.254.0.0/16`. -/
def IsLinkLocal (addr : Address) : Prop := InNetwork addr ⟨169, 254, 0, 0⟩ 16

/-- `172.160.0.0` to `172.255.255.255`: the digit too many. -/
def IsMisread (addr : Address) : Prop := addr.a = 172 ∧ 160 ≤ addr.b

/-! ## The regular expression -/

/-- `[0-9]`. -/
def digitRegex : RegularExpression UInt8 := oneOf (str "0123456789")

/-- `[0-9]{1,3}`. -/
def octetRegex : RegularExpression UInt8 := between digitRegex 1 3

/-- Two expressions and two times `[0-9]{1,3}`, with `\.` between them. -/
def quadRegex (P Q : RegularExpression UInt8) : RegularExpression UInt8 :=
  P * (RegularExpression.char dot * (Q * (RegularExpression.char dot *
    (octetRegex * (RegularExpression.char dot * octetRegex)))))

/-- `1[6-9]{1}[0-9]{0,1}`. -/
def from16Regex : RegularExpression UInt8 :=
  literal (str "1") * (between (oneOf (str "6789")) 1 1 * between digitRegex 0 1)

/-- `2[0-9]{1}[0-9]{0,1}`. -/
def from20Regex : RegularExpression UInt8 :=
  literal (str "2") * (between digitRegex 1 1 * between digitRegex 0 1)

/-- `3[0-1]{1}[0-9]{0,1}`. -/
def from30Regex : RegularExpression UInt8 :=
  literal (str "3") * (between (oneOf (str "01")) 1 1 * between digitRegex 0 1)

/-- `g_LocalIPv4Regex`. The `^` and `$` around each alternative say nothing more, since
`regex_match` asks for the whole text. -/
def localIPv4Regex : RegularExpression UInt8 :=
  quadRegex (literal (str "10")) octetRegex +
    (quadRegex (literal (str "172")) from16Regex +
      (quadRegex (literal (str "172")) from20Regex +
        (quadRegex (literal (str "172")) from30Regex +
          quadRegex (literal (str "192")) (literal (str "168")))))

/-- `std::regex_match(ipAddress, g_LocalIPv4Regex)`. -/
def isLocalIPv4 (ipAddress : Str) : Bool := localIPv4Regex.rmatch ipAddress

/-! ## Interfaces -/

structure NetworkInterface where
  ifName : Str := []
  ipAddress : Str := []
  netmask : Str := []
  macAddress : Str := []
  gateway : Str := []
  isWired : Bool := false
  deriving DecidableEq, Repr

/-- `str.starts_with(pattern)`. -/
def startsWith (s pattern : Str) : Bool := pattern.isPrefixOf s

/-- `isVirtual`, on Windows or elsewhere. -/
def isVirtual (windows : Bool) (netIf : NetworkInterface) : Bool :=
  if windows then
    contains netIf.ifName (str "Bluetooth") || contains netIf.ifName (str "vEthernet") ||
      contains netIf.ifName (str "VMware") || contains netIf.ifName (str "VirtualBox") ||
      contains netIf.ifName (str "Docker")
  else
    startsWith netIf.ifName (str "vir") || startsWith netIf.ifName (str "docker") ||
      startsWith netIf.ifName (str "ham") || startsWith netIf.ifName (str "bridge")

/-- `rankIp`. -/
def rankIp (windows : Bool) (netIf : NetworkInterface) : Int :=
  (if isLocalIPv4 netIf.ipAddress then 1000 else 0) +
  (if netIf.gateway ≠ [] then 100 else 0) +
  (if startsWith netIf.ipAddress (str "192.168.") || startsWith netIf.ipAddress (str "10.") then 50
    else 0) -
  (if startsWith netIf.ipAddress (str "169.254.") then 10 else 0) -
  (if isVirtual windows netIf then 100 else 0)

/-- `StringUtils::ToLower`, in the C locale. -/
def StringUtils.toLower (s : Str) : Str := s.map (fun c => if 65 ≤ c ∧ c ≤ 90 then c + 32 else c)

/-- The comparison `std::sort` is called with. -/
def ranksBefore (windows : Bool) (a b : NetworkInterface) : Bool :=
  if rankIp windows a = rankIp windows b then
    decide (StringUtils.toLower a.ifName < StringUtils.toLower b.ifName)
  else decide (rankIp windows a > rankIp windows b)

/-- `GetLocalNetInterfaces`, on the interfaces that the operating system lists. Which of two
interfaces stands first that do not rank before each other is not specified. -/
def getLocalNetInterfaces (windows onlyValid : Bool) (adapters : List NetworkInterface) :
    List NetworkInterface :=
  let result :=
    if onlyValid then
      adapters.filter (fun netIf => !(isVirtual windows netIf || !isLocalIPv4 netIf.ipAddress))
    else adapters
  result.mergeSort (fun a b => !ranksBefore windows b a)

structure BroadcastTarget where
  sourceIP : Str
  broadcastIP : Str
  deriving DecidableEq, Repr

/-- `inet_pton` and `inet_ntop` for IPv4. -/
structure InetLib where
  pton : Str → Option Address
  ntop : Address → Option Str

/-- `inet_pton` reads the dotted-quad notation. -/
def InetLib.Reads (inet : InetLib) : Prop := ∀ addr, inet.pton (dottedQuad addr) = some addr

/-- `ip | ~mask`. -/
def directedBroadcast (ip mask : Address) : Address :=
  ⟨ip.a ||| ~~~mask.a, ip.b ||| ~~~mask.b, ip.c ||| ~~~mask.c, ip.d ||| ~~~mask.d⟩

/-- The target for an interface. -/
def broadcastTarget (inet : InetLib) (netIf : NetworkInterface) : Option BroadcastTarget :=
  if netIf.ipAddress = [] then none
  else if !isLocalIPv4 netIf.ipAddress && !startsWith netIf.ipAddress (str "169.254.") then none
  else
    match inet.pton netIf.ipAddress with
    | none => none
    | some ip =>
        let bcast :=
          if netIf.netmask = [] then none
          else (inet.pton netIf.netmask).bind (fun mask => inet.ntop (directedBroadcast ip mask))
        some ⟨netIf.ipAddress, bcast.getD (str "255.255.255.255")⟩

/-- `GetBroadcastTargets`. -/
def getBroadcastTargets (inet : InetLib) (windows : Bool) (adapters : List NetworkInterface) :
    List BroadcastTarget :=
  (getLocalNetInterfaces windows false adapters).filterMap (broadcastTarget inet)

/-! ## Octets -/

theorem octet_cases (P : UInt8 → Prop) (h : ∀ n : Fin 256, P (UInt8.ofNat n.val)) (n : UInt8) :
    P n := by
  have hn := h ⟨n.toNat, n.toNat_lt⟩
  rwa [UInt8.ofNat_toNat] at hn

theorem octetText_bounds (n : UInt8) : ∀ c ∈ octetText n, 48 ≤ c ∧ c ≤ 57 := by
  have hall := octet_cases (fun n => (octetText n).all (fun c => 48 ≤ c && c ≤ 57) = true)
    (by decide +kernel) n
  intro c hc
  simpa using List.all_eq_true.mp hall c hc

theorem dot_not_mem_octetText (n : UInt8) : dot ∉ octetText n :=
  fun h => absurd (octetText_bounds n dot h).1 (by decide)

/-- The value of the text of an octet. -/
def octetValue (s : Str) : UInt8 := s.foldl (fun n c => 10 * n + (c - 48)) 0

theorem octetValue_octetText (n : UInt8) : octetValue (octetText n) = n :=
  octet_cases (fun n => octetValue (octetText n) = n) (by decide +kernel) n

theorem octetText_inj {m n : UInt8} (h : octetText m = octetText n) : m = n := by
  rw [← octetValue_octetText m, h, octetValue_octetText]

theorem octetText_digits (n : UInt8) : ∀ c ∈ octetText n, c ∈ str "0123456789" := by
  have hdigits : ∀ d : Fin 58, 48 ≤ d.val → UInt8.ofNat d.val ∈ str "0123456789" := by
    decide +kernel
  intro c hc
  obtain ⟨hge, hle⟩ := octetText_bounds n c hc
  have hmem := hdigits ⟨c.toNat, Nat.lt_succ_of_le (UInt8.le_iff_toNat_le.mp hle)⟩
    (UInt8.le_iff_toNat_le.mp hge)
  rwa [UInt8.ofNat_toNat] at hmem

theorem octetText_length (n : UInt8) : 1 ≤ (octetText n).length ∧ (octetText n).length ≤ 3 := by
  unfold octetText
  split
  · exact ⟨by simp, by simp⟩
  · split <;> exact ⟨by simp, by simp⟩

theorem rmatch_octet (n : UInt8) : octetRegex.rmatch (octetText n) = true := by
  have hdigits : ∀ w ∈ (octetText n).map fun c => [c], w ∈ digitRegex.matches' := by
    intro w hw
    obtain ⟨c, hc, rfl⟩ := List.mem_map.mp hw
    exact mem_oneOf_iff.mpr ⟨c, octetText_digits n c hc, rfl⟩
  have hlength := octetText_length n
  have hmem := mem_between (n := 3) hdigits (by simpa using hlength.1) (by simpa using hlength.2)
  have hflat : ((octetText n).map fun c => [c]).flatten = octetText n := by
    rw [← List.flatMap_def, List.flatMap_singleton']
  rw [hflat] at hmem
  exact (octetRegex.rmatch_iff_matches' _).mpr hmem

theorem rmatch_literal {w : Str} {k : UInt8} (hk : octetText k = w) (n : UInt8) :
    (literal w).rmatch (octetText n) = decide (n = k) := by
  rw [Bool.eq_iff_iff, RegularExpression.rmatch_iff_matches', mem_literal_iff, decide_eq_true_iff,
    ← hk]
  exact ⟨octetText_inj, congrArg octetText⟩

/-- The texts `d[cs]{1}[0-9]{0,1}` matches. -/
def matchesTail (d : UInt8) (cs : Str) : Str → Bool
  | [a, c] => a == d && cs.contains c
  | [a, c, e] => a == d && cs.contains c && (str "0123456789").contains e
  | _ => false

theorem matchesTail_iff {d : UInt8} {cs w : Str} :
    matchesTail d cs w = true ↔
      ∃ c ∈ cs, ∃ t, (t = [] ∨ ∃ e ∈ str "0123456789", t = [e]) ∧ w = d :: c :: t := by
  constructor
  · intro h
    unfold matchesTail at h
    split at h
    next a c =>
      simp only [Bool.and_eq_true, beq_iff_eq, List.contains_iff_mem] at h
      exact ⟨c, h.2, [], .inl rfl, by rw [h.1]⟩
    next a c e =>
      simp only [Bool.and_eq_true, beq_iff_eq, List.contains_iff_mem] at h
      exact ⟨c, h.1.2, [e], .inr ⟨e, h.2, rfl⟩, by rw [h.1.1]⟩
    · cases h
  · rintro ⟨c, hc, t, rfl | ⟨e, he, rfl⟩, rfl⟩
    · simp [matchesTail, hc]
    · simp only [matchesTail, Bool.and_eq_true, beq_iff_eq, List.contains_iff_mem]
      exact ⟨⟨trivial, hc⟩, he⟩

theorem rmatch_tail (d : UInt8) (cs w : Str) :
    (literal [d] * (between (oneOf cs) 1 1 * between digitRegex 0 1)).rmatch w = matchesTail d cs w := by
  rw [Bool.eq_iff_iff, RegularExpression.rmatch_iff_matches', RegularExpression.matches'_mul,
    RegularExpression.matches'_mul, matchesTail_iff, Language.mem_mul]
  constructor
  · rintro ⟨u, hu, v, hv, rfl⟩
    obtain ⟨x, hx, t, ht, rfl⟩ := Language.mem_mul.mp hv
    obtain ⟨c, hc, rfl⟩ := mem_oneOf_iff.mp (mem_once_iff.mp hx)
    rw [mem_literal_iff.mp hu]
    exact ⟨c, hc, t, (mem_optional_iff.mp ht).imp id mem_oneOf_iff.mp, rfl⟩
  · rintro ⟨c, hc, t, ht, rfl⟩
    have htail : t ∈ (between digitRegex 0 1).matches' :=
      mem_optional_iff.mpr (ht.imp id mem_oneOf_iff.mpr)
    have hfirst : [c] ∈ (between (oneOf cs) 1 1).matches' :=
      mem_once_iff.mpr (mem_oneOf_iff.mpr ⟨c, hc, rfl⟩)
    exact ⟨[d], mem_literal_iff.mpr rfl, [c] ++ t,
      Language.mem_mul.mpr ⟨[c], hfirst, t, htail, rfl⟩, rfl⟩

theorem rmatch_10 (n : UInt8) : (literal (str "10")).rmatch (octetText n) = decide (n = 10) :=
  rmatch_literal (by decide) n

theorem rmatch_172 (n : UInt8) : (literal (str "172")).rmatch (octetText n) = decide (n = 172) :=
  rmatch_literal (by decide) n

theorem rmatch_192 (n : UInt8) : (literal (str "192")).rmatch (octetText n) = decide (n = 192) :=
  rmatch_literal (by decide) n

theorem rmatch_168 (n : UInt8) : (literal (str "168")).rmatch (octetText n) = decide (n = 168) :=
  rmatch_literal (by decide) n

theorem rmatch_from16 (n : UInt8) :
    from16Regex.rmatch (octetText n) = decide (16 ≤ n ∧ n ≤ 19 ∨ 160 ≤ n ∧ n ≤ 199) :=
  (rmatch_tail 49 (str "6789") (octetText n)).trans
    (octet_cases (fun n => matchesTail 49 (str "6789") (octetText n) =
      decide (16 ≤ n ∧ n ≤ 19 ∨ 160 ≤ n ∧ n ≤ 199)) (by decide +kernel) n)

theorem rmatch_from20 (n : UInt8) :
    from20Regex.rmatch (octetText n) = decide (20 ≤ n ∧ n ≤ 29 ∨ 200 ≤ n) :=
  (rmatch_tail 50 (str "0123456789") (octetText n)).trans
    (octet_cases (fun n => matchesTail 50 (str "0123456789") (octetText n) =
      decide (20 ≤ n ∧ n ≤ 29 ∨ 200 ≤ n)) (by decide +kernel) n)

theorem rmatch_from30 (n : UInt8) :
    from30Regex.rmatch (octetText n) = decide (30 ≤ n ∧ n ≤ 31) :=
  (rmatch_tail 51 (str "01") (octetText n)).trans
    (octet_cases (fun n => matchesTail 51 (str "01") (octetText n) = decide (30 ≤ n ∧ n ≤ 31))
      (by decide +kernel) n)

/-! ## The expression on addresses -/

theorem octetRegex_avoids : Avoids octetRegex dot := (avoids_oneOf (by decide)).between 1 3

/-- The four numbers are matched one by one. -/
theorem rmatch_quadRegex {P Q : RegularExpression UInt8} (hP : Avoids P dot) (hQ : Avoids Q dot)
    (addr : Address) :
    (quadRegex P Q).rmatch (dottedQuad addr) = true ↔
      P.rmatch (octetText addr.a) = true ∧ Q.rmatch (octetText addr.b) = true := by
  have hc := (octetRegex.rmatch_iff_matches' _).mp (rmatch_octet addr.c)
  have hd := (octetRegex.rmatch_iff_matches' _).mp (rmatch_octet addr.d)
  unfold quadRegex dottedQuad
  rw [RegularExpression.rmatch_iff_matches', RegularExpression.rmatch_iff_matches',
    RegularExpression.rmatch_iff_matches', mem_separated hP (dot_not_mem_octetText _),
    mem_separated hQ (dot_not_mem_octetText _),
    mem_separated octetRegex_avoids (dot_not_mem_octetText _)]
  simp only [hc, hd, and_true]

theorem isPrivate_iff (addr : Address) :
    IsPrivate addr ↔
      addr.a = 10 ∨ (addr.a = 172 ∧ 16 ≤ addr.b ∧ addr.b ≤ 31) ∨ (addr.a = 192 ∧ addr.b = 168) := by
  obtain ⟨a, b, c, d⟩ := addr
  have ha := a.toNat_lt
  have hb := b.toNat_lt
  have hc := c.toNat_lt
  have hd := d.toNat_lt
  simp only [IsPrivate, InNetwork, Address.value, ← UInt8.toNat_inj, UInt8.le_iff_toNat_le,
    UInt8.reduceToNat]
  omega

theorem isLinkLocal_iff (addr : Address) : IsLinkLocal addr ↔ addr.a = 169 ∧ addr.b = 254 := by
  obtain ⟨a, b, c, d⟩ := addr
  have ha := a.toNat_lt
  have hb := b.toNat_lt
  have hc := c.toNat_lt
  have hd := d.toNat_lt
  simp only [IsLinkLocal, InNetwork, Address.value, ← UInt8.toNat_inj, UInt8.reduceToNat]
  omega

/-- The addresses that match: the private ones, and those with the digit too many. -/
theorem isLocalIPv4_iff (addr : Address) :
    isLocalIPv4 (dottedQuad addr) = true ↔ IsPrivate addr ∨ IsMisread addr := by
  have h10 : Avoids (literal (str "10")) dot := avoids_literal (by decide)
  have h172 : Avoids (literal (str "172")) dot := avoids_literal (by decide)
  have h192 : Avoids (literal (str "192")) dot := avoids_literal (by decide)
  have h168 : Avoids (literal (str "168")) dot := avoids_literal (by decide)
  have hdigit : Avoids digitRegex dot := avoids_oneOf (by decide)
  have h16 : Avoids from16Regex dot :=
    (avoids_literal (by decide)).mul (((avoids_oneOf (by decide)).between 1 1).mul
      (hdigit.between 0 1))
  have h20 : Avoids from20Regex dot :=
    (avoids_literal (by decide)).mul ((hdigit.between 1 1).mul (hdigit.between 0 1))
  have h30 : Avoids from30Regex dot :=
    (avoids_literal (by decide)).mul (((avoids_oneOf (by decide)).between 1 1).mul
      (hdigit.between 0 1))
  unfold isLocalIPv4 localIPv4Regex
  rw [RegularExpression.add_rmatch_iff, RegularExpression.add_rmatch_iff,
    RegularExpression.add_rmatch_iff, RegularExpression.add_rmatch_iff,
    rmatch_quadRegex h10 octetRegex_avoids, rmatch_quadRegex h172 h16, rmatch_quadRegex h172 h20,
    rmatch_quadRegex h172 h30, rmatch_quadRegex h192 h168, rmatch_10, rmatch_172, rmatch_192,
    rmatch_168, rmatch_from16, rmatch_from20, rmatch_from30, rmatch_octet, isPrivate_iff]
  simp only [decide_eq_true_eq, and_true]
  unfold IsMisread
  simp only [← UInt8.toNat_inj, UInt8.le_iff_toNat_le, UInt8.reduceToNat]
  omega

theorem IsMisread.not_isPrivate {addr : Address} (h : IsMisread addr) :
    ¬ IsPrivate addr ∧ ¬ IsLinkLocal addr := by
  rw [isPrivate_iff, isLinkLocal_iff]
  obtain ⟨ha, hb⟩ := h
  simp only [← UInt8.toNat_inj, UInt8.le_iff_toNat_le, UInt8.reduceToNat] at ha hb ⊢
  omega

theorem dottedQuad_inj {addr addr' : Address} (h : dottedQuad addr = dottedQuad addr') :
    addr = addr' := by
  obtain ⟨a, b, c, d⟩ := addr
  obtain ⟨a', b', c', d'⟩ := addr'
  obtain ⟨ha, h⟩ := append_cons_inj (dot_not_mem_octetText a) (dot_not_mem_octetText a') h
  obtain ⟨hb, h⟩ := append_cons_inj (dot_not_mem_octetText b) (dot_not_mem_octetText b') h
  obtain ⟨hc, hd⟩ := append_cons_inj (dot_not_mem_octetText c) (dot_not_mem_octetText c') h
  have hlast : octetText d = octetText d' := hd
  rw [octetText_inj ha, octetText_inj hb, octetText_inj hc, octetText_inj hlast]

theorem dottedQuad_ne_nil (addr : Address) : dottedQuad addr ≠ [] := by
  unfold dottedQuad
  simp

/-- The test for link-local addresses. -/
theorem startsWith_linkLocal_iff (addr : Address) :
    startsWith (dottedQuad addr) (str "169.254.") = true ↔ IsLinkLocal addr := by
  have hpattern : str "169.254." = octetText 169 ++ dot :: (octetText 254 ++ dot :: []) := by decide
  unfold startsWith
  rw [List.isPrefixOf_iff_prefix, isLinkLocal_iff, hpattern]
  constructor
  · rintro ⟨t, ht⟩
    rw [List.append_assoc, List.cons_append, List.append_assoc, List.cons_append] at ht
    obtain ⟨ha, ht⟩ := append_cons_inj (dot_not_mem_octetText 169) (dot_not_mem_octetText _) ht
    obtain ⟨hb, -⟩ := append_cons_inj (dot_not_mem_octetText 254) (dot_not_mem_octetText _) ht
    exact ⟨(octetText_inj ha).symm, (octetText_inj hb).symm⟩
  · rintro ⟨ha, hb⟩
    refine ⟨octetText addr.c ++ dot :: octetText addr.d, ?_⟩
    unfold dottedQuad
    rw [ha, hb]
    simp only [List.append_assoc, List.cons_append, List.nil_append]

/-! ## Interfaces -/

/-- The filter and the sorting. -/
theorem mem_getLocalNetInterfaces {windows onlyValid : Bool} {adapters : List NetworkInterface}
    {netIf : NetworkInterface} :
    netIf ∈ getLocalNetInterfaces windows onlyValid adapters ↔
      netIf ∈ adapters ∧
        (onlyValid = true → isVirtual windows netIf = false ∧ isLocalIPv4 netIf.ipAddress = true) := by
  unfold getLocalNetInterfaces
  rw [List.mem_mergeSort]
  cases onlyValid with
  | true => simp [List.mem_filter]
  | false => simp

/-- A broadcast goes out with the address of the interface as its source. -/
def Announced (inet : InetLib) (windows : Bool) (adapters : List NetworkInterface)
    (ipAddress : Str) : Prop :=
  ∃ target ∈ getBroadcastTargets inet windows adapters, target.sourceIP = ipAddress

theorem broadcastTarget_sourceIP {inet : InetLib} {netIf : NetworkInterface}
    {target : BroadcastTarget} (h : broadcastTarget inet netIf = some target) :
    target.sourceIP = netIf.ipAddress ∧
      (isLocalIPv4 netIf.ipAddress = true ∨
        startsWith netIf.ipAddress (str "169.254.") = true) := by
  unfold broadcastTarget at h
  by_cases hnil : netIf.ipAddress = []
  · rw [if_pos hnil] at h
    cases h
  · rw [if_neg hnil] at h
    by_cases hskip : (!isLocalIPv4 netIf.ipAddress &&
        !startsWith netIf.ipAddress (str "169.254.")) = true
    · rw [if_pos hskip] at h
      cases h
    · rw [if_neg hskip] at h
      cases hip : inet.pton netIf.ipAddress with
      | none =>
          rw [hip] at h
          cases h
      | some ip =>
          rw [hip] at h
          cases h
          refine ⟨rfl, ?_⟩
          simpa [Bool.and_eq_true, or_iff_not_imp_left] using hskip

theorem broadcastTarget_isSome {inet : InetLib} {netIf : NetworkInterface} {addr : Address}
    (hinet : inet.Reads) (haddr : netIf.ipAddress = dottedQuad addr)
    (h : isLocalIPv4 (dottedQuad addr) = true ∨ IsLinkLocal addr) :
    ∃ target, broadcastTarget inet netIf = some target := by
  have hkeep : ¬ (!isLocalIPv4 (dottedQuad addr) &&
      !startsWith (dottedQuad addr) (str "169.254.")) = true := by
    rcases h with h | h
    · simp [h]
    · simp [(startsWith_linkLocal_iff addr).mpr h]
  unfold broadcastTarget
  rw [haddr, if_neg (dottedQuad_ne_nil addr), if_neg hkeep, hinet addr]
  exact ⟨_, rfl⟩

/-- The addresses that are announced. -/
theorem announced_iff {inet : InetLib} {windows : Bool} {adapters : List NetworkInterface}
    {netIf : NetworkInterface} {addr : Address} (hinet : inet.Reads) (hmem : netIf ∈ adapters)
    (haddr : netIf.ipAddress = dottedQuad addr) :
    Announced inet windows adapters netIf.ipAddress ↔
      IsPrivate addr ∨ IsMisread addr ∨ IsLinkLocal addr := by
  rw [← or_assoc, ← isLocalIPv4_iff]
  unfold Announced getBroadcastTargets
  constructor
  · rintro ⟨target, htarget, hsource⟩
    obtain ⟨other, -, hother⟩ := List.mem_filterMap.mp htarget
    obtain ⟨heq, htest⟩ := broadcastTarget_sourceIP hother
    rw [← heq, hsource, haddr] at htest
    rwa [startsWith_linkLocal_iff] at htest
  · intro h
    obtain ⟨target, htarget⟩ := broadcastTarget_isSome hinet haddr h
    refine ⟨target, List.mem_filterMap.mpr ⟨netIf, ?_, htarget⟩,
      (broadcastTarget_sourceIP htarget).1⟩
    rw [mem_getLocalNetInterfaces]
    exact ⟨hmem, fun h => by cases h⟩

/-! ## Where the test is right -/

/-- No broadcast goes to a public network, and none to a private one is left out. -/
def AnnouncesRightly (inet : InetLib) (windows : Bool) (adapters : List NetworkInterface) : Prop :=
  ∀ netIf ∈ adapters, ∀ addr, netIf.ipAddress = dottedQuad addr →
    (Announced inet windows adapters netIf.ipAddress → IsPrivate addr ∨ IsLinkLocal addr) ∧
    (IsPrivate addr → Announced inet windows adapters netIf.ipAddress)

/-- Of the interfaces that are not virtual, the valid ones are those with a private address. -/
def FiltersRightly (windows : Bool) (adapters : List NetworkInterface) : Prop :=
  ∀ netIf ∈ adapters, isVirtual windows netIf = false → ∀ addr, netIf.ipAddress = dottedQuad addr →
    (netIf ∈ getLocalNetInterfaces windows true adapters ↔ IsPrivate addr)

/-- **Where the test for private addresses is right.** Of the addresses in dotted-quad notation,
`g_LocalIPv4Regex` tells the private ones from the others except for `172.160.0.0` and above in
`172.0.0.0/8`, which match as well. The broadcasts and the filter are right for the interfaces of a
machine exactly when none of these has such an address. -/
theorem localIPv4_right_iff (addr : Address) {inet : InetLib} (hinet : inet.Reads) (windows : Bool)
    (adapters : List NetworkInterface) :
    ((isLocalIPv4 (dottedQuad addr) = true ↔ IsPrivate addr) ↔ ¬ IsMisread addr) ∧
    (AnnouncesRightly inet windows adapters ↔
      ∀ netIf ∈ adapters, ∀ addr, netIf.ipAddress = dottedQuad addr → ¬ IsMisread addr) ∧
    (FiltersRightly windows adapters ↔
      ∀ netIf ∈ adapters, isVirtual windows netIf = false →
        ∀ addr, netIf.ipAddress = dottedQuad addr → ¬ IsMisread addr) := by
  have hright (addr : Address) : (IsPrivate addr ∨ IsMisread addr ↔ IsPrivate addr) ↔
      ¬ IsMisread addr := by
    constructor
    · intro h hmisread
      exact hmisread.not_isPrivate.1 (h.mp (Or.inr hmisread))
    · intro h
      exact or_iff_left h
  refine ⟨?_, ?_, ?_⟩
  · rw [isLocalIPv4_iff]
    exact hright addr
  · refine forall₂_congr fun netIf hmem => forall₂_congr fun addr haddr => ?_
    rw [announced_iff hinet hmem haddr]
    constructor
    · rintro ⟨h, -⟩ hmisread
      rcases h (Or.inr (Or.inl hmisread)) with h | h
      · exact hmisread.not_isPrivate.1 h
      · exact hmisread.not_isPrivate.2 h
    · intro h
      refine ⟨?_, Or.inl⟩
      rintro (hprivate | hmisread | hlocal)
      · exact Or.inl hprivate
      · exact absurd hmisread h
      · exact Or.inr hlocal
  · refine forall₂_congr fun netIf hmem => forall_congr' fun hvirtual =>
      forall₂_congr fun addr haddr => ?_
    have hmem' : netIf ∈ getLocalNetInterfaces windows true adapters ↔
        IsPrivate addr ∨ IsMisread addr := by
      rw [mem_getLocalNetInterfaces, haddr, isLocalIPv4_iff]
      simp [hmem, hvirtual]
    rw [hmem']
    exact hright addr

namespace Sample

def inet : InetLib where
  pton := fun s =>
    match (s.splitOn dot).map octetValue with
    | [a, b, c, d] => if dottedQuad ⟨a, b, c, d⟩ = s then some ⟨a, b, c, d⟩ else none
    | _ => none
  ntop := fun addr => some (dottedQuad addr)

theorem inet_reads : inet.Reads := by
  intro addr
  have hsplit : (dottedQuad addr).splitOn dot =
      [octetText addr.a, octetText addr.b, octetText addr.c, octetText addr.d] := by
    unfold dottedQuad
    rw [List.splitOn_append_cons_self_of_not_mem (dot_not_mem_octetText _),
      List.splitOn_append_cons_self_of_not_mem (dot_not_mem_octetText _),
      List.splitOn_append_cons_self_of_not_mem (dot_not_mem_octetText _),
      List.splitOn_eq_singleton (dot_not_mem_octetText _)]
  show (match ((dottedQuad addr).splitOn dot).map octetValue with
    | [a, b, c, d] => if dottedQuad ⟨a, b, c, d⟩ = dottedQuad addr then some ⟨a, b, c, d⟩ else none
    | _ => none) = some addr
  rw [hsplit]
  simp only [List.map_cons, List.map_nil, octetValue_octetText]
  exact if_pos trivial

def ethernet : NetworkInterface where
  ifName := str "eth0"
  ipAddress := str "192.168.1.20"
  netmask := str "255.255.255.0"

end Sample

/-- A machine in a home network. -/
theorem localIPv4_right_iff_sample :
    AnnouncesRightly Sample.inet false [Sample.ethernet] ∧
    FiltersRightly false [Sample.ethernet] := by
  have hright : ∀ addr, Sample.ethernet.ipAddress = dottedQuad addr → ¬ IsMisread addr := by
    intro addr haddr
    have hself : Sample.ethernet.ipAddress = dottedQuad ⟨192, 168, 1, 20⟩ := by decide
    rw [← dottedQuad_inj (hself.symm.trans haddr)]
    rintro ⟨h, -⟩
    exact absurd h (by decide)
  obtain ⟨-, hannounces, hfilters⟩ :=
    localIPv4_right_iff ⟨192, 168, 1, 20⟩ Sample.inet_reads false [Sample.ethernet]
  refine ⟨hannounces.mpr ?_, hfilters.mpr ?_⟩
  · intro netIf hmem
    rw [List.mem_singleton.mp hmem]
    exact hright
  · intro netIf hmem _
    rw [List.mem_singleton.mp hmem]
    exact hright

/-- `172.200.1.1` matches, although it is no private address. -/
theorem localIPv4_172_200 :
    isLocalIPv4 (str "172.200.1.1") = true ∧ str "172.200.1.1" = dottedQuad ⟨172, 200, 1, 1⟩ ∧
    ¬ ∀ addr, isLocalIPv4 (dottedQuad addr) = true ↔ IsPrivate addr := by
  have htext : str "172.200.1.1" = dottedQuad ⟨172, 200, 1, 1⟩ := by decide
  have hmisread : IsMisread ⟨172, 200, 1, 1⟩ := by
    unfold IsMisread
    decide
  have hmatch := (isLocalIPv4_iff ⟨172, 200, 1, 1⟩).mpr (Or.inr hmisread)
  refine ⟨htext ▸ hmatch, htext, ?_⟩
  intro h
  exact hmisread.not_isPrivate.1 ((h ⟨172, 200, 1, 1⟩).mp hmatch)

end PcbuDesktop
