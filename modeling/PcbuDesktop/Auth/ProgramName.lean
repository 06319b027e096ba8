import PcbuDesktop.Auth.ServiceName
import PcbuDesktop.Basic.Utf8
import PcbuDesktop.Ssh.SshPrompt
import PcbuDesktop.Unlock.Connection

set_option autoImplicit false

/-! # Program names for the phone

The name of the program that asks for an unlock, from `GetServiceName` or `SshPrompt::GetDisplayName`,
goes to the phone in a JSON text, and the JSON library throws on a string that is not valid UTF-8. Both
functions keep the text valid up to `StringUtils::Truncate`, which cuts at a byte: a name stays valid
exactly when the cut does not go through a character.
-/

namespace PcbuDesktop

open Buffer Lines

/-! ## `StringUtils::Truncate` -/

/-- Where a text that is too long is cut. -/
def cutPos (maxLen : Nat) (ellipsis : Str) : Nat :=
  if maxLen > ellipsis.length then maxLen - ellipsis.length else maxLen

/-- The text is short enough, or no character goes on where it is cut. -/
def CutsBetween (s : Str) (maxLen : Nat) (ellipsis : Str) : Prop :=
  s.length > maxLen → NoTail (s.drop (cutPos maxLen ellipsis))

/-- **Truncation keeps a text valid** exactly when it cuts between two characters. -/
theorem validUtf8_truncate_iff {s ellipsis : Str} (hs : validUtf8 s = true)
    (hellipsis : validUtf8 ellipsis = true) (maxLen : Nat) :
    validUtf8 (truncate s maxLen ellipsis) = true ↔ CutsBetween s maxLen ellipsis := by
  unfold truncate CutsBetween cutPos
  by_cases hlong : s.length > maxLen
  · rw [if_pos hlong, forall_prop_of_true hlong]
    by_cases hroom : maxLen > ellipsis.length
    · rw [if_pos hroom, if_pos hroom]
      exact validUtf8_take_append_iff hs hellipsis _
    · rw [if_neg hroom, if_neg hroom]
      exact validUtf8_take_iff hs _
  · rw [if_neg hlong]
    exact iff_of_true hs (fun h => absurd h hlong)

theorem length_truncate_le (s : Str) (maxLen : Nat) (ellipsis : Str) :
    (truncate s maxLen ellipsis).length ≤ maxLen := by
  unfold truncate
  split
  · split
    · rw [List.length_append, List.length_take]
      omega
    · rw [List.length_take]
      omega
  · omega

/-! ## `GetServiceName` -/

theorem validUtf8_ascii {s : Str} (hs : ∀ b ∈ s, b < 0x80) : validUtf8 s = true := by
  have h := validUtf8_ascii_append hs []
  rwa [List.append_nil] at h

theorem validUtf8_pidText (ppid : UInt32) : validUtf8 (pidText ppid) = true := by
  have hstart : ∀ b ∈ str "PID ", b < 0x80 := by decide +kernel
  refine validUtf8_ascii ?_
  intro b hb
  rcases List.mem_append.mp hb with hb | hb
  · exact hstart b hb
  · obtain ⟨c, hc, rfl⟩ := List.mem_map.mp hb
    have hdigit := Nat.isDigit_of_mem_toDigits (by decide) (by decide) hc
    simp only [Char.isDigit, Bool.and_eq_true, decide_eq_true_iff] at hdigit
    have hle : c.val.toNat ≤ 57 := UInt32.le_iff_toNat_le.mp hdigit.2
    rw [UInt8.lt_iff_toNat_lt]
    show c.val.toNat % 256 < 128
    omega

theorem length_pidText_le (ppid : UInt32) : (pidText ppid).length ≤ 256 := by
  have hlen : (Nat.toDigits 10 ppid.toNat).length ≤ 10 := by
    rw [Nat.length_toDigits_le_iff (by decide) (by decide)]
    have := ppid.toNat_lt
    omega
  have hstart : (str "PID ").length = 4 := by decide
  rw [pidText, List.length_append, List.length_map]
  omega

/-- A valid text in front of another one does not matter. -/
theorem validUtf8_append {s : Str} (hs : validUtf8 s = true) (t : Str) :
    validUtf8 (s ++ t) = validUtf8 t := by
  refine validUtf8_induction (P := fun s => validUtf8 (s ++ t) = validUtf8 t) rfl ?_ hs
  intro c u hc _ ih
  rw [List.append_assoc, hc.validUtf8_append, ih]

/-- The parts of a valid buffer are valid. -/
theorem validUtf8_of_unlines {ws : List Str} {t : Str} (h : validUtf8 (unlines 0 ws ++ t) = true) :
    (∀ w ∈ ws, validUtf8 w = true) ∧ validUtf8 t = true := by
  induction ws with
  | nil => exact ⟨nofun, h⟩
  | cons w ws ih =>
      have htext : unlines 0 (w :: ws) ++ t = w ++ 0 :: (unlines 0 ws ++ t) := by simp [unlines]
      have hnul : NoTail (0 :: (unlines 0 ws ++ t)) := by
        intro b hb
        cases hb
        rfl
      rw [htext] at h
      have hw := validUtf8_of_append h hnul
      rw [validUtf8_append hw] at h
      have hzero : Utf8Char [0] := .one (by decide)
      have hrest : validUtf8 (unlines 0 ws ++ t) = true := by
        rw [← hzero.validUtf8_append]
        exact h
      exact ⟨List.forall_mem_cons.mpr ⟨hw, (ih hrest).1⟩, (ih hrest).2⟩

theorem validUtf8_intercalate {ws : List Str} (h : ∀ w ∈ ws, validUtf8 w = true) :
    validUtf8 ([32].intercalate ws) = true := by
  have hblank : Utf8Char [32] := .one (by decide)
  cases ws with
  | nil => rfl
  | cons w ws =>
      obtain ⟨hw, hws⟩ := List.forall_mem_cons.mp h
      rw [intercalate_cons, validUtf8_append hw]
      clear h
      induction ws with
      | nil => rfl
      | cons v ws ih =>
          obtain ⟨hv, hws⟩ := List.forall_mem_cons.mp hws
          rw [List.flatMap_cons, List.cons_append]
          show validUtf8 ([32] ++ (v ++ _)) = true
          rw [hblank.validUtf8_append, validUtf8_append hv]
          exact ih hws

theorem validUtf8_joined (isApple : Bool) {cmdline : Bytes} (h : validUtf8 cmdline = true) :
    validUtf8 (joined isApple cmdline) = true := by
  refine validUtf8_intercalate ?_
  intro w hw
  have hmem : w ∈ cmdline.splitOn 0 := List.mem_of_mem_filter (List.mem_of_mem_drop hw)
  rw [← unlines_complete_append_rest (c := 0) cmdline] at h
  obtain ⟨hcomplete, hrest⟩ := validUtf8_of_unlines h
  rw [← complete_append_rest] at hmem
  rcases List.mem_append.mp hmem with hmem | hmem
  · exact hcomplete w hmem
  · rw [List.mem_singleton.mp hmem]
    exact hrest

/-! ## `SshPrompt::GetDisplayName` -/

namespace SshPrompt

/-- What the prompt is about. -/
def target (p : SshPrompt) : Str :=
  match p.kind with
  | .password => if p.user = [] then p.host else p.user ++ str "@" ++ p.host
  | .key => p.keyPath
  | .unknown => []

/-- The target without control characters, and trimmed. -/
def shownTarget (p : SshPrompt) : Str :=
  trim (p.target.filter (fun c => !(decide (c < 32) || c = 127)))

theorem getDisplayName_eq (p : SshPrompt) : p.getDisplayName =
    if p.shownTarget = [] then str "ssh"
    else str "ssh " ++ truncate p.shownTarget 128 (str "...") := rfl

theorem validUtf8_shownTarget {p : SshPrompt} (h : validUtf8 p.target = true) :
    validUtf8 p.shownTarget = true := by
  refine validUtf8_trim (validUtf8_filter h ?_)
  intro b hb
  rw [UInt8.lt_iff_toNat_lt]
  show b.toNat < 128
  simp only [Bool.not_eq_false', Bool.or_eq_true, decide_eq_true_iff, UInt8.lt_iff_toNat_lt] at hb
  rcases hb with hb | rfl
  · have hlt : b.toNat < 32 := hb
    omega
  · decide

theorem length_getDisplayName_le (p : SshPrompt) : p.getDisplayName.length ≤ 4 + 128 := by
  have hshort : (str "ssh").length = 3 := by decide
  have hstart : (str "ssh ").length = 4 := by decide
  have hcut := length_truncate_le p.shownTarget 128 (str "...")
  rw [getDisplayName_eq]
  split
  · omega
  · rw [List.length_append]
    omega

theorem validUtf8_getDisplayName_iff {p : SshPrompt} (h : validUtf8 p.target = true) :
    validUtf8 p.getDisplayName = true ↔ CutsBetween p.shownTarget 128 (str "...") := by
  have hstart : validUtf8 (str "ssh ") = true := by decide
  rw [getDisplayName_eq]
  by_cases hnil : p.shownTarget = []
  · rw [if_pos hnil, hnil]
    exact iff_of_true (by decide) nofun
  · rw [if_neg hnil, validUtf8_append hstart]
    exact validUtf8_truncate_iff (validUtf8_shownTarget h) (by decide) 128

end SshPrompt

/-! ## `SendUnlockRequest` -/

mutual

/-- Every string of the value is valid. -/
def Json.allUtf8 : Json → Bool
  | .str s => validUtf8 s
  | .arr xs => Json.allUtf8List xs
  | .obj fields => Json.allUtf8Fields fields
  | _ => true

def Json.allUtf8List : List Json → Bool
  | [] => true
  | x :: xs => Json.allUtf8 x && Json.allUtf8List xs

def Json.allUtf8Field : String × Json → Bool
  | (_, x) => Json.allUtf8 x

def Json.allUtf8Fields : List (String × Json) → Bool
  | [] => true
  | x :: xs => Json.allUtf8Field x && Json.allUtf8Fields xs

end

/-- With `error_handler_t::strict`, the default, `dump` throws on a string that is not valid UTF-8, and
only then. -/
def JsonLib.Strict (lib : JsonLib) : Prop := ∀ j, (lib.dump j).isSome = j.allUtf8

theorem hexDigit_lt {n : UInt8} (h : n < 16) : hexDigit n < 0x80 := by
  have hall : ∀ k : Fin 16, hexDigit (UInt8.ofNat k) < 0x80 := by decide
  rw [UInt8.lt_iff_toNat_lt] at h
  have hn := hall ⟨n.toNat, h⟩
  rwa [UInt8.ofNat_toNat] at hn

theorem validUtf8_toHexString (data : Bytes) : validUtf8 (toHexString data) = true := by
  have hdigits (b : UInt8) : b / 16 < 16 ∧ b % 16 < 16 := by
    have h16 : UInt8.toNat 16 = 16 := rfl
    have hb := b.toNat_lt
    simp only [UInt8.lt_iff_toNat_lt, UInt8.toNat_div, UInt8.toNat_mod, h16]
    omega
  refine validUtf8_ascii ?_
  intro c hc
  obtain ⟨b, -, hc⟩ := List.mem_flatMap.mp hc
  simp only [List.mem_cons, List.not_mem_nil, or_false] at hc
  rcases hc with rfl | rfl
  · exact hexDigit_lt (hdigits b).1
  · exact hexDigit_lt (hdigits b).2

/-- With a valid user, token and device id the request is thrown away exactly when the name of the
program is not valid. -/
theorem buildUnlockRequest_threw_iff {env : Env} (hstrict : env.json.Strict) {c : Conn}
    {device : PairedDevice} {user program : Str} {seed : Nat} (huser : validUtf8 user = true)
    (htoken : validUtf8 c.unlockToken = true) (hid : validUtf8 device.id = true) :
    buildUnlockRequest env (c.setUnlockInfo user program) device seed = .threw ↔
      ¬ validUtf8 program = true := by
  have hdata : (env.json.dump (c.setUnlockInfo user program).requestData.toJson).isSome =
      validUtf8 program := by
    rw [hstrict]
    show (validUtf8 program && (validUtf8 c.unlockToken && (validUtf8 user && true))) = _
    rw [huser, htoken]
    simp
  unfold buildUnlockRequest
  cases hdump : env.json.dump (c.setUnlockInfo user program).requestData.toJson with
  | none =>
      rw [hdump, Option.isSome_none] at hdata
      rw [← hdata]
      exact iff_of_true rfl nofun
  | some encDataStr =>
      rw [hdump, Option.isSome_some] at hdata
      rw [← hdata]
      refine iff_of_false ?_ (fun h => h rfl)
      dsimp only
      split
      · exact nofun
      · -- the second text has only hexadecimal digits besides the id and the version
        generalize hpacket : PacketUnlockRequest.mk unlockProtocolVersion device.id
          (toHexString (env.crypt.encryptAESPacket seed encDataStr device.encryptionKey).data) = packet
        have hsome : (env.json.dump packet.toJson).isSome = true := by
          rw [hstrict, ← hpacket]
          show (validUtf8 device.id && (validUtf8 (toHexString _) &&
            (validUtf8 unlockProtocolVersion && true))) = true
          have hversion : validUtf8 unlockProtocolVersion = true := by decide
          rw [hid, validUtf8_toHexString, hversion]
          rfl
        obtain ⟨text, htext⟩ := Option.isSome_iff_exists.mp hsome
        rw [htext]
        exact nofun

/-- A name of a program that can be sent to the phone: valid, of at most `maxLen` bytes, and no reason
for `SendUnlockRequest` to throw. -/
structure Sendable (program : Str) (maxLen : Nat) : Prop where
  valid : validUtf8 program = true
  length_le : program.length ≤ maxLen
  sent : ∀ (env : Env) (c : Conn) (device : PairedDevice) (user : Str) (seed : Nat),
    env.json.Strict → validUtf8 user = true → validUtf8 c.unlockToken = true →
    validUtf8 device.id = true →
    buildUnlockRequest env (c.setUnlockInfo user program) device seed ≠ .threw

theorem sendable_iff {program : Str} {maxLen : Nat} (hlen : program.length ≤ maxLen) :
    Sendable program maxLen ↔ validUtf8 program = true := by
  constructor
  · exact Sendable.valid
  · intro hvalid
    refine ⟨hvalid, hlen, ?_⟩
    intro env c device user seed hstrict huser htoken hid hthrew
    exact (buildUnlockRequest_threw_iff hstrict huser htoken hid).mp hthrew hvalid

/-- The name that `GetServiceName` gives can be sent exactly when it stays in its buffer and the cut
does not go through a character. -/
theorem service_name_sendable_iff (isApple : Bool) (ppid : UInt32) {cmdline : Bytes}
    (h : validUtf8 cmdline = true) :
    (∃ program, getServiceName isApple ppid (some cmdline) = .ok program ∧ Sendable program 256) ↔
      Terminated cmdline ∧ CutsBetween (joined isApple cmdline) 256 (str "...") := by
  rw [getServiceName_eq]
  by_cases hterm : Terminated cmdline
  · rw [if_pos hterm, and_iff_right hterm]
    have hcut : validUtf8 (truncate (joined isApple cmdline) 256 (str "...")) = true ↔
        CutsBetween (joined isApple cmdline) 256 (str "...") :=
      validUtf8_truncate_iff (validUtf8_joined isApple h) (by decide) 256
    by_cases hnil : joined isApple cmdline = []
    · rw [if_pos hnil, hnil]
      refine iff_of_true ⟨_, rfl, ?_⟩ nofun
      exact (sendable_iff (length_pidText_le ppid)).mpr (validUtf8_pidText ppid)
    · rw [if_neg hnil, ← hcut, ← sendable_iff (length_truncate_le _ 256 _)]
      constructor
      · rintro ⟨program, hprogram, hsend⟩
        cases hprogram
        exact hsend
      · intro hsend
        exact ⟨_, rfl, hsend⟩
  · rw [if_neg hterm]
    refine iff_of_false ?_ (fun hboth => hterm hboth.1)
    rintro ⟨program, hprogram, -⟩
    cases hprogram

/-- **Any program name can be sent to the phone**, as long as `Truncate` cuts between two characters:
the law of `Truncate`, and what follows for `GetServiceName` and `GetDisplayName`. -/
theorem program_names_sendable_iff (s : Str) (maxLen : Nat) (isApple : Bool) (ppid : UInt32)
    (cmdline : Bytes) (p : SshPrompt) :
    (validUtf8 s = true →
      (validUtf8 (truncate s maxLen (str "...")) = true ↔ CutsBetween s maxLen (str "..."))) ∧
    (validUtf8 cmdline = true →
      ((∃ program, getServiceName isApple ppid (some cmdline) = .ok program ∧ Sendable program 256) ↔
        Terminated cmdline ∧ CutsBetween (joined isApple cmdline) 256 (str "..."))) ∧
    (validUtf8 p.target = true →
      (Sendable p.getDisplayName (4 + 128) ↔ CutsBetween p.shownTarget 128 (str "..."))) := by
  refine ⟨?_, ?_, ?_⟩
  · intro hs
    exact validUtf8_truncate_iff hs (by decide) maxLen
  · intro h
    exact service_name_sendable_iff isApple ppid h
  · intro h
    rw [sendable_iff p.length_getDisplayName_le]
    exact SshPrompt.validUtf8_getDisplayName_iff h

namespace Sample

/-- A byte of a string as `dump` prints it. -/
def dumpByte (c : UInt8) : Str :=
  if c = 34 ∨ c = 92 then [92, c]
  else if c < 32 then str "\\u00" ++ [hexDigit (c / 16), hexDigit (c % 16)]
  else [c]

mutual

/-- The text of a value; numbers are printed without a fraction. -/
def dumpValue : Json → Str
  | .null => str "null"
  | .bool b => str (if b then "true" else "false")
  | .int i => str (toString i)
  | .float q => str (toString q.floor)
  | .str s => [34] ++ s.flatMap dumpByte ++ [34]
  | .arr xs => [91] ++ dumpElements xs ++ [93]
  | .obj fields => [123] ++ dumpFields fields ++ [125]

def dumpElements : List Json → Str
  | [] => []
  | [x] => dumpValue x
  | x :: xs => dumpValue x ++ [44] ++ dumpElements xs

def dumpField : String × Json → Str
  | (key, x) => [34] ++ str key ++ [34, 58] ++ dumpValue x

def dumpFields : List (String × Json) → Str
  | [] => []
  | [x] => dumpField x
  | x :: xs => dumpField x ++ [44] ++ dumpFields xs

end

/-- A printer that throws on invalid strings, and a cipher that leaves the text as it is. -/
def sendEnv : Env where
  json :=
    { parse := fun _ => none
      dump := fun j => if j.allUtf8 then some (dumpValue j) else none }
  crypt :=
    { encryptAESPacket := fun _ data _ => { result := .ok, data := data }
      decryptAESPacket := fun _ data _ => { result := .ok, data := data }
      encryptAES := fun _ data _ => some data
      decryptAES := fun data _ => some data
      sha256 := fun text => text }

theorem sendEnv_strict : sendEnv.json.Strict := by
  intro j
  show (if j.allUtf8 then some (dumpValue j) else none).isSome = _
  cases j.allUtf8 with
  | true => rfl
  | false => rfl

/-- `caf\u00e9 -v` -/
def shortName : Bytes := str "caf" ++ [0xC3, 0xA9, 0] ++ str "-v" ++ [0]

/-- A name of 264 bytes, the 253rd and 254th of which are one character. -/
def longName : Bytes := List.replicate 252 97 ++ [0xC3, 0xA9] ++ List.replicate 10 98 ++ [0]

end Sample

theorem program_names_sendable_sample :
    (∃ program, getServiceName false 7 (some Sample.shortName) = .ok program ∧
      buildUnlockRequest Sample.sendEnv ((Conn.ofServer (str "T")).setUnlockInfo (str "me") program)
        {} 0 ≠ .threw) ∧
    validUtf8 (truncate (str "caf" ++ [0xC3, 0xA9]) 4 (str "...")) = true ∧
    validUtf8 (SshPrompt.getDisplayName { kind := .key, keyPath := str "/k" }) = true := by
  obtain ⟨hlaw, hservice, hssh⟩ := program_names_sendable_iff (str "caf" ++ [0xC3, 0xA9]) 4 false 7
    Sample.shortName { kind := .key, keyPath := str "/k" }
  obtain ⟨program, hprogram, hsend⟩ :=
    (hservice (by decide +kernel)).mpr ⟨by decide +kernel, by
      have hshort : ¬ (joined false Sample.shortName).length > 256 := by decide +kernel
      intro hlong
      exact absurd hlong hshort⟩
  have hcut : CutsBetween (str "caf" ++ [0xC3, 0xA9]) 4 (str "...") := by
    intro _ b hb
    have hbyte : b = 97 := by
      have hhead : ((str "caf" ++ [0xC3, 0xA9]).drop 1).head? = some 97 := by decide
      rw [show cutPos 4 (str "...") = 1 by decide, hhead] at hb
      exact (Option.some.inj hb).symm
    rw [hbyte]
    rfl
  refine ⟨⟨program, hprogram, ?_⟩, (hlaw (by decide)).mpr hcut, ?_⟩
  · exact hsend.sent Sample.sendEnv (Conn.ofServer (str "T")) {} (str "me") 0 Sample.sendEnv_strict
      (by decide) (by decide) (by decide)
  · have hshort : ¬ (SshPrompt.shownTarget { kind := .key, keyPath := str "/k" }).length > 128 := by
      decide +kernel
    exact ((hssh (by decide)).mpr (fun hlong => absurd hlong hshort)).valid

/-- The cut goes through a character, and the request is not sent. -/
theorem program_name_cut :
    validUtf8 Sample.longName = true ∧
      ∃ program, getServiceName false 7 (some Sample.longName) = .ok program ∧
        ¬ validUtf8 program = true ∧
        buildUnlockRequest Sample.sendEnv
          ((Conn.ofServer (str "T")).setUnlockInfo (str "me") program) {} 0 = .threw := by
  have hname : getServiceName false 7 (some Sample.longName) =
      .ok (List.replicate 252 97 ++ [0xC3] ++ str "...") := by
    decide +kernel
  have hinvalid : ¬ validUtf8 (List.replicate 252 97 ++ [0xC3] ++ str "...") = true := by
    decide +kernel
  refine ⟨by decide +kernel, _, hname, hinvalid, ?_⟩
  exact (buildUnlockRequest_threw_iff Sample.sendEnv_strict (by decide) (by decide)
    (by decide)).mpr hinvalid

end PcbuDesktop
