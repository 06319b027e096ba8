import PcbuDesktop.Basic.StringUtils
import PcbuDesktop.Handler.Aggregate

set_option autoImplicit false

/-! # The prompts of `pcbu-ssh-askpass`

OpenSSH starts `pcbu-ssh-askpass` with the text of a prompt, and takes what it prints as the answer.
`SshPrompt::Parse` (`natives/pcbu-ssh-askpass/src/SshPrompt.cpp`) finds out what the prompt asks for,
`FindMatch` looks for a stored server, and `runMain` prints its password after an unlock.

OpenSSH asks for a password with `user@host's password:`. It also shows prompts that the server sends,
with `(user@host) ` in front of them. `Parse` looks at the end of a password prompt only, so that such a
text can pass for a prompt of OpenSSH about another host. A prompt for a key is recognized by its
beginning, and a text of the server cannot pass for one.
-/

namespace PcbuDesktop

/-! ## Texts -/

/-- `toupper` in the C locale. -/
def toUpper (c : UInt8) : UInt8 := if 97 ≤ c ∧ c ≤ 122 then c - 32 else c

/-- `boost::algorithm::iequals`. -/
def iequals (s t : Str) : Bool := s.map toUpper = t.map toUpper

/-- `boost::algorithm::iends_with`. -/
def iendsWith (s t : Str) : Bool := decide (t.length ≤ s.length) && iequals (s.drop (s.length - t.length)) t

/-- `boost::algorithm::istarts_with`. -/
def istartsWith (s t : Str) : Bool := iequals (s.take t.length) t

/-- `str.rfind(c)`: the last position of `c`. -/
def rfind (c : UInt8) : Str → Option Nat
  | [] => none
  | d :: s =>
      match rfind c s with
      | some pos => some (pos + 1)
      | none => if d = c then some 0 else none

/-! ## `SshPrompt` -/

inductive SshPromptKind where
  | unknown
  | password
  | key
  deriving DecidableEq, Repr

structure SshPrompt where
  kind : SshPromptKind := .unknown
  user : Str := []
  host : Str := []
  keyPath : Str := []
  deriving DecidableEq, Repr

/-- The functions of `boost::filesystem`; `none` where they set an error code. -/
structure PathLib where
  /-- `fs::path(dir) / path` -/
  join : Str → Str → Str
  absolute : Str → Option Str
  weaklyCanonical : Str → Option Str
  lexicallyNormal : Str → Str

def canonicalizePath (lib : PathLib) (path homeDir : Str) : Str :=
  let expanded :=
    if path = str "~" then homeDir
    else if (str "~/").isPrefixOf path then lib.join homeDir (path.drop 2)
    else path
  match lib.absolute expanded with
  | none => expanded
  | some absolute =>
      match lib.weaklyCanonical absolute with
      | none => lib.lexicallyNormal absolute
      | some canonical => canonical

def passwordSuffix : Str := str "'s password:"

namespace SshPrompt

/-- What stands before the suffix of a password prompt. -/
def ident (prompt : Str) : Str := prompt.take (prompt.length - passwordSuffix.length)

/-- The text between the first two apostrophes. -/
def quoted (prompt : Str) : Str :=
  match find (str "'") prompt with
  | none => []
  | some start =>
      match find (str "'") (prompt.drop (start + 1)) with
      | none => []
      | some len => (prompt.drop (start + 1)).take len

/-- The last word, without a colon, if it looks like a path. -/
def lastPath (prompt : Str) : Str :=
  let text := if prompt.getLast? = some 58 then prompt.dropLast else prompt
  let token :=
    match rfind 32 text with
    | none => text
    | some space => text.drop (space + 1)
  if token.head? = some 47 ∨ token.head? = some 126 ∨ token.head? = some 46 then token else []

/-- `SshPrompt::Parse`. -/
def parse (raw : Str) : SshPrompt :=
  let prompt := trim raw
  if iendsWith prompt passwordSuffix then
    match rfind 64 (ident prompt) with
    | some pos =>
        { kind := .password, user := (ident prompt).take pos, host := (ident prompt).drop (pos + 1) }
    | none => { kind := .password, host := ident prompt }
  else if istartsWith prompt (str "enter passphrase for") = false then {}
  else
    let keyPath := if quoted prompt = [] then lastPath prompt else quoted prompt
    if keyPath = [] then {} else { kind := .key, keyPath := keyPath }

/-- `SshPrompt::GetDisplayName`. -/
def getDisplayName (p : SshPrompt) : Str :=
  let target :=
    match p.kind with
    | .password => if p.user = [] then p.host else p.user ++ str "@" ++ p.host
    | .key => p.keyPath
    | .unknown => []
  let printable := trim (target.filter (fun c => !(decide (c < 32) || c = 127)))
  if printable = [] then str "ssh" else str "ssh " ++ truncate printable 128 (str "...")

/-- The predicate of `FindMatch`. -/
def matchesServer (p : SshPrompt) (lib : PathLib) (homeDir : Str) (server : SshServer) : Bool :=
  match p.kind with
  | .password =>
      if server.host = [] ∨ p.host = [] then false
      else if iequals server.host p.host = false then false
      else server.user = [] || server.user = p.user
  | .key =>
      if server.keyPath = [] ∨ p.keyPath = [] then false
      else canonicalizePath lib server.keyPath homeDir = canonicalizePath lib p.keyPath homeDir
  | .unknown => false

/-- `SshPrompt::FindMatch`: for a password, a server with a user comes first. -/
def findMatch (p : SshPrompt) (lib : PathLib) (device : PairedDevice) (homeDir : Str) :
    Option SshServer :=
  let specific :=
    if p.kind = .password then
      device.sshServers.find? (fun server => p.matchesServer lib homeDir server && !server.user.isEmpty)
    else none
  match specific with
  | some server => some server
  | none => device.sshServers.find? (p.matchesServer lib homeDir)

end SshPrompt

/-! ## `runMain` -/

/-- What `runMain` gets from elsewhere. -/
structure AskEnv where
  paths : PathLib
  /-- `PairedDevicesStorage::GetDevicesForUser(userName)` -/
  devices : List PairedDevice
  /-- `handler.GetResult(userName, program, deviceIds, nullptr)` -/
  getResult : Str → List Str → UnlockResult
  /-- `PlatformHelper::CheckLogin(userName, password)` succeeds -/
  checkLogin : Str → Bool
  /-- `CryptUtils::DecryptAES` -/
  decryptAES : Str → Str → Option Str

/-- What `runMain` ends with: the user is asked on the terminal, or a password is printed. -/
inductive AskAnswer where
  /-- `TtyPrompt::ReadPassword(rawPrompt)` -/
  | readPassword (rawPrompt : Str)
  | print (password : Str)
  deriving DecidableEq, Repr

/-- The function `unlock` of `runMain`: the password, or the key of the message about the failure (a
failed unlock has been reported by the handler). -/
def unlockSsh (env : AskEnv) (prompt : SshPrompt) (deviceIds : List Str) (userName homeDir : Str) :
    Except (Option String) Str :=
  let result := env.getResult prompt.getDisplayName deviceIds
  let isLoginValid := decide (result.state = .success ∧ userName = result.device.userName) &&
    env.checkLogin result.password
  if result.state ≠ .success then .error none
  else if isLoginValid = false then .error (some "error_password")
  else
    match prompt.findMatch env.paths result.device homeDir with
    | none => .error (some "error_ssh_wrong_device")
    | some server =>
        match env.decryptAES server.passwordEnc result.passwordKey with
        | none => .error (some "error_password_decrypt")
        | some sshPw => .ok sshPw

/-- `runMain`, with the arguments after the name of the program: the answer, and the messages. -/
def runMain (env : AskEnv) (args : List Str) (userName homeDir : Str) : AskAnswer × List String :=
  let rawPrompt := args.headD []
  let prompt := SshPrompt.parse rawPrompt
  if prompt.kind = .unknown then (.readPassword rawPrompt, [])
  else
    let deviceIds := (env.devices.filter (fun device =>
      (prompt.findMatch env.paths device homeDir).isSome)).map PairedDevice.id
    if deviceIds = [] then (.readPassword rawPrompt, [])
    else
      match unlockSsh env prompt deviceIds userName homeDir with
      | .ok sshPw => (.print sshPw, [])
      | .error message => (.readPassword rawPrompt, message.toList)

/-! ## Which prompts are accepted -/

section

theorem iequals_iff {s t : Str} : iequals s t = true ↔ s.map toUpper = t.map toUpper := by
  rw [iequals, decide_eq_true_iff]

theorem length_eq_of_iequals {s t : Str} (h : iequals s t = true) : s.length = t.length := by
  have hlen := congrArg List.length (iequals_iff.mp h)
  rw [List.length_map, List.length_map] at hlen
  exact hlen

/-- A text that ends in `t` is the text before it, and `t` up to case. -/
theorem iendsWith_iff {s t : Str} : iendsWith s t = true ↔
    ∃ ending, s = s.take (s.length - t.length) ++ ending ∧ iequals ending t = true := by
  rw [iendsWith, Bool.and_eq_true, decide_eq_true_iff]
  constructor
  · rintro ⟨-, heq⟩
    exact ⟨_, (List.take_append_drop _ s).symm, heq⟩
  · rintro ⟨ending, hs, heq⟩
    have hlen := length_eq_of_iequals heq
    have htotal := congrArg List.length hs
    rw [List.length_append, List.length_take] at htotal
    refine ⟨by omega, ?_⟩
    have happend : s.take (s.length - t.length) ++ s.drop (s.length - t.length) =
        s.take (s.length - t.length) ++ ending := by
      rw [List.take_append_drop]
      exact hs
    rw [List.append_cancel_left happend]
    exact heq

namespace SshPrompt

/-- A password prompt is recognized by its end only. -/
theorem parse_kind_eq_password {raw : Str} :
    (parse raw).kind = .password ↔ iendsWith (trim raw) passwordSuffix = true := by
  unfold parse
  dsimp only
  constructor
  · intro hkind
    by_contra hend
    rw [if_neg hend] at hkind
    split at hkind
    · cases hkind
    · generalize (if quoted (trim raw) = [] then lastPath (trim raw) else quoted (trim raw)) = path at hkind
      split at hkind <;> cases hkind
  · intro hend
    rw [if_pos hend]
    split <;> rfl

/-- A byte of a user or a host: no white space and no parenthesis. -/
def isPlain (c : UInt8) : Bool := !isSpace c && decide (c ≠ 40) && decide (c ≠ 41)

/-- The prompt is `[user@]host's password:` (the words in any case, as `Parse` has them). -/
def OwnPasswordPrompt (prompt : Str) : Prop :=
  ∃ user host ending, (∀ c ∈ user, isPlain c = true) ∧ (∀ c ∈ host, isPlain c = true) ∧
    iequals ending passwordSuffix = true ∧
    (prompt = user ++ str "@" ++ host ++ ending ∨ prompt = host ++ ending)

/-- Nothing stands before the end of a password prompt but plain bytes. -/
def PlainIdent (prompt : Str) : Prop :=
  iendsWith prompt passwordSuffix = true → ∀ c ∈ ident prompt, isPlain c = true

theorem ident_append {s ending : Str} (h : iequals ending passwordSuffix = true) :
    ident (s ++ ending) = s := by
  unfold ident
  rw [List.length_append, length_eq_of_iequals h, Nat.add_sub_cancel, List.take_left]

theorem iendsWith_append {s ending : Str} (h : iequals ending passwordSuffix = true) :
    iendsWith (s ++ ending) passwordSuffix = true := by
  have hident : ident (s ++ ending) = s := ident_append h
  refine iendsWith_iff.mpr ⟨ending, ?_, h⟩
  unfold ident at hident
  rw [hident]

/-- The form of a password prompt, by its bytes. -/
theorem ownPasswordPrompt_iff {prompt : Str} : OwnPasswordPrompt prompt ↔
    iendsWith prompt passwordSuffix = true ∧ ∀ c ∈ ident prompt, isPlain c = true := by
  constructor
  · rintro ⟨user, host, ending, huser, hhost, hending, rfl | rfl⟩
    · refine ⟨iendsWith_append hending, ?_⟩
      rw [ident_append hending]
      intro c hc
      rcases List.mem_append.mp hc with hc | hc
      · rcases List.mem_append.mp hc with hc | hc
        · exact huser c hc
        · rw [List.mem_singleton.mp hc]
          rfl
      · exact hhost c hc
    · refine ⟨iendsWith_append hending, ?_⟩
      rw [ident_append hending]
      exact hhost
  · rintro ⟨hend, hplain⟩
    obtain ⟨ending, hprompt, hending⟩ := iendsWith_iff.mp hend
    exact ⟨[], ident prompt, ending, nofun, hplain, hending, Or.inr hprompt⟩

/-! ## Prompts of the server -/

/-- A prompt that the server `host` sends in the session of `user`, as OpenSSH shows it. -/
def serverPrompt (user host text : Str) : Str := str "(" ++ user ++ str "@" ++ host ++ str ") " ++ text

/-- Trimming keeps a first byte that is no white space. -/
theorem trim_cons {c : UInt8} (h : isSpace c = false) (s : Str) : ∃ t, trim (c :: s) = c :: t := by
  have hright : ∃ t, (c :: s).rdropWhile isSpace = c :: t := by
    have hsuffix := List.rdropWhile_prefix isSpace (c :: s)
    cases hrest : (c :: s).rdropWhile isSpace with
    | nil =>
        have hall := List.rdropWhile_eq_nil_iff.mp hrest c List.mem_cons_self
        rw [h] at hall
        cases hall
    | cons d t =>
        rw [hrest] at hsuffix
        rw [(List.cons_prefix_cons.mp hsuffix).1]
        exact ⟨t, rfl⟩
  obtain ⟨t, ht⟩ := hright
  refine ⟨t, ?_⟩
  unfold trim
  rw [ht, List.dropWhile_cons_of_neg]
  rw [h]
  exact nofun

theorem trim_serverPrompt (user host text : Str) : ∃ t, trim (serverPrompt user host text) = 40 :: t :=
  trim_cons rfl _

/-- A prompt of the server is no password prompt with plain bytes only: it has a parenthesis. -/
theorem iendsWith_serverPrompt {user host text : Str} (h : PlainIdent (trim (serverPrompt user host text))) :
    iendsWith (trim (serverPrompt user host text)) passwordSuffix = false := by
  rw [Bool.eq_false_iff]
  intro hend
  obtain ⟨t, ht⟩ := trim_serverPrompt user host text
  obtain ⟨ending, hprompt, hending⟩ := iendsWith_iff.mp hend
  have hmem : (40 : UInt8) ∈ trim (serverPrompt user host text) := by
    rw [ht]
    exact List.mem_cons_self
  rw [hprompt] at hmem
  rcases List.mem_append.mp hmem with hident | hin
  · have hplain := h hend 40 hident
    cases hplain
  · have hupper : toUpper 40 ∈ ending.map toUpper := List.mem_map_of_mem hin
    rw [iequals_iff.mp hending] at hupper
    revert hupper
    decide

/-- A prompt of the server asks for no key. -/
theorem istartsWith_serverPrompt (user host text : Str) :
    istartsWith (trim (serverPrompt user host text)) (str "enter passphrase for") = false := by
  obtain ⟨t, ht⟩ := trim_serverPrompt user host text
  rw [ht, Bool.eq_false_iff]
  intro hstart
  have hupper := iequals_iff.mp hstart
  have hhead := congrArg List.head? hupper
  revert hhead
  exact nofun

theorem parse_serverPrompt {user host text : Str} (h : PlainIdent (trim (serverPrompt user host text))) :
    parse (serverPrompt user host text) = {} := by
  unfold parse
  dsimp only
  rw [if_neg, if_pos (istartsWith_serverPrompt user host text)]
  rw [iendsWith_serverPrompt h]
  exact nofun

theorem findMatch_unknown (lib : PathLib) (device : PairedDevice) (homeDir : Str) :
    findMatch {} lib device homeDir = none := by
  unfold findMatch
  dsimp only
  rw [if_neg nofun]
  exact List.find?_eq_none.mpr (fun _ _ => nofun)

end SshPrompt

/-- `runMain` prints nothing but the decrypted password of a server that `FindMatch` has found. -/
theorem runMain_print {env : AskEnv} {args : List Str} {userName homeDir password : Str}
    (h : (runMain env args userName homeDir).1 = .print password) :
    ∃ device server key, (SshPrompt.parse (args.headD [])).findMatch env.paths device homeDir = some server ∧
      env.decryptAES server.passwordEnc key = some password := by
  unfold runMain at h
  dsimp only at h
  split at h
  · cases h
  · split at h
    · cases h
    · split at h
      · next sshPw hunlock =>
          cases h
          unfold unlockSsh at hunlock
          dsimp only at hunlock
          split at hunlock
          · cases hunlock
          · split at hunlock
            · cases hunlock
            · split at hunlock
              · cases hunlock
              · next server hserver =>
                  split at hunlock
                  · cases hunlock
                  · next pw hdecrypt =>
                      cases hunlock
                      exact ⟨_, server, _, hserver, hdecrypt⟩
      · cases h

namespace SshPrompt

/-- Secrets are released for the prompts of OpenSSH only: a password prompt has its form, and a prompt
that a server sends selects, and prints, no password of another host. -/
structure OnlyOwnPrompts (raw : Str) : Prop where
  own : (parse raw).kind = .password → OwnPasswordPrompt (trim raw)
  selected : ∀ user host text, raw = serverPrompt user host text → ∀ lib device homeDir server,
    (parse raw).findMatch lib device homeDir = some server → iequals server.host host = true
  released : ∀ user host text, raw = serverPrompt user host text → ∀ env args userName homeDir password,
    (runMain env (raw :: args) userName homeDir).1 = .print password →
      ∃ (server : SshServer) (key : Str), iequals server.host host = true ∧
        env.decryptAES server.passwordEnc key = some password

/-- **Secrets are released for the prompts of OpenSSH only, unless there is more than a user and a host
before the end of a password prompt.** -/
theorem only_own_prompts_iff (raw : Str) : OnlyOwnPrompts raw ↔ PlainIdent (trim raw) := by
  constructor
  · intro h hend
    have hown := h.own (parse_kind_eq_password.mpr hend)
    exact (ownPasswordPrompt_iff.mp hown).2
  · intro hplain
    -- what the server sends is then no prompt at all
    have hnone : ∀ user host text, raw = serverPrompt user host text → ∀ lib device homeDir,
        (parse raw).findMatch lib device homeDir = none := by
      rintro user host text rfl lib device homeDir
      rw [parse_serverPrompt hplain]
      exact findMatch_unknown lib device homeDir
    refine ⟨?_, ?_, ?_⟩
    · intro hkind
      have hend := parse_kind_eq_password.mp hkind
      exact ownPasswordPrompt_iff.mpr ⟨hend, hplain hend⟩
    · intro user host text hraw lib device homeDir server hfind
      rw [hnone user host text hraw] at hfind
      cases hfind
    · intro user host text hraw env args userName homeDir password hprint
      obtain ⟨device, server, key, hfind, -⟩ := runMain_print hprint
      have hnothing := hnone user host text hraw env.paths device homeDir
      rw [List.headD_cons, hnothing] at hfind
      cases hfind

end SshPrompt

end

namespace Sample

/-- A stored password for every user of the host `victim`. -/
def victim : SshServer := { host := str "victim", passwordEnc := str "enc" }

def sshPhone : PairedDevice := { id := str "phone", userName := str "me", sshServers := [victim] }

/-- The phone unlocks, and the password is decrypted. -/
def askEnv : AskEnv where
  paths := ⟨fun dir path => dir ++ str "/" ++ path, some, some, fun path => path⟩
  devices := [sshPhone]
  getResult := fun _ _ => { state := .success, device := sshPhone, passwordKey := str "key" }
  checkLogin := fun _ => true
  decryptAES := fun enc key => if enc = str "enc" ∧ key = str "key" then some (str "secret") else none

/-- What the server `evil` sends, as OpenSSH shows it. -/
def injected : Str := SshPrompt.serverPrompt (str "me") (str "evil") (str "x@victim's password: ")

end Sample

namespace SshPrompt

/-- The server `evil` gets the password of `victim`. -/
theorem releases_other_password : ¬ OnlyOwnPrompts Sample.injected ∧
    (parse Sample.injected).findMatch Sample.askEnv.paths Sample.sshPhone (str "/home/me") =
      some Sample.victim ∧
    iequals Sample.victim.host (str "evil") = false ∧
    (runMain Sample.askEnv [Sample.injected] (str "me") (str "/home/me")).1 = .print (str "secret") := by
  have hfind : (parse Sample.injected).findMatch Sample.askEnv.paths Sample.sshPhone (str "/home/me") =
      some Sample.victim := by
    decide +kernel
  have hother : iequals Sample.victim.host (str "evil") = false := by decide
  refine ⟨?_, hfind, hother, by decide +kernel⟩
  intro h
  have hsame := h.selected _ _ _ rfl _ _ _ _ hfind
  rw [hother] at hsame
  cases hsame

end SshPrompt

end PcbuDesktop
