import PcbuDesktop.Ssh.SshPrompt

set_option autoImplicit false

/-! # From a prompt back to its parts

OpenSSH renders a user and a host, or the path of a key, into the text of a prompt; `Parse` takes
the text apart again. In a password prompt it looks for the last `@`, which is the one that
OpenSSH has put there. In a key prompt it takes what stands between the first two apostrophes,
which is not the path when the path has an apostrophe of its own.
-/

namespace PcbuDesktop

/-! ## Searching -/

theorem rfind_eq_none {c : UInt8} {s : Str} (h : c ∉ s) : rfind c s = none := by
  induction s with
  | nil => rfl
  | cons d s ih =>
      have hne : d ≠ c := by
        intro heq
        exact h (by rw [heq]; exact List.mem_cons_self)
      have hrest := ih (fun hc => h (List.mem_cons_of_mem d hc))
      unfold rfind
      rw [hrest]
      exact if_neg hne

theorem rfind_append {c : UInt8} {s t : Str} (h : c ∉ t) :
    rfind c (s ++ c :: t) = some s.length := by
  induction s with
  | nil =>
      rw [List.nil_append, rfind, rfind_eq_none h]
      exact if_pos rfl
  | cons d s ih =>
      rw [List.cons_append, rfind, ih]
      rfl

/-- A text between two bytes that are no white space loses a blank behind it. -/
theorem trim_padded {a b : UInt8} (ha : isSpace a = false) (hb : isSpace b = false) {s m : Str}
    (hfront : s = m ++ [b]) (hhead : s.head? = some a) : trim (s ++ [32]) = s := by
  have hright : (s ++ [32]).rdropWhile isSpace = s := by
    rw [List.rdropWhile_concat_pos _ _ _ rfl, hfront, List.rdropWhile_concat_neg]
    rw [hb]
    exact nofun
  unfold trim
  rw [hright]
  cases s with
  | nil => rfl
  | cons c s =>
      cases hhead
      exact List.dropWhile_cons_of_neg (by rw [ha]; exact nofun)

namespace SshPrompt

/-! ## The prompts of OpenSSH -/

/-- The prompt for the password of a user at a host. -/
def passwordPrompt (user host : Str) : Str := user ++ str "@" ++ host ++ str "'s password: "

/-- The prompt for the passphrase of a key. -/
def keyPrompt (path : Str) : Str := str "Enter passphrase for key '" ++ path ++ str "': "

/-- A user name without leading white space. -/
def NoLeadingSpace (user : Str) : Prop := ∀ c, user.head? = some c → isSpace c = false

theorem trim_passwordPrompt {user : Str} (huser : NoLeadingSpace user) (host : Str) :
    trim (passwordPrompt user host) = user ++ str "@" ++ host ++ passwordSuffix := by
  have hpadded : passwordPrompt user host = (user ++ str "@" ++ host ++ passwordSuffix) ++ [32] := by
    have hsuffix : str "'s password: " = passwordSuffix ++ [32] := by decide
    rw [passwordPrompt, hsuffix, ← List.append_assoc]
  have hend : user ++ str "@" ++ host ++ passwordSuffix =
      (user ++ str "@" ++ host ++ str "'s password") ++ [58] := by
    have hcolon : passwordSuffix = str "'s password" ++ [58] := by decide
    rw [hcolon, ← List.append_assoc]
  rw [hpadded]
  cases user with
  | nil => exact trim_padded (a := 64) rfl (by decide) hend rfl
  | cons c user => exact trim_padded (huser c rfl) (by decide) hend rfl

/-- The last `@` is the one between user and host. -/
theorem parse_passwordPrompt {user host : Str} (huser : NoLeadingSpace user) (hhost : 64 ∉ host) :
    parse (passwordPrompt user host) = { kind := .password, user := user, host := host } := by
  have hsame : iequals passwordSuffix passwordSuffix = true := iequals_iff.mpr rfl
  have hat : user ++ str "@" ++ host = user ++ 64 :: host := by
    rw [List.append_assoc]
    rfl
  unfold parse
  rw [trim_passwordPrompt huser]
  dsimp only
  rw [if_pos (iendsWith_append hsame), ident_append hsame, hat, rfind_append hhost]
  dsimp only
  rw [List.take_left, List.drop_append]
  simp

/-! ## Key prompts -/

/-- The prompt without the blank at its end. -/
def keyText (path : Str) : Str := str "Enter passphrase for key " ++ 39 :: (path ++ 39 :: [58])

theorem trim_keyPrompt (path : Str) : trim (keyPrompt path) = keyText path := by
  have hpadded : keyPrompt path = keyText path ++ [32] := by
    have hstart : str "Enter passphrase for key '" = str "Enter passphrase for key " ++ [39] := by
      decide
    have hstop : str "': " = [39, 58] ++ [32] := by decide
    rw [keyPrompt, keyText, hstart, hstop]
    simp
  have hend : keyText path = (str "Enter passphrase for key " ++ 39 :: (path ++ [39])) ++ [58] := by
    simp [keyText]
  rw [hpadded]
  exact trim_padded (a := 69) (by decide) (by decide) hend rfl

/-- A key prompt has an apostrophe in front of its last byte, a password prompt a letter. -/
theorem iendsWith_keyText (path : Str) : iendsWith (keyText path) passwordSuffix = false := by
  rw [Bool.eq_false_iff]
  intro hend
  obtain ⟨ending, hs, heq⟩ := iendsWith_iff.mp hend
  have hreverse : (((keyText path).map toUpper).reverse).take 2 = _ :=
    congrArg (fun s => ((s.map toUpper).reverse).take 2) hs
  have hlast : (((keyText path).map toUpper).reverse).take 2 = [58, 39] := by
    simp [keyText, toUpper]
  rw [hlast, List.map_append, List.reverse_append, iequals_iff.mp heq,
    List.take_append_of_le_length (by decide)] at hreverse
  revert hreverse
  decide

theorem istartsWith_keyText (path : Str) :
    istartsWith (keyText path) (str "enter passphrase for") = true := by
  have htake : (keyText path).take (str "enter passphrase for").length =
      str "Enter passphrase for" := by
    unfold keyText
    rw [List.take_append_of_le_length (by decide)]
    decide
  unfold istartsWith
  rw [htake]
  decide

/-- What stands between the first two apostrophes. -/
theorem quoted_append {pre inner post : Str} (hpre : 39 ∉ pre) (hinner : 39 ∉ inner) :
    quoted (pre ++ 39 :: (inner ++ 39 :: post)) = inner := by
  have hfirst : find (str "'") (pre ++ 39 :: (inner ++ 39 :: post)) = some pre.length :=
    find_singleton hpre
  have hdrop : (pre ++ 39 :: (inner ++ 39 :: post)).drop (pre.length + 1) = inner ++ 39 :: post := by
    rw [List.drop_append]
    simp
  have hsecond : find (str "'") (inner ++ 39 :: post) = some inner.length := find_singleton hinner
  unfold quoted
  rw [hfirst]
  dsimp only
  rw [hdrop, hsecond]
  exact List.take_left

theorem parse_keyPrompt (path : Str) : parse (keyPrompt path) =
    (let keyPath := if quoted (keyText path) = [] then lastPath (keyText path)
      else quoted (keyText path)
    if keyPath = [] then {} else { kind := .key, keyPath := keyPath }) := by
  unfold parse
  rw [trim_keyPrompt]
  dsimp only
  rw [if_neg (by rw [iendsWith_keyText]; exact nofun),
    if_neg (by rw [istartsWith_keyText]; exact nofun)]

/-- The last word is taken only if it begins like a path. -/
theorem head_lastPath {prompt : Str} (h : (lastPath prompt).head? = some 39) : False := by
  have hword : ∀ token : Str, (if token.head? = some 47 ∨ token.head? = some 126 ∨
      token.head? = some 46 then token else []).head? ≠ some 39 := by
    intro token htoken
    split at htoken
    · next hpath =>
        rw [htoken] at hpath
        revert hpath
        decide
    · cases htoken
  exact hword _ h

theorem key_round_trip_iff {path : Str} (hne : path ≠ []) :
    ((parse (keyPrompt path)).kind = .key ∧ (parse (keyPrompt path)).keyPath = path) ↔
      39 ∉ path := by
  have hstart : 39 ∉ str "Enter passphrase for key " := by decide
  rw [parse_keyPrompt]
  constructor
  · rintro ⟨-, hpath⟩ hmem
    -- the text ends at the first apostrophe of the path
    obtain ⟨inner, rest, hsplit, hinner⟩ := List.eq_append_cons_of_mem hmem
    have hquoted : quoted (keyText path) = inner := by
      unfold keyText
      rw [hsplit, List.append_assoc]
      exact quoted_append hstart hinner
    rw [hquoted] at hpath
    dsimp only at hpath
    by_cases hempty : inner = []
    · -- a path that begins with an apostrophe is not what the last word can be
      rw [if_pos hempty] at hpath
      split at hpath
      · exact hne hpath.symm
      · subst hempty
        have hhead : (lastPath (keyText path)).head? = some 39 := by
          rw [show lastPath (keyText path) = path from hpath, hsplit]
          rfl
        exact head_lastPath hhead
    · rw [if_neg hempty, if_neg hempty] at hpath
      have hlen := congrArg List.length (show inner = path from hpath)
      rw [hsplit, List.length_append, List.length_cons] at hlen
      omega
  · intro hmem
    have hquoted : quoted (keyText path) = path := quoted_append hstart hmem
    rw [hquoted]
    dsimp only
    rw [if_neg hne, if_neg hne]
    exact ⟨rfl, rfl⟩

/-- **Prompts are read back.** A password prompt gives back user and host; a key prompt gives back
the path exactly when the path has no apostrophe. -/
theorem prompt_round_trip (user host path : Str) :
    (NoLeadingSpace user → 64 ∉ host →
      parse (passwordPrompt user host) = { kind := .password, user := user, host := host }) ∧
    (path ≠ [] →
      (((parse (keyPrompt path)).kind = .key ∧ (parse (keyPrompt path)).keyPath = path) ↔
        39 ∉ path)) := by
  constructor
  · exact fun huser hhost => parse_passwordPrompt huser hhost
  · exact fun hne => key_round_trip_iff hne

/-- A user name with the very delimiters of the prompt, and a path with blanks. -/
theorem prompt_round_trip_sample :
    parse (passwordPrompt (str "a@b's password: ") (str "host")) =
        { kind := .password, user := str "a@b's password: ", host := str "host" } ∧
      (parse (keyPrompt (str "/home/me/my key:"))).keyPath = str "/home/me/my key:" := by
  have huser : NoLeadingSpace (str "a@b's password: ") := by
    intro c hc
    cases hc
    decide
  obtain ⟨hpassword, hkey⟩ :=
    prompt_round_trip (str "a@b's password: ") (str "host") (str "/home/me/my key:")
  exact ⟨hpassword huser (by decide), ((hkey (by decide)).mpr (by decide)).2⟩

/-- The key of a user with an apostrophe in the name of a directory is looked up under another
path. -/
theorem key_path_cut :
    (parse (keyPrompt (str "/home/o'neil/.ssh/id_rsa"))).keyPath = str "/home/o" ∧
      ¬ ((parse (keyPrompt (str "/home/o'neil/.ssh/id_rsa"))).kind = .key ∧
        (parse (keyPrompt (str "/home/o'neil/.ssh/id_rsa"))).keyPath =
          str "/home/o'neil/.ssh/id_rsa") := by
  decide +kernel

end SshPrompt

end PcbuDesktop
