import PcbuDesktop.Windows.KerbLogon
import PcbuDesktop.Windows.UnlockCredential

set_option autoImplicit false

/-! # What the Windows credential hands over

`CUnlockCredential::GetSerialization` packs a password between its two sections of `_mutex`: for a local
user into a `KERB_INTERACTIVE_UNLOCK_LOGON`, for any other one with `CredPackAuthenticationBufferW`. Here
that part is put between the sections of `UnlockCredential`, with the results that listeners publish in a
log of their own.
-/

namespace PcbuDesktop

open Runs Buffer KerbLogon

namespace Serialization

/-! ## The calls into Windows -/

/-- The allocations for the strings of a local user. -/
inductive Allocation where
  | passwordCopy
  | passwordResult
  | toProtect
  | protectedPassword
  | domain
  | userName
  deriving DecidableEq, Repr

/-- What one `GetSerialization` gets from Windows. -/
structure WindowsCalls where
  allocates : Allocation → Bool
  /-- `CoTaskMemAlloc` for the serialization -/
  coTaskMemAlloc : Malloc
  /-- `CredIsProtectedW` succeeds, and the type is not `CredUnprotected` -/
  credIsProtected : PWSTR → Bool
  /-- the call of `CredProtectW` that asks for the length -/
  credProtectLength : PWSTR → Except HRESULT Unit
  credProtect : PWSTR → Except HRESULT PWSTR
  /-- the call of `CredPackAuthenticationBufferW` that asks for the size -/
  credPackSize : PWSTR → PWSTR → Option Nat
  credPack : PWSTR → PWSTR → Except HRESULT Bytes
  retrieveNegotiateAuthPackage : Except HRESULT Nat

/-- `SHStrDupW`. -/
def shStrDup (allocates : Bool) (s : PWSTR) : Except HRESULT PWSTR :=
  if allocates then .ok s else .error .E_OUTOFMEMORY

def STRSAFE_MAX_CCH : Nat := 2147483647

/-- `StringCchCopyNW`. -/
def stringCchCopyN (cchDest : Nat) (pszSrc : List UInt16) (cchToCopy : Nat) : Except HRESULT PWSTR :=
  if cchDest = 0 ∨ STRSAFE_MAX_CCH < cchDest then .error .invalidParameter
  else
    let copied := PWSTR.ofBuffer (pszSrc.take cchToCopy)
    if copied.length < cchDest then .ok copied else .error .insufficientBuffer

/-! ## The strings -/

section

variable (calls : WindowsCalls)

/-- `_ProtectAndCopyString`. -/
def protectAndCopyString (pwzToProtect : PWSTR) : Except HRESULT PWSTR := do
  let pwzToProtectCopy ← shStrDup (calls.allocates .toProtect) pwzToProtect
  calls.credProtectLength pwzToProtectCopy
  if calls.allocates .protectedPassword then calls.credProtect pwzToProtectCopy
  else .error .E_OUTOFMEMORY

/-- `ProtectIfNecessaryAndCopyPassword`. -/
def protectIfNecessaryAndCopyPassword (pwzPassword : PWSTR) (cpus : UsageScenario) :
    Except HRESULT PWSTR :=
  if pwzPassword.chars ≠ [] then do
    let pwzPasswordCopy ← shStrDup (calls.allocates .passwordCopy) pwzPassword
    if cpus = .credUI ∨ calls.credIsProtected pwzPasswordCopy then
      shStrDup (calls.allocates .passwordResult) pwzPasswordCopy
    else protectAndCopyString calls pwzPasswordCopy
  else shStrDup (calls.allocates .passwordResult) (.ofBuffer [])

def backslash : UInt16 := 0x5C

/-- `SplitDomainAndUsername`. -/
def splitDomainAndUsername (pszQualifiedUserName : PWSTR) : Except HRESULT (PWSTR × PWSTR) :=
  match pszQualifiedUserName.chars.idxOf? backslash with
  | none => .error .E_UNEXPECTED
  | some pchWhack =>
      let lenDomain := pchWhack
      if calls.allocates .domain then do
        let pszDomain ← stringCchCopyN (lenDomain + 1) pszQualifiedUserName.chars lenDomain
        let lenUsername := pszQualifiedUserName.length - (pchWhack + 1)
        if calls.allocates .userName then do
          let pszUsername ← stringCchCopyN (lenUsername + 1)
            (pszQualifiedUserName.chars.drop (pchWhack + 1)) lenUsername
          return (pszDomain, pszUsername)
        else .error .E_OUTOFMEMORY
      else .error .E_OUTOFMEMORY

end

/-! ## The serialization -/

inductive Blob where
  | kerb (block : PackedLogon) (cb : Nat)
  | credPack (bytes : Bytes)

/-- What `GetSerialization` returns: its result, whether it is `CPGSR_RETURN_CREDENTIAL_FINISHED`, and the
credential. -/
structure Output where
  hr : Except HRESULT Unit
  isFinished : Bool := false
  rgbSerialization : Option Blob := none
  ulAuthenticationPackage : Nat := 0

/-- The members of the credential that do not change after `Initialize`. -/
structure Tile where
  fIsLocalUser : Bool
  qualifiedUserName : PWSTR
  cpus : UsageScenario

def Tile.isCredUI (tile : Tile) : Bool := tile.cpus = .credUI

section

variable (tile : Tile) (calls : WindowsCalls)

/-- The logon of a local user, before it is packed. -/
def localLogon (pwd : PWSTR) : Except HRESULT (KerbInteractiveUnlockLogon PWSTR) := do
  let pwzProtectedPassword ← protectIfNecessaryAndCopyPassword calls pwd tile.cpus
  let (pszDomain, pszUsername) ← splitDomainAndUsername calls tile.qualifiedUserName
  kerbInteractiveUnlockLogonInit (some pszDomain) (some pszUsername) (some pwzProtectedPassword) tile.cpus

/-- The end of both branches. -/
def withAuthPackage (blob : Blob) (failed : Option Blob) : Output :=
  match calls.retrieveNegotiateAuthPackage with
  | .error hr => { hr := .error hr, rgbSerialization := failed }
  | .ok ulAuthPackage =>
      { hr := .ok (), isFinished := true, rgbSerialization := some blob
        ulAuthenticationPackage := ulAuthPackage }

/-- The branch for a local user. When no package is found, the block stays in the output. -/
def serializeLocal (pwd : PWSTR) : Except Stop Output :=
  match localLogon tile calls pwd with
  | .error hr => .ok { hr := .error hr }
  | .ok kiul =>
      match kerbInteractiveUnlockLogonPack calls.coTaskMemAlloc kiul with
      | .error stop => .error stop
      | .ok (.error hr) => .ok { hr := .error hr }
      | .ok (.ok (block, cb)) => .ok (withAuthPackage calls (.kerb block cb) (some (.kerb block cb)))

/-- The branch for another user. -/
def serializeOther (pwd : PWSTR) : Output :=
  match calls.credPackSize tile.qualifiedUserName pwd with
  | none => { hr := .error .E_UNEXPECTED }
  | some cbSerialization =>
      if (calls.coTaskMemAlloc.region cbSerialization).isSome then
        match calls.credPack tile.qualifiedUserName pwd with
        | .error hr => { hr := .error hr }
        | .ok bytes => withAuthPackage calls (.credPack bytes) none
      else { hr := .error .E_OUTOFMEMORY }

/-- `GetSerialization` between its two sections. -/
def serialize (pwd : PWSTR) : Except Stop Output :=
  if tile.fIsLocalUser then serializeLocal tile calls pwd else .ok (serializeOther tile calls pwd)

end

/-! ## What is serialized -/

/-- How Windows protects passwords. -/
structure Protection where
  credIsProtected : PWSTR → Bool
  credUnprotect : PWSTR → PWSTR

/-- The password that is meant by a text. -/
def Protection.revealed (protection : Protection) (text : PWSTR) : PWSTR :=
  if protection.credIsProtected text then protection.credUnprotect text else text

/-- The calls are those of this Windows: it knows a protected text, and finds the password in it. -/
structure WindowsCalls.ProtectedBy (calls : WindowsCalls) (protection : Protection) : Prop where
  credIsProtected : calls.credIsProtected = protection.credIsProtected
  credProtect : ∀ s p, calls.credProtect s = .ok p →
    protection.credIsProtected p = true ∧ protection.credUnprotect p = s

theorem shStrDup_eq_ok {allocates : Bool} {s t : PWSTR} (h : shStrDup allocates s = .ok t) : t = s := by
  unfold shStrDup at h
  split at h
  · exact (Except.ok.inj h).symm
  · cases h

section

variable {tile : Tile} {calls : WindowsCalls}

/-- A text that is handed over for a password. What Windows takes for a protected password already goes as
it is; any other password is what the text means. -/
structure Protection.Means (protection : Protection) (text pwd : PWSTR) : Prop where
  same : protection.credIsProtected pwd = true → text = pwd
  reveals : protection.credIsProtected pwd = false → protection.revealed text = pwd

theorem Protection.Means.refl (protection : Protection) (pwd : PWSTR) : protection.Means pwd pwd where
  same := fun _ => rfl
  reveals := fun hplain => by
    unfold Protection.revealed
    rw [hplain]
    rfl

theorem protectIfNecessaryAndCopyPassword_means {protection : Protection}
    (hcalls : calls.ProtectedBy protection) {pwd text : PWSTR} {cpus : UsageScenario}
    (h : protectIfNecessaryAndCopyPassword calls pwd cpus = .ok text) : protection.Means text pwd := by
  unfold protectIfNecessaryAndCopyPassword at h
  split at h
  · obtain ⟨copy, hcopy, hresult⟩ := bind_eq_ok.mp h
    obtain rfl := shStrDup_eq_ok hcopy
    split at hresult
    · rw [shStrDup_eq_ok hresult]
      exact .refl ..
    · next hplain =>
        obtain ⟨-, hnot⟩ := not_or.mp hplain
        unfold protectAndCopyString at hresult
        obtain ⟨copy', hcopy', hlength⟩ := bind_eq_ok.mp hresult
        obtain rfl := shStrDup_eq_ok hcopy'
        obtain ⟨_, -, htext⟩ := bind_eq_ok.mp hlength
        split at htext
        · obtain ⟨hprotected, hpassword⟩ := hcalls.credProtect _ _ htext
          rw [hcalls.credIsProtected] at hnot
          refine ⟨fun hpwd => absurd hpwd hnot, fun _ => ?_⟩
          unfold Protection.revealed
          rw [if_pos hprotected, hpassword]
        · cases htext
  · next hempty =>
      have hpwd : pwd = .ofBuffer [] := PWSTR.ext (not_not.mp hempty)
      rw [shStrDup_eq_ok h, hpwd]
      exact .refl ..

theorem stringCchCopyN_eq_ok {cchToCopy : Nat} {src : List UInt16} {s : PWSTR}
    (h : stringCchCopyN (cchToCopy + 1) src cchToCopy = .ok s) (hsrc : 0 ∉ src) :
    s.chars = src.take cchToCopy := by
  unfold stringCchCopyN at h
  split at h
  · cases h
  · dsimp only at h
    split at h
    · rw [← Except.ok.inj h]
      exact PWSTR.ofBuffer_chars fun hzero => hsrc (List.mem_of_mem_take hzero)
    · cases h

/-- The name is split at its first backslash. -/
theorem splitDomainAndUsername_eq_ok {name domain user : PWSTR}
    (h : splitDomainAndUsername calls name = .ok (domain, user)) :
    name.chars = domain.chars ++ backslash :: user.chars ∧ backslash ∉ domain.chars := by
  unfold splitDomainAndUsername at h
  split at h
  · cases h
  · next pchWhack hwhack =>
      dsimp only at h
      split at h
      · obtain ⟨domain', hdomain, hname⟩ := bind_eq_ok.mp h
        split at hname
        · obtain ⟨user', huser, hpair⟩ := bind_eq_ok.mp hname
          obtain ⟨rfl, rfl⟩ := Prod.mk.inj (Except.ok.inj hpair)
          have hd := stringCchCopyN_eq_ok hdomain name.ends
          have hu := stringCchCopyN_eq_ok huser fun hzero => name.ends (List.mem_of_mem_drop hzero)
          obtain ⟨hlt, hat, hbefore⟩ := List.idxOf?_eq_some_iff.mp hwhack
          have hall : (name.chars.drop (pchWhack + 1)).take (name.length - (pchWhack + 1)) =
              name.chars.drop (pchWhack + 1) := by
            apply List.take_of_length_le
            rw [List.length_drop]
            rfl
          rw [hall] at hu
          rw [hd, hu]
          constructor
          · have hdrop := List.drop_eq_getElem_cons hlt
            rw [hat] at hdrop
            rw [← hdrop, List.take_append_drop]
          · intro hmem
            obtain ⟨j, hj, hback⟩ := List.mem_take_iff_getElem.mp hmem
            exact hbefore j (Nat.lt_min.mp hj).1 hback
        · cases hname
      · cases h

/-- What is packed for a local user: the two parts of the name, and a text for the password. -/
structure LocalLogon (tile : Tile) (calls : WindowsCalls) (pwd : PWSTR)
    (kiul : KerbInteractiveUnlockLogon PWSTR) (domain user text : PWSTR) : Prop where
  protects : protectIfNecessaryAndCopyPassword calls pwd tile.cpus = .ok text
  name : splitDomainAndUsername calls tile.qualifiedUserName = .ok (domain, user)
  init : kerbInteractiveUnlockLogonInit (some domain) (some user) (some text) tile.cpus = .ok kiul

theorem localLogon_eq_ok {pwd : PWSTR} {kiul : KerbInteractiveUnlockLogon PWSTR}
    (h : localLogon tile calls pwd = .ok kiul) :
    ∃ domain user text, LocalLogon tile calls pwd kiul domain user text := by
  obtain ⟨text, htext, hrest⟩ := bind_eq_ok.mp h
  obtain ⟨⟨domain, user⟩, hname, hinit⟩ := bind_eq_ok.mp hrest
  exact ⟨domain, user, text, htext, hname, hinit⟩

/-- No access leaves its memory. -/
theorem serialize_ne_fault (tile : Tile) (calls : WindowsCalls) (pwd : PWSTR) :
    ∃ output, serialize tile calls pwd = .ok output := by
  unfold serialize
  split
  · unfold serializeLocal
    split
    · exact ⟨_, rfl⟩
    · next kiul hkiul =>
        obtain ⟨domain, user, text, hlogon⟩ := localLogon_eq_ok hkiul
        obtain ⟨⟨hd, hu, ht⟩, messageType, -, rfl⟩ := kerbInteractiveUnlockLogonInit_eq_ok.mp hlogon.init
        rw [kerbInteractiveUnlockLogonPack_eq messageType hd hu ht]
        by_cases halloc : (calls.coTaskMemAlloc.region (packedSize
          ⟨messageType, domain.unicode, user.unicode, text.unicode⟩)).isSome
        · rw [if_pos halloc]
          exact ⟨_, rfl⟩
        · rw [if_neg halloc]
          exact ⟨_, rfl⟩
  · exact ⟨_, rfl⟩

theorem withAuthPackage_finished {blob : Blob} {failed : Option Blob}
    (h : (withAuthPackage calls blob failed).isFinished = true) :
    (withAuthPackage calls blob failed).rgbSerialization = some blob := by
  unfold withAuthPackage at h ⊢
  split at h
  · cases h
  · rfl

/-- A finished credential of a local user is the packed logon. -/
theorem serialize_finished (hlocal : tile.fIsLocalUser = true) {pwd : PWSTR} {output : Output}
    (h : serialize tile calls pwd = .ok output) (hfinished : output.isFinished = true) :
    ∃ kiul domain user text block, LocalLogon tile calls pwd kiul domain user text ∧
      kerbInteractiveUnlockLogonPack calls.coTaskMemAlloc kiul = .ok (.ok (block, packedSize kiul.logon)) ∧
      (calls.coTaskMemAlloc.region (packedSize kiul.logon)).isSome = true ∧
      output.rgbSerialization = some (.kerb block (packedSize kiul.logon)) := by
  unfold serialize at h
  rw [if_pos hlocal] at h
  unfold serializeLocal at h
  split at h
  · cases h
    cases hfinished
  · next kiul hkiul =>
      obtain ⟨domain, user, text, hlogon⟩ := localLogon_eq_ok hkiul
      obtain ⟨⟨hd, hu, ht⟩, messageType, -, rfl⟩ := kerbInteractiveUnlockLogonInit_eq_ok.mp hlogon.init
      have hpack := kerbInteractiveUnlockLogonPack_eq messageType hd hu ht calls.coTaskMemAlloc
      by_cases halloc : (calls.coTaskMemAlloc.region (packedSize
          ⟨messageType, domain.unicode, user.unicode, text.unicode⟩)).isSome
      · rw [if_pos halloc] at hpack
        rw [hpack] at h
        cases h
        exact ⟨_, domain, user, text, _, hlogon, hpack, halloc, withAuthPackage_finished hfinished⟩
      · rw [if_neg halloc] at hpack
        rw [hpack] at h
        cases h
        cases hfinished

end

/-! ## Runs -/

/-- The credential, with the password that `GetSerialization` has copied, what listeners have published and
what LogonUI has got; the latest first. -/
structure Serializing where
  credential : UnlockCredential.CUnlockCredential := {}
  pwd : PWSTR := .ofBuffer []
  results : List (Nat × UnlockResult) := []
  outputs : List (Option Nat × Output) := []

inductive Label where
  /-- any other section -/
  | critical (l : UnlockCredential.Step)
  /-- the first section of `GetSerialization`, where a typed password may be read -/
  | readPassword (converts : Bool) (typed : PWSTR)
  /-- the packing and the second section -/
  | finish (calls : WindowsCalls)

/-- The section is one of `GetSerialization`. -/
def ofGetSerialization : UnlockCredential.Step → Bool
  | .readPassword _ => true
  | .finishSerialization _ => true
  | _ => false

/-- What a section publishes, with its number. -/
def published (c : UnlockCredential.CUnlockCredential) : UnlockCredential.Step →
    List (Nat × UnlockResult)
  | .setUnlockData _ result isRunning =>
      if isRunning = some false then [] else [(c.unlockSequence + 1, result)]
  | _ => []

/-- One step, where `toWideString` is `StringUtils::ToWideString`. -/
def Serializing.step (tile : Tile) (toWideString : Str → List UInt16) (s : Serializing) :
    Label → Option Serializing
  | .critical l =>
      if ofGetSerialization l then none
      else (UnlockCredential.step tile.isCredUI s.credential l).map fun credential =>
        { s with credential, results := published s.credential l ++ s.results }
  | .readPassword converts typed =>
      (UnlockCredential.step tile.isCredUI s.credential (.readPassword converts)).map fun credential =>
        { s with
          credential
          pwd :=
            if s.credential.unlockResult.state = .success then
              .ofBuffer (toWideString s.credential.unlockResult.password)
            else typed }
  | .finish calls =>
      match s.credential.logonUI, serialize tile calls s.pwd with
      | .packing source, .ok output =>
          (UnlockCredential.step tile.isCredUI s.credential
            (.finishSerialization output.isFinished)).map fun credential =>
              { s with credential, outputs := (source, output) :: s.outputs }
      | _, _ => none

section

variable {tile : Tile} {toWideString : Str → List UInt16}

/-- What a section does, other than those of `GetSerialization`. -/
structure Unserialized (c c' : UnlockCredential.CUnlockCredential) (new : List (Nat × UnlockResult)) :
    Prop where
  logonUI : c'.logonUI = c.logonUI
  submitted : ∀ n, .submitted n ∈ c'.events ↔ .submitted n ∈ c.events
  result : c'.unlockResult.state = .success →
    new = [(c'.unlockSequence, c'.unlockResult)] ∨
      new = [] ∧ c'.unlockResult = c.unlockResult ∧ c'.unlockSequence = c.unlockSequence
  fresh : new = [] ∧ c'.unlockSequence = c.unlockSequence ∨
    ∃ result, new = [(c'.unlockSequence, result)] ∧ c'.unlockSequence = c.unlockSequence + 1

theorem Unserialized.same {c c' : UnlockCredential.CUnlockCredential} (hlogon : c'.logonUI = c.logonUI)
    (hsubmitted : ∀ n, .submitted n ∈ c'.events ↔ .submitted n ∈ c.events)
    (hresult : c'.unlockResult.state = .success → c'.unlockResult = c.unlockResult)
    (hsequence : c'.unlockSequence = c.unlockSequence) : Unserialized c c' [] where
  logonUI := hlogon
  submitted := hsubmitted
  result := fun h => Or.inr ⟨rfl, hresult h, hsequence⟩
  fresh := Or.inl ⟨rfl, hsequence⟩

theorem unserialized_of_step {c c' : UnlockCredential.CUnlockCredential} {l : UnlockCredential.Step}
    (hl : ofGetSerialization l = false) (h : UnlockCredential.step tile.isCredUI c l = some c') :
    Unserialized c c' (published c l) := by
  cases l with
  | setUnlockData thread result isRunning =>
      cases h
      unfold UnlockCredential.setUnlockData published
      dsimp only
      by_cases hstopped : isRunning = some false
      · rw [if_pos hstopped, if_pos hstopped]
        exact .same rfl (fun _ => Iff.rfl) (fun _ => rfl) rfl
      · rw [if_neg hstopped, if_neg hstopped]
        exact ⟨rfl, fun n => by simp, fun _ => Or.inl rfl, Or.inr ⟨result, rfl, rfl⟩⟩
  | isUnlockPending thread sequence =>
      cases h
      exact .same rfl (fun _ => Iff.rfl) (fun _ => rfl) rfl
  | expireUnlockSuccess thread sequence =>
      cases h
      unfold UnlockCredential.expireUnlockSuccess
      split
      · exact .same rfl (fun n => by simp) (fun hs => by cases hs) rfl
      · exact .same rfl (fun _ => Iff.rfl) (fun _ => rfl) rfl
  | setSelected =>
      obtain ⟨-, rfl⟩ := UnlockCredential.whenIdle_eq_some h
      exact .same rfl (fun _ => Iff.rfl) (fun _ => rfl) rfl
  | setDeselected =>
      obtain ⟨-, rfl⟩ := UnlockCredential.whenIdle_eq_some h
      exact .same rfl (fun _ => Iff.rfl) (fun _ => rfl) rfl
  | setStringValue text =>
      obtain ⟨-, rfl⟩ := UnlockCredential.whenIdle_eq_some h
      exact .same rfl (fun _ => Iff.rfl) (fun _ => rfl) rfl
  | readPassword converts => cases hl
  | finishSerialization isFinished => cases hl
  | commandLinkClicked isRetryButton =>
      obtain ⟨-, rfl⟩ := UnlockCredential.whenIdle_eq_some h
      split
      · exact .same rfl (fun n => by simp [UnlockCredential.retry]) (fun hs => by cases hs) rfl
      · exact .same rfl (fun _ => Iff.rfl) (fun _ => rfl) rfl
  | reportResult hasLogonFailed =>
      obtain ⟨-, rfl⟩ := UnlockCredential.whenIdle_eq_some h
      refine .same rfl (fun n => by simp [UnlockCredential.reportResult]) ?_ rfl
      unfold UnlockCredential.reportResult
      dsimp only
      split
      · intro hs
        cases hs
      · intro hs
        cases hs

/-- The result with this number is a success, and this is its password. -/
def PasswordOf (toWideString : Str → List UInt16) (results : List (Nat × UnlockResult)) (n : Nat)
    (pwd : PWSTR) : Prop :=
  ∃ result, (n, result) ∈ results ∧ result.state = .success ∧
    pwd = .ofBuffer (toWideString result.password)

theorem PasswordOf.append {results : List (Nat × UnlockResult)} {n : Nat} {pwd : PWSTR}
    (h : PasswordOf toWideString results n pwd) (new : List (Nat × UnlockResult)) :
    PasswordOf toWideString (new ++ results) n pwd := by
  obtain ⟨result, hmem, hrest⟩ := h
  exact ⟨result, List.mem_append_right _ hmem, hrest⟩

/-- The password that is packed is the one of the result that was read, and every submission stands in the
outputs. -/
structure Serializing.Inv (tile : Tile) (toWideString : Str → List UInt16) (calls : WindowsCalls → Prop)
    (s : Serializing) : Prop where
  current : s.credential.unlockResult.state = .success →
    (s.credential.unlockSequence, s.credential.unlockResult) ∈ s.results
  reading : ∀ n, s.credential.logonUI = .packing (some n) → PasswordOf toWideString s.results n s.pwd
  known : ∀ e ∈ s.results, e.1 ≤ s.credential.unlockSequence
  unique : (s.results.map Prod.fst).Nodup
  output : ∀ n output, (some n, output) ∈ s.outputs → ∃ c pwd, calls c ∧
    PasswordOf toWideString s.results n pwd ∧ serialize tile c pwd = .ok output
  submitted : ∀ n, .submitted n ∈ s.credential.events →
    ∃ output, (some n, output) ∈ s.outputs ∧ output.isFinished = true

variable {calls : WindowsCalls → Prop} {s s' : Serializing}

theorem Serializing.Inv.critical (h : s.Inv tile toWideString calls)
    {c : UnlockCredential.CUnlockCredential} {new : List (Nat × UnlockResult)}
    (hc : Unserialized s.credential c new) :
    Serializing.Inv tile toWideString calls { s with credential := c, results := new ++ s.results } := by
  constructor
  · intro hs
    rcases hc.result hs with hnew | ⟨hnew, hresult, hsequence⟩
    · exact List.mem_append_left _ (hnew ▸ List.mem_singleton_self _)
    · dsimp only at hs ⊢
      rw [hresult, hsequence]
      exact List.mem_append_right _ (h.current (hresult ▸ hs))
  · intro n hn
    exact (h.reading n (hc.logonUI ▸ hn)).append new
  · intro e he
    rcases hc.fresh with ⟨hnew, hsequence⟩ | ⟨result, hnew, hsequence⟩
    · rw [hnew] at he
      exact hsequence ▸ h.known e he
    · rw [hnew] at he
      rcases List.mem_cons.mp he with rfl | he
      · exact Nat.le_refl _
      · have := h.known e he
        dsimp only
        omega
  · rcases hc.fresh with ⟨hnew, -⟩ | ⟨result, hnew, hsequence⟩
    · rw [hnew]
      exact h.unique
    · rw [hnew]
      refine List.nodup_cons.mpr ⟨fun hmem => ?_, h.unique⟩
      -- the new number is larger than every number before it
      obtain ⟨e, he, heq⟩ := List.mem_map.mp hmem
      have hle := h.known e he
      have hnumber : e.1 = c.unlockSequence := heq
      omega
  · intro n output hout
    obtain ⟨w, pwd, hw, hpwd, hserialize⟩ := h.output n output hout
    exact ⟨w, pwd, hw, hpwd.append new, hserialize⟩
  · intro n hn
    exact h.submitted n ((hc.submitted n).mp hn)

theorem Serializing.Inv.readPassword (h : s.Inv tile toWideString calls)
    (hidle : s.credential.logonUI = .idle) (converts : Bool) (typed : PWSTR) :
    Serializing.Inv tile toWideString calls { s with
      credential := UnlockCredential.readPassword s.credential converts
      pwd :=
        if s.credential.unlockResult.state = .success then
          .ofBuffer (toWideString s.credential.unlockResult.password)
        else typed } := by
  -- without a password that is packed, only the copy changes
  have hkeep : ∀ c : UnlockCredential.CUnlockCredential, c.unlockResult = s.credential.unlockResult →
      c.unlockSequence = s.credential.unlockSequence → c.events = s.credential.events →
      (∀ n, c.logonUI ≠ .packing (some n)) → ∀ pwd, Serializing.Inv tile toWideString calls
        { s with credential := c, pwd := pwd } := by
    intro c hresult hsequence hevents hlogon pwd
    constructor
    · dsimp only
      rw [hresult, hsequence]
      exact h.current
    · exact fun n hn => absurd hn (hlogon n)
    · exact hsequence ▸ h.known
    · exact h.unique
    · exact h.output
    · exact hevents ▸ h.submitted
  unfold UnlockCredential.readPassword
  by_cases hs : s.credential.unlockResult.state = .success
  · rw [if_pos hs, if_pos hs]
    cases converts with
    | true =>
        refine ⟨h.current, fun n hn => ?_, h.known, h.unique, h.output, fun n hn => ?_⟩
        · cases hn
          exact ⟨_, h.current hs, hs, rfl⟩
        · rcases List.mem_cons.mp hn with hread | hn
          · cases hread
          · exact h.submitted n hn
    | false => exact hkeep s.credential rfl rfl rfl (fun n hn => nomatch hidle.symm.trans hn) _
  · rw [if_neg hs, if_neg hs]
    split
    · refine hkeep { s.credential with logonUI := .packing none } rfl rfl rfl ?_ _
      intro n hn
      cases hn
    · exact hkeep s.credential rfl rfl rfl (fun n hn => nomatch hidle.symm.trans hn) _

/-- `FinishUnlockSubmission` adds no result and no submission. -/
theorem finishUnlockSubmission_unserialized (isCredUI : Bool) (c : UnlockCredential.CUnlockCredential) (n : Nat)
    (isSubmitted : Bool) :
    Unserialized c (UnlockCredential.finishUnlockSubmission isCredUI c n isSubmitted) [] := by
  unfold UnlockCredential.finishUnlockSubmission
  split
  · cases isSubmitted with
    | true => exact .same rfl (fun _ => Iff.rfl) (fun hs => by cases hs) rfl
    | false => exact .same rfl (fun n => by simp) (fun hs => by cases hs) rfl
  · exact .same rfl (fun _ => Iff.rfl) (fun _ => rfl) rfl

theorem Serializing.Inv.finish (h : s.Inv tile toWideString calls) {source : Option Nat}
    (hpacking : s.credential.logonUI = .packing source) {w : WindowsCalls} (hw : calls w) {output : Output}
    (houtput : serialize tile w s.pwd = .ok output) :
    Serializing.Inv tile toWideString calls { s with
      credential := UnlockCredential.finishSerialization tile.isCredUI s.credential source output.isFinished
      outputs := (source, output) :: s.outputs } := by
  have hmore : ∀ m, (∃ out, (some m, out) ∈ s.outputs ∧ out.isFinished = true) →
      ∃ out, (some m, out) ∈ (source, output) :: s.outputs ∧ out.isFinished = true := by
    rintro m ⟨out, hmem, hfinished⟩
    exact ⟨out, List.mem_cons_of_mem _ hmem, hfinished⟩
  have hout : ∀ m out, (some m, out) ∈ (source, output) :: s.outputs → ∃ c pwd, calls c ∧
      PasswordOf toWideString s.results m pwd ∧ serialize tile c pwd = .ok out := by
    intro m out hmem
    rcases List.mem_cons.mp hmem with heq | hmem
    · cases heq
      exact ⟨w, s.pwd, hw, h.reading m hpacking, houtput⟩
    · exact h.output m out hmem
  cases source with
  | none =>
      exact ⟨h.current, fun n hn => (nomatch hn), h.known, h.unique, hout,
        fun n hn => hmore n (h.submitted n hn)⟩
  | some n =>
      have hbefore := h.critical (finishUnlockSubmission_unserialized tile.isCredUI s.credential n
        output.isFinished)
      refine ⟨hbefore.current, fun m hm => (nomatch hm), hbefore.known, hbefore.unique, hout,
        fun m hm => ?_⟩
      by_cases hfinished : output.isFinished = true
      · have hevents : .submitted m ∈ .submitted n ::
            (UnlockCredential.finishUnlockSubmission tile.isCredUI s.credential n
              output.isFinished).events := by
          simpa [UnlockCredential.finishSerialization, hfinished] using hm
        rcases List.mem_cons.mp hevents with heq | hold
        · cases heq
          exact ⟨output, List.mem_cons_self, hfinished⟩
        · exact hmore m (hbefore.submitted m hold)
      · have hevents : .submitted m ∈
            (UnlockCredential.finishUnlockSubmission tile.isCredUI s.credential n
              output.isFinished).events := by
          simpa [UnlockCredential.finishSerialization, hfinished] using hm
        exact hmore m (hbefore.submitted m hevents)

theorem Serializing.Inv.step (h : s.Inv tile toWideString calls) {l : Label}
    (hl : ∀ w, l = .finish w → calls w) (hstep : s.step tile toWideString l = some s') :
    s'.Inv tile toWideString calls := by
  cases l with
  | critical l =>
      simp only [Serializing.step] at hstep
      split at hstep
      · cases hstep
      · next hsection =>
          obtain ⟨c, hc, rfl⟩ := Option.map_eq_some_iff.mp hstep
          exact h.critical (unserialized_of_step (by simpa using hsection) hc)
  | readPassword converts typed =>
      obtain ⟨c, hc, rfl⟩ := Option.map_eq_some_iff.mp hstep
      obtain ⟨hidle, rfl⟩ := UnlockCredential.whenIdle_eq_some hc
      exact h.readPassword hidle converts typed
  | finish w =>
      simp only [Serializing.step] at hstep
      split at hstep
      · next source output hpacking houtput =>
          obtain ⟨c, hc, rfl⟩ := Option.map_eq_some_iff.mp hstep
          simp only [UnlockCredential.step, hpacking] at hc
          cases hc
          exact h.finish hpacking (hl w rfl) houtput
      · cases hstep

theorem Serializing.init_inv : Serializing.Inv tile toWideString calls {} where
  current := fun h => by cases h
  reading := fun n h => by cases h
  known := fun e h => by cases h
  unique := List.nodup_nil
  output := fun n output h => by cases h
  submitted := fun n h => by cases h

end

/-! ## The credential of a submitted result -/

/-- The block carries this user's name and a text that means the password. -/
structure HandsOver (tile : Tile) (protection : Protection) (pwd : PWSTR) (block : PackedLogon) (cb : Nat)
    (messageType : MessageType) (domain user text : PWSTR) : Prop where
  scenario : messageTypeFor tile.cpus = .ok messageType
  name : tile.qualifiedUserName.chars = domain.chars ++ backslash :: user.chars
  first : backslash ∉ domain.chars
  size : sizeofKerbInteractiveUnlockLogon + block.extra.length = cb
  carries : block.Carries 0 block.head messageType domain user text
  means : protection.Means text pwd

theorem handsOver_of_finished {tile : Tile} (hlocal : tile.fIsLocalUser = true) {protection : Protection}
    {calls : WindowsCalls} (hcalls : calls.ProtectedBy protection) {pwd : PWSTR} {output : Output}
    (h : serialize tile calls pwd = .ok output) (hfinished : output.isFinished = true) :
    ∃ messageType domain user text block cb, output.rgbSerialization = some (.kerb block cb) ∧
      HandsOver tile protection pwd block cb messageType domain user text := by
  obtain ⟨kiul, domain, user, text, block, hlogon, hpack, halloc, hblob⟩ :=
    serialize_finished hlocal h hfinished
  obtain ⟨⟨hd, hu, ht⟩, messageType, hscenario, rfl⟩ := kerbInteractiveUnlockLogonInit_eq_ok.mp hlogon.init
  rw [kerbInteractiveUnlockLogonPack_eq messageType hd hu ht, if_pos halloc] at hpack
  cases hpack
  obtain ⟨hname, hfirst⟩ := splitDomainAndUsername_eq_ok hlogon.name
  exact ⟨messageType, domain, user, text, _, _, hblob, hscenario, hname, hfirst,
    packedLogon_size messageType hd hu ht, packedLogon_offsets messageType hd hu ht,
    protectIfNecessaryAndCopyPassword_means hcalls hlogon.protects⟩

/-- **What Windows gets is the password of the phone.** However the listeners and LogonUI interleave: a
result that was submitted for a local user is a success that a listener has published under that number,
and the credential that was handed over is a block with the two parts of the user's name and a text that
means the password of this result, or is that password where Windows takes it for a protected one. -/
theorem submitted_hands_over {tile : Tile} {toWideString : Str → List UInt16}
    (hlocal : tile.fIsLocalUser = true) {protection : Protection} {labels : List Label}
    (hcalls : ∀ calls, .finish calls ∈ labels → calls.ProtectedBy protection) {s : Serializing}
    (h : exec (Serializing.step tile toWideString) {} labels = some s) {n : Nat}
    (hn : .submitted n ∈ s.credential.events) :
    ∃ result, (∀ r, (n, r) ∈ s.results ↔ r = result) ∧ result.state = .success ∧
      ∃ output messageType domain user text block cb, (some n, output) ∈ s.outputs ∧
        output.rgbSerialization = some (.kerb block cb) ∧
        HandsOver tile protection (.ofBuffer (toWideString result.password)) block cb messageType domain user
          text := by
  have hinv : s.Inv tile toWideString (fun calls => calls.ProtectedBy protection) :=
    exec_inv_along (P := fun _ l => ∀ calls, l = .finish calls → calls.ProtectedBy protection)
      (fun _ _ _ hI hl hstep => hI.step hl hstep) Serializing.init_inv
      (along_of_forall fun _ _ hl calls heq => hcalls calls (by rw [← heq]; exact hl)) h
  obtain ⟨output, hout, hfinished⟩ := hinv.submitted n hn
  obtain ⟨calls, pwd, hprotected, ⟨result, hmem, hsuccess, rfl⟩, hserialize⟩ := hinv.output n output hout
  obtain ⟨messageType, domain, user, text, block, cb, hblob, hover⟩ :=
    handsOver_of_finished hlocal hprotected hserialize hfinished
  refine ⟨result, fun r => ⟨fun hr => ?_, fun hr => hr ▸ hmem⟩, hsuccess, output, messageType, domain, user,
    text, block, cb, hout, hblob, hover⟩
  exact congrArg Prod.snd (List.inj_on_of_nodup_map hinv.unique hr hmem rfl)

/-! ## A credential that is overtaken -/

/-- A protected text begins with an at sign. -/
def sampleProtection : Protection where
  credIsProtected s := s.chars.head? = some 64
  credUnprotect s := .ofBuffer s.chars.tail

def sampleCalls : WindowsCalls where
  allocates _ := true
  coTaskMemAlloc := ⟨fun n => some (List.replicate n 0xCD), by simp⟩
  credIsProtected := sampleProtection.credIsProtected
  credProtectLength _ := .ok ()
  credProtect s := .ok (.ofBuffer (64 :: s.chars))
  credPackSize _ _ := none
  credPack _ _ := .error .E_FAIL
  retrieveNegotiateAuthPackage := .ok 0

theorem sampleCalls_protectedBy : sampleCalls.ProtectedBy sampleProtection where
  credIsProtected := rfl
  credProtect := by
    intro s p hp
    obtain rfl : PWSTR.ofBuffer (64 :: s.chars) = p := Except.ok.inj hp
    have hchars : (PWSTR.ofBuffer (64 :: s.chars)).chars = 64 :: s.chars :=
      PWSTR.ofBuffer_chars (by simpa using s.ends)
    refine ⟨?_, PWSTR.ext ?_⟩
    · show decide ((PWSTR.ofBuffer (64 :: s.chars)).chars.head? = some 64) = true
      rw [hchars]
      rfl
    · show (PWSTR.ofBuffer (PWSTR.ofBuffer (64 :: s.chars)).chars.tail).chars = s.chars
      rw [hchars]
      exact PWSTR.ofBuffer_chars s.ends

/-- The user `u` of the computer `P`. -/
def sampleTile : Tile where
  fIsLocalUser := true
  qualifiedUserName := .ofBuffer [80, 92, 117]
  cpus := .logon

def wideAscii (s : Str) : List UInt16 := s.map fun c => UInt16.ofNat c.toNat

def sampleLabels : List Label :=
  [.critical (.setUnlockData 1 (Sample.phoneResult (str "a")) (some true)),
    .readPassword true (.ofBuffer []),
    .critical (.setUnlockData 2 (Sample.phoneResult (str "b")) (some true)), .finish sampleCalls]

/-- The credential that is handed over is that of the first result, although the second one has been
published before it is packed. -/
theorem submitted_hands_over_overtaken : ∃ s output block cb text,
    exec (Serializing.step sampleTile wideAscii) {} sampleLabels = some s ∧
    (some 1, output) ∈ s.outputs ∧ output.rgbSerialization = some (.kerb block cb) ∧
    block.textAt 0 block.head.logon.password = .ok text.chars ∧
    sampleProtection.revealed text = .ofBuffer (wideAscii (str "a")) := by
  obtain ⟨s, hs, hevents, hresults⟩ : ∃ s, exec (Serializing.step sampleTile wideAscii) {} sampleLabels =
      some s ∧ .submitted 1 ∈ s.credential.events ∧
      s.results = [(2, Sample.phoneResult (str "b")), (1, Sample.phoneResult (str "a"))] :=
    exec_of_test (by decide +kernel)
  have hcalls : ∀ calls, .finish calls ∈ sampleLabels → calls.ProtectedBy sampleProtection := by
    intro calls hmem
    have heq : calls = sampleCalls := by simpa [sampleLabels] using hmem
    rw [heq]
    exact sampleCalls_protectedBy
  obtain ⟨result, hresult, -, output, messageType, domain, user, text, block, cb, hout, hblob, hover⟩ :=
    submitted_hands_over rfl hcalls hs hevents
  obtain rfl : Sample.phoneResult (str "a") = result := (hresult _).mp (by rw [hresults]; simp)
  exact ⟨s, output, block, cb, text, hs, hout, hblob, hover.carries.password,
    hover.means.reveals (by decide +kernel)⟩

end Serialization

end PcbuDesktop
