import PcbuDesktop.Auth.StatusLines
import PcbuDesktop.Handler.GetResult

set_option autoImplicit false

/-! # From the PAM call to the phone

Three programs stand behind a login: `pam_sm_authenticate`
(`natives/pam_pulseunlock/src/pam_auth.cpp`) starts `pcbu_auth`, `runMain`
(`natives/pcbu-auth/src/main.cpp`) calls `GetResult`, and that one asks the phones. The password goes
back through a pipe, the verdict through the exit code. A login is admitted by `PAM_SUCCESS`, or by the
password that the module leaves for the next module.
-/

namespace PcbuDesktop

/-! ## `PlatformHelper::CheckLogin` -/

inductive PlatformLoginResult
  | success
  | invalidUser
  | invalidPassword
  | accountLocked
  | accountRestricted
  | pwExpired
  | accountDisabled
  | logonTypeDenied
  | unknownError
deriving DecidableEq, Repr

/-- The user database of Linux: `pw_passwd` and `sp_pwdp` of a user, and `crypt`. -/
structure Accounts where
  getpwnam : Str → Option Str
  getspnam : Str → Option Str
  crypt : Str → Str → Str

/-- The comparison with a stored hash, which is also the salt. -/
def Accounts.compare (accounts : Accounts) (password hash : Str) : PlatformLoginResult :=
  if hash = accounts.crypt (cStr password) hash then .success else .invalidPassword

/-- `CheckLogin` on Linux. -/
def Accounts.checkLogin (accounts : Accounts) (userName password : Str) : PlatformLoginResult :=
  match accounts.getpwnam (cStr userName) with
  | none => .invalidUser
  | some pwPasswd =>
      if pwPasswd ≠ str "x" then accounts.compare password pwPasswd
      else match accounts.getspnam (cStr userName) with
        | none => .invalidUser
        | some spPwdp => accounts.compare password spPwdp

/-! ## `pcbu_auth` -/

/-- `PairedDevicesStorage::GetDevicesForUser`, of Linux and macOS. -/
def getDevicesForUser (devices : List PairedDevice) (userName : Str) : List PairedDevice :=
  devices.filter (fun device => device.userName = userName)

/-- The loop that writes the password into its pipe. For each `write`, `accepts` has the number of bytes
that the pipe takes at most, or `none` where it fails. What has been written at the end; `none` while
the process waits for the pipe. -/
def writeLoop (password : Str) : List (Option Nat) → Nat → Str → Option Str
  | [], bytesWritten, pipe => if bytesWritten < password.length then none else some pipe
  | accept :: accepts, bytesWritten, pipe =>
      if bytesWritten < password.length then
        match accept with
        | none => some pipe
        | some n =>
            let count := min n (password.length - bytesWritten)
            writeLoop password accepts (bytesWritten + count)
              (pipe ++ (password.drop bytesWritten).take count)
      else some pipe

/-- What `pcbu_auth` uses: `CheckLogin`, the setting, the text of `error_password`, whether `setuid`
succeeds, and `GetResult` for a user and a program, with what it prints. -/
structure AuthEnv where
  checkLogin : Str → Str → PlatformLoginResult
  unixSetPasswordPAM : Bool
  errorPassword : Str
  setuid : Bool
  serviceName : Str
  getResult : Str → Str → Str × UnlockResult

/-- How the process ends: its output, what is in the password pipe, and the value that `main` returns. -/
structure AuthExit where
  output : Str
  password : Str
  exitCode : Int
deriving DecidableEq, Repr

/-- The arguments that `runMain` takes. -/
def validArguments (argv : List Str) : Bool :=
  !(argv.length != 2 && (argv.length != 3 || argv[2]? != some (str "--cancel-pipe")))

/-- `runMain`; `none` while the process waits for the password pipe. -/
def AuthEnv.runMain (auth : AuthEnv) (argv : List Str) (accepts : List (Option Nat)) : Option AuthExit :=
  if validArguments argv then
    let userName := argv.getD 1 []
    let (printed, result) := auth.getResult userName auth.serviceName
    if result.state = .success then
      if userName = result.device.userName ∧
          auth.checkLogin userName result.password = .success then
        if auth.unixSetPasswordPAM then
          (writeLoop result.password accepts 0 []).map fun password => ⟨printed, password, 0⟩
        else some ⟨printed, [], 0⟩
      else some ⟨printed ++ auth.errorPassword ++ str "\n", [], 1⟩
    else if result.state = .canceled then some ⟨printed, [], 1⟩
    else some ⟨printed, [], -1⟩
  else some ⟨str "Invalid parameters.\n", [], -1⟩

/-- `main`. -/
def AuthEnv.main (auth : AuthEnv) (argv : List Str) (accepts : List (Option Nat)) : Option AuthExit :=
  if auth.setuid then auth.runMain argv accepts else some ⟨str "setuid(0) failed.\n", [], -1⟩

/-! ## `pam_sm_authenticate` -/

/-- What the module asks PAM for: the service, the user, the conversation and a password that another
module has left. -/
structure PamHandle where
  service : Option Str
  user : Option Str
  hasConv : Bool
  authTok : Option Str

/-- `pam_sm_authenticate`; `launch` is `none` where `pcbu_auth` cannot be started. -/
def PamHandle.smAuthenticate (isApple : Bool) (pamh : PamHandle) (launch : Str → Option AuthRun) :
    List PamEvent × PamCode :=
  match pamh.service, pamh.user, pamh.hasConv with
  | some _, some userName, true =>
      if pamh.authTok.getD [] ≠ [] then ([], .ignore)
      else match launch userName with
        | none => ([], .ignore)
        | some run => pamSmAuthenticate isApple run
  | _, _, _ => ([], .ignore)

/-- The login goes on with what the module has found. -/
def Admits (outcome : List PamEvent × PamCode) : Prop :=
  outcome.2 = .success ∨ ∃ password, PamEvent.setAuthTok password ∈ outcome.1

/-- A run of `pcbu_auth` as the module sees it: it has exited, or a signal has ended it, whose number is
then the exit code. -/
inductive PcbuAuthRun (auth : AuthEnv) (argv : List Str) (accepts : List (Option Nat)) (hasPipe : Bool) :
    AuthRun → Prop
  | exited (exit : AuthExit) (hmain : auth.main argv accepts = some exit)
      (reads : List Str) (hreads : reads.flatten = exit.output) :
      PcbuAuthRun auth argv accepts hasPipe
        ⟨reads, if hasPipe then some exit.password else none, exit.exitCode % 256⟩
  | killed (signal : Nat) (hsignal : 0 < signal) (reads : List Str) (password : Option Str) :
      PcbuAuthRun auth argv accepts hasPipe ⟨reads, password, signal⟩

/-! ## What the pipe holds -/

/-- The pipe holds the beginning of the password. -/
theorem writeLoop_take {password : Str} (accepts : List (Option Nat)) {bytesWritten : Nat} {pipe : Str}
    (h : writeLoop password accepts bytesWritten (password.take bytesWritten) = some pipe) :
    pipe <+: password := by
  induction accepts generalizing bytesWritten with
  | nil =>
      unfold writeLoop at h
      split at h
      · cases h
      · cases h
        exact List.take_prefix _ _
  | cons accept accepts ih =>
      unfold writeLoop at h
      split at h
      · cases accept with
        | none =>
            cases h
            exact List.take_prefix _ _
        | some n =>
            dsimp only at h
            rw [← List.take_add] at h
            exact ih h
      · cases h
        exact List.take_prefix _ _

/-- It holds all of it when no `write` fails. -/
theorem writeLoop_complete {password : Str} {accepts : List (Option Nat)} (hok : none ∉ accepts)
    {bytesWritten : Nat} {pipe : Str}
    (h : writeLoop password accepts bytesWritten (password.take bytesWritten) = some pipe) :
    pipe = password := by
  induction accepts generalizing bytesWritten with
  | nil =>
      unfold writeLoop at h
      split at h
      · cases h
      · cases h
        exact List.take_of_length_le (by omega)
  | cons accept accepts ih =>
      unfold writeLoop at h
      split at h
      · cases accept with
        | none => exact absurd List.mem_cons_self hok
        | some n =>
            dsimp only at h
            rw [← List.take_add] at h
            exact ih (fun hmem => hok (List.mem_cons_of_mem _ hmem)) h
      · cases h
        exact List.take_of_length_le (by omega)

theorem cStr_prefix {s t : Str} (h : s <+: t) : cStr s <+: cStr t := by
  obtain ⟨u, rfl⟩ := h
  unfold cStr
  rw [List.takeWhile_append]
  split
  · next hall =>
      rw [List.takeWhile_eq_self_iff.mpr]
      · exact List.prefix_append _ _
      · exact List.takeWhile_eq_self_iff.mp (List.IsPrefix.eq_of_length (List.takeWhile_prefix _) hall)
  · exact List.prefix_refl _

/-! ## The exit code -/

/-- What stands behind the exit code 0. -/
structure Verified (auth : AuthEnv) (userName : Str) (result : UnlockResult) : Prop where
  success : result.state = .success
  device : result.device.userName = userName
  login : auth.checkLogin userName result.password = .success

/-- `pcbu_auth` exits with 0 only after a success for this user with a password that logs in. -/
theorem AuthEnv.main_zero {auth : AuthEnv} {program userName : Str} {accepts : List (Option Nat)}
    {exit : AuthExit} (h : auth.main [program, userName] accepts = some exit)
    (hzero : exit.exitCode % 256 = 0) :
    Verified auth userName (auth.getResult userName auth.serviceName).2 ∧
      exit.password <+: (auth.getResult userName auth.serviceName).2.password ∧
      (exit.password ≠ [] → auth.unixSetPasswordPAM = true) ∧
      (none ∉ accepts → auth.unixSetPasswordPAM = true →
        exit.password = (auth.getResult userName auth.serviceName).2.password) := by
  unfold AuthEnv.main at h
  split at h
  · have hargs : validArguments [program, userName] = true := rfl
    have hname : [program, userName].getD 1 [] = userName := rfl
    unfold AuthEnv.runMain at h
    rw [if_pos hargs, hname] at h
    dsimp only at h
    split at h
    · next hs =>
        split at h
        · next hlogin =>
            have hverified : Verified auth userName (auth.getResult userName auth.serviceName).2 :=
              ⟨hs, hlogin.1.symm, hlogin.2⟩
            split at h
            · next hset =>
                obtain ⟨password, hwrite, rfl⟩ := Option.map_eq_some_iff.mp h
                exact ⟨hverified, writeLoop_take accepts hwrite, fun _ => hset,
                  fun hok _ => writeLoop_complete hok hwrite⟩
            · next hset =>
                cases h
                exact ⟨hverified, List.nil_prefix, fun hne => absurd rfl hne,
                  fun _ htrue => absurd htrue hset⟩
        · cases h
          cases hzero
    · split at h
      · cases h
        cases hzero
      · cases h
        cases hzero
  · cases h
    cases hzero

/-! ## The verdict of the module -/

/-- The module admits nobody unless `pcbu_auth` has exited with 0; and the password that it leaves is
the one in the pipe. -/
theorem pamSmAuthenticate_admits {isApple : Bool} {run : AuthRun}
    (h : Admits (pamSmAuthenticate isApple run)) :
    run.exitCode = 0 ∧ ∀ password, PamEvent.setAuthTok password ∈ (pamSmAuthenticate isApple run).1 →
      ∃ held, run.password = some held ∧ held ≠ [] ∧ password = cStr held := by
  have hmem : ∀ password, PamEvent.setAuthTok password ∈ (pamSmAuthenticate isApple run).1 →
      PamEvent.setAuthTok password ∈ (pamResult isApple (run.password.getD []) run.exitCode).1 := by
    intro password hin
    rcases List.mem_append.mp hin with hshown | hrest
    · obtain ⟨line, -, hline⟩ := List.mem_map.mp hshown
      cases hline
    · rcases List.mem_cons.mp hrest with hev | hev
      · cases hev
      · exact hev
  have hcode : (pamSmAuthenticate isApple run).2 =
      (pamResult isApple (run.password.getD []) run.exitCode).2 := rfl
  have hzero : run.exitCode = 0 := by
    by_contra hne
    unfold pamResult at hcode hmem
    rw [if_neg hne] at hcode
    simp only [if_neg hne] at hmem
    rcases h with hs | ⟨password, hin⟩
    · rw [hcode] at hs
      split at hs
      · cases hs
      · cases hs
    · have hnil := hmem password hin
      split at hnil
      · exact absurd hnil List.not_mem_nil
      · exact absurd hnil List.not_mem_nil
  refine ⟨hzero, fun password hin => ?_⟩
  have hev := hmem password hin
  unfold pamResult at hev
  rw [if_pos hzero] at hev
  split at hev
  · next hheld =>
      obtain ⟨rfl⟩ : PamEvent.setAuthTok password = .setAuthTok (cStr (run.password.getD [])) :=
        List.mem_singleton.mp hev
      cases hpw : run.password with
      | none => simp [hpw] at hheld
      | some held => exact ⟨held, rfl, by simpa [hpw] using hheld.1, rfl⟩
  · exact absurd hev List.not_mem_nil

/-- The module admits nobody without a run of `pcbu_auth`, for the user that PAM names. -/
theorem PamHandle.smAuthenticate_admits {isApple : Bool} {pamh : PamHandle}
    {launch : Str → Option AuthRun} (h : Admits (pamh.smAuthenticate isApple launch)) :
    ∃ userName run, pamh.user = some userName ∧ pamh.authTok.getD [] = [] ∧
      launch userName = some run ∧
      pamh.smAuthenticate isApple launch = pamSmAuthenticate isApple run := by
  have hnot : ¬ Admits ([], .ignore) := by
    rintro (hs | ⟨password, hin⟩)
    · cases hs
    · exact absurd hin List.not_mem_nil
  unfold PamHandle.smAuthenticate at h ⊢
  split at h
  · next userName _ huser _ =>
      split at h
      · exact absurd h hnot
      · next htok =>
          split at h
          · exact absurd h hnot
          · next run hrun =>
              refine ⟨userName, run, huser, not_not.mp htok, hrun, ?_⟩
              rw [if_neg htok]
  · exact absurd h hnot

/-- **A login is admitted only through a phone.** If the module returns `PAM_SUCCESS` or leaves a
password, then a phone that is paired for this very user has answered a request that names the user and
the program, as `UnlockedBy` says; `CheckLogin` has accepted the password that the answer decrypts; and
what is left for the next module is this password up to a NUL, or the beginning of it where a `write`
has failed, and only with the setting for it. -/
theorem pam_admits_only_through_phone {env : Env} {auth : AuthEnv} {tokens : Nat → Str}
    {notPairedText : Str → Str} {devices : List PairedDevice} {isApple hasPipe : Bool} {pamh : PamHandle}
    {program : Str} {accepts : List (Option Nat)} {launch : Str → Option AuthRun}
    (hget : ∀ userName, pamh.user = some userName →
      GetResultRun env ⟨false, tokens, userName, auth.serviceName⟩ notPairedText []
        (getDevicesForUser devices userName) (auth.getResult userName auth.serviceName).2)
    (hlaunch : ∀ userName run, pamh.user = some userName → launch userName = some run →
      PcbuAuthRun auth [program, userName] accepts hasPipe run)
    (hgrant : Admits (pamh.smAuthenticate isApple launch)) :
    ∃ userName sys result, pamh.user = some userName ∧
      result.device ∈ devices ∧ result.device.userName = userName ∧
      UnlockedBy env ⟨false, tokens, userName, auth.serviceName⟩ []
        (getDevicesForUser devices userName) sys result ∧
      auth.checkLogin userName result.password = .success ∧
      ∀ token, PamEvent.setAuthTok token ∈ (pamh.smAuthenticate isApple launch).1 →
        auth.unixSetPasswordPAM = true ∧ token <+: cStr result.password ∧
          (none ∉ accepts → token = cStr result.password) := by
  obtain ⟨userName, run, huser, -, hrun, heq⟩ := PamHandle.smAuthenticate_admits hgrant
  rw [heq] at hgrant ⊢
  obtain ⟨hzero, htoken⟩ := pamSmAuthenticate_admits hgrant
  cases hlaunch userName run huser hrun with
  | killed signal hsignal reads password =>
      have : (signal : Int) = 0 := hzero
      omega
  | exited exit hmain reads hreads =>
      obtain ⟨hverified, hpre, hset, hcomplete⟩ := auth.main_zero hmain hzero
      obtain ⟨sys, hby⟩ := (hget userName huser).unlockedBy hverified.success
      have hpaired : (auth.getResult userName auth.serviceName).2.device ∈
          getDevicesForUser devices userName := hby.paired
      refine ⟨userName, sys, _, huser, (List.mem_filter.mp hpaired).1, hverified.device, hby,
        hverified.login, fun token hin => ?_⟩
      obtain ⟨held, hheld, hne, rfl⟩ := htoken token hin
      have hpipe : held = exit.password := by
        cases hasPipe with
        | false => cases hheld
        | true => exact (Option.some.inj hheld).symm
      subst hpipe
      exact ⟨hset hne, cStr_prefix hpre, fun hok => by rw [hcomplete hok (hset hne)]⟩

namespace Sample

/-- A user with a shadow entry. -/
def accounts : Accounts where
  getpwnam := fun userName => if userName = str "u" then some (str "x") else none
  getspnam := fun _ => some (str "$6$pw")
  crypt := fun password _ => str "$6$" ++ password

/-- The user can log in with the password of `unlocked`. -/
def authEnv : AuthEnv where
  checkLogin := accounts.checkLogin
  unixSetPasswordPAM := true
  errorPassword := []
  setuid := true
  serviceName := str "p"
  getResult := fun _ _ => ([], unlocked)

/-- The login asks for this user. -/
def pamHandle : PamHandle :=
  { service := some (str "sudo"), user := some (str "u"), hasConv := true, authTok := none }

/-- The pipe takes the password in two pieces. -/
def authRun : AuthRun := { reads := [], password := some (str "pw"), exitCode := 0 }

end Sample

theorem pam_admits_unlocked : ∃ userName sys result, Sample.pamHandle.user = some userName ∧
    result.device ∈ [Sample.userDevice] ∧ result.device.userName = userName ∧
    UnlockedBy Sample.env ⟨false, fun _ => Sample.token, userName, str "p"⟩ []
      (getDevicesForUser [Sample.userDevice] userName) sys result ∧
    Sample.authEnv.checkLogin userName result.password = .success ∧
    ∀ token, PamEvent.setAuthTok token ∈
        (Sample.pamHandle.smAuthenticate false (fun _ => some Sample.authRun)).1 →
      Sample.authEnv.unixSetPasswordPAM = true ∧ token <+: cStr result.password ∧
        (none ∉ [some 1, some 1] → token = cStr result.password) := by
  refine @pam_admits_only_through_phone _ Sample.authEnv _ id _ false true _ (str "pcbu_auth") _ _ ?_ ?_ ?_
  · rintro userName ⟨⟩
    obtain ⟨s, hrun, hret⟩ := unlocks_returns
    exact .merged _ none (by decide +kernel) s ⟨_, hrun⟩ _ hret
  · rintro userName run ⟨⟩ ⟨⟩
    exact .exited ⟨[], str "pw", 0⟩ (by decide +kernel) [] rfl
  · exact .inr ⟨str "pw", by decide +kernel⟩

end PcbuDesktop
