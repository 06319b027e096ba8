import PcbuDesktop.Updater.AppBundle
import PcbuDesktop.Web.Download
import PcbuDesktop.Shell.ElevatorCommands

set_option autoImplicit false

/-! # `Updater`

`Updater::DownloadUpdate` (`updater/Updater.cpp`): the update is downloaded into memory, saved in a
new directory under a name that the server may choose, and put in place. What the server says decides
about the name and the data, but neither about the directory nor about the commands.
-/

namespace PcbuDesktop

open ShellList

namespace Updater

/-! ## Paths -/

/-- `boost::filesystem::path::operator/`, for a relative path. -/
def joinPath (dir name : Str) : Str :=
  if dir = [] ∨ dir.getLast? = some 47 then dir ++ name else dir ++ str "/" ++ name

/-- `boost::filesystem::path::parent_path`. -/
def parentPath (path : Str) : Str :=
  let dir := (path.reverse.dropWhile (· ≠ 47)).dropWhile (· = 47)
  if dir = [] then (path.reverse.dropWhile (· ≠ 47)).take 1 else dir.reverse

/-- `boost::filesystem::path::filename`: what is behind the last separator. A root is its own file
name. -/
def fileName (path : Str) : Str :=
  let name := (path.reverse.takeWhile (· ≠ 47)).reverse
  if path = str "//" ∨ path = str "//" ++ name ∧ name ≠ [] then path
  else if name ≠ [] ∨ path = [] then name
  else if path.all (· = 47) then str "/"
  else str "."

/-! ## The name of the download -/

/-- What `(.*)"` matches: all before the last quote. -/
def upToLastQuote (s : Str) : Option Str :=
  match s.reverse.dropWhile (· ≠ 34) with
  | [] => none
  | _ :: before => some before.reverse

/-- What `.*filename="(.*)"` captures in a line. The first `.*` takes as much as it can. -/
def searchLine : Str → Option Str
  | [] => none
  | c :: rest =>
      match searchLine rest with
      | some name => some name
      | none =>
          if str "filename=\"" <+: c :: rest then
            upToLastQuote ((c :: rest).drop (str "filename=\"").length)
          else none

/-- `std::regex_search`: a dot does not match the end of a line. -/
def searchFileName (header : Str) : Option Str :=
  (header.splitOnP (fun c => c = 10 || c = 13)).findSome? searchLine

/-- `downloadFileName`. -/
def downloadFileName (defaultFileName header : Str) : Str :=
  match searchFileName header with
  | some name => str "Update-" ++ fileName name
  | none => defaultFileName

example : downloadFileName (str "x") (str "attachment; filename=\"../../bin/sh\"; size=1") =
    str "Update-sh" := by decide

/-- Where a path with these components leads from a directory: how deep below it, if it never leaves
it. -/
def depthBelow : Nat → List Str → Option Nat
  | depth, [] => some depth
  | depth, part :: parts =>
      if part = [] ∨ part = str "." then depthBelow depth parts
      else if part = str ".." then
        match depth with
        | 0 => none
        | depth + 1 => depthBelow depth parts
      else depthBelow (depth + 1) parts

/-- A relative path that does not lead out of its directory. -/
def StaysBelow (name : Str) : Prop := (depthBelow 0 (name.splitOn 47)).isSome = true

/-! ## `Download` -/

/-- What is done to the files. -/
inductive UpdaterOp where
  | createDirectory (path : Str)
  | writeBytes (path : Str) (data : Bytes)
  | remove (path : Str) (recursive : Bool)
  | runCommand (cmd : Str)
  | runUserCommand (cmd : Str)
  deriving DecidableEq, Repr

/-- What an update finds: the system it runs on, and what the operations return. The texts are those of
`StringUtils::RandomString`, `AppInfo`, `PlatformHelper::GetTempDir` and `std::getenv`. -/
structure UpdaterEnv where
  http : HttpClient.DownloadWorld
  os : Str
  arch : Str
  tempDir : Str
  downloadRandom : Str
  createDirectory : Str → Bool
  writeBytes : Str → Bytes → Bool
  appImage : Option Str
  stagingRandom : Str
  pid : Nat
  runCommand : Str → ShellCmdResult

/-- `Updater::GetDownloadURL`. -/
def getDownloadURL (env : UpdaterEnv) (variant : Str) : Str :=
  let os :=
    if env.os = str "Windows" then str "win"
    else if env.os = str "Linux" then str "linux"
    else if env.os = str "macOS" then str "mac"
    else env.os
  let os := if variant = [] then os else os ++ str "_" ++ variant
  str "/download?product=PCBioUnlock&platform=" ++ os ++ str "_" ++ env.arch

def updateURL (env : UpdaterEnv) (variant : Str) : Str :=
  str "https://meis-apps.com" ++ getDownloadURL env variant

/-- The path that `Updater::CreateDownloadDir` makes. -/
def downloadDir (env : UpdaterEnv) : Str :=
  joinPath env.tempDir (str "pcbu-download-" ++ env.downloadRandom)

/-- The handlers of `Download`: all bytes are kept. -/
def downloadWorld (env : UpdaterEnv) (onProgress : List HttpClient.SinkCall → Except Str Bool) :
    HttpClient.DownloadWorld :=
  { env.http with sink := fun _ => { onData := fun _ => .ok true, onProgress := some onProgress } }

/-- What has been done, and the result or what was thrown. -/
structure Updating (α : Type) where
  ops : List UpdaterOp := []
  result : Except Str α

section

variable {Url Ref : Type} (lib : UrlLib Url Ref)

/-- The second half of `Download`: the data are saved under a name. -/
def saveDownload (env : UpdaterEnv) (downloadFileName : Str) (fileData : Bytes) : Updating Str :=
  let dlDir := downloadDir env
  if env.createDirectory dlDir = false then
    { ops := [.createDirectory dlDir], result := .error (str "Error saving update.") }
  else
    let dlPath := joinPath dlDir downloadFileName
    if env.writeBytes dlPath fileData = false then
      { ops := [.createDirectory dlDir, .writeBytes dlPath fileData, .remove dlDir true]
        result := .error (str "Error saving update.") }
    else { ops := [.createDirectory dlDir, .writeBytes dlPath fileData], result := .ok dlPath }

/-- `Updater::Download`. -/
def download (env : UpdaterEnv) (variant defaultFileName : Str)
    (onProgress : List HttpClient.SinkCall → Except Str Bool) : Updating Str :=
  let world := downloadWorld env onProgress
  let sent := HttpClient.download lib world.http 5 (updateURL env variant) true
  let fileData := HttpClient.delivered (world.calls sent.hops)
  if sent.response.ok = false ∨ sent.response.status ≠ 200 ∨ fileData = [] then
    { result := .error (str "Error downloading update.") }
  else
    saveDownload env
      (downloadFileName defaultFileName (sent.response.getHeader (str "Content-Disposition"))) fileData

/-! ## `InstallUpdate` -/

/-- The exit code of a command in a message. -/
def exitCodeText (code : Int32) : Str :=
  if code < 0 then str "-" ++ decimalText code.toInt.natAbs else decimalText code.toInt.natAbs

/-- `stagingPath`. -/
def stagingPath (env : UpdaterEnv) (targetPath : Str) : Str :=
  joinPath (parentPath targetPath) (str ".pcbu-update-" ++ env.stagingRandom ++ str ".AppImage")

/-- `Updater::InstallUpdate` on Linux. -/
def installUpdate (env : UpdaterEnv) (downloadPath : Str) : Updating Str :=
  match env.appImage with
  | none =>
      { ops := [.remove (parentPath downloadPath) true]
        result := .error (str "AppImage path not found.") }
  | some targetPath =>
      let replaceCmd := appImageReplaceCmd downloadPath (stagingPath env targetPath) targetPath
      let replaceResult := env.runCommand replaceCmd
      { ops := [.runCommand replaceCmd, .remove (parentPath downloadPath) true]
        result :=
          if replaceResult.exitCode ≠ 0 then
            .error (str "Failed replacing AppImage. (Code=" ++ exitCodeText replaceResult.exitCode ++
              str ", Output=" ++ trim replaceResult.output ++ str ")")
          else .ok (str "while ps -p " ++ decimalText env.pid ++
            str " > /dev/null 2>&1; do sleep 1; done; " ++ shellQuote targetPath) }

/-- What `DownloadUpdate` does with the download. What `InstallUpdate` throws is logged. -/
def installDownload (env : UpdaterEnv) (downloaded : Updating Str) : Updating Str :=
  match downloaded.result with
  | .error what => { ops := downloaded.ops, result := .error what }
  | .ok dlPath =>
      let installed := installUpdate env dlPath
      { ops := downloaded.ops ++ installed.ops
        result := match installed.result with
          | .error _ => .error (str "Error installing update.")
          | .ok restart => .ok restart }

/-- `Updater::DownloadUpdate`. -/
def downloadUpdate (env : UpdaterEnv) (onProgress : List HttpClient.SinkCall → Except Str Bool) :
    Updating Str :=
  installDownload env (download lib env [] (str "Update-PulseUnlock.AppImage") onProgress)

end

/-! ## Names that stay in the directory -/

theorem slash_notMem_name (path : Str) : 47 ∉ (path.reverse.takeWhile (· ≠ 47)).reverse := by
  intro h
  have hmem := List.mem_takeWhile_imp (List.mem_reverse.mp h)
  exact absurd hmem (by decide)

theorem fileName_cases (path : Str) :
    47 ∉ fileName path ∨ fileName path = str "/" ∨
      ∃ name, 47 ∉ name ∧ fileName path = str "//" ++ name := by
  have hname := slash_notMem_name path
  unfold fileName
  dsimp only
  split
  · next hroot =>
      refine .inr (.inr ?_)
      rcases hroot with hroot | ⟨hroot, -⟩
      · exact ⟨[], List.not_mem_nil, hroot⟩
      · exact ⟨_, hname, hroot⟩
  · split
    · exact .inl hname
    · split
      · exact .inr (.inl rfl)
      · exact .inl (by decide)

/-- The first component is the name of a file. -/
theorem depthBelow_update {name : Str} (parts : List Str) :
    depthBelow 0 ((str "Update-" ++ name) :: parts) = depthBelow 1 parts := by
  have hempty : str "Update-" ++ name ≠ [] := nofun
  have hdot : str "Update-" ++ name ≠ str "." := fun h => absurd (List.cons.inj h).1 (by decide)
  have hdots : str "Update-" ++ name ≠ str ".." := fun h => absurd (List.cons.inj h).1 (by decide)
  rw [depthBelow, if_neg (not_or.mpr ⟨hempty, hdot⟩), if_neg hdots]

/-- One component cannot lead further up than one level. -/
theorem depthBelow_one (depth : Nat) (part : Str) :
    (depthBelow (depth + 1) [part]).isSome = true := by
  unfold depthBelow
  split
  · rfl
  · split
    · rfl
    · rfl

theorem staysBelow_fileName (path : Str) : StaysBelow (str "Update-" ++ fileName path) := by
  have hpre : (47 : UInt8) ∉ str "Update-" := by decide
  unfold StaysBelow
  rcases fileName_cases path with hname | hslash | ⟨name, hname, hroot⟩
  · have hnot : 47 ∉ str "Update-" ++ fileName path := by
      rw [List.mem_append, not_or]
      exact ⟨hpre, hname⟩
    rw [List.splitOn_eq_singleton hnot, depthBelow_update]
    rfl
  · rw [hslash]
    decide
  · have hsplit : (str "Update-" ++ fileName path).splitOn 47 = [str "Update-", [], name] := by
      rw [hroot]
      show (str "Update-" ++ 47 :: ([] ++ 47 :: name)).splitOn 47 = _
      rw [List.splitOn_append_cons_self_of_not_mem hpre,
        List.splitOn_append_cons_self_of_not_mem List.not_mem_nil, List.splitOn_eq_singleton hname]
    rw [hsplit]
    exact depthBelow_one 0 name

/-- **Whatever name the server gives, the path of the download does not lead out of its directory.** -/
theorem downloadFileName_staysBelow {defaultFileName : Str} (h : StaysBelow defaultFileName)
    (header : Str) : StaysBelow (downloadFileName defaultFileName header) := by
  unfold downloadFileName
  cases searchFileName header with
  | none => exact h
  | some name => exact staysBelow_fileName name

/-! ## What is saved -/

section

variable {Url Ref : Type} {lib : UrlLib Url Ref} {env : UpdaterEnv}
  {onProgress : List HttpClient.SinkCall → Except Str Bool}

/-- A chain that begins with HTTPS has no other exchanges. -/
theorem send_secure {world : HttpWorld} {request : HttpRequest} {maxRedirects : Int} {url : Str}
    (hsecure : ∀ endpoint, HttpClient.parseUrl lib url = some endpoint → endpoint.secure = true)
    {hop : HttpClient.Hop} (hhop : hop ∈ (HttpClient.send lib world request maxRedirects url).hops) :
    hop.endpoint.secure = true := by
  have hchain : (HttpClient.send lib world request maxRedirects url).hops.Pairwise
      HttpClient.Hop.NoDowngrade := List.isChain_iff_pairwise.mp (HttpClient.sendLoop_isChain _ 0 url)
  have hhead : ∀ first ∈ (HttpClient.send lib world request maxRedirects url).hops.head?,
      HttpClient.parseUrl lib url = some first.endpoint := HttpClient.sendLoop_head _ 0 url
  cases hhops : (HttpClient.send lib world request maxRedirects url).hops with
  | nil =>
      rw [hhops] at hhop
      exact absurd hhop List.not_mem_nil
  | cons first rest =>
      rw [hhops] at hhop hchain
      have hfirst : first.endpoint.secure = true := by
        refine hsecure _ (hhead first ?_)
        show first ∈ (HttpClient.send lib world request maxRedirects url).hops.head?
        rw [hhops]
        rfl
      rcases List.mem_cons.mp hhop with rfl | hrest
      · exact hfirst
      · exact (List.pairwise_cons.mp hchain).1 hop hrest hfirst

/-- The body of a response with status 200, which came over HTTPS. -/
structure Fetched (lib : UrlLib Url Ref) (env : UpdaterEnv)
    (onProgress : List HttpClient.SinkCall → Except Str Bool)
    (body : Nat → Endpoint → Bytes) (variant : Str) (data : Bytes) : Prop where
  nonempty : data ≠ []
  complete : ∃ hop last,
    (HttpClient.download lib (downloadWorld env onProgress).http 5 (updateURL env variant) true).hops[hop]? =
        some last ∧
      last.endpoint.secure = true ∧ last.reply.ok = true ∧ last.reply.status = 200 ∧
      data = body hop last.endpoint

theorem download_complete {body : Nat → Endpoint → Bytes} {variant : Str}
    (hyields : ∀ hop endpoint, (env.http.reply hop endpoint).Yields (body hop endpoint))
    (hsecure : ∀ endpoint, HttpClient.parseUrl lib (updateURL env variant) = some endpoint →
      endpoint.secure = true) {sent : HttpClient.Sent}
    (hsent : sent =
      HttpClient.download lib (downloadWorld env onProgress).http 5 (updateURL env variant) true)
    (hok : sent.response.ok = true) (hstatus : sent.response.status = 200) :
    ∃ hop last, sent.hops[hop]? = some last ∧ last.endpoint.secure = true ∧ last.reply.ok = true ∧
      last.reply.status = 200 ∧
      HttpClient.delivered ((downloadWorld env onProgress).calls sent.hops) = body hop last.endpoint := by
  subst hsent
  let sent := HttpClient.download lib (downloadWorld env onProgress).http 5 (updateURL env variant) true
  obtain ⟨last, hlast, hreply⟩ := HttpClient.sendLoop_last _ 0 (updateURL env variant) hok
  have hget : sent.hops[sent.hops.length - 1]? = some last := by
    rw [← List.getLast?_eq_getElem?]
    exact hlast
  have hsent : last.reply =
      ((downloadWorld env onProgress).sendOnce (sent.hops.length - 1) last.endpoint).result := by
    have hr := HttpClient.sendLoop_reply _ 0 (updateURL env variant) _ last hget
    rw [Nat.zero_add] at hr
    exact hr
  have hreplies : ∀ hop endpoint,
      ((downloadWorld env onProgress).reply hop endpoint).Yields (body hop endpoint) := hyields
  have hdelivers : HttpClient.Delivers (HttpClient.isRedirect last.reply.status)
      (body (sent.hops.length - 1) last.endpoint) (last.reply.ok = true)
      ((downloadWorld env onProgress).sendOnce (sent.hops.length - 1) last.endpoint).calls := by
    rw [hsent]
    exact HttpClient.sendOnce_delivers (hreplies _ _)
  -- the redirects before it have kept the sink silent
  have hcalls : (downloadWorld env onProgress).calls sent.hops =
      ((downloadWorld env onProgress).sendOnce (sent.hops.length - 1) last.endpoint).calls := by
    refine HttpClient.calls_eq_last (fun hop exchange h hlt => ?_) hlast
    have hr := HttpClient.sendLoop_reply _ 0 (updateURL env variant) hop exchange h
    have hredirect := HttpClient.sendLoop_followed _ 0 (updateURL env variant) hop exchange h hlt
    rw [Nat.zero_add] at hr
    rw [hr] at hredirect
    exact (HttpClient.sendOnce_delivers (hreplies hop exchange.endpoint)).silent hredirect
  have hok' : last.reply.ok = true := hreply ▸ hok
  have hstatus' : last.reply.status = 200 := hreply ▸ hstatus
  refine ⟨_, last, hget, send_secure hsecure (List.mem_of_getElem? hget), hok', hstatus', ?_⟩
  have hwhole := hdelivers.whole hok'
  rw [hstatus', if_neg (by decide)] at hwhole
  exact (congrArg HttpClient.delivered hcalls).trans hwhole

/-- The runs of `Download`: nothing has been saved, or the directory could not be made, or the file
could not be written and the directory is removed again, or all is well. -/
inductive DownloadRun (env : UpdaterEnv) (name : Str) (data : Bytes) : Updating Str → Prop
  | failed (what : Str) : DownloadRun env name data ⟨[], .error what⟩
  | noDirectory (what : Str) (h : env.createDirectory (downloadDir env) = false) :
      DownloadRun env name data ⟨[.createDirectory (downloadDir env)], .error what⟩
  | notWritten (what : Str) (h : env.writeBytes (joinPath (downloadDir env) name) data = false) :
      DownloadRun env name data
        ⟨[.createDirectory (downloadDir env), .writeBytes (joinPath (downloadDir env) name) data,
          .remove (downloadDir env) true], .error what⟩
  | saved (hdir : env.createDirectory (downloadDir env) = true)
      (hwritten : env.writeBytes (joinPath (downloadDir env) name) data = true) :
      DownloadRun env name data
        ⟨[.createDirectory (downloadDir env), .writeBytes (joinPath (downloadDir env) name) data],
          .ok (joinPath (downloadDir env) name)⟩

theorem saveDownload_run (env : UpdaterEnv) (name : Str) (data : Bytes) :
    DownloadRun env name data (saveDownload env name data) := by
  unfold saveDownload
  dsimp only
  split
  · next hdir => exact .noDirectory _ hdir
  · next hdir =>
      split
      · next hwritten => exact .notWritten _ hwritten
      · next hwritten =>
          exact .saved (Bool.not_eq_false _ ▸ hdir) (Bool.not_eq_false _ ▸ hwritten)

/-- The download is saved when it is a response with status 200 and not empty. -/
theorem download_eq {variant defaultFileName : Str} {sent : HttpClient.Sent}
    (hsent : sent =
      HttpClient.download lib (downloadWorld env onProgress).http 5 (updateURL env variant) true)
    (hok : sent.response.ok = true) (hstatus : sent.response.status = 200)
    (hdata : HttpClient.delivered ((downloadWorld env onProgress).calls sent.hops) ≠ []) :
    download lib env variant defaultFileName onProgress =
      saveDownload env
        (downloadFileName defaultFileName (sent.response.getHeader (str "Content-Disposition")))
        (HttpClient.delivered ((downloadWorld env onProgress).calls sent.hops)) := by
  subst hsent
  refine if_neg ?_
  rw [not_or, not_or, Bool.not_eq_false, not_ne_iff]
  exact ⟨hok, hstatus, hdata⟩

/-- **What `Download` saves is the whole body of a response with status 200 that came over HTTPS, at a
path that does not lead out of the new directory, whatever the servers reply.** -/
theorem download_run {body : Nat → Endpoint → Bytes} {variant defaultFileName : Str}
    (hyields : ∀ hop endpoint, (env.http.reply hop endpoint).Yields (body hop endpoint))
    (hsecure : ∀ endpoint, HttpClient.parseUrl lib (updateURL env variant) = some endpoint →
      endpoint.secure = true)
    (hdefault : StaysBelow defaultFileName) :
    ∃ name data, StaysBelow name ∧
      DownloadRun env name data (download lib env variant defaultFileName onProgress) ∧
      ((download lib env variant defaultFileName onProgress).ops ≠ [] →
        Fetched lib env onProgress body variant data) := by
  let sent := HttpClient.download lib (downloadWorld env onProgress).http 5 (updateURL env variant) true
  let data := HttpClient.delivered ((downloadWorld env onProgress).calls sent.hops)
  let name := downloadFileName defaultFileName (sent.response.getHeader (str "Content-Disposition"))
  refine ⟨name, data, downloadFileName_staysBelow hdefault _, ?_⟩
  by_cases hfailed : sent.response.ok = false ∨ sent.response.status ≠ 200 ∨ data = []
  · have hrun : download lib env variant defaultFileName onProgress = ⟨[], _⟩ := if_pos hfailed
    rw [hrun]
    exact ⟨.failed _, fun hne => absurd rfl hne⟩
  · have hgood : sent.response.ok = true ∧ sent.response.status = 200 ∧ data ≠ [] := by
      rw [not_or, not_or, Bool.not_eq_false, not_ne_iff] at hfailed
      exact hfailed
    refine ⟨?_, fun _ => ⟨hgood.2.2, download_complete hyields hsecure rfl hgood.1 hgood.2.1⟩⟩
    rw [download_eq rfl hgood.1 hgood.2.1 hgood.2.2]
    exact saveDownload_run env name data

/-! ## What is put in place -/

/-- The file has been saved, nothing has the random name, and the target is a file. -/
structure UpdateReady (s : ShellState Bytes) (dlPath staging target : Str) (data : Bytes) : Prop where
  saved : ∃ file, s.files dlPath = some file ∧ file.isDir = false ∧ file.data = data
  fresh : s.files staging = none
  outside : ¬ AtOrBelow staging target
  target_file : ∀ d, s.files target = some d → d.isDir = false

/-- The downloaded data, as the AppImage that was there. -/
def UpdatedFrom (cenv : CommandEnv Bytes) (s : ShellState Bytes) (target : Str) (data : Bytes)
    (entry : Entry Bytes) : Prop :=
  entry.data = data ∧ entry.isDir = false ∧ ∃ old, s.files target = some old ∧
    entry.owner = old.owner ∧ entry.mode = old.mode ||| (0o111 &&& ~~~cenv.umask)

theorem appImageReplace_updated {cenv : CommandEnv Bytes} {s : ShellState Bytes}
    {dlPath staging target : Str} {data : Bytes} (h : UpdateReady s dlPath staging target data)
    (last : Nat) :
    wp (fileSemantics cenv) (appImageReplace dlPath staging target)
      (Whole (Region.below staging) target (UpdatedFrom cenv s target data) s) last s := by
  refine wp_mono (appImageReplace_whole h.fresh h.outside h.target_file) fun o ho => ho.mono ?_
  rintro entry ⟨new, old, hnew, hold, hdir, hdata, howner, hmode⟩
  obtain ⟨file, hfile, hisFile, hsaved⟩ := h.saved
  cases hnew.symm.trans hfile
  exact ⟨hdata.trans hsaved, hdir.trans hisFile, old, hold, howner, hmode⟩

/-- An update that has run its command: the operations in their order, and all that can become of the
command. -/
structure Replacement (lib : UrlLib Url Ref) (env : UpdaterEnv)
    (onProgress : List HttpClient.SinkCall → Except Str Bool) (body : Nat → Endpoint → Bytes)
    (run : Updating Str) (name target : Str) (data : Bytes) : Prop where
  fetched : Fetched lib env onProgress body [] data
  below : StaysBelow name
  appImage : env.appImage = some target
  ops : run.ops =
    [.createDirectory (downloadDir env), .writeBytes (joinPath (downloadDir env) name) data,
      .runCommand (shellText
        (appImageReplace (joinPath (downloadDir env) name) (stagingPath env target) target)),
      .remove (parentPath (joinPath (downloadDir env) name)) true]
  whole : ∀ (cenv : CommandEnv Bytes) (s : ShellState Bytes) (o : Ended (ShellState Bytes)),
    UpdateReady s (joinPath (downloadDir env) name) (stagingPath env target) target data →
    Outcomes (fileSemantics cenv)
      (appImageReplace (joinPath (downloadDir env) name) (stagingPath env target) target) 0 s o →
    ((env.runCommand (shellText (appImageReplace (joinPath (downloadDir env) name)
        (stagingPath env target) target))).exitCode = 0 → o.status = some 0) →
      Whole (Region.below (stagingPath env target)) target (UpdatedFrom cenv s target data) s o ∧
      (∀ q, ¬ AtOrBelow (stagingPath env target) q → ¬ AtOrBelow target q →
        o.state.files q = s.files q) ∧
      ∀ restart, run.result = .ok restart →
        InPlace (Region.below (stagingPath env target)) target (UpdatedFrom cenv s target data) s o.state

/-- There is an AppImage: one command is run, and only exit code zero is no error. -/
theorem installUpdate_some {target : Str} (happ : env.appImage = some target) (dlPath : Str) :
    ∃ result : Except Str Str,
      installUpdate env dlPath =
        ⟨[.runCommand (appImageReplaceCmd dlPath (stagingPath env target) target),
          .remove (parentPath dlPath) true], result⟩ ∧
      ∀ restart, result = .ok restart →
        (env.runCommand (appImageReplaceCmd dlPath (stagingPath env target) target)).exitCode = 0 := by
  unfold installUpdate
  rw [happ]
  refine ⟨_, rfl, fun restart hrestart => ?_⟩
  by_contra hcode
  rw [if_pos hcode] at hrestart
  cases hrestart

/-- No command is run, or one. -/
theorem installDownload_replaces {body : Nat → Endpoint → Bytes} {name : Str} {data : Bytes}
    {downloaded : Updating Str} (hname : StaysBelow name) (hrun : DownloadRun env name data downloaded)
    (hfetched : downloaded.ops ≠ [] → Fetched lib env onProgress body [] data) :
    ((∀ restart, (installDownload env downloaded).result ≠ .ok restart) ∧
      ∀ cmd, .runCommand cmd ∉ (installDownload env downloaded).ops) ∨
    ∃ target,
      Replacement lib env onProgress body (installDownload env downloaded) name target data := by
  cases hrun with
  | failed what => exact .inl ⟨nofun, fun cmd hcmd => by simp [installDownload] at hcmd⟩
  | noDirectory what h => exact .inl ⟨nofun, fun cmd hcmd => by simp [installDownload] at hcmd⟩
  | notWritten what h => exact .inl ⟨nofun, fun cmd hcmd => by simp [installDownload] at hcmd⟩
  | saved hdir hwritten =>
      cases happ : env.appImage with
      | none =>
          refine .inl ⟨?_, fun cmd hcmd => ?_⟩
          · intro restart h
            simp [installDownload, installUpdate, happ] at h
          · simp [installDownload, installUpdate, happ] at hcmd
      | some target =>
          obtain ⟨result, hinstall, hcode⟩ := installUpdate_some happ (joinPath (downloadDir env) name)
          rw [← shellText_appImageReplace] at hinstall hcode
          have hall : installDownload env
              ⟨[.createDirectory (downloadDir env), .writeBytes (joinPath (downloadDir env) name) data],
                .ok (joinPath (downloadDir env) name)⟩ =
              ⟨[.createDirectory (downloadDir env), .writeBytes (joinPath (downloadDir env) name) data,
                .runCommand (shellText
                  (appImageReplace (joinPath (downloadDir env) name) (stagingPath env target) target)),
                .remove (parentPath (joinPath (downloadDir env) name)) true],
                result.mapError fun _ => str "Error installing update."⟩ := by
            unfold installDownload
            dsimp only
            rw [hinstall]
            cases result <;> rfl
          rw [hall]
          refine .inr ⟨target, hfetched nofun, hname, happ, rfl, ?_⟩
          intro cenv s o hready ho hreported
          have hwhole := appImageReplace_updated hready 0 o ho
          refine ⟨hwhole, fun q => hwhole.same id, fun restart hrestart => hwhole.inPlace (hreported ?_)⟩
          cases result with
          | error what => cases hrestart
          | ok restart => exact hcode restart rfl

/-- **The update of the AppImage, from the servers to the file.** At most one command is run, between the
saving and the removal of the download. When `DownloadUpdate` returns, what is at the path of the AppImage
is the whole body of a response with status 200 that came over HTTPS, with the owner and the mode of the
version before. When it throws, and whenever the command is stopped, that version is in place or the one
before. Nothing else has changed but at the staging path. -/
theorem downloadUpdate_replaces {body : Nat → Endpoint → Bytes}
    (hyields : ∀ hop endpoint, (env.http.reply hop endpoint).Yields (body hop endpoint))
    (hsecure : ∀ endpoint, HttpClient.parseUrl lib (updateURL env []) = some endpoint →
      endpoint.secure = true) :
    ((∀ restart, (downloadUpdate lib env onProgress).result ≠ .ok restart) ∧
      ∀ cmd, .runCommand cmd ∉ (downloadUpdate lib env onProgress).ops) ∨
    ∃ name target data,
      Replacement lib env onProgress body (downloadUpdate lib env onProgress) name target data := by
  have hdefault : StaysBelow (str "Update-PulseUnlock.AppImage") := by
    unfold StaysBelow
    decide
  obtain ⟨name, data, hname, hrun, hfetched⟩ := download_run hyields hsecure hdefault
  rcases installDownload_replaces hname hrun hfetched with hnothing | ⟨target, h⟩
  · exact .inl hnothing
  · exact .inr ⟨name, target, data, h⟩

end

end Updater

namespace Sample

open HttpClient

/-- An AppImage is updated from the two servers. -/
def updating : Updater.UpdaterEnv where
  http := downloading
  os := str "Linux"
  arch := str "x64"
  tempDir := str "/tmp"
  downloadRandom := str "a1"
  createDirectory := fun _ => true
  writeBytes := fun _ _ => true
  appImage := some (str "/home/user/PulseUnlock.AppImage")
  stagingRandom := str "b2"
  pid := 7
  runCommand := fun _ => {}

def commands : CommandEnv Bytes where
  unpack := fun data name => if name = str "pulseunlock" then some data else none

def savedFile (isDir : Bool) (data : Bytes) : Entry Bytes :=
  { isDir, data, owner := (0, 0), mode := 0o644 }

/-- What has been downloaded, and what it replaces. -/
def savedUpdate (isDir : Bool) (dlPath target : Str) (data : Bytes) : ShellState Bytes :=
  (({ files := fun _ => none } : ShellState Bytes).set target
    (some { isDir, data := [1], owner := (1000, 1000), mode := 0o755 })).set dlPath
    (some (savedFile isDir data))

theorem savedUpdate_none {isDir : Bool} {dlPath target q : Str} {data : Bytes} (hsaved : q ≠ dlPath)
    (htarget : q ≠ target) : (savedUpdate isDir dlPath target data).files q = none := by
  unfold savedUpdate
  rw [ShellState.set_of_ne _ _ hsaved, ShellState.set_of_ne _ _ htarget]

theorem savedUpdate_target {isDir : Bool} {dlPath target : Str} {data : Bytes} (h : target ≠ dlPath) :
    (savedUpdate isDir dlPath target data).files target =
      some { isDir, data := [1], owner := (1000, 1000), mode := 0o755 } := by
  unfold savedUpdate
  rw [ShellState.set_of_ne _ _ h, ShellState.set_self]

end Sample

namespace Updater

theorem updating_secure {variant : Str} (hvariant : variant = [] ∨ variant = str "cli")
    (endpoint : Endpoint)
    (h : HttpClient.parseUrl Sample.urlLib (updateURL Sample.updating variant) = some endpoint) :
    endpoint.secure = true := by
  have hparse : ((HttpClient.parseUrl Sample.urlLib (updateURL Sample.updating variant)).map
      Endpoint.secure) = some true := by
    rcases hvariant with rfl | rfl
    · decide +kernel
    · decide +kernel
  rw [h] at hparse
  exact Option.some.inj hparse

theorem updating_yields (hop : Nat) (endpoint : Endpoint) :
    (Sample.updating.http.reply hop endpoint).Yields (Sample.downloadedBody hop) :=
  Sample.downloading_yields hop endpoint

theorem updating_world : downloadWorld Sample.updating (fun _ => .ok true) = Sample.downloading := rfl

theorem updating_response {variant : Str} (hvariant : variant = [] ∨ variant = str "cli") :
    (HttpClient.download Sample.urlLib (downloadWorld Sample.updating fun _ => .ok true).http 5
      (updateURL Sample.updating variant) true).response = { ok := true, status := 200 } := by
  have hhttp : Sample.downloading.http =
      { canceled := fun _ => false
        sendOnce := fun hop _ _ =>
          if hop = 0 then { ok := true, status := 302, headers := [(str "Location", str "https://b/x")] }
          else { ok := true, status := 200 } } := by
    unfold HttpClient.DownloadWorld.http
    congr 1
    funext hop endpoint _
    exact HttpClient.downloading_response hop endpoint
  rw [updating_world, hhttp]
  rcases hvariant with rfl | rfl
  · decide +kernel
  · decide +kernel

/-- The second reply is saved. It gives no name. -/
theorem updating_saved {variant : Str} (hvariant : variant = [] ∨ variant = str "cli")
    (defaultFileName : Str) :
    ∃ data, download Sample.urlLib Sample.updating variant defaultFileName (fun _ => .ok true) =
      saveDownload Sample.updating defaultFileName data := by
  obtain ⟨sent, hsent⟩ : ∃ sent, sent = HttpClient.download Sample.urlLib
      (downloadWorld Sample.updating fun _ => .ok true).http 5 (updateURL Sample.updating variant) true :=
    ⟨_, rfl⟩
  have hresponse : sent.response = { ok := true, status := 200 } := hsent ▸ updating_response hvariant
  have hok : sent.response.ok = true := congrArg HttpResponse.ok hresponse
  have hstatus : sent.response.status = 200 := congrArg HttpResponse.status hresponse
  obtain ⟨hop, last, -, -, -, -, hdata⟩ :=
    download_complete updating_yields (updating_secure hvariant) hsent hok hstatus
  have hne : Sample.downloadedBody hop ≠ [] := by
    unfold Sample.downloadedBody
    split
    · decide
    · decide
  have hsaved : download Sample.urlLib Sample.updating variant defaultFileName (fun _ => .ok true) = _ :=
    download_eq hsent hok hstatus (hdata ▸ hne)
  rw [hresponse] at hsaved
  exact ⟨_, hsaved⟩

theorem updating_restarts : ∃ restart,
    (downloadUpdate Sample.urlLib Sample.updating fun _ => .ok true).result = .ok restart := by
  obtain ⟨data, hsaved⟩ := updating_saved (.inl rfl) (str "Update-PulseUnlock.AppImage")
  unfold downloadUpdate
  rw [hsaved]
  exact ⟨_, rfl⟩

/-- The download is not in the directory of the programs. -/
theorem updating_dlPath {q : Str} (hq : q[1]? ≠ some 116) (name : Str) :
    q ≠ joinPath (downloadDir Sample.updating) name := by
  rintro rfl
  exact hq rfl

theorem updating_target (name : Str) (data : Bytes) :
    (Sample.savedUpdate false (joinPath (downloadDir Sample.updating) name)
      (str "/home/user/PulseUnlock.AppImage") data).files (str "/home/user/PulseUnlock.AppImage") =
      some { isDir := false, data := [1], owner := (1000, 1000), mode := 0o755 } :=
  Sample.savedUpdate_target (updating_dlPath (by decide) name)

theorem updating_ready (name : Str) (data : Bytes) :
    UpdateReady (Sample.savedUpdate false (joinPath (downloadDir Sample.updating) name)
        (str "/home/user/PulseUnlock.AppImage") data)
      (joinPath (downloadDir Sample.updating) name)
      (stagingPath Sample.updating (str "/home/user/PulseUnlock.AppImage"))
      (str "/home/user/PulseUnlock.AppImage") data where
  saved := ⟨_, ShellState.set_self .., rfl, rfl⟩
  fresh := Sample.savedUpdate_none (updating_dlPath (by decide) name) (by decide)
  outside := fun h => absurd h.isPrefix (by decide)
  target_file := by
    intro d hd
    cases (updating_target name data).symm.trans hd
    rfl

theorem downloadUpdate_replaces_sample :
    ∃ name target data,
      Replacement Sample.urlLib Sample.updating (fun _ => .ok true)
        (fun hop _ => Sample.downloadedBody hop)
        (downloadUpdate Sample.urlLib Sample.updating fun _ => .ok true) name target data ∧
      ∃ s o, UpdateReady s (joinPath (downloadDir Sample.updating) name)
          (stagingPath Sample.updating target) target data ∧
        Outcomes (fileSemantics Sample.commands) (appImageReplace
          (joinPath (downloadDir Sample.updating) name) (stagingPath Sample.updating target) target) 0 s o ∧
        InPlace (Region.below (stagingPath Sample.updating target)) target
          (UpdatedFrom Sample.commands s target data) s o.state := by
  obtain ⟨restart, hrestart⟩ := updating_restarts
  rcases downloadUpdate_replaces updating_yields (updating_secure (.inl rfl)) with
    ⟨hno, -⟩ | ⟨name, target, data, h⟩
  · exact absurd hrestart (hno restart)
  · obtain rfl : str "/home/user/PulseUnlock.AppImage" = target := Option.some.inj h.appImage
    have hready := updating_ready name data
    obtain ⟨s', hrun⟩ : ∃ s', Outcomes (fileSemantics Sample.commands) (appImageReplace
        (joinPath (downloadDir Sample.updating) name)
        (stagingPath Sample.updating (str "/home/user/PulseUnlock.AppImage"))
        (str "/home/user/PulseUnlock.AppImage")) 0 _ (.done 0 s') :=
      appImageReplace_completes (ShellState.set_self ..) rfl (updating_target name data) (by decide)
    obtain ⟨-, -, hplaced⟩ := h.whole Sample.commands _ _ hready hrun fun _ => rfl
    exact ⟨name, _, data, h, _, _, hready, hrun, hplaced restart hrestart⟩

end Updater

end PcbuDesktop
