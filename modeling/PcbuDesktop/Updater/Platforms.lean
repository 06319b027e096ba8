import PcbuDesktop.Updater.Updater

set_option autoImplicit false

/-! # The updates of the CLI and of the app on macOS

`Updater::InstallCliUpdate` (`updater/Updater.Unix.cpp`) and `Updater::InstallUpdate` on macOS
(`updater/Updater.Mac.cpp`). Both return only when the new version is in place, and clean up behind
them in any case.
-/

namespace PcbuDesktop

open ShellList

namespace Updater

/-! ## The CLI -/

section

variable {Url Ref : Type} (lib : UrlLib Url Ref)

end

section

variable {Url Ref : Type} {lib : UrlLib Url Ref} {env : UpdaterEnv}
  {onProgress : List HttpClient.SinkCall → Except Str Bool}

end

/-! ## The app bundle -/

/-- What an update finds on macOS: the result of `GetAppBundlePath`, and the entries of the mounted
image. -/
structure MacUpdaterEnv where
  bundlePath : Str
  id : Str
  tempDir : Str
  entries : Str → List Str
  pid : Nat
  runUserCommand : Str → ShellCmdResult
  runCommand : Str → ShellCmdResult

/-- `boost::filesystem::path::extension`. -/
def extension (path : Str) : Str :=
  let name := fileName path
  if name = str "." ∨ name = str ".." then []
  else if 46 ∈ name then 46 :: (name.reverse.takeWhile (· ≠ 46)).reverse
  else []

section

variable (env : MacUpdaterEnv)

def mountDir : Str := joinPath env.tempDir (str "pcbu-update-" ++ env.id)

def mountCmd (downloadPath : Str) : Str :=
  str "hdiutil attach -nobrowse -readonly -noautoopen -mountpoint " ++ shellQuote (mountDir env) ++
    str " " ++ shellQuote downloadPath

def bundleStagingPath : Str :=
  joinPath (parentPath env.bundlePath) (str ".pcbu-update-" ++ env.id ++ str ".app")

def bundleOldPath : Str :=
  joinPath (parentPath env.bundlePath) (str ".pcbu-old-" ++ env.id ++ str ".app")

/-- `cleanup`. -/
def cleanup (downloadPath : Str) : List UpdaterOp :=
  [.runUserCommand (str "hdiutil detach -force " ++ shellQuote (mountDir env)),
    .remove (parentPath downloadPath) true]

/-- `Updater::InstallUpdate` on macOS. -/
def installUpdateMac (downloadPath : Str) : Updating Str :=
  if env.bundlePath = [] then
    { ops := [.remove (parentPath downloadPath) true], result := .error (str "App bundle not found.") }
  else
    let mount := env.runUserCommand (mountCmd env downloadPath)
    if mount.exitCode ≠ 0 then
      { ops := [.runUserCommand (mountCmd env downloadPath), .remove (parentPath downloadPath) true]
        result := .error (str "Failed mounting update. (Output=" ++ trim mount.output ++ str ")") }
    else
      match (env.entries (mountDir env)).find? (fun entry => extension entry = str ".app") with
      | none =>
          { ops := [.runUserCommand (mountCmd env downloadPath)] ++ cleanup env downloadPath
            result := .error (str "No app found in update.") }
      | some newAppPath =>
          let replaceCmd := bundleReplaceCmd newAppPath (bundleStagingPath env) env.bundlePath
            (bundleOldPath env)
          let replaceResult := env.runCommand replaceCmd
          { ops := [.runUserCommand (mountCmd env downloadPath), .runCommand replaceCmd] ++
              cleanup env downloadPath
            result :=
              if replaceResult.exitCode ≠ 0 then
                .error (str "Failed replacing app. (Code=" ++ exitCodeText replaceResult.exitCode ++
                  str ", Output=" ++ trim replaceResult.output ++ str ")")
              else .ok (str "while ps -p " ++ decimalText env.pid ++
                str " > /dev/null 2>&1; do sleep 1; done; open " ++ shellQuote env.bundlePath) }

end

/-- **The update of the app bundle.** At most one command is run as root, and what has been mounted is
detached. When `InstallUpdate` returns, the new app is in place. When it throws, and whenever the command
is stopped, the app from the image is in place, or the one before is there, at its place or beside it. -/
theorem installUpdateMac_replaces (env : MacUpdaterEnv) (downloadPath : Str) :
    ((∃ what, (installUpdateMac env downloadPath).result = .error what) ∧
      ∀ cmd, .runCommand cmd ∉ (installUpdateMac env downloadPath).ops) ∨
    ∃ newApp ∈ env.entries (mountDir env), extension newApp = str ".app" ∧
      (installUpdateMac env downloadPath).ops =
        [.runUserCommand (mountCmd env downloadPath),
          .runCommand (shellText
            (bundleReplace newApp (bundleStagingPath env) env.bundlePath (bundleOldPath env)))] ++
          cleanup env downloadPath ∧
      ∀ {δ : Type} (cenv : CommandEnv δ) (s : ShellState δ) (app : Entry δ) (o : Ended (ShellState δ)),
        BundlePaths s (bundleStagingPath env) env.bundlePath (bundleOldPath env) app →
        Outcomes (fileSemantics cenv)
          (bundleReplace newApp (bundleStagingPath env) env.bundlePath (bundleOldPath env)) 0 s o →
        ((env.runCommand (shellText (bundleReplace newApp (bundleStagingPath env) env.bundlePath
            (bundleOldPath env)))).exitCode = 0 → o.status = some 0) →
          Swapped s newApp (bundleStagingPath env) env.bundlePath (bundleOldPath env) app o ∧
          ∀ restart, (installUpdateMac env downloadPath).result = .ok restart →
            ∃ entry, o.state.files env.bundlePath = some entry ∧ Replaced s newApp app entry := by
  unfold installUpdateMac
  split
  · exact .inl ⟨⟨_, rfl⟩, fun cmd hcmd => by simp at hcmd⟩
  · dsimp only
    split
    · exact .inl ⟨⟨_, rfl⟩, fun cmd hcmd => by simp at hcmd⟩
    · split
      · exact .inl ⟨⟨_, rfl⟩, fun cmd hcmd => by simp [cleanup] at hcmd⟩
      · next newApp hfind =>
          have happ : extension newApp = str ".app" := by
            have := List.find?_some hfind
            exact of_decide_eq_true this
          refine .inr ⟨newApp, List.mem_of_find?_eq_some hfind, happ, ?_, ?_⟩
          · rw [shellText_bundleReplace]
          · intro δ cenv s app o hpaths ho hreported
            have hswapped := bundleReplace_swapped hpaths 0 o ho
            refine ⟨hswapped, fun restart hrestart => ?_⟩
            have hstatus : o.status = some 0 := by
              refine hreported ?_
              rw [shellText_bundleReplace]
              by_contra hcode
              rw [if_pos hcode] at hrestart
              cases hrestart
            obtain ⟨-, state, hholds, hiff⟩ := hswapped
            obtain rfl := (hiff 0 hstatus).mp rfl
            exact hholds

end Updater

namespace Sample

/-- An app is updated from a mounted image. -/
def bundleUpdating : Updater.MacUpdaterEnv where
  bundlePath := str "/Applications/PulseUnlock.app"
  id := str "a1"
  tempDir := str "/tmp"
  entries := fun _ => [str "/tmp/pcbu-update-a1/PulseUnlock.app"]
  pid := 7
  runUserCommand := fun _ => {}
  runCommand := fun _ => {}

/-- The app that is mounted, and the one that is installed. -/
def mountedUpdate : ShellState Bytes :=
  savedUpdate true (str "/tmp/pcbu-update-a1/PulseUnlock.app") (str "/Applications/PulseUnlock.app") [2]

end Sample

namespace Updater

theorem bundleUpdating_paths : BundlePaths Sample.mountedUpdate
    (bundleStagingPath Sample.bundleUpdating) Sample.bundleUpdating.bundlePath
    (bundleOldPath Sample.bundleUpdating)
    { isDir := true, data := [1], owner := (1000, 1000), mode := 0o755 } where
  installed := Sample.savedUpdate_target (by decide)
  staging_fresh := Sample.savedUpdate_none (by decide) (by decide)
  old_fresh := Sample.savedUpdate_none (by decide) (by decide)
  staging_bundle := ⟨fun h => absurd h.isPrefix (by decide), fun h => absurd h.isPrefix (by decide)⟩
  staging_old := ⟨fun h => absurd h.isPrefix (by decide), fun h => absurd h.isPrefix (by decide)⟩
  bundle_old := ⟨fun h => absurd h.isPrefix (by decide), fun h => absurd h.isPrefix (by decide)⟩

theorem installUpdateMac_replaces_sample :
    ∃ newApp s app o,
      BundlePaths s (bundleStagingPath Sample.bundleUpdating) Sample.bundleUpdating.bundlePath
          (bundleOldPath Sample.bundleUpdating) app ∧
      Outcomes (fileSemantics Sample.commands)
        (bundleReplace newApp (bundleStagingPath Sample.bundleUpdating)
          Sample.bundleUpdating.bundlePath (bundleOldPath Sample.bundleUpdating)) 0 s o ∧
      ∃ entry, o.state.files Sample.bundleUpdating.bundlePath = some entry ∧
        Replaced s newApp app entry := by
  rcases installUpdateMac_replaces Sample.bundleUpdating (str "/tmp/pcbu-download-a1/Update.dmg") with
    ⟨⟨what, hfailed⟩, -⟩ | ⟨newApp, hmem, -, -, hreplaces⟩
  · cases hfailed
  · obtain rfl : newApp = str "/tmp/pcbu-update-a1/PulseUnlock.app" := List.mem_singleton.mp hmem
    obtain ⟨s', hrun⟩ := @bundleReplace_completes _ Sample.commands _ _ _ _ _ _ _ bundleUpdating_paths
      (ShellState.set_self ..)
    obtain ⟨-, hplaced⟩ := hreplaces Sample.commands _ _ _ bundleUpdating_paths hrun fun _ => rfl
    exact ⟨_, _, _, _, bundleUpdating_paths, hrun, hplaced _ rfl⟩

end Updater

end PcbuDesktop
