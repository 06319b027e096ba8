import PcbuDesktop.Shell.Exchange
import PcbuDesktop.Shell.ReplacingJson

set_option autoImplicit false

/-! # The shell through the elevator

The operations of `Shell` (`shell/Shell.cpp`) as they are when there is an elevator with a healthy
connection: a command goes to `ElevatorApp::HandleCommand` (`desktop/elevator/src/main.cpp`), which
calls the operation of `LocalShell`, and its result comes back in a response. `σ` is the state of the
machine; every operation takes one string, a path or a command line.
-/

namespace PcbuDesktop

open IPCHelper

/-- The operations of `Shell`, with their arguments besides the string. -/
inductive ShellOp where
  | runCommand
  | readBytes
  | writeBytes (data : Bytes)
  | createDir
  | createFile
  | remove (recursive : Bool)
  | protectFile (enabled : Bool)
  deriving DecidableEq, Repr

namespace ShellOp

def Result : ShellOp → Type
  | .runCommand => ShellCmdResult
  | .readBytes => Bytes
  | _ => Bool

/-- The data that goes with a command. -/
def data : ShellOp → Bytes
  | .writeBytes data => data
  | _ => []

end ShellOp

/-- `LocalShell`: the result or the text of an exception, and the state after; and
`std::filesystem::file_size`, with `none` for an error. Reading changes nothing. -/
structure LocalShell (σ : Type) where
  run : (op : ShellOp) → Str → σ → Except Str op.Result × σ
  fileSize : Str → σ → Option Nat
  readBytes_pure : ∀ path s, (run .readBytes path s).2 = s

/-! ## The elevator -/

namespace ElevatorApp

/-- The text of the exception of `args.at`. -/
def outOfRange : Str := str "vector::_M_range_check"

def commandFailed : ElevatorCommandResponse := .error (str "Command failed.")

/-- `ElevatorApp::ToResponse`. -/
def toResponse (success : Bool) : ElevatorCommandResponse := if success then {} else commandFailed

/-- A response for the result of an operation, or for its exception. -/
def respondWith {σ α : Type} (response : α → ElevatorCommandResponse) :
    Except Str α × σ → ElevatorCommandResponse × σ
  | (.ok a, s) => (response a, s)
  | (.error text, s) => (.error text, s)

variable {σ : Type} (lsh : LocalShell σ)

/-- `ElevatorApp::HandleCommand`. -/
def handleCommand (cmd : ElevatorCommand) (s : σ) : ElevatorCommandResponse × σ :=
  match cmd.type, cmd.args[0]?, cmd.args[1]? with
  | .runCmd, some arg, _ =>
      respondWith (fun r : ShellCmdResult => { cmdResult := r }) (lsh.run .runCommand arg s)
  | .readBytes, some path, _ =>
      if (lsh.fileSize path s).any (fun size => size > maxBlobSize) then
        (.error (str "File too large."), s)
      else respondWith (fun bytes : Bytes => { dataBytes := bytes }) (lsh.run .readBytes path s)
  | .writeBytes, some path, _ => respondWith toResponse (lsh.run (.writeBytes cmd.dataBytes) path s)
  | .createFile, some path, some isDir =>
      if isDir = str "true" then respondWith toResponse (lsh.run .createDir path s)
      else respondWith toResponse (lsh.run .createFile path s)
  | .remove, some path, some recursive =>
      respondWith toResponse (lsh.run (.remove (recursive = str "true")) path s)
  | .protectFile, some path, some enabled =>
      respondWith toResponse (lsh.run (.protectFile (enabled = str "true")) path s)
  | .none, _, _ => (.error (str "Unknown command."), s)
  | .unknown _, _, _ => (.error (str "Unknown command."), s)
  | _, _, _ => (.error outOfRange, s)

end ElevatorApp

/-! ## The desktop -/

namespace Shell

section

variable (lib : IPCJson)

/-- The response of a healthy `ExecCommand` for what the elevator wants to send; none if the elevator
can send nothing. -/
def answer (resp : ElevatorCommandResponse) : Option ElevatorCommandResponse :=
  let msg := ElevatorApp.responseMessage lib resp
  if isTooLarge msg then none else ElevatorCommandResponse.fromMessage lib msg

variable {σ : Type} (lsh : LocalShell σ)

/-- A healthy `ElevatorService::ExecCommand`: the elevator answers within `RESPONSE_TIMEOUT_MS`, which
are ten minutes, so that the service does not close the connection itself. -/
def execCommand (cmd : ElevatorCommand) (s : σ) : Option ElevatorCommandResponse × σ :=
  let msg := cmd.toMessage lib
  if isTooLarge msg then (none, s)
  else match ElevatorCommand.fromMessage lib msg with
    | none => (answer lib ElevatorApp.invalidCommand, s)
    | some cmd' =>
        let r := ElevatorApp.handleCommand lsh cmd' s
        (answer lib r.1, r.2)

/-- `Shell::Exec`: an error counts as no response. -/
def exec (cmd : ElevatorCommand) (s : σ) : Option ElevatorCommandResponse × σ :=
  let r := execCommand lib lsh cmd s
  (r.1.filter (fun resp => !resp.isError), r.2)

end

/-- What a healthy connection does: the call of the two parties returns this response. -/
theorem execCommand_exchange (lib : IPCJson) {clean : Str → Str} (hlib : lib.Replaces clean)
    (hshort : isTooLarge (ElevatorApp.responseTooLarge.toMessage lib) = false) {σ : Type}
    (lsh : LocalShell σ) (t : σ) {s : ElevatorService.State} (hs : ElevatorService.Healthy s)
    (call : ElevatorService.Call) (hfit : isTooLarge (call.cmd.toMessage lib) = false) :
    ∃ s', Runs.Reachable (ElevatorService.step lib) s s' ∧ ElevatorService.Healthy s' ∧
      s'.client.returned = s.client.returned ++
        [⟨call, some s.client.sent.length, (execCommand lib lsh call.cmd t).1⟩] := by
  have hmessage : ∀ resp, isTooLarge (ElevatorApp.responseMessage lib resp) = false := by
    intro resp
    unfold ElevatorApp.responseMessage
    split
    · exact hshort
    · rename_i hresp
      exact Bool.eq_false_iff.mpr hresp
  have hjson : ∀ resp, (ElevatorApp.responseMessage lib resp).json ≠ [] := by
    intro resp
    unfold ElevatorApp.responseMessage
    split
    · exact hlib.dump_ne_nil _
    · exact hlib.dump_ne_nil _
  have hcmd := hlib.fromMessage_command call.cmd
  obtain ⟨s', hreach, hhealthy, -, -, hreturned⟩ := ElevatorService.exchange hs call
    (ElevatorApp.handleCommand lsh ⟨.ofInt32 call.cmd.type.toInt32, call.cmd.args.map clean,
      call.cmd.dataBytes⟩ t).1 hfit (hlib.dump_ne_nil _) rfl (hmessage _) (hjson _)
  refine ⟨s', hreach, hhealthy, hreturned.trans ?_⟩
  unfold execCommand answer ElevatorService.responseFor
  simp only [hfit, hcmd, hmessage, Bool.false_eq_true, if_false]

def flagText (flag : Bool) : Str := if flag then str "true" else str "false"

/-- The command of an operation. -/
def command (op : ShellOp) (arg : Str) : ElevatorCommand :=
  match op with
  | .runCommand => { type := .runCmd, args := [arg] }
  | .readBytes => { type := .readBytes, args := [arg] }
  | .writeBytes data => { type := .writeBytes, args := [arg], dataBytes := data }
  | .createDir => { type := .createFile, args := [arg, str "true"] }
  | .createFile => { type := .createFile, args := [arg, str "false"] }
  | .remove recursive => { type := .remove, args := [arg, flagText recursive] }
  | .protectFile enabled => { type := .protectFile, args := [arg, flagText enabled] }

/-- What an operation returns for a response. -/
def ofResponse (op : ShellOp) (resp : Option ElevatorCommandResponse) : op.Result :=
  match op with
  | .runCommand => ((resp.map (·.cmdResult)).getD ⟨-1, str "Elevator response timeout."⟩ : ShellCmdResult)
  | .readBytes => ((resp.map (·.dataBytes)).getD [] : Bytes)
  | .writeBytes _ => (resp.isSome : Bool)
  | .createDir => (resp.isSome : Bool)
  | .createFile => (resp.isSome : Bool)
  | .remove _ => (resp.isSome : Bool)
  | .protectFile _ => (resp.isSome : Bool)

/-- An operation of `Shell` with an elevator. -/
def run (lib : IPCJson) {σ : Type} (lsh : LocalShell σ) (op : ShellOp) (arg : Str) (s : σ) :
    op.Result × σ :=
  let r := exec lib lsh (command op arg) s
  (ofResponse op r.1, r.2)

/-! ## Equivalence -/

/-- The same exit code, bytes or flag. -/
def Same (op : ShellOp) (r r' : op.Result) : Prop :=
  match op with
  | .runCommand => (show ShellCmdResult from r).exitCode = (show ShellCmdResult from r').exitCode
  | _ => r = r'

/-- Whenever the local operation returns, the elevated one has the same effect and result. -/
def Equivalent (lib : IPCJson) {σ : Type} (lsh : LocalShell σ) (op : ShellOp) (arg : Str) (s : σ) :
    Prop :=
  ∀ r s', lsh.run op arg s = (.ok r, s') →
    Same op r (run lib lsh op arg s).1 ∧ (run lib lsh op arg s).2 = s'

end Shell

end PcbuDesktop
