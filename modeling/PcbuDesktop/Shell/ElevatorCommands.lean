import PcbuDesktop.Shell.IPCHelper

set_option autoImplicit false

/-! # Commands of the elevator

`ElevatorCommand` and `ElevatorCommandResponse` (`shell/ElevatorCommands.h`) with their messages.
The JSON library is a parameter; it prints with `error_handler_t::replace`, so printing never
throws.
-/

namespace PcbuDesktop

structure ShellCmdResult where
  exitCode : Int32 := 0
  output : Str := []
  deriving DecidableEq, Repr

/-- `unknown` stands for the values of the `enum` that have no name. -/
inductive ElevatorCommandType where
  | none
  | runCmd
  | readBytes
  | writeBytes
  | createFile
  | remove
  | protectFile
  | unknown (value : Int32)
  deriving DecidableEq, Repr

/-- The number behind a name of the `enum`. -/
def ElevatorCommandType.toInt32 : ElevatorCommandType → Int32
  | .none => 0
  | .runCmd => 1
  | .readBytes => 2
  | .writeBytes => 3
  | .createFile => 4
  | .remove => 5
  | .protectFile => 6
  | .unknown value => value

/-- The cast to the `enum`. -/
def ElevatorCommandType.ofInt32 (i : Int32) : ElevatorCommandType :=
  if i = 0 then .none
  else if i = 1 then .runCmd
  else if i = 2 then .readBytes
  else if i = 3 then .writeBytes
  else if i = 4 then .createFile
  else if i = 5 then .remove
  else if i = 6 then .protectFile
  else .unknown i

structure ElevatorCommand where
  type : ElevatorCommandType
  args : List Str
  dataBytes : Bytes := []
  deriving DecidableEq, Repr

structure ElevatorCommandResponse where
  isError : Bool := false
  message : Str := []
  cmdResult : ShellCmdResult := {}
  dataBytes : Bytes := []
  deriving DecidableEq, Repr

/-! ## JSON -/

/-- The JSON library as the elevator uses it. -/
structure IPCJson where
  parse : Str → Option Json
  /-- `dump` with `error_handler_t::replace`. -/
  dump : Json → Str

/-- A number, cut off at the point. -/
def Json.asNumber : Json → Option Int
  | .int i => some i
  | .float q => some (if 0 ≤ q then q.floor else q.ceil)
  | _ => none

/-- The conversion to an `enum` over `int`. -/
def Json.asEnum (j : Json) : Option Int32 := j.asNumber.map Int32.ofInt

/-- The conversion to `int`: a truth value is cast, too. -/
def Json.asInt32 : Json → Option Int32
  | .bool b => some (if b then 1 else 0)
  | j => j.asNumber.map Int32.ofInt

/-- The conversion to `std::vector<std::string>`. -/
def Json.asStrings : Json → Option (List Str)
  | .arr xs => xs.mapM Json.asString
  | _ => none

namespace ElevatorCommand

def toJson (cmd : ElevatorCommand) : Json :=
  .obj [("args", .arr (cmd.args.map Json.str)), ("type", .int cmd.type.toInt32.toInt)]

/-- `ElevatorCommand::ToMessage`. -/
def toMessage (lib : IPCJson) (cmd : ElevatorCommand) : IPCMessage :=
  ⟨lib.dump cmd.toJson, cmd.dataBytes⟩

def fromJson (json : Json) (blob : Bytes) : Option ElevatorCommand := do
  let type ← (json.member "type").bind Json.asEnum
  let args ← (json.member "args").bind Json.asStrings
  return ⟨.ofInt32 type, args, blob⟩

/-- `ElevatorCommand::FromMessage`. -/
def fromMessage (lib : IPCJson) (msg : IPCMessage) : Option ElevatorCommand :=
  (lib.parse msg.json).bind (fun json => fromJson json msg.blob)

end ElevatorCommand

namespace ElevatorCommandResponse

/-- The constructor for errors. -/
def error (message : Str) : ElevatorCommandResponse := { isError := true, message := message }

def toJson (resp : ElevatorCommandResponse) : Json :=
  .obj [("cmdResult", .obj [("exitCode", .int resp.cmdResult.exitCode.toInt),
      ("output", .str resp.cmdResult.output)]),
    ("isError", .bool resp.isError), ("message", .str resp.message)]

/-- `ElevatorCommandResponse::ToMessage`. -/
def toMessage (lib : IPCJson) (resp : ElevatorCommandResponse) : IPCMessage :=
  ⟨lib.dump resp.toJson, resp.dataBytes⟩

def fromJson (json : Json) (blob : Bytes) : Option ElevatorCommandResponse := do
  let isError ← (json.member "isError").bind Json.asBool
  let message ← (json.member "message").bind Json.asString
  let cmdResult ← json.member "cmdResult"
  let exitCode ← (cmdResult.member "exitCode").bind Json.asInt32
  let output ← (cmdResult.member "output").bind Json.asString
  return ⟨isError, message, ⟨exitCode, output⟩, blob⟩

/-- `ElevatorCommandResponse::FromMessage`. -/
def fromMessage (lib : IPCJson) (msg : IPCMessage) : Option ElevatorCommandResponse :=
  (lib.parse msg.json).bind (fun json => fromJson json msg.blob)

end ElevatorCommandResponse

/-! ## Sending a response -/

namespace ElevatorApp

open IPCHelper

def invalidCommand : ElevatorCommandResponse := .error (str "Invalid command.")

def responseTooLarge : ElevatorCommandResponse := .error (str "Response too large.")

/-- The message that `ElevatorApp::SendResponse` gives to `WriteMessage`. -/
def responseMessage (lib : IPCJson) (resp : ElevatorCommandResponse) : IPCMessage :=
  if isTooLarge (resp.toMessage lib) then responseTooLarge.toMessage lib else resp.toMessage lib

end ElevatorApp

end PcbuDesktop
