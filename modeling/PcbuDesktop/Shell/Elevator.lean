import PcbuDesktop.Shell.ElevatorCommands
import PcbuDesktop.Lib.Runs

set_option autoImplicit false

/-! # The desktop and the elevator

`ElevatorService::ExecCommand` (`shell/ElevatorService.cpp`) sends a command and waits for the
response; the loop of `ElevatorApp::RunMain` (`desktop/elevator/src/main.cpp`) reads a command,
executes it and sends a response. Both are one state machine here, over the two directions of their
connection: a step puts a byte into a pipe, takes one out, or is one of the ends that a transfer can
have. A transfer can fail at any point, with any number of its bytes on the way, and the two parties
move independently.

`ExecCommand` holds `m_Mutex` from its first line to its return, so a call begins only when no other
one is under way; the order of the calls is the order in which they get the mutex.
-/

namespace PcbuDesktop

open IPCHelper Pipes Runs

namespace ElevatorService

/-! ## The parties -/

/-- A call of `ExecCommand`. -/
structure Call where
  thread : Nat
  cmd : ElevatorCommand
  deriving DecidableEq, Repr

/-- A call that has returned. `place` is its number among the calls that sent a command, which a
refused call does not have. -/
structure Returned where
  call : Call
  place : Option Nat
  result : Option ElevatorCommandResponse
  deriving DecidableEq, Repr

/-- Where the call that holds the mutex is: in `WriteMessage`, with the bytes that are still to be
written, or in `ReadMessage`. -/
inductive ClientPhase where
  | idle
  | writing (call : Call) (todo : Bytes)
  | reading (call : Call) (s : ReadState)
  deriving DecidableEq, Repr

/-- The desktop's side. `connected` is the flag of its `IPCHelper`; the logs hold the calls that have
sent a command, the messages read as responses, and the calls that have returned. -/
structure Client where
  phase : ClientPhase := .idle
  connected : Bool := true
  sent : List Call := []
  answers : List IPCMessage := []
  returned : List Returned := []
  deriving DecidableEq, Repr

inductive ElevatorPhase where
  | reading (s : ReadState)
  | executing (msg : IPCMessage)
  | writing (todo : Bytes)
  | stopped
  deriving DecidableEq, Repr

/-- The elevator's side. The logs hold the messages it has read as commands, each of which it executes
once, and the messages it has begun to write as responses. -/
structure Elevator where
  phase : ElevatorPhase := .reading .start
  connected : Bool := true
  taken : List IPCMessage := []
  responses : List IPCMessage := []
  deriving DecidableEq, Repr

/-- `failedAt` is the number of calls that had sent a command when a transfer first failed. -/
structure State where
  client : Client := {}
  elevator : Elevator := {}
  toElevator : Pipe UInt8 := .empty
  toClient : Pipe UInt8 := .empty
  failedAt : Option Nat := none

/-! ## Steps -/

inductive Step where
  /-- A thread gets the mutex; `running` is the answer of `IsProcessRunning`. -/
  | call (call : Call) (running : Bool)
  | clientPut
  | clientWritten
  | clientTake
  /-- An error, a timeout, or a process that is no longer running, in a read or a write. -/
  | clientFails
  | elevatorTake
  | elevatorReadFails
  /-- `HandleCommand` returns. -/
  | respond (resp : ElevatorCommandResponse)
  | elevatorPut
  | elevatorWritten
  | elevatorWriteFails
  /-- An exception in `WriteMessage`, which does not touch the flag. -/
  | elevatorWriteThrows
  | elevatorDies
  deriving DecidableEq, Repr

/-- A transfer has failed. -/
def State.noteFailure (s : State) : State :=
  { s with failedAt := some (s.failedAt.getD s.client.sent.length) }

/-- The call under way returns. -/
def Client.finish (c : Client) (call : Call) (connected : Bool)
    (result : Option ElevatorCommandResponse) : Client :=
  { c with
    phase := .idle
    connected := connected
    returned := c.returned ++ [⟨call, some (c.sent.length - 1), result⟩] }

/-- A call returns before it has written a byte. -/
def Client.refuse (c : Client) (call : Call) : Client :=
  { c with returned := c.returned ++ [⟨call, none, none⟩] }

section

variable (lib : IPCJson) (s : State)

/-- `ExecCommand` up to the first write. -/
def beginCall (call : Call) (running : Bool) : Option State :=
  match s.client.phase with
  | .idle =>
      if s.client.connected = false ∨ running = false then
        some { s with client := s.client.refuse call }
      else if isTooLarge (call.cmd.toMessage lib) then
        some { s with client := s.client.refuse call }
      else
        some { s with client := { s.client with
          phase := .writing call (wire (call.cmd.toMessage lib))
          sent := s.client.sent ++ [call] } }
  | _ => none

def clientPut : Option State :=
  match s.client.phase with
  | .writing call (b :: todo) =>
      some { s with
        client := { s.client with phase := .writing call todo }
        toElevator := s.toElevator.put b }
  | _ => none

def clientWritten : Option State :=
  match s.client.phase with
  | .writing call [] => some { s with client := { s.client with phase := .reading call .start } }
  | _ => none

/-- A failed transfer, and `Close`. -/
def clientFails : Option State :=
  match s.client.phase with
  | .writing call _ => some { s.noteFailure with client := s.client.finish call false none }
  | .reading call _ => some { s.noteFailure with client := s.client.finish call false none }
  | .idle => none

/-- A byte of the response; with the last one `ExecCommand` returns. -/
def clientTake : Option State :=
  match s.client.phase, s.toClient.take? with
  | .reading call rs, some (b, pipe) =>
      match readByte rs b with
      | .more rs' =>
          some { s with client := { s.client with phase := .reading call rs' }, toClient := pipe }
      | .done msg =>
          let client := s.client.finish call true (ElevatorCommandResponse.fromMessage lib msg)
          some { s with client := { client with answers := client.answers ++ [msg] }, toClient := pipe }
      | .invalid =>
          some { s.noteFailure with client := s.client.finish call false none, toClient := pipe }
  | _, _ => none

/-- A byte of a command. When `ReadMessage` gives up, the loop ends. -/
def elevatorTake : Option State :=
  match s.elevator.phase, s.elevator.connected, s.toElevator.take? with
  | .reading rs, true, some (b, pipe) =>
      match readByte rs b with
      | .more rs' =>
          some { s with elevator := { s.elevator with phase := .reading rs' }, toElevator := pipe }
      | .done msg =>
          some { s with
            elevator := { s.elevator with phase := .executing msg, taken := s.elevator.taken ++ [msg] }
            toElevator := pipe }
      | .invalid =>
          some { s.noteFailure with
            elevator := { s.elevator with phase := .stopped, connected := false }
            toElevator := pipe }
  | _, _, _ => none

def elevatorReadFails : Option State :=
  match s.elevator.phase with
  | .reading _ =>
      some { s.noteFailure with elevator := { s.elevator with phase := .stopped, connected := false } }
  | _ => none

/-- The response for a message: a message that is no command is not executed. -/
def responseFor (msg : IPCMessage) (resp : ElevatorCommandResponse) : ElevatorCommandResponse :=
  match ElevatorCommand.fromMessage lib msg with
  | none => ElevatorApp.invalidCommand
  | some _ => resp

/-- `ElevatorApp::SendResponse` up to the first byte; `WriteMessage` refuses what is too large, and
the loop goes on. -/
def respond (resp : ElevatorCommandResponse) : Option State :=
  match s.elevator.phase with
  | .executing msg =>
      let out := ElevatorApp.responseMessage lib (responseFor lib msg resp)
      if isTooLarge out then
        some { s.noteFailure with elevator := { s.elevator with phase := .reading .start } }
      else
        some { s with elevator := { s.elevator with
          phase := .writing (wire out)
          responses := s.elevator.responses ++ [out] } }
  | _ => none

def elevatorPut : Option State :=
  match s.elevator.phase with
  | .writing (b :: todo) =>
      some { s with
        elevator := { s.elevator with phase := .writing todo }
        toClient := s.toClient.put b }
  | _ => none

def elevatorWritten : Option State :=
  match s.elevator.phase with
  | .writing [] => some { s with elevator := { s.elevator with phase := .reading .start } }
  | _ => none

def elevatorWriteFails : Option State :=
  match s.elevator.phase with
  | .writing _ =>
      some { s.noteFailure with
        elevator := { s.elevator with phase := .reading .start, connected := false } }
  | _ => none

def elevatorWriteThrows : Option State :=
  match s.elevator.phase with
  | .writing (_ :: _) =>
      some { s.noteFailure with elevator := { s.elevator with phase := .reading .start } }
  | _ => none

def elevatorDies : Option State :=
  some { s.noteFailure with elevator := { s.elevator with phase := .stopped, connected := false } }

def step : Step → Option State
  | .call call running => beginCall lib s call running
  | .clientPut => clientPut s
  | .clientWritten => clientWritten s
  | .clientTake => clientTake lib s
  | .clientFails => clientFails s
  | .elevatorTake => elevatorTake s
  | .elevatorReadFails => elevatorReadFails s
  | .respond resp => respond lib s resp
  | .elevatorPut => elevatorPut s
  | .elevatorWritten => elevatorWritten s
  | .elevatorWriteFails => elevatorWriteFails s
  | .elevatorWriteThrows => elevatorWriteThrows s
  | .elevatorDies => elevatorDies s

end

end ElevatorService

end PcbuDesktop
