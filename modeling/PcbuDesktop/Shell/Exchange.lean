import PcbuDesktop.Shell.Elevator

set_option autoImplicit false

/-! # A healthy exchange

From a state in which nothing is on its way and both sides are connected, a call can send its command,
the elevator can read it and respond, and the call returns the response. The state after it is of the
same kind, so the channel stays usable.
-/

namespace PcbuDesktop

open IPCHelper Pipes Runs

namespace ElevatorService

/-- A reader that takes the next byte of a message at each step, from `f rs p` on, has the message
in `g msg p'`. -/
theorem reachable_reads {σ ℓ : Type} (step : σ → ℓ → Option σ) (l : ℓ)
    {f : ReadState → Pipe UInt8 → σ} {g : IPCMessage → Pipe UInt8 → σ}
    (hmore : ∀ rs p b p' rs', p.take? = some (b, p') → readByte rs b = .more rs' →
      step (f rs p) l = some (f rs' p'))
    (hdone : ∀ rs p b p' msg, p.take? = some (b, p') → readByte rs b = .done msg →
      step (f rs p) l = some (g msg p'))
    {rs : ReadState} {bs : Bytes} {msg : IPCMessage} (h : Reads rs bs msg) :
    ∀ p : Pipe UInt8, p.sent = p.taken ++ bs → ∃ p' : Pipe UInt8, p'.sent = p.sent ∧
      p'.taken = p.sent ∧ Reachable step (f rs p) (g msg p') := by
  induction h with
  | last hread =>
      intro p hway
      obtain ⟨p', htake, hsent, htaken⟩ := Pipe.take?_of_append hway
      exact ⟨p', hsent, htaken.trans hway.symm, Reachable.of_step (hdone _ _ _ _ _ htake hread)⟩
  | more hread _ ih =>
      intro p hway
      obtain ⟨p', htake, hsent, htaken⟩ := Pipe.take?_of_append hway
      obtain ⟨p'', hsent', htaken', hrest⟩ := ih p'
        (by rw [hsent, htaken, hway, List.append_assoc, List.singleton_append])
      exact ⟨p'', hsent'.trans hsent, htaken'.trans hsent,
        (Reachable.of_step (hmore _ _ _ _ _ htake hread)).trans hrest⟩

section

variable (lib : IPCJson) {s : State}

/-! ## Whole messages -/

/-- The desktop writes all that is left of its command. -/
theorem clientPut_all {call : Call} {todo : Bytes} (hphase : s.client.phase = .writing call todo) :
    ∃ pipe, pipe.sent = s.toElevator.sent ++ todo ∧ pipe.taken = s.toElevator.taken ∧
      Reachable (step lib) s { s with
        client := { s.client with phase := .writing call [] }
        toElevator := pipe } := by
  obtain ⟨pipe, hsent, htaken, hput⟩ := Pipe.reachable_put (step lib) .clientPut
    (f := fun todo pipe => { s with
      client := { s.client with phase := .writing call todo }
      toElevator := pipe })
    (fun _ _ _ => rfl) todo s.toElevator
  dsimp only at hput
  rw [← hphase] at hput
  exact ⟨pipe, hsent, htaken, hput⟩

/-- The elevator writes all that is left of its response. -/
theorem elevatorPut_all {todo : Bytes} (hphase : s.elevator.phase = .writing todo) :
    ∃ pipe, pipe.sent = s.toClient.sent ++ todo ∧ pipe.taken = s.toClient.taken ∧
      Reachable (step lib) s { s with
        elevator := { s.elevator with phase := .writing [] }
        toClient := pipe } := by
  obtain ⟨pipe, hsent, htaken, hput⟩ := Pipe.reachable_put (step lib) .elevatorPut
    (f := fun todo pipe => { s with
      elevator := { s.elevator with phase := .writing todo }
      toClient := pipe })
    (fun _ _ _ => rfl) todo s.toClient
  dsimp only at hput
  rw [← hphase] at hput
  exact ⟨pipe, hsent, htaken, hput⟩

/-- The elevator reads a command that is on its way. -/
theorem elevatorTake_all {rs : ReadState} {bs : Bytes} {msg : IPCMessage} (h : Reads rs bs msg)
    (hphase : s.elevator.phase = .reading rs) (hconn : s.elevator.connected = true)
    (hway : s.toElevator.sent = s.toElevator.taken ++ bs) :
    ∃ pipe, pipe.sent = s.toElevator.sent ∧ pipe.taken = s.toElevator.sent ∧
      Reachable (step lib) s { s with
        elevator := { s.elevator with phase := .executing msg, taken := s.elevator.taken ++ [msg] }
        toElevator := pipe } := by
  obtain ⟨pipe, hsent, htaken, htake⟩ := reachable_reads (step lib) .elevatorTake
    (f := fun rs pipe => { s with
      elevator := { s.elevator with phase := .reading rs }
      toElevator := pipe })
    (g := fun msg pipe => { s with
      elevator := { s.elevator with phase := .executing msg, taken := s.elevator.taken ++ [msg] }
      toElevator := pipe })
    (by
      intro rs p b p' rs' htake hread
      show elevatorTake _ = _
      unfold elevatorTake
      simp only [hconn, htake, hread])
    (by
      intro rs p b p' msg htake hread
      show elevatorTake _ = _
      unfold elevatorTake
      simp only [hconn, htake, hread])
    h s.toElevator hway
  dsimp only at htake
  rw [← hphase] at htake
  exact ⟨pipe, hsent, htaken, htake⟩

/-- The desktop reads a response that is on its way, and the call returns. -/
theorem clientTake_all {call : Call} {rs : ReadState} {bs : Bytes} {msg : IPCMessage}
    (h : Reads rs bs msg) (hphase : s.client.phase = .reading call rs)
    (hway : s.toClient.sent = s.toClient.taken ++ bs) :
    ∃ pipe, pipe.sent = s.toClient.sent ∧ pipe.taken = s.toClient.sent ∧
      Reachable (step lib) s { s with
        client := { s.client.finish call true (ElevatorCommandResponse.fromMessage lib msg) with
          answers := s.client.answers ++ [msg] }
        toClient := pipe } := by
  obtain ⟨pipe, hsent, htaken, htake⟩ := reachable_reads (step lib) .clientTake
    (f := fun rs pipe => { s with
      client := { s.client with phase := .reading call rs }
      toClient := pipe })
    (g := fun msg pipe => { s with
      client := { s.client.finish call true (ElevatorCommandResponse.fromMessage lib msg) with
        answers := s.client.answers ++ [msg] }
      toClient := pipe })
    (by
      intro rs p b p' rs' htake hread
      show clientTake lib _ = _
      unfold clientTake
      simp only [htake, hread])
    (by
      intro rs p b p' msg htake hread
      show clientTake lib _ = _
      unfold clientTake
      simp only [htake, hread]
      rfl)
    h s.toClient hway
  dsimp only at htake
  rw [← hphase] at htake
  exact ⟨pipe, hsent, htaken, htake⟩

end

/-! ## From one idle state to the next -/

/-- No call is under way, both sides are connected and nothing is on its way. -/
structure Healthy (s : State) : Prop where
  idle : s.client.phase = .idle
  connected : s.client.connected = true
  reading : s.elevator.phase = .reading .start
  elevator_connected : s.elevator.connected = true
  commands_taken : s.toElevator.taken = s.toElevator.sent
  responses_taken : s.toClient.taken = s.toClient.sent

theorem init_healthy : Healthy {} := ⟨rfl, rfl, rfl, rfl, rfl, rfl⟩

section

variable {lib : IPCJson} {s : State}

/-- The first half: the command goes to the elevator. -/
theorem exchange_command (h : Healthy s) {call : Call}
    (hfit : isTooLarge (call.cmd.toMessage lib) = false) (hjson : (call.cmd.toMessage lib).json ≠ []) :
    ∃ pipe, pipe.taken = pipe.sent ∧
      Reachable (step lib) s { s with
        client := { s.client with phase := .reading call .start, sent := s.client.sent ++ [call] }
        elevator := { s.elevator with
          phase := .executing (call.cmd.toMessage lib)
          taken := s.elevator.taken ++ [call.cmd.toMessage lib] }
        toElevator := pipe } := by
  have hcall : step lib s (.call call true) = some { s with client := { s.client with
      phase := .writing call (wire (call.cmd.toMessage lib))
      sent := s.client.sent ++ [call] } } := by
    show beginCall lib s call true = _
    unfold beginCall
    simp only [h.idle, h.connected, hfit, Bool.true_eq_false, Bool.false_eq_true, or_self, if_false]
  obtain ⟨pipe, hsent, htaken, hput⟩ := clientPut_all lib
    (s := { s with client := { s.client with
      phase := .writing call (wire (call.cmd.toMessage lib))
      sent := s.client.sent ++ [call] } }) rfl
  obtain ⟨pipe', hsent', htaken', htake⟩ := elevatorTake_all lib (reads_wire hfit hjson)
    (s := { s with
      client := { s.client with phase := .reading call .start, sent := s.client.sent ++ [call] }
      toElevator := pipe }) h.reading h.elevator_connected (by rw [hsent, htaken, h.commands_taken])
  refine ⟨pipe', htaken'.trans hsent'.symm, (Reachable.of_step hcall).trans (hput.trans ?_)⟩
  exact (Reachable.of_step (l := .clientWritten) rfl).trans htake

/-- The second half: the response comes back, and the call returns it. -/
theorem exchange_response {call : Call} {msg out : IPCMessage} {resp : ElevatorCommandResponse}
    (hclient : s.client.phase = .reading call .start) (helevator : s.elevator.phase = .executing msg)
    (htaken : s.toClient.taken = s.toClient.sent)
    (hout : ElevatorApp.responseMessage lib (responseFor lib msg resp) = out)
    (hfit : isTooLarge out = false) (hjson : out.json ≠ []) :
    ∃ pipe, pipe.taken = pipe.sent ∧
      Reachable (step lib) s { s with
        client := { s.client.finish call true (ElevatorCommandResponse.fromMessage lib out) with
          answers := s.client.answers ++ [out] }
        elevator := { s.elevator with
          phase := .reading .start
          responses := s.elevator.responses ++ [out] }
        toClient := pipe } := by
  have hrespond : step lib s (.respond resp) = some { s with elevator := { s.elevator with
      phase := .writing (wire out)
      responses := s.elevator.responses ++ [out] } } := by
    show respond lib s resp = _
    unfold respond
    simp only [helevator, hout, hfit, Bool.false_eq_true, if_false]
  obtain ⟨pipe, hsent, hkept, hput⟩ := elevatorPut_all lib
    (s := { s with elevator := { s.elevator with
      phase := .writing (wire out)
      responses := s.elevator.responses ++ [out] } }) rfl
  obtain ⟨pipe', hsent', htaken', htake⟩ := clientTake_all lib (reads_wire hfit hjson)
    (s := { s with
      elevator := { s.elevator with
        phase := .reading .start
        responses := s.elevator.responses ++ [out] }
      toClient := pipe }) hclient (by rw [hsent, hkept, htaken])
  refine ⟨pipe', htaken'.trans hsent'.symm, (Reachable.of_step hrespond).trans (hput.trans ?_)⟩
  exact (Reachable.of_step (l := .elevatorWritten) rfl).trans htake

/-- **The channel is usable.** From a healthy state a command that fits can be sent, executed and
answered: the call returns what was read from the response, and the state is healthy again. -/
theorem exchange (h : Healthy s) (call : Call) (resp : ElevatorCommandResponse) {out : IPCMessage}
    (hfit : isTooLarge (call.cmd.toMessage lib) = false) (hjson : (call.cmd.toMessage lib).json ≠ [])
    (hout : ElevatorApp.responseMessage lib (responseFor lib (call.cmd.toMessage lib) resp) = out)
    (hfit' : isTooLarge out = false) (hjson' : out.json ≠ []) :
    ∃ s', Reachable (step lib) s s' ∧ Healthy s' ∧ s'.failedAt = s.failedAt ∧
      s'.elevator.taken = s.elevator.taken ++ [call.cmd.toMessage lib] ∧
      s'.client.returned = s.client.returned ++
        [⟨call, some s.client.sent.length, ElevatorCommandResponse.fromMessage lib out⟩] := by
  obtain ⟨pipe, hpipe, hcommand⟩ := exchange_command h hfit hjson
  obtain ⟨pipe', hpipe', hresponse⟩ := exchange_response
    (s := { s with
      client := { s.client with phase := .reading call .start, sent := s.client.sent ++ [call] }
      elevator := { s.elevator with
        phase := .executing (call.cmd.toMessage lib)
        taken := s.elevator.taken ++ [call.cmd.toMessage lib] }
      toElevator := pipe }) rfl rfl h.responses_taken hout hfit' hjson'
  refine ⟨_, hcommand.trans hresponse, ⟨rfl, rfl, rfl, h.elevator_connected, hpipe, hpipe'⟩, rfl, rfl, ?_⟩
  have hplace : (s.client.sent ++ [call]).length - 1 = s.client.sent.length := by
    rw [List.length_append, List.length_singleton, Nat.add_sub_cancel]
  show s.client.returned ++ [⟨call, some ((s.client.sent ++ [call]).length - 1), _⟩] = _
  rw [hplace]

end

end ElevatorService

end PcbuDesktop
