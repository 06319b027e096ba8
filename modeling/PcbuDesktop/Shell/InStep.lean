import PcbuDesktop.Shell.Exchange
import PcbuDesktop.Shell.ReplacingJson

set_option autoImplicit false

/-! # Requests and responses in step

The messages on the two pipes are what keeps the parties in step. The desktop has sent the messages
of its calls one after the other, the last one perhaps not to its end; what the elevator has read are
the first of them, as no message begins with another one. The same holds for the responses. The
desktop sends the next command only after a whole response, so a response that is cut off is the
last one.
-/

namespace PcbuDesktop

open IPCHelper Pipes Runs

namespace ElevatorService

/-- Messages as they stand in a pipe. -/
def wires (msgs : List IPCMessage) : Bytes := msgs.flatMap wire

theorem wires_concat (msgs : List IPCMessage) (msg : IPCMessage) :
    wires (msgs ++ [msg]) = wires msgs ++ wire msg := by
  unfold wires
  rw [List.flatMap_append, List.flatMap_singleton]

theorem prefix_of_wires {xs ys : List IPCMessage} (hxs : ∀ m ∈ xs, isTooLarge m = false)
    (hys : ∀ m ∈ ys, isTooLarge m = false) (h : wires xs <+: wires ys) : xs <+: ys :=
  wire_code.prefix_of_flatMap hxs hys h

theorem forall_mem_concat {p : IPCMessage → Prop} {msgs : List IPCMessage} {msg : IPCMessage}
    (h : ∀ m ∈ msgs, p m) (hmsg : p msg) : ∀ m ∈ msgs ++ [msg], p m := by
  intro m hm
  rcases List.mem_append.mp hm with hm | hm
  · exact h m hm
  · rw [List.mem_singleton.mp hm]
    exact hmsg

theorem getElem?_of_isPrefix {α : Type} {xs ys : List α} (h : xs <+: ys) {i : Nat} {a : α}
    (ha : xs[i]? = some a) : ys[i]? = some a := by
  obtain ⟨rest, rfl⟩ := h
  obtain ⟨hi, -⟩ := List.getElem?_eq_some_iff.mp ha
  rw [List.getElem?_append_left hi]
  exact ha

/-! ## The desktop's side -/

/-- The messages of the calls that have sent a command. -/
def Client.messages (lib : IPCJson) (c : Client) : List IPCMessage :=
  c.sent.map (fun call => call.cmd.toMessage lib)

/-- What the desktop has written (`out`) and read (`into`), by the phase of its call. -/
def Client.Streams (lib : IPCJson) (c : Client) (out into : Bytes) : Prop :=
  match c.phase with
  | .idle => (out <+: wires (c.messages lib) ∧ wires c.answers <+: into) ∧
      (c.answers.length ≤ c.sent.length ∧ c.sent.length ≤ c.answers.length + 1) ∧
      (c.connected = true → (out = wires (c.messages lib) ∧ into = wires c.answers) ∧
        c.answers.length = c.sent.length)
  | .writing call todo => c.connected = true ∧ c.sent.getLast? = some call ∧
      c.sent.length = c.answers.length + 1 ∧
      out ++ todo = wires (c.messages lib) ∧ into = wires c.answers
  | .reading call rs => c.connected = true ∧ c.sent.getLast? = some call ∧
      c.sent.length = c.answers.length + 1 ∧
      out = wires (c.messages lib) ∧ rs.Valid ∧ into = wires c.answers ++ rs.consumed

structure Client.Inv (lib : IPCJson) (c : Client) (out into : Bytes) : Prop where
  sent_fit : ∀ m ∈ c.messages lib, isTooLarge m = false
  answers_fit : ∀ m ∈ c.answers, isTooLarge m = false
  streams : c.Streams lib out into

namespace Client.Inv

variable {lib : IPCJson} {c : Client} {out into : Bytes}

theorem idle (h : c.Inv lib out into) (hphase : c.phase = .idle) :
    (out <+: wires (c.messages lib) ∧ wires c.answers <+: into) ∧
      (c.answers.length ≤ c.sent.length ∧ c.sent.length ≤ c.answers.length + 1) ∧
      (c.connected = true → (out = wires (c.messages lib) ∧ into = wires c.answers) ∧
        c.answers.length = c.sent.length) := by
  have hs := h.streams
  unfold Streams at hs
  simpa only [hphase] using hs

theorem writing (h : c.Inv lib out into) {call : Call} {todo : Bytes}
    (hphase : c.phase = .writing call todo) :
    c.connected = true ∧ c.sent.getLast? = some call ∧ c.sent.length = c.answers.length + 1 ∧
      out ++ todo = wires (c.messages lib) ∧ into = wires c.answers := by
  have hs := h.streams
  unfold Streams at hs
  simpa only [hphase] using hs

theorem reading (h : c.Inv lib out into) {call : Call} {rs : ReadState}
    (hphase : c.phase = .reading call rs) :
    c.connected = true ∧ c.sent.getLast? = some call ∧ c.sent.length = c.answers.length + 1 ∧
      out = wires (c.messages lib) ∧ rs.Valid ∧ into = wires c.answers ++ rs.consumed := by
  have hs := h.streams
  unfold Streams at hs
  simpa only [hphase] using hs

/-- What holds in every phase: the bytes written are the first of the messages, the bytes read begin
with the answers, and at most one call waits for its answer. -/
theorem bounds (h : c.Inv lib out into) : out <+: wires (c.messages lib) ∧ wires c.answers <+: into ∧
    c.answers.length ≤ c.sent.length ∧ c.sent.length ≤ c.answers.length + 1 := by
  cases hphase : c.phase with
  | idle =>
      have hs := h.idle hphase
      exact ⟨hs.1.1, hs.1.2, hs.2.1⟩
  | writing call todo =>
      obtain ⟨-, -, hcount, hout, rfl⟩ := h.writing hphase
      exact ⟨⟨todo, hout⟩, List.prefix_rfl, by omega, by omega⟩
  | reading call rs =>
      obtain ⟨-, -, hcount, rfl, -, rfl⟩ := h.reading hphase
      exact ⟨List.prefix_rfl, List.prefix_append _ _, by omega, by omega⟩

theorem out_isPrefix (h : c.Inv lib out into) : out <+: wires (c.messages lib) := h.bounds.1

theorem answers_isPrefix (h : c.Inv lib out into) : wires c.answers <+: into := h.bounds.2.1

theorem counts (h : c.Inv lib out into) :
    c.answers.length ≤ c.sent.length ∧ c.sent.length ≤ c.answers.length + 1 := h.bounds.2.2

end Client.Inv

/-! ## The elevator's side -/

/-- What the elevator has read (`into`) and written (`out`), by its phase. -/
def Elevator.Streams (e : Elevator) (into out : Bytes) : Prop :=
  match e.phase with
  | .reading rs => wires e.taken <+: into ∧
      (e.connected = true → rs.Valid ∧ into = wires e.taken ++ rs.consumed) ∧
      out <+: wires e.responses ∧ e.responses.length ≤ e.taken.length
  | .executing _ => e.connected = true ∧ into = wires e.taken ∧ out = wires e.responses ∧
      e.responses.length + 1 = e.taken.length
  | .writing todo => e.connected = true ∧ into = wires e.taken ∧ out ++ todo = wires e.responses ∧
      e.responses.length = e.taken.length
  | .stopped => wires e.taken <+: into ∧ out <+: wires e.responses ∧
      e.responses.length ≤ e.taken.length

structure Elevator.Inv (e : Elevator) (into out : Bytes) : Prop where
  taken_fit : ∀ m ∈ e.taken, isTooLarge m = false
  responses_fit : ∀ m ∈ e.responses, isTooLarge m = false
  streams : e.Streams into out

namespace Elevator.Inv

variable {e : Elevator} {into out : Bytes}

theorem reading (h : e.Inv into out) {rs : ReadState} (hphase : e.phase = .reading rs) :
    wires e.taken <+: into ∧
      (e.connected = true → rs.Valid ∧ into = wires e.taken ++ rs.consumed) ∧
      out <+: wires e.responses ∧ e.responses.length ≤ e.taken.length := by
  have hs := h.streams
  unfold Streams at hs
  simpa only [hphase] using hs

theorem executing (h : e.Inv into out) {msg : IPCMessage} (hphase : e.phase = .executing msg) :
    e.connected = true ∧ into = wires e.taken ∧ out = wires e.responses ∧
      e.responses.length + 1 = e.taken.length := by
  have hs := h.streams
  unfold Streams at hs
  simpa only [hphase] using hs

theorem writing (h : e.Inv into out) {todo : Bytes} (hphase : e.phase = .writing todo) :
    e.connected = true ∧ into = wires e.taken ∧ out ++ todo = wires e.responses ∧
      e.responses.length = e.taken.length := by
  have hs := h.streams
  unfold Streams at hs
  simpa only [hphase] using hs

theorem bounds (h : e.Inv into out) : wires e.taken <+: into ∧ out <+: wires e.responses ∧
    e.responses.length ≤ e.taken.length := by
  cases hphase : e.phase with
  | reading rs =>
      have hs := h.reading hphase
      exact ⟨hs.1, hs.2.2⟩
  | executing msg =>
      obtain ⟨-, rfl, rfl, hcount⟩ := h.executing hphase
      exact ⟨List.prefix_rfl, List.prefix_rfl, by omega⟩
  | writing todo =>
      obtain ⟨-, rfl, hout, hcount⟩ := h.writing hphase
      exact ⟨List.prefix_rfl, ⟨todo, hout⟩, by omega⟩
  | stopped =>
      have hs := h.streams
      unfold Streams at hs
      simpa only [hphase] using hs

theorem taken_isPrefix (h : e.Inv into out) : wires e.taken <+: into := h.bounds.1

theorem out_isPrefix (h : e.Inv into out) : out <+: wires e.responses := h.bounds.2.1

theorem counts (h : e.Inv into out) : e.responses.length ≤ e.taken.length := h.bounds.2.2

end Elevator.Inv

/-! ## Both sides -/

/-- Every command that was read has a response, written to its end. -/
def State.AllAnswered (s : State) : Prop :=
  s.toClient.sent = wires s.elevator.responses ∧
    s.elevator.responses.length = s.elevator.taken.length

/-- The elevator will not read another command. -/
def Elevator.Dead (e : Elevator) : Prop := e.connected = false

/-- A transfer has failed when `n` calls had sent a command: the desktop has closed its side, the
elevator reads no more, or the last response was cut off. -/
def State.FailedAt (s : State) (n : Nat) : Prop :=
  n ≤ s.client.sent.length ∧ s.elevator.taken.length ≤ n ∧
    ((s.client.phase = .idle ∧ s.client.connected = false ∧ s.client.sent.length = n) ∨
      s.elevator.Dead ∨
      (s.client.sent.length = n ∧ s.elevator.taken.length = n ∧ ¬ s.AllAnswered ∧
        ∃ rs, s.elevator.phase = .reading rs))

/-- A returned response was read as the answer in the place of its call. -/
def Client.LogOk (lib : IPCJson) (c : Client) : Prop :=
  ∀ r ∈ c.returned, ∀ resp, r.result = some resp → ∃ i m, r.place = some i ∧
    c.sent[i]? = some r.call ∧ c.answers[i]? = some m ∧
    ElevatorCommandResponse.fromMessage lib m = some resp

structure Inv (lib : IPCJson) (s : State) : Prop where
  client : s.client.Inv lib s.toElevator.sent s.toClient.taken
  elevator : s.elevator.Inv s.toElevator.taken s.toClient.sent
  waiting : ∀ rs, s.elevator.phase = .reading rs → s.elevator.connected = true →
    s.AllAnswered ∨ s.elevator.taken.length = s.client.sent.length
  stopped : s.elevator.phase = .stopped → s.elevator.Dead
  log : s.client.LogOk lib
  failed : ∀ n, s.failedAt = some n → s.FailedAt n

namespace Inv

variable {lib : IPCJson} {s : State}

/-- The elevator has read the first of the messages that were sent. -/
theorem taken_isPrefix (h : Inv lib s) : s.elevator.taken <+: s.client.messages lib :=
  prefix_of_wires h.elevator.taken_fit h.client.sent_fit
    ((h.elevator.taken_isPrefix.trans s.toElevator.taken_isPrefix).trans h.client.out_isPrefix)

/-- The desktop has read the first of the responses. -/
theorem answers_isPrefix (h : Inv lib s) : s.client.answers <+: s.elevator.responses :=
  prefix_of_wires h.client.answers_fit h.elevator.responses_fit
    ((h.client.answers_isPrefix.trans s.toClient.taken_isPrefix).trans h.elevator.out_isPrefix)

theorem taken_le (h : Inv lib s) : s.elevator.taken.length ≤ s.client.sent.length := by
  have hlen := h.taken_isPrefix.length_le
  unfold Client.messages at hlen
  rwa [List.length_map] at hlen

/-- As many answers as calls: then all is answered. -/
theorem allAnswered (h : Inv lib s) (heq : s.client.answers.length = s.client.sent.length) :
    s.AllAnswered ∧ s.elevator.taken.length = s.client.sent.length := by
  have hanswers := h.answers_isPrefix
  have hcount := h.elevator.counts
  have htaken := h.taken_le
  have hlen := hanswers.length_le
  have hsame : s.client.answers = s.elevator.responses := hanswers.eq_of_length (by omega)
  refine ⟨⟨?_, by omega⟩, by omega⟩
  -- the bytes of all responses have been taken, so they have been sent
  have hsent : wires s.elevator.responses <+: s.toClient.sent := by
    rw [← hsame]
    exact h.client.answers_isPrefix.trans s.toClient.taken_isPrefix
  exact (h.elevator.out_isPrefix.eq_of_length
    (Nat.le_antisymm h.elevator.out_isPrefix.length_le hsent.length_le))

/-- A response is missing: then the last command has been read. -/
theorem taken_eq (h : Inv lib s) (hlt : s.client.answers.length < s.elevator.taken.length) :
    s.elevator.taken.length = s.client.sent.length := by
  have htaken := h.taken_le
  have hcounts := h.client.counts
  omega

/-! ## Steps of the desktop -/

/-- A step of the desktop that sends no new command keeps what its own side and its log keep. -/
theorem clientStep (h : Inv lib s) {c : Client} {pe pc : Pipe UInt8} {f : Option Nat}
    (hpe : pe.taken = s.toElevator.taken) (hpc : pc.sent = s.toClient.sent)
    (hc : c.Inv lib pe.sent pc.taken) (hsent : c.sent = s.client.sent) (hlog : c.LogOk lib)
    (hfail : ∀ n, f = some n → State.FailedAt ⟨c, s.elevator, pe, pc, f⟩ n) :
    Inv lib ⟨c, s.elevator, pe, pc, f⟩ where
  client := hc
  elevator := by
    rw [hpe, hpc]
    exact h.elevator
  waiting := by
    intro rs hrs hconn
    unfold State.AllAnswered
    rw [hpc, hsent]
    exact h.waiting rs hrs hconn
  stopped := h.stopped
  log := hlog
  failed := hfail

/-- While a call is under way, an earlier failure was one of the elevator. -/
theorem failedAt_client {n : Nat} (h : s.FailedAt n) (hphase : s.client.phase ≠ .idle) {c : Client}
    {pe pc : Pipe UInt8} {f : Option Nat} (hpc : pc.sent = s.toClient.sent)
    (hsent : c.sent = s.client.sent) : State.FailedAt ⟨c, s.elevator, pe, pc, f⟩ n := by
  unfold State.FailedAt State.AllAnswered at h ⊢
  rw [hpc, hsent]
  obtain ⟨hn, htaken, ⟨hidle, -⟩ | hrest⟩ := h
  · exact absurd hidle hphase
  · exact ⟨hn, htaken, Or.inr hrest⟩

/-- A call that returns without a response leaves the log as it should be. -/
theorem logOk_concat {c c' : Client} (h : c.LogOk lib) {r : Returned} (hresult : r.result = none)
    (hreturned : c'.returned = c.returned ++ [r]) (hsent : c'.sent = c.sent)
    (hanswers : c'.answers = c.answers) : c'.LogOk lib := by
  unfold Client.LogOk
  rw [hreturned, hsent, hanswers]
  intro r' hr' resp hresp
  rcases List.mem_append.mp hr' with hr' | hr'
  · exact h r' hr' resp hresp
  · rw [List.mem_singleton.mp hr', hresult] at hresp
    cases hresp

/-- Only the first failure counts. -/
theorem noteFailure_cases {n : Nat} (h : s.noteFailure.failedAt = some n) :
    s.failedAt = some n ∨ n = s.client.sent.length := by
  have hn : s.failedAt.getD s.client.sent.length = n := Option.some.inj h
  cases hfailed : s.failedAt with
  | some n' =>
      rw [hfailed] at hn
      exact Or.inl (congrArg some hn)
  | none =>
      rw [hfailed] at hn
      exact Or.inr hn.symm

/-- The desktop gives up: the call returns nothing, and the channel is closed. -/
theorem clientClosed (h : Inv lib s) {call : Call} {pc : Pipe UInt8}
    (hphase : s.client.phase ≠ .idle) (hpc : pc.sent = s.toClient.sent)
    (htaken : wires s.client.answers <+: pc.taken) :
    Inv lib { s.noteFailure with client := s.client.finish call false none, toClient := pc } := by
  refine h.clientStep rfl hpc ?_ rfl (logOk_concat h.log rfl rfl rfl rfl) ?_
  · refine ⟨h.client.sent_fit, h.client.answers_fit, ⟨⟨h.client.out_isPrefix, htaken⟩, h.client.counts, ?_⟩⟩
    intro hconn
    exact absurd hconn Bool.false_ne_true
  · intro n hn
    rcases noteFailure_cases hn with hfailed | rfl
    · exact failedAt_client (h.failed n hfailed) hphase hpc rfl
    · exact ⟨Nat.le_refl _, h.taken_le, Or.inl ⟨rfl, rfl, rfl⟩⟩

theorem clientFails (h : Inv lib s) {s' : State} (hstep : ElevatorService.clientFails s = some s') :
    Inv lib s' := by
  unfold ElevatorService.clientFails at hstep
  split at hstep
  · rename_i call todo hphase
    cases hstep
    exact h.clientClosed (by rw [hphase]; simp) rfl h.client.answers_isPrefix
  · rename_i call rs hphase
    cases hstep
    exact h.clientClosed (by rw [hphase]; simp) rfl h.client.answers_isPrefix
  · cases hstep

theorem clientPut (h : Inv lib s) {s' : State} (hstep : ElevatorService.clientPut s = some s') :
    Inv lib s' := by
  unfold ElevatorService.clientPut at hstep
  split at hstep
  · rename_i call b todo hphase
    cases hstep
    obtain ⟨hconn, hlast, hcount, hout, hinto⟩ := h.client.writing hphase
    refine h.clientStep rfl rfl ⟨h.client.sent_fit, h.client.answers_fit, ?_⟩ rfl h.log ?_
    · refine ⟨hconn, hlast, hcount, ?_, hinto⟩
      rw [Pipe.sent_put, List.append_assoc, List.singleton_append]
      exact hout
    · intro n hn
      exact failedAt_client (h.failed n hn) (by rw [hphase]; simp) rfl rfl
  · cases hstep

theorem clientWritten (h : Inv lib s) {s' : State}
    (hstep : ElevatorService.clientWritten s = some s') : Inv lib s' := by
  unfold ElevatorService.clientWritten at hstep
  split at hstep
  · rename_i call hphase
    cases hstep
    obtain ⟨hconn, hlast, hcount, hout, hinto⟩ := h.client.writing hphase
    refine h.clientStep rfl rfl ⟨h.client.sent_fit, h.client.answers_fit, ?_⟩ rfl h.log ?_
    · refine ⟨hconn, hlast, hcount, ?_, ReadState.start_valid, ?_⟩
      · rwa [List.append_nil] at hout
      · rw [hinto]
        exact (List.append_nil _).symm
    · intro n hn
      exact failedAt_client (h.failed n hn) (by rw [hphase]; simp) rfl rfl
  · cases hstep

/-- The last byte of a response: the call returns what was read as the answer in its place. -/
theorem clientDone (h : Inv lib s) {call : Call} {rs : ReadState} {b : UInt8} {pc : Pipe UInt8}
    {msg : IPCMessage} (hphase : s.client.phase = .reading call rs) (hsent : pc.sent = s.toClient.sent)
    (htaken : pc.taken = s.toClient.taken ++ [b]) (hfit : isTooLarge msg = false)
    (hwire : wire msg = rs.consumed ++ [b]) :
    Inv lib { s with
      client := { s.client.finish call true (ElevatorCommandResponse.fromMessage lib msg) with
        answers := s.client.answers ++ [msg] }
      toClient := pc } := by
  obtain ⟨-, hlast, hcount, hout, -, hinto⟩ := h.client.reading hphase
  have hbytes : pc.taken = wires (s.client.answers ++ [msg]) := by
    rw [htaken, hinto, wires_concat, hwire, List.append_assoc]
  have hlen : (s.client.answers ++ [msg]).length = s.client.sent.length := by
    rw [List.length_append, List.length_singleton, hcount]
  refine h.clientStep rfl hsent ⟨h.client.sent_fit, forall_mem_concat h.client.answers_fit hfit, ?_⟩
    rfl ?_ ?_
  · refine ⟨⟨h.client.out_isPrefix, ?_⟩, ⟨Nat.le_of_eq hlen, ?_⟩, fun _ => ⟨⟨hout, hbytes⟩, hlen⟩⟩
    · exact hbytes.symm ▸ List.prefix_refl _
    · exact Nat.le_succ_of_le (Nat.le_of_eq hlen.symm)
  · intro r hr resp hresp
    rcases List.mem_append.mp hr with hr | hr
    · obtain ⟨i, m, hplace, hcall, hm, hfrom⟩ := h.log r hr resp hresp
      refine ⟨i, m, hplace, hcall, ?_, hfrom⟩
      exact getElem?_of_isPrefix (List.prefix_append _ _) hm
    · rw [List.mem_singleton.mp hr] at hresp ⊢
      have hplace : s.client.sent.length - 1 = s.client.answers.length := by omega
      refine ⟨s.client.answers.length, msg, congrArg some hplace, ?_, List.getElem?_concat_length, hresp⟩
      show s.client.sent[s.client.answers.length]? = some call
      rw [← hplace, ← List.getLast?_eq_getElem?]
      exact hlast
  · intro n hn
    exact failedAt_client (h.failed n hn) (by rw [hphase]; simp) hsent rfl

theorem clientTake (h : Inv lib s) {s' : State}
    (hstep : ElevatorService.clientTake lib s = some s') : Inv lib s' := by
  unfold ElevatorService.clientTake at hstep
  split at hstep
  · rename_i call rs b pc hphase htake
    obtain ⟨hsent, htaken⟩ := Pipe.take?_eq_some htake
    obtain ⟨hconn, hlast, hcount, hout, hvalid, hinto⟩ := h.client.reading hphase
    have hafter := readByte_after b hvalid
    split at hstep
    · rename_i rs' hread
      cases hstep
      rw [hread] at hafter
      refine h.clientStep rfl hsent ⟨h.client.sent_fit, h.client.answers_fit, ?_⟩ rfl h.log ?_
      · refine ⟨hconn, hlast, hcount, hout, hafter.1, ?_⟩
        rw [htaken, hinto, hafter.2, List.append_assoc]
      · intro n hn
        exact failedAt_client (h.failed n hn) (by rw [hphase]; simp) hsent rfl
    · rename_i msg hread
      cases hstep
      rw [hread] at hafter
      exact h.clientDone hphase hsent htaken hafter.1 hafter.2
    · cases hstep
      refine h.clientClosed (by rw [hphase]; simp) hsent ?_
      rw [htaken]
      exact h.client.answers_isPrefix.trans (List.prefix_append _ _)
  · cases hstep

theorem refused (h : Inv lib s) (call : Call) :
    Inv lib { s with client := s.client.refuse call } where
  client := ⟨h.client.sent_fit, h.client.answers_fit, h.client.streams⟩
  elevator := h.elevator
  waiting := h.waiting
  stopped := h.stopped
  log := logOk_concat h.log rfl rfl rfl rfl
  failed := h.failed

/-- A new command: everything before it has been answered. -/
theorem beginSending (h : Inv lib s) {call : Call} (hidle : s.client.phase = .idle)
    (hconn : s.client.connected = true) (hfit : isTooLarge (call.cmd.toMessage lib) = false) :
    Inv lib { s with client := { s.client with
      phase := .writing call (wire (call.cmd.toMessage lib))
      sent := s.client.sent ++ [call] } } := by
  obtain ⟨⟨hout, hinto⟩, hcount⟩ := (h.client.idle hidle).2.2 hconn
  obtain ⟨hall, htaken⟩ := h.allAnswered hcount
  have hmessages : (s.client.sent ++ [call]).map (fun call => call.cmd.toMessage lib) =
      s.client.messages lib ++ [call.cmd.toMessage lib] := List.map_append
  constructor
  · refine ⟨?_, h.client.answers_fit, hconn, List.getLast?_concat, ?_, ?_, hinto⟩
    · show ∀ m ∈ (s.client.sent ++ [call]).map (fun call => call.cmd.toMessage lib), _
      rw [hmessages]
      exact forall_mem_concat h.client.sent_fit hfit
    · show (s.client.sent ++ [call]).length = s.client.answers.length + 1
      rw [List.length_append, List.length_singleton, hcount]
    · show s.toElevator.sent ++ wire _ = wires ((s.client.sent ++ [call]).map _)
      rw [hmessages, wires_concat, hout]
  · exact h.elevator
  · exact fun _ _ _ => Or.inl hall
  · exact h.stopped
  · intro r hr resp hresp
    obtain ⟨i, m, hplace, hcall, hm, hfrom⟩ := h.log r hr resp hresp
    exact ⟨i, m, hplace, getElem?_of_isPrefix (List.prefix_append _ _) hcall, hm, hfrom⟩
  · intro n hn
    obtain ⟨hle, hlen, ⟨-, hclosed, -⟩ | hdead | ⟨-, -, hcut, -⟩⟩ := h.failed n hn
    · rw [hconn] at hclosed
      cases hclosed
    · refine ⟨?_, hlen, Or.inr (Or.inl hdead)⟩
      show n ≤ (s.client.sent ++ [call]).length
      rw [List.length_append]
      omega
    · exact absurd hall hcut

theorem beginCall (h : Inv lib s) {call : Call} {running : Bool} {s' : State}
    (hstep : ElevatorService.beginCall lib s call running = some s') : Inv lib s' := by
  unfold ElevatorService.beginCall at hstep
  split at hstep
  · rename_i hidle
    split at hstep
    · cases hstep
      exact h.refused call
    · rename_i hrunning
      split at hstep
      · cases hstep
        exact h.refused call
      · rename_i hfit
        cases hstep
        have hconn : s.client.connected = true := by
          by_contra hconn
          exact hrunning (Or.inl (Bool.eq_false_iff.mpr hconn))
        exact h.beginSending hidle hconn (Bool.eq_false_iff.mpr hfit)
  · cases hstep

/-! ## Steps of the elevator -/

/-- A step of the elevator keeps what its own side keeps. -/
theorem elevatorStep (h : Inv lib s) {e : Elevator} {pe pc : Pipe UInt8} {f : Option Nat}
    (hpe : pe.sent = s.toElevator.sent) (hpc : pc.taken = s.toClient.taken)
    (he : e.Inv pe.taken pc.sent)
    (hwaiting : ∀ rs, e.phase = .reading rs → e.connected = true →
      State.AllAnswered ⟨s.client, e, pe, pc, f⟩ ∨ e.taken.length = s.client.sent.length)
    (hstopped : e.phase = .stopped → e.Dead)
    (hfail : ∀ n, f = some n → State.FailedAt ⟨s.client, e, pe, pc, f⟩ n) :
    Inv lib ⟨s.client, e, pe, pc, f⟩ where
  client := by
    rw [hpe, hpc]
    exact h.client
  elevator := he
  waiting := hwaiting
  stopped := hstopped
  log := h.log
  failed := hfail

/-- While the elevator executes or writes, an earlier failure was one of the desktop. -/
theorem failedAt_elevator {n : Nat} (hfailed : s.FailedAt n)
    (hconn : s.elevator.connected = true) (hphase : ∀ rs, s.elevator.phase ≠ .reading rs)
    {e : Elevator} {pe pc : Pipe UInt8} {f : Option Nat} (htaken : e.taken = s.elevator.taken) :
    State.FailedAt ⟨s.client, e, pe, pc, f⟩ n := by
  obtain ⟨hn, hlen, hclosed | hdead | ⟨-, -, -, rs, hrs⟩⟩ := hfailed
  · refine ⟨hn, ?_, Or.inl hclosed⟩
    show e.taken.length ≤ n
    rw [htaken]
    exact hlen
  · unfold Elevator.Dead at hdead
    rw [hconn] at hdead
    cases hdead
  · exact absurd hrs (hphase rs)

/-- The elevator reads no more: it has stopped, or its flag is off. -/
theorem elevatorDead (h : Inv lib s) {e : Elevator} {pe : Pipe UInt8} (hdead : e.Dead)
    (hpe : pe.sent = s.toElevator.sent) (htaken : e.taken = s.elevator.taken)
    (he : e.Inv pe.taken s.toClient.sent) :
    Inv lib { s.noteFailure with elevator := e, toElevator := pe } := by
  refine h.elevatorStep hpe rfl he ?_ (fun _ => hdead) ?_
  · intro rs _ hconn
    unfold Elevator.Dead at hdead
    rw [hconn] at hdead
    cases hdead
  · intro n hn
    have hle : s.elevator.taken.length ≤ n ∧ n ≤ s.client.sent.length := by
      rcases noteFailure_cases hn with hfailed | rfl
      · exact ⟨(h.failed n hfailed).2.1, (h.failed n hfailed).1⟩
      · exact ⟨h.taken_le, Nat.le_refl _⟩
    refine ⟨hle.2, ?_, Or.inr (Or.inl hdead)⟩
    show e.taken.length ≤ n
    rw [htaken]
    exact hle.1

/-- The response in writing is cut off, or never begun, and the elevator goes on: the desktop has
sent no further command, and will not send one. -/
theorem elevatorCut (h : Inv lib s) (hconn : s.elevator.connected = true)
    (hphase : ∀ rs, s.elevator.phase ≠ .reading rs) (hcut : ¬ s.AllAnswered)
    (hinto : s.toElevator.taken = wires s.elevator.taken)
    (hmissing : s.client.answers.length < s.elevator.taken.length) :
    Inv lib { s.noteFailure with elevator := { s.elevator with phase := .reading .start } } := by
  have htaken := h.taken_eq hmissing
  refine h.elevatorStep rfl rfl ?_ (fun _ _ _ => Or.inr htaken) ?_ ?_
  · refine ⟨h.elevator.taken_fit, h.elevator.responses_fit, h.elevator.taken_isPrefix, ?_,
      h.elevator.out_isPrefix, h.elevator.counts⟩
    intro _
    exact ⟨ReadState.start_valid, hinto.trans (List.append_nil _).symm⟩
  · intro hstop
    cases hstop
  · intro n hn
    rcases noteFailure_cases hn with hfailed | rfl
    · exact failedAt_elevator (h.failed n hfailed) hconn hphase rfl
    · exact ⟨Nat.le_refl _, Nat.le_of_eq htaken, Or.inr (Or.inr ⟨rfl, htaken, hcut, _, rfl⟩)⟩

/-- A complete command: it is the next of the messages that were sent, and the one before it has been
answered. -/
theorem elevatorDone (h : Inv lib s) {rs : ReadState} {b : UInt8} {pe : Pipe UInt8} {msg : IPCMessage}
    (hphase : s.elevator.phase = .reading rs) (hconn : s.elevator.connected = true)
    (hsent : pe.sent = s.toElevator.sent) (htaken : pe.taken = s.toElevator.taken ++ [b])
    (hfit : isTooLarge msg = false) (hwire : wire msg = rs.consumed ++ [b]) :
    Inv lib { s with
      elevator := { s.elevator with phase := .executing msg, taken := s.elevator.taken ++ [msg] }
      toElevator := pe } := by
  obtain ⟨-, hreading, -, -⟩ := h.elevator.reading hphase
  have hbytes : pe.taken = wires (s.elevator.taken ++ [msg]) := by
    rw [htaken, (hreading hconn).2, wires_concat, hwire, List.append_assoc]
  have hfits := forall_mem_concat h.elevator.taken_fit hfit
  have hstart : s.elevator.taken ++ [msg] <+: s.client.messages lib := by
    refine prefix_of_wires hfits h.client.sent_fit ?_
    rw [← hbytes]
    exact pe.taken_isPrefix.trans (hsent ▸ h.client.out_isPrefix)
  have hnext : s.elevator.taken.length + 1 ≤ s.client.sent.length := by
    have hlen := hstart.length_le
    unfold Client.messages at hlen
    rwa [List.length_append, List.length_singleton, List.length_map] at hlen
  have hall : s.AllAnswered := by
    rcases h.waiting rs hphase hconn with hall | heq
    · exact hall
    · omega
  refine h.elevatorStep hsent rfl ?_ ?_ ?_ ?_
  · refine ⟨hfits, h.elevator.responses_fit, hconn, hbytes, hall.1, ?_⟩
    show s.elevator.responses.length + 1 = (s.elevator.taken ++ [msg]).length
    rw [List.length_append, List.length_singleton, hall.2]
  · intro rs' hrs'
    cases hrs'
  · intro hstop
    cases hstop
  · intro n hn
    obtain ⟨hle, -, hclosed | hdead | ⟨-, -, hcut, -⟩⟩ := h.failed n hn
    · refine ⟨hle, ?_, Or.inl hclosed⟩
      show (s.elevator.taken ++ [msg]).length ≤ n
      rw [List.length_append, List.length_singleton, ← hclosed.2.2]
      exact hnext
    · unfold Elevator.Dead at hdead
      rw [hconn] at hdead
      cases hdead
    · exact absurd hall hcut

theorem elevatorTake (h : Inv lib s) {s' : State}
    (hstep : ElevatorService.elevatorTake s = some s') : Inv lib s' := by
  unfold ElevatorService.elevatorTake at hstep
  split at hstep
  · rename_i rs b pe hphase hconn htake
    obtain ⟨hsent, htaken⟩ := Pipe.take?_eq_some htake
    obtain ⟨hstart, hreading, hout, hcount⟩ := h.elevator.reading hphase
    obtain ⟨hvalid, hinto⟩ := hreading hconn
    have hafter := readByte_after b hvalid
    have hstart' : wires s.elevator.taken <+: pe.taken := by
      rw [htaken]
      exact hstart.trans (List.prefix_append _ _)
    split at hstep
    · rename_i rs' hread
      cases hstep
      rw [hread] at hafter
      refine h.elevatorStep hsent rfl ⟨h.elevator.taken_fit, h.elevator.responses_fit, ?_⟩ ?_ ?_ ?_
      · refine ⟨hstart', fun _ => ⟨hafter.1, ?_⟩, hout, hcount⟩
        rw [htaken, hinto, hafter.2, List.append_assoc]
      · exact fun _ _ _ => h.waiting rs hphase hconn
      · intro hstop
        cases hstop
      · intro n hn
        obtain ⟨hle, hlen, hclosed | hdead | ⟨hsame, hsame', hcut, -⟩⟩ := h.failed n hn
        · exact ⟨hle, hlen, Or.inl hclosed⟩
        · exact ⟨hle, hlen, Or.inr (Or.inl hdead)⟩
        · exact ⟨hle, hlen, Or.inr (Or.inr ⟨hsame, hsame', hcut, rs', rfl⟩)⟩
    · rename_i msg hread
      cases hstep
      rw [hread] at hafter
      exact h.elevatorDone hphase hconn hsent htaken hafter.1 hafter.2
    · cases hstep
      exact h.elevatorDead rfl hsent rfl
        ⟨h.elevator.taken_fit, h.elevator.responses_fit, hstart', hout, hcount⟩
  · cases hstep

/-- The elevator stops, wherever it is. -/
theorem elevatorStops (h : Inv lib s) :
    Inv lib { s.noteFailure with elevator := { s.elevator with phase := .stopped, connected := false } } :=
  h.elevatorDead rfl rfl rfl ⟨h.elevator.taken_fit, h.elevator.responses_fit, h.elevator.bounds⟩

theorem elevatorReadFails (h : Inv lib s) {s' : State}
    (hstep : ElevatorService.elevatorReadFails s = some s') : Inv lib s' := by
  unfold ElevatorService.elevatorReadFails at hstep
  split at hstep
  · cases hstep
    exact h.elevatorStops
  · cases hstep

theorem respond (h : Inv lib s) {resp : ElevatorCommandResponse} {s' : State}
    (hstep : ElevatorService.respond lib s resp = some s') : Inv lib s' := by
  unfold ElevatorService.respond at hstep
  split at hstep
  · rename_i msg hphase
    obtain ⟨hconn, hinto, hout, hcount⟩ := h.elevator.executing hphase
    have hnot : ∀ rs, s.elevator.phase ≠ .reading rs := by
      intro rs hrs
      rw [hphase] at hrs
      cases hrs
    have hanswers := h.answers_isPrefix.length_le
    simp only at hstep
    split at hstep
    · cases hstep
      refine h.elevatorCut hconn hnot (fun hall => ?_) hinto (by omega)
      have hsame := hall.2
      omega
    · rename_i hfit
      cases hstep
      refine h.elevatorStep rfl rfl ⟨h.elevator.taken_fit, ?_, hconn, hinto, ?_, ?_⟩ ?_ ?_ ?_
      · exact forall_mem_concat h.elevator.responses_fit (Bool.eq_false_iff.mpr hfit)
      · rw [wires_concat, hout]
      · rw [List.length_append, List.length_singleton, hcount]
      · intro rs' hrs'
        cases hrs'
      · intro hstop
        cases hstop
      · intro n hn
        exact failedAt_elevator (h.failed n hn) hconn hnot rfl
  · cases hstep

theorem elevatorPut (h : Inv lib s) {s' : State}
    (hstep : ElevatorService.elevatorPut s = some s') : Inv lib s' := by
  unfold ElevatorService.elevatorPut at hstep
  split at hstep
  · rename_i b todo hphase
    cases hstep
    obtain ⟨hconn, hinto, hout, hcount⟩ := h.elevator.writing hphase
    refine h.elevatorStep rfl rfl
      ⟨h.elevator.taken_fit, h.elevator.responses_fit, hconn, hinto, ?_, hcount⟩ ?_ ?_ ?_
    · rw [Pipe.sent_put, List.append_assoc, List.singleton_append]
      exact hout
    · intro rs hrs
      cases hrs
    · intro hstop
      cases hstop
    · intro n hn
      exact failedAt_elevator (h.failed n hn) hconn (fun rs => by rw [hphase]; simp) rfl
  · cases hstep

theorem elevatorWritten (h : Inv lib s) {s' : State}
    (hstep : ElevatorService.elevatorWritten s = some s') : Inv lib s' := by
  unfold ElevatorService.elevatorWritten at hstep
  split at hstep
  · rename_i hphase
    cases hstep
    obtain ⟨hconn, hinto, hout, hcount⟩ := h.elevator.writing hphase
    rw [List.append_nil] at hout
    refine h.elevatorStep rfl rfl ⟨h.elevator.taken_fit, h.elevator.responses_fit, ?_⟩ ?_ ?_ ?_
    · refine ⟨h.elevator.taken_isPrefix, fun _ => ⟨ReadState.start_valid, ?_⟩, h.elevator.out_isPrefix,
        Nat.le_of_eq hcount⟩
      exact hinto.trans (List.append_nil _).symm
    · exact fun _ _ _ => Or.inl ⟨hout, hcount⟩
    · intro hstop
      cases hstop
    · intro n hn
      exact failedAt_elevator (h.failed n hn) hconn (fun rs => by rw [hphase]; simp) rfl
  · cases hstep

theorem elevatorWriteFails (h : Inv lib s) {s' : State}
    (hstep : ElevatorService.elevatorWriteFails s = some s') : Inv lib s' := by
  unfold ElevatorService.elevatorWriteFails at hstep
  split at hstep
  · cases hstep
    refine h.elevatorDead rfl rfl rfl ⟨h.elevator.taken_fit, h.elevator.responses_fit,
      h.elevator.taken_isPrefix, ?_, h.elevator.bounds.2⟩
    intro hconn
    cases hconn
  · cases hstep

theorem elevatorWriteThrows (h : Inv lib s) {s' : State}
    (hstep : ElevatorService.elevatorWriteThrows s = some s') : Inv lib s' := by
  unfold ElevatorService.elevatorWriteThrows at hstep
  split at hstep
  · rename_i b todo hphase
    cases hstep
    obtain ⟨hconn, hinto, hout, hcount⟩ := h.elevator.writing hphase
    -- the last response lacks a byte, so it has not been read
    have hcut : ¬ s.AllAnswered := by
      rintro ⟨hsent, -⟩
      rw [← hout] at hsent
      have hlen := congrArg List.length hsent
      rw [List.length_append, List.length_cons] at hlen
      omega
    have hmissing : s.client.answers.length < s.elevator.taken.length := by
      have hle := h.answers_isPrefix.length_le
      by_contra hge
      have hsame : s.client.answers = s.elevator.responses := h.answers_isPrefix.eq_of_length (by omega)
      have hread := (h.client.answers_isPrefix.trans s.toClient.taken_isPrefix).length_le
      have hlen := congrArg List.length hout
      rw [List.length_append, List.length_cons, ← hsame] at hlen
      omega
    exact h.elevatorCut hconn (fun rs => by rw [hphase]; simp) hcut hinto hmissing
  · cases hstep

end Inv

/-- Every step keeps the invariant. -/
theorem step_inv {lib : IPCJson} (s : State) (l : Step) (s' : State) (h : Inv lib s)
    (hstep : step lib s l = some s') : Inv lib s' := by
  cases l with
  | call call running => exact h.beginCall hstep
  | clientPut => exact h.clientPut hstep
  | clientWritten => exact h.clientWritten hstep
  | clientTake => exact h.clientTake hstep
  | clientFails => exact h.clientFails hstep
  | elevatorTake => exact h.elevatorTake hstep
  | elevatorReadFails => exact h.elevatorReadFails hstep
  | respond resp => exact h.respond hstep
  | elevatorPut => exact h.elevatorPut hstep
  | elevatorWritten => exact h.elevatorWritten hstep
  | elevatorWriteFails => exact h.elevatorWriteFails hstep
  | elevatorWriteThrows => exact h.elevatorWriteThrows hstep
  | elevatorDies =>
      cases hstep
      exact h.elevatorStops

theorem init_inv (lib : IPCJson) : Inv lib {} where
  client := ⟨by simp [Client.messages], by simp, ⟨⟨List.prefix_rfl, List.prefix_rfl⟩,
    ⟨Nat.le_refl _, Nat.zero_le _⟩, fun _ => ⟨⟨rfl, rfl⟩, rfl⟩⟩⟩
  elevator := ⟨by simp, by simp, List.prefix_rfl, fun _ => ⟨ReadState.start_valid, rfl⟩,
    List.prefix_rfl, Nat.le_refl _⟩
  waiting := fun _ _ _ => Or.inl ⟨rfl, rfl⟩
  stopped := by
    intro h
    cases h
  log := by
    intro r hr
    cases hr
  failed := by
    intro n hn
    cases hn

/-! ## In step -/

/-- Requests and responses are in step. -/
structure InStep (lib : IPCJson) (s : State) : Prop where
  /-- A response that a call returns is decoded from the message that the elevator has sent, to its end,
  for the message of that call. -/
  answered : ∀ r ∈ s.client.returned, ∀ resp, r.result = some resp → ∃ i m, r.place = some i ∧
    s.client.sent[i]? = some r.call ∧ s.elevator.taken[i]? = some (r.call.cmd.toMessage lib) ∧
    s.elevator.responses[i]? = some m ∧ ElevatorCommandResponse.fromMessage lib m = some resp ∧
    wires (s.elevator.responses.take (i + 1)) <+: s.toClient.taken
  /-- The commands that the elevator executes are those of the first calls, each once and in their
  order. -/
  once : s.elevator.taken <+: s.client.sent.map (fun call => call.cmd.toMessage lib)
  /-- Calls that send their command after a failed transfer return no response. -/
  failed : ∀ n, s.failedAt = some n → ∀ r ∈ s.client.returned, r.result.isSome →
    ∃ i, r.place = some i ∧ i < n
  /-- A command that is too large changes nothing. -/
  refused : ∀ call running, s.client.phase = .idle → isTooLarge (call.cmd.toMessage lib) = true →
    step lib s (.call call running) = some { s with client := s.client.refuse call }

theorem Inv.inStep {lib : IPCJson} {s : State} (h : Inv lib s) : InStep lib s where
  answered := by
    intro r hr resp hresp
    obtain ⟨i, m, hplace, hcall, hm, hfrom⟩ := h.log r hr resp hresp
    have hresponse := getElem?_of_isPrefix h.answers_isPrefix hm
    obtain ⟨hi, -⟩ := List.getElem?_eq_some_iff.mp hm
    have hmessage : (s.client.messages lib)[i]? = some (r.call.cmd.toMessage lib) := by
      unfold Client.messages
      rw [List.getElem?_map, hcall]
      rfl
    have htaken : s.elevator.taken[i]? = some (r.call.cmd.toMessage lib) := by
      obtain ⟨rest, hrest⟩ := h.taken_isPrefix
      have hlen := h.elevator.counts
      have hlen' := h.answers_isPrefix.length_le
      rw [← hrest, List.getElem?_append_left (by omega)] at hmessage
      exact hmessage
    refine ⟨i, m, hplace, hcall, htaken, hresponse, hfrom, ?_⟩
    -- the answers up to this one have been read
    have htake : s.elevator.responses.take (i + 1) = s.client.answers.take (i + 1) := by
      obtain ⟨rest, hrest⟩ := h.answers_isPrefix
      rw [← hrest, List.take_append_of_le_length (by omega)]
    rw [htake]
    refine List.IsPrefix.trans ?_ h.client.answers_isPrefix
    refine ⟨wires (s.client.answers.drop (i + 1)), ?_⟩
    unfold wires
    rw [← List.flatMap_append, List.take_append_drop]
  once := h.taken_isPrefix
  failed := by
    intro n hn r hr hsome
    obtain ⟨resp, hresp⟩ := Option.isSome_iff_exists.mp hsome
    obtain ⟨i, m, hplace, -, hm, -⟩ := h.log r hr resp hresp
    obtain ⟨hi, -⟩ := List.getElem?_eq_some_iff.mp hm
    have hlen := h.elevator.counts
    have hlen' := h.answers_isPrefix.length_le
    have hn' := (h.failed n hn).2.1
    exact ⟨i, hplace, by omega⟩
  refused := by
    intro call running hidle hlarge
    show ElevatorService.beginCall lib s call running = _
    unfold ElevatorService.beginCall
    simp only [hidle, if_pos hlarge, ite_self]

/-- **Requests and responses never get out of step.** For every sequence of calls from any threads and
every way in which the transfers end on either side. -/
theorem elevator_in_step (lib : IPCJson) (steps : List Step) (s : State)
    (h : exec (step lib) {} steps = some s) : InStep lib s :=
  (exec_inv step_inv (init_inv lib) h).inStep

end ElevatorService

namespace Sample

open ElevatorService

def listCall : Call where
  thread := 1
  cmd := { type := .runCmd, args := [str "ls"] }

def listResponse : ElevatorCommandResponse where
  cmdResult := { output := str "f" }

/-- The texts of a command and of its response. -/
def listJson : IPCJson := .ofTable replaceInvalid
  [(.ofCommand listCall.cmd, str "\x7b\"args\":[\"ls\"],\"type\":1\x7d"),
    (.ofResponse listResponse,
      str "\x7b\"cmdResult\":\x7b\"exitCode\":0,\"output\":\"f\"\x7d,\"isError\":false,\"message\":\"\"\x7d")]

end Sample

namespace ElevatorService

theorem elevator_in_step_sample :
    ∃ s, Reachable (step Sample.listJson) {} s ∧ InStep Sample.listJson s ∧
      s.client.returned = [⟨Sample.listCall, some 0, some Sample.listResponse⟩] := by
  have hfit : isTooLarge (Sample.listCall.cmd.toMessage Sample.listJson) = false := by decide +kernel
  obtain ⟨s, ⟨steps, hsteps⟩, -, -, -, hreturned⟩ := exchange init_healthy Sample.listCall
    Sample.listResponse hfit (by decide +kernel) rfl (by decide +kernel) (by decide +kernel)
  exact ⟨s, ⟨steps, hsteps⟩, elevator_in_step _ steps s hsteps, hreturned.trans (by decide +kernel)⟩

end ElevatorService

end PcbuDesktop
