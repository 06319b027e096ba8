import PcbuDesktop.Pairing.Client
import PcbuDesktop.Pairing.CloudPoll

set_option autoImplicit false

/-! # A pairing over the cloud

`PairingSession` (`common_desktop/src/pairing/PairingSession.cpp`) with its `CloudPairingServer`
(`connection/pairing/CloudPairingServer.cpp`): the thread of the UI calls `Start` and `Stop`, the poll
thread waits for a phone and connects the relay, and the relay thread serves the phone with
`HandleClient`. The two threads call back into the UI, and use objects that `Stop` destroys.

The sessions are numbered. A thread that uses an object after its end is a `fault`, and so is one that
uses the object of another session.
-/

namespace PcbuDesktop

open Runs

/-! ## The relay thread -/

/-- A call of `m_SuccessCallback` or `m_ErrorCallback`. -/
inductive PairingReport where
  | success
  | error (message : Str)
  deriving DecidableEq, Repr

/-- The server of a session: `m_IsRunning`, and `m_RelayStream` by what it connects to. -/
structure CloudPairingServer where
  session : Nat
  uiData : PairingUIData
  isRunning : Bool := true
  relayStream : Option CloudRelayInfo := none
  deriving DecidableEq, Repr

inductive RelayPc where
  /-- `WebSocketStream::Connect` -/
  | connect
  /-- in front of these calls of `ReportSuccess` and `ReportError`; then `HandleClient` goes on, or the
  thread returns -/
  | report (reports : List PairingReport) (next : Option PairingPc)
  /-- `m_IsRunning` was set: the callback -/
  | deliver (report : PairingReport) (reports : List PairingReport) (next : Option PairingPc)
  /-- `m_RelayStream->Close()` -/
  | close
  | done
  deriving DecidableEq, Repr

inductive RelayAnswer where
  | connected (ok : Bool)
  | client (answer : PairingAnswer)
  | go

/-- The reports among the calls of `HandleClient`, and the devices it stores. -/
def reportsOf : List PairingEffect → List PairingReport
  | [] => []
  | .reportSuccess :: effects => .success :: reportsOf effects
  | .reportError message :: effects => .error message :: reportsOf effects
  | _ :: effects => reportsOf effects

def devicesOf : List PairingEffect → List PairedDevice
  | [] => []
  | .addDevice device :: effects => device :: devicesOf effects
  | _ :: effects => devicesOf effects

/-- One step of `RelayThread`, with the callbacks and the devices stored by it. -/
def CloudPairingServer.relayStep (env : Env) (i18n : String → Str) (server : CloudPairingServer) :
    RelayPc → RelayAnswer → Option (RelayPc × List PairingReport × List PairedDevice)
  | .connect, .connected true => some (.report [] (some .read), [], [])
  | .connect, .connected false => some (.report [.error (i18n "error_cloud_connect")] none, [], [])
  | .report (r :: reports) next, .go =>
      some (if server.isRunning then .deliver r reports next else .report reports next, [], [])
  | .report [] none, .go => some (.done, [], [])
  | .report [] (some .done), .go => some (.close, [], [])
  | .report [] (some pc), .client answer =>
      (pairingStep env i18n ⟨server.uiData, pc⟩ answer).map fun (pc, effects) =>
        (.report (reportsOf effects) (some pc), [], devicesOf effects)
  | .deliver r reports next, .go => some (.report reports next, [r], [])
  | .close, .go => some (.done, [], [])
  | _, _ => none

/-! ## The session -/

/-- The arguments of `Start`, and the random strings that it draws. -/
structure SessionStart where
  data : PairingUIData
  pollSecret : Str
  encKey : Str
  deriving DecidableEq, Repr

/-- The thread of the UI. `Stop` runs alone, or at the beginning of a `Start`. -/
inductive SessionPc where
  | idle
  /-- `m_CloudPollClient->Cancel()` -/
  | cancelPoll (next : Option SessionStart)
  /-- `m_CloudPollThread.join()` -/
  | joinPoll (next : Option SessionStart)
  /-- `m_CloudPollClient` and the secrets are dropped -/
  | reset (next : Option SessionStart)
  /-- `CloudPairingServer::Stop`: `m_IsRunning` -/
  | stopServer (next : Option SessionStart)
  /-- `m_RelayStream->Close()` -/
  | closeStream (next : Option SessionStart)
  /-- `m_RelayThread.join()` -/
  | joinRelay (next : Option SessionStart)
  /-- `m_RelayStream` and `m_CloudPairingServer` are destroyed -/
  | resetServer (next : Option SessionStart)
  /-- `Start` behind `Stop` -/
  | begin (start : SessionStart)
  deriving DecidableEq, Repr

/-- The session and its threads, each with the number of its session; what has been reported to the UI,
and what has been stored. -/
structure CloudSession where
  sessions : Nat := 0
  isCloudPollRunning : Bool := false
  hasPollClient : Bool := false
  serverId : Str := []
  pollSecret : Str := []
  encKey : Str := []
  server : Option CloudPairingServer := none
  poll : Option (Nat × CloudPoll) := none
  relay : Option (Nat × RelayPc) := none
  main : SessionPc := .idle
  log : List (Nat × PairingReport) := []
  stored : List (Nat × PairedDevice) := []
  fault : Bool := false
  deriving DecidableEq, Repr

inductive SessionLabel where
  | start (start : SessionStart)
  | stop
  | main
  | poll (answer : CloudPollAnswer)
  | relay (answer : RelayAnswer)

namespace CloudSession

/-- `Start` behind `Stop`: no other thread is there until its last statement. Other methods than the
cloud get another server and no poll thread. -/
def begin (sha256 : Str → Str) (s : CloudSession) (b : SessionStart) : CloudSession :=
  let uiData := { b.data with encKey := b.encKey }
  if b.data.method = .cloud then
    { s with
      sessions := s.sessions + 1
      server := some { session := s.sessions + 1, uiData := uiData }
      encKey := b.encKey
      pollSecret := b.pollSecret
      serverId := sha256 b.pollSecret
      hasPollClient := true
      isCloudPollRunning := true
      poll := some (s.sessions + 1, {})
      main := .idle }
  else { s with main := .idle }

/-- The thread of the UI inside `Start` or `Stop`. -/
def mainStep (sha256 : Str → Str) (s : CloudSession) : Option CloudSession :=
  match s.main with
  | .idle => none
  | .cancelPoll next => some { s with main := .joinPoll next }
  | .joinPoll next =>
      match s.poll with
      | none => some { s with main := .reset next }
      | some (_, p) => if p.pc = .done then some { s with poll := none, main := .reset next } else none
  | .reset next =>
      some { s with hasPollClient := false, serverId := [], pollSecret := [], encKey := [],
                    main := .stopServer next }
  | .stopServer next =>
      match s.server with
      | none => some { s with main := .resetServer next }
      | some server =>
          some { s with server := some { server with isRunning := false }, main := .closeStream next }
  | .closeStream next => some { s with main := .joinRelay next }
  | .joinRelay next =>
      match s.relay with
      | none => some { s with main := .resetServer next }
      | some (_, pc) =>
          if pc = .done then some { s with relay := none, main := .resetServer next } else none
  | .resetServer none => some { s with server := none, main := .idle }
  | .resetServer (some b) => some { s with server := none, main := .begin b }
  | .begin b => some (s.begin sha256 b)

/-- `ConnectRelay`, called by the poll thread of session `n`. -/
def connectRelay (s : CloudSession) (n : Nat) (info : CloudRelayInfo) : CloudSession :=
  match s.server.filter (fun server => server.session = n) with
  | none => { s with fault := true }
  | some server =>
      if s.relay.isSome then s
      else { s with server := some { server with relayStream := some info }
                    relay := some (server.session, .connect) }

def pollStep (i18n : String → Str) (s : CloudSession) (answer : CloudPollAnswer) : Option CloudSession :=
  match s.poll with
  | none => none
  | some (n, p) =>
      (p.step s.pollSecret s.isCloudPollRunning s.server.isSome answer).map fun p' =>
        let s := { s with poll := some (n, p') }
        match p.pc with
        | .request => { s with fault := s.fault || !s.hasPollClient }
        | .callback key => { s with log := s.log ++ [(n, .error (i18n key))] }
        | .join info => s.connectRelay n info
        | _ => s

/-- The relay thread of session `n` may use this server and its stream. -/
def usable (n : Nat) (server : CloudPairingServer) : Bool :=
  server.session = n && server.relayStream.isSome

def relayStep (env : Env) (i18n : String → Str) (s : CloudSession) (answer : RelayAnswer) :
    Option CloudSession :=
  match s.relay with
  | none => none
  | some (n, pc) =>
      if pc = .done then none
      else match s.server.filter (usable n) with
        | none => some { s with fault := true }
        | some server =>
            (server.relayStep env i18n pc answer).map fun (pc, delivered, devices) =>
              { s with relay := some (n, pc)
                       log := s.log ++ delivered.map (n, ·)
                       stored := s.stored ++ devices.map (n, ·) }

def step (env : Env) (i18n : String → Str) (sha256 : Str → Str) (s : CloudSession) :
    SessionLabel → Option CloudSession
  | .start b =>
      if s.main = .idle then some { s with isCloudPollRunning := false, main := .cancelPoll (some b) }
      else none
  | .stop =>
      if s.main = .idle then some { s with isCloudPollRunning := false, main := .cancelPoll none }
      else none
  | .main => s.mainStep sha256
  | .poll answer => s.pollStep i18n answer
  | .relay answer => s.relayStep env i18n answer

end CloudSession

/-! ## What the relay thread can still report -/

section

variable {env : Env} {i18n : String → Str}

/-- `HandleClient` reports once at most, and only when it returns. -/
theorem PairingStep.reports {uiData : PairingUIData} {pc pc' : PairingPc} {answer : PairingAnswer}
    {effects : List PairingEffect} (h : PairingStep env i18n uiData pc answer pc' effects) :
    reportsOf effects = [] ∨ pc' = .done ∧ ∃ r, reportsOf effects = [r] ∧
      (r = .success → devicesOf effects ≠ []) := by
  have hnone : ∀ {seed : Nat} {result : PacketError} {data : Str} (rest : List PairingEffect),
      reportsOf ((writeEncryptedPacket env uiData seed result data).2 ++ rest) = reportsOf rest := by
    intro seed result data rest
    unfold writeEncryptedPacket Env.encrypted
    dsimp only
    split
    · rfl
    · rfl
  cases h with
  | unread hdata =>
      unfold readFailed
      split_ifs <;> simp [reportsOf]
  | refused hdata hbuild => exact .inl rfl
  | built hdata hbuild => exact .inl rfl
  | unprinted hdump => exact .inl rfl
  | @responded device respPacket seed result what data hdump hwritten =>
      have h := @hnone seed result data []
      rw [List.append_nil] at h
      exact .inl h
  | unwritten hdump hwritten =>
      rw [hnone]
      exact .inr ⟨rfl, _, rfl, nofun⟩
  | escaped hdump => exact .inl rfl
  | rejected hdump =>
      rw [hnone]
      split
      · exact .inl rfl
      · exact .inr ⟨rfl, _, rfl, nofun⟩
  | stored => exact .inr ⟨rfl, _, rfl, fun _ => by simp [devicesOf]⟩
  | threw => exact .inl rfl

/-- Nothing follows but the return of the thread. -/
def Returning (next : Option PairingPc) : Prop := next = none ∨ next = some .done

/-- The reports of the thread's session are `count` so far, and there will be one at most. -/
def RelayPc.Within (count : Nat) : RelayPc → Prop
  | .connect => count = 0
  | .report reports next => count + reports.length ≤ 1 ∧ (Returning next ∨ count = 0 ∧ reports = [])
  | .deliver _ reports next => count = 0 ∧ reports = [] ∧ Returning next
  | .close => count ≤ 1
  | .done => count ≤ 1

theorem RelayPc.Within.le {count : Nat} {pc : RelayPc} (h : pc.Within count) : count ≤ 1 := by
  cases pc with
  | connect =>
      have hzero : count = 0 := h
      omega
  | report reports next =>
      have := h.1
      omega
  | deliver r reports next =>
      have := h.1
      omega
  | close => exact h
  | done => exact h

/-- The reports that the thread is about to make. -/
def RelayPc.pending : RelayPc → List PairingReport
  | .report reports _ => reports
  | .deliver r reports _ => r :: reports
  | _ => []

/-- What a step of the relay thread keeps: the bound, and a device behind each success. -/
theorem CloudPairingServer.relayStep_within {server : CloudPairingServer} {pc pc' : RelayPc}
    {answer : RelayAnswer} {delivered : List PairingReport} {devices : List PairedDevice}
    (h : server.relayStep env i18n pc answer = some (pc', delivered, devices)) {count : Nat}
    (hpc : pc.Within count) :
    pc'.Within (count + delivered.length) ∧
      (∀ r ∈ delivered, r ∈ pc.pending) ∧
      (.success ∈ pc'.pending → .success ∈ pc.pending ∨ devices ≠ []) := by
  unfold CloudPairingServer.relayStep at h
  split at h
  · cases h
    exact ⟨⟨by rw [hpc]; decide, .inr ⟨hpc, rfl⟩⟩, nofun, nofun⟩
  · cases h
    exact ⟨⟨by rw [hpc]; simp, .inl (.inl rfl)⟩, nofun, fun hs => by simp [RelayPc.pending] at hs⟩
  · next r reports next =>
      obtain ⟨hle, hnext⟩ := hpc
      have hret : Returning next := hnext.resolve_right (fun h => by cases h.2)
      simp only [List.length_cons] at hle
      have hnil : reports = [] := List.length_eq_zero_iff.mp (by omega)
      cases h
      split
      · exact ⟨⟨by simp; omega, hnil, hret⟩, nofun, fun hs => .inl hs⟩
      · refine ⟨⟨by rw [hnil]; simp; omega, .inl hret⟩, nofun, fun hs => .inl ?_⟩
        exact List.mem_cons_of_mem _ hs
  · cases h
    exact ⟨RelayPc.Within.le hpc, nofun, nofun⟩
  · cases h
    exact ⟨RelayPc.Within.le hpc, nofun, nofun⟩
  · next pc answer =>
      obtain ⟨⟨next, effects⟩, hstep, heq⟩ := Option.map_eq_some_iff.mp h
      cases heq
      have hclient := pairingStep_cases hstep
      obtain ⟨-, hnext⟩ := hpc
      have hzero : count = 0 := by
        rcases hnext with (hret | hret) | hzero
        · cases hret
        · -- a client that is done takes no step
          rw [Option.some.inj hret] at hclient
          cases hclient
        · exact hzero.1
      rcases hclient.reports with hnone | ⟨rfl, r, hone, hdevice⟩
      · refine ⟨⟨by rw [hnone, hzero]; simp, .inr ⟨by simpa using hzero, hnone⟩⟩, nofun, fun hs => ?_⟩
        rw [RelayPc.pending, hnone] at hs
        cases hs
      · refine ⟨⟨by rw [hone, hzero]; simp, .inl (.inr rfl)⟩, nofun, fun hs => ?_⟩
        rw [RelayPc.pending, hone, List.mem_singleton] at hs
        exact .inr (hdevice hs.symm)
  · next r reports next =>
      obtain ⟨hzero, hnil, hret⟩ := hpc
      cases h
      refine ⟨⟨by rw [hzero, hnil]; simp, .inl hret⟩, fun r' hr' => ?_, fun hs => ?_⟩
      · rw [List.mem_singleton.mp hr']
        exact List.mem_cons_self
      · exact .inl (List.mem_cons_of_mem _ hs)
  · cases h
    exact ⟨hpc, nofun, nofun⟩
  · cases h

end

/-! ## The invariant -/

/-- `Stop` has joined the poll thread, or the relay thread too. -/
def SessionPc.pollJoined : SessionPc → Bool
  | .reset _ | .stopServer _ | .closeStream _ | .joinRelay _ | .resetServer _ | .begin _ => true
  | _ => false

def SessionPc.relayJoined : SessionPc → Bool
  | .resetServer _ | .begin _ => true
  | _ => false

theorem SessionPc.relayJoined_of_pollJoined {pc : SessionPc} (h : pc.pollJoined = false) :
    pc.relayJoined = false := by
  cases pc <;> first | rfl | cases h

namespace CloudSession

/-- How often session `n` has reported. -/
def reports (s : CloudSession) (n : Nat) : Nat := s.log.countP (·.1 = n)

/-- A device has been stored in session `n`. -/
def HasStored (s : CloudSession) (n : Nat) : Prop := ∃ device, (n, device) ∈ s.stored

/-- The threads belong to the session that runs, and use what is there. While the poll thread lives the
relay is not connected, and nothing is reported. -/
structure Inv (s : CloudSession) : Prop where
  fault : s.fault = false
  sessions : ∀ e ∈ s.log, e.1 ≤ s.sessions
  once : ∀ n, s.reports n ≤ 1
  stored : ∀ n, (n, PairingReport.success) ∈ s.log → s.HasStored n
  server : ∀ server, s.server = some server → server.session = s.sessions
  poll : ∀ n p, s.poll = some (n, p) → n = s.sessions ∧ (s.server.isSome ∧ s.hasPollClient = true) ∧
    s.main.pollJoined = false ∧ (p.pc ≠ .done → s.relay = none ∧ s.reports n = 0)
  relay : ∀ n pc, s.relay = some (n, pc) → n = s.sessions ∧
    (∃ server, s.server = some server ∧ server.relayStream.isSome) ∧ s.main.relayJoined = false ∧
    pc.Within (s.reports n) ∧ (.success ∈ pc.pending → s.HasStored n)
  machine : ∀ n p, s.poll = some (n, p) → p.Paced ∧ p.Reason

variable {env : Env} {i18n : String → Str} {sha256 : Str → Str} {s s' : CloudSession}

theorem inv_start : ({} : CloudSession).Inv where
  fault := rfl
  sessions := nofun
  once := fun _ => Nat.zero_le 1
  stored := nofun
  server := nofun
  poll := nofun
  relay := nofun
  machine := nofun

theorem reports_append (s : CloudSession) (n m : Nat) (rs : List PairingReport) :
    (s.log ++ rs.map (m, ·)).countP (·.1 = n) = s.reports n + if m = n then rs.length else 0 := by
  rw [List.countP_append, List.countP_map]
  unfold reports
  congr 1
  split
  · next heq =>
      rw [List.countP_eq_length.mpr]
      intro r _
      exact decide_eq_true heq
  · next hne =>
      rw [List.countP_eq_zero]
      intro r _ h
      exact hne (of_decide_eq_true h)

/-- The program point of the UI's thread may change to one at which no more threads are joined. -/
theorem Inv.main (hs : s.Inv) {main : SessionPc} {isRunning hasPollClient : Bool}
    {serverId pollSecret encKey : Str} (hpoll : main.pollJoined = true → s.poll = none)
    (hrelay : main.relayJoined = true → s.relay = none)
    (hclient : hasPollClient = s.hasPollClient ∨ s.poll = none) :
    ({ s with main := main, isCloudPollRunning := isRunning, hasPollClient := hasPollClient,
              serverId := serverId, pollSecret := pollSecret, encKey := encKey } : CloudSession).Inv := by
  refine ⟨hs.fault, hs.sessions, hs.once, hs.stored, hs.server, ?_, ?_, hs.machine⟩
  · intro n p hp
    obtain ⟨hn, ⟨hserver, hthere⟩, -, hopen⟩ := hs.poll n p hp
    have hclient' : hasPollClient = true := by
      rcases hclient with hsame | hnone
      · exact hsame.trans hthere
      · cases hnone.symm.trans hp
    refine ⟨hn, ⟨hserver, hclient'⟩, ?_, hopen⟩
    by_contra hjoined
    rw [hpoll ((Bool.not_eq_false _).mp hjoined)] at hp
    cases hp
  · intro n pc hpc
    obtain ⟨hn, hserver, -, hrest⟩ := hs.relay n pc hpc
    refine ⟨hn, hserver, ?_, hrest⟩
    by_contra hjoined
    rw [hrelay ((Bool.not_eq_false _).mp hjoined)] at hpc
    cases hpc

/-- The next session has not reported yet. -/
theorem Inv.reports_next (hs : s.Inv) : s.reports (s.sessions + 1) = 0 := by
  unfold reports
  rw [List.countP_eq_zero]
  intro e he h
  have hle := hs.sessions e he
  have heq : e.1 = s.sessions + 1 := of_decide_eq_true h
  omega

theorem Inv.poll_none (hs : s.Inv) (h : s.main.pollJoined = true) : s.poll = none := by
  cases hp : s.poll with
  | none => rfl
  | some poll =>
      obtain ⟨-, -, hjoined, -⟩ := hs.poll poll.1 poll.2 hp
      rw [h] at hjoined
      cases hjoined

theorem Inv.relay_none (hs : s.Inv) (h : s.main.relayJoined = true ∨ s.server = none) :
    s.relay = none := by
  cases hr : s.relay with
  | none => rfl
  | some relay =>
      obtain ⟨-, ⟨server, hserver, -⟩, hjoined, -⟩ := hs.relay relay.1 relay.2 hr
      rcases h with h | h
      · rw [h] at hjoined
        cases hjoined
      · rw [h] at hserver
        cases hserver

theorem Inv.dropPoll (hs : s.Inv) : ({ s with poll := none } : CloudSession).Inv :=
  ⟨hs.fault, hs.sessions, hs.once, hs.stored, hs.server, nofun, hs.relay, nofun⟩

theorem Inv.dropRelay (hs : s.Inv) : ({ s with relay := none } : CloudSession).Inv where
  fault := hs.fault
  sessions := hs.sessions
  once := hs.once
  stored := hs.stored
  server := hs.server
  poll := fun n p hp => by
    obtain ⟨hn, hserver, hjoined, hopen⟩ := hs.poll n p hp
    exact ⟨hn, hserver, hjoined, fun halive => ⟨rfl, (hopen halive).2⟩⟩
  relay := nofun
  machine := hs.machine

/-- The server's own members may change, as long as it keeps its session and its stream. -/
theorem Inv.setServer (hs : s.Inv) {server server' : CloudPairingServer} (h : s.server = some server)
    (hsession : server'.session = server.session)
    (hstream : server.relayStream.isSome → server'.relayStream.isSome) :
    ({ s with server := some server' } : CloudSession).Inv where
  fault := hs.fault
  sessions := hs.sessions
  once := hs.once
  stored := hs.stored
  server := fun _ h' => by
    cases h'
    exact hsession.trans (hs.server server h)
  poll := fun n p hp => by
    obtain ⟨hn, ⟨-, hclient⟩, hrest⟩ := hs.poll n p hp
    exact ⟨hn, ⟨rfl, hclient⟩, hrest⟩
  relay := fun n pc hpc => by
    obtain ⟨hn, ⟨server₀, h₀, hstream₀⟩, hrest⟩ := hs.relay n pc hpc
    cases h.symm.trans h₀
    exact ⟨hn, ⟨server', rfl, hstream hstream₀⟩, hrest⟩
  machine := hs.machine

/-- Without threads the server may be destroyed. -/
theorem Inv.dropServer (hs : s.Inv) (hpoll : s.poll = none) (hrelay : s.relay = none) :
    ({ s with server := none } : CloudSession).Inv where
  fault := hs.fault
  sessions := hs.sessions
  once := hs.once
  stored := hs.stored
  server := nofun
  poll := fun n p hp => by cases hpoll.symm.trans hp
  relay := fun n pc hpc => by cases hrelay.symm.trans hpc
  machine := hs.machine

theorem Inv.begin (hs : s.Inv) (hrelay : s.relay = none) (b : SessionStart) :
    (s.begin sha256 b).Inv := by
  unfold CloudSession.begin
  dsimp only
  split
  · refine ⟨hs.fault, fun e he => Nat.le_succ_of_le (hs.sessions e he), hs.once, hs.stored, ?_, ?_, ?_, ?_⟩
    · rintro server ⟨⟩
      rfl
    · rintro n p ⟨⟩
      exact ⟨rfl, ⟨rfl, rfl⟩, rfl, fun _ => ⟨hrelay, hs.reports_next⟩⟩
    · intro n pc hpc
      cases hrelay.symm.trans hpc
    · rintro n p ⟨⟩
      exact ⟨⟨by decide, nofun, nofun, fun _ => rfl, nofun, nofun⟩, rfl, rfl⟩
  · exact hs.main (fun h => by cases h) (fun h => by cases h) (.inl rfl)

/-! ## The steps -/

theorem Inv.mainStep (hs : s.Inv) (h : s.mainStep sha256 = some s') : s'.Inv := by
  unfold CloudSession.mainStep at h
  split at h
  · cases h
  · cases h
    exact hs.main (fun h => by cases h) (fun h => by cases h) (.inl rfl)
  · split at h
    · next hnone =>
        cases h
        exact hs.main (fun _ => hnone) (fun h => by cases h) (.inl rfl)
    · split at h
      · cases h
        exact hs.dropPoll.main (fun _ => rfl) (fun h => by cases h) (.inl rfl)
      · cases h
  · next next hmain =>
      have hpoll := hs.poll_none (by rw [hmain]; rfl)
      cases h
      exact hs.main (fun _ => hpoll) (fun h => by cases h) (.inr hpoll)
  · next next hmain =>
      have hpoll := hs.poll_none (by rw [hmain]; rfl)
      split at h
      · next hserver =>
          cases h
          exact hs.main (fun _ => hpoll) (fun _ => hs.relay_none (.inr hserver)) (.inl rfl)
      · next server hserver =>
          have hstopped : ({ s with server := some { server with isRunning := false } } :
              CloudSession).Inv := hs.setServer hserver rfl id
          cases h
          exact hstopped.main (fun _ => hpoll) (fun h => by cases h) (.inl rfl)
  · next next hmain =>
      cases h
      exact hs.main (fun _ => hs.poll_none (by rw [hmain]; rfl)) (fun h => by cases h) (.inl rfl)
  · next next hmain =>
      have hpoll := hs.poll_none (by rw [hmain]; rfl)
      split at h
      · next hnone =>
          cases h
          exact hs.main (fun _ => hpoll) (fun _ => hnone) (.inl rfl)
      · split at h
        · cases h
          exact hs.dropRelay.main (fun _ => hpoll) (fun _ => rfl) (.inl rfl)
        · cases h
  · next hmain =>
      have hpoll := hs.poll_none (by rw [hmain]; rfl)
      have hrelay := hs.relay_none (.inl (by rw [hmain]; rfl))
      cases h
      exact (hs.dropServer hpoll hrelay).main (fun _ => hpoll) (fun _ => hrelay) (.inl rfl)
  · next b hmain =>
      have hpoll := hs.poll_none (by rw [hmain]; rfl)
      have hrelay := hs.relay_none (.inl (by rw [hmain]; rfl))
      cases h
      exact (hs.dropServer hpoll hrelay).main (fun _ => hpoll) (fun _ => hrelay) (.inl rfl)
  · next b hmain =>
      cases h
      exact hs.begin (hs.relay_none (.inl (by rw [hmain]; rfl))) b

/-- Reports of a thread of the running session, which stay one at most. -/
theorem Inv.report (hs : s.Inv) (rs : List PairingReport) (ds : List PairedDevice)
    (hle : s.reports s.sessions + rs.length ≤ 1)
    (hsuccess : .success ∈ rs → s.HasStored s.sessions)
    (hpoll : ∀ n p, s.poll = some (n, p) → p.pc = .done) (hrelay : s.relay = none) :
    ({ s with log := s.log ++ rs.map (s.sessions, ·)
              stored := s.stored ++ ds.map (s.sessions, ·) } : CloudSession).Inv where
  fault := hs.fault
  sessions := fun e he => by
    rcases List.mem_append.mp he with hold | hnew
    · exact hs.sessions e hold
    · obtain ⟨r, -, rfl⟩ := List.mem_map.mp hnew
      exact Nat.le_refl _
  once := fun n => by
    show (s.log ++ rs.map (s.sessions, ·)).countP (·.1 = n) ≤ 1
    rw [reports_append]
    split
    · next heq =>
        rw [← heq]
        exact hle
    · exact hs.once n
  stored := fun n hn => by
    have hkept : s.HasStored n →
        CloudSession.HasStored { s with log := s.log ++ rs.map (s.sessions, ·)
                                        stored := s.stored ++ ds.map (s.sessions, ·) } n :=
      fun ⟨device, hmem⟩ => ⟨device, List.mem_append_left _ hmem⟩
    rcases List.mem_append.mp hn with hold | hnew
    · exact hkept (hs.stored n hold)
    · obtain ⟨r, hr, heq⟩ := List.mem_map.mp hnew
      cases heq
      exact hkept (hsuccess hr)
  server := hs.server
  poll := fun n p hp => by
    obtain ⟨hn, hserver, hjoined, -⟩ := hs.poll n p hp
    exact ⟨hn, hserver, hjoined, fun halive => absurd (hpoll n p hp) halive⟩
  relay := fun n pc hpc => by cases hrelay.symm.trans hpc
  machine := hs.machine

/-- A relay thread of the running session, when the poll thread is done. -/
theorem Inv.setRelay (hs : s.Inv) {n : Nat} (hn : n = s.sessions) (pc : RelayPc)
    (hpoll : ∀ n p, s.poll = some (n, p) → p.pc = .done)
    (hserver : ∃ server, s.server = some server ∧ server.relayStream.isSome)
    (hjoined : s.main.relayJoined = false) (hwithin : pc.Within (s.reports s.sessions))
    (hsuccess : .success ∈ pc.pending → s.HasStored s.sessions) :
    ({ s with relay := some (n, pc) } : CloudSession).Inv where
  fault := hs.fault
  sessions := hs.sessions
  once := hs.once
  stored := hs.stored
  server := hs.server
  poll := fun n p hp => by
    obtain ⟨hn, hsome, hmain, -⟩ := hs.poll n p hp
    exact ⟨hn, hsome, hmain, fun halive => absurd (hpoll n p hp) halive⟩
  relay := by
    rintro m pc ⟨⟩
    exact ⟨hn, hserver, hjoined, hn ▸ hwithin, hn ▸ hsuccess⟩
  machine := hs.machine

/-- The poll thread has taken a step, and nothing else has changed. -/
theorem Inv.setPoll (hs : s.Inv) {n : Nat} {p p' : CloudPoll} (h : s.poll = some (n, p))
    (halive : p.pc ≠ .done) (hpaced : p'.Paced) (hreason : p'.Reason) :
    ({ s with poll := some (n, p') } : CloudSession).Inv where
  fault := hs.fault
  sessions := hs.sessions
  once := hs.once
  stored := hs.stored
  server := hs.server
  poll := by
    rintro n p ⟨⟩
    obtain ⟨hn, hserver, hjoined, hopen⟩ := hs.poll _ _ h
    exact ⟨hn, hserver, hjoined, fun _ => hopen halive⟩
  relay := hs.relay
  machine := by
    rintro n p ⟨⟩
    exact ⟨hpaced, hreason⟩

theorem Inv.pollStep (hs : s.Inv) {answer : CloudPollAnswer}
    (h : s.pollStep i18n answer = some s') : s'.Inv := by
  unfold CloudSession.pollStep at h
  split at h
  · cases h
  · next n p hpoll =>
      obtain ⟨p', hstep, rfl⟩ := Option.map_eq_some_iff.mp h
      obtain ⟨hpaced, hreason⟩ := hs.machine n p hpoll
      obtain ⟨hn, hserver, hjoined, hopen⟩ := hs.poll n p hpoll
      have halive : p.pc ≠ .done := CloudPoll.step_alive hstep
      obtain ⟨hrelay, hzero⟩ := hopen halive
      have hset := hs.setPoll hpoll halive (hpaced.step hstep) (hreason.step hstep)
      subst hn
      dsimp only
      split
      · have hfault : (s.fault || !s.hasPollClient) = s.fault := by
          rw [hserver.2]
          exact Bool.or_false _
        rw [hfault]
        exact hset
      · next key hpc =>
          -- the only report of the thread, which is done with it
          have hdone : p'.pc = .done := CloudPoll.step_last hstep (.inl ⟨key, hpc⟩)
          have hreported := hset.report [.error (i18n key)] []
            (by show s.reports s.sessions + 1 ≤ 1; omega) (by simp)
            (by rintro n p ⟨⟩; exact hdone) hrelay
          simpa using hreported
      · next info hpc =>
          have hdone : p'.pc = .done := CloudPoll.step_last hstep (.inr ⟨info, hpc⟩)
          obtain ⟨server, hserver⟩ := Option.isSome_iff_exists.mp hserver.1
          have hstream : ({ s with poll := some (s.sessions, p')
                                   server := some { server with relayStream := some info } } :
              CloudSession).Inv := hset.setServer hserver rfl (fun _ => rfl)
          have hsession := hs.server server hserver
          have hfilter : s.server.filter (fun server => server.session = s.sessions) = some server := by
            rw [hserver]
            simp [hsession]
          unfold connectRelay
          dsimp only
          rw [hfilter, hrelay]
          exact hstream.setRelay hsession .connect (by rintro n p ⟨⟩; exact hdone) ⟨_, rfl, rfl⟩
            (SessionPc.relayJoined_of_pollJoined hjoined) hzero nofun
      · exact hset

theorem Inv.relayStep (hs : s.Inv) {answer : RelayAnswer}
    (h : s.relayStep env i18n answer = some s') : s'.Inv := by
  unfold CloudSession.relayStep at h
  split at h
  · cases h
  · next n pc hrelay =>
      obtain ⟨hn, ⟨server, hserver, hstream⟩, hjoined, hwithin, hsuccess⟩ := hs.relay n pc hrelay
      have hsession := hs.server server hserver
      have hfilter : s.server.filter (usable n) = some server := by
        rw [hserver]
        simp [usable, hsession, hn, hstream]
      rw [hfilter] at h
      split at h
      · cases h
      · dsimp only at h
        obtain ⟨⟨pc', delivered, devices⟩, hstep, rfl⟩ := Option.map_eq_some_iff.mp h
        obtain ⟨hwithin', hdelivered, hpending⟩ := CloudPairingServer.relayStep_within hstep hwithin
        have hdone : ∀ n p, s.poll = some (n, p) → p.pc = .done := by
          intro n p hp
          by_contra halive
          obtain ⟨hnone, -⟩ := (hs.poll n p hp).2.2.2 halive
          rw [hrelay] at hnone
          cases hnone
        subst hn
        have hreported := hs.dropRelay.report delivered devices hwithin'.le
          (fun hmem => hsuccess (hdelivered _ hmem)) hdone rfl
        refine hreported.setRelay rfl pc' hdone ⟨server, hserver, hstream⟩ hjoined ?_ ?_
        · show pc'.Within ((s.log ++ delivered.map (s.sessions, ·)).countP (·.1 = s.sessions))
          rw [reports_append, if_pos rfl]
          exact hwithin'
        · intro hmem
          rcases hpending hmem with hold | hne
          · obtain ⟨device, hdevice⟩ := hsuccess hold
            exact ⟨device, List.mem_append_left _ hdevice⟩
          · obtain ⟨device, hdevice⟩ := List.exists_mem_of_ne_nil devices hne
            exact ⟨device, List.mem_append_right _ (List.mem_map_of_mem hdevice)⟩

theorem Inv.step (hs : s.Inv) {l : SessionLabel} (h : s.step env i18n sha256 l = some s') : s'.Inv := by
  cases l with
  | start b =>
      simp only [CloudSession.step] at h
      split at h
      · cases h
        exact hs.main (fun h => by cases h) (fun h => by cases h) (.inl rfl)
      · cases h
  | stop =>
      simp only [CloudSession.step] at h
      split at h
      · cases h
        exact hs.main (fun h => by cases h) (fun h => by cases h) (.inl rfl)
      · cases h
  | main => exact hs.mainStep h
  | poll answer => exact hs.pollStep h
  | relay answer => exact hs.relayStep h

/-! ## What the UI sees -/

theorem mainStep_log (h : s.mainStep sha256 = some s') : s'.log = s.log := by
  unfold CloudSession.mainStep at h
  repeat' split at h
  all_goals first
    | (cases h; done)
    | (cases h; rfl)
    | (cases h; unfold CloudSession.begin; dsimp only; split <;> rfl)

theorem connectRelay_log (s : CloudSession) (n : Nat) (info : CloudRelayInfo) :
    (s.connectRelay n info).log = s.log := by
  unfold connectRelay
  split
  · rfl
  · split
    · rfl
    · rfl

/-- What a step reports carries the number of the running session; without a server it is nothing. -/
theorem Inv.step_log (hs : s.Inv) {l : SessionLabel} (h : s.step env i18n sha256 l = some s') :
    ∃ rs : List PairingReport, s'.log = s.log ++ rs.map (s.sessions, ·) ∧
      (s.server = none → rs = []) := by
  cases l with
  | start b =>
      simp only [CloudSession.step] at h
      split at h
      · cases h
        exact ⟨[], by simp, fun _ => rfl⟩
      · cases h
  | stop =>
      simp only [CloudSession.step] at h
      split at h
      · cases h
        exact ⟨[], by simp, fun _ => rfl⟩
      · cases h
  | main => exact ⟨[], by simpa using mainStep_log h, fun _ => rfl⟩
  | poll answer =>
      simp only [CloudSession.step, CloudSession.pollStep] at h
      split at h
      · cases h
      · next n p hpoll =>
          obtain ⟨hn, hserver, -⟩ := hs.poll n p hpoll
          obtain ⟨p', -, rfl⟩ := Option.map_eq_some_iff.mp h
          split
          · exact ⟨[], by simp, fun _ => rfl⟩
          · next key hpc =>
              refine ⟨[.error (i18n key)], by rw [hn]; rfl, fun hnone => ?_⟩
              rw [hnone] at hserver
              cases hserver.1
          · exact ⟨[], by simp [connectRelay_log], fun _ => rfl⟩
          · exact ⟨[], by simp, fun _ => rfl⟩
  | relay answer =>
      simp only [CloudSession.step, CloudSession.relayStep] at h
      split at h
      · cases h
      · next n pc hrelay =>
          obtain ⟨hn, ⟨server, hserver, -⟩, -⟩ := hs.relay n pc hrelay
          split at h
          · cases h
          · split at h
            · cases h
              exact ⟨[], by simp, fun _ => rfl⟩
            · obtain ⟨⟨pc', delivered, devices⟩, -, rfl⟩ := Option.map_eq_some_iff.mp h
              refine ⟨delivered, by rw [hn], fun hnone => ?_⟩
              rw [hnone] at hserver
              cases hserver

theorem inv_reachable (h : Reachable (CloudSession.step env i18n sha256) {} s) : s.Inv :=
  h.inv (fun _ _ _ hs hstep => hs.step hstep) inv_start

/-! ## After `Stop` -/

/-- Only the beginning of a session makes a server. -/
theorem mainStep_server (h : s.mainStep sha256 = some s') :
    s.sessions ≤ s'.sessions ∧ (s.server = none → s'.sessions = s.sessions → s'.server = none) := by
  unfold CloudSession.mainStep at h
  split at h
  · cases h
  · cases h
    exact ⟨Nat.le_refl _, fun hnone _ => hnone⟩
  · split at h
    · cases h
      exact ⟨Nat.le_refl _, fun hnone _ => hnone⟩
    · split at h
      · cases h
        exact ⟨Nat.le_refl _, fun hnone _ => hnone⟩
      · cases h
  · cases h
    exact ⟨Nat.le_refl _, fun hnone _ => hnone⟩
  · split at h
    · cases h
      exact ⟨Nat.le_refl _, fun hnone _ => hnone⟩
    · next server hserver =>
        cases h
        refine ⟨Nat.le_refl _, fun hnone _ => ?_⟩
        cases hserver.symm.trans hnone
  · cases h
    exact ⟨Nat.le_refl _, fun hnone _ => hnone⟩
  · split at h
    · cases h
      exact ⟨Nat.le_refl _, fun hnone _ => hnone⟩
    · split at h
      · cases h
        exact ⟨Nat.le_refl _, fun hnone _ => hnone⟩
      · cases h
  · cases h
    exact ⟨Nat.le_refl _, fun _ _ => rfl⟩
  · cases h
    exact ⟨Nat.le_refl _, fun _ _ => rfl⟩
  · cases h
    unfold CloudSession.begin
    dsimp only
    split
    · exact ⟨Nat.le_succ _, fun _ hsame => absurd hsame (Nat.succ_ne_self _)⟩
    · exact ⟨Nat.le_refl _, fun hnone _ => hnone⟩

theorem connectRelay_server (s : CloudSession) (n : Nat) (info : CloudRelayInfo) :
    (s.connectRelay n info).sessions = s.sessions ∧
      (s.server = none → (s.connectRelay n info).server = none) := by
  unfold connectRelay
  split
  · exact ⟨rfl, id⟩
  · next server hserver =>
      split
      · exact ⟨rfl, id⟩
      · refine ⟨rfl, fun hnone => ?_⟩
        rw [hnone] at hserver
        cases hserver

theorem step_server {l : SessionLabel} (h : s.step env i18n sha256 l = some s') :
    s.sessions ≤ s'.sessions ∧ (s.server = none → s'.sessions = s.sessions → s'.server = none) := by
  cases l with
  | start b | stop =>
      simp only [CloudSession.step] at h
      split at h
      · cases h
        exact ⟨Nat.le_refl _, fun hnone _ => hnone⟩
      · cases h
  | main => exact mainStep_server h
  | poll answer =>
      simp only [CloudSession.step, CloudSession.pollStep] at h
      split at h
      · cases h
      · next n p _ =>
          obtain ⟨p', -, rfl⟩ := Option.map_eq_some_iff.mp h
          split
          · exact ⟨Nat.le_refl _, fun hnone _ => hnone⟩
          · exact ⟨Nat.le_refl _, fun hnone _ => hnone⟩
          · next info _ =>
              obtain ⟨hsame, hserver⟩ := connectRelay_server { s with poll := some (n, p') } n info
              exact ⟨hsame.ge, fun hnone _ => hserver hnone⟩
          · exact ⟨Nat.le_refl _, fun hnone _ => hnone⟩
  | relay answer =>
      simp only [CloudSession.step, CloudSession.relayStep] at h
      repeat' split at h
      · cases h
      · cases h
      · cases h
        exact ⟨Nat.le_refl _, fun hnone _ => hnone⟩
      · obtain ⟨x, -, rfl⟩ := Option.map_eq_some_iff.mp h
        exact ⟨Nat.le_refl _, fun hnone _ => hnone⟩

/-- `Stop` has returned when so many sessions had begun: until the next one there is no server, and the
log is what it was. -/
structure Quiet (sessions : Nat) (log : List (Nat × PairingReport)) (s : CloudSession) : Prop where
  inv : s.Inv
  begun : sessions ≤ s.sessions
  server : s.sessions = sessions → s.server = none
  log : s.sessions = sessions → s.log = log

theorem Quiet.step {sessions : Nat} {log : List (Nat × PairingReport)} (hs : Quiet sessions log s)
    {l : SessionLabel} (h : s.step env i18n sha256 l = some s') : Quiet sessions log s' := by
  obtain ⟨hle, hserver⟩ := step_server h
  have hbefore : s'.sessions = sessions → s.sessions = sessions := by
    intro hsame
    have := hs.begun
    omega
  refine ⟨hs.inv.step h, Nat.le_trans hs.begun hle, fun hsame => ?_, fun hsame => ?_⟩
  · exact hserver (hs.server (hbefore hsame)) (hsame.trans (hbefore hsame).symm)
  · obtain ⟨rs, hlog, hnil⟩ := hs.inv.step_log h
    rw [hlog, hnil (hs.server (hbefore hsame)), List.map_nil, List.append_nil]
    exact hs.log (hbefore hsame)

/-- The last statement of `Stop`. -/
theorem Inv.quiet (hs : s.Inv) {next : Option SessionStart} (hmain : s.main = .resetServer next)
    (h : s.step env i18n sha256 .main = some s') : Quiet s'.sessions s.log s' := by
  refine ⟨hs.step h, Nat.le_refl _, fun _ => ?_, fun _ => mainStep_log h⟩
  simp only [CloudSession.step, CloudSession.mainStep, hmain] at h
  cases next with
  | none =>
      cases h
      rfl
  | some b =>
      cases h
      rfl

/-- **The poll thread gives up for a reason.** In every session it polls 302 times at most. An error that
it is about to show says why: five minutes are over, or the last answer was an error, or five polls in a
row have not reached the server. All answers before were "pending" or failures, nowhere five of these in a
row. -/
theorem poll_gives_up (h : Reachable (CloudSession.step env i18n sha256) {} s) {n : Nat} {p : CloudPoll}
    (hp : s.poll = some (n, p)) :
    p.polls ≤ 302 ∧ ∀ key, p.pc = .callback key → GivenUp p key := by
  obtain ⟨hpaced, hreason⟩ := (inv_reachable h).machine n p hp
  refine ⟨hpaced.bound, fun key hpc => ?_⟩
  unfold CloudPoll.Reason at hreason
  rw [hpc] at hreason
  exact hreason

end CloudSession

namespace Sample

/-- The phone of `pairedPhone`, over the cloud. -/
def cloudStart : SessionStart :=
  { data := { pairingData with method := .cloud }, pollSecret := str "s", encKey := str "k" }

def cloudResponse : PacketPairResponse :=
  { pairResponse with data := { pairResponse.data with pairingMethod := .cloud } }

def cloudEnv : Env :=
  ⟨.ofTable [(initJson (str "4.0"), initText (str "4.0")),
    (cloudResponse.toJson, pairResponseText cloudResponse)], crypt⟩

/-- A poll that the server refuses. -/
def cloudRefused : List SessionLabel :=
  .start cloudStart :: List.replicate 6 .main ++
    [.poll (.time 0), .poll .go, .poll (.time 0), .poll (.time 0), .poll (.time 0),
      .poll (.result .unsupportedVersion {}), .poll .go]

end Sample

namespace CloudSession

theorem poll_gives_up_refused : ∃ p : CloudPoll, p.pc = .callback "error_protocol_mismatch" ∧
    p.polls ≤ 302 ∧ ∀ key, p.pc = .callback key → GivenUp p key := by
  have hrun : (exec (CloudSession.step Sample.cloudEnv (fun _ => []) id) {} Sample.cloudRefused).any
      (fun s => decide (s.poll.map (fun poll => poll.2.pc) =
        some (.callback "error_protocol_mismatch"))) = true := by
    decide +kernel
  obtain ⟨s, hs, hpc⟩ := exec_of_test hrun
  obtain ⟨⟨n, p⟩, hp, hpc⟩ := Option.map_eq_some_iff.mp hpc
  exact ⟨p, hpc, poll_gives_up ⟨_, hs⟩ hp⟩

end CloudSession

end PcbuDesktop
