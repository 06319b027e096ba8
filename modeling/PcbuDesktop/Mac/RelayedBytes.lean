import PcbuDesktop.Mac.BluetoothRelay

set_option autoImplicit false

/-! # What the relay passes on

Every byte that `pcbu_auth` sends behind its request line is at the phone, in the hands of the helper, or
still in the socket, in this order, as long as the helper relays; and the same holds in the other direction
behind the line `OK`. When a side fails, what is in between is lost, but nothing behind it passes. Each
direction has an invariant over the fields that it is about, so that the steps of the other direction do not
touch it.
-/

namespace PcbuDesktop

open Runs

namespace BluetoothRelay

/-! ## Rounds -/

/-- A round of `ReadLine` takes nothing or the next byte, and no byte behind the newline. -/
theorem readLineRound_spec {line : Str} {socket taken rest : Bytes} {answer : LineAnswer}
    {round : Round Str (Option Str)} (h : readLineRound line socket answer = some (round, taken, rest)) :
    socket = taken ++ rest ∧
      ((∃ line', round = .goes line' ∧ line' = line ++ taken ∧ newline ∉ taken) ∨
        (round = .returns (some line) ∧ taken = [newline]) ∨ (round = .returns none ∧ taken = [])) := by
  unfold readLineRound at h
  split at h
  · split at h
    · cases h
      exact ⟨rfl, Or.inr (Or.inr ⟨rfl, rfl⟩)⟩
    · cases h
      exact ⟨rfl, Or.inl ⟨line, rfl, (List.append_nil line).symm, List.not_mem_nil⟩⟩
    · cases h
    · next c socket =>
        split at h
        · next hc =>
            cases h
            exact ⟨rfl, Or.inr (Or.inl ⟨rfl, by rw [hc]⟩)⟩
        · next hc =>
            cases h
            refine ⟨rfl, Or.inl ⟨_, rfl, rfl, ?_⟩⟩
            rw [List.mem_singleton]
            exact fun heq => hc heq.symm
  · cases h
    exact ⟨rfl, Or.inr (Or.inr ⟨rfl, rfl⟩)⟩

/-- A round of `WriteAll` hands over the next bytes; it returns `true` when none are left. -/
theorem writeAllRound_spec {data taken : Bytes} {written : Nat} {answer : WriteAnswer}
    {round : Round Nat Bool} (h : writeAllRound data written answer = some (round, taken)) :
    (∃ written', round = .goes written' ∧ data.drop written = taken ++ data.drop written') ∨
      (round = .returns true ∧ taken = [] ∧ data.drop written = []) ∨ (round = .returns false ∧ taken = []) := by
  unfold writeAllRound at h
  split at h
  · split at h
    · cases h
      exact Or.inl ⟨written, rfl, rfl⟩
    · cases h
      exact Or.inr (Or.inr ⟨rfl, rfl⟩)
    · split at h
      · next count hcount =>
          cases h
          refine Or.inl ⟨written + count, rfl, ?_⟩
          rw [← List.drop_drop, List.take_append_drop]
      · cases h
  · next hdone =>
      cases h
      exact Or.inr (Or.inl ⟨rfl, rfl, List.drop_eq_nil_iff.mpr (Nat.le_of_not_lt hdone)⟩)

/-- `Read` returns the front of what the delegate has collected. -/
theorem rfcommRead_spec (length : Nat) (sawStop idle : Bool) (delegate : RFCOMMDelegate) :
    delegate.readBuffer = (rfcommRead length sawStop idle delegate).1.1 ++
      (rfcommRead length sawStop idle delegate).2.readBuffer := by
  unfold rfcommRead
  split
  · next hsome =>
      show delegate.readBuffer = delegate.readBuffer.take _ ++ delegate.readBuffer.drop _
      rw [List.take_append_drop]
  · split
    · rfl
    · split
      · rfl
      · split <;> rfl

/-- What reaches the phone is the front of the buffer, and all of what is reported as written. -/
theorem rfcommWriteRaw_spec (buffer : Bytes) (answer : RawAnswer) :
    (rfcommWriteRaw buffer answer).2 <+: buffer ∧
      ((rfcommWriteRaw buffer answer).1.1 ≠ 0 →
        buffer = (rfcommWriteRaw buffer answer).2 ++ buffer.drop (rfcommWriteRaw buffer answer).1.1) := by
  cases answer with
  | closed => exact ⟨List.nil_prefix, fun h => absurd rfl h⟩
  | refused => exact ⟨List.nil_prefix, fun h => absurd rfl h⟩
  | completes mtu => exact ⟨List.take_prefix _ _, fun _ => (List.take_append_drop _ _).symm⟩
  | breaks mtu reached error => exact ⟨List.take_prefix _ _, fun h => absurd rfl h⟩

/-! ## The two directions -/

/-- What the helper has taken from the socket and not yet handed to the phone. -/
def HelperPhase.held : HelperPhase → Bytes
  | .forwarding buffer written => buffer.drop written
  | _ => []

/-- The helper is behind the request, and nothing has failed to the phone yet. -/
def HelperPhase.relays : HelperPhase → Bool
  | .connecting _ _ | .refusing _ _ | .accepting _ _ | .relaying | .polling | .forwarding _ _ => true
  | .request _ | .closing | .closed => false

/-- The helper has not said `OK` yet, and still may. -/
def HelperPhase.isEarly : HelperPhase → Bool
  | .request _ | .connecting _ _ | .refusing _ _ | .accepting _ _ => true
  | .relaying | .polling | .forwarding _ _ | .closing | .closed => false

def PhoneThread.held : PhoneThread → Bytes
  | .forwarding buffer written => buffer.drop written
  | _ => []

def PhoneThread.relays : PhoneThread → Bool
  | .looping | .reading | .forwarding _ _ => true
  | .notStarted | .ended => false

/-- From `pcbu_auth` to the phone. -/
def ToPhone (request : Option Str) (helper : HelperPhase) (sent received toHelper : Bytes) : Prop :=
  (helper.isEarly = true → received = []) ∧
  match request with
  | none => received = [] ∧
      ((∃ line, helper = .request line ∧ sent = line ++ toHelper ∧ newline ∉ line) ∨ helper = .closed)
  | some line => newline ∉ line ∧ (∀ l, helper ≠ .request l) ∧
      ∃ after, sent = line ++ newline :: after ∧ received <+: after ∧
        (helper.relays = true → after = received ++ helper.held ++ toHelper)

/-- What the helper has written before the second thread is there; `written` is all that it has written. -/
def Answering (written : Bytes) : HelperPhase → Prop
  | .request _ | .connecting _ _ => written = []
  | .refusing response done => ∃ status, written ++ response.drop done = errLine status
  | .accepting response done => written ++ response.drop done = okLine
  | .closed => written <+: okLine ∨ ∃ status, written <+: errLine status
  | .relaying | .polling | .forwarding _ _ | .closing => False

/-- From the phone to `pcbu_auth`. -/
def ToAuth (thread : PhoneThread) (helper : HelperPhase) (written phoneRead : Bytes) : Prop :=
  (thread ≠ .notStarted → helper.isEarly = false) ∧
  match thread with
  | .notStarted => phoneRead = [] ∧ Answering written helper
  | .ended => written <+: okLine ++ phoneRead
  | thread => written ++ thread.held = okLine ++ phoneRead

/-- What `pcbu_auth` has read. -/
def AtAuth (auth : AuthPhase) (authRead authData : Bytes) : Prop :=
  match auth with
  | .request _ _ => authRead = [] ∧ authData = []
  | .response line => authRead = line ∧ authData = []
  | .connected => authRead = okLine ++ authData
  | .failed _ => True

structure Inv (s : Relay) : Prop where
  toPhone : ToPhone s.request s.helper s.authSent s.phoneReceived s.toHelper
  toAuth : ToAuth s.phoneThread s.helper (s.authRead ++ s.toAuth) s.phoneRead
  atAuth : AtAuth s.auth s.authRead s.authData
  collected : s.phoneRead ++ s.delegate.readBuffer = s.phoneSent

theorem inv_start (request : Bytes) : Inv (start request) where
  toPhone := ⟨fun _ => rfl, rfl, Or.inl ⟨[], rfl, rfl, List.not_mem_nil⟩⟩
  toAuth := ⟨fun h => absurd rfl h, rfl, rfl⟩
  atAuth := ⟨rfl, rfl⟩
  collected := rfl

section

variable {request : Option Str} {helper : HelperPhase} {thread : PhoneThread}
  {sent received toHelper written phoneRead taken : Bytes}

/-- `pcbu_auth` sends more. -/
theorem ToPhone.sends (h : ToPhone request helper sent received toHelper) (data : Bytes) :
    ToPhone request helper (sent ++ data) received (toHelper ++ data) := by
  refine ⟨h.1, ?_⟩
  cases request with
  | none =>
      obtain ⟨-, hnone, hcase⟩ := h
      refine ⟨hnone, ?_⟩
      rcases hcase with ⟨line, hline, hsent, hfree⟩ | hclosed
      · exact Or.inl ⟨line, hline, by rw [hsent, List.append_assoc], hfree⟩
      · exact Or.inr hclosed
  | some line =>
      obtain ⟨-, hfree, hnot, after, hsent, hpre, hall⟩ := h
      refine ⟨hfree, hnot, after ++ data, ?_, hpre.trans (List.prefix_append after data), ?_⟩
      · rw [hsent, List.append_assoc]
        rfl
      · intro hrelays
        rw [hall hrelays, List.append_assoc]

/-- While the helper reads the request, it has not read anything else. -/
theorem ToPhone.asked {line : Str} (h : ToPhone request (.request line) sent received toHelper) :
    request = none ∧ received = [] ∧ sent = line ++ toHelper ∧ newline ∉ line := by
  cases request with
  | none =>
      obtain ⟨-, hreceived, ⟨line', hline, hsent, hfree⟩ | hclosed⟩ := h
      · cases hline
        exact ⟨rfl, hreceived, hsent, hfree⟩
      · cases hclosed
  | some l => exact absurd rfl (h.2.2.1 line)

/-- The helper moves on, and the bytes stay in their order. -/
theorem ToPhone.moves {reached toHelper' : Bytes} (h : ToPhone request helper sent received toHelper)
    (helper' : HelperPhase) (hrelays : helper.relays = true)
    (hnot : ∀ l, helper' ≠ .request l) (hearly : helper'.isEarly = true → helper.isEarly = true ∧ reached = [])
    (hpre : reached <+: helper.held ++ toHelper)
    (hall : helper'.relays = true → helper.held ++ toHelper = reached ++ helper'.held ++ toHelper') :
    ToPhone request helper' sent (received ++ reached) toHelper' := by
  constructor
  · intro hearly'
    obtain ⟨h₁, h₂⟩ := hearly hearly'
    rw [h.1 h₁, h₂]
    rfl
  · cases request with
    | none =>
        -- the helper has not read a line
        obtain ⟨-, -, ⟨line, hline, -⟩ | hclosed⟩ := h
        · rw [hline] at hrelays
          cases hrelays
        · rw [hclosed] at hrelays
          cases hrelays
    | some line =>
        obtain ⟨-, hfree, -, after, hsent, -, hafter⟩ := h
        have hafter := hafter hrelays
        rw [List.append_assoc] at hafter
        refine ⟨hfree, hnot, after, hsent, ?_, ?_⟩
        · rw [hafter]
          exact (List.prefix_append_right_inj received).mpr hpre
        · intro hrelays'
          rw [hafter, hall hrelays']
          simp only [List.append_assoc]

/-- The helper moves on, and nothing new is at the phone. -/
theorem ToPhone.turns {toHelper' : Bytes} (h : ToPhone request helper sent received toHelper)
    (helper' : HelperPhase) (hrelays : helper.relays = true) (hnot : ∀ l, helper' ≠ .request l)
    (hearly : helper'.isEarly = true → helper.isEarly = true)
    (hall : helper'.relays = true → helper.held ++ toHelper = helper'.held ++ toHelper') :
    ToPhone request helper' sent received toHelper' := by
  have hmoved := h.moves helper' hrelays hnot (fun he => ⟨hearly he, rfl⟩) List.nil_prefix hall
  rwa [List.append_nil] at hmoved

/-- The helper gives up. -/
theorem ToPhone.stops {helper' : HelperPhase} (h : ToPhone request helper sent received toHelper)
    (hrelays : helper.relays = true) (hstop : helper' = .closing ∨ helper' = .closed) :
    ToPhone request helper' sent received toHelper := by
  refine h.turns helper' hrelays ?_ ?_ ?_
  · rcases hstop with rfl | rfl <;> exact nofun
  · rcases hstop with rfl | rfl <;> exact nofun
  · rcases hstop with rfl | rfl <;> exact nofun

/-- A helper that does not relay any more is only closed. -/
theorem ToPhone.closes (h : ToPhone request .closing sent received toHelper) :
    ToPhone request .closed sent received toHelper := by
  refine ⟨nofun, ?_⟩
  cases request with
  | none => exact ⟨h.2.1, Or.inr rfl⟩
  | some line =>
      obtain ⟨-, hfree, -, after, hsent, hpre, -⟩ := h
      exact ⟨hfree, nofun, after, hsent, hpre, nofun⟩

theorem toAuth_iff (hrelays : thread.relays = true) :
    ToAuth thread helper written phoneRead ↔
      helper.isEarly = false ∧ written ++ thread.held = okLine ++ phoneRead := by
  cases thread with
  | notStarted => cases hrelays
  | ended => cases hrelays
  | looping => exact ⟨fun h => ⟨h.1 nofun, h.2⟩, fun h => ⟨fun _ => h.1, h.2⟩⟩
  | reading => exact ⟨fun h => ⟨h.1 nofun, h.2⟩, fun h => ⟨fun _ => h.1, h.2⟩⟩
  | forwarding buffer done => exact ⟨fun h => ⟨h.1 nofun, h.2⟩, fun h => ⟨fun _ => h.1, h.2⟩⟩

/-- The second thread moves on, and the bytes stay in their order. -/
theorem ToAuth.moves {got : Bytes} (h : ToAuth thread helper written phoneRead) (thread' : PhoneThread)
    (hrelays : thread.relays = true) (hrelays' : thread'.relays = true)
    (heq : thread.held ++ got = taken ++ thread'.held) :
    ToAuth thread' helper (written ++ taken) (phoneRead ++ got) := by
  rw [toAuth_iff hrelays] at h
  rw [toAuth_iff hrelays']
  refine ⟨h.1, ?_⟩
  rw [List.append_assoc, ← heq, ← List.append_assoc, h.2, List.append_assoc]

/-- The second thread moves on and holds what it has held. -/
theorem ToAuth.idles (h : ToAuth thread helper written phoneRead) (thread' : PhoneThread)
    (hrelays : thread.relays = true) (hrelays' : thread'.relays = true) (hheld : thread.held = thread'.held) :
    ToAuth thread' helper written phoneRead := by
  rw [toAuth_iff hrelays] at h
  rw [toAuth_iff hrelays', ← hheld]
  exact h

/-- The second thread gives up. -/
theorem ToAuth.ends (h : ToAuth thread helper written phoneRead) (hrelays : thread.relays = true) :
    ToAuth .ended helper written phoneRead := by
  rw [toAuth_iff hrelays] at h
  exact ⟨fun _ => h.1, ⟨thread.held, h.2⟩⟩

/-- What the first thread does is nothing to the second one. -/
theorem ToAuth.beside {helper' : HelperPhase} (h : ToAuth thread helper written phoneRead)
    (hlate : helper.isEarly = false) (hopen : helper ≠ .closed) (hlate' : helper'.isEarly = false) :
    ToAuth thread helper' written phoneRead := by
  refine ⟨fun _ => hlate', ?_⟩
  cases thread with
  | notStarted =>
      -- the second thread is there since the helper has said `OK`
      obtain ⟨-, -, hanswer⟩ := h
      cases helper with
      | request line => cases hlate
      | connecting address timeoutSecs => cases hlate
      | refusing response done => cases hlate
      | accepting response done => cases hlate
      | closed => exact absurd rfl hopen
      | relaying => exact hanswer.elim
      | polling => exact hanswer.elim
      | forwarding buffer done => exact hanswer.elim
      | closing => exact hanswer.elim
  | looping => exact h.2
  | reading => exact h.2
  | forwarding buffer done => exact h.2
  | ended => exact h.2

/-- Before the answer there is no second thread. -/
theorem ToAuth.early (h : ToAuth thread helper written phoneRead) (hearly : helper.isEarly = true) :
    thread = .notStarted ∧ phoneRead = [] ∧ Answering written helper := by
  have hthread : thread = .notStarted := by
    by_contra hne
    rw [h.1 hne] at hearly
    cases hearly
  subst hthread
  exact ⟨rfl, h.2⟩

theorem toAuth_of_answering {helper' : HelperPhase} (hanswer : Answering written helper') :
    ToAuth .notStarted helper' written [] :=
  ⟨fun h => absurd rfl h, rfl, hanswer⟩

end

/-! ## The steps -/

section

variable {s s' : Relay}

/-! ### The side of `pcbu_auth` -/

theorem inv_authWrites {answer : WriteAnswer} (h : Inv s) (hstep : authStep s (.writes answer) = some s') :
    Inv s' := by
  unfold authStep at hstep
  dsimp only at hstep
  split at hstep
  · next data written hauth =>
      obtain ⟨⟨round, taken⟩, -, rfl⟩ := Option.map_eq_some_iff.mp hstep
      refine ⟨h.toPhone.sends taken, h.toAuth, ?_, h.collected⟩
      have hat := h.atAuth
      rw [hauth] at hat
      cases round with
      | goes written' => exact hat
      | returns ok =>
          cases ok with
          | true => exact hat
          | false => exact trivial
  · cases hstep

/-- `pcbu_auth` reads the answer of the helper. -/
theorem inv_authLine {answer : LineAnswer} (h : Inv s) (hstep : authStep s (.line answer) = some s') :
    Inv s' := by
  unfold authStep at hstep
  dsimp only at hstep
  split at hstep
  · next line hauth =>
      obtain ⟨⟨round, taken, rest⟩, hround, rfl⟩ := Option.map_eq_some_iff.mp hstep
      obtain ⟨hsocket, hcase⟩ := readLineRound_spec hround
      have htoAuth := h.toAuth
      rw [hsocket, ← List.append_assoc] at htoAuth
      refine ⟨h.toPhone, htoAuth, ?_, h.collected⟩
      have hat := h.atAuth
      rw [hauth] at hat
      rcases hcase with ⟨line', rfl, rfl, -⟩ | ⟨rfl, rfl⟩ | ⟨rfl, rfl⟩
      · exact ⟨by rw [hat.1], hat.2⟩
      · dsimp only
        unfold response
        dsimp only
        split
        · next hok =>
            show s.authRead ++ [newline] = okLine ++ s.authData
            rw [hat.1, hat.2, hok]
            decide
        · split <;> exact trivial
      · exact trivial
  · cases hstep

theorem inv_authSends {data : Bytes} (h : Inv s) (hstep : authStep s (.sends data) = some s') : Inv s' := by
  unfold authStep at hstep
  dsimp only at hstep
  split at hstep
  · cases hstep
    exact ⟨h.toPhone.sends data, h.toAuth, h.atAuth, h.collected⟩
  · cases hstep

theorem inv_authReceives {count : Nat} (h : Inv s) (hstep : authStep s (.receives count) = some s') :
    Inv s' := by
  unfold authStep at hstep
  dsimp only at hstep
  split at hstep
  · next hauth =>
      split at hstep
      · cases hstep
        refine ⟨h.toPhone, ?_, ?_, h.collected⟩
        · dsimp only
          rw [List.append_assoc, List.take_append_drop]
          exact h.toAuth
        · have hat := h.atAuth
          rw [hauth] at hat
          dsimp only
          rw [hauth]
          show _ = okLine ++ (s.authData ++ _)
          rw [hat, List.append_assoc]
      · cases hstep
  · cases hstep

theorem parseRequest_cases (request : Option Str) :
    (∃ line address timeoutSecs, request = some line ∧
      parseRequest request = .connecting address timeoutSecs) ∨ parseRequest request = .closed := by
  unfold parseRequest
  split
  · exact Or.inr rfl
  · next line =>
      split
      · next command address timeout hsplit =>
          split
          · split
            · next timeoutSecs hstoul => exact Or.inl ⟨line, address, _, rfl, rfl⟩
            · exact Or.inr rfl
          · exact Or.inr rfl
      · exact Or.inr rfl

/-! ### The first thread of the helper -/

/-- The helper reads the request line. -/
theorem inv_line {answer : LineAnswer} (h : Inv s) (hstep : helperStep s (.line answer) = some s') :
    Inv s' := by
  unfold helperStep at hstep
  dsimp only at hstep
  split at hstep
  · next line hhelper =>
      obtain ⟨⟨round, taken, rest⟩, hround, rfl⟩ := Option.map_eq_some_iff.mp hstep
      obtain ⟨hsocket, hcase⟩ := readLineRound_spec hround
      have htoPhone := h.toPhone
      have htoAuth := h.toAuth
      rw [hhelper] at htoPhone htoAuth
      obtain ⟨hnone, hreceived, hsent, hfree⟩ := htoPhone.asked
      obtain ⟨hthread, hread, hwritten⟩ := htoAuth.early rfl
      have hanswer : ∀ helper', helper' = .closed ∨
          (∃ l, helper' = .request l) ∨ (∃ a t, helper' = .connecting a t) →
          ToAuth s.phoneThread helper' (s.authRead ++ s.toAuth) s.phoneRead := by
        intro helper' hhelper'
        rw [hthread, hread]
        refine toAuth_of_answering ?_
        rcases hhelper' with rfl | ⟨l, rfl⟩ | ⟨a, t, rfl⟩
        · refine Or.inl ?_
          rw [show s.authRead ++ s.toAuth = [] from hwritten]
          exact List.nil_prefix
        · exact hwritten
        · exact hwritten
      rw [hsocket] at hsent
      rcases hcase with ⟨line', rfl, rfl, hno⟩ | ⟨rfl, rfl⟩ | ⟨rfl, rfl⟩
      · refine ⟨⟨fun _ => hreceived, ?_⟩, hanswer _ (Or.inr (Or.inl ⟨_, rfl⟩)), h.atAuth, h.collected⟩
        dsimp only
        rw [hnone]
        refine ⟨hreceived, Or.inl ⟨line ++ taken, rfl, ?_, ?_⟩⟩
        · rw [hsent, List.append_assoc]
        · rw [List.mem_append]
          exact fun hmem => hmem.elim hfree hno
      · -- the line is complete, and what follows it is still in the socket
        have hafter : s.authSent = line ++ newline :: rest := hsent
        dsimp only
        rcases parseRequest_cases (some line) with ⟨l, address, timeoutSecs, -, hparse⟩ | hparse
        · rw [hparse]
          refine ⟨⟨fun _ => hreceived, hfree, nofun, rest, hafter, ?_, fun _ => ?_⟩,
            hanswer _ (Or.inr (Or.inr ⟨address, timeoutSecs, rfl⟩)), h.atAuth, h.collected⟩
          · rw [hreceived]
            exact List.nil_prefix
          · rw [hreceived]
            rfl
        · rw [hparse]
          refine ⟨⟨nofun, hfree, nofun, rest, hafter, ?_, nofun⟩, hanswer _ (Or.inl rfl), h.atAuth,
            h.collected⟩
          rw [hreceived]
          exact List.nil_prefix
      · exact ⟨⟨nofun, hreceived, Or.inr rfl⟩, hanswer _ (Or.inl rfl), h.atAuth, h.collected⟩
  · cases hstep

/-- The helper has connected, or not. -/
theorem inv_connects {status : Int} (h : Inv s) (hstep : helperStep s (.connects status) = some s') :
    Inv s' := by
  unfold helperStep at hstep
  dsimp only at hstep
  split at hstep
  · next address timeoutSecs hhelper =>
      cases hstep
      have htoPhone := h.toPhone
      have htoAuth := h.toAuth
      rw [hhelper] at htoPhone htoAuth
      obtain ⟨hthread, hread, hwritten⟩ := htoAuth.early rfl
      have hnothing : s.authRead ++ s.toAuth = [] := hwritten
      constructor
      · dsimp only
        split
        · exact htoPhone.turns _ rfl nofun (fun _ => rfl) (fun _ => rfl)
        · exact htoPhone.turns _ rfl nofun (fun _ => rfl) (fun _ => rfl)
      · dsimp only
        rw [hthread, hread]
        refine toAuth_of_answering ?_
        rw [hnothing]
        split
        · exact ⟨status, rfl⟩
        · exact rfl
      · exact h.atAuth
      · exact h.collected
  · cases hstep

/-- The helper writes that it has no connection. -/
theorem inv_refuses {response : Str} {done : Nat} {answer : WriteAnswer}
    (hhelper : s.helper = .refusing response done) (h : Inv s)
    (hstep : helperStep s (.writes answer) = some s') : Inv s' := by
  unfold helperStep at hstep
  rw [hhelper] at hstep
  obtain ⟨⟨round, taken⟩, hround, rfl⟩ := Option.map_eq_some_iff.mp hstep
  have htoPhone := h.toPhone
  have htoAuth := h.toAuth
  rw [hhelper] at htoPhone htoAuth
  obtain ⟨hthread, hread, status, hstatus⟩ := htoAuth.early rfl
  dsimp only
  rcases writeAllRound_spec hround with ⟨done', rfl, hmore⟩ | hdone
  · refine ⟨htoPhone.turns _ rfl nofun (fun _ => rfl) (fun _ => rfl), ?_, h.atAuth, h.collected⟩
    dsimp only
    rw [hthread, hread]
    refine toAuth_of_answering ⟨status, ?_⟩
    rw [← hstatus, hmore]
    simp only [List.append_assoc]
  · have htaken : taken = [] := hdone.elim (fun hd => hd.2.1) (fun hd => hd.2)
    have hclosed : ∃ ok, round = .returns ok := hdone.elim (fun hd => ⟨_, hd.1⟩) (fun hd => ⟨_, hd.1⟩)
    obtain ⟨ok, rfl⟩ := hclosed
    refine ⟨htoPhone.stops rfl (Or.inr rfl), ?_, h.atAuth, h.collected⟩
    dsimp only
    rw [hthread, hread, htaken, List.append_nil]
    refine toAuth_of_answering (Or.inr ⟨status, ?_⟩)
    exact ⟨response.drop done, hstatus⟩

/-- The helper writes `OK`, and starts the second thread. -/
theorem inv_accepts {response : Str} {done : Nat} {answer : WriteAnswer}
    (hhelper : s.helper = .accepting response done) (h : Inv s)
    (hstep : helperStep s (.writes answer) = some s') : Inv s' := by
  unfold helperStep at hstep
  rw [hhelper] at hstep
  obtain ⟨⟨round, taken⟩, hround, rfl⟩ := Option.map_eq_some_iff.mp hstep
  have htoPhone := h.toPhone
  have htoAuth := h.toAuth
  rw [hhelper] at htoPhone htoAuth
  obtain ⟨hthread, hread, hok⟩ := htoAuth.early rfl
  have hok : s.authRead ++ s.toAuth ++ response.drop done = okLine := hok
  dsimp only
  rcases writeAllRound_spec hround with ⟨done', rfl, hmore⟩ | ⟨rfl, -, hdrop⟩ | ⟨rfl, -⟩
  · refine ⟨htoPhone.turns _ rfl nofun (fun _ => rfl) (fun _ => rfl), ?_, h.atAuth, h.collected⟩
    dsimp only
    rw [hthread, hread]
    refine toAuth_of_answering ?_
    show s.authRead ++ (s.toAuth ++ taken) ++ response.drop done' = okLine
    rw [← hok, hmore]
    simp only [List.append_assoc]
  · refine ⟨htoPhone.turns .relaying rfl nofun nofun (fun _ => rfl), ?_, h.atAuth, h.collected⟩
    refine ⟨fun _ => rfl, ?_⟩
    show s.authRead ++ s.toAuth ++ [] = okLine ++ s.phoneRead
    rw [hdrop] at hok
    rw [hok, hread, List.append_nil]
  · refine ⟨htoPhone.stops rfl (Or.inr rfl), ?_, h.atAuth, h.collected⟩
    dsimp only
    rw [hthread, hread]
    exact toAuth_of_answering (Or.inl ⟨response.drop done, hok⟩)

/-- The helper writes its answer. -/
theorem inv_writes {answer : WriteAnswer} (h : Inv s) (hstep : helperStep s (.writes answer) = some s') :
    Inv s' := by
  have hwrites := hstep
  unfold helperStep at hwrites
  dsimp only at hwrites
  split at hwrites
  · next hhelper => exact inv_refuses hhelper h hstep
  · next hhelper => exact inv_accepts hhelper h hstep
  · cases hwrites

/-- The helper goes on to another place of its loop, and takes or holds nothing new. -/
theorem Inv.goesTo (h : Inv s) {helper : HelperPhase} {isRunning : Bool} (hrelays : s.helper.relays = true)
    (hlate : s.helper.isEarly = false) (hhelper : helper = .relaying ∨ helper = .polling ∨ helper = .closing)
    (hheld : s.helper.held = []) : Inv { s with helper := helper, isRunning := isRunning } := by
  have hopen : s.helper ≠ .closed := by
    intro hclosed
    rw [hclosed] at hrelays
    cases hrelays
  refine ⟨?_, ?_, h.atAuth, h.collected⟩
  · rcases hhelper with rfl | rfl | rfl
    · exact h.toPhone.turns .relaying hrelays nofun nofun (fun _ => by rw [hheld]; rfl)
    · exact h.toPhone.turns .polling hrelays nofun nofun (fun _ => by rw [hheld]; rfl)
    · exact h.toPhone.stops hrelays (Or.inl rfl)
  · refine h.toAuth.beside hlate hopen ?_
    rcases hhelper with rfl | rfl | rfl <;> rfl

theorem inv_checks (h : Inv s) (hstep : helperStep s .checks = some s') : Inv s' := by
  unfold helperStep at hstep
  dsimp only at hstep
  split at hstep
  · next hhelper =>
      cases hstep
      refine h.goesTo (by rw [hhelper]; rfl) (by rw [hhelper]; rfl) ?_ (by rw [hhelper]; rfl)
      split
      · exact Or.inr (Or.inl rfl)
      · exact Or.inr (Or.inr rfl)
  · cases hstep

theorem inv_polls {answer : PollAnswer} (h : Inv s) (hstep : helperStep s (.polls answer) = some s') :
    Inv s' := by
  unfold helperStep at hstep
  dsimp only at hstep
  split at hstep
  · next hhelper =>
      cases hstep
      exact h.goesTo (by rw [hhelper]; rfl) (by rw [hhelper]; rfl) (Or.inl rfl) (by rw [hhelper]; rfl)
  · next hhelper =>
      cases hstep
      exact h.goesTo (by rw [hhelper]; rfl) (by rw [hhelper]; rfl) (Or.inr (Or.inr rfl))
        (by rw [hhelper]; rfl)
  · next count hhelper =>
      split at hstep
      · cases hstep
        have htoPhone := h.toPhone
        have htoAuth := h.toAuth
        rw [hhelper] at htoPhone htoAuth
        refine ⟨?_, htoAuth.beside rfl nofun rfl, h.atAuth, h.collected⟩
        -- what is taken from the socket is held
        exact htoPhone.turns (.forwarding (s.toHelper.take count) 0) rfl nofun nofun
          (fun _ => (List.take_append_drop count s.toHelper).symm)
      · cases hstep
  · cases hstep

/-- A write to the phone, whole, in part, or with an error. -/
theorem inv_forwards {answer : RawAnswer} (h : Inv s) (hstep : helperStep s (.forwards answer) = some s') :
    Inv s' := by
  unfold helperStep at hstep
  dsimp only at hstep
  split at hstep
  · next buffer done hhelper =>
      have htoPhone := h.toPhone
      have htoAuth := h.toAuth
      rw [hhelper] at htoPhone htoAuth
      obtain ⟨hreached, hwritten⟩ := rfcommWriteRaw_spec (buffer.drop done) answer
      have hpre : (rfcommWriteRaw (buffer.drop done) answer).2 <+:
          (HelperPhase.forwarding buffer done).held ++ s.toHelper :=
        hreached.trans (List.prefix_append _ _)
      split at hstep
      · split at hstep
        · cases hstep
          exact ⟨htoPhone.moves .closing rfl nofun nofun hpre nofun, htoAuth.beside rfl nofun rfl, h.atAuth,
            h.collected⟩
        · next hsome =>
            cases hstep
            refine ⟨htoPhone.moves _ rfl nofun nofun hpre (fun _ => ?_), htoAuth.beside rfl nofun rfl,
              h.atAuth, h.collected⟩
            have hsplit := hwritten hsome
            rw [List.drop_drop] at hsplit
            exact congrArg (· ++ s.toHelper) hsplit
      · next hdone =>
          cases hstep
          refine h.goesTo (by rw [hhelper]; rfl) (by rw [hhelper]; rfl) (Or.inl rfl) ?_
          rw [hhelper]
          exact List.drop_eq_nil_iff.mpr (Nat.le_of_not_lt hdone)
  · cases hstep

theorem inv_joins (h : Inv s) (hstep : helperStep s .joins = some s') : Inv s' := by
  unfold helperStep at hstep
  dsimp only at hstep
  split at hstep
  · next hhelper hthread =>
      cases hstep
      have htoPhone := h.toPhone
      have htoAuth := h.toAuth
      rw [hhelper] at htoPhone
      rw [hthread] at htoAuth
      refine ⟨htoPhone.closes, ?_, h.atAuth, h.collected⟩
      dsimp only
      rw [hthread]
      exact ⟨fun _ => rfl, htoAuth.2⟩
  · cases hstep

/-! ### The second thread -/

theorem inv_threadChecks (h : Inv s) (hstep : threadStep s .checks = some s') : Inv s' := by
  unfold threadStep at hstep
  dsimp only at hstep
  split at hstep
  · next hthread =>
      cases hstep
      have htoAuth := h.toAuth
      rw [hthread] at htoAuth
      refine ⟨h.toPhone, ?_, h.atAuth, h.collected⟩
      dsimp only
      split
      · exact htoAuth.idles .reading rfl rfl rfl
      · exact htoAuth.ends rfl
  · cases hstep

/-- A read of the second thread that brings nothing: it goes on, or ends. -/
theorem Inv.readsNothing (h : Inv s) {thread : PhoneThread} (hthread : s.phoneThread = .reading)
    (hnext : thread = .looping ∨ thread = .ended) {delegate : RFCOMMDelegate} {isRunning : Bool}
    (hsame : delegate.readBuffer = s.delegate.readBuffer) :
    Inv { s with phoneRead := s.phoneRead ++ [], delegate, phoneThread := thread, isRunning } := by
  have htoAuth := h.toAuth
  rw [hthread] at htoAuth
  refine ⟨h.toPhone, ?_, h.atAuth, ?_⟩
  · dsimp only
    rw [List.append_nil]
    rcases hnext with rfl | rfl
    · exact htoAuth.idles .looping rfl rfl rfl
    · exact htoAuth.ends rfl
  · dsimp only
    rw [List.append_nil, hsame]
    exact h.collected

theorem inv_threadReads {sawStop idle : Bool} (h : Inv s)
    (hstep : threadStep s (.reads sawStop idle) = some s') : Inv s' := by
  unfold threadStep at hstep
  dsimp only at hstep
  split at hstep
  · next hthread =>
      split at hstep
      · cases hstep
      · have hread := rfcommRead_spec RELAY_BUFFER_SIZE sawStop idle s.delegate
        split at hstep
        · cases hstep
          have htoAuth := h.toAuth
          rw [hthread] at htoAuth
          refine ⟨h.toPhone, ?_, h.atAuth, ?_⟩
          · -- what is read is held
            have hheld : PhoneThread.reading.held ++
                (rfcommRead RELAY_BUFFER_SIZE sawStop idle s.delegate).1.1 = [] ++
                  (PhoneThread.forwarding (rfcommRead RELAY_BUFFER_SIZE sawStop idle s.delegate).1.1 0).held :=
              rfl
            have hmoved := htoAuth.moves _ rfl rfl hheld
            rwa [List.append_nil] at hmoved
          · dsimp only
            rw [List.append_assoc, ← hread]
            exact h.collected
        · next hnothing =>
            rw [ne_eq, not_not] at hnothing
            rw [hnothing, List.nil_append] at hread
            split at hstep
            · cases hstep
              rw [hnothing]
              exact h.readsNothing hthread (Or.inr rfl) hread.symm
            · cases hstep
              rw [hnothing]
              exact h.readsNothing hthread (Or.inl rfl) hread.symm
  · cases hstep

theorem inv_threadWrites {answer : WriteAnswer} (h : Inv s) (hstep : threadStep s (.writes answer) = some s') :
    Inv s' := by
  unfold threadStep at hstep
  dsimp only at hstep
  split at hstep
  · next buffer done hthread =>
      have htoAuth := h.toAuth
      rw [hthread] at htoAuth
      obtain ⟨⟨round, taken⟩, hround, rfl⟩ := Option.map_eq_some_iff.mp hstep
      dsimp only
      rcases writeAllRound_spec hround with ⟨done', rfl, hmore⟩ | ⟨rfl, -, hdrop⟩ | ⟨rfl, -⟩
      · refine ⟨h.toPhone, ?_, h.atAuth, h.collected⟩
        have hmoved := htoAuth.moves (.forwarding buffer done') rfl rfl
          ((List.append_nil _).trans hmore)
        rw [List.append_nil, List.append_assoc] at hmoved
        exact hmoved
      · exact ⟨h.toPhone, htoAuth.idles .looping rfl rfl hdrop, h.atAuth, h.collected⟩
      · exact ⟨h.toPhone, htoAuth.ends rfl, h.atAuth, h.collected⟩
  · cases hstep

theorem inv_step {event : Event} (h : Inv s) (hstep : step s event = some s') : Inv s' := by
  cases event with
  | auth event =>
      cases event with
      | writes answer => exact inv_authWrites h hstep
      | line answer => exact inv_authLine h hstep
      | sends data => exact inv_authSends h hstep
      | receives count => exact inv_authReceives h hstep
  | helper event =>
      cases event with
      | line answer => exact inv_line h hstep
      | connects status => exact inv_connects h hstep
      | writes answer => exact inv_writes h hstep
      | checks => exact inv_checks h hstep
      | polls answer => exact inv_polls h hstep
      | forwards answer => exact inv_forwards h hstep
      | joins => exact inv_joins h hstep
  | thread event =>
      cases event with
      | checks => exact inv_threadChecks h hstep
      | reads sawStop idle => exact inv_threadReads h hstep
      | writes answer => exact inv_threadWrites h hstep
  | phoneSends data =>
      cases hstep
      refine ⟨h.toPhone, h.toAuth, h.atAuth, ?_⟩
      dsimp only
      rw [← List.append_assoc, h.collected]
  | phoneCloses =>
      cases hstep
      exact ⟨h.toPhone, h.toAuth, h.atAuth, h.collected⟩

end

/-! ## Runs -/

/-- No other answer begins with `OK`. -/
theorem ok_ne_err {status : Int} {more : Bytes} : okLine ++ more ≠ errLine status := by
  intro heq
  have hhead := congrArg List.head? heq
  cases hhead

/-- Once `pcbu_auth` has read `OK`, nothing else has been written before the second thread starts. -/
theorem Answering.nothing {helper : HelperPhase} {data : Bytes} (h : Answering (okLine ++ data) helper) :
    data = [] := by
  have hnil : okLine ++ data <+: okLine → data = [] := by
    intro hpre
    have hpre' : okLine ++ data <+: okLine ++ [] := by rwa [List.append_nil]
    exact List.prefix_nil.mp ((List.prefix_append_right_inj okLine).mp hpre')
  cases helper with
  | request line => cases h
  | connecting address timeoutSecs => cases h
  | refusing response done =>
      obtain ⟨status, hstatus⟩ := h
      rw [List.append_assoc] at hstatus
      exact absurd hstatus ok_ne_err
  | accepting response done => exact hnil ⟨_, h⟩
  | closed =>
      rcases h with hok | ⟨status, more, hstatus⟩
      · exact hnil hok
      · rw [List.append_assoc] at hstatus
        exact absurd hstatus ok_ne_err
  | relaying => exact h.elim
  | polling => exact h.elim
  | forwarding buffer done => exact h.elim
  | closing => exact h.elim

/-- What was written behind `OK` are the first bytes that were read from the phone. -/
theorem ToAuth.data_prefix {thread : PhoneThread} {helper : HelperPhase} {data phoneRead : Bytes}
    (h : ToAuth thread helper (okLine ++ data) phoneRead) : data <+: phoneRead := by
  by_cases hrelays : thread.relays = true
  · have hall := ((toAuth_iff hrelays).mp h).2
    rw [List.append_assoc] at hall
    exact ⟨thread.held, List.append_cancel_left hall⟩
  · cases thread with
    | notStarted =>
        rw [Answering.nothing h.2.2]
        exact List.nil_prefix
    | ended => exact (List.prefix_append_right_inj okLine).mp h.2
    | looping => exact absurd rfl hrelays
    | reading => exact absurd rfl hrelays
    | forwarding buffer done => exact absurd rfl hrelays

/-- What `pcbu_auth` has read behind `OK` has come from the phone. -/
theorem Inv.authData_prefix {s : Relay} (h : Inv s) (hauth : s.auth = .connected) :
    s.authRead = okLine ++ s.authData ∧ s.authData <+: s.phoneRead ∧
      (s.phoneThread.relays = true → s.phoneRead = s.authData ++ s.toAuth ++ s.phoneThread.held) := by
  have hat := h.atAuth
  rw [hauth] at hat
  have hread : s.authRead = okLine ++ s.authData := hat
  have htoAuth := h.toAuth
  rw [hread, List.append_assoc] at htoAuth
  refine ⟨hread, (List.prefix_append _ _).trans htoAuth.data_prefix, fun hrelays => ?_⟩
  have hall := ((toAuth_iff hrelays).mp htoAuth).2
  rw [List.append_assoc] at hall
  exact (List.append_cancel_left hall).symm

/-- **The helper relays bytes unchanged.** In every run, whatever the request, and however reads, writes
and failures of both sides and both threads are mixed:

what has reached the phone are the first bytes that `pcbu_auth` has sent behind its request line, and as
long as the helper relays the others are with the helper or in the socket, in their order;

what `pcbu_auth` has read behind `OK` are the first bytes that were read from the phone, and as long as the
second thread relays the others are in the socket or with the helper;

and neither line takes a byte behind its newline: when the helper has its line, the next byte is the first
in the socket, and all that `pcbu_auth` has read before its data is `OK` and the newline. -/
theorem relay_transparent (request : Bytes) (events : List Event) (s : Relay)
    (h : exec step (start request) events = some s) :
    (s.request = none → s.phoneReceived = []) ∧
    (∀ line, s.request = some line → newline ∉ line ∧
      ∃ after, s.authSent = line ++ newline :: after ∧ s.phoneReceived <+: after ∧
        (s.helper.relays = true → after = s.phoneReceived ++ s.helper.held ++ s.toHelper) ∧
        ((∃ address timeoutSecs, s.helper = .connecting address timeoutSecs) → after = s.toHelper)) ∧
    (s.auth = .connected → s.authRead = okLine ++ s.authData ∧ s.authData <+: s.phoneRead ∧
      (s.phoneThread.relays = true → s.phoneRead = s.authData ++ s.toAuth ++ s.phoneThread.held)) ∧
    s.phoneRead ++ s.delegate.readBuffer = s.phoneSent := by
  have hinv : Inv s := exec_inv (fun _ _ _ hi hs => inv_step hi hs) (inv_start request) h
  refine ⟨?_, ?_, hinv.authData_prefix, hinv.collected⟩
  · intro hnone
    have htoPhone := hinv.toPhone
    rw [hnone] at htoPhone
    exact htoPhone.2.1
  · intro line hline
    have htoPhone := hinv.toPhone
    rw [hline] at htoPhone
    obtain ⟨hearly, hfree, -, after, hsent, hpre, hafter⟩ := htoPhone
    refine ⟨hfree, after, hsent, hpre, hafter, ?_⟩
    rintro ⟨address, timeoutSecs, hhelper⟩
    rw [hhelper] at hearly hafter
    rw [hafter rfl, hearly rfl]
    rfl

end BluetoothRelay

namespace Sample

open BluetoothRelay

/-- A request that is written in two pieces, and data of both sides. Both lines come byte by byte; writes
are short and interrupted. -/
def relayEvents : List Event :=
  ([.auth (.writes (.takes 5)), .auth (.writes .interrupted), .auth (.writes (.takes 7)),
    .auth (.writes .interrupted)] : List Event) ++
  List.replicate 12 (Event.helper (.line .ready)) ++
  ([.phoneSends [7, 8, 9], .helper (.connects 0), .helper (.writes (.takes 1)), .helper (.writes .interrupted),
    .helper (.writes (.takes 2)), .helper (.writes .interrupted)] : List Event) ++
  List.replicate 3 (Event.auth (.line .ready)) ++
  ([.auth (.sends [1, 2, 3]), .helper .checks, .thread .checks, .thread (.reads false false),
    .helper (.polls (.reads 3)), .thread (.writes (.takes 2)), .helper (.forwards (.completes 2)),
    .auth (.receives 1), .phoneCloses] : List Event)

end Sample

namespace BluetoothRelay

/-- Two bytes are at the phone and one is with the helper; in the other direction one byte has arrived. -/
theorem relay_transparent_sample :
    ∃ s, exec step (start (connectRequest (str "A") 5)) Sample.relayEvents = some s ∧
      s.authSent = str "CONNECT A 5\n" ++ [1, 2, 3] ∧ s.phoneReceived = [1, 2] ∧
      s.authRead = okLine ++ [7] ∧ s.phoneRead = [7, 8, 9] ∧ s.authData <+: s.phoneRead := by
  obtain ⟨s, hs, hsent, hreceived, hauth, hread, hphone⟩ :
      ∃ s, exec step (start (connectRequest (str "A") 5)) Sample.relayEvents = some s ∧
        (s.authSent = str "CONNECT A 5\n" ++ [1, 2, 3] ∧ s.phoneReceived = [1, 2] ∧ s.auth = .connected ∧
          s.authRead = okLine ++ [7] ∧ s.phoneRead = [7, 8, 9]) :=
    exec_of_test (by decide +kernel)
  obtain ⟨-, -, htoAuth, -⟩ := relay_transparent _ _ s hs
  exact ⟨s, hs, hsent, hreceived, hread, hphone, (htoAuth hauth).2.1⟩

end BluetoothRelay

end PcbuDesktop
