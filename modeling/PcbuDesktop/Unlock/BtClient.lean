import PcbuDesktop.Basic.UnlockState
import PcbuDesktop.Lib.Runs

set_option autoImplicit false

/-! # The two Bluetooth clients of a device

On Windows `GetResult` creates two `BTUnlockClient`s for a Bluetooth device, which try the same channel
one after the other. Both may get a connection, and static flags decide which of them asks the phone
(`connection/unlock/clients/BTUnlockClient.cpp`): a client sets a flag of its own when it goes on, and
gives up when it finds the flag of its twin set. `Start` turns all flags off.

A read or a write of a static flag is one step here. The flags are plain `bool`s without a lock, and
nothing keeps a test and the write that follows it together.
-/

namespace PcbuDesktop

open Runs

namespace BTUnlockClient

/-! ## The state -/

/-- `m_OtherClient`: the second one waits for the channel of the first. -/
inductive Side where
  | first
  | second
  deriving DecidableEq, Repr

def Side.twin : Side → Side
  | .first => .second
  | .second => .first

inductive Flag where
  | isAlreadyConnected
  | otherClientConnectedFirst
  | hasConnected
  | successfullConnect
  | credentialSwitch
  deriving DecidableEq, Repr

/-- The flag that a client sets when it goes on to the phone. -/
def Side.claim : Side → Flag
  | .first => .isAlreadyConnected
  | .second => .otherClientConnectedFirst

/-- The program points of `Start` and, from `connecting` on, of `ConnectThread`. -/
inductive Pc where
  | created
  /-- `Start` reads a flag and has the rest still to do -/
  | testing (f : Flag) (rest : List Flag)
  /-- the flag was on, and `Start` turns it off -/
  | clearing (f : Flag) (rest : List Flag)
  | naming
  | comparing
  | switching (credentialSwitch : Bool)
  | connecting
  | testSwitch
  | clearSwitch
  | waiting
  | testSuccess
  | testTwin
  | claiming
  | remembering
  | marking
  | authFlow
  | succeeding
  | done
  deriving DecidableEq, Repr

/-- A client; the last two fields are never read. -/
structure Client where
  pc : Pc := .created
  unlockState : UnlockState := .unknown
  /-- it has set its flag -/
  hasClaimed : Bool := false
  /-- it has entered `PerformAuthFlow` -/
  hasEntered : Bool := false
  deriving DecidableEq, Repr

/-- The static members and the two clients. -/
structure State where
  flags : Flag → Bool
  /-- `firstClientUsername` and `secondClientUsername` -/
  usernames : Side → Str
  lastRememberedUsername : Str
  clients : Side → Client := fun _ => {}

/-- What the socket and the phone answer; `tau` where they are not asked. -/
inductive Act where
  | tau
  | fails (state : UnlockState)
  | retries
  | connects (isAbandoned : Bool)
  | answers (state : UnlockState)
  deriving DecidableEq, Repr

structure Step where
  side : Side
  act : Act
  deriving DecidableEq, Repr

/-! ## The functions -/

/-- The flags that `Start` turns off, in its order. -/
def resetFlags : List Flag :=
  [.isAlreadyConnected, .otherClientConnectedFirst, .hasConnected, .successfullConnect]

def nextReset : List Flag → Pc
  | [] => .naming
  | f :: rest => .testing f rest

section

variable (authUser : Str) (isRetry : Bool) (w : State)

def setClient (c : Side) (k : Client) : State := { w with clients := Function.update w.clients c k }

def goto (c : Side) (pc : Pc) : State := setClient w c { w.clients c with pc := pc }

def write (f : Flag) (value : Bool) : State := { w with flags := Function.update w.flags f value }

/-- `threadEnd`, after this state was stored. -/
def finish (c : Side) (state : UnlockState) : State :=
  setClient w c { w.clients c with pc := .done, unlockState := state }

/-- Only a remembered user is compared with the one to unlock. -/
def isCredentialSwitch : Bool :=
  decide (w.lastRememberedUsername ≠ [] ∧ w.lastRememberedUsername = authUser ∧ isRetry = false)

def step (l : Step) : Option State :=
  let c := l.side
  match (w.clients c).pc, l.act with
  | .created, .tau => some (goto w c (nextReset resetFlags))
  | .testing f rest, .tau => some (goto w c (if w.flags f then .clearing f rest else nextReset rest))
  | .clearing f rest, .tau => some (goto (write w f false) c (nextReset rest))
  | .naming, .tau =>
      some (goto { w with usernames := Function.update w.usernames c authUser } c .comparing)
  | .comparing, .tau => some (goto w c (.switching (isCredentialSwitch authUser isRetry w)))
  | .switching value, .tau => some (goto (write w .credentialSwitch value) c .connecting)
  -- the thread, up to `connect`; a state from the attempt before is taken back
  | .connecting, .tau => some (setClient w c { w.clients c with
      pc := .testSwitch
      unlockState := if (w.clients c).unlockState = .connectError then .unknown
        else (w.clients c).unlockState })
  | .connecting, .fails state => some (finish w c state)
  | .testSwitch, .tau => some (goto w c (if w.flags .credentialSwitch then .clearSwitch else .waiting))
  | .clearSwitch, .tau => some (goto (write w .credentialSwitch false) c .waiting)
  | .waiting, .retries =>
      some (setClient w c { w.clients c with pc := .connecting, unlockState := .connectError })
  | .waiting, .fails state => some (finish w c state)
  | .waiting, .connects isAbandoned => some (goto w c (if isAbandoned then .done else .testSuccess))
  | .testSuccess, .tau => some (if w.flags .successfullConnect then finish w c .canceled
      else goto w c .testTwin)
  | .testTwin, .tau => some (if w.flags c.twin.claim then finish w c .canceled else goto w c .claiming)
  | .claiming, .tau => some (setClient (write w c.claim true) c { w.clients c with
      pc := .remembering, hasClaimed := true })
  | .remembering, .tau =>
      some (goto { w with lastRememberedUsername := w.usernames c } c .marking)
  | .marking, .tau => some (setClient (write w .hasConnected true) c { w.clients c with
      pc := .authFlow, hasEntered := true })
  | .authFlow, .answers state => some (setClient w c { w.clients c with
      pc := if state = .success then .succeeding else .done, unlockState := state })
  | .succeeding, .tau => some (goto (write w .successfullConnect true) c .done)
  | _, _ => none

end

/-! ## One client at a time -/

/-- The client has not set its flag yet. -/
def Pc.BeforeClaim : Pc → Bool
  | .remembering | .marking | .authFlow | .succeeding | .done => false
  | _ => true

/-- A client that finds its twin's flag off is not followed in between by its twin, and no `Start` turns
off the flag of a twin that has set it. -/
def Arbitrated (w : State) (l : Step) : Prop :=
  match (w.clients l.side).pc with
  | .testTwin => w.flags l.side.twin.claim = false → (w.clients l.side.twin).pc ≠ .claiming
  | .clearing f _ => f = l.side.twin.claim → (w.clients l.side.twin).hasClaimed = false
  | _ => True

structure Inv (w : State) : Prop where
  before : ∀ c, (w.clients c).pc.BeforeClaim = true → (w.clients c).hasClaimed = false
  after : ∀ c, (w.clients c).pc = .remembering ∨ (w.clients c).pc = .marking →
    (w.clients c).hasClaimed = true
  flag : ∀ c, (w.clients c).hasClaimed = true → w.flags c.claim = true
  exclusive : ∀ c, (w.clients c).hasClaimed = true ∨ (w.clients c).pc = .claiming →
    (w.clients c.twin).hasClaimed = false ∧ (w.clients c.twin).pc ≠ .claiming
  entered : ∀ c, (w.clients c).hasEntered = true → (w.clients c).hasClaimed = true

section

variable {w w' : State}

theorem twin_ne (c : Side) : c.twin ≠ c := by cases c <;> decide

theorem twin_twin (c : Side) : c.twin.twin = c := by cases c <;> rfl

theorem eq_or_eq_twin (c d : Side) : d = c ∨ d = c.twin := by
  cases c <;> cases d <;> decide

theorem claim_ne_twin (c : Side) : c.claim ≠ c.twin.claim := by cases c <;> decide

/-- A step of client `c`, whose state becomes `k`. -/
theorem Inv.of_client (h : Inv w) {c : Side} {k : Client}
    (hclients : w'.clients = Function.update w.clients c k)
    (hbefore : k.pc.BeforeClaim = true → k.hasClaimed = false)
    (hafter : k.pc = .remembering ∨ k.pc = .marking → k.hasClaimed = true)
    (hflag : k.hasClaimed = true → w'.flags c.claim = true)
    (htwin : (w.clients c.twin).hasClaimed = true → w'.flags c.twin.claim = w.flags c.twin.claim)
    (hexclusive : k.hasClaimed = true ∨ k.pc = .claiming →
      (w.clients c.twin).hasClaimed = false ∧ (w.clients c.twin).pc ≠ .claiming)
    (hentered : k.hasEntered = true → k.hasClaimed = true) : Inv w' := by
  have hown : w'.clients c = k := by rw [hclients, Function.update_self]
  have hother : w'.clients c.twin = w.clients c.twin := by
    rw [hclients, Function.update_of_ne (twin_ne c)]
  constructor
  · intro d
    rcases eq_or_eq_twin c d with rfl | rfl
    · rw [hown]
      exact hbefore
    · rw [hother]
      exact h.before _
  · intro d
    rcases eq_or_eq_twin c d with rfl | rfl
    · rw [hown]
      exact hafter
    · rw [hother]
      exact h.after _
  · intro d
    rcases eq_or_eq_twin c d with rfl | rfl
    · rw [hown]
      exact hflag
    · rw [hother]
      intro hclaimed
      rw [htwin hclaimed]
      exact h.flag _ hclaimed
  · intro d hd
    rcases eq_or_eq_twin c d with rfl | rfl
    · rw [hown] at hd
      rw [hother]
      exact hexclusive hd
    · -- were `c` claiming too, its twin would not be
      rw [hother] at hd
      rw [twin_twin, hown]
      have hnot : ¬ (k.hasClaimed = true ∨ k.pc = .claiming) := by
        intro hk
        obtain ⟨hclaimed, hclaiming⟩ := hexclusive hk
        rcases hd with hd | hd
        · rw [hclaimed] at hd
          cases hd
        · exact hclaiming hd
      rw [not_or, Bool.not_eq_true] at hnot
      exact hnot
  · intro d
    rcases eq_or_eq_twin c d with rfl | rfl
    · rw [hown]
      exact hentered
    · rw [hother]
      exact h.entered _

/-- A step by which `c` neither sets its flag nor comes close to it. -/
theorem Inv.quiet (h : Inv w) {c : Side} {k : Client}
    (hclients : w'.clients = Function.update w.clients c k)
    (hflags : ∀ d, (w.clients d).hasClaimed = true → w'.flags d.claim = w.flags d.claim)
    (hclaimed : k.hasClaimed = (w.clients c).hasClaimed)
    (hentered : k.hasEntered = (w.clients c).hasEntered) (hpc : k.pc ≠ .claiming)
    (hbefore : k.pc.BeforeClaim = true → (w.clients c).pc.BeforeClaim = true)
    (hafter : k.pc = .remembering ∨ k.pc = .marking →
      (w.clients c).pc = .remembering ∨ (w.clients c).pc = .marking) : Inv w' := by
  refine h.of_client hclients ?_ ?_ ?_ ?_ ?_ ?_
  · intro hb
    rw [hclaimed]
    exact h.before c (hbefore hb)
  · intro ha
    rw [hclaimed]
    exact h.after c (hafter ha)
  · intro hk
    rw [hclaimed] at hk
    rw [hflags c hk]
    exact h.flag c hk
  · exact hflags _
  · rintro (hk | hk)
    · rw [hclaimed] at hk
      exact h.exclusive c (Or.inl hk)
    · exact absurd hk hpc
  · rw [hentered, hclaimed]
    exact h.entered c

/-- Only its own flag and its twin's matter to a client that has claimed. -/
theorem write_claim (w : State) {f : Flag} (value : Bool) (d : Side)
    (hf : f ≠ .isAlreadyConnected ∧ f ≠ .otherClientConnectedFirst) :
    (write w f value).flags d.claim = w.flags d.claim := by
  cases d with
  | first => exact Function.update_of_ne hf.1.symm _ _
  | second => exact Function.update_of_ne hf.2.symm _ _

theorem nextReset_ne (rest : List Flag) : nextReset rest ≠ .claiming ∧
    nextReset rest ≠ .remembering ∧ nextReset rest ≠ .marking := by
  cases rest <;> exact ⟨nofun, nofun, nofun⟩

/-- `Start` turns a flag off: it is no flag that stands for a claim. -/
theorem Inv.clearing (h : Inv w) {c : Side} {f : Flag} {rest : List Flag}
    (hpc : (w.clients c).pc = .clearing f rest)
    (hcond : f = c.twin.claim → (w.clients c.twin).hasClaimed = false) :
    Inv (goto (write w f false) c (nextReset rest)) := by
  have hbefore : (w.clients c).pc.BeforeClaim = true := by
    rw [hpc]
    rfl
  obtain ⟨hclaiming, hremembering, hmarking⟩ := nextReset_ne rest
  refine h.quiet rfl ?_ rfl rfl hclaiming (fun _ => hbefore) ?_
  · intro d hd
    show Function.update w.flags f false d.claim = w.flags d.claim
    refine Function.update_of_ne ?_ _ _
    intro heq
    rcases eq_or_eq_twin c d with rfl | rfl
    · rw [h.before d hbefore] at hd
      cases hd
    · rw [hcond heq.symm] at hd
      cases hd
  · rintro (hk | hk)
    · exact absurd hk hremembering
    · exact absurd hk hmarking

/-- A client that finds its twin's flag off is alone. -/
theorem Inv.testTwin (h : Inv w) {c : Side} (hpc : (w.clients c).pc = .testTwin)
    (hoff : w.flags c.twin.claim = false) (hcond : (w.clients c.twin).pc ≠ .claiming) :
    Inv (goto w c .claiming) := by
  have hunclaimed : (w.clients c).hasClaimed = false := by
    refine h.before c ?_
    rw [hpc]
    rfl
  refine h.of_client rfl (fun _ => hunclaimed) nofun ?_ (fun _ => rfl) ?_ (h.entered c)
  · exact h.flag c
  · intro _
    refine ⟨?_, hcond⟩
    by_contra hclaimed
    rw [Bool.not_eq_false] at hclaimed
    rw [h.flag c.twin hclaimed] at hoff
    cases hoff

theorem Inv.claiming (h : Inv w) {c : Side} (hpc : (w.clients c).pc = .claiming) :
    Inv (setClient (write w c.claim true) c { w.clients c with pc := .remembering, hasClaimed := true }) := by
  refine h.of_client rfl nofun (fun _ => rfl) ?_ ?_ (fun _ => h.exclusive c (Or.inr hpc)) (fun _ => rfl)
  · intro _
    exact Function.update_self _ _ _
  · intro _
    exact Function.update_of_ne (claim_ne_twin c).symm _ _

theorem Inv.step (h : Inv w) {authUser : Str} {isRetry : Bool} {l : Step} (hcond : Arbitrated w l)
    (hstep : step authUser isRetry w l = some w') : Inv w' := by
  unfold BTUnlockClient.step at hstep
  unfold Arbitrated at hcond
  dsimp only at hstep
  split at hstep
  · rename_i hpc hact
    cases hstep
    exact h.quiet rfl (fun _ _ => rfl) rfl rfl nofun (fun _ => by rw [hpc]; rfl) nofun
  · rename_i f rest hpc hact
    cases hstep
    obtain ⟨hclaiming, hremembering, hmarking⟩ := nextReset_ne rest
    refine h.quiet rfl (fun _ _ => rfl) rfl rfl ?_ (fun _ => by rw [hpc]; rfl) ?_
    · dsimp only
      split
      · exact nofun
      · exact hclaiming
    · dsimp only
      split
      · exact nofun
      · exact fun hk => absurd hk (not_or.mpr ⟨hremembering, hmarking⟩)
  · rename_i f rest hpc hact
    cases hstep
    rw [hpc] at hcond
    exact h.clearing hpc hcond
  · rename_i hpc hact
    cases hstep
    exact h.quiet rfl (fun _ _ => rfl) rfl rfl nofun (fun _ => by rw [hpc]; rfl) nofun
  · rename_i hpc hact
    cases hstep
    exact h.quiet rfl (fun _ _ => rfl) rfl rfl nofun (fun _ => by rw [hpc]; rfl) nofun
  · rename_i value hpc hact
    cases hstep
    exact h.quiet rfl (fun d _ => write_claim w value d ⟨nofun, nofun⟩) rfl rfl nofun
      (fun _ => by rw [hpc]; rfl) nofun
  · rename_i hpc hact
    cases hstep
    exact h.quiet rfl (fun _ _ => rfl) rfl rfl nofun (fun _ => by rw [hpc]; rfl) nofun
  · cases hstep
    exact h.quiet rfl (fun _ _ => rfl) rfl rfl nofun nofun nofun
  · rename_i hpc hact
    cases hstep
    refine h.quiet rfl (fun _ _ => rfl) rfl rfl ?_ (fun _ => by rw [hpc]; rfl) ?_
    · dsimp only
      split <;> exact nofun
    · dsimp only
      split <;> exact nofun
  · rename_i hpc hact
    cases hstep
    exact h.quiet rfl (fun d _ => write_claim w false d ⟨nofun, nofun⟩) rfl rfl nofun
      (fun _ => by rw [hpc]; rfl) nofun
  · rename_i hpc hact
    cases hstep
    exact h.quiet rfl (fun _ _ => rfl) rfl rfl nofun (fun _ => by rw [hpc]; rfl) nofun
  · cases hstep
    exact h.quiet rfl (fun _ _ => rfl) rfl rfl nofun nofun nofun
  · rename_i isAbandoned hpc hact
    cases hstep
    refine h.quiet rfl (fun _ _ => rfl) rfl rfl ?_ (fun _ => by rw [hpc]; rfl) ?_
    · dsimp only
      split <;> exact nofun
    · dsimp only
      split <;> exact nofun
  · rename_i hpc hact
    cases hstep
    split
    · exact h.quiet rfl (fun _ _ => rfl) rfl rfl nofun nofun nofun
    · exact h.quiet rfl (fun _ _ => rfl) rfl rfl nofun (fun _ => by rw [hpc]; rfl) nofun
  · rename_i hpc hact
    cases hstep
    rw [hpc] at hcond
    split
    · exact h.quiet rfl (fun _ _ => rfl) rfl rfl nofun nofun nofun
    · rename_i hoff
      rw [Bool.not_eq_true] at hoff
      exact h.testTwin hpc hoff (hcond hoff)
  · rename_i hpc hact
    cases hstep
    exact h.claiming hpc
  · rename_i hpc hact
    cases hstep
    exact h.quiet rfl (fun _ _ => rfl) rfl rfl nofun nofun (fun _ => Or.inl hpc)
  · rename_i hpc hact
    cases hstep
    have hclaimed := h.after l.side (Or.inr hpc)
    have hkept : ∀ d : Side, (write w .hasConnected true).flags d.claim = w.flags d.claim :=
      fun d => write_claim w true d ⟨nofun, nofun⟩
    refine h.of_client rfl nofun nofun ?_ ?_ (fun _ => h.exclusive l.side (Or.inl hclaimed))
      (fun _ => hclaimed)
    · exact fun _ => (hkept l.side).trans (h.flag l.side hclaimed)
    · exact fun _ => hkept l.side.twin
  · cases hstep
    refine h.quiet rfl (fun _ _ => rfl) rfl rfl ?_ ?_ ?_
    · dsimp only
      split <;> exact nofun
    · dsimp only
      split <;> exact nofun
    · dsimp only
      split <;> exact nofun
  · cases hstep
    exact h.quiet rfl (fun d _ => write_claim w true d ⟨nofun, nofun⟩) rfl rfl nofun nofun nofun
  · cases hstep

/-- The static members as an earlier round may have left them, and two new clients. -/
def create (flags : Flag → Bool) (usernames : Side → Str) (last : Str) : State :=
  { flags := flags, usernames := usernames, lastRememberedUsername := last }

/-- If no test falls between the test and the write of the twin, and no `Start` comes after the twin's
write, at most one of the two clients asks the phone. -/
theorem one_client_asks (authUser : Str) (isRetry : Bool) (flags : Flag → Bool)
    (usernames : Side → Str) (last : Str) (ls : List Step)
    (h : exec (step authUser isRetry) (create flags usernames last) ls = some w)
    (hcond : Along (step authUser isRetry) Arbitrated (create flags usernames last) ls) :
    ¬ ((w.clients .first).hasEntered = true ∧ (w.clients .second).hasEntered = true) := by
  have hinit : Inv (create flags usernames last) :=
    ⟨fun _ _ => rfl, nofun, nofun, nofun, nofun⟩
  have hinv : Inv w := exec_inv_along (fun _ _ _ hi hc hs => hi.step hc hs) hinit hcond h
  rintro ⟨hfirst, hsecond⟩
  have halone := (hinv.exclusive .first (Or.inl (hinv.entered .first hfirst))).1
  rw [show Side.first.twin = .second from rfl, hinv.entered .second hsecond] at halone
  cases halone

/-- A client from its creation to the end of the test for a success. -/
def connected (c : Side) : List Step :=
  List.replicate 10 ⟨c, .tau⟩ ++ [⟨c, .connects false⟩, ⟨c, .tau⟩]

/-- The rest of the way to the phone. -/
def asking (c : Side) : List Step := List.replicate 4 ⟨c, .tau⟩

instance (w : State) (l : Step) : Decidable (Arbitrated w l) := by
  unfold Arbitrated
  split <;> infer_instance

theorem one_client_asks_first : ∃ w,
    exec (step (str "user") false) (create (fun _ => false) (fun _ => []) [])
        (connected .first ++ connected .second ++ asking .first ++ [⟨.second, .tau⟩]) = some w ∧
      (w.clients .first).hasEntered = true ∧ (w.clients .second).unlockState = .canceled ∧
      ¬ ((w.clients .first).hasEntered = true ∧ (w.clients .second).hasEntered = true) := by
  have hrun : (exec (step (str "user") false) (create (fun _ => false) (fun _ => []) [])
      (connected .first ++ connected .second ++ asking .first ++ [⟨.second, .tau⟩])).any (fun w => decide
        ((w.clients .first).hasEntered = true ∧ (w.clients .second).unlockState = .canceled)) = true := by
    decide +kernel
  obtain ⟨w, hw, hentered, hcanceled⟩ := exec_of_test hrun
  refine ⟨w, hw, hentered, hcanceled, one_client_asks _ _ _ _ _ _ hw ?_⟩
  exact along_of_check (p := fun w l => decide (Arbitrated w l)) (fun _ _ h => of_decide_eq_true h)
    (by decide +kernel)

/-- Both clients test their twin's flag before one of them sets its own, and both ask the phone. -/
theorem both_clients_ask : ¬ ∀ (authUser : Str) (isRetry : Bool) (flags : Flag → Bool)
    (usernames : Side → Str) (last : Str) (ls : List Step) (w : State),
    exec (step authUser isRetry) (create flags usernames last) ls = some w →
      ¬ ((w.clients .first).hasEntered = true ∧ (w.clients .second).hasEntered = true) := by
  intro h
  have hrun : (exec (step (str "user") false) (create (fun _ => false) (fun _ => []) [])
      (connected .first ++ connected .second ++ [⟨.first, .tau⟩, ⟨.second, .tau⟩] ++
        List.replicate 3 ⟨.first, .tau⟩ ++ List.replicate 3 ⟨.second, .tau⟩)).any (fun w => decide
        ((w.clients .first).hasEntered = true ∧ (w.clients .second).hasEntered = true)) = true := by
    decide +kernel
  obtain ⟨w, hw, hboth⟩ := exec_of_test hrun
  exact h _ _ _ _ _ _ w hw hboth

end

end BTUnlockClient

end PcbuDesktop
