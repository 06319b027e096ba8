import PcbuDesktop.Handler.Dispatch
import PcbuDesktop.Handler.RunServer

set_option autoImplicit false

/-! # `GetResult` as a whole

`UnlockHandler::GetResult` (`handler/UnlockHandler.cpp`): the connections of `dispatch`, one thread of
`Aggregation` for each of them, and in that thread a `RunServer` with its connection. All of them take
their steps in any order. A thread can only merge what its own `RunServer` has returned, and `RunServer`
looks at the result that the others have merged.
-/

namespace PcbuDesktop

open Runs

/-! ## The composed system -/

/-- `isBluetooth` of the connection. -/
def Connection.isBluetooth : Connection → Bool
  | .btClient _ _ _ => true
  | _ => false

structure Unlocking where
  agg : Aggregation
  servings : Nat → Serving

inductive UnlockingLabel where
  /-- a step in thread `i`, of `RunServer` or of its connection -/
  | serve (i : Nat) (label : ServingLabel)
  /-- `RunServer` of thread `i` throws -/
  | throws (i : Nat)
  /-- `RunServer` of thread `i` returns -/
  | returns (i : Nat)
  | worker (i : Nat)
  | main
  deriving DecidableEq, Repr

/-- What the connections are made with: the platform, the tokens and what the phone is to show. -/
structure UnlockRequestInfo where
  windows : Bool
  tokens : Nat → Str
  authUser : Str
  authProgram : Str

namespace Unlocking

/-- The threads are started. -/
def start (info : UnlockRequestInfo) (connections : List Connection) : Unlocking where
  agg := .start connections.length fun i =>
    ((connections.getD i (.tcpServer [])).system [] [] []).conn.otherClient
  servings := fun i =>
    let connection := connections.getD i (.tcpServer [])
    { base := connection.system (info.tokens i) info.authUser info.authProgram
      windows := info.windows
      isBluetooth := connection.isBluetooth }

/-- The load of `currentResult` gives what has been merged so far. -/
def answer (s : Unlocking) (i : Nat) : ServingLabel → ServingLabel
  | .run other shared hasConnected =>
      if (s.servings i).run.pc = .loop then .run (.state s.agg.currentResult.state) shared hasConnected
      else .run other shared hasConnected
  | label => label

/-- After an exception only the threads of the connection go on. -/
def CanServe (s : Unlocking) (i : Nat) : ServingLabel → Prop
  | .conn _ => i < s.agg.numServers
  | .run _ _ _ => i < s.agg.numServers ∧ s.agg.workers i = .running

instance (s : Unlocking) (i : Nat) (label : ServingLabel) : Decidable (s.CanServe i label) := by
  cases label with
  | conn l => exact inferInstanceAs (Decidable (i < s.agg.numServers))
  | run other shared hasConnected =>
      exact inferInstanceAs (Decidable (i < s.agg.numServers ∧ s.agg.workers i = .running))

def step (env : Env) (s : Unlocking) : UnlockingLabel → Option Unlocking
  | .serve i label =>
      if s.CanServe i label then
        ((s.servings i).step env (s.answer i label)).map fun serving =>
          { s with servings := Function.update s.servings i serving }
      else none
  | .throws i => (s.agg.step (.ret i none)).map fun agg => { s with agg := agg }
  | .returns i =>
      match (s.servings i).run.pc with
      | .returned result => (s.agg.step (.ret i (some result))).map fun agg => { s with agg := agg }
      | _ => none
  | .worker i => (s.agg.step (.worker i)).map fun agg => { s with agg := agg }
  | .main => (s.agg.step .main).map fun agg => { s with agg := agg }

end Unlocking

section

variable {env : Env}

/-! ## What one step can do -/

/-- A step of one connection, or of the threads. -/
inductive UnlockingMove (env : Env) (s : Unlocking) : Unlocking → Prop
  | serve (i : Nat) (label : ServingLabel) (serving : Serving)
      (h : (s.servings i).step env label = some serving) :
      UnlockingMove env s { s with servings := Function.update s.servings i serving }
  | agg (label : AggregateLabel) (agg : Aggregation) (h : s.agg.step label = some agg)
      (hret : ∀ i result, label = .ret i (some result) → (s.servings i).run.pc = .returned result) :
      UnlockingMove env s { s with agg := agg }

theorem Unlocking.step_move {s s' : Unlocking} {l : UnlockingLabel} (h : s.step env l = some s') :
    UnlockingMove env s s' := by
  cases l with
  | serve i label =>
      simp only [Unlocking.step] at h
      split at h
      · obtain ⟨serving, hserving, rfl⟩ := Option.map_eq_some_iff.mp h
        exact .serve i _ serving hserving
      · cases h
  | throws i =>
      obtain ⟨agg, hagg, rfl⟩ := Option.map_eq_some_iff.mp h
      exact .agg _ agg hagg (by rintro i' result ⟨⟩)
  | returns i =>
      simp only [Unlocking.step] at h
      split at h
      · next result hpc =>
          obtain ⟨agg, hagg, rfl⟩ := Option.map_eq_some_iff.mp h
          refine .agg _ agg hagg ?_
          rintro i' result' ⟨⟩
          exact hpc
      · cases h
  | worker i =>
      obtain ⟨agg, hagg, rfl⟩ := Option.map_eq_some_iff.mp h
      exact .agg _ agg hagg (by rintro i' result ⟨⟩)
  | main =>
      obtain ⟨agg, hagg, rfl⟩ := Option.map_eq_some_iff.mp h
      exact .agg _ agg hagg (by rintro i' result ⟨⟩)

/-- Only the return of a `RunServer` adds an outcome. -/
theorem Aggregation.outcomes_step {s s' : Aggregation} {l : AggregateLabel} (h : s.step l = some s')
    {i : Nat} {r : UnlockResult} (hr : s'.outcomes i = some r) :
    s.outcomes i = some r ∨ l = .ret i (some r) ∨ r = UnlockResult.ofState .unkError := by
  cases Aggregation.step_move h with
  | ret j outcome r' heq hi hpc =>
      rcases update_eq_some hr with ⟨rfl, hsome⟩ | ⟨-, hold⟩
      · cases outcome with
        | none => exact .inr (.inr ((Option.some.inj hsome).symm.trans heq))
        | some result =>
            have hsame : result = r := heq.symm.trans (Option.some.inj hsome)
            exact .inr (.inl (hsame ▸ rfl))
      · exact .inl hold
  | _ => exact .inl hr

/-! ## The invariant -/

/-- What holds of the threads and of each connection, and what ties them together: an outcome with
`SUCCESS` comes from a response that the connection has authenticated. -/
structure UnlockingInv (env : Env) (s₀ s : Unlocking) : Prop where
  agg : AggregateInv s.agg
  count : s.agg.numServers = s₀.agg.numServers
  serving : ∀ i, ServingInv env (s₀.servings i).base.conn.pairedDevice (s.servings i)
  reachable : ∀ i, Reachable (System.step env) (s₀.servings i).base (s.servings i).base
  outcome : ∀ i r, s.agg.outcomes i = some r → r.state = .success →
    Authenticated env (s.servings i).base r

theorem Unlocking.start_fresh (info : UnlockRequestInfo) (connections : List Connection) (i : Nat) :
    ((Unlocking.start info connections).servings i).Fresh := by
  refine ⟨?_, rfl, rfl⟩
  show Initial ((connections.getD i (.tcpServer [])).system _ _ _)
  cases connections.getD i (.tcpServer []) with
  | tcpClient ip port device => exact .client _ _ _ device false
  | btClient address device other => exact .client _ _ _ device other
  | tcpServer devices => exact .server _ _ _ devices

theorem unlockingInv_start (info : UnlockRequestInfo) {connections : List Connection}
    (hne : connections ≠ []) :
    UnlockingInv env (Unlocking.start info connections) (Unlocking.start info connections) where
  agg := .start _ _ (List.length_pos_of_ne_nil hne)
  count := rfl
  serving := fun i => servingInv_fresh (Unlocking.start_fresh info connections i)
  reachable := fun _ => .refl
  outcome := nofun

theorem UnlockingInv.serve {s₀ s : Unlocking} (hI : UnlockingInv env s₀ s) {i : Nat}
    {label : ServingLabel} {serving : Serving} (h : (s.servings i).step env label = some serving) :
    UnlockingInv env s₀ { s with servings := Function.update s.servings i serving } := by
  obtain ⟨k, hk⟩ := Serving.step_base h
  refine ⟨hI.agg, hI.count, fun j => ?_, fun j => ?_, fun j r hr hs => ?_⟩
  · by_cases hj : j = i
    · subst hj
      simpa using servingInv_step (hI.serving j) h
    · simpa [Function.update_of_ne hj] using hI.serving j
  · by_cases hj : j = i
    · subst hj
      simpa using (hI.reachable j).trans (.of_step hk)
    · simpa [Function.update_of_ne hj] using hI.reachable j
  · have hauth := hI.outcome j r hr hs
    by_cases hj : j = i
    · subst hj
      simpa using hauth.step hk
    · simpa [Function.update_of_ne hj] using hauth

theorem UnlockingInv.step {s₀ s s' : Unlocking} {l : UnlockingLabel} (hI : UnlockingInv env s₀ s)
    (h : s.step env l = some s') : UnlockingInv env s₀ s' := by
  cases Unlocking.step_move h with
  | serve i label serving hserving => exact hI.serve hserving
  | agg label agg hagg hret =>
      refine ⟨hI.agg.step hagg, (Aggregation.step_config hagg).1.trans hI.count, hI.serving, hI.reachable,
        fun i r hr hs => ?_⟩
      rcases Aggregation.outcomes_step hagg hr with hold | hnew | herror
      · exact hI.outcome i r hold hs
      · exact (hI.serving i).result r (hret i r hnew) hs
      · rw [herror] at hs
        cases hs

/-- A connection allows no other devices than those that are left after the filter. -/
theorem dispatch_allowed {windows : Bool} {notPairedText : Str → Str} {authUser : Str}
    {deviceIds : List Str} {userDevices : List PairedDevice} {c : Connection}
    (hc : c ∈ (dispatch windows notPairedText authUser deviceIds userDevices).connections)
    (token user program : Str) {d : PairedDevice}
    (hd : d ∈ (c.system token user program).conn.allowedDevices) :
    d ∈ filterDevices deviceIds userDevices := by
  rw [dispatch_connections _ rfl, List.mem_append] at hc
  rcases hc with hclient | hserver
  · obtain ⟨device, hdevice, hmem⟩ := List.mem_flatMap.mp hclient
    suffices hsame : d = device by rw [hsame]; exact hdevice
    unfold clientsFor at hmem
    cases hmethod : device.pairingMethod with
    | tcp =>
        rw [hmethod] at hmem
        rw [List.mem_singleton.mp hmem] at hd
        exact List.mem_singleton.mp hd
    | bluetooth =>
        rw [hmethod] at hmem
        cases windows with
        | true =>
            rcases List.mem_pair.mp hmem with rfl | rfl
            · exact List.mem_singleton.mp hd
            · exact List.mem_singleton.mp hd
        | false =>
            rw [List.mem_singleton.mp hmem] at hd
            exact List.mem_singleton.mp hd
    | _ => simp [hmethod] at hmem
  · split at hserver
    · rw [List.mem_singleton.mp hserver] at hd
      exact (List.mem_filter.mp hd).1
    · exact absurd hserver List.not_mem_nil

theorem Connection.system_info (c : Connection) (token user program : Str) :
    (c.system token user program).conn.unlockToken = token ∧
      (c.system token user program).conn.authUser = user ∧
      (c.system token user program).conn.authProgram = program := by
  cases c with
  | tcpClient ip port device => exact ⟨rfl, rfl, rfl⟩
  | btClient address device other => exact ⟨rfl, rfl, rfl⟩
  | tcpServer devices => exact ⟨rfl, rfl, rfl⟩

theorem dispatch_started_ne {windows : Bool} {notPairedText : Str → Str} {authUser : Str}
    {deviceIds : List Str} {userDevices : List PairedDevice} {connections : List Connection}
    {udpBroadcaster : Option (List BroadcastDevice)}
    (h : dispatch windows notPairedText authUser deviceIds userDevices =
      .started connections udpBroadcaster) : connections ≠ [] := by
  unfold dispatch at h
  dsimp only at h
  generalize (if (dispatchLoop windows (filterDevices deviceIds userDevices)).hasTCPServer = true then _
    else _) = started at h
  split at h
  · cases h
  · next hne =>
      cases h
      exact hne

/-- What stands behind a success: a connection whose phone has answered a request for this user, and the
password that the phone's key decrypts. -/
structure UnlockedBy (env : Env) (info : UnlockRequestInfo) (deviceIds : List Str)
    (userDevices : List PairedDevice) (sys : System) (result : UnlockResult) : Prop where
  run : ∃ s₀, Initial s₀ ∧ Reachable (System.step env) s₀ sys
  authenticated : Authenticated env sys result
  paired : result.device ∈ filterDevices deviceIds userDevices
  authUser : sys.conn.authUser = info.authUser
  authProgram : sys.conn.authProgram = info.authProgram

/-- **`GetResult` succeeds only through a phone.** However the threads and the streams of all connections
interleave, a result with `SUCCESS` has come from one connection, on which a request for the user was
sent and a response was decrypted under the key of one of the user's devices, with the token of that
connection; and its password is the one that this response decrypts. -/
theorem getResult_authenticated {info : UnlockRequestInfo} {notPairedText : Str → Str}
    {deviceIds : List Str} {userDevices : List PairedDevice} {connections : List Connection}
    {udpBroadcaster : Option (List BroadcastDevice)}
    (hstarted : dispatch info.windows notPairedText info.authUser deviceIds userDevices =
      .started connections udpBroadcaster) {s : Unlocking}
    (hrun : Reachable (Unlocking.step env) (Unlocking.start info connections) s)
    {result : UnlockResult} (hret : s.agg.main = .returned result) (hs : result.state = .success) :
    ∃ i < connections.length, (s.servings i).base.conn.unlockToken = info.tokens i ∧
      UnlockedBy env info deviceIds userDevices (s.servings i).base result := by
  have hconns : (dispatch info.windows notPairedText info.authUser deviceIds userDevices).connections =
      connections := by rw [hstarted]; rfl
  have hne : connections ≠ [] := dispatch_started_ne hstarted
  have hI : UnlockingInv env (Unlocking.start info connections) s :=
    hrun.inv (fun _ _ _ hI hstep => hI.step hstep) (unlockingInv_start info hne)
  have hnum : s.agg.numServers = connections.length := hI.count
  obtain ⟨-, hlen, -, hfinal⟩ := hI.agg.returned result hret
  have horder : s.agg.order ≠ [] := by
    intro hnil
    rw [hnil, hnum] at hlen
    exact hne (List.length_eq_zero_iff.mp hlen.symm)
  -- the result is the outcome of one thread
  obtain ⟨o, ho, hsource⟩ := (hfinal ▸ aggregateSpec horder : AggregateSpec _ _ result).single
  have hauth : Authenticated env (s.servings o.1).base result :=
    hsource ▸ hI.outcome o.1 o.2 (hI.agg.recorded o ho) (hsource ▸ hs)
  have hlt : o.1 < connections.length :=
    hnum ▸ hI.agg.order_lt o.1 (List.mem_map_of_mem ho)
  have hreach := hI.reachable o.1
  have hconfig := (reachable_config hreach).2
  obtain ⟨htoken, huser, hprogram⟩ := (connections.getD o.1 (.tcpServer [])).system_info
    (info.tokens o.1) info.authUser info.authProgram
  refine ⟨o.1, hlt, hconfig.unlockToken.trans htoken,
    ⟨_, (Unlocking.start_fresh info connections o.1).base, hreach⟩, hauth, ?_,
    hconfig.authUser.trans huser, hconfig.authProgram.trans hprogram⟩
  have hallowed := hauth.1
  rw [hconfig.allowedDevices] at hallowed
  have hmem : connections.getD o.1 (.tcpServer []) ∈
      (dispatch info.windows notPairedText info.authUser deviceIds userDevices).connections := by
    rw [hconns, List.getD_eq_getElem?_getD, List.getElem?_eq_getElem hlt]
    exact List.getElem_mem hlt
  exact dispatch_allowed hmem _ _ _ hallowed

/-- A result that `GetResult` can return. -/
inductive GetResultRun (env : Env) (info : UnlockRequestInfo) (notPairedText : Str → Str)
    (deviceIds : List Str) (userDevices : List PairedDevice) : UnlockResult → Prop
  | notPaired (message : Str)
      (h : dispatch info.windows notPairedText info.authUser deviceIds userDevices =
        .notPaired message) :
      GetResultRun env info notPairedText deviceIds userDevices (.ofState .notPairedError)
  | merged (connections : List Connection) (udpBroadcaster : Option (List BroadcastDevice))
      (h : dispatch info.windows notPairedText info.authUser deviceIds userDevices =
        .started connections udpBroadcaster)
      (s : Unlocking) (hrun : Reachable (Unlocking.step env) (Unlocking.start info connections) s)
      (result : UnlockResult) (hret : s.agg.main = .returned result) :
      GetResultRun env info notPairedText deviceIds userDevices result

theorem GetResultRun.unlockedBy {info : UnlockRequestInfo} {notPairedText : Str → Str}
    {deviceIds : List Str} {userDevices : List PairedDevice} {result : UnlockResult}
    (h : GetResultRun env info notPairedText deviceIds userDevices result)
    (hs : result.state = .success) :
    ∃ sys, UnlockedBy env info deviceIds userDevices sys result := by
  cases h with
  | notPaired message h => cases hs
  | merged connections udpBroadcaster h s hrun result hret =>
      obtain ⟨i, -, -, hby⟩ := getResult_authenticated h hrun hret hs
      exact ⟨_, hby⟩

end

namespace Sample

/-- The device of `lockedDevice`, for the user. -/
def userDevice : PairedDevice := { lockedDevice with userName := str "u", pairingMethod := .tcp }

def unlockInfo : UnlockRequestInfo where
  windows := false
  tokens := fun _ => token
  authUser := str "u"
  authProgram := str "p"

/-- The one client is asked, and its phone answers. -/
def unlocks : List UnlockingLabel :=
  (requests ++ phoneResponds ++ polls ++ returns).map (.serve 0) ++ [UnlockingLabel.returns 0] ++
    List.replicate 6 (UnlockingLabel.worker 0) ++ [UnlockingLabel.main, .main]

/-- What it ends with. -/
def unlocked : UnlockResult := ⟨.success, userDevice, str "pw", str "P"⟩

end Sample

theorem unlocks_returns : ∃ s,
    exec (Unlocking.step Sample.env) (.start Sample.unlockInfo [.tcpClient [] 0 Sample.userDevice])
      Sample.unlocks = some s ∧ s.agg.main = .returned Sample.unlocked := by
  have hrun : (exec (Unlocking.step Sample.env)
      (.start Sample.unlockInfo [.tcpClient [] 0 Sample.userDevice]) Sample.unlocks).map (·.agg.main) =
      some (.returned Sample.unlocked) := by
    decide +kernel
  exact Option.map_eq_some_iff.mp hrun

end PcbuDesktop
