import PcbuDesktop.Unlock.Authenticity

set_option autoImplicit false

/-! # A connection accepts at most one response

The device and the response data of a connection are written only by the thread that accepts a
response, and it does so only while `m_UnlockState` is `UNKNOWN`. No store ever brings
`UNKNOWN` back once an exchange runs. So there is a first period, in which both have their
initial values, and after the acceptance they are fixed, whatever happens to the state.
-/

namespace PcbuDesktop

open Runs

section

variable {env : Env} {d₀ : PairedDevice}

/-- The thread is inside the locked section that accepts a response. -/
def Flow.accepting : Flow → Bool
  | .acceptDevice _ | .acceptData _ | .acceptState _ => true
  | _ => false

/-- No response was accepted, and none is being accepted. -/
def NotAccepted (s : System) : Prop :=
  (∀ t r, Event.accepted t r ∉ s.log) ∧ ∀ t f, s.flows t = some f → f.accepting = false

/-- The two periods of a connection that started with the device `d₀`. -/
structure Sealed (env : Env) (d₀ : PairedDevice) (s : System) : Prop where
  idle : s.started = false → s.log = [] ∧ ∀ t, s.flows t = none
  stores : ∀ t st, s.flows t = some (.store st) → st ≠ .unknown
  before : NotAccepted s → s.conn.pairedDevice = d₀ ∧ s.conn.responseData = {}
  after : ∀ t r, Event.accepted t r ∈ s.log →
    s.conn.unlockState ≠ .unknown ∧ (∀ u f, s.flows u = some f → f.accepting = false) ∧
      Authentic env s.conn s.log

theorem sealed_initial {s : System} (h : Initial s) : Sealed env s.conn.pairedDevice s := by
  have hlog := h.log_nil
  refine ⟨fun _ => ⟨hlog, h.flows_none⟩, ?_, ?_, ?_⟩
  · intro t st hf; rw [h.flows_none t] at hf; cases hf
  · intro _; cases h <;> exact ⟨rfl, rfl⟩
  · intro t r hr; rw [hlog] at hr; cases hr

theorem handleUnverifiedError_store {st st' : UnlockState} {b : Bool}
    (h : handleUnverifiedError st b = .store st') : st' = st := by
  cases b with
  | true => cases h
  | false => cases h; rfl

/-- What `OnResponseReceived` stores is never `UNKNOWN`. -/
theorem onResponseReceived_store {c : Conn} {b : Bool} {p : Packet} {d : PairedDevice} {now : Int}
    {st : UnlockState} (h : onResponseReceived env c b p d now = .store st) : st ≠ .unknown := by
  rcases onResponseReceived_cases env c b p d now with ⟨st', hu, -, he⟩ | ⟨st', hu, -, he⟩ | ⟨r, he⟩
  · rw [he] at h; rw [handleUnverifiedError_store h]; exact hu
  · rw [he] at h; cases h; exact hu
  · rw [he] at h; cases h

theorem onResponseReceived_not_accepting (c : Conn) (b : Bool) (p : Packet) (d : PairedDevice)
    (now : Int) : (onResponseReceived env c b p d now).accepting = false := by
  rcases onResponseReceived_cases env c b p d now with ⟨st, -, -, he⟩ | ⟨st, -, -, he⟩ | ⟨r, he⟩
  · rw [he]; cases b <;> rfl
  · rw [he]; rfl
  · rw [he]; rfl

/-- A thread enters the section only by `accept`, and leaves it only with the event. -/
theorem FlowMove.accepting_next {b : Bool} {t : StreamId} {c c' : Conn} {f n : Flow} {i : Input}
    {evs : List Event} (h : FlowMove env b t c f i c' (some n) evs) (hn : n.accepting = true) :
    f.accepting = true ∨ (c.unlockState = .unknown ∧ ∃ r, f = .accept r ∧ i = .tau) := by
  cases h with
  | lookup p hm =>
      rcases onPacketReceived_cases (c.info t) p with he | he | ⟨he, -, -⟩ <;>
        rw [he] at hn <;> cases hn
  | findNone id hm hnone => cases b <;> cases hn
  | answerError d seed r e => cases b <;> cases hn
  | respond p d now => rw [onResponseReceived_not_accepting] at hn; cases hn
  | acceptLock r hm hu => exact Or.inr ⟨hu, r, rfl, rfl⟩
  | acceptDevice r => exact Or.inl rfl
  | acceptData r => exact Or.inl rfl
  | _ => cases hn

/-- A thread in the section stays there or accepts. -/
theorem FlowMove.accepting_prev {b : Bool} {t : StreamId} {c c' : Conn} {f : Flow} {i : Input}
    {n : Option Flow} {evs : List Event} (h : FlowMove env b t c f i c' n evs)
    (hf : f.accepting = true) :
    (∃ g, n = some g ∧ g.accepting = true) ∨ ∃ r, Event.accepted t r ∈ evs := by
  cases h with
  | acceptDevice r => exact Or.inl ⟨_, rfl, rfl⟩
  | acceptData r => exact Or.inl ⟨_, rfl, rfl⟩
  | acceptState r => exact Or.inr ⟨r, by simp⟩
  | _ => cases hf

/-- Outside the section nothing writes the device or the data, and the only event is not an
acceptance. -/
theorem FlowMove.result_eq {b : Bool} {t : StreamId} {c c' : Conn} {f : Flow} {i : Input}
    {n : Option Flow} {evs : List Event} (h : FlowMove env b t c f i c' n evs)
    (hf : f.accepting = false) :
    c'.pairedDevice = c.pairedDevice ∧ c'.responseData = c.responseData ∧
      ∀ u r, Event.accepted u r ∉ evs := by
  cases h with
  | acceptDevice r => cases hf
  | acceptData r => cases hf
  | acceptState r => cases hf
  | _ => exact ⟨rfl, rfl, by simp⟩

theorem FlowMove.state_ne_unknown {b : Bool} {t : StreamId} {c c' : Conn} {f : Flow} {i : Input}
    {n : Option Flow} {evs : List Event} (h : FlowMove env b t c f i c' n evs)
    (hstore : ∀ st, f = .store st → st ≠ .unknown) (hu : c.unlockState ≠ .unknown) :
    c'.unlockState ≠ .unknown := by
  cases h with
  | requestFailed e => exact mapPacketError_ne_unknown (by simp)
  | store st => exact hstore st rfl
  | acceptState r => simp
  | fail e => exact mapPacketError_ne_unknown (by simp)
  | caught => simp
  | _ => exact hu

theorem FlowMove.store_next {b : Bool} {t : StreamId} {c c' : Conn} {f : Flow} {i : Input}
    {st : UnlockState} {evs : List Event}
    (h : FlowMove env b t c f i c' (some (.store st)) evs) : st ≠ .unknown := by
  generalize hn : some (Flow.store st) = n at h
  cases h with
  | lookup p hm =>
      rcases onPacketReceived_cases (c.info t) p with he | he | ⟨he, -, -⟩ <;>
        rw [he] at hn <;> cases hn
  | findNone id hm hnone =>
      rw [handleUnverifiedError_store (Option.some.inj hn).symm]; simp
  | answerError d seed r e =>
      rw [handleUnverifiedError_store (Option.some.inj hn).symm]
      exact mapPacketError_ne_unknown (by simp)
  | respond p d now => exact onResponseReceived_store (Option.some.inj hn).symm
  | _ => cases hn

/-- Two threads are never in the section at once. -/
theorem Inv.accepting_unique {s : System} (hI : Inv env s) {t u : StreamId} {f g : Flow}
    (hf : s.flows t = some f) (hg : s.flows u = some g) (hfa : f.accepting = true)
    (hga : g.accepting = true) : t = u := by
  -- who is inside holds the lock, and one thread holds it
  have hmutex : ∀ v k, s.flows v = some k → k.accepting = true → s.conn.stateMutex = some v := by
    intro v k hv hk
    have hok := hI.flows v k hv
    cases k with
    | acceptDevice r => exact hok.2.1
    | acceptData r => exact hok.2.1
    | acceptState r => exact hok.2.1
    | _ => cases hk
  have ht := hmutex t f hf hfa
  have hu := hmutex u g hg hga
  rw [ht] at hu
  exact Option.some.inj hu

/-! ## Every step -/

theorem NotAccepted.of_advance {s : System} {t : StreamId} {i : Input} {f : Flow} {c : Conn}
    {n : Option Flow} {evs : List Event} (hf : s.flows t = some f)
    (hmove : FlowMove env s.needsDeviceID t s.conn f i c n evs)
    (h : NotAccepted (s.advance t c n evs)) : NotAccepted s := by
  refine ⟨fun u r hr => h.1 u r (List.mem_append_left _ hr), ?_⟩
  intro u g hg
  -- a thread that is inside stays there or accepts, both of which would show afterwards
  by_contra hacc
  have hacc' : g.accepting = true := by simpa using hacc
  by_cases hu : u = t
  · subst hu
    rw [hf] at hg
    cases hg
    rcases hmove.accepting_prev hacc' with ⟨g', rfl, hg'⟩ | ⟨r, hr⟩
    · rw [h.2 u g' (by simp [System.advance])] at hg'
      cases hg'
    · exact h.1 u r (List.mem_append_right _ hr)
  · have hsame : (s.advance t c n evs).flows u = some g := by
      simp [System.advance, Function.update_of_ne hu, hg]
    rw [h.2 u g hsame] at hacc'
    cases hacc'

theorem Sealed.advance {s : System} {t : StreamId} {i : Input} {f : Flow} {c : Conn}
    {n : Option Flow} {evs : List Event} (hI : Inv env s) (hS : Sealed env d₀ s)
    (hf : s.flows t = some f) (hmove : FlowMove env s.needsDeviceID t s.conn f i c n evs) :
    Sealed env d₀ (s.advance t c n evs) := by
  have hI' := hI.advance hf hmove
  refine ⟨?_, ?_, ?_, ?_⟩
  · intro hstart
    have hnone := (hS.idle hstart).2 t
    rw [hf] at hnone
    cases hnone
  · intro u st hu
    rcases update_eq_some hu with ⟨rfl, rfl⟩ | ⟨-, hold⟩
    · exact hmove.store_next
    · exact hS.stores u st hold
  · intro hnot
    have hold := NotAccepted.of_advance hf hmove hnot
    obtain ⟨hd, hr, -⟩ := hmove.result_eq (hold.2 t f hf)
    obtain ⟨hd₀, hr₀⟩ := hS.before hold
    exact ⟨hd.trans hd₀, hr.trans hr₀⟩
  · intro u r hr
    by_cases hold : ∃ v q, Event.accepted v q ∈ s.log
    · -- accepted before: the state is not `UNKNOWN`, so no thread enters the section again
      obtain ⟨v, q, hq⟩ := hold
      obtain ⟨hne, hacc, hauth⟩ := hS.after v q hq
      obtain ⟨hd, hdata, -⟩ := hmove.result_eq (hacc t f hf)
      refine ⟨hmove.state_ne_unknown (fun st he => hS.stores t st (he ▸ hf)) hne, ?_,
        hauth.mono hmove.sameConfig hd hdata⟩
      intro w g hg
      rcases update_eq_some hg with ⟨rfl, rfl⟩ | ⟨-, hgold⟩
      · by_contra hga
        rcases hmove.accepting_next (by simpa using hga) with hfa | ⟨hunk, -⟩
        · rw [hacc w f hf] at hfa; cases hfa
        · exact hne hunk
      · exact hacc w g hgold
    · -- accepted by this very step
      have hevs : Event.accepted u r ∈ evs := by
        rcases List.mem_append.mp hr with hr | hr
        · exact absurd ⟨u, r, hr⟩ hold
        · exact hr
      have hfa : f.accepting = true := by
        by_contra hfa
        exact (hmove.result_eq (by simpa using hfa)).2.2 u r hevs
      -- the lock keeps the other threads outside while this one accepts
      have hothers : ∀ w g, w ≠ t → s.flows w = some g → g.accepting = false := by
        intro w g hw hg
        by_contra hga
        exact hw (hI.accepting_unique hg hf (by simpa using hga) hfa)
      cases hmove with
      | acceptState r' =>
          refine ⟨by simp [System.advance], ?_, hI'.success rfl⟩
          intro w g hg
          rcases update_eq_some hg with ⟨rfl, hge⟩ | ⟨hw, hgold⟩
          · cases hge; rfl
          · exact hothers w g hw hgold
      | acceptDevice r' => cases hevs
      | acceptData r' => cases hevs
      | _ => cases hfa

/-- A store that concerns neither the device nor the data of the result. -/
theorem Sealed.set_conn {s : System} {c' : Conn} (hS : Sealed env d₀ s)
    (hc : s.conn.SameConfig c') (hd : c'.pairedDevice = s.conn.pairedDevice)
    (hr : c'.responseData = s.conn.responseData)
    (hu : ∀ t r, Event.accepted t r ∈ s.log → c'.unlockState ≠ .unknown) :
    Sealed env d₀ { s with conn := c' } := by
  refine ⟨hS.idle, hS.stores, ?_, ?_⟩
  · intro hnot
    obtain ⟨hd₀, hr₀⟩ := hS.before hnot
    exact ⟨hd.trans hd₀, hr.trans hr₀⟩
  · intro t r hacc
    obtain ⟨-, hout, hauth⟩ := hS.after t r hacc
    exact ⟨hu t r hacc, hout, hauth.congr hc hd hr⟩

theorem sealed_step {s s' : System} {l : Label} (hI : Inv env s) (hS : Sealed env d₀ s)
    (h : s.step env l = some s') : Sealed env d₀ s' := by
  cases System.step_move h with
  | spawn t hf hmode =>
      refine ⟨?_, ?_, ?_, ?_⟩
      · intro hstart; cases hstart
      · intro u st hu
        rcases update_eq_some hu with ⟨rfl, he⟩ | ⟨-, hold⟩
        · cases he
        · exact hS.stores u st hold
      · intro hnot
        refine hS.before ⟨hnot.1, ?_⟩
        intro u g hg
        have hu : u ≠ t := by
          rintro rfl
          rw [hf] at hg
          cases hg
        exact hnot.2 u g (by simpa [Function.update_of_ne hu] using hg)
      · intro u r hr
        obtain ⟨hne, hacc, hauth⟩ := hS.after u r hr
        refine ⟨hne, ?_, hauth⟩
        intro w g hg
        rcases update_eq_some hg with ⟨rfl, he⟩ | ⟨-, hold⟩
        · cases he; rfl
        · exact hacc w g hold
  | flow t i f c n evs hf hmove => exact hS.advance hI hf hmove
  | outer store hen =>
      refine hS.set_conn ⟨rfl, rfl, rfl, rfl⟩ rfl rfl ?_
      intro u r hr
      -- the only store of `UNKNOWN` comes before the exchange starts
      have hstarted : s.started ≠ false := by
        intro hstart
        rw [(hS.idle hstart).1] at hr
        cases hr
      cases store with
      | reset => simp [System.outerEnabled, hstarted] at hen
      | cloud status => cases status <;> simp [OuterStore.state, mapRequestError]
      | _ => simp [OuterStore.state]
  | phase ph =>
      exact hS.set_conn ⟨rfl, rfl, rfl, rfl⟩ rfl rfl (fun u r hr => (hS.after u r hr).1)
  | running b =>
      exact hS.set_conn ⟨rfl, rfl, rfl, rfl⟩ rfl rfl (fun u r hr => (hS.after u r hr).1)

/-- A connection that is `SUCCESS` has accepted a response. -/
theorem Inv.accepted_of_success {s : System} (hI : Inv env s) (hs : s.conn.unlockState = .success) :
    ∃ t r, Event.accepted t r ∈ s.log := by
  obtain ⟨-, t, q, r, pre, mid, post, hlog, -⟩ := hI.success hs
  exact ⟨t, r, by rw [hlog]; simp⟩

end

end PcbuDesktop
