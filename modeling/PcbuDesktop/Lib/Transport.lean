import PcbuDesktop.Lib.Polling

set_option autoImplicit false

/-! # Polling over any transport

`poll` gets the behaviour of its transport as a script. Here the transport is anything with a read
operation, which may depend on what was read before, wait, or fail; `pollOver` is the same loop over it.

A reader over a transport *simulates* a reader over a source when all that it does is what the other
one does on some script. Two things are asked for. Whatever it returns, the other one returns on some
script, and both have consumed the same elements. And as long as elements are ahead that the transport
will give without an error, it does return, or the other one still waits when they are used up. Simulation
goes through a sequence of readers, so that it has to be looked at for one call of the transport only.

On a source that does not fail, what a reader returns does not depend on the script (`Steady`): the same
elements are taken, however they are cut.
-/

namespace Polling

variable {τ σ α β γ ε : Type}

/-- One call that asks for at most so many elements; `none` as long as it has not returned. -/
abbrev ReadOp (τ α ε : Type) := τ → Nat → Option ((List α × ε) × τ)

/-- The loop of `poll`, with a bound on the number of calls. -/
def pollOver [DecidableEq α] [DecidableEq ε] (read : ReadOp τ α ε) (ok : ε) (want : σ → Nat)
    (feed : σ → List α → σ) : Nat → τ → σ → Option ((ε × σ) × τ)
  | 0, _, _ => none
  | fuel + 1, t, s =>
      if want s = 0 then some ((ok, s), t)
      else
        match read t (want s) with
        | none => none
        | some ((got, e), t) =>
            if got = [] then
              if e = ok then pollOver read ok want feed fuel t s else some ((e, s), t)
            else pollOver read ok want feed fuel t (feed s got)

/-- The calls of a source. -/
def Source.read : ReadOp (Source α ε) α ε := fun s n =>
  match s.script with
  | [] => none
  | o :: script =>
      some ((s.pending.take (min o.limit n), o.error), ⟨script, s.pending.drop (min o.limit n)⟩)

/-- `poll` as a reader. -/
def polled [DecidableEq α] [DecidableEq ε] (ok : ε) (want : σ → Nat) (feed : σ → List α → σ) (s : σ)
    (src : Source α ε) : Option ((ε × σ) × Source α ε) :=
  (poll ok want feed src.script s src.pending).map (fun r => ((r.error, r.state), ⟨r.script, r.pending⟩))

/-! ## Single calls -/

/-- No answer of the transport comes with an error. -/
def Calm (ok : ε) (script : List (Outcome ε)) : Prop := ∀ o ∈ script, o.error = ok

theorem Calm.quiet {ok : ε} {script : List (Outcome ε)} (h : Calm ok script) : Quiet ok script :=
  fun o ho _ => h o ho

theorem Calm.tail {ok : ε} {o : Outcome ε} {script : List (Outcome ε)} (h : Calm ok (o :: script)) :
    Calm ok script :=
  fun o' ho' => h o' (List.mem_cons_of_mem _ ho')

theorem Calm.append {ok : ε} {a b : List (Outcome ε)} (ha : Calm ok a) (hb : Calm ok b) :
    Calm ok (a ++ b) := by
  intro o ho
  rcases List.mem_append.mp ho with h | h
  · exact ha o h
  · exact hb o h

theorem calm_singleton (ok : ε) (limit : Nat) : Calm ok [⟨limit, ok⟩] := by
  intro o ho
  rw [List.mem_singleton.mp ho]

theorem calm_replicate (ok : ε) (n : Nat) : Calm ok (List.replicate n ⟨1, ok⟩) := by
  intro o ho
  rw [List.eq_of_mem_replicate ho]

section

variable [DecidableEq α] [DecidableEq ε] {ok : ε} {want : σ → Nat} {feed : σ → List α → σ} {s : σ}

theorem poll_done (hw : want s = 0) (script : List (Outcome ε)) (pending : List α) :
    poll ok want feed script s pending = some ⟨ok, s, script, pending⟩ := by
  cases script <;> simp [poll, hw]

theorem poll_got {got : List α} (hgot : got ≠ []) (hlen : got.length ≤ want s) (e : ε)
    (script : List (Outcome ε)) (pending : List α) :
    poll ok want feed (⟨got.length, e⟩ :: script) s (got ++ pending) =
      poll ok want feed script (feed s got) pending := by
  have hpos := List.length_pos_of_ne_nil hgot
  have hw : want s ≠ 0 := by omega
  rw [poll, if_neg hw]
  dsimp only
  rw [Nat.min_eq_left hlen, List.take_left, List.drop_left, if_neg hgot]

theorem poll_nothing (hw : want s ≠ 0) (e : ε) (script : List (Outcome ε)) (pending : List α) :
    poll ok want feed (⟨0, e⟩ :: script) s pending =
      if e = ok then poll ok want feed script s pending else some ⟨e, s, script, pending⟩ := by
  rw [poll, if_neg hw]
  dsimp only
  rw [Nat.zero_min, List.take_zero, if_pos rfl]

/-- Without elements the loop waits. -/
theorem poll_starved (hw : want s ≠ 0) (n : Nat) :
    poll ok want feed (List.replicate n ⟨1, ok⟩) s [] = none := by
  induction n with
  | zero => exact if_neg hw
  | succ n ih =>
      rw [List.replicate_succ, poll, if_neg hw]
      dsimp only
      rw [List.take_nil, if_pos rfl, if_pos rfl]
      exact ih

/-- The loop uses up a script, and an error that it returns is one of the script. -/
theorem polled_script {src src' : Source α ε} {r : ε × σ} (h : polled ok want feed s src = some (r, src')) :
    src'.script <:+ src.script ∧ (Calm ok src.script → r.1 = ok) := by
  obtain ⟨script, pending⟩ := src
  unfold polled at h
  dsimp only at h ⊢
  induction script generalizing s pending with
  | nil =>
      rw [poll] at h
      split at h <;> cases h
      exact ⟨List.suffix_rfl, fun _ => rfl⟩
  | cons o script ih =>
      have hmore : script <:+ o :: script := List.suffix_cons o script
      rw [poll] at h
      split at h
      · cases h
        exact ⟨List.suffix_rfl, fun _ => rfl⟩
      · dsimp only at h
        split at h
        · split at h
          · obtain ⟨hsuffix, hok⟩ := ih _ h
            exact ⟨hsuffix.trans hmore, fun hcalm => hok hcalm.tail⟩
          · next herror =>
              cases h
              exact ⟨hmore, fun hcalm => absurd (hcalm o List.mem_cons_self) herror⟩
        · obtain ⟨hsuffix, hok⟩ := ih _ h
          exact ⟨hsuffix.trans hmore, fun hcalm => hok hcalm.tail⟩

/-- `poll` is the loop over a source. -/
theorem poll_eq_pollOver {script : List (Outcome ε)} {fuel : Nat} (hfuel : script.length < fuel)
    (pending : List α) :
    polled ok want feed s ⟨script, pending⟩ =
      pollOver Source.read ok want feed fuel ⟨script, pending⟩ s := by
  unfold polled
  dsimp only
  induction script generalizing fuel pending s with
  | nil =>
      obtain ⟨fuel, rfl⟩ : ∃ k, fuel = k + 1 := ⟨fuel - 1, by rw [List.length_nil] at hfuel; omega⟩
      rw [pollOver, poll]
      split <;> rfl
  | cons o script ih =>
      obtain ⟨fuel, rfl⟩ : ∃ k, fuel = k + 1 := ⟨fuel - 1, by rw [List.length_cons] at hfuel; omega⟩
      have hless : script.length < fuel := Nat.lt_of_succ_lt_succ hfuel
      rw [pollOver, poll]
      by_cases hw : want s = 0
      · rw [if_pos hw, if_pos hw]
        rfl
      · rw [if_neg hw, if_neg hw]
        dsimp only [Source.read]
        by_cases hgot : pending.take (min o.limit (want s)) = []
        · rw [if_pos hgot, if_pos hgot]
          -- no element was taken, so none is gone
          have hsame : pending.drop (min o.limit (want s)) = pending := by
            have h := List.take_append_drop (min o.limit (want s)) pending
            rwa [hgot, List.nil_append] at h
          rw [hsame]
          split
          · exact ih hless pending
          · rfl
        · rw [if_neg hgot, if_neg hgot]
          exact ih hless _

end

/-! ## Simulation -/

theorem credit_replicate (ok : ε) (n : Nat) : credit (List.replicate n ⟨1, ok⟩) = n := by
  induction n with
  | zero => rfl
  | succ n ih =>
      rw [List.replicate_succ, credit_cons, ih]
      rfl

theorem credit_append (a b : List (Outcome ε)) : credit (a ++ b) = credit a + credit b := by
  unfold credit
  rw [List.filter_append, List.length_append]

/-- The reader `g` over a transport simulates the reader `f`. The elements that the transport can still
give are `unread`; those that it gives without waiting or failing are `ahead`, and `fuel` bounds their
number. -/
structure Simulates (ok : ε) (fuel : Nat) (unread ahead : τ → List α) (g : τ → Option (β × τ))
    (f : Source α ε → Option (β × Source α ε)) : Prop where
  follows : ∀ t b t', g t = some (b, t') →
    ∃ script, ∀ more, f ⟨script ++ more, unread t⟩ = some (b, ⟨more, unread t'⟩)
  keeps : ∀ t, (ahead t).length < fuel →
    (∃ b t' script, g t = some (b, t') ∧ Calm ok script ∧ (ahead t').length < fuel ∧
      ∀ more, f ⟨script ++ more, ahead t⟩ = some (b, ⟨more, ahead t'⟩)) ∨
    ∃ script, Calm ok script ∧ ∀ n, f ⟨script ++ List.replicate n ⟨1, ok⟩, ahead t⟩ = none

namespace Simulates

variable {ok : ε} {fuel : Nat} {unread ahead : τ → List α}

theorem pure (b : β) :
    Simulates ok fuel unread ahead (fun t => some (b, t)) (fun s : Source α ε => some (b, s)) := by
  constructor
  · intro t b' t' h
    cases h
    exact ⟨[], fun _ => rfl⟩
  · intro t ht
    exact Or.inl ⟨b, t, [], rfl, nofun, ht, fun _ => rfl⟩

theorem bind {g : τ → Option (β × τ)} {f : Source α ε → Option (β × Source α ε)}
    {g' : β × τ → Option (γ × τ)} {f' : β × Source α ε → Option (γ × Source α ε)}
    (h : Simulates ok fuel unread ahead g f)
    (h' : ∀ b, Simulates ok fuel unread ahead (fun t => g' (b, t)) (fun s => f' (b, s))) :
    Simulates ok fuel unread ahead (fun t => (g t).bind g') (fun s => (f s).bind f') := by
  constructor
  · intro t c t₂ hrun
    obtain ⟨⟨b, t₁⟩, hg, hg'⟩ := Option.bind_eq_some_iff.mp hrun
    obtain ⟨script₁, hf⟩ := h.follows t b t₁ hg
    obtain ⟨script₂, hf'⟩ := (h' b).follows t₁ c t₂ hg'
    refine ⟨script₁ ++ script₂, fun more => ?_⟩
    rw [List.append_assoc, hf]
    exact hf' more
  · intro t ht
    rcases h.keeps t ht with ⟨b, t₁, script₁, hg, hq₁, ht₁, hf⟩ | ⟨script₁, hq₁, hnone⟩
    · rcases (h' b).keeps t₁ ht₁ with ⟨c, t₂, script₂, hg', hq₂, ht₂, hf'⟩ | ⟨script₂, hq₂, hnone⟩
      · refine Or.inl ⟨c, t₂, script₁ ++ script₂, ?_, hq₁.append hq₂, ht₂, fun more => ?_⟩
        · rw [hg]
          exact hg'
        · rw [List.append_assoc, hf]
          exact hf' more
      · refine Or.inr ⟨script₁ ++ script₂, hq₁.append hq₂, fun n => ?_⟩
        rw [List.append_assoc, hf]
        exact hnone n
    · refine Or.inr ⟨script₁, hq₁, fun n => ?_⟩
      rw [hnone]
      rfl

/-- A reader followed by a computation that reads nothing. -/
theorem map {g : τ → Option (β × τ)} {f : Source α ε → Option (β × Source α ε)}
    (h : Simulates ok fuel unread ahead g f) (k : β → γ) :
    Simulates ok fuel unread ahead (fun t => (g t).map (fun r => (k r.1, r.2)))
      (fun s => (f s).map (fun r => (k r.1, r.2))) := by
  simp only [Option.map_eq_bind]
  exact h.bind (fun b => pure (k b))

theorem ite {p : Prop} [Decidable p] {g g' : τ → Option (β × τ)}
    {f f' : Source α ε → Option (β × Source α ε)} (h : Simulates ok fuel unread ahead g f)
    (h' : Simulates ok fuel unread ahead g' f') :
    Simulates ok fuel unread ahead (fun t => if p then g t else g' t) (fun s => if p then f s else f' s) := by
  by_cases hp : p
  · simp only [if_pos hp]
    exact h
  · simp only [if_neg hp]
    exact h'

/-- What the simulated reader gets, the other one gets when it is ahead. -/
theorem gets {g : τ → Option (β × τ)} {f : Source α ε → Option (β × Source α ε)}
    (h : Simulates ok fuel unread ahead g f) {elems : List α} {b : β} (hgets : Gets ok f elems b) {t : τ}
    {rest : List α} (hahead : ahead t = elems ++ rest) (hfuel : (ahead t).length < fuel) :
    ∃ t', g t = some (b, t') ∧ ahead t' = rest := by
  rcases h.keeps t hfuel with ⟨b', t', script, hg, hcalm, -, hf⟩ | ⟨script, hcalm, hnone⟩
  · have hrun := hf []
    rw [List.append_nil, hahead] at hrun
    obtain ⟨rfl, hrest⟩ := hgets.result hcalm.quiet hrun
    exact ⟨t', hg, hrest⟩
  · have hwait := hnone elems.length
    rw [hahead] at hwait
    obtain ⟨r, hr⟩ := hgets.returns rest (hcalm.append (calm_replicate ok elems.length)).quiet
      (by rw [credit_append, credit_replicate]; omega)
    rw [hwait] at hr
    cases hr

end Simulates

/-! ## One call is enough -/

/-- The read operation consumes from the front, as much as it is asked for at most; what is ahead comes
without an error. -/
structure Transport (read : ReadOp τ α ε) (ok : ε) (unread ahead : τ → List α) : Prop where
  consumes : ∀ t n got e t', 0 < n → read t n = some ((got, e), t') →
    unread t = got ++ unread t' ∧ got.length ≤ n
  gives : ∀ t n, 0 < n → ahead t ≠ [] →
    ∃ got t', read t n = some ((got, ok), t') ∧ got ≠ [] ∧ got.length ≤ n ∧ ahead t = got ++ ahead t'

section

variable [DecidableEq α] [DecidableEq ε] {read : ReadOp τ α ε} {ok : ε} {unread ahead : τ → List α}
  {want : σ → Nat} {feed : σ → List α → σ}

theorem pollOver_follows (h : Transport read ok unread ahead) {fuel : Nat} {s s' : σ} {t t' : τ} {e : ε}
    (hrun : pollOver read ok want feed fuel t s = some ((e, s'), t')) :
    ∃ script, ∀ more,
      poll ok want feed (script ++ more) s (unread t) = some ⟨e, s', more, unread t'⟩ := by
  induction fuel generalizing t s with
  | zero => cases hrun
  | succ fuel ih =>
      rw [pollOver] at hrun
      split at hrun
      · next hw =>
          cases hrun
          exact ⟨[], fun more => poll_done hw more _⟩
      · next hw =>
          split at hrun
          · cases hrun
          · next got e₁ t₁ hread =>
              obtain ⟨hunread, hlen⟩ := h.consumes t _ got e₁ t₁ (Nat.pos_of_ne_zero hw) hread
              rw [hunread]
              split at hrun
              · next hnothing =>
                  subst hnothing
                  split at hrun
                  · next hok =>
                      obtain ⟨script, hscript⟩ := ih hrun
                      refine ⟨⟨0, e₁⟩ :: script, fun more => ?_⟩
                      rw [List.cons_append, poll_nothing hw, if_pos hok]
                      exact hscript more
                  · next herror =>
                      cases hrun
                      refine ⟨[⟨0, e⟩], fun more => ?_⟩
                      rw [List.cons_append, poll_nothing hw, if_neg herror]
                      rfl
              · next hgot =>
                  obtain ⟨script, hscript⟩ := ih hrun
                  refine ⟨⟨got.length, e₁⟩ :: script, fun more => ?_⟩
                  rw [List.cons_append, poll_got hgot hlen]
                  exact hscript more

theorem pollOver_keeps (h : Transport read ok unread ahead) {fuel : Nat} {s : σ} {t : τ}
    (hfuel : (ahead t).length < fuel) :
    (∃ e s' t' script, pollOver read ok want feed fuel t s = some ((e, s'), t') ∧ Calm ok script ∧
      (ahead t').length ≤ (ahead t).length ∧
      ∀ more, poll ok want feed (script ++ more) s (ahead t) = some ⟨e, s', more, ahead t'⟩) ∨
    ∃ script, Calm ok script ∧
      ∀ n, poll ok want feed (script ++ List.replicate n ⟨1, ok⟩) s (ahead t) = none := by
  induction fuel generalizing t s with
  | zero => cases hfuel
  | succ fuel ih =>
      rw [pollOver]
      by_cases hw : want s = 0
      · rw [if_pos hw]
        exact Or.inl ⟨ok, s, t, [], rfl, nofun, Nat.le_refl _, fun more => poll_done hw more _⟩
      rw [if_neg hw]
      by_cases hempty : ahead t = []
      · refine Or.inr ⟨[], nofun, fun n => ?_⟩
        rw [hempty]
        exact poll_starved hw n
      -- the transport gives something, and what is ahead gets shorter
      obtain ⟨got, t₁, hread, hgot, hlen, hahead⟩ := h.gives t _ (Nat.pos_of_ne_zero hw) hempty
      have hpos := List.length_pos_of_ne_nil hgot
      have hshorter : (ahead t).length = got.length + (ahead t₁).length := by
        rw [hahead, List.length_append]
      have hcalm := calm_singleton ok got.length
      rw [hread]
      dsimp only
      rw [if_neg hgot, hahead]
      rcases ih (t := t₁) (s := feed s got) (by omega) with
        ⟨e, s', t', script, hrun, hq, hle, hpoll⟩ | ⟨script, hq, hnone⟩
      · refine Or.inl ⟨e, s', t', ⟨got.length, ok⟩ :: script, hrun, hcalm.append hq, ?_, fun more => ?_⟩
        · rw [← hahead]
          omega
        · rw [List.cons_append, poll_got hgot hlen]
          exact hpoll more
      · refine Or.inr ⟨⟨got.length, ok⟩ :: script, hcalm.append hq, fun n => ?_⟩
        rw [List.cons_append, poll_got hgot hlen]
        exact hnone n

/-- **The loop over a transport simulates the loop over a script.** -/
theorem pollOver_simulates (h : Transport read ok unread ahead) (fuel : Nat) (s : σ) :
    Simulates ok fuel unread ahead (fun t => pollOver read ok want feed fuel t s)
      (polled ok want feed s) := by
  unfold polled
  constructor
  · rintro t ⟨e, s'⟩ t' hrun
    obtain ⟨script, hpoll⟩ := pollOver_follows h hrun
    refine ⟨script, fun more => ?_⟩
    dsimp only
    rw [hpoll]
    rfl
  · intro t hfuel
    rcases pollOver_keeps h hfuel with ⟨e, s', t', script, hrun, hq, hle, hpoll⟩ | ⟨script, hq, hnone⟩
    · refine Or.inl ⟨(e, s'), t', script, hrun, hq, by omega, fun more => ?_⟩
      dsimp only
      rw [hpoll]
      rfl
    · refine Or.inr ⟨script, hq, fun n => ?_⟩
      dsimp only
      rw [hnone]
      rfl

end

/-! ## The same elements, cut in other pieces -/

/-- When the reader returns on some source that does not fail, it returns the same on any other one with
the same queue that is ready often enough, and consumes the same elements. -/
def Steady (ok : ε) (f : Source α ε → Option (β × Source α ε)) : Prop :=
  ∀ s₁ s₂ b s₁', Calm ok s₁.script → Calm ok s₂.script → s₁.pending = s₂.pending →
    s₂.pending.length ≤ credit s₂.script → f s₁ = some (b, s₁') →
      Calm ok s₁'.script ∧ ∃ s₂', f s₂ = some (b, s₂') ∧ Calm ok s₂'.script ∧
        s₁'.pending = s₂'.pending ∧ s₂'.pending.length ≤ credit s₂'.script

namespace Steady

variable {ok : ε}

theorem pure (b : β) : Steady ok (fun s : Source α ε => some (b, s)) := by
  intro s₁ s₂ b' s₁' h₁ h₂ hsame hcredit hrun
  cases hrun
  exact ⟨h₁, s₂, rfl, h₂, hsame, hcredit⟩

theorem bind {f : Source α ε → Option (β × Source α ε)} {f' : β × Source α ε → Option (γ × Source α ε)}
    (h : Steady ok f) (h' : ∀ b, Steady ok (fun s => f' (b, s))) :
    Steady ok (fun s => (f s).bind f') := by
  intro s₁ s₂ c s₁'' h₁ h₂ hsame hcredit hrun
  obtain ⟨⟨b, s₁'⟩, hf, hf'⟩ := Option.bind_eq_some_iff.mp hrun
  obtain ⟨h₁', s₂', hs₂, h₂', hsame', hcredit'⟩ := h s₁ s₂ b s₁' h₁ h₂ hsame hcredit hf
  obtain ⟨h₁'', s₂'', hs₂', hlast⟩ := h' b s₁' s₂' c s₁'' h₁' h₂' hsame' hcredit' hf'
  refine ⟨h₁'', s₂'', ?_, hlast⟩
  dsimp only
  rw [hs₂]
  exact hs₂'

theorem map {f : Source α ε → Option (β × Source α ε)} (h : Steady ok f) (k : β → γ) :
    Steady ok (fun s => (f s).map (fun r => (k r.1, r.2))) := by
  simp only [Option.map_eq_bind]
  exact h.bind (fun b => pure (k b))

theorem ite {p : Prop} [Decidable p] {f f' : Source α ε → Option (β × Source α ε)} (h : Steady ok f)
    (h' : Steady ok f') : Steady ok (fun s => if p then f s else f' s) := by
  by_cases hp : p
  · simp only [if_pos hp]
    exact h
  · simp only [if_neg hp]
    exact h'

/-- A transport that has the elements of a source ahead returns what the source returns. -/
theorem returns {fuel : Nat} {unread ahead : τ → List α} {g : τ → Option (β × τ)}
    {f : Source α ε → Option (β × Source α ε)} (hf : Steady ok f)
    (h : Simulates ok fuel unread ahead g f) {s s' : Source α ε} {b : β} (hcalm : Calm ok s.script)
    (hrun : f s = some (b, s')) {t : τ} (hahead : ahead t = s.pending) (hfuel : (ahead t).length < fuel) :
    ∃ t', g t = some (b, t') := by
  have hother : ∀ script, Calm ok script →
      ∃ s₂, f ⟨script ++ List.replicate (ahead t).length ⟨1, ok⟩, ahead t⟩ = some (b, s₂) := by
    intro script hscript
    obtain ⟨-, s₂, hs₂, -⟩ := hf s ⟨script ++ List.replicate (ahead t).length ⟨1, ok⟩, ahead t⟩ b s' hcalm
      (hscript.append (calm_replicate ok _)) hahead.symm
      (by rw [credit_append, credit_replicate]; exact Nat.le_add_left _ _) hrun
    exact ⟨s₂, hs₂⟩
  rcases h.keeps t hfuel with ⟨b', t', script, hg, hscript, -, hsim⟩ | ⟨script, hscript, hnone⟩
  · obtain ⟨s₂, hs₂⟩ := hother script hscript
    rw [hsim] at hs₂
    cases hs₂
    exact ⟨t', hg⟩
  · obtain ⟨s₂, hs₂⟩ := hother script hscript
    rw [hnone] at hs₂
    cases hs₂

end Steady

section

variable [DecidableEq α] [DecidableEq ε] {ok : ε} {want : σ → Nat} {feed : σ → List α → σ} {s : σ}

/-- `c` is the shortest list after which nothing more is wanted. -/
def Sates (want : σ → Nat) (feed : σ → List α → σ) (s : σ) (c : List α) : Prop :=
  want (feed s c) = 0 ∧ ∀ d, d <+: c → want (feed s d) = 0 → d = c

/-- It does not matter in which pieces the state is fed, and fewer elements than are wanted are not
enough. -/
structure Divisible (want : σ → Nat) (feed : σ → List α → σ) : Prop where
  nil : ∀ s, feed s [] = s
  append : ∀ s a b, feed s (a ++ b) = feed (feed s a) b
  wanted : ∀ s got, got.length < want s → want (feed s got) ≠ 0

/-- What a loop that ends without an error has consumed. -/
theorem poll_sates (h : Divisible want feed) {script : List (Outcome ε)} {pending : List α}
    {r : Polled σ α ε} (hr : poll ok want feed script s pending = some r) (hok : r.error = ok) :
    ∃ c, Sates want feed s c ∧ pending = c ++ r.pending ∧ r.state = feed s c := by
  have hI : ∀ (s' : σ) (c chunk : List α),
      (s' = feed s c ∧ ∀ d, d <+: c → want (feed s d) = 0 → d = c) → chunk ≠ [] →
      chunk.length ≤ want s' → (feed s' chunk = feed s (c ++ chunk) ∧
        ∀ d, d <+: c ++ chunk → want (feed s d) = 0 → d = c ++ chunk) := by
    rintro s' c chunk ⟨rfl, hfirst⟩ hchunk hlen
    refine ⟨(h.append s c chunk).symm, ?_⟩
    intro d hd hzero
    rcases List.prefix_or_prefix_of_prefix hd (List.prefix_append c chunk) with hshort | ⟨d, rfl⟩
    · -- the state still wanted something after `c`
      have hpos := List.length_pos_of_ne_nil hchunk
      rw [hfirst d hshort hzero] at hzero
      omega
    · have hd := (List.prefix_append_right_inj c).mp hd
      rw [h.append] at hzero
      have hge : ¬ d.length < want (feed s c) := fun hlt => h.wanted _ d hlt hzero
      rw [hd.eq_of_length_le (by omega)]
  obtain ⟨⟨c, hc, hstate, hfirst⟩, hdone⟩ :=
    poll_sound (I := fun s' c => s' = feed s c ∧ ∀ d, d <+: c → want (feed s d) = 0 → d = c) hI (c := [])
      ⟨(h.nil s).symm, fun d hd _ => List.prefix_nil.mp hd⟩ hr
  rw [List.nil_append] at hstate hfirst
  refine ⟨c, ⟨?_, hfirst⟩, hc, hstate⟩
  rw [← hstate]
  exact hdone.mp hok

/-- A loop that gets what it wants ends as soon as it has got it. -/
theorem poll_of_sates (h : Divisible want feed) {c : List α} (hc : Sates want feed s c) (rest : List α)
    {script : List (Outcome ε)} (hq : Quiet ok script) (hcredit : c.length ≤ credit script) :
    ∃ script', poll ok want feed script s (c ++ rest) = some ⟨ok, feed s c, script', rest⟩ ∧
      credit script ≤ credit script' + c.length := by
  have hJ : ∀ (k : Nat) (s' : σ) (p : List α) (n : Nat),
      (∃ gone left, c = gone ++ left ∧ s' = feed s gone ∧ k = left.length ∧ p = left ++ rest) →
      0 < n → n ≤ want s' → ∃ k', k = k' + n ∧ n ≤ p.length ∧
        ∃ gone left, c = gone ++ left ∧ feed s' (p.take n) = feed s gone ∧ k' = left.length ∧
          p.drop n = left ++ rest := by
    rintro k s' p n ⟨gone, left, hgone, rfl, rfl, rfl⟩ hn hle
    have henough : want (feed s gone) ≤ left.length := by
      by_contra hlt
      refine h.wanted (feed s gone) left (by omega) ?_
      rw [← h.append, ← hgone]
      exact hc.1
    have hnleft : n ≤ left.length := Nat.le_trans hle henough
    refine ⟨left.length - n, by omega, by rw [List.length_append]; omega, gone ++ left.take n, left.drop n,
      ?_, ?_, by rw [List.length_drop], ?_⟩
    · rw [List.append_assoc, List.take_append_drop]
      exact hgone
    · rw [List.take_append_of_le_length hnleft, h.append]
    · rw [List.drop_append_of_le_length hnleft]
  rcases poll_quiet want feed (J := fun k s' p => ∃ gone left, c = gone ++ left ∧
      s' = feed s gone ∧ k = left.length ∧ p = left ++ rest) hJ (k := c.length) (s := s)
      (p := c ++ rest) ⟨[], c, rfl, (h.nil s).symm, rfl, rfl⟩ hq with
    ⟨-, hlt⟩ | ⟨⟨e, state, script', p⟩, k', hr, hok, hw, ⟨gone, left, hgone, hstate, hk', hp⟩, -, -, hleft⟩
  · omega
  · dsimp only at hok hw hstate hp hleft
    have hall : gone = c := by
      refine hc.2 gone ⟨left, hgone.symm⟩ ?_
      rw [← hstate]
      exact hw
    have hnil : left = [] := by
      rw [hall] at hgone
      exact List.self_eq_append_right.mp hgone
    refine ⟨script', ?_, by omega⟩
    rw [hr, hok, hstate, hall, hp, hnil]
    rfl

/-- The loop is steady: on every source it consumes the same front. -/
theorem polled_steady (h : Divisible want feed) (s : σ) : Steady ok (polled ok want feed s) := by
  intro s₁ s₂ b s₁' hcalm₁ hcalm₂ hsame hcredit hrun
  obtain ⟨hsuffix₁, hok₁⟩ := polled_script hrun
  refine ⟨fun o ho => hcalm₁ o (hsuffix₁.subset ho), ?_⟩
  obtain ⟨r, hr, heq⟩ := Option.map_eq_some_iff.mp hrun
  cases heq
  have hok : r.error = ok := hok₁ hcalm₁
  obtain ⟨c, hc, hpending, hstate⟩ := poll_sates h hr hok
  rw [hsame] at hpending
  have hlength : s₂.pending.length = c.length + r.pending.length := by rw [hpending, List.length_append]
  obtain ⟨script', hr₂, hleft⟩ := poll_of_sates h hc r.pending hcalm₂.quiet (by omega)
  have hrun₂ : polled ok want feed s s₂ = some ((r.error, r.state), ⟨script', r.pending⟩) := by
    rw [polled, hpending, hr₂, hok, hstate]
    rfl
  obtain ⟨hsuffix₂, -⟩ := polled_script hrun₂
  refine ⟨⟨script', r.pending⟩, hrun₂, fun o ho => hcalm₂ o (hsuffix₂.subset ho), rfl, ?_⟩
  dsimp only
  omega

end

end Polling
