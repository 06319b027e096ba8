import Mathlib.Data.List.Basic

set_option autoImplicit false

/-! # Polling a byte transport

A transport moves the front of a queue in pieces of its own choosing. One call asks for at most
some number of elements; the transport's answer is an `Outcome`: at most `limit` elements are
moved, and when none is, the caller looks at the reported `error`. A script of outcomes is the
whole behaviour of the transport towards a sequence of calls.

`poll` is the loop that callers run on top of it: as long as the state wants elements, ask; feed
what came; return when an error comes with nothing; ask again when nothing came and there is no
error. `none` means that the script ended while the loop was still asking. `poll_sound` says what
any return of the loop has consumed, `poll_quiet` that on a script without errors the loop
returns once the script has been generous often enough.
-/

namespace Polling

variable {σ α ε : Type}

/-- The transport's answer to one call. -/
structure Outcome (ε : Type) where
  limit : Nat
  error : ε

/-- What a returned loop leaves behind. -/
structure Polled (σ α ε : Type) where
  error : ε
  state : σ
  script : List (Outcome ε)
  pending : List α

/-- The loop; `want` says how many elements the state can still take, `feed` takes them. -/
def poll [DecidableEq α] [DecidableEq ε] (ok : ε) (want : σ → Nat) (feed : σ → List α → σ) :
    List (Outcome ε) → σ → List α → Option (Polled σ α ε)
  | [], s, pending => if want s = 0 then some ⟨ok, s, [], pending⟩ else none
  | o :: script, s, pending =>
      if want s = 0 then some ⟨ok, s, o :: script, pending⟩
      else
        let got := pending.take (min o.limit (want s))
        if got = [] then
          -- nothing came: only now the reported error is looked at
          if o.error = ok then poll ok want feed script s pending
          else some ⟨o.error, s, script, pending⟩
        else poll ok want feed script (feed s got) (pending.drop (min o.limit (want s)))

/-- An empty answer of the transport never comes with an error. -/
def Quiet (ok : ε) (script : List (Outcome ε)) : Prop := ∀ o ∈ script, o.limit = 0 → o.error = ok

/-- The number of calls for which the transport is ready to move something. -/
def credit (script : List (Outcome ε)) : Nat := (script.filter (fun o => 0 < o.limit)).length

theorem credit_cons (o : Outcome ε) (script : List (Outcome ε)) :
    credit (o :: script) = credit script + if 0 < o.limit then 1 else 0 := by
  by_cases h : 0 < o.limit
  · simp [credit, h]
  · simp [credit, h]

theorem Quiet.tail {ok : ε} {o : Outcome ε} {script : List (Outcome ε)}
    (h : Quiet ok (o :: script)) : Quiet ok script :=
  fun o' ho' => h o' (List.mem_cons_of_mem _ ho')

section

variable [DecidableEq α] [DecidableEq ε] {ok : ε} {want : σ → Nat} {feed : σ → List α → σ}

/-- **What a return has consumed.** An invariant `I` of the state and the elements consumed so
far, kept by every chunk no longer than wanted, holds at the return; the rest of the queue is
untouched, and the loop returns `ok` exactly when nothing more is wanted. -/
theorem poll_sound {I : σ → List α → Prop}
    (hI : ∀ s c chunk, I s c → chunk ≠ [] → chunk.length ≤ want s → I (feed s chunk) (c ++ chunk))
    {script : List (Outcome ε)} {s : σ} {c pending : List α} {r : Polled σ α ε} (hs : I s c)
    (h : poll ok want feed script s pending = some r) :
    (∃ c', pending = c' ++ r.pending ∧ I r.state (c ++ c')) ∧
      (r.error = ok ↔ want r.state = 0) := by
  induction script generalizing s c pending with
  | nil =>
      unfold poll at h
      split at h
      · next hw =>
          cases h
          exact ⟨⟨[], rfl, by rwa [List.append_nil]⟩, by simp [hw]⟩
      · cases h
  | cons o script ih =>
      unfold poll at h
      split at h
      · next hw =>
          cases h
          exact ⟨⟨[], rfl, by rwa [List.append_nil]⟩, by simp [hw]⟩
      · next hw =>
          dsimp only at h
          split at h
          · split at h
            · exact ih hs h
            · next he =>
                cases h
                exact ⟨⟨[], rfl, by rwa [List.append_nil]⟩, by simp [hw, he]⟩
          · next hgot =>
              have hlen : (pending.take (min o.limit (want s))).length ≤ want s := by
                rw [List.length_take]
                omega
              obtain ⟨⟨c', hc', hi⟩, hok⟩ := ih (hI s c _ hs hgot hlen) h
              refine ⟨⟨pending.take (min o.limit (want s)) ++ c', ?_, ?_⟩, hok⟩
              · rw [List.append_assoc, ← hc', List.take_append_drop]
              · rwa [List.append_assoc] at hi

/-- **Progress without errors.** `J k s p` says that in state `s` with the queue `p` exactly `k`
more elements are needed. On a quiet script the loop returns `ok` as soon as the script has
enough credit, and spends no more of it than it takes elements. -/
theorem poll_quiet (want : σ → Nat) (feed : σ → List α → σ) {J : Nat → σ → List α → Prop}
    (hJ : ∀ k s p n, J k s p → 0 < n → n ≤ want s →
      ∃ k', k = k' + n ∧ n ≤ p.length ∧ J k' (feed s (p.take n)) (p.drop n))
    {script : List (Outcome ε)} {k : Nat} {s : σ} {p : List α} (hs : J k s p)
    (hq : Quiet ok script) :
    (poll ok want feed script s p = none ∧ credit script < k) ∨
    (∃ r k', poll ok want feed script s p = some r ∧ r.error = ok ∧ want r.state = 0 ∧
      J k' r.state r.pending ∧ k' ≤ k ∧ Quiet ok r.script ∧
      credit script + k' ≤ credit r.script + k) := by
  induction script generalizing k s p with
  | nil =>
      by_cases hw : want s = 0
      · exact Or.inr ⟨⟨ok, s, [], p⟩, k, by simp [poll, hw], rfl, hw, hs, Nat.le_refl k, hq,
          Nat.le_refl _⟩
      · obtain ⟨k', hk, -, -⟩ := hJ k s p 1 hs Nat.one_pos (by omega)
        refine Or.inl ⟨by simp [poll, hw], ?_⟩
        show 0 < k
        omega
  | cons o script ih =>
      by_cases hw : want s = 0
      · exact Or.inr ⟨⟨ok, s, o :: script, p⟩, k, by simp [poll, hw], rfl, hw, hs, Nat.le_refl k,
          hq, Nat.le_refl _⟩
      have hcredit := credit_cons o script
      by_cases hlim : o.limit = 0
      · -- an empty answer, which the quiet script gives without an error
        have hstep : poll ok want feed (o :: script) s p = poll ok want feed script s p := by
          simp [poll, hw, hlim, hq o List.mem_cons_self hlim]
        have hsame : credit (o :: script) = credit script := by simp [hcredit, hlim]
        rw [hstep, hsame]
        exact ih hs hq.tail
      · have hn : 0 < min o.limit (want s) := by omega
        obtain ⟨k', hk, hp, hJ'⟩ := hJ k s p _ hs hn (Nat.min_le_right _ _)
        have hgot : p.take (min o.limit (want s)) ≠ [] := by
          apply List.ne_nil_of_length_pos
          rw [List.length_take]
          omega
        have hstep : poll ok want feed (o :: script) s p =
            poll ok want feed script (feed s (p.take (min o.limit (want s))))
              (p.drop (min o.limit (want s))) := by
          simp only [poll, hw, hgot, if_false]
        have hmore : credit (o :: script) = credit script + 1 := by
          rw [hcredit, if_pos (by omega)]
        rw [hstep, hmore]
        rcases ih hJ' hq.tail with ⟨hnone, hlt⟩ | ⟨r, j, hr, hok, hwr, hj, hjk, hqr, hc⟩
        · exact Or.inl ⟨hnone, by omega⟩
        · exact Or.inr ⟨r, j, hr, hok, hwr, hj, by omega, hqr, by omega⟩

end

/-! ## Moving a given number of elements -/

section

variable [DecidableEq α] [DecidableEq ε] {ok : ε}

/-- Collect elements until there are `size` of them. -/
def fill (ok : ε) (size : Nat) (script : List (Outcome ε)) (pending : List α) :
    Option (Polled (List α) α ε) :=
  poll ok (fun buffer => size - buffer.length) (fun buffer got => buffer ++ got) script []
    pending

/-- What has been collected is the part of the queue that is gone; without an error it has
exactly the asked length. -/
theorem fill_sound {size : Nat} {script : List (Outcome ε)} {pending : List α}
    {r : Polled (List α) α ε} (h : fill ok size script pending = some r) :
    pending = r.state ++ r.pending ∧ (r.error = ok ↔ r.state.length = size) := by
  have hI : ∀ (s c chunk : List α), (s = c ∧ s.length ≤ size) → chunk ≠ [] →
      chunk.length ≤ size - s.length → (s ++ chunk = c ++ chunk ∧ (s ++ chunk).length ≤ size) := by
    rintro s c chunk ⟨rfl, hle⟩ - hchunk
    rw [List.length_append]
    exact ⟨rfl, by omega⟩
  obtain ⟨⟨c, hc, hstate, hle⟩, hok⟩ :=
    poll_sound (I := fun s c => s = c ∧ s.length ≤ size) hI ⟨rfl, Nat.zero_le _⟩ h
  rw [List.nil_append] at hstate
  refine ⟨by rw [hstate]; exact hc, ?_⟩
  rw [hok]
  omega

/-- On a quiet script `fill` returns exactly the next `size` elements, once there is credit. -/
theorem fill_quiet {script : List (Outcome ε)} (hq : Quiet ok script) (data rest : List α) :
    (fill ok data.length script (data ++ rest) = none ∧ credit script < data.length) ∨
    (∃ script', fill ok data.length script (data ++ rest) = some ⟨ok, data, script', rest⟩ ∧
      Quiet ok script' ∧ credit script ≤ credit script' + data.length) := by
  have hJ : ∀ (k : Nat) (s p : List α) (n : Nat),
      (s ++ p = data ++ rest ∧ s.length + k = data.length) → 0 < n → n ≤ data.length - s.length →
      ∃ k', k = k' + n ∧ n ≤ p.length ∧
        ((s ++ p.take n) ++ p.drop n = data ++ rest ∧ (s ++ p.take n).length + k' = data.length) := by
    rintro k s p n ⟨hsp, hk⟩ hn hle
    have hlen : s.length + p.length = data.length + rest.length := by
      rw [← List.length_append, hsp, List.length_append]
    refine ⟨k - n, by omega, by omega, ?_, ?_⟩
    · rw [List.append_assoc, List.take_append_drop, hsp]
    · rw [List.length_append, List.length_take]
      omega
  rcases poll_quiet (fun buffer : List α => data.length - buffer.length)
      (fun buffer got => buffer ++ got)
      (J := fun k s p => s ++ p = data ++ rest ∧ s.length + k = data.length) hJ
      (k := data.length) (s := []) (p := data ++ rest) ⟨rfl, by simp⟩ hq with h | h
  · exact Or.inl h
  · obtain ⟨⟨e, s, script', p⟩, k', hr, he, hw, ⟨hsp, hk⟩, -, hq', hc⟩ := h
    dsimp only at he hw hsp hk hq' hc
    -- nothing is wanted any more, so the buffer is the wanted prefix
    have hlen : s.length = data.length := by omega
    obtain ⟨rfl, rfl⟩ := List.append_inj hsp hlen
    subst he
    exact Or.inr ⟨script', hr, hq', by omega⟩

end

/-! ## Readers

A reader takes a source (the transport's coming answers and its queue) to a value and the rest
of the source. `Gets f bytes b` says that on a quiet transport `f` consumes exactly `bytes` from
the front of the queue and gives `b`, whatever follows them and however they are cut. -/

/-- The reading end of a transport. -/
structure Source (α ε : Type) where
  script : List (Outcome ε)
  pending : List α

section

variable {β γ : Type} {ok : ε}

def Gets (ok : ε) (f : Source α ε → Option (β × Source α ε)) (bytes : List α) (b : β) : Prop :=
  ∀ (script : List (Outcome ε)) (rest : List α), Quiet ok script →
    (f ⟨script, bytes ++ rest⟩ = none ∧ credit script < bytes.length) ∨
    (∃ script', f ⟨script, bytes ++ rest⟩ = some (b, ⟨script', rest⟩) ∧ Quiet ok script' ∧
      credit script ≤ credit script' + bytes.length)

theorem Gets.pure (b : β) : Gets ok (fun s : Source α ε => some (b, s)) [] b := by
  intro script rest hq
  exact Or.inr ⟨script, rfl, hq, Nat.le_refl _⟩

/-- Two readers after each other consume the two pieces after each other. -/
theorem Gets.bind {f : Source α ε → Option (β × Source α ε)}
    {g : β × Source α ε → Option (γ × Source α ε)} {x y : List α} {b : β} {c : γ}
    (hf : Gets ok f x b) (hg : Gets ok (fun s => g (b, s)) y c) :
    Gets ok (fun s => (f s).bind g) (x ++ y) c := by
  intro script rest hq
  dsimp only
  rw [List.append_assoc, List.length_append]
  rcases hf script (y ++ rest) hq with ⟨hnone, hlt⟩ | ⟨script₁, hsome, hq₁, hc₁⟩
  · exact Or.inl ⟨by rw [hnone]; rfl, by omega⟩
  · rw [hsome, Option.bind_some]
    rcases hg script₁ rest hq₁ with ⟨hnone, hlt⟩ | ⟨script₂, hsome₂, hq₂, hc₂⟩
    · exact Or.inl ⟨hnone, by omega⟩
    · exact Or.inr ⟨script₂, hsome₂, hq₂, by omega⟩

/-- A reader followed by a computation that reads nothing. -/
theorem Gets.map {f : Source α ε → Option (β × Source α ε)}
    {g : β × Source α ε → Option (γ × Source α ε)} {x : List α} {b : β} {c : γ}
    (hf : Gets ok f x b) (hg : ∀ s, g (b, s) = some (c, s)) :
    Gets ok (fun s => (f s).bind g) x c := by
  have hpure : Gets ok (fun s => g (b, s)) [] c := by
    rw [funext hg]
    exact Gets.pure c
  have h := hf.bind hpure
  rwa [List.append_nil] at h

/-- With enough credit the reader returns. -/
theorem Gets.returns {f : Source α ε → Option (β × Source α ε)} {bytes : List α} {b : β}
    (h : Gets ok f bytes b) {script : List (Outcome ε)} (rest : List α) (hq : Quiet ok script)
    (hc : bytes.length ≤ credit script) : ∃ r, f ⟨script, bytes ++ rest⟩ = some r := by
  rcases h script rest hq with ⟨-, hlt⟩ | ⟨script', hsome, -, -⟩
  · omega
  · exact ⟨_, hsome⟩

/-- Whenever it returns, it returns the value and has consumed exactly its bytes. -/
theorem Gets.result {f : Source α ε → Option (β × Source α ε)} {bytes : List α} {b b' : β}
    (h : Gets ok f bytes b) {script : List (Outcome ε)} {rest : List α} (hq : Quiet ok script)
    {s' : Source α ε} (hr : f ⟨script, bytes ++ rest⟩ = some (b', s')) :
    b' = b ∧ s'.pending = rest := by
  rcases h script rest hq with ⟨hnone, -⟩ | ⟨script', hsome, -, -⟩
  · rw [hnone] at hr
    cases hr
  · rw [hsome] at hr
    cases hr
    exact ⟨rfl, rfl⟩

end

end Polling
