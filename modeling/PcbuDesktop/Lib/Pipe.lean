import PcbuDesktop.Lib.Runs

set_option autoImplicit false

/-! # Pipes and messages on them

A `Pipe` is one direction of a stream connection: what its writer has put into it and what its
reader has taken out, which is always a prefix. Messages are written one after the other with a code
in which no message is a prefix of another one; then what the reader finds are the messages the writer
has put in, in their order.
-/

namespace Pipes

variable {β μ : Type}

/-! ## Prefix codes -/

/-- No word of the code begins with another one, among the messages that meet `ok`. -/
structure PrefixCode (ok : μ → Prop) (code : μ → List β) : Prop where
  eq_of_isPrefix : ∀ {a b}, ok a → ok b → code a <+: code b → a = b
  ne_nil : ∀ a, code a ≠ []

namespace PrefixCode

variable {ok : μ → Prop} {code : μ → List β}

theorem prefix_of_flatMap (h : PrefixCode ok code) {xs : List μ} : ∀ {ys : List μ},
    (∀ a ∈ xs, ok a) → (∀ b ∈ ys, ok b) → xs.flatMap code <+: ys.flatMap code → xs <+: ys := by
  induction xs with
  | nil => exact fun _ _ _ => List.nil_prefix
  | cons x xs ih =>
      intro ys hxs hys hstart
      cases ys with
      | nil =>
          rw [List.flatMap_cons, List.flatMap_nil, List.prefix_nil, List.append_eq_nil_iff] at hstart
          exact absurd hstart.1 (h.ne_nil x)
      | cons y ys =>
          rw [List.flatMap_cons, List.flatMap_cons] at hstart
          -- both first words are prefixes of the second text, so one begins with the other
          have hx : code x <+: code y ++ ys.flatMap code := (List.prefix_append _ _).trans hstart
          have hokx := hxs x List.mem_cons_self
          have hoky := hys y List.mem_cons_self
          have hxy : x = y := by
            rcases List.prefix_or_prefix_of_prefix hx (List.prefix_append _ _) with hxy | hyx
            · exact h.eq_of_isPrefix hokx hoky hxy
            · exact (h.eq_of_isPrefix hoky hokx hyx).symm
          subst hxy
          rw [List.prefix_append_right_inj] at hstart
          have hrest := ih (fun a ha => hxs a (List.mem_cons_of_mem x ha))
            (fun b hb => hys b (List.mem_cons_of_mem x hb)) hstart
          rw [List.prefix_cons_inj]
          exact hrest

end PrefixCode

/-! ## Pipes -/

/-- What has been put into a pipe and what has been taken out. -/
structure Pipe (β : Type) where
  sent : List β
  taken : List β
  taken_isPrefix : taken <+: sent

namespace Pipe

def empty : Pipe β := ⟨[], [], List.prefix_refl []⟩

def put (p : Pipe β) (b : β) : Pipe β :=
  ⟨p.sent ++ [b], p.taken, p.taken_isPrefix.trans (List.prefix_append _ _)⟩

theorem take_isPrefix (p : Pipe β) {b : β} (h : p.sent[p.taken.length]? = some b) :
    p.taken ++ [b] <+: p.sent := by
  obtain ⟨rest, hrest⟩ := p.taken_isPrefix
  rw [← hrest, List.getElem?_append_right (Nat.le_refl _), Nat.sub_self] at h
  obtain ⟨rest', rfl⟩ := List.head?_eq_some_iff.mp (List.head?_eq_getElem?.trans h)
  exact ⟨rest', by rw [← hrest, List.append_assoc, List.singleton_append]⟩

/-- The next item is taken out, if there is one. -/
def take? (p : Pipe β) : Option (β × Pipe β) :=
  match h : p.sent[p.taken.length]? with
  | none => none
  | some b => some (b, ⟨p.sent, p.taken ++ [b], p.take_isPrefix h⟩)

@[simp] theorem sent_put (p : Pipe β) (b : β) : (p.put b).sent = p.sent ++ [b] := rfl

@[simp] theorem taken_put (p : Pipe β) (b : β) : (p.put b).taken = p.taken := rfl

/-- The next item of those that are on their way. -/
theorem take?_of_append {p : Pipe β} {b : β} {rest : List β} (h : p.sent = p.taken ++ b :: rest) :
    ∃ p', p.take? = some (b, p') ∧ p'.sent = p.sent ∧ p'.taken = p.taken ++ [b] := by
  have hnext : p.sent[p.taken.length]? = some b := by
    rw [h, List.getElem?_append_right (Nat.le_refl _), Nat.sub_self]
    rfl
  refine ⟨⟨p.sent, p.taken ++ [b], p.take_isPrefix hnext⟩, ?_, rfl, rfl⟩
  unfold take?
  split
  · rename_i hnone
    rw [hnext] at hnone
    cases hnone
  · rename_i b' hsome
    rw [hnext] at hsome
    cases hsome
    rfl

theorem take?_eq_some {p p' : Pipe β} {b : β} (h : p.take? = some (b, p')) :
    p'.sent = p.sent ∧ p'.taken = p.taken ++ [b] := by
  unfold take? at h
  split at h
  · cases h
  · cases h
    exact ⟨rfl, rfl⟩

/-- A writer that puts the next item of `todo` into the pipe at each step puts all of them in. -/
theorem reachable_put {σ ℓ : Type} (step : σ → ℓ → Option σ) (l : ℓ) {f : List β → Pipe β → σ}
    (hstep : ∀ b todo p, step (f (b :: todo) p) l = some (f todo (p.put b))) (todo : List β) :
    ∀ p : Pipe β, ∃ p' : Pipe β, p'.sent = p.sent ++ todo ∧ p'.taken = p.taken ∧
      Runs.Reachable step (f todo p) (f [] p') := by
  induction todo with
  | nil => exact fun p => ⟨p, (List.append_nil _).symm, rfl, Runs.Reachable.refl⟩
  | cons b todo ih =>
      intro p
      obtain ⟨p', hsent, htaken, hrest⟩ := ih (p.put b)
      refine ⟨p', ?_, htaken.trans (taken_put p b),
        (Runs.Reachable.of_step (hstep b todo p)).trans hrest⟩
      rw [hsent, sent_put, List.append_assoc, List.singleton_append]

end Pipe

end Pipes
