import Mathlib.Data.List.Basic
import Mathlib.Logic.Function.Basic

set_option autoImplicit false

/-! # Runs of a labelled transition system

A system is a partial step function `step : σ → ℓ → Option σ`: in a state, a label (which
thread moves, and what its environment answers) leads to at most one next state. A run is a
list of labels, executed by `exec`. A property of every run is proved from what one step
preserves (`exec_inv`), possibly under a condition on the steps taken (`Along`,
`exec_inv_along`); two systems are compared step by step (`exec_sim`).
-/

namespace Runs

variable {σ τ ℓ κ : Type}

/-- Execute the labels from left to right; `none` as soon as one of them is not enabled. -/
def exec (step : σ → ℓ → Option σ) : σ → List ℓ → Option σ
  | s, [] => some s
  | s, l :: ls => (step s l).bind (fun s' => exec step s' ls)

/-- `P` holds of every step (state before, label) that the run from `s` along the labels
takes. -/
def Along (step : σ → ℓ → Option σ) (P : σ → ℓ → Prop) : σ → List ℓ → Prop
  | _, [] => True
  | s, l :: ls => P s l ∧ ∀ s', step s l = some s' → Along step P s' ls

/-- The states that some run from `init` ends in. -/
def Reachable (step : σ → ℓ → Option σ) (init s : σ) : Prop :=
  ∃ ls, exec step init ls = some s

section

variable {step : σ → ℓ → Option σ} {s s' s'' : σ} {l : ℓ} {ls ls' : List ℓ}

@[simp] theorem exec_nil : exec step s [] = some s := rfl

@[simp] theorem exec_singleton : exec step s [l] = step s l := by
  cases h : step s l <;> simp [exec, h]

theorem exec_cons_eq_some :
    exec step s (l :: ls) = some s'' ↔ ∃ s', step s l = some s' ∧ exec step s' ls = some s'' := by
  simp [exec, Option.bind_eq_some_iff]

theorem exec_append_eq_some :
    exec step s (ls ++ ls') = some s'' ↔
      ∃ s', exec step s ls = some s' ∧ exec step s' ls' = some s'' := by
  induction ls generalizing s with
  | nil => simp
  | cons l ls ih =>
      simp only [List.cons_append, exec_cons_eq_some, ih]
      constructor
      · rintro ⟨a, ha, b, hb, hc⟩
        exact ⟨b, ⟨a, ha, hb⟩, hc⟩
      · rintro ⟨b, ⟨a, ha, hb⟩, hc⟩
        exact ⟨a, ha, b, hb, hc⟩

/-- **Invariant rule, conditional form.** What every step meeting `P` preserves holds at the
end of every run whose steps all meet `P`. -/
theorem exec_inv_along {I : σ → Prop} {P : σ → ℓ → Prop}
    (hstep : ∀ s l s', I s → P s l → step s l = some s' → I s')
    (hI : I s) (hP : Along step P s ls) (h : exec step s ls = some s') : I s' := by
  induction ls generalizing s with
  | nil => cases h; exact hI
  | cons l ls ih =>
      obtain ⟨m, hm, hrest⟩ := exec_cons_eq_some.mp h
      exact ih (hstep s l m hI hP.1 hm) (hP.2 m hm) hrest

theorem along_of_forall {P : σ → ℓ → Prop} (hP : ∀ s, ∀ l ∈ ls, P s l) : Along step P s ls := by
  induction ls generalizing s with
  | nil => exact trivial
  | cons l ls ih =>
      exact ⟨hP s l (by simp), fun s' _ => ih (fun t k hk => hP t k (by simp [hk]))⟩

theorem along_drop {P : σ → ℓ → Prop} (hP : Along step P s (ls ++ ls'))
    (h : exec step s ls = some s') : Along step P s' ls' := by
  induction ls generalizing s with
  | nil => cases h; exact hP
  | cons l ls ih =>
      obtain ⟨m, hm, hrest⟩ := exec_cons_eq_some.mp h
      exact ih (hP.2 m hm) hrest

/-- A test of a condition along a concrete run. -/
def checkAlong (step : σ → ℓ → Option σ) (p : σ → ℓ → Bool) : σ → List ℓ → Bool
  | _, [] => true
  | s, l :: ls => p s l && (match step s l with
      | none => true
      | some s' => checkAlong step p s' ls)

theorem along_of_check {P : σ → ℓ → Prop} {p : σ → ℓ → Bool} (hp : ∀ s l, p s l = true → P s l)
    (h : checkAlong step p s ls = true) : Along step P s ls := by
  induction ls generalizing s with
  | nil => exact trivial
  | cons l ls ih =>
      obtain ⟨hl, hrest⟩ := Bool.and_eq_true_iff.mp h
      refine ⟨hp s l hl, ?_⟩
      intro s' hs
      rw [hs] at hrest
      exact ih hrest

theorem along_imp {P Q : σ → ℓ → Prop} (himp : ∀ s l, P s l → Q s l) (hP : Along step P s ls) :
    Along step Q s ls := by
  induction ls generalizing s with
  | nil => exact trivial
  | cons l ls ih => exact ⟨himp s l hP.1, fun s' hs => ih (hP.2 s' hs)⟩

theorem along_and {P Q : σ → ℓ → Prop} (hP : Along step P s ls) (hQ : Along step Q s ls) :
    Along step (fun s l => P s l ∧ Q s l) s ls := by
  induction ls generalizing s with
  | nil => exact trivial
  | cons l ls ih => exact ⟨⟨hP.1, hQ.1⟩, fun s' hs => ih (hP.2 s' hs) (hQ.2 s' hs)⟩

/-- **Invariant rule.** What every step preserves holds at the end of every run. -/
theorem exec_inv {I : σ → Prop} (hstep : ∀ s l s', I s → step s l = some s' → I s')
    (hI : I s) (h : exec step s ls = some s') : I s' :=
  exec_inv_along (P := fun _ _ => True) (fun s l s' hs _ => hstep s l s' hs) hI
    (along_of_forall (fun _ _ _ => trivial)) h

/-- A test at the end of a concrete run. -/
theorem exec_of_test {P : σ → Prop} [DecidablePred P]
    (h : (exec step s ls).any (fun s' => decide (P s')) = true) :
    ∃ s', exec step s ls = some s' ∧ P s' := by
  obtain ⟨s', hs, hP⟩ := (Option.any_eq_true _ _).mp h
  exact ⟨s', hs, of_decide_eq_true hP⟩

/-- What does not hold at the start of a run and holds at its end begins to hold at some step. -/
theorem exec_begins {P : σ → Prop} (h : exec step s ls = some s') (hs : ¬ P s) (hs' : P s') :
    ∃ ls₁ l ls₂ m m', ls = ls₁ ++ l :: ls₂ ∧ exec step s ls₁ = some m ∧ step m l = some m' ∧
      exec step m' ls₂ = some s' ∧ ¬ P m ∧ P m' := by
  induction ls generalizing s with
  | nil => cases h; exact absurd hs' hs
  | cons l ls ih =>
      obtain ⟨m, hm, hrest⟩ := exec_cons_eq_some.mp h
      by_cases hP : P m
      · exact ⟨[], l, ls, s, m, rfl, rfl, hm, hrest, hs, hP⟩
      · obtain ⟨ls₁, k, ls₂, t, t', rfl, ht, hk, ht', hnot, hyes⟩ := ih hrest hP
        exact ⟨l :: ls₁, k, ls₂, t, t', rfl, exec_cons_eq_some.mpr ⟨m, hm, ht⟩, hk, ht', hnot, hyes⟩

theorem Reachable.refl : Reachable step s s := ⟨[], exec_nil⟩

theorem Reachable.of_step (h : step s l = some s') : Reachable step s s' :=
  ⟨[l], exec_singleton.trans h⟩

theorem Reachable.trans (h : Reachable step s s') (h' : Reachable step s' s'') :
    Reachable step s s'' := by
  obtain ⟨ls, hls⟩ := h
  obtain ⟨ls', hls'⟩ := h'
  exact ⟨ls ++ ls', exec_append_eq_some.mpr ⟨s', hls, hls'⟩⟩

theorem Reachable.inv {I : σ → Prop} (hstep : ∀ s l s', I s → step s l = some s' → I s')
    (hI : I s) (h : Reachable step s s') : I s' := by
  obtain ⟨ls, hls⟩ := h
  exact exec_inv hstep hI hls

end

/-- **Simulation.** If every step of the concrete system is matched, under the abstraction
`f`, by some run of the abstract one, then so is every run. -/
theorem exec_sim {step : σ → ℓ → Option σ} {step' : τ → κ → Option τ} (f : σ → τ)
    (hsim : ∀ s l s', step s l = some s' → ∃ ks, exec step' (f s) ks = some (f s'))
    {s s' : σ} {ls : List ℓ} (h : exec step s ls = some s') :
    ∃ ks, exec step' (f s) ks = some (f s') := by
  induction ls generalizing s with
  | nil => cases h; exact ⟨[], rfl⟩
  | cons l ls ih =>
      obtain ⟨m, hm, hrest⟩ := exec_cons_eq_some.mp h
      obtain ⟨ks, hks⟩ := hsim s l m hm
      obtain ⟨ks', hks'⟩ := ih hrest
      exact ⟨ks ++ ks', exec_append_eq_some.mpr ⟨f m, hks, hks'⟩⟩

/-! ## Layers

A component keeps its own state beside that of another one, which it changes only by steps of
that one: `localStep` gives the component's next state and the steps it takes below. -/

/-- One step of the upper component, together with its steps below. -/
def layer (base : σ → τ) (setBase : σ → τ → σ) (step' : τ → κ → Option τ)
    (localStep : σ → ℓ → Option (σ × List κ)) (s : σ) (l : ℓ) : Option σ :=
  match localStep s l with
  | none => none
  | some (m, ks) => (exec step' (base s) ks).map (setBase m)

section

variable {base : σ → τ} {setBase : σ → τ → σ} {step' : τ → κ → Option τ}
  {localStep : σ → ℓ → Option (σ × List κ)} {s s' : σ} {l : ℓ} {ls : List ℓ}

theorem layer_eq_some (h : layer base setBase step' localStep s l = some s') :
    ∃ m ks b, localStep s l = some (m, ks) ∧ exec step' (base s) ks = some b ∧
      s' = setBase m b := by
  unfold layer at h
  split at h
  · cases h
  · next m ks hl =>
      obtain ⟨b, hb, rfl⟩ := Option.map_eq_some_iff.mp h
      exact ⟨m, ks, b, hl, hb, rfl⟩

/-- The runs of the upper component are runs of the lower one. -/
theorem layer_run (hset : ∀ s b, base (setBase s b) = b)
    (h : exec (layer base setBase step' localStep) s ls = some s') :
    ∃ ks, exec step' (base s) ks = some (base s') := by
  refine exec_sim base ?_ h
  intro a l b hab
  obtain ⟨m, ks, c, -, hc, rfl⟩ := layer_eq_some hab
  exact ⟨ks, by rw [hset]; exact hc⟩

end

/-! ## Thread maps

The threads of a system are often a partial map from names to program points, of which a step
updates one. -/

theorem update_eq_some {ι α : Type} [DecidableEq ι] {m : ι → Option α} {i j : ι} {x : Option α}
    {a : α} (h : Function.update m i x j = some a) :
    (j = i ∧ x = some a) ∨ (j ≠ i ∧ m j = some a) := by
  by_cases hj : j = i
  · subst hj
    rw [Function.update_self] at h
    exact Or.inl ⟨rfl, h⟩
  · rw [Function.update_of_ne hj] at h
    exact Or.inr ⟨hj, h⟩

/-! ## Steps that can throw -/

/-- A composition returns exactly if both parts do. -/
theorem bind_eq_ok {ε α β : Type} {x : Except ε α} {f : α → Except ε β} {b : β} :
    (x >>= f) = .ok b ↔ ∃ a, x = .ok a ∧ f a = .ok b := by
  cases x with
  | error e =>
      constructor
      · intro h
        cases h
      · rintro ⟨a, h, -⟩
        cases h
  | ok a =>
      constructor
      · intro h
        exact ⟨a, rfl, h⟩
      · rintro ⟨a', h, hf⟩
        cases h
        exact hf

end Runs
