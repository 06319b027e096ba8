import Mathlib.Data.List.DropRight

set_option autoImplicit false

/-! # Draining a queue up to a stop element

Groups of elements arrive at a queue one after the other. After each arrival the queue is drained
from its front, but only through the first `stop` element: what stands behind that one waits for
the next arrival. The other elements that are drained are handed out.

Everything that is not a stop is handed out in the end when every stop in front of it has been
removed by an arrival of its own before the last one (`drain_eq_filter_iff`).
-/

namespace Draining

variable {α : Type}

/-- What one round hands out. -/
def taken (stop : α → Bool) (queue : List α) : List α := queue.takeWhile (fun x => !stop x)

/-- What one round leaves: the elements behind the first stop. -/
def left (stop : α → Bool) (queue : List α) : List α := (queue.dropWhile (fun x => !stop x)).tail

/-- All that is handed out, one round for every group. -/
def drain (stop : α → Bool) : List (List α) → List α → List α
  | [], _ => []
  | group :: groups, queue =>
      taken stop (queue ++ group) ++ drain stop groups (left stop (queue ++ group))

/-- The number of stops in front of the last other element. -/
def inner (stop : α → Bool) (xs : List α) : Nat := (xs.rdropWhile stop).countP stop

section

variable {stop : α → Bool}

theorem inner_eq_zero_of_all {xs : List α} (h : xs.all stop = true) : inner stop xs = 0 := by
  have hnil : xs.rdropWhile stop = [] := by
    rw [List.rdropWhile_eq_nil_iff]
    exact List.all_eq_true.mp h
  rw [inner, hnil]
  rfl

theorem rdropWhile_cons {x : α} {xs : List α} (h : xs.all stop = false) :
    (x :: xs).rdropWhile stop = x :: xs.rdropWhile stop := by
  have hne : xs.reverse.dropWhile stop ≠ [] := by
    intro hnil
    rw [List.dropWhile_eq_nil_iff] at hnil
    rw [← Bool.not_eq_true, List.all_eq_true] at h
    exact h (fun y hy => hnil y (List.mem_reverse.mpr hy))
  have hempty : (xs.reverse.dropWhile stop).isEmpty = false := List.isEmpty_eq_false_iff.mpr hne
  unfold List.rdropWhile
  rw [List.reverse_cons, List.dropWhile_append, hempty]
  simp

theorem inner_cons (x : α) (xs : List α) : inner stop (x :: xs) =
    if xs.all stop = true then 0 else (if stop x = true then 1 else 0) + inner stop xs := by
  by_cases h : xs.all stop = true
  · rw [if_pos h]
    by_cases hx : stop x = true
    · exact inner_eq_zero_of_all (by rw [List.all_cons, hx, h]; rfl)
    · have hone : (x :: xs).rdropWhile stop = [x] := by
        unfold List.rdropWhile
        have hnil : xs.reverse.dropWhile stop = [] := by
          rw [List.dropWhile_eq_nil_iff]
          intro y hy
          exact List.all_eq_true.mp h y (List.mem_reverse.mp hy)
        rw [List.reverse_cons, List.dropWhile_append, hnil, List.isEmpty_nil, if_pos rfl,
          List.dropWhile_cons_of_neg hx]
        rfl
      rw [inner, hone]
      simp [hx]
  · rw [if_neg h]
    unfold inner
    rw [rdropWhile_cons (Bool.eq_false_iff.mpr h), List.countP_cons]
    omega

/-- Elements in front that are no stops do not count. -/
theorem inner_append {xs : List α} (h : ∀ x ∈ xs, stop x = false) (ys : List α) :
    inner stop (xs ++ ys) = inner stop ys := by
  induction xs with
  | nil => rfl
  | cons x xs ih =>
      have hx := h x List.mem_cons_self
      have hxs := ih (fun y hy => h y (List.mem_cons_of_mem x hy))
      rw [List.cons_append, inner_cons, hxs, hx]
      by_cases hall : (xs ++ ys).all stop = true
      · rw [List.all_append, Bool.and_eq_true] at hall
        rw [inner_eq_zero_of_all hall.2]
        simp
      · rw [if_neg hall]
        simp

/-- A first stop counts if something else stands behind it. -/
theorem inner_append_stop {xs : List α} (h : ∀ x ∈ xs, stop x = false) {s : α}
    (hs : stop s = true) (ys : List α) :
    inner stop (xs ++ s :: ys) = if ys.all stop = true then 0 else 1 + inner stop ys := by
  rw [inner_append h, inner_cons, if_pos hs]

theorem countP_eq_zero {xs : List α} (h : ∀ x ∈ xs, stop x = false) : xs.countP stop = 0 := by
  rw [List.countP_eq_zero]
  intro x hx
  rw [h x hx]
  exact nofun

theorem filter_eq_self {xs : List α} (h : ∀ x ∈ xs, stop x = false) :
    xs.filter (fun x => !stop x) = xs := by
  rw [List.filter_eq_self]
  intro x hx
  rw [h x hx]
  rfl

/-- A queue has no stop, or a first one. -/
theorem split_stop (stop : α → Bool) (queue : List α) : (∀ x ∈ queue, stop x = false) ∨
    ∃ before s behind, queue = before ++ s :: behind ∧ (∀ x ∈ before, stop x = false) ∧
      stop s = true := by
  induction queue with
  | nil => exact Or.inl nofun
  | cons x queue ih =>
      by_cases hx : stop x = true
      · exact Or.inr ⟨[], x, queue, rfl, nofun, hx⟩
      · have hx' : stop x = false := Bool.eq_false_iff.mpr hx
        rcases ih with h | ⟨before, s, behind, rfl, hbefore, hs⟩
        · exact Or.inl (List.forall_mem_cons.mpr ⟨hx', h⟩)
        · exact Or.inr ⟨x :: before, s, behind, rfl, List.forall_mem_cons.mpr ⟨hx', hbefore⟩, hs⟩

theorem taken_of_no_stop {queue : List α} (h : ∀ x ∈ queue, stop x = false) :
    taken stop queue = queue ∧ left stop queue = [] := by
  have hkeep : ∀ x ∈ queue, (!stop x) = true := fun x hx => by rw [h x hx]; rfl
  refine ⟨List.takeWhile_eq_self_iff.mpr hkeep, ?_⟩
  rw [left, List.dropWhile_eq_nil_iff.mpr hkeep]
  rfl

theorem taken_of_stop {before behind : List α} {s : α} (h : ∀ x ∈ before, stop x = false)
    (hs : stop s = true) :
    taken stop (before ++ s :: behind) = before ∧ left stop (before ++ s :: behind) = behind := by
  have hkeep : ∀ x ∈ before, (!stop x) = true := fun x hx => by rw [h x hx]; rfl
  constructor
  · rw [taken, List.takeWhile_append_of_pos hkeep, List.takeWhile_cons_of_neg (by rw [hs]; exact nofun),
      List.append_nil]
  · rw [left, List.dropWhile_append_of_pos hkeep, List.dropWhile_cons_of_neg (by rw [hs]; exact nofun)]
    rfl

theorem filter_append_stop {before behind : List α} {s : α} (h : ∀ x ∈ before, stop x = false)
    (hs : stop s = true) : (before ++ s :: behind).filter (fun x => !stop x) =
      before ++ behind.filter (fun x => !stop x) := by
  rw [List.filter_append, filter_eq_self h, List.filter_cons_of_neg (by rw [hs]; exact nofun)]

theorem filter_eq_nil_iff {xs : List α} :
    xs.filter (fun x => !stop x) = [] ↔ xs.all stop = true := by
  rw [List.filter_eq_nil_iff, List.all_eq_true]
  simp

/-- What is handed out comes in the order of arrival, without a gap. -/
theorem drain_prefix (stop : α → Bool) (groups : List (List α)) (queue : List α) :
    drain stop groups queue <+: (queue ++ groups.flatten).filter (fun x => !stop x) := by
  induction groups generalizing queue with
  | nil => exact List.nil_prefix
  | cons group groups ih =>
      have hrest := ih (left stop (queue ++ group))
      show taken stop (queue ++ group) ++ _ <+: _
      rw [List.flatten_cons, ← List.append_assoc]
      rcases split_stop stop (queue ++ group) with h | ⟨before, s, behind, heq, h, hs⟩
      · rw [(taken_of_no_stop h).2, List.nil_append] at hrest
        rw [(taken_of_no_stop h).1, (taken_of_no_stop h).2, List.filter_append, filter_eq_self h]
        exact (List.prefix_append_right_inj _).mpr hrest
      · rw [heq, (taken_of_stop h hs).2] at hrest
        rw [heq, (taken_of_stop h hs).1, (taken_of_stop h hs).2, List.append_assoc,
          List.cons_append, filter_append_stop h hs]
        exact (List.prefix_append_right_inj _).mpr hrest

/-- Every round removes one stop: from any point of the arrivals on, the stops in front of the
last element to be handed out are fewer than the rounds to come and the stops that have arrived
before. -/
def InTime (stop : α → Bool) (groups : List (List α)) (queue : List α) : Prop :=
  inner stop (queue ++ groups.flatten) ≤ groups.length ∧
    ∀ k < groups.length, inner stop (queue ++ groups.flatten) <
      groups.length - k + (queue ++ (groups.take k).flatten).countP stop

/-- A queue without a stop is handed out whole. -/
theorem inTime_of_no_stop {queue : List α} (h : ∀ x ∈ queue, stop x = false) (group : List α)
    (groups : List (List α)) : InTime stop (group :: groups) queue ↔ InTime stop groups group := by
  have hcount : ∀ k, (queue ++ ((group :: groups).take (k + 1)).flatten).countP stop =
      (group ++ (groups.take k).flatten).countP stop := by
    intro k
    rw [List.take_succ_cons, List.flatten_cons, List.countP_append, countP_eq_zero h]
    omega
  unfold InTime
  rw [List.flatten_cons, inner_append h, List.length_cons]
  constructor
  · rintro ⟨-, hlt⟩
    refine ⟨?_, ?_⟩
    · have := hlt 0 (by omega)
      rw [List.take_zero, List.flatten_nil, List.append_nil, countP_eq_zero h] at this
      omega
    · intro k hk
      have := hlt (k + 1) (by omega)
      rw [hcount] at this
      omega
  · rintro ⟨hle, hlt⟩
    refine ⟨by omega, ?_⟩
    intro k hk
    cases k with
    | zero => omega
    | succ k =>
        have := hlt k (by omega)
        rw [hcount]
        omega

/-- A queue with a stop gives up one stop, and what stands behind it stays. -/
theorem inTime_of_stop {before behind : List α} {s : α} (h : ∀ x ∈ before, stop x = false)
    (hs : stop s = true) (group : List α) (groups : List (List α)) :
    InTime stop (group :: groups) (before ++ s :: behind) ↔ InTime stop groups (behind ++ group) := by
  have hcount : ∀ k, (before ++ s :: behind ++ ((group :: groups).take (k + 1)).flatten).countP
      stop = 1 + (behind ++ group ++ (groups.take k).flatten).countP stop := by
    intro k
    simp only [List.take_succ_cons, List.flatten_cons, List.countP_append, countP_eq_zero h,
      List.countP_cons_of_pos hs]
    omega
  have hsplit : before ++ s :: behind ++ (group :: groups).flatten =
      before ++ s :: (behind ++ group ++ groups.flatten) := by
    simp
  unfold InTime
  rw [hsplit, inner_append_stop h hs, List.length_cons]
  by_cases hall : (behind ++ group ++ groups.flatten).all stop = true
  · -- nothing but stops is left
    rw [if_pos hall, inner_eq_zero_of_all hall]
    constructor
    · intro _
      exact ⟨by omega, fun k hk => by omega⟩
    · intro _
      exact ⟨by omega, fun k hk => by omega⟩
  · rw [if_neg hall]
    constructor
    · rintro ⟨hle, hlt⟩
      refine ⟨by omega, ?_⟩
      intro k hk
      have := hlt (k + 1) (by omega)
      rw [hcount] at this
      omega
    · rintro ⟨hle, hlt⟩
      refine ⟨by omega, ?_⟩
      intro k hk
      cases k with
      | zero =>
          rw [List.take_zero, List.flatten_nil, List.append_nil, List.countP_append,
            List.countP_cons_of_pos hs]
          omega
      | succ k =>
          have := hlt k (by omega)
          rw [hcount]
          omega

/-- Without a further arrival a last round hands out the rest, when no more than one stop is in its
way. -/
theorem inTime_nil (queue : List α) :
    taken stop queue = queue.filter (fun x => !stop x) ↔ InTime stop [] queue := by
  unfold InTime
  rw [List.flatten_nil, List.append_nil, List.length_nil]
  rcases split_stop stop queue with h | ⟨before, s, behind, rfl, h, hs⟩
  · have hzero : inner stop queue = 0 := by
      have happend := inner_append h []
      rw [List.append_nil] at happend
      exact happend
    rw [(taken_of_no_stop h).1, filter_eq_self h, hzero]
    simp
  · rw [(taken_of_stop h hs).1, filter_append_stop h hs, inner_append_stop h hs,
      List.self_eq_append_right, filter_eq_nil_iff]
    by_cases hall : behind.all stop = true
    · simp [hall]
    · rw [if_neg hall]
      constructor
      · intro habs
        exact absurd habs hall
      · intro habs
        omega

theorem drain_from_iff (stop : α → Bool) (groups : List (List α)) (queue : List α) :
    taken stop queue ++ drain stop groups (left stop queue) =
        (queue ++ groups.flatten).filter (fun x => !stop x) ↔ InTime stop groups queue := by
  induction groups generalizing queue with
  | nil =>
      rw [drain, List.flatten_nil, List.append_nil, List.append_nil]
      exact inTime_nil queue
  | cons group groups ih =>
      rcases split_stop stop queue with h | ⟨before, s, behind, rfl, h, hs⟩
      · rw [(taken_of_no_stop h).1, (taken_of_no_stop h).2, List.flatten_cons, List.filter_append,
          filter_eq_self h, List.append_cancel_left_eq, inTime_of_no_stop h]
        exact ih group
      · have hsplit : before ++ s :: behind ++ (group :: groups).flatten =
            before ++ s :: (behind ++ group ++ groups.flatten) := by
          simp
        rw [(taken_of_stop h hs).1, (taken_of_stop h hs).2, hsplit, filter_append_stop h hs,
          List.append_cancel_left_eq, inTime_of_stop h hs]
        exact ih (behind ++ group)

/-- **Nothing is left behind.** All elements that are no stops are handed out, in order, exactly
when, for every number of last arrivals, fewer than that many of the stops in front of the last such
element come with them. -/
theorem drain_eq_filter_iff (stop : α → Bool) (groups : List (List α)) :
    drain stop groups [] = groups.flatten.filter (fun x => !stop x) ↔
      ∀ k < groups.length, inner stop groups.flatten <
        groups.length - k + (groups.take k).flatten.countP stop := by
  cases groups with
  | nil => simp [drain]
  | cons group groups =>
      show taken stop group ++ drain stop groups (left stop group) = _ ↔ _
      rw [List.flatten_cons, drain_from_iff, InTime, List.length_cons]
      constructor
      · rintro ⟨hle, hlt⟩ k hk
        cases k with
        | zero => omega
        | succ k =>
            have := hlt k (by omega)
            rw [List.take_succ_cons, List.flatten_cons]
            omega
      · intro hlt
        refine ⟨?_, ?_⟩
        · have := hlt 0 (by omega)
          rw [List.take_zero, List.flatten_nil, List.countP_nil] at this
          omega
        · intro k hk
          have := hlt (k + 1) (by omega)
          rw [List.take_succ_cons, List.flatten_cons] at this
          omega

end

end Draining
