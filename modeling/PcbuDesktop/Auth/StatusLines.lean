import PcbuDesktop.Basic.StringUtils
import PcbuDesktop.Crypt.CryptUtils
import PcbuDesktop.Lib.Draining

set_option autoImplicit false

/-! # The status lines of `pcbu_auth`

`pcbu_auth` reports its progress in lines on its output. Two programs read them from a pipe, which
cuts the output as it likes: the PAM module (`natives/pam_pulseunlock/src/pam_auth.cpp`), which shows
each line to the user with `print_pam`, and `AuthProcess::Run` of the macOS agent
(`natives/mac_pulseunlock/src/auth/AuthProcess.cpp`). Both skip empty lines. The loop of `Run` goes on
behind an empty line; that of the PAM module waits for the next read, and at the end of the output
there is none.
-/

namespace PcbuDesktop

open Draining Lines

/-! ## The two readers -/

/-- Without one carriage return at its end. -/
def stripCr (line : Str) : Str := if line.getLast? = some 13 then line.dropLast else line

/-- The inner loop of `pam_sm_authenticate`: the lines it prints, and what stays in `lineBuffer`. Every
round takes a byte at least, so that the length of the buffer is enough fuel. -/
def pamLines : Nat → Str → List Str × Str
  | 0, lineBuffer => ([], lineBuffer)
  | fuel + 1, lineBuffer =>
      match find [newline] lineBuffer with
      | none => ([], lineBuffer)
      | some pos =>
          let line := stripCr (lineBuffer.take pos)
          let lineBuffer := lineBuffer.drop (pos + 1)
          if line ≠ [] then
            (line :: (pamLines fuel lineBuffer).1, (pamLines fuel lineBuffer).2)
          else ([], lineBuffer)

/-- The read loop of `pam_sm_authenticate`, over the reads before the first error: the lines it
passes to `print_pam`. -/
def pamShown : List Str → Str → List Str
  | [], _ => []
  | chunk :: reads, lineBuffer =>
      let lineBuffer := lineBuffer ++ chunk
      let (lines, lineBuffer) := pamLines lineBuffer.length lineBuffer
      lines ++ pamShown reads lineBuffer

/-- The inner loop of `AuthProcess::Run`. -/
def runLines : Nat → Str → List Str × Str
  | 0, lineBuffer => ([], lineBuffer)
  | fuel + 1, lineBuffer =>
      match find [newline] lineBuffer with
      | none => ([], lineBuffer)
      | some pos =>
          let line := stripCr (lineBuffer.take pos)
          let lineBuffer := lineBuffer.drop (pos + 1)
          if line = [] then runLines fuel lineBuffer
          else (line :: (runLines fuel lineBuffer).1, (runLines fuel lineBuffer).2)

/-- The read loop of `AuthProcess::Run`: the lines it passes to `m_OnStatus`. -/
def runShown : List Str → Str → List Str
  | [], _ => []
  | chunk :: reads, lineBuffer =>
      let lineBuffer := lineBuffer ++ chunk
      let (lines, lineBuffer) := runLines lineBuffer.length lineBuffer
      lines ++ runShown reads lineBuffer

/-- `AuthProcess::Run` up to the end of the output: the lines for `m_OnStatus`, and
`result.lastStatus`. -/
def authProcessStatus (reads : List Str) : List Str × Str :=
  (runShown reads [], (runShown reads []).getLastD [])

/-! ## The end of `pam_sm_authenticate` -/

/-- What `pcbu_auth` does from its start on: its output as it is read, what it writes into the
password pipe, if there is one, and its exit code. -/
structure AuthRun where
  reads : List Str
  password : Option Str
  exitCode : Int

/-- What `pam_sm_authenticate` does, in its order. -/
inductive PamEvent
  | printPam (line : Str)
  | evaluate (exitCode : Int)
  | setAuthTok (password : Str)
deriving DecidableEq, Repr

inductive PamCode
  | ignore
  | success
  | authErr
deriving DecidableEq, Repr

/-- The evaluation of the process result. -/
def pamResult (isApple : Bool) (password : Str) (result : Int) : List PamEvent × PamCode :=
  if result = 0 then
    if password ≠ [] ∧ password.head? ≠ some 0 then
      ([.setAuthTok (cStr password)], if isApple then .success else .ignore)
    else ([], .success)
  else if result = 1 then ([], .authErr)
  else ([], .ignore)

/-- `pam_sm_authenticate` from the start of `pcbu_auth` on. -/
def pamSmAuthenticate (isApple : Bool) (run : AuthRun) : List PamEvent × PamCode :=
  let (events, code) := pamResult isApple (run.password.getD []) run.exitCode
  ((pamShown run.reads []).map .printPam ++ .evaluate run.exitCode :: events, code)

/-! ## What is to be shown -/

/-- Nothing is left of the line but, perhaps, a carriage return. -/
def isBlank (line : Str) : Bool := decide (stripCr line = [])

/-- The lines that a reader is to show: those that end in a newline, and are not empty. -/
def statusLines (output : Str) : List Str :=
  ((complete newline output).map stripCr).filter (fun line => !line.isEmpty)

/-- The last reads complete too few empty lines to hide anything: for every number of last reads,
fewer than that many of the empty lines in front of the last line to be shown end in them. -/
def KeepsUp (reads : List Str) : Prop :=
  ∀ k < reads.length, inner isBlank (complete newline reads.flatten) <
    reads.length - k + (complete newline (reads.take k).flatten).countP isBlank

instance (reads : List Str) : Decidable (KeepsUp reads) :=
  inferInstanceAs (Decidable (∀ k < reads.length, inner isBlank (complete newline reads.flatten) <
    reads.length - k + (complete newline (reads.take k).flatten).countP isBlank))

/-! ## One read -/

theorem find_newline_unlines {l : Str} (hl : newline ∉ l) (ls : List Str) (t : Str) :
    find [newline] (unlines newline (l :: ls) ++ t) = some l.length ∧
      (unlines newline (l :: ls) ++ t).take l.length = l ∧
      (unlines newline (l :: ls) ++ t).drop (l.length + 1) = unlines newline ls ++ t := by
  have htext : unlines newline (l :: ls) ++ t = l ++ newline :: (unlines newline ls ++ t) := by
    simp [unlines]
  rw [htext]
  refine ⟨find_singleton hl, List.take_left, ?_⟩
  rw [List.drop_append]
  simp

theorem length_unlines_cons (l : Str) (ls : List Str) (t : Str) :
    (unlines newline (l :: ls) ++ t).length = l.length + 1 + (unlines newline ls ++ t).length := by
  simp [unlines]
  omega

/-- The PAM module prints the lines in front of the first empty one, and takes that one too. -/
theorem pamLines_eq {t : Str} (ht : newline ∉ t) {ls : List Str} (hls : ∀ l ∈ ls, newline ∉ l)
    {fuel : Nat} (hfuel : (unlines newline ls ++ t).length ≤ fuel) :
    pamLines fuel (unlines newline ls ++ t) =
      ((taken isBlank ls).map stripCr, unlines newline (left isBlank ls) ++ t) := by
  induction ls generalizing fuel with
  | nil =>
      cases fuel with
      | zero => rfl
      | succ fuel =>
          have hnone : find [newline] t = none := find_singleton_eq_none.mpr ht
          show pamLines (fuel + 1) t = ([], t)
          unfold pamLines
          rw [hnone]
  | cons l ls ih =>
      obtain ⟨hl, hls⟩ := List.forall_mem_cons.mp hls
      rw [length_unlines_cons] at hfuel
      obtain ⟨fuel, rfl⟩ : ∃ n, fuel = n + 1 := ⟨fuel - 1, by omega⟩
      obtain ⟨hfind, htake, hdrop⟩ := find_newline_unlines hl ls t
      unfold pamLines
      rw [hfind]
      dsimp only
      rw [htake, hdrop, ih hls (by omega)]
      by_cases hblank : stripCr l = []
      · have hstop : isBlank l = true := decide_eq_true hblank
        have hround : taken isBlank ([] ++ l :: ls) = [] ∧ left isBlank ([] ++ l :: ls) = ls :=
          taken_of_stop nofun hstop
        rw [List.nil_append] at hround
        rw [if_neg (by simpa using hblank), hround.1, hround.2]
        rfl
      · have hgo : isBlank l = false := decide_eq_false hblank
        rw [if_pos hblank]
        simp [taken, left, hgo]

/-- `Run` passes on all lines that are not empty. -/
theorem runLines_eq {t : Str} (ht : newline ∉ t) {ls : List Str} (hls : ∀ l ∈ ls, newline ∉ l)
    {fuel : Nat} (hfuel : (unlines newline ls ++ t).length ≤ fuel) :
    runLines fuel (unlines newline ls ++ t) =
      ((ls.filter (fun l => !isBlank l)).map stripCr, t) := by
  induction ls generalizing fuel with
  | nil =>
      cases fuel with
      | zero => rfl
      | succ fuel =>
          have hnone : find [newline] t = none := find_singleton_eq_none.mpr ht
          show runLines (fuel + 1) t = ([], t)
          unfold runLines
          rw [hnone]
  | cons l ls ih =>
      obtain ⟨hl, hls⟩ := List.forall_mem_cons.mp hls
      rw [length_unlines_cons] at hfuel
      obtain ⟨fuel, rfl⟩ : ∃ n, fuel = n + 1 := ⟨fuel - 1, by omega⟩
      obtain ⟨hfind, htake, hdrop⟩ := find_newline_unlines hl ls t
      unfold runLines
      rw [hfind]
      dsimp only
      rw [htake, hdrop, ih hls (by omega)]
      by_cases hblank : stripCr l = []
      · simp [isBlank, hblank]
      · simp [isBlank, hblank]

/-! ## All reads -/

/-- The lines that each read completes, when `t` is the line begun before. -/
def arrivals : List Str → Str → List (List Str)
  | [], _ => []
  | chunk :: reads, t =>
      complete newline (t ++ chunk) :: arrivals reads (rest newline (t ++ chunk))

theorem length_arrivals (reads : List Str) (t : Str) : (arrivals reads t).length = reads.length := by
  induction reads generalizing t with
  | nil => rfl
  | cons chunk reads ih =>
      show (arrivals reads _).length + 1 = reads.length + 1
      rw [ih]

theorem take_arrivals (reads : List Str) (t : Str) (k : Nat) :
    (arrivals reads t).take k = arrivals (reads.take k) t := by
  induction reads generalizing t k with
  | nil => simp [arrivals]
  | cons chunk reads ih =>
      cases k with
      | zero => rfl
      | succ k =>
          show _ :: (arrivals reads _).take k = _ :: arrivals (reads.take k) _
          rw [ih]

/-- However the output is cut, the same lines are completed. -/
theorem flatten_arrivals (reads : List Str) {t : Str} (ht : newline ∉ t) :
    (arrivals reads t).flatten = complete newline (t ++ reads.flatten) := by
  induction reads generalizing t with
  | nil =>
      rw [List.flatten_nil, List.append_nil, complete_of_not_mem ht]
      rfl
  | cons chunk reads ih =>
      have hsplit : t ++ (chunk :: reads).flatten = unlines newline (complete newline (t ++ chunk)) ++
          (rest newline (t ++ chunk) ++ reads.flatten) := by
        rw [← List.append_assoc, unlines_complete_append_rest, List.flatten_cons, List.append_assoc]
      rw [hsplit, complete_unlines_append (fun l hl => not_mem_of_mem_complete hl)]
      show complete newline (t ++ chunk) ++ (arrivals reads _).flatten = _
      rw [ih (not_mem_rest _)]

/-- The buffer of a reader and the next chunk: the lines that waited, those that are completed, and
the line begun. -/
theorem buffer_append (queue : List Str) (t chunk : Str) :
    unlines newline queue ++ t ++ chunk =
      unlines newline (queue ++ complete newline (t ++ chunk)) ++ rest newline (t ++ chunk) := by
  rw [unlines_append, List.append_assoc, List.append_assoc, unlines_complete_append_rest]

theorem pamShown_eq (reads : List Str) {t : Str} {queue : List Str}
    (hqueue : ∀ l ∈ queue, newline ∉ l) :
    pamShown reads (unlines newline queue ++ t) =
      (drain isBlank (arrivals reads t) queue).map stripCr := by
  induction reads generalizing queue t with
  | nil => rfl
  | cons chunk reads ih =>
      have hall : ∀ l ∈ queue ++ complete newline (t ++ chunk), newline ∉ l := by
        intro l hl
        rcases List.mem_append.mp hl with hl | hl
        · exact hqueue l hl
        · exact not_mem_of_mem_complete hl
      have hleft : ∀ l ∈ left isBlank (queue ++ complete newline (t ++ chunk)), newline ∉ l := by
        intro l hl
        exact hall l ((List.dropWhile_suffix _).subset (List.mem_of_mem_tail hl))
      unfold pamShown
      dsimp only
      rw [buffer_append, pamLines_eq (not_mem_rest _) hall (Nat.le_refl _)]
      dsimp only
      rw [ih hleft, ← List.map_append]
      rfl

theorem runShown_eq (reads : List Str) (t : Str) :
    runShown reads t =
      ((arrivals reads t).flatten.filter (fun l => !isBlank l)).map stripCr := by
  induction reads generalizing t with
  | nil => rfl
  | cons chunk reads ih =>
      have hbuffer : t ++ chunk = unlines newline (complete newline (t ++ chunk)) ++
        rest newline (t ++ chunk) := buffer_append [] t chunk
      unfold runShown
      dsimp only
      rw [hbuffer, runLines_eq (not_mem_rest _) (fun l hl => not_mem_of_mem_complete hl)
        (Nat.le_refl _)]
      dsimp only
      rw [ih, ← List.map_append, ← List.filter_append]
      rfl

/-! ## The lines shown -/

theorem statusLines_eq (output : Str) : statusLines output =
    ((complete newline output).filter (fun l => !isBlank l)).map stripCr := by
  unfold statusLines
  rw [List.filter_map]
  congr 1
  apply List.filter_congr
  intro l _
  unfold isBlank
  cases hline : stripCr l with
  | nil => simp [hline]
  | cons c line => simp [hline]

/-- `Run` shows the status lines of the output, however the pipe cuts it. -/
theorem runShown_eq_statusLines (reads : List Str) :
    runShown reads [] = statusLines reads.flatten := by
  rw [runShown_eq, flatten_arrivals reads List.not_mem_nil, statusLines_eq, List.nil_append]

/-- The PAM module shows the status lines of the output exactly when it keeps up with the empty
lines. -/
theorem pamShown_eq_statusLines_iff (reads : List Str) :
    pamShown reads [] = statusLines reads.flatten ↔ KeepsUp reads := by
  have hempty : pamShown reads (unlines newline [] ++ []) =
      (drain isBlank (arrivals reads []) []).map stripCr := pamShown_eq reads nofun
  have hshown : pamShown reads [] = (drain isBlank (arrivals reads []) []).map stripCr := hempty
  have hflat : (arrivals reads []).flatten = complete newline reads.flatten :=
    flatten_arrivals reads List.not_mem_nil
  have hdrain := drain_eq_filter_iff isBlank (arrivals reads [])
  rw [hflat, length_arrivals] at hdrain
  rw [hshown, statusLines_eq]
  constructor
  · intro h
    -- what is shown is the beginning of what is to be shown, so that their lengths decide
    have hlen := congrArg List.length h
    rw [List.length_map, List.length_map] at hlen
    have hpre := drain_prefix isBlank (arrivals reads []) []
    rw [List.nil_append, hflat] at hpre
    intro k hk
    have := hdrain.mp (hpre.eq_of_length hlen) k hk
    rwa [take_arrivals, flatten_arrivals _ List.not_mem_nil] at this
  · intro h
    congr 1
    refine hdrain.mpr ?_
    intro k hk
    rw [take_arrivals, flatten_arrivals _ List.not_mem_nil]
    exact h k hk

/-- **The PAM module shows every status line.** Before the result of `pcbu_auth` is evaluated, each
status line of its output is printed, once and in order, as `AuthProcess::Run` reports it, exactly
when the last reads do not complete too many empty lines. -/
theorem pam_shows_status_lines_iff (isApple : Bool) (run : AuthRun) :
    ((pamSmAuthenticate isApple run).1 = (statusLines run.reads.flatten).map .printPam ++
        .evaluate run.exitCode :: (pamResult isApple (run.password.getD []) run.exitCode).1 ↔
      KeepsUp run.reads) ∧
    (pamShown run.reads [] = (authProcessStatus run.reads).1 ↔ KeepsUp run.reads) ∧
    (authProcessStatus run.reads).1 = statusLines run.reads.flatten := by
  have hrun : (authProcessStatus run.reads).1 = statusLines run.reads.flatten :=
    runShown_eq_statusLines run.reads
  refine ⟨?_, ?_, hrun⟩
  · rw [← pamShown_eq_statusLines_iff]
    show (pamShown run.reads []).map PamEvent.printPam ++ _ = _ ↔ _
    constructor
    · intro h
      have hmap := List.append_cancel_right h
      exact List.map_injective_iff.mpr (fun a b hab => by cases hab; rfl) hmap
    · intro h
      rw [h]
      rfl
  · rw [hrun]
    exact pamShown_eq_statusLines_iff run.reads

namespace Sample

/-- An empty line and the last message arrive with the last read. -/
def emptyLineRun : AuthRun :=
  { reads := [str "connecting\n", str "\nconfirm on your phone\n"], password := some [], exitCode := 1 }

end Sample

/-- The message behind the empty line is not shown. -/
theorem pam_hides_status_line :
    ¬ (pamSmAuthenticate false Sample.emptyLineRun).1 =
        (statusLines Sample.emptyLineRun.reads.flatten).map .printPam ++
          .evaluate 1 :: (pamResult false [] 1).1 ∧
      (pamSmAuthenticate false Sample.emptyLineRun).1 =
        [.printPam (str "connecting"), .evaluate 1] ∧
      (authProcessStatus Sample.emptyLineRun.reads).1 =
        [str "connecting", str "confirm on your phone"] := by
  decide +kernel

end PcbuDesktop
