import PcbuDesktop.Basic.StringUtils
import PcbuDesktop.Lib.Buffer

set_option autoImplicit false

/-! # The name of the requesting program

`GetServiceName` (`natives/pcbu-auth/src/main.cpp`) tells the phone which program asks for the unlock:
the command line of the parent process. The buffer that it gets from the system holds the arguments with
a NUL behind each. It takes them one by one as C strings, and looks at the end of the buffer only
between them: a buffer without a NUL at its end is read beyond it.
-/

namespace PcbuDesktop

open Buffer Lines

/-! ## `GetServiceName` -/

/-- The number of arguments that are left out: the buffer of macOS begins with the number of arguments
and the path of the program. -/
def skipNum (isApple : Bool) : Int := if isApple then 2 else 0

/-- `PID {}` -/
def pidText (ppid : UInt32) : Str :=
  str "PID " ++ (Nat.toDigits 10 ppid.toNat).map (fun c => c.toNat.toUInt8)

/-- The loop over the buffer, from `start` on. Every round reads a byte at least, so that the length of
the buffer is enough fuel. -/
def argLoop (skipNum : Int) (cmdline : Bytes) : Nat → Nat → Int → Str → Except Stop Str
  | 0, _, _, result => .ok result
  | fuel + 1, start, i, result =>
      if start < cmdline.length then
        -- `std::string_view str(start)`
        match readUntil 0 (cmdline.drop start) with
        | .error e => .error e
        | .ok s =>
            if s ≠ [] then
              let result := if i > skipNum then result ++ [32] else result
              let result := if i > skipNum - 1 then result ++ s else result
              argLoop skipNum cmdline fuel (start + s.length + 1) (i + 1) result
            else argLoop skipNum cmdline fuel (start + s.length + 1) i result
      else .ok result

/-- The text before it is truncated. -/
def commandText (isApple : Bool) (cmdline : Bytes) : Except Stop Str :=
  argLoop (skipNum isApple) cmdline cmdline.length 0 0 []

/-- `GetServiceName`; `cmdline` is `none` where `sysctl` fails. -/
def getServiceName (isApple : Bool) (ppid : UInt32) (cmdline : Option Bytes) : Except Stop Str :=
  let fallback := pidText ppid
  match cmdline with
  | none => .ok fallback
  | some cmdline =>
      if cmdline = [] then .ok fallback
      else match commandText isApple cmdline with
        | .error e => .error e
        | .ok resultStr =>
            .ok (if resultStr = [] then fallback else truncate resultStr 256 (str "..."))

/-! ## What the loop collects -/

/-- The arguments that are not empty. -/
def arguments (cmdline : Bytes) : List Str := (cmdline.splitOn 0).filter (fun s => !s.isEmpty)

/-- The text for arguments that are not empty, the first of them with the number `i`. -/
def argText (skipNum : Int) : Int → List Str → Str
  | _, [] => []
  | i, s :: ss =>
      (if i > skipNum then [32] else []) ++ (if i > skipNum - 1 then s else []) ++
        argText skipNum (i + 1) ss

/-- The buffer is empty, or ends in a NUL. -/
def Terminated (cmdline : Bytes) : Prop := cmdline = [] ∨ cmdline.getLast? = some 0

instance (cmdline : Bytes) : Decidable (Terminated cmdline) :=
  inferInstanceAs (Decidable (cmdline = [] ∨ cmdline.getLast? = some 0))

theorem terminated_iff (cmdline : Bytes) : Terminated cmdline ↔ rest 0 cmdline = [] := by
  have hsplit := unlines_complete_append_rest (c := 0) cmdline
  constructor
  · rintro (rfl | hlast)
    · rfl
    · by_contra hne
      rw [← hsplit, List.getLast?_append_of_ne_nil _ hne] at hlast
      exact not_mem_rest cmdline (List.mem_of_getLast? hlast)
  · intro hrest
    rw [hrest, List.append_nil] at hsplit
    by_cases hnil : complete 0 cmdline = []
    · left
      rw [← hsplit, hnil]
      rfl
    · right
      rw [← hsplit, unlines_eq_intercalate hnil, List.getLast?_concat]

/-- From a point between two arguments on, the loop collects the arguments to come, or runs out of the
buffer behind the last NUL. -/
theorem argLoop_eq {skipNum : Int} {cmdline : Bytes} {ws : List Str} {t : Bytes}
    (hws : ∀ w ∈ ws, 0 ∉ w) (ht : 0 ∉ t) {fuel start : Nat} {i : Int} {result : Str}
    (hdrop : cmdline.drop start = unlines 0 ws ++ t) (hfuel : (unlines 0 ws ++ t).length ≤ fuel) :
    argLoop skipNum cmdline fuel start i result =
      if t = [] then .ok (result ++ argText skipNum i (ws.filter (fun s => !s.isEmpty)))
      else .error .fault := by
  induction ws generalizing fuel start i result with
  | nil =>
      have hlen := congrArg List.length hdrop
      rw [List.length_drop] at hlen
      by_cases hnil : t = []
      · subst hnil
        have hend : ¬ start < cmdline.length := by
          have hzero : (unlines (0 : UInt8) [] ++ []).length = 0 := rfl
          omega
        rw [if_pos rfl]
        cases fuel with
        | zero => simp [argLoop, argText]
        | succ fuel =>
            unfold argLoop
            rw [if_neg hend]
            simp [argText]
      · have hpos := List.length_pos_of_ne_nil hnil
        have htext : (unlines (0 : UInt8) [] ++ t).length = t.length := rfl
        obtain ⟨fuel, rfl⟩ : ∃ n, fuel = n + 1 := ⟨fuel - 1, by omega⟩
        have hread : readUntil 0 (cmdline.drop start) = .error .fault := by
          rw [hdrop]
          exact readUntil_of_not_mem ht
        rw [if_neg hnil]
        unfold argLoop
        rw [if_pos (by omega), hread]
  | cons w ws ih =>
      obtain ⟨hw, hws⟩ := List.forall_mem_cons.mp hws
      have htext : unlines 0 (w :: ws) ++ t = w ++ 0 :: (unlines 0 ws ++ t) := by simp [unlines]
      rw [htext] at hdrop hfuel
      rw [List.length_append, List.length_cons] at hfuel
      have hlen := congrArg List.length hdrop
      rw [List.length_drop, List.length_append, List.length_cons] at hlen
      obtain ⟨fuel, rfl⟩ : ∃ n, fuel = n + 1 := ⟨fuel - 1, by omega⟩
      have hread : readUntil 0 (cmdline.drop start) = .ok w := by
        rw [hdrop]
        exact readUntil_append hw _
      have hnext : cmdline.drop (start + w.length + 1) = unlines 0 ws ++ t := by
        have hskip : w ++ 0 :: (unlines 0 ws ++ t) = (w ++ [0]) ++ (unlines 0 ws ++ t) := by simp
        have hsize : w.length + 1 = (w ++ [0]).length := by simp
        rw [Nat.add_assoc, ← List.drop_drop, hdrop, hskip, hsize, List.drop_left]
      unfold argLoop
      rw [if_pos (by omega), hread]
      dsimp only
      by_cases hempty : w = []
      · have hkeep : (w :: ws).filter (fun s => !s.isEmpty) = ws.filter (fun s => !s.isEmpty) := by
          simp [hempty]
        rw [if_neg (by simpa using hempty), ih hws hnext (by omega), hkeep]
      · have hkeep : (w :: ws).filter (fun s => !s.isEmpty) =
            w :: ws.filter (fun s => !s.isEmpty) := by
          simp [hempty]
        rw [if_pos hempty, ih hws hnext (by omega), hkeep]
        congr 2
        rw [argText]
        split <;> split <;> simp

theorem argText_of_gt {skipNum i : Int} (h : i > skipNum) (ss : List Str) :
    argText skipNum i ss = ss.flatMap (fun s => 32 :: s) := by
  induction ss generalizing i with
  | nil => rfl
  | cons s ss ih =>
      rw [argText, if_pos h, if_pos (by omega), ih (by omega)]
      rfl

/-- The arguments behind those that are left out are joined by blanks. -/
theorem argText_eq {skipNum i : Int} (h : i ≤ skipNum) (ss : List Str) :
    argText skipNum i ss = [32].intercalate (ss.drop (skipNum - i).toNat) := by
  induction ss generalizing i with
  | nil =>
      rw [List.drop_nil]
      rfl
  | cons s ss ih =>
      rw [argText, if_neg (by omega)]
      by_cases hlt : i < skipNum
      · have hone : (skipNum - i).toNat = (skipNum - (i + 1)).toNat + 1 := by omega
        rw [if_neg (by omega), ih (by omega), hone]
        rfl
      · have hzero : (skipNum - i).toNat = 0 := by omega
        rw [if_pos (by omega), argText_of_gt (by omega), hzero, List.drop_zero, intercalate_cons]
        rfl

/-- The text of the arguments; on macOS without the first two. -/
def joined (isApple : Bool) (cmdline : Bytes) : Str :=
  [32].intercalate ((arguments cmdline).drop (if isApple then 2 else 0))

theorem arguments_of_terminated {cmdline : Bytes} (h : Terminated cmdline) :
    arguments cmdline = (complete 0 cmdline).filter (fun s => !s.isEmpty) := by
  rw [arguments, ← complete_append_rest, (terminated_iff cmdline).mp h, List.filter_append]
  simp

/-- The loop stays in the buffer exactly when that is terminated. -/
theorem commandText_eq (isApple : Bool) (cmdline : Bytes) : commandText isApple cmdline =
    if Terminated cmdline then .ok (joined isApple cmdline) else .error .fault := by
  have hsplit := unlines_complete_append_rest (c := 0) cmdline
  have hdrop : cmdline.drop 0 = unlines 0 (complete 0 cmdline) ++ rest 0 cmdline := hsplit.symm
  have hfuel : (unlines 0 (complete 0 cmdline) ++ rest 0 cmdline).length ≤ cmdline.length := by
    rw [hsplit]
  unfold commandText
  rw [argLoop_eq (fun w hw => not_mem_of_mem_complete hw) (not_mem_rest cmdline) hdrop hfuel,
    List.nil_append]
  by_cases h : Terminated cmdline
  · have hskip : (0 : Int) ≤ skipNum isApple ∧
        (skipNum isApple - 0).toNat = if isApple then 2 else 0 := by
      cases isApple <;> decide
    rw [if_pos ((terminated_iff cmdline).mp h), if_pos h, argText_eq hskip.1, hskip.2, joined,
      arguments_of_terminated h]
  · rw [if_neg (fun hrest => h ((terminated_iff cmdline).mpr hrest)), if_neg h]

/-! ## Memory safety -/

theorem getServiceName_eq (isApple : Bool) (ppid : UInt32) (cmdline : Bytes) :
    getServiceName isApple ppid (some cmdline) =
      if Terminated cmdline then
        .ok (if joined isApple cmdline = [] then pidText ppid
          else truncate (joined isApple cmdline) 256 (str "..."))
      else .error .fault := by
  unfold getServiceName
  dsimp only
  rw [commandText_eq]
  by_cases hnil : cmdline = []
  · have hterm : Terminated cmdline := Or.inl hnil
    have hempty : joined isApple cmdline = [] := by
      rw [hnil]
      cases isApple <;> rfl
    rw [if_pos hnil, if_pos hterm, if_pos hempty]
  · rw [if_neg hnil]
    by_cases hterm : Terminated cmdline
    · simp only [if_pos hterm]
    · simp only [if_neg hterm]

/-- What `GetServiceName` is to do with a buffer: it stays in it, and on Linux the text is that of all
arguments that are not empty, or the fallback without one. -/
structure ReadsArguments (isApple : Bool) (ppid : UInt32) (cmdline : Bytes) : Prop where
  inside : ∃ name, getServiceName isApple ppid (some cmdline) = .ok name
  text : isApple = false → commandText isApple cmdline = .ok ([32].intercalate (arguments cmdline))
  name : isApple = false → getServiceName isApple ppid (some cmdline) =
    .ok (if arguments cmdline = [] then pidText ppid
      else truncate ([32].intercalate (arguments cmdline)) 256 (str "..."))

theorem intercalate_eq_nil {ss : List Str} (h : ∀ s ∈ ss, s ≠ []) :
    [32].intercalate ss = [] ↔ ss = [] := by
  cases ss with
  | nil => simp
  | cons s ss =>
      have hs := h s List.mem_cons_self
      rw [intercalate_cons]
      simp [hs]

/-- **The name of the requesting program is read safely**, exactly when the buffer is empty or ends in a
NUL. -/
theorem reads_arguments_iff (isApple : Bool) (ppid : UInt32) (cmdline : Bytes) :
    ReadsArguments isApple ppid cmdline ↔ Terminated cmdline := by
  constructor
  · intro h
    obtain ⟨name, hname⟩ := h.inside
    by_contra hterm
    rw [getServiceName_eq, if_neg hterm] at hname
    cases hname
  · intro hterm
    have hname := getServiceName_eq isApple ppid cmdline
    have htext := commandText_eq isApple cmdline
    rw [if_pos hterm] at hname htext
    refine ⟨⟨_, hname⟩, ?_, ?_⟩
    · rintro rfl
      exact htext
    · rintro rfl
      have hempty : joined false cmdline = [] ↔ arguments cmdline = [] := by
        refine intercalate_eq_nil ?_
        intro s hs
        have hkeep := List.of_mem_filter hs
        simpa using hkeep
      rw [hname]
      simp only [hempty]
      rfl

/-- A process that has overwritten its arguments, and the NUL behind them. -/
theorem reads_beyond_buffer :
    getServiceName false 1 (some (str "sshd: me [priv]")) = .error .fault ∧
      ¬ ReadsArguments false 1 (str "sshd: me [priv]") := by
  have hfault : getServiceName false 1 (some (str "sshd: me [priv]")) = .error .fault := by
    decide +kernel
  refine ⟨hfault, ?_⟩
  intro h
  obtain ⟨name, hname⟩ := h.inside
  rw [hfault] at hname
  cases hname

example : getServiceName false 7 (some (str "sudo" ++ [0, 0] ++ str "ls" ++ [0])) =
    .ok (str "sudo ls") := by decide +kernel

end PcbuDesktop
