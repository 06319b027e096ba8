import PcbuDesktop.Shell.Shell

set_option autoImplicit false

/-! # When the elevated shell is the local one

A string that is not valid UTF-8 arrives as another string, and a command or an answer that is too
large for a message becomes an error. In all other cases an operation through the elevator has the
effect and the result of the local one.
-/

namespace PcbuDesktop

open IPCHelper

namespace Shell

/-! ## What an operation returns -/

/-- The result of an operation that got no response. -/
def failure (op : ShellOp) : op.Result := ofResponse op none

/-- The response for the result of an operation. -/
def response (op : ShellOp) (r : op.Result) : ElevatorCommandResponse :=
  match op with
  | .runCommand => { cmdResult := r }
  | .readBytes => { dataBytes := r }
  | .writeBytes _ => ElevatorApp.toResponse r
  | .createDir => ElevatorApp.toResponse r
  | .createFile => ElevatorApp.toResponse r
  | .remove _ => ElevatorApp.toResponse r
  | .protectFile _ => ElevatorApp.toResponse r

section

variable (lib : IPCJson)

/-- What `Shell` makes of a response that the elevator wants to send. -/
def delivered (op : ShellOp) (resp : ElevatorCommandResponse) : op.Result :=
  ofResponse op ((answer lib resp).filter (fun resp => !resp.isError))

/-- The text of the command fits into a message. -/
def CommandFits (op : ShellOp) (arg : Str) : Prop :=
  (lib.dump (command op arg).toJson).length ≤ maxJsonSize

variable {σ : Type} (lsh : LocalShell σ)

/-- The size check of `READ_BYTES`. -/
def fileTooLarge (op : ShellOp) (arg : Str) (s : σ) : Bool :=
  match op with
  | .readBytes => (lsh.fileSize arg s).any (fun size => size > maxBlobSize)
  | _ => false

/-- The answer fits into a message: the text with an output, and a file with its size. -/
def AnswerFits (op : ShellOp) (arg : Str) (s : σ) (r : op.Result) : Prop :=
  fileTooLarge lsh op arg s = false ∧ isTooLarge ((response op r).toMessage lib) = false

end

section

variable {lib : IPCJson} {clean : Str → Str} {σ : Type} {lsh : LocalShell σ} {op : ShellOp}
  {arg : Str} {s : σ}

theorem same_symm {r r' : op.Result} (h : Same op r r') : Same op r' r := by
  cases op <;> exact h.symm

theorem same_trans {r r' r'' : op.Result} (h : Same op r r') (h' : Same op r' r'') :
    Same op r r'' := by
  cases op <;> exact h.trans h'

/-! ## The way of a command -/

theorem flagText_eq_true (flag : Bool) : decide (flagText flag = str "true") = flag := by
  cases flag <;> decide

/-- `HandleCommand` runs the operation whose command it gets. -/
theorem handleCommand_command : ElevatorApp.handleCommand lsh (command op arg) s =
    if fileTooLarge lsh op arg s then (.error (str "File too large."), s)
    else ElevatorApp.respondWith (response op) (lsh.run op arg s) := by
  cases op with
  | runCommand => rfl
  | readBytes => rfl
  | writeBytes data => rfl
  | createDir => rfl
  | createFile =>
      have hne : ¬ str "false" = str "true" := by decide
      unfold ElevatorApp.handleCommand command
      simp only [List.getElem?_cons_zero, List.getElem?_cons_succ, if_neg hne]
      rfl
  | remove recursive =>
      show ElevatorApp.respondWith ElevatorApp.toResponse
        (lsh.run (.remove (decide (flagText recursive = str "true"))) arg s) = _
      rw [flagText_eq_true]
      rfl
  | protectFile enabled =>
      show ElevatorApp.respondWith ElevatorApp.toResponse
        (lsh.run (.protectFile (decide (flagText enabled = str "true"))) arg s) = _
      rw [flagText_eq_true]
      rfl

/-- The elevator reads the command of the same operation, on the string as it arrives. -/
theorem fromMessage_command (h : lib.Replaces clean) :
    ElevatorCommand.fromMessage lib ((command op arg).toMessage lib) = some (command op (clean arg)) := by
  have htrue : clean (str "true") = str "true" := (h.clean_eq_iff _).mpr (by decide)
  have hfalse : clean (str "false") = str "false" := (h.clean_eq_iff _).mpr (by decide)
  have hflag : ∀ flag, clean (flagText flag) = flagText flag := by
    intro flag
    cases flag
    · exact hfalse
    · exact htrue
  rw [h.fromMessage_command]
  cases op with
  | runCommand => rfl
  | readBytes => rfl
  | writeBytes data => rfl
  | createDir => simp only [command, List.map_cons, List.map_nil, htrue]; rfl
  | createFile => simp only [command, List.map_cons, List.map_nil, hfalse]; rfl
  | remove recursive => simp only [command, List.map_cons, List.map_nil, hflag]; rfl
  | protectFile enabled => simp only [command, List.map_cons, List.map_nil, hflag]; rfl

theorem isTooLarge_command (hdata : op.data.length ≤ maxBlobSize) :
    isTooLarge ((command op arg).toMessage lib) = false ↔ CommandFits lib op arg := by
  have hblob : ((command op arg).toMessage lib).blob = op.data := by
    cases op <;> rfl
  rw [isTooLarge_eq_false, hblob]
  exact and_iff_left hdata

theorem run_of_not_fits (hdata : op.data.length ≤ maxBlobSize) (hfits : ¬ CommandFits lib op arg) :
    run lib lsh op arg s = (failure op, s) := by
  have hlarge : isTooLarge ((command op arg).toMessage lib) = true := by
    rw [← Bool.not_eq_false]
    exact fun h => hfits ((isTooLarge_command hdata).mp h)
  unfold run exec execCommand
  simp only [if_pos hlarge]
  rfl

/-- With a command that fits, the operation runs on the string as it arrives. -/
theorem run_of_fits (h : lib.Replaces clean) (hdata : op.data.length ≤ maxBlobSize)
    (hfits : CommandFits lib op arg) :
    run lib lsh op arg s =
      let r := if fileTooLarge lsh op (clean arg) s then (.error (str "File too large."), s)
        else ElevatorApp.respondWith (response op) (lsh.run op (clean arg) s)
      (delivered lib op r.1, r.2) := by
  have hsmall : ¬ isTooLarge ((command op arg).toMessage lib) = true := by
    rw [Bool.not_eq_true]
    exact (isTooLarge_command hdata).mpr hfits
  unfold run exec execCommand
  simp only [if_neg hsmall, fromMessage_command h, handleCommand_command]
  rfl

/-! ## The way of an answer -/

/-- An error, and an answer that is too large, are no response. -/
theorem delivered_error (h : lib.Replaces clean) {resp : ElevatorCommandResponse}
    (herror : resp.isError = true ∨ isTooLarge (resp.toMessage lib) = true) :
    delivered lib op resp = failure op := by
  have hanswer : (answer lib resp).filter (fun resp => !resp.isError) = none := by
    unfold answer ElevatorApp.responseMessage
    by_cases hlarge : isTooLarge (resp.toMessage lib) = true
    · simp only [if_pos hlarge]
      split
      · rfl
      · rw [h.fromMessage_response]
        rfl
    · have hmapped : (resp.mapTexts clean).isError = true := herror.resolve_right hlarge
      simp only [if_neg hlarge, h.fromMessage_response, Option.filter_some, hmapped, Bool.not_true,
        Bool.false_eq_true, if_false]
  unfold delivered failure
  rw [hanswer]

theorem delivered_of_fits (h : lib.Replaces clean) {resp : ElevatorCommandResponse}
    (herror : resp.isError = false) (hfits : isTooLarge (resp.toMessage lib) = false) :
    delivered lib op resp = ofResponse op (some (resp.mapTexts clean)) := by
  have hmapped : (resp.mapTexts clean).isError = false := herror
  unfold delivered answer ElevatorApp.responseMessage
  simp only [hfits, Bool.false_eq_true, if_false, h.fromMessage_response, Option.filter_some, hmapped,
    Bool.not_false, if_true]

/-- A flag is false, or its response is the empty one. -/
theorem delivered_toResponse (op : ShellOp) (h : lib.Replaces clean) {flag : Bool}
    (hfits : isTooLarge ((ElevatorApp.toResponse flag).toMessage lib) = false) :
    delivered lib op (ElevatorApp.toResponse flag) =
      ofResponse op (if flag then some (ElevatorCommandResponse.mapTexts clean {}) else none) := by
  cases flag with
  | false => exact delivered_error h (Or.inl rfl)
  | true => exact delivered_of_fits h rfl hfits

/-- A result whose answer fits comes back. -/
theorem delivered_response (h : lib.Replaces clean) {r : op.Result}
    (hfits : isTooLarge ((response op r).toMessage lib) = false) :
    Same op r (delivered lib op (response op r)) := by
  have hflag : ∀ flag : Bool, flag =
      (if flag then some (ElevatorCommandResponse.mapTexts clean {}) else none).isSome := by
    intro flag
    cases flag <;> rfl
  cases op with
  | runCommand =>
      rw [delivered_of_fits h rfl hfits]
      rfl
  | readBytes =>
      rw [delivered_of_fits h rfl hfits]
      rfl
  | writeBytes data => exact (hflag r).trans (delivered_toResponse (.writeBytes data) h hfits).symm
  | createDir => exact (hflag r).trans (delivered_toResponse .createDir h hfits).symm
  | createFile => exact (hflag r).trans (delivered_toResponse .createFile h hfits).symm
  | remove recursive => exact (hflag r).trans (delivered_toResponse (.remove recursive) h hfits).symm
  | protectFile enabled =>
      exact (hflag r).trans (delivered_toResponse (.protectFile enabled) h hfits).symm

end

/-! ## Equivalence -/

/-- Two shells do the same in one operation. -/
def AgreesOn {σ : Type} (other lsh : LocalShell σ) (op : ShellOp) (arg : Str) (s : σ) : Prop :=
  other.run op arg s = lsh.run op arg s ∧ other.fileSize arg s = lsh.fileSize arg s

/-- The command fits, its string is valid UTF-8 and the answer fits; or the local operation ends as one
does that gets no response. -/
def Carried (lib : IPCJson) {σ : Type} (lsh : LocalShell σ) (op : ShellOp) (arg : Str) (s : σ) : Prop :=
  ∀ r s', lsh.run op arg s = (.ok r, s') →
    (CommandFits lib op arg ∧ validUtf8 arg = true ∧
      (AnswerFits lib lsh op arg s r ∨ Same op r (failure op))) ∨
    (¬ CommandFits lib op arg ∧ s' = s ∧ Same op r (failure op))

/-- A result that is not that of a failure. -/
def success (op : ShellOp) : op.Result :=
  match op with
  | .runCommand => ({} : ShellCmdResult)
  | .readBytes => ([0] : Bytes)
  | .writeBytes _ => true
  | .createDir => true
  | .createFile => true
  | .remove _ => true
  | .protectFile _ => true

/-- A shell that ends the operations on one string in a way of its own. -/
def override {σ : Type} (lsh : LocalShell σ) (path : Str) (result : (op : ShellOp) → Except Str op.Result) :
    LocalShell σ where
  run op arg s := if arg = path then (result op, s) else lsh.run op arg s
  fileSize arg s := if arg = path then none else lsh.fileSize arg s
  readBytes_pure := by
    intro arg s
    split
    · rfl
    · exact lsh.readBytes_pure arg s

section

variable {lib : IPCJson} {clean : Str → Str} {σ : Type} {lsh : LocalShell σ} {op : ShellOp}
  {arg : Str} {s : σ}

theorem not_same_success : ¬ Same op (success op) (failure op) := by
  intro h
  cases op with
  | runCommand =>
      have hcode : (0 : Int32) = -1 := h
      exact absurd hcode (by decide)
  | readBytes => exact absurd (show ([0] : Bytes) = [] from h) (by decide)
  | writeBytes data => exact absurd (show true = false from h) (by decide)
  | createDir => exact absurd (show true = false from h) (by decide)
  | createFile => exact absurd (show true = false from h) (by decide)
  | remove recursive => exact absurd (show true = false from h) (by decide)
  | protectFile enabled => exact absurd (show true = false from h) (by decide)

theorem success_fits (h : lib.Replaces clean) :
    isTooLarge ((response op (success op)).toMessage lib) = false := by
  have hblob : (response op (success op)).dataBytes.length ≤ 1 := by
    cases op <;> exact Nat.le_of_ble_eq_true rfl
  refine isTooLarge_eq_false.mpr ⟨?_, hblob.trans (by decide)⟩
  cases op <;> exact h.empty_fits

theorem readBytes_of_fileTooLarge {r : op.Result} {s' : σ} (h : fileTooLarge lsh op arg s = true)
    (hrun : lsh.run op arg s = (.ok r, s')) : s' = s := by
  cases op with
  | readBytes => rw [← lsh.readBytes_pure arg s, hrun]
  | _ => exact absurd h Bool.false_ne_true

/-- What the elevated operation is, when the command arrives as it was. -/
theorem run_of_valid (h : lib.Replaces clean) (hdata : op.data.length ≤ maxBlobSize)
    (hfits : CommandFits lib op arg) (hvalid : validUtf8 arg = true) {r : op.Result} {s' : σ}
    (hrun : lsh.run op arg s = (.ok r, s')) :
    (run lib lsh op arg s).2 = s' ∧
      (Same op r (run lib lsh op arg s).1 ↔
        AnswerFits lib lsh op arg s r ∨ Same op r (failure op)) := by
  rw [run_of_fits h hdata hfits, (h.clean_eq_iff arg).mpr hvalid, hrun]
  unfold AnswerFits
  cases hlarge : fileTooLarge lsh op arg s with
  | true =>
      refine ⟨(readBytes_of_fileTooLarge hlarge hrun).symm, ?_⟩
      show Same op r (delivered lib op (.error (str "File too large."))) ↔ _
      rw [delivered_error h (Or.inl rfl)]
      simp
  | false =>
      refine ⟨rfl, ?_⟩
      show Same op r (delivered lib op (response op r)) ↔ _
      cases hanswer : isTooLarge ((response op r).toMessage lib) with
      | true =>
          rw [delivered_error h (Or.inr hanswer)]
          simp
      | false => exact iff_of_true (delivered_response h hanswer) (Or.inl ⟨rfl, rfl⟩)

/-- A string that is not valid UTF-8 arrives as another one, on which a shell can do anything. -/
theorem exists_not_equivalent (h : lib.Replaces clean) (hdata : op.data.length ≤ maxBlobSize)
    (hfits : CommandFits lib op arg) (hvalid : ¬ validUtf8 arg = true) {r : op.Result} {s' : σ}
    (hrun : lsh.run op arg s = (.ok r, s')) :
    ∃ other, AgreesOn other lsh op arg s ∧ ¬ Equivalent lib other op arg s := by
  have hclean : clean arg ≠ arg := fun heq => hvalid ((h.clean_eq_iff arg).mp heq)
  have hagrees : ∀ result, AgreesOn (override lsh (clean arg) result) lsh op arg s := by
    intro result
    exact ⟨if_neg hclean.symm, if_neg hclean.symm⟩
  have helevated : ∀ result, run lib (override lsh (clean arg) result) op arg s =
      (delivered lib op (ElevatorApp.respondWith (response op) (result op, s)).1,
        (ElevatorApp.respondWith (response op) (result op, s)).2) := by
    intro result
    have hsize : fileTooLarge (override lsh (clean arg) result) op (clean arg) s = false := by
      cases op with
      | readBytes =>
          show ((if clean arg = clean arg then none else lsh.fileSize (clean arg) s).any _) = false
          rw [if_pos rfl]
          rfl
      | _ => rfl
    have hspecial : (override lsh (clean arg) result).run op (clean arg) s = (result op, s) := if_pos rfl
    rw [run_of_fits h hdata hfits, hsize, hspecial]
    rfl
  by_cases hfailure : Same op r (failure op)
  · refine ⟨override lsh (clean arg) (fun op => .ok (success op)), hagrees _, ?_⟩
    intro hequiv
    have hsame := (hequiv r s' ((hagrees _).1.trans hrun)).1
    rw [helevated] at hsame
    have hsuccess : Same op (success op) (delivered lib op (response op (success op))) :=
      delivered_response h (success_fits h)
    exact not_same_success (same_trans (same_trans hsuccess (same_symm hsame)) hfailure)
  · refine ⟨override lsh (clean arg) (fun _ => .error []), hagrees _, ?_⟩
    intro hequiv
    have hsame := (hequiv r s' ((hagrees _).1.trans hrun)).1
    rw [helevated] at hsame
    have herror : delivered lib op (.error []) = failure op := delivered_error h (Or.inl rfl)
    exact hfailure (herror ▸ hsame)

theorem equivalent_of_carried (h : lib.Replaces clean) (hdata : op.data.length ≤ maxBlobSize)
    (hcarried : Carried lib lsh op arg s) : Equivalent lib lsh op arg s := by
  intro r s' hrun
  rcases hcarried r s' hrun with ⟨hfits, hvalid, hanswer⟩ | ⟨hfits, hstate, hfailure⟩
  · obtain ⟨hstate, hsame⟩ := run_of_valid h hdata hfits hvalid hrun
    exact ⟨hsame.mpr hanswer, hstate⟩
  · rw [run_of_not_fits hdata hfits]
    exact ⟨hfailure, hstate.symm⟩

theorem carried_of_agreesOn {other : LocalShell σ} (hagrees : AgreesOn other lsh op arg s)
    (h : Carried lib lsh op arg s) : Carried lib other op arg s := by
  intro r s' hrun
  have hsize : fileTooLarge other op arg s = fileTooLarge lsh op arg s := by
    unfold fileTooLarge
    rw [hagrees.2]
  unfold AnswerFits
  rw [hsize]
  exact h r s' (hagrees.1 ▸ hrun)

/-- **When the elevated shell is equivalent to the local one.** For every operation, every string, all
data that fits into a message and every way in which the local operation ends: the elevated operation
has the same effect and result, whatever the shell does elsewhere, if and only if the command is
carried to the elevator unchanged and its answer back. The connection is healthy: the operation ends
within the ten minutes of `RESPONSE_TIMEOUT_MS`. -/
theorem elevated_equivalent_iff (h : lib.Replaces clean) (op : ShellOp) (arg : Str)
    (hdata : op.data.length ≤ maxBlobSize) (lsh : LocalShell σ) (s : σ) :
    (∀ other, AgreesOn other lsh op arg s → Equivalent lib other op arg s) ↔
      Carried lib lsh op arg s := by
  constructor
  · intro hall r s' hrun
    have hself := hall lsh ⟨rfl, rfl⟩ r s' hrun
    by_cases hfits : CommandFits lib op arg
    · by_cases hvalid : validUtf8 arg = true
      · exact Or.inl ⟨hfits, hvalid, (run_of_valid h hdata hfits hvalid hrun).2.mp hself.1⟩
      · obtain ⟨other, hagrees, hnot⟩ := exists_not_equivalent h hdata hfits hvalid hrun
        exact absurd (hall other hagrees) hnot
    · rw [run_of_not_fits hdata hfits] at hself
      exact Or.inr ⟨hfits, hself.2.symm, hself.1⟩
  · intro hcarried other hagrees
    exact equivalent_of_carried h hdata (carried_of_agreesOn hagrees hcarried)

end

end Shell

namespace Sample

open Shell

/-- The texts of three messages: creating the file `f`, creating a file with a replacement character
for a name, and the empty response. -/
def elevatorTable : List (IPCJson.Value × Str) :=
  [(.ofCommand (command .createFile (str "f")),
      str "\x7b\"args\":[\"f\",\"false\"],\"type\":4\x7d"),
    (.ofCommand (command .createFile [0xEF, 0xBF, 0xBD]),
      str "\x7b\"args\":[\"" ++ [0xEF, 0xBF, 0xBD] ++ str "\",\"false\"],\"type\":4\x7d"),
    (.ofResponse {},
      str "\x7b\"cmdResult\":\x7b\"exitCode\":0,\"output\":\"\"\x7d,\"isError\":false,\"message\":\"\"\x7d")]

def elevatorJson : IPCJson := .ofTable replaceInvalid elevatorTable

theorem elevatorJson_replaces : elevatorJson.Replaces replaceInvalid :=
  IPCJson.ofTable_replaces (by decide +kernel) replaceInvalid_eq_iff (by decide +kernel)

/-- A shell that can only create files; the state is the list of their names. -/
def touchShell : LocalShell (List Str) where
  run op path s :=
    match op with
    | .createFile => (.ok true, s ++ [path])
    | op => (.ok (failure op), s)
  fileSize _ _ := none
  readBytes_pure _ _ := rfl

end Sample

namespace Shell

/-- The name `FF`, one byte that is not UTF-8: the elevated shell creates a file with another name. -/
theorem elevated_creates_other :
    ¬ Equivalent Sample.elevatorJson Sample.touchShell .createFile [0xFF] [] ∧
      (run Sample.elevatorJson Sample.touchShell .createFile [0xFF] []).2 = [[0xEF, 0xBF, 0xBD]] := by
  have hstate : (run Sample.elevatorJson Sample.touchShell .createFile [0xFF] []).2 =
      [[0xEF, 0xBF, 0xBD]] := by decide +kernel
  refine ⟨?_, hstate⟩
  intro hequiv
  have hsame := (hequiv true [[0xFF]] rfl).2
  rw [hstate] at hsame
  exact absurd hsame (by decide)

theorem elevated_equivalent_sample :
    Equivalent Sample.elevatorJson Sample.touchShell .createFile (str "f") [] ∧
      (run Sample.elevatorJson Sample.touchShell .createFile (str "f") []).2 = [str "f"] := by
  refine ⟨?_, by decide +kernel⟩
  refine (elevated_equivalent_iff Sample.elevatorJson_replaces .createFile (str "f") (Nat.zero_le _)
    Sample.touchShell []).mpr ?_ _ ⟨rfl, rfl⟩
  intro r s' hrun
  cases hrun
  exact Or.inl ⟨by unfold CommandFits; decide +kernel, by decide, Or.inl ⟨rfl, by decide +kernel⟩⟩

end Shell

end PcbuDesktop
