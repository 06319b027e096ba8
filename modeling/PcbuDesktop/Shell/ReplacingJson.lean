import Mathlib.Logic.Encodable.Basic
import Mathlib.Logic.Equiv.List
import PcbuDesktop.Basic.Utf8
import PcbuDesktop.Shell.ElevatorCommands

set_option autoImplicit false

/-! # What the JSON text keeps

With `error_handler_t::replace` the JSON library prints a string that is not valid UTF-8 with
replacement characters. A command and a response are read back as they were printed, apart from that.
-/

namespace PcbuDesktop

open IPCHelper

/-! ## The laws of the library -/

/-- A command with every argument replaced. -/
def ElevatorCommand.mapArgs (f : Str → Str) (cmd : ElevatorCommand) : ElevatorCommand :=
  { cmd with args := cmd.args.map f }

/-- A response with its texts replaced. -/
def ElevatorCommandResponse.mapTexts (f : Str → Str) (resp : ElevatorCommandResponse) :
    ElevatorCommandResponse :=
  { resp with
    message := f resp.message
    cmdResult := { resp.cmdResult with output := f resp.cmdResult.output } }

/-- What is printed is read back with every string as `clean` makes it, which changes exactly the
strings that are not valid UTF-8. No text is empty, and that of an empty response is short. -/
structure IPCJson.Replaces (lib : IPCJson) (clean : Str → Str) : Prop where
  command : ∀ cmd : ElevatorCommand, lib.parse (lib.dump cmd.toJson) = some (cmd.mapArgs clean).toJson
  response : ∀ resp : ElevatorCommandResponse,
    lib.parse (lib.dump resp.toJson) = some (resp.mapTexts clean).toJson
  clean_eq_iff : ∀ s, clean s = s ↔ validUtf8 s = true
  dump_ne_nil : ∀ j, lib.dump j ≠ []
  empty_fits : (lib.dump (ElevatorCommandResponse.toJson {})).length ≤ maxJsonSize

/-! ## Messages -/

theorem mapM_asString (args : List Str) : (args.map Json.str).mapM Json.asString = some args := by
  induction args with
  | nil => rfl
  | cons a args ih =>
      rw [List.map_cons, List.mapM_cons, ih]
      rfl

theorem ElevatorCommandType.toInt32_ofInt32 (i : Int32) : (ofInt32 i).toInt32 = i := by
  unfold ofInt32
  split_ifs with h0 h1 h2 h3 h4 h5 h6
  · exact h0.symm
  · exact h1.symm
  · exact h2.symm
  · exact h3.symm
  · exact h4.symm
  · exact h5.symm
  · exact h6.symm
  · rfl

theorem ElevatorCommand.fromJson_toJson (cmd : ElevatorCommand) (blob : Bytes) :
    fromJson cmd.toJson blob = some ⟨.ofInt32 cmd.type.toInt32, cmd.args, blob⟩ := by
  have htype : (cmd.toJson.member "type").bind Json.asEnum = some cmd.type.toInt32 := by
    show some (Int32.ofInt cmd.type.toInt32.toInt) = some cmd.type.toInt32
    rw [Int32.ofInt_toInt]
  have hargs : (cmd.toJson.member "args").bind Json.asStrings = some cmd.args := mapM_asString cmd.args
  unfold fromJson
  rw [htype, hargs]
  rfl

theorem ElevatorCommandResponse.fromJson_toJson (resp : ElevatorCommandResponse) (blob : Bytes) :
    fromJson resp.toJson blob = some { resp with dataBytes := blob } := by
  have hexit : ((Json.obj [("exitCode", .int resp.cmdResult.exitCode.toInt),
      ("output", .str resp.cmdResult.output)]).member "exitCode").bind Json.asInt32 =
        some resp.cmdResult.exitCode := by
    show some (Int32.ofInt resp.cmdResult.exitCode.toInt) = some resp.cmdResult.exitCode
    rw [Int32.ofInt_toInt]
  unfold fromJson
  show (do
    let exitCode ← ((Json.obj [("exitCode", .int resp.cmdResult.exitCode.toInt),
      ("output", .str resp.cmdResult.output)]).member "exitCode").bind Json.asInt32
    pure (ElevatorCommandResponse.mk resp.isError resp.message ⟨exitCode, resp.cmdResult.output⟩ blob)) = _
  rw [hexit]
  rfl

namespace IPCJson.Replaces

variable {lib : IPCJson} {clean : Str → Str}

theorem fromMessage_command (h : lib.Replaces clean) (cmd : ElevatorCommand) :
    ElevatorCommand.fromMessage lib (cmd.toMessage lib) =
      some ⟨.ofInt32 cmd.type.toInt32, cmd.args.map clean, cmd.dataBytes⟩ := by
  unfold ElevatorCommand.fromMessage ElevatorCommand.toMessage
  simp only [h.command]
  exact ElevatorCommand.fromJson_toJson (cmd.mapArgs clean) cmd.dataBytes

theorem fromMessage_response (h : lib.Replaces clean) (resp : ElevatorCommandResponse) :
    ElevatorCommandResponse.fromMessage lib (resp.toMessage lib) = some (resp.mapTexts clean) := by
  unfold ElevatorCommandResponse.fromMessage ElevatorCommandResponse.toMessage
  simp only [h.response]
  exact ElevatorCommandResponse.fromJson_toJson (resp.mapTexts clean) resp.dataBytes

end IPCJson.Replaces

/-! ## Libraries given by a table

A library that prints the commands and responses of a table with the texts given there, and any other
one with a text of zeros that stands for its number.
-/

namespace IPCJson

/-- What the text of a command or of a response holds. -/
abbrev Value := (Int32 × List Str) ⊕ (Bool × Str × Int32 × Str)

instance : Encodable UInt8 := Encodable.ofLeftInverse UInt8.toNat UInt8.ofNat (fun _ => UInt8.ofNat_toNat)

instance : Encodable Int32 := Encodable.ofLeftInverse Int32.toInt Int32.ofInt Int32.ofInt_toInt

namespace Value

def toJson : Value → Json
  | .inl (type, args) => ElevatorCommand.toJson ⟨.ofInt32 type, args, []⟩
  | .inr (isError, message, exitCode, output) =>
      ElevatorCommandResponse.toJson ⟨isError, message, ⟨exitCode, output⟩, []⟩

def ofCommand (cmd : ElevatorCommand) : Value := .inl (cmd.type.toInt32, cmd.args)

def ofResponse (resp : ElevatorCommandResponse) : Value :=
  .inr (resp.isError, resp.message, resp.cmdResult.exitCode, resp.cmdResult.output)

def ofJson (j : Json) : Option Value :=
  match ElevatorCommandResponse.fromJson j [] with
  | some resp => some (ofResponse resp)
  | none => (ElevatorCommand.fromJson j []).map ofCommand

def map (f : Str → Str) : Value → Value
  | .inl (type, args) => .inl (type, args.map f)
  | .inr (isError, message, exitCode, output) => .inr (isError, f message, exitCode, f output)

theorem toJson_ofCommand (cmd : ElevatorCommand) : (ofCommand cmd).toJson = cmd.toJson := by
  show ElevatorCommand.toJson ⟨.ofInt32 cmd.type.toInt32, cmd.args, []⟩ = cmd.toJson
  unfold ElevatorCommand.toJson
  rw [ElevatorCommandType.toInt32_ofInt32]

theorem ofJson_command (cmd : ElevatorCommand) : ofJson cmd.toJson = some (ofCommand cmd) := by
  have hno : ElevatorCommandResponse.fromJson cmd.toJson [] = none := rfl
  unfold ofJson
  rw [hno]
  simp only [ElevatorCommand.fromJson_toJson, Option.map_some]
  unfold ofCommand
  rw [ElevatorCommandType.toInt32_ofInt32]

theorem ofJson_response (resp : ElevatorCommandResponse) :
    ofJson resp.toJson = some (ofResponse resp) := by
  unfold ofJson
  rw [ElevatorCommandResponse.fromJson_toJson]
  rfl

end Value

section

variable (clean : Str → Str) (table : List (Value × Str))

def printValue (v : Value) : Str :=
  match table.find? (fun e => e.1 = v) with
  | some e => e.2
  | none => List.replicate (Encodable.encode v + 1) 0

def parseText (text : Str) : Option Value :=
  match table.find? (fun e => e.2 = text) with
  | some e => some e.1
  | none => Encodable.decode (text.length - 1)

def ofTable : IPCJson where
  parse text := (parseText table text).map Value.toJson
  dump j :=
    match Value.ofJson j with
    | some v => printValue table (v.map clean)
    | none => [0]

/-- The texts of a table: distinct, not empty and without zeros. -/
def TableOk (table : List (Value × Str)) : Prop :=
  (table.map Prod.snd).Nodup ∧ ∀ e ∈ table, e.2 ≠ [] ∧ 0 ∉ e.2

instance : Decidable (TableOk table) := by
  unfold TableOk
  exact inferInstance

end

section

variable {clean : Str → Str} {table : List (Value × Str)}

theorem parseText_printValue (h : TableOk table) (v : Value) :
    parseText table (printValue table v) = some v := by
  unfold printValue
  split
  · rename_i e he
    have hmem := List.mem_of_find?_eq_some he
    have hv : e.1 = v := by simpa using List.find?_some he
    unfold parseText
    split
    · rename_i e' he'
      have hsame : e' = e := List.inj_on_of_nodup_map h.1 (List.mem_of_find?_eq_some he') hmem
        (by simpa using List.find?_some he')
      rw [hsame, hv]
    · rename_i hnone
      exact absurd (decide_eq_true rfl) (List.find?_eq_none.mp hnone e hmem)
  · unfold parseText
    split
    · rename_i e' he'
      have htext : e'.2 = List.replicate (Encodable.encode v + 1) 0 := by
        simpa using List.find?_some he'
      have hzero := (h.2 e' (List.mem_of_find?_eq_some he')).2
      rw [htext, List.replicate_succ] at hzero
      exact absurd List.mem_cons_self hzero
    · rw [List.length_replicate, Nat.add_sub_cancel]
      exact Encodable.encodek v

theorem printValue_ne_nil (h : TableOk table) (v : Value) : printValue table v ≠ [] := by
  unfold printValue
  split
  · rename_i e he
    exact (h.2 e (List.mem_of_find?_eq_some he)).1
  · rw [List.replicate_succ]
    exact List.cons_ne_nil _ _

/-- A table with the text of the empty response gives a library with the laws. -/
theorem ofTable_replaces (h : TableOk table) (hclean : ∀ s, clean s = s ↔ validUtf8 s = true)
    (hempty : ((ofTable clean table).dump (ElevatorCommandResponse.toJson {})).length ≤ maxJsonSize) :
    (ofTable clean table).Replaces clean where
  command := by
    intro cmd
    show (parseText table ((ofTable clean table).dump cmd.toJson)).map Value.toJson = _
    have hdump : (ofTable clean table).dump cmd.toJson =
        printValue table ((Value.ofCommand cmd).map clean) := by
      show (match Value.ofJson cmd.toJson with
        | some v => printValue table (v.map clean)
        | none => [0]) = _
      rw [Value.ofJson_command]
    rw [hdump, parseText_printValue h]
    exact congrArg some (Value.toJson_ofCommand (cmd.mapArgs clean))
  response := by
    intro resp
    show (parseText table ((ofTable clean table).dump resp.toJson)).map Value.toJson = _
    have hdump : (ofTable clean table).dump resp.toJson =
        printValue table ((Value.ofResponse resp).map clean) := by
      show (match Value.ofJson resp.toJson with
        | some v => printValue table (v.map clean)
        | none => [0]) = _
      rw [Value.ofJson_response]
    rw [hdump, parseText_printValue h]
    rfl
  clean_eq_iff := hclean
  dump_ne_nil := by
    intro j
    show (match Value.ofJson j with
      | some v => printValue table (v.map clean)
      | none => [0]) ≠ []
    split
    · exact printValue_ne_nil h _
    · exact List.cons_ne_nil _ _
  empty_fits := hempty

end

end IPCJson

namespace Sample

/-- One replacement character for a string that is not valid. -/
def replaceInvalid (s : Str) : Str := if validUtf8 s then s else [0xEF, 0xBF, 0xBD]

theorem replaceInvalid_eq_iff (s : Str) : replaceInvalid s = s ↔ validUtf8 s = true := by
  unfold replaceInvalid
  split
  · rename_i h
    exact iff_of_true rfl h
  · rename_i h
    refine iff_of_false ?_ h
    rintro rfl
    exact h (by decide)

end Sample

end PcbuDesktop
