import Mathlib.Data.Finset.Disjoint
import Mathlib.Data.Finset.Lattice.Lemmas
import Mathlib.Data.List.GetD
import PcbuDesktop.Basic.Version

set_option autoImplicit false

/-! # The command line

`CommandLine` (`cli/CommandLine.cpp`) sorts the arguments of a command into flags, options with
their values, and positional arguments. A command line is described here by the items it is made
of; an option comes in two forms, with its value in the same argument or in the next one. The
constructor reads the arguments of a list of items as just these items (`parseLoop_items`), and
whatever it does not refuse is such a list (`parseLoop_ok`).
-/

namespace PcbuDesktop

/-! ## The constructor -/

structure CommandLine where
  args : List Str := []
  flags : Finset Str := ∅
  options : Str → Option Str := fun _ => none

/-- What is thrown as `std::invalid_argument`. -/
inductive CommandLineError where
  | takesNoValue (name : Str)
  | requiresValue (name : Str)
  | unknownOption (name : Str)
  | missingArgument
  | unexpectedArgument (arg : Str)
  deriving DecidableEq, Repr

/-- The text of the exception. -/
def CommandLineError.message : CommandLineError → Str
  | .takesNoValue name => str "Option '" ++ name ++ str "' does not take a value."
  | .requiresValue name => str "Option '" ++ name ++ str "' requires a value."
  | .unknownOption name => str "Unknown option '" ++ name ++ str "'."
  | .missingArgument => str "Missing argument."
  | .unexpectedArgument arg => str "Unexpected argument '" ++ arg ++ str "'."

namespace CommandLine

def addArg (cmd : CommandLine) (arg : Str) : CommandLine := { cmd with args := cmd.args ++ [arg] }

def addFlag (cmd : CommandLine) (name : Str) : CommandLine :=
  { cmd with flags := insert name cmd.flags }

def setOption (cmd : CommandLine) (name value : Str) : CommandLine :=
  { cmd with options := Function.update cmd.options name (some value) }

/-- The name of an argument and the value behind its first `=`. -/
def nameAndValue (arg : Str) : Str × Option Str :=
  match find (str "=") arg with
  | none => (arg, none)
  | some separator => (arg.take separator, some (arg.drop (separator + 1)))

/-- The loop of the constructor. -/
def parseLoop (flags valueOptions : Finset Str) :
    Bool → List Str → CommandLine → Except CommandLineError CommandLine
  | _, [], cmd => .ok cmd
  | onlyArgs, arg :: rest, cmd =>
      if onlyArgs = true ∨ arg.length < 2 ∨ arg.head? ≠ some 45 then
        parseLoop flags valueOptions onlyArgs rest (cmd.addArg arg)
      else if arg = str "--" then parseLoop flags valueOptions true rest cmd
      else
        let name := (nameAndValue arg).1
        let value := (nameAndValue arg).2
        if name ∈ flags then
          if value.isSome then .error (.takesNoValue name)
          else parseLoop flags valueOptions onlyArgs rest (cmd.addFlag name)
        else if name ∈ valueOptions then
          match value, rest with
          | some v, rest => parseLoop flags valueOptions onlyArgs rest (cmd.setOption name v)
          | none, [] => .error (.requiresValue name)
          | none, v :: rest => parseLoop flags valueOptions onlyArgs rest (cmd.setOption name v)
        else .error (.unknownOption name)

/-- `CommandLine::CommandLine`. -/
def ofArgs (args : List Str) (flags valueOptions : Finset Str) :
    Except CommandLineError CommandLine := parseLoop flags valueOptions false args {}

def expectArgs (cmd : CommandLine) (minCount maxCount : Nat) : Except CommandLineError Unit :=
  if cmd.args.length < minCount then .error .missingArgument
  else if cmd.args.length > maxCount then .error (.unexpectedArgument (cmd.args.getD maxCount []))
  else .ok ()

def getArgCount (cmd : CommandLine) : Nat := cmd.args.length

def getArg (cmd : CommandLine) (index : Nat) : Str :=
  if index ≥ cmd.args.length then [] else cmd.args.getD index []

def hasFlag (cmd : CommandLine) (name : Str) : Bool := decide (name ∈ cmd.flags)

def getOption (cmd : CommandLine) (name : Str) : Option Str := cmd.options name

/-! ## Items -/

/-- What a part of a command line is. -/
inductive Item where
  | flag (name : Str)
  | joined (name value : Str)
  | separate (name value : Str)
  | separator
  | positional (arg : Str)
  deriving DecidableEq, Repr

/-- The arguments that an item is written with. -/
def Item.render : Item → List Str
  | .flag name => [name]
  | .joined name value => [name ++ str "=" ++ value]
  | .separate name value => [name, value]
  | .separator => [str "--"]
  | .positional arg => [arg]

/-- What an item adds to the command line. -/
def addItem (cmd : CommandLine) : Item → CommandLine
  | .flag name => cmd.addFlag name
  | .joined name value => cmd.setOption name value
  | .separate name value => cmd.setOption name value
  | .separator => cmd
  | .positional arg => cmd.addArg arg

/-- The argument is looked at as an option: it begins with `-` and is longer. -/
def IsOptionLike (arg : Str) : Prop := 2 ≤ arg.length ∧ arg.head? = some 45

/-- An option or a flag as the program declares it. -/
structure IsName (name : Str) : Prop where
  optionLike : IsOptionLike name
  noValue : (61 : UInt8) ∉ name
  notSeparator : name ≠ str "--"

/-- Items that can stand in front of the separator. -/
def Item.Declared (flags valueOptions : Finset Str) : Item → Prop
  | .flag name => name ∈ flags ∧ IsName name
  | .joined name _ =>
      name ∉ flags ∧ name ∈ valueOptions ∧ name.head? = some 45 ∧ (61 : UInt8) ∉ name
  | .separate name _ => name ∉ flags ∧ name ∈ valueOptions ∧ IsName name
  | .separator => False
  | .positional arg => ¬ IsOptionLike arg

/-- A command line: items with declared names and positional arguments, and possibly the
separator with positional arguments behind it. -/
def WellFormed (flags valueOptions : Finset Str) (items : List Item) : Prop :=
  ∃ before, (∀ item ∈ before, item.Declared flags valueOptions) ∧
    (items = before ∨
      ∃ positionals : List Str,
        items = before ++ .separator :: positionals.map Item.positional)

/-! ## One argument -/

theorem nameAndValue_cases (arg : Str) :
    (nameAndValue arg = (arg, none) ∧ (61 : UInt8) ∉ arg) ∨
    ∃ name value, arg = name ++ str "=" ++ value ∧ (61 : UInt8) ∉ name ∧
      nameAndValue arg = (name, some value) := by
  have hequals : str "=" = [61] := by decide
  unfold nameAndValue
  rw [hequals]
  cases hfind : find [61] arg with
  | none => exact Or.inl ⟨rfl, find_singleton_eq_none.mp hfind⟩
  | some separator =>
      obtain ⟨heq, hnot⟩ := find_singleton_eq_some hfind
      refine Or.inr ⟨_, _, ?_, hnot, rfl⟩
      rw [List.append_assoc, List.singleton_append]
      exact heq

theorem nameAndValue_name {name : Str} (h : (61 : UInt8) ∉ name) :
    nameAndValue name = (name, none) := by
  have hequals : str "=" = [61] := by decide
  unfold nameAndValue
  rw [hequals, find_singleton_eq_none.mpr h]

theorem nameAndValue_joined {name : Str} (h : (61 : UInt8) ∉ name) (value : Str) :
    nameAndValue (name ++ str "=" ++ value) = (name, some value) := by
  have hequals : str "=" = [61] := by decide
  unfold nameAndValue
  rw [hequals, List.append_assoc, List.singleton_append, find_singleton h]
  dsimp only
  rw [List.take_left, List.drop_length_add_append]
  rfl

/-- The test at the beginning of the loop. -/
theorem isPositional_iff (arg : Str) :
    ((false = true) ∨ arg.length < 2 ∨ arg.head? ≠ some 45) ↔ ¬ IsOptionLike arg := by
  unfold IsOptionLike
  rw [not_and_or, Nat.not_le]
  simp

theorem isOptionLike_joined {name : Str} (h : name.head? = some 45) (value : Str) :
    IsOptionLike (name ++ str "=" ++ value) ∧ name ++ str "=" ++ value ≠ str "--" := by
  have hequals : str "=" = [61] := by decide
  obtain ⟨c, name, rfl⟩ := List.exists_cons_of_ne_nil (show name ≠ [] by rintro rfl; cases h)
  refine ⟨⟨?_, h⟩, ?_⟩
  · rw [hequals, List.length_append, List.length_append, List.length_cons, List.length_singleton]
    omega
  · intro heq
    have hmem : (61 : UInt8) ∈ str "--" := by
      rw [← heq, hequals]
      simp
    exact absurd hmem (by decide)

theorem head_name {name value : Str} (h : (name ++ str "=" ++ value).head? = some 45) :
    name.head? = some 45 := by
  cases name with
  | nil => exact absurd h (by simp [str])
  | cons c name => exact h

section

variable {flags valueOptions : Finset Str}

/-! ## Reading items -/

theorem parseLoop_positional {arg : Str} (h : ¬ IsOptionLike arg) (rest : List Str)
    (cmd : CommandLine) :
    parseLoop flags valueOptions false (arg :: rest) cmd =
      parseLoop flags valueOptions false rest (cmd.addArg arg) := by
  rw [parseLoop, if_pos ((isPositional_iff arg).mpr h)]

theorem parseLoop_separator (rest : List Str) (cmd : CommandLine) :
    parseLoop flags valueOptions false (str "--" :: rest) cmd =
      parseLoop flags valueOptions true rest cmd := by
  rw [parseLoop, if_neg (by decide), if_pos rfl]

theorem parseLoop_onlyArgs (positionals : List Str) (cmd : CommandLine) :
    parseLoop flags valueOptions true positionals cmd = .ok (positionals.foldl addArg cmd) := by
  induction positionals generalizing cmd with
  | nil => rfl
  | cons arg positionals ih =>
      rw [parseLoop, if_pos (Or.inl rfl), ih]
      rfl

/-- An item in front of the separator is read as what it is. -/
theorem parseLoop_item {item : Item} (h : item.Declared flags valueOptions) (rest : List Str)
    (cmd : CommandLine) :
    parseLoop flags valueOptions false (item.render ++ rest) cmd =
      parseLoop flags valueOptions false rest (cmd.addItem item) := by
  cases item with
  | flag name =>
      obtain ⟨hmem, hname⟩ := h
      show parseLoop flags valueOptions false (name :: rest) cmd = _
      rw [parseLoop, if_neg ((isPositional_iff name).not.mpr (not_not_intro hname.optionLike)),
        if_neg hname.notSeparator, nameAndValue_name hname.noValue]
      dsimp only
      rw [if_pos hmem, if_neg (by simp)]
      rfl
  | joined name value =>
      obtain ⟨hflag, hmem, hdash, hno⟩ := h
      obtain ⟨hlike, hne⟩ := isOptionLike_joined hdash value
      show parseLoop flags valueOptions false ((name ++ str "=" ++ value) :: rest) cmd = _
      rw [parseLoop, if_neg ((isPositional_iff _).not.mpr (not_not_intro hlike)), if_neg hne,
        nameAndValue_joined hno]
      dsimp only
      rw [if_neg hflag, if_pos hmem]
      rfl
  | separate name value =>
      obtain ⟨hflag, hmem, hname⟩ := h
      show parseLoop flags valueOptions false (name :: value :: rest) cmd = _
      rw [parseLoop, if_neg ((isPositional_iff name).not.mpr (not_not_intro hname.optionLike)),
        if_neg hname.notSeparator, nameAndValue_name hname.noValue]
      dsimp only
      rw [if_neg hflag, if_pos hmem]
      rfl
  | separator => exact h.elim
  | positional arg => exact parseLoop_positional h rest cmd

theorem parseLoop_items {items : List Item} (h : ∀ item ∈ items, item.Declared flags valueOptions)
    (rest : List Str) (cmd : CommandLine) :
    parseLoop flags valueOptions false (items.flatMap Item.render ++ rest) cmd =
      parseLoop flags valueOptions false rest (items.foldl addItem cmd) := by
  induction items generalizing cmd with
  | nil => rfl
  | cons item items ih =>
      rw [List.flatMap_cons, List.append_assoc, parseLoop_item (h item List.mem_cons_self),
        ih (fun i hi => h i (List.mem_cons_of_mem _ hi)), List.foldl_cons]

/-! ## What is not refused -/

theorem WellFormed.cons {item : Item} {items : List Item} (hitem : item.Declared flags valueOptions)
    (h : WellFormed flags valueOptions items) : WellFormed flags valueOptions (item :: items) := by
  obtain ⟨before, hbefore, hitems⟩ := h
  refine ⟨item :: before, ?_, ?_⟩
  · intro i hi
    rcases List.mem_cons.mp hi with rfl | hi
    · exact hitem
    · exact hbefore i hi
  · rcases hitems with rfl | ⟨positionals, rfl⟩
    · exact Or.inl rfl
    · exact Or.inr ⟨positionals, rfl⟩

theorem flatMap_positional (positionals : List Str) :
    (positionals.map Item.positional).flatMap Item.render = positionals := by
  induction positionals with
  | nil => rfl
  | cons arg positionals ih =>
      rw [List.map_cons, List.flatMap_cons, ih]
      rfl

theorem foldl_positional (positionals : List Str) (cmd : CommandLine) :
    (positionals.map Item.positional).foldl addItem cmd = positionals.foldl addArg cmd := by
  rw [List.foldl_map]
  rfl

/-- One argument, or an option and its value, and what the loop goes on with. -/
theorem parseLoop_cons {arg : Str} {rest : List Str} {cmd last : CommandLine}
    (h : parseLoop flags valueOptions false (arg :: rest) cmd = .ok last) :
    (∃ item rest', item.Declared flags valueOptions ∧ arg :: rest = item.render ++ rest' ∧
      parseLoop flags valueOptions false rest' (cmd.addItem item) = .ok last) ∨
    (arg = str "--" ∧ last = rest.foldl addArg cmd) := by
  by_cases hlike : IsOptionLike arg
  · rw [parseLoop, if_neg ((isPositional_iff arg).not.mpr (not_not_intro hlike))] at h
    by_cases hseparator : arg = str "--"
    · rw [if_pos hseparator, parseLoop_onlyArgs] at h
      exact Or.inr ⟨hseparator, (Except.ok.inj h).symm⟩
    · left
      rw [if_neg hseparator] at h
      rcases nameAndValue_cases arg with ⟨hvalue, hno⟩ | ⟨name, value, harg, hno, hvalue⟩
      · -- no value in the argument itself
        rw [hvalue] at h
        dsimp only at h
        have hname : IsName arg := ⟨hlike, hno, hseparator⟩
        by_cases hflag : arg ∈ flags
        · rw [if_pos hflag, if_neg (by simp)] at h
          exact ⟨.flag arg, rest, ⟨hflag, hname⟩, rfl, h⟩
        · by_cases hoption : arg ∈ valueOptions
          · rw [if_neg hflag, if_pos hoption] at h
            cases rest with
            | nil => cases h
            | cons value rest =>
                exact ⟨.separate arg value, rest, ⟨hflag, hoption, hname⟩, rfl, h⟩
          · rw [if_neg hflag, if_neg hoption] at h
            cases h
      · rw [hvalue] at h
        dsimp only at h
        by_cases hflag : name ∈ flags
        · rw [if_pos hflag, if_pos Option.isSome_some] at h
          cases h
        · by_cases hoption : name ∈ valueOptions
          · rw [if_neg hflag, if_pos hoption] at h
            have hdash : name.head? = some 45 := head_name (harg ▸ hlike.2)
            refine ⟨.joined name value, rest, ⟨hflag, hoption, hdash, hno⟩, ?_, h⟩
            rw [harg]
            rfl
          · rw [if_neg hflag, if_neg hoption] at h
            cases h
  · left
    rw [parseLoop_positional hlike] at h
    exact ⟨.positional arg, rest, hlike, rfl, h⟩

/-- A command line that is not refused is one of items. -/
theorem parseLoop_ok {args : List Str} {cmd last : CommandLine}
    (h : parseLoop flags valueOptions false args cmd = .ok last) :
    ∃ items, WellFormed flags valueOptions items ∧ args = items.flatMap Item.render ∧
      last = items.foldl addItem cmd := by
  induction hn : args.length using Nat.strongRecOn generalizing args cmd with
  | ind n ih =>
      cases args with
      | nil =>
          refine ⟨[], ⟨[], ?_, Or.inl rfl⟩, rfl, (Except.ok.inj h).symm⟩
          intro item hitem
          cases hitem
      | cons arg rest =>
          rcases parseLoop_cons h with ⟨item, rest', hitem, hargs, hrest⟩ | ⟨harg, hlast⟩
          · have hlen : rest'.length < n := by
              have hrender : 0 < item.render.length := by
                cases item with
                | flag name => exact Nat.one_pos
                | joined name value => exact Nat.one_pos
                | separate name value => exact Nat.two_pos
                | separator => exact Nat.one_pos
                | positional arg => exact Nat.one_pos
              rw [← hn, hargs, List.length_append]
              omega
            obtain ⟨items, hwf, hitems, hlast⟩ := ih _ hlen hrest rfl
            refine ⟨item :: items, hwf.cons hitem, ?_, hlast⟩
            rw [List.flatMap_cons, ← hitems]
            exact hargs
          · refine ⟨.separator :: rest.map Item.positional,
              ⟨[], ?_, Or.inr ⟨rest, rfl⟩⟩, ?_, ?_⟩
            · intro item hitem
              cases hitem
            · rw [List.flatMap_cons, flatMap_positional, harg]
              rfl
            · rw [List.foldl_cons, foldl_positional]
              exact hlast

end

/-! ## What is read -/

/-- The value that an item gives to an option. -/
def Item.value (option : Str) : Item → Option Str
  | .joined name value => if name = option then some value else none
  | .separate name value => if name = option then some value else none
  | _ => none

def Item.arg : Item → Option Str
  | .positional arg => some arg
  | _ => none

theorem mem_flags_foldl (items : List Item) (cmd : CommandLine) (name : Str) :
    name ∈ (items.foldl addItem cmd).flags ↔ name ∈ cmd.flags ∨ .flag name ∈ items := by
  induction items generalizing cmd with
  | nil => simp
  | cons item items ih =>
      rw [List.foldl_cons, ih, List.mem_cons]
      cases item with
      | flag n =>
          show name ∈ insert n cmd.flags ∨ _ ↔ _
          rw [Finset.mem_insert, Item.flag.injEq]
          tauto
      | joined n v => simp [addItem, setOption]
      | separate n v => simp [addItem, setOption]
      | separator => simp [addItem]
      | positional a => simp [addItem, addArg]

theorem args_foldl (items : List Item) (cmd : CommandLine) :
    (items.foldl addItem cmd).args = cmd.args ++ items.filterMap Item.arg := by
  induction items generalizing cmd with
  | nil => simp
  | cons item items ih =>
      rw [List.foldl_cons, ih]
      cases item with
      | positional a =>
          show cmd.args ++ [a] ++ _ = cmd.args ++ a :: _
          rw [List.append_assoc, List.singleton_append]
      | flag n => rfl
      | joined n v => rfl
      | separate n v => rfl
      | separator => rfl

/-- The last value counts. -/
theorem options_foldl (items : List Item) (cmd : CommandLine) (name : Str) :
    (items.foldl addItem cmd).options name =
      ((items.filterMap (Item.value name)).getLast?).or (cmd.options name) := by
  induction items using List.reverseRecOn with
  | nil => rfl
  | append_singleton items item ih =>
      have hset (n v : Str) : ((items.foldl addItem cmd).setOption n v).options name =
          ((if n = name then some v else none) : Option Str).or
            ((items.foldl addItem cmd).options name) := by
        by_cases hn : n = name
        · subst hn
          simp [setOption]
        · simp [setOption, hn, Function.update_of_ne (Ne.symm hn)]
      have hlast (v : Option Str) : (items.filterMap (Item.value name) ++ v.toList).getLast?.or
          (cmd.options name) = v.or ((items.filterMap (Item.value name)).getLast?.or
            (cmd.options name)) := by
        cases v with
        | none => simp
        | some v => simp
      have hvalue : [item].filterMap (Item.value name) = (item.value name).toList := by
        cases hv : item.value name with
        | none => simp [hv]
        | some v => simp [hv]
      rw [List.foldl_concat, List.filterMap_append, hvalue, hlast, ← ih]
      cases item with
      | joined n v => exact hset n v
      | separate n v => exact hset n v
      | flag n => rfl
      | separator => rfl
      | positional a => rfl

/-- An item for one of the flags or one of the assigned options. -/
def Item.Given (chosen : Finset Str) (assigned : Str → Option Str) : Item → Prop
  | .flag name => name ∈ chosen
  | .joined name value => assigned name = some value
  | .separate name value => assigned name = some value
  | .separator => False
  | .positional _ => False

/-- The items are the chosen flags and the assigned options, each option in either form, in any
order. -/
structure Spells (chosen : Finset Str) (assigned : Str → Option Str) (items : List Item) : Prop where
  given : ∀ item ∈ items, item.Given chosen assigned
  flags : ∀ name ∈ chosen, .flag name ∈ items
  options : ∀ name value, assigned name = some value →
    .joined name value ∈ items ∨ .separate name value ∈ items

theorem Spells.flag_mem_iff {chosen : Finset Str} {assigned : Str → Option Str} {items : List Item}
    (h : Spells chosen assigned items) (name : Str) : .flag name ∈ items ↔ name ∈ chosen :=
  ⟨fun hmem => h.given _ hmem, h.flags name⟩

theorem Spells.value_eq {chosen : Finset Str} {assigned : Str → Option Str} {items : List Item}
    (h : Spells chosen assigned items) (name : Str) :
    (items.filterMap (Item.value name)).getLast? = assigned name := by
  have hall : ∀ value ∈ items.filterMap (Item.value name), assigned name = some value := by
    intro value hvalue
    obtain ⟨item, hitem, heq⟩ := List.mem_filterMap.mp hvalue
    have hgiven := h.given item hitem
    cases item with
    | joined n v =>
        simp only [Item.value, Option.ite_none_right_eq_some, Option.some.injEq] at heq
        obtain ⟨rfl, rfl⟩ := heq
        exact hgiven
    | separate n v =>
        simp only [Item.value, Option.ite_none_right_eq_some, Option.some.injEq] at heq
        obtain ⟨rfl, rfl⟩ := heq
        exact hgiven
    | flag n => cases heq
    | separator => cases heq
    | positional a => cases heq
  cases hlast : (items.filterMap (Item.value name)).getLast? with
  | some value => exact (hall value (List.mem_of_getLast? hlast)).symm
  | none =>
      cases hassigned : assigned name with
      | none => rfl
      | some value =>
          -- the option is among the items, so that there is a last value
          have hmem : value ∈ items.filterMap (Item.value name) := by
            rw [List.mem_filterMap]
            rcases h.options name value hassigned with hin | hin
            · exact ⟨_, hin, if_pos rfl⟩
            · exact ⟨_, hin, if_pos rfl⟩
          rw [List.getLast?_eq_none_iff.mp hlast] at hmem
          cases hmem

theorem Spells.declared {flags valueOptions chosen : Finset Str} {assigned : Str → Option Str}
    {items : List Item} (h : Spells chosen assigned items)
    (hdisjoint : Disjoint flags valueOptions) (hflags : ∀ name ∈ flags, IsName name)
    (hoptions : ∀ name ∈ valueOptions, IsName name) (hchosen : chosen ⊆ flags)
    (hassigned : ∀ name value, assigned name = some value → name ∈ valueOptions) :
    ∀ item ∈ items, item.Declared flags valueOptions := by
  intro item hitem
  have hgiven := h.given item hitem
  have hapart : ∀ name ∈ valueOptions, name ∉ flags := fun name hoption hflag =>
    Finset.disjoint_left.mp hdisjoint hflag hoption
  cases item with
  | flag name => exact ⟨hchosen hgiven, hflags name (hchosen hgiven)⟩
  | joined name value =>
      have hmem := hassigned name value hgiven
      exact ⟨hapart name hmem, hmem, (hoptions name hmem).optionLike.2,
        (hoptions name hmem).noValue⟩
  | separate name value =>
      have hmem := hassigned name value hgiven
      exact ⟨hapart name hmem, hmem, hoptions name hmem⟩
  | separator => exact hgiven.elim
  | positional arg => exact hgiven.elim

theorem getArg_eq (cmd : CommandLine) (index : Nat) : cmd.getArg index = cmd.args.getD index [] := by
  unfold getArg
  by_cases h : index ≥ cmd.args.length
  · rw [if_pos h, List.getD_eq_default _ _ h]
  · rw [if_neg h]

/-- **Command lines are read back.** Flags and options in any order, with the values in either form,
then `--` and positional arguments: the constructor succeeds, and `HasFlag`, `GetOption` and `GetArg`
return just these. And whenever the constructor does not throw, the arguments are those of a list of
items, one behind the other, from which all that is returned comes. -/
theorem commandLine_roundTrip (flags valueOptions : Finset Str) :
    (Disjoint flags valueOptions → (∀ name ∈ flags ∪ valueOptions, IsName name) →
      ∀ (chosen : Finset Str) (assigned : Str → Option Str) (given : List Item)
        (positionals : List Str),
        chosen ⊆ flags → (∀ name value, assigned name = some value → name ∈ valueOptions) →
        Spells chosen assigned given →
        ∃ cmd, ofArgs (given.flatMap Item.render ++ str "--" :: positionals) flags valueOptions =
            .ok cmd ∧
          (∀ name, cmd.hasFlag name = decide (name ∈ chosen)) ∧
          (∀ name, cmd.getOption name = assigned name) ∧
          cmd.getArgCount = positionals.length ∧
          ∀ i, cmd.getArg i = positionals.getD i []) ∧
    (∀ args cmd, ofArgs args flags valueOptions = .ok cmd →
      ∃ items, WellFormed flags valueOptions items ∧ args = items.flatMap Item.render ∧
        (∀ name, cmd.hasFlag name = decide (.flag name ∈ items)) ∧
        (∀ name, cmd.getOption name = (items.filterMap (Item.value name)).getLast?) ∧
        ∀ i, cmd.getArg i = (items.filterMap Item.arg).getD i []) := by
  have hitems : ∀ items : List Item,
      (∀ name, (items.foldl addItem {}).hasFlag name = decide (.flag name ∈ items)) ∧
      (∀ name, (items.foldl addItem {}).getOption name =
        (items.filterMap (Item.value name)).getLast?) ∧
      (items.foldl addItem {}).args = items.filterMap Item.arg := by
    intro items
    refine ⟨?_, ?_, ?_⟩
    · intro name
      exact decide_eq_decide.mpr ((mem_flags_foldl items {} name).trans (by simp))
    · intro name
      exact (options_foldl items {} name).trans (Option.or_none ..)
    · exact args_foldl items {}
  constructor
  · intro hdisjoint hnames chosen assigned given positionals hchosen hassigned hspells
    have hdeclared := hspells.declared hdisjoint
      (fun name hmem => hnames name (Finset.mem_union_left _ hmem))
      (fun name hmem => hnames name (Finset.mem_union_right _ hmem)) hchosen hassigned
    obtain ⟨hflag, hoption, harg⟩ := hitems (given ++ positionals.map Item.positional)
    have hgivenArgs : given.filterMap Item.arg = [] := by
      rw [List.filterMap_eq_nil_iff]
      intro item hitem
      have hgiven := hspells.given item hitem
      cases item with
      | positional arg => exact hgiven.elim
      | flag n => rfl
      | joined n v => rfl
      | separate n v => rfl
      | separator => rfl
    have hargs : (positionals.map Item.positional).filterMap Item.arg = positionals := by
      rw [List.filterMap_map]
      exact List.filterMap_some
    have hvalues (name : Str) :
        (positionals.map Item.positional).filterMap (Item.value name) = [] := by
      rw [List.filterMap_map]
      exact List.filterMap_eq_nil_iff.mpr (fun _ _ => rfl)
    rw [List.filterMap_append, hgivenArgs, hargs, List.nil_append] at harg
    refine ⟨(given ++ positionals.map Item.positional).foldl addItem {}, ?_, ?_, ?_, ?_, ?_⟩
    · unfold ofArgs
      rw [parseLoop_items hdeclared, parseLoop_separator, parseLoop_onlyArgs, List.foldl_append,
        foldl_positional]
    · intro name
      rw [hflag]
      refine decide_eq_decide.mpr ?_
      rw [← hspells.flag_mem_iff name, List.mem_append]
      simp
    · intro name
      rw [hoption, List.filterMap_append, hvalues, List.append_nil, hspells.value_eq]
    · rw [getArgCount, harg]
    · intro i
      rw [getArg_eq, harg]
  · intro args cmd h
    obtain ⟨items, hwf, hargs, rfl⟩ := parseLoop_ok h
    obtain ⟨hflag, hoption, harg⟩ := hitems items
    refine ⟨items, hwf, hargs, hflag, hoption, ?_⟩
    intro i
    rw [getArg_eq, harg]

namespace Sample

theorem isName_dashes {name : Str} (h : name.take 2 = str "--") (hno : (61 : UInt8) ∉ name)
    (hlong : name ≠ str "--") : IsName name := by
  obtain ⟨t, rfl⟩ : ∃ t, name = str "--" ++ t := ⟨name.drop 2, by rw [← h, List.take_append_drop]⟩
  refine ⟨⟨?_, rfl⟩, hno, hlong⟩
  rw [List.length_append]
  exact Nat.le_add_right 2 _

end Sample

/-- `--user=a=b --yes --host -- -x`, where `--yes` is a flag and `--user` and `--host` are options. -/
theorem commandLine_roundTrip_sample :
    ∃ cmd, ofArgs [str "--user=a=b", str "--yes", str "--host", str "--", str "--", str "-x"]
        {str "--yes"} {str "--user", str "--host"} = .ok cmd ∧
      cmd.hasFlag (str "--yes") = true ∧ cmd.getOption (str "--user") = some (str "a=b") ∧
      cmd.getOption (str "--host") = some (str "--") ∧ cmd.getArg 0 = str "-x" := by
  have hnames : ∀ name ∈ ({str "--yes"} ∪ {str "--user", str "--host"} : Finset Str),
      IsName name := by
    intro name hname
    have hcases : name = str "--user" ∨ name = str "--yes" ∨ name = str "--host" := by
      simpa using hname
    rcases hcases with rfl | rfl | rfl
    · exact Sample.isName_dashes (by decide) (by decide) (by decide)
    · exact Sample.isName_dashes (by decide) (by decide) (by decide)
    · exact Sample.isName_dashes (by decide) (by decide) (by decide)
  let assigned : Str → Option Str := fun name =>
    if name = str "--user" then some (str "a=b")
    else if name = str "--host" then some (str "--") else none
  have hassigned : ∀ name value, assigned name = some value →
      name ∈ ({str "--user", str "--host"} : Finset Str) := by
    intro name value h
    by_cases huser : name = str "--user"
    · simp [huser]
    · by_cases hhost : name = str "--host"
      · simp [hhost]
      · simp [assigned, huser, hhost] at h
  have hspells : Spells {str "--yes"} assigned
      [.joined (str "--user") (str "a=b"), .flag (str "--yes"),
        .separate (str "--host") (str "--")] := by
    refine ⟨?_, ?_, ?_⟩
    · intro item hitem
      have hcases : item = .joined (str "--user") (str "a=b") ∨ item = .flag (str "--yes") ∨
          item = .separate (str "--host") (str "--") := by simpa using hitem
      rcases hcases with rfl | rfl | rfl
      · exact if_pos rfl
      · exact Finset.mem_singleton_self _
      · show assigned (str "--host") = some (str "--")
        decide
    · intro name hname
      rw [Finset.mem_singleton.mp hname]
      simp
    · intro name value h
      by_cases huser : name = str "--user"
      · rw [huser] at h ⊢
        have hvalue : str "a=b" = value := Option.some.inj h
        rw [← hvalue]
        exact Or.inl List.mem_cons_self
      · by_cases hhost : name = str "--host"
        · rw [hhost] at h ⊢
          have hvalue : str "--" = value := by
            have hdef : assigned (str "--host") = some (str "--") := by decide
            exact Option.some.inj (hdef.symm.trans h)
          rw [← hvalue]
          exact Or.inr (by simp)
        · simp [assigned, huser, hhost] at h
  obtain ⟨cmd, hcmd, hflag, hoption, -, harg⟩ :=
    (commandLine_roundTrip {str "--yes"} {str "--user", str "--host"}).1 (by decide) hnames
      {str "--yes"} assigned _ [str "-x"] (Finset.Subset.refl _) hassigned hspells
  refine ⟨cmd, hcmd, ?_, ?_, ?_, harg 0⟩
  · rw [hflag]
    decide
  · rw [hoption]
    decide
  · rw [hoption]
    decide

end CommandLine

end PcbuDesktop
