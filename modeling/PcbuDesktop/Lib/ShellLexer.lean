import Mathlib.Data.List.Basic

set_option autoImplicit false

/-! # How the shell reads a command text

The lexical rules of the POSIX shell as a machine that reads one byte after the other. Its state is
the stack of what has been begun and not ended, the innermost first: commands, quotes, expansions,
comments and here-documents. It reports what it reads as events: the words with their bytes, each of
them quoted or not, the operators, and the bytes of expansions. A quoted byte stands for itself;
what an expansion yields, and which files an unquoted `*` matches, is found out later.

bash and zsh begin more expansions with a `$` than POSIX has: both of them `$[…]`, the older form of
arithmetic, and zsh a parameter with a flag in front of it (`$=name`, `$~name`, `$^name`,
`$+name`). A name has the letters of ASCII, as in the C locale.

The shells leave some texts open, and these rules read a `$` in front of any other byte as itself,
a flag of zsh as an expansion also when no parameter is behind it, take `$((` for arithmetic, and
count the parentheses in `$( )`, so that a `case` pattern in it needs both of its parentheses. What
zsh reads behind the name of a parameter (a subscript, a modifier) is read as text here.
-/

namespace PcbuDesktop

namespace ShellLexer

/-! ## Bytes -/

abbrev squote : UInt8 := 39
abbrev dquote : UInt8 := 34
abbrev backslash : UInt8 := 92
abbrev dollar : UInt8 := 36
abbrev backquote : UInt8 := 96
abbrev hash : UInt8 := 35
abbrev dash : UInt8 := 45
abbrev lineFeed : UInt8 := 10
abbrev lessThan : UInt8 := 60
abbrev parenLeft : UInt8 := 40
abbrev parenRight : UInt8 := 41
abbrev bracketLeft : UInt8 := 91
abbrev bracketRight : UInt8 := 93
abbrev braceLeft : UInt8 := 123
abbrev braceRight : UInt8 := 125

/-- A space or a tab. -/
def isBlank (c : UInt8) : Bool := c == 32 || c == 9

/-- `;`, `&`, `|` and `>`; the other operators have rules of their own. -/
def isOperator (c : UInt8) : Bool := c == 59 || c == 38 || c == 124 || c == 62

def isNameStart (c : UInt8) : Bool := (65 ≤ c && c ≤ 90) || (97 ≤ c && c ≤ 122) || c == 95

def isDigitByte (c : UInt8) : Bool := 48 ≤ c && c ≤ 57

/-- `@`, `*`, `#`, `?`, `-`, `$` and `!`. -/
def isSpecialParameter (c : UInt8) : Bool :=
  c == 64 || c == 42 || c == 35 || c == 63 || c == 45 || c == 36 || c == 33

/-- The shells whose rules for `$` are followed. -/
inductive Dialect where
  | bash
  | zsh
  deriving DecidableEq, Repr

/-- The flags that zsh takes in front of a parameter: `=`, `~`, `^` and `+`. -/
def isFlag (sh : Dialect) (c : UInt8) : Bool :=
  sh == .zsh && (c == 61 || c == 126 || c == 94 || c == 43)

/-- With this byte a `$` begins an expansion. -/
def startsExpansion (sh : Dialect) (c : UInt8) : Bool :=
  c == parenLeft || c == braceLeft || c == bracketLeft || isNameStart c || isDigitByte c ||
    isSpecialParameter c || isFlag sh c

/-- In double quotes a backslash takes their meaning from these bytes. -/
def isEscapable (c : UInt8) : Bool :=
  c == dollar || c == backquote || c == dquote || c == backslash

/-! ## States and events -/

inductive Event where
  | wordBegin
  | byte (c : UInt8) (quoted : Bool)
  | wordEnd
  | operator (c : UInt8)
  | blank
  /-- A byte of a parameter, of arithmetic or of a command in backquotes. -/
  | expansion (c : UInt8)
  /-- `$(` and its `)`. -/
  | substitutionBegin
  | substitutionEnd
  /-- A byte of a here-document. -/
  | body (c : UInt8)
  deriving DecidableEq, Repr

structure HereDoc where
  stripTabs : Bool := false
  quoted : Bool := false
  delimiter : List UInt8 := []
  deriving DecidableEq, Repr

/-- A command that is being read. -/
structure Command where
  /-- It stands in `$( )`; the next `)` at depth 0 ends it. -/
  substitution : Bool := false
  depth : Nat := 0
  inWord : Bool := false
  /-- So many `<` stand directly before. -/
  angles : Nat := 0
  /-- After `<<`: the here-document whose delimiter is the next word. -/
  here : Option HereDoc := none
  /-- The here-documents that begin with the next line. -/
  pending : List HereDoc := []
  deriving DecidableEq, Repr

inductive Context where
  | command (cmd : Command)
  | single
  | double
  /-- `$'…'`. -/
  | ansi (escaped : Bool)
  /-- Behind a backslash. -/
  | escape (inDouble : Bool)
  | comment
  /-- Behind a `$`. -/
  | dollar (inDouble : Bool)
  /-- Behind a flag of zsh. -/
  | flags
  /-- In `$name`. -/
  | name
  /-- Behind `$(`. -/
  | paren
  /-- `${…}`. -/
  | braces (inDouble : Bool)
  /-- `$((…))`, or `$[…]`. -/
  | arithmetic (brackets : Bool) (depth : Nat)
  | backquote (escaped : Bool)
  | hereDoc (docs : List HereDoc) (line : List UInt8)
  deriving DecidableEq, Repr

/-- The state at the beginning of a text. -/
def start : List Context := [.command {}]

/-! ## Words -/

/-- The next byte of a word begins it, unless it has begun. -/
def Command.begins (cmd : Command) : List Event := if cmd.inWord then [] else [.wordBegin]

/-- Bytes are added to the word. -/
def Command.add (cmd : Command) (s : List UInt8) (quoted : Bool) : Command :=
  { cmd with
    inWord := true
    angles := 0
    here := cmd.here.map fun doc =>
      { doc with quoted := doc.quoted || quoted, delimiter := doc.delimiter ++ s } }

def Command.ends (cmd : Command) : List Event := if cmd.inWord then [.wordEnd] else []

/-- The word ends. The one after `<<` is the delimiter of a here-document. -/
def Command.leave (cmd : Command) : Command :=
  { cmd with
    inWord := false
    angles := 0
    here := if cmd.inWord then none else cmd.here
    pending := if cmd.inWord then cmd.pending ++ cmd.here.toList else cmd.pending }

/-- Behind a `<`. Two of them begin a here-document, three do not. -/
def Command.redirect (cmd : Command) : Command :=
  { cmd.leave with
    angles := cmd.angles + 1
    here := if cmd.angles = 1 then some {} else none }

/-- A byte that stands for itself, as part of the word that is being read. -/
def put : List Context → UInt8 → Bool → List Context × List Event
  | .command cmd :: rest, c, quoted =>
      (.command (cmd.add [c] quoted) :: rest, cmd.begins ++ [.byte c quoted])
  | .single :: rest, c, quoted => (.single :: (put rest c quoted).1, (put rest c quoted).2)
  | .double :: rest, c, quoted => (.double :: (put rest c quoted).1, (put rest c quoted).2)
  | stack, c, _ => (stack, [.expansion c])

/-- The word that is being read is the delimiter of a here-document. -/
def isDelimiter : List Context → Bool
  | .command cmd :: _ => cmd.here.isSome
  | _ => false

/-! ## Steps -/

/-- The state in the next line, where the here-documents begin. -/
def Command.nextLine (cmd : Command) (rest : List Context) : List Context :=
  let next := .command { cmd.leave with here := none, pending := [] } :: rest
  if cmd.leave.pending = [] then next else .hereDoc cmd.leave.pending [] :: next

/-- A byte that is read by a command; `rest` is what the command stands in. -/
def commandStep (cmd : Command) (rest : List Context) (c : UInt8) : List Context × List Event :=
  if c = squote then (.single :: .command (cmd.add [] true) :: rest, cmd.begins)
  else if c = dquote then (.double :: .command (cmd.add [] true) :: rest, cmd.begins)
  else if c = backslash then (.escape false :: .command { cmd with angles := 0 } :: rest, [])
  else if c = dollar ∧ cmd.here.isNone then
    (.dollar false :: .command (cmd.add [] false) :: rest, cmd.begins)
  else if c = backquote ∧ cmd.here.isNone then
    (.backquote false :: .command (cmd.add [] false) :: rest, cmd.begins ++ [.expansion c])
  else if c = hash ∧ cmd.inWord = false then
    (.comment :: .command { cmd with angles := 0 } :: rest, [])
  else if c = lineFeed then
    (cmd.nextLine rest, cmd.ends ++ [.operator c])
  else if isBlank c then (.command cmd.leave :: rest, cmd.ends ++ [.blank])
  else if c = lessThan then (.command cmd.redirect :: rest, cmd.ends ++ [.operator c])
  else if c = dash ∧ cmd.angles = 2 then
    (.command { cmd with angles := 0, here := some { stripTabs := true } } :: rest, [.operator c])
  else if c = parenLeft then
    (.command { cmd.leave with depth := cmd.depth + 1 } :: rest, cmd.ends ++ [.operator c])
  else if c = parenRight then
    if cmd.substitution ∧ cmd.depth = 0 then (rest, cmd.ends ++ [.substitutionEnd])
    else (.command { cmd.leave with depth := cmd.depth - 1 } :: rest, cmd.ends ++ [.operator c])
  else if isOperator c then (.command cmd.leave :: rest, cmd.ends ++ [.operator c])
  else put (.command cmd :: rest) c false

/-- The line is continued by the next one. -/
def continues (doc : HereDoc) (line : List UInt8) : Bool :=
  !doc.quoted && (line.reverse.takeWhile (· == backslash)).length % 2 == 1

/-- The line ends the here-document. -/
def isLastLine (doc : HereDoc) (line : List UInt8) : Bool :=
  (if doc.stripTabs then line.dropWhile (· == 9) else line) == doc.delimiter

/-- The end of a line in here-documents; `none` when it was the last one. -/
def endLine : List HereDoc → List UInt8 → Option (List HereDoc × List UInt8)
  | [], _ => none
  | doc :: docs, line =>
      if continues doc line then some (doc :: docs, line.dropLast)
      else if isLastLine doc line then if docs = [] then none else some (docs, [])
      else some (doc :: docs, [])

/-- The byte that opens one more level of arithmetic. -/
def opening (brackets : Bool) : UInt8 := if brackets then bracketLeft else parenLeft

def closing (brackets : Bool) : UInt8 := if brackets then bracketRight else parenRight

def step (sh : Dialect) : List Context → UInt8 → List Context × List Event
  | [], _ => ([], [])
  | .command cmd :: rest, c => commandStep cmd rest c
  | .single :: rest, c => if c = squote then (rest, []) else put (.single :: rest) c true
  | .double :: rest, c =>
      if c = dquote then (rest, [])
      else if c = backslash then (.escape true :: .double :: rest, [])
      else if c = dollar ∧ isDelimiter rest = false then (.dollar true :: .double :: rest, [])
      else if c = backquote ∧ isDelimiter rest = false then
        (.backquote false :: .double :: rest, [.expansion c])
      else put (.double :: rest) c true
  | .ansi escaped :: rest, c =>
      if c = squote ∧ escaped = false then (rest, [])
      else (.ansi (c == backslash && !escaped) :: rest, [.expansion c])
  | .escape inDouble :: rest, c =>
      -- an escaped line feed continues the line
      if c = lineFeed then (rest, [])
      else if inDouble = false ∨ isEscapable c then put rest c true
      else
        let literal := put rest backslash true
        let next := put literal.1 c true
        (next.1, literal.2 ++ next.2)
  | .comment :: rest, c => if c = lineFeed then step sh rest c else (.comment :: rest, [])
  | .dollar inDouble :: rest, c =>
      if c = parenLeft then (.paren :: rest, [])
      else if c = braceLeft then (.braces inDouble :: rest, [.expansion c])
      else if c = bracketLeft then (.arithmetic true 1 :: rest, [.expansion c])
      else if isNameStart c then (.name :: rest, [.expansion c])
      else if isDigitByte c ∨ isSpecialParameter c then (rest, [.expansion c])
      else if isFlag sh c then (.flags :: rest, [.expansion c])
      else if c = squote ∧ inDouble = false then (.ansi false :: rest, [])
      else if c = dquote ∧ inDouble = false ∧ sh = .bash then (.double :: rest, [])
      else ((step sh rest c).1, (put rest dollar inDouble).2 ++ (step sh rest c).2)
  | .flags :: rest, c =>
      if isFlag sh c then (.flags :: rest, [.expansion c])
      else if isNameStart c then (.name :: rest, [.expansion c])
      else if isDigitByte c ∨ isSpecialParameter c then (rest, [.expansion c])
      else step sh rest c
  | .name :: rest, c =>
      if isNameStart c ∨ isDigitByte c then (.name :: rest, [.expansion c]) else step sh rest c
  | .paren :: rest, c =>
      if c = parenLeft then (.arithmetic false 2 :: rest, [])
      else
        let next := commandStep { substitution := true } rest c
        (next.1, .substitutionBegin :: next.2)
  | .braces inDouble :: rest, c =>
      if c = braceRight then (rest, [.expansion c])
      else if c = backslash then (.escape inDouble :: .braces inDouble :: rest, [])
      else if c = squote ∧ inDouble = false then (.single :: .braces inDouble :: rest, [])
      else if c = dquote then (.double :: .braces inDouble :: rest, [])
      else if c = dollar then (.dollar inDouble :: .braces inDouble :: rest, [])
      else if c = backquote then
        (.backquote false :: .braces inDouble :: rest, [.expansion c])
      else (.braces inDouble :: rest, [.expansion c])
  | .arithmetic brackets depth :: rest, c =>
      if c = opening brackets then (.arithmetic brackets (depth + 1) :: rest, [.expansion c])
      else if c = closing brackets then
        (if depth ≤ 1 then rest else .arithmetic brackets (depth - 1) :: rest, [.expansion c])
      else if c = backslash then (.escape true :: .arithmetic brackets depth :: rest, [])
      else if c = dollar then (.dollar true :: .arithmetic brackets depth :: rest, [])
      else if c = backquote then
        (.backquote false :: .arithmetic brackets depth :: rest, [.expansion c])
      else (.arithmetic brackets depth :: rest, [.expansion c])
  | .backquote escaped :: rest, c =>
      if c = backquote ∧ escaped = false then (rest, [.expansion c])
      else (.backquote (c == backslash && !escaped) :: rest, [.expansion c])
  | .hereDoc docs line :: rest, c =>
      if c = lineFeed then
        match endLine docs line with
        | none => (rest, [.body c])
        | some next => (.hereDoc next.1 next.2 :: rest, [.body c])
      else (.hereDoc docs (line ++ [c]) :: rest, [.body c])

def run (sh : Dialect) : List Context → List UInt8 → List Context × List Event
  | stack, [] => (stack, [])
  | stack, c :: t =>
      match step sh stack c with
      | (next, events) =>
          match run sh next t with
          | (last, events') => (last, events ++ events')

/-- What the end of the text still reports; `none` when something has not been ended. -/
def finish : List Context → Option (List Event)
  | [.command cmd] => if cmd.substitution then none else some cmd.ends
  | .comment :: rest => finish rest
  | .flags :: rest => finish rest
  | .name :: rest => finish rest
  | .hereDoc _ _ :: rest => finish rest
  | .dollar inDouble :: rest => (finish rest).map ((put rest dollar inDouble).2 ++ ·)
  | _ => none

/-- The events of a whole text. -/
def lex (sh : Dialect) (t : List UInt8) : Option (List Event) :=
  (finish (run sh start t).1).map ((run sh start t).2 ++ ·)

/-! ## Runs -/

variable {sh : Dialect}

theorem run_cons (stack : List Context) (c : UInt8) (t : List UInt8) :
    run sh stack (c :: t) = ((run sh (step sh stack c).1 t).1,
      (step sh stack c).2 ++ (run sh (step sh stack c).1 t).2) := rfl

theorem run_append (stack : List Context) (t u : List UInt8) :
    run sh stack (t ++ u) =
      ((run sh (run sh stack t).1 u).1, (run sh stack t).2 ++ (run sh (run sh stack t).1 u).2) := by
  induction t generalizing stack with
  | nil => rfl
  | cons c t ih => rw [List.cons_append, run_cons, ih, run_cons, List.append_assoc]

theorem lex_append {t u : List UInt8} {stack : List Context} {events : List Event}
    (h : run sh start t = (stack, events)) :
    lex sh (t ++ u) =
      (finish (run sh stack u).1).map (fun last => events ++ ((run sh stack u).2 ++ last)) := by
  unfold lex
  rw [run_append, h]
  simp only [List.append_assoc]

/-! ## Quoted words -/

/-- `s` as a word in which every byte is quoted. -/
def quotedBytes (s : List UInt8) : List Event := s.map (.byte · true)

def quotedWord (s : List UInt8) : List Event := .wordBegin :: (quotedBytes s ++ [.wordEnd])

/-- `s` as a word in which no byte is quoted. -/
def plainWord (s : List UInt8) : List Event :=
  .wordBegin :: (s.map (.byte · false) ++ [.wordEnd])

/-- Wherever a command reads the text `t`, the bytes of `s` are added to its word, all of them
quoted. -/
def Quotes (sh : Dialect) (t s : List UInt8) : Prop :=
  ∀ cmd rest, run sh (.command cmd :: rest) t =
    (.command (cmd.add s true) :: rest, cmd.begins ++ quotedBytes s)

theorem Command.add_add (cmd : Command) (s t : List UInt8) (quoted : Bool) :
    (cmd.add s quoted).add t quoted = cmd.add (s ++ t) quoted := by
  cases cmd with
  | mk substitution depth inWord angles here pending =>
      cases here with
      | none => rfl
      | some doc => simp [Command.add]

theorem Command.begins_add (cmd : Command) (s : List UInt8) (quoted : Bool) :
    (cmd.add s quoted).begins = [] := rfl

theorem quotedBytes_append (s t : List UInt8) :
    quotedBytes (s ++ t) = quotedBytes s ++ quotedBytes t := List.map_append

/-- Words that stand next to each other are one word. -/
theorem Quotes.append {t s t' s' : List UInt8} (h : Quotes sh t s) (h' : Quotes sh t' s') :
    Quotes sh (t ++ t') (s ++ s') := by
  intro cmd rest
  rw [run_append, h cmd rest, h' (cmd.add s true) rest, Command.add_add, Command.begins_add,
    quotedBytes_append, List.nil_append, List.append_assoc]

theorem quotes_escape {c : UInt8} (h : c ≠ lineFeed) : Quotes sh [backslash, c] [c] := by
  intro cmd rest
  have hstep : step sh (.escape false :: .command { cmd with angles := 0 } :: rest) c =
      put (.command { cmd with angles := 0 } :: rest) c true := by
    rw [step, if_neg h, if_pos (.inl rfl)]
  rw [run_cons]
  show run sh (.escape false :: .command { cmd with angles := 0 } :: rest) [c] = _
  rw [run_cons, hstep]
  simp only [run, List.append_nil]
  rfl

/-- In single quotes every other byte stands for itself. -/
theorem run_single {t : List UInt8} (h : squote ∉ t) (cmd : Command) (s : List UInt8)
    (rest : List Context) :
    run sh (.single :: .command (cmd.add s true) :: rest) t =
      (.single :: .command (cmd.add (s ++ t) true) :: rest, quotedBytes t) := by
  induction t generalizing s with
  | nil =>
      rw [List.append_nil]
      rfl
  | cons c t ih =>
      have hstep : step sh (.single :: .command (cmd.add s true) :: rest) c =
          (.single :: .command (cmd.add (s ++ [c]) true) :: rest, [.byte c true]) := by
        have hc : c ≠ squote := fun hc => h (List.mem_cons.mpr (.inl hc.symm))
        rw [step, if_neg hc, put, put, Command.add_add]
        rfl
      rw [run_cons, hstep, ih (fun hc => h (List.mem_cons_of_mem c hc)), List.append_assoc]
      rfl

theorem quotes_single {t : List UInt8} (h : squote ∉ t) :
    Quotes sh (squote :: (t ++ [squote])) t := by
  intro cmd rest
  have hbegin : step sh (.command cmd :: rest) squote =
      (.single :: .command (cmd.add [] true) :: rest, cmd.begins) := rfl
  have hend : step sh (.single :: .command (cmd.add ([] ++ t) true) :: rest) squote =
      (.command (cmd.add t true) :: rest, []) := rfl
  rw [run_cons, hbegin, run_append, run_single h, run_cons, hend]
  simp [run]

/-- A byte that a command reads as part of a word. -/
def isPlainByte (c : UInt8) : Bool :=
  !(c == squote || c == dquote || c == backslash || c == dollar || c == backquote || c == hash ||
    c == lineFeed || isBlank c || c == lessThan || c == dash || c == parenLeft ||
    c == parenRight || isOperator c)

theorem step_plain {c : UInt8} (h : isPlainByte c = true) (cmd : Command) (rest : List Context) :
    step sh (.command cmd :: rest) c =
      (.command (cmd.add [c] false) :: rest, cmd.begins ++ [.byte c false]) := by
  simp only [isPlainByte, Bool.not_eq_true', Bool.or_eq_false_iff, beq_eq_false_iff_ne] at h
  obtain ⟨⟨⟨⟨⟨⟨⟨⟨⟨⟨⟨⟨hsingle, hdouble⟩, hslash⟩, hdollar⟩, hback⟩, hhash⟩, hfeed⟩, hblank⟩, hless⟩,
    hdash⟩, hleft⟩, hright⟩, hoperator⟩ := h
  rw [step, commandStep, if_neg hsingle, if_neg hdouble, if_neg hslash,
    if_neg (fun h => hdollar h.1), if_neg (fun h => hback h.1), if_neg (fun h => hhash h.1),
    if_neg hfeed, if_neg (by simp [hblank]), if_neg hless, if_neg (fun h => hdash h.1),
    if_neg hleft, if_neg hright, if_neg (by simp [hoperator])]
  rfl

/-- Plain bytes are a word, or more of the one that has begun. -/
theorem run_plain {c : UInt8} {t : List UInt8} (h : ∀ d ∈ c :: t, isPlainByte d = true)
    (cmd : Command) (rest : List Context) :
    run sh (.command cmd :: rest) (c :: t) = (.command (cmd.add (c :: t) false) :: rest,
      cmd.begins ++ (c :: t).map (.byte · false)) := by
  induction t generalizing cmd c with
  | nil =>
      rw [run_cons, step_plain (h c List.mem_cons_self)]
      simp [run]
  | cons d t ih =>
      rw [run_cons, step_plain (h c List.mem_cons_self),
        ih (fun e he => h e (List.mem_cons_of_mem c he)), Command.add_add, Command.begins_add]
      simp

/-- The innermost thing that has been begun is a command. -/
def readsCommand : List Context → Bool
  | .command _ :: _ => true
  | _ => false

/-- The state behind a word and a blank. -/
def afterWord (s : List UInt8) : List Context → List Context
  | .command cmd :: rest => .command (cmd.add s true).leave :: rest
  | stack => stack

/-- The text `t`, between blanks of a command, is the word `s` with every byte quoted, and nothing
else: what stands behind it is read as if another word were there, but for a word that is the
delimiter of a here-document. -/
def IsWord (sh : Dialect) (t s : List UInt8) : Prop :=
  ∀ pre post b b', isBlank b = true → isBlank b' = true →
    readsCommand (run sh start pre).1 = true →
    let before := run sh start (pre ++ [b])
    let after := run sh (afterWord s before.1) post
    run sh start (pre ++ b :: (t ++ b' :: post)) =
        (after.1, before.2 ++ (quotedWord s ++ .blank :: after.2)) ∧
      (isDelimiter before.1 = false → afterWord s before.1 = before.1)

theorem step_blank {b : UInt8} (hb : isBlank b = true) (cmd : Command) (rest : List Context) :
    step sh (.command cmd :: rest) b = (.command cmd.leave :: rest, cmd.ends ++ [.blank]) := by
  have hcases : b = 32 ∨ b = 9 := by
    simpa [isBlank] using hb
  rcases hcases with rfl | rfl
  · rfl
  · rfl

theorem readsCommand_eq {stack : List Context} (h : readsCommand stack = true) :
    ∃ cmd rest, stack = .command cmd :: rest := by
  cases stack with
  | nil => cases h
  | cons context rest =>
      cases context with
      | command cmd => exact ⟨cmd, rest, rfl⟩
      | _ => cases h

theorem Command.leave_add_leave {cmd : Command} (h : cmd.leave.here = none) (s : List UInt8) :
    (cmd.leave.add s true).leave = cmd.leave := by
  unfold Command.add
  rw [h]
  unfold Command.leave at h ⊢
  simp only at h
  simp [h]

/-- Between words, a quoted text and a blank are one more word. -/
theorem Quotes.run_word {t s : List UInt8} (h : Quotes sh t s) {cmd : Command}
    (hword : cmd.inWord = false) {b : UInt8} (hb : isBlank b = true) (rest : List Context) :
    run sh (.command cmd :: rest) (t ++ [b]) =
      (afterWord s (.command cmd :: rest), quotedWord s ++ [.blank]) := by
  have hbegins : cmd.begins = [.wordBegin] := by rw [Command.begins, if_neg (by simp [hword])]
  rw [run_append, h cmd rest, run_cons, step_blank hb, hbegins]
  simp [run, afterWord, quotedWord, Command.ends, Command.add]

/-- **A quoted text between blanks is one word.** -/
theorem Quotes.isWord {t s : List UInt8} (h : Quotes sh t s) : IsWord sh t s := by
  intro pre post b b' hb hb' hpre
  obtain ⟨cmd, rest, hcmd⟩ := readsCommand_eq hpre
  have hbefore : run sh start (pre ++ [b]) =
      (.command cmd.leave :: rest, (run sh start pre).2 ++ (cmd.ends ++ [.blank])) := by
    rw [run_append, hcmd, run_cons, step_blank hb]
    simp [run]
  rw [hbefore]
  intro before after
  constructor
  · have hsplit : pre ++ b :: (t ++ b' :: post) = (pre ++ [b]) ++ ((t ++ [b']) ++ post) := by simp
    rw [hsplit, run_append, hbefore, run_append, h.run_word rfl hb']
    simp [before, after]
  · intro hdelimiter
    have hhere : cmd.leave.here = none := by
      simpa [before, isDelimiter] using hdelimiter
    show Context.command (cmd.leave.add s true).leave :: rest = .command cmd.leave :: rest
    rw [Command.leave_add_leave hhere]

end ShellLexer

end PcbuDesktop
