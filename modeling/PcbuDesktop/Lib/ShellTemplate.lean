import PcbuDesktop.Lib.ShellLexer

set_option autoImplicit false

/-! # Command texts with holes

A program that runs a command writes its text around words that it gets from elsewhere. The commands
are fixed when the shell reads the same events whatever these words are, up to the bytes of the words
themselves, which it reads as quoted bytes in their places (`Fixed`). A text whose holes are filled
with quoted words, each of them where a command reads words, is such a text
(`fixed_of_template`); that its holes stand so is found by reading the text once, without the words.
-/

namespace PcbuDesktop

namespace ShellLexer

/-! ## Fixed commands -/

variable {α ι κ : Type}

/-- The events at one place of the commands: an event, or the quoted bytes of a word. -/
def fillEvent (words : ι → List UInt8) : Event ⊕ ι → List Event
  | .inl event => [event]
  | .inr i => quotedBytes (words i)

/-- The words with which a text is written do not change its commands. -/
def Fixed (sh : Dialect) (text : α → List UInt8) (words : α → ι → List UInt8) : Prop :=
  ∃ skeleton : List (Event ⊕ ι), ∀ a, lex sh (text a) = some (skeleton.flatMap (fillEvent (words a)))

/-! ## Templates -/

/-- A piece of a command text: text as it is, or a hole for a word. -/
inductive Piece (ι : Type) where
  | text (t : List UInt8)
  | word (i : ι)

def Piece.fill (quote : List UInt8 → List UInt8) (words : ι → List UInt8) : Piece ι → List UInt8
  | .text t => t
  | .word i => quote (words i)

def fill (quote : List UInt8 → List UInt8) (words : ι → List UInt8) (template : List (Piece ι)) :
    List UInt8 :=
  template.flatMap (Piece.fill quote words)

/-- A hole is read where a command reads words; the delimiter of a here-document is no place for
it. -/
def readHole (i : ι) : List Context → Option (List Context × List (Event ⊕ ι))
  | .command cmd :: rest =>
      if cmd.here = none then
        some (.command (cmd.add [] true) :: rest, cmd.begins.map .inl ++ [.inr i])
      else none
  | _ => none

def readPiece (sh : Dialect) (stack : List Context) :
    Piece ι → Option (List Context × List (Event ⊕ ι))
  | .text t =>
      match run sh stack t with
      | (next, events) => some (next, events.map .inl)
  | .word i => readHole i stack

/-- A template is read without the words; `none` when a hole is no place for a word. -/
def readTemplate (sh : Dialect) :
    List Context → List (Piece ι) → Option (List Context × List (Event ⊕ ι))
  | stack, [] => some (stack, [])
  | stack, piece :: template =>
      match readPiece sh stack piece with
      | none => none
      | some (next, events) =>
          match readTemplate sh next template with
          | none => none
          | some (last, events') => some (last, events ++ events')

/-- The template can be read to its end. -/
def isReadable (sh : Dialect) (template : List (Piece ι)) : Bool :=
  match readTemplate sh start template with
  | none => false
  | some (last, _) => (finish last).isSome

variable {sh : Dialect}

theorem flatMap_fillEvent_inl (words : ι → List UInt8) (events : List Event) :
    (events.map Sum.inl).flatMap (fillEvent words) = events := by
  induction events with
  | nil => rfl
  | cons event events ih =>
      rw [List.map_cons, List.flatMap_cons, ih]
      rfl

/-- In a command that reads words, a quoted word is what the hole has been read as. -/
theorem run_word {quote : List UInt8 → List UInt8} (hquote : ∀ s, Quotes sh (quote s) s)
    (words : ι → List UInt8) {i : ι} {stack next : List Context} {events : List (Event ⊕ ι)}
    (h : readHole i stack = some (next, events)) :
    run sh stack (quote (words i)) = (next, events.flatMap (fillEvent words)) := by
  unfold readHole at h
  split at h
  next cmd rest =>
    split at h
    next hhere =>
      cases h
      have hadd : cmd.add (words i) true = cmd.add [] true := by
        unfold Command.add
        rw [hhere]
        rfl
      rw [hquote, hadd, List.flatMap_append, flatMap_fillEvent_inl]
      simp [fillEvent]
    · cases h
  · cases h

theorem run_fill {quote : List UInt8 → List UInt8} (hquote : ∀ s, Quotes sh (quote s) s)
    (words : ι → List UInt8) {template : List (Piece ι)} {stack last : List Context}
    {events : List (Event ⊕ ι)} (h : readTemplate sh stack template = some (last, events)) :
    run sh stack (fill quote words template) = (last, events.flatMap (fillEvent words)) := by
  induction template generalizing stack events with
  | nil =>
      cases h
      rfl
  | cons piece template ih =>
      unfold readTemplate at h
      split at h
      · cases h
      next next events₁ hpiece =>
        split at h
        · cases h
        next last' events₂ htemplate =>
          cases h
          have hrun : run sh stack (piece.fill quote words) =
              (next, events₁.flatMap (fillEvent words)) := by
            cases piece with
            | text t =>
                cases hpiece
                rw [flatMap_fillEvent_inl]
                rfl
            | word i => exact run_word hquote words hpiece
          rw [fill, List.flatMap_cons, run_append, hrun]
          show ((run sh next (fill quote words template)).1, _ ++
            (run sh next (fill quote words template)).2) = _
          rw [ih htemplate, List.flatMap_append]

/-- **A text with quoted words in places for words has fixed commands.** -/
theorem fixed_of_template {quote : List UInt8 → List UInt8} (hquote : ∀ s, Quotes sh (quote s) s)
    (template : List (Piece ι)) (hread : isReadable sh template = true) {text : α → List UInt8}
    {words : α → ι → List UInt8} (htext : ∀ a, text a = fill quote (words a) template) :
    Fixed sh text words := by
  unfold isReadable at hread
  split at hread
  · cases hread
  next last events hlast =>
    obtain ⟨final, hfinal⟩ := Option.isSome_iff_exists.mp hread
    refine ⟨events ++ final.map .inl, fun a => ?_⟩
    rw [htext, lex, run_fill hquote (words a) hlast, hfinal, List.flatMap_append,
      flatMap_fillEvent_inl]
    rfl

/-! ## Texts that are put together -/

/-- The holes are given other names. -/
def Piece.map (f : ι → κ) : Piece ι → Piece κ
  | .text t => .text t
  | .word i => .word (f i)

theorem fill_append (quote : List UInt8 → List UInt8) (words : ι → List UInt8)
    (template template' : List (Piece ι)) :
    fill quote words (template ++ template') =
      fill quote words template ++ fill quote words template' := List.flatMap_append

theorem fill_map (quote : List UInt8 → List UInt8) (words : κ → List UInt8) (f : ι → κ)
    (template : List (Piece ι)) :
    fill quote words (template.map (Piece.map f)) = fill quote (words ∘ f) template := by
  unfold fill
  rw [List.flatMap_map]
  congr 1
  funext piece
  cases piece <;> rfl

theorem readPiece_map (f : ι → κ) (stack : List Context) (piece : Piece ι) :
    readPiece sh stack (piece.map f) =
      (readPiece sh stack piece).map fun r => (r.1, r.2.map (Sum.map id f)) := by
  cases piece with
  | text t => simp [Piece.map, readPiece]
  | word i =>
      show readHole (f i) stack = (readHole i stack).map _
      unfold readHole
      split
      · split <;> simp
      · rfl

theorem readTemplate_map (f : ι → κ) (stack : List Context) (template : List (Piece ι)) :
    readTemplate sh stack (template.map (Piece.map f)) =
      (readTemplate sh stack template).map fun r => (r.1, r.2.map (Sum.map id f)) := by
  induction template generalizing stack with
  | nil => rfl
  | cons piece template ih =>
      rw [List.map_cons, readTemplate, readPiece_map, readTemplate]
      cases readPiece sh stack piece with
      | none => rfl
      | some r =>
          simp only [Option.map_some, ih]
          cases readTemplate sh r.1 template with
          | none => rfl
          | some r' => simp

theorem readTemplate_append {stack next last : List Context} {template template' : List (Piece ι)}
    {events events' : List (Event ⊕ ι)} (h : readTemplate sh stack template = some (next, events))
    (h' : readTemplate sh next template' = some (last, events')) :
    readTemplate sh stack (template ++ template') = some (last, events ++ events') := by
  induction template generalizing stack events with
  | nil =>
      cases h
      exact h'
  | cons piece template ih =>
      unfold readTemplate at h
      rw [List.cons_append, readTemplate]
      cases hpiece : readPiece sh stack piece with
      | none =>
          rw [hpiece] at h
          cases h
      | some r =>
          rw [hpiece] at h
          dsimp only at h ⊢
          cases hrest : readTemplate sh r.1 template with
          | none =>
              rw [hrest] at h
              cases h
          | some r' =>
              rw [hrest] at h
              cases h
              rw [ih hrest, List.append_assoc]

/-- The template is read, and then the state is what it has been. -/
def isLine (sh : Dialect) (stack : List Context) (template : List (Piece ι)) : Bool :=
  match readTemplate sh stack template with
  | none => false
  | some (last, _) => last == stack

theorem isLine_iff {stack : List Context} {template : List (Piece ι)} :
    isLine sh stack template = true ↔
      ∃ events, readTemplate sh stack template = some (stack, events) := by
  unfold isLine
  cases readTemplate sh stack template with
  | none => simp
  | some r =>
      simp only [beq_iff_eq, Option.some.injEq]
      constructor
      · intro h
        exact ⟨r.2, by rw [← h]⟩
      · rintro ⟨events, h⟩
        rw [h]

theorem isLine_append {stack : List Context} {template template' : List (Piece ι)}
    (h : isLine sh stack template = true) (h' : isLine sh stack template' = true) :
    isLine sh stack (template ++ template') = true := by
  obtain ⟨events, hread⟩ := isLine_iff.mp h
  obtain ⟨events', hread'⟩ := isLine_iff.mp h'
  exact isLine_iff.mpr ⟨_, readTemplate_append hread hread'⟩

theorem isLine_map {stack : List Context} {template : List (Piece ι)}
    (h : isLine sh stack template = true) (f : ι → κ) :
    isLine sh stack (template.map (Piece.map f)) = true := by
  obtain ⟨events, hread⟩ := isLine_iff.mp h
  refine isLine_iff.mpr ⟨events.map (Sum.map id f), ?_⟩
  rw [readTemplate_map, hread]
  rfl

/-- A text of whole lines can be read to its end. -/
theorem isReadable_of_isLine {template : List (Piece ι)} (h : isLine sh start template = true) :
    isReadable sh template = true := by
  obtain ⟨events, hread⟩ := isLine_iff.mp h
  unfold isReadable
  rw [hread]
  rfl

/-- Templates one behind the other, with the holes of the `i`-th numbered by `i`. -/
def numbered : Nat → List (List (Piece κ)) → List (Piece (Nat × κ))
  | _, [] => []
  | i, line :: lines => line.map (Piece.map (i, ·)) ++ numbered (i + 1) lines

/-- The words of numbered holes. -/
def wordsAt (words : List (κ → List UInt8)) (hole : Nat × κ) : List UInt8 :=
  words.getD hole.1 (fun _ => []) hole.2

theorem isLine_numbered {stack : List Context} {lines : List (List (Piece κ))}
    (h : ∀ line ∈ lines, isLine sh stack line = true) (i : Nat) :
    isLine sh stack (numbered i lines) = true := by
  induction lines generalizing i with
  | nil => exact isLine_iff.mpr ⟨[], rfl⟩
  | cons line lines ih =>
      have hlines := ih (fun l hl => h l (List.mem_cons_of_mem line hl)) (i + 1)
      exact isLine_append (isLine_map (h line List.mem_cons_self) _) hlines

theorem fill_numbered_from (quote : List UInt8 → List UInt8) (done words : List (κ → List UInt8))
    {lines : List (List (Piece κ))} (h : lines.length = words.length) :
    fill quote (wordsAt (done ++ words)) (numbered done.length lines) =
      (List.zipWith (fill quote) words lines).flatten := by
  induction lines generalizing done words with
  | nil =>
      rw [List.zipWith_nil_right]
      rfl
  | cons line lines ih =>
      cases words with
      | nil => cases h
      | cons w words =>
          have hw : wordsAt (done ++ w :: words) ∘ (done.length, ·) = w := by
            funext k
            simp [wordsAt]
          have hrest := ih (done ++ [w]) words (by simpa using h)
          rw [List.append_assoc, List.length_append] at hrest
          rw [numbered, fill_append, fill_map, hw, List.zipWith_cons_cons, List.flatten_cons,
            ← hrest]
          rfl

theorem fill_numbered (quote : List UInt8 → List UInt8) (words : List (κ → List UInt8))
    {lines : List (List (Piece κ))} (h : lines.length = words.length) :
    fill quote (wordsAt words) (numbered 0 lines) =
      (List.zipWith (fill quote) words lines).flatten :=
  fill_numbered_from quote [] words h

end ShellLexer

end PcbuDesktop
