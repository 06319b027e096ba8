import PcbuDesktop.Lib.ShellLexer
import PcbuDesktop.Basic.StringUtils

set_option autoImplicit false

/-! # Quoting for the shell

`StringUtils::ShellQuote` (`utils/StringUtils.cpp`) puts a text into single quotes. A quote in the
text ends them, stands behind a backslash, and begins them again. So the result is a row of quoted
texts and escaped quotes, and the shell reads it as one word.
-/

namespace PcbuDesktop

open ShellLexer Rewriting

/-- `StringUtils::ShellQuote`. -/
def shellQuote (s : Str) : Str := str "'" ++ replace s (str "'") (str "'\\''") ++ str "'"

variable {sh : Dialect}

/-- The part `done` of the text, without quotes, has been written, and `s` is next. -/
theorem quotes_rep {done : Str} (hdone : squote ∉ done) (s : Str) :
    Quotes sh (squote :: (done ++ (rep [squote] [squote, backslash, squote, squote] s ++ [squote])))
      (done ++ s) := by
  induction s generalizing done with
  | nil =>
      rw [rep_nil, List.nil_append, List.append_nil]
      exact quotes_single hdone
  | cons c s ih =>
      by_cases hc : c = squote
      · subst hc
        have hescaped : Quotes sh [backslash, squote] [squote] := quotes_escape (by decide)
        have hall := (quotes_single hdone).append (hescaped.append (ih List.not_mem_nil))
        have hrep : rep [squote] [squote, backslash, squote, squote] (squote :: s) =
            [squote, backslash, squote, squote] ++
              rep [squote] [squote, backslash, squote, squote] s :=
          rep_match (List.cons_ne_nil _ _) s
        rw [hrep]
        simpa using hall
      · have hnot : ¬ [squote] <+: c :: s := fun h => hc (List.cons_prefix_cons.mp h).1.symm
        have hmore : squote ∉ done ++ [c] := by
          simp [hdone, Ne.symm hc]
        rw [rep_cons hnot]
        simpa using ih hmore

/-- **The shell reads `ShellQuote` of a text as that text, with every byte quoted.** -/
theorem quotes_shellQuote (s : Str) : Quotes sh (shellQuote s) s := by
  have hquote : replace s (str "'") (str "'\\''") =
      rep [squote] [squote, backslash, squote, squote] s :=
    replace_eq_rep (List.cons_ne_nil _ _) (List.cons_ne_nil _ _) s
  rw [shellQuote, hquote]
  exact quotes_rep List.not_mem_nil s

end PcbuDesktop
