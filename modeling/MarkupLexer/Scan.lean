import MarkupLexer.Accumulator

/-!
# Scanning

The tokens of an input and its error by recursion over its characters: each step adds the tokens
that it completes to those of the rest. There is no queue and nothing to resume, so this is what a
lexer has to agree with.
-/

namespace MarkupLexer

/-- The tokens of the characters from `offset` on, read from a state while `current` is being
    collected, and the error that stops them. -/
def scanFrom (trailing : TrailingText) (s : State) (offset : Nat) (current : Option Accumulator) :
    List Char → List Token × Option LexError
  | [] =>
    match finish trailing s with
    | .error fault => ([], some ⟨fault, offset⟩)
    | .ok .done => ([], none)
    | .ok .flush => (current.toList.map (·.token), none)
  | c :: cs =>
    match step s c with
    | .error fault => ([], some ⟨fault, offset⟩)
    | .ok (next, action) =>
      let effect := action.apply current offset c
      let rest := scanFrom trailing next (offset + c.utf8Size) effect.1 cs
      (effect.2 ++ rest.1, rest.2)

/-- The tokens of an input up to its error, and the error. -/
def scan (source : String) (trailing : TrailingText := .accept) : List Token × Option LexError :=
  scanFrom trailing .start 0 none source.toList

example :
    scan "<a>é<" =
      ([⟨.tagOpen, "<", ⟨0, 1⟩⟩, ⟨.identifier, "a", ⟨1, 2⟩⟩, ⟨.tagClose, ">", ⟨2, 3⟩⟩,
          ⟨.text, "é", ⟨3, 5⟩⟩, ⟨.tagOpen, "<", ⟨5, 6⟩⟩],
        some ⟨.truncatedInput .afterOpen, 6⟩) := by
  decide

end MarkupLexer
