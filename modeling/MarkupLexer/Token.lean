import MarkupLexer.Kind
import MarkupLexer.Span

/-!
# Tokens

A token is a kind, a value and the span of the value in the input. Delimiters of values and the
separators between tokens are in no token.
-/

namespace MarkupLexer

structure Token where
  kind : Kind
  value : String
  span : Span := {}
  deriving DecidableEq, Repr

namespace Token

/-- The token of the single character `c` at `offset`. -/
def structural (kind : Kind) (c : Char) (offset : Nat) : Token :=
  ⟨kind, String.singleton c, ⟨offset, offset + c.utf8Size⟩⟩

/-- The token of the single character `c` at `offset`, when its end is in range. -/
def structural? (kind : Kind) (c : Char) (offset : Nat) : Option Token :=
  (advance? offset c.utf8Size).map fun stop => ⟨kind, String.singleton c, ⟨offset, stop⟩⟩

theorem structural?_eq_some_iff {kind : Kind} {c : Char} {offset : Nat} {t : Token} :
    structural? kind c offset = some t ↔
      offset + c.utf8Size < offsetLimit ∧ structural kind c offset = t := by
  simp [structural?, structural, Option.map_eq_some_iff, advance?_eq_some_iff, and_assoc]

def isOneOf (t : Token) (kinds : List Kind) : Bool := kinds.contains t.kind

/-- The token moved `n` bytes to the right. -/
def shift (n : Nat) (t : Token) : Token := { t with span := t.span.shift n }

/-- What a token is apart from its place. -/
def content (t : Token) : Kind × String := (t.kind, t.value)

end Token
end MarkupLexer
