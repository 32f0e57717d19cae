import MarkupLexer.Token
import MarkupLexer.Text.Layout
import MarkupLexer.Text.Quoted

/-!
# Token lists as text

The markup that a token list was read from, a listing with a line for each token, and a table with
aligned columns. The listing holds values as they are, the table quotes them.
-/

namespace MarkupLexer

namespace Token

/-- A token with its kind in front. -/
def describe (t : Token) : String := t.kind.name ++ "(" ++ Text.quoted t.value ++ ")"

/-- A token with the separators and delimiters that belong to its kind. -/
def source (t : Token) : String := t.kind.opening ++ t.value ++ t.kind.closing

end Token

/-- The markup of a token list. -/
def toSource (tokens : List Token) : String := String.join (tokens.map Token.source)

/-! ### Listing -/

/-- The line of the token with that index. -/
def listingLine (index : Nat) (t : Token) : String :=
  "TOKEN_" ++ toString index ++ ":" ++ t.kind.name ++ ":" ++ t.value ++ "\n"

/-- The number of tokens, then each token. -/
def toListing (tokens : List Token) : String :=
  "TOKENS_COUNT:" ++ toString tokens.length ++ "\n" ++
    String.join (tokens.zipIdx.map fun (t, i) => listingLine i t)

/-! ### Table -/

/-- The row of the token with that index, when the characters of `hidden` do not show. -/
def tableRowWith (hidden : Char → Bool) (index : Nat) (t : Token) : String :=
  Text.padLeft 4 (toString index) ++ "  " ++ Text.padRight 26 t.kind.name ++ " " ++
    Text.padLeft 5 (toString t.span.start) ++ ".." ++ Text.padRight 5 (toString t.span.stop) ++
    " " ++ Text.quotedWith hidden t.value ++ "\n"

def toTableWith (hidden : Char → Bool) (tokens : List Token) : String :=
  String.join (tokens.zipIdx.map fun (t, i) => tableRowWith hidden i t)

/-- Index, kind, span and quoted value of each token. -/
def toTable (tokens : List Token) : String := toTableWith Text.unprintable tokens

end MarkupLexer
