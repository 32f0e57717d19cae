import MarkupLexer.Token

/-!
# Tiling

How the spans of a token list lie in the input: each holds the value of its token, and between two
neighbours stands what their kinds call for, so that tokens and gaps cover the input from its first
byte to its last.
-/

namespace MarkupLexer

/-- What the bytes of a span are. Both ends are between characters. -/
def Span.Holds (s : Span) (source value : String) : Prop :=
  ∃ before after, source = before ++ value ++ after ∧ s.start = before.utf8ByteSize ∧
    s.stop = s.start + value.utf8ByteSize

/-- What stands between a token of the first kind and one of the second. -/
def Kind.gap : Kind → Kind → String
  | identifier, attributeName => " "
  | attributeName, attributeStringValue => "=\""
  | attributeName, attributeExpressionValue => "=\x7b"
  | attributeStringValue, attributeName => "\" "
  | attributeExpressionValue, attributeName => "\x7d "
  | attributeStringValue, tagClose => "\""
  | attributeExpressionValue, tagClose => "\x7d"
  | _, _ => ""

/-- Tokens that cover the bytes of the input after one of a kind that ends at `stop`. -/
def TilesAfter (source : String) (kind : Kind) (stop : Nat) : List Token → Prop
  | [] => stop = source.utf8ByteSize
  | t :: ts =>
    Span.Holds ⟨stop, t.span.start⟩ source (kind.gap t.kind) ∧ t.span.Holds source t.value ∧
      TilesAfter source t.kind t.span.stop ts

/-- Tokens that cover the whole input. -/
def Tiles (source : String) : List Token → Prop
  | [] => source = ""
  | t :: ts =>
    t.span.start = 0 ∧ t.span.Holds source t.value ∧ TilesAfter source t.kind t.span.stop ts

end MarkupLexer
