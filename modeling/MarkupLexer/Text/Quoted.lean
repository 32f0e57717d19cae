import MarkupLexer.Text.Unprintable

/-!
# Quoted text

A text between two quotes, on one line and with every character visible: six characters have an
escape of two characters, those that do not show are written by their number, and the rest stand
for themselves. Which characters do not show is a parameter of `quoteWith`.
-/

namespace MarkupLexer.Text

/-- The number of a character in lower-case hexadecimal between braces. -/
def numberEscape (c : Char) : List Char :=
  '\\' :: 'u' :: '\x7b' :: (Nat.toDigits 16 c.toNat ++ ['\x7d'])

/-- How `c` is written between two `quote`s, when the characters of `hidden` do not show. -/
def escape (hidden : Char → Bool) (quote c : Char) : List Char :=
  if c = '\x00' then ['\\', '0']
  else if c = '\t' then ['\\', 't']
  else if c = '\r' then ['\\', 'r']
  else if c = '\n' then ['\\', 'n']
  else if c = '\\' then ['\\', '\\']
  else if c = quote then ['\\', quote]
  else if hidden c then numberEscape c
  else [c]

def quoteWith (hidden : Char → Bool) (quote : Char) (s : List Char) : List Char :=
  quote :: (s.flatMap (escape hidden quote) ++ [quote])

/-- A text between double quotes, when the characters of `hidden` do not show. -/
def quotedWith (hidden : Char → Bool) (s : String) : String :=
  String.ofList (quoteWith hidden '"' s.toList)

def quoted (s : String) : String := quotedWith unprintable s

/-- A character between single quotes. -/
def quotedChar (c : Char) : String := String.ofList (quoteWith unprintable '\'' [c])

example : quoted "a\t'\"\n" = "\"a\\t'\\\"\\n\"" := by decide

end MarkupLexer.Text
