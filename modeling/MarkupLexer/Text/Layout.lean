/-!
# Layout of a field

A text or a number in a field of a least width. The missing characters are filled on the right, on
the left, or on both sides; text stands on the left and a number on the right unless a layout says
otherwise. Widths and precisions are numbers of 16 bits, and there is no field of any other.
-/

namespace MarkupLexer.Text

inductive Alignment where
  | left
  | right
  | center
  deriving DecidableEq, Repr

/-- `s` with fill characters up to `width` characters. An odd one of a centred text goes to the
    right. -/
def pad (alignment : Alignment) (fill : Char) (width : Nat) (s : String) : String :=
  let missing := width - s.length
  let before := match alignment with
    | .left => 0
    | .right => missing
    | .center => missing / 2
  String.ofList (List.replicate before fill ++ s.toList ++ List.replicate (missing - before) fill)

def padLeft (width : Nat) (s : String) : String := pad .right ' ' width s

def padRight (width : Nat) (s : String) : String := pad .left ' ' width s

/-- The greatest width and the greatest precision. -/
def fieldLimit : Nat := 65535

/-- `s` at the right end of a field, when there are fields of that width. -/
def field? (width : Nat) (s : String) : Option String :=
  if width ≤ fieldLimit then some (padLeft width s) else none

/-- How a field is laid out. -/
structure Layout where
  width : Nat := 0
  alignment : Option Alignment := none
  fill : Char := ' '
  /-- The most characters of a text that are shown. -/
  precision : Option Nat := none
  deriving DecidableEq, Repr

namespace Layout

/-- Whether there are fields of the layout's width and precision. -/
def isInRange (l : Layout) : Bool :=
  l.width ≤ fieldLimit && l.precision.all fun p => p ≤ fieldLimit

/-- A text, cut to the precision and then padded. -/
def text? (l : Layout) (s : String) : Option String :=
  let shown := match l.precision with
    | some p => String.ofList (s.toList.take p)
    | none => s
  if l.isInRange then some (pad (l.alignment.getD .left) l.fill l.width shown) else none

/-- A number, padded. A precision has no meaning for it, but must be one that there is. -/
def number? (l : Layout) (n : Nat) : Option String :=
  if l.isInRange then some (pad (l.alignment.getD .right) l.fill l.width (toString n)) else none

end Layout

example : Layout.text? ⟨7, some .center, '*', some 4⟩ "Slash" = some "*Slas**" := by decide

end MarkupLexer.Text
