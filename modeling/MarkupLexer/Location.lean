/-!
# Lines and columns

The line that an offset falls in, and the column there in characters. A line ends with its line feed
and is shown without it and without the carriage returns before it. The end of the input is the
place after the last character that is shown, or the beginning of a new line after a line feed.
-/

namespace MarkupLexer

/-- The number of bytes of a run of characters. -/
def byteLength : List Char → Nat
  | [] => 0
  | c :: cs => c.utf8Size + byteLength cs

theorem byteLength_append (cs ds : List Char) :
    byteLength (cs ++ ds) = byteLength cs + byteLength ds := by
  induction cs with
  | nil => simp [byteLength]
  | cons c cs ih => simp only [List.cons_append, byteLength, ih]; omega

theorem byteLength_toList (s : String) : byteLength s.toList = s.utf8ByteSize := by
  have ofList (cs : List Char) : byteLength cs = (String.ofList cs).utf8ByteSize := by
    induction cs with
    | nil => rfl
    | cons c cs ih =>
      rw [byteLength, ih, String.ofList_cons, String.utf8ByteSize_append,
        String.utf8ByteSize_singleton]
  rw [ofList, String.ofList_toList]

/-- The number of characters in the first `n` bytes, when no character is cut. -/
def charactersIn? (n : Nat) : List Char → Option Nat
  | [] => if n = 0 then some 0 else none
  | c :: cs =>
    if n = 0 then some 0
    else if c.utf8Size ≤ n then (charactersIn? (n - c.utf8Size) cs).map (· + 1)
    else none

/-- The lines of a text, each with its line feed; the last one may have none. -/
def splitLines : List Char → List (List Char)
  | [] => []
  | c :: cs =>
    if c = '\n' then [c] :: splitLines cs
    else
      match splitLines cs with
      | [] => [[c]]
      | line :: lines => (c :: line) :: lines

/-- A line without the line feed and the carriage returns at its end. -/
def trimBreak (line : List Char) : List Char :=
  (line.reverse.dropWhile fun c => c == '\r' || c == '\n').reverse

/-- A place in a text. -/
structure Location where
  /-- The number of the line, from one. -/
  line : Nat
  /-- The line as it is shown. -/
  text : String
  /-- The number of characters of the line before the place. -/
  column : Nat
  deriving DecidableEq, Repr

/-- The place `offset` bytes into the given lines, the first of which has that number. -/
def locateIn (number offset : Nat) : List (List Char) → Option Location
  | [] => some ⟨number, "", 0⟩
  | line :: lines =>
    if offset < byteLength line then
      (charactersIn? offset line).map fun column =>
        ⟨number, String.ofList (trimBreak line), column⟩
    else if lines.isEmpty && line.getLast? != some '\n' then
      some ⟨number, String.ofList (trimBreak line), (trimBreak line).length⟩
    else locateIn (number + 1) (offset - byteLength line) lines

/-- The place of an offset in a text, none within a character. Offsets past the end stand for the
    end. -/
def locate (source : String) (offset : Nat) : Option Location :=
  locateIn 1 offset (splitLines source.toList)

/-! ### Places without offsets -/

/-- The place between two parts of a text: the line is what stands between the line feeds around it,
    and at the end of the text the place is after the last character that is shown. -/
def Location.between (before after : List Char) : Location :=
  let start := (before.reverse.takeWhile (· ≠ '\n')).reverse
  let line := start ++ after.takeWhile (· ≠ '\n')
  let shown := (line.reverse.dropWhile (· = '\r')).reverse
  { line := before.count '\n' + 1
    text := String.ofList shown
    column := if after.isEmpty then shown.length else start.length }

example : locate "<a>\r\n<é/" 6 = some ⟨2, "<é/", 1⟩ ∧ locate "<é" 2 = none := by decide

example : locate "<a>\r\n<é/" 6 = some (.between "<a>\r\n<".toList "é/".toList) := by decide

end MarkupLexer
