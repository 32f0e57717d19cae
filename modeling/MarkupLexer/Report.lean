import MarkupLexer.Fault
import MarkupLexer.Location
import MarkupLexer.Text.Layout

/-!
# Error reports

An error as it is shown to a reader: what is wrong, where, the line, and a mark under the character
at fault. A bar stands before the line and, in the same column, in the rows above and below it.
-/

namespace MarkupLexer

structure Report where
  /-- The name of the fault, with advice or else its message. -/
  heading : String
  /-- Where the input comes from, and the line and the column there, both from one. -/
  origin : String
  /-- The row above the line. -/
  above : String
  /-- The line, after its number. -/
  line : String
  /-- The row below the line, with the mark. -/
  marker : String
  deriving DecidableEq, Repr

namespace Report

/-- The rows of the report of a fault at a place in an input, in the order in which they are
    printed. A row with a field wider than there are is missing. -/
def rows (fault : Fault) (origin : String) (place : Location) : List (Option String) :=
  let number := toString place.line
  let bar := Text.field? (number.length + 2) "|"
  let mark := Text.field? (place.column + 1) "^"
  [some ("Error: " ++ fault.name ++ " (" ++ fault.tip.getD fault.message ++ ")"),
    some ("-> " ++ origin ++ ":" ++ number ++ ":" ++ toString (place.column + 1)),
    bar,
    some (number ++ " | " ++ place.text),
    do return (← bar) ++ " " ++ (← mark)]

/-- The report of a fault at a place in an input, none when a row is missing. -/
def make? (fault : Fault) (origin : String) (place : Location) : Option Report :=
  match rows fault origin place with
  | [some heading, some origin, some above, some line, some marker] =>
    some { heading, origin, above, line, marker }
  | _ => none

def render (r : Report) : String :=
  r.heading ++ "\n" ++ r.origin ++ "\n" ++ r.above ++ "\n" ++ r.line ++ "\n" ++ r.marker ++ "\n"

/-- Rows one under the other, up to the first that is missing. -/
def printRows : List (Option String) → String
  | some row :: rows => row ++ "\n" ++ printRows rows
  | none :: _ | [] => ""

theorem printRows_rows_of_make? {fault : Fault} {origin : String} {place : Location} {r : Report}
    (made : make? fault origin place = some r) :
    printRows (rows fault origin place) = r.render := by
  unfold make? at made
  split at made
  next whole =>
    cases made
    simp [whole, printRows, render, String.append_assoc]
  next => contradiction

end Report

/-- The report of an error in `source`, none if its offset falls within a character or its mark
    outside every field. -/
def LexError.report? (e : LexError) (source origin : String) : Option Report :=
  (locate source e.offset).bind (Report.make? e.fault origin)

/-- What is printed of the report of an error in `source`: its rows up to one that is missing, and
    nothing if its offset falls within a character. -/
def LexError.print (e : LexError) (source origin : String) : String :=
  match locate source e.offset with
  | some place => Report.printRows (Report.rows e.fault origin place)
  | none => ""

theorem LexError.print_of_report? {e : LexError} {source origin : String} {r : Report}
    (reported : e.report? source origin = some r) : e.print source origin = r.render := by
  obtain ⟨place, located, made⟩ := Option.bind_eq_some_iff.mp reported
  rw [print, located]
  exact Report.printRows_rows_of_make? made

end MarkupLexer
