import MarkupLexer.Report
import MarkupLexer.Proofs.Places
import MarkupLexer.Proofs.Rows
import MarkupLexer.Proofs.Streaming

/-!
# The mark of a report

The mark of a report stands under the character at fault. A line is shown without the carriage
returns at its end, but none of these stands before the character at fault: a lexer that has read a
carriage return is in a text, where it refuses nothing.
-/

namespace MarkupLexer

/-! ### The character at a place -/

/-- The character at a place is the one that is found there, or the place is after the last
    character shown and what is found is the end of the input or of the line. -/
def Location.PointsAt (place : Location) (found : Option Char) : Prop :=
  (∃ c, found = some c ∧ place.text.toList[place.column]? = some c) ∨
    place.column = place.text.length ∧
      (found = none ∨ found = some '\n' ∨ found = some '\r')

/-- All of a line is shown when no carriage return ends it. -/
theorem shown_lineStart {before : List Char} (other : before.getLast? ≠ some '\r') :
    shown (lineStart before) = lineStart before := by
  refine List.rdropWhile_eq_self_iff.mpr fun nonempty returns => other ?_
  have ends : lineStart before <:+ before := List.rtakeWhile_suffix _ _
  rw [List.getLast?_eq_some_getLast (ends.ne_nil nonempty), ← ends.getLast nonempty]
  exact congrArg some (of_decide_eq_true returns)

theorem Location.pointsAt_between {before after : List Char}
    (other : after ≠ [] → before.getLast? ≠ some '\r') :
    (between before after).PointsAt after.head? := by
  cases after with
  | nil => exact .inr ⟨by simp [between], .inl rfl⟩
  | cons c rest =>
    have whole := shown_lineStart (other (by simp))
    have text : (between before (c :: rest)).text.toList =
        shown (lineStart before ++ (c :: rest).takeWhile (· ≠ '\n')) := String.toList_ofList
    have column : (between before (c :: rest)).column = (lineStart before).length := rfl
    rw [shown_append] at text
    by_cases none_shown : shown ((c :: rest).takeWhile (· ≠ '\n')) = []
    · -- Nothing is shown from the place on, so a line break begins there.
      right
      rw [if_pos none_shown, whole] at text
      refine ⟨by rw [column, ← String.length_toList, text], .inr ?_⟩
      by_cases feed : c = '\n'
      · exact .inl (congrArg some feed)
      · have returns := List.rdropWhile_eq_nil_iff.mp none_shown c (by simp [feed])
        exact .inr (congrArg some (of_decide_eq_true returns))
    · left
      rw [if_neg none_shown] at text
      have leads : shown ((c :: rest).takeWhile (· ≠ '\n')) <+: c :: rest :=
        (List.rdropWhile_prefix _ _).trans (List.takeWhile_prefix _)
      rcases List.prefix_cons_iff.mp leads with empty | ⟨more, here, -⟩
      · exact absurd empty none_shown
      · refine ⟨c, rfl, ?_⟩
        rw [text, column, here]
        simp

/-! ### Errors are not after carriage returns -/

/-- A carriage return is read in a text only. -/
theorem Moves.inText_of_return {s next : State} {action : Action}
    (moved : Moves s '\r' next action) : next = .inText := by
  cases moved with
  | beginsText | extendsText => rfl
  | _ => exact absurd ‹NameChar '\r'› (by decide)

theorem Run.inText_of_return {cs : List Char} {ts : List Token} {k : Reading}
    (run : Run {} cs ts k) : cs.getLast? = some '\r' → k.state = .inText := by
  refine run.invariant (P := fun cs _ k => cs.getLast? = some '\r' → k.state = .inText)
    (by simp) ?_
  intro cs ts k c next action _ moved last
  obtain rfl : c = '\r' := by simpa using last
  exact moved.inText_of_return

/-- In a text every character is allowed. -/
theorem Fault.not_inText_of_found {fault : Fault} {c : Char} (found : fault.found = some c) :
    fault.state ≠ .inText := by
  cases fault <;> simp_all [Fault.found, Fault.state]

theorem exists_place_of_tokenize_eq_error {source : String} {trailing : TrailingText} {e : LexError}
    (failed : tokenize source trailing = .error e) :
    ∃ place, locate source e.offset = some place ∧ place.PointsAt e.fault.found := by
  obtain ⟨before, after, ts, k, run, split, offset, found, state⟩ :=
    exists_split_of_scan_error (tokenize_eq_error_iff.mp failed)
  refine ⟨.between before after, locate_of_split split offset, ?_⟩
  rw [found]
  refine Location.pointsAt_between fun more returns => ?_
  obtain ⟨c, rest, rfl⟩ := List.exists_cons_of_ne_nil more
  exact Fault.not_inText_of_found found (state.trans (run.inText_of_return returns))

/-! ### Rows -/

/-- The first `c` of a row stands at the index `i`. -/
def StandsAt (row : String) (c : Char) (i : Nat) : Prop :=
  ∃ before after, row.toList = before ++ c :: after ∧ before.length = i ∧ c ∉ before

/-- The number of a line as it is shown. -/
def Location.number (place : Location) : String := toString place.line

/-- What stands before a line in its row. -/
def Location.label (place : Location) : String := place.number ++ " | "

/-- A place whose report needs no field wider than there are. -/
structure Location.Fits (place : Location) : Prop where
  bar : place.number.length + 2 ≤ Text.fieldLimit
  mark : place.column + 1 ≤ Text.fieldLimit

/-- The last three rows of a report: the line with its number, a bar in the same column of all
    three, and the mark under the character of the line at the place. -/
structure Report.Shows (r : Report) (place : Location) : Prop where
  line : r.line = place.label ++ place.text
  line_bar : StandsAt r.line '|' (place.number.length + 1)
  above_bar : StandsAt r.above '|' (place.number.length + 1)
  marker_bar : StandsAt r.marker '|' (place.number.length + 1)
  mark : StandsAt r.marker '^' (place.label.length + place.column)
  under : r.line.toList[place.label.length + place.column]? = place.text.toList[place.column]?
  after_last : place.column = place.text.length →
    place.label.length + place.column = r.line.length
  rows : ∃ heading, r.render =
    heading ++ "\n" ++ r.above ++ "\n" ++ r.line ++ "\n" ++ r.marker ++ "\n"
  unbroken : ∀ row ∈ [r.above, r.line, r.marker], '\n' ∉ row.toList

theorem Location.not_mem_number {c : Char} (other : c.isDigit = false) (place : Location) :
    c ∉ place.number.toList :=
  not_mem_toString_nat other place.line

theorem Location.length_label (place : Location) :
    place.label.length = place.number.length + 3 := by
  rw [label, String.length_append]
  rfl

/-- A sign stands at the end of its field. -/
theorem toList_padLeft_sign {sign : String} {c : Char} (single : sign.toList = [c]) (n : Nat) :
    (Text.padLeft (n + 1) sign).toList = List.replicate n ' ' ++ [c] := by
  have length : sign.length = 1 := by rw [← String.length_toList, single, List.length_singleton]
  rw [Text.toList_padLeft, length, single, Nat.add_sub_cancel]

/-- The rows of a report, those that need no field in general. -/
theorem Report.exists_rows_eq (fault : Fault) (origin : String) (place : Location) :
    ∃ heading source, rows fault origin place =
      [some heading, some source, Text.field? (place.number.length + 2) "|",
        some (place.label ++ place.text),
        do return (← Text.field? (place.number.length + 2) "|") ++ " " ++
          (← Text.field? (place.column + 1) "^")] :=
  ⟨_, _, rfl⟩

/-- Where every field is wide enough, there is a report, and its rows are these. -/
theorem Report.exists_make? {place : Location} (fits : place.Fits) (fault : Fault)
    (origin : String) :
    ∃ r, make? fault origin place = some r ∧ r.line = place.label ++ place.text ∧
      r.above.toList = List.replicate (place.number.length + 1) ' ' ++ ['|'] ∧
      r.marker.toList = List.replicate (place.number.length + 1) ' ' ++
        '|' :: (List.replicate (place.column + 1) ' ' ++ ['^']) := by
  have bar : Text.field? (place.number.length + 2) "|" = _ := if_pos fits.bar
  have mark : Text.field? (place.column + 1) "^" = _ := if_pos fits.mark
  obtain ⟨heading, source, shape⟩ := exists_rows_eq fault origin place
  rw [make?, shape, bar, mark]
  refine ⟨_, rfl, rfl, toList_padLeft_sign rfl _, ?_⟩
  simp only [String.toList_append]
  rw [toList_padLeft_sign (c := '|') rfl, toList_padLeft_sign (c := '^') rfl]
  simp [List.replicate_succ]

/-- A place that needs wider fields than there are has no report. -/
theorem Report.make?_eq_none {place : Location} (wide : ¬ place.Fits) (fault : Fault)
    (origin : String) : make? fault origin place = none := by
  have field (width : Nat) (sign : String) (excess : ¬ width ≤ Text.fieldLimit) :
      Text.field? width sign = none := if_neg excess
  obtain ⟨heading, source, shape⟩ := exists_rows_eq fault origin place
  rw [make?, shape]
  by_cases bar : place.number.length + 2 ≤ Text.fieldLimit
  · rw [field _ "^" fun mark => wide ⟨bar, mark⟩]
    cases Text.field? (place.number.length + 2) "|" <;> rfl
  · rw [field _ "|" bar]

/-- The rows of a report above its mark: the last of them is the line with its number, and the one
    above that has a bar in the same column. -/
def Report.IsUnmarked (printed : String) (place : Location) : Prop :=
  ∃ heading above, StandsAt above '|' (place.number.length + 1) ∧
    printed = heading ++ "\n" ++ above ++ "\n" ++ (place.label ++ place.text) ++ "\n"

/-- Where only the mark needs a wider field than there are, the rows above it are printed. -/
theorem Report.isUnmarked_printRows {place : Location} (wide : ¬ place.Fits)
    (bar : place.number.length + 2 ≤ Text.fieldLimit) (fault : Fault) (origin : String) :
    IsUnmarked (printRows (rows fault origin place)) place := by
  have above : Text.field? (place.number.length + 2) "|" = _ := if_pos bar
  have mark : Text.field? (place.column + 1) "^" = none := if_neg fun mark => wide ⟨bar, mark⟩
  obtain ⟨heading, source, shape⟩ := exists_rows_eq fault origin place
  refine ⟨heading ++ "\n" ++ source, Text.padLeft (place.number.length + 2) "|",
    ⟨_, [], toList_padLeft_sign rfl _, List.length_replicate, not_mem_blanks (by decide) _⟩, ?_⟩
  rw [shape, above, mark]
  simp [printRows, String.append_assoc]

/-- The first column whose mark has no field. -/
example : Report.printRows (Report.rows (.truncatedInput .inText) "-" ⟨12, "<a>b", 65535⟩) =
    "Error: TruncatedInput (input ended while reading text)\n-> -:12:65536\n   |\n12 | <a>b\n" := by
  decide

/-- The lines of a text whose offsets are all in range have numbers that fields are wide enough
    for. -/
theorem Location.bar_fits_between {before after : List Char}
    (small : byteLength (before ++ after) < offsetLimit) :
    (between before after).number.length + 2 ≤ Text.fieldLimit := by
  have line : (between before after).line < 10 ^ 20 := by
    have feeds : before.count '\n' ≤ before.length := List.count_le_length
    have length := length_le_byteLength before
    rw [byteLength_append, offsetLimit] at small
    change before.count '\n' + 1 < 10 ^ 20
    omega
  have digits : (between before after).number.length ≤ 20 := by
    rw [number, ← String.length_toList, toList_toString_nat]
    exact (Nat.length_toDigits_le_iff (by decide) (by decide)).mpr line
  rw [Text.fieldLimit]
  omega

/-- Of a text whose offsets are all in range only a long line has places without a report. -/
theorem Location.fits_between_iff {before after : List Char}
    (small : byteLength (before ++ after) < offsetLimit) :
    (between before after).Fits ↔ (between before after).column < Text.fieldLimit :=
  ⟨fun fits => fits.mark, fun mark => ⟨bar_fits_between small, mark⟩⟩

theorem LexError.report?_of_split {source : String} {before after : List Char} {e : LexError}
    (split : source.toList = before ++ after) (here : e.offset = byteLength before)
    (origin : String) :
    e.report? source origin = Report.make? e.fault origin (.between before after) := by
  rw [LexError.report?, locate_of_split split here, Option.bind_some]

theorem LexError.print_of_split {source : String} {before after : List Char} {e : LexError}
    (split : source.toList = before ++ after) (here : e.offset = byteLength before)
    (origin : String) :
    e.print source origin =
      Report.printRows (Report.rows e.fault origin (.between before after)) := by
  rw [LexError.print, locate_of_split split here]

theorem Report.shows_of_rows {r : Report} {place : Location}
    (unbroken : '\n' ∉ place.text.toList) (line : r.line = place.label ++ place.text)
    (above : r.above.toList = List.replicate (place.number.length + 1) ' ' ++ ['|'])
    (marker : r.marker.toList = List.replicate (place.number.length + 1) ' ' ++
      '|' :: (List.replicate (place.column + 1) ' ' ++ ['^'])) : r.Shows place where
  line := line
  line_bar := by
    refine ⟨place.number.toList ++ [' '], ' ' :: place.text.toList, ?_, ?_, ?_⟩
    · simp [line, Location.label]
    · rw [List.length_append, String.length_toList, List.length_singleton]
    · simp [place.not_mem_number (c := '|') rfl]
  above_bar := ⟨_, [], above, List.length_replicate, not_mem_blanks (by decide) _⟩
  marker_bar := ⟨_, _, marker, List.length_replicate, not_mem_blanks (by decide) _⟩
  mark := by
    refine ⟨List.replicate (place.number.length + 1) ' ' ++
      '|' :: List.replicate (place.column + 1) ' ', [], ?_, ?_, ?_⟩
    · rw [marker, List.append_assoc, List.cons_append]
    · simp only [List.length_append, List.length_cons, List.length_replicate, place.length_label]
      omega
    · simp [not_mem_blanks (c := '^') (by decide)]
  under := by
    rw [line, String.toList_append, ← String.length_toList, List.getElem?_append_right (by omega),
      Nat.add_sub_cancel_left]
  after_last := by
    intro last
    rw [line, String.length_append, last]
  rows := ⟨_, rfl⟩
  unbroken := by
    have number := place.not_mem_number (c := '\n') rfl
    simp [above, marker, line, Location.label, unbroken, number]

/-- The place of an error is that of the character at fault, or after the last character shown, and
    where every field is wide enough the mark of the report stands under it. -/
theorem mark_under_fault :
    (∀ source trailing e, tokenize source trailing = .error e →
      ∃ place, locate source e.offset = some place ∧ place.PointsAt e.fault.found) ∧
    ∀ source origin (e : LexError) place, locate source e.offset = some place → place.Fits →
      ∃ report, e.report? source origin = some report ∧ report.Shows place := by
  refine ⟨fun source trailing e failed => exists_place_of_tokenize_eq_error failed, ?_⟩
  intro source origin e place located fits
  obtain ⟨report, made, line, above, marker⟩ := Report.exists_make? fits e.fault origin
  refine ⟨report, ?_, Report.shows_of_rows (not_mem_text_of_locate located) line above marker⟩
  rw [LexError.report?, located, Option.bind_some, made]

/-- A character of two bytes in the second line, after a carriage return and a line feed. -/
theorem mark_under_fault_second_line :
    tokenize "<a>\r\n<é/" = .error ⟨.invalidTagStart 'é', 6⟩ ∧
      (∃ place, locate "<a>\r\n<é/" 6 = some place ∧ place.PointsAt (some 'é')) ∧
      locate "<a>\r\n<é/" 6 = some ⟨2, "<é/", 1⟩ ∧ Location.Fits ⟨2, "<é/", 1⟩ ∧
      ∃ report, LexError.report? ⟨.invalidTagStart 'é', 6⟩ "<a>\r\n<é/" "-" = some report ∧
        report.Shows ⟨2, "<é/", 1⟩ := by
  have failed : tokenize "<a>\r\n<é/" = .error ⟨.invalidTagStart 'é', 6⟩ :=
    tokenize_eq_error_iff.mpr (by decide)
  have located : locate "<a>\r\n<é/" 6 = some ⟨2, "<é/", 1⟩ := by decide
  have fits : Location.Fits ⟨2, "<é/", 1⟩ := ⟨by decide, by decide⟩
  exact ⟨failed, mark_under_fault.1 _ _ _ failed, located, fits,
    mark_under_fault.2 _ "-" ⟨.invalidTagStart 'é', 6⟩ _ located fits⟩

end MarkupLexer
