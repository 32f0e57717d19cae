import MarkupLexer.Remainder
import MarkupLexer.Proofs.Printing

/-!
# What an error leaves over

With an error the value that is being collected is dropped, and so is whatever still waits to be
given. Nothing that is complete is among it: the input up to the error is the print of the tokens
that were given and one unfinished part, of the shape that the state of the fault has.
-/

namespace MarkupLexer

namespace Reading

/-- What is held after the last complete token has the shape that belongs to the state. -/
theorem Sound.remainder_held {k : Reading} (sound : k.Sound) :
    k.state.Remainder k.held.toList := by
  obtain ⟨s, offset, current⟩ := k
  cases s with
  | start | afterOpen | awaitingAttribute | awaitingAttributeValue | afterAttributeValue
  | afterTagClose =>
    obtain rfl : current = none := sound.current_eq_none rfl
    simp [held, State.Remainder]
  | inIdentifier | inAttributeName =>
    obtain ⟨a, rfl, kind, ⟨nonempty, chars⟩, _⟩ := sound.exists_current rfl
    simpa [held, State.Remainder, kind, Kind.opening, nonempty] using chars
  | inStringValue | inExpressionValue =>
    obtain ⟨a, rfl, kind, chars, _⟩ := sound.exists_current rfl
    simp only [held, kind, Kind.opening, State.Remainder]
    exact ⟨a.value.toList, by simp, chars⟩
  | inText =>
    obtain ⟨a, rfl, kind, ⟨nonempty, other⟩, _⟩ := sound.exists_current rfl
    simpa [held, State.Remainder, kind, Kind.opening, nonempty] using other

end Reading

/-- The input up to an error is the print of the tokens before the error and an unfinished part, of
    the shape that belongs to the state of the fault. Text is refused at the end only where it may
    not come last. -/
theorem source_eq_toSource_append_remainder {source : String} {trailing : TrailingText}
    {tokens : List Token} {e : LexError}
    (stopped : tokenizePartial source trailing = (tokens, some e)) :
    ∃ before after remainder, source = before ++ after ∧ e.offset = before.utf8ByteSize ∧
      before = toSource tokens ++ String.ofList remainder ∧ e.fault.state.Remainder remainder ∧
      (e.fault = .truncatedInput .inText → trailing = .reject) := by
  rw [tokenizePartial_eq] at stopped
  obtain ⟨cs, k, run, offset, refusal⟩ := run_of_scan_eq_error stopped
  obtain ⟨rest, split, state, last⟩ : ∃ rest, source.toList = cs ++ rest ∧
      e.fault.state = k.state ∧ (e.fault = .truncatedInput .inText → trailing = .reject) := by
    rcases refusal with ⟨c, rest, split, refused⟩ | ⟨split, refused⟩
    · obtain ⟨state, found⟩ := of_step_eq_error refused
      refine ⟨c :: rest, split, state, fun truncated => ?_⟩
      rw [truncated] at found
      contradiction
    · obtain ⟨state, _, last⟩ := of_finish_eq_error refused
      refine ⟨[], by rw [split, List.append_nil], state, fun truncated => ?_⟩
      rw [truncated] at state
      exact last state.symm
  have printed : toSource tokens ++ k.held = String.ofList cs := by
    simpa [Reading.held] using run.toSource_append_held Reading.sound_start
  refine ⟨String.ofList cs, String.ofList rest, k.held.toList, ?_, ?_, ?_, ?_, last⟩
  · rw [← String.ofList_append, ← split, String.ofList_toList]
  · rw [offset, run.utf8ByteSize_eq]
  · rw [String.ofList_toList, printed]
  · rw [state]
    exact (run.sound Reading.sound_start).remainder_held

/-- A multi-byte character stops a quoted value: the quote and the value so far are left over. -/
theorem source_eq_toSource_append_remainder_string :
    ∃ tokens, tokenizePartial "<a>é<b c=\"1é" =
        (tokens, some ⟨.invalidStringValueChar 'é', 12⟩) ∧ tokens.length = 7 ∧
      ∃ before after remainder, "<a>é<b c=\"1é" = before ++ after ∧ 12 = before.utf8ByteSize ∧
        before = toSource tokens ++ String.ofList remainder ∧
        State.Remainder remainder .inStringValue ∧
        (Fault.invalidStringValueChar 'é' = .truncatedInput .inText →
          TrailingText.accept = .reject) := by
  have stopped : tokenizePartial "<a>é<b c=\"1é" =
      ([⟨.tagOpen, "<", ⟨0, 1⟩⟩, ⟨.identifier, "a", ⟨1, 2⟩⟩, ⟨.tagClose, ">", ⟨2, 3⟩⟩,
        ⟨.text, "é", ⟨3, 5⟩⟩, ⟨.tagOpen, "<", ⟨5, 6⟩⟩, ⟨.identifier, "b", ⟨6, 7⟩⟩,
        ⟨.attributeName, "c", ⟨8, 9⟩⟩], some ⟨.invalidStringValueChar 'é', 12⟩) := by
    rw [tokenizePartial_eq]
    decide
  exact ⟨_, stopped, rfl, source_eq_toSource_append_remainder stopped⟩

end MarkupLexer
