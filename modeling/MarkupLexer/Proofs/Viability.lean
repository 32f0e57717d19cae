import MarkupLexer.Proofs.Streaming

/-!
# Viable prefixes

An error shows at the first chance. No state is dead: from each there is a way to a place where the
input may end. So what stands before an error can still become an accepted input, while with the
character at fault it cannot, whatever follows.
-/

namespace MarkupLexer

/-- A way to end an input that stops in a state. -/
def State.wayOut : State → String
  | start => "<a>"
  | afterOpen => "a>"
  | inIdentifier => ">"
  | awaitingAttribute => "a=\"\">"
  | inAttributeName => "=\"\">"
  | awaitingAttributeValue => "\"\">"
  | inStringValue => "\">"
  | inExpressionValue => "\x7d>"
  | afterAttributeValue => ">"
  | afterTagClose => ""
  | inText => "<a>"

theorem stateAfter?_wayOut (s : State) : stateAfter? s s.wayOut.toList = some .afterTagClose := by
  cases s <;> decide

variable {k : Reading} {cs : List Char} {ts : List Token}

/-- What a run has read can become an accepted input. -/
theorem Run.isOk_tokenize_wayOut (run : Run {} cs ts k) (trailing : TrailingText) :
    (tokenize (String.ofList cs ++ k.state.wayOut) trailing).isOk := by
  obtain ⟨us, k', rest, state⟩ := Run.of_stateAfter? (stateAfter?_wayOut k.state) rfl
  have ended : finish trailing k'.state = .ok .done := by rw [state]; rfl
  have whole : Run {} (String.ofList cs ++ k.state.wayOut).toList (ts ++ us) k' := by
    rw [String.toList_append, String.toList_ofList]
    exact run.append rest
  rw [isOk_tokenize_iff]
  exact ⟨_, scan_eq_ok_iff_run.mpr ⟨_, _, _, whole, ended, rfl⟩⟩

/-- A character that is not allowed after a run cannot become part of an accepted input. -/
theorem Run.not_isOk_tokenize {c : Char} {fault : Fault} (run : Run {} cs ts k)
    (refused : step k.state c = .error fault) (after : String) (trailing : TrailingText) :
    ¬ (tokenize (String.ofList cs ++ String.singleton c ++ after) trailing).isOk := by
  have scans : Scans trailing {} (cs ++ c :: after.toList) _ := .refuses run refused
  have scanned : scan (String.ofList cs ++ String.singleton c ++ after) trailing =
      (ts, some ⟨fault, k.offset⟩) := by
    rw [← scans.scan_eq]
    simp [scan, Reading.scan]
  rw [isOk_tokenize_iff, scanned]
  simp

/-- An error is either at a character with which the input before it can no longer become an
    accepted one, though without it it can, or at the end of an input that can become one. -/
theorem error_at_first_chance {source : String} {trailing : TrailingText} {e : LexError}
    (failed : tokenize source trailing = .error e) :
    (∃ before c after, source = before ++ String.singleton c ++ after ∧
        e.offset = before.utf8ByteSize ∧
        (∃ more, (tokenize (before ++ more) trailing).isOk) ∧
        ∀ more anyTrailing, ¬ (tokenize (before ++ String.singleton c ++ more) anyTrailing).isOk) ∨
      e.offset = source.utf8ByteSize ∧ ∃ more, (tokenize (source ++ more) trailing).isOk := by
  obtain ⟨cs, ts, k, run, offset, ⟨c, rest, split, refused⟩ | ⟨split, _⟩⟩ :=
    run_of_tokenize_eq_error failed
  · refine .inl ⟨String.ofList cs, c, String.ofList rest, ?_, ?_, ?_, ?_⟩
    · rw [← String.toList_inj, split]
      simp
    · rw [offset, run.utf8ByteSize_eq]
    · exact ⟨_, run.isOk_tokenize_wayOut trailing⟩
    · exact run.not_isOk_tokenize refused
  · obtain rfl : source = String.ofList cs := by rw [← split, String.ofList_toList]
    refine .inr ⟨?_, _, run.isOk_tokenize_wayOut trailing⟩
    rw [offset, run.utf8ByteSize_eq]

theorem error_at_first_chance_space :
    tokenize "<a é" = .error ⟨.invalidAttributeStart 'é', 3⟩ ∧
      ((∃ before c after, "<a é" = before ++ String.singleton c ++ after ∧
          3 = before.utf8ByteSize ∧ (∃ more, (tokenize (before ++ more)).isOk) ∧
          ∀ more anyTrailing,
            ¬ (tokenize (before ++ String.singleton c ++ more) anyTrailing).isOk) ∨
        3 = "<a é".utf8ByteSize ∧ ∃ more, (tokenize ("<a é" ++ more)).isOk) := by
  have failed : tokenize "<a é" = .error ⟨.invalidAttributeStart 'é', 3⟩ :=
    tokenize_eq_error_iff.mpr (by decide)
  exact ⟨failed, error_at_first_chance failed⟩

end MarkupLexer
