import MarkupLexer.Proofs.Contents

/-!
# Text after the last tag

Whether text may come last is asked only where an input ends. An input that is refused where it may
is refused alike where it may not, and one that is accepted loses its last token, if that is a text,
and nothing else.
-/

namespace MarkupLexer

/-- What may not end where text may come last may not end where it may not. -/
theorem finish_reject_of_error {s : State} {fault : Fault}
    (refused : finish .accept s = .error fault) : finish .reject s = .error fault := by
  cases s <;> cases refused <;> rfl

/-- The kind of the last token, when there is one. -/
def lastKind? (tokens : List Token) : Option Kind := tokens.getLast?.map (·.kind)

variable {cs : List Char} {ts : List Token} {k : Reading}

/-- After the end of a tag the last token is that end. -/
theorem Run.lastKind?_eq (run : Run {} cs ts k) (closed : k.state = .afterTagClose) :
    lastKind? ts = some .tagClose := by
  have begun := run.begun
  rw [closed] at begun
  obtain ⟨d, s, _, _, contents⟩ := begun
  have last : (ts.getLast?).map Token.content = some (.tagClose, ">") := by
    rw [← List.getLast?_map, contents]
    simp
  obtain ⟨t, last, content⟩ := Option.map_eq_some_iff.mp last
  rw [lastKind?, last]
  exact congrArg some (congrArg Prod.fst content)

theorem scan_reject_of_error {source : String} {tokens : List Token} {e : LexError}
    (scanned : scan source = (tokens, some e)) : scan source .reject = (tokens, some e) := by
  have scans : Scans .accept {} source.toList (tokens, some e) := scan_eq_iff.mp scanned
  have strictly : Scans .reject {} source.toList (tokens, some e) := by
    generalize source.toList = read at scans ⊢
    cases scans with
    | refuses run refused => exact .refuses run refused
    | truncates run ended => exact .truncates run (finish_reject_of_error ended)
  exact strictly.scan_eq

/-- The tokens of an accepted input end in a tag and are the same where text may not come last, or
    they end in a text, which is left out there. -/
theorem scan_reject_of_ok {source : String} {tokens : List Token}
    (scanned : scan source = (tokens, none)) :
    lastKind? tokens = some .tagClose ∧ scan source .reject = (tokens, none) ∨
      lastKind? tokens = some .text ∧
        scan source .reject =
          (tokens.dropLast, some ⟨.truncatedInput .inText, source.utf8ByteSize⟩) := by
  obtain ⟨ts, k, ending, run, ended, rfl⟩ := scan_eq_ok_iff_run.mp scanned
  rcases finish_eq_ok_iff.mp ended with ⟨closed, rfl⟩ | ⟨reading, -, rfl⟩
  · left
    have ended : finish .reject k.state = .ok .done := by rw [closed]; rfl
    refine ⟨?_, scan_eq_iff.mpr (.accepts run ended)⟩
    simpa [Reading.emittedAtEnd] using run.lastKind?_eq closed
  · right
    obtain ⟨t, given, kind⟩ := (run.sound Reading.sound_start).exists_text reading
    have ended : finish .reject k.state = .error (.truncatedInput .inText) := by rw [reading]; rfl
    have size : k.offset = source.utf8ByteSize := by
      rw [← run.utf8ByteSize_eq, String.ofList_toList]
    have found : scan source .reject = (ts, some ⟨.truncatedInput .inText, k.offset⟩) :=
      scan_eq_iff.mpr (.truncates run ended)
    rw [given, found, size]
    exact ⟨by simp [lastKind?, kind], by simp⟩

/-- Where text may not come last, an input that is refused anyway gives the same tokens and the same
    error, one whose last token is no text is accepted with the same tokens, and one whose last
    token is a text is refused at its end, with all tokens but that one. -/
theorem reject_differs_in_last_text (source : String) :
    (∀ e, tokenize source = .error e →
        tokenize source .reject = .error e ∧
          tokenizePartial source .reject = tokenizePartial source) ∧
      ∀ tokens, tokenize source = .ok tokens →
        (lastKind? tokens ≠ some .text → tokenize source .reject = .ok tokens) ∧
          (lastKind? tokens = some .text →
            tokenize source .reject =
                .error ⟨.truncatedInput .inText, source.utf8ByteSize⟩ ∧
              tokenizePartial source .reject =
                (tokens.dropLast, some ⟨.truncatedInput .inText, source.utf8ByteSize⟩)) := by
  refine ⟨fun e failed => ?_, fun tokens accepted => ?_⟩
  · have found : scan source = ((scan source).1, some e) :=
      Prod.ext rfl (tokenize_eq_error_iff.mp failed)
    have strictly := scan_reject_of_error found
    rw [tokenizePartial_eq, tokenizePartial_eq, strictly, tokenize_eq_error_iff, strictly]
    exact ⟨rfl, found.symm⟩
  · rcases scan_reject_of_ok (tokenize_eq_ok_iff.mp accepted) with ⟨last, found⟩ | ⟨last, found⟩
    · refine ⟨fun _ => tokenize_eq_ok_iff.mpr found, fun text => ?_⟩
      rw [last] at text
      contradiction
    · refine ⟨fun other => absurd last other, fun _ => ⟨?_, ?_⟩⟩
      · rw [tokenize_eq_error_iff, found]
      · rw [tokenizePartial_eq, found]

/-- An input that is refused, one that ends in a tag and one that ends in a text. -/
theorem reject_differs_in_last_text_cases :
    (tokenize "<a>é</" = .error ⟨.truncatedInput .afterOpen, 7⟩ ∧
      tokenize "<a>é</" .reject = .error ⟨.truncatedInput .afterOpen, 7⟩ ∧
      tokenizePartial "<a>é</" .reject = tokenizePartial "<a>é</") ∧
    (∃ tokens, tokenize "<a>é<b>" = .ok tokens ∧ lastKind? tokens ≠ some .text ∧
      tokenize "<a>é<b>" .reject = .ok tokens) ∧
    ∃ tokens, tokenize "<a>é" = .ok tokens ∧ lastKind? tokens = some .text ∧
      tokenize "<a>é" .reject = .error ⟨.truncatedInput .inText, 5⟩ ∧
      tokenizePartial "<a>é" .reject =
        (tokens.dropLast, some ⟨.truncatedInput .inText, 5⟩) := by
  have failed : tokenize "<a>é</" = .error ⟨.truncatedInput .afterOpen, 7⟩ :=
    tokenize_eq_error_iff.mpr (by decide)
  have tag : tokenize "<a>é<b>" =
      .ok [⟨.tagOpen, "<", ⟨0, 1⟩⟩, ⟨.identifier, "a", ⟨1, 2⟩⟩, ⟨.tagClose, ">", ⟨2, 3⟩⟩,
        ⟨.text, "é", ⟨3, 5⟩⟩, ⟨.tagOpen, "<", ⟨5, 6⟩⟩, ⟨.identifier, "b", ⟨6, 7⟩⟩,
        ⟨.tagClose, ">", ⟨7, 8⟩⟩] :=
    tokenize_eq_ok_iff.mpr (by decide)
  have text : tokenize "<a>é" =
      .ok [⟨.tagOpen, "<", ⟨0, 1⟩⟩, ⟨.identifier, "a", ⟨1, 2⟩⟩, ⟨.tagClose, ">", ⟨2, 3⟩⟩,
        ⟨.text, "é", ⟨3, 5⟩⟩] :=
    tokenize_eq_ok_iff.mpr (by decide)
  refine ⟨⟨failed, (reject_differs_in_last_text _).1 _ failed⟩, ⟨_, tag, by decide, ?_⟩,
    _, text, rfl, ?_⟩
  · exact ((reject_differs_in_last_text _).2 _ tag).1 (by decide)
  · exact ((reject_differs_in_last_text _).2 _ text).2 rfl

end MarkupLexer
