import MarkupLexer.Proofs.Streaming

/-!
# What an error says

An error stands where the first character is refused, or at the end of an input that may not end
there, and its fault is what the automaton answers in the state that the input before it leads to.
So its offset, its character and the kind of its fault say the same of the input.
-/

namespace MarkupLexer

/-- An error between what was read and what was not: the automaton reads `before` and comes to the
    state `q`, in which it refuses the next character, or the end if there is none, with the fault
    of the error. -/
structure LexError.StandsBetween (e : LexError) (trailing : TrailingText) (before after : String)
    (q : State) : Prop where
  offset : e.offset = before.utf8ByteSize
  reached : stateAfter? .start before.toList = some q
  refused : ∀ c rest, after.toList = c :: rest → step q c = .error e.fault
  ended : after = "" → finish trailing q = .error e.fault

namespace LexError.StandsBetween

variable {e : LexError} {trailing : TrailingText} {before after : String} {q : State}

theorem found_eq (stands : e.StandsBetween trailing before after q) :
    e.fault.found = after.toList.head? := by
  cases unread : after.toList with
  | nil => exact (of_finish_eq_error (stands.ended (String.toList_eq_nil_iff.mp unread))).2.1
  | cons c rest => exact (of_step_eq_error (stands.refused c rest unread)).2

theorem invalidStart_iff (stands : e.StandsBetween trailing before after q) :
    (∃ found, e.fault = .invalidStart found) ↔ q = .start := by
  cases unread : after.toList with
  | nil => exact invalidStart_iff_of_finish (stands.ended (String.toList_eq_nil_iff.mp unread))
  | cons c rest => exact invalidStart_iff_of_step (stands.refused c rest unread)

/-- The end of an input is at fault in the state that the input ends in, and there it may be. -/
theorem of_truncatedInput (stands : e.StandsBetween trailing before after q) {s : State}
    (truncated : e.fault = .truncatedInput s) :
    after = "" ∧ s = q ∧ s ≠ .start ∧ s ≠ .afterTagClose ∧ (s = .inText → trailing = .reject) := by
  have found := stands.found_eq
  rw [truncated] at found
  have last : after = "" := String.toList_eq_nil_iff.mp (List.head?_eq_none_iff.mp found.symm)
  have refused := stands.ended last
  rw [truncated] at refused
  obtain ⟨state, -, strictly⟩ := of_finish_eq_error refused
  obtain rfl : s = q := state
  refine ⟨last, rfl, ?_, ?_, strictly⟩ <;> rintro rfl <;> cases refused

end LexError.StandsBetween

theorem exists_standsBetween {source : String} {trailing : TrailingText} {e : LexError}
    (failed : tokenize source trailing = .error e) :
    ∃ before after ts k, source = before ++ after ∧ Run {} before.toList ts k ∧
      e.StandsBetween trailing before after k.state := by
  obtain ⟨cs, ts, k, run, offset, refusal⟩ := run_of_tokenize_eq_error failed
  have read : Run {} (String.ofList cs).toList ts k := by rwa [String.toList_ofList]
  have size : e.offset = (String.ofList cs).utf8ByteSize := by rw [offset, run.utf8ByteSize_eq]
  rcases refusal with ⟨c, rest, split, refused⟩ | ⟨split, refused⟩
  · refine ⟨String.ofList cs, String.ofList (c :: rest), ts, k, eq_append_of_toList_eq split, read,
      size, read.stateAfter?_eq, ?_, by simp⟩
    rw [String.toList_ofList]
    rintro _ _ ⟨⟩
    exact refused
  · refine ⟨String.ofList cs, "", ts, k, ?_, read, size, read.stateAfter?_eq, by simp, ?_⟩
    · rw [← split, String.ofList_toList, String.append_empty]
    · exact fun _ => refused

/-- An error stands at the start of an input that is empty or begins with another character. -/
theorem LexError.StandsBetween.at_start_iff {e : LexError} {trailing : TrailingText}
    {before after : String} {ts : List Token} {k : Reading} (run : Run {} before.toList ts k)
    (stands : e.StandsBetween trailing before after k.state) :
    k.state = .start ↔
      before ++ after = "" ∨ ∃ c rest, (before ++ after).toList = c :: rest ∧ c ≠ '<' := by
  rw [run.state_eq_start_iff, String.toList_append, ← String.toList_eq_nil_iff,
    String.toList_append]
  constructor
  · intro empty
    rw [empty, List.nil_append]
    cases unread : after.toList with
    | nil => exact .inl rfl
    | cons c rest =>
      refine .inr ⟨c, rest, rfl, ?_⟩
      rintro rfl
      have refused := stands.refused _ _ unread
      rw [run.state_eq_start_iff.mpr empty] at refused
      contradiction
  · rintro (empty | ⟨c, rest, split, other⟩)
    · exact (List.append_eq_nil_iff.mp empty).1
    · cases read : before.toList with
      | nil => rfl
      | cons d ds =>
        have first := run.head?_eq (by simp [read])
        rw [read] at first split
        obtain rfl : d = '<' := Option.some.inj first
        exact absurd (List.cons.inj split).1.symm other

/-- What an error says of the input that it stands in. -/
structure LexError.Explained (e : LexError) (trailing : TrailingText) (before after : String)
    (q : State) : Prop extends e.StandsBetween trailing before after q where
  /-- Its character is the one that it stands before. -/
  found : e.fault.found = after.toList.head?
  before_end_iff : (∃ c, e.fault.found = some c) ↔ e.offset < (before ++ after).utf8ByteSize
  at_end_iff : e.fault.found = none ↔ e.offset = (before ++ after).utf8ByteSize
  /-- It is of the start just when it stands there, and then no tag begins there. -/
  invalidStart_iff : (∃ found, e.fault = .invalidStart found) ↔ e.offset = 0
  at_start_iff : e.offset = 0 ↔
    before ++ after = "" ∨ ∃ c rest, (before ++ after).toList = c :: rest ∧ c ≠ '<'
  /-- An input is truncated at its end, in the state that it ends in. -/
  truncated : ∀ s, e.fault = .truncatedInput s →
    e.offset = (before ++ after).utf8ByteSize ∧ s = q ∧ s ≠ .start ∧ s ≠ .afterTagClose ∧
      (s = .inText → trailing = .reject)

/-- An error is what the automaton answers where it stands, to the character there or to the end of
    the input, and its offset, its character and its fault say the same of that place. -/
theorem error_explained {source : String} {trailing : TrailingText} {e : LexError}
    (failed : tokenize source trailing = .error e) :
    ∃ before after q, source = before ++ after ∧ e.Explained trailing before after q := by
  obtain ⟨before, after, ts, k, split, run, stands⟩ := exists_standsBetween failed
  have size : (before ++ after).utf8ByteSize = e.offset + after.utf8ByteSize := by
    rw [String.utf8ByteSize_append, stands.offset]
  have at_end : e.fault.found = none ↔ e.offset = (before ++ after).utf8ByteSize := by
    rw [stands.found_eq, List.head?_eq_none_iff, String.toList_eq_nil_iff,
      ← String.utf8ByteSize_eq_zero_iff]
    omega
  have at_start : k.state = .start ↔ e.offset = 0 := by
    rw [run.state_eq_start_iff, stands.offset, String.utf8ByteSize_eq_zero_iff,
      String.toList_eq_nil_iff]
  refine ⟨before, after, k.state, split, stands, stands.found_eq, ?_, at_end, ?_, ?_, ?_⟩
  · rw [← Option.ne_none_iff_exists', ne_eq, at_end]
    omega
  · rw [stands.invalidStart_iff, at_start]
  · rw [← at_start, stands.at_start_iff run]
  · intro s truncated
    obtain ⟨rfl, state⟩ := stands.of_truncatedInput truncated
    exact ⟨by simpa using size.symm, state⟩

/-- A text of two bytes before the end that is at fault. -/
theorem error_explained_value :
    tokenize "<a>é<b c=\"" = .error ⟨.truncatedInput .inStringValue, 11⟩ ∧
      ∃ before after q, "<a>é<b c=\"" = before ++ after ∧
        LexError.Explained ⟨.truncatedInput .inStringValue, 11⟩ .accept before after q := by
  have failed : tokenize "<a>é<b c=\"" = .error ⟨.truncatedInput .inStringValue, 11⟩ :=
    tokenize_eq_error_iff.mpr (by decide)
  exact ⟨failed, error_explained failed⟩

end MarkupLexer
