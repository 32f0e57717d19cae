import MarkupLexer.Automaton
import MarkupLexer.Document

/-!
# The transition table as a relation

`Moves` lists what the automaton can do with one character, a constructor for each entry of the
table, and `step_eq_ok_iff` says that it is the table. What is proved of every move is proved by
cases on it, and nothing else has to open `step`.
-/

namespace MarkupLexer

theorem isNameChar_iff {c : Char} : isNameChar c = true ↔ NameChar c := by
  change (decide (c.val ≥ 'a'.val) && decide (c.val ≤ 'z'.val) ||
    decide (c.val ≥ '0'.val) && decide (c.val ≤ '9'.val)) = true ↔ NameChar c
  simp only [Bool.or_eq_true, Bool.and_eq_true, decide_eq_true_eq]
  rfl

/-- The moves of the automaton: from a state, with a character, to a state by an action. -/
inductive Moves : State → Char → State → Action → Prop
  /-- The first tag begins. -/
  | enters : Moves .start '<' .afterOpen (.emit .tagOpen)
  | slashes : Moves .afterOpen '/' .afterOpen (.emit .slash)
  | beginsIdentifier {c : Char} (allowed : NameChar c) :
      Moves .afterOpen c .inIdentifier (.begin .identifier)
  | extendsIdentifier {c : Char} (allowed : NameChar c) :
      Moves .inIdentifier c .inIdentifier .extend
  | endsIdentifier : Moves .inIdentifier ' ' .awaitingAttribute .flush
  | closesAfterIdentifier : Moves .inIdentifier '>' .afterTagClose (.flushThen .tagClose)
  | beginsAttributeName {c : Char} (allowed : NameChar c) :
      Moves .awaitingAttribute c .inAttributeName (.begin .attributeName)
  | extendsAttributeName {c : Char} (allowed : NameChar c) :
      Moves .inAttributeName c .inAttributeName .extend
  | endsAttributeName : Moves .inAttributeName '=' .awaitingAttributeValue .flush
  | opensString :
      Moves .awaitingAttributeValue '"' .inStringValue (.openAfter .attributeStringValue)
  | extendsString {c : Char} (allowed : NameChar c) :
      Moves .inStringValue c .inStringValue .extend
  | endsString : Moves .inStringValue '"' .afterAttributeValue .flush
  | opensExpression :
      Moves .awaitingAttributeValue '\x7b' .inExpressionValue
        (.openAfter .attributeExpressionValue)
  | extendsExpression {c : Char} (allowed : NameChar c) :
      Moves .inExpressionValue c .inExpressionValue .extend
  | endsExpression : Moves .inExpressionValue '\x7d' .afterAttributeValue .flush
  | separates : Moves .afterAttributeValue ' ' .awaitingAttribute .skip
  | closesAfterValue : Moves .afterAttributeValue '>' .afterTagClose (.emit .tagClose)
  /-- A tag directly follows a tag. -/
  | opensNext : Moves .afterTagClose '<' .afterOpen (.emit .tagOpen)
  | beginsText {c : Char} (other : c ≠ '<') : Moves .afterTagClose c .inText (.begin .text)
  | extendsText {c : Char} (other : c ≠ '<') : Moves .inText c .inText .extend
  /-- A tag follows a text. -/
  | endsText : Moves .inText '<' .afterOpen (.flushThen .tagOpen)

theorem Moves.step_eq {s next : State} {c : Char} {action : Action}
    (moved : Moves s c next action) : step s c = .ok (next, action) := by
  -- A delimiter is tested before the name characters, and is none of them.
  have apart {d : Char} (allowed : NameChar c) (other : ¬ NameChar d) : c ≠ d := by
    rintro rfl
    exact other allowed
  cases moved with
  | beginsIdentifier allowed =>
    simp [step, isNameChar_iff, allowed, apart (d := '/') allowed (by decide)]
  | extendsIdentifier allowed =>
    simp [step, isNameChar_iff, allowed, apart (d := ' ') allowed (by decide),
      apart (d := '>') allowed (by decide)]
  | beginsAttributeName allowed => simp [step, isNameChar_iff, allowed]
  | extendsAttributeName allowed =>
    simp [step, isNameChar_iff, allowed, apart (d := '=') allowed (by decide)]
  | extendsString allowed =>
    simp [step, isNameChar_iff, allowed, apart (d := '"') allowed (by decide)]
  | extendsExpression allowed =>
    simp [step, isNameChar_iff, allowed, apart (d := '\x7d') allowed (by decide)]
  | beginsText other => simp [step, other]
  | extendsText other => simp [step, other]
  | _ => rfl

theorem moves_of_step {s next : State} {c : Char} {action : Action}
    (accepted : step s c = .ok (next, action)) : Moves s c next action := by
  cases s <;> simp only [step, isNameChar_iff] at accepted <;> repeat' split at accepted
  all_goals cases accepted <;> subst_vars <;> constructor <;> assumption

/-- The table and the relation are the same. -/
theorem step_eq_ok_iff {s next : State} {c : Char} {action : Action} :
    step s c = .ok (next, action) ↔ Moves s c next action :=
  ⟨moves_of_step, Moves.step_eq⟩

/-- No move leads back to the start. -/
theorem Moves.ne_start {s next : State} {c : Char} {action : Action}
    (moved : Moves s c next action) : next ≠ .start := by
  cases moved <;> nofun

/-- An input may end after a tag, and in a text where that is accepted. -/
theorem finish_eq_ok_iff {trailing : TrailingText} {s : State} {action : EndAction} :
    finish trailing s = .ok action ↔
      s = .afterTagClose ∧ action = .done ∨
        s = .inText ∧ trailing = .accept ∧ action = .flush := by
  cases s <;> cases trailing <;> simp [finish, eq_comm]

/-! ### Refusals -/

/-- A character is refused with a fault of that character in the state that it stands in. -/
theorem of_step_eq_error {s : State} {c : Char} {fault : Fault}
    (refused : step s c = .error fault) : fault.state = s ∧ fault.found = some c := by
  cases s <;> simp only [step] at refused <;> repeat' split at refused
  all_goals cases refused <;> exact ⟨rfl, rfl⟩

/-- The end is refused with a fault of the state that the input ends in, without a character, and
    after text only where text may not come last. -/
theorem of_finish_eq_error {trailing : TrailingText} {s : State} {fault : Fault}
    (refused : finish trailing s = .error fault) :
    fault.state = s ∧ fault.found = none ∧ (s = .inText → trailing = .reject) := by
  cases s <;> cases trailing <;> cases refused <;> simp [Fault.state, Fault.found]

/-- Only at the start the fault is that the input does not begin with a tag. -/
theorem invalidStart_iff_of_step {s : State} {c : Char} {fault : Fault}
    (refused : step s c = .error fault) : (∃ found, fault = .invalidStart found) ↔ s = .start := by
  cases s <;> simp only [step] at refused <;> repeat' split at refused
  all_goals cases refused <;> simp

theorem invalidStart_iff_of_finish {trailing : TrailingText} {s : State} {fault : Fault}
    (refused : finish trailing s = .error fault) :
    (∃ found, fault = .invalidStart found) ↔ s = .start := by
  cases s <;> cases trailing <;> cases refused <;> simp

end MarkupLexer
