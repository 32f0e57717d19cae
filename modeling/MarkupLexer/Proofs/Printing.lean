import MarkupLexer.Render
import MarkupLexer.Proofs.Collecting

/-!
# Printing what was read

Separators and delimiters are in no token, and the printer puts them back by the kinds alone. What
was read is at every moment the print of the complete tokens followed by what the reading still
holds: the part of a value that is there so far, with what stands before it, or the space that an
attribute has to follow. Where the input may end nothing is held after the last token.
-/

namespace MarkupLexer

@[simp]
theorem toSource_nil : toSource [] = "" := rfl

@[simp]
theorem toSource_cons (t : Token) (ts : List Token) :
    toSource (t :: ts) = t.source ++ toSource ts := by
  simp [toSource, String.join_cons]

@[simp]
theorem toSource_append (ts us : List Token) :
    toSource (ts ++ us) = toSource ts ++ toSource us := by
  simp [toSource, String.join_append]

/-- A value with the separators and delimiters that belong to its kind. -/
def printContent (content : Kind × String) : String :=
  content.1.opening ++ content.2 ++ content.1.closing

/-- Spans do not show in print. -/
theorem toSource_eq_join (ts : List Token) :
    toSource ts = String.join ((ts.map Token.content).map printContent) := by
  rw [List.map_map]
  rfl

namespace Reading

/-- What was read after the last complete token. -/
def held (k : Reading) : String :=
  match k.current with
  | some a => a.kind.opening ++ a.value
  | none => if k.state = .awaitingAttribute then " " else ""

variable {k : Reading} {c : Char} {next : State} {action : Action}

/-- A character goes into a complete token or is held. -/
theorem Sound.toSource_emitted (sound : k.Sound) (moved : Moves k.state c next action) :
    toSource (k.emitted c action) ++ (k.after c next action).held =
      k.held ++ String.singleton c := by
  obtain ⟨s, offset, current⟩ := k
  rw [← String.toList_inj]
  cases moved with
  | enters | slashes | beginsIdentifier _ | beginsAttributeName _ | opensString | opensExpression
  | separates | closesAfterValue | opensNext | beginsText _ =>
    obtain rfl : current = none := sound.current_eq_none rfl
    simp [held, emitted, Reading.after, Action.apply, Token.structural, Token.source, Kind.opening,
      Kind.closing]
  | extendsIdentifier _ | extendsAttributeName _ | extendsString _ | extendsExpression _
  | extendsText _ =>
    obtain ⟨a, rfl, kind, _⟩ := sound.exists_current rfl
    simp [held, emitted, Reading.after, Action.apply, Accumulator.push]
  | endsIdentifier | closesAfterIdentifier | endsAttributeName | endsString | endsExpression
  | endsText =>
    obtain ⟨a, rfl, kind, _⟩ := sound.exists_current rfl
    simp [held, emitted, Reading.after, Action.apply, Accumulator.token, Token.structural,
      Token.source, kind, Kind.opening, Kind.closing]

/-- The end of the input leaves nothing that is held. -/
theorem Sound.toSource_emittedAtEnd {trailing : TrailingText} {ending : EndAction}
    (sound : k.Sound) (ended : finish trailing k.state = .ok ending) :
    toSource (k.emittedAtEnd ending) = k.held := by
  rcases finish_eq_ok_iff.mp ended with ⟨state, rfl⟩ | ⟨state, -, rfl⟩
  · have empty : k.current = none := sound.current_eq_none (by rw [state]; rfl)
    simp [emittedAtEnd, held, empty, state]
  · have collecting : k.state.collects = some .text := by rw [state]; rfl
    obtain ⟨a, collected, kind, -⟩ := sound.exists_current collecting
    simp [emittedAtEnd, held, collected, Accumulator.token, Token.source, kind, Kind.closing]

end Reading

/-- After any run, the print of its tokens and what is held are what was read. -/
theorem Run.toSource_append_held {k k' : Reading} {cs : List Char} {ts : List Token}
    (run : Run k cs ts k') (sound : k.Sound) :
    toSource ts ++ k'.held = k.held ++ String.ofList cs := by
  let Printed (cs : List Char) (ts : List Token) (k' : Reading) : Prop :=
    toSource ts ++ k'.held = k.held ++ String.ofList cs
  refine run.invariant_of_sound (P := Printed) sound (by simp [Printed]) ?_
  intro cs ts k₁ c next action sound printed moved
  calc toSource (ts ++ k₁.emitted c action) ++ (k₁.after c next action).held
      = toSource ts ++ (k₁.held ++ String.singleton c) := by
        rw [toSource_append, String.append_assoc, sound.toSource_emitted moved]
    _ = k.held ++ String.ofList (cs ++ [c]) := by
        rw [← String.append_assoc, printed, String.append_assoc, String.ofList_append,
          String.singleton_eq_ofList]

theorem toSource_of_scan {source : String} {trailing : TrailingText} {tokens : List Token}
    (scanned : scan source trailing = (tokens, none)) : toSource tokens = source := by
  obtain ⟨ts, k, ending, run, ended, rfl⟩ := scan_eq_ok_iff_run.mp scanned
  have sound : k.Sound := run.sound Reading.sound_start
  have printed := run.toSource_append_held Reading.sound_start
  rw [toSource_append, sound.toSource_emittedAtEnd ended, printed, String.ofList_toList]
  rfl

/-- Printing the tokens of an input gives back the input, character for character. -/
theorem toSource_tokenize {source : String} {trailing : TrailingText} {tokens : List Token}
    (accepted : tokenize source trailing = .ok tokens) : toSource tokens = source :=
  toSource_of_scan (tokenize_eq_ok_iff.mp accepted)

theorem toSource_tokenize_attributes :
    ∃ tokens, tokenize "<a b=\"\" c=\x7bd\x7d>é=" = .ok tokens ∧ tokens.length = 8 ∧
      toSource tokens = "<a b=\"\" c=\x7bd\x7d>é=" := by
  have accepted : tokenize "<a b=\"\" c=\x7bd\x7d>é=" =
      .ok [⟨.tagOpen, "<", ⟨0, 1⟩⟩, ⟨.identifier, "a", ⟨1, 2⟩⟩, ⟨.attributeName, "b", ⟨3, 4⟩⟩,
        ⟨.attributeStringValue, "", ⟨6, 6⟩⟩, ⟨.attributeName, "c", ⟨8, 9⟩⟩,
        ⟨.attributeExpressionValue, "d", ⟨11, 12⟩⟩, ⟨.tagClose, ">", ⟨13, 14⟩⟩,
        ⟨.text, "é=", ⟨14, 17⟩⟩] :=
    tokenize_eq_ok_iff.mpr (by decide)
  exact ⟨_, accepted, rfl, toSource_tokenize accepted⟩

end MarkupLexer
