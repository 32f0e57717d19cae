import MarkupLexer.Document
import MarkupLexer.Proofs.Collecting

/-!
# The contents of what was read

In every state the contents of the complete tokens are those of a document that is cut off where the
state says: `Begun`. Where the input may end, nothing is cut off, so the tokens of an accepted input
have the contents of a well-formed document.
-/

namespace MarkupLexer

/-! ### Documents in parts -/

/-- The contents of a tag up to its name. -/
def Segment.headContents (slashes : Nat) : List (Kind × String) :=
  (.tagOpen, "<") :: List.replicate slashes (.slash, "/")

/-- The contents of a tag up to its end. -/
def Segment.tagContents (s : Segment) : List (Kind × String) :=
  headContents s.slashes ++ (.identifier, s.name) :: s.attributes.flatMap (·.contents)

/-- The contents of a text: it is a token unless it is empty. -/
def Segment.textContents (text : String) : List (Kind × String) :=
  if text = "" then [] else [(.text, text)]

namespace Segment

theorem contents_eq (s : Segment) :
    s.contents = s.tagContents ++ (.tagClose, ">") :: textContents s.text := by
  simp [contents, tagContents, headContents, textContents]

theorem headContents_succ (slashes : Nat) :
    headContents (slashes + 1) = headContents slashes ++ [(.slash, "/")] := by
  simp [headContents, List.replicate_succ']

theorem tagContents_add (s : Segment) (a : Attribute) :
    { s with attributes := s.attributes ++ [a] }.tagContents = s.tagContents ++ a.contents := by
  simp [tagContents]

theorem WellFormed.with_text {s : Segment} (wellFormed : s.WellFormed) {text : String}
    (allowed : '<' ∉ text.toList) : { s with text }.WellFormed :=
  ⟨wellFormed.name, wellFormed.attributes, allowed⟩

theorem WellFormed.add {s : Segment} (wellFormed : s.WellFormed) {a : Attribute}
    (added : a.WellFormed) : { s with attributes := s.attributes ++ [a] }.WellFormed := by
  refine ⟨wellFormed.name, ?_, wellFormed.text⟩
  intro b member
  rcases List.mem_append.mp member with earlier | last
  · exact wellFormed.attributes b earlier
  · rw [List.mem_singleton.mp last]
    exact added

end Segment

namespace Document

/-- Segments that are each well-formed; there may be none. -/
def Allowed (d : Document) : Prop := ∀ s ∈ d, s.WellFormed

theorem allowed_nil : Allowed [] := by simp [Allowed]

theorem Allowed.add {d : Document} {s : Segment} (allowed : d.Allowed) (wellFormed : s.WellFormed) :
    Allowed (d ++ [s]) := by
  intro t member
  rcases List.mem_append.mp member with earlier | last
  · exact allowed t earlier
  · rw [List.mem_singleton.mp last]
    exact wellFormed

theorem contents_add (d : Document) (s : Segment) :
    contents (d ++ [s]) = d.contents ++ s.contents := by
  simp [contents]

theorem endsInText_add (d : Document) (s : Segment) :
    endsInText (d ++ [s]) = decide (s.text ≠ "") := by
  simp [endsInText]

/-- A document ends in text when the last of its tokens is one. -/
theorem endsInText_iff {d : Document} :
    d.endsInText = true ↔ ∃ value, d.contents.getLast? = some (.text, value) := by
  rcases List.eq_nil_or_concat d with rfl | ⟨earlier, s, rfl⟩
  · simp [endsInText, contents]
  · rw [List.concat_eq_append, endsInText_add, contents_add, Segment.contents_eq]
    by_cases empty : s.text = "" <;> simp [Segment.textContents, empty]

end Document

/-! ### Documents that are cut off -/

open Segment (headContents)

/-- A well-formed tag that no text follows. -/
structure Segment.Bare (s : Segment) : Prop where
  wellFormed : s.WellFormed
  text : s.text = ""

/-- The contents of the complete tokens in a state: those of a document up to some place in a tag,
    or up to the text after one. -/
def Begun (l : List (Kind × String)) : State → Prop
  | .start => l = []
  | .afterOpen | .inIdentifier =>
    ∃ (d : Document) (slashes : Nat), d.Allowed ∧ l = d.contents ++ headContents slashes
  | .awaitingAttribute | .inAttributeName | .afterAttributeValue =>
    ∃ (d : Document) (s : Segment), d.Allowed ∧ s.Bare ∧ l = d.contents ++ s.tagContents
  | .awaitingAttributeValue | .inStringValue | .inExpressionValue =>
    ∃ (d : Document) (s : Segment) (name : String), d.Allowed ∧ s.Bare ∧ IsName name ∧
      l = d.contents ++ s.tagContents ++ [(.attributeName, name)]
  | .afterTagClose | .inText =>
    ∃ (d : Document) (s : Segment), d.Allowed ∧ s.Bare ∧
      l = d.contents ++ s.tagContents ++ [(.tagClose, ">")]

/-- A new tag begins where a document ends. -/
theorem Begun.next_tag {d : Document} (allowed : d.Allowed) :
    Begun (d.contents ++ [(.tagOpen, "<")]) .afterOpen :=
  ⟨d, 0, allowed, rfl⟩

theorem Begun.slash {l : List (Kind × String)} (begun : Begun l .afterOpen) :
    Begun (l ++ [(.slash, "/")]) .afterOpen := by
  obtain ⟨d, slashes, allowed, rfl⟩ := begun
  exact ⟨d, slashes + 1, allowed, by rw [Segment.headContents_succ, List.append_assoc]⟩

theorem Begun.identifier {l : List (Kind × String)} {name : String} (begun : Begun l .inIdentifier)
    (isName : IsName name) : Begun (l ++ [(.identifier, name)]) .awaitingAttribute := by
  obtain ⟨d, slashes, allowed, rfl⟩ := begun
  refine ⟨d, { slashes, name }, allowed, ⟨⟨isName, by simp, by simp⟩, rfl⟩, ?_⟩
  simp [Segment.tagContents]

theorem Begun.tagClose {l : List (Kind × String)} (begun : Begun l .awaitingAttribute) :
    Begun (l ++ [(.tagClose, ">")]) .afterTagClose := by
  obtain ⟨d, s, allowed, bare, rfl⟩ := begun
  exact ⟨d, s, allowed, bare, rfl⟩

theorem Begun.attributeName {l : List (Kind × String)} {name : String}
    (begun : Begun l .inAttributeName) (isName : IsName name) :
    Begun (l ++ [(.attributeName, name)]) .awaitingAttributeValue := by
  obtain ⟨d, s, allowed, bare, rfl⟩ := begun
  exact ⟨d, s, name, allowed, bare, isName, rfl⟩

theorem Begun.attributeValue {l : List (Kind × String)} {value : String} (enclosure : Enclosure)
    (begun : Begun l .awaitingAttributeValue) (chars : ∀ c ∈ value.toList, NameChar c) :
    Begun (l ++ [(enclosure.kind, value)]) .afterAttributeValue := by
  obtain ⟨d, s, name, allowed, bare, isName, rfl⟩ := begun
  let a : Attribute := { name, enclosure, value }
  have wellFormed : a.WellFormed := ⟨isName, chars⟩
  refine ⟨d, { s with attributes := s.attributes ++ [a] }, allowed,
    ⟨bare.wellFormed.add wellFormed, bare.text⟩, ?_⟩
  rw [Segment.tagContents_add]
  simp [Attribute.contents, a]

/-- Without text, a tag that is closed ends a document. -/
theorem Begun.document {l : List (Kind × String)} (begun : Begun l .afterTagClose) :
    ∃ d : Document, d.WellFormed ∧ d.contents = l ∧ d.endsInText = false := by
  obtain ⟨d, s, allowed, bare, rfl⟩ := begun
  refine ⟨d ++ [s], ⟨by simp, allowed.add bare.wellFormed⟩, ?_, ?_⟩
  · simp [Document.contents_add, Segment.contents_eq, Segment.textContents, bare.text]
  · simp [Document.endsInText_add, bare.text]

theorem Begun.document_with_text {l : List (Kind × String)} {text : String}
    (begun : Begun l .inText) (nonempty : text ≠ "") (other : '<' ∉ text.toList) :
    ∃ d : Document, d.WellFormed ∧ d.contents = l ++ [(.text, text)] := by
  obtain ⟨d, s, allowed, bare, rfl⟩ := begun
  refine ⟨d ++ [{ s with text }], ⟨by simp, allowed.add (bare.wellFormed.with_text other)⟩, ?_⟩
  simp [Document.contents_add, Segment.contents_eq, Segment.textContents, nonempty,
    Segment.tagContents]

/-! ### Readings -/

/-- A move completes the tokens that the document goes on with. -/
theorem Begun.after {l : List (Kind × String)} {k : Reading} {c : Char} {next : State}
    {action : Action} (begun : Begun l k.state) (sound : k.Sound)
    (moved : Moves k.state c next action) :
    Begun (l ++ (k.emitted c action).map Token.content) next := by
  obtain ⟨s, offset, current⟩ := k
  cases moved with
  | beginsIdentifier _ | extendsIdentifier _ | beginsAttributeName _ | extendsAttributeName _
  | opensString | extendsString _ | opensExpression | extendsExpression _ | separates
  | beginsText _ | extendsText _ =>
    -- Nothing is complete, and the two states cut a document off at the same place.
    change Begun (l ++ []) _
    rw [List.append_nil]
    exact begun
  | enters =>
    obtain rfl : l = [] := begun
    exact next_tag Document.allowed_nil
  | slashes => exact begun.slash
  | endsIdentifier =>
    obtain ⟨a, rfl, kind, isName, _⟩ := sound.exists_current rfl
    simpa [Reading.emitted, Action.apply, Accumulator.token, Token.content, kind]
      using begun.identifier isName
  | closesAfterIdentifier =>
    obtain ⟨a, rfl, kind, isName, _⟩ := sound.exists_current rfl
    simpa [Reading.emitted, Action.apply, Accumulator.token, Token.content, Token.structural, kind]
      using (begun.identifier isName).tagClose
  | endsAttributeName =>
    obtain ⟨a, rfl, kind, isName, _⟩ := sound.exists_current rfl
    simpa [Reading.emitted, Action.apply, Accumulator.token, Token.content, kind]
      using begun.attributeName isName
  | endsString =>
    obtain ⟨a, rfl, kind, chars, _⟩ := sound.exists_current rfl
    simpa [Reading.emitted, Action.apply, Accumulator.token, Token.content, kind, Enclosure.kind]
      using begun.attributeValue .quotes chars
  | endsExpression =>
    obtain ⟨a, rfl, kind, chars, _⟩ := sound.exists_current rfl
    simpa [Reading.emitted, Action.apply, Accumulator.token, Token.content, kind, Enclosure.kind]
      using begun.attributeValue .braces chars
  | closesAfterValue => exact begun.tagClose
  | opensNext =>
    obtain ⟨d, wellFormed, rfl, _⟩ := begun.document
    exact next_tag wellFormed.segments
  | endsText =>
    obtain ⟨a, rfl, kind, ⟨nonempty, other⟩, _⟩ := sound.exists_current rfl
    obtain ⟨d, wellFormed, contents⟩ := begun.document_with_text nonempty other
    have tag := next_tag wellFormed.segments
    rw [contents] at tag
    simpa [Reading.emitted, Action.apply, Accumulator.token, Token.content, Token.structural, kind]
      using tag

theorem Run.begun {k : Reading} {cs : List Char} {ts : List Token} (run : Run {} cs ts k) :
    Begun (ts.map Token.content) k.state := by
  refine run.invariant_of_sound (P := fun _ ts k => Begun (ts.map Token.content) k.state)
    Reading.sound_start rfl ?_
  intro cs ts k c next action sound begun moved
  rw [List.map_append]
  exact begun.after sound moved

/-- The tokens of an accepted input have the contents of a well-formed document. -/
theorem exists_document_of_scan {source : String} {trailing : TrailingText} {tokens : List Token}
    (scanned : scan source trailing = (tokens, none)) :
    ∃ d : Document, d.WellFormed ∧ d.contents = tokens.map Token.content ∧
      (trailing = .reject → d.endsInText = false) := by
  obtain ⟨ts, k, ending, run, ended, rfl⟩ := scan_eq_ok_iff_run.mp scanned
  have begun := run.begun
  rcases finish_eq_ok_iff.mp ended with ⟨state, rfl⟩ | ⟨state, accepts, rfl⟩
  · rw [state] at begun
    obtain ⟨d, wellFormed, contents, last⟩ := begun.document
    exact ⟨d, wellFormed, by simp [contents, Reading.emittedAtEnd], fun _ => last⟩
  · have collecting : k.state.collects = some .text := by rw [state]; rfl
    obtain ⟨a, collected, kind, ⟨nonempty, other⟩, -⟩ :=
      (run.sound Reading.sound_start).exists_current collecting
    rw [state] at begun
    obtain ⟨d, wellFormed, contents⟩ := begun.document_with_text nonempty other
    refine ⟨d, wellFormed, ?_, fun rejects => ?_⟩
    · simp [contents, Reading.emittedAtEnd, collected, Accumulator.token, Token.content, kind]
    · rw [accepts] at rejects
      contradiction

end MarkupLexer
