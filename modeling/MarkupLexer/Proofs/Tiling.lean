import MarkupLexer.Tiling
import MarkupLexer.Proofs.Printing
import MarkupLexer.Proofs.Contents

/-!
# Spans tile the input

Printing tokens gives the input back, so spans can be said of the print: a span is placed where the
value of its token stands there, and every move keeps to this. Between two values stands what closes
the one and opens the other. In the contents of a document neighbours are only of kinds for which
that is the gap that the kinds call for, so the spans and gaps of an accepted input tile it.
-/

namespace MarkupLexer

/-! ### Places in print -/

/-- Spans that say where the values stand when the tokens are printed from an offset on. -/
def Placed : Nat → List Token → Prop
  | _, [] => True
  | offset, t :: ts =>
    t.span.start = offset + t.kind.opening.utf8ByteSize ∧
      t.span.stop = t.span.start + t.value.utf8ByteSize ∧
      Placed (offset + t.source.utf8ByteSize) ts

theorem placed_append {offset : Nat} {ts us : List Token} :
    Placed offset (ts ++ us) ↔
      Placed offset ts ∧ Placed (offset + (toSource ts).utf8ByteSize) us := by
  induction ts generalizing offset with
  | nil => simp [Placed]
  | cons t ts ih => simp [Placed, ih, String.utf8ByteSize_append, Nat.add_assoc, and_assoc]

theorem placed_structural {kind : Kind} {c : Char} {offset : Nat} (opening : kind.opening = "") :
    Placed offset [.structural kind c offset] := by
  simp [Placed, Token.structural, opening]

namespace Reading

/-- A reading stands after the tokens that are printed up to an offset and after what it holds. -/
def StandsAfter (k : Reading) (offset : Nat) : Prop := k.offset = offset + k.held.utf8ByteSize

variable {k : Reading} {c : Char} {next : State} {action : Action} {offset : Nat}

theorem StandsAfter.placed_token {a : Accumulator} (here : k.StandsAfter offset)
    (held : k.current = some a) (stop : a.stop = k.offset) : Placed offset [a.token] := by
  simp only [StandsAfter, Reading.held, held, String.utf8ByteSize_append] at here
  simp only [Accumulator.stop] at stop
  refine ⟨?_, rfl, trivial⟩
  simp only [Accumulator.token]
  omega

theorem Sound.placed_emitted (sound : k.Sound) (here : k.StandsAfter offset)
    (moved : Moves k.state c next action) : Placed offset (k.emitted c action) := by
  obtain ⟨s, o, current⟩ := k
  cases moved with
  | beginsIdentifier _ | extendsIdentifier _ | beginsAttributeName _ | extendsAttributeName _
  | opensString | extendsString _ | opensExpression | extendsExpression _ | separates
  | beginsText _ | extendsText _ => trivial
  | enters | slashes | closesAfterValue | opensNext =>
    obtain rfl : current = none := sound.current_eq_none rfl
    obtain rfl : o = offset := by simpa [StandsAfter, held] using here
    exact placed_structural rfl
  | endsIdentifier | endsAttributeName | endsString | endsExpression =>
    obtain ⟨a, rfl, _, _, stop⟩ := sound.exists_current rfl
    exact here.placed_token rfl stop
  | closesAfterIdentifier | endsText =>
    obtain ⟨a, rfl, kind, _, stop⟩ := sound.exists_current rfl
    refine placed_append.mpr ⟨here.placed_token rfl stop, ?_⟩
    -- Nothing closes the value, so the structural token stands where it ends.
    obtain rfl : o = offset + (toSource [a.token]).utf8ByteSize := by
      simpa [StandsAfter, held, Accumulator.token, Token.source, kind, Kind.closing] using here
    exact placed_structural rfl

theorem Sound.standsAfter_after (sound : k.Sound) (here : k.StandsAfter offset)
    (moved : Moves k.state c next action) :
    (k.after c next action).StandsAfter
      (offset + (toSource (k.emitted c action)).utf8ByteSize) := by
  have sizes := congrArg String.utf8ByteSize (sound.toSource_emitted moved)
  simp only [String.utf8ByteSize_append, String.utf8ByteSize_singleton] at sizes
  unfold StandsAfter at here ⊢
  change k.offset + c.utf8Size = _
  omega

theorem Sound.placed_emittedAtEnd (sound : k.Sound) (here : k.StandsAfter offset)
    (ending : EndAction) : Placed offset (k.emittedAtEnd ending) := by
  cases ending with
  | done => trivial
  | flush =>
    cases collected : k.current with
    | none => simp [emittedAtEnd, collected, Placed]
    | some a =>
      simpa [emittedAtEnd, collected] using here.placed_token collected (sound.stop a collected)

end Reading

/-- After any run the tokens are placed, and the reading stands after them. -/
theorem Run.placed {k : Reading} {cs : List Char} {ts : List Token} (run : Run {} cs ts k) :
    Placed 0 ts ∧ k.StandsAfter (toSource ts).utf8ByteSize := by
  let Printed (_ : List Char) (ts : List Token) (k : Reading) : Prop :=
    Placed 0 ts ∧ k.StandsAfter (toSource ts).utf8ByteSize
  -- What is printed and what is held say where the next value stands, so that is kept too.
  refine run.invariant_of_sound (P := Printed) Reading.sound_start ⟨trivial, rfl⟩ ?_
  rintro cs ts k c next action sound ⟨placed, here⟩ moved
  refine ⟨placed_append.mpr ⟨placed, ?_⟩, ?_⟩
  · rw [Nat.zero_add]
    exact sound.placed_emitted here moved
  · rw [toSource_append, String.utf8ByteSize_append]
    exact sound.standsAfter_after here moved

/-- The tokens of an input, of one with an error too, are placed. -/
theorem placed_tokenizePartial (source : String) (trailing : TrailingText) :
    Placed 0 (tokenizePartial source trailing).1 := by
  obtain ⟨cs, ts, k, ending, run, tokens⟩ := exists_run_of_tokenizePartial source trailing
  obtain ⟨placed, here⟩ := run.placed
  rw [tokens, placed_append, Nat.zero_add]
  exact ⟨placed, (run.sound Reading.sound_start).placed_emittedAtEnd here ending⟩

/-! ### Neighbours -/

/-- Contents after a value of a kind in which between any two neighbours, and after the last, there
    is in print what the kinds call for. -/
def JoinedAfter (k : Kind) : List (Kind × String) → Prop
  | [] => k.closing = ""
  | content :: rest =>
    k.gap content.1 = k.closing ++ content.1.opening ∧ JoinedAfter content.1 rest

/-- Attributes after a kind that an attribute or the end of a tag may follow. -/
theorem joined_attributes {k : Kind} {rest : List (Kind × String)} (as : List Attribute)
    (follows : k.gap .attributeName = k.closing ++ " ") (closes : k.gap .tagClose = k.closing)
    (joined : JoinedAfter .tagClose rest) :
    JoinedAfter k (as.flatMap (·.contents) ++ (.tagClose, ">") :: rest) := by
  induction as generalizing k with
  | nil => exact ⟨by simp [closes, Kind.opening], joined⟩
  | cons a as ih =>
    obtain ⟨name, enclosure, value⟩ := a
    cases enclosure with
    | quotes => exact ⟨follows, rfl, ih rfl rfl⟩
    | braces => exact ⟨follows, rfl, ih rfl rfl⟩

theorem joined_slashes {k : Kind} {name : String} {rest : List (Kind × String)} (slashes : Nat)
    (opened : k = .tagOpen ∨ k = .slash) (joined : JoinedAfter .identifier rest) :
    JoinedAfter k (List.replicate slashes (.slash, "/") ++ (.identifier, name) :: rest) := by
  induction slashes generalizing k with
  | zero =>
    rcases opened with rfl | rfl <;> exact ⟨rfl, joined⟩
  | succ slashes ih =>
    rcases opened with rfl | rfl <;> exact ⟨rfl, ih (.inr rfl)⟩

/-- A segment after the end of another, with or without text. -/
theorem joined_segment {k : Kind} {rest : List (Kind × String)} (s : Segment)
    (ended : k = .tagClose ∨ k = .text)
    (joined : ∀ l, l = .tagClose ∨ l = .text → JoinedAfter l rest) :
    JoinedAfter k (s.contents ++ rest) := by
  have text : JoinedAfter .tagClose (Segment.textContents s.text ++ rest) := by
    by_cases empty : s.text = ""
    · simpa [Segment.textContents, empty] using joined .tagClose (.inl rfl)
    · rw [Segment.textContents, if_neg empty]
      exact ⟨rfl, joined .text (.inr rfl)⟩
  have named : JoinedAfter .identifier
      (s.attributes.flatMap (·.contents) ++ (.tagClose, ">") :: _) :=
    joined_attributes s.attributes rfl rfl text
  have tag : JoinedAfter .tagOpen
      (List.replicate s.slashes (.slash, "/") ++ (.identifier, s.name) :: _) :=
    joined_slashes s.slashes (.inl rfl) named
  rw [Segment.contents_eq]
  simp only [Segment.tagContents, Segment.headContents, List.cons_append, List.append_assoc]
  rcases ended with rfl | rfl <;> exact ⟨rfl, tag⟩

theorem joined_document {k : Kind} (d : Document) (ended : k = .tagClose ∨ k = .text) :
    JoinedAfter k d.contents := by
  induction d generalizing k with
  | nil =>
    rcases ended with rfl | rfl <;> rfl
  | cons s d ih => exact joined_segment s ended fun _ => ih

/-! ### The tiling -/

theorem tilesAfter_of_joined {source before : String} {k : Kind} {ts : List Token}
    (joined : JoinedAfter k (ts.map Token.content))
    (printed : source = before ++ k.closing ++ toSource ts)
    (placed : Placed (before ++ k.closing).utf8ByteSize ts) :
    TilesAfter source k before.utf8ByteSize ts := by
  -- `before` is the input up to the end of a value, and moves on by a gap and a value.
  induction ts generalizing before k with
  | nil =>
    have closed : k.closing = "" := joined
    simp [TilesAfter, printed, closed]
  | cons t ts ih =>
    obtain ⟨gap, joined⟩ : k.gap t.kind = k.closing ++ t.kind.opening ∧
        JoinedAfter t.kind (ts.map Token.content) := joined
    obtain ⟨start, stop, placed⟩ := placed
    have opened : before ++ k.closing ++ t.kind.opening = before ++ k.gap t.kind := by
      rw [gap, String.append_assoc]
    have split : source = before ++ k.gap t.kind ++ t.value ++ t.kind.closing ++ toSource ts := by
      rw [printed, ← opened]
      simp [Token.source, String.append_assoc]
    have start_eq : t.span.start = (before ++ k.gap t.kind).utf8ByteSize := by
      rw [start, ← opened]
      exact (String.utf8ByteSize_append ..).symm
    have stop_eq : t.span.stop = (before ++ k.gap t.kind ++ t.value).utf8ByteSize := by
      rw [stop, start_eq]
      exact (String.utf8ByteSize_append ..).symm
    have later : TilesAfter source t.kind t.span.stop ts := by
      rw [stop_eq]
      refine ih joined split ?_
      rw [← opened]
      simpa [Token.source, Nat.add_assoc] using placed
    refine ⟨⟨before, t.value ++ t.kind.closing ++ toSource ts, ?_, rfl, ?_⟩,
      ⟨before ++ k.gap t.kind, t.kind.closing ++ toSource ts, ?_, start_eq, stop⟩, later⟩
    · rw [split]
      simp only [String.append_assoc]
    · rw [start_eq]
      exact String.utf8ByteSize_append ..
    · rw [split]
      simp only [String.append_assoc]

theorem tiles_of_tilesAfter {source : String} {tokens : List Token}
    (tiles : TilesAfter source .tagClose 0 tokens) : Tiles source tokens := by
  cases tokens with
  | nil =>
    have empty : 0 = source.utf8ByteSize := tiles
    exact String.utf8ByteSize_eq_zero_iff.mp empty.symm
  | cons t ts =>
    obtain ⟨⟨_, _, _, _, start⟩, holds, later⟩ := tiles
    exact ⟨start, holds, later⟩

/-- The spans of an accepted input hold the values of their tokens, and the first of them begins
    with the input, the last ends with it, and between two stands what their kinds call for. -/
theorem tiles_tokenize {source : String} {trailing : TrailingText} {tokens : List Token}
    (accepted : tokenize source trailing = .ok tokens) : tokens ≠ [] ∧ Tiles source tokens := by
  have scanned := tokenize_eq_ok_iff.mp accepted
  obtain ⟨d, _, contents, _⟩ := exists_document_of_scan scanned
  have joined : JoinedAfter .tagClose (tokens.map Token.content) := by
    rw [← contents]
    exact joined_document d (.inl rfl)
  have placed : Placed 0 tokens := by
    simpa [tokenizePartial_eq, scanned] using placed_tokenizePartial source trailing
  have printed : source = "" ++ Kind.tagClose.closing ++ toSource tokens := by
    simp [toSource_of_scan scanned, Kind.closing]
  -- An input begins as if it came after a tag: nothing stands before its first value.
  have tiles : Tiles source tokens :=
    tiles_of_tilesAfter (tilesAfter_of_joined joined printed placed)
  refine ⟨?_, tiles⟩
  rintro rfl
  obtain rfl : source = "" := tiles
  cases trailing <;> contradiction

/-- Empty values, a value in braces and characters of several bytes, with an attribute after each
    kind that one may follow. -/
theorem tiles_tokenize_attributes :
    ∃ tokens, tokenize "<a b=\"\" c=\x7bd\x7d>é</a>日" = .ok tokens ∧ tokens.length = 13 ∧
      tokens ≠ [] ∧ Tiles "<a b=\"\" c=\x7bd\x7d>é</a>日" tokens := by
  have accepted : tokenize "<a b=\"\" c=\x7bd\x7d>é</a>日" =
      .ok [⟨.tagOpen, "<", ⟨0, 1⟩⟩, ⟨.identifier, "a", ⟨1, 2⟩⟩, ⟨.attributeName, "b", ⟨3, 4⟩⟩,
        ⟨.attributeStringValue, "", ⟨6, 6⟩⟩, ⟨.attributeName, "c", ⟨8, 9⟩⟩,
        ⟨.attributeExpressionValue, "d", ⟨11, 12⟩⟩, ⟨.tagClose, ">", ⟨13, 14⟩⟩,
        ⟨.text, "é", ⟨14, 16⟩⟩, ⟨.tagOpen, "<", ⟨16, 17⟩⟩, ⟨.slash, "/", ⟨17, 18⟩⟩,
        ⟨.identifier, "a", ⟨18, 19⟩⟩, ⟨.tagClose, ">", ⟨19, 20⟩⟩, ⟨.text, "日", ⟨20, 23⟩⟩] :=
    tokenize_eq_ok_iff.mpr (by decide)
  exact ⟨_, accepted, rfl, tiles_tokenize accepted⟩

end MarkupLexer
