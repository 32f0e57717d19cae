import MarkupLexer.Proofs.Listing

/-!
# Lines of a listing

Each row of a listing ends with a line feed, so the lines of the listing are those of its rows, one
row after the other. A row is one line unless its token is a text with line feeds, and those are the
line feeds of the input: a listing has a line for each token just if the input has none, and a line
more for every one that it has.
-/

namespace MarkupLexer

/-! ### Rows -/

theorem toList_listingLine (index : Nat) (t : Token) :
    (listingLine index t).toList =
      ((lineLabel index).toList ++ (t.kind.name.toList ++ ':' :: t.value.toList)) ++ ['\n'] := by
  simp [listingLine, lineLabel]

theorem not_mem_lineLabel (index : Nat) : '\n' ∉ (lineLabel index).toList := by
  have digits := not_mem_toString_nat (c := '\n') rfl index
  simpa [lineLabel] using digits

theorem wholeLines_listingLine (index : Nat) (t : Token) :
    WholeLines (listingLine index t).toList := by
  rw [toList_listingLine]
  exact .concat _

/-- A row is one line if the value of its token has no line feed. -/
theorem isRow_listingLine_iff {index : Nat} {t : Token} :
    IsRow (listingLine index t) ↔ '\n' ∉ t.value.toList := by
  have label := not_mem_lineLabel index
  have name := t.kind.not_mem_name (c := '\n') rfl
  unfold IsRow
  rw [toList_listingLine]
  constructor
  · rintro ⟨line, unbroken, row⟩
    rw [← List.append_cancel_right row] at unbroken
    simp_all
  · intro clean
    exact ⟨_, by simp [label, name, clean], rfl⟩

/-- A row has the line feeds that its token has in print, and one more. -/
theorem count_listingLine (index : Nat) (t : Token) :
    (listingLine index t).toList.count '\n' = t.source.toList.count '\n' + 1 := by
  have label := List.count_eq_zero_of_not_mem (not_mem_lineLabel index)
  have name := List.count_eq_zero_of_not_mem (t.kind.not_mem_name (c := '\n') rfl)
  have opening : t.kind.opening.toList.count '\n' = 0 := by cases t.kind <;> decide
  have closing : t.kind.closing.toList.count '\n' = 0 := by cases t.kind <;> decide
  rw [toList_listingLine]
  simp [Token.source, label, name, opening, closing]

/-! ### Listings -/

theorem listingFrom_cons (index : Nat) (t : Token) (ts : List Token) :
    listingFrom index (t :: ts) = listingLine index t ++ listingFrom (index + 1) ts := by
  rw [listingFrom, List.zipIdx_cons, List.map_cons, String.join_cons, listingFrom]

/-- Rows have the line feeds that their tokens have in print, and one more for each token. -/
theorem count_listingFrom (index : Nat) (ts : List Token) :
    (listingFrom index ts).toList.count '\n' = ts.length + (toSource ts).toList.count '\n' := by
  induction ts generalizing index with
  | nil => rfl
  | cons t ts ih =>
    rw [listingFrom_cons, toSource_cons, String.toList_append, String.toList_append,
      List.count_append, List.count_append, count_listingLine, ih, List.length_cons]
    omega

theorem wholeLines_listingFrom (index : Nat) (ts : List Token) :
    WholeLines (listingFrom index ts).toList := by
  induction ts generalizing index with
  | nil => exact .empty
  | cons t ts ih =>
    rw [listingFrom_cons, String.toList_append]
    exact (wholeLines_listingLine index t).append (ih (index + 1))

/-- The first row of a listing of that many tokens. -/
def countLine (n : Nat) : String := "TOKENS_COUNT:" ++ toString n ++ "\n"

theorem isRow_countLine (n : Nat) : IsRow (countLine n) := by
  have digits := not_mem_toString_nat (c := '\n') rfl n
  refine ⟨"TOKENS_COUNT:".toList ++ (toString n).toList, ?_, by simp [countLine]⟩
  rw [List.mem_append, not_or]
  exact ⟨by decide, digits⟩

theorem toList_toListing (ts : List Token) :
    (toListing ts).toList = (countLine ts.length).toList ++ (listingFrom 0 ts).toList := by
  rw [toListing_eq, String.toList_append, countLine]

theorem wholeLines_toListing (ts : List Token) : WholeLines (toListing ts).toList := by
  rw [toList_toListing]
  exact (isRow_countLine _).wholeLines.append (wholeLines_listingFrom 0 ts)

/-- The lines of a listing are those of its rows. -/
theorem splitLines_toListing (ts : List Token) :
    splitLines (toListing ts).toList =
      (countLine ts.length).toList ::
        ts.zipIdx.flatMap fun (t, i) => splitLines (listingLine i t).toList := by
  rw [toList_toListing, (isRow_countLine _).wholeLines.split_append,
    (isRow_countLine _).splitLines_eq, listingFrom, splitLines_join, List.flatMap_map]
  · rfl
  · intro row member
    obtain ⟨⟨t, i⟩, -, rfl⟩ := List.mem_map.mp member
    exact wholeLines_listingLine i t

/-- There is a line for the count and one for each token, and one for each line feed that the tokens
    have in print. -/
theorem length_splitLines_toListing (ts : List Token) :
    (splitLines (toListing ts).toList).length =
      ts.length + 1 + (toSource ts).toList.count '\n' := by
  have first := (isRow_countLine ts.length).wholeLines.length_splitLines
  rw [(isRow_countLine _).splitLines_eq] at first
  rw [(wholeLines_toListing ts).length_splitLines, toList_toListing, List.count_append, ← first,
    count_listingFrom, List.length_singleton]
  omega

/-- A listing in which the count has the first line and each token the one line of its index. -/
def ListedByLine (ts : List Token) : Prop :=
  splitLines (toListing ts).toList =
    ("TOKENS_COUNT:" ++ toString ts.length ++ "\n").toList :: ts.zipIdx.map fun (t, i) =>
      ("TOKEN_" ++ toString i ++ ":" ++ t.kind.name ++ ":" ++ t.value ++ "\n").toList

theorem mem_toSource {c : Char} {t : Token} {ts : List Token} (member : t ∈ ts)
    (held : c ∈ t.value.toList) : c ∈ (toSource ts).toList := by
  obtain ⟨before, after, rfl⟩ := List.append_of_mem member
  simp [Token.source, held]

/-- The tokens of a listing have a line each just if no line feed is in print. -/
theorem listedByLine_iff {ts : List Token} :
    ListedByLine ts ↔ '\n' ∉ (toSource ts).toList := by
  constructor
  · intro listed
    have lines := length_splitLines_toListing ts
    rw [listed] at lines
    simp only [List.length_cons, List.length_map, List.length_zipIdx] at lines
    rw [← List.count_eq_zero]
    omega
  · intro clean
    have row (t : Token) (member : t ∈ ts) (i : Nat) : IsRow (listingLine i t) :=
      isRow_listingLine_iff.mpr fun held => clean (mem_toSource member held)
    rw [ListedByLine, splitLines_toListing, ← List.flatMap_pure_eq_map]
    refine congrArg _ (List.flatMap_congr ?_)
    rintro ⟨t, i⟩ member
    exact (row t (List.fst_mem_of_mem_zipIdx member) i).splitLines_eq

/-- The lines of the listing of an accepted input are those of its rows, which are one line each but
    for texts with line feeds: there are as many more lines than rows as the input has line feeds,
    and only if it has none is the listing one line for each token. -/
theorem listing_lines_of_tokenize {source : String} {trailing : TrailingText}
    {tokens : List Token} (accepted : tokenize source trailing = .ok tokens) :
    splitLines (toListing tokens).toList =
        (countLine tokens.length).toList ::
          tokens.zipIdx.flatMap (fun (t, i) => splitLines (listingLine i t).toList) ∧
      (∀ line ∈ splitLines (toListing tokens).toList, IsRow (String.ofList line)) ∧
      (splitLines (toListing tokens).toList).length =
        tokens.length + 1 + source.toList.count '\n' ∧
      (∀ t ∈ tokens, ∀ i, IsRow (listingLine i t) ∨ t.kind = .text ∧ '\n' ∈ t.value.toList) ∧
      (ListedByLine tokens ↔ '\n' ∉ source.toList) := by
  have printed : toSource tokens = source := toSource_of_scan (tokenize_eq_ok_iff.mp accepted)
  refine ⟨splitLines_toListing tokens, fun line => (wholeLines_toListing tokens).isRow_of_mem, ?_,
    fun t member i => ?_, ?_⟩
  · rw [length_splitLines_toListing, printed]
  · by_cases broken : '\n' ∈ t.value.toList
    · have admits := (listable_of_tokenize accepted).admits t member
      refine .inr ⟨?_, broken⟩
      by_contra other
      exact admits.unbroken other broken
    · exact .inl (isRow_listingLine_iff.mpr broken)
  · rw [listedByLine_iff, printed]

/-- A text of two lines before a tag and one without a line feed. -/
theorem listing_lines_of_tokenize_break :
    ∃ tokens tokens', tokenize "<a>é\nb<c>" = .ok tokens ∧ tokens.length = 7 ∧
      (splitLines (toListing tokens).toList).length = 7 + 1 + 1 ∧ ¬ ListedByLine tokens ∧
      tokenize "<a>é" = .ok tokens' ∧ tokens'.length = 4 ∧
      (splitLines (toListing tokens').toList).length = 4 + 1 + 0 ∧ ListedByLine tokens' := by
  have accepted : tokenize "<a>é\nb<c>" =
      .ok [⟨.tagOpen, "<", ⟨0, 1⟩⟩, ⟨.identifier, "a", ⟨1, 2⟩⟩, ⟨.tagClose, ">", ⟨2, 3⟩⟩,
        ⟨.text, "é\nb", ⟨3, 7⟩⟩, ⟨.tagOpen, "<", ⟨7, 8⟩⟩, ⟨.identifier, "c", ⟨8, 9⟩⟩,
        ⟨.tagClose, ">", ⟨9, 10⟩⟩] := tokenize_eq_ok_iff.mpr (by decide)
  have accepted' : tokenize "<a>é" =
      .ok [⟨.tagOpen, "<", ⟨0, 1⟩⟩, ⟨.identifier, "a", ⟨1, 2⟩⟩, ⟨.tagClose, ">", ⟨2, 3⟩⟩,
        ⟨.text, "é", ⟨3, 5⟩⟩] := tokenize_eq_ok_iff.mpr (by decide)
  obtain ⟨_, _, lines, _, listed⟩ := listing_lines_of_tokenize accepted
  obtain ⟨_, _, lines', _, listed'⟩ := listing_lines_of_tokenize accepted'
  exact ⟨_, _, accepted, rfl, lines, fun all => listed.mp all (by decide), accepted', rfl, lines',
    listed'.mpr (by decide)⟩

/-- The listing of a text that is a line feed has a line that belongs to no token. -/
theorem not_listedByLine_of_line_feed :
    ¬ ∀ (source : String) (tokens : List Token), tokenize source = .ok tokens →
      ListedByLine tokens := by
  intro listed
  have accepted : tokenize "<a>\n" =
      .ok [⟨.tagOpen, "<", ⟨0, 1⟩⟩, ⟨.identifier, "a", ⟨1, 2⟩⟩, ⟨.tagClose, ">", ⟨2, 3⟩⟩,
        ⟨.text, "\n", ⟨3, 4⟩⟩] := tokenize_eq_ok_iff.mpr (by decide)
  exact listedByLine_iff.mp (listed _ _ accepted) (by decide)

end MarkupLexer
