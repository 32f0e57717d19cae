import MarkupLexer.Proofs.Offsets

/-!
# The order of places

Further on in a source a place is on a later line, or on the same line and in a later column, but
for one exception: carriage returns that end the source are not shown, and the place of the end is
after the last character that is. Between them no place is before that of the end.
-/

namespace MarkupLexer

/-- A place on an earlier line, or in an earlier column of the same line. -/
def Location.Precedes (p q : Location) : Prop :=
  p.line < q.line ∨ p.line = q.line ∧ p.column < q.column

/-! ### Two places around a stretch of text -/

theorem lineStart_append_of_unbroken (before : List Char) {more : List Char}
    (unbroken : '\n' ∉ more) : lineStart (before ++ more) = lineStart before ++ more := by
  unfold lineStart
  induction more using List.reverseRecOn with
  | nil => simp
  | append_singleton more c ih =>
    obtain ⟨unbroken, other⟩ : '\n' ∉ more ∧ '\n' ≠ c := by simpa using unbroken
    rw [← List.append_assoc, List.rtakeWhile_concat, if_pos (by simpa using other.symm),
      ih unbroken, List.append_assoc]

theorem shown_eq_nil_iff {line : List Char} : shown line = [] ↔ ∀ c ∈ line, c = '\r' := by
  simp [shown, List.rdropWhile_eq_nil_iff]

theorem length_shown_le (line : List Char) : (shown line).length ≤ line.length :=
  (List.rdropWhile_prefix _ _).length_le

namespace Location

theorem column_between_of_ne_nil (before : List Char) {after : List Char} (more : after ≠ []) :
    (between before after).column = (lineStart before).length := by
  have some_left : after.isEmpty = false := by simpa using more
  simp only [between, some_left]
  rfl

theorem column_between_nil (before : List Char) :
    (between before []).column = (shown (lineStart before)).length := by
  simp only [between, List.takeWhile_nil, List.append_nil]
  rfl

theorem line_between_append (before passed after : List Char) :
    (between (before ++ passed) after).line =
      (between before (passed ++ after)).line + passed.count '\n' := by
  simp only [between, List.count_append]
  omega

/-- Within a line the column grows by what is passed, less what is not shown of it at the end. -/
theorem column_lt_iff_of_unbroken (before : List Char) {passed after : List Char}
    (moves : passed ≠ []) (unbroken : '\n' ∉ passed) :
    (between before (passed ++ after)).column < (between (before ++ passed) after).column ↔
      ¬ (after = [] ∧ ∀ c ∈ passed, c = '\r') := by
  have positive := List.length_pos_iff.mpr moves
  rw [column_between_of_ne_nil before (by simp [moves])]
  by_cases last : after = []
  · subst last
    rw [column_between_nil, lineStart_append_of_unbroken before unbroken, shown_append,
      ← shown_eq_nil_iff]
    by_cases returns : shown passed = []
    · simp [returns, length_shown_le]
    · simp [returns, List.length_pos_iff]
  · rw [column_between_of_ne_nil _ last, lineStart_append_of_unbroken before unbroken]
    simp [last, positive]

theorem between_precedes_iff {before passed after : List Char} (moves : passed ≠ []) :
    (between before (passed ++ after)).Precedes (between (before ++ passed) after) ↔
      ¬ (after = [] ∧ ∀ c ∈ passed, c = '\r') := by
  have lines := line_between_append before passed after
  by_cases broken : '\n' ∈ passed
  · have feeds : 0 < passed.count '\n' := List.count_pos_iff.mpr broken
    have other : ¬ ∀ c ∈ passed, c = '\r' := fun returns => absurd (returns _ broken) (by decide)
    simp only [Precedes, lines, other, and_false, not_false_eq_true, iff_true]
    omega
  · rw [List.count_eq_zero_of_not_mem broken, Nat.add_zero] at lines
    simp [Precedes, lines, column_lt_iff_of_unbroken before moves broken]

end Location

/-! ### Two offsets into a source -/

theorem byteLength_eq_zero_iff {cs : List Char} : byteLength cs = 0 ↔ cs = [] := by
  constructor
  · intro zero
    by_contra nonempty
    exact Nat.ne_of_gt (byteLength_pos nonempty) zero
  · rintro rfl
    rfl

theorem append_inj_of_byteLength {before after before' after' : List Char}
    (same : before ++ after = before' ++ after')
    (lengths : byteLength before = byteLength before') : before = before' ∧ after = after' := by
  rcases List.append_eq_append_iff.mp same with ⟨more, rfl, rfl⟩ | ⟨more, rfl, rfl⟩ <;>
    · rw [byteLength_append] at lengths
      obtain rfl : more = [] := byteLength_eq_zero_iff.mp (by omega)
      simp

/-- Two offsets between characters cut a source in three. -/
theorem exists_split_of_isValid {source : String} {p q : Nat}
    (first : String.Pos.Raw.IsValid source ⟨p⟩) (second : String.Pos.Raw.IsValid source ⟨q⟩)
    (earlier : p < q) :
    ∃ before passed after, source.toList = before ++ (passed ++ after) ∧ passed ≠ [] ∧
      byteLength before = p ∧ byteLength (before ++ passed) = q := by
  obtain ⟨before, rest, split, rfl⟩ := isValid_iff_exists_split.mp first
  obtain ⟨longer, after, split', rfl⟩ := isValid_iff_exists_split.mp second
  have same : longer.toList ++ after.toList = before.toList ++ rest.toList := by
    rw [← String.toList_append, ← String.toList_append, ← split, split']
  rw [← byteLength_toList, ← byteLength_toList] at earlier
  rcases List.append_eq_append_iff.mp same with ⟨passed, start, -⟩ | ⟨passed, start, rest⟩
  · rw [start, byteLength_append] at earlier
    omega
  · refine ⟨before.toList, passed, after.toList, ?_, ?_, byteLength_toList before, ?_⟩
    · rw [split, String.toList_append, rest]
    · rintro rfl
      rw [start, List.append_nil] at earlier
      exact Nat.lt_irrefl _ earlier
    · rw [← start, byteLength_toList]

/-- A source ends after that number of bytes, but for carriage returns. -/
def OnlyReturnsFrom (source : String) (offset : Nat) : Prop :=
  ∃ before n, source.toList = before ++ List.replicate n '\r' ∧ byteLength before = offset

theorem onlyReturnsFrom_iff {source : String} {before after : List Char}
    (split : source.toList = before ++ after) :
    OnlyReturnsFrom source (byteLength before) ↔ ∀ c ∈ after, c = '\r' := by
  constructor
  · rintro ⟨before', n, split', lengths⟩
    obtain ⟨rfl, rfl⟩ := append_inj_of_byteLength (split'.symm.trans split) lengths
    exact fun c member => List.eq_of_mem_replicate member
  · intro returns
    exact ⟨before, after.length, by rw [split, ← List.eq_replicate_of_mem returns], rfl⟩

/-- Of two offsets between characters the earlier has the place on an earlier line or in an earlier
    column of the same line, except where the later is the end of the source and only carriage
    returns are between them. -/
theorem places_in_order {source : String} {p q : Nat}
    (first : String.Pos.Raw.IsValid source ⟨p⟩) (second : String.Pos.Raw.IsValid source ⟨q⟩)
    (earlier : p < q) :
    ∃ place place', locate source p = some place ∧ locate source q = some place' ∧
      place.line ≤ place'.line ∧
      (place.Precedes place' ↔ ¬ (q = source.utf8ByteSize ∧ OnlyReturnsFrom source p)) := by
  obtain ⟨before, passed, after, split, moves, rfl, rfl⟩ :=
    exists_split_of_isValid first second earlier
  have split' : source.toList = (before ++ passed) ++ after := by rw [split, List.append_assoc]
  refine ⟨.between before (passed ++ after), .between (before ++ passed) after,
    locate_of_split split rfl, locate_of_split split' rfl, ?_, ?_⟩
  · rw [Location.line_between_append]
    exact Nat.le_add_right _ _
  · have at_end : byteLength (before ++ passed) = source.utf8ByteSize ↔ after = [] := by
      rw [← byteLength_toList, split', byteLength_append (before ++ passed),
        ← byteLength_eq_zero_iff]
      omega
    rw [Location.between_precedes_iff moves, at_end, onlyReturnsFrom_iff split]
    refine not_congr (and_congr_right ?_)
    rintro rfl
    rw [List.append_nil]

/-- Before a carriage return that is followed by another line. -/
theorem places_in_order_before_return :
    String.Pos.Raw.IsValid "é\r\nb" ⟨2⟩ ∧ String.Pos.Raw.IsValid "é\r\nb" ⟨3⟩ ∧ 2 < 3 ∧
      ∃ place place', locate "é\r\nb" 2 = some place ∧ locate "é\r\nb" 3 = some place' ∧
        place.line ≤ place'.line ∧ place.Precedes place' := by
  have first : String.Pos.Raw.IsValid "é\r\nb" ⟨2⟩ := by decide
  have second : String.Pos.Raw.IsValid "é\r\nb" ⟨3⟩ := by decide
  obtain ⟨place, place', found, found', lines, precedes⟩ :=
    places_in_order first second (by decide)
  refine ⟨first, second, by decide, place, place', found, found', lines, precedes.mpr ?_⟩
  exact fun ⟨last, _⟩ => absurd last (by decide)

/-- After a carriage return that is not shown comes the end, in an earlier column. -/
theorem not_precedes_end_after_return :
    ¬ ∀ (source : String) (p q : Nat), String.Pos.Raw.IsValid source ⟨p⟩ →
      String.Pos.Raw.IsValid source ⟨q⟩ → p < q → q ≤ source.utf8ByteSize →
      ∃ place place', locate source p = some place ∧ locate source q = some place' ∧
        place.Precedes place' := by
  intro ordered
  obtain ⟨place, place', found, found', precedes⟩ :=
    ordered "a\r\r" 2 3 (by decide) (by decide) (by decide) (by decide)
  have here : locate "a\r\r" 2 = some ⟨1, "a", 2⟩ := by decide
  have last : locate "a\r\r" 3 = some ⟨1, "a", 1⟩ := by decide
  rw [here] at found
  rw [last] at found'
  cases found
  cases found'
  exact absurd precedes (by simp [Location.Precedes])

end MarkupLexer
