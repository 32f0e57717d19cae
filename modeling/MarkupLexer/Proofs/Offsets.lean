import MarkupLexer.Proofs.Places

/-!
# Offsets

What `locate` answers to each number. An offset between two characters cuts the source in two, and
its place is the one between the parts. An offset within a character has no place. Offsets past the
end have the place of the end, where the offset that is counted down never falls within a line.
-/

namespace MarkupLexer

theorem flatten_splitLines (cs : List Char) : (splitLines cs).flatten = cs := by
  induction cs using lines_induction with
  | last line unbroken =>
    by_cases nonempty : line = []
    · subst nonempty
      rfl
    · simp [splitLines_of_unbroken unbroken nonempty]
  | more line rest unbroken ih => simp [splitLines_append unbroken, ih]

/-- Characters are counted up to an offset only if it is not within one of them. -/
theorem exists_split_of_charactersIn? {n count : Nat} {cs : List Char}
    (counted : charactersIn? n cs = some count) :
    ∃ before after, cs = before ++ after ∧ byteLength before = n := by
  induction cs generalizing n count with
  | nil =>
    by_cases start : n = 0
    · exact ⟨[], [], rfl, start.symm⟩
    · simp [charactersIn?, start] at counted
  | cons c cs ih =>
    by_cases start : n = 0
    · exact ⟨[], c :: cs, rfl, start.symm⟩
    · rw [charactersIn?, if_neg start] at counted
      by_cases whole : c.utf8Size ≤ n
      · rw [if_pos whole] at counted
        obtain ⟨count, counted, -⟩ := Option.map_eq_some_iff.mp counted
        obtain ⟨before, after, rfl, length⟩ := ih counted
        refine ⟨c :: before, after, rfl, ?_⟩
        rw [byteLength, length]
        omega
      · simp [whole] at counted

/-- An offset into lines that has a place cuts them in two. -/
theorem exists_split_of_locateIn {number offset : Nat} {lines : List (List Char)}
    {place : Location} (found : locateIn number offset lines = some place)
    (inside : offset < byteLength lines.flatten) :
    ∃ before after, lines.flatten = before ++ after ∧ byteLength before = offset := by
  induction lines generalizing number offset with
  | nil => exact absurd inside (Nat.not_lt_zero _)
  | cons line lines ih =>
    rw [List.flatten_cons, byteLength_append] at inside
    rw [locateIn] at found
    by_cases here : offset < byteLength line
    · rw [if_pos here] at found
      obtain ⟨column, counted, -⟩ := Option.map_eq_some_iff.mp found
      obtain ⟨before, after, rfl, length⟩ := exists_split_of_charactersIn? counted
      exact ⟨before, after ++ lines.flatten, by simp, length⟩
    · rw [if_neg here] at found
      have later : offset - byteLength line < byteLength lines.flatten := by omega
      have more : lines.isEmpty = false := by
        cases lines with
        | nil => exact absurd later (Nat.not_lt_zero _)
        | cons => rfl
      rw [more, Bool.false_and, if_neg (by simp)] at found
      obtain ⟨before, after, split, length⟩ := ih found later
      refine ⟨line ++ before, after, by simp [split], ?_⟩
      rw [byteLength_append, length]
      omega

/-- An offset past the last line has the place of the end. -/
theorem locateIn_of_le {number offset : Nat} {lines : List (List Char)}
    (past : byteLength lines.flatten ≤ offset) :
    locateIn number offset lines = locateIn number (byteLength lines.flatten) lines := by
  induction lines generalizing number offset with
  | nil => rfl
  | cons line lines ih =>
    rw [List.flatten_cons, byteLength_append] at past ⊢
    have after_line : ¬ offset < byteLength line := by omega
    have after_last : ¬ byteLength line + byteLength lines.flatten < byteLength line := by omega
    have later : byteLength lines.flatten ≤ offset - byteLength line := by omega
    rw [locateIn, if_neg after_line, locateIn, if_neg after_last, Nat.add_sub_cancel_left, ih later]

/-! ### Offsets into a text -/

theorem locate_append (before after : String) :
    locate (before ++ after) before.utf8ByteSize =
      some (.between before.toList after.toList) := by
  rw [← byteLength_toList, ← locate_between, ← String.toList_append, String.ofList_toList]

theorem locate_eq_locate_min (source : String) (offset : Nat) :
    locate source offset = locate source (min offset source.utf8ByteSize) := by
  by_cases past : source.utf8ByteSize ≤ offset
  · have size : byteLength (splitLines source.toList).flatten = source.utf8ByteSize := by
      rw [flatten_splitLines, byteLength_toList]
    rw [Nat.min_eq_right past, ← size]
    exact locateIn_of_le (by rwa [size])
  · rw [Nat.min_eq_left (by omega)]

theorem exists_split_of_locate {source : String} {offset : Nat} {place : Location}
    (found : locate source offset = some place) (inside : offset < source.utf8ByteSize) :
    ∃ before after : String, source = before ++ after ∧ before.utf8ByteSize = offset := by
  rw [← byteLength_toList, ← flatten_splitLines source.toList] at inside
  obtain ⟨before, after, split, length⟩ := exists_split_of_locateIn found inside
  rw [flatten_splitLines] at split
  refine ⟨String.ofList before, String.ofList after, ?_, ?_⟩
  · rw [← String.ofList_append, ← split, String.ofList_toList]
  · rw [← byteLength_toList, String.toList_ofList, length]

theorem isValid_iff_exists_split {source : String} {offset : Nat} :
    String.Pos.Raw.IsValid source ⟨offset⟩ ↔
      ∃ before after : String, source = before ++ after ∧ before.utf8ByteSize = offset := by
  rw [String.Pos.Raw.isValid_iff_exists_append]
  constructor
  · rintro ⟨before, after, split, stands⟩
    exact ⟨before, after, split, (congrArg String.Pos.Raw.byteIdx stands).symm⟩
  · rintro ⟨before, after, split, rfl⟩
    exact ⟨before, after, split, rfl⟩

theorem locate_eq_some_iff {source : String} {offset : Nat} {place : Location} :
    locate source offset = some place ↔
      ∃ before after : String, source = before ++ after ∧
        before.utf8ByteSize = min offset source.utf8ByteSize ∧
        place = .between before.toList after.toList := by
  constructor
  · intro found
    by_cases inside : offset < source.utf8ByteSize
    · obtain ⟨before, after, rfl, rfl⟩ := exists_split_of_locate found inside
      rw [locate_append] at found
      exact ⟨before, after, rfl, (Nat.min_eq_left (by omega)).symm, (Option.some.inj found).symm⟩
    · have last := locate_append source ""
      rw [String.append_empty] at last
      rw [locate_eq_locate_min, Nat.min_eq_right (by omega), last] at found
      exact ⟨source, "", String.append_empty.symm, (Nat.min_eq_right (by omega)).symm,
        (Option.some.inj found).symm⟩
  · rintro ⟨before, after, rfl, length, rfl⟩
    rw [locate_eq_locate_min, ← length, locate_append]

theorem locate_eq_none_iff {source : String} {offset : Nat} :
    locate source offset = none ↔
      offset < source.utf8ByteSize ∧ ¬ String.Pos.Raw.IsValid source ⟨offset⟩ := by
  rw [isValid_iff_exists_split]
  constructor
  · intro missing
    have no_split : ¬ ∃ before after : String, source = before ++ after ∧
        before.utf8ByteSize = min offset source.utf8ByteSize := by
      rintro ⟨before, after, split, length⟩
      have found := locate_eq_some_iff.mpr ⟨before, after, split, length, rfl⟩
      rw [missing] at found
      contradiction
    have inside : offset < source.utf8ByteSize := by
      by_contra past
      exact no_split ⟨source, "", String.append_empty.symm, (Nat.min_eq_right (by omega)).symm⟩
    rw [Nat.min_eq_left (by omega)] at no_split
    exact ⟨inside, no_split⟩
  · rintro ⟨inside, cut⟩
    cases found : locate source offset with
    | none => rfl
    | some place => exact absurd (exists_split_of_locate found inside) cut

/-- After the last line feed of a text begins a line with nothing in it. -/
theorem Location.between_end_of_line_feed {before : List Char}
    (last : before.getLast? = some '\n') :
    between before [] = ⟨before.count '\n' + 1, "", 0⟩ := by
  obtain ⟨line, rfl⟩ := List.getLast?_eq_some_iff.mp last
  simp [between]

/-- An offset has no place just when it is within a character. Any other, taken for the end of the
    source when it is past it, has the place between what is before and what is after it: at the end
    an empty line after a line feed, and the first line of nothing. -/
theorem place_of_offset (source : String) (offset : Nat) :
    (locate source offset = none ↔
      offset < source.utf8ByteSize ∧ ¬ String.Pos.Raw.IsValid source ⟨offset⟩) ∧
    (∀ place, locate source offset = some place ↔
      ∃ before after : String, source = before ++ after ∧
        before.utf8ByteSize = min offset source.utf8ByteSize ∧
        place = .between before.toList after.toList) ∧
    (source.utf8ByteSize ≤ offset → source.toList.getLast? = some '\n' →
      locate source offset = some ⟨source.toList.count '\n' + 1, "", 0⟩) ∧
    (source = "" → locate source offset = some ⟨1, "", 0⟩) := by
  refine ⟨locate_eq_none_iff, fun place => locate_eq_some_iff, fun past last => ?_, ?_⟩
  · rw [← Location.between_end_of_line_feed last]
    exact locate_eq_some_iff.mpr ⟨source, "", String.append_empty.symm,
      (Nat.min_eq_right past).symm, rfl⟩
  · rintro rfl
    exact locate_eq_some_iff.mpr ⟨"", "", rfl, (Nat.min_zero _).symm, rfl⟩

/-- An offset within a character, one past the line feed that ends a text, and one into nothing. -/
theorem place_of_offset_within_and_past :
    (1 < "é\r\n".utf8ByteSize ∧ ¬ String.Pos.Raw.IsValid "é\r\n" ⟨1⟩ ∧
      locate "é\r\n" 1 = none) ∧
    ("é\r\n".utf8ByteSize ≤ 9 ∧ "é\r\n".toList.getLast? = some '\n' ∧
      locate "é\r\n" 9 = some ⟨2, "", 0⟩) ∧
    ("" = "" ∧ locate "" 5 = some ⟨1, "", 0⟩) := by
  have within : ¬ String.Pos.Raw.IsValid "é\r\n" ⟨1⟩ := by decide
  refine ⟨⟨by decide, within, (place_of_offset _ 1).1.mpr ⟨by decide, within⟩⟩,
    ⟨by decide, by decide, (place_of_offset _ 9).2.2.1 (by decide) (by decide)⟩,
    rfl, (place_of_offset _ 5).2.2.2 rfl⟩

end MarkupLexer
