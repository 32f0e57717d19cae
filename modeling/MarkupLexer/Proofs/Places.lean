import Mathlib.Data.List.DropRight
import MarkupLexer.Location

/-!
# Places in a text

A place is found by going through the lines of a text, with an offset that is counted down. Where
the text is cut at that offset, the place is what `Location.between` says of the two parts: nothing
before the line and nothing after it matters but the number of line feeds in front.
-/

namespace MarkupLexer

/-! ### Lines -/

/-- Induction on the lines of a text: one without a line feed, or a first line and the others. -/
@[elab_as_elim]
theorem lines_induction {P : List Char → Prop} (last : ∀ line, '\n' ∉ line → P line)
    (more : ∀ line rest, '\n' ∉ line → P rest → P (line ++ '\n' :: rest)) (cs : List Char) :
    P cs := by
  by_cases broken : '\n' ∈ cs
  · obtain ⟨line, rest, split, unbroken⟩ := List.eq_append_cons_of_mem broken
    rw [split]
    exact more line rest unbroken (lines_induction last more rest)
  · exact last cs broken
termination_by cs.length
decreasing_by
  rw [split, List.length_append, List.length_cons]
  omega

theorem splitLines_of_unbroken {line : List Char} (unbroken : '\n' ∉ line) (nonempty : line ≠ []) :
    splitLines line = [line] := by
  induction line with
  | nil => exact absurd rfl nonempty
  | cons c cs ih =>
    obtain ⟨other, unbroken⟩ : '\n' ≠ c ∧ '\n' ∉ cs := by simpa using unbroken
    rw [splitLines, if_neg other.symm]
    cases cs with
    | nil => rfl
    | cons d ds => rw [ih unbroken (by simp)]

theorem splitLines_append {line : List Char} (unbroken : '\n' ∉ line) (rest : List Char) :
    splitLines (line ++ '\n' :: rest) = (line ++ ['\n']) :: splitLines rest := by
  induction line with
  | nil => simp [splitLines]
  | cons c cs ih =>
    obtain ⟨other, unbroken⟩ : '\n' ≠ c ∧ '\n' ∉ cs := by simpa using unbroken
    rw [List.cons_append, splitLines, if_neg other.symm, ih unbroken]
    rfl

/-- What is shown of a line that has no line feed. -/
def shown (line : List Char) : List Char := line.rdropWhile (· = '\r')

theorem trimBreak_of_unbroken {line : List Char} (unbroken : '\n' ∉ line) :
    trimBreak line = shown line := by
  change line.rdropWhile (fun c => c == '\r' || c == '\n') = line.rdropWhile (· = '\r')
  induction line using List.reverseRecOn with
  | nil => rfl
  | append_singleton line c ih =>
    obtain ⟨unbroken, other⟩ : '\n' ∉ line ∧ '\n' ≠ c := by simpa using unbroken
    rw [List.rdropWhile_concat, List.rdropWhile_concat, ih unbroken]
    simp [other.symm]

theorem shown_append (xs ys : List Char) :
    shown (xs ++ ys) = if shown ys = [] then shown xs else xs ++ shown ys := by
  simp only [shown, List.rdropWhile, List.reverse_append, List.dropWhile_append, List.isEmpty_iff,
    List.reverse_eq_nil_iff]
  split <;> simp

theorem not_mem_shown {line : List Char} (unbroken : '\n' ∉ line) : '\n' ∉ shown line :=
  fun member => unbroken ((List.rdropWhile_prefix _ _).mem member)

theorem trimBreak_concat (line : List Char) : trimBreak (line ++ ['\n']) = trimBreak line := by
  simp [trimBreak]

/-- The part of a line that stands before a place. -/
def lineStart (before : List Char) : List Char := before.rtakeWhile (· ≠ '\n')

theorem all_ne_of_unbroken {cs : List Char} (unbroken : '\n' ∉ cs) :
    ∀ c ∈ cs, decide (c ≠ '\n') = true :=
  fun _ member => decide_eq_true (ne_of_mem_of_not_mem member unbroken)

theorem lineStart_of_unbroken {before : List Char} (unbroken : '\n' ∉ before) :
    lineStart before = before :=
  List.rtakeWhile_eq_self_iff.mpr (all_ne_of_unbroken unbroken)

theorem lineStart_append (line rest : List Char) :
    lineStart (line ++ '\n' :: rest) = lineStart rest := by
  unfold lineStart
  induction rest using List.reverseRecOn with
  | nil => rw [List.rtakeWhile_concat_neg _ _ _ (by simp), List.rtakeWhile_nil]
  | append_singleton rest c ih =>
    rw [← List.cons_append, ← List.append_assoc, List.rtakeWhile_concat, List.rtakeWhile_concat, ih]

theorem takeWhile_of_unbroken {after : List Char} (unbroken : '\n' ∉ after) :
    after.takeWhile (· ≠ '\n') = after :=
  List.takeWhile_eq_self_iff.mpr (all_ne_of_unbroken unbroken)

theorem takeWhile_append_of_unbroken {more : List Char} (unbroken : '\n' ∉ more)
    (rest : List Char) :
    (more ++ '\n' :: rest).takeWhile (· ≠ '\n') = more := by
  rw [List.takeWhile_append_of_pos (all_ne_of_unbroken unbroken),
    List.takeWhile_cons_of_neg (by simp), List.append_nil]

/-- A line is shown without a line feed. -/
theorem not_mem_trimBreak {cs line : List Char} (member : line ∈ splitLines cs) :
    '\n' ∉ trimBreak line := by
  induction cs using lines_induction with
  | last whole unbroken =>
    by_cases nonempty : whole = []
    · subst nonempty
      cases member
    · rw [splitLines_of_unbroken unbroken nonempty, List.mem_singleton] at member
      rw [member, trimBreak_of_unbroken unbroken]
      exact not_mem_shown unbroken
  | more first rest unbroken ih =>
    rw [splitLines_append unbroken, List.mem_cons] at member
    rcases member with rfl | member
    · rw [trimBreak_concat, trimBreak_of_unbroken unbroken]
      exact not_mem_shown unbroken
    · exact ih member

/-! ### Offsets -/

theorem charactersIn?_append (cs ds : List Char) :
    charactersIn? (byteLength cs) (cs ++ ds) = some cs.length := by
  induction cs with
  | nil => cases ds <;> simp [byteLength, charactersIn?]
  | cons c cs ih =>
    have positive := c.utf8Size_pos
    have here : c.utf8Size + byteLength cs ≠ 0 := by omega
    rw [List.cons_append, byteLength, charactersIn?, if_neg here, if_pos (by omega),
      Nat.add_sub_cancel_left, ih]
    rfl

theorem byteLength_pos {cs : List Char} (nonempty : cs ≠ []) : 0 < byteLength cs := by
  cases cs with
  | nil => exact absurd rfl nonempty
  | cons c cs =>
    have positive := c.utf8Size_pos
    rw [byteLength]
    omega

theorem length_le_byteLength (cs : List Char) : cs.length ≤ byteLength cs := by
  induction cs with
  | nil => exact Nat.le_refl 0
  | cons c cs ih =>
    have positive := c.utf8Size_pos
    rw [List.length_cons, byteLength]
    omega

/-- The place between two parts, with the number of its line counted from that of the first. -/
def Location.betweenFrom (number : Nat) (before after : List Char) : Location :=
  let line := shown (lineStart before ++ after.takeWhile (· ≠ '\n'))
  { line := before.count '\n' + number
    text := String.ofList line
    column := if after.isEmpty then line.length else (lineStart before).length }

theorem Location.betweenFrom_of_unbroken {before : List Char} (unbroken : '\n' ∉ before)
    (number : Nat) (after : List Char) :
    betweenFrom number before after =
      let line := shown (before ++ after.takeWhile (· ≠ '\n'))
      ⟨number, String.ofList line, if after.isEmpty then line.length else before.length⟩ := by
  simp only [betweenFrom, lineStart_of_unbroken unbroken, List.count_eq_zero_of_not_mem unbroken,
    Nat.zero_add]

theorem Location.betweenFrom_append {line : List Char} (unbroken : '\n' ∉ line) (number : Nat)
    (rest after : List Char) :
    betweenFrom number (line ++ '\n' :: rest) after = betweenFrom (number + 1) rest after := by
  have count : (line ++ '\n' :: rest).count '\n' + number = rest.count '\n' + (number + 1) := by
    rw [List.count_append, List.count_cons_self, List.count_eq_zero_of_not_mem unbroken]
    omega
  simp only [betweenFrom, lineStart_append, count]

theorem locateIn_inside {line : List Char} (number : Nat) (lines : List (List Char))
    {before after : List Char} (split : line = before ++ after) (inside : after ≠ []) :
    locateIn number (byteLength before) (line :: lines) =
      some ⟨number, String.ofList (trimBreak line), before.length⟩ := by
  have positive := byteLength_pos inside
  have early : byteLength before < byteLength line := by
    rw [split, byteLength_append]
    omega
  rw [locateIn, if_pos early, split, charactersIn?_append]
  rfl

theorem locateIn_end {line : List Char} (unbroken : '\n' ∉ line) (number : Nat) :
    locateIn number (byteLength line) (splitLines line) =
      some ⟨number, String.ofList (shown line), (shown line).length⟩ := by
  by_cases nonempty : line = []
  · subst nonempty
    rfl
  · have last : line.getLast? ≠ some '\n' := fun last => unbroken (List.mem_of_getLast? last)
    rw [splitLines_of_unbroken unbroken nonempty, locateIn, if_neg (Nat.lt_irrefl _),
      if_pos (by simpa using last), trimBreak_of_unbroken unbroken]

theorem locateIn_after {line : List Char} (number offset : Nat) (lines : List (List Char)) :
    locateIn number (byteLength (line ++ ['\n']) + offset) ((line ++ ['\n']) :: lines) =
      locateIn (number + 1) offset lines := by
  rw [locateIn, if_neg (by omega), if_neg (by simp), Nat.add_sub_cancel_left]

theorem locateIn_splitLines (number : Nat) (before after : List Char) :
    locateIn number (byteLength before) (splitLines (before ++ after)) =
      some (.betweenFrom number before after) := by
  induction before using lines_induction generalizing number with
  | last before unbroken =>
    -- The place is in the first line, which ends with the first line feed of `after` if it has one.
    rw [Location.betweenFrom_of_unbroken unbroken]
    by_cases broken : '\n' ∈ after
    · obtain ⟨more, rest, rfl, whole⟩ := List.eq_append_cons_of_mem broken
      have line : '\n' ∉ before ++ more := by simp [unbroken, whole]
      rw [takeWhile_append_of_unbroken whole, ← List.append_assoc, splitLines_append line,
        locateIn_inside number _ (List.append_assoc ..) (by simp), trimBreak_concat,
        trimBreak_of_unbroken line]
      simp
    · have line : '\n' ∉ before ++ after := by simp [unbroken, broken]
      rw [takeWhile_of_unbroken broken]
      by_cases inside : after = []
      · subst inside
        rw [List.append_nil]
        exact locateIn_end unbroken number
      · rw [splitLines_of_unbroken line (by simp [inside]), locateIn_inside number _ rfl inside,
          trimBreak_of_unbroken line]
        simp [inside]
  | more line rest unbroken ih =>
    have offset :
        byteLength (line ++ '\n' :: rest) = byteLength (line ++ ['\n']) + byteLength rest := by
      rw [← byteLength_append, List.append_assoc, List.singleton_append]
    rw [Location.betweenFrom_append unbroken, List.append_assoc, List.cons_append,
      splitLines_append unbroken, offset, locateIn_after]
    exact ih (number + 1)

/-- The place where a text is cut in two is the place between the two parts. -/
theorem locate_between (before after : List Char) :
    locate (String.ofList (before ++ after)) (byteLength before) =
      some (.between before after) := by
  rw [locate, String.toList_ofList]
  exact locateIn_splitLines 1 before after

theorem locate_of_split {source : String} {before after : List Char} {offset : Nat}
    (split : source.toList = before ++ after) (here : offset = byteLength before) :
    locate source offset = some (.between before after) := by
  rw [here, ← locate_between, ← split, String.ofList_toList]

/-- The line of a place is one of the lines as they are shown, or empty after the last of them. -/
theorem text_of_locateIn {number offset : Nat} {lines : List (List Char)} {place : Location}
    (found : locateIn number offset lines = some place) :
    place.text = "" ∨ ∃ line ∈ lines, place.text = String.ofList (trimBreak line) := by
  induction lines generalizing number offset with
  | nil =>
    cases found
    exact .inl rfl
  | cons line lines ih =>
    rw [locateIn] at found
    split at found
    · obtain ⟨column, -, rfl⟩ := Option.map_eq_some_iff.mp found
      exact .inr ⟨line, List.mem_cons_self, rfl⟩
    · split at found
      · cases found
        exact .inr ⟨line, List.mem_cons_self, rfl⟩
      · rcases ih found with empty | ⟨other, member, text⟩
        · exact .inl empty
        · exact .inr ⟨other, List.mem_cons_of_mem line member, text⟩

theorem not_mem_text_of_locate {source : String} {offset : Nat} {place : Location}
    (found : locate source offset = some place) : '\n' ∉ place.text.toList := by
  rcases text_of_locateIn found with empty | ⟨line, member, text⟩
  · simp [empty]
  · rw [text, String.toList_ofList]
    exact not_mem_trimBreak member

end MarkupLexer
