import MarkupLexer.Kind
import MarkupLexer.Text.Layout
import MarkupLexer.Proofs.Places

/-!
# Rows

What a row of text can be taken apart by. A separator that is in neither of two texts ends them at
the same place, a number that is written down is known from its digits and a kind from its name, and
what stands in a field is known without the blanks that fill it. The lines of rows one after the
other are the lines of each, as long as every row ends with its line feed.
-/

namespace MarkupLexer

/-- Two lists with a separator that is in neither of them end at it, whatever follows. -/
theorem append_cons_inj {α : Type} {sep : α} {xs ys rest more : List α} (clean : sep ∉ xs)
    (clean' : sep ∉ ys) (same : xs ++ sep :: rest = ys ++ sep :: more) :
    xs = ys ∧ rest = more := by
  induction xs generalizing ys with
  | nil =>
    cases ys with
    | nil => exact ⟨rfl, (List.cons.inj same).2⟩
    | cons y ys =>
      obtain ⟨rfl, -⟩ := List.cons.inj same
      exact absurd List.mem_cons_self clean'
  | cons x xs ih =>
    cases ys with
    | nil =>
      obtain ⟨rfl, -⟩ := List.cons.inj same
      exact absurd List.mem_cons_self clean
    | cons y ys =>
      obtain ⟨rfl, tails⟩ := List.cons.inj same
      obtain ⟨rfl, later⟩ := ih (fun member => clean (List.mem_cons_of_mem x member))
        (fun member => clean' (List.mem_cons_of_mem x member)) tails
      exact ⟨rfl, later⟩

/-! ### Numbers -/

theorem toList_toString_nat (n : Nat) : (toString n).toList = Nat.toDigits 10 n := by
  rw [Nat.toString_eq_repr, Nat.toList_repr]

theorem not_mem_toString_nat {c : Char} (other : c.isDigit = false) (n : Nat) :
    c ∉ (toString n).toList := by
  intro member
  rw [toList_toString_nat] at member
  have digit := Nat.isDigit_of_mem_toDigits (by decide) (by decide) member
  rw [other] at digit
  contradiction

theorem toString_nat_inj {m n : Nat} (same : (toString m).toList = (toString n).toList) :
    m = n := by
  rw [toList_toString_nat, toList_toString_nat] at same
  calc m = Nat.ofDigitChars 10 (Nat.toDigits 10 m) 0 := Nat.ofDigitChars_ten_toDigits.symm
    _ = Nat.ofDigitChars 10 (Nat.toDigits 10 n) 0 := by rw [same]
    _ = n := Nat.ofDigitChars_ten_toDigits

/-! ### Names of kinds -/

theorem Kind.not_mem_name {c : Char} (other : c.isAlpha = false) (k : Kind) :
    c ∉ k.name.toList := by
  have letters : k.name.toList.all Char.isAlpha = true := by cases k <;> decide
  intro member
  rw [List.all_eq_true.mp letters c member] at other
  contradiction

theorem Kind.name_inj {k l : Kind} (same : k.name = l.name) : k = l := by
  have found : ofName? k.name = some l := by rw [same, ofName?_name]
  rw [ofName?_name] at found
  exact Option.some.inj found

/-! ### Fields -/

theorem not_mem_blanks {c : Char} (other : c ≠ ' ') (n : Nat) : c ∉ List.replicate n ' ' := by
  intro member
  exact other (List.eq_of_mem_replicate member)

theorem Text.toList_padLeft (width : Nat) (s : String) :
    (padLeft width s).toList = List.replicate (width - s.length) ' ' ++ s.toList := by
  simp [padLeft, pad]

theorem Text.toList_padRight (width : Nat) (s : String) :
    (padRight width s).toList = s.toList ++ List.replicate (width - s.length) ' ' := by
  simp [padRight, pad]

/-- What the blanks on the left are followed by. -/
theorem blanks_append_inj {m n : Nat} {xs ys : List Char} (clean : ' ' ∉ xs) (clean' : ' ' ∉ ys)
    (same : List.replicate m ' ' ++ xs = List.replicate n ' ' ++ ys) : xs = ys := by
  have kept {zs : List Char} (clean : ' ' ∉ zs) : zs.filter (· ≠ ' ') = zs :=
    List.filter_eq_self.mpr fun c member => by
      simpa using ne_of_mem_of_not_mem member clean
  have shown := congrArg (List.filter (· ≠ ' ')) same
  rwa [List.filter_append, List.filter_append, kept clean, kept clean', List.filter_replicate,
    List.filter_replicate, if_neg (by simp), if_neg (by simp)] at shown

/-- A number is known from a field that it stands in. -/
theorem Text.padLeft_nat_inj {width m n : Nat}
    (same : (padLeft width (toString m)).toList = (padLeft width (toString n)).toList) :
    m = n := by
  rw [toList_padLeft, toList_padLeft] at same
  exact toString_nat_inj (blanks_append_inj (not_mem_toString_nat rfl m)
    (not_mem_toString_nat rfl n) same)

/-- A text without blanks is known from a field that it stands in and that a blank follows, and so
    is what comes after that. -/
theorem Text.padRight_append_inj {width : Nat} {s t : String} {rest more : List Char}
    (clean : ' ' ∉ s.toList) (clean' : ' ' ∉ t.toList)
    (same : (padRight width s).toList ++ ' ' :: rest = (padRight width t).toList ++ ' ' :: more) :
    s = t ∧ rest = more := by
  have texts : s = t := by
    rw [toList_padRight, toList_padRight, List.append_assoc, List.append_assoc] at same
    have blank (n : Nat) (cs : List Char) :
        List.replicate n ' ' ++ ' ' :: cs = ' ' :: (List.replicate n ' ' ++ cs) := by
      rw [← List.singleton_append, ← List.append_assoc, ← List.replicate_succ',
        List.replicate_succ, List.cons_append]
    rw [blank, blank] at same
    exact String.toList_inj.mp (append_cons_inj clean clean' same).1
  subst texts
  exact ⟨rfl, (List.cons.inj (List.append_cancel_left same)).2⟩

/-! ### Lines -/

/-- A text that is one line, with its line feed. -/
def IsRow (row : String) : Prop := ∃ line, '\n' ∉ line ∧ row.toList = line ++ ['\n']

/-- A text of lines that all have their line feeds, the last one too. -/
inductive WholeLines : List Char → Prop
  | empty : WholeLines []
  | line {line rest : List Char} (unbroken : '\n' ∉ line) (others : WholeLines rest) :
      WholeLines (line ++ '\n' :: rest)

namespace WholeLines

theorem concat (cs : List Char) : WholeLines (cs ++ ['\n']) := by
  induction cs using lines_induction with
  | last line unbroken => exact .line unbroken .empty
  | more line rest unbroken ih =>
    rw [List.append_assoc, List.cons_append]
    exact .line unbroken ih

variable {text : List Char}

theorem append {more : List Char} (whole : WholeLines text) (others : WholeLines more) :
    WholeLines (text ++ more) := by
  induction whole with
  | empty => exact others
  | line unbroken _ ih =>
    rw [List.append_assoc, List.cons_append]
    exact .line unbroken ih

theorem split_append (whole : WholeLines text) (more : List Char) :
    splitLines (text ++ more) = splitLines text ++ splitLines more := by
  induction whole with
  | empty => rfl
  | line unbroken _ ih =>
    rw [List.append_assoc, List.cons_append, splitLines_append unbroken,
      splitLines_append unbroken, ih, List.cons_append]

theorem length_splitLines (whole : WholeLines text) :
    (splitLines text).length = text.count '\n' := by
  induction whole with
  | empty => rfl
  | line unbroken _ ih =>
    rw [splitLines_append unbroken, List.length_cons, ih, List.count_append,
      List.count_cons_self, List.count_eq_zero_of_not_mem unbroken, Nat.zero_add]

theorem isRow_of_mem (whole : WholeLines text) {line : List Char}
    (member : line ∈ splitLines text) : IsRow (String.ofList line) := by
  induction whole with
  | empty => contradiction
  | @line first rest unbroken _ ih =>
    rw [splitLines_append unbroken, List.mem_cons] at member
    rcases member with rfl | later
    · exact ⟨first, unbroken, String.toList_ofList⟩
    · exact ih later

end WholeLines

theorem IsRow.wholeLines {row : String} (single : IsRow row) : WholeLines row.toList := by
  obtain ⟨line, _, row_eq⟩ := single
  rw [row_eq]
  exact .concat line

theorem IsRow.splitLines_eq {row : String} (single : IsRow row) :
    splitLines row.toList = [row.toList] := by
  obtain ⟨line, unbroken, row_eq⟩ := single
  rw [row_eq, splitLines_append unbroken]
  rfl

/-- The lines of texts one after the other are the lines of each. -/
theorem splitLines_join {texts : List String} (whole : ∀ text ∈ texts, WholeLines text.toList) :
    splitLines (String.join texts).toList = texts.flatMap fun text => splitLines text.toList := by
  induction texts with
  | nil => rfl
  | cons text texts ih =>
    rw [String.join_cons, String.toList_append,
      (whole text List.mem_cons_self).split_append, List.flatMap_cons,
      ih fun other member => whole other (List.mem_cons_of_mem text member)]

/-- The lines of rows one after the other are the rows. -/
theorem splitLines_join_of_rows {rows : List String} (single : ∀ row ∈ rows, IsRow row) :
    splitLines (String.join rows).toList = rows.map String.toList := by
  rw [splitLines_join fun row member => (single row member).wholeLines, ← List.flatMap_pure_eq_map]
  exact List.flatMap_congr fun row member => (single row member).splitLines_eq

end MarkupLexer
