import MarkupLexer.Json.Strings

/-!
# Strings and lists read back

What is written as a JSON string is read as the text that it was written of. A reader that takes a
text whatever follows it is the unit that the lemmas are about: lists of items between commas are
read item by item.
-/

namespace MarkupLexer.Json

/-! ### Texts -/

theorem hexDigit?_digitChar : ∀ n < 16, hexDigit? (Nat.digitChar n) = some n := by decide

/-- The number of a control character, from the digits that it is written with. -/
theorem hexNumber?_control {n : Nat} (control : n < 0x20) :
    hexNumber? '0' '0' (Nat.digitChar (n / 16)) (Nat.digitChar (n % 16)) = some n := by
  have zero : hexDigit? '0' = some 0 := rfl
  have high := hexDigit?_digitChar (n / 16) (by omega)
  have low := hexDigit?_digitChar (n % 16) (by omega)
  simp only [hexNumber?, zero, high, low, Option.bind_eq_bind, Option.bind_some, Option.pure_def]
  congr 1
  omega

theorem readText_of_shortEscape? {e c : Char} (short : shortEscape? e = some c)
    (rest : List Char) : readText ('\\' :: e :: rest) = withChar c (readText rest) := by
  have other : e ≠ 'u' := by
    rintro rfl
    cases short
  rw [readText]
  · rw [short]
  · simp [other]

theorem readText_of_hexNumber? {a b c d : Char} {n : Nat} (number : hexNumber? a b c d = some n)
    (low : isLowSurrogate n = false) (high : isHighSurrogate n = false) (rest : List Char) :
    readText ('\\' :: 'u' :: a :: b :: c :: d :: rest) = withChar (.ofNat n) (readText rest) := by
  rw [readText.eq_def]
  simp [number, low, high]

theorem readText_of_plain {c : Char} (quote : c ≠ '"') (slash : c ≠ '\\') (plain : 0x20 ≤ c.toNat)
    (rest : List Char) : readText (c :: rest) = withChar c (readText rest) := by
  rw [readText, if_neg (Nat.not_lt.mpr plain)]
  · simp [quote]
  · simp [slash]
  · simp [slash]

/-- A character is written by a short escape, by its number, or as it is. -/
theorem escape_cases (c : Char) :
    (∃ e, shortEscape? e = some c ∧ escape c = ['\\', e]) ∨
      (c.toNat < 0x20 ∧ escape c =
        ['\\', 'u', '0', '0', Nat.digitChar (c.toNat / 16), Nat.digitChar (c.toNat % 16)]) ∨
      c ≠ '"' ∧ c ≠ '\\' ∧ 0x20 ≤ c.toNat ∧ escape c = [c] := by
  unfold escape
  repeat' split
  -- Every branch but the last two is a short escape.
  any_goals
    subst_vars
    exact .inl ⟨_, rfl, rfl⟩
  · exact .inr (.inl ⟨‹_›, rfl⟩)
  · exact .inr (.inr ⟨‹_›, ‹_›, by omega, rfl⟩)

theorem readText_escape (c : Char) (rest : List Char) :
    readText (escape c ++ rest) = withChar c (readText rest) := by
  rcases escape_cases c with ⟨e, short, written⟩ | ⟨control, written⟩ |
    ⟨quote, slash, plain, written⟩
  · rw [written]
    exact readText_of_shortEscape? short rest
  · have low : isLowSurrogate c.toNat = false := by simp [isLowSurrogate]; omega
    have high : isHighSurrogate c.toNat = false := by simp [isHighSurrogate]; omega
    have read := readText_of_hexNumber? (hexNumber?_control control) low high rest
    rw [Char.ofNat_toNat] at read
    rw [written]
    exact read
  · rw [written]
    exact readText_of_plain quote slash plain rest

theorem readText_flatMap_escape (cs rest : List Char) :
    readText (cs.flatMap escape ++ '"' :: rest) = some (cs, rest) := by
  induction cs with
  | nil => rfl
  | cons c cs ih =>
    rw [List.flatMap_cons, List.append_assoc, readText_escape, ih]
    rfl

/-! ### Strings -/

theorem toList_encode (s : String) :
    (encode s).toList = '"' :: (s.toList.flatMap escape ++ ['"']) := String.toList_ofList

theorem skipBlanks_append {blanks : List Char} (blank : blanks.all isBlank = true)
    (cs : List Char) : skipBlanks (blanks ++ cs) = skipBlanks cs :=
  List.dropWhile_append_of_pos (List.all_eq_true.mp blank)

theorem skipBlanks_encode {blanks : List Char} (blank : blanks.all isBlank = true)
    (s : String) (rest : List Char) :
    skipBlanks (blanks ++ ((encode s).toList ++ rest)) =
      '"' :: (s.toList.flatMap escape ++ '"' :: rest) := by
  rw [skipBlanks_append blank, toList_encode, List.cons_append, List.append_assoc]
  rfl

/-- A string is read back, after blanks and whatever follows it. -/
theorem readString_append {blanks : List Char} (blank : blanks.all isBlank = true)
    (s : String) (rest : List Char) :
    readString (blanks ++ ((encode s).toList ++ rest)) = some (s, rest) := by
  simp only [readString, skipBlanks_encode blank, readText_flatMap_escape, Option.map_some,
    String.ofList_toList]

/-- Where a string stands there is no other sign. -/
theorem readSign_append {blanks : List Char} (blank : blanks.all isBlank = true) {c : Char}
    (other : c ≠ '"') (s : String) (rest : List Char) :
    readSign c (blanks ++ ((encode s).toList ++ rest)) = none := by
  simp only [readSign, skipBlanks_encode blank, if_neg other.symm]

/-! ### Items -/

section Items

variable {α : Type} {item : List Char → Option (α × List Char)} {close : Char}
  {cs ending rest : List Char} {a : α}

/-- What follows an item decides whether there are more. -/
theorem readItems_append (nonempty : cs ≠ []) (here : item (cs ++ ending) = some (a, ending)) :
    readItems item close (cs ++ ending) =
      match skipBlanks ending with
      | ',' :: rest => (readItems item close rest).map fun (as, rest) => (a :: as, rest)
      | c :: rest => if c = close then some ([a], rest) else none
      | [] => none := by
  have shorter : ending.length < (cs ++ ending).length := by
    have positive := List.length_pos_iff.mpr nonempty
    rw [List.length_append]
    omega
  rw [readItems, here]
  simp only [if_pos shorter]
  split <;> simp_all

theorem readItems_cons (nonempty : cs ≠ [])
    (here : item (cs ++ ',' :: rest) = some (a, ',' :: rest)) :
    readItems item close (cs ++ ',' :: rest) =
      (readItems item close rest).map fun (as, rest) => (a :: as, rest) := by
  rw [readItems_append nonempty here]
  rfl

theorem readItems_last (nonempty : cs ≠ []) (other : close ≠ ',')
    (closing : skipBlanks ending = close :: rest) (here : item (cs ++ ending) = some (a, ending)) :
    readItems item close (cs ++ ending) = some ([a], rest) := by
  rw [readItems_append nonempty here, closing]
  simp

end Items

end MarkupLexer.Json
