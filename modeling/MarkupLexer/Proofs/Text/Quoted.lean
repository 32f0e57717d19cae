import MarkupLexer.Text.Quoted
import MarkupLexer.Proofs.Rows

/-!
# Quoted text taken apart

A text is known from how it is quoted, wherever it stands and whichever characters do not show:
every escape says itself where it ends, and no character is written like the beginning of another.
Nothing quoted holds a line feed.
-/

namespace MarkupLexer.Text

/-! ### Hexadecimal numbers -/

theorem hexDigit_inj : ∀ m < 16, ∀ n < 16, Nat.digitChar m = Nat.digitChar n → m = n := by decide

/-- All digits of a number but the last are those of a sixteenth of it. -/
theorem hexDigits_of_le {n : Nat} (large : 16 ≤ n) :
    Nat.toDigits 16 n = Nat.toDigits 16 (n / 16) ++ [Nat.digitChar (n % 16)] := by
  rw [Nat.toDigits_eq_if (by decide), if_neg (Nat.not_lt.mpr large)]

theorem hexDigits_ne_of_le {m n : Nat} (small : m < 16) (large : 16 ≤ n) :
    Nat.toDigits 16 m ≠ Nat.toDigits 16 n := by
  intro same
  rw [Nat.toDigits_of_lt_base small, hexDigits_of_le large] at same
  have lengths := congrArg List.length same
  have more := List.length_pos_iff.mpr (Nat.toDigits_ne_nil (n := n / 16) (b := 16))
  simp only [List.length_append, List.length_singleton] at lengths
  omega

theorem hexDigits_inj {m n : Nat} (same : Nat.toDigits 16 m = Nat.toDigits 16 n) : m = n := by
  induction m using Nat.strongRecOn generalizing n with
  | ind m ih =>
    by_cases small : m < 16 <;> by_cases small' : n < 16
    · rw [Nat.toDigits_of_lt_base small, Nat.toDigits_of_lt_base small'] at same
      exact hexDigit_inj m small n small' (List.cons.inj same).1
    · exact absurd same (hexDigits_ne_of_le small (Nat.not_lt.mp small'))
    · exact absurd same.symm (hexDigits_ne_of_le small' (Nat.not_lt.mp small))
    · rw [hexDigits_of_le (Nat.not_lt.mp small), hexDigits_of_le (Nat.not_lt.mp small')] at same
      obtain ⟨rest, last⟩ := List.append_inj' same rfl
      have quotients := ih (m / 16) (by omega) rest
      have remainders := hexDigit_inj (m % 16) (by omega) (n % 16) (by omega)
        (List.cons.inj last).1
      omega

theorem not_mem_hexDigits {c : Char} (other : ∀ d, Nat.digitChar d ≠ c) (n : Nat) :
    c ∉ Nat.toDigits 16 n := by
  induction n using Nat.strongRecOn with
  | ind n ih =>
    by_cases small : n < 16
    · rw [Nat.toDigits_of_lt_base small, List.mem_singleton]
      exact (other n).symm
    · rw [hexDigits_of_le (Nat.not_lt.mp small), List.mem_append, List.mem_singleton, not_or]
      exact ⟨ih (n / 16) (by omega), (other (n % 16)).symm⟩

/-! ### Characters -/

/-- What a letter after a backslash stands for. -/
def lettered? : Char → Option Char
  | '0' => some '\x00'
  | 't' => some '\t'
  | 'r' => some '\r'
  | 'n' => some '\n'
  | '\\' => some '\\'
  | '"' => some '"'
  | _ => none

/-- A letter is told from the beginning of a number, and breaks no line. -/
theorem ne_of_lettered? {c e : Char} (named : lettered? e = some c) : e ≠ 'u' ∧ e ≠ '\n' := by
  constructor <;>
    · rintro rfl
      cases named

/-- The braces of a number say where it ends. -/
theorem numberEscape_append_inj {c d : Char} {rest more : List Char}
    (same : numberEscape c ++ rest = numberEscape d ++ more) : c = d ∧ rest = more := by
  have closed (a : Char) : '\x7d' ∉ Nat.toDigits 16 a.toNat :=
    not_mem_hexDigits (fun _ => Nat.digitChar_ne _ rfl) a.toNat
  simp only [numberEscape, List.cons_append, List.append_assoc, List.cons.injEq, true_and] at same
  obtain ⟨digits, rest⟩ := append_cons_inj (closed c) (closed d) same
  exact ⟨Char.toNat_inj.mp (hexDigits_inj digits), rest⟩

/-- How a character may be written between double quotes. -/
inductive Writes : Char → List Char → Prop
  | letter {c e : Char} (named : lettered? e = some c) : Writes c ['\\', e]
  | number (c : Char) : Writes c (numberEscape c)
  | plain {c : Char} (quote : c ≠ '"') (slash : c ≠ '\\') (feed : c ≠ '\n') : Writes c [c]

theorem writes_escape (hidden : Char → Bool) (c : Char) : Writes c (escape hidden '"' c) := by
  unfold escape
  repeat' split
  -- Every branch but the last two is a letter.
  any_goals
    subst_vars
    exact .letter rfl
  · exact .number c
  · exact .plain ‹_› ‹_› ‹_›

namespace Writes

variable {c d : Char} {code code' rest more : List Char}

theorem unbroken (written : Writes c code) : '\n' ∉ code := by
  cases written with
  | letter named => simpa using (ne_of_lettered? named).2.symm
  | number =>
    have digits := not_mem_hexDigits (c := '\n') (fun _ => Nat.digitChar_ne _ rfl) c.toNat
    simp [numberEscape, digits]
  | plain _ _ feed => simpa using feed.symm

/-- The closing quote is not the beginning of a character. -/
theorem ne_quote (written : Writes c code) : code ++ rest ≠ '"' :: more := by
  cases written with
  | letter | number => simp [numberEscape]
  | plain quote => simp [quote]

/-- A character is known from how it is written, and so is what follows it. -/
theorem append_inj (written : Writes c code) (written' : Writes d code')
    (same : code ++ rest = code' ++ more) : c = d ∧ rest = more := by
  cases written with
  | letter named =>
    cases written' with
    | letter named' =>
      obtain ⟨rfl, tails⟩ := List.cons.inj (List.cons.inj same).2
      exact ⟨Option.some.inj (named.symm.trans named'), tails⟩
    | number => exact absurd (List.cons.inj (List.cons.inj same).2).1 (ne_of_lettered? named).1
    | plain _ slash => exact absurd (List.cons.inj same).1.symm slash
  | number =>
    cases written' with
    | letter named' =>
      exact absurd (List.cons.inj (List.cons.inj same).2).1.symm (ne_of_lettered? named').1
    | number => exact numberEscape_append_inj same
    | plain _ slash => exact absurd (List.cons.inj same).1.symm slash
  | plain _ slash =>
    cases written' with
    | letter | number => exact absurd (List.cons.inj same).1 slash
    | plain => exact List.cons.inj same

end Writes

/-! ### Texts -/

section Texts

variable (hidden : Char → Bool)

theorem flatMap_escape_inj {s t rest more : List Char}
    (same : s.flatMap (escape hidden '"') ++ '"' :: rest =
      t.flatMap (escape hidden '"') ++ '"' :: more) : s = t ∧ rest = more := by
  induction s generalizing t with
  | nil =>
    cases t with
    | nil => exact ⟨rfl, (List.cons.inj same).2⟩
    | cons d t =>
      rw [List.flatMap_cons, List.append_assoc] at same
      exact absurd same.symm (writes_escape hidden d).ne_quote
  | cons c s ih =>
    rw [List.flatMap_cons, List.append_assoc] at same
    cases t with
    | nil => exact absurd same (writes_escape hidden c).ne_quote
    | cons d t =>
      rw [List.flatMap_cons, List.append_assoc] at same
      obtain ⟨rfl, tails⟩ := (writes_escape hidden c).append_inj (writes_escape hidden d) same
      obtain ⟨rfl, rest⟩ := ih tails
      exact ⟨rfl, rest⟩

theorem toList_quotedWith (s : String) :
    (quotedWith hidden s).toList = '"' :: (s.toList.flatMap (escape hidden '"') ++ ['"']) :=
  String.toList_ofList

/-- A quoted text is known wherever it stands, and so is what follows it. -/
theorem quotedWith_append_inj {s t : String} {rest more : List Char}
    (same : (quotedWith hidden s).toList ++ rest = (quotedWith hidden t).toList ++ more) :
    s = t ∧ rest = more := by
  simp only [toList_quotedWith, List.cons_append, List.append_assoc, List.nil_append,
    List.cons.injEq, true_and] at same
  obtain ⟨texts, rest⟩ := flatMap_escape_inj hidden same
  exact ⟨String.toList_inj.mp texts, rest⟩

theorem not_mem_quotedWith (s : String) : '\n' ∉ (quotedWith hidden s).toList := by
  have clean : '\n' ∉ s.toList.flatMap (escape hidden '"') := by
    intro member
    obtain ⟨c, -, member⟩ := List.mem_flatMap.mp member
    exact (writes_escape hidden c).unbroken member
  simp [toList_quotedWith, clean]

end Texts

end MarkupLexer.Text
