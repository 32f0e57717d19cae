import Mathlib.Data.List.Forall2
import MarkupLexer.Proofs.Rows

/-!
# Kinds read from their names

A text names the kind whose name it is, character by character, up to the case of ASCII letters. No
two names are the same up to case, so a text names one kind at most, and a search for it comes to
that kind in whatever order the kinds are taken. Looking for exactly the name first changes nothing:
a text that is a name is also one up to case.
-/

namespace MarkupLexer

/-! ### Case -/

/-- The same character, or a capital ASCII letter and its small form. -/
def SameLetter (c d : Char) : Prop :=
  c = d ∨ ('A' ≤ c ∧ c ≤ 'Z' ∧ d.toNat = c.toNat + 32) ∨
    ('A' ≤ d ∧ d ≤ 'Z' ∧ c.toNat = d.toNat + 32)

theorem toNat_toLower (c : Char) :
    c.toLower.toNat = if 65 ≤ c.toNat ∧ c.toNat ≤ 90 then c.toNat + 32 else c.toNat := by
  have capital : (c.val ≥ 'A'.val ∧ c.val ≤ 'Z'.val) ↔ 65 ≤ c.toNat ∧ c.toNat ≤ 90 := by
    rw [ge_iff_le, UInt32.le_iff_toNat_le, UInt32.le_iff_toNat_le]
    rfl
  unfold Char.toLower
  split
  next upper =>
    rw [if_pos (capital.mp upper)]
    have sum : (c.val + 32).toNat = (c.val.toNat + 32) % 2 ^ 32 := UInt32.toNat_add c.val 32
    have bound : c.val.toNat ≤ 90 := (capital.mp upper).2
    change (c.val + 32).toNat = c.val.toNat + 32
    omega
  next other => rw [if_neg (mt capital.mpr other)]

theorem toLower_eq_iff {c d : Char} : c.toLower = d.toLower ↔ SameLetter c d := by
  have le (c d : Char) : c ≤ d ↔ c.toNat ≤ d.toNat := UInt32.le_iff_toNat_le
  have first : 'A'.toNat = 65 := rfl
  have last : 'Z'.toNat = 90 := rfl
  simp only [SameLetter, ← Char.toNat_inj, toNat_toLower, le, first, last]
  split <;> split <;> omega

/-- As many characters, and each the same up to the case of ASCII letters. -/
def SameUpToCase (s t : String) : Prop := List.Forall₂ SameLetter s.toList t.toList

theorem sameUpToCase_iff_map {s t : String} :
    SameUpToCase s t ↔ s.toList.map Char.toLower = t.toList.map Char.toLower := by
  rw [← List.forall₂_eq_eq_eq, List.forall₂_map_left_iff, List.forall₂_map_right_iff]
  simp only [toLower_eq_iff]
  rfl

theorem sameUpToCase_refl (s : String) : SameUpToCase s s := sameUpToCase_iff_map.mpr rfl

namespace Kind

theorem sameUpToCase_eq_true_iff {s t : String} : sameUpToCase s t = true ↔ SameUpToCase s t := by
  rw [sameUpToCase_iff_map]
  exact beq_iff_eq

/-! ### One kind at most -/

theorem mem_all (k : Kind) : k ∈ all := by
  cases k <;> decide

/-- Among all kinds the first whose name is that of `k` up to case is `k`. -/
theorem find?_sameUpToCase_name (k : Kind) :
    all.find? (sameUpToCase ·.name k.name) = some k := by
  cases k <;> decide

theorem eq_of_sameUpToCase {k l : Kind} {s : String} (same : SameUpToCase k.name s)
    (same' : SameUpToCase l.name s) : k = l := by
  have folded : k.name.toList.map Char.toLower = l.name.toList.map Char.toLower :=
    (sameUpToCase_iff_map.mp same).trans (sameUpToCase_iff_map.mp same').symm
  have found : all.find? (sameUpToCase ·.name k.name) = some l := by
    simp only [sameUpToCase, folded]
    exact find?_sameUpToCase_name l
  rw [find?_sameUpToCase_name] at found
  exact Option.some.inj found

/-! ### Searches in any order -/

section Search

variable {kinds : List Kind} {s : String} {k : Kind}

/-- A search up to case finds the kind that the text names, wherever it stands. -/
theorem find?_eq_some_iff (every : ∀ l, l ∈ kinds) :
    kinds.find? (sameUpToCase ·.name s) = some k ↔ SameUpToCase k.name s := by
  constructor
  · intro found
    have same := List.find?_some found
    exact sameUpToCase_eq_true_iff.mp same
  · intro same
    cases found : kinds.find? (sameUpToCase ·.name s) with
    | none =>
      have other := List.find?_eq_none.mp found k (every k)
      exact absurd (sameUpToCase_eq_true_iff.mpr same) other
    | some l =>
      have same' := List.find?_some found
      rw [eq_of_sameUpToCase same (sameUpToCase_eq_true_iff.mp same')]

/-- With the exact name tried first the same kind is found. -/
theorem lookup_eq_some_iff (every : ∀ l, l ∈ kinds) :
    lookup kinds s = some k ↔ SameUpToCase k.name s := by
  unfold lookup
  cases first : kinds.find? (·.name == s) with
  | none => exact find?_eq_some_iff every
  | some l =>
    have named : l.name = s := by simpa using List.find?_some first
    have same : SameUpToCase l.name s := by
      rw [named]
      exact sameUpToCase_refl s
    rw [Option.some_or, Option.some_inj]
    constructor
    · rintro rfl
      exact same
    · exact eq_of_sameUpToCase same

end Search

end Kind

/-- A text is read as the kind whose name it is up to the case of ASCII letters, and is refused as
    it stands if it is no kind's. One kind at most has such a name, so a search finds the same in
    every order of the kinds, whether or not it tries the exact name first. -/
theorem parse_eq_ok_iff_up_to_case (s : String) :
    (∀ k, Kind.parse s = .ok k ↔ SameUpToCase k.name s) ∧
      (∀ u, Kind.parse s = .error u ↔ u = ⟨s⟩ ∧ ∀ k : Kind, ¬ SameUpToCase k.name s) ∧
      (∀ k l : Kind, SameUpToCase k.name s → SameUpToCase l.name s → k = l) ∧
      ∀ kinds : List Kind, kinds.Perm Kind.all →
        Kind.lookup kinds s = Kind.lookup Kind.all s ∧
          kinds.find? (Kind.sameUpToCase ·.name s) = Kind.lookup Kind.all s := by
  have named (k : Kind) : Kind.lookup Kind.all s = some k ↔ SameUpToCase k.name s :=
    Kind.lookup_eq_some_iff Kind.mem_all
  refine ⟨fun k => ?_, fun u => ?_, fun k l => Kind.eq_of_sameUpToCase, fun kinds perm => ?_⟩
  · rw [← named, Kind.parse]
    cases Kind.lookup Kind.all s <;> simp
  · simp only [← named, Kind.parse]
    cases Kind.lookup Kind.all s <;> simp [eq_comm]
  · have every (l : Kind) : l ∈ kinds := perm.mem_iff.mpr l.mem_all
    constructor <;> refine Option.ext fun k => ?_
    · rw [named, Kind.lookup_eq_some_iff every]
    · rw [named, Kind.find?_eq_some_iff every]

/-- A name in other case, searched for from the last kind on. -/
theorem parse_eq_ok_iff_up_to_case_reversed :
    SameUpToCase Kind.tagOpen.name "tAGoPEN" ∧ Kind.parse "tAGoPEN" = .ok .tagOpen ∧
      (∀ l : Kind, SameUpToCase l.name "tAGoPEN" → l = .tagOpen) ∧
      Kind.all.reverse.Perm Kind.all ∧
      Kind.lookup Kind.all.reverse "tAGoPEN" = Kind.lookup Kind.all "tAGoPEN" := by
  obtain ⟨parsed, _, unique, ordered⟩ := parse_eq_ok_iff_up_to_case "tAGoPEN"
  have reversed : Kind.all.reverse.Perm Kind.all := List.reverse_perm _
  have same : SameUpToCase Kind.tagOpen.name "tAGoPEN" := (parsed .tagOpen).mp rfl
  exact ⟨same, rfl, fun l same' => unique l .tagOpen same' same, reversed,
    (ordered _ reversed).1⟩

/-- Characters that other foldings take for the ASCII letter are not that letter here. -/
example : Kind.parse "\u017flash" = .error ⟨"\u017flash"⟩ := rfl

end MarkupLexer
