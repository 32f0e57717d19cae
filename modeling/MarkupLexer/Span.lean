/-!
# Offsets and spans

Places in the input are byte offsets of its UTF-8 form, and they fit a 64-bit word. The sums and
differences that may leave that range return nothing when they do.
-/

namespace MarkupLexer

/-- The least number that no offset reaches, two to the power of 64. -/
def offsetLimit : Nat := 18446744073709551616

/-- The offset `n` bytes after `offset`, when it is in range. -/
def advance? (offset n : Nat) : Option Nat :=
  if offset + n < offsetLimit then some (offset + n) else none

/-- The bytes from `start` up to `stop`. -/
structure Span where
  start : Nat := 0
  stop : Nat := 0
  deriving DecidableEq, Repr

namespace Span

/-- The number of bytes; a span that ends before it starts has none. -/
def length? (s : Span) : Option Nat :=
  if s.start ≤ s.stop then some (s.stop - s.start) else none

/-- Whether a span starts where it ends. -/
def isEmpty (s : Span) : Bool := s.start == s.stop

/-- The span moved `n` bytes to the right. -/
def shift (n : Nat) (s : Span) : Span := ⟨s.start + n, s.stop + n⟩

theorem length?_eq_some_iff {s : Span} {n : Nat} : s.length? = some n ↔ s.stop = s.start + n := by
  unfold length?
  split <;> simp <;> omega

end Span

theorem advance?_eq_some_iff {offset n stop : Nat} :
    advance? offset n = some stop ↔ stop = offset + n ∧ stop < offsetLimit := by
  unfold advance?
  split <;> simp <;> omega

end MarkupLexer
