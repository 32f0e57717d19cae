import MarkupLexer.Token
import MarkupLexer.Automaton

/-!
# The value that is being collected

A value grows character by character and becomes a token when a character or the end of the input
ends it. `Action.apply` is the whole effect of an action: on the value, and in tokens.
-/

namespace MarkupLexer

/-- A value that is not complete yet. -/
structure Accumulator where
  kind : Kind
  value : String
  /-- The offset of the first character of the value. -/
  start : Nat
  deriving DecidableEq, Repr

namespace Accumulator

def push (a : Accumulator) (c : Char) : Accumulator := { a with value := a.value.push c }

/-- The end of the value so far. -/
def stop (a : Accumulator) : Nat := a.start + a.value.utf8ByteSize

def token (a : Accumulator) : Token := ⟨a.kind, a.value, ⟨a.start, a.stop⟩⟩

end Accumulator

/-- The effect of an action of the character `c` at `offset` when `current` is being collected: what
    is being collected afterwards, and the tokens that are complete. -/
def Action.apply (current : Option Accumulator) (offset : Nat) (c : Char) :
    Action → Option Accumulator × List Token
  | skip => (current, [])
  | emit kind => (current, [.structural kind c offset])
  | begin kind => (some ⟨kind, String.singleton c, offset⟩, [])
  | openAfter kind => (some ⟨kind, "", offset + c.utf8Size⟩, [])
  | extend => (current.map (·.push c), [])
  | flush => (none, current.toList.map (·.token))
  | flushThen kind => (none, current.toList.map (·.token) ++ [.structural kind c offset])

/-! ### In 64-bit arithmetic -/

/-- The token of a value, when its end is in range. -/
def Accumulator.token? (a : Accumulator) : Option Token :=
  (advance? a.start a.value.utf8ByteSize).map fun stop => ⟨a.kind, a.value, ⟨a.start, stop⟩⟩

theorem Accumulator.token?_eq_some_iff {a : Accumulator} {t : Token} :
    a.token? = some t ↔ a.stop < offsetLimit ∧ a.token = t := by
  simp [token?, token, stop, Option.map_eq_some_iff, advance?_eq_some_iff, and_assoc]

theorem Accumulator.mapM_token?_eq_some_iff {current : Option Accumulator} {ts : List Token} :
    current.toList.mapM (fun a : Accumulator => a.token?) = some ts ↔
      (∀ a ∈ current, a.stop < offsetLimit) ∧ current.toList.map (·.token) = ts := by
  cases current <;> simp [Option.bind_eq_some_iff, token?_eq_some_iff, and_assoc]

/-- The effect of an action, when every offset that it computes is in range. -/
def Action.apply? (current : Option Accumulator) (offset : Nat) (c : Char) :
    Action → Option (Option Accumulator × List Token)
  | skip => some (current, [])
  | emit kind => do return (current, [← Token.structural? kind c offset])
  | begin kind => some (some ⟨kind, String.singleton c, offset⟩, [])
  | openAfter kind => do return (some ⟨kind, "", ← advance? offset c.utf8Size⟩, [])
  | extend => some (current.map (·.push c), [])
  | flush => do return (none, ← current.toList.mapM (·.token?))
  | flushThen kind => do
    return (none, (← current.toList.mapM (·.token?)) ++ [← Token.structural? kind c offset])

/-- The offsets that an action computes. -/
def Action.sums (current : Option Accumulator) (offset : Nat) (c : Char) : Action → List Nat
  | skip | begin _ | extend => []
  | emit _ | openAfter _ => [offset + c.utf8Size]
  | flush => current.toList.map (·.stop)
  | flushThen _ => current.toList.map (·.stop) ++ [offset + c.utf8Size]

theorem Action.apply?_eq_some_iff {current : Option Accumulator} {offset : Nat} {c : Char}
    {a : Action} {effect : Option Accumulator × List Token} :
    a.apply? current offset c = some effect ↔
      (∀ stop ∈ a.sums current offset c, stop < offsetLimit) ∧
        a.apply current offset c = effect := by
  cases a <;>
    simp [apply, Action.apply?, sums, Option.bind_eq_some_iff, advance?_eq_some_iff,
      Token.structural?_eq_some_iff, Accumulator.mapM_token?_eq_some_iff, or_imp, forall_and,
      and_assoc]

theorem Action.length_apply_le (current : Option Accumulator) (offset : Nat) (c : Char)
    (a : Action) : (a.apply current offset c).2.length ≤ 2 := by
  cases a <;> cases current <;> simp [Action.apply]

end MarkupLexer
