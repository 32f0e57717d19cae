import MarkupLexer.Lexer

/-!
# The lexer in 64-bit arithmetic

The rounds and calls of a lexer with every offset checked that they compute: where one is not in
range they come to nothing, and else to what they come to without the check. The offset of a
character comes with the input and is not computed.
-/

namespace MarkupLexer.Lexer

/-- Reads the character `c`, which the characters `cs` follow. -/
def read? (l : Lexer) (c : Char) (cs : List Char) : Option Round :=
  match step l.state c with
  | .error fault => some (l.fail fault)
  | .ok (next, action) => do
    let effect ← action.apply? l.current l.offset c
    return .goesOn
      { l with
        unread := cs
        offset := l.offset + c.utf8Size
        state := next
        current := effect.1
        pending := l.pending ++ effect.2 }

/-- Handles the end of the input. -/
def readEnd? (l : Lexer) : Option Round :=
  match finish l.trailing l.state with
  | .error fault => some (l.fail fault)
  | .ok .done => some (.goesOn { l with finished := true })
  | .ok .flush => do
    let last ← l.current.toList.mapM (fun a : Accumulator => a.token?)
    return .goesOn { l with current := none, pending := l.pending ++ last, finished := true }

/-- One round of a call. -/
def round? (l : Lexer) : Option Round :=
  match l.pending with
  | t :: ts => some (.ends (some (.ok t)) { l with pending := ts })
  | [] =>
    if l.finished then some (.ends none l)
    else
      match l.unread with
      | c :: cs => l.read? c cs
      | [] => l.readEnd?

/-! ### Offsets that are computed -/

/-- The offsets that reading the character `c` computes. -/
def sumsOfRead (l : Lexer) (c : Char) : List Nat :=
  match step l.state c with
  | .error _ => []
  | .ok (_, action) => action.sums l.current l.offset c

/-- The offsets that handling the end of the input computes. -/
def sumsOfReadEnd (l : Lexer) : List Nat :=
  match finish l.trailing l.state with
  | .error _ | .ok .done => []
  | .ok .flush => l.current.toList.map (·.stop)

/-- The offsets that the next round computes. -/
def sums (l : Lexer) : List Nat :=
  match l.pending with
  | _ :: _ => []
  | [] =>
    if l.finished then []
    else
      match l.unread with
      | c :: _ => l.sumsOfRead c
      | [] => l.sumsOfReadEnd

/-- A round that computes an offset reads a character or handles the end of the input. -/
theorem exists_of_mem_sums {l : Lexer} {stop : Nat} (computed : stop ∈ l.sums) :
    l.pending = [] ∧ l.finished = false ∧
      ((∃ c cs, l.unread = c :: cs ∧ stop ∈ l.sumsOfRead c) ∨
        l.unread = [] ∧ stop ∈ l.sumsOfReadEnd) := by
  unfold sums at computed
  cases waiting : l.pending with
  | cons t ts => simp [waiting] at computed
  | nil =>
    cases running : l.finished with
    | true => simp [waiting, running] at computed
    | false =>
      cases unread : l.unread with
      | nil => exact ⟨rfl, rfl, .inr ⟨rfl, by simpa [waiting, running, unread] using computed⟩⟩
      | cons c cs =>
        exact ⟨rfl, rfl, .inl ⟨c, cs, rfl, by simpa [waiting, running, unread] using computed⟩⟩

theorem read?_eq_some_iff {l : Lexer} {c : Char} {cs : List Char} {round : Round} :
    l.read? c cs = some round ↔
      (∀ stop ∈ l.sumsOfRead c, stop < offsetLimit) ∧ l.read c cs = round := by
  unfold read? read sumsOfRead
  cases step l.state c with
  | error fault => simp
  | ok moved => simp [Option.bind_eq_some_iff, Action.apply?_eq_some_iff, and_assoc]

theorem readEnd?_eq_some_iff {l : Lexer} {round : Round} :
    l.readEnd? = some round ↔
      (∀ stop ∈ l.sumsOfReadEnd, stop < offsetLimit) ∧ l.readEnd = round := by
  unfold readEnd? readEnd sumsOfReadEnd
  rcases finish l.trailing l.state with fault | _ | _
  · simp
  · simp
  · simp [Option.bind_eq_some_iff, Accumulator.mapM_token?_eq_some_iff, and_assoc]

/-- A round comes to what it comes to without the check, if what it computes is in range, and else
    to nothing. -/
theorem round?_eq_some_iff {l : Lexer} {round : Round} :
    l.round? = some round ↔ (∀ stop ∈ l.sums, stop < offsetLimit) ∧ l.round = round := by
  unfold round? Lexer.round sums
  cases l.pending with
  | cons t ts => simp
  | nil =>
    cases l.finished with
    | true => simp
    | false =>
      cases l.unread with
      | nil => exact readEnd?_eq_some_iff
      | cons c cs => exact read?_eq_some_iff

/-- The token of a character at the last offset in range would end out of range. -/
example : ({ unread := ['<'], offset := offsetLimit - 1 } : Lexer).round?.isNone := by decide

/-! ### Calls -/

/-- The next item, or nothing at the end, and the lexer after the call. -/
def next? (l : Lexer) : Option (Option Item × Lexer) :=
  match _ : l.round? with
  | none => none
  | some (.ends item rest) => some (item, rest)
  | some (.goesOn rest) => rest.next?
termination_by l.roundsLeft
decreasing_by
  have := roundsLeft_of_round_goesOn (round?_eq_some_iff.mp ‹_›).2
  omega

theorem next?_of_ends {l rest : Lexer} {item : Option Item}
    (checked : l.round? = some (.ends item rest)) : l.next? = some (item, rest) := by
  rw [next?]
  split <;> simp_all

theorem next?_of_goesOn {l rest : Lexer} (checked : l.round? = some (.goesOn rest)) :
    l.next? = rest.next? := by
  rw [next?]
  split <;> simp_all

end MarkupLexer.Lexer
