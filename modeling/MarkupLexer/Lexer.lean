import MarkupLexer.Accumulator

/-!
# The pull lexer

A lexer holds an input that it has read up to some place, and gives its tokens one at a time. It
reads no further than it must: a call of `next` runs rounds, each of which gives a waiting token,
reads one character or handles the end of the input, until it has something to give.

A fault is given once, after all tokens before it, and nothing is given after it.
-/

namespace MarkupLexer

/-- What a lexer gives: a token or the error that stops it. -/
abbrev Item := Except LexError Token

structure Lexer where
  /-- The characters that are still to be read. -/
  unread : List Char
  /-- The offset of the first of them. -/
  offset : Nat := 0
  state : State := .start
  /-- The value that is being collected. -/
  current : Option Accumulator := none
  /-- Complete tokens that have not been given yet, the next one first. -/
  pending : List Token := []
  trailing : TrailingText := .accept
  /-- Whether the end of the input has been handled or a fault has been given. -/
  finished : Bool := false
  deriving DecidableEq, Repr

namespace Lexer

/-- A lexer at the beginning of an input. -/
def ofString (source : String) (trailing : TrailingText := .accept) : Lexer :=
  { unread := source.toList, trailing }

/-- What a round of a call comes to. -/
inductive Round where
  /-- The call gives an item, or nothing at the end. -/
  | ends (item : Option Item) (rest : Lexer)
  /-- The call takes another round. -/
  | goesOn (rest : Lexer)

/-- The lexer after a round. -/
def Round.rest : Round → Lexer
  | ends _ rest | goesOn rest => rest

/-- A fault at the place that the lexer has read up to. -/
def fail (l : Lexer) (fault : Fault) : Round :=
  .ends (some (.error ⟨fault, l.offset⟩))
    { l with current := none, pending := [], finished := true }

/-- Reads the character `c`, which the characters `cs` follow. -/
def read (l : Lexer) (c : Char) (cs : List Char) : Round :=
  match step l.state c with
  | .error fault => l.fail fault
  | .ok (next, action) =>
    let effect := action.apply l.current l.offset c
    .goesOn
      { l with
        unread := cs
        offset := l.offset + c.utf8Size
        state := next
        current := effect.1
        pending := l.pending ++ effect.2 }

/-- Handles the end of the input. -/
def readEnd (l : Lexer) : Round :=
  match finish l.trailing l.state with
  | .error fault => l.fail fault
  | .ok .done => .goesOn { l with finished := true }
  | .ok .flush =>
    .goesOn
      { l with
        current := none
        pending := l.pending ++ l.current.toList.map (·.token)
        finished := true }

/-- One round of a call. -/
def round (l : Lexer) : Round :=
  match l.pending with
  | t :: ts => .ends (some (.ok t)) { l with pending := ts }
  | [] =>
    if l.finished then .ends none l
    else
      match l.unread with
      | c :: cs => l.read c cs
      | [] => l.readEnd

/-- The lexers that an input comes to by rounds. -/
inductive Reachable (source : String) (trailing : TrailingText) : Lexer → Prop
  | start : Reachable source trailing (.ofString source trailing)
  | round {l : Lexer} : Reachable source trailing l → Reachable source trailing l.round.rest

/-! ### Calls -/

/-- How many rounds there can be that give nothing. -/
def roundsLeft (l : Lexer) : Nat := l.unread.length + if l.finished then 0 else 1

theorem roundsLeft_of_round_goesOn {l rest : Lexer} (h : l.round = .goesOn rest) :
    l.roundsLeft = rest.roundsLeft + 1 := by
  unfold round read readEnd fail at h
  unfold roundsLeft
  grind

/-- The next item, or nothing at the end, and the lexer after the call. -/
def next (l : Lexer) : Option Item × Lexer :=
  match _ : l.round with
  | .ends item rest => (item, rest)
  | .goesOn rest => rest.next
termination_by l.roundsLeft
decreasing_by
  have := roundsLeft_of_round_goesOn ‹_›
  omega

/-- How many rounds a call takes. -/
def roundsTaken (l : Lexer) : Nat :=
  match _ : l.round with
  | .ends _ _ => 1
  | .goesOn rest => rest.roundsTaken + 1
termination_by l.roundsLeft
decreasing_by
  have := roundsLeft_of_round_goesOn ‹_›
  omega

theorem next_of_ends {l rest : Lexer} {item : Option Item} (h : l.round = .ends item rest) :
    l.next = (item, rest) := by
  rw [next]
  split <;> simp_all

theorem next_of_goesOn {l rest : Lexer} (h : l.round = .goesOn rest) : l.next = rest.next := by
  rw [next]
  split <;> simp_all

/-- The lexer after a number of calls. -/
def afterCalls : Nat → Lexer → Lexer
  | 0, l => l
  | n + 1, l => afterCalls n l.next.2

/-! ### Runs of calls -/

/-- A bound on the items to come: three for each character and for the end, and the waiting tokens.
    A round that reads takes three and adds two tokens at most. -/
def potential (l : Lexer) : Nat :=
  3 * l.unread.length + l.pending.length + if l.finished then 0 else 3

theorem potential_of_round_goesOn {l rest : Lexer} (h : l.round = .goesOn rest) :
    rest.potential < l.potential := by
  have le (a : Action) (c : Char) := a.length_apply_le l.current l.offset c
  have one : (l.current.toList.map (·.token)).length ≤ 1 := by cases l.current <;> simp
  unfold round read readEnd fail at h
  unfold potential
  grind

theorem potential_of_round_ends {l rest : Lexer} {item : Item}
    (h : l.round = .ends (some item) rest) : rest.potential < l.potential := by
  unfold round read readEnd fail at h
  unfold potential
  grind

theorem potential_of_next {l rest : Lexer} {item : Item} (h : l.next = (some item, rest)) :
    rest.potential < l.potential := by
  fun_induction next l with
  | case1 l given after hr => cases h; exact potential_of_round_ends hr
  | case2 l after hr ih => exact Nat.lt_trans (ih h) (potential_of_round_goesOn hr)

/-- What up to `n` calls give, the last of them being the first that gives nothing. -/
def take : Nat → Lexer → List (Option Item) × Lexer
  | 0, l => ([], l)
  | n + 1, l =>
    match l.next with
    | (none, rest) => ([none], rest)
    | (some item, rest) =>
      let more := take n rest
      (some item :: more.1, more.2)

/-- What the calls up to the first that gives nothing give. -/
def drain (l : Lexer) : List (Option Item) × Lexer :=
  match _ : l.next with
  | (none, rest) => ([none], rest)
  | (some item, rest) =>
    let more := rest.drain
    (some item :: more.1, more.2)
termination_by l.potential
decreasing_by exact potential_of_next ‹_›

/-- The tokens up to the first error or the end, and the error. -/
def split (l : Lexer) : List Token × Option LexError :=
  match _ : l.next with
  | (none, _) => ([], none)
  | (some (.error e), _) => ([], some e)
  | (some (.ok t), rest) =>
    let more := rest.split
    (t :: more.1, more.2)
termination_by l.potential
decreasing_by exact potential_of_next ‹_›

/-- All tokens, or the first error. -/
def tokens (l : Lexer) : Except LexError (List Token) :=
  match _ : l.next with
  | (none, _) => .ok []
  | (some (.error e), _) => .error e
  | (some (.ok t), rest) =>
    match rest.tokens with
    | .ok ts => .ok (t :: ts)
    | .error e => .error e
termination_by l.potential
decreasing_by exact potential_of_next ‹_›

end Lexer

/-! ### Whole inputs -/

/-- The tokens of an input, or its error. -/
def tokenize (source : String) (trailing : TrailingText := .accept) :
    Except LexError (List Token) :=
  (Lexer.ofString source trailing).tokens

/-- The tokens of an input up to its error, and the error. -/
def tokenizePartial (source : String) (trailing : TrailingText := .accept) :
    List Token × Option LexError :=
  (Lexer.ofString source trailing).split

/-- Whether an input has no error. -/
def validate (source : String) : Bool := (tokenize source).isOk

end MarkupLexer
