import MarkupLexer.Proofs.Printing
import MarkupLexer.Proofs.Progress

/-!
# Consistency

The type of a lexer lets values and tokens be lost in silence: an action that goes on with a value
or ends it does nothing when there is none, one that begins a value writes over another, and a fault
drops what waits. None of it happens. The value that is being collected is a slice of the input that
ends where the lexer has read to, the actions find it when they need it and only then, and all
complete tokens have been given before another character is read.
-/

namespace MarkupLexer

/-! ### What actions find -/

/-- An action finds a value where it goes on with one or ends it, and none anywhere else. -/
def Action.Finds (current : Option Accumulator) : Action → Prop
  | extend | flush | flushThen _ => current ≠ none
  | skip | emit _ | begin _ | openAfter _ => current = none

/-- The end of the input finds a value where it ends one, and only there. -/
def EndAction.Finds (current : Option Accumulator) : EndAction → Prop
  | flush => current ≠ none
  | done => current = none

namespace Reading

variable {k : Reading}

theorem Sound.current_ne_none {kind : Kind} (sound : k.Sound)
    (collecting : k.state.collects = some kind) : k.current ≠ none := by
  obtain ⟨a, held, _⟩ := sound.exists_current collecting
  simp [held]

theorem Sound.finds {c : Char} {next : State} {action : Action} (sound : k.Sound)
    (moved : Moves k.state c next action) : action.Finds k.current := by
  have fits := moved.fits
  cases action with
  | skip | emit kind | begin kind | openAfter kind => exact sound.current_eq_none fits.1
  | extend =>
    obtain ⟨kind, collecting, _⟩ := fits
    exact sound.current_ne_none collecting
  | flush | flushThen kind =>
    obtain ⟨⟨kind, collecting⟩, _⟩ := fits
    exact sound.current_ne_none collecting

theorem Sound.finds_at_end {trailing : TrailingText} {ending : EndAction} (sound : k.Sound)
    (ended : finish trailing k.state = .ok ending) : ending.Finds k.current := by
  rcases finish_eq_ok_iff.mp ended with ⟨closed, rfl⟩ | ⟨reading, _, rfl⟩
  · exact sound.current_eq_none (congrArg State.collects closed)
  · exact sound.current_ne_none (congrArg State.collects reading)

end Reading

/-- What is collected is the last part of what was read. -/
theorem Run.exists_slice {cs : List Char} {ts : List Token} {k : Reading} {a : Accumulator}
    (run : Run {} cs ts k) (collected : k.current = some a) :
    ∃ before, String.ofList cs = before ++ a.value ∧ a.start = before.utf8ByteSize ∧
      k.offset = (before ++ a.value).utf8ByteSize := by
  have printed : toSource ts ++ k.held = String.ofList cs := by
    simpa [Reading.held] using run.toSource_append_held Reading.sound_start
  have slice : String.ofList cs = (toSource ts ++ a.kind.opening) ++ a.value := by
    rw [← printed, Reading.held, collected, String.append_assoc]
  have stop : a.start + a.value.utf8ByteSize = k.offset :=
    (run.sound Reading.sound_start).stop a collected
  have size := run.utf8ByteSize_eq
  rw [slice] at size
  refine ⟨_, slice, ?_, size.symm⟩
  rw [String.utf8ByteSize_append] at size
  omega

namespace Lexer

variable {source : String} {trailing : TrailingText} {l : Lexer}

/-! ### What waits -/

/-- Nothing waits when a round reads a character or handles the end of the input. -/
theorem Turns.pending_eq_nil {round : Round} (turn : Turns l round)
    (moves : round.rest.unread ≠ l.unread ∨ round.rest.finished ≠ l.finished) :
    l.pending = [] := by
  cases turn with
  | gives waiting => simp [Round.rest] at moves
  | rests empty | reads empty | refuses empty | completes empty | flushes empty
  | truncates empty => exact empty

theorem Turns.pending_eq_nil_of_error {e : LexError} {rest : Lexer}
    (turn : Turns l (.ends (some (.error e)) rest)) : l.pending = [] := by
  cases turn with
  | refuses empty | truncates empty => exact empty

theorem Turns.length_pending_le {round : Round} (turn : Turns l round)
    (few : l.pending.length ≤ 2) : round.rest.pending.length ≤ 2 := by
  cases turn with
  | gives waiting =>
    rw [waiting] at few
    exact Nat.le_of_succ_le few
  | rests | completes => exact few
  | reads => exact Action.length_apply_le ..
  | refuses | truncates => exact Nat.zero_le _
  | flushes =>
    change (l.current.toList.map _).length ≤ 2
    cases l.current <;> simp

theorem Reachable.length_pending_le (reachable : Reachable source trailing l) :
    l.pending.length ≤ 2 := by
  induction reachable with
  | start => exact Nat.zero_le _
  | @round l _ ih => exact (turns_round l).length_pending_le ih

/-! ### Reachable lexers -/

theorem Progress.running_of_collected {given : List Token} {failure : Option LexError}
    {a : Accumulator} (progress : Progress source trailing given failure l)
    (collected : l.current = some a) : l.finished = false := by
  cases finished : l.finished with
  | false => rfl
  | true => rw [progress.idle finished] at collected; contradiction

/-- What is so of a lexer of an input between two rounds. -/
structure Consistent (source : String) (l : Lexer) : Prop where
  /-- A value is collected in the states that are inside of one, and is of the kind of the state. -/
  kind : l.finished = false → l.current.map (·.kind) = l.state.collects
  admits : ∀ a ∈ l.current, a.kind.Admits a.value
  /-- It is the slice of the input from its first character to where the lexer has read to. -/
  slice : ∀ a ∈ l.current, ∃ before, source = before ++ a.value ++ String.ofList l.unread ∧
    a.start = before.utf8ByteSize ∧ l.offset = (before ++ a.value).utf8ByteSize
  idle : l.finished = true → l.current = none
  few : l.pending.length ≤ 2
  /-- Nothing waits when a character is read or the end of the input is handled. -/
  settled : l.round.rest.unread ≠ l.unread ∨ l.round.rest.finished ≠ l.finished → l.pending = []
  /-- No action misses a value or writes over one. -/
  finds : l.finished = false → ∀ c next action, step l.state c = .ok (next, action) →
    action.Finds l.current
  finds_at_end : l.finished = false → ∀ ending, finish l.trailing l.state = .ok ending →
    ending.Finds l.current
  /-- No complete token is dropped with a fault. -/
  undropped : ∀ e rest, l.round = .ends (some (.error e)) rest → l.pending = []

/-- A lexer that an input comes to by rounds loses nothing: it has a value just where its state is
    inside of one, and that is the input from where the value begins to where it has read to. -/
theorem consistent_of_reachable (reachable : Reachable source trailing l) :
    l.Consistent source := by
  obtain ⟨given, failure, progress⟩ := reachable.exists_progress
  have turn := turns_round l
  refine ⟨fun running => (progress.sound running).kind, fun a collected => ?_,
    fun a collected => ?_, progress.idle, reachable.length_pending_le, turn.pending_eq_nil,
    fun running c next action moved => ?_, fun running ending ended => ?_,
    fun e rest failed => ?_⟩
  · have running := progress.running_of_collected collected
    exact (progress.sound running).admits a collected
  · have running := progress.running_of_collected collected
    obtain ⟨_, _, read, split, run⟩ := progress.exists_run running
    obtain ⟨before, slice, start, offset⟩ := run.exists_slice collected
    refine ⟨before, ?_, start, offset⟩
    rw [← slice]
    exact eq_append_of_toList_eq split
  · exact (progress.sound running).finds (moves_of_step moved)
  · exact (progress.sound running).finds_at_end ended
  · rw [failed] at turn
    exact turn.pending_eq_nil_of_error

/-- The lexer that has read a text of one character, of two bytes, after three rounds that gave a
    token and four that read one character each. -/
theorem consistent_of_reachable_text :
    ∃ l, Reachable "<a>é=" .accept l ∧ l.current = some ⟨.text, "é", 3⟩ ∧ l.unread = ['='] ∧
      l.Consistent "<a>é=" := by
  have reachable : Reachable "<a>é=" .accept _ :=
    Reachable.start.round.round.round.round.round.round.round
  exact ⟨_, reachable, rfl, rfl, consistent_of_reachable reachable⟩

end Lexer
end MarkupLexer
