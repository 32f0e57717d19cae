import MarkupLexer.Proofs.Collecting

/-!
# The progress of a lexer

A lexer runs over its input, or it rests after the end of the input or after an error. In each of
the three a run of the automaton over what was read leads to the state that the lexer is in, and the
tokens of the run are those that the lexer has given and those that wait to be given. Every round
leads from one of the three to one of them, so this holds of all lexers that an input comes to.
-/

namespace MarkupLexer

/-! ### Counting tokens -/

/-- In a sound reading a move completes as many tokens as its action says. -/
theorem Reading.Sound.length_emitted {k : Reading} {c : Char} {next : State} {action : Action}
    (sound : k.Sound) (moved : Moves k.state c next action) :
    (k.emitted c action).length = action.completes := by
  have fits := moved.fits
  cases action with
  | skip | emit kind | begin kind | openAfter kind | extend => rfl
  | flush =>
    obtain ⟨⟨kind, collecting⟩, _⟩ := fits
    obtain ⟨a, held, _⟩ := sound.exists_current collecting
    simp [emitted, Action.apply, Action.completes, held]
  | flushThen other =>
    obtain ⟨⟨kind, collecting⟩, _⟩ := fits
    obtain ⟨a, held, _⟩ := sound.exists_current collecting
    simp [emitted, Action.apply, Action.completes, held]

theorem Run.length_eq_completed {k k' : Reading} {cs : List Char} {ts : List Token}
    (run : Run k cs ts k') (sound : k.Sound) : ts.length = completed k.state cs := by
  induction run with
  | stay k => rfl
  | move moved _ ih =>
    rw [List.length_append, sound.length_emitted moved, ih (sound.after moved), completed,
      moved.step_eq]
    rfl

theorem completed_le_of_prefix {s : State} {cs ds : List Char} (leads : cs <+: ds) :
    completed s cs ≤ completed s ds := by
  induction cs generalizing s ds with
  | nil => exact Nat.zero_le _
  | cons c cs ih =>
    obtain ⟨rest, rfl⟩ := leads
    rw [List.cons_append, completed, completed]
    cases step s c with
    | error fault => exact Nat.le_refl _
    | ok moved => exact Nat.add_le_add_left (ih (List.prefix_append cs rest)) _

namespace Lexer

/-! ### Phases -/

/-- Where a lexer of an input stands that has given these tokens, and this error if one. -/
inductive Progress (source : String) (trailing : TrailingText) :
    List Token → Option LexError → Lexer → Prop
  /-- It stands where the run over what was read ends, and no character before the last one that
      was read had completed more than what was given. -/
  | running {read : List Char} {given : List Token} {l : Lexer} (policy : l.trailing = trailing)
      (running : l.finished = false) (split : source.toList = read ++ l.unread)
      (run : Run {} read (given ++ l.pending) l.reading)
      (needed : completed .start read.dropLast ≤ given.length) :
      Progress source trailing given none l
  /-- It has read the whole input, and given all but the token that the end completes before it
      gives that. -/
  | ended {given ts : List Token} {k : Reading} {ending : EndAction} {l : Lexer}
      (finished : l.finished = true) (unread : l.unread = []) (idle : l.current = none)
      (run : Run {} source.toList ts k) (state : k.state = l.state)
      (ended : finish trailing k.state = .ok ending) (all : ts <+: given)
      (tokens : given ++ l.pending = ts ++ k.emittedAtEnd ending) :
      Progress source trailing given none l
  /-- It has given all that is complete before the error. -/
  | failed {read : List Char} {given : List Token} {k : Reading} {e : LexError} {l : Lexer}
      (finished : l.finished = true) (empty : l.pending = []) (idle : l.current = none)
      (split : source.toList = read ++ l.unread) (run : Run {} read given k)
      (state : k.state = l.state) (offset : e.offset = k.offset) :
      Progress source trailing given (some e) l

variable {source : String} {trailing : TrailingText} {given : List Token}
  {failure : Option LexError} {l : Lexer}

theorem progress_ofString (source : String) (trailing : TrailingText) :
    Progress source trailing [] none (.ofString source trailing) :=
  .running rfl rfl (List.nil_append _).symm (.stay _) (Nat.le_refl 0)

/-- A lexer that has given this and that goes on with a round. -/
def Continues (source : String) (trailing : TrailingText) (given : List Token)
    (failure : Option LexError) : Round → Prop
  | .ends (some (.ok t)) rest => failure = none ∧ Progress source trailing (given ++ [t]) none rest
  | .ends (some (.error e)) rest => failure = none ∧ Progress source trailing given (some e) rest
  | .ends none rest =>
    Progress source trailing given failure rest ∧ rest.finished = true ∧ rest.pending = []
  | .goesOn rest => Progress source trailing given failure rest

theorem Progress.gives {t : Token} {ts : List Token}
    (progress : Progress source trailing given failure l) (waiting : l.pending = t :: ts) :
    failure = none ∧ Progress source trailing (given ++ [t]) none { l with pending := ts } := by
  cases progress with
  | running policy running split run needed =>
    refine ⟨rfl, .running policy running split ?_ ?_⟩
    · simpa [waiting, reading] using run
    · rw [List.length_append]
      exact Nat.le_add_right_of_le needed
  | ended finished unread idle run state ended all tokens =>
    have all : _ <+: given ++ [t] := all.trans (List.prefix_append given [t])
    refine ⟨rfl, .ended finished unread idle run state ended all ?_⟩
    simpa [waiting] using tokens
  | failed finished empty => rw [empty] at waiting; contradiction

/-- What a running lexer has read, and the run over it. -/
theorem Progress.exists_run (progress : Progress source trailing given failure l)
    (running : l.finished = false) :
    failure = none ∧ l.trailing = trailing ∧
      ∃ read, source.toList = read ++ l.unread ∧ Run {} read (given ++ l.pending) l.reading := by
  cases progress with
  | running policy _ split run _ => exact ⟨rfl, policy, _, split, run⟩
  | ended finished | failed finished => rw [finished] at running; contradiction

theorem Progress.exists_run_of_empty (progress : Progress source trailing given failure l)
    (empty : l.pending = []) (running : l.finished = false) :
    failure = none ∧ l.trailing = trailing ∧
      ∃ read, source.toList = read ++ l.unread ∧ Run {} read given l.reading := by
  simpa [empty] using progress.exists_run running

theorem Progress.sound (progress : Progress source trailing given failure l)
    (running : l.finished = false) : l.reading.Sound := by
  obtain ⟨_, _, read, _, run⟩ := progress.exists_run running
  exact run.sound Reading.sound_start

/-- Nothing is collected any more in a lexer that does not run. -/
theorem Progress.idle (progress : Progress source trailing given failure l)
    (finished : l.finished = true) : l.current = none := by
  cases progress with
  | running _ running => rw [running] at finished; contradiction
  | ended _ _ idle | failed _ _ idle => exact idle

/-- A round leads from where a lexer stands to where it stands then. -/
theorem Progress.continues (progress : Progress source trailing given failure l) {round : Round}
    (turn : Turns l round) : Continues source trailing given failure round := by
  cases turn with
  | gives waiting => exact progress.gives waiting
  | rests empty finished => exact ⟨progress, finished, empty⟩
  | @reads c cs next action empty running unread moved =>
    obtain ⟨rfl, policy, read, split, run⟩ := progress.exists_run_of_empty empty running
    have split : source.toList = (read ++ [c]) ++ cs := by rw [split, unread, List.append_cons]
    have count : completed .start (read ++ [c]).dropLast = given.length := by
      rw [List.dropLast_concat]
      exact (run.length_eq_completed Reading.sound_start).symm
    exact .running policy running split (run.append (.single moved)) (Nat.le_of_eq count)
  | refuses empty running unread refused =>
    obtain ⟨rfl, policy, read, split, run⟩ := progress.exists_run_of_empty empty running
    exact ⟨rfl, .failed rfl rfl rfl split run rfl rfl⟩
  | completes empty running unread ended =>
    obtain ⟨rfl, policy, read, split, run⟩ := progress.exists_run_of_empty empty running
    obtain rfl : source.toList = read := by rw [split, unread, List.append_nil]
    rw [policy] at ended
    have closed : l.state = .afterTagClose := by simpa using finish_eq_ok_iff.mp ended
    have idle : l.current = none :=
      (run.sound Reading.sound_start).current_eq_none (congrArg State.collects closed)
    refine .ended rfl unread idle run rfl ended (List.prefix_refl _) ?_
    simp [empty, Reading.emittedAtEnd]
  | flushes empty running unread ended =>
    obtain ⟨rfl, policy, read, split, run⟩ := progress.exists_run_of_empty empty running
    obtain rfl : source.toList = read := by rw [split, unread, List.append_nil]
    rw [policy] at ended
    exact .ended rfl unread rfl run rfl ended (List.prefix_refl _) rfl
  | truncates empty running unread ended =>
    obtain ⟨rfl, policy, read, split, run⟩ := progress.exists_run_of_empty empty running
    exact ⟨rfl, .failed rfl rfl rfl split run rfl rfl⟩

theorem Progress.continues_round (progress : Progress source trailing given failure l) :
    Continues source trailing given failure l.round :=
  progress.continues (turns_round l)

/-- Every lexer that an input comes to by rounds stands somewhere in it. -/
theorem Reachable.exists_progress (reachable : Reachable source trailing l) :
    ∃ given failure, Progress source trailing given failure l := by
  induction reachable with
  | start => exact ⟨[], none, progress_ofString source trailing⟩
  | @round l _ ih =>
    obtain ⟨given, failure, progress⟩ := ih
    have continues := progress.continues_round
    generalize l.round = round at continues ⊢
    match round, continues with
    | .ends (some (.ok t)) rest, ⟨_, progress⟩ => exact ⟨_, _, progress⟩
    | .ends (some (.error e)) rest, ⟨_, progress⟩ => exact ⟨_, _, progress⟩
    | .ends none rest, ⟨progress, _⟩ => exact ⟨_, _, progress⟩
    | .goesOn rest, progress => exact ⟨_, _, progress⟩

/-! ### Calls -/

/-- A call is rounds, the last of which gives what the call gives. -/
theorem Progress.continues_next (progress : Progress source trailing given failure l) :
    Continues source trailing given failure (.ends l.next.1 l.next.2) := by
  fun_induction next l with
  | case1 l item rest ended =>
    rw [← ended]
    exact progress.continues_round
  | case2 l rest goesOn ih =>
    have continues := progress.continues_round
    rw [goesOn] at continues
    exact ih continues

/-- A token that a call gives waits first in a lexer that the call comes to. -/
theorem Progress.exists_giver {t : Token} {rest : Lexer}
    (progress : Progress source trailing given failure l) (called : l.next = (some (.ok t), rest)) :
    ∃ giver, Progress source trailing given failure giver ∧ giver.pending = t :: rest.pending ∧
      rest = { giver with pending := rest.pending } := by
  fun_induction next l with
  | case1 l item after ended =>
    obtain ⟨rfl, rfl⟩ := Prod.mk.inj called
    have turn := turns_round l
    rw [ended] at turn
    cases turn with
    | gives waiting => exact ⟨l, progress, waiting, rfl⟩
  | case2 l after goesOn ih =>
    have continues := progress.continues_round
    rw [goesOn] at continues
    exact ih continues called

end Lexer
end MarkupLexer
