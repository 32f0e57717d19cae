import MarkupLexer.Lexer
import MarkupLexer.Proofs.Reading

/-!
# Streaming

The pull lexer against the scan. What a lexer is still to give is known at every moment: the waiting
tokens, then what the scan of the unread characters finds. No round changes it but by giving its
first item, so the calls together give exactly what the scan finds.
-/

namespace MarkupLexer

namespace Lexer

/-- Where a lexer stands, apart from what waits to be given. -/
def reading (l : Lexer) : Reading := ⟨l.state, l.offset, l.current⟩

/-! ### Rounds -/

/-- What a round can be, with the conditions under which it is that. -/
inductive Turns (l : Lexer) : Round → Prop
  | gives {t : Token} {ts : List Token} (waiting : l.pending = t :: ts) :
      Turns l (.ends (some (.ok t)) { l with pending := ts })
  | rests (empty : l.pending = []) (finished : l.finished = true) : Turns l (.ends none l)
  | reads {c : Char} {cs : List Char} {next : State} {action : Action} (empty : l.pending = [])
      (running : l.finished = false) (unread : l.unread = c :: cs)
      (moved : Moves l.state c next action) :
      Turns l (.goesOn
        { l with
          unread := cs
          offset := l.offset + c.utf8Size
          state := next
          current := (action.apply l.current l.offset c).1
          pending := l.reading.emitted c action })
  | refuses {c : Char} {cs : List Char} {fault : Fault} (empty : l.pending = [])
      (running : l.finished = false) (unread : l.unread = c :: cs)
      (refused : step l.state c = .error fault) :
      Turns l (.ends (some (.error ⟨fault, l.offset⟩))
        { l with current := none, pending := [], finished := true })
  | completes (empty : l.pending = []) (running : l.finished = false) (unread : l.unread = [])
      (ended : finish l.trailing l.state = .ok .done) :
      Turns l (.goesOn { l with finished := true })
  | flushes (empty : l.pending = []) (running : l.finished = false) (unread : l.unread = [])
      (ended : finish l.trailing l.state = .ok .flush) :
      Turns l (.goesOn
        { l with
          current := none
          pending := l.reading.emittedAtEnd .flush
          finished := true })
  | truncates {fault : Fault} (empty : l.pending = []) (running : l.finished = false)
      (unread : l.unread = []) (ended : finish l.trailing l.state = .error fault) :
      Turns l (.ends (some (.error ⟨fault, l.offset⟩))
        { l with current := none, pending := [], finished := true })

theorem turns_read {l : Lexer} {c : Char} {cs : List Char} (empty : l.pending = [])
    (running : l.finished = false) (unread : l.unread = c :: cs) : Turns l (l.read c cs) := by
  cases stepped : step l.state c with
  | ok moved =>
    have turn := Turns.reads empty running unread (moves_of_step stepped)
    simpa [read, stepped, empty, Reading.emitted, reading] using turn
  | error fault =>
    have turn := Turns.refuses empty running unread stepped
    simpa [read, stepped, fail] using turn

theorem turns_readEnd {l : Lexer} (empty : l.pending = []) (running : l.finished = false)
    (unread : l.unread = []) : Turns l l.readEnd := by
  cases ended : finish l.trailing l.state with
  | error fault =>
    have turn := Turns.truncates empty running unread ended
    simpa [readEnd, ended, fail] using turn
  | ok action =>
    cases action with
    | done =>
      have turn := Turns.completes empty running unread ended
      simpa [readEnd, ended] using turn
    | flush =>
      have turn := Turns.flushes empty running unread ended
      simpa [readEnd, ended, empty, Reading.emittedAtEnd, reading] using turn

theorem turns_round (l : Lexer) : Turns l l.round := by
  unfold round
  split
  next t ts waiting => exact .gives waiting
  next empty =>
    by_cases finished : l.finished = true
    · rw [if_pos finished]
      exact .rests empty finished
    · rw [if_neg finished]
      have running : l.finished = false := by simpa using finished
      split
      next c cs unread => exact turns_read empty running unread
      next unread => exact turns_readEnd empty running unread

/-! ### What is still to come -/

/-- The tokens that a lexer is still to give, and the error after them. -/
def upcoming (l : Lexer) : List Token × Option LexError :=
  let later := if l.finished then ([], none) else l.reading.scan l.trailing l.unread
  (l.pending ++ later.1, later.2)

/-- An item is the first of what is to come `before` it, and `after` it comes the rest. -/
def Gives (before after : List Token × Option LexError) : Option Item → Prop
  | some (.ok t) => before = (t :: after.1, after.2)
  | some (.error e) => before = ([], some e) ∧ after = ([], none)
  | none => before = ([], none) ∧ after = ([], none)

/-- A round gives the first of what is to come, or leaves it as it is. -/
def Accounts (before : List Token × Option LexError) : Round → Prop
  | .ends item rest => Gives before rest.upcoming item
  | .goesOn rest => rest.upcoming = before

theorem Turns.accounts {l : Lexer} {round : Round} (turn : Turns l round) :
    Accounts l.upcoming round := by
  cases turn with
  | gives waiting => simp [Accounts, Gives, upcoming, waiting, reading]
  | rests empty finished => simp [Accounts, Gives, upcoming, empty, finished]
  | @reads c cs next action empty running unread moved =>
    have scanned : l.reading.scan l.trailing (c :: cs) = _ := Reading.scan_cons_of_moves moved
    simp only [Accounts, upcoming, empty, running, unread, scanned]
    rfl
  | @refuses c cs fault empty running unread refused =>
    have scanned : l.reading.scan l.trailing (c :: cs) = _ := Reading.scan_cons_of_error refused
    simp only [Accounts, Gives, upcoming, empty, running, unread, scanned]
    exact ⟨rfl, rfl⟩
  | completes empty running unread ended =>
    have scanned : l.reading.scan l.trailing [] = _ := Reading.scan_nil_of_ok ended
    simp only [Accounts, upcoming, empty, running, unread, scanned]
    rfl
  | flushes empty running unread ended =>
    have scanned : l.reading.scan l.trailing [] = _ := Reading.scan_nil_of_ok ended
    simp [Accounts, upcoming, empty, running, unread, scanned]
  | truncates empty running unread ended =>
    have scanned : l.reading.scan l.trailing [] = _ := Reading.scan_nil_of_error ended
    simp only [Accounts, Gives, upcoming, empty, running, unread, scanned]
    exact ⟨rfl, rfl⟩

theorem upcoming_of_goesOn {l rest : Lexer} (h : l.round = .goesOn rest) :
    rest.upcoming = l.upcoming := by
  have turned := (turns_round l).accounts
  rwa [h] at turned

theorem gives_of_ends {l rest : Lexer} {item : Option Item} (h : l.round = .ends item rest) :
    Gives l.upcoming rest.upcoming item := by
  have turned := (turns_round l).accounts
  rwa [h] at turned

/-- A call gives the first of what is to come. -/
theorem gives_next (l : Lexer) : Gives l.upcoming l.next.2.upcoming l.next.1 := by
  fun_induction next l with
  | case1 l item rest ended => exact gives_of_ends ended
  | case2 l rest goesOn ih =>
    rw [← upcoming_of_goesOn goesOn]
    exact ih

theorem gives_of_next {l rest : Lexer} {item : Option Item} (called : l.next = (item, rest)) :
    Gives l.upcoming rest.upcoming item := by
  have given := gives_next l
  rwa [called] at given

/-! ### Runs of calls -/

theorem split_eq_upcoming (l : Lexer) : l.split = l.upcoming := by
  fun_induction split l with
  | case1 l rest called => exact (gives_of_next called).1.symm
  | case2 l e rest called => exact (gives_of_next called).1.symm
  | case3 l t rest called more ih =>
    have given : l.upcoming = (t :: rest.upcoming.1, rest.upcoming.2) := gives_of_next called
    rw [given, ← ih]

/-- The tokens when nothing is wrong, otherwise the error. -/
def verdict : List Token × Option LexError → Except LexError (List Token)
  | (tokens, none) => .ok tokens
  | (_, some e) => .error e

theorem verdict_cons (t : Token) (found : List Token × Option LexError) :
    verdict (t :: found.1, found.2) =
      match verdict found with
      | .ok ts => .ok (t :: ts)
      | .error e => .error e := by
  obtain ⟨ts, failure⟩ := found
  cases failure <;> rfl

theorem tokens_eq_verdict (l : Lexer) : l.tokens = verdict l.upcoming := by
  fun_induction tokens l with
  | case1 l rest called =>
    rw [(gives_of_next called).1]
    rfl
  | case2 l e rest called =>
    rw [(gives_of_next called).1]
    rfl
  | case3 l t rest called ts given ih =>
    have first : l.upcoming = (t :: rest.upcoming.1, rest.upcoming.2) := gives_of_next called
    rw [first, verdict_cons, ← ih, given]
  | case4 l t rest called e given ih =>
    have first : l.upcoming = (t :: rest.upcoming.1, rest.upcoming.2) := gives_of_next called
    rw [first, verdict_cons, ← ih, given]

end Lexer

/-! ### Whole inputs -/

theorem upcoming_ofString (source : String) (trailing : TrailingText) :
    (Lexer.ofString source trailing).upcoming = scan source trailing := rfl

/-- The tokens up to the first error are those of the scan. -/
theorem tokenizePartial_eq (source : String) (trailing : TrailingText) :
    tokenizePartial source trailing = scan source trailing :=
  (Lexer.split_eq_upcoming _).trans (upcoming_ofString source trailing)

theorem tokenize_eq (source : String) (trailing : TrailingText) :
    tokenize source trailing = Lexer.verdict (scan source trailing) := by
  rw [← upcoming_ofString]
  exact Lexer.tokens_eq_verdict _

theorem tokenize_eq_ok_iff {source : String} {trailing : TrailingText} {tokens : List Token} :
    tokenize source trailing = .ok tokens ↔ scan source trailing = (tokens, none) := by
  rw [tokenize_eq]
  obtain ⟨ts, failure⟩ := scan source trailing
  cases failure <;> simp [Lexer.verdict]

theorem isOk_tokenize_iff {source : String} {trailing : TrailingText} :
    (tokenize source trailing).isOk ↔ ∃ tokens, scan source trailing = (tokens, none) := by
  rw [tokenize_eq]
  obtain ⟨ts, failure⟩ := scan source trailing
  cases failure <;> simp [Lexer.verdict, Except.isOk, Except.toBool]

theorem tokenize_eq_error_iff {source : String} {trailing : TrailingText} {e : LexError} :
    tokenize source trailing = .error e ↔ (scan source trailing).2 = some e := by
  rw [tokenize_eq]
  obtain ⟨ts, failure⟩ := scan source trailing
  cases failure <;> simp [Lexer.verdict]

/-- An input without an error is one that a run reads to the end and that may end there. -/
theorem scan_eq_ok_iff_run {source : String} {trailing : TrailingText} {tokens : List Token} :
    scan source trailing = (tokens, none) ↔
      ∃ ts k ending, Run {} source.toList ts k ∧ finish trailing k.state = .ok ending ∧
        tokens = ts ++ k.emittedAtEnd ending := by
  change Reading.scan {} trailing source.toList = _ ↔ _
  rw [scan_eq_iff]
  generalize source.toList = cs
  constructor
  · intro scans
    cases scans with
    | accepts run ended => exact ⟨_, _, _, run, ended, rfl⟩
  · rintro ⟨ts, k, ending, run, ended, rfl⟩
    exact .accepts run ended

/-- The tokens of an input, of one with an error too, are those of a run, with what the end of the
    input may complete after it. -/
theorem exists_run_of_tokenizePartial (source : String) (trailing : TrailingText) :
    ∃ cs ts k ending, Run {} cs ts k ∧
      (tokenizePartial source trailing).1 = ts ++ k.emittedAtEnd ending := by
  have scans : Scans trailing {} source.toList (scan source trailing) :=
    scans_scan {} source.toList
  rw [tokenizePartial_eq]
  generalize scan source trailing = found at scans
  generalize source.toList = cs at scans
  cases scans with
  | accepts run _ => exact ⟨_, _, _, _, run, rfl⟩
  | refuses run _ => exact ⟨_, _, _, .done, run, by simp [Reading.emittedAtEnd]⟩
  | truncates run _ => exact ⟨_, _, _, .done, run, by simp [Reading.emittedAtEnd]⟩

/-- An error is of the first character that the state before it does not allow, or of the end of an
    input that may not end in the state that it ends in. -/
theorem run_of_scan_eq_error {source : String} {trailing : TrailingText} {tokens : List Token}
    {e : LexError} (scanned : scan source trailing = (tokens, some e)) :
    ∃ cs k, Run {} cs tokens k ∧ e.offset = k.offset ∧
      ((∃ c rest, source.toList = cs ++ c :: rest ∧ step k.state c = .error e.fault) ∨
        source.toList = cs ∧ finish trailing k.state = .error e.fault) := by
  have scans : Scans trailing {} source.toList (tokens, some e) := scan_eq_iff.mp scanned
  generalize source.toList = read at scans
  cases scans with
  | refuses run refused => exact ⟨_, _, run, rfl, .inl ⟨_, _, rfl, refused⟩⟩
  | truncates run ended => exact ⟨_, _, run, rfl, .inr ⟨rfl, ended⟩⟩

theorem run_of_tokenize_eq_error {source : String} {trailing : TrailingText} {e : LexError}
    (failed : tokenize source trailing = .error e) :
    ∃ cs ts k, Run {} cs ts k ∧ e.offset = k.offset ∧
      ((∃ c rest, source.toList = cs ++ c :: rest ∧ step k.state c = .error e.fault) ∨
        source.toList = cs ∧ finish trailing k.state = .error e.fault) := by
  have scanned : scan source trailing = ((scan source trailing).1, some e) :=
    Prod.ext rfl (tokenize_eq_error_iff.mp failed)
  obtain ⟨cs, k, found⟩ := run_of_scan_eq_error scanned
  exact ⟨cs, _, k, found⟩

/-- What was read up to an error and what was not: the former completes the tokens before the error,
    and the error is of the character in front of the latter, or of the end when there is none, and
    of the state that the former leads to. -/
theorem exists_split_of_scan_eq_error {source : String} {trailing : TrailingText}
    {tokens : List Token} {e : LexError} (scanned : scan source trailing = (tokens, some e)) :
    ∃ before after k, Run {} before tokens k ∧ source.toList = before ++ after ∧
      e.offset = byteLength before ∧ e.fault.found = after.head? ∧ e.fault.state = k.state := by
  obtain ⟨cs, k, run, stands, refusal⟩ := run_of_scan_eq_error scanned
  have offset : e.offset = byteLength cs := by rw [stands, run.offset_eq, Nat.zero_add]
  rcases refusal with ⟨c, rest, split, refused⟩ | ⟨split, refused⟩
  · obtain ⟨state, found⟩ := of_step_eq_error refused
    exact ⟨cs, c :: rest, k, run, split, offset, found, state⟩
  · obtain ⟨state, found, _⟩ := of_finish_eq_error refused
    exact ⟨cs, [], k, run, by rw [split, List.append_nil], offset, found, state⟩

theorem exists_split_of_scan_error {source : String} {trailing : TrailingText} {e : LexError}
    (failed : (scan source trailing).2 = some e) :
    ∃ before after ts k, Run {} before ts k ∧ source.toList = before ++ after ∧
      e.offset = byteLength before ∧ e.fault.found = after.head? ∧ e.fault.state = k.state := by
  have scanned : scan source trailing = ((scan source trailing).1, some e) := Prod.ext rfl failed
  obtain ⟨before, after, k, found⟩ := exists_split_of_scan_eq_error scanned
  exact ⟨before, after, _, k, found⟩

end MarkupLexer
