import MarkupLexer.Proofs.Calls
import MarkupLexer.Proofs.Progress

/-!
# Laziness

A lexer reads no further than the call needs that it answers. Characters complete up to two tokens
at once, so a call may find its token waiting and read nothing, and the text at the end of an input
is complete only when nothing is left to read. The state is at every moment the one that the
automaton reaches over what was read, and stays as it is when the input is at an end or at fault.
-/

namespace MarkupLexer

open Lexer (Progress answers)

/-- The lexer of an input after a number of calls. -/
def lexerAfter (source : String) (trailing : TrailingText) (n : Nat) : Lexer :=
  (Lexer.ofString source trailing).afterCalls n

/-- What the call after that many calls gives. -/
def itemAfter (source : String) (trailing : TrailingText) (n : Nat) : Option Item :=
  (lexerAfter source trailing n).next.1

/-- The shortest beginning of an input in which this many tokens are complete. -/
structure IsShortest (source : List Char) (n : Nat) (read : List Char) : Prop where
  leads : read <+: source
  enough : n ≤ completed .start read
  least : ∀ other, other <+: source → n ≤ completed .start other → read.length ≤ other.length

/-- What takes its last character to have enough is the shortest that has. -/
theorem IsShortest.of_dropLast {source read : List Char} {n : Nat} (leads : read <+: source)
    (enough : n < completed .start read) (needed : completed .start read.dropLast ≤ n) :
    IsShortest source (n + 1) read := by
  refine ⟨leads, enough, fun other begins complete => ?_⟩
  refine Nat.le_of_not_lt fun shorter => ?_
  have within : other <+: read.dropLast := by
    refine List.prefix_of_prefix_length_le begins ((List.dropLast_prefix read).trans leads) ?_
    rw [List.length_dropLast]
    omega
  have fewer := completed_le_of_prefix (s := .start) within
  omega

namespace Lexer

theorem afterCalls_succ (n : Nat) (l : Lexer) : l.afterCalls (n + 1) = (l.afterCalls n).next.2 := by
  induction n generalizing l with
  | zero => rfl
  | succ n ih => exact ih l.next.2

theorem next_of_rests {l : Lexer} (finished : l.finished = true) (empty : l.pending = []) :
    l.next = (none, l) :=
  next_of_ends (by simp [round, empty, finished])

end Lexer

variable {source : String} {trailing : TrailingText} {n : Nat}

theorem itemAfter_eq :
    itemAfter source trailing n = (answers (scan source trailing)).getD n none :=
  Lexer.next_afterCalls_eq_answers _ n

theorem lexerAfter_succ :
    lexerAfter source trailing (n + 1) = (lexerAfter source trailing n).next.2 :=
  Lexer.afterCalls_succ n _

/-- The calls after the last item change nothing. -/
theorem lexerAfter_of_rests {m : Nat} (later : n ≤ m)
    (finished : (lexerAfter source trailing n).finished = true)
    (empty : (lexerAfter source trailing n).pending = []) :
    lexerAfter source trailing m = lexerAfter source trailing n := by
  induction later with
  | refl => rfl
  | step _ ih => rw [lexerAfter_succ, ih, Lexer.next_of_rests finished empty]

theorem Lexer.Progress.continues_call {given : List Token} {failure : Option LexError}
    (progress : Progress source trailing given failure (lexerAfter source trailing n)) :
    Lexer.Continues source trailing given failure
      (.ends (itemAfter source trailing n) (lexerAfter source trailing (n + 1))) := by
  rw [lexerAfter_succ]
  exact progress.continues_next

/-- Calls that gave tokens gave no errors. -/
theorem itemAfter_ne_error (gave : ∀ m < n, ∃ t, itemAfter source trailing m = some (.ok t)) :
    ∀ m < n, ∀ e, itemAfter source trailing m ≠ some (.error e) := by
  intro m earlier e failed
  obtain ⟨t, token⟩ := gave m earlier
  rw [failed] at token
  cases token

/-- Where calls have come to. They have given an error only if one of them gave it, and one token
    each if they all gave tokens. -/
theorem exists_progress (source : String) (trailing : TrailingText) (n : Nat) :
    ∃ given failure, Progress source trailing given failure (lexerAfter source trailing n) ∧
      ((∀ m < n, ∀ e, itemAfter source trailing m ≠ some (.error e)) → failure = none) ∧
      ((∀ m < n, ∃ t, itemAfter source trailing m = some (.ok t)) → given.length = n) := by
  induction n with
  | zero => exact ⟨[], none, Lexer.progress_ofString source trailing, fun _ => rfl, fun _ => rfl⟩
  | succ n ih =>
    obtain ⟨given, failure, progress, errorless, count⟩ := ih
    have continues := progress.continues_call
    have now : n < n + 1 := Nat.lt_succ_self n
    cases answered : itemAfter source trailing n with
    | none =>
      rw [answered] at continues
      refine ⟨given, failure, continues.1, fun passed => ?_, fun gave => ?_⟩
      · exact errorless fun m earlier => passed m (Nat.lt_succ_of_lt earlier)
      · obtain ⟨t, token⟩ := gave n now
        rw [answered] at token
        cases token
    | some item =>
      rw [answered] at continues
      cases item with
      | error e =>
        refine ⟨given, some e, continues.2, fun passed => ?_, fun gave => ?_⟩
        · exact absurd answered (passed n now e)
        · exact absurd answered (itemAfter_ne_error gave n now e)
      | ok t =>
        refine ⟨given ++ [t], none, continues.2, fun _ => rfl, fun gave => ?_⟩
        rw [List.length_append, count fun m earlier => gave m (Nat.lt_succ_of_lt earlier)]
        rfl

theorem exists_progress_of_no_error
    (passed : ∀ m < n, ∀ e, itemAfter source trailing m ≠ some (.error e)) :
    ∃ given, Progress source trailing given none (lexerAfter source trailing n) := by
  obtain ⟨given, failure, progress, errorless, _⟩ := exists_progress source trailing n
  obtain rfl := errorless passed
  exact ⟨given, progress⟩

theorem exists_progress_of_tokens
    (gave : ∀ m < n, ∃ t, itemAfter source trailing m = some (.ok t)) :
    ∃ given, Progress source trailing given none (lexerAfter source trailing n) ∧
      given.length = n := by
  obtain ⟨given, failure, progress, errorless, count⟩ := exists_progress source trailing n
  obtain rfl := errorless (itemAfter_ne_error gave)
  exact ⟨given, progress, count gave⟩

/-- What a lexer has read that has given this many tokens: what it takes to complete them, or the
    whole input when the last of them is the text that the end completes. -/
structure HasRead (source : String) (trailing : TrailingText) (n : Nat) (read : List Char) :
    Prop where
  split : source.toList = read ++ (lexerAfter source trailing n).unread
  state : stateAfter? .start read = some (lexerAfter source trailing n).state
  shortest : n ≤ completed .start source.toList → IsShortest source.toList n read
  whole : completed .start source.toList < n →
    read = source.toList ∧ n = completed .start source.toList + 1 ∧
      ∃ t, itemAfter source trailing (completed .start source.toList) = some (.ok t) ∧
        t.kind = .text

theorem hasRead_zero : HasRead source trailing 0 [] where
  split := rfl
  state := rfl
  shortest _ := ⟨List.nil_prefix, Nat.zero_le _, fun _ _ _ => Nat.zero_le _⟩
  whole beyond := absurd beyond (Nat.not_lt_zero _)

/-- What waits at the end of the input, when all other tokens have been given, is a text. -/
theorem Reading.Sound.text_of_waits {k : Reading} {ending : EndAction}
    {ts given waiting : List Token} {t : Token} (sound : k.Sound)
    (ended : finish trailing k.state = .ok ending) (all : ts <+: given)
    (tokens : given ++ t :: waiting = ts ++ k.emittedAtEnd ending) :
    given = ts ∧ t.kind = .text := by
  obtain ⟨more, rfl⟩ := all
  rw [List.append_assoc, List.append_cancel_left_eq] at tokens
  rcases finish_eq_ok_iff.mp ended with ⟨_, rfl⟩ | ⟨reading, _, rfl⟩
  · simp [emittedAtEnd] at tokens
  · obtain ⟨u, text, kind⟩ := sound.exists_text reading
    rw [text] at tokens
    obtain ⟨rfl, only⟩ | ⟨_, none_left⟩ := List.append_eq_singleton_iff.mp tokens
    · obtain ⟨rfl, _⟩ := List.cons.inj only
      exact ⟨List.append_nil ts, kind⟩
    · contradiction

/-- A token that a call gives was complete with the last character that was read, or with the end
    of the input. -/
theorem exists_hasRead_succ {given : List Token} {t : Token}
    (progress : Progress source trailing given none (lexerAfter source trailing n))
    (count : given.length = n) (answered : itemAfter source trailing n = some (.ok t)) :
    ∃ read, HasRead source trailing (n + 1) read := by
  have called : (lexerAfter source trailing n).next =
      (some (.ok t), lexerAfter source trailing (n + 1)) := by
    rw [lexerAfter_succ]
    exact Prod.ext answered rfl
  obtain ⟨giver, stands, waiting, rest⟩ := progress.exists_giver called
  cases stands with
  | @running read _ _ policy running split run needed =>
    have total := run.length_eq_completed Reading.sound_start
    rw [waiting, List.length_append, List.length_cons, count] at total
    have leads : read <+: source.toList := ⟨_, split.symm⟩
    have within := completed_le_of_prefix (s := .start) leads
    change _ = completed .start read at total
    refine ⟨read, ?_, ?_, fun _ => ?_, fun beyond => ?_⟩
    · rw [rest]
      exact split
    · rw [rest]
      exact run.stateAfter?_eq
    · exact .of_dropLast leads (by omega) (by omega)
    · omega
  | @ended _ ts k ending _ finished unread idle run state ended all tokens =>
    have sound := run.sound Reading.sound_start
    have total : ts.length = completed .start source.toList :=
      run.length_eq_completed Reading.sound_start
    rw [waiting] at tokens
    obtain ⟨rfl, text⟩ := sound.text_of_waits ended all tokens
    rw [count] at total
    refine ⟨source.toList, ?_, ?_, fun enough => ?_, fun _ => ⟨rfl, by omega, t, ?_, text⟩⟩
    · rw [rest]
      simp [unread]
    · rw [rest]
      exact run.stateAfter?_eq.trans (congrArg some state)
    · omega
    · rw [← total]
      exact answered

/-- A lexer that has given only tokens has read what it takes to complete them. -/
theorem exists_hasRead (gave : ∀ m < n, ∃ t, itemAfter source trailing m = some (.ok t)) :
    ∃ read, HasRead source trailing n read := by
  cases n with
  | zero => exact ⟨[], hasRead_zero⟩
  | succ n =>
    obtain ⟨given, progress, count⟩ :=
      exists_progress_of_tokens fun m earlier => gave m (Nat.lt_succ_of_lt earlier)
    obtain ⟨t, answered⟩ := gave n (Nat.lt_succ_self n)
    exact exists_hasRead_succ progress count answered

/-! ### After the last item -/

/-- After an error the state is the one before it, for good. -/
theorem stays_after_error {e : LexError} (failed : itemAfter source trailing n = some (.error e)) :
    ∃ before after q, source = before ++ after ∧ e.offset = before.utf8ByteSize ∧
      stateAfter? .start before.toList = some q ∧
        ∀ m > n, (lexerAfter source trailing m).state = q := by
  obtain ⟨given, failure, progress, _⟩ := exists_progress source trailing n
  have continues := progress.continues_call
  rw [failed] at continues
  cases continues.2 with
  | @failed read _ k _ _ finished empty idle split run state offset =>
    refine ⟨_, _, k.state, eq_append_of_toList_eq split, ?_, ?_, fun m later => ?_⟩
    · rw [offset, run.utf8ByteSize_eq]
    · rw [String.toList_ofList]
      exact run.stateAfter?_eq
    · rw [lexerAfter_of_rests later finished empty, state]

/-- After the end the state is the one that the whole input leads to, for good. -/
theorem stays_after_end (passed : ∀ m < n, ∀ e, itemAfter source trailing m ≠ some (.error e))
    (ended : itemAfter source trailing n = none) :
    ∀ m > n, stateAfter? .start source.toList = some (lexerAfter source trailing m).state := by
  obtain ⟨given, progress⟩ := exists_progress_of_no_error passed
  have continues := progress.continues_call
  rw [ended] at continues
  obtain ⟨rests, finished, empty⟩ := continues
  intro m later
  rw [lexerAfter_of_rests later finished empty]
  cases rests with
  | running _ running => rw [running] at finished; contradiction
  | ended _ _ _ run state => exact run.stateAfter?_eq.trans (congrArg some state)

/-- A lexer that has given tokens only has read the shortest beginning of its input in which they
    are complete, or all of it when the last is the text at its end, and is in the state that this
    leads to. After an error it stays in the state before it, and after the end in the last one. -/
theorem reads_as_far_as_needed (source : String) (trailing : TrailingText) (n : Nat) :
    ((∀ m < n, ∃ t, itemAfter source trailing m = some (.ok t)) →
        ∃ read, HasRead source trailing n read) ∧
      (∀ e, itemAfter source trailing n = some (.error e) →
        ∃ before after q, source = before ++ after ∧ e.offset = before.utf8ByteSize ∧
          stateAfter? .start before.toList = some q ∧
            ∀ m > n, (lexerAfter source trailing m).state = q) ∧
      ((∀ m < n, ∀ e, itemAfter source trailing m ≠ some (.error e)) →
        itemAfter source trailing n = none →
          ∀ m > n, stateAfter? .start source.toList = some (lexerAfter source trailing m).state) :=
  ⟨exists_hasRead, fun _ failed => stays_after_error failed, stays_after_end⟩

/-- The text at the end of an input is its fourth token, and a character of two bytes is refused
    after five. -/
theorem reads_as_far_as_needed_text :
    (∀ m < 4, ∃ t, itemAfter "<a>é" .accept m = some (.ok t)) ∧
      (∃ read, HasRead "<a>é" .accept 4 read) ∧
      itemAfter "<a>é" .accept 4 = none ∧
      (∀ m > 4, stateAfter? .start "<a>é".toList = some (lexerAfter "<a>é" .accept m).state) ∧
      itemAfter "<a>é<é" .accept 5 = some (.error ⟨.invalidTagStart 'é', 6⟩) ∧
      ∃ before after q, "<a>é<é" = before ++ after ∧ 6 = before.utf8ByteSize ∧
        stateAfter? .start before.toList = some q ∧
          ∀ m > 5, (lexerAfter "<a>é<é" .accept m).state = q := by
  have gave : ∀ m < 4, ∃ t, itemAfter "<a>é" .accept m = some (.ok t) := by
    intro m earlier
    rw [itemAfter_eq]
    match m, earlier with
    | 0, _ | 1, _ | 2, _ | 3, _ => exact ⟨_, rfl⟩
  have ended : itemAfter "<a>é" .accept 4 = none := itemAfter_eq.trans rfl
  have failed : itemAfter "<a>é<é" .accept 5 = some (.error ⟨.invalidTagStart 'é', 6⟩) :=
    itemAfter_eq.trans rfl
  obtain ⟨read, _, stays⟩ := reads_as_far_as_needed "<a>é" .accept 4
  obtain ⟨_, refused, _⟩ := reads_as_far_as_needed "<a>é<é" .accept 5
  exact ⟨gave, read gave, ended, stays (itemAfter_ne_error gave) ended, failed, refused _ failed⟩

end MarkupLexer
