import MarkupLexer.Proofs.Laziness

/-!
# Draining

A lexer gives no more tokens than its input has characters. Each token has a character of its own,
the one that begins its value or opens it or, for a tag or a slash, the one that it is: a character
that completes two tokens began only one of them. A round that gives nothing reads a character or
handles the end of the input, so the rounds of a call are bounded by what is unread.
-/

namespace MarkupLexer

open Lexer (answers)

/-! ### Tokens against characters -/

/-- An action completes one token, or begins a value, and beyond that it completes only the value
    that was there. -/
theorem Action.length_apply_add_le (current : Option Accumulator) (offset : Nat) (c : Char)
    (a : Action) :
    (a.apply current offset c).2.length + (a.apply current offset c).1.toList.length ≤
      current.toList.length + 1 := by
  cases a <;> cases current <;> simp [Action.apply]

theorem Run.length_add_le {k k' : Reading} {cs : List Char} {ts : List Token}
    (run : Run k cs ts k') :
    ts.length + k'.current.toList.length ≤ cs.length + k.current.toList.length := by
  let Within (cs : List Char) (ts : List Token) (k' : Reading) : Prop :=
    ts.length + k'.current.toList.length ≤ cs.length + k.current.toList.length
  -- The value that is being collected counts as a token: its first character is read already.
  refine run.invariant (P := Within) (by simp [Within]) ?_
  intro cs ts k₁ c next action within _
  have grows := action.length_apply_add_le k₁.current k₁.offset c
  simp only [Within, Reading.emitted, Reading.after, List.length_append, List.length_singleton]
    at within ⊢
  omega

theorem Reading.length_emittedAtEnd_le (k : Reading) (ending : EndAction) :
    (k.emittedAtEnd ending).length ≤ k.current.toList.length := by
  cases ending <;> simp [emittedAtEnd]

/-- An input, one with an error too, has no more tokens than characters. -/
theorem length_scan_le (source : String) (trailing : TrailingText) :
    (scan source trailing).1.length ≤ source.length := by
  rw [← String.length_toList]
  cases scanned : scan source trailing with
  | mk tokens failure =>
    cases failure with
    | none =>
      obtain ⟨ts, k, ending, run, _, rfl⟩ := scan_eq_ok_iff_run.mp scanned
      have read := run.length_add_le
      have last := k.length_emittedAtEnd_le ending
      simp only [List.length_append, Option.toList_none, List.length_nil] at read ⊢
      omega
    | some e =>
      obtain ⟨before, after, k, run, split, _⟩ := exists_split_of_scan_eq_error scanned
      have read := run.length_add_le
      simp only [split, List.length_append, Option.toList_none, List.length_nil] at read ⊢
      omega

/-! ### Rounds of a call -/

namespace Lexer

theorem roundsLeft_of_round_ends {l rest : Lexer} {item : Option Item}
    (ended : l.round = .ends item rest) : rest.roundsLeft ≤ l.roundsLeft := by
  have turn := turns_round l
  rw [ended] at turn
  cases turn with
  | gives _ | rests _ _ => exact Nat.le_refl _
  | refuses _ _ _ _ | truncates _ _ _ _ => exact Nat.add_le_add_left (Nat.zero_le _) _

/-- A call takes one round more than it leaves fewer to the calls after it. -/
theorem roundsTaken_add_le (l : Lexer) :
    l.roundsTaken + l.next.2.roundsLeft ≤ l.roundsLeft + 1 := by
  fun_induction roundsTaken l with
  | case1 l item rest ended =>
    rw [next_of_ends ended, Nat.add_comm]
    exact Nat.add_le_add_right (roundsLeft_of_round_ends ended) 1
  | case2 l rest goesOn ih =>
    rw [next_of_goesOn goesOn, roundsLeft_of_round_goesOn goesOn]
    omega

/-- A call takes a round for each character that is unread, one for the end and one to give what
    there is, or less. -/
theorem roundsTaken_le (l : Lexer) : l.roundsTaken ≤ l.unread.length + 2 := by
  have taken := l.roundsTaken_add_le
  have left : l.roundsLeft ≤ l.unread.length + 1 :=
    Nat.add_le_add_left (by split <;> simp) _
  omega

theorem roundsTaken_of_finished {l : Lexer} (finished : l.finished = true) : l.roundsTaken = 1 := by
  have turn := turns_round l
  cases turned : l.round with
  | ends item rest =>
    rw [roundsTaken]
    split <;> simp_all
  | goesOn rest =>
    rw [turned] at turn
    cases turn with
    | reads _ running | completes _ running | flushes _ running =>
      rw [running] at finished
      contradiction

end Lexer

/-- Calls give a token for each character at most, then an error if there is one, and nothing from
    then on. None of them takes more than two rounds over the characters that are unread, and one to
    a lexer that is finished takes one round, whatever is unread. -/
theorem drains_within_length (source : String) (trailing : TrailingText) :
    (Lexer.ofString source trailing).drain.1.length ≤ source.length + 2 ∧
      (∃ tokens failure, tokenizePartial source trailing = (tokens, failure) ∧
        tokens.length ≤ source.length ∧
        (∀ n (early : n < tokens.length), itemAfter source trailing n = some (.ok tokens[n])) ∧
        itemAfter source trailing tokens.length = failure.map .error ∧
        ∀ n > tokens.length, itemAfter source trailing n = none) ∧
      ∀ n, (lexerAfter source trailing n).roundsTaken ≤
          (lexerAfter source trailing n).unread.length + 2 ∧
        ((lexerAfter source trailing n).finished = true →
          (lexerAfter source trailing n).roundsTaken = 1) := by
  cases scanned : scan source trailing with
  | mk tokens failure =>
    have few : tokens.length ≤ source.length := by
      simpa [scanned] using length_scan_le source trailing
    have item (n : Nat) :
        itemAfter source trailing n = (answers (tokens, failure)).getD n none := by
      rw [itemAfter_eq, scanned]
    refine ⟨?_, ⟨tokens, failure, ?_, few, fun n early => ?_, ?_, fun n late => ?_⟩, fun n => ?_⟩
    · rw [Lexer.drain_eq_answers, upcoming_ofString, scanned]
      exact Nat.le_trans (Lexer.length_answers_le tokens failure) (Nat.add_le_add_right few 2)
    · rw [tokenizePartial_eq, scanned]
    · rw [item, Lexer.getD_answers_of_lt tokens failure early]
    · rw [item, Lexer.getD_answers_length]
    · rw [item, Lexer.getD_answers_of_gt tokens failure late]
    · exact ⟨Lexer.roundsTaken_le _, Lexer.roundsTaken_of_finished⟩

/-- The call for the text at the end of an input, which is its fourth token, takes all the rounds
    that it may: it reads the two characters that are left, handles the end and gives the text. -/
theorem drains_within_length_text :
    (∃ tokens, tokenizePartial "<a>éé" = (tokens, none) ∧ tokens.length = 4 ∧
        tokens.length ≤ "<a>éé".length ∧
        itemAfter "<a>éé" .accept 3 = some (.ok ⟨.text, "éé", ⟨3, 7⟩⟩) ∧
        ∀ n > 4, itemAfter "<a>éé" .accept n = none) ∧
      (lexerAfter "<a>éé" .accept 3).unread = ['é', 'é'] ∧
      (lexerAfter "<a>éé" .accept 3).roundsTaken = 4 ∧
      (lexerAfter "<a>éé" .accept 3).roundsTaken ≤
        (lexerAfter "<a>éé" .accept 3).unread.length + 2 ∧
      (lexerAfter "<a>éé" .accept 4).finished = true ∧
      (lexerAfter "<a>éé" .accept 4).roundsTaken = 1 := by
  obtain ⟨_, ⟨tokens, failure, found, few, gives, _, silent⟩, rounds⟩ :=
    drains_within_length "<a>éé" .accept
  have scanned : tokenizePartial "<a>éé" =
      ([⟨.tagOpen, "<", ⟨0, 1⟩⟩, ⟨.identifier, "a", ⟨1, 2⟩⟩, ⟨.tagClose, ">", ⟨2, 3⟩⟩,
        ⟨.text, "éé", ⟨3, 7⟩⟩], none) := (tokenizePartial_eq _ _).trans (by decide)
  obtain ⟨rfl, rfl⟩ := Prod.mk.inj (found.symm.trans scanned)
  have finished : (lexerAfter "<a>éé" .accept 4).finished = true := by decide +kernel
  exact ⟨⟨_, found, rfl, few, gives 3 (by decide), silent⟩, by decide +kernel, by decide +kernel,
    (rounds 3).1, finished, (rounds 4).2 finished⟩

end MarkupLexer
