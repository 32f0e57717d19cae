import MarkupLexer.Proofs.Streaming

/-!
# Calls

Calls give the items of a scan one by one: its tokens, its error, and then nothing. A caller may
stop after any of them and go on later, also where tokens still wait, and the ways to read a whole
input are ways to put the same items together.
-/

namespace MarkupLexer

namespace Lexer

/-- What calls give when this is to come: the tokens, the error, and nothing once. -/
def answers (found : List Token × Option LexError) : List (Option Item) :=
  found.1.map (fun t => some (.ok t)) ++ found.2.toList.map (fun e => some (.error e)) ++ [none]

section

variable (tokens : List Token) (failure : Option LexError) {n : Nat}

theorem length_answers_le : (answers (tokens, failure)).length ≤ tokens.length + 2 := by
  cases failure <;> simp [answers]

theorem getD_answers_of_lt (early : n < tokens.length) :
    (answers (tokens, failure)).getD n none = some (.ok tokens[n]) := by
  simp [answers, List.append_assoc, List.getElem?_append_left, early]

theorem getD_answers_length :
    (answers (tokens, failure)).getD tokens.length none = failure.map .error := by
  cases failure <;> simp [answers]

theorem getD_answers_of_gt (late : tokens.length < n) :
    (answers (tokens, failure)).getD n none = none := by
  obtain ⟨m, rfl⟩ := Nat.exists_eq_add_of_lt late
  cases failure <;> cases m <;> simp [answers, Nat.add_assoc]

end

theorem mem_of_getD_answers {found : List Token × Option LexError} {n : Nat} {t : Token}
    (answered : (answers found).getD n none = some (.ok t)) : t ∈ found.1 := by
  rw [List.getD_eq_getElem?_getD] at answered
  obtain ⟨item, there, given⟩ : ∃ item, (answers found)[n]? = some item ∧ item = some (.ok t) := by
    cases there : (answers found)[n]? with
    | none => simp [there] at answered
    | some item => exact ⟨item, rfl, by simpa [there] using answered⟩
  have member := List.mem_of_getElem? there
  simpa [answers, given] using member

theorem answers_of_gives_none {before after : List Token × Option LexError}
    (given : Gives before after none) : answers before = [none] := by
  rw [given.1]
  rfl

theorem answers_of_gives_some {before after : List Token × Option LexError} {item : Item}
    (given : Gives before after (some item)) :
    answers before = some item :: answers after := by
  cases item with
  | ok t =>
    obtain rfl : before = (t :: after.1, after.2) := given
    rfl
  | error e =>
    obtain ⟨rfl, rfl⟩ : before = ([], some e) ∧ after = ([], none) := given
    rfl

theorem drain_eq_answers (l : Lexer) : l.drain.1 = answers l.upcoming := by
  fun_induction drain l with
  | case1 l rest called => rw [answers_of_gives_none (gives_of_next called)]
  | case2 l item rest called more ih =>
    rw [answers_of_gives_some (gives_of_next called), ← ih]

/-- A number of calls gives that many of the items, and leaves the others to the calls after
    them. -/
theorem take_eq_answers (l : Lexer) (n : Nat) :
    (l.take n).1 = (answers l.upcoming).take n ∧
      (n < (answers l.upcoming).length →
        answers (l.take n).2.upcoming = (answers l.upcoming).drop n) := by
  induction n generalizing l with
  | zero => exact ⟨rfl, fun _ => rfl⟩
  | succ n ih =>
    unfold take
    split
    next rest called =>
      rw [answers_of_gives_none (gives_of_next called)]
      refine ⟨by simp, fun early => ?_⟩
      simp at early
    next item rest called =>
      rw [answers_of_gives_some (gives_of_next called)]
      obtain ⟨taken, left⟩ := ih rest
      refine ⟨by simp [taken], fun early => ?_⟩
      rw [List.length_cons, Nat.add_lt_add_iff_right] at early
      exact left early

/-- The first answer is what the call gives, and the others are those of the calls after it. -/
theorem getD_answers_of_gives {before after : List Token × Option LexError} {item : Option Item}
    (given : Gives before after item) (n : Nat) :
    (answers before).getD 0 none = item ∧
      (answers before).getD (n + 1) none = (answers after).getD n none := by
  cases item with
  | none =>
    obtain ⟨rfl, rfl⟩ := given
    exact ⟨rfl, by cases n <;> rfl⟩
  | some item =>
    rw [answers_of_gives_some given]
    exact ⟨rfl, rfl⟩

/-- The call after a number of calls gives the answer of that number, and nothing past the last. -/
theorem next_afterCalls_eq_answers (l : Lexer) (n : Nat) :
    (l.afterCalls n).next.1 = (answers l.upcoming).getD n none := by
  induction n generalizing l with
  | zero => exact (getD_answers_of_gives (gives_next l) 0).1.symm
  | succ n ih => exact (ih l.next.2).trans (getD_answers_of_gives (gives_next l) n).2.symm

end Lexer

/-! ### Whole inputs -/

open Lexer (answers)

theorem validate_iff {source : String} : validate source ↔ (scan source).2 = none := by
  unfold validate
  rw [isOk_tokenize_iff]
  constructor
  · rintro ⟨tokens, scanned⟩
    rw [scanned]
  · intro passed
    exact ⟨_, Prod.ext rfl passed⟩

/-- Calls give exactly what the scan of the input finds, wherever they are stopped and gone on with,
    and so does every way to read the whole input. An error of the scan is at the byte offset of its
    character, and at the end of the input when it has none. -/
theorem calls_give_scan (source : String) (trailing : TrailingText) :
    (Lexer.ofString source trailing).drain.1 = answers (scan source trailing) ∧
      (∀ n, ((Lexer.ofString source trailing).take n).1 =
          (answers (scan source trailing)).take n ∧
        (n < (answers (scan source trailing)).length →
          ((Lexer.ofString source trailing).take n).2.drain.1 =
            (answers (scan source trailing)).drop n)) ∧
      tokenizePartial source trailing = scan source trailing ∧
      tokenize source trailing = Lexer.verdict (scan source trailing) ∧
      (validate source ↔ (scan source).2 = none) ∧
      ∀ e, (scan source trailing).2 = some e →
        ∃ before after, source.toList = before ++ after ∧ e.offset = byteLength before ∧
          e.fault.found = after.head? := by
  refine ⟨Lexer.drain_eq_answers _, fun n => ?_, tokenizePartial_eq _ _, tokenize_eq _ _,
    validate_iff, fun e failed => ?_⟩
  · obtain ⟨taken, left⟩ := Lexer.take_eq_answers (.ofString source trailing) n
    exact ⟨taken, fun early => (Lexer.drain_eq_answers _).trans (left early)⟩
  · obtain ⟨before, after, _, _, _, split, offset, found, _⟩ := exists_split_of_scan_error failed
    exact ⟨before, after, split, offset, found⟩

/-- Two calls into an input whose third token waits with the second, with values of two characters,
    and whose last character of several bytes is refused. -/
theorem calls_give_scan_waiting :
    ∃ tokens, scan "<ab>éx<é" = (tokens, some ⟨.invalidTagStart 'é', 8⟩) ∧ tokens.length = 5 ∧
      2 < (answers (scan "<ab>éx<é")).length ∧
      ((Lexer.ofString "<ab>éx<é").take 2).2.drain.1 = (answers (scan "<ab>éx<é")).drop 2 ∧
      ∃ before after, "<ab>éx<é".toList = before ++ after ∧ 8 = byteLength before ∧
        some 'é' = after.head? := by
  have scanned : scan "<ab>éx<é" =
      ([⟨.tagOpen, "<", ⟨0, 1⟩⟩, ⟨.identifier, "ab", ⟨1, 3⟩⟩, ⟨.tagClose, ">", ⟨3, 4⟩⟩,
        ⟨.text, "éx", ⟨4, 7⟩⟩, ⟨.tagOpen, "<", ⟨7, 8⟩⟩], some ⟨.invalidTagStart 'é', 8⟩) := by
    decide
  have early : 2 < (answers (scan "<ab>éx<é")).length := by decide
  obtain ⟨_, stopped, _, _, _, place⟩ := calls_give_scan "<ab>éx<é" .accept
  exact ⟨_, scanned, rfl, early, (stopped 2).2 early, place _ (by rw [scanned])⟩

end MarkupLexer
