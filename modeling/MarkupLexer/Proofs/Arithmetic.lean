import MarkupLexer.Checked
import MarkupLexer.Proofs.Laziness
import MarkupLexer.Proofs.Tiling

/-!
# Arithmetic

A lexer computes only ends: of the character that it reads, and of the value that ends there or at
the end of the input. What it has read and is still to read make up the input, so none of these is
past the end of it, and no call of a lexer of an input in range leaves that range. A span is as long
as its value, since that is how it is placed.
-/

namespace MarkupLexer

variable {source : String} {trailing : TrailingText}

/-! ### Offsets that are computed -/

/-- A value that ends where the character begins ends at that offset in what is computed. -/
theorem Accumulator.eq_of_mem_stops {current : Option Accumulator} {offset stop : Nat}
    (stands : ∀ a ∈ current, a.stop = offset)
    (computed : stop ∈ current.toList.map (fun a : Accumulator => a.stop)) : stop = offset := by
  obtain ⟨a, held, rfl⟩ := List.mem_map.mp computed
  exact stands a (Option.mem_toList.mp held)

theorem Action.le_of_mem_sums {current : Option Accumulator} {offset stop : Nat} {c : Char}
    {action : Action} (stands : ∀ a ∈ current, a.stop = offset)
    (computed : stop ∈ action.sums current offset c) : stop ≤ offset + c.utf8Size := by
  cases action with
  | skip | begin kind | extend => exact absurd computed List.not_mem_nil
  | emit kind | openAfter kind => exact Nat.le_of_eq (List.mem_singleton.mp computed)
  | flush =>
    rw [Accumulator.eq_of_mem_stops stands computed]
    exact Nat.le_add_right ..
  | flushThen kind =>
    rcases List.mem_append.mp computed with value | character
    · rw [Accumulator.eq_of_mem_stops stands value]
      exact Nat.le_add_right ..
    · exact Nat.le_of_eq (List.mem_singleton.mp character)

namespace Lexer

variable {l : Lexer}

theorem le_of_mem_sumsOfRead {c : Char} {stop : Nat} (stands : ∀ a ∈ l.current, a.stop = l.offset)
    (computed : stop ∈ l.sumsOfRead c) : stop ≤ l.offset + c.utf8Size := by
  unfold sumsOfRead at computed
  cases moved : step l.state c with
  | error fault => simp [moved] at computed
  | ok next =>
    rw [moved] at computed
    exact next.2.le_of_mem_sums stands computed

theorem eq_of_mem_sumsOfReadEnd {stop : Nat} (stands : ∀ a ∈ l.current, a.stop = l.offset)
    (computed : stop ∈ l.sumsOfReadEnd) : stop = l.offset := by
  unfold sumsOfReadEnd at computed
  rcases ended : finish l.trailing l.state with fault | _ | _
  · simp [ended] at computed
  · simp [ended] at computed
  · rw [ended] at computed
    exact Accumulator.eq_of_mem_stops stands computed

/-- A lexer that is to read a character, or to handle the end of the input, stands after what it has
    read, and a value that it collects ends there. -/
theorem Reachable.exists_read (reachable : Reachable source trailing l) (empty : l.pending = [])
    (running : l.finished = false) :
    ∃ read, source.toList = read ++ l.unread ∧ l.offset = byteLength read ∧
      ∀ a ∈ l.current, a.stop = l.offset := by
  obtain ⟨given, failure, progress⟩ := reachable.exists_progress
  obtain ⟨_, _, read, split, run⟩ := progress.exists_run_of_empty empty running
  exact ⟨read, split, run.offset_eq.trans (Nat.zero_add _), (progress.sound running).stop⟩

/-- A round computes no offset past the end of the input. -/
theorem Reachable.le_of_mem_sums (reachable : Reachable source trailing l) {stop : Nat}
    (computed : stop ∈ l.sums) : stop ≤ source.utf8ByteSize := by
  obtain ⟨empty, running, computed⟩ := exists_of_mem_sums computed
  obtain ⟨read, whole, offset, stands⟩ := reachable.exists_read empty running
  rw [← byteLength_toList, whole, byteLength_append, ← offset]
  rcases computed with ⟨c, cs, unread, computed⟩ | ⟨_, computed⟩
  · have within := le_of_mem_sumsOfRead stands computed
    rw [unread, byteLength]
    omega
  · rw [eq_of_mem_sumsOfReadEnd stands computed]
    exact Nat.le_add_right ..

/-! ### Calls -/

theorem Reachable.next (reachable : Reachable source trailing l) :
    Reachable source trailing l.next.2 := by
  fun_induction Lexer.next l with
  | case1 l item rest ended =>
    have reached := reachable.round
    rwa [ended] at reached
  | case2 l rest goesOn ih =>
    have reached := reachable.round
    rw [goesOn] at reached
    exact ih reached

/-- In an input in range no check fails. -/
theorem Reachable.round?_eq (reachable : Reachable source trailing l)
    (short : source.utf8ByteSize < offsetLimit) : l.round? = some l.round :=
  round?_eq_some_iff.mpr
    ⟨fun _ computed => Nat.lt_of_le_of_lt (reachable.le_of_mem_sums computed) short, rfl⟩

theorem Reachable.next?_eq (reachable : Reachable source trailing l)
    (short : source.utf8ByteSize < offsetLimit) : l.next? = some l.next := by
  fun_induction Lexer.next l with
  | case1 l item rest ended =>
    have checked := reachable.round?_eq short
    rw [ended] at checked
    exact next?_of_ends checked
  | case2 l rest goesOn ih =>
    have checked := reachable.round?_eq short
    have reached := reachable.round
    rw [goesOn] at checked reached
    rw [next?_of_goesOn checked, ih reached]

end Lexer

theorem reachable_lexerAfter (source : String) (trailing : TrailingText) (n : Nat) :
    Lexer.Reachable source trailing (lexerAfter source trailing n) := by
  induction n with
  | zero => exact .start
  | succ n ih =>
    rw [lexerAfter_succ]
    exact ih.next

/-! ### Lengths of spans -/

theorem Placed.length?_eq {offset : Nat} {ts : List Token} (placed : Placed offset ts) :
    ∀ t ∈ ts, t.span.length? = some t.value.utf8ByteSize := by
  induction ts generalizing offset with
  | nil => simp
  | cons t ts ih =>
    obtain ⟨_, stop, later⟩ := placed
    intro u member
    rcases List.mem_cons.mp member with rfl | among
    · exact Span.length?_eq_some_iff.mpr stop
    · exact ih later u among

/-- A call of a lexer of an input in range never leaves that range: with every sum checked it comes
    to what it comes to without the checks, and what it computes is no more than the length of the
    input. The span of every token that is given, before an error too, is as long as its value. -/
theorem stays_in_range (source : String) (trailing : TrailingText)
    (short : source.utf8ByteSize < offsetLimit) :
    (∀ n, (lexerAfter source trailing n).next? =
        some (itemAfter source trailing n, lexerAfter source trailing (n + 1))) ∧
      (∀ l, Lexer.Reachable source trailing l → ∀ stop ∈ l.sums, stop ≤ source.utf8ByteSize) ∧
      ∀ n t, itemAfter source trailing n = some (.ok t) →
        t.span.length? = some t.value.utf8ByteSize := by
  refine ⟨fun n => ?_, fun l reachable stop computed => reachable.le_of_mem_sums computed,
    fun n t answered => ?_⟩
  · rw [(reachable_lexerAfter source trailing n).next?_eq short, lexerAfter_succ]
    rfl
  · rw [itemAfter_eq, ← tokenizePartial_eq] at answered
    have member := Lexer.mem_of_getD_answers answered
    exact (placed_tokenizePartial source trailing).length?_eq t member

/-- The character that ends a text of one character, of two bytes, computes two ends, and the
    character after it is refused: the call that gives the error is in range too. -/
theorem stays_in_range_before_error :
    "<a>é<é".utf8ByteSize < offsetLimit ∧
      (∃ l, Lexer.Reachable "<a>é<é" .accept l ∧ l.sums = [5, 6] ∧
        ∀ stop ∈ l.sums, stop ≤ "<a>é<é".utf8ByteSize) ∧
      itemAfter "<a>é<é" .accept 3 = some (.ok ⟨.text, "é", ⟨3, 5⟩⟩) ∧
      (⟨3, 5⟩ : Span).length? = some "é".utf8ByteSize ∧
      (lexerAfter "<a>é<é" .accept 5).next? =
        some (some (.error ⟨.invalidTagStart 'é', 6⟩), lexerAfter "<a>é<é" .accept 6) := by
  have short : "<a>é<é".utf8ByteSize < offsetLimit := by decide
  have reachable : Lexer.Reachable "<a>é<é" .accept _ :=
    Lexer.Reachable.start.round.round.round.round.round.round.round
  have text : itemAfter "<a>é<é" .accept 3 = some (.ok ⟨.text, "é", ⟨3, 5⟩⟩) :=
    itemAfter_eq.trans rfl
  have failed : itemAfter "<a>é<é" .accept 5 = some (.error ⟨.invalidTagStart 'é', 6⟩) :=
    itemAfter_eq.trans rfl
  obtain ⟨checked, bounded, long⟩ := stays_in_range "<a>é<é" .accept short
  have call := checked 5
  rw [failed] at call
  exact ⟨short, ⟨_, reachable, rfl, bounded _ reachable⟩, text, long 3 _ text, call⟩

end MarkupLexer
