import MarkupLexer.Proofs.Collecting

/-!
# Reading on

What an input says of the inputs that it is the beginning of. Where its end may be no end of a text,
its tokens are the first tokens of all of them, and an error before its end is their error. After an
accepted input a tag is read as at the beginning of an input, only further to the right, so tokens
of inputs put together are the tokens of the inputs put together.
-/

namespace MarkupLexer

theorem scan_eq (source : String) (trailing : TrailingText) :
    scan source trailing = Reading.scan {} trailing source.toList := rfl

theorem scan_append_eq (s t : String) (trailing : TrailingText) :
    scan (s ++ t) trailing = Reading.scan {} trailing (s.toList ++ t.toList) := by
  rw [scan_eq, String.toList_append]

/-! ### What is decided -/

/-- Reading on takes no token back and leaves an error before the end of what was read. -/
theorem tokenizePartial_stable (s t : String) (trailing : TrailingText) :
    (tokenizePartial s .reject).1 <+: (tokenizePartial (s ++ t) trailing).1 ∧
      ∀ e, (tokenizePartial s .reject).2 = some e → e.offset < s.utf8ByteSize →
        tokenizePartial (s ++ t) trailing = tokenizePartial s .reject := by
  obtain ⟨cs, rfl⟩ := String.exists_eq_ofList s
  rw [tokenizePartial_eq, tokenizePartial_eq, scan_append_eq, scan_eq, String.toList_ofList]
  have scans : Scans .reject {} cs _ := scans_scan {} cs
  generalize Reading.scan {} .reject cs = found at scans
  cases scans with
  | @accepts _ ts k ending run ended =>
    -- Where text may not come last, an input that may end has nothing left to give.
    obtain ⟨-, rfl⟩ : k.state = .afterTagClose ∧ ending = .done := by
      simpa using finish_eq_ok_iff.mp ended
    rw [run.scan_append]
    exact ⟨by simp [Reading.emittedAtEnd], nofun⟩
  | @refuses read rest c ts k fault run refused =>
    have again : Scans trailing {} (read ++ c :: (rest ++ t.toList)) _ := .refuses run refused
    rw [List.append_assoc, List.cons_append, again.scan_eq]
    exact ⟨List.prefix_refl _, fun _ _ _ => rfl⟩
  | @truncates _ ts k fault run ended =>
    rw [run.scan_append]
    refine ⟨List.prefix_append _ _, fun e stopped early => ?_⟩
    obtain rfl := Option.some.inj stopped
    rw [run.utf8ByteSize_eq] at early
    exact absurd early (Nat.lt_irrefl _)

theorem tokenizePartial_stable_equals :
    ∃ tokens, tokenizePartial "<a>é<b =" .reject =
        (tokens, some ⟨.invalidAttributeStart '=', 8⟩) ∧ tokens.length = 6 ∧
      8 < "<a>é<b =".utf8ByteSize ∧
      tokens <+: (tokenizePartial ("<a>é<b =" ++ "\"\">")).1 ∧
      tokenizePartial ("<a>é<b =" ++ "\"\">") = (tokens, some ⟨.invalidAttributeStart '=', 8⟩) := by
  have stopped : tokenizePartial "<a>é<b =" .reject =
      ([⟨.tagOpen, "<", ⟨0, 1⟩⟩, ⟨.identifier, "a", ⟨1, 2⟩⟩, ⟨.tagClose, ">", ⟨2, 3⟩⟩,
        ⟨.text, "é", ⟨3, 5⟩⟩, ⟨.tagOpen, "<", ⟨5, 6⟩⟩, ⟨.identifier, "b", ⟨6, 7⟩⟩],
        some ⟨.invalidAttributeStart '=', 8⟩) := by
    rw [tokenizePartial_eq]
    decide
  obtain ⟨isPrefix, same⟩ := tokenizePartial_stable "<a>é<b =" "\"\">" .accept
  have early : 8 < "<a>é<b =".utf8ByteSize := by decide
  rw [stopped] at isPrefix same
  exact ⟨_, stopped, rfl, early, isPrefix, same _ rfl early⟩

/-! ### Shifts -/

/-- The value moved `n` bytes to the right. -/
def Accumulator.shift (n : Nat) (a : Accumulator) : Accumulator := { a with start := a.start + n }

theorem Accumulator.token_shift (n : Nat) (a : Accumulator) :
    (a.shift n).token = a.token.shift n := by
  simp only [token, stop, shift, Token.shift, Span.shift, Nat.add_right_comm]

theorem Token.structural_shift (kind : Kind) (c : Char) (offset n : Nat) :
    structural kind c (offset + n) = (structural kind c offset).shift n := by
  simp only [structural, Token.shift, Span.shift, Nat.add_right_comm]

theorem Action.apply_shift (current : Option Accumulator) (offset n : Nat) (c : Char)
    (a : Action) :
    a.apply (current.map (·.shift n)) (offset + n) c =
      ((a.apply current offset c).1.map (·.shift n),
        (a.apply current offset c).2.map (Token.shift n)) := by
  cases a with
  | skip | begin kind => rfl
  | emit kind => simp [apply, Token.structural_shift]
  | openAfter kind => simp [apply, Accumulator.shift, Nat.add_right_comm]
  | extend => cases current <;> rfl
  | flush => cases current <;> simp [apply, Accumulator.token_shift]
  | flushThen kind =>
    cases current <;> simp [apply, Accumulator.token_shift, Token.structural_shift]

namespace Reading

/-- The reading moved `n` bytes to the right. -/
def shift (n : Nat) (k : Reading) : Reading :=
  ⟨k.state, k.offset + n, k.current.map (·.shift n)⟩

theorem after_shift (n : Nat) (k : Reading) (c : Char) (next : State) (action : Action) :
    (k.shift n).after c next action = (k.after c next action).shift n := by
  simp only [after, shift, Action.apply_shift, Nat.add_right_comm]

theorem emitted_shift (n : Nat) (k : Reading) (c : Char) (action : Action) :
    (k.shift n).emitted c action = (k.emitted c action).map (Token.shift n) := by
  simp only [emitted, shift, Action.apply_shift]

theorem emittedAtEnd_shift (n : Nat) (k : Reading) (ending : EndAction) :
    (k.shift n).emittedAtEnd ending = (k.emittedAtEnd ending).map (Token.shift n) := by
  cases ending <;> cases collected : k.current <;>
    simp [emittedAtEnd, shift, collected, Accumulator.token_shift]

end Reading

theorem Run.shift {k k' : Reading} {cs : List Char} {ts : List Token} (run : Run k cs ts k')
    (n : Nat) : Run (k.shift n) cs (ts.map (Token.shift n)) (k'.shift n) := by
  induction run with
  | stay k => exact .stay _
  | @move k k' c cs next action ts moved _ ih =>
    rw [List.map_append, ← Reading.emitted_shift]
    rw [← Reading.after_shift] at ih
    exact .move (k := k.shift n) moved ih

/-- What is found, moved `n` bytes to the right. -/
def shiftFound (n : Nat) (found : List Token × Option LexError) : List Token × Option LexError :=
  (found.1.map (Token.shift n), found.2.map (LexError.shift n))

theorem Reading.scan_shift (n : Nat) (k : Reading) (trailing : TrailingText) (cs : List Char) :
    (k.shift n).scan trailing cs = shiftFound n (k.scan trailing cs) := by
  apply Scans.scan_eq
  have scans : Scans trailing k cs _ := scans_scan k cs
  generalize k.scan trailing cs = found at scans
  cases scans with
  | accepts run ended =>
    rw [shiftFound, List.map_append, ← Reading.emittedAtEnd_shift]
    exact .accepts (run.shift n) ended
  | refuses run refused => exact .refuses (run.shift n) refused
  | truncates run ended => exact .truncates (run.shift n) ended

/-! ### Inputs put together -/

/-- Where an input may end a tag may begin. It completes what the end would have completed, and
    nothing is collected after it. -/
theorem Reading.Sound.exists_tag {k : Reading} {ending : EndAction} (sound : k.Sound)
    (ended : finish .accept k.state = .ok ending) :
    ∃ action, Moves k.state '<' .afterOpen action ∧
      k.after '<' .afterOpen action = ⟨.afterOpen, k.offset + '<'.utf8Size, none⟩ ∧
      k.emitted '<' action = k.emittedAtEnd ending ++ [.structural .tagOpen '<' k.offset] := by
  obtain ⟨s, offset, current⟩ := k
  rcases finish_eq_ok_iff.mp ended with ⟨rfl, rfl⟩ | ⟨rfl, -, rfl⟩
  · obtain rfl : current = none := sound.current_eq_none rfl
    exact ⟨_, .opensNext, rfl, rfl⟩
  · exact ⟨_, .endsText, rfl, rfl⟩

theorem Reading.Sound.scan_tag {k : Reading} {ending : EndAction} (sound : k.Sound)
    (ended : finish .accept k.state = .ok ending) (trailing : TrailingText) (cs : List Char) :
    k.scan trailing ('<' :: cs) =
      (k.emittedAtEnd ending ++ (scan ⟨.start, k.offset, none⟩ trailing ('<' :: cs)).1,
        (scan ⟨.start, k.offset, none⟩ trailing ('<' :: cs)).2) := by
  obtain ⟨action, moved, after, emitted⟩ := sound.exists_tag ended
  rw [scan_cons_of_moves moved, scan_cons_of_moves .enters, after, emitted, List.append_assoc]
  rfl

theorem head?_of_scan {source : String} {trailing : TrailingText} {tokens : List Token}
    (scanned : scan source trailing = (tokens, none)) : source.toList.head? = some '<' := by
  obtain ⟨ts, k, ending, run, ended, -⟩ := scan_eq_ok_iff_run.mp scanned
  refine run.head?_eq fun empty => ?_
  rw [run.state_eq_start_iff.mpr empty] at ended
  contradiction

theorem scan_append_of_head? {s t : String} {ts : List Token}
    (scanned : scan s = (ts, none)) (opens : t.toList.head? = some '<') (trailing : TrailingText) :
    scan (s ++ t) trailing =
      (ts ++ (shiftFound s.utf8ByteSize (scan t trailing)).1,
        (shiftFound s.utf8ByteSize (scan t trailing)).2) := by
  obtain ⟨us, k, ending, run, ended, rfl⟩ := scan_eq_ok_iff_run.mp scanned
  obtain ⟨cs, split⟩ : ∃ cs, t.toList = '<' :: cs := List.head?_eq_some_iff.mp opens
  -- The tag is read from the first reading, moved to where `s` ends.
  have size : k.offset = s.utf8ByteSize := by
    rw [← run.utf8ByteSize_eq, String.ofList_toList]
  have fresh : (⟨.start, s.utf8ByteSize, none⟩ : Reading) = Reading.shift s.utf8ByteSize {} := by
    simp [Reading.shift]
  have tag := (run.sound Reading.sound_start).scan_tag ended trailing cs
  rw [scan_append_eq, run.scan_append, split, tag, size, fresh, Reading.scan_shift, scan_eq t,
    split, List.append_assoc]

/-- After an accepted input, an input that begins with a tag adds its tokens and its error, moved to
    where it stands. So accepted inputs put together are accepted, with their tokens put
    together. -/
theorem tokenizePartial_append {s t : String} {ts : List Token} (accepted : tokenize s = .ok ts)
    (trailing : TrailingText) :
    (∀ us e, t.toList.head? = some '<' → tokenizePartial t trailing = (us, e) →
        tokenizePartial (s ++ t) trailing =
          (ts ++ us.map (Token.shift s.utf8ByteSize), e.map (LexError.shift s.utf8ByteSize))) ∧
      ∀ us, tokenize t trailing = .ok us →
        tokenize (s ++ t) trailing = .ok (ts ++ us.map (Token.shift s.utf8ByteSize)) := by
  have scanned := tokenize_eq_ok_iff.mp accepted
  constructor
  · intro us e opens found
    rw [tokenizePartial_eq] at found
    rw [tokenizePartial_eq, scan_append_of_head? scanned opens, found]
    rfl
  · intro us also
    have found := tokenize_eq_ok_iff.mp also
    rw [tokenize_eq_ok_iff, scan_append_of_head? scanned (head?_of_scan found), found]
    rfl

/-- A text before the second input, and one at its end, which is a token or the error. -/
theorem tokenizePartial_append_texts :
    ∃ ts us vs, tokenize "<a>é" = .ok ts ∧
      tokenizePartial "<b>日" .reject = (us, some ⟨.truncatedInput .inText, 6⟩) ∧
      tokenizePartial ("<a>é" ++ "<b>日") .reject =
        (ts ++ us.map (Token.shift 5), some ⟨.truncatedInput .inText, 11⟩) ∧
      tokenize "<b>日" = .ok vs ∧ vs.length = us.length + 1 ∧
      tokenize ("<a>é" ++ "<b>日") = .ok (ts ++ vs.map (Token.shift 5)) := by
  have accepted : tokenize "<a>é" =
      .ok [⟨.tagOpen, "<", ⟨0, 1⟩⟩, ⟨.identifier, "a", ⟨1, 2⟩⟩, ⟨.tagClose, ">", ⟨2, 3⟩⟩,
        ⟨.text, "é", ⟨3, 5⟩⟩] :=
    tokenize_eq_ok_iff.mpr (by decide)
  have stopped : tokenizePartial "<b>日" .reject =
      ([⟨.tagOpen, "<", ⟨0, 1⟩⟩, ⟨.identifier, "b", ⟨1, 2⟩⟩, ⟨.tagClose, ">", ⟨2, 3⟩⟩],
        some ⟨.truncatedInput .inText, 6⟩) := by
    rw [tokenizePartial_eq]
    decide
  have also : tokenize "<b>日" =
      .ok [⟨.tagOpen, "<", ⟨0, 1⟩⟩, ⟨.identifier, "b", ⟨1, 2⟩⟩, ⟨.tagClose, ">", ⟨2, 3⟩⟩,
        ⟨.text, "日", ⟨3, 6⟩⟩] :=
    tokenize_eq_ok_iff.mpr (by decide)
  exact ⟨_, _, _, accepted, stopped,
    (tokenizePartial_append accepted .reject).1 _ _ (by decide) stopped, also, rfl,
    (tokenizePartial_append accepted .accept).2 _ also⟩

end MarkupLexer
