import MarkupLexer.Scan
import MarkupLexer.Location
import MarkupLexer.Proofs.Transitions

/-!
# Readings

A reading is where a lexer stands between two characters. `Run` joins the moves over a run of
characters and collects the tokens that they complete; `Run.invariant` is the induction that every
invariant of readings goes through. `scan_eq_iff` says all that a scan can come to: a run over the
whole input that may end there, one that may not, or one up to a character that is refused.
-/

namespace MarkupLexer

/-- Where a lexer stands between two characters. -/
structure Reading where
  state : State := .start
  offset : Nat := 0
  current : Option Accumulator := none

namespace Reading

/-- The reading after a move with the character `c`. -/
def after (k : Reading) (c : Char) (next : State) (action : Action) : Reading :=
  ⟨next, k.offset + c.utf8Size, (action.apply k.current k.offset c).1⟩

/-- The tokens that a move with the character `c` completes. -/
def emitted (k : Reading) (c : Char) (action : Action) : List Token :=
  (action.apply k.current k.offset c).2

/-- The tokens that the end of the input completes. -/
def emittedAtEnd (k : Reading) : EndAction → List Token
  | .done => []
  | .flush => k.current.toList.map (·.token)

/-- The scan that goes on from a reading. -/
def scan (k : Reading) (trailing : TrailingText) (cs : List Char) : List Token × Option LexError :=
  scanFrom trailing k.state k.offset k.current cs

theorem scan_nil_of_ok {k : Reading} {trailing : TrailingText} {action : EndAction}
    (ended : finish trailing k.state = .ok action) :
    k.scan trailing [] = (k.emittedAtEnd action, none) := by
  unfold scan
  cases action <;> simp [scanFrom, ended, emittedAtEnd]

theorem scan_nil_of_error {k : Reading} {trailing : TrailingText} {fault : Fault}
    (ended : finish trailing k.state = .error fault) :
    k.scan trailing [] = ([], some ⟨fault, k.offset⟩) := by
  simp [scan, scanFrom, ended]

theorem scan_cons_of_error {k : Reading} {trailing : TrailingText} {fault : Fault} {c : Char}
    {cs : List Char} (refused : step k.state c = .error fault) :
    k.scan trailing (c :: cs) = ([], some ⟨fault, k.offset⟩) := by
  simp [scan, scanFrom, refused]

theorem scan_cons_of_moves {k : Reading} {trailing : TrailingText} {c : Char} {cs : List Char}
    {next : State} {action : Action} (moved : Moves k.state c next action) :
    k.scan trailing (c :: cs) =
      (k.emitted c action ++ ((k.after c next action).scan trailing cs).1,
        ((k.after c next action).scan trailing cs).2) := by
  simp [scan, scanFrom, moved.step_eq, emitted, after]

end Reading

/-! ### Runs -/

/-- An input is what was read of it and what was not. -/
theorem eq_append_of_toList_eq {source : String} {read unread : List Char}
    (split : source.toList = read ++ unread) :
    source = String.ofList read ++ String.ofList unread := by
  rw [← String.ofList_append, ← split, String.ofList_toList]

/-- Moves over a run of characters, with the tokens that they complete. -/
inductive Run : Reading → List Char → List Token → Reading → Prop
  | stay (k : Reading) : Run k [] [] k
  | move {k k' : Reading} {c : Char} {cs : List Char} {next : State} {action : Action}
      {ts : List Token} (moved : Moves k.state c next action)
      (rest : Run (k.after c next action) cs ts k') : Run k (c :: cs) (k.emitted c action ++ ts) k'

namespace Run

variable {k k' k'' : Reading} {cs ds : List Char} {ts us : List Token}

theorem single {c : Char} {next : State} {action : Action} (moved : Moves k.state c next action) :
    Run k [c] (k.emitted c action) (k.after c next action) := by
  simpa using Run.move moved (.stay _)

theorem append (first : Run k cs ts k') (second : Run k' ds us k'') :
    Run k (cs ++ ds) (ts ++ us) k'' := by
  induction first with
  | stay k => exact second
  | move moved _ ih =>
    rw [List.cons_append, List.append_assoc]
    exact .move moved (ih second)

/-- What holds before the first character and is kept by every move holds after a run, of the
    characters that were read, the tokens that were completed and the reading. -/
theorem invariant {P : List Char → List Token → Reading → Prop} (run : Run k cs ts k')
    (start : P [] [] k)
    (step : ∀ {cs ts k c next action}, P cs ts k → Moves k.state c next action →
      P (cs ++ [c]) (ts ++ k.emitted c action) (k.after c next action)) : P cs ts k' := by
  -- The induction takes the characters from the front, so what was read before them varies.
  have from_here : ∀ before given, P before given k → P (before ++ cs) (given ++ ts) k' := by
    clear start
    induction run with
    | stay k =>
      intro before given holds
      simpa using holds
    | @move k k' c cs next action ts moved _ ih =>
      intro before given holds
      simpa using ih _ _ (step holds moved)
  simpa using from_here [] [] start

theorem offset_eq (run : Run k cs ts k') : k'.offset = k.offset + byteLength cs := by
  refine run.invariant (P := fun cs _ k' => k'.offset = k.offset + byteLength cs) rfl ?_
  intro cs ts k₁ c next action holds _
  rw [byteLength_append]
  simp only [Reading.after, byteLength]
  omega

theorem utf8ByteSize_eq (run : Run {} cs ts k) : (String.ofList cs).utf8ByteSize = k.offset := by
  rw [run.offset_eq, ← byteLength_toList, String.toList_ofList, Nat.zero_add]

/-- A scan takes the tokens of a run and goes on after it. -/
theorem scan_append (run : Run k cs ts k') (trailing : TrailingText) :
    k.scan trailing (cs ++ ds) = (ts ++ (k'.scan trailing ds).1, (k'.scan trailing ds).2) := by
  induction run with
  | stay k => rfl
  | move moved _ ih => simp [Reading.scan_cons_of_moves moved, ih]

/-- A run goes where the automaton goes. -/
theorem stateAfter?_eq (run : Run k cs ts k') : stateAfter? k.state cs = some k'.state := by
  induction run with
  | stay k => rfl
  | move moved _ ih => rw [stateAfter?, moved.step_eq]; exact ih

/-- The start is left with the first character and not entered again. -/
theorem state_eq_start_iff (run : Run {} cs ts k) : k.state = .start ↔ cs = [] :=
  run.invariant (P := fun cs _ k => k.state = .start ↔ cs = []) (by simp)
    fun _ moved => by simpa [Reading.after] using moved.ne_start

/-- The first character that is read is the beginning of a tag. -/
theorem head?_eq (run : Run {} cs ts k) (read : cs ≠ []) : cs.head? = some '<' := by
  cases run with
  | stay => contradiction
  | @move _ _ c cs next action ts moved rest =>
    change Moves .start c next action at moved
    cases moved
    rfl

/-- The automaton alone decides whether there is a run. -/
theorem of_stateAfter? {s q : State} (reached : stateAfter? s cs = some q)
    (at_start : k.state = s) : ∃ ts k', Run k cs ts k' ∧ k'.state = q := by
  induction cs generalizing s k with
  | nil =>
    simp only [stateAfter?, Option.some.injEq] at reached
    exact ⟨[], k, .stay k, at_start.trans reached⟩
  | cons c cs ih =>
    simp only [stateAfter?] at reached
    split at reached
    next next action accepted =>
      have moved : Moves k.state c next action := by rw [at_start]; exact moves_of_step accepted
      obtain ⟨ts, k', run, ended⟩ := ih reached (k := k.after c next action) rfl
      exact ⟨_, k', .move moved run, ended⟩
    next => contradiction

end Run

/-! ### Scans -/

/-- What a scan from a reading can come to. -/
inductive Scans (trailing : TrailingText) (k : Reading) :
    List Char → List Token × Option LexError → Prop
  /-- The input may end where it does. -/
  | accepts {cs : List Char} {ts : List Token} {k' : Reading} {action : EndAction}
      (run : Run k cs ts k') (ended : finish trailing k'.state = .ok action) :
      Scans trailing k cs (ts ++ k'.emittedAtEnd action, none)
  /-- The character `c` is not allowed where it stands. -/
  | refuses {cs rest : List Char} {c : Char} {ts : List Token} {k' : Reading} {fault : Fault}
      (run : Run k cs ts k') (refused : step k'.state c = .error fault) :
      Scans trailing k (cs ++ c :: rest) (ts, some ⟨fault, k'.offset⟩)
  /-- The input may not end where it does. -/
  | truncates {cs : List Char} {ts : List Token} {k' : Reading} {fault : Fault}
      (run : Run k cs ts k') (ended : finish trailing k'.state = .error fault) :
      Scans trailing k cs (ts, some ⟨fault, k'.offset⟩)

variable {trailing : TrailingText}

theorem Scans.of_moves {k : Reading} {c : Char} {cs : List Char} {next : State} {action : Action}
    {result : List Token × Option LexError} (moved : Moves k.state c next action)
    (scans : Scans trailing (k.after c next action) cs result) :
    Scans trailing k (c :: cs) (k.emitted c action ++ result.1, result.2) := by
  cases scans with
  | accepts run ended =>
    rw [← List.append_assoc]
    exact .accepts (.move moved run) ended
  | refuses run refused => exact .refuses (.move moved run) refused
  | truncates run ended => exact .truncates (.move moved run) ended

theorem scans_scan (k : Reading) (cs : List Char) :
    Scans trailing k cs (k.scan trailing cs) := by
  induction cs generalizing k with
  | nil =>
    cases ended : finish trailing k.state with
    | ok action =>
      rw [Reading.scan_nil_of_ok ended]
      exact .accepts (.stay k) ended
    | error fault =>
      rw [Reading.scan_nil_of_error ended]
      exact .truncates (.stay k) ended
  | cons c cs ih =>
    cases stepped : step k.state c with
    | ok moved =>
      have moves := moves_of_step stepped
      rw [Reading.scan_cons_of_moves moves]
      exact (ih _).of_moves moves
    | error fault =>
      rw [Reading.scan_cons_of_error stepped]
      exact .refuses (.stay k) stepped

theorem Scans.scan_eq {k : Reading} {cs : List Char} {result : List Token × Option LexError}
    (scans : Scans trailing k cs result) : k.scan trailing cs = result := by
  cases scans with
  | accepts run ended =>
    have whole : k.scan trailing (cs ++ []) = _ := run.scan_append trailing
    simpa [Reading.scan_nil_of_ok ended] using whole
  | refuses run refused => simp [run.scan_append trailing, Reading.scan_cons_of_error refused]
  | truncates run ended =>
    have whole : k.scan trailing (cs ++ []) = _ := run.scan_append trailing
    simpa [Reading.scan_nil_of_error ended] using whole

/-- A scan comes to what the relation says and to nothing else. -/
theorem scan_eq_iff {k : Reading} {cs : List Char} {result : List Token × Option LexError} :
    k.scan trailing cs = result ↔ Scans trailing k cs result := by
  constructor
  · rintro rfl
    exact scans_scan k cs
  · exact Scans.scan_eq

end MarkupLexer
