import MarkupLexer.Command.Run
import MarkupLexer.Proofs.Reports

/-!
# The modes of a command

Three command lines that ask for the same in the three modes come to the same end: the modes differ
in what they print before the end of the input or its error is known, and in nothing else. The
report of an error has fields as wide as the place of the error asks for; a command breaks off at a
place that asks for more than there is, which only a very long line has.
-/

namespace MarkupLexer.Command

/-! ### Flags for a mode -/

theorem exists_of_bind_eq_ok {ε α β : Type} {x : Except ε α} {f : α → Except ε β} {b : β}
    (bound : (x >>= f) = .ok b) : ∃ a, x = .ok a ∧ f a = .ok b := by
  cases x with
  | error _ => contradiction
  | ok a => exact ⟨a, rfl, bound⟩

theorem exists_of_map_eq_ok {ε α β : Type} {x : Except ε α} {f : α → β} {b : β}
    (mapped : f <$> x = .ok b) : ∃ a, x = .ok a ∧ f a = b := by
  cases x with
  | error _ => contradiction
  | ok a => exact ⟨a, rfl, Except.ok.inj mapped⟩

namespace Draft

/-- No flag for a mode has been given. -/
structure Plain (d : Draft) : Prop where
  check : d.check = false
  untilError : d.untilError = false

/-- The draft after the flag for a mode. -/
def under (mode : Mode) (d : Draft) : Draft :=
  match mode with
  | .all => d
  | .verdict => { d with check := true }
  | .untilError => { d with untilError := true }

/-- What a word does is the same after the flag for a mode, unless it is such a flag itself. -/
def Ignores (mode : Mode) (change : Draft → Except UsageError Draft) : Prop :=
  ∀ ⦃d d'⦄, change d = .ok d' → d'.Plain → d.Plain ∧ change (d.under mode) = .ok (d'.under mode)

variable {mode : Mode}

theorem ignores_addMarkup (word : String) : Ignores mode (·.addMarkup word) := by
  intro d d' added plain
  simp only [addMarkup] at added ⊢
  split at added
  · contradiction
  · cases added
    refine ⟨⟨plain.check, plain.untilError⟩, ?_⟩
    cases mode <;> simp_all [under]

theorem ignores_setFlag (flag : Flag) : Ignores mode (·.setFlag flag) := by
  intro d d' set ⟨check, untilError⟩
  cases flag <;> cases mode <;> simp only [setFlag, under] at set ⊢ <;> grind [Plain]

theorem ignores_setValue (flag : Flag) (value : String) :
    Ignores mode (·.setValue flag value) := by
  intro d d' set ⟨check, untilError⟩
  cases flag with
  | file => cases mode <;> simp only [setValue, under] at set ⊢ <;> grind [Plain]
  | format =>
    cases named : Format.ofName? value with
    | none => simp [setValue, named] at set
    | some format => cases mode <;> simp only [setValue, under, named] at set ⊢ <;> grind [Plain]
  | only =>
    cases named : Kind.parse value with
    | error _ => simp [setValue, named] at set
    | ok kind => cases mode <;> simp only [setValue, under, named] at set ⊢ <;> grind [Plain]
  | strict | check | untilError | help => contradiction

/-- What comes after a change that ignores the flag may give anything, so long as it does so too. -/
theorem Ignores.bind {α : Type} {change : Draft → Except UsageError Draft}
    {more : Draft → Except UsageError α} {d : Draft} {a b : α} (ignores : Ignores mode change)
    (later : ∀ d, more d = .ok a → d.Plain ∧ more (d.under mode) = .ok b)
    (bound : (change d >>= more) = .ok a) :
    d.Plain ∧ (change (d.under mode) >>= more) = .ok b := by
  obtain ⟨next, changed, given⟩ := exists_of_bind_eq_ok bound
  obtain ⟨plain, same⟩ := later next given
  obtain ⟨before, changed⟩ := ignores changed plain
  exact ⟨before, by rw [changed]; exact same⟩

theorem ignores_addAll (words : List String) : Ignores mode (·.addAll words) := by
  induction words with
  | nil =>
    intro d d' added plain
    cases added
    exact ⟨plain, rfl⟩
  | cons word words ih =>
    intro d d' added plain
    exact (ignores_addMarkup word).bind (fun _ added => ih added plain) added

/-- Words that give no flag for a mode are read alike after one. That none of them does is seen from
    the draft that they end in, since no word takes a flag back. -/
theorem read_under (mode : Mode) {words : List String} {d d' : Draft} (plain : d'.Plain) :
    d.read words = .ok (some d') →
      d.Plain ∧ (d.under mode).read words = .ok (some (d'.under mode)) := by
  induction d, words using Draft.read.induct with
  | case1 d =>
    intro done
    cases done
    exact ⟨plain, rfl⟩
  | case2 d word words separator =>
    simp only [read, separator]
    intro added
    obtain ⟨last, rest, given⟩ := exists_of_map_eq_ok added
    cases given
    obtain ⟨before, same⟩ := ignores_addAll words rest plain
    exact ⟨before, congrArg (some <$> ·) same⟩
  | case3 d word words unknown => simp [read, unknown]
  | case4 d word words markup ih =>
    simp only [read, markup]
    exact (ignores_addMarkup word).bind ih
  | case5 d word words flag value option ih =>
    simp only [read, option]
    exact (ignores_setValue flag value).bind ih
  | case6 d word words help => simp [read, help]
  | case7 d word flag option noHelp takes => simp [read, option, noHelp, takes]
  | case8 d word flag option noHelp takes value words plainValue ih =>
    simp only [read, option, noHelp, takes, plainValue, if_true, if_false]
    exact (ignores_setValue flag value).bind ih
  | case9 d word flag option noHelp takes value words noValue =>
    simp [read, option, noHelp, takes, noValue]
  | case10 d word words flag option noHelp takes ih =>
    simp only [read, option, noHelp, takes, if_false]
    exact (ignores_setFlag flag).bind ih

/-- A draft that asks for all tokens asks for the same in another mode after the flag for it. -/
theorem request_under (mode : Mode) {d : Draft} {r : Request} (requested : d.request = .ok r)
    (all : r.mode = .all) : d.Plain ∧ (d.under mode).request = .ok { r with mode } := by
  obtain ⟨markup, file, format, strict, check, untilError, only⟩ := d
  cases check <;> cases untilError <;> cases file <;> cases markup <;> cases requested
  -- Of the drafts that are not refused, only those without a flag ask for all tokens.
  case false.false.none.none | false.false.none.some | false.false.some.none =>
    exact ⟨⟨rfl, rfl⟩, by cases mode <;> rfl⟩
  all_goals contradiction

end Draft

/-- The words that choose a mode. -/
def Mode.words : Mode → List String
  | .all => []
  | .verdict => ["--check"]
  | .untilError => ["--partial"]

theorem Draft.read_mode_words (mode : Mode) (words : List String) :
    ({} : Draft).read (mode.words ++ words) = (({} : Draft).under mode).read words := by
  cases mode with
  | all => rfl
  | verdict =>
    have option : Word.ofString "--check" = .option .check none := by decide
    simp only [Mode.words, List.singleton_append, Draft.read, option]
    rfl
  | untilError =>
    have option : Word.ofString "--partial" = .option .untilError none := by decide
    simp only [Mode.words, List.singleton_append, Draft.read, option]
    rfl

/-- A flag in front of a command line that asks for all tokens chooses the mode and changes nothing
    else that is asked for. -/
theorem parse_mode_words {words : List String} {r : Request} (parsed : parse words = .ok (some r))
    (all : r.mode = .all) (mode : Mode) :
    parse (mode.words ++ words) = .ok (some { r with mode }) := by
  obtain ⟨draft?, read, rest⟩ := exists_of_bind_eq_ok parsed
  cases draft? with
  | none => cases rest
  | some draft =>
    obtain ⟨_, requested, same⟩ := exists_of_map_eq_ok rest
    cases same
    obtain ⟨plain, requested⟩ := Draft.request_under mode requested all
    obtain ⟨-, read⟩ := Draft.read_under mode plain read
    rw [parse, Draft.read_mode_words, read]
    exact congrArg (some <$> ·) requested

/-! ### Outcomes -/

theorem select_eq_filter (only : List Kind) (ts : List Token) :
    select only ts = ts.filter fun t => only = [] ∨ t.kind ∈ only := by
  cases only with
  | nil => simp [select]
  | cons kind kinds => simp [select, Token.isOneOf]

/-- What is printed on the standard output for an input without an error that has these tokens. -/
def Request.result (r : Request) (ts : List Token) : String :=
  match r.mode with
  | .verdict => "valid\n"
  | .all | .untilError => r.print ts

/-- What is printed on the standard output before the report of an error that these tokens come
    before. -/
def Request.resultBeforeError (r : Request) (ts : List Token) : String :=
  match r.mode with
  | .verdict => "invalid\n"
  | .all => ""
  | .untilError => r.print ts

section

variable {words : List String} {r : Request} {env : Environment} {source : String}
  {ts : List Token}

theorem run_of_ok (parsed : parse words = .ok (some r)) (read : env.markup r.input = .ok source)
    (scanned : scan source r.trailing = (ts, none)) : run words env = ⟨0, r.result ts, ""⟩ := by
  have accepted := tokenize_eq_ok_iff.mpr scanned
  have partly := (tokenizePartial_eq source r.trailing).trans scanned
  simp only [run, parsed, Request.run, read, Request.outcome, Request.result]
  cases r.mode <;> simp only [accepted, partly]

theorem run_of_error {e : LexError} (parsed : parse words = .ok (some r))
    (read : env.markup r.input = .ok source)
    (scanned : scan source r.trailing = (ts, some e)) :
    run words env = r.stop source (r.resultBeforeError ts) e := by
  have refused := tokenize_eq_error_iff.mpr (congrArg Prod.snd scanned)
  have partly := (tokenizePartial_eq source r.trailing).trans scanned
  simp only [run, parsed, Request.run, read, Request.outcome, Request.resultBeforeError]
  cases r.mode <;> simp only [refused, partly]

end

/-- Command lines that ask for the same in the three modes agree about the input. Without an error
    they end with the exit code 0 and nothing on the standard error: one says that the input is
    valid and the others print its tokens of the kinds asked for. With an error they print that the
    input is invalid, nothing, or those of the tokens that the characters before the error complete,
    and end with the exit code 1 and the report of the error. Where the report needs wider fields
    than there are, which takes a long line, all of them break off before the mark instead. -/
theorem modes_agree {r : Request} {words : Mode → List String}
    (parsed : ∀ mode, parse (words mode) = .ok (some { r with mode })) {env : Environment}
    {source : String} (read : env.markup r.input = .ok source) :
    (∀ ts, tokenize source r.trailing = .ok ts →
      let printed := r.format.print (ts.filter fun t => r.only = [] ∨ t.kind ∈ r.only)
      run (words .verdict) env = ⟨0, "valid\n", ""⟩ ∧
        run (words .all) env = ⟨0, printed, ""⟩ ∧
        run (words .untilError) env = ⟨0, printed, ""⟩) ∧
    ∀ e, tokenize source r.trailing = .error e →
      ∃ before after ts k, source.toList = before ++ after ∧ e.offset = byteLength before ∧
        Run {} before ts k ∧ tokenizePartial source r.trailing = (ts, some e) ∧
        let place := Location.between before after
        let printed := r.format.print (ts.filter fun t => r.only = [] ∨ t.kind ∈ r.only)
        (run (words .verdict) env).stdout = "invalid\n" ∧ (run (words .all) env).stdout = "" ∧
        (run (words .untilError) env).stdout = printed ∧
        (place.Fits → ∃ report, e.report? source r.input.origin = some report ∧
          ∀ mode, (run (words mode) env).exitCode = 1 ∧
            (run (words mode) env).stderr = report.render) ∧
        (¬ place.Fits → ∃ rows, (source.utf8ByteSize < offsetLimit → Report.IsUnmarked rows place) ∧
          ∀ mode, (run (words mode) env).exitCode = 101 ∧ (run (words mode) env).stderr = rows) ∧
        (source.utf8ByteSize < offsetLimit → (place.Fits ↔ place.column < Text.fieldLimit)) := by
  simp only [← select_eq_filter]
  constructor
  · intro ts accepted
    have ends (mode : Mode) := run_of_ok (parsed mode) read (tokenize_eq_ok_iff.mp accepted)
    exact ⟨ends .verdict, ends .all, ends .untilError⟩
  · intro e refused
    have scanned : scan source r.trailing = ((scan source r.trailing).1, some e) :=
      Prod.ext rfl (tokenize_eq_error_iff.mp refused)
    obtain ⟨before, after, k, reads, split, offset, -⟩ := exists_split_of_scan_eq_error scanned
    have ends (mode : Mode) := run_of_error (parsed mode) read scanned
    have prints (mode : Mode) := congrArg Outcome.stdout (ends mode)
    have reported := LexError.report?_of_split split offset r.input.origin
    have small (short : source.utf8ByteSize < offsetLimit) :
        byteLength (before ++ after) < offsetLimit := by
      rwa [← split, byteLength_toList]
    refine ⟨before, after, _, k, split, offset, reads, (tokenizePartial_eq ..).trans scanned,
      prints .verdict, prints .all, prints .untilError, fun fits => ?_, fun wide => ?_,
      fun short => Location.fits_between_iff (small short)⟩
    · obtain ⟨report, made, -⟩ := Report.exists_make? fits e.fault r.input.origin
      have given := reported.trans made
      refine ⟨report, given, fun mode => ?_⟩
      simp only [ends, Request.stop, given, LexError.print_of_report? given, Option.isSome_some,
        if_true, and_self]
    · have given := reported.trans (Report.make?_eq_none wide e.fault r.input.origin)
      refine ⟨e.print source r.input.origin, fun short => ?_, fun mode => ?_⟩
      · rw [LexError.print_of_split split offset]
        exact Report.isUnmarked_printRows wide (Location.bar_fits_between (small short)) _ _
      · simp [ends, Request.stop, given]

/-- The texts of an input, where it has no error and where it has one. -/
theorem modes_agree_on_texts :
    let words (mode : Mode) (markup : String) :=
      mode.words ++ ["--only", "text", "--format", "listing", markup]
    (∀ mode, parse (words mode "<a>x") =
      .ok (some ⟨.argument "<a>x", .listing, .accept, mode, [.text]⟩)) ∧
    (∀ mode, parse (words mode "<a>x<b!") =
      .ok (some ⟨.argument "<a>x<b!", .listing, .accept, mode, [.text]⟩)) ∧
    run (words .verdict "<a>x") {} = ⟨0, "valid\n", ""⟩ ∧
    run (words .all "<a>x") {} = ⟨0, "TOKENS_COUNT:1\nTOKEN_0:Text:x\n", ""⟩ ∧
    run (words .untilError "<a>x") {} = ⟨0, "TOKENS_COUNT:1\nTOKEN_0:Text:x\n", ""⟩ ∧
    (run (words .verdict "<a>x<b!") {}).stdout = "invalid\n" ∧
    (run (words .all "<a>x<b!") {}).stdout = "" ∧
    (run (words .untilError "<a>x<b!") {}).stdout = "TOKENS_COUNT:1\nTOKEN_0:Text:x\n" ∧
    ∃ report, ∀ mode, (run (words mode "<a>x<b!") {}).exitCode = 1 ∧
      (run (words mode "<a>x<b!") {}).stderr = report := by
  have accepted : tokenize "<a>x" = .ok
      [⟨.tagOpen, "<", ⟨0, 1⟩⟩, ⟨.identifier, "a", ⟨1, 2⟩⟩, ⟨.tagClose, ">", ⟨2, 3⟩⟩,
        ⟨.text, "x", ⟨3, 4⟩⟩] := tokenize_eq_ok_iff.mpr (by decide)
  have refused : tokenize "<a>x<b!" = .error ⟨.invalidIdentifierChar '!', 6⟩ :=
    tokenize_eq_error_iff.mpr (by decide)
  have parsed : parse ["--only", "text", "--format", "listing", "<a>x"] =
      .ok (some ⟨.argument "<a>x", .listing, .accept, .all, [.text]⟩) := by decide
  have parsed' : parse ["--only", "text", "--format", "listing", "<a>x<b!"] =
      .ok (some ⟨.argument "<a>x<b!", .listing, .accept, .all, [.text]⟩) := by decide
  have asked := parse_mode_words parsed rfl
  have asked' := parse_mode_words parsed' rfl
  have read (markup : String) :
      Environment.markup {} (.argument markup) = .ok markup := rfl
  obtain ⟨verdict, all, untilError⟩ := (modes_agree asked (read _)).1 _ accepted
  obtain ⟨before, after, ts, k, split, here, -, found, invalid, nothing, texts, fits, -⟩ :=
    (modes_agree asked' (read _)).2 _ refused
  have scanned : tokenizePartial "<a>x<b!" =
      ([⟨.tagOpen, "<", ⟨0, 1⟩⟩, ⟨.identifier, "a", ⟨1, 2⟩⟩, ⟨.tagClose, ">", ⟨2, 3⟩⟩,
        ⟨.text, "x", ⟨3, 4⟩⟩, ⟨.tagOpen, "<", ⟨4, 5⟩⟩], some ⟨.invalidIdentifierChar '!', 6⟩) :=
    (tokenizePartial_eq ..).trans (by decide)
  obtain ⟨rfl, -⟩ := Prod.mk.inj (found.symm.trans scanned)
  have place : Location.between before after = ⟨1, "<a>x<b!", 6⟩ :=
    Option.some.inj ((locate_of_split split here).symm.trans (by decide))
  obtain ⟨report, -, ends⟩ := fits (by rw [place]; exact ⟨by decide, by decide⟩)
  exact ⟨asked, asked', verdict, all, untilError, invalid, nothing, texts, report.render, ends⟩

/-! ### Long lines -/

/-- A tag whose name of `n` letters is followed by a character that is not allowed. -/
def longTag (n : Nat) : String := String.ofList ('<' :: (List.replicate n 'a' ++ ['!']))

theorem scanFrom_name (trailing : TrailingText) (n offset : Nat) (current : Option Accumulator) :
    (scanFrom trailing .inIdentifier offset current (List.replicate n 'a' ++ ['!'])).2 =
      some ⟨.invalidIdentifierChar '!', offset + n⟩ := by
  induction n generalizing offset current with
  | zero => rfl
  | succ n ih =>
    have letter : step .inIdentifier 'a' = .ok (.inIdentifier, .extend) := by decide
    simp only [List.replicate_succ, List.cons_append, scanFrom, letter, ih]
    rw [show 'a'.utf8Size = 1 from rfl, Nat.add_assoc, Nat.add_comm 1]

theorem tokenize_longTag (n : Nat) (trailing : TrailingText) :
    tokenize (longTag (n + 1)) trailing = .error ⟨.invalidIdentifierChar '!', n + 2⟩ := by
  refine tokenize_eq_error_iff.mpr ?_
  have sign : step .start '<' = .ok (.afterOpen, .emit .tagOpen) := by decide
  have letter : step .afterOpen 'a' = .ok (.inIdentifier, .begin .identifier) := by decide
  simp only [scan, longTag, String.toList_ofList, List.replicate_succ, List.cons_append, scanFrom,
    sign, letter, scanFrom_name]
  rw [show '<'.utf8Size = 1 from rfl, show 'a'.utf8Size = 1 from rfl, Nat.add_comm n]

theorem byteLength_replicate (n : Nat) (c : Char) :
    byteLength (List.replicate n c) = n * c.utf8Size := by
  induction n with
  | zero => rw [Nat.zero_mul]; rfl
  | succ n ih => rw [List.replicate_succ, byteLength, ih, Nat.succ_mul, Nat.add_comm]

/-- The error after a long name is too far to the right for a report, so that a command breaks off
    in every mode. -/
theorem exitCode_longTag {n : Nat} (far : Text.fieldLimit < n + 3) {words : List String}
    {r : Request} (parsed : parse words = .ok (some r)) {env : Environment}
    (read : env.markup r.input = .ok (longTag (n + 1))) : (run words env).exitCode = 101 := by
  have refused := tokenize_eq_error_iff.mp (tokenize_longTag n r.trailing)
  have scanned : scan (longTag (n + 1)) r.trailing = (_, some _) := Prod.ext rfl refused
  have split : (longTag (n + 1)).toList = ('<' :: List.replicate (n + 1) 'a') ++ ['!'] :=
    String.toList_ofList
  have here : n + 2 = byteLength ('<' :: List.replicate (n + 1) 'a') := by
    rw [byteLength, byteLength_replicate, show '<'.utf8Size = 1 from rfl,
      show 'a'.utf8Size = 1 from rfl]
    omega
  have wide : ¬ (Location.between ('<' :: List.replicate (n + 1) 'a') ['!']).Fits := by
    intro fits
    -- The line has no end before the place, so all that was read is before the mark.
    have mark : (lineStart ('<' :: List.replicate (n + 1) 'a')).length + 1 ≤ Text.fieldLimit :=
      fits.mark
    rw [lineStart_of_unbroken (by simp), List.length_cons, List.length_replicate] at mark
    omega
  have given : LexError.report? ⟨.invalidIdentifierChar '!', n + 2⟩ (longTag (n + 1))
      r.input.origin = none :=
    (LexError.report?_of_split split here _).trans (Report.make?_eq_none wide _ _)
  rw [run_of_error parsed read scanned, Request.stop, given]
  rfl

theorem markup_standardInput (s : String) :
    Environment.markup { standardInput := .ok s.toUTF8 } .standardInput = .ok s := by
  have valid : String.fromUTF8? s.toUTF8 = some s := dif_pos s.isValidUTF8
  change decode s.toUTF8 = .ok s
  rw [decode, valid]

/-- A command that is to say that its input is invalid breaks off instead. -/
theorem breaks_off_after_long_name :
    tokenize (longTag 65534) = .error ⟨.invalidIdentifierChar '!', 65535⟩ ∧
      parse ["--check"] = .ok (some ⟨.standardInput, .table, .accept, .verdict, []⟩) ∧
      (run ["--check"] { standardInput := .ok (longTag 65534).toUTF8 }).exitCode = 101 := by
  have parsed : parse ["--check"] = .ok (some ⟨.standardInput, .table, .accept, .verdict, []⟩) := by
    decide
  have far : Text.fieldLimit < 65533 + 3 := by decide
  have read := markup_standardInput (longTag (65533 + 1))
  exact ⟨tokenize_longTag 65533 .accept, parsed, exitCode_longTag far parsed read⟩

end MarkupLexer.Command
