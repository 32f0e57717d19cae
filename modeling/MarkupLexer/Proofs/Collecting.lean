import MarkupLexer.Proofs.Streaming

/-!
# What is being collected

The type of a reading lets any value be collected in any state. In a sound reading a value is
collected in the five states that are inside of one and in no other, its kind is the one that
belongs to the state, it is a value that a token of the kind may have, and it ends where the reading
stands. Every move keeps a reading sound and completes only tokens with values of their kind, so
no input is given a token with another.
-/

namespace MarkupLexer

/-- The kind of the value that is collected in a state. -/
def State.collects : State → Option Kind
  | inIdentifier => some .identifier
  | inAttributeName => some .attributeName
  | inStringValue => some .attributeStringValue
  | inExpressionValue => some .attributeExpressionValue
  | inText => some .text
  | _ => none

/-- The values that a token of the kind may have. -/
def Kind.Admits (value : String) : Kind → Prop
  | tagOpen => value = "<"
  | tagClose => value = ">"
  | slash => value = "/"
  | identifier | attributeName => IsName value
  | attributeStringValue | attributeExpressionValue => ∀ c ∈ value.toList, NameChar c
  | text => value ≠ "" ∧ '<' ∉ value.toList

theorem isName_singleton {c : Char} (allowed : NameChar c) : IsName (String.singleton c) :=
  ⟨String.singleton_ne_empty, by simpa using allowed⟩

theorem nameChars_push {s : String} {c : Char} (chars : ∀ d ∈ s.toList, NameChar d)
    (allowed : NameChar c) : ∀ d ∈ (s.push c).toList, NameChar d := by
  intro d member
  rw [String.toList_push, List.mem_append, List.mem_singleton] at member
  rcases member with earlier | rfl
  · exact chars d earlier
  · exact allowed

/-- What an action calls for: whether a value is collected before and after it, and which values. -/
def Action.Fits (s next : State) (c : Char) : Action → Prop
  | skip => s.collects = none ∧ next.collects = none
  | emit kind => s.collects = none ∧ next.collects = none ∧ kind.Admits (String.singleton c)
  | begin kind =>
    s.collects = none ∧ next.collects = some kind ∧ kind.Admits (String.singleton c)
  | openAfter kind => s.collects = none ∧ next.collects = some kind ∧ kind.Admits ""
  | extend => ∃ kind, s.collects = some kind ∧ next.collects = some kind ∧
      ∀ value, kind.Admits value → kind.Admits (value.push c)
  | flush => (∃ kind, s.collects = some kind) ∧ next.collects = none
  | flushThen kind =>
    (∃ other, s.collects = some other) ∧ next.collects = none ∧
      kind.Admits (String.singleton c)

theorem Moves.fits {s next : State} {c : Char} {action : Action} (moved : Moves s c next action) :
    action.Fits s next c := by
  cases moved with
  | enters | slashes | closesAfterValue | opensNext => exact ⟨rfl, rfl, rfl⟩
  | separates => exact ⟨rfl, rfl⟩
  | beginsIdentifier allowed | beginsAttributeName allowed =>
    exact ⟨rfl, rfl, isName_singleton allowed⟩
  | beginsText other => exact ⟨rfl, rfl, String.singleton_ne_empty, by simpa using other.symm⟩
  | opensString | opensExpression => exact ⟨rfl, rfl, by simp [Kind.Admits]⟩
  | extendsIdentifier allowed | extendsAttributeName allowed =>
    exact ⟨_, rfl, rfl, fun _ name => ⟨String.push_ne_empty, nameChars_push name.2 allowed⟩⟩
  | extendsString allowed | extendsExpression allowed =>
    exact ⟨_, rfl, rfl, fun _ chars => nameChars_push chars allowed⟩
  | extendsText other =>
    refine ⟨_, rfl, rfl, fun value text => ⟨String.push_ne_empty, ?_⟩⟩
    simpa using ⟨text.2, other.symm⟩
  | endsIdentifier | endsAttributeName | endsString | endsExpression => exact ⟨⟨_, rfl⟩, rfl⟩
  | closesAfterIdentifier | endsText => exact ⟨⟨_, rfl⟩, rfl, rfl⟩

/-! ### Sound readings -/

namespace Reading

/-- What is collected is what the state is in the middle of. -/
structure Sound (k : Reading) : Prop where
  kind : k.current.map (·.kind) = k.state.collects
  admits : ∀ a ∈ k.current, a.kind.Admits a.value
  stop : ∀ a ∈ k.current, a.stop = k.offset

theorem sound_start : Sound {} := ⟨rfl, by simp, by simp⟩

variable {k : Reading} {c : Char} {next : State} {action : Action}

theorem Sound.current_eq_none (sound : k.Sound) (idle : k.state.collects = none) :
    k.current = none := by
  have kind := sound.kind
  rw [idle] at kind
  exact Option.map_eq_none_iff.mp kind

theorem Sound.exists_current {kind : Kind} (sound : k.Sound)
    (collecting : k.state.collects = some kind) :
    ∃ a, k.current = some a ∧ a.kind = kind ∧ kind.Admits a.value ∧ a.stop = k.offset := by
  have known := sound.kind
  rw [collecting] at known
  obtain ⟨a, held, rfl⟩ := Option.map_eq_some_iff.mp known
  exact ⟨a, held, rfl, sound.admits a held, sound.stop a held⟩

/-- A reading in which nothing is collected. -/
theorem Sound.of_none (empty : k.current = none) (idle : k.state.collects = none) : k.Sound :=
  ⟨by rw [empty, idle]; rfl, by simp [empty], by simp [empty]⟩

theorem Sound.of_some {a : Accumulator} (held : k.current = some a)
    (collecting : k.state.collects = some a.kind) (admits : a.kind.Admits a.value)
    (stop : a.stop = k.offset) : k.Sound :=
  ⟨by rw [held, collecting]; rfl, by simpa [held] using admits, by simpa [held] using stop⟩

theorem Sound.after (sound : k.Sound) (moved : Moves k.state c next action) :
    (k.after c next action).Sound := by
  have fits := moved.fits
  cases action with
  | skip =>
    obtain ⟨idle, rests⟩ := fits
    exact .of_none (sound.current_eq_none idle) rests
  | emit kind =>
    obtain ⟨idle, rests, _⟩ := fits
    exact .of_none (sound.current_eq_none idle) rests
  | begin kind =>
    obtain ⟨_, collects, admits⟩ := fits
    exact .of_some (a := ⟨kind, String.singleton c, k.offset⟩) rfl collects admits
      (by simp [Accumulator.stop, Reading.after])
  | openAfter kind =>
    obtain ⟨_, collects, admits⟩ := fits
    exact .of_some (a := ⟨kind, "", k.offset + c.utf8Size⟩) rfl collects admits
      (by simp [Accumulator.stop, Reading.after])
  | extend =>
    obtain ⟨kind, collecting, collects, grows⟩ := fits
    obtain ⟨a, held, rfl, admits, stop⟩ := sound.exists_current collecting
    refine .of_some (a := a.push c) (by simp [Reading.after, Action.apply, held]) collects
      (grows _ admits) ?_
    simp only [Accumulator.stop, Accumulator.push, String.utf8ByteSize_push, Reading.after]
    simp only [Accumulator.stop] at stop
    omega
  | flush => exact .of_none rfl fits.2
  | flushThen kind => exact .of_none rfl fits.2.1

theorem Sound.admits_emitted (sound : k.Sound) (moved : Moves k.state c next action) :
    ∀ t ∈ k.emitted c action, t.kind.Admits t.value := by
  have fits := moved.fits
  cases action with
  | skip | begin kind | openAfter kind | extend => simp [emitted, Action.apply]
  | emit kind =>
    simpa [emitted, Action.apply, Token.structural] using fits.2.2
  | flush =>
    obtain ⟨⟨kind, collecting⟩, _⟩ := fits
    obtain ⟨a, held, rfl, admits, _⟩ := sound.exists_current collecting
    simpa [emitted, Action.apply, held, Accumulator.token] using admits
  | flushThen kind =>
    obtain ⟨⟨other, collecting⟩, _, allowed⟩ := fits
    obtain ⟨a, held, rfl, admits, _⟩ := sound.exists_current collecting
    simpa [emitted, Action.apply, held, Accumulator.token, Token.structural]
      using And.intro admits allowed

theorem Sound.admits_emittedAtEnd (sound : k.Sound) (ending : EndAction) :
    ∀ t ∈ k.emittedAtEnd ending, t.kind.Admits t.value := by
  intro t member
  cases ending with
  | done => contradiction
  | flush =>
    obtain ⟨a, held, rfl⟩ := List.mem_map.mp member
    exact sound.admits a (Option.mem_toList.mp held)

/-- In a text the end of the input completes one token, and that is a text. -/
theorem Sound.exists_text (sound : k.Sound) (reading : k.state = .inText) :
    ∃ t, k.emittedAtEnd .flush = [t] ∧ t.kind = .text := by
  have collecting : k.state.collects = some .text := by rw [reading]; rfl
  obtain ⟨a, collected, kind, _⟩ := sound.exists_current collecting
  exact ⟨a.token, by simp [emittedAtEnd, collected], kind⟩

end Reading

section Runs

variable {k k' : Reading} {cs : List Char} {ts : List Token}

theorem Run.sound (run : Run k cs ts k') (sound : k.Sound) : k'.Sound :=
  run.invariant (P := fun _ _ k' => k'.Sound) sound fun sound moved => sound.after moved

/-- What a run keeps may be shown of the moves of sound readings alone. -/
theorem Run.invariant_of_sound {P : List Char → List Token → Reading → Prop} (run : Run k cs ts k')
    (sound : k.Sound) (start : P [] [] k)
    (step : ∀ {cs ts k c next action}, k.Sound → P cs ts k → Moves k.state c next action →
      P (cs ++ [c]) (ts ++ k.emitted c action) (k.after c next action)) : P cs ts k' := by
  have kept : k'.Sound ∧ P cs ts k' := by
    refine run.invariant (P := fun cs ts k' => k'.Sound ∧ P cs ts k') ⟨sound, start⟩ ?_
    rintro cs ts k₁ c next action ⟨sound, holds⟩ moved
    exact ⟨sound.after moved, step sound holds moved⟩
  exact kept.2

theorem Run.admits (run : Run k cs ts k') (sound : k.Sound) :
    ∀ t ∈ ts, t.kind.Admits t.value := by
  refine run.invariant_of_sound (P := fun _ ts _ => ∀ t ∈ ts, t.kind.Admits t.value) sound
    (by simp) ?_
  intro cs ts k₁ c next action sound admits moved t member
  rcases List.mem_append.mp member with earlier | now
  · exact admits t earlier
  · exact sound.admits_emitted moved t now

end Runs

/-- The tokens of an input, of one with an error too, have values of their kind. -/
theorem admits_of_mem_tokenizePartial {source : String} {trailing : TrailingText} {t : Token}
    (member : t ∈ (tokenizePartial source trailing).1) : t.kind.Admits t.value := by
  obtain ⟨cs, ts, k, ending, run, tokens⟩ := exists_run_of_tokenizePartial source trailing
  rw [tokens] at member
  rcases List.mem_append.mp member with earlier | last
  · exact run.admits Reading.sound_start t earlier
  · exact (run.sound Reading.sound_start).admits_emittedAtEnd ending t last

end MarkupLexer
