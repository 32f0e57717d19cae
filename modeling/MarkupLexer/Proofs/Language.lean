import MarkupLexer.Proofs.Printing
import MarkupLexer.Proofs.Contents

/-!
# The language

Reading what a well-formed document is written as, part by part: `Reads` goes from a state in which
nothing is collected to another, `Collects` into the middle of a value. A document is read to its
end, with its contents as tokens, so the accepted inputs are the well-formed documents as they are
written, and reading undoes printing on their contents.
-/

namespace MarkupLexer

/-! ### Reading in parts -/

/-- From the one state to the other, with tokens of these contents. -/
def Reads (s : State) (cs : List Char) (l : List (Kind × String)) (s' : State) : Prop :=
  ∀ offset, ∃ ts offset', Run ⟨s, offset, none⟩ cs ts ⟨s', offset', none⟩ ∧
    ts.map Token.content = l

/-- From a state into one in which a value is being collected. -/
def Collects (s : State) (cs : List Char) (kind : Kind) (value : String) (s' : State) : Prop :=
  ∀ offset, ∃ offset' start, Run ⟨s, offset, none⟩ cs [] ⟨s', offset', some ⟨kind, value, start⟩⟩

/-- From a state to the end of the input, without an error. -/
def Completes (trailing : TrailingText) (s : State) (cs : List Char) (l : List (Kind × String)) :
    Prop :=
  ∀ offset, ∃ ts, Reading.scan ⟨s, offset, none⟩ trailing cs = (ts, none) ∧
    ts.map Token.content = l

variable {trailing : TrailingText} {s q s' : State} {cs ds : List Char}
  {l m : List (Kind × String)} {kind : Kind} {value : String} {c : Char}

theorem Reads.nil (s : State) : Reads s [] [] s := fun _ => ⟨[], _, .stay _, rfl⟩

theorem Reads.append (first : Reads s cs l q) (second : Reads q ds m s') :
    Reads s (cs ++ ds) (l ++ m) s' := by
  intro offset
  obtain ⟨ts, middle, run, rfl⟩ := first offset
  obtain ⟨us, after, rest, rfl⟩ := second middle
  exact ⟨ts ++ us, after, run.append rest, List.map_append⟩

theorem Reads.completes (first : Reads s cs l q) (rest : Completes trailing q ds m) :
    Completes trailing s (cs ++ ds) (l ++ m) := by
  intro offset
  obtain ⟨ts, middle, run, rfl⟩ := first offset
  obtain ⟨us, scanned, rfl⟩ := rest middle
  exact ⟨ts ++ us, by rw [run.scan_append, scanned], List.map_append⟩

theorem reads_skip (moved : Moves s c s' .skip) : Reads s [c] [] s' := by
  intro offset
  have run : Run ⟨s, offset, none⟩ [c] _ _ := .single moved
  exact ⟨_, _, run, rfl⟩

theorem reads_emit (moved : Moves s c s' (.emit kind)) :
    Reads s [c] [(kind, String.singleton c)] s' := by
  intro offset
  have run : Run ⟨s, offset, none⟩ [c] _ _ := .single moved
  exact ⟨_, _, run, rfl⟩

theorem Collects.flush (collects : Collects s cs kind value q) (moved : Moves q c s' .flush) :
    Reads s (cs ++ [c]) [(kind, value)] s' := by
  intro offset
  obtain ⟨middle, start, run⟩ := collects offset
  have last : Run ⟨q, middle, some ⟨kind, value, start⟩⟩ [c] _ _ := .single moved
  exact ⟨_, _, run.append last, rfl⟩

theorem Collects.flushThen {other : Kind} (collects : Collects s cs kind value q)
    (moved : Moves q c s' (.flushThen other)) :
    Reads s (cs ++ [c]) [(kind, value), (other, String.singleton c)] s' := by
  intro offset
  obtain ⟨middle, start, run⟩ := collects offset
  have last : Run ⟨q, middle, some ⟨kind, value, start⟩⟩ [c] _ _ := .single moved
  exact ⟨_, _, run.append last, rfl⟩

/-- Characters that extend a value are all appended to it. -/
theorem Collects.extend (collects : Collects s cs kind value q)
    (stays : ∀ d ∈ ds, Moves q d q .extend) :
    Collects s (cs ++ ds) kind (value ++ String.ofList ds) q := by
  induction ds generalizing cs value with
  | nil => simpa using collects
  | cons d ds ih =>
    have further : Collects s (cs ++ [d]) kind (value.push d) q := by
      intro offset
      obtain ⟨middle, start, run⟩ := collects offset
      have last : Run ⟨q, middle, some ⟨kind, value, start⟩⟩ [d] _ _ :=
        .single (stays d List.mem_cons_self)
      exact ⟨_, start, run.append last⟩
    have rest := ih further (fun e member => stays e (List.mem_cons_of_mem d member))
    rw [List.append_assoc, List.singleton_append] at rest
    rw [String.ofList_cons, ← String.append_assoc, String.append_singleton]
    exact rest

/-- A value without delimiters begins with its first character. -/
theorem collects_of_begin {Allowed : Char → Prop} (nonempty : value ≠ "")
    (chars : ∀ d ∈ value.toList, Allowed d) (begins : ∀ d, Allowed d → Moves s d q (.begin kind))
    (stays : ∀ d, Allowed d → Moves q d q .extend) : Collects s value.toList kind value q := by
  obtain ⟨list, rfl⟩ := String.exists_eq_ofList value
  rw [String.toList_ofList] at chars ⊢
  cases list with
  | nil => exact absurd String.ofList_nil nonempty
  | cons c cs =>
    have first : Collects s [c] kind (String.singleton c) q := by
      intro offset
      have run : Run ⟨s, offset, none⟩ [c] _ _ := .single (begins c (chars c List.mem_cons_self))
      exact ⟨_, _, run⟩
    have whole : Collects s ([c] ++ cs) kind (String.singleton c ++ String.ofList cs) q :=
      first.extend fun d member => stays d (chars d (List.mem_cons_of_mem c member))
    rwa [← String.ofList_cons] at whole

/-- A value between delimiters begins after the first of them. -/
theorem collects_of_open {Allowed : Char → Prop} (chars : ∀ d ∈ value.toList, Allowed d)
    (opens : Moves s c q (.openAfter kind)) (stays : ∀ d, Allowed d → Moves q d q .extend) :
    Collects s (c :: value.toList) kind value q := by
  have first : Collects s [c] kind "" q := by
    intro offset
    have run : Run ⟨s, offset, none⟩ [c] _ _ := .single opens
    exact ⟨_, _, run⟩
  have whole : Collects s ([c] ++ value.toList) kind ("" ++ String.ofList value.toList) q :=
    first.extend fun d member => stays d (chars d member)
  simpa using whole

/-! ### The parts of a document -/

theorem collects_identifier {name : String} (isName : IsName name) :
    Collects .afterOpen name.toList .identifier name .inIdentifier :=
  collects_of_begin isName.1 isName.2 (fun _ => .beginsIdentifier) (fun _ => .extendsIdentifier)

theorem reads_attributeName {name : String} (isName : IsName name) :
    Reads .awaitingAttribute (name.toList ++ ['=']) [(.attributeName, name)]
      .awaitingAttributeValue := by
  have collects : Collects .awaitingAttribute name.toList .attributeName name .inAttributeName :=
    collects_of_begin isName.1 isName.2 (fun _ => .beginsAttributeName)
      (fun _ => .extendsAttributeName)
  exact collects.flush .endsAttributeName

theorem reads_around (enclosure : Enclosure) (chars : ∀ d ∈ value.toList, NameChar d) :
    Reads .awaitingAttributeValue (enclosure.around value).toList [(enclosure.kind, value)]
      .afterAttributeValue := by
  cases enclosure with
  | quotes =>
    have collects := collects_of_open chars .opensString (fun _ => .extendsString)
    simpa [Enclosure.around, Enclosure.kind] using collects.flush .endsString
  | braces =>
    have collects := collects_of_open chars .opensExpression (fun _ => .extendsExpression)
    simpa [Enclosure.around, Enclosure.kind] using collects.flush .endsExpression

/-- An attribute, after the space in front of it. -/
theorem reads_attribute {a : Attribute} (wellFormed : a.WellFormed) :
    Reads .awaitingAttribute (a.name ++ "=" ++ a.enclosure.around a.value).toList a.contents
      .afterAttributeValue := by
  have reads := (reads_attributeName wellFormed.name).append
    (reads_around a.enclosure wellFormed.value)
  simpa [Attribute.contents] using reads

/-- The attributes after the first, and the end of the tag. -/
theorem reads_attributes (as : List Attribute) (wellFormed : ∀ a ∈ as, a.WellFormed) :
    Reads .afterAttributeValue ((String.join (as.map (·.markup))).toList ++ ['>'])
      (as.flatMap (·.contents) ++ [(.tagClose, ">")]) .afterTagClose := by
  induction as with
  | nil => exact reads_emit .closesAfterValue
  | cons a as ih =>
    have first := (reads_skip .separates).append (reads_attribute (wellFormed a List.mem_cons_self))
    have rest := ih fun b member => wellFormed b (List.mem_cons_of_mem a member)
    simpa [Attribute.markup] using first.append rest

theorem reads_slashes (slashes : Nat) :
    Reads .afterOpen (List.replicate slashes '/') (List.replicate slashes (.slash, "/"))
      .afterOpen := by
  induction slashes with
  | zero => exact .nil _
  | succ slashes ih => exact (reads_emit .slashes).append ih

/-- A tag from its name on: the name ends where the first attribute or the end of the tag begins. -/
theorem reads_named {name : String} {as : List Attribute} (isName : IsName name)
    (wellFormed : ∀ a ∈ as, a.WellFormed) :
    Reads .afterOpen (name.toList ++ (String.join (as.map (·.markup))).toList ++ ['>'])
      ((.identifier, name) :: as.flatMap (·.contents) ++ [(.tagClose, ">")]) .afterTagClose := by
  -- Without attributes, the end of the tag is what completes the name.
  cases as with
  | nil => simpa using (collects_identifier isName).flushThen .closesAfterIdentifier
  | cons a as =>
    have first := ((collects_identifier isName).flush .endsIdentifier).append
      (reads_attribute (wellFormed a List.mem_cons_self))
    have rest := reads_attributes as fun b member => wellFormed b (List.mem_cons_of_mem a member)
    simpa [Attribute.markup] using first.append rest

/-- A tag as it is written. -/
def Segment.tagMarkup (t : Segment) : String :=
  "<" ++ String.ofList (List.replicate t.slashes '/') ++ t.name ++
    String.join (t.attributes.map (·.markup)) ++ ">"

/-- A tag after anything that is read up to the beginning of a tag. -/
theorem reads_tag {t : Segment} (wellFormed : t.WellFormed)
    (opens : Reads s (cs ++ ['<']) (l ++ [(.tagOpen, "<")]) .afterOpen) :
    Reads s (cs ++ t.tagMarkup.toList) (l ++ t.tagContents ++ [(.tagClose, ">")])
      .afterTagClose := by
  have named := reads_named wellFormed.name wellFormed.attributes
  have reads := (opens.append (reads_slashes t.slashes)).append named
  simpa [Segment.tagMarkup, Segment.tagContents, Segment.headContents] using reads

theorem collects_text {text : String} (nonempty : text ≠ "") (other : '<' ∉ text.toList) :
    Collects .afterTagClose text.toList .text text .inText := by
  have chars : ∀ d ∈ text.toList, d ≠ '<' := by
    rintro d member rfl
    exact other member
  exact collects_of_begin nonempty chars (fun _ => .beginsText) (fun _ => .extendsText)

/-- A text, if there is one, up to the beginning of the next tag. -/
theorem reads_text {text : String} (other : '<' ∉ text.toList) :
    Reads .afterTagClose (text.toList ++ ['<']) (Segment.textContents text ++ [(.tagOpen, "<")])
      .afterOpen := by
  by_cases empty : text = ""
  · subst empty
    exact reads_emit .opensNext
  · simpa [Segment.textContents, empty] using (collects_text empty other).flushThen .endsText

/-- A text, if there is one, at the end of the input. -/
theorem completes_text {text : String} (other : '<' ∉ text.toList)
    (last : trailing = .reject → text = "") :
    Completes trailing .afterTagClose text.toList (Segment.textContents text) := by
  intro offset
  by_cases empty : text = ""
  · subst empty
    exact ⟨[], rfl, rfl⟩
  · obtain ⟨offset', start, run⟩ := collects_text empty other offset
    have accepts : trailing = .accept := by
      cases trailing with
      | accept => rfl
      | reject => exact absurd (last rfl) empty
    have ended : finish trailing .inText = .ok .flush := by rw [accepts]; rfl
    refine ⟨_, (Scans.accepts run ended).scan_eq, ?_⟩
    simp [Segment.textContents, empty, Reading.emittedAtEnd, Accumulator.token, Token.content]

theorem Document.toList_markup_cons (t : Segment) (d : Document) :
    (Document.markup (t :: d)).toList =
      t.tagMarkup.toList ++ (t.text.toList ++ d.markup.toList) := by
  simp [Document.markup, Segment.markup, Segment.tagMarkup]

theorem Document.contents_cons (t : Segment) (d : Document) :
    Document.contents (t :: d) =
      t.tagContents ++ [(.tagClose, ">")] ++ (Segment.textContents t.text ++ d.contents) := by
  simp [Document.contents, Segment.contents_eq]

/-- A document after anything that is read up to the beginning of a tag. -/
theorem completes_document {t : Segment} {d : Document} (allowed : Document.Allowed (t :: d))
    (last : trailing = .reject → Document.endsInText (t :: d) = false)
    (opens : Reads s (cs ++ ['<']) (l ++ [(.tagOpen, "<")]) .afterOpen) :
    Completes trailing s (cs ++ (Document.markup (t :: d)).toList)
      (l ++ Document.contents (t :: d)) := by
  rw [Document.toList_markup_cons, Document.contents_cons]
  -- A text is complete only with the tag after it, so it goes into what is read before that tag.
  induction d generalizing s cs l t with
  | nil =>
    have wellFormed : t.WellFormed := allowed t List.mem_cons_self
    have text : Completes trailing .afterTagClose t.text.toList (Segment.textContents t.text) :=
      completes_text wellFormed.text fun rejects => by
        simpa [Document.endsInText] using last rejects
    simpa [Document.markup, Document.contents] using (reads_tag wellFormed opens).completes text
  | cons u d ih =>
    have wellFormed : t.WellFormed := allowed t List.mem_cons_self
    have later : Document.Allowed (u :: d) :=
      fun v member => allowed v (List.mem_cons_of_mem t member)
    have rest := ih later last (reads_text wellFormed.text)
    rw [← Document.toList_markup_cons, ← Document.contents_cons] at rest
    simpa using (reads_tag wellFormed opens).completes rest

/-- Every well-formed document is accepted as it is written, with its contents as tokens. -/
theorem scan_markup {d : Document} (wellFormed : d.WellFormed)
    (last : trailing = .reject → d.endsInText = false) :
    ∃ tokens, scan d.markup trailing = (tokens, none) ∧
      tokens.map Token.content = d.contents := by
  cases d with
  | nil => exact absurd rfl wellFormed.nonempty
  | cons t d =>
    have opens : Reads .start ([] ++ ['<']) ([] ++ [(.tagOpen, "<")]) .afterOpen :=
      reads_emit .enters
    exact completes_document wellFormed.segments last opens 0

/-! ### Printing contents -/

theorem join_slashes (slashes : Nat) :
    String.join ((List.replicate slashes (Kind.slash, "/")).map printContent) =
      String.ofList (List.replicate slashes '/') := by
  induction slashes with
  | zero => rfl
  | succ slashes ih =>
    rw [List.replicate_succ, List.map_cons, String.join_cons, ih, List.replicate_succ,
      String.ofList_cons]
    rfl

theorem Attribute.join_contents (a : Attribute) :
    String.join (a.contents.map printContent) = a.markup := by
  obtain ⟨name, enclosure, value⟩ := a
  rw [← String.toList_inj]
  cases enclosure <;>
    simp [contents, markup, printContent, Enclosure.kind, Enclosure.around, Kind.opening,
      Kind.closing]

theorem join_attributes (as : List Attribute) :
    String.join ((as.flatMap (·.contents)).map printContent) =
      String.join (as.map (·.markup)) := by
  induction as with
  | nil => rfl
  | cons a as ih =>
    rw [List.flatMap_cons, List.map_append, String.join_append, ih, a.join_contents, List.map_cons,
      String.join_cons]

theorem Segment.join_contents (t : Segment) :
    String.join (t.contents.map printContent) = t.markup := by
  have text : String.join ((textContents t.text).map printContent) = t.text := by
    by_cases empty : t.text = ""
    · simp [textContents, empty]
    · simp [textContents, empty, printContent, Kind.opening, Kind.closing, String.join_cons]
  rw [contents_eq, tagContents, headContents, ← String.toList_inj]
  simp only [List.cons_append, List.append_assoc, List.map_cons, List.map_append, String.join_cons,
    String.join_append, join_slashes, join_attributes, text]
  simp [markup, printContent, Kind.opening, Kind.closing]

theorem Document.join_contents (d : Document) :
    String.join (d.contents.map printContent) = d.markup := by
  induction d with
  | nil => rfl
  | cons t d ih =>
    simp only [contents, markup, List.flatMap_cons, List.map_append, String.join_append,
      List.map_cons, String.join_cons, t.join_contents] at ih ⊢
    rw [ih]

/-- Tokens with the contents of a document are printed as the document is written. -/
theorem toSource_eq_markup {tokens : List Token} {d : Document}
    (contents : tokens.map Token.content = d.contents) : toSource tokens = d.markup := by
  rw [toSource_eq_join, contents, d.join_contents]

/-! ### What is accepted -/

/-- An accepted input is a well-formed document as it is written. -/
theorem exists_markup_of_scan {source : String} {tokens : List Token}
    (scanned : scan source trailing = (tokens, none)) :
    ∃ d : Document, d.WellFormed ∧ (trailing = .reject → d.endsInText = false) ∧
      d.markup = source := by
  obtain ⟨d, wellFormed, contents, last⟩ := exists_document_of_scan scanned
  refine ⟨d, wellFormed, last, ?_⟩
  rw [← toSource_eq_markup contents.symm, toSource_of_scan scanned]

theorem isOk_tokenize_iff_markup {source : String} :
    (tokenize source trailing).isOk ↔
      ∃ d : Document, d.WellFormed ∧ (trailing = .reject → d.endsInText = false) ∧
        d.markup = source := by
  rw [isOk_tokenize_iff]
  constructor
  · rintro ⟨tokens, scanned⟩
    exact exists_markup_of_scan scanned
  · rintro ⟨d, wellFormed, last, rfl⟩
    obtain ⟨tokens, scanned, _⟩ := scan_markup wellFormed last
    exact ⟨tokens, scanned⟩

/-- The accepted inputs are the well-formed documents as they are written; where text after the last
    tag is rejected, those that have none. -/
theorem accepts_iff_document (source : String) :
    ((tokenize source).isOk ↔ ∃ d : Document, d.WellFormed ∧ d.markup = source) ∧
      (validate source ↔ ∃ d : Document, d.WellFormed ∧ d.markup = source) ∧
      ((tokenize source .reject).isOk ↔
        ∃ d : Document, d.WellFormed ∧ d.endsInText = false ∧ d.markup = source) := by
  have accepts : (tokenize source).isOk ↔ ∃ d : Document, d.WellFormed ∧ d.markup = source := by
    simp [isOk_tokenize_iff_markup]
  have rejects : (tokenize source .reject).isOk ↔
      ∃ d : Document, d.WellFormed ∧ d.endsInText = false ∧ d.markup = source := by
    simp [isOk_tokenize_iff_markup]
  exact ⟨accepts, accepts, rejects⟩

/-! ### The contents of what is accepted -/

/-- The contents of a well-formed document. -/
def WellFormedContents (l : List (Kind × String)) : Prop :=
  ∃ d : Document, d.WellFormed ∧ d.contents = l

/-- The last of the contents is a text. -/
def EndsInText (l : List (Kind × String)) : Prop := ∃ value, l.getLast? = some (.text, value)

theorem wellFormedContents_of_tokenize {source : String} {tokens : List Token}
    (accepted : tokenize source trailing = .ok tokens) :
    WellFormedContents (tokens.map Token.content) ∧
      (trailing = .reject → ¬ EndsInText (tokens.map Token.content)) := by
  obtain ⟨d, wellFormed, contents, last⟩ :=
    exists_document_of_scan (tokenize_eq_ok_iff.mp accepted)
  refine ⟨⟨d, wellFormed, contents⟩, fun rejects ends => ?_⟩
  have endsInText : d.endsInText = true := by
    rw [Document.endsInText_iff, contents]
    exact ends
  rw [last rejects] at endsInText
  contradiction

theorem tokenize_toSource {tokens : List Token}
    (wellFormed : WellFormedContents (tokens.map Token.content))
    (last : trailing = .reject → ¬ EndsInText (tokens.map Token.content)) :
    ∃ again, tokenize (toSource tokens) trailing = .ok again ∧
      again.map Token.content = tokens.map Token.content := by
  obtain ⟨d, wellFormed, contents⟩ := wellFormed
  have bare : trailing = .reject → d.endsInText = false := by
    intro rejects
    rw [Bool.eq_false_iff, ne_eq, Document.endsInText_iff, contents]
    exact last rejects
  obtain ⟨again, scanned, same⟩ := scan_markup wellFormed bare
  rw [toSource_eq_markup contents.symm, ← contents]
  exact ⟨again, tokenize_eq_ok_iff.mpr scanned, same⟩

/-- The contents of the tokens of accepted inputs are those of well-formed documents, and tokens
    with such contents are read back from their print. Where text after the last tag is rejected,
    the same holds of contents that do not end in text. -/
theorem contents_of_accepted_and_back :
    ((∀ source tokens, tokenize source = .ok tokens →
        WellFormedContents (tokens.map Token.content)) ∧
      ∀ tokens, WellFormedContents (tokens.map Token.content) →
        ∃ again, tokenize (toSource tokens) = .ok again ∧
          again.map Token.content = tokens.map Token.content) ∧
    (∀ source tokens, tokenize source .reject = .ok tokens →
        WellFormedContents (tokens.map Token.content) ∧
          ¬ EndsInText (tokens.map Token.content)) ∧
      ∀ tokens, WellFormedContents (tokens.map Token.content) →
        ¬ EndsInText (tokens.map Token.content) →
        ∃ again, tokenize (toSource tokens) .reject = .ok again ∧
          again.map Token.content = tokens.map Token.content := by
  refine ⟨⟨?_, ?_⟩, ?_, ?_⟩
  · intro source tokens accepted
    exact (wellFormedContents_of_tokenize accepted).1
  · intro tokens wellFormed
    exact tokenize_toSource wellFormed nofun
  · intro source tokens accepted
    obtain ⟨wellFormed, last⟩ := wellFormedContents_of_tokenize accepted
    exact ⟨wellFormed, last rfl⟩
  · intro tokens wellFormed last
    exact tokenize_toSource wellFormed fun _ => last

theorem contents_of_accepted_and_back_text :
    ∃ tokens, tokenize "<//a b=\x7b\x7d>/></a>" = .ok tokens ∧
      tokenize "<//a b=\x7b\x7d>/></a>" .reject = .ok tokens ∧
      (WellFormedContents (tokens.map Token.content) ∧
        ¬ EndsInText (tokens.map Token.content)) ∧
      (∃ again, tokenize (toSource tokens) = .ok again ∧
        again.map Token.content = tokens.map Token.content) ∧
      ∃ again, tokenize (toSource tokens) .reject = .ok again ∧
        again.map Token.content = tokens.map Token.content := by
  let tokens : List Token :=
    [⟨.tagOpen, "<", ⟨0, 1⟩⟩, ⟨.slash, "/", ⟨1, 2⟩⟩, ⟨.slash, "/", ⟨2, 3⟩⟩,
      ⟨.identifier, "a", ⟨3, 4⟩⟩, ⟨.attributeName, "b", ⟨5, 6⟩⟩,
      ⟨.attributeExpressionValue, "", ⟨8, 8⟩⟩, ⟨.tagClose, ">", ⟨9, 10⟩⟩, ⟨.text, "/>", ⟨10, 12⟩⟩,
      ⟨.tagOpen, "<", ⟨12, 13⟩⟩, ⟨.slash, "/", ⟨13, 14⟩⟩, ⟨.identifier, "a", ⟨14, 15⟩⟩,
      ⟨.tagClose, ">", ⟨15, 16⟩⟩]
  have accepted : tokenize "<//a b=\x7b\x7d>/></a>" = .ok tokens :=
    tokenize_eq_ok_iff.mpr (by decide)
  have strictly : tokenize "<//a b=\x7b\x7d>/></a>" .reject = .ok tokens :=
    tokenize_eq_ok_iff.mpr (by decide)
  obtain ⟨⟨image, back⟩, imageWithoutText, backWithoutText⟩ := contents_of_accepted_and_back
  have wellFormed := image _ _ accepted
  have last := imageWithoutText _ _ strictly
  exact ⟨_, accepted, strictly, last, back _ wellFormed, backWithoutText _ last.1 last.2⟩

end MarkupLexer
