import Mathlib.Data.List.Chain
import MarkupLexer.Render
import MarkupLexer.Proofs.Printing
import MarkupLexer.Proofs.Rows

/-!
# Listings read back

A listing holds values as they are, so a text may hold line breaks and rows of its own, and there
are token lists that have one listing and are not the same. Those of two inputs never are: a text
ends before the next `<`, with which a tag begins, or else with the listing, and any other value
ends with its row.
-/

namespace MarkupLexer

/-! ### What follows a text -/

/-- Only the beginning of a tag follows a text. -/
def Token.Precedes (t u : Token) : Prop := t.kind = .text → u.kind = .tagOpen

/-- Tokens in which each text has the beginning of a tag after it. -/
structure TextsClosed (ts : List Token) : Prop where
  chain : ts.IsChain Token.Precedes
  last : ∀ t ∈ ts.getLast?, t.kind ≠ .text

theorem textsClosed_nil : TextsClosed [] := ⟨.nil, by simp⟩

theorem TextsClosed.append {ts us : List Token} (closed : TextsClosed ts)
    (chain : us.IsChain Token.Precedes) : (ts ++ us).IsChain Token.Precedes :=
  closed.chain.append chain fun t last _ _ text => absurd text (closed.last t last)

theorem TextsClosed.append_closed {ts us : List Token} (closed : TextsClosed ts)
    (more : TextsClosed us) : TextsClosed (ts ++ us) := by
  refine ⟨closed.append more.chain, fun t last => ?_⟩
  rw [List.getLast?_append, Option.mem_def, Option.or_eq_some_iff] at last
  rcases last with later | ⟨-, earlier⟩
  · exact more.last t later
  · exact closed.last t earlier

/-- A text is complete with the `<` after it, and no other character completes one. -/
theorem Reading.Sound.textsClosed_emitted {k : Reading} {c : Char} {next : State} {action : Action}
    (sound : k.Sound) (moved : Moves k.state c next action) : TextsClosed (k.emitted c action) := by
  obtain ⟨s, offset, current⟩ := k
  cases moved with
  | beginsIdentifier _ | extendsIdentifier _ | beginsAttributeName _ | extendsAttributeName _
  | opensString | extendsString _ | opensExpression | extendsExpression _ | separates
  | beginsText _ | extendsText _ => exact textsClosed_nil
  | enters | slashes | closesAfterValue | opensNext =>
    exact ⟨.singleton _, by simp [emitted, Action.apply, Token.structural]⟩
  | endsIdentifier | endsAttributeName | endsString | endsExpression =>
    obtain ⟨a, rfl, kind, _⟩ := sound.exists_current rfl
    exact ⟨.singleton _, by simp [emitted, Action.apply, Accumulator.token, kind]⟩
  | closesAfterIdentifier | endsText =>
    obtain ⟨a, rfl, kind, _⟩ := sound.exists_current rfl
    constructor <;>
      simp [emitted, Action.apply, Accumulator.token, Token.structural, Token.Precedes, kind]

theorem Run.textsClosed {k : Reading} {cs : List Char} {ts : List Token} (run : Run {} cs ts k) :
    TextsClosed ts :=
  run.invariant_of_sound (P := fun _ ts _ => TextsClosed ts) Reading.sound_start textsClosed_nil
    fun sound closed moved => closed.append_closed (sound.textsClosed_emitted moved)

/-! ### Listings -/

/-- Tokens whose values are told apart from what follows them. -/
structure Listable (ts : List Token) : Prop where
  admits : ∀ t ∈ ts, t.kind.Admits t.value
  chain : ts.IsChain Token.Precedes

theorem Listable.tail {t : Token} {ts : List Token} (listable : Listable (t :: ts)) :
    Listable ts :=
  ⟨fun u member => listable.admits u (List.mem_cons_of_mem t member), listable.chain.tail⟩

/-- The tokens of an input, of one with an error too, can be listed. -/
theorem listable_tokenizePartial (source : String) (trailing : TrailingText) :
    Listable (tokenizePartial source trailing).1 := by
  refine ⟨fun t member => admits_of_mem_tokenizePartial member, ?_⟩
  obtain ⟨cs, ts, k, ending, run, tokens⟩ := exists_run_of_tokenizePartial source trailing
  rw [tokens]
  refine run.textsClosed.append ?_
  cases ending with
  | done => exact .nil
  | flush => cases collected : k.current <;> simp [Reading.emittedAtEnd, collected]

theorem listable_of_tokenize {source : String} {trailing : TrailingText} {tokens : List Token}
    (accepted : tokenize source trailing = .ok tokens) : Listable tokens := by
  have listable := listable_tokenizePartial source trailing
  rwa [tokenizePartial_eq, tokenize_eq_ok_iff.mp accepted] at listable

/-- The lines of tokens, the first of which has that index. -/
def listingFrom (index : Nat) (ts : List Token) : String :=
  String.join ((ts.zipIdx index).map fun (t, i) => listingLine i t)

theorem toListing_eq (ts : List Token) :
    toListing ts = "TOKENS_COUNT:" ++ toString ts.length ++ "\n" ++ listingFrom 0 ts := rfl

/-- What stands before the kind in a line. -/
def lineLabel (index : Nat) : String := "TOKEN_" ++ toString index ++ ":"

theorem toList_listingFrom_cons (index : Nat) (t : Token) (ts : List Token) :
    (listingFrom index (t :: ts)).toList =
      (lineLabel index).toList ++ (t.kind.name.toList ++ ':' ::
        (t.value.toList ++ '\n' :: (listingFrom (index + 1) ts).toList)) := by
  simp [listingFrom, listingLine, lineLabel, List.zipIdx_cons, String.join_cons]

/-- What stands before the value in the line of the beginning of a tag. -/
def tagLabel (index : Nat) : List Char := (lineLabel index).toList ++ "TagOpen:".toList

theorem not_mem_tagLabel (index : Nat) : '<' ∉ tagLabel index := by
  have digits := not_mem_toString_nat (c := '<') rfl index
  simpa [tagLabel, lineLabel] using digits

/-- After a text that is not the last token the listing goes on with the beginning of a tag. -/
theorem Listable.toList_listingFrom_of_text {t u : Token} {ts : List Token} (index : Nat)
    (listable : Listable (t :: u :: ts)) (text : t.kind = .text) :
    (listingFrom index (u :: ts)).toList =
      tagLabel index ++ '<' :: '\n' :: (listingFrom (index + 1) ts).toList := by
  have kind : u.kind = .tagOpen := (List.isChain_cons_cons.mp listable.chain).1 text
  have value : u.value = "<" := by
    have admits := listable.admits u (by simp)
    rwa [kind] at admits
  rw [toList_listingFrom_cons, kind, value]
  simp [tagLabel, Kind.name]

/-- Only a text may hold a line break. -/
theorem Kind.Admits.unbroken {k : Kind} {value : String} (admits : k.Admits value)
    (other : k ≠ .text) : '\n' ∉ value.toList := by
  have plain : ¬ NameChar '\n' := by decide
  cases k with
  | tagOpen | tagClose | slash =>
    rw [show value = _ from admits]
    decide
  | identifier | attributeName => exact fun member => plain (admits.2 _ member)
  | attributeStringValue | attributeExpressionValue => exact fun member => plain (admits _ member)
  | text => contradiction

/-- A text before another token ends before the next `<`, less what stands there in its line. -/
theorem Listable.text_inj {t t' u u' : Token} {ts us : List Token} {index : Nat}
    (listable : Listable (t :: t' :: ts)) (listable' : Listable (u :: u' :: us))
    (text : t.kind = .text) (text' : u.kind = .text)
    (same : t.value.toList ++ '\n' :: (listingFrom index (t' :: ts)).toList =
      u.value.toList ++ '\n' :: (listingFrom index (u' :: us)).toList) :
    t.value = u.value ∧
      (listingFrom index (t' :: ts)).toList = (listingFrom index (u' :: us)).toList := by
  have clean {v : Token} (admits : v.kind.Admits v.value) (text : v.kind = .text) :
      '<' ∉ v.value.toList ++ '\n' :: tagLabel index := by
    rw [text] at admits
    simp [admits.2, not_mem_tagLabel]
  have regroup (value rest : List Char) :
      value ++ '\n' :: (tagLabel index ++ '<' :: rest) =
        (value ++ '\n' :: tagLabel index) ++ '<' :: rest := by simp
  rw [listable.toList_listingFrom_of_text index text,
    listable'.toList_listingFrom_of_text index text', regroup, regroup] at same
  obtain ⟨values, rest⟩ := append_cons_inj
    (clean (listable.admits t List.mem_cons_self) text)
    (clean (listable'.admits u List.mem_cons_self) text') same
  rw [listable.toList_listingFrom_of_text index text,
    listable'.toList_listingFrom_of_text index text', rest]
  exact ⟨String.toList_inj.mp (List.append_cancel_right values), rfl⟩

/-- A value ends at the same place in two listings whose tokens from there on are as many. -/
theorem Listable.value_inj {t u : Token} {ts us : List Token} {index : Nat}
    (listable : Listable (t :: ts)) (listable' : Listable (u :: us)) (kinds : t.kind = u.kind)
    (lengths : ts.length = us.length)
    (same : t.value.toList ++ '\n' :: (listingFrom index ts).toList =
      u.value.toList ++ '\n' :: (listingFrom index us).toList) :
    t.value = u.value ∧ (listingFrom index ts).toList = (listingFrom index us).toList := by
  by_cases text : t.kind = .text
  · -- Only the number of tokens says whether a text is the last of them.
    cases ts with
    | nil =>
      obtain rfl : us = [] := List.length_eq_zero_iff.mp lengths.symm
      exact ⟨String.toList_inj.mp (List.append_cancel_right same), rfl⟩
    | cons t' ts =>
      cases us with
      | nil => contradiction
      | cons u' us => exact listable.text_inj listable' text (kinds ▸ text) same
  · have admits := listable.admits t List.mem_cons_self
    have admits' := listable'.admits u List.mem_cons_self
    obtain ⟨values, rest⟩ := append_cons_inj (admits.unbroken text)
      (admits'.unbroken (kinds ▸ text)) same
    exact ⟨String.toList_inj.mp values, rest⟩

/-- As many tokens that have the same lines have the same contents. -/
theorem contents_eq_of_listingFrom_eq {ts us : List Token} (index : Nat) (listable : Listable ts)
    (listable' : Listable us) (lengths : ts.length = us.length)
    (same : (listingFrom index ts).toList = (listingFrom index us).toList) :
    ts.map Token.content = us.map Token.content := by
  induction ts generalizing us index with
  | nil =>
    obtain rfl : us = [] := List.length_eq_zero_iff.mp lengths.symm
    rfl
  | cons t ts ih =>
    cases us with
    | nil => contradiction
    | cons u us =>
      have lengths : ts.length = us.length := Nat.succ.inj lengths
      rw [toList_listingFrom_cons, toList_listingFrom_cons] at same
      obtain ⟨names, afterNames⟩ := append_cons_inj (t.kind.not_mem_name rfl)
        (u.kind.not_mem_name rfl) (List.append_cancel_left same)
      have kinds : t.kind = u.kind := Kind.name_inj (String.toList_inj.mp names)
      obtain ⟨values, rest⟩ := listable.value_inj listable' kinds lengths afterNames
      have contents : t.content = u.content := Prod.ext kinds values
      rw [List.map_cons, List.map_cons, contents,
        ih (index + 1) listable.tail listable'.tail lengths rest]

theorem contents_eq_of_toListing_eq {ts us : List Token} (listable : Listable ts)
    (listable' : Listable us) (same : toListing ts = toListing us) :
    ts.map Token.content = us.map Token.content := by
  have rows := congrArg String.toList same
  simp only [toListing_eq, String.toList_append, List.append_assoc] at rows
  obtain ⟨counts, rest⟩ := append_cons_inj (not_mem_toString_nat rfl _)
    (not_mem_toString_nat rfl _) (List.append_cancel_left rows)
  exact contents_eq_of_listingFrom_eq 0 listable listable' (toString_nat_inj counts) rest

/-- Two inputs with one listing are the same, and so are the kinds and values of their tokens. -/
theorem eq_of_toListing_eq {source source' : String} {trailing trailing' : TrailingText}
    {tokens tokens' : List Token} (accepted : tokenize source trailing = .ok tokens)
    (accepted' : tokenize source' trailing' = .ok tokens')
    (same : toListing tokens = toListing tokens') :
    tokens.map Token.content = tokens'.map Token.content ∧ source = source' := by
  have contents : tokens.map Token.content = tokens'.map Token.content :=
    contents_eq_of_toListing_eq (listable_of_tokenize accepted) (listable_of_tokenize accepted')
      same
  refine ⟨contents, ?_⟩
  calc source = toSource tokens := (toSource_of_scan (tokenize_eq_ok_iff.mp accepted)).symm
    _ = toSource tokens' := by rw [toSource_eq_join, contents, ← toSource_eq_join]
    _ = source' := toSource_of_scan (tokenize_eq_ok_iff.mp accepted')

/-- The listing of a text that looks like the row after it. -/
theorem eq_of_toListing_eq_row :
    ∃ tokens, tokenize "<a>\nTOKEN_4:TagOpen:<a>" = .ok tokens ∧
      tokenize "<a>\nTOKEN_4:TagOpen:<a>" .reject = .ok tokens ∧
      toListing tokens =
        "TOKENS_COUNT:7\nTOKEN_0:TagOpen:<\nTOKEN_1:Identifier:a\nTOKEN_2:TagClose:>\n" ++
          "TOKEN_3:Text:\nTOKEN_4:TagOpen:\nTOKEN_4:TagOpen:<\n" ++
          "TOKEN_5:Identifier:a\nTOKEN_6:TagClose:>\n" ∧
      tokens.map Token.content = tokens.map Token.content ∧
      "<a>\nTOKEN_4:TagOpen:<a>" = "<a>\nTOKEN_4:TagOpen:<a>" := by
  let tokens : List Token :=
    [⟨.tagOpen, "<", ⟨0, 1⟩⟩, ⟨.identifier, "a", ⟨1, 2⟩⟩, ⟨.tagClose, ">", ⟨2, 3⟩⟩,
      ⟨.text, "\nTOKEN_4:TagOpen:", ⟨3, 20⟩⟩, ⟨.tagOpen, "<", ⟨20, 21⟩⟩,
      ⟨.identifier, "a", ⟨21, 22⟩⟩, ⟨.tagClose, ">", ⟨22, 23⟩⟩]
  have accepted : tokenize "<a>\nTOKEN_4:TagOpen:<a>" = .ok tokens :=
    tokenize_eq_ok_iff.mpr (by decide)
  have strictly : tokenize "<a>\nTOKEN_4:TagOpen:<a>" .reject = .ok tokens :=
    tokenize_eq_ok_iff.mpr (by decide)
  exact ⟨tokens, accepted, strictly, by decide +kernel, eq_of_toListing_eq accepted strictly rfl⟩

/-- Where a text follows a text, a row in one of them may be a row of the other. -/
example :
    toListing [⟨.text, "a\nTOKEN_1:Text:b", {}⟩, ⟨.text, "c", {}⟩] =
      toListing [⟨.text, "a", {}⟩, ⟨.text, "b\nTOKEN_1:Text:c", {}⟩] := by
  decide

end MarkupLexer
