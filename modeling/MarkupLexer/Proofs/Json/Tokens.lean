import MarkupLexer.Json.Tokens
import MarkupLexer.Proofs.Json.Strings
import MarkupLexer.Proofs.Printing

/-!
# Token lists read back

A token list that is written as JSON is read back with its kinds and values, without its spans. The
members of an object are read one by one and the objects of the list likewise, so each level needs
what the level below it reads and nothing else of it.
-/

namespace MarkupLexer

/-- A token without its place. -/
def Token.unplaced (t : Token) : Token := { t with span := {} }

theorem toSource_map_unplaced (tokens : List Token) :
    toSource (tokens.map Token.unplaced) = toSource tokens := by
  have contents : (tokens.map Token.unplaced).map Token.content = tokens.map Token.content := by
    rw [List.map_map]
    rfl
  rw [toSource_eq_join, contents, ← toSource_eq_join]

namespace Json

/-! ### Members -/

/-- A member of an object as it is written. -/
def memberText (key value : String) : List Char :=
  ['\n', ' ', ' ', ' ', ' '] ++ ((encode key).toList ++ ':' :: ' ' :: (encode value).toList)

theorem readString_memberText (key value : String) (rest : List Char) :
    readString (memberText key value ++ rest) =
      some (key, ':' :: ' ' :: ((encode value).toList ++ rest)) := by
  rw [memberText, List.append_assoc, List.append_assoc]
  exact readString_append rfl key _

theorem readSign_colon (rest : List Char) : readSign ':' (':' :: rest) = some rest := rfl

theorem readString_value (value : String) (rest : List Char) :
    readString (' ' :: ((encode value).toList ++ rest)) = some (value, rest) := by
  rw [← List.singleton_append]
  exact readString_append rfl value rest

theorem readKind_value (k : Kind) (rest : List Char) :
    readKind (' ' :: ((encode k.name).toList ++ rest)) = some (k, rest) := by
  have name : readSign '\x7b' (' ' :: ((encode k.name).toList ++ rest)) = none := by
    rw [← List.singleton_append]
    exact readSign_append rfl (by decide) k.name rest
  simp [readKind, name, readString_value, Kind.ofName?_name]

theorem readField_kind (k : Kind) (rest : List Char) :
    readField (memberText "type" k.name ++ rest) = some (.kind k, rest) := by
  simp [readField, readString_memberText, readSign_colon, readKind_value]

theorem readField_value (value : String) (rest : List Char) :
    readField (memberText "value" value ++ rest) = some (.value value, rest) := by
  simp [readField, readString_memberText, readSign_colon, readString_value]

/-! ### Objects -/

/-- What ends an object, on a line of its own. -/
def objectEnd : List Char := ['\n', ' ', ' ', '\x7d']

/-- A token as it is written on lines of its own. -/
def tokenText (t : Token) : List Char :=
  ['\n', ' ', ' ', '\x7b'] ++
    (memberText "type" t.kind.name ++ ',' :: (memberText "value" t.value ++ objectEnd))

theorem toList_tokenObject (t : Token) : '\n' :: (tokenObject t).toList = tokenText t := by
  -- The keys are written out, and the kind and the value stay encoded.
  have type : encode "type" = "\"type\"" := by decide
  have value : encode "value" = "\"value\"" := by decide
  unfold tokenObject tokenText memberText objectEnd
  rewrite [type, value]
  simp

theorem readSeparated_members (k : Kind) (value : String) (rest : List Char) :
    readSeparated readField '\x7d'
        (memberText "type" k.name ++ ',' :: (memberText "value" value ++ (objectEnd ++ rest))) =
      some ([.kind k, .value value], rest) := by
  have filled : readSign '\x7d'
      (memberText "type" k.name ++ ',' :: (memberText "value" value ++ (objectEnd ++ rest))) =
        none := by
    rw [memberText, List.append_assoc, List.append_assoc]
    exact readSign_append rfl (by decide) "type" _
  have last : readItems readField '\x7d' (memberText "value" value ++ (objectEnd ++ rest)) =
      some ([.value value], rest) :=
    readItems_last (by simp [memberText]) (by decide) rfl (readField_value value _)
  rw [readSeparated, filled]
  change readItems _ _ _ = _
  rw [readItems_cons (by simp [memberText]) (readField_kind k _), last]
  rfl

theorem readToken_tokenText (t : Token) (rest : List Char) :
    readToken (tokenText t ++ rest) = some (t.unplaced, rest) := by
  have opened : readSign '\x7b' (tokenText t ++ rest) =
      some (memberText "type" t.kind.name ++ ',' ::
        (memberText "value" t.value ++ (objectEnd ++ rest))) := by
    simp only [tokenText, List.append_assoc, List.cons_append]
    rfl
  simp only [readToken, opened, readSeparated_members]
  rfl

/-! ### Lists -/

/-- More tokens after the first, each after a comma. -/
def moreText (tokens : List Token) : List Char := tokens.flatMap fun t => ',' :: tokenText t

/-- What ends a list that is not empty. -/
def listEnd : List Char := ['\n', ']']

theorem readItems_tokens (t : Token) (ts : List Token) (rest : List Char) :
    readItems readToken ']' (tokenText t ++ (moreText ts ++ (listEnd ++ rest))) =
      some ((t :: ts).map Token.unplaced, rest) := by
  induction ts generalizing t with
  | nil =>
    exact readItems_last (by simp [tokenText]) (by decide) rfl (readToken_tokenText t _)
  | cons u us ih =>
    have more : moreText (u :: us) ++ (listEnd ++ rest) =
        ',' :: (tokenText u ++ (moreText us ++ (listEnd ++ rest))) := by
      simp [moreText]
    rw [more, readItems_cons (by simp [tokenText]) (readToken_tokenText t _), ih u]
    rfl

theorem toList_objects (t : Token) (ts : List Token) :
    '\n' :: (String.intercalate ",\n" ((t :: ts).map tokenObject)).toList =
      tokenText t ++ moreText ts := by
  induction ts generalizing t with
  | nil => simp [moreText, ← toList_tokenObject]
  | cons u us ih =>
    have more : moreText (u :: us) = ',' :: (tokenText u ++ moreText us) := rfl
    rw [List.map_cons, List.map_cons, String.intercalate_cons_cons, ← List.map_cons, more, ← ih u,
      ← toList_tokenObject]
    simp only [String.toList_append, List.cons_append, List.append_assoc]
    rfl

theorem toList_ofTokens (t : Token) (ts : List Token) :
    (ofTokens (t :: ts)).toList = '[' :: (tokenText t ++ (moreText ts ++ listEnd)) := by
  have written := toList_objects t ts
  simp only [ofTokens, List.isEmpty_cons, Bool.false_eq_true, if_false, String.toList_append]
  rw [← List.append_assoc, ← written]
  rfl

/-- A token list that is written as JSON is read back without its spans. -/
theorem readTokens?_eq_unplaced (tokens : List Token) :
    readTokens? (ofTokens tokens) = some (tokens.map Token.unplaced) := by
  cases tokens with
  | nil => rfl
  | cons t ts =>
    have read := readItems_tokens t ts []
    rw [List.append_nil] at read
    have listed : readSeparated readToken ']' (tokenText t ++ (moreText ts ++ listEnd)) =
        some ((t :: ts).map Token.unplaced, []) := by
      rw [← read]
      rfl
    have opened : readSign '[' (ofTokens (t :: ts)).toList =
        some (tokenText t ++ (moreText ts ++ listEnd)) := by
      rw [toList_ofTokens]
      rfl
    rw [readTokens?, opened, Option.bind_eq_bind, Option.bind_some, listed]
    rfl

/-- A token list that is written as JSON is read back with the same kinds and values in the same
    order and empty spans; if it is that of an accepted input, what is read prints as that input. -/
theorem readTokens?_ofTokens :
    (∀ tokens, readTokens? (ofTokens tokens) = some (tokens.map fun t => { t with span := {} })) ∧
      ∀ source trailing tokens, tokenize source trailing = .ok tokens →
        ∃ back, readTokens? (ofTokens tokens) = some back ∧ toSource back = source := by
  refine ⟨readTokens?_eq_unplaced, fun source trailing tokens accepted => ?_⟩
  refine ⟨_, readTokens?_eq_unplaced tokens, ?_⟩
  rw [toSource_map_unplaced]
  exact toSource_of_scan (tokenize_eq_ok_iff.mp accepted)

/-- A text of a quote, a backslash, two control characters, one of them with a short escape, and a
    character of two bytes. -/
theorem readTokens?_ofTokens_escapes :
    ∃ tokens, tokenize "<a>\"\\\x01\né" = .ok tokens ∧
      tokens.getLast? = some ⟨.text, "\"\\\x01\né", ⟨3, 9⟩⟩ ∧
      readTokens? (ofTokens tokens) = some (tokens.map fun t => { t with span := {} }) ∧
      ∃ back, readTokens? (ofTokens tokens) = some back ∧
        toSource back = "<a>\"\\\x01\né" := by
  have accepted : tokenize "<a>\"\\\x01\né" =
      .ok [⟨.tagOpen, "<", ⟨0, 1⟩⟩, ⟨.identifier, "a", ⟨1, 2⟩⟩, ⟨.tagClose, ">", ⟨2, 3⟩⟩,
        ⟨.text, "\"\\\x01\né", ⟨3, 9⟩⟩] :=
    tokenize_eq_ok_iff.mpr (by decide)
  exact ⟨_, accepted, rfl, readTokens?_ofTokens.1 _, readTokens?_ofTokens.2 _ _ _ accepted⟩

end Json

end MarkupLexer
