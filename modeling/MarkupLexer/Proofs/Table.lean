import MarkupLexer.Render
import MarkupLexer.Proofs.Text.Quoted

/-!
# Tables read back

A table has one line for each token, whatever the tokens hold, since values are quoted. A row is
taken apart from the left: its fields may be overfull, but none holds the sign that follows it. So
there is one token list for a table at most.
-/

namespace MarkupLexer

section Rows

variable (hidden : Char → Bool)

theorem toList_tableRowWith (index : Nat) (t : Token) :
    (tableRowWith hidden index t).toList =
      (Text.padLeft 4 (toString index)).toList ++ ' ' :: ' ' ::
        ((Text.padRight 26 t.kind.name).toList ++ ' ' ::
          ((Text.padLeft 5 (toString t.span.start)).toList ++ '.' :: '.' ::
            ((Text.padRight 5 (toString t.span.stop)).toList ++ ' ' ::
              ((Text.quotedWith hidden t.value).toList ++ ['\n'])))) := by
  simp [tableRowWith]

theorem not_mem_padLeft_nat {c : Char} (digit : c.isDigit = false) (blank : c ≠ ' ')
    (width n : Nat) : c ∉ (Text.padLeft width (toString n)).toList := by
  rw [Text.toList_padLeft, List.mem_append, not_or]
  exact ⟨not_mem_blanks blank _, not_mem_toString_nat digit n⟩

/-- A row of a table is one line. -/
theorem isRow_tableRowWith (index : Nat) (t : Token) : IsRow (tableRowWith hidden index t) := by
  have line := toList_tableRowWith hidden index t
  simp only [← List.cons_append, ← List.append_assoc] at line
  refine ⟨_, ?_, line⟩
  have number (width n : Nat) : '\n' ∉ (Text.padLeft width (toString n)).toList :=
    not_mem_padLeft_nat rfl (by decide) width n
  have kind : '\n' ∉ t.kind.name.toList := t.kind.not_mem_name rfl
  have stop : '\n' ∉ (toString t.span.stop).toList := not_mem_toString_nat rfl _
  have blanks (n : Nat) : '\n' ∉ List.replicate n ' ' := not_mem_blanks (by decide) n
  have value := Text.not_mem_quotedWith hidden t.value
  simp only [Text.toList_padRight, List.mem_append, List.mem_cons, number, kind, stop, blanks,
    value, Char.reduceEq, or_self, not_false_eq_true]

/-- A token is known from its row, given that of two rows the indices are the same. -/
theorem tableRowWith_inj {index : Nat} {t u : Token}
    (same : (tableRowWith hidden index t).toList = (tableRowWith hidden index u).toList) :
    t = u := by
  obtain ⟨kind, value, start, stop⟩ := t
  obtain ⟨kind', value', start', stop'⟩ := u
  rw [toList_tableRowWith, toList_tableRowWith] at same
  have afterIndex := (List.cons.inj (List.cons.inj (List.append_cancel_left same)).2).2
  obtain ⟨names, afterKind⟩ := Text.padRight_append_inj (kind.not_mem_name rfl)
    (kind'.not_mem_name rfl) afterIndex
  obtain ⟨starts, afterStart⟩ := append_cons_inj
    (not_mem_padLeft_nat (c := '.') rfl (by decide) 5 start)
    (not_mem_padLeft_nat (c := '.') rfl (by decide) 5 start') afterKind
  obtain ⟨stops, afterStop⟩ := Text.padRight_append_inj (not_mem_toString_nat rfl stop)
    (not_mem_toString_nat rfl stop') (List.cons.inj afterStart).2
  obtain ⟨rfl, -⟩ := Text.quotedWith_append_inj hidden afterStop
  obtain rfl : kind = kind' := Kind.name_inj names
  obtain rfl : start = start' := Text.padLeft_nat_inj starts
  obtain rfl : stop = stop' := toString_nat_inj (congrArg String.toList stops)
  rfl

/-- Token lists that have the same rows are the same. -/
theorem eq_of_map_tableRowWith_eq {ts us : List Token} (index : Nat)
    (same : (ts.zipIdx index).map (fun (t, i) => (tableRowWith hidden i t).toList) =
      (us.zipIdx index).map fun (t, i) => (tableRowWith hidden i t).toList) : ts = us := by
  induction ts generalizing us index with
  | nil => cases us with
    | nil => rfl
    | cons => contradiction
  | cons t ts ih =>
    cases us with
    | nil => contradiction
    | cons u us =>
      rw [List.zipIdx_cons, List.zipIdx_cons, List.map_cons, List.map_cons] at same
      obtain ⟨first, others⟩ := List.cons.inj same
      rw [tableRowWith_inj hidden first, ih (index + 1) others]

end Rows

theorem splitLines_toTableWith (hidden : Char → Bool) (ts : List Token) :
    splitLines (toTableWith hidden ts).toList =
      ts.zipIdx.map fun (t, i) => (tableRowWith hidden i t).toList := by
  rw [toTableWith, splitLines_join_of_rows, List.map_map]
  · rfl
  · intro row member
    obtain ⟨⟨t, i⟩, -, rfl⟩ := List.mem_map.mp member
    exact isRow_tableRowWith hidden i t

/-- Token lists with the same table are the same. -/
theorem toTableWith_inj {hidden : Char → Bool} {ts us : List Token}
    (same : toTableWith hidden ts = toTableWith hidden us) : ts = us := by
  refine eq_of_map_tableRowWith_eq hidden 0 ?_
  rw [← splitLines_toTableWith, ← splitLines_toTableWith, same]

/-- The lines of a table are the rows of the tokens in their order, each of them one line with its
    line feed, and no other token list has the same table. So it is with the characters that do not
    show in a printed table, and whichever others do not. -/
theorem table_has_row_of_each_token (hidden : Char → Bool) (ts us : List Token) :
    splitLines (toTableWith hidden ts).toList =
        (ts.zipIdx.map fun (t, i) => (tableRowWith hidden i t).toList) ∧
      (∀ i t, IsRow (tableRowWith hidden i t)) ∧
      (toTableWith hidden ts = toTableWith hidden us ↔ ts = us) ∧
      splitLines (toTable ts).toList =
        (ts.zipIdx.map fun (t, i) => (tableRowWith Text.unprintable i t).toList) ∧
      (toTable ts = toTable us ↔ ts = us) :=
  ⟨splitLines_toTableWith hidden ts, isRow_tableRowWith hidden,
    ⟨toTableWith_inj, congrArg (toTableWith hidden)⟩,
    splitLines_toTableWith Text.unprintable ts, ⟨toTableWith_inj, congrArg toTable⟩⟩

/-- A value with a line feed and what looks like a row, and an offset wider than its field. -/
example : toTableWith (fun _ => false) [⟨.text, "\n   1", ⟨3, 123456⟩⟩] =
    "   0  Text                           3..123456 \"\\n   1\"\n" := by
  decide

end MarkupLexer
