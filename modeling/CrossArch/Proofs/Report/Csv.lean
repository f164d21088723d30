import CrossArch.Proofs.Text.Line
import CrossArch.Report.Csv
import Mathlib.Tactic.Common

/-!
# Reading CSV reports

A reader of CSV goes through a text character by character. It keeps the records that have ended,
the fields of the current record and the current field. A comma ends a field and a newline ends a
record, unless they stand in a quoted field; a field is quoted if it starts with a quote.

What a field is written as leaves the reader at the end of that field, with its text. So the reader
gets back every row that was written, whatever characters its fields hold, and two lists of findings
with the same CSV text are the same list.
-/

namespace CrossArch

namespace Csv

/-- How far a field has been read. Its characters are kept last first. -/
inductive FieldState where
  | start
  | plain (reversed : List Char)
  /-- Inside the quotes of a field. -/
  | quoted (reversed : List Char)
  /-- Behind a quote in a quoted field, which ends the field unless a second quote follows. -/
  | behindQuote (reversed : List Char)
  deriving DecidableEq, Repr

namespace FieldState

/-- The text of a field that may end here. -/
def text? : FieldState → Option (List Char)
  | start => some []
  | plain reversed => some reversed.reverse
  | quoted _ => none
  | behindQuote reversed => some reversed.reverse

/-- Read one more character of a field; nothing but a second quote goes on behind a quote. -/
def extend? (state : FieldState) (c : Char) : Option FieldState :=
  match state with
  | start => some (if c = '"' then quoted [] else plain [c])
  | plain reversed => some (plain (c :: reversed))
  | quoted reversed => some (if c = '"' then behindQuote reversed else quoted (c :: reversed))
  | behindQuote reversed => if c = '"' then some (quoted (c :: reversed)) else none

end FieldState

/-- What has been read of a CSV text. -/
structure Reader where
  /-- The records that have ended. -/
  records : List (List (List Char))
  /-- The fields of the current record that have ended. -/
  fields : List (List Char)
  field : FieldState
  deriving DecidableEq, Repr

namespace Reader

/-- Read one more character of the current field. -/
def extend? (reader : Reader) (c : Char) : Option Reader :=
  (reader.field.extend? c).map fun field => { reader with field := field }

/-- Read one more character of a text. -/
def step (reader : Reader) (c : Char) : Option Reader :=
  match reader.field.text? with
  | none => reader.extend? c
  | some text =>
    if c = ',' then some ⟨reader.records, reader.fields ++ [text], .start⟩
    else if c = '\n' then some ⟨reader.records ++ [reader.fields ++ [text]], [], .start⟩
    else reader.extend? c

/-- The records of a text that has been read; its last record has to be ended by a newline. -/
def finish? (reader : Reader) : Option (List (List (List Char))) :=
  if reader.fields = [] ∧ reader.field = .start then some reader.records else none

end Reader

/-- The records of a CSV text, each as the list of its fields. -/
def read? (text : List Char) : Option (List (List (List Char))) :=
  (text.foldlM Reader.step ⟨[], [], .start⟩).bind Reader.finish?

section Fields

variable (records : List (List (List Char))) (fields : List (List Char))

/-- Characters that need no quotes are read as they are. -/
theorem foldlM_step_plain {text : List Char} (plain : text.any needsQuotes = false)
    (reversed : List Char) :
    text.foldlM Reader.step ⟨records, fields, .plain reversed⟩ =
      some ⟨records, fields, .plain (text.reverse ++ reversed)⟩ := by
  induction text generalizing reversed with
  | nil => rfl
  | cons c rest ih =>
      simp only [List.any_cons, needsQuotes, Bool.or_eq_false_iff, beq_eq_false_iff_ne] at plain
      have next : Reader.step ⟨records, fields, .plain reversed⟩ c =
          some ⟨records, fields, .plain (c :: reversed)⟩ := by
        simp [Reader.step, FieldState.text?, Reader.extend?, FieldState.extend?, plain]
      have restPlain : rest.any needsQuotes = false := plain.2
      rw [List.foldlM_cons, next, Option.bind_eq_bind, Option.bind_some, ih restPlain]
      simp

/-- Inside quotes, a doubled quote is read as one and all else as it is. -/
theorem foldlM_step_doubleQuotes (text reversed : List Char) :
    (doubleQuotes text).foldlM Reader.step ⟨records, fields, .quoted reversed⟩ =
      some ⟨records, fields, .quoted (text.reverse ++ reversed)⟩ := by
  induction text generalizing reversed with
  | nil => rfl
  | cons c rest ih =>
      by_cases quote : c = '"'
      · subst quote
        simp [doubleQuotes, Reader.step, FieldState.text?, Reader.extend?, FieldState.extend?, ih]
      · simp [doubleQuotes, quote, Reader.step, FieldState.text?, Reader.extend?,
          FieldState.extend?, ih]

/-- The written form of a field is read up to where the field may end, and gives its text. -/
theorem exists_foldlM_step_field (text : List Char) :
    ∃ state, (field text).foldlM Reader.step ⟨records, fields, .start⟩ =
      some ⟨records, fields, state⟩ ∧ state.text? = some text := by
  unfold field
  split
  · refine ⟨.behindQuote text.reverse, ?_, by simp [FieldState.text?]⟩
    have opening : Reader.step ⟨records, fields, .start⟩ '"' =
        some ⟨records, fields, .quoted []⟩ := rfl
    have closing : Reader.step ⟨records, fields, .quoted text.reverse⟩ '"' =
        some ⟨records, fields, .behindQuote text.reverse⟩ := rfl
    simp [opening, foldlM_step_doubleQuotes, closing]
  · rename_i notQuoted
    rw [Bool.not_eq_true] at notQuoted
    cases text with
    | nil => exact ⟨.start, rfl, rfl⟩
    | cons c rest =>
        refine ⟨.plain (rest.reverse ++ [c]), ?_, by simp [FieldState.text?]⟩
        simp only [List.any_cons, needsQuotes, Bool.or_eq_false_iff, beq_eq_false_iff_ne]
          at notQuoted
        have first : Reader.step ⟨records, fields, .start⟩ c =
            some ⟨records, fields, .plain [c]⟩ := by
          simp [Reader.step, FieldState.text?, Reader.extend?, FieldState.extend?, notQuoted]
        have restPlain : rest.any needsQuotes = false := notQuoted.2
        rw [List.foldlM_cons, first, Option.bind_eq_bind, Option.bind_some,
          foldlM_step_plain records fields restPlain]

theorem foldlM_step_field_comma (text : List Char) :
    (field text ++ [',']).foldlM Reader.step ⟨records, fields, .start⟩ =
      some ⟨records, fields ++ [text], .start⟩ := by
  rcases exists_foldlM_step_field records fields text with ⟨state, read, ends⟩
  simp [List.foldlM_append, read, Reader.step, ends]

theorem foldlM_step_field_newline (text : List Char) :
    (field text ++ ['\n']).foldlM Reader.step ⟨records, fields, .start⟩ =
      some ⟨records ++ [fields ++ [text]], [], .start⟩ := by
  rcases exists_foldlM_step_field records fields text with ⟨state, read, ends⟩
  simp [List.foldlM_append, read, Reader.step, ends]

end Fields

section Rows

/-- A row is read back as one record with its fields. -/
theorem foldlM_step_row (records : List (List (List Char))) (fields : List (List Char))
    (first : List Char) (later : List (List Char)) :
    (row (first :: later)).foldlM Reader.step ⟨records, fields, .start⟩ =
      some ⟨records ++ [fields ++ first :: later], [], .start⟩ := by
  induction later generalizing first fields with
  | nil => exact foldlM_step_field_newline records fields first
  | cons second later ih =>
      have split : row (first :: second :: later) =
          (field first ++ [',']) ++ row (second :: later) := by
        simp [row, commaSeparated]
      rw [split, List.foldlM_append, foldlM_step_field_comma, Option.bind_eq_bind,
        Option.bind_some, ih]
      simp

theorem foldlM_step_rows (records rows : List (List (List Char)))
    (nonempty : ∀ fields ∈ rows, fields ≠ []) :
    (rows.flatMap row).foldlM Reader.step ⟨records, [], .start⟩ =
      some ⟨records ++ rows, [], .start⟩ := by
  induction rows generalizing records with
  | nil => simp
  | cons fields rows ih =>
      rcases List.exists_cons_of_ne_nil (nonempty fields List.mem_cons_self) with
        ⟨first, later, rfl⟩
      rw [List.flatMap_cons, List.foldlM_append, foldlM_step_row, Option.bind_eq_bind,
        Option.bind_some, ih _ fun other mem => nonempty other (List.mem_cons_of_mem _ mem)]
      simp

/-- Rows that have fields are read back as they were written. -/
theorem read?_rows {rows : List (List (List Char))} (nonempty : ∀ fields ∈ rows, fields ≠ []) :
    read? (rows.flatMap row) = some rows := by
  simp [read?, foldlM_step_rows [] rows nonempty, Reader.finish?]

end Rows

end Csv

section Written

theorem FileCategory.name_injective : Function.Injective FileCategory.name := by
  intro category other same
  cases category <;> cases other <;> simp_all [FileCategory.name]

namespace LineRange

theorem toList_render (range : LineRange) :
    range.render.toList =
      '(' :: (range.first.repr.toList ++ ',' :: (range.last.repr.toList ++ [')'])) := by
  have opening : (toString "(").toList = ['('] := rfl
  have comma : (toString ",").toList = [','] := rfl
  have closing : (toString ")").toList = [')'] := rfl
  simp [render, opening, comma, closing]

theorem comma_not_mem_repr (n : Nat) : ',' ∉ n.repr.toList := by
  intro mem
  rw [Nat.toList_repr] at mem
  exact absurd (Nat.isDigit_of_mem_toDigits (by decide) (by decide) mem) (by decide)

theorem repr_toList_injective : Function.Injective fun n : Nat => n.repr.toList := by
  apply Function.LeftInverse.injective (g := fun digits => Nat.ofDigitChars 10 digits 0)
  intro n
  simp only [Nat.toList_repr]
  exact Nat.ofDigitChars_toDigits (by decide) (by decide)

/-- The written form of a span says where the span starts and where it ends. -/
theorem render_injective : Function.Injective render := by
  intro range other same
  have pieces : ∀ span : LineRange, Text.splitAt ',' span.render.toList.tail =
      [span.first.repr.toList, span.last.repr.toList ++ [')']] := by
    intro span
    have first := Text.splitAt_of_not_mem (comma_not_mem_repr span.first)
    have last : ',' ∉ span.last.repr.toList ++ [')'] := by
      simpa using comma_not_mem_repr span.last
    rw [toList_render, List.tail_cons, Text.splitAt_append, first, Text.splitAt_of_not_mem last]
    rfl
  have samePieces := pieces range
  rw [same, pieces other] at samePieces
  simp only [List.cons.injEq, List.append_cancel_right_eq, and_true] at samePieces
  rcases range with ⟨first, last⟩
  rcases other with ⟨otherFirst, otherLast⟩
  rw [mk.injEq]
  exact ⟨repr_toList_injective samePieces.1.symm, repr_toList_injective samePieces.2.symm⟩

end LineRange

/-- The fields of a row determine the finding. -/
theorem Csv.fieldsOf_injective : Function.Injective fieldsOf := by
  rintro ⟨file, range, key, suggestion, category⟩ ⟨file', range', key', suggestion', category'⟩ same
  simp only [fieldsOf, List.cons.injEq, String.toList_inj, and_true] at same
  rcases same with ⟨rfl, sameRange, rfl, rfl, sameName⟩
  obtain rfl := FileCategory.name_injective sameName
  have written : ∀ span : LineRange, span.render ≠ "" := by
    intro span empty
    have nothing := congrArg String.toList empty
    rw [LineRange.toList_render] at nothing
    simp at nothing
  have rangeEq : range = range' := by
    cases range with
    | none =>
        cases range' with
        | none => rfl
        | some span => exact absurd sameRange.symm (written span)
    | some span =>
        cases range' with
        | none => exact absurd sameRange (written span)
        | some span' => rw [LineRange.render_injective sameRange]
  rw [rangeEq]

end Written

/--
Reading the CSV text of findings gives the names of the columns and then one record for each
finding, in order, with its file, its lines as they are written, its key, its suggestion and its
category. So no two lists of findings have the same CSV text.
-/
theorem Csv.lossless_ofFindings :
    (∀ findings : List Finding,
      read? (ofFindings findings) =
        some (["file", "range", "key", "suggestion", "category"].map String.toList ::
          findings.map fun finding =>
            [finding.file, finding.range.elim "" LineRange.render, finding.key,
              finding.suggestion, finding.category.name].map String.toList)) ∧
      Function.Injective ofFindings := by
  have written : ∀ findings : List Finding,
      ofFindings findings = (columns :: findings.map fieldsOf).flatMap row := by
    intro findings
    rw [ofFindings, List.flatMap_cons, List.flatMap_map]
  have read : ∀ findings : List Finding,
      read? (ofFindings findings) = some (columns :: findings.map fieldsOf) := by
    intro findings
    rw [written]
    apply read?_rows
    intro fields mem
    rcases List.mem_cons.1 mem with rfl | mem
    · decide
    · rcases List.mem_map.1 mem with ⟨finding, -, rfl⟩
      simp [fieldsOf]
  refine ⟨?_, ?_⟩
  · intro findings
    rw [read]
    congr 2
    apply List.map_congr_left
    rintro ⟨file, range, key, suggestion, category⟩ -
    cases range <;> rfl
  · intro findings others same
    have sameRecords := read findings
    rw [same, read others, Option.some.injEq, List.cons.injEq] at sameRecords
    exact (List.map_injective_iff.2 fieldsOf_injective sameRecords.2).symm

end CrossArch
