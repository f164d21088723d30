import CrossArch.Text.Front
import CrossArch.Unicode.Blank

/-!
# Comments

Comments are removed so that lines keep their numbers: every newline survives, those inside a
removed block comment included. A line comment opens only at the start of the text or after a blank,
so a marker inside a literal such as `"//"` stays. Where removing a block would bring two pieces of
a marker together, a space takes its place.

Removal is a loop over a cursor. `step` is one turn of the loop, and the loop ends because a turn
that reads nothing changes between the two modes, which cannot happen twice in a row.
-/

namespace CrossArch.Comment

/-- The markers around a block comment. At most one of them is empty. -/
structure BlockMarkers where
  opening : List Char
  closing : List Char
  notBothEmpty : opening ≠ [] ∨ closing ≠ []

/-- The comment markers of a language. An empty line marker never opens a comment. -/
structure Style where
  lineMarker : List Char
  block : Option BlockMarkers
  startsInLine : lineMarker.head? ≠ some '\n'

/-- Line comments after `//`, block comments between `/*` and `*/`. -/
def cStyle : Style where
  lineMarker := ['/', '/']
  block := some ⟨['/', '*'], ['*', '/'], by decide⟩
  startsInLine := by decide

/-- Line comments after `#`. -/
def makeStyle : Style where
  lineMarker := ['#']
  block := none
  startsInLine := by decide

/-- Where the loop stands. -/
structure Cursor where
  /-- Whether the place is inside a block comment. -/
  inBlock : Bool
  /-- The last character that was kept. -/
  last : Option Char
  /-- What is still to be read. -/
  rest : List Char

/-- Whether the last kept character and the rest would together start with a marker. -/
def fusesMarker (last : Option Char) (rest marker : List Char) : Bool :=
  match last, marker with
  | some c, m :: m' :: more => m == c && Text.startsWith rest (m' :: more)
  | _, _ => false

/-- Whether a line marker at the start of `rest` opens a comment; `!` does not when `=` follows. -/
def opensLineComment (marker : List Char) (last : Option Char) (rest : List Char) : Bool :=
  marker != [] && Text.startsWith rest marker && last.all Unicode.isBlank &&
    !(marker == ['!'] && rest.tail.head? == some '=')

/-- A turn inside a block comment: read the closing marker, or drop one character unless it is a
newline. -/
def insideBlock (style : Style) (last : Option Char) (c : Char) (rest : List Char) :
    List Char × Cursor :=
  match style.block.bind fun markers => Text.after? markers.closing (c :: rest) with
  | some after =>
    if (style.block.any fun markers => fusesMarker last after markers.opening) ||
        fusesMarker last after style.lineMarker then
      ([' '], ⟨false, some ' ', after⟩)
    else ([], ⟨false, last, after⟩)
  | none =>
    if c = '\n' then (['\n'], ⟨true, some '\n', rest⟩) else ([], ⟨true, last, rest⟩)

/-- A turn outside block comments: read an opening marker, drop a line comment, or keep one
character. -/
def outsideBlock (style : Style) (last : Option Char) (c : Char) (rest : List Char) :
    List Char × Cursor :=
  match style.block.bind fun markers => Text.after? markers.opening (c :: rest) with
  | some after => ([], ⟨true, last, after⟩)
  | none =>
    if opensLineComment style.lineMarker last (c :: rest) then
      ([], ⟨false, last, (c :: rest).dropWhile (· != '\n')⟩)
    else ([c], ⟨false, some c, rest⟩)

/-- One turn at the text `c :: rest`: the characters kept by it, and where the loop stands then. -/
def step (style : Style) (inBlock : Bool) (last : Option Char) (c : Char) (rest : List Char) :
    List Char × Cursor :=
  if inBlock then insideBlock style last c rest else outsideBlock style last c rest

/-- Whether the opening marker is empty, so that a block comment opens without being read. -/
def Style.opensSilently (style : Style) : Bool :=
  style.block.any fun markers => markers.opening.isEmpty

/-- What the loop still has to do; a turn that reads nothing may only enter the cheaper mode. -/
def Style.measure (style : Style) (inBlock : Bool) (rest : List Char) : Nat :=
  2 * rest.length + if inBlock = style.opensSilently then 0 else 1

theorem measure_lt_of_shorter (style : Style) {inBlock inBlock' : Bool} {rest rest' : List Char}
    (shorter : rest'.length < rest.length) :
    style.measure inBlock' rest' < style.measure inBlock rest := by
  simp only [Style.measure]
  split <;> split <;> omega

/-- A line comment reads at least one character. -/
theorem length_dropLineComment_lt (style : Style) (last : Option Char) (c : Char) (rest : List Char)
    (opens : opensLineComment style.lineMarker last (c :: rest) = true) :
    ((c :: rest).dropWhile (· != '\n')).length < (c :: rest).length := by
  have startsInLine := style.startsInLine
  have notNewline : c ≠ '\n' := by
    rintro rfl
    cases marker : style.lineMarker with
    | nil => simp [opensLineComment, marker] at opens
    | cons m more =>
      simp only [marker, List.head?_cons, ne_eq, Option.some.injEq] at startsInLine
      simp [opensLineComment, marker, Text.startsWith, Text.after?, startsInLine] at opens
  have shorter := (List.dropWhile_suffix (l := rest) (· != '\n')).length_le
  simp only [List.dropWhile_cons, bne_iff_ne, ne_eq, notNewline, not_false_eq_true, ↓reduceIte,
    List.length_cons]
  omega

theorem measure_insideBlock (style : Style) (last : Option Char) (c : Char) (rest : List Char) :
    style.measure (insideBlock style last c rest).2.inBlock (insideBlock style last c rest).2.rest <
      style.measure true (c :: rest) := by
  unfold insideBlock
  split
  · rename_i after found
    obtain ⟨markers, block, closed⟩ := Option.bind_eq_some_iff.1 found
    have size := Text.length_of_after? closed
    have decrease : style.measure false after < style.measure true (c :: rest) := by
      by_cases silent : markers.closing = []
      · have := markers.notBothEmpty
        simp_all [Style.measure, Style.opensSilently]
      · have := List.length_pos_iff.2 silent
        exact measure_lt_of_shorter style (by omega)
    split <;> exact decrease
  · split <;> exact measure_lt_of_shorter style (by simp)

theorem measure_outsideBlock (style : Style) (last : Option Char) (c : Char) (rest : List Char) :
    style.measure (outsideBlock style last c rest).2.inBlock
        (outsideBlock style last c rest).2.rest <
      style.measure false (c :: rest) := by
  unfold outsideBlock
  split
  · rename_i after found
    obtain ⟨markers, block, opened⟩ := Option.bind_eq_some_iff.1 found
    have size := Text.length_of_after? opened
    by_cases silent : markers.opening = []
    · simp_all [Style.measure, Style.opensSilently]
    · have := List.length_pos_iff.2 silent
      exact measure_lt_of_shorter style (by simp only; omega)
  · split
    · rename_i opens
      exact measure_lt_of_shorter style (length_dropLineComment_lt style last c rest opens)
    · exact measure_lt_of_shorter style (by simp)

/-- Every turn makes progress in the measure. -/
theorem measure_step (style : Style) (inBlock : Bool) (last : Option Char) (c : Char)
    (rest : List Char) :
    style.measure (step style inBlock last c rest).2.inBlock
        (step style inBlock last c rest).2.rest <
      style.measure inBlock (c :: rest) := by
  cases inBlock with
  | true => exact measure_insideBlock style last c rest
  | false => exact measure_outsideBlock style last c rest

/-- The text that remains when the loop runs from a cursor to the end. -/
def stripFrom (style : Style) (inBlock : Bool) (last : Option Char) :
    List Char → List Char
  | [] => []
  | c :: rest =>
    let turn := step style inBlock last c rest
    turn.1 ++ stripFrom style turn.2.inBlock turn.2.last turn.2.rest
  termination_by text => style.measure inBlock text
  decreasing_by exact measure_step style inBlock last c rest

/-- Remove the comments of a text. -/
def strip (style : Style) (text : List Char) : List Char :=
  stripFrom style false none text

end CrossArch.Comment
