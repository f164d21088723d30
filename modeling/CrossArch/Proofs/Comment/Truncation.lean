import CrossArch.Proofs.Comment.LineMarker
import Mathlib.Data.List.Induction

/-!
# Line comments by cutting lines

Without block comments, stripping is what one would do by hand: look at each line by itself, find
the first place where its comment opens, and keep what stands before that place. Whether a comment
opens at a place is judged on the line as it is written, while the loop looks at the character that
it kept last. The two agree because on a line the loop keeps every character up to the place where
it stops.
-/

namespace CrossArch.Comment

/--
Whether a line comment opens at a place of a line: the marker stands there, at the start of the line
or behind a blank. The marker `!` does not count when `=` follows.
-/
def opensAt (marker text : List Char) (place : Nat) : Bool :=
  marker.isPrefixOf (text.drop place) &&
    (place == 0 || text[place - 1]?.any Unicode.isBlank) &&
    !(marker == ['!'] && text[place + 1]? == some '=')

/-- The part of a line before its comment, or the whole line if it has none. -/
def truncate (marker line : List Char) : List Char :=
  line.take (((List.range line.length).find? (opensAt marker line)).getD line.length)

theorem prefix_truncate (marker line : List Char) : truncate marker line <+: line :=
  List.take_prefix _ _

theorem isPrefixOf_eq_startsWith (marker text : List Char) :
    marker.isPrefixOf text = Text.startsWith text marker := by
  rw [Bool.eq_iff_iff, List.isPrefixOf_iff_prefix, Text.startsWith, Option.isSome_iff_exists]
  constructor
  · rintro ⟨rest, rfl⟩
    exact ⟨rest, Text.after?_eq_some_iff.2 rfl⟩
  · rintro ⟨rest, found⟩
    exact ⟨rest, (Text.after?_eq_some_iff.1 found).symm⟩

/-- At the place that the loop has come to, the character kept last is the one before the place. -/
theorem opensAt_append {marker : List Char} (marked : marker ≠ []) (front back : List Char) :
    opensAt marker (front ++ back) front.length = opensLineComment marker front.getLast? back := by
  have before : (front.length == 0 || (front ++ back)[front.length - 1]?.any Unicode.isBlank) =
      front.getLast?.all Unicode.isBlank := by
    cases front using List.reverseRecOn with
    | nil => simp
    | append_singleton front c => simp
  have follows : (front ++ back)[front.length + 1]? = back.tail.head? := by
    rw [List.getElem?_append_right (by omega), Nat.add_sub_cancel_left, List.head?_tail]
  have nonempty : (marker != []) = true := by simpa using marked
  simp [opensAt, opensLineComment, before, follows, nonempty, isPrefixOf_eq_startsWith]

section Line

variable {style : Style} (lineOnly : style.LineCommentsOnly) (marked : style.lineMarker ≠ [])
include lineOnly marked

/-- From a place of a line on, the loop keeps what stands before the first comment. -/
theorem stripFrom_eq_take (front : List Char) {back : List Char} (inLine : '\n' ∉ back) :
    stripFrom style false front.getLast? back =
      back.take (((List.range back.length).find? fun place =>
        opensAt style.lineMarker (front ++ back) (front.length + place)).getD back.length) := by
  induction back generalizing front with
  | nil => simp [stripFrom]
  | cons c rest ih =>
      rw [stripFrom_cons_of_lineCommentsOnly lineOnly, List.length_cons, List.range_succ_eq_map,
        List.find?_cons, Nat.add_zero, opensAt_append marked]
      split <;> rename_i opens
      · -- The comment takes the rest of the line, so nothing is left to read.
        have dropped : (c :: rest).dropWhile (· != '\n') = [] := by
          apply List.dropWhile_eq_nil_iff.2
          intro d mem
          simpa using ne_of_mem_of_not_mem mem inLine
        simp [dropped, stripFrom, opens]
      · have next := ih (front ++ [c]) (fun mem => inLine (List.mem_cons_of_mem c mem))
        have shifted : (fun place =>
              opensAt style.lineMarker (front ++ c :: rest) (front.length + place)) ∘ Nat.succ =
            fun place =>
              opensAt style.lineMarker (front ++ [c] ++ rest) ((front ++ [c]).length + place) := by
          funext place
          simp [Nat.add_right_comm, Nat.add_assoc]
        rw [List.getLast?_append, List.getLast?_singleton, Option.some_or] at next
        rw [next, Bool.eq_false_iff.2 opens, List.find?_map, Option.getD_map, List.take_succ_cons,
          shifted]

theorem strip_of_inLine {line : List Char} (inLine : '\n' ∉ line) :
    strip style line = truncate style.lineMarker line := by
  simpa [strip, truncate] using stripFrom_eq_take lineOnly marked [] inLine

/-- The lines of a stripped text are the lines of the text, each cut where its comment opens. -/
theorem lines_strip (text : List Char) :
    Text.lines (strip style text) = (Text.lines text).map (truncate style.lineMarker) := by
  induction size : text.length using Nat.strong_induction_on generalizing text with
  | _ size' ih =>
      subst size
      have ofLine : ∀ line : List Char, '\n' ∉ line →
          Text.lines (strip style line) = (Text.lines line).map (truncate style.lineMarker) := by
        intro line inLine
        have inTruncated : '\n' ∉ truncate style.lineMarker line :=
          fun mem => inLine ((prefix_truncate _ _).subset mem)
        simp [strip_of_inLine lineOnly marked inLine, Text.lines, Text.splitAt_of_not_mem, inLine,
          inTruncated]
      by_cases newline : '\n' ∈ text
      · rcases List.eq_append_cons_of_mem newline with ⟨front, back, rfl, inLine⟩
        have shorter : back.length < (front ++ '\n' :: back).length := by
          simp only [List.length_append, List.length_cons]
          omega
        rw [strip_append_of_lineCommentsOnly lineOnly, Text.lines, Text.lines, Text.splitAt_append,
          Text.splitAt_append, List.map_append]
        exact congrArg₂ _ (ofLine front inLine) (ih _ shorter back rfl)
      · exact ofLine text newline

theorem numberedLines_strip (text : List Char) :
    Text.numberedLines (strip style text) =
      (Text.numberedLines text).map (Prod.map (truncate style.lineMarker) id) := by
  rw [Text.numberedLines, lines_strip lineOnly marked, List.zipIdx_map]
  rfl

end Line

theorem makeStyle_marked : makeStyle.lineMarker ≠ [] :=
  List.cons_ne_nil '#' []

/--
Stripping line comments cuts each line by itself. For a marker that is not empty and contains no
newline, the stripped text consists of the lines of the text, each cut at the first place where a
comment opens. Makefiles have the marker `#`.
-/
theorem strip_eq_truncated_lines (style : Style) (lineOnly : style.LineCommentsOnly)
    (marked : style.lineMarker ≠ []) (text : List Char) :
    strip style text =
        List.intercalate ['\n'] ((Text.lines text).map (truncate style.lineMarker)) ∧
      strip makeStyle text = List.intercalate ['\n'] ((Text.lines text).map (truncate ['#'])) := by
  constructor
  · rw [← lines_strip lineOnly marked, Text.intercalate_lines]
  · rw [← Text.intercalate_lines (strip makeStyle text),
      lines_strip makeStyle_lineCommentsOnly makeStyle_marked]
    rfl

/-- Line comments after `!`. -/
def bangStyle : Style where
  lineMarker := ['!']
  block := none
  startsInLine := by decide

/-- On the first line a `!` is passed over because of the `=` behind it, on the second because of
the `#` in front of it. -/
theorem strip_eq_truncated_lines_bang :
    bangStyle.LineCommentsOnly ∧ bangStyle.lineMarker ≠ [] ∧
      strip bangStyle "x != y ! z # w\n#! v".toList = "x != y \n#! v".toList ∧
      strip makeStyle "x != y ! z # w\n#! v".toList = "x != y ! z \n".toList := by
  have lineOnly : bangStyle.LineCommentsOnly := ⟨rfl, by decide⟩
  have marked : bangStyle.lineMarker ≠ [] := List.cons_ne_nil '!' []
  have cut := strip_eq_truncated_lines bangStyle lineOnly marked "x != y ! z # w\n#! v".toList
  refine ⟨lineOnly, marked, cut.1.trans ?_, cut.2.trans ?_⟩
  · decide
  · decide

end CrossArch.Comment
