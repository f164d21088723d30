import CrossArch.Proofs.Assembly.Awaiting
import CrossArch.Proofs.Assembly.OpenerWords

/-!
# Openers that are split over two lines

A keyword may end its line and have its bracket on the next one. The scanner then awaits the bracket
between the two lines. What it awaits can be seen in the text: the line ends in an opener, that is,
in a keyword with nothing but qualifiers and spaces behind it.
-/

namespace CrossArch.Assembly

/-- Whether a keyword that the scanner has read without its bracket has it on the line that
follows. -/
def Scan.splits (scan : Scan) : List (List Char × Nat) → Bool
  | [] => false
  | line :: later => scan.awaits && opensBracket line.1 || (scan.next line).splits later

/-- A keyword of inline assembly ends its line, and its bracket stands on the next line. -/
def SplitsOpener (text : List Char) : Prop :=
  Scan.splits ⟨[], none⟩ (Text.numberedLines text) = true

instance (text : List Char) : Decidable (SplitsOpener text) :=
  inferInstanceAs (Decidable (_ = true))

/-- The rest of a line where no word goes on. -/
def FreshRest (line rest : List Char) : Prop :=
  ∃ front, line = front ++ rest ∧ Unicode.touchesWord front.getLast? = false

/-- A line ends in an opener: no bracket follows its keyword on the line. -/
def EndsInOpener (line : List Char) : Prop :=
  ∃ rest opener, FreshRest line rest ∧ Opener.ofFront? rest = some opener ∧
    opensBracket opener.afterKeyword = false

/-- What the scanner knows inside a line. With no block open, no word goes on at the rest of the
line. A keyword from an earlier line is read from the start of this one; a keyword from this line
ends it, if no bracket follows. -/
def InLine (number : Nat) (line rest : List Char) : Option Pending → Prop
  | none => FreshRest line rest
  | some current =>
    rest <:+ line ∧ current.literal = .outside ∧ current.start ≤ number ∧
      (current.start < number → FreshRest line rest) ∧
      (current.start = number → opensBracket rest = false → EndsInOpener line)

/-- Between two lines, an open block was opened on an earlier line and is outside of literals. -/
def Scan.IsBefore (number : Nat) (scan : Scan) : Prop :=
  ∀ current, scan.pending = some current → current.literal = .outside ∧ current.start < number

section InLine

variable {number : Nat} {line : List Char}

theorem freshRest_self (line : List Char) : FreshRest line line :=
  ⟨[], rfl, rfl⟩

/-- An opener in the rest of a line, where no word goes on, begins where no word goes on. -/
theorem freshRest_of_find? {rest : List Char} {opener : Opener} (fresh : FreshRest line rest)
    (found : Opener.find? true rest = some opener) :
    ∃ back, FreshRest line back ∧ Opener.ofFront? back = some opener := by
  rcases fresh with ⟨front, rfl, notWord⟩
  rcases Opener.exists_front_of_find? found with ⟨between, back, rfl, opens, place⟩
  refine ⟨back, ⟨front ++ between, (List.append_assoc _ _ _).symm, ?_⟩, opens⟩
  rcases place with ⟨-, rfl⟩ | ⟨c, last, notWord'⟩
  · rwa [List.append_nil]
  · simp [List.getLast?_append, last, Unicode.touchesWord, notWord']

theorem start_ended (current : Pending) (number : Nat) (line rest : List Char) :
    ((current.noteLine number line).feed rest).1.endLine.start = current.start := by
  rw [(Pending.lines_endLine _).1, (Pending.lines_feed _ rest).1, Pending.start_noteLine]

/-- A keyword that the scanner awaits the bracket of ends the line that was read. -/
theorem endsInOpener_of_awaits (events : List Event) (pending : Option Pending) (rest : List Char)
    (inLine : InLine number line rest pending) :
    (scanLine number line events pending rest).IsBefore (number + 1) ∧
      ((scanLine number line events pending rest).awaits = true → EndsInOpener line) := by
  fun_induction scanLine number line events pending rest with
  | case1 events rest current noted after closed ih =>
      apply ih
      rcases inLine with ⟨⟨front, rfl⟩, -⟩
      rcases Pending.exists_bracket_of_feed_some closed with ⟨between, c, rfl, bracket⟩
      refine ⟨front ++ between ++ [c], by simp, ?_⟩
      rw [List.getLast?_concat]
      rcases bracket with rfl | rfl <;> decide
  | case2 events rest current noted notClosed ended givesUp ih =>
      apply ih
      rcases inLine with ⟨-, -, -, fromStart, -⟩
      rw [Bool.and_eq_true, decide_eq_true_eq, start_ended current number line rest] at givesUp
      exact fromStart givesUp.2
  | case3 events rest current noted notClosed ended goesOn =>
      rcases inLine with ⟨-, outside, le, -, ends⟩
      have start : ended.start = current.start := start_ended current number line rest
      constructor
      · rintro _ ⟨⟩
        exact ⟨Pending.literal_endLine _, by omega⟩
      · intro awaits
        have here : noted.readLine rest = (ended, none) := by
          rw [Pending.readLine, notClosed]
        have outside' : noted.literal = .outside :=
          (current.literal_noteLine number line).trans outside
        have started := Pending.started_readLine outside' rest
        have unstarted : ended.started = false := by simpa [Scan.awaits] using awaits
        rw [here, unstarted, eq_comm, Bool.or_eq_false_iff] at started
        have ownLine : ¬current.start < number := by simpa [unstarted, start] using goesOn
        exact ends (by omega) started.2
  | case4 events rest notFound => exact ⟨by simp [Scan.IsBefore], by simp [Scan.awaits]⟩
  | case5 events rest opener found ih =>
      apply ih
      rcases freshRest_of_find? inLine found with ⟨back, fresh, opens⟩
      rcases inLine with ⟨front, rfl, -⟩
      refine ⟨(Opener.suffix_find? found).trans (List.suffix_append front rest), rfl,
        Nat.le_refl number, ?_, ?_⟩
      · intro earlier
        exact absurd earlier (Nat.lt_irrefl number)
      · intro _ noBracket
        exact ⟨back, opener, fresh, opens, noBracket⟩

theorem Scan.IsBefore.inLine {scan : Scan} (isBefore : scan.IsBefore number) (line : List Char) :
    InLine number line line scan.pending := by
  cases pending : scan.pending with
  | none => exact freshRest_self line
  | some current =>
      rcases isBefore current pending with ⟨outside, earlier⟩
      refine ⟨List.suffix_rfl, outside, Nat.le_of_lt earlier, fun _ => freshRest_self line, ?_⟩
      intro ownLine
      omega

/-- A scanner that reads lines one after the other awaits only brackets of keywords at their
ends. -/
theorem exists_split_of_splits {scan : Scan} (isBefore : scan.IsBefore number)
    (awaited : scan.awaits = true → EndsInOpener line) {lines : List (List Char)}
    (splits : scan.splits (lines.zipIdx number) = true) :
    ∃ earlier line' next later, line :: lines = earlier ++ line' :: next :: later ∧
      EndsInOpener line' ∧ opensBracket next = true := by
  induction lines generalizing scan number line with
  | nil => simp [Scan.splits] at splits
  | cons next later ih =>
      rw [List.zipIdx_cons, Scan.splits, Bool.or_eq_true, Bool.and_eq_true] at splits
      rcases splits with ⟨awaits, opens⟩ | splits
      · exact ⟨[], line, next, later, rfl, awaited awaits, opens⟩
      · rcases endsInOpener_of_awaits scan.events scan.pending next (isBefore.inLine next) with
          ⟨isBefore', awaited'⟩
        rcases ih isBefore' awaited' splits with ⟨earlier, line', next', later', same, found⟩
        exact ⟨line :: earlier, line', next', later', by rw [same, List.cons_append], found⟩

end InLine

/-- Where an opener is split, a line ends in an opener and a bracket opens on the next line. -/
theorem exists_lines_of_splitsOpener {text : List Char} (splits : SplitsOpener text) :
    ∃ earlier line next later, Text.lines text = earlier ++ line :: next :: later ∧
      EndsInOpener line ∧ opensBracket next = true := by
  rcases Text.exists_lines_eq_cons text with ⟨first, later, same⟩
  rw [SplitsOpener, Text.numberedLines, same, List.zipIdx_cons, Scan.splits] at splits
  rw [same]
  have isBefore : Scan.IsBefore 1 ⟨[], none⟩ := by simp [Scan.IsBefore]
  rcases endsInOpener_of_awaits [] none first (isBefore.inLine first) with ⟨isBefore', awaited⟩
  exact exists_split_of_splits isBefore' awaited splits

end CrossArch.Assembly
