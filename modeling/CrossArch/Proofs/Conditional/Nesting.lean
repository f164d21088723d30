import CrossArch.Proofs.Conditional.Order

/-!
# Analysis of well-nested texts

Directives are well nested when they form whole segments. Reading well-nested directives never
touches the frames that are open before them, and leaves no frame behind. So directives that stand
on a base, which may be an open frame or what was flagged before, are grouped as they are by
themselves, and what is flagged among them is handed to the base. A text behind a well-nested one is
analyzed by itself, and an include guard around a well-nested text changes nothing but line numbers.
-/

namespace CrossArch

namespace Directive

/-- The directive so many lines further down. -/
def shift (lines : Nat) (directive : Directive) : Directive :=
  { directive with line := directive.line + lines }

theorem ofLine?_add (line : List Char) (number lines : Nat) :
    ofLine? line (number + lines) = (ofLine? line number).map (shift lines) := by
  cases found : word? line with
  | none => simp [ofLine?, found]
  | some parts =>
      by_cases mem : parts.1 ∈ words <;> simp [ofLine?, found, mem, shift]

/-- The directives behind a newline are those of what follows, so many lines further down. -/
theorem all_append_newline (front back : List Char) :
    all (front ++ '\n' :: back) =
      all front ++ (all back).map (shift (Text.newlines front + 1)) := by
  simp only [all_eq, Text.numberedLines_append_newline, List.filterMap_append, List.filterMap_map,
    List.map_filterMap]
  congr 1
  apply List.filterMap_congr
  rintro ⟨line, number⟩ _
  exact ofLine?_add line number _

/-- The opening line of an include guard is a directive that names no architecture. -/
theorem all_guard {name : List Char} (inLine : '\n' ∉ name) :
    all ("#ifndef ".toList ++ name) =
      [⟨.ifUndefined, 1, String.ofList (Unicode.trim ("#ifndef ".toList ++ name)), none⟩] := by
  have oneLine : '\n' ∉ "#ifndef ".toList ++ name := by simp [inLine]
  rw [all_eq, Text.numberedLines_of_not_mem oneLine]
  rfl

theorem all_endIf : all "#endif".toList = [⟨.endIf, 1, "#endif", none⟩] := by
  decide +kernel

end Directive

namespace Segment

/--
Directives that form whole segments: each opener is closed, and every other directive falls into a
segment, behind its opener and up to its `#endif`.
-/
structure WellNested (directives : List Directive) : Prop where
  closed : ∀ first < directives.length, opensAt directives first = true →
    ∃ last < directives.length, ClosedBy directives first last
  inside : ∀ place < directives.length, opensAt directives place = false →
    ∃ first < place, ∃ last < directives.length, place ≤ last ∧ ClosedBy directives first last

instance (directives : List Directive) : Decidable (WellNested directives) :=
  decidable_of_iff
    ((∀ first < directives.length, opensAt directives first = true →
        ∃ last < directives.length, ClosedBy directives first last) ∧
      ∀ place < directives.length, opensAt directives place = false →
        ∃ first < place, ∃ last < directives.length, place ≤ last ∧ ClosedBy directives first last)
    ⟨fun ⟨closed, inside⟩ => ⟨closed, inside⟩, fun nested => ⟨nested.closed, nested.inside⟩⟩

/-- Whenever one of the directives does not open a segment, a frame is open. -/
def NeverStray (dest : Arch) (directives : List Directive) : Prop :=
  ∀ front directive back, directives = front ++ directive :: back →
    directive.kind.opens = true ∨ (State.readAll dest front).stack ≠ []

namespace WellNested

variable {directives : List Directive}

/-- Well-nested directives leave no frame open. -/
theorem stack_readAll (nested : WellNested directives) (dest : Arch) :
    (State.readAll dest directives).stack = [] := by
  have accounts := Accounts.readAll dest directives
  cases stack : (State.readAll dest directives).stack with
  | nil => rfl
  | cons top outer =>
      rw [stack] at accounts
      cases accounts with
      | inside _ isOpen =>
          rcases nested.closed _ isOpen.lt_length isOpen.opener with ⟨last, -, closed⟩
          exact absurd closed (isOpen.not_closedBy last)

theorem neverStray (nested : WellNested directives) (dest : Arch) :
    NeverStray dest directives := by
  rintro front directive back rfl
  by_cases opens : directive.kind.opens = true
  · exact Or.inl opens
  · right
    intro empty
    have notOpening : opensAt (front ++ directive :: back) front.length = false := by
      simpa [opensAt] using opens
    rcases nested.inside front.length (by simp) notOpening with
      ⟨first, less, last, -, le, closed⟩
    have accounts := Accounts.readAll dest front
    rw [empty] at accounts
    cases accounts with
    | outside noneOpen => exact noneOpen first less (isOpen_of_closedBy closed less le)

end WellNested

/-- The frame so many lines further down. -/
def Frame.shift (lines : Nat) (frame : Frame) : Frame :=
  ⟨frame.opener.shift lines, frame.later.map (Directive.shift lines),
    frame.nested.map (LineRange.shift lines)⟩

section Shift

variable (lines : Nat) (frame : Frame)

theorem Frame.own_shift : (frame.shift lines).own = frame.own.map (Directive.shift lines) :=
  rfl

theorem excludes_map_shift (own : List Directive) (dest : Arch) :
    excludes (own.map (Directive.shift lines)) dest = excludes own dest := by
  simp only [excludes, List.any_map]
  rfl

theorem Frame.range_shift : (frame.shift lines).range = frame.range.shift lines := by
  simp only [Frame.range, Frame.own_shift, List.getLast_map]
  rfl

theorem Frame.reported_shift (dest : Arch) :
    (frame.shift lines).reported dest = (frame.reported dest).map (LineRange.shift lines) := by
  rw [Frame.reported, Frame.reported, Frame.own_shift, excludes_map_shift, Frame.range_shift]
  split <;> rfl

theorem Frame.shift_extended (directive : Directive) :
    Frame.shift lines { frame with later := frame.later ++ [directive] } =
      { frame.shift lines with later := (frame.shift lines).later ++ [directive.shift lines] } := by
  simp [Frame.shift]

end Shift

namespace State

variable (dest : Arch) {state : State} {directive : Directive} {top : Frame} {outer : List Frame}

theorem read_opening (opens : directive.kind.opens = true) :
    read dest state directive = { state with stack := ⟨directive, [], []⟩ :: state.stack } :=
  if_pos opens

theorem read_stray (notOpening : directive.kind.opens = false) (bare : state.stack = []) :
    (read dest state directive).stack = state.stack ∧
      (read dest state directive).flagged = state.flagged := by
  simp [read, notOpening, bare]

theorem read_alternative (notOpening : directive.kind.opens = false)
    (notEnding : directive.kind ≠ .endIf) (frames : state.stack = top :: outer) :
    read dest state directive =
      { state with stack := { top with later := top.later ++ [directive] } :: outer } := by
  simp [read, notOpening, notEnding, frames]

/-- The ranges that are flagged so far, outside the frames and inside them. -/
def pending (state : State) : List LineRange :=
  state.flagged ++ state.stack.reverse.flatMap Frame.nested

theorem readAll_append (front back : List Directive) :
    readAll dest (front ++ back) = back.foldl (read dest) (readAll dest front) :=
  List.foldl_append

/-- The message about a closed frame is all that closing adds to reporting. -/
theorem read_ending (ending : directive.kind = .endIf) (frames : state.stack = top :: outer) :
    (read dest state directive).stack =
        (report { state with stack := outer }
          (Frame.reported { top with later := top.later ++ [directive] } dest)).stack ∧
      (read dest state directive).flagged =
        (report { state with stack := outer }
          (Frame.reported { top with later := top.later ++ [directive] } dest)).flagged := by
  simp only [read, ending, DirectiveKind.opens, Bool.false_eq_true, if_false, frames, if_true,
    close]
  split <;> cases outer <;> exact ⟨rfl, rfl⟩

end State

/--
A state of the grouping in which another one stands on a base: the frames of the other one, so many
lines further down, are above those of the base, and what it has flagged outside them is reported to
the base.
-/
structure Atop (base : State) (lines : Nat) (inner whole : State) : Prop where
  stack : whole.stack = inner.stack.map (Frame.shift lines) ++
    (base.report (inner.flagged.map (LineRange.shift lines))).stack
  flagged : whole.flagged = (base.report (inner.flagged.map (LineRange.shift lines))).flagged

namespace Atop

variable {dest : Arch} {base inner whole : State} {lines : Nat}

theorem start (base : State) (lines : Nat) : Atop base lines ⟨[], [], []⟩ base := by
  rcases base with ⟨stack, flagged, log⟩
  cases stack <;> exact ⟨by simp [State.report], by simp [State.report]⟩

/-- What is reported outside all frames of the inner state is reported to the base. -/
theorem report_outside (atop : Atop base lines inner whole) (none : inner.stack = [])
    (ranges : List LineRange) :
    Atop base lines (inner.report ranges) (whole.report (ranges.map (LineRange.shift lines))) := by
  rcases base with ⟨baseStack, baseFlagged, baseLog⟩
  rcases inner with ⟨stack, flagged, log⟩
  rcases whole with ⟨wholeStack, wholeFlagged, wholeLog⟩
  rcases atop with ⟨sameStack, sameFlagged⟩
  subst none
  cases baseStack with
  | nil =>
      simp only [State.report, List.map_nil, List.nil_append] at sameStack sameFlagged
      subst sameStack sameFlagged
      exact ⟨rfl, by simp [State.report]⟩
  | cons parent outer =>
      simp only [State.report, List.map_nil, List.nil_append] at sameStack sameFlagged
      subst sameStack sameFlagged
      exact ⟨by simp [State.report], rfl⟩

/-- What is reported to a frame of the inner state is reported to it on the base. -/
theorem report (atop : Atop base lines inner whole) (ranges : List LineRange) :
    Atop base lines (inner.report ranges) (whole.report (ranges.map (LineRange.shift lines))) := by
  cases frames : inner.stack with
  | nil => exact atop.report_outside frames ranges
  | cons parent outer =>
      have sameStack := atop.stack
      rw [frames, List.map_cons, List.cons_append] at sameStack
      constructor
      · simp [State.report, sameStack, frames, Frame.shift]
      · simp [State.report, sameStack, frames, atop.flagged]

/-- Reading a directive keeps a state on its base, if the directive does not reach down to the
base. -/
theorem read (atop : Atop base lines inner whole) (directive : Directive)
    (held : base.stack = [] ∨ directive.kind.opens = true ∨ inner.stack ≠ []) :
    Atop base lines (State.read dest inner directive)
      (State.read dest whole (directive.shift lines)) := by
  have sameStack := atop.stack
  cases opening : directive.kind.opens with
  | true =>
      have opening' : (directive.shift lines).kind.opens = true := opening
      rw [State.read_opening dest opening, State.read_opening dest opening']
      exact ⟨by simp [sameStack, Frame.shift], atop.flagged⟩
  | false =>
      have opening' : (directive.shift lines).kind.opens = false := opening
      cases frames : inner.stack with
      | nil =>
          have bare : base.stack = [] := by simpa [opening, frames] using held
          have bareWhole : whole.stack = [] := by simp [sameStack, frames, State.report, bare]
          have stray := State.read_stray dest opening frames
          have strayWhole := State.read_stray dest opening' bareWhole
          constructor
          · rw [strayWhole.1, stray.1, stray.2]
            exact atop.stack
          · rw [strayWhole.2, stray.2]
            exact atop.flagged
      | cons top outer =>
          rw [frames, List.map_cons, List.cons_append] at sameStack
          by_cases ending : directive.kind = .endIf
          · have ending' : (directive.shift lines).kind = .endIf := ending
            have closed := State.read_ending dest ending frames
            have closedWhole := State.read_ending dest ending' sameStack
            rw [← Frame.shift_extended, Frame.reported_shift] at closedWhole
            have below : Atop base lines { inner with stack := outer }
                { whole with stack := outer.map (Frame.shift lines) ++
                  (base.report (inner.flagged.map (LineRange.shift lines))).stack } :=
              ⟨rfl, atop.flagged⟩
            have reported := below.report
              (Frame.reported { top with later := top.later ++ [directive] } dest)
            constructor
            · rw [closedWhole.1, closed.1, closed.2]
              exact reported.stack
            · rw [closedWhole.2, closed.2]
              exact reported.flagged
          · have ending' : (directive.shift lines).kind ≠ .endIf := ending
            rw [State.read_alternative dest opening ending frames,
              State.read_alternative dest opening' ending' sameStack, ← Frame.shift_extended]
            exact ⟨rfl, atop.flagged⟩

/-- Directives that do not reach down to the base are grouped on it as they are by themselves. -/
theorem readAll (dest : Arch) (base : State) (lines : Nat) (directives : List Directive)
    (held : base.stack = [] ∨ NeverStray dest directives) :
    Atop base lines (State.readAll dest directives)
      ((directives.map (Directive.shift lines)).foldl (State.read dest) base) := by
  induction directives using List.reverseRecOn with
  | nil => exact start base lines
  | append_singleton front directive ih =>
      rw [State.readAll, List.map_append, List.foldl_append, List.foldl_append]
      apply Atop.read
      · apply ih
        rcases held with bare | neverStray
        · exact Or.inl bare
        · right
          rintro front' directive' back rfl
          exact neverStray front' directive' (back ++ [directive]) (by simp)
      · rcases held with bare | neverStray
        · exact Or.inl bare
        · exact Or.inr (neverStray front directive [] rfl)

/-- On a base without frames, what is pending follows what the base has flagged. -/
theorem pending_of_bare (atop : Atop base lines inner whole) (bare : base.stack = []) :
    whole.pending = base.flagged ++ inner.pending.map (LineRange.shift lines) := by
  simp only [State.pending, atop.stack, atop.flagged, State.report, bare, List.append_nil,
    List.append_assoc, List.map_append, List.map_flatMap, ← List.map_reverse, List.flatMap_map]
  rfl

end Atop

namespace WellNested

variable {directives : List Directive}

theorem pending_readAll (nested : WellNested directives) (dest : Arch) :
    (State.readAll dest directives).pending = (State.readAll dest directives).flagged := by
  simp [State.pending, nested.stack_readAll dest]

/-- A segment whose own directives are two that name no architecture passes on what is inside it. -/
theorem pending_enclosed (nested : WellNested directives) (dest : Arch) (lines : Nat)
    {opener ending : Directive} (opens : opener.kind.opens = true) (ends : ending.kind = .endIf)
    (openerNeutral : opener.tag = none) (endingNeutral : ending.tag = none) :
    (State.readAll dest (opener :: (directives.map (Directive.shift lines) ++ [ending]))).pending =
      (State.readAll dest directives).pending.map (LineRange.shift lines) := by
  have opened : State.read dest ⟨[], [], []⟩ opener = ⟨[⟨opener, [], []⟩], [], []⟩ :=
    State.read_opening dest opens
  have atop := Atop.readAll dest ⟨[⟨opener, [], []⟩], [], []⟩ lines directives
    (Or.inr (nested.neverStray dest))
  rw [State.readAll, List.foldl_cons, opened, List.foldl_append, List.foldl_cons, List.foldl_nil,
    nested.pending_readAll dest]
  generalize (directives.map (Directive.shift lines)).foldl (State.read dest)
    ⟨[⟨opener, [], []⟩], [], []⟩ = inside at atop ⊢
  rcases atop with ⟨stack, flagged⟩
  rw [nested.stack_readAll dest] at stack
  have closed := State.read_ending dest ends stack
  have neutral : excludes [opener, ending] dest = false := by
    simp [excludes, openerNeutral, endingNeutral]
  rw [State.pending, closed.1, closed.2, flagged]
  simp [State.report, Frame.reported, Frame.own, neutral]

end WellNested

end Segment

section Analysis

variable (dest : Arch) {text : List Char}

theorem value_analyzeConditionals (text : List Char) :
    (analyzeConditionals dest text).value =
      (Segment.State.readAll dest (Directive.all text)).pending.mergeSort LineRange.precedes :=
  rfl

theorem mem_analyzeConditionals_iff {range : LineRange} :
    range ∈ (analyzeConditionals dest text).value ↔
      range ∈ (Segment.State.readAll dest (Directive.all text)).pending :=
  List.mem_mergeSort

/-- Behind a well-nested text, what follows is analyzed by itself. -/
theorem analyzeConditionals_append (nested : Segment.WellNested (Directive.all text))
    (back : List Char) :
    (analyzeConditionals dest (text ++ '\n' :: back)).value =
      (analyzeConditionals dest text).value ++
        (analyzeConditionals dest back).value.map (LineRange.shift (Text.newlines text + 1)) := by
  have bare := nested.stack_readAll dest
  have pending := (Segment.Atop.readAll dest (Segment.State.readAll dest (Directive.all text))
    (Text.newlines text + 1) (Directive.all back) (Or.inl bare)).pending_of_bare bare
  rw [← nested.pending_readAll, ← Segment.State.readAll_append,
    ← Directive.all_append_newline] at pending
  rw [value_analyzeConditionals, pending, LineRange.mergeSort_append,
    LineRange.mergeSort_map_shift]
  · rfl
  · -- The lines of the first text end before those of the second begin.
    intro range rangeMem other otherMem
    rcases List.mem_map.1 otherMem with ⟨unshifted, unshiftedMem, rfl⟩
    have bounds := analyzeConditionals_bounds dest text
      ((mem_analyzeConditionals_iff dest).2 rangeMem)
    have boundsBack := analyzeConditionals_bounds dest back
      ((mem_analyzeConditionals_iff dest).2 unshiftedMem)
    rw [LineRange.precedes_iff]
    simp only [LineRange.shift]
    omega

/-- An include guard around a well-nested text shifts what is flagged by one line. -/
theorem analyzeConditionals_guarded (nested : Segment.WellNested (Directive.all text))
    {name : List Char} (inLine : '\n' ∉ name) :
    (analyzeConditionals dest ("#ifndef ".toList ++ name ++ '\n' ::
      (text ++ "\n#endif".toList))).value =
      (analyzeConditionals dest text).value.map (LineRange.shift 1) := by
  have oneLine : Text.newlines ("#ifndef ".toList ++ name) = 0 :=
    Text.newlines_eq_zero (by simp [inLine])
  have lastLine : "\n#endif".toList = '\n' :: "#endif".toList := by decide
  rw [lastLine, value_analyzeConditionals, value_analyzeConditionals,
    Directive.all_append_newline, Directive.all_append_newline, Directive.all_guard inLine, oneLine,
    Directive.all_endIf, List.map_append, List.singleton_append, List.map_singleton,
    List.map_singleton, nested.pending_enclosed dest (0 + 1) rfl rfl rfl rfl,
    LineRange.mergeSort_map_shift]

/--
Analysis is compositional over well-nested texts. What follows a well-nested text is analyzed by
itself, its lines counted on; and an include guard around a well-nested text changes nothing but the
line numbers.
-/
theorem analysis_of_wellNested (dest : Arch) (text : List Char)
    (nested : Segment.WellNested (Directive.all text)) :
    (∀ back, (analyzeConditionals dest (text ++ '\n' :: back)).value =
      (analyzeConditionals dest text).value ++
        (analyzeConditionals dest back).value.map (LineRange.shift (Text.newlines text + 1))) ∧
    ∀ name, '\n' ∉ name →
      (analyzeConditionals dest
        ("#ifndef ".toList ++ name ++ '\n' :: (text ++ "\n#endif".toList))).value =
        (analyzeConditionals dest text).value.map (LineRange.shift 1) :=
  ⟨analyzeConditionals_append dest nested,
    fun _ inLine => analyzeConditionals_guarded dest nested inLine⟩

/-- A neutral segment around a flagged one, before another flagged segment and inside a guard. -/
theorem analysis_of_wellNested_mips :
    Segment.WellNested (Directive.all "#ifdef A\n#if __mips__\n#endif\n#else\n#endif".toList) ∧
      (analyzeConditionals .arm64
        ("#ifdef A\n#if __mips__\n#endif\n#else\n#endif".toList ++
          '\n' :: "#if i386\n#endif\n#else".toList)).value =
        [⟨2, 3⟩] ++ [LineRange.shift 5 ⟨1, 2⟩] ∧
      '\n' ∉ "A_H".toList ∧
      (analyzeConditionals .arm64
        ("#ifndef ".toList ++ "A_H".toList ++
          '\n' :: ("#ifdef A\n#if __mips__\n#endif\n#else\n#endif".toList ++
            "\n#endif".toList))).value =
        [LineRange.shift 1 ⟨2, 3⟩] := by
  have nested : Segment.WellNested
      (Directive.all "#ifdef A\n#if __mips__\n#endif\n#else\n#endif".toList) := by
    decide +kernel
  have inner : (analyzeConditionals .arm64
      "#ifdef A\n#if __mips__\n#endif\n#else\n#endif".toList).value = [⟨2, 3⟩] := by
    decide +kernel
  have behind : (analyzeConditionals .arm64 "#if i386\n#endif\n#else".toList).value = [⟨1, 2⟩] := by
    decide +kernel
  have newlines : Text.newlines "#ifdef A\n#if __mips__\n#endif\n#else\n#endif".toList = 4 := by
    decide +kernel
  have composed := analysis_of_wellNested .arm64 _ nested
  have oneLine : '\n' ∉ "A_H".toList := by decide
  refine ⟨nested, ?_, oneLine, ?_⟩
  · rw [composed.1, inner, behind, newlines]
    rfl
  · rw [composed.2 _ oneLine, inner]
    rfl

end Analysis

end CrossArch
