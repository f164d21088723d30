import CrossArch.Proofs.Conditional.Order

/-!
# Segments that name the destination

A condition is tied to one architecture, the first by priority that its line mentions. So a line
that mentions the destination counts for it only if it mentions no architecture of higher priority.
A closed segment with such a line among its own directives is never reported; one whose lines
mention the destination only beside an architecture of higher priority may be.
-/

namespace CrossArch

/-- The architectures with which a condition is compared before this one. -/
def Arch.outranking (arch : Arch) : List Arch :=
  Arch.byPriority.takeWhile fun other => other ≠ arch

theorem Arch.byPriority_eq_outranking_append (arch : Arch) :
    ∃ later, Arch.byPriority = arch.outranking ++ arch :: later := by
  cases arch <;> exact ⟨_, rfl⟩

namespace Directive

/-- A condition is tied to the destination if its line mentions it and nothing that outranks it. -/
theorem tagOf_eq_some {kind : DirectiveKind} {line : List Char} {dest : Arch}
    (states : kind.statesCondition = true) (mentioned : dest.mentionedIn line = true)
    (unrivalled : ∀ arch ∈ dest.outranking, arch.mentionedIn line = false) :
    tagOf kind line = some dest := by
  rcases dest.byPriority_eq_outranking_append with ⟨later, priority⟩
  rw [tagOf, if_pos states, List.find?_eq_some_iff_append]
  refine ⟨mentioned, dest.outranking, later, priority, ?_⟩
  intro arch outranks
  simp [unrivalled arch outranks]

theorem tag_of_ofLine? {line : List Char} {number : Nat} {directive : Directive}
    (found : ofLine? line number = some directive) :
    directive.tag = tagOf directive.kind line := by
  simp only [ofLine?, Option.bind_eq_some_iff, Option.ite_none_right_eq_some,
    Option.some.injEq] at found
  rcases found with ⟨parts, -, -, rfl⟩
  rfl

/-- The tag of a directive of a text is read off the line on which the directive stands. -/
theorem tag_eq_tagOf {text line : List Char} {directive : Directive} (mem : directive ∈ all text)
    (numbered : (line, directive.line) ∈ Text.numberedLines text) :
    directive.tag = tagOf directive.kind line := by
  rw [all_eq] at mem
  rcases List.mem_filterMap.1 mem with ⟨⟨line', number⟩, numbered', found⟩
  rw [line_of_ofLine? found] at numbered
  rw [Text.line_unique numbered numbered']
  exact tag_of_ofLine? found

end Directive

namespace Segment

/-- The own directives of a segment are directives. -/
theorem mem_of_mem_ownDirectives {directives : List Directive} {first last : Nat} {own : Directive}
    (mem : own ∈ ownDirectives directives first last) : own ∈ directives := by
  simp only [ownDirectives, alternatives, List.mem_append, Option.mem_toList,
    List.mem_filterMap] at mem
  rcases mem with (opener | ⟨place, -, alternative⟩) | ending
  · exact List.mem_of_getElem? opener
  · exact List.mem_of_getElem? alternative
  · exact List.mem_of_getElem? ending

/-- On ascending lines, a closed segment is known by its lines. -/
theorem ClosedBy.eq_of_lines {directives : List Directive}
    (ascending : directives.Pairwise fun directive other => directive.line < other.line)
    {segment other : Nat × Nat} (closed : ClosedBy directives segment.1 segment.2)
    (closed' : ClosedBy directives other.1 other.2)
    (same : linesOf directives segment = linesOf directives other) : segment = other := by
  have sameLine : lineAt directives segment.1 = lineAt directives other.1 :=
    congrArg LineRange.first same
  have sameOpener : segment.1 = other.1 := by
    rcases Nat.lt_trichotomy segment.1 other.1 with less | equal | greater
    · have := lineAt_lt ascending less (closed'.later.trans closed'.inside)
      omega
    · exact equal
    · have := lineAt_lt ascending greater (closed.later.trans closed.inside)
      omega
  rw [sameOpener] at closed
  exact Prod.ext sameOpener (closed.last_unique closed')

/-- A line of a text on which an own directive of a segment states a condition. -/
def ConditionLine (text : List Char) (segment : Nat × Nat) (line : List Char) : Prop :=
  ∃ own ∈ ownDirectives (Directive.all text) segment.1 segment.2,
    own.kind.statesCondition = true ∧ (line, own.line) ∈ Text.numberedLines text

instance (text : List Char) (segment : Nat × Nat) (line : List Char) :
    Decidable (ConditionLine text segment line) :=
  inferInstanceAs (Decidable (∃ own ∈ ownDirectives (Directive.all text) segment.1 segment.2,
    own.kind.statesCondition = true ∧ (line, own.line) ∈ Text.numberedLines text))

/-- No condition line of a reported segment is tied to the destination. -/
theorem tagOf_ne_of_reported {dest : Arch} {text : List Char} {segment : Nat × Nat}
    (closed : ClosedBy (Directive.all text) segment.1 segment.2)
    (reported : linesOf (Directive.all text) segment ∈ (analyzeConditionals dest text).value)
    {own : Directive} (ownMem : own ∈ ownDirectives (Directive.all text) segment.1 segment.2)
    {line : List Char} (numbered : (line, own.line) ∈ Text.numberedLines text) :
    Directive.tagOf own.kind line ≠ some dest := by
  rcases exists_maximal_of_mem dest reported with ⟨other, maximal, same⟩
  rw [← maximal.flagged.closed.eq_of_lines (Directive.pairwise_all text) closed same] at ownMem
  rw [← Directive.tag_eq_tagOf (mem_of_mem_ownDirectives ownMem) numbered]
  exact maximal.flagged.omits own ownMem

end Segment

/--
A closed segment is not reported if one of its condition lines mentions the destination and no
architecture that outranks it.
-/
theorem segment_naming_destination_not_reported (dest : Arch) (text : List Char)
    (segment : Nat × Nat) (closed : Segment.ClosedBy (Directive.all text) segment.1 segment.2)
    (line : List Char) (condition : Segment.ConditionLine text segment line)
    (mentioned : dest.mentionedIn line = true)
    (unrivalled : ∀ arch ∈ dest.outranking, arch.mentionedIn line = false) :
    Segment.linesOf (Directive.all text) segment ∉ (analyzeConditionals dest text).value := by
  intro reported
  rcases condition with ⟨own, ownMem, states, numbered⟩
  exact Segment.tagOf_ne_of_reported closed reported ownMem numbered
    (Directive.tagOf_eq_some states mentioned unrivalled)

/-- The alternative mentions two architectures, and the destination is the first of them by
priority. -/
theorem segment_naming_destination_not_reported_x86_64 :
    Segment.ClosedBy (Directive.all "#ifdef __mips__\n#elif __amd64 && !mips\n#endif".toList) 0 2 ∧
      Segment.ConditionLine "#ifdef __mips__\n#elif __amd64 && !mips\n#endif".toList (0, 2)
        "#elif __amd64 && !mips".toList ∧
      Segment.linesOf (Directive.all "#ifdef __mips__\n#elif __amd64 && !mips\n#endif".toList)
          (0, 2) ∉
        (analyzeConditionals .x86_64
          "#ifdef __mips__\n#elif __amd64 && !mips\n#endif".toList).value := by
  have closed : Segment.ClosedBy
      (Directive.all "#ifdef __mips__\n#elif __amd64 && !mips\n#endif".toList) 0 2 := by
    decide +kernel
  have condition : Segment.ConditionLine "#ifdef __mips__\n#elif __amd64 && !mips\n#endif".toList
      (0, 2) "#elif __amd64 && !mips".toList := by
    decide +kernel
  refine ⟨closed, condition, ?_⟩
  exact segment_naming_destination_not_reported .x86_64 _ (0, 2) closed _ condition
    (by decide +kernel) (by decide +kernel)

/--
Not every segment that names the destination is spared. Beside an architecture of higher priority
the name of the destination does not count, and the segment is reported.
-/
theorem segment_naming_destination_reported :
    ¬∀ (dest : Arch) (text : List Char) (segment : Nat × Nat) (line : List Char),
      Segment.ClosedBy (Directive.all text) segment.1 segment.2 →
      Segment.ConditionLine text segment line → dest.mentionedIn line = true →
      Segment.linesOf (Directive.all text) segment ∉ (analyzeConditionals dest text).value := by
  intro spared
  apply spared .x86_64 "#if defined(__aarch64__) || defined(__x86_64__)\n#endif\n".toList (0, 1)
    "#if defined(__aarch64__) || defined(__x86_64__)".toList
  · decide +kernel
  · decide +kernel
  · decide +kernel
  · decide +kernel

end CrossArch
