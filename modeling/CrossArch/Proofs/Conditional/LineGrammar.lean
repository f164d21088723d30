import CrossArch.Proofs.Conditional.Order

/-!
# The grammar of conditional directives

A line is a directive if it consists of indentation, `#`, blanks, and one of eight words that no
word character follows. The directives of a text are those of its lines, in order, and each is
described by its line alone: the word and the text after it give its kind, and the patterns of the
architectures give its tag. A carriage return at the end of a line is no part of any of this.
-/

namespace CrossArch

namespace DirectiveKind

/-- The kind of directive that a word makes together with the text after it. -/
inductive Names : String → List Char → DirectiveKind → Prop where
  | ifExpression {after : List Char} : Names "if" after .ifExpression
  | ifDefined {after : List Char} : Names "ifdef" after .ifDefined
  | ifUndefined {after : List Char} : Names "ifndef" after .ifUndefined
  | elseIf {after : List Char} (condition : ∃ c ∈ after, Unicode.isBlank c = false) :
    Names "elif" after .elseIf
  | elseIfBare {after : List Char} (bare : ∀ c ∈ after, Unicode.isBlank c = true) :
    Names "elif" after .elseIfBare
  | elseIfDefined {after : List Char} : Names "elifdef" after .elseIf
  | elseIfUndefined {after : List Char} : Names "elifndef" after .elseIf
  | otherwise {after : List Char} : Names "else" after .otherwise
  | endIf {after : List Char} : Names "endif" after .endIf

theorem names_ofWord {word : String} (mem : word.toList ∈ Directive.words) (after : List Char) :
    Names word after (ofWord word.toList after) := by
  simp only [Directive.words, List.map_cons, List.map_nil, List.mem_cons, List.not_mem_nil,
    or_false, String.toList_inj] at mem
  rcases mem with rfl | rfl | rfl | rfl | rfl | rfl | rfl | rfl
  · exact .ifDefined
  · exact .ifUndefined
  · exact .ifExpression
  · exact .elseIfDefined
  · exact .elseIfUndefined
  · by_cases blank : after.all Unicode.isBlank = true
    · have kind : ofWord "elif".toList after = .elseIfBare := by simp [ofWord, blank]
      rw [kind]
      exact .elseIfBare (List.all_eq_true.1 blank)
    · have kind : ofWord "elif".toList after = .elseIf := by simp [ofWord, blank]
      rw [kind]
      exact .elseIf (by simpa using blank)
  · exact .otherwise
  · exact .endIf

section Names

variable {word : String} {after : List Char} {kind : DirectiveKind}

theorem Names.mem_words (names : Names word after kind) : word.toList ∈ Directive.words := by
  cases names <;> decide

theorem Names.ofWord (names : Names word after kind) : ofWord word.toList after = kind := by
  cases names with
  | elseIf condition =>
      have notBlank : after.all Unicode.isBlank = false := by simpa using condition
      simp [DirectiveKind.ofWord, notBlank]
  | elseIfBare bare =>
      have blank : after.all Unicode.isBlank = true := List.all_eq_true.2 bare
      simp [DirectiveKind.ofWord, blank]
  | _ => rfl

end Names

end DirectiveKind

namespace Directive

/-- What the line of a directive says about it. -/
structure Describes (line : List Char) (directive : Directive) : Prop where
  form : ∃ indent gap word after, LineForm line indent gap (String.toList word) after ∧
    DirectiveKind.Names word after directive.kind
  text : directive.text = String.ofList (Unicode.trim line)
  tag : directive.tag =
    if directive.kind ∈ [.ifExpression, .ifDefined, .elseIf] then
      Arch.byPriority.find? fun arch => arch.patternFits line
    else none

theorem tagOf_eq (kind : DirectiveKind) (line : List Char) :
    tagOf kind line =
      if kind ∈ [.ifExpression, .ifDefined, .elseIf] then
        Arch.byPriority.find? fun arch => arch.patternFits line
      else none := by
  have states : kind.statesCondition = true ↔ kind ∈ [.ifExpression, .ifDefined, .elseIf] := by
    cases kind <;> decide
  simp only [tagOf, states, Arch.mentionedIn_eq_patternFits]

theorem ofLine?_eq_some_iff {line : List Char} {number : Nat} {directive : Directive} :
    ofLine? line number = some directive ↔ directive.line = number ∧ Describes line directive := by
  simp only [ofLine?, Option.bind_eq_some_iff, Option.ite_none_right_eq_some, Option.some.injEq]
  constructor
  · rintro ⟨⟨letters, after⟩, found, mem, rfl⟩
    rcases lineForm_of_word? found with ⟨indent, gap, form⟩
    obtain ⟨word, rfl⟩ : ∃ word : String, word.toList = letters :=
      ⟨String.ofList letters, String.toList_ofList⟩
    exact ⟨rfl, ⟨indent, gap, word, after, form, DirectiveKind.names_ofWord mem after⟩, rfl,
      tagOf_eq _ line⟩
  · rintro ⟨rfl, ⟨indent, gap, word, after, form, names⟩, text, tag⟩
    refine ⟨(word.toList, after), form.word? (ne_nil_of_mem_words names.mem_words),
      names.mem_words, ?_⟩
    rw [names.ofWord, tagOf_eq, ← text, ← tag]

/-- The search through a text never fails to cut it at a match. The directives it finds are what the
lines of the text describe, on ascending lines, and they do not depend on whether a carriage return
stands before each newline. -/
theorem all_accepts_line_grammar (text : List Char) :
    all? text = some (all text) ∧
    (∀ directive, directive ∈ all text ↔
      ∃ line, (line, directive.line) ∈ Text.numberedLines text ∧ Describes line directive) ∧
    ((all text).Pairwise fun directive other => directive.line < other.line) ∧
    all (Text.withReturns text) = all text := by
  refine ⟨?_, ?_, pairwise_all text, ?_⟩
  · rw [all_eq, all?_eq]
  · intro directive
    rw [all_eq, List.mem_filterMap]
    constructor
    · rintro ⟨⟨line, number⟩, numbered, found⟩
      rcases ofLine?_eq_some_iff.1 found with ⟨rfl, describes⟩
      exact ⟨line, numbered, describes⟩
    · rintro ⟨line, numbered, describes⟩
      exact ⟨(line, directive.line), numbered, ofLine?_eq_some_iff.2 ⟨rfl, describes⟩⟩
  · rw [all_eq, all_eq]
    apply Text.filterMap_numberedLines_withReturns
    intro line number
    exact ofLine?_append_return line number

example : (all "\t# ifdef __aarch64__\n#elif \r\n#elifdef mips\n#endif_\n #endif//".toList).map
    (fun directive => (directive.line, directive.kind, directive.tag)) =
      [(1, .ifDefined, some .arm64), (2, .elseIfBare, none), (3, .elseIf, some .mips64el),
        (5, .endIf, none)] := by
  decide +kernel

end Directive

end CrossArch
