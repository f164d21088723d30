import CrossArch.Hit.Key
import CrossArch.Proofs.Regex.Sequence
import CrossArch.Regex.Parser

/-!
# How patterns are read

A pattern is read from left to right, and each step adds an item, starts another alternative or
enters a group. The steps are stated here one by one, for any bound that is larger than the text is
long, so that the reading of a pattern with unknown parts can be followed through. Escaped words are
read as their characters, and words with bars between them as alternatives.
-/

namespace CrossArch.Regex

theorem skip_of_plain {flags : Flags} (plain : flags.verbose = false) (text : List Char) :
    flags.skip text = text := by
  rw [Flags.skip, plain]
  rfl

/-- The characters that do not stand for themselves outside of brackets. -/
def special : List Char :=
  [')', '(', '|', '[', '?', '*', '+', '\x7b', '.', '^', '$', '\\']

theorem not_mem_special_of_not_isMeta {c : Char} (notMeta : SearchKey.isMeta c = false) :
    c ∉ special := by
  intro mem
  have escaped : special.all SearchKey.isMeta = true := by decide
  rw [List.all_eq_true.1 escaped c mem] at notMeta
  cases notMeta

/-- A step outside of groups: what has been read behind it, and what is left. -/
inductive ReadStep : Progress → List Char → Progress → List Char → Prop where
  | bar {progress : Progress} {rest : List Char} :
      ReadStep progress ('|' :: rest) progress.nextAlternative rest
  | literal {progress : Progress} {c : Char} {rest : List Char} (notSpecial : c ∉ special) :
      ReadStep progress (c :: rest) (progress.push (some ⟨Regex.literal progress.flags c, 0⟩)) rest
  | lineStart {progress : Progress} {rest : List Char} :
      ReadStep progress ('^' :: rest)
        (progress.push (some ⟨Regex.lineStart progress.flags, 0⟩)) rest
  | lineEnd {progress : Progress} {rest : List Char} :
      ReadStep progress ('$' :: rest) (progress.push (some ⟨Regex.lineEnd progress.flags, 0⟩)) rest
  | escape {progress : Progress} {text rest : List Char} {item : Regex}
      (escapes : escapeItem? progress.flags text = some (item, rest)) :
      ReadStep progress ('\\' :: text) (progress.push (some ⟨item, 0⟩)) rest
  | bracket {progress : Progress} {text rest : List Char} {set : CharSet}
      (brackets : bracketSet? progress.flags text = some (set, rest)) :
      ReadStep progress ('[' :: text) (progress.push (some ⟨.char set, 1⟩)) rest
  /-- A repetition of the last item, without a question mark behind it. -/
  | repeated {progress : Progress} {rest : List Char} {mark : Char} {least : Nat} {body : Part}
      {earlier : List (Option Part)} (marks : (mark, least) ∈ [('*', 0), ('+', 1)])
      (last : progress.items = some body :: earlier) (greedy : progress.flags.swapGreed = false)
      (noMark : rest.head? ≠ some '?') :
      ReadStep progress (mark :: rest) { progress with
        items := some ⟨.repeat body.regex least none true, body.depth + 1⟩ :: earlier } rest
  | flags {progress : Progress} {text rest : List Char} {updated : Flags}
      (starts : groupStart? progress.flags text = some (.flags updated, rest)) :
      ReadStep progress ('(' :: text) ({ progress with flags := updated }.push none) rest

theorem ReadStep.body?_eq {progress next : Progress} {text rest : List Char}
    (step : ReadStep progress text next rest) (plain : progress.flags.verbose = false)
    (nested : Bool) (bound : Nat) :
    body? nested (bound + 1) progress text = body? nested bound next rest := by
  rw [body?]
  simp only [skip_of_plain plain]
  cases step with
  | bar => rfl
  | literal notSpecial =>
      split <;> rename_i same <;> cases same
      case h_14 => rfl
      all_goals exact absurd (by decide) notSpecial
  | lineStart => rfl
  | lineEnd => rfl
  | escape escapes =>
      simp only [escapes]
      rfl
  | bracket brackets =>
      simp only [brackets]
      rfl
  | repeated marks last greedy noMark =>
      have greeds : greed progress.flags rest = (true, rest) := by
        rw [greed, greedy]
        · rfl
        · rintro after rfl
          exact noMark rfl
      simp only [List.mem_cons, List.not_mem_nil, or_false, Prod.mk.injEq] at marks
      rcases marks with ⟨rfl, rfl⟩ | ⟨rfl, rfl⟩
      all_goals
        simp only [greeds, Progress.repeatLast?, last]
        rfl
  | flags starts =>
      simp only [starts]
      rfl

/-- Reading a text comes to a result, if the bound is larger than the text is long. -/
def ReadsAs (nested : Bool) (progress : Progress) (text : List Char)
    (result : Progress × List Char) : Prop :=
  ∀ bound, text.length < bound → body? nested bound progress text = some result

namespace ReadsAs

variable {nested : Bool} {progress : Progress} {text rest : List Char}
  {result : Progress × List Char} (plain : progress.flags.verbose = false)

include plain

/-- A step leaves the rest to the smaller bound. -/
theorem of_step {next : Progress} (step : ReadStep progress text next rest)
    (shorter : rest.length < text.length) (later : ReadsAs nested next rest result) :
    ReadsAs nested progress text result := by
  rintro (_ | bound) enough
  · cases enough
  · rw [step.body?_eq plain]
    exact later bound (by omega)

theorem bar (later : ReadsAs nested progress.nextAlternative rest result) :
    ReadsAs nested progress ('|' :: rest) result :=
  of_step plain .bar (Nat.lt_succ_self _) later

theorem flags {updated : Flags}
    (starts : groupStart? progress.flags text = some (.flags updated, rest))
    (shorter : rest.length ≤ text.length)
    (later : ReadsAs nested ({ progress with flags := updated }.push none) rest result) :
    ReadsAs nested progress ('(' :: text) result :=
  of_step plain (.flags starts) (Nat.lt_succ_of_le shorter) later

theorem close : ReadsAs true progress (')' :: rest) (progress, rest) := by
  rintro (_ | bound) enough
  · cases enough
  · rw [body?]
    simp only [skip_of_plain plain]
    rfl

theorem finish : ReadsAs false progress [] (progress, []) := by
  rintro (_ | bound) enough
  · cases enough
  · rw [body?]
    simp only [skip_of_plain plain]
    rfl

theorem group {inner : Flags} {kind : GroupKind} {start : List Char} {closed : Progress}
    (starts : groupStart? progress.flags text = some (.group inner kind, start))
    (fresh : kind.name?.any progress.names.contains = false)
    (inside : ReadsAs true ⟨inner, kind.name?.toList ++ progress.names, [], []⟩ start
      (closed, rest))
    (shorter : start.length ≤ text.length) (shorter' : rest.length ≤ start.length)
    (later : ReadsAs nested ({ progress with names := closed.names }.push
      (some ⟨kind.wrap closed.whole.regex, closed.whole.depth + 1⟩)) rest result) :
    ReadsAs nested progress ('(' :: text) result := by
  rintro (_ | bound) enough
  · cases enough
  · rw [List.length_cons] at enough
    have step := inside bound (by omega)
    rw [body?]
    simp only [skip_of_plain plain, starts, fresh, step, Option.bind_eq_bind, Option.bind_some]
    exact later bound (by omega)

end ReadsAs

/-- The depth of parts side by side does not depend on their order. -/
theorem depthOf_reverse (depths : List Nat) : depthOf depths.reverse = depthOf depths := by
  rw [depthOf, depthOf, List.length_reverse, depths.reverse_perm.foldl_eq]

theorem depthOf_le {depths : List Nat} {bound : Nat} (le : ∀ depth ∈ depths, depth ≤ bound) :
    depthOf depths ≤ bound + 1 := by
  have folded : ∀ start ≤ bound, depths.foldl max start ≤ bound := by
    induction depths with
    | nil => exact fun _ le => le
    | cons depth depths ih =>
        rw [List.forall_mem_cons] at le
        intro start small
        exact ih le.2 _ (Nat.max_le.2 ⟨small, le.1⟩)
  have most := folded 0 (Nat.zero_le _)
  rw [depthOf]
  split <;> omega

/-- Several parts, one after the other. -/
def Part.sequence (parts : List Part) : Part :=
  ⟨Regex.sequence (parts.map Part.regex), depthOf (parts.map Part.depth)⟩

/-- Alternatives, each made of several parts. -/
def Part.anyOf (pieces : List (List Part)) : Part :=
  ⟨Regex.anyOf (pieces.map fun parts => (Part.sequence parts).regex),
    depthOf (pieces.map fun parts => (Part.sequence parts).depth)⟩

theorem Part.depth_anyOf_le {pieces : List (List Part)} {bound : Nat}
    (within : ∀ parts ∈ pieces, ∀ part ∈ parts, part.depth ≤ bound) :
    (Part.anyOf pieces).depth ≤ bound + 2 := by
  apply depthOf_le
  simp only [List.forall_mem_map]
  intro parts mem
  apply depthOf_le
  simpa only [List.forall_mem_map] using within parts mem

/-- A part in parentheses. -/
def Part.inGroup (part : Part) : Part :=
  { part with depth := part.depth + 1 }

/-- A part in parentheses that keep what it reads. -/
def Part.kept (part : Part) (name : List Char) : Part :=
  ⟨.group (some name) part.regex, part.depth + 1⟩

namespace Progress

/-- Add several items. -/
def pushAll (progress : Progress) (parts : List Part) : Progress :=
  { progress with items := parts.reverse.map some ++ progress.items }

/-- Add several alternatives, the last of which is the current one. -/
def alternate (progress : Progress) : List (List Part) → Progress
  | [] => progress
  | [only] => progress.pushAll only
  | first :: second :: later => (progress.pushAll first).nextAlternative.alternate (second :: later)

variable {progress : Progress}

theorem pushAll_pushAll (parts more : List Part) :
    (progress.pushAll parts).pushAll more = progress.pushAll (parts ++ more) := by
  simp [pushAll]

theorem sequence_pushAll (fresh : progress.items = []) (parts : List Part) :
    (progress.pushAll parts).sequence = Part.sequence parts := by
  have depth : depthOf (parts.map Part.depth) = depthOf (parts.reverse.map Part.depth) := by
    rw [List.map_reverse, depthOf_reverse]
  simp only [Progress.sequence, pushAll, fresh, List.append_nil, ← List.map_reverse,
    List.reverse_reverse, List.map_map, Part.sequence, Regex.sequence, List.foldr_map, depth]
  rfl

theorem names_alternate (pieces : List (List Part)) :
    (progress.alternate pieces).names = progress.names := by
  fun_induction alternate progress pieces with
  | case1 => rfl
  | case2 => rfl
  | case3 progress first second later ih => exact ih

theorem flags_alternate (pieces : List (List Part)) :
    (progress.alternate pieces).flags = progress.flags := by
  fun_induction alternate progress pieces with
  | case1 => rfl
  | case2 => rfl
  | case3 progress first second later ih => exact ih

theorem foldr_alt_eq_anyOf (regexes : List Regex) (last : Regex) :
    regexes.foldr .alt last = anyOf (regexes ++ [last]) := by
  induction regexes with
  | nil => rfl
  | cons first regexes ih =>
      rw [List.foldr_cons, ih]
      cases regexes <;> rfl

/-- Alternatives are added behind those that were there before. -/
theorem whole_alternate {pieces : List (List Part)} (some : pieces ≠ [])
    (fresh : progress.items = []) :
    (progress.alternate pieces).whole =
      ⟨anyOf (progress.alternatives.map Part.regex ++
          pieces.map fun parts => (Part.sequence parts).regex),
        depthOf (progress.alternatives.map Part.depth ++
          pieces.map fun parts => (Part.sequence parts).depth)⟩ := by
  fun_induction alternate progress pieces with
  | case1 => exact absurd rfl some
  | case2 progress only =>
      rw [whole, sequence_pushAll fresh, foldr_alt_eq_anyOf, List.map_append]
      rfl
  | case3 progress first second later ih =>
      rw [ih (List.cons_ne_nil _ _) rfl]
      simp only [nextAlternative, sequence_pushAll fresh, List.map_append, List.map_cons,
        List.map_nil, List.append_assoc, List.singleton_append]
      rfl

end Progress

/-- Whether a text can follow any item: a brace could belong to a boundary mark, and a question mark
to a repetition. -/
def MayFollow (rest : List Char) : Prop :=
  rest.head? ≠ some '\x7b' ∧ rest.head? ≠ some '?'

theorem MayFollow.append {text rest : List Char} (follows : MayFollow text)
    (follows' : MayFollow rest) :
    MayFollow (text ++ rest) := by
  cases text with
  | nil => exact follows'
  | cons c text => exact follows

theorem mayFollow_cons {c : Char} (notBrace : c ≠ '\x7b') (notMark : c ≠ '?') (rest : List Char) :
    MayFollow (c :: rest) := by
  simp [MayFollow, notBrace, notMark]

theorem mayFollow_escape (word : List Char) : MayFollow (SearchKey.escape word) := by
  cases word with
  | nil => simp [MayFollow, SearchKey.escape]
  | cons c word =>
      by_cases isMeta : SearchKey.isMeta c = true
      · simp [MayFollow, SearchKey.escape, isMeta]
      · have first : SearchKey.escape (c :: word) = c :: SearchKey.escape word := by
          simp [SearchKey.escape, isMeta]
        rw [first]
        apply mayFollow_cons
        · rintro rfl
          exact isMeta (by decide)
        · rintro rfl
          exact isMeta (by decide)

/-- A text is read as items, whatever follows it. -/
def Spells (flags : Flags) (text : List Char) (parts : List Part) : Prop :=
  ∀ nested progress rest result, progress.flags = flags → MayFollow rest →
    ReadsAs nested (progress.pushAll parts) rest result →
    ReadsAs nested progress (text ++ rest) result

/-- The items of the characters of a word. -/
def literals (flags : Flags) (word : List Char) : List Part :=
  word.map fun c => ⟨literal flags c, 0⟩

namespace Spells

variable {flags : Flags} {text more : List Char} {parts others : List Part} {part : Part}

theorem nil : Spells flags [] [] :=
  fun _ _ _ _ _ _ later => later

theorem append (first : Spells flags text parts) (second : Spells flags more others)
    (follows : MayFollow more) : Spells flags (text ++ more) (parts ++ others) := by
  intro nested progress rest result same follows' later
  rw [List.append_assoc]
  apply first nested progress _ result same (follows.append follows')
  apply second nested (progress.pushAll parts) rest result same follows'
  rwa [Progress.pushAll_pushAll]

variable (plain : flags.verbose = false)

include plain

theorem literal {c : Char} (notSpecial : c ∉ special) :
    Spells flags [c] (literals flags [c]) := by
  rintro nested progress rest result rfl _ later
  exact .of_step plain (.literal notSpecial) (Nat.lt_succ_self _) later

theorem lineStart : Spells flags ['^'] [⟨Regex.lineStart flags, 0⟩] := by
  rintro nested progress rest result rfl _ later
  exact .of_step plain .lineStart (Nat.lt_succ_self _) later

theorem lineEnd : Spells flags ['$'] [⟨Regex.lineEnd flags, 0⟩] := by
  rintro nested progress rest result rfl _ later
  exact .of_step plain .lineEnd (Nat.lt_succ_self _) later

theorem escapeItem {item : Regex}
    (escapes : ∀ rest, MayFollow rest → escapeItem? flags (text ++ rest) = some (item, rest)) :
    Spells flags ('\\' :: text) [⟨item, 0⟩] := by
  rintro nested progress rest result rfl follows later
  apply ReadsAs.of_step plain (.escape (escapes rest follows)) _ later
  rw [List.length_cons, List.length_append]
  omega

theorem bracket {set : CharSet}
    (brackets : ∀ rest, bracketSet? flags (text ++ rest) = some (set, rest)) :
    Spells flags ('[' :: text) [⟨.char set, 1⟩] := by
  rintro nested progress rest result rfl _ later
  apply ReadsAs.of_step plain (.bracket (brackets rest)) _ later
  rw [List.length_cons, List.length_append]
  omega

theorem repeated (single : Spells flags text [part]) (greedy : flags.swapGreed = false)
    {mark : Char} {least : Nat} (marks : (mark, least) ∈ [('*', 0), ('+', 1)]) :
    Spells flags (text ++ [mark]) [⟨.repeat part.regex least none true, part.depth + 1⟩] := by
  rintro nested progress rest result rfl follows later
  rw [List.append_assoc]
  have behind : MayFollow ([mark] ++ rest) := by
    simp only [List.mem_cons, List.not_mem_nil, or_false, Prod.mk.injEq] at marks
    rcases marks with ⟨rfl, -⟩ | ⟨rfl, -⟩ <;> exact mayFollow_cons (by decide) (by decide) rest
  apply single nested progress _ result rfl behind
  have plain' : (progress.pushAll [part]).flags.verbose = false := plain
  exact .of_step plain' (.repeated marks rfl greedy follows.2) (Nat.lt_succ_self _) later

/-- Texts with bars between them are read as alternatives. -/
theorem alternate {pieces : List (List Char × List Part)}
    (spells : ∀ piece ∈ pieces, Spells flags piece.1 piece.2) {nested : Bool} {progress : Progress}
    {rest : List Char} {result : Progress × List Char} (same : progress.flags = flags)
    (follows : MayFollow rest)
    (later : ReadsAs nested (progress.alternate (pieces.map Prod.snd)) rest result) :
    ReadsAs nested progress (List.intercalate ['|'] (pieces.map Prod.fst) ++ rest) result := by
  induction pieces generalizing progress with
  | nil => simpa [List.intercalate, Progress.alternate] using later
  | cons first pieces ih =>
      rw [List.forall_mem_cons] at spells
      cases pieces with
      | nil =>
          rw [List.map_singleton, List.intercalate_singleton]
          exact spells.1 nested progress rest result same follows later
      | cons second pieces =>
          have split : List.intercalate ['|'] ((first :: second :: pieces).map Prod.fst) ++ rest =
              first.1 ++
                ('|' :: (List.intercalate ['|'] ((second :: pieces).map Prod.fst) ++ rest)) := by
            simp [List.intercalate_cons_cons]
          rw [split]
          apply spells.1 nested progress _ result same (mayFollow_cons (by decide) (by decide) _)
          apply ReadsAs.bar (same ▸ plain)
          exact ih spells.2 same later

/-- The inside of a group, up to its closing parenthesis. -/
theorem inside {pieces : List (List Char × List Part)} (some : pieces ≠ [])
    (spells : ∀ piece ∈ pieces, Spells flags piece.1 piece.2) (names : List (List Char))
    (rest : List Char) :
    ∃ closed : Progress, closed.names = names ∧ closed.whole = Part.anyOf (pieces.map Prod.snd) ∧
      ReadsAs true ⟨flags, names, [], []⟩
        (List.intercalate ['|'] (pieces.map Prod.fst) ++ ')' :: rest) (closed, rest) := by
  refine ⟨Progress.alternate ⟨flags, names, [], []⟩ (pieces.map Prod.snd), ?_, ?_, ?_⟩
  · exact Progress.names_alternate _
  · exact Progress.whole_alternate (by simpa using some) rfl
  · apply alternate plain spells rfl (mayFollow_cons (by decide) (by decide) rest)
    apply ReadsAs.close
    rwa [Progress.flags_alternate]

end Spells

section Group

variable {flags inner : Flags} {pieces : List (List Char × List Part)}

/-- A group that is not kept is one item. -/
theorem Spells.group (plain : flags.verbose = false) (mark : List Char)
    (starts : ∀ rest, groupStart? flags (mark ++ rest) = some (.group inner .plain, rest))
    (plain' : inner.verbose = false) (some : pieces ≠ [])
    (spells : ∀ piece ∈ pieces, Spells inner piece.1 piece.2) :
    Spells flags ('(' :: (mark ++ (List.intercalate ['|'] (pieces.map Prod.fst) ++ [')'])))
      [(Part.anyOf (pieces.map Prod.snd)).inGroup] := by
  rintro nested progress rest result rfl _ later
  rcases Spells.inside plain' some spells progress.names rest with ⟨closed, names, whole, reads⟩
  simp only [List.cons_append, List.append_assoc]
  apply ReadsAs.group plain (starts _) rfl reads
  · simp
  · simp only [List.length_append, List.length_cons]
    omega
  · rw [names, whole]
    exact later

/-- A group with a name is kept under it. -/
theorem ReadsAs.namedGroup {nested : Bool} {progress : Progress} {rest name : List Char}
    {result : Progress × List Char} (same : progress.flags = flags) (plain : flags.verbose = false)
    (starts : ∀ rest, groupStart? flags ('?' :: 'P' :: '<' :: (name ++ '>' :: rest)) =
      some (.group flags (.capturing (some name)), rest))
    (fresh : name ∉ progress.names) (nonempty : pieces ≠ [])
    (spells : ∀ piece ∈ pieces, Spells flags piece.1 piece.2)
    (later : ReadsAs nested ({ progress with names := name :: progress.names }.push
      (some ((Part.anyOf (pieces.map Prod.snd)).kept name))) rest result) :
    ReadsAs nested progress ('(' :: '?' :: 'P' :: '<' :: (name ++ '>' ::
      (List.intercalate ['|'] (pieces.map Prod.fst) ++ ')' :: rest))) result := by
  subst same
  rcases Spells.inside plain nonempty spells (name :: progress.names) rest with
    ⟨closed, names, whole, reads⟩
  apply ReadsAs.group plain (starts _) (by simpa [GroupKind.name?] using fresh) reads
  · simp only [List.length_append, List.length_cons]
    omega
  · simp only [List.length_append, List.length_cons]
    omega
  · rw [names, whole]
    exact later

end Group

namespace Spells

variable {flags : Flags} (plain : flags.verbose = false)

include plain

/-- An escaped word is read as its characters. -/
theorem escape (word : List Char) :
    Spells flags (SearchKey.escape word) (literals flags word) := by
  induction word with
  | nil => exact nil
  | cons c word ih =>
      have one : Spells flags (SearchKey.escape [c]) (literals flags [c]) := by
        by_cases isMeta : SearchKey.isMeta c = true
        · have escapes : ∀ rest, escapeItem? flags (c :: rest) =
              some (Regex.literal flags c, rest) := by
            intro rest
            simp only [SearchKey.isMeta, List.contains_iff_mem, List.mem_cons, List.not_mem_nil,
              or_false] at isMeta
            rcases isMeta with rfl | rfl | rfl | rfl | rfl | rfl | rfl | rfl | rfl | rfl | rfl |
              rfl | rfl | rfl | rfl | rfl | rfl | rfl <;>
              simp [escapeItem?, escape?, classLetter?, isEscapable, isForeignByte]
          have asItem : SearchKey.escape [c] = ['\\', c] := by simp [SearchKey.escape, isMeta]
          rw [asItem]
          exact escapeItem plain fun rest _ => escapes rest
        · have asItself : SearchKey.escape [c] = [c] := by simp [SearchKey.escape, isMeta]
          rw [asItself]
          exact literal plain (not_mem_special_of_not_isMeta (by simpa using isMeta))
      have split : SearchKey.escape (c :: word) =
          SearchKey.escape [c] ++ SearchKey.escape word := by
        simp [SearchKey.escape]
      rw [split]
      exact one.append ih (mayFollow_escape word)

theorem word {word : List Char} (noMeta : word.any SearchKey.isMeta = false) :
    Spells flags word (literals flags word) := by
  have itself : SearchKey.escape word = word := by
    induction word with
    | nil => rfl
    | cons c word ih =>
        rw [List.any_cons, Bool.or_eq_false_iff] at noMeta
        rw [SearchKey.escape, List.flatMap_cons, noMeta.1, ← SearchKey.escape, ih noMeta.2]
        rfl
  have spelt := escape plain word
  rwa [itself] at spelt

/-- A boundary mark is read as a word boundary. -/
theorem boundaryMark (edge : Option Char) :
    Spells flags (SearchKey.boundaryMark edge)
      (if edge.any SearchKey.isWordEdge then [⟨.assert (.wordBoundary flags.wordSet), 0⟩]
        else []) := by
  rw [SearchKey.boundaryMark]
  split
  · apply escapeItem plain
    intro rest follows
    have boundary : boundaryEscape? flags rest =
        some (.assertion (.wordBoundary flags.wordSet), rest) := by
      rw [boundaryEscape?]
      rintro after rfl
      exact follows.1 rfl
    simp [escapeItem?, escape?, boundary]
  · exact nil

end Spells

/-- A pattern denotes the expression that reading it comes to. -/
theorem parse?_of_readsAs {flags : Flags} {text : List Char} {progress : Progress}
    (reads : ReadsAs false ⟨flags, [], [], []⟩ text (progress, []))
    (shallow : progress.whole.depth ≤ depthLimit) :
    parse? flags text = some progress.whole.regex := by
  rw [parse?, reads _ (by omega)]
  simp only [Option.bind_eq_bind, Option.bind_some]
  rw [if_neg (by omega)]
  rfl

end CrossArch.Regex
