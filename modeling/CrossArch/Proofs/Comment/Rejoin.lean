import CrossArch.Proofs.Comment.Blocks
import CrossArch.Proofs.Comment.Turn

/-!
# Markers that come together again

When a block comment is dropped, a space is left only if the last character before it and the text
behind it form a marker. A marker of three characters or more can also be cut behind its second
character. The loop does not see such a cut, so dropping the comment puts the marker together again,
and stripping a second time drops what the first time had kept.

Not every long marker can be cut that way: in some the marker of the comment is read too early,
others have the line marker over the cut. `Rejoins` says which markers come together again, and
stripping is idempotent for exactly the others.
-/

namespace CrossArch.Comment

/-- An opening marker behind `front` is read where it stands, not from a place within `front` on. -/
def ReadBehind (opening front : List Char) : Prop :=
  ∀ after, after <:+ front → after ≠ [] → ¬opening <+: after ++ opening

instance (opening front : List Char) : Decidable (ReadBehind opening front) :=
  decidable_of_iff (∀ after ∈ front.tails, after ≠ [] → ¬opening <+: after ++ opening)
    (by simp [ReadBehind])

/-- A marker comes together again when a block comment within it is dropped. -/
inductive Rejoins (line opening : List Char) : Prop where
  /-- The opening marker is cut behind its second character or later, and the line marker is not
  seen. -/
  | opening (front back : List Char) (whole : opening = front ++ back) (long : 2 ≤ front.length)
      (readBehind : ReadBehind opening front)
      (apart : fusesMarker front.getLast? back line = false)
  /-- The line marker is cut behind its second character or later, and opens no comment before. -/
  | line (front back : List Char) (whole : line = front ++ back) (long : 2 ≤ front.length)
      (readBehind : ReadBehind opening front) (unmarked : ¬back <+: opening)
      (free : ¬opening <:+: line)
  /-- The `=` that keeps `!` from opening a comment is dropped with a block comment. -/
  | notEqual (bang : line = ['!']) (equals : opening.head? = some '=')

/--
The loop keeps `back` behind `front` although a block comment opens between the two. Behind the
comment is `rest`, and no space is left.
-/
structure Cut (style : Style) (markers : BlockMarkers) (last : Option Char)
    (text front back rest : List Char) : Prop where
  more : back ≠ []
  placed : front ++ markers.opening <+: text
  readBehind : ReadBehind markers.opening front
  shorter : rest.length < text.length
  apart : style.leavesSpace (front.getLast?.or last) rest = false
  kept : back <+: stripFrom style false (front.getLast?.or last) rest

theorem fusesMarker_iff {last : Option Char} {rest marker : List Char} :
    fusesMarker last rest marker = true ↔
      ∃ c more, last = some c ∧ marker = c :: more ∧ more ≠ [] ∧ more <+: rest := by
  rcases last with _ | c
  · simp [fusesMarker]
  · rcases marker with _ | ⟨m, _ | ⟨m', more⟩⟩
    · simp [fusesMarker]
    · simp [fusesMarker]
    · simp [fusesMarker, Text.startsWith_iff]

theorem fusesMarker_mono {last : Option Char} {rest back marker : List Char}
    (starts : back <+: rest) (fused : fusesMarker last back marker = true) :
    fusesMarker last rest marker = true := by
  rcases fusesMarker_iff.1 fused with ⟨c, more, isLast, whole, nonempty, within⟩
  exact fusesMarker_iff.2 ⟨c, more, isLast, whole, nonempty, within.trans starts⟩

theorem getLast?_cons_or (c : Char) (front : List Char) (last : Option Char) :
    (c :: front).getLast?.or last = front.getLast?.or (some c) := by
  rw [List.getLast?_cons]
  cases front.getLast? <;> rfl

theorem opensLineComment_iff {marker rest : List Char} {last : Option Char} :
    opensLineComment marker last rest = true ↔
      marker ≠ [] ∧ marker <+: rest ∧ last.all Unicode.isBlank = true ∧
        ¬(marker = ['!'] ∧ rest.tail.head? = some '=') := by
  simp only [opensLineComment, Bool.and_eq_true, Bool.not_eq_true', ← Bool.not_eq_true, beq_iff_eq,
    bne_iff_ne, Text.startsWith_iff, and_assoc]

theorem readBehind_cons {opening front : List Char} {c : Char}
    (here : ¬opening <+: c :: front ++ opening) (later : ReadBehind opening front) :
    ReadBehind opening (c :: front) := by
  intro after isSuffix nonempty
  rcases List.suffix_cons_iff.1 isSuffix with rfl | isSuffix
  · exact here
  · exact later after isSuffix nonempty

theorem not_prefix_cons_of_blank {marker rest : List Char} {c : Char} (isMarker : IsMarker marker)
    (blank : Unicode.isBlank c = true) : ¬marker <+: c :: rest := by
  intro starts
  cases marker with
  | nil => exact isMarker.nonempty rfl
  | cons m more =>
      have same := (List.cons_prefix_cons.1 starts).1
      have notBlank := isMarker.noBlank m List.mem_cons_self
      rw [same, blank] at notBlank
      cases notBlank

section Cuts

variable {style : Style} {markers : BlockMarkers} (marked : style.HasMarkers markers)
include marked

/-- A block comment in front of a kept character that is no blank closes, and no space is left. -/
theorem exists_behind_block {inBlock : Bool} {last : Option Char} {text : List Char} {a : Char}
    (inside : inBlock = true) (notBlank : Unicode.isBlank a = false)
    (head : (stripFrom style inBlock last text).head? = some a) :
    ∃ rest, rest.length < text.length ∧ style.leavesSpace last rest = false ∧
      stripFrom style inBlock last text = stripFrom style false last rest := by
  induction inBlock, last, text using stripFrom_induction marked with
  | nil => simp at head
  | turn inBlock last text kept cursor turn ih =>
      cases turn with
      | opens => cases inside
      | skipsLine => cases inside
      | keeps => cases inside
      | @closes _ _ after found apart =>
          have positive := List.length_pos_iff.2 marked.closing.nonempty
          refine ⟨after, ?_, apart, rfl⟩
          simp only [found, List.length_append]
          omega
      | closesFused =>
          have isSpace : ' ' = a := by simpa using head
          rw [← isSpace] at notBlank
          exact absurd notBlank (by decide)
      | keepsNewline =>
          have isNewline : '\n' = a := by simpa using head
          rw [← isNewline] at notBlank
          exact absurd notBlank (by decide)
      | drops =>
          rcases ih rfl head with ⟨rest, shorter, apart, same⟩
          exact ⟨rest, Nat.lt_succ_of_lt shorter, apart, same⟩

theorem not_marked_cons_of_blank {c : Char} (blank : Unicode.isBlank c = true)
    (last : Option Char) (rest : List Char) :
    opensLineComment style.lineMarker last (c :: rest) = false := by
  have unmarked : Text.startsWith (c :: rest) style.lineMarker = false := by
    rw [← Bool.not_eq_true, Text.startsWith_iff]
    exact not_prefix_cons_of_blank marked.line blank
  simp [opensLineComment, unmarked]

theorem stripFrom_blank_cons {c : Char} (blank : Unicode.isBlank c = true) (last : Option Char)
    (rest : List Char) :
    stripFrom style false last (c :: rest) = c :: stripFrom style false (some c) rest :=
  stripFrom_kept marked (not_prefix_cons_of_blank marked.opening blank)
    (not_marked_cons_of_blank marked blank last rest)

/-- Behind a dropped line comment nothing is kept, or a newline. -/
theorem head?_behind_line {last : Option Char} {text : List Char} {a : Char}
    (notBlank : Unicode.isBlank a = false) :
    (stripFrom style false last (text.dropWhile (· != '\n'))).head? ≠ some a := by
  intro head
  rcases Text.endsLine_cases (endsLine_dropWhile text) with ended | ⟨rest, ended⟩
  · rw [ended, stripFrom] at head
    cases head
  · rw [ended, stripFrom_blank_cons marked (by decide), List.head?_cons, Option.some.injEq] at head
    rw [← head] at notBlank
    exact absurd notBlank (by decide)

omit marked in
/-- A cut further on is a cut of the longer text, if no block comment opens before. -/
theorem Cut.cons {a : Char} {last : Option Char} {text front back rest : List Char}
    (cut : Cut style markers (some a) text front back rest)
    (noBlock : ¬markers.opening <+: a :: text) :
    Cut style markers last (a :: text) (a :: front) back rest := by
  have placed : a :: front ++ markers.opening <+: a :: text :=
    List.cons_prefix_cons.2 ⟨rfl, cut.placed⟩
  exact
    { more := cut.more
      placed := placed
      readBehind := readBehind_cons (fun early => noBlock (early.trans placed)) cut.readBehind
      shorter := Nat.lt_succ_of_lt cut.shorter
      apart := by
        rw [getLast?_cons_or]
        exact cut.apart
      kept := by
        rw [getLast?_cons_or]
        exact cut.kept }

/-- A word that the loop keeps stands in the text as it is, or a block comment stands within it. -/
theorem prefix_or_cut {word : List Char} (noBlank : ∀ c ∈ word, Unicode.isBlank c = false)
    {last : Option Char} {text : List Char} (kept : word <+: stripFrom style false last text) :
    word <+: text ∨ ∃ front back rest, word = front ++ back ∧
      Cut style markers last text front back rest := by
  induction word generalizing last text with
  | nil => exact Or.inl List.nil_prefix
  | cons a word ih =>
      have notBlank := noBlank a List.mem_cons_self
      have head : (stripFrom style false last text).head? = some a := by
        rcases kept with ⟨more, same⟩
        rw [← same]
        rfl
      cases text with
      | nil =>
          rw [stripFrom] at head
          cases head
      | cons c more =>
          obtain ⟨output, cursor, turn⟩ : ∃ output cursor,
              Turn style markers false last (c :: more) output cursor :=
                exists_turn false last c more
          rw [turn.stripFrom_eq marked] at kept head
          cases turn with
          | @opens _ _ after found =>
              rcases exists_behind_block marked rfl notBlank head with ⟨rest, shorter, apart, same⟩
              dsimp only at shorter
              refine Or.inr ⟨[], a :: word, rest, rfl, ?_⟩
              exact
                { more := List.cons_ne_nil a word
                  placed := ⟨after, found.symm⟩
                  readBehind := by
                    intro after isSuffix nonempty
                    exact absurd (List.suffix_nil.1 isSuffix) nonempty
                  shorter := by
                    rw [found, List.length_append]
                    omega
                  apart := apart
                  kept := by simpa [same] using kept }
          | skipsLine => exact absurd head (head?_behind_line marked notBlank)
          | keeps noBlock =>
              rcases List.cons_prefix_cons.1 kept with ⟨rfl, keptLater⟩
              have laterNoBlank : ∀ d ∈ word, Unicode.isBlank d = false := by
                intro d mem
                exact noBlank d (List.mem_cons_of_mem _ mem)
              rcases ih laterNoBlank keptLater with stands | ⟨front, back, rest, rfl, cut⟩
              · exact Or.inl (List.cons_prefix_cons.2 ⟨rfl, stands⟩)
              · exact Or.inr ⟨a :: front, back, rest, rfl, cut.cons noBlock⟩

end Cuts

/-- Where no space is left behind the first character of a marker, the others do not follow. -/
theorem not_follows_of_apart {style : Style} {markers : BlockMarkers}
    (marked : style.HasMarkers markers) {c : Char} {marker others rest : List Char}
    (isMarker : marker = markers.opening ∨ marker = style.lineMarker)
    (whole : marker = c :: others) (more : others ≠ [])
    (apart : style.leavesSpace (some c) rest = false) : ¬others <+: rest := by
  intro follows
  have seen : fusesMarker (some c) rest marker = true :=
    fusesMarker_iff.2 ⟨c, others, rfl, whole, more, follows⟩
  rw [leavesSpace_eq marked, Bool.or_eq_false_iff] at apart
  rcases isMarker with rfl | rfl
  · exact absurd (seen.symm.trans apart.1) (by decide)
  · exact absurd (seen.symm.trans apart.2) (by decide)

section Parts

variable {style : Style} {markers : BlockMarkers} {front back rest : List Char}
  (marked : style.HasMarkers markers)
  (firm : ¬Rejoins style.lineMarker markers.opening)
include marked firm

/-- Where no space is left behind the front of the opening marker, its back does not follow. -/
theorem not_prefix_of_apart (parts : markers.opening = front ++ back) (nonempty : front ≠ [])
    (more : back ≠ []) (readBehind : ReadBehind markers.opening front)
    (apart : style.leavesSpace front.getLast? rest = false) : ¬back <+: rest := by
  intro follows
  by_cases long : 2 ≤ front.length
  · rw [leavesSpace_eq marked, Bool.or_eq_false_iff] at apart
    have seen : fusesMarker front.getLast? back style.lineMarker = true := by
      by_contra unseen
      exact firm (.opening front back parts long readBehind (by simpa using unseen))
    rw [fusesMarker_mono follows seen] at apart
    exact absurd apart.2 (by decide)
  · have single : front.length = 1 := by
      have positive := List.length_pos_iff.2 nonempty
      omega
    rcases List.length_eq_one_iff.1 single with ⟨c, rfl⟩
    exact not_follows_of_apart marked (Or.inl rfl) parts more apart follows

/-- Behind a dropped block comment the loop does not complete the opening marker. -/
theorem opening_not_completed (parts : markers.opening = front ++ back) (nonempty : front ≠ [])
    (more : back ≠ []) (readBehind : ReadBehind markers.opening front)
    (apart : style.leavesSpace front.getLast? rest = false) :
    ¬back <+: stripFrom style false front.getLast? rest := by
  induction size : rest.length using Nat.strong_induction_on generalizing front back rest with
  | _ size' ih =>
      subst size
      intro kept
      have notHere := not_prefix_of_apart marked firm parts nonempty more readBehind apart
      have noBlank : ∀ c ∈ back, Unicode.isBlank c = false := by
        intro c mem
        apply marked.opening.noBlank
        rw [parts]
        exact List.mem_append_right front mem
      rcases prefix_or_cut marked noBlank kept with stands | ⟨middle, tail, behind, rfl, cut⟩
      · exact notHere stands
      · have sameLast : (front ++ middle).getLast? = middle.getLast?.or front.getLast? :=
          List.getLast?_append
        have longer : markers.opening = front ++ middle ++ tail := by
          rw [parts, List.append_assoc]
        by_cases later : ReadBehind markers.opening (front ++ middle)
        · refine ih behind.length cut.shorter longer ?_ cut.more later ?_ rfl ?_
          · simp [nonempty]
          · rw [sameLast]
            exact cut.apart
          · rw [sameLast]
            exact cut.kept
        · -- The marker repeats itself over the second cut, so its tail is also its front, and
          -- `rest` goes on behind `middle` with an opening marker.
          simp only [ReadBehind, not_forall, not_not] at later
          rcases later with ⟨period, ⟨before, split⟩, notEmpty, early⟩
          have whole : markers.opening = before ++ (period ++ tail) := by
            rw [longer, ← split, List.append_assoc]
          have starts : tail <+: markers.opening := Text.prefix_of_period notEmpty whole early
          apply notHere
          exact ((List.prefix_append_right_inj middle).2 starts).trans cut.placed

omit firm in
/-- A block comment does not open at the first character of the line marker and over the cut. -/
theorem opening_not_early {c : Char} (free : ¬markers.opening <:+: style.lineMarker)
    (parts : style.lineMarker = c :: back) (apart : style.leavesSpace (some c) rest = false) :
    ¬markers.opening <+: c :: rest := by
  intro early
  cases opening : markers.opening with
  | nil => exact marked.opening.nonempty opening
  | cons o others =>
      rw [opening] at early
      rcases List.cons_prefix_cons.1 early with ⟨rfl, follows⟩
      cases others with
      | nil =>
          apply free
          rw [opening, parts]
          exact List.infix_append [] [o] back
      | cons p others =>
          exact not_follows_of_apart marked (Or.inl opening.symm) rfl
            (List.cons_ne_nil p others) apart
            follows

/-- Behind a dropped block comment the loop does not complete the line marker. -/
theorem line_not_completed (free : ¬markers.opening <:+: style.lineMarker)
    (parts : style.lineMarker = front ++ back) (nonempty : front ≠ [])
    (readBehind : ReadBehind markers.opening front) (unmarked : ¬back <+: markers.opening)
    (apart : style.leavesSpace front.getLast? rest = false) :
    ¬back <+: stripFrom style false front.getLast? rest := by
  have single : front.length = 1 := by
    by_contra other
    have positive := List.length_pos_iff.2 nonempty
    exact firm (.line front back parts (by omega) readBehind unmarked free)
  rcases List.length_eq_one_iff.1 single with ⟨c, rfl⟩
  have more : back ≠ [] := by
    rintro rfl
    exact unmarked List.nil_prefix
  induction size : rest.length using Nat.strong_induction_on generalizing rest with
  | _ size' ih =>
      subst size
      intro kept
      have notHere := not_follows_of_apart marked (Or.inr rfl) parts more apart
      have noBlank : ∀ d ∈ back, Unicode.isBlank d = false := by
        intro d mem
        apply marked.line.noBlank
        rw [parts]
        exact List.mem_append_right [c] mem
      rcases prefix_or_cut marked noBlank kept with stands | ⟨middle, tail, behind, rfl, cut⟩
      · exact notHere stands
      · cases middle with
        | nil => exact ih behind.length cut.shorter cut.apart rfl cut.kept
        | cons d middle =>
            have longer : style.lineMarker = c :: d :: middle ++ tail := parts
            have tailUnmarked : ¬tail <+: markers.opening := by
              intro starts
              apply notHere
              exact ((List.prefix_append_right_inj (d :: middle)).2 starts).trans cut.placed
            have notBefore : ¬markers.opening <+: c :: (d :: middle) ++ markers.opening := by
              intro early
              have follows := early.trans (List.cons_prefix_cons.2 ⟨rfl, cut.placed⟩)
              exact opening_not_early marked free parts apart follows
            exact firm (.line (c :: d :: middle) tail longer (by simp)
              (readBehind_cons notBefore cut.readBehind) tailUnmarked free)

end Parts

section Runs

variable {style : Style} {markers : BlockMarkers} (marked : style.HasMarkers markers)
  (firm : ¬Rejoins style.lineMarker markers.opening)
include marked firm

theorem opening_not_kept {text : List Char} (last : Option Char)
    (noBlock : ¬markers.opening <+: text) :
    ¬markers.opening <+: stripFrom style false last text := by
  intro kept
  rcases prefix_or_cut marked marked.opening.noBlank kept with
    stands | ⟨front, back, rest, parts, cut⟩
  · exact noBlock stands
  · rcases front with _ | ⟨c, front⟩
    · exact noBlock cut.placed
    · exact opening_not_completed marked firm parts (List.cons_ne_nil _ _) cut.more cut.readBehind
        cut.apart cut.kept

theorem line_not_kept {text : List Char} (last : Option Char)
    (free : ¬markers.opening <:+: style.lineMarker) (noBlock : ¬markers.opening <+: text)
    (unmarked : ¬style.lineMarker <+: text) :
    ¬style.lineMarker <+: stripFrom style false last text := by
  intro kept
  rcases prefix_or_cut marked marked.line.noBlank kept with
    stands | ⟨front, back, rest, parts, cut⟩
  · exact unmarked stands
  · rcases front with _ | ⟨c, front⟩
    · exact noBlock cut.placed
    · refine line_not_completed marked firm free parts (List.cons_ne_nil _ _) cut.readBehind ?_
        cut.apart cut.kept
      intro starts
      apply unmarked
      rw [parts]
      exact ((List.prefix_append_right_inj (c :: front)).2 starts).trans cut.placed

/-- No opening marker is left in what the loop keeps. -/
theorem opening_not_infix (inBlock : Bool) (last : Option Char) (text : List Char) :
    ¬markers.opening <:+: stripFrom style inBlock last text := by
  induction inBlock, last, text using stripFrom_induction marked with
  | nil =>
      intro occurs
      exact marked.opening.nonempty (List.infix_nil.1 occurs)
  | turn inBlock last text kept cursor turn ih =>
      have blankKept : ∀ {c : Char} {output : List Char}, Unicode.isBlank c = true →
          ¬markers.opening <:+: output → ¬markers.opening <:+: [c] ++ output := by
        intro c output blank later occurs
        rcases List.infix_cons_iff.1 occurs with here | there
        · exact not_prefix_cons_of_blank marked.opening blank here
        · exact later there
      cases turn with
      | opens => exact ih
      | skipsLine => exact ih
      | keeps noBlock unmarked =>
          intro occurs
          rcases List.infix_cons_iff.1 occurs with here | there
          · apply opening_not_kept marked firm last noBlock
            rw [stripFrom_kept marked noBlock unmarked]
            exact here
          · exact ih there
      | closes => exact ih
      | closesFused => exact blankKept (by decide) ih
      | keepsNewline => exact blankKept (by decide) ih
      | drops => exact ih

/-- An `=` behind `!` is kept. -/
theorem head?_of_bang {last : Option Char} {text : List Char} (bang : style.lineMarker = ['!'])
    (equals : text.head? = some '=') : (stripFrom style false last text).head? = some '=' := by
  rcases List.head?_eq_some_iff.1 equals with ⟨more, rfl⟩
  have noBlock : ¬markers.opening <+: '=' :: more := by
    intro starts
    refine firm (.notEqual bang ?_)
    rcases List.prefix_cons_iff.1 starts with empty | ⟨others, same, -⟩
    · exact absurd empty marked.opening.nonempty
    · rw [same, List.head?_cons]
  have unmarked : opensLineComment style.lineMarker last ('=' :: more) = false := by
    simp [opensLineComment, bang, Text.startsWith, Text.after?]
  rw [stripFrom_kept marked noBlock unmarked, List.head?_cons]

/-- A kept character opens no line comment in the output if it opened none in the text. -/
theorem unmarked_of_kept {last : Option Char} {c : Char} {rest : List Char}
    (noBlock : ¬markers.opening <+: c :: rest)
    (unmarked : opensLineComment style.lineMarker last (c :: rest) = false) :
    opensLineComment style.lineMarker last (c :: stripFrom style false (some c) rest) = false := by
  have kept := stripFrom_kept marked noBlock unmarked
  by_contra opens
  rw [Bool.not_eq_false, opensLineComment_iff] at opens
  rcases opens with ⟨nonempty, starts, blank, notBang⟩
  have free : ¬markers.opening <:+: style.lineMarker := by
    intro occurs
    apply opening_not_infix marked firm false last (c :: rest)
    rw [kept]
    exact occurs.trans starts.isInfix
  by_cases stands : style.lineMarker <+: c :: rest
  · have isBang : style.lineMarker = ['!'] ∧ rest.head? = some '=' := by
      by_contra other
      rw [← Bool.not_eq_true, opensLineComment_iff] at unmarked
      exact unmarked ⟨nonempty, stands, blank, other⟩
    exact notBang ⟨isBang.1, head?_of_bang marked firm isBang.1 isBang.2⟩
  · apply line_not_kept marked firm last free noBlock stands
    rw [kept]
    exact starts

/-- The loop keeps its own output as it is. -/
theorem stripFrom_stripFrom (inBlock : Bool) (last : Option Char) (text : List Char) :
    stripFrom style false last (stripFrom style inBlock last text) =
      stripFrom style inBlock last text := by
  induction inBlock, last, text using stripFrom_induction marked with
  | nil => rw [stripFrom]
  | turn inBlock last text kept cursor turn ih =>
      cases turn with
      | opens => exact ih
      | skipsLine => exact ih
      | @keeps _ c rest noBlock unmarked =>
          have noBlock' : ¬markers.opening <+: c :: stripFrom style false (some c) rest := by
            intro starts
            apply opening_not_kept marked firm last noBlock
            rw [stripFrom_kept marked noBlock unmarked]
            exact starts
          have unmarked' := unmarked_of_kept marked firm noBlock unmarked
          exact (stripFrom_kept marked noBlock' unmarked').trans (congrArg (c :: ·) ih)
      | closes => exact ih
      | closesFused =>
          exact (stripFrom_blank_cons marked (by decide) last _).trans (congrArg (' ' :: ·) ih)
      | keepsNewline =>
          exact (stripFrom_blank_cons marked (by decide) last _).trans (congrArg ('\n' :: ·) ih)
      | drops => exact ih

end Runs

end CrossArch.Comment
