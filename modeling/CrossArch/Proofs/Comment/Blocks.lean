import CrossArch.Comment
import CrossArch.Proofs.Text.Line
import Mathlib.Data.List.Infix
import Mathlib.Data.List.TakeWhile

/-!
# What stripping removes from a C text

`Cleared` says what the loop does to a C text comment by comment: it keeps a character, drops a line
comment up to the end of its line, or drops a block comment but for the newlines in its body. Where
a slash and a slash or a star would come together over a dropped block, a space is left.

So a piece of the stripped text that lies on one line is written in the text with whole block
comments between its characters and nothing else. `Interrupted` is that relation.
-/

namespace CrossArch.Comment

/-- The text of a block comment. -/
def blockComment (body : List Char) : List Char :=
  '/' :: '*' :: (body ++ ['*', '/'])

/-- Whether a text contains no marker that closes a block comment. -/
def isBody : List Char → Bool
  | [] => true
  | c :: rest => !(c == '*' && rest.head? == some '/') && isBody rest

/-- The newlines of a text, which stay when the text is dropped. -/
def breaks (text : List Char) : List Char :=
  text.filter (· == '\n')

/-- The last character that is kept when the body of a block comment has been dropped. -/
def lastKept (last : Option Char) (body : List Char) : Option Char :=
  if '\n' ∈ body then some '\n' else last

/-- Whether a character may follow a slash in a marker. -/
def followsSlash (c : Char) : Bool :=
  c == '/' || c == '*'

/-- Whether the last kept character and the rest would together start with a marker. -/
def fuses (last : Option Char) (rest : List Char) : Bool :=
  last.any (· == '/') && rest.head?.any followsSlash

/-- The same where a side may be unknown; it is then taken to be the piece that is missing. -/
def mayFuse (last : Option Char) (rest : List Char) : Bool :=
  last.all (· == '/') && rest.head?.all followsSlash

theorem isBody_cons {c : Char} {rest : List Char} :
    isBody (c :: rest) = true ↔ ¬(c = '*' ∧ rest.head? = some '/') ∧ isBody rest = true := by
  simp [isBody, imp_iff_not_or]

theorem pair_prefix_cons_iff {a b c : Char} {rest : List Char} :
    [a, b] <+: c :: rest ↔ c = a ∧ rest.head? = some b := by
  cases rest <;> simp [List.cons_prefix_cons, eq_comm]

theorem isBody_iff {text : List Char} : isBody text = true ↔ ¬['*', '/'] <:+: text := by
  induction text with
  | nil => simp [isBody]
  | cons c rest ih => rw [isBody_cons, ih, List.infix_cons_iff, pair_prefix_cons_iff, not_or]

/-- A text that contains the closing marker has a body before the first one. -/
theorem exists_body {text : List Char} (closing : isBody text = false) :
    ∃ body after, text = body ++ '*' :: '/' :: after ∧ isBody body = true := by
  induction text with
  | nil => simp [isBody] at closing
  | cons c rest ih =>
      by_cases closes : c = '*' ∧ rest.head? = some '/'
      · rcases closes with ⟨rfl, slash⟩
        rcases List.head?_eq_some_iff.1 slash with ⟨after, rfl⟩
        exact ⟨[], after, rfl, rfl⟩
      · have later : isBody rest = false := by
          by_contra bodyRest
          rw [isBody_cons.2 ⟨closes, by simpa using bodyRest⟩] at closing
          simp at closing
        rcases ih later with ⟨body, after, rfl, noClosing⟩
        refine ⟨c :: body, after, rfl, isBody_cons.2 ⟨?_, noClosing⟩⟩
        rintro ⟨star, slash⟩
        exact closes ⟨star, by simp [slash]⟩

@[simp]
theorem breaks_newline_cons (rest : List Char) : breaks ('\n' :: rest) = '\n' :: breaks rest := by
  simp [breaks]

theorem breaks_cons {c : Char} (notNewline : c ≠ '\n') (rest : List Char) :
    breaks (c :: rest) = breaks rest := by
  simp [breaks, notNewline]

theorem breaks_eq_nil {text : List Char} (noNewline : '\n' ∉ text) : breaks text = [] := by
  apply List.filter_eq_nil_iff.2
  intro c mem
  simpa using ne_of_mem_of_not_mem mem noNewline

theorem breaks_eq_replicate (text : List Char) :
    breaks text = List.replicate (Text.newlines text) '\n' :=
  List.filter_beq '\n'

theorem newlines_breaks (text : List Char) : Text.newlines (breaks text) = Text.newlines text := by
  simp [Text.newlines, breaks, List.count_filter]

theorem fusesMarker_cStyle (last : Option Char) (rest : List Char) :
    ((cStyle.block.any fun markers => fusesMarker last rest markers.opening) ||
      fusesMarker last rest cStyle.lineMarker) = fuses last rest := by
  cases last with
  | none => rfl
  | some c =>
      cases rest with
      | nil => simp [cStyle, fusesMarker, fuses, Text.startsWith, Text.after?]
      | cons d rest =>
          have fusesWith : ∀ second : Char, fusesMarker (some c) (d :: rest) ['/', second] =
              (c == '/' && d == second) := by
            intro second
            rw [fusesMarker, Text.startsWith, Text.after?, Bool.beq_comm]
            by_cases same : second = d
            · simp [same, Text.after?]
            · simp [same, Ne.symm same]
          simp only [cStyle, Option.any_some, fusesWith, fuses, List.head?_cons, followsSlash]
          cases c == '/' <;> simp [Bool.or_comm]

section Turns

variable {last : Option Char} {rest : List Char}

/-- At the closing marker a turn leaves the comment, with a space where a marker would arise. -/
theorem step_closing (last : Option Char) (after : List Char) :
    step cStyle true last '*' ('/' :: after) =
      if fuses last after then ([' '], ⟨false, some ' ', after⟩)
        else ([], ⟨false, last, after⟩) := by
  have closes : (cStyle.block.bind fun markers =>
      Text.after? markers.closing ('*' :: '/' :: after)) = some after := by
    simp [cStyle, Text.after?]
  simp only [step, if_true, insideBlock, closes, fusesMarker_cStyle]

/-- Inside a block comment a turn keeps only a newline. -/
theorem step_inside {c : Char} (staysOpen : ¬(c = '*' ∧ rest.head? = some '/')) :
    step cStyle true last c rest =
      if c = '\n' then (['\n'], ⟨true, some '\n', rest⟩) else ([], ⟨true, last, rest⟩) := by
  have notClosing : (cStyle.block.bind fun markers =>
      Text.after? markers.closing (c :: rest)) = none := by
    by_contra closing
    rcases Option.ne_none_iff_exists'.1 closing with ⟨after, closed⟩
    have same := Text.after?_eq_some_iff.1 closed
    cases same
    exact staysOpen ⟨rfl, rfl⟩
  simp only [step, if_true, insideBlock, notClosing]

theorem step_opening (last : Option Char) (rest : List Char) :
    step cStyle false last '/' ('*' :: rest) = ([], ⟨true, last, rest⟩) :=
  rfl

/-- Outside block comments a turn drops a line comment or keeps a character. -/
theorem step_outside {c : Char} (notOpening : ¬(c = '/' ∧ rest.head? = some '*')) :
    step cStyle false last c rest =
      if opensLineComment cStyle.lineMarker last (c :: rest) then
        ([], ⟨false, last, (c :: rest).dropWhile (· != '\n')⟩)
      else ([c], ⟨false, some c, rest⟩) := by
  have opensNoBlock : (cStyle.block.bind fun markers =>
      Text.after? markers.opening (c :: rest)) = none := by
    by_contra opening
    rcases Option.ne_none_iff_exists'.1 opening with ⟨after, opened⟩
    have same := Text.after?_eq_some_iff.1 opened
    cases same
    exact notOpening ⟨rfl, rfl⟩
  simp only [step, Bool.false_eq_true, if_false, outsideBlock, opensNoBlock]

theorem stripFrom_closing (last : Option Char) (after : List Char) :
    stripFrom cStyle true last ('*' :: '/' :: after) =
      if fuses last after then ' ' :: stripFrom cStyle false (some ' ') after
      else stripFrom cStyle false last after := by
  rw [stripFrom, step_closing]
  split <;> rfl

theorem stripFrom_inside {c : Char} (staysOpen : ¬(c = '*' ∧ rest.head? = some '/')) :
    stripFrom cStyle true last (c :: rest) =
      if c = '\n' then '\n' :: stripFrom cStyle true (some '\n') rest
      else stripFrom cStyle true last rest := by
  rw [stripFrom, step_inside staysOpen]
  split <;> rfl

theorem stripFrom_opening (last : Option Char) (rest : List Char) :
    stripFrom cStyle false last ('/' :: '*' :: rest) = stripFrom cStyle true last rest := by
  rw [stripFrom, step_opening]
  rfl

theorem stripFrom_outside {c : Char} (notOpening : ¬(c = '/' ∧ rest.head? = some '*')) :
    stripFrom cStyle false last (c :: rest) =
      if opensLineComment cStyle.lineMarker last (c :: rest) then
        stripFrom cStyle false last ((c :: rest).dropWhile (· != '\n'))
      else c :: stripFrom cStyle false (some c) rest := by
  rw [stripFrom, step_outside notOpening]
  split <;> rfl

end Turns

section Blocks

theorem lastKept_cons {c : Char} (notNewline : c ≠ '\n') (last : Option Char) (body : List Char) :
    lastKept last (c :: body) = lastKept last body := by
  simp [lastKept, Ne.symm notNewline]

theorem lastKept_newline_cons (last : Option Char) (body : List Char) :
    lastKept last ('\n' :: body) = lastKept (some '\n') body := by
  simp [lastKept]

theorem lastKept_eq (last : Option Char) (body : List Char) :
    lastKept last body = if Text.newlines body = 0 then last else some '\n' := by
  simp [lastKept, Text.newlines, List.count_eq_zero]

/-- A closed block comment leaves its newlines, and a space where a marker would arise. -/
theorem stripFrom_closed {body : List Char} (noClosing : isBody body = true) (last : Option Char)
    (after : List Char) :
    stripFrom cStyle true last (body ++ '*' :: '/' :: after) =
      breaks body ++
        if fuses (lastKept last body) after then ' ' :: stripFrom cStyle false (some ' ') after
        else stripFrom cStyle false (lastKept last body) after := by
  induction body generalizing last with
  | nil => exact stripFrom_closing last after
  | cons c body ih =>
      rcases isBody_cons.1 noClosing with ⟨staysOpen, bodyRest⟩
      have notClosing : ¬(c = '*' ∧ (body ++ '*' :: '/' :: after).head? = some '/') := by
        cases body with
        | nil => simp
        | cons d more => exact staysOpen
      rw [List.cons_append, stripFrom_inside notClosing]
      by_cases newline : c = '\n'
      · subst newline
        rw [if_pos rfl, ih bodyRest, lastKept_newline_cons, breaks_newline_cons, List.cons_append]
      · rw [if_neg newline, ih bodyRest, lastKept_cons newline, breaks_cons newline]

/-- A block comment that is never closed leaves its newlines. -/
theorem stripFrom_unclosed {text : List Char} (noClosing : isBody text = true)
    (last : Option Char) :
    stripFrom cStyle true last text = breaks text := by
  induction text generalizing last with
  | nil =>
      rw [stripFrom]
      rfl
  | cons c rest ih =>
      rcases isBody_cons.1 noClosing with ⟨staysOpen, bodyRest⟩
      rw [stripFrom_inside staysOpen]
      by_cases newline : c = '\n'
      · subst newline
        rw [if_pos rfl, ih bodyRest, breaks_newline_cons]
      · rw [if_neg newline, ih bodyRest, breaks_cons newline]

end Blocks

/--
What a C text becomes, comment by comment, when its comments are dropped after the kept character
`last`.
-/
inductive Cleared : Option Char → List Char → List Char → Prop where
  | nil {last : Option Char} : Cleared last [] []
  | keep {last : Option Char} {kept text : List Char} (c : Char)
      (cleared : Cleared (some c) kept text) : Cleared last (c :: kept) (c :: text)
  | lineComment {last : Option Char} {kept text : List Char} (dropped : List Char)
      (inLine : '\n' ∉ dropped) (lineEnds : Text.endsLine text = true)
      (cleared : Cleared last kept text) : Cleared last kept (dropped ++ text)
  | block {last : Option Char} {kept text : List Char} (body : List Char)
      (noClosing : isBody body = true) (apart : fuses (lastKept last body) text = false)
      (cleared : Cleared (lastKept last body) kept text) :
      Cleared last (breaks body ++ kept) (blockComment body ++ text)
  | gap {last : Option Char} {kept text : List Char} (body : List Char)
      (noClosing : isBody body = true) (inLine : '\n' ∉ body) (fused : fuses last text = true)
      (cleared : Cleared (some ' ') kept text) :
      Cleared last (' ' :: kept) (blockComment body ++ text)
  | unclosed {last : Option Char} (body : List Char) :
      Cleared last (breaks body) ('/' :: '*' :: body)

theorem not_fuses_newline (rest : List Char) : fuses (some '\n') rest = false := by
  simp [fuses]

/-- A block comment over which a marker would arise lies on one line. -/
theorem not_mem_of_fuses {last : Option Char} {body rest : List Char}
    (fused : fuses (lastKept last body) rest = true) : '\n' ∉ body := by
  intro newline
  rw [lastKept, if_pos newline, not_fuses_newline] at fused
  simp at fused

theorem endsLine_dropWhile (text : List Char) :
    Text.endsLine (text.dropWhile (· != '\n')) = true := by
  induction text with
  | nil => rfl
  | cons c rest ih =>
      by_cases newline : c = '\n'
      · simp [newline, Text.endsLine]
      · simpa [newline] using ih

/-- The loop clears a C text. -/
theorem cleared_stripFrom (last : Option Char) (text : List Char) :
    Cleared last (stripFrom cStyle false last text) text := by
  -- The loop jumps over whole comments, so the induction is on the length of the text.
  induction size : text.length using Nat.strong_induction_on generalizing last text with
  | _ size' ih =>
      subst size
      match text with
      | [] =>
          rw [stripFrom]
          exact .nil
      | c :: rest =>
          by_cases opening : c = '/' ∧ rest.head? = some '*'
          · rcases opening with ⟨rfl, star⟩
            rcases List.head?_eq_some_iff.1 star with ⟨inside, rfl⟩
            rw [stripFrom_opening]
            by_cases unclosed : isBody inside = true
            · rw [stripFrom_unclosed unclosed]
              exact .unclosed inside
            · rcases exists_body (by simpa using unclosed) with ⟨body, after, rfl, noClosing⟩
              have whole : '/' :: '*' :: (body ++ '*' :: '/' :: after) =
                  blockComment body ++ after := by
                simp [blockComment]
              have shorter :
                  after.length < ('/' :: '*' :: (body ++ '*' :: '/' :: after)).length := by
                simp
                omega
              rw [stripFrom_closed noClosing, whole]
              split <;> rename_i fused
              · have inLine := not_mem_of_fuses fused
                rw [breaks_eq_nil inLine, List.nil_append]
                rw [lastKept, if_neg inLine] at fused
                exact .gap body noClosing inLine fused (ih _ shorter _ _ rfl)
              · exact .block body noClosing (by simpa using fused) (ih _ shorter _ _ rfl)
          · rw [stripFrom_outside opening]
            split <;> rename_i opens
            · have shorter := length_dropLineComment_lt cStyle last c rest opens
              have inLine : '\n' ∉ (c :: rest).takeWhile (· != '\n') := by
                intro newline
                simpa using List.mem_takeWhile_imp newline
              have cleared := Cleared.lineComment _ inLine (endsLine_dropWhile (c :: rest))
                (ih _ shorter last _ rfl)
              rwa [List.takeWhile_append_dropWhile] at cleared
            · exact .keep c (ih _ (by simp) _ _ rfl)

/--
A text on one line, and how it is written with block comments between its characters, after the
character `last`. A block comment stands for nothing, or for a space where a marker would arise.
-/
inductive Interrupted : Option Char → List Char → List Char → Prop where
  | nil {last : Option Char} : Interrupted last [] []
  | keep {last : Option Char} {shown written : List Char} (c : Char)
      (interrupted : Interrupted (some c) shown written) :
      Interrupted last (c :: shown) (c :: written)
  | block {last : Option Char} {shown written : List Char} (body : List Char)
      (noClosing : isBody body = true) (inLine : '\n' ∉ body) (apart : fuses last written = false)
      (interrupted : Interrupted last shown written) :
      Interrupted last shown (blockComment body ++ written)
  | gap {last : Option Char} {shown written : List Char} (body : List Char)
      (noClosing : isBody body = true) (inLine : '\n' ∉ body) (fused : mayFuse last written = true)
      (interrupted : Interrupted (some ' ') shown written) :
      Interrupted last (' ' :: shown) (blockComment body ++ written)

namespace Interrupted

variable {last : Option Char} {shown written : List Char}

theorem not_mem_newline (interrupted : Interrupted last shown written) (noNewline : '\n' ∉ shown) :
    '\n' ∉ written := by
  induction interrupted with
  | nil => exact noNewline
  | keep c _ ih =>
      rw [List.mem_cons, not_or] at noNewline ⊢
      exact ⟨noNewline.1, ih noNewline.2⟩
  | block body _ inLine _ _ ih =>
      simpa [blockComment, inLine] using ih noNewline
  | gap body _ inLine _ _ ih =>
      rw [List.mem_cons, not_or] at noNewline
      simpa [blockComment, inLine] using ih noNewline.2

/-- Without an opening marker a text is written as it is. -/
theorem eq_of_not_opening (interrupted : Interrupted last shown written)
    (notOpening : ¬['/', '*'] <:+: written) : written = shown := by
  induction interrupted with
  | nil => rfl
  | keep c _ ih =>
      rw [ih]
      intro opening
      exact notOpening (opening.trans (List.suffix_cons c _).isInfix)
  | @block _ _ written body =>
      exact absurd ⟨[], body ++ ['*', '/'] ++ written, by simp [blockComment]⟩ notOpening
  | @gap _ _ written body =>
      exact absurd ⟨[], body ++ ['*', '/'] ++ written, by simp [blockComment]⟩ notOpening

end Interrupted

theorem newlines_blockComment (body : List Char) :
    Text.newlines (blockComment body) = Text.newlines body := by
  simp [blockComment, Text.newlines]

section Edges

variable {last known : Option Char} {written after : List Char}

/-- What is known of the two sides of a block is enough to see that they do not fuse. -/
theorem not_fuses_of_known (agrees : known = none ∨ known = last)
    (apart : fuses last (written ++ after) = false) : fuses known written = false := by
  rcases agrees with rfl | rfl
  · rfl
  · cases written with
    | nil => simp [fuses]
    | cons c rest => exact apart

theorem mayFuse_of_known (agrees : known = none ∨ known = last)
    (fused : fuses last (written ++ after) = true) : mayFuse known written = true := by
  simp only [fuses, Bool.and_eq_true] at fused
  simp only [mayFuse, Bool.and_eq_true]
  constructor
  · rcases agrees with rfl | rfl
    · rfl
    · cases known <;> simp_all
  · cases written with
    | nil => rfl
    | cons c rest => simpa using fused.2

end Edges

section LineEnds

theorem eq_newline_of_mem_breaks {body : List Char} {c : Char} (mem : c ∈ breaks body) :
    c = '\n' := by
  simpa [breaks] using (List.mem_filter.1 mem).2

/-- The newlines of a comment do not reach into what starts inside a line. -/
theorem eq_nil_of_breaks {body front more back : List Char} (same : breaks body = front ++ more)
    (inLine : Text.endsLine (more ++ back) = false) : more = [] := by
  cases more with
  | nil => rfl
  | cons c more =>
      have mem : c ∈ breaks body := by simp [same]
      simp [eq_newline_of_mem_breaks mem, Text.endsLine] at inLine

/-- A piece of a line that stands where a line ends is empty. -/
theorem eq_nil_of_endsLine {piece back : List Char} (ends : Text.endsLine (piece ++ back) = true)
    (inLine : '\n' ∉ piece) : piece = [] := by
  cases piece with
  | nil => rfl
  | cons c rest =>
      simp only [Text.endsLine, List.cons_append, List.head?_cons, Option.all_some,
        beq_iff_eq] at ends
      simp [ends] at inLine

theorem endsLine_breaks {body : List Char} (newline : '\n' ∈ body) (back : List Char) :
    Text.endsLine (breaks body ++ back) = true := by
  by_contra inLine
  rw [Bool.not_eq_true] at inLine
  have empty := eq_nil_of_breaks (List.nil_append (breaks body)).symm inLine
  have kept : '\n' ∈ breaks body := List.mem_filter.2 ⟨newline, rfl⟩
  simp [empty] at kept

end LineEnds

namespace Cleared

variable {last : Option Char} {kept text : List Char}

/-- Where a line of the text ends, a line of what is kept of it ends. -/
theorem endsLine_kept (cleared : Cleared last kept text) (ends : Text.endsLine text = true) :
    Text.endsLine kept = true := by
  induction cleared with
  | nil => rfl
  | keep c _ _ => exact ends
  | lineComment dropped inLine lineEnds _ ih => exact ih lineEnds
  | block body => simp [Text.endsLine, blockComment] at ends
  | gap body => simp [Text.endsLine, blockComment] at ends
  | unclosed body => simp [Text.endsLine] at ends

/-- What is kept from inside a line on was read after as many newlines as were kept before it. -/
theorem after_front (cleared : Cleared last kept text) {front piece : List Char}
    (same : kept = front ++ piece) (inLine : Text.endsLine piece = false) :
    ∃ before after last', text = before ++ after ∧ Text.newlines before = Text.newlines front ∧
      Cleared last' piece after := by
  induction cleared generalizing front with
  | nil =>
      rcases List.append_eq_nil_iff.1 same.symm with ⟨-, rfl⟩
      simp [Text.endsLine] at inLine
  | @keep last kept text c cleared ih =>
      cases front with
      | nil =>
          rw [List.nil_append] at same
          exact ⟨[], c :: text, last, rfl, rfl, same ▸ cleared.keep c⟩
      | cons d front =>
          rw [List.cons_append, List.cons.injEq] at same
          rcases same with ⟨rfl, same⟩
          rcases ih same with ⟨before, after, last', rfl, counts, cleared'⟩
          refine ⟨c :: before, after, last', rfl, ?_, cleared'⟩
          rw [Text.newlines_cons_eq, counts, ← Text.newlines_cons_eq]
  | @lineComment last kept text dropped noNewline lineEnds cleared ih =>
      rcases ih same with ⟨before, after, last', rfl, counts, cleared'⟩
      refine ⟨dropped ++ before, after, last', by simp, ?_, cleared'⟩
      rw [Text.newlines_append, Text.newlines_eq_zero noNewline, Nat.zero_add, counts]
  | @block last kept text body noClosing apart cleared ih =>
      have front' : ∃ more, front = breaks body ++ more ∧ kept = more ++ piece := by
        rcases List.append_eq_append_iff.1 same with ⟨more, split, same'⟩ | ⟨more, split, same'⟩
        · exact ⟨more, split, same'⟩
        · have empty := eq_nil_of_breaks split (same' ▸ inLine)
          subst empty
          exact ⟨[], by simpa using split.symm, same'.symm⟩
      rcases front' with ⟨more, rfl, same'⟩
      rcases ih same' with ⟨before, after, last', rfl, counts, cleared'⟩
      refine ⟨blockComment body ++ before, after, last', by simp, ?_, cleared'⟩
      rw [Text.newlines_append, Text.newlines_append, counts, newlines_blockComment,
        newlines_breaks]
  | @gap last kept text body noClosing noNewline fused cleared ih =>
      cases front with
      | nil =>
          rw [List.nil_append] at same
          exact ⟨[], blockComment body ++ text, last, rfl, rfl,
            same ▸ cleared.gap body noClosing noNewline fused⟩
      | cons d front =>
          rw [List.cons_append, List.cons.injEq] at same
          rcases same with ⟨rfl, same⟩
          rcases ih same with ⟨before, after, last', rfl, counts, cleared'⟩
          refine ⟨blockComment body ++ before, after, last', by simp, ?_, cleared'⟩
          rw [Text.newlines_append, newlines_blockComment, Text.newlines_eq_zero noNewline,
            Nat.zero_add, counts, Text.newlines_cons (by decide)]
  | unclosed body =>
      have empty := eq_nil_of_breaks same (by rwa [List.append_nil])
      simp [empty, Text.endsLine] at inLine

/-- A piece of a line at the front of what is kept is written with block comments inside it. -/
theorem interrupted (cleared : Cleared last kept text) {piece back : List Char}
    (same : kept = piece ++ back) (inLine : '\n' ∉ piece) {known : Option Char}
    (agrees : known = none ∨ known = last) :
    ∃ written after, text = written ++ after ∧ Interrupted known piece written := by
  induction cleared generalizing piece known with
  | nil =>
      rcases List.append_eq_nil_iff.1 same.symm with ⟨rfl, -⟩
      exact ⟨[], [], rfl, .nil⟩
  | @keep last kept text c cleared ih =>
      cases piece with
      | nil => exact ⟨[], c :: text, rfl, .nil⟩
      | cons d piece =>
          rw [List.cons_append, List.cons.injEq] at same
          rcases same with ⟨rfl, same⟩
          rcases ih same (List.not_mem_of_not_mem_cons inLine) (Or.inr rfl) with
            ⟨written, after, rfl, interrupted⟩
          exact ⟨c :: written, after, rfl, interrupted.keep c⟩
  | @lineComment last kept text dropped noNewline lineEnds cleared ih =>
      have ends := cleared.endsLine_kept lineEnds
      rw [same] at ends
      rw [eq_nil_of_endsLine ends inLine]
      exact ⟨[], dropped ++ text, rfl, .nil⟩
  | @block last kept text body noClosing apart cleared ih =>
      by_cases newline : '\n' ∈ body
      · have ends := endsLine_breaks newline kept
        rw [same] at ends
        rw [eq_nil_of_endsLine ends inLine]
        exact ⟨[], blockComment body ++ text, rfl, .nil⟩
      · rw [breaks_eq_nil newline, List.nil_append] at same
        rw [lastKept, if_neg newline] at ih apart
        rcases ih same inLine agrees with ⟨written, after, rfl, interrupted⟩
        exact ⟨blockComment body ++ written, after, by simp,
          interrupted.block body noClosing newline (not_fuses_of_known agrees apart)⟩
  | @gap last kept text body noClosing noNewline fused cleared ih =>
      cases piece with
      | nil => exact ⟨[], blockComment body ++ text, rfl, .nil⟩
      | cons d piece =>
          rw [List.cons_append, List.cons.injEq] at same
          rcases same with ⟨rfl, same⟩
          rcases ih same (List.not_mem_of_not_mem_cons inLine) (Or.inr rfl) with
            ⟨written, after, rfl, interrupted⟩
          exact ⟨blockComment body ++ written, after, by simp,
            interrupted.gap body noClosing noNewline (mayFuse_of_known agrees fused)⟩
  | unclosed body =>
      have empty : piece = [] := by
        apply List.eq_nil_iff_forall_not_mem.2
        intro c mem
        have newline : c = '\n' := eq_newline_of_mem_breaks (same ▸ List.mem_append_left back mem)
        exact inLine (newline ▸ mem)
      rw [empty]
      exact ⟨[], '/' :: '*' :: body, rfl, .nil⟩

end Cleared

/--
A piece of a line of the stripped text is written on the line of the same number in the text, with
nothing but block comments between its characters.
-/
theorem exists_interrupted_of_strip {text front piece back : List Char}
    (stripped : strip cStyle text = front ++ piece ++ back) (nonempty : piece ≠ [])
    (inLine : '\n' ∉ piece) :
    ∃ line written, (line, Text.newlines front + 1) ∈ Text.numberedLines text ∧
      written <:+: line ∧ Interrupted none piece written := by
  have starts : Text.endsLine (piece ++ back) = false := by
    by_contra ends
    exact nonempty (eq_nil_of_endsLine (by simpa using ends) inLine)
  have cleared := cleared_stripFrom none text
  rw [List.append_assoc] at stripped
  rcases cleared.after_front stripped starts with ⟨before, after, last, rfl, counts, clearedPiece⟩
  rcases clearedPiece.interrupted rfl inLine (Or.inl rfl) with
    ⟨written, after', rfl, interrupted⟩
  rcases Text.exists_line_of_append before written after' (interrupted.not_mem_newline inLine) with
    ⟨line, numbered, onLine⟩
  rw [List.append_assoc, counts] at numbered
  exact ⟨line, written, numbered, onLine, interrupted⟩

end CrossArch.Comment
