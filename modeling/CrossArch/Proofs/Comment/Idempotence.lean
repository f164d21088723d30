import CrossArch.Proofs.Comment.Rejoin

/-!
# When stripping is idempotent

A marker that comes together again gives a text that stripping changes twice: put a block comment
where the marker may be cut. So stripping a second time changes nothing, whatever the text, exactly
if none of the markers comes together again.
-/

namespace CrossArch.Comment

theorem not_prefix_cons_of_head? {marker rest : List Char} {c : Char} (nonempty : marker ≠ [])
    (other : marker.head? ≠ some c) : ¬marker <+: c :: rest := by
  intro starts
  rcases List.prefix_cons_iff.1 starts with empty | ⟨more, same, -⟩
  · exact nonempty empty
  · simp [same] at other

theorem opensLineComment_behind {marker rest : List Char} {c : Char}
    (notBlank : Unicode.isBlank c = false) : opensLineComment marker (some c) rest = false := by
  simp [opensLineComment, notBlank]

theorem ReadBehind.not_early {opening front after more : List Char}
    (readBehind : ReadBehind opening front) (isSuffix : after <:+ front) (nonempty : after ≠ []) :
    ¬opening <+: after ++ (opening ++ more) := by
  intro starts
  apply readBehind after isSuffix nonempty
  rw [← List.append_assoc] at starts
  exact List.prefix_of_prefix_length_le starts (List.prefix_append _ _) (by simp)

theorem ReadBehind.tail {opening front : List Char} {c : Char}
    (readBehind : ReadBehind opening (c :: front)) : ReadBehind opening front := by
  intro after isSuffix
  exact readBehind after (isSuffix.trans (List.suffix_cons c front))

/-- A marker that is cut behind its second character does not fuse there. -/
theorem fusesMarker_eq_false_of_long {front back : List Char} (long : 2 ≤ front.length) :
    fusesMarker front.getLast? back (front ++ back) = false := by
  by_contra fused
  rw [Bool.not_eq_false, fusesMarker_iff] at fused
  rcases fused with ⟨c, more, -, whole, -, within⟩
  have lengths := congrArg List.length whole
  have shorter := within.length_le
  simp only [List.length_append, List.length_cons] at lengths
  omega

/-- A marker that does not occur in two texts together does not fuse between them. -/
theorem fusesMarker_eq_false_of_free {front back marker : List Char}
    (free : ¬marker <:+: front ++ back) : fusesMarker front.getLast? back marker = false := by
  by_contra fused
  rw [Bool.not_eq_false, fusesMarker_iff] at fused
  rcases fused with ⟨last, more, isLast, rfl, -, within⟩
  rcases List.getLast?_eq_some_iff.1 isLast with ⟨before, rfl⟩
  apply free
  rw [List.append_assoc]
  exact ((List.prefix_append_right_inj [last]).2 within).isInfix.trans
    (List.suffix_append before _).isInfix

/-- Of three letters, one starts neither of two markers. -/
theorem exists_other_char (marker marker' : List Char) :
    ∃ c, Unicode.isBlank c = false ∧ marker.head? ≠ some c ∧ marker'.head? ≠ some c := by
  by_cases isA : marker.head? ≠ some 'a' ∧ marker'.head? ≠ some 'a'
  · exact ⟨'a', by decide, isA⟩
  by_cases isB : marker.head? ≠ some 'b' ∧ marker'.head? ≠ some 'b'
  · exact ⟨'b', by decide, isB⟩
  refine ⟨'c', by decide, ?_⟩
  rw [not_and_or, not_not, not_not] at isA isB
  rcases isA with isA | isA <;> rcases isB with isB | isB <;> simp_all

section Texts

variable {style : Style} {markers : BlockMarkers} (marked : style.HasMarkers markers)
include marked

theorem stripFrom_block {last : Option Char} {after : List Char}
    (apart : style.leavesSpace last after = false) :
    stripFrom style false last (markers.opening ++ ' ' :: (markers.closing ++ after)) =
      stripFrom style false last after := by
  have unclosed : ¬markers.closing <+: ' ' :: (markers.closing ++ after) :=
    not_prefix_cons_of_blank marked.closing (by decide)
  calc stripFrom style false last (markers.opening ++ ' ' :: (markers.closing ++ after))
    _ = stripFrom style true last (' ' :: (markers.closing ++ after)) :=
        (Turn.opens rfl).stripFrom_eq marked
    _ = stripFrom style true last (markers.closing ++ after) :=
        (Turn.drops unclosed (by decide)).stripFrom_eq marked
    _ = stripFrom style false last after := (Turn.closes rfl apart).stripFrom_eq marked

/-- Behind a character that is no blank, the loop keeps what stands before an opening marker. -/
theorem stripFrom_front {a : Char} {front : List Char} (more : List Char)
    (notBlank : Unicode.isBlank a = false) (noBlank : ∀ c ∈ front, Unicode.isBlank c = false)
    (readBehind : ReadBehind markers.opening front) :
    stripFrom style false (some a) (front ++ (markers.opening ++ more)) =
      front ++ stripFrom style false (front.getLast?.or (some a)) (markers.opening ++ more) := by
  induction front generalizing a with
  | nil => rfl
  | cons c front ih =>
      have noBlock : ¬markers.opening <+: c :: (front ++ (markers.opening ++ more)) :=
        readBehind.not_early List.suffix_rfl (List.cons_ne_nil c front)
      rw [List.cons_append, stripFrom_kept marked noBlock (opensLineComment_behind notBlank),
        ih (noBlank c List.mem_cons_self) (fun d mem => noBlank d (List.mem_cons_of_mem c mem))
          readBehind.tail, getLast?_cons_or, List.cons_append]

theorem stripFrom_free {a : Char} {text : List Char} (notBlank : Unicode.isBlank a = false)
    (noBlank : ∀ c ∈ text, Unicode.isBlank c = false) (free : ¬markers.opening <:+: text) :
    stripFrom style false (some a) text = text := by
  induction text generalizing a with
  | nil => rw [stripFrom]
  | cons c rest ih =>
      rw [List.infix_cons_iff, not_or] at free
      rw [stripFrom_kept marked free.1 (opensLineComment_behind notBlank),
        ih (noBlank c List.mem_cons_self) (fun d mem => noBlank d (List.mem_cons_of_mem c mem))
          free.2]

/-- A word that a block comment cuts, unseen, comes together again. -/
theorem stripFrom_cut {a : Char} {front back : List Char} (notBlank : Unicode.isBlank a = false)
    (noBlank : ∀ c ∈ front ++ back, Unicode.isBlank c = false)
    (readBehind : ReadBehind markers.opening front)
    (apart : style.leavesSpace (front.getLast?.or (some a)) back = false)
    (free : ¬markers.opening <:+: back) :
    stripFrom style false (some a)
        (front ++ (markers.opening ++ ' ' :: (markers.closing ++ back))) = front ++ back := by
  obtain ⟨last, isLast, lastNotBlank⟩ : ∃ last, front.getLast?.or (some a) = some last ∧
      Unicode.isBlank last = false := by
    cases behind : front.getLast? with
    | none => exact ⟨a, rfl, notBlank⟩
    | some last =>
        have mem := List.mem_of_getLast? behind
        exact ⟨last, rfl, noBlank last (List.mem_append_left back mem)⟩
  rw [stripFrom_front marked _ notBlank (fun c mem => noBlank c (List.mem_append_left back mem))
    readBehind, stripFrom_block marked apart, isLast,
    stripFrom_free marked lastNotBlank (fun c mem => noBlank c (List.mem_append_right front mem))
      free]

/-- The opening marker, cut where it comes together again. -/
theorem exists_text_of_cut_opening {front back : List Char}
    (whole : markers.opening = front ++ back) (long : 2 ≤ front.length)
    (readBehind : ReadBehind markers.opening front)
    (apart : fusesMarker front.getLast? back style.lineMarker = false) :
    ∃ text, strip style (strip style text) ≠ strip style text := by
  obtain ⟨x, notBlank, notOpening, notLine⟩ := exists_other_char markers.opening style.lineMarker
  -- Any text starts with `x`, so `x` is kept and no line comment opens behind it.
  have kept : ∀ rest, strip style (x :: rest) = x :: stripFrom style false (some x) rest := by
    intro rest
    have unmarked : opensLineComment style.lineMarker none (x :: rest) = false := by
      rw [← Bool.not_eq_true, opensLineComment_iff]
      intro opens
      exact not_prefix_cons_of_head? marked.line.nonempty notLine opens.2.1
    exact stripFrom_kept marked (not_prefix_cons_of_head? marked.opening.nonempty notOpening)
      unmarked
  have sameLast : front.getLast?.or (some x) = front.getLast? := by
    cases behind : front.getLast? with
    | none => simp [List.getLast?_eq_none_iff.1 behind] at long
    | some last => rfl
  have noSpace : style.leavesSpace (front.getLast?.or (some x)) back = false := by
    rw [leavesSpace_eq marked, sameLast, apart, whole, fusesMarker_eq_false_of_long long]
    rfl
  have free : ¬markers.opening <:+: back := by
    intro occurs
    have shorter := occurs.length_le
    simp only [whole, List.length_append] at shorter
    omega
  have noBlank : ∀ c ∈ front ++ back, Unicode.isBlank c = false := by
    rw [← whole]
    exact marked.opening.noBlank
  refine ⟨x :: (front ++ (markers.opening ++ ' ' :: (markers.closing ++ back))), ?_⟩
  have once := stripFrom_cut marked notBlank noBlank readBehind noSpace free
  have twice : stripFrom style false (some x) markers.opening = stripFrom style true (some x) [] :=
    (Turn.opens (List.append_nil _).symm).stripFrom_eq marked
  rw [kept, once, kept, ← whole, twice, stripFrom]
  simp [marked.opening.nonempty]

/-- A line marker alone is a comment. -/
theorem strip_lineMarker (noBlock : ¬markers.opening <+: style.lineMarker) :
    strip style style.lineMarker = [] := by
  have opens : opensLineComment style.lineMarker none style.lineMarker = true := by
    rw [opensLineComment_iff]
    refine ⟨marked.line.nonempty, List.prefix_rfl, rfl, ?_⟩
    rintro ⟨bang, equals⟩
    simp [bang] at equals
  have dropped : style.lineMarker.dropWhile (· != '\n') = [] := by
    rw [List.dropWhile_eq_nil_iff]
    intro c mem
    have notBlank := marked.line.noBlank c mem
    rw [bne_iff_ne]
    rintro rfl
    exact absurd notBlank (by decide)
  cases text : style.lineMarker with
  | nil => exact absurd text marked.line.nonempty
  | cons c rest =>
      rw [text] at noBlock dropped
      have skipped : strip style (c :: rest) =
          stripFrom style false none ((c :: rest).dropWhile (· != '\n')) :=
        (Turn.skipsLine noBlock (by rwa [text] at opens ⊢)).stripFrom_eq marked
      rw [skipped, dropped, stripFrom]

/-- The line marker, cut where it comes together again. -/
theorem exists_text_of_cut_line {front back : List Char}
    (whole : style.lineMarker = front ++ back) (long : 2 ≤ front.length)
    (readBehind : ReadBehind markers.opening front) (unmarked : ¬back <+: markers.opening)
    (free : ¬markers.opening <:+: style.lineMarker) :
    ∃ text, strip style (strip style text) ≠ strip style text := by
  rcases front with _ | ⟨c, front⟩
  · simp at long
  have noBlank : ∀ d ∈ c :: front ++ back, Unicode.isBlank d = false := by
    rw [← whole]
    exact marked.line.noBlank
  have noSpace : style.leavesSpace (front.getLast?.or (some c)) back = false := by
    have notOpening := fusesMarker_eq_false_of_free (by rwa [← whole])
    rw [leavesSpace_eq marked, ← getLast?_cons_or c front none, Option.or_none, notOpening, whole,
      fusesMarker_eq_false_of_long long]
    rfl
  have freeBack : ¬markers.opening <:+: back := by
    intro occurs
    apply free
    rw [whole]
    exact occurs.trans (List.suffix_append _ back).isInfix
  have noBlock : ¬markers.opening <+:
      c :: (front ++ (markers.opening ++ ' ' :: (markers.closing ++ back))) :=
    readBehind.not_early List.suffix_rfl (List.cons_ne_nil c front)
  have notMarked : opensLineComment style.lineMarker none
      (c :: (front ++ (markers.opening ++ ' ' :: (markers.closing ++ back)))) = false := by
    rw [← Bool.not_eq_true, opensLineComment_iff]
    rintro ⟨-, starts, -⟩
    have noSpace : ' ' ∉ style.lineMarker := by
      intro mem
      exact absurd (marked.line.noBlank ' ' mem) (by decide)
    rw [← List.append_assoc, ← List.cons_append] at starts
    have within := Text.prefix_of_prefix_append_cons noSpace starts
    rw [whole, ← List.cons_append, List.prefix_append_right_inj] at within
    exact unmarked within
  have kept : strip style (c :: (front ++ (markers.opening ++ ' ' :: (markers.closing ++ back)))) =
      style.lineMarker := by
    rw [strip, stripFrom_kept marked noBlock notMarked,
      stripFrom_cut marked (noBlank c List.mem_cons_self)
        (fun d mem => noBlank d (List.mem_cons_of_mem c mem)) readBehind.tail noSpace freeBack,
        whole,
      List.cons_append]
  refine ⟨c :: (front ++ (markers.opening ++ ' ' :: (markers.closing ++ back))), ?_⟩
  rw [kept, strip_lineMarker marked fun starts => free starts.isInfix]
  exact Ne.symm marked.line.nonempty

/-- A block comment that begins with the `=` behind `!`. -/
theorem exists_text_of_notEqual (bang : style.lineMarker = ['!'])
    (equals : markers.opening.head? = some '=') :
    ∃ text, strip style (strip style text) ≠ strip style text := by
  rcases List.head?_eq_some_iff.1 equals with ⟨more, opening⟩
  have noBlock : ∀ rest, ¬markers.opening <+: '!' :: rest := by
    intro rest
    apply not_prefix_cons_of_head? marked.opening.nonempty
    simp [equals]
  have notMarked : opensLineComment style.lineMarker none
      ('!' :: (markers.opening ++ ' ' :: (markers.closing ++ []))) = false := by
    simp [opensLineComment, bang, opening]
  have noSpace : style.leavesSpace (some '!') [] = false := by
    rw [leavesSpace_eq marked, Bool.or_eq_false_iff, ← Bool.not_eq_true, ← Bool.not_eq_true,
      fusesMarker_iff, fusesMarker_iff]
    simp
  have kept : strip style ('!' :: (markers.opening ++ ' ' :: (markers.closing ++ []))) =
      style.lineMarker := by
    rw [strip, stripFrom_kept marked (noBlock _) notMarked, stripFrom_block marked noSpace,
      stripFrom, bang]
  refine ⟨'!' :: (markers.opening ++ ' ' :: (markers.closing ++ [])), ?_⟩
  rw [kept, strip_lineMarker marked (bang ▸ noBlock [])]
  exact Ne.symm marked.line.nonempty

end Texts

/-- Markers of up to two characters can only be cut where the loop looks. -/
theorem not_rejoins_of_short {line opening : List Char} (shortLine : line.length ≤ 2)
    (shortOpening : opening.length ≤ 2) (nonempty : opening ≠ [])
    (apart : line = ['!'] → opening.head? ≠ some '=') : ¬Rejoins line opening := by
  have nothingBehind : ∀ {front back : List Char}, 2 ≤ front.length → (front ++ back).length ≤ 2 →
      back = [] := by
    intro front back long short
    rw [List.length_append] at short
    exact List.eq_nil_of_length_eq_zero (by omega)
  intro rejoins
  cases rejoins with
  | opening front back whole long readBehind _ =>
      obtain rfl := nothingBehind long (whole ▸ shortOpening)
      rw [List.append_nil] at whole
      subst whole
      exact readBehind opening List.suffix_rfl nonempty (List.prefix_append _ _)
  | line front back whole long _ unmarked _ =>
      obtain rfl := nothingBehind long (whole ▸ shortLine)
      exact unmarked List.nil_prefix
  | notEqual bang equals => exact apart bang equals

/--
Stripping a second time changes nothing, whatever the text, exactly if no marker comes together
again when a block comment within it is dropped. The closing marker does not matter.
-/
theorem strip_idempotent_iff {style : Style} {markers : BlockMarkers}
    (marked : style.HasMarkers markers) :
    (∀ text, strip style (strip style text) = strip style text) ↔
      ¬Rejoins style.lineMarker markers.opening := by
  constructor
  · intro idempotent rejoins
    obtain ⟨text, changes⟩ : ∃ text, strip style (strip style text) ≠ strip style text := by
      cases rejoins with
      | opening front back whole long readBehind apart =>
          exact exists_text_of_cut_opening marked whole long readBehind apart
      | line front back whole long readBehind unmarked free =>
          exact exists_text_of_cut_line marked whole long readBehind unmarked free
      | notEqual bang equals => exact exists_text_of_notEqual marked bang equals
    exact changes (idempotent text)
  · intro firm text
    exact stripFrom_stripFrom marked firm false none text

/-- The markers `<!--` and `-->`. -/
def angleDash : BlockMarkers :=
  ⟨['<', '!', '-', '-'], ['-', '-', '>'], by decide⟩

/-- Line comments after `#`, block comments between `<!--` and `-->`. -/
def markupStyle : Style where
  lineMarker := makeStyle.lineMarker
  block := some angleDash
  startsInLine := makeStyle.startsInLine

/-- The short markers of C are firm; `<!--` comes together again when it is cut behind `<!`. -/
theorem strip_idempotent_cStyle_not_markupStyle :
    ((∃ markers, cStyle.HasMarkers markers) ∧
        ∀ text, strip cStyle (strip cStyle text) = strip cStyle text) ∧
      (markupStyle.HasMarkers angleDash ∧
        ¬∀ text, strip markupStyle (strip markupStyle text) = strip markupStyle text) := by
  have marked : cStyle.HasMarkers ⟨['/', '*'], ['*', '/'], by decide⟩ :=
    ⟨rfl, by decide, by decide, by decide⟩
  have marked' : markupStyle.HasMarkers angleDash := ⟨rfl, by decide, by decide, by decide⟩
  refine ⟨⟨⟨_, marked⟩, (strip_idempotent_iff marked).2 ?_⟩, marked', ?_⟩
  · exact not_rejoins_of_short (by decide) (by decide) (by decide) (by decide)
  · intro idempotent
    refine (strip_idempotent_iff marked').1 idempotent ?_
    exact .opening ['<', '!'] ['-', '-'] rfl (by decide) (by decide) (by decide)

/-- What is left of `<!--` around a block comment opens another one the second time. -/
theorem strip_twice_markupStyle :
    markupStyle.HasMarkers angleDash ∧
      strip markupStyle "<!<!-- x -->--y".toList = "<!--y".toList ∧
      strip markupStyle (strip markupStyle "<!<!-- x -->--y".toList) ≠
        strip markupStyle "<!<!-- x -->--y".toList := by
  refine ⟨⟨rfl, by decide, by decide, by decide⟩, ?_, ?_⟩
  · decide +kernel
  · decide +kernel

end CrossArch.Comment
