import CrossArch.Proofs.Comment.Blocks

/-!
# The loop at a place of a text

`cursorAt` is where the loop stands when it comes to a place. A turn looks ahead by one character at
most, unless it drops a line comment, which ends in front of a newline. So how the loop comes to a
slash does not depend on what stands behind the slash: it keeps the same characters on the way, and
it reads the slash outside comments or it does not.
-/

namespace CrossArch.Comment

/-- Where the loop stands as soon as no more than `size` characters are left to read. -/
def cursorAt (style : Style) (size : Nat) (inBlock : Bool) (last : Option Char) :
    List Char → Cursor
  | [] => ⟨inBlock, last, []⟩
  | c :: rest =>
    if rest.length < size then ⟨inBlock, last, c :: rest⟩
    else
      let next := (step style inBlock last c rest).2
      cursorAt style size next.inBlock next.last next.rest
  termination_by text => style.measure inBlock text
  decreasing_by exact measure_step style inBlock last c rest

theorem cursorAt_of_length_le {style : Style} {size : Nat} {inBlock : Bool} {last : Option Char}
    {text : List Char} (near : text.length ≤ size) :
    cursorAt style size inBlock last text = ⟨inBlock, last, text⟩ := by
  cases text with
  | nil => rw [cursorAt]
  | cons c rest => rw [cursorAt, if_pos (Nat.lt_of_succ_le near)]

theorem cursorAt_cons {style : Style} {size : Nat} {inBlock : Bool} {last : Option Char} {c : Char}
    {rest : List Char} (far : size ≤ rest.length) :
    cursorAt style size inBlock last (c :: rest) =
      cursorAt style size (step style inBlock last c rest).2.inBlock
        (step style inBlock last c rest).2.last (step style inBlock last c rest).2.rest := by
  rw [cursorAt, if_neg (Nat.not_lt.2 far)]

/--
A marker behind a text is read outside comments: the loop comes to it, and not inside a block
comment nor by dropping a line comment that goes on over it.
-/
def ReadsMarker (front marker : List Char) : Prop :=
  (cursorAt cStyle marker.length false none (front ++ marker)).inBlock = false ∧
    (cursorAt cStyle marker.length false none (front ++ marker)).rest = marker

/-- An opening marker of block comments behind a text opens one. -/
def OpensBlock (front : List Char) : Prop :=
  ReadsMarker front ['/', '*']

/-- A line marker behind a text opens a line comment. -/
def OpensLine (front : List Char) : Prop :=
  ReadsMarker front ['/', '/'] ∧
    opensLineComment cStyle.lineMarker (cursorAt cStyle 2 false none (front ++ ['/', '/'])).last
      ['/', '/'] = true

instance (front marker : List Char) : Decidable (ReadsMarker front marker) :=
  inferInstanceAs (Decidable (_ ∧ _))

instance (front : List Char) : Decidable (OpensBlock front) :=
  inferInstanceAs (Decidable (ReadsMarker front ['/', '*']))

instance (front : List Char) : Decidable (OpensLine front) :=
  inferInstanceAs (Decidable (_ ∧ _))

theorem opensLineComment_cStyle (last : Option Char) (c : Char) (rest : List Char) :
    opensLineComment cStyle.lineMarker last (c :: rest) =
      (c == '/' && rest.head? == some '/' && last.all Unicode.isBlank) := by
  have marker : Text.startsWith (c :: rest) ['/', '/'] = (c == '/' && rest.head? == some '/') := by
    cases rest with
    | nil => by_cases slash : '/' = c <;> simp [Text.startsWith, Text.after?, slash]
    | cons d rest =>
        by_cases slash : c = '/' <;> by_cases slash' : d = '/' <;>
          simp [Text.startsWith, Text.after?, slash, slash', Ne.symm]
  have nonempty : (['/', '/'] != ([] : List Char)) = true := rfl
  simp [opensLineComment, cStyle, marker, nonempty]

section BeforeSlash

variable {inBlock : Bool} {last : Option Char} {c : Char} {more : List Char}

theorem head?_append_slash (more tail : List Char) :
    (more ++ '/' :: tail).head? = more.head?.or (some '/') := by
  cases more <;> rfl

theorem fuses_append_slash (last : Option Char) (more tail : List Char) :
    fuses last (more ++ '/' :: tail) = fuses last (more ++ ['/']) := by
  simp only [fuses, head?_append_slash]

/-- A turn goes on before a slash, in the same way whatever comes behind the slash. -/
def GoesOn (inBlock : Bool) (last : Option Char) (c : Char) (more : List Char) : Prop :=
  ∃ kept inBlock' last' more', more'.length ≤ more.length ∧
    ∀ tail, step cStyle inBlock last c (more ++ '/' :: tail) =
      (kept, ⟨inBlock', last', more' ++ '/' :: tail⟩)

/-- A turn reads a slash together with what stands before it. -/
def ReadsOver (inBlock : Bool) (last : Option Char) (c : Char) (more : List Char) : Prop :=
  ∀ tail, (step cStyle inBlock last c (more ++ '/' :: tail)).2.rest.length ≤ tail.length

theorem goesOn_or_readsOver_inside :
    GoesOn true last c more ∨ ReadsOver true last c more := by
  by_cases closes : c = '*' ∧ more.head?.or (some '/') = some '/'
  · rcases closes with ⟨rfl, slash⟩
    cases more with
    | nil =>
        right
        intro tail
        rw [List.nil_append, step_closing]
        split <;> exact Nat.le_refl _
    | cons d more =>
        left
        have isSlash : d = '/' := by simpa using slash
        subst isSlash
        by_cases fused : fuses last (more ++ ['/']) = true
        · refine ⟨[' '], false, some ' ', more, Nat.le_succ _, ?_⟩
          intro tail
          rw [List.cons_append, step_closing, fuses_append_slash, if_pos fused]
        · refine ⟨[], false, last, more, Nat.le_succ _, ?_⟩
          intro tail
          rw [List.cons_append, step_closing, fuses_append_slash, if_neg fused]
  · left
    have staysOpen : ∀ tail, ¬(c = '*' ∧ (more ++ '/' :: tail).head? = some '/') := by
      intro tail
      rwa [head?_append_slash]
    by_cases newline : c = '\n'
    · refine ⟨['\n'], true, some '\n', more, Nat.le_refl _, ?_⟩
      intro tail
      rw [step_inside (staysOpen tail), if_pos newline]
    · refine ⟨[], true, last, more, Nat.le_refl _, ?_⟩
      intro tail
      rw [step_inside (staysOpen tail), if_neg newline]

/-- A line comment that ends before the slash ends there whatever comes behind the slash. -/
theorem dropWhile_before_slash (newline : '\n' ∈ c :: more) (tail : List Char) :
    (c :: (more ++ '/' :: tail)).dropWhile (· != '\n') =
      (c :: more).dropWhile (· != '\n') ++ '/' :: tail := by
  rw [← List.cons_append, List.dropWhile_append, if_neg]
  intro empty
  have allDropped := List.dropWhile_eq_nil_iff.1 (List.isEmpty_iff.1 empty) '\n' newline
  simp at allDropped

theorem length_dropWhile_over_slash (inLine : '\n' ∉ c :: more) (tail : List Char) :
    ((c :: (more ++ '/' :: tail)).dropWhile (· != '\n')).length ≤ tail.length := by
  have dropped : (c :: (more ++ ['/'])).dropWhile (· != '\n') = [] := by
    apply List.dropWhile_eq_nil_iff.2
    intro d mem
    have : d ∈ c :: more ∨ d = '/' := by simpa [or_assoc] using mem
    rcases this with before | rfl
    · simpa using ne_of_mem_of_not_mem before inLine
    · decide
  have split : c :: (more ++ '/' :: tail) = c :: (more ++ ['/']) ++ tail := by simp
  rw [split, List.dropWhile_append, dropped, List.isEmpty_nil, if_pos rfl]
  exact (List.dropWhile_suffix _).length_le

theorem goesOn_or_readsOver_outside :
    GoesOn false last c more ∨ ReadsOver false last c more := by
  by_cases opening : c = '/' ∧ more.head?.or (some '/') = some '*'
  · left
    rcases opening with ⟨rfl, star⟩
    cases more with
    | nil => simp at star
    | cons d more =>
        have isStar : d = '*' := by simpa using star
        subst isStar
        exact ⟨[], true, last, more, Nat.le_succ _, fun tail => step_opening last _⟩
  · have notOpening : ∀ tail, ¬(c = '/' ∧ (more ++ '/' :: tail).head? = some '*') := by
      intro tail
      rwa [head?_append_slash]
    have sameMarker : ∀ tail, opensLineComment cStyle.lineMarker last (c :: (more ++ '/' :: tail)) =
        opensLineComment cStyle.lineMarker last (c :: (more ++ ['/'])) := by
      intro tail
      rw [opensLineComment_cStyle, opensLineComment_cStyle, head?_append_slash, head?_append_slash]
    by_cases opens : opensLineComment cStyle.lineMarker last (c :: (more ++ ['/'])) = true
    · by_cases newline : '\n' ∈ c :: more
      · left
        have notFirst : c ≠ '\n' := by
          rintro rfl
          simp [opensLineComment_cStyle] at opens
        have shorter : ((c :: more).dropWhile (· != '\n')).length ≤ more.length := by
          rw [List.dropWhile_cons_of_pos (by simpa using notFirst)]
          exact (List.dropWhile_suffix _).length_le
        refine ⟨[], false, last, _, shorter, ?_⟩
        intro tail
        rw [step_outside (notOpening tail), sameMarker, if_pos opens,
          dropWhile_before_slash newline]
      · right
        intro tail
        rw [step_outside (notOpening tail), sameMarker, if_pos opens]
        exact length_dropWhile_over_slash newline tail
    · left
      refine ⟨[c], false, some c, more, Nat.le_refl _, ?_⟩
      intro tail
      rw [step_outside (notOpening tail), sameMarker, if_neg opens]

/-- What a turn before a slash can do. -/
theorem goesOn_or_readsOver (inBlock : Bool) (last : Option Char) (c : Char) (more : List Char) :
    GoesOn inBlock last c more ∨ ReadsOver inBlock last c more := by
  cases inBlock with
  | true => exact goesOn_or_readsOver_inside
  | false => exact goesOn_or_readsOver_outside

end BeforeSlash

/--
If the loop comes to a slash outside comments, with one text behind the slash, then it does so with
every text behind it, and what it keeps before the slash is the same.
-/
theorem exists_kept_before_slash {inBlock : Bool} {last : Option Char} {front rest : List Char}
    {arrived : Option Char}
    (reads : cursorAt cStyle (rest.length + 1) inBlock last (front ++ '/' :: rest) =
      ⟨false, arrived, '/' :: rest⟩) :
    ∃ kept, ∀ tail, stripFrom cStyle inBlock last (front ++ '/' :: tail) =
      kept ++ stripFrom cStyle false arrived ('/' :: tail) := by
  -- A turn may read several characters, so the induction is on the length of what is before the
  -- slash.
  induction size : front.length using Nat.strong_induction_on generalizing inBlock last front with
  | _ size' ih =>
      subst size
      cases front with
      | nil =>
          have near : ('/' :: rest).length ≤ rest.length + 1 := Nat.le_refl _
          rw [List.nil_append, cursorAt_of_length_le near, Cursor.mk.injEq] at reads
          rcases reads with ⟨rfl, rfl, -⟩
          exact ⟨[], fun tail => rfl⟩
      | cons c more =>
          rw [List.cons_append, cursorAt_cons (by simp)] at reads
          rcases goesOn_or_readsOver inBlock last c more with goesOn | readsOver
          · rcases goesOn with ⟨keptHere, inBlock', last', more', shorter, turn⟩
            rw [turn] at reads
            rcases ih more'.length (Nat.lt_succ_of_le shorter) reads rfl with ⟨kept, keeps⟩
            refine ⟨keptHere ++ kept, ?_⟩
            intro tail
            rw [List.cons_append, stripFrom, turn, keeps, List.append_assoc]
          · have near := readsOver rest
            rw [cursorAt_of_length_le (Nat.le_succ_of_le near)] at reads
            rw [congrArg Cursor.rest reads] at near
            exact absurd near (Nat.not_succ_le_self _)

end CrossArch.Comment
