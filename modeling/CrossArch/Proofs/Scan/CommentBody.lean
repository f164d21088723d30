import CrossArch.Proofs.Comment.Cursor
import CrossArch.Scan.Source

/-!
# The bodies of comments

A source scan reads its text only after the comments are dropped. Of a block comment nothing is left
but its newlines and, where a marker would arise over the gap, a space, which depends on the number
of the newlines and on the text around the comment. Of a line comment nothing is left. So two texts
that differ only in the body of a comment have the same scan.
-/

namespace CrossArch

namespace Comment

variable {front body body' : List Char}

/-- Before a marker that is read outside comments, the loop keeps the same whatever follows. -/
theorem ReadsMarker.exists_kept {second : Char} (reads : ReadsMarker front ['/', second]) :
    ∃ kept, ∀ tail, strip cStyle (front ++ '/' :: tail) =
      kept ++ stripFrom cStyle false
        (cursorAt cStyle 2 false none (front ++ ['/', second])).last ('/' :: tail) := by
  have arrives : ∀ cursor : Cursor, cursor.inBlock = false → cursor.rest = ['/', second] →
      cursor = ⟨false, cursor.last, '/' :: [second]⟩ := by
    rintro ⟨_, _, _⟩ rfl rfl
    rfl
  exact exists_kept_before_slash (arrives _ reads.1 reads.2)

/-- What is left of a text with a block comment depends on the comment's newlines only. -/
theorem strip_block_body (opens : OpensBlock front) (noClosing : isBody body = true)
    (noClosing' : isBody body' = true) (sameBreaks : Text.newlines body = Text.newlines body')
    (back : List Char) :
    strip cStyle (front ++ blockComment body ++ back) =
      strip cStyle (front ++ blockComment body' ++ back) := by
  rcases ReadsMarker.exists_kept opens with ⟨kept, keeps⟩
  have left : ∀ inside, front ++ blockComment inside ++ back =
      front ++ '/' :: '*' :: (inside ++ '*' :: '/' :: back) := by
    simp [blockComment]
  rw [left, left, keeps, keeps, stripFrom_opening, stripFrom_opening, stripFrom_closed noClosing,
    stripFrom_closed noClosing', lastKept_eq, lastKept_eq, breaks_eq_replicate, breaks_eq_replicate,
    sameBreaks]

/-- Nothing is left of a line comment. -/
theorem stripFrom_line_body {last : Option Char}
    (opens : opensLineComment cStyle.lineMarker last ['/', '/'] = true) (inLine : '\n' ∉ body)
    (back : List Char) :
    stripFrom cStyle false last ('/' :: '/' :: (body ++ '\n' :: back)) =
      stripFrom cStyle false last ('\n' :: back) := by
  have opensHere : opensLineComment cStyle.lineMarker last
      ('/' :: '/' :: (body ++ '\n' :: back)) = true := by
    rw [opensLineComment_cStyle] at opens ⊢
    exact opens
  have dropped : ('/' :: '/' :: (body ++ '\n' :: back)).dropWhile (· != '\n') = '\n' :: back := by
    have allDropped : ∀ c ∈ body, (c != '\n') = true := by
      intro c mem
      simpa using ne_of_mem_of_not_mem mem inLine
    simp [List.dropWhile_append_of_pos allDropped]
  rw [stripFrom_outside (by simp), if_pos opensHere, dropped]

theorem strip_line_body (opens : OpensLine front) (inLine : '\n' ∉ body) (inLine' : '\n' ∉ body')
    (back : List Char) :
    strip cStyle (front ++ '/' :: '/' :: (body ++ '\n' :: back)) =
      strip cStyle (front ++ '/' :: '/' :: (body' ++ '\n' :: back)) := by
  rcases opens.1.exists_kept with ⟨kept, keeps⟩
  rw [keeps, keeps, stripFrom_line_body opens.2 inLine, stripFrom_line_body opens.2 inLine']

end Comment

/-- A source scan, its log included, reads nothing of its text but what stripping leaves. -/
theorem scanSource_of_strip_eq {text text' : List Char}
    (same : Comment.strip Comment.cStyle text = Comment.strip Comment.cStyle text')
    (catalog : Catalog) (file : String) (category : FileCategory) :
    scanSource catalog text file category = scanSource catalog text' file category := by
  rw [scanSource, scanSource, same]

/--
The body of a comment does not influence a source scan. Where an opening marker behind a text opens
a block comment, two bodies without a closing marker and with equally many newlines give the same
scan; where a line marker opens a line comment, any two bodies on one line do.
-/
theorem scanSource_ignores_comment_bodies (catalog : Catalog) (front back : List Char)
    (file : String) (category : FileCategory) :
    (Comment.OpensBlock front → ∀ body body' : List Char,
      ¬['*', '/'] <:+: body → ¬['*', '/'] <:+: body' → Text.newlines body = Text.newlines body' →
        scanSource catalog (front ++ ['/', '*'] ++ body ++ ['*', '/'] ++ back) file category =
          scanSource catalog (front ++ ['/', '*'] ++ body' ++ ['*', '/'] ++ back) file category) ∧
      (Comment.OpensLine front → ∀ body body' : List Char, '\n' ∉ body → '\n' ∉ body' →
        scanSource catalog (front ++ ['/', '/'] ++ body ++ ['\n'] ++ back) file category =
          scanSource catalog (front ++ ['/', '/'] ++ body' ++ ['\n'] ++ back) file category) := by
  constructor
  · intro opens body body' noClosing noClosing' sameBreaks
    have same := Comment.strip_block_body opens (Comment.isBody_iff.2 noClosing)
      (Comment.isBody_iff.2 noClosing') sameBreaks back
    apply scanSource_of_strip_eq
    simpa [Comment.blockComment] using same
  · intro opens body body' inLine inLine'
    apply scanSource_of_strip_eq
    simpa using Comment.strip_line_body opens inLine inLine' back

/-- A text with a marker inside a word and a comment that contains a slash. -/
def guardedInclude : List Char :=
  "#ifdef __x86_64__\n#include <a//b> /*/ */".toList

/-- A catalog without rules. -/
def bareCatalog : Catalog :=
  ⟨.x86_64, .arm64, .empty, .empty, none, []⟩

/-- One block starts with a slash, ends with a star and has a directive in it; a star follows a line
marker. -/
theorem scanSource_ignores_comment_bodies_guardedInclude :
    Comment.OpensBlock guardedInclude ∧ Comment.OpensLine guardedInclude ∧
      scanSource bareCatalog (guardedInclude ++ ['/', '*'] ++ "/\n#endif // **".toList ++
          ['*', '/'] ++ "/\n#endif".toList) "x.c" .cpp =
        scanSource bareCatalog (guardedInclude ++ ['/', '*'] ++ "\n".toList ++
          ['*', '/'] ++ "/\n#endif".toList) "x.c" .cpp ∧
      scanSource bareCatalog (guardedInclude ++ ['/', '/'] ++ "* asm(\"nop\") /*".toList ++
          ['\n'] ++ "#endif".toList) "x.c" .cpp =
        scanSource bareCatalog (guardedInclude ++ ['/', '/'] ++ [] ++
          ['\n'] ++ "#endif".toList) "x.c" .cpp := by
  have opensBlock : Comment.OpensBlock guardedInclude := by
    decide +kernel
  have opensLine : Comment.OpensLine guardedInclude := by
    decide +kernel
  refine ⟨opensBlock, opensLine, ?_, ?_⟩
  · exact (scanSource_ignores_comment_bodies _ _ _ _ _).1 opensBlock _ _ (by decide) (by decide)
      (by decide)
  · exact (scanSource_ignores_comment_bodies _ _ _ _ _).2 opensLine _ _ (by decide) (by decide)

end CrossArch
