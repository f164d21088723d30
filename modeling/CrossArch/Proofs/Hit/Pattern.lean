import CrossArch.Hit.Makefile
import CrossArch.Proofs.Hit.Line
import CrossArch.Proofs.Hit.Search
import CrossArch.Proofs.Regex.Search
import CrossArch.Regex.Parser

/-!
# Hits by pattern

The hits of a text can be read off a search with a pattern: each match keeps its key in a group
whose name tells the kind of the hit, and a line counter that is asked for the offsets of the keys,
in order, tells their lines. A matcher finds the same hits if it reads at every place what the
pattern prefers there.
-/

namespace CrossArch

open Regex

/-- The name of the group that keeps the key of a hit. -/
def HitKind.groupName : HitKind → List Char
  | rule => "rule".toList
  | assembly => "asm".toList
  | library => "lib".toList

/-- The key of a match and the kind of its hit, by the groups that have read something. -/
def keyOf? (found : Found) : Option (Capture × HitKind) :=
  [HitKind.rule, .assembly, .library].findSome? fun kind =>
    (found.group? (some kind.groupName)).map (·, kind)

/-- Whether a key makes a hit: where hits are tokens, a rule key has to end with `=` or to end its
token. -/
def isHit (tokens : Bool) (text : List Char) (capture : Capture) (kind : HitKind) : Bool :=
  !tokens || kind != .rule || capture.text.getLast? == some '=' ||
    endsToken (text.drop (capture.start + capture.text.length))

/-- The hits of matches. The counter has been asked for the hits before. -/
def hitsOf? (tokens : Bool) (text : List Char) (counter : LineCounter) :
    List Found → Option (List Hit)
  | [] => some []
  | found :: later =>
    match (keyOf? found).filter fun key => isHit tokens text key.1 key.2 with
    | none => hitsOf? tokens text counter later
    | some (capture, kind) => do
      let (line, moved) ← counter.lineAt? text (Text.byteLength (text.take capture.start))
      let hits ← hitsOf? tokens text moved later
      return ⟨capture.text, kind, ⟨line, line + Text.newlines capture.text⟩⟩ :: hits

/-- The hits of a pattern in a text, if the pattern can be read. -/
def patternHits? (tokens : Bool) (pattern : String) (text : List Char) : Option (List Hit) :=
  (parse? caseful pattern.toList).bind fun regex =>
    hitsOf? tokens text .start (regex.search text)

namespace Match

/-- The thread behind a match whose key starts at the place of the thread. -/
def behindKey (found : Match) (thread : Thread) : Thread :=
  (thread.upTo found.rest).keep ⟨some found.kind.groupName, thread.place.index, found.key⟩

/-- The thread behind a match that starts at the place of the thread. -/
def behind (found : Match) (thread : Thread) : Thread :=
  (thread.upTo found.rest).keep
    ⟨some found.kind.groupName, thread.place.index + found.lead.length, found.key⟩

/-- The match as a search finds it. -/
def toFound (found : Match) (index offset : Nat) : Found :=
  ⟨index, offset, found.read, [⟨some found.kind.groupName, index + found.lead.length, found.key⟩]⟩

theorem behindKey_skip {found : Match} {thread : Thread}
    (front : found.IsFrontOf thread.place.rest) :
    found.behindKey (thread.skip found.lead.length) = found.behind thread := by
  have whole : thread.place.rest = found.lead ++ (found.key ++ (found.trail ++ found.rest)) := by
    simpa [read] using front.1
  have isEnd : found.rest <:+ found.key ++ (found.trail ++ found.rest) :=
    ⟨found.key ++ found.trail, by simp⟩
  rw [behindKey, ← Thread.upTo_eq_skip whole, Thread.upTo_upTo ⟨_, whole.symm⟩ isEnd,
    Thread.upTo_eq_skip whole]
  rfl

end Match

/-- A pattern that runs as a matcher reads finds what the matcher reads. -/
theorem foundAt?_of_run {regex : Regex} {result : Option Match} {place : TextPlace}
    (runs : regex.run ⟨place, []⟩ some = result.map fun found => found.behind ⟨place, []⟩)
    (front : ∀ found, result = some found → found.IsFrontOf place.rest) (offset : Nat) :
    regex.foundAt? offset place = result.map fun found => found.toFound place.index offset := by
  rw [foundAt?, matchAt?, runs]
  cases result with
  | none => rfl
  | some found =>
      have isFront := front found rfl
      have read : place.rest.take
          ((found.behind ⟨place, []⟩).place.index - place.index) = found.read := by
        have whole : (⟨place, []⟩ : Thread).place.rest = found.read ++ found.rest := isFront.1
        rw [Match.behind, Thread.upTo_eq_skip whole, Thread.keep, Thread.place_skip,
          TextPlace.index_skip, Nat.add_sub_cancel_left, isFront.1, List.take_left]
      have nonempty : found.read.isEmpty = false := by simpa using isFront.read_ne_nil
      simp only [Option.map_some, Option.bind_some, read, nonempty]
      rfl

/-- A search with the pattern reads at each place what the matcher reads there. -/
def Regex.Imitates (regex : Regex) (matcher : Matcher) : Prop :=
  ∀ index offset before text, regex.foundAt? offset ⟨index, before, text⟩ =
    (matcher.at? before text).map fun found => found.toFound index offset

section Hits

variable {tokens : Bool} {text : List Char} {matcher : Matcher} {regex : Regex} {found : Match}

theorem keyOf?_toFound (found : Match) (index offset : Nat) :
    keyOf? (found.toFound index offset) =
      some (⟨some found.kind.groupName, index + found.lead.length, found.key⟩, found.kind) := by
  cases kind : found.kind <;> simp [keyOf?, Match.toFound, Found.group?, kind, HitKind.groupName]

/-- A match makes a hit by the pattern if it is a hit by itself. -/
theorem isHit_of_front (tokens : Bool) {front : List Char}
    (whole : text = front ++ (found.read ++ found.rest))
    (bare : found.kind = .rule → found.trail = []) :
    isHit tokens text ⟨some found.kind.groupName, front.length + found.lead.length, found.key⟩
      found.kind = (!tokens || found.isMakefileHit) := by
  by_cases rule : found.kind = .rule
  · have behind : text.drop (front.length + found.lead.length + found.key.length) = found.rest := by
      have split : text = (front ++ found.lead ++ found.key) ++ found.rest := by
        simp [whole, Match.read, bare rule]
      rw [split, ← List.length_append, ← List.length_append, List.drop_left]
    simp [isHit, Match.isMakefileHit, behind, Bool.or_assoc]
  · have other : (found.kind != .rule) = true := by simpa using rule
    simp [isHit, Match.isMakefileHit, other]

theorem hitsOf?_cons_of_dropped {counter : LineCounter} {capture : Capture} {kind : HitKind}
    {read : Found} {later : List Found} (key : keyOf? read = some (capture, kind))
    (dropped : isHit tokens text capture kind = false) :
    hitsOf? tokens text counter (read :: later) = hitsOf? tokens text counter later := by
  simp only [hitsOf?, key, Option.filter_some, dropped]
  rfl

theorem hitsOf?_cons_of_kept {counter moved : LineCounter} {capture : Capture} {kind : HitKind}
    {line : Nat} {read : Found} {later : List Found} (key : keyOf? read = some (capture, kind))
    (kept : isHit tokens text capture kind = true)
    (asked : counter.lineAt? text (Text.byteLength (text.take capture.start)) =
      some (line, moved)) :
    hitsOf? tokens text counter (read :: later) =
      (hitsOf? tokens text moved later).map
        (⟨capture.text, kind, ⟨line, line + Text.newlines capture.text⟩⟩ :: ·) := by
  simp only [hitsOf?, key, Option.filter_some, kept, if_true, asked, Option.bind_eq_bind,
    Option.bind_some, Option.map_eq_bind]
  rfl

/-- A match is dropped, or the counter tells its line from any place before it. -/
theorem hitsOf?_cons_toFound {front counted : List Char} {line : Nat} {later : List Found}
    {hits : List Hit} (whole : text = front ++ (found.read ++ found.rest))
    (isFront : counted <+: front) (lines : line = Text.newlines front + 1)
    (bare : found.kind = .rule → found.trail = [])
    (further : ∀ counted, counted <+: front ++ found.read →
      hitsOf? tokens text (.past counted) later = some hits) :
    hitsOf? tokens text (.past counted)
        (found.toFound front.length (Text.byteLength front) :: later) =
      some (if !tokens || found.isMakefileHit then
        PlacedMatch.hit ⟨found, line + Text.newlines found.lead⟩ :: hits else hits) := by
  have hit := isHit_of_front tokens whole bare
  have toHit := keyOf?_toFound found front.length (Text.byteLength front)
  by_cases kept : (!tokens || found.isMakefileHit) = true
  · have isKey : front ++ found.lead <+: text :=
      ⟨found.key ++ (found.trail ++ found.rest), by simp [whole, Match.read]⟩
    have upToKey : text.take (front.length + found.lead.length) = front ++ found.lead := by
      rw [← List.length_append, ← List.prefix_iff_eq_take.1 isKey]
    have asked := (LineCounter.lineAt?_past (isFront.trans ⟨_, whole.symm⟩)).2
      ⟨front ++ found.lead, isKey, rfl, rfl⟩
    have counted' : front ++ found.lead <+: front ++ found.read :=
      ⟨found.key ++ found.trail, by simp [Match.read]⟩
    have first : Text.newlines (front ++ found.lead) + 1 = line + Text.newlines found.lead := by
      rw [Text.newlines_append]
      omega
    rw [← upToKey] at asked
    rw [hitsOf?_cons_of_kept toHit (hit.trans kept) asked, upToKey, further _ counted', first,
      if_pos kept]
    rfl
  · rw [hitsOf?_cons_of_dropped toHit (by simpa [hit] using kept),
      further _ (isFront.trans (List.prefix_append _ _)), if_neg kept]

/-- The hits that are read off a search are those of the matcher, wherever the counter stands. -/
theorem hitsOf?_eq (imitates : regex.Imitates matcher)
    (bare : ∀ before rest found, matcher.at? before rest = some found → found.kind = .rule →
      found.trail = [])
    (before : Option Char) (line : Nat) (rest : List Char) :
    ∀ front counted, text = front ++ rest → counted <+: front →
      line = Text.newlines front + 1 →
      hitsOf? tokens text (.past counted)
          (regex.searchFrom front.length (Text.byteLength front) before 0 rest) =
        some (((matcher.matchesFrom before line rest).filter
          fun placed => !tokens || placed.found.isMakefileHit).map PlacedMatch.hit) := by
  fun_induction Matcher.matchesFrom matcher before line rest with
  | case1 => intros; rfl
  | case2 before line c rest found front ih =>
      intro passed counted whole isFront lines
      have isMatch := matcher.isFront front
      have whole' : text = passed ++ (found.read ++ found.rest) := by rw [whole, isMatch.1]
      have matched : regex.foundAt? (Text.byteLength passed) ⟨passed.length, before, c :: rest⟩ =
          some (found.toFound passed.length (Text.byteLength passed)) := by
        rw [imitates, front, Option.map_some]
      have searched : regex.searchFrom passed.length (Text.byteLength passed) before 0 (c :: rest) =
          found.toFound passed.length (Text.byteLength passed) ::
            regex.searchFrom (passed ++ found.read).length (Text.byteLength (passed ++ found.read))
              found.read.getLast? 0 found.rest := by
        rw [List.length_append, Text.byteLength_append]
        exact searchFrom_of_some isMatch.1 isMatch.read_ne_nil matched
      have lines' : line + Text.newlines found.read = Text.newlines (passed ++ found.read) + 1 := by
        rw [Text.newlines_append]
        omega
      rw [searched, hitsOf?_cons_toFound whole' isFront lines (bare before _ found front)
        fun counted' behind => ih _ counted' (by rw [whole', List.append_assoc]) behind lines',
        List.filter_cons]
      split <;> rfl
  | case3 before line c rest front ih =>
      intro passed counted whole isFront lines
      have nothing : regex.foundAt? (Text.byteLength passed) ⟨passed.length, before, c :: rest⟩ =
          none := by
        rw [imitates, front, Option.map_none]
      have length : passed.length + 1 = (passed ++ [c]).length := by simp
      have offset : Text.byteLength passed + c.utf8Size = Text.byteLength (passed ++ [c]) := by simp
      rw [searchFrom_cons_of_none nothing, length, offset]
      apply ih
      · rw [whole, List.append_assoc, List.singleton_append]
      · exact isFront.trans (List.prefix_append passed [c])
      · rw [dite_eq_ite, Text.line_behind, Text.newlines_append]
        omega

/-- A pattern that reads as a matcher does has the hits of the matcher. -/
theorem patternHits?_eq {pattern : String}
    (parses : parse? caseful pattern.toList = some regex) (imitates : regex.Imitates matcher)
    (bare : ∀ before rest found, matcher.at? before rest = some found → found.kind = .rule →
      found.trail = []) :
    patternHits? tokens pattern text =
      some (((matcher.matches text).filter
        fun placed => !tokens || placed.found.isMakefileHit).map PlacedMatch.hit) := by
  rw [patternHits?, parses, Option.bind_some]
  exact hitsOf?_eq imitates bare none 1 text [] [] rfl List.prefix_rfl rfl

end Hits

end CrossArch
