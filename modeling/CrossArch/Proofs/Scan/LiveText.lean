import CrossArch.Proofs.Comment.Truncation
import CrossArch.Proofs.Scan.MakefileLines

/-!
# Makefile scans and the text as given

What a scan of a Makefile reports stands in the text as it was given, on the reported line and
before the comment of that line. The search runs on the text without comments. There the place of a
hit is between two other pieces of its line, and the line without its comment starts the line as
given.
-/

namespace CrossArch

/-- A piece is live on a line: it stands between two others before the comment of the line. -/
def LiveOn (text : List Char) (number : Nat) (before piece after : List Char) : Prop :=
  ∃ line, (line, number) ∈ Text.numberedLines text ∧
    Comment.truncate ['#'] line = before ++ piece ++ after

/-- A piece of the text without comments is live on the line that it has there. -/
theorem exists_liveOn_of_strip {text front piece back : List Char}
    (stripped : Comment.strip Comment.makeStyle text = front ++ piece ++ back)
    (inLine : '\n' ∉ piece) :
    ∃ before after, before <:+ front ∧ after <+: back ∧
      LiveOn text (Text.newlines front + 1) before piece after := by
  rcases Text.exists_line_around front piece back inLine with
    ⟨before, after, ahead, behind, numbered⟩
  rw [← stripped, Comment.numberedLines_strip Comment.makeStyle_lineCommentsOnly
    Comment.makeStyle_marked] at numbered
  rcases List.mem_map.1 numbered with ⟨⟨line, number⟩, lineMem, same⟩
  rw [Prod.map_apply, Prod.mk.injEq] at same
  rcases same with ⟨cut, rfl⟩
  exact ⟨before, after, ahead, behind, line, lineMem, cut⟩

section Hits

variable {table : RuleTable} {text : List Char} {hit : Hit}

/-- A hit stands where a token may start, and it is a reference or a key. -/
theorem exists_place_of_makefileHit (mem : hit ∈ makefileHits table text) :
    ∃ front back, text = front ++ hit.key ++ back ∧
      hit.range = ⟨Text.newlines front + 1, Text.newlines front + 1 + Text.newlines hit.key⟩ ∧
      front.getLast?.all leadsToken = true ∧
      (hit.kind = .library ∧ IsReference hit.key back ∨
        hit.kind = .rule ∧ hit.key ∈ table.searchTexts) := by
  rcases List.mem_map.1 mem with ⟨placed, placedMem, rfl⟩
  rcases Matcher.exists_place_of_mem (List.mem_of_mem_filter placedMem) with
    ⟨front, whole, line, read⟩
  rw [Option.or_none] at read
  rcases parts_of_makefileAt? read with ⟨-, trail, isWhat⟩
  have leads := startsToken_of_makefileAt? read
  refine ⟨front ++ placed.found.lead, placed.found.rest, ?_, ?_, ?_, isWhat⟩
  · simp [whole, Match.read, trail, PlacedMatch.hit]
  · rw [PlacedMatch.hit, line, Nat.add_comm 1]
  · rwa [List.getLast?_append]

theorem IsReference.of_prefix {reference back after : List Char}
    (isReference : IsReference reference back) (front : after <+: back) :
    IsReference reference after := by
  refine ⟨isReference.named, ?_⟩
  intro c head
  rcases front with ⟨rest, rfl⟩
  apply isReference.ends c
  rw [Option.mem_def] at head ⊢
  rw [List.head?_append, head, Option.some_or]

theorem leadsToken_of_suffix {before front : List Char} (ahead : before <:+ front)
    (leads : front.getLast?.all leadsToken = true) : before.getLast?.all leadsToken = true := by
  rcases ahead with ⟨earlier, rfl⟩
  rw [List.getLast?_append] at leads
  cases last : before.getLast? with
  | none => rfl
  | some c => rwa [last, Option.some_or] at leads

/-- The key of a rule hit is live on the line of the hit. -/
theorem exists_liveOn_of_ruleHit (oneLine : table.HasOneLineKeys)
    (mem : hit ∈ makefileHits table (Comment.strip Comment.makeStyle text))
    (rule : hit.kind = .rule) :
    ∃ number before after, hit.range = ⟨number, number⟩ ∧
      LiveOn text number before hit.key after := by
  rcases exists_place_of_makefileHit mem with ⟨front, back, whole, range, -, isWhat⟩
  have inLine : '\n' ∉ hit.key := by
    rcases isWhat with ⟨library, -⟩ | ⟨-, keyMem⟩
    · simp [library] at rule
    · exact oneLine_searchTexts oneLine hit.key keyMem
  rcases exists_liveOn_of_strip whole inLine with ⟨before, after, -, -, live⟩
  rw [Text.newlines_eq_zero inLine] at range
  exact ⟨_, before, after, range, live⟩

/-- A library hit is a reference that is live on some line. -/
theorem exists_liveOn_of_libraryHit
    (mem : hit ∈ makefileHits table (Comment.strip Comment.makeStyle text))
    (library : hit.kind = .library) :
    ∃ number before after, LiveOn text number before hit.key after ∧
      before.getLast?.all leadsToken = true ∧ IsReference hit.key after := by
  rcases exists_place_of_makefileHit mem with ⟨front, back, whole, -, leads, isWhat⟩
  rcases isWhat with ⟨-, isReference⟩ | ⟨rule, -⟩
  · rcases exists_liveOn_of_strip whole isReference.inLine with ⟨before, after, ahead, behind, live⟩
    exact ⟨_, before, after, live, leadsToken_of_suffix ahead leads, isReference.of_prefix behind⟩
  · simp [library] at rule

end Hits

/--
What a Makefile scan reports is backed by live text. If the keys contain no newline, each finding
has its key on the one line that it names, before the comment of the line, and the rule of the key
has the suggestion of the finding for the destination. No library is listed twice, and each is the
canonical name of a reference that starts a token before the comment of a line.
-/
theorem scanMakefile_backed_by_live_text (catalog : Catalog)
    (oneLine : catalog.makefile.HasOneLineKeys) (text : List Char) (file : String) :
    (∀ finding ∈ (scanMakefile catalog text file).value.findings,
      (∃ number before after, finding.range = some ⟨number, number⟩ ∧
        LiveOn text number before finding.key.toList after) ∧
      ∃ entry, catalog.makefile.find? finding.key = some entry ∧
        entry.suggestions.find? catalog.dest.id = some finding.suggestion) ∧
    (scanMakefile catalog text file).value.libraries.Nodup ∧
    ∀ library ∈ (scanMakefile catalog text file).value.libraries,
      ∃ number before reference after, LiveOn text number before reference after ∧
        before.getLast?.all leadsToken = true ∧ IsReference reference after ∧
        library = String.ofList (canonicalLibrary reference) := by
  simp only [scanMakefile, Logged.value_bind, Logged.value_pure]
  refine ⟨?_, nodup_eraseDups _, ?_⟩
  · intro finding mem
    rcases List.mem_filterMap.1 mem with ⟨hit, ruleMem, found⟩
    rcases List.mem_filter.1 ruleMem with ⟨hitMem, rule⟩
    rcases Option.map_eq_some_iff.1 found with ⟨suggestion, suggested, rfl⟩
    rcases exists_liveOn_of_ruleHit oneLine hitMem (beq_iff_eq.1 rule) with
      ⟨number, before, after, range, live⟩
    constructor
    · exact ⟨number, before, after, by rw [range], by rwa [String.toList_ofList]⟩
    · exact Option.bind_eq_some_iff.1 suggested
  · intro library mem
    rcases List.mem_map.1 (List.mem_eraseDups.1 mem) with ⟨hit, libraryMem, rfl⟩
    rcases List.mem_filter.1 libraryMem with ⟨hitMem, isLibrary⟩
    rcases exists_liveOn_of_libraryHit hitMem (beq_iff_eq.1 isLibrary) with
      ⟨number, before, after, live, leads, isReference⟩
    exact ⟨number, before, hit.key, after, live, leads, isReference, rfl⟩

/-- A key and two references are commented out; the `#` inside a word opens no comment. -/
def commentedMakefile : List Char :=
  "# -mtune=a\nL=-lm#-lc\t# -lq\n-l:libm.so x#y -mtune=b # -lz".toList

theorem scanMakefile_backed_by_live_text_tune :
    tuneCatalog.makefile.HasOneLineKeys ∧
      (scanMakefile tuneCatalog commentedMakefile "Makefile").value =
        ⟨[⟨"Makefile", some ⟨3, 3⟩, "-mtune=", "Drop it.", .makefile⟩], ["libm.so"]⟩ ∧
      (∃ number before after, some (⟨3, 3⟩ : LineRange) = some ⟨number, number⟩ ∧
        LiveOn commentedMakefile number before "-mtune=".toList after) ∧
      ∃ number before reference after, LiveOn commentedMakefile number before reference after ∧
        before.getLast?.all leadsToken = true ∧ IsReference reference after ∧
        "libm.so" = String.ofList (canonicalLibrary reference) := by
  have oneLine : tuneCatalog.makefile.HasOneLineKeys := by
    decide
  have scanned : (scanMakefile tuneCatalog commentedMakefile "Makefile").value =
      ⟨[⟨"Makefile", some ⟨3, 3⟩, "-mtune=", "Drop it.", .makefile⟩], ["libm.so"]⟩ := by
    decide +kernel
  have backed := scanMakefile_backed_by_live_text tuneCatalog oneLine commentedMakefile "Makefile"
  rw [scanned] at backed
  exact ⟨oneLine, scanned, (backed.1 _ List.mem_cons_self).1, backed.2.2 _ List.mem_cons_self⟩

end CrossArch
