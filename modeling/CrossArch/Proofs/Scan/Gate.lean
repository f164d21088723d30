import CrossArch.Proofs.Hit.Opener
import CrossArch.Proofs.Scan.Parts
import CrossArch.Proofs.Unicode.Word

/-!
# The gate before inline assembly

Inline assembly is only looked at when the search for hits has come across an opener. The scanner
opens a block only where it finds an opener in a line, and the search hits such an opener or an
earlier one, so the gate hides no block.
-/

namespace CrossArch

namespace Assembly

theorem foldl_next_of_find?_eq_none {lines : List (List Char)} (number : Nat)
    (notFound : ∀ line ∈ lines, Opener.find? true line = none) :
    (lines.zipIdx number).foldl Scan.next ⟨[], none⟩ = ⟨[], none⟩ := by
  induction lines generalizing number with
  | nil => rfl
  | cons line later ih =>
      rw [List.zipIdx_cons, List.foldl_cons, Scan.next,
        scanLine_of_find?_eq_none (notFound line List.mem_cons_self)]
      apply ih
      intro other mem
      exact notFound other (List.mem_cons_of_mem line mem)

/-- A text whose lines have no opener has no events. -/
theorem events_of_find?_eq_none {text : List Char}
    (notFound : ∀ line ∈ Text.lines text, Opener.find? true line = none) : events text = [] := by
  rw [events, Text.numberedLines, foldl_next_of_find?_eq_none 1 notFound]
  rfl

/-- A text with a block that a destination cannot run has an opener in some line. -/
theorem exists_opener_of_foreignBlocks {dest : Arch} {whitelist : Whitelist} {text : List Char}
    (foreign : (foreignBlocks dest whitelist text).value ≠ []) :
    ∃ line ∈ Text.lines text, (Opener.find? true line).isSome = true := by
  by_contra none
  apply foreign
  have noEvents : events text = [] := by
    apply events_of_find?_eq_none
    intro line mem
    by_contra found
    exact none ⟨line, mem, Option.isSome_iff_ne_none.2 found⟩
  have sublist := foreignBlocks_sublist dest whitelist text
  rw [noEvents] at sublist
  exact List.sublist_nil.1 sublist

end Assembly

/-- All keys of a table that are not reserved consist of ASCII letters, digits and underscores. -/
def RuleTable.HasIdentifierKeys (table : RuleTable) : Prop :=
  ∀ key ∈ table.keys, key ∉ reservedKeys → key.toList.all Unicode.isAsciiWord = true

instance (table : RuleTable) : Decidable table.HasIdentifierKeys :=
  inferInstanceAs (Decidable (∀ key ∈ table.keys, key ∉ reservedKeys →
    key.toList.all Unicode.isAsciiWord = true))

/-- Where the scanner finds a block that a destination cannot run, the search has hit an opener. -/
theorem exists_assembly_hit {table : RuleTable} (identifiers : table.HasIdentifierKeys)
    {dest : Arch} {whitelist : Assembly.Whitelist} {text : List Char}
    (foreign : (Assembly.foreignBlocks dest whitelist text).value ≠ []) :
    ∃ hit ∈ sourceHits table text, hit.kind = .assembly := by
  have areWords : ∀ key ∈ (SearchKey.ofTable table).map String.toList, ∀ c ∈ key,
      Unicode.isWord c = true := by
    intro key keyMem c charMem
    rcases List.mem_map.1 keyMem with ⟨name, nameMem, rfl⟩
    have ascii := identifiers name (SearchKey.mem_ofTable.1 nameMem).1
      (SearchKey.not_mem_reservedKeys nameMem)
    exact Unicode.isWord_of_isAsciiWord (List.all_eq_true.1 ascii c charMem)
  rcases Assembly.exists_opener_of_foreignBlocks foreign with ⟨line, lineMem, found⟩
  rcases (OpenerAhead.of_mem_lines lineMem found).exists_assembly_match areWords 1 with
    ⟨placed, placedMem, kind⟩
  exact ⟨placed.hit, List.mem_map_of_mem placedMem, kind⟩

/--
The gate never hides a block. If the keys of the rule table are identifiers, the findings about
inline assembly have exactly the lines of the blocks in the text without its comments that the
destination cannot run, and where there is such a block, an opener has been hit.
-/
theorem assembly_findings_eq_foreignBlocks (catalog : Catalog) (whitelist : Assembly.Whitelist)
    (loaded : catalog.whitelist = some whitelist)
    (identifiers : catalog.source.HasIdentifierKeys) (text : List Char) (file : String)
    (category : FileCategory) :
    (ofKind .assembly (scanSource catalog text file category).value).map Finding.range =
        (Assembly.foreignBlocks catalog.dest whitelist
          (Comment.strip Comment.cStyle text)).value.map some ∧
      ((Assembly.foreignBlocks catalog.dest whitelist
          (Comment.strip Comment.cStyle text)).value ≠ [] →
        ∃ hit ∈ sourceHits catalog.source (Comment.strip Comment.cStyle text),
          hit.kind = .assembly) := by
  refine ⟨?_, exists_assembly_hit identifiers⟩
  rw [ofKind_scanSource]
  simp only [assemblyPart, value_assemblyFindings, loaded, Option.elim_some]
  split <;> rename_i gate
  · simp
  · have nothing : (Assembly.foreignBlocks catalog.dest whitelist
        (Comment.strip Comment.cStyle text)).value = [] := by
      by_contra foreign
      rcases exists_assembly_hit identifiers foreign with ⟨hit, hitMem, kind⟩
      exact gate (List.any_eq_true.2 ⟨hit, hitMem, by simp [kind]⟩)
    rw [nothing]
    rfl

/-- A catalog whose rule table has a keyword of inline assembly among its keys. -/
def keywordCatalog : Catalog :=
  ⟨.x86_64, .arm64, ⟨⟨[("__asm__", ⟨"", .empty⟩), ("asm", ⟨"", .empty⟩)]⟩⟩, .empty,
    some (.ofEntries ["nop".toList]), []⟩

/-- The keyword is a rule key, a comment stands behind it, and the bracket is on the next line. -/
theorem assembly_findings_keywordCatalog :
    keywordCatalog.source.HasIdentifierKeys ∧
      (ofKind .assembly (scanSource keywordCatalog "x asm /* */ volatile\n(\"pause\")".toList "x.c"
        .cpp).value).map Finding.range = [some ⟨1, 2⟩] ∧
      ∃ hit ∈ sourceHits keywordCatalog.source
        (Comment.strip Comment.cStyle "x asm /* */ volatile\n(\"pause\")".toList),
        hit.kind = .assembly := by
  have identifiers : keywordCatalog.source.HasIdentifierKeys := by
    decide
  have found := assembly_findings_eq_foreignBlocks keywordCatalog (.ofEntries ["nop".toList]) rfl
    identifiers "x asm /* */ volatile\n(\"pause\")".toList "x.c" .cpp
  have blocks : (Assembly.foreignBlocks keywordCatalog.dest (.ofEntries ["nop".toList])
      (Comment.strip Comment.cStyle "x asm /* */ volatile\n(\"pause\")".toList)).value =
        [⟨1, 2⟩] := by
    decide +kernel
  rw [blocks] at found
  exact ⟨identifiers, found.1, found.2 (List.cons_ne_nil _ _)⟩

end CrossArch
