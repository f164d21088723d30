import CrossArch.Assembly.Block
import CrossArch.Proofs.Text.LineEnding
import CrossArch.Proofs.Unicode.Word
import Mathlib

/-!
# Larger whitelists

The scanner finds blocks without a whitelist; the whitelist only judges them. A larger one knows
every mnemonic that a smaller one knows, so a native block stays native, and the blocks that a
destination cannot run become fewer.

Entries are stored trimmed and in upper case. Since no letter is a blank, trimming and changing case
do not disturb each other, and two entries are stored alike exactly if they differ in ASCII case and
in the blanks around them only.
-/

namespace CrossArch

namespace Unicode

theorem isBlank_toUpper (c : Char) : isBlank c.toUpper = isBlank c := by
  -- Only small letters change, and neither they nor their capitals are blanks.
  by_cases lower : c.isLower = true
  · have letter : isAsciiWord c = true := by
      simp [isAsciiWord, Char.isAlphanum, Char.isAlpha, lower]
    have capital : isAsciiWord c.toUpper = true := by
      simp [isAsciiWord, Char.isAlphanum, Char.isAlpha, lower]
    rw [not_isBlank_of_isAsciiWord letter, not_isBlank_of_isAsciiWord capital]
  · rw [Char.toUpper_eq_of_not_isLower lower]

theorem trim_map_toUpper (text : List Char) :
    trim (text.map Char.toUpper) = (trim text).map Char.toUpper := by
  have same : isBlank ∘ Char.toUpper = isBlank := funext isBlank_toUpper
  simp [trim, trimStart, trimEnd, List.dropWhile_map, ← List.map_reverse, same]

theorem exists_blanks_around (text : List Char) :
    ∃ before after, text = before ++ trim text ++ after ∧
      ∀ c ∈ before ++ after, isBlank c = true := by
  refine ⟨text.takeWhile isBlank, ((trimStart text).reverse.takeWhile isBlank).reverse, ?_, ?_⟩
  · have back : trimStart text =
        trim text ++ ((trimStart text).reverse.takeWhile isBlank).reverse := by
      rw [trim, trimEnd, ← List.reverse_append, List.takeWhile_append_dropWhile,
        List.reverse_reverse]
    rw [List.append_assoc, ← back, trimStart, List.takeWhile_append_dropWhile]
  · intro c mem
    rcases List.mem_append.1 mem with front | back
    · exact List.mem_takeWhile_imp front
    · exact List.mem_takeWhile_imp (List.mem_reverse.1 back)

end Unicode

namespace Assembly

namespace Whitelist

/-- Two entries spell the same: up to ASCII case they have the same letters, between any blanks. -/
def SameSpelling (entry other : List Char) : Prop :=
  ∃ before core after before' core' after', entry = before ++ core ++ after ∧
    other = before' ++ core' ++ after' ∧
    (∀ c ∈ before ++ after ++ before' ++ after', Unicode.isBlank c = true) ∧
    core.map Char.toLower = core'.map Char.toLower

/-- Each entry of either list has a spelling in the other. -/
def SameEntries (entries others : List (List Char)) : Prop :=
  (∀ entry ∈ entries, ∃ other ∈ others, SameSpelling entry other) ∧
    ∀ other ∈ others, ∃ entry ∈ entries, SameSpelling entry other

theorem upperCase_eq_iff {text other : List Char} :
    upperCase text = upperCase other ↔ text.map Char.toLower = other.map Char.toLower := by
  constructor
  · intro same
    simpa [upperCase, Function.comp_def] using congrArg (List.map Char.toLower) same
  · intro same
    simpa [upperCase, Function.comp_def] using congrArg (List.map Char.toUpper) same

theorem normalize_eq_trim_upperCase (entry : List Char) :
    normalize entry = Unicode.trim (upperCase entry) :=
  (Unicode.trim_map_toUpper entry).symm

theorem normalize_eq_iff {entry other : List Char} :
    normalize entry = normalize other ↔ SameSpelling entry other := by
  constructor
  · intro same
    rcases Unicode.exists_blanks_around entry with ⟨before, after, whole, blank⟩
    rcases Unicode.exists_blanks_around other with ⟨before', after', whole', blank'⟩
    refine ⟨before, _, after, before', _, after', whole, whole', ?_, upperCase_eq_iff.1 same⟩
    intro c mem
    rw [List.append_assoc] at mem
    rcases List.mem_append.1 mem with around | around
    · exact blank c around
    · exact blank' c around
  · rintro ⟨before, core, after, before', core', after', rfl, rfl, blank, sameLetters⟩
    simp only [List.forall_mem_append] at blank
    rcases blank with ⟨⟨⟨blankBefore, blankAfter⟩, blankBefore'⟩, blankAfter'⟩
    have sameCore : normalize core = normalize core' := by
      rw [normalize_eq_trim_upperCase, normalize_eq_trim_upperCase, upperCase_eq_iff.2 sameLetters]
    rw [normalize, normalize, Unicode.trim_append_blanks blankBefore blankAfter,
      Unicode.trim_append_blanks blankBefore' blankAfter']
    exact sameCore

theorem contains_ofEntries {entries : List (List Char)} {mnemonic : List Char} :
    (ofEntries entries).contains mnemonic = true ↔
      ∃ entry ∈ entries, normalize entry = upperCase mnemonic := by
  simp [contains, ofEntries, List.mem_eraseDups]

/-- A mnemonic is known if one of the entries spells it. -/
theorem contains_ofEntries_iff {entries : List (List Char)} {mnemonic : List Char}
    (trimmed : Unicode.trim mnemonic = mnemonic) :
    (ofEntries entries).contains mnemonic = true ↔
      ∃ entry ∈ entries, SameSpelling entry mnemonic := by
  have stored : upperCase mnemonic = normalize mnemonic := by rw [normalize, trimmed]
  simp only [contains_ofEntries, stored, normalize_eq_iff]

theorem contains_ofEntries_congr {entries others : List (List Char)}
    (same : SameEntries entries others) (mnemonic : List Char) :
    (ofEntries entries).contains mnemonic = (ofEntries others).contains mnemonic := by
  rw [Bool.eq_iff_iff, contains_ofEntries, contains_ofEntries]
  constructor
  · rintro ⟨entry, mem, stored⟩
    rcases same.1 entry mem with ⟨other, otherMem, spelling⟩
    exact ⟨other, otherMem, (normalize_eq_iff.2 spelling).symm.trans stored⟩
  · rintro ⟨other, mem, stored⟩
    rcases same.2 other mem with ⟨entry, entryMem, spelling⟩
    exact ⟨entry, entryMem, (normalize_eq_iff.2 spelling).trans stored⟩

theorem contains_mono {whitelist larger : Whitelist}
    (subset : whitelist.mnemonics ⊆ larger.mnemonics) {mnemonic : List Char}
    (known : whitelist.contains mnemonic = true) : larger.contains mnemonic = true := by
  simp only [contains, List.contains_iff_mem] at known ⊢
  exact subset known

end Whitelist

theorem isNative_iff {whitelist : Whitelist} {templates : List (List Char)} :
    isNative whitelist templates = true ↔
      ∀ mnemonic ∈ mnemonics templates, whitelist.contains mnemonic = true := by
  simp [isNative, unknownMnemonic?]

theorem isNative_mono {whitelist larger : Whitelist}
    (subset : whitelist.mnemonics ⊆ larger.mnemonics) {templates : List (List Char)}
    (native : isNative whitelist templates = true) : isNative larger templates = true := by
  rw [isNative_iff] at native ⊢
  intro mnemonic mem
  exact Whitelist.contains_mono subset (native mnemonic mem)

/-- The same block, judged twice: the second judgement may only be milder. -/
structure Block.Milder (block judged : Block) : Prop where
  range : judged.range = block.range
  lines : judged.lines = block.lines
  native : block.native = true → judged.native = true

theorem forall₂_milder {whitelist larger : Whitelist}
    (subset : whitelist.mnemonics ⊆ larger.mnemonics) (met : List Event) :
    List.Forall₂ Block.Milder (met.filterMap (Event.block? whitelist))
      (met.filterMap (Event.block? larger)) := by
  induction met with
  | nil => exact .nil
  | cons event later ih =>
      cases event with
      | opened keyword line => exact ih
      | abandoned line => exact ih
      | block read last => exact .cons ⟨rfl, rfl, isNative_mono subset⟩ ih

/-- Of two judgements of the same blocks, the milder one leaves fewer of them. -/
theorem sublist_of_milder {found judged : List Block}
    (milder : List.Forall₂ Block.Milder found judged) :
    ((judged.filter fun block => !block.native).map Block.range).Sublist
      ((found.filter fun block => !block.native).map Block.range) := by
  induction milder with
  | nil => exact List.Sublist.refl _
  | @cons block judged found later milder _ ih =>
      cases native : judged.native with
      | true =>
          rw [List.filter_cons_of_neg (by simp [native])]
          exact ih.trans ((List.sublist_cons_self _ _).filter _ |>.map _)
      | false =>
          have foreign : block.native = false := by
            by_contra isNative
            rw [Bool.not_eq_false] at isNative
            rw [milder.native isNative] at native
            contradiction
          rw [List.filter_cons_of_pos (by simp [native]),
            List.filter_cons_of_pos (by simp [foreign]), List.map_cons, List.map_cons, milder.range]
          exact ih.cons_cons _

/-- Blocks are judged by what the whitelist knows, and by nothing else of it. -/
theorem blocks_congr (dest : Arch) {whitelist other : Whitelist}
    (same : ∀ mnemonic, whitelist.contains mnemonic = other.contains mnemonic) (text : List Char) :
    blocks dest whitelist text = blocks dest other text := by
  have unknown : unknownMnemonic? whitelist = unknownMnemonic? other := by
    funext templates
    simp only [unknownMnemonic?, same]
  have judged : Event.block? whitelist = Event.block? other := by
    funext event
    cases event <;> simp only [Event.block?, isNative, unknown]
  have entries : Event.entries dest whitelist = Event.entries dest other := by
    funext event
    cases event <;> simp only [Event.entries, unknownEntries, unknown]
  rw [blocks, blocks, judged, entries]

/--
A larger whitelist finds the same blocks, keeps every native one native, and so leaves fewer blocks
that the destination cannot run. A whitelist knows the mnemonics that its entries spell, up to ASCII
case and blanks around them, so spelling the entries differently changes nothing.
-/
theorem foreignBlocks_of_larger_whitelist (dest : Arch) (text : List Char) :
    (∀ whitelist larger : Whitelist, whitelist.mnemonics ⊆ larger.mnemonics →
      List.Forall₂ Block.Milder (blocks dest whitelist text).value (blocks dest larger text).value ∧
        (foreignBlocks dest larger text).value.Sublist (foreignBlocks dest whitelist text).value) ∧
    (∀ (entries : List (List Char)) (mnemonic : List Char), Unicode.trim mnemonic = mnemonic →
      ((Whitelist.ofEntries entries).contains mnemonic = true ↔
        ∃ entry ∈ entries, Whitelist.SameSpelling entry mnemonic)) ∧
    ∀ entries others : List (List Char), Whitelist.SameEntries entries others →
      (∀ mnemonic, (Whitelist.ofEntries entries).contains mnemonic =
        (Whitelist.ofEntries others).contains mnemonic) ∧
      blocks dest (.ofEntries entries) text = blocks dest (.ofEntries others) text ∧
      foreignBlocks dest (.ofEntries entries) text =
        foreignBlocks dest (.ofEntries others) text := by
  refine ⟨?_, fun _ _ => Whitelist.contains_ofEntries_iff, ?_⟩
  · intro whitelist larger subset
    have milder := forall₂_milder subset (events text)
    exact ⟨milder, sublist_of_milder milder⟩
  · intro entries others same
    have known := Whitelist.contains_ofEntries_congr same
    have sameBlocks := blocks_congr dest known text
    refine ⟨known, sameBlocks, ?_⟩
    rw [foreignBlocks, foreignBlocks, sameBlocks]

/-- Three instructions, of which the first two share a line. -/
def threeInstructions : List Char :=
  "asm(\"nop\"); asm(\"MOV r0\");\nasm(\"pause\");".toList

/-- One mnemonic, written with blanks around it. -/
def looseEntries : List (List Char) :=
  [" mov\t".toList]

/-- The same mnemonic in another spelling, and one more. -/
def moreEntries : List (List Char) :=
  ["NOP".toList, "Mov".toList]

/-- With `nop` as an entry too, its block is left out; `mov` is known in either spelling. -/
theorem foreignBlocks_of_larger_whitelist_nop :
    ((Whitelist.ofEntries looseEntries).mnemonics ⊆ (Whitelist.ofEntries moreEntries).mnemonics ∧
      (foreignBlocks .arm64 (.ofEntries moreEntries) threeInstructions).value.Sublist
        (foreignBlocks .arm64 (.ofEntries looseEntries) threeInstructions).value ∧
      (foreignBlocks .arm64 (.ofEntries moreEntries) threeInstructions).value = [⟨2, 2⟩]) ∧
    (Unicode.trim "MOV".toList = "MOV".toList ∧
      ∃ entry ∈ looseEntries, Whitelist.SameSpelling entry "MOV".toList) ∧
    Whitelist.SameEntries looseEntries ["Mov".toList] ∧
      (foreignBlocks .arm64 (.ofEntries ["Mov".toList]) threeInstructions).value =
        [⟨1, 1⟩, ⟨2, 2⟩] := by
  rcases foreignBlocks_of_larger_whitelist .arm64 threeInstructions with ⟨fewer, known, unchanged⟩
  have subset : (Whitelist.ofEntries looseEntries).mnemonics ⊆
      (Whitelist.ofEntries moreEntries).mnemonics := by
    decide
  have trimmed : Unicode.trim "MOV".toList = "MOV".toList := by
    decide
  have spelling : Whitelist.SameSpelling " mov\t".toList "Mov".toList :=
    ⟨[' '], "mov".toList, ['\t'], [], "Mov".toList, [], rfl, rfl, by simp [Unicode.isBlank],
      by decide⟩
  have same : Whitelist.SameEntries looseEntries ["Mov".toList] := by
    simpa [Whitelist.SameEntries, looseEntries] using spelling
  refine ⟨⟨subset, (fewer _ _ subset).2, by decide +kernel⟩,
    ⟨trimmed, (known _ _ trimmed).1 (by decide)⟩, same, ?_⟩
  rw [← (unchanged _ _ same).2.2]
  decide +kernel

end Assembly

end CrossArch
