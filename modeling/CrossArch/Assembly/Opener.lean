import CrossArch.Unicode.Blank
import CrossArch.Unicode.CaseFold
import CrossArch.Unicode.Word

/-!
# Openers of inline assembly

An opener is one of the keywords `__asm__`, `__asm`, `_asm` and `asm`, written in any case, with any
number of qualifiers after it, and then a bracket or the end of the line. The keyword stands at the
start of a line or after a character that is no word character.
-/

namespace CrossArch.Assembly

/-- The keywords of inline assembly, in the order in which they are tried. -/
def keywords : List (List Char) :=
  [['_', '_', 'a', 's', 'm', '_', '_'], ['_', '_', 'a', 's', 'm'], ['_', 'a', 's', 'm'],
    ['a', 's', 'm']]

/-- The qualifiers that may follow a keyword. -/
def qualifiers : List (List Char) :=
  [['_', '_', 'v', 'o', 'l', 'a', 't', 'i', 'l', 'e', '_', '_'],
    ['_', 'v', 'o', 'l', 'a', 't', 'i', 'l', 'e', '_'],
    ['v', 'o', 'l', 'a', 't', 'i', 'l', 'e'], ['i', 'n', 'l', 'i', 'n', 'e'], ['g', 'o', 't', 'o']]

/-- The regular expression of an opener; the group `asm` holds the keyword. -/
def openerPattern : String :=
  "(?:^|[^\\w])(?P<asm>(?i:__asm__|__asm|_asm|asm))" ++
    "(?i:\\s+(?:__volatile__|_volatile_|volatile|inline|goto))*[ \\t]*(?:[(\x7b]|$)"

/-- Drop the first of several words that a text starts with, compared up to case. -/
def dropAnyFolded? (words : List (List Char)) (text : List Char) : Option (List Char) :=
  words.findSome? fun word => Unicode.dropFolded? word text

/-- Drop one or more blanks and a qualifier. -/
def dropQualifier? (text : List Char) : Option (List Char) :=
  match text with
  | [] => none
  | c :: rest =>
    if Unicode.isBlank c then dropAnyFolded? qualifiers (rest.dropWhile Unicode.isBlank) else none

/-- Drop spaces and tabs and then an opening bracket, or stop at the end of the line. -/
def dropBracket? (text : List Char) : Option (List Char) :=
  match text.dropWhile fun c => c == ' ' || c == '\t' with
  | [] => some []
  | c :: rest =>
    if c = '(' ∨ c = '\x7b' then some rest
    else if c = '\n' then some (c :: rest)
    else none

theorem length_dropFolded? {word text rest : List Char}
    (found : Unicode.dropFolded? word text = some rest) :
    rest.length + word.length = text.length := by
  induction word generalizing text with
  | nil => simp_all [Unicode.dropFolded?]
  | cons w word ih =>
    cases text with
    | nil => simp [Unicode.dropFolded?] at found
    | cons c text =>
      simp only [Unicode.dropFolded?] at found
      split at found
      · have := ih found
        simp only [List.length_cons]
        omega
      · simp at found

theorem length_dropAnyFolded? {words : List (List Char)} {text rest : List Char}
    (found : dropAnyFolded? words text = some rest) : rest.length ≤ text.length := by
  obtain ⟨word, -, dropped⟩ := List.exists_of_findSome?_eq_some found
  have := length_dropFolded? dropped
  omega

theorem length_dropQualifier? {text rest : List Char} (found : dropQualifier? text = some rest) :
    rest.length < text.length := by
  cases text with
  | nil => simp [dropQualifier?] at found
  | cons c text =>
    simp only [dropQualifier?] at found
    split at found
    · have := length_dropAnyFolded? found
      have := (List.dropWhile_suffix (l := text) Unicode.isBlank).length_le
      simp only [List.length_cons]
      omega
    · simp at found

/--
The text after an opener whose keyword has been read: as many qualifiers as possible, then a bracket
or the end of the line.
-/
def tail? (text : List Char) : Option (List Char) :=
  match _qualified : dropQualifier? text with
  | some rest => tail? rest <|> dropBracket? text
  | none => dropBracket? text
  termination_by text.length
  decreasing_by exact length_dropQualifier? _qualified

/-- An opener that has been read. -/
structure Opener where
  /-- The keyword as it is written. -/
  keyword : List Char
  /-- The text after the keyword. -/
  afterKeyword : List Char
  /-- The text after the whole opener. -/
  rest : List Char

/-- The opener whose keyword starts a text. -/
def Opener.ofFront? (text : List Char) : Option Opener :=
  keywords.findSome? fun keyword => do
    let afterKeyword ← Unicode.dropFolded? keyword text
    let rest ← tail? afterKeyword
    return ⟨text.take keyword.length, afterKeyword, rest⟩

/-- The opener at a place: its keyword starts the line, or follows a character that ends no word. -/
def Opener.at? (lineStart : Bool) (text : List Char) : Option Opener :=
  (if lineStart then Opener.ofFront? text else none) <|>
    match text with
    | [] => none
    | c :: rest => if Unicode.isWord c then none else Opener.ofFront? rest

/-- The first opener of a piece of a line; the piece counts as starting a line when `lineStart`
holds. -/
def Opener.find? (lineStart : Bool) : List Char → Option Opener
  | [] => Opener.at? lineStart []
  | c :: rest => Opener.at? lineStart (c :: rest) <|> Opener.find? (c == '\n') rest

theorem suffix_dropFolded? {word text rest : List Char}
    (found : Unicode.dropFolded? word text = some rest) : text = text.take word.length ++ rest := by
  induction word generalizing text with
  | nil => simp_all [Unicode.dropFolded?]
  | cons w word ih =>
    cases text with
    | nil => simp [Unicode.dropFolded?] at found
    | cons c text =>
      simp only [Unicode.dropFolded?] at found
      split at found
      · simpa using ih found
      · simp at found

theorem suffix_dropBracket? {text rest : List Char} (found : dropBracket? text = some rest) :
    rest <:+ text := by
  have skipped := List.dropWhile_suffix (l := text) fun c => c == ' ' || c == '\t'
  unfold dropBracket? at found
  split at found
  · simp only [Option.some.injEq] at found
    subst found
    exact List.nil_suffix
  · rename_i c after same
    rw [same] at skipped
    split at found
    · simp only [Option.some.injEq] at found
      exact found ▸ (List.suffix_cons c after).trans skipped
    · split at found
      · simp only [Option.some.injEq] at found
        exact found ▸ skipped
      · simp at found

theorem suffix_dropQualifier? {text rest : List Char} (found : dropQualifier? text = some rest) :
    rest <:+ text := by
  cases text with
  | nil => simp [dropQualifier?] at found
  | cons c text =>
    simp only [dropQualifier?] at found
    split at found
    · obtain ⟨word, -, dropped⟩ := List.exists_of_findSome?_eq_some found
      have split := suffix_dropFolded? dropped
      have inner : rest <:+ text.dropWhile Unicode.isBlank := ⟨_, split.symm⟩
      exact (inner.trans (List.dropWhile_suffix _)).trans (List.suffix_cons c text)
    · simp at found

theorem suffix_tail? {text rest : List Char} (found : tail? text = some rest) : rest <:+ text := by
  fun_induction tail? text with
  | case1 text after qualified ih =>
    simp only [Option.orElse_eq_orElse, Option.orElse_eq_or, Option.or_eq_some_iff] at found
    rcases found with found | ⟨-, found⟩
    · exact (ih found).trans (suffix_dropQualifier? qualified)
    · exact suffix_dropBracket? found
  | case2 text qualified => exact suffix_dropBracket? found

/-- The text of an opener is its keyword, what follows it in the opener, and the rest. -/
theorem Opener.eq_append_of_ofFront? {text : List Char} {opener : Opener}
    (found : Opener.ofFront? text = some opener) :
    text = opener.keyword ++ opener.afterKeyword ∧ opener.rest <:+ opener.afterKeyword ∧
      opener.keyword ≠ [] := by
  obtain ⟨keyword, mem, read⟩ := List.exists_of_findSome?_eq_some found
  simp only [Option.bind_eq_bind, Option.bind_eq_some_iff, Option.pure_def,
    Option.some.injEq] at read
  obtain ⟨afterKeyword, dropped, rest, ended, rfl⟩ := read
  refine ⟨suffix_dropFolded? dropped, suffix_tail? ended, ?_⟩
  have size := length_dropFolded? dropped
  have positive : 0 < keyword.length := by
    simp only [keywords, List.mem_cons, List.not_mem_nil, or_false] at mem
    rcases mem with rfl | rfl | rfl | rfl <;> simp
  simp only [ne_eq, List.take_eq_nil_iff, not_or]
  constructor
  · omega
  · rintro rfl
    simp only [List.length_nil] at size
    omega

theorem Opener.length_ofFront? {text : List Char} {opener : Opener}
    (found : Opener.ofFront? text = some opener) : opener.afterKeyword.length < text.length := by
  obtain ⟨keyword, mem, read⟩ := List.exists_of_findSome?_eq_some found
  simp only [Option.bind_eq_bind, Option.bind_eq_some_iff, Option.pure_def,
    Option.some.injEq] at read
  obtain ⟨afterKeyword, dropped, rest, -, rfl⟩ := read
  have size := length_dropFolded? dropped
  have positive : 0 < keyword.length := by
    simp only [keywords, List.mem_cons, List.not_mem_nil, or_false] at mem
    rcases mem with rfl | rfl | rfl | rfl <;> simp
  simp only
  omega

theorem Opener.length_at? {lineStart : Bool} {text : List Char} {opener : Opener}
    (found : Opener.at? lineStart text = some opener) :
    opener.afterKeyword.length < text.length := by
  simp only [Opener.at?, Option.orElse_eq_orElse, Option.orElse_eq_or, Option.or_eq_some_iff]
    at found
  rcases found with found | ⟨-, found⟩
  · split at found
    · exact Opener.length_ofFront? found
    · simp at found
  · split at found
    · simp at found
    · split at found
      · simp at found
      · have := Opener.length_ofFront? found
        simp only [List.length_cons]
        omega

/-- Finding an opener reads at least its keyword. -/
theorem Opener.length_find? {lineStart : Bool} {text : List Char} {opener : Opener}
    (found : Opener.find? lineStart text = some opener) :
    opener.afterKeyword.length < text.length := by
  induction text generalizing lineStart with
  | nil => exact Opener.length_at? found
  | cons c rest ih =>
    simp only [Opener.find?, Option.orElse_eq_orElse, Option.orElse_eq_or,
      Option.or_eq_some_iff] at found
    rcases found with found | ⟨-, found⟩
    · exact Opener.length_at? found
    · have := ih found
      simp only [List.length_cons]
      omega

end CrossArch.Assembly
