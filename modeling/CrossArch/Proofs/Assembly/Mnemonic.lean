import CrossArch.Assembly.Block

/-!
# The first token of a template literal

A mnemonic is found by blanking the escaped newlines and tabs of a literal and then splitting it at
blanks. The same token is found in one pass, which stops at blanks and at the two escapes.
-/

namespace CrossArch.Assembly

/-- The characters in front of the first blank or escaped newline or tab. -/
def token : List Char → List Char
  | [] => []
  | '\\' :: 'n' :: _ => []
  | '\\' :: 't' :: _ => []
  | c :: rest => if Unicode.isBlank c then [] else c :: token rest

/-- The first token of a literal, where blanks and escaped newlines and tabs delimit tokens. -/
def firstToken? : List Char → Option (List Char)
  | [] => none
  | '\\' :: 'n' :: rest => firstToken? rest
  | '\\' :: 't' :: rest => firstToken? rest
  | c :: rest => if Unicode.isBlank c then firstToken? rest else some (c :: token rest)

theorem blankEscape_cons {letter c : Char} {rest : List Char}
    (noEscape : ∀ tail, c = '\\' → rest = letter :: tail → False) :
    blankEscape letter (c :: rest) = c :: blankEscape letter rest := by
  cases rest with
  | nil => rfl
  | cons d tail =>
      rw [blankEscape, if_neg]
      rintro ⟨rfl, rfl⟩
      exact noEscape tail rfl rfl

/-- Blanking brings no letter to the front. -/
theorem eq_cons_of_blankEscape {letter c : Char} {text tail : List Char} (notSpace : c ≠ ' ')
    (starts : blankEscape letter text = c :: tail) : ∃ rest, text = c :: rest := by
  fun_cases blankEscape letter text with
  | case1 => simp [blankEscape] at starts
  | case2 d =>
      rw [blankEscape, List.cons.injEq] at starts
      exact ⟨[], by rw [starts.1]⟩
  | case3 d e rest escape =>
      rw [blankEscape, if_pos escape, List.cons.injEq] at starts
      exact absurd starts.1.symm notSpace
  | case4 d e rest noEscape =>
      rw [blankEscape, if_neg noEscape, List.cons.injEq] at starts
      exact ⟨e :: rest, by rw [starts.1]⟩

/-- A literal with its escaped newlines and tabs blanked. -/
def blanked (template : List Char) : List Char :=
  blankEscape 't' (blankEscape 'n' template)

theorem blanked_newline (rest : List Char) :
    blanked ('\\' :: 'n' :: rest) = ' ' :: blanked rest := by
  rw [blanked, blankEscape, if_pos ⟨rfl, rfl⟩]
  exact blankEscape_cons (by simp)

theorem blanked_tab (rest : List Char) : blanked ('\\' :: 't' :: rest) = ' ' :: blanked rest := by
  have first : blankEscape 'n' ('\\' :: 't' :: rest) = '\\' :: 't' :: blankEscape 'n' rest := by
    rw [blankEscape_cons (by simp), blankEscape_cons (by simp)]
  rw [blanked, first, blankEscape, if_pos ⟨rfl, rfl⟩, blanked]

theorem blanked_cons {c : Char} {rest : List Char}
    (noNewline : ∀ tail, c = '\\' → rest = 'n' :: tail → False)
    (noTab : ∀ tail, c = '\\' → rest = 't' :: tail → False) :
    blanked (c :: rest) = c :: blanked rest := by
  rw [blanked, blankEscape_cons noNewline, blankEscape_cons]
  · rfl
  · intro tail backslash starts
    rcases eq_cons_of_blankEscape (by decide) starts with ⟨rest, same⟩
    exact noTab rest backslash same

theorem token_eq (template : List Char) :
    token template = (blanked template).takeWhile fun c => !Unicode.isBlank c := by
  fun_induction token template with
  | case1 => rfl
  | case2 rest =>
      rw [blanked_newline]
      rfl
  | case3 rest =>
      rw [blanked_tab]
      rfl
  | case4 c rest noNewline noTab blank => simp [blanked_cons noNewline noTab, blank]
  | case5 c rest noNewline noTab notBlank ih => simp [blanked_cons noNewline noTab, notBlank, ih]

/-- A blank in front of a literal does not count. -/
theorem mnemonic?_of_blank {template rest : List Char} {c : Char} (blank : Unicode.isBlank c = true)
    (starts : blanked template = c :: blanked rest) : mnemonic? template = mnemonic? rest := by
  have same : (blanked template).dropWhile Unicode.isBlank =
      (blanked rest).dropWhile Unicode.isBlank := by
    rw [starts, List.dropWhile_cons_of_pos blank]
  rw [blanked, blanked] at same
  rw [mnemonic?, mnemonic?, same]

/-- A mnemonic is the first token in upper case. -/
theorem mnemonic?_eq (template : List Char) :
    mnemonic? template = (firstToken? template).map upperCase := by
  fun_induction firstToken? template with
  | case1 => rfl
  | case2 rest ih => rw [mnemonic?_of_blank rfl (blanked_newline rest), ih]
  | case3 rest ih => rw [mnemonic?_of_blank rfl (blanked_tab rest), ih]
  | case4 c rest noNewline noTab blank ih =>
      rw [mnemonic?_of_blank blank (blanked_cons noNewline noTab), ih]
  | case5 c rest noNewline noTab notBlank =>
      have starts := blanked_cons noNewline noTab
      rw [blanked] at starts
      rw [mnemonic?, starts]
      simp [notBlank, token_eq]

example : mnemonic? "\\n \\tmov\\t%0".toList = some "MOV".toList := by
  decide

/-- A template is native if the whitelist has the first tokens of its literals. -/
theorem isNative_eq (whitelist : Whitelist) (templates : List (List Char)) :
    isNative whitelist templates =
      templates.all fun template =>
        (firstToken? template).all fun token => whitelist.contains (upperCase token) := by
  have known : ∀ template,
      (firstToken? template).all (fun token => whitelist.contains (upperCase token)) = true ↔
        ∀ mnemonic, mnemonic? template = some mnemonic → whitelist.contains mnemonic = true := by
    intro template
    rw [mnemonic?_eq]
    cases firstToken? template <;> simp
  rw [isNative, unknownMnemonic?, mnemonics, Bool.eq_iff_iff, Option.isNone_iff_eq_none,
    List.find?_eq_none, List.all_eq_true]
  constructor
  · intro all template mem
    rw [known]
    intro mnemonic found
    simpa using all mnemonic (List.mem_filterMap.2 ⟨template, mem, found⟩)
  · intro all mnemonic mem
    rcases List.mem_filterMap.1 mem with ⟨template, templateMem, found⟩
    simpa using (known template).1 (all template templateMem) mnemonic found

end CrossArch.Assembly
