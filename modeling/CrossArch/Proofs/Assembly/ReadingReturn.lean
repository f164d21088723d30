import CrossArch.Proofs.Assembly.Reading
import CrossArch.Proofs.Text.LineEnding

/-!
# Reading a block before a carriage return

While a block is read, a carriage return at the end of a line is nothing. Outside of literals it has
no meaning, a literal that it ends up in keeps its mnemonic, and trimming drops it from the line. So
two blocks that are alike stay alike when one of them reads lines with a carriage return added.
-/

namespace CrossArch.Assembly

theorem blankEscape_append_return {letter : Char} (other : letter ≠ '\r') (text : List Char) :
    blankEscape letter (text ++ ['\r']) = blankEscape letter text ++ ['\r'] := by
  fun_induction blankEscape letter text with
  | case1 => rfl
  | case2 c => simp [blankEscape, other.symm]
  | case3 c d rest escape ih => simp [blankEscape, escape, ih]
  | case4 c d rest noEscape ih => simpa [blankEscape, noEscape] using ih

theorem takeWhile_append_return (text : List Char) :
    (text ++ ['\r']).takeWhile (fun c => !Unicode.isBlank c) =
      text.takeWhile fun c => !Unicode.isBlank c := by
  have blank : Unicode.isBlank '\r' = true := by decide
  induction text with
  | nil => simp [blank]
  | cons c rest ih => rw [List.cons_append, List.takeWhile_cons, List.takeWhile_cons, ih]

/-- A carriage return at the end of a literal changes no mnemonic. -/
theorem mnemonic?_append_return (template : List Char) :
    mnemonic? (template ++ ['\r']) = mnemonic? template := by
  have blank : Unicode.isBlank '\r' = true := by decide
  rw [mnemonic?, mnemonic?, blankEscape_append_return (by decide),
    blankEscape_append_return (by decide), List.dropWhile_append, List.dropWhile_cons_of_pos blank]
  cases blankEscape 't' (blankEscape 'n' template) |>.dropWhile Unicode.isBlank with
  | nil => rfl
  | cons c rest => exact congrArg (some ∘ upperCase) (takeWhile_append_return (c :: rest))

namespace Pending

section Reading

variable {pending : Pending}

theorem endLine_of_outside (outside : pending.literal = .outside) : pending.endLine = pending := by
  rw [endLine, outside]

theorem endLine_of_inside {escaped : Bool} {reversed : List Char}
    (inside : pending.literal = .inside escaped reversed) :
    pending.endLine = pending.finishLiteral reversed := by
  rw [endLine, inside]

theorem templates_readOutside? {next : Pending} {c : Char}
    (read : pending.readOutside? c = some next) : next.templates = pending.templates := by
  unfold readOutside? at read
  split_ifs at read <;> cases read <;> rfl

end Reading

/-- Blocks that differ at most in their templates, and there not in the mnemonics. -/
def Alike (pending other : Pending) : Prop :=
  ∃ templates, other = { pending with templates := templates } ∧
    templates.map mnemonic? = pending.templates.map mnemonic?

namespace Alike

variable {pending other : Pending}

theorem refl (pending : Pending) : pending.Alike pending :=
  ⟨pending.templates, rfl, rfl⟩

theorem trans {third : Pending} (first : pending.Alike other) (second : other.Alike third) :
    pending.Alike third := by
  rcases first with ⟨templates, rfl, same⟩
  rcases second with ⟨templates', rfl, same'⟩
  exact ⟨templates', rfl, same'.trans same⟩

theorem literal (alike : pending.Alike other) : other.literal = pending.literal := by
  rcases alike with ⟨templates, rfl, -⟩
  rfl

theorem started (alike : pending.Alike other) : other.started = pending.started := by
  rcases alike with ⟨templates, rfl, -⟩
  rfl

theorem start (alike : pending.Alike other) : other.start = pending.start := by
  rcases alike with ⟨templates, rfl, -⟩
  rfl

theorem lastLine (alike : pending.Alike other) : other.lastLine = pending.lastLine := by
  rcases alike with ⟨templates, rfl, -⟩
  rfl

/-- Alike blocks are judged alike. -/
theorem block? (alike : pending.Alike other) (whitelist : Whitelist) (last : Nat) :
    Event.block? whitelist (.block other last) = Event.block? whitelist (.block pending last) := by
  rcases alike with ⟨templates, rfl, same⟩
  have spread : ∀ texts, mnemonics texts = (texts.map mnemonic?).filterMap id := by
    intro texts
    rw [mnemonics, List.filterMap_map]
    rfl
  simp only [Event.block?, isNative, unknownMnemonic?, spread, same]

theorem noteLine (alike : pending.Alike other) (number : Nat) {line line' : List Char}
    (same : Unicode.trim line' = Unicode.trim line) :
    (pending.noteLine number line).Alike (other.noteLine number line') := by
  rcases alike with ⟨templates, rfl, mnemonics⟩
  unfold Pending.noteLine
  rw [same]
  split <;> exact ⟨templates, rfl, mnemonics⟩

theorem finishLiteral (alike : pending.Alike other) {reversed reversed' : List Char}
    (mnemonic : mnemonic? reversed'.reverse = mnemonic? reversed.reverse) :
    (pending.finishLiteral reversed).Alike (other.finishLiteral reversed') := by
  rcases alike with ⟨templates, rfl, same⟩
  refine ⟨_, rfl, ?_⟩
  simp only [Pending.finishLiteral]
  split
  · rw [List.map_append, List.map_append, same, List.map_singleton, List.map_singleton, mnemonic]
  · exact same

theorem endLine (alike : pending.Alike other) : pending.endLine.Alike other.endLine := by
  have same := alike.literal
  cases literal : pending.literal with
  | outside =>
      rw [endLine_of_outside literal, endLine_of_outside (same.trans literal)]
      exact alike
  | inside escaped reversed =>
      rw [endLine_of_inside literal, endLine_of_inside (same.trans literal)]
      exact alike.finishLiteral rfl

theorem readInside (alike : pending.Alike other) (escaped : Bool) (reversed : List Char)
    (c : Char) :
    (pending.readInside escaped reversed c).Alike (other.readInside escaped reversed c) := by
  unfold Pending.readInside
  split_ifs
  · rcases alike with ⟨templates, rfl, mnemonics⟩
    exact ⟨templates, rfl, mnemonics⟩
  · rcases alike with ⟨templates, rfl, mnemonics⟩
    exact ⟨templates, rfl, mnemonics⟩
  · exact alike.finishLiteral rfl
  · rcases alike with ⟨templates, rfl, mnemonics⟩
    exact ⟨templates, rfl, mnemonics⟩

/-- Outside of literals, templates are not looked at. -/
theorem readOutside? (alike : pending.Alike other) (c : Char) :
    Option.Rel Alike (pending.readOutside? c) (other.readOutside? c) := by
  rcases alike with ⟨templates, rfl, mnemonics⟩
  have same : ({ pending with templates := templates } : Pending).readOutside? c =
      (pending.readOutside? c).map fun next => { next with templates := templates } := by
    simp only [Pending.readOutside?, Pending.started]
    split_ifs <;> rfl
  rw [same]
  cases read : pending.readOutside? c with
  | none => exact .none
  | some next =>
      refine .some ⟨templates, rfl, ?_⟩
      rwa [templates_readOutside? read]

theorem feed (alike : pending.Alike other) (text : List Char) :
    (other.feed text).2 = (pending.feed text).2 ∧
      (pending.feed text).1.Alike (other.feed text).1 := by
  fun_induction Pending.feed pending text generalizing other with
  | case1 pending => exact ⟨rfl, alike⟩
  | case2 pending c rest escaped reversed inside ih =>
      have inside' := alike.literal.trans inside
      simp only [Pending.feed, inside']
      exact ih (alike.readInside escaped reversed c)
  | case3 pending c rest outside next read ih =>
      have outside' := alike.literal.trans outside
      have related := alike.readOutside? c
      rw [read] at related
      generalize read' : other.readOutside? c = next' at related
      cases related with
      | some alike' =>
          simp only [Pending.feed, outside', read']
          exact ih alike'
  | case4 pending c rest outside read =>
      have outside' := alike.literal.trans outside
      have related := alike.readOutside? c
      rw [read] at related
      generalize read' : other.readOutside? c = next' at related
      cases related with
      | none =>
          simp only [Pending.feed, outside', read']
          exact ⟨trivial, alike⟩

end Alike

/-- A text is read before what follows it; what follows is read if the block is still open. -/
theorem feed_append (pending : Pending) (text more : List Char) :
    pending.feed (text ++ more) =
      match (pending.feed text).2 with
      | some after => ((pending.feed text).1, some (after ++ more))
      | none => (pending.feed text).1.feed more := by
  fun_induction feed pending text with
  | case1 pending => rfl
  | case2 pending c rest escaped reversed inside ih =>
      simpa only [List.cons_append, feed, inside] using ih
  | case3 pending c rest outside next read ih =>
      simpa only [List.cons_append, feed, outside, read] using ih
  | case4 pending c rest outside read => simp only [List.cons_append, feed, outside, read]

/-- A carriage return at the end of a line is nothing. -/
theorem feed_return (pending : Pending) :
    (pending.feed ['\r']).2 = none ∧ pending.endLine.Alike (pending.feed ['\r']).1.endLine := by
  cases literal : pending.literal with
  | outside =>
      have read : pending.readOutside? '\r' = some pending := by
        simp [readOutside?]
      simp only [feed, literal, read]
      exact ⟨trivial, .refl _⟩
  | inside escaped reversed =>
      have read : pending.readInside escaped reversed '\r' =
          { pending with literal := .inside false ('\r' :: reversed) } := by
        cases escaped <;> rfl
      simp only [feed, literal, read]
      refine ⟨trivial, ?_⟩
      rw [endLine_of_inside literal, endLine_of_inside rfl]
      apply (Alike.refl pending).finishLiteral
      rw [List.reverse_cons, mnemonic?_append_return]

/-- Alike blocks stay alike when one of them reads a line with a carriage return added. -/
theorem Alike.readLine {pending other : Pending} (alike : pending.Alike other) (text : List Char)
    {ending : List Char} (isEnding : ending = [] ∨ ending = ['\r']) :
    (other.readLine (text ++ ending)).2 = (pending.readLine text).2.map (· ++ ending) ∧
      (pending.readLine text).1.Alike (other.readLine (text ++ ending)).1 := by
  rcases alike.feed text with ⟨sameEnd, fed⟩
  have appended := other.feed_append text ending
  rw [sameEnd] at appended
  simp only [Pending.readLine, appended]
  cases (pending.feed text).2 with
  | some after => exact ⟨rfl, fed⟩
  | none =>
      rcases isEnding with rfl | rfl
      · exact ⟨rfl, fed.endLine⟩
      · rcases (other.feed text).1.feed_return with ⟨goesOn, returned⟩
        simp only [goesOn]
        exact ⟨rfl, fed.endLine.trans returned⟩

end Pending

end CrossArch.Assembly
