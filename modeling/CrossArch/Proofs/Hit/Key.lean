import CrossArch.Proofs.Hit.Search
import CrossArch.Proofs.Text.Front
import CrossArch.Proofs.Unicode.Word
import Mathlib.Data.String.Basic

/-!
# The longest key

Keys are tried longest first, so the key that is found at a place is the longest of those that stand
there. Said this way, what is found depends on which keys a table has and not on their order. In
source files only the keys count that are bounded there, and next to an ASCII edge bounded means
that the word ends.
-/

namespace CrossArch

namespace Text

/-- A key stands somewhere in a text, and what is before and behind it there is accepted. -/
def StandsBetween (accepts : List Char → List Char → Bool) (key text : List Char) : Prop :=
  ∃ front rest, text = front ++ key ++ rest ∧ accepts front rest = true

/-- What is before the key is known by its length, so it is enough to try all lengths. -/
theorem standsBetween_iff_exists_place {accepts : List Char → List Char → Bool}
    {key text : List Char} :
    (∃ place ∈ List.range (text.length + 1),
      text = text.take place ++ key ++ text.drop (place + key.length) ∧
        accepts (text.take place) (text.drop (place + key.length)) = true) ↔
      StandsBetween accepts key text := by
  constructor
  · rintro ⟨place, -, whole, accepted⟩
    exact ⟨text.take place, text.drop (place + key.length), whole, accepted⟩
  · rintro ⟨front, rest, rfl, accepted⟩
    refine ⟨front.length, by simp [Nat.add_assoc], ?_⟩
    have sameFront : (front ++ key ++ rest).take front.length = front := by simp
    have sameRest : (front ++ key ++ rest).drop (front.length + key.length) = rest := by
      rw [← List.length_append, List.drop_left]
    rw [sameFront, sameRest]
    exact ⟨rfl, accepted⟩

instance (accepts : List Char → List Char → Bool) (key text : List Char) :
    Decidable (StandsBetween accepts key text) :=
  decidable_of_iff _ standsBetween_iff_exists_place

end Text

namespace SearchKey

theorem precedes_iff {key other : String} :
    precedes key other = true ↔
      other.utf8ByteSize < key.utf8ByteSize ∨
        other.utf8ByteSize = key.utf8ByteSize ∧ key ≤ other := by
  simp [precedes]

theorem precedes_trans {key other third : String} (first : precedes key other = true)
    (second : precedes other third = true) : precedes key third = true := by
  rw [precedes_iff] at first second ⊢
  rcases first with shorter | ⟨equal, le⟩ <;> rcases second with shorter' | ⟨equal', le'⟩
  · left
    omega
  · left
    omega
  · left
    omega
  · right
    exact ⟨equal'.trans equal, le_trans le le'⟩

theorem precedes_total (key other : String) :
    (precedes key other || precedes other key) = true := by
  rw [Bool.or_eq_true, precedes_iff, precedes_iff]
  rcases Nat.lt_trichotomy key.utf8ByteSize other.utf8ByteSize with less | equal | greater
  · exact Or.inr (Or.inl less)
  · rcases le_total key other with le | le
    · exact Or.inl (Or.inr ⟨equal.symm, le⟩)
    · exact Or.inr (Or.inr ⟨equal, le⟩)
  · exact Or.inl (Or.inl greater)

theorem precedes_antisymm {key other : String} (first : precedes key other = true)
    (second : precedes other key = true) : key = other := by
  rw [precedes_iff] at first second
  rcases first with shorter | ⟨equal, le⟩ <;> rcases second with shorter' | ⟨equal', le'⟩
  · omega
  · omega
  · omega
  · exact le_antisymm le le'

theorem pairwise_ofTable (table : RuleTable) :
    (ofTable table).Pairwise fun key other => precedes key other = true := by
  apply List.pairwise_mergeSort
  · intro key other third
    exact precedes_trans
  · exact precedes_total

/-- The keys of a table can be ordered in one way only. -/
theorem ofTable_eq_of_sorted {table : RuleTable} {keys : List String}
    (same : keys.Perm (table.keys.filter isSearched))
    (sorted : keys.Pairwise fun key other => precedes key other = true) :
    ofTable table = keys := by
  apply List.Perm.eq_of_pairwise _ (pairwise_ofTable table) sorted
  · exact (List.mergeSort_perm _ _).trans same.symm
  · intro key other _ _
    exact precedes_antisymm

/-- No key comes after one of its proper beginnings. -/
def LongestFirst (keys : List (List Char)) : Prop :=
  keys.Pairwise fun key other => key <+: other → other = key

/-- A beginning of a string that is no shorter in bytes is the whole string. -/
theorem eq_of_prefix_of_size_le {key other : String} (front : key.toList <+: other.toList)
    (size : other.utf8ByteSize ≤ key.utf8ByteSize) : other.toList = key.toList := by
  rcases front with ⟨more, same⟩
  have whole : other = key ++ String.ofList more := by
    rw [← String.toList_inj, ← same]
    simp
  have empty : (String.ofList more).utf8ByteSize = 0 := by
    rw [whole, String.utf8ByteSize_append] at size
    omega
  have none : more = [] := by simpa using empty
  rw [← same, none, List.append_nil]

theorem longestFirst_ofTable (table : RuleTable) :
    LongestFirst ((ofTable table).map String.toList) := by
  apply List.pairwise_map.2
  refine (pairwise_ofTable table).imp ?_
  intro key other before front
  apply eq_of_prefix_of_size_le front
  rcases precedes_iff.1 before with shorter | ⟨equal, -⟩
  · exact shorter.le
  · exact equal.le

/--
Where keys are tried longest first, the key that is read is the longest of those that stand at the
front of a text and are accepted there.
-/
theorem longest_of_findSome? {keys : List (List Char)} {text key rest : List Char}
    {read : List Char → Option (List Char × List Char)} (accepts : List Char → List Char → Prop)
    (reads : ∀ key found, read key = some found ↔
      found.1 = key ∧ text = key ++ found.2 ∧ accepts key found.2)
    (longestFirst : LongestFirst keys) (found : keys.findSome? read = some (key, rest)) :
    key ∈ keys ∧ text = key ++ rest ∧ accepts key rest ∧
      ∀ other ∈ keys, ∀ rest', text = other ++ rest' → accepts other rest' → other <+: key := by
  rcases List.findSome?_eq_some_iff.1 found with ⟨earlier, key', later, rfl, readHere, notEarlier⟩
  rcases (reads key' (key, rest)).1 readHere with ⟨rfl, whole, accepted⟩
  refine ⟨by simp, whole, accepted, ?_⟩
  intro other otherMem rest' whole' accepted'
  rcases List.mem_append.1 otherMem with isEarlier | isHereOrLater
  · have readEarlier := (reads other (other, rest')).2 ⟨rfl, whole', accepted'⟩
    rw [notEarlier other isEarlier] at readEarlier
    contradiction
  · rcases List.mem_cons.1 isHereOrLater with rfl | isLater
    · exact List.prefix_rfl
    · have order := (List.pairwise_cons.1 (List.pairwise_append.1 longestFirst).2.1).1
      rcases List.prefix_or_prefix_of_prefix ⟨rest', whole'.symm⟩ ⟨rest, whole.symm⟩ with
        shorter | longer
      · exact shorter
      · exact (order other isLater longer).symm ▸ List.prefix_rfl

section PlainAt

variable {keys : List (List Char)} {text key rest : List Char}

theorem plainAt?_eq_none_iff : plainAt? keys text = none ↔ ∀ key ∈ keys, ¬key <+: text := by
  simp only [plainAt?, List.findSome?_eq_none_iff, Option.map_eq_none_iff, Text.after?_eq_none_iff]

theorem longest_of_plainAt? (longestFirst : LongestFirst keys)
    (found : plainAt? keys text = some (key, rest)) :
    key ∈ keys ∧ text = key ++ rest ∧ ∀ other ∈ keys, other <+: text → other <+: key := by
  have reads : ∀ key found, (Text.after? key text).map (key, ·) = some found ↔
      found.1 = key ∧ text = key ++ found.2 ∧ True := by
    rintro key ⟨key', rest⟩
    simp only [Option.map_eq_some_iff, Text.after?_eq_some_iff, Prod.mk.injEq, and_true]
    constructor
    · rintro ⟨rest, whole, rfl, rfl⟩
      exact ⟨rfl, whole⟩
    · rintro ⟨rfl, whole⟩
      exact ⟨rest, whole, rfl, rfl⟩
  rcases longest_of_findSome? (fun _ _ => True) reads longestFirst found with
    ⟨keyMem, whole, -, longest⟩
  refine ⟨keyMem, whole, ?_⟩
  rintro other otherMem ⟨rest', whole'⟩
  exact longest other otherMem rest' whole'.symm trivial

/-- The key that is found is the longest of those that stand at the front of a text. -/
theorem plainAt?_eq_some_iff (longestFirst : LongestFirst keys) :
    plainAt? keys text = some (key, rest) ↔
      key ∈ keys ∧ text = key ++ rest ∧ ∀ other ∈ keys, other <+: text → other <+: key := by
  refine ⟨longest_of_plainAt? longestFirst, ?_⟩
  rintro ⟨keyMem, whole, longest⟩
  have front : key <+: text := ⟨rest, whole.symm⟩
  cases found : plainAt? keys text with
  | none => exact absurd front (plainAt?_eq_none_iff.1 found key keyMem)
  | some pair =>
      rcases pair with ⟨key', rest'⟩
      rcases longest_of_plainAt? longestFirst found with ⟨keyMem', whole', longest'⟩
      have shorter := longest key' keyMem' ⟨rest', whole'.symm⟩
      have same : key' = key := shorter.eq_of_length_le (longest' key keyMem front).length_le
      subst same
      rw [whole] at whole'
      rw [List.append_cancel_left whole']

end PlainAt

theorem isWordEdge_of_isAsciiWord {c : Char} (ascii : Unicode.isAsciiWord c = true) :
    isWordEdge c = true := by
  have bounds := Unicode.bounds_of_isAsciiWord ascii
  rw [isWordEdge, Unicode.isAlphanumeric, if_pos (by omega)]
  exact ascii

theorem boundary_of_isAsciiWord {c : Char} (ascii : Unicode.isAsciiWord c = true)
    (neighbour : Option Char) :
    Unicode.atWordBoundary neighbour (some c) = !Unicode.touchesWord neighbour ∧
      Unicode.atWordBoundary (some c) neighbour = !Unicode.touchesWord neighbour := by
  have isWord : Unicode.touchesWord (some c) = true := Unicode.isWord_of_isAsciiWord ascii
  rw [Unicode.atWordBoundary, Unicode.atWordBoundary, isWord]
  cases Unicode.touchesWord neighbour <;> exact ⟨rfl, rfl⟩

section BoundedAt

variable {keys : List (List Char)} {before : Option Char} {text key rest : List Char}

theorem boundedAt?_eq_none_iff :
    boundedAt? keys before text = none ↔
      ∀ key ∈ keys, ∀ rest, text = key ++ rest → isBounded key before rest.head? = false := by
  rw [boundedAt?, List.findSome?_eq_none_iff]
  apply forall₂_congr
  intro key _
  constructor
  · intro nothing rest whole
    rw [Text.after?_eq_some_iff.2 whole] at nothing
    simpa using nothing
  · intro unbounded
    cases standing : Text.after? key text with
    | none => rfl
    | some rest => simp [unbounded rest (Text.after?_eq_some_iff.1 standing)]

theorem bounded_reads_iff (found : List Char × List Char) :
    (do
      let rest ← Text.after? key text
      if isBounded key before rest.head? then return (key, rest) else none) = some found ↔
      found.1 = key ∧ text = key ++ found.2 ∧ isBounded key before found.2.head? = true := by
  rcases found with ⟨key', rest⟩
  rw [Option.bind_eq_bind, Option.bind_eq_some_iff]
  constructor
  · rintro ⟨after, standing, bounded⟩
    split at bounded <;> rename_i isBounded'
    · simp only [Option.pure_def, Option.some.injEq, Prod.mk.injEq] at bounded
      rcases bounded with ⟨rfl, rfl⟩
      exact ⟨rfl, Text.after?_eq_some_iff.1 standing, isBounded'⟩
    · simp at bounded
  · rintro ⟨rfl, whole, isBounded'⟩
    exact ⟨rest, Text.after?_eq_some_iff.2 whole, by simp [isBounded']⟩

theorem parts_of_boundedAt? (found : boundedAt? keys before text = some (key, rest)) :
    key ∈ keys ∧ text = key ++ rest ∧ isBounded key before rest.head? = true := by
  rcases List.exists_of_findSome?_eq_some found with ⟨key', keyMem, read⟩
  rcases (bounded_reads_iff _).1 read with ⟨rfl, parts⟩
  exact ⟨keyMem, parts⟩

/-- The key that is found is the longest of those that stand at the front of a text and are
bounded. -/
theorem longest_of_boundedAt? (longestFirst : LongestFirst keys)
    (found : boundedAt? keys before text = some (key, rest)) :
    key ∈ keys ∧ text = key ++ rest ∧ isBounded key before rest.head? = true ∧
      ∀ other ∈ keys, ∀ rest', text = other ++ rest' → isBounded other before rest'.head? = true →
        other <+: key :=
  longest_of_findSome? (fun key rest => isBounded key before rest.head? = true)
    (fun _ => bounded_reads_iff) longestFirst found

/-- Next to an ASCII edge of a bounded key stands no word character. -/
theorem word_ends_of_isBounded {before after : Option Char}
    (bounded : isBounded key before after = true) :
    (∀ c ∈ key.head?, Unicode.isAsciiWord c = true → Unicode.touchesWord before = false) ∧
      ∀ c ∈ key.getLast?, Unicode.isAsciiWord c = true → Unicode.touchesWord after = false := by
  rw [isBounded, Bool.and_eq_true] at bounded
  constructor
  · intro c first ascii
    have boundary := bounded.1
    rw [Option.mem_def.1 first, Option.any_some, isWordEdge_of_isAsciiWord ascii,
      (boundary_of_isAsciiWord ascii before).1] at boundary
    simpa using boundary
  · intro c last ascii
    have boundary := bounded.2
    rw [Option.mem_def.1 last, Option.any_some, isWordEdge_of_isAsciiWord ascii,
      (boundary_of_isAsciiWord ascii after).2] at boundary
    simpa using boundary

end BoundedAt

end SearchKey

end CrossArch
