/-!
# Dictionaries

Finite maps from strings, kept in ascending order of the keys. An entry put under a key that is
already there replaces the old one.
-/

namespace CrossArch

/-- A finite map from strings. -/
structure Dictionary (α : Type) where
  /-- The entries, in ascending order of the keys. -/
  entries : List (String × α)
  deriving DecidableEq, Repr

namespace Dictionary

variable {α : Type}

/-- The dictionary without entries. -/
def empty : Dictionary α :=
  ⟨[]⟩

/-- Put an entry into a list of entries. -/
def insertEntry (key : String) (value : α) : List (String × α) → List (String × α)
  | [] => [(key, value)]
  | (other, old) :: rest =>
    if key < other then (key, value) :: (other, old) :: rest
    else if key = other then (key, value) :: rest
    else (other, old) :: insertEntry key value rest

/-- Put an entry; it replaces what was there under its key. -/
def insert (dictionary : Dictionary α) (key : String) (value : α) : Dictionary α :=
  ⟨insertEntry key value dictionary.entries⟩

/-- The dictionary of some entries; of two under one key the later one counts. -/
def ofList (entries : List (String × α)) : Dictionary α :=
  entries.foldl (fun dictionary entry => dictionary.insert entry.1 entry.2) empty

/-- The value under a key. -/
def find? (dictionary : Dictionary α) (key : String) : Option α :=
  dictionary.entries.lookup key

/-- Whether there is an entry under a key. -/
def contains (dictionary : Dictionary α) (key : String) : Bool :=
  (dictionary.find? key).isSome

/-- The keys, in ascending order. -/
def keys (dictionary : Dictionary α) : List String :=
  dictionary.entries.map Prod.fst

/-- The number of entries. -/
def size (dictionary : Dictionary α) : Nat :=
  dictionary.entries.length

theorem lookup_insertEntry (key other : String) (value : α) (entries : List (String × α)) :
    (insertEntry key value entries).lookup other =
      if other = key then some value else entries.lookup other := by
  induction entries with
  | nil =>
    by_cases same : other = key
    · simp [insertEntry, same]
    · have differs : (other == key) = false := by simpa using same
      simp [insertEntry, List.lookup_cons, same, differs]
  | cons entry rest ih =>
    obtain ⟨old, oldValue⟩ := entry
    simp only [insertEntry]
    split
    · by_cases same : other = key
      · simp [same]
      · have differs : (other == key) = false := by simpa using same
        simp [List.lookup_cons, same, differs]
    · split
      · rename_i equal
        subst equal
        by_cases same : other = key
        · simp [same]
        · have differs : (other == key) = false := by simpa using same
          simp [List.lookup_cons, same, differs]
      · rename_i different
        by_cases here : other = old
        · subst here
          simp [Ne.symm different]
        · have differs : (other == old) = false := by simpa using here
          simp [List.lookup_cons, differs, ih]

/-- After an entry is put, its key has its value and every other key keeps what it had. -/
@[simp] theorem find?_insert (dictionary : Dictionary α) (key other : String) (value : α) :
    (dictionary.insert key value).find? other =
      if other = key then some value else dictionary.find? other :=
  lookup_insertEntry key other value dictionary.entries

@[simp] theorem find?_empty (key : String) : (empty : Dictionary α).find? key = none := rfl

end Dictionary

end CrossArch
