import CrossArch.Toml.Scalar

/-!
# TOML documents

A document is a table, written as lines of keys with values under headers that name tables. No key
may be given twice, and a table is opened in one way only: by a header, by dotted keys, or by
braces.
-/

namespace CrossArch.Toml

/-- How a table came to be. -/
inductive TableOrigin where
  /-- On the way to a table that has a header. -/
  | implied
  /-- By a header. -/
  | header
  /-- By dotted keys. -/
  | dotted
  deriving DecidableEq, Repr

/-- A value of a document. -/
inductive Value where
  | string (content : String)
  /-- A number, a truth value or a time. -/
  | scalar
  | array (items : List Value)
  /-- A table in braces, which nothing can be added to. -/
  | inline (entries : List (String × Value))
  | table (origin : TableOrigin) (entries : List (String × Value))
  /-- Tables under one repeated header, the last of them first. -/
  | tables (items : List (List (String × Value)))

/-- The entries of a table. -/
abbrev Entries := List (String × Value)

/-- Replace or add the value of a key. -/
def Entries.set (entries : Entries) (key : String) (value : Value) : Entries :=
  if (entries.lookup key).isSome then
    entries.map fun entry => if entry.1 = key then (key, value) else entry
  else entries ++ [(key, value)]

/-- Add a value under a dotted key; the tables on the way may only come from dotted keys. -/
def addDotted? (value : Value) (entries : Entries) : List String → Option Entries
  | [] => none
  | [key] => if (entries.lookup key).isSome then none else some (entries.set key value)
  | key :: later =>
    match entries.lookup key with
    | none => do return entries.set key (.table .dotted (← addDotted? value [] later))
    | some (.table .dotted inner) => do
      return entries.set key (.table .dotted (← addDotted? value inner later))
    | some _ => none

/-- Change the table that a header names. -/
def changeAt? (change : Entries → Option Entries) (entries : Entries) : List String → Option Entries
  | [] => change entries
  | key :: later =>
    match entries.lookup key with
    | some (.table origin inner) => do
      return entries.set key (.table origin (← changeAt? change inner later))
    | some (.tables (last :: earlier)) => do
      return entries.set key (.tables ((← changeAt? change last later) :: earlier))
    | _ => none

/-- Open the table of a header `[a.b]`. -/
def openTable? (entries : Entries) : List String → Option Entries
  | [] => none
  | [key] =>
    match entries.lookup key with
    | none => some (entries.set key (.table .header []))
    | some (.table .implied inner) => some (entries.set key (.table .header inner))
    | some _ => none
  | key :: later =>
    match entries.lookup key with
    | none => do return entries.set key (.table .implied (← openTable? [] later))
    | some (.table origin inner) => do
      return entries.set key (.table origin (← openTable? inner later))
    | some (.tables (last :: earlier)) => do
      return entries.set key (.tables ((← openTable? last later) :: earlier))
    | some _ => none

/-- Open one more table of a header `[[a.b]]`. -/
def openItem? (entries : Entries) : List String → Option Entries
  | [] => none
  | [key] =>
    match entries.lookup key with
    | none => some (entries.set key (.tables [[]]))
    | some (.tables items) => some (entries.set key (.tables ([] :: items)))
    | some _ => none
  | key :: later =>
    match entries.lookup key with
    | none => do return entries.set key (.table .implied (← openItem? [] later))
    | some (.table origin inner) => do
      return entries.set key (.table origin (← openItem? inner later))
    | some (.tables (last :: earlier)) => do
      return entries.set key (.tables ((← openItem? last later) :: earlier))
    | some _ => none

/-! ## Reading -/

/-- Whether a character may stand in a key without quotes. -/
def isKeyChar (c : Char) : Bool :=
  c.isAlphanum || c == '_' || c == '-'

/-- One part of a key. -/
def keyPart? (text : List Char) : Option (String × List Char) :=
  match text with
  | '"' :: rest => do
    let (content, after) ← basic? (rest.length + 1) rest
    return (String.ofList content, after)
  | '\'' :: rest => do
    let (content, after) ← literal? rest
    return (String.ofList content, after)
  | _ =>
    let key := text.takeWhile isKeyChar
    if key.isEmpty then none else some (String.ofList key, text.drop key.length)

/-- A dotted key and the text after the space that follows it. -/
def key? : Nat → List Char → Option (List String × List Char)
  | 0, _ => none
  | bound + 1, text => do
    let (part, rest) ← keyPart? text
    match skipSpace rest with
    | '.' :: later => do
      let (parts, after) ← key? bound (skipSpace later)
      return (part :: parts, after)
    | after => return ([part], after)

/-- Drop space, line breaks and comments. -/
def skipLines? : Nat → List Char → Option (List Char)
  | 0, text => some text
  | bound + 1, text => do
    let after ← comment? (skipSpace text)
    match newline? after with
    | some rest => skipLines? bound rest
    | none => return after

mutual

/-- A value at the front of a text. -/
def value? (bound : Nat) (text : List Char) : Option (Value × List Char) :=
  match bound with
  | 0 => none
  | bound + 1 =>
    match text with
    | '"' :: _ | '\'' :: _ => do
      let (content, rest) ← string? text
      return (.string (String.ofList content), rest)
    | '[' :: rest => do
      let (items, after) ← items? bound rest
      return (.array items, after)
    | '\x7b' :: rest => do
      let (entries, after) ← fields? bound [] rest
      return (.inline entries, after)
    | _ => (word? text).map (Value.scalar, ·)

/-- The items of an array up to its closing bracket. -/
def items? (bound : Nat) (text : List Char) : Option (List Value × List Char) :=
  match bound with
  | 0 => none
  | bound + 1 => do
    match ← skipLines? (text.length + 1) text with
    | ']' :: after => return ([], after)
    | start => do
      let (item, rest) ← value? bound start
      match ← skipLines? (rest.length + 1) rest with
      | ',' :: more => do
        let (items, after) ← items? bound more
        return (item :: items, after)
      | ']' :: after => return ([item], after)
      | _ => none

/-- The fields of a table in braces, after those already read, up to the closing brace. -/
def fields? (bound : Nat) (entries : Entries) (text : List Char) :
    Option (Entries × List Char) :=
  match bound with
  | 0 => none
  | bound + 1 => do
    match ← skipLines? (text.length + 1) text with
    | '\x7d' :: after => return (entries, after)
    | start => do
      let (key, afterKey) ← key? start.length start
      match afterKey with
      | '=' :: afterSign => do
        let (value, rest) ← value? bound (skipSpace afterSign)
        let extended ← addDotted? value entries key
        match ← skipLines? (rest.length + 1) rest with
        | ',' :: more => fields? bound extended more
        | '\x7d' :: after => return (extended, after)
        | _ => none
      | _ => none

end

/-- The text after the end of a line, with nothing but space and a comment before it. -/
def endLine? (text : List Char) : Option (List Char) := do
  let after ← comment? (skipSpace text)
  if after.isEmpty then return [] else newline? after

/-- What has been read of a document: its entries, and the header that holds. -/
structure Progress where
  entries : Entries
  header : List String

/-- One line with a header or a key, at the front of a text. -/
def line? (progress : Progress) (text : List Char) : Option (Progress × List Char) :=
  match text with
  | '[' :: '[' :: rest => do
    let (key, after) ← key? (rest.length + 1) (skipSpace rest)
    match after with
    | ']' :: ']' :: ended => return (⟨← openItem? progress.entries key, key⟩, ← endLine? ended)
    | _ => none
  | '[' :: rest => do
    let (key, after) ← key? (rest.length + 1) (skipSpace rest)
    match after with
    | ']' :: ended => return (⟨← openTable? progress.entries key, key⟩, ← endLine? ended)
    | _ => none
  | _ => do
    let (key, after) ← key? (text.length + 1) text
    match after with
    | '=' :: afterSign => do
      let (value, rest) ← value? (2 * text.length + 2) (skipSpace afterSign)
      let add (entries : Entries) : Option Entries := addDotted? value entries key
      return (⟨← changeAt? add progress.entries progress.header, progress.header⟩, ← endLine? rest)
    | _ => none

/-- The lines of a document. -/
def lines? : Nat → Progress → List Char → Option Progress
  | 0, _, _ => none
  | bound + 1, progress, text => do
    match ← skipLines? (text.length + 1) text with
    | [] => return progress
    | start => do
      let (next, rest) ← line? progress start
      lines? bound next rest

/-- The table that a document holds; a byte order mark at its start does not count. -/
def read? (text : List Char) : Option Entries := do
  let body := match text with
    | '﻿' :: rest => rest
    | _ => text
  let progress ← lines? (body.length + 1) ⟨[], []⟩ body
  return progress.entries

end CrossArch.Toml
