import AccessGovernance.Settings.Toml.Quoted
import AccessGovernance.Settings.Toml.Scalar
import AccessGovernance.Settings.Toml.Table

/-! # TOML documents

A document is read line by line into a table. Of any two steps of reading one after the other, one
at least takes a character, so twice the number of characters bounds the number of steps.
-/

namespace AccessGovernance

namespace Toml

def skipBlanks (s : List Char) : List Char :=
  s.dropWhile fun c => c = ' ' || c = '\t'

/-- The text after a comment that starts here, if one does; nothing, if the comment is malformed. -/
def skipComment : List Char → Option (List Char)
  | '#' :: rest => some (rest.dropWhile isAllowed)
  | rest => some rest

/-- The text after the end of a line, before which blanks and a comment may stand. -/
def endLine (s : List Char) : Option (List Char) := do
  match ← skipComment (skipBlanks s) with
  | [] => some []
  | '\n' :: rest => some rest
  | '\r' :: '\n' :: rest => some rest
  | _ => none

def skipLines : Nat → List Char → Option (List Char)
  | 0, s => some s
  | fuel + 1, s => do
      match ← skipComment (skipBlanks s) with
      | '\n' :: rest => skipLines fuel rest
      | '\r' :: '\n' :: rest => skipLines fuel rest
      | rest => some rest

def isBareKeyPart (c : Char) : Bool :=
  c.isAlphanum || c = '_' || c = '-'

/-- Reads a name in a key: bare, or quoted in one line. -/
def scanName (s : List Char) : Option (String × List Char) :=
  if s.head? = some '"' || s.head? = some '\'' then
    (scanLine s).map fun p => (String.ofList p.1, p.2)
  else
    let name := s.takeWhile isBareKeyPart
    if name = [] then none else some (String.ofList name, s.dropWhile isBareKeyPart)

/-- Reads names with dots between them, of which there may be at most the given count. -/
def scanNames : Nat → List Char → Option (List String × List Char)
  | 0, _ => none
  | limit + 1, s => do
      let (name, rest) ← scanName (skipBlanks s)
      match skipBlanks rest with
      | '.' :: rest => do
          let (names, rest) ← scanNames limit rest
          return (name :: names, rest)
      | rest => return ([name], rest)

/-- How many names a key may have, and how deep arrays and tables in braces may be nested. -/
def depthLimit : Nat :=
  79

def scanKey (s : List Char) : Option (List String × List Char) :=
  scanNames depthLimit s

def isWordPart (c : Char) : Bool :=
  !(c ∈ [' ', '\t', '\r', '\n', ',', ']', '\x7d', '#'])

/-- Reads a value without delimiters. A date and a time may have a single space between them. -/
def scanScalar (s : List Char) : Option (SettingValue × List Char) :=
  let word := s.takeWhile isWordPart
  let rest := s.dropWhile isWordPart
  match rest with
  | ' ' :: c :: more =>
      if isDate word && c.isDigit then
        let word := word ++ ' ' :: (c :: more).takeWhile isWordPart
        (scalar? word).map fun v => (v, (c :: more).dropWhile isWordPart)
      else (scalar? word).map fun v => (v, rest)
  | rest => (scalar? word).map fun v => (v, rest)

mutual

/-- Reads a value inside of which values may be nested to the given depth. -/
def scanValue : Nat → Nat → List Char → Option (SettingValue × List Char)
  | 0, _, _ => none
  | fuel + 1, depth, s =>
      match s with
      | '[' :: rest => if depth = 0 then none else scanArray fuel (depth - 1) [] rest
      | '\x7b' :: rest =>
          if depth = 0 then none
          else
            match skipBlanks rest with
            | '\x7d' :: rest => some (.table [], rest)
            | rest => scanInline fuel (depth - 1) [] rest
      | '"' :: _ | '\'' :: _ => (scanString s).map fun p => (.string (String.ofList p.1), p.2)
      | s => scanScalar s

/-- Reads the items of an array, given those before them, the last one first. -/
def scanArray : Nat → Nat → List SettingValue → List Char → Option (SettingValue × List Char)
  | 0, _, _, _ => none
  | fuel + 1, depth, items, s => do
      match ← skipLines fuel s with
      | ']' :: rest => some (.list items.reverse, rest)
      | s =>
          let (v, rest) ← scanValue fuel depth s
          match ← skipLines fuel rest with
          | ',' :: rest => scanArray fuel depth (v :: items) rest
          | ']' :: rest => some (.list (v :: items).reverse, rest)
          | _ => none

/-- Reads the entries of a table in braces, given those before them. -/
def scanInline : Nat → Nat → Entries → List Char → Option (SettingValue × List Char)
  | 0, _, _, _ => none
  | fuel + 1, depth, entries, s => do
      let (key, rest) ← scanKey s
      match rest with
      | '=' :: rest => do
          let (v, rest) ← scanValue fuel depth (skipBlanks rest)
          let entries ← define key v entries
          match skipBlanks rest with
          | ',' :: rest => scanInline fuel depth entries rest
          | '\x7d' :: rest => some (.table (entriesToValues entries), rest)
          | _ => none
      | _ => none

end

/-- The entries of the document so far, and the path of the table that a header has opened. -/
structure Document where
  root : Entries
  current : List String

def Document.open (d : Document) (start : String → Origin → Entries → Option Entries)
    (path : List String) : Option Document := do
  let last ← path.getLast?
  let root ← updateAt .implied (start last) path.dropLast .header d.root
  return ⟨root, path⟩

def scanStatement (fuel : Nat) (d : Document) (s : List Char) : Option (Document × List Char) :=
  match s with
  | '[' :: '[' :: rest => do
      let (path, rest) ← scanKey rest
      match rest with
      | ']' :: ']' :: rest => return (← d.open startElement path, ← endLine rest)
      | _ => none
  | '[' :: rest => do
      let (path, rest) ← scanKey rest
      match rest with
      | ']' :: rest => return (← d.open startTable path, ← endLine rest)
      | _ => none
  | s => do
      let (key, rest) ← scanKey s
      match rest with
      | '=' :: rest => do
          let (v, rest) ← scanValue fuel depthLimit (skipBlanks rest)
          let root ← updateAt .implied (fun _ => define key v) d.current .header d.root
          return (⟨root, d.current⟩, ← endLine rest)
      | _ => none

def scanStatements : Nat → Document → List Char → Option Document
  | 0, _, _ => none
  | fuel + 1, d, s => do
      match ← skipLines fuel s with
      | [] => some d
      | s =>
          let (d, rest) ← scanStatement fuel d s
          scanStatements fuel d rest

def withoutMark : List Char → List Char
  | '\ufeff' :: rest => rest
  | rest => rest

/-- Reads a document. A mark of the byte order may come before it. -/
def ofText? (s : String) : Option SettingValue :=
  let chars := withoutMark s.toList
  (scanStatements (2 * chars.length + 2) ⟨[], []⟩ chars).map fun d =>
    .table (entriesToValues d.root)

end Toml

end AccessGovernance
