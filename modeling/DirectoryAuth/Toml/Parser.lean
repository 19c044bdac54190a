import DirectoryAuth.Toml.Quoted
import DirectoryAuth.Toml.Scalar
import DirectoryAuth.Toml.Tree

/-! Reading TOML documents of version 1.1. -/
namespace DirectoryAuth.Toml

/-- Values nest at most this deep. -/
def maxDepth : Nat := 80

/-- The items of an array, after its opening bracket or a comma. At most `limit` are read. -/
def readItems? (readItem? : Chars → Option (Value × Chars)) (limit : Nat) (cs : Chars) :
    Option (List Value × Chars) :=
  match limit with
  | 0 => none
  | limit + 1 => do
    match ← skipTrivia false cs with
    | ']' :: rest => pure ([], rest)
    | cs =>
      let (item, rest) ← readItem? cs
      match ← skipTrivia false rest with
      | ',' :: rest =>
        let (items, rest) ← readItems? readItem? limit rest
        pure (item :: items, rest)
      | ']' :: rest => pure ([item], rest)
      | _ => none

/-- A key and the value after its equals sign, around which `skip?` passes over characters. -/
def readPair? (skip? : Chars → Option Chars) (readItem? : Chars → Option (Value × Chars))
    (cs : Chars) : Option (List String × Value × Chars) := do
  let (key, rest) ← readKey? maxKeyParts cs
  match ← skip? rest with
  | '=' :: rest =>
    let (item, rest) ← readItem? (← skip? rest)
    pure (key, item, rest)
  | _ => none

/-- The entries of an inline table, after its opening brace or a comma. -/
def readEntries? (readItem? : Chars → Option (Value × Chars)) (limit : Nat) (entries : Entries)
    (cs : Chars) : Option (Entries × Chars) :=
  match limit with
  | 0 => none
  | limit + 1 => do
    match ← skipTrivia false cs with
    | '\x7d' :: rest => pure (entries, rest)
    | cs =>
      let (key, item, rest) ← readPair? (skipTrivia false) readItem? cs
      let entries ← addValue item key entries
      match ← skipTrivia false rest with
      | ',' :: rest => readEntries? readItem? limit entries rest
      | '\x7d' :: rest => pure (entries, rest)
      | _ => none

/-- A value in which arrays and inline tables nest at most `depth` deep. -/
def readValue? (depth : Nat) (cs : Chars) : Option (Value × Chars) :=
  match cs with
  | '[' :: rest =>
    match depth with
    | 0 => none
    | depth + 1 =>
      (readItems? (readValue? depth) (rest.length + 1) rest).map fun r => (.array r.1, r.2)
  | '\x7b' :: rest =>
    match depth with
    | 0 => none
    | depth + 1 =>
      (readEntries? (readValue? depth) (rest.length + 1) [] rest).map fun r =>
        (.table (entryValues r.1), r.2)
  | '"' :: _ | '\'' :: _ => (readString? cs).map fun r => (.string r.1, r.2)
  | _ =>
    let (token, rest) := readToken cs
    (ofToken? token).map fun v => (v, rest)

/-- The key of a header, after its opening brackets, of which there are `brackets`. -/
def readHeader? (brackets : Nat) (cs : Chars) : Option (List String × Chars) := do
  let (key, rest) ← readKey? maxKeyParts cs
  if (List.replicate brackets ']').isPrefixOf rest then pure (key, rest.drop brackets) else none

/-- The expressions of a document, added to the entries of the table that the last header named.
At most `limit` are read. -/
def readExpressions? (limit : Nat) (header : List String) (entries : Entries) (cs : Chars) :
    Option Entries :=
  match limit with
  | 0 => none
  | limit + 1 => do
    match ← skipTrivia false cs with
    | [] => pure entries
    | '[' :: '[' :: rest =>
      let (key, rest) ← readHeader? 2 rest
      let entries ← openItem key entries
      readExpressions? limit key entries (← skipLine false rest)
    | '[' :: rest =>
      let (key, rest) ← readHeader? 1 rest
      let entries ← openTable key entries
      readExpressions? limit key entries (← skipLine false rest)
    | cs =>
      let (key, value, rest) ← readPair? (some ∘ skipSpaces) (readValue? maxDepth) cs
      let entries ← withinTable (addValue value key) header entries
      readExpressions? limit header entries (← skipLine false rest)

/-- The table that a document writes. A byte order mark at the start is passed over. -/
def parse? (text : String) : Option Value :=
  let cs := match text.toList with
    | '\uFEFF' :: rest => rest
    | cs => cs
  (readExpressions? (cs.length + 1) [] [] cs).map fun entries => .table (entryValues entries)

end DirectoryAuth.Toml
