import DirectoryAuth.Toml.Value

/-! A TOML document while it is being read. How a table came about decides what may still be added
to it. -/
namespace DirectoryAuth.Toml

inductive Origin where
  /-- Named by a header of its own. -/
  | header
  /-- Named on the way in a longer header. -/
  | path
  /-- Named on the way in a dotted key. -/
  | key
  deriving DecidableEq, Repr

inductive Node where
  | leaf (v : Value)
  | table (origin : Origin) (entries : List (String × Node))
  /-- The tables of headers in double brackets, the latest first. -/
  | tables (items : List (List (String × Node)))

abbrev Entries := List (String × Node)

/-- Replaces the node of a key that is there. -/
def replace (key : String) (node : Node) (entries : Entries) : Entries :=
  entries.map fun e => if e.1 = key then (key, node) else e

/-- Adds a value under a dotted key. A table on the way is a new one, or one named on the way
before; the last one was named in a dotted key. -/
def addValue (value : Value) : List String → Entries → Option Entries
  | [], _ => none
  | [key], entries =>
    match entries.lookup key with
    | none => some (entries ++ [(key, .leaf value)])
    | some _ => none
  | key :: rest, entries =>
    match entries.lookup key with
    | none => (addValue value rest []).map fun es => entries ++ [(key, .table .key es)]
    | some (.table origin es) =>
      if origin = .key ∨ (origin = .path ∧ rest.length ≠ 1) then
        (addValue value rest es).map fun es => replace key (.table origin es) entries
      else none
    | some _ => none

/-- Opens the table of a header. -/
def openTable : List String → Entries → Option Entries
  | [], _ => none
  | [key], entries =>
    match entries.lookup key with
    | none => some (entries ++ [(key, .table .header [])])
    | some (.table .path es) => some (replace key (.table .header es) entries)
    | some _ => none
  | key :: rest, entries =>
    match entries.lookup key with
    | none => (openTable rest []).map fun es => entries ++ [(key, .table .path es)]
    | some (.table origin es) =>
      (openTable rest es).map fun es => replace key (.table origin es) entries
    | some (.tables (es :: more)) =>
      (openTable rest es).map fun es => replace key (.tables (es :: more)) entries
    | some _ => none

/-- Opens another table of a header in double brackets. -/
def openItem : List String → Entries → Option Entries
  | [], _ => none
  | [key], entries =>
    match entries.lookup key with
    | none => some (entries ++ [(key, .tables [[]])])
    | some (.tables items) => some (replace key (.tables ([] :: items)) entries)
    | some _ => none
  | key :: rest, entries =>
    match entries.lookup key with
    | none => (openItem rest []).map fun es => entries ++ [(key, .table .path es)]
    | some (.table origin es) =>
      (openItem rest es).map fun es => replace key (.table origin es) entries
    | some (.tables (es :: more)) =>
      (openItem rest es).map fun es => replace key (.tables (es :: more)) entries
    | some _ => none

/-- Changes the entries of the table that a header has opened. -/
def withinTable (f : Entries → Option Entries) : List String → Entries → Option Entries
  | [], entries => f entries
  | key :: rest, entries =>
    match entries.lookup key with
    | some (.table origin es) =>
      (withinTable f rest es).map fun es => replace key (.table origin es) entries
    | some (.tables (es :: more)) =>
      (withinTable f rest es).map fun es => replace key (.tables (es :: more)) entries
    | _ => none

mutual

def Node.value : Node → Value
  | .leaf v => v
  | .table _ entries => .table (entryValues entries)
  | .tables items => .array (itemValues items).reverse

def entryValues : List (String × Node) → List (String × Value)
  | [] => []
  | (key, node) :: rest => (key, node.value) :: entryValues rest

def itemValues : List (List (String × Node)) → List Value
  | [] => []
  | entries :: rest => .table (entryValues entries) :: itemValues rest

end

end DirectoryAuth.Toml
