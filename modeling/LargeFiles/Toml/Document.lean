import LargeFiles.Toml.Scalar

/-!
# TOML documents

A document is a sequence of entries and table headings.  Entries go into the table of the last
heading; a key of several parts makes the tables that it passes through.  A table is opened by one
heading at most, and is not both opened by a heading and made by such a key.
-/

namespace LargeFiles.Toml

open LargeFiles.Text (Reader)
open LargeFiles.Text.Reader

/-- How a table came to be. -/
inductive Origin
  /-- By a heading of its own. -/
  | heading
  /-- By the heading of a table within it. -/
  | passed
  /-- By a key of several parts. -/
  | dotted
  deriving DecidableEq, Repr

/-- A part of a document that is being read. -/
inductive Node
  | value (v : Toml)
  | table (origin : Origin) (entries : List (String × Node))
  /-- Tables under one heading in double brackets, the last one first. -/
  | tables (elements : List (Origin × List (String × Node)))
  deriving Inhabited

namespace Node

/-- The entries of a table. -/
abbrev Entries := List (String × Node)

/-- Changes what stands under a key, which has to stand there already. -/
def replace (key : String) (node : Node) (entries : Entries) : Entries :=
  entries.map fun entry => if entry.1 = key then (key, node) else entry

/-- Adds what stands under a new key. -/
def add (key : String) (node : Node) (entries : Entries) : Option Entries :=
  if (entries.lookup key).isSome then none else some (entries ++ [(key, node)])

/-- Changes the table that a path leads to, given its origin, from a table.  Tables that are
    missing on the way are made; of tables in double brackets the last one is meant. -/
def descend (made : Origin) (change : Origin → Entries → Option Entries) :
    List String → Origin → Entries → Option Entries
  | [], origin, entries => change origin entries
  | key :: path, _, entries =>
    match entries.lookup key with
    | none => do
      let inner ← descend made change path made []
      return entries ++ [(key, table made inner)]
    | some (value _) => none
    | some (table origin inner) =>
      -- A key of several parts does not lead into a table that has a heading of its own.
      if made = .dotted ∧ origin = .heading then none
      else do
        let inner ← descend made change path origin inner
        return replace key (table origin inner) entries
    | some (tables ((origin, inner) :: elements)) => do
      let inner ← descend made change path origin inner
      return replace key (tables ((origin, inner) :: elements)) entries
    | some (tables []) => none

/-- Adds an entry, given the parts of its key, to a table. -/
def addEntry (key : List String) (v : Toml) (origin : Origin) (entries : Entries) :
    Option Entries :=
  match key.getLast? with
  | none => none
  | some last =>
    let path := key.dropLast
    descend .dotted
      (fun origin inner =>
        -- A table is filled under its own heading or by keys of several parts, not by both.
        if decide (origin = .dotted) == path.isEmpty then none else add last (value v) inner)
      path origin entries

/-- Opens a table by a heading. -/
def openTable (key : List String) (root : Entries) : Option Entries :=
  match key.getLast? with
  | none => none
  | some last =>
    descend .passed
      (fun _ inner =>
        match inner.lookup last with
        | none => some (inner ++ [(last, table .heading [])])
        | some (table .passed entries) => some (replace last (table .heading entries) inner)
        | some _ => none)
      key.dropLast .heading root

/-- Opens a further table by a heading in double brackets. -/
def openElement (key : List String) (root : Entries) : Option Entries :=
  match key.getLast? with
  | none => none
  | some last =>
    descend .passed
      (fun _ inner =>
        match inner.lookup last with
        | none => some (inner ++ [(last, tables [(.heading, [])])])
        | some (tables elements) => some (replace last (tables ((.heading, []) :: elements)) inner)
        | some _ => none)
      key.dropLast .heading root

mutual

/-- The finished value. -/
def toToml : Node → Toml
  | value v => v
  | table _ entries => .table (entriesToToml entries)
  | tables elements => .array (elementsToToml elements).reverse

/-- The finished entries of a table. -/
def entriesToToml : List (String × Node) → List (String × Toml)
  | [] => []
  | (key, node) :: rest => (key, node.toToml) :: entriesToToml rest

/-- The finished tables under one heading. -/
def elementsToToml : List (Origin × List (String × Node)) → List Toml
  | [] => []
  | (_, entries) :: rest => .table (entriesToToml entries) :: elementsToToml rest

end

end Node

/-! ### Values -/

/-- Arrays and tables in braces may be nested less deep than this, and keys have fewer parts. -/
def maxDepth : Nat := 80

/-- A key that has not too many parts. -/
def shortKey : Reader (List String) := do
  let parts ← key
  if maxDepth ≤ parts.length then failure else return parts

mutual

/-- A value within `depth` arrays and tables in braces; `fuel` bounds the work. -/
def anyValue : (fuel depth : Nat) → Reader Toml
  | 0, _ => failure
  | fuel + 1, depth => do
    match ← peek with
    | some '"' | some '\'' => return .text (← string)
    | some '[' => do
      char '['
      if maxDepth ≤ depth + 1 then failure
      return .array (← items fuel (depth + 1))
    | some '\x7b' => do
      char '\x7b'
      if maxDepth ≤ depth + 1 then failure
      blanks
      match ← optional (char '\x7d') with
      | some _ => return .table []
      | none => return .table (Node.entriesToToml (← pairs fuel (depth + 1) []))
    | some 't' | some 'f' => truth
    -- A whole number is the start of the others, so it is tried last.
    | some _ => dateOrTime <|> floating <|> wholeNumber
    | none => failure

/-- The rest of an array, after its opening bracket or a comma. -/
def items : (fuel depth : Nat) → Reader (List Toml)
  | 0, _ => failure
  | fuel + 1, depth => do
    trivia (← get).length
    match ← optional (char ']') with
    | some _ => return []
    | none =>
      let v ← anyValue fuel depth
      trivia (← get).length
      match ← one fun c => c == ',' || c == ']' with
      | ',' => return v :: (← items fuel depth)
      | _ => return [v]

/-- The rest of a table in braces that has some entries already. -/
def pairs : (fuel depth : Nat) → Node.Entries → Reader Node.Entries
  | 0, _, _ => failure
  | fuel + 1, depth, entries => do
    blanks
    let k ← shortKey
    blanks
    char '='
    blanks
    let v ← anyValue fuel depth
    blanks
    match Node.addEntry k v .passed entries with
    | none => failure
    | some entries =>
      match ← one fun c => c == ',' || c == '\x7d' with
      | ',' => pairs fuel depth entries
      | _ => return entries

end

/-! ### Lines -/

/-- A document that is being read: its entries, and the table that entries go into. -/
structure Draft where
  root : Node.Entries
  current : List String

/-- Adds an entry to the table of the last heading. -/
def Draft.addEntry (draft : Draft) (key : List String) (v : Toml) : Option Draft := do
  let root ← Node.descend .passed (Node.addEntry key v) draft.current .heading draft.root
  return { draft with root }

/-- The end of a line or of the text, after blanks and a comment. -/
def lineEnd : Reader Unit := do
  blanks
  comment
  match ← peek with
  | none => pure ()
  | some _ => newline

/-- A heading in single or double brackets. -/
def heading (draft : Draft) : Reader Draft := do
  let element ← startsWith "[["
  let brackets := if element then 2 else 1
  let _ ← exactly brackets (· == '[')
  blanks
  let k ← shortKey
  blanks
  let _ ← exactly brackets (· == ']')
  lineEnd
  match if element then Node.openElement k draft.root else Node.openTable k draft.root with
  | some root => return ⟨root, k⟩
  | none => failure

/-- A key, the equals sign and a value. -/
def entry (draft : Draft) : Reader Draft := do
  let k ← shortKey
  blanks
  char '='
  blanks
  -- Every step of the reading takes a character, so the fuel lasts.
  let v ← anyValue ((← get).length + 1) 0
  lineEnd
  match draft.addEntry k v with
  | some draft => return draft
  | none => failure

/-- The lines of a document. -/
def lines : (fuel : Nat) → Draft → Reader Draft
  | 0, draft => return draft
  | fuel + 1, draft => do
    trivia (← get).length
    match ← peek with
    | none => return draft
    | some '[' => do lines fuel (← heading draft)
    | some _ => do lines fuel (← entry draft)

/-- The entries that a text gives.  It may start with a byte order mark. -/
def parse? (text : String) : Option (List (String × Toml)) :=
  let cs := match text.toList with
    | '\ufeff' :: rest => rest
    | cs => cs
  ((lines (cs.length + 1) ⟨[], []⟩).whole cs).map fun draft => Node.entriesToToml draft.root

end LargeFiles.Toml
