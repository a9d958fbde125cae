import LargeFiles.Text.Quoted

/-!
# Branch names

Locks are scoped to branches by the branch's short name, `main` and not `refs/heads/main`.
`Branch.fault?` finds what is wrong with a short name, if anything is; `Branch.ofName` takes a
short or a full name and gives a `Branch`, whose name has no fault.
-/

namespace LargeFiles

namespace Branch

/-- What makes a text unfit as a short branch name. -/
inductive Fault
  | empty
  | forbidden (c : Char)
  | doubleDot
  | atBrace
  | outerDot
  | outerSlash
  | lockSuffix
  | emptyComponent
  | dotComponent (component : List Char)
  deriving DecidableEq, Repr

/-- What a fault says to the user. -/
def Fault.message : Fault → String
  | .empty => "branch name must not be empty"
  | .forbidden c => "contains forbidden character: " ++ Text.Quoted.char c
  | .doubleDot => "must not contain '..'"
  | .atBrace => "must not contain '@\x7b'"
  | .outerDot => "must not start or end with '.'"
  | .outerSlash => "must not start or end with '/'"
  | .lockSuffix => "must not end with '.lock'"
  | .emptyComponent => "path components must not be empty"
  | .dotComponent component =>
    "component must not start with '.': " ++ Text.Quoted.string (String.ofList component)

/-- The characters that no branch name holds, in the order in which they are looked for. -/
def forbiddenChars : List Char := [' ', '\t', '\n', '\r', '~', '^', ':', '?', '*', '[', '\\']

/-- Whether the first list stands somewhere in the second as consecutive elements. -/
def occursIn [BEq α] (needle : List α) : List α → Bool
  | [] => needle.isEmpty
  | a :: as => needle.isPrefixOf (a :: as) || occursIn needle as

/-- Whether a character stands first or last. -/
def isOuter (c : Char) (name : List Char) : Bool :=
  name.head? == some c || name.getLast? == some c

/-- What is wrong with one component of a name, between its slashes. -/
def componentFault? (component : List Char) : Option Fault :=
  match component with
  | [] => some .emptyComponent
  | '.' :: _ => some (.dotComponent component)
  | _ => none

/-- The first fault of a short name. -/
def fault? (name : List Char) : Option Fault :=
  if name.isEmpty then some .empty
  else match forbiddenChars.find? name.contains with
  | some c => some (.forbidden c)
  | none =>
    if occursIn ['.', '.'] name then some .doubleDot
    else if occursIn ['@', '\x7b'] name then some .atBrace
    else if isOuter '.' name then some .outerDot
    else if isOuter '/' name then some .outerSlash
    else if ".lock".toList.isSuffixOf name then some .lockSuffix
    else (name.splitOn '/').findSome? componentFault?

end Branch

/-- A branch, known by its short name. -/
structure Branch where
  short : String
  faultless : Branch.fault? short.toList = none
  deriving DecidableEq

namespace Branch

@[ext] theorem ext {a b : Branch} (h : a.short = b.short) : a = b := by
  cases a; cases b; cases h; rfl

/-- What full names start with. -/
def heads : String := "refs/heads/"

/-- The full name of a branch. -/
def full (branch : Branch) : String := heads ++ branch.short

/-- A name that was refused, and why. -/
structure Refusal where
  name : String
  fault : Fault
  deriving DecidableEq, Repr

/-- What a refusal says to the user. -/
def Refusal.message (r : Refusal) : String :=
  "invalid branch name: " ++ r.name ++ ": " ++ r.fault.message

/-- The branch of a short name. -/
def ofShort (name : String) : Except Refusal Branch :=
  match h : fault? name.toList with
  | none => .ok ⟨name, h⟩
  | some fault => .error ⟨name, fault⟩

/-- A name without the one `refs/heads/` that it may start with. -/
def stripHeads (name : String) : String :=
  if heads.toList.isPrefixOf name.toList then
    String.ofList (name.toList.drop heads.toList.length)
  else name

/-- The branch of a short or a full name. -/
def ofName (name : String) : Except Refusal Branch := ofShort (stripHeads name)

end Branch

end LargeFiles
