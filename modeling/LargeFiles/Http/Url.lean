import LargeFiles.Http.Host

/-!
# URLs

The addresses that requests go to, over HTTP with or without encryption.  A text is read the way
web browsers do it: blanks around it are dropped, back slashes count as slashes, segments that
only have dots are resolved, and characters that cannot stand in a URL are percent-encoded.
What stands after a number sign is not part of a request and is dropped.
-/

namespace LargeFiles.Http

/-- Where a request goes to. -/
structure Url where
  secure : Bool
  /-- The user name, percent-encoded. -/
  user : String
  /-- The password, percent-encoded. -/
  password : String
  host : String
  /-- The port, if it is not the usual one. -/
  port : Option Nat
  /-- The segments of the path, percent-encoded. -/
  path : List String
  /-- What stands after the question mark, percent-encoded. -/
  query : Option String
  deriving DecidableEq, Repr

namespace Url

/-! ### Characters -/

/-- A character that nothing but a host has to encode. -/
def isPlain (c : Char) : Bool := ' ' < c && c < '\x7f'

/-- A character that a path keeps. -/
def isPathLiteral (c : Char) : Bool :=
  isPlain c && !(['"', '#', '<', '>', '?', '^', '\x60', '\x7b', '\x7d'].contains c)

/-- A character that a query keeps. -/
def isQueryLiteral (c : Char) : Bool :=
  isPlain c && !(['"', '#', '<', '>', '\''].contains c)

/-- A character that a user name or a password keeps. -/
def isUserLiteral (c : Char) : Bool :=
  isPathLiteral c && !(['/', ':', ';', '=', '@', '[', '\\', ']', '|'].contains c)

/-- A slash of either kind. -/
def isSlash (c : Char) : Bool := c == '/' || c == '\\'

/-- Whether a character ends the part with user and host. -/
def endsAuthority (c : Char) : Bool := isSlash c || c == '?' || c == '#'

/-- The text without blanks and control characters around it, and without tabs and line breaks. -/
def clean (text : List Char) : List Char :=
  let trimmed := (text.dropWhile (· ≤ ' ')).reverse.dropWhile (· ≤ ' ')
  trimmed.reverse.filter fun c => !(['\t', '\n', '\r'].contains c)

/-! ### Parts -/

/-- Whether the scheme asks for encryption, and what follows the colon. -/
def scheme? (text : List Char) : Option (Bool × List Char) :=
  let name := (text.takeWhile (· != ':')).map Char.toLower
  match text.dropWhile (· != ':') with
  | [] => none
  | _ :: rest =>
    if name = "http".toList then some (false, rest)
    else if name = "https".toList then some (true, rest)
    else none

/-- Splits the part with user and host at its last at sign: user name, password and the rest. -/
def splitUser (authority : List Char) : String × String × List Char :=
  if authority.contains '@' then
    -- An at sign before the last one is part of the user.
    let reversed := authority.reverse
    let user := ((reversed.dropWhile (· != '@')).drop 1).reverse
    let encode (part : List Char) := String.ofList (Text.Percent.encode isUserLiteral part)
    (encode (user.takeWhile (· != ':')), encode ((user.dropWhile (· != ':')).drop 1),
      (reversed.takeWhile (· != '@')).reverse)
  else ("", "", authority)

/-- Splits a host from a port. -/
def splitPort (text : List Char) : List Char × List Char :=
  match text with
  | '[' :: _ =>
    -- Colons within the brackets are part of the address.
    let inner := text.takeWhile (· != ']')
    let rest := text.dropWhile (· != ']')
    (inner ++ rest.takeWhile (· != ':'), rest.dropWhile (· != ':'))
  | _ => (text.takeWhile (· != ':'), text.dropWhile (· != ':'))

/-- The port that is used without being named. -/
def usualPort (secure : Bool) : Nat := if secure then 443 else 80

/-- The port that a text with its colon names, if it is not the usual one. -/
def port? (secure : Bool) (text : List Char) : Option (Option Nat) :=
  match text.drop 1 with
  | [] => some none
  | digits =>
    if digits.all Char.isDigit then
      match Host.number? 10 digits with
      | some n =>
        if 65535 < n then none else some (if n = usualPort secure then none else some n)
      | none => none
    else none

/-- Splits a path at its slashes. -/
def segments (path : List Char) : List (List Char) :=
  (path.map fun c => if isSlash c then '/' else c).splitOn '/'

/-- A segment with its encoded dots replaced. -/
def plainDots : List Char → List Char
  | '%' :: '2' :: 'e' :: rest => '.' :: plainDots rest
  | '%' :: '2' :: 'E' :: rest => '.' :: plainDots rest
  | c :: rest => c :: plainDots rest
  | [] => []

/-- Whether a segment stands for where it is. -/
def isSingleDot (segment : List Char) : Bool := plainDots segment = ['.']

/-- Whether a segment stands for going up. -/
def isDoubleDot (segment : List Char) : Bool := plainDots segment = ['.', '.']

/-- Resolves segments after those that have been resolved, which are in reverse. -/
def resolve : List String → List (List Char) → List String
  | done, [] => done.reverse
  | done, segment :: rest =>
    let above := if isDoubleDot segment then done.drop 1 else done
    if isSingleDot segment || isDoubleDot segment then
      -- A path that ends in dots ends in a slash.
      if rest.isEmpty then ("" :: above).reverse else resolve above rest
    else
      resolve (String.ofList (Text.Percent.encode isPathLiteral segment) :: done) rest

/-- The path that a text gives. -/
def pathOf (text : List Char) : List String := resolve [] (segments (text.drop 1))

/-- The query that a text with its question mark gives. -/
def queryOf : List Char → Option String
  | '?' :: rest =>
    some (String.ofList (Text.Percent.encode isQueryLiteral (rest.takeWhile (· != '#'))))
  | _ => none

/-! ### Reading and writing -/

/-- The URL that a text names.  There is none if the host is not in ASCII (see `Host.ofText?`), so
    what is said of URLs that are read is said of hosts in ASCII. -/
def parse? (text : String) : Option Url := do
  let (secure, rest) ← scheme? (clean text.toList)
  -- Any number of slashes may stand before the host.
  let rest := rest.dropWhile isSlash
  let (user, password, hostPort) := splitUser (rest.takeWhile (!endsAuthority ·))
  let (host, port) := splitPort hostPort
  let rest := rest.dropWhile (!endsAuthority ·)
  return {
    secure, user, password
    host := ← Host.ofText? host
    port := ← port? secure port
    path := pathOf (rest.takeWhile fun c => c != '?' && c != '#')
    query := queryOf (rest.dropWhile fun c => c != '?' && c != '#') }

/-- The user name and the password with the signs around them. -/
def userText (url : Url) : String :=
  if url.user.isEmpty && url.password.isEmpty then ""
  else if url.password.isEmpty then url.user ++ "@"
  else url.user ++ ":" ++ url.password ++ "@"

/-- The text of a URL. -/
def toText (url : Url) : String :=
  (if url.secure then "https://" else "http://") ++ url.userText ++ url.host ++
    (match url.port with
      | some port => ":" ++ toString port
      | none => "") ++
    String.join (url.path.map ("/" ++ ·)) ++
    (match url.query with
      | some query => "?" ++ query
      | none => "")

/-- A URL with more names and values in its query. -/
def withQuery (url : Url) (pairs : List (String × String)) : Url :=
  let encode (text : String) := Text.Percent.encodeForm text.toList
  let added := pairs.map fun pair => encode pair.1 ++ ['='] ++ encode pair.2
  let given := (url.query.filter (!·.isEmpty)).toList.map String.toList
  -- An empty query is written without its question mark.
  match given ++ added with
  | [] => { url with query := none }
  | all => { url with query := some (String.ofList (List.intercalate ['&'] all)) }

end Url

end LargeFiles.Http
