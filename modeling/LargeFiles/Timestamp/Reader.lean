import LargeFiles.Timestamp
import LargeFiles.Text.Blank
import LargeFiles.Text.Reader

/-!
# Reading timestamps

Timestamps are read more freely than they are written: white space may stand before every number,
separator and the zone, numbers may have fewer digits, date and time may be separated by a space,
and the zone may be any offset.  Each reader takes what it needs from the front of the text and
gives back the rest.
-/

namespace LargeFiles.Timestamp

open LargeFiles.Text (Reader trimStart isBlank)

namespace Read

/-- A run of at least one digit, cut off after `most`; and how many digits it had. -/
def digitRun (most : Nat) : Reader (Nat × Nat) := fun cs =>
  let run := (cs.take most).takeWhile Char.isDigit
  if run.isEmpty then none
  else some ((Nat.ofDigitChars 10 run 0, run.length), cs.drop run.length)

/-- A number of at most two digits, after white space. -/
def number : Reader Nat := do
  modify trimStart
  return (← digitRun 2).1

/-- A year: four digits at most without a sign, any number of digits with one. -/
def year : Reader Int := do
  modify trimStart
  match ← get with
  | '-' :: rest => set rest; return -((← digitRun rest.length).1 : Int)
  | '+' :: rest => set rest; return ((← digitRun rest.length).1 : Int)
  | _ => return ((← digitRun 4).1 : Int)

/-- A separator, after white space. -/
def separator (c : Char) : Reader Unit := fun cs =>
  match trimStart cs with
  | first :: rest => if first = c then some ((), rest) else none
  | [] => none

/-- The letter or space between date and time. -/
def dateEnd : Reader Unit
  | c :: rest => if c = 'T' || c = 't' || c = ' ' then some ((), rest) else none
  | [] => none

/-- The fraction of a second in nanoseconds, of which digits after the ninth are dropped. -/
def fraction : Reader Nat := fun cs =>
  match cs with
  | '.' :: rest =>
    match digitRun 9 rest with
    | some ((n, digits), rest) => some (n * Nat.pow 10 (9 - digits), rest.dropWhile Char.isDigit)
    | none => none
  | _ => some (0, cs)

/-- Exactly two digits. -/
def twoDigits : Reader Nat
  | a :: b :: rest =>
    if a.isDigit && b.isDigit then some (Nat.ofDigitChars 10 [a, b] 0, rest) else none
  | _ => none

/-- An offset from UTC in minutes: a sign, hours, and minutes after any colons and white space. -/
def offset : Reader Int
  | sign :: rest =>
    if sign = '+' || sign = '-' || sign = '−' then do
      let (hours, rest) ← twoDigits rest
      let (minutes, rest) ← twoDigits (rest.dropWhile fun c => c = ':' || isBlank c)
      if 60 ≤ minutes then none
      else
        let total : Int := 60 * hours + minutes
        some (if sign = '+' then total else -total, rest)
    else none
  | [] => none

/-- The zone, as minutes ahead of UTC: `Z`, `UTC` in any case, or an offset below a day. -/
def zone : Reader Int := fun cs =>
  match trimStart cs with
  | c :: rest =>
    if (String.ofList ((c :: rest).take 3)).toUpper = "UTC" then some (0, rest.drop 2)
    else if c = 'Z' || c = 'z' then some (0, rest)
    else
      match offset (c :: rest) with
      | some (minutes, rest) => if minutes.natAbs < 1440 then some (minutes, rest) else none
      | none => none
  | [] => none

/-- A date, a time and a zone. -/
def timestamp : Reader Timestamp := do
  let y ← year
  separator '-'
  let month ← number
  separator '-'
  let day ← number
  dateEnd
  let hour ← number
  separator ':'
  let minute ← number
  separator ':'
  let second ← number
  let nanosecond ← fraction
  let ahead ← zone
  StateT.lift (ofLocal? y month day hour minute second nanosecond ahead)

end Read

/-- The timestamp that a text spells, with nothing but white space around it. -/
def ofChars? (cs : List Char) : Option Timestamp :=
  match Read.timestamp.take? cs with
  | some (t, rest) => if (trimStart rest).isEmpty then some t else none
  | none => none

/-- The timestamp that a text spells. -/
def ofText? (text : String) : Option Timestamp := ofChars? text.toList

end LargeFiles.Timestamp
