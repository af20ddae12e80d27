import Bourse.Date
import Bourse.WhiteSpace

namespace Bourse

/-- An instant in universal time, to the nanosecond. Any minute may have a leap second. -/
structure Timestamp where
  date : Date
  hour : Nat
  minute : Nat
  second : Nat
  nanosecond : Nat
  inHours : hour < 24
  inMinutes : minute < 60
  inSeconds : second ≤ 60
  inNanoseconds : nanosecond < 1000000000
  deriving DecidableEq, Repr

namespace Timestamp

def ofParts? (date : Date) (hour minute second nanosecond : Nat) : Option Timestamp :=
  if valid : hour < 24 ∧ minute < 60 ∧ second ≤ 60 ∧ nanosecond < 1000000000 then
    some ⟨date, hour, minute, second, nanosecond, valid.1, valid.2.1, valid.2.2.1, valid.2.2.2⟩
  else none

/-- The instant in universal time at which a clock that is `ahead` minutes ahead of it, and less than a
day, shows the given time. -/
def fromClock? (shown : Timestamp) (ahead : Int) : Option Timestamp := do
  let minutes := 60 * (shown.hour : Int) + shown.minute - ahead
  let date ←
    if minutes < 0 then shown.date.previous?
    else if minutes < 1440 then some shown.date
    else shown.date.next?
  ofParts? date (minutes % 1440 / 60).toNat (minutes % 60).toNat shown.second shown.nanosecond

/-- The last `width` decimal digits of a number, zeros in front. -/
def digits : Nat → Nat → List Char
  | 0, _ => []
  | width + 1, n => digits width (n / 10) ++ [Nat.digitChar (n % 10)]

/-- A year has at least four digits, and a sign if it is negative or has more. -/
def yearChars (year : Int) : List Char :=
  if 0 ≤ year ∧ year ≤ 9999 then digits 4 year.toNat
  else (if year < 0 then '-' else '+') :: (Nat.toDigits 10 year.natAbs).leftpad 4 '0'

/-- A fraction of a second has three, six or nine digits, or is left out. -/
def fraction (nanosecond : Nat) : List Char :=
  if nanosecond = 0 then []
  else if nanosecond % 1000000 = 0 then '.' :: digits 3 (nanosecond / 1000000)
  else if nanosecond % 1000 = 0 then '.' :: digits 6 (nanosecond / 1000)
  else '.' :: digits 9 nanosecond

def text (t : Timestamp) : String :=
  String.ofList (yearChars t.date.year ++ '-' :: digits 2 t.date.month ++ '-' :: digits 2 t.date.day ++
    'T' :: digits 2 t.hour ++ ':' :: digits 2 t.minute ++ ':' :: digits 2 t.second ++
    fraction t.nanosecond ++ ['Z'])

/-- A number of at least one digit and at most `width`. Digits beyond those are left over. -/
def readNumber? (width : Nat) (cs : List Char) : Option (Nat × List Char) :=
  match (cs.take width).takeWhile Char.isDigit with
  | [] => none
  | found => some (Nat.ofDigitChars 10 found 0, cs.drop found.length)

/-- One or two digits, which may follow white space. -/
def readPart? (cs : List Char) : Option (Nat × List Char) := readNumber? 2 (skipWhiteSpace cs)

/-- Only a year with a sign may have more than four digits. -/
def readYear? (cs : List Char) : Option (Int × List Char) :=
  match skipWhiteSpace cs with
  | '+' :: rest => (readNumber? rest.length rest).map fun (year, rest) => (year, rest)
  | '-' :: rest => (readNumber? rest.length rest).map fun (year, rest) => (-year, rest)
  | rest => (readNumber? 4 rest).map fun (year, rest) => (year, rest)

def readMark? (marks : List Char) : List Char → Option (List Char)
  | [] => none
  | c :: rest => if c ∈ marks then some rest else none

/-- The nanoseconds of a fraction, if a point follows at once. Digits after the ninth do not count. -/
def readFraction? : List Char → Option (Nat × List Char)
  | '.' :: rest =>
    match rest.takeWhile Char.isDigit with
    | [] => none
    | found => some (Nat.ofDigitChars 10 ((found.take 9).rightpad 9 '0') 0, rest.dropWhile Char.isDigit)
  | rest => some (0, rest)

def readTwoDigits? : List Char → Option (Nat × List Char)
  | tens :: ones :: rest =>
    if tens.isDigit && ones.isDigit then some (Nat.ofDigitChars 10 [tens, ones] 0, rest) else none
  | _ => none

/-- Hours and minutes of two digits each, in minutes. Colons and white space may stand between them. -/
def readHoursAndMinutes? (cs : List Char) : Option (Nat × List Char) := do
  let (hours, rest) ← readTwoDigits? cs
  let (minutes, rest) ← readTwoDigits? (rest.dropWhile fun c => c = ':' || isWhiteSpace c)
  if hours < 24 ∧ minutes < 60 then return (60 * hours + minutes, rest) else none

/-- How many minutes the clock that was read is ahead of universal time. For universal time itself a
letter or its usual abbreviation may stand, in either case. The sign may be a hyphen or a minus. -/
def readAhead? (cs : List Char) : Option (Int × List Char) :=
  match skipWhiteSpace cs with
  | [] => none
  | c :: rest =>
    if c.toUpper = 'Z' then some (0, rest)
    else if (c :: rest.take 2).map Char.toUpper = ['U', 'T', 'C'] then some (0, rest.drop 2)
    else if c = '+' then (readHoursAndMinutes? rest).map fun (ahead, rest) => (ahead, rest)
    else if c = '-' ∨ c = '\u2212' then (readHoursAndMinutes? rest).map fun (behind, rest) => (-behind, rest)
    else none

/-- Reads an instant from a clock and how far it is ahead. White space may stand before every part but
the fraction, and at the end; between date and time there is a `T` or a space. -/
def parse? (text : String) : Option Timestamp := do
  let (year, rest) ← readYear? text.toList
  let rest ← readMark? ['-'] (skipWhiteSpace rest)
  let (month, rest) ← readPart? rest
  let rest ← readMark? ['-'] (skipWhiteSpace rest)
  let (day, rest) ← readPart? rest
  let rest ← readMark? ['T', 't', ' '] rest
  let (hour, rest) ← readPart? rest
  let rest ← readMark? [':'] (skipWhiteSpace rest)
  let (minute, rest) ← readPart? rest
  let rest ← readMark? [':'] (skipWhiteSpace rest)
  let (second, rest) ← readPart? rest
  let (nanosecond, rest) ← readFraction? rest
  let (ahead, rest) ← readAhead? rest
  if skipWhiteSpace rest = [] then
    let date ← Date.ofParts? year month day
    let shown ← ofParts? date hour minute second nanosecond
    shown.fromClock? ahead
  else none

end Timestamp

/-- A value with the instant at which it was recorded. -/
structure Stamped (α : Type) where
  value : α
  instant : Timestamp
  deriving DecidableEq, Repr

end Bourse
