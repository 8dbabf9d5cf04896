import Mustache.Data.Toml.Scan
/-!
Dates and times of TOML documents, and the form they are written in: a `T` between date and time, a
fraction without trailing zeros, and `Z` or a signed offset. A table can stand for one of them too,
by a reserved first key.
-/
namespace Mustache.Toml

/-- A day of the calendar. -/
structure Date where
  year : Nat
  month : Nat
  day : Nat

/-- A time of the day. -/
structure Time where
  hour : Nat
  minute : Nat
  second : Nat
  nanosecond : Nat

/-- The distance from universal time. -/
inductive Offset where
  | utc
  | minutes (negative : Bool) (count : Nat)

/-- A date, a time or both; an offset needs both. -/
structure Datetime where
  date : Option Date
  time : Option Time
  offset : Option Offset

/-- A number with zeros in front of it to fill a width. -/
def padded (width n : Nat) : String :=
  let digits := Nat.toDigits 10 n
  String.ofList (List.replicate (width - digits.length) '0' ++ digits)

namespace Date

/-- Whether February has 29 days. -/
def isLeap (year : Nat) : Bool := year % 4 == 0 && (year % 100 != 0 || year % 400 == 0)

/-- The number of days of a month. -/
def daysOf (year month : Nat) : Nat :=
  if month = 2 then if isLeap year then 29 else 28
  else if month = 4 ∨ month = 6 ∨ month = 9 ∨ month = 11 then 30
  else 31

/-- Reads a date. -/
def read : Scan Date := do
  let year ← Scan.digits 4
  Scan.char '-'
  let month ← Scan.twoDigits 1 12
  Scan.char '-'
  let day ← Scan.twoDigits 1 31
  if day ≤ daysOf year month then return ⟨year, month, day⟩ else failure

/-- A date in written form. -/
def write (d : Date) : String :=
  padded 4 d.year ++ "-" ++ padded 2 d.month ++ "-" ++ padded 2 d.day

end Date

namespace Time

/-- The nanoseconds that the digits of a fraction stand for; digits behind the ninth are cut. -/
def nanoseconds (digits : List Char) : Nat :=
  let kept := digits.take 9
  kept.foldl (fun n c => 10 * n + (c.toNat - '0'.toNat)) 0 *
    Nat.pow 10 (9 - kept.length)

/-- Reads a time. -/
def read : Scan Time := do
  let hour ← Scan.twoDigits 0 23
  Scan.char ':'
  let minute ← Scan.twoDigits 0 59
  Scan.char ':'
  let second ← Scan.twoDigits 0 60
  if ← Scan.skip? "." then
    let first ← Scan.satisfy Char.isDigit
    let rest ← Scan.takeWhile Char.isDigit
    return ⟨hour, minute, second, nanoseconds (first :: rest)⟩
  else return ⟨hour, minute, second, 0⟩

/-- A fraction of a second in written form. -/
def writeFraction (nanosecond : Nat) : String :=
  if nanosecond = 0 then ""
  else "." ++ String.ofList
    ((padded 9 nanosecond).toList.reverse.dropWhile (· == '0')).reverse

/-- A time in written form. -/
def write (t : Time) : String :=
  padded 2 t.hour ++ ":" ++ padded 2 t.minute ++ ":" ++ padded 2 t.second ++
    writeFraction t.nanosecond

end Time

namespace Offset

/-- Reads an offset if there is one. -/
def read? : Scan (Option Offset) := do
  match ← Scan.peek? with
  | some 'Z' | some 'z' =>
    let _ ← Scan.satisfy fun _ => true
    return some .utc
  | some '+' => return some (← signed false)
  | some '-' => return some (← signed true)
  | _ => return none
where
  /-- Reads an offset behind its sign. -/
  signed (negative : Bool) : Scan Offset := do
    let _ ← Scan.satisfy fun _ => true
    let hours ← Scan.twoDigits 0 23
    Scan.char ':'
    let minutes ← Scan.twoDigits 0 59
    return .minutes negative (60 * hours + minutes)

/-- An offset in written form; no minutes at all have a plus sign. -/
def write : Offset → String
  | .utc => "Z"
  | .minutes negative count =>
    (if negative && count != 0 then "-" else "+") ++ padded 2 (count / 60) ++ ":" ++
      padded 2 (count % 60)

end Offset

namespace Datetime

/-- Reads the time behind a date, if there is one. -/
def timeOf (date : Date) : Scan Datetime := do
  let _ ← Scan.satisfy fun c => c == 'T' || c == 't' || c == ' '
  let time ← Time.read
  return ⟨some date, some time, ← Offset.read?⟩

/-- Reads a date with or without a time, or a time. -/
def read : Scan Datetime :=
  (do
    let date ← Date.read
    timeOf date <|> return ⟨some date, none, none⟩) <|>
  (do return ⟨none, some (← Time.read), none⟩)

/-- The date, the time or both that a text spells. -/
def ofText? (text : String) : Option Datetime :=
  match read.run text.toList with
  | some (d, []) => some d
  | _ => none

/-- The first key of a table that stands for a date or time. -/
def reservedKey : String := "$__toml_private_datetime"

/-- A date, a time or both in written form. -/
def write (d : Datetime) : String :=
  let date := (d.date.map Date.write).getD ""
  let mark := if d.date.isSome && d.time.isSome then "T" else ""
  date ++ mark ++ (d.time.map Time.write).getD "" ++ (d.offset.map Offset.write).getD ""

end Datetime

end Mustache.Toml
