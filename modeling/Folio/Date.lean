import Folio.Text.Blank
import Folio.Text.Numeral

/-!
# Dates

Days of the Gregorian calendar, which is extended to all years.  A date is written
`year-month-day` or as the day of a timestamp; it is shown in the first form, with a sign when the
year does not have four digits.
-/

namespace Folio

open Folio.Text

/-- Whether the year has a 29th of February. -/
def isLeapYear (year : Int) : Bool :=
  year % 4 == 0 && (year % 100 != 0 || year % 400 == 0)

/-- The number of days of a month. -/
def daysInMonth (year : Int) (month : Nat) : Nat :=
  match month with
  | 2 => if isLeapYear year then 29 else 28
  | 4 | 6 | 9 | 11 => 30
  | _ => 31

/-- The first and the last year that dates reach. -/
def yearBounds : Int × Int := (-262143, 262142)

/-- Whether the three numbers name a day. -/
def isDay (year : Int) (month day : Nat) : Bool :=
  yearBounds.1 ≤ year && year ≤ yearBounds.2 && 1 ≤ month && month ≤ 12 && 1 ≤ day &&
    day ≤ daysInMonth year month

/-- A day of the calendar. -/
structure Date where
  year : Int
  month : Nat
  day : Nat
  isDay_eq : isDay year month day = true
  deriving DecidableEq

namespace Date

/-- The day that three numbers name, if they name one. -/
def of? (year : Int) (month day : Nat) : Option Date :=
  if h : isDay year month day = true then some ⟨year, month, day, h⟩ else none

/-- Whether the first date is the earlier one. -/
def isBefore (a b : Date) : Bool :=
  a.year < b.year || (a.year == b.year &&
    (a.month < b.month || (a.month == b.month && a.day < b.day)))

/-- The year of a date: four digits, or a sign and at least as many. -/
def yearText (year : Int) : List Char :=
  if 0 ≤ year && year ≤ 9999 then padded 4 year.toNat
  else (if year < 0 then '-' else '+') :: padded 4 year.natAbs

/-- The text of a date. -/
def text (date : Date) : String :=
  String.ofList
    (yearText date.year ++ '-' :: padded 2 date.month ++ '-' :: padded 2 date.day)

/-! ## Reading -/

/-- Drops one given character. -/
def expect (c : Char) : List Char → Option (List Char)
  | d :: cs => if d = c then some cs else none
  | [] => none

/-- A year: any number of digits after a sign, at most four without one. -/
def year? (cs : List Char) : Option (Int × List Char) :=
  match cs with
  | '-' :: rest => (numeral? 1 rest.length rest).map fun (n, rest) => (-(n : Int), rest)
  | '+' :: rest => (numeral? 1 rest.length rest).map fun (n, rest) => ((n : Int), rest)
  | rest => (numeral? 1 4 rest).map fun (n, rest) => ((n : Int), rest)

/-- A date `year-month-day` and nothing else.  White space may stand before each number, and
months and days may have one digit. -/
def ofDayText? (cs : List Char) : Option Date := do
  let (year, cs) ← year? (cs.dropWhile isBlank)
  let cs ← expect '-' cs
  let (month, cs) ← numeral? 1 2 (cs.dropWhile isBlank)
  let cs ← expect '-' cs
  let (day, cs) ← numeral? 1 2 (cs.dropWhile isBlank)
  if cs.isEmpty then of? year month day else none

/-- The decimals of a second, when there are any. -/
def fraction? (cs : List Char) : Option (List Char) :=
  match cs with
  | '.' :: rest => (numeral? 1 rest.length rest).map (·.2)
  | _ => some cs

/-- The offset of a time from that of Greenwich: `Z`, or a sign, hours and minutes within a day. -/
def offset? (cs : List Char) : Option (List Char) :=
  match cs with
  | [] => none
  | c :: rest =>
    if c = 'Z' ∨ c = 'z' then some rest
    else if c = '+' ∨ c = '-' ∨ c = '\u2212' then do
      let (hours, rest) ← numeral? 2 2 rest
      let rest ← expect ':' rest
      let (minutes, rest) ← numeral? 2 2 rest
      if hours ≤ 23 && minutes ≤ 59 then some rest else none
    else none

/-- The calendar day that a timestamp writes, whatever its time and offset; and nothing else after
the timestamp.  A minute may have a sixty-first second. -/
def ofTimestamp? (cs : List Char) : Option Date := do
  let (year, cs) ← numeral? 4 4 cs
  let cs ← expect '-' cs
  let (month, cs) ← numeral? 2 2 cs
  let cs ← expect '-' cs
  let (day, cs) ← numeral? 2 2 cs
  let c :: cs := cs | none
  if ¬(c = 'T' ∨ c = 't' ∨ c = ' ') then none
  let (hour, cs) ← numeral? 2 2 cs
  let cs ← expect ':' cs
  let (minute, cs) ← numeral? 2 2 cs
  let cs ← expect ':' cs
  let (second, cs) ← numeral? 2 2 cs
  let cs ← fraction? cs
  let cs ← offset? cs
  if hour ≤ 23 && minute ≤ 59 && second ≤ 60 && cs.isEmpty then of? year month day else none

/-- Reads a date: a day, or the day of a timestamp.  White space around it does not count. -/
def parse? (raw : String) : Option Date :=
  let cs := trim raw.toList
  ofDayText? cs <|> ofTimestamp? cs

end Date

end Folio
