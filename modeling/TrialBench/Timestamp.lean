import TrialBench.Number.Digits
namespace TrialBench

-- A moment in universal time: whole minutes since the first of March of the year zero,
-- a second of that minute (a leap second among them) and its nanoseconds.
structure Timestamp where
  minutes : Int
  second : Nat
  nanos : Nat
  deriving DecidableEq

namespace Timestamp

structure Date where
  year : Int
  month : Nat
  day : Nat
  deriving DecidableEq

-- The year starts in March here, so that a leap day is its last day.
def dayNumber (date : Date) : Int :=
  let year := if date.month ≤ 2 then date.year - 1 else date.year
  let month := (date.month + 9) % 12
  year * 365 + year / 4 - year / 100 + year / 400 + (month * 153 + 2) / 5 + date.day - 1

def dateOf (days : Int) : Date :=
  let era := days / 146097
  let left := (days % 146097).toNat
  let year := (left - left / 1460 + left / 36524 - left / 146096) / 365
  let inYear := left - (365 * year + year / 4 - year / 100)
  let month := (5 * inYear + 2) / 153
  let day := inYear - (153 * month + 2) / 5 + 1
  let calendarMonth := if month < 10 then month + 3 else month - 9
  let calendarYear := era * 400 + year + if calendarMonth ≤ 2 then 1 else 0
  ⟨calendarYear, calendarMonth, day⟩

def minutesPerDay : Int := 1440

-- Years outside four digits carry a sign.
def yearText (year : Int) : String :=
  if year < 0 then "-" ++ Digits.padded 4 year.natAbs
  else if 9999 < year then "+" ++ toString year
  else Digits.padded 4 year.toNat

-- Cut to milliseconds, with the offset of universal time.
def text (t : Timestamp) : String :=
  let date := dateOf (t.minutes / minutesPerDay)
  let minute := (t.minutes % minutesPerDay).toNat
  yearText date.year ++ "-" ++ Digits.padded 2 date.month ++ "-" ++ Digits.padded 2 date.day
    ++ "T" ++ Digits.padded 2 (minute / 60) ++ ":" ++ Digits.padded 2 (minute % 60)
    ++ ":" ++ Digits.padded 2 t.second ++ "." ++ Digits.padded 3 (t.nanos / 1000000) ++ "+00:00"

def number? (count : Nat) (text : List Char) : Option (Nat × List Char) :=
  if text.length < count then none
  else (Digits.read? 10 (text.take count)).map (·, text.drop count)

def mark? (marks : List Char) : List Char → Option (List Char)
  | c :: rest => if c ∈ marks then some rest else none
  | [] => none

-- Nine digits of a second's fraction are kept.
def fraction? : List Char → Option (Nat × List Char)
  | '.' :: rest =>
    let (digits, rest) := rest.span Digits.isDecimal
    if digits.isEmpty then none
    else (Digits.read? 10 (digits.take 9 ++ List.replicate (9 - digits.length) '0')).map (·, rest)
  | rest => some (0, rest)

-- How far a clock is ahead of universal time, in minutes.
def offset? : List Char → Option Int
  | ['Z'] | ['z'] => some 0
  | sign :: rest =>
    if sign ≠ '+' ∧ sign ≠ '-' then none
    else do
      let (hours, rest) ← number? 2 rest
      let (minutes, rest) ← number? 2 (← mark? [':'] rest)
      let ahead : Int := hours * 60 + minutes
      if rest.isEmpty ∧ hours ≤ 23 ∧ minutes ≤ 59 then
        some (if sign = '-' then -ahead else ahead)
      else none
  | [] => none

def read? (text : String) : Option Timestamp := do
  let (year, rest) ← number? 4 text.toList
  let (month, rest) ← number? 2 (← mark? ['-'] rest)
  let (day, rest) ← number? 2 (← mark? ['-'] rest)
  let (hour, rest) ← number? 2 (← mark? ['T', 't', ' '] rest)
  let (minute, rest) ← number? 2 (← mark? [':'] rest)
  let (second, rest) ← number? 2 (← mark? [':'] rest)
  let (nanos, rest) ← fraction? rest
  let ahead ← offset? rest
  let date : Date := ⟨year, month, day⟩
  if dateOf (dayNumber date) = date ∧ hour ≤ 23 ∧ minute ≤ 59 ∧ second ≤ 60 then
    some ⟨dayNumber date * minutesPerDay + hour * 60 + minute - ahead, second, nanos⟩
  else none

end Timestamp
end TrialBench
