import TrialBench.Number.Digits
namespace TrialBench.Toml

def isLeap (year : Nat) : Bool := year % 4 == 0 && (year % 100 != 0 || year % 400 == 0)

def monthDays (year month : Nat) : Nat :=
  if month = 2 then if isLeap year then 29 else 28
  else if month ∈ [4, 6, 9, 11] then 30
  else 31

def digits? (count : Nat) (text : List Char) : Option (Nat × List Char) :=
  if text.length < count then none
  else (Digits.read? 10 (text.take count)).map (·, text.drop count)

def sign? (c : Char) : List Char → Option (List Char)
  | d :: rest => if d = c then some rest else none
  | [] => none

def date? (text : List Char) : Option (String × List Char) := do
  let (year, rest) ← digits? 4 text
  let (month, rest) ← digits? 2 (← sign? '-' rest)
  let (day, rest) ← digits? 2 (← sign? '-' rest)
  if 1 ≤ month ∧ month ≤ 12 ∧ 1 ≤ day ∧ day ≤ monthDays year month then
    some (Digits.padded 4 year ++ "-" ++ Digits.padded 2 month ++ "-" ++ Digits.padded 2 day, rest)
  else none

def dropZeros (digits : List Char) : List Char := (digits.reverse.dropWhile (· = '0')).reverse

-- Nine digits of a second's fraction are kept, without zeros at their end.
def fractionText (digits : List Char) : String :=
  let kept := dropZeros (digits.take 9)
  "." ++ if kept.isEmpty then "0" else String.ofList kept

def fraction? : List Char → Option (String × List Char)
  | '.' :: rest =>
    let (digits, rest) := rest.span Digits.isDecimal
    if digits.isEmpty then none else some (fractionText digits, rest)
  | rest => some ("", rest)

-- Seconds may be left out, and a minute may have a leap second.
def seconds? : List Char → Option (String × List Char)
  | ':' :: rest => do
    let (second, rest) ← digits? 2 rest
    let (fraction, rest) ← fraction? rest
    if second ≤ 60 then some (":" ++ Digits.padded 2 second ++ fraction, rest) else none
  | rest => some ("", rest)

def time? (text : List Char) : Option (String × List Char) := do
  let (hour, rest) ← digits? 2 text
  let (minute, rest) ← digits? 2 (← sign? ':' rest)
  let (seconds, rest) ← seconds? rest
  if hour ≤ 23 ∧ minute ≤ 59 then
    some (Digits.padded 2 hour ++ ":" ++ Digits.padded 2 minute ++ seconds, rest)
  else none

-- The distance from universal time: none, its letter, or hours and minutes. A zero
-- distance has the sign of the larger side.
def offset? : List Char → Option String
  | [] => some ""
  | ['Z'] | ['z'] => some "Z"
  | mark :: rest =>
    if mark ≠ '+' ∧ mark ≠ '-' then none
    else do
      let (hours, rest) ← digits? 2 rest
      let (minutes, rest) ← digits? 2 (← sign? ':' rest)
      let total := hours * 60 + minutes
      if rest.isEmpty ∧ total ≤ 24 * 60 then
        some ((if mark = '-' ∧ total ≠ 0 then "-" else "+") ++ Digits.padded 2 (total / 60) ++ ":"
          ++ Digits.padded 2 (total % 60))
      else none

def isDateMark (c : Char) : Bool := c == 'T' || c == 't' || c == ' '

def moment? (text : List Char) : Option String :=
  match date? text with
  | some (date, []) => some date
  | some (date, mark :: rest) =>
    if ¬ isDateMark mark then none
    else do
      let (time, rest) ← time? rest
      return date ++ "T" ++ time ++ (← offset? rest)
  | none =>
    match time? text with
    | some (time, []) => some time
    | _ => none

end TrialBench.Toml
