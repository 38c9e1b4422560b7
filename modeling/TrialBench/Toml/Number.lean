import TrialBench.Number.Double
import TrialBench.Number.Digits
namespace TrialBench.Toml

-- Digits, with single underscores between them. A digit has to come first and last.
def digitGroups? (base : Nat) : Bool → List Char → Option (List Nat)
  | afterDigit, [] => if afterDigit then some [] else none
  | afterDigit, c :: rest =>
    if c = '_' then if afterDigit then digitGroups? base false rest else none
    else match Digits.digit? base c with
      | none => none
      | some d => (digitGroups? base true rest).map (d :: ·)

-- Zero itself is the only decimal number that begins with a zero.
def plainDigits? (text : List Char) : Option (List Nat) :=
  (digitGroups? 10 false text).filter fun digits => digits.head? ≠ some 0 ∨ digits = [0]

def unsign : List Char → Bool × List Char
  | '-' :: rest => (true, rest)
  | '+' :: rest => (false, rest)
  | rest => (false, rest)

-- Integers have 64 bits and a sign.
def inRange? (value : Int) : Option Int :=
  if Digits.fitsSigned value then some value else none

def signed (negative : Bool) (n : Nat) : Int := if negative then -n else n

def integer? (text : List Char) : Option Int :=
  let inBase (base : Nat) (rest : List Char) : Option Int :=
    (digitGroups? base false rest).bind fun digits => inRange? (Digits.value base digits)
  match text with
  | '0' :: 'x' :: rest => inBase 16 rest
  | '0' :: 'o' :: rest => inBase 8 rest
  | '0' :: 'b' :: rest => inBase 2 rest
  | _ =>
    let (negative, rest) := unsign text
    (plainDigits? rest).bind fun digits => inRange? (signed negative (Digits.value 10 digits))

-- What stands after the e: a sign and digits, leading zeros allowed.
def exponent? : List Char → Option Int
  | [] => some 0
  | _ :: rest =>
    let (negative, rest) := unsign rest
    (digitGroups? 10 false rest).map fun digits => signed negative (Digits.value 10 digits)

def fractionDigits? : List Char → Option (List Nat)
  | [] => some []
  | _ :: rest => digitGroups? 10 false rest

-- A number that is too large for its type is refused.
def finite? (x : Double) : Option Double := if x.isFinite then some x else none

def isExponentMark (c : Char) : Bool := c == 'e' || c == 'E'

def real? (text : List Char) : Option Double :=
  let (negative, rest) := unsign text
  match rest with
  | ['i', 'n', 'f'] => some (.infinite negative)
  | ['n', 'a', 'n'] => some .nan
  | _ =>
    let (mantissa, exponent) := rest.span (¬ isExponentMark ·)
    let (whole, fraction) := mantissa.span (· ≠ '.')
    if fraction.isEmpty ∧ exponent.isEmpty then none
    else do
      let whole ← plainDigits? whole
      let fraction ← fractionDigits? fraction
      let exponent ← exponent? exponent
      finite? (.ofDecimal negative (Digits.value 10 (whole ++ fraction))
        (exponent - fraction.length))

end TrialBench.Toml
