import TrialBench.Number.Double
import TrialBench.Number.Digits
namespace TrialBench.Double

-- The power of ten just below a nonzero magnitude. No finite magnitude is
-- below 10^-324.
def decade (steps : Nat) : Int :=
  (toString (steps * Nat.pow 10 324 / stepsPerUnit)).length - 325

def scaledDown (steps : Nat) (exponent : Int) : Nat × Nat :=
  if 0 ≤ exponent then (steps, stepsPerUnit * Nat.pow 10 exponent.toNat)
  else (steps * Nat.pow 10 (-exponent).toNat, stepsPerUnit)

def readsBack (steps digits : Nat) (exponent : Int) : Bool :=
  ofDecimal false digits exponent == .finite false steps

-- On a decimal grid only the two neighbours of a value can read back; of two
-- that do, the nearer is taken, and the upper one from the middle.
def onGrid? (steps : Nat) (exponent : Int) : Option Nat :=
  let (num, den) := scaledDown steps exponent
  let lower := num / den
  let upper := lower + 1
  match readsBack steps lower exponent, readsBack steps upper exponent with
  | true, true => some (if 2 * (num % den) < den then lower else upper)
  | true, false => some lower
  | false, true => some upper
  | false, false => none

def shortest (steps : Nat) : Nat × Int :=
  let top := decade steps
  let found := (List.range 17).findSome? fun (extra : Nat) =>
    let exponent := top - (extra : Int)
    (onGrid? steps exponent).map (·, exponent)
  found.getD (steps, 0)

-- Digits with a point and no exponent, however long that is.
def positional (digits : Nat) (exponent : Int) : String :=
  if 0 ≤ exponent then toString (digits * Nat.pow 10 exponent.toNat)
  else
    let places := (-exponent).toNat
    let unit := Nat.pow 10 places
    toString (digits / unit) ++ "." ++ Digits.padded places (digits % unit)

def trimmed (digits : Nat) (exponent : Int) : Nat → Nat × Int
  | 0 => (digits, exponent)
  | fuel + 1 =>
    if exponent < 0 ∧ digits % 10 = 0 then trimmed (digits / 10) (exponent + 1) fuel
    else (digits, exponent)

def signText (negative : Bool) : String := if negative then "-" else ""

def magnitudeText (steps : Nat) : String :=
  if steps = 0 then "0"
  else
    let (digits, exponent) := shortest steps
    let (digits, exponent) := trimmed digits exponent 17
    positional digits exponent

-- Whole numbers are written without a point.
def text : Double → String
  | .nan => "NaN"
  | .infinite negative => signText negative ++ "inf"
  | .finite negative steps => signText negative ++ magnitudeText steps

def pointText (x : Double) : String :=
  if x.isFinite ∧ ¬ x.text.contains '.' then x.text ++ ".0" else x.text

-- A finite magnitude with a fixed number of places, from its exact value.
def fixedText (places steps : Nat) : String :=
  positional (roundQuotient (steps * Nat.pow 10 places) stepsPerUnit) (-places)

def placesText (places : Nat) : Double → String
  | .finite _ steps => fixedText places steps
  | x => x.text

end TrialBench.Double
