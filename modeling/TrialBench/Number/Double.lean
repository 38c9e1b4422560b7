namespace TrialBench

-- A binary64 number. A finite magnitude is counted in the smallest step, 2^-1074,
-- so that every finite value and every exact sum of two of them is a whole number.
inductive Double where
  | nan
  | infinite (negative : Bool)
  | finite (negative : Bool) (steps : Nat)
  deriving DecidableEq

namespace Double

def stepsPerUnit : Nat := Nat.pow 2 1074

def overflowSteps : Nat := Nat.pow 2 2098

-- The whole number nearest to a quotient; a half goes to the even neighbour.
def roundQuotient (num den : Nat) : Nat :=
  let q := num / den
  let r := num % den
  if 2 * r < den then q else if den < 2 * r then q + 1 else q + q % 2

-- The distance between neighbours in the binade of a magnitude: 53 bits are kept.
def spacing (steps : Nat) : Nat := Nat.pow 2 (steps.log2 + 1 - 53)

def ofQuotient (negative : Bool) (num den : Nat) : Double :=
  let scaled := num * stepsPerUnit
  let gap := spacing (scaled / den)
  let steps := roundQuotient scaled (den * gap) * gap
  if steps < overflowSteps then .finite negative steps else .infinite negative

def ofNat (n : Nat) : Double := ofQuotient false n 1

-- The number nearest to digits * 10^exponent. Far outside the range of finite
-- numbers the answer is known without the power.
def ofDecimal (negative : Bool) (digits : Nat) (exponent : Int) : Double :=
  let magnitude := (toString digits).length + exponent
  if digits = 0 ∨ magnitude < -330 then .finite negative 0
  else if 310 < magnitude then .infinite negative
  else if 0 ≤ exponent then ofQuotient negative (digits * Nat.pow 10 exponent.toNat) 1
  else ofQuotient negative digits (Nat.pow 10 (-exponent).toNat)

def addMagnitudes (a b : Nat) : Double := ofQuotient false (a + b) stepsPerUnit

def isZero : Double → Bool
  | .finite _ steps => steps == 0
  | _ => false

def isFinite : Double → Bool
  | .finite _ _ => true
  | _ => false

end Double
end TrialBench
