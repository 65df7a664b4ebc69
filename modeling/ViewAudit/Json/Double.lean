/-!
Binary floating-point numbers of 64 bits, as far as JSON needs them: those that
are finite and not negative. A decimal is scaled by a power of ten in one step,
or in two if that power is too small for one, and every step is rounded to the
nearest number. So a decimal with many digits may come out next to the number
that is nearest to itself.
-/

namespace ViewAudit

/-- The number `significand × 2 ^ exponent`. -/
structure Double where
  significand : Nat
  exponent : Int
  deriving DecidableEq, Repr

namespace Double

/-- The bits of a significand. -/
def precision : Nat := 53

/-- The exponent of the smallest numbers. -/
def leastExponent : Int := -1074

/-- The exponent of the largest numbers. -/
def greatestExponent : Int := 971

/-- A fraction times a power of two, as a numerator and a denominator. -/
def scale (numerator denominator : Nat) (exponent : Int) : Nat × Nat :=
  if 0 ≤ exponent then (numerator * Nat.pow 2 exponent.toNat, denominator)
  else (numerator, denominator * Nat.pow 2 (-exponent).toNat)

/-- The nearest natural number to a fraction, the even one of two. -/
def roundToEven (numerator denominator : Nat) : Nat :=
  let quotient := numerator / denominator
  let twice := 2 * (numerator % denominator)
  if denominator < twice ∨ (twice = denominator ∧ quotient % 2 = 1) then quotient + 1
  else quotient

/-- The exponent of the greatest power of two up to a fraction that is not
zero. -/
def binaryOrder (numerator denominator : Nat) : Int :=
  let guess : Int := (numerator.log2 : Int) - denominator.log2
  let (n, d) := scale numerator denominator (-guess)
  if d ≤ n then guess else guess - 1

/-- The nearest number to a fraction, if that is not too large. -/
def nearest? (numerator denominator : Nat) : Option Double :=
  if numerator = 0 then some ⟨0, 0⟩
  else
    let exponent := max (binaryOrder numerator denominator + 1 - precision) leastExponent
    let (n, d) := scale numerator denominator (-exponent)
    let significand := roundToEven n d
    if exponent < greatestExponent ∨
        (exponent = greatestExponent ∧ significand < Nat.pow 2 precision) then
      some ⟨significand, exponent⟩
    else none

/-- A number as a fraction. -/
def fraction (x : Double) : Nat × Nat := scale x.significand 1 x.exponent

def times? (x y : Double) : Option Double :=
  nearest? (x.fraction.1 * y.fraction.1) (x.fraction.2 * y.fraction.2)

def dividedBy? (x y : Double) : Option Double :=
  nearest? (x.fraction.1 * y.fraction.2) (x.fraction.2 * y.fraction.1)

/-- The exponent of the greatest power of ten among the numbers. -/
def tenLimit : Nat := 308

def powerOfTen? (exponent : Nat) : Option Double := nearest? (Nat.pow 10 exponent) 1

/-- The number that a decimal is read as, if it is not too large. -/
def ofDecimal? (digits : Nat) (exponent : Int) : Option Double := do
  let x ← nearest? digits 1
  if digits = 0 ∨ exponent < -2 * tenLimit then some ⟨0, 0⟩
  else if tenLimit < exponent then none
  else if 0 ≤ exponent then x.times? (← powerOfTen? exponent.toNat)
  else if -tenLimit ≤ exponent then x.dividedBy? (← powerOfTen? (-exponent).toNat)
  else
    (← x.dividedBy? (← powerOfTen? tenLimit)).dividedBy?
      (← powerOfTen? (-exponent - tenLimit).toNat)

/-- The digits of a number and the exponent of ten that goes with them. -/
def decimal (x : Double) : Nat × Int :=
  if 0 ≤ x.exponent then (x.significand * Nat.pow 2 x.exponent.toNat, 0)
  else (x.significand * Nat.pow 5 (-x.exponent).toNat, x.exponent)

/-- One tenth, the greatest number, a number above it and one that is too small
to tell from zero. -/
example : ofDecimal? 1 (-1) = some ⟨0x1999999999999A, -56⟩ ∧
    ofDecimal? 17976931348623157 292 = some ⟨0x1FFFFFFFFFFFFF, 971⟩ ∧
    ofDecimal? 2 308 = none ∧ ofDecimal? 1 (-324) = some ⟨0, -1074⟩ := by
  decide +kernel

end Double

end ViewAudit
