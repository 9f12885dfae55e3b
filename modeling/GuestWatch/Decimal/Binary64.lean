/-! # Numbers of double precision

A finite number is a sign, a whole significand below `2^53` and an exponent of two. Every operation
is exact arithmetic followed by one rounding to the nearest such number, ties going to the even
significand.
-/
namespace GuestWatch.Decimal

structure Binary64 where
  negative : Bool
  significand : Nat
  exponent : Int
deriving DecidableEq, Repr

namespace Binary64

/-- The exponent of the smallest numbers. -/
def minExponent : Int := -1074

/-- The exponent of the largest numbers. -/
def maxExponent : Int := 971

def zero (negative : Bool) : Binary64 := ⟨negative, 0, minExponent⟩

/-- The quotient of two naturals to the nearest natural, ties to even. -/
def divNearest (num den : Nat) : Nat :=
  let q := num / den
  let twice := 2 * (num % den)
  if twice < den then q else if den < twice then q + 1 else q + q % 2

/-- `num / den / 2 ^ e` as a quotient of naturals. -/
def scaled (num den : Nat) (e : Int) : Nat × Nat :=
  if 0 ≤ e then (num, den * Nat.pow 2 e.toNat) else (num * Nat.pow 2 (-e).toNat, den)

/-- The number nearest to a positive quotient; `none` when it is too large. -/
def ofQuotient? (num den : Nat) : Option (Nat × Int) :=
  if num = 0 then some (0, minExponent)
  else
    let guess : Int := (num.log2 : Int) - den.log2 - 52
    let small := scaled num den guess
    let e := max minExponent (if small.1 < Nat.pow 2 52 * small.2 then guess - 1 else guess)
    let parts := scaled num den e
    let m := divNearest parts.1 parts.2
    let result := if m = Nat.pow 2 53 then (Nat.pow 2 52, e + 1) else (m, e)
    if maxExponent < result.2 then none else some result

/-- The value of a magnitude as a quotient of naturals. -/
def quotient (m : Nat) (e : Int) : Nat × Nat :=
  if 0 ≤ e then (m * Nat.pow 2 e.toNat, 1) else (m, Nat.pow 2 (-e).toNat)

/-- The nearest number to a power of ten. -/
def powerOfTen (k : Nat) : Nat × Nat :=
  match ofQuotient? (Nat.pow 10 k) 1 with
  | some (m, e) => quotient m e
  | none => (0, 1)

/-- The greatest power of ten among these numbers. -/
def maxPower : Nat := 308

/-- Multiplies a magnitude by a rounded power of ten. -/
def times (value : Nat × Int) (k : Nat) : Option (Nat × Int) :=
  let v := quotient value.1 value.2
  let p := powerOfTen k
  ofQuotient? (v.1 * p.1) (v.2 * p.2)

/-- Divides a magnitude by a rounded power of ten. -/
def dividedBy (value : Nat × Int) (k : Nat) : Nat × Int :=
  let v := quotient value.1 value.2
  let p := powerOfTen k
  (ofQuotient? (v.1 * p.2) (v.2 * p.1)).getD (0, minExponent)

/-- A significand scaled by a power of ten, each step rounded: one factor where the power is in
range, and division by the greatest power until it is. `none` when the result is too large. -/
def ofDecimal? (significand : Nat) (exponent : Int) : Option (Nat × Int) :=
  match ofQuotient? significand 1 with
  | none => none
  | some value => scale value exponent 20
where
  scale (value : Nat × Int) (exponent : Int) : Nat → Option (Nat × Int)
    | 0 => some (0, minExponent)
    | fuel + 1 =>
      if exponent.natAbs ≤ maxPower then
        if 0 ≤ exponent then times value exponent.toNat else some (dividedBy value exponent.natAbs)
      else if value.1 = 0 then some value
      else if 0 ≤ exponent then none
      else scale (dividedBy value maxPower) (exponent + maxPower) fuel

end Binary64

end GuestWatch.Decimal
