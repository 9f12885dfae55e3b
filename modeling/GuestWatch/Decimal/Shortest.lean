import GuestWatch.Decimal.Binary64
import GuestWatch.Text.Decimal

/-! # Shortest decimal text

The digits of a number are the fewest that read back as it, and of those the nearest. They are
found by trying one digit, two digits and so on: on each decimal grid the two neighbours of the
number are compared with the interval of reals that round to it. Of two that are as near, the one
with the even last digit is taken.
-/
namespace GuestWatch.Decimal.Shortest

open Binary64

/-- A positive magnitude with the interval that rounds to it, all over one denominator. -/
structure Interval where
  low : Nat
  value : Nat
  high : Nat
  den : Nat
  closed : Bool

/-- The interval around a magnitude. Below a power of two the gap is half as wide. -/
def interval (m : Nat) (e : Int) : Interval :=
  let narrow := m = Nat.pow 2 52 ∧ minExponent < e
  let low := if narrow then 4 * m - 1 else 4 * m - 2
  let up := if 0 ≤ e then Nat.pow 2 e.toNat else 1
  let down := if 0 ≤ e then 1 else Nat.pow 2 (-e).toNat
  ⟨low * up, 4 * m * up, (4 * m + 2) * up, 4 * down, m % 2 = 0⟩

/-- Whether the decimal `d * 10 ^ k` reads back as the value. -/
def Interval.readsBack (iv : Interval) (d : Nat) (k : Int) : Bool :=
  let (num, den) := if 0 ≤ k then (d * Nat.pow 10 k.toNat, 1) else (d, Nat.pow 10 (-k).toNat)
  let x := num * iv.den
  if iv.closed then iv.low * den ≤ x && x ≤ iv.high * den
  else iv.low * den < x && x < iv.high * den

/-- The largest `k` with `10 ^ k` at most the value, searched from a guess that is not too high. -/
def Interval.magnitude (iv : Interval) (guess : Int) : Nat → Int
  | 0 => guess
  | fuel + 1 =>
    let next := guess + 1
    let fits :=
      if 0 ≤ next then Nat.pow 10 next.toNat * iv.den ≤ iv.value
      else iv.den ≤ iv.value * Nat.pow 10 (-next).toNat
    if fits then iv.magnitude next fuel else guess

/-- Tries grids of `n`, `n + 1`, … digits for a value of the given magnitude. -/
def Interval.search (iv : Interval) (magnitude : Int) (n : Nat) : Nat → Nat × Int
  | 0 => (0, 0)
  | fuel + 1 =>
    let k := magnitude - n + 1
    let (num, den) :=
      if 0 ≤ k then (iv.value, iv.den * Nat.pow 10 k.toNat)
      else (iv.value * Nat.pow 10 (-k).toNat, iv.den)
    let below := num / den
    let twice := 2 * (num % den)
    let nearBelow := twice < den || (twice = den && below % 2 = 0)
    let first := if nearBelow then below else below + 1
    let second := if nearBelow then below + 1 else below
    if iv.readsBack first k then (first, k)
    else if iv.readsBack second k then (second, k)
    else iv.search magnitude (n + 1) fuel

/-- Moves trailing zeros into the exponent. -/
def dropZeros (d : Nat) (k : Int) : Nat → Nat × Int
  | 0 => (d, k)
  | fuel + 1 => if d ≠ 0 ∧ d % 10 = 0 then dropZeros (d / 10) (k + 1) fuel else (d, k)

/-- Digits and exponent of the shortest decimal of a positive magnitude. -/
def decimal (m : Nat) (e : Int) : Nat × Int :=
  let iv := interval m e
  let guess := ((m.log2 : Int) + e) * 3 / 10 - 25
  let found := iv.search (iv.magnitude guess 60) 1 18
  dropZeros found.1 found.2 20

/-- Positional text holds decimal exponents from here … -/
def leastPositional : Int := -5

/-- … to here; other numbers have an exponent, always with its sign. -/
def greatestPositional : Int := 15

/-- Lays digits out around the point. `exponent` is that of the first digit. -/
def layOut (ds : List Char) (exponent : Int) : List Char :=
  if leastPositional ≤ exponent ∧ exponent ≤ greatestPositional then
    if exponent < 0 then
      '0' :: '.' :: (List.replicate (-exponent - 1).toNat '0' ++ ds)
    else
      let whole := exponent.toNat + 1
      let fraction := ds.drop whole
      ds.take whole ++ List.replicate (whole - ds.length) '0' ++
        '.' :: (if fraction.isEmpty then ['0'] else fraction)
  else
    let mantissa := match ds with
      | [d] => [d]
      | d :: rest => d :: '.' :: rest
      | [] => []
    let mark := if exponent < 0 then ['e', '-'] else ['e', '+']
    mantissa ++ mark ++ Text.Decimal.digits exponent.natAbs

/-- The text of a number. -/
def text (x : Binary64) : String :=
  let sign := if x.negative then ['-'] else []
  let body :=
    if x.significand = 0 then ['0', '.', '0']
    else
      let (d, k) := decimal x.significand x.exponent
      let ds := Text.Decimal.digits d
      layOut ds (k + ds.length - 1)
  String.ofList (sign ++ body)

end GuestWatch.Decimal.Shortest
