import TaskQueue.Number.Binary64

/-!
The shortest decimal that rounds to a given magnitude: of the decimals with the fewest digits in the
interval that rounds to it, the one nearest to it.
-/

namespace TaskQueue

/-- A decimal `digits * 10 ^ exponent`. -/
structure Decimal where
  digits : Nat
  exponent : Int
  deriving DecidableEq, Repr

namespace Decimal

/-- A quotient of natural numbers. -/
structure Quotient where
  num : Nat
  den : Nat

/-- The unit of a decimal grid. -/
def unit (exponent : Int) : Quotient :=
  if 0 ≤ exponent then ⟨Nat.pow 10 exponent.toNat, 1⟩
  else ⟨1, Nat.pow 10 (-exponent).toNat⟩

/-- The quotients that round to one magnitude: from `low` to `high` over one denominator, the ends
included when the significand is even. -/
structure Interval where
  low : Nat
  value : Nat
  high : Nat
  den : Nat
  closed : Bool

/-- The interval of a magnitude that is not zero. -/
def Interval.of (magnitude : Nat) : Interval :=
  let m := Binary64.significand magnitude
  let scale := Nat.pow 2 (Binary64.raisedExponent magnitude)
  let binade := m = Binary64.hidden ∧ 1 < magnitude / Binary64.hidden
  { low := (4 * m - if binade then 1 else 2) * scale
    value := 4 * m * scale
    high := (4 * m + 2) * scale
    den := 4 * Binary64.one
    closed := m % 2 = 0 }

/-- Whether `count` units lie in an interval. -/
def Interval.holds (i : Interval) (u : Quotient) (count : Nat) : Bool :=
  let point := count * u.num * i.den
  if i.closed then i.low * u.den ≤ point && point ≤ i.high * u.den
  else i.low * u.den < point && point < i.high * u.den

/-- The count of units in an interval that is nearest to its value, if there is one. -/
def Interval.nearest? (i : Interval) (u : Quotient) : Option Nat :=
  let below := i.value * u.den / (i.den * u.num)
  let above := below + 1
  match i.holds u below, i.holds u above with
  | false, false => none
  | true, false => some below
  | false, true => some above
  | true, true =>
    let toBelow := i.value * u.den - below * u.num * i.den
    let toAbove := above * u.num * i.den - i.value * u.den
    if toBelow < toAbove then some below
    else if toAbove < toBelow then some above
    else if below % 2 = 0 then some below else some above

/-- The number of decimal digits of a natural number. -/
def width (n : Nat) : Nat :=
  (Nat.toDigits 10 n).length

/-- The exponent of ten of the leading digit of a quotient that is not zero. -/
def leading (num den : Nat) : Int :=
  if den ≤ num then (width (num / den) : Int) - 1
  else -(width (den / num - if den % num = 0 then 1 else 0) : Int)

/-- The first grid, from `count` digits on, that has a point in the interval. -/
def search (i : Interval) (top : Int) : Nat → Nat → Decimal
  | 0, count => ⟨i.value / i.den, top + 1 - count⟩
  | fuel + 1, count =>
    let exponent := top + 1 - count
    match i.nearest? (unit exponent) with
    | some digits => ⟨digits, exponent⟩
    | none => search i top fuel (count + 1)

/-- Trailing zeros moved into the exponent. -/
def trim : Nat → Decimal → Decimal
  | 0, d => d
  | fuel + 1, d =>
    if d.digits ≠ 0 ∧ d.digits % 10 = 0 then trim fuel ⟨d.digits / 10, d.exponent + 1⟩ else d

/-- The shortest decimal of a magnitude. Seventeen digits always suffice. -/
def shortest (magnitude : Nat) : Decimal :=
  if magnitude = 0 then ⟨0, 0⟩
  else
    let i := Interval.of magnitude
    trim 400 (search i (leading i.value i.den) 17 1)

end Decimal

end TaskQueue
