import TaskQueue.Json.Token
import TaskQueue.Json.Value
import TaskQueue.Number.Shortest

/-!
What a written number denotes, and how a number is written.

A number without point and exponent that fits 64 bits, signed or unsigned, is an integer, `-0`
excepted. Any other number is read in two steps: the leading digits as far as they fit 64 bits,
rounded, and then one scaling by a power of ten, rounded again. A result out of range is refused.

A float is written with its fewest digits: positionally from 1e-5 up to 1e16, with `.0` where it has
no fraction, and with an exponent elsewhere.
-/

namespace TaskQueue.Json

/-- The first natural number that 64 bits do not hold. -/
def wordLimit : Nat := UInt64.size

/-- The largest exponent that is read; a longer one counts as out of every range. -/
def exponentLimit : Nat := 0x80000000

/-- The number that digits denote. -/
def natOfDigits (digits : List Digit) : Nat :=
  digits.foldl (fun n d => 10 * n + d.val) 0

/-- The digits of a natural number. -/
def digitsOfNat (n : Nat) : List Digit :=
  if n < 10 then [Fin.ofNat 10 n] else digitsOfNat (n / 10) ++ [Fin.ofNat 10 n]
termination_by n

/-- A significand of at most 64 bits and the power of ten that scales it. -/
structure Scaled where
  significand : Nat
  exponent : Int
  deriving DecidableEq, Repr

/-- The whole digits: the first one that does not fit, and all after it, only raise the exponent. -/
def Scaled.ofWhole (s : Scaled) : List Digit → Scaled
  | [] => s
  | d :: rest =>
    if 10 * s.significand + d.val < wordLimit then
      Scaled.ofWhole { s with significand := 10 * s.significand + d.val } rest
    else { s with exponent := s.exponent + (rest.length + 1) }

/-- The digits of the fraction, up to the first one that does not fit. -/
def Scaled.addFraction (s : Scaled) : List Digit → Scaled
  | [] => s
  | d :: rest =>
    if 10 * s.significand + d.val < wordLimit then
      Scaled.addFraction ⟨10 * s.significand + d.val, s.exponent - 1⟩ rest
    else s

/-- The magnitude of a significand scaled by a power of ten; the power of ten is rounded first, and
one below the range of magnitudes is applied in several steps. -/
def scale (fuel magnitude : Nat) (exponent : Int) : Option Nat :=
  if 308 < exponent.natAbs then
    match fuel with
    | 0 => some 0
    | fuel + 1 =>
      if magnitude = 0 then some 0
      else if 0 ≤ exponent then none
      else scale fuel (Binary64.div magnitude (Binary64.ofNat (Nat.pow 10 308))) (exponent + 308)
  else
    let power := Binary64.ofNat (Nat.pow 10 exponent.natAbs)
    if 0 ≤ exponent then
      let product := Binary64.mul magnitude power
      if product < Binary64.infinite then some product else none
    else some (Binary64.div magnitude power)

namespace Numeral

/-- A number without point and exponent. -/
def isPlain (n : Numeral) : Bool :=
  n.fraction.isEmpty && n.exponent.isNone

/-- The integer that a number is written as, if it is written as one. -/
def integer? (n : Numeral) : Option Int :=
  let m := natOfDigits n.whole
  if !n.isPlain then none
  else if n.negative then if 0 < m ∧ m ≤ wordLimit / 2 then some (-(m : Int)) else none
  else if m < wordLimit then some m else none

/-- The magnitude of a number that is not an integer, or none if it is out of range. Three steps of
308 take every significand to zero. -/
def magnitude? (n : Numeral) : Option Nat :=
  let s := ((⟨0, 0⟩ : Scaled).ofWhole n.whole).addFraction n.fraction
  match n.exponent with
  | none => scale 4 (Binary64.ofNat s.significand) s.exponent
  | some (negative, digits) =>
    let e := natOfDigits digits
    if e < exponentLimit then
      scale 4 (Binary64.ofNat s.significand) (if negative then s.exponent - e else s.exponent + e)
    else if s.significand ≠ 0 ∧ !negative then none
    else some 0

/-- The value of a number, unless it is out of range. -/
def value? (n : Numeral) : Option Value :=
  match n.integer? with
  | some i => some (.integer i)
  | none => n.magnitude?.map fun m => .float (Binary64.ofMagnitude n.negative m)

/-- An integer as it is written. -/
def ofInt (i : Int) : Numeral :=
  ⟨i < 0, digitsOfNat i.natAbs, [], none⟩

/-- A decimal as it is written. -/
def ofDecimal (negative : Bool) (d : Decimal) : Numeral :=
  let digits := digitsOfNat d.digits
  let point := digits.length + d.exponent
  if 0 ≤ d.exponent ∧ point ≤ 16 then
    ⟨negative, digits ++ List.replicate d.exponent.toNat 0, [0], none⟩
  else if 0 < point ∧ point ≤ 16 then
    ⟨negative, digits.take point.toNat, digits.drop point.toNat, none⟩
  else if -5 < point ∧ point ≤ 0 then
    ⟨negative, [0], List.replicate (-point).toNat 0 ++ digits, none⟩
  else
    ⟨negative, digits.take 1, digits.drop 1,
      some (point - 1 < 0, digitsOfNat (point - 1).natAbs)⟩

/-- A float as it is written. -/
def ofFloat (x : Binary64) : Numeral :=
  ofDecimal x.negative (Decimal.shortest x.magnitude)

end Numeral

end TaskQueue.Json
