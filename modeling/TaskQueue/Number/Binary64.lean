/-!
Binary floating-point numbers of 64 bits, in exact arithmetic on natural numbers.

A magnitude is the low 63 bits of such a number. Rounding goes to the nearest magnitude, a tie to
the even one, and a magnitude of `infinite` or more is out of range.
-/

namespace TaskQueue

/-- A binary floating-point number by its 64 bits. -/
structure Binary64 where
  bits : UInt64
  deriving DecidableEq, Repr

namespace Binary64

/-- The hidden bit of a significand, which is also the number of magnitudes with one exponent. -/
def hidden : Nat := 0x10000000000000

/-- The sign bit. -/
def sign : Nat := 0x8000000000000000

/-- The number one in units of the smallest magnitude. -/
def one : Nat := Nat.pow 2 1074

/-- The first magnitude that is not finite. -/
def infinite : Nat := 0x7ff * hidden

/-- The number of a sign and a magnitude. -/
def ofMagnitude (negative : Bool) (magnitude : Nat) : Binary64 :=
  ⟨UInt64.ofNat (magnitude + if negative then sign else 0)⟩

/-- Whether the sign bit is set. -/
def negative (x : Binary64) : Bool :=
  sign ≤ x.bits.toNat

/-- The number without its sign. -/
def magnitude (x : Binary64) : Nat :=
  x.bits.toNat % sign

/-- The significand of a magnitude. -/
def significand (magnitude : Nat) : Nat :=
  if magnitude / hidden = 0 then magnitude else magnitude % hidden + hidden

/-- The exponent of two of a magnitude, raised by 1074 so that it is never negative. -/
def raisedExponent (magnitude : Nat) : Nat :=
  magnitude / hidden - 1

/-- A magnitude as a fraction of two natural numbers. -/
def fraction (magnitude : Nat) : Nat × Nat :=
  (significand magnitude * Nat.pow 2 (raisedExponent magnitude), one)

/-- A quotient rounded to the nearest natural number, a tie to the even one. -/
def roundQuotient (num den : Nat) : Nat :=
  let q := num / den
  let twice := 2 * (num % den)
  if twice < den then q
  else if den < twice then q + 1
  else q + q % 2

/-- The raised exponent at which a quotient has a significand of 53 bits, or 0 below that. -/
def exponentFor (num den : Nat) : Nat :=
  let scaled := num * one
  let guess := scaled.log2 - den.log2 - 53
  if den * Nat.pow 2 (guess + 53) ≤ scaled then guess + 1 else guess

/-- The magnitude nearest to a quotient, which may be out of range. -/
def round (num den : Nat) : Nat :=
  let e := exponentFor num den
  e * hidden + roundQuotient (num * one) (den * Nat.pow 2 e)

/-- The magnitude nearest to a natural number. -/
def ofNat (n : Nat) : Nat :=
  round n 1

/-- The product of two magnitudes. -/
def mul (a b : Nat) : Nat :=
  round ((fraction a).1 * (fraction b).1) ((fraction a).2 * (fraction b).2)

/-- The quotient of two magnitudes, the second not zero. -/
def div (a b : Nat) : Nat :=
  round ((fraction a).1 * (fraction b).2) ((fraction a).2 * (fraction b).1)

end Binary64

end TaskQueue
