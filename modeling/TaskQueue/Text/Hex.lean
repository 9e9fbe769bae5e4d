/-!
Hexadecimal text: digits in lower case are written, digits in either case are read.
-/

namespace TaskQueue.Hex

/-- The lower-case digit of a number below sixteen. -/
def digit (n : Nat) : Char :=
  if n < 10 then Char.ofNat (48 + n) else Char.ofNat (87 + n)

/-- The value of a digit in either case. -/
def value? (c : Char) : Option Nat :=
  if '0' ≤ c ∧ c ≤ '9' then some (c.toNat - 48)
  else if 'a' ≤ c ∧ c ≤ 'f' then some (c.toNat - 87)
  else if 'A' ≤ c ∧ c ≤ 'F' then some (c.toNat - 55)
  else none

/-- The last `width` digits of a number, leading zeros included. -/
def write : Nat → Nat → List Char
  | 0, _ => []
  | width + 1, n => write width (n / 16) ++ [digit (n % 16)]

/-- The number that a run of digits denotes after the digits already read. -/
def readFrom (seen : Nat) : List Char → Option Nat
  | [] => some seen
  | c :: rest => do readFrom (16 * seen + (← value? c)) rest

/-- The number that a text of digits denotes. -/
def read? (text : List Char) : Option Nat :=
  readFrom 0 text

/-- Bytes written as pairs of digits. -/
def bytes? : List Char → Option (List UInt8)
  | [] => some []
  | [_] => none
  | high :: low :: rest => do
    let byte := 16 * (← value? high) + (← value? low)
    return UInt8.ofNat byte :: (← bytes? rest)

end TaskQueue.Hex
