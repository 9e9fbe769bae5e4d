/-!
Frames on a stream of bytes: the length of a body in four bytes, the most significant one first, and
then the body. Both ends refuse bodies that are longer than a limit; the end that reads does so as
soon as it knows the length.
-/

namespace TaskQueue

namespace Frame

/-- The number that four bytes stand for. -/
def lengthOf (a b c d : UInt8) : Nat :=
  ((a.toNat * 256 + b.toNat) * 256 + c.toNat) * 256 + d.toNat

/-- A length as four bytes. -/
def header (n : Nat) : List UInt8 :=
  [.ofNat (n / 16777216), .ofNat (n / 65536), .ofNat (n / 256), .ofNat n]

/-- The bytes of a frame, unless its body is longer than a limit. -/
def pack (limit : Nat) (body : List UInt8) : Option (List UInt8) :=
  if body.length ≤ limit then some (header body.length ++ body) else none

end Frame

/-- What the bytes of a stream start with. -/
inductive Frame
  /-- More bytes have to come. -/
  | incomplete
  /-- The start of a frame that is longer than the limit. -/
  | tooLong
  /-- A frame, and the bytes after it. -/
  | whole (body rest : List UInt8)

namespace Frame

/-- The frame that bytes start with. -/
def split (limit : Nat) : List UInt8 → Frame
  | a :: b :: c :: d :: rest =>
    let length := lengthOf a b c d
    if limit < length then .tooLong
    else if rest.length < length then .incomplete
    else .whole (rest.take length) (rest.drop length)
  | _ => .incomplete

end Frame

end TaskQueue
