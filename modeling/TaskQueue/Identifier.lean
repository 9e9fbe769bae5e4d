import TaskQueue.Text.Hex

/-!
Task identifiers: 128 bits, written as 32 hexadecimal digits in the groups 8-4-4-4-12.
Four spellings are read: the hyphenated text, the bare digits, the hyphenated text in braces, and
the hyphenated text after the prefix `urn:uuid:`.
-/

namespace TaskQueue

/-- The identifier of a task. -/
structure TaskId where
  bits : BitVec 128
  deriving DecidableEq, Repr

namespace TaskId

/-- The identifier of a given number, taken modulo 2^128. -/
def ofNat (n : Nat) : TaskId :=
  ⟨BitVec.ofNat 128 n⟩

/-- The number of an identifier. -/
def toNat (id : TaskId) : Nat :=
  id.bits.toNat

instance : Inhabited TaskId := ⟨ofNat 0⟩

/-- The 32 digits of an identifier. -/
def digits (id : TaskId) : List Char :=
  Hex.write 32 id.toNat

/-- Hyphens after the 8th, 12th, 16th and 20th digit. -/
def hyphenate (digits : List Char) : List Char :=
  digits.take 8 ++ '-' :: ((digits.drop 8).take 4 ++ '-' :: ((digits.drop 12).take 4 ++
    '-' :: ((digits.drop 16).take 4 ++ '-' :: digits.drop 20)))

/-- The written form of an identifier. -/
def text (id : TaskId) : String :=
  String.ofList (hyphenate id.digits)

/-- The identifier of exactly 32 digits. -/
def ofDigits? (digits : List Char) : Option TaskId :=
  if digits.length = 32 then (Hex.read? digits).map ofNat else none

/-- The identifier of a hyphenated text. -/
def ofHyphenated? (text : List Char) : Option TaskId :=
  let bare := text.take 8 ++ (text.drop 9).take 4 ++ (text.drop 14).take 4 ++
    (text.drop 19).take 4 ++ text.drop 24
  if hyphenate bare = text then ofDigits? bare else none

/-- The two spellings of the name prefix. -/
def urnPrefixes : List (List Char) :=
  ["urn:uuid:".toList, "URN:UUID:".toList]

/-- The identifier that a text spells. -/
def ofText? (text : String) : Option TaskId :=
  let chars := text.toList
  match chars.length with
  | 32 => ofDigits? chars
  | 36 => ofHyphenated? chars
  | 38 =>
    if chars.head? = some '{' ∧ chars.getLast? = some '}' then ofHyphenated? (chars.drop 1).dropLast
    else none
  | 45 => if chars.take 9 ∈ urnPrefixes then ofHyphenated? (chars.drop 9) else none
  | _ => none

end TaskId

end TaskQueue
