import TaskQueue.Text.Hex
import TaskQueue.Text.Utf8

/-!
The tokens of a JSON text, read from bytes and written to bytes.

Reading checks the form of a token only: control characters are refused inside strings and an escape
has to be one of the eight short ones or `\u` with four digits. Whether the bytes of a string are
UTF-8 and whether its surrogates pair up is asked when the string is used, not here.
-/

namespace TaskQueue.Json

/-- One element of a written string: a byte, or the UTF-16 unit of an escape above U+007F. -/
inductive Piece
  | byte (b : UInt8)
  | unit (u : UInt16)
  deriving DecidableEq, Repr

/-- A string as it is written between its quotes. -/
abbrev Text := List Piece

/-- A decimal digit. -/
abbrev Digit := Fin 10

/-- A number as it is written. An empty fraction is not written; the exponent is a sign, true for
minus, and its digits. -/
structure Numeral where
  negative : Bool
  whole : List Digit
  fraction : List Digit
  exponent : Option (Bool × List Digit)
  deriving DecidableEq, Repr

/-- A token of a JSON text. -/
inductive Token
  | openArray | closeArray | openObject | closeObject | comma | colon
  | null | bool (b : Bool) | number (n : Numeral) | string (s : Text)
  deriving DecidableEq, Repr

/-- The bytes of a text in ASCII. -/
def ascii (chars : List Char) : List UInt8 :=
  chars.map (UInt8.ofNat ·.toNat)

/-! ## Strings -/

/-- The letter of the short escape of a byte. -/
def shortEscape? (b : UInt8) : Option Char :=
  if b = 0x22 then some '"'
  else if b = 0x5c then some '\\'
  else if b = 0x08 then some 'b'
  else if b = 0x0c then some 'f'
  else if b = 0x0a then some 'n'
  else if b = 0x0d then some 'r'
  else if b = 0x09 then some 't'
  else none

/-- The byte of a short escape. -/
def ofShortEscape? (letter : UInt8) : Option UInt8 :=
  if letter = 0x22 then some 0x22
  else if letter = 0x5c then some 0x5c
  else if letter = 0x2f then some 0x2f
  else if letter = 0x62 then some 0x08
  else if letter = 0x66 then some 0x0c
  else if letter = 0x6e then some 0x0a
  else if letter = 0x72 then some 0x0d
  else if letter = 0x74 then some 0x09
  else none

/-- The piece of an escaped code unit. -/
def Piece.ofUnit (code : Nat) : Piece :=
  if code < 0x80 then .byte (UInt8.ofNat code) else .unit (UInt16.ofNat code)

/-- The written form of a piece: control characters, the quote and the backslash are escaped. -/
def Piece.write : Piece → List UInt8
  | .byte b =>
    match shortEscape? b with
    | some letter => ascii ['\\', letter]
    | none => if b < 0x20 then ascii ('\\' :: 'u' :: Hex.write 4 b.toNat) else [b]
  | .unit u => ascii ('\\' :: 'u' :: Hex.write 4 u.toNat)

/-- The written form of a string with its quotes. -/
def Text.write (s : Text) : List UInt8 :=
  0x22 :: s.flatMap Piece.write ++ [0x22]

/-- Four hexadecimal digits as a number. -/
def unitOf? (a b c d : UInt8) : Option Nat :=
  Hex.read? ([a, b, c, d].map fun x => Char.ofNat x.toNat)

/-- The rest of a string after its opening quote, and what follows its closing quote. -/
def Text.read? : List UInt8 → Option (Text × List UInt8)
  | [] => none
  | 0x22 :: rest => some ([], rest)
  | 0x5c :: 0x75 :: a :: b :: c :: d :: rest => do
    let code ← unitOf? a b c d
    let (pieces, rest) ← Text.read? rest
    return (Piece.ofUnit code :: pieces, rest)
  | 0x5c :: letter :: rest => do
    let b ← ofShortEscape? letter
    let (pieces, rest) ← Text.read? rest
    return (.byte b :: pieces, rest)
  | b :: rest =>
    if b < 0x20 ∨ b = 0x5c then none
    else do
      let (pieces, rest) ← Text.read? rest
      return (.byte b :: pieces, rest)

/-! ## Numbers -/

/-- The value of a digit. -/
def digit? (b : UInt8) : Option Digit :=
  if 0x30 ≤ b ∧ b ≤ 0x39 then some (Fin.ofNat 10 (b.toNat - 48)) else none

/-- The written form of a digit. -/
def writeDigit (d : Digit) : UInt8 :=
  UInt8.ofNat (48 + d.val)

/-- The longest run of digits in front, and the rest. -/
def spanDigits : List UInt8 → List Digit × List UInt8
  | [] => ([], [])
  | b :: rest =>
    match digit? b with
    | some d => let (ds, rest) := spanDigits rest; (d :: ds, rest)
    | none => ([], b :: rest)

/-- The whole part of a number: a zero alone, or digits that start with another one. -/
def readWhole? (bytes : List UInt8) : Option (List Digit × List UInt8) :=
  match bytes with
  | 0x30 :: rest => some ([0], rest)
  | _ =>
    match spanDigits bytes with
    | ([], _) => none
    | found => some found

/-- At least one digit. -/
def readDigits? (bytes : List UInt8) : Option (List Digit × List UInt8) :=
  match spanDigits bytes with
  | ([], _) => none
  | found => some found

/-- The fraction of a number, empty if there is no point. -/
def readFraction? : List UInt8 → Option (List Digit × List UInt8)
  | 0x2e :: rest => readDigits? rest
  | rest => some ([], rest)

/-- The digits of an exponent after its letter, with the sign. -/
def readSigned? : List UInt8 → Option ((Bool × List Digit) × List UInt8)
  | 0x2b :: rest => (readDigits? rest).map fun (ds, rest) => ((false, ds), rest)
  | 0x2d :: rest => (readDigits? rest).map fun (ds, rest) => ((true, ds), rest)
  | rest => (readDigits? rest).map fun (ds, rest) => ((false, ds), rest)

/-- The exponent of a number, if it has one. -/
def readExponent? : List UInt8 → Option (Option (Bool × List Digit) × List UInt8)
  | 0x65 :: rest => (readSigned? rest).map fun (e, rest) => (some e, rest)
  | 0x45 :: rest => (readSigned? rest).map fun (e, rest) => (some e, rest)
  | rest => some (none, rest)

/-- A number after its sign. -/
def Numeral.readUnsigned? (negative : Bool) (bytes : List UInt8) :
    Option (Numeral × List UInt8) := do
  let (whole, rest) ← readWhole? bytes
  let (fraction, rest) ← readFraction? rest
  let (exponent, rest) ← readExponent? rest
  return (⟨negative, whole, fraction, exponent⟩, rest)

/-- The written form of an exponent, always with its sign. -/
def writeExponent : Option (Bool × List Digit) → List UInt8
  | none => []
  | some (negative, ds) => 0x65 :: (if negative then 0x2d else 0x2b) :: ds.map writeDigit

/-- The written form of a fraction. -/
def writeFraction : List Digit → List UInt8
  | [] => []
  | ds => 0x2e :: ds.map writeDigit

/-- The written form of a number. -/
def Numeral.write (n : Numeral) : List UInt8 :=
  (if n.negative then [0x2d] else []) ++ n.whole.map writeDigit ++ writeFraction n.fraction ++
    writeExponent n.exponent

/-! ## Tokens -/

/-- Blank, tab, line feed and carriage return. -/
def isSpace (b : UInt8) : Bool :=
  b = 0x20 || b = 0x09 || b = 0x0a || b = 0x0d

/-- A token in front of the bytes, which do not start with a space, and what follows it. -/
def Token.read? : List UInt8 → Option (Token × List UInt8)
  | 0x5b :: rest => some (.openArray, rest)
  | 0x5d :: rest => some (.closeArray, rest)
  | 0x7b :: rest => some (.openObject, rest)
  | 0x7d :: rest => some (.closeObject, rest)
  | 0x2c :: rest => some (.comma, rest)
  | 0x3a :: rest => some (.colon, rest)
  | 0x22 :: rest => (Text.read? rest).map fun (s, rest) => (.string s, rest)
  | 0x6e :: 0x75 :: 0x6c :: 0x6c :: rest => some (.null, rest)
  | 0x74 :: 0x72 :: 0x75 :: 0x65 :: rest => some (.bool true, rest)
  | 0x66 :: 0x61 :: 0x6c :: 0x73 :: 0x65 :: rest => some (.bool false, rest)
  | 0x2d :: rest => (Numeral.readUnsigned? true rest).map fun (n, rest) => (.number n, rest)
  | bytes => (Numeral.readUnsigned? false bytes).map fun (n, rest) => (.number n, rest)

/-- The written form of a token. -/
def Token.write : Token → List UInt8
  | .openArray => [0x5b]
  | .closeArray => [0x5d]
  | .openObject => [0x7b]
  | .closeObject => [0x7d]
  | .comma => [0x2c]
  | .colon => [0x3a]
  | .null => [0x6e, 0x75, 0x6c, 0x6c]
  | .bool true => [0x74, 0x72, 0x75, 0x65]
  | .bool false => [0x66, 0x61, 0x6c, 0x73, 0x65]
  | .number n => n.write
  | .string s => Text.write s

/-- The tokens of a text. Every token takes at least one byte, so as many steps as there are bytes
are enough. -/
def Token.readAll? : Nat → List UInt8 → Option (List Token)
  | _, [] => some []
  | 0, _ :: _ => none
  | fuel + 1, b :: rest =>
    if isSpace b then Token.readAll? fuel rest
    else do
      let (token, rest) ← Token.read? (b :: rest)
      return token :: (← Token.readAll? fuel rest)

/-- The tokens of a text. -/
def tokens? (bytes : List UInt8) : Option (List Token) :=
  Token.readAll? bytes.length bytes

end TaskQueue.Json
