/-!
Strings as their UTF-8 bytes. Reading back succeeds exactly on well-formed UTF-8.
-/

namespace TaskQueue.Utf8

/-- The bytes of a string. -/
def encode (text : String) : List UInt8 :=
  text.toUTF8.toList

/-- The string whose bytes are given, if they are well-formed. -/
def decode? (bytes : List UInt8) : Option String :=
  String.fromUTF8? ⟨bytes.toArray⟩

/-- The bytes of the scalar value of a given number, if there is one. -/
def scalar? (code : Nat) : Option (List UInt8) :=
  if code.isValidChar then some (encode (String.singleton (Char.ofNat code))) else none

end TaskQueue.Utf8
