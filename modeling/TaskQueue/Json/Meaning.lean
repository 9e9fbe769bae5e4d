import TaskQueue.Json.Doc
import TaskQueue.Json.Numeral

/-!
From documents to values and back.

A document that is kept has to be sound throughout: its strings are UTF-8 with paired surrogates,
its numbers in range, and its arrays and objects nest no deeper than a given number of levels. Of
members with one key the last counts.
-/

namespace TaskQueue.Json

/-- The deepest nesting of arrays and objects that a reader follows. -/
def maxDepth : Nat := 127

/-- The bytes of some pieces; a high surrogate joins the low one behind it, and none stands alone.
-/
def Text.bytes? : Text → Option (List UInt8)
  | [] => some []
  | .byte b :: rest => do return b :: (← Text.bytes? rest)
  | .unit u :: rest =>
    if u < 0xd800 ∨ 0xdfff < u then do
      let scalar ← Utf8.scalar? u.toNat
      return scalar ++ (← Text.bytes? rest)
    else if u < 0xdc00 then
      match rest with
      | .unit low :: rest =>
        if 0xdc00 ≤ low ∧ low ≤ 0xdfff then do
          let scalar ← Utf8.scalar?
            (0x10000 + (u.toNat - 0xd800) * 0x400 + (low.toNat - 0xdc00))
          return scalar ++ (← Text.bytes? rest)
        else none
      | _ => none
    else none

/-- The string that a written string denotes. -/
def Text.string? (s : Text) : Option String := do
  Utf8.decode? (← Text.bytes? s)

/-- A string as it is written. -/
def Text.ofString (s : String) : Text :=
  (Utf8.encode s).map .byte

mutual

/-- The value of a document whose arrays and objects nest at most `levels` deep. -/
def Doc.keep? (levels : Nat) : Doc → Option Value
  | .null => some .null
  | .bool b => some (.bool b)
  | .number n => n.value?
  | .string s => (Text.string? s).map .string
  | .array items => if levels = 0 then none else (Doc.keepItems? (levels - 1) items).map .array
  | .object members =>
    if levels = 0 then none else (Doc.keepMembers? (levels - 1) members).map Value.ofMembers

/-- The values of some items. -/
def Doc.keepItems? (levels : Nat) : List Doc → Option (List Value)
  | [] => some []
  | item :: rest => do
    let value ← item.keep? levels
    return value :: (← Doc.keepItems? levels rest)

/-- The values of some members, in their order. -/
def Doc.keepMembers? (levels : Nat) : List (Text × Doc) → Option (List (String × Value))
  | [] => some []
  | (key, item) :: rest => do
    let key ← Text.string? key
    let value ← item.keep? levels
    return (key, value) :: (← Doc.keepMembers? levels rest)

end

mutual

/-- A value as a document. -/
def Value.doc : Value → Doc
  | .null => .null
  | .bool b => .bool b
  | .integer n => .number (Numeral.ofInt n)
  | .float x => .number (Numeral.ofFloat x)
  | .string s => .string (Text.ofString s)
  | .array items => .array (Value.itemDocs items)
  | .object members => .object (Value.memberDocs members)

/-- Some values as documents. -/
def Value.itemDocs : List Value → List Doc
  | [] => []
  | item :: rest => item.doc :: Value.itemDocs rest

/-- Some members as documents. -/
def Value.memberDocs : List (String × Value) → List (Text × Doc)
  | [] => []
  | (key, value) :: rest => (Text.ofString key, value.doc) :: Value.memberDocs rest

end

/-- The value of a JSON text. -/
def Value.read? (bytes : List UInt8) : Option Value := do
  (← Doc.read? bytes).keep? maxDepth

/-- The compact text of a value. -/
def Value.write (v : Value) : List UInt8 :=
  v.doc.write

end TaskQueue.Json
