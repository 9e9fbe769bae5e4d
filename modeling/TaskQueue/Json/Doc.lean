import TaskQueue.Json.Token

/-!
A JSON document as a tree of its tokens: members keep their order and repetitions, numbers and
strings their written form. There is no limit on nesting.
-/

namespace TaskQueue.Json

/-- A JSON document. -/
inductive Doc
  | null
  | bool (b : Bool)
  | number (n : Numeral)
  | string (s : Text)
  | array (items : List Doc)
  | object (members : List (Text × Doc))
  deriving Inhabited, Repr

namespace Doc

mutual

/-- A document in front of some tokens, and what follows it. -/
def take? : Nat → List Token → Option (Doc × List Token)
  | 0, _ => none
  | _ + 1, .null :: rest => some (.null, rest)
  | _ + 1, .bool b :: rest => some (.bool b, rest)
  | _ + 1, .number n :: rest => some (.number n, rest)
  | _ + 1, .string s :: rest => some (.string s, rest)
  | _ + 1, .openArray :: .closeArray :: rest => some (.array [], rest)
  | fuel + 1, .openArray :: rest =>
    (takeItems? fuel rest).map fun (items, rest) => (.array items, rest)
  | _ + 1, .openObject :: .closeObject :: rest => some (.object [], rest)
  | fuel + 1, .openObject :: rest =>
    (takeMembers? fuel rest).map fun (members, rest) => (.object members, rest)
  | _ + 1, _ => none

/-- At least one item and the closing bracket. -/
def takeItems? : Nat → List Token → Option (List Doc × List Token)
  | 0, _ => none
  | fuel + 1, tokens =>
    match take? fuel tokens with
    | some (item, .closeArray :: rest) => some ([item], rest)
    | some (item, .comma :: rest) =>
      (takeItems? fuel rest).map fun (items, rest) => (item :: items, rest)
    | _ => none

/-- At least one member and the closing brace. -/
def takeMembers? : Nat → List Token → Option (List (Text × Doc) × List Token)
  | 0, _ => none
  | fuel + 1, .string key :: .colon :: tokens =>
    match take? fuel tokens with
    | some (value, .closeObject :: rest) => some ([(key, value)], rest)
    | some (value, .comma :: rest) =>
      (takeMembers? fuel rest).map fun (members, rest) => ((key, value) :: members, rest)
    | _ => none
  | _ + 1, _ => none

end

/-- The document of a text with nothing after it. -/
def read? (bytes : List UInt8) : Option Doc := do
  let tokens ← tokens? bytes
  match take? tokens.length tokens with
  | some (doc, []) => some doc
  | _ => none

mutual

/-- The tokens of a document. -/
def tokens : Doc → List Token
  | .null => [.null]
  | .bool b => [.bool b]
  | .number n => [.number n]
  | .string s => [.string s]
  | .array items => .openArray :: itemTokens items
  | .object members => .openObject :: memberTokens members

/-- The tokens of items up to the closing bracket. -/
def itemTokens : List Doc → List Token
  | [] => [.closeArray]
  | item :: rest => item.tokens ++ moreItemTokens rest

/-- The tokens of items after the first one. -/
def moreItemTokens : List Doc → List Token
  | [] => [.closeArray]
  | item :: rest => .comma :: item.tokens ++ moreItemTokens rest

/-- The tokens of members up to the closing brace. -/
def memberTokens : List (Text × Doc) → List Token
  | [] => [.closeObject]
  | (key, value) :: rest => .string key :: .colon :: value.tokens ++ moreMemberTokens rest

/-- The tokens of members after the first one. -/
def moreMemberTokens : List (Text × Doc) → List Token
  | [] => [.closeObject]
  | (key, value) :: rest =>
    .comma :: .string key :: .colon :: value.tokens ++ moreMemberTokens rest

end

/-- The compact text of a document. -/
def write (doc : Doc) : List UInt8 :=
  doc.tokens.flatMap Token.write

end Doc

end TaskQueue.Json
