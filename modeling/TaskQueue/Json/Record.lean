import TaskQueue.Json.Meaning

/-!
Reading documents whose shape is known.

A record is an object that has each known member at most once and any others besides, or an array of
exactly its fields in their order. What is not asked for is not looked at: only its member names
have to be sound. Every array and object that is entered takes one of the levels that are left.
-/

namespace TaskQueue.Json.Doc

/-- A string. -/
def string? : Doc → Option String
  | .string s => s.string?
  | _ => none

/-- A truth value. -/
def bool? : Doc → Option Bool
  | .bool b => some b
  | _ => none

/-- An integer from `low` up to `high`. -/
def int? (low high : Int) : Doc → Option Int
  | .number n => do
    let i ← n.integer?
    if low ≤ i ∧ i ≤ high then some i else none
  | _ => none

/-- A natural number below `size`. -/
def word? (size : Nat) (doc : Doc) : Option Nat :=
  (doc.int? 0 ((size : Int) - 1)).map Int.toNat

/-- Null, or something that can be read. -/
def nullable? {α : Type} (read : Doc → Option α) : Doc → Option (Option α)
  | .null => some none
  | doc => (read doc).map some

/-- An array whose items can be read. -/
def list? {α : Type} (read : Nat → Doc → Option α) (levels : Nat) : Doc → Option (List α)
  | .array items => if levels = 0 then none else items.mapM (read (levels - 1))
  | _ => none

/-- The members of an object with their names decoded. -/
def members? (levels : Nat) : Doc → Option (List (String × Doc))
  | .object members =>
    if levels = 0 then none else members.mapM fun (key, value) => (key.string?).map (·, value)
  | _ => none

/-- The member of a given name, if there is one; refused if there are two. -/
def single? (name : String) (members : List (String × Doc)) : Option (Option Doc) :=
  match members.filter (·.1 = name) with
  | [] => some none
  | [(_, value)] => some (some value)
  | _ => none

/-- The fields of a record in the order of their names, a missing one as none. -/
def record? (names : List String) (levels : Nat) (doc : Doc) : Option (List (Option Doc)) :=
  match doc with
  | .array items =>
    if levels = 0 ∨ items.length ≠ names.length then none else some (items.map some)
  | _ => do
    let members ← doc.members? levels
    names.mapM (single? · members)

/-- The name of a choice without content: a string, or an object whose only member has that name and
the value null. -/
def choice? (levels : Nat) : Doc → Option String
  | .string s => s.string?
  | .object [(key, .null)] => if levels = 0 then none else key.string?
  | _ => none

end TaskQueue.Json.Doc
