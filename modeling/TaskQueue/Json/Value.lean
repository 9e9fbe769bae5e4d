import TaskQueue.Number.Binary64

/-!
JSON values: what a document means. Integers of 64 bits, signed or unsigned, stay integers; every
other number is a binary floating-point number. The members of an object are sorted by key, each key
once.
-/

namespace TaskQueue.Json

/-- A JSON value. -/
inductive Value
  | null
  | bool (b : Bool)
  | integer (n : Int)
  | float (x : Binary64)
  | string (s : String)
  | array (items : List Value)
  | object (members : List (String × Value))
  deriving Inhabited, Repr

/-- The members with one more, which replaces an earlier one of its key. -/
def insertMember {α : Type} (key : String) (value : α) : List (String × α) → List (String × α)
  | [] => [(key, value)]
  | (k, v) :: rest =>
    if key < k then (key, value) :: (k, v) :: rest
    else if key = k then (key, value) :: rest
    else (k, v) :: insertMember key value rest

/-- Members in any order as the members of an object; of one key the last counts. -/
def sortMembers {α : Type} (members : List (String × α)) : List (String × α) :=
  members.foldl (fun sorted m => insertMember m.1 m.2 sorted) []

namespace Value

/-- An object of the given members. -/
def ofMembers (members : List (String × Value)) : Value :=
  .object (sortMembers members)

/-- A natural number. -/
def nat (n : Nat) : Value :=
  .integer n

/-- The member of an object of a given key. -/
def get? (key : String) : Value → Option Value
  | .object members => members.lookup key
  | _ => none

mutual

/-- How deep arrays and objects nest. -/
def depth : Value → Nat
  | .array items => 1 + depthOfItems items
  | .object members => 1 + depthOfMembers members
  | _ => 0

/-- The largest depth of some items. -/
def depthOfItems : List Value → Nat
  | [] => 0
  | item :: rest => max item.depth (depthOfItems rest)

/-- The largest depth of some members. -/
def depthOfMembers : List (String × Value) → Nat
  | [] => 0
  | (_, value) :: rest => max value.depth (depthOfMembers rest)

end

end Value

end TaskQueue.Json
