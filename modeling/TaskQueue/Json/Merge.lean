import TaskQueue.Json.Value

/-!
Changing a value by another one: objects are merged member by member, a null takes the member away,
and everything else is replaced.
-/

namespace TaskQueue.Json

/-- The members without those of one key. -/
def eraseMember {α : Type} (key : String) (members : List (String × α)) : List (String × α) :=
  members.filter (·.1 ≠ key)

namespace Value

mutual

/-- A value changed by a patch. -/
def merge (base : Value) : Value → Value
  | .object changes =>
    match base with
    | .object members => .object (mergeMembers members changes)
    | _ => .object changes
  | patch => patch

/-- Members changed one after the other. -/
def mergeMembers (members : List (String × Value)) : List (String × Value) → List (String × Value)
  | [] => members
  | (key, .null) :: rest => mergeMembers (eraseMember key members) rest
  | (key, patch) :: rest =>
    mergeMembers (insertMember key (merge ((members.lookup key).getD .null) patch) members) rest

end

end Value

end TaskQueue.Json
