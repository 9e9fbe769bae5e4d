import TaskQueue.Task

/-!
Which tasks a count is about.
-/

namespace TaskQueue

/-- A part of a queue. -/
inductive Scope
  | all
  | kind (kind : String)
  | group (group : String)
  deriving DecidableEq, Repr

/-- Whether a task is in a part of the queue. -/
def Scope.includes (scope : Scope) (task : Task) : Bool :=
  match scope with
  | .all => true
  | .kind k => task.kind = k
  | .group g => task.group = some g

end TaskQueue
