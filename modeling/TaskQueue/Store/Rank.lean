import TaskQueue.Task

/-!
The index of a store: one rank for each stored task, in increasing order. Running tasks rank before
queued ones, queued before failed ones, and within each of the three the tasks are in dispatch
order.
-/

namespace TaskQueue

/-- The place of a task in the index. -/
structure Rank where
  bucket : Nat
  priority : Int
  created : Nat
  order : Nat
  id : TaskId
  deriving DecidableEq, Repr

/-- The part of the index that a state belongs to. -/
def TaskState.bucket : TaskState → Nat
  | .running => 0
  | .pending => 1
  | .queued => 1
  | .error => 2

namespace Rank

/-- The rank of a task. -/
def of (task : Task) : Rank :=
  ⟨task.state.bucket, task.priority.toInt, task.created.toNat, task.order, task.id⟩

/-- The order of ranks; of two priorities the higher one comes first. -/
def compare (a b : Rank) : Ordering :=
  (Ord.compare a.bucket b.bucket).then <|
  (Ord.compare b.priority a.priority).then <|
  (Ord.compare a.created b.created).then <|
  (Ord.compare a.order b.order).then <|
  Ord.compare a.id.toNat b.id.toNat

/-- A rank put into its place in an increasing list. -/
def place (rank : Rank) : List Rank → List Rank
  | [] => [rank]
  | r :: rest =>
    match compare rank r with
    | .lt => rank :: r :: rest
    | .eq => r :: rest
    | .gt => r :: place rank rest

end Rank

end TaskQueue
