import TaskQueue.Identifier
import TaskQueue.Json.Value
import TaskQueue.Text.Sorted

/-!
Tasks and the order in which they are handed out.
-/

namespace TaskQueue

/-- The state of a task. A task is `pending` only until a store takes it. -/
inductive TaskState
  | pending
  | queued
  | running
  | error
  deriving DecidableEq, Repr, Inhabited

namespace TaskState

/-- All states. -/
def all : List TaskState :=
  [.pending, .queued, .running, .error]

/-- The number of a state in a relational table. -/
def code : TaskState → Nat
  | .pending => 0
  | .queued => 1
  | .running => 2
  | .error => 3

/-- The state of a number. -/
def ofCode? (code : Int) : Option TaskState :=
  all.find? (fun s => (s.code : Int) = code)

/-- The name of a state on the wire. -/
def name : TaskState → String
  | .pending => "Pending"
  | .queued => "Queued"
  | .running => "Running"
  | .error => "Error"

/-- The state of a name. -/
def ofName? (name : String) : Option TaskState :=
  all.find? (·.name = name)

end TaskState

/-- A unit of work. The payload belongs to the application and is never looked into; `order` is
given by the store that takes the task. -/
structure Task where
  id : TaskId
  kind : String
  group : Option String
  tags : StringSet
  priority : Int32
  reference : Option String
  created : UInt64
  order : Nat
  attempts : UInt32
  started : Option UInt64
  state : TaskState
  payload : Json.Value
  deriving Inhabited

namespace Task

/-- A new task that no store has seen. -/
def new (id : TaskId) (created : UInt64) (kind : String) (payload : Json.Value) : Task :=
  { id, kind, group := none, tags := .empty, priority := 0, reference := none, created, order := 0,
    attempts := 0, started := none, state := .pending, payload }

/-- The task with another identifier. -/
def withId (id : TaskId) (task : Task) : Task :=
  { task with id }

/-- The task with another priority. -/
def withPriority (priority : Int32) (task : Task) : Task :=
  { task with priority }

/-- The task with one more tag. -/
def withTag (tag : String) (task : Task) : Task :=
  { task with tags := task.tags.insert tag }

/-- The task with some more tags. -/
def withTags (tags : List String) (task : Task) : Task :=
  { task with tags := tags.foldl (fun set tag => set.insert tag) task.tags }

/-- The task in a group. -/
def withGroup (group : String) (task : Task) : Task :=
  { task with group := some group }

/-- The task with a correlation key. -/
def withReference (reference : String) (task : Task) : Task :=
  { task with reference := some reference }

/-- Whether a task carries a tag. -/
def hasTag (task : Task) (tag : String) : Bool :=
  task.tags.contains tag

/-- Dispatch order: higher priority first, then the older task, then the one that was stored
earlier. -/
def dispatchOrder (a b : Task) : Ordering :=
  (compare b.priority.toInt a.priority.toInt).then
    ((compare a.created.toNat b.created.toNat).then (compare a.order b.order))

/-- Whether a task does not come after another one. -/
def dispatchLE (a b : Task) : Bool :=
  (dispatchOrder a b).isLE

end Task

end TaskQueue
