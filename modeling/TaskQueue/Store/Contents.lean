import TaskQueue.Failure
import TaskQueue.Store.Rank
import TaskQueue.Store.Scope
import TaskQueue.Table

/-!
What a store holds: tasks with their index, the number for the next one, limits for tags and the
durations of kinds of tasks. Every change checks first, so one that fails leaves everything as it
was.
-/

namespace TaskQueue

/-- How long tasks of a kind took: a total and the number of tasks in it. -/
structure Estimate where
  total : Nat
  samples : Nat
  deriving DecidableEq, Repr

namespace Estimate

/-- The largest total that is kept. -/
def ceiling : Nat := UInt64.size - 1

/-- One more duration. -/
def add (estimate : Estimate) (ms : UInt64) : Estimate :=
  ⟨min (estimate.total + ms.toNat) ceiling, estimate.samples + 1⟩

/-- The average, rounded down. -/
def average (estimate : Estimate) : Nat :=
  if estimate.samples = 0 then 0 else estimate.total / estimate.samples

end Estimate

/-- A listing of stored tasks that a cursor pages through. -/
inductive Listing
  /-- The tasks in one state, of one kind if a kind is given. -/
  | inState (state : TaskState) (kind : Option String)
  /-- Running tasks and then queued ones, with one tag if a tag is given. -/
  | pending (tag : Option String)
  deriving DecidableEq, Repr

namespace Listing

/-- Whether a part of the index belongs to a listing. -/
def hasBucket (listing : Listing) (bucket : Nat) : Bool :=
  match listing with
  | .inState state _ => bucket = state.bucket
  | .pending _ => bucket ≤ 1

/-- Whether a task of these parts belongs to a listing. -/
def includes (listing : Listing) (task : Task) : Bool :=
  match listing with
  | .inState _ kind => kind.all (task.kind = ·)
  | .pending tag => tag.all task.hasTag

end Listing

/-- What a store holds. -/
structure Contents where
  tasks : Table TaskId Task
  index : List Rank
  nextOrder : Nat
  rateLimits : Table String Nat
  retryLimits : Table String Nat
  estimates : Table String Estimate

namespace Contents

/-- An empty store. Tasks are numbered from one. -/
def empty : Contents :=
  ⟨.empty, [], 1, .empty, .empty, .empty⟩

instance : Inhabited Contents := ⟨empty⟩

/-! ## Tasks and their index -/

/-- The contents without a task. -/
def take (c : Contents) (id : TaskId) : Contents :=
  match c.tasks.get? id with
  | none => c
  | some task =>
    { c with tasks := c.tasks.erase id, index := c.index.filter (· ≠ Rank.of task) }

/-- The contents with a task, which replaces the one of its identifier. -/
def put (c : Contents) (task : Task) : Contents :=
  let c := c.take task.id
  { c with tasks := c.tasks.insert task.id task, index := (Rank.of task).place c.index }

/-- The tasks of a listing in their order. -/
def list (c : Contents) (listing : Listing) : List Task :=
  ((c.index.filter fun rank => listing.hasBucket rank.bucket).filterMap
    fun rank => c.tasks.get? rank.id).filter listing.includes

/-- The number of tasks in one state in a part of the queue. -/
def count (c : Contents) (state : TaskState) (scope : Scope) : Nat :=
  (c.tasks.values.filter fun task => task.state = state && scope.includes task).length

/-- The tasks with a correlation key. -/
def withReference (c : Contents) (reference : String) : List Task :=
  c.tasks.values.filter (·.reference = some reference)

/-- The first of some tasks in an order. -/
def first? (le : Task → Task → Bool) : List Task → Option Task
  | [] => none
  | task :: rest =>
    match first? le rest with
    | none => some task
    | some best => if le task best then some task else some best

/-- The first task with a correlation key in dispatch order. -/
def firstWithReference (c : Contents) (reference : String) : Option Task :=
  first? Task.dispatchLE (c.withReference reference)

/-- The last task with a correlation key in dispatch order. -/
def lastWithReference (c : Contents) (reference : String) : Option Task :=
  first? (fun a b => Task.dispatchLE b a) (c.withReference reference)

/-- All tags of stored tasks. -/
def tags (c : Contents) : StringSet :=
  .ofList (c.tasks.values.flatMap fun task => task.tags.toList)

/-! ## Changes to tasks -/

/-- Whether a task was there, and the contents without it. -/
def remove (c : Contents) (id : TaskId) : Bool × Contents :=
  (c.tasks.contains id, c.take id)

/-- How many tasks have a correlation key, and the contents without them. -/
def removeByReference (c : Contents) (reference : String) : Nat × Contents :=
  let ids := (c.withReference reference).map Task.id
  (ids.length, ids.foldl take c)

/-- The first task of a batch that is stored already or stands twice in the batch. -/
def duplicate? (c : Contents) (seen : List TaskId) : List Task → Option TaskId
  | [] => none
  | task :: rest =>
    if c.tasks.contains task.id || decide (task.id ∈ seen) then some task.id
    else duplicate? c (task.id :: seen) rest

/-- The contents with one new task at the end of the numbering. -/
def append (c : Contents) (task : Task) : Contents :=
  { c.put { task with order := c.nextOrder, state := .queued } with nextOrder := c.nextOrder + 1 }

/-- The contents with a batch of new tasks, or none of them. -/
def queue (c : Contents) (batch : List Task) : Except Failure Contents :=
  match c.duplicate? [] batch with
  | some id => .error (.duplicateTask id)
  | none => .ok (batch.foldl append c)

/-- The contents with a new record of a stored task in a given state. The task keeps its number. -/
def setState (c : Contents) (task : Task) (state : TaskState) : Except Failure Contents :=
  match c.tasks.get? task.id with
  | none => .error (.taskNotFound task.id)
  | some stored => .ok (c.put { task with state, order := stored.order })

/-! ## Limits and durations -/

/-- The largest limit that is kept. -/
def limitCeiling : Nat := UInt32.size - 1

/-- Limits with a new one for a tag; a limit of zero or less takes the tag's limit away. -/
def setLimit (limits : Table String Nat) (tag : String) (limit : Int) : Table String Nat :=
  if limit ≤ 0 then limits.erase tag else limits.insert tag (min limit.toNat limitCeiling)

/-- A limit as a number, -1 for none. -/
def limitOf : Option Nat → Int
  | none => -1
  | some limit => limit

/-- The largest limit of some tags. -/
def largestLimit (limits : Table String Nat) (tags : List String) : Option Nat :=
  (tags.filterMap limits.get?).max?

/-- The average duration of a kind, zero if there is none. -/
def estimate (c : Contents) (kind : String) : Nat :=
  match c.estimates.get? kind with
  | none => 0
  | some estimate => estimate.average

/-- The contents with one more duration of a kind. -/
def addDuration (c : Contents) (kind : String) (ms : UInt64) : Contents :=
  let before := (c.estimates.get? kind).getD ⟨0, 0⟩
  { c with estimates := c.estimates.insert kind (before.add ms) }

/-- The contents with a given duration of a kind. -/
def setEstimate (c : Contents) (kind : String) (ms : UInt64) : Contents :=
  { c with estimates := c.estimates.insert kind ⟨ms.toNat, 1⟩ }

end Contents

end TaskQueue
