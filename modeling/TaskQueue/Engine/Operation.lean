import TaskQueue.Engine.Event
import TaskQueue.Store.Program

/-!
The operations of a queue, as actions over any store.

Each operation answers, and says what is to follow once its change is committed: whether those who
wait for a change are woken, and what the observers are told.
-/

namespace TaskQueue

/-- What follows a committed operation. -/
structure Aftermath where
  signal : Bool
  events : List Event

namespace Aftermath

/-- Nothing changed that anyone has to know. -/
def quiet : Aftermath :=
  ⟨false, []⟩

/-- Those who wait are woken. -/
def wake : Aftermath :=
  ⟨true, []⟩

end Aftermath

/-- An operation with an answer of type `α`. An isolated one runs in a section of its own. -/
structure Operation (α : Type) where
  isolated : Bool
  body : Action (α × Aftermath)

namespace Operation

/-- The operation with another form of its answer. -/
def map {α β : Type} (f : α → β) (op : Operation α) : Operation β :=
  ⟨op.isolated, do
    let (a, after) ← op.body
    return (f a, after)⟩

/-! ## Submitting -/

/-- Queue a batch of tasks, all or none. Observers see each as it was submitted, in state queued. -/
def submitAll (batch : List Task) : Operation (List TaskId) :=
  ⟨false, do
    if batch.isEmpty then return ([], .quiet)
    Action.request (.queue batch)
    return (batch.map Task.id,
      ⟨true, batch.map fun task => .submitted { task with state := .queued }⟩)⟩

/-- Queue one task. -/
def submit (task : Task) : Operation TaskId :=
  (submitAll [task]).map fun _ => task.id

/-! ## Selecting -/

/-- How many running tasks carry each tag that has a limit. The numbers are unbounded: a
selection that counts in 32 bits gives another result past 2^32 running tasks with one tag. -/
abbrev Load := Table String Nat

/-- The load with one more running task. -/
def Load.add (load : Load) (limits : List (String × Nat)) (task : Task) : Load :=
  (task.tags.toList.filter fun tag => (limits.lookup tag).isSome).foldl
    (fun load tag => load.insert tag ((load.get? tag).getD 0 + 1)) load

/-- Whether a tag of a task has reached its limit. -/
def Load.blocks (load : Load) (limits : List (String × Nat)) (task : Task) : Bool :=
  task.tags.toList.any fun tag =>
    match limits.lookup tag with
    | some limit => limit ≤ (load.get? tag).getD 0
    | none => false

/-- The first queued task that no limit blocks. Running tasks come first in the listing, so all of
them are counted before a queued one is looked at. There are at most `rows` rows. -/
def firstEligible (limits : List (String × Nat)) :
    Nat → Load → Cursor Task → Action (Option Task)
  | 0, _, _ => return none
  | rows + 1, load, cursor => do
    let (row, cursor) ← ExceptT.mk do
      let (row, rest) ← cursor.next (Listing.pending none).source
      return row.map (·, rest)
    match row with
    | none => return none
    | some task =>
      match task.state with
      | .running => firstEligible limits rows (load.add limits task) cursor
      | .queued =>
        if load.blocks limits task then firstEligible limits rows load cursor
        else return some task
      | _ => firstEligible limits rows load cursor

/-- The next task to hand out, if there is one. -/
def chooseNext (settings : CursorSettings) (rows : Nat) : Action (Option Task) := do
  let limits ← Action.request .rateLimits
  if limits.isEmpty then
    let listing : Listing := .inState .queued none
    ExceptT.mk do
      let (row, _) ← (Cursor.new settings).next listing.source
      return row
  else firstEligible limits rows .empty (Cursor.new settings)

/-- One attempt to take the next task and mark it running. -/
def acquire (settings : CursorSettings) (rows : Nat) (now : UInt64) : Operation (Option Task) :=
  ⟨true, do
    match ← chooseNext settings rows with
    | none => return (none, .quiet)
    | some task =>
      let task := { task with started := some now }
      Action.request (.setState task .running)
      let task := { task with state := .running }
      return (some task, ⟨false, [.acquired task]⟩)⟩

/-! ## Settling -/

/-- The time between two points, zero if the first one is later. -/
def elapsed (now started : UInt64) : UInt64 :=
  if started ≤ now then now - started else 0

/-- A task is done: it leaves the store, and its duration is recorded if it was running. -/
def acknowledge (now : UInt64) (id : TaskId) : Operation Bool :=
  ⟨true, do
    match ← Action.request (.get id) with
    | none => return (false, .quiet)
    | some task =>
      let _ ← Action.request (.remove id)
      match task.state, task.started with
      | .running, some started =>
        Action.request (.addDuration task.kind (elapsed now started))
      | _, _ => pure ()
      return (true, ⟨true, [.done task .completed]⟩)⟩

/-- The largest number of attempts that is counted. -/
def maxAttempts : UInt32 := 4294967295

/-- A running task goes back into the queue, or fails for good once it has had as many attempts as
the largest retry limit of its tags. -/
def retry (task : Task) : Action (Bool × Aftermath) := do
  let limit : Int ← Action.request (.maxRetries task.tags.toList)
  if 0 < limit ∧ limit ≤ task.attempts.toNat then
    Action.request (.setState task .error)
    return (true, ⟨true, [.done { task with state := .error } .failed]⟩)
  else if task.attempts = maxAttempts then throw .overflow
  else
    let task := { task with attempts := task.attempts + 1, started := none }
    Action.request (.setState task .queued)
    return (true, ⟨true, [.done { task with state := .queued } .requeued]⟩)

/-- A task is given up: it leaves the store, or with `requeue`, if it is running, is tried again. -/
def cancel (id : TaskId) (requeue : Bool) : Operation Bool :=
  ⟨true, do
    match ← Action.request (.get id) with
    | none => return (false, .quiet)
    | some task =>
      if !requeue then
        let _ ← Action.request (.remove id)
        return (true, ⟨true, [.done task .cancelled]⟩)
      else if task.state ≠ .running then return (false, .quiet)
      else retry task⟩

/-- Every running task goes back into the queue without a new attempt being counted. -/
def requeueAll (settings : CursorSettings) (rows : Nat) : Operation Nat :=
  ⟨true, do
    let listing : Listing := .inState .running none
    let parts ← ExceptT.mk ((Cursor.new settings).split listing.source)
    let tasks ← ExceptT.mk (Cursor.collectParts listing.source rows parts)
    tasks.forM fun task => Action.request (.setState { task with started := none } .queued)
    return (tasks.length, ⟨0 < tasks.length, []⟩)⟩

/-- Every task with a correlation key leaves the store. -/
def cancelByReference (reference : String) : Operation Nat :=
  ⟨false, do
    let n : Nat ← Action.request (.removeByReference reference)
    return (n, ⟨0 < n, []⟩)⟩

/-! ## Limits, durations and counts -/

/-- A new rate limit for a tag. A higher one may let a task through. -/
def setRateLimit (tag : String) (limit : Int) : Operation Unit :=
  ⟨false, do
    Action.request (.setRateLimit tag limit)
    return ((), .wake)⟩

/-- The number of queued and running tasks, which has to fit 64 bits. -/
def size : Operation Nat :=
  ⟨false, do
    let queued : Nat ← Action.request (.number .queued .all)
    let running : Nat ← Action.request (.number .running .all)
    if UInt64.size ≤ queued + running then throw .overflow
    return (queued + running, .quiet)⟩

end Operation

end TaskQueue
