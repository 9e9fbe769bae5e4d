import TaskQueue.Database.Tables
import TaskQueue.Store.Program
import TaskQueue.Wire.Task

/-!
What a store says to its database to answer a request, and what it makes of the replies.

A dialogue is a tree: it is done with a result, or it makes a statement and goes on with the reply.
What is said here stands inside the transaction of the request; a request that only reads has none.
-/

namespace TaskQueue.Database

/-- A dialogue with a database. -/
inductive Dialogue (α : Type) : Type
  | done (result : α)
  | say (s : Statement) (next : Reply → Dialogue α)

namespace Dialogue

/-- A dialogue followed by another one. -/
def bind {α β : Type} : Dialogue α → (α → Dialogue β) → Dialogue β
  | .done a, f => f a
  | .say s next, f => .say s fun reply => (next reply).bind f

instance : Monad Dialogue where
  pure := .done
  bind := bind

end Dialogue

/-- A dialogue that ends at the first failure. -/
abbrev Talk := ExceptT Failure Dialogue

namespace Talk

/-- A statement whose reply is made sense of. -/
def say {α : Type} (read : Reply → Except Failure α) (s : Statement) : Talk α :=
  ExceptT.mk (.say s fun reply => .done (read reply))

/-- Something that was read from a reply. -/
def ofExcept {α : Type} (result : Except Failure α) : Talk α :=
  ExceptT.mk (.done result)

/-- The rows that a statement finds. -/
def select (s : Statement) : Talk (List Row) :=
  say Reply.rows? s

/-- The number of rows that a statement changes. -/
def change (text : String) (arguments : List Argument) : Talk Nat :=
  say Reply.affected? (.prepared text arguments)

/-- The only row that a statement has to find. -/
def single (s : Statement) : Talk Row := do
  match ← select s with
  | row :: _ => return row
  | [] => throw Row.unreadable

end Talk

/-- The task of a row. What the columns say of state and order counts, not what the content says. -/
def Row.task? (row : Row) : Except Failure Task := do
  let content ← row.content? 1
  match Task.ofDoc? Json.maxDepth content.doc with
  | none => throw .serialization
  | some task =>
    let code ← row.number? 2
    match TaskState.ofCode? code with
    | none => throw (.store ("unknown task state " ++ toString code))
    | some state =>
      let order ← row.number? 3
      return { task with state, order := (order % UInt64.size).toNat }

namespace Tables

variable (t : Tables)

/-! ## Reading -/

/-- The first task of some rows. -/
def firstTask (rows : List Row) : Talk (Option Task) :=
  match rows with
  | [] => return none
  | row :: _ => some <$> Talk.ofExcept row.task?

/-- A page of a listing. -/
def fetch (listing : Listing) (offset limit : Nat) : Talk (List Task) := do
  let rows ← Talk.select (t.page listing offset limit)
  Talk.ofExcept (rows.mapM Row.task?)

/-- A count as a number of 64 bits. -/
def counted (c : Condition) : Talk Nat := do
  let row ← Talk.single (t.count c)
  let n ← Talk.ofExcept (row.number? 0)
  return (n % UInt64.size).toNat

/-- A limit that was found, -1 if it is no limit. -/
def limitOf : Option Int → Int
  | some limit => if 0 < limit then limit else -1
  | none => -1

/-- The limits in a table. -/
def limits (table : String) : Talk (List (String × Nat)) := do
  let rows ← Talk.select (.prepared ("SELECT tag, \"limit\" FROM " ++ table) [])
  let found ← Talk.ofExcept (rows.mapM fun row => do return (← row.text? 0, ← row.number? 1))
  let kept := found.filter (0 < ·.2)
  return (kept.foldl (fun (table : Table String Nat) (tag, limit) =>
    table.insert tag limit.toNat) .empty).entries

/-! ## Writing -/

/-- The tags of a task, one by one. -/
def insertTags (task : Task) : Talk Unit :=
  task.tags.toList.forM fun tag => do
    let _ ← Talk.change ("INSERT INTO " ++ t.tags ++ " (id, tag) VALUES ($1, $2)")
      [.id task.id, .text tag]

/-- The content of a task. -/
def contentOf (task : Task) : Argument :=
  .content (.ofMembers (Task.fieldNames.zip task.fields))

/-- A new task. -/
def insert (task : Task) : Talk Unit := do
  let task := { task with state := .queued }
  let _ ← Talk.change
    ("INSERT INTO " ++ t.tasks ++ " (id, content, state, priority, task_type, task_group, " ++
      "reference_id, created) VALUES ($1, $2, $3, $4, $5, $6, $7, $8)")
    [.id task.id, contentOf task, .number task.state.code, .number task.priority.toInt,
      .text task.kind, .ofText? task.group, .ofText? task.reference, .ofWord task.created.toNat]
  t.insertTags task

/-- A new record of a stored task. -/
def update (task : Task) : Talk Unit := do
  let affected ← Talk.change
    ("UPDATE " ++ t.tasks ++ " SET content = $2, state = $3, priority = $4, task_type = $5, " ++
      "task_group = $6, reference_id = $7 WHERE id = $1")
    [.id task.id, contentOf task, .number task.state.code, .number task.priority.toInt,
      .text task.kind, .ofText? task.group, .ofText? task.reference]
  if affected = 0 then throw (.taskNotFound task.id)
  let _ ← Talk.change ("DELETE FROM " ++ t.tags ++ " WHERE id = $1") [.id task.id]
  t.insertTags task

/-- A batch of tasks of which none may be stored. -/
def insertAll (batch : List Task) : Talk Unit := do
  let existing ← Talk.select
    (.prepared ("SELECT id FROM " ++ t.tasks ++ " WHERE id = ANY($1) LIMIT 1")
      [.ids (batch.map Task.id)])
  match existing with
  | row :: _ => throw (.duplicateTask (← Talk.ofExcept (row.id? 0)))
  | [] => batch.forM t.insert

/-- The largest limit that a column holds. -/
def limitCeiling : Int := Int32.maxValue.toInt

/-- A limit for a tag in place of the one before; none if it is zero or less. -/
def replaceLimit (table tag : String) (limit : Int) : Talk Unit := do
  let _ ← Talk.change ("DELETE FROM " ++ table ++ " WHERE tag = $1") [.text tag]
  if 0 < limit then
    let _ ← Talk.change ("INSERT INTO " ++ table ++ " (tag, \"limit\") VALUES ($1, $2)")
      [.text tag, .number (min limit limitCeiling)]

/-- One more duration of a kind. -/
def insertDuration (kind : String) (ms : UInt64) : Talk Unit := do
  let _ ← Talk.change ("INSERT INTO " ++ t.estimates ++ " (task_type, duration) VALUES ($1, $2)")
    [.text kind, .ofWord ms.toNat]

/-! ## Requests -/

/-- The answer to a request that needs no database. -/
def shortcut? : (q : Request) → Option (Except Failure q.Reply)
  | .maxRetries [] => some (.ok (-1 : Int))
  | .queue batch =>
    let ids := batch.map Task.id
    (ids.zipIdx.find? fun (id, i) => decide (id ∈ ids.take i)).map fun (id, _) =>
      .error (.duplicateTask id)
  | _ => none

/-- What is said to answer a request. -/
def answer : (q : Request) → Talk q.Reply
  | .get id => do firstTask (← Talk.select (t.byId id))
  | .firstWithReference reference => do
    firstTask (← Talk.select (t.byReference reference dispatchOrder))
  | .lastWithReference reference => do
    firstTask (← Talk.select (t.byReference reference reverseOrder))
  | .count listing => t.counted (t.condition listing)
  | .fetch listing offset limit => t.fetch listing offset limit
  | .fetchIds listing offset limit => do
    let found ← t.fetch listing offset limit
    return found.map Task.id
  | .number state scope => t.counted (inScope state scope)
  | .tags => do
    let rows ← Talk.select (.prepared ("SELECT DISTINCT tag FROM " ++ t.tags) [])
    let found ← Talk.ofExcept (rows.mapM fun row => row.text? 0)
    return (StringSet.ofList found).toList
  | .rateLimit tag => do
    let rows ← Talk.select
      (.prepared ("SELECT \"limit\" FROM " ++ t.rateLimits ++ " WHERE tag = $1") [.text tag])
    match rows with
    | [] => return limitOf none
    | row :: _ => return limitOf (some (← Talk.ofExcept (row.number? 0)))
  | .rateLimits => limits t.rateLimits
  | .maxRetries tags => do
    let row ← Talk.single
      (.prepared ("SELECT MAX(\"limit\") FROM " ++ t.retryLimits ++ " WHERE tag = ANY($1)")
        [.texts tags])
    return limitOf (← Talk.ofExcept (row.numberOrNull? 0))
  | .retryLimits => limits t.retryLimits
  | .estimate kind => do
    let row ← Talk.single
      (.prepared ("SELECT AVG(duration)::BIGINT FROM " ++ t.estimates ++ " WHERE task_type = $1")
        [.text kind])
    let average ← Talk.ofExcept (row.numberOrNull? 0)
    return (average.getD 0).toNat
  | .remove id => do
    let affected ← Talk.change ("DELETE FROM " ++ t.tasks ++ " WHERE id = $1") [.id id]
    return decide (0 < affected)
  | .removeByReference reference =>
    Talk.change ("DELETE FROM " ++ t.tasks ++ " WHERE reference_id = $1") [.text reference]
  | .queue batch => t.insertAll batch
  | .setState task state => t.update { task with state }
  | .setRateLimit tag limit => replaceLimit t.rateLimits tag limit
  | .setMaxRetries tag limit => replaceLimit t.retryLimits tag limit
  | .addDuration kind ms => t.insertDuration kind ms
  | .setEstimate kind ms => do
    let _ ← Talk.change ("DELETE FROM " ++ t.estimates ++ " WHERE task_type = $1") [.text kind]
    t.insertDuration kind ms

/-! ## Locks -/

/-- How a section or a write outside one locks the table of tasks. -/
inductive LockMode
  /-- For a section: no one else has a lock. -/
  | exclusive
  /-- For a write: no one else has an exclusive lock. -/
  | rowExclusive

/-- The name of a lock. -/
def LockMode.name : LockMode → String
  | .exclusive => "EXCLUSIVE"
  | .rowExclusive => "ROW EXCLUSIVE"

/-- The code of a refusal to wait for a lock any longer. -/
def lockNotAvailable : String := "55P03"

/-- Wait for a lock, not longer than some time. -/
def lock (mode : LockMode) (timeout : UInt64) : Talk Unit := do
  let _ ← Talk.say Reply.affected?
    (.prepared ("SET LOCAL lock_timeout = '" ++ timeout.toNat.repr ++ "ms'") [])
  let granted (reply : Reply) : Except Failure Unit :=
    match reply with
    | .refused code _ =>
      if code = lockNotAvailable then .error (.lockTimeout timeout)
      else reply.affected?.map fun _ => ()
    | _ => reply.affected?.map fun _ => ()
  Talk.say granted (.prepared ("LOCK TABLE " ++ t.tasks ++ " IN " ++ mode.name ++ " MODE") [])

end Tables

end TaskQueue.Database
