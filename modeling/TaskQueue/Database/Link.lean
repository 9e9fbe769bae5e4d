import TaskQueue.Database.Dialogue

/-!
Connections to a database, and the transactions on them.

Transactions nest: the outermost one is a transaction of the database, those within it are
savepoints. A transaction that is given up is taken back before the next statement goes out, or when
the connection is put away. A statement that is refused breaks the transaction around it: until that
is taken back, no other transaction begins within it.
-/

namespace TaskQueue.Database

/-- A connection. `depth` is the number of open transactions, and `owed` is what takes back those
that were given up. `broken` tells whether a statement was refused in the innermost one. -/
structure Link where
  depth : Nat
  owed : List Statement
  broken : Bool
  lost : Bool

namespace Link

/-- A new connection. -/
def new : Link :=
  ⟨0, [], false, false⟩

/-- The name of the savepoint of a nested transaction. -/
def savepoint (depth : Nat) : String :=
  "_sqlx_savepoint_" ++ depth.repr

/-- What begins a transaction within `depth` others. -/
def beginning : Nat → Statement
  | 0 => .plain "BEGIN"
  | depth => .plain ("SAVEPOINT " ++ savepoint depth)

/-- What commits the innermost of some transactions. -/
def committing (depth : Nat) : Statement :=
  if depth = 1 then .plain "COMMIT" else .plain ("RELEASE SAVEPOINT " ++ savepoint (depth - 1))

/-- What takes back the innermost of some transactions. -/
def takingBack (depth : Nat) : Statement :=
  if depth = 1 then .plain "ROLLBACK"
  else .plain ("ROLLBACK TO SAVEPOINT " ++ savepoint (depth - 1))

/-- The connection after its innermost transaction was given up. -/
def abandon (l : Link) : Link :=
  if l.depth = 0 then l
  else { l with depth := l.depth - 1, owed := l.owed ++ [takingBack l.depth] }

variable {m : Type → Type} [Monad m] (ask : Statement → m Reply) {α : Type}

/-- The reply to a statement, if the connection still holds. -/
def send (s : Statement) (l : Link) : m (Reply × Link) :=
  if l.lost then return (.lost, l)
  else do
    match ← ask s with
    | .lost => return (.lost, { l with lost := true })
    | .refused code message =>
      return (.refused code message, { l with broken := l.broken || 0 < l.depth })
    | reply => return (reply, l)

/-- The first bad reply to some statements. All of them go out. -/
def sendAll : List Statement → Link → m (Option Reply × Link)
  | [], l => return (none, l)
  | s :: rest, l => do
    let (reply, l) ← send ask s l
    let (bad, l) ← sendAll rest l
    return (if reply.failure?.isSome then some reply else bad, l)

/-- The connection without debts, and the first bad reply to them. -/
def settle (l : Link) : m (Option Reply × Link) := do
  let (bad, l') ← sendAll ask l.owed { l with owed := [] }
  return (bad, { l' with broken := if l.owed.isEmpty then l'.broken else bad.isSome && l'.broken })

/-- The reply to a statement. It does not go out if what is owed is refused. -/
def say (s : Statement) (l : Link) : m (Reply × Link) := do
  match ← settle ask l with
  | (some bad, l) => return (bad, l)
  | (none, l) => send ask s l

/-- The result of a dialogue. -/
def run : Dialogue α → Link → m (α × Link)
  | .done result, l => return (result, l)
  | .say s next, l => do
    let (reply, l) ← say ask s l
    run (next reply) l

/-! ## Transactions -/

/-- The connection with one more transaction. What is outside all transactions is never broken. -/
def begin (l : Link) : m (Except Failure Unit × Link) := do
  let (reply, l) ← say ask (beginning l.depth) l
  match reply.failure? with
  | some failure => return (.error failure, l.abandon)
  | none =>
    if l.broken && 0 < l.depth then return (.error (.database none), l.abandon)
    else return (.ok (), { l with depth := l.depth + 1, broken := false })

/-- The connection without its innermost transaction, unless its end is refused. -/
def finish (ending : Nat → Statement) (l : Link) : m (Except Failure Unit × Link) :=
  if l.depth = 0 then return (.ok (), l)
  else do
    let (reply, l) ← say ask (ending l.depth) l
    match reply.failure? with
    | some failure => return (.error failure, l)
    | none => return (.ok (), { l with depth := l.depth - 1 })

/-- The innermost transaction is committed, or given up if that is refused. -/
def commit (l : Link) : m (Except Failure Unit × Link) := do
  let (result, l) ← finish ask committing l
  return (result, if result.isOk then l else l.abandon)

/-- The innermost transaction is taken back. -/
def rollback (l : Link) : m (Except Failure Unit × Link) := do
  let (result, l) ← finish ask takingBack l
  return (result, if result.isOk then l else l.abandon)

/-- The result of a dialogue in a transaction of its own, which is given up if something fails. -/
def transact (talk : Talk α) (l : Link) : m (Except Failure α × Link) := do
  match ← begin ask l with
  | (.error failure, l) => return (.error failure, l)
  | (.ok _, l) =>
    match ← run ask talk.run l with
    | (.error failure, l) => return (.error failure, l.abandon)
    | (.ok a, l) =>
      let (result, l) ← commit ask l
      return (result.map fun _ => a, l)

/-- The answer to a request. A write outside sections first waits for its lock, not longer than
`patience`. -/
def answer (t : Tables) (patience : Option UInt64) (q : Request) (l : Link) :
    m (Except Failure q.Reply × Link) :=
  if q.isWrite then
    transact ask (do
      match patience with
      | some timeout => t.lock .rowExclusive timeout
      | none => pure ()
      t.answer q) l
  else run ask (t.answer q).run l

end Link

end TaskQueue.Database
