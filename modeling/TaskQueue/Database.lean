import TaskQueue.Database.Link
import TaskQueue.Store

/-!
A store in a relational database.

It keeps a pool of connections. One of them hears of the changes that other stores on the same
tables make known. A section is a transaction, on a connection of its own, that locks the table of
tasks: while it is open no other section opens and no one else writes, in any process. Everything
else takes a connection for as long as it needs it; who finds none waits, and gives up after a
while.
-/

namespace TaskQueue

/-- A store in a database. `notices` are the changes that are still to be made known, each with the
time at which it is given up. -/
structure Database where
  settings : StoreSettings
  tables : Database.Tables
  poolSize : Nat
  sections : List (SectionId × Database.Link)
  nextSection : SectionId
  changes : Channel
  closed : Bool
  clock : Nat
  notices : List Nat

namespace Database

/-- The failure of who cannot talk to the database. -/
def unreachable : Failure := .database none

/-- How long anyone waits for a connection. -/
def patience : Nat := 30000

/-- The store some time later. -/
def later (ms : Nat) (d : Database) : Database :=
  { d with clock := d.clock + ms, notices := d.notices.filter (d.clock + ms < ·) }

/-- The number of connections in use. -/
def busy (d : Database) : Nat :=
  (if d.closed then 0 else 1) + d.sections.length

/-- Whether a connection is free. -/
def hasSpare (d : Database) : Bool :=
  !d.closed && d.busy < d.poolSize

/-- A connection of the pool. Who finds none waits in vain. -/
def take (d : Database) : Except Failure Link × Database :=
  if d.closed then (.error unreachable, d)
  else if d.hasSpare then (.ok .new, d)
  else (.error unreachable, d.later patience)

/-- The store in which a section has another connection. -/
def withLink (d : Database) (id : SectionId) (l : Link) : Database :=
  { d with sections := d.sections.map fun s => if s.1 = id then (id, l) else s }

/-- The store without a section. -/
def without (d : Database) (id : SectionId) : Database :=
  { d with sections := d.sections.filter (·.1 ≠ id) }

variable {m : Type → Type} [Monad m] (ask : Statement → m Reply) {α : Type}

/-! ## Connections -/

/-- Something done on a connection of the pool, which is put away afterwards. -/
def pooled (act : Link → m (Except Failure α × Link)) (d : Database) :
    m (Except Failure α × Database) :=
  match d.take with
  | (.error failure, d) => return (.error failure, d)
  | (.ok l, d) => do
    let (result, l) ← act l
    let _ ← l.settle ask
    return (result, d)

/-- Something done on the connection of a section, unless the section has ended. -/
def within (id : SectionId) (act : Link → m (Except Failure α × Link)) (d : Database) :
    m (Except Failure α × Database) :=
  match d.sections.lookup id with
  | none => return (.error .closed, d)
  | some l => do
    let (result, l) ← act l
    return (result, d.withLink id l)

/-- A statement outside all transactions. -/
def execute (s : Statement) (d : Database) : m (Except Failure Unit × Database) :=
  d.pooled ask fun l => l.run ask (Talk.say (fun reply => reply.affected?.map fun _ => ()) s).run

/-- The tables are made if they are missing. -/
def createTables (d : Database) : m (Except Failure Unit × Database) :=
  d.execute ask d.tables.create

/-- All tables are emptied. -/
def reset (d : Database) : m (Except Failure Unit × Database) :=
  d.execute ask d.tables.empty

/-- All tables are dropped. -/
def dropTables (d : Database) : m (Except Failure Unit × Database) :=
  d.execute ask d.tables.drop

/-- A store on the tables that some settings name. `refusal` is what keeps everyone from connecting.
-/
def connect (settings : StoreSettings) (refusal : Option Failure) : m (Except Failure Database) :=
  match settings.backend with
  | .inMemory => return .error (.configuration "store backend is not postgres")
  | .postgres database =>
    match Tables.of? database.tableName, refusal with
    | .error failure, _ => return .error failure
    | .ok tables, refusal =>
      if database.poolSize = 0 then return .error .noConnections
      else
        match refusal with
        | some failure => return .error failure
        | none => do
          let (reply, l) ← Link.new.say ask tables.listen
          match reply.failure? with
          | some failure =>
            let _ ← l.say ask Tables.unlisten
            return .error failure
          | none =>
            return .ok ⟨settings, tables, database.poolSize.toNat, [], 0, .new, false, 0, []⟩

/-- A store whose tables are there. -/
def establish (settings : StoreSettings) (refusal : Option Failure) :
    m (Except Failure Database) := do
  match ← connect ask settings refusal with
  | .error failure => return .error failure
  | .ok d =>
    let (result, d) ← d.createTables ask
    return result.map fun _ => d

/-! ## Requests -/

/-- The answer to a request from a view. -/
def answer (view : View) (q : Request) (d : Database) : m (Except Failure q.Reply × Database) :=
  match Tables.shortcut? q, view with
  | some result, _ => return (result, d)
  | none, none => d.pooled ask (Link.answer ask d.tables (some d.settings.lockTimeout) q)
  | none, some id => d.within id (Link.answer ask d.tables none q)

/-- A program run from a view. -/
def run (view : View) : Program α → Database → m (α × Database)
  | .done result, d => return (result, d)
  | .ask q next, d => do
    let (reply, d) ← d.answer ask view q
    run view (next reply) d

/-! ## Sections -/

/-- A new section, which waits for its lock. -/
def begin (d : Database) : m (Except Failure SectionId × Database) :=
  match d.take with
  | (.error failure, d) => return (.error failure, d)
  | (.ok l, d) => do
    match ← l.begin ask with
    | (.error failure, l) =>
      let _ ← l.settle ask
      return (.error failure, d)
    | (.ok _, l) =>
      match ← l.run ask (d.tables.lock .exclusive d.settings.lockTimeout).run with
      | (.error failure, l) =>
        let _ ← l.abandon.settle ask
        return (.error failure, d)
      | (.ok _, l) =>
        return (.ok d.nextSection,
          { d with
            sections := d.sections ++ [(d.nextSection, l)]
            nextSection := d.nextSection + 1 })

/-- The end of a section, whose connection is put away. -/
def leave (id : SectionId) (finish : Link → m (Except Failure Unit × Link)) (d : Database) :
    m (Except Failure Unit × Database) := do
  match d.sections.lookup id with
  | none => return (.error .closed, d)
  | some l =>
    let (result, l) ← finish l
    let _ ← l.settle ask
    return (result, d.without id)

/-- A section commits. -/
def commit (id : SectionId) (d : Database) : m (Except Failure Unit × Database) :=
  d.leave ask id (Link.commit ask)

/-- A section is taken back. -/
def rollback (id : SectionId) (d : Database) : m (Except Failure Unit × Database) :=
  d.leave ask id (Link.rollback ask)

/-- A section is given up. -/
def abandon (id : SectionId) (d : Database) : m Database := do
  let (_, d) ← d.leave ask id fun l => return (.ok (), l.abandon)
  return d

/-- A program run in a section of its own, which commits if the result is good: the result, and what
became of the commit. -/
def enclose (good : α → Bool) (p : Program α) (d : Database) :
    m (Except Failure (α × Except Failure Unit) × Database) := do
  match ← d.begin ask with
  | (.error failure, d) => return (.error failure, d)
  | (.ok id, d) =>
    let (result, d) ← d.run ask (some id) p
    if good result then
      let (committed, d) ← d.commit ask id
      return (.ok (result, committed), d)
    else
      let (_, d) ← d.rollback ask id
      return (.ok (result, .ok ()), d)

/-- An action run in a section of its own, which commits if the action succeeds. -/
def isolated (action : Action α) (d : Database) : m (Except Failure α × Database) := do
  match ← d.enclose ask (fun r : Except Failure α => r.isOk) action.run with
  | (.error failure, d) => return (.error failure, d)
  | (.ok (result, .ok _), d) => return (result, d)
  | (.ok (_, .error failure), d) => return (.error failure, d)

/-! ## Changes -/

/-- All that is still to be made known is made known, if a connection is free. -/
def announce (d : Database) : m Database :=
  if d.hasSpare then do
    d.notices.forM fun _ => do
      let _ ← Link.new.say ask d.tables.notify
    return { d with notices := [] }
  else return d

/-- A change becomes known here, and to the other stores. -/
def signal (d : Database) : m Database :=
  { d with
    changes := d.changes.publish
    notices := if d.closed then [] else d.notices ++ [d.clock + patience] }.announce ask

/-- The database made a change known. -/
def hear (d : Database) : Database :=
  if d.closed then d else { d with changes := d.changes.publish }

/-- The database broke all connections. A change may have been missed, so one is assumed. -/
def reconnect (d : Database) : m Database := do
  let d := { d with sections := d.sections.map fun (id, l) => (id, { l with lost := true }) }
  if d.closed then return d
  else
    let _ ← Link.new.say ask d.tables.listenAgain
    return d.hear

/-- The store after it was closed. -/
def close (d : Database) : m Database :=
  if d.closed then return d
  else do
    let _ ← Link.new.say ask Tables.unlisten
    return { d with changes := d.changes.close, closed := true, notices := [] }

end Database

end TaskQueue
