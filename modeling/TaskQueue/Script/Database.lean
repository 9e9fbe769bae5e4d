import TaskQueue.Database.Operation
import TaskQueue.Script.Engine
import TaskQueue.Wire.Settings

/-!
Scripts of one store in a database, whose server is played.

The server has replies at hand. One that waits for a text goes to the first statement that contains
it; the others go, in their order, to the statements that do some work. A statement for which there
is none gets the reply of an empty database in which every change hits one row.
-/

namespace TaskQueue

/-- What a reply at hand says. -/
inductive ServerReply.Content
  | rows (rows : List Database.Row)
  | affected (n : Nat)
  | refuse (code message : String)
  /-- The connection breaks. -/
  | hangUp

/-- A reply at hand, with the text that it waits for. -/
structure ServerReply where
  trigger : Option String
  content : ServerReply.Content

/-- A database server: its replies at hand, and all that it was told. -/
structure DatabaseServer where
  ready : List ServerReply
  told : List Database.Statement

namespace DatabaseServer

/-- Whether a text stands in another one. -/
def occurs (part whole : String) : Bool :=
  part.isEmpty || 1 < (whole.splitOn part).length

/-- Whether a statement only keeps order: transactions, locks, and listening. -/
def isControl (text : String) : Bool :=
  ["BEGIN", "COMMIT", "ROLLBACK", "SAVEPOINT", "RELEASE", "SET LOCAL", "LOCK TABLE", "LISTEN",
    "UNLISTEN"].any fun word => text.startsWith word

/-- Whether a reply goes to a statement. -/
def fits (s : Database.Statement) (r : ServerReply) : Bool :=
  match r.trigger with
  | some part => occurs part s.text
  | none => !isControl s.text

/-- The rows that an empty database finds. -/
def emptyRows (text : String) : List Database.Row :=
  if occurs "SELECT COUNT(" text then [[.number 0]]
  else if occurs "SELECT MAX(" text || occurs "SELECT AVG(" text then [[.null]]
  else []

/-- What a column of an answer holds. -/
inductive Column
  | id
  | content
  | number
  | text

/-- The columns that a statement asks for. -/
def columns (text : String) : List Column :=
  if text.startsWith "SELECT id, " then [.id, .content, .number, .number]
  else if text.startsWith "SELECT id " then [.id]
  else if text.startsWith "SELECT tag, " then [.text, .number]
  else if text.startsWith "SELECT DISTINCT tag " then [.text]
  else [.number]

/-- Whether a cell can stand in a column. -/
def Column.takes : Column → Database.Cell → Bool
  | _, .null => true
  | .id, .number n => 0 ≤ n
  | .id, .text s => (TaskId.ofText? s).isSome
  | .content, .content _ => true
  | .number, .number _ => true
  | .text, .text _ => true
  | _, _ => false

/-- Some rows as a reply. The connection breaks over a cell that cannot stand in its column. -/
def send (s : Database.Statement) (rows : List Database.Row) : Database.Reply :=
  let sound (row : Database.Row) : Bool :=
    ((columns s.text).zip row).all fun (c, cell) => c.takes cell
  if rows.all sound then .rows rows else .lost

/-- The reply to a statement, given what the reply at hand says. -/
def reply (s : Database.Statement) : Option ServerReply.Content → Database.Reply
  | some (.refuse code message) => .refused code message
  | some .hangUp => .lost
  | some (.rows rows) => if s.text.startsWith "SELECT" then send s rows else .done 1
  | some (.affected n) =>
    if s.text.startsWith "SELECT" then .rows (emptyRows s.text) else .done n
  | none => if s.text.startsWith "SELECT" then .rows (emptyRows s.text) else .done 1

/-- The server hears a statement and replies. -/
def answer (s : Database.Statement) : StateM DatabaseServer Database.Reply := do
  let server ← get
  let chosen := server.ready.find? (fits s)
  set (⟨server.ready.eraseP (fits s), server.told ++ [s]⟩ : DatabaseServer)
  return reply s (chosen.map ServerReply.content)

end DatabaseServer

/-- Something done with a store in a database, or by its server. -/
inductive DatabaseStep
  | store (s : StoreStep)
  /-- The section is given up by its owner. -/
  | leave
  | createTables
  | reset
  | dropTables
  | engine (s : EngineStep)
  /-- The server makes a change known. -/
  | notify
  /-- The server breaks all connections. -/
  | disconnect
  | advance (ms : Nat)

/-- How a script comes to its store. -/
inductive Entrance
  /-- The tables are not looked at. -/
  | bare
  /-- The tables are made if they are missing. -/
  | complete
  /-- The same, after the settings were checked. -/
  | checked

/-- The store of some settings. `refusal` is what keeps everyone from connecting. -/
def Entrance.enter (settings : Settings) (refusal : Option Failure) :
    Entrance → StateM DatabaseServer (Except Failure Database)
  | .bare => Database.connect DatabaseServer.answer settings.store refusal
  | .complete => Database.establish DatabaseServer.answer settings.store refusal
  | .checked =>
    match settings.check with
    | .error failure => return .error failure
    | .ok _ => Database.establish DatabaseServer.answer settings.store refusal

/-- A store in a database with the section, the cursors and the listeners of a script. -/
structure DatabaseRun where
  database : Database
  own : Option SectionId
  cursors : Names OpenCursor
  listeners : Names Listener

namespace DatabaseRun

/-- A script over a store. -/
def new (database : Database) : DatabaseRun :=
  ⟨database, none, [], []⟩

/-- What a store makes of a step. -/
abbrev Run := StateM DatabaseServer

/-- Something done with the store alone. -/
def doing {α : Type} (r : DatabaseRun) (write : α → Answer)
    (act : Database → Run (Except Failure α × Database)) : Run (Answer × DatabaseRun) := do
  let (result, database) ← act r.database
  return (.ofExcept write result, { r with database })

/-- Something done from a view, if there is one. -/
def inView (r : DatabaseRun) (isolated : Bool) (act : View → Run (Answer × DatabaseRun)) :
    Run (Answer × DatabaseRun) :=
  if isolated then
    match r.own with
    | some id => act (some id)
    | none => return (.absent "NoSection", r)
  else act none

/-- Something done with a listener. -/
def onListener (r : DatabaseRun) (name : String) (act : Listener → Answer × DatabaseRun) :
    Answer × DatabaseRun :=
  match r.listeners.lookup name with
  | some l => act l
  | none => (.absent "NoListener", r)

/-- The end of the open section. -/
def endSection (r : DatabaseRun)
    (finish : SectionId → Database → Run (Except Failure Unit × Database)) :
    Run (Answer × DatabaseRun) :=
  match r.own with
  | none => return (.absent "NoSection", r)
  | some id => ({ r with own := none } : DatabaseRun).doing .ofUnit (finish id)

/-- The end of a wait that nothing happens during, and the store after it. -/
def waitAlone (d : Database) (l : Listener) : ChangeEvent × Database :=
  match l.start d.changes with
  | some event => (event, d)
  | none => (.timedOut, d.later d.settings.changePollInterval.toNat)

/-- What becomes of a change. -/
def change (r : DatabaseRun) (script : ChangeScript) : Run (Answer × DatabaseRun) := do
  let (result, database) ← r.database.enclose DatabaseServer.answer (·.isOk)
    (script.run r.database.settings.cursor).flatten
  let result : ChangeResult :=
    match result with
    | .error failure => .refused failure
    | .ok (result, .ok _) => .ofEnd result
    | .ok (result, .error failure) =>
      { ChangeResult.ofEnd result with outcome := .error failure }
  return (result.answer, { r with database })

/-- The answer of a step that any store can take. -/
def storeStep (r : DatabaseRun) : StoreStep → Run (Answer × DatabaseRun)
  | .call isolated call => r.inView isolated fun view => do
    let (answer, database) ← r.database.run DatabaseServer.answer view
      (call.run r.database.settings.cursor)
    return (answer, { r with database })
  | .begin => do
    let (result, database) ← r.database.begin DatabaseServer.answer
    return (.ofExcept (fun _ => .nothing) result,
      { r with database, own := result.toOption.orElse fun _ => r.own })
  | .commit => r.endSection (Database.commit DatabaseServer.answer)
  | .rollback => r.endSection (Database.rollback DatabaseServer.answer)
  | .change script => r.change script
  | .dump isolated => r.inView isolated fun view => do
    let (answer, database) ← r.database.run DatabaseServer.answer view
      (StoreCall.dump r.database.settings.cursor)
    return (answer, { r with database })
  | .size => return (.nothing, r)
  | .openCursor isolated name query => r.inView isolated fun view =>
    return (.nothing, { r with
      cursors := r.cursors.put name ⟨.new r.database.settings.cursor, query.source, view⟩ })
  | .cursor name call =>
    match r.cursors.lookup name with
    | none => return (.absent "NoCursor", r)
    | some c => do
      let ((answer, remains), database) ← r.database.run DatabaseServer.answer c.view
        (call.run id c.source c.cursor)
      return (answer, { r with
        database, cursors := r.cursors.leave name (fun cursor => { c with cursor }) remains })
  | .subscribe name =>
    return (.nothing, { r with listeners := r.listeners.put name r.database.changes.subscribe })
  | .signal => do
    return (.nothing, { r with database := ← r.database.signal DatabaseServer.answer })
  | .hasChanged name =>
    return r.onListener name fun l => (.flag (l.hasChanged r.database.changes), r)
  | .wait name =>
    return r.onListener name fun l =>
      let (event, database) := waitAlone r.database l
      (.text event.name, { r with
        database, listeners := r.listeners.put name (l.after database.changes event) })
  | .waitForChange =>
    let (event, database) := waitAlone r.database r.database.changes.subscribe
    return (.text event.name, { r with database })
  | .close => do
    return (.nothing, { r with database := ← r.database.close DatabaseServer.answer })

/-- Someone acquires a task, up to a point in time if there is a deadline. -/
def acquire (wall : UInt64) (deadline : Option Nat) (d : Database) :
    Run (Except Failure (Option Task) × Database) :=
  d.acquire DatabaseServer.answer EngineSettings.standard.acquirePollInterval.toNat deadline wall
    manySteps d.changes.subscribe

/-- The answer of a step of an engine over the store. -/
def engineStep (wall : UInt64) (r : DatabaseRun) (s : EngineStep) : Run (Answer × DatabaseRun) :=
  match s.operation? r.database.settings.cursor Database.manyRows wall, s with
  | some op, _ => r.doing id (Database.perform DatabaseServer.answer op)
  | none, .acquire => r.doing (.task ∘ some) fun d => do
    let (result, d) ← acquire wall none d
    return (Acquirer.demand result, d)
  | none, .acquireWithin ms => r.doing .task fun d => acquire wall (some (d.clock + ms)) d
  | none, .pollInterval =>
    return (.nat EngineSettings.standard.acquirePollInterval.toNat, r)
  | none, .signal => r.storeStep .signal
  | none, .close => r.storeStep .close
  | none, _ => return (.nothing, r)

/-- Whether the owner of a section or a cursor still holds it. -/
def holds (r : DatabaseRun) (id : SectionId) : Bool :=
  r.own = some id || r.cursors.any fun (_, c) => c.view = some id && !c.cursor.closed

/-- Sections that nobody holds are given up, and what is to be made known is made known. -/
def tidy (r : DatabaseRun) : Run DatabaseRun := do
  let loose := (r.database.sections.map (·.1)).filter (!r.holds ·)
  let database ← loose.foldlM (fun d id => d.abandon DatabaseServer.answer id) r.database
  return { r with database := ← database.announce DatabaseServer.answer }

/-- The answer of a step, and all that it leaves. -/
def step (wall : UInt64) (r : DatabaseRun) : DatabaseStep → Run (Answer × DatabaseRun)
  | .store s => r.storeStep s
  | .leave => return (.nothing, { r with own := none })
  | .createTables => r.doing .ofUnit (Database.createTables DatabaseServer.answer)
  | .reset => r.doing .ofUnit (Database.reset DatabaseServer.answer)
  | .dropTables => r.doing .ofUnit (Database.dropTables DatabaseServer.answer)
  | .engine s => r.engineStep wall s
  | .notify => return (.nothing, { r with database := r.database.hear })
  | .disconnect => do
    return (.nothing, { r with database := ← r.database.reconnect DatabaseServer.answer })
  | .advance ms => return (.nothing, { r with database := r.database.later ms })

/-- The answers of some steps, each with what the server was told. Replies that are not used in a
step are thrown away. -/
def run (wall : UInt64) :
    List (DatabaseStep × List ServerReply) → DatabaseRun →
      List (Answer × List Database.Statement)
  | [], _ => []
  | (s, ready) :: rest, r =>
    let act : Run (Answer × DatabaseRun) := do
      let (answer, r) ← r.step wall s
      return (answer, ← r.tidy)
    let ((answer, r), server) := act.run ⟨ready, []⟩
    (answer, server.told) :: run wall rest r

end DatabaseRun

end TaskQueue
