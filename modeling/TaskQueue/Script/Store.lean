import TaskQueue.Script.StoreCall
import TaskQueue.Store

/-!
Scripts of one store, with a section at a time, cursors and listeners.
-/

namespace TaskQueue

/-- The rows of a source in another form. -/
def Source.map {m : Type → Type} [Monad m] {α β : Type} (f : α → β) (s : Source m α) : Source m β :=
  ⟨s.count, fun offset limit => do return (← s.fetch offset limit).map (List.map f)⟩

/-- A query whose rows are read by a cursor: tasks, or their identifiers. -/
structure RowQuery where
  listing : Listing
  onlyIds : Bool

/-- The rows of a query as answers. -/
def RowQuery.source (q : RowQuery) : Source Program Answer :=
  if q.onlyIds then q.listing.idSource.map .id else q.listing.source.map fun t => .task (some t)

/-- Something done with a store. `isolated` steps run in the open section. -/
inductive StoreStep
  | call (isolated : Bool) (call : StoreCall)
  | begin
  | commit
  | rollback
  | change (script : ChangeScript)
  | dump (isolated : Bool)
  | size
  /-- A cursor with a name. -/
  | openCursor (isolated : Bool) (name : String) (query : RowQuery)
  | cursor (name : String) (call : CursorCall)
  | subscribe (name : String)
  | signal
  | hasChanged (name : String)
  | wait (name : String)
  /-- A wait by someone who only begins to listen. -/
  | waitForChange
  | close

/-- A cursor with what it reads. -/
structure OpenCursor where
  cursor : Cursor Answer
  source : Source Program Answer
  view : View

/-- A store with the cursors and listeners of a script. -/
structure StoreRun where
  store : Store
  cursors : Names OpenCursor
  listeners : Names Listener

namespace Store

/-- The view of a step, if there is one. -/
def viewOf (s : Store) (isolated : Bool) : Option View :=
  if isolated then s.opened.map fun o => some o.id else some none

/-- All that everyone can see of a store. -/
def dump (s : Store) : Answer :=
  (s.run none (StoreCall.dump s.settings.cursor)).1

/-- What becomes of a change made outside of sections. -/
def change (s : Store) (script : ChangeScript) : ChangeResult × Store :=
  let (result, s) := s.isolatedChange ChangeResult.refused none (script.run s.settings.cursor)
  (.ofEnd result, s)

end Store

namespace StoreRun

/-- A script over a new store. -/
def new (settings : StoreSettings) : StoreRun :=
  ⟨.new settings, [], []⟩

/-- Something done from a view, if there is one. -/
def inView (r : StoreRun) (isolated : Bool) (act : View → Answer × StoreRun) : Answer × StoreRun :=
  match r.store.viewOf isolated with
  | some view => act view
  | none => (.absent "NoSection", r)

/-- Something done with the open section. -/
def inSection (r : StoreRun) (store : Store) : Answer × StoreRun :=
  if r.store.free then (.absent "NoSection", r) else (.nothing, { r with store })

/-- Something done with a listener. -/
def onListener (r : StoreRun) (name : String) (act : Listener → Answer × StoreRun) :
    Answer × StoreRun :=
  match r.listeners.lookup name with
  | some l => act l
  | none => (.absent "NoListener", r)

/-- The end of a wait that nothing happens during. -/
def waitAlone (s : Store) (l : Listener) : ChangeEvent :=
  (l.start s.changes).getD .timedOut

/-- The answer of a step, and all that it leaves. -/
def step (r : StoreRun) : StoreStep → Answer × StoreRun
  | .call isolated call => r.inView isolated fun view =>
    let (answer, store) := r.store.run view (call.run r.store.settings.cursor)
    (answer, { r with store })
  | .begin =>
    let (result, store) := r.store.begin
    (.ofExcept (fun _ => .nothing) result, { r with store })
  | .commit => r.inSection r.store.commit
  | .rollback => r.inSection r.store.rollback
  | .change script =>
    let (result, store) := r.store.change script
    (result.answer, { r with store })
  | .dump isolated => r.inView isolated fun view =>
    ((r.store.run view (StoreCall.dump r.store.settings.cursor)).1, r)
  | .size => (.extent r.store.size, r)
  | .openCursor isolated name query => r.inView isolated fun view =>
    (.nothing, { r with
      cursors := r.cursors.put name ⟨.new r.store.settings.cursor, query.source, view⟩ })
  | .cursor name call =>
    match r.cursors.lookup name with
    | none => (.absent "NoCursor", r)
    | some c =>
      let ((answer, remains), store) := r.store.run c.view (call.run id c.source c.cursor)
      (answer, { r with
        store, cursors := r.cursors.leave name (fun cursor => { c with cursor }) remains })
  | .subscribe name =>
    (.nothing, { r with listeners := r.listeners.put name r.store.changes.subscribe })
  | .signal => (.nothing, { r with store := r.store.signal })
  | .hasChanged name => r.onListener name fun l => (.flag (l.hasChanged r.store.changes), r)
  | .wait name => r.onListener name fun l =>
    let event := waitAlone r.store l
    (.text event.name, { r with
      listeners := r.listeners.put name (l.after r.store.changes event) })
  | .waitForChange => (.text (waitAlone r.store r.store.changes.subscribe).name, r)
  | .close => (.nothing, { r with store := r.store.close })

/-- The answers of some steps, and all that they leave. -/
def run : List StoreStep → StoreRun → List Answer × StoreRun
  | [], r => ([], r)
  | s :: rest, r =>
    let (answer, r) := r.step s
    let (answers, r) := run rest r
    (answer :: answers, r)

/-- What is in the store after a script. A section that is still open is given up. -/
def final (r : StoreRun) : Answer :=
  r.store.rollback.dump

end StoreRun

end TaskQueue
