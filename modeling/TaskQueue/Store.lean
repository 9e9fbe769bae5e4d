import TaskQueue.Changes
import TaskQueue.Store.Program

/-!
A store in memory. Readers see the committed contents. A section works on a copy of its own, made by
its first write, which becomes the committed contents when the section commits and is thrown away
when it does not. While a section is open no other section opens and no one else writes.
-/

namespace TaskQueue

/-- The number of a section. -/
abbrev SectionId := Nat

/-- An open section. There is a copy once it has written. -/
structure Section where
  id : SectionId
  copy : Option Contents

/-- A store. -/
structure Store where
  settings : StoreSettings
  committed : Contents
  opened : Option Section
  nextSection : SectionId
  changes : Channel

/-- Where a request is made: in a section, or outside. -/
abbrev View := Option SectionId

namespace Store

/-- An empty store. -/
def new (settings : StoreSettings) : Store :=
  ⟨settings, .empty, none, 0, .new⟩

/-- Whether a section can be opened and anyone can write. -/
def free (s : Store) : Bool :=
  s.opened.isNone

/-- The contents of a section that is still open and has written. -/
def copyOf (s : Store) (id : SectionId) : Option Contents :=
  match s.opened with
  | some opened => if opened.id = id then opened.copy else none
  | none => none

/-- What is seen from a view. A section that has ended sees what everyone sees. -/
def seen (s : Store) : View → Contents
  | none => s.committed
  | some id => (s.copyOf id).getD s.committed

/-- The store with the contents that a write from a view leaves. -/
def written (s : Store) (view : View) (c : Contents) : Store :=
  match view, s.opened with
  | some id, some opened =>
    if opened.id = id then { s with opened := some { opened with copy := some c } } else s
  | none, _ => { s with committed := c }
  | some _, none => s

/-- A request from a view that does not have to wait. -/
def answer (s : Store) (view : View) (q : Request) : Except Failure q.Reply × Store :=
  let (reply, c) := (s.seen view).answer q
  (reply, if q.isWrite then s.written view c else s)

/-- A request from a view; a write from outside that finds a section open gives up in the end. -/
def request (s : Store) (view : View) (q : Request) : Except Failure q.Reply × Store :=
  if q.isWrite && view.isNone && !s.free then (.error (.lockTimeout s.settings.lockTimeout), s)
  else s.answer view q

/-- A program run from a view. -/
def run {α : Type} (view : View) : Program α → Store → α × Store
  | .done result, s => (result, s)
  | .ask q next, s =>
    let (reply, s) := s.request view q
    run view (next reply) s

/-! ## Sections -/

/-- The store with a new section, and its number. -/
def opening (s : Store) : SectionId × Store :=
  (s.nextSection,
    { s with opened := some ⟨s.nextSection, none⟩, nextSection := s.nextSection + 1 })

/-- A new section; gives up in the end if one is open. -/
def begin (s : Store) : Except Failure SectionId × Store :=
  if s.free then
    let (id, s) := s.opening
    (.ok id, s)
  else (.error (.lockTimeout s.settings.lockTimeout), s)

/-- The store after its section committed. -/
def commit (s : Store) : Store :=
  match s.opened with
  | some opened => { s with committed := opened.copy.getD s.committed, opened := none }
  | none => s

/-- The store after its section was given up. -/
def rollback (s : Store) : Store :=
  { s with opened := none }

/-- A program run in a section of its own, which commits if the result is good. -/
def enclose {α : Type} (good : α → Bool) (p : Program α) (s : Store) : α × Store :=
  let (id, s) := s.opening
  let (result, s) := run (some id) p s
  (result, if good result then s.commit else s.rollback)

/-- An action run in a section of its own, which commits if the action succeeds. -/
def isolated {α : Type} (action : Action α) (s : Store) : Except Failure α × Store :=
  if s.free then s.enclose (fun r => r.isOk) action.run
  else (.error (.lockTimeout s.settings.lockTimeout), s)

/-! ## Changes -/

/-- The store after a change was published. -/
def signal (s : Store) : Store :=
  { s with changes := s.changes.publish }

/-- The store after it was closed. It still answers, but nobody waits for its changes. -/
def close (s : Store) : Store :=
  { s with changes := s.changes.close }

/-- The number of stored tasks. -/
def size (s : Store) : Nat :=
  s.committed.tasks.size

end Store

end TaskQueue
