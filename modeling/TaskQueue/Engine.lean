import TaskQueue.Engine.Operation
import TaskQueue.Store

/-!
An engine: a store with its observers, and what an operation does to it.
-/

namespace TaskQueue

/-- An engine. `notices` is all that its observers were told. -/
structure Engine where
  store : Store
  settings : EngineSettings
  observers : List Observer
  notices : List Notice

namespace Engine

/-- An engine over an empty store, without observers. -/
def new (store : StoreSettings) (settings : EngineSettings) : Engine :=
  ⟨.new store, settings, [], []⟩

/-- A number of rows that no listing of the store reaches. -/
def rows (e : Engine) : Nat :=
  e.store.committed.tasks.size + 1

/-- The engine with one more observer. -/
def observe (e : Engine) (observer : Observer) : Engine :=
  { e with observers := e.observers ++ [observer] }

/-- The engine without observers. -/
def forgetObservers (e : Engine) : Engine :=
  { e with observers := [] }

/-- The engine after an action, which found no section open if it writes. -/
def commit {α : Type} (e : Engine) (op : Operation α) : Except Failure (α × Aftermath) × Engine :=
  if op.isolated then
    let (result, store) := e.store.isolated op.body
    (result, { e with store })
  else
    let (result, store) := e.store.run none op.body.run
    (result, { e with store })

/-- The engine after those who wait were woken, if they are, and the observers were told. -/
def conclude (e : Engine) (after : Aftermath) : Engine :=
  { e with
    store := if after.signal then e.store.signal else e.store
    notices := e.notices ++ Observer.notify e.observers after.events }

/-- The engine after an operation and all that follows from it. -/
def perform {α : Type} (e : Engine) (op : Operation α) : Except Failure α × Engine :=
  match e.commit op with
  | (.ok (a, after), e) => (.ok a, e.conclude after)
  | (.error failure, e) => (.error failure, e)

/-- The engine after its store was closed. -/
def close (e : Engine) : Engine :=
  { e with store := e.store.close }

end Engine

end TaskQueue
