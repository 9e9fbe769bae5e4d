import TaskQueue.Task

/-!
What observers of an engine are told, and how.
-/

namespace TaskQueue

/-- How a task left the running state. -/
inductive Ending
  | completed
  | requeued
  | failed
  | cancelled
  deriving DecidableEq, Repr

namespace Ending

/-- The name of an ending. -/
def name : Ending → String
  | .completed => "Completed"
  | .requeued => "Requeued"
  | .failed => "Failed"
  | .cancelled => "Cancelled"

end Ending

/-- Something that observers are told. -/
inductive Event
  | submitted (task : Task)
  | acquired (task : Task)
  | done (task : Task) (ending : Ending)

namespace Event

/-- The name of what happened. -/
def name : Event → String
  | .submitted _ => "submit"
  | .acquired _ => "acquire"
  | .done _ _ => "done"

/-- The task that it happened to. -/
def task : Event → Task
  | .submitted task => task
  | .acquired task => task
  | .done task _ => task

/-- How the task left the running state, if it did. -/
def ending : Event → Option Ending
  | .done _ ending => some ending
  | _ => none

end Event

/-- Someone who is told events, and breaks down over some of them. -/
structure Observer where
  name : String
  breaks : Event → Bool

/-- One event as one observer was told it. -/
structure Notice where
  observer : String
  event : Event

namespace Observer

/-- What happens when an observer is told an event: it takes note of it, and may break down then. -/
def tell (observer : Observer) (event : Event) : Except Notice Notice :=
  let notice : Notice := ⟨observer.name, event⟩
  if observer.breaks event then .error notice else .ok notice

/-- What was noted, whether or not the observer broke down. -/
def noted : Except Notice Notice → Notice
  | .ok notice => notice
  | .error notice => notice

/-- Events told to all observers. One that breaks down does not keep the others from hearing. -/
def notify (observers : List Observer) (events : List Event) : List Notice :=
  events.flatMap fun event => observers.map fun observer => noted (observer.tell event)

end Observer

end TaskQueue
