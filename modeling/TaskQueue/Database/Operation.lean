import TaskQueue.Database
import TaskQueue.Engine.Operation

/-!
The operations of a queue over a store in a database.
-/

namespace TaskQueue.Database

/-- More rows than any table holds. -/
def manyRows : Nat := 1000000000

variable {m : Type → Type} [Monad m] (ask : Statement → m Reply) {α : Type}

/-- An operation and all that follows from it. -/
def perform (op : Operation α) (d : Database) : m (Except Failure α × Database) := do
  let (result, d) ←
    if op.isolated then d.isolated ask op.body else d.run ask none op.body.run
  match result with
  | .error failure => return (.error failure, d)
  | .ok (a, after) =>
    if after.signal then return (.ok a, ← d.signal ask) else return (.ok a, d)

/-- The next task, as soon as there is one, with at most `bound` attempts. Between two attempts it
waits for a change, but no longer than `poll`, and never beyond the deadline. -/
def acquire (poll : Nat) (deadline : Option Nat) (wall : UInt64) :
    Nat → Listener → Database → m (Except Failure (Option Task) × Database)
  | 0, _, d => return (.ok none, d)
  | bound + 1, l, d => do
    match ← d.perform ask (.acquire d.settings.cursor manyRows wall) with
    | (.ok (some task), d) => return (.ok (some task), d)
    | (.error (.lockTimeout _), d) => acquire poll deadline wall bound l d
    | (.error failure, d) => return (.error failure, d)
    | (.ok none, d) =>
      let rest := deadline.map (· - d.clock)
      if rest = some 0 then return (.ok none, d)
      else
        match l.start d.changes with
        | some .closed => return (.error .closed, d)
        | some event => acquire poll deadline wall bound (l.after d.changes event) d
        | none => acquire poll deadline wall bound l (d.later (min poll (rest.getD poll)))

end TaskQueue.Database
