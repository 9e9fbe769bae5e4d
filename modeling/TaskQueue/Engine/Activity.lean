import TaskQueue.Engine.Acquirer

/-!
Operations that wait for an open section, side by side with those who acquire.
-/

namespace TaskQueue

/-- How far a program that runs outside sections has come. -/
inductive Progress (α : Type)
  | done (result : α)
  /-- The next request is a write, and a section is open. -/
  | blocked (rest : Program α)

/-- A program run outside sections as far as it gets without waiting. -/
def Store.proceed {α : Type} : Program α → Store → Progress α × Store
  | .done result, s => (.done result, s)
  | .ask q next, s =>
    if q.isWrite && !s.free then (.blocked (.ask q next), s)
    else
      let (reply, s) := s.answer none q
      proceed (next reply) s

/-- A program whose next request failed because a section stayed open too long. -/
def Program.refuse {α : Type} (failure : Failure) : Program α → Program α
  | .done result => .done result
  | .ask _ next => next (.error failure)

/-- An operation on its way. -/
inductive Call (α : Type)
  /-- About to begin. -/
  | starting (op : Operation α)
  /-- Waiting, up to a point in time, for a section of its own. -/
  | entering (body : Action (α × Aftermath)) (limit : Nat)
  /-- Waiting, up to a point in time, to write outside sections. -/
  | writing (rest : Program (Except Failure (α × Aftermath))) (limit : Nat)
  /-- Over. -/
  | finished (result : Except Failure α)

namespace Call

variable {α : Type}

/-- The end of an operation, with what follows from it. -/
def conclude (e : Engine) : Except Failure (α × Aftermath) → Engine × Call α
  | .ok (a, after) => (e.conclude after, .finished (.ok a))
  | .error failure => (e, .finished (.error failure))

/-- A program that runs outside sections, up to its end or its next wait. -/
def proceed (now : Nat) (e : Engine) (p : Program (Except Failure (α × Aftermath))) :
    Engine × Call α :=
  match e.store.proceed p with
  | (.done result, store) => conclude { e with store } result
  | (.blocked rest, store) =>
    ({ e with store }, .writing rest (now + e.store.settings.lockTimeout.toNat))

/-- The failure of an operation that waited too long. -/
def tooLong (e : Engine) : Failure :=
  .lockTimeout e.store.settings.lockTimeout

/-- The next step of an operation at a point in time, if it does not have to wait. -/
def step (now : Nat) (e : Engine) : Call α → Option (Engine × Call α)
  | .starting op =>
    if op.isolated then
      some (e, .entering op.body (now + e.store.settings.lockTimeout.toNat))
    else some (proceed now e op.body.run)
  | .entering body limit =>
    if e.store.free then
      let (result, store) := e.store.isolated body
      some (conclude { e with store } result)
    else if limit ≤ now then some (e, .finished (.error (tooLong e)))
    else none
  | .writing rest limit =>
    if e.store.free then some (proceed now e rest)
    else if limit ≤ now then some (proceed now e (rest.refuse (tooLong e)))
    else none
  | .finished _ => none

/-- The point in time that an operation waits for. -/
def timer : Call α → Option Nat
  | .entering _ limit => some limit
  | .writing _ limit => some limit
  | _ => none

/-- The result of an operation that is over. -/
def result? : Call α → Option (Except Failure α)
  | .finished result => some result
  | _ => none

end Call

/-- Something that goes on in an engine: an operation, or someone who acquires. -/
inductive Activity (α : Type)
  | call (call : Call α)
  | acquire (acquirer : Acquirer)

namespace Activity

variable {α : Type}

/-- The next step of an activity. `wall` is what the clock on the wall shows. -/
def step (wall : UInt64) (now : Nat) (e : Engine) : Activity α → Option (Engine × Activity α)
  | .call c => (c.step now e).map fun (e, c) => (e, .call c)
  | .acquire a => (a.step now wall e).map fun (e, a) => (e, .acquire a)

/-- The point in time that an activity waits for. -/
def timer : Activity α → Option Nat
  | .call c => c.timer
  | .acquire a => a.timer

/-- Whether an activity is over. -/
def isOver : Activity α → Bool
  | .call c => c.result?.isSome
  | .acquire a => a.result?.isSome

end Activity

end TaskQueue
