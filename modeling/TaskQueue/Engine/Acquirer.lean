import TaskQueue.Engine

/-!
Waiting for a task.

Someone who acquires listens for changes before the first attempt, so no change is missed between an
attempt and the wait behind it. Being cancelled is only noticed between attempts: a task that was
selected is always handed out. A section that stays open too long makes an attempt start again.
-/

namespace TaskQueue

/-- How far an acquire has come. -/
inductive Acquirer.Stage
  /-- About to make an attempt. -/
  | trying
  /-- Waiting, up to a point in time, for the section of the attempt. -/
  | entering (limit : Nat)
  /-- Waiting, up to a point in time, for a change. -/
  | waiting (limit : Nat)
  /-- Over. No task means that the acquire gave up. -/
  | finished (result : Except Failure (Option Task))

/-- Someone who acquires a task, up to a point in time if there is a deadline. -/
structure Acquirer where
  listener : Listener
  deadline : Option Nat
  cancelled : Bool
  stage : Acquirer.Stage

namespace Acquirer

/-- Someone who begins to acquire. -/
def begin (e : Engine) (deadline : Option Nat) : Acquirer :=
  ⟨e.store.changes.subscribe, deadline, false, .trying⟩

/-- The acquire is to give up at its next chance. -/
def cancel (a : Acquirer) : Acquirer :=
  { a with cancelled := true }

/-- The acquire is over. -/
def finish (a : Acquirer) (result : Except Failure (Option Task)) : Acquirer :=
  { a with stage := .finished result }

/-- After an attempt that found nothing: over if the deadline is reached or the store is closed, or
a wait for a change. -/
def afterMiss (now : Nat) (e : Engine) (a : Acquirer) : Acquirer :=
  let poll := e.settings.acquirePollInterval.toNat
  match a.deadline with
  | some deadline =>
    if deadline ≤ now then a.finish (.ok none)
    else if e.store.changes.closed then a.finish (.error .closed)
    else { a with stage := .waiting (now + min poll (deadline - now)) }
  | none =>
    if e.store.changes.closed then a.finish (.error .closed)
    else { a with stage := .waiting (now + poll) }

/-- One attempt in a section of its own. -/
def attempt (now : Nat) (wall : UInt64) (e : Engine) (a : Acquirer) : Engine × Acquirer :=
  match e.perform (.acquire e.store.settings.cursor e.rows wall) with
  | (.ok (some task), e) => (e, a.finish (.ok (some task)))
  | (.ok none, e) => (e, a.afterMiss now e)
  | (.error failure, e) => (e, a.finish (.error failure))

/-- What follows the end of a wait. -/
def wake (e : Engine) (a : Acquirer) : ChangeEvent → Acquirer
  | .closed => a.finish (.error .closed)
  | event => { a with listener := a.listener.after e.store.changes event, stage := .trying }

/-- The next step of an acquire at a point in time, if it does not have to wait. `wall` is what the
clock on the wall shows. -/
def step (now : Nat) (wall : UInt64) (e : Engine) (a : Acquirer) : Option (Engine × Acquirer) :=
  match a.stage with
  | .trying =>
    if a.cancelled then some (e, a.finish (.ok none))
    else some (e, { a with stage := .entering (now + e.store.settings.lockTimeout.toNat) })
  | .entering limit =>
    if e.store.free then some (a.attempt now wall e)
    else if limit ≤ now then some (e, { a with stage := .trying })
    else none
  | .waiting limit =>
    if a.cancelled then some (e, a.finish (.ok none))
    else (a.listener.resume e.store.changes (limit ≤ now)).map fun event => (e, a.wake e event)
  | .finished _ => none

/-- The point in time that the acquire waits for. -/
def timer (a : Acquirer) : Option Nat :=
  match a.stage with
  | .entering limit => some limit
  | .waiting limit => some limit
  | _ => none

/-- The result of an acquire that is over. -/
def result? (a : Acquirer) : Option (Except Failure (Option Task)) :=
  match a.stage with
  | .finished result => some result
  | _ => none

/-- Without a deadline and not cancelled, an acquire that found no task failed because the store was
closed. -/
def demand : Except Failure (Option Task) → Except Failure Task
  | .ok (some task) => .ok task
  | .ok none => .error .closed
  | .error failure => .error failure

end Acquirer

end TaskQueue
