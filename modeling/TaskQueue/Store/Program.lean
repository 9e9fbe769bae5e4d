import TaskQueue.Cursor
import TaskQueue.Store.Contents

/-!
Requests to a store, and programs that make them.

A program is a tree: it is done with a result, or it makes a request and goes on with the answer.
Every kind of store runs the same programs.
-/

namespace TaskQueue

/-- A request to a store. -/
inductive Request
  | get (id : TaskId)
  | firstWithReference (reference : String)
  | lastWithReference (reference : String)
  | count (listing : Listing)
  | fetch (listing : Listing) (offset limit : Nat)
  | fetchIds (listing : Listing) (offset limit : Nat)
  | number (state : TaskState) (scope : Scope)
  | tags
  | rateLimit (tag : String)
  | rateLimits
  | maxRetries (tags : List String)
  | retryLimits
  | estimate (kind : String)
  | remove (id : TaskId)
  | removeByReference (reference : String)
  | queue (batch : List Task)
  | setState (task : Task) (state : TaskState)
  | setRateLimit (tag : String) (limit : Int)
  | setMaxRetries (tag : String) (limit : Int)
  | addDuration (kind : String) (ms : UInt64)
  | setEstimate (kind : String) (ms : UInt64)

namespace Request

/-- The answer to a request that succeeds. -/
def Reply : Request → Type
  | .get _ => Option Task
  | .firstWithReference _ => Option Task
  | .lastWithReference _ => Option Task
  | .count _ => Nat
  | .fetch _ _ _ => List Task
  | .fetchIds _ _ _ => List TaskId
  | .number _ _ => Nat
  | .tags => List String
  | .rateLimit _ => Int
  | .rateLimits => List (String × Nat)
  | .maxRetries _ => Int
  | .retryLimits => List (String × Nat)
  | .estimate _ => Nat
  | .remove _ => Bool
  | .removeByReference _ => Nat
  | .queue _ => Unit
  | .setState _ _ => Unit
  | .setRateLimit _ _ => Unit
  | .setMaxRetries _ _ => Unit
  | .addDuration _ _ => Unit
  | .setEstimate _ _ => Unit

/-- Whether a request may change the store. -/
def isWrite : Request → Bool
  | .remove _ => true
  | .removeByReference _ => true
  | .queue _ => true
  | .setState _ _ => true
  | .setRateLimit _ _ => true
  | .setMaxRetries _ _ => true
  | .addDuration _ _ => true
  | .setEstimate _ _ => true
  | _ => false

end Request

/-- The answer to a request, with the contents after it. -/
def Contents.answer (c : Contents) : (q : Request) → Except Failure q.Reply × Contents
  | .get id => (.ok (c.tasks.get? id), c)
  | .firstWithReference reference => (.ok (c.firstWithReference reference), c)
  | .lastWithReference reference => (.ok (c.lastWithReference reference), c)
  | .count listing => (.ok (c.list listing).length, c)
  | .fetch listing offset limit => (.ok (((c.list listing).drop offset).take limit), c)
  | .fetchIds listing offset limit =>
    (.ok ((((c.list listing).drop offset).take limit).map Task.id), c)
  | .number state scope => (.ok (c.count state scope), c)
  | .tags => (.ok c.tags.toList, c)
  | .rateLimit tag => (.ok (Contents.limitOf (c.rateLimits.get? tag)), c)
  | .rateLimits => (.ok c.rateLimits.entries, c)
  | .maxRetries tags => (.ok (Contents.limitOf (Contents.largestLimit c.retryLimits tags)), c)
  | .retryLimits => (.ok c.retryLimits.entries, c)
  | .estimate kind => (.ok (c.estimate kind), c)
  | .remove id => let (found, c) := c.remove id; (.ok found, c)
  | .removeByReference reference => let (n, c) := c.removeByReference reference; (.ok n, c)
  | .queue batch =>
    match c.queue batch with
    | .ok c => (.ok (), c)
    | .error failure => (.error failure, c)
  | .setState task state =>
    match c.setState task state with
    | .ok c => (.ok (), c)
    | .error failure => (.error failure, c)
  | .setRateLimit tag limit =>
    (.ok (), { c with rateLimits := Contents.setLimit c.rateLimits tag limit })
  | .setMaxRetries tag limit =>
    (.ok (), { c with retryLimits := Contents.setLimit c.retryLimits tag limit })
  | .addDuration kind ms => (.ok (), c.addDuration kind ms)
  | .setEstimate kind ms => (.ok (), c.setEstimate kind ms)

/-- A program over a store. A request may fail, and the program goes on with the failure. -/
inductive Program (α : Type) : Type
  | done (result : α)
  | ask (q : Request) (next : Except Failure q.Reply → Program α)

namespace Program

/-- A program followed by another one. -/
def bind {α β : Type} : Program α → (α → Program β) → Program β
  | .done a, f => f a
  | .ask q next, f => .ask q fun reply => (next reply).bind f

instance : Monad Program where
  pure := .done
  bind := bind

/-- A program of one request. -/
def request (q : Request) : Program (Except Failure q.Reply) :=
  .ask q .done

end Program

/-- A program that ends at the first failure that it does not handle. -/
abbrev Action := ExceptT Failure Program

namespace Action

/-- One request; its failure is the failure of the action. -/
def request (q : Request) : Action q.Reply :=
  ExceptT.mk (Program.request q)

end Action

namespace Listing

/-- The tasks of a listing as a source of rows. -/
def source (listing : Listing) : Source Program Task :=
  ⟨Program.request (.count listing), fun offset limit =>
    Program.request (.fetch listing offset limit)⟩

/-- The identifiers of the tasks of a listing as a source of rows. -/
def idSource (listing : Listing) : Source Program TaskId :=
  ⟨Program.request (.count listing), fun offset limit =>
    Program.request (.fetchIds listing offset limit)⟩

end Listing

end TaskQueue
