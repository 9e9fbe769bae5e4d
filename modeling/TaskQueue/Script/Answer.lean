import TaskQueue.Json.Value
import TaskQueue.Store.Program

/-!
What the steps of a script answer, and tables of the things that a script names.
-/

namespace TaskQueue

/-- The answer of a step. -/
inductive Answer
  | nothing
  | flag (b : Bool)
  | number (n : Int)
  | text (s : String)
  | value (v : Json.Value)
  | task (task : Option Task)
  | id (id : TaskId)
  | limits (entries : List (String × Nat))
  /-- The number of tasks of a store. -/
  | extent (n : Nat)
  | failure (failure : Failure)
  /-- The step names something that does not exist. -/
  | absent (what : String)
  | many (answers : List Answer)
  | change (outcome : Answer) (results : List Answer)
  | contents (pending failed tags rateLimits retryLimits : Answer)
  /-- What became of a consumer, and the tasks that it was given. -/
  | consumed (connected : Answer) (seen : List TaskId)

namespace Answer

/-- The answer of something that may have failed. -/
def ofExcept {α : Type} (answer : α → Answer) : Except Failure α → Answer
  | .ok a => answer a
  | .error f => .failure f

/-- The answer that there is a value, or none. -/
def ofOption {α : Type} (answer : α → Answer) : Option α → Answer
  | some a => answer a
  | none => .nothing

/-- The answer of something that only has an effect. -/
def ofUnit (_ : Unit) : Answer :=
  .nothing

/-- Tasks as an answer. -/
def tasks (ts : List Task) : Answer :=
  .many (ts.map fun t => .task (some t))

/-- Identifiers as an answer. -/
def ids (is : List TaskId) : Answer :=
  .many (is.map .id)

/-- Texts as an answer. -/
def texts (ss : List String) : Answer :=
  .many (ss.map .text)

/-- A natural number as an answer. -/
def nat (n : Nat) : Answer :=
  .number n

/-- The failure that an answer tells of. -/
def failure? : Answer → Option Failure
  | .failure f => some f
  | _ => none

/-- Whether a number was passed that its field holds, which ends a script without any answer. -/
def isOverflow (answer : Answer) : Bool :=
  answer.failure? = some .overflow

end Answer

/-- The answer of a request. -/
def Request.answer : (q : Request) → q.Reply → Answer
  | .get _, t => .task t
  | .firstWithReference _, t => .task t
  | .lastWithReference _, t => .task t
  | .count _, n => .nat n
  | .fetch _ _ _, ts => .tasks ts
  | .fetchIds _ _ _, is => .ids is
  | .number _ _, n => .nat n
  | .tags, ss => .texts ss
  | .rateLimit _, n => .number n
  | .rateLimits, entries => .limits entries
  | .maxRetries _, n => .number n
  | .retryLimits, entries => .limits entries
  | .estimate _, n => .nat n
  | .remove _, b => .flag b
  | .removeByReference _, n => .nat n
  | .queue _, u => .ofUnit u
  | .setState _ _, u => .ofUnit u
  | .setRateLimit _ _, u => .ofUnit u
  | .setMaxRetries _ _, u => .ofUnit u
  | .addDuration _ _, u => .ofUnit u
  | .setEstimate _ _, u => .ofUnit u

/-- Named things, the one that was named last first. -/
abbrev Names (α : Type) := List (String × α)

namespace Names

variable {α : Type}

/-- The names with one that stands for something new. -/
def put (names : Names α) (name : String) (a : α) : Names α :=
  (name, a) :: names.filter (·.1 ≠ name)

/-- The names without one. -/
def drop (names : Names α) (name : String) : Names α :=
  names.filter (·.1 ≠ name)

end Names

end TaskQueue
