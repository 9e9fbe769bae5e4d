import TaskQueue.Identifier

/-!
What can go wrong, and the words for it.
-/

namespace TaskQueue

/-- The cause of a failed operation. The texts of `serialization` and `malformed` say what a reader
did not like; a `database` failure has a text when the database server gave one. -/
inductive Failure
  | taskNotFound (id : TaskId)
  | duplicateTask (id : TaskId)
  | serialization
  | store (message : String)
  | lockTimeout (ms : UInt64)
  | transport (message : String)
  | io (cause : String)
  | protocol (message : String)
  | malformed
  | handler (message : String)
  | configuration (message : String)
  | alreadyRunning
  | notRunning
  | closed
  | database (answer : Option String)
  /-- A count passed the largest number that its field holds. -/
  | overflow
  /-- A pool may hold no connection at all. -/
  | noConnections
  deriving DecidableEq, Repr, Inhabited

namespace Failure

/-- The name of a kind of failure. -/
def kind : Failure → String
  | .taskNotFound _ => "TaskNotFound"
  | .duplicateTask _ => "DuplicateTask"
  | .serialization => "Serialization"
  | .store _ => "Store"
  | .lockTimeout _ => "LockTimeout"
  | .transport _ => "Transport"
  | .io _ => "Io"
  | .protocol _ => "Protocol"
  | .malformed => "Protocol"
  | .handler _ => "Handler"
  | .configuration _ => "ConfigError"
  | .alreadyRunning => "AlreadyRunning"
  | .notRunning => "NotRunning"
  | .closed => "Closed"
  | .database _ => "Database"
  | .overflow => "Overflow"
  | .noConnections => "NoConnections"

/-- The text of a failure. -/
def message : Failure → String
  | .taskNotFound id => "Task " ++ id.text ++ " not found"
  | .duplicateTask id => "Task " ++ id.text ++ " already exists"
  | .serialization => "Serialization error"
  | .store message => "Store error: " ++ message
  | .lockTimeout ms =>
    "Timed out after " ++ ms.toNat.repr ++ "ms waiting for the isolation lock"
  | .transport message => "Transport error: " ++ message
  | .io cause => "IO error: " ++ cause
  | .protocol message => "Protocol error: " ++ message
  | .malformed => "Protocol error: Malformed frame"
  | .handler message => "Handler failed: " ++ message
  | .configuration message => "Configuration error: " ++ message
  | .alreadyRunning => "Already running"
  | .notRunning => "Not running"
  | .closed => "Closed"
  | .database answer =>
    "Database error: error returned from database: " ++ answer.getD ""
  | .overflow => "Overflow"
  | .noConnections => "No connections"

/-- Whether a failure came from the network rather than from the queue. -/
def isTransport : Failure → Bool
  | .transport _ => true
  | .io _ => true
  | _ => false

/-- Whether a failure carries the failure that led to it. -/
def hasCause : Failure → Bool
  | .serialization => true
  | failure => failure.isTransport

end Failure

end TaskQueue
