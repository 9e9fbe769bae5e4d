import TaskQueue.Settings

/-!
Events that a log may tell of.
-/

namespace TaskQueue

/-- The value of a field of an event. A `shown` one is known only by its text. -/
inductive LogValue
  | number (n : Int)
  | flag (b : Bool)
  | text (s : String)
  | shown (s : String)

/-- An event. Its target says which part of a program it comes from. -/
structure LogEvent where
  level : LogLevel
  target : String
  message : String
  fields : List (String × LogValue)

/-- The names of the fields of an event; the message is one of them. -/
def LogEvent.fieldNames (e : LogEvent) : List String :=
  "message" :: e.fields.map (·.1)

end TaskQueue
