import TaskQueue.Failure
import TaskQueue.Json.Value

/-!
What is said to a relational database, and what it says back.
-/

namespace TaskQueue.Database

/-- A value bound to a parameter of a statement. -/
inductive Argument
  | null
  | number (n : Int)
  | text (s : String)
  | id (id : TaskId)
  | content (v : Json.Value)
  | ids (is : List TaskId)
  | texts (ss : List String)

namespace Argument

/-- A text that may be missing. -/
def ofText? : Option String → Argument
  | none => .null
  | some s => .text s

/-- A natural number in a signed column of 64 bits. -/
def ofWord (n : Nat) : Argument :=
  .number (Int.bmod n UInt64.size)

end Argument

/-- A statement. A plain one takes no arguments; a prepared one has a list of them. -/
structure Statement where
  text : String
  arguments : Option (List Argument)

namespace Statement

/-- A statement that is sent as it is. -/
def plain (text : String) : Statement :=
  ⟨text, none⟩

/-- A statement with its arguments. -/
def prepared (text : String) (arguments : List Argument) : Statement :=
  ⟨text, some arguments⟩

end Statement

/-- A cell of a row. An identifier is given by its number. -/
inductive Cell
  | null
  | number (n : Int)
  | text (s : String)
  | content (v : Json.Value)

/-- A row of an answer. -/
abbrev Row := List Cell

/-- What a database says to a statement. -/
inductive Reply
  | rows (rows : List Row)
  /-- Done, with the number of rows that were changed. -/
  | done (affected : Nat)
  | refused (code message : String)
  /-- The connection is gone. -/
  | lost

namespace Reply

/-- The failure that a reply tells of. -/
def failure? : Reply → Option Failure
  | .refused _ message => some (.database (some message))
  | .lost => some (.database none)
  | _ => none

/-- The rows of a reply. -/
def rows? : Reply → Except Failure (List Row)
  | .rows found => .ok found
  | .done _ => .ok []
  | .refused _ message => .error (.database (some message))
  | .lost => .error (.database none)

/-- The number of rows that were changed. -/
def affected? : Reply → Except Failure Nat
  | .rows found => .ok found.length
  | .done affected => .ok affected
  | .refused _ message => .error (.database (some message))
  | .lost => .error (.database none)

end Reply

namespace Row

/-- A failure to make sense of a row. -/
def unreadable : Failure := .database none

/-- The number in a column. -/
def number? (row : Row) (column : Nat) : Except Failure Int :=
  match row[column]? with
  | some (.number n) => .ok n
  | _ => .error unreadable

/-- The number in a column, if there is one. -/
def numberOrNull? (row : Row) (column : Nat) : Except Failure (Option Int) :=
  match row[column]? with
  | some (.number n) => .ok (some n)
  | some .null => .ok none
  | _ => .error unreadable

/-- The text in a column. -/
def text? (row : Row) (column : Nat) : Except Failure String :=
  match row[column]? with
  | some (.text s) => .ok s
  | _ => .error unreadable

/-- The identifier in a column. -/
def id? (row : Row) (column : Nat) : Except Failure TaskId :=
  match row[column]? with
  | some (.number n) => .ok (.ofNat n.toNat)
  | some (.text s) =>
    match TaskId.ofText? s with
    | some id => .ok id
    | none => .error unreadable
  | _ => .error unreadable

/-- The content in a column. -/
def content? (row : Row) (column : Nat) : Except Failure Json.Value :=
  match row[column]? with
  | some (.content v) => .ok v
  | _ => .error unreadable

end Row

end TaskQueue.Database
