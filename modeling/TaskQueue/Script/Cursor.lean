import TaskQueue.Script.Answer

/-!
Scripts that read cursors, over any source, and sources of rows that fail when they are told to.
-/

namespace TaskQueue

/-- What is done with a cursor. -/
inductive CursorCall
  | size
  | splits
  | next
  | take (n : Nat)
  | close
  | isClosed
  | describe
  | collect
  | stream
  | split

/-- What a call leaves of a cursor: the cursor, nothing, or its parts. -/
inductive Remains (α : Type)
  | one (c : Cursor α)
  | none
  | parts (cs : List (Cursor α))

namespace CursorCall

variable {m : Type → Type} [Monad m] {α : Type}

/-- More rows than any cursor of a script reads. -/
def manyRows : Nat := 1000000000

/-- The answers of `n` calls for the next row. -/
def takeRows (write : α → Answer) (source : Source m α) :
    Nat → Cursor α → m (List Answer × Cursor α)
  | 0, c => return ([], c)
  | n + 1, c => do
    let (row, c) ← c.next source
    let (rows, c) ← takeRows write source n c
    return (.ofExcept (.ofOption write) row :: rows, c)

/-- The answer of a call, and what it leaves of the cursor. -/
def run (write : α → Answer) (source : Source m α) (c : Cursor α) :
    CursorCall → m (Answer × Remains α)
  | .size => do
    let (answer, c) ← c.measure source
    return (.ofExcept .nat answer, .one c)
  | .splits => do
    let (answer, c) ← c.splits source
    return (.ofExcept .flag answer, .one c)
  | .next => do
    let (row, c) ← c.next source
    return (.ofExcept (.ofOption write) row, .one c)
  | .take n => do
    let (rows, c) ← takeRows write source n c
    return (.many rows, .one c)
  | .close => return (.nothing, .one c.close)
  | .isClosed => return (.flag c.closed, .one c)
  | .describe => return (.text c.text, .one c)
  | .collect => do
    let result ← Cursor.collect source manyRows c
    return (.ofExcept (fun rows => .many (rows.map write)) result, .none)
  | .stream => do
    return (.many ((← Cursor.stream source manyRows c).map (.ofExcept write)), .none)
  | .split => do
    match ← c.split source with
    | .error failure => return (.failure failure, .none)
    | .ok cs => return (.texts (cs.map Cursor.text), .parts cs)

end CursorCall

/-- The names after a call on a cursor. Part `i` of a cursor `x` is named `x.i`. -/
def Names.leave {α β : Type} (names : Names β) (name : String) (make : Cursor α → β) :
    Remains α → Names β
  | .one c => names.put name (make c)
  | .none => names.drop name
  | .parts cs =>
    cs.zipIdx.foldl (fun names (c, i) => names.put (name ++ "." ++ i.repr) (make c))
      (names.drop name)

/-- Rows to be read, the number that is claimed, and the queries that fail. -/
structure RowScript where
  rows : List Json.Value
  claim : Nat
  failFetches : List Nat
  failCounts : List Nat

/-- The queries that were made. `pages` are the fetches of the last step. -/
structure Queries where
  counts : Nat
  fetches : Nat
  pages : List (Nat × Nat)

namespace RowScript

/-- The rows of a script as a source. -/
def source (s : RowScript) : Source (StateM Queries) Json.Value where
  count := do
    modify fun q => { q with counts := q.counts + 1 }
    let n := (← get).counts
    return if n ∈ s.failCounts then .error (.store ("count " ++ n.repr ++ " failed"))
      else .ok s.claim
  fetch offset limit := do
    modify fun q => { q with fetches := q.fetches + 1, pages := q.pages ++ [(offset, limit)] }
    let n := (← get).fetches
    return if n ∈ s.failFetches then .error (.store ("fetch " ++ n.repr ++ " failed"))
      else .ok ((s.rows.drop offset).take limit)

/-- The answers of calls on named cursors, with the queries made up to then. -/
def run (s : RowScript) :
    List (String × CursorCall) → Names (Cursor Json.Value) → Queries → List (Answer × Queries)
  | [], _, _ => []
  | (name, call) :: rest, cursors, q =>
    let q := { q with pages := [] }
    match cursors.lookup name with
    | none => (.absent "NoCursor", q) :: run s rest cursors q
    | some c =>
      let ((answer, remains), q) := (call.run .value s.source c).run q
      (answer, q) :: run s rest (cursors.leave name id remains) q

end RowScript

end TaskQueue
