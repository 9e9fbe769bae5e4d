import TaskQueue.Failure
import TaskQueue.Settings

/-!
Cursors: rows read page by page, at absolute offsets, from a source that can count them and fetch
some of them.

A cursor holds no more than one page. A fetch that fails leaves it as it was, so the next call asks
for the same rows again. A cursor over many rows can be split into two or four, each over a part of
the offsets.
-/

namespace TaskQueue

/-- Something that rows can be read from. -/
structure Source (m : Type → Type) (α : Type) where
  count : m (Except Failure Nat)
  fetch (offset limit : Nat) : m (Except Failure (List α))

/-- A cursor. `range` is the part of the offsets that a part of a split cursor covers. -/
structure Cursor (α : Type) where
  settings : CursorSettings
  range : Option (Nat × Nat)
  size : Option Nat
  position : Nat
  buffer : List α
  exhausted : Bool
  closed : Bool
  deriving Repr

namespace Cursor

variable {m : Type → Type} [Monad m] {α : Type}

/-- A cursor over all rows. -/
def new (settings : CursorSettings) : Cursor α :=
  ⟨settings, none, none, 0, [], false, false⟩

/-- A cursor over the rows from `first` up to but not including `last`. -/
def between (settings : CursorSettings) (first last : Nat) : Cursor α :=
  ⟨settings, some (first, last), some (last - first), first, [], last ≤ first, false⟩

/-- The cursor without its rows and its source. -/
def close (c : Cursor α) : Cursor α :=
  { c with buffer := [], exhausted := true, closed := true }

/-! ## Reading -/

/-- What a cursor needs for its next row. -/
inductive Demand (α : Type)
  /-- The answer is known: a row, or the end. -/
  | answer (row : Option α) (rest : Cursor α)
  /-- A page has to be fetched first. -/
  | page (offset limit : Nat)

/-- The number of rows to ask for. -/
def limit (c : Cursor α) : Nat :=
  match c.range with
  | some (_, last) => min c.settings.pageSize.toNat (last - c.position)
  | none => c.settings.pageSize.toNat

/-- What the cursor needs for its next row. -/
def demand (c : Cursor α) : Demand α :=
  match c.buffer with
  | row :: rest => .answer (some row) { c with buffer := rest }
  | [] =>
    if c.exhausted then .answer none c.close
    else if c.closed then .answer none c
    else if c.limit = 0 then .answer none c.close
    else .page c.position c.limit

/-- Whether the cursor has reached the end of its range. -/
def atEnd (c : Cursor α) : Bool :=
  match c.range with
  | some (_, last) => last ≤ c.position
  | none => false

/-- The cursor with the page that it asked for. A short page is the last one. -/
def receive (c : Cursor α) (page : List α) : Cursor α :=
  let moved := { c with position := c.position + page.length, buffer := page }
  { moved with exhausted := c.exhausted || page.length < c.limit || moved.atEnd }

/-- The next row of a cursor that has a page, or the end. -/
def pop (c : Cursor α) : Option α × Cursor α :=
  match c.buffer with
  | row :: rest => (some row, { c with buffer := rest })
  | [] => (none, c.close)

/-- The next row, or none at the end. -/
def next (source : Source m α) (c : Cursor α) : m (Except Failure (Option α) × Cursor α) :=
  match c.demand with
  | .answer row rest => return (.ok row, rest)
  | .page offset limit => do
    match ← source.fetch offset limit with
    | .error failure => return (.error failure, c)
    | .ok page =>
      let (row, rest) := (c.receive page).pop
      return (.ok row, rest)

/-- All rows that are left, or the first failure. There are at most `bound` of them. -/
def collect (source : Source m α) : Nat → Cursor α → m (Except Failure (List α))
  | 0, _ => return .ok []
  | bound + 1, c => do
    match ← c.next source with
    | (.error failure, _) => return .error failure
    | (.ok none, _) => return .ok []
    | (.ok (some row), rest) => return (← collect source bound rest).map (row :: ·)

/-- The next item of a stream with the cursor that the stream goes on with, or none at its end. A
failure closes the cursor, so nothing comes after it. -/
def emit (source : Source m α) (c : Cursor α) : m (Option (Except Failure α × Cursor α)) := do
  match ← c.next source with
  | (.ok (some row), rest) => return some (.ok row, rest)
  | (.ok none, _) => return none
  | (.error failure, rest) => return some (.error failure, rest.close)

/-- The items of a stream one by one. There are at most `bound` of them. -/
def stream (source : Source m α) : Nat → Cursor α → m (List (Except Failure α))
  | 0, _ => return []
  | bound + 1, c => do
    match ← c.emit source with
    | none => return []
    | some (item, rest) => return item :: (← stream source bound rest)

/-- The number of rows that the cursor covers; a count that succeeds is remembered. -/
def measure (source : Source m α) (c : Cursor α) : m (Except Failure Nat × Cursor α) :=
  match c.size with
  | some n => return (.ok n, c)
  | none =>
    if c.closed then return (.ok 0, { c with size := some 0 })
    else do
      match ← source.count with
      | .error failure => return (.error failure, c)
      | .ok n => return (.ok n, { c with size := some n })

/-! ## Splitting -/

/-- Whether the cursor would be split. -/
def splits (source : Source m α) (c : Cursor α) : m (Except Failure Bool × Cursor α) := do
  if c.range.isSome || c.closed then return (.ok false, c)
  else
    let (size, c) ← c.measure source
    return (size.map fun n => c.settings.parallelThreshold.toNat ≤ n, c)

/-- The first offset that 64 bits do not hold. -/
def offsetLimit : Nat := UInt64.size

/-- The parts into which rows are divided. -/
def chunks (settings : CursorSettings) (total : Nat) : Nat :=
  if total ≤ settings.fourWayThreshold.toNat then 2 else 4

/-- The rows of each part but the last ones. -/
def chunkSize (settings : CursorSettings) (total : Nat) : Nat :=
  (total + chunks settings total - 1) / chunks settings total

/-- The offsets of the parts; an offset has to fit 64 bits before it is cut to the total. -/
def ranges (settings : CursorSettings) (total : Nat) : Except Failure (List (Nat × Nat)) :=
  let n := chunks settings total
  let size := chunkSize settings total
  if offsetLimit ≤ n * size then .error .overflow
  else
    .ok (((List.range n).map fun i => (i * size, min ((i + 1) * size) total)).filter
      fun r => r.1 < r.2)

/-- The parts of the cursor, or the cursor itself if there are too few rows. -/
def split (source : Source m α) (c : Cursor α) : m (Except Failure (List (Cursor α))) := do
  match ← c.splits source with
  | (.error failure, _) => return .error failure
  | (.ok false, c) => return .ok [c]
  | (.ok true, c) =>
    match ← c.measure source with
    | (.error failure, _) => return .error failure
    | (.ok total, c) =>
      return (ranges c.settings total).map fun rs => rs.map fun r => between c.settings r.1 r.2

/-- The rows read so far of each part, in the order of the parts. -/
abbrev Progress (α : Type) := List (Cursor α × List α × Bool)

/-- One round over the parts: each that is not done yet reads up to the end of its next page. -/
def round (source : Source m α) : Progress α → m (Except Failure (Progress α))
  | [] => return .ok []
  | (c, rows, true) :: rest => do
    return (← round source rest).map ((c, rows, true) :: ·)
  | (c, rows, false) :: rest => do
    match c.demand with
    | .answer _ _ => return (← round source rest).map ((c, rows, true) :: ·)
    | .page offset limit =>
      match ← source.fetch offset limit with
      | .error failure => return .error failure
      | .ok page =>
        let got := c.receive page
        return (← round source rest).map
          (({ got with buffer := [] }, rows ++ page, got.exhausted) :: ·)

/-- Rounds until all parts are done. -/
def rounds (source : Source m α) : Nat → Progress α → m (Except Failure (Progress α))
  | 0, parts => return .ok parts
  | bound + 1, parts => do
    if parts.all fun p => p.2.2 then return .ok parts
    else
      match ← round source parts with
      | .error failure => return .error failure
      | .ok parts => rounds source bound parts

/-- All rows of some cursors, which take turns page by page. -/
def collectParts (source : Source m α) (bound : Nat) (parts : List (Cursor α)) :
    m (Except Failure (List α)) := do
  let start := parts.map fun c => ({ c with buffer := [] }, c.buffer, false)
  return (← rounds source bound start).map fun parts => parts.flatMap fun p => p.2.1

/-! ## Text -/

/-- A number that may be missing. -/
def optionText : Option Nat → String
  | none => "None"
  | some n => "Some(" ++ n.repr ++ ")"

/-- A range that may be missing. -/
def rangeText : Option (Nat × Nat) → String
  | none => "None"
  | some (first, last) => "Some((" ++ first.repr ++ ", " ++ last.repr ++ "))"

/-- A description of the state of a cursor. -/
def text (c : Cursor α) : String :=
  "ChunkedCursor \x7b range: " ++ rangeText c.range ++ ", size: " ++ optionText c.size ++
    ", position: " ++ c.position.repr ++ ", buffered: " ++ c.buffer.length.repr ++
    ", exhausted: " ++ (if c.exhausted then "true" else "false") ++ " \x7d"

end Cursor

end TaskQueue
