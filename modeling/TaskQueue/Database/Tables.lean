import TaskQueue.Database.Statement
import TaskQueue.Store.Contents

/-!
The tables behind a store in a relational database, and the clauses that select from them.

All names start with one base name, which holds only ASCII letters, digits and underscores, so it
can stand between quotes as it is.
-/

namespace TaskQueue.Database

/-- The tables of a store. -/
structure Tables where
  base : String
  deriving DecidableEq, Repr

namespace Tables

/-- Whether a character may stand in a base name. -/
def allows (c : Char) : Bool :=
  c.isAlphanum || c == '_'

/-- The tables of a base name. -/
def of? (base : String) : Except Failure Tables :=
  if !base.isEmpty && base.toList.all allows then .ok ⟨base⟩
  else .error (.configuration ("invalid table name '" ++ base ++ "'"))

/-- A name between quotes. -/
def quote (name : String) : String :=
  "\"" ++ name ++ "\""

/-- The table of tasks. -/
def tasks (t : Tables) : String := quote t.base

/-- The table of the tags of tasks. -/
def tags (t : Tables) : String := quote (t.base ++ "_tags")

/-- The table of rate limits. -/
def rateLimits (t : Tables) : String := quote (t.base ++ "_ratelimits")

/-- The table of retry limits. -/
def retryLimits (t : Tables) : String := quote (t.base ++ "_retrylimits")

/-- The table of durations. -/
def estimates (t : Tables) : String := quote (t.base ++ "_estimates")

/-- The channel on which changes are made known. -/
def channel (t : Tables) : String := t.base ++ "_event"

/-- The names of all tables in a row, those that refer to others first. -/
def all (t : Tables) : String :=
  ", ".intercalate [t.tags, t.tasks, t.rateLimits, t.retryLimits, t.estimates]

/-! ## Making and emptying tables -/

/-- The lines that make the tables and their indexes if they are missing. -/
def schemaLines (t : Tables) : List String :=
  let index (suffix : String) := quote (t.base ++ suffix)
  ["CREATE TABLE IF NOT EXISTS " ++ t.tasks ++ " (",
    "    id UUID PRIMARY KEY,",
    "    content JSONB NOT NULL,",
    "    state INTEGER NOT NULL,",
    "    priority INTEGER NOT NULL,",
    "    task_type TEXT NOT NULL,",
    "    task_group TEXT,",
    "    reference_id TEXT,",
    "    created BIGINT NOT NULL,",
    "    task_order BIGSERIAL",
    ");",
    "",
    "CREATE INDEX IF NOT EXISTS " ++ index "_dispatch_idx",
    "    ON " ++ t.tasks ++ " (state, priority DESC, created ASC, task_order ASC);",
    "",
    "CREATE INDEX IF NOT EXISTS " ++ index "_reference_idx" ++ " ON " ++ t.tasks ++
      " (reference_id);",
    "",
    "CREATE TABLE IF NOT EXISTS " ++ t.tags ++ " (",
    "    id UUID NOT NULL REFERENCES " ++ t.tasks ++ " (id) ON DELETE CASCADE,",
    "    tag TEXT NOT NULL,",
    "    PRIMARY KEY (id, tag)",
    ");",
    "",
    "CREATE INDEX IF NOT EXISTS " ++ index "_tags_tag_idx" ++ " ON " ++ t.tags ++ " (tag);",
    "",
    "CREATE TABLE IF NOT EXISTS " ++ t.rateLimits ++ " (",
    "    tag TEXT PRIMARY KEY,",
    "    \"limit\" INTEGER NOT NULL",
    ");",
    "",
    "CREATE TABLE IF NOT EXISTS " ++ t.retryLimits ++ " (",
    "    tag TEXT PRIMARY KEY,",
    "    \"limit\" INTEGER NOT NULL",
    ");",
    "",
    "CREATE TABLE IF NOT EXISTS " ++ t.estimates ++ " (",
    "    task_type TEXT NOT NULL,",
    "    duration BIGINT NOT NULL",
    ");",
    "",
    "CREATE INDEX IF NOT EXISTS " ++ index "_estimates_type_idx" ++ " ON " ++ t.estimates ++
      " (task_type);",
    ""]

/-- Make the tables if they are missing. -/
def create (t : Tables) : Statement :=
  .plain ("\n".intercalate t.schemaLines)

/-- Empty all tables. -/
def empty (t : Tables) : Statement :=
  .plain ("TRUNCATE " ++ t.all)

/-- Drop all tables. -/
def drop (t : Tables) : Statement :=
  .plain ("DROP TABLE IF EXISTS " ++ t.all)

/-! ## Changes -/

/-- Hear of changes from now on. -/
def listen (t : Tables) : Statement :=
  .plain ("LISTEN " ++ quote t.channel)

/-- Hear of changes again, on a new connection. -/
def listenAgain (t : Tables) : Statement :=
  .plain ("LISTEN " ++ quote t.channel ++ ";")

/-- Hear of nothing any more. -/
def unlisten : Statement :=
  .plain "UNLISTEN *"

/-- Make a change known. -/
def notify (t : Tables) : Statement :=
  .prepared "SELECT pg_notify($1, '')" [.text t.channel]

/-! ## Selecting tasks -/

/-- A condition with the texts that are bound to its parameters. -/
structure Condition where
  clause : String
  texts : List String

/-- The number of a state as it stands in a statement. -/
def code (state : TaskState) : String :=
  state.code.repr

/-- Tasks in a state. -/
def inState (state : TaskState) : Condition :=
  ⟨"state = " ++ code state, []⟩

/-- Tasks in a state, of one kind if a kind is given. -/
def ofKind (state : TaskState) : Option String → Condition
  | none => inState state
  | some kind => ⟨(inState state).clause ++ " AND task_type = $1", [kind]⟩

/-- Tasks in a state in a part of the queue. -/
def inScope (state : TaskState) : Scope → Condition
  | .all => inState state
  | .kind kind => ofKind state (some kind)
  | .group group => ⟨(inState state).clause ++ " AND task_group = $1", [group]⟩

/-- Running and queued tasks, with one tag if a tag is given. -/
def pending (t : Tables) (tag : Option String) : Condition :=
  let clause := "state IN (" ++ code .running ++ ", " ++ code .queued ++ ")"
  match tag with
  | none => ⟨clause, []⟩
  | some tag => ⟨clause ++ " AND id IN (SELECT id FROM " ++ t.tags ++ " WHERE tag = $1)", [tag]⟩

/-- The condition of a listing. -/
def condition (t : Tables) : Listing → Condition
  | .inState state kind => ofKind state kind
  | .pending tag => t.pending tag

/-- The columns that make a task. -/
def columns : String := "id, content, state, task_order"

/-- Dispatch order. -/
def dispatchOrder : String := "priority DESC, created ASC, task_order ASC"

/-- Dispatch order from its end. -/
def reverseOrder : String := "priority ASC, created DESC, task_order DESC"

/-- The order of a listing. -/
def order : Listing → String
  | .inState _ _ => dispatchOrder
  | .pending _ =>
    "CASE WHEN state = " ++ code .running ++ " THEN 0 ELSE 1 END, " ++ dispatchOrder

/-- The number of tasks that meet a condition. -/
def count (t : Tables) (c : Condition) : Statement :=
  .prepared ("SELECT COUNT(*) FROM " ++ t.tasks ++ " WHERE " ++ c.clause) (c.texts.map .text)

/-- A page of a listing. -/
def page (t : Tables) (listing : Listing) (offset limit : Nat) : Statement :=
  let c := t.condition listing
  let parameter (n : Nat) := "$" ++ (c.texts.length + n).repr
  .prepared
    ("SELECT " ++ columns ++ " FROM " ++ t.tasks ++ " WHERE " ++ c.clause ++ " ORDER BY " ++
      order listing ++ " OFFSET " ++ parameter 1 ++ " LIMIT " ++ parameter 2)
    (c.texts.map .text ++ [.ofWord offset, .ofWord limit])

/-- The task of an identifier. -/
def byId (t : Tables) (id : TaskId) : Statement :=
  .prepared ("SELECT " ++ columns ++ " FROM " ++ t.tasks ++ " WHERE id = $1") [.id id]

/-- The first task with a correlation key in an order. -/
def byReference (t : Tables) (reference order : String) : Statement :=
  .prepared
    ("SELECT " ++ columns ++ " FROM " ++ t.tasks ++ " WHERE reference_id = $1 ORDER BY " ++ order ++
      " LIMIT 1")
    [.text reference]

end Tables

end TaskQueue.Database
