import TaskQueue.Network
import TaskQueue.Settings
import TaskQueue.Wire.Command

/-!
A consumer: what it knows of its connection, and how it reports over it.

Commands that cannot be sent wait in a buffer, in the order in which they were given. Over a new
connection the consumer first claims again the tasks that it works on, then sends the buffered
commands, and then asks for a task. A connection that fails on the way loses nothing: what was not
sent stays in the buffer, and the tasks are claimed again the next time.
-/

namespace TaskQueue

/-- What a consumer is doing. -/
inductive ConsumerState
  | disconnected
  | connecting
  | ready
  | busy
  | recovering
  deriving DecidableEq, Repr

namespace ConsumerState

/-- The name of a state. -/
def name : ConsumerState → String
  | .disconnected => "Disconnected"
  | .connecting => "Connecting"
  | .ready => "Ready"
  | .busy => "Busy"
  | .recovering => "Recovering"

end ConsumerState

/-- How the work on a task ends. -/
inductive Verdict
  | done
  | failed
  /-- Not before the work is released. -/
  | held
  deriving DecidableEq, Repr

/-- What is done about a task: after `effort` milliseconds, commands that are given one after the
other, and the end. -/
structure Reaction where
  effort : Nat
  commands : List Command
  verdict : Verdict

/-- What is done about a task at once. -/
def Reaction.prompt (commands : List Command) (verdict : Verdict) : Reaction :=
  ⟨0, commands, verdict⟩

/-- A consumer.

`link` is the connection that commands are sent over, and `generation` its number among all
connections of the consumer. `reading` are the generations whose reader was not told to stop.
`active` are the tasks that were received and not settled. `lifetime` grows with each connect after
a close, and is `ended` by a close. -/
structure Consumer where
  settings : ConsumerSettings
  handler : Task → Reaction
  state : ConsumerState
  link : Option ConnectionId
  buffer : List Command
  generation : Nat
  reading : List Nat
  active : List TaskId
  inFlight : Nat
  reconnecting : Bool
  lifetime : Nat
  ended : Bool
  /-- The number of works that a close waits for. -/
  busy : Nat
  /-- How often held work was released. -/
  releases : Nat
  /-- All tasks that were given to the handler. -/
  handled : List TaskId

namespace Consumer

/-- A consumer that is not connected. -/
def new (settings : ConsumerSettings) (handler : Task → Reaction) : Consumer :=
  { settings, handler, state := .disconnected, link := none, buffer := [], generation := 0
    reading := [], active := [], inFlight := 0, reconnecting := false, lifetime := 0, ended := false
    busy := 0, releases := 0, handled := [] }

/-- The longest frame that is read and written. -/
def frameLimit (c : Consumer) : Nat :=
  c.settings.maxFrameLength.toNat

/-- Whether a lifetime goes on. -/
def isAlive (c : Consumer) (lifetime : Nat) : Bool :=
  c.lifetime == lifetime && !c.ended

/-- What a consumer is doing while it has a connection. -/
def connectedState (c : Consumer) : ConsumerState :=
  if 0 < c.inFlight then .busy else .ready

/-! ## The connection -/

/-- Whether a connect is refused because there is a connection, or one is being made. -/
def isRunning (c : Consumer) : Bool :=
  c.link.isSome || c.reconnecting

/-- The consumer at the start of a connect. -/
def start (c : Consumer) : Consumer :=
  if c.ended then { c with state := .connecting, lifetime := c.lifetime + 1, ended := false }
  else { c with state := .connecting }

/-- The connection cannot be used any more, and its reader is told to stop. -/
def unlink (c : Consumer) : Consumer :=
  { c with link := none, reading := c.reading.filter (· ≠ c.generation) }

/-- A new connection to send over, after a handshake. -/
def install (c : Consumer) (id : ConnectionId) : Consumer :=
  { c with
    link := some id
    generation := c.generation + 1
    reading := (c.generation + 1) :: c.reading
    state := c.connectedState }

/-- The consumer after it was told to close. -/
def stop (c : Consumer) : Consumer :=
  { c with link := none, reading := [], ended := true }

/-! ## Commands and tasks -/

/-- A command was sent: the task that it settles is not worked on any more. -/
def sent (c : Consumer) (command : Command) : Consumer :=
  match command.settles with
  | some id => { c with active := c.active.filter (· ≠ id) }
  | none => c

/-- A command waits for the next connection. -/
def postpone (c : Consumer) (command : Command) : Consumer :=
  { c with buffer := c.buffer ++ [command] }

/-- A task arrived. -/
def receive (c : Consumer) (id : TaskId) : Consumer :=
  { c with
    active := if id ∈ c.active then c.active else c.active ++ [id]
    inFlight := c.inFlight + 1
    state := .busy }

/-- The handler is given a task. -/
def handle (c : Consumer) (task : Task) : Reaction × Consumer :=
  (c.handler task, { c with handled := c.handled ++ [task.id] })

/-- The work on a task has ended. -/
def finish (c : Consumer) : Consumer :=
  let c := { c with inFlight := c.inFlight - 1 }
  if c.inFlight = 0 ∧ c.state = .busy then { c with state := .ready } else c

/-! ## The handshake -/

/-- The first frame of a handshake claims the tasks that the consumer works on, if there are any. -/
def claims (c : Consumer) : List Command :=
  if c.active.isEmpty then [] else [.recover c.active]

/-- Commands sent in order, as far as that works: what was not sent, and the state of the line.
Every buffered request for a task folds into the one that ends the handshake, so it is not sent. -/
def replay {σ : Type} (write : σ → Command → Option σ) : σ → List Command → List Command × σ
  | line, [] => ([], line)
  | line, command :: rest =>
    if command = .ready then replay write line rest
    else
      match write line command with
      | some line => replay write line rest
      | none => (command :: rest, line)

/-- The failure of a handshake of which a frame could not be written. -/
def unwritten : Failure :=
  .transport "Write to producer failed"

/-- A handshake over a line: how it ends, and the consumer and the line after it. -/
def handshake {σ : Type} (write : σ → Command → Option σ) (c : Consumer) (line : σ) :
    Except Failure Unit × Consumer × σ :=
  match c.claims.foldlM write line with
  | none => (.error unwritten, c, line)
  | some line =>
    match replay write line c.buffer with
    | ([], line) =>
      match write line .ready with
      | some line => (.ok (), { c with buffer := [], active := [] }, line)
      | none => (.error unwritten, { c with buffer := [] }, line)
    | (buffer, line) => (.error unwritten, { c with buffer }, line)

end Consumer

end TaskQueue
