import TaskQueue.Network
import TaskQueue.Settings
import TaskQueue.Table
import TaskQueue.Wire.Command

/-!
A producer: the sessions of its consumers, and who holds which task.

A task that was handed out is held by one session. A session that was closed holds nothing, and
nothing is given to it any more. Each function here is one step that nobody sees half done.
-/

namespace TaskQueue

/-- The number of a session. -/
abbrev SessionId := Nat

/-- A session. `outbox` are the messages that were not written yet. -/
structure Session where
  connection : ConnectionId
  closed : Bool
  outbox : List (List UInt8)
  /-- Someone writes the outbox to the connection. -/
  writing : Bool

/-- A producer. `connected` counts the sessions that were not given up, and `busy` the duties that
are not done. -/
structure Producer where
  settings : ProducerSettings
  address : Address
  sessions : List Session
  owners : Table TaskId SessionId
  connected : Nat
  busy : Nat
  shutdown : Bool

/-- What became of a task that was to be handed out. -/
inductive Delivery
  | sent
  /-- The consumer has left, or cannot be written to. -/
  | refused
  deriving DecidableEq

namespace Producer

/-- A producer without sessions. -/
def new (settings : ProducerSettings) (address : Address) : Producer :=
  ⟨settings, address, [], .empty, 0, 0, false⟩

/-- The longest frame that is read and written. -/
def frameLimit (p : Producer) : Nat :=
  p.settings.maxFrameLength.toNat

/-- The number of tasks that are held. -/
def heldCount (p : Producer) : Nat :=
  p.owners.size

/-! ## Sessions -/

/-- A session of a new connection, and its number. -/
def welcome (p : Producer) (connection : ConnectionId) : SessionId × Producer :=
  (p.sessions.length, { p with
    sessions := p.sessions ++ [⟨connection, false, [], true⟩]
    connected := p.connected + 1 })

/-- The producer with a change to one session. -/
def modify (p : Producer) (s : SessionId) (f : Session → Session) : Producer :=
  { p with sessions := p.sessions.modify s f }

/-- Whether a session is closed. One that never was counts as closed. -/
def isClosed (p : Producer) (s : SessionId) : Bool :=
  (p.sessions[s]?).all Session.closed

/-- Whether a session has to end. -/
def isEnding (p : Producer) (s : SessionId) : Bool :=
  p.shutdown || p.isClosed s

/-- No more sessions, and those that there are have to end. -/
def stop (p : Producer) : Producer :=
  { p with shutdown := true }

/-- A session was given up. -/
def forget (p : Producer) : Producer :=
  { p with connected := p.connected - 1 }

/-! ## Writing -/

/-- A message is to be written to a session, unless nobody writes to it any more. -/
def post (p : Producer) (s : SessionId) (message : Message) : Option Producer :=
  if (p.sessions[s]?).any Session.writing then
    some (p.modify s fun session => { session with outbox := session.outbox ++ [message.encode] })
  else none

/-- The first message that is to be written to a session. -/
def nextMessage (p : Producer) (s : SessionId) : Option (List UInt8 × Producer) := do
  let session ← p.sessions[s]?
  let body ← session.outbox.head?
  return (body, p.modify s fun session => { session with outbox := session.outbox.tail })

/-- Nobody writes to a session any more. -/
def mute (p : Producer) (s : SessionId) : Producer :=
  p.modify s fun session => { session with outbox := [], writing := false }

/-! ## Holding tasks -/

/-- A session gives a task up. Not if another session holds it. -/
def release (p : Producer) (s : SessionId) (id : TaskId) : Bool × Producer :=
  match p.owners.get? id with
  | some owner => if owner = s then (true, { p with owners := p.owners.erase id }) else (false, p)
  | none => (true, p)

/-- A session takes tasks that nobody holds. -/
def claim (p : Producer) (s : SessionId) (ids : List TaskId) : Producer :=
  if p.isClosed s then p
  else
    let take (owners : Table TaskId SessionId) (id : TaskId) :=
      if owners.contains id then owners else owners.insert id s
    { p with owners := ids.foldl take p.owners }

/-- A task is handed to a session, which holds it from now on. -/
def deliver (p : Producer) (s : SessionId) (task : Task) : Delivery × Producer :=
  if p.isClosed s then (.refused, p)
  else
    match p.post s (.task task) with
    | some p => (.sent, { p with owners := p.owners.insert task.id s })
    | none => (.refused, p)

/-- The tasks that a session holds. -/
def heldBy (p : Producer) (s : SessionId) : List TaskId :=
  (p.owners.entries.filter (·.2 = s)).map (·.1)

/-- A session is closed, and gives up all that it held. -/
def close (p : Producer) (s : SessionId) : List TaskId × Producer :=
  let held := p.heldBy s
  let p := p.modify s fun session => { session with closed := true }
  (held, { p with owners := held.foldl Table.erase p.owners })

end Producer

end TaskQueue
