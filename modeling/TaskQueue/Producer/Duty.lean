import TaskQueue.Engine.Activity
import TaskQueue.Producer
import TaskQueue.Schedule

/-!
What goes on in a producer: connections are accepted, and each session is read from, written to, and
supplied with the tasks that it asks for, side by side.

Commands of a session are handled one after the other. Work that is reported done counts as done,
whoever holds the task; a task is given up only by the session that holds it, or if nobody does. A
session that breaks the protocol is told so before it ends. When a session ends, each task that it
held is tried again.
-/

namespace TaskQueue

/-- What a producer works with. -/
structure Service where
  engine : Engine
  network : Network
  producer : Producer

/-- Something that goes on in a producer. -/
inductive Duty
  | accepting
  | reading (s : SessionId)
  /-- A command waits for the engine, and is followed by the next one. -/
  | settling (s : SessionId) (call : Call Bool)
  /-- Finding out which of some tasks are running. -/
  | looking (s : SessionId) (left found : List TaskId)
  /-- The session has to end. -/
  | leaving (s : SessionId)
  /-- Tasks that a session held are tried again, one after the other. -/
  | returning (s : SessionId) (call : Call Bool) (left : List TaskId)
  /-- The session has given up all that it held. -/
  | parting (s : SessionId)
  | selecting (s : SessionId) (acquirer : Acquirer)
  | delivering (s : SessionId) (task : Task)
  /-- A task that could not be handed out is tried again. -/
  | handingBack (call : Call Bool)
  | writing (s : SessionId)

namespace Service

/-- The task of an identifier, if it is running. -/
def isRunning (v : Service) (id : TaskId) : Except Failure Bool :=
  let stored : Except Failure (Option Task) :=
    (v.engine.store.run none (Program.request (.get id))).1
  stored.map fun task => task.any fun task => task.state = .running

/-- The connection of a session. -/
def connectionOf (v : Service) (s : SessionId) : Option ConnectionId :=
  v.producer.sessions[s]?.map Session.connection

/-- The next frame from a session. -/
def read (v : Service) (s : SessionId) : Reading × Service :=
  match v.connectionOf s with
  | some id =>
    let (reading, network) := v.network.read id .listener v.producer.frameLimit
    (reading, { v with network })
  | none => (.exhausted, v)

/-- A frame is written to a session, unless it is too long or the write fails. -/
def write (v : Service) (s : SessionId) (body : List UInt8) : Option Service := do
  let id ← v.connectionOf s
  let bytes ← Frame.pack v.producer.frameLimit body
  let network ← v.network.write id .listener bytes
  return { v with network }

/-- Nothing more is written to a session. -/
def mute (v : Service) (s : SessionId) : Service :=
  { v with
    network := ((v.connectionOf s).map (v.network.finish · .listener)).getD v.network
    producer := v.producer.mute s }

/-- Nothing more is read from a session. -/
def ignore (v : Service) (s : SessionId) : Service :=
  { v with network := ((v.connectionOf s).map (v.network.abandon · .listener)).getD v.network }

end Service

namespace Duty

/-- The duty of trying tasks again that a session held. -/
def giveBack (s : SessionId) : List TaskId → Duty
  | [] => .parting s
  | id :: left => .returning s (.starting (.cancel id true)) left

/-- A session gives a task up: what follows, and the producer after it. -/
def settle (p : Producer) (s : SessionId) (id : TaskId) (requeue : Bool) : Producer × Duty :=
  let (released, p) := p.release s id
  (p, if released then .settling s (.starting (.cancel id requeue)) else .reading s)

/-- A command of a session. `wall` is what the clock on the wall shows. -/
def obey (wall : UInt64) (v : Service) (s : SessionId) : Command → Turn Service Duty
  | .ready =>
    ⟨v, some (.reading s), [.selecting s (.begin v.engine none)]⟩
  | .ack id =>
    let (_, producer) := v.producer.release s id
    .next { v with producer } (.settling s (.starting (.acknowledge wall id)))
  | .nack id requeue =>
    let (producer, duty) := settle v.producer s id requeue
    .next { v with producer } duty
  | .error id =>
    let (producer, duty) := settle v.producer s id false
    .next { v with producer } duty
  | .recover ids => .next v (.looking s ids [])

/-- A frame from a session. -/
def take (wall : UInt64) (v : Service) (s : SessionId) (body : List UInt8) : Turn Service Duty :=
  match Command.decode body with
  | .ok command => obey wall v s command
  | .error failure =>
    let producer := (v.producer.post s (.error failure.message)).getD v.producer
    .next { v with producer } (.leaving s)

/-- A step of a call, with what follows when it is over. -/
def proceed (now : Nat) (v : Service) (call : Call Bool) (wait : Call Bool → Duty)
    (done : Turn Service Duty) : Option (Turn Service Duty) :=
  if call.result?.isSome then some done
  else (call.step now v.engine).map fun (engine, call) => .next { v with engine } (wait call)

/-- The next step of a duty at a point in time, if it does not have to wait. -/
def step (wall : UInt64) (now : Nat) (v : Service) : Duty → Option (Turn Service Duty)
  | .accepting =>
    if v.producer.shutdown then
      some (.last { v with network := v.network.unlisten v.producer.address })
    else
      (v.network.accept v.producer.address).map fun (id, network) =>
        let (s, producer) := v.producer.welcome id
        ⟨{ v with network, producer }, some .accepting, [.reading s, .writing s]⟩
  | .reading s =>
    if v.producer.isEnding s then some (.next v (.leaving s))
    else
      match v.read s with
      | (.frame body, v) => some (take wall v s body)
      | (.exhausted, v) => some (.next v (.leaving s))
      | (.nothing, _) => none
  | .settling s call => proceed now v call (.settling s) (.next v (.reading s))
  | .looking s [] found =>
    some (.next { v with producer := v.producer.claim s found } (.reading s))
  | .looking s (id :: left) found =>
    some <| .next v <|
      match v.isRunning id with
      | .ok true => .looking s left (found ++ [id])
      | .ok false => .looking s left found
      | .error _ => .reading s
  | .leaving s =>
    let (held, producer) := v.producer.close s
    some (.next { v with producer } (giveBack s held))
  | .returning s call left => proceed now v call (.returning s · left) (.next v (giveBack s left))
  | .parting s =>
    let v := v.ignore s
    some (.last { v with producer := v.producer.forget })
  | .selecting s acquirer =>
    let acquirer := if v.producer.isEnding s then acquirer.cancel else acquirer
    match acquirer.result? with
    | some (.ok (some task)) => some (.next v (.delivering s task))
    | some _ => some (.last v)
    | none =>
      (acquirer.step now wall v.engine).map fun (engine, acquirer) =>
        .next { v with engine } (.selecting s acquirer)
  | .delivering s task =>
    match v.producer.deliver s task with
    | (.sent, producer) => some (.last { v with producer })
    | (.refused, producer) =>
      some (.next { v with producer } (.handingBack (.starting (.cancel task.id true))))
  | .handingBack call => proceed now v call .handingBack (.last v)
  | .writing s =>
    match v.producer.nextMessage s with
    | some (body, producer) =>
      let v := { v with producer }
      match v.write s body with
      | some v => some (.next v (.writing s))
      | none => some (.last (v.mute s))
    | none => if v.producer.isEnding s then some (.last (v.mute s)) else none

/-- The point in time that a duty waits for. -/
def timer : Duty → Option Nat
  | .settling _ call => call.timer
  | .returning _ call _ => call.timer
  | .selecting _ acquirer => acquirer.timer
  | .handingBack call => call.timer
  | _ => none

end Duty

end TaskQueue
