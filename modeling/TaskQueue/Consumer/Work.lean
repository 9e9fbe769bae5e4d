import TaskQueue.Consumer
import TaskQueue.Schedule

/-!
What goes on in a consumer: connecting, reconnecting, reading from the connection, working on tasks,
and looking now and then whether the connection is still there.
-/

namespace TaskQueue

/-- A consumer and the network that it is part of. -/
structure Outpost where
  network : Network
  consumer : Consumer

/-- How far an attempt to get a lost connection back has come. -/
inductive Retry
  | opening
  /-- Waiting, up to a point in time, for an answer. -/
  | dialling (limit : Nat)
  /-- Waiting for the next attempt. -/
  | pausing (limit : Nat)

/-- Something that goes on in a consumer. -/
inductive Work
  | connecting
  /-- Waiting, up to a point in time, for an answer. -/
  | dialling (lifetime limit : Nat)
  /-- A connect that is over. -/
  | connected (result : Except Failure Unit)
  | retrying (lifetime : Nat) (stage : Retry)
  | reading (connection : ConnectionId) (generation : Nat)
  | arriving (task : Task)
  /-- Working on a task up to a point in time, since some held work had been released. -/
  | handling (id : TaskId) (reaction : Reaction) (releases limit : Nat)
  /-- Reporting on a task. -/
  | reporting (id : TaskId) (commands : List Command) (verdict : Verdict) (releases : Nat)
  /-- Looking after the connection, the next time at a point in time. -/
  | watching (lifetime limit : Nat)
  | closing
  /-- Closing, and waiting for what has to end. -/
  | draining

namespace Outpost

/-- A command is written to a connection, unless it is too long or the write fails. -/
def write (id : ConnectionId) (limit : Nat) (network : Network) (command : Command) :
    Option Network := do
  network.write id .caller (← Frame.pack limit command.encode)

/-- The connection cannot be used any more. -/
def unlink (o : Outpost) : Outpost :=
  { network := (o.consumer.link.map (o.network.finish · .caller)).getD o.network
    consumer := o.consumer.unlink }

/-- The consumer tries to get its connection back, unless it was closed, is trying already, or is
not to try. -/
def reconnect (o : Outpost) : Outpost × List Work :=
  let c := o.consumer
  if c.ended then (o, [])
  else if c.settings.retryInterval = 0 then
    ({ o with consumer := { c with state := .disconnected } }, [])
  else if c.reconnecting then (o, [])
  else
    ({ o with consumer := { c with reconnecting := true, state := .recovering } },
      [.retrying c.lifetime .opening])

/-- A command waits for the next connection, if it may. -/
def postpone (o : Outpost) (command : Command) : Except Failure Bool × Outpost × List Work :=
  if command.isBufferable then
    let (o, works) := reconnect { o with consumer := o.consumer.postpone command }
    (.ok false, o, works)
  else (.error .closed, o, [])

/-- A command is given: whether it was sent at once. -/
def send (o : Outpost) (command : Command) : Except Failure Bool × Outpost × List Work :=
  match o.consumer.link with
  | none => o.postpone command
  | some id =>
    match write id o.consumer.frameLimit o.network command with
    | some network => (.ok true, ⟨network, o.consumer.sent command⟩, [])
    | none => o.unlink.postpone command

/-- The end of an attempt to open a connection. -/
inductive Opening
  | opened (o : Outpost) (reader : Work)
  | failed (o : Outpost) (failure : Failure)
  /-- No answer yet. -/
  | silence
  /-- The consumer was closed. -/
  | ended

/-- The failure of a call that the producer refuses. -/
def refused (o : Outpost) : Failure :=
  .transport ("Could not connect to " ++ o.consumer.settings.hostAddress)

/-- The failure of a call that the producer does not answer in time. -/
def unanswered (o : Outpost) : Failure :=
  .transport ("Timed out connecting to " ++ o.consumer.settings.hostAddress)

/-- The consumer calls the producer, and brings it up to date. -/
def openLink (o : Outpost) (lifetime : Nat) : Opening :=
  let c := o.consumer
  if !c.isAlive lifetime then .ended
  else
    match o.network.dial c.settings.hostAddress with
    | (.silence, _) => .silence
    | (.refused, _) => .failed o o.refused
    | (.connected id, network) =>
      match c.handshake (write id c.frameLimit) network with
      | (.error failure, consumer, network) =>
        .failed ⟨network.hangUp id .caller, consumer⟩ failure
      | (.ok (), consumer, network) =>
        let network := (consumer.link.map (network.finish · .caller)).getD network
        let consumer := consumer.install id
        .opened ⟨network, consumer⟩ (.reading id consumer.generation)

/-- The reader of a connection finds that nothing more comes. -/
def lose (o : Outpost) (generation : Nat) : Outpost × List Work :=
  reconnect (if o.consumer.generation = generation then o.unlink else o)

end Outpost

namespace Work

/-- Whether a close waits for a work. -/
def isAwaited : Work → Bool
  | .retrying _ _ => true
  | .reading _ _ => true
  | .watching _ _ => true
  | _ => false

/-- A connect that failed. -/
def refuse (o : Outpost) (failure : Failure) : Turn Outpost Work :=
  .next { o with consumer := { o.consumer with state := .disconnected } }
    (.connected (.error failure))

/-- No more attempts to get the connection back. -/
def settle (o : Outpost) : Outpost :=
  { o with consumer := { o.consumer with reconnecting := false } }

/-- The next step of an attempt to get the connection back. -/
def retry (now : Nat) (o : Outpost) (lifetime : Nat) : Retry → Option (Turn Outpost Work)
  | .opening =>
    some (.next { o with consumer := { o.consumer with state := .recovering } }
      (.retrying lifetime (.dialling (now + o.consumer.settings.connectTimeout.toNat))))
  | .dialling limit =>
    let pause : Work :=
      .retrying lifetime (.pausing (now + o.consumer.settings.retryInterval.toNat))
    match o.openLink lifetime with
    | .opened o reader => some ⟨settle o, none, [reader]⟩
    | .failed o _ => some (.next o pause)
    | .silence => if limit ≤ now then some (.next o pause) else none
    | .ended => some (.last (settle o))
  | .pausing limit =>
    if !o.consumer.isAlive lifetime then some (.last (settle o))
    else if limit ≤ now then some (.next o (.retrying lifetime .opening))
    else none

/-- A frame from the producer. -/
def take (o : Outpost) (id : ConnectionId) (generation : Nat) (body : List UInt8) :
    Turn Outpost Work :=
  match Message.decode body with
  | .ok (.task task) =>
    ⟨{ o with consumer := o.consumer.receive task.id }, some (.reading id generation),
      [.arriving task]⟩
  | _ =>
    let (o, works) := o.lose generation
    ⟨{ o with network := o.network.abandon id .caller }, none, works⟩

/-- The work on a task has ended. -/
def finish (o : Outpost) : Turn Outpost Work :=
  .last { o with consumer := o.consumer.finish }

/-- The next step of a work at a point in time, if it does not have to wait. -/
def step (now : Nat) (o : Outpost) : Work → Option (Turn Outpost Work)
  | .connecting =>
    if o.consumer.isRunning then some (.next o (.connected (.error .alreadyRunning)))
    else
      let c := o.consumer.start
      some (.next { o with consumer := c }
        (.dialling c.lifetime (now + c.settings.connectTimeout.toNat)))
  | .dialling lifetime limit =>
    match o.openLink lifetime with
    | .opened o reader =>
      some ⟨o, some (.connected (.ok ())), [reader, .watching lifetime now]⟩
    | .failed o failure => some (refuse o failure)
    | .silence => if limit ≤ now then some (refuse o o.unanswered) else none
    | .ended => some (refuse o .closed)
  | .connected _ => none
  | .retrying lifetime stage => retry now o lifetime stage
  | .reading id generation =>
    if generation ∉ o.consumer.reading then
      some (.last { o with network := o.network.abandon id .caller })
    else
      match o.network.read id .caller o.consumer.frameLimit with
      | (.frame body, network) => some (take { o with network } id generation body)
      | (.exhausted, network) =>
        let (o, works) := Outpost.lose { o with network } generation
        some ⟨{ o with network := o.network.abandon id .caller }, none, works⟩
      | (.nothing, _) => none
  | .arriving task =>
    let (reaction, consumer) := o.consumer.handle task
    some (.next { o with consumer }
      (.handling task.id reaction consumer.releases (now + reaction.effort)))
  | .handling id reaction releases limit =>
    if limit ≤ now then
      some (.next o (.reporting id reaction.commands reaction.verdict releases))
    else none
  | .reporting id (command :: rest) verdict releases =>
    let (_, o, works) := o.send command
    some ⟨o, some (.reporting id rest verdict releases), works⟩
  | .reporting _ [] .done _ => some (finish o)
  | .reporting id [] .failed releases =>
    some (.next o (.reporting id [.nack id false] .done releases))
  | .reporting _ [] .held releases =>
    if releases < o.consumer.releases then some (finish o) else none
  | .watching lifetime limit =>
    let interval := o.consumer.settings.livenessInterval.toNat
    if o.consumer.settings.retryInterval = 0 || interval = 0 || !o.consumer.isAlive lifetime then
      some (.last o)
    else if limit ≤ now then
      let (o, works) := if o.consumer.isRunning then (o, []) else o.reconnect
      some ⟨o, some (.watching lifetime (now + interval)), works⟩
    else none
  | .closing =>
    let network := (o.consumer.link.map (o.network.finish · .caller)).getD o.network
    some (.next ⟨network, o.consumer.stop⟩ .draining)
  | .draining =>
    if o.consumer.busy = 0 then
      some (.last { o with consumer := { o.consumer with state := .disconnected } })
    else none

/-- The point in time that a work waits for. -/
def timer : Work → Option Nat
  | .dialling _ limit => some limit
  | .retrying _ (.dialling limit) => some limit
  | .retrying _ (.pausing limit) => some limit
  | .handling _ _ _ limit => some limit
  | .watching _ limit => some limit
  | _ => none

end Work

end TaskQueue
