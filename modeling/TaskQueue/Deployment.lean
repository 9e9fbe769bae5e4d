import TaskQueue.Consumer.Work
import TaskQueue.Producer.Duty

/-!
An engine that is served over a network: producers, consumers, and whoever runs them, under one
clock.

At most one producer serves at a time on behalf of the owner. Before it starts, all tasks that an
earlier one left running go back into the queue. The owner stops it by ending its sessions and
waiting for all that they still have to do.
-/

namespace TaskQueue

/-- An engine, a network, and the producers and consumers on it. `serving` is the number of the
producer that its owner started. -/
structure Deployment where
  engine : Engine
  network : Network
  producers : List Producer
  consumers : List Consumer
  serving : Option Nat

/-- What an owner waits for. -/
inductive Errand
  /-- Tasks go back into the queue before a producer starts. -/
  | starting (settings : ProducerSettings) (call : Call Nat)
  /-- All duties of a producer that was stopped have to end, and then perhaps the store is closed.
  -/
  | stopping (producer : Nat) (closeStore : Bool)
  | finished (result : Except Failure Unit)

/-- Something that goes on in a deployment. Someone waits for jobs that have a name. -/
inductive Job (α : Type)
  | activity (name : String) (activity : Activity α)
  | duty (producer : Nat) (duty : Duty)
  | work (consumer : Nat) (name : String) (work : Work)
  | errand (name : String) (errand : Errand)

namespace Deployment

variable {α : Type}

/-- An engine that nobody serves. -/
def new (engine : Engine) (network : Network) : Deployment :=
  ⟨engine, network, [], [], none⟩

/-! ## Producers -/

/-- A new producer, and its number. -/
def bind (d : Deployment) (settings : ProducerSettings) : Option (Nat × Deployment) := do
  let (address, network) ← d.network.bind settings.bindAddress
  let producer := { Producer.new settings address with busy := 1 }
  return (d.producers.length, { d with network, producers := d.producers ++ [producer] })

/-- A producer is told to stop. -/
def halt (d : Deployment) (p : Nat) : Deployment :=
  { d with producers := d.producers.modify p Producer.stop }

/-- Whether all duties of a producer have ended. -/
def isIdle (d : Deployment) (p : Nat) : Bool :=
  (d.producers[p]?).all fun producer => producer.busy = 0

/-- The owner starts to serve. -/
def start (d : Deployment) (settings : ProducerSettings) : Errand :=
  if d.serving.isSome then .finished (.error .alreadyRunning)
  else .starting settings (.starting (.requeueAll d.engine.store.settings.cursor d.engine.rows))

/-- The owner stops to serve. -/
def stop (d : Deployment) : Errand × Deployment :=
  match d.serving with
  | some p => (.stopping p false, { d.halt p with serving := none })
  | none => (.finished (.error .notRunning), d)

/-- The owner stops to serve, if it does, and closes the store. -/
def shutDown (d : Deployment) : Errand × Deployment :=
  match d.serving with
  | some p => (.stopping p true, { d.halt p with serving := none })
  | none => (.finished (.ok ()), { d with engine := d.engine.close })

/-- The owner leaves without waiting for anything. -/
def leave (d : Deployment) : Deployment :=
  match d.serving with
  | some p => { d.halt p with serving := none }
  | none => d

/-! ## Consumers -/

/-- One more consumer. -/
def addConsumer (d : Deployment) (consumer : Consumer) : Deployment :=
  { d with consumers := d.consumers ++ [consumer] }

/-- The deployment with the network and a consumer as they are now. `awaited` works have begun, and
`ended` have ended. -/
def withOutpost (d : Deployment) (c : Nat) (o : Outpost) (begun ended : List Work) : Deployment :=
  let count (works : List Work) : Nat := (works.filter Work.isAwaited).length
  let consumer := { o.consumer with busy := o.consumer.busy + count begun - count ended }
  { d with network := o.network, consumers := d.consumers.set c consumer }

/-- A command is given to a consumer. -/
def send (d : Deployment) (c : Nat) (command : Command) :
    Except Failure Bool × Deployment × List (Job α) :=
  match d.consumers[c]? with
  | some consumer =>
    let (result, o, works) := Outpost.send ⟨d.network, consumer⟩ command
    (result, d.withOutpost c o works [], works.map (.work c ""))
  | none => (.error .closed, d, [])

/-! ## Steps -/

/-- The next step of an activity of the engine. -/
def stepActivity (wall : UInt64) (now : Nat) (d : Deployment) (name : String) (a : Activity α) :
    Option (Turn Deployment (Job α)) :=
  (a.step wall now d.engine).map fun (engine, a) => .next { d with engine } (.activity name a)

/-- The next step of a duty of a producer. -/
def stepDuty (wall : UInt64) (now : Nat) (d : Deployment) (p : Nat) (duty : Duty) :
    Option (Turn Deployment (Job α)) := do
  let producer ← d.producers[p]?
  let turn ← duty.step wall now ⟨d.engine, d.network, producer⟩
  let v := turn.state
  let ended := if turn.self.isNone then 1 else 0
  let producer := { v.producer with busy := v.producer.busy + turn.started.length - ended }
  return ⟨{ d with
      engine := v.engine, network := v.network, producers := d.producers.set p producer },
    turn.self.map (.duty p), turn.started.map (.duty p)⟩

/-- The next step of a work of a consumer. -/
def stepWork (now : Nat) (d : Deployment) (c : Nat) (name : String) (work : Work) :
    Option (Turn Deployment (Job α)) := do
  let consumer ← d.consumers[c]?
  let turn ← work.step now ⟨d.network, consumer⟩
  let ended := if turn.self.isNone then [work] else []
  return ⟨d.withOutpost c turn.state turn.started ended,
    turn.self.map (.work c name), turn.started.map (.work c "")⟩

/-- The next step of an errand. -/
def stepErrand (now : Nat) (d : Deployment) (name : String) :
    Errand → Option (Turn Deployment (Job α))
  | .starting settings call =>
    match call.result? with
    | some (.ok _) =>
      match d.bind settings with
      | some (p, d) =>
        some ⟨{ d with serving := some p }, some (.errand name (.finished (.ok ()))),
          [.duty p .accepting]⟩
      | none =>
        let failure : Failure := .transport ("Could not bind " ++ settings.bindAddress)
        some (.next d (.errand name (.finished (.error failure))))
    | some (.error failure) => some (.next d (.errand name (.finished (.error failure))))
    | none =>
      (call.step now d.engine).map fun (engine, call) =>
        .next { d with engine } (.errand name (.starting settings call))
  | .stopping p closeStore =>
    if d.isIdle p then
      let d := if closeStore then { d with engine := d.engine.close } else d
      some (.next d (.errand name (.finished (.ok ()))))
    else none
  | .finished _ => none

/-- How everything in a deployment goes on. `wall` is what the clock on the wall shows. -/
def system (α : Type) (wall : UInt64) : System Deployment (Job α) where
  step now d
    | .activity name a => d.stepActivity wall now name a
    | .duty p duty => d.stepDuty wall now p duty
    | .work c name work => d.stepWork now c name work
    | .errand name errand => d.stepErrand now name errand
  timer _
    | .activity _ a => a.timer
    | .duty _ duty => duty.timer
    | .work _ _ work => work.timer
    | .errand _ (.starting _ call) => call.timer
    | .errand _ _ => none

end Deployment

namespace Job

variable {α : Type}

/-- The name of a job. -/
def name : Job α → String
  | .activity name _ => name
  | .work _ name _ => name
  | .errand name _ => name
  | .duty _ _ => ""

/-- Whether whoever waits for a job can go on. -/
def isOver : Job α → Bool
  | .activity _ a => a.isOver
  | .work _ _ (.connected _) => true
  | .errand _ (.finished _) => true
  | _ => false

end Job

end TaskQueue
