import TaskQueue.Script.Engine

/-!
Scripts of a producer with clients that speak to it in bytes, and of an owner who starts and stops
producers and runs consumers of its own.
-/

namespace TaskQueue

/-- Something done by a client with a name. -/
inductive ClientStep
  /-- A new connection; an older client of the name hangs up. -/
  | connect (name : String)
  | send (name : String) (bytes : List UInt8)
  | hangUp (name : String)

/-- Something done with a producer. -/
inductive ProducerStep
  | client (s : ClientStep)
  | close
  | isClosed
  /-- The producer is left alone, and another one takes its place. -/
  | rebind
  | engine (s : EngineStep)

/-- Something done by an owner. -/
inductive OwnerStep
  | client (s : ClientStep)
  | start
  | stop
  | shutDown
  /-- The owner leaves, and another one comes. -/
  | restart
  /-- A consumer works until nothing is left, or it has seen enough tasks. -/
  | consume (enough : Option Nat)
  | engine (s : EngineStep)

/-- A client: its connection, and whether it was told that the connection ended. -/
structure Client where
  connection : ConnectionId
  told : Bool

/-- What a client received, and whether its connection ended now. -/
structure Received where
  client : String
  frames : List (List UInt8)
  closed : Bool

/-- A site with clients. Calls reach nobody unless the site is `reachable`. -/
structure Scene where
  run : EngineRun
  clients : Names Client
  reachable : Bool
  settings : ProducerSettings

/-- What a step led to, when everything is at rest. -/
structure SceneReport where
  answer : Answer
  received : List Received
  site : Site

/-- More bytes than any frame of a script has. -/
def longFrame : Nat := 4294967296

/-- All frames that a party can read from a connection, whether nothing more will come, and the
network after that. -/
def Network.drain (party : Party) (id : ConnectionId) :
    Nat → Network → List (List UInt8) × Bool × Network
  | 0, net => ([], false, net)
  | bound + 1, net =>
    match net.read id party longFrame with
    | (.frame body, net) =>
      let (bodies, ended, net) := drain party id bound net
      (body :: bodies, ended, net)
    | (.exhausted, net) => ([], true, net)
    | (.nothing, net) => ([], false, net)

namespace Scene

/-- The site of a scene. -/
def site (sc : Scene) : Site :=
  sc.run.site

/-- The scene with another site. -/
def withSite (sc : Scene) (site : Site) : Scene :=
  { sc with run := { sc.run with site } }

/-- The answer of a step that leaves another site. -/
def ofSite (sc : Scene) (r : Answer × Site) : Answer × Scene :=
  (r.1, sc.withSite r.2)

/-! ## Clients -/

/-- A client leaves, if there is one of the name. -/
def hangUp (sc : Scene) (name : String) : Scene :=
  match sc.clients.lookup name with
  | some client =>
    { sc.withSite (sc.site.onNetwork (·.hangUp client.connection .caller)) with
      clients := sc.clients.drop name }
  | none => sc

/-- A client calls an address. -/
def connect (sc : Scene) (name : String) (address : Option Address) : Answer × Scene :=
  let sc := sc.hangUp name
  match address with
  | none => (.flag false, sc)
  | some address =>
    match sc.reachable, sc.site.state.network.dial address with
    | true, (.connected id, net) =>
      (.flag true, { sc.withSite (sc.site.onNetwork fun _ => net) with
        clients := sc.clients.put name ⟨id, false⟩ })
    | _, _ => (.flag false, sc)

/-- Something done by a client; connections are made to `address`. -/
def clientStep (sc : Scene) (address : Option Address) : ClientStep → Answer × Scene
  | .connect name => sc.connect name address
  | .send name bytes =>
    match sc.clients.lookup name with
    | some client =>
      let write (net : Network) : Network := (net.write client.connection .caller bytes).getD net
      (.nothing, sc.withSite (sc.site.onNetwork write))
    | none => (.absent "NoClient", sc)
  | .hangUp name =>
    if (sc.clients.lookup name).isSome then (.nothing, sc.hangUp name) else (.absent "NoClient", sc)

/-- What clients received. -/
def collect : Names Client → Network → List Received × Names Client × Network
  | [], net => ([], [], net)
  | (name, client) :: rest, net =>
    let (frames, ended, net) := net.drain .caller client.connection manySteps
    let (others, clients, net) := collect rest net
    (⟨name, frames, ended && !client.told⟩ :: others,
      (name, { client with told := client.told || ended }) :: clients, net)

/-- What a step led to, when everything is at rest. -/
def report (wall : UInt64) (r : Answer × Scene) : SceneReport × Scene :=
  let site := r.2.site.settle wall
  let (received, clients, net) := collect r.2.clients site.state.network
  let site := site.onNetwork fun _ => net
  (⟨r.1, received, site⟩, { r.2.withSite site with clients })

/-- Something done with the engine. -/
def engineStep (wall : UInt64) (sc : Scene) (s : EngineStep) : Answer × Scene :=
  let (answer, run) := sc.run.step wall s
  (answer, { sc with run })

/-- What the steps of a script lead to. -/
def runAll {σ : Type} (wall : UInt64) (step : Scene → σ → Answer × Scene) :
    List σ → Scene → List SceneReport
  | [], _ => []
  | s :: rest, sc =>
    let (report, sc) := report wall (step sc s)
    report :: runAll wall step rest sc

/-! ## A producer -/

/-- One more producer takes calls. -/
def bind (sc : Scene) : Scene :=
  match sc.site.state.bind sc.settings with
  | some (p, state) =>
    let site : Site := { sc.site with state }
    sc.withSite (site.withJobs [.duty p .accepting])
  | none => sc

/-- A scene with a producer. -/
def serving (wall : UInt64) (engine : Engine) (settings : ProducerSettings) (reachable : Bool) :
    Scene :=
  let sc : Scene := bind ⟨⟨.new engine [], []⟩, [], reachable, settings⟩
  sc.withSite (sc.site.settle wall)

/-- The number of the newest producer. -/
def newest (sc : Scene) : Nat :=
  sc.site.state.producers.length - 1

/-- The newest producer. -/
def producer? (site : Site) : Option Producer :=
  site.state.producers.getLast?

/-- The scene after its producer was told to stop. -/
def halt (sc : Scene) : Scene :=
  sc.withSite { sc.site with state := sc.site.state.halt sc.newest }

/-- The answer of a step of a producer, and all that it leaves. -/
def producerStep (wall : UInt64) (sc : Scene) : ProducerStep → Answer × Scene
  | .client s => sc.clientStep ((producer? sc.site).map Producer.address) s
  | .close =>
    let sc := sc.halt
    sc.ofSite (sc.site.await wall (.errand Site.front (.stopping sc.newest false)))
  | .isClosed => (.flag ((producer? sc.site).any Producer.shutdown), sc)
  | .rebind => (.nothing, sc.halt.bind)
  | .engine s => sc.engineStep wall s

/-! ## An owner -/

/-- The producer that the owner started. -/
def served? (site : Site) : Option Producer := do
  site.state.producers[← site.state.serving]?

/-- An owner who does not serve yet. -/
def owned (settings : Settings) (reachable : Bool) : Scene :=
  ⟨⟨.new (.new settings.store settings.engine) [], []⟩, [], reachable, settings.producer⟩

/-- What the consumers of an owner do about a task: its payload tells how often it is given back, or
that it fails. -/
def reactionTo (t : Task) : Reaction :=
  let finish : Reaction := .prompt [.ack t.id, .ready] .done
  match t.payload.get? "fail", t.payload.get? "give_back" with
  | some (.bool true), _ => .prompt [.ready] .failed
  | _, some (.integer n) =>
    if (t.attempts.toNat : Int) < n then .prompt [.nack t.id true, .ready] .done else finish
  | _, _ => finish

/-- How long a consumer works at most, in milliseconds. -/
def patience : Nat := 10000

/-- Whether a site has neither queued nor running tasks. -/
def isIdle (site : Site) : Bool :=
  let contents := site.store.committed
  contents.count .queued .all + contents.count .running .all = 0

/-- A consumer works for an owner. -/
def consume (wall : UInt64) (site : Site) (address : Address) (enough : Option Nat) :
    Answer × Site :=
  let c := site.state.consumers.length
  let settings := { Settings.testing.consumer with hostAddress := address, retryInterval := 0 }
  let handled (w : Site) : List TaskId := (w.state.consumers[c]?).elim [] Consumer.handled
  let site : Site := { site with state := site.state.addConsumer (.new settings reactionTo) }
  match site.finish wall (.work c Site.front .connecting) with
  | (some (.work _ _ (.connected (.ok ()))), site) =>
    let done (w : Site) : Bool := isIdle w || enough.any (· ≤ (handled w).length)
    let site : Site :=
      site.runUntil (Site.system wall) manySteps (some (site.now + patience)) done manySteps
    let (_, site) := site.finish wall (.work c Site.front .closing)
    (.consumed .nothing (handled site), site)
  | (job, site) => (.consumed (.ofOption Job.answer job) [], site)

/-- The answer of an errand of the owner. -/
def errand (wall : UInt64) (sc : Scene) (r : Errand × Deployment) : Answer × Scene :=
  let site : Site := { sc.site with state := r.2 }
  sc.ofSite (site.await wall (.errand Site.front r.1))

/-- The answer of a step of an owner, and all that it leaves. -/
def ownerStep (wall : UInt64) (sc : Scene) : OwnerStep → Answer × Scene
  | .client s => sc.clientStep ((served? sc.site).map Producer.address) s
  | .start => sc.errand wall (sc.site.state.start sc.settings, sc.site.state)
  | .stop => sc.errand wall sc.site.state.stop
  | .shutDown => sc.errand wall sc.site.state.shutDown
  | .restart => (.nothing, sc.withSite { sc.site with state := sc.site.state.leave })
  | .consume enough =>
    match served? sc.site with
    | some producer =>
      let address := if sc.reachable then producer.address else ""
      sc.ofSite (consume wall sc.site address enough)
    | none => (.absent "NoAddress", sc)
  | .engine s => sc.engineStep wall s

end Scene

end TaskQueue
