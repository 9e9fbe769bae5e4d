import TaskQueue.Script.Producer

/-!
Scripts of a consumer against a server that the script plays.
-/

namespace TaskQueue

/-- Something done with a consumer, or by the server. -/
inductive ConsumerStep
  /-- The server listens; the step may wait until the consumer is in a certain state. -/
  | listen (wait : Option String)
  | unlisten
  /-- The server writes to the newest connection. -/
  | serverSend (bytes : List UInt8)
  /-- The server drops all connections. Then the consumer may at once report a task as done and ask
  for another one. -/
  | serverDrop (acknowledge : Option TaskId)
  | connect
  | startConnect
  | joinConnect
  | close
  | give (command : Command)
  /-- What is done about tasks from now on. -/
  | react (handler : Task → Reaction)
  | release
  | advance (ms : Nat)
  | describe

/-- A consumer and a server. `accepted` are the connections of the server that did not end, oldest
first. -/
structure Stage where
  site : Site
  accepted : List ConnectionId
  reachable : Bool

/-- What the server received, when everything is at rest: frames, and ends of connections. -/
inductive ServerEvent
  | frame (body : List UInt8)
  | closed

/-- What a step led to, when everything is at rest. `handled` are the tasks that were given to the
handler. -/
structure StageReport where
  answer : Answer
  consumer : Consumer
  events : List ServerEvent
  handled : List TaskId

namespace Stage

/-- The address of the server. -/
def home : Address := "127.0.0.1:7070"

/-- How long a step waits for a state of the consumer, in milliseconds. -/
def patience : Nat := 2000

/-- The name of a connect in the background. -/
def background : String := "connect"

/-- A consumer that is not connected. `silent` addresses answer nobody. -/
def new (consumer : Consumer) (silent : List Address) (reachable : Bool) : Stage :=
  let site := Site.new (.new .inMemory .standard) silent
  ⟨{ site with state := site.state.addConsumer consumer }, [], reachable⟩

/-- The consumer of a site. -/
def consumer (site : Site) : Consumer :=
  site.state.consumers.head?.getD (.new .standard fun _ => .prompt [] .done)

/-- The site with a change to its consumer. -/
def onConsumer (f : Consumer → Consumer) (site : Site) : Site :=
  { site with state := { site.state with consumers := site.state.consumers.modify 0 f } }

/-- The answer of a step that leaves another site. -/
def ofSite (st : Stage) (r : Answer × Site) : Answer × Stage :=
  (r.1, { st with site := r.2 })

/-- A command given to the consumer. -/
def give (st : Stage) (command : Command) : Answer × Stage :=
  let (result, state, jobs) := st.site.state.send 0 command
  let site : Site := { st.site with state }
  (.ofExcept .flag result, { st with site := site.withJobs jobs })

/-- The description of a consumer, from its state on. -/
def describe (c : Consumer) : String :=
  ", state: " ++ c.state.name ++ " \x7d"

/-- The answer of a step, and all that it leaves. -/
def step (wall : UInt64) (st : Stage) : ConsumerStep → Answer × Stage
  | .listen wait =>
    let site := if st.reachable then st.site.onNetwork (·.listen home) else st.site
    match wait with
    | none => st.ofSite (.nothing, site)
    | some name =>
      let reached (site : Site) : Bool := (consumer site).state.name = name
      let site :=
        site.runUntil (Site.system wall) manySteps (some (site.now + patience)) reached manySteps
      st.ofSite (.flag (reached site), site)
  | .unlisten => st.ofSite (.nothing, st.site.onNetwork (·.unlisten home))
  | .serverSend bytes =>
    match st.accepted.getLast? with
    | some id =>
      let write (net : Network) : Network := (net.write id .listener bytes).getD net
      st.ofSite (.nothing, st.site.onNetwork write)
    | none => (.absent "NoConnection", st)
  | .serverDrop acknowledge =>
    let drop (net : Network) : Network :=
      st.accepted.foldl (fun net id => net.hangUp id .listener) net
    let dropped := { st with site := st.site.onNetwork drop, accepted := [] }
    match acknowledge with
    | some id =>
      let (first, dropped) := dropped.give (.ack id)
      let (second, dropped) := dropped.give .ready
      (.many [first, second], dropped)
    | none => (.nat st.accepted.length, dropped)
  | .connect => st.ofSite (st.site.await wall (.work 0 Site.front .connecting))
  | .startConnect =>
    st.ofSite (.nothing,
      (st.site.without background).withJobs [.work 0 background .connecting])
  | .joinConnect =>
    match st.site.find background with
    | some job =>
      if job.isOver then st.ofSite (job.answer, st.site.without background)
      else (.text "waiting", st)
    | none => (.absent "NoWaiter", st)
  | .close => st.ofSite (st.site.await wall (.work 0 Site.front .closing))
  | .give command => st.give command
  | .react handler => st.ofSite (.nothing, onConsumer (fun c => { c with handler }) st.site)
  | .release =>
    st.ofSite (.nothing, onConsumer (fun c => { c with releases := c.releases + 1 }) st.site)
  | .advance ms => st.ofSite (.nothing, st.site.sleep wall ms)
  | .describe => (.text (describe (consumer st.site)), st)

/-- The connections of the server, with those that it accepts now. -/
def acceptAll : Nat → List ConnectionId → Network → List ConnectionId × Network
  | 0, ids, net => (ids, net)
  | bound + 1, ids, net =>
    match net.accept home with
    | some (id, net) => acceptAll bound (ids ++ [id]) net
    | none => (ids, net)

/-- What the server received, and its connections that did not end. It hangs up on the others. -/
def receive : List ConnectionId → Network → List ServerEvent × List ConnectionId × Network
  | [], net => ([], [], net)
  | id :: rest, net =>
    let (frames, ended, net) := net.drain .listener id manySteps
    let net := if ended then net.hangUp id .listener else net
    let (others, ids, net) := receive rest net
    (frames.map .frame ++ (if ended then [.closed] else []) ++ others,
      if ended then ids else id :: ids, net)

/-- What the steps of a script lead to. -/
def run (wall : UInt64) : List ConsumerStep → Stage → List StageReport
  | [], _ => []
  | s :: rest, st =>
    let before := (consumer st.site).handled.length
    let (answer, st) := st.step wall s
    let site := st.site.settle wall
    let (accepted, net) := acceptAll manySteps st.accepted site.state.network
    let (events, accepted, net) := receive accepted net
    let site := (site.onNetwork fun _ => net).settle wall
    let c := consumer site
    ⟨answer, c, events, c.handled.drop before⟩ :: run wall rest { st with site, accepted }

end Stage

end TaskQueue
