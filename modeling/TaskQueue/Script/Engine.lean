import TaskQueue.Deployment
import TaskQueue.Script.Store

/-!
Scripts of an engine, with activities in the background.

A step that has to wait lets time go on as far as it has to. After each step everything goes on
until it has to wait.
-/

namespace TaskQueue

/-- Something done with an engine. Waiters are those who acquire in the background. -/
inductive EngineStep
  | submit (task : Task)
  | submitAll (tasks : List Task)
  | tryAcquire
  | acquire
  | acquireWithin (ms : Nat)
  | acknowledge (id : TaskId)
  | cancel (id : TaskId) (requeue : Bool)
  | requeueAll
  | cancelByReference (reference : String)
  | size
  | setRateLimit (tag : String) (limit : Int)
  | pollInterval
  | close
  | observe (observer : Observer)
  | forgetObservers
  | signal
  | startAcquire (name : String) (ms : Option Nat)
  | cancelAcquire (name : String)
  | join (name : String)
  | advance (ms : Nat)
  /-- A call on the store below the engine. -/
  | store (isolated : Bool) (call : StoreCall)
  | begin
  | commit
  | rollback
  | change (script : ChangeScript)
  | dump

namespace EngineStep

/-- A program that runs outside sections, as an operation. -/
def below (p : Program Answer) : Operation Answer :=
  ⟨false, ExceptT.mk do return .ok (← p, .quiet)⟩

/-- The operation of a step that is one. -/
def operation? (settings : CursorSettings) (rows : Nat) (wall : UInt64) :
    EngineStep → Option (Operation Answer)
  | .submit task => some ((Operation.submit task).map .id)
  | .submitAll tasks => some ((Operation.submitAll tasks).map .ids)
  | .tryAcquire => some ((Operation.acquire settings rows wall).map .task)
  | .acknowledge id => some ((Operation.acknowledge wall id).map .flag)
  | .cancel id requeue => some ((Operation.cancel id requeue).map .flag)
  | .requeueAll => some ((Operation.requeueAll settings rows).map .nat)
  | .cancelByReference reference => some ((Operation.cancelByReference reference).map .nat)
  | .size => some (Operation.size.map .nat)
  | .setRateLimit tag limit => some ((Operation.setRateLimit tag limit).map .ofUnit)
  | .store false call => some (below (call.run settings))
  | _ => none

end EngineStep

/-- A deployment on the clock. -/
abbrev Site := World Deployment (Job Answer)

/-- More steps than any script leads to. -/
def manySteps : Nat := 100000

namespace Site

/-- An engine with empty hands, at the beginning of time. -/
def new (engine : Engine) (silent : List Address) : Site :=
  ⟨0, .new engine (.new silent), []⟩

/-- How a site goes on; `wall` is what the clock on the wall shows. -/
abbrev system (wall : UInt64) : System Deployment (Job Answer) :=
  Deployment.system Answer wall

/-- The site at rest. -/
def settle (wall : UInt64) (w : Site) : Site :=
  w.rest (system wall) manySteps

/-- The site at rest, some time later. -/
def sleep (wall : UInt64) (ms : Nat) (w : Site) : Site :=
  w.sleepUntil (system wall) manySteps manySteps (w.now + ms)

/-- The job of a name. -/
def find (w : Site) (name : String) : Option (Job Answer) :=
  w.processes.find? (·.name = name)

/-- The site without the job of a name. -/
def without (w : Site) (name : String) : Site :=
  { w with processes := w.processes.filter (·.name ≠ name) }

/-- The site with jobs at the end of the row. -/
def withJobs (w : Site) (jobs : List (Job Answer)) : Site :=
  { w with processes := w.processes ++ jobs }

/-- The site with a change to its engine. -/
def onEngine (f : Engine → Engine) (w : Site) : Site :=
  { w with state := { w.state with engine := f w.state.engine } }

/-- The site with a change to its store. -/
def onStore (f : Store → Store) (w : Site) : Site :=
  w.onEngine fun e => { e with store := f e.store }

/-- The site with a change to its network. -/
def onNetwork (f : Network → Network) (w : Site) : Site :=
  { w with state := { w.state with network := f w.state.network } }

/-- The store of a site. -/
def store (w : Site) : Store :=
  w.state.engine.store

/-- What is in the store. A section that is still open is given up. -/
def final (w : Site) : Answer :=
  w.store.rollback.dump

/-- The name of the job that a step waits for. -/
def front : String := "front"

/-- A job run until nobody has to wait for it any more. -/
def finish (wall : UInt64) (job : Job Answer) (w : Site) : Option (Job Answer) × Site :=
  let isOver (w : Site) : Bool := (w.find front).all Job.isOver
  let w : Site := (w.withJobs [job]).runUntil (system wall) manySteps none isOver manySteps
  (w.find front, w.without front)

end Site

/-- The answer of a job that is over. -/
def Job.answer : Job Answer → Answer
  | .activity _ (.call c) => .ofExcept id (c.result?.getD (.error .closed))
  | .activity _ (.acquire a) => .ofExcept .task (a.result?.getD (.error .closed))
  | .work _ _ (.connected result) => .ofExcept .ofUnit result
  | .errand _ (.finished result) => .ofExcept .ofUnit result
  | _ => .nothing

namespace Site

/-- The answer of a job that a step waits for. -/
def await (wall : UInt64) (job : Job Answer) (w : Site) : Answer × Site :=
  let (job, w) := w.finish wall job
  (.ofOption Job.answer job, w)

/-- The answer of an operation of the engine. -/
def perform (wall : UInt64) (op : Operation Answer) (w : Site) : Answer × Site :=
  w.await wall (.activity front (.call (.starting op)))

/-- An operation that only waits for its section. -/
def waitOnly : Operation Answer :=
  ⟨true, return (.nothing, .quiet)⟩

/-- Something done with the open section. -/
def inSection (w : Site) (f : Store → Store) : Answer × Site :=
  if w.store.free then (.absent "NoSection", w) else (.nothing, w.onStore f)

/-- The name of the job of a waiter. -/
def waiter (name : String) : String :=
  "waiter " ++ name

/-- The job of someone who acquires, within some time if that is given. -/
def acquirer (w : Site) (name : String) (ms : Option Nat) : Job Answer :=
  .activity name (.acquire (.begin w.state.engine (ms.map (w.now + ·))))

/-- A waiter is to give up. -/
def cancelWaiter (w : Site) (name : String) : Site :=
  let cancel : Job Answer → Job Answer
    | .activity other (.acquire a) =>
      .activity other (.acquire (if other = waiter name then a.cancel else a))
    | job => job
  { w with processes := w.processes.map cancel }

/-- The answer of a step that is no operation, and the site after it. -/
def otherStep (wall : UInt64) (w : Site) : EngineStep → Answer × Site
  | .acquire =>
    match w.finish wall (w.acquirer front none) with
    | (some (.activity _ (.acquire a)), w) =>
      (.ofExcept (.task ∘ some) (Acquirer.demand (a.result?.getD (.error .closed))), w)
    | (_, w) => (.nothing, w)
  | .acquireWithin ms => w.await wall (w.acquirer front (some ms))
  | .pollInterval => (.nat w.state.engine.settings.acquirePollInterval.toNat, w)
  | .close => (.nothing, w.onEngine Engine.close)
  | .observe observer => (.nothing, w.onEngine (·.observe observer))
  | .forgetObservers => (.nothing, w.onEngine Engine.forgetObservers)
  | .signal => (.nothing, w.onStore Store.signal)
  | .startAcquire name ms =>
    (.nothing, (w.without (waiter name)).withJobs [w.acquirer (waiter name) ms])
  | .cancelAcquire name =>
    if (w.find (waiter name)).isSome then (.nothing, w.cancelWaiter name)
    else (.absent "NoWaiter", w)
  | .join name =>
    match w.find (waiter name) with
    | some job =>
      if job.isOver then (job.answer, w.without (waiter name)) else (.text "waiting", w)
    | none => (.absent "NoWaiter", w)
  | .advance ms => (.nothing, w.sleep wall ms)
  | .store _ call =>
    match w.store.viewOf true with
    | some view =>
      let (answer, store) := w.store.run view (call.run w.store.settings.cursor)
      (answer, w.onStore fun _ => store)
    | none => (.absent "NoSection", w)
  | .begin =>
    if w.store.free then (.nothing, w.onStore fun s => s.opening.2) else w.perform wall waitOnly
  | .commit => w.inSection Store.commit
  | .rollback => w.inSection Store.rollback
  | .change script =>
    if w.store.free then
      let (result, store) := w.store.change script
      (result.answer, w.onStore fun _ => store)
    else
      let (answer, w) := w.perform wall waitOnly
      (.change answer [], w)
  | .dump => (w.store.dump, w)
  | _ => (.nothing, w)

/-- The answer of a step, and the site after it. -/
def step (wall : UInt64) (w : Site) (s : EngineStep) : Answer × Site :=
  match s.operation? w.store.settings.cursor w.state.engine.rows wall with
  | some op => w.perform wall op
  | none => w.otherStep wall s

end Site

/-- A script of an engine: the site, and the names of all waiters that were ever started. -/
structure EngineRun where
  site : Site
  started : List String

namespace EngineRun

/-- The answer of a step, and all that it leaves. A waiter that is gone can still be cancelled. -/
def step (wall : UInt64) (r : EngineRun) : EngineStep → Answer × EngineRun
  | .startAcquire name ms =>
    let (answer, site) := r.site.step wall (.startAcquire name ms)
    (answer, ⟨site, name :: r.started⟩)
  | .cancelAcquire name =>
    let (answer, site) := r.site.step wall (.cancelAcquire name)
    (if name ∈ r.started then .nothing else answer, { r with site })
  | s =>
    let (answer, site) := r.site.step wall s
    (answer, { r with site })

/-- The answers of some steps with what observers were told at each of them, and all that they
leave. -/
def run (wall : UInt64) : List EngineStep → EngineRun → List (Answer × List Notice) × EngineRun
  | [], r => ([], r)
  | s :: rest, r =>
    let before := r.site.state.engine.notices.length
    let (answer, r) := r.step wall s
    let r := { r with site := r.site.settle wall }
    let heard := r.site.state.engine.notices.drop before
    let (answers, r) := run wall rest r
    ((answer, heard) :: answers, r)

end EngineRun

end TaskQueue
