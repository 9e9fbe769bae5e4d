import TaskQueue.Script.Producer

/-!
A script of a whole queue: an owner has four people greeted by two workers. Every other greeting has
a tag, and at most one task with that tag runs at a time.
-/

namespace TaskQueue

/-- Something that the script tells while it goes on. -/
inductive GreetingLine
  | listening (address : Address)
  | greeting (worker name message : String)
  | completed (worker name : String)
  | estimate (ms : Answer)
  | stopped

namespace GreetingLine

/-- The text of a line. -/
def text : GreetingLine → String
  | .listening address => "🔨 Anvil listening on " ++ address
  | .greeting worker name message => "👋 [" ++ worker ++ "] Hello " ++ name ++ ": " ++ message
  | .completed worker name => "✅ [" ++ worker ++ "] Task completed for " ++ name
  | .estimate (.number ms) =>
    "📊 All tasks done, estimated duration of 'hello': " ++ toString ms ++ "ms"
  | .estimate _ => "📊 All tasks done"
  | .stopped => "🔨 Anvil stopped"

/-- Whether a line tells that a greeting is over. -/
def isCompletion : GreetingLine → Bool
  | .completed _ _ => true
  | _ => false

end GreetingLine

namespace Greeting

/-- A scene that goes on until something fails. -/
abbrev Play :=
  StateT Scene (Except Failure)

/-- The names of the workers. -/
def workers : List String :=
  ["worker-1", "worker-2"]

/-- The people to greet. -/
def names : List String :=
  ["Ada", "Grace", "Linus", "Barbara"]

/-- A text of the payload of a task. -/
def textOf (key : String) (t : Task) : String :=
  match t.payload.get? key with
  | some (.string s) => s
  | _ => ""

/-- The task to greet someone: the later in the row, the more urgent. -/
def task (wall : UInt64) (name : String) (i : Nat) : Task :=
  let payload : Json.Value :=
    .ofMembers [("name", .string name), ("message", .string "Welcome to anvilq")]
  let t := Task.new (.ofNat (i + 1)) wall "hello" payload
  let t := t.withPriority (.ofNat i)
  if i % 2 = 0 then t.withTag "greeting" else t

/-- What a worker does about a task. -/
def reaction (t : Task) : Reaction :=
  ⟨500, [.ack t.id, .ready], .done⟩

/-- A step of the owner. -/
def owner (wall : UInt64) (s : OwnerStep) : Play Answer := fun sc =>
  match sc.ownerStep wall s with
  | (.failure f, _) => .error f
  | r => .ok r

/-- A work of a consumer, until nobody has to wait for it. -/
def await (wall : UInt64) (c : Nat) (work : Work) : Play Unit := fun sc =>
  match sc.site.finish wall (.work c Site.front work) with
  | (some (.work _ _ (.connected (.error f))), _) => .error f
  | (_, site) => .ok ((), sc.withSite site)

/-- The scene when nothing is left to do, which is looked after every 100 milliseconds. -/
def awaitIdle (wall : UInt64) : Nat → Scene → Scene
  | 0, sc => sc
  | bound + 1, sc =>
    if Scene.isIdle sc.site then sc else awaitIdle wall bound (sc.withSite (sc.site.sleep wall 100))

/-- The worker who was given a task. -/
def workerOf (site : Site) (id : TaskId) : String :=
  ((workers.zip site.state.consumers).find? fun (_, c) => id ∈ c.handled).elim "" (·.1)

/-- What an event of the engine means to a worker. -/
def line? (site : Site) (event : Event) : Option GreetingLine :=
  let t := event.task
  match event with
  | .acquired _ => some (.greeting (workerOf site t.id) (textOf "name" t) (textOf "message" t))
  | .done _ .completed => some (.completed (workerOf site t.id) (textOf "name" t))
  | _ => none

/-- All lines of the script. -/
def play (wall : UInt64) : Play (List GreetingLine) := do
  let settings := Settings.development.consumer
  let _ ← owner wall (.engine (.observe ⟨"greeting", fun _ => false⟩))
  let _ ← owner wall (.engine (.setRateLimit "greeting" 1))
  let _ ← owner wall .start
  let address := ((Scene.served? (← get).site).map Producer.address).getD ""
  let _ ← owner wall (.engine (.submitAll (names.mapIdx fun i name => task wall name i)))
  let consumer := Consumer.new { settings with hostAddress := address } reaction
  let addConsumers (site : Site) : Site :=
    { site with state := workers.foldl (fun d _ => d.addConsumer consumer) site.state }
  modify fun sc => sc.withSite (addConsumers sc.site)
  (List.range workers.length).forM (await wall · .connecting)
  modify (awaitIdle wall manySteps)
  let ms ← owner wall (.engine (.store false (.estimate "hello" 1)))
  (List.range workers.length).forM (await wall · .closing)
  let _ ← owner wall .shutDown
  let site := (← get).site
  let told := site.state.engine.notices.filterMap fun n => line? site n.event
  return [.listening address] ++ told ++ [.estimate ms, .stopped]

/-- The lines of the script on an engine of its own. -/
def run (wall : UInt64) : Except Failure (List GreetingLine) :=
  let settings := { Settings.development with producer := .bind "127.0.0.1:0" }
  ((play wall).run (.owned settings true)).map (·.1)

end Greeting

end TaskQueue
