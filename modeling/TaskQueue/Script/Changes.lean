import TaskQueue.Changes
import TaskQueue.Script.Answer

/-!
Scripts of one channel and those who listen to it, some of them in the background.
-/

namespace TaskQueue

/-- What is done with a channel, or with a listener that has a name. -/
inductive ChannelStep
  | publish (times : Nat)
  | subscribe (name : String)
  | close
  | isClosed
  | drop
  | hasChanged (name : String)
  | wait (name : String) (poll : Nat)
  /-- A wait in the background. -/
  | startWait (name : String) (poll : Nat)
  | join (name : String)
  | advance (ms : Nat)

/-- A listener of a script, which may wait in the background up to a point in time. -/
inductive Ear
  | idle (l : Listener)
  | waiting (l : Listener) (limit : Nat)
  | ended (l : Listener) (event : ChangeEvent)

/-- A channel, its listeners, and the time. -/
structure Hearing where
  now : Nat
  channel : Channel
  ears : Names Ear

namespace Hearing

/-- A channel that nobody listens to. -/
def new : Hearing :=
  ⟨0, .new, []⟩

/-- Every wait that can end ends. -/
def settle (h : Hearing) : Hearing :=
  { h with ears := h.ears.map fun (name, ear) =>
      match ear with
      | .waiting l limit =>
        match l.resume h.channel (limit ≤ h.now) with
        | some event => (name, .ended (l.after h.channel event) event)
        | none => (name, ear)
      | _ => (name, ear) }

/-- Something done with the channel, if it was not dropped. -/
def onChannel (h : Hearing) (result : Answer × Hearing) : Answer × Hearing :=
  if h.channel.dropped then (.absent "NoChannel", h) else result

/-- Something done with a listener that does not wait. -/
def onListener (h : Hearing) (name : String) (act : Listener → Answer × Hearing) :
    Answer × Hearing :=
  match h.ears.lookup name with
  | some (.idle l) => act l
  | _ => (.absent "NoListener", h)

/-- The answer of a step, and all that it leaves. -/
def step (h : Hearing) : ChannelStep → Answer × Hearing
  | .publish times =>
    h.onChannel (.nothing, { h with channel := times.repeat Channel.publish h.channel })
  | .subscribe name =>
    h.onChannel (.nothing, { h with ears := h.ears.put name (.idle h.channel.subscribe) })
  | .close => h.onChannel (.nothing, { h with channel := h.channel.close })
  | .isClosed => h.onChannel (.flag h.channel.closed, h)
  | .drop => h.onChannel (.nothing, { h with channel := h.channel.drop })
  | .hasChanged name => h.onListener name fun l => (.flag (l.hasChanged h.channel), h)
  | .wait name poll => h.onListener name fun l =>
    let (event, now) :=
      match l.start h.channel with
      | some event => (event, h.now)
      | none => (.timedOut, h.now + poll)
    (.text event.name, { h with now, ears := h.ears.put name (.idle (l.after h.channel event)) })
  | .startWait name poll => h.onListener name fun l =>
    let ear :=
      match l.start h.channel with
      | some event => .ended (l.after h.channel event) event
      | none => .waiting l (h.now + poll)
    (.nothing, { h with ears := h.ears.put name ear })
  | .join name =>
    match h.ears.lookup name with
    | some (.waiting _ _) => (.text "waiting", h)
    | some (.ended l event) => (.text event.name, { h with ears := h.ears.put name (.idle l) })
    | _ => (.absent "NoListener", h)
  | .advance ms => (.nothing, { h with now := h.now + ms })

/-- The answers of some steps. After each of them every wait that can end ends. -/
def run : List ChannelStep → Hearing → List Answer
  | [], _ => []
  | s :: rest, h =>
    let (answer, h) := h.step s
    answer :: run rest h.settle

end Hearing

end TaskQueue
