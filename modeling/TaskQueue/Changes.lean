/-!
Change notification between those who write to a store and those who wait for it.

A channel counts the changes published on it. A listener remembers the count it saw last, so a
change that is published between subscribing and waiting is not lost, and any number of changes
between two waits count as one.
-/

namespace TaskQueue

/-- How a wait for a change ended. -/
inductive ChangeEvent
  | signalled
  | timedOut
  | closed
  deriving DecidableEq, Repr

namespace ChangeEvent

/-- The name of an ending. -/
def name : ChangeEvent → String
  | .signalled => "Signalled"
  | .timedOut => "TimedOut"
  | .closed => "Closed"

end ChangeEvent

/-- A channel of changes. Nobody can publish on a dropped one. -/
structure Channel where
  version : Nat
  closed : Bool
  dropped : Bool
  deriving DecidableEq, Repr

/-- Someone who listens to a channel. -/
structure Listener where
  seen : Nat
  deriving DecidableEq, Repr

namespace Channel

/-- A channel on which nothing happened yet. -/
def new : Channel :=
  ⟨0, false, false⟩

/-- One more change. -/
def publish (channel : Channel) : Channel :=
  { channel with version := channel.version + 1 }

/-- No more waiting. -/
def close (channel : Channel) : Channel :=
  { channel with closed := true }

/-- No more publishing. -/
def drop (channel : Channel) : Channel :=
  { channel with dropped := true }

/-- A listener that has seen all changes up to now. -/
def subscribe (channel : Channel) : Listener :=
  ⟨channel.version⟩

end Channel

namespace Listener

/-- Whether there is a change that the listener has not seen. -/
def behind (listener : Listener) (channel : Channel) : Bool :=
  channel.version != listener.seen

/-- Whether an unseen change can still be reported. -/
def hasChanged (listener : Listener) (channel : Channel) : Bool :=
  !channel.dropped && listener.behind channel

/-- The endings that a wait which has begun may have now. -/
def endings (listener : Listener) (channel : Channel) (expired : Bool) : List ChangeEvent :=
  (if listener.behind channel then [.signalled]
    else if channel.dropped then [.closed] else []) ++
  (if channel.closed then [.closed] else []) ++
  (if expired then [.timedOut] else [])

/-- The listener after a wait: only a reported change counts as seen. -/
def after (listener : Listener) (channel : Channel) : ChangeEvent → Listener
  | .signalled => channel.subscribe
  | _ => listener

/-- The ending of a wait that starts now and may not wait at all. -/
def start (listener : Listener) (channel : Channel) : Option ChangeEvent :=
  if channel.closed then some .closed else (listener.endings channel false).head?

/-- The ending that a wait has now, if it ends now. -/
def resume (listener : Listener) (channel : Channel) (expired : Bool) : Option ChangeEvent :=
  (listener.endings channel expired).head?

end Listener

end TaskQueue
