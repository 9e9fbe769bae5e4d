import TaskQueue.Wire.Frame

/-!
Connections between the callers and the listeners of a network.

A connection is two pipes. What is written to a pipe whose reader is gone is lost; the writer only
learns of it by its next write, which fails.
-/

namespace TaskQueue

/-- One direction of a connection, with the bytes that were not read yet. -/
structure Pipe where
  bytes : List UInt8
  /-- Nothing more will be written. -/
  ended : Bool
  /-- Nobody reads any more. -/
  abandoned : Bool
  /-- Something was written after the reader had gone. -/
  broken : Bool

/-- What someone who reads frames from a pipe gets. -/
inductive Reading
  | nothing
  | frame (body : List UInt8)
  /-- No frame comes any more: the pipe ended, or a frame is longer than the limit. -/
  | exhausted
  deriving DecidableEq

namespace Pipe

/-- A pipe to which nothing was written. -/
def new : Pipe :=
  ⟨[], false, false, false⟩

/-- The pipe after a write, unless the write fails. -/
def write (pipe : Pipe) (bytes : List UInt8) : Option Pipe :=
  if pipe.ended || pipe.broken then none
  else if pipe.abandoned then some { pipe with broken := true }
  else some { pipe with bytes := pipe.bytes ++ bytes }

/-- The pipe after its writer is done. -/
def finish (pipe : Pipe) : Pipe :=
  { pipe with ended := true }

/-- The pipe after its reader is gone. -/
def abandon (pipe : Pipe) : Pipe :=
  { pipe with bytes := [], abandoned := true }

/-- The next frame, with the pipe after it was read. -/
def read (pipe : Pipe) (limit : Nat) : Reading × Pipe :=
  match Frame.split limit pipe.bytes with
  | .whole body rest => (.frame body, { pipe with bytes := rest })
  | .tooLong => (.exhausted, pipe)
  | .incomplete => (if pipe.ended then .exhausted else .nothing, pipe)

end Pipe

/-- A connection: what the caller writes, and what the listener writes. -/
structure Connection where
  fromCaller : Pipe
  fromListener : Pipe

/-- The number of a connection. -/
abbrev ConnectionId := Nat

/-- The two ends of a connection. -/
inductive Party
  | caller
  | listener
  deriving DecidableEq

namespace Connection

/-- The pipe that a party writes to. -/
def outOf (c : Connection) : Party → Pipe
  | .caller => c.fromCaller
  | .listener => c.fromListener

/-- The pipe that a party reads from. -/
def into (c : Connection) : Party → Pipe
  | .caller => c.fromListener
  | .listener => c.fromCaller

/-- The connection with another pipe for a party to write to. -/
def setOutOf (c : Connection) (pipe : Pipe) : Party → Connection
  | .caller => { c with fromCaller := pipe }
  | .listener => { c with fromListener := pipe }

/-- The connection with another pipe for a party to read from. -/
def setInto (c : Connection) (pipe : Pipe) : Party → Connection
  | .caller => { c with fromListener := pipe }
  | .listener => { c with fromCaller := pipe }

end Connection

/-- The address of a listener: a host, a colon and a port. -/
abbrev Address := String

namespace Address

/-- A number in decimal digits, at most `limit`. -/
def numberUpTo (limit : Nat) (digits : List Char) : Option Nat := do
  let n ← if digits.isEmpty || !digits.all Char.isDigit then none else (String.ofList digits).toNat?
  if n ≤ limit then some n else none

/-- The parts of a text between separators. -/
def parts (separator : Char) : List Char → List (List Char)
  | [] => [[]]
  | c :: rest =>
    if c = separator then [] :: parts separator rest
    else
      match parts separator rest with
      | first :: others => (c :: first) :: others
      | [] => [[c]]

/-- Whether someone can listen on a host: four numbers, numbers in brackets, or this machine. -/
def isHost (host : List Char) : Bool :=
  host = "localhost".toList ||
    (host.head? = some '[' && host.getLast? = some ']') ||
    ((parts '.' host).length = 4 && (parts '.' host).all fun part => (numberUpTo 255 part).isSome)

/-- The host and the port of an address on which someone can listen. -/
def split? (address : Address) : Option (String × Nat) :=
  let reversed := address.toList.reverse
  let host := (reversed.dropWhile (· ≠ ':')).tail.reverse
  let port := numberUpTo 65535 (reversed.takeWhile (· ≠ ':')).reverse
  if isHost host then port.map fun port => (String.ofList host, port) else none

/-- The address of a host and a port. -/
def join (host : String) (port : Nat) : Address :=
  host ++ ":" ++ port.repr

end Address

/-- Connections, the addresses on which someone listens, and the connections that were not accepted
yet. Addresses that are `silent` answer nobody. -/
structure Network where
  connections : List Connection
  listening : List Address
  waiting : List (Address × ConnectionId)
  silent : List Address
  /-- The port that is given next to someone who does not ask for a certain one. -/
  nextPort : Nat

/-- How a call ends, if it ends at once. -/
inductive Dialled
  | connected (id : ConnectionId)
  | refused
  | silence

namespace Network

/-- A network without connections. -/
def new (silent : List Address) : Network :=
  ⟨[], [], [], silent, 49152⟩

/-- Someone listens on an address. -/
def listen (net : Network) (address : Address) : Network :=
  { net with listening := address :: net.listening.filter (· ≠ address) }

/-- Someone listens on a free address, on any port if the port asked for is zero. -/
def bind (net : Network) (address : Address) : Option (Address × Network) := do
  let (host, port) ← address.split?
  let bound := .join host (if port = 0 then net.nextPort else port)
  if bound ∈ net.listening then none
  else
    let net := net.listen bound
    some (bound, { net with nextPort := if port = 0 then net.nextPort + 1 else net.nextPort })

/-- A call to an address. -/
def dial (net : Network) (address : Address) : Dialled × Network :=
  if address ∈ net.listening then
    let id := net.connections.length
    (.connected id, { net with
      connections := net.connections ++ [⟨.new, .new⟩]
      waiting := net.waiting ++ [(address, id)] })
  else (if address ∈ net.silent then .silence else .refused, net)

/-- The connection that has waited longest to be accepted on an address. -/
def accept (net : Network) (address : Address) : Option (ConnectionId × Network) :=
  match net.waiting.find? (·.1 = address) with
  | some entry => some (entry.2, { net with waiting := net.waiting.erase entry })
  | none => none

/-- The network with a change to one connection. -/
def modify (net : Network) (id : ConnectionId) (f : Connection → Connection) : Network :=
  { net with connections := net.connections.modify id f }

/-- A party writes to a connection; not if the write fails. -/
def write (net : Network) (id : ConnectionId) (party : Party) (bytes : List UInt8) :
    Option Network := do
  let c ← net.connections[id]?
  let pipe ← (c.outOf party).write bytes
  return net.modify id fun c => c.setOutOf pipe party

/-- A party writes nothing more to a connection. -/
def finish (net : Network) (id : ConnectionId) (party : Party) : Network :=
  net.modify id fun c => c.setOutOf (c.outOf party).finish party

/-- A party reads nothing more from a connection. -/
def abandon (net : Network) (id : ConnectionId) (party : Party) : Network :=
  net.modify id fun c => c.setInto (c.into party).abandon party

/-- A party leaves a connection. -/
def hangUp (net : Network) (id : ConnectionId) (party : Party) : Network :=
  (net.finish id party).abandon id party

/-- Nobody listens on an address any more; calls that were not accepted are hung up on. -/
def unlisten (net : Network) (address : Address) : Network :=
  let (dropped, waiting) := net.waiting.partition (·.1 = address)
  dropped.foldl (fun net entry => net.hangUp entry.2 .listener)
    { net with listening := net.listening.filter (· ≠ address), waiting }

/-- The next frame that a party reads from a connection. -/
def read (net : Network) (id : ConnectionId) (party : Party) (limit : Nat) : Reading × Network :=
  match net.connections[id]? with
  | some c =>
    let (reading, pipe) := (c.into party).read limit
    (reading, net.modify id fun c => c.setInto pipe party)
  | none => (.exhausted, net)

end Network

end TaskQueue
