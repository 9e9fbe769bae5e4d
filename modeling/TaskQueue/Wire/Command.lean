import TaskQueue.Failure
import TaskQueue.Wire.Task

/-!
The messages between the two ends of a connection, one JSON document each: commands from a consumer,
and the answers of the producer.

Both are a tag and a content. They are read from an object with the members `type` and `args` (or
`body`), or from an array of the two. In an array the tag is a string; in an object it may be
written as any choice without content. A content that stands before its tag is read before it is
known what it is for, so it has to be sound throughout; one that follows its tag is looked at only
where the tag asks for it.
-/

namespace TaskQueue

open Json

/-- What a consumer tells the producer. -/
inductive Command
  /-- Ask for one task. -/
  | ready
  /-- The task is done. -/
  | ack (id : TaskId)
  /-- The task is given up, and put back into the queue if `requeue`. -/
  | nack (id : TaskId) (requeue : Bool)
  /-- Tasks that are still held after a reconnect. -/
  | recover (ids : List TaskId)
  /-- The task failed for good. -/
  | error (id : TaskId)
  deriving DecidableEq, Repr

/-- What the producer tells a consumer. -/
inductive Message
  /-- A task to work on. -/
  | task (task : Task)
  /-- The producer gives the connection up. -/
  | error (text : String)

/-! ## Tag and content -/

namespace Json.Doc

/-- The part of members behind the first one of a given name. -/
def afterMember (name : String) : List (String × Doc) → List (String × Doc)
  | [] => []
  | (key, _) :: rest => if key = name then rest else afterMember name rest

/-- A tag with its content, if there is one, and whether the content was read first. -/
structure Tagged where
  tag : String
  content : Option Doc
  early : Bool

/-- The tag and content of a document. -/
def tagged? (contentName : String) (levels : Nat) (doc : Doc) : Option Tagged :=
  match doc with
  | .array [tag, content] => do
    if levels = 0 then none else some ⟨← tag.string?, some content, false⟩
  | _ => do
    let members ← doc.members? levels
    let tag ← (← (← single? "type" members)).choice? (levels - 1)
    let content ← single? contentName members
    let late ← single? contentName (afterMember "type" members)
    let early := content.isSome && late.isNone
    match content with
    | some doc => if early then let _ ← doc.keep? (levels - 1)
    | none => pure ()
    return ⟨tag, content, early⟩

/-- A document of a tag and a content. -/
def ofTagged (contentName tag : String) (content : Option Doc) : Doc :=
  .object ((Text.ofString "type", .string (Text.ofString tag)) ::
    (content.map fun doc => (Text.ofString contentName, doc)).toList)

end Json.Doc

/-! ## Commands -/

namespace Command

/-- Whether a command may wait until there is a connection. -/
def isBufferable : Command → Bool
  | .recover _ => false
  | _ => true

/-- The task that a command settles. -/
def settles : Command → Option TaskId
  | .ack id => some id
  | .error id => some id
  | .nack id _ => some id
  | .ready => none
  | .recover _ => none

/-- A command as a document. -/
def doc : Command → Doc
  | .ready => .ofTagged "args" "READY" none
  | .ack id => .ofTagged "args" "ACK" (some id.doc)
  | .nack id requeue =>
    .ofTagged "args" "NACK" (some (.object [(Text.ofString "id", id.doc),
      (Text.ofString "requeue", .bool requeue)]))
  | .recover ids => .ofTagged "args" "RECOVER" (some (.array (ids.map TaskId.doc)))
  | .error id => .ofTagged "args" "ERROR" (some id.doc)

/-- The frame of a command. -/
def encode (command : Command) : List UInt8 :=
  command.doc.write

/-- The content of a command that gives a task up. It has to be an object. -/
def nackOfDoc? (levels : Nat) (doc : Doc) : Option Command := do
  let members ← doc.members? levels
  let id ← TaskId.ofDoc? (← (← Doc.single? "id" members))
  let requeue ← (← (← Doc.single? "requeue" members)).bool?
  return .nack id requeue

/-- The command of a tag and its content. -/
def ofContent? (levels : Nat) (tag : String) (content : Option Doc) : Option Command :=
  match tag, content with
  | "READY", none => some .ready
  | "READY", some .null => some .ready
  | "ACK", some doc => (TaskId.ofDoc? doc).map .ack
  | "NACK", some doc => nackOfDoc? levels doc
  | "RECOVER", some doc => (doc.list? (fun _ item => TaskId.ofDoc? item) levels).map .recover
  | "ERROR", some doc => (TaskId.ofDoc? doc).map .error
  | _, _ => none

/-- The command of a document. -/
def ofDoc? (doc : Doc) : Option Command := do
  let tagged ← doc.tagged? "args" maxDepth
  ofContent? (maxDepth - 1) tagged.tag tagged.content

/-- The command of a frame. -/
def decode (frame : List UInt8) : Except Failure Command :=
  match (Doc.read? frame).bind ofDoc? with
  | some command => .ok command
  | none => .error .malformed

end Command

/-! ## Messages -/

namespace Message

/-- A message as a document. -/
def doc : Message → Doc
  | .task t => .ofTagged "body" "TASK" (some t.doc)
  | .error text => .ofTagged "body" "ERROR" (some (.string (Text.ofString text)))

/-- The frame of a message. -/
def encode (message : Message) : List UInt8 :=
  message.doc.write

/-- The message of a tag and its content. -/
def ofContent? (levels : Nat) (tag : String) (content : Option Doc) : Option Message :=
  match tag, content with
  | "TASK", some doc => (Task.ofDoc? levels doc).map .task
  | "ERROR", some doc => doc.string?.map .error
  | _, _ => none

/-- The message of a document. -/
def ofDoc? (doc : Doc) : Option Message := do
  let tagged ← doc.tagged? "body" maxDepth
  ofContent? (maxDepth - 1) tagged.tag tagged.content

/-- The message of a frame. -/
def decode (frame : List UInt8) : Except Failure Message :=
  match (Doc.read? frame).bind ofDoc? with
  | some message => .ok message
  | none => .error .malformed

end Message

/-- The task of a JSON text. -/
def Task.read (bytes : List UInt8) : Except Failure Task :=
  match (Doc.read? bytes).bind (Task.ofDoc? maxDepth) with
  | some task => .ok task
  | none => .error .serialization

end TaskQueue
