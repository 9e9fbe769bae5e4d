import TaskQueue.Json.Record
import TaskQueue.Task

/-!
Tasks as JSON. All twelve fields are written, in a fixed order. Of a record that is read, `group`,
`reference_id` and `started` may be missing.
-/

namespace TaskQueue

open Json

/-- The member names of a task in their order. -/
def Task.fieldNames : List String :=
  ["id", "task_type", "group", "tags", "priority", "reference_id", "created", "order", "attempts",
    "started", "state", "payload"]

/-- A string or null. -/
def Json.Value.ofOption (s : Option String) : Value :=
  match s with
  | none => .null
  | some s => .string s

namespace TaskId

/-- The identifier that a document spells. -/
def ofDoc? (doc : Doc) : Option TaskId := do
  TaskId.ofText? (← doc.string?)

/-- An identifier as a document. -/
def doc (id : TaskId) : Doc :=
  .string (Text.ofString id.text)

end TaskId

/-- The state that a document names. -/
def TaskState.ofDoc? (levels : Nat) (doc : Doc) : Option TaskState := do
  TaskState.ofName? (← doc.choice? levels)

namespace Task

/-- The values of the fields of a task in their order. -/
def fields (task : Task) : List Value :=
  [.string task.id.text, .string task.kind, .ofOption task.group,
    .array (task.tags.toList.map .string), .integer task.priority.toInt, .ofOption task.reference,
    .nat task.created.toNat, .nat task.order, .nat task.attempts.toNat,
    match task.started with
    | none => .null
    | some started => .nat started.toNat,
    .string task.state.name, task.payload]

/-- A task as a document. -/
def doc (task : Task) : Doc :=
  .object ((fieldNames.map Text.ofString).zip (task.fields.map Value.doc))

/-- The task of a record, read with some nesting levels left. -/
def ofDoc? (levels : Nat) (doc : Doc) : Option Task := do
  let [id, kind, group, tags, priority, reference, created, order, attempts, started, state,
    payload] ← doc.record? fieldNames levels | none
  let inner := levels - 1
  let absent : Doc := .null
  let id ← TaskId.ofDoc? (← id)
  let kind ← (← kind).string?
  let group ← (group.getD absent).nullable? Doc.string?
  let tags ← (← tags).list? (fun _ item => item.string?) inner
  let priority ← (← priority).int? Int32.minValue.toInt Int32.maxValue.toInt
  let reference ← (reference.getD absent).nullable? Doc.string?
  let created ← (← created).word? UInt64.size
  let order ← (← order).word? UInt64.size
  let attempts ← (← attempts).word? UInt32.size
  let started ← (started.getD absent).nullable? (Doc.word? UInt64.size)
  let state ← TaskState.ofDoc? inner (← state)
  let payload ← (← payload).keep? inner
  return { id, kind, group, tags := .ofList tags, priority := Int32.ofInt priority, reference,
           created := UInt64.ofNat created, order, attempts := UInt32.ofNat attempts,
           started := started.map UInt64.ofNat, state, payload }

end Task

end TaskQueue
