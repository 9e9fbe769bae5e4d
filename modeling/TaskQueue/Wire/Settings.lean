import TaskQueue.Failure
import TaskQueue.Json.Record
import TaskQueue.Settings

/-!
Settings as JSON. Every section and every field is written, to a value whose members are sorted or
to a text in the order of the fields, and has to be there when they are read. A program without a
relational backend reads settings that name none.
-/

namespace TaskQueue

open Json

namespace Json.Doc

/-- A natural number as it is written. -/
def nat (n : Nat) : Doc :=
  .number (Numeral.ofInt n)

/-- A string as it is written. -/
def text (s : String) : Doc :=
  .string (Text.ofString s)

/-- An object with its members as they are written. -/
def ofFields (fields : List (String × Doc)) : Doc :=
  .object (fields.map fun (name, value) => (Text.ofString name, value))

end Json.Doc

namespace CursorSettings

/-- The settings of a cursor as a value. -/
def value (s : CursorSettings) : Value :=
  .object [("four_way_threshold", .nat s.fourWayThreshold.toNat),
    ("page_size", .nat s.pageSize.toNat),
    ("parallel_threshold", .nat s.parallelThreshold.toNat)]

/-- The settings of a cursor as a document. -/
def doc (s : CursorSettings) : Doc :=
  .ofFields [("page_size", .nat s.pageSize.toNat),
    ("parallel_threshold", .nat s.parallelThreshold.toNat),
    ("four_way_threshold", .nat s.fourWayThreshold.toNat)]

/-- The settings of a cursor that a document holds. -/
def ofDoc? (levels : Nat) (doc : Doc) : Option CursorSettings := do
  let [page, parallel, fourWay] ←
    doc.record? ["page_size", "parallel_threshold", "four_way_threshold"] levels | none
  return ⟨.ofNat (← (← page).word? UInt64.size), .ofNat (← (← parallel).word? UInt64.size),
    .ofNat (← (← fourWay).word? UInt64.size)⟩

end CursorSettings

namespace DatabaseSettings

/-- The settings of a database as a value. -/
def value (s : DatabaseSettings) : Value :=
  .object [("connection_string", .string s.connectionString),
    ("pool_size", .nat s.poolSize.toNat), ("table_name", .string s.tableName)]

/-- The settings of a database as a document. -/
def doc (s : DatabaseSettings) : Doc :=
  .ofFields [("connection_string", .text s.connectionString),
    ("pool_size", .nat s.poolSize.toNat), ("table_name", .text s.tableName)]

/-- The settings of a database that a document holds. -/
def ofDoc? (levels : Nat) (doc : Doc) : Option DatabaseSettings := do
  let [connection, pool, table] ←
    doc.record? ["connection_string", "pool_size", "table_name"] levels | none
  return ⟨← (← connection).string?, .ofNat (← (← pool).word? UInt32.size), ← (← table).string?⟩

end DatabaseSettings

namespace Backend

/-- A backend as a value. -/
def value : Backend → Value
  | .inMemory => .string "InMemory"
  | .postgres database => .object [("Postgres", database.value)]

/-- A backend as a document. -/
def doc : Backend → Doc
  | .inMemory => .text "InMemory"
  | .postgres database => .ofFields [("Postgres", database.doc)]

/-- The backend that a document names. -/
def ofDoc? (relational : Bool) (levels : Nat) (doc : Doc) : Option Backend :=
  match doc with
  | .object [(key, content)] => do
    if levels = 0 then none
    let key ← key.string?
    if key = "InMemory" then
      match content with
      | .null => some .inMemory
      | _ => none
    else if relational ∧ key = "Postgres" then
      (DatabaseSettings.ofDoc? (levels - 1) content).map .postgres
    else none
  | _ => do if (← doc.string?) = "InMemory" then some .inMemory else none

end Backend

namespace StoreSettings

/-- The settings of a store as a value. -/
def value (s : StoreSettings) : Value :=
  .object [("backend", s.backend.value),
    ("change_poll_interval_ms", .nat s.changePollInterval.toNat), ("cursor", s.cursor.value),
    ("lock_timeout_ms", .nat s.lockTimeout.toNat)]

/-- The settings of a store as a document. -/
def doc (s : StoreSettings) : Doc :=
  .ofFields [("backend", s.backend.doc), ("lock_timeout_ms", .nat s.lockTimeout.toNat),
    ("change_poll_interval_ms", .nat s.changePollInterval.toNat), ("cursor", s.cursor.doc)]

/-- The settings of a store that a document holds. -/
def ofDoc? (relational : Bool) (levels : Nat) (doc : Doc) : Option StoreSettings := do
  let [backend, lock, poll, cursor] ←
    doc.record? ["backend", "lock_timeout_ms", "change_poll_interval_ms", "cursor"] levels | none
  return ⟨← Backend.ofDoc? relational (levels - 1) (← backend),
    .ofNat (← (← lock).word? UInt64.size), .ofNat (← (← poll).word? UInt64.size),
    ← CursorSettings.ofDoc? (levels - 1) (← cursor)⟩

end StoreSettings

namespace EngineSettings

/-- The settings of the engine as a value. -/
def value (s : EngineSettings) : Value :=
  .object [("acquire_poll_interval_ms", .nat s.acquirePollInterval.toNat)]

/-- The settings of the engine as a document. -/
def doc (s : EngineSettings) : Doc :=
  .ofFields [("acquire_poll_interval_ms", .nat s.acquirePollInterval.toNat)]

/-- The settings of the engine that a document holds. -/
def ofDoc? (levels : Nat) (doc : Doc) : Option EngineSettings := do
  let [poll] ← doc.record? ["acquire_poll_interval_ms"] levels | none
  return ⟨.ofNat (← (← poll).word? UInt64.size)⟩

end EngineSettings

namespace ProducerSettings

/-- The settings of a producer as a value. -/
def value (s : ProducerSettings) : Value :=
  .object [("bind_address", .string s.bindAddress),
    ("max_frame_length", .nat s.maxFrameLength.toNat)]

/-- The settings of a producer as a document. -/
def doc (s : ProducerSettings) : Doc :=
  .ofFields [("bind_address", .text s.bindAddress),
    ("max_frame_length", .nat s.maxFrameLength.toNat)]

/-- The settings of a producer that a document holds. -/
def ofDoc? (levels : Nat) (doc : Doc) : Option ProducerSettings := do
  let [address, length] ← doc.record? ["bind_address", "max_frame_length"] levels | none
  return ⟨← (← address).string?, .ofNat (← (← length).word? UInt64.size)⟩

end ProducerSettings

namespace ConsumerSettings

/-- The settings of a consumer as a value. -/
def value (s : ConsumerSettings) : Value :=
  .object [("connect_timeout_ms", .nat s.connectTimeout.toNat),
    ("host_address", .string s.hostAddress),
    ("liveness_interval_ms", .nat s.livenessInterval.toNat),
    ("max_frame_length", .nat s.maxFrameLength.toNat),
    ("retry_interval_ms", .nat s.retryInterval.toNat)]

/-- The settings of a consumer as a document. -/
def doc (s : ConsumerSettings) : Doc :=
  .ofFields [("host_address", .text s.hostAddress),
    ("connect_timeout_ms", .nat s.connectTimeout.toNat),
    ("retry_interval_ms", .nat s.retryInterval.toNat),
    ("liveness_interval_ms", .nat s.livenessInterval.toNat),
    ("max_frame_length", .nat s.maxFrameLength.toNat)]

/-- The settings of a consumer that a document holds. -/
def ofDoc? (levels : Nat) (doc : Doc) : Option ConsumerSettings := do
  let [address, connect, retry, liveness, length] ←
    doc.record? ["host_address", "connect_timeout_ms", "retry_interval_ms", "liveness_interval_ms",
      "max_frame_length"] levels | none
  return ⟨← (← address).string?, .ofNat (← (← connect).word? UInt64.size),
    .ofNat (← (← retry).word? UInt64.size), .ofNat (← (← liveness).word? UInt64.size),
    .ofNat (← (← length).word? UInt64.size)⟩

end ConsumerSettings

namespace LogSettings

/-- The settings of the log as a value. -/
def value (s : LogSettings) : Value :=
  .object [("colored", .bool s.colored), ("include_targets", .bool s.targets),
    ("include_timestamps", .bool s.timestamps), ("json_format", .bool s.json),
    ("level", .string s.level.name)]

/-- The settings of the log as a document. -/
def doc (s : LogSettings) : Doc :=
  .ofFields [("level", .text s.level.name), ("json_format", .bool s.json),
    ("colored", .bool s.colored), ("include_timestamps", .bool s.timestamps),
    ("include_targets", .bool s.targets)]

/-- The settings of the log that a document holds. -/
def ofDoc? (levels : Nat) (doc : Doc) : Option LogSettings := do
  let [level, json, colored, timestamps, targets] ←
    doc.record? ["level", "json_format", "colored", "include_timestamps", "include_targets"] levels
    | none
  let level ← LogLevel.ofName? (← (← level).choice? (levels - 1))
  return ⟨level, ← (← json).bool?, ← (← colored).bool?, ← (← timestamps).bool?,
    ← (← targets).bool?⟩

end LogSettings

namespace Settings

/-- Settings as a value. -/
def value (s : Settings) : Value :=
  .object [("consumer", s.consumer.value), ("engine", s.engine.value), ("logging", s.log.value),
    ("producer", s.producer.value), ("store", s.store.value)]

/-- Settings as a document. -/
def doc (s : Settings) : Doc :=
  .ofFields [("store", s.store.doc), ("engine", s.engine.doc), ("producer", s.producer.doc),
    ("consumer", s.consumer.doc), ("logging", s.log.doc)]

/-- The JSON text of settings. -/
def encode (s : Settings) : List UInt8 :=
  s.doc.write

/-- The settings that a document holds. -/
def ofDoc? (relational : Bool) (levels : Nat) (doc : Doc) : Option Settings := do
  let [store, engine, producer, consumer, log] ←
    doc.record? ["store", "engine", "producer", "consumer", "logging"] levels | none
  let inner := levels - 1
  return ⟨← StoreSettings.ofDoc? relational inner (← store),
    ← EngineSettings.ofDoc? inner (← engine),
    ← ProducerSettings.ofDoc? inner (← producer), ← ConsumerSettings.ofDoc? inner (← consumer),
    ← LogSettings.ofDoc? inner (← log)⟩

/-- The settings of a JSON text. -/
def read (relational : Bool) (bytes : List UInt8) : Except Failure Settings :=
  match (Doc.read? bytes).bind (ofDoc? relational maxDepth) with
  | some settings => .ok settings
  | none => .error .serialization

/-- The settings of a JSON value. -/
def ofValue (relational : Bool) (value : Value) : Except Failure Settings :=
  match ofDoc? relational maxDepth value.doc with
  | some settings => .ok settings
  | none => .error .serialization

/-- Settings that nothing is wrong with. -/
def check (s : Settings) : Except Failure Unit :=
  match s.complaints with
  | [] => .ok ()
  | texts => .error (.configuration (String.intercalate "; " texts))

end Settings

end TaskQueue
