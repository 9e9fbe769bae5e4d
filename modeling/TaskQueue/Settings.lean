/-!
The settings of a queue: its store, its engine, the two ends of a connection and its log. Every span
of time is a number of milliseconds.
-/

namespace TaskQueue

/-- A span of time in whole seconds and nanoseconds below a second. -/
structure Span where
  seconds : Nat
  nanoseconds : Nat
  deriving DecidableEq, Repr

namespace Span

/-- A span of whole seconds. -/
def ofSeconds (s : UInt64) : Span :=
  ⟨s.toNat, 0⟩

/-- A span of milliseconds. -/
def ofMilliseconds (ms : UInt64) : Span :=
  ⟨ms.toNat / 1000, ms.toNat % 1000 * 1000000⟩

end Span

/-- How a cursor pages through its rows and when it is split. -/
structure CursorSettings where
  /-- Rows fetched at a time. -/
  pageSize : UInt64
  /-- Fewer rows than this are not split. -/
  parallelThreshold : UInt64
  /-- Up to this many rows are split in two, more in four. -/
  fourWayThreshold : UInt64
  deriving DecidableEq, Repr

/-- A relational database. -/
structure DatabaseSettings where
  connectionString : String
  poolSize : UInt32
  /-- The table of tasks; the names of the others start with it. -/
  tableName : String
  deriving DecidableEq, Repr

/-- Where tasks are kept. -/
inductive Backend
  | inMemory
  | postgres (database : DatabaseSettings)
  deriving DecidableEq, Repr

/-- The settings of a store. -/
structure StoreSettings where
  backend : Backend
  /-- How long a write waits for an open section. -/
  lockTimeout : UInt64
  /-- How long a wait for a change lasts. -/
  changePollInterval : UInt64
  cursor : CursorSettings
  deriving DecidableEq, Repr

/-- The settings of the engine. -/
structure EngineSettings where
  /-- How long an acquire waits for a change before it tries again. -/
  acquirePollInterval : UInt64
  deriving DecidableEq, Repr

/-- The settings of a producer. -/
structure ProducerSettings where
  bindAddress : String
  /-- The longest frame that is taken or sent. -/
  maxFrameLength : UInt64
  deriving DecidableEq, Repr

/-- The settings of a consumer. -/
structure ConsumerSettings where
  hostAddress : String
  connectTimeout : UInt64
  /-- The time between two attempts to reconnect; none are made if it is zero. -/
  retryInterval : UInt64
  livenessInterval : UInt64
  maxFrameLength : UInt64
  deriving DecidableEq, Repr

/-- How much is logged. -/
inductive LogLevel
  | trace
  | debug
  | info
  | warn
  | error
  deriving DecidableEq, Repr

/-- The settings of the log. -/
structure LogSettings where
  level : LogLevel
  json : Bool
  colored : Bool
  timestamps : Bool
  targets : Bool
  deriving DecidableEq, Repr

/-- All settings. -/
structure Settings where
  store : StoreSettings
  engine : EngineSettings
  producer : ProducerSettings
  consumer : ConsumerSettings
  log : LogSettings
  deriving DecidableEq, Repr

namespace CursorSettings

/-- The settings of a cursor unless others are given. -/
def standard : CursorSettings :=
  ⟨40000, 10000, 40000⟩

end CursorSettings

namespace DatabaseSettings

/-- The settings of a database unless others are given. -/
def standard : DatabaseSettings :=
  ⟨"postgresql://localhost/anvilq", 10, "anvilq_tasks"⟩

end DatabaseSettings

namespace StoreSettings

/-- A store in memory. -/
def inMemory : StoreSettings :=
  ⟨.inMemory, 10000, 1000, .standard⟩

/-- A store in a database. -/
def postgres (connectionString : String) : StoreSettings :=
  { inMemory with backend := .postgres { DatabaseSettings.standard with connectionString } }

/-- The store with another lock timeout. -/
def withLockTimeout (ms : UInt64) (s : StoreSettings) : StoreSettings :=
  { s with lockTimeout := ms }

/-- The store with another poll interval. -/
def withChangePollInterval (ms : UInt64) (s : StoreSettings) : StoreSettings :=
  { s with changePollInterval := ms }

/-- The store with other cursors. -/
def withCursor (cursor : CursorSettings) (s : StoreSettings) : StoreSettings :=
  { s with cursor }

end StoreSettings

namespace EngineSettings

/-- The settings of the engine unless others are given. -/
def standard : EngineSettings :=
  ⟨1000⟩

/-- The engine with another poll interval. -/
def withPollInterval (ms : UInt64) (s : EngineSettings) : EngineSettings :=
  { s with acquirePollInterval := ms }

end EngineSettings

/-- The longest frame unless another length is given. -/
def standardFrameLength : UInt64 :=
  8 * 1024 * 1024

namespace ProducerSettings

/-- A producer at an address. -/
def bind (address : String) : ProducerSettings :=
  ⟨address, standardFrameLength⟩

/-- The settings of a producer unless others are given. -/
def standard : ProducerSettings :=
  bind "0.0.0.0:7070"

/-- The producer with another frame length. -/
def withMaxFrameLength (length : UInt64) (s : ProducerSettings) : ProducerSettings :=
  { s with maxFrameLength := length }

end ProducerSettings

namespace ConsumerSettings

/-- A consumer of the producer at an address. -/
def connectTo (address : String) : ConsumerSettings :=
  ⟨address, 30000, 5000, 1000, standardFrameLength⟩

/-- The settings of a consumer unless others are given. -/
def standard : ConsumerSettings :=
  connectTo "127.0.0.1:7070"

/-- The consumer with another connect timeout. -/
def withConnectTimeout (ms : UInt64) (s : ConsumerSettings) : ConsumerSettings :=
  { s with connectTimeout := ms }

/-- The consumer with another retry interval. -/
def withRetryInterval (ms : UInt64) (s : ConsumerSettings) : ConsumerSettings :=
  { s with retryInterval := ms }

/-- The consumer with another liveness interval. -/
def withLivenessInterval (ms : UInt64) (s : ConsumerSettings) : ConsumerSettings :=
  { s with livenessInterval := ms }

/-- The time between two attempts to reconnect, if any are made. -/
def retrySpan (s : ConsumerSettings) : Option Span :=
  if s.retryInterval = 0 then none else some (.ofMilliseconds s.retryInterval)

end ConsumerSettings

namespace LogLevel

/-- All levels, the least important first. -/
def all : List LogLevel :=
  [.trace, .debug, .info, .warn, .error]

/-- How important a level is. -/
def rank : LogLevel → Nat
  | .trace => 0
  | .debug => 1
  | .info => 2
  | .warn => 3
  | .error => 4

/-- The name of a level in settings. -/
def name : LogLevel → String
  | .trace => "Trace"
  | .debug => "Debug"
  | .info => "Info"
  | .warn => "Warn"
  | .error => "Error"

/-- The name of a level in the log. -/
def label : LogLevel → String
  | .trace => "TRACE"
  | .debug => "DEBUG"
  | .info => "INFO"
  | .warn => "WARN"
  | .error => "ERROR"

/-- The level of a name. -/
def ofName? (name : String) : Option LogLevel :=
  all.find? (·.name = name)

end LogLevel

namespace LogSettings

/-- The settings of the log unless others are given. -/
def standard : LogSettings :=
  ⟨.info, false, true, true, false⟩

end LogSettings

namespace Settings

/-- The settings unless others are given. -/
def standard : Settings :=
  ⟨.inMemory, .standard, .standard, .standard, .standard⟩

/-- Settings for development: short waits and a detailed log. -/
def development : Settings :=
  { standard with
    store := StoreSettings.inMemory.withLockTimeout 5000
    consumer := ConsumerSettings.standard.withRetryInterval 1000
    log := { LogSettings.standard with level := .debug, targets := true } }

/-- Settings for production: long waits and a log for machines. -/
def production : Settings :=
  { standard with
    store := StoreSettings.inMemory.withLockTimeout 30000
    log := ⟨.info, true, false, true, false⟩ }

/-- Settings for tests: very short waits and a port of the system's choice. -/
def testing : Settings :=
  { store := (StoreSettings.inMemory.withLockTimeout 2000).withChangePollInterval 50
    engine := ⟨50⟩
    producer := .bind "127.0.0.1:0"
    consumer := { ConsumerSettings.standard with
      connectTimeout := 2000, retryInterval := 100, livenessInterval := 100 }
    log := ⟨.debug, false, false, false, true⟩ }

/-- The text of a requirement that is not met. -/
def complaint (broken : Bool) (text : String) : List String :=
  if broken then [text] else []

/-- What is wrong with a choice of backend. -/
def backendComplaints : Backend → List String
  | .inMemory => []
  | .postgres database =>
    complaint (database.poolSize = 0) "Postgres pool size must be greater than 0" ++
      complaint database.tableName.isEmpty "Postgres table name must not be empty"

/-- Everything that is wrong with some settings. -/
def complaints (s : Settings) : List String :=
  complaint (s.store.lockTimeout = 0) "Lock timeout must be greater than 0" ++
  complaint (s.store.changePollInterval = 0) "Change poll interval must be greater than 0" ++
  complaint (s.store.cursor.pageSize = 0) "Cursor page size must be greater than 0" ++
  complaint (s.store.cursor.fourWayThreshold < s.store.cursor.parallelThreshold)
    "Cursor four-way threshold must be greater than or equal to the parallel threshold" ++
  backendComplaints s.store.backend ++
  complaint (s.engine.acquirePollInterval = 0) "Acquire poll interval must be greater than 0" ++
  complaint s.producer.bindAddress.isEmpty "Producer bind address must not be empty" ++
  complaint s.consumer.hostAddress.isEmpty "Consumer host address must not be empty" ++
  complaint (s.consumer.connectTimeout = 0) "Connect timeout must be greater than 0" ++
  complaint (s.consumer.livenessInterval = 0) "Liveness interval must be greater than 0" ++
  complaint (s.producer.maxFrameLength = 0 || s.consumer.maxFrameLength = 0)
    "Max frame length must be greater than 0"

end Settings

end TaskQueue
