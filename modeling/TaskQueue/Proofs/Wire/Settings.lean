import TaskQueue.Wire.Settings
import TaskQueue.Proofs.Json.Shape
import TaskQueue.Proofs.Wire.Message

/-!
# Settings to and fro

Results:
1. `ofDoc?_iff` of each section: it is read from an object if and only if the object bears its
   fields.
2. `Settings.governs`: members of other names do not matter, anywhere, and no field may be missing.
3. `Settings.read_back`: settings are read back from what is written for them, with any such members
   added, and are refused when one of their own is removed.
-/

namespace TaskQueue

open Json

namespace Json

/-! ## 1. Fields -/

namespace Doc

theorem writable_nat (n : Nat) : (nat n).Writable :=
  writable_number (Numeral.spells_ofInt n)

theorem writable_text (s : String) : (text s).Writable :=
  writable_string (Text.isPlain_ofString s)

theorem writable_ofFields {fields : List (String × Doc)} (all : ∀ m ∈ fields, m.2.Writable) :
    (ofFields fields).Writable := by
  refine writable_object fun m member => ?_
  obtain ⟨field, inFields, rfl⟩ := List.mem_map.mp member
  exact ⟨Text.isPlain_ofString field.1, all field inFields⟩

end Doc

variable {α : Type} {a : α}

namespace Field

/-- A number of 64 bits. -/
def number (name : String) (get : α → UInt64) : Field α :=
  ⟨name, .leaf, fun a doc => ∃ n, doc.word? UInt64.size = some n ∧ UInt64.ofNat n = get a⟩

/-- A part that is read in a way of its own. -/
def part {β : Type} (name : String) (shape : Shape) (read : Doc → Option β) (get : α → β) :
    Field α :=
  ⟨name, shape, fun a doc => read doc = some (get a)⟩

/-- A string. -/
def text (name : String) (get : α → String) : Field α :=
  part name .leaf Doc.string? get

/-- A truth value. -/
def flag (name : String) (get : α → Bool) : Field α :=
  part name .leaf Doc.bool? get

theorem holds_number (name : String) (get : α → UInt64) :
    (number name get).holds a (.nat (get a).toNat) :=
  ⟨_, word?_nat (get a).toNat_lt (Nat.le_refl _), UInt64.ofNat_toNat⟩

theorem holds_text (name : String) (get : α → String) :
    (text name get).holds a (.text (get a)) :=
  Text.string?_ofString (get a)

theorem holds_flag (name : String) (get : α → Bool) : (flag name get).holds a (.bool (get a)) :=
  rfl

@[simp] theorem name_number (name : String) (get : α → UInt64) : (number name get).name = name :=
  rfl

@[simp] theorem name_text (name : String) (get : α → String) : (text name get).name = name :=
  rfl

@[simp] theorem name_flag (name : String) (get : α → Bool) : (flag name get).name = name :=
  rfl

section part

variable {β : Type} {shape : Shape} {read : Doc → Option β}

@[simp] theorem name_part (name : String) (get : α → β) : (part name shape read get).name = name :=
  rfl

theorem governs_part (governs : Governs shape fun b doc => read doc = some b) (name : String)
    (get : α → β) : Governs (part name shape read get).shape (part name shape read get).holds :=
  governs.part get

end part

end Field

@[simp] theorem doc_nat (n : Nat) : (Value.nat n).doc = .nat n := rfl

@[simp] theorem doc_string (s : String) : (Value.string s).doc = .text s := rfl

@[simp] theorem doc_bool (b : Bool) : (Value.bool b).doc = .bool b := rfl

theorem doc_object (members : List (String × Value)) :
    (Value.object members).doc = .ofFields (members.map fun m => (m.1, m.2.doc)) := by
  rw [Value.doc, Doc.ofFields]
  congr 1
  induction members with
  | nil => rfl
  | cons m members ih => rw [Value.memberDocs, ih]; rfl

end Json

/-! ## 2. Sections -/

variable {levels : Nat} {members : List (Text × Doc)}

namespace CursorSettings

variable {s : CursorSettings}

/-- The fields of the settings of a cursor. -/
def fields : List (Json.Field CursorSettings) :=
  [.number "page_size" (·.pageSize), .number "parallel_threshold" (·.parallelThreshold),
    .number "four_way_threshold" (·.fourWayThreshold)]

/-- The names in the settings of a cursor. -/
def shape : Shape :=
  .record [("page_size", .leaf), ("parallel_threshold", .leaf), ("four_way_threshold", .leaf)]

theorem ofDoc?_iff :
    ofDoc? (levels + 1) (.object members) = some s ↔ Bears fields s members := by
  refine record?_iff fields fun values => ⟨fun read => ?_, ?_⟩
  · split at read
    · simp only [Option.bind_eq_bind, Option.bind_eq_some_iff, Option.pure_def,
        Option.some.injEq] at read
      obtain ⟨_, rfl, page, pageRead, _, rfl, parallel, parallelRead, _, rfl, fourWay, fourWayRead,
        rfl⟩ := read
      exact .cons ⟨_, rfl, page, pageRead, rfl⟩ (.cons ⟨_, rfl, parallel, parallelRead, rfl⟩
        (.cons ⟨_, rfl, fourWay, fourWayRead, rfl⟩ .nil))
    · cases read
  · rintro (_ | ⟨⟨_, rfl, page, pageRead, samePage⟩,
      _ | ⟨⟨_, rfl, parallel, parallelRead, sameParallel⟩,
      _ | ⟨⟨_, rfl, fourWay, fourWayRead, sameFourWay⟩, _ | _⟩⟩⟩)
    simp [pageRead, parallelRead, fourWayRead, samePage, sameParallel, sameFourWay]

theorem governs (levels : Nat) :
    Governs shape fun s doc => ofDoc? (levels + 1) doc = some s := by
  refine governs_record fields (by decide) (fun _ _ => ofDoc?_iff) ?_
  simp only [fields, List.forall_mem_cons]
  exact ⟨governs_leaf _, governs_leaf _, governs_leaf _, nofun⟩

theorem ofDoc?_written (s : CursorSettings) (levels : Nat) :
    ofDoc? (levels + 1) s.doc = some s ∧ ofDoc? (levels + 1) s.value.doc = some s := by
  have held : List.Forall₂ (fun field doc => Field.holds field s doc) fields
      [.nat s.pageSize.toNat, .nat s.parallelThreshold.toNat, .nat s.fourWayThreshold.toNat] :=
    .cons (Field.holds_number _ _) (.cons (Field.holds_number _ _)
      (.cons (Field.holds_number _ _) .nil))
  rw [doc, value, doc_object]
  exact ⟨ofDoc?_iff.mpr (bears_written held (by simp) (by simp [fields])),
    ofDoc?_iff.mpr (bears_written held (by simp) (by simp [fields]))⟩

theorem writable (s : CursorSettings) : s.doc.Writable ∧ s.value.doc.Writable := by
  simp [doc, value, doc_object, Doc.writable_ofFields, Doc.writable_nat]

end CursorSettings

namespace StoreSettings

variable {s : StoreSettings} {relational : Bool}

/-- The fields of the settings of a store. -/
def fields (relational : Bool) (levels : Nat) : List (Json.Field StoreSettings) :=
  [.part "backend" .leaf (Backend.ofDoc? relational (levels + 1)) (·.backend),
    .number "lock_timeout_ms" (·.lockTimeout),
    .number "change_poll_interval_ms" (·.changePollInterval),
    .part "cursor" CursorSettings.shape (CursorSettings.ofDoc? (levels + 1)) (·.cursor)]

/-- The names in the settings of a store. -/
def shape : Shape :=
  .record [("backend", .leaf), ("lock_timeout_ms", .leaf), ("change_poll_interval_ms", .leaf),
    ("cursor", CursorSettings.shape)]

theorem ofDoc?_iff : ofDoc? relational (levels + 2) (.object members) = some s ↔
    Bears (fields relational levels) s members := by
  refine record?_iff (fields relational levels) fun values => ⟨fun read => ?_, ?_⟩
  · split at read
    · simp only [Option.bind_eq_bind, Option.bind_eq_some_iff, Option.pure_def,
        Option.some.injEq] at read
      obtain ⟨_, rfl, backend, backendRead, _, rfl, lock, lockRead, _, rfl, poll, pollRead, _, rfl,
        cursor, cursorRead, rfl⟩ := read
      exact .cons ⟨_, rfl, backendRead⟩ (.cons ⟨_, rfl, lock, lockRead, rfl⟩
        (.cons ⟨_, rfl, poll, pollRead, rfl⟩ (.cons ⟨_, rfl, cursorRead⟩ .nil)))
    · cases read
  · rintro (_ | ⟨⟨_, rfl, backendRead⟩, _ | ⟨⟨_, rfl, lock, lockRead, sameLock⟩,
      _ | ⟨⟨_, rfl, poll, pollRead, samePoll⟩, _ | ⟨⟨_, rfl, cursorRead⟩, _ | _⟩⟩⟩⟩)
    have backendRead : Backend.ofDoc? relational (levels + 1) _ = some s.backend := backendRead
    have cursorRead : CursorSettings.ofDoc? (levels + 1) _ = some s.cursor := cursorRead
    simp [backendRead, lockRead, pollRead, cursorRead, sameLock, samePoll]

theorem governs (relational : Bool) (levels : Nat) :
    Governs shape fun s doc => ofDoc? relational (levels + 2) doc = some s := by
  refine governs_record (fields relational levels) (by simp [fields]) (fun _ _ => ofDoc?_iff) ?_
  simp only [fields, List.forall_mem_cons]
  exact ⟨governs_leaf _, governs_leaf _, governs_leaf _,
    Field.governs_part (CursorSettings.governs levels) _ _, nofun⟩

theorem ofDoc?_written (inMemory : s.backend = .inMemory) (relational : Bool) (levels : Nat) :
    ofDoc? relational (levels + 2) s.doc = some s ∧
      ofDoc? relational (levels + 2) s.value.doc = some s := by
  have backend : Backend.ofDoc? relational (levels + 1) (.text "InMemory") = some s.backend := by
    rw [inMemory, Doc.text, Backend.ofDoc?, Doc.string?, Text.string?_ofString]
    · rfl
    · rintro name value ⟨⟩
  obtain ⟨cursor, cursor'⟩ := s.cursor.ofDoc?_written levels
  have held (doc : Doc) (read : CursorSettings.ofDoc? (levels + 1) doc = some s.cursor) :
      List.Forall₂ (fun field doc => Field.holds field s doc) (fields relational levels)
        [.text "InMemory", .nat s.lockTimeout.toNat, .nat s.changePollInterval.toNat, doc] :=
    .cons backend (.cons (Field.holds_number _ _) (.cons (Field.holds_number _ _)
      (.cons read .nil)))
  rw [doc, value, doc_object, inMemory]
  exact ⟨ofDoc?_iff.mpr (bears_written (held _ cursor) (by simp) (by simp [fields, Backend.doc])),
    ofDoc?_iff.mpr (bears_written (held _ cursor') (by simp) (by simp [fields, Backend.value]))⟩

theorem writable (inMemory : s.backend = .inMemory) : s.doc.Writable ∧ s.value.doc.Writable := by
  simp [doc, value, doc_object, inMemory, Backend.doc, Backend.value, Doc.writable_ofFields,
    Doc.writable_nat, Doc.writable_text, CursorSettings.writable]

end StoreSettings

namespace EngineSettings

variable {s : EngineSettings}

/-- The fields of the settings of the engine. -/
def fields : List (Json.Field EngineSettings) :=
  [.number "acquire_poll_interval_ms" (·.acquirePollInterval)]

/-- The names in the settings of the engine. -/
def shape : Shape :=
  .record [("acquire_poll_interval_ms", .leaf)]

theorem ofDoc?_iff :
    ofDoc? (levels + 1) (.object members) = some s ↔ Bears fields s members := by
  refine record?_iff fields fun values => ⟨fun read => ?_, ?_⟩
  · split at read
    · simp only [Option.bind_eq_bind, Option.bind_eq_some_iff, Option.pure_def,
        Option.some.injEq] at read
      obtain ⟨_, rfl, poll, pollRead, rfl⟩ := read
      exact .cons ⟨_, rfl, poll, pollRead, rfl⟩ .nil
    · cases read
  · rintro (_ | ⟨⟨_, rfl, poll, pollRead, samePoll⟩, _ | _⟩)
    simp [pollRead, samePoll]

theorem governs (levels : Nat) :
    Governs shape fun s doc => ofDoc? (levels + 1) doc = some s := by
  refine governs_record fields (by decide) (fun _ _ => ofDoc?_iff) ?_
  simp only [fields, List.forall_mem_cons]
  exact ⟨governs_leaf _, nofun⟩

theorem ofDoc?_written (s : EngineSettings) (levels : Nat) :
    ofDoc? (levels + 1) s.doc = some s ∧ ofDoc? (levels + 1) s.value.doc = some s := by
  have held : List.Forall₂ (fun field doc => Field.holds field s doc) fields
      [.nat s.acquirePollInterval.toNat] := .cons (Field.holds_number _ _) .nil
  rw [doc, value, doc_object]
  exact ⟨ofDoc?_iff.mpr (bears_written held (by simp) (by simp [fields])),
    ofDoc?_iff.mpr (bears_written held (by simp) (by simp [fields]))⟩

theorem writable (s : EngineSettings) : s.doc.Writable ∧ s.value.doc.Writable := by
  simp [doc, value, doc_object, Doc.writable_ofFields, Doc.writable_nat]

end EngineSettings

namespace ProducerSettings

variable {s : ProducerSettings}

/-- The fields of the settings of a producer. -/
def fields : List (Json.Field ProducerSettings) :=
  [.text "bind_address" (·.bindAddress), .number "max_frame_length" (·.maxFrameLength)]

/-- The names in the settings of a producer. -/
def shape : Shape :=
  .record [("bind_address", .leaf), ("max_frame_length", .leaf)]

theorem ofDoc?_iff :
    ofDoc? (levels + 1) (.object members) = some s ↔ Bears fields s members := by
  refine record?_iff fields fun values => ⟨fun read => ?_, ?_⟩
  · split at read
    · simp only [Option.bind_eq_bind, Option.bind_eq_some_iff, Option.pure_def,
        Option.some.injEq] at read
      obtain ⟨_, rfl, address, addressRead, _, rfl, length, lengthRead, rfl⟩ := read
      exact .cons ⟨_, rfl, addressRead⟩ (.cons ⟨_, rfl, length, lengthRead, rfl⟩ .nil)
    · cases read
  · rintro (_ | ⟨⟨_, rfl, addressRead⟩, _ | ⟨⟨_, rfl, length, lengthRead, sameLength⟩, _ | _⟩⟩)
    have addressRead : Doc.string? _ = some s.bindAddress := addressRead
    simp [addressRead, lengthRead, sameLength]

theorem governs (levels : Nat) :
    Governs shape fun s doc => ofDoc? (levels + 1) doc = some s := by
  refine governs_record fields (by decide) (fun _ _ => ofDoc?_iff) ?_
  simp only [fields, List.forall_mem_cons]
  exact ⟨governs_leaf _, governs_leaf _, nofun⟩

theorem ofDoc?_written (s : ProducerSettings) (levels : Nat) :
    ofDoc? (levels + 1) s.doc = some s ∧ ofDoc? (levels + 1) s.value.doc = some s := by
  have held : List.Forall₂ (fun field doc => Field.holds field s doc) fields
      [.text s.bindAddress, .nat s.maxFrameLength.toNat] :=
    .cons (Field.holds_text _ _) (.cons (Field.holds_number _ _) .nil)
  rw [doc, value, doc_object]
  exact ⟨ofDoc?_iff.mpr (bears_written held (by simp) (by simp [fields])),
    ofDoc?_iff.mpr (bears_written held (by simp) (by simp [fields]))⟩

theorem writable (s : ProducerSettings) : s.doc.Writable ∧ s.value.doc.Writable := by
  simp [doc, value, doc_object, Doc.writable_ofFields, Doc.writable_nat, Doc.writable_text]

end ProducerSettings

namespace ConsumerSettings

variable {s : ConsumerSettings}

/-- The fields of the settings of a consumer. -/
def fields : List (Json.Field ConsumerSettings) :=
  [.text "host_address" (·.hostAddress), .number "connect_timeout_ms" (·.connectTimeout),
    .number "retry_interval_ms" (·.retryInterval),
    .number "liveness_interval_ms" (·.livenessInterval),
    .number "max_frame_length" (·.maxFrameLength)]

/-- The names in the settings of a consumer. -/
def shape : Shape :=
  .record [("host_address", .leaf), ("connect_timeout_ms", .leaf), ("retry_interval_ms", .leaf),
    ("liveness_interval_ms", .leaf), ("max_frame_length", .leaf)]

theorem ofDoc?_iff :
    ofDoc? (levels + 1) (.object members) = some s ↔ Bears fields s members := by
  refine record?_iff fields fun values => ⟨fun read => ?_, ?_⟩
  · split at read
    · simp only [Option.bind_eq_bind, Option.bind_eq_some_iff, Option.pure_def,
        Option.some.injEq] at read
      obtain ⟨_, rfl, address, addressRead, _, rfl, connect, connectRead, _, rfl, retry, retryRead,
        _, rfl, liveness, livenessRead, _, rfl, length, lengthRead, rfl⟩ := read
      exact .cons ⟨_, rfl, addressRead⟩ (.cons ⟨_, rfl, connect, connectRead, rfl⟩
        (.cons ⟨_, rfl, retry, retryRead, rfl⟩ (.cons ⟨_, rfl, liveness, livenessRead, rfl⟩
        (.cons ⟨_, rfl, length, lengthRead, rfl⟩ .nil))))
    · cases read
  · rintro (_ | ⟨⟨_, rfl, addressRead⟩, _ | ⟨⟨_, rfl, connect, connectRead, sameConnect⟩,
      _ | ⟨⟨_, rfl, retry, retryRead, sameRetry⟩,
      _ | ⟨⟨_, rfl, liveness, livenessRead, sameLiveness⟩,
      _ | ⟨⟨_, rfl, length, lengthRead, sameLength⟩, _ | _⟩⟩⟩⟩⟩)
    have addressRead : Doc.string? _ = some s.hostAddress := addressRead
    simp [addressRead, connectRead, retryRead, livenessRead, lengthRead, sameConnect, sameRetry,
      sameLiveness, sameLength]

theorem governs (levels : Nat) :
    Governs shape fun s doc => ofDoc? (levels + 1) doc = some s := by
  refine governs_record fields (by decide) (fun _ _ => ofDoc?_iff) ?_
  simp only [fields, List.forall_mem_cons]
  exact ⟨governs_leaf _, governs_leaf _, governs_leaf _, governs_leaf _, governs_leaf _, nofun⟩

theorem ofDoc?_written (s : ConsumerSettings) (levels : Nat) :
    ofDoc? (levels + 1) s.doc = some s ∧ ofDoc? (levels + 1) s.value.doc = some s := by
  have held : List.Forall₂ (fun field doc => Field.holds field s doc) fields
      [.text s.hostAddress, .nat s.connectTimeout.toNat, .nat s.retryInterval.toNat,
        .nat s.livenessInterval.toNat, .nat s.maxFrameLength.toNat] :=
    .cons (Field.holds_text _ _) (.cons (Field.holds_number _ _) (.cons (Field.holds_number _ _)
      (.cons (Field.holds_number _ _) (.cons (Field.holds_number _ _) .nil))))
  rw [doc, value, doc_object]
  exact ⟨ofDoc?_iff.mpr (bears_written held (by simp) (by simp [fields])),
    ofDoc?_iff.mpr (bears_written held (by simp) (by simp [fields]))⟩

theorem writable (s : ConsumerSettings) : s.doc.Writable ∧ s.value.doc.Writable := by
  simp [doc, value, doc_object, Doc.writable_ofFields, Doc.writable_nat, Doc.writable_text]

end ConsumerSettings

theorem LogLevel.ofName?_name (level : LogLevel) : ofName? level.name = some level := by
  cases level <;> decide

namespace LogSettings

variable {s : LogSettings}

/-- The level that a document names. -/
def level? (levels : Nat) (doc : Doc) : Option LogLevel := do
  LogLevel.ofName? (← doc.choice? levels)

/-- The fields of the settings of the log. -/
def fields (levels : Nat) : List (Json.Field LogSettings) :=
  [.part "level" .leaf (level? levels) (·.level), .flag "json_format" (·.json),
    .flag "colored" (·.colored), .flag "include_timestamps" (·.timestamps),
    .flag "include_targets" (·.targets)]

/-- The names in the settings of the log. -/
def shape : Shape :=
  .record [("level", .leaf), ("json_format", .leaf), ("colored", .leaf),
    ("include_timestamps", .leaf), ("include_targets", .leaf)]

theorem ofDoc?_iff :
    ofDoc? (levels + 1) (.object members) = some s ↔ Bears (fields levels) s members := by
  refine record?_iff (fields levels) fun values => ⟨fun read => ?_, ?_⟩
  · split at read
    · simp only [Option.bind_eq_bind, Option.bind_eq_some_iff, Option.pure_def,
        Option.some.injEq] at read
      obtain ⟨_, rfl, name, chosen, level, named, _, rfl, json, jsonRead, _, rfl, colored,
        coloredRead, _, rfl, timestamps, timestampsRead, _, rfl, targets, targetsRead, rfl⟩ := read
      have levelRead : level? levels _ = some level :=
        Option.bind_eq_some_iff.mpr ⟨name, chosen, named⟩
      exact .cons ⟨_, rfl, levelRead⟩ (.cons ⟨_, rfl, jsonRead⟩ (.cons ⟨_, rfl, coloredRead⟩
        (.cons ⟨_, rfl, timestampsRead⟩ (.cons ⟨_, rfl, targetsRead⟩ .nil))))
    · cases read
  · rintro (_ | ⟨⟨_, rfl, levelRead⟩, _ | ⟨⟨_, rfl, jsonRead⟩, _ | ⟨⟨_, rfl, coloredRead⟩,
      _ | ⟨⟨_, rfl, timestampsRead⟩, _ | ⟨⟨_, rfl, targetsRead⟩, _ | _⟩⟩⟩⟩⟩)
    obtain ⟨name, chosen, named⟩ := Option.bind_eq_some_iff.mp levelRead
    have jsonRead : Doc.bool? _ = some s.json := jsonRead
    have coloredRead : Doc.bool? _ = some s.colored := coloredRead
    have timestampsRead : Doc.bool? _ = some s.timestamps := timestampsRead
    have targetsRead : Doc.bool? _ = some s.targets := targetsRead
    simp [chosen, named, jsonRead, coloredRead, timestampsRead, targetsRead]

theorem governs (levels : Nat) :
    Governs shape fun s doc => ofDoc? (levels + 1) doc = some s := by
  refine governs_record (fields levels) (by simp [fields]) (fun _ _ => ofDoc?_iff) ?_
  simp only [fields, List.forall_mem_cons]
  exact ⟨governs_leaf _, governs_leaf _, governs_leaf _, governs_leaf _, governs_leaf _, nofun⟩

theorem ofDoc?_written (s : LogSettings) (levels : Nat) :
    ofDoc? (levels + 1) s.doc = some s ∧ ofDoc? (levels + 1) s.value.doc = some s := by
  have level : level? levels (.text s.level.name) = some s.level := by
    rw [level?, Doc.text, Doc.choice?, Text.string?_ofString]
    exact s.level.ofName?_name
  have held : List.Forall₂ (fun field doc => Field.holds field s doc) (fields levels)
      [.text s.level.name, .bool s.json, .bool s.colored, .bool s.timestamps, .bool s.targets] :=
    .cons level (.cons (Field.holds_flag _ _) (.cons (Field.holds_flag _ _)
      (.cons (Field.holds_flag _ _) (.cons (Field.holds_flag _ _) .nil))))
  rw [doc, value, doc_object]
  exact ⟨ofDoc?_iff.mpr (bears_written held (by simp) (by simp [fields])),
    ofDoc?_iff.mpr (bears_written held (by simp) (by simp [fields]))⟩

theorem writable (s : LogSettings) : s.doc.Writable ∧ s.value.doc.Writable := by
  simp [doc, value, doc_object, Doc.writable_ofFields, Doc.writable_bool, Doc.writable_text]

end LogSettings

/-! ## 3. All settings -/

namespace Settings

variable {s : Settings} {relational : Bool}

/-- The fields of all settings. -/
def fields (relational : Bool) (levels : Nat) : List (Json.Field Settings) :=
  [.part "store" StoreSettings.shape (StoreSettings.ofDoc? relational (levels + 2)) (·.store),
    .part "engine" EngineSettings.shape (EngineSettings.ofDoc? (levels + 2)) (·.engine),
    .part "producer" ProducerSettings.shape (ProducerSettings.ofDoc? (levels + 2)) (·.producer),
    .part "consumer" ConsumerSettings.shape (ConsumerSettings.ofDoc? (levels + 2)) (·.consumer),
    .part "logging" LogSettings.shape (LogSettings.ofDoc? (levels + 2)) (·.log)]

/-- The names in all settings. -/
def shape : Shape :=
  .record [("store", StoreSettings.shape), ("engine", EngineSettings.shape),
    ("producer", ProducerSettings.shape), ("consumer", ConsumerSettings.shape),
    ("logging", LogSettings.shape)]

theorem ofDoc?_iff : ofDoc? relational (levels + 3) (.object members) = some s ↔
    Bears (fields relational levels) s members := by
  refine record?_iff (fields relational levels) fun values => ⟨fun read => ?_, ?_⟩
  · split at read
    · simp only [Option.bind_eq_bind, Option.bind_eq_some_iff, Option.pure_def,
        Option.some.injEq] at read
      obtain ⟨_, rfl, store, storeRead, _, rfl, engine, engineRead, _, rfl, producer, producerRead,
        _, rfl, consumer, consumerRead, _, rfl, log, logRead, rfl⟩ := read
      exact .cons ⟨_, rfl, storeRead⟩ (.cons ⟨_, rfl, engineRead⟩ (.cons ⟨_, rfl, producerRead⟩
        (.cons ⟨_, rfl, consumerRead⟩ (.cons ⟨_, rfl, logRead⟩ .nil))))
    · cases read
  · rintro (_ | ⟨⟨_, rfl, storeRead⟩, _ | ⟨⟨_, rfl, engineRead⟩, _ | ⟨⟨_, rfl, producerRead⟩,
      _ | ⟨⟨_, rfl, consumerRead⟩, _ | ⟨⟨_, rfl, logRead⟩, _ | _⟩⟩⟩⟩⟩)
    have storeRead : StoreSettings.ofDoc? relational (levels + 2) _ = some s.store := storeRead
    have engineRead : EngineSettings.ofDoc? (levels + 2) _ = some s.engine := engineRead
    have producerRead : ProducerSettings.ofDoc? (levels + 2) _ = some s.producer := producerRead
    have consumerRead : ConsumerSettings.ofDoc? (levels + 2) _ = some s.consumer := consumerRead
    have logRead : LogSettings.ofDoc? (levels + 2) _ = some s.log := logRead
    simp [storeRead, engineRead, producerRead, consumerRead, logRead]

/-- Members of other names do not matter to settings, anywhere, and no field may be missing. -/
theorem governs (relational : Bool) (levels : Nat) :
    Governs shape fun s doc => ofDoc? relational (levels + 3) doc = some s := by
  refine governs_record (fields relational levels) (by simp [fields]) (fun _ _ => ofDoc?_iff) ?_
  simp only [fields, List.forall_mem_cons]
  exact ⟨Field.governs_part (StoreSettings.governs relational levels) _ _,
    Field.governs_part (EngineSettings.governs (levels + 1)) _ _,
    Field.governs_part (ProducerSettings.governs (levels + 1)) _ _,
    Field.governs_part (ConsumerSettings.governs (levels + 1)) _ _,
    Field.governs_part (LogSettings.governs (levels + 1)) _ _, nofun⟩

theorem ofDoc?_written (inMemory : s.store.backend = .inMemory) (relational : Bool) (levels : Nat) :
    ofDoc? relational (levels + 3) s.doc = some s ∧
      ofDoc? relational (levels + 3) s.value.doc = some s := by
  obtain ⟨store, store'⟩ := StoreSettings.ofDoc?_written inMemory relational levels
  obtain ⟨engine, engine'⟩ := s.engine.ofDoc?_written (levels + 1)
  obtain ⟨producer, producer'⟩ := s.producer.ofDoc?_written (levels + 1)
  obtain ⟨consumer, consumer'⟩ := s.consumer.ofDoc?_written (levels + 1)
  obtain ⟨log, log'⟩ := s.log.ofDoc?_written (levels + 1)
  have held : List.Forall₂ (fun field doc => Field.holds field s doc) (fields relational levels)
      [s.store.doc, s.engine.doc, s.producer.doc, s.consumer.doc, s.log.doc] :=
    .cons store (.cons engine (.cons producer (.cons consumer (.cons log .nil))))
  have held' : List.Forall₂ (fun field doc => Field.holds field s doc) (fields relational levels)
      [s.store.value.doc, s.engine.value.doc, s.producer.value.doc, s.consumer.value.doc,
        s.log.value.doc] :=
    .cons store' (.cons engine' (.cons producer' (.cons consumer' (.cons log' .nil))))
  rw [doc, value, doc_object]
  exact ⟨ofDoc?_iff.mpr (bears_written held (by simp) (by simp [fields])),
    ofDoc?_iff.mpr (bears_written held' (by simp) (by simp [fields]))⟩

theorem writable (inMemory : s.store.backend = .inMemory) :
    s.doc.Writable ∧ s.value.doc.Writable := by
  simp [doc, value, doc_object, Doc.writable_ofFields, StoreSettings.writable inMemory,
    EngineSettings.writable, ProducerSettings.writable, ConsumerSettings.writable,
    LogSettings.writable]

/-- What comes of reading a document, from any text that spells it or from a value that is written
so. -/
structure Comes (relational : Bool) (doc : Doc) (result : Except Failure Settings) : Prop where
  text {bytes : List UInt8} : doc.Spells bytes → read relational bytes = result
  value {v : Value} : v.doc = doc → ofValue relational v = result

theorem comes_ok {doc : Doc} (known : ofDoc? relational maxDepth doc = some s) :
    Comes relational doc (.ok s) where
  text spells := by rw [read, Doc.read?_eq_some_iff.mpr spells, Option.bind_some, known]
  value same := by rw [ofValue, same, known]

theorem comes_error {doc : Doc} (unknown : ofDoc? relational maxDepth doc = none) :
    Comes relational doc (.error .serialization) where
  text spells := by rw [read, Doc.read?_eq_some_iff.mpr spells, Option.bind_some, unknown]
  value same := by rw [ofValue, same, unknown]

/-- Settings of a store in memory are read back from the text and from the value that are written
for them. This is so of every text and every value that has more members, of names that its objects
do not use, wherever they stand and whatever is in them. From none of these one of the members that
are used can be taken away. -/
theorem read_back (inMemory : s.store.backend = .inMemory) (relational : Bool) :
    read relational s.encode = .ok s ∧ read relational s.value.write = .ok s ∧
      ofValue relational s.value = .ok s ∧
      ∀ start ∈ [s.doc, s.value.doc], ∀ doc, Relation.ReflTransGen shape.Adds start doc →
        Comes relational doc (.ok s) ∧
          ∀ less, shape.Removes doc less → Comes relational less (.error .serialization) := by
  obtain ⟨writes, writes'⟩ := writable inMemory
  obtain ⟨written, written'⟩ := ofDoc?_written inMemory relational 124
  have governs := governs relational 124
  refine ⟨(comes_ok written).text (Doc.read?_eq_some_iff.mp writes.read?_write),
    (comes_ok written').text (Doc.read?_eq_some_iff.mp writes'.read?_write),
    (comes_ok written').value rfl, fun start inEither doc more => ?_⟩
  have known : ofDoc? relational (124 + 3) doc = some s := by
    induction more with
    | refl =>
      rcases List.mem_pair.mp inEither with rfl | rfl
      · exact written
      · exact written'
    | tail _ added ih => exact governs.adds added ih
  refine ⟨comes_ok known, fun less removed => comes_error ?_⟩
  exact Option.eq_none_iff_forall_ne_some.mpr (governs.removes removed known)

/-- With a member more that no one asks for, the standard settings are read back. Then the size of
the pages is left out, deep inside, and nothing is read. -/
theorem read_back_crowded :
    ∃ more less, shape.Adds standard.doc more ∧ shape.Removes more less ∧
      read false more.write = .ok standard ∧ read false less.write = .error .serialization := by
  let store (cursor : Doc) : Doc := .ofFields [("backend", .text "InMemory"),
    ("lock_timeout_ms", .nat 10000), ("change_poll_interval_ms", .nat 1000), ("cursor", cursor)]
  let whole (cursor : Doc) : Doc := .ofFields [("x", .array [.null, .text "\"é\n"]),
    ("store", store cursor), ("engine", standard.engine.doc), ("producer", standard.producer.doc),
    ("consumer", standard.consumer.doc), ("logging", standard.log.doc)]
  let rest : Doc := .ofFields [("parallel_threshold", .nat 10000), ("four_way_threshold", .nat 40000)]
  have added : shape.Adds standard.doc (whole standard.store.cursor.doc) :=
    .here (@Adding.mk _ [] _ _ "x" _ (Text.denotes_ofString "x") (by decide))
  have fewer : CursorSettings.shape.Removes standard.store.cursor.doc rest :=
    .here (@Removing.mk _ [] _ _ "page_size" _ (Text.denotes_ofString "page_size") (by decide))
  have inStore : StoreSettings.shape.Removes (store standard.store.cursor.doc) (store rest) :=
    @Shape.Edits.within _ _ "cursor" _ _ [_, _, _] _ _ _ (by simp)
      (Text.denotes_ofString "cursor") fewer
  have removed : shape.Removes (whole standard.store.cursor.doc) (whole rest) :=
    @Shape.Edits.within _ _ "store" _ _ [_] _ _ _ (by simp) (Text.denotes_ofString "store") inStore
  have extra : (Doc.array [.null, .text "\"é\n"]).Writable :=
    Doc.writable_array (by simp [Doc.writable_null, Doc.writable_text])
  have writes (cursor : Doc) (inner : cursor.Writable) : (whole cursor).Writable := by
    have inStore : (store cursor).Writable :=
      Doc.writable_ofFields (by simp [Doc.writable_text, Doc.writable_nat, inner])
    exact Doc.writable_ofFields (by simp [extra, inStore, EngineSettings.writable,
      ProducerSettings.writable, ConsumerSettings.writable, LogSettings.writable])
  have full := writes _ standard.store.cursor.writable.1
  have short := writes rest (Doc.writable_ofFields (by simp [Doc.writable_nat]))
  obtain ⟨-, -, -, comes⟩ := read_back (s := standard) rfl false
  obtain ⟨known, refused⟩ := comes standard.doc List.mem_cons_self _ (.single added)
  exact ⟨_, _, added, removed, known.text (Doc.read?_eq_some_iff.mp full.read?_write),
    (refused _ removed).text (Doc.read?_eq_some_iff.mp short.read?_write)⟩

end Settings

end TaskQueue
