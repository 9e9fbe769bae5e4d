import TaskQueue.Proofs.Identifier
import TaskQueue.Proofs.Wire.Tagged

/-!
# Commands on the wire

Results:
1. `Command.ofContent?_eq_some_iff`: the contents that make a command of a tag.
2. `Command.decode_iff`: the frames that are commands, and which. Every other frame is malformed.
3. `Command.decode_encode`: every command is decoded from its own frame, so two commands never share
   one, and a frame that is decoded can be encoded and decoded again.
-/

namespace TaskQueue

open Json

/-- The documents that an identifier is read from: strings that denote one of its spellings. -/
def TaskId.WrittenAs (id : TaskId) (doc : Doc) : Prop :=
  ∃ s text, doc = .string s ∧ s.Denotes text.toList ∧ id.SpelledBy text

namespace TaskId

theorem ofDoc?_eq_some_iff {id : TaskId} {doc : Doc} : ofDoc? doc = some id ↔ id.WrittenAs doc := by
  rw [ofDoc?, Option.bind_eq_bind, Option.bind_eq_some_iff]
  constructor
  · rintro ⟨text, known, read⟩
    cases doc with
    | string s =>
      exact ⟨s, text, rfl, Text.string?_eq_some_iff.mp known, ofText?_eq_some_iff.mp read⟩
    | _ => cases known
  · rintro ⟨s, text, rfl, denotes, spelled⟩
    exact ⟨text, Text.string?_eq_some_iff.mpr denotes, ofText?_eq_some_iff.mpr spelled⟩

theorem writtenAs_doc (id : TaskId) : id.WrittenAs id.doc :=
  ⟨_, _, rfl, Text.denotes_ofString id.text, spelledBy_text id⟩

end TaskId

namespace Command

/-! ## 1. Contents -/

/-- The tag and the content of a command. -/
inductive Fits : Command → String → Option Doc → Prop
  | ready : Fits .ready "READY" none
  | readyNull : Fits .ready "READY" (some .null)
  | ack {id : TaskId} {doc : Doc} : id.WrittenAs doc → Fits (.ack id) "ACK" (some doc)
  | nack {id : TaskId} {requeue : Bool} {members : List (Text × Doc)} {named : List (String × Doc)}
      {doc : Doc} : Named members named → Single "id" doc named →
      Single "requeue" (.bool requeue) named → id.WrittenAs doc →
      Fits (.nack id requeue) "NACK" (some (.object members))
  | recover {ids : List TaskId} {items : List Doc} : List.Forall₂ TaskId.WrittenAs ids items →
      Fits (.recover ids) "RECOVER" (some (.array items))
  | error {id : TaskId} {doc : Doc} : id.WrittenAs doc → Fits (.error id) "ERROR" (some doc)

variable {c : Command} {tag : String} {content : Option Doc} {frame : List UInt8}

theorem nackOfDoc?_eq_some_iff {doc : Doc} : nackOfDoc? (maxDepth - 1) doc = some c ↔
    ∃ members named d id requeue, doc = .object members ∧ Named members named ∧
      Single "id" d named ∧ Single "requeue" (.bool requeue) named ∧ id.WrittenAs d ∧
      c = .nack id requeue := by
  simp only [nackOfDoc?, Option.bind_eq_bind, Option.bind_eq_some_iff, Option.pure_def,
    Option.some.injEq]
  constructor
  · rintro ⟨named, opened, _, first, d, rfl, id, known, _, second, b, rfl, requeue, flag, rfl⟩
    obtain ⟨-, members, rfl, names⟩ := Doc.members?_eq_some_iff.mp opened
    cases b with
    | bool b =>
      cases flag
      exact ⟨members, named, d, id, requeue, rfl, names, Doc.single?_eq_some_some_iff.mp first,
        Doc.single?_eq_some_some_iff.mp second, TaskId.ofDoc?_eq_some_iff.mp known, rfl⟩
    | _ => cases flag
  · rintro ⟨members, named, d, id, requeue, rfl, names, first, second, written, rfl⟩
    exact ⟨named, Doc.members?_eq_some_iff.mpr ⟨by decide, _, rfl, names⟩, _,
      Doc.single?_eq_some_some_iff.mpr first, _, rfl, _, TaskId.ofDoc?_eq_some_iff.mpr written, _,
      Doc.single?_eq_some_some_iff.mpr second, _, rfl, _, rfl, rfl⟩

theorem mapM_ofDoc?_eq_some_iff {items : List Doc} {ids : List TaskId} :
    items.mapM TaskId.ofDoc? = some ids ↔ List.Forall₂ TaskId.WrittenAs ids items := by
  rw [Doc.mapM_eq_some_iff]
  constructor
  · intro known
    exact (known.imp fun _ _ => TaskId.ofDoc?_eq_some_iff.mp).flip
  · intro written
    exact (written.imp fun _ _ => TaskId.ofDoc?_eq_some_iff.mpr).flip

/-- A command is made of the tags and the contents that fit it. -/
theorem ofContent?_eq_some_iff :
    ofContent? (maxDepth - 1) tag content = some c ↔ c.Fits tag content := by
  constructor
  · intro read
    rw [ofContent?.eq_def] at read
    split at read
    · cases read
      exact .ready
    · cases read
      exact .readyNull
    · obtain ⟨id, known, rfl⟩ := Option.map_eq_some_iff.mp read
      exact .ack (TaskId.ofDoc?_eq_some_iff.mp known)
    · obtain ⟨members, named, d, id, requeue, rfl, names, first, second, written, rfl⟩ :=
        nackOfDoc?_eq_some_iff.mp read
      exact .nack names first second written
    · next doc =>
      obtain ⟨ids, known, rfl⟩ := Option.map_eq_some_iff.mp read
      cases doc with
      | array items => exact .recover (mapM_ofDoc?_eq_some_iff.mp known)
      | _ => cases known
    · obtain ⟨id, known, rfl⟩ := Option.map_eq_some_iff.mp read
      exact .error (TaskId.ofDoc?_eq_some_iff.mp known)
    · cases read
  · intro fits
    cases fits with
    | ready => rfl
    | readyNull => rfl
    | ack written => exact Option.map_eq_some_iff.mpr ⟨_, TaskId.ofDoc?_eq_some_iff.mpr written, rfl⟩
    | nack names first second written =>
      exact nackOfDoc?_eq_some_iff.mpr ⟨_, _, _, _, _, rfl, names, first, second, written, rfl⟩
    | recover written =>
      exact Option.map_eq_some_iff.mpr ⟨_, mapM_ofDoc?_eq_some_iff.mpr written, rfl⟩
    | error written =>
      exact Option.map_eq_some_iff.mpr ⟨_, TaskId.ofDoc?_eq_some_iff.mpr written, rfl⟩

/-! ## 2. Frames -/

/-- A frame is a command if it spells a document that carries a tag and a content of the command. -/
theorem decode_eq_ok_iff : decode frame = .ok c ↔
    ∃ doc : Doc, ∃ tag content,
      doc.Spells frame ∧ doc.Carries "args" tag content ∧ c.Fits tag content := by
  have found : decode frame = .ok c ↔ (Doc.read? frame).bind ofDoc? = some c := by
    rw [decode]
    cases (Doc.read? frame).bind ofDoc? <;> simp
  rw [found, Option.bind_eq_some_iff]
  simp only [Doc.read?_eq_some_iff, ofDoc?, Option.bind_eq_bind, Option.bind_eq_some_iff,
    ofContent?_eq_some_iff]
  constructor
  · rintro ⟨doc, spells, ⟨tag, content, early⟩, read, fits⟩
    exact ⟨doc, tag, content, spells, (Doc.tagged?_eq_some_iff (by decide)).mp ⟨early, read⟩, fits⟩
  · rintro ⟨doc, tag, content, spells, carries, fits⟩
    obtain ⟨early, read⟩ := (Doc.tagged?_eq_some_iff (by decide)).mpr carries
    exact ⟨doc, spells, _, read, fits⟩

/-- A frame that is no command is malformed. -/
theorem decode_eq_error_iff : decode frame = .error .malformed ↔ ∀ c, decode frame ≠ .ok c := by
  rw [decode]
  cases (Doc.read? frame).bind ofDoc? <;> simp

/-- A tag and a content fit at most one command. -/
theorem Fits.unique {other : Command} (fits : c.Fits tag content) (also : other.Fits tag content) :
    c = other :=
  Option.some.inj
    ((ofContent?_eq_some_iff.mpr fits).symm.trans (ofContent?_eq_some_iff.mpr also))

/-- Commands are the frames of the wire grammar. What a frame is decoded to depends on its tag and
its content only, and of these on nothing but the identifiers that are spelled and the flag. -/
theorem decode_iff (frame : List UInt8) :
    (∀ c, decode frame = .ok c ↔ ∃ doc : Doc, ∃ tag content,
      doc.Spells frame ∧ doc.Carries "args" tag content ∧ c.Fits tag content) ∧
    (decode frame = .error .malformed ↔ ¬ ∃ c, ∃ doc : Doc, ∃ tag content,
      doc.Spells frame ∧ doc.Carries "args" tag content ∧ Fits c tag content) ∧
    ∀ (doc : Doc) (tag : String) (content : Option Doc), doc.Spells frame →
      doc.Carries "args" tag content → ∀ c, decode frame = .ok c ↔ c.Fits tag content := by
  refine ⟨fun c => decode_eq_ok_iff, ?_, ?_⟩
  · rw [decode_eq_error_iff, not_exists]
    exact forall_congr' fun c => not_congr decode_eq_ok_iff
  · intro doc tag content spells carries c
    refine ⟨fun decoded => ?_, fun fits => decode_eq_ok_iff.mpr ⟨_, _, _, spells, carries, fits⟩⟩
    obtain ⟨doc', tag', content', spells', carries', fits⟩ := decode_eq_ok_iff.mp decoded
    obtain rfl := spells.unique spells'
    obtain ⟨rfl, rfl⟩ := carries.unique (by decide) carries'
    exact fits

/-- The frame of an object with some members in their order. -/
def frameOf (members : List (String × Doc)) : List UInt8 :=
  Doc.write (.object (members.map fun m => (Text.ofString m.1, m.2)))

/-- The content of a command that gives a task up, with one member more whose number is out of
range. -/
def crowded : Doc :=
  .object [(Text.ofString "id", (TaskId.ofNat 1).doc), (Text.ofString "requeue", .bool true),
    (Text.ofString "x", .number ⟨false, digitsOfNat 1, [], some (false, digitsOfNat 999)⟩)]

/-- The grammar is not the plain one: a tag need not be a string, a frame need not be UTF-8 where
nothing is asked for, and the order of the members counts, since a content in front of its tag is
read as a whole. -/
theorem decode_beyond_plain :
    decode (frameOf [("type", .object [(Text.ofString "READY", .null)])]) = .ok .ready ∧
    decode (frameOf [("type", .string (Text.ofString "READY")), ("x", .string [.byte 0xff])]) =
      .ok .ready ∧
    Utf8.decode? (frameOf [("type", .string (Text.ofString "READY")),
      ("x", .string [.byte 0xff])]) = none ∧
    decode (frameOf [("type", .string (Text.ofString "NACK")), ("args", crowded)]) =
      .ok (.nack (.ofNat 1) true) ∧
    decode (frameOf [("args", crowded), ("type", .string (Text.ofString "NACK"))]) =
      .error .malformed := by
  decide +kernel

/-! ## 3. The way back -/

/-- The tag of a command, and its content if it has one. -/
def parts : Command → String × Option Doc
  | .ready => ("READY", none)
  | .ack id => ("ACK", some id.doc)
  | .nack id requeue =>
    ("NACK", some (.object [(Text.ofString "id", id.doc), (Text.ofString "requeue", .bool requeue)]))
  | .recover ids => ("RECOVER", some (.array (ids.map TaskId.doc)))
  | .error id => ("ERROR", some id.doc)

theorem doc_eq (c : Command) : c.doc = .ofTagged "args" c.parts.1 c.parts.2 := by
  cases c <;> rfl

theorem fits_parts (c : Command) : c.Fits c.parts.1 c.parts.2 := by
  cases c with
  | ready => exact .ready
  | ack id => exact .ack id.writtenAs_doc
  | error id => exact .error id.writtenAs_doc
  | recover ids =>
    refine .recover ?_
    rw [List.forall₂_map_right_iff, List.forall₂_same]
    exact fun id _ => id.writtenAs_doc
  | nack id requeue =>
    have other : "requeue" ≠ "id" := by decide
    have first : Single "id" id.doc [("id", id.doc), ("requeue", .bool requeue)] :=
      ⟨[], [("requeue", .bool requeue)], rfl, nofun, List.forall_mem_singleton.mpr other⟩
    have second : Single "requeue" (.bool requeue) [("id", id.doc), ("requeue", .bool requeue)] :=
      ⟨[("id", id.doc)], [], rfl, List.forall_mem_singleton.mpr other.symm, nofun⟩
    exact .nack (.cons ⟨Text.denotes_ofString "id", rfl⟩
      (.cons ⟨Text.denotes_ofString "requeue", rfl⟩ .nil)) first second id.writtenAs_doc

theorem writable_id (id : TaskId) : id.doc.Writable :=
  Doc.writable_string (Text.isPlain_ofString _)

theorem writable_parts (c : Command) : ∀ d ∈ c.parts.2, d.Writable := by
  cases c with
  | ready => nofun
  | ack id =>
    rintro _ ⟨⟩
    exact writable_id id
  | error id =>
    rintro _ ⟨⟩
    exact writable_id id
  | recover ids =>
    rintro _ ⟨⟩
    refine Doc.writable_array fun d member => ?_
    obtain ⟨id, -, rfl⟩ := List.mem_map.mp member
    exact writable_id id
  | nack id requeue =>
    rintro _ ⟨⟩
    exact Doc.writable_object (List.forall_mem_cons.mpr ⟨⟨Text.isPlain_ofString _, writable_id id⟩,
      List.forall_mem_singleton.mpr ⟨Text.isPlain_ofString _, Doc.writable_bool requeue⟩⟩)

/-- A command is decoded from its own frame. -/
theorem decode_encode (c : Command) : decode (encode c) = .ok c := by
  have spells : c.doc.Spells (encode c) := by
    rw [encode, doc_eq]
    exact spread_write (Doc.writable_ofTagged (writable_parts c))
  refine decode_eq_ok_iff.mpr ⟨c.doc, _, _, spells, ?_, fits_parts c⟩
  rw [doc_eq]
  exact Doc.carries_ofTagged _ _ _ (by decide)

/-- Commands go to and fro: each is decoded from its own frame, no two share a frame, and what is
decoded from any frame is decoded again once it has been encoded. -/
theorem roundTrip : (∀ c, decode (encode c) = .ok c) ∧ Function.Injective encode ∧
    ∀ frame, ((decode frame).bind fun c => decode (encode c)) = decode frame := by
  refine ⟨decode_encode, fun c d same => ?_, fun frame => ?_⟩
  · have known := decode_encode d
    rw [← same, decode_encode c] at known
    exact Except.ok.inj known
  · cases decode frame with
    | error failure => rfl
    | ok c => exact decode_encode c

end Command

end TaskQueue
