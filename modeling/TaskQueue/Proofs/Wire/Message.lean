import TaskQueue.Proofs.Wire.Command

/-!
# Messages on the wire

Results:
1. `StringSet.ofList_toList`: a set is made again of its elements in order.
2. `Task.ofDoc?_doc`: a task is read from its own document if and only if its payload nests no
   deeper than the levels that are left for it.
3. `Message.decode_encode`: a task goes to and fro if and only if its payload nests at most 125 deep;
   texts of errors always do.
-/

namespace TaskQueue

open Json

/-! ## 1. Sets of strings -/

namespace StringSet

theorem place_last {s : String} {ts : List String} (last : ∀ t ∈ ts, t < s) :
    place s ts = ts ++ [s] := by
  induction ts with
  | nil => rfl
  | cons t ts ih =>
    obtain ⟨own, later⟩ := List.forall_mem_cons.mp last
    rw [place, if_neg (String.lt_asymm own), if_neg (String.ne_of_lt own).symm, ih later,
      List.cons_append]

theorem toList_foldl_insert (set : StringSet) (ts : List String)
    (sorted : (set.toList ++ ts).Pairwise (· < ·)) :
    (ts.foldl (fun set s => set.insert s) set).toList = set.toList ++ ts := by
  induction ts generalizing set with
  | nil => simp
  | cons t ts ih =>
    have last : ∀ s ∈ set.toList, s < t := fun s inFront =>
      (List.pairwise_append.mp sorted).2.2 s inFront t List.mem_cons_self
    have placed : (set.insert t).toList = set.toList ++ [t] := place_last last
    rw [List.foldl_cons, ih, placed, List.append_assoc, List.singleton_append]
    rw [placed, List.append_assoc]
    exact sorted

/-- A set is made again of its elements in order. -/
theorem ofList_toList (set : StringSet) : ofList set.toList = set := by
  have same := toList_foldl_insert empty set.toList set.sorted
  cases made : ofList set.toList with
  | mk toList sorted =>
    rw [ofList] at made
    rw [made] at same
    cases set
    simp only [empty, List.nil_append] at same
    subst same
    rfl

end StringSet

/-! ## 2. Tasks -/

namespace Json

theorem int?_ofInt {low high i : Int} (fits : FitsWord i) (within : low ≤ i ∧ i ≤ high) :
    (Doc.number (Numeral.ofInt i)).int? low high = some i := by
  rw [Doc.int?, Numeral.integer?_ofInt fits]
  exact if_pos within

theorem fitsWord_nat {n : Nat} (bound : n < UInt64.size) : FitsWord n := by
  constructor
  · omega
  · exact Int.ofNat_lt.mpr bound

theorem word?_nat {size n : Nat} (bound : n < size) (fits : size ≤ UInt64.size) :
    (Value.nat n).doc.word? size = some n := by
  have read : (Doc.number (Numeral.ofInt (n : Int))).int? 0 ((size : Int) - 1) = some (n : Int) :=
    int?_ofInt (fitsWord_nat (Nat.lt_of_lt_of_le bound fits)) (by omega)
  rw [Value.nat, Value.doc, Doc.word?, read]
  rfl

theorem list?_strings (strings : List String) {levels : Nat} (entered : levels ≠ 0) :
    (Value.array (strings.map .string)).doc.list? (fun _ item => item.string?) levels =
      some strings := by
  rw [Value.doc, Doc.list?, if_neg entered]
  induction strings with
  | nil => rfl
  | cons s strings ih =>
    rw [List.map_cons, Value.itemDocs, List.mapM_cons, ih, Value.doc, Doc.string?,
      Text.string?_ofString]
    rfl

theorem nullable?_ofOption (s : Option String) :
    (Value.ofOption s).doc.nullable? Doc.string? = some s := by
  cases s with
  | none => rfl
  | some s =>
    rw [Value.ofOption, Value.doc, Doc.nullable?, Doc.string?, Text.string?_ofString]
    · rfl
    · rintro ⟨⟩

end Json

theorem TaskState.ofName?_name (state : TaskState) : ofName? state.name = some state := by
  cases state <;> decide

namespace Task

variable {t : Task}

/-- The value of the time at which a task was taken. -/
def startedValue (started : Option UInt64) : Value :=
  match started with
  | none => .null
  | some started => .nat started.toNat

theorem fields_eq (t : Task) : t.fields =
    [.string t.id.text, .string t.kind, .ofOption t.group, .array (t.tags.toList.map .string),
      .integer t.priority.toInt, .ofOption t.reference, .nat t.created.toNat, .nat t.order,
      .nat t.attempts.toNat, startedValue t.started, .string t.state.name, t.payload] := rfl

theorem fitsWord_priority (t : Task) : FitsWord t.priority.toInt := by
  have low := t.priority.minValue_le_toInt
  have high := t.priority.toInt_le
  constructor
  · exact Int.le_trans (by decide) low
  · exact Int.lt_of_le_of_lt high (by decide)

theorem exact_nat {n : Nat} (bound : n < UInt64.size) : (Value.nat n).Exact :=
  .integer (fitsWord_nat bound)

theorem exact_ofOption (s : Option String) : (Value.ofOption s).Exact := by
  cases s with
  | none => exact .null
  | some s => exact .string s

theorem exact_startedValue (started : Option UInt64) : (startedValue started).Exact := by
  cases started with
  | none => exact .null
  | some started => exact exact_nat started.toNat_lt

theorem exact_strings (strings : List String) : (Value.array (strings.map .string)).Exact := by
  refine .array fun v member => ?_
  obtain ⟨s, -, rfl⟩ := List.mem_map.mp member
  exact .string s

/-- No field of a task is a float, if its payload has none. -/
theorem exact_fields (bounded : t.order < UInt64.size) (exact : t.payload.Exact) :
    ∀ v ∈ t.fields, v.Exact := by
  simp only [fields_eq, List.forall_mem_cons]
  exact ⟨.string _, .string _, exact_ofOption _, exact_strings _, .integer (fitsWord_priority t),
    exact_ofOption _, exact_nat t.created.toNat_lt, exact_nat bounded,
    exact_nat (Nat.lt_trans t.attempts.toNat_lt (by decide)), exact_startedValue _, .string _,
    exact, nofun⟩

theorem nullable?_startedValue (started : Option UInt64) :
    (startedValue started).doc.nullable? (Doc.word? UInt64.size) = some (started.map (·.toNat)) := by
  cases started with
  | none => rfl
  | some started => exact congrArg (Option.map some) (word?_nat started.toNat_lt (Nat.le_refl _))

/-- A task is read from its own document, unless its payload nests too deep for the levels left. -/
theorem ofDoc?_doc (bounded : t.order < UInt64.size) (exact : t.payload.Exact) (levels : Nat) :
    ofDoc? (levels + 2) t.doc = if t.payload.depth ≤ levels + 1 then some t else none := by
  have distinct : fieldNames.Nodup := by decide
  have lengths : fieldNames.length = (t.fields.map Value.doc).length := by
    rw [List.length_map]
    rfl
  have found := Doc.record?_ofFields distinct lengths (Nat.succ_ne_zero (levels + 1))
  have id : TaskId.ofDoc? (Value.string t.id.text).doc = some t.id :=
    TaskId.ofDoc?_eq_some_iff.mpr t.id.writtenAs_doc
  have kind : (Value.string t.kind).doc.string? = some t.kind := Text.string?_ofString t.kind
  have tags := list?_strings t.tags.toList (Nat.succ_ne_zero levels)
  have priority : (Value.integer t.priority.toInt).doc.int? Int32.minValue.toInt
      Int32.maxValue.toInt = some t.priority.toInt :=
    int?_ofInt (fitsWord_priority t) ⟨t.priority.minValue_le_toInt, t.priority.toInt_le⟩
  have created : (Value.nat t.created.toNat).doc.word? UInt64.size = some t.created.toNat :=
    word?_nat t.created.toNat_lt (Nat.le_refl _)
  have order := word?_nat bounded (Nat.le_refl _)
  have attempts : (Value.nat t.attempts.toNat).doc.word? UInt32.size = some t.attempts.toNat :=
    word?_nat t.attempts.toNat_lt (by decide)
  have state : TaskState.ofDoc? (levels + 1) (Value.string t.state.name).doc = some t.state := by
    rw [TaskState.ofDoc?, Value.doc, Doc.choice?, Text.string?_ofString]
    exact TaskState.ofName?_name t.state
  rw [ofDoc?, doc, found, fields_eq, Option.bind_eq_bind, Option.bind_some]
  simp only [List.map_cons, List.map_nil]
  simp only [Option.bind_eq_bind, Option.bind_some, Option.getD_some, id, kind,
    nullable?_ofOption, tags, priority, created, order, attempts, nullable?_startedValue, state,
    Nat.add_one_sub_one, exact.keep?_doc]
  have started : (t.started.map (·.toNat)).map UInt64.ofNat = t.started := by
    cases t.started <;> simp
  rw [started, StringSet.ofList_toList, Int32.ofInt_toInt, UInt64.ofNat_toNat, UInt32.ofNat_toNat]
  split <;> rfl

theorem writable_doc (bounded : t.order < UInt64.size) (exact : t.payload.Exact) :
    t.doc.Writable := by
  refine Doc.writable_object fun m member => ?_
  obtain ⟨inNames, inFields⟩ := List.of_mem_zip member
  obtain ⟨name, -, same⟩ := List.mem_map.mp inNames
  obtain ⟨v, field, made⟩ := List.mem_map.mp inFields
  rw [← same, ← made]
  exact ⟨Text.isPlain_ofString name, (exact_fields bounded exact v field).writable⟩

end Task

/-! ## 3. Frames -/

namespace Message

variable {tag : String} {content : Option Doc}

/-- What is decoded from the frame that is written for a tag and a content. -/
theorem decode_ofTagged (writable : ∀ d ∈ content, d.Writable) :
    decode (Doc.write (.ofTagged "body" tag content)) =
      ((ofContent? (maxDepth - 1) tag content).elim (.error .malformed) .ok) := by
  obtain ⟨early, read⟩ := (Doc.tagged?_eq_some_iff (by decide)).mpr
    (Doc.carries_ofTagged "body" tag content (by decide))
  rw [decode, (Doc.writable_ofTagged writable).read?_write, Option.bind_some, ofDoc?, read]
  simp only [Option.bind_eq_bind, Option.bind_some]
  cases ofContent? (maxDepth - 1) tag content <;> rfl

theorem decode_encode_error (text : String) : decode (encode (.error text)) = .ok (.error text) := by
  have writable : ∀ d ∈ some (Doc.string (Text.ofString text)), d.Writable := by
    rintro _ ⟨⟩
    exact Doc.writable_string (Text.isPlain_ofString text)
  rw [encode, doc, decode_ofTagged writable]
  simp [ofContent?, Doc.string?]

theorem decode_encode_task {t : Task} (bounded : t.order < UInt64.size)
    (exact : t.payload.Exact) : decode (encode (.task t)) =
      if t.payload.depth ≤ 125 then .ok (.task t) else .error .malformed := by
  have writable : ∀ d ∈ some t.doc, d.Writable := by
    rintro _ ⟨⟩
    exact Task.writable_doc bounded exact
  have read := Task.ofDoc?_doc bounded exact 124
  rw [encode, doc, decode_ofTagged writable]
  simp only [ofContent?, maxDepth, Nat.reduceSub, Nat.reduceAdd] at read ⊢
  rw [read]
  split <;> rfl

/-- A task without floats goes to and fro if and only if the arrays and objects of its payload nest
at most 125 deep; a deeper one makes a frame that no one reads. The text of an error always goes to
and fro. -/
theorem roundTrip_iff {t : Task} (bounded : t.order < UInt64.size) (exact : t.payload.Exact) :
    (decode (encode (.task t)) = .ok (.task t) ↔ t.payload.depth ≤ 125) ∧
    (125 < t.payload.depth → decode (encode (.task t)) = .error .malformed) ∧
    ∀ text, decode (encode (.error text)) = .ok (.error text) := by
  have task := decode_encode_task bounded exact
  refine ⟨?_, fun deep => ?_, decode_encode_error⟩
  · rw [task]
    split
    · next fits => exact iff_of_true rfl fits
    · next deep => exact iff_of_false nofun deep
  · rw [task, if_neg (Nat.not_le.mpr deep)]

/-- Objects with a text, a number and a list, nested in one another. -/
def nested : Nat → Value
  | 0 => .null
  | n + 1 => .object [("inner", nested n), ("list", .array [.bool true, .string "\"é\""]),
      ("number", .integer (-7))]

theorem depth_nested (n : Nat) : (nested (n + 1)).depth = n + 2 := by
  induction n with
  | zero => rfl
  | succ n ih =>
    rw [nested, Value.depth, Value.depthOfMembers, ih]
    simp [Value.depthOfMembers, Value.depth, Value.depthOfItems]
    omega

theorem exact_nested (n : Nat) : (nested n).Exact := by
  induction n with
  | zero => exact .null
  | succ n ih =>
    have keys : ["inner", "list", "number"].Pairwise (· < ·) := by decide
    refine .object (List.pairwise_map (f := Prod.fst) |>.mp keys) ?_
    simp only [List.forall_mem_cons]
    refine ⟨ih, .array ?_, .integer ⟨by decide, by decide⟩, nofun⟩
    simp only [List.forall_mem_cons]
    exact ⟨.bool true, .string _, nofun⟩

/-- The limit is met: 125 levels go to and fro, and 126 do not. -/
theorem roundTrip_nested :
    decode (encode (.task (.new (.ofNat 1) 0 "kind" (nested 124)))) =
      .ok (.task (.new (.ofNat 1) 0 "kind" (nested 124))) ∧
    decode (encode (.task (.new (.ofNat 1) 0 "kind" (nested 125)))) = .error .malformed :=
  ⟨(roundTrip_iff (by decide) (exact_nested 124)).1.mpr (depth_nested 123).le,
    (roundTrip_iff (by decide) (exact_nested 125)).2.1 (depth_nested 124).ge⟩

end Message

end TaskQueue
