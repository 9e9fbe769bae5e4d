import Mathlib.Logic.Relation
import TaskQueue.Proofs.Json.Record

/-!
# Documents with more or fewer members

A shape says which names the objects of a document use, down to those that are not looked into. A
member of another name can be added to any of these objects (`Shape.Adds`), and a member of a used
name can be removed from any of them (`Shape.Removes`).

Results:
1. `single_insert`, `named_around`: members of other names do not matter, wherever they stand.
2. `governs_leaf`, `governs_record`: what is read from an object that bears its fields does not
   change when members are added, and cannot be read when one is removed, if the same is true of
   each field.
3. `record?_iff`: a record that asks for each of its fields is read from the objects that bear them.
4. `bears_written`: an object that is written for the fields bears them.
-/

namespace TaskQueue.Json

/-! ## 1. Shapes -/

/-- The names that are used in a document, and in what stands under them. -/
inductive Shape
  | leaf
  | record (fields : List (String × Shape))

/-- A change to the members of an object that uses some names. -/
abbrev Edit :=
  List String → List (Text × Doc) → List (Text × Doc) → Prop

/-- One more member, of a name that is not used. -/
inductive Adding : Edit
  | mk {names : List String} {front back : List (Text × Doc)} {text : Text} {name : String}
      {content : Doc} : text.Denotes name.toList → name ∉ names →
      Adding names (front ++ back) (front ++ (text, content) :: back)

/-- One member of a used name less. -/
inductive Removing : Edit
  | mk {names : List String} {front back : List (Text × Doc)} {text : Text} {name : String}
      {content : Doc} : text.Denotes name.toList → name ∈ names →
      Removing names (front ++ (text, content) :: back) (front ++ back)

/-- One of the objects of a document is changed. -/
inductive Shape.Edits (edit : Edit) : Shape → Doc → Doc → Prop
  | here {fields : List (String × Shape)} {members members' : List (Text × Doc)} :
      edit (fields.map Prod.fst) members members' →
      Edits edit (.record fields) (.object members) (.object members')
  | within {fields : List (String × Shape)} {name : String} {shape : Shape} {text : Text}
      {front back : List (Text × Doc)} {doc doc' : Doc} :
      (name, shape) ∈ fields → text.Denotes name.toList → Edits edit shape doc doc' →
      Edits edit (.record fields) (.object (front ++ (text, doc) :: back))
        (.object (front ++ (text, doc') :: back))

/-- One of the objects has one more member, of a name that it does not use. -/
abbrev Shape.Adds : Shape → Doc → Doc → Prop :=
  Shape.Edits Adding

/-- One of the objects has one member less, of a name that it uses. -/
abbrev Shape.Removes : Shape → Doc → Doc → Prop :=
  Shape.Edits Removing

/-! ## 2. Members -/

section members

variable {name key : String} {value content : Doc} {front back : List (Text × Doc)}
  {named before after : List (String × Doc)} {text : Text}

theorem Text.Denotes.unique {s t : String} (first : text.Denotes s.toList)
    (second : text.Denotes t.toList) : s = t :=
  Option.some.inj
    ((Text.string?_eq_some_iff.mpr first).symm.trans (Text.string?_eq_some_iff.mpr second))

theorem Named.unique {members : List (Text × Doc)} {other : List (String × Doc)}
    (names : Named members named) (also : Named members other) : named = other := by
  induction names generalizing other with
  | nil => cases also; rfl
  | cons own _ ih =>
    cases also with
    | cons own' later =>
      obtain ⟨spelled, same⟩ := own
      obtain ⟨spelled', same'⟩ := own'
      rw [Prod.ext (spelled.unique spelled') (same.symm.trans same'), ih later]

theorem named_append : Named (front ++ back) named ↔
    ∃ before after, named = before ++ after ∧ Named front before ∧ Named back after := by
  constructor
  · intro members
    induction front generalizing named with
    | nil => exact ⟨[], named, rfl, .nil, members⟩
    | cons m front ih =>
      cases members with
      | cons own later =>
        obtain ⟨before, after, rfl, first, second⟩ := ih later
        exact ⟨_ :: before, after, rfl, .cons own first, second⟩
  · rintro ⟨before, after, rfl, first, second⟩
    exact List.rel_append first second

/-- A member stands among the names in the place where it stands among the members. -/
theorem named_around (denotes : text.Denotes name.toList) :
    Named (front ++ (text, content) :: back) named ↔
      ∃ before after, named = before ++ (name, content) :: after ∧ Named front before ∧
        Named back after := by
  rw [named_append]
  constructor
  · rintro ⟨before, rest, rfl, first, second⟩
    cases second with
    | @cons _ m _ after own later =>
      obtain ⟨spelled, rfl⟩ := own
      obtain rfl := denotes.unique spelled
      exact ⟨before, after, rfl, first, later⟩
  · rintro ⟨before, after, rfl, first, later⟩
    exact ⟨before, _, rfl, first, .cons ⟨denotes, rfl⟩ later⟩

/-- A member of another name does not matter. -/
theorem single_insert (other : key ≠ name) :
    Single name value (before ++ (key, content) :: after) ↔ Single name value (before ++ after) := by
  simp only [Doc.single_iff, List.filter_append, List.filter_cons, decide_eq_true_eq, other,
    if_false]

/-- The only member of a name is the one that is known to have it. -/
theorem single_own (single : Single name value (before ++ (name, content) :: after)) :
    value = content ∧ Lacks name (before ++ after) := by
  simp only [Doc.single_iff, List.filter_append, List.filter_cons, decide_true, if_true] at single
  have none : before.filter (·.1 = name) = [] ∧ after.filter (·.1 = name) = [] := by
    have length := congrArg List.length single
    simp only [List.length_append, List.length_cons, List.length_nil] at length
    exact ⟨List.eq_nil_of_length_eq_zero (by omega), List.eq_nil_of_length_eq_zero (by omega)⟩
  rw [none.1, none.2] at single
  have same : content = value := congrArg Prod.snd (List.cons.inj single).1
  refine ⟨same.symm, ?_⟩
  rw [Doc.lacks_iff, List.filter_append, none.1, none.2]
  rfl

/-- A member whose name no other has is the only one of its name. -/
theorem single_of_lacks (lacks : Lacks name (before ++ after)) :
    Single name value (before ++ (name, value) :: after) :=
  have ⟨first, second⟩ := List.forall_mem_append.mp lacks
  ⟨before, after, rfl, first, second⟩

theorem not_single_of_lacks (lacks : Lacks name named) : ¬ Single name value named := by
  rintro ⟨before, after, rfl, -, -⟩
  exact lacks (name, value) (by simp) rfl

theorem single_of_mem (distinct : (named.map Prod.fst).Nodup) (member : (name, value) ∈ named) :
    Single name value named := by
  obtain ⟨before, after, rfl⟩ := List.append_of_mem member
  refine single_of_lacks fun m other same => ?_
  rw [List.map_append, List.map_cons, List.nodup_middle, List.nodup_cons, ← List.map_append]
    at distinct
  exact distinct.1 (List.mem_map.mpr ⟨m, other, same⟩)

end members

/-! ## 3. Fields -/

/-- A field of a record of type `α`: its name, its shape, and what stands under the name if the
record is a given one. -/
structure Field (α : Type) where
  name : String
  shape : Shape
  holds : α → Doc → Prop

/-- The shape of an object with some fields. -/
def Shape.ofFields {α : Type} (fields : List (Field α)) : Shape :=
  .record (fields.map fun field => (field.name, field.shape))

variable {α β : Type} {fields : List (Field α)} {a : α} {named : List (String × Doc)}
  {members : List (Text × Doc)}

/-- Each field of a record stands once among some members. -/
def Bears (fields : List (Field α)) (a : α) (members : List (Text × Doc)) : Prop :=
  ∃ named, Named members named ∧
    ∀ field ∈ fields, ∃ value, Single field.name value named ∧ field.holds a value

/-- More members do not change what a document says, and without one of its own it says nothing. -/
structure Governs (shape : Shape) (holds : α → Doc → Prop) : Prop where
  adds {doc doc' : Doc} {a : α} : shape.Adds doc doc' → holds a doc → holds a doc'
  removes {doc doc' : Doc} {a : α} : shape.Removes doc doc' → holds a doc → ∀ b, ¬ holds b doc'

/-- Nothing is added to or removed from what is not looked into. -/
theorem governs_leaf (holds : α → Doc → Prop) : Governs .leaf holds where
  adds edited := by cases edited
  removes edited := by cases edited

/-- What governs a part governs the record that has the part. -/
theorem Governs.part {shape : Shape} {holds : β → Doc → Prop} (governs : Governs shape holds)
    (part : α → β) : Governs shape fun a => holds (part a) where
  adds := governs.adds
  removes edited held b := governs.removes edited held (part b)

theorem mem_names {name : String} :
    name ∈ (fields.map fun field => (field.name, field.shape)).map Prod.fst ↔
      ∃ field ∈ fields, field.name = name := by
  simp

/-- One member of an object changes, and stays under its name. -/
theorem Bears.replace (distinct : (fields.map Field.name).Nodup) {front back : List (Text × Doc)}
    {text : Text} {doc : Doc} {field : Field α} (inFields : field ∈ fields)
    (denotes : text.Denotes field.name.toList)
    (bears : Bears fields a (front ++ (text, doc) :: back)) :
    field.holds a doc ∧
      ∀ doc', field.holds a doc' → Bears fields a (front ++ (text, doc') :: back) := by
  obtain ⟨named, names, each⟩ := bears
  obtain ⟨before, after, rfl, first, later⟩ := (named_around denotes).mp names
  obtain ⟨value, single, holds⟩ := each field inFields
  obtain ⟨rfl, lacks⟩ := single_own single
  refine ⟨holds, fun doc' holds' => ⟨_, (named_around denotes).mpr ⟨before, after, rfl, first, later⟩,
    fun other inFields' => ?_⟩⟩
  by_cases same : other.name = field.name
  · obtain rfl : other = field := List.inj_on_of_nodup_map distinct inFields' inFields same
    exact ⟨doc', single_of_lacks lacks, holds'⟩
  · obtain ⟨value, single, holds⟩ := each other inFields'
    exact ⟨value, (single_insert (Ne.symm same)).mpr ((single_insert (Ne.symm same)).mp single),
      holds⟩

/-- An object that bears its fields is governed by their shapes. -/
theorem governs_record (fields : List (Field α)) (distinct : (fields.map Field.name).Nodup)
    {holds : α → Doc → Prop}
    (bears : ∀ a members, holds a (.object members) ↔ Bears fields a members)
    (each : ∀ field ∈ fields, Governs field.shape field.holds) :
    Governs (.ofFields fields) holds where
  adds {doc doc' a} edited held := by
    cases edited with
    | here added =>
      cases added with
      | @mk _ front back text name content denotes unused =>
        rw [bears] at held ⊢
        obtain ⟨named, names, held⟩ := held
        obtain ⟨before, after, rfl, first, later⟩ := named_append.mp names
        refine ⟨_, (named_around denotes).mpr ⟨before, after, rfl, first, later⟩,
          fun field inFields => ?_⟩
        obtain ⟨value, single, holds⟩ := held field inFields
        have other : name ≠ field.name :=
          fun same => unused (mem_names.mpr ⟨field, inFields, same.symm⟩)
        exact ⟨value, (single_insert other).mpr single, holds⟩
    | within inShape denotes inner =>
      obtain ⟨field, inFields, same⟩ := List.mem_map.mp inShape
      cases same
      rw [bears] at held ⊢
      obtain ⟨own, replaced⟩ := held.replace distinct inFields denotes
      exact replaced _ ((each field inFields).adds inner own)
  removes {doc doc' a} edited held b held' := by
    cases edited with
    | here removed =>
      cases removed with
      | @mk _ front back text name content denotes used =>
        obtain ⟨field, inFields, rfl⟩ := mem_names.mp used
        rw [bears] at held held'
        obtain ⟨named, names, held⟩ := held
        obtain ⟨before, after, rfl, first, later⟩ := (named_around denotes).mp names
        obtain ⟨value, single, -⟩ := held field inFields
        obtain ⟨-, lacks⟩ := single_own single
        obtain ⟨named, names, held'⟩ := held'
        rw [names.unique (List.rel_append first later)] at held'
        obtain ⟨value', single', -⟩ := held' field inFields
        exact not_single_of_lacks lacks single'
    | within inShape denotes inner =>
      obtain ⟨field, inFields, same⟩ := List.mem_map.mp inShape
      cases same
      rw [bears] at held held'
      obtain ⟨own, -⟩ := held.replace distinct inFields denotes
      obtain ⟨own', -⟩ := held'.replace distinct inFields denotes
      exact (each field inFields).removes inner own b own'

/-! ## 4. Records -/

theorem holds_of_single? {values : List (Option Doc)}
    (found : List.Forall₂ (fun field value => Doc.single? (Field.name field) named = some value)
      fields values)
    (held : List.Forall₂ (fun field value => ∃ doc, value = some doc ∧ Field.holds field a doc)
      fields values) :
    ∀ field ∈ fields, ∃ value, Single field.name value named ∧ field.holds a value := by
  induction found with
  | nil => nofun
  | cons own _ ih =>
    cases held with
    | cons present later =>
      obtain ⟨doc, rfl, holds⟩ := present
      have single := Doc.single?_eq_some_some_iff.mp own
      exact List.forall_mem_cons.mpr ⟨⟨doc, single, holds⟩, ih later⟩

/-- A record that asks for each of its fields is read from an object if and only if the object bears
them. -/
theorem record?_iff (fields : List (Field α)) {read : List (Option Doc) → Option α} {levels : Nat}
    (reads : ∀ values, read values = some a ↔
      List.Forall₂ (fun field value => ∃ doc, value = some doc ∧ field.holds a doc) fields
        values) :
    ((Doc.object members).record? (fields.map Field.name) (levels + 1)).bind read = some a ↔
      Bears fields a members := by
  have entered : (Doc.object members).record? (fields.map Field.name) (levels + 1) =
      ((Doc.object members).members? (levels + 1)).bind fun named =>
        (fields.map Field.name).mapM (Doc.single? · named) := by
    rw [Doc.record?]
    · rfl
    · rintro items ⟨⟩
  simp only [entered, Option.bind_eq_some_iff, Doc.mapM_eq_some_iff, List.forall₂_map_left_iff,
    Doc.members?_eq_some_iff, reads]
  constructor
  · rintro ⟨values, ⟨named, ⟨-, _, ⟨⟩, names⟩, found⟩, held⟩
    exact ⟨named, names, holds_of_single? found held⟩
  · rintro ⟨named, names, each⟩
    choose! value single holds using each
    refine ⟨fields.map fun field => some (value field),
      ⟨named, ⟨Nat.succ_ne_zero levels, members, rfl, names⟩, ?_⟩, ?_⟩
    · rw [List.forall₂_map_right_iff, List.forall₂_same]
      exact fun field inFields => Doc.single?_eq_some_some_iff.mpr (single field inFields)
    · rw [List.forall₂_map_right_iff, List.forall₂_same]
      exact fun field inFields => ⟨_, rfl, holds field inFields⟩

/-- What is written for the fields under their names is borne, in whatever order and among whatever
else it stands. -/
theorem bears_written {docs : List Doc}
    (held : List.Forall₂ (fun field doc => Field.holds field a doc) fields docs)
    (distinct : (named.map Prod.fst).Nodup) (all : (fields.map Field.name).zip docs ⊆ named) :
    Bears fields a (named.map fun m => (Text.ofString m.1, m.2)) := by
  refine ⟨named, ?_, fun field inFields => ?_⟩
  · rw [Named, List.forall₂_map_left_iff, List.forall₂_same]
    exact fun m _ => ⟨Text.denotes_ofString m.1, rfl⟩
  · have written : ∃ doc, (field.name, doc) ∈ (fields.map Field.name).zip docs ∧
        field.holds a doc := by
      clear all
      induction held with
      | nil => cases inFields
      | cons own _ ih =>
        rcases List.mem_cons.mp inFields with rfl | later
        · exact ⟨_, List.mem_cons_self, own⟩
        · obtain ⟨doc, member, holds⟩ := ih later
          exact ⟨doc, List.mem_cons_of_mem _ member, holds⟩
    obtain ⟨doc, member, holds⟩ := written
    exact ⟨doc, single_of_mem distinct (all member), holds⟩

end TaskQueue.Json
