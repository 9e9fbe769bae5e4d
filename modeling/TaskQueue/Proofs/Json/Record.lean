import TaskQueue.Json.Record
import TaskQueue.Proofs.Json.Value

/-!
# Members by name

Results:
1. `members?_eq_some_iff`: the names of the members of an object.
2. `single?_eq_some_some_iff`, `single?_eq_some_none_iff`: a member is found where it is the only one
   of its name, and missing where there is none.
3. `record?_ofFields`: fields that are written under distinct names are found under them.
-/

namespace TaskQueue.Json

/-- Members with the names that they are written under. -/
def Named (members : List (Text × Doc)) (named : List (String × Doc)) : Prop :=
  List.Forall₂ (fun m n => m.1.Denotes n.1.toList ∧ m.2 = n.2) members named

/-- No member has the name. -/
def Lacks (name : String) (members : List (String × Doc)) : Prop :=
  ∀ m ∈ members, m.1 ≠ name

/-- One member has the name, and only one. -/
def Single (name : String) (value : Doc) (members : List (String × Doc)) : Prop :=
  ∃ front back, members = front ++ (name, value) :: back ∧ Lacks name front ∧ Lacks name back

namespace Doc

variable {name : String} {value : Doc} {members named : List (String × Doc)} {levels : Nat}

theorem mapM_eq_some_iff {α β : Type} {f : α → Option β} {xs : List α} {ys : List β} :
    xs.mapM f = some ys ↔ List.Forall₂ (fun x y => f x = some y) xs ys := by
  induction xs generalizing ys with
  | nil => simp [eq_comm]
  | cons x xs ih =>
    simp only [List.mapM_cons, Option.bind_eq_bind, Option.bind_eq_some_iff, Option.pure_def,
      Option.some.injEq, List.forall₂_cons_left_iff]
    constructor
    · rintro ⟨y, first, ys, later, rfl⟩
      exact ⟨y, ys, first, ih.mp later, rfl⟩
    · rintro ⟨y, ys, first, later, rfl⟩
      exact ⟨y, first, ys, ih.mpr later, rfl⟩

/-- The members of an object are those whose names denote something, in their order. -/
theorem members?_eq_some_iff {doc : Doc} : doc.members? levels = some named ↔
    levels ≠ 0 ∧ ∃ members, doc = .object members ∧ Named members named := by
  cases doc with
  | object members =>
    have names : (members.mapM fun m => (m.1.string?).map (·, m.2)) = some named ↔
        Named members named := by
      rw [mapM_eq_some_iff, Named]
      refine iff_of_eq (congrArg (List.Forall₂ · members named) ?_)
      funext m n
      rw [Option.map_eq_some_iff, eq_iff_iff]
      constructor
      · rintro ⟨text, denotes, rfl⟩
        exact ⟨Text.string?_eq_some_iff.mp denotes, rfl⟩
      · rintro ⟨denotes, same⟩
        exact ⟨n.1, Text.string?_eq_some_iff.mpr denotes, Prod.ext rfl same⟩
    by_cases none : levels = 0
    · simp [members?, none]
    · have opened : (Doc.object members).members? levels =
          members.mapM fun m => (m.1.string?).map (·, m.2) := if_neg none
      rw [opened, names]
      simp [none]
  | _ => simp [members?]

theorem lacks_iff : Lacks name members ↔ members.filter (·.1 = name) = [] := by
  simp [Lacks]

theorem single_iff :
    Single name value members ↔ members.filter (·.1 = name) = [(name, value)] := by
  rw [List.filter_eq_cons_iff]
  constructor
  · rintro ⟨front, back, rfl, before, after⟩
    refine ⟨front, back, rfl, ?_, decide_eq_true rfl, lacks_iff.mp after⟩
    simpa [Lacks] using before
  · rintro ⟨front, back, rfl, before, -, after⟩
    refine ⟨front, back, rfl, ?_, lacks_iff.mpr after⟩
    simpa [Lacks] using before

theorem single?_eq_some_none_iff :
    single? name members = some none ↔ Lacks name members := by
  rw [lacks_iff, single?]
  split
  · next none => simp [none]
  · next one => simp [one]
  · next none one => simpa using none

/-- A member is found where it is the only one of its name. -/
theorem single?_eq_some_some_iff :
    single? name members = some (some value) ↔ Single name value members := by
  rw [single_iff, single?]
  split
  · next none => simp [none]
  · next key found one =>
    have member : (key, found) ∈ members.filter (·.1 = name) := by simp [one]
    have same : key = name := by simpa using (List.mem_filter.mp member).2
    simp [one, same]
  · next none one =>
    simpa using one name value

theorem lacks_around {key : String} (other : key ≠ name) {front back : List (String × Doc)} :
    Lacks name (front ++ (key, value) :: back) ↔ Lacks name front ∧ Lacks name back := by
  simp only [Lacks, List.forall_mem_append, List.forall_mem_cons]
  exact ⟨fun ⟨before, _, after⟩ => ⟨before, after⟩, fun ⟨before, after⟩ => ⟨before, other, after⟩⟩

/-- The only member of a name stands on one side of a member of another name. -/
theorem single_around {key : String} (other : key ≠ name) {found : Doc}
    {front back : List (String × Doc)} :
    Single name found (front ++ (key, value) :: back) ↔
      (Lacks name front ∧ Single name found back) ∨ (Single name found front ∧ Lacks name back) := by
  simp only [single_iff, lacks_iff, List.filter_append, List.filter_cons, decide_eq_true_eq, other,
    if_false, List.append_eq_singleton_iff]

/-! ## Records -/

/-- Every field is found in the record that is made of distinct names and their values. -/
theorem mapM_single?_zip {names : List String} (distinct : names.Nodup) {values : List Doc}
    (lengths : names.length = values.length) (front : List (String × Doc))
    (fresh : ∀ name ∈ names, Lacks name front) :
    names.mapM (single? · (front ++ names.zip values)) = some (values.map some) := by
  induction names generalizing front values with
  | nil => cases values <;> first | rfl | cases lengths
  | cons name names ih =>
    cases values with
    | nil => cases lengths
    | cons value values =>
      obtain ⟨other, distinct⟩ := List.nodup_cons.mp distinct
      obtain ⟨before, fresh⟩ := List.forall_mem_cons.mp fresh
      have after : Lacks name (names.zip values) := by
        intro m member same
        exact other (same ▸ (List.of_mem_zip member).1)
      have found : single? name (front ++ (name, value) :: names.zip values) = some (some value) :=
        single?_eq_some_some_iff.mpr ⟨front, _, rfl, before, after⟩
      have fresh : ∀ next ∈ names, Lacks next (front ++ [(name, value)]) := by
        intro next member
        refine List.forall_mem_append.mpr ⟨fresh next member, List.forall_mem_singleton.mpr ?_⟩
        rintro rfl
        exact other member
      have later := ih distinct (Nat.succ_inj.mp lengths) (front ++ [(name, value)]) fresh
      rw [List.append_assoc, List.singleton_append] at later
      rw [List.zip_cons_cons, List.mapM_cons, found]
      simp [later]

theorem named_zip (names : List String) (values : List Doc) :
    Named ((names.map Text.ofString).zip values) (names.zip values) := by
  induction names generalizing values with
  | nil => exact .nil
  | cons name names ih =>
    cases values with
    | nil => exact .nil
    | cons value values => exact .cons ⟨Text.denotes_ofString name, rfl⟩ (ih values)

/-- Fields that are written under distinct names are found under them. -/
theorem record?_ofFields {names : List String} (distinct : names.Nodup) {values : List Doc}
    (lengths : names.length = values.length) (entered : levels ≠ 0) :
    record? names levels (.object ((names.map Text.ofString).zip values)) =
      some (values.map some) := by
  have members := members?_eq_some_iff.mpr ⟨entered, _, rfl, named_zip names values⟩
  have found := mapM_single?_zip distinct lengths [] fun _ _ => nofun
  rw [record?, members]
  · exact found
  · nofun

end Doc

end TaskQueue.Json
