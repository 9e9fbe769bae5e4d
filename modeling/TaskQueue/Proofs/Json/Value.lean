import TaskQueue.Json.Meaning
import TaskQueue.Proofs.Json.Document

/-!
# Values written and kept

Results:
1. `Numeral.integer?_ofInt`: the integers of 64 bits, signed or unsigned, are read as they are
   written.
2. `Value.Exact.keep?_doc`: a value without floats is kept from its own document if and only if it
   nests no deeper than allowed.
3. `Value.Exact.writable`: its document is read from the text that is written for it.
4. `Doc.isSome_keep?_iff`: the documents that are kept.
-/

namespace TaskQueue.Json

/-! ## 1. Integers -/

theorem natOfDigits_append (digits : List Digit) (d : Digit) :
    natOfDigits (digits ++ [d]) = 10 * natOfDigits digits + d.val := by
  simp [natOfDigits]

/-- The digits of a number denote it, and only zero begins with a zero. -/
theorem digitsOfNat_spec (n : Nat) :
    natOfDigits (digitsOfNat n) = n ∧
      (n ≠ 0 → ∃ d others, digitsOfNat n = d :: others ∧ d.val ≠ 0) := by
  induction n using Nat.strongRecOn with
  | _ n ih =>
    rw [digitsOfNat]
    split
    · next small =>
      refine ⟨?_, fun positive => ⟨_, _, rfl, ?_⟩⟩
      · simp [natOfDigits, Nat.mod_eq_of_lt small]
      · rwa [Fin.val_ofNat, Nat.mod_eq_of_lt small]
    · next large =>
      obtain ⟨value, starts⟩ := ih (n / 10) (by omega)
      obtain ⟨d, others, same, positive⟩ := starts (by omega)
      refine ⟨?_, fun _ => ⟨d, others ++ [Fin.ofNat 10 n], ?_, positive⟩⟩
      · rw [natOfDigits_append, value, Fin.val_ofNat]
        omega
      · rw [same, List.cons_append]

theorem isWhole_digitsOfNat (n : Nat) : IsWhole (digitsOfNat n) := by
  by_cases zero : n = 0
  · rw [zero, digitsOfNat]
    exact .inl ⟨_, rfl, rfl⟩
  · exact .inr ((digitsOfNat_spec n).2 zero)

/-- The integers that 64 bits hold, signed or unsigned. -/
def FitsWord (i : Int) : Prop :=
  -((wordLimit / 2 : Nat) : Int) ≤ i ∧ i < wordLimit

namespace Numeral

theorem integer?_ofInt {i : Int} (fits : FitsWord i) : (ofInt i).integer? = some i := by
  obtain ⟨low, high⟩ := fits
  have value := (digitsOfNat_spec i.natAbs).1
  unfold integer?
  simp only [ofInt, isPlain, List.isEmpty_nil, Option.isNone_none, Bool.and_self, value,
    Bool.not_true, Bool.false_eq_true, if_false, decide_eq_true_eq]
  split
  · rw [if_pos (by omega)]
    congr 1
    omega
  · rw [if_pos (by omega)]
    congr 1
    omega

theorem value?_ofInt {i : Int} (fits : FitsWord i) : (ofInt i).value? = some (.integer i) := by
  rw [value?, integer?_ofInt fits]

theorem spells_ofInt (i : Int) : (ofInt i).Spells (ofInt i).write :=
  spells_write (isWhole_digitsOfNat _) nofun

end Numeral

/-! ## 2. Members in order -/

section members

variable {α : Type}

/-- A member whose key comes after all others is put last. -/
theorem insertMember_last {members : List (String × α)} {key : String} (value : α)
    (last : ∀ m ∈ members, m.1 < key) :
    insertMember key value members = members ++ [(key, value)] := by
  induction members with
  | nil => rfl
  | cons m members ih =>
    obtain ⟨own, later⟩ := List.forall_mem_cons.mp last
    rw [insertMember, if_neg (String.lt_asymm own), if_neg (String.ne_of_lt own).symm, ih later,
      List.cons_append]

theorem foldl_insertMember (front members : List (String × α))
    (sorted : (front ++ members).Pairwise fun m n => m.1 < n.1) :
    members.foldl (fun sorted m => insertMember m.1 m.2 sorted) front = front ++ members := by
  induction members generalizing front with
  | nil => simp
  | cons m members ih =>
    have last := fun n inFront =>
      (List.pairwise_append.mp sorted).2.2 n inFront m List.mem_cons_self
    rw [List.foldl_cons, insertMember_last m.2 last, ih]
    · simp
    · simpa using sorted

/-- Members in order stay as they are. -/
theorem sortMembers_eq {members : List (String × α)}
    (sorted : members.Pairwise fun m n => m.1 < n.1) : sortMembers members = members :=
  foldl_insertMember [] members sorted

end members

/-! ## 3. Values without floats -/

/-- A value as a reader makes one, in which every number is an integer. -/
inductive Value.Exact : Value → Prop
  | null : Exact .null
  | bool (b : Bool) : Exact (.bool b)
  | integer {i : Int} : FitsWord i → Exact (.integer i)
  | string (s : String) : Exact (.string s)
  | array {items : List Value} : (∀ v ∈ items, Exact v) → Exact (.array items)
  | object {members : List (String × Value)} : (members.Pairwise fun m n => m.1 < n.1) →
      (∀ m ∈ members, Exact m.2) → Exact (.object members)

namespace Value

theorem keepItems?_docs {items : List Value} {levels : Nat}
    (kept : ∀ v ∈ items, v.doc.keep? levels = if v.depth ≤ levels then some v else none) :
    Doc.keepItems? levels (itemDocs items) =
      if depthOfItems items ≤ levels then some items else none := by
  induction items with
  | nil => simp [itemDocs, Doc.keepItems?, depthOfItems]
  | cons v items ih =>
    obtain ⟨own, later⟩ := List.forall_mem_cons.mp kept
    rw [itemDocs, Doc.keepItems?, own, ih later, depthOfItems]
    by_cases first : v.depth ≤ levels <;> by_cases others : depthOfItems items ≤ levels <;>
      simp [first, others]

theorem keepMembers?_docs {members : List (String × Value)} {levels : Nat}
    (kept : ∀ m ∈ members,
      m.2.doc.keep? levels = if m.2.depth ≤ levels then some m.2 else none) :
    Doc.keepMembers? levels (memberDocs members) =
      if depthOfMembers members ≤ levels then some members else none := by
  induction members with
  | nil => simp [memberDocs, Doc.keepMembers?, depthOfMembers]
  | cons m members ih =>
    obtain ⟨own, later⟩ := List.forall_mem_cons.mp kept
    rw [memberDocs, Doc.keepMembers?, Text.string?_ofString, own, ih later, depthOfMembers]
    by_cases first : m.2.depth ≤ levels <;> by_cases others : depthOfMembers members ≤ levels <;>
      simp [first, others]

/-- The document of a value is kept as that value, unless it nests too deep. -/
theorem Exact.keep?_doc {v : Value} (exact : v.Exact) (levels : Nat) :
    v.doc.keep? levels = if v.depth ≤ levels then some v else none := by
  induction exact generalizing levels with
  | null => simp [doc, Doc.keep?, depth]
  | bool b => simp [doc, Doc.keep?, depth]
  | integer fits => simp [doc, Doc.keep?, depth, Numeral.value?_ofInt fits]
  | string s => simp [doc, Doc.keep?, depth]
  | array _ ih =>
    rw [doc, Doc.keep?, depth]
    cases levels with
    | zero => simp
    | succ levels =>
      rw [if_neg (Nat.succ_ne_zero levels), Nat.add_one_sub_one,
        keepItems?_docs fun v member => ih v member levels]
      simp only [Nat.add_comm 1, Nat.add_le_add_iff_right]
      split <;> rfl
  | object sorted _ ih =>
    rw [doc, Doc.keep?, depth]
    cases levels with
    | zero => simp
    | succ levels =>
      rw [if_neg (Nat.succ_ne_zero levels), Nat.add_one_sub_one,
        keepMembers?_docs fun m member => ih m member levels]
      simp only [Nat.add_comm 1, Nat.add_le_add_iff_right]
      split
      · simp [ofMembers, sortMembers_eq sorted]
      · rfl

theorem writable_itemDocs {items : List Value} (all : ∀ v ∈ items, v.doc.Writable) :
    ∀ d ∈ itemDocs items, d.Writable := by
  induction items with
  | nil => nofun
  | cons v items ih =>
    obtain ⟨own, later⟩ := List.forall_mem_cons.mp all
    exact List.forall_mem_cons.mpr ⟨own, ih later⟩

theorem writable_memberDocs {members : List (String × Value)}
    (all : ∀ m ∈ members, m.2.doc.Writable) :
    ∀ d ∈ memberDocs members, (∀ p ∈ d.1, Text.IsPlain p) ∧ d.2.Writable := by
  induction members with
  | nil => nofun
  | cons m members ih =>
    obtain ⟨own, later⟩ := List.forall_mem_cons.mp all
    exact List.forall_mem_cons.mpr ⟨⟨Text.isPlain_ofString m.1, own⟩, ih later⟩

theorem Exact.writable {v : Value} (exact : v.Exact) : v.doc.Writable := by
  induction exact with
  | null => exact Doc.writable_null
  | bool b => exact Doc.writable_bool b
  | integer _ => exact Doc.writable_number (Numeral.spells_ofInt _)
  | string s => exact Doc.writable_string (Text.isPlain_ofString s)
  | array _ ih => exact Doc.writable_array (writable_itemDocs ih)
  | object _ _ ih => exact Doc.writable_object (writable_memberDocs ih)

end Value

/-! ## 4. Documents that are kept -/

/-- A document that can be kept: its strings denote something, its numbers are in range, and its
arrays and objects nest no deeper than some levels. -/
inductive Doc.Sound : Doc → Nat → Prop
  | null {levels : Nat} : Sound .null levels
  | bool {levels : Nat} (b : Bool) : Sound (.bool b) levels
  | number {levels : Nat} {n : Numeral} : n.value?.isSome → Sound (.number n) levels
  | string {levels : Nat} {s : Text} {cs : List Char} : s.Denotes cs → Sound (.string s) levels
  | array {levels : Nat} {items : List Doc} : (∀ d ∈ items, Sound d levels) →
      Sound (.array items) (levels + 1)
  | object {levels : Nat} {members : List (Text × Doc)} : (∀ m ∈ members, ∃ cs, m.1.Denotes cs) →
      (∀ m ∈ members, Sound m.2 levels) → Sound (.object members) (levels + 1)

namespace Doc

theorem isSome_string? {s : Text} : (Text.string? s).isSome ↔ ∃ cs, s.Denotes cs := by
  rw [Option.isSome_iff_exists]
  constructor
  · rintro ⟨text, denotes⟩
    exact ⟨_, Text.string?_eq_some_iff.mp denotes⟩
  · rintro ⟨cs, denotes⟩
    refine ⟨String.ofList cs, Text.string?_eq_some_iff.mpr ?_⟩
    rwa [String.toList_ofList]

theorem isSome_keepItems? {levels : Nat} {items : List Doc} :
    (keepItems? levels items).isSome ↔ ∀ d ∈ items, (d.keep? levels).isSome := by
  induction items with
  | nil => simp [keepItems?]
  | cons item items ih =>
    rw [List.forall_mem_cons, ← ih, keepItems?]
    cases item.keep? levels <;> cases keepItems? levels items <;> simp

theorem isSome_keepMembers? {levels : Nat} {members : List (Text × Doc)} :
    (keepMembers? levels members).isSome ↔
      ∀ m ∈ members, (Text.string? m.1).isSome ∧ (m.2.keep? levels).isSome := by
  induction members with
  | nil => simp [keepMembers?]
  | cons m members ih =>
    rw [List.forall_mem_cons, ← ih, keepMembers?]
    cases Text.string? m.1 <;> cases m.2.keep? levels <;> cases keepMembers? levels members <;> simp

theorem Sound.isSome_keep? {levels : Nat} {doc : Doc} (sound : doc.Sound levels) :
    (doc.keep? levels).isSome := by
  induction sound with
  | null => rfl
  | bool b => rfl
  | number inRange => exact inRange
  | string denotes =>
    rw [keep?, Option.isSome_map]
    exact isSome_string?.mpr ⟨_, denotes⟩
  | array _ ih =>
    rw [keep?, if_neg (Nat.succ_ne_zero _), Option.isSome_map]
    exact isSome_keepItems?.mpr ih
  | object names _ ih =>
    rw [keep?, if_neg (Nat.succ_ne_zero _), Option.isSome_map]
    exact isSome_keepMembers?.mpr fun m member =>
      ⟨isSome_string?.mpr (names m member), ih m member⟩

mutual

theorem sound_of_keep? (doc : Doc) {levels : Nat} (kept : (doc.keep? levels).isSome) :
    doc.Sound levels := by
  cases doc with
  | null => exact .null
  | bool b => exact .bool b
  | number n => exact .number kept
  | string s =>
    rw [keep?, Option.isSome_map] at kept
    obtain ⟨cs, denotes⟩ := isSome_string?.mp kept
    exact .string denotes
  | array items =>
    cases levels with
    | zero => cases kept
    | succ levels =>
      rw [keep?, if_neg (Nat.succ_ne_zero _), Option.isSome_map] at kept
      exact .array (sound_items items (isSome_keepItems?.mp kept))
  | object members =>
    cases levels with
    | zero => cases kept
    | succ levels =>
      rw [keep?, if_neg (Nat.succ_ne_zero _), Option.isSome_map] at kept
      have each := isSome_keepMembers?.mp kept
      exact .object (fun m member => isSome_string?.mp (each m member).1)
        (sound_members members fun m member => (each m member).2)

theorem sound_items (items : List Doc) {levels : Nat}
    (kept : ∀ d ∈ items, (d.keep? levels).isSome) : ∀ d ∈ items, d.Sound levels := by
  cases items with
  | nil => nofun
  | cons item items =>
    obtain ⟨own, later⟩ := List.forall_mem_cons.mp kept
    exact List.forall_mem_cons.mpr ⟨sound_of_keep? item own, sound_items items later⟩

theorem sound_members (members : List (Text × Doc)) {levels : Nat}
    (kept : ∀ m ∈ members, (m.2.keep? levels).isSome) : ∀ m ∈ members, m.2.Sound levels := by
  cases members with
  | nil => nofun
  | cons m members =>
    obtain ⟨key, value⟩ := m
    obtain ⟨own, later⟩ := List.forall_mem_cons.mp kept
    exact List.forall_mem_cons.mpr ⟨sound_of_keep? value own, sound_members members later⟩

end

/-- A document is kept if and only if it is sound. -/
theorem isSome_keep?_iff {doc : Doc} {levels : Nat} :
    (doc.keep? levels).isSome ↔ doc.Sound levels :=
  ⟨sound_of_keep? doc, Sound.isSome_keep?⟩

end Doc

end TaskQueue.Json
